import FreeNAS.Python.Int
import Mathlib.Data.List.Nodup

/-!
# Cron jobs of the middleware

`CronJobService.validate_data` checks the `dayweek` and `month` of a job by splitting them
at commas and reading each item with `int()`; an empty value and `*` are not read.  It
reports a bad `dayweek` under the attribute `weekday`.  `do_create` stores a request that
passes, `do_update` stores the stored job updated with the request when the result passes,
and `do_delete` drops a job.

What reaches the datastore is therefore what `int()` accepts, which is more than crontab
numerals: a sign, whitespace around an item, underscores between digits, and decimal
digits of any script.  `validateData_schedule_iff` gives the exact language, and
`CronStore.invariant_of_reachable` carries it over every run of the service.
-/

namespace FreeNAS.Middleware

open FreeNAS.Python

/-- The fields of a job `validate_data` reads; `none` is a key the request does not have. -/
structure CronJob where
  dayweek : Option String
  month : Option String
  user : Option String
  deriving DecidableEq, Repr

/-- Modelled from the spec: an entry of `ValidationErrors`, whose class is not under src/;
`verrors.add(attribute, errmsg)` records the attribute path and the message. -/
structure ValidationError where
  attr : String
  errmsg : String
  deriving DecidableEq, Repr

/-- `value.split(',')`: the pieces between commas, in order (`''.split(',')` is `['']`). -/
def splitComma (value : String) : List String := (value.data.splitOn ',').map String.mk

/-- The check `validate_data` makes of a comma-separated field: `int()` on every item (the
first `ValueError` ends it), then every value in `range(start, stop)`; both errors are
reported under `attr`. -/
def checkListField (attr invalid outOfRange : String) (start stop : Int)
    (value : Option String) : List ValidationError :=
  match value with
  | none => []
  | some value =>
      if value = "" ∨ value = "*" then []
      else
        match (splitComma value).mapM pyInt with
        | none => [⟨attr, invalid⟩]
        | some numbers =>
            if numbers.all fun n => start ≤ n ∧ n < stop then [] else [⟨attr, outOfRange⟩]

def CronJobService.checkDayweek (schema : String) (dayweek : Option String) :
    List ValidationError :=
  checkListField (schema ++ ".weekday") "Please specify valid week days"
    "The week days should be in range of 1-7 inclusive" 1 8 dayweek

def CronJobService.checkMonth (schema : String) (month : Option String) : List ValidationError :=
  checkListField (schema ++ ".month") "Please specify valid months"
    "The months should be in range of 1-12 inclusive" 1 13 month

/-- The user check; `userExists` answers `notifier.get_user_object`. -/
def CronJobService.checkUser (userExists : String → Bool) (schema : String)
    (user : Option String) : List ValidationError :=
  match user with
  | some user =>
      if user = "" then []
      else if ' ' ∈ user.data then [⟨schema ++ ".user", "Usernames cannot have spaces"⟩]
      else if !userExists user then [⟨schema ++ ".user", "Specified user does not exist"⟩]
      else []
  | none => []

/-- `CronJobService.validate_data`: its `ValidationErrors`, in order. -/
def CronJobService.validateData (userExists : String → Bool) (data : CronJob) (schema : String) :
    List ValidationError :=
  CronJobService.checkDayweek schema data.dayweek ++ CronJobService.checkMonth schema data.month ++
    CronJobService.checkUser userExists schema data.user

/-- What `checkListField` lets through: a falsy value, `*`, or items that `int()` reads into
`range(start, stop)`. -/
def ListFieldAccepted (start stop : Int) (value : String) : Prop :=
  value = "" ∨ value = "*" ∨ ∀ item ∈ splitComma value, ∃ n, pyInt item = some n ∧ start ≤ n ∧ n < stop

/-- The schedule fields of a job are what `validate_data` lets through. -/
def CronJob.ScheduleAccepted (job : CronJob) : Prop :=
  (∀ dayweek, job.dayweek = some dayweek → ListFieldAccepted 1 8 dayweek) ∧
    ∀ month, job.month = some month → ListFieldAccepted 1 13 month

theorem mapM_eq_some_all_iff {α β : Type} (f : α → Option β) (p : β → Prop) (xs : List α) :
    (∃ ys, xs.mapM f = some ys ∧ ∀ y ∈ ys, p y) ↔ ∀ x ∈ xs, ∃ y, f x = some y ∧ p y := by
  induction xs with
  | nil => exact ⟨fun _ x hx => absurd hx (List.not_mem_nil x), fun _ => ⟨[], rfl, by simp⟩⟩
  | cons x xs ih =>
      rw [List.mapM_cons, List.forall_mem_cons, ← ih]
      cases f x <;> cases xs.mapM f <;> simp

theorem checkListField_eq_nil_iff {attr invalid outOfRange : String} {start stop : Int}
    {value : Option String} :
    checkListField attr invalid outOfRange start stop value = [] ↔
      ∀ v, value = some v → ListFieldAccepted start stop v := by
  rcases value with _ | v
  · simp [checkListField]
  · by_cases skipped : v = "" ∨ v = "*"
    · simp [checkListField, skipped, ListFieldAccepted, ← or_assoc]
    · have accepted : ListFieldAccepted start stop v ↔
          ∃ ns, (splitComma v).mapM pyInt = some ns ∧ ∀ n ∈ ns, start ≤ n ∧ n < stop := by
        rw [mapM_eq_some_all_iff, ListFieldAccepted, ← or_assoc, or_iff_right skipped]
      simp only [checkListField, if_neg skipped, Option.some.injEq, forall_eq', accepted]
      cases (splitComma v).mapM pyInt <;> simp

theorem checkListField_cases {attr invalid outOfRange : String} {start stop : Int}
    {value : Option String} :
    checkListField attr invalid outOfRange start stop value ∈
      [[], [⟨attr, invalid⟩], [⟨attr, outOfRange⟩]] := by
  unfold checkListField
  split
  · simp
  · split_ifs
    · simp
    · split
      · simp
      · split_ifs <;> simp

theorem attr_of_mem_checkListField {attr invalid outOfRange : String} {start stop : Int}
    {value : Option String} {e : ValidationError}
    (h : e ∈ checkListField attr invalid outOfRange start stop value) : e.attr = attr := by
  have cases := @checkListField_cases attr invalid outOfRange start stop value
  simp only [List.mem_cons, List.not_mem_nil, or_false] at cases
  rcases cases with same | same | same <;> simp_all

theorem attr_of_mem_checkUser {userExists : String → Bool} {schema : String}
    {user : Option String} {e : ValidationError}
    (h : e ∈ CronJobService.checkUser userExists schema user) : e.attr = schema ++ ".user" := by
  unfold CronJobService.checkUser at h
  split at h
  · split_ifs at h <;> simp_all
  · cases h

theorem checkDayweek_eq_nil_iff (schema : String) {dayweek : Option String} :
    CronJobService.checkDayweek schema dayweek = [] ↔
      ∀ v, dayweek = some v → ListFieldAccepted 1 8 v :=
  checkListField_eq_nil_iff

theorem checkMonth_eq_nil_iff (schema : String) {month : Option String} :
    CronJobService.checkMonth schema month = [] ↔ ∀ v, month = some v → ListFieldAccepted 1 13 v :=
  checkListField_eq_nil_iff

theorem scheduleAccepted_iff (schema : String) (data : CronJob) :
    data.ScheduleAccepted ↔
      CronJobService.checkDayweek schema data.dayweek = [] ∧
        CronJobService.checkMonth schema data.month = [] := by
  rw [CronJob.ScheduleAccepted, checkDayweek_eq_nil_iff, checkMonth_eq_nil_iff]

theorem scheduleAccepted_of_validateData {userExists : String → Bool} {data : CronJob}
    {schema : String} (h : CronJobService.validateData userExists data schema = []) :
    data.ScheduleAccepted := by
  simp only [CronJobService.validateData, List.append_eq_nil] at h
  exact (scheduleAccepted_iff schema data).mpr h.1

theorem append_ne_append {s t u : String} (h : t.data ≠ u.data) : s ++ t ≠ s ++ u :=
  fun e => h (List.append_cancel_left (congrArg String.data e))

/-- `validate_data` reports nothing under `weekday` or `month` exactly when the request's
`dayweek` and `month` are absent, falsy, `*`, or comma lists that `int()` reads into
`1..7` and `1..12`. -/
theorem validateData_schedule_iff (userExists : String → Bool) (data : CronJob) (schema : String) :
    (∀ e ∈ CronJobService.validateData userExists data schema,
        e.attr ≠ schema ++ ".weekday" ∧ e.attr ≠ schema ++ ".month") ↔
      data.ScheduleAccepted := by
  rw [scheduleAccepted_iff schema]
  constructor
  · intro h
    refine ⟨List.eq_nil_iff_forall_not_mem.mpr fun e mem => ?_,
      List.eq_nil_iff_forall_not_mem.mpr fun e mem => ?_⟩
    · exact (h e (by simp [CronJobService.validateData, mem])).1 (attr_of_mem_checkListField mem)
    · exact (h e (by simp [CronJobService.validateData, mem])).2 (attr_of_mem_checkListField mem)
  · rintro ⟨dayweek, month⟩ e mem
    rw [CronJobService.validateData, dayweek, month, List.nil_append, List.nil_append] at mem
    rw [attr_of_mem_checkUser mem]
    exact ⟨append_ne_append (by decide), append_ne_append (by decide)⟩

/-- A plain ASCII decimal numeral. -/
def isCrontabNumeral (item : String) : Bool := !item.data.isEmpty && item.data.all isAsciiDigit

/-- A crontab field: `*`, or a comma-separated list of plain ASCII decimal numerals in the
range. -/
def IsCrontabField (start stop : Int) (value : String) : Prop :=
  value = "*" ∨
    ∀ item ∈ splitComma value,
      isCrontabNumeral item ∧ start ≤ digitsValue item.data ∧ (digitsValue item.data : Int) < stop

instance (start stop : Int) (value : String) : Decidable (IsCrontabField start stop value) :=
  inferInstanceAs (Decidable (_ ∨ _))

theorem listFieldAccepted_of_isCrontabField {start stop : Int} {value : String}
    (h : IsCrontabField start stop value) : ListFieldAccepted start stop value := by
  rcases h with star | items
  · exact .inr (.inl star)
  · refine .inr (.inr fun item mem => ?_)
    obtain ⟨numeral, low, high⟩ := items item mem
    simp only [isCrontabNumeral, Bool.and_eq_true, Bool.not_eq_true', List.isEmpty_eq_false,
      List.all_eq_true] at numeral
    exact ⟨_, pyInt_of_asciiDigits numeral.1 numeral.2, low, high⟩

/-- A request whose `dayweek` has a sign, a space and an Arabic-Indic digit, and whose
`month` has an underscore, passes `validate_data`, though neither field is a crontab field. -/
theorem validateData_accepts_signed_dayweek :
    CronJobService.validateData (fun _ => true) ⟨some "+1, ١", some "1_2", some "root"⟩
        "cron_job_create" = [] ∧
      ¬ IsCrontabField 1 8 "+1, ١" ∧ ¬ IsCrontabField 1 13 "1_2" :=
  ⟨by decide, by decide, by decide⟩

/-- Every crontab field passes the `dayweek` and the `month` check. -/
theorem crontabFields_pass_checks (schema : String) {dayweek month : String}
    (validDayweek : IsCrontabField 1 8 dayweek) (validMonth : IsCrontabField 1 13 month) :
    CronJobService.checkDayweek schema (some dayweek) = [] ∧
      CronJobService.checkMonth schema (some month) = [] :=
  ⟨(checkDayweek_eq_nil_iff schema).mpr fun _ h =>
      Option.some.inj h ▸ listFieldAccepted_of_isCrontabField validDayweek,
    (checkMonth_eq_nil_iff schema).mpr fun _ h =>
      Option.some.inj h ▸ listFieldAccepted_of_isCrontabField validMonth⟩

theorem crontabFields_pass_checks_weekend :
    IsCrontabField 1 8 "6,7" ∧ IsCrontabField 1 13 "1,12" ∧
      (CronJobService.checkDayweek "cron_job_create" (some "6,7") = [] ∧
        CronJobService.checkMonth "cron_job_create" (some "1,12") = []) :=
  ⟨by decide, by decide, crontabFields_pass_checks "cron_job_create" (by decide) (by decide)⟩

/-- The `tasks.cronjob` table: jobs by id, and the next id `datastore.insert` gives. -/
structure CronStore where
  jobs : List (Nat × CronJob)
  nextId : Nat
  deriving DecidableEq, Repr

/-- Why a call fails: its validation errors, or a missing job. -/
inductive CronError where
  | invalid (errors : List ValidationError)
  | notFound (id : Nat)
  deriving DecidableEq, Repr

/-- `task_data.update(data)`: the request's keys over the stored job's. -/
def CronJob.update (stored data : CronJob) : CronJob :=
  ⟨data.dayweek <|> stored.dayweek, data.month <|> stored.month, data.user <|> stored.user⟩

def CronJobService.doCreate (userExists : String → Bool) (store : CronStore) (data : CronJob) :
    Except CronError CronStore :=
  match CronJobService.validateData userExists data "cron_job_create" with
  | [] => .ok ⟨store.jobs ++ [(store.nextId, data)], store.nextId + 1⟩
  | errors => .error (.invalid errors)

/-- The stored job `id` replaced by `job`. -/
def CronStore.put (store : CronStore) (id : Nat) (job : CronJob) : CronStore :=
  { store with jobs := store.jobs.map fun row => if row.1 = id then (id, job) else row }

/-- `do_update`; writing an unchanged job, which the source skips, leaves the table as it is. -/
def CronJobService.doUpdate (userExists : String → Bool) (store : CronStore) (id : Nat)
    (data : CronJob) : Except CronError CronStore :=
  match store.jobs.lookup id with
  | none => .error (.notFound id)
  | some stored =>
      match CronJobService.validateData userExists (stored.update data) "cron_job_update" with
      | [] => .ok (store.put id (stored.update data))
      | errors => .error (.invalid errors)

def CronJobService.doDelete (store : CronStore) (id : Nat) : CronStore :=
  { store with jobs := store.jobs.filter fun row => row.1 ≠ id }

/-- A call on the service. -/
inductive CronCall where
  | create (data : CronJob)
  | update (id : Nat) (data : CronJob)
  | delete (id : Nat)
  deriving DecidableEq, Repr

/-- One call: the store it leaves (a failed call leaves the store as it was). -/
def CronCall.run (userExists : String → Bool) (store : CronStore) : CronCall → CronStore
  | .create data =>
      match CronJobService.doCreate userExists store data with
      | .ok store' => store'
      | .error _ => store
  | .update id data =>
      match CronJobService.doUpdate userExists store id data with
      | .ok store' => store'
      | .error _ => store
  | .delete id => CronJobService.doDelete store id

/-- The stores a run of calls reaches from an empty table. -/
inductive CronStore.Reachable (userExists : String → Bool) : CronStore → Prop
  | empty (nextId : Nat) : CronStore.Reachable userExists ⟨[], nextId⟩
  | call {store : CronStore} (c : CronCall) :
      CronStore.Reachable userExists store → CronStore.Reachable userExists (c.run userExists store)

theorem doCreate_eq_ok {userExists : String → Bool} {store store' : CronStore} {data : CronJob}
    (h : CronJobService.doCreate userExists store data = .ok store') :
    CronJobService.validateData userExists data "cron_job_create" = [] ∧
      store' = ⟨store.jobs ++ [(store.nextId, data)], store.nextId + 1⟩ := by
  unfold CronJobService.doCreate at h
  split at h
  · cases h
    exact ⟨‹_›, rfl⟩
  · cases h

theorem doUpdate_eq_ok {userExists : String → Bool} {store store' : CronStore} {id : Nat}
    {data : CronJob} (h : CronJobService.doUpdate userExists store id data = .ok store') :
    ∃ stored, store.jobs.lookup id = some stored ∧
      CronJobService.validateData userExists (stored.update data) "cron_job_update" = [] ∧
      store' = store.put id (stored.update data) := by
  unfold CronJobService.doUpdate at h
  split at h
  · cases h
  · split at h
    · cases h
      exact ⟨_, ‹_›, ‹_›, rfl⟩
    · cases h

/-- Every stored job passed `validate_data`'s schedule checks, and ids are distinct and below
the next one. -/
structure CronStore.Invariant (store : CronStore) : Prop where
  idsNodup : (store.jobs.map Prod.fst).Nodup
  idsBelow : ∀ row ∈ store.jobs, row.1 < store.nextId
  accepted : ∀ row ∈ store.jobs, row.2.ScheduleAccepted

theorem CronStore.Invariant.create {store : CronStore} {data : CronJob}
    (inv : store.Invariant) (accepted : data.ScheduleAccepted) :
    CronStore.Invariant ⟨store.jobs ++ [(store.nextId, data)], store.nextId + 1⟩ where
  idsNodup := by
    rw [List.map_append]
    refine inv.idsNodup.append (List.nodup_singleton _) (List.disjoint_singleton.mpr ?_)
    intro mem
    obtain ⟨row, mem, same⟩ := List.mem_map.mp mem
    exact absurd (inv.idsBelow row mem) (by omega)
  idsBelow row mem := by
    rcases List.mem_append.mp mem with old | new
    · exact Nat.lt_succ_of_lt (inv.idsBelow row old)
    · simp_all
  accepted row mem := by
    rcases List.mem_append.mp mem with old | new
    · exact inv.accepted row old
    · simp_all

theorem CronStore.put_ids (store : CronStore) (id : Nat) (job : CronJob) :
    (store.put id job).jobs.map Prod.fst = store.jobs.map Prod.fst := by
  rw [CronStore.put, List.map_map]
  exact List.map_congr_left fun row _ => by dsimp only [Function.comp]; split <;> simp_all

theorem CronStore.Invariant.put {store : CronStore} {id : Nat} {job : CronJob}
    (inv : store.Invariant) (accepted : job.ScheduleAccepted) : (store.put id job).Invariant where
  idsNodup := by rw [CronStore.put_ids]; exact inv.idsNodup
  idsBelow row mem := by
    have key : row.1 ∈ store.jobs.map Prod.fst := by
      rw [← CronStore.put_ids store id job]; exact List.mem_map_of_mem _ mem
    obtain ⟨old, oldMem, same⟩ := List.mem_map.mp key
    exact same ▸ inv.idsBelow old oldMem
  accepted row mem := by
    obtain ⟨old, oldMem, rfl⟩ := List.mem_map.mp mem
    split
    · exact accepted
    · exact inv.accepted old oldMem

theorem CronStore.Invariant.delete {store : CronStore} (inv : store.Invariant) (id : Nat) :
    (CronJobService.doDelete store id).Invariant where
  idsNodup := inv.idsNodup.sublist ((List.filter_sublist _).map _)
  idsBelow row mem := inv.idsBelow row (List.mem_of_mem_filter mem)
  accepted row mem := inv.accepted row (List.mem_of_mem_filter mem)

/-- One call keeps the invariant. -/
theorem CronStore.Invariant.run {userExists : String → Bool} {store : CronStore}
    (inv : store.Invariant) (c : CronCall) : (c.run userExists store).Invariant := by
  cases c with
  | create data =>
      cases h : CronJobService.doCreate userExists store data with
      | error => simpa [CronCall.run, h] using inv
      | ok store' =>
          obtain ⟨valid, rfl⟩ := doCreate_eq_ok h
          simpa [CronCall.run, h] using inv.create (scheduleAccepted_of_validateData valid)
  | update id data =>
      cases h : CronJobService.doUpdate userExists store id data with
      | error => simpa [CronCall.run, h] using inv
      | ok store' =>
          obtain ⟨stored, -, valid, rfl⟩ := doUpdate_eq_ok h
          simpa [CronCall.run, h] using inv.put (scheduleAccepted_of_validateData valid)
  | delete id => exact inv.delete id

/-- Every store the service reaches holds only jobs whose `dayweek` and `month` passed
`validate_data`, under distinct ids. -/
theorem CronStore.invariant_of_reachable {userExists : String → Bool} {store : CronStore}
    (h : CronStore.Reachable userExists store) : store.Invariant := by
  induction h with
  | empty nextId => exact ⟨List.nodup_nil, nofun, nofun⟩
  | call c _ ih => exact ih.run c

theorem invariant_after_signed_create :
    CronStore.Reachable (fun _ => true)
        ((CronCall.create ⟨some "+1, ١", some "1_2", some "root"⟩).run (fun _ => true) ⟨[], 1⟩) ∧
      CronStore.Invariant
        ((CronCall.create ⟨some "+1, ١", some "1_2", some "root"⟩).run (fun _ => true) ⟨[], 1⟩) :=
  have reached : CronStore.Reachable (fun _ => true)
      ((CronCall.create ⟨some "+1, ١", some "1_2", some "root"⟩).run (fun _ => true) ⟨[], 1⟩) :=
    .call _ (.empty 1)
  ⟨reached, CronStore.invariant_of_reachable reached⟩

end FreeNAS.Middleware
