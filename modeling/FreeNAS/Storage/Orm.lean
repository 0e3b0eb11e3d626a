import FreeNAS.Storage.VdevForm

/-!
# Volume and scrub rows, and the frame of a form's `save`

The storage forms persist two tables this development follows: `Volume` rows and the
`Scrub` row each volume gets for its scrub task, which points at its volume.  A `Db`
holds both tables and the next primary key of each; `Db.WellFormed` is what the
database guarantees of them (keys below the counters, every scrub pointing at a
volume) and every operation below keeps it.

`save` and `done` run as programs of `Py`: a state of the rows, the Python locals the
`except` handler reads, the calls already sent to the notifier, and the number of ORM
and notifier calls attempted so far.  Whether the `n`-th call raises is an arbitrary
`fails : Nat → Bool`, so every failure point of a run is covered by one choice of it.
-/

namespace FreeNAS.Storage

/-- A row of the volume table. -/
structure Volume where
  pk : Nat
  volName : String
  volEncrypt : Nat
  deriving DecidableEq, Repr

/-- A row of the scrub table; `scrubVolume` is the key of its volume. -/
structure Scrub where
  pk : Nat
  scrubVolume : Nat
  deriving DecidableEq, Repr

structure Db where
  volumes : List Volume
  scrubs : List Scrub
  nextVolumePk : Nat
  nextScrubPk : Nat
  deriving DecidableEq, Repr

/-- What the database guarantees of its rows. -/
structure Db.WellFormed (db : Db) : Prop where
  volumePkBelow : ∀ volume ∈ db.volumes, volume.pk < db.nextVolumePk
  scrubPkBelow : ∀ scrub ∈ db.scrubs, scrub.pk < db.nextScrubPk
  scrubHasVolume : ∀ scrub ∈ db.scrubs, ∃ volume ∈ db.volumes, volume.pk = scrub.scrubVolume

/-- `Volume.objects.filter(vol_name=name)`. -/
def Db.volumesNamed (db : Db) (name : String) : List Volume :=
  db.volumes.filter fun volume => volume.volName = name

/-- Inserting a volume row under the next key. -/
def Db.insertVolume (db : Db) (volName : String) (volEncrypt : Nat) : Db :=
  { db with
    volumes := db.volumes ++ [⟨db.nextVolumePk, volName, volEncrypt⟩]
    nextVolumePk := db.nextVolumePk + 1 }

/-- Writing an instance back to its row. -/
def Db.updateVolume (db : Db) (volume : Volume) : Db :=
  { db with volumes := db.volumes.map fun row => if row.pk = volume.pk then volume else row }

/-- Modelled from the spec: `Volume.delete` lives in `models.py`, outside the sources;
the ORM deletes the row and, through the foreign key, the scrub rows pointing at it. -/
def Db.deleteVolume (db : Db) (pk : Nat) : Db :=
  { db with
    volumes := db.volumes.filter fun volume => volume.pk ≠ pk
    scrubs := db.scrubs.filter fun scrub => scrub.scrubVolume ≠ pk }

/-- `Scrub.objects.create(scrub_volume=volume)`. -/
def Db.insertScrub (db : Db) (volumePk : Nat) : Db :=
  { db with
    scrubs := db.scrubs ++ [⟨db.nextScrubPk, volumePk⟩]
    nextScrubPk := db.nextScrubPk + 1 }

def Db.deleteScrub (db : Db) (pk : Nat) : Db :=
  { db with scrubs := db.scrubs.filter fun scrub => scrub.pk ≠ pk }

namespace Db.WellFormed

variable {db : Db}

theorem insertVolume (wf : db.WellFormed) (volName : String) (volEncrypt : Nat) :
    (db.insertVolume volName volEncrypt).WellFormed where
  volumePkBelow volume member := by
    simp only [Db.insertVolume, List.mem_append, List.mem_singleton] at member ⊢
    rcases member with member | rfl
    · exact Nat.lt_succ_of_lt (wf.volumePkBelow volume member)
    · exact Nat.lt_succ_self _
  scrubPkBelow := wf.scrubPkBelow
  scrubHasVolume scrub member := by
    obtain ⟨volume, volumeMember, points⟩ := wf.scrubHasVolume scrub member
    exact ⟨volume, List.mem_append_left _ volumeMember, points⟩

theorem insertScrub (wf : db.WellFormed) {volume : Volume} (member : volume ∈ db.volumes) :
    (db.insertScrub volume.pk).WellFormed where
  volumePkBelow := wf.volumePkBelow
  scrubPkBelow scrub scrubMember := by
    simp only [Db.insertScrub, List.mem_append, List.mem_singleton] at scrubMember ⊢
    rcases scrubMember with scrubMember | rfl
    · exact Nat.lt_succ_of_lt (wf.scrubPkBelow scrub scrubMember)
    · exact Nat.lt_succ_self _
  scrubHasVolume scrub scrubMember := by
    simp only [Db.insertScrub, List.mem_append, List.mem_singleton] at scrubMember
    rcases scrubMember with scrubMember | rfl
    · exact wf.scrubHasVolume scrub scrubMember
    · exact ⟨volume, member, rfl⟩

theorem deleteVolume (wf : db.WellFormed) (pk : Nat) : (db.deleteVolume pk).WellFormed where
  volumePkBelow volume member := wf.volumePkBelow volume (List.mem_of_mem_filter member)
  scrubPkBelow scrub member := wf.scrubPkBelow scrub (List.mem_of_mem_filter member)
  scrubHasVolume scrub member := by
    simp only [Db.deleteVolume, List.mem_filter, decide_eq_true_eq] at member ⊢
    obtain ⟨volume, volumeMember, points⟩ := wf.scrubHasVolume scrub member.1
    exact ⟨volume, ⟨volumeMember, points ▸ member.2⟩, points⟩

theorem deleteScrub (wf : db.WellFormed) (pk : Nat) : (db.deleteScrub pk).WellFormed where
  volumePkBelow := wf.volumePkBelow
  scrubPkBelow scrub member := wf.scrubPkBelow scrub (List.mem_of_mem_filter member)
  scrubHasVolume scrub member := wf.scrubHasVolume scrub (List.mem_of_mem_filter member)

end Db.WellFormed

theorem Db.deleteVolume_insertVolume {db : Db} (wf : db.WellFormed) (volName : String)
    (volEncrypt : Nat) :
    ((db.insertVolume volName volEncrypt).deleteVolume db.nextVolumePk).volumes = db.volumes ∧
      ((db.insertVolume volName volEncrypt).deleteVolume db.nextVolumePk).scrubs = db.scrubs := by
  constructor
  · simp only [Db.deleteVolume, Db.insertVolume, List.filter_append]
    rw [List.filter_eq_self.mpr fun volume member =>
      decide_eq_true (Nat.ne_of_lt (wf.volumePkBelow volume member))]
    simp
  · simp only [Db.deleteVolume, Db.insertVolume]
    refine List.filter_eq_self.mpr fun scrub member => decide_eq_true fun points => ?_
    obtain ⟨volume, volumeMember, pointsAt⟩ := wf.scrubHasVolume scrub member
    exact Nat.ne_of_lt (wf.volumePkBelow volume volumeMember) (pointsAt.trans points)

/-- A `Volume` instance: `pk` stays `none` until the instance is saved. -/
structure VolumeObj where
  pk : Option Nat
  volName : String
  volEncrypt : Nat
  deriving DecidableEq, Repr

def Volume.toObj (volume : Volume) : VolumeObj := ⟨some volume.pk, volume.volName, volume.volEncrypt⟩

/-- The locals `volume`, `scrub` and `add`; `add` is unbound until assigned. -/
structure Frame where
  volume : Option VolumeObj
  scrub : Option Scrub
  add : Option Bool
  deriving DecidableEq, Repr

/-- The calls the forms make on `notifier()`. -/
inductive NotifierCall where
  | zfsVolumeAttachGroup (volName : String) (group : VdevGroup)
  | createVolume (volName : String) (groups : List VdevGroup) (initRand : Bool)
  | zfsSetOption (name item value : String)
  | zpoolEnclosureSync (volName : String)
  | geliPassphrase (volName : String)
  | syncFileSend (volName : String)
  | reload (service : String)
  | start (service : String)
  | restart (service : String)
  deriving DecidableEq, Repr

structure PyState where
  db : Db
  frame : Frame
  attempts : Nat
  sent : List NotifierCall
  deriving DecidableEq, Repr

inductive PyError where
  | raised (attempt : Nat)
  | unboundLocal (name : String)
  | unsavedInstance
  | noneAttribute (name : String)
  deriving DecidableEq, Repr

abbrev Py := EStateM PyError PyState

/-- An ORM or notifier call: the `attempts`-th external call, raising when `fails` says. -/
def external (fails : Nat → Bool) : Py Unit := fun s =>
  if fails s.attempts then .error (.raised s.attempts) { s with attempts := s.attempts + 1 }
  else .ok () { s with attempts := s.attempts + 1 }

/-- A call on `notifier()`; it changes no row. -/
def notify (fails : Nat → Bool) (call : NotifierCall) : Py Unit :=
  external fails *> modify fun s => { s with sent := s.sent ++ [call] }

def setFrame (frame : Frame) : Py Unit := modify fun s => { s with frame := frame }

/-- An assignment to an attribute of the instance the frame holds. -/
def setVolume (volume : VolumeObj) : Py Unit :=
  modify fun s => { s with frame := { s.frame with volume := some volume } }

@[simp] theorem setFrame_seqRight {α : Type} (frame : Frame) (x : Py α) (s : PyState) :
    (setFrame frame *> x) s = x { s with frame := frame } := rfl

/-- `Volume.objects.filter(vol_name=name)` with its count. -/
def filterVolumes (fails : Nat → Bool) (name : String) : Py (List Volume) :=
  external fails *> fun s => .ok (s.db.volumesNamed name) s

/-- `volume.save()` of the instance in the frame: an insert for a new instance, an update
otherwise. -/
def saveVolume (fails : Nat → Bool) : Py Unit :=
  external fails *> fun s =>
    match s.frame.volume with
    | some ⟨none, volName, volEncrypt⟩ =>
        .ok () { s with
          db := s.db.insertVolume volName volEncrypt
          frame := { s.frame with volume := some ⟨some s.db.nextVolumePk, volName, volEncrypt⟩ } }
    | some ⟨some pk, volName, volEncrypt⟩ =>
        .ok () { s with db := s.db.updateVolume ⟨pk, volName, volEncrypt⟩ }
    | none => .ok () s

/-- `scrub = Scrub.objects.create(scrub_volume=volume)`. -/
def createScrub (fails : Nat → Bool) : Py Unit :=
  external fails *> fun s =>
    match s.frame.volume with
    | some ⟨some pk, _, _⟩ =>
        .ok () { s with
          db := s.db.insertScrub pk
          frame := { s.frame with scrub := some ⟨s.db.nextScrubPk, pk⟩ } }
    | _ => .error .unsavedInstance s

/-- `volume.delete(destroy=False, cascade=False)`. -/
def deleteVolumeObj (volume : VolumeObj) : Py Unit := fun s =>
  match volume.pk with
  | some pk => .ok () { s with db := s.db.deleteVolume pk }
  | none => .error .unsavedInstance s

/-- `scrub.delete()`. -/
def deleteScrubRow (scrub : Scrub) : Py Unit :=
  modify fun s => { s with db := s.db.deleteScrub scrub.pk }

theorem seqRight_eq_error {α β : Type} {x : Py α} {y : Py β} {s s' : PyState} {e : PyError} :
    (x *> y) s = .error e s' ↔ x s = .error e s' ∨ ∃ a s₁, x s = .ok a s₁ ∧ y s₁ = .error e s' := by
  simp only [SeqRight.seqRight, EStateM.seqRight]
  cases x s <;> simp [and_assoc]

theorem seqRight_eq_ok {α β : Type} {x : Py α} {y : Py β} {s s' : PyState} {b : β} :
    (x *> y) s = .ok b s' ↔ ∃ a s₁, x s = .ok a s₁ ∧ y s₁ = .ok b s' := by
  simp only [SeqRight.seqRight, EStateM.seqRight]
  cases x s <;> simp [and_assoc]

theorem bind_eq_error {α β : Type} {x : Py α} {f : α → Py β} {s s' : PyState} {e : PyError} :
    (x >>= f) s = .error e s' ↔ x s = .error e s' ∨ ∃ a s₁, x s = .ok a s₁ ∧ f a s₁ = .error e s' := by
  simp only [bind, EStateM.bind]
  cases x s <;> simp [and_assoc]

theorem bind_eq_ok {α β : Type} {x : Py α} {f : α → Py β} {s s' : PyState} {b : β} :
    (x >>= f) s = .ok b s' ↔ ∃ a s₁, x s = .ok a s₁ ∧ f a s₁ = .ok b s' := by
  simp only [bind, EStateM.bind]
  cases x s <;> simp [and_assoc]

theorem tryCatch_eq_error {α : Type} {x : Py α} {handler : PyError → Py α} {s s' : PyState}
    {e : PyError} :
    tryCatch x handler s = .error e s' ↔
      ∃ e₁ s₁, x s = .error e₁ s₁ ∧ handler e₁ s₁ = .error e s' := by
  show EStateM.tryCatch x handler s = _ ↔ _
  simp only [EStateM.tryCatch]
  cases x s <;> simp [EStateM.dummyRestore, EStateM.nonBacktrackable, and_assoc]

theorem tryCatch_of_ok {α : Type} {x : Py α} {handler : PyError → Py α} {s s' : PyState} {a : α}
    (run : x s = .ok a s') : tryCatch x handler s = .ok a s' := by
  show EStateM.tryCatch x handler s = _
  simp only [EStateM.tryCatch, run]

theorem rethrow_eq_error {x : Py Unit} {s s' : PyState} {e e' : PyError} :
    (x *> (throw e : Py Unit)) s = .error e' s' ↔ (x s = .ok () s' ∧ e' = e) ∨ x s = .error e' s' := by
  simp only [SeqRight.seqRight, EStateM.seqRight]
  cases x s <;> simp [throw, throwThe, MonadExceptOf.throw, EStateM.throw, eq_comm, and_comm]

theorem external_eq_ok {fails : Nat → Bool} {s s' : PyState} {a : Unit} :
    external fails s = .ok a s' ↔ fails s.attempts = false ∧ s' = { s with attempts := s.attempts + 1 } := by
  unfold external
  split_ifs with failing <;> simp [failing, eq_comm]

theorem external_eq_error {fails : Nat → Bool} {s s' : PyState} {e : PyError} :
    external fails s = .error e s' ↔
      fails s.attempts = true ∧ e = .raised s.attempts ∧ s' = { s with attempts := s.attempts + 1 } := by
  unfold external
  split_ifs with failing <;> simp [failing, eq_comm]

theorem afterExternal_eq_error {α : Type} {fails : Nat → Bool} {body : Py α} {s s' : PyState}
    {e : PyError} :
    (external fails *> body) s = .error e s' ↔
      external fails s = .error e s' ∨
        fails s.attempts = false ∧ body { s with attempts := s.attempts + 1 } = .error e s' := by
  simp [seqRight_eq_error, external_eq_ok, and_assoc]

theorem afterExternal_eq_ok {α : Type} {fails : Nat → Bool} {body : Py α} {s s' : PyState}
    {a : α} :
    (external fails *> body) s = .ok a s' ↔
      fails s.attempts = false ∧ body { s with attempts := s.attempts + 1 } = .ok a s' := by
  simp [seqRight_eq_ok, external_eq_ok, and_assoc]

theorem filterVolumes_eq_ok {fails : Nat → Bool} {name : String} {s s' : PyState}
    {vols : List Volume} :
    filterVolumes fails name s = .ok vols s' ↔
      fails s.attempts = false ∧ vols = s.db.volumesNamed name ∧
        s' = { s with attempts := s.attempts + 1 } := by
  rw [filterVolumes, afterExternal_eq_ok, EStateM.Result.ok.injEq, @eq_comm _ _ vols, @eq_comm _ _ s']

theorem filterVolumes_eq_error {fails : Nat → Bool} {name : String} {s s' : PyState}
    {e : PyError} :
    filterVolumes fails name s = .error e s' ↔ external fails s = .error e s' := by
  simp [filterVolumes, afterExternal_eq_error]

/-- `volume.save()` raises only at the call itself. -/
theorem saveVolume_eq_error {fails : Nat → Bool} {s s' : PyState} {e : PyError} :
    saveVolume fails s = .error e s' ↔ external fails s = .error e s' := by
  rw [saveVolume, afterExternal_eq_error, or_iff_left_iff_imp]
  rintro ⟨-, run⟩
  split at run <;> cases run

theorem saveVolume_eq_ok_of_unsaved {fails : Nat → Bool} {s s' : PyState} {volName : String}
    {volEncrypt : Nat} (unsaved : s.frame.volume = some ⟨none, volName, volEncrypt⟩)
    (run : saveVolume fails s = .ok () s') :
    s'.db = s.db.insertVolume volName volEncrypt ∧
      s'.frame = { s.frame with volume := some ⟨some s.db.nextVolumePk, volName, volEncrypt⟩ } := by
  obtain ⟨-, run⟩ := afterExternal_eq_ok.mp run
  simp only [unsaved] at run
  cases run
  exact ⟨rfl, rfl⟩

theorem saveVolume_eq_ok_of_saved {fails : Nat → Bool} {s s' : PyState} {pk : Nat}
    {volName : String} {volEncrypt : Nat} (saved : s.frame.volume = some ⟨some pk, volName, volEncrypt⟩)
    (run : saveVolume fails s = .ok () s') :
    s'.db = s.db.updateVolume ⟨pk, volName, volEncrypt⟩ ∧ s'.frame = s.frame := by
  obtain ⟨-, run⟩ := afterExternal_eq_ok.mp run
  simp only [saved] at run
  cases run
  exact ⟨rfl, rfl⟩

theorem saveVolume_of_saved {s : PyState} {pk : Nat} {volName : String} {volEncrypt : Nat}
    (saved : s.frame.volume = some ⟨some pk, volName, volEncrypt⟩) :
    saveVolume (fun _ => false) s =
      .ok () { s with attempts := s.attempts + 1, db := s.db.updateVolume ⟨pk, volName, volEncrypt⟩ } := by
  simp [saveVolume, SeqRight.seqRight, EStateM.seqRight, external, saved]

theorem createScrub_eq_error {fails : Nat → Bool} {s s' : PyState} {e : PyError}
    (run : createScrub fails s = .error e s') : s'.db = s.db ∧ s'.frame = s.frame := by
  rcases afterExternal_eq_error.mp run with raised | ⟨-, run⟩
  · obtain ⟨-, -, rfl⟩ := external_eq_error.mp raised
    exact ⟨rfl, rfl⟩
  · split at run <;> cases run
    exact ⟨rfl, rfl⟩

/-- A program that, when it raises, has changed no row and no local. -/
def RaisesQuietly {α : Type} (prog : Py α) : Prop :=
  ∀ s e s', prog s = .error e s' → s'.db = s.db ∧ s'.frame = s.frame

/-- A program that changes no row and no local, whether it returns or raises. -/
structure Quiet {α : Type} (prog : Py α) : Prop where
  ok : ∀ s a s', prog s = .ok a s' → s'.db = s.db ∧ s'.frame = s.frame
  error : RaisesQuietly prog

theorem RaisesQuietly.seqRight {α β : Type} {x : Py α} {y : Py β} (qx : Quiet x)
    (qy : RaisesQuietly y) : RaisesQuietly (x *> y) := by
  intro s e s' run
  rcases seqRight_eq_error.mp run with first | ⟨a, s₁, first, second⟩
  · exact qx.error s e s' first
  · obtain ⟨db₁, frame₁⟩ := qx.ok s a s₁ first
    obtain ⟨db₂, frame₂⟩ := qy s₁ e s' second
    exact ⟨db₂.trans db₁, frame₂.trans frame₁⟩

/-- The state a run ends in, whether it returned or raised. -/
def resultState {α : Type} : EStateM.Result PyError PyState α → PyState
  | .ok _ s => s
  | .error _ s => s

theorem rethrow_state {x : Py Unit} {s s' : PyState} {e e' : PyError}
    (run : (x *> (throw e : Py Unit)) s = .error e' s') : s' = resultState (x s) := by
  rcases rethrow_eq_error.mp run with ⟨handled, -⟩ | handled <;> rw [handled] <;> rfl

theorem RaisesQuietly.seqRight_of_never {α β : Type} {x : Py α} {y : Py β} (qx : RaisesQuietly x)
    (never : ∀ s e s', y s ≠ .error e s') : RaisesQuietly (x *> y) := by
  intro s e s' run
  rcases seqRight_eq_error.mp run with first | ⟨_, _, _, second⟩
  · exact qx s e s' first
  · exact absurd second (never _ _ _)

/-- `try: ... except Exception: log...` never raises. -/
theorem tryCatch_ignore_ne_error {x : Py Unit} {s s' : PyState} {e : PyError} :
    tryCatch x (fun _ => pure ()) s ≠ .error e s' := fun run => by
  obtain ⟨_, _, _, handled⟩ := tryCatch_eq_error.mp run
  cases handled

theorem RaisesQuietly.createScrub (fails : Nat → Bool) : RaisesQuietly (createScrub fails) :=
  fun _ _ _ => createScrub_eq_error

namespace Quiet

theorem external (fails : Nat → Bool) : Quiet (external fails) where
  ok s a s' run := by
    obtain ⟨-, rfl⟩ := external_eq_ok.mp run
    exact ⟨rfl, rfl⟩
  error s e s' run := by
    obtain ⟨-, -, rfl⟩ := external_eq_error.mp run
    exact ⟨rfl, rfl⟩

theorem pure {α : Type} (a : α) : Quiet (Pure.pure a : Py α) where
  ok s b s' run := by cases run; exact ⟨rfl, rfl⟩
  error s e s' run := by cases run

theorem seqRight {α β : Type} {x : Py α} {y : Py β} (qx : Quiet x) (qy : Quiet y) :
    Quiet (x *> y) where
  ok s b s' run := by
    obtain ⟨a, s₁, first, second⟩ := seqRight_eq_ok.mp run
    obtain ⟨db₁, frame₁⟩ := qx.ok s a s₁ first
    obtain ⟨db₂, frame₂⟩ := qy.ok s₁ b s' second
    exact ⟨db₂.trans db₁, frame₂.trans frame₁⟩
  error := RaisesQuietly.seqRight qx qy.error

theorem bind {α β : Type} {x : Py α} {f : α → Py β} (qx : Quiet x) (qf : ∀ a, Quiet (f a)) :
    Quiet (x >>= f) where
  ok s b s' run := by
    obtain ⟨a, s₁, first, second⟩ := bind_eq_ok.mp run
    obtain ⟨db₁, frame₁⟩ := qx.ok s a s₁ first
    obtain ⟨db₂, frame₂⟩ := (qf a).ok s₁ b s' second
    exact ⟨db₂.trans db₁, frame₂.trans frame₁⟩
  error s e s' run := by
    rcases bind_eq_error.mp run with first | ⟨a, s₁, first, second⟩
    · exact qx.error s e s' first
    · obtain ⟨db₁, frame₁⟩ := qx.ok s a s₁ first
      obtain ⟨db₂, frame₂⟩ := (qf a).error s₁ e s' second
      exact ⟨db₂.trans db₁, frame₂.trans frame₁⟩

theorem ite {α : Type} {c : Prop} [Decidable c] {x y : Py α} (qx : Quiet x) (qy : Quiet y) :
    Quiet (if c then x else y) := by
  split_ifs <;> assumption

theorem notify (fails : Nat → Bool) (call : NotifierCall) : Quiet (notify fails call) := by
  refine seqRight (external fails) ⟨fun s a s' run => ?_, fun s e s' run => ?_⟩
  · cases run; exact ⟨rfl, rfl⟩
  · cases run

theorem forM {α : Type} {items : List α} {body : α → Py PUnit}
    (quiet : ∀ item ∈ items, Quiet (body item)) : Quiet (items.forM body) := by
  induction items with
  | nil => exact pure _
  | cons item rest ih =>
      exact bind (quiet item (.head _)) fun _ =>
        ih fun other member => quiet other (.tail _ member)

end Quiet

/-- A program that returns from every state, changing no row and no local. -/
def Returns {α : Type} (prog : Py α) : Prop :=
  ∀ s, ∃ a s', prog s = .ok a s' ∧ s'.db = s.db ∧ s'.frame = s.frame

theorem seqRight_eq_ok_of_returns {α β : Type} {x : Py α} {y : Py β} {s s₁ : PyState} {a : α}
    (first : x s = .ok a s₁) (ry : Returns y) :
    ∃ b s', (x *> y) s = .ok b s' ∧ s'.db = s₁.db ∧ s'.frame = s₁.frame := by
  obtain ⟨b, s', second, db, frame⟩ := ry s₁
  exact ⟨b, s', seqRight_eq_ok.mpr ⟨a, s₁, first, second⟩, db, frame⟩

namespace Returns

theorem external : Returns (external fun _ => false) := fun _ => ⟨(), _, rfl, rfl, rfl⟩

theorem pure {α : Type} (a : α) : Returns (Pure.pure a : Py α) := fun s => ⟨a, s, rfl, rfl, rfl⟩

theorem seqRight {α β : Type} {x : Py α} {y : Py β} (rx : Returns x) (ry : Returns y) :
    Returns (x *> y) := fun s => by
  obtain ⟨a, s₁, first, db₁, frame₁⟩ := rx s
  obtain ⟨b, s', run, db, frame⟩ := seqRight_eq_ok_of_returns first ry
  exact ⟨b, s', run, db.trans db₁, frame.trans frame₁⟩

theorem ite {α : Type} {c : Prop} [Decidable c] {x y : Py α} (rx : Returns x) (ry : Returns y) :
    Returns (if c then x else y) := by
  split_ifs <;> assumption

theorem notify (call : NotifierCall) : Returns (notify (fun _ => false) call) :=
  seqRight external fun _ => ⟨(), _, rfl, rfl, rfl⟩

theorem forM {α : Type} {items : List α} {body : α → Py PUnit}
    (returns : ∀ item ∈ items, Returns (body item)) : Returns (items.forM body) := by
  induction items with
  | nil => exact pure _
  | cons item rest ih =>
      exact seqRight (returns item (.head _)) (ih fun other member => returns other (.tail _ member))

end Returns

end FreeNAS.Storage
