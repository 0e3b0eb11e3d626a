import FreeNAS.Storage.SizeFields
import FreeNAS.Python.Int
import Mathlib.Data.List.Nodup

/-!
# Editing a dataset or a zvol with the values the form shows

`ZFSDatasetEditForm` and `ZVol_EditForm` show a dataset's ZFS properties as
`notifier().zfs_get_options` reports them, and `save` writes each property back: one
reported as inherited is inherited again, any other is set locally to the value of its
field.  The fields do not show every value as it is.  A size property shows `0` unless it is
set locally, and `0` is saved as `none`; `dedup` shows `off` for any checksum but `verify`;
`atime`, `readonly` and `exec` show `off` for a value other than `on` and `off`; a comment is
stripped, and a comment `inherit` is saved by inheriting the description.
`ZVol_EditForm.save` sets the description even where the zvol has none of its own.

The model submits the values a form shows through Django's field cleaning and the form's
own hooks, turns the cleaned data into the notifier calls `save` makes, and applies the calls
to the table of properties.
-/

namespace FreeNAS.Storage

open FreeNAS.Python

/-- The source column of `zfs get`. -/
inductive ZfsSource where
  | local
  | default
  | inherited
  | received
  deriving DecidableEq, Repr

structure ZfsProp where
  value : String
  source : ZfsSource
  deriving DecidableEq, Repr

/-- `zfs_size_fields`. -/
def zfsSizeFields : List String := ["quota", "refquota", "reservation", "refreservation"]

/-- Modelled from the spec: the third element of the entry `notifier().zfs_get_options`
reports for a property (notifier is not under src/): `inherit` for a property other than the
four size properties whose value is the default or inherited, and otherwise the source. -/
def zfsSourceKind (name : String) (prop : ZfsProp) : String :=
  match prop.source with
  | .local => "local"
  | .received => "received"
  | .default => if name ∈ zfsSizeFields then "default" else "inherit"
  | .inherited => if name ∈ zfsSizeFields then "inherited" else "inherit"

/-- A size field: `0` for a value `0` or `none`, the value when it is set locally, and the
field's own initial `0` where `get_initial_data` leaves the key out. -/
def sizeInitial (name : String) (prop : ZfsProp) : String :=
  if prop.value = "0" ∨ prop.value = "none" then "0"
  else if zfsSourceKind name prop = "local" then prop.value else "0"

/-- `sync`, `compression` and `recordsize`: `inherit`, or the value. -/
def inheritOrValue (name : String) (prop : ZfsProp) : String :=
  if zfsSourceKind name prop = "inherit" then "inherit" else prop.value

/-- `atime`, `readonly` and `exec`: `inherit`, the value if it is `on` or `off`, else `off`. -/
def onOffInitial (name : String) (prop : ZfsProp) : String :=
  if zfsSourceKind name prop = "inherit" then "inherit"
  else if prop.value = "on" ∨ prop.value = "off" then prop.value else "off"

/-- `dedup`, the same in both edit forms. -/
def dedupInitial (prop : ZfsProp) : String :=
  if zfsSourceKind "dedup" prop = "inherit" then "inherit"
  else if prop.value = "on" ∨ prop.value = "off" ∨ prop.value = "verify" then prop.value
  else if prop.value = "sha256,verify" then "verify" else "off"

/-- The comment: the description when it is set locally, else the empty field. -/
def commentsInitial (description : Option ZfsProp) : String :=
  match description with
  | some prop => if zfsSourceKind "org.freenas:description" prop = "local" then prop.value else ""
  | none => ""

/-- `CharField.clean`: the value stripped; `none` for a missing required value or one longer
than `maxLength`. -/
def charFieldClean (maxLength : Nat) (required : Bool) (value : String) : Option String :=
  if strip value = "" then (if required then none else some "")
  else if (strip value).length ≤ maxLength then some (strip value) else none

/-- `ChoiceField.clean`. -/
def choiceFieldClean (choices : List String) (required : Bool) (value : String) : Option String :=
  if value = "" then (if required then none else some "")
  else if value ∈ choices then some value else none

/-- A value of `cleaned_data`: `clean_dataset_recordsize` leaves an `int` where the fields
leave a `str`. -/
inductive PyValue where
  | str (value : String)
  | int (value : Int)
  deriving DecidableEq, Repr

/-- `if value:`. -/
def PyValue.truthy : PyValue → Bool
  | .str value => value ≠ ""
  | .int value => value ≠ 0

/-- `str(value)`, the text the notifier hands to `zfs set`. -/
def PyValue.text : PyValue → String
  | .str value => value
  | .int value => toString value

/-- The fields of `ZFSDatasetEditForm` as the browser submits them. -/
structure DatasetEditFields where
  comments : String
  sync : String
  compression : String
  shareType : String
  atime : String
  refquota : String
  quota : String
  refreservation : String
  reservation : String
  dedup : String
  readonly : String
  exec : String
  recordsize : String

/-- `get_initial_data` as the form shows it; `none` where `zdata[prop]` raises `KeyError`.
`shareType` is what `notifier().get_dataset_share_type` returns. -/
def ZFSDatasetEditForm.getInitialData (zdata : String → Option ZfsProp) (shareType : String) :
    Option DatasetEditFields :=
  match zdata "quota", zdata "refquota", zdata "reservation", zdata "refreservation",
      zdata "dedup", zdata "sync", zdata "compression", zdata "atime", zdata "readonly",
      zdata "exec", zdata "recordsize" with
  | some quota, some refquota, some reservation, some refreservation, some dedup, some sync,
      some compression, some atime, some readonly, some exec, some recordsize =>
      some
        { comments := commentsInitial (zdata "org.freenas:description")
          sync := inheritOrValue "sync" sync
          compression := inheritOrValue "compression" compression
          shareType := shareType
          atime := onOffInitial "atime" atime
          refquota := sizeInitial "refquota" refquota
          quota := sizeInitial "quota" quota
          refreservation := sizeInitial "refreservation" refreservation
          reservation := sizeInitial "reservation" reservation
          dedup := dedupInitial dedup
          readonly := onOffInitial "readonly" readonly
          exec := onOffInitial "exec" exec
          recordsize := inheritOrValue "recordsize" recordsize }
  | _, _, _, _, _, _, _, _, _, _, _ => none

/-- The choices of the choice fields (the `choices` module is not under src/;
`_inherit_choices` only relabels `inherit`). -/
structure DatasetChoices where
  sync : List String
  compression : List String
  shareType : List String
  atime : List String
  dedup : List String
  readonly : List String
  exec : List String
  recordsize : List String

/-- `rs[-1].lower() == 'k'`: `k`, `K`, and the Kelvin sign, whose lowercase is `k`. -/
def lowersToK (c : Char) : Bool := c == 'k' || c == 'K' || c.toNat == 0x212a

/-- Why `clean_dataset_recordsize` fails: its `ValidationError`, or the `ValueError` of
`int(rs[:-1])` it lets through. -/
inductive RecordsizeError where
  | invalid
  | valueError
  deriving DecidableEq, Repr

/-- `clean_dataset_recordsize` on the value in `cleaned_data`: a Django hook on the field,
and called again by `clean_data_to_props` on what the hook returned. -/
def ZFSDatasetCommonForm.cleanDatasetRecordsize : PyValue → Except RecordsizeError PyValue
  | .int rs => if rs = 0 then .ok (.str "inherit") else .ok (.int rs)
  | .str rs =>
      if rs = "" ∨ rs = "inherit" then .ok (.str "inherit")
      else
        match pyInt rs with
        | some size => .ok (.int size)
        | none =>
            if (rs.data.getLast?.map lowersToK).getD false then
              match pyInt ⟨rs.data.dropLast⟩ with
              | some size => .ok (.int (size * 1024))
              | none => .error .valueError
            else .error .invalid

/-- A size field: `CharField(max_length=128)`, then its part of `_clean_zfssize_fields`. -/
def sizeFieldClean (value : String) : Option String :=
  (charFieldClean 128 true value).bind fun value => (cleanZfssizeField value).toOption

/-- `dataset_recordsize`: the choice field, then its hook. -/
def recordsizeFieldClean (choices : List String) (value : String) : Except RecordsizeError PyValue :=
  match choiceFieldClean choices false value with
  | some rs => ZFSDatasetCommonForm.cleanDatasetRecordsize (.str rs)
  | none => .error .invalid

/-- `cleaned_data` of a valid `ZFSDatasetEditForm`. -/
structure DatasetCleaned where
  comments : String
  sync : String
  compression : String
  shareType : String
  atime : String
  refquota : String
  quota : String
  refreservation : String
  reservation : String
  dedup : String
  readonly : String
  exec : String
  recordsize : PyValue

/-- How a submission the form does not save ends. -/
inductive FormFailure where
  | invalid
  | crashed
  deriving DecidableEq, Repr

/-- The fields of `ZFSDatasetEditForm`, each cleaned with its hook, then `clean`
(`_clean_zfssize_fields`, kept in `sizeFieldClean`); `none` when one has an error. -/
def ZFSDatasetEditForm.cleanFields (choices : DatasetChoices) (data : DatasetEditFields) :
    Option DatasetCleaned :=
  match charFieldClean 1024 false data.comments, choiceFieldClean choices.sync true data.sync,
      choiceFieldClean choices.compression true data.compression,
      choiceFieldClean choices.shareType true data.shareType,
      choiceFieldClean choices.atime true data.atime, sizeFieldClean data.refquota,
      sizeFieldClean data.quota, sizeFieldClean data.refreservation,
      sizeFieldClean data.reservation, choiceFieldClean choices.dedup true data.dedup,
      choiceFieldClean choices.readonly true data.readonly,
      choiceFieldClean choices.exec true data.exec,
      (recordsizeFieldClean choices.recordsize data.recordsize).toOption with
  | some comments, some sync, some compression, some shareType, some atime, some refquota,
      some quota, some refreservation, some reservation, some dedup, some readonly, some exec,
      some recordsize =>
      some ⟨comments, sync, compression, shareType, atime, refquota, quota, refreservation,
        reservation, dedup, readonly, exec, recordsize⟩
  | _, _, _, _, _, _, _, _, _, _, _, _, _ => none

/-- `full_clean`; a `ValueError` out of the `recordsize` hook ends the request. -/
def ZFSDatasetEditForm.fullClean (choices : DatasetChoices) (data : DatasetEditFields) :
    Except FormFailure DatasetCleaned :=
  match recordsizeFieldClean choices.recordsize data.recordsize with
  | .error .valueError => .error .crashed
  | _ =>
      match ZFSDatasetEditForm.cleanFields choices data with
      | some cleaned => .ok cleaned
      | none => .error .invalid

/-- The entries of `props` that `if value:` keeps. -/
def truthyProps (entries : List (String × Option PyValue)) : List (String × PyValue) :=
  entries.filterMap fun (prop, value) =>
    value.bind fun value => if value.truthy then some (prop, value) else none

/-- `clean_data_to_props`: the size properties, `'0'` read as `'none'`, then the other
properties whose value is true (`aclmode` and `casesensitivity` have no field here). -/
def ZFSDatasetCommonForm.cleanDataToProps (cleaned : DatasetCleaned) :
    Except RecordsizeError (List (String × PyValue)) := do
  let recordsize ← ZFSDatasetCommonForm.cleanDatasetRecordsize cleaned.recordsize
  let sizes : List (String × String) :=
    [("quota", cleaned.quota), ("refquota", cleaned.refquota),
      ("reservation", cleaned.reservation), ("refreservation", cleaned.refreservation)]
  pure <| sizes.map (fun (prop, value) => (prop, .str (if value = "0" then "none" else value))) ++
    truthyProps
      [("org.freenas:description", some (.str cleaned.comments)), ("sync", some (.str cleaned.sync)),
        ("compression", some (.str cleaned.compression)), ("atime", some (.str cleaned.atime)),
        ("dedup", some (.str cleaned.dedup)), ("aclmode", none), ("recordsize", some recordsize),
        ("casesensitivity", none), ("readonly", some (.str cleaned.readonly)),
        ("exec", some (.str cleaned.exec))]

/-- A notifier call `save` makes. -/
inductive ZfsCall where
  | setOption (prop value : String)
  | inheritOption (prop : String)
  deriving DecidableEq, Repr

/-- The property a call is on. -/
def ZfsCall.prop : ZfsCall → String
  | .setOption prop _ => prop
  | .inheritOption prop => prop

/-- `zfs_inherit_option` for `'inherit'`, `zfs_set_option` otherwise. -/
def propCall (item : String) (value : PyValue) : ZfsCall :=
  if value = .str "inherit" then .inheritOption item else .setOption item value.text

/-- The notifier calls of `ZFSDatasetEditForm.save`, in order. -/
def ZFSDatasetEditForm.save (props : List (String × PyValue)) : List ZfsCall :=
  props.map fun (item, value) => propCall item value

/-- The properties a dataset passes down, whose fields offer `inherit`. -/
def inheritableDatasetProps : List String :=
  ["sync", "compression", "atime", "dedup", "recordsize", "readonly", "exec"]

/-- How submitting an edit form with the values it shows ends. -/
inductive EditOutcome where
  | keyError
  | rejected
  | crashed
  | saved (calls : List ZfsCall)
  deriving DecidableEq, Repr

/-- `ZFSDatasetEditForm` built for a dataset, submitted with its initial values and, when
valid, saved. -/
def ZFSDatasetEditForm.submitInitial (choices : DatasetChoices) (zdata : String → Option ZfsProp)
    (shareType : String) : EditOutcome :=
  match ZFSDatasetEditForm.getInitialData zdata shareType with
  | none => .keyError
  | some data =>
      match ZFSDatasetEditForm.fullClean choices data with
      | .error .invalid => .rejected
      | .error .crashed => .crashed
      | .ok cleaned =>
          match ZFSDatasetCommonForm.cleanDataToProps cleaned with
          | .ok props => .saved (ZFSDatasetEditForm.save props)
          | .error _ => .crashed

/-- The fields of `ZVol_EditForm` as the browser submits them; `force` is the checkbox. -/
structure ZvolEditFields where
  comments : String
  volsize : String
  force : Bool
  sync : String
  compression : String
  dedup : String
  deriving DecidableEq, Repr

/-- What `ZVol_EditForm.__init__` shows; `none` where `self.zdata[prop]` raises `KeyError`. -/
def ZVolEditForm.initial (zdata : String → Option ZfsProp) : Option ZvolEditFields := do
  let sync ← zdata "sync"
  let compression ← zdata "compression"
  let volsize ← zdata "volsize"
  let dedup ← zdata "dedup"
  pure
    { comments := commentsInitial (zdata "org.freenas:description")
      volsize := volsize.value
      force := false
      sync := inheritOrValue "sync" sync
      compression := inheritOrValue "compression" compression
      dedup := dedupInitial dedup }

/-- The choices of `zvol_sync`, `zvol_compression` and `zvol_dedup`. -/
structure ZvolChoices where
  sync : List String
  compression : List String
  dedup : List String
  deriving DecidableEq, Repr

/-- `cleaned_data` of a valid `ZVol_EditForm`. -/
structure ZvolCleaned where
  comments : String
  volsize : String
  sync : String
  compression : String
  dedup : String
  deriving DecidableEq, Repr

/-- `full_clean` of `ZVol_EditForm`: the fields with the `zvol_volsize` hook, then `clean`,
which runs `_clean_zfssize_fields` on the size, refuses a size smaller than the zvol's by
`humansize_to_bytes` (not under src/), and calls `_zvol_force`.  `space` is the parent's
`avail` plus the zvol's `used`. -/
def ZVolEditForm.fullClean (choices : ZvolChoices) (space : Nat) (humansizeToBytes : String → Nat)
    (zdataVolsize : String) (data : ZvolEditFields) : Option ZvolCleaned :=
  match charFieldClean 120 false data.comments,
      (charFieldClean 128 true data.volsize).bind
        fun volsize => (CommonZVol.cleanZvolVolsize space volsize).toOption,
      choiceFieldClean choices.sync true data.sync,
      choiceFieldClean choices.compression true data.compression,
      choiceFieldClean choices.dedup true data.dedup with
  | some comments, some result, some sync, some compression, some dedup =>
      match (cleanZfssizeField result.size).toOption with
      | some volsize =>
          if humansizeToBytes zdataVolsize > humansizeToBytes volsize ∨
              (CommonZVol.zvolForce result.force data.force).isSome then none
          else some ⟨comments, volsize, sync, compression, dedup⟩
      | none => none
  | _, _, _, _, _ => none

/-- The notifier calls of `ZVol_EditForm.save`: the description is set whatever it is, the
other properties are inherited for `'inherit'`. -/
def ZVolEditForm.save (cleaned : ZvolCleaned) : List ZfsCall :=
  .setOption "org.freenas:description" cleaned.comments ::
    [("sync", cleaned.sync), ("compression", cleaned.compression), ("dedup", cleaned.dedup),
      ("volsize", cleaned.volsize)].map fun (attr, value) => propCall attr (.str value)

/-- `ZVol_EditForm` built for a zvol, submitted with its initial values and, when valid,
saved. -/
def ZVolEditForm.submitInitial (choices : ZvolChoices) (space : Nat)
    (humansizeToBytes : String → Nat) (zdata : String → Option ZfsProp) : EditOutcome :=
  match ZVolEditForm.initial zdata, zdata "volsize" with
  | some data, some volsize =>
      match ZVolEditForm.fullClean choices space humansizeToBytes volsize.value data with
      | some cleaned => .saved (ZVolEditForm.save cleaned)
      | none => .rejected
  | _, _ => .keyError

/-- A property after `zfs inherit`: the parent's value; a parent's default stays the default. -/
def ZfsProp.inheritedFrom (parent : ZfsProp) : ZfsProp :=
  ⟨parent.value, if parent.source = .default then .default else .inherited⟩

/-- Modelled from the spec: the property a notifier call leaves when it succeeds (notifier is
not under src/): `zfs set` makes the value local, `zfs inherit` takes the parent's. -/
def ZfsCall.result (parent : String → Option ZfsProp) : ZfsCall → Option ZfsProp
  | .setOption _ value => some ⟨value, .local⟩
  | .inheritOption prop => (parent prop).map ZfsProp.inheritedFrom

def ZfsCall.apply (parent props : String → Option ZfsProp) (call : ZfsCall) :
    String → Option ZfsProp := fun name =>
  if name = call.prop then call.result parent else props name

/-- The properties after the calls; a call that fails changes nothing. -/
def runCalls (succeeds : ZfsCall → Bool) (parent : String → Option ZfsProp) :
    (String → Option ZfsProp) → List ZfsCall → String → Option ZfsProp
  | props, [] => props
  | props, call :: calls =>
      runCalls succeeds parent (if succeeds call then call.apply parent props else props) calls

section Run

variable {succeeds : ZfsCall → Bool} {parent : String → Option ZfsProp}

theorem runCalls_append (props : String → Option ZfsProp) (first rest : List ZfsCall) :
    runCalls succeeds parent props (first ++ rest) =
      runCalls succeeds parent (runCalls succeeds parent props first) rest := by
  induction first generalizing props with
  | nil => rfl
  | cons call first ih => exact ih _

theorem runCalls_of_forall_ne {props : String → Option ZfsProp} {calls : List ZfsCall}
    {name : String} (others : ∀ call ∈ calls, call.prop ≠ name) :
    runCalls succeeds parent props calls name = props name := by
  induction calls generalizing props with
  | nil => rfl
  | cons call calls ih =>
      rw [runCalls, ih fun c mem => others c (List.mem_cons_of_mem _ mem)]
      split
      · simp [ZfsCall.apply, Ne.symm (others call (List.mem_cons_self _ _))]
      · rfl

theorem runCalls_last {props : String → Option ZfsProp} {first later : List ZfsCall}
    {call : ZfsCall} (ok : succeeds call = true) (others : ∀ c ∈ later, c.prop ≠ call.prop) :
    runCalls succeeds parent props (first ++ call :: later) call.prop = call.result parent := by
  rw [runCalls_append, runCalls, runCalls_of_forall_ne others, if_pos ok, ZfsCall.apply, if_pos rfl]

/-- Where no two calls are on one property, each property ends as its call left it. -/
theorem runCalls_of_mem_nodup {props : String → Option ZfsProp} {calls : List ZfsCall}
    {call : ZfsCall} (nodup : (calls.map ZfsCall.prop).Nodup) (mem : call ∈ calls)
    (ok : succeeds call = true) :
    runCalls succeeds parent props calls call.prop = call.result parent := by
  obtain ⟨first, later, rfl⟩ := List.append_of_mem mem
  rw [List.map_append, List.map_cons] at nodup
  have fresh := (List.nodup_cons.mp (List.nodup_append.mp nodup).2.1).1
  exact runCalls_last ok fun c mem same => fresh (same ▸ List.mem_map_of_mem _ mem)

end Run

theorem choiceFieldClean_eq_some {choices : List String} {required : Bool} {value cleaned : String}
    (h : choiceFieldClean choices required value = some cleaned) : cleaned = value := by
  unfold choiceFieldClean at h
  split_ifs at h <;> simp_all

theorem charFieldClean_eq_some {maxLength : Nat} {required : Bool} {value cleaned : String}
    (h : charFieldClean maxLength required value = some cleaned) : cleaned = strip value := by
  unfold charFieldClean at h
  split_ifs at h <;> simp_all

theorem scanNumber_head {chars number rest : List Char}
    (h : scanNumber chars = some (number, rest)) :
    ∃ c more, number = c :: more ∧ isDecimal c = true := by
  unfold scanNumber at h
  dsimp only at h
  split_ifs at h with empty
  obtain ⟨c, cs, whole⟩ := List.exists_cons_of_ne_nil empty
  have first : isDecimal c = true := List.mem_takeWhile_imp (whole ▸ List.mem_cons_self c cs)
  split at h
  · split_ifs at h <;> cases h
    · exact ⟨c, cs, whole, first⟩
    · exact ⟨c, _, by rw [whole, List.cons_append], first⟩
  · cases h
    exact ⟨c, cs, whole, first⟩

theorem matchSize_number {suffixRequired : Bool} {chars : List Char} {found : SizeMatch}
    (h : matchSize suffixRequired chars = some found) :
    ∃ c more, found.number = c :: more ∧ isDecimal c = true := by
  unfold matchSize at h
  cases scanned : scanNumber chars with
  | none => simp [scanned] at h
  | some groups =>
      obtain ⟨number, rest⟩ := groups
      simp only [scanned, Option.some_bind] at h
      split at h <;> split_ifs at h <;> cases h <;> exact scanNumber_head scanned

theorem cleanZfssizeField_ne_inherit {value cleaned : String}
    (h : cleanZfssizeField value = .ok cleaned) : cleaned ≠ "inherit" := by
  rintro rfl
  have unmatched : matchSize false (deleteSpaces "inherit") = none := by decide
  unfold cleanZfssizeField at h
  split at h
  · split_ifs at h with zero
    cases h
    exact absurd (not_not.mp zero) (by decide)
  · rename_i number suffix found
    split_ifs at h
    · obtain ⟨c, more, numbered, decimal⟩ := matchSize_number found
      dsimp only at numbered
      have head := congrArg (fun s : String => s.data.head?) (Except.ok.inj h)
      simp only [unitLetterSize, numbered, List.cons_append, List.head?_cons,
        Option.some.injEq] at head
      subst head
      exact absurd decimal (by decide)
    · cases h
      simp [unmatched] at found
  · cases h
    simp_all

theorem sizeFieldClean_ne_inherit {value cleaned : String} (h : sizeFieldClean value = some cleaned) :
    cleaned ≠ "inherit" := by
  obtain ⟨stripped, -, checked⟩ := Option.bind_eq_some.mp h
  cases found : cleanZfssizeField stripped with
  | error => simp [found, Except.toOption] at checked
  | ok size =>
      simp only [found, Except.toOption, Option.some.injEq] at checked
      exact checked ▸ cleanZfssizeField_ne_inherit found

theorem recordsizeFieldClean_inherit {choices : List String} {value : PyValue}
    (h : (recordsizeFieldClean choices "inherit").toOption = some value) :
    value = .str "inherit" := by
  by_cases offered : "inherit" ∈ choices <;>
    simp [recordsizeFieldClean, choiceFieldClean, offered,
      ZFSDatasetCommonForm.cleanDatasetRecordsize, Except.toOption] at h
  exact h.symm

namespace ZFSDatasetEditForm

theorem getInitialData_eq_some {zdata : String → Option ZfsProp} {shareType : String}
    {data : DatasetEditFields} (h : getInitialData zdata shareType = some data) :
    data.comments = commentsInitial (zdata "org.freenas:description") ∧
      (∀ prop, zdata "sync" = some prop → data.sync = inheritOrValue "sync" prop) ∧
      (∀ prop, zdata "compression" = some prop →
        data.compression = inheritOrValue "compression" prop) ∧
      (∀ prop, zdata "atime" = some prop → data.atime = onOffInitial "atime" prop) ∧
      (∀ prop, zdata "dedup" = some prop → data.dedup = dedupInitial prop) ∧
      (∀ prop, zdata "readonly" = some prop → data.readonly = onOffInitial "readonly" prop) ∧
      (∀ prop, zdata "exec" = some prop → data.exec = onOffInitial "exec" prop) ∧
      (∀ prop, zdata "recordsize" = some prop →
        data.recordsize = inheritOrValue "recordsize" prop) := by
  unfold getInitialData at h
  split at h
  · rename_i sync compression atime readonly exec recordsize _ _ _ _ dedup_found sync_found
      compression_found atime_found readonly_found exec_found recordsize_found
    cases h
    exact ⟨rfl, fun _ found => Option.some.inj (found.symm.trans sync_found) ▸ rfl,
      fun _ found => Option.some.inj (found.symm.trans compression_found) ▸ rfl,
      fun _ found => Option.some.inj (found.symm.trans atime_found) ▸ rfl,
      fun _ found => Option.some.inj (found.symm.trans dedup_found) ▸ rfl,
      fun _ found => Option.some.inj (found.symm.trans readonly_found) ▸ rfl,
      fun _ found => Option.some.inj (found.symm.trans exec_found) ▸ rfl,
      fun _ found => Option.some.inj (found.symm.trans recordsize_found) ▸ rfl⟩
  · cases h

theorem cleanFields_eq_some {choices : DatasetChoices} {data : DatasetEditFields}
    {cleaned : DatasetCleaned} (h : cleanFields choices data = some cleaned) :
    cleaned.comments = strip data.comments ∧ cleaned.sync = data.sync ∧
      cleaned.compression = data.compression ∧ cleaned.atime = data.atime ∧
      sizeFieldClean data.refquota = some cleaned.refquota ∧
      sizeFieldClean data.quota = some cleaned.quota ∧
      sizeFieldClean data.refreservation = some cleaned.refreservation ∧
      sizeFieldClean data.reservation = some cleaned.reservation ∧
      cleaned.dedup = data.dedup ∧ cleaned.readonly = data.readonly ∧ cleaned.exec = data.exec ∧
      (recordsizeFieldClean choices.recordsize data.recordsize).toOption = some cleaned.recordsize := by
  unfold cleanFields at h
  split at h
  · rename_i comments_ok sync_ok compression_ok _ atime_ok refquota_ok quota_ok refreservation_ok
      reservation_ok dedup_ok readonly_ok exec_ok recordsize_ok
    cases h
    exact ⟨charFieldClean_eq_some comments_ok, choiceFieldClean_eq_some sync_ok,
      choiceFieldClean_eq_some compression_ok, choiceFieldClean_eq_some atime_ok, refquota_ok,
      quota_ok, refreservation_ok, reservation_ok, choiceFieldClean_eq_some dedup_ok,
      choiceFieldClean_eq_some readonly_ok, choiceFieldClean_eq_some exec_ok, recordsize_ok⟩
  · cases h

theorem fullClean_eq_ok {choices : DatasetChoices} {data : DatasetEditFields}
    {cleaned : DatasetCleaned} (h : fullClean choices data = .ok cleaned) :
    cleanFields choices data = some cleaned := by
  unfold fullClean at h
  split at h
  · cases h
  · split at h
    · cases h
      assumption
    · cases h

theorem cleanDataToProps_eq_ok {cleaned : DatasetCleaned} {props : List (String × PyValue)}
    (h : ZFSDatasetCommonForm.cleanDataToProps cleaned = .ok props) :
    ∃ recordsize, ZFSDatasetCommonForm.cleanDatasetRecordsize cleaned.recordsize = .ok recordsize ∧
      props =
        [("quota", .str (if cleaned.quota = "0" then "none" else cleaned.quota)),
          ("refquota", .str (if cleaned.refquota = "0" then "none" else cleaned.refquota)),
          ("reservation", .str (if cleaned.reservation = "0" then "none" else cleaned.reservation)),
          ("refreservation",
            .str (if cleaned.refreservation = "0" then "none" else cleaned.refreservation))] ++
        truthyProps
          [("org.freenas:description", some (.str cleaned.comments)),
            ("sync", some (.str cleaned.sync)), ("compression", some (.str cleaned.compression)),
            ("atime", some (.str cleaned.atime)), ("dedup", some (.str cleaned.dedup)),
            ("aclmode", none), ("recordsize", some recordsize), ("casesensitivity", none),
            ("readonly", some (.str cleaned.readonly)), ("exec", some (.str cleaned.exec))] := by
  unfold ZFSDatasetCommonForm.cleanDataToProps at h
  cases found : ZFSDatasetCommonForm.cleanDatasetRecordsize cleaned.recordsize with
  | error => simp [found, bind, Except.bind] at h
  | ok recordsize =>
      simp only [found, bind, Except.bind, pure, Except.pure, Except.ok.injEq] at h
      exact ⟨recordsize, rfl, h.symm⟩

theorem submitInitial_eq_saved {choices : DatasetChoices} {zdata : String → Option ZfsProp}
    {shareType : String} {calls : List ZfsCall}
    (h : submitInitial choices zdata shareType = .saved calls) :
    ∃ data cleaned props, getInitialData zdata shareType = some data ∧
      cleanFields choices data = some cleaned ∧
      ZFSDatasetCommonForm.cleanDataToProps cleaned = .ok props ∧ calls = save props := by
  unfold submitInitial at h
  cases shown : getInitialData zdata shareType with
  | none => simp [shown] at h
  | some data =>
      cases clean : fullClean choices data with
      | error failure => cases failure <;> simp [shown, clean] at h
      | ok cleaned =>
          cases converted : ZFSDatasetCommonForm.cleanDataToProps cleaned with
          | error => simp [shown, clean, converted] at h
          | ok props =>
              simp only [shown, clean, converted, EditOutcome.saved.injEq] at h
              exact ⟨data, cleaned, props, rfl, fullClean_eq_ok clean, converted, h.symm⟩

end ZFSDatasetEditForm

theorem propCall_prop (item : String) (value : PyValue) : (propCall item value).prop = item := by
  unfold propCall
  split <;> rfl

theorem save_props (props : List (String × PyValue)) :
    (ZFSDatasetEditForm.save props).map ZfsCall.prop = props.map Prod.fst := by
  simp [ZFSDatasetEditForm.save, propCall_prop]

theorem setOption_mem_save {props : List (String × PyValue)} {item value : String}
    (mem : (item, .str value) ∈ props) (notInherit : value ≠ "inherit") :
    ZfsCall.setOption item value ∈ ZFSDatasetEditForm.save props :=
  List.mem_map.mpr ⟨_, mem, by simp [propCall, notInherit, PyValue.text]⟩

theorem inheritOption_mem_save {props : List (String × PyValue)} {item : String}
    (mem : (item, .str "inherit") ∈ props) :
    ZfsCall.inheritOption item ∈ ZFSDatasetEditForm.save props :=
  List.mem_map.mpr ⟨_, mem, by simp [propCall]⟩

theorem mem_truthyProps {entries : List (String × Option PyValue)} {prop : String}
    {value : PyValue} (mem : (prop, some value) ∈ entries) (truthy : value.truthy = true) :
    (prop, value) ∈ truthyProps entries :=
  List.mem_filterMap.mpr ⟨_, mem, by simp [truthy]⟩

theorem truthyProps_keys_sublist (entries : List (String × Option PyValue)) :
    List.Sublist ((truthyProps entries).map Prod.fst) (entries.map Prod.fst) := by
  induction entries with
  | nil => exact List.Sublist.slnil
  | cons entry entries ih =>
      obtain ⟨prop, value⟩ := entry
      rcases value with _ | value
      · exact ih.cons _
      · by_cases truthy : value.truthy = true
        · simpa [truthyProps, truthy] using ih
        · simpa [truthyProps, truthy] using ih.cons prop

/-- `props` is a dict, so no two calls of `save` are on one property. -/
theorem save_calls_nodup {cleaned : DatasetCleaned} {props : List (String × PyValue)}
    (h : ZFSDatasetCommonForm.cleanDataToProps cleaned = .ok props) :
    ((ZFSDatasetEditForm.save props).map ZfsCall.prop).Nodup := by
  obtain ⟨recordsize, -, rfl⟩ := ZFSDatasetEditForm.cleanDataToProps_eq_ok h
  rw [save_props, List.map_append]
  refine List.Nodup.sublist ((truthyProps_keys_sublist _).append_left _) ?_
  simp only [List.map_cons, List.map_nil]
  decide

namespace ZFSDatasetEditForm

/-- Saving the values the form shows sets each size property locally, whatever its source
was: `quota`, `refquota`, `reservation` and `refreservation` all end set locally. -/
theorem submitInitial_sets_sizes {choices : DatasetChoices} {zdata : String → Option ZfsProp}
    {shareType : String} {calls : List ZfsCall}
    (saved : submitInitial choices zdata shareType = .saved calls)
    (succeeds : ZfsCall → Bool) (parent : String → Option ZfsProp) :
    ∀ name ∈ zfsSizeFields, ∃ value, ZfsCall.setOption name value ∈ calls ∧
      (succeeds (.setOption name value) = true →
        runCalls succeeds parent zdata calls name = some ⟨value, .local⟩) := by
  intro name sizeName
  obtain ⟨data, cleaned, props, -, fields, converted, rfl⟩ := submitInitial_eq_saved saved
  have nodup := save_calls_nodup converted
  obtain ⟨-, -, -, -, refquota, quota, refreservation, reservation, -⟩ := cleanFields_eq_some fields
  have sets : ∀ {size raw : String}, sizeFieldClean raw = some size →
      (name, PyValue.str (if size = "0" then "none" else size)) ∈ props →
        ∃ value, ZfsCall.setOption name value ∈ save props ∧
          (succeeds (.setOption name value) = true →
            runCalls succeeds parent zdata (save props) name = some ⟨value, .local⟩) := by
    intro size raw clean mem
    have written : (if size = "0" then "none" else size) ≠ "inherit" := by
      split
      · decide
      · exact sizeFieldClean_ne_inherit clean
    exact ⟨_, setOption_mem_save mem written,
      runCalls_of_mem_nodup nodup (setOption_mem_save mem written)⟩
  obtain ⟨recordsize, -, rfl⟩ := cleanDataToProps_eq_ok converted
  simp only [zfsSizeFields, List.mem_cons, List.not_mem_nil, or_false] at sizeName
  rcases sizeName with rfl | rfl | rfl | rfl
  · exact sets quota (by simp)
  · exact sets refquota (by simp)
  · exact sets reservation (by simp)
  · exact sets refreservation (by simp)

/-- Saving the values the form shows inherits again every property `zfs_get_options` reports
as `inherit`, so such a property takes its parent's value. -/
theorem submitInitial_inherits {choices : DatasetChoices} {zdata : String → Option ZfsProp}
    {shareType : String} {calls : List ZfsCall}
    (saved : submitInitial choices zdata shareType = .saved calls)
    (succeeds : ZfsCall → Bool) (parent : String → Option ZfsProp) :
    ∀ name ∈ inheritableDatasetProps, ∀ prop, zdata name = some prop →
      zfsSourceKind name prop = "inherit" →
        ZfsCall.inheritOption name ∈ calls ∧
          (succeeds (.inheritOption name) = true →
            runCalls succeeds parent zdata calls name = (parent name).map ZfsProp.inheritedFrom) := by
  intro name listed prop reported inherit
  obtain ⟨data, cleaned, props, shown, fields, converted, rfl⟩ := submitInitial_eq_saved saved
  have nodup := save_calls_nodup converted
  suffices mem : (name, PyValue.str "inherit") ∈ props from
    ⟨inheritOption_mem_save mem, runCalls_of_mem_nodup nodup (inheritOption_mem_save mem)⟩
  obtain ⟨-, sync, compression, atime, dedup, readonly, exec, recordsize⟩ :=
    getInitialData_eq_some shown
  obtain ⟨-, cleanSync, cleanCompression, cleanAtime, -, -, -, -, cleanDedup, cleanReadonly,
    cleanExec, cleanRecordsize⟩ := cleanFields_eq_some fields
  obtain ⟨resized, resizedOk, rfl⟩ := cleanDataToProps_eq_ok converted
  simp only [inheritableDatasetProps, List.mem_cons, List.not_mem_nil, or_false] at listed
  rcases listed with rfl | rfl | rfl | rfl | rfl | rfl | rfl
  · have shows : cleaned.sync = "inherit" := by
      rw [cleanSync, sync prop reported, inheritOrValue, if_pos inherit]
    exact List.mem_append_right _ (mem_truthyProps (by simp [shows]) rfl)
  · have shows : cleaned.compression = "inherit" := by
      rw [cleanCompression, compression prop reported, inheritOrValue, if_pos inherit]
    exact List.mem_append_right _ (mem_truthyProps (by simp [shows]) rfl)
  · have shows : cleaned.atime = "inherit" := by
      rw [cleanAtime, atime prop reported, onOffInitial, if_pos inherit]
    exact List.mem_append_right _ (mem_truthyProps (by simp [shows]) rfl)
  · have shows : cleaned.dedup = "inherit" := by
      rw [cleanDedup, dedup prop reported, dedupInitial, if_pos inherit]
    exact List.mem_append_right _ (mem_truthyProps (by simp [shows]) rfl)
  · have shows : resized = .str "inherit" := by
      rw [recordsize prop reported, inheritOrValue, if_pos inherit] at cleanRecordsize
      rw [recordsizeFieldClean_inherit cleanRecordsize] at resizedOk
      exact (Except.ok.inj resizedOk).symm
    exact List.mem_append_right _ (mem_truthyProps (by simp [shows]) rfl)
  · have shows : cleaned.readonly = "inherit" := by
      rw [cleanReadonly, readonly prop reported, onOffInitial, if_pos inherit]
    exact List.mem_append_right _ (mem_truthyProps (by simp [shows]) rfl)
  · have shows : cleaned.exec = "inherit" := by
      rw [cleanExec, exec prop reported, onOffInitial, if_pos inherit]
    exact List.mem_append_right _ (mem_truthyProps (by simp [shows]) rfl)

/-- A description set locally to a text that strips to `inherit` is inherited by saving the
values the form shows: the dataset loses its own description. -/
theorem submitInitial_inherits_inherit_comment {choices : DatasetChoices}
    {zdata : String → Option ZfsProp} {shareType : String} {calls : List ZfsCall}
    (saved : submitInitial choices zdata shareType = .saved calls)
    (succeeds : ZfsCall → Bool) (parent : String → Option ZfsProp) {value : String}
    (described : zdata "org.freenas:description" = some ⟨value, .local⟩)
    (named : strip value = "inherit") :
    ZfsCall.inheritOption "org.freenas:description" ∈ calls ∧
      (succeeds (.inheritOption "org.freenas:description") = true →
        runCalls succeeds parent zdata calls "org.freenas:description" =
          (parent "org.freenas:description").map ZfsProp.inheritedFrom) := by
  obtain ⟨data, cleaned, props, shown, fields, converted, rfl⟩ := submitInitial_eq_saved saved
  have nodup := save_calls_nodup converted
  suffices mem : ("org.freenas:description", PyValue.str "inherit") ∈ props from
    ⟨inheritOption_mem_save mem, runCalls_of_mem_nodup nodup (inheritOption_mem_save mem)⟩
  have shows : cleaned.comments = "inherit" := by
    rw [(cleanFields_eq_some fields).1, (getInitialData_eq_some shown).1, described]
    exact named
  obtain ⟨resized, -, rfl⟩ := cleanDataToProps_eq_ok converted
  exact List.mem_append_right _ (mem_truthyProps (by simp [shows]) rfl)

end ZFSDatasetEditForm

namespace ZVolEditForm

theorem initial_comments {zdata : String → Option ZfsProp} {data : ZvolEditFields}
    (h : initial zdata = some data) :
    data.comments = commentsInitial (zdata "org.freenas:description") := by
  rw [initial] at h
  obtain ⟨_, -, h⟩ := Option.bind_eq_some.mp h
  obtain ⟨_, -, h⟩ := Option.bind_eq_some.mp h
  obtain ⟨_, -, h⟩ := Option.bind_eq_some.mp h
  obtain ⟨_, -, h⟩ := Option.bind_eq_some.mp h
  cases h
  rfl

theorem fullClean_comments {choices : ZvolChoices} {space : Nat} {humansizeToBytes : String → Nat}
    {zdataVolsize : String} {data : ZvolEditFields} {cleaned : ZvolCleaned}
    (h : fullClean choices space humansizeToBytes zdataVolsize data = some cleaned) :
    cleaned.comments = strip data.comments := by
  unfold fullClean at h
  split at h
  · rename_i commented _ _ _ _
    split at h
    · split_ifs at h
      cases h
      exact charFieldClean_eq_some commented
    · cases h
  · cases h

/-- Saving the values `ZVol_EditForm` shows sets the description locally, to the comment it
showed, also where the zvol had no description of its own. -/
theorem submitInitial_sets_description {choices : ZvolChoices} {space : Nat}
    {humansizeToBytes : String → Nat} {zdata : String → Option ZfsProp} {calls : List ZfsCall}
    (saved : submitInitial choices space humansizeToBytes zdata = .saved calls)
    (succeeds : ZfsCall → Bool) (parent : String → Option ZfsProp) :
    ZfsCall.setOption "org.freenas:description"
        (strip (commentsInitial (zdata "org.freenas:description"))) ∈ calls ∧
      (succeeds (.setOption "org.freenas:description"
          (strip (commentsInitial (zdata "org.freenas:description")))) = true →
        runCalls succeeds parent zdata calls "org.freenas:description" =
          some ⟨strip (commentsInitial (zdata "org.freenas:description")), .local⟩) := by
  unfold submitInitial at saved
  split at saved
  · rename_i data volsize shown _
    split at saved
    · rename_i cleaned cleanedOk
      cases saved
      rw [← initial_comments shown, ← fullClean_comments cleanedOk]
      refine ⟨List.mem_cons_self _ _, fun ok => @runCalls_last succeeds parent zdata [] _ _ ok ?_⟩
      intro call later
      obtain ⟨⟨attr, value⟩, listed, rfl⟩ := List.mem_map.mp later
      rw [propCall_prop]
      simp only [List.mem_cons, List.not_mem_nil, or_false] at listed
      rcases listed with same | same | same | same <;> cases same <;> simp [ZfsCall.prop]
    · cases saved
  · cases saved

end ZVolEditForm

/-- `tank`: `compression` set locally to `lz4`, the rest the defaults. -/
def tankProps : String → Option ZfsProp := fun name => List.lookup name
  [("sync", ⟨"standard", .default⟩), ("compression", ⟨"lz4", .local⟩), ("atime", ⟨"on", .default⟩),
    ("dedup", ⟨"off", .default⟩), ("recordsize", ⟨"128K", .default⟩),
    ("readonly", ⟨"off", .default⟩), ("exec", ⟨"on", .default⟩)]

/-- `tank/data`: `dedup` set locally to `sha256`, `compression` inherited from `tank`, no
description, the rest the defaults. -/
def shaDataset : String → Option ZfsProp := fun name => List.lookup name
  [("quota", ⟨"none", .default⟩), ("refquota", ⟨"none", .default⟩),
    ("reservation", ⟨"none", .default⟩), ("refreservation", ⟨"none", .default⟩),
    ("dedup", ⟨"sha256", .local⟩), ("sync", ⟨"standard", .default⟩),
    ("compression", ⟨"lz4", .inherited⟩), ("atime", ⟨"on", .default⟩),
    ("readonly", ⟨"off", .default⟩), ("exec", ⟨"on", .default⟩), ("recordsize", ⟨"128K", .default⟩)]

/-- `tank/vol`: a zvol of `10G` with `dedup` set locally to `sha256` and no description. -/
def shaZvol : String → Option ZfsProp := fun name => List.lookup name
  [("volsize", ⟨"10G", .local⟩), ("dedup", ⟨"sha256", .local⟩), ("sync", ⟨"standard", .default⟩),
    ("compression", ⟨"lz4", .inherited⟩)]

/-- Choices holding the values the two datasets show. -/
def exampleDatasetChoices : DatasetChoices :=
  ⟨["inherit", "standard", "always", "disabled"], ["inherit", "off", "lz4", "gzip"],
    ["unix", "windows", "mac"], ["inherit", "on", "off"], ["inherit", "on", "verify", "off"],
    ["inherit", "on", "off"], ["inherit", "on", "off"], ["inherit", "512", "128K"]⟩

def exampleZvolChoices : ZvolChoices :=
  ⟨["inherit", "standard", "always", "disabled"], ["inherit", "off", "lz4", "gzip"],
    ["inherit", "on", "verify", "off"]⟩

theorem shaDataset_saved :
    ZFSDatasetEditForm.submitInitial exampleDatasetChoices shaDataset "unix" =
      .saved [.setOption "quota" "none", .setOption "refquota" "none",
        .setOption "reservation" "none", .setOption "refreservation" "none",
        .inheritOption "sync", .inheritOption "compression", .inheritOption "atime",
        .setOption "dedup" "off", .inheritOption "recordsize", .inheritOption "readonly",
        .inheritOption "exec"] := by
  decide

theorem shaZvol_saved (humansizeToBytes : String → Nat) :
    ZVolEditForm.submitInitial exampleZvolChoices 1099511627776 humansizeToBytes shaZvol =
      .saved [.setOption "org.freenas:description" "", .inheritOption "sync",
        .inheritOption "compression", .setOption "dedup" "off", .setOption "volsize" "10G"] := by
  have shown : ZVolEditForm.initial shaZvol =
      some ⟨"", "10G", false, "inherit", "inherit", "off"⟩ := by decide
  have size : ((charFieldClean 128 true "10G").bind
      fun volsize => (CommonZVol.cleanZvolVolsize 1099511627776 volsize).toOption) =
      some ⟨"10G", false⟩ := by decide
  have unchanged : (cleanZfssizeField "10G").toOption = some "10G" := by decide
  have comments : charFieldClean 120 false "" = some "" := by decide
  have offered : choiceFieldClean exampleZvolChoices.sync true "inherit" = some "inherit" ∧
      choiceFieldClean exampleZvolChoices.compression true "inherit" = some "inherit" ∧
      choiceFieldClean exampleZvolChoices.dedup true "off" = some "off" := by decide
  simp only [ZVolEditForm.submitInitial, ZVolEditForm.fullClean, shown, comments, size, unchanged,
    offered, show shaZvol "volsize" = some ⟨"10G", .local⟩ from rfl, lt_irrefl, false_or]
  rfl

/-- Editing `tank/data` or `tank/vol` with the values its form shows turns `dedup` from
`sha256` to `off`. -/
theorem edit_forms_turn_sha256_dedup_off (humansizeToBytes : String → Nat) :
    shaDataset "dedup" = some ⟨"sha256", .local⟩ ∧
      ZFSDatasetEditForm.submitInitial exampleDatasetChoices shaDataset "unix" =
        .saved [.setOption "quota" "none", .setOption "refquota" "none",
          .setOption "reservation" "none", .setOption "refreservation" "none",
          .inheritOption "sync", .inheritOption "compression", .inheritOption "atime",
          .setOption "dedup" "off", .inheritOption "recordsize", .inheritOption "readonly",
          .inheritOption "exec"] ∧
      runCalls (fun _ => true) tankProps shaDataset
          [.setOption "quota" "none", .setOption "refquota" "none",
            .setOption "reservation" "none", .setOption "refreservation" "none",
            .inheritOption "sync", .inheritOption "compression", .inheritOption "atime",
            .setOption "dedup" "off", .inheritOption "recordsize", .inheritOption "readonly",
            .inheritOption "exec"] "dedup" = some ⟨"off", .local⟩ ∧
      shaZvol "dedup" = some ⟨"sha256", .local⟩ ∧
      ZVolEditForm.submitInitial exampleZvolChoices 1099511627776 humansizeToBytes shaZvol =
        .saved [.setOption "org.freenas:description" "", .inheritOption "sync",
          .inheritOption "compression", .setOption "dedup" "off", .setOption "volsize" "10G"] ∧
      runCalls (fun _ => true) tankProps shaZvol
          [.setOption "org.freenas:description" "", .inheritOption "sync",
            .inheritOption "compression", .setOption "dedup" "off", .setOption "volsize" "10G"]
          "dedup" = some ⟨"off", .local⟩ :=
  ⟨rfl, shaDataset_saved, rfl, rfl, shaZvol_saved humansizeToBytes, rfl⟩

theorem submitInitial_sets_sizes_of_sha :
    ∃ calls, ZFSDatasetEditForm.submitInitial exampleDatasetChoices shaDataset "unix" =
        .saved calls ∧
      ∀ name ∈ zfsSizeFields, ∃ value, ZfsCall.setOption name value ∈ calls ∧
        (true = true → runCalls (fun _ => true) tankProps shaDataset calls name =
          some ⟨value, .local⟩) :=
  ⟨_, shaDataset_saved,
    ZFSDatasetEditForm.submitInitial_sets_sizes shaDataset_saved (fun _ => true) tankProps⟩

theorem submitInitial_inherits_of_sha :
    ∃ calls, ZFSDatasetEditForm.submitInitial exampleDatasetChoices shaDataset "unix" =
        .saved calls ∧
      ZfsCall.inheritOption "compression" ∈ calls ∧
        (true = true → runCalls (fun _ => true) tankProps shaDataset calls "compression" =
          some ⟨"lz4", .inherited⟩) :=
  ⟨_, shaDataset_saved, ZFSDatasetEditForm.submitInitial_inherits shaDataset_saved (fun _ => true)
    tankProps "compression" (by decide) _ rfl rfl⟩

theorem submitInitial_inherits_inherit_comment_of_sha :
    ∃ calls, ZFSDatasetEditForm.submitInitial exampleDatasetChoices
        (fun name => if name = "org.freenas:description" then some ⟨" inherit", .local⟩
          else shaDataset name) "unix" = .saved calls ∧
      ZfsCall.inheritOption "org.freenas:description" ∈ calls ∧
        (true = true → runCalls (fun _ => true) tankProps
            (fun name => if name = "org.freenas:description" then some ⟨" inherit", .local⟩
              else shaDataset name) calls "org.freenas:description" = none) :=
  have saved : ZFSDatasetEditForm.submitInitial exampleDatasetChoices
      (fun name => if name = "org.freenas:description" then some ⟨" inherit", .local⟩
        else shaDataset name) "unix" =
      .saved [.setOption "quota" "none", .setOption "refquota" "none",
        .setOption "reservation" "none", .setOption "refreservation" "none",
        .inheritOption "org.freenas:description", .inheritOption "sync",
        .inheritOption "compression", .inheritOption "atime", .setOption "dedup" "off",
        .inheritOption "recordsize", .inheritOption "readonly", .inheritOption "exec"] := by
    decide
  ⟨_, saved, ZFSDatasetEditForm.submitInitial_inherits_inherit_comment saved (fun _ => true)
    tankProps rfl (by decide)⟩

theorem submitInitial_sets_description_of_sha :
    ∃ calls, ZVolEditForm.submitInitial exampleZvolChoices 1099511627776 (fun _ => 0) shaZvol =
        .saved calls ∧
      ZfsCall.setOption "org.freenas:description" "" ∈ calls ∧
        (true = true → runCalls (fun _ => true) tankProps shaZvol calls "org.freenas:description" =
          some ⟨"", .local⟩) :=
  ⟨_, shaZvol_saved _, ZVolEditForm.submitInitial_sets_description (shaZvol_saved fun _ => 0)
    (fun _ => true) tankProps⟩

end FreeNAS.Storage
