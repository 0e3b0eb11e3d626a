import Mathlib.Data.List.Basic
import FreeNAS.Python.Str

/-!
# The volume layout formset

`VolumeVdevForm` cleans one row of the volume manager's layout, a vdev type and the
disks picked for it, and `VdevFormSet.clean` checks the rows together.  A new volume
needs one kind of data vdev and at most one cache, log and spare row; an extension of
an existing pool must match every data vdev the pool already has.

Both fields are `CharField`s.  `vdevtype` is stripped, then must be filled and hold at
most 20 characters.  `disks` reads the list the select widget posts: an empty list is
blank, any other is cleaned as its `str()`, which may hold at most 800 characters and
which `clean_disks` gives back to `eval`.  An extra form whose stripped type is blank and
whose disks are empty has not changed, and its validation is skipped.
-/

namespace FreeNAS.Storage

open FreeNAS.Python

theorem bind_eq_ok_iff {ε α β : Type} {x : Except ε α} {f : α → Except ε β} {b : β} :
    (x >>= f) = .ok b ↔ ∃ a, x = .ok a ∧ f a = .ok b := by
  cases x <;> simp [bind, Except.bind]

/-- The types `VdevFormSet.clean` counts as data vdevs. -/
def dataVdevTypes : List String := ["mirror", "stripe", "raidz", "raidz2", "raidz3"]

/-- The types of which a layout may hold one row each. -/
def singleVdevTypes : List String := ["cache", "log", "log mirror", "spare"]

/-- One row of the `layout` formset as posted. -/
structure VdevRow where
  vdevtype : String
  disks : List String
  deriving DecidableEq, Repr

/-- A row whose form cleaned without errors: the group handed on to the notifier. -/
structure VdevGroup where
  vdevtype : String
  disks : List String
  deriving DecidableEq, Repr

/-- The field errors of `VolumeVdevForm`. -/
inductive VdevFieldError where
  | required (field : String)
  | maxLength (field : String) (limit shown : Nat)
  | tooFewDisks (needed : Nat)
  deriving DecidableEq, Repr

/-- The field an error is reported on. -/
def VdevFieldError.field : VdevFieldError → String
  | .required field => field
  | .maxLength field _ _ => field
  | .tooFewDisks _ => "disks"

def VdevFieldError.message : VdevFieldError → String
  | .required _ => "This field is required."
  | .maxLength _ limit shown =>
      "Ensure this value has at most " ++ toString limit ++ " characters (it has " ++
        toString shown ++ ")."
  | .tooFewDisks needed => "You need at least " ++ toString needed ++ " disks"

/-- The errors `VdevFormSet.clean` raises. -/
inductive VdevError where
  | onlyOneRow (name : String)
  | mixedDataTypes (vdev1 vdev2 : String)
  | noDataGroup
  | typeMismatch (addtype vdevtype : String)
  | widthMismatch (addnum vdevnum : Nat)
  deriving DecidableEq, Repr

def VdevError.message : VdevError → String
  | .onlyOneRow name =>
      "Only one row for the vitual device of type " ++ name ++ " is allowed."
  | .mixedDataTypes vdev1 vdev2 =>
      "You are not allowed to create a volume with different data vdev types (" ++ vdev1 ++
        " and " ++ vdev2 ++ ")"
  | .noDataGroup => "You need a data disk group"
  | .typeMismatch addtype vdevtype =>
      "You are trying to add a virtual device of type '" ++ addtype ++
        "' in a pool that has a virtual device of type '" ++ vdevtype ++ "'"
  | .widthMismatch addnum vdevnum =>
      "You are trying to add a virtual device consisting of " ++ toString addnum ++
        " device(s) in a pool that has a virtual device consisting of " ++ toString vdevnum ++
        " device(s)"

/-- A required `CharField` with a length limit: `to_python` strips the text, `validate`
refuses it blank, and `MaxLengthValidator` counts what is left. -/
def charField (field : String) (maxLength : Nat) (value : String) :
    Except VdevFieldError String :=
  if strip value = "" then .error (.required field)
  else if maxLength < (strip value).length then
    .error (.maxLength field maxLength (strip value).length)
  else .ok (strip value)

/-- The widths `clean_disks` insists on. -/
def minDisksTable : List (String × Nat) :=
  [("mirror", 2), ("raidz", 3), ("raidz2", 4), ("raidz3", 5)]

/-- `VolumeVdevForm.clean_disks`, given the `vdevtype` already cleaned (if it was). -/
def VolumeVdevForm.cleanDisks (vdev : Option String) (disks : List String) :
    Except VdevFieldError (List String) :=
  match vdev.bind minDisksTable.lookup with
  | some needed => if disks.length < needed then .error (.tooFewDisks needed) else .ok disks
  | none => .ok disks

/-- `VolumeVdevForm.clean`: the `vdevtype` it leaves, or `none` when it evaluates
`len(None)` on a log row whose disks did not clean. -/
def VolumeVdevForm.clean (vdevtype : Option String) (disks : Option (List String)) :
    Option (Option String) :=
  if vdevtype = some "log" then
    match disks with
    | some disks => some (some (if 1 < disks.length then "log mirror" else "log"))
    | none => none
  else some vdevtype

/-- What validating one `VolumeVdevForm` comes to. -/
inductive VdevFormResult where
  | skipped
  | invalid (errors : List VdevFieldError)
  | valid (group : VdevGroup)
  | crashed
  deriving DecidableEq, Repr

/-- The errors a field's cleaning left. -/
def fieldErrors {α : Type} : Except VdevFieldError α → List VdevFieldError
  | .error e => [e]
  | .ok _ => []

/-- The `disks` field on the list the widget posts: required, at most 800 characters of
`str(disks)` (`printable` is the interpreter's `str.isprintable` beyond ASCII), then
`clean_disks`. -/
def VolumeVdevForm.disksField (printable : Char → Bool) (vdev : Option String)
    (disks : List String) : Except VdevFieldError (List String) :=
  if disks = [] then .error (.required "disks")
  else if 800 < listReprLength printable disks then
    .error (.maxLength "disks" 800 (listReprLength printable disks))
  else VolumeVdevForm.cleanDisks vdev disks

/-- The end of `full_clean` once the fields are cleaned: `clean` runs, and the form is
valid when both fields are left in `cleaned_data`. -/
def VolumeVdevForm.finish (vdevtype : Option String) (disks : Option (List String))
    (errors : List VdevFieldError) : VdevFormResult :=
  match VolumeVdevForm.clean vdevtype disks, disks with
  | none, _ => .crashed
  | some (some vdevtype), some disks => .valid ⟨vdevtype, disks⟩
  | some _, _ => .invalid errors

/-- Django's `full_clean` of one row: the fields, `clean_disks`, then `clean`. -/
def VolumeVdevForm.fullClean (printable : Char → Bool) (row : VdevRow) : VdevFormResult :=
  if strip row.vdevtype = "" ∧ row.disks = [] then .skipped
  else
    let vdevtype := charField "vdevtype" 20 row.vdevtype
    let disks := VolumeVdevForm.disksField printable vdevtype.toOption row.disks
    VolumeVdevForm.finish vdevtype.toOption disks.toOption
      (fieldErrors vdevtype ++ fieldErrors disks)

/-- `VdevFormSet._clean_vdevtype`: the kinds found so far, or the error for a second row
of one kind. -/
def VdevFormSet.cleanVdevtype (vdevfound : List String) :
    Option String → Except VdevError (List String)
  | some vdevtype =>
      if vdevtype ∈ singleVdevTypes then
        let name := if vdevtype = "log mirror" then "log" else vdevtype
        if name ∈ vdevfound then .error (.onlyOneRow name) else .ok (name :: vdevfound)
      else .ok vdevfound
  | none => .ok vdevfound

/-- The locals of the new-volume loop of `VdevFormSet.clean`. -/
structure NewVolumeScan where
  hasDatavdev : Bool
  datatype : Option String
  vdevfound : List String
  deriving DecidableEq, Repr

/-- One iteration of the new-volume loop, on the `vdevtype` of one form. -/
def VdevFormSet.newVolumeStep (scan : NewVolumeScan) (vdevtype : Option String) :
    Except VdevError NewVolumeScan :=
  match vdevtype with
  | some vdevtype =>
      if vdevtype ∈ dataVdevTypes then
        match scan.datatype with
        | some datatype =>
            if datatype ≠ vdevtype then .error (.mixedDataTypes datatype vdevtype)
            else .ok { scan with hasDatavdev := true, datatype := some vdevtype }
        | none => .ok { scan with hasDatavdev := true, datatype := some vdevtype }
      else
        (VdevFormSet.cleanVdevtype scan.vdevfound (some vdevtype)).map
          fun vdevfound => { scan with vdevfound := vdevfound }
  | none =>
      (VdevFormSet.cleanVdevtype scan.vdevfound none).map
        fun vdevfound => { scan with vdevfound := vdevfound }

def VdevFormSet.newVolumeScan (scan : NewVolumeScan) :
    List (Option String) → Except VdevError NewVolumeScan
  | [] => .ok scan
  | vdevtype :: rest =>
      VdevFormSet.newVolumeStep scan vdevtype >>= fun scan => VdevFormSet.newVolumeScan scan rest

/-- The `vdevtype` each form leaves in `cleaned_data` (`None` for a skipped form). -/
def formTypes (forms : List (Option VdevGroup)) : List (Option String) :=
  forms.map fun form => form.map VdevGroup.vdevtype

/-- The branch of `VdevFormSet.clean` for a new volume. -/
def VdevFormSet.cleanNewVolume (forms : List (Option VdevGroup)) : Except VdevError Unit :=
  VdevFormSet.newVolumeScan ⟨false, none, []⟩ (formTypes forms) >>= fun scan =>
    if scan.hasDatavdev then .ok () else .error .noDataGroup

/-- A vdev of `notifier().zpool_parse(...).data`. -/
structure ZVdev where
  type : String
  devices : List String
  deriving DecidableEq, Repr

/-- The first loop of the extension branch: one row of each single kind. -/
def VdevFormSet.singleRowsScan (vdevfound : List String) :
    List (Option VdevGroup) → Except VdevError (List String)
  | [] => .ok vdevfound
  | none :: rest => VdevFormSet.singleRowsScan vdevfound rest
  | some form :: rest =>
      if form.vdevtype ∈ singleVdevTypes then
        VdevFormSet.cleanVdevtype vdevfound (some form.vdevtype) >>= fun vdevfound =>
          VdevFormSet.singleRowsScan vdevfound rest
      else VdevFormSet.singleRowsScan vdevfound rest

/-- The inner loop of the extension branch: every data row against one pool vdev. -/
def VdevFormSet.matchVdev (vdev : ZVdev) : List (Option VdevGroup) → Except VdevError Unit
  | [] => .ok ()
  | none :: rest => VdevFormSet.matchVdev vdev rest
  | some form :: rest =>
      if form.vdevtype ∈ singleVdevTypes then VdevFormSet.matchVdev vdev rest
      else if vdev.type ≠ form.vdevtype then .error (.typeMismatch form.vdevtype vdev.type)
      else if form.disks.length ≠ vdev.devices.length then
        .error (.widthMismatch form.disks.length vdev.devices.length)
      else VdevFormSet.matchVdev vdev rest

/-- The outer loop of the extension branch, over the pool's data vdevs. -/
def VdevFormSet.matchPool (forms : List (Option VdevGroup)) : List ZVdev → Except VdevError Unit
  | [] => .ok ()
  | vdev :: rest => VdevFormSet.matchVdev vdev forms >>= fun _ => VdevFormSet.matchPool forms rest

/-- The branch of `VdevFormSet.clean` for `volume_add`, given the parsed pool's data vdevs. -/
def VdevFormSet.cleanExtension (data : List ZVdev) (forms : List (Option VdevGroup)) :
    Except VdevError Unit :=
  VdevFormSet.singleRowsScan [] forms >>= fun _ => VdevFormSet.matchPool forms data

/-- `VdevFormSet.clean` once every form is valid; `zpoolParse` is `notifier().zpool_parse`. -/
def VdevFormSet.clean (volumeAdd : String) (zpoolParse : String → List ZVdev)
    (forms : List (Option VdevGroup)) : Except VdevError Unit :=
  if volumeAdd = "" then VdevFormSet.cleanNewVolume forms
  else VdevFormSet.cleanExtension (zpoolParse volumeAdd) forms

/-- What `is_valid` of the layout formset comes to. -/
inductive VdevFormSetResult where
  | crashed
  | formErrors
  | rejected (error : VdevError)
  | accepted (forms : List (Option VdevGroup))
  deriving DecidableEq, Repr

/-- The cleaned data of every form, when none of them has errors. -/
def collectForms : List VdevFormResult → Option (List (Option VdevGroup))
  | [] => some []
  | .skipped :: rest => (collectForms rest).map (none :: ·)
  | .valid group :: rest => (collectForms rest).map (some group :: ·)
  | _ :: _ => none

def VdevFormSetResult.crashes : VdevFormResult → Bool
  | .crashed => true
  | _ => false

/-- `VdevFormSet.is_valid`: every form is cleaned in order (an exception escapes at once),
then the formset's `clean` runs if no form has errors. -/
def VdevFormSet.isValid (printable : Char → Bool) (volumeAdd : String)
    (zpoolParse : String → List ZVdev) (rows : List VdevRow) : VdevFormSetResult :=
  let results := rows.map (VolumeVdevForm.fullClean printable)
  if results.any VdevFormSetResult.crashes then .crashed
  else
    match collectForms results with
    | none => .formErrors
    | some forms =>
        match VdevFormSet.clean volumeAdd zpoolParse forms with
        | .ok () => .accepted forms
        | .error error => .rejected error

end FreeNAS.Storage
