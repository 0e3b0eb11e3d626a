import FreeNAS.Python.Str

/-!
# Editing several disks at once

`DiskEditBulkForm.__init__` folds the disks' settings into one initial value per field:
the disks' common value, or a sentinel once two disks differ (`''`, and `True` for
`disk_togglesmart`).  `save` writes a choice field only when its value is not empty, but
writes `disk_togglesmart` and `disk_smartoptions` to every disk whatever they hold ("an
empty value should reset all").  So a form submitted as it was built leaves the choice
fields alone, and gives every disk the disks' common S.M.A.R.T. settings, or the
sentinels when they differ.
-/

namespace FreeNAS.Storage

open FreeNAS.Python

/-- The settings of a disk row the bulk form edits. -/
structure Disk where
  hddstandby : String
  advpowermgmt : String
  acousticlevel : String
  togglesmart : Bool
  smartoptions : String
  deriving DecidableEq, Repr

/-- The values of the form's fields. -/
structure BulkValues where
  hddstandby : String
  advpowermgmt : String
  acousticlevel : String
  togglesmart : Bool
  smartoptions : String
  deriving DecidableEq, Repr

/-- The keys of `choices.HDDSTANDBY_CHOICES`, `ADVPOWERMGMT_CHOICES` and
`ACOUSTICLVL_CHOICES`; each field also offers `''`. -/
structure BulkChoices where
  hddstandby : List String
  advpowermgmt : List String
  acousticlevel : List String

/-- One field's entry of `initials` after the loop of `__init__`: the first disk's value,
replaced by `blank` once a disk differs from the entry. -/
def foldInitial {α : Type} [DecidableEq α] (blank : α) (values : List α) : Option α :=
  values.foldl (fun entry value =>
    match entry with
    | none => some value
    | some current => if current ≠ value then some blank else some current) none

/-- The initial values `__init__` gives the fields; a field the loop set no entry for keeps
its declared initial (`"Always On"`, `True`, or none, shown as empty). -/
def DiskEditBulkForm.initial (disks : List Disk) : BulkValues where
  hddstandby := (foldInitial "" (disks.map Disk.hddstandby)).getD "Always On"
  advpowermgmt := (foldInitial "" (disks.map Disk.advpowermgmt)).getD ""
  acousticlevel := (foldInitial "" (disks.map Disk.acousticlevel)).getD ""
  togglesmart := (foldInitial true (disks.map Disk.togglesmart)).getD true
  smartoptions := (foldInitial "" (disks.map Disk.smartoptions)).getD ""

/-- A `ChoiceField(required=False)` offering `''` besides `keys`. -/
def choiceField (keys : List String) (value : String) : Option String :=
  if value = "" ∨ value ∈ keys then some value else none

/-- `CharField(max_length=120, required=False)`: stripped, then checked for length. -/
def smartOptionsField (value : String) : Option String :=
  if (strip value).length ≤ 120 then some (strip value) else none

/-- `cleaned_data` of a submission, or none when a field has an error. -/
def DiskEditBulkForm.clean (choices : BulkChoices) (values : BulkValues) : Option BulkValues := do
  let hddstandby ← choiceField choices.hddstandby values.hddstandby
  let advpowermgmt ← choiceField choices.advpowermgmt values.advpowermgmt
  let acousticlevel ← choiceField choices.acousticlevel values.acousticlevel
  let smartoptions ← smartOptionsField values.smartoptions
  pure ⟨hddstandby, advpowermgmt, acousticlevel, values.togglesmart, smartoptions⟩

/-- `if self.cleaned_data.get(opt): setattr(disk, opt, ...)`. -/
def setIfGiven (cleaned current : String) : String :=
  if cleaned = "" then current else cleaned

/-- `save` on one disk. -/
def DiskEditBulkForm.saveDisk (cleaned : BulkValues) (disk : Disk) : Disk where
  hddstandby := setIfGiven cleaned.hddstandby disk.hddstandby
  advpowermgmt := setIfGiven cleaned.advpowermgmt disk.advpowermgmt
  acousticlevel := setIfGiven cleaned.acousticlevel disk.acousticlevel
  togglesmart := cleaned.togglesmart
  smartoptions := cleaned.smartoptions

/-- The disks after a submission of `values`, or none when the form is not valid. -/
def DiskEditBulkForm.submit (choices : BulkChoices) (disks : List Disk) (values : BulkValues) :
    Option (List Disk) :=
  (DiskEditBulkForm.clean choices values).map fun cleaned =>
    disks.map (DiskEditBulkForm.saveDisk cleaned)

/-- The value every one of `values` has, if they agree. -/
def sharedValue {α : Type} [DecidableEq α] : List α → Option α
  | [] => none
  | value :: rest => if ∀ other ∈ rest, other = value then some value else none

theorem sharedValue_cons {α : Type} [DecidableEq α] (value : α) (rest : List α) :
    sharedValue (value :: rest) = if ∀ other ∈ rest, other = value then some value else none := rfl

theorem eq_of_sharedValue {α : Type} [DecidableEq α] {values : List α} {value : α}
    (shared : sharedValue values = some value) : value ∈ values ∧ ∀ other ∈ values, other = value := by
  cases values with
  | nil => cases shared
  | cons first rest =>
      rw [sharedValue_cons] at shared
      split_ifs at shared with agree
      cases shared
      exact ⟨.head _, by simpa using agree⟩

theorem foldl_initial {α : Type} [DecidableEq α] (blank : α) (rest : List α) (value : α) :
    rest.foldl (fun entry value =>
      match entry with
      | none => some value
      | some current => if current ≠ value then some blank else some current) (some value) =
      some (if ∀ other ∈ rest, other = value then value else blank) := by
  induction rest generalizing value with
  | nil => simp
  | cons next rest ih =>
      by_cases same : value = next
      · subst same
        simpa using ih value
      · have differs : ¬∀ other ∈ next :: rest, other = value := fun agree =>
          same (agree next (.head _)).symm
        simp only [List.foldl_cons, if_pos same, ih, if_neg differs, ite_self]

/-- For disks of one list, `__init__` sets the shared value of a field, or the sentinel. -/
theorem foldInitial_getD {α : Type} [DecidableEq α] (blank default : α) {values : List α}
    (nonempty : values ≠ []) :
    (foldInitial blank values).getD default = (sharedValue values).getD blank := by
  cases values with
  | nil => exact absurd rfl nonempty
  | cons value rest =>
      simp only [foldInitial, List.foldl_cons, foldl_initial, sharedValue]
      split_ifs <;> rfl

/-- Every choice field of `disk` holds a value the field offers. -/
def BulkChoices.Offers (choices : BulkChoices) (disk : Disk) : Prop :=
  disk.hddstandby ∈ "" :: choices.hddstandby ∧ disk.advpowermgmt ∈ "" :: choices.advpowermgmt ∧
    disk.acousticlevel ∈ "" :: choices.acousticlevel

instance (choices : BulkChoices) (disk : Disk) : Decidable (choices.Offers disk) :=
  inferInstanceAs (Decidable (_ ∧ _ ∧ _))

section ChoiceField

variable {keys : List String} {field : Disk → String} {disks : List Disk}

theorem choiceField_shared (offered : ∀ disk ∈ disks, field disk ∈ "" :: keys) :
    choiceField keys ((sharedValue (disks.map field)).getD "") =
      some ((sharedValue (disks.map field)).getD "") := by
  unfold choiceField
  cases shared : sharedValue (disks.map field) with
  | none => simp
  | some value =>
      obtain ⟨disk, member, rfl⟩ := List.mem_map.mp (eq_of_sharedValue shared).1
      exact if_pos (List.mem_cons.mp (offered disk member))

theorem setIfGiven_shared {disk : Disk} (member : disk ∈ disks) :
    setIfGiven ((sharedValue (disks.map field)).getD "") (field disk) = field disk := by
  unfold setIfGiven
  cases shared : sharedValue (disks.map field) with
  | none => simp
  | some value =>
      have same := (eq_of_sharedValue shared).2 (field disk) (List.mem_map_of_mem _ member)
      simp [same]

end ChoiceField

theorem saveDisk_shared {disks : List Disk} {disk : Disk} (member : disk ∈ disks)
    (togglesmart : Bool) (smartoptions : String) :
    DiskEditBulkForm.saveDisk ⟨(sharedValue (disks.map Disk.hddstandby)).getD "",
        (sharedValue (disks.map Disk.advpowermgmt)).getD "",
        (sharedValue (disks.map Disk.acousticlevel)).getD "", togglesmart, smartoptions⟩ disk =
      { disk with togglesmart := togglesmart, smartoptions := smartoptions } := by
  simp only [DiskEditBulkForm.saveDisk, @setIfGiven_shared Disk.hddstandby disks disk member,
    @setIfGiven_shared Disk.advpowermgmt disks disk member,
    @setIfGiven_shared Disk.acousticlevel disks disk member]

/-- Submitting the bulk form for a non-empty list of disks with the values it was built with:
the form is valid unless the disks' shared S.M.A.R.T. options, stripped, are longer than 120
characters, and `save` then leaves every disk's choice fields as they were and gives every
disk the shared `disk_togglesmart` (`True` if the disks differ) and the shared
`disk_smartoptions` stripped (`''` if they differ). -/
theorem submit_initial (choices : BulkChoices) (disks : List Disk) (nonempty : disks ≠ [])
    (offered : ∀ disk ∈ disks, choices.Offers disk) :
    DiskEditBulkForm.submit choices disks (DiskEditBulkForm.initial disks) =
      if ∀ options ∈ sharedValue (disks.map Disk.smartoptions), (strip options).length ≤ 120 then
        some (disks.map fun disk => { disk with
          togglesmart := (sharedValue (disks.map Disk.togglesmart)).getD true
          smartoptions := ((sharedValue (disks.map Disk.smartoptions)).map strip).getD "" })
      else none := by
  simp only [DiskEditBulkForm.submit, DiskEditBulkForm.initial, DiskEditBulkForm.clean,
    foldInitial_getD _ _ (mt List.map_eq_nil_iff.mp nonempty),
    choiceField_shared fun disk member => (offered disk member).1,
    choiceField_shared fun disk member => (offered disk member).2.1,
    choiceField_shared fun disk member => (offered disk member).2.2, Option.pure_def,
    Option.bind_eq_bind, Option.some_bind]
  have saved (togglesmart : Bool) (smartoptions : String) :
      disks.map (DiskEditBulkForm.saveDisk ⟨(sharedValue (disks.map Disk.hddstandby)).getD "",
        (sharedValue (disks.map Disk.advpowermgmt)).getD "",
        (sharedValue (disks.map Disk.acousticlevel)).getD "", togglesmart, smartoptions⟩) =
      disks.map fun disk => { disk with togglesmart := togglesmart, smartoptions := smartoptions } :=
    List.map_congr_left fun disk member => saveDisk_shared member togglesmart smartoptions
  cases shared : sharedValue (disks.map Disk.smartoptions) with
  | none => simp [smartOptionsField, saved, strip, stripChars]
  | some options =>
      simp only [smartOptionsField, Option.getD_some, Option.mem_def, Option.some.injEq, forall_eq',
        Option.map_some']
      split_ifs <;> simp [saved]

/-- Two disks that differ only in their standby setting come back unchanged. -/
theorem submit_initial_of_mixed_standby :
    DiskEditBulkForm.submit ⟨["Always On", "5"], ["1"], ["Minimum"]⟩
        [⟨"5", "1", "Minimum", true, "-a"⟩, ⟨"Always On", "1", "Minimum", true, "-a"⟩]
        (DiskEditBulkForm.initial
          [⟨"5", "1", "Minimum", true, "-a"⟩, ⟨"Always On", "1", "Minimum", true, "-a"⟩]) =
      some [⟨"5", "1", "Minimum", true, "-a"⟩, ⟨"Always On", "1", "Minimum", true, "-a"⟩] :=
  (submit_initial _ _ (by decide) (by decide)).trans (by decide)

/-- Two disks that differ in their S.M.A.R.T. settings: both come back with S.M.A.R.T. on and
no extra options. -/
theorem submit_initial_resets_smart :
    DiskEditBulkForm.submit ⟨["Always On"], ["1"], ["Minimum"]⟩
        [⟨"Always On", "1", "Minimum", true, "-a"⟩, ⟨"Always On", "1", "Minimum", false, ""⟩]
        (DiskEditBulkForm.initial
          [⟨"Always On", "1", "Minimum", true, "-a"⟩, ⟨"Always On", "1", "Minimum", false, ""⟩]) =
      some [⟨"Always On", "1", "Minimum", true, ""⟩, ⟨"Always On", "1", "Minimum", true, ""⟩] := by
  decide

end FreeNAS.Storage
