import FreeNAS.Storage.VdevForm

/-!
# Which layouts the volume manager accepts

The rows of the layout formset are first cleaned one by one, then the new-volume loop
of `VdevFormSet.clean` walks their types with three locals: whether a data row was
seen, the data type seen first, and the single kinds (cache, log, spare) seen.
`ScanAllows` says what the loop still asks of the rows to come; it is carried through
the loop by `newVolumeScan_hasDatavdev_iff`, and `NewLayoutOk` states the outcome over
the posted rows.

Cleaning a row raises something other than a validation error on one kind of row only:
a row whose stripped type is `log` and whose disks field failed, where `clean` takes
`len(None)` (`VdevRow.Crashes`).
-/

namespace FreeNAS.Storage

open FreeNAS.Python

section Rows

variable {printable : Char → Bool}

theorem charField_toOption (field : String) (maxLength : Nat) (value : String) :
    (charField field maxLength value).toOption =
      if strip value ≠ "" ∧ (strip value).length ≤ maxLength then some (strip value)
      else none := by
  unfold charField
  split_ifs <;> simp_all [Except.toOption]
  omega

/-- The `disks` field passes as a `CharField`: some disks, and a `str()` of at most 800
characters. -/
def DisksFit (printable : Char → Bool) (disks : List String) : Prop :=
  disks ≠ [] ∧ listReprLength printable disks ≤ 800

instance (disks : List String) : Decidable (DisksFit printable disks) :=
  inferInstanceAs (Decidable (_ ∧ _))

theorem disksField_toOption (vdev : Option String) (disks : List String) :
    (VolumeVdevForm.disksField printable vdev disks).toOption =
      if DisksFit printable disks ∧
          ∀ needed ∈ vdev.bind minDisksTable.lookup, needed ≤ disks.length then
        some disks
      else none := by
  unfold VolumeVdevForm.disksField VolumeVdevForm.cleanDisks DisksFit
  cases vdev.bind minDisksTable.lookup <;> dsimp only <;> split_ifs <;>
    simp_all [Except.toOption] <;> omega

theorem finish_eq_valid_iff {vdevtype : Option String} {disks : Option (List String)}
    {errors : List VdevFieldError} {group : VdevGroup} :
    VolumeVdevForm.finish vdevtype disks errors = .valid group ↔
      ∃ cleaned cleanedDisks, vdevtype = some cleaned ∧ disks = some cleanedDisks ∧
        group = ⟨if cleaned = "log" ∧ 1 < cleanedDisks.length then "log mirror" else cleaned,
          cleanedDisks⟩ := by
  unfold VolumeVdevForm.finish VolumeVdevForm.clean
  rcases vdevtype with _ | vdevtype
  · cases disks <;> simp
  rcases disks with _ | disks
  · split_ifs <;> simp
  by_cases log : vdevtype = "log"
  · subst log
    by_cases two : 1 < disks.length <;> simp [two, eq_comm]
  · simp [log, eq_comm]

theorem finish_eq_crashed_iff {vdevtype : Option String} {disks : Option (List String)}
    {errors : List VdevFieldError} :
    VolumeVdevForm.finish vdevtype disks errors = .crashed ↔
      vdevtype = some "log" ∧ disks = none := by
  unfold VolumeVdevForm.finish VolumeVdevForm.clean
  rcases vdevtype with _ | vdevtype
  · cases disks <;> simp
  rcases disks with _ | disks <;> split_ifs <;> simp_all

/-- An unchanged extra form: a blank type once stripped, and no disks. -/
def VdevRow.IsBlank (row : VdevRow) : Prop := strip row.vdevtype = "" ∧ row.disks = []

instance (row : VdevRow) : Decidable row.IsBlank := inferInstanceAs (Decidable (_ ∧ _))

/-- A row its form cleans without errors. -/
def VdevRow.Fills (printable : Char → Bool) (row : VdevRow) : Prop :=
  strip row.vdevtype ≠ "" ∧ (strip row.vdevtype).length ≤ 20 ∧ DisksFit printable row.disks ∧
    ∀ needed ∈ minDisksTable.lookup (strip row.vdevtype), needed ≤ row.disks.length

instance (row : VdevRow) : Decidable (row.Fills printable) :=
  inferInstanceAs (Decidable (_ ∧ _ ∧ _ ∧ _))

/-- A row on which `VolumeVdevForm.clean` raises: a log row whose disks did not clean. -/
def VdevRow.Crashes (printable : Char → Bool) (row : VdevRow) : Prop :=
  strip row.vdevtype = "log" ∧ ¬DisksFit printable row.disks

instance (row : VdevRow) : Decidable (row.Crashes printable) :=
  inferInstanceAs (Decidable (_ ∧ _))

/-- The type a cleaned row carries: the stripped one, a log row of several disks becoming a
log mirror. -/
def VdevRow.cleanedType (row : VdevRow) : String :=
  if strip row.vdevtype = "log" ∧ 1 < row.disks.length then "log mirror" else strip row.vdevtype

/-- The cleaned data of a row that passes: nothing for a blank row. -/
def VdevRow.cleaned (row : VdevRow) : Option VdevGroup :=
  if row.IsBlank then none else some ⟨row.cleanedType, row.disks⟩

theorem VdevRow.Crashes.not_cleans {row : VdevRow} (crashes : row.Crashes printable) :
    ¬(row.IsBlank ∨ row.Fills printable) := by
  rintro (blank | fills)
  · exact absurd (crashes.1.symm.trans blank.1) (by decide)
  · exact crashes.2 fills.2.2.1

theorem fullClean_eq_skipped_iff {row : VdevRow} :
    VolumeVdevForm.fullClean printable row = .skipped ↔ row.IsBlank := by
  unfold VolumeVdevForm.fullClean VolumeVdevForm.finish VdevRow.IsBlank
  split_ifs with blank
  · simp [blank]
  · simp only [blank, iff_false]
    split <;> simp

theorem fullClean_eq_valid_iff {row : VdevRow} {group : VdevGroup} :
    VolumeVdevForm.fullClean printable row = .valid group ↔
      row.Fills printable ∧ group = ⟨row.cleanedType, row.disks⟩ := by
  obtain ⟨vdevtype, disks⟩ := row
  simp only [VolumeVdevForm.fullClean]
  split_ifs with blank
  · simp [VdevRow.Fills, blank.1]
  simp only [finish_eq_valid_iff, charField_toOption]
  by_cases typeOk : strip vdevtype ≠ "" ∧ (strip vdevtype).length ≤ 20
  · simp only [if_pos typeOk, Option.some.injEq, disksField_toOption, Option.bind_some]
    constructor
    · rintro ⟨_, _, rfl, disksOk, rfl⟩
      split_ifs at disksOk with valid
      cases disksOk
      exact ⟨⟨typeOk.1, typeOk.2, valid⟩, rfl⟩
    · rintro ⟨valid, rfl⟩
      exact ⟨_, _, rfl, if_pos ⟨valid.2.2.1, valid.2.2.2⟩, rfl⟩
  · simp only [if_neg typeOk]
    exact iff_of_false (by simp) fun ⟨fills, _⟩ => typeOk ⟨fills.1, fills.2.1⟩

theorem fullClean_eq_crashed_iff {row : VdevRow} :
    VolumeVdevForm.fullClean printable row = .crashed ↔ row.Crashes printable := by
  obtain ⟨vdevtype, disks⟩ := row
  simp only [VolumeVdevForm.fullClean, VdevRow.Crashes]
  split_ifs with blank
  · simp [blank.1]
  simp only [finish_eq_crashed_iff, charField_toOption, disksField_toOption]
  by_cases log : strip vdevtype = "log"
  · have filled : "log" ≠ "" := by decide
    have short : "log".length ≤ 20 := by decide
    have unbounded : minDisksTable.lookup "log" = none := by decide
    simp [log, filled, short, unbounded]
  · simp [log]

end Rows

/-- The data type a form's `vdevtype` stands for, if it is one. -/
def dataType? (vdevtype : String) : Option String :=
  if vdevtype ∈ dataVdevTypes then some vdevtype else none

/-- The single kind a form's `vdevtype` takes up, if any (`log mirror` is a log). -/
def singleKind? (vdevtype : String) : Option String :=
  if vdevtype ∈ singleVdevTypes then some (if vdevtype = "log mirror" then "log" else vdevtype)
  else none

def dataTypesOf (types : List (Option String)) : List String :=
  types.filterMap (·.bind dataType?)

def singleKindsOf (types : List (Option String)) : List String :=
  types.filterMap (·.bind singleKind?)

theorem singleKind?_eq_none_of_data {vdevtype : String} (data : vdevtype ∈ dataVdevTypes) :
    singleKind? vdevtype = none := by
  simp only [dataVdevTypes, List.mem_cons, List.mem_singleton, List.not_mem_nil, or_false] at data
  rcases data with rfl | rfl | rfl | rfl | rfl <;> decide

theorem cleanVdevtype_eq_ok_iff {vdevfound : List String} {vdevtype : Option String}
    {found : List String} :
    VdevFormSet.cleanVdevtype vdevfound vdevtype = .ok found ↔
      (∀ kind ∈ vdevtype.bind singleKind?, kind ∉ vdevfound) ∧
        found = (vdevtype.bind singleKind?).toList ++ vdevfound := by
  rcases vdevtype with _ | vdevtype
  · simp [VdevFormSet.cleanVdevtype, eq_comm]
  · have byKind : VdevFormSet.cleanVdevtype vdevfound (some vdevtype) =
        match singleKind? vdevtype with
        | some name => if name ∈ vdevfound then .error (.onlyOneRow name) else .ok (name :: vdevfound)
        | none => .ok vdevfound := by
      unfold VdevFormSet.cleanVdevtype singleKind?
      split_ifs <;> simp_all
    rw [byKind, Option.some_bind]
    cases singleKind? vdevtype with
    | none => simp [eq_comm]
    | some name => by_cases found : name ∈ vdevfound <;> simp [found, eq_comm]

theorem except_map_eq_ok_iff {ε α β : Type} {f : α → β} {x : Except ε α} {b : β} :
    x.map f = .ok b ↔ ∃ a, x = .ok a ∧ f a = b := by
  cases x <;> simp [Except.map]

/-- The loop's locals after a form that passes. -/
def NewVolumeScan.next (scan : NewVolumeScan) (vdevtype : Option String) : NewVolumeScan :=
  ⟨scan.hasDatavdev || (vdevtype.bind dataType?).isSome, (vdevtype.bind dataType?).or scan.datatype,
    (vdevtype.bind singleKind?).toList ++ scan.vdevfound⟩

theorem newVolumeStep_eq_ok_iff {scan scan' : NewVolumeScan} {vdevtype : Option String} :
    VdevFormSet.newVolumeStep scan vdevtype = .ok scan' ↔
      (∀ datatype ∈ vdevtype.bind dataType?, ∀ earlier ∈ scan.datatype, earlier = datatype) ∧
      (∀ kind ∈ vdevtype.bind singleKind?, kind ∉ scan.vdevfound) ∧
      scan.next vdevtype = scan' := by
  unfold NewVolumeScan.next
  rcases vdevtype with _ | vdevtype
  · simp [VdevFormSet.newVolumeStep, VdevFormSet.cleanVdevtype, Except.map]
  simp only [VdevFormSet.newVolumeStep, Option.some_bind]
  by_cases data : vdevtype ∈ dataVdevTypes
  · have isData : dataType? vdevtype = some vdevtype := if_pos data
    rw [if_pos data, isData, singleKind?_eq_none_of_data data]
    rcases scan with ⟨hasDatavdev, _ | datatype, vdevfound⟩
    · simp
    · by_cases same : datatype = vdevtype <;> simp [same]
  · have notData : dataType? vdevtype = none := if_neg data
    rw [if_neg data, notData, except_map_eq_ok_iff]
    simp [cleanVdevtype_eq_ok_iff, and_assoc]

theorem dataType?_singleKind? (vdevtype : Option String) :
    vdevtype.bind dataType? = none ∨ vdevtype.bind singleKind? = none := by
  rcases vdevtype with _ | vdevtype
  · simp
  by_cases data : vdevtype ∈ dataVdevTypes
  · exact .inr (singleKind?_eq_none_of_data data)
  · exact .inl (if_neg data)

@[simp] theorem dataTypesOf_nil : dataTypesOf [] = [] := rfl

@[simp] theorem dataTypesOf_cons (vdevtype : Option String) (rest : List (Option String)) :
    dataTypesOf (vdevtype :: rest) = (vdevtype.bind dataType?).toList ++ dataTypesOf rest := by
  cases h : vdevtype.bind dataType? <;> simp [dataTypesOf, h]

@[simp] theorem singleKindsOf_nil : singleKindsOf [] = [] := rfl

@[simp] theorem singleKindsOf_cons (vdevtype : Option String) (rest : List (Option String)) :
    singleKindsOf (vdevtype :: rest) = (vdevtype.bind singleKind?).toList ++ singleKindsOf rest := by
  cases h : vdevtype.bind singleKind? <;> simp [singleKindsOf, h]

/-- All strings of the list are one. -/
def AllSame (values : List String) : Prop := ∀ value ∈ values, ∀ other ∈ values, other = value

instance (values : List String) : Decidable (AllSame values) :=
  inferInstanceAs (Decidable (∀ value ∈ values, ∀ other ∈ values, other = value))

theorem allSame_cons {value : String} {rest : List String} :
    AllSame (value :: rest) ↔ ∀ other ∈ rest, other = value := by
  constructor
  · intro same other member
    exact same value (.head _) other (.tail _ member)
  · intro same first firstMember other otherMember
    have isValue : ∀ item ∈ value :: rest, item = value := by
      intro item member
      rcases List.mem_cons.mp member with rfl | member
      · rfl
      · exact same item member
    rw [isValue other otherMember, isValue first firstMember]

theorem allSame_toList (value : Option String) : AllSame value.toList := by
  rcases value with _ | value <;> simp [AllSame]

theorem allSame_earlier_cons {earlier : Option String} {value : String} {rest : List String} :
    AllSame (earlier.toList ++ value :: rest) ↔
      (∀ first ∈ earlier, first = value) ∧ AllSame (value :: rest) := by
  rcases earlier with _ | first
  · simp
  · simp only [Option.toList_some, List.singleton_append, allSame_cons, List.mem_cons,
      forall_eq_or_imp, Option.mem_def, Option.some.injEq, forall_eq']
    constructor
    · rintro ⟨same, rest⟩
      subst same
      exact ⟨rfl, rest⟩
    · rintro ⟨same, rest⟩
      subst same
      exact ⟨rfl, rest⟩

/-- The single kinds still to come are distinct and none was found already. -/
def KindsFresh (vdevfound kinds : List String) : Prop :=
  kinds.Nodup ∧ ∀ kind ∈ kinds, kind ∉ vdevfound

theorem kindsFresh_cons {vdevfound rest : List String} {kind : String} :
    KindsFresh vdevfound (kind :: rest) ↔ kind ∉ vdevfound ∧ KindsFresh (kind :: vdevfound) rest := by
  simp only [KindsFresh, List.nodup_cons, List.mem_cons, forall_eq_or_imp, not_or]
  constructor
  · rintro ⟨⟨fresh, nodup⟩, notFound, restFresh⟩
    exact ⟨notFound, nodup, fun other member => ⟨fun same => fresh (same ▸ member),
      restFresh other member⟩⟩
  · rintro ⟨notFound, nodup, restFresh⟩
    exact ⟨⟨fun member => (restFresh kind member).1 rfl, nodup⟩, notFound,
      fun other member => (restFresh other member).2⟩

/-- What the rest of the new-volume loop asks of the forms still to come. -/
def ScanAllows (scan : NewVolumeScan) (types : List (Option String)) : Prop :=
  AllSame (scan.datatype.toList ++ dataTypesOf types) ∧
    KindsFresh scan.vdevfound (singleKindsOf types)

theorem newVolumeScan_cons_iff {scan : NewVolumeScan} {vdevtype : Option String}
    {rest : List (Option String)} {goal : NewVolumeScan → Prop} :
    (∃ scan', VdevFormSet.newVolumeScan scan (vdevtype :: rest) = .ok scan' ∧ goal scan') ↔
      (∀ datatype ∈ vdevtype.bind dataType?, ∀ earlier ∈ scan.datatype, earlier = datatype) ∧
      (∀ kind ∈ vdevtype.bind singleKind?, kind ∉ scan.vdevfound) ∧
      ∃ scan', VdevFormSet.newVolumeScan (scan.next vdevtype) rest = .ok scan' ∧ goal scan' := by
  simp only [VdevFormSet.newVolumeScan, bind_eq_ok_iff, newVolumeStep_eq_ok_iff]
  constructor
  · rintro ⟨scan', ⟨_, ⟨datatypeOk, kindOk, rfl⟩, run⟩, reached⟩
    exact ⟨datatypeOk, kindOk, scan', run, reached⟩
  · rintro ⟨datatypeOk, kindOk, scan', run, reached⟩
    exact ⟨scan', ⟨_, ⟨datatypeOk, kindOk, rfl⟩, run⟩, reached⟩

theorem newVolumeScan_hasDatavdev_iff (scan : NewVolumeScan) (types : List (Option String)) :
    (∃ scan', VdevFormSet.newVolumeScan scan types = .ok scan' ∧ scan'.hasDatavdev = true) ↔
      ScanAllows scan types ∧ (scan.hasDatavdev = true ∨ dataTypesOf types ≠ []) := by
  induction types generalizing scan with
  | nil => simp [VdevFormSet.newVolumeScan, ScanAllows, allSame_toList, KindsFresh]
  | cons vdevtype rest ih =>
      rw [newVolumeScan_cons_iff, ih]
      rcases dataType?_singleKind? vdevtype with noData | noKind
      · cases kind : vdevtype.bind singleKind? with
        | none => simp [ScanAllows, NewVolumeScan.next, noData, kind]
        | some kind =>
            simp only [ScanAllows, NewVolumeScan.next, noData, kind, dataTypesOf_cons,
              singleKindsOf_cons, Option.toList_some, List.singleton_append, kindsFresh_cons]
            simp
            tauto
      · cases data : vdevtype.bind dataType? with
        | none => simp [ScanAllows, NewVolumeScan.next, data, noKind]
        | some datatype =>
            simp only [ScanAllows, NewVolumeScan.next, data, noKind, dataTypesOf_cons,
              singleKindsOf_cons, Option.toList_some, List.singleton_append, allSame_earlier_cons]
            simp
            tauto

section Formset

variable {printable : Char → Bool}

theorem fullClean_of_blank {row : VdevRow} (blank : row.IsBlank) :
    VolumeVdevForm.fullClean printable row = .skipped :=
  fullClean_eq_skipped_iff.mpr blank

theorem fullClean_of_fills {row : VdevRow} (fills : row.Fills printable) :
    VolumeVdevForm.fullClean printable row = .valid ⟨row.cleanedType, row.disks⟩ :=
  fullClean_eq_valid_iff.mpr ⟨fills, rfl⟩

theorem collectForms_map_fullClean (rows : List VdevRow) :
    collectForms (rows.map (VolumeVdevForm.fullClean printable)) =
      if ∀ row ∈ rows, row.IsBlank ∨ row.Fills printable then some (rows.map VdevRow.cleaned)
      else none := by
  induction rows with
  | nil => rfl
  | cons row rest ih =>
      by_cases blank : row.IsBlank
      · simp [collectForms, fullClean_of_blank blank, ih, VdevRow.cleaned, blank]
      by_cases fills : row.Fills printable
      · simp [collectForms, fullClean_of_fills fills, ih, VdevRow.cleaned, blank, fills]
      · have failed : ∀ result, VolumeVdevForm.fullClean printable row = result →
            collectForms (result :: rest.map (VolumeVdevForm.fullClean printable)) = none := by
          rintro (_ | _ | group | _) result
          · exact absurd (fullClean_eq_skipped_iff.mp result) blank
          · rfl
          · exact absurd (fullClean_eq_valid_iff.mp result).1 fills
          · rfl
        simp [failed _ rfl, blank, fills]

/-- The data types of the posted rows, stripped, in order. -/
def rowDataTypes (rows : List VdevRow) : List String :=
  rows.filterMap fun row => dataType? (strip row.vdevtype)

/-- The single kinds the posted rows take up, in order. -/
def rowSingleKinds (rows : List VdevRow) : List String :=
  rows.filterMap fun row => singleKind? (strip row.vdevtype)

theorem cleaned_dataType? (row : VdevRow) :
    (row.cleaned.map VdevGroup.vdevtype).bind dataType? = dataType? (strip row.vdevtype) := by
  unfold VdevRow.cleaned VdevRow.cleanedType
  by_cases blank : row.IsBlank
  · simp only [blank, if_true, Option.map_none', Option.none_bind, blank.1]
    decide
  by_cases log : strip row.vdevtype = "log" ∧ 1 < row.disks.length
  · simp only [blank, log, if_false, if_true, Option.map_some', Option.some_bind, log.1]
    decide
  · simp [blank, log]

theorem cleaned_singleKind? (row : VdevRow) :
    (row.cleaned.map VdevGroup.vdevtype).bind singleKind? = singleKind? (strip row.vdevtype) := by
  unfold VdevRow.cleaned VdevRow.cleanedType
  by_cases blank : row.IsBlank
  · simp only [blank, if_true, Option.map_none', Option.none_bind, blank.1]
    decide
  by_cases log : strip row.vdevtype = "log" ∧ 1 < row.disks.length
  · simp only [blank, log, if_false, if_true, Option.map_some', Option.some_bind, log.1]
    decide
  · simp [blank, log]

theorem dataTypesOf_cleaned (rows : List VdevRow) :
    dataTypesOf (formTypes (rows.map VdevRow.cleaned)) = rowDataTypes rows := by
  simp only [dataTypesOf, formTypes, rowDataTypes, List.map_map, List.filterMap_map]
  exact List.filterMap_congr fun row _ => cleaned_dataType? row

theorem singleKindsOf_cleaned (rows : List VdevRow) :
    singleKindsOf (formTypes (rows.map VdevRow.cleaned)) = rowSingleKinds rows := by
  simp only [singleKindsOf, formTypes, rowSingleKinds, List.map_map, List.filterMap_map]
  exact List.filterMap_congr fun row _ => cleaned_singleKind? row

theorem cleanNewVolume_eq_ok_iff (forms : List (Option VdevGroup)) :
    VdevFormSet.cleanNewVolume forms = .ok () ↔
      AllSame (dataTypesOf (formTypes forms)) ∧ (singleKindsOf (formTypes forms)).Nodup ∧
        dataTypesOf (formTypes forms) ≠ [] := by
  have scanned := newVolumeScan_hasDatavdev_iff ⟨false, none, []⟩ (formTypes forms)
  simp only [ScanAllows, KindsFresh, Option.toList_none, List.nil_append, List.not_mem_nil,
    not_false_eq_true, implies_true, and_true, Bool.false_eq_true, false_or] at scanned
  rw [VdevFormSet.cleanNewVolume, bind_eq_ok_iff, ← and_assoc, ← scanned]
  constructor
  · rintro ⟨scan, run, found⟩
    split_ifs at found with hasData
    exact ⟨scan, run, hasData⟩
  · rintro ⟨scan, run, hasData⟩
    exact ⟨scan, run, if_pos hasData⟩

/-- The layouts the volume manager takes for a new volume: every row blank or filled in
(a stripped type of at most 20 characters, disks that fit the field, the width
`clean_disks` asks), at least one data row, one data type, and at most one row of each
single kind. -/
def NewLayoutOk (printable : Char → Bool) (rows : List VdevRow) : Prop :=
  (∀ row ∈ rows, row.IsBlank ∨ row.Fills printable) ∧ rowDataTypes rows ≠ [] ∧
    AllSame (rowDataTypes rows) ∧ (rowSingleKinds rows).Nodup

instance (rows : List VdevRow) : Decidable (NewLayoutOk printable rows) :=
  inferInstanceAs (Decidable (_ ∧ _ ∧ _ ∧ _))

theorem crashes_eq_true_iff {result : VdevFormResult} :
    VdevFormSetResult.crashes result = true ↔ result = .crashed := by
  cases result <;> simp [VdevFormSetResult.crashes]

theorem any_crashes_iff {rows : List VdevRow} :
    (rows.map (VolumeVdevForm.fullClean printable)).any VdevFormSetResult.crashes = true ↔
      ∃ row ∈ rows, row.Crashes printable := by
  simp [List.any_eq_true, crashes_eq_true_iff, fullClean_eq_crashed_iff]

theorem isValid_of_no_crash {volumeAdd : String} {zpoolParse : String → List ZVdev}
    {rows : List VdevRow} (noCrash : ¬∃ row ∈ rows, row.Crashes printable) :
    VdevFormSet.isValid printable volumeAdd zpoolParse rows =
      match collectForms (rows.map (VolumeVdevForm.fullClean printable)) with
      | none => .formErrors
      | some forms =>
          match VdevFormSet.clean volumeAdd zpoolParse forms with
          | .ok () => .accepted forms
          | .error error => .rejected error := by
  simp only [VdevFormSet.isValid, mt any_crashes_iff.mp noCrash]
  rfl

theorem isValid_eq_crashed_iff {volumeAdd : String} {zpoolParse : String → List ZVdev}
    {rows : List VdevRow} :
    VdevFormSet.isValid printable volumeAdd zpoolParse rows = .crashed ↔
      ∃ row ∈ rows, row.Crashes printable := by
  by_cases crash : ∃ row ∈ rows, row.Crashes printable
  · simp [VdevFormSet.isValid, any_crashes_iff.mpr crash, crash]
  rw [isValid_of_no_crash crash]
  simp only [crash, iff_false]
  split
  · simp
  · split <;> simp

theorem isValid_eq_accepted_iff {volumeAdd : String} {zpoolParse : String → List ZVdev}
    {rows : List VdevRow} {forms : List (Option VdevGroup)} :
    VdevFormSet.isValid printable volumeAdd zpoolParse rows = .accepted forms ↔
      (∀ row ∈ rows, row.IsBlank ∨ row.Fills printable) ∧ forms = rows.map VdevRow.cleaned ∧
        VdevFormSet.clean volumeAdd zpoolParse forms = .ok () := by
  by_cases crash : ∃ row ∈ rows, row.Crashes printable
  · obtain ⟨row, member, crashes⟩ := crash
    rw [isValid_eq_crashed_iff.mpr ⟨row, member, crashes⟩]
    exact iff_of_false (by simp) fun ⟨cleans, _⟩ => crashes.not_cleans (cleans row member)
  rw [isValid_of_no_crash crash, collectForms_map_fullClean]
  by_cases cleaned : ∀ row ∈ rows, row.IsBlank ∨ row.Fills printable
  · rw [if_pos cleaned]
    dsimp only
    split <;> rename_i result
    · constructor
      · intro accepted
        cases accepted
        exact ⟨cleaned, rfl, result⟩
      · rintro ⟨-, rfl, -⟩
        rfl
    · constructor
      · intro accepted
        cases accepted
      · rintro ⟨-, rfl, passed⟩
        cases result.symm.trans passed
  · simp only [if_neg cleaned, cleaned, false_and, iff_false]
    exact fun accepted => by cases accepted

example : NewLayoutOk (fun _ => true) [⟨"mirror", ["ada0", "ada1"]⟩, ⟨" log ", ["ada2", "ada3"]⟩,
    ⟨" ", []⟩] := by
  decide

/-- The smallest width of each of the nine known types, a log mirror being two disks. -/
def knownMinDisks (vdevtype : String) : Nat :=
  match vdevtype with
  | "mirror" => 2
  | "log mirror" => 2
  | "raidz" => 3
  | "raidz2" => 4
  | "raidz3" => 5
  | _ => 1

/-- Layouts of known types only: every non-blank row has one of the nine types and at least
its width, there is a data row, one data type, and one row at most of each single kind. -/
def KnownTypeLayout (rows : List VdevRow) : Prop :=
  (∀ row ∈ rows, ¬row.IsBlank →
      strip row.vdevtype ∈ dataVdevTypes ++ singleVdevTypes ∧
        knownMinDisks row.cleanedType ≤ row.disks.length) ∧
    rowDataTypes rows ≠ [] ∧ AllSame (rowDataTypes rows) ∧ (rowSingleKinds rows).Nodup

instance (rows : List VdevRow) : Decidable (KnownTypeLayout rows) :=
  inferInstanceAs (Decidable (_ ∧ _ ∧ _ ∧ _))

end Formset

end FreeNAS.Storage
