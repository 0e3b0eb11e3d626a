import FreeNAS.Storage.VdevLayout

/-!
# Extending a pool

With `volume_add` set, `VdevFormSet.clean` takes the single rows (cache, log, spare)
as for a new volume and compares every other row with every data vdev of the pool
`notifier().zpool_parse` returns: the types must agree and so must the widths.
`cleanExtension_eq_ok_iff` states this branch as a whole; the creation and extension
branches are then compared on a pool grown by a copy of one of its own data rows.
-/

namespace FreeNAS.Storage

open FreeNAS.Python

/-- The rows the extension branch compares with the pool: all but the single kinds. -/
def extensionRows (forms : List (Option VdevGroup)) : List VdevGroup :=
  forms.filterMap fun form => form.filter fun group => group.vdevtype ∉ singleVdevTypes

/-- The data rows of a layout, which become the data vdevs of the new pool. -/
def dataGroups (forms : List (Option VdevGroup)) : List VdevGroup :=
  forms.filterMap fun form => form.filter fun group => group.vdevtype ∈ dataVdevTypes

/-- A vdev's type and width. -/
def ZVdev.shape (vdev : ZVdev) : String × Nat := (vdev.type, vdev.devices.length)

/-- A group's type and width. -/
def VdevGroup.shape (group : VdevGroup) : String × Nat := (group.vdevtype, group.disks.length)

@[simp] theorem extensionRows_nil : extensionRows [] = [] := rfl

@[simp] theorem extensionRows_cons_none (rest : List (Option VdevGroup)) :
    extensionRows (none :: rest) = extensionRows rest := rfl

theorem extensionRows_cons_some (group : VdevGroup) (rest : List (Option VdevGroup)) :
    extensionRows (some group :: rest) =
      if group.vdevtype ∈ singleVdevTypes then extensionRows rest
      else group :: extensionRows rest := by
  by_cases single : group.vdevtype ∈ singleVdevTypes <;>
    simp [extensionRows, List.filterMap_cons, Option.filter, single]

@[simp] theorem formTypes_nil : formTypes [] = [] := rfl

@[simp] theorem formTypes_cons (form : Option VdevGroup) (rest : List (Option VdevGroup)) :
    formTypes (form :: rest) = form.map VdevGroup.vdevtype :: formTypes rest := rfl

theorem singleKind?_eq_none_of_not_single {vdevtype : String}
    (notSingle : vdevtype ∉ singleVdevTypes) : singleKind? vdevtype = none :=
  if_neg notSingle

theorem singleRowsScan_isOk_iff (vdevfound : List String) (forms : List (Option VdevGroup)) :
    (∃ found, VdevFormSet.singleRowsScan vdevfound forms = .ok found) ↔
      KindsFresh vdevfound (singleKindsOf (formTypes forms)) := by
  induction forms generalizing vdevfound with
  | nil => simp [VdevFormSet.singleRowsScan, KindsFresh]
  | cons form rest ih =>
      rcases form with _ | group
      · simpa [VdevFormSet.singleRowsScan] using ih vdevfound
      by_cases single : group.vdevtype ∈ singleVdevTypes
      · simp only [VdevFormSet.singleRowsScan, if_pos single, bind_eq_ok_iff,
          cleanVdevtype_eq_ok_iff, formTypes_cons, Option.map_some',
          singleKindsOf_cons, Option.some_bind]
        cases isKind : singleKind? group.vdevtype with
        | none => simp [singleKind?, single] at isKind
        | some kind =>
            simp only [Option.mem_def, Option.some.injEq, forall_eq', Option.toList_some,
              List.singleton_append, kindsFresh_cons]
            rw [← ih (kind :: vdevfound)]
            constructor
            · rintro ⟨found, _, ⟨fresh, rfl⟩, scanned⟩
              exact ⟨fresh, found, scanned⟩
            · rintro ⟨fresh, found, scanned⟩
              exact ⟨found, _, ⟨fresh, rfl⟩, scanned⟩
      · simpa [VdevFormSet.singleRowsScan, single,
          singleKind?_eq_none_of_not_single single] using ih vdevfound

theorem matchVdev_eq_ok_iff (vdev : ZVdev) (forms : List (Option VdevGroup)) :
    VdevFormSet.matchVdev vdev forms = .ok () ↔
      ∀ group ∈ extensionRows forms, group.shape = vdev.shape := by
  induction forms with
  | nil => simp [VdevFormSet.matchVdev]
  | cons form rest ih =>
      rcases form with _ | group
      · simpa [VdevFormSet.matchVdev] using ih
      rw [extensionRows_cons_some]
      by_cases single : group.vdevtype ∈ singleVdevTypes
      · simpa [VdevFormSet.matchVdev, single] using ih
      · rw [if_neg single, List.forall_mem_cons, ← ih]
        by_cases sameType : vdev.type = group.vdevtype
        · by_cases sameWidth : group.disks.length = vdev.devices.length
          · simp [VdevFormSet.matchVdev, single, sameType, sameWidth, VdevGroup.shape,
              ZVdev.shape]
          · simp [VdevFormSet.matchVdev, single, sameType, sameWidth, VdevGroup.shape,
              ZVdev.shape]
        · simp [VdevFormSet.matchVdev, single, sameType, VdevGroup.shape, ZVdev.shape,
            Ne.symm sameType]

theorem matchPool_eq_ok_iff (forms : List (Option VdevGroup)) (data : List ZVdev) :
    VdevFormSet.matchPool forms data = .ok () ↔
      ∀ vdev ∈ data, VdevFormSet.matchVdev vdev forms = .ok () := by
  induction data with
  | nil => simp [VdevFormSet.matchPool]
  | cons vdev rest ih =>
      simp only [VdevFormSet.matchPool, bind_eq_ok_iff, ih, List.forall_mem_cons]
      constructor
      · rintro ⟨⟨⟩, matched, rest⟩
        exact ⟨matched, rest⟩
      · rintro ⟨matched, rest⟩
        exact ⟨(), matched, rest⟩

/-- The extension branch accepts exactly the forms with one row at most of each single
kind whose other rows all have the type and width of every data vdev of the pool. -/
theorem cleanExtension_eq_ok_iff (data : List ZVdev) (forms : List (Option VdevGroup)) :
    VdevFormSet.cleanExtension data forms = .ok () ↔
      (singleKindsOf (formTypes forms)).Nodup ∧
        ∀ vdev ∈ data, ∀ group ∈ extensionRows forms, group.shape = vdev.shape := by
  have singles := singleRowsScan_isOk_iff [] forms
  simp only [KindsFresh, List.not_mem_nil, not_false_eq_true, implies_true, and_true] at singles
  simp only [VdevFormSet.cleanExtension, bind_eq_ok_iff, matchPool_eq_ok_iff,
    matchVdev_eq_ok_iff, ← singles]
  constructor
  · rintro ⟨found, scanned, matched⟩
    exact ⟨⟨found, scanned⟩, matched⟩
  · rintro ⟨⟨found, scanned⟩, matched⟩
    exact ⟨found, scanned, matched⟩

theorem dataTypesOf_formTypes (forms : List (Option VdevGroup)) :
    dataTypesOf (formTypes forms) = (dataGroups forms).map VdevGroup.vdevtype := by
  induction forms with
  | nil => rfl
  | cons form rest ih =>
      rcases form with _ | group
      · simpa [dataGroups] using ih
      · by_cases data : group.vdevtype ∈ dataVdevTypes
        · simpa [dataGroups, List.filterMap_cons, Option.filter, dataType?, data] using ih
        · simpa [dataGroups, List.filterMap_cons, Option.filter, dataType?, data] using ih

theorem mem_dataGroups_cleaned {rows : List VdevRow} {group : VdevGroup}
    (member : group ∈ dataGroups (rows.map VdevRow.cleaned)) :
    ∃ row ∈ rows, strip row.vdevtype ∈ dataVdevTypes ∧ group = ⟨strip row.vdevtype, row.disks⟩ := by
  simp only [dataGroups, List.filterMap_map, List.mem_filterMap, Function.comp] at member
  obtain ⟨row, rowMember, cleaned⟩ := member
  unfold VdevRow.cleaned VdevRow.cleanedType at cleaned
  split_ifs at cleaned with blank log <;> simp [Option.filter] at cleaned
  · exact absurd cleaned.1 (by decide)
  · obtain ⟨data, rfl⟩ := cleaned
    exact ⟨row, rowMember, data, rfl⟩

theorem not_single_of_data {vdevtype : String} (data : vdevtype ∈ dataVdevTypes) :
    vdevtype ∉ singleVdevTypes := by
  simp only [dataVdevTypes, List.mem_cons, List.mem_singleton, List.not_mem_nil, or_false] at data
  rcases data with rfl | rfl | rfl | rfl | rfl <;> decide

theorem extensionRows_single_data {group : VdevGroup}
    (data : group.vdevtype ∈ dataVdevTypes) : extensionRows [some group] = [group] := by
  simp [extensionRows_cons_some, not_single_of_data data]

theorem forall_mem_of_map_eq {α β γ : Type} {f : α → γ} {g : β → γ} {xs : List α} {ys : List β}
    (same : xs.map f = ys.map g) (p : γ → Prop) :
    (∀ x ∈ xs, p (f x)) ↔ ∀ y ∈ ys, p (g y) := by
  rw [← List.forall_mem_map (f := f) (P := p), same, List.forall_mem_map]

theorem VdevRow.Fills.copy {printable : Char → Bool} {row : VdevRow} (fills : row.Fills printable)
    {fresh : List String} (width : fresh.length = row.disks.length)
    (fits : listReprLength printable fresh ≤ 800) :
    (⟨strip row.vdevtype, fresh⟩ : VdevRow).Fills printable := by
  have nonempty : fresh ≠ [] := by
    rintro rfl
    exact fills.2.2.1.1 (List.length_eq_zero.mp width.symm)
  simp only [VdevRow.Fills, strip_strip]
  exact ⟨fills.1, fills.2.1, ⟨nonempty, fits⟩, width ▸ fills.2.2.2⟩

/-- A pool made of an accepted layout's data rows takes a copy of one of those rows, on
disks of the same number that fit the field, exactly when all its data rows have that row's
width. -/
theorem extension_accepts_copy_iff (printable : Char → Bool) (zpoolParse : String → List ZVdev)
    (rows : List VdevRow) (forms : List (Option VdevGroup))
    (created : VdevFormSet.isValid printable "" zpoolParse rows = .accepted forms)
    (pool : String) (named : pool ≠ "")
    (poolData : (zpoolParse pool).map ZVdev.shape = (dataGroups forms).map VdevGroup.shape)
    (group : VdevGroup) (member : group ∈ dataGroups forms)
    (fresh : List String) (sameWidth : fresh.length = group.disks.length)
    (fits : listReprLength printable fresh ≤ 800) :
    (∃ added, VdevFormSet.isValid printable pool zpoolParse [⟨group.vdevtype, fresh⟩] =
        .accepted added) ↔
      ∀ other ∈ dataGroups forms, other.disks.length = group.disks.length := by
  obtain ⟨cleanedRows, rfl, newOk⟩ := isValid_eq_accepted_iff.mp created
  rw [VdevFormSet.clean, if_pos rfl, cleanNewVolume_eq_ok_iff, dataTypesOf_formTypes] at newOk
  obtain ⟨row, rowMember, data, rfl⟩ := mem_dataGroups_cleaned member
  have rowFills : row.Fills printable := (cleanedRows row rowMember).resolve_left fun blank =>
    absurd (blank.1 ▸ data) (by decide)
  have width : fresh.length = row.disks.length := sameWidth
  have copyFills := rowFills.copy width fits
  have notLog : strip row.vdevtype ≠ "log" := fun log => absurd (log ▸ data) (by decide)
  have copyCleaned : (⟨strip row.vdevtype, fresh⟩ : VdevRow).cleaned =
      some ⟨strip row.vdevtype, fresh⟩ := by
    simp [VdevRow.cleaned, VdevRow.IsBlank, VdevRow.cleanedType, strip_strip, rowFills.1, notLog]
  have copyRows : extensionRows [some ⟨strip row.vdevtype, fresh⟩] =
      [⟨strip row.vdevtype, fresh⟩] :=
    @extensionRows_single_data ⟨strip row.vdevtype, fresh⟩ data
  simp only [isValid_eq_accepted_iff, List.forall_mem_singleton, List.map_cons,
    List.map_nil, copyCleaned, exists_and_left, exists_eq_left, VdevFormSet.clean, if_neg named,
    cleanExtension_eq_ok_iff, copyRows]
  simp only [formTypes_cons, formTypes_nil, Option.map_some', singleKindsOf_cons,
    singleKindsOf_nil, Option.some_bind, singleKind?_eq_none_of_data data]
  have samePool := forall_mem_of_map_eq poolData
    fun shape => VdevGroup.shape ⟨strip row.vdevtype, fresh⟩ = shape
  have sameType : ∀ other ∈ dataGroups (rows.map VdevRow.cleaned),
      other.vdevtype = strip row.vdevtype := fun other otherMember =>
    newOk.1 _ (List.mem_map_of_mem _ member) _ (List.mem_map_of_mem _ otherMember)
  rw [samePool]
  simp only [copyFills, or_true, Option.toList_none, List.append_nil, List.nodup_nil, true_and]
  refine forall₂_congr fun other otherMember => ?_
  simp only [VdevGroup.shape, Prod.mk.injEq, sameType other otherMember, true_and]
  omega

theorem extension_accepts_copy_of_even_mirrors :
    VdevFormSet.isValid (fun _ => true) ""
        (fun _ => [⟨"mirror", ["ada0", "ada1"]⟩, ⟨"mirror", ["ada2", "ada3"]⟩])
        [⟨"mirror", ["ada0", "ada1"]⟩, ⟨"mirror", ["ada2", "ada3"]⟩] =
      .accepted [some ⟨"mirror", ["ada0", "ada1"]⟩, some ⟨"mirror", ["ada2", "ada3"]⟩] ∧
    ((∃ added, VdevFormSet.isValid (fun _ => true) "tank"
        (fun _ => [⟨"mirror", ["ada0", "ada1"]⟩, ⟨"mirror", ["ada2", "ada3"]⟩])
        [⟨"mirror", ["ada4", "ada5"]⟩] = .accepted added) ↔
      ∀ other ∈ dataGroups [some ⟨"mirror", ["ada0", "ada1"]⟩, some ⟨"mirror", ["ada2", "ada3"]⟩],
        other.disks.length = 2) :=
  ⟨by decide, extension_accepts_copy_iff (fun _ => true) _
    [⟨"mirror", ["ada0", "ada1"]⟩, ⟨"mirror", ["ada2", "ada3"]⟩] _ (by decide) "tank" (by decide)
    (by decide) ⟨"mirror", ["ada0", "ada1"]⟩ (by decide) ["ada4", "ada5"] (by decide) (by decide)⟩

/-- Creation takes a 2-way and a 3-way mirror side by side; growing that pool by another
2-way mirror fails on the 3-way one. -/
theorem extension_refuses_copy_of_narrow_mirror :
    VdevFormSet.isValid (fun _ => true) "" (fun _ => [])
        [⟨"mirror", ["ada0", "ada1"]⟩, ⟨"mirror", ["ada2", "ada3", "ada4"]⟩] =
      .accepted [some ⟨"mirror", ["ada0", "ada1"]⟩, some ⟨"mirror", ["ada2", "ada3", "ada4"]⟩] ∧
    VdevFormSet.isValid (fun _ => true) "tank"
        (fun _ => [⟨"mirror", ["ada0", "ada1"]⟩, ⟨"mirror", ["ada2", "ada3", "ada4"]⟩])
        [⟨"mirror", ["ada5", "ada6"]⟩] = .rejected (.widthMismatch 2 3) := by
  decide

end FreeNAS.Storage
