import FreeNAS.Storage.VdevExtension
import FreeNAS.Storage.VolumeManager

/-!
# What the forms check of disk names

No check of `VolumeVdevForm`, `VdevFormSet` or `ZFSVolumeWizardForm.done` compares two disk
names or looks a disk up: a row's disks count only through their number.  Renaming the
disks of a submission by any function (one that sends two disks to one name, or a free
disk to a disk of an existing volume) therefore leaves the formset's verdict as it was,
and the groups it accepts are the submitted rows, renamed alike.  The wizard's groups hold
exactly the disks of `volume_disks` and of the `zpool_<disk>` fields.
-/

namespace FreeNAS.Storage

open FreeNAS.Python

section Rename

variable (f : String → String)

def VdevRow.rename (row : VdevRow) : VdevRow := ⟨row.vdevtype, row.disks.map f⟩

def VdevGroup.rename (group : VdevGroup) : VdevGroup := ⟨group.vdevtype, group.disks.map f⟩

def VdevFormResult.rename : VdevFormResult → VdevFormResult
  | .valid group => .valid (group.rename f)
  | result => result

/-- The cleaned data of a formset with every group's disks renamed. -/
def renameForms (forms : List (Option VdevGroup)) : List (Option VdevGroup) :=
  forms.map (Option.map (VdevGroup.rename f))

def VdevFormSetResult.rename : VdevFormSetResult → VdevFormSetResult
  | .accepted forms => .accepted (renameForms f forms)
  | result => result

end Rename

/-- Both lists fit the `disks` field: `str()` of each holds at most 800 characters. -/
def RenameFits (printable : Char → Bool) (f : String → String) (disks : List String) : Prop :=
  listReprLength printable disks ≤ 800 ∧ listReprLength printable (disks.map f) ≤ 800

instance (printable : Char → Bool) (f : String → String) (disks : List String) :
    Decidable (RenameFits printable f disks) :=
  inferInstanceAs (Decidable (_ ∧ _))

section Row

variable {printable : Char → Bool} {f : String → String}

theorem fieldErrors_map {α β : Type} (g : α → β) (x : Except VdevFieldError α) :
    fieldErrors (x.map g) = fieldErrors x := by
  cases x <;> rfl

theorem toOption_map {ε α β : Type} (g : α → β) (x : Except ε α) :
    (x.map g).toOption = x.toOption.map g := by
  cases x <;> rfl

theorem disksField_rename (vdev : Option String) {disks : List String}
    (fits : RenameFits printable f disks) :
    VolumeVdevForm.disksField printable vdev (disks.map f) =
      (VolumeVdevForm.disksField printable vdev disks).map (List.map f) := by
  unfold VolumeVdevForm.disksField VolumeVdevForm.cleanDisks
  simp only [List.map_eq_nil_iff, List.length_map, Nat.not_lt.mpr fits.1, Nat.not_lt.mpr fits.2,
    if_false]
  split_ifs
  · rfl
  · split
    · split_ifs <;> rfl
    · rfl

theorem finish_rename (vdevtype : Option String) (disks : Option (List String))
    (errors : List VdevFieldError) :
    VolumeVdevForm.finish vdevtype (disks.map (List.map f)) errors =
      (VolumeVdevForm.finish vdevtype disks errors).rename f := by
  unfold VolumeVdevForm.finish VolumeVdevForm.clean
  rcases disks with _ | disks <;> split_ifs <;>
    simp [VdevFormResult.rename, VdevGroup.rename, List.length_map]
  rcases vdevtype with _ | _ <;> rfl

/-- A row's form reads disks that fit the field only through their number. -/
theorem fullClean_rename {row : VdevRow} (fits : RenameFits printable f row.disks) :
    VolumeVdevForm.fullClean printable (row.rename f) =
      (VolumeVdevForm.fullClean printable row).rename f := by
  simp only [VolumeVdevForm.fullClean, VdevRow.rename, List.map_eq_nil_iff,
    disksField_rename _ fits, toOption_map, fieldErrors_map, finish_rename]
  split_ifs <;> rfl

end Row

section Formset

variable {printable : Char → Bool} {f : String → String}

theorem collectForms_rename (results : List VdevFormResult) :
    collectForms (results.map (VdevFormResult.rename f)) = (collectForms results).map (renameForms f) := by
  induction results with
  | nil => rfl
  | cons result rest ih =>
      cases result <;> simp only [collectForms, VdevFormResult.rename, ih] <;>
        cases collectForms rest <;> rfl

theorem formTypes_rename (forms : List (Option VdevGroup)) :
    formTypes (renameForms f forms) = formTypes forms := by
  simp only [formTypes, renameForms, List.map_map]
  congr 1
  funext form
  cases form <;> rfl

theorem singleRowsScan_rename (vdevfound : List String) (forms : List (Option VdevGroup)) :
    VdevFormSet.singleRowsScan vdevfound (renameForms f forms) =
      VdevFormSet.singleRowsScan vdevfound forms := by
  induction forms generalizing vdevfound with
  | nil => rfl
  | cons form rest ih =>
      rcases form with _ | form
      · exact ih vdevfound
      · simp only [renameForms, List.map_cons, Option.map_some'] at ih ⊢
        simp only [VdevFormSet.singleRowsScan, VdevGroup.rename, ih]

theorem matchVdev_rename (vdev : ZVdev) (forms : List (Option VdevGroup)) :
    VdevFormSet.matchVdev vdev (renameForms f forms) = VdevFormSet.matchVdev vdev forms := by
  induction forms with
  | nil => rfl
  | cons form rest ih =>
      rcases form with _ | form
      · exact ih
      · simp only [renameForms, List.map_cons, Option.map_some'] at ih ⊢
        simp only [VdevFormSet.matchVdev, VdevGroup.rename, List.length_map, ih]

theorem matchPool_rename (forms : List (Option VdevGroup)) (data : List ZVdev) :
    VdevFormSet.matchPool (renameForms f forms) data = VdevFormSet.matchPool forms data := by
  induction data with
  | nil => rfl
  | cons vdev rest ih => simp only [VdevFormSet.matchPool, matchVdev_rename, ih]

/-- Both branches of `VdevFormSet.clean` read the forms' types and numbers of disks only. -/
theorem clean_rename (volumeAdd : String) (zpoolParse : String → List ZVdev)
    (forms : List (Option VdevGroup)) :
    VdevFormSet.clean volumeAdd zpoolParse (renameForms f forms) =
      VdevFormSet.clean volumeAdd zpoolParse forms := by
  simp only [VdevFormSet.clean, VdevFormSet.cleanNewVolume, VdevFormSet.cleanExtension,
    formTypes_rename, singleRowsScan_rename, matchPool_rename]

/-- Renaming the disks of every row, where the field takes both lists, renames the groups
the formset accepts and changes no other verdict. -/
theorem isValid_rename (volumeAdd : String) (zpoolParse : String → List ZVdev)
    {rows : List VdevRow} (fits : ∀ row ∈ rows, RenameFits printable f row.disks) :
    VdevFormSet.isValid printable volumeAdd zpoolParse (rows.map (VdevRow.rename f)) =
      (VdevFormSet.isValid printable volumeAdd zpoolParse rows).rename f := by
  have results : (rows.map (VdevRow.rename f)).map (VolumeVdevForm.fullClean printable) =
      (rows.map (VolumeVdevForm.fullClean printable)).map (VdevFormResult.rename f) := by
    simp only [List.map_map]
    exact List.map_congr_left fun row member => fullClean_rename (fits row member)
  have crashes : ((rows.map (VolumeVdevForm.fullClean printable)).map
      (VdevFormResult.rename f)).any VdevFormSetResult.crashes =
        (rows.map (VolumeVdevForm.fullClean printable)).any VdevFormSetResult.crashes := by
    simp only [List.any_map]
    congr 1
    funext result
    cases result <;> rfl
  simp only [VdevFormSet.isValid, results, crashes, collectForms_rename]
  split
  · rfl
  · cases collectForms (rows.map (VolumeVdevForm.fullClean printable)) with
    | none => rfl
    | some forms =>
        simp only [Option.map_some', clean_rename]
        split <;> rfl

theorem grouped_disks_of_accepted {volumeAdd : String} {zpoolParse : String → List ZVdev}
    {rows : List VdevRow} {forms : List (Option VdevGroup)}
    (accepted : VdevFormSet.isValid printable volumeAdd zpoolParse rows = .accepted forms) :
    (VolumeManagerForm.grouped forms).map VdevGroup.disks =
      (rows.filter fun row => ¬row.IsBlank).map VdevRow.disks := by
  obtain ⟨-, rfl, -⟩ := isValid_eq_accepted_iff.mp accepted
  clear accepted
  induction rows with
  | nil => rfl
  | cons row rest ih =>
      by_cases blank : row.IsBlank <;>
        simp_all [VolumeManagerForm.grouped, VdevRow.cleaned, List.filter_cons]

end Formset

/-- The disks of the `zpool_<disk>` fields whose type is not `none`, in POST order. -/
def zpoolDisks (post : List (String × String)) : List String :=
  post.filterMap fun item => if item.2 = "none" then none else zpoolField? item.1

theorem map_appendDisk_of_absent {gtype disk : String} {entries : List (String × VdevGroup)}
    (absent : gtype ∉ entries.map Prod.fst) : entries.map (appendDisk gtype disk) = entries :=
  calc entries.map (appendDisk gtype disk)
      _ = entries.map id := List.map_congr_left fun entry member => by
          refine if_neg fun keyed => absent ?_
          rw [← keyed]
          exact List.mem_map_of_mem _ member
      _ = entries := List.map_id entries

theorem flatMap_appendDisk_perm {gtype disk : String} {entries : List (String × VdevGroup)}
    (nodup : (entries.map Prod.fst).Nodup) (present : gtype ∈ entries.map Prod.fst) :
    ((entries.map (appendDisk gtype disk)).flatMap fun entry => entry.2.disks).Perm
      ((entries.flatMap fun entry => entry.2.disks) ++ [disk]) := by
  induction entries with
  | nil => cases present
  | cons entry rest ih =>
      rw [List.map_cons, List.nodup_cons] at nodup
      by_cases keyed : entry.1 = gtype
      · rw [List.map_cons, map_appendDisk_of_absent (keyed ▸ nodup.1)]
        simpa [appendDisk, keyed] using (List.perm_append_singleton disk _).symm.append_left entry.2.disks
      · have later : gtype ∈ rest.map Prod.fst := by
          rw [List.map_cons, List.mem_cons] at present
          exact present.resolve_left fun first => keyed first.symm
        simpa [appendDisk, keyed] using (ih nodup.2 later).append_left entry.2.disks

theorem addZpoolField_disks (grouped : GroupedDict) (gtype disk : String) :
    ((addZpoolField grouped gtype disk).entries.flatMap fun entry => entry.2.disks).Perm
      ((grouped.entries.flatMap fun entry => entry.2.disks) ++ [disk]) := by
  unfold addZpoolField
  split
  · exact flatMap_appendDisk_perm grouped.keysNodup ‹_›
  · simp

theorem wizard_grouped_disks_perm (groupType : String) (disks : List String)
    (post : List (String × String)) :
    ((ZFSVolumeWizardForm.grouped groupType disks post).entries.flatMap fun entry => entry.2.disks).Perm
      (disks ++ zpoolDisks post) := by
  suffices folded : ∀ grouped : GroupedDict, ((post.foldl (fun grouped item =>
      match zpoolField? item.1 with
      | some disk => if item.2 = "none" then grouped else addZpoolField grouped item.2 disk
      | none => grouped) grouped).entries.flatMap fun entry => entry.2.disks).Perm
        ((grouped.entries.flatMap fun entry => entry.2.disks) ++ zpoolDisks post) by
    simpa [ZFSVolumeWizardForm.grouped] using
      folded ⟨[("root", ⟨groupType, disks⟩)], List.nodup_singleton _⟩
  induction post with
  | nil => simp [zpoolDisks]
  | cons item rest ih =>
      intro grouped
      refine (ih _).trans ?_
      cases field : zpoolField? item.1 with
      | none => simp [zpoolDisks, field]
      | some disk =>
          by_cases none : item.2 = "none"
          · simp [zpoolDisks, field, none]
          · simpa [zpoolDisks, field, none] using
              (addZpoolField_disks grouped item.2 disk).append_right (zpoolDisks rest)

/-- No check of either form depends on which disks a submission names: renamed rows that
still fit the field get the renamed verdict, `save` hands on the accepted rows' disks as
submitted, and `done` hands on the disks of `volume_disks` and of the `zpool_<disk>` fields. -/
theorem submitted_disks_reach_notifier (printable : Char → Bool) (f : String → String)
    (volumeAdd : String) (zpoolParse : String → List ZVdev) (rows : List VdevRow)
    (fits : ∀ row ∈ rows, RenameFits printable f row.disks) (groupType : String)
    (disks : List String) (post : List (String × String)) :
    VdevFormSet.isValid printable volumeAdd zpoolParse (rows.map (VdevRow.rename f)) =
        (VdevFormSet.isValid printable volumeAdd zpoolParse rows).rename f ∧
      (∀ forms, VdevFormSet.isValid printable volumeAdd zpoolParse rows = .accepted forms →
        (VolumeManagerForm.grouped forms).map VdevGroup.disks =
          (rows.filter fun row => ¬row.IsBlank).map VdevRow.disks) ∧
      ((ZFSVolumeWizardForm.grouped groupType disks post).entries.flatMap fun entry =>
        entry.2.disks).Perm (disks ++ zpoolDisks post) :=
  ⟨isValid_rename volumeAdd zpoolParse fits, fun _ accepted => grouped_disks_of_accepted accepted,
    wizard_grouped_disks_perm groupType disks post⟩

theorem submitted_disks_reach_notifier_of_ada0 :
    (∀ row ∈ [(⟨"stripe", ["ada0"]⟩ : VdevRow), ⟨"stripe", ["ada1"]⟩],
        RenameFits (fun _ => true) (fun _ => "ada0") row.disks) ∧
      VdevFormSet.isValid (fun _ => true) "" (fun _ => [])
          ([⟨"stripe", ["ada0"]⟩, ⟨"stripe", ["ada1"]⟩].map (VdevRow.rename fun _ => "ada0")) =
        (VdevFormSet.isValid (fun _ => true) "" (fun _ => [])
          [⟨"stripe", ["ada0"]⟩, ⟨"stripe", ["ada1"]⟩]).rename (fun _ => "ada0") ∧
      (∀ forms, VdevFormSet.isValid (fun _ => true) "" (fun _ => [])
          [⟨"stripe", ["ada0"]⟩, ⟨"stripe", ["ada1"]⟩] = .accepted forms →
        (VolumeManagerForm.grouped forms).map VdevGroup.disks =
          ([(⟨"stripe", ["ada0"]⟩ : VdevRow), ⟨"stripe", ["ada1"]⟩].filter
            fun row => ¬row.IsBlank).map VdevRow.disks) ∧
      ((ZFSVolumeWizardForm.grouped "stripe" ["ada0"] [("zpool_ada0", "log")]).entries.flatMap
        fun entry => entry.2.disks).Perm (["ada0"] ++ zpoolDisks [("zpool_ada0", "log")]) :=
  have fits : ∀ row ∈ [(⟨"stripe", ["ada0"]⟩ : VdevRow), ⟨"stripe", ["ada1"]⟩],
      RenameFits (fun _ => true) (fun _ => "ada0") row.disks := by decide
  ⟨fits, submitted_disks_reach_notifier (fun _ => true) (fun _ => "ada0") "" (fun _ => [])
    [⟨"stripe", ["ada0"]⟩, ⟨"stripe", ["ada1"]⟩] fits "stripe" ["ada0"] [("zpool_ada0", "log")]⟩

/-- Two stripe rows on `ada0` make a new volume, and a wizard POST that also puts `ada0`,
already in `volume_disks`, in the log group builds a log group on it. -/
theorem repeated_disk_reaches_notifier :
    VdevFormSet.isValid (fun _ => true) "" (fun _ => [])
        [⟨"stripe", ["ada0"]⟩, ⟨"stripe", ["ada0"]⟩] =
      .accepted [some ⟨"stripe", ["ada0"]⟩, some ⟨"stripe", ["ada0"]⟩] ∧
      (ZFSVolumeWizardForm.grouped "stripe" ["ada0"] [("zpool_ada0", "log")]).entries =
        [("root", ⟨"stripe", ["ada0"]⟩), ("log", ⟨"log", ["ada0"]⟩)] := by
  decide

end FreeNAS.Storage
