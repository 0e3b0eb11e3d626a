import FreeNAS.Django.Forms
import FreeNAS.Python.Re

/-!
# Snapshots and their clones

`ManualSnapshotForm` takes a snapshot name of `[-a-zA-Z0-9_. ]` that the dataset has no
snapshot of yet.  `CloneSnapshotForm` is opened on a snapshot `dataset@snap` and proposes a
name for the clone next to the dataset:

    a zvol tank/vol@snap            tank/vol-clone-snap
    a dataset tank/data@snap        tank/data-snap-clone
    a pool tank@snap                tank/snap-clone

`clean_cs_name` then admits the characters `[-a-zA-Z0-9_./ ]` under the snapshot's pool.
Dataset names may hold a `:`, which that class lacks, and nothing else of a proposal is
refused: posted back as it is shown, the proposal is taken exactly when neither the dataset
nor the snapshot name has a `:` (`proposed_clone_name_checked`).
-/

namespace FreeNAS.Storage

open FreeNAS.Python FreeNAS.Django

/-- `[a-zA-Z0-9_\-:. ]`, the characters `clean_dataset_name` admits after the first. -/
def isDatasetNameChar : Char → Bool := alnumOr ['_', '-', ':', '.', ' ']

/-- `[-a-zA-Z0-9_. ]`, the characters `clean_ms_name` admits. -/
def isSnapshotNameChar : Char → Bool := alnumOr ['-', '_', '.', ' ']

/-- `[-a-zA-Z0-9_./ ]`, the characters `clean_cs_name` admits. -/
def isCloneNameChar : Char → Bool := alnumOr ['-', '_', '.', '/', ' ']

/-- `clean_ms_name` on the stripped name; `snapshotExists` tells whether
`zfs_snapshot_list(path=...)` finds the snapshot. -/
def ManualSnapshotForm.cleanMsName (snapshotExists : String → Bool) (fs name : String) :
    Except String String :=
  if !anchoredMatch isSnapshotNameChar isSnapshotNameChar name then
    .error "Only [-a-zA-Z0-9_. ] permitted as snapshot name"
  else if snapshotExists (fs ++ "@" ++ name) then .error "Snapshot with this name already exists"
  else .ok name

/-- The `ms_name` field of the form opened on `fs`: a required `CharField`, then
`clean_ms_name`. -/
def ManualSnapshotForm.msName (snapshotExists : String → Bool) (fs value : String) :
    Except String String :=
  (CharField.clean none true value).bind (ManualSnapshotForm.cleanMsName snapshotExists fs)

/-- The clone name `__init__` proposes for a snapshot, or `none` where unpacking
`split('@')` or `rsplit('/', 1)` raises `ValueError`. -/
def CloneSnapshotForm.initialName (isVolume : Bool) (snapshot : String) : Option String :=
  match splitSep '@' snapshot with
  | [dataset, snapname] =>
      if isVolume then
        (rsplitOnce '/' dataset).map fun (dataset, zvol) =>
          dataset ++ "/" ++ zvol ++ "-clone-" ++ snapname
      else
        some ((if '/' ∈ dataset.data then dataset ++ "-" else dataset ++ "/") ++ snapname ++ "-clone")
  | _ => none

/-- The pool `clean_cs_name` reads off the snapshot. -/
def CloneSnapshotForm.volname (snapshot : String) : String :=
  if '/' ∈ snapshot.data then (splitSep '/' snapshot).headD "" else (splitSep '@' snapshot).headD ""

/-- `clean_cs_name` on the stripped name, in the form opened on `snapshot`. -/
def CloneSnapshotForm.cleanCsName (snapshot name : String) : Except String String :=
  if !anchoredMatch isCloneNameChar isCloneNameChar name then
    .error "Only [-a-zA-Z0-9_./ ] permitted as clone name"
  else if !(CloneSnapshotForm.volname snapshot ++ "/").data.isPrefixOf name.data then
    .error "Clone must be within the same volume"
  else .ok name

/-- `cleaned_data` of a valid `CloneSnapshotForm`: what `commit` passes to `zfs_clonesnap`. -/
structure CloneSnapshotCleaned where
  snapshot : String
  name : String
  deriving DecidableEq, Repr

/-- `full_clean` of the form opened on `initial` and posted `snapshot` and `name`:
`clean_cs_snapshot` returns the snapshot the form was opened on, whatever was posted. -/
def CloneSnapshotForm.fullClean (initial snapshot name : String) :
    Except (List (String × String)) CloneSnapshotCleaned :=
  match (CharField.clean none true snapshot).map (fun _ => initial),
      (CharField.clean none true name).bind (CloneSnapshotForm.cleanCsName initial) with
  | .ok snapshot, .ok name => .ok ⟨snapshot, name⟩
  | snapshot, name => .error (fieldError "cs_snapshot" snapshot ++ fieldError "cs_name" name)

/-- On the characters of a dataset path, the clone class refuses only `:`. -/
theorem isCloneNameChar_iff {c : Char} (path : c = '/' ∨ isDatasetNameChar c = true) :
    isCloneNameChar c = true ↔ c ≠ ':' := by
  cases alnum : c.isAlphanum
  · rw [isCloneNameChar, alnumOr_iff alnum]
    rw [isDatasetNameChar, alnumOr_iff alnum] at path
    rcases path with rfl | path
    · decide
    · simp only [List.mem_cons, List.mem_singleton, List.not_mem_nil, or_false] at path
      rcases path with rfl | rfl | rfl | rfl | rfl <;> decide
  · refine ⟨fun _ colon => ?_, fun _ => alnumOr_of_isAlphanum _ alnum⟩
    subst colon
    exact absurd alnum (by decide)

theorem isDatasetNameChar_of_isSnapshotNameChar {c : Char} (admitted : isSnapshotNameChar c = true) :
    isDatasetNameChar c = true ∧ c ≠ ':' := by
  cases alnum : c.isAlphanum
  · rw [isSnapshotNameChar, alnumOr_iff alnum] at admitted
    rw [isDatasetNameChar, alnumOr_iff alnum]
    simp only [List.mem_cons, List.mem_singleton, List.not_mem_nil, or_false] at admitted
    rcases admitted with rfl | rfl | rfl | rfl <;> decide
  · refine ⟨alnumOr_of_isAlphanum _ alnum, fun colon => ?_⟩
    subst colon
    exact absurd alnum (by decide)

theorem not_at_of_path {c : Char} (path : c = '/' ∨ isDatasetNameChar c = true) : c ≠ '@' := by
  rintro rfl
  revert path
  decide

theorem splitSep_snapshot {dataset snap : String} (noAtDataset : '@' ∉ dataset.data)
    (noAtSnap : '@' ∉ snap.data) : splitSep '@' (dataset ++ "@" ++ snap) = [dataset, snap] := by
  rw [show dataset ++ "@" ++ snap = dataset ++ ⟨['@']⟩ ++ snap from rfl,
    splitSep_append snap noAtDataset, splitSep_of_not_mem noAtSnap]

theorem initialName_extends {isVolume : Bool} {dataset snap : String}
    (noAtDataset : '@' ∉ dataset.data) (noAtSnap : '@' ∉ snap.data)
    (nested : isVolume = true → '/' ∈ dataset.data) :
    ∃ before after : List Char, CloneSnapshotForm.initialName isVolume (dataset ++ "@" ++ snap) =
        some ⟨dataset.data ++ before ++ snap.data ++ after⟩ ∧
      (∀ c ∈ before ++ after, c = '/' ∨ isDatasetNameChar c = true) ∧ ':' ∉ before ++ after ∧
      'c' ∈ before ++ after ∧ ('/' ∉ dataset.data → before = ['/'] ∧ 'c' ∈ after) := by
  rw [CloneSnapshotForm.initialName, splitSep_snapshot noAtDataset noAtSnap]
  cases isVolume with
  | true =>
      obtain ⟨⟨parent, zvol⟩, split⟩ := Option.isSome_iff_exists.mp (rsplitOnce_isSome (nested rfl))
      obtain ⟨spelled, -⟩ := rsplitOnce_eq_some split
      refine ⟨"-clone-".data, [], ?_, by decide, by decide, by decide, fun pool => absurd (nested rfl) pool⟩
      dsimp only
      rw [if_pos rfl, split, Option.map_some', spelled]
      exact congrArg some (String.ext (by simp [String.data_append]))
  | false =>
      by_cases slash : '/' ∈ dataset.data
      · refine ⟨['-'], "-clone".data, ?_, by decide, by decide, by decide, fun pool => absurd slash pool⟩
        simp only [Bool.false_eq_true, if_false, if_pos slash, Option.some.injEq]
        exact String.ext (by simp [String.data_append])
      · refine ⟨['/'], "-clone".data, ?_, by decide, by decide, by decide, fun _ => ⟨rfl, by decide⟩⟩
        simp only [Bool.false_eq_true, if_false, if_neg slash, Option.some.injEq]
        exact String.ext (by simp [String.data_append])

theorem volname_of_nested {dataset snap : String} (slash : '/' ∈ dataset.data) :
    ∃ rest, dataset.data = (CloneSnapshotForm.volname (dataset ++ "@" ++ snap) ++ "/").data ++ rest := by
  obtain ⟨⟨pool, rest⟩, split⟩ := Option.isSome_iff_exists.mp (splitOnceChars_isSome slash)
  obtain ⟨spelled, first⟩ := splitOnceChars_eq_some split
  have snapshot : dataset ++ "@" ++ snap = ⟨pool⟩ ++ ⟨['/']⟩ ++ (⟨rest⟩ ++ "@" ++ snap) :=
    String.ext (by simp [String.data_append, spelled])
  have inSnapshot : '/' ∈ (dataset ++ "@" ++ snap).data := by simp [String.data_append, slash]
  refine ⟨rest, ?_⟩
  rw [CloneSnapshotForm.volname, if_pos inSnapshot, snapshot, splitSep_append _ first]
  simp [String.data_append, spelled]

theorem volname_of_pool {dataset snap : String} (noSlashDataset : '/' ∉ dataset.data)
    (noSlashSnap : '/' ∉ snap.data) (noAtDataset : '@' ∉ dataset.data) (noAtSnap : '@' ∉ snap.data) :
    CloneSnapshotForm.volname (dataset ++ "@" ++ snap) = dataset := by
  have outside : '/' ∉ (dataset ++ "@" ++ snap).data := by
    simp [String.data_append, noSlashDataset, noSlashSnap]
  rw [CloneSnapshotForm.volname, if_neg outside, splitSep_snapshot noAtDataset noAtSnap]
  rfl

theorem fullClean_proposal {initial proposed : String}
    (paths : ∀ c ∈ proposed.data, c = '/' ∨ isDatasetNameChar c = true)
    (samePool : ∃ rest, proposed.data = (CloneSnapshotForm.volname initial ++ "/").data ++ rest ∧
      'c' ∈ rest)
    (begins : ∀ c ∈ proposed.data.head?, isSpace c = false)
    (filled : ∃ c ∈ initial.data, isSpace c = false) :
    CloneSnapshotForm.fullClean initial initial proposed =
      if ':' ∈ proposed.data then .error [("cs_name", "Only [-a-zA-Z0-9_./ ] permitted as clone name")]
      else .ok ⟨initial, strip proposed⟩ := by
  obtain ⟨pool, poolMem, poolSolid⟩ := filled
  obtain ⟨rest, spelled, letter⟩ := samePool
  have posted : CharField.clean none true proposed = .ok (strip proposed) :=
    @CharField.clean_of_solid _ _ 'c' (by rw [spelled]; simp [letter]) (by decide)
  have underPool := prefix_stripChars rest
    (fun c mem => begins c (by rwa [spelled, List.head?_append_of_ne_nil _ (by simp)]))
    ⟨'c', letter, by decide⟩
  rw [← spelled] at underPool
  have sameVolume : (CloneSnapshotForm.volname initial ++ "/").data.isPrefixOf (strip proposed).data :=
    List.isPrefixOf_iff_prefix.mpr underPool
  have classes : classRun isCloneNameChar isCloneNameChar (strip proposed).data = true ↔
      ':' ∉ proposed.data := by
    rw [classRun_same_iff]
    refine ⟨fun ⟨_, admitted⟩ colon => ?_, fun colon => ⟨?_, fun c mem => ?_⟩⟩
    · exact absurd (admitted ':' (mem_stripChars colon (by decide))) (by decide)
    · exact List.ne_nil_of_mem (mem_stripChars (by rw [spelled]; simp [letter]) (by decide : isSpace 'c' = false))
    · have original := (stripChars_sublist proposed.data).subset mem
      exact (isCloneNameChar_iff (paths c original)).mpr fun same => colon (same ▸ original)
  simp only [CloneSnapshotForm.fullClean, CharField.clean_of_solid poolMem poolSolid, posted, Except.map,
    Except.bind, CloneSnapshotForm.cleanCsName, anchoredMatch_strip, sameVolume]
  by_cases colon : ':' ∈ proposed.data
  · simp [colon, mt classes.mp (not_not.mpr colon)]
  · simp [colon, classes.mpr colon]

theorem fullClean_initialName (isVolume : Bool) (dataset snap : String)
    (datasetChars : ∀ c ∈ dataset.data, c = '/' ∨ isDatasetNameChar c = true)
    (snapChars : ∀ c ∈ snap.data, isDatasetNameChar c = true)
    (starts : ∃ c rest, dataset.data = c :: rest ∧ c.isAlphanum = true)
    (nested : isVolume = true → '/' ∈ dataset.data) :
    ∃ proposed, CloneSnapshotForm.initialName isVolume (dataset ++ "@" ++ snap) = some proposed ∧
      CloneSnapshotForm.fullClean (dataset ++ "@" ++ snap) (dataset ++ "@" ++ snap) proposed =
        if ':' ∈ dataset.data ∨ ':' ∈ snap.data then
          .error [("cs_name", "Only [-a-zA-Z0-9_./ ] permitted as clone name")]
        else .ok ⟨dataset ++ "@" ++ snap, strip proposed⟩ := by
  obtain ⟨first, more, spelled, alnum⟩ := starts
  have noAtDataset : '@' ∉ dataset.data := fun mem => not_at_of_path (datasetChars _ mem) rfl
  have noAtSnap : '@' ∉ snap.data := fun mem => not_at_of_path (.inr (snapChars _ mem)) rfl
  have noSlashSnap : '/' ∉ snap.data := fun mem => absurd (snapChars _ mem) (by decide)
  obtain ⟨before, after, proposed, literal, noColon, letter, pool⟩ :=
    initialName_extends noAtDataset noAtSnap nested
  refine ⟨_, proposed, ?_⟩
  have samePool : ∃ rest, dataset.data ++ before ++ snap.data ++ after =
      (CloneSnapshotForm.volname (dataset ++ "@" ++ snap) ++ "/").data ++ rest ∧ 'c' ∈ rest := by
    by_cases slash : '/' ∈ dataset.data
    · obtain ⟨rest, split⟩ := @volname_of_nested dataset snap slash
      refine ⟨rest ++ before ++ snap.data ++ after, by simp [split], ?_⟩
      rcases List.mem_append.mp letter with inner | inner <;> simp [inner]
    · obtain ⟨rfl, letterAfter⟩ := pool slash
      rw [volname_of_pool slash noSlashSnap noAtDataset noAtSnap]
      exact ⟨snap.data ++ after, by simp [String.data_append], by simp [letterAfter]⟩
  have paths : ∀ c ∈ dataset.data ++ before ++ snap.data ++ after,
      c = '/' ∨ isDatasetNameChar c = true := by
    intro c mem
    simp only [List.mem_append] at mem
    rcases mem with ((inDataset | inBefore) | inSnap) | inAfter
    exacts [datasetChars c inDataset, literal c (List.mem_append_left _ inBefore),
      .inr (snapChars c inSnap), literal c (List.mem_append_right _ inAfter)]
  have colon : ':' ∈ dataset.data ++ before ++ snap.data ++ after ↔
      ':' ∈ dataset.data ∨ ':' ∈ snap.data := by
    simp only [List.mem_append, not_or] at noColon ⊢
    simp only [noColon.1, noColon.2, or_false]
  have solid : isSpace first = false := isSpace_of_isAlphanum alnum
  rw [fullClean_proposal paths samePool (by simp [spelled, solid])
    ⟨first, by simp [String.data_append, spelled], solid⟩]
  exact if_congr colon rfl rfl

/-- Opened on a snapshot whose dataset path and name are made of what ZFS names hold, the
first component starting with a letter or digit, and submitted as it is shown, the clone
form takes its own proposal (stripped) exactly when neither the dataset nor the snapshot
name holds a `:`, and otherwise refuses it for its characters and nothing else. -/
theorem proposed_clone_name_checked (isVolume : Bool) (dataset snap : String)
    (datasetChars : ∀ c ∈ dataset.data, c = '/' ∨ isDatasetNameChar c = true)
    (snapChars : ∀ c ∈ snap.data, isDatasetNameChar c = true)
    (starts : ∃ c rest, dataset.data = c :: rest ∧ c.isAlphanum = true)
    (nested : isVolume = true → '/' ∈ dataset.data) :
    ∃ proposed, CloneSnapshotForm.initialName isVolume (dataset ++ "@" ++ snap) = some proposed ∧
      CloneSnapshotForm.fullClean (dataset ++ "@" ++ snap) (dataset ++ "@" ++ snap) proposed =
        if ':' ∈ dataset.data ∨ ':' ∈ snap.data then
          .error [("cs_name", "Only [-a-zA-Z0-9_./ ] permitted as clone name")]
        else .ok ⟨dataset ++ "@" ++ snap, strip proposed⟩ :=
  fullClean_initialName isVolume dataset snap datasetChars snapChars starts nested

theorem proposed_clone_name_checked_of_tank :
    ∃ proposed, CloneSnapshotForm.initialName false ("tank/data" ++ "@" ++ "auto-20170101.0000-2w") =
        some proposed ∧
      CloneSnapshotForm.fullClean ("tank/data" ++ "@" ++ "auto-20170101.0000-2w")
          ("tank/data" ++ "@" ++ "auto-20170101.0000-2w") proposed =
        if ':' ∈ "tank/data".data ∨ ':' ∈ "auto-20170101.0000-2w".data then
          .error [("cs_name", "Only [-a-zA-Z0-9_./ ] permitted as clone name")]
        else .ok ⟨"tank/data" ++ "@" ++ "auto-20170101.0000-2w", strip proposed⟩ :=
  proposed_clone_name_checked false "tank/data" "auto-20170101.0000-2w" (by decide) (by decide)
    ⟨'t', "ank/data".data, rfl, rfl⟩ (by decide)

theorem msName_eq_ok {snapshotExists : String → Bool} {fs value name : String}
    (taken : ManualSnapshotForm.msName snapshotExists fs value = .ok name) :
    (∀ c ∈ name.data, isSnapshotNameChar c = true) ∧ snapshotExists (fs ++ "@" ++ name) = false := by
  unfold ManualSnapshotForm.msName CharField.clean at taken
  split_ifs at taken
  · cases taken
  simp only [Except.bind, ManualSnapshotForm.cleanMsName, anchoredMatch_strip] at taken
  split_ifs at taken with refused exists_
  cases taken
  simp only [Bool.not_eq_true', Bool.not_eq_false] at refused
  exact ⟨(classRun_same_iff.mp refused).2, by simpa using exists_⟩

/-- A snapshot `ManualSnapshotForm` took, of a dataset whose path is made of what ZFS names
hold and starts with a letter or digit, is cloned under the name `CloneSnapshotForm`
proposes for it exactly when the dataset's path holds no `:`. -/
theorem manual_snapshot_clone_checked (snapshotExists : String → Bool) (isVolume : Bool)
    (fs value name : String) (fsChars : ∀ c ∈ fs.data, c = '/' ∨ isDatasetNameChar c = true)
    (starts : ∃ c rest, fs.data = c :: rest ∧ c.isAlphanum = true)
    (nested : isVolume = true → '/' ∈ fs.data)
    (taken : ManualSnapshotForm.msName snapshotExists fs value = .ok name) :
    ∃ proposed, CloneSnapshotForm.initialName isVolume (fs ++ "@" ++ name) = some proposed ∧
      CloneSnapshotForm.fullClean (fs ++ "@" ++ name) (fs ++ "@" ++ name) proposed =
        if ':' ∈ fs.data then .error [("cs_name", "Only [-a-zA-Z0-9_./ ] permitted as clone name")]
        else .ok ⟨fs ++ "@" ++ name, strip proposed⟩ := by
  have snapChars := fun c mem => isDatasetNameChar_of_isSnapshotNameChar ((msName_eq_ok taken).1 c mem)
  obtain ⟨proposed, made, checked⟩ :=
    fullClean_initialName isVolume fs name fsChars (fun c mem => (snapChars c mem).1) starts nested
  refine ⟨proposed, made, checked.trans (if_congr ?_ rfl rfl)⟩
  exact or_iff_left fun colon => (snapChars ':' colon).2 rfl

theorem manual_snapshot_clone_checked_of_tank :
    ManualSnapshotForm.msName (fun _ => false) "tank/data" "manual-1" = .ok "manual-1" ∧
      ∃ proposed, CloneSnapshotForm.initialName false ("tank/data" ++ "@" ++ "manual-1") =
          some proposed ∧
        CloneSnapshotForm.fullClean ("tank/data" ++ "@" ++ "manual-1")
            ("tank/data" ++ "@" ++ "manual-1") proposed =
          if ':' ∈ "tank/data".data then
            .error [("cs_name", "Only [-a-zA-Z0-9_./ ] permitted as clone name")]
          else .ok ⟨"tank/data" ++ "@" ++ "manual-1", strip proposed⟩ :=
  have taken : ManualSnapshotForm.msName (fun _ => false) "tank/data" "manual-1" =
      .ok "manual-1" := rfl
  ⟨taken, manual_snapshot_clone_checked (fun _ => false) false "tank/data" "manual-1" "manual-1"
    (by decide) ⟨'t', "ank/data".data, rfl, rfl⟩ (by decide) taken⟩

end FreeNAS.Storage
