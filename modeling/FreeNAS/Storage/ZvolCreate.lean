import FreeNAS.Storage.VdevForm
import FreeNAS.Storage.DatasetEdit
import FreeNAS.Python.Re
import Mathlib.Order.Bounds.Basic

/-!
# The default block size of a new zvol

`ZVol_CreateForm.__init__` proposes a block size from the layout of the parent pool:

    numdisks = 4
    for vdev in zpool.data:
        if vdev.type in ('cache', 'spare', 'log', 'log mirror'):
            continue
        ...  # num: the disks of the vdev that hold data
        if num > numdisks:
            numdisks = num
    size = '%dK' % 2 ** ((numdisks * 4) - 1).bit_length()

and preselects it when `choices.ZFS_VOLBLOCKSIZE` offers it.  The loop keeps the largest
count seen, starting from 4 (`numdisks_eq_largestDataWidth`), and `2 ** (m - 1).bit_length()`
is the least power of two at least `m` (`twoPow_bitLength_isLeast`), so the proposal is
the least power of two at least four times the widest data vdev, and at least 16K.

The form then creates the zvol `parentds/zvol_name`.  `clean_zvol_name` matches the name
against `^[a-zA-Z0-9][a-zA-Z0-9_\-:.]*$`, whose `$` also matches before a final newline;
the name it sees is stripped by its `CharField`, so no newline gets through, and every zvol
the form creates is a direct child of the parent dataset (`created_zvol_is_child`).
-/

namespace FreeNAS.Storage

open FreeNAS.Python

/-- The vdev types the loop skips. -/
def zvolSkippedTypes : List String := ["cache", "spare", "log", "log mirror"]

/-- The disks of a vdev that hold data, as `ZVol_CreateForm.__init__` counts them; `none`
for a vdev the loop skips. -/
def ZVolCreateForm.dataDisks (vdev : ZVdev) : Option Int :=
  if vdev.type ∈ zvolSkippedTypes then none
  else if vdev.type = "raidz" then some (vdev.devices.length - 1)
  else if vdev.type = "raidz2" then some (vdev.devices.length - 2)
  else if vdev.type = "raidz3" then some (vdev.devices.length - 3)
  else if vdev.type = "mirror" then some 1
  else some vdev.devices.length

/-- One turn of the loop over `zpool.data`. -/
def ZVolCreateForm.countStep (numdisks : Int) (vdev : ZVdev) : Int :=
  match ZVolCreateForm.dataDisks vdev with
  | none => numdisks
  | some num => if num > numdisks then num else numdisks

/-- `numdisks` once the loop is done. -/
def ZVolCreateForm.numdisks (zpoolData : List ZVdev) : Int :=
  zpoolData.foldl ZVolCreateForm.countStep 4

/-- `2 ** ((numdisks * 4) - 1).bit_length()`, the block size in KiB. -/
def ZVolCreateForm.blocksizeKiB (zpoolData : List ZVdev) : Nat :=
  2 ^ bitLength (ZVolCreateForm.numdisks zpoolData * 4 - 1)

/-- `size = '%dK' % ...`. -/
def ZVolCreateForm.blocksize (zpoolData : List ZVdev) : String :=
  toString (ZVolCreateForm.blocksizeKiB zpoolData) ++ "K"

/-- The initial of `zvol_blocksize`: the size, when it is one of `volblocksizes`, the keys
of `choices.ZFS_VOLBLOCKSIZE` (a table `choices.py` holds, not under src/). -/
def ZVolCreateForm.blocksizeInitial (volblocksizes : List String) (zpoolData : List ZVdev) :
    Option String :=
  if ZVolCreateForm.blocksize zpoolData ∈ volblocksizes then
    some (ZVolCreateForm.blocksize zpoolData)
  else none

/-- The count the proposal follows: the largest of 4 and of the data disks of each vdev
the loop does not skip. -/
def largestDataWidth (zpoolData : List ZVdev) : Int :=
  (zpoolData.filterMap ZVolCreateForm.dataDisks).foldl max 4

theorem countStep_eq (numdisks : Int) (vdev : ZVdev) :
    ZVolCreateForm.countStep numdisks vdev =
      ((ZVolCreateForm.dataDisks vdev).map (max numdisks)).getD numdisks := by
  unfold ZVolCreateForm.countStep
  split <;> rename_i counted <;> simp only [counted, Option.map_none', Option.map_some',
    Option.getD_none, Option.getD_some]
  split_ifs <;> omega

theorem foldl_countStep (numdisks : Int) (zpoolData : List ZVdev) :
    zpoolData.foldl ZVolCreateForm.countStep numdisks =
      (zpoolData.filterMap ZVolCreateForm.dataDisks).foldl max numdisks := by
  induction zpoolData generalizing numdisks with
  | nil => rfl
  | cons vdev rest ih =>
      rw [List.foldl_cons, ih, countStep_eq, List.filterMap_cons]
      cases ZVolCreateForm.dataDisks vdev <;> rfl

theorem numdisks_eq_largestDataWidth (zpoolData : List ZVdev) :
    ZVolCreateForm.numdisks zpoolData = largestDataWidth zpoolData :=
  foldl_countStep 4 zpoolData

theorem le_foldl_max (start : Int) (counts : List Int) : start ≤ counts.foldl max start := by
  induction counts generalizing start with
  | nil => exact le_rfl
  | cons count rest ih => exact (le_max_left start count).trans (ih _)

theorem four_le_largestDataWidth (zpoolData : List ZVdev) : 4 ≤ largestDataWidth zpoolData :=
  le_foldl_max 4 _

/-- `2 ** (m - 1).bit_length()` is the least power of two at least `m`, for positive `m`. -/
theorem twoPow_bitLength_isLeast {m : Int} (positive : 0 < m) :
    IsLeast {c : Nat | (∃ k, c = 2 ^ k) ∧ m ≤ c} (2 ^ bitLength (m - 1)) := by
  refine ⟨⟨⟨_, rfl⟩, ?_⟩, ?_⟩
  · have below := natAbs_lt_two_pow_bitLength (m - 1)
    omega
  · rintro c ⟨⟨k, rfl⟩, atLeast⟩
    exact Nat.pow_le_pow_right (by omega) (bitLength_le_iff.mpr (by omega))

example : ZVolCreateForm.blocksize [⟨"raidz2", ["ada0", "ada1", "ada2", "ada3", "ada4",
    "ada5", "ada6", "ada7"]⟩, ⟨"log", ["ada8"]⟩] = "32K" := by decide

/-- A character `[a-zA-Z0-9_\-:.]` admits. -/
def isZvolNameChar : Char → Bool := alnumOr ['_', '-', ':', '.']

/-- `re.search(r'^[a-zA-Z0-9][a-zA-Z0-9_\-:.]*$', name)`. -/
def ZVolCreateForm.nameMatches (name : String) : Bool :=
  anchoredMatch Char.isAlphanum isZvolNameChar name

/-- The values `ZVol_CreateForm` is posted. -/
structure ZvolCreateFields where
  name : String
  comments : String
  volsize : String
  force : Bool
  sync : String
  compression : String
  dedup : String
  sparse : Bool
  blocksize : String

/-- `cleaned_data` of a valid `ZVol_CreateForm`. -/
structure ZvolCreateCleaned where
  name : String
  comments : String
  volsize : String
  sync : String
  compression : String
  dedup : String
  sparse : Bool
  blocksize : String
  deriving DecidableEq, Repr

/-- The `zvol_name` field: a required `CharField` of at most 128 characters, then
`clean_zvol_name`. -/
def ZVolCreateForm.nameField (value : String) : Option String :=
  (charFieldClean 128 true value).bind fun name =>
    if ZVolCreateForm.nameMatches name then some name else none

/-- `full_clean` of `ZVol_CreateForm`: its cleaned data when it is valid, `none` when it
is not (or when `clean` deletes the `zvol_name` its field refused, which raises `KeyError`).
`space` is the parent's `avail`, `volblocksizes` the keys of `choices.ZFS_VOLBLOCKSIZE`, and
`datasetExists` tells whether `zfs.list_datasets` finds a path. -/
def ZVolCreateForm.fullClean (choices : ZvolChoices) (volblocksizes : List String) (space : Nat)
    (datasetExists : String → Bool) (parentds : String) (data : ZvolCreateFields) :
    Option ZvolCreateCleaned :=
  match ZVolCreateForm.nameField data.name, charFieldClean 120 false data.comments,
      (charFieldClean 128 true data.volsize).bind
        fun volsize => (CommonZVol.cleanZvolVolsize space volsize).toOption,
      choiceFieldClean choices.sync true data.sync,
      choiceFieldClean choices.compression true data.compression,
      choiceFieldClean choices.dedup true data.dedup,
      choiceFieldClean ("" :: volblocksizes) false data.blocksize with
  | some name, some comments, some result, some sync, some compression, some dedup,
      some blocksize =>
      if datasetExists (parentds ++ "/" ++ name) ∨
          (CommonZVol.zvolForce result.force data.force).isSome then none
      else some ⟨name, comments, result.size, sync, compression, dedup, data.sparse, blocksize⟩
  | _, _, _, _, _, _, _ => none

/-- The call `save` makes on `notifier().create_zfs_vol`. -/
structure ZvolCreateCall where
  name : String
  size : String
  sparse : Bool
  props : List (String × String)

/-- `ZVol_CreateForm.save`: the zvol it creates, then the description it sets on it. -/
def ZVolCreateForm.save (parentds : String) (cleaned : ZvolCreateCleaned) :
    ZvolCreateCall × ZfsCall :=
  (⟨parentds ++ "/" ++ cleaned.name, cleaned.volsize, cleaned.sparse,
      [("sync", cleaned.sync), ("compression", cleaned.compression)] ++
        if cleaned.blocksize ≠ "" then [("volblocksize", cleaned.blocksize)] else []⟩,
    .setOption "org.freenas:description" cleaned.comments)

theorem not_slash_of_isZvolNameChar {c : Char} (admitted : isZvolNameChar c = true) : c ≠ '/' := by
  rintro rfl
  revert admitted
  decide

theorem zvolName_no_slash {chars : List Char}
    (matched : classRun Char.isAlphanum isZvolNameChar chars = true) :
    '/' ∉ chars ∧ ∃ c rest, chars = c :: rest ∧ c.isAlphanum = true := by
  obtain ⟨c, rest, rfl, first, others⟩ := classRun_iff.mp matched
  refine ⟨?_, c, rest, rfl, first⟩
  rw [List.mem_cons, not_or]
  refine ⟨fun same => ?_, fun mem => not_slash_of_isZvolNameChar (others _ mem) rfl⟩
  subst same
  exact absurd first (by decide)

/-- On a stripped name the final-newline case of `$` never applies. -/
theorem nameField_eq_some {value name : String} (h : ZVolCreateForm.nameField value = some name) :
    classRun Char.isAlphanum isZvolNameChar name.data = true := by
  obtain ⟨stripped, clean, checked⟩ := Option.bind_eq_some.mp h
  split_ifs at checked with matched
  cases checked
  rw [charFieldClean_eq_some clean]
  rwa [ZVolCreateForm.nameMatches, charFieldClean_eq_some clean, anchoredMatch_strip] at matched

theorem fullClean_eq_some {choices : ZvolChoices} {volblocksizes : List String} {space : Nat}
    {datasetExists : String → Bool} {parentds : String} {data : ZvolCreateFields}
    {cleaned : ZvolCreateCleaned}
    (h : ZVolCreateForm.fullClean choices volblocksizes space datasetExists parentds data =
      some cleaned) :
    ZVolCreateForm.nameField data.name = some cleaned.name ∧
      datasetExists (parentds ++ "/" ++ cleaned.name) = false ∧
      choiceFieldClean ("" :: volblocksizes) false data.blocksize = some cleaned.blocksize := by
  unfold ZVolCreateForm.fullClean at h
  split at h
  · rename_i named _ _ _ _ _ picked
    split_ifs at h with refused
    cases h
    exact ⟨named, by simpa using (not_or.mp refused).1, picked⟩
  · cases h

/-- Whatever is posted, a zvol `ZVol_CreateForm` creates is a direct child of the parent
dataset that did not exist: its name is the parent's, a `/`, and a name that starts with
an ASCII letter or digit and holds no `/`.  It is created with a `volblocksize` exactly
when a block size was picked. -/
theorem created_zvol_is_child (choices : ZvolChoices) (volblocksizes : List String)
    (space : Nat) (datasetExists : String → Bool) (parentds : String) (data : ZvolCreateFields)
    (cleaned : ZvolCreateCleaned)
    (valid : ZVolCreateForm.fullClean choices volblocksizes space datasetExists parentds data =
      some cleaned) :
    ∃ name, (ZVolCreateForm.save parentds cleaned).1.name = parentds ++ "/" ++ name ∧
      '/' ∉ name.data ∧ (∃ c rest, name.data = c :: rest ∧ c.isAlphanum = true) ∧
      datasetExists (parentds ++ "/" ++ name) = false ∧
      (ZVolCreateForm.save parentds cleaned).1.props.lookup "volblocksize" =
        if data.blocksize = "" then none else some data.blocksize := by
  obtain ⟨named, fresh, picked⟩ := fullClean_eq_some valid
  obtain ⟨noSlash, first⟩ := zvolName_no_slash (nameField_eq_some named)
  refine ⟨cleaned.name, rfl, noSlash, first, fresh, ?_⟩
  have kept := choiceFieldClean_eq_some picked
  by_cases inherit : data.blocksize = "" <;> simp [ZVolCreateForm.save, kept, inherit, List.lookup_cons]

/-- A zvol `vol1` of 10G posted with a 16K block size. -/
def vol1Fields : ZvolCreateFields := ⟨"vol1", "", "10G", false, "inherit", "lz4", "off", false, "16K"⟩

def vol1Cleaned : ZvolCreateCleaned := ⟨"vol1", "", "10G", "inherit", "lz4", "off", false, "16K"⟩

theorem created_zvol_is_child_of_tank :
    ZVolCreateForm.fullClean exampleZvolChoices ["16K", "32K"] 1099511627776 (fun _ => false)
        "tank" vol1Fields = some vol1Cleaned ∧
    ∃ name, (ZVolCreateForm.save "tank" vol1Cleaned).1.name = "tank" ++ "/" ++ name ∧
      '/' ∉ name.data ∧ (∃ c rest, name.data = c :: rest ∧ c.isAlphanum = true) ∧
      (fun _ => false) ("tank" ++ "/" ++ name) = false ∧
      (ZVolCreateForm.save "tank" vol1Cleaned).1.props.lookup "volblocksize" =
        if vol1Fields.blocksize = "" then none else some vol1Fields.blocksize :=
  have created : ZVolCreateForm.fullClean exampleZvolChoices ["16K", "32K"] 1099511627776
      (fun _ => false) "tank" vol1Fields = some vol1Cleaned := by decide
  ⟨created, created_zvol_is_child _ _ _ _ _ _ _ created⟩

end FreeNAS.Storage
