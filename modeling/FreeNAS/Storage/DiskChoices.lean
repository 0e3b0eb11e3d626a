import FreeNAS.Python.Int
import Mathlib.Data.String.Basic

/-!
# The disks a volume page offers

`VolumeImportForm._populate_disk_choices` hides the partitions of the disks in use: a
partition goes where `re.search(r'^%s([ps]|$)' % disk, devname)` finds a used disk name, the
disk itself or a name going on with `p` or `s`.  For device names of a driver name and a unit
number, it hides a disk and its partitions and slices exactly when that disk is in use, and
`ada1` in use leaves `ada10p1` offered (`import_hides_partitions_of_used_disks`).

`ZFSVolumeWizardForm` and `VolumeImportForm` list the free disks and partitions with
`sorted(disks)`, which compares them with `Disk.__lt__`: a bigger disk comes first, disks
of one printed size by driver name, and disks of one driver by unit number:

    if self.human_size == other.human_size:
        if self.dtype == other.dtype:
            return self.number < other.number
        return self.dtype < other.dtype
    return self.size > other.size

`Disk` here is the class of `gui/storage/forms.py`, not the `storage.models.Disk` row.
`Disk.__init__` reads the driver name and unit number off the device name with
`^(.*?)([0-9]+)`, and leaves the number `None` for a name without a digit; `None < 0` raises
`TypeError`.  The printed size comes from `humanize_number_si`, which is not under `src/`;
where it sends the sizes between two of one printed size to that printed size too (its
classes are intervals, as for any rounding of a monotone scale), `__lt__` is a strict weak
order on the disks with a number, the condition under which `sorted` orders a list at all
(`disk_lt_isStrictWeakOrder`).
-/

namespace FreeNAS.Storage.Forms

open FreeNAS.Python

/-- What `Disk.__init__` keeps of a device for `__lt__`. -/
structure Disk where
  dtype : String
  number : Option Int
  size : Nat
  humanSize : String
  deriving DecidableEq, Repr

/-- `re.search(r'^(.*?)([0-9]+)', devname)`: the text before the first ASCII digit and the
digits from there, or `none` where there is no digit, or a newline (which `.` does not
match) stands before the first one. -/
def searchUnit (devname : List Char) : Option (List Char × List Char) :=
  match devname.dropWhile fun c => !isAsciiDigit c with
  | [] => none
  | rest =>
      if '\n' ∈ devname.takeWhile (fun c => !isAsciiDigit c) then none
      else some (devname.takeWhile (fun c => !isAsciiDigit c), rest.takeWhile isAsciiDigit)

/-- `Disk(devname, size)`; `humanize` is `humanize_number_si`. -/
def Disk.init (humanize : Nat → String) (devname : String) (size : Nat) : Disk :=
  match searchUnit devname.data with
  | some (dtype, number) => ⟨⟨dtype⟩, pyInt ⟨number⟩, size, humanize size⟩
  | none => ⟨devname, none, size, humanize size⟩

/-- `Disk.__lt__`: `none` where comparing a missing number raises `TypeError`. -/
def Disk.lt (self other : Disk) : Option Bool :=
  if self.humanSize = other.humanSize then
    if self.dtype = other.dtype then
      match self.number, other.number with
      | some number, some otherNumber => some (decide (number < otherNumber))
      | _, _ => none
    else some (decide (self.dtype < other.dtype))
  else some (decide (other.size < self.size))

/-- A disk `Disk.__init__` built, with a unit number. -/
structure NumberedDisk (humanize : Nat → String) where
  disk : Disk
  human : disk.humanSize = humanize disk.size
  numbered : disk.number.isSome

theorem Disk.init_numbered (humanize : Nat → String) {devname : String} (size : Nat)
    (digit : ∃ c ∈ devname.data, isAsciiDigit c = true)
    (noNewline : '\n' ∉ devname.data.takeWhile fun c => !isAsciiDigit c) :
    ∃ numbered : NumberedDisk humanize, numbered.disk = Disk.init humanize devname size := by
  obtain ⟨c, mem, digitC⟩ := digit
  have kept : c ∈ devname.data.dropWhile (fun c => !isAsciiDigit c) :=
    mem_dropWhile_of_not mem (by simp [digitC])
  obtain ⟨d, more, split⟩ := List.exists_cons_of_ne_nil (List.ne_nil_of_mem kept)
  have first : isAsciiDigit d = true := by
    have stops := List.head?_dropWhile_not (fun c => !isAsciiDigit c) devname.data
    rw [split] at stops
    simpa using stops
  refine ⟨⟨Disk.init humanize devname size, ?_, ?_⟩, rfl⟩
  · unfold Disk.init
    split <;> rfl
  · unfold Disk.init searchUnit
    rw [split]
    simp only [if_neg noNewline, List.takeWhile_cons, first, if_true]
    rw [pyInt_of_asciiDigits (List.cons_ne_nil _ _) fun x mem => ?_]
    · rfl
    · rcases List.mem_cons.mp mem with rfl | mem
      exacts [first, List.mem_takeWhile_imp mem]

section Order

variable {humanize : Nat → String}

/-- The unit number of a numbered disk. -/
def NumberedDisk.number (a : NumberedDisk humanize) : Int := a.disk.number.get a.numbered

theorem NumberedDisk.disk_number (a : NumberedDisk humanize) : a.disk.number = some a.number :=
  (Option.some_get a.numbered).symm

/-- On numbered disks `__lt__` never raises: a bigger printed size class comes first, then
the driver name, then the unit number. -/
theorem NumberedDisk.lt_eq (a b : NumberedDisk humanize) :
    Disk.lt a.disk b.disk = some (decide (
      humanize a.disk.size ≠ humanize b.disk.size ∧ b.disk.size < a.disk.size ∨
      humanize a.disk.size = humanize b.disk.size ∧
        (a.disk.dtype < b.disk.dtype ∨ a.disk.dtype = b.disk.dtype ∧ a.number < b.number))) := by
  unfold Disk.lt
  rw [a.human, b.human, a.disk_number, b.disk_number]
  by_cases human : humanize a.disk.size = humanize b.disk.size
  · by_cases driver : a.disk.dtype = b.disk.dtype
    · simp [human, driver]
    · simp [human, driver]
  · simp [human]

example : Disk.lt (Disk.init (fun _ => "2.0T") "ada2" 2000) (Disk.init (fun _ => "2.0T") "ada10" 2000) =
    some true := by decide

/-- Two numbered disks neither of which comes first have one printed size, one driver and
one number. -/
theorem NumberedDisk.incomparable_iff (a b : NumberedDisk humanize) :
    ¬Disk.lt a.disk b.disk = some true ∧ ¬Disk.lt b.disk a.disk = some true ↔
      humanize a.disk.size = humanize b.disk.size ∧ a.disk.dtype = b.disk.dtype ∧
        a.number = b.number := by
  simp only [NumberedDisk.lt_eq, Option.some.injEq, decide_eq_true_eq]
  constructor
  · rintro ⟨before, after⟩
    have human : humanize a.disk.size = humanize b.disk.size := by
      by_contra human
      rcases Nat.lt_trichotomy a.disk.size b.disk.size with smaller | same | bigger
      · exact after (.inl ⟨Ne.symm human, smaller⟩)
      · exact human (congrArg humanize same)
      · exact before (.inl ⟨human, bigger⟩)
    rcases lt_trichotomy a.disk.dtype b.disk.dtype with earlier | driver | later
    · exact absurd (.inr ⟨human, .inl earlier⟩) before
    · refine ⟨human, driver, ?_⟩
      rcases lt_trichotomy a.number b.number with smaller | same | bigger
      · exact absurd (.inr ⟨human, .inr ⟨driver, smaller⟩⟩) before
      · exact same
      · exact absurd (.inr ⟨human.symm, .inr ⟨driver.symm, bigger⟩⟩) after
    · exact absurd (.inr ⟨human.symm, .inl later⟩) after
  · rintro ⟨human, driver, same⟩
    simp [human, driver, same]

variable (convex : ∀ x y z, x ≤ y → y ≤ z → humanize x = humanize z → humanize y = humanize x)
include convex

theorem lt_of_lt_of_class {x y z : Nat} (human : humanize x ≠ humanize y) (bigger : y < x)
    (same : humanize y = humanize z) : z < x := by
  by_contra below
  exact human (convex y x z (by omega) (by omega) same)

theorem lt_of_class_of_lt {x y z : Nat} (same : humanize x = humanize y)
    (human : humanize y ≠ humanize z) (bigger : z < y) : z < x := by
  by_contra below
  exact human ((convex x z y (by omega) (by omega) same).trans same).symm

theorem NumberedDisk.lt_isStrictWeakOrder :
    IsStrictWeakOrder (NumberedDisk humanize) fun a b => Disk.lt a.disk b.disk = some true := by
  have strict : IsStrictOrder (NumberedDisk humanize) fun a b => Disk.lt a.disk b.disk = some true :=
    { irrefl := fun a => by simp [NumberedDisk.lt_eq]
      trans := fun a b c first second => by
        simp only [NumberedDisk.lt_eq, Option.some.injEq, decide_eq_true_eq] at first second ⊢
        rcases first with ⟨human₁, bigger₁⟩ | ⟨human₁, order₁⟩ <;>
          rcases second with ⟨human₂, bigger₂⟩ | ⟨human₂, order₂⟩
        · exact .inl ⟨fun same => human₂ (convex _ _ _ bigger₂.le bigger₁.le same.symm),
            bigger₂.trans bigger₁⟩
        · exact .inl ⟨fun same => human₁ (same.trans human₂.symm),
            lt_of_lt_of_class convex human₁ bigger₁ human₂⟩
        · exact .inl ⟨fun same => human₂ (human₁.symm.trans same),
            lt_of_class_of_lt convex human₁ human₂ bigger₂⟩
        · refine .inr ⟨human₁.trans human₂, ?_⟩
          rcases order₁ with earlier₁ | ⟨driver₁, smaller₁⟩ <;>
            rcases order₂ with earlier₂ | ⟨driver₂, smaller₂⟩
          · exact .inl (earlier₁.trans earlier₂)
          · exact .inl (driver₂ ▸ earlier₁)
          · exact .inl (driver₁ ▸ earlier₂)
          · exact .inr ⟨driver₁.trans driver₂, smaller₁.trans smaller₂⟩ }
  refine @IsStrictWeakOrder.mk _ _ strict fun a b c first second => ?_
  rw [NumberedDisk.incomparable_iff] at first second ⊢
  exact ⟨first.1.trans second.1, first.2.1.trans second.2.1, first.2.2.trans second.2.2⟩

/-- Where `humanize_number_si` has interval classes, `Disk.__init__` numbers every device
name with a digit and no newline before it, and `Disk.__lt__` is a strict weak order on the
disks with a number: `sorted(disks)` orders them. -/
theorem disk_lt_isStrictWeakOrder :
    (∀ (devname : String) (size : Nat), (∃ c ∈ devname.data, isAsciiDigit c = true) →
        '\n' ∉ devname.data.takeWhile (fun c => !isAsciiDigit c) →
        ∃ numbered : NumberedDisk humanize, numbered.disk = Disk.init humanize devname size) ∧
      IsStrictWeakOrder (NumberedDisk humanize) fun a b => Disk.lt a.disk b.disk = some true :=
  ⟨fun _ size digit noNewline => Disk.init_numbered humanize size digit noNewline,
    NumberedDisk.lt_isStrictWeakOrder convex⟩

end Order

/-- `re.search(r'^%s([ps]|$)' % disk, devname)`, for a disk name without regex metacharacters
(the device names are letters and digits): `$` also matches before a final newline. -/
def partitionOf (disk devname : String) : Bool :=
  disk.data.isPrefixOf devname.data &&
    match devname.data.drop disk.data.length with
    | [] => true
    | c :: rest => c == 'p' || c == 's' || (c == '\n' && rest.isEmpty)

/-- An entry of `notifier().get_partitions()`. -/
structure Partition where
  devname : String
  capacity : Nat
  deriving DecidableEq, Repr

/-- The partitions the loop over `used_disks` leaves in `_parts`. -/
def VolumeImportForm.freePartitions (used : List String) (parts : List (String × Partition)) :
    List (String × Partition) :=
  parts.filter fun part => !used.any fun disk => partitionOf disk part.2.devname

/-- `VolumeImportForm._populate_disk_choices` up to `sorted`: the disks it sorts. -/
def VolumeImportForm.diskChoices (humanize : Nat → String) (used : List String)
    (parts : List (String × Partition)) : List Disk :=
  (VolumeImportForm.freePartitions used parts).map fun part =>
    Disk.init humanize part.2.devname part.2.capacity

theorem isAsciiDigit_of_isAlpha {c : Char} (letter : c.isAlpha = true) : isAsciiDigit c = false := by
  have letterBounds : 65 ≤ c.toNat ∧ c.toNat ≤ 90 ∨ 97 ≤ c.toNat ∧ c.toNat ≤ 122 := by
    simpa [Char.isAlpha, Char.isUpper, Char.isLower, Char.le_def] using letter
  cases digit : isAsciiDigit c
  · rfl
  · have digitBounds : 48 ≤ c.toNat ∧ c.toNat ≤ 57 := by
      simpa [isAsciiDigit, Char.le_def] using digit
    omega

/-- A device name that `Disk.__init__` reads whole as a driver name and a unit number, as
`ada0` or `da12`: ASCII letters, which the pattern of `_populate_disk_choices` matches as
themselves, then digits. -/
structure UnitName where
  driver : List Char
  unit : List Char
  driverLetters : ∀ c ∈ driver, c.isAlpha = true
  unitFilled : unit ≠ []
  unitDigits : ∀ c ∈ unit, isAsciiDigit c = true

def UnitName.name (name : UnitName) : String := ⟨name.driver ++ name.unit⟩

theorem UnitName.getLast?_digit (name : UnitName) :
    ∃ c, name.name.data.getLast? = some c ∧ isAsciiDigit c = true := by
  obtain ⟨c, last⟩ := Option.isSome_iff_exists.mp (List.getLast?_isSome.mpr name.unitFilled)
  refine ⟨c, ?_, name.unitDigits c (List.mem_of_getLast?_eq_some last)⟩
  simp [UnitName.name, last]

theorem UnitName.digits_after {name : UnitName} {before after : List Char}
    (split : name.name.data = before ++ after)
    (last : ∃ c, before.getLast? = some c ∧ isAsciiDigit c = true) :
    ∀ c ∈ after, isAsciiDigit c = true := by
  obtain ⟨c, lastC, digit⟩ := last
  rcases List.append_eq_append_iff.mp split with ⟨_, -, unit⟩ | ⟨_, driver, -⟩
  · exact fun x mem => name.unitDigits x (unit ▸ List.mem_append_right _ mem)
  · have inDriver : c ∈ name.driver := driver ▸ List.mem_append_left _ (List.mem_of_getLast?_eq_some lastC)
    rw [isAsciiDigit_of_isAlpha (name.driverLetters c inDriver)] at digit
    cases digit

/-- A used unit name hides a device named after a unit name, or a partition or slice of it,
exactly when the two names are one. -/
theorem partitionOf_unitName_iff {used disk : UnitName} {tail : List Char}
    (suffix : tail = [] ∨ ∃ sep ∈ ['p', 's'], ∃ rest, tail = sep :: rest) :
    partitionOf used.name ⟨disk.name.data ++ tail⟩ = true ↔ used.name = disk.name := by
  constructor
  · intro hidden
    simp only [partitionOf, Bool.and_eq_true, List.isPrefixOf_iff_prefix] at hidden
    obtain ⟨before, after⟩ := hidden
    rcases List.prefix_or_prefix_of_prefix before (List.prefix_append _ tail) with
      ⟨y, grown⟩ | ⟨y, grown⟩
    · cases y with
      | nil => exact String.ext (by simpa using grown)
      | cons c y =>
          have digit := UnitName.digits_after grown.symm used.getLast?_digit c (.head y)
          rw [← grown, List.append_assoc, List.drop_left, List.cons_append] at after
          simp only [Bool.or_eq_true, beq_iff_eq, Bool.and_eq_true] at after
          rcases after with (rfl | rfl) | ⟨rfl, -⟩ <;> cases digit
    · cases y with
      | nil => exact String.ext (by simpa using grown.symm)
      | cons c y =>
          have digit := UnitName.digits_after grown.symm disk.getLast?_digit c (.head y)
          rw [← grown, List.prefix_append_right_inj] at before
          rcases suffix with rfl | ⟨sep, separator, rest, rfl⟩
          · cases List.eq_nil_of_prefix_nil before
          · rw [List.cons_prefix_cons] at before
            rw [before.1] at digit
            simp only [List.mem_cons, List.mem_singleton, List.not_mem_nil, or_false] at separator
            rcases separator with rfl | rfl <;> cases digit
  · intro same
    simp only [partitionOf, same, List.drop_left, Bool.true_and,
      List.isPrefixOf_iff_prefix.mpr (List.prefix_append _ tail)]
    rcases suffix with rfl | ⟨sep, separator, rest, rfl⟩
    · rfl
    · simp only [List.mem_cons, List.mem_singleton, List.not_mem_nil, or_false] at separator
      rcases separator with rfl | rfl <;> rfl

/-- The import form offers a disk, or a partition or slice of it, exactly when that disk is
not in use. -/
theorem import_hides_partitions_of_used_disks (used : List UnitName)
    (parts : List (String × Partition)) (disk : UnitName) (tail : List Char)
    (suffix : tail = [] ∨ ∃ sep ∈ ['p', 's'], ∃ rest, tail = sep :: rest)
    (part : String × Partition) (ofDisk : part.2.devname = ⟨disk.name.data ++ tail⟩) :
    part ∈ VolumeImportForm.freePartitions (used.map UnitName.name) parts ↔
      part ∈ parts ∧ disk.name ∉ used.map UnitName.name := by
  simp only [VolumeImportForm.freePartitions, List.mem_filter, ofDisk, List.any_map,
    Bool.not_eq_true', List.any_eq_false, List.mem_map, forall_exists_index, and_imp,
    forall_apply_eq_imp_iff₂, partitionOf_unitName_iff suffix, not_exists, not_and]

/-- `ada1` in use leaves the partition `ada10p1` of `ada10` offered. -/
theorem import_hides_partitions_of_used_disks_of_ada10 :
    ("ada10p1", ⟨"ada10p1", 2000⟩) ∈
        VolumeImportForm.freePartitions ["ada1"] [("ada10p1", ⟨"ada10p1", 2000⟩)] ↔
      ("ada10p1", ⟨"ada10p1", 2000⟩) ∈ [(("ada10p1" : String), (⟨"ada10p1", 2000⟩ : Partition))] ∧
        "ada10" ∉ ["ada1"] :=
  import_hides_partitions_of_used_disks [⟨['a', 'd', 'a'], ['1'], by decide, by decide, by decide⟩]
    [("ada10p1", ⟨"ada10p1", 2000⟩)] ⟨['a', 'd', 'a'], ['1', '0'], by decide, by decide, by decide⟩
    ['p', '1'] (.inr ⟨'p', by decide, ['1'], rfl⟩) ("ada10p1", ⟨"ada10p1", 2000⟩) rfl

/-- Two printed sizes, below 1 TB and from 1 TB. -/
def twoSizeClasses (size : Nat) : String := if size < 10 ^ 12 then "< 1 TB" else "1 TB or more"

theorem disk_lt_isStrictWeakOrder_of_twoSizeClasses :
    (∀ (devname : String) (size : Nat), (∃ c ∈ devname.data, isAsciiDigit c = true) →
        '\n' ∉ devname.data.takeWhile (fun c => !isAsciiDigit c) →
        ∃ numbered : NumberedDisk twoSizeClasses,
          numbered.disk = Disk.init twoSizeClasses devname size) ∧
      IsStrictWeakOrder (NumberedDisk twoSizeClasses) fun a b =>
        Disk.lt a.disk b.disk = some true :=
  disk_lt_isStrictWeakOrder fun x y z low high same => by
    unfold twoSizeClasses at same ⊢
    split_ifs at same ⊢ <;> simp_all <;> omega

end FreeNAS.Storage.Forms
