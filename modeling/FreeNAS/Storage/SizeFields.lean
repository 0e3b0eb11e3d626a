import FreeNAS.Python.Str

/-!
# Size strings

The dataset forms (`_clean_zfssize_fields`) and the zvol forms (`clean_zvol_volsize`) both
read a size as `^(\d+(?:\.\d+)?)([BKMGTP](?:iB)?)$` under `re.I`, after deleting the
spaces, and rewrite a unit ending in `iB` to its letter.  The zvol form returns the string
with the spaces deleted; the dataset forms keep the string they were given unless they
rewrote it.  The zvol form also compares the size with 80% of the space left, reading the
unit through a table keyed by `P`, `T`, `G` and `M` as written.

The match is computed by a scan over the characters: `\d+` and `\.\d+` are greedy, and no
character a later part of the pattern accepts is a digit, so the scan finds the match
whenever the backtracking matcher does.
-/

namespace FreeNAS.Storage

open FreeNAS.Python

/-- A letter of the pattern under `re.I`: its two ASCII cases, and the characters whose
lowercase is that letter for `re` (the Kelvin sign for `k`, `İ` and `ı` for `i`). -/
def matchesIgnoreCase (letter c : Char) : Bool :=
  c == letter || c == letter.toUpper || (letter == 'k' && c.toNat == 0x212a) ||
    (letter == 'i' && (c.toNat == 0x130 || c.toNat == 0x131))

def unitLetters : List Char := ['b', 'k', 'm', 'g', 't', 'p']

/-- The groups of a match: the number, and the unit if there is one. -/
structure SizeMatch where
  number : List Char
  suffix : Option (List Char)
  deriving DecidableEq, Repr

/-- `$`: the end of the text, or a newline that ends it. -/
def atEnd (rest : List Char) : Bool := rest == [] || rest == ['\n']

/-- `\d+(?:\.\d+)?` at the front: the number and what follows it. -/
def scanNumber (chars : List Char) : Option (List Char × List Char) :=
  let whole := chars.takeWhile isDecimal
  let rest := chars.dropWhile isDecimal
  if whole = [] then none
  else
    match rest with
    | '.' :: more =>
        let fraction := more.takeWhile isDecimal
        if fraction = [] then some (whole, rest)
        else some (whole ++ '.' :: fraction, more.dropWhile isDecimal)
    | _ => some (whole, rest)

/-- `[BKMGTP](?:iB)?` at the front, as long as it can be. -/
def scanSuffix : List Char → Option (List Char × List Char)
  | c :: rest =>
      if unitLetters.any (matchesIgnoreCase · c) then
        match rest with
        | i :: b :: more =>
            if matchesIgnoreCase 'i' i && matchesIgnoreCase 'b' b then some ([c, i, b], more)
            else some ([c], rest)
        | _ => some ([c], rest)
      else none
  | [] => none

/-- The match of the size pattern; `suffixRequired` drops the `?` after the unit group, as
`clean_zvol_volsize` does. -/
def matchSize (suffixRequired : Bool) (chars : List Char) : Option SizeMatch :=
  (scanNumber chars).bind fun (number, rest) =>
    match scanSuffix rest with
    | some (suffix, after) => if atEnd after then some ⟨number, some suffix⟩ else none
    | none => if !suffixRequired && atEnd rest then some ⟨number, none⟩ else none

/-- `suffix.lower().endswith('ib')` on a matched unit: `İ` lowercases to two characters and
`ı` to itself, so only an ASCII `i` makes the unit end in `ib`. -/
def endsInIB : List Char → Bool
  | [_, i, b] => (i == 'i' || i == 'I') && (b == 'b' || b == 'B')
  | _ => false

/-- `'%s%s' % (number, suffix[0])`. -/
def unitLetterSize (number suffix : List Char) : List Char := number ++ suffix.take 1

/-- `value.replace(' ', '')`. -/
def deleteSpaces (value : String) : List Char := value.data.filter (· ≠ ' ')

/-- One field of `_clean_zfssize_fields`: the error, or the value it leaves in
`cleaned_data` (`Decimal(number)` accepts every number the pattern matches). -/
def cleanZfssizeField (value : String) : Except String String :=
  match matchSize false (deleteSpaces value) with
  | none =>
      if value ≠ "0" then .error "Specify the size with IEC suffixes or 0, e.g. 10 GiB"
      else .ok value
  | some ⟨number, some suffix⟩ =>
      if endsInIB suffix then .ok ⟨unitLetterSize number suffix⟩ else .ok value
  | some ⟨_, none⟩ => .ok value

/-- `_clean_zfssize_fields` on the values of its fields (`''` for a field that had an error). -/
def cleanZfssizeFields (values : List String) : List (Except String String) :=
  values.map cleanZfssizeField

/-- `Decimal(number)` of a matched number, as its digits and its count of decimals: the
value is `digits / 10 ^ decimals`. -/
structure DecimalValue where
  digits : ℕ
  decimals : ℕ
  deriving DecidableEq, Repr

def decimalNumber (number : List Char) : DecimalValue :=
  let whole := number.takeWhile (· ≠ '.')
  let fraction := (number.dropWhile (· ≠ '.')).drop 1
  ⟨digitsValue (whole ++ fraction), fraction.length⟩

/-- `_map` of `clean_zvol_volsize`. -/
def sizeMap : List (String × ℕ) :=
  [("P", 1125899906842624), ("T", 1099511627776), ("G", 1073741824), ("M", 1048576)]

/-- The factor of `cmpsize`: `_map[suffix]` when the unit, as written, is a key, else 1. -/
def cmpsizeFactor (suffix : List Char) : ℕ := (sizeMap.lookup ⟨suffix⟩).getD 1

/-- `cmpsize > avail * 0.80` cleared of fractions, `5 * cmpsize > 4 * space`.  The source
compares the `Decimal` with the float `avail * 0.80`, which is `4/5 * avail` rounded to a
double; the model compares with `4/5 * avail` exactly.  The two differ only for a size
within that rounding of the limit, and no result here reads the flag on such a size. -/
def exceedsEightyPercent (space : ℕ) (number suffix : List Char) : Bool :=
  let value := decimalNumber number
  4 * space * Nat.pow 10 value.decimals < 5 * value.digits * cmpsizeFactor suffix

/-- What `clean_zvol_volsize` returns and whether it sets `_force`. -/
structure VolsizeResult where
  size : String
  force : Bool
  deriving DecidableEq, Repr

/-- `CommonZVol.clean_zvol_volsize`; `space` is the parent dataset's `avail`, plus the zvol's
`used` when editing. -/
def CommonZVol.cleanZvolVolsize (space : ℕ) (value : String) : Except String VolsizeResult :=
  let size := deleteSpaces value
  match matchSize true size with
  | some ⟨number, some suffix⟩ =>
      .ok ⟨⟨if endsInIB suffix then unitLetterSize number suffix else size⟩,
        exceedsEightyPercent space number suffix⟩
  | _ => .error "Specify the size with IEC suffixes, e.g. 10 GiB"

/-- `CommonZVol._zvol_force`: the error left on `zvol_volsize` when `_force` is set and
`zvol_force` is not. -/
def CommonZVol.zvolForce (force zvolForce : Bool) : Option String :=
  if force && !zvolForce then
    some "It is not recommended to use more than 80% of your available space for your zvol!"
  else none

/-- The size string `ZVol_CreateForm` accepts for `zvol_volsize`, or the error it shows. -/
def ZVolCreateForm.volsize (space : ℕ) (value : String) (zvolForce : Bool) : Except String String :=
  (CommonZVol.cleanZvolVolsize space value).bind fun result =>
    match CommonZVol.zvolForce result.force zvolForce with
    | some error => .error error
    | none => .ok result.size

theorem scanNumber_sublist {chars number rest : List Char}
    (scanned : scanNumber chars = some (number, rest)) :
    List.Sublist number chars ∧ List.Sublist rest chars := by
  unfold scanNumber at scanned
  dsimp only at scanned
  split_ifs at scanned
  split at scanned
  · rename_i more dotted
    have whole : chars = chars.takeWhile isDecimal ++ '.' :: more := by
      rw [← dotted, List.takeWhile_append_dropWhile]
    split_ifs at scanned <;> cases scanned
    · exact ⟨List.takeWhile_sublist _, List.dropWhile_sublist _⟩
    · have numberSub := ((List.takeWhile_sublist isDecimal :
        List.Sublist (more.takeWhile isDecimal) more).cons₂ '.').append_left (chars.takeWhile isDecimal)
      have restSub := ((List.dropWhile_sublist isDecimal :
        List.Sublist (more.dropWhile isDecimal) more).cons '.').trans
          (List.sublist_append_right (chars.takeWhile isDecimal) ('.' :: more))
      rw [← whole] at numberSub restSub
      exact ⟨numberSub, restSub⟩
  · cases scanned
    exact ⟨List.takeWhile_sublist _, List.dropWhile_sublist _⟩

theorem scanSuffix_sublist {rest suffix after : List Char}
    (scanned : scanSuffix rest = some (suffix, after)) : List.Sublist suffix rest := by
  unfold scanSuffix at scanned
  split at scanned
  · split_ifs at scanned
    split at scanned
    · split_ifs at scanned <;> cases scanned
      · exact (List.nil_sublist _).cons₂ _ |>.cons₂ _ |>.cons₂ _
      · exact (List.nil_sublist _).cons₂ _
    · cases scanned
      exact (List.nil_sublist _).cons₂ _
  · cases scanned

theorem matchSize_sublist {suffixRequired : Bool} {chars number : List Char}
    {suffix : List Char} (found : matchSize suffixRequired chars = some ⟨number, some suffix⟩) :
    List.Sublist number chars ∧ List.Sublist suffix chars := by
  unfold matchSize at found
  cases scanned : scanNumber chars with
  | none => simp [scanned] at found
  | some groups =>
      obtain ⟨numberPart, rest⟩ := groups
      obtain ⟨numberSub, restSub⟩ := scanNumber_sublist scanned
      simp only [scanned, Option.some_bind] at found
      split at found
      · rename_i suffixPart after unit
        split_ifs at found
        cases found
        exact ⟨numberSub, (scanSuffix_sublist unit).trans restSub⟩
      · split_ifs at found
        simp at found

theorem matchSize_false_of_true {chars : List Char} {found : SizeMatch}
    (required : matchSize true chars = some found) : matchSize false chars = some found := by
  unfold matchSize at required ⊢
  cases scanned : scanNumber chars with
  | none => simp [scanned] at required
  | some groups =>
      simp only [scanned, Option.some_bind] at required ⊢
      split at required
      · exact required
      · simp at required

/-- Whenever both forms accept a size string, the zvol form's string is the dataset form's
with its spaces deleted. -/
theorem cleanZvolVolsize_size_eq {space : ℕ} {value dataset : String} {result : VolsizeResult}
    (datasetOk : cleanZfssizeField value = .ok dataset)
    (zvolOk : CommonZVol.cleanZvolVolsize space value = .ok result) :
    result.size = ⟨dataset.data.filter (· ≠ ' ')⟩ := by
  unfold CommonZVol.cleanZvolVolsize at zvolOk
  dsimp only at zvolOk
  split at zvolOk
  · rename_i number suffix found
    cases zvolOk
    unfold cleanZfssizeField at datasetOk
    rw [matchSize_false_of_true found] at datasetOk
    have noSpace : ∀ c ∈ deleteSpaces value, c ≠ ' ' := fun c member =>
      of_decide_eq_true (List.mem_filter.mp member).2
    obtain ⟨numberSub, suffixSub⟩ := matchSize_sublist found
    by_cases unit : endsInIB suffix <;>
      simp only [unit, if_true, Bool.false_eq_true, if_false, Except.ok.injEq] at datasetOk ⊢ <;>
      subst datasetOk
    · refine congrArg String.mk (List.filter_eq_self.mpr fun c member => decide_eq_true (noSpace c ?_)).symm
      rcases List.mem_append.mp member with inNumber | inSuffix
      · exact numberSub.subset inNumber
      · exact suffixSub.subset (List.mem_of_mem_take inSuffix)
    · rfl
  · cases zvolOk

theorem cleanZvolVolsize_size_eq_of_spaced :
    cleanZfssizeField "10 G" = .ok "10 G" ∧
      CommonZVol.cleanZvolVolsize 0 "10 G" = .ok ⟨"10G", true⟩ ∧
      (⟨"10G", true⟩ : VolsizeResult).size = ⟨("10 G" : String).data.filter (· ≠ ' ')⟩ :=
  ⟨rfl, rfl, @cleanZvolVolsize_size_eq 0 "10 G" "10 G" ⟨"10G", true⟩ rfl rfl⟩

/-- `10 G` for a quota and for a zvol: the dataset form keeps the space, the zvol form
deletes it. -/
theorem dataset_size_keeps_spaces :
    cleanZfssizeField "10 G" = .ok "10 G" ∧
      (CommonZVol.cleanZvolVolsize 0 "10 G").map VolsizeResult.size = .ok "10G" :=
  ⟨rfl, rfl⟩

/-- Ten GiB for a zvol whose parent has one GiB left: written `10G` the size sets `_force`;
written `10 GiB` it is compared as 10 bytes, and `ZVol_CreateForm` takes it without
`zvol_force`. -/
theorem zvol_gib_size_escapes_force :
    CommonZVol.cleanZvolVolsize 1073741824 "10G" = .ok ⟨"10G", true⟩ ∧
      CommonZVol.cleanZvolVolsize 1073741824 "10 GiB" = .ok ⟨"10G", false⟩ ∧
      ZVolCreateForm.volsize 1073741824 "10 GiB" false = .ok "10G" :=
  ⟨rfl, rfl, rfl⟩

end FreeNAS.Storage
