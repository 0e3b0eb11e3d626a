import FreeNAS.Python.Str
import Mathlib.Algebra.Group.Nat.Basic

/-!
# Python's integers: `int()` on a string, and `int.bit_length`

`int(s)` first rewrites `s` to ASCII (`_PyUnicode_TransformDecimalAndSpaceToASCII`):
a character below DEL stays as it is, whitespace beyond it becomes a space, a decimal digit
of any script becomes its ASCII digit, and every other character becomes `?`, which no
numeral contains (the rewrite stops there, which changes nothing for the parse).
`PyLong_FromString` then reads, in base 10, optional ASCII whitespace, an optional sign,
digits of which two may be separated by one underscore, and optional ASCII whitespace, and
nothing else.

`int.bit_length` counts the binary digits of the absolute value; it is computed by halving,
and what it means is `bitLength_le_iff`: at most `k` digits exactly when below `2 ^ k`.
-/

namespace FreeNAS.Python

/-- One character as `int()` rewrites it before parsing. -/
def toAsciiForInt (c : Char) : Char :=
  if c.toNat < 127 then c
  else if isSpace c then ' '
  else
    match decimalValue? c with
    | some digit => Char.ofNat (48 + digit)
    | none => '?'

/-- `Py_ISSPACE`, the ASCII whitespace of `PyLong_FromString`. -/
def isAsciiSpace (c : Char) : Bool :=
  c == ' ' || c == '\t' || c == '\n' || c == '\x0b' || c == '\x0c' || c == '\r'

def isAsciiDigit (c : Char) : Bool := '0' ≤ c && c ≤ '9'

/-- The digits of a run of ASCII digits and underscores, when every underscore stands
between two digits. -/
def underscoredDigits : List Char → Option (List Char)
  | [] => none
  | [c] => if isAsciiDigit c then some [c] else none
  | c :: '_' :: rest =>
      if isAsciiDigit c then (underscoredDigits rest).map (c :: ·) else none
  | c :: rest => if isAsciiDigit c then (underscoredDigits rest).map (c :: ·) else none

/-- The sign `PyLong_FromString` reads: whether it is a minus, and what follows it. -/
def readSign : List Char → Bool × List Char
  | [] => (false, [])
  | c :: rest =>
      if c = '+' then (false, rest)
      else if c = '-' then (true, rest)
      else (false, c :: rest)

/-- `PyLong_FromString(s, &end, 10)` on an ASCII string that must be read to its end. -/
def parseAsciiInt (chars : List Char) : Option Int :=
  let (negative, rest) := readSign (chars.dropWhile isAsciiSpace)
  let body := rest.takeWhile fun c => isAsciiDigit c || c == '_'
  let tail := rest.dropWhile fun c => isAsciiDigit c || c == '_'
  if tail.all isAsciiSpace then
    (underscoredDigits body).map fun digits =>
      if negative then -(digitsValue digits : Int) else digitsValue digits
  else none

/-- `int(s)`: the value, or none where it raises `ValueError`. -/
def pyInt (s : String) : Option Int := parseAsciiInt (s.data.map toAsciiForInt)

def asciiDigits : List Char := "0123456789".data

theorem mem_asciiDigits {c : Char} (h : isAsciiDigit c = true) : c ∈ asciiDigits := by
  have bounds : 48 ≤ c.toNat ∧ c.toNat ≤ 57 := by simpa [isAsciiDigit, Char.le_def] using h
  have table : ∀ n < 10, Char.ofNat (48 + n) ∈ asciiDigits := by decide
  have := table (c.toNat - 48) (by omega)
  rwa [Nat.add_sub_cancel' bounds.1, Char.ofNat_toNat] at this

theorem asciiDigit_facts :
    ∀ c ∈ asciiDigits, isAsciiSpace c = false ∧ c ≠ '+' ∧ c ≠ '-' ∧ toAsciiForInt c = c := by
  decide

theorem underscoredDigits_of_digits {cs : List Char} (nonempty : cs ≠ [])
    (digits : ∀ c ∈ cs, isAsciiDigit c = true) : underscoredDigits cs = some cs := by
  induction cs with
  | nil => contradiction
  | cons c rest ih =>
      have first := digits c (List.mem_cons_self c rest)
      cases rest with
      | nil => simp [underscoredDigits, first]
      | cons d more =>
          have second : d ≠ '_' := fun e => absurd (e ▸ digits d (by simp)) (by decide)
          rw [underscoredDigits.eq_4 c (d :: more) (by simp) (by simp [second]), if_pos first,
            ih (by simp) fun x hx => digits x (List.mem_cons_of_mem c hx), Option.map_some']

/-- `int()` reads a plain ASCII numeral as its value. -/
theorem pyInt_of_asciiDigits {cs : List Char} (nonempty : cs ≠ [])
    (digits : ∀ c ∈ cs, isAsciiDigit c = true) : pyInt ⟨cs⟩ = some (digitsValue cs) := by
  have ascii : cs.map toAsciiForInt = cs :=
    (List.map_congr_left fun c hc => (asciiDigit_facts c (mem_asciiDigits (digits c hc))).2.2.2).trans
      (List.map_id cs)
  obtain ⟨c, rest, rfl⟩ := List.exists_cons_of_ne_nil nonempty
  obtain ⟨notSpace, notPlus, notMinus, -⟩ :=
    asciiDigit_facts c (mem_asciiDigits (digits c (List.mem_cons_self c rest)))
  have start : (c :: rest).dropWhile isAsciiSpace = c :: rest :=
    List.dropWhile_cons_of_neg (by simp [notSpace])
  have sign : readSign (c :: rest) = (false, c :: rest) := by simp [readSign, notPlus, notMinus]
  have body : ∀ x ∈ c :: rest, (isAsciiDigit x || x == '_') = true := by
    intro x hx
    simp [digits x hx]
  simp only [pyInt, ascii, parseAsciiInt, start, sign, List.takeWhile_eq_self_iff.mpr body,
    List.dropWhile_eq_nil_iff.mpr body, List.all_nil, if_true,
    underscoredDigits_of_digits nonempty digits, Option.map_some']
  rfl

example : pyInt "007" = some 7 ∧ pyInt " 7" = some 7 ∧ pyInt "\x1c7" = none := by decide

/-- The number of binary digits of `n`, halving it at most `fuel` times. -/
def binaryDigits : (fuel n : Nat) → Nat
  | 0, _ => 0
  | fuel + 1, n => if n = 0 then 0 else binaryDigits fuel (n / 2) + 1

/-- `int.bit_length`: the number of binary digits of the absolute value, which `n` halvings
of `n` reach. -/
def bitLength (x : Int) : Nat := binaryDigits x.natAbs x.natAbs

theorem binaryDigits_le_iff {fuel n k : Nat} (enough : n ≤ fuel) :
    binaryDigits fuel n ≤ k ↔ n < 2 ^ k := by
  induction fuel generalizing n k with
  | zero =>
      obtain rfl : n = 0 := by omega
      simp [binaryDigits, Nat.two_pow_pos]
  | succ fuel ih =>
      unfold binaryDigits
      split_ifs with zero
      · simp [zero, Nat.two_pow_pos]
      · cases k with
        | zero => simp only [Nat.pow_zero]; omega
        | succ k =>
            rw [Nat.add_le_add_iff_right, ih (by omega), Nat.pow_succ]
            omega

theorem bitLength_le_iff {x : Int} {k : Nat} : bitLength x ≤ k ↔ x.natAbs < 2 ^ k :=
  binaryDigits_le_iff le_rfl

theorem natAbs_lt_two_pow_bitLength (x : Int) : x.natAbs < 2 ^ bitLength x :=
  bitLength_le_iff.mp le_rfl

example : bitLength 15 = 4 ∧ bitLength 16 = 5 ∧ bitLength (-1) = 1 := by decide

end FreeNAS.Python
