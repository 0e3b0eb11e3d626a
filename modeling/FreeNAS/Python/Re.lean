import FreeNAS.Python.Str

/-!
# Python's `re` on the name patterns of the forms

The forms check a name against an anchored pattern of two character classes, one for the
first character and one for the rest: `^[F][R]*$`, or `^[C]+$` where both are `C`.
`re.search` and `re.match` agree on such a pattern, and `$` matches at the end of the string
or before a newline that ends it.  Every name the forms check has been stripped by its
`CharField` first, so on the names they see the second case of `$` never applies
(`anchoredMatch_strip`).
-/

namespace FreeNAS.Python

/-- `[F][R]*` running over the whole of the characters. -/
def classRun (first rest : Char → Bool) : List Char → Bool
  | c :: cs => first c && cs.all rest
  | [] => false

/-- `re.search(r'^[F][R]*$', s)`. -/
def anchoredMatch (first rest : Char → Bool) (s : String) : Bool :=
  classRun first rest s.data ||
    (s.data.getLast? == some '\n' && classRun first rest s.data.dropLast)

/-- A class of the ASCII letters and digits and some other characters, `[a-zA-Z0-9...]`. -/
def alnumOr (others : List Char) (c : Char) : Bool := c.isAlphanum || others.contains c

theorem classRun_iff {first rest : Char → Bool} {chars : List Char} :
    classRun first rest chars = true ↔
      ∃ c cs, chars = c :: cs ∧ first c = true ∧ ∀ x ∈ cs, rest x = true := by
  cases chars <;> simp [classRun, and_assoc]

theorem classRun_same_iff {admits : Char → Bool} {chars : List Char} :
    classRun admits admits chars = true ↔ chars ≠ [] ∧ ∀ x ∈ chars, admits x = true := by
  cases chars <;> simp [classRun, and_assoc]

/-- A string `str.strip()` returned does not end in a newline, so `$` only matches at its
end. -/
theorem anchoredMatch_strip (first rest : Char → Bool) (s : String) :
    anchoredMatch first rest (strip s) = classRun first rest (strip s).data := by
  have noNewline : (strip s).data.getLast? ≠ some '\n' := fun last =>
    absurd (getLast?_stripChars last) (by decide)
  simp [anchoredMatch, noNewline]

theorem isAlphanum_bounds {c : Char} (alnum : c.isAlphanum = true) :
    48 ≤ c.toNat ∧ c.toNat ≤ 122 := by
  simp [Char.isAlphanum, Char.isAlpha, Char.isUpper, Char.isLower, Char.isDigit, UInt32.le_def,
    BitVec.le_def] at alnum
  simp only [Char.toNat, UInt32.toNat]
  omega

theorem isSpace_of_printable {c : Char} (low : 32 < c.toNat) (high : c.toNat < 128) :
    isSpace c = false := by
  simp only [isSpace, Bool.or_eq_false_iff, Bool.and_eq_false_imp, decide_eq_true_eq,
    beq_eq_false_iff_ne, ne_eq, decide_eq_false_iff_not]
  omega

theorem isSpace_of_isAlphanum {c : Char} (alnum : c.isAlphanum = true) : isSpace c = false :=
  isSpace_of_printable (by have := isAlphanum_bounds alnum; omega)
    (by have := isAlphanum_bounds alnum; omega)

theorem alnumOr_iff {others : List Char} {c : Char} (other : c.isAlphanum = false) :
    alnumOr others c = true ↔ c ∈ others := by
  simp [alnumOr, other]

theorem alnumOr_of_isAlphanum (others : List Char) {c : Char} (alnum : c.isAlphanum = true) :
    alnumOr others c = true := by
  simp [alnumOr, alnum]

end FreeNAS.Python
