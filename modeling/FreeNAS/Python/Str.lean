import Mathlib.Data.List.Basic

/-!
# Python's whitespace

`str.strip()`, `str.split()` and `int()` skip the characters `str.isspace` accepts:
the ASCII controls `\t`–`\r` and `\x1c`–`\x1f`, the space, and the Unicode spaces and
separators listed below.  Django's `CharField` strips its value the same way.
-/

namespace FreeNAS.Python

/-- `str.isspace` on one character. -/
def isSpace (c : Char) : Bool :=
  let n := c.toNat
  (0x09 ≤ n && n ≤ 0x0d) || (0x1c ≤ n && n ≤ 0x20) || n == 0x85 || n == 0xa0 ||
    n == 0x1680 || (0x2000 ≤ n && n ≤ 0x200a) || n == 0x2028 || n == 0x2029 ||
    n == 0x202f || n == 0x205f || n == 0x3000

/-- The code points of the digit zeros of category `Nd` in the Unicode database of Python 3.6
(Unicode 9.0); every decimal digit is one of the ten code points from one of them. -/
def decimalZeros : List Nat :=
  [0x30, 0x660, 0x6f0, 0x7c0, 0x966, 0x9e6, 0xa66, 0xae6, 0xb66, 0xbe6, 0xc66, 0xce6, 0xd66,
    0xde6, 0xe50, 0xed0, 0xf20, 0x1040, 0x1090, 0x17e0, 0x1810, 0x1946, 0x19d0, 0x1a80, 0x1a90,
    0x1b50, 0x1bb0, 0x1c40, 0x1c50, 0xa620, 0xa8d0, 0xa900, 0xa9d0, 0xa9f0, 0xaa50, 0xabf0,
    0xff10, 0x104a0, 0x11066, 0x110f0, 0x11136, 0x111d0, 0x112f0, 0x11450, 0x114d0, 0x11650,
    0x116c0, 0x11730, 0x118e0, 0x11c50, 0x16a60, 0x16b50, 0x1d7ce, 0x1d7d8, 0x1d7e2, 0x1d7ec,
    0x1d7f6, 0x1e950]

/-- `unicodedata.decimal(c, None)`: the value of a decimal digit, which `\d`, `int()` and
`Decimal()` accept. -/
def decimalValue? (c : Char) : Option Nat :=
  decimalZeros.findSome? fun first =>
    if first ≤ c.toNat ∧ c.toNat < first + 10 then some (c.toNat - first) else none

def isDecimal (c : Char) : Bool := (decimalValue? c).isSome

/-- The value of a numeral of decimal digits, most significant first. -/
def digitsValue (digits : List Char) : Nat :=
  digits.foldl (fun value c => 10 * value + (decimalValue? c).getD 0) 0

/-- `str.strip()` on a list of characters. -/
def stripChars (chars : List Char) : List Char :=
  ((chars.dropWhile isSpace).reverse.dropWhile isSpace).reverse

/-- `str.strip()`. -/
def strip (s : String) : String := ⟨stripChars s.data⟩

/-- What `str.strip()` leaves does not end in whitespace. -/
theorem getLast?_stripChars {chars : List Char} {c : Char}
    (last : (stripChars chars).getLast? = some c) : isSpace c = false := by
  rw [stripChars, List.getLast?_reverse] at last
  have trimmed := List.head?_dropWhile_not isSpace (chars.dropWhile isSpace).reverse
  rw [last] at trimmed
  exact trimmed

theorem stripChars_sublist (chars : List Char) : (stripChars chars).Sublist chars := by
  have trailing := (List.dropWhile_sublist isSpace :
    ((chars.dropWhile isSpace).reverse.dropWhile isSpace).Sublist _).reverse
  rw [List.reverse_reverse] at trailing
  exact trailing.trans (List.dropWhile_sublist isSpace)

theorem head?_dropWhile_isSpace (chars : List Char) :
    ∀ c ∈ (chars.dropWhile isSpace).head?, isSpace c = false := fun c (first : _ = some c) => by
  have kept := List.head?_dropWhile_not isSpace chars
  rw [first] at kept
  exact kept

theorem dropWhile_of_head {p : Char → Bool} {chars : List Char}
    (kept : ∀ c ∈ chars.head?, p c = false) : chars.dropWhile p = chars := by
  cases chars with
  | nil => rfl
  | cons c rest => exact List.dropWhile_cons_of_neg (by simpa using kept c rfl)

/-- Stripping twice is stripping once. -/
theorem strip_strip (s : String) : strip (strip s) = strip s := by
  let back := (s.data.dropWhile isSpace).reverse.dropWhile isSpace
  have backLast : ∀ c ∈ back.getLast?, isSpace c = false := fun c (last : _ = some c) => by
    obtain ⟨dropped, split⟩ := List.dropWhile_suffix isSpace (l := (s.data.dropWhile isSpace).reverse)
    have whole : (s.data.dropWhile isSpace).reverse.getLast? = some c := by
      rw [← split, List.getLast?_append, last]
      rfl
    exact head?_dropWhile_isSpace s.data c (by rwa [List.getLast?_reverse] at whole)
  have front : back.reverse.dropWhile isSpace = back.reverse :=
    dropWhile_of_head (by rw [List.head?_reverse]; exact backLast)
  show String.mk (((back.reverse.dropWhile isSpace).reverse.dropWhile isSpace).reverse) =
    ⟨back.reverse⟩
  rw [front, List.reverse_reverse, dropWhile_of_head (head?_dropWhile_isSpace _)]

theorem mem_dropWhile_of_not {p : Char → Bool} {c : Char} {chars : List Char} (mem : c ∈ chars)
    (kept : p c = false) : c ∈ chars.dropWhile p := by
  induction chars with
  | nil => cases mem
  | cons x rest ih =>
      rw [List.dropWhile_cons]
      split_ifs with dropped
      · exact ih ((List.mem_cons.mp mem).resolve_left fun same => by simp [same, dropped] at kept)
      · exact mem

theorem mem_stripChars {c : Char} {chars : List Char} (mem : c ∈ chars) (solid : isSpace c = false) :
    c ∈ stripChars chars :=
  List.mem_reverse.mpr <| mem_dropWhile_of_not
    (List.mem_reverse.mpr (mem_dropWhile_of_not mem solid)) solid

theorem prefix_stripChars {start : List Char} (rest : List Char)
    (begins : ∀ c ∈ start.head?, isSpace c = false) (solid : ∃ c ∈ rest, isSpace c = false) :
    start <+: stripChars (start ++ rest) := by
  cases start with
  | nil => exact List.nil_prefix
  | cons h t =>
      obtain ⟨c, mem, kept⟩ := solid
      have trailing : (rest.reverse.dropWhile isSpace).isEmpty = false :=
        List.isEmpty_eq_false_iff_exists_mem.mpr
          ⟨c, mem_dropWhile_of_not (List.mem_reverse.mpr mem) kept⟩
      rw [stripChars, List.cons_append, List.dropWhile_cons_of_neg (by simpa using begins h rfl),
        ← List.cons_append, List.reverse_append, List.dropWhile_append, trailing,
        if_neg Bool.false_ne_true, List.reverse_append, List.reverse_reverse]
      exact List.prefix_append _ _

/-- `s.split(sep, 1)` unpacked into two names, on the characters of `s`: `none` where `sep`
does not occur, as unpacking the one-element list raises `ValueError`. -/
def splitOnceChars (sep : Char) : List Char → Option (List Char × List Char)
  | [] => none
  | c :: rest =>
      if c = sep then some ([], rest)
      else (splitOnceChars sep rest).map fun parts => (c :: parts.1, parts.2)

/-- `before, after = s.split(sep, 1)`. -/
def splitOnce (sep : Char) (s : String) : Option (String × String) :=
  (splitOnceChars sep s.data).map fun parts => (⟨parts.1⟩, ⟨parts.2⟩)

theorem splitOnceChars_append {sep : Char} {before : List Char} (after : List Char)
    (absent : sep ∉ before) : splitOnceChars sep (before ++ sep :: after) = some (before, after) := by
  induction before with
  | nil => simp [splitOnceChars]
  | cons c before ih =>
      rw [List.mem_cons, not_or] at absent
      simp [splitOnceChars, Ne.symm absent.1, ih absent.2]

/-- `s.split(sep)`. -/
def splitSep (sep : Char) (s : String) : List String := (s.data.splitOn sep).map String.mk

/-- `before, after = s.rsplit(sep, 1)`: `none` where `sep` does not occur. -/
def rsplitOnce (sep : Char) (s : String) : Option (String × String) :=
  (splitOnceChars sep s.data.reverse).map fun parts => (⟨parts.2.reverse⟩, ⟨parts.1.reverse⟩)

theorem splitOnceChars_eq_some {sep : Char} {chars before after : List Char}
    (split : splitOnceChars sep chars = some (before, after)) :
    chars = before ++ sep :: after ∧ sep ∉ before := by
  induction chars generalizing before with
  | nil => cases split
  | cons c rest ih =>
      unfold splitOnceChars at split
      split_ifs at split with found
      · cases split
        exact ⟨by rw [found]; rfl, List.not_mem_nil _⟩
      · obtain ⟨⟨before', after'⟩, inner, parts⟩ := Option.map_eq_some'.mp split
        cases parts
        obtain ⟨rfl, absent⟩ := ih inner
        exact ⟨rfl, List.not_mem_cons_of_ne_of_not_mem (Ne.symm found) absent⟩

theorem splitOnceChars_isSome {sep : Char} {chars : List Char} (present : sep ∈ chars) :
    (splitOnceChars sep chars).isSome := by
  induction chars with
  | nil => cases present
  | cons c rest ih =>
      unfold splitOnceChars
      split_ifs with found
      · rfl
      · rw [Option.isSome_map']
        exact ih ((List.mem_cons.mp present).resolve_left (Ne.symm found))

theorem rsplitOnce_eq_some {sep : Char} {s before after : String}
    (split : rsplitOnce sep s = some (before, after)) :
    s = before ++ ⟨[sep]⟩ ++ after ∧ sep ∉ after.data := by
  obtain ⟨⟨last, first⟩, inner, parts⟩ := Option.map_eq_some'.mp split
  cases parts
  obtain ⟨reversed, absent⟩ := splitOnceChars_eq_some inner
  refine ⟨String.ext ?_, by simpa using absent⟩
  rw [← List.reverse_reverse s.data, reversed]
  simp

theorem rsplitOnce_isSome {sep : Char} {s : String} (present : sep ∈ s.data) :
    (rsplitOnce sep s).isSome := by
  rw [rsplitOnce, Option.isSome_map']
  exact splitOnceChars_isSome (List.mem_reverse.mpr present)

theorem splitSep_of_not_mem {sep : Char} {s : String} (absent : sep ∉ s.data) :
    splitSep sep s = [s] := by
  rw [splitSep, List.splitOn, List.splitOnP_eq_single _ _ fun c mem same =>
    absent (by rwa [beq_iff_eq.mp same] at mem)]
  rfl

theorem splitSep_append {sep : Char} {before : String} (after : String)
    (absent : sep ∉ before.data) :
    splitSep sep (before ++ ⟨[sep]⟩ ++ after) = before :: splitSep sep after := by
  rw [splitSep, String.data_append, String.data_append, List.append_assoc, List.singleton_append,
    List.splitOn, List.splitOnP_first (· == sep) before.data
      (fun c mem same => absent (by rwa [beq_iff_eq.mp same] at mem)) sep (beq_self_eq_true sep)]
  rfl

theorem splitOnce_append {sep : Char} {before : String} (after : String)
    (absent : sep ∉ before.data) :
    splitOnce sep (before ++ ⟨[sep]⟩ ++ after) = some (before, after) := by
  simp only [splitOnce, String.data_append, List.append_assoc, List.singleton_append,
    splitOnceChars_append after.data absent, Option.map_some']

/-- `d[key] = value` on a dict held as its items in insertion order: a key already there
keeps its place and takes the new value. -/
def dictSet {β : Type} (items : List (String × β)) (key : String) (value : β) :
    List (String × β) :=
  if key ∈ items.map Prod.fst then
    items.map fun item => if item.1 = key then (key, value) else item
  else items ++ [(key, value)]

theorem dictSet_of_not_mem {β : Type} {items : List (String × β)} {key : String} {value : β}
    (absent : key ∉ items.map Prod.fst) : dictSet items key value = items ++ [(key, value)] :=
  if_neg absent

theorem dictSet_ne_nil {β : Type} (items : List (String × β)) (key : String) (value : β) :
    dictSet items key value ≠ [] := by
  unfold dictSet
  split_ifs with present
  · obtain ⟨_, mem, -⟩ := List.mem_map.mp present
    exact List.map_eq_nil_iff.not.mpr (List.ne_nil_of_mem mem)
  · simp

theorem mem_dictSet {β : Type} {items : List (String × β)} {key : String} {value : β}
    {item : String × β} :
    item ∈ dictSet items key value ↔ item = (key, value) ∨ item ∈ items ∧ item.1 ≠ key := by
  unfold dictSet
  split_ifs with present
  · obtain ⟨⟨first, old⟩, mem, rfl⟩ := List.mem_map.mp present
    constructor
    · intro replaced
      obtain ⟨original, kept, rfl⟩ := List.mem_map.mp replaced
      split_ifs with same
      · exact .inl rfl
      · exact .inr ⟨kept, same⟩
    · rintro (rfl | ⟨kept, other⟩)
      · exact List.mem_map.mpr ⟨_, mem, if_pos rfl⟩
      · exact List.mem_map.mpr ⟨item, kept, if_neg other⟩
  · constructor
    · intro added
      rcases List.mem_append.mp added with kept | new
      · exact .inr ⟨kept, fun same => present (List.mem_map.mpr ⟨item, kept, same⟩)⟩
      · exact .inl (List.mem_singleton.mp new)
    · rintro (rfl | ⟨kept, -⟩)
      · exact List.mem_append_right _ (List.mem_singleton_self _)
      · exact List.mem_append_left _ kept

/-- The characters `repr` writes for one character of a `str` (`unicode_repr`): two for
`\\`, `\t`, `\r` and `\n`, four for the other controls and DEL, one for the rest of ASCII,
and beyond it one where `printable` holds (`Py_UNICODE_ISPRINTABLE`, read from the
interpreter's Unicode database), else an `\x`, `\u` or `\U` escape. -/
def reprWidth (printable : Char → Bool) (c : Char) : Nat :=
  if c = '\\' ∨ c = '\t' ∨ c = '\r' ∨ c = '\n' then 2
  else if c.toNat < 0x20 ∨ c.toNat = 0x7f then 4
  else if c.toNat < 0x7f ∨ printable c then 1
  else if c.toNat < 0x100 then 4
  else if c.toNat < 0x10000 then 6
  else 10

/-- `len(repr(s))`: the quotes, each character, and a backslash before every `'` of a text
that holds both kinds of quote. -/
def reprLength (printable : Char → Bool) (s : String) : Nat :=
  s.data.foldr (fun c total => reprWidth printable c + total) 0 + 2 +
    if '\'' ∈ s.data ∧ '"' ∈ s.data then s.data.count '\'' else 0

/-- `len(str(values))` for a list of `str`: the brackets, each item's `repr`, and `", "`
between two items. -/
def listReprLength (printable : Char → Bool) (values : List String) : Nat :=
  values.foldr (fun value total => reprLength printable value + total) 0 +
    2 * (values.length - 1) + 2

example : listReprLength (fun _ => true) ["ada0", "it's"] = 16 := by decide

end FreeNAS.Python
