import FreeNAS.Python.Int

/-!
# The time fields of the resilver and periodic snapshot forms

The time boxes of the pages post a time as text such as `T14:30:00`.  `fix_time_fields`
turns it into a `datetime.time` before the form sees it: it looks for the first
`\d\d:\d\d:\d\d` (`RE_HOUR.search`), reads the three groups with `int()`, and builds the
time, which raises `ValueError` out of range; with no match, `search.group` raises
`AttributeError`.  `ResilverForm.clean_begin` and `clean_end` then format the time back as
`%H:%M`.

The text a time box posts for a time is read back as that time, whatever precedes it
without a digit (`fixTimeField_roundtrip`).
-/

namespace FreeNAS.Storage

open FreeNAS.Python

/-- A `datetime.time` of whole seconds; its fields are in range by construction. -/
structure PyTime where
  hour : Fin 24
  minute : Fin 60
  second : Fin 60
  deriving DecidableEq, Repr

/-- `datetime.time(hour=hour, minute=minute, second=second)`: `none` where it raises
`ValueError`. -/
def PyTime.ofInts (hour minute second : Int) : Option PyTime :=
  if range : 0 ≤ hour ∧ hour < 24 ∧ 0 ≤ minute ∧ minute < 60 ∧ 0 ≤ second ∧ second < 60 then
    some ⟨⟨hour.toNat, by omega⟩, ⟨minute.toNat, by omega⟩, ⟨second.toNat, by omega⟩⟩
  else none

/-- The two ASCII digits `%H`, `%M` and `%S` print for a number below 100. -/
def twoDigits (n : Nat) : List Char := [Char.ofNat (48 + n / 10), Char.ofNat (48 + n % 10)]

/-- `time.strftime('%H:%M:%S')`, the text the time boxes post after their `T`. -/
def PyTime.isoformat (time : PyTime) : String :=
  ⟨twoDigits time.hour ++ ':' :: twoDigits time.minute ++ ':' :: twoDigits time.second⟩

/-- `time.strftime('%H:%M')`. -/
def PyTime.strftimeHM (time : PyTime) : String :=
  ⟨twoDigits time.hour ++ ':' :: twoDigits time.minute⟩

/-- `(?P<hour>\d{2}):(?P<min>\d{2}):(?P<sec>\d{2})`, one test a character. -/
def hourPattern : List (Char → Bool) :=
  [isDecimal, isDecimal, (· == ':'), isDecimal, isDecimal, (· == ':'), isDecimal, isDecimal]

/-- Whether a pattern of one test a character matches at the start of the characters. -/
def matchesAt : List (Char → Bool) → List Char → Bool
  | [], _ => true
  | _ :: _, [] => false
  | test :: tests, c :: cs => test c && matchesAt tests cs

/-- `RE_HOUR.search`: the eight characters of the leftmost match. -/
def searchHour : List Char → Option (List Char)
  | [] => none
  | c :: rest => if matchesAt hourPattern (c :: rest) then some ((c :: rest).take 8) else searchHour rest

/-- Why `fix_time_fields` raises. -/
inductive TimeFieldError where
  | attributeError
  | valueError
  deriving DecidableEq, Repr

/-- `fix_time_fields` on one posted value: the time it stores in place of the text. -/
def fixTimeField (value : String) : Except TimeFieldError PyTime :=
  match searchHour value.data with
  | none => .error .attributeError
  | some found =>
      match pyInt ⟨found.take 2⟩, pyInt ⟨(found.drop 3).take 2⟩, pyInt ⟨(found.drop 6).take 2⟩ with
      | some hour, some minute, some second =>
          match PyTime.ofInts hour minute second with
          | some time => .ok time
          | none => .error .valueError
      | _, _, _ => .error .valueError

/-- `ResilverForm.clean_begin` and `clean_end` on the posted value `__init__` fixed: `none`
where the field was not posted, and `None.strftime` raises `AttributeError`. -/
def ResilverForm.cleanTime (posted : Option String) : Except TimeFieldError String :=
  match posted with
  | none => .error .attributeError
  | some value => (fixTimeField value).map PyTime.strftimeHM

theorem twoDigits_decimal : ∀ d < 10, isDecimal (Char.ofNat (48 + d)) = true ∧
    isAsciiDigit (Char.ofNat (48 + d)) = true ∧ decimalValue? (Char.ofNat (48 + d)) = some d := by
  decide

theorem pyInt_twoDigits {n : Nat} (small : n < 100) : pyInt ⟨twoDigits n⟩ = some (n : Int) := by
  have tens := twoDigits_decimal (n / 10) (by omega)
  have ones := twoDigits_decimal (n % 10) (by omega)
  rw [pyInt_of_asciiDigits (by simp [twoDigits]) fun c mem => by
    simp only [twoDigits, List.mem_cons, List.mem_singleton, List.not_mem_nil, or_false] at mem
    rcases mem with rfl | rfl
    exacts [tens.2.1, ones.2.1]]
  simp only [digitsValue, twoDigits, List.foldl, tens.2.2, ones.2.2, Option.getD_some]
  rw [show 10 * (10 * 0 + n / 10) + n % 10 = n by omega]
  rfl

theorem searchHour_append {before : List Char} (rest : List Char)
    (noDigit : ∀ c ∈ before, isDecimal c = false) : searchHour (before ++ rest) = searchHour rest := by
  induction before with
  | nil => rfl
  | cons c before ih =>
      rw [List.cons_append, searchHour, matchesAt.eq_def]
      simp only [hourPattern, noDigit c (List.mem_cons_self c before), Bool.false_and, if_false]
      exact ih fun x mem => noDigit x (List.mem_cons_of_mem c mem)

theorem matchesAt_isoformat (time : PyTime) (after : List Char) :
    matchesAt hourPattern (time.isoformat.data ++ after) = true := by
  have digits : ∀ n < 100, isDecimal (Char.ofNat (48 + n / 10)) = true ∧
      isDecimal (Char.ofNat (48 + n % 10)) = true :=
    fun n small => ⟨(twoDigits_decimal _ (by omega)).1, (twoDigits_decimal _ (by omega)).1⟩
  obtain ⟨h1, h2⟩ := digits time.hour (by omega)
  obtain ⟨m1, m2⟩ := digits time.minute (by omega)
  obtain ⟨s1, s2⟩ := digits time.second (by omega)
  simp [PyTime.isoformat, twoDigits, hourPattern, matchesAt, h1, h2, m1, m2, s1, s2]

theorem searchHour_isoformat (time : PyTime) (after : List Char) :
    searchHour (time.isoformat.data ++ after) = some time.isoformat.data := by
  have matched := matchesAt_isoformat time after
  simp only [PyTime.isoformat, twoDigits, List.cons_append, List.nil_append] at matched ⊢
  rw [searchHour, if_pos matched]
  rfl

theorem ofInts_fields (time : PyTime) :
    PyTime.ofInts time.hour time.minute time.second = some time := by
  rw [PyTime.ofInts, dif_pos (by omega)]
  simp

/-- The text a time box posts for a time, after anything without a digit, is read back as
that time. -/
theorem fixTimeField_roundtrip (time : PyTime) (before after : String)
    (noDigit : ∀ c ∈ before.data, isDecimal c = false) :
    fixTimeField (before ++ time.isoformat ++ after) = .ok time := by
  have found : searchHour (before ++ time.isoformat ++ after).data = some time.isoformat.data := by
    rw [String.data_append, String.data_append, List.append_assoc, searchHour_append _ noDigit,
      searchHour_isoformat]
  have hour : pyInt ⟨time.isoformat.data.take 2⟩ = some ((time.hour : Nat) : Int) :=
    pyInt_twoDigits (by omega)
  have minute : pyInt ⟨(time.isoformat.data.drop 3).take 2⟩ = some ((time.minute : Nat) : Int) :=
    pyInt_twoDigits (by omega)
  have second : pyInt ⟨(time.isoformat.data.drop 6).take 2⟩ = some ((time.second : Nat) : Int) :=
    pyInt_twoDigits (by omega)
  rw [fixTimeField, found]
  simp only [hour, minute, second, ofInts_fields]

theorem fixTimeField_roundtrip_of_T :
    fixTimeField ("T" ++ (⟨14, 30, 0⟩ : PyTime).isoformat ++ "") = .ok ⟨14, 30, 0⟩ :=
  fixTimeField_roundtrip ⟨14, 30, 0⟩ "T" "" (by decide)

end FreeNAS.Storage
