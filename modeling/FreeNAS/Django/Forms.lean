import FreeNAS.Python.Str

/-!
# Django's forms, as the storage forms use them

`full_clean` cleans the fields in their order: a field's own `clean` (for a `CharField`, the
stripped value, and "This field is required." for an empty required one), then, when that
passed, the form's `clean_<field>` hook.  A field whose cleaning raises `ValidationError` has
its message in `form._errors` under its name and is missing from `cleaned_data`.  The form's
`clean` runs last, whatever the fields gave, and only its `ValidationError` is caught: a
`del self._errors[name]` for a name without errors raises `KeyError` out of `full_clean`.
-/

namespace FreeNAS.Django

open FreeNAS.Python

/-- The error of a required field posted empty. -/
def requiredMessage : String := "This field is required."

/-- `forms.CharField(max_length=maxLength, required=required)`: the stripped value, or the
error of a required field that is blank, or of one that is too long. -/
def CharField.clean (maxLength : Option Nat) (required : Bool) (value : String) :
    Except String String :=
  if required ∧ strip value = "" then .error requiredMessage
  else
    match maxLength with
    | some limit =>
        if limit < (strip value).length then
          .error ("Ensure this value has at most " ++ toString limit ++ " characters (it has " ++
            toString (strip value).length ++ ").")
        else .ok (strip value)
    | none => .ok (strip value)

/-- The error of a value a choice field does not offer. -/
def invalidChoice (value : String) : String :=
  "Select a valid choice. " ++ value ++ " is not one of the available choices."

/-- `forms.ChoiceField(choices=choices, required=required)`. -/
def ChoiceField.clean (choices : List String) (required : Bool) (value : String) :
    Except String String :=
  if value = "" then (if required then .error requiredMessage else .ok "")
  else if value ∈ choices then .ok value else .error (invalidChoice value)

/-- `forms.MultipleChoiceField(choices=choices, required=required)`: the first value not
offered is the one the error names. -/
def MultipleChoiceField.clean (choices : List String) (required : Bool) (values : List String) :
    Except String (List String) :=
  if values = [] then (if required then .error requiredMessage else .ok [])
  else
    match values.find? (· ∉ choices) with
    | some value => .error (invalidChoice value)
    | none => .ok values

/-- What `full_clean` leaves in `form._errors` for one field. -/
def fieldError {α : Type} (field : String) : Except String α → List (String × String)
  | .error message => [(field, message)]
  | .ok _ => []

/-- `del self._errors[field]`: `none` where the field has no error, as the `KeyError`. -/
def delError (field : String) (errors : List (String × String)) :
    Option (List (String × String)) :=
  if errors.any (·.1 == field) then some (errors.filter (·.1 != field)) else none

@[simp] theorem fieldError_ok {α : Type} (field : String) (value : α) :
    fieldError field (.ok value : Except String α) = [] := rfl

@[simp] theorem fieldError_error {α : Type} (field message : String) :
    fieldError field (.error message : Except String α) = [(field, message)] := rfl

/-- The errors of a form's outcome: none for a valid form. -/
def formErrors {α : Type} : Except (List (String × String)) α → List (String × String)
  | .error errors => errors
  | .ok _ => []

@[simp] theorem fieldError_eq_nil {α : Type} {field : String} {result : Except String α} :
    fieldError field result = [] ↔ ∃ value, result = .ok value := by
  cases result <;> simp [fieldError]

@[simp] theorem mem_fieldError {α : Type} {field key message : String} {result : Except String α} :
    (key, message) ∈ fieldError field result ↔ key = field ∧ result = .error message := by
  cases result <;> simp [fieldError, eq_comm]

theorem fst_of_mem_fieldError {α : Type} {field : String} {result : Except String α}
    {entry : String × String} (mem : entry ∈ fieldError field result) : entry.1 = field := by
  cases result <;> simp_all [fieldError]

theorem delError_eq_none {field : String} {errors : List (String × String)}
    (absent : ∀ entry ∈ errors, entry.1 ≠ field) : delError field errors = none := by
  simpa [delError] using fun message mem => absent (field, message) mem rfl

/-- A `CharField` passes only the stripped value. -/
theorem CharField.clean_eq_ok {maxLength : Option Nat} {required : Bool} {value cleaned : String}
    (passed : CharField.clean maxLength required value = .ok cleaned) : cleaned = strip value := by
  unfold CharField.clean at passed
  split_ifs at passed
  split at passed
  · split_ifs at passed
    cases passed
    rfl
  · cases passed
    rfl

theorem CharField.clean_of_solid {required : Bool} {value : String} {c : Char} (mem : c ∈ value.data)
    (solid : isSpace c = false) : CharField.clean none required value = .ok (strip value) := by
  have kept : c ∈ (strip value).data := mem_stripChars mem solid
  have filled : strip value ≠ "" := fun blank => by rw [blank] at kept; cases kept
  simp [CharField.clean, filled]

theorem MultipleChoiceField.clean_of_offered {choices values : List String}
    (offered : ∀ value ∈ values, value ∈ choices) :
    MultipleChoiceField.clean choices false values = .ok values := by
  have allOffered : values.find? (· ∉ choices) = none :=
    List.find?_eq_none.mpr fun value posted => by simpa using offered value posted
  unfold MultipleChoiceField.clean
  by_cases empty : values = []
  · simp [empty]
  · rw [if_neg empty, allOffered]

end FreeNAS.Django
