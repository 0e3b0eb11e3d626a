import FreeNAS.Storage.WizardForm

/-!
# Validating the volume manager

`VolumeManagerForm.is_valid` cleans the form, then the layout formset, which reads the
cleaned `volume_add`.  `volume_name` goes through `VolumeMixin.clean_volume_name`; `clean`
then names the volume `volume_name or volume_add` and stores it as `volume_name`, the name
`save` creates or extends.

`volume_add` is a plain `CharField`, and none of the hook's checks applies to it: with a blank
`volume_name`, a name posted in `volume_add` reaches `save` whatever it is, `log` or `mirror0`
included, wherever the formset accepts the layout.  The blank `volume_name` itself still goes
through the hook, which refuses it when a volume of blank name exists.  A name posted in
`volume_name` has passed all of `VolumeMixin`'s checks.
-/

namespace FreeNAS.Storage

open FreeNAS.Python FreeNAS.Django

/-- The values `VolumeManagerForm` is posted, with the rows of its layout formset. -/
structure VolumeManagerPost where
  volumeName : String
  volumeAdd : String
  encryption : Bool
  encryptionInirand : Bool
  dedup : String
  layout : List VdevRow

/-- Each field cleaned with its hook; the check boxes never fail. -/
structure VolumeManagerFields where
  name : Except String String
  add : Except String String
  dedup : Except String String

/-- The fields of `VolumeManagerForm`, each cleaned with its hook; `choices.ZFS_DEDUP` is not
under `src/`. -/
def VolumeManagerForm.cleanFields (nameMatches : String → Bool) (dedupChoices : List String)
    (db : Db) (post : VolumeManagerPost) : VolumeManagerFields where
  name := (CharField.clean (some 30) false post.volumeName).bind
    (VolumeMixin.cleanVolumeName nameMatches db)
  add := CharField.clean (some 30) false post.volumeAdd
  dedup := ChoiceField.clean dedupChoices false post.dedup

/-- The errors `full_clean` leaves after the fields. -/
def VolumeManagerFields.errors (fields : VolumeManagerFields) : List (String × String) :=
  fieldError "volume_name" fields.name ++ fieldError "volume_add" fields.add ++
    fieldError "dedup" fields.dedup

/-- `cleaned_data.get("volume_name") or cleaned_data.get("volume_add")`, `""` for a value
`cleaned_data` lacks. -/
def VolumeManagerFields.vname (fields : VolumeManagerFields) : String :=
  if fields.name.toOption.getD "" ≠ "" then fields.name.toOption.getD ""
  else fields.add.toOption.getD ""

/-- `VolumeManagerForm.clean`: the errors once it has run. -/
def VolumeManagerForm.clean (fields : VolumeManagerFields) : List (String × String) :=
  if fields.vname = "" then
    dictSet fields.errors "__all__" ("You must specify a new volume name or select an " ++
      "existing ZFS volume to append a virtual device")
  else fields.errors

/-- `VolumeManagerForm.is_valid`, and on a valid form what `save` reads of it: `none` where
the formset's cleaning raises, the form's errors where it is invalid (the formset's non-form
error replaces those under `__all__`; the errors of its forms stay on them). -/
def VolumeManagerForm.isValid (nameMatches : String → Bool) (dedupChoices : List String) (db : Db)
    (printable : Char → Bool) (zpoolParse : String → List ZVdev) (post : VolumeManagerPost) :
    Option (Except (List (String × String)) VolumeManagerData) :=
  let fields := VolumeManagerForm.cleanFields nameMatches dedupChoices db post
  let errors := VolumeManagerForm.clean fields
  match VdevFormSet.isValid printable (fields.add.toOption.getD "") zpoolParse post.layout with
  | .crashed => none
  | .rejected error => some (.error (dictSet errors "__all__" error.message))
  | .formErrors => some (.error errors)
  | .accepted forms =>
      some (if errors = [] then
          .ok ⟨fields.vname, post.encryption, post.encryptionInirand,
            fields.dedup.toOption.getD "", forms⟩
        else .error errors)

namespace VolumeManagerFields

variable {fields : VolumeManagerFields}

theorem errors_eq_nil (empty : fields.errors = []) :
    (∃ name, fields.name = .ok name) ∧ (∃ add, fields.add = .ok add) ∧
      ∃ dedup, fields.dedup = .ok dedup := by
  simpa [errors] using empty

theorem clean_eq_nil (empty : VolumeManagerForm.clean fields = []) :
    fields.vname ≠ "" ∧ fields.errors = [] :=
  eq_nil_of_ite_dictSet empty

end VolumeManagerFields

theorem VolumeMixin.cleanVolumeName_eq_ok {nameMatches : String → Bool} {db : Db}
    {vname name : String} (passed : VolumeMixin.cleanVolumeName nameMatches db vname = .ok name) :
    name = vname := by
  unfold VolumeMixin.cleanVolumeName at passed
  split_ifs at passed
  cases passed
  rfl

/-- A valid form hands `save` the layout the formset accepted, under a name: the one posted in
`volume_name`, checked by `VolumeMixin`, or else, with `volume_name` blank, the one posted in
`volume_add`. -/
theorem manager_valid_volume (nameMatches : String → Bool) (dedupChoices : List String) (db : Db)
    (printable : Char → Bool) (zpoolParse : String → List ZVdev) (post : VolumeManagerPost)
    (data : VolumeManagerData)
    (valid : VolumeManagerForm.isValid nameMatches dedupChoices db printable zpoolParse post =
      some (.ok data)) :
    data.volumeName ≠ "" ∧
      ((strip post.volumeName = "" ∧ data.volumeName = strip post.volumeAdd) ∨
        (CharField.clean (some 30) false post.volumeName).bind
          (VolumeMixin.cleanVolumeName nameMatches db) = .ok data.volumeName) ∧
      VdevFormSet.isValid printable (strip post.volumeAdd) zpoolParse post.layout =
        .accepted data.forms := by
  unfold VolumeManagerForm.isValid at valid
  dsimp only at valid
  split at valid <;> simp only [Option.some.injEq, reduceCtorEq] at valid
  rename_i forms accepted
  split_ifs at valid with empty
  cases valid
  dsimp only
  obtain ⟨named, errors⟩ := VolumeManagerFields.clean_eq_nil empty
  obtain ⟨⟨name, hname⟩, ⟨add, hadd⟩, -⟩ := VolumeManagerFields.errors_eq_nil errors
  have add_eq : add = strip post.volumeAdd :=
    CharField.clean_eq_ok (show CharField.clean (some 30) false post.volumeAdd = .ok add from hadd)
  rw [hadd, add_eq] at accepted
  refine ⟨named, ?_, accepted⟩
  unfold VolumeManagerFields.vname
  rw [hname, hadd, add_eq]
  by_cases blank : name = ""
  · subst blank
    obtain ⟨posted, field, mixin⟩ := bind_eq_ok_iff.mp hname
    rw [CharField.clean_eq_ok field] at mixin
    exact .inl ⟨(VolumeMixin.cleanVolumeName_eq_ok mixin).symm, by simp [Except.toOption]⟩
  · exact .inr (by simpa [Except.toOption, blank] using hname)

theorem manager_valid_volume_of_tank :
    VolumeManagerForm.isValid (fun _ => true) ["off"] ⟨[], [], 1, 1⟩ (fun _ => true) (fun _ => [])
        ⟨"tank", "", false, false, "off", [⟨"stripe", ["ada0"]⟩]⟩ =
      some (.ok ⟨"tank", false, false, "off", [some ⟨"stripe", ["ada0"]⟩]⟩) ∧
    "tank" ≠ "" ∧
      ((strip "tank" = "" ∧ "tank" = strip "") ∨
        (CharField.clean (some 30) false "tank").bind
          (VolumeMixin.cleanVolumeName (fun _ => true) ⟨[], [], 1, 1⟩) = .ok "tank") ∧
      VdevFormSet.isValid (fun _ => true) (strip "") (fun _ => []) [⟨"stripe", ["ada0"]⟩] =
        .accepted [some ⟨"stripe", ["ada0"]⟩] :=
  have valid : VolumeManagerForm.isValid (fun _ => true) ["off"] ⟨[], [], 1, 1⟩ (fun _ => true)
      (fun _ => []) ⟨"tank", "", false, false, "off", [⟨"stripe", ["ada0"]⟩]⟩ =
        some (.ok ⟨"tank", false, false, "off", [some ⟨"stripe", ["ada0"]⟩]⟩) := rfl
  ⟨valid, manager_valid_volume _ _ _ _ _ _ _ valid⟩

end FreeNAS.Storage
