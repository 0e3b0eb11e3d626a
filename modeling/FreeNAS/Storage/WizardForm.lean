import FreeNAS.Django.Forms
import FreeNAS.Storage.VolumeManager
import FreeNAS.Python.Int

/-!
# Validating the volume wizard

`ZFSVolumeWizardForm` creates a volume or extends one.  Its fields are cleaned first:
`clean_volume_name` checks the pattern of a new name and that no volume has it, and
`clean_group_type` asks for a group type when several disks are posted.  Its `clean` then
settles which volume `done` works on, the new name or the one picked in `volume_add`, and
refuses the reserved names for it: `log`, and the names starting with `c` and a digit,
`mirror`, `spare` or `raidz`.  `VolumeMixin.clean_volume_name`, the check of
`VolumeManagerForm`, makes all of these checks in one hook.

A posted disk the form does not offer (one a volume took since the page was drawn) leaves
`volume_disks` without a value, and `len(None)` in `clean` then raises `TypeError`.  A valid
form hands `done` a volume that is named, not reserved, and, when new, given disks; the
reserved names are refused for a volume picked to extend too.  For a new volume the wizard
refuses the name exactly when `VolumeMixin` does, with the same message.

The pattern `^[a-z][-_.a-z0-9]*$` is searched with `re.I`, under which the letters `[a-z]`
matches depend on the version of Python; it is the parameter `nameMatches`.
-/

namespace FreeNAS.Storage

open FreeNAS.Python FreeNAS.Django

def badVolumeNameMessage : String :=
  "The volume name must start with letters and may include numbers, \"-\", \"_\" and \".\" ."

def reservedWordMessage : String := "\"log\" is a reserved word and thus cannot be used"

def reservedPrefixMessage : String :=
  "The volume name may NOT start with c[0-9], mirror, raidz or spare"

/-- `re.search(r'^c[0-9].*', name)`, or a name starting with `mirror`, `spare` or `raidz`. -/
def reservedPrefix (name : String) : Bool :=
  (match name.data with
    | 'c' :: digit :: _ => isAsciiDigit digit
    | _ => false) ||
    "mirror".data.isPrefixOf name.data || "spare".data.isPrefixOf name.data ||
    "raidz".data.isPrefixOf name.data

/-- `VolumeMixin.clean_volume_name` on the stripped name. -/
def VolumeMixin.cleanVolumeName (nameMatches : String → Bool) (db : Db) (vname : String) :
    Except String String :=
  if vname ≠ "" ∧ nameMatches vname = false then .error badVolumeNameMessage
  else if db.volumesNamed vname ≠ [] then .error "A volume with that name already exists."
  else if vname = "log" then .error reservedWordMessage
  else if reservedPrefix vname then .error reservedPrefixMessage
  else .ok vname

/-- `ZFSVolumeWizardForm.clean_volume_name`: the first two checks of `VolumeMixin`'s. -/
def ZFSVolumeWizardForm.cleanVolumeName (nameMatches : String → Bool) (db : Db) (vname : String) :
    Except String String :=
  if vname ≠ "" ∧ nameMatches vname = false then .error badVolumeNameMessage
  else if db.volumesNamed vname ≠ [] then .error "A volume with that name already exists."
  else .ok vname

/-- The values the wizard is posted; `volumeAdd` is `""` where it was not posted. -/
structure WizardPost where
  volumeName : String
  volumeDisks : List String
  groupType : String
  enc : Bool
  encini : Bool
  dedup : String
  volumeAdd : String

/-- The choices the form offers: the free disks `_populate_disk_choices` lists, and
`choices.ZFS_DEDUP`, which is not under `src/`. -/
structure WizardChoices where
  disks : List String
  dedup : List String

/-- The group types `__init__` offers for the number of disks posted. -/
def ZFSVolumeWizardForm.groupTypeChoices (disks : Nat) : List String :=
  ["mirror", "stripe"] ++ (if 3 ≤ disks then ["raidz"] else []) ++
    (if 4 ≤ disks then ["raidz2"] else []) ++ (if 5 ≤ disks then ["raidz3"] else [])

/-- `clean_group_type`, given what the disks field left in `cleaned_data`. -/
def ZFSVolumeWizardForm.cleanGroupType (volumeDisks : Option (List String)) (groupType : String) :
    Except String String :=
  match volumeDisks with
  | none => .error requiredMessage
  | some disks => if 1 < disks.length ∧ groupType = "" then .error requiredMessage else .ok groupType

/-- Each field cleaned with its hook; `add` is `none` where no volume exists, and the
`volume_add` field is not made. -/
structure WizardFields where
  name : Except String String
  disks : Except String (List String)
  group : Except String String
  dedup : Except String String
  add : Option (Except String String)

def ZFSVolumeWizardForm.cleanFields (nameMatches : String → Bool) (choices : WizardChoices) (db : Db)
    (post : WizardPost) : WizardFields :=
  let disks := MultipleChoiceField.clean choices.disks false post.volumeDisks
  { name := (CharField.clean (some 30) false post.volumeName).bind
      (ZFSVolumeWizardForm.cleanVolumeName nameMatches db)
    disks := disks
    group := (ChoiceField.clean (ZFSVolumeWizardForm.groupTypeChoices post.volumeDisks.length) false
      post.groupType).bind (ZFSVolumeWizardForm.cleanGroupType disks.toOption)
    dedup := ChoiceField.clean choices.dedup true post.dedup
    add := if db.volumes = [] then none
      else some (ChoiceField.clean ("" :: db.volumes.map (·.volName)) false post.volumeAdd) }

/-- `cleaned_data` of a valid wizard. -/
structure WizardCleaned where
  volumeName : String
  volumeDisks : List String
  groupType : String
  enc : Bool
  encini : Bool
  dedup : String
  volumeAdd : Option String
  deriving DecidableEq, Repr

/-- The errors `full_clean` leaves after the fields. -/
def WizardFields.errors (fields : WizardFields) : List (String × String) :=
  fieldError "volume_name" fields.name ++ fieldError "volume_disks" fields.disks ++
    fieldError "group_type" fields.group ++ fieldError "dedup" fields.dedup ++
    (fields.add.map (fieldError "volume_add")).getD []

/-- The volume `clean` checks: the new name, or the one picked to extend. -/
def WizardFields.target (fields : WizardFields) : String :=
  if fields.name.toOption.getD "" = "" then (fields.add.bind Except.toOption).getD ""
  else fields.name.toOption.getD ""

/-- The first check of `clean`: a new name or a volume to extend, and not both. -/
def WizardFields.targetErrors (fields : WizardFields) (errors : List (String × String)) :
    List (String × String) :=
  let volumeName := fields.name.toOption.getD ""
  let volumeAdd := (fields.add.bind Except.toOption).getD ""
  if volumeName ≠ "" ∧ volumeAdd ≠ "" then
    dictSet errors "__all__" "You cannot select an existing ZFS volume and specify a new volume name"
  else if volumeName = "" ∧ volumeAdd = "" then
    dictSet errors "__all__" ("You must specify a new volume name or select an " ++
      "existing ZFS volume to append a virtual device")
  else errors

/-- The second check: disks for a volume that does not exist yet. -/
def WizardFields.diskErrors (fields : WizardFields) (db : Db) (disks : List String)
    (errors : List (String × String)) : List (String × String) :=
  if disks = [] ∧ db.volumesNamed fields.target = [] then
    dictSet errors "volume_disks" "This field is required"
  else errors

/-- The third check: the reserved names. -/
def WizardFields.reservedErrors (fields : WizardFields) (errors : List (String × String)) :
    List (String × String) :=
  if fields.target = "log" then dictSet errors "volume_name" reservedWordMessage
  else if reservedPrefix fields.target then dictSet errors "volume_name" reservedPrefixMessage
  else errors

/-- The verdict of `full_clean`: the cleaned data where nothing left an error. -/
def WizardFields.verdict (fields : WizardFields) (post : WizardPost) (disks : List String)
    (errors : List (String × String)) : Except (List (String × String)) WizardCleaned :=
  match errors, fields.name, fields.group, fields.dedup with
  | [], .ok name, .ok group, .ok dedup =>
      .ok ⟨name, disks, group, post.enc, post.encini, dedup, fields.add.bind Except.toOption⟩
  | errors, _, _, _ => .error errors

/-- `ZFSVolumeWizardForm.clean` and the verdict of `full_clean`; `none` where `len(disks)`
raises `TypeError` on the `None` a refused disks field leaves. -/
def ZFSVolumeWizardForm.clean (db : Db) (post : WizardPost) (fields : WizardFields) :
    Option (Except (List (String × String)) WizardCleaned) :=
  fields.disks.toOption.map fun disks =>
    fields.verdict post disks
      (fields.reservedErrors (fields.diskErrors db disks (fields.targetErrors fields.errors)))

/-- `full_clean` of the wizard. -/
def ZFSVolumeWizardForm.fullClean (nameMatches : String → Bool) (choices : WizardChoices) (db : Db)
    (post : WizardPost) : Option (Except (List (String × String)) WizardCleaned) :=
  ZFSVolumeWizardForm.clean db post (ZFSVolumeWizardForm.cleanFields nameMatches choices db post)

/-- What `done` reads of a valid wizard: `cleaned_data.get("volume_name") or
cleaned_data.get("volume_add")` names the volume; `post` is the submission, whose
`zpool_<disk>` entries `done` reads. -/
def WizardCleaned.toData (cleaned : WizardCleaned) (post : List (String × String)) : WizardData :=
  ⟨if cleaned.volumeName ≠ "" then cleaned.volumeName else cleaned.volumeAdd.getD "",
    cleaned.volumeDisks, cleaned.groupType, cleaned.dedup, cleaned.encini, cleaned.enc, post⟩

/-- The checks `VolumeMixin.clean_volume_name` makes that the wizard leaves to `clean`. -/
def reservedNameCheck (vname : String) : Except String String :=
  if vname = "log" then .error reservedWordMessage
  else if reservedPrefix vname then .error reservedPrefixMessage
  else .ok vname

/-- `VolumeMixin`'s hook is the wizard's, then the reserved names. -/
theorem VolumeMixin.cleanVolumeName_eq_bind (nameMatches : String → Bool) (db : Db) (vname : String) :
    VolumeMixin.cleanVolumeName nameMatches db vname =
      (ZFSVolumeWizardForm.cleanVolumeName nameMatches db vname).bind reservedNameCheck := by
  unfold VolumeMixin.cleanVolumeName ZFSVolumeWizardForm.cleanVolumeName
  split_ifs <;> simp [Except.bind, reservedNameCheck, *]

theorem eq_nil_of_ite_dictSet {condition : Prop} [Decidable condition]
    {errors otherwise : List (String × String)} {key message : String}
    (empty : (if condition then dictSet errors key message else otherwise) = []) :
    ¬condition ∧ otherwise = [] := by
  split_ifs at empty with holds
  · exact absurd empty (dictSet_ne_nil _ _ _)
  · exact ⟨holds, empty⟩

theorem mem_ite_dictSet_of_ne {condition : Prop} [Decidable condition]
    {errors otherwise : List (String × String)} {key message : String} {item : String × String}
    (other : item.1 ≠ key) (kept : item ∈ otherwise ↔ item ∈ errors) :
    item ∈ (if condition then dictSet errors key message else otherwise) ↔ item ∈ errors := by
  split_ifs
  · rw [mem_dictSet]
    exact ⟨fun | .inl same => absurd (congrArg Prod.fst same) other | .inr ⟨kept, _⟩ => kept,
      fun kept => .inr ⟨kept, other⟩⟩
  · exact kept

namespace WizardFields

variable {fields : WizardFields}

theorem targetErrors_eq_nil {errors : List (String × String)} (empty : fields.targetErrors errors = []) :
    fields.target ≠ "" ∧ errors = [] := by
  dsimp only [targetErrors] at empty
  obtain ⟨_, rest⟩ := eq_nil_of_ite_dictSet empty
  obtain ⟨notNeither, none⟩ := eq_nil_of_ite_dictSet rest
  refine ⟨fun blank => notNeither ?_, none⟩
  unfold target at blank
  split_ifs at blank with named
  · exact ⟨named, blank⟩
  · exact absurd blank named

theorem mem_targetErrors {errors : List (String × String)} {item : String × String}
    (other : item.1 ≠ "__all__") : item ∈ fields.targetErrors errors ↔ item ∈ errors :=
  mem_ite_dictSet_of_ne other (mem_ite_dictSet_of_ne other Iff.rfl)

theorem mem_diskErrors {db : Db} {disks : List String} {errors : List (String × String)}
    {item : String × String} (other : item.1 ≠ "volume_disks") :
    item ∈ fields.diskErrors db disks errors ↔ item ∈ errors :=
  mem_ite_dictSet_of_ne other Iff.rfl

theorem diskErrors_eq_nil {db : Db} {disks : List String} {errors : List (String × String)}
    (empty : fields.diskErrors db disks errors = []) :
    ¬(disks = [] ∧ db.volumesNamed fields.target = []) ∧ errors = [] :=
  eq_nil_of_ite_dictSet empty

theorem reservedErrors_eq_nil {errors : List (String × String)} (empty : fields.reservedErrors errors = []) :
    fields.target ≠ "log" ∧ reservedPrefix fields.target = false ∧ errors = [] := by
  obtain ⟨word, rest⟩ := eq_nil_of_ite_dictSet empty
  obtain ⟨prefixed, none⟩ := eq_nil_of_ite_dictSet rest
  exact ⟨word, by simpa using prefixed, none⟩

theorem mem_reservedErrors {errors : List (String × String)} {message : String} :
    ("volume_name", message) ∈ fields.reservedErrors errors ↔
      match reservedNameCheck fields.target with
      | .error reserved => message = reserved
      | .ok _ => ("volume_name", message) ∈ errors := by
  unfold reservedErrors reservedNameCheck
  split_ifs <;> simp [mem_dictSet, eq_comm]

theorem mem_errors_volumeName {message : String} :
    ("volume_name", message) ∈ fields.errors ↔ fields.name = .error message := by
  cases add : fields.add <;> simp [errors, add]

theorem verdict_eq_ok {post : WizardPost} {disks : List String} {errors : List (String × String)}
    {cleaned : WizardCleaned} (valid : fields.verdict post disks errors = .ok cleaned) :
    errors = [] ∧ fields.name = .ok cleaned.volumeName ∧ cleaned.volumeDisks = disks ∧
      cleaned.volumeAdd = fields.add.bind Except.toOption := by
  unfold verdict at valid
  split at valid
  next named _ _ =>
    cases valid
    exact ⟨rfl, named, rfl, rfl⟩
  next => cases valid

@[simp] theorem formErrors_verdict {post : WizardPost} {disks : List String}
    {errors : List (String × String)} : formErrors (fields.verdict post disks errors) = errors := by
  unfold verdict
  split <;> rfl

theorem target_eq_volumeName {cleaned : WizardCleaned} (named : fields.name = .ok cleaned.volumeName)
    (added : cleaned.volumeAdd = fields.add.bind Except.toOption) (zpool : List (String × String)) :
    fields.target = (cleaned.toData zpool).volumeName := by
  unfold target WizardCleaned.toData
  rw [named, ← added]
  by_cases blank : cleaned.volumeName = "" <;> simp [Except.toOption, blank]

end WizardFields

/-- A valid wizard hands `done` a named volume that is not reserved, with disks where it does
not exist yet. -/
theorem wizard_valid_volume (nameMatches : String → Bool) (choices : WizardChoices) (db : Db)
    (post : WizardPost) (cleaned : WizardCleaned) (zpool : List (String × String))
    (valid : ZFSVolumeWizardForm.fullClean nameMatches choices db post = some (.ok cleaned)) :
    (cleaned.toData zpool).volumeName ≠ "" ∧ (cleaned.toData zpool).volumeName ≠ "log" ∧
      reservedPrefix (cleaned.toData zpool).volumeName = false ∧
      (db.volumesNamed (cleaned.toData zpool).volumeName = [] → cleaned.volumeDisks ≠ []) := by
  obtain ⟨disks, -, verdict⟩ := Option.map_eq_some'.mp valid
  obtain ⟨empty, named, given, added⟩ := WizardFields.verdict_eq_ok verdict
  obtain ⟨word, prefixed, empty⟩ := WizardFields.reservedErrors_eq_nil empty
  obtain ⟨diskless, empty⟩ := WizardFields.diskErrors_eq_nil empty
  obtain ⟨filled, -⟩ := WizardFields.targetErrors_eq_nil empty
  rw [← WizardFields.target_eq_volumeName named added zpool]
  exact ⟨filled, word, prefixed, fun fresh none => diskless ⟨given ▸ none, fresh⟩⟩

theorem wizard_valid_volume_of_tank :
    ZFSVolumeWizardForm.fullClean (fun _ => true) ⟨["ada0"], ["off"]⟩ ⟨[], [], 1, 1⟩
        ⟨"tank", ["ada0"], "", false, false, "off", ""⟩ =
      some (.ok ⟨"tank", ["ada0"], "", false, false, "off", none⟩) ∧
    "tank" ≠ "" ∧ "tank" ≠ "log" ∧ reservedPrefix "tank" = false ∧
      (Db.volumesNamed ⟨[], [], 1, 1⟩ "tank" = [] → ["ada0"] ≠ []) :=
  ⟨rfl, wizard_valid_volume (fun _ => true) ⟨["ada0"], ["off"]⟩ ⟨[], [], 1, 1⟩
    ⟨"tank", ["ada0"], "", false, false, "off", ""⟩ ⟨"tank", ["ada0"], "", false, false, "off", none⟩
    [] rfl⟩

theorem reservedNameCheck_error_iff (name : Except String String) (message : String) :
    (match reservedNameCheck (name.toOption.getD "") with
      | .error reserved => message = reserved
      | .ok _ => name = .error message) ↔ name.bind reservedNameCheck = .error message := by
  cases name with
  | error refused => rfl
  | ok vname =>
      cases check : reservedNameCheck vname <;>
        simp [Except.toOption, Except.bind, check, eq_comm]

/-- For a new volume the wizard refuses a name exactly where `VolumeMixin` does, with its
message. -/
theorem wizard_name_errors_as_volumeMixin (nameMatches : String → Bool) (choices : WizardChoices)
    (db : Db) (post : WizardPost) (offered : ∀ disk ∈ post.volumeDisks, disk ∈ choices.disks)
    (noAdd : post.volumeAdd = "") (message : String) :
    ∃ outcome, ZFSVolumeWizardForm.fullClean nameMatches choices db post = some outcome ∧
      (("volume_name", message) ∈ formErrors outcome ↔
        (CharField.clean (some 30) false post.volumeName).bind
          (VolumeMixin.cleanVolumeName nameMatches db) = .error message) := by
  let fields := ZFSVolumeWizardForm.cleanFields nameMatches choices db post
  have disks : fields.disks = .ok post.volumeDisks := MultipleChoiceField.clean_of_offered offered
  have target : fields.target = fields.name.toOption.getD "" := by
    have blank : (fields.add.bind Except.toOption).getD "" = "" := by
      show ((if db.volumes = [] then none else some _).bind Except.toOption).getD "" = ""
      split_ifs <;> simp [noAdd, ChoiceField.clean, Except.toOption]
    unfold WizardFields.target
    split_ifs with named <;> simp [blank, named]
  have mixin : (CharField.clean (some 30) false post.volumeName).bind
      (VolumeMixin.cleanVolumeName nameMatches db) = fields.name.bind reservedNameCheck := by
    show _ = ((CharField.clean (some 30) false post.volumeName).bind _).bind _
    cases CharField.clean (some 30) false post.volumeName <;>
      simp [Except.bind, VolumeMixin.cleanVolumeName_eq_bind]
  refine ⟨_, show fields.disks.toOption.map _ = _ by rw [disks]; rfl, ?_⟩
  rw [WizardFields.formErrors_verdict, WizardFields.mem_reservedErrors,
    WizardFields.mem_diskErrors (show "volume_name" ≠ "volume_disks" by decide),
    WizardFields.mem_targetErrors (show "volume_name" ≠ "__all__" by decide),
    WizardFields.mem_errors_volumeName, target, mixin]
  exact reservedNameCheck_error_iff _ _

theorem wizard_name_errors_as_volumeMixin_of_log :
    ∃ outcome, ZFSVolumeWizardForm.fullClean (fun _ => true) ⟨["ada0"], ["off"]⟩ ⟨[], [], 1, 1⟩
        ⟨"log", ["ada0"], "", false, false, "off", ""⟩ = some outcome ∧
      (("volume_name", reservedWordMessage) ∈ formErrors outcome ↔
        (CharField.clean (some 30) false "log").bind
          (VolumeMixin.cleanVolumeName (fun _ => true) ⟨[], [], 1, 1⟩) = .error reservedWordMessage) :=
  wizard_name_errors_as_volumeMixin (fun _ => true) ⟨["ada0"], ["off"]⟩ ⟨[], [], 1, 1⟩
    ⟨"log", ["ada0"], "", false, false, "off", ""⟩ (by decide) rfl reservedWordMessage

end FreeNAS.Storage
