import FreeNAS.Storage.Snapshot

/-!
# Creating a dataset

`ZFSDatasetCreateForm` cleans `dataset_name` first: a `CharField(max_length=128)`, then
`clean_dataset_name`, which admits `^[a-zA-Z0-9][a-zA-Z0-9_\-:. ]*$`.  Its `clean` builds the
full name `"%s/%s" % (fs, cleaned_data.get("dataset_name"))`, refuses it with a
`ValidationError` when `/mnt/<full name>` exists, and otherwise sets an error on
`dataset_name` and deletes it from `cleaned_data` when `zfs.list_datasets` lists a dataset of
that name.  `save` creates the dataset under the same full name.

Where the field refused the name, `cleaned_data.get` gives `None` and `clean` checks the
dataset `<fs>/None`: `del cleaned_data["dataset_name"]` then raises `KeyError` if that dataset
exists.  A form that ends without errors creates a direct child of `fs` whose name no path
and no dataset has.

The other fields are those of `ZFSDatasetCommonForm` (see `DatasetEdit`); `clean` reads none
of them but the size fields, whose `_clean_zfssize_fields` only sets errors, so the model takes
the errors they leave as given.
-/

namespace FreeNAS.Storage

open FreeNAS.Python FreeNAS.Django

def datasetNameMessage : String :=
  "Dataset names must begin with an alphanumeric character and may only contain " ++
    "\"-\", \"_\", \":\", \" \" and \".\"."

/-- The `dataset_name` field and its hook `ZFSDatasetCommonForm.clean_dataset_name`. -/
def ZFSDatasetCreateForm.cleanDatasetName (value : String) : Except String String :=
  (CharField.clean (some 128) true value).bind fun name =>
    if anchoredMatch Char.isAlphanum isDatasetNameChar name then .ok name
    else .error datasetNameMessage

/-- `"%s/%s" % (self._fs, cleaned_data.get("dataset_name"))`, the name `clean` checks and
`save` creates: `None` prints as `None`. -/
def ZFSDatasetCreateForm.fullDatasetName (fs : String) (datasetName : Option String) : String :=
  fs ++ "/" ++ datasetName.getD "None"

/-- `ZFSDatasetCreateForm.clean` on the errors the fields left: `pathExists` is
`os.path.exists`, `datasetExists` whether `zfs.list_datasets` lists the dataset; `none` where
`del cleaned_data["dataset_name"]` raises `KeyError`. -/
def ZFSDatasetCreateForm.clean (pathExists datasetExists : String → Bool) (fs : String)
    (datasetName : Option String) (errors : List (String × String)) :
    Option (List (String × String)) :=
  let fullDatasetName := ZFSDatasetCreateForm.fullDatasetName fs datasetName
  if pathExists ("/mnt/" ++ fullDatasetName) then
    some (dictSet errors "__all__" ("The path /mnt/" ++ fullDatasetName ++ " already exists."))
  else if datasetExists fullDatasetName then
    datasetName.map fun _ =>
      dictSet errors "dataset_name" "You already have a dataset with the same name"
  else some errors

/-- `full_clean`: `dataset_name` first (`field_order`), then the other fields' errors, then
`clean`. -/
def ZFSDatasetCreateForm.fullClean (pathExists datasetExists : String → Bool) (fs value : String)
    (otherErrors : List (String × String)) : Option (List (String × String)) :=
  let datasetName := ZFSDatasetCreateForm.cleanDatasetName value
  ZFSDatasetCreateForm.clean pathExists datasetExists fs datasetName.toOption
    (fieldError "dataset_name" datasetName ++ otherErrors)

theorem cleanDatasetName_eq_ok {value name : String}
    (admitted : ZFSDatasetCreateForm.cleanDatasetName value = .ok name) :
    name ≠ "" ∧ '/' ∉ name.data := by
  unfold ZFSDatasetCreateForm.cleanDatasetName at admitted
  cases field : CharField.clean (some 128) true value with
  | error message => rw [field] at admitted; cases admitted
  | ok stripped =>
      rw [field] at admitted
      dsimp only [Except.bind] at admitted
      split_ifs at admitted with matched
      cases admitted
      rw [CharField.clean_eq_ok field, anchoredMatch_strip] at matched
      rw [CharField.clean_eq_ok field]
      obtain ⟨c, rest, chars, first, others⟩ := classRun_iff.mp matched
      refine ⟨fun blank => ?_, ?_⟩
      · rw [blank] at chars
        cases chars
      · rw [chars, List.mem_cons, not_or]
        refine ⟨fun slash => ?_, fun mem => absurd (others _ mem) (by decide)⟩
        subst slash
        exact absurd first (by decide)

/-- A form that ends without errors creates a direct child of `fs` that no path and no dataset
has the name of. -/
theorem created_dataset_is_fresh_child (pathExists datasetExists : String → Bool)
    (fs value : String) (otherErrors : List (String × String))
    (valid : ZFSDatasetCreateForm.fullClean pathExists datasetExists fs value otherErrors = some []) :
    ∃ name, ZFSDatasetCreateForm.cleanDatasetName value = .ok name ∧ name ≠ "" ∧ '/' ∉ name.data ∧
      pathExists ("/mnt/" ++ ZFSDatasetCreateForm.fullDatasetName fs (some name)) = false ∧
      datasetExists (ZFSDatasetCreateForm.fullDatasetName fs (some name)) = false := by
  unfold ZFSDatasetCreateForm.fullClean ZFSDatasetCreateForm.clean at valid
  cases admitted : ZFSDatasetCreateForm.cleanDatasetName value <;>
    rw [admitted] at valid <;> dsimp only [Except.toOption] at valid <;>
    split_ifs at valid with path dataset <;> simp [dictSet_ne_nil] at valid
  obtain ⟨filled, noSlash⟩ := cleanDatasetName_eq_ok admitted
  exact ⟨_, rfl, filled, noSlash, by simpa using path, by simpa using dataset⟩

theorem created_dataset_is_fresh_child_of_tank :
    ZFSDatasetCreateForm.fullClean (fun _ => false) (fun _ => false) "tank" "data" [] = some [] ∧
      ∃ name, ZFSDatasetCreateForm.cleanDatasetName "data" = .ok name ∧ name ≠ "" ∧
        '/' ∉ name.data ∧
        (fun _ => false) ("/mnt/" ++ ZFSDatasetCreateForm.fullDatasetName "tank" (some name)) = false ∧
        (fun _ => false) (ZFSDatasetCreateForm.fullDatasetName "tank" (some name)) = false :=
  ⟨by decide, created_dataset_is_fresh_child (fun _ => false) (fun _ => false) "tank" "data" []
    (by decide)⟩

end FreeNAS.Storage
