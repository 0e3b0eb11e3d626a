import FreeNAS.Python.Str
import Mathlib.Data.List.Nodup

/-!
# Importing a pool found on the disks

`VolumeAutoImportForm` offers every pool `pool.import_find` reports as a choice whose key
is `name|guid` and whose label is `name [id=guid]`, collected in a dict.  Its `clean`
splits the posted key at the first `|` and keeps the first reported pool of that name
whose guid is the posted one, or the first pool of that name when the posted guid is
empty.  A form that picks no pool, or a pool whose name a `Volume` row already has, gets
an error.

A pool is a dict: the form reads its `name` and `guid` and hands the whole dict on in
`cleaned_data['volume']`, so the model keeps its other keys as `info`.  The two calls of
`pool.import_find`, for the choices and in `clean`, are taken to report the same pools.

The key is a round trip as long as names hold no `|`: `splitOnce_choiceKey` gives the
name and guid back, so two pools with distinct names and guids have distinct keys, the
dict keeps one choice per pool (`volumeChoices_eq_map`), and the loop finds the pool the
key was built from unless its guid is empty, which the loop reads as "no guid posted".
-/

namespace FreeNAS.Storage

open FreeNAS.Python

/-- A pool as `pool.import_find` reports it; `info` stands for its other keys. -/
structure ImportablePool (Info : Type) where
  name : String
  guid : String
  info : Info
  deriving DecidableEq, Repr

/-- The form once cleaned: `cleaned_data['volume_id']`, `cleaned_data['volume']`, and the
messages by field. -/
structure AutoImportCleaned (Info : Type) where
  volumeId : Option String
  volume : Option (ImportablePool Info)
  errors : List (String × List String)
  deriving DecidableEq, Repr

section

variable {Info : Type}

/-- The key `_volume_choices` gives a pool: `f'{p["name"]}|{p["guid"]}'`. -/
def ImportablePool.choiceKey (pool : ImportablePool Info) : String :=
  pool.name ++ "|" ++ pool.guid

/-- The label `_volume_choices` gives a pool: `f'{p["name"]} [id={p["guid"]}]'`. -/
def ImportablePool.choiceLabel (pool : ImportablePool Info) : String :=
  pool.name ++ " [id=" ++ pool.guid ++ "]"

/-- `VolumeAutoImportForm._volume_choices`, given the pools `pool.import_find` reports. -/
def VolumeAutoImportForm.volumeChoices (pools : List (ImportablePool Info)) :
    List (String × String) :=
  pools.foldl (fun volchoices p => dictSet volchoices p.choiceKey p.choiceLabel) []

/-- The `volume_id` field: a required `ChoiceField` over the keys of the choices, with
Django's messages. -/
def VolumeAutoImportForm.volumeIdField (choices : List (String × String)) (value : String) :
    Except String String :=
  if value = "" then .error "This field is required."
  else if value ∈ choices.map Prod.fst then .ok value
  else .error ("Select a valid choice. " ++ value ++ " is not one of the available choices.")

/-- The test of `clean`'s loop: the pool has the posted name, and the posted guid unless
the posted guid is empty. -/
def VolumeAutoImportForm.poolMatches (volumeName guid : String)
    (pool : ImportablePool Info) : Bool :=
  pool.name == volumeName && (guid != "" && guid == pool.guid || guid == "")

/-- `VolumeAutoImportForm.clean`, from the `volume_id` the field left (if it did) and the
errors so far; `volumeNames` are the `vol_name` of the `Volume` rows.  `none` where it
raises: on a `volume_id` without `|` (unpacking), or deleting a `volume_id` the field did
not leave (`KeyError`). -/
def VolumeAutoImportForm.clean (pools : List (ImportablePool Info)) (volumeNames : List String)
    (volumeId : Option String) (errors : List (String × List String)) :
    Option (AutoImportCleaned Info) :=
  match splitOnce '|' (volumeId.getD "|") with
  | none => none
  | some (volumeName, guid) =>
      match pools.find? (VolumeAutoImportForm.poolMatches volumeName guid) with
      | none => some ⟨volumeId, none, dictSet errors "__all__" ["You must select a volume."]⟩
      | some pool =>
          if pool.name ∈ volumeNames then
            match volumeId with
            | some _ =>
                some ⟨none, some pool,
                  dictSet errors "volume_id" ["You already have a volume with same name"]⟩
            | none => none
          else some ⟨volumeId, some pool, errors⟩

/-- `full_clean` on a posted `volume_id`: the field, then `clean`. -/
def VolumeAutoImportForm.fullClean (pools : List (ImportablePool Info))
    (volumeNames : List String) (value : String) : Option (AutoImportCleaned Info) :=
  match VolumeAutoImportForm.volumeIdField (VolumeAutoImportForm.volumeChoices pools) value with
  | .ok volumeId => VolumeAutoImportForm.clean pools volumeNames (some volumeId) []
  | .error message =>
      VolumeAutoImportForm.clean pools volumeNames none [("volume_id", [message])]

theorem foldl_dictSet_of_fresh {pools : List (ImportablePool Info)} {acc : List (String × String)}
    (nodup : (pools.map ImportablePool.choiceKey).Nodup)
    (fresh : ∀ p ∈ pools, p.choiceKey ∉ acc.map Prod.fst) :
    pools.foldl (fun volchoices p => dictSet volchoices p.choiceKey p.choiceLabel) acc =
      acc ++ pools.map fun p => (p.choiceKey, p.choiceLabel) := by
  induction pools generalizing acc with
  | nil => simp
  | cons p pools ih =>
      rw [List.map_cons, List.nodup_cons] at nodup
      rw [List.foldl_cons, dictSet_of_not_mem (fresh p (List.mem_cons_self _ _)), ih nodup.2]
      · simp
      · intro q mem
        simp only [List.map_append, List.map_cons, List.map_nil, List.mem_append,
          List.mem_singleton, not_or]
        exact ⟨fresh q (List.mem_cons_of_mem _ mem),
          fun same => nodup.1 (same ▸ List.mem_map_of_mem _ mem)⟩

theorem volumeChoices_eq_map {pools : List (ImportablePool Info)}
    (nodup : (pools.map ImportablePool.choiceKey).Nodup) :
    VolumeAutoImportForm.volumeChoices pools = pools.map fun p => (p.choiceKey, p.choiceLabel) := by
  simpa using @foldl_dictSet_of_fresh _ _ [] nodup (by simp)

theorem splitOnce_choiceKey {pool : ImportablePool Info} (bar : '|' ∉ pool.name.data) :
    splitOnce '|' pool.choiceKey = some (pool.name, pool.guid) :=
  splitOnce_append pool.guid bar

theorem choiceKey_inj {p q : ImportablePool Info} (pBar : '|' ∉ p.name.data)
    (qBar : '|' ∉ q.name.data) (same : p.choiceKey = q.choiceKey) :
    (p.name, p.guid) = (q.name, q.guid) := by
  have split := splitOnce_choiceKey pBar
  rwa [same, splitOnce_choiceKey qBar, Option.some.injEq, eq_comm] at split

theorem choiceKeys_nodup {pools : List (ImportablePool Info)}
    (distinct : (pools.map fun pool => (pool.name, pool.guid)).Nodup)
    (noBar : ∀ pool ∈ pools, '|' ∉ pool.name.data) :
    (pools.map ImportablePool.choiceKey).Nodup :=
  (distinct.of_map _).map_on fun p pMem q qMem same =>
    List.inj_on_of_nodup_map distinct pMem qMem (choiceKey_inj (noBar p pMem) (noBar q qMem) same)

/-- With distinct names and guids and no `|` in a name, the dict `_volume_choices` builds
holds one choice per pool, in the order the pools come. -/
theorem volumeChoices_one_per_pool (pools : List (ImportablePool Info))
    (distinct : (pools.map fun pool => (pool.name, pool.guid)).Nodup)
    (noBar : ∀ pool ∈ pools, '|' ∉ pool.name.data) :
    VolumeAutoImportForm.volumeChoices pools = pools.map fun p => (p.choiceKey, p.choiceLabel) :=
  volumeChoices_eq_map (choiceKeys_nodup distinct noBar)

/-- Two pools named `tank`, told apart by their guids. -/
def twoTanks : List (ImportablePool Unit) := [⟨"tank", "1", ()⟩, ⟨"tank", "2", ()⟩]

theorem volumeChoices_one_per_pool_of_two_tanks :
    (twoTanks.map fun pool => (pool.name, pool.guid)).Nodup ∧
      (∀ pool ∈ twoTanks, '|' ∉ pool.name.data) ∧
      VolumeAutoImportForm.volumeChoices twoTanks =
        twoTanks.map fun p => (p.choiceKey, p.choiceLabel) :=
  have distinct : (twoTanks.map fun pool => (pool.name, pool.guid)).Nodup := by decide
  have noBar : ∀ pool ∈ twoTanks, '|' ∉ pool.name.data := by decide
  ⟨distinct, noBar, volumeChoices_one_per_pool _ distinct noBar⟩

theorem find?_poolMatches {pools : List (ImportablePool Info)} {pool : ImportablePool Info}
    (distinct : (pools.map fun pool => (pool.name, pool.guid)).Nodup) (mem : pool ∈ pools)
    (guided : pool.guid ≠ "") :
    pools.find? (VolumeAutoImportForm.poolMatches pool.name pool.guid) = some pool := by
  have matching : ∀ other : ImportablePool Info,
      VolumeAutoImportForm.poolMatches pool.name pool.guid other = true ↔
        (other.name, other.guid) = (pool.name, pool.guid) := by
    intro other
    simpa [VolumeAutoImportForm.poolMatches, guided] using fun _ => eq_comm
  cases found : pools.find? (VolumeAutoImportForm.poolMatches pool.name pool.guid) with
  | none => exact absurd ((matching pool).mpr rfl) (List.find?_eq_none.mp found pool mem)
  | some other =>
      exact congrArg some (List.inj_on_of_nodup_map distinct (List.mem_of_find?_eq_some found)
        mem ((matching other).mp (List.find?_some found)))

theorem fullClean_choiceKey {pools : List (ImportablePool Info)} {volumeNames : List String}
    {pool : ImportablePool Info}
    (distinct : (pools.map fun pool => (pool.name, pool.guid)).Nodup)
    (noBar : ∀ pool ∈ pools, '|' ∉ pool.name.data) (mem : pool ∈ pools)
    (guided : pool.guid ≠ "") :
    VolumeAutoImportForm.fullClean pools volumeNames pool.choiceKey =
      some (if pool.name ∈ volumeNames then
          ⟨none, some pool, [("volume_id", ["You already have a volume with same name"])]⟩
        else ⟨some pool.choiceKey, some pool, []⟩) := by
  have offered : pool.choiceKey ∈ (VolumeAutoImportForm.volumeChoices pools).map Prod.fst := by
    rw [volumeChoices_eq_map (choiceKeys_nodup distinct noBar), List.map_map]
    exact List.mem_map_of_mem _ mem
  have nonempty : pool.choiceKey ≠ "" := fun empty => by
    have chars : pool.name.data ++ ['|'] ++ pool.guid.data = [] := congrArg String.data empty
    simp at chars
  have field : VolumeAutoImportForm.volumeIdField (VolumeAutoImportForm.volumeChoices pools)
      pool.choiceKey = .ok pool.choiceKey := by
    rw [VolumeAutoImportForm.volumeIdField, if_neg nonempty, if_pos offered]
  rw [VolumeAutoImportForm.fullClean, field]
  dsimp only
  rw [VolumeAutoImportForm.clean, Option.getD_some, splitOnce_choiceKey (noBar pool mem)]
  dsimp only
  rw [find?_poolMatches distinct mem guided]
  dsimp only
  split_ifs <;> rfl

/-- Submitting a choice of `_volume_choices` makes `clean` keep, in
`cleaned_data['volume']`, the pool the choice was built from. -/
theorem submitted_choice_selects_its_pool (pools : List (ImportablePool Info))
    (volumeNames : List String)
    (distinct : (pools.map fun pool => (pool.name, pool.guid)).Nodup)
    (noBar : ∀ pool ∈ pools, '|' ∉ pool.name.data) (guided : ∀ pool ∈ pools, pool.guid ≠ "") :
    ∀ choice ∈ VolumeAutoImportForm.volumeChoices pools,
      (∃ pool ∈ pools, choice = (pool.choiceKey, pool.choiceLabel)) ∧
        ∀ pool ∈ pools, choice.1 = pool.choiceKey →
          (VolumeAutoImportForm.fullClean pools volumeNames choice.1).map (·.volume) =
            some (some pool) := by
  intro choice offered
  rw [volumeChoices_eq_map (choiceKeys_nodup distinct noBar)] at offered
  obtain ⟨built, builtMem, rfl⟩ := List.mem_map.mp offered
  refine ⟨⟨built, builtMem, rfl⟩, fun pool mem same => ?_⟩
  rw [same, fullClean_choiceKey distinct noBar mem (guided pool mem)]
  split_ifs <;> rfl

theorem submitted_choice_selects_its_pool_of_two_tanks :
    (twoTanks.map fun pool => (pool.name, pool.guid)).Nodup ∧
      (∀ pool ∈ twoTanks, '|' ∉ pool.name.data) ∧ (∀ pool ∈ twoTanks, pool.guid ≠ "") ∧
      ∀ choice ∈ VolumeAutoImportForm.volumeChoices twoTanks,
        (∃ pool ∈ twoTanks, choice = (pool.choiceKey, pool.choiceLabel)) ∧
          ∀ pool ∈ twoTanks, choice.1 = pool.choiceKey →
            (VolumeAutoImportForm.fullClean twoTanks ["tank"] choice.1).map (·.volume) =
              some (some pool) :=
  have distinct : (twoTanks.map fun pool => (pool.name, pool.guid)).Nodup := by decide
  have noBar : ∀ pool ∈ twoTanks, '|' ∉ pool.name.data := by decide
  have guided : ∀ pool ∈ twoTanks, pool.guid ≠ "" := by decide
  ⟨distinct, noBar, guided, submitted_choice_selects_its_pool _ ["tank"] distinct noBar guided⟩

/-- Two pools named `tank`, the second with an empty guid. -/
def tankAndBlankGuid : List (ImportablePool Unit) := [⟨"tank", "1", ()⟩, ⟨"tank", "", ()⟩]

/-- A pool whose guid is empty: its choice `tank|` posts no guid, so `clean` keeps the
first pool named `tank`, another pool than the one the choice was built from. -/
theorem empty_guid_choice_selects_namesake :
    (tankAndBlankGuid.map fun pool => (pool.name, pool.guid)).Nodup ∧
      (∀ pool ∈ tankAndBlankGuid, '|' ∉ pool.name.data) ∧
      ("tank|", "tank [id=]") ∈ VolumeAutoImportForm.volumeChoices tankAndBlankGuid ∧
      (VolumeAutoImportForm.fullClean tankAndBlankGuid [] "tank|").map (·.volume) =
        some (some ⟨"tank", "1", ()⟩) := by
  decide

/-- `clean` leaves no error only with a pool `pool.import_find` reported and whose name no
volume has. -/
theorem clean_without_errors {pools : List (ImportablePool Info)} {volumeNames : List String}
    {volumeId : Option String} {errors : List (String × List String)}
    {cleaned : AutoImportCleaned Info}
    (done : VolumeAutoImportForm.clean pools volumeNames volumeId errors = some cleaned)
    (valid : cleaned.errors = []) :
    errors = [] ∧ ∃ pool ∈ pools, cleaned.volume = some pool ∧ pool.name ∉ volumeNames := by
  unfold VolumeAutoImportForm.clean at done
  split at done
  · cases done
  split at done
  · cases done
    exact absurd valid (dictSet_ne_nil _ _ _)
  rename_i found
  split_ifs at done with taken
  · split at done
    · cases done
      exact absurd valid (dictSet_ne_nil _ _ _)
    · cases done
  · cases done
    exact ⟨valid, _, List.mem_of_find?_eq_some found, rfl, taken⟩

/-- Whatever is posted, a form that cleans without errors hands on a pool
`pool.import_find` reported, and one whose name no volume has. -/
theorem fullClean_without_errors_picks_free_pool (pools : List (ImportablePool Info))
    (volumeNames : List String) (value : String) (cleaned : AutoImportCleaned Info)
    (done : VolumeAutoImportForm.fullClean pools volumeNames value = some cleaned)
    (valid : cleaned.errors = []) :
    ∃ pool ∈ pools, cleaned.volume = some pool ∧ pool.name ∉ volumeNames := by
  unfold VolumeAutoImportForm.fullClean at done
  split at done
  · exact (clean_without_errors done valid).2
  · exact absurd (clean_without_errors done valid).1 (List.cons_ne_nil _ _)

theorem fullClean_without_errors_picks_free_pool_of_tank :
    VolumeAutoImportForm.fullClean [(⟨"tank", "1", ()⟩ : ImportablePool Unit)] [] "tank|1" =
        some ⟨some "tank|1", some ⟨"tank", "1", ()⟩, []⟩ ∧
      ∃ pool ∈ [(⟨"tank", "1", ()⟩ : ImportablePool Unit)],
        some (⟨"tank", "1", ()⟩ : ImportablePool Unit) = some pool ∧
          pool.name ∉ ([] : List String) :=
  have done : VolumeAutoImportForm.fullClean [(⟨"tank", "1", ()⟩ : ImportablePool Unit)] []
      "tank|1" = some ⟨some "tank|1", some ⟨"tank", "1", ()⟩, []⟩ := by decide
  ⟨done, fullClean_without_errors_picks_free_pool _ [] "tank|1" _ done rfl⟩

end

end FreeNAS.Storage
