import Mathlib.Data.List.Nodup
import FreeNAS.Storage.Orm

/-!
# Creating and extending a volume

`VolumeManagerForm.save` and `ZFSVolumeWizardForm.done` both look the volume up by
name, create its row when there is none, build the groups of disks and hand them to
the notifier (`create_volume` for a new pool, `zfs_volume_attach_group` to extend
one), and create the scrub row of a new volume.  Each wraps this in a `try` whose
`except` branch deletes the rows the block may have created and raises again.

Each Python statement of the `try` block is a `Py` program of its own below, so that
what a failure at any of its calls leaves behind can be read off statement by
statement.
-/

namespace FreeNAS.Storage

/-- What `VolumeManagerForm.save` reads: its cleaned data and the formset's forms. -/
structure VolumeManagerData where
  volumeName : String
  encryption : Bool
  encryptionInirand : Bool
  dedup : String
  forms : List (Option VdevGroup)
  deriving DecidableEq, Repr

/-- What the notifier and the service table answer after the `try` block. -/
structure SaveEnv where
  isFreenas : Bool
  failoverLicensed : Bool
  smartdEnabled : Bool
  deriving DecidableEq, Repr

/-- `vols = Volume.objects.filter(vol_name=...)` and the branch on it: an existing volume
is extended (`add`), otherwise a new instance is created and saved; `existing` is the
test on the rows found. -/
def lookupVolume (fails : Nat → Bool) (name : String) (volEncrypt : Nat)
    (existing : List Volume → Option Volume) : Py Unit :=
  filterVolumes fails name >>= fun vols s =>
    match existing vols with
    | some volume => .ok () { s with frame := { s.frame with volume := some volume.toObj, add := some true } }
    | none =>
        saveVolume fails { s with
          frame := { s.frame with add := some false, volume := some ⟨none, name, volEncrypt⟩ } }

section Lookup

variable {fails : Nat → Bool} {name : String} {volEncrypt : Nat}
  {existing : List Volume → Option Volume} {s s' : PyState}

theorem lookupVolume_eq_error {e : PyError}
    (run : lookupVolume fails name volEncrypt existing s = .error e s') :
    s'.db = s.db ∧ (s'.frame = s.frame ∨
      s'.frame = { s.frame with add := some false, volume := some ⟨none, name, volEncrypt⟩ }) := by
  rcases bind_eq_error.mp run with raised | ⟨vols, s₁, filtered, run⟩
  · obtain ⟨-, -, rfl⟩ := external_eq_error.mp (filterVolumes_eq_error.mp raised)
    exact ⟨rfl, .inl rfl⟩
  · obtain ⟨-, rfl, rfl⟩ := filterVolumes_eq_ok.mp filtered
    split at run
    · cases run
    · obtain ⟨-, -, rfl⟩ := external_eq_error.mp (saveVolume_eq_error.mp run)
      exact ⟨rfl, .inr rfl⟩

theorem lookupVolume_eq_ok (run : lookupVolume fails name volEncrypt existing s = .ok () s') :
    (∃ volume, existing (s.db.volumesNamed name) = some volume ∧ s'.db = s.db ∧
        s'.frame = { s.frame with volume := some volume.toObj, add := some true }) ∨
      existing (s.db.volumesNamed name) = none ∧ s'.db = s.db.insertVolume name volEncrypt ∧
        s'.frame =
          { s.frame with add := some false, volume := some ⟨some s.db.nextVolumePk, name, volEncrypt⟩ } := by
  obtain ⟨vols, s₁, filtered, run⟩ := bind_eq_ok.mp run
  obtain ⟨-, rfl, rfl⟩ := filterVolumes_eq_ok.mp filtered
  split at run
  · rename_i volume found
    cases run
    exact .inl ⟨volume, found, rfl, rfl⟩
  · rename_i missing
    exact .inr ⟨missing, saveVolume_eq_ok_of_unsaved rfl run⟩

theorem lookupVolume_of_found {volume : Volume} (filtered : fails s.attempts = false)
    (found : existing (s.db.volumesNamed name) = some volume) :
    lookupVolume fails name volEncrypt existing s =
      .ok () { s with
        attempts := s.attempts + 1
        frame := { s.frame with volume := some volume.toObj, add := some true } } := by
  simp [lookupVolume, bind, EStateM.bind, filterVolumes, SeqRight.seqRight, EStateM.seqRight,
    external, filtered, found]

end Lookup

/-- The groups `save` builds from the formset: every form with a type, in order. -/
def VolumeManagerForm.grouped (forms : List (Option VdevGroup)) : List VdevGroup :=
  forms.filterMap id

/-- Whether the frame's `add` was set to `True`. -/
def Frame.adding (frame : Frame) : Bool := frame.add = some true

/-- The rest of the `try` block of `save`: attach each group, or create the pool, set
dedup and create the scrub row. -/
def VolumeManagerForm.attachOrCreate (fails : Nat → Bool) (data : VolumeManagerData) :
    Py Unit := fun s =>
  let grouped := VolumeManagerForm.grouped data.forms
  if s.frame.adding then
    (grouped.forM fun group => notify fails (.zfsVolumeAttachGroup data.volumeName group)) s
  else
    (notify fails (.createVolume data.volumeName grouped data.encryptionInirand) *>
      (if data.dedup ≠ "" then notify fails (.zfsSetOption data.volumeName "dedup" data.dedup)
        else pure ()) *>
      createScrub fails) s

theorem VolumeManagerForm.attachOrCreate_raisesQuietly (fails : Nat → Bool)
    (data : VolumeManagerData) : RaisesQuietly (VolumeManagerForm.attachOrCreate fails data) := by
  intro s e s' run
  unfold VolumeManagerForm.attachOrCreate at run
  split at run
  · exact (Quiet.forM fun _ _ => Quiet.notify fails _).error s e s' run
  · exact RaisesQuietly.seqRight (Quiet.seqRight (Quiet.notify fails _)
      (Quiet.ite (Quiet.notify fails _) (Quiet.pure ()))) (RaisesQuietly.createScrub fails) s e s' run

def VolumeManagerForm.saveTry (fails : Nat → Bool) (data : VolumeManagerData) : Py Unit :=
  lookupVolume fails data.volumeName (if data.encryption then 1 else 0) List.head? *>
    VolumeManagerForm.attachOrCreate fails data

/-- The `except` branch of `save`: `if not add and volume: volume.delete(...)`, then
`if scrub: scrub.delete()`; `not add` raises while `add` is unbound. -/
def VolumeManagerForm.saveHandler : Py Unit := fun s =>
  match s.frame.add with
  | none => .error (.unboundLocal "add") s
  | some add =>
      let deleted : Py Unit :=
        if !add then
          match s.frame.volume with
          | some volume => deleteVolumeObj volume
          | none => pure ()
        else pure ()
      (deleted *> match s.frame.scrub with
        | some scrub => deleteScrubRow scrub
        | none => pure ()) s

/-- The `try` statement of `save`, its handler re-raising. -/
def VolumeManagerForm.saveGuarded (fails : Nat → Bool) (data : VolumeManagerData) : Py Unit :=
  tryCatch (VolumeManagerForm.saveTry fails data) fun error =>
    VolumeManagerForm.saveHandler *> throw error

/-- `if volume.vol_encrypt >= 2 and add:` the passphrase is dropped
(`geli_passphrase(volume, None)`) and the instance saved with `vol_encrypt = 1`. -/
def VolumeManagerForm.clearPassphrase (fails : Nat → Bool) (volume : VolumeObj) (adding : Bool) :
    Py Unit :=
  if 2 ≤ volume.volEncrypt ∧ adding then
    notify fails (.geliPassphrase volume.volName) *> setVolume { volume with volEncrypt := 1 } *>
      saveVolume fails
  else pure ()

/-- The rest of `save`: the geli keyfile sent to the other node of a licensed failover
pair, then the services reloaded and restarted. -/
def VolumeManagerForm.syncServices (fails : Nat → Bool) (env : SaveEnv) (data : VolumeManagerData)
    (volume : VolumeObj) (adding : Bool) : Py Unit :=
  (if data.encryption then
      external fails *> if env.isFreenas then pure () else
        external fails *> if env.failoverLicensed then notify fails (.syncFileSend volume.volName)
          else pure ()
    else pure ()) *>
    notify fails (.reload "disk") *>
    (if adding then pure ()
      else notify fails (.start "ix-syslogd") *> notify fails (.restart "system_datasets")) *>
    notify fails (.restart "cron") *>
    external fails *>
    (if env.smartdEnabled then notify fails (.restart "smartd") else pure ())

/-- What `save` does after its `try` block; `volume.vol_encrypt` raises if `volume` is
`None`. -/
def VolumeManagerForm.saveAfter (fails : Nat → Bool) (env : SaveEnv) (data : VolumeManagerData) :
    Py Unit := fun s =>
  match s.frame.volume with
  | none => .error (.noneAttribute "vol_encrypt") s
  | some volume =>
      (VolumeManagerForm.clearPassphrase fails volume s.frame.adding *>
        VolumeManagerForm.syncServices fails env data volume s.frame.adding) s

/-- `VolumeManagerForm.save`, from `volume = scrub = None` on. -/
def VolumeManagerForm.save (fails : Nat → Bool) (env : SaveEnv) (data : VolumeManagerData) :
    Py Unit :=
  setFrame ⟨none, none, none⟩ *> VolumeManagerForm.saveGuarded fails data *>
    VolumeManagerForm.saveAfter fails env data

/-- What `ZFSVolumeWizardForm.done` reads: its cleaned data and `request.POST.items()`. -/
structure WizardData where
  volumeName : String
  volumeDisks : List String
  groupType : String
  dedup : String
  encini : Bool
  enc : Bool
  post : List (String × String)
  deriving DecidableEq, Repr

/-- `re.compile(r'zpool_(.+)')` matched against a POST key, with its group. -/
def zpoolField? (key : String) : Option String :=
  match key.toList with
  | 'z' :: 'p' :: 'o' :: 'o' :: 'l' :: '_' :: rest =>
      let disk := rest.takeWhile (· ≠ '\n')
      if disk = [] then none else some (String.mk disk)
  | _ => none

/-- The ordered dict `grouped` of the wizard, from a type to its group: each key once. -/
structure GroupedDict where
  entries : List (String × VdevGroup)
  keysNodup : (entries.map Prod.fst).Nodup

/-- The group of type `gtype` with `disk` appended; a log group of two disks or more is
mirrored "for safety". -/
def appendDisk (gtype disk : String) (entry : String × VdevGroup) : String × VdevGroup :=
  if entry.1 = gtype then
    (entry.1, ⟨if gtype = "log" then "log mirror" else entry.2.vdevtype, entry.2.disks ++ [disk]⟩)
  else entry

theorem keys_map_appendDisk (gtype disk : String) (entries : List (String × VdevGroup)) :
    (entries.map (appendDisk gtype disk)).map Prod.fst = entries.map Prod.fst := by
  simp only [List.map_map]
  exact List.map_congr_left fun entry _ => by
    by_cases keyed : entry.1 = gtype <;> simp [appendDisk, keyed]

/-- One `zpool_<disk>` field with type `gtype` added to `grouped`. -/
def addZpoolField (grouped : GroupedDict) (gtype disk : String) : GroupedDict :=
  if present : gtype ∈ grouped.entries.map Prod.fst then
    ⟨grouped.entries.map (appendDisk gtype disk), by
      rw [keys_map_appendDisk]
      exact grouped.keysNodup⟩
  else
    ⟨grouped.entries ++ [(gtype, ⟨gtype, [disk]⟩)], by
      rw [List.map_append]
      exact grouped.keysNodup.append (List.nodup_singleton _) (List.disjoint_singleton.mpr present)⟩

/-- The groups `done` builds: `root` from `volume_disks`, then one per type named by the
`zpool_<disk>` fields other than `none`. -/
def ZFSVolumeWizardForm.grouped (groupType : String) (disks : List String)
    (post : List (String × String)) : GroupedDict :=
  post.foldl (fun grouped item =>
    match zpoolField? item.1 with
    | some disk => if item.2 = "none" then grouped else addZpoolField grouped item.2 disk
    | none => grouped) ⟨[("root", ⟨groupType, disks⟩)], List.nodup_singleton _⟩

/-- `if len(disk_list) > 0 and add: zfs_volume_attach_group(volume, grouped['root'])`.
`disk_list` is the list object stored as `grouped['root']['disks']`, so its length also
counts the disks that `zpool_<disk>` fields of type `root` appended to it. -/
def ZFSVolumeWizardForm.attachRoot (fails : Nat → Bool) (volumeName : String)
    (grouped : List (String × VdevGroup)) : Py Unit :=
  match grouped.lookup "root" with
  | some root =>
      if 0 < root.disks.length then notify fails (.zfsVolumeAttachGroup volumeName root) else pure ()
  | none => pure ()

theorem ZFSVolumeWizardForm.attachRoot_quiet (fails : Nat → Bool) (volumeName : String)
    (grouped : List (String × VdevGroup)) : Quiet (ZFSVolumeWizardForm.attachRoot fails volumeName grouped) := by
  unfold ZFSVolumeWizardForm.attachRoot
  split
  · exact Quiet.ite (Quiet.notify fails _) (Quiet.pure ())
  · exact Quiet.pure ()

theorem ZFSVolumeWizardForm.attachRoot_returns (volumeName : String)
    (grouped : List (String × VdevGroup)) :
    Returns (ZFSVolumeWizardForm.attachRoot (fun _ => false) volumeName grouped) := by
  unfold ZFSVolumeWizardForm.attachRoot
  split
  · exact Returns.ite (Returns.notify _) (Returns.pure ())
  · exact Returns.pure ()

/-- The `try` block of `done` after the lookup. -/
def ZFSVolumeWizardForm.attachOrCreate (fails : Nat → Bool) (data : WizardData) : Py Unit :=
  fun s =>
    let groupType := if data.volumeDisks.length < 2 then "stripe" else data.groupType
    let grouped := (ZFSVolumeWizardForm.grouped groupType data.volumeDisks data.post).entries
    if s.frame.adding then
      (ZFSVolumeWizardForm.attachRoot fails data.volumeName grouped *>
        (grouped.filter (·.1 ∈ ["log", "cache", "spare"])).forM fun entry =>
          notify fails (.zfsVolumeAttachGroup data.volumeName entry.2)) s
    else
      (notify fails (.createVolume data.volumeName (grouped.map (·.2)) data.encini) *>
        (if data.dedup ≠ "" then notify fails (.zfsSetOption data.volumeName "dedup" data.dedup)
          else pure ()) *>
        createScrub fails *>
        tryCatch (notify fails (.zpoolEnclosureSync data.volumeName)) fun _ => pure ()) s

theorem ZFSVolumeWizardForm.attachOrCreate_raisesQuietly (fails : Nat → Bool) (data : WizardData) :
    RaisesQuietly (ZFSVolumeWizardForm.attachOrCreate fails data) := by
  intro s e s' run
  unfold ZFSVolumeWizardForm.attachOrCreate at run
  by_cases adding : s.frame.adding <;> simp only [adding, if_true, Bool.false_eq_true, if_false] at run
  · exact (Quiet.seqRight (ZFSVolumeWizardForm.attachRoot_quiet fails _ _)
      (Quiet.forM fun _ _ => Quiet.notify fails _)).error s e s' run
  · exact RaisesQuietly.seqRight_of_never (RaisesQuietly.seqRight (Quiet.seqRight
      (Quiet.notify fails _) (Quiet.ite (Quiet.notify fails _) (Quiet.pure ())))
      (RaisesQuietly.createScrub fails)) (fun _ _ _ => tryCatch_ignore_ne_error) s e s' run

/-- `vols.count() == 1` decides whether the wizard extends. -/
def onlyVolume : List Volume → Option Volume
  | [volume] => some volume
  | _ => none

def ZFSVolumeWizardForm.doneTry (fails : Nat → Bool) (data : WizardData) : Py Unit :=
  lookupVolume fails data.volumeName (if data.enc then 1 else 0) onlyVolume *>
    ZFSVolumeWizardForm.attachOrCreate fails data

/-- The `except` branch of `done`: `if volume: volume.delete(...)`, then
`if scrub: scrub.delete()`. -/
def ZFSVolumeWizardForm.doneHandler : Py Unit := fun s =>
  ((match s.frame.volume with
    | some volume => deleteVolumeObj volume
    | none => pure ()) *>
    match s.frame.scrub with
    | some scrub => deleteScrubRow scrub
    | none => pure ()) s

def ZFSVolumeWizardForm.doneGuarded (fails : Nat → Bool) (data : WizardData) : Py Unit :=
  tryCatch (ZFSVolumeWizardForm.doneTry fails data) fun error =>
    ZFSVolumeWizardForm.doneHandler *> throw error

/-- `ZFSVolumeWizardForm.done` up to the wizard's own `done`. -/
def ZFSVolumeWizardForm.done (fails : Nat → Bool) (data : WizardData) : Py Unit :=
  setFrame ⟨none, none, none⟩ *> ZFSVolumeWizardForm.doneGuarded fails data *>
    notify fails (.reload "disk") *> notify fails (.restart "cron")

end FreeNAS.Storage
