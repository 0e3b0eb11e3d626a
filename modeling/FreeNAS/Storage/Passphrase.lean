import FreeNAS.Storage.VolumeManager

/-!
# The passphrase of an extended volume

A volume whose `vol_encrypt` is 2 or more has a geli passphrase.  When
`VolumeManagerForm.save` adds providers to such a volume it drops the passphrase
(`geli_passphrase(volume, None)`, flagged `FIXME` in the source) and writes
`vol_encrypt = 1` back to the row.  `ZFSVolumeWizardForm.done` extends a volume with the
same notifier calls and has no such step, so the row keeps its value.

The runs below are those in which no ORM or notifier call raises (the oracle
`fun _ => false`); the theorems say that each run returns and what it leaves in the
`Volume` table.
-/

namespace FreeNAS.Storage

variable {s : PyState}

theorem VolumeManagerForm.attachOrCreate_of_adding (data : VolumeManagerData)
    (adding : s.frame.adding) :
    ∃ s', VolumeManagerForm.attachOrCreate (fun _ => false) data s = .ok () s' ∧
      s'.db = s.db ∧ s'.frame = s.frame := by
  unfold VolumeManagerForm.attachOrCreate
  rw [if_pos adding]
  obtain ⟨⟨⟩, s', run, db, frame⟩ := Returns.forM (fun _ _ => Returns.notify _) s
  exact ⟨s', run, db, frame⟩

theorem ZFSVolumeWizardForm.attachOrCreate_of_adding (data : WizardData) (adding : s.frame.adding) :
    ∃ s', ZFSVolumeWizardForm.attachOrCreate (fun _ => false) data s = .ok () s' ∧
      s'.db = s.db ∧ s'.frame = s.frame := by
  unfold ZFSVolumeWizardForm.attachOrCreate
  dsimp only
  rw [if_pos adding]
  obtain ⟨⟨⟩, s', run, db, frame⟩ := Returns.seqRight (ZFSVolumeWizardForm.attachRoot_returns _ _)
    (Returns.forM fun _ _ => Returns.notify _) s
  exact ⟨s', run, db, frame⟩

theorem VolumeManagerForm.syncServices_returns (env : SaveEnv) (data : VolumeManagerData)
    (volume : VolumeObj) (adding : Bool) :
    Returns (VolumeManagerForm.syncServices (fun _ => false) env data volume adding) := by
  unfold VolumeManagerForm.syncServices
  refine .seqRight (.seqRight (.seqRight (.seqRight (.seqRight ?_ (.notify _)) ?_) (.notify _))
    .external) (.ite (.notify _) (.pure ()))
  · exact .ite (.seqRight .external (.ite (.pure ()) (.seqRight .external
      (.ite (.notify _) (.pure ()))))) (.pure ())
  · exact .ite (.pure ()) (.seqRight (.notify _) (.notify _))

theorem saveGuarded_of_found {data : VolumeManagerData} {volume : Volume} {others : List Volume}
    (found : s.db.volumesNamed data.volumeName = volume :: others) :
    ∃ s', (setFrame ⟨none, none, none⟩ *> VolumeManagerForm.saveGuarded (fun _ => false) data) s =
        .ok () s' ∧ s'.db = s.db ∧ s'.frame = ⟨some volume.toObj, none, some true⟩ := by
  obtain ⟨s₁, looked, db₁, frame₁⟩ : ∃ s₁, lookupVolume (fun _ => false) data.volumeName
      (if data.encryption then 1 else 0) List.head? { s with frame := ⟨none, none, none⟩ } = .ok () s₁ ∧
        s₁.db = s.db ∧ s₁.frame = ⟨some volume.toObj, none, some true⟩ :=
    ⟨_, lookupVolume_of_found rfl (show List.head? _ = some volume by rw [found]; rfl), rfl, rfl⟩
  obtain ⟨s', attached, db, frame⟩ :=
    VolumeManagerForm.attachOrCreate_of_adding data (show s₁.frame.adding by rw [frame₁]; rfl)
  exact ⟨s', tryCatch_of_ok (seqRight_eq_ok.mpr ⟨(), _, looked, attached⟩), db.trans db₁,
    frame.trans frame₁⟩

/-- Extending a volume with a passphrase, `save` drops it and writes `vol_encrypt = 1`
back to the volume's row. -/
theorem clearPassphrase_of_extending {volume : Volume} (encrypted : 2 ≤ volume.volEncrypt) :
    ∃ s', VolumeManagerForm.clearPassphrase (fun _ => false) volume.toObj true s = .ok () s' ∧
      s'.db = s.db.updateVolume ⟨volume.pk, volume.volName, 1⟩ := by
  unfold VolumeManagerForm.clearPassphrase
  rw [if_pos ⟨encrypted, rfl⟩]
  obtain ⟨⟨⟩, s₁, notified, db₁, frame₁⟩ := Returns.notify (.geliPassphrase volume.volName) s
  have assigned : (notify (fun _ => false) (.geliPassphrase volume.volName) *>
      setVolume { volume.toObj with volEncrypt := 1 }) s =
        .ok () { s₁ with frame := { s₁.frame with volume := some { volume.toObj with volEncrypt := 1 } } } :=
    seqRight_eq_ok.mpr ⟨(), s₁, notified, rfl⟩
  exact ⟨_, seqRight_eq_ok.mpr ⟨(), _, assigned, saveVolume_of_saved rfl⟩, by rw [← db₁]; rfl⟩

theorem saveAfter_of_extending (env : SaveEnv) (data : VolumeManagerData) {volume : Volume}
    (encrypted : 2 ≤ volume.volEncrypt) (frame : s.frame = ⟨some volume.toObj, none, some true⟩) :
    ∃ s', VolumeManagerForm.saveAfter (fun _ => false) env data s = .ok () s' ∧
      s'.db = s.db.updateVolume ⟨volume.pk, volume.volName, 1⟩ := by
  obtain ⟨s₁, cleared, db₁⟩ := @clearPassphrase_of_extending s volume encrypted
  obtain ⟨⟨⟩, s', run, db, -⟩ :=
    seqRight_eq_ok_of_returns cleared (VolumeManagerForm.syncServices_returns env data volume.toObj true)
  refine ⟨s', ?_, db.trans db₁⟩
  simp only [VolumeManagerForm.saveAfter, frame]
  exact run

theorem doneGuarded_of_found {data : WizardData} {volume : Volume}
    (only : s.db.volumesNamed data.volumeName = [volume]) :
    ∃ s', (setFrame ⟨none, none, none⟩ *> ZFSVolumeWizardForm.doneGuarded (fun _ => false) data) s =
        .ok () s' ∧ s'.db = s.db ∧ s'.frame = ⟨some volume.toObj, none, some true⟩ := by
  obtain ⟨s₁, looked, db₁, frame₁⟩ : ∃ s₁, lookupVolume (fun _ => false) data.volumeName
      (if data.enc then 1 else 0) onlyVolume { s with frame := ⟨none, none, none⟩ } = .ok () s₁ ∧
        s₁.db = s.db ∧ s₁.frame = ⟨some volume.toObj, none, some true⟩ :=
    ⟨_, lookupVolume_of_found rfl (show onlyVolume _ = some volume by rw [only]; rfl), rfl, rfl⟩
  obtain ⟨s', attached, db, frame⟩ :=
    ZFSVolumeWizardForm.attachOrCreate_of_adding data (show s₁.frame.adding by rw [frame₁]; rfl)
  exact ⟨s', tryCatch_of_ok (seqRight_eq_ok.mpr ⟨(), _, looked, attached⟩), db.trans db₁,
    frame.trans frame₁⟩

/-- When no call raises, `save` extending the first volume of the name whose `vol_encrypt`
is 2 or more returns, having written `vol_encrypt = 1` to that volume's row and changed
no other row. -/
theorem save_extension_clears_passphrase (env : SaveEnv) (data : VolumeManagerData)
    {volume : Volume} {others : List Volume}
    (found : s.db.volumesNamed data.volumeName = volume :: others) (encrypted : 2 ≤ volume.volEncrypt) :
    ∃ s', VolumeManagerForm.save (fun _ => false) env data s = .ok () s' ∧
      s'.db = s.db.updateVolume ⟨volume.pk, volume.volName, 1⟩ := by
  obtain ⟨s₁, guarded, db₁, frame₁⟩ := saveGuarded_of_found found
  obtain ⟨s', after, db⟩ := saveAfter_of_extending env data encrypted frame₁
  exact ⟨s', seqRight_eq_ok.mpr ⟨(), s₁, guarded, after⟩, by rw [db, db₁]⟩

theorem save_extension_clears_passphrase_of_tank :
    ∃ s', VolumeManagerForm.save (fun _ => false) ⟨true, false, false⟩
        ⟨"tank", false, false, "", [some ⟨"mirror", ["ada1", "ada2"]⟩]⟩
        ⟨⟨[⟨0, "tank", 2⟩], [⟨0, 0⟩], 1, 1⟩, ⟨none, none, none⟩, 0, []⟩ = .ok () s' ∧
      s'.db = (⟨[⟨0, "tank", 2⟩], [⟨0, 0⟩], 1, 1⟩ : Db).updateVolume ⟨0, "tank", 1⟩ :=
  @save_extension_clears_passphrase ⟨⟨[⟨0, "tank", 2⟩], [⟨0, 0⟩], 1, 1⟩, ⟨none, none, none⟩, 0, []⟩
    ⟨true, false, false⟩ ⟨"tank", false, false, "", [some ⟨"mirror", ["ada1", "ada2"]⟩]⟩
    ⟨0, "tank", 2⟩ [] rfl (by decide)

/-- When no call raises, `done` extending the only volume of the name returns and leaves
every row as it was, `vol_encrypt` included. -/
theorem done_extension_keeps_rows (data : WizardData) {volume : Volume}
    (only : s.db.volumesNamed data.volumeName = [volume]) :
    ∃ s', ZFSVolumeWizardForm.done (fun _ => false) data s = .ok () s' ∧ s'.db = s.db := by
  obtain ⟨s₁, guarded, db₁, -⟩ := doneGuarded_of_found only
  obtain ⟨⟨⟩, s₂, reloaded, db₂, -⟩ := seqRight_eq_ok_of_returns guarded (Returns.notify (.reload "disk"))
  obtain ⟨⟨⟩, s', run, db, -⟩ := seqRight_eq_ok_of_returns reloaded (Returns.notify (.restart "cron"))
  exact ⟨s', run, by rw [db, db₂, db₁]⟩

theorem done_extension_keeps_rows_of_tank :
    ∃ s', ZFSVolumeWizardForm.done (fun _ => false)
        ⟨"tank", ["ada1", "ada2"], "mirror", "", false, false, []⟩
        ⟨⟨[⟨0, "tank", 2⟩], [⟨0, 0⟩], 1, 1⟩, ⟨none, none, none⟩, 0, []⟩ = .ok () s' ∧
      s'.db = ⟨[⟨0, "tank", 2⟩], [⟨0, 0⟩], 1, 1⟩ :=
  @done_extension_keeps_rows ⟨⟨[⟨0, "tank", 2⟩], [⟨0, 0⟩], 1, 1⟩, ⟨none, none, none⟩, 0, []⟩
    ⟨"tank", ["ada1", "ada2"], "mirror", "", false, false, []⟩ ⟨0, "tank", 2⟩ rfl

/-- Extending `tank`, whose passphrase is set, by a mirror: `save` leaves its row with
`vol_encrypt = 1`, `done` with 2. -/
theorem save_and_done_extension_vol_encrypt :
    ∃ s₁ s₂,
      VolumeManagerForm.save (fun _ => false) ⟨true, false, false⟩
          ⟨"tank", false, false, "", [some ⟨"mirror", ["ada1", "ada2"]⟩]⟩
          ⟨⟨[⟨0, "tank", 2⟩], [⟨0, 0⟩], 1, 1⟩, ⟨none, none, none⟩, 0, []⟩ = .ok () s₁ ∧
        ZFSVolumeWizardForm.done (fun _ => false) ⟨"tank", ["ada1", "ada2"], "mirror", "", false, false, []⟩
          ⟨⟨[⟨0, "tank", 2⟩], [⟨0, 0⟩], 1, 1⟩, ⟨none, none, none⟩, 0, []⟩ = .ok () s₂ ∧
        s₁.db.volumes = [⟨0, "tank", 1⟩] ∧ s₂.db.volumes = [⟨0, "tank", 2⟩] :=
  ⟨_, _, rfl, rfl, rfl, rfl⟩

end FreeNAS.Storage
