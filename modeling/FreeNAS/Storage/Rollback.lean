import FreeNAS.Storage.VolumeManager

/-!
# What a raise inside the `try` block of `save` and `done` leaves behind

Both forms enter their `try` block with `volume = scrub = None`.  The block raises in the
lookup (before `add` is bound, or with the new instance unsaved), or later, after the
lookup found the volume to extend or inserted the new volume's row: every ORM and
notifier call after the lookup changes no row until the scrub row is created, and that is
the block's last call.  `CreateRaised` and `ExtendRaised` name these states.

The `except` branch of `save` deletes the volume only when it created it (`not add`), so
every raise leaves the `Volume` and `Scrub` rows as they were.  The branch of `done`
deletes `volume` whenever it is set: a raise while extending the only volume of the
name deletes that volume's row, and through its foreign key its scrub rows.
-/

namespace FreeNAS.Storage

/-- The states a `try` block creating a volume can raise in: nothing done yet, the new
instance not saved, or the new volume's row inserted and held by the frame. -/
def CreateRaised (db : Db) (name : String) (volEncrypt : Nat) (s : PyState) : Prop :=
  s.db = db ∧
      (s.frame = ⟨none, none, none⟩ ∨ s.frame = ⟨some ⟨none, name, volEncrypt⟩, none, some false⟩) ∨
    s.db = db.insertVolume name volEncrypt ∧
      s.frame = ⟨some ⟨some db.nextVolumePk, name, volEncrypt⟩, none, some false⟩

/-- The state a `try` block extending `volume` raises in: no row touched. -/
def ExtendRaised (db : Db) (volume : Volume) (s : PyState) : Prop :=
  s.db = db ∧ s.frame = ⟨some volume.toObj, none, some true⟩

variable {fails : Nat → Bool} {s s' : PyState} {e : PyError}

theorem lookupThen_raised {name : String} {volEncrypt : Nat} {existing : List Volume → Option Volume}
    {rest : Py Unit} (quiet : RaisesQuietly rest) (start : s.frame = ⟨none, none, none⟩)
    (run : (lookupVolume fails name volEncrypt existing *> rest) s = .error e s') :
    CreateRaised s.db name volEncrypt s' ∨
      ∃ volume, existing (s.db.volumesNamed name) = some volume ∧ ExtendRaised s.db volume s' := by
  rcases seqRight_eq_error.mp run with raised | ⟨_, s₁, looked, raised⟩
  · obtain ⟨db, frame | frame⟩ := lookupVolume_eq_error raised <;> rw [start] at frame
    · exact .inl (.inl ⟨db, .inl frame⟩)
    · exact .inl (.inl ⟨db, .inr frame⟩)
  · obtain ⟨db, frame⟩ := quiet s₁ e s' raised
    rcases lookupVolume_eq_ok looked with ⟨volume, found, db₁, frame₁⟩ | ⟨-, db₁, frame₁⟩
    · exact .inr ⟨volume, found, db.trans db₁, by rw [frame, frame₁, start]⟩
    · exact .inl (.inr ⟨db.trans db₁, by rw [frame, frame₁, start]⟩)

section Handlers

variable {db : Db} {name : String} {volEncrypt : Nat}

theorem saveHandler_restores (wf : db.WellFormed)
    (raised : CreateRaised db name volEncrypt s ∨ ∃ volume, ExtendRaised db volume s) :
    (resultState (VolumeManagerForm.saveHandler s)).db.volumes = db.volumes ∧
      (resultState (VolumeManagerForm.saveHandler s)).db.scrubs = db.scrubs := by
  rcases raised with (⟨rfl, frame | frame⟩ | ⟨inserted, frame⟩) | ⟨volume, rfl, frame⟩ <;>
    simp only [VolumeManagerForm.saveHandler, frame]
  · exact ⟨rfl, rfl⟩
  · exact ⟨rfl, rfl⟩
  · simp [SeqRight.seqRight, EStateM.seqRight, deleteVolumeObj, resultState, inserted]
    exact Db.deleteVolume_insertVolume wf name volEncrypt
  · exact ⟨rfl, rfl⟩

theorem doneHandler_restores (wf : db.WellFormed) (raised : CreateRaised db name volEncrypt s) :
    (resultState (ZFSVolumeWizardForm.doneHandler s)).db.volumes = db.volumes ∧
      (resultState (ZFSVolumeWizardForm.doneHandler s)).db.scrubs = db.scrubs := by
  rcases raised with ⟨rfl, frame | frame⟩ | ⟨inserted, frame⟩ <;>
    simp [ZFSVolumeWizardForm.doneHandler, frame, SeqRight.seqRight, EStateM.seqRight,
      deleteVolumeObj, resultState, pure, EStateM.pure]
  simp only [inserted]
  exact Db.deleteVolume_insertVolume wf name volEncrypt

/-- The handler of `done` deletes the volume an extending block found. -/
theorem doneHandler_of_extendRaised {volume : Volume} (raised : ExtendRaised db volume s) :
    (resultState (ZFSVolumeWizardForm.doneHandler s)).db = db.deleteVolume volume.pk := by
  obtain ⟨rfl, frame⟩ := raised
  simp [ZFSVolumeWizardForm.doneHandler, frame, SeqRight.seqRight, EStateM.seqRight,
    deleteVolumeObj, Volume.toObj, resultState, pure, EStateM.pure]

end Handlers

/-- A raise in the `try` block of `save` leaves the `Volume` and `Scrub` rows as they were,
whether the form creates or extends the volume and at whichever call the block raises. -/
theorem saveGuarded_raise_restores_rows {data : VolumeManagerData} (wf : s.db.WellFormed)
    (run : (setFrame ⟨none, none, none⟩ *> VolumeManagerForm.saveGuarded fails data) s = .error e s') :
    s'.db.volumes = s.db.volumes ∧ s'.db.scrubs = s.db.scrubs := by
  rw [setFrame_seqRight] at run
  obtain ⟨e₁, s₁, raised, handled⟩ := tryCatch_eq_error.mp run
  have raisedAt :=
    lookupThen_raised (VolumeManagerForm.attachOrCreate_raisesQuietly fails data) (by rfl) raised
  rw [rethrow_state handled]
  exact saveHandler_restores wf (raisedAt.imp_right fun ⟨volume, _, extending⟩ => ⟨volume, extending⟩)

/-- Creating `tank` beside `data`, the scrub row's creation raises: the new row goes again. -/
theorem saveGuarded_raise_restores_rows_at_scrub :
    ∃ s', (setFrame ⟨none, none, none⟩ *>
        VolumeManagerForm.saveGuarded (· == 3) ⟨"tank", false, false, "", [some ⟨"mirror", ["ada1", "ada2"]⟩]⟩)
          ⟨⟨[⟨0, "data", 0⟩], [⟨0, 0⟩], 1, 1⟩, ⟨none, none, none⟩, 0, []⟩ = .error (.raised 3) s' ∧
      s'.db.volumes = [⟨0, "data", 0⟩] ∧ s'.db.scrubs = [⟨0, 0⟩] :=
  ⟨_, rfl, @saveGuarded_raise_restores_rows (· == 3)
    ⟨⟨[⟨0, "data", 0⟩], [⟨0, 0⟩], 1, 1⟩, ⟨none, none, none⟩, 0, []⟩ _ _
    ⟨"tank", false, false, "", [some ⟨"mirror", ["ada1", "ada2"]⟩]⟩ ⟨by decide, by decide, by decide⟩ rfl⟩

/-- When `done` creates a volume (the name does not name exactly one), a raise in its `try`
block leaves the `Volume` and `Scrub` rows as they were. -/
theorem doneGuarded_create_raise_restores_rows {data : WizardData} (wf : s.db.WellFormed)
    (creating : onlyVolume (s.db.volumesNamed data.volumeName) = none)
    (run : (setFrame ⟨none, none, none⟩ *> ZFSVolumeWizardForm.doneGuarded fails data) s = .error e s') :
    s'.db.volumes = s.db.volumes ∧ s'.db.scrubs = s.db.scrubs := by
  rw [setFrame_seqRight] at run
  obtain ⟨e₁, s₁, raised, handled⟩ := tryCatch_eq_error.mp run
  rw [rethrow_state handled]
  rcases lookupThen_raised (ZFSVolumeWizardForm.attachOrCreate_raisesQuietly fails data) (by rfl) raised
    with raisedAt | ⟨volume, found, -⟩
  · exact doneHandler_restores wf raisedAt
  · simp [creating] at found

theorem doneGuarded_create_raise_restores_rows_at_create :
    ∃ s', (setFrame ⟨none, none, none⟩ *>
        ZFSVolumeWizardForm.doneGuarded (· == 2) ⟨"tank", ["ada1", "ada2"], "mirror", "", false, false, []⟩)
          ⟨⟨[⟨0, "data", 0⟩], [⟨0, 0⟩], 1, 1⟩, ⟨none, none, none⟩, 0, []⟩ = .error (.raised 2) s' ∧
      s'.db.volumes = [⟨0, "data", 0⟩] ∧ s'.db.scrubs = [⟨0, 0⟩] :=
  ⟨_, rfl, @doneGuarded_create_raise_restores_rows (· == 2)
    ⟨⟨[⟨0, "data", 0⟩], [⟨0, 0⟩], 1, 1⟩, ⟨none, none, none⟩, 0, []⟩ _ _
    ⟨"tank", ["ada1", "ada2"], "mirror", "", false, false, []⟩ ⟨by decide, by decide, by decide⟩ rfl rfl⟩

/-- When `done` extends the only volume of the name and a call after the lookup raises, its
handler deletes that volume's row, and with it the volume's scrub rows. -/
theorem doneGuarded_extension_raise_deletes_volume {data : WizardData} {volume : Volume}
    (only : s.db.volumesNamed data.volumeName = [volume]) (filtered : fails s.attempts = false)
    (run : (setFrame ⟨none, none, none⟩ *> ZFSVolumeWizardForm.doneGuarded fails data) s = .error e s') :
    s'.db = s.db.deleteVolume volume.pk := by
  rw [setFrame_seqRight] at run
  obtain ⟨e₁, s₁, raised, handled⟩ := tryCatch_eq_error.mp run
  have found : lookupVolume fails data.volumeName (if data.enc then 1 else 0) onlyVolume
      { s with frame := ⟨none, none, none⟩ } = _ :=
    lookupVolume_of_found filtered (show onlyVolume _ = some volume by rw [only]; rfl)
  rcases seqRight_eq_error.mp raised with raised | ⟨_, s₂, looked, raised⟩
  · rw [found] at raised
    cases raised
  rw [found] at looked
  cases looked
  obtain ⟨db, frame⟩ := ZFSVolumeWizardForm.attachOrCreate_raisesQuietly fails data _ e₁ s₁ raised
  rw [rethrow_state handled]
  exact doneHandler_of_extendRaised ⟨db, frame⟩

theorem doneGuarded_extension_raise_deletes_volume_at_attach :
    ∃ s', (setFrame ⟨none, none, none⟩ *>
        ZFSVolumeWizardForm.doneGuarded (· == 1) ⟨"tank", ["ada1", "ada2"], "mirror", "", false, false, []⟩)
          ⟨⟨[⟨0, "tank", 0⟩], [⟨0, 0⟩], 1, 1⟩, ⟨none, none, none⟩, 0, []⟩ = .error (.raised 1) s' ∧
      s'.db = ⟨[], [], 1, 1⟩ :=
  ⟨_, rfl, @doneGuarded_extension_raise_deletes_volume (· == 1)
    ⟨⟨[⟨0, "tank", 0⟩], [⟨0, 0⟩], 1, 1⟩, ⟨none, none, none⟩, 0, []⟩ _ _
    ⟨"tank", ["ada1", "ada2"], "mirror", "", false, false, []⟩ ⟨0, "tank", 0⟩ rfl rfl rfl⟩

/-- Extending `tank` with a mirror, the attach call raises: `done` has deleted the row of
`tank` and its scrub row, `save` has left both. -/
theorem done_extension_raise_deletes_row :
    ∃ s₁ s₂,
      ZFSVolumeWizardForm.done (· == 1) ⟨"tank", ["ada1", "ada2"], "mirror", "", false, false, []⟩
          ⟨⟨[⟨0, "tank", 0⟩], [⟨0, 0⟩], 1, 1⟩, ⟨none, none, none⟩, 0, []⟩ = .error (.raised 1) s₁ ∧
        VolumeManagerForm.save (· == 1) ⟨true, false, false⟩
          ⟨"tank", false, false, "", [some ⟨"mirror", ["ada1", "ada2"]⟩]⟩
          ⟨⟨[⟨0, "tank", 0⟩], [⟨0, 0⟩], 1, 1⟩, ⟨none, none, none⟩, 0, []⟩ = .error (.raised 1) s₂ ∧
        s₁.db.volumes = [] ∧ s₁.db.scrubs = [] ∧
        s₂.db.volumes = [⟨0, "tank", 0⟩] ∧ s₂.db.scrubs = [⟨0, 0⟩] :=
  ⟨_, _, rfl, rfl, rfl, rfl, rfl, rfl⟩

end FreeNAS.Storage
