import Mintarr.Evidence.Scan

/-!
# When a fresh verdict is about the file on disk

A verdict that passes its freshness check should have been probed on the file that
is on disk.  The check compares the disk with the row's one size and mtime, so it
stands for the probed file only as long as every write that sets size and mtime, or
a sensor version, keeps them in step with the probe.  `Grounded` says that they are
in step; `KeepsGrounded` is the condition on a write.
-/

namespace Mintarr.Evidence

open Lib

namespace Row

/-- The row carries a current integrity stamp. -/
def integrityStamped (row : Row) : Bool :=
  row.integritySensorVersion = some Evidence.integritySensorVersion

/-- The row carries a current spectral verdict. -/
def spectralStamped (row : Row) : Bool :=
  row.spectralStatus = some "measured" &&
    row.spectralSensorVersion = some Evidence.spectralSensorVersion

/-- The file the row's size and mtime describe. -/
def fileId (row : Row) : Option FileId :=
  row.size.bind fun size => row.mtime.map fun mtime => ⟨size, mtime⟩

/-- A row that matches the disk describes the file on disk. -/
theorem fileId_of_matchesDisk {library : Library} {row : Row}
    (matched : library.matchesDisk row = true) :
    ∃ path file, row.path = some path ∧ library.file path = some file ∧
      row.fileId = some file := by
  rcases Library.matchesDisk_iff.mp matched with ⟨path, file, rowPath, _, found, size, mtime⟩
  exact ⟨path, file, rowPath, found, by simp [fileId, size, mtime]⟩

end Row

/-! ## What the four writes do to the stamps -/

section Writes

variable (row : Row)

@[simp] theorem fileId_upsertLibraryMetadata (write : TrackWrite) :
    (upsertLibraryMetadata write row).fileId = write.stat := by
  cases stat : write.stat <;> simp [upsertLibraryMetadata, TrackWrite.metadata, Row.fileId, stat]

@[simp] theorem integrityStamped_upsertLibraryMetadata (write : TrackWrite) :
    (upsertLibraryMetadata write row).integrityStamped = row.integrityStamped := rfl

@[simp] theorem spectralStamped_upsertLibraryMetadata (write : TrackWrite) :
    (upsertLibraryMetadata write row).spectralStamped = row.spectralStamped := rfl

@[simp] theorem fileId_upsertLibraryEvidence (write : TrackWrite) :
    (upsertLibraryEvidence write row).fileId = write.stat :=
  fileId_upsertLibraryMetadata row write

@[simp] theorem spectralStamped_upsertLibraryEvidence (write : TrackWrite) :
    (upsertLibraryEvidence write row).spectralStamped = row.spectralStamped := rfl

@[simp] theorem fileId_updateLibraryIntegrity (albumId : Option Int)
    (measurement : IntegrityMeasurement) :
    (updateLibraryIntegrity albumId measurement row).fileId = row.fileId := rfl

@[simp] theorem spectralStamped_updateLibraryIntegrity (albumId : Option Int)
    (measurement : IntegrityMeasurement) :
    (updateLibraryIntegrity albumId measurement row).spectralStamped =
      row.spectralStamped := rfl

@[simp] theorem fileId_updateLibrarySpectral (measurement : SpectralMeasurement) :
    (updateLibrarySpectral measurement row).fileId = row.fileId := rfl

@[simp] theorem integrityStamped_updateLibrarySpectral (measurement : SpectralMeasurement) :
    (updateLibrarySpectral measurement row).integrityStamped = row.integrityStamped := rfl

/-- A spectral write stamps a verdict only when the probe completed. -/
theorem spectralStamped_updateLibrarySpectral (measurement : SpectralMeasurement) :
    (updateLibrarySpectral measurement row).spectralStamped = true ↔
      measurement.status = "measured" := by
  simp [updateLibrarySpectral, Row.spectralStamped]

end Writes

namespace Index

/-- Per-tier freshness is sound: a fresh verdict was probed on the file on disk. -/
structure Sound (index : Index) : Prop where
  integrity : ∀ row ∈ index.row, index.library.isIntegrityRowFresh row = true →
    ∃ path file, row.path = some path ∧ index.library.file path = some file ∧
      index.integritySource = some file
  spectral : ∀ row ∈ index.row, index.library.isSpectralRowFresh row = true →
    ∃ path file, row.path = some path ∧ index.library.file path = some file ∧
      index.spectralSource = some file

/-- The stamped verdicts were probed on the file the row's size and mtime describe. -/
structure Grounded (index : Index) : Prop where
  integrity : ∀ row ∈ index.row, row.integrityStamped = true →
    ∀ file ∈ row.fileId, index.integritySource = some file
  spectral : ∀ row ∈ index.row, row.spectralStamped = true →
    ∀ file ∈ row.fileId, index.spectralSource = some file

/-- Freshness compares the disk with the row's size and mtime. -/
theorem Grounded.sound {index : Index} (grounded : index.Grounded) : index.Sound := by
  constructor
  · intro row stored fresh
    simp only [Library.isIntegrityRowFresh, Bool.and_eq_true, decide_eq_true_eq] at fresh
    rcases fresh with ⟨⟨_, stamped⟩, matched⟩
    rcases Row.fileId_of_matchesDisk matched with ⟨path, file, rowPath, found, described⟩
    have source := grounded.integrity row stored (by simpa [Row.integrityStamped] using stamped)
      file described
    exact ⟨path, file, rowPath, found, source⟩
  · intro row stored fresh
    simp only [Library.isSpectralRowFresh, Bool.and_eq_true, decide_eq_true_eq] at fresh
    rcases fresh with ⟨⟨⟨_, measured⟩, stamped⟩, matched⟩
    rcases Row.fileId_of_matchesDisk matched with ⟨path, file, rowPath, found, described⟩
    have source := grounded.spectral row stored
      (by simpa [Row.spectralStamped] using ⟨measured, stamped⟩) file described
    exact ⟨path, file, rowPath, found, source⟩

/-- The condition on the write that ends a task.  A fused write comes from a
completed probe of the file it took `stat` of.  A fused or metadata write that keeps
a current stamp of another tier stores the size and mtime of the file that tier was
probed on.  An integrity or spectral write comes from a probe of the file the row
describes. -/
def KeepsGrounded (index : Index) : Task → Prop
  | .measured fused _ stat measurement probed =>
      ∀ found ∈ stat,
        (fused = true → measurement.status = "measured" ∧ probed = some found.2) ∧
        (fused = false → ∀ row ∈ index.row, row.integrityStamped = true →
          index.integritySource = some found.2) ∧
        ∀ row ∈ index.row, row.spectralStamped = true → index.spectralSource = some found.2
  | .integrityMeasured _ measurement probed =>
      measurement.status = "measured" → ∀ row ∈ index.row, ∀ file ∈ row.fileId,
        probed = some file
  | .spectralMeasured _ measurement probed =>
      measurement.status = "measured" → ∀ row ∈ index.row, ∀ file ∈ row.fileId,
        probed = some file
  | _ => True

/-- The step, if it writes, keeps the row in step with the probes. -/
def WritesInStep (index : Index) : Action → Prop
  | .advance position answers =>
      answers.stored = true → ∀ task ∈ index.tasks[position]?, index.KeepsGrounded task
  | _ => True

instance (index : Index) : (task : Task) → Decidable (index.KeepsGrounded task)
  | .measured .. => by unfold KeepsGrounded; infer_instance
  | .integrityMeasured .. => by unfold KeepsGrounded; infer_instance
  | .spectralMeasured .. => by unfold KeepsGrounded; infer_instance
  | .statted .. | .probing .. | .checked .. | .heavyProbing .. => isTrue trivial

instance (index : Index) : (action : Action) → Decidable (index.WritesInStep action)
  | .advance .. => by unfold WritesInStep; infer_instance
  | .replace .. | .begin .. | .beginHeavy .. | .recordSpectral .. => isTrue trivial

section Steps

variable {trackfile : Trackfile} {index : Index}

/-- The row a write goes to is the stored one if it has what no new row has. -/
theorem stored_of_getD (property : Row → Prop) {fresh : Row}
    (holds : property (index.row.getD fresh)) (lacks : ¬property fresh) :
    index.row.getD fresh ∈ index.row := by
  cases present : index.row with
  | none => exact absurd (by simpa [present] using holds) lacks
  | some row => rfl

/-- An index whose row is known is grounded when that row is. -/
theorem grounded_of_row {row : Row} (stored : index.row = some row)
    (integrity : row.integrityStamped = true →
      ∀ file ∈ row.fileId, index.integritySource = some file)
    (spectral : row.spectralStamped = true →
      ∀ file ∈ row.fileId, index.spectralSource = some file) : index.Grounded := by
  constructor
  · intro other found
    cases stored.symm.trans found
    exact integrity
  · intro other found
    cases stored.symm.trans found
    exact spectral

/-- A fused or metadata write under the condition. -/
theorem grounded_writeTrack {fused : Bool} {albumId : Option Int}
    {stat : Option (String × FileId)} {measurement : TrackMeasurement} {probed : Option FileId}
    (keeps : index.KeepsGrounded (.measured fused albumId stat measurement probed)) :
    (index.writeTrack trackfile fused albumId stat measurement probed).Grounded := by
  have spectral : (index.row.getD { trackfileId := trackfile.id }).spectralStamped = true →
      ∀ file ∈ stat.map Prod.snd, index.spectralSource = some file := by
    intro stamped file described
    rcases Option.map_eq_some_iff.mp described with ⟨found, statted, rfl⟩
    have stored := stored_of_getD (Row.spectralStamped · = true) stamped
      (by simp [Row.spectralStamped])
    exact (keeps found statted).2.2 _ stored stamped
  cases fused with
  | true =>
      refine grounded_of_row (by rfl) ?integrity ?spectral
      case integrity =>
        intro _ file described
        rw [fileId_upsertLibraryEvidence] at described
        rcases Option.map_eq_some_iff.mp described with ⟨found, statted, rfl⟩
        rcases (keeps found statted).1 rfl with ⟨measured, source⟩
        simp [writeTrack, measured, source]
      case spectral =>
        intro stamped file described
        rw [spectralStamped_upsertLibraryEvidence] at stamped
        rw [fileId_upsertLibraryEvidence] at described
        exact spectral stamped file described
  | false =>
      refine grounded_of_row (by rfl) ?integrity ?spectral
      case integrity =>
        intro stamped file described
        rw [integrityStamped_upsertLibraryMetadata] at stamped
        rw [fileId_upsertLibraryMetadata] at described
        rcases Option.map_eq_some_iff.mp described with ⟨found, statted, rfl⟩
        have stored := stored_of_getD (Row.integrityStamped · = true) stamped
          (by simp [Row.integrityStamped])
        exact (keeps found statted).2.1 rfl _ stored stamped
      case spectral =>
        intro stamped file described
        rw [spectralStamped_upsertLibraryMetadata] at stamped
        rw [fileId_upsertLibraryMetadata] at described
        exact spectral stamped file described

/-- An integrity write under the condition. -/
theorem grounded_writeIntegrity (grounded : index.Grounded) {albumId : Option Int}
    {measurement : IntegrityMeasurement} {probed : Option FileId}
    (measured : measurement.status = "measured")
    (keeps : index.KeepsGrounded (.integrityMeasured albumId measurement probed)) :
    (index.writeIntegrity trackfile albumId measurement probed).Grounded := by
  refine grounded_of_row (by rfl) ?integrity ?spectral
  case integrity =>
    intro _ file described
    rw [fileId_updateLibraryIntegrity] at described
    have stored := stored_of_getD (file ∈ Row.fileId ·) described (by simp [Row.fileId])
    exact keeps measured _ stored file described
  case spectral =>
    intro stamped file described
    rw [spectralStamped_updateLibraryIntegrity] at stamped
    rw [fileId_updateLibraryIntegrity] at described
    have stored := stored_of_getD (Row.spectralStamped · = true) stamped
      (by simp [Row.spectralStamped])
    exact grounded.spectral _ stored stamped file described

/-- A spectral write under the condition. -/
theorem grounded_writeSpectral (grounded : index.Grounded) {albumId : Option Int}
    {measurement : SpectralMeasurement} {probed : Option FileId}
    (keeps : index.KeepsGrounded (.spectralMeasured albumId measurement probed)) :
    (index.writeSpectral trackfile albumId measurement probed).Grounded := by
  refine grounded_of_row (by rfl) ?integrity ?spectral
  case integrity =>
    intro stamped file described
    rw [integrityStamped_updateLibrarySpectral] at stamped
    rw [fileId_updateLibrarySpectral] at described
    have stored := stored_of_getD (Row.integrityStamped · = true) stamped
      (by simp [Row.integrityStamped])
    exact grounded.integrity _ stored stamped file described
  case spectral =>
    intro stamped file described
    rw [spectralStamped_updateLibrarySpectral] at stamped
    rw [fileId_updateLibrarySpectral] at described
    have stored := stored_of_getD (file ∈ Row.fileId ·) described (by simp [Row.fileId])
    have source := keeps stamped _ stored file described
    simp [writeSpectral, stamped, source]

/-- Groundedness does not depend on the library or the scans in flight. -/
theorem Grounded.congr {other : Index} (grounded : index.Grounded)
    (row : other.row = index.row) (integrity : other.integritySource = index.integritySource)
    (spectral : other.spectralSource = index.spectralSource) : other.Grounded := by
  constructor
  · rw [row, integrity]
    exact grounded.integrity
  · rw [row, spectral]
    exact grounded.spectral

/-- The next step of any task, one case per stage of a scan. -/
theorem grounded_advance (grounded : index.Grounded) {answers : Answers} {task : Task}
    (keeps : answers.stored = true → index.KeepsGrounded task) :
    (index.advance trackfile answers task).1.Grounded := by
  cases task with
  | statted fused albumId stat =>
      simp only [advance]
      split <;> exact grounded
  | probing fused albumId stat => exact grounded
  | measured fused albumId stat measurement probed =>
      simp only [advance]
      split
      · next stored => exact grounded_writeTrack (keeps stored)
      · exact grounded
  | checked tier albumId prior =>
      simp only [advance]
      split <;> exact grounded
  | heavyProbing tier albumId => cases tier <;> exact grounded
  | integrityMeasured albumId measurement probed =>
      simp only [advance]
      split
      · next written =>
          simp only [Bool.and_eq_true, decide_eq_true_eq] at written
          exact grounded_writeIntegrity grounded written.1 (keeps written.2)
      · exact grounded
  | spectralMeasured albumId measurement probed =>
      simp only [advance]
      split
      · next stored => exact grounded_writeSpectral grounded (keeps stored)
      · exact grounded

/-- One action, one case per action. -/
theorem grounded_step {next : Index} {action : Action} (grounded : index.Grounded)
    (allowed : index.WritesInStep action)
    (stepped : (scans trackfile).step index action = some next) : next.Grounded := by
  cases action with
  | replace library =>
      cases stepped
      exact grounded.congr rfl rfl rfl
  | begin fused albumId =>
      simp only [scans, step] at stepped
      split at stepped
      · contradiction
      · cases stepped
        exact grounded.congr rfl rfl rfl
  | beginHeavy tier albumId =>
      simp only [scans, step] at stepped
      split at stepped
      · contradiction
      · split at stepped <;> cases stepped
        · exact grounded.congr rfl rfl rfl
        · exact grounded
  | recordSpectral albumId enabled =>
      simp only [scans, step] at stepped
      split at stepped
      · contradiction
      · split at stepped <;> cases stepped
        · exact grounded.congr rfl rfl rfl
        · exact grounded
  | advance position answers =>
      rcases Option.map_eq_some_iff.mp stepped with ⟨task, found, rfl⟩
      have advanced : (index.advance trackfile answers task).1.Grounded :=
        grounded_advance grounded fun stored => allowed stored task found
      exact advanced.congr rfl rfl rfl

end Steps

/-- The empty index is grounded. -/
theorem grounded_start (library : Library) : (start library).Grounded := by
  constructor <;> simp [start]

end Index

/-- Per-tier freshness is sound in every run whose writes keep the row's size and
mtime in step with the probes. -/
theorem freshness_sound {trackfile : Trackfile} {library : Library} {actions : List Action}
    {index : Index}
    (run : (scans trackfile).RunWhere Index.WritesInStep (.start library) actions index) :
    index.Sound := by
  have grounded : index.Grounded := by
    apply run.preserves
    · intro state action next grounded allowed stepped
      exact Index.grounded_step grounded allowed stepped
    · exact Index.grounded_start library
  exact grounded.sound

/-! ## A replaced file under an old verdict -/

/-- A FLAC trackfile of the library. -/
def flacTrackfile : Trackfile := ⟨7, "/music/song.flac"⟩

/-- A library that holds the trackfile and nothing else. -/
def libraryWith (file : FileId) : Library where
  configured := true
  resolve := .ok
  file path := if path = "/music/song.flac" then some file else none

/-- Every probe succeeds: ffprobe sees FLAC and `flac -t` verifies it. -/
def healthyAnswers : Answers where
  probe := ⟨some ⟨"flac", some 44100, some 16, some 900, some 2⟩, some (0, "")⟩
  spectral := .matched ⟨some "AUTHENTIC", false⟩
  spectralEnabled := true
  stored := true

/-- A scan from its `stat` to its write, with no other scan in flight. -/
def wholeScan (begin : Action) : List Action :=
  [begin, .advance 0 healthyAnswers, .advance 0 healthyAnswers, .advance 0 healthyAnswers]

/-- A cheap scan probes the file, the file is replaced, and a metadata scan stores the
size and mtime of the new file under the integrity stamp of the old one. -/
def replacedUnderStamp : List Action :=
  wholeScan (.begin true (some 3)) ++ .replace (libraryWith ⟨200, 2⟩) ::
    wholeScan (.begin false (some 3))

/-- Without the condition freshness is not sound. -/
theorem stale_integrity_reads_fresh :
    ¬∀ (trackfile : Trackfile) (library : Library) (actions : List Action) (index : Index),
      (scans trackfile).Run (.start library) actions index → index.Sound := by
  intro sound
  have executed : ((scans flacTrackfile).exec (.start (libraryWith ⟨100, 1⟩))
      replacedUnderStamp).map (fun index =>
        (index.row.map fun row => (index.library.isIntegrityRowFresh row, row.path),
          index.library.file "/music/song.flac", index.integritySource)) =
      some (some (true, some "/music/song.flac"), some ⟨200, 2⟩, some ⟨100, 1⟩) := by
    decide +kernel
  rcases Option.map_eq_some_iff.mp executed with ⟨index, reached, shown⟩
  simp only [Prod.mk.injEq, Option.map_eq_some_iff] at shown
  rcases shown with ⟨⟨row, stored, fresh, rowPath⟩, onDisk, source⟩
  have run := Machine.run_of_exec reached
  rcases (sound _ _ _ _ run).integrity row stored fresh with ⟨path, file, path', found, probed⟩
  cases rowPath.symm.trans path'
  cases onDisk.symm.trans found
  cases source.symm.trans probed

/-- Cheap, spectral and metadata scans of a file that stays in place. -/
def undisturbed : List Action :=
  wholeScan (.begin true (some 3)) ++ wholeScan (.beginHeavy .spectral (some 3)) ++
    [.begin false (some 3), .advance 0 healthyAnswers]

/-- The verdicts of an undisturbed library are fresh, and about the file on disk. -/
theorem freshness_sound_undisturbed :
    ∃ (index : Index) (row : Row), index.Sound ∧ index.row = some row ∧
      index.library.isIntegrityRowFresh row = true ∧
      index.library.isSpectralRowFresh row = true := by
  have executed : (((scans flacTrackfile).restrict Index.WritesInStep).exec
      (.start (libraryWith ⟨100, 1⟩)) undisturbed).map (fun index =>
        index.row.map fun row =>
          (index.library.isIntegrityRowFresh row, index.library.isSpectralRowFresh row)) =
      some (some (true, true)) := by
    decide +kernel
  rcases Option.map_eq_some_iff.mp executed with ⟨index, reached, shown⟩
  simp only [Prod.mk.injEq, Option.map_eq_some_iff] at shown
  rcases shown with ⟨row, stored, integrity, spectral⟩
  have sound := freshness_sound (Machine.runWhere_of_exec reached)
  exact ⟨index, row, sound, stored, integrity, spectral⟩

end Mintarr.Evidence
