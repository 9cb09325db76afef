import Mintarr.Lib.Machine
import Mintarr.Evidence.Measure

/-!
# Scans of one trackfile

Every scan of a trackfile is a task of several steps, and tasks of different scans
and of the import-time recording run side by side: a scan takes `stat`, looks at
the stored row, probes, and writes, while the file may be replaced between any two
of these steps.  The machine keeps, next to the row, which file the stored
integrity and spectral verdicts were probed on; the code does not know this, and
freshness is meant to stand for it.
-/

namespace Mintarr.Evidence

open Lib

/-- The trackfile under scan. -/
structure Trackfile where
  id : Int
  path : String

/-- The tiers that are layered onto a metadata row. -/
inductive HeavyTier where
  | integrity | spectral
  deriving DecidableEq, Repr

/-- Where a scan of the trackfile is. `fused` scans are `_measure_trackfile_item` and
`_record_existing_library_evidence`, the others `_measure_metadata_item`. -/
inductive Task where
  | statted (fused : Bool) (albumId : Option Int) (stat : Option (String × FileId))
  | probing (fused : Bool) (albumId : Option Int) (stat : Option (String × FileId))
  | measured (fused : Bool) (albumId : Option Int) (stat : Option (String × FileId))
      (measurement : TrackMeasurement) (probed : Option FileId)
  | checked (tier : HeavyTier) (albumId : Option Int) (prior : Option Row)
  | heavyProbing (tier : HeavyTier) (albumId : Option Int)
  | integrityMeasured (albumId : Option Int) (measurement : IntegrityMeasurement)
      (probed : Option FileId)
  | spectralMeasured (albumId : Option Int) (measurement : SpectralMeasurement)
      (probed : Option FileId)

/-- What the outside answers to one step of a task; `stored` is false when the
database write fails, which the code swallows. -/
structure Answers where
  probe : ProbeAnswers
  spectral : SpectralAnswer
  spectralEnabled : Bool
  stored : Bool

/-- The index entry of one trackfile, the library it describes, and the scans in
flight. -/
structure Index where
  library : Library
  row : Option Row
  tasks : List Task
  /-- The file on which the stored integrity verdict was probed. -/
  integritySource : Option FileId
  /-- The file on which the stored spectral verdict was probed. -/
  spectralSource : Option FileId

inductive Action where
  /-- Any change of the library: a file replaced, removed or restored, a remount. -/
  | replace (library : Library)
  | begin (fused : Bool) (albumId : Option Int)
  | beginHeavy (tier : HeavyTier) (albumId : Option Int)
  | recordSpectral (albumId : Option Int) (enabled : Bool)
  | advance (position : Nat) (answers : Answers)

namespace Index

/-- The index before the first scan. -/
def start (library : Library) : Index := ⟨library, none, [], none, none⟩

/-- The prior row makes a fused or metadata scan skip the file. -/
def skips (fused : Bool) (stat : Option (String × FileId)) (prior : Row) : Bool :=
  match stat with
  | none => false
  | some (path, file) =>
      prior.status = some "measured" && prior.path = some path &&
        prior.size = some file.size && prior.mtime = some file.mtime &&
        prior.sensorVersion = some metadataSensorVersion &&
        (!fused || prior.integritySensorVersion = some Evidence.integritySensorVersion)

/-- The freshness check of a heavy tier. -/
def heavyFresh (library : Library) : HeavyTier → Row → Bool
  | .integrity => library.isIntegrityRowFresh
  | .spectral => library.isSpectralRowFresh

/-- The write of a fused or metadata scan. -/
def writeTrack (trackfile : Trackfile) (index : Index) (fused : Bool)
    (albumId : Option Int) (stat : Option (String × FileId))
    (measurement : TrackMeasurement) (probed : Option FileId) : Index :=
  let write : TrackWrite :=
    { albumId
      path := (stat.map Prod.fst).getD trackfile.path
      stat := stat.map Prod.snd
      measurement }
  let row := index.row.getD { trackfileId := trackfile.id }
  if fused then
    { index with
      row := some (upsertLibraryEvidence write row)
      integritySource := if measurement.status = "measured" then probed else none }
  else { index with row := some (upsertLibraryMetadata write row) }

/-- The write of an integrity scan. -/
def writeIntegrity (trackfile : Trackfile) (index : Index) (albumId : Option Int)
    (measurement : IntegrityMeasurement) (probed : Option FileId) : Index :=
  { index with
    row := some (updateLibraryIntegrity albumId measurement
      (index.row.getD { trackfileId := trackfile.id }))
    integritySource := probed }

/-- The write of a spectral scan or recording. -/
def writeSpectral (trackfile : Trackfile) (index : Index) (albumId : Option Int)
    (measurement : SpectralMeasurement) (probed : Option FileId) : Index :=
  { index with
    row := some (updateLibrarySpectral measurement
      (index.row.getD { trackfileId := trackfile.id, albumId }))
    spectralSource := if measurement.status = "measured" then probed else none }

/-- The file a probe would read now. -/
def probedNow (trackfile : Trackfile) (index : Index) : Option FileId :=
  (index.library.probedFile trackfile.path "").toOption

/-- The next step of a task: what becomes of the index, and the task that is left. -/
def advance (trackfile : Trackfile) (index : Index) (answers : Answers) :
    Task → Index × Option Task
  | .statted fused albumId stat =>
      if index.row.any (skips fused stat) then (index, none)
      else (index, some (.probing fused albumId stat))
  | .probing fused albumId stat =>
      let prober := if fused then defaultProber else metadataProber
      let measurement := index.library.measureTrackfile trackfile.path prober answers.probe
      (index, some (.measured fused albumId stat measurement (index.probedNow trackfile)))
  | .measured fused albumId stat measurement probed =>
      if answers.stored then
        (index.writeTrack trackfile fused albumId stat measurement probed, none)
      else (index, none)
  | .checked tier albumId prior =>
      if prior.any (heavyFresh index.library tier) then (index, none)
      else (index, some (.heavyProbing tier albumId))
  | .heavyProbing .integrity albumId =>
      let measurement := index.library.measureTrackfileIntegrity trackfile.path answers.probe
      (index, some (.integrityMeasured albumId measurement (index.probedNow trackfile)))
  | .heavyProbing .spectral albumId =>
      let measurement := index.library.measureTrackfileSpectral answers.spectralEnabled
        trackfile.path answers.spectral
      (index, some (.spectralMeasured albumId measurement (index.probedNow trackfile)))
  -- A failed integrity probe is not stamped; the scan leaves the row alone.
  | .integrityMeasured albumId measurement probed =>
      if measurement.status = "measured" && answers.stored then
        (index.writeIntegrity trackfile albumId measurement probed, none)
      else (index, none)
  | .spectralMeasured albumId measurement probed =>
      if answers.stored then
        (index.writeSpectral trackfile albumId measurement probed, none)
      else (index, none)

/-- One action. -/
def step (trackfile : Trackfile) (index : Index) : Action → Option Index
  | .replace library => some { index with library }
  | .begin fused albumId =>
      if trackfile.path = "" then none
      else
        let stat := index.library.statForFreshness trackfile.path
        some { index with tasks := index.tasks ++ [.statted fused albumId stat] }
  | .beginHeavy tier albumId =>
      if trackfile.path = "" then none
      else if index.row.any index.library.isMeasuredRowFresh then
        some { index with tasks := index.tasks ++ [.checked tier albumId index.row] }
      else some index
  | .recordSpectral albumId enabled =>
      if trackfile.path = "" then none
      else if enabled then
        some { index with tasks := index.tasks ++ [.checked .spectral albumId index.row] }
      else some index
  | .advance position answers =>
      index.tasks[position]?.map fun task =>
        let (index, rest) := index.advance trackfile answers task
        { index with tasks := index.tasks.take position ++ rest.toList ++
            index.tasks.drop (position + 1) }

end Index

/-- The machine that scans one trackfile. -/
def scans (trackfile : Trackfile) : Machine Index Action where
  step := Index.step trackfile

end Mintarr.Evidence
