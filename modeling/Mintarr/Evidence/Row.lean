import Mathlib.Data.Rat.Defs

/-!
# Rows of the library evidence index

One row of `library_evidence` describes one Lidarr trackfile.  Three sensor tiers
write into it: metadata (ffprobe), integrity (`flac -t`) and spectral (FLAC
Detective).  The tiers share `path`, `size` and `mtime`, and each has a sensor
version of its own.

A file on disk is identified by its size and modification time, the basis of every
freshness check.
-/

namespace Mintarr.Evidence

/-- `METADATA_SENSOR_VERSION`. -/
def metadataSensorVersion : String := "mintarr-library-metadata 2026-06-09"

/-- `INTEGRITY_SENSOR_VERSION`. -/
def integritySensorVersion : String := "mintarr-library-integrity 2026-06-09"

/-- `SPECTRAL_SENSOR_VERSION`. -/
def spectralSensorVersion : String := "mintarr-library-spectral 2026-06-08"

/-- A truth value as a row carries it: SQLite returns integers, measurements carry
Python booleans, and `NULL` is unknown. -/
inductive Flag where
  | unknown
  | bool (value : Bool)
  | int (value : Int)
  deriving DecidableEq, Repr

namespace Flag

/-- `flag is False`. -/
def isFalse : Flag → Bool
  | .bool false => true
  | _ => false

/-- `flag == 0`. -/
def eqZero : Flag → Bool
  | .bool value => !value
  | .int value => value = 0
  | .unknown => false

/-- `bool(flag)`. -/
def truthy : Flag → Bool
  | .bool value => value
  | .int value => value ≠ 0
  | .unknown => false

/-- `None if flag is None else int(bool(flag))`, the value a write stores. -/
def stored : Flag → Flag
  | .unknown => .unknown
  | flag => .int (if flag.truthy then 1 else 0)

end Flag

/-- What identifies a file on disk. -/
structure FileId where
  size : Int
  mtime : ℚ
  deriving DecidableEq, Repr

/-- One row of `library_evidence`. `integrityKnown` is no column; it is the key that
`_decision_evidence_view` adds to a row it has read. -/
structure Row where
  trackfileId : Int
  albumId : Option Int := none
  path : Option String := none
  size : Option Int := none
  mtime : Option ℚ := none
  status : Option String := none
  reason : Option String := none
  codec : Option String := none
  sampleRate : Option Int := none
  bitDepth : Option Int := none
  bitrateKbps : Option Int := none
  channels : Option Int := none
  lossless : Flag := .unknown
  integrityOk : Flag := .unknown
  checksumOk : Flag := .unknown
  integrityIssue : Option String := none
  sensorVersion : Option String := none
  integritySensorVersion : Option String := none
  authentic : Flag := .unknown
  spectralStatus : Option String := none
  spectralReason : Option String := none
  spectralVerdict : Option String := none
  spectralSensorVersion : Option String := none
  integrityKnown : Bool := false
  deriving DecidableEq, Repr

/-- The library mount as the process sees it now. -/
structure Library where
  /-- `MINTARR_LIBRARY_ROOT` is set. -/
  configured : Bool
  /-- `resolve_library_path`: the path in the mount that a Lidarr path maps to, or
  the reason why it cannot be measured. -/
  resolve : String → Except String String
  /-- The regular, unlinked file inside the root under a path of the mount. -/
  file : String → Option FileId

namespace Library

/-- `stat_for_freshness`. -/
def statForFreshness (library : Library) (lidarrPath : String) :
    Option (String × FileId) :=
  if library.configured then
    match library.resolve lidarrPath with
    | .ok mapped => (library.file mapped).map fun file => (mapped, file)
    | .error _ => none
  else none

/-- The file a row was measured on is still the one on disk: the part the three
freshness checks share. -/
def matchesDisk (library : Library) (row : Row) : Bool :=
  match row.path with
  | none => false
  | some path =>
      path ≠ "" &&
        match library.file path with
        | none => false
        | some file => row.size = some file.size && row.mtime = some file.mtime

/-- `is_measured_row_fresh`. -/
def isMeasuredRowFresh (library : Library) (row : Row) : Bool :=
  library.configured && row.status = some "measured" &&
    row.sensorVersion = some metadataSensorVersion && library.matchesDisk row

/-- `is_integrity_row_fresh`. -/
def isIntegrityRowFresh (library : Library) (row : Row) : Bool :=
  library.configured && row.integritySensorVersion = some Evidence.integritySensorVersion &&
    library.matchesDisk row

/-- `is_spectral_row_fresh`. -/
def isSpectralRowFresh (library : Library) (row : Row) : Bool :=
  library.configured && row.spectralStatus = some "measured" &&
    row.spectralSensorVersion = some Evidence.spectralSensorVersion &&
    library.matchesDisk row

end Library

/-- `_decision_evidence_view`. -/
def decisionEvidenceView (library : Library) (row : Row) : Row :=
  let spectral :=
    if library.isSpectralRowFresh row then row
    else { row with spectralStatus := none, authentic := .unknown }
  let integrityFresh := library.isIntegrityRowFresh spectral
  let tagged :=
    { spectral with
      integrityKnown :=
        integrityFresh && spectral.integrityIssue ≠ some "nonstandard_flac_tags" }
  if integrityFresh then tagged
  else { tagged with integrityOk := .unknown, checksumOk := .unknown, integrityIssue := none }

theorem Library.matchesDisk_iff {library : Library} {row : Row} :
    library.matchesDisk row = true ↔ ∃ path file, row.path = some path ∧ path ≠ "" ∧
      library.file path = some file ∧ row.size = some file.size ∧
      row.mtime = some file.mtime := by
  rw [matchesDisk]
  split
  · next missing => simp [missing]
  · next path stored =>
      split
      · next absent => simp [stored, absent]
      · next file found => simp [stored, found]

end Mintarr.Evidence
