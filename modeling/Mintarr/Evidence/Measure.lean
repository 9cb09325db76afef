import Mathlib.Data.List.Infix
import Mintarr.Evidence.Row

/-!
# Sensors and row writes

The probes of `library_evidence` and the four partial writes of `state_db`.  What
`ffprobe`, `flac -t` and FLAC Detective answer is an argument; `none` is a failed
start, a non-zero exit of `ffprobe` or a timeout.
-/

namespace Mintarr.Evidence

/-- `_LOSSLESS_CODECS`. -/
def losslessCodecs : List String := ["flac", "alac"]

/-- `_FAKE_VERDICTS`. -/
def fakeVerdicts : List String := ["FAKE", "FAKE_CERTAIN", "SUSPICIOUS"]

/-- `marker in text`. -/
def contains (text marker : String) : Bool := marker.toList <:+: text.toList

/-! ## Classification of `flac -t` -/

/-- The integrity fields of a probe. -/
structure Integrity where
  integrityOk : Flag
  checksumOk : Flag
  integrityIssue : Option String
  deriving DecidableEq, Repr

/-- Integrity that was not checked. -/
def Integrity.unknown : Integrity := ⟨.unknown, .unknown, none⟩

/-- `_has_decode_error`. -/
def hasDecodeError (loweredStderr : String) : Bool :=
  ["decoder", "lost sync", "frame crc", "crc mismatch", "unparseable", "error reading",
    "premature eof", "while decoding", "got error code"].any (contains loweredStderr)

/-- `_has_nonstandard_flac_tag_issue`. -/
def hasNonstandardFlacTagIssue (loweredStderr : String) : Bool :=
  ["id3v1 tag", "id3v2 tag", "id3 tag"].any (contains loweredStderr) &&
    ["lost_sync", "lost sync", "invalid sync", "end_of_stream",
      "error during decoding"].any (contains loweredStderr)

/-- `_classify_flac_test`, on the lower-cased standard error. -/
def classifyFlacTest (returncode : Int) (lowered : String) : Integrity :=
  if returncode = 0 then
    if ["unset", "cannot check md5", "skipping md5"].any (contains lowered) then
      ⟨.bool true, .unknown, none⟩
    else ⟨.bool true, .bool true, none⟩
  else if contains lowered "md5 signature mismatch" && !hasDecodeError lowered then
    ⟨.bool true, .bool false, some "checksum_mismatch"⟩
  else if hasNonstandardFlacTagIssue lowered then
    ⟨.unknown, .unknown, some "nonstandard_flac_tags"⟩
  else ⟨.bool false, .unknown, some "decode_corrupt"⟩

/-! ## Probes -/

/-- `_run_ffprobe_fields`: the first audio stream. -/
structure FfprobeFields where
  codec : String
  sampleRate : Option Int
  bitDepth : Option Int
  bitrateKbps : Option Int
  channels : Option Int
  deriving DecidableEq, Repr

/-- The answers of the two external programs for one file. -/
structure ProbeAnswers where
  ffprobe : Option FfprobeFields
  /-- Exit code and lower-cased standard error. -/
  flacTest : Option (Int × String)
  deriving DecidableEq, Repr

/-- What a prober returns to `measure_trackfile`. -/
abbrev Probe := FfprobeFields × Integrity

/-- `_default_prober`: ffprobe, then `flac -t` for FLAC. -/
def defaultProber (answers : ProbeAnswers) : Option Probe :=
  answers.ffprobe.bind fun fields =>
    if fields.codec = "flac" then
      answers.flacTest.map fun test => (fields, classifyFlacTest test.1 test.2)
    else some (fields, .unknown)

/-- `_metadata_prober`: ffprobe only. -/
def metadataProber (answers : ProbeAnswers) : Option Probe :=
  answers.ffprobe.map fun fields => (fields, .unknown)

/-- `_integrity_prober`: `flac -t` once ffprobe confirmed FLAC. -/
def integrityProber (answers : ProbeAnswers) : Option Integrity :=
  answers.ffprobe.bind fun fields =>
    if fields.codec.toLower = "flac" then
      answers.flacTest.map fun test => classifyFlacTest test.1 test.2
    else some .unknown

/-! ## Measurements -/

/-- `TrackMeasurement`. -/
structure TrackMeasurement where
  status : String
  reason : Option String := none
  codec : Option String := none
  sampleRate : Option Int := none
  bitDepth : Option Int := none
  bitrateKbps : Option Int := none
  channels : Option Int := none
  lossless : Flag := .unknown
  integrity : Integrity := .unknown
  deriving DecidableEq, Repr

/-- `IntegrityMeasurement`. -/
structure IntegrityMeasurement where
  status : String
  reason : Option String := none
  integrity : Integrity := .unknown
  deriving DecidableEq, Repr

/-- `SpectralMeasurement`. -/
structure SpectralMeasurement where
  status : String
  reason : Option String := none
  authentic : Flag := .unknown
  verdict : Option String := none
  deriving DecidableEq, Repr

/-- The per-file entry of a Detective reply that matches the probed path. -/
structure SpectralEntry where
  /-- `entry["verdict"]`, else the overall verdict, upper-cased; `none` when empty. -/
  verdict : Option String
  isFakeHighRes : Bool
  deriving DecidableEq, Repr

/-- The answer of the Detective service for one file. -/
inductive SpectralAnswer where
  | unreachable
  | unmatched
  | matched (entry : SpectralEntry)
  deriving DecidableEq, Repr

namespace Library

/-- The file a probe reads for a Lidarr path, or the reason why none is read. -/
def probedFile (library : Library) (lidarrPath failure : String) : Except String FileId :=
  if library.configured then
    match library.resolve lidarrPath with
    | .error reason => .error reason
    | .ok mapped =>
        match library.file mapped with
        | none => .error failure
        | some file => .ok file
  else .error "library not mounted"

/-- `measure_trackfile` with a prober. -/
def measureTrackfile (library : Library) (lidarrPath : String)
    (prober : ProbeAnswers → Option Probe) (answers : ProbeAnswers) : TrackMeasurement :=
  match library.probedFile lidarrPath "probe failed" with
  | .error reason => { status := "unmeasured", reason := some reason }
  | .ok _ =>
      match prober answers with
      | none => { status := "unmeasured", reason := some "probe failed" }
      | some (fields, integrity) =>
          let codec := fields.codec.toLower
          if codec = "" then { status := "unmeasured", reason := some "no audio stream" }
          else
            { status := "measured"
              codec := some codec
              sampleRate := fields.sampleRate
              bitDepth := fields.bitDepth
              bitrateKbps := fields.bitrateKbps
              channels := fields.channels
              lossless := .bool (codec ∈ losslessCodecs)
              integrity }

/-- `measure_trackfile_integrity`. -/
def measureTrackfileIntegrity (library : Library) (lidarrPath : String)
    (answers : ProbeAnswers) : IntegrityMeasurement :=
  match library.probedFile lidarrPath "integrity probe failed" with
  | .error reason => { status := "unmeasured", reason := some reason }
  | .ok _ =>
      match integrityProber answers with
      | none => { status := "unmeasured", reason := some "integrity probe failed" }
      | some integrity => { status := "measured", integrity }

/-- `measure_trackfile_spectral`; `enabled` is `spectral_enabled()`. -/
def measureTrackfileSpectral (library : Library) (enabled : Bool) (lidarrPath : String)
    (answer : SpectralAnswer) : SpectralMeasurement :=
  if !enabled then { status := "unmeasured", reason := some "spectral disabled" }
  else
    match library.probedFile lidarrPath "detective unreachable" with
    | .error reason => { status := "unmeasured", reason := some reason }
    | .ok _ =>
        match answer with
        | .unreachable => { status := "unmeasured", reason := some "detective unreachable" }
        | .unmatched =>
            { status := "unmeasured", reason := some "no detective result for file" }
        | .matched entry =>
            let fake := entry.isFakeHighRes || entry.verdict.any (· ∈ fakeVerdicts)
            { status := "measured", authentic := .bool (!fake), verdict := entry.verdict }

end Library

/-! ## Writes -/

/-- The columns the metadata and the fused scan write: where the file is, what it
was stat'ed as, and the measurement. -/
structure TrackWrite where
  albumId : Option Int
  path : String
  stat : Option FileId
  measurement : TrackMeasurement

/-- The columns both `upsert_library_evidence` and `upsert_library_metadata` set. -/
def TrackWrite.metadata (write : TrackWrite) (row : Row) : Row :=
  { row with
    albumId := write.albumId
    path := some write.path
    size := write.stat.map FileId.size
    mtime := write.stat.map FileId.mtime
    status := some write.measurement.status
    reason := write.measurement.reason
    codec := write.measurement.codec
    sampleRate := write.measurement.sampleRate
    bitDepth := write.measurement.bitDepth
    bitrateKbps := write.measurement.bitrateKbps
    channels := write.measurement.channels
    lossless := write.measurement.lossless.stored
    sensorVersion := some metadataSensorVersion }

/-- The columns `update_library_integrity` sets, and `upsert_library_evidence` sets
besides the metadata columns. -/
def Integrity.stamp (integrity : Integrity) (row : Row) : Row :=
  { row with
    integrityOk := integrity.integrityOk.stored
    checksumOk := integrity.checksumOk.stored
    integrityIssue := integrity.integrityIssue
    integritySensorVersion := some Evidence.integritySensorVersion }

/-- `upsert_library_metadata`, on the stored row or a new one. -/
def upsertLibraryMetadata (write : TrackWrite) (row : Row) : Row := write.metadata row

/-- `upsert_library_evidence`. -/
def upsertLibraryEvidence (write : TrackWrite) (row : Row) : Row :=
  write.measurement.integrity.stamp (write.metadata row)

/-- `update_library_integrity`. -/
def updateLibraryIntegrity (albumId : Option Int) (measurement : IntegrityMeasurement)
    (row : Row) : Row :=
  measurement.integrity.stamp { row with albumId }

/-- `update_library_spectral`; only an insert sets `album_id`. -/
def updateLibrarySpectral (measurement : SpectralMeasurement) (row : Row) : Row :=
  { row with
    authentic := measurement.authentic.stored
    spectralStatus := some measurement.status
    spectralReason := measurement.reason
    spectralVerdict := measurement.verdict
    spectralSensorVersion := some Evidence.spectralSensorVersion }

end Mintarr.Evidence
