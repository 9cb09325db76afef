import Mathlib.Data.List.Dedup
import Mintarr.Lib.StableSort
import Mintarr.Policy.ExistingQuality

/-!
# The quality ranking of the library

One album of the read-only ranking: its evidence rows are retyped, the outdated ones are counted
and left out, and the rest are rolled up to one bucket.  Unmeasured rows take no part in this, so
an album with one good track may stand as verified; and the rows that are listed as samples are
sorted before they are retyped, by tests that no stored number passes.
-/

namespace Mintarr.Dashboard

open Lib Evidence Policy

/-! ## Rows -/

/-- `_dashboard_measured_row_current`. -/
def measuredRowCurrent (row : Row) : Bool :=
  row.status = some "measured" && row.sensorVersion = some metadataSensorVersion

/-- `_dashboard_spectral_row_current`. -/
def spectralRowCurrent (row : Row) : Bool :=
  row.spectralStatus = some "measured" && row.spectralSensorVersion = some spectralSensorVersion

/-- `_dashboard_integrity_row_current`. -/
def integrityRowCurrent (row : Row) : Bool :=
  row.integritySensorVersion = some integritySensorVersion

/-- `bool(row.get("integrity_issue"))`. -/
def hasIssue (row : Row) : Bool := row.integrityIssue.any (· ≠ "")

/-- `_track_priority`. -/
def trackPriority (row : Row) : Nat × String :=
  let path := row.path.getD ""
  if row.integrityOk.isFalse then (0, path)
  else if hasIssue row then (1, path)
  else if row.checksumOk.isFalse then (2, path)
  else (3, path)

/-- The order of `_track_priority`. -/
def isListedBefore (first second : Row) : Bool :=
  let left := trackPriority first
  let right := trackPriority second
  left.1 < right.1 || left.1 = right.1 && left.2 ≤ right.2

/-- `None if flag is None else bool(flag)`. -/
def typed (flag : Flag) : Flag :=
  match flag with
  | .unknown => .unknown
  | flag => .bool flag.truthy

/-- Measured by an older sensor. -/
def spectralStale (row : Row) : Bool :=
  row.spectralStatus = some "measured" && !spectralRowCurrent row

/-- The view of a row whose metadata is current. -/
def freshView (row : Row) : Row :=
  let integrityFresh := integrityRowCurrent row
  { row with
    lossless := typed row.lossless
    integrityKnown := integrityFresh && row.integrityIssue ≠ some "nonstandard_flac_tags"
    integrityOk := if integrityFresh then typed row.integrityOk else .unknown
    checksumOk := if integrityFresh then typed row.checksumOk else .unknown
    integrityIssue := if integrityFresh then row.integrityIssue else none
    authentic := if spectralStale row then .unknown else typed row.authentic
    spectralStatus := if spectralStale row then none else row.spectralStatus }

/-- The rows with a measured status. -/
def measuredRows (rows : List Row) : List Row := rows.filter isMeasured

/-- The views of the measured rows that are current. -/
def freshRows (rows : List Row) : List Row :=
  ((measuredRows rows).filter measuredRowCurrent).map freshView

/-- `stale_count`. -/
def staleCount (rows : List Row) : Nat :=
  (measuredRows rows).countP fun row => !measuredRowCurrent row

/-- `spectral_stale_count`. -/
def spectralStaleCount (rows : List Row) : Nat :=
  ((measuredRows rows).filter measuredRowCurrent).countP spectralStale

/-- The different tiers of the fresh rows. -/
def tiers (rows : List Row) : List Nat := ((measuredRows (freshRows rows)).map rowTier).dedup

/-! ## Buckets -/

/-- `primary_bucket`. -/
inductive Bucket where
  | invalid
  | nonstandardFlacTags
  | measuredFake
  | checksumMismatch
  | stale
  | unmeasured
  | lossy
  | redbook
  | mixedTier
  | integrityUnknown
  | unknownAuthenticity
  | ok
  deriving DecidableEq, Repr

/-- `tier_bucket`. -/
inductive TierBucket where
  | unknown | lossy | mixed | redbook | lossless24 | hires
  deriving DecidableEq, Repr

/-- The bucket of a rollup, behind the tests that need no rollup. -/
def rollupBucket (spectralEnabled : Bool) (rows : List Row) (rollup : AlbumQuality) : Bucket :=
  if !rollup.allLossless then .lossy
  else if rollup.minTier ≤ 1 then .redbook
  else if (tiers rows).length > 1 then .mixedTier
  else if !rollup.integrityKnown then .integrityUnknown
  else if spectralEnabled && !rollup.authenticityKnown then .unknownAuthenticity
  else .ok

/-- The chain of tests for `primary_bucket`. -/
def primaryBucket (spectralEnabled : Bool) (rows : List Row) : Bucket :=
  let fresh := freshRows rows
  let rollup := albumQuality fresh
  if 0 < fresh.countP (·.integrityOk.isFalse) then .invalid
  else if 0 < fresh.countP (·.integrityIssue = some "nonstandard_flac_tags") then
    .nonstandardFlacTags
  else if rollup.any (·.anyFake) then .measuredFake
  else if rollup.any (·.anyMd5Mismatch) then .checksumMismatch
  else if staleCount rows ≠ 0 || spectralStaleCount rows ≠ 0 then .stale
  else
    match rollup with
    | none => .unmeasured
    | some rollup => rollupBucket spectralEnabled rows rollup

/-- The chain of tests for `tier_bucket`. -/
def tierBucket (rows : List Row) : TierBucket :=
  match albumQuality (freshRows rows) with
  | none => .unknown
  | some rollup =>
      if !rollup.allLossless then .lossy
      else if (tiers rows).length > 1 then .mixed
      else if rollup.minTier ≤ 1 then .redbook
      else if rollup.minTier = 2 then .lossless24
      else .hires

namespace Bucket

/-- The key of the bucket. -/
def key : Bucket → String
  | invalid => "invalid"
  | nonstandardFlacTags => "nonstandard_flac_tags"
  | measuredFake => "measured_fake"
  | checksumMismatch => "checksum_mismatch"
  | stale => "stale"
  | unmeasured => "unmeasured"
  | lossy => "lossy"
  | redbook => "redbook"
  | mixedTier => "mixed_tier"
  | integrityUnknown => "integrity_unknown"
  | unknownAuthenticity => "unknown_authenticity"
  | ok => "ok"

/-- The label in `_LIBRARY_QUALITY_BUCKET_INFO`. -/
def label : Bucket → String
  | invalid => "Integrity failed"
  | nonstandardFlacTags => "FLAC tag cleanup"
  | measuredFake => "Measured fake"
  | checksumMismatch => "Checksum mismatch"
  | stale => "Stale evidence"
  | unmeasured => "Unmeasured"
  | lossy => "Lossy"
  | redbook => "CD quality (16/44)"
  | mixedTier => "Mixed tier"
  | integrityUnknown => "Integrity unknown"
  | unknownAuthenticity => "Unknown authenticity"
  | ok => "Measured OK"

/-- The description in `_LIBRARY_QUALITY_BUCKET_INFO`. -/
def description : Bucket → String
  | invalid => "One or more fresh measured tracks have hard decode corruption."
  | nonstandardFlacTags =>
      "FLAC audio carries non-standard ID3 tags. Cleanup candidate; not a replacement trigger."
  | measuredFake => "Fresh spectral evidence says at least one track is fake/suspicious."
  | checksumMismatch =>
      "Plays fine; the stored FLAC MD5 no longer matches the audio " ++
        "(re-tagged/re-encoded after ripping). Not corruption."
  | stale => "Stored evidence was produced by an older sensor version."
  | unmeasured => "No usable measured quality evidence exists for the album."
  | lossy => "At least one track is lossy (not lossless) — a real lossless upgrade candidate."
  | redbook =>
      "All lossless but only standard CD tier (16-bit/44.1kHz). Fine " ++
        "— a hi-res upgrade is optional, not a defect."
  | mixedTier => "Tracks in the album roll up to different lossless tiers."
  | integrityUnknown =>
      "Metadata measured (tier known) but the integrity tier (flac -t) has not verified the " ++
        "audio yet. Not a defect — run an integrity scan to confirm."
  | unknownAuthenticity =>
      "Spectral mode is enabled, but authenticity is not known for every measured track."
  | ok => "Fresh measured + integrity-verified evidence with no known quality warnings."

/-- `_LIBRARY_QUALITY_ACTION_KIND`. -/
def actionKind : Bucket → String
  | invalid => "Replacement candidate"
  | measuredFake => "Replacement candidate"
  | nonstandardFlacTags => "Cleanup candidate"
  | checksumMismatch => "Advisory"
  | stale => "Rescan needed"
  | unmeasured => "Scan needed"
  | lossy => "Upgrade target"
  | redbook => "Healthy baseline"
  | mixedTier => "Inspect edition"
  | integrityUnknown => "Verify if needed"
  | unknownAuthenticity => "Verify if needed"
  | ok => "No action"

end Bucket

/-! ## The summary of an album -/

/-- `str.lower`, `str.upper` and `str.strip` on the name of a codec. -/
structure CodecCase where
  lower : String → String
  upper : String → String
  strip : String → String

/-- `_lossy_codec_label`. -/
def lossyCodecLabel (codecCase : CodecCase) (codec : Option String) (bitrateKbps : Option Int) :
    String :=
  let given := if codec.getD "" = "" then "unknown" else codec.getD ""
  let lowered := codecCase.lower (codecCase.strip given)
  let name := if lowered = "" then "unknown" else lowered
  let display :=
    match name with
    | "aac" => "AAC"
    | "mp3" => "MP3"
    | "opus" => "Opus"
    | "vorbis" => "OGG/Vorbis"
    | "ogg" => "OGG"
    | "unknown" => "Unknown"
    | name => codecCase.upper name
  match bitrateKbps with
  | none => s!"{display} bitrate unknown"
  | some bitrate =>
      if 0 < bitrate then s!"{display} {bitrate} kbps" else s!"{display} bitrate unknown"

/-- `_basename_any`. -/
def basenameAny (path : Option String) : Option String :=
  match path with
  | none => none
  | some path =>
      let chars := path.toList.map fun c => if c = '\\' then '/' else c
      let name := (chars.reverse.takeWhile (· ≠ '/')).reverse
      if name = [] then none else some (String.ofList name)

/-- `None if flag is None else bool(flag)`, as the answer carries it. -/
def shown (flag : Flag) : Option Bool :=
  match flag with
  | .unknown => none
  | flag => some flag.truthy

/-- An entry of `sample_files`. -/
structure SampleFile where
  trackfileId : Int
  filename : Option String
  status : Option String
  reason : Option String
  integrityIssue : Option String
  integrityOk : Option Bool
  checksumOk : Option Bool
  codec : Option String
  bitrateKbps : Option Int
  lossless : Option Bool
  deriving DecidableEq, Repr

/-- The entry for a row. -/
def sampleFile (row : Row) : SampleFile where
  trackfileId := row.trackfileId
  filename := basenameAny row.path
  status := row.status
  reason := row.reason
  integrityIssue := row.integrityIssue
  integrityOk := shown row.integrityOk
  checksumOk := shown row.checksumOk
  codec := row.codec
  bitrateKbps := row.bitrateKbps
  lossless := shown row.lossless

/-- `sorted(rows, key=_track_priority)`. -/
def displayRows (rows : List Row) : List Row := rows.mergeSort isListedBefore

/-- How many tracks are listed. -/
def sampleLimit : Nat := 60

/-- The summary of one album. -/
structure AlbumSummary where
  albumId : Option Int
  primaryBucket : Bucket
  bucketLabel : String
  bucketDescription : String
  bucketActionKind : String
  tierBucket : TierBucket
  lossyLabels : List String
  trackCount : Nat
  measuredCount : Nat
  staleCount : Nat
  invalidCount : Nat
  nonstandardFlacTagsCount : Nat
  md5MismatchCount : Nat
  anyFake : Bool
  authenticityKnown : Bool
  integrityKnown : Bool
  minTier : Option Nat
  allLossless : Bool
  sampleFiles : List SampleFile

/-- `_library_quality_album_summary`. -/
def albumSummary (codecCase : CodecCase) (spectralEnabled : Bool) (albumId : Option Int)
    (rows : List Row) : AlbumSummary :=
  let fresh := freshRows rows
  let rollup := albumQuality fresh
  let bucket := primaryBucket spectralEnabled rows
  let lossyLabels := ((measuredRows fresh).filter (·.lossless.isFalse)).map fun row =>
    lossyCodecLabel codecCase row.codec row.bitrateKbps
  { albumId := albumId
    primaryBucket := bucket
    bucketLabel := bucket.label
    bucketDescription := bucket.description
    bucketActionKind := bucket.actionKind
    tierBucket := tierBucket rows
    lossyLabels := lossyLabels.dedup.mergeSort
    trackCount := rows.length
    measuredCount := fresh.length
    staleCount := staleCount rows + spectralStaleCount rows
    invalidCount := fresh.countP (·.integrityOk.isFalse)
    nonstandardFlacTagsCount := fresh.countP (·.integrityIssue = some "nonstandard_flac_tags")
    md5MismatchCount := fresh.countP (·.checksumOk.isFalse)
    anyFake := rollup.any (·.anyFake)
    authenticityKnown := rollup.any (·.authenticityKnown)
    integrityKnown := rollup.any (·.integrityKnown)
    minTier := rollup.map (·.minTier)
    allLossless := rollup.any (·.allLossless)
    sampleFiles := ((displayRows rows).take sampleLimit).map sampleFile }

/-! ## What takes part in the rollup -/

section Rollup

variable {rows : List Row} {row : Row} {quality : AlbumQuality}

@[simp] theorem typed_truthy (flag : Flag) : (typed flag).truthy = flag.truthy := by
  cases flag <;> rfl

theorem typed_isFalse (flag : Flag) : (typed flag).isFalse = flag.eqZero := by
  cases flag with
  | unknown => rfl
  | bool value => cases value <;> rfl
  | int value =>
      by_cases zero : value = 0 <;>
        simp [typed, Flag.isFalse, Flag.truthy, Flag.eqZero, zero]

theorem typed_eqZero (flag : Flag) : (typed flag).eqZero = flag.eqZero := by
  cases flag <;> simp [typed, Flag.truthy, Flag.eqZero]

@[simp] theorem rowTier_freshView (row : Row) : rowTier (freshView row) = rowTier row := by
  simp only [rowTier, freshView, typed_truthy]

theorem mem_freshRows {view : Row} :
    view ∈ freshRows rows ↔ ∃ row ∈ rows, measuredRowCurrent row = true ∧ freshView row = view := by
  simp only [freshRows, measuredRows, List.mem_map, List.mem_filter, isMeasured,
    measuredRowCurrent, Bool.and_eq_true, and_assoc]
  constructor
  · intro found
    obtain ⟨row, present, _, current, version, same⟩ := found
    exact ⟨row, present, current, version, same⟩
  · intro found
    obtain ⟨row, present, current, version, same⟩ := found
    exact ⟨row, present, current, current, version, same⟩

theorem isMeasured_of_current (current : measuredRowCurrent row = true) :
    isMeasured row = true := by
  rw [measuredRowCurrent, Bool.and_eq_true] at current
  exact current.1

/-- Every fresh row counts as measured. -/
theorem isMeasured_of_mem_freshRows {view : Row} (fresh : view ∈ freshRows rows) :
    isMeasured view = true := by
  obtain ⟨row, _, current, rfl⟩ := mem_freshRows.mp fresh
  exact isMeasured_of_current current

theorem measuredRows_freshRows : measuredRows (freshRows rows) = freshRows rows :=
  List.filter_eq_self.mpr fun _ fresh => isMeasured_of_mem_freshRows fresh

/-- What holds of every fresh row, of the rows. -/
theorem forall_freshRows {holds : Row → Prop} :
    (∀ view ∈ freshRows rows, holds view) ↔
      ∀ row ∈ rows, measuredRowCurrent row = true → holds (freshView row) := by
  constructor
  · intro all row present current
    exact all _ (mem_freshRows.mpr ⟨row, present, current, rfl⟩)
  · intro all view fresh
    obtain ⟨row, present, current, rfl⟩ := mem_freshRows.mp fresh
    exact all row present current

theorem allLossless_iff (rolled : albumQuality rows = some quality) :
    quality.allLossless = true ↔
      ∀ row ∈ rows, isMeasured row = true → row.lossless.truthy = true := by
  have measured : ∀ row, row ∈ rows.filter (·.status = some "measured") ↔
      row ∈ rows ∧ isMeasured row = true := fun row => mem_measured
  rw [albumQuality] at rolled
  split at rolled
  · contradiction
  · next first rest kept =>
    cases rolled
    simp only [← kept, List.all_eq_true, measured, and_imp]

theorem anyMd5Mismatch_iff (rolled : albumQuality rows = some quality) :
    quality.anyMd5Mismatch = true ↔
      ∃ row ∈ rows, isMeasured row = true ∧ row.checksumOk.eqZero = true := by
  have measured : ∀ row, row ∈ rows.filter (·.status = some "measured") ↔
      row ∈ rows ∧ isMeasured row = true := fun row => mem_measured
  rw [albumQuality] at rolled
  split at rolled
  · contradiction
  · next first rest kept =>
    cases rolled
    simp only [← kept, List.any_eq_true, measured, and_assoc]

end Rollup

/-! ## The last bucket -/

/-- A measured row that keeps no album from the last bucket. -/
structure Passes (spectralEnabled : Bool) (row : Row) : Prop where
  metadata : row.sensorVersion = some metadataSensorVersion
  lossless : row.lossless.truthy = true
  integrity : integrityRowCurrent row = true
  sound : row.integrityOk.eqZero = false
  checksum : row.checksumOk.eqZero = false
  tagged : row.integrityIssue ≠ some "nonstandard_flac_tags"
  spectral : isSpectral row = true →
    row.spectralSensorVersion = some spectralSensorVersion ∧ row.authentic.eqZero = false
  required : spectralEnabled = true → isSpectral row = true

/-- Nothing about the measured rows of an album keeps it from the last bucket. -/
structure LooksVerified (spectralEnabled : Bool) (rows : List Row) : Prop where
  measured : ∃ row ∈ rows, isMeasured row = true
  each : ∀ row ∈ rows, isMeasured row = true → Passes spectralEnabled row
  tier : ∃ tier, 1 < tier ∧ ∀ row ∈ rows, isMeasured row = true → rowTier row = tier

section Ok

variable {spectralEnabled : Bool} {rows : List Row}

/-- A test of the chain that an album of the last bucket fails. -/
theorem ite_eq_ok {test : Prop} [Decidable test] {bucket rest : Bucket} (other : bucket ≠ .ok) :
    (if test then bucket else rest) = .ok ↔ ¬ test ∧ rest = .ok := by
  by_cases holds : test <;> simp [holds, other]

theorem rollupBucket_eq_ok_iff {rollup : AlbumQuality} :
    rollupBucket spectralEnabled rows rollup = .ok ↔
      rollup.allLossless = true ∧ 1 < rollup.minTier ∧ (tiers rows).length ≤ 1 ∧
        rollup.integrityKnown = true ∧
        (spectralEnabled = true → rollup.authenticityKnown = true) := by
  rw [rollupBucket, ite_eq_ok (by decide), ite_eq_ok (by decide), ite_eq_ok (by decide),
    ite_eq_ok (by decide), ite_eq_ok (by decide)]
  simp

theorem primaryBucket_eq_ok_iff_tests :
    primaryBucket spectralEnabled rows = .ok ↔
      (∀ view ∈ freshRows rows, view.integrityOk.isFalse = false) ∧
      (∀ view ∈ freshRows rows, view.integrityIssue ≠ some "nonstandard_flac_tags") ∧
      (staleCount rows = 0 ∧ spectralStaleCount rows = 0) ∧
      ∃ rollup, albumQuality (freshRows rows) = some rollup ∧ rollup.anyFake = false ∧
        rollup.anyMd5Mismatch = false ∧ rollupBucket spectralEnabled rows rollup = .ok := by
  rw [primaryBucket, ite_eq_ok (by decide), ite_eq_ok (by decide), ite_eq_ok (by decide),
    ite_eq_ok (by decide), ite_eq_ok (by decide)]
  cases albumQuality (freshRows rows) with
  | none => simp
  | some rollup => simp [and_assoc, and_left_comm]

theorem staleCount_eq_zero :
    staleCount rows = 0 ↔ ∀ row ∈ rows, isMeasured row = true → measuredRowCurrent row = true := by
  simp [staleCount, measuredRows, List.countP_eq_zero]

theorem spectralStaleCount_eq_zero :
    spectralStaleCount rows = 0 ↔
      ∀ row ∈ rows, measuredRowCurrent row = true → spectralStale row = false := by
  rw [spectralStaleCount, List.countP_eq_zero]
  simp only [measuredRows, List.mem_filter, and_imp, Bool.not_eq_true]
  constructor
  · intro none_ row present current
    exact none_ row present (isMeasured_of_current current) current
  · intro none_ row present _ current
    exact none_ row present current

/-- There is one tier where all are of the weakest. -/
theorem tiers_length_le_one {rollup : AlbumQuality}
    (rolled : albumQuality (freshRows rows) = some rollup) :
    (tiers rows).length ≤ 1 ↔ ∀ view ∈ freshRows rows, rowTier view = rollup.minTier := by
  have known := rollup_of_albumQuality rolled
  obtain ⟨weakest, there, _, attained⟩ := known.tier_attained
  have listed : ∀ tier, tier ∈ tiers rows ↔ ∃ view ∈ freshRows rows, rowTier view = tier := by
    intro tier
    rw [tiers, measuredRows_freshRows, List.mem_dedup, List.mem_map]
  constructor
  · intro single view fresh
    have here := (listed _).mpr ⟨view, fresh, rfl⟩
    have lowest := (listed _).mpr ⟨weakest, there, attained⟩
    cases shape : tiers rows with
    | nil => rw [shape] at here; contradiction
    | cons tier others =>
        rw [shape, List.length_cons] at single
        rw [List.length_eq_zero_iff.mp (Nat.le_zero.mp (Nat.le_of_succ_le_succ single))] at shape
        rw [shape] at here lowest
        rw [List.mem_singleton.mp here, List.mem_singleton.mp lowest]
  · intro same
    have within : tiers rows ⊆ [rollup.minTier] := by
      intro tier member
      obtain ⟨view, fresh, rfl⟩ := (listed tier).mp member
      exact List.mem_singleton.mpr (same view fresh)
    exact (List.nodup_dedup _).length_le_of_subset within

theorem spectralStale_eq_false {row : Row} :
    spectralStale row = false ↔
      (isSpectral row = true → row.spectralSensorVersion = some spectralSensorVersion) := by
  cases measured : isSpectral row with
  | false =>
      have other : ¬ row.spectralStatus = some "measured" := of_decide_eq_false measured
      simp [spectralStale, other]
  | true =>
      have status : row.spectralStatus = some "measured" := of_decide_eq_true measured
      simp [spectralStale, spectralRowCurrent, status]

theorem isSpectral_freshView {row : Row} (current : spectralStale row = false) :
    isSpectral (freshView row) = isSpectral row := by
  simp [isSpectral, freshView, current]

/-- A current row passes where its view raises no objection. -/
theorem passes_iff {row : Row} (current : measuredRowCurrent row = true) :
    Passes spectralEnabled row ↔
      (freshView row).integrityOk.isFalse = false ∧
      (freshView row).integrityIssue ≠ some "nonstandard_flac_tags" ∧
      spectralStale row = false ∧
      (isSpectral (freshView row) = true → (freshView row).authentic.eqZero = false) ∧
      (freshView row).checksumOk.eqZero = false ∧ (freshView row).lossless.truthy = true ∧
      (freshView row).integrityKnown = true ∧
      (spectralEnabled = true → isSpectral (freshView row) = true) := by
  rw [measuredRowCurrent, Bool.and_eq_true, decide_eq_true_eq, decide_eq_true_eq] at current
  constructor
  · intro passes
    have spectral : spectralStale row = false :=
      spectralStale_eq_false.mpr fun measured => (passes.spectral measured).1
    rw [isSpectral_freshView spectral]
    simp only [freshView, passes.integrity, spectral, if_true, Bool.false_eq_true, if_false,
      typed_isFalse, typed_eqZero, typed_truthy, Bool.true_and, decide_eq_true_eq]
    exact ⟨passes.sound, passes.tagged, trivial, fun measured => (passes.spectral measured).2,
      passes.checksum, passes.lossless, passes.tagged, passes.required⟩
  · intro tests
    obtain ⟨sound, _, spectral, genuine, checksum, lossless, known, required⟩ := tests
    rw [isSpectral_freshView spectral] at genuine required
    simp only [freshView, Bool.and_eq_true, decide_eq_true_eq] at known
    simp only [freshView, known.1, spectral, if_true, Bool.false_eq_true, if_false,
      typed_isFalse, typed_eqZero, typed_truthy] at sound checksum lossless genuine
    exact {
      metadata := current.2
      lossless := lossless
      integrity := known.1
      sound := sound
      checksum := checksum
      tagged := known.2
      spectral := fun measured => ⟨spectralStale_eq_false.mp spectral measured, genuine measured⟩
      required := required }

/-- An album stands in the last bucket where its measured rows raise no objection. -/
theorem primaryBucket_eq_ok_iff :
    primaryBucket spectralEnabled rows = .ok ↔ LooksVerified spectralEnabled rows := by
  rw [primaryBucket_eq_ok_iff_tests]
  constructor
  · intro tests
    obtain ⟨sound, tagged, ⟨fresh, spectral⟩, rollup, rolled, genuine, checksum, ok⟩ := tests
    obtain ⟨lossless, high, single, known, authentic⟩ := rollupBucket_eq_ok_iff.mp ok
    have rollup_ := rollup_of_albumQuality rolled
    rw [staleCount_eq_zero] at fresh
    rw [spectralStaleCount_eq_zero] at spectral
    rw [tiers_length_le_one rolled, forall_freshRows] at single
    constructor
    · obtain ⟨view, there, _⟩ := rollup_.tier_attained
      obtain ⟨row, present, current, _⟩ := mem_freshRows.mp there
      exact ⟨row, present, isMeasured_of_current current⟩
    · intro row present measured
      have current := fresh row present measured
      have there := mem_freshRows.mpr ⟨row, present, current, rfl⟩
      have counted := isMeasured_of_mem_freshRows there
      rw [passes_iff current]
      refine ⟨sound _ there, tagged _ there, spectral row present current, ?_, ?_, ?_, ?_, ?_⟩
      · intro verdict
        by_contra fake
        rw [Bool.not_eq_false] at fake
        exact ne_true_of_eq_false genuine
          (rollup_.any_fake.mpr ⟨_, there, counted, verdict, fake⟩)
      · by_contra mismatch
        rw [Bool.not_eq_false] at mismatch
        exact ne_true_of_eq_false checksum
          ((anyMd5Mismatch_iff rolled).mpr ⟨_, there, counted, mismatch⟩)
      · exact (allLossless_iff rolled).mp lossless _ there counted
      · exact rollup_.integrity_known.mp known _ there counted
      · intro enabled
        exact rollup_.authenticity_known.mp (authentic enabled) _ there counted
    · refine ⟨rollup.minTier, high, ?_⟩
      intro row present measured
      exact rowTier_freshView row ▸ single row present (fresh row present measured)
  · intro looks
    obtain ⟨tier, high, common⟩ := looks.tier
    have current : ∀ row ∈ rows, isMeasured row = true → measuredRowCurrent row = true := by
      intro row present measured
      rw [measuredRowCurrent, Bool.and_eq_true, decide_eq_true_eq, decide_eq_true_eq]
      exact ⟨of_decide_eq_true measured, (looks.each row present measured).metadata⟩
    have tests := fun row (present : row ∈ rows) (fresh : measuredRowCurrent row = true) =>
      (passes_iff fresh).mp (looks.each row present (isMeasured_of_current fresh))
    refine ⟨?_, ?_, ⟨staleCount_eq_zero.mpr current, ?_⟩, ?_⟩
    · exact forall_freshRows.mpr fun row present fresh => (tests row present fresh).1
    · exact forall_freshRows.mpr fun row present fresh => (tests row present fresh).2.1
    · exact spectralStaleCount_eq_zero.mpr fun row present fresh =>
        (tests row present fresh).2.2.1
    · cases rolled : albumQuality (freshRows rows) with
      | none =>
          obtain ⟨row, present, measured⟩ := looks.measured
          have there := mem_freshRows.mpr ⟨row, present, current row present measured, rfl⟩
          have unmeasured := albumQuality_eq_none_iff.mp rolled _ there
          exact absurd (isMeasured_of_mem_freshRows there) (ne_true_of_eq_false unmeasured)
      | some rollup =>
          have rollup_ := rollup_of_albumQuality rolled
          have tiered : ∀ view ∈ freshRows rows, rowTier view = tier := by
            rw [forall_freshRows]
            intro row present fresh
            rw [rowTier_freshView]
            exact common row present (isMeasured_of_current fresh)
          obtain ⟨weakest, there, _, attained⟩ := rollup_.tier_attained
          have lowest : rollup.minTier = tier := attained.symm.trans (tiered weakest there)
          refine ⟨rollup, rfl, ?_, ?_, rollupBucket_eq_ok_iff.mpr ⟨?_, ?_, ?_, ?_, ?_⟩⟩
          · apply eq_false_of_ne_true
            intro fake
            obtain ⟨view, there, _, verdict, zero⟩ := rollup_.any_fake.mp fake
            obtain ⟨row, present, fresh, rfl⟩ := mem_freshRows.mp there
            have genuine := (tests row present fresh).2.2.2.1 verdict
            exact absurd zero (ne_true_of_eq_false genuine)
          · apply eq_false_of_ne_true
            intro mismatch
            obtain ⟨view, there, _, zero⟩ := (anyMd5Mismatch_iff rolled).mp mismatch
            obtain ⟨row, present, fresh, rfl⟩ := mem_freshRows.mp there
            exact absurd zero (ne_true_of_eq_false (tests row present fresh).2.2.2.2.1)
          · rw [allLossless_iff rolled, forall_freshRows]
            intro row present fresh _
            exact (tests row present fresh).2.2.2.2.2.1
          · exact lowest ▸ high
          · rw [tiers_length_le_one rolled, lowest]
            exact tiered
          · rw [rollup_.integrity_known, forall_freshRows]
            intro row present fresh _
            exact (tests row present fresh).2.2.2.2.2.2.1
          · intro enabled
            rw [rollup_.authenticity_known, forall_freshRows]
            intro row present fresh _
            exact (tests row present fresh).2.2.2.2.2.2.2 enabled

end Ok

/-! ## What the ranking promises -/

/-- A row of a verified album. -/
structure Verified (spectralEnabled : Bool) (row : Row) : Prop where
  measured : measuredRowCurrent row = true
  lossless : row.lossless.truthy = true
  integrity : integrityRowCurrent row = true
  sound : row.integrityOk.eqZero = false
  checksum : row.checksumOk.eqZero = false
  issue : hasIssue row = false
  authentic : spectralEnabled = true → spectralRowCurrent row = true ∧ row.authentic.truthy = true

/-- The last bucket means that all of the album is verified, and of the tracks those with a
defect are listed first. -/
structure Honest (codecCase : CodecCase) (spectralEnabled : Bool) (albumId : Option Int)
    (rows : List Row) : Prop where
  verified : (albumSummary codecCase spectralEnabled albumId rows).primaryBucket = .ok →
    (∀ row ∈ rows, Verified spectralEnabled row) ∧
      ∃ tier, 1 < tier ∧ ∀ row ∈ rows, rowTier row = tier
  defectsFirst : (albumSummary codecCase spectralEnabled albumId rows).sampleFiles.Pairwise
    fun earlier later => later.integrityOk = some false → earlier.integrityOk = some false
  notCut : ∀ row ∈ (displayRows rows).drop sampleLimit, row.integrityOk.eqZero = true →
    ∀ file ∈ (albumSummary codecCase spectralEnabled albumId rows).sampleFiles,
      file.integrityOk = some false

/-- The flags of the row are as SQLite has them. -/
structure FromSqlite (row : Row) : Prop where
  integrity : ∀ value, row.integrityOk ≠ .bool value
  checksum : ∀ value, row.checksumOk ≠ .bool value

/-- The rows with an issue come first, and those of one kind are in the order of their paths. -/
def issueThenPath (first second : Row) : Bool :=
  (hasIssue first && !hasIssue second) ||
    (hasIssue first = hasIssue second && first.path.getD "" ≤ second.path.getD "")

/-- The rows that the rollup passes over are verified too, and so many tracks rank before each
sound one as there are defects to list. -/
structure Complete (ranksBefore : Row → Row → Bool) (spectralEnabled : Bool) (rows : List Row) :
    Prop where
  nothingForgotten : LooksVerified spectralEnabled rows → ∀ row ∈ rows,
    isMeasured row = true ∧ hasIssue row = false ∧
      (spectralEnabled = true → row.authentic ≠ .unknown)
  ranked : ∀ before row after, rows = before ++ row :: after → row.integrityOk.eqZero = false →
    min sampleLimit (rows.countP (·.integrityOk.eqZero)) ≤ rankAt ranksBefore before row after

section Honest

variable {codecCase : CodecCase} {spectralEnabled : Bool} {albumId : Option Int}
  {rows : List Row}

theorem isListedBefore_trans (first second third : Row)
    (left : isListedBefore first second = true) (right : isListedBefore second third = true) :
    isListedBefore first third = true := by
  simp only [isListedBefore, Bool.or_eq_true, Bool.and_eq_true, decide_eq_true_eq] at *
  cases left with
  | inl less =>
      cases right with
      | inl less' => exact .inl (Nat.lt_trans less less')
      | inr same => exact .inl (same.1 ▸ less)
  | inr same =>
      cases right with
      | inl less => exact .inl (same.1 ▸ less)
      | inr same' => exact .inr ⟨same.1.trans same'.1, String.le_trans same.2 same'.2⟩

/-- No stored number is the constant that `_track_priority` looks for. -/
theorem trackPriority_stored {row : Row} (stored : FromSqlite row) :
    trackPriority row = (if hasIssue row then 1 else 3, row.path.getD "") := by
  have number : ∀ flag : Flag, (∀ value, flag ≠ .bool value) → flag.isFalse = false := by
    intro flag other
    cases flag with
    | unknown => rfl
    | bool value => exact absurd rfl (other value)
    | int value => rfl
  rw [trackPriority, number _ stored.integrity, number _ stored.checksum]
  cases hasIssue row <;> rfl

theorem isListedBefore_stored {first second : Row} (stored : FromSqlite first)
    (stored' : FromSqlite second) : isListedBefore first second = issueThenPath first second := by
  rw [isListedBefore, trackPriority_stored stored, trackPriority_stored stored', issueThenPath]
  cases hasIssue first <;> cases hasIssue second <;> rfl

theorem isListedBefore_total (first second : Row) :
    (isListedBefore first second || isListedBefore second first) = true := by
  simp only [isListedBefore, Bool.or_eq_true, Bool.and_eq_true, decide_eq_true_eq]
  cases Nat.lt_trichotomy (trackPriority first).1 (trackPriority second).1 with
  | inl less => exact .inl (.inl less)
  | inr rest =>
      cases rest with
      | inr more => exact .inr (.inl more)
      | inl same =>
          cases String.le_total (trackPriority first).2 (trackPriority second).2 with
          | inl below => exact .inl (.inr ⟨same, below⟩)
          | inr above => exact .inr (.inr ⟨same.symm, above⟩)

theorem shown_eq_false {flag : Flag} : shown flag = some false ↔ flag.eqZero = true := by
  cases flag <;> simp [shown, Flag.truthy, Flag.eqZero]

/-- The defects come first as far as tracks are listed, where none is sound of those that rank
so early. -/
theorem ranked_iff :
    ((((displayRows rows).take sampleLimit).map sampleFile).Pairwise
        (fun earlier later => later.integrityOk = some false → earlier.integrityOk = some false) ∧
      ∀ row ∈ (displayRows rows).drop sampleLimit, row.integrityOk.eqZero = true →
        ∀ file ∈ ((displayRows rows).take sampleLimit).map sampleFile,
          file.integrityOk = some false) ↔
      ∀ before row after, rows = before ++ row :: after → row.integrityOk.eqZero = false →
        min sampleLimit (rows.countP (·.integrityOk.eqZero)) ≤
          rankAt isListedBefore before row after := by
  have count : rows.countP (·.integrityOk.eqZero) =
      (displayRows rows).countP (·.integrityOk.eqZero) :=
    ((List.mergeSort_perm rows isListedBefore).countP_eq _).symm
  rw [← forall_take_mergeSort_iff isListedBefore_trans isListedBefore_total, count,
    ← displayRows, ← forall_front_iff, List.pairwise_map]
  simp only [List.forall_mem_map, sampleFile, shown_eq_false]

theorem truthy_of_known {flag : Flag} (known : flag ≠ .unknown) (set_ : flag.eqZero = false) :
    flag.truthy = true := by
  cases flag with
  | unknown => contradiction
  | bool value => simpa [Flag.eqZero, Flag.truthy] using set_
  | int value => simpa [Flag.eqZero, Flag.truthy] using set_

theorem known_of_truthy {flag : Flag} (truthy : flag.truthy = true) : flag ≠ .unknown := by
  intro unknown
  rw [unknown] at truthy
  contradiction

/-- The last bucket means what it says where the rows that the rollup passes over and the fields
that it does not read are in order. -/
theorem verified_iff :
    (primaryBucket spectralEnabled rows = .ok → (∀ row ∈ rows, Verified spectralEnabled row) ∧
        ∃ tier, 1 < tier ∧ ∀ row ∈ rows, rowTier row = tier) ↔
      (LooksVerified spectralEnabled rows → ∀ row ∈ rows,
        isMeasured row = true ∧ hasIssue row = false ∧
          (spectralEnabled = true → row.authentic ≠ .unknown)) := by
  rw [primaryBucket_eq_ok_iff]
  constructor
  · intro promise looks row present
    have verified := (promise looks).1 row present
    exact ⟨isMeasured_of_current verified.measured, verified.issue,
      fun enabled => known_of_truthy (verified.authentic enabled).2⟩
  · intro complete looks
    constructor
    · intro row present
      obtain ⟨measured, issue, verdict⟩ := complete looks row present
      have passes := looks.each row present measured
      constructor
      · rw [measuredRowCurrent, Bool.and_eq_true, decide_eq_true_eq, decide_eq_true_eq]
        exact ⟨of_decide_eq_true measured, passes.metadata⟩
      · exact passes.lossless
      · exact passes.integrity
      · exact passes.sound
      · exact passes.checksum
      · exact issue
      · intro enabled
        have spectral := passes.required enabled
        have checked := passes.spectral spectral
        refine ⟨?_, truthy_of_known (verdict enabled) checked.2⟩
        rw [spectralRowCurrent, Bool.and_eq_true, decide_eq_true_eq, decide_eq_true_eq]
        exact ⟨of_decide_eq_true spectral, checked.1⟩
    · obtain ⟨tier, high, common⟩ := looks.tier
      exact ⟨tier, high, fun row present => common row present (complete looks row present).1⟩

/-- Stored rows rank by their issues and their paths. -/
theorem complete_stored (stored : ∀ row ∈ rows, FromSqlite row) :
    Complete isListedBefore spectralEnabled rows ↔ Complete issueThenPath spectralEnabled rows := by
  have same : ∀ before row after, rows = before ++ row :: after →
      rankAt isListedBefore before row after = rankAt issueThenPath before row after := by
    intro before row after split
    subst split
    have here := stored row (by simp)
    rw [rankAt, rankAt]
    congr 1
    · apply List.countP_congr
      intro other listed
      rw [isListedBefore_stored (stored other (List.mem_append_left _ listed)) here]
    · apply List.countP_congr
      intro other listed
      rw [isListedBefore_stored here (stored other (by simp [listed]))]
  constructor
  · intro complete
    refine ⟨complete.nothingForgotten, ?_⟩
    intro before row after split sound
    rw [← same before row after split]
    exact complete.ranked before row after split sound
  · intro complete
    refine ⟨complete.nothingForgotten, ?_⟩
    intro before row after split sound
    rw [same before row after split]
    exact complete.ranked before row after split sound

/-- The ranking of an album is honest exactly where nothing was forgotten that could have kept it
from the last bucket, and enough tracks rank before each sound one: those of stored rows that have
an issue, or come first by their paths. -/
theorem honest_iff (codecCase : CodecCase) (spectralEnabled : Bool) (albumId : Option Int)
    (rows : List Row) :
    (Honest codecCase spectralEnabled albumId rows ↔
        Complete isListedBefore spectralEnabled rows) ∧
      ((∀ row ∈ rows, FromSqlite row) →
        (Honest codecCase spectralEnabled albumId rows ↔
          Complete issueThenPath spectralEnabled rows)) := by
  have exact_ : Honest codecCase spectralEnabled albumId rows ↔
      Complete isListedBefore spectralEnabled rows := by
    constructor
    · intro honest
      exact ⟨verified_iff.mp honest.verified, ranked_iff.mp ⟨honest.defectsFirst, honest.notCut⟩⟩
    · intro complete
      have listed := ranked_iff.mpr complete.ranked
      exact ⟨verified_iff.mpr complete.nothingForgotten, listed.1, listed.2⟩
  refine ⟨exact_, ?_⟩
  intro stored
  rw [exact_, complete_stored stored]

/-- A track of a hi-res album with evidence of every kind. -/
def hiResRow : Row where
  trackfileId := 1
  albumId := some 7
  path := some "/music/a.flac"
  status := some "measured"
  codec := some "flac"
  sampleRate := some 96000
  bitDepth := some 24
  lossless := .int 1
  integrityOk := .int 1
  checksumOk := .int 1
  sensorVersion := some metadataSensorVersion
  integritySensorVersion := some integritySensorVersion
  authentic := .int 1
  spectralStatus := some "measured"
  spectralSensorVersion := some spectralSensorVersion

/-- A track of it whose file was not there to measure. -/
def missingRow : Row where
  trackfileId := 2
  albumId := some 7
  path := some "/music/b.flac"
  status := some "unmeasured"
  reason := some "file not found"

/-- A track of it that cannot be decoded. -/
def brokenRow : Row :=
  { hiResRow with
    trackfileId := 3
    path := some "/music/c.flac"
    integrityIssue := some "decode_error"
    integrityOk := .int 0 }

/-- The case of plain names. -/
def plainCase : CodecCase where
  lower := String.toLower
  upper := String.toUpper
  strip := id

/-- A defect with an issue is listed before a sound track with a smaller path. -/
theorem honest_broken : Honest plainCase true (some 7) [hiResRow, brokenRow] := by
  have stored : ∀ row ∈ [hiResRow, brokenRow], FromSqlite row := by
    simp only [List.forall_mem_cons, List.not_mem_nil, false_implies, implies_true, and_true]
    refine ⟨⟨?_, ?_⟩, ?_, ?_⟩
    all_goals
      intro value same
      cases same
  refine ((honest_iff plainCase true (some 7) [hiResRow, brokenRow]).2 stored).mpr ⟨?_, ?_⟩
  · intro looks
    exact absurd (looks.each brokenRow (by simp) (by decide)).sound (by decide)
  · intro before row after split sound
    cases before with
    | nil =>
        obtain ⟨rfl, rfl⟩ := List.cons.inj split
        decide
    | cons first before =>
        obtain ⟨rfl, rest⟩ := List.cons.inj split
        cases before with
        | nil =>
            obtain ⟨rfl, rfl⟩ := List.cons.inj rest
            exact absurd sound (by decide)
        | cons second before =>
            simp at rest

/-- An album with a track that was never measured stands as verified. -/
theorem not_honest_unmeasured : ¬ Honest plainCase true (some 7) [hiResRow, missingRow] := by
  intro honest
  have ok : primaryBucket true [hiResRow, missingRow] = .ok := by decide
  have missing := (honest.verified ok).1 missingRow (by simp)
  exact absurd missing.measured (by decide)

end Honest

end Mintarr.Dashboard
