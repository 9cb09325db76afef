import Mintarr.Policy.LibraryComparison
import Mintarr.Policy.Verification

/-!
# The two optional adjustments

Between `decide` and the release identity two opt-in stages may change the audio
decision: the CD-rip evidence and the comparison with the measured library.
-/

namespace Mintarr.Policy

open Evidence Lib VerificationDecision

/-! ## CD-rip evidence -/

/-- The status of a rip. -/
inductive RipStatus where
  | pass | warn | skipped
  deriving DecidableEq, Repr

/-- What the decision reads of a `CdRipEvidence`. -/
structure CdRipEvidence where
  detected : Bool
  status : RipStatus
  logFilename : Option String
  /-- `accuraterip.accurate`. -/
  accurate : Bool
  deriving DecidableEq, Repr

namespace CdRipEvidence

/-- AccurateRip verified the rip. -/
def verified (evidence : CdRipEvidence) : Bool :=
  evidence.status = .pass && evidence.accurate

/-- A rip log contradicts the rip. -/
def contradicted (evidence : CdRipEvidence) : Bool :=
  evidence.status = .warn && evidence.logFilename.isSome

end CdRipEvidence

/-- `_apply_cd_rip_scoring`. -/
def applyCdRipScoring (evidence : CdRipEvidence) (audio : VerificationDecision) :
    VerificationDecision :=
  if audio = .reviewRequired && evidence.verified then .acceptProvisional
  else if audio.autoImports && evidence.contradicted then .reviewRequired
  else audio

theorem keepsRefusal_applyCdRipScoring (evidence : CdRipEvidence) :
    KeepsRefusal (applyCdRipScoring evidence) := rfl

theorem neverRefuses_applyCdRipScoring (evidence : CdRipEvidence) :
    NeverRefuses (applyCdRipScoring evidence) := by
  intro audio
  cases audio <;> cases verified : evidence.verified <;>
    cases contradicted : evidence.contradicted <;>
      simp [applyCdRipScoring, verified, contradicted, autoImports, bot_eq_block]

/-- A verified rip lifts a review; a contradicted one holds an acceptance back. -/
theorem autoImports_applyCdRipScoring_iff {evidence : CdRipEvidence}
    {audio : VerificationDecision} :
    (applyCdRipScoring evidence audio).autoImports = true ↔
      audio.autoImports = true ∧ evidence.contradicted = false ∨
        audio = .reviewRequired ∧ evidence.verified = true := by
  cases audio <;> cases verified : evidence.verified <;>
    cases contradicted : evidence.contradicted <;>
      simp [applyCdRipScoring, verified, contradicted, autoImports]

/-! ## Measured existing library -/

/-- `_map_measured_verdict`. -/
def mapMeasuredVerdict (verdict : ComparisonVerdict) (audio : VerificationDecision) :
    VerificationDecision :=
  if audio = .block then .block
  else if verdict ∈ [.downgrade, .review] && audio.autoImports then .reviewRequired
  else if verdict = .upgrade && audio = .reviewRequired then .acceptProvisional
  else audio

theorem keepsRefusal_mapMeasuredVerdict (verdict : ComparisonVerdict) :
    KeepsRefusal (mapMeasuredVerdict verdict) := rfl

theorem neverRefuses_mapMeasuredVerdict (verdict : ComparisonVerdict) :
    NeverRefuses (mapMeasuredVerdict verdict) := by
  intro audio
  cases verdict <;> cases audio <;> decide

/-- A comparison the candidate does not win accepts nothing. -/
theorem autoImports_mapMeasuredVerdict_of_lost {verdict : ComparisonVerdict}
    (lost : verdict = .downgrade ∨ verdict = .review) (audio : VerificationDecision) :
    (mapMeasuredVerdict verdict audio).autoImports = false := by
  rcases lost with rfl | rfl <;> cases audio <;> rfl

/-- What the decision reads of a per-file Detective entry; both fields are as
`_as_int_or_none` reads them. -/
structure FileEvidence where
  bitDepth : Option Int
  sampleRate : Option Int
  deriving DecidableEq, Repr

/-- What is known of the candidate when it is compared. -/
structure Candidate where
  files : List FileEvidence
  verdict : String
  overrides : List Override
  counts : TrackCounts

namespace Candidate

/-- `valid` of `_candidate_quality`. -/
def valid (candidate : Candidate) : Bool :=
  !(([.codecMismatch, .flacTFail, .validatorError, .noAudioFiles] : List Override).any
    (· ∈ candidate.overrides))

/-- `authentic` of `_candidate_quality`. -/
def authentic (candidate : Candidate) : Bool :=
  candidate.verdict = "AUTHENTIC" && .fakeHiRes ∉ candidate.overrides

/-- `_candidate_quality`. -/
def quality (candidate : Candidate) : CandidateQuality :=
  let tiers := candidate.files.map fun file =>
    tierRank candidate.valid file.bitDepth file.sampleRate
  { valid := candidate.valid
    authentic := candidate.authentic
    tier := tiers.min?.getD 0
    tierKnown := !candidate.files.isEmpty &&
      candidate.files.all fun file => file.bitDepth.isSome && file.sampleRate.isSome
    complete := 0 < candidate.counts.expected &&
      candidate.counts.expected ≤ candidate.counts.new }

end Candidate

/-- The library as `_apply_measured_existing` finds it: the mount, the evidence rows of
the matched albums, and the two tiers the operator opted into. -/
structure MeasuredLibrary where
  library : Library
  rows : List Row
  spectralEnabled : Bool
  requireIntegrity : Bool

namespace MeasuredLibrary

/-- The rollup of the fresh rows; `none` when there is nothing to decide on. -/
def existing (measured : MeasuredLibrary) : Option AlbumQuality :=
  if measured.library.configured then
    albumQuality ((measured.rows.filter measured.library.isMeasuredRowFresh).map
      (decisionEvidenceView measured.library))
  else none

/-- The comparison that `_apply_measured_existing` acts on. -/
def verdict (measured : MeasuredLibrary) (candidate : Candidate) :
    Option ComparisonVerdict :=
  measured.existing.map fun existing =>
    compare candidate.quality existing
      (0 < candidate.counts.expected && candidate.counts.existing < candidate.counts.expected)
      measured.spectralEnabled measured.requireIntegrity

end MeasuredLibrary

/-- `_apply_measured_existing`, given the comparison it makes. -/
def applyMeasuredExisting (verdict : Option ComparisonVerdict)
    (audio : VerificationDecision) : VerificationDecision :=
  match verdict with
  | none => audio
  | some verdict => mapMeasuredVerdict verdict audio

theorem keepsRefusal_applyMeasuredExisting (verdict : Option ComparisonVerdict) :
    KeepsRefusal (applyMeasuredExisting verdict) := by
  cases verdict with
  | none => rfl
  | some verdict => exact keepsRefusal_mapMeasuredVerdict verdict

theorem neverRefuses_applyMeasuredExisting (verdict : Option ComparisonVerdict) :
    NeverRefuses (applyMeasuredExisting verdict) := by
  cases verdict with
  | none => exact fun _ => id
  | some verdict => exact neverRefuses_mapMeasuredVerdict verdict

/-- A candidate that failed a gate or is not known to be genuine loses against whatever
was measured. -/
theorem verdict_of_unproven {measured : MeasuredLibrary} {candidate : Candidate}
    {existing : AlbumQuality} (present : measured.existing = some existing)
    (unproven : candidate.valid = false ∨ candidate.authentic = false) :
    ∃ verdict, measured.verdict candidate = some verdict ∧
      (verdict = .downgrade ∨ verdict = .review) := by
  have unproven : candidate.quality.valid = false ∨ candidate.quality.authentic = false :=
    unproven
  rw [MeasuredLibrary.verdict, present, Option.map_some]
  exact ⟨_, rfl, compare_of_unproven unproven⟩

/-- Such a candidate stays accepted only where there is nothing to compare it with. -/
theorem autoImports_applyMeasuredExisting_iff {measured : MeasuredLibrary}
    {candidate : Candidate} {audio : VerificationDecision}
    (unproven : candidate.valid = false ∨ candidate.authentic = false) :
    (applyMeasuredExisting (measured.verdict candidate) audio).autoImports = true ↔
      audio.autoImports = true ∧ measured.existing = none := by
  cases present : measured.existing with
  | none => simp [MeasuredLibrary.verdict, present, applyMeasuredExisting]
  | some existing =>
      rcases verdict_of_unproven present unproven with ⟨verdict, compared, lost⟩
      simp [compared, applyMeasuredExisting, autoImports_mapMeasuredVerdict_of_lost lost]

end Mintarr.Policy
