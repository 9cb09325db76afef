import Mathlib.Data.List.Dedup
import Mintarr.Policy.Precedence
import Mintarr.Policy.ReleaseIdentity

/-!
# `_compute_verification`

The V2 verification result from the context an import has collected.  A reply of the
Detective service is what the code reads of its JSON object; where reading raises, there
is no result.
-/

namespace Mintarr.Policy

open VerificationDecision

/-! ## The output tree -/

/-- A regular file of the output tree: its lower-cased suffix, the normalized title of
its tag or name, and the MBIDs of its tags. -/
structure OutputFile where
  suffix : String
  title : String := ""
  artistMbids : List String := []
  releaseGroupMbids : List String := []
  deriving DecidableEq, Repr

/-- `AUDIO_SUFFIXES`. -/
def audioSuffixes : List String := [".flac", ".m4a", ".mp3", ".ogg", ".aac"]

/-- The audio files of the tree. -/
def audioFiles (output : List OutputFile) : List OutputFile :=
  output.filter (·.suffix ∈ audioSuffixes)

/-- `_count_audio_files`. -/
def countAudioFiles (output : List OutputFile) : Nat := (audioFiles output).length

/-- `_has_flac_files`. -/
def hasFlacFiles (output : List OutputFile) : Bool := output.any (·.suffix = ".flac")

/-- `_single_or_none`. -/
def singleOrNone (values : List String) : Option String :=
  match values.dedup with
  | [value] => some value
  | _ => none

/-- `collect_observed_release`. -/
def collectObservedRelease (output : List OutputFile) : ObservedRelease where
  fileCount := countAudioFiles output
  trackTitles := ((audioFiles output).map (·.title)).toFinset.erase ""
  artistMbid := singleOrNone ((audioFiles output).flatMap (·.artistMbids))
  releaseGroupMbid := singleOrNone ((audioFiles output).flatMap (·.releaseGroupMbids))

/-! ## The Detective reply -/

/-- What is read of an entry of `files`. -/
structure DetectiveFile where
  /-- `bool(f.get("is_fake_high_res"))`. -/
  isFakeHighRes : Bool := false
  /-- `f.get("estimated_mp3_bitrate") or 0`; where it is no number, the error that
  comparing it raises. -/
  estimatedMp3Bitrate : Except String ℚ := .ok 0
  evidence : FileEvidence := ⟨none, none⟩

/-- The `files` of a reply: missing or empty without being a list, a list of readable
entries, or anything else, on which reading raises the error. -/
inductive DetectiveFiles where
  | missing
  | entries (files : List DetectiveFile)
  | unreadable (error : String)

/-- What is read of the JSON object of a reply. -/
structure DetectiveResult where
  /-- `overall_verdict`: missing, `null`, or a string. -/
  overallVerdict : Option (Option String)
  files : DetectiveFiles

/-- `_has_fake_hi_res_signal`; `none` where it raises. -/
def hasFakeHiResSignal : Option DetectiveResult → Option Bool
  | none => some false
  | some result =>
      match result.files with
      | .missing => some false
      | .entries files => some (files.any (·.isFakeHighRes))
      | .unreadable _ => none

/-- `_detective_file_evidence`; `none` where it raises. Without entries every audio file
of the output is listed, with nothing known about it. -/
def detectiveFileEvidence (output : List OutputFile) :
    Option DetectiveResult → Option (List FileEvidence)
  | none => some ((audioFiles output).map fun _ => ⟨none, none⟩)
  | some result =>
      match result.files with
      | .missing => some ((audioFiles output).map fun _ => ⟨none, none⟩)
      | .entries files => some (files.map (·.evidence))
      | .unreadable _ => none

/-! ## The result -/

/-- `ImportOutcome`. -/
inductive ImportOutcome where
  | manualImported | rescued | failed | skipped | pending
  deriving DecidableEq, Repr

/-- `VerificationResult`. -/
structure VerificationResult where
  score : Int
  verificationDecision : VerificationDecision
  importOutcome : ImportOutcome := .pending
  components : Components
  overrides : List Override
  verdict : String
  newKbps : ℚ
  existingKbps : Int
  existingLabel : String
  files : List FileEvidence
  identity : ReleaseIdentityResult

namespace VerificationResult

/-- `_legacy_decision_label`. -/
def legacyDecisionLabel (result : VerificationResult) : String :=
  if result.importOutcome = .rescued then "RESCUED_BY_RESCAN"
  else
    match result.verificationDecision with
    | .accept =>
        if result.verdict = "AUTHENTIC" then "IMPORTED_AUTHENTIC" else "IMPORTED_WITH_WARNING"
    | .acceptProvisional => "IMPORTED_DESPITE_FAKE"
    | .block => "BLOCKED"
    | .reviewRequired => "REVIEW_REQUIRED"

/-- The reasons that an override gives, in the order they are looked for. -/
def overrideReasons : List (Override × String) :=
  [(.codecMismatch, "codec mismatch"), (.flacTFail, "flac -t failed"),
    (.noAudioFiles, "no audio files downloaded"), (.noFlacFiles, "no flac files found"),
    (.validatorError, "validator unavailable"),
    (.editionTracklistMismatch, "edition/tracklist mismatch"),
    (.trackCountUndercount, "candidate has fewer tracks than tracked release")]

/-- `_legacy_reason`. -/
def legacyReason (result : VerificationResult) : String :=
  match overrideReasons.find? (·.1 ∈ result.overrides) with
  | some (_, reason) => reason
  | none =>
      let decision := result.verificationDecision
      let identity := result.identity.decision
      if decision = .block && identity = .wrongAlbum then "wrong album identity"
      else if decision = .reviewRequired && identity = .ambiguousEdition then
        "ambiguous release identity"
      else if decision = .reviewRequired && identity = .insufficientEvidence then
        "insufficient release identity evidence"
      else if result.existingKbps = 0 then "nothing pre-existing"
      else if result.newKbps > result.existingKbps * (6 / 5) then
        "upgrade from " ++ result.existingLabel
      else "score=" ++ toString result.score

end VerificationResult

/-- What `_compute_verification` reads. -/
structure VerificationInput where
  output : List OutputFile
  /-- `codec_gate_skipped` of the job. -/
  codecGateSkipped : Int
  items : List ManualImportItem
  verdict : Option String
  detectiveError : Option String
  detectiveResult : Option DetectiveResult
  existingKbps : Int
  existingLabel : String
  newEffectiveKbps : ℚ
  counts : TrackCounts
  /-- What `evaluate_folder` returns for the output; `none` if it raised. -/
  cdRip : Option CdRipEvidence
  /-- `MINTARR_CD_RIP_SCORING`. -/
  cdRipScoring : Bool
  /-- `MINTARR_MEASURED_EXISTING`. -/
  measuredExisting : Bool
  measured : MeasuredLibrary

namespace VerificationInput

variable (input : VerificationInput)

/-- `verdict or "UNKNOWN"`. -/
def normalizedVerdict : String :=
  match input.verdict with
  | none => "UNKNOWN"
  | some verdict => if verdict = "" then "UNKNOWN" else verdict

/-- `no_audio_files`. -/
def noAudioFiles : Bool := countAudioFiles input.output = 0

/-- `codec_mismatch`: no FLAC among the audio files, or files dropped by the codec gate. -/
def codecMismatch : Bool :=
  (countAudioFiles input.output > 0 && !hasFlacFiles input.output) ||
    input.codecGateSkipped > 0

/-- `validator_error`. -/
def validatorError : Bool :=
  !input.noAudioFiles && (input.detectiveError.any (· ≠ "") ||
    input.normalizedVerdict ∈ ["UNKNOWN", "ERROR"])

/-- `manualimport_complete`. -/
def manualimportComplete : Bool :=
  manualimportAlbumComplete (countAudioFiles input.output) input.items

/-- `components`. -/
def components : Components :=
  computeComponents (!input.noAudioFiles) (!input.validatorError && hasFlacFiles input.output)
    input.normalizedVerdict input.manualimportComplete

/-- `identity_result`. -/
def identity : ReleaseIdentityResult :=
  releaseIdentityResult (collectObservedRelease input.output) input.items
    input.manualimportComplete

/-- `score` and `overrides` before `decide`. -/
def scoreAndOverrides (fakeHiRes : Bool) : Int × List Override :=
  let (score, overrides) := applyOverrides input.components input.codecMismatch false
    input.validatorError fakeHiRes input.normalizedVerdict
  if input.noAudioFiles && .noAudioFiles ∉ overrides then (0, overrides ++ [.noAudioFiles])
  else (score, overrides)

/-- The arguments of `decide`. -/
def decideInput (fakeHiRes : Bool) : DecideInput where
  score := (input.scoreAndOverrides fakeHiRes).1
  existingKbps := input.existingKbps
  newKbps := input.newEffectiveKbps
  detectiveVerdict := input.normalizedVerdict
  overrides := (input.scoreAndOverrides fakeHiRes).2
  counts := input.counts

/-- The candidate as the measured library compares it. -/
def candidate (fakeHiRes : Bool) (files : List FileEvidence) : Candidate where
  files := files
  verdict := input.normalizedVerdict
  overrides := (input.scoreAndOverrides fakeHiRes).2
  counts := input.counts

/-- `_cd_rip_evidence_or_none`. -/
def detectedRip : Option CdRipEvidence := input.cdRip.filter (·.detected)

/-- The decision fold. -/
def fold (fakeHiRes : Bool) (files : List FileEvidence) : DecisionFold where
  input := input.decideInput fakeHiRes
  cdRipScoring := input.cdRipScoring
  cdRip := input.detectedRip
  measuredExisting := input.measuredExisting
  comparison := input.measured.verdict (input.candidate fakeHiRes files)
  identity := input.identity.decision

/-- The result, once the reply has been read. -/
def result (fakeHiRes : Bool) (files : List FileEvidence) : VerificationResult where
  score := (input.scoreAndOverrides fakeHiRes).1
  verificationDecision := (input.fold fakeHiRes files).decision
  components := input.components
  overrides :=
    let overrides := (input.scoreAndOverrides fakeHiRes).2
    overrides ++ ((input.fold fakeHiRes files).marker.filter (· ∉ overrides)).toList
  verdict := input.normalizedVerdict
  newKbps :=
    if input.validatorError || input.noAudioFiles || input.codecMismatch then 0
    else input.newEffectiveKbps
  existingKbps := input.existingKbps
  existingLabel := input.existingLabel
  files
  identity := input.identity

/-- `_compute_verification`. -/
def computeVerification : Option VerificationResult := do
  let fakeHiRes ← hasFakeHiResSignal input.detectiveResult
  let files ← detectiveFileEvidence input.output input.detectiveResult
  return input.result fakeHiRes files

theorem computeVerification_eq_some_iff {result : VerificationResult} :
    input.computeVerification = some result ↔ ∃ fakeHiRes files,
      hasFakeHiResSignal input.detectiveResult = some fakeHiRes ∧
        detectiveFileEvidence input.output input.detectiveResult = some files ∧
        input.result fakeHiRes files = result := by
  simp [computeVerification, Option.bind_eq_some_iff]

/-- Normalizing adds `"UNKNOWN"` and nothing else. -/
theorem normalizedVerdict_eq_iff {verdict : String} (other : verdict ≠ "UNKNOWN")
    (nonempty : verdict ≠ "") :
    input.normalizedVerdict = verdict ↔ input.verdict = some verdict := by
  rw [normalizedVerdict]
  cases given : input.verdict with
  | none => simp [other.symm]
  | some found =>
      by_cases empty : found = ""
      · simp [empty, other.symm, nonempty.symm]
      · simp [empty]

/-! ## The overrides -/

section Overrides

variable (fakeHiRes : Bool)

/-- Which markers the score stage sets. -/
theorem mem_overrides (marker : Override) :
    marker ∈ (input.scoreAndOverrides fakeHiRes).2 ↔
      match marker with
      | .codecMismatch => input.codecMismatch = true
      | .validatorError => input.codecMismatch = false ∧ input.validatorError = true
      | .fakeHiRes =>
          input.codecMismatch = false ∧ input.validatorError = false ∧ fakeHiRes = true
      | .suspiciousCap60 =>
          input.codecMismatch = false ∧ input.validatorError = false ∧
            input.normalizedVerdict = "SUSPICIOUS" ∧ 60 < input.components.sum
      | .noAudioFiles => input.noAudioFiles = true
      | .flacTFail | .noFlacFiles | .editionTracklistMismatch | .trackCountUndercount =>
          False := by
  have split : marker ∈ (input.scoreAndOverrides fakeHiRes).2 ↔
      marker ∈ (applyOverrides input.components input.codecMismatch false
        input.validatorError fakeHiRes input.normalizedVerdict).2 ∨
      marker = .noAudioFiles ∧ input.noAudioFiles = true := by
    rw [scoreAndOverrides]
    cases empty : input.noAudioFiles with
    | true => simp [mem_applyOverrides]
    | false => simp
  rw [split, mem_applyOverrides]
  cases marker <;> simp

theorem score_of_noAudioFiles (empty : input.noAudioFiles = true) :
    (input.scoreAndOverrides fakeHiRes).1 = 0 := by
  simp [scoreAndOverrides, empty, mem_applyOverrides]

/-- Audio without a codec mismatch has a FLAC file and lost nothing at the codec gate. -/
theorem hasFlacFiles_of_clean (audible : input.noAudioFiles = false)
    (codec : input.codecMismatch = false) :
    hasFlacFiles input.output = true ∧ input.codecGateSkipped ≤ 0 := by
  simp only [noAudioFiles, decide_eq_false_iff_not] at audible
  simp only [codecMismatch, Bool.or_eq_false_iff, Bool.and_eq_false_iff] at codec
  have present := codec.1.resolve_left (by simpa using audible)
  exact ⟨by simpa using present, by simpa using codec.2⟩

/-- Readable FLAC scores at least the two technical components. -/
theorem le_score_of_clean (audible : input.noAudioFiles = false)
    (codec : input.codecMismatch = false) (validator : input.validatorError = false) :
    50 ≤ (input.scoreAndOverrides fakeHiRes).1 := by
  have flac := (input.hasFlacFiles_of_clean audible codec).1
  have technical : 50 ≤ input.components.sum := by
    have detective : 0 ≤ detectiveScore input.normalizedVerdict := by
      rw [detectiveScore]
      split_ifs <;> decide
    simp only [components, computeComponents, Components.sum, audible, validator, flac,
      Bool.not_false, Bool.and_true, if_true]
    split <;> omega
  simp only [scoreAndOverrides, applyOverrides, codec, validator, audible]
  simp only [Bool.false_and, Bool.false_eq_true, if_false]
  split_ifs <;> omega

/-- Without audio there is no validator error, only a codec mismatch may block. -/
theorem hardGate_decideInput :
    (input.decideInput fakeHiRes).hardGate = (input.codecMismatch || input.validatorError) := by
  simp only [DecideInput.hardGate, decideInput, mem_overrides]
  cases input.codecMismatch <;> cases input.validatorError <;> rfl

end Overrides

/-! ## What is accepted of an unproven candidate -/

/-- The candidate failed a gate or is not known to be genuine. -/
def unproven (fakeHiRes : Bool) : Bool :=
  input.codecMismatch || input.validatorError || input.noAudioFiles || fakeHiRes ||
    input.normalizedVerdict ≠ "AUTHENTIC"

/-- There is measured evidence of the existing library to compare with. -/
def measuredApplies : Bool := input.measuredExisting && input.measured.existing.isSome

/-- A detected rip that AccurateRip verified lifts reviews. -/
def ripVerified : Bool := input.cdRipScoring && input.detectedRip.any (·.verified)

/-- A detected rip that its log contradicts is held back. -/
def ripContradicted : Bool := input.cdRipScoring && input.detectedRip.any (·.contradicted)

/-- The release identity and the track counts let an accepted candidate pass. -/
def identityPasses : Bool :=
  input.identity.decision.confirms &&
    !trackCountGuardTrips input.identity.decision input.counts

theorem candidate_of_unproven {fakeHiRes : Bool} {files : List FileEvidence}
    (unproven : input.unproven fakeHiRes = true) :
    (input.candidate fakeHiRes files).valid = false ∨
      (input.candidate fakeHiRes files).authentic = false := by
  have valid : (input.candidate fakeHiRes files).valid =
      (!input.codecMismatch && !input.validatorError && !input.noAudioFiles) := by
    simp only [Candidate.valid, candidate, List.any_cons, List.any_nil, mem_overrides]
    cases input.codecMismatch <;> cases input.validatorError <;> cases input.noAudioFiles <;>
      rfl
  cases codec : input.codecMismatch with
  | true => simp [valid, codec]
  | false =>
      cases validator : input.validatorError with
      | true => simp [valid, validator]
      | false =>
          cases empty : input.noAudioFiles with
          | true => simp [valid, empty]
          | false =>
              right
              have doubtful : fakeHiRes = true ∨ input.normalizedVerdict ≠ "AUTHENTIC" := by
                simpa [VerificationInput.unproven, codec, validator, empty] using unproven
              rcases doubtful with signal | other
              · simp [Candidate.authentic, candidate, mem_overrides, codec, validator, signal]
              · simp [Candidate.authentic, candidate, other]

/-- An unproven candidate is accepted in two ways only: `decide` accepts it and no rip
log contradicts it, or `decide` asks for a review and a verified rip lifts that. -/
theorem autoImports_fold_iff {fakeHiRes : Bool} {files : List FileEvidence}
    (unproven : input.unproven fakeHiRes = true) :
    (input.fold fakeHiRes files).decision.autoImports = true ↔
      ((input.decideInput fakeHiRes).decide.autoImports = true ∧
          input.ripContradicted = false ∨
        (input.decideInput fakeHiRes).decide = .reviewRequired ∧ input.ripVerified = true) ∧
      input.measuredApplies = false ∧ input.identityPasses = true := by
  have audio : (input.fold fakeHiRes files).audio.autoImports = true ↔
      ((input.fold fakeHiRes files).cdRipStage
        (input.decideInput fakeHiRes).decide).autoImports = true ∧
        input.measuredApplies = false := by
    rw [DecisionFold.audio, DecisionFold.measuredStage]
    cases enabled : input.measuredExisting with
    | false => simp [fold, enabled, measuredApplies]
    | true =>
        have compared : ∀ decision, (applyMeasuredExisting
            (input.measured.verdict (input.candidate fakeHiRes files)) decision).autoImports =
              true ↔ decision.autoImports = true ∧ input.measured.existing = none :=
          fun _ => autoImports_applyMeasuredExisting_iff (input.candidate_of_unproven unproven)
        simp [fold, enabled, measuredApplies, compared]
  rw [DecisionFold.autoImports_decision_iff, audio, DecisionFold.autoImports_cdRipStage_iff]
  simp [identityPasses, fold, DecisionFold.ripContradicted, DecisionFold.ripVerified,
    ripContradicted, ripVerified, decideInput, and_assoc]

end VerificationInput

end Mintarr.Policy
