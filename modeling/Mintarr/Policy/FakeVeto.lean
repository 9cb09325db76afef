import Mathlib.Tactic.Tauto
import Mintarr.Policy.ComputeVerification

/-!
# The operator's veto

`decide` sends a fake hi-res signal or a fake verdict to review "so the user retains
veto power".  The CD-rip stage sees only the review, not its reason, and may lift it;
the measured library takes the acceptance back wherever it has evidence.
-/

namespace Mintarr.Policy

open VerificationDecision

/-- The two decisions that leave the candidate to the operator or refuse it. -/
theorem reviewed_or_blocked_iff {decision : VerificationDecision} :
    decision = .reviewRequired ∨ decision = .block ↔ decision.autoImports = false := by
  cases decision <;> simp [autoImports]

/-- The guard marks track counts only. -/
theorem marker_applyTrackCountGuard {identity : IdentityDecision} {counts : TrackCounts}
    {decision : VerificationDecision} {marker : Override}
    (marked : (applyTrackCountGuard identity counts decision).2 = some marker) :
    marker = .editionTracklistMismatch ∨ marker = .trackCountUndercount := by
  simp only [applyTrackCountGuard] at marked
  split_ifs at marked <;> simp_all

/-- A reply whose entries can be read for one purpose can be read for the other. -/
theorem detectiveFileEvidence_of_hasFakeHiResSignal (output : List OutputFile)
    {reply : Option DetectiveResult} {fakeHiRes : Bool}
    (read : hasFakeHiResSignal reply = some fakeHiRes) :
    ∃ files, detectiveFileEvidence output reply = some files := by
  cases reply with
  | none => exact ⟨_, rfl⟩
  | some result =>
      cases readable : result.files with
      | missing => simp [detectiveFileEvidence, readable]
      | entries files => simp [detectiveFileEvidence, readable]
      | unreadable => simp [hasFakeHiResSignal, readable] at read

namespace VerificationInput

variable (input : VerificationInput)

/-- A readable reply has a result. -/
theorem computeVerification_of_read {fakeHiRes : Bool}
    (read : hasFakeHiResSignal input.detectiveResult = some fakeHiRes) :
    ∃ files, input.computeVerification = some (input.result fakeHiRes files) := by
  rcases detectiveFileEvidence_of_hasFakeHiResSignal input.output read with ⟨files, listed⟩
  exact ⟨files, input.computeVerification_eq_some_iff.mpr ⟨fakeHiRes, files, read, listed, rfl⟩⟩

/-- The veto holds: a vetoed candidate is never accepted. -/
def VetoHeld : Prop :=
  ∀ result, input.computeVerification = some result →
    .fakeHiRes ∈ result.overrides ∨ result.verdict = "FAKE" ∨ result.verdict = "FAKE_CERTAIN" →
    result.verificationDecision = .reviewRequired ∨ result.verificationDecision = .block

/-- Where the veto is bypassed: no hard gate fails, the candidate is reviewed for the fake
signal or as a fake that replaces nothing or completes the album, a verified rip lifts the
review, no measured evidence takes that back, and identity and track counts pass. -/
def vetoBypassed : Bool :=
  match hasFakeHiResSignal input.detectiveResult with
  | none => false
  | some fakeHiRes =>
      !input.codecMismatch && !input.validatorError &&
        (fakeHiRes || input.normalizedVerdict ∈ ["FAKE_CERTAIN", "FAKE"] &&
          (input.existingKbps ≤ 0 || input.counts.isCompleteUpgrade)) &&
        input.ripVerified && !input.measuredApplies && input.identityPasses

/-- The markers of the result that `decide` did not see are about track counts. -/
theorem fakeHiRes_mem_result_overrides {fakeHiRes : Bool} {files : List FileEvidence} :
    .fakeHiRes ∈ (input.result fakeHiRes files).overrides ↔
      .fakeHiRes ∈ (input.scoreAndOverrides fakeHiRes).2 := by
  constructor
  · intro found
    rcases List.mem_append.mp found with scored | marked
    · exact scored
    · rw [Option.mem_toList, Option.filter_eq_some_iff] at marked
      rcases marker_applyTrackCountGuard marked.1 with equal | equal <;> cases equal
  · exact List.mem_append_left _

/-- The candidates of the veto, read off the result. -/
theorem vetoed_result_iff {fakeHiRes : Bool} {files : List FileEvidence} :
    (.fakeHiRes ∈ (input.result fakeHiRes files).overrides ∨
        (input.result fakeHiRes files).verdict = "FAKE" ∨
        (input.result fakeHiRes files).verdict = "FAKE_CERTAIN") ↔
      (input.decideInput fakeHiRes).vetoed = true := by
  rw [fakeHiRes_mem_result_overrides]
  simp only [DecideInput.vetoed, Bool.or_eq_true, decide_eq_true_eq]
  simp [decideInput, result, or_comm]

/-- A vetoed candidate is accepted exactly when a verified rip lifts its review and
nothing later objects. -/
theorem autoImports_of_vetoed {fakeHiRes : Bool} {files : List FileEvidence}
    (vetoed : (input.decideInput fakeHiRes).vetoed = true) :
    (input.fold fakeHiRes files).decision.autoImports = true ↔
      (input.decideInput fakeHiRes).decide = .reviewRequired ∧ input.ripVerified = true ∧
        input.measuredApplies = false ∧ input.identityPasses = true := by
  have refused : (input.decideInput fakeHiRes).decide.autoImports = false := by
    rw [← Bool.not_eq_true, DecideInput.autoImports_decide_iff]
    simp [vetoed]
  have unproven : input.unproven fakeHiRes = true := by
    simp only [DecideInput.vetoed, decideInput, mem_overrides, Bool.or_eq_true,
      decide_eq_true_eq] at vetoed
    rcases vetoed with signal | fake
    · simp [VerificationInput.unproven, signal]
    · have other : input.normalizedVerdict ≠ "AUTHENTIC" := by
        intro genuine
        simp [genuine] at fake
      simp [VerificationInput.unproven, other]
  rw [input.autoImports_fold_iff unproven, refused]
  simp [and_assoc]

/-- Read through the inputs, the condition of `autoImports_of_vetoed`. -/
theorem vetoBypassed_iff {fakeHiRes : Bool}
    (read : hasFakeHiResSignal input.detectiveResult = some fakeHiRes) :
    input.vetoBypassed = true ↔ (input.decideInput fakeHiRes).vetoed = true ∧
      (input.decideInput fakeHiRes).decide = .reviewRequired ∧ input.ripVerified = true ∧
        input.measuredApplies = false ∧ input.identityPasses = true := by
  rw [DecideInput.decide_reviewRequired_iff, hardGate_decideInput]
  simp only [vetoBypassed, read, DecideInput.vetoed, decideInput, mem_overrides]
  cases input.codecMismatch <;> cases input.validatorError <;> cases fakeHiRes <;>
    simp [and_assoc]

/-- An unproven candidate is accepted past the veto, or because `decide` accepts it. -/
theorem autoImports_unproven_iff {fakeHiRes : Bool} {files : List FileEvidence}
    (read : hasFakeHiResSignal input.detectiveResult = some fakeHiRes)
    (unproven : input.unproven fakeHiRes = true) :
    (input.fold fakeHiRes files).decision.autoImports = true ↔
      input.vetoBypassed = true ∨
        (input.decideInput fakeHiRes).decide.autoImports = true ∧
          input.ripContradicted = false ∧ input.measuredApplies = false ∧
          input.identityPasses = true := by
  have vetoed : (input.decideInput fakeHiRes).decide = .reviewRequired →
      (input.decideInput fakeHiRes).vetoed = true := by
    intro reviewed
    exact (DecideInput.decide_reviewRequired_iff.mp reviewed).2.1
  rw [input.autoImports_fold_iff unproven, input.vetoBypassed_iff read]
  tauto

end VerificationInput

/-- A rip that AccurateRip verified, with its log. -/
def verifiedRip : CdRipEvidence := ⟨true, .pass, some "album.log", true⟩

/-- A library in which nothing was measured. -/
def unmeasuredLibrary : MeasuredLibrary where
  library := ⟨false, fun _ => .error "library not mounted", fun _ => none⟩
  rows := []
  spectralEnabled := false
  requireIntegrity := false

/-- One FLAC file that Lidarr matched to a track of the wanted release, in a rip whose log
is verified, under an empty library; Detective calls it a fake. -/
def fakeRip : VerificationInput where
  output := [⟨".flac", "song", [], []⟩]
  codecGateSkipped := 0
  items := [{
    path := "/downloads/song.flac", artist := some 5
    album := some { id := some 3, currentRelease := some (.number 9) }
    tracks := [⟨11, "song"⟩] }]
  verdict := some "FAKE"
  detectiveError := none
  detectiveResult := some ⟨some (some "FAKE"), .entries []⟩
  existingKbps := 0
  existingLabel := "nothing"
  newEffectiveKbps := 192
  counts := ⟨0, 1, 1⟩
  cdRip := some verifiedRip
  cdRipScoring := true
  measuredExisting := false
  measured := unmeasuredLibrary

end Mintarr.Policy
