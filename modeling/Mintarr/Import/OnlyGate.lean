import Mintarr.Import.Gates
import Mintarr.Policy.FakeVeto

/-!
# Is the V2 decision the only gate?

With V2 enabled the decision of the fold should be what lets an import pass.  The older
bitrate gate still runs after it and does not know why V2 accepted a candidate: a
suspicious one that completes the album, or a vetoed one that a verified rip lifted, is
stopped there unless it is a fifth better than what exists.
-/

namespace Mintarr.Import

open Policy VerificationDecision

/-- The event refuses the candidate: the output deleted, the grab blocklisted, `BLOCKED`
recorded. -/
def Event.refuses : Event → Bool
  | .outputDeleted | .blocklisted => true
  | .decisionLogged record => record.decision = "BLOCKED"
  | _ => false

namespace ImportContext

variable (context : ImportContext)

/-- With V2 enabled and a known verdict, what V2 accepts proceeds to the ManualImport stage
without a refusal, and what is stopped as `SKIPPED` V2 blocked. -/
def V2DecisionIsOnlyGate : Prop :=
  context.v2Enabled = true → context.detection.detectiveError = none →
    (∃ verdict ∈ knownVerdicts, context.detection.verdict = some verdict) →
    ∀ result, context.verification.computeVerification = some result →
      (result.verificationDecision.autoImports = true →
        ∃ events, context.gates = .proceeds events result ∧
          ∀ event ∈ events, event.refuses = false) ∧
      ∀ events stopped, context.gates = .stopped events stopped →
        stopped.importOutcome = .skipped → result.verificationDecision = .block

/-- V2 accepts a suspicious candidate because it completes the album, and nothing later
objects. -/
def completionAccepted : Bool :=
  hasFakeHiResSignal context.verification.detectiveResult = some false &&
    context.detection.verdict = some "SUSPICIOUS" && !context.verification.codecMismatch &&
    !context.verification.validatorError && context.verification.counts.isCompleteUpgrade &&
    !context.verification.ripContradicted && !context.verification.measuredApplies &&
    context.verification.identityPasses

/-- The older gate overrules V2: no bitrate upgrade, of a candidate that V2 accepts for
completing the album or past the veto. -/
def legacyOverrules : Bool :=
  context.v2Enabled && context.detection.detectiveError = none && context.legacyBlocks &&
    (context.completionAccepted || context.verification.vetoBypassed)

variable {context}

/-- A fake or suspicious verdict is what the verification sees. -/
theorem normalizedVerdict_of_fakeVerdict {verdict : String}
    (given : context.detection.verdict = some verdict) (fake : verdict ∈ fakeVerdicts) :
    context.verification.normalizedVerdict = verdict := by
  have named : verdict ≠ "UNKNOWN" ∧ verdict ≠ "" := by
    constructor <;> intro equal <;> simp [equal, fakeVerdicts] at fake
  exact (VerificationInput.normalizedVerdict_eq_iff _ named.1 named.2).mpr given

/-- Without a bitrate upgrade `decide` accepts, of the fake and the suspicious, only the
suspicious that complete the album. -/
theorem autoImports_decide_of_legacyBlocks {fakeHiRes : Bool}
    (blocks : context.legacyBlocks = true) :
    (context.verification.decideInput fakeHiRes).decide.autoImports = true ↔
      fakeHiRes = false ∧ context.detection.verdict = some "SUSPICIOUS" ∧
        context.verification.codecMismatch = false ∧
        context.verification.validatorError = false ∧
        context.verification.counts.isCompleteUpgrade = true := by
  simp only [legacyBlocks, Bool.and_eq_true, Option.any_eq_true, decide_eq_true_eq,
    Bool.not_eq_true'] at blocks
  rcases blocks with ⟨⟨verdict, given, fake⟩, sideways⟩
  have normalized := normalizedVerdict_of_fakeVerdict given fake
  have lower : isKbpsUpgrade (context.verification.decideInput fakeHiRes).existingKbps
      (context.verification.decideInput fakeHiRes).newKbps = false := sideways
  rw [DecideInput.autoImports_decide_iff, VerificationInput.hardGate_decideInput, lower]
  simp only [DecideInput.vetoed, Bool.or_eq_false_iff, decide_eq_false_iff_not]
  simp only [VerificationInput.decideInput, VerificationInput.mem_overrides, normalized, given]
  simp only [fakeVerdicts, List.mem_cons, List.not_mem_nil, or_false] at fake
  rcases fake with rfl | rfl | rfl
  · cases context.verification.codecMismatch <;> cases context.verification.validatorError <;>
      cases fakeHiRes <;> simp
  · simp
  · simp

/-- Of the candidates that the older gate stops, V2 accepts these. -/
theorem autoImports_of_legacyBlocks {fakeHiRes : Bool} {files : List FileEvidence}
    (read : hasFakeHiResSignal context.verification.detectiveResult = some fakeHiRes)
    (blocks : context.legacyBlocks = true) :
    (context.verification.fold fakeHiRes files).decision.autoImports = true ↔
      context.completionAccepted = true ∨ context.verification.vetoBypassed = true := by
  have unproven : context.verification.unproven fakeHiRes = true := by
    have fake := blocks
    simp only [legacyBlocks, Bool.and_eq_true, Option.any_eq_true, decide_eq_true_eq] at fake
    rcases fake with ⟨⟨verdict, given, fake⟩, _⟩
    have other : context.verification.normalizedVerdict ≠ "AUTHENTIC" := by
      rw [normalizedVerdict_of_fakeVerdict given fake]
      intro equal
      simp [equal, fakeVerdicts] at fake
    simp [VerificationInput.unproven, other]
  rw [VerificationInput.autoImports_unproven_iff _ read unproven,
    autoImports_decide_of_legacyBlocks blocks, or_comm]
  simp [completionAccepted, read, and_assoc]

/-- A known verdict without an error passes the fail-closed check. -/
theorem validatorUnavailable_of_known (clean : context.detection.detectiveError = none)
    (known : ∃ verdict ∈ knownVerdicts, context.detection.verdict = some verdict) :
    context.validatorUnavailable = false := by
  rcases known with ⟨verdict, listed, given⟩
  have other : verdict ≠ "UNKNOWN" ∧ verdict ≠ "ERROR" := by
    constructor <;> intro equal <;> simp [equal, knownVerdicts] at listed
  simp [validatorUnavailable, clean, given, other]

/-- A result has its outcome still to come. -/
theorem importOutcome_of_computed {result : VerificationResult}
    (computed : context.verification.computeVerification = some result) :
    result.importOutcome = .pending := by
  rcases (VerificationInput.computeVerification_eq_some_iff _).mp computed with
    ⟨fakeHiRes, files, _, _, rfl⟩
  rfl

/-- Where the gates stop a candidate, they refuse it or hold it for review. -/
theorem refused_or_held {events : List Event} {result : VerificationResult}
    (stopped : context.gates = .stopped events result) :
    (∃ first error, context.refuse first error = .stopped events result) ∨
      (result.importOutcome = .pending ∧ result.verificationDecision = .reviewRequired) := by
  cases computed : context.verification.computeVerification with
  | none => simp [gates, computed] at stopped
  | some first =>
      have pending := importOutcome_of_computed computed
      simp only [gates, computed] at stopped
      split at stopped
      · exact .inl ⟨_, _, stopped⟩
      · split at stopped
        · next reviewed =>
            cases stopped
            rw [Bool.and_eq_true, decide_eq_true_eq] at reviewed
            exact .inr ⟨pending, reviewed.2⟩
        · split at stopped
          · exact .inl ⟨_, _, stopped⟩
          · simp only [legacyGate] at stopped
            split at stopped
            · contradiction
            · split at stopped
              · split at stopped
                · exact .inl ⟨_, _, stopped⟩
                · contradiction
              · contradiction

/-- The older gate looks at known verdicts only. -/
theorem known_of_legacyBlocks (blocks : context.legacyBlocks = true) :
    ∃ verdict ∈ knownVerdicts, context.detection.verdict = some verdict := by
  simp only [legacyBlocks, Bool.and_eq_true, Option.any_eq_true, decide_eq_true_eq] at blocks
  rcases blocks with ⟨⟨verdict, given, fake⟩, _⟩
  simp only [fakeVerdicts, List.mem_cons, List.not_mem_nil, or_false] at fake
  exact ⟨verdict, by rcases fake with rfl | rfl | rfl <;> simp [knownVerdicts], given⟩

/-- A candidate that both accept proceeds without a refusal. -/
theorem proceeds_of_agreement {result : VerificationResult}
    (agrees : context.legacyOverrules = false) (enabled : context.v2Enabled = true)
    (clean : context.detection.detectiveError = none)
    (available : context.validatorUnavailable = false)
    (computed : context.verification.computeVerification = some result)
    (accepted : result.verificationDecision.autoImports = true) :
    ∃ events, context.gates = .proceeds events result ∧
      ∀ event ∈ events, event.refuses = false := by
  have passes : context.legacyBlocks = false := by
    rw [← Bool.not_eq_true]
    intro blocks
    rcases (VerificationInput.computeVerification_eq_some_iff _).mp computed with
      ⟨fakeHiRes, files, read, _, rfl⟩
    have overrules : context.legacyOverrules = true := by
      simpa [legacyOverrules, enabled, clean, blocks] using
        (autoImports_of_legacyBlocks read blocks).mp accepted
    exact Bool.false_ne_true (agrees.symm.trans overrules)
  rcases legacyGate_of_not_legacyBlocks enabled accepted passes with ⟨warnings, proceeds⟩
  refine ⟨warnings.map .warned, ?_, ?_⟩
  · rw [gates_of_accepted computed available accepted, proceeds]
  · simp [Event.refuses]

end ImportContext

/-- A matched file of a two-track release. -/
def matchedItem (path title : String) (track : Int) : ManualImportItem where
  path := path
  artist := some 5
  album := some { id := some 3, currentRelease := some (.number 9) }
  tracks := [⟨track, title⟩]

/-- Both tracks of an album of which the library has one, as FLAC; Detective finds them
suspicious, with content of an MP3 at 320 kbps. -/
def suspiciousCompletion : ImportContext where
  cancelRequested := false
  lidarrKey := true
  v2Enabled := true
  reply := .response 200 "" (.ok
    { overallVerdict := some (some "SUSPICIOUS")
      files := .entries [{ estimatedMp3Bitrate := .ok 320 }] })
  output := [⟨".flac", "one", [], []⟩, ⟨".flac", "two", [], []⟩]
  codecGateSkipped := 0
  items :=
    [matchedItem "/downloads/one.flac" "one" 11, matchedItem "/downloads/two.flac" "two" 12]
  existingKbps := 1411
  existingLabel := "FLAC"
  existingTrackCount := 1
  expectedTrackCount := 2
  cdRip := none
  cdRipScoring := false
  measuredExisting := false
  measured := unmeasuredLibrary
  outputContained := true
  grabInHistory := true

end Mintarr.Import
