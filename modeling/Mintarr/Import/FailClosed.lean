import Mintarr.Import.ManualImport
import Mintarr.Policy.FakeVeto

/-!
# Is the validator gate fail-closed?

Only a healthy output with a known verdict should reach the library.  A failed gate is a
hard override, but two kinds of output slip past every list of known values: an output
without audio files, whose missing audio is no hard override, and a verdict that no list
names, which `decide` scores like any other.
-/

namespace Mintarr.Import

open Policy VerificationDecision

/-- The event changes the library: the ManualImport command or a rescue copy. -/
def Event.mutatesLibrary : Event → Bool
  | .manualImportPosted _ | .rescueCopied _ => true
  | _ => false

namespace ImportContext

variable (context : ImportContext)

/-- The output holds audio and a FLAC file, nothing was dropped by the codec gate, and the
verdict is one the policy knows. -/
def healthy : Bool :=
  0 < countAudioFiles context.output && hasFlacFiles context.output &&
    context.codecGateSkipped ≤ 0 && context.detection.verdict.any (· ∈ knownVerdicts)

/-- With V2 enabled only a healthy output reaches the library, whatever is answered. -/
def FailClosed : Prop :=
  context.v2Enabled = true → ∀ answers : ManualImportAnswers,
    (∃ event ∈ (context.triggerLidarrImport answers).events, event.mutatesLibrary = true) →
      context.healthy = true

/-- `decide` accepts an unhealthy output, and nothing later objects: a suspicious one
without audio as a bitrate upgrade, or audio under an unlisted verdict. -/
def unhealthyAccepted : Bool :=
  hasFakeHiResSignal context.verification.detectiveResult = some false &&
    !context.verification.codecMismatch && !context.verification.validatorError &&
    (if context.verification.noAudioFiles then
      context.detection.verdict = some "SUSPICIOUS" && context.existingKbps < 1400 &&
        context.isUpgrade
    else !context.detection.verdict.any (· ∈ knownVerdicts)) &&
    !context.verification.ripContradicted && !context.verification.measuredApplies &&
    context.verification.identityPasses

/-- An unhealthy output passes every gate: the fail-closed check, V2 and the older one. -/
def leaks : Bool :=
  context.v2Enabled && !context.cancelRequested && context.lidarrKey && !context.healthy &&
    !context.validatorUnavailable && !context.legacyBlocks &&
    (context.unhealthyAccepted || context.verification.vetoBypassed)

variable {context}

/-! ## Reaching the library -/

theorem refuse_spares_library {result : VerificationResult} {error : String} :
    ∀ event ∈ (context.refuse result error).events, event.mutatesLibrary = false := by
  simp only [refuse, GateOutcome.events, sidecar, blocklist]
  split_ifs <;> simp [Event.mutatesLibrary]

theorem holdForReview_spares_library {result : VerificationResult} :
    ∀ event ∈ (context.holdForReview result).events, event.mutatesLibrary = false := by
  simp only [holdForReview, GateOutcome.events, blocklist]
  split_ifs <;> simp [Event.mutatesLibrary]

theorem legacyGate_spares_library {result : VerificationResult} :
    ∀ event ∈ (context.legacyGate result).events, event.mutatesLibrary = false := by
  simp only [legacyGate]
  cases given : context.detection.verdict with
  | none =>
      simp only [GateOutcome.events]
      split <;> simp [Event.mutatesLibrary]
  | some verdict =>
      simp only
      split
      · split
        · exact refuse_spares_library
        · simp only [GateOutcome.events]
          split_ifs <;> simp [Event.mutatesLibrary]
      · simp only [GateOutcome.events]
        split <;> simp [Event.mutatesLibrary]

/-- The gates themselves change nothing in the library. -/
theorem gates_spare_library : ∀ event ∈ context.gates.events, event.mutatesLibrary = false := by
  simp only [gates]
  split
  · simp [GateOutcome.events]
  · split
    · exact refuse_spares_library
    · split
      · exact holdForReview_spares_library
      · split
        · exact refuse_spares_library
        · exact legacyGate_spares_library

/-- Answers under which whatever passes the gates is posted: Lidarr matches a file. -/
def willingAnswers : ManualImportAnswers where
  releaseSwitched := false
  lookup := .ok (200, [{
    path := "/downloads/song.flac", artist := some 5, albumReleaseId := some (.number 9)
    album := some { id := some 3 }, tracks := [⟨11, "song"⟩] }])
  titleFiles := .ok []
  targetGuard := fun _ => none
  cancelRequested := false
  command := .ok 201
  importedCount := 1
  commandPending := false
  rescue := .refused false

theorem manualImport_willingAnswers (context : ImportContext) (result : VerificationResult) :
    ∃ event ∈ (context.manualImport willingAnswers result).events,
      event.mutatesLibrary = true := by
  refine ⟨.manualImportPosted [⟨"/downloads/song.flac", 5, 3, some (.number 9), [11]⟩], ?_, rfl⟩
  have files : manualImportFilesFromItems [{
      path := "/downloads/song.flac", artist := some 5, albumReleaseId := some (.number 9)
      album := some { id := some 3 }, tracks := [⟨11, "song"⟩] }] =
        .ok [⟨"/downloads/song.flac", 5, 3, some (.number 9), [11]⟩] := rfl
  simp [manualImport, willingAnswers, postManualImport, files, ImportRun.after]

/-- An import may reach the library exactly when it begins and passes the gates. -/
theorem reaches_library_iff :
    (∃ answers, ∃ event ∈ (context.triggerLidarrImport answers).events,
        event.mutatesLibrary = true) ↔
      context.cancelRequested = false ∧ context.lidarrKey = true ∧
        ∃ events result, context.gates = .proceeds events result := by
  have spared := context.gates_spare_library
  constructor
  · intro reached
    rcases reached with ⟨answers, event, done, mutates⟩
    cases cancelled : context.cancelRequested with
    | true => simp [triggerLidarrImport, cancelled] at done
    | false =>
        cases key : context.lidarrKey with
        | false => simp [triggerLidarrImport, cancelled, key] at done
        | true =>
            cases gates : context.gates with
            | raised => simp [triggerLidarrImport, cancelled, key, gates] at done
            | stopped events result =>
                simp only [triggerLidarrImport, cancelled, key, gates] at done
                rw [gates] at spared
                rw [spared event done] at mutates
                contradiction
            | proceeds events result => exact ⟨rfl, rfl, events, result, rfl⟩
  · intro passes
    rcases passes with ⟨begins, key, events, result, proceeds⟩
    rcases context.manualImport_willingAnswers result with ⟨event, done, mutates⟩
    refine ⟨willingAnswers, event, ?_, mutates⟩
    simp [triggerLidarrImport, begins, key, proceeds, ImportRun.after, done]

/-! ## What leaks -/

/-- A verdict that the policy does not know is not one of its verdicts when normalized. -/
theorem normalizedVerdict_of_unlisted
    (unlisted : context.detection.verdict.any (· ∈ knownVerdicts) = false) :
    context.verification.normalizedVerdict ∉ knownVerdicts := by
  simp only [VerificationInput.normalizedVerdict, verification]
  cases given : context.detection.verdict with
  | none => decide
  | some verdict =>
      simp only
      split
      · decide
      · simpa [given] using unlisted

/-- An unhealthy output without a codec mismatch has no audio or an unlisted verdict. -/
theorem unlisted_of_unhealthy (unhealthy : context.healthy = false)
    (audible : context.verification.noAudioFiles = false)
    (codec : context.verification.codecMismatch = false) :
    context.detection.verdict.any (· ∈ knownVerdicts) = false := by
  have present : 0 < countAudioFiles context.output :=
    Nat.pos_of_ne_zero (of_decide_eq_false audible)
  rcases context.verification.hasFlacFiles_of_clean audible codec with ⟨flac, complete⟩
  have clean : hasFlacFiles context.output = true ∧ context.codecGateSkipped ≤ 0 :=
    ⟨flac, complete⟩
  simpa [healthy, present, clean] using unhealthy

/-- An unhealthy output is unproven. -/
theorem unproven_of_unhealthy {fakeHiRes : Bool} (unhealthy : context.healthy = false) :
    context.verification.unproven fakeHiRes = true := by
  cases audible : context.verification.noAudioFiles with
  | true => simp [VerificationInput.unproven, audible]
  | false =>
      cases codec : context.verification.codecMismatch with
      | true => simp [VerificationInput.unproven, codec]
      | false =>
          have unlisted := unlisted_of_unhealthy unhealthy audible codec
          have other : context.verification.normalizedVerdict ≠ "AUTHENTIC" := by
            intro genuine
            have unknown := normalizedVerdict_of_unlisted unlisted
            simp [genuine, knownVerdicts] at unknown
          simp [VerificationInput.unproven, other]

/-- Without audio nothing is completed. -/
theorem isCompleteUpgrade_of_noAudioFiles (empty : context.verification.noAudioFiles = true) :
    context.verification.counts.isCompleteUpgrade = false := by
  have none : countAudioFiles context.output = 0 := of_decide_eq_true empty
  simp only [verification, TrackCounts.isCompleteUpgrade, none, Bool.and_eq_false_iff,
    decide_eq_false_iff_not]
  omega

/-- What `decide` accepts of an unhealthy output: a suspicious one without audio as a
bitrate upgrade, and audio under a verdict that no list names. -/
theorem autoImports_decide_of_unhealthy {fakeHiRes : Bool}
    (unhealthy : context.healthy = false) :
    (context.verification.decideInput fakeHiRes).decide.autoImports = true ↔
      fakeHiRes = false ∧ context.verification.codecMismatch = false ∧
        context.verification.validatorError = false ∧
        (if context.verification.noAudioFiles then
          context.detection.verdict = some "SUSPICIOUS" && context.existingKbps < 1400 &&
            context.isUpgrade
        else !context.detection.verdict.any (· ∈ knownVerdicts)) = true := by
  rw [DecideInput.autoImports_decide_iff, VerificationInput.hardGate_decideInput]
  cases codec : context.verification.codecMismatch with
  | true => simp
  | false =>
      cases validator : context.verification.validatorError with
      | true => simp
      | false =>
          cases empty : context.verification.noAudioFiles with
          | true =>
              have incomplete := isCompleteUpgrade_of_noAudioFiles empty
              have score := context.verification.score_of_noAudioFiles fakeHiRes empty
              have given : context.verification.normalizedVerdict = "SUSPICIOUS" ↔
                  context.detection.verdict = some "SUSPICIOUS" :=
                context.verification.normalizedVerdict_eq_iff (by decide) (by decide)
              simp only [DecideInput.vetoed, Bool.or_eq_false_iff, decide_eq_false_iff_not]
              simp only [VerificationInput.decideInput, VerificationInput.mem_overrides, codec,
                validator, score, incomplete]
              by_cases suspicious : context.verification.normalizedVerdict = "SUSPICIOUS"
              · simp [suspicious, given.mp suspicious]
                exact fun _ => Iff.rfl
              · simp [suspicious, mt given.mpr suspicious]
          | false =>
              have unlisted := unlisted_of_unhealthy unhealthy empty codec
              have score := context.verification.le_score_of_clean fakeHiRes empty codec validator
              have unknown := normalizedVerdict_of_unlisted unlisted
              simp only [knownVerdicts, List.mem_cons, not_or] at unknown
              simp only [DecideInput.vetoed, Bool.or_eq_false_iff, decide_eq_false_iff_not]
              simp only [VerificationInput.decideInput, VerificationInput.mem_overrides, codec,
                validator]
              have enough : 20 ≤ (context.verification.scoreAndOverrides fakeHiRes).1 := by omega
              simp [unlisted, unknown, enough]

/-- Which unhealthy outputs V2 accepts. -/
theorem autoImports_of_unhealthy {fakeHiRes : Bool} {files : List FileEvidence}
    (read : hasFakeHiResSignal context.verification.detectiveResult = some fakeHiRes)
    (unhealthy : context.healthy = false) :
    (context.verification.fold fakeHiRes files).decision.autoImports = true ↔
      context.unhealthyAccepted = true ∨ context.verification.vetoBypassed = true := by
  rw [VerificationInput.autoImports_unproven_iff _ read (unproven_of_unhealthy unhealthy),
    autoImports_decide_of_unhealthy unhealthy, or_comm]
  simp [unhealthyAccepted, read, and_assoc]

/-- An unhealthy output passes the gates exactly when it leaks. -/
theorem proceeds_iff_leaks (enabled : context.v2Enabled = true)
    (unhealthy : context.healthy = false) :
    (∃ events result, context.gates = .proceeds events result) ↔
      context.validatorUnavailable = false ∧ context.legacyBlocks = false ∧
        (context.unhealthyAccepted = true ∨ context.verification.vetoBypassed = true) := by
  constructor
  · intro passed
    rcases passed with ⟨events, result, proceeds⟩
    rcases of_gates_proceeds enabled proceeds with ⟨computed, available, accepted, passes⟩
    rcases (VerificationInput.computeVerification_eq_some_iff _).mp computed with
      ⟨fakeHiRes, files, read, _, rfl⟩
    exact ⟨available, passes, (autoImports_of_unhealthy read unhealthy).mp accepted⟩
  · intro accepted
    rcases accepted with ⟨available, passes, accepts⟩
    cases read : hasFakeHiResSignal context.verification.detectiveResult with
    | none => simp [unhealthyAccepted, VerificationInput.vetoBypassed, read] at accepts
    | some fakeHiRes =>
        rcases context.verification.computeVerification_of_read read with ⟨files, computed⟩
        have accepted : (context.verification.result fakeHiRes
            files).verificationDecision.autoImports = true :=
          (autoImports_of_unhealthy read unhealthy).mpr accepts
        rcases legacyGate_of_not_legacyBlocks enabled accepted passes with ⟨warnings, proceeds⟩
        exact ⟨_, _, (gates_of_accepted computed available accepted).trans proceeds⟩

end ImportContext

/-- One FLAC file that Lidarr matched to a track of the wanted release, under an empty
library, with a verdict from outside the policy's lists. -/
def unlistedVerdict : ImportContext where
  cancelRequested := false
  lidarrKey := true
  v2Enabled := true
  reply := .response 200 "" (.ok ⟨some (some "MAYBE"), .entries [{}]⟩)
  output := [⟨".flac", "song", [], []⟩]
  codecGateSkipped := 0
  items := [{
    path := "/downloads/song.flac", artist := some 5
    album := some { id := some 3, currentRelease := some (.number 9) }
    tracks := [⟨11, "song"⟩] }]
  existingKbps := 0
  existingLabel := "nothing"
  existingTrackCount := 0
  expectedTrackCount := 1
  cdRip := none
  cdRipScoring := false
  measuredExisting := false
  measured := unmeasuredLibrary
  outputContained := true
  grabInHistory := true

end Mintarr.Import
