import Mintarr.Policy.ComputeVerification

/-!
# The gates before a ManualImport

`_trigger_lidarr_import` from the Detective call up to the release switch: the call, the
V2 verification, and the four gates that may stop the import.  What the precheck found
is in the context; what the gates do is a list of events.
-/

namespace Mintarr.Import

open Policy VerificationDecision

/-! ## The Detective call -/

/-- What the POST to FLAC Detective comes to: an exception, or a response with the JSON
object of its body, whose parsing may raise as well. -/
inductive DetectiveReply where
  | raised (error : String)
  | response (status : Int) (text : String) (body : Except String DetectiveResult)

/-- The local variables after the call. -/
structure Detection where
  verdict : Option String := none
  newEffectiveKbps : ℚ := 3000
  detectiveError : Option String := none
  result : Option DetectiveResult := none

/-- `worst_est`, or the error that the loop raises. -/
def worstEstimate : DetectiveFiles → Except String ℚ
  | .missing => .ok 0
  | .entries files =>
      files.foldlM (fun worst file => file.estimatedMp3Bitrate.map (max worst ·)) 0
  | .unreadable error => .error error

/-- The verdicts that estimate the real bitrate of the content. -/
def fakeVerdicts : List String := ["SUSPICIOUS", "FAKE_CERTAIN", "FAKE"]

/-- The verdicts the policy knows. -/
def knownVerdicts : List String :=
  ["AUTHENTIC", "WARNING", "SUSPICIOUS", "FAKE", "FAKE_CERTAIN"]

/-- The call and the reading of its reply. -/
def detect : DetectiveReply → Detection
  | .raised error => { detectiveError := some ("connection/timeout: " ++ error) }
  | .response status text body =>
      if status = 200 then
        match body with
        | .error error => { detectiveError := some ("connection/timeout: " ++ error) }
        | .ok result =>
            let verdict := result.overallVerdict.getD (some "UNKNOWN")
            if verdict.any (· ∈ fakeVerdicts) then
              match worstEstimate result.files with
              | .error error =>
                  { verdict, result := some result
                    detectiveError := some ("connection/timeout: " ++ error) }
              | .ok worst =>
                  { verdict, result := some result
                    newEffectiveKbps :=
                      if worst > 0 then worst
                      else if verdict = some "SUSPICIOUS" then 320 else 192 }
            else { verdict, result := some result }
      else
        { detectiveError := some
            ("HTTP " ++ toString status ++ ": " ++ String.ofList (text.toList.take 200)) }

/-! ## The context -/

/-- What an import has collected when the Detective is called, and the settings. -/
structure ImportContext where
  /-- A cancel was requested before the import began. -/
  cancelRequested : Bool
  /-- There is a Lidarr API key. -/
  lidarrKey : Bool
  /-- `V2_VERIFICATION_ENABLED`. -/
  v2Enabled : Bool
  reply : DetectiveReply
  output : List OutputFile
  codecGateSkipped : Int
  items : List ManualImportItem
  existingKbps : Int
  existingLabel : String
  existingTrackCount : Int
  expectedTrackCount : Int
  cdRip : Option CdRipEvidence
  cdRipScoring : Bool
  measuredExisting : Bool
  measured : MeasuredLibrary
  /-- The output is inside `OUTPUT_BASE`, so that it may be deleted. -/
  outputContained : Bool
  /-- Lidarr's history lists the grab, so that it can be blocklisted. -/
  grabInHistory : Bool

namespace ImportContext

variable (context : ImportContext)

/-- The reply as it was read. -/
def detection : Detection := detect context.reply

/-- What `_compute_verification` is called with. -/
def verification : VerificationInput where
  output := context.output
  codecGateSkipped := context.codecGateSkipped
  items := context.items
  verdict := context.detection.verdict
  detectiveError := context.detection.detectiveError
  detectiveResult := context.detection.result
  existingKbps := context.existingKbps
  existingLabel := context.existingLabel
  newEffectiveKbps := context.detection.newEffectiveKbps
  counts :=
    { existing := context.existingTrackCount
      new := countAudioFiles context.output
      expected := context.expectedTrackCount }
  cdRip := context.cdRip
  cdRipScoring := context.cdRipScoring
  measuredExisting := context.measuredExisting
  measured := context.measured

end ImportContext

/-! ## Events -/

/-- A decision record: the decision and the reason of the result, and with V2 enabled the
V2 decision and the outcome. What a caller passes besides is shadowed by these. -/
structure DecisionRecord where
  decision : String
  reason : String
  v2 : Option (VerificationDecision × ImportOutcome)
  deriving DecidableEq

/-- `_decision_record`. -/
def decisionRecord (v2Enabled : Bool) (result : VerificationResult) : DecisionRecord where
  decision := result.legacyDecisionLabel
  reason := result.legacyReason
  v2 := if v2Enabled then some (result.verificationDecision, result.importOutcome) else none

/-- A file of the ManualImport command. -/
structure ImportFile where
  path : String
  artistId : Int
  albumId : Int
  albumReleaseId : Option ReleaseId := none
  trackIds : List Int := []
  deriving DecidableEq, Repr

/-- What an import does to the outside. -/
inductive Event where
  | decisionLogged (record : DecisionRecord)
  | sidecarWritten (archived : Bool)
  | outputDeleted
  | jobFailed (error : String)
  | blocklisted
  | queueCleaned
  | reviewMarked (reason : String)
  | warned (warning : String)
  | releaseSwitched
  | releaseRestored (trigger : String)
  | manualImportPosted (files : List ImportFile)
  | rescueCopied (files : List ImportFile)
  | importFailed (reason : String)
  | importCompleted
  deriving DecidableEq

/-! ## The gates -/

/-- How the gates end. -/
inductive GateOutcome where
  /-- `_compute_verification` raised, and the import with it. -/
  | raised
  | stopped (events : List Event) (result : VerificationResult)
  | proceeds (events : List Event) (result : VerificationResult)

/-- What the gates did. -/
def GateOutcome.events : GateOutcome → List Event
  | .raised => []
  | .stopped events _ | .proceeds events _ => events

namespace ImportContext

variable (context : ImportContext)

/-- `_maybe_write_v2_sidecar`. -/
def sidecar (archived : Bool) : List Event :=
  if context.v2Enabled then [.sidecarWritten archived] else []

/-- The grab is marked failed in Lidarr, if its history lists it. -/
def blocklist : List Event := if context.grabInHistory then [.blocklisted] else []

/-- What a gate does that refuses the candidate: outcome `SKIPPED`, a decision record and an
archived sidecar, the output deleted, the job failed and the grab blocklisted. -/
def refuse (result : VerificationResult) (error : String) : GateOutcome :=
  let skipped := { result with importOutcome := .skipped }
  .stopped
    ([.decisionLogged (decisionRecord context.v2Enabled skipped)] ++ context.sidecar true ++
      (if context.outputContained then [.outputDeleted] else []) ++ [.jobFailed error] ++
      context.blocklist ++ [.queueCleaned])
    skipped

/-- What the review gate does: `_log_decision` and `_create_review_required`, which
blocklists the grab by `decide_blocklist_policy`. -/
def holdForReview (result : VerificationResult) : GateOutcome :=
  let reason := "V2 review required: " ++ result.verdict
  .stopped
    ([.decisionLogged (decisionRecord context.v2Enabled result), .sidecarWritten false] ++
      (if .fakeHiRes ∈ result.overrides then [] else context.blocklist) ++
      [.reviewMarked reason])
    result

/-- The fail-closed check trips. -/
def validatorUnavailable : Bool :=
  context.detection.detectiveError.any (· ≠ "") ||
    context.detection.verdict ∈ [none, some "UNKNOWN", some "ERROR"]

/-- `is_upgrade` of the older bitrate gate. -/
def isUpgrade : Bool :=
  isKbpsUpgrade context.existingKbps context.detection.newEffectiveKbps

/-- The older gate on the verdict and the bitrates, which runs after the V2 gates. -/
def legacyGate (result : VerificationResult) : GateOutcome :=
  let logged : List Event :=
    if context.v2Enabled then []
    else [.decisionLogged (decisionRecord context.v2Enabled result)]
  match context.detection.verdict with
  | none => .proceeds logged result
  | some verdict =>
      if verdict ∈ fakeVerdicts then
        let v2ForcesBlock := context.v2Enabled && result.verificationDecision = .block
        if !context.isUpgrade || v2ForcesBlock then
          let reason := if !context.isUpgrade then "no upgrade" else "v2 policy block"
          context.refuse result ("flac-detective: " ++ verdict ++ " (" ++ reason ++ " vs " ++
            context.existingLabel ++ ")")
        else
          let reason :=
            if context.existingKbps = 0 then "nothing pre-existing"
            else "upgrade from " ++ context.existingLabel
          .proceeds (logged ++ [.warned (verdict ++ " accepted: " ++ reason)]) result
      else .proceeds logged result

/-- From the Detective call to the release switch. -/
def gates : GateOutcome :=
  match context.verification.computeVerification with
  | none => .raised
  | some result =>
      if context.validatorUnavailable then
        let error := context.detection.detectiveError.getD
          ("verdict=" ++ context.detection.verdict.getD "None")
        context.refuse result ("validator unavailable: " ++ error)
      else if context.v2Enabled && result.verificationDecision = .reviewRequired then
        context.holdForReview result
      else if context.v2Enabled && result.verificationDecision = .block then
        context.refuse result ("v2 policy block: " ++ result.legacyReason)
      else context.legacyGate result

/-! ## What each gate does with V2 enabled -/

/-- The older gate stops a candidate, whatever V2 decided. -/
def legacyBlocks : Bool :=
  context.detection.verdict.any (· ∈ fakeVerdicts) && !context.isUpgrade

variable {context} {result : VerificationResult}

/-- The fail-closed check stops every result. -/
theorem gates_of_unavailable (computed : context.verification.computeVerification = some result)
    (unavailable : context.validatorUnavailable = true) :
    ∃ error, context.gates = context.refuse result error := by
  simp [gates, computed, unavailable]

/-- Past the check V2 stops reviews and blocks. -/
theorem gates_of_reviewRequired (enabled : context.v2Enabled = true)
    (computed : context.verification.computeVerification = some result)
    (available : context.validatorUnavailable = false)
    (reviewed : result.verificationDecision = .reviewRequired) :
    context.gates = context.holdForReview result := by
  simp [gates, enabled, computed, available, reviewed]

theorem gates_of_block (enabled : context.v2Enabled = true)
    (computed : context.verification.computeVerification = some result)
    (available : context.validatorUnavailable = false)
    (blocked : result.verificationDecision = .block) :
    ∃ error, context.gates = context.refuse result error := by
  simp [gates, enabled, computed, available, blocked]

/-- What V2 accepts the older gate sees. -/
theorem gates_of_accepted (computed : context.verification.computeVerification = some result)
    (available : context.validatorUnavailable = false)
    (accepted : result.verificationDecision.autoImports = true) :
    context.gates = context.legacyGate result := by
  cases decision : result.verificationDecision <;>
    simp_all [gates, autoImports]

/-- The older gate refuses what V2 accepted on its own grounds only. -/
theorem legacyGate_of_legacyBlocks (blocks : context.legacyBlocks = true) :
    ∃ error, context.legacyGate result = context.refuse result error := by
  simp only [legacyBlocks, Bool.and_eq_true, Option.any_eq_true, decide_eq_true_eq] at blocks
  rcases blocks with ⟨⟨verdict, given, fake⟩, sideways⟩
  simp [legacyGate, given, fake, sideways]

/-- What neither gate stops proceeds, with a warning at most. -/
theorem legacyGate_of_not_legacyBlocks (enabled : context.v2Enabled = true)
    (accepted : result.verificationDecision.autoImports = true)
    (passes : context.legacyBlocks = false) :
    ∃ warnings : List String,
      context.legacyGate result = .proceeds (warnings.map .warned) result := by
  have unblocked : result.verificationDecision ≠ .block := by
    intro blocked
    simp [blocked, autoImports] at accepted
  simp only [legacyGate]
  cases given : context.detection.verdict with
  | none => exact ⟨[], by simp [enabled]⟩
  | some verdict =>
      by_cases fake : verdict ∈ fakeVerdicts
      · have upgrade : context.isUpgrade = true := by
          simpa [legacyBlocks, given, fake] using passes
        exact ⟨[_], by simp [enabled, fake, upgrade, unblocked]; rfl⟩
      · exact ⟨[], by simp [enabled, fake]⟩

/-- With V2 enabled a candidate passes the gates only past each of them. -/
theorem of_gates_proceeds (enabled : context.v2Enabled = true) {events : List Event}
    (proceeds : context.gates = .proceeds events result) :
    context.verification.computeVerification = some result ∧
      context.validatorUnavailable = false ∧
      result.verificationDecision.autoImports = true ∧ context.legacyBlocks = false := by
  cases computed : context.verification.computeVerification with
  | none => simp [gates, computed] at proceeds
  | some other =>
      cases available : context.validatorUnavailable with
      | true =>
          rcases gates_of_unavailable computed available with ⟨error, refused⟩
          rw [refused] at proceeds
          contradiction
      | false =>
          cases decision : other.verificationDecision with
          | reviewRequired =>
              rw [gates_of_reviewRequired enabled computed available decision] at proceeds
              contradiction
          | block =>
              rcases gates_of_block enabled computed available decision with ⟨error, refused⟩
              rw [refused] at proceeds
              contradiction
          | acceptProvisional | accept =>
              have accepted : other.verificationDecision.autoImports = true := by
                rw [decision]
                rfl
              rw [gates_of_accepted computed available accepted] at proceeds
              cases blocks : context.legacyBlocks with
              | true =>
                  obtain ⟨error, refused⟩ : ∃ error, context.legacyGate other =
                    context.refuse other error := legacyGate_of_legacyBlocks blocks
                  rw [refused] at proceeds
                  contradiction
              | false =>
                  rcases legacyGate_of_not_legacyBlocks enabled accepted blocks with
                    ⟨warnings, passed⟩
                  rw [passed] at proceeds
                  cases proceeds
                  exact ⟨rfl, rfl, accepted, rfl⟩

end ImportContext

end Mintarr.Import
