import Mintarr.Policy.Adjustments

/-!
# The decision fold

`_compute_verification` folds five stages in a fixed order: `decide`, the CD-rip
scoring, the measured existing library, the release identity and the track-count guard.
The second and the third may relax a decision, the last two tighten it; what holds of
the whole fold follows from what holds of each stage.
-/

namespace Mintarr.Policy

open Lib VerificationDecision

/-- What the fold reads. -/
structure DecisionFold where
  input : DecideInput
  cdRipScoring : Bool
  cdRip : Option CdRipEvidence
  measuredExisting : Bool
  /-- The comparison of `_apply_measured_existing`, when it makes one. -/
  comparison : Option ComparisonVerdict
  identity : IdentityDecision

namespace DecisionFold

variable (fold : DecisionFold)

/-- The CD-rip stage, when a rip was detected and scoring is on. -/
def cdRipStage : VerificationDecision → VerificationDecision :=
  match fold.cdRip with
  | none => id
  | some evidence => if fold.cdRipScoring then applyCdRipScoring evidence else id

/-- The measured-library stage, when it is on. -/
def measuredStage : VerificationDecision → VerificationDecision :=
  if fold.measuredExisting then applyMeasuredExisting fold.comparison else id

/-- The identity stage. -/
def identityStage : VerificationDecision → VerificationDecision :=
  combineAudioIdentityDecision fold.identity

/-- The decision of the track-count guard. -/
def guardStage (decision : VerificationDecision) : VerificationDecision :=
  (applyTrackCountGuard fold.identity fold.input.counts decision).1

/-- The decision of the audio axis. -/
def audio : VerificationDecision := fold.measuredStage (fold.cdRipStage fold.input.decide)

/-- The final decision. -/
def decision : VerificationDecision := fold.guardStage (fold.identityStage fold.audio)

/-- The marker of the track-count guard. -/
def marker : Option Override :=
  (applyTrackCountGuard fold.identity fold.input.counts (fold.identityStage fold.audio)).2

/-! ## The stages -/

theorem keepsRefusal_cdRipStage : KeepsRefusal fold.cdRipStage := by
  rw [cdRipStage]
  split
  · rfl
  · next evidence _ =>
      split
      · exact keepsRefusal_applyCdRipScoring evidence
      · rfl

theorem neverRefuses_cdRipStage : NeverRefuses fold.cdRipStage := by
  rw [cdRipStage]
  split
  · exact fun _ refused => refused
  · next evidence _ =>
      split
      · exact neverRefuses_applyCdRipScoring evidence
      · exact fun _ refused => refused

theorem keepsRefusal_measuredStage : KeepsRefusal fold.measuredStage := by
  rw [measuredStage]
  split
  · exact keepsRefusal_applyMeasuredExisting fold.comparison
  · rfl

theorem neverRefuses_measuredStage : NeverRefuses fold.measuredStage := by
  rw [measuredStage]
  split
  · exact neverRefuses_applyMeasuredExisting fold.comparison
  · exact fun _ refused => refused

/-- The identity stage is a cap. -/
theorem identityStage_eq : fold.identityStage = fun decision => min decision fold.identity.cap :=
  funext fun _ => combineAudioIdentityDecision_eq_min

/-- The guard stage is a cap. -/
theorem guardStage_eq :
    fold.guardStage = fun decision => min decision (guardCap fold.identity fold.input.counts) :=
  funext fun _ => applyTrackCountGuard_eq_min

theorem tightens_identityStage : Tightens fold.identityStage := by
  rw [identityStage_eq]
  exact tightens_cap fold.identity.cap

/-- Of the identities only a wrong album refuses. -/
theorem neverRefuses_identityStage (known : fold.identity ≠ .wrongAlbum) :
    NeverRefuses fold.identityStage := by
  rw [identityStage_eq]
  apply neverRefuses_cap
  cases identity : fold.identity <;> simp_all [IdentityDecision.cap, bot_eq_block]

theorem tightens_guardStage : Tightens fold.guardStage := by
  rw [guardStage_eq]
  exact tightens_cap (guardCap fold.identity fold.input.counts)

theorem neverRefuses_guardStage : NeverRefuses fold.guardStage := by
  rw [guardStage_eq]
  exact neverRefuses_cap guardCap_ne_block

/-! ## What the fold accepts -/

/-- Scoring is on and AccurateRip verified the rip. -/
def ripVerified : Bool := fold.cdRipScoring && fold.cdRip.any (·.verified)

/-- Scoring is on and a log contradicts the rip. -/
def ripContradicted : Bool := fold.cdRipScoring && fold.cdRip.any (·.contradicted)

theorem autoImports_cdRipStage_iff {decision : VerificationDecision} :
    (fold.cdRipStage decision).autoImports = true ↔
      decision.autoImports = true ∧ fold.ripContradicted = false ∨
        decision = .reviewRequired ∧ fold.ripVerified = true := by
  cases detected : fold.cdRip with
  | none => simp [cdRipStage, ripContradicted, ripVerified, detected]
  | some evidence =>
      cases scoring : fold.cdRipScoring with
      | false => simp [cdRipStage, ripContradicted, ripVerified, detected, scoring]
      | true =>
          simp [cdRipStage, ripContradicted, ripVerified, detected, scoring,
            autoImports_applyCdRipScoring_iff]

/-- The final decision is the audio decision under the caps of the other two axes. -/
theorem decision_eq_min :
    fold.decision =
      min (min fold.audio fold.identity.cap) (guardCap fold.identity fold.input.counts) := by
  rw [decision, guardStage_eq, identityStage_eq]

/-- The last two stages accept what the audio axis accepted, of a confirmed identity and
with a plausible number of tracks. -/
theorem autoImports_decision_iff :
    fold.decision.autoImports = true ↔ fold.audio.autoImports = true ∧
      fold.identity.confirms = true ∧
      trackCountGuardTrips fold.identity fold.input.counts = false := by
  rw [autoImports_iff, decision_eq_min, lt_min_iff, lt_min_iff, ← autoImports_iff,
    ← IdentityDecision.confirms_iff, ← trackCountGuardTrips_iff, and_assoc]

/-! ## The fold -/

/-- What `decide` blocks stays blocked. -/
theorem decision_of_decide_block (blocked : fold.input.decide = .block) :
    fold.decision = .block := by
  have audio : KeepsRefusal (fold.measuredStage ∘ fold.cdRipStage) :=
    fold.keepsRefusal_measuredStage.comp fold.keepsRefusal_cdRipStage
  have rest : KeepsRefusal (fold.guardStage ∘ fold.identityStage) :=
    (fold.tightens_guardStage.comp fold.tightens_identityStage).keepsRefusal
  have whole := rest.comp audio
  rw [KeepsRefusal, bot_eq_block] at whole
  rw [decision, DecisionFold.audio, blocked]
  exact whole

/-- The identity bounds the final decision. -/
theorem decision_le_cap : fold.decision ≤ fold.identity.cap := by
  rw [decision_eq_min]
  exact (min_le_left _ _).trans (min_le_right _ _)

/-- A refusal comes from `decide` or from a wrong album. -/
theorem decide_block_of_decision_block (blocked : fold.decision = .block) :
    fold.input.decide = .block ∨ fold.identity = .wrongAlbum := by
  by_cases known : fold.identity = .wrongAlbum
  · exact .inr known
  · have audio : NeverRefuses (fold.measuredStage ∘ fold.cdRipStage) :=
      fold.neverRefuses_measuredStage.comp fold.neverRefuses_cdRipStage
    have rest : NeverRefuses (fold.guardStage ∘ fold.identityStage) :=
      fold.neverRefuses_guardStage.comp (fold.neverRefuses_identityStage known)
    exact .inl ((rest.comp audio) fold.input.decide blocked)

/-- Hard gates and identity keep precedence through the whole fold. -/
theorem decision_precedence :
    (.codecMismatch ∈ fold.input.overrides ∨ .flacTFail ∈ fold.input.overrides ∨
        .validatorError ∈ fold.input.overrides → fold.decision = .block) ∧
      (fold.identity = .wrongAlbum → fold.decision = .block) ∧
      (fold.identity = .ambiguousEdition ∨ fold.identity = .insufficientEvidence →
        fold.decision = .block ∨ fold.decision = .reviewRequired) ∧
      (∀ decision ≠ VerificationDecision.block,
        fold.cdRipStage decision ≠ .block ∧ fold.measuredStage decision ≠ .block ∧
          (fold.identity ≠ .wrongAlbum → fold.identityStage decision ≠ .block) ∧
          fold.guardStage decision ≠ .block) ∧
      ∀ decision, fold.guardStage decision ≤ decision := by
  refine ⟨?hardGate, ?wrongAlbum, ?unclear, ?neverRefuse, fold.tightens_guardStage⟩
  case hardGate =>
    intro hard
    apply fold.decision_of_decide_block
    apply DecideInput.decide_of_hardGate
    simpa [DecideInput.hardGate, or_assoc] using hard
  case wrongAlbum =>
    intro wrong
    have bounded := fold.decision_le_cap
    rw [wrong] at bounded
    exact le_bot_iff.mp bounded
  case unclear =>
    intro unclear
    have bounded : fold.decision ≤ .reviewRequired := by
      have capped := fold.decision_le_cap
      rcases unclear with identity | identity <;> rwa [identity] at capped
    revert bounded
    cases fold.decision <;> decide
  case neverRefuse =>
    intro decision accepted
    refine ⟨?_, ?_, ?_, ?_⟩
    · exact fun refused => accepted (fold.neverRefuses_cdRipStage decision refused)
    · exact fun refused => accepted (fold.neverRefuses_measuredStage decision refused)
    · intro known refused
      exact accepted (fold.neverRefuses_identityStage known decision refused)
    · exact fun refused => accepted (fold.neverRefuses_guardStage decision refused)

end DecisionFold

end Mintarr.Policy
