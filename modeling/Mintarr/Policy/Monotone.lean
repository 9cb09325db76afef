import Mathlib.Algebra.Order.Ring.Rat
import Mathlib.Data.Nat.Cast.Order.Basic
import Mathlib.Tactic.Linarith
import Mintarr.Policy.Verification

/-!
# The policy is monotone in the evidence

The composition of `compute_components`, `apply_overrides` and `decide` on a candidate
whose codec and validator passed.  Weaker evidence about the candidate, or a better
existing album, never makes the decision more permissive.
-/

namespace Mintarr.Policy

open VerificationDecision

/-- What the policy reads of a candidate without codec mismatch and validator error, and
of the album it would replace. -/
structure PolicyEvidence where
  flacTOk : Bool
  flacTFailed : Bool
  completeAlbum : Bool
  fakeHiRes : Bool
  detectiveVerdict : String
  newKbps : Nat
  existingKbps : Nat
  newTrackCount : Nat
  existingTrackCount : Nat
  expectedTrackCount : Nat
  deriving DecidableEq, Repr

namespace PolicyEvidence

/-- The counts that are passed to `decide`. -/
def counts (evidence : PolicyEvidence) : TrackCounts where
  existing := evidence.existingTrackCount
  new := evidence.newTrackCount
  expected := evidence.expectedTrackCount

/-- `compute_components`, with `ffprobe_ok`. -/
def components (evidence : PolicyEvidence) : Components :=
  computeComponents true evidence.flacTOk evidence.detectiveVerdict evidence.completeAlbum

/-- `apply_overrides`, without codec mismatch and validator error. -/
def overridden (evidence : PolicyEvidence) : Int × List Override :=
  applyOverrides evidence.components false evidence.flacTFailed false evidence.fakeHiRes
    evidence.detectiveVerdict

/-- The arguments with which `decide` is called. -/
def decideInput (evidence : PolicyEvidence) : DecideInput where
  score := evidence.overridden.1
  existingKbps := evidence.existingKbps
  newKbps := evidence.newKbps
  detectiveVerdict := evidence.detectiveVerdict
  overrides := evidence.overridden.2
  counts := evidence.counts

/-- The decision on the evidence. -/
def decision (evidence : PolicyEvidence) : VerificationDecision := evidence.decideInput.decide

/-! ## What each decision takes -/

/-- A fake verdict. -/
def Fake (evidence : PolicyEvidence) : Prop :=
  evidence.detectiveVerdict ∈ ["FAKE_CERTAIN", "FAKE"]

/-- A suspicious verdict. -/
def Suspicious (evidence : PolicyEvidence) : Prop := evidence.detectiveVerdict = "SUSPICIOUS"

/-- The candidate fills an incomplete album, or is a fifth better than a lossy one. -/
def Upgrades (evidence : PolicyEvidence) : Prop :=
  evidence.counts.isCompleteUpgrade = true ∨
    evidence.existingKbps < 1400 ∧
      isKbpsUpgrade evidence.existingKbps evidence.newKbps = true

variable {evidence : PolicyEvidence}

theorem hardGate_decideInput : evidence.decideInput.hardGate = evidence.flacTFailed := by
  apply Bool.eq_iff_iff.mpr
  simp [DecideInput.hardGate, decideInput, overridden, mem_applyOverrides]

theorem vetoed_decideInput (passed : evidence.flacTFailed = false) :
    evidence.decideInput.vetoed = true ↔ evidence.fakeHiRes = true ∨ evidence.Fake := by
  simp [DecideInput.vetoed, decideInput, overridden, mem_applyOverrides, passed, Fake]

/-- With `ffprobe_ok` the score never falls below the low threshold, and a score that no
cap touches is the sum of its components. -/
theorem score_of_not_suspicious (passed : evidence.flacTFailed = false)
    (clear : ¬ evidence.Suspicious) :
    evidence.decideInput.score = evidence.components.sum ∧
      20 ≤ evidence.components.sum := by
  constructor
  · simp only [Suspicious] at clear
    simp [decideInput, overridden, applyOverrides, passed, clear]
  · have detective : 0 ≤ detectiveScore evidence.detectiveVerdict := by
      rw [detectiveScore]
      split_ifs <;> decide
    simp only [components, computeComponents, Components.sum]
    split_ifs <;> omega

/-- Full acceptance takes a high score of a candidate nothing is held against. -/
theorem accept_le_decision_iff :
    .accept ≤ evidence.decision ↔ evidence.flacTFailed = false ∧
      evidence.fakeHiRes = false ∧ ¬ evidence.Fake ∧ ¬ evidence.Suspicious ∧
      70 ≤ evidence.components.sum := by
  cases failed : evidence.flacTFailed with
  | true =>
      rw [decision, DecideInput.decide_of_hardGate (hardGate_decideInput.trans failed)]
      simp only [Bool.true_eq_false, false_and, iff_false]
      decide
  | false =>
      have soft := hardGate_decideInput.trans failed
      have veto := vetoed_decideInput failed
      cases vetoed : evidence.decideInput.vetoed with
      | true =>
          have held : ¬ (evidence.fakeHiRes = false ∧ ¬ evidence.Fake) := by
            rintro ⟨noSignal, genuine⟩
            cases veto.mp vetoed with
            | inl signal => rw [noSignal] at signal; contradiction
            | inr fake => exact genuine fake
          have below : ¬ .accept ≤ evidence.decision := by
            rw [decision, DecideInput.decide_of_vetoed soft vetoed]
            split <;> decide
          constructor
          · intro accepted
            exact absurd accepted below
          · intro clear
            exact absurd ⟨clear.2.1, clear.2.2.1⟩ held
      | false =>
          rw [vetoed] at veto
          have genuine : evidence.fakeHiRes = false ∧ ¬ evidence.Fake := by
            simpa using veto
          rw [decision, DecideInput.decide_of_not_vetoed soft vetoed]
          by_cases suspicious : evidence.Suspicious
          · have verdict : evidence.decideInput.detectiveVerdict = "SUSPICIOUS" := suspicious
            simp only [suspicious, verdict, not_true_eq_false, false_and, and_false, iff_false]
            split_ifs <;> decide
          · have verdict : evidence.decideInput.detectiveVerdict ≠ "SUSPICIOUS" := suspicious
            have score := score_of_not_suspicious failed suspicious
            have low : ¬ evidence.decideInput.score < 20 := by omega
            simp only [verdict, low, genuine, suspicious, decide_false, Bool.and_false,
              if_false, Bool.false_eq_true, not_false_eq_true, true_and]
            rw [score.1]
            split
            · next high => simpa using high
            · next middling =>
                simp only [middling, iff_false]
                decide

/-- An import takes a candidate that is neither vetoed nor a suspicious one that
improves nothing. -/
theorem acceptProvisional_le_decision_iff :
    .acceptProvisional ≤ evidence.decision ↔ evidence.flacTFailed = false ∧
      evidence.fakeHiRes = false ∧ ¬ evidence.Fake ∧
      (evidence.Suspicious → evidence.Upgrades) := by
  have imports : .acceptProvisional ≤ evidence.decision ↔
      evidence.decideInput.decide.autoImports = true := by
    rw [decision]
    cases evidence.decideInput.decide <;> decide
  rw [imports, DecideInput.autoImports_decide_iff, hardGate_decideInput]
  cases failed : evidence.flacTFailed with
  | true => simp
  | false =>
      have veto := vetoed_decideInput failed
      have genuine : evidence.decideInput.vetoed = false ↔
          evidence.fakeHiRes = false ∧ ¬ evidence.Fake := by
        rw [← Bool.not_eq_true, veto]
        simp
      rw [genuine]
      by_cases suspicious : evidence.Suspicious
      · have verdict : evidence.decideInput.detectiveVerdict = "SUSPICIOUS" := suspicious
        simp only [verdict, if_true, suspicious, true_imp_iff, Upgrades, true_and, and_assoc]
        simp [decideInput]
      · have verdict : evidence.decideInput.detectiveVerdict ≠ "SUSPICIOUS" := suspicious
        have score := score_of_not_suspicious failed suspicious
        simp [verdict, suspicious, score.1, score.2]

/-- A review takes a fake hi-res signal, or a candidate that would improve what it
replaces. -/
theorem reviewRequired_le_decision_iff :
    .reviewRequired ≤ evidence.decision ↔ evidence.flacTFailed = false ∧
      (evidence.fakeHiRes = true ∨
        (evidence.Fake → evidence.existingKbps = 0 ∨
          evidence.counts.isCompleteUpgrade = true) ∧
        (evidence.Suspicious → evidence.Upgrades)) := by
  have either : .reviewRequired ≤ evidence.decision ↔
      .acceptProvisional ≤ evidence.decision ∨
        evidence.decideInput.decide = .reviewRequired := by
    rw [decision]
    cases evidence.decideInput.decide <;> decide
  rw [either, acceptProvisional_le_decision_iff, DecideInput.decide_reviewRequired_iff,
    hardGate_decideInput]
  cases failed : evidence.flacTFailed with
  | true => simp
  | false =>
      have veto := vetoed_decideInput failed
      have signal : .fakeHiRes ∈ evidence.decideInput.overrides ↔ evidence.fakeHiRes = true := by
        simp [decideInput, overridden, mem_applyOverrides, failed]
      have apart : evidence.Fake → ¬ evidence.Suspicious := by
        intro fake suspicious
        rw [Fake, suspicious] at fake
        revert fake
        decide
      rw [veto, signal]
      have nothing : evidence.decideInput.existingKbps ≤ 0 ↔ evidence.existingKbps = 0 := by
        simp [decideInput]
      have counts : evidence.decideInput.counts = evidence.counts := rfl
      rw [nothing, counts]
      cases evidence.fakeHiRes with
      | true => simp
      | false =>
          by_cases fake : evidence.Fake
          · simp [fake, apart fake]
          · simp [fake]

/-! ## Weaker evidence -/

/-- How much a verdict speaks for a candidate; `FAKE` and `FAKE_CERTAIN` speak equally
little, and no other string is compared. -/
def verdictRank (verdict : String) : Option Nat :=
  if verdict = "AUTHENTIC" then some 3
  else if verdict = "WARNING" then some 2
  else if verdict = "SUSPICIOUS" then some 1
  else if verdict ∈ ["FAKE_CERTAIN", "FAKE"] then some 0
  else none

/-- The verdict is the same or has gone down. -/
def VerdictWeakens (verdict weaker : String) : Prop :=
  weaker = verdict ∨ ∃ rank ∈ verdictRank verdict, ∃ lower ∈ verdictRank weaker, lower ≤ rank

/-- The evidence about the candidate is no stronger and the album it would replace no
worse, with the same fake hi-res signal and expectation. -/
structure Weakens (evidence weaker : PolicyEvidence) : Prop where
  verdict : VerdictWeakens evidence.detectiveVerdict weaker.detectiveVerdict
  flac_t_ok : weaker.flacTOk = true → evidence.flacTOk = true
  flac_t_failed : evidence.flacTFailed = true → weaker.flacTFailed = true
  complete_album : weaker.completeAlbum = true → evidence.completeAlbum = true
  fake_hi_res : weaker.fakeHiRes = evidence.fakeHiRes
  new_kbps : weaker.newKbps ≤ evidence.newKbps
  existing_kbps : evidence.existingKbps ≤ weaker.existingKbps
  new_track_count : weaker.newTrackCount ≤ evidence.newTrackCount
  existing_track_count : evidence.existingTrackCount ≤ weaker.existingTrackCount
  expected_track_count : weaker.expectedTrackCount = evidence.expectedTrackCount

/-- A verdict that goes down keeps what is held against the candidate, and scores no
higher. -/
theorem verdict_weakens {verdict weaker : String} (weakens : VerdictWeakens verdict weaker) :
    (verdict ∈ ["FAKE_CERTAIN", "FAKE"] → weaker ∈ ["FAKE_CERTAIN", "FAKE"]) ∧
      (verdict = "SUSPICIOUS" → weaker = "SUSPICIOUS" ∨ weaker ∈ ["FAKE_CERTAIN", "FAKE"]) ∧
      detectiveScore weaker ≤ detectiveScore verdict := by
  cases weakens with
  | inl same =>
      rw [same]
      exact ⟨id, .inl, le_refl _⟩
  | inr lowered =>
      obtain ⟨rank, ranked, lower, rankedLower, below⟩ := lowered
      simp only [verdictRank, Option.mem_def] at ranked rankedLower
      simp only [detectiveScore]
      refine ⟨?_, ?_, ?_⟩
      · intro fake
        grind
      · intro suspicious
        grind
      · grind

variable {weaker : PolicyEvidence}

theorem fake_of_weakens (weakens : Weakens evidence weaker) (fake : evidence.Fake) :
    weaker.Fake :=
  (verdict_weakens weakens.verdict).1 fake

theorem suspicious_of_weakens (weakens : Weakens evidence weaker)
    (suspicious : evidence.Suspicious) : weaker.Suspicious ∨ weaker.Fake :=
  (verdict_weakens weakens.verdict).2.1 suspicious

theorem completeUpgrade_of_weakens (weakens : Weakens evidence weaker)
    (fills : weaker.counts.isCompleteUpgrade = true) :
    evidence.counts.isCompleteUpgrade = true := by
  have fewer := weakens.new_track_count
  have more := weakens.existing_track_count
  have same := weakens.expected_track_count
  simp only [TrackCounts.isCompleteUpgrade, Bool.and_eq_true, decide_eq_true_eq] at fills ⊢
  simp only [counts] at fills ⊢
  omega

/-- The bitrate rule compares with a fifth more than exists. -/
theorem kbpsUpgrade_of_weakens (weakens : Weakens evidence weaker)
    (better : isKbpsUpgrade weaker.existingKbps weaker.newKbps = true) :
    isKbpsUpgrade evidence.existingKbps evidence.newKbps = true := by
  simp only [isKbpsUpgrade, Bool.or_eq_true, decide_eq_true_eq] at better ⊢
  have existing := weakens.existing_kbps
  cases better with
  | inl nothing =>
      left
      omega
  | inr beats =>
      right
      have less : (evidence.existingKbps : ℚ) ≤ weaker.existingKbps := Nat.cast_le.mpr existing
      have lower : (weaker.newKbps : ℚ) ≤ evidence.newKbps := Nat.cast_le.mpr weakens.new_kbps
      simp only [Int.cast_natCast] at beats ⊢
      linarith

theorem upgrades_of_weakens (weakens : Weakens evidence weaker) (upgrades : weaker.Upgrades) :
    evidence.Upgrades := by
  cases upgrades with
  | inl fills => exact .inl (completeUpgrade_of_weakens weakens fills)
  | inr better =>
      have lossy := lt_of_le_of_lt weakens.existing_kbps better.1
      exact .inr ⟨lossy, kbpsUpgrade_of_weakens weakens better.2⟩

/-- An album of which nothing exists is upgraded by anything. -/
theorem upgrades_of_nothing (nothing : evidence.existingKbps = 0) : evidence.Upgrades := by
  right
  simp [nothing, isKbpsUpgrade]

theorem sum_of_weakens (weakens : Weakens evidence weaker) :
    weaker.components.sum ≤ evidence.components.sum := by
  have detective := (verdict_weakens weakens.verdict).2.2
  have integrity := weakens.flac_t_ok
  have complete := weakens.complete_album
  simp only [components, computeComponents, Components.sum]
  grind

theorem passed_of_weakens (weakens : Weakens evidence weaker)
    (passed : weaker.flacTFailed = false) : evidence.flacTFailed = false := by
  apply Bool.eq_false_iff.mpr
  intro failed
  rw [weakens.flac_t_failed failed] at passed
  contradiction

/-- The decision is never more permissive on weaker evidence. -/
theorem decision_antitone (weakens : Weakens evidence weaker) :
    weaker.decision ≤ evidence.decision := by
  cases reached : weaker.decision with
  | block =>
      have least : (⊥ : VerificationDecision) ≤ evidence.decision := bot_le
      exact least
  | reviewRequired =>
      have held := reviewRequired_le_decision_iff.mp reached.ge
      apply reviewRequired_le_decision_iff.mpr
      refine ⟨passed_of_weakens weakens held.1, ?_⟩
      rw [← weakens.fake_hi_res]
      refine held.2.imp_right fun review => ⟨?_, ?_⟩
      · intro fake
        cases review.1 (fake_of_weakens weakens fake) with
        | inl nothing =>
            left
            have existing := weakens.existing_kbps
            omega
        | inr fills => exact .inr (completeUpgrade_of_weakens weakens fills)
      · intro suspicious
        cases suspicious_of_weakens weakens suspicious with
        | inl still => exact upgrades_of_weakens weakens (review.2 still)
        | inr fake =>
            apply upgrades_of_weakens weakens
            exact (review.1 fake).elim upgrades_of_nothing .inl
  | acceptProvisional =>
      have held := acceptProvisional_le_decision_iff.mp reached.ge
      apply acceptProvisional_le_decision_iff.mpr
      refine ⟨passed_of_weakens weakens held.1, ?_, ?_, ?_⟩
      · rw [← weakens.fake_hi_res]
        exact held.2.1
      · intro fake
        exact held.2.2.1 (fake_of_weakens weakens fake)
      · intro suspicious
        cases suspicious_of_weakens weakens suspicious with
        | inl still => exact upgrades_of_weakens weakens (held.2.2.2 still)
        | inr fake => exact absurd fake held.2.2.1
  | accept =>
      have held := accept_le_decision_iff.mp reached.ge
      apply accept_le_decision_iff.mpr
      refine ⟨passed_of_weakens weakens held.1, ?_, ?_, ?_, ?_⟩
      · rw [← weakens.fake_hi_res]
        exact held.2.1
      · intro fake
        exact held.2.2.1 (fake_of_weakens weakens fake)
      · intro suspicious
        cases suspicious_of_weakens weakens suspicious with
        | inl still => exact held.2.2.2.1 still
        | inr fake => exact held.2.2.1 fake
      · exact held.2.2.2.2.trans (sum_of_weakens weakens)

/-- A lossy album that an authentic candidate completes. -/
def authenticUpgrade : PolicyEvidence where
  flacTOk := true
  flacTFailed := false
  completeAlbum := true
  fakeHiRes := false
  detectiveVerdict := "AUTHENTIC"
  newKbps := 900
  existingKbps := 320
  newTrackCount := 12
  existingTrackCount := 10
  expectedTrackCount := 12

/-- The same album, lossless and complete already, and a suspicious candidate that lacks a
track. -/
def suspiciousDuplicate : PolicyEvidence :=
  { authenticUpgrade with
    completeAlbum := false
    detectiveVerdict := "SUSPICIOUS"
    newKbps := 330
    existingKbps := 1500
    newTrackCount := 11
    existingTrackCount := 12 }

theorem decision_suspiciousDuplicate_le :
    suspiciousDuplicate.decision ≤ authenticUpgrade.decision ∧
      suspiciousDuplicate.decision = .block ∧ authenticUpgrade.decision = .accept := by
  refine ⟨decision_antitone ?_, by decide, by decide⟩
  refine ⟨.inr ⟨3, by decide, 1, by decide, by decide⟩, ?_, ?_, ?_, ?_, ?_, ?_, ?_, ?_, ?_⟩ <;>
    decide

end PolicyEvidence

end Mintarr.Policy
