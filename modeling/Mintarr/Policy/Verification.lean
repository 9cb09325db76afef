import Mathlib.Algebra.Order.Ring.Rat
import Mintarr.Lib.Stage

/-!
# The verification policy

The pure policy of `verification`: the score, the overrides, `decide`, and the two
stages that read the release identity.  Bitrates are rationals, so that `1.2` is
`6 / 5`; the Detective verdict is an open string.
-/

namespace Mintarr.Policy

open Lib

/-- `VerificationDecision`. -/
inductive VerificationDecision where
  | block | reviewRequired | acceptProvisional | accept
  deriving DecidableEq, Repr

namespace VerificationDecision

/-- What a decision lets happen, from nothing to an import. -/
def permissiveness : VerificationDecision → Nat
  | .block => 0
  | .reviewRequired => 1
  | .acceptProvisional => 2
  | .accept => 3

theorem permissiveness_injective : Function.Injective permissiveness := by
  intro first second equal
  cases first <;> cases second <;> first | rfl | contradiction

instance : LinearOrder VerificationDecision :=
  .lift' permissiveness permissiveness_injective

instance : OrderBot VerificationDecision where
  bot := .block
  bot_le _ := Nat.zero_le _

/-- `decision in {"ACCEPT", "ACCEPT_PROVISIONAL"}`, the decisions that proceed to
ManualImport. -/
def autoImports : VerificationDecision → Bool
  | .accept | .acceptProvisional => true
  | .reviewRequired | .block => false

theorem bot_eq_block : (⊥ : VerificationDecision) = .block := rfl

theorem autoImports_iff {decision : VerificationDecision} :
    decision.autoImports = true ↔ .reviewRequired < decision := by
  cases decision <;> decide

end VerificationDecision

/-- `ReleaseIdentityDecision`. -/
inductive IdentityDecision where
  | sameRelease | sameFamily | ambiguousEdition | insufficientEvidence | wrongAlbum
  deriving DecidableEq, Repr

/-- The override markers. -/
inductive Override where
  | codecMismatch | flacTFail | validatorError | suspiciousCap60 | fakeHiRes
  | noAudioFiles | noFlacFiles | editionTracklistMismatch | trackCountUndercount
  deriving DecidableEq, Repr

/-- `existing_track_count`, `new_track_count` and `expected_track_count`; zero is
unknown. -/
structure TrackCounts where
  existing : Int := 0
  new : Int := 0
  expected : Int := 0
  deriving DecidableEq, Repr

/-- `is_complete_upgrade`: the candidate fills an incomplete album. -/
def TrackCounts.isCompleteUpgrade (counts : TrackCounts) : Bool :=
  0 < counts.expected && counts.existing < counts.expected &&
    counts.expected ≤ counts.new

/-! ## Score and overrides -/

/-- The score components. -/
structure Components where
  ffprobe : Int
  flacT : Int
  detective : Int
  complete : Int
  deriving DecidableEq, Repr

/-- `sum(components.values())`. -/
def Components.sum (components : Components) : Int :=
  components.ffprobe + components.flacT + components.detective + components.complete

/-- `detective_scores`. -/
def detectiveScore (verdict : String) : Int :=
  if verdict = "AUTHENTIC" then 35
  else if verdict = "WARNING" then 18
  else if verdict = "SUSPICIOUS" then 5
  else 0

/-- `compute_components`. -/
def computeComponents (ffprobeOk flacTOk : Bool) (detectiveVerdict : String)
    (completeAlbum : Bool) : Components where
  ffprobe := if ffprobeOk then 25 else 0
  flacT := if flacTOk then 25 else 0
  detective := detectiveScore detectiveVerdict
  complete := if completeAlbum then 15 else 0

/-- `apply_overrides`. -/
def applyOverrides (components : Components)
    (codecMismatch flacTFailed validatorError fakeHiRes : Bool)
    (detectiveVerdict : String) : Int × List Override :=
  if codecMismatch then (0, [.codecMismatch])
  else if flacTFailed then (0, [.flacTFail])
  else if validatorError then (0, [.validatorError])
  else
    let score := components.sum
    let capped := detectiveVerdict = "SUSPICIOUS" && score > 60
    (if capped then 60 else score,
      (if capped then [.suspiciousCap60] else []) ++ if fakeHiRes then [.fakeHiRes] else [])

/-- Which markers `apply_overrides` sets: the first failed gate alone, else the cap and
the fake hi-res signal. -/
theorem mem_applyOverrides {components : Components}
    {codecMismatch flacTFailed validatorError fakeHiRes : Bool} {verdict : String}
    {marker : Override} :
    marker ∈ (applyOverrides components codecMismatch flacTFailed validatorError fakeHiRes
        verdict).2 ↔
      match marker with
      | .codecMismatch => codecMismatch = true
      | .flacTFail => codecMismatch = false ∧ flacTFailed = true
      | .validatorError =>
          codecMismatch = false ∧ flacTFailed = false ∧ validatorError = true
      | .suspiciousCap60 =>
          codecMismatch = false ∧ flacTFailed = false ∧ validatorError = false ∧
            verdict = "SUSPICIOUS" ∧ 60 < components.sum
      | .fakeHiRes =>
          codecMismatch = false ∧ flacTFailed = false ∧ validatorError = false ∧
            fakeHiRes = true
      | .noAudioFiles | .noFlacFiles | .editionTracklistMismatch | .trackCountUndercount =>
          False := by
  rw [applyOverrides]
  cases codecMismatch with
  | true => cases marker <;> simp
  | false =>
      cases flacTFailed with
      | true => cases marker <;> simp
      | false =>
          cases validatorError with
          | true => cases marker <;> simp
          | false =>
              by_cases capped : verdict = "SUSPICIOUS" ∧ 60 < components.sum
              · cases marker <;> cases fakeHiRes <;> simp [capped]
              · cases marker <;> cases fakeHiRes <;> simp_all

/-! ## `decide` -/

/-- The arguments of `decide`. -/
structure DecideInput where
  score : Int
  existingKbps : Int
  newKbps : ℚ
  detectiveVerdict : String
  overrides : List Override
  counts : TrackCounts
  deriving DecidableEq

/-- `is_kbps_upgrade`: nothing exists, or the candidate is a fifth better. -/
def isKbpsUpgrade (existingKbps : Int) (newKbps : ℚ) : Bool :=
  existingKbps = 0 || newKbps > existingKbps * (6 / 5)

namespace DecideInput

/-- The overrides on which `decide` blocks at once. -/
def hardGate (input : DecideInput) : Bool :=
  .codecMismatch ∈ input.overrides || .flacTFail ∈ input.overrides ||
    .validatorError ∈ input.overrides

/-- `decide`. -/
def decide (input : DecideInput) : VerificationDecision :=
  let isCompleteUpgrade := input.counts.isCompleteUpgrade
  if .codecMismatch ∈ input.overrides then .block
  else if .flacTFail ∈ input.overrides then .block
  else if .validatorError ∈ input.overrides then .block
  else if .fakeHiRes ∈ input.overrides then .reviewRequired
  else if input.detectiveVerdict ∈ ["FAKE_CERTAIN", "FAKE"] then
    if input.existingKbps > 0 && !isCompleteUpgrade then .block else .reviewRequired
  else if input.existingKbps ≥ 1400 && input.detectiveVerdict = "SUSPICIOUS" then
    if isCompleteUpgrade then .acceptProvisional else .block
  else if input.detectiveVerdict = "SUSPICIOUS" then
    if isKbpsUpgrade input.existingKbps input.newKbps || isCompleteUpgrade then
      .acceptProvisional
    else .block
  else if input.score < 20 then
    if isCompleteUpgrade then .acceptProvisional else .block
  else if input.score ≥ 70 then .accept
  else .acceptProvisional

variable {input : DecideInput}

/-- A hard gate blocks whatever else holds. -/
theorem decide_of_hardGate (hard : input.hardGate = true) : input.decide = .block := by
  simp only [hardGate, Bool.or_eq_true, decide_eq_true_eq] at hard
  rcases hard with (codec | integrity) | validator
  · simp [DecideInput.decide, codec]
  · simp [DecideInput.decide, integrity]
  · simp [DecideInput.decide, validator]

/-- The candidates of the operator's veto: a fake hi-res signal or a fake verdict. -/
def vetoed (input : DecideInput) : Bool :=
  .fakeHiRes ∈ input.overrides || input.detectiveVerdict ∈ ["FAKE_CERTAIN", "FAKE"]

/-- Past the hard gates a vetoed candidate is reviewed, unless it is a fake that would
replace something without completing it. -/
theorem decide_of_vetoed (soft : input.hardGate = false) (vetoed : input.vetoed = true) :
    input.decide =
      if .fakeHiRes ∈ input.overrides ∨ input.existingKbps ≤ 0 ∨
        input.counts.isCompleteUpgrade = true then .reviewRequired else .block := by
  simp only [hardGate, Bool.or_eq_false_iff, decide_eq_false_iff_not] at soft
  rcases soft with ⟨⟨codec, integrity⟩, validator⟩
  simp only [DecideInput.vetoed, Bool.or_eq_true, decide_eq_true_eq] at vetoed
  by_cases signal : .fakeHiRes ∈ input.overrides
  · simp [DecideInput.decide, codec, integrity, validator, signal]
  · have fake := vetoed.resolve_left signal
    by_cases nothing : input.existingKbps ≤ 0
    · simp [DecideInput.decide, codec, integrity, validator, signal, fake, nothing]
    · simp only [DecideInput.decide, codec, integrity, validator, signal, fake, nothing,
        not_le.mp nothing, if_true, if_false, false_or, decide_true, Bool.true_and]
      cases input.counts.isCompleteUpgrade <;> rfl

/-- Past the hard gates and the veto `decide` reads the verdict and the score. -/
theorem decide_of_not_vetoed (soft : input.hardGate = false) (genuine : input.vetoed = false) :
    input.decide =
      if input.existingKbps ≥ 1400 && input.detectiveVerdict = "SUSPICIOUS" then
        if input.counts.isCompleteUpgrade then .acceptProvisional else .block
      else if input.detectiveVerdict = "SUSPICIOUS" then
        if isKbpsUpgrade input.existingKbps input.newKbps ||
            input.counts.isCompleteUpgrade then .acceptProvisional
        else .block
      else if input.score < 20 then
        if input.counts.isCompleteUpgrade then .acceptProvisional else .block
      else if input.score ≥ 70 then .accept
      else .acceptProvisional := by
  simp only [hardGate, Bool.or_eq_false_iff, decide_eq_false_iff_not] at soft
  rcases soft with ⟨⟨codec, integrity⟩, validator⟩
  simp only [vetoed, Bool.or_eq_false_iff, decide_eq_false_iff_not] at genuine
  simp only [DecideInput.decide, codec, integrity, validator, genuine.1, genuine.2, if_false]

/-- `decide` asks for a review only on vetoed candidates. -/
theorem decide_reviewRequired_iff :
    input.decide = .reviewRequired ↔ input.hardGate = false ∧ input.vetoed = true ∧
      (.fakeHiRes ∈ input.overrides ∨ input.existingKbps ≤ 0 ∨
        input.counts.isCompleteUpgrade = true) := by
  cases gate : input.hardGate with
  | true => simp [decide_of_hardGate gate]
  | false =>
      cases veto : input.vetoed with
      | true =>
          rw [decide_of_vetoed gate veto]
          split
          · next reviewed => simpa using reviewed
          · next blocked => simpa using blocked
      | false =>
          rw [decide_of_not_vetoed gate veto]
          split_ifs <;> simp

/-- What `decide` accepts: never a vetoed candidate, a suspicious one as an upgrade, any
other one above a score of 20, and each of them when it completes the album. -/
theorem autoImports_decide_iff :
    input.decide.autoImports = true ↔ input.hardGate = false ∧ input.vetoed = false ∧
      (input.counts.isCompleteUpgrade = true ∨
        if input.detectiveVerdict = "SUSPICIOUS" then
          input.existingKbps < 1400 ∧ isKbpsUpgrade input.existingKbps input.newKbps = true
        else 20 ≤ input.score) := by
  cases gate : input.hardGate with
  | true => simp [decide_of_hardGate gate, VerificationDecision.autoImports]
  | false =>
      cases veto : input.vetoed with
      | true =>
          rw [decide_of_vetoed gate veto]
          split <;> simp [VerificationDecision.autoImports]
      | false =>
          rw [decide_of_not_vetoed gate veto]
          split
          · next lossless =>
              simp only [Bool.and_eq_true, decide_eq_true_eq] at lossless
              split <;> simp_all [VerificationDecision.autoImports, not_lt.mpr lossless.1]
          · next replaceable =>
              split
              · next suspicious =>
                  have lossy : input.existingKbps < 1400 := by simpa [suspicious] using replaceable
                  split <;> simp_all [VerificationDecision.autoImports, or_comm]
              · next other =>
                  split
                  · next low =>
                      split <;> simp_all [VerificationDecision.autoImports]
                  · next high =>
                      have enough : 20 ≤ input.score := not_lt.mp high
                      split <;> simp_all [VerificationDecision.autoImports]

end DecideInput

/-! ## Identity and track counts -/

/-- `combine_audio_identity_decision`. -/
def combineAudioIdentityDecision (identity : IdentityDecision)
    (audio : VerificationDecision) : VerificationDecision :=
  if audio = .block then .block
  else if identity = .wrongAlbum then .block
  else if audio = .reviewRequired then .reviewRequired
  else if identity ∈ [.ambiguousEdition, .insufficientEvidence] then .reviewRequired
  else audio

/-- The most that an identity lets happen. -/
def IdentityDecision.cap : IdentityDecision → VerificationDecision
  | .sameRelease | .sameFamily => .accept
  | .ambiguousEdition | .insufficientEvidence => .reviewRequired
  | .wrongAlbum => .block

/-- The precedence of the identity axis is a cap on the audio axis. -/
theorem combineAudioIdentityDecision_eq_min {identity : IdentityDecision}
    {audio : VerificationDecision} :
    combineAudioIdentityDecision identity audio = min audio identity.cap := by
  cases identity <;> cases audio <;> rfl

/-- The identities under which an accepted candidate stays accepted. -/
def IdentityDecision.confirms : IdentityDecision → Bool
  | .sameRelease | .sameFamily => true
  | .ambiguousEdition | .insufficientEvidence | .wrongAlbum => false

theorem IdentityDecision.confirms_iff {identity : IdentityDecision} :
    identity.confirms = true ↔ .reviewRequired < identity.cap := by
  cases identity <;> decide

/-- `edition_track_count_mismatch`; the ratio `1.5` is in integers. -/
def editionTrackCountMismatch (identity : IdentityDecision) (candidate expected : Int) :
    Bool :=
  if identity ∉ [.sameFamily, .ambiguousEdition] then false
  else if expected ≤ 0 || candidate ≤ 0 then false
  else candidate ≥ expected + 4 || 2 * candidate ≥ 3 * expected

/-- `track_count_undercount_mismatch`. -/
def trackCountUndercountMismatch (identity : IdentityDecision)
    (candidate expected existing : Int) : Bool :=
  if identity ∉ [.sameRelease, .sameFamily, .ambiguousEdition] then false
  else if expected ≤ 0 || candidate ≤ 0 then false
  else if existing < expected then false
  else candidate < expected

/-- `apply_track_count_guard`. -/
def applyTrackCountGuard (identity : IdentityDecision) (counts : TrackCounts)
    (decision : VerificationDecision) : VerificationDecision × Option Override :=
  if !decision.autoImports then (decision, none)
  else if editionTrackCountMismatch identity counts.new counts.expected then
    (.reviewRequired, some .editionTracklistMismatch)
  else if trackCountUndercountMismatch identity counts.new counts.expected counts.existing then
    (.reviewRequired, some .trackCountUndercount)
  else (decision, none)

/-- The guard holds an accepted decision back. -/
def trackCountGuardTrips (identity : IdentityDecision) (counts : TrackCounts) : Bool :=
  editionTrackCountMismatch identity counts.new counts.expected ||
    trackCountUndercountMismatch identity counts.new counts.expected counts.existing

/-- The most that the track counts let happen. -/
def guardCap (identity : IdentityDecision) (counts : TrackCounts) : VerificationDecision :=
  if trackCountGuardTrips identity counts then .reviewRequired else .accept

/-- The guard is a cap too: it changes accepted decisions only, and those to a review. -/
theorem applyTrackCountGuard_eq_min {identity : IdentityDecision} {counts : TrackCounts}
    {decision : VerificationDecision} :
    (applyTrackCountGuard identity counts decision).1 =
      min decision (guardCap identity counts) := by
  have accept : min decision .accept = decision := by cases decision <;> rfl
  cases edition : editionTrackCountMismatch identity counts.new counts.expected with
  | true =>
      simp only [applyTrackCountGuard, guardCap, trackCountGuardTrips, edition]
      cases decision <;> rfl
  | false =>
      cases undercount : trackCountUndercountMismatch identity counts.new counts.expected
          counts.existing with
      | true =>
          simp only [applyTrackCountGuard, guardCap, trackCountGuardTrips, edition, undercount]
          cases decision <;> rfl
      | false =>
          simp [applyTrackCountGuard, guardCap, trackCountGuardTrips, edition, undercount,
            accept]

theorem guardCap_ne_block {identity : IdentityDecision} {counts : TrackCounts} :
    guardCap identity counts ≠ .block := by
  rw [guardCap]
  split <;> decide

theorem trackCountGuardTrips_iff {identity : IdentityDecision} {counts : TrackCounts} :
    trackCountGuardTrips identity counts = false ↔
      .reviewRequired < guardCap identity counts := by
  cases trips : trackCountGuardTrips identity counts with
  | true => simp [guardCap, trips]
  | false =>
      simp only [guardCap, trips]
      decide

end Mintarr.Policy
