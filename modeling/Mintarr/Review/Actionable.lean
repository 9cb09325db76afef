import Mintarr.Review.Actions

/-!
# A new review

`_create_review_required` finishes with a sidecar that waits for the operator exactly when
nothing of an earlier attempt is in its way: the lifecycle of a sidecar that was there
before is taken over as a whole, whatever state it had reached, and the projection is
pointed at `OUTPUT_BASE` even where the files are elsewhere.
-/

namespace Mintarr.Review

open Policy Lane

/-! ## Searching for the sidecar -/

namespace Desk

variable {desk : Desk} {place : Place} {record : Record}

theorem readVerificationSidecar_eq_some : desk.readVerificationSidecar = some (place, record) ↔
    desk.findVerificationSidecar = some place ∧ desk.file place = some (some record) := by
  unfold readVerificationSidecar
  cases desk.findVerificationSidecar with
  | none => simp
  | some found =>
      simp only [Option.map_eq_some_iff, Prod.mk.injEq, Option.join_eq_some_iff,
        Option.some.injEq]
      constructor
      · rintro ⟨other, file, rfl, rfl⟩
        exact ⟨rfl, file⟩
      · rintro ⟨rfl, file⟩
        exact ⟨record, file, rfl, rfl⟩

theorem file_of_find (found : desk.findVerificationSidecar = some place) :
    (desk.file place).isSome = true := by
  have holds := List.find?_some found
  exact holds

/-- The search finds what is in the output directory first. -/
theorem findVerificationSidecar_outputDir
    (present : (desk.file (.folder desk.outputDir)).isSome = true) :
    desk.findVerificationSidecar = some (.folder desk.outputDir) := by
  unfold findVerificationSidecar outputDir at *
  cases projected : desk.projected with
  | none =>
      rw [projected, Option.getD_none] at present
      simp [archives, present]
  | some directory =>
      rw [projected, Option.getD_some] at present
      simp [present]

@[simp] theorem file_write (other : Place) : (desk.write place record).file other =
    if other = place then some (some record) else desk.file other := by
  simp only [write, Function.update_apply]

@[simp] theorem file_remove (other : Place) : (desk.remove place).file other =
    if other = place then none else desk.file other := by
  simp only [remove, Function.update_apply]

@[simp] theorem file_mirror {now : Time} : (desk.mirror record now).file = desk.file := rfl

@[simp] theorem projected_mirror {now : Time} :
    (desk.mirror record now).projected = desk.projected := rfl

end Desk

/-! ## The new sidecar -/

/-- The sidecar at `place` is the one that is found, and waits for the operator. -/
def Desk.ReviewAt (desk : Desk) (place : Place) : Prop :=
  ∃ record, desk.readVerificationSidecar = some (place, record) ∧
    record.decision = .reviewRequired ∧ record.lifecycle.state = some .pendingReview

/-- A review that waits can be promoted, discarded and expired, and is listed as needing
action. -/
theorem Desk.ReviewAt.actionable {desk : Desk} {place : Place} (review : desk.ReviewAt place) :
    ∃ record, desk.readVerificationSidecar = some (place, record) ∧
      record.isPromotable = true ∧ record.isDiscardable = true ∧
      deriveStatus record = .needsReview ∧
      ∀ now maxAge, now - record.createdAt now > maxAge → record.isExpired now maxAge = true := by
  rcases review with ⟨record, found, decision, state⟩
  refine ⟨record, found, ?_, ?_, ?_, ?_⟩
  · simp [Record.isPromotable, decision, state]
  · simp [Record.isDiscardable, decision]
  · simp [deriveStatus, decision, state]
  · intro now maxAge old
    simp [Record.isExpired, decision, state, old]

/-- Nothing of an earlier attempt is in the way of a new review. -/
def Desk.Clear (desk : Desk) : Prop :=
  desk.outputDir = .output ∧
    ∀ place record, desk.readVerificationSidecar = some (place, record) →
      record.lifecycle = {} ∨ record.lifecycle.state = some .pendingReview

/-- The state of the lifecycle that a new record gets. -/
theorem verificationRecord_pending {result : VerificationResult} {existing : Option Record}
    {now : Time} (reviewed : result.verificationDecision = .reviewRequired) :
    (verificationRecord result existing now).lifecycle.state = some .pendingReview ↔
      ∀ record ∈ existing, record.lifecycle = {} ∨
        record.lifecycle.state = some .pendingReview := by
  have fresh : (sidecarLifecycle result now).state = some .pendingReview := by
    simp [sidecarLifecycle, reviewed]
  cases existing with
  | none => simp [verificationRecord, fresh]
  | some record =>
      by_cases empty : record.lifecycle = {}
      · simp [verificationRecord, empty, fresh]
      · simp [verificationRecord, empty]

/-- The blocklist status is all that the second write changes. -/
theorem blocklistReview_eq_some {record blocklisted : Record} {done : Bool}
    (rewrites : blocklistReview record done = some blocklisted) :
    blocklisted.decision = record.decision ∧
      blocklisted.lifecycle.state = record.lifecycle.state := by
  unfold blocklistReview at rewrites
  split at rewrites
  · cases rewrites
    exact ⟨rfl, rfl⟩
  · contradiction

/-- The record that a writer leaves at its target. -/
theorem file_writeVerificationSidecar {result : VerificationResult} {archived : Bool}
    {reply : WriteReply} {desk : Desk} {target : Place}
    (written : (writeVerificationSidecar result archived reply desk).2 = some target) :
    target = (if archived then .blocked else .folder desk.outputDir) ∧
      (writeVerificationSidecar result archived reply desk).1.file target =
        some (some (verificationRecord result
          (desk.readVerificationSidecar.map (·.2)) reply.now)) := by
  unfold writeVerificationSidecar at *
  dsimp only at *
  split at written
  · contradiction
  · next stored =>
      cases written
      rw [if_neg stored]
      refine ⟨rfl, ?_⟩
      generalize (if archived then Place.blocked else .folder desk.outputDir) = target
      cases desk.readVerificationSidecar with
      | none => simp
      | some existing =>
          rcases existing with ⟨old, existing⟩
          by_cases other : old = target
          · simp [other]
          · cases reply.unlinked <;> simp [other, Ne.symm other]

/-- What a finished review creation leaves. -/
theorem createReviewRequired_finished {result : VerificationResult} {reply : WriteReply}
    {desk : Desk} (finished : (createReviewRequired result reply desk).2 = true) :
    (createReviewRequired result reply desk).1.projected = some .output ∧
      ∃ record, (createReviewRequired result reply desk).1.file (.folder desk.outputDir) =
          some (some record) ∧
        record.decision = result.verificationDecision ∧
        record.lifecycle.state = (verificationRecord result
          (desk.readVerificationSidecar.map (·.2)) reply.now).lifecycle.state := by
  unfold createReviewRequired at *
  cases wrote : writeVerificationSidecar result false reply desk with
  | mk written target =>
      cases target with
      | none => simp [wrote] at finished
      | some target =>
          have stored := file_writeVerificationSidecar (congrArg Prod.snd wrote)
          simp only [Bool.false_eq_true, if_false] at stored
          rcases stored with ⟨rfl, stored⟩
          rw [wrote] at stored finished
          dsimp only at stored finished ⊢
          rw [stored] at finished ⊢
          simp only [Option.join_some] at finished ⊢
          cases readBack : reply.readBack with
          | false => simp [readBack] at finished
          | true =>
              simp only [readBack, Bool.not_true, Bool.false_eq_true, if_false] at finished ⊢
              split at finished
              · exact ⟨rfl, _, stored, rfl, rfl⟩
              · next blocklisted rewrites =>
                  split at finished
                  · next rewritten =>
                      have same := blocklistReview_eq_some rewrites
                      rw [if_pos rewritten]
                      exact ⟨rfl, blocklisted, by simp [Desk.markReviewRequired], same⟩
                  · contradiction

/-- A finished `_create_review_required` leaves a review that can be acted upon exactly where
the result asks for one and nothing of an earlier attempt is in its way. -/
theorem review_actionable_iff (result : VerificationResult) (reply : WriteReply) (desk : Desk)
    (finished : (createReviewRequired result reply desk).2 = true) :
    (createReviewRequired result reply desk).1.ReviewAt (.folder desk.outputDir) ↔
      result.verificationDecision = .reviewRequired ∧ desk.Clear := by
  rcases createReviewRequired_finished finished with ⟨projected, record, file, decision, state⟩
  generalize (createReviewRequired result reply desk).1 = after at projected file
  have clear : (∀ place found, desk.readVerificationSidecar = some (place, found) →
      found.lifecycle = {} ∨ found.lifecycle.state = some .pendingReview) ↔
      ∀ found ∈ desk.readVerificationSidecar.map (·.2),
        found.lifecycle = {} ∨ found.lifecycle.state = some .pendingReview := by
    cases desk.readVerificationSidecar with
    | none => simp
    | some found =>
        rcases found with ⟨place, found⟩
        simp
  constructor
  · rintro ⟨other, read, reviewed, pending⟩
    rcases Desk.readVerificationSidecar_eq_some.mp read with ⟨found, same⟩
    rw [same, Option.some.injEq, Option.some.injEq] at file
    subst file
    have required := decision.symm.trans reviewed
    refine ⟨required, ?_, ?_⟩
    · -- The raw directory is searched no more.
      have mem := List.mem_of_find?_eq_some found
      rw [projected] at mem
      unfold Desk.outputDir at mem ⊢
      cases directory : desk.projected.getD .output <;> simp_all [Desk.archives]
    · exact clear.mpr ((verificationRecord_pending required).mp (state.symm.trans pending))
  · rintro ⟨required, output, quiet⟩
    refine ⟨record, ?_, decision.trans required,
      state.trans ((verificationRecord_pending required).mpr (clear.mp quiet))⟩
    have here : after.outputDir = desk.outputDir := by
      rw [output, Desk.outputDir, projected, Option.getD_some]
    have found : after.findVerificationSidecar = some (.folder after.outputDir) := by
      apply Desk.findVerificationSidecar_outputDir
      rw [here, file]
      rfl
    rw [here] at found
    exact Desk.readVerificationSidecar_eq_some.mpr ⟨found, file⟩

/-! ## A blocked attempt before the review -/

/-- A result that asks for a review. -/
def heldResult : VerificationResult where
  score := 60
  verificationDecision := .reviewRequired
  components := ⟨20, 20, 10, 10⟩
  overrides := []
  verdict := "SUSPICIOUS"
  newKbps := 900
  existingKbps := 0
  existingLabel := "nothing"
  files := []
  identity := { decision := .sameRelease, confidence := 1, reasons := [] }

/-- The first attempt was blocked, and the process killed before the job was reported. -/
def blockedAttempt : Desk where
  file place :=
    if place = .blocked then
      some (some
        { decision := .block
          outcome := .skipped
          lifecycle :=
            { state := some .created
              createdAt := some 1
              blocklistPolicy := some .skipped
              blocklistStatus := some .skipped } })
    else none
  projected := some .output

/-- The lifecycle of the blocked attempt is taken over: the review is neither promotable nor
listed as needing action. -/
theorem review_not_actionable :
    (createReviewRequired heldResult { now := 2 } blockedAttempt).2 = true ∧
      ¬(createReviewRequired heldResult { now := 2 } blockedAttempt).1.ReviewAt
        (.folder .output) := by
  refine ⟨rfl, ?_⟩
  rintro ⟨record, read, reviewed, pending⟩
  have state : (createReviewRequired heldResult { now := 2 }
      blockedAttempt).1.readVerificationSidecar.bind (·.2.lifecycle.state) = some .created := rfl
  rw [read, Option.bind_some, pending] at state
  contradiction

/-- The first attempt was held for review, and its sidecar lies in the output directory. -/
def heldAttempt : Desk := (createReviewRequired heldResult { now := 1 } {}).1

theorem review_actionable_secondAttempt :
    heldAttempt.findVerificationSidecar = some (.folder .output) ∧
      (createReviewRequired heldResult { now := 2 } heldAttempt).1.ReviewAt (.folder .output) := by
  have earlier : heldAttempt.readVerificationSidecar.bind (·.2.lifecycle.state) =
      some .pendingReview := rfl
  refine ⟨rfl, (review_actionable_iff heldResult { now := 2 } heldAttempt rfl).mpr
    ⟨rfl, rfl, ?_⟩⟩
  intro place record found
  rw [found, Option.bind_some] at earlier
  exact .inr earlier

end Mintarr.Review
