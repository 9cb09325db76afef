import Mintarr.Review.Actionable

/-!
# Closed reviews

A review that was discarded or has expired is not opened again by requests that look at its
lifecycle.  Three do not: `_is_promotable` lets a promote that failed be repeated whatever
the lifecycle says, the check of a discard accepts a review that has expired, and a read
settles a pending import.  Where none of them meets such a record, a closed record is never
changed and nothing is imported.
-/

namespace Mintarr.Review

open Lib Policy Lane

/-! ## Requests -/

/-- What operators, worker jobs and reads do with a record, one after the other. -/
inductive Action where
  | promote (queued : Bool) (reply : ImportReply) (now : Time)
  | retryImport (queued : Bool) (reply : ImportReply)
  | releaseSwitch (reply : SwitchReply) (now : Time)
  | discard (reply : CloseReply)
  | expire (reply : CloseReply)
  | promoteJob (reply : ImportReply) (now : Time)
  | retryJob (reply : ImportReply)
  | get (lidarr : LidarrReply)
  | list (lidarr : LidarrReply)
  | pollQueue (lidarr : LidarrReply)

/-- What an action leaves. -/
def Action.perform : Action → Desk → Desk
  | .promote queued reply now, desk => (verificationPromote queued reply now desk).1
  | .retryImport queued reply, desk => (verificationRetryImport queued reply desk).1
  | .releaseSwitch reply now, desk => (verificationReleaseSwitch reply now desk).1
  | .discard reply, desk => (verificationDiscard reply desk).1
  | .expire reply, desk => expireReviewRequiredJobs reply desk
  | .promoteJob reply now, desk => (executePromoteImportJob reply now desk).1
  | .retryJob reply, desk => (executeRetryImportJob reply desk).1
  | .get lidarr, desk => verificationGet lidarr desk
  | .list lidarr, desk => verificationList lidarr desk
  | .pollQueue lidarr, desk => reconcilePendingImportJobs lidarr desk

/-- The requests of one download. -/
def reviews : Machine Desk Action where
  step desk action := some (action.perform desk)

/-! ## What a closed review keeps -/

/-- The fields that decide what may still be done with a record. -/
structure Verdict where
  decision : VerificationDecision
  outcome : ImportOutcome
  state : Option LifecycleState
  manualPromote : Bool
  deriving DecidableEq, Repr

/-- The verdict of a record. -/
def Record.verdict (record : Record) : Verdict where
  decision := record.decision
  outcome := record.outcome
  state := record.lifecycle.state
  manualPromote := record.manualPromote

/-- `lifecycle.state` is `discarded` or `expired`. -/
def Verdict.Closed (verdict : Verdict) : Prop :=
  verdict.state = some .discarded ∨ verdict.state = some .expired

/-- The download has a record, and every sidecar of it carries the verdict. -/
structure Desk.Holds (desk : Desk) (verdict : Verdict) : Prop where
  found : ∃ place record, desk.readVerificationSidecar = some (place, record)
  carries : ∀ place content, desk.file place = some content →
    ∃ record, content = some record ∧ record.verdict = verdict

/-- The import of a promote that is repeated does not begin. -/
def ImportReply.Refused (reply : ImportReply) (record : Record) : Prop :=
  record.promoteFailed = true → reply.begun = false

/-- An action that leaves a closed record alone: a failed promote is not begun again, a review
that has expired is not discarded, a discard does not lose the record, and Lidarr settles no
pending import. -/
def Action.Spares (action : Action) (desk : Desk) (record : Record) : Prop :=
  match action with
  | .promote queued reply _ => queued = true ∨ reply.Refused record
  | .promoteJob reply _ => reply.cancelled = true ∨ reply.Refused record
  | .releaseSwitch reply _ =>
      (reply.enabled && record.isSwitchable && reply.reply.outputExists && reply.lidarrKey &&
        reply.switched.any (0 < ·)) = false ∨ reply.reply.Refused record
  | .discard reply =>
      record.isDiscardable = false ∨ (reply.outputExists = true ∧ desk.outputDir ≠ .output) ∨
        (reply.archived = true ∧ record.lifecycle.state = some .discarded) ∨
        (reply.archived = false ∧ ((reply.outputExists && reply.erased) = false ∨
          desk.file (.folder .output) = none))
  | .get lidarr | .list lidarr | .pollQueue lidarr =>
      lidarr.outcome record = none ∨ lidarr.written = false
  | .retryImport .. | .retryJob _ | .expire _ => True

/-- The condition on a step. -/
def Desk.Spares (desk : Desk) (action : Action) : Prop :=
  ∀ place record, desk.readVerificationSidecar = some (place, record) →
    record.closed = true → action.Spares desk record

section Step

variable {desk : Desk} {verdict : Verdict} {place : Place} {record : Record}

theorem Desk.Holds.verdict_eq (holds : desk.Holds verdict)
    (found : desk.readVerificationSidecar = some (place, record)) : record.verdict = verdict := by
  have file := (Desk.readVerificationSidecar_eq_some.mp found).2
  rcases holds.carries place _ file with ⟨other, same, carried⟩
  cases same
  exact carried

theorem closed_of_verdict (closed : verdict.Closed) (same : record.verdict = verdict) :
    record.closed = true := by
  subst same
  rcases closed with state | state
  · simp_all [Record.closed, Record.verdict]
  · simp_all [Record.closed, Record.verdict]

theorem isPromotable_of_closed (closed : record.closed = true) :
    record.isPromotable = record.promoteFailed := by
  simp only [Record.closed, Bool.or_eq_true, decide_eq_true_eq] at closed
  rcases closed with state | state
  · simp [Record.isPromotable, state]
  · simp [Record.isPromotable, state]

theorem isRetryable_of_closed (closed : record.closed = true) :
    record.isRetryableVerifiedImport = false := by
  simp only [Record.closed, Bool.or_eq_true, decide_eq_true_eq] at closed
  rcases closed with state | state
  · simp [Record.isRetryableVerifiedImport, state]
  · simp [Record.isRetryableVerifiedImport, state]

/-- A promote of a closed record that is refused leaves everything as it is. -/
theorem promote_closed {reply : ImportReply} {now : Time} (closed : record.closed = true)
    (refused : reply.cancelled = true ∨ reply.Refused record) :
    (promoteVerifiedImport reply now place record desk).1 = desk := by
  unfold promoteVerifiedImport
  rw [isPromotable_of_closed closed]
  split
  · rfl
  · split
    · rfl
    · next promotable =>
        have failed : record.promoteFailed = true := by simpa using promotable
        have unbegun : (reply.cancelled || !reply.begun) = true := by
          rcases refused with cancelled | refused
          · simp [cancelled]
          · simp [refused failed]
        rw [if_pos unbegun]

theorem retry_closed {reply : ImportReply} (closed : record.closed = true) :
    (retryVerifiedImport reply place record desk).1 = desk := by
  unfold retryVerifiedImport
  rw [isRetryable_of_closed closed]
  split
  · rfl
  · rfl

theorem reconcile_kept {lidarr : LidarrReply} {path : Option Place}
    (unsettled : lidarr.outcome record = none) :
    reconcilePendingImport lidarr record path desk = desk := by
  unfold reconcilePendingImport
  rw [unsettled]

theorem reconcile_spared {lidarr : LidarrReply} {path : Option Place}
    (spared : lidarr.outcome record = none ∨ lidarr.written = false)
    (target : (path <|> desk.findVerificationSidecar) = some place) :
    reconcilePendingImport lidarr record path desk = desk := by
  rcases spared with unsettled | unwritten
  · exact reconcile_kept unsettled
  · unfold reconcilePendingImport
    split
    · rfl
    · rw [target]
      simp [unwritten]

/-- Lidarr settles records of one verdict alike. -/
theorem outcome_congr {lidarr : LidarrReply} {other : Record}
    (same : other.verdict = record.verdict) : lidarr.outcome other = lidarr.outcome record := by
  simp only [Record.verdict, Verdict.mk.injEq] at same
  simp only [LidarrReply.outcome, same.1, same.2.1]

theorem Desk.Holds.listed (holds : desk.Holds verdict) {listed : Record}
    (found : desk.verificationRecords = some listed) : listed.verdict = verdict := by
  rcases List.exists_of_findSome?_eq_some found with ⟨place, _, file⟩
  rw [Option.join_eq_some_iff] at file
  rcases holds.carries place _ file with ⟨other, same, carried⟩
  cases same
  exact carried

/-- A record is found where any archive holds one and all can be read. -/
theorem Desk.holds_of_file {content : Record}
    (mem : place ∈ Desk.archives) (file : desk.file place = some (some content))
    (carries : ∀ place content, desk.file place = some content →
      ∃ record, content = some record ∧ record.verdict = verdict) : desk.Holds verdict := by
  refine ⟨?_, carries⟩
  have present : desk.findVerificationSidecar.isSome = true := by
    unfold Desk.findVerificationSidecar
    rw [List.find?_isSome]
    exact ⟨place, List.mem_append_right _ mem, by rw [file]; rfl⟩
  rcases Option.isSome_iff_exists.mp present with ⟨other, found⟩
  rcases Option.isSome_iff_exists.mp (Desk.file_of_find found) with ⟨content, stored⟩
  rcases carries other content stored with ⟨record, rfl, _⟩
  exact ⟨other, record, Desk.readVerificationSidecar_eq_some.mpr ⟨found, stored⟩⟩

/-- What `_safe_rmtree_under` leaves of the sidecars. -/
theorem Desk.carries_rmtree (holds : desk.Holds verdict) (reply : CloseReply) :
    ∀ place content, (desk.rmtree reply).file place = some content →
      ∃ record, content = some record ∧ record.verdict = verdict := by
  intro place content stored
  unfold Desk.rmtree at stored
  split at stored
  · rw [Desk.file_remove] at stored
    split at stored
    · contradiction
    · exact holds.carries place content stored
  · exact holds.carries place content stored

/-- A discarded record is discarded once more. -/
theorem Desk.holds_archive (holds : desk.Holds verdict) {reply : CloseReply}
    {discarded : Record} (same : discarded.verdict = verdict) (written : reply.archived = true) :
    ((desk.rmtree reply).archive reply place .discarded discarded).1.Holds verdict := by
  have carries := desk.carries_rmtree holds reply
  generalize desk.rmtree reply = cleared at carries
  have wrote : ∀ other content, (cleared.write .discarded discarded).file other = some content →
      ∃ record, content = some record ∧ record.verdict = verdict := by
    intro other content stored
    rw [Desk.file_write] at stored
    split at stored
    · cases stored
      exact ⟨discarded, rfl, same⟩
    · exact carries other content stored
  have archive : Place.discarded ∈ Desk.archives := by simp [Desk.archives]
  have here : (cleared.write .discarded discarded).file .discarded = some (some discarded) := by
    simp
  unfold Desk.archive
  simp only [written, Bool.not_true, Bool.false_eq_true, if_false]
  split
  · exact Desk.holds_of_file archive here wrote
  · next elsewhere =>
      simp only [Bool.or_eq_true, decide_eq_true_eq, not_or] at elsewhere
      split
      · have kept : ((cleared.write .discarded discarded).remove place).file .discarded =
            some (some discarded) := by
          rw [Desk.file_remove, if_neg (Ne.symm elsewhere.1), here]
        refine Desk.holds_of_file archive kept ?_
        · intro other content stored
          rw [Desk.file_remove] at stored
          split at stored
          · contradiction
          · exact wrote other content stored
      · exact Desk.holds_of_file archive here wrote

@[simp] theorem Desk.submitted_rmtree {reply : CloseReply} :
    (desk.rmtree reply).submitted = desk.submitted ∧ (desk.rmtree reply).copied = desk.copied := by
  unfold Desk.rmtree
  split
  · exact ⟨rfl, rfl⟩
  · exact ⟨rfl, rfl⟩

theorem Desk.submitted_archive {reply : CloseReply} {old target : Place} :
    (desk.archive reply old target record).1.submitted = desk.submitted ∧
      (desk.archive reply old target record).1.copied = desk.copied := by
  unfold Desk.archive
  split
  · exact ⟨rfl, rfl⟩
  · dsimp only
    repeat' split
    all_goals exact ⟨rfl, rfl⟩

/-- The row is of no account. -/
theorem Desk.Holds.mirror (holds : desk.Holds verdict) (content : Record) (now : Time) :
    (desk.mirror content now).Holds verdict :=
  ⟨holds.found, holds.carries⟩

/-- Where no sidecar lies with the files, their removal takes none. -/
theorem Desk.holds_rmtree (holds : desk.Holds verdict) {reply : CloseReply}
    (kept : (reply.outputExists && reply.erased) = false ∨
      desk.file (.folder .output) = none) : (desk.rmtree reply).Holds verdict := by
  unfold Desk.rmtree
  split
  · next removes =>
      simp only [Bool.and_eq_true, decide_eq_true_eq] at removes
      rcases kept with kept | absent
      · simp [removes.1.1, removes.2] at kept
      · have same : desk.remove (.folder .output) = desk := by
          unfold Desk.remove
          rw [← absent, Function.update_eq_self]
        rw [same]
        exact holds
  · exact holds

/-- A discard that spares a closed record imports nothing and leaves the record closed as it
was. -/
theorem discard_closed {reply : CloseReply} (holds : desk.Holds verdict)
    (closed : verdict.Closed) (spares : desk.Spares (.discard reply)) :
    (verificationDiscard reply desk).1.Holds verdict ∧
      (verificationDiscard reply desk).1.submitted = desk.submitted ∧
      (verificationDiscard reply desk).1.copied = desk.copied := by
  rcases holds.found with ⟨place, record, found⟩
  have same := holds.verdict_eq found
  have spared := spares place record found (closed_of_verdict closed same)
  unfold verificationDiscard
  rw [found]
  dsimp only
  cases discardable : record.isDiscardable with
  | false => exact ⟨holds, rfl, rfl⟩
  | true =>
      by_cases refused : (reply.outputExists && desk.outputDir ≠ .output) = true
      · rw [if_neg (by simp), if_pos refused]
        exact ⟨holds, rfl, rfl⟩
      · rw [if_neg (by simp), if_neg refused]
        have after : ((desk.rmtree reply).archive reply place .discarded
            (record.discard reply.now reply.blocklisted)).1.Holds verdict := by
          rcases spared with undiscardable | unsafe_ | ⟨written, state⟩ | ⟨unwritten, kept⟩
          · rw [discardable] at undiscardable
            contradiction
          · simp [unsafe_.1, unsafe_.2] at refused
          · refine Desk.holds_archive holds ?_ written
            rw [← same]
            simp [Record.verdict, Record.discard, state]
          · simp only [Desk.archive, unwritten, Bool.not_false, if_true]
            exact Desk.holds_rmtree holds kept
        have untouched : ((desk.rmtree reply).archive reply place .discarded
            (record.discard reply.now reply.blocklisted)).1.submitted = desk.submitted ∧
            ((desk.rmtree reply).archive reply place .discarded
              (record.discard reply.now reply.blocklisted)).1.copied = desk.copied :=
          ⟨Desk.submitted_archive.1.trans Desk.submitted_rmtree.1,
            Desk.submitted_archive.2.trans Desk.submitted_rmtree.2⟩
        split
        · next archived unfinished =>
            rw [unfinished] at after untouched
            exact ⟨after, untouched⟩
        · next archived finished =>
            rw [finished] at after untouched
            exact ⟨after.mirror _ _, untouched⟩

/-- Every other action that spares a closed record leaves everything as it is. -/
theorem perform_closed (holds : desk.Holds verdict) (closed : verdict.Closed) {action : Action}
    (other : ∀ reply, action ≠ .discard reply) (spares : desk.Spares action) :
    action.perform desk = desk := by
  rcases holds.found with ⟨place, record, found⟩
  have same := holds.verdict_eq found
  have ended := closed_of_verdict closed same
  have spared := spares place record found ended
  cases action with
  | promote queued reply now =>
      simp only [Action.perform, verificationPromote, found]
      split
      · rfl
      · split
        · rfl
        · split
          · rfl
          · next unqueued =>
              rcases spared with queued | refused
              · contradiction
              · exact promote_closed ended (Or.inr refused)
  | promoteJob reply now =>
      simp only [Action.perform, executePromoteImportJob, found]
      exact promote_closed ended spared
  | retryImport queued reply =>
      simp only [Action.perform, verificationRetryImport, found, isRetryable_of_closed ended]
      split
      · rfl
      · rfl
  | retryJob reply =>
      simp only [Action.perform, executeRetryImportJob, found]
      exact retry_closed ended
  | releaseSwitch reply now =>
      have kept : reply.reply.Refused record →
          (promoteVerifiedImport { reply.reply with cancelled := false } now place record
            desk).1 = desk :=
        fun refused => promote_closed ended (Or.inr refused)
      simp only [Action.perform, verificationReleaseSwitch, found]
      split
      · rfl
      · next allowed =>
          split
          · rfl
          · next output =>
              split
              · rfl
              · next key =>
                  split
                  · rfl
                  · rfl
                  · next count switched =>
                      have refused : reply.reply.Refused record := by
                        rcases spared with stopped | refused
                        · simp_all
                        · exact refused
                      split
                      · next after raised => rw [← kept refused, raised]
                      · next after result ended => rw [← kept refused, ended]
  | discard reply => exact absurd rfl (other reply)
  | expire reply =>
      simp only [Action.perform, expireReviewRequiredJobs]
      split
      · rfl
      · next listed foundListed =>
          have state := holds.listed foundListed
          have unexpired : listed.isExpired reply.now reply.maxAge = false := by
            have listedClosed := closed_of_verdict closed state
            simp only [Record.closed, Bool.or_eq_true, decide_eq_true_eq] at listedClosed
            rcases listedClosed with state | state
            · simp [Record.isExpired, state]
            · simp [Record.isExpired, state]
          rw [unexpired]
          rfl
  | get lidarr =>
      simp only [Action.perform, verificationGet, found]
      exact reconcile_spared spared rfl
  | list lidarr =>
      simp only [Action.perform, verificationList]
      split
      · rfl
      · next listed foundListed =>
          have alike : listed.verdict = record.verdict :=
            (holds.listed foundListed).trans same.symm
          have target := (Desk.readVerificationSidecar_eq_some.mp found).1
          refine reconcile_spared ?_ target
          rw [outcome_congr alike]
          exact spared
  | pollQueue lidarr =>
      simp only [Action.perform, reconcilePendingImportJobs, found]
      split
      · exact reconcile_spared spared rfl
      · rfl

/-- A step that spares a closed record keeps it closed, and imports nothing. -/
theorem closed_step (holds : desk.Holds verdict) (closed : verdict.Closed) {action : Action}
    (spares : desk.Spares action) :
    (action.perform desk).Holds verdict ∧ (action.perform desk).submitted = desk.submitted ∧
      (action.perform desk).copied = desk.copied := by
  by_cases discards : ∃ reply, action = .discard reply
  · rcases discards with ⟨reply, rfl⟩
    exact discard_closed holds closed spares
  · have same := perform_closed holds closed (fun reply equal => discards ⟨reply, equal⟩) spares
    rw [same]
    exact ⟨holds, rfl, rfl⟩

end Step

/-- Through every sequence of requests that spare it, a closed record keeps its decision, its
outcome and its state, and nothing is imported. -/
theorem closed_stays_closed {start finish : Desk} {actions : List Action} {verdict : Verdict}
    (holds : start.Holds verdict) (closed : verdict.Closed)
    (run : reviews.RunWhere Desk.Spares start actions finish) :
    finish.Holds verdict ∧ finish.submitted = start.submitted ∧
      finish.copied = start.copied := by
  induction run with
  | nil desk => exact ⟨holds, rfl, rfl⟩
  | cons spares stepped _ ih =>
      cases stepped
      have kept := closed_step holds closed spares
      have later := ih kept.1
      exact ⟨later.1, later.2.1.trans kept.2.1, later.2.2.trans kept.2.2⟩

/-! ## A failed promote that was discarded -/

/-- A promote of the review was submitted and failed. -/
def failedPromote : Desk where
  file place :=
    if place = .folder .output then
      some (some
        { decision := .acceptProvisional
          outcome := .failed
          manualPromote := true
          lifecycle := { state := some .promoted, createdAt := some 1, promotedAt := some 2 } })
    else none
  projected := some .output

/-- The record as it is after the operator discarded it. -/
def discardedPromote : Desk := (verificationDiscard { now := 3 } failedPromote).1

/-- The verdict of that record. -/
def discardedVerdict : Verdict where
  decision := .acceptProvisional
  outcome := .failed
  state := some .discarded
  manualPromote := true

theorem discardedPromote_holds : discardedPromote.Holds discardedVerdict := by
  have archive : Place.discarded ∈ Desk.archives := by simp [Desk.archives]
  refine Desk.holds_of_file archive rfl ?_
  intro place content stored
  cases place with
  | folder directory => cases directory <;> contradiction
  | blocked | expired => contradiction
  | discarded =>
      cases stored
      exact ⟨_, rfl, rfl⟩

/-- Promoted once more, the discarded record becomes a promoted one, and is imported. -/
theorem closed_reopened :
    discardedPromote.Holds discardedVerdict ∧ discardedVerdict.Closed ∧
      ∃ finish, reviews.Run discardedPromote [.promote false {} 4] finish ∧
        ¬finish.Holds discardedVerdict ∧ finish.submitted = true := by
  refine ⟨discardedPromote_holds, Or.inl rfl, _, .cons trivial rfl (.nil _), ?_, rfl⟩
  intro holds
  rcases holds.carries .discarded _ rfl with ⟨record, same, verdict⟩
  cases same
  contradiction

/-- The record as the discard left it. -/
def discardedRecord : Record where
  decision := .acceptProvisional
  outcome := .failed
  manualPromote := true
  lifecycle :=
    { state := some .discarded
      createdAt := some 1
      promotedAt := some 2
      discardedAt := some 3
      actor := some .userDiscard
      blocklistStatus := some .done }

/-- The record stays discarded where the operator retries it, looks at it and discards it
again. -/
theorem closed_stays_closed_retried :
    ∃ finish, reviews.RunWhere Desk.Spares discardedPromote
        [.retryImport false {}, .get {}, .discard { now := 4 }] finish ∧
      finish.Holds discardedVerdict := by
  have here : discardedPromote.readVerificationSidecar = some (.discarded, discardedRecord) := rfl
  have run : reviews.RunWhere Desk.Spares discardedPromote
      [.retryImport false {}, .get {}, .discard { now := 4 }]
      (Action.perform (.discard { now := 4 }) discardedPromote) := by
    refine .cons ?_ rfl (.cons ?_ rfl (.cons ?_ rfl (.nil _)))
    · intro place record found ended
      trivial
    · intro place record found ended
      cases here.symm.trans found
      exact Or.inl rfl
    · intro place record found ended
      cases here.symm.trans found
      exact Or.inr (Or.inr (Or.inl ⟨rfl, rfl⟩))
  exact ⟨_, run, (closed_stays_closed discardedPromote_holds (Or.inl rfl) run).1⟩

end Mintarr.Review
