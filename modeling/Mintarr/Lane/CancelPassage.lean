import Mintarr.Lane.Watch

/-!
# How a cancel passes through a job

A job is `Open` until a checkpoint raises, and ends with `Fail` once it has: the cancel
is on its way to the worker, unless a handler has swallowed it.  One lemma for each
function that has a checkpoint below it; everything else is plain.
-/

namespace Mintarr.Lane

open Lib Import

namespace Watch

variable {α β : Type}

/-- Nothing is reported, no item is taken up after a cancel, and a change of the library is
late exactly where the request was unread. -/
structure Base (watch : Watch) : Prop where
  unprocessed : watch.processed = false
  unreported : watch.job = none
  unlost : watch.lost = false
  late_eq_blind : watch.late = watch.blind

/-- No checkpoint has raised, or found the cancel. -/
structure Open (watch : Watch) : Prop extends Base watch where
  requested_eq_unread : watch.requested = watch.unread
  unraised : watch.raised = false
  unswallowed : watch.swallowed = false
  notOvertaken : watch.overtaken = false

/-- Any cancel that was raised was swallowed. -/
structure Ended (watch : Watch) : Prop extends Base watch where
  raised_eq_swallowed : watch.raised = watch.swallowed
  notOvertaken : watch.overtaken = false

/-- An exception is on its way to the worker: a cancel, if one was raised and not
swallowed. -/
structure Fail (error : Raised) (watch : Watch) : Prop extends Base watch where
  cancelled_iff : error = .cancelled ↔ watch.raised = true ∧ watch.swallowed = false
  raised_of_swallowed : watch.swallowed = true → watch.raised = true
  overtaken_iff : watch.overtaken = true ↔
    watch.raised = true ∧ watch.swallowed = false ∧ watch.mutated = true

variable {watch : Watch}

theorem Open.ended (isOpen : watch.Open) : watch.Ended where
  toBase := isOpen.toBase
  raised_eq_swallowed := by rw [isOpen.unraised, isOpen.unswallowed]
  notOvertaken := isOpen.notOvertaken

/-- Where another exception is caught, no cancel is under way. -/
theorem Fail.ended {text : String} (fail : watch.Fail (.error text)) : watch.Ended where
  toBase := fail.toBase
  raised_eq_swallowed := by
    have iff := fail.cancelled_iff
    have implies := fail.raised_of_swallowed
    cases raised : watch.raised <;> cases swallowed : watch.swallowed <;> simp_all
  notOvertaken := by
    have iff := fail.cancelled_iff
    have overtaken := fail.overtaken_iff
    cases raised : watch.raised <;> cases swallowed : watch.swallowed <;> simp_all

/-- An exception that is no cancel may be raised where none is under way. -/
theorem Ended.fail (ended : watch.Ended) {error : Raised} (other : error ≠ .cancelled) :
    watch.Fail error where
  toBase := ended.toBase
  cancelled_iff := by simp [other, ended.raised_eq_swallowed]
  raised_of_swallowed := by simp [ended.raised_eq_swallowed]
  overtaken_iff := by
    rw [ended.notOvertaken, ended.raised_eq_swallowed]
    cases watch.swallowed <;> simp

theorem Open.fail (isOpen : watch.Open) {error : Raised} (other : error ≠ .cancelled) :
    watch.Fail error := isOpen.ended.fail other

theorem stable_open : Stable Open := fun watch isOpen =>
  { unprocessed := isOpen.unprocessed
    unreported := isOpen.unreported
    unlost := isOpen.unlost
    late_eq_blind := isOpen.late_eq_blind
    requested_eq_unread := by
      have equal := isOpen.requested_eq_unread
      simp only [accept, ← equal]
      cases watch.requested <;> rfl
    unraised := isOpen.unraised
    unswallowed := isOpen.unswallowed
    notOvertaken := isOpen.notOvertaken }

theorem stable_ended : Stable Ended := fun _ ended =>
  { ended with }

theorem stable_fail (error : Raised) : Stable (Fail error) := fun _ fail => { fail with }

/-! ## Shapes of triples -/

/-- The program may be run where no checkpoint has raised, and leaves it so. -/
abbrev Passes (program : Work α) : Prop :=
  surroundings.Triple Open program (fun _ => Open) Fail

/-- The program may be run where no checkpoint has raised; under a handler that swallows. -/
abbrev PassesInside (program : Work α) : Prop :=
  surroundings.Triple Open program (fun _ => Open) fun _ => Ended

/-- The program ends a job. -/
abbrev Ends (program : Work α) : Prop :=
  surroundings.Triple Open program (fun _ => Ended) Fail

/-- The program has no checkpoint. -/
abbrev Unchecked (program : Work α) : Prop :=
  surroundings.Triple Open program (fun _ => Open)
    fun error watch => error ≠ .cancelled ∧ watch.Open

theorem unchecked_plain {program : Work α} (plain : program.Plain) : Unchecked program :=
  triple_plain plain stable_open

theorem Unchecked.passes {program : Work α} (unchecked : Unchecked program) :
    Passes program :=
  unchecked.imp (fun _ => id) (fun _ _ => id) fun _ _ ⟨other, isOpen⟩ => isOpen.fail other

theorem Unchecked.passesInside {program : Work α} (unchecked : Unchecked program) :
    PassesInside program :=
  unchecked.imp (fun _ => id) (fun _ _ => id) fun _ _ ⟨_, isOpen⟩ => isOpen.ended

theorem passes_plain {program : Work α} (plain : program.Plain) : Passes program :=
  (unchecked_plain plain).passes

theorem passesInside_plain {program : Work α} (plain : program.Plain) :
    PassesInside program :=
  (unchecked_plain plain).passesInside

theorem unchecked_raising {answer : Except String α} : Unchecked (raising answer) :=
  unchecked_plain (.raising answer)

/-- What comes after a swallowed cancel is plain. -/
theorem ended_plain {program : Work α} (plain : program.Plain) :
    surroundings.Triple Ended program (fun _ => Ended) Fail :=
  (triple_plain plain stable_ended).imp (fun _ => id) (fun _ _ => id)
    fun _ _ ⟨other, ended⟩ => ended.fail other

theorem Passes.ends {program : Work α} (passes : Passes program) : Ends program :=
  passes.imp (fun _ => id) (fun _ _ isOpen => isOpen.ended) fun _ _ => id

theorem PassesInside.endsInside {program : Work α} (passes : PassesInside program) :
    surroundings.Triple Open program (fun _ => Ended) fun _ => Ended :=
  passes.imp (fun _ => id) (fun _ _ isOpen => isOpen.ended) fun _ _ => id

theorem Passes.pure (value : α) : Passes (Pure.pure value : Work α) :=
  Surroundings.Triple.pure fun _ isOpen => isOpen

theorem Passes.throw (text : String) : Passes (throw (.error text) : Work α) :=
  Surroundings.Triple.throw fun _ isOpen => isOpen.fail (by simp)

/-- A file or item is taken up before any cancel is raised. -/
theorem Open.take (isOpen : watch.Open) : watch.take.Open where
  unprocessed := by simp [Watch.take, isOpen.unprocessed, isOpen.unraised]
  unreported := isOpen.unreported
  unlost := isOpen.unlost
  late_eq_blind := isOpen.late_eq_blind
  requested_eq_unread := isOpen.requested_eq_unread
  unraised := isOpen.unraised
  unswallowed := isOpen.unswallowed
  notOvertaken := isOpen.notOvertaken

theorem Open.mutate (isOpen : watch.Open) : watch.mutate.Open where
  unprocessed := isOpen.take.unprocessed
  unreported := isOpen.unreported
  unlost := isOpen.unlost
  late_eq_blind := by
    simp [Watch.mutate, isOpen.late_eq_blind, isOpen.requested_eq_unread]
  requested_eq_unread := isOpen.requested_eq_unread
  unraised := isOpen.unraised
  unswallowed := isOpen.unswallowed
  notOvertaken := isOpen.notOvertaken

/-- A checkpoint raises to the worker. -/
theorem Open.raise (isOpen : watch.Open) {handler : Handler}
    (forwards : handler.swallows = false) :
    ({ watch with unread := false }.raise handler).Fail .cancelled where
  unprocessed := isOpen.unprocessed
  unreported := isOpen.unreported
  unlost := isOpen.unlost
  late_eq_blind := isOpen.late_eq_blind
  cancelled_iff := by simp [Watch.raise, forwards, isOpen.unswallowed]
  raised_of_swallowed := by simp [Watch.raise]
  overtaken_iff := by
    simp [Watch.raise, forwards, isOpen.unswallowed, isOpen.notOvertaken]

/-- A checkpoint raises under a handler that swallows. -/
theorem Open.raise_swallowed (isOpen : watch.Open) {handler : Handler}
    (swallows : handler.swallows = true) :
    ({ watch with unread := false }.raise handler).Ended where
  unprocessed := isOpen.unprocessed
  unreported := isOpen.unreported
  unlost := isOpen.unlost
  late_eq_blind := isOpen.late_eq_blind
  raised_eq_swallowed := by simp [Watch.raise, swallows]
  notOvertaken := by simp [Watch.raise, swallows, isOpen.notOvertaken]

theorem passes_ask {handler : Handler} {op : Op} {fail : Raised → Watch → Prop}
    (sees : ∀ (watch : Watch) answer, watch.Open → (watch.see ⟨handler, op⟩ answer).Open) :
    surroundings.Triple Open (ask handler op) (fun _ => Open) fail :=
  triple_ask stable_open fun watch answer isOpen _ => sees watch answer isOpen

theorem passes_raising {answer : Except String α} : Passes (raising answer) :=
  triple_raising fun _ _ isOpen => isOpen.fail (by simp)

theorem passesInside_raising {answer : Except String α} : PassesInside (raising answer) :=
  triple_raising fun _ _ isOpen => isOpen.ended

/-! ## Checkpoints -/

/-- A check has found the cancel of an open job. -/
def Found (watch : Watch) : Prop :=
  ∃ before : Watch, before.Open ∧ before.requested = true ∧
    watch = { before with unread := false }

/-- The check either finds the cancel or changes nothing. -/
theorem triple_isJobCancelRequested {handler : Handler} {fail : Raised → Watch → Prop}
    (job : handler.scans = false) :
    surroundings.Triple Open (ask handler .isJobCancelRequested)
      (fun answer watch => if answer = .ok true then Found watch else Open watch) fail := by
  refine .ask ?_
  rintro before answer after holds ⟨start, origin, allowed, rfl⟩
  have isOpen : start.Open := by
    rcases origin with rfl | rfl
    · exact holds
    · exact stable_open _ holds
  match answer with
  | .ok true =>
      have requested : start.requested = true := by simpa [possible, job] using allowed
      simp only [see, job]
      exact ⟨start, isOpen, requested, rfl⟩
  | .ok false | .error _ => exact isOpen

/-- Where the mark of a found cancel leads. -/
def Marked (handler : Handler) (answer : Except String Unit) (watch : Watch) : Prop :=
  ∃ before : Watch, before.Open ∧
    match answer with
    | .ok () => watch = { before with unread := false }.raise handler
    | .error _ => watch = { before with unread := false }

theorem triple_markDownloadCancelled {handler : Handler} {fail : Raised → Watch → Prop} :
    surroundings.Triple Found (ask handler .markDownloadCancelled) (Marked handler) fail := by
  refine .ask ?_
  rintro _ answer _ ⟨before, isOpen, requested, rfl⟩ ⟨start, origin, _, rfl⟩
  have unchanged : start = { before with unread := false } := by
    rcases origin with rfl | rfl
    · rfl
    · simp [accept, requested]
  subst unchanged
  refine ⟨before, isOpen, ?_⟩
  cases answer <;> rfl

/-- After the mark the cancel is raised; where the mark raises, its exception is. -/
theorem triple_markAndRaise {handler : Handler} {fail : Raised → Watch → Prop}
    (marked : ∀ watch : Watch, watch.Open →
      fail .cancelled ({ watch with unread := false }.raise handler))
    (unmarked : ∀ text (watch : Watch), watch.Open →
      fail (.error text) { watch with unread := false }) :
    surroundings.Triple Found
      (do
        raising (← ask handler .markDownloadCancelled)
        throw .cancelled : Work Unit)
      (fun _ => Open) fail := by
  refine triple_markDownloadCancelled.bind ?_
  rintro (text | _) state ⟨before, isOpen, rfl⟩
  · exact unmarked text before isOpen
  · exact marked before isOpen

/-- `_raise_if_job_cancelled`, whatever its handler does. -/
theorem triple_raiseIfJobCancelled {tracked : Bool} {handler : Handler}
    {fail : Raised → Watch → Prop} (job : handler.scans = false)
    (marked : ∀ watch : Watch, watch.Open →
      fail .cancelled ({ watch with unread := false }.raise handler))
    (unmarked : ∀ text (watch : Watch), watch.Open →
      fail (.error text) { watch with unread := false }) :
    surroundings.Triple Open (raiseIfJobCancelled tracked handler) (fun _ => Open) fail := by
  cases tracked with
  | false => exact .pure fun _ => id
  | true =>
      refine .bind (triple_isJobCancelRequested job) ?_
      rintro (text | _ | _)
      · exact .pure fun _ => id
      · exact .pure fun _ => id
      · exact triple_markAndRaise marked unmarked

/-- An exception other than a cancel may leave the request read. -/
theorem Open.fail_read (isOpen : watch.Open) {error : Raised} (other : error ≠ .cancelled) :
    Fail error { watch with unread := false } :=
  { isOpen.fail other with }

theorem passes_raiseIfJobCancelled {tracked : Bool} {handler : Handler}
    (job : handler.scans = false) (forwards : handler.swallows = false) :
    Passes (raiseIfJobCancelled tracked handler) :=
  triple_raiseIfJobCancelled job (fun _ isOpen => isOpen.raise forwards)
    fun _ _ isOpen => isOpen.fail_read (by simp)

theorem passesInside_raiseIfJobCancelled {tracked : Bool} {handler : Handler}
    (job : handler.scans = false) (swallows : handler.swallows = true) :
    PassesInside (raiseIfJobCancelled tracked handler) :=
  triple_raiseIfJobCancelled job (fun _ isOpen => isOpen.raise_swallowed swallows)
    fun _ _ isOpen => { isOpen.ended with }

/-! ## The download -/

theorem Open.lose (isOpen : watch.Open) : watch.lose.Open where
  unprocessed := isOpen.unprocessed
  unreported := isOpen.unreported
  unlost := isOpen.unlost
  late_eq_blind := isOpen.late_eq_blind
  requested_eq_unread := isOpen.requested_eq_unread
  unraised := isOpen.unraised
  unswallowed := by simp [Watch.lose, isOpen.unswallowed, isOpen.unraised]
  notOvertaken := by simp [Watch.lose, isOpen.notOvertaken]

/-- One exception that is no cancel may take the place of another. -/
theorem Fail.swap {first second : Raised} (fail : watch.Fail first) (other : first ≠ .cancelled)
    (another : second ≠ .cancelled) : watch.Fail second :=
  { fail with cancelled_iff := by simpa [other, another] using fail.cancelled_iff }

/-- The cancel gives way to another exception. -/
theorem Fail.lose (fail : watch.Fail .cancelled) {error : Raised} (other : error ≠ .cancelled) :
    watch.lose.Fail error where
  unprocessed := fail.unprocessed
  unreported := fail.unreported
  unlost := fail.unlost
  late_eq_blind := fail.late_eq_blind
  cancelled_iff := by simp [Watch.lose, other, (fail.cancelled_iff.mp rfl).1]
  raised_of_swallowed := by simp [Watch.lose, (fail.cancelled_iff.mp rfl).1]
  overtaken_iff := by simp [Watch.lose, (fail.cancelled_iff.mp rfl).1]

theorem passes_waitKilledProcess {handler : Handler} :
    Passes (act handler .waitKilledProcess) := by
  refine .bind (passes_ask fun watch answer isOpen => ?_) fun _ => passes_raising
  cases answer with
  | ok value => exact isOpen
  | error text => exact isOpen.lose

/-- The process of a cancelled job is stopped; the cancel is lost if it does not end. -/
theorem triple_stopProcess :
    surroundings.Triple (Fail .cancelled) stopProcess (fun _ => Fail .cancelled) Fail := by
  have ends : surroundings.Triple (Fail .cancelled) (ask .download .processEnds)
      (fun _ => Fail .cancelled) Fail :=
    triple_ask (stable_fail _) fun _ _ fail _ => fail
  refine ends.bind fun ended => ?_
  cases ended with
  | true => exact .pure fun _ => id
  | false =>
      have waits : surroundings.Triple (Fail .cancelled) (ask .download (.act .waitKilledProcess))
          (fun answer => match answer with
            | .ok () => Fail .cancelled
            | .error text => Fail (.error text)) Fail := by
        refine .ask ?_
        rintro before answer after fail ⟨start, origin, _, rfl⟩
        have started : start.Fail .cancelled := by
          rcases origin with rfl | rfl
          · exact fail
          · exact stable_fail _ _ fail
        cases answer with
        | ok value => exact started
        | error text => exact started.lose (by simp)
      refine waits.bind ?_
      rintro (text | _)
      · exact .throw fun _ => id
      · exact .pure fun _ => id

theorem passes_pollProcess (polls : Nat) : Passes (pollProcess polls) := by
  induction polls with
  | zero => exact .pure _
  | succ polls ih =>
      refine .bind ((passes_raiseIfJobCancelled rfl rfl).tryCatch ?_) fun _ =>
        (passes_plain (.ask rfl)).bind fun timedOut => ?_
      · intro error
        cases error with
        | cancelled => exact triple_stopProcess.bind fun _ => .throw fun _ => id
        | error text => exact .throw fun _ => id
      · cases timedOut with
        | none => exact ih
        | some text => exact passes_waitKilledProcess.bind fun _ => Passes.throw text

theorem passes_runCancellableSubprocess : Passes runCancellableSubprocess :=
  (passes_plain (plain_act rfl)).bind fun _ => (passes_plain (.ask rfl)).bind fun polls =>
    (passes_pollProcess polls).bind fun _ => (passes_plain (.ask rfl)).bind fun _ =>
      passes_raising

/-- A file is taken up, and what goes wrong is raised. -/
theorem passes_copySource (path : String) :
    Passes (ask .download (.copySource path) >>= raising) := by
  refine .bind (passes_ask ?_) fun _ => passes_raising
  exact fun _ _ isOpen => isOpen.take

theorem passes_check {handler : Handler} (job : handler.scans = false)
    (forwards : handler.swallows = false) : Passes (raiseIfJobCancelled true handler) :=
  passes_raiseIfJobCancelled job forwards

theorem passes_downloadTidal : Passes downloadTidal :=
  (passes_plain (plain_act rfl)).bind fun _ => (passes_plain (plain_act rfl)).bind fun _ =>
    (passes_check rfl rfl).bind fun _ =>
      (passes_plain (plain_setWorkerProgress _)).bind fun _ =>
        passes_runCancellableSubprocess.bind fun _ =>
          (passes_plain (plain_raiseIf _ _)).bind fun _ => (passes_check rfl rfl).bind fun _ =>
            (passes_plain (plain_setWorkerProgress _)).bind fun _ =>
              passes_runCancellableSubprocess.bind fun _ => passes_plain
                (.bind (plain_raiseIf _ _) fun _ => .bind (.ask rfl) fun _ =>
                  .bind (.raising _) fun _ => .bind (plain_raiseIf _ _) fun _ =>
                    plain_setWorkerProgress _)

theorem passes_copyEntry (entry : SourceEntry) : Passes (copyEntry entry) := by
  refine (passes_check rfl rfl).bind fun _ => ?_
  cases entry with
  | symlink path => exact Passes.throw _
  | directory => exact Passes.pure _
  | escape path => exact Passes.throw _
  | file path audio => exact passes_copySource path

theorem passes_copyFolder : Passes copyFolder :=
  (passes_plain (plain_act rfl)).bind fun _ => (passes_plain (plain_act rfl)).bind fun _ =>
    (passes_plain (plain_setWorkerProgress _)).bind fun _ => (passes_plain (.ask rfl)).bind
      fun _ => passes_raising.bind fun _ =>
        (Surroundings.Triple.forM fun entry _ => passes_copyEntry entry).bind fun _ =>
          passes_plain (.bind (plain_raiseIf _ _) fun _ => plain_setWorkerProgress _)

theorem passes_waitForSlskdFiles (expected polls : Nat) :
    Passes (waitForSlskdFiles expected polls) := by
  induction polls with
  | zero => exact (passes_plain (.ask rfl)).bind fun _ => Passes.throw _
  | succ polls ih =>
      refine (passes_check rfl rfl).bind fun _ => (passes_plain (.ask rfl)).bind fun _ =>
        passes_raising.bind fun paths => ?_
      split
      · exact passes_plain (.bind (plain_act rfl) fun _ => .pure _)
      · exact (passes_plain (plain_setWorkerProgress _)).bind fun _ => ih

theorem passes_copySlskdEntry (entry : SourceEntry) : Passes (copySlskdEntry entry) := by
  refine (passes_check rfl rfl).bind fun _ => ?_
  split
  · exact passes_copySource _
  · exact Passes.pure _

theorem passes_downloadFromSlskd : Passes downloadFromSlskd :=
  (passes_plain (.ask rfl)).bind fun _ => passes_raising.bind fun _ =>
    (passes_plain (plain_act rfl)).bind fun _ =>
      (passes_plain (plain_setWorkerProgress _)).bind fun _ =>
        (passes_plain (.ask rfl)).bind fun _ => passes_raising.bind fun _ =>
          (passes_plain (plain_act rfl)).bind fun _ => (passes_plain (.ask rfl)).bind
            fun polls => (passes_waitForSlskdFiles _ polls).bind fun _ =>
              (passes_plain (plain_setWorkerProgress _)).bind fun _ =>
                (Surroundings.Triple.forM fun entry _ => passes_copySlskdEntry entry).bind
                  fun _ => passes_plain (.bind (.ask rfl) fun _ => .bind (.raising _) fun _ =>
                    .bind (plain_raiseIf _ _) fun _ => plain_setWorkerProgress _)

theorem passes_downloadRaw (adapter : Adapter) (slskd : Bool) :
    Passes (adapter.downloadRaw slskd) := by
  cases adapter with
  | tidal => exact passes_downloadTidal
  | soulseek =>
      cases slskd with
      | true => exact passes_downloadFromSlskd
      | false => exact passes_copyFolder
  | _ => exact passes_copyFolder

/-- A round of `normalize_audio`. -/
theorem passes_checkAndProcess {op : Op}
    (takes : ∀ (watch : Watch) answer, watch.Open → (watch.see ⟨.executor, op⟩ answer).Open) :
    Passes (raiseIfJobCancelled true .executor >>= fun _ => ask .executor op) :=
  (passes_check rfl rfl).bind fun _ => passes_ask takes

theorem passes_normalizeAudio : Passes normalizeAudio := by
  refine (passes_plain (.ask rfl)).bind fun _ => passes_raising.bind fun _ =>
    (passes_plain (.ask rfl)).bind fun _ => passes_raising.bind fun _ =>
      (passes_plain (plain_setWorkerProgress _)).bind fun _ =>
        (Surroundings.Triple.forM fun path _ => passes_checkAndProcess ?_).bind fun _ =>
          (passes_plain (.ask rfl)).bind fun _ => passes_raising.bind fun _ =>
            Surroundings.Triple.forM fun path _ => passes_checkAndProcess ?_
  · exact fun _ _ isOpen => isOpen.take
  · exact fun _ _ isOpen => isOpen.take

theorem passes_prepareOutputDirectory : Passes prepareOutputDirectory :=
  (passes_check rfl rfl).bind fun _ =>
    passes_plain (.bind (.ask rfl) fun _ => .bind (plain_act rfl) fun _ => plain_act rfl)

/-- The handler of the download lets a cancel pass, and marks anything else as a failure. -/
theorem passes_downloadHandled (adapter : Adapter) (slskd : Bool) :
    Passes (tryCatch (adapter.downloadRaw slskd) fun
      | .cancelled => throw .cancelled
      | .error text => do
          saveJobs .executor { status := some .failed, error := some text }
          throw (.error text)) := by
  refine (passes_downloadRaw adapter slskd).tryCatch ?_
  rintro (_ | text)
  · exact .throw fun _ => id
  · refine Surroundings.Triple.bind ?_ fun _ => .throw fun _ => id
    exact (triple_plain (plain_saveJobs _) (stable_fail _)).imp (fun _ => id) (fun _ _ => id)
      fun error watch ⟨other, fail⟩ => fail.swap (by simp) other

theorem passes_downloadAndPrepare (adapter : Adapter) (slskd : Bool) :
    Passes (downloadAndPrepare adapter slskd) :=
  (passes_plain (plain_saveJobs _)).bind fun _ =>
    (passes_plain (plain_setWorkerProgress _)).bind fun _ =>
      (passes_downloadHandled adapter slskd).bind fun _ =>
        (passes_plain (plain_recordJobTiming _)).bind fun _ => (passes_check rfl rfl).bind
          fun _ => (passes_plain (plain_saveJobs _)).bind fun _ => passes_normalizeAudio.bind
            fun _ => (passes_check rfl rfl).bind fun _ => passes_prepareOutputDirectory.bind
              fun _ => passes_plain (.bind (plain_recordJobTiming _) fun _ =>
                .bind (plain_recordJobTiming _) fun _ => .bind (plain_setWorkerProgress _)
                  fun _ => plain_saveJobs _)

/-! ## The rescue -/

variable {request : ImportRequest} {result : Policy.VerificationResult}

theorem unchecked_rescueFile {handler : Handler} (moved : Nat) (file : ImportFile) :
    Unchecked (rescueFile handler moved file) := by
  refine (unchecked_plain (.ask rfl)).bind fun _ => unchecked_raising.bind fun found => ?_
  cases found with
  | false => exact unchecked_plain (.pure _)
  | true =>
      refine (passes_ask ?_).bind fun copied => ?_
      · exact fun _ _ isOpen => isOpen.mutate
      · cases copied with
        | true => exact unchecked_plain (.pure _)
        | false => exact unchecked_plain (.pure _)

/-- The end of the rescue: its files are looked for in Lidarr. -/
theorem plain_rescueEnd {handler : Handler} (artistId albumId : Int) (moved : Nat) :
    Work.Plain (do
      raising (← ask handler (.refreshArtist artistId))
      let registered ← raising (← ask handler (.registeredTrackFiles albumId))
      if registered ≥ max 1 ((moved + 1) / 2) then
        ask handler (.logDecision
          ⟨"RESCUED_BY_RESCAN", "place-files-and-rescan after manualimport-fail", none⟩)
        raising (← ask handler .hideFromLidarr)
        pure true
      else
        ask handler (.logDecision
          ⟨"RESCUE_FAILED", "Lidarr rescan did not register files", none⟩)
        pure false) := by
  refine .bind (.ask rfl) fun _ => .bind (.raising _) fun _ => .bind (.ask rfl) fun _ =>
    .bind (.raising _) fun registered => ?_
  split
  · exact .bind (.ask rfl) fun _ => .bind (.ask rfl) fun _ => .bind (.raising _) fun _ =>
      .pure _
  · exact .bind (.ask rfl) fun _ => .pure _

theorem unchecked_placeAndRescan {handler : Handler} (files : List ImportFile) :
    Unchecked (placeAndRescan handler files) := by
  refine (unchecked_plain (.ask rfl)).bind fun enabled => ?_
  split
  · exact unchecked_plain (.pure _)
  · cases files with
    | nil => exact unchecked_plain (.pure _)
    | cons first others =>
        refine (unchecked_plain (.ask rfl)).bind fun _ => unchecked_raising.bind fun _ =>
          (unchecked_plain (.ask rfl)).bind fun _ => unchecked_raising.bind fun _ =>
            (unchecked_plain (.ask rfl)).bind fun contained => ?_
        split
        · exact unchecked_plain (.pure _)
        · refine (unchecked_plain (plain_act rfl)).bind fun _ =>
            (Surroundings.Triple.foldlM fun moved file =>
              unchecked_rescueFile moved file).bind fun moved => ?_
          split
          · exact unchecked_plain (.pure _)
          · exact unchecked_plain (plain_rescueEnd _ _ _)

theorem passes_rescuePlaceAndRescan {tracked : Bool} {handler : Handler}
    (job : handler.scans = false) (forwards : handler.swallows = false)
    (files : List ImportFile) : Passes (rescuePlaceAndRescan tracked handler files) :=
  (passes_raiseIfJobCancelled job forwards).bind fun _ =>
    (unchecked_placeAndRescan files).passes

theorem passesInside_rescuePlaceAndRescan {tracked : Bool} {handler : Handler}
    (job : handler.scans = false) (swallows : handler.swallows = true)
    (files : List ImportFile) : PassesInside (rescuePlaceAndRescan tracked handler files) :=
  (passesInside_raiseIfJobCancelled job swallows).bind fun _ =>
    (unchecked_placeAndRescan files).passesInside

/-! ## The import -/

theorem passesInside_titleRescue (audits : List Int) :
    PassesInside (titleRescue request result audits) := by
  refine (passesInside_plain (.ask rfl)).bind fun _ => passesInside_raising.bind fun hits => ?_
  split
  · exact passesInside_plain (.pure _)
  · refine (passesInside_plain (.ask rfl)).bind fun _ =>
      passesInside_raising.bind fun albums => ?_
    split
    · exact passesInside_plain (.pure _)
    · refine (passesInside_plain (.ask rfl)).bind fun _ =>
        passesInside_raising.bind fun paths => ?_
      dsimp only
      split
      · exact passesInside_plain (.pure _)
      · refine (passesInside_rescuePlaceAndRescan rfl rfl _).bind fun rescued =>
          (passesInside_plain (plain_recordJobTiming _)).bind fun _ => ?_
        cases rescued with
        | true => exact passesInside_plain (.pure _)
        | false => exact passesInside_plain (.bind (plain_closeFailed _ _) fun _ => .pure _)

theorem ends_zeroCandidates (audits : List Int) :
    Ends (zeroCandidates request result audits) := by
  have caught : surroundings.Triple Open
      (tryCatch (titleRescue request result audits) fun _ => pure false)
      (fun _ => Ended) Fail :=
    (passesInside_titleRescue audits).endsInside.tryCatch fun _ => .pure fun _ => id
  refine caught.bind fun ended => ?_
  cases ended with
  | true => exact ended_plain (.pure _)
  | false => exact ended_plain (plain_failImport _ _)

theorem ends_rescueAfterManualImport (audits : List Int) (files : List ImportFile) :
    Ends (rescueAfterManualImport request result audits files) := by
  have rescued : surroundings.Triple Open
      (do
        if ← rescuePlaceAndRescan true .rescue files then
          completeImport .rescue request result .rescued
        else
          failImport .rescue request result audits "manualimport and rescue failed")
      (fun _ => Ended) fun _ => Ended := by
    refine (passesInside_rescuePlaceAndRescan rfl rfl files).bind fun rescued => ?_
    cases rescued with
    | true => exact (passesInside_plain (plain_completeImport _)).endsInside
    | false => exact (passesInside_plain (plain_failImport _ _)).endsInside
  exact rescued.tryCatch fun _ => ended_plain (plain_failImport _ _)

theorem ends_postManualImport (audits : List Int) (files : List ImportFile) :
    Ends (postManualImport request result audits files) := by
  refine (passes_plain (.ask rfl)).bind fun _ => (passes_check rfl rfl).bind fun _ =>
    (passes_ask ?_).bind fun _ => passes_raising.bind fun _ =>
      (passes_plain (plain_setWorkerProgress _)).bind fun _ => (passes_plain (.ask rfl)).bind
        fun _ => passes_raising.bind fun imported => ?_
  · exact fun _ _ isOpen => isOpen.mutate
  · split
    · exact (passes_plain (plain_completeImport _)).ends
    · refine (passes_plain (.ask rfl)).bind fun _ => passes_raising.bind fun pending => ?_
      cases pending with
      | true => exact (passes_plain (plain_leavePending _)).ends
      | false => exact ends_rescueAfterManualImport audits files

theorem ends_importCandidates (target : Queue.Scalar) (audits : List Int)
    (items : List Policy.ManualImportItem) :
    Ends (importCandidates request target result audits items) := by
  refine (passes_plain (plain_manualimportTargetGuardFailure _ _)).bind fun guarded => ?_
  cases guarded with
  | some reason => exact (passes_plain (plain_failImport _ _)).ends
  | none =>
      refine passes_raising.bind fun files => ?_
      split
      · exact (passes_plain (plain_failImport _ _)).ends
      · exact ends_postManualImport audits files

theorem ends_manualImport (target : Queue.Scalar) (audits : List Int) :
    Ends (manualImport request target result audits) := by
  refine (passes_plain (plain_setWorkerProgress _)).bind fun _ => (passes_plain (.ask rfl)).bind
    fun _ => passes_raising.bind fun ⟨status, body⟩ => ?_
  dsimp only
  split
  · exact (passes_plain (plain_failImport _ _)).ends
  · refine passes_raising.bind fun items => ?_
    split
    · exact ends_zeroCandidates audits
    · exact ends_importCandidates target audits items

theorem ends_switchAndImport (target : Queue.Scalar) (items : List Policy.ManualImportItem) :
    Ends (switchAndImport request target items result) := by
  refine (passes_plain (plain_maybeAutoReleaseSwitch items)).bind fun audits => ?_
  split
  · exact (passes_plain (.ask rfl)).bind fun _ => passes_raising.bind fun _ =>
      ends_manualImport target audits
  · exact ends_manualImport target audits

theorem ends_triggerLidarrImport : Ends (triggerLidarrImport request) := by
  refine (passes_check rfl rfl).bind fun _ => (passes_plain (.ask rfl)).bind fun key => ?_
  cases key with
  | false => exact (Passes.pure _).ends
  | true =>
      refine (passes_plain plain_resolveTarget).bind fun target =>
        (passes_plain plain_evaluate).bind fun context =>
          (passes_plain (plain_passGates context)).bind fun passed => ?_
      cases passed with
      | none => exact (Passes.pure _).ends
      | some result => exact ends_switchAndImport target _

/-! ## The executors -/

theorem ends_importToLidarr : Ends (importToLidarr request) := by
  have body : Ends (do
      triggerLidarrImport request
      setWorkerProgress .importToLidarr "finalizing") :=
    ends_triggerLidarrImport.bind fun _ => ended_plain (plain_setWorkerProgress _)
  refine (passes_check rfl rfl).bind fun _ => body.tryCatch ?_
  rintro (_ | text)
  · exact .throw fun _ => id
  · exact (ended_plain (plain_markImportFailed _)).imp (fun _ fail => fail.ended)
      (fun _ _ => id) fun _ _ => id

theorem ends_executeSourceGrabJob (grab : GrabRequest) : Ends (executeSourceGrabJob grab) := by
  unfold executeSourceGrabJob
  split
  · exact (Passes.throw _).ends
  · refine (passes_plain (.ask rfl)).bind fun registered => ?_
    cases registered with
    | false => exact (Passes.throw _).ends
    | true =>
        exact (passes_plain (plain_act rfl)).bind fun _ =>
          (passes_downloadAndPrepare _ _).bind fun _ => ends_importToLidarr.bind fun _ =>
            ended_plain plain_sourceGrabTerminalResult

theorem ends_executeBackendCompletedGrabJob (grab : GrabRequest) :
    Ends (executeBackendCompletedGrabJob grab) := by
  have mirrored : surroundings.Triple Open
      (tryCatch (executeSourceGrabJob grab) fun raised => do
        mirrorBackendIngestOutcome .failed
        throw raised)
      (fun _ => Ended) Fail := by
    refine (ends_executeSourceGrabJob grab).tryCatch fun raised => ?_
    refine Surroundings.Triple.bind ?_ fun _ => .throw fun _ => id
    exact (triple_within (within_mirrorBackendIngestOutcome .failed) (stable_fail raised)).imp
      (fun _ => id) (fun _ _ => id) fun _ _ ⟨never, _⟩ => never.elim
  exact mirrored.bind fun _ => ended_plain (.bind (.ask rfl) fun _ =>
    .bind (plain_mirrorBackendIngestOutcome _) fun _ => .pure _)

variable {tracked : Bool} {handler : Handler}

theorem passes_confirmManualImport (job : handler.scans = false)
    (forwards : handler.swallows = false) (files : List ImportFile) :
    Passes (confirmManualImport tracked handler files) := by
  refine (passes_raiseIfJobCancelled job forwards).bind fun _ =>
    (passes_plain (plain_setWorkerProgress _)).bind fun _ => (passes_plain (.ask rfl)).bind
      fun _ => passes_raising.bind fun imported => ?_
  split
  · exact passes_plain (.bind (plain_setWorkerProgress _) fun _ =>
      .bind plain_markImportCompleted fun _ => .bind (plain_setWorkerProgress _) fun _ => .pure _)
  · refine (passes_plain (.ask rfl)).bind fun _ => passes_raising.bind fun pending => ?_
    cases pending with
    | true => exact passes_plain (.bind (plain_saveJobs _) fun _ => .pure _)
    | false =>
        refine (passes_raiseIfJobCancelled job forwards).bind fun _ =>
          (passes_plain (plain_setWorkerProgress _)).bind fun _ =>
            (passes_rescuePlaceAndRescan job forwards files).bind fun rescued => ?_
        cases rescued with
        | true =>
            exact passes_plain (.bind plain_markImportCompleted fun _ =>
              .bind (plain_setWorkerProgress _) fun _ => .pure _)
        | false => exact passes_plain plain_failManualImport

theorem passes_runManualImportOnly (job : handler.scans = false)
    (forwards : handler.swallows = false) : Passes (runManualImportOnly tracked handler) := by
  refine (passes_plain (plain_setWorkerProgress _)).bind fun _ =>
    (passes_raiseIfJobCancelled job forwards).bind fun _ => (passes_plain (.ask rfl)).bind
      fun key => ?_
  split
  · exact Passes.pure _
  · refine (passes_plain (.ask rfl)).bind fun _ => passes_raising.bind fun ⟨status, body⟩ => ?_
    dsimp only
    split
    · exact Passes.pure _
    · refine (passes_raiseIfJobCancelled job forwards).bind fun _ => passes_raising.bind
        fun items => passes_raising.bind fun files => ?_
      split
      · exact Passes.pure _
      · refine (passes_raiseIfJobCancelled job forwards).bind fun _ =>
          (passes_plain (plain_setWorkerProgress _)).bind fun _ => (passes_plain (.ask rfl)).bind
            fun _ => (passes_ask ?_).bind fun _ => passes_raising.bind fun _ =>
              passes_confirmManualImport job forwards files
        exact fun _ _ isOpen => isOpen.mutate

theorem passes_promoteVerifiedImport (job : handler.scans = false)
    (forwards : handler.swallows = false) (place : SidecarPlace) (record : SidecarRecord) :
    Passes (promoteVerifiedImport tracked handler place record) := by
  unfold promoteVerifiedImport
  split
  · exact Passes.pure _
  · split
    · exact Passes.pure _
    · exact (passes_raiseIfJobCancelled job forwards).bind fun _ =>
        (passes_plain (.ask rfl)).bind fun _ => passes_raising.bind fun _ =>
          (passes_runManualImportOnly job forwards).bind fun _ => passes_plain
            (.bind (.ask rfl) fun _ => .bind (.ask rfl) fun _ => .bind (.raising _) fun _ =>
              .pure _)

theorem passes_retryVerifiedImport (job : handler.scans = false)
    (forwards : handler.swallows = false) (place : SidecarPlace) (record : SidecarRecord) :
    Passes (retryVerifiedImport tracked handler place record) := by
  unfold retryVerifiedImport
  split
  · exact Passes.pure _
  · split
    · exact Passes.pure _
    · refine (passes_plain (.ask rfl)).bind fun existing => ?_
      split
      · exact Passes.pure _
      · exact (passes_raiseIfJobCancelled job forwards).bind fun _ =>
          (passes_plain (plain_saveJobs _)).bind fun _ =>
            (passes_runManualImportOnly job forwards).bind fun _ => passes_plain
              (.bind (.ask rfl) fun _ => .bind (.ask rfl) fun _ => .bind (.raising _) fun _ =>
                .pure _)

theorem passes_executeVerificationAction {name jid : String}
    {action : SidecarPlace → SidecarRecord → Work ActionResult}
    (passes : ∀ place record, Passes (action place record)) :
    Passes (executeVerificationAction name jid action) := by
  unfold executeVerificationAction
  split
  · exact Passes.throw _
  · refine (passes_plain (plain_setWorkerProgress _)).bind fun _ => (passes_plain (.ask rfl)).bind
      fun found => ?_
    cases found with
    | none => exact Passes.throw _
    | some found =>
        refine (passes_plain (plain_setWorkerProgress _)).bind fun _ =>
          (passes found.1 found.2).bind fun acted => ?_
        split
        · exact Passes.throw _
        · exact passes_plain plain_verificationActionResultState

end Watch

end Mintarr.Lane
