import Mintarr.Lib.Machine
import Mintarr.Queue.Operations

/-!
# What the queue operations do to a job

`Op` collects the critical sections of the queue, and `queue` is the machine
that takes them in any order.  One theorem, `Op.evolves`, says what a critical
section may do to a job row; every property of the jobs table is derived from it
and never from the operations themselves.
-/

namespace Mintarr.Queue

open Lib JobState

/-- The critical sections of the queue. -/
inductive Op where
  | enqueueJob (request : EnqueueRequest) (now : Time)
  | dequeueNextJob (request : ClaimRequest) (now : Time)
  | heartbeatJob (jobId : Nat) (leaseSec now : Time)
  | updateJobProgress (jobId : Nat) (progress : Progress) (now : Time)
  | markJobCompleted (jobId : Nat) (resultState : Option String) (result : Payload)
      (now : Time)
  | markJobFailed (jobId : Nat) (errorText : String) (resultState : Option String)
      (now : Time)
  | markJobCancelled (jobId : Nat) (now : Time)
  | scheduleJobRetry (jobId : Nat) (errorText : String) (delaySec : Time)
      (resultState : Option String) (now : Time)
  | requestJobCancel (jobId : Nat)
  | recoverStaleRunningJobs (maxAgeSec : Option Time) (force : Bool) (now : Time)
      (cut : Cut)
  | enqueueLibraryScan (mode : String) (requestedBy : Option String) (now : Time)
      (cut : Cut)
  | updateLibraryScanRunState (runId : Int) (state : JobState)
      (lastError : Option String) (totals : Option ScanTotals) (now : Time)
  | requestLibraryScanCancel (runId : Nat) (now : Time)
  | reconcileOrphanedLibraryScanRuns (now : Time) (cut : Cut)

namespace Op

/-- The database after a critical section. -/
def apply (db : Db) : Op → Db
  | .enqueueJob request now => (Queue.enqueueJob request now db).1
  | .dequeueNextJob request now => (Queue.dequeueNextJob request now db).1
  | .heartbeatJob jobId leaseSec now => Queue.heartbeatJob jobId leaseSec now db
  | .updateJobProgress jobId progress now => Queue.updateJobProgress jobId progress now db
  | .markJobCompleted jobId resultState result now =>
      Queue.markJobCompleted jobId resultState result now db
  | .markJobFailed jobId errorText resultState now =>
      Queue.markJobFailed jobId errorText resultState now db
  | .markJobCancelled jobId now => Queue.markJobCancelled jobId now db
  | .scheduleJobRetry jobId errorText delaySec resultState now =>
      (Queue.scheduleJobRetry jobId errorText delaySec resultState now db).1
  | .requestJobCancel jobId => (Queue.requestJobCancel jobId db).1
  | .recoverStaleRunningJobs maxAgeSec force now cut =>
      Queue.recoverStaleRunningJobs maxAgeSec force now cut db
  | .enqueueLibraryScan mode requestedBy now cut =>
      Queue.enqueueLibraryScan mode requestedBy now cut db
  | .updateLibraryScanRunState runId state lastError totals now =>
      Queue.updateLibraryScanRunState runId state lastError totals now db
  | .requestLibraryScanCancel runId now => (Queue.requestLibraryScanCancel runId now db).1
  | .reconcileOrphanedLibraryScanRuns now cut =>
      Queue.reconcileOrphanedLibraryScanRuns now cut db

/-- The job a critical section claims for its caller. -/
def claimed (db : Db) : Op → Option Job
  | .dequeueNextJob request now => (Queue.dequeueNextJob request now db).2
  | _ => none

/-- The critical section is a `mark_job_*` call for this job. -/
def Reports (jobId : Nat) : Op → Prop
  | .markJobCompleted id .. | .markJobFailed id .. | .markJobCancelled id _ => id = jobId
  | _ => False

/-- The critical section is a recovery pass that selects this row. -/
def Recovers (job : Job) : Op → Prop
  | .recoverStaleRunningJobs maxAgeSec force now _ => job.stale maxAgeSec force now = true
  | _ => False

end Op

/-- The machine that takes critical sections in any order. -/
def queue : Machine Db Op where
  step db op := some (op.apply db)

/-- The columns that are written once, when the row is inserted. -/
structure Work where
  jid : String
  type : String
  priority : Int
  createdAt : Time
  maxAttempts : Option Int
  dedupeKey : Option String
  sourceType : Option String
  sourceId : Option String
  payload : Payload

/-- The work a row stands for. -/
def Job.work (job : Job) : Work :=
  ⟨job.jid, job.type, job.priority, job.createdAt, job.maxAttempts, job.dedupeKey,
    job.sourceType, job.sourceId, job.payload⟩

/-- How a critical section may move the state of one row. -/
inductive Transition (op : Op) (old next : Job) : Prop where
  | kept (state : next.state = old.state) (resultState : next.resultState = old.resultState)
      (attempts : next.attempts = old.attempts)
  | claimed (was : old.state = .queued) (state : next.state = .running)
      (attempts : next.attempts = old.attempts + 1)
  | cancelling (was : old.state = .running) (state : next.state = .cancelling)
      (attempts : next.attempts = old.attempts)
  | retried (was : old.state = .running ∨ old.state = .cancelling)
      (remaining : (old.attempts : Int) < old.maxAttempts.getD 1)
      (state : next.state = .queued) (attempts : next.attempts = old.attempts)
  | requeued (selected : op.Recovers old) (was : old.state = .running)
      (remaining : (old.attempts : Int) < old.recoveryLimit)
      (state : next.state = .queued) (attempts : next.attempts = old.attempts)
  | exhausted (selected : op.Recovers old) (was : old.state = .running)
      (limit : old.recoveryLimit ≤ old.attempts)
      (state : next.state = .failed) (attempts : next.attempts = old.attempts)
  | reported (mine : op.Reports old.id) (state : next.state.Terminal)
      (attempts : next.attempts = old.attempts)

/-- What a critical section may do to one row. -/
structure Moves (op : Op) (old next : Job) : Prop where
  work : next.work = old.work
  cancelRequested : old.cancelRequested = true → next.cancelRequested = true
  transition : Transition op old next

/-- The rows a critical section may insert. -/
def Op.Inserts (db : Db) (job : Job) : Op → Prop
  | .enqueueJob request now =>
      job = request.job now db.jobs.nextKey ∧
        request.dedupeKey.bind (findActiveJobByDedupe · db) = none
  | .enqueueLibraryScan mode _ now _ =>
      job = scanJob (normalizeScanMode mode) db.scanRuns.nextKey now db.jobs.nextKey ∧
        getActiveLibraryScanRun db = none
  | _ => False

/-- Inserted rows wait for their first claim. -/
theorem Op.Inserts.fresh {op : Op} {db : Db} {job : Job} (inserts : op.Inserts db job) :
    job.state = .queued ∧ job.attempts = 0 ∧ job.id = db.jobs.nextKey := by
  cases op with
  | enqueueJob request now | enqueueLibraryScan mode requestedBy now cut =>
      rw [inserts.1]
      exact ⟨rfl, rfl, rfl⟩
  | _ => exact inserts.elim

theorem Moves.type {op : Op} {old next : Job} (move : Moves op old next) :
    next.type = old.type := congrArg Work.type move.work

theorem Moves.maxAttempts {op : Op} {old next : Job} (move : Moves op old next) :
    next.maxAttempts = old.maxAttempts := congrArg Work.maxAttempts move.work

theorem Moves.dedupeKey {op : Op} {old next : Job} (move : Moves op old next) :
    next.dedupeKey = old.dedupeKey := congrArg Work.dedupeKey move.work

/-- No critical section lowers `attempts`. -/
theorem Moves.attempts_le {op : Op} {old next : Job} (move : Moves op old next) :
    old.attempts ≤ next.attempts := by
  cases move.transition with
  | claimed _ _ attempts => omega
  | kept _ _ attempts | cancelling _ _ attempts | retried _ _ _ attempts
  | requeued _ _ _ _ attempts | exhausted _ _ _ _ attempts | reported _ _ attempts =>
      exact Nat.le_of_eq attempts.symm

/-- No move makes an ended row active. -/
theorem Moves.was_active {op : Op} {old next : Job} (move : Moves op old next)
    (active : next.state.Active) : old.state.Active := by
  cases move.transition with
  | kept state => exact state ▸ active
  | claimed was => exact was ▸ active_queued
  | cancelling was | requeued _ was | exhausted _ was => exact was ▸ active_running
  | retried was =>
      rcases was with was | was
      · exact was ▸ active_running
      · exact was ▸ active_cancelling
  | reported _ terminal => exact absurd active terminal.not_active

theorem Moves.refl (op : Op) (job : Job) : Moves op job job :=
  ⟨rfl, id, .kept rfl rfl rfl⟩

/-! ## Each critical section -/

section Steps

variable {op : Op} {entered : Job → Prop}

/-- An update that leaves the state columns alone. -/
theorem evolves_kept (table : Table Job Job.id) {accept : Job → Bool} {change : Job → Job}
    (keeps : ∀ row, (change row).id = row.id := by intro; rfl)
    (kept : ∀ row : Job, (change row).work = row.work ∧ (change row).state = row.state ∧
      (change row).resultState = row.resultState ∧ (change row).attempts = row.attempts ∧
      (change row).cancelRequested = row.cancelRequested := by
        intro; exact ⟨rfl, rfl, rfl, rfl, rfl⟩) :
    Table.Evolves (Moves op) entered table (table.update accept change keeps) := by
  refine .update (Moves.refl op) _ keeps ?_
  intro row _ _
  rcases kept row with ⟨work, state, resultState, attempts, cancelRequested⟩
  exact ⟨work, fun requested => cancelRequested.trans requested,
    .kept state resultState attempts⟩

/-- An update that reports the outcome of a job. -/
theorem evolves_reported (table : Table Job Job.id) {jobId : Nat} {change : Job → Job}
    {outcome : JobState} (mine : op.Reports jobId) (terminal : outcome.Terminal)
    (keeps : ∀ row, (change row).id = row.id := by intro; rfl)
    (reported : ∀ row : Job, (change row).work = row.work ∧ (change row).state = outcome ∧
      (change row).attempts = row.attempts ∧
      (change row).cancelRequested = row.cancelRequested := by
        intro; exact ⟨rfl, rfl, rfl, rfl⟩) :
    Table.Evolves (Moves op) entered table
      (table.update (fun row => row.id = jobId) change keeps) := by
  refine .update (Moves.refl op) _ keeps ?_
  intro row _ accepted
  have sameId : row.id = jobId := by simpa using accepted
  rcases reported row with ⟨work, state, attempts, cancelRequested⟩
  exact ⟨work, fun requested => cancelRequested.trans requested,
    .reported (sameId ▸ mine) (state ▸ terminal) attempts⟩

theorem enqueueJob_evolves (request : EnqueueRequest) (now : Time) (db : Db) :
    Table.Evolves (Moves op) ((Op.enqueueJob request now).Inserts db) db.jobs
      (enqueueJob request now db).1.jobs := by
  simp only [enqueueJob]
  split
  · exact .refl (Moves.refl op) _
  · split
    · exact .refl (Moves.refl op) _
    · next absent =>
        exact .insert (Moves.refl op) _ (request.job_id now) ⟨rfl, absent⟩

/-- What `dequeue_next_job` does when it finds an eligible row. -/
theorem dequeueNextJob_cases (request : ClaimRequest) (now : Time) (db : Db) :
    dequeueNextJob request now db = (db, none) ∨
      ∃ job ∈ db.jobs.rows, request.eligible now job = true ∧
        dequeueNextJob request now db =
          ({ db with
              jobs := db.jobs.update
                (fun row => row.id = job.id ∧ row.state = .queued)
                (request.claim now) (request.claim_id now) },
            some (request.claim now job)) := by
  simp only [dequeueNextJob]
  split
  · exact Or.inl rfl
  · next job selected =>
      right
      have chosen : job ∈ db.jobs.rows ∧ request.eligible now job = true := by
        have member := List.mem_of_head? selected
        simpa [List.mem_insertionSort] using member
      refine ⟨job, chosen.1, chosen.2, ?_⟩
      have queued := (ClaimRequest.eligible_iff.mp chosen.2).1
      have reread : (db.jobs.update (fun row => row.id = job.id ∧ row.state = .queued)
          (request.claim now) (request.claim_id now)).find? job.id = some (request.claim now job) := by
        rw [Table.find?_eq_some, Table.mem_update]
        exact ⟨⟨job, chosen.1, by simp [queued]⟩, rfl⟩
      simp only [reread]

theorem dequeueNextJob_evolves (request : ClaimRequest) (now : Time) (db : Db) :
    Table.Evolves (Moves op) entered db.jobs (dequeueNextJob request now db).1.jobs := by
  rcases dequeueNextJob_cases request now db with idle | ⟨job, _, _, claim⟩
  · rw [idle]
    exact .refl (Moves.refl op) _
  · rw [claim]
    refine .update (Moves.refl op) _ (request.claim_id now) ?_
    intro row _ accepted
    have queued : row.state = .queued := by
      simp only [decide_eq_true_eq] at accepted
      exact accepted.2
    exact ⟨rfl, id, .claimed queued rfl rfl⟩

theorem scheduleJobRetry_evolves (jobId : Nat) (errorText : String) (delaySec : Time)
    (resultState : Option String) (now : Time) (db : Db) :
    Table.Evolves (Moves op) entered db.jobs
      (scheduleJobRetry jobId errorText delaySec resultState now db).1.jobs := by
  refine .update (Moves.refl op) _ ?keeps ?moves
  case keeps => exact fun _ => rfl
  intro row _ accepted
  simp only [Job.retryable, Bool.and_eq_true, decide_eq_true_eq] at accepted
  rcases accepted with ⟨_, state, remaining, notRequested⟩
  refine ⟨rfl, ?_, .retried state remaining rfl rfl⟩
  intro requested
  rw [notRequested] at requested
  contradiction

theorem requestJobCancel_evolves (jobId : Nat) (db : Db) :
    Table.Evolves (Moves op) entered db.jobs (requestJobCancel jobId db).1.jobs := by
  refine .update (Moves.refl op) _ ?keeps ?moves
  case keeps => exact fun _ => rfl
  intro row _ _
  refine ⟨rfl, fun _ => rfl, ?_⟩
  by_cases running : row.state = .running
  · exact .cancelling running (by simp [running]) rfl
  · exact .kept (by simp [running]) rfl rfl

/-- Recovery moves each selected row as its snapshot decides. -/
theorem recover_moves {maxAgeSec : Option Time} {force : Bool} {now : Time} {cut : Cut}
    {job : Job} (stale : job.stale maxAgeSec force now = true) :
    Moves (.recoverStaleRunningJobs maxAgeSec force now cut) job (job.recover now job) := by
  have running : job.state = .running := by
    simp only [Job.stale, Bool.and_eq_true, decide_eq_true_eq] at stale
    exact stale.1
  simp only [Job.recover]
  split
  · next limit =>
      exact ⟨rfl, id, .exhausted stale running limit rfl rfl⟩
  · next remaining =>
      exact ⟨rfl, id,
        .requeued stale running (not_le.mp remaining) rfl rfl⟩

/-- A recovery pass works on distinct rows of the table. -/
theorem keep_staleJobs (maxAgeSec : Option Time) (force : Bool) (now : Time) (cut : Cut)
    (db : Db) : (cut.keep (staleJobs maxAgeSec force now db)).Sublist db.jobs.rows :=
  (cut.keep_sublist _).trans List.filter_sublist

theorem recoverStaleRunningJobs_evolves (maxAgeSec : Option Time) (force : Bool)
    (now : Time) (cut : Cut) (db : Db) :
    Table.Evolves (Moves (.recoverStaleRunningJobs maxAgeSec force now cut)) entered
      db.jobs (recoverStaleRunningJobs maxAgeSec force now cut db).jobs := by
  have sub := keep_staleJobs maxAgeSec force now cut db
  refine .updateEach (Moves.refl _) _ (Job.recover_id now) (Table.nodup_keys_of_sublist sub)
    (fun item itemMem => sub.subset itemMem) ?_
  intro job jobMem
  have selected := Cut.mem_of_mem_keep jobMem
  simp only [staleJobs, List.mem_filter] at selected
  exact recover_moves selected.2

/-- The jobs table after `enqueue_library_scan`: unchanged, or one scan job more
when no run was active. -/
theorem enqueueLibraryScan_jobs (mode : String) (requestedBy : Option String) (now : Time)
    (cut : Cut) (db : Db) :
    (enqueueLibraryScan mode requestedBy now cut db).jobs = db.jobs ∨
      getActiveLibraryScanRun db = none ∧
        (enqueueLibraryScan mode requestedBy now cut db).jobs =
          db.jobs.insert (scanJob (normalizeScanMode mode) db.scanRuns.nextKey now)
            (scanJob_id _ _ now) := by
  simp only [enqueueLibraryScan]
  split
  · exact Or.inl rfl
  · next idle =>
      cases cut with
      | none => exact Or.inr ⟨idle, rfl⟩
      | some count =>
          match count with
          | 0 | 1 => exact Or.inl rfl
          | 2 => exact Or.inr ⟨idle, rfl⟩
          | count + 3 =>
              simp only [Cut.keep, List.take_succ_cons, List.take_nil]
              exact Or.inr ⟨idle, rfl⟩

theorem enqueueLibraryScan_evolves (mode : String) (requestedBy : Option String)
    (now : Time) (cut : Cut) (db : Db) :
    Table.Evolves (Moves op) ((Op.enqueueLibraryScan mode requestedBy now cut).Inserts db)
      db.jobs (enqueueLibraryScan mode requestedBy now cut db).jobs := by
  rcases enqueueLibraryScan_jobs mode requestedBy now cut db with same | ⟨idle, inserted⟩
  · rw [same]
    exact .refl (Moves.refl op) _
  · rw [inserted]
    exact .insert (Moves.refl op) _ (scanJob_id _ _ now) ⟨rfl, idle⟩

@[simp] theorem updateLibraryScanRunState_jobs (runId : Int) (state : JobState)
    (lastError : Option String) (totals : Option ScanTotals) (now : Time) (db : Db) :
    (updateLibraryScanRunState runId state lastError totals now db).jobs = db.jobs := rfl

@[simp] theorem requestLibraryScanCancel_jobs (runId : Nat) (now : Time) (db : Db) :
    (requestLibraryScanCancel runId now db).1.jobs = db.jobs := by
  simp only [requestLibraryScanCancel]
  split
  · rfl
  · split <;> rfl

@[simp] theorem reconcileOrphanedLibraryScanRuns_jobs (now : Time) (cut : Cut) (db : Db) :
    (reconcileOrphanedLibraryScanRuns now cut db).jobs = db.jobs := rfl

end Steps

/-- What any critical section does to the jobs table. -/
theorem Op.evolves (op : Op) (db : Db) :
    Table.Evolves (Moves op) (op.Inserts db) db.jobs (op.apply db).jobs := by
  cases op with
  | enqueueJob request now => exact enqueueJob_evolves request now db
  | dequeueNextJob request now => exact dequeueNextJob_evolves request now db
  | heartbeatJob jobId leaseSec now =>
      exact evolves_kept db.jobs
  | updateJobProgress jobId progress now =>
      exact evolves_kept db.jobs
  | markJobCompleted jobId resultState result now =>
      have mine : Reports jobId (.markJobCompleted jobId resultState result now) := rfl
      exact evolves_reported db.jobs mine terminal_completed
  | markJobFailed jobId errorText resultState now =>
      have mine : Reports jobId (.markJobFailed jobId errorText resultState now) := rfl
      exact evolves_reported db.jobs mine terminal_failed
  | markJobCancelled jobId now =>
      have mine : Reports jobId (.markJobCancelled jobId now) := rfl
      exact evolves_reported db.jobs mine terminal_cancelled
  | scheduleJobRetry jobId errorText delaySec resultState now =>
      exact scheduleJobRetry_evolves jobId errorText delaySec resultState now db
  | requestJobCancel jobId => exact requestJobCancel_evolves jobId db
  | recoverStaleRunningJobs maxAgeSec force now cut =>
      exact recoverStaleRunningJobs_evolves maxAgeSec force now cut db
  | enqueueLibraryScan mode requestedBy now cut =>
      exact enqueueLibraryScan_evolves mode requestedBy now cut db
  | updateLibraryScanRunState runId state lastError totals now =>
      rw [apply, updateLibraryScanRunState_jobs]
      exact .refl (Moves.refl _) _
  | requestLibraryScanCancel runId now =>
      rw [apply, requestLibraryScanCancel_jobs]
      exact .refl (Moves.refl _) _
  | reconcileOrphanedLibraryScanRuns now cut =>
      rw [apply, reconcileOrphanedLibraryScanRuns_jobs]
      exact .refl (Moves.refl _) _

end Mintarr.Queue
