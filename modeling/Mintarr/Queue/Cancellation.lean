import Mintarr.Queue.TerminalStates

/-!
# Accepted cancels

`request_job_cancel` sets `cancel_requested` in one critical section; the thread that
runs the job reads the flag later, in another.  Between the two the row may be claimed,
retried or recovered.  The flag survives all of these: the one operation that clears it,
`schedule_job_retry`, refuses rows on which it is set.

A job whose cancel is accepted while it waits in the queue must also never start.  No
thread can then be inside the job, since only a retry or a recovery pass puts a claimed
row back in the queue, and the first ends the invocation while the second spares it.
-/

namespace Mintarr.Queue

open Lib JobState

/-- The database calls of an action succeed, and what it enqueues has an executor, as
with every caller of `enqueue_job`. -/
def Action.dependable : Action → Bool
  | .enqueueJob request _ => request.type ∈ registeredTypes
  | .enqueueLibraryScan _ _ _ cut | .importStart _ cut | .importRecover _ cut
  | .scanReconcile _ cut => cut = none
  | .importClaim _ _ delivered | .scanClaim _ _ delivered => delivered
  | .importBegin readOk | .importJudge readOk => readOk
  | .importRetry _ stored | .importReport _ stored | .scanEnd _ _ _ stored
  | .scanReport _ stored => stored
  | .scanBegin readOk _ stored => readOk && stored
  | .requestJobCancel _ | .requestLibraryScanCancel .. | .heartbeat .. | .progress ..
  | .kill | .importEnd _ | .scanStart | .scanProgress .. | .scanObserveCancel _ => true

/-- The guard of the runs in which the database works. -/
abbrev World.Dependable (_ : World) (action : Action) : Prop := action.dependable = true

/-- What the worker threads can run: a registered type, or a scan with its run. -/
def Job.Runnable (job : Job) : Prop :=
  job.type ∈ registeredTypes ∨
    job.type = libraryScanJobType ∧ job.maxAttempts = some libraryScanMaxAttempts ∧
      ∃ runId, scanRunId job.payload = some runId ∧ runId ≠ 0

/-! ## Where a waiting or running row comes from -/

/-- The critical section puts this row back in the queue. -/
def Op.Requeues (job : Job) : Op → Prop
  | .scheduleJobRetry jobId .. => job.id = jobId ∧ job.retryable = true
  | .recoverStaleRunningJobs maxAgeSec force now _ =>
      job.stale maxAgeSec force now = true ∧ (job.attempts : Int) < job.recoveryLimit
  | _ => False

/-- What a critical section has to do with a row that waits or runs after it. -/
structure Traced (op : Op) (db : Db) (old next : Job) : Prop where
  queued : next.state = .queued → old.state = .queued ∨ op.Requeues old
  running : next.state = .running → old.state = .running ∨ op.claimed db = some next

namespace Traced

variable {op : Op} {db : Db} {old next : Job}

theorem of_state (same : next.state = old.state) : Traced op db old next :=
  ⟨fun queued => Or.inl (same ▸ queued), fun running => Or.inl (same ▸ running)⟩

theorem of_terminal (terminal : next.state.Terminal) : Traced op db old next := by
  have inactive := terminal.not_active
  constructor
  · intro queued
    exact absurd (queued ▸ active_queued) inactive
  · intro running
    exact absurd (running ▸ active_running) inactive

theorem refl (op : Op) (db : Db) (job : Job) : Traced op db job job := of_state rfl

end Traced

section Steps

variable {op : Op} {db : Db} {entered : Job → Prop}

/-- An update is traced when the rows it accepts are. -/
theorem traced_update (table : Table Job Job.id) {accept : Job → Bool} {change : Job → Job}
    (moves : ∀ row ∈ table.rows, accept row = true → Traced op db row (change row))
    (keeps : ∀ row, (change row).id = row.id := by intro; rfl) :
    Table.Evolves (Traced op db) entered table (table.update accept change keeps) :=
  .update (Traced.refl op db) table keeps moves

theorem enqueueJob_traced (request : EnqueueRequest) (now : Time) :
    Table.Evolves (Traced op db) (fun _ => True) db.jobs (enqueueJob request now db).1.jobs := by
  simp only [enqueueJob]
  split
  · exact .refl (Traced.refl op db) _
  · split
    · exact .refl (Traced.refl op db) _
    · exact .insert (Traced.refl op db) _ (request.job_id now) trivial

theorem dequeueNextJob_traced (request : ClaimRequest) (now : Time) (db : Db) :
    Table.Evolves (Traced (.dequeueNextJob request now) db) entered db.jobs
      (dequeueNextJob request now db).1.jobs := by
  rcases dequeueNextJob_cases request now db with idle | ⟨job, jobMem, _, claim⟩
  · rw [idle]
    exact .refl (Traced.refl _ db) _
  · rw [claim]
    refine traced_update _ ?_ (request.claim_id now)
    intro row rowMem accepted
    simp only [decide_eq_true_eq] at accepted
    rcases Table.eq_of_key_eq rowMem jobMem accepted.1 with rfl
    refine ⟨?_, fun _ => Or.inr ?_⟩
    · intro queued
      simp [ClaimRequest.claim] at queued
    · rw [Op.claimed, claim]

theorem requestJobCancel_traced (jobId : Nat) :
    Table.Evolves (Traced op db) entered db.jobs (requestJobCancel jobId db).1.jobs := by
  refine traced_update _ ?_
  intro row _ _
  by_cases running : row.state = .running
  · constructor <;> simp [running]
  · exact .of_state (by simp [running])

theorem recoverStaleRunningJobs_traced (maxAgeSec : Option Time) (force : Bool)
    (now : Time) (cut : Cut) (db : Db) :
    Table.Evolves (Traced (.recoverStaleRunningJobs maxAgeSec force now cut) db) entered
      db.jobs (recoverStaleRunningJobs maxAgeSec force now cut db).jobs := by
  have sub := keep_staleJobs maxAgeSec force now cut db
  refine .updateEach (Traced.refl _ db) _ (Job.recover_id now) (Table.nodup_keys_of_sublist sub)
    (fun item itemMem => sub.subset itemMem) ?_
  intro job jobMem
  have selected := Cut.mem_of_mem_keep jobMem
  simp only [staleJobs, List.mem_filter] at selected
  simp only [Job.recover]
  split
  · exact .of_terminal terminal_failed
  · next remaining =>
      constructor
      · exact fun _ => Or.inr ⟨selected.2, not_le.mp remaining⟩
      · intro running
        contradiction

theorem enqueueLibraryScan_traced (mode : String) (requestedBy : Option String)
    (now : Time) (cut : Cut) :
    Table.Evolves (Traced op db) (fun _ => True) db.jobs
      (enqueueLibraryScan mode requestedBy now cut db).jobs := by
  rcases enqueueLibraryScan_jobs mode requestedBy now cut db with same | ⟨_, inserted⟩
  · rw [same]
    exact .refl (Traced.refl op db) _
  · rw [inserted]
    exact .insert (Traced.refl op db) _ (scanJob_id _ _ now) trivial

/-- Only a retry and a recovery pass put rows back in the queue, and only a claim takes
them out. -/
theorem Op.traced (op : Op) (db : Db) :
    Table.Evolves (Traced op db) (fun _ => True) db.jobs (op.apply db).jobs := by
  cases op with
  | enqueueJob request now => exact enqueueJob_traced request now
  | dequeueNextJob request now => exact dequeueNextJob_traced request now db
  | heartbeatJob jobId leaseSec now =>
      refine traced_update _ ?_
      exact fun _ _ _ => .of_state rfl
  | updateJobProgress jobId progress now =>
      refine traced_update _ ?_
      exact fun _ _ _ => .of_state rfl
  | markJobCompleted jobId resultState result now =>
      refine traced_update _ ?_
      exact fun _ _ _ => .of_terminal terminal_completed
  | markJobFailed jobId errorText resultState now =>
      refine traced_update _ ?_
      exact fun _ _ _ => .of_terminal terminal_failed
  | markJobCancelled jobId now =>
      refine traced_update _ ?_
      exact fun _ _ _ => .of_terminal terminal_cancelled
  | scheduleJobRetry jobId errorText delaySec resultState now =>
      refine traced_update _ ?_
      intro row _ accepted
      simp only [Bool.and_eq_true, decide_eq_true_eq] at accepted
      refine ⟨fun _ => Or.inr accepted, ?_⟩
      intro running
      contradiction
  | requestJobCancel jobId => exact requestJobCancel_traced jobId
  | recoverStaleRunningJobs maxAgeSec force now cut =>
      exact recoverStaleRunningJobs_traced maxAgeSec force now cut db
  | enqueueLibraryScan mode requestedBy now cut =>
      exact enqueueLibraryScan_traced mode requestedBy now cut
  | updateLibraryScanRunState runId state lastError totals now =>
      rw [apply, updateLibraryScanRunState_jobs]
      exact .refl (Traced.refl _ db) _
  | requestLibraryScanCancel runId now =>
      rw [apply, requestLibraryScanCancel_jobs]
      exact .refl (Traced.refl _ db) _
  | reconcileOrphanedLibraryScanRuns now cut =>
      rw [apply, reconcileOrphanedLibraryScanRuns_jobs]
      exact .refl (Traced.refl _ db) _

end Steps

/-! ## The work of dependable runs -/

theorem Job.Runnable.of_work {job next : Job} (runnable : job.Runnable)
    (same : next.work = job.work) : next.Runnable := by
  have type : next.type = job.type := congrArg Work.type same
  have maxAttempts : next.maxAttempts = job.maxAttempts := congrArg Work.maxAttempts same
  have payload : next.payload = job.payload := congrArg Work.payload same
  simpa only [Job.Runnable, type, maxAttempts, payload] using runnable

/-- A scan job carries the id of its run. -/
theorem scanRunId_scanJob (mode : String) (runId : Nat) (now : Time) (id : Nat) :
    scanRunId (scanJob mode runId now id).payload = some (runId : Int) := rfl

theorem runnable_scanJob {mode : String} {runId : Nat} {now : Time} {id : Nat}
    (numbered : 0 < runId) : (scanJob mode runId now id).Runnable := by
  refine Or.inr ⟨rfl, rfl, runId, scanRunId_scanJob mode runId now id, ?_⟩
  exact Int.natCast_ne_zero.mpr (Nat.pos_iff_ne_zero.mp numbered)

/-- Run ids are handed out in ascending order. -/
theorem scanRuns_nextKey_le (op : Op) (db : Db) :
    db.scanRuns.nextKey ≤ (op.apply db).scanRuns.nextKey := by
  cases op with
  | enqueueJob request now =>
      simp only [Op.apply, enqueueJob]
      split
      · exact Nat.le_refl _
      · split <;> exact Nat.le_refl _
  | dequeueNextJob request now =>
      rcases dequeueNextJob_cases request now db with idle | ⟨_, _, _, claim⟩
      · simp only [Op.apply, idle, Nat.le_refl]
      · simp only [Op.apply, claim, Nat.le_refl]
  | enqueueLibraryScan mode requestedBy now cut =>
      simp only [Op.apply, enqueueLibraryScan]
      split
      · exact Nat.le_refl _
      · cases cut with
        | none => exact Nat.le_succ _
        | some count =>
            rcases count with _ | _ | _ | count
            · exact Nat.le_refl _
            · exact Nat.le_succ _
            · exact Nat.le_succ _
            · simp only [Cut.keep, List.take_succ_cons, List.take_nil]
              exact Nat.le_succ _
  | requestLibraryScanCancel runId now =>
      simp only [Op.apply, requestLibraryScanCancel]
      split
      · exact Nat.le_refl _
      · split <;> exact Nat.le_refl _
  | reconcileOrphanedLibraryScanRuns now cut =>
      exact Nat.le_of_eq Table.nextKey_updateEach.symm
  | heartbeatJob | updateJobProgress | markJobCompleted | markJobFailed | markJobCancelled
  | scheduleJobRetry | requestJobCancel | recoverStaleRunningJobs
  | updateLibraryScanRunState => exact Nat.le_refl _

section Inversion

variable {world : World} {action : Action} {effect : Effect}

/-- Only the request handler enqueues jobs. -/
theorem enqueued_by (happens : world.effect action = some effect) {request : EnqueueRequest}
    {now : Time} (ran : effect.op = some (.enqueueJob request now)) :
    action = .enqueueJob request now := by
  cases action with
  | enqueueJob =>
      cases happens
      cases ran
      rfl
  | importReport | scanReport =>
      simp only [World.effect] at happens
      split at happens
      · next report _ =>
          cases happens
          cases report <;> simp [Report.op] at ran
      · contradiction
  | _ =>
      simp only [World.effect, World.request, World.importStep, World.scanStep] at happens
      repeat' split at happens
      all_goals cases happens
      all_goals first | contradiction | simp at ran

/-- Nor does anything else enqueue scans. -/
theorem scanEnqueued_by (happens : world.effect action = some effect) {mode : String}
    {requestedBy : Option String} {now : Time} {cut : Cut}
    (ran : effect.op = some (.enqueueLibraryScan mode requestedBy now cut)) :
    action = .enqueueLibraryScan mode requestedBy now cut := by
  cases action with
  | enqueueLibraryScan =>
      cases happens
      cases ran
      rfl
  | importReport | scanReport =>
      simp only [World.effect] at happens
      split at happens
      · next report _ =>
          cases happens
          cases report <;> simp [Report.op] at ran
      · contradiction
  | _ =>
      simp only [World.effect, World.request, World.importStep, World.scanStep] at happens
      repeat' split at happens
      all_goals cases happens
      all_goals first | contradiction | simp at ran

/-- Only the import worker retries, and it lets go of its job. -/
theorem retried_by (happens : world.effect action = some effect) {jobId : Nat}
    {errorText : String} {delaySec now : Time} {resultState : Option String}
    (ran : effect.op = some (.scheduleJobRetry jobId errorText delaySec resultState now)) :
    ∃ job, world.importer.job? = some job ∧ job.id = jobId ∧ effect.importer.job? = none := by
  cases action with
  | importRetry =>
      simp only [World.effect] at happens
      split at happens
      case h_2 => contradiction
      next job error importer =>
        split at happens <;> cases happens
        · cases ran
          exact ⟨job, by rw [importer]; rfl, rfl, rfl⟩
        · contradiction
  | importReport | scanReport =>
      simp only [World.effect] at happens
      split at happens
      · next report _ =>
          cases happens
          cases report <;> simp [Report.op] at ran
      · contradiction
  | _ =>
      simp only [World.effect, World.request, World.importStep, World.scanStep] at happens
      repeat' split at happens
      all_goals cases happens
      all_goals first | contradiction | simp at ran

end Inversion

/-! ## Where the threads stand -/

/-- What holds in every dependable run: the threads hold rows that are not waiting, and
every row and every held job can be run. -/
structure World.Staffed (world : World) : Prop where
  held : world.Held
  numbered : 0 < world.db.scanRuns.nextKey
  runnable : ∀ row ∈ world.db.jobs.rows, row.Runnable
  executed : ∀ job ∈ world.executors, job.Runnable
  occupied : ∀ job ∈ world.executors, ∀ row ∈ world.db.jobs.rows, row.id = job.id →
    row.state ≠ .queued ∧ 0 < row.attempts

section Steps

variable {world next : World} {action : Action} {effect : Effect}

/-- A row after an effect, together with the row it comes from. -/
theorem perform_traced {old row : Job} (oldMem : old ∈ world.db.jobs.rows)
    (rowMem : row ∈ (world.perform effect).db.jobs.rows) (sameId : row.id = old.id) :
    row = old ∨ ∃ op, effect.op = some op ∧ Moves op old row ∧ Traced op world.db old row := by
  rcases perform_back oldMem rowMem sameId with same | ⟨op, ran, move⟩
  · exact Or.inl same
  · right
    refine ⟨op, ran, move, ?_⟩
    rcases (op.traced world.db).forth old oldMem with ⟨other, otherMem, otherId, trace⟩
    have after : (world.perform effect).db = op.apply world.db := by simp [World.perform, ran]
    rw [after] at rowMem
    rwa [Table.eq_of_key_eq rowMem otherMem (sameId.trans otherId.symm)]

/-- Every row of a dependable run can be run. -/
theorem runnable_step (staffed : world.Staffed) (dependable : action.dependable = true)
    (happens : world.effect action = some effect) :
    ∀ row ∈ (world.perform effect).db.jobs.rows, row.Runnable := by
  cases ran : effect.op with
  | none => simpa [World.perform, ran] using staffed.runnable
  | some op =>
      have after : (world.perform effect).db = op.apply world.db := by simp [World.perform, ran]
      rw [after]
      refine (op.evolves world.db).forall_rows ?_ ?_ staffed.runnable
      · exact fun _ _ runnable move => runnable.of_work move.work
      · intro row inserted
        cases op with
        | enqueueJob request now =>
            have label := enqueued_by happens ran
            subst label
            simp only [Action.dependable, decide_eq_true_eq] at dependable
            rw [inserted.1]
            exact Or.inl dependable
        | enqueueLibraryScan mode requestedBy now cut =>
            rw [inserted.1]
            exact runnable_scanJob staffed.numbered
        | _ => exact inserted.elim

/-- A claimed job can be run. -/
theorem runnable_claimed (staffed : world.Staffed) {request : ClaimRequest} {now : Time}
    {job : Job} (claimed : (Op.dequeueNextJob request now).claimed world.db = some job) :
    job.Runnable := by
  rcases claimed_eq_some claimed with ⟨⟨row, rowMem, _, rfl⟩, _⟩
  exact (staffed.runnable row rowMem).of_work rfl

/-- A recovery pass never requeues a scan that was claimed. -/
theorem scan_not_requeued {row : Job} (runnable : row.Runnable)
    (scan : row.type = libraryScanJobType) (claimed : 0 < row.attempts) :
    ¬(row.attempts : Int) < row.recoveryLimit := by
  have limit : row.maxAttempts = some libraryScanMaxAttempts := by
    rcases runnable with registered | ⟨_, limit, _⟩
    · rw [scan] at registered
      exact absurd registered (by decide)
    · exact limit
  simp only [Job.recoveryLimit, limit, Option.getD_some, libraryScanMaxAttempts]
  norm_num
  exact Nat.pos_iff_ne_zero.mp claimed

/-- A job that stays held keeps a row that does not wait. -/
theorem occupied_kept (staffed : world.Staffed) (happens : world.effect action = some effect)
    {job : Job} (kept : (world.importer.job? = some job ∧ effect.importer.job? = some job) ∨
      (world.scanner.job? = some job ∧ effect.scanner.job? = some job))
    {row : Job} (rowMem : row ∈ (world.perform effect).db.jobs.rows)
    (sameId : row.id = job.id) : row.state ≠ .queued ∧ 0 < row.attempts := by
  have before : job ∈ world.executors :=
    World.mem_executors.mpr (kept.imp And.left And.left)
  have stored : ∃ old ∈ world.db.jobs.rows, old.id = job.id ∧ old.type = job.type := by
    rcases kept with ⟨owner, _⟩ | ⟨owner, _⟩
    · exact (staffed.held.importer job owner).2
    · exact (staffed.held.scanner job owner).2
  rcases stored with ⟨old, oldMem, oldId, oldType⟩
  have occupied := staffed.occupied job before old oldMem oldId
  rcases perform_traced oldMem rowMem (sameId.trans oldId.symm) with
    rfl | ⟨op, ran, move, trace⟩
  · exact occupied
  · refine ⟨?_, Nat.lt_of_lt_of_le occupied.2 move.attempts_le⟩
    intro queued
    rcases trace.queued queued with waited | requeues
    · exact occupied.1 waited
    · cases op with
      | scheduleJobRetry jobId errorText delaySec resultState now =>
          -- The retried job is let go of, so it is not the one that stays held.
          rcases retried_by happens ran with ⟨retried, owner, retriedId, released⟩
          have same : retried.id = job.id := by rw [retriedId, ← requeues.1, oldId]
          rcases kept with ⟨_, after⟩ | ⟨held, _⟩
          · rw [released] at after
            contradiction
          · exact staffed.held.ne_id owner held same
      | recoverStaleRunningJobs maxAgeSec force now cut =>
          -- Recovery runs between two invocations of the import worker, and gives scans up.
          have idle : effect.importer.job? = none := by
            cases effect_cases happens with
            | background plain => exact absurd (plain _ ran) id
            | booted _ _ _ importer | swept _ _ _ _ importer => exact importer
            | importClaimed _ _ _ op | scanClaimed _ _ _ op =>
                rw [op, Option.some.injEq] at ran
                contradiction
            | importReported _ _ _ _ op | scanReported _ _ _ _ op =>
                rw [op, Option.some.injEq] at ran
                have recovers : Op.Recovers old (.recoverStaleRunningJobs maxAgeSec force now cut) :=
                  requeues.1
                rw [← ran] at recovers
                exact absurd recovers Report.not_recovers
          rcases kept with ⟨_, after⟩ | ⟨held, _⟩
          · rw [idle] at after
            contradiction
          · have scan := (staffed.held.scanner job held).1
            exact scan_not_requeued (staffed.runnable old oldMem) (oldType.trans scan)
              occupied.2 requeues.2
      | _ => exact requeues.elim

/-- A freshly claimed job has a row that does not wait. -/
theorem occupied_claimed {request : ClaimRequest} {now : Time} {job row : Job}
    (op : effect.op = some (.dequeueNextJob request now))
    (claimed : (Op.dequeueNextJob request now).claimed world.db = some job)
    (rowMem : row ∈ (world.perform effect).db.jobs.rows) (sameId : row.id = job.id) :
    row.state ≠ .queued ∧ 0 < row.attempts := by
  rw [Table.eq_of_key_eq rowMem (perform_claimed op claimed) sameId]
  rcases claimed_eq_some claimed with ⟨⟨old, _, _, rfl⟩, _⟩
  exact ⟨by simp [ClaimRequest.claim], Nat.succ_pos _⟩

/-- A held job was held before, or the step claims it. -/
theorem held_cases (happens : world.effect action = some effect) {job : Job}
    (held : job ∈ (world.perform effect).executors) :
    ((world.importer.job? = some job ∧ effect.importer.job? = some job) ∨
      (world.scanner.job? = some job ∧ effect.scanner.job? = some job)) ∨
    ∃ request now, effect.op = some (.dequeueNextJob request now) ∧
      (Op.dequeueNextJob request now).claimed world.db = some job := by
  rcases World.mem_executors.mp held with owner | owner
  · cases effect_cases happens with
    | background _ importer => exact Or.inl (Or.inl ⟨importer job owner, owner⟩)
    | booted _ _ _ importer | swept _ _ _ _ importer | importReported _ _ _ _ _ importer =>
        simp [World.perform, importer] at owner
    | importClaimed workerId now _ op importer => exact Or.inr ⟨_, now, op, importer job owner⟩
    | scanClaimed _ _ _ _ importer | scanReported _ _ _ _ _ importer =>
        exact Or.inl (Or.inl ⟨importer ▸ owner, owner⟩)
  · cases effect_cases happens with
    | background _ _ scanner => exact Or.inl (Or.inr ⟨scanner job owner, owner⟩)
    | booted _ _ _ _ scanner | scanReported _ _ _ _ _ _ scanner =>
        simp [World.perform, scanner] at owner
    | scanClaimed workerId now _ op _ scanner => exact Or.inr ⟨_, now, op, scanner job owner⟩
    | swept _ _ _ _ _ scanner | importClaimed _ _ _ _ _ scanner
    | importReported _ _ _ _ _ _ scanner =>
        exact Or.inl (Or.inr ⟨scanner ▸ owner, owner⟩)

/-- One step of a dependable run keeps `Staffed`. -/
theorem staffed_step (staffed : world.Staffed) (dependable : action.dependable = true)
    (stepped : workers.step world action = some next) : next.Staffed := by
  have held := held_step staffed.held stepped
  simp only [workers, Option.map_eq_some_iff] at stepped
  rcases stepped with ⟨effect, happens, rfl⟩
  refine ⟨held, ?numbered, runnable_step staffed dependable happens, ?executed, ?occupied⟩
  case numbered =>
    cases ran : effect.op with
    | none => simpa [World.perform, ran] using staffed.numbered
    | some op =>
        have grows := scanRuns_nextKey_le op world.db
        simpa [World.perform, ran] using Nat.lt_of_lt_of_le staffed.numbered grows
  case executed =>
    intro job jobMem
    rcases held_cases happens jobMem with kept | ⟨request, now, _, claimed⟩
    · exact staffed.executed job (World.mem_executors.mpr (kept.imp And.left And.left))
    · exact runnable_claimed staffed claimed
  case occupied =>
    intro job jobMem row rowMem sameId
    rcases held_cases happens jobMem with kept | ⟨request, now, op, claimed⟩
    · exact occupied_kept staffed happens kept rowMem sameId
    · exact occupied_claimed op claimed rowMem sameId

theorem staffed_initial : World.initial.Staffed where
  held := held_initial
  numbered := Nat.one_pos
  runnable := by simp [World.initial, Db.empty]
  executed := by simp [World.executors, World.initial, ImportPc.job?, ScanPc.job?]
  occupied := by simp [World.executors, World.initial, ImportPc.job?, ScanPc.job?]

end Steps

/-! ## The flag -/

/-- The cancel of the job has been accepted. -/
def Db.Flagged (jobId : Nat) (db : Db) : Prop :=
  ∃ row ∈ db.jobs.rows, row.id = jobId ∧ row.cancelRequested = true

/-- No step of the process takes the flag back. -/
theorem flagged_step {world next : World} {action : Action} {jobId : Nat}
    (flagged : world.db.Flagged jobId) (stepped : workers.step world action = some next) :
    next.db.Flagged jobId := by
  rcases workers_step stepped with ⟨effect, _, rfl⟩
  rcases flagged with ⟨row, rowMem, rowId, requested⟩
  rcases perform_forth effect rowMem with ⟨after, afterMem, sameId, rfl | ⟨op, _, move⟩⟩
  · exact ⟨after, afterMem, rowId, requested⟩
  · exact ⟨after, afterMem, sameId.trans rowId, move.cancelRequested requested⟩

/-- `request_job_cancel` sets the flag of the row it reports. -/
theorem flagged_of_accepted {jobId : Nat} {db : Db}
    (accepted : (requestJobCancel jobId db).2 = true) :
    (requestJobCancel jobId db).1.Flagged jobId := by
  rcases Table.count_pos_iff.mp (of_decide_eq_true accepted) with ⟨row, rowMem, selected⟩
  simp only [decide_eq_true_eq] at selected
  rcases selected with ⟨rowId, active⟩
  let next : Job :=
    { row with
      cancelRequested := true
      state := if row.state = .running then .cancelling else row.state }
  refine ⟨next, ?_, rowId, rfl⟩
  simp only [requestJobCancel, Table.mem_update]
  exact ⟨row, rowMem, by simp [rowId, active, next]⟩

/-- The worker reads the flag of a job it holds. -/
theorem isJobCancelRequested_of_flagged {jobId : Nat} {db : Db} (flagged : db.Flagged jobId) :
    isJobCancelRequested jobId true db = true := by
  rcases flagged with ⟨row, rowMem, rowId, requested⟩
  have found : db.jobs.find? jobId = some row := Table.find?_eq_some.mpr ⟨rowMem, rowId⟩
  simp [isJobCancelRequested, found, requested]

/-- `schedule_job_retry` finds no row to requeue, and changes none under this id. -/
theorem scheduleJobRetry_of_flagged {jobId : Nat} {db : Db} (flagged : db.Flagged jobId)
    (errorText : String) (delaySec : Time) (resultState : Option String) (now : Time) :
    (scheduleJobRetry jobId errorText delaySec resultState now db).2 = false := by
  rcases flagged with ⟨row, rowMem, rowId, requested⟩
  refine decide_eq_false ?_
  rw [Table.count_pos_iff]
  intro accepted
  rcases accepted with ⟨other, otherMem, selected⟩
  simp only [Bool.and_eq_true, decide_eq_true_eq] at selected
  rw [Table.eq_of_key_eq otherMem rowMem (selected.1.trans rowId.symm)] at selected
  simp [Job.retryable, requested] at selected

/-! ## Jobs cancelled while they wait -/

/-- The import worker is not in the body of this job, and reports it as cancelled. -/
def ImportPc.Spares (jobId : Nat) : ImportPc → Prop
  | .stopped | .polling | .claimed _ => True
  | .executing job | .raised job _ | .retrying job _ => job.id ≠ jobId
  | .reporting job report => job.id = jobId → report = .cancelled

/-- The scan worker is not in the body of this job, and reports it as cancelled. -/
def ScanPc.Spares (jobId : Nat) : ScanPc → Prop
  | .stopped | .starting | .polling | .claimed _ => True
  | .scanning job _ => job.id ≠ jobId
  | .reporting job report => job.id = jobId → report = .cancelled

/-- No executor body runs for the job, and its reports say cancelled. -/
structure World.Spares (jobId : Nat) (world : World) : Prop where
  importer : world.importer.Spares jobId
  scanner : world.scanner.Spares jobId

section Steps

variable {world next : World} {action : Action} {effect : Effect} {jobId : Nat}

/-- The import worker does not enter the body of a flagged job. -/
theorem importer_spares (staffed : world.Staffed) (flagged : world.db.Flagged jobId)
    (spares : world.Spares jobId) (dependable : action.dependable = true)
    (happens : world.effect action = some effect) : effect.importer.Spares jobId := by
  have before := spares.importer
  cases action with
  | importBegin readOk =>
      simp only [Action.dependable] at dependable
      subst dependable
      simp only [World.effect] at happens
      split at happens
      case h_2 => contradiction
      next job importer =>
        have held : world.importer.job? = some job := by rw [importer]; rfl
        split at happens
        · next unregistered =>
            have runnable := staffed.executed job (World.mem_executors.mpr (Or.inl held))
            rcases runnable with registered | ⟨scan, _⟩
            · exact absurd registered unregistered
            · exact absurd scan (staffed.held.importer job held).1
        · split at happens <;> cases happens
          · exact fun _ => rfl
          · next unflagged =>
              intro same
              rw [same, isJobCancelRequested_of_flagged flagged] at unflagged
              exact unflagged rfl
  | importEnd outcome =>
      simp only [World.effect] at happens
      split at happens
      case h_2 => contradiction
      next job importer =>
        rw [importer] at before
        cases outcome with
        | returned resultState result =>
            cases happens
            exact fun same => absurd same before
        | cancelled =>
            cases happens
            exact fun _ => rfl
        | raised error =>
            cases happens
            exact before
  | importJudge readOk | importRetry now stored =>
      simp only [World.effect] at happens
      split at happens
      case h_2 => contradiction
      next job error importer =>
        rw [importer] at before
        split at happens <;> cases happens
        · first | exact before | trivial
        · exact fun same => absurd same before
  | importStart | importRecover | importClaim | importReport | kill =>
      simp only [World.effect] at happens
      repeat' split at happens
      all_goals cases happens
      all_goals trivial
  | _ =>
      simp only [World.effect, World.request, World.scanStep] at happens
      repeat' split at happens
      all_goals cases happens
      all_goals exact before

/-- A held scan names its run. -/
theorem numbered_scan (staffed : world.Staffed) {job : Job}
    (held : world.scanner.job? = some job) :
    ∃ runId, scanRunId job.payload = some runId ∧ runId ≠ 0 := by
  have scan := (staffed.held.scanner job held).1
  rcases staffed.executed job (World.mem_executors.mpr (Or.inr held)) with
    registered | ⟨_, _, numbered⟩
  · rw [scan] at registered
    exact absurd registered (by decide)
  · exact numbered

/-- The scan worker does not enter the body of a flagged job. -/
theorem scanner_spares (staffed : world.Staffed) (flagged : world.db.Flagged jobId)
    (spares : world.Spares jobId) (dependable : action.dependable = true)
    (happens : world.effect action = some effect) : effect.scanner.Spares jobId := by
  have before := spares.scanner
  cases action with
  | scanBegin readOk now stored =>
      simp only [Action.dependable, Bool.and_eq_true] at dependable
      rcases dependable with ⟨rfl, rfl⟩
      simp only [World.effect] at happens
      split at happens
      case h_2 => contradiction
      next job scanner =>
        have held : world.scanner.job? = some job := by rw [scanner]; rfl
        rcases numbered_scan staffed held with ⟨runId, read, nonzero⟩
        simp only [read, if_neg nonzero] at happens
        split at happens <;> cases happens
        · exact fun _ => rfl
        · next unflagged =>
            intro same
            rw [same, isJobCancelRequested_of_flagged flagged] at unflagged
            exact unflagged rfl
  | scanEnd outcome totals now stored =>
      simp only [World.effect] at happens
      split at happens
      case h_2 => contradiction
      next job runId scanner =>
        rw [scanner] at before
        cases happens
        exact fun same => absurd same before
  | scanProgress | scanObserveCancel =>
      simp only [World.effect] at happens
      split at happens
      case h_2 => contradiction
      next job runId scanner =>
        rw [scanner] at before
        cases happens
        exact before
  | scanStart | scanReconcile | scanClaim | scanReport | kill =>
      simp only [World.effect] at happens
      repeat' split at happens
      all_goals cases happens
      all_goals trivial
  | _ =>
      simp only [World.effect, World.request, World.importStep] at happens
      repeat' split at happens
      all_goals cases happens
      all_goals exact before

/-- The job waits, is cancelled, or is held by a thread. -/
def World.Settles (jobId : Nat) (world : World) : Prop :=
  ∀ row ∈ world.db.jobs.rows, row.id = jobId →
    row.state = .queued ∨ row.state = .cancelled ∨ ∃ job ∈ world.executors, job.id = jobId

/-- A delivered claim is held. -/
theorem held_of_claimed (dependable : action.dependable = true)
    (happens : world.effect action = some effect) {op : Op} (ran : effect.op = some op)
    {job : Job} (claimed : op.claimed world.db = some job) :
    job ∈ (world.perform effect).executors := by
  rw [World.mem_executors]
  cases action with
  | importClaim workerId now delivered =>
      simp only [Action.dependable] at dependable
      subst dependable
      simp only [World.effect] at happens
      split at happens
      case h_2 => contradiction
      split at happens <;> cases happens <;> cases ran
      · next found =>
          rw [found] at claimed
          exact Or.inl claimed
      · next absent =>
          rw [absent] at claimed
          contradiction
  | scanClaim workerId now delivered =>
      simp only [Action.dependable] at dependable
      subst dependable
      simp only [World.effect] at happens
      split at happens
      case h_2 => contradiction
      split at happens <;> cases happens <;> cases ran
      · next found =>
          rw [found] at claimed
          exact Or.inr claimed
      · next absent =>
          rw [absent] at claimed
          contradiction
  | importReport | scanReport =>
      simp only [World.effect] at happens
      split at happens
      case h_2 => contradiction
      cases happens
      split at ran
      · cases ran
        rw [Report.op_claimed] at claimed
        contradiction
      · contradiction
  | _ =>
      simp only [World.effect, World.request, World.importStep, World.scanStep] at happens
      repeat' split at happens
      all_goals cases happens
      all_goals first | contradiction | (cases ran; contradiction)

/-- Without a kill the import worker lets go of a cancelled job by reporting it so. -/
theorem importer_released (spares : world.Spares jobId) (dependable : action.dependable = true)
    (alive : action ≠ .kill) (happens : world.effect action = some effect) {job : Job}
    (owner : world.importer.job? = some job) (sameId : job.id = jobId)
    (released : effect.importer.job? ≠ some job) :
    ∃ now, effect.op = some (.markJobCancelled jobId now) := by
  have before := spares.importer
  cases action with
  | importReport now stored =>
      simp only [Action.dependable] at dependable
      subst dependable
      simp only [World.effect] at happens
      split at happens
      case h_2 => contradiction
      next mine report importer =>
        rw [importer] at owner before
        cases owner
        cases happens
        rw [before sameId]
        exact ⟨now, by rw [← sameId]; rfl⟩
  | importRetry now stored =>
      simp only [World.effect] at happens
      split at happens
      case h_2 => contradiction
      next mine error importer =>
        rw [importer] at owner before
        cases owner
        exact absurd sameId before
  | kill => exact absurd rfl alive
  | importStart | importRecover | importClaim =>
      simp only [World.effect] at happens
      repeat' split at happens
      all_goals first | contradiction | simp_all [ImportPc.job?]
  | importBegin | importEnd | importJudge =>
      simp only [World.effect] at happens
      split at happens
      case h_2 => contradiction
      next importer =>
        rw [importer] at owner
        repeat' split at happens
        all_goals cases happens
        all_goals exact absurd owner released
  | _ =>
      simp only [World.effect, World.request, World.scanStep] at happens
      repeat' split at happens
      all_goals cases happens
      all_goals exact absurd owner released

/-- Without a kill the scan worker lets go of a cancelled job by reporting it so. -/
theorem scanner_released (staffed : world.Staffed) (spares : world.Spares jobId)
    (dependable : action.dependable = true) (alive : action ≠ .kill)
    (happens : world.effect action = some effect) {job : Job}
    (owner : world.scanner.job? = some job) (sameId : job.id = jobId)
    (released : effect.scanner.job? ≠ some job) :
    ∃ now, effect.op = some (.markJobCancelled jobId now) := by
  have before := spares.scanner
  cases action with
  | scanReport now stored =>
      simp only [Action.dependable] at dependable
      subst dependable
      simp only [World.effect] at happens
      split at happens
      case h_2 => contradiction
      next mine report scanner =>
        rw [scanner] at owner before
        cases owner
        cases happens
        rw [before sameId]
        exact ⟨now, by rw [← sameId]; rfl⟩
  | scanBegin readOk now stored =>
      rcases numbered_scan staffed owner with ⟨runId, read, nonzero⟩
      simp only [World.effect] at happens
      split at happens
      case h_2 => contradiction
      next mine scanner =>
        rw [scanner] at owner
        cases owner
        simp only [read, if_neg nonzero] at happens
        split at happens <;> cases happens <;> exact absurd rfl released
  | kill => exact absurd rfl alive
  | scanStart | scanReconcile | scanClaim =>
      simp only [World.effect] at happens
      repeat' split at happens
      all_goals first | contradiction | simp_all [ScanPc.job?]
  | scanProgress | scanObserveCancel | scanEnd =>
      simp only [World.effect] at happens
      split at happens
      case h_2 => contradiction
      next scanner =>
        rw [scanner] at owner
        cases happens
        exact absurd owner released
  | _ =>
      simp only [World.effect, World.request, World.importStep] at happens
      repeat' split at happens
      all_goals cases happens
      all_goals exact absurd owner released

/-- Without a kill a cancelled job that waits can only end as cancelled. -/
theorem settles_step (staffed : world.Staffed) (flagged : world.db.Flagged jobId)
    (spares : world.Spares jobId) (settles : world.Settles jobId)
    (dependable : action.dependable = true) (alive : action ≠ .kill)
    (happens : world.effect action = some effect) : (world.perform effect).Settles jobId := by
  intro row rowMem rowId
  by_cases held : ∃ job ∈ (world.perform effect).executors, job.id = jobId
  · exact Or.inr (Or.inr held)
  · by_cases before : ∃ job ∈ world.executors, job.id = jobId
    · right
      left
      have reported : ∃ now, effect.op = some (.markJobCancelled jobId now) := by
        rcases before with ⟨job, jobMem, sameId⟩
        have released : ∀ owner, (world.perform effect).importer.job? = some owner ∨
            (world.perform effect).scanner.job? = some owner → owner.id ≠ jobId :=
          fun owner owned same => held ⟨owner, World.mem_executors.mpr owned, same⟩
        rcases World.mem_executors.mp jobMem with owner | owner
        · exact importer_released spares dependable alive happens owner sameId
            fun after => released job (Or.inl after) sameId
        · exact scanner_released staffed spares dependable alive happens owner sameId
            fun after => released job (Or.inr after) sameId
      rcases reported with ⟨now, ran⟩
      have after : (world.perform effect).db = markJobCancelled jobId now world.db := by
        simp [World.perform, ran, Op.apply]
      rw [after, markJobCancelled, Table.mem_update] at rowMem
      rcases rowMem with ⟨old, _, rfl⟩
      split at rowId
      · next mine => simp [mine]
      · next other => simp [rowId] at other
    · rcases flagged with ⟨old, oldMem, oldId, _⟩
      have waits : old.state = .queued ∨ old.state = .cancelled := by
        rcases settles old oldMem oldId with waits | ends | owner
        · exact Or.inl waits
        · exact Or.inr ends
        · exact absurd owner before
      have idle : old.state ≠ .running ∧ old.state ≠ .cancelling := by
        rcases waits with waits | ends
        · simp [waits]
        · simp [ends]
      rcases perform_traced oldMem rowMem (rowId.trans oldId.symm) with
        rfl | ⟨op, ran, move, trace⟩
      · exact waits.imp_right Or.inl
      · cases move.transition with
        | kept state =>
            rw [state]
            exact waits.imp_right Or.inl
        | claimed _ state =>
            rcases trace.running state with running | claimed
            · exact absurd running idle.1
            · exact absurd ⟨row, held_of_claimed dependable happens ran claimed, rowId⟩ held
        | cancelling was => exact absurd was idle.1
        | retried was => exact absurd was (not_or.mpr idle)
        | requeued _ was | exhausted _ was => exact absurd was idle.1
        | reported mine =>
            rw [oldId] at mine
            rcases reporter_holds (effect_cases happens) ran mine with
              ⟨owner, owned, sameId, _⟩ | ⟨owner, owned, sameId, _⟩
            · exact absurd ⟨owner, World.mem_executors.mpr (Or.inl owned), sameId⟩ before
            · exact absurd ⟨owner, World.mem_executors.mpr (Or.inr owned), sameId⟩ before

end Steps

/-! ## Runs -/

/-- The critical section of `request_job_cancel` as a step of the process. -/
theorem requested_step {before accepted : World} {jobId : Nat}
    (requested : workers.step before (.requestJobCancel jobId) = some accepted) :
    accepted = { before with db := (requestJobCancel jobId before.db).1 } :=
  (Option.some.inj requested).symm

/-- No thread is inside a job that waits. -/
theorem spares_of_queued {world : World} {jobId : Nat} (staffed : world.Staffed)
    (waits : ∃ row ∈ world.db.jobs.rows, row.id = jobId ∧ row.state = .queued) :
    world.Spares jobId := by
  rcases waits with ⟨row, rowMem, rowId, queued⟩
  have absent : ∀ job ∈ world.executors, job.id ≠ jobId := fun job jobMem sameId =>
    (staffed.occupied job jobMem row rowMem (rowId.trans sameId.symm)).1 queued
  constructor
  · cases importer : world.importer with
    | stopped | polling | claimed job => trivial
    | executing job | raised job error | retrying job error =>
        exact absent job (World.mem_executors.mpr (Or.inl (by rw [importer]; rfl)))
    | reporting job report =>
        intro sameId
        have held := World.mem_executors.mpr (Or.inl (show world.importer.job? = some job by
          rw [importer]; rfl))
        exact absurd sameId (absent job held)
  · cases scanner : world.scanner with
    | stopped | starting | polling | claimed job => trivial
    | scanning job runId =>
        exact absent job (World.mem_executors.mpr (Or.inr (by rw [scanner]; rfl)))
    | reporting job report =>
        intro sameId
        have held := World.mem_executors.mpr (Or.inr (show world.scanner.job? = some job by
          rw [scanner]; rfl))
        exact absurd sameId (absent job held)

/-- One step keeps the threads out of a flagged job. -/
theorem spares_step {world next : World} {action : Action} {jobId : Nat}
    (invariant : world.Staffed ∧ world.db.Flagged jobId ∧ world.Spares jobId)
    (dependable : action.dependable = true)
    (stepped : workers.step world action = some next) :
    next.Staffed ∧ next.db.Flagged jobId ∧ next.Spares jobId := by
  rcases invariant with ⟨staffed, flagged, spares⟩
  refine ⟨staffed_step staffed dependable stepped, flagged_step flagged stepped, ?_⟩
  simp only [workers, Option.map_eq_some_iff] at stepped
  rcases stepped with ⟨effect, happens, rfl⟩
  exact ⟨importer_spares staffed flagged spares dependable happens,
    scanner_spares staffed flagged spares dependable happens⟩

/-- An accepted cancel is never lost, over every run of the threads, recovery passes and
request handlers with a working database: the flag stays, no retry requeues the job, and
a job cancelled while it waits is never in its executor body; unless the process is
killed, it waits, is held on the way to its report, or is cancelled. -/
theorem accepted_cancel_kept {first second : List Action} {before accepted after : World}
    {jobId : Nat} (reached : workers.RunWhere World.Dependable .initial first before)
    (returned : (requestJobCancel jobId before.db).2 = true)
    (requested : workers.step before (.requestJobCancel jobId) = some accepted)
    (continued : workers.RunWhere World.Dependable accepted second after) :
    after.db.Flagged jobId ∧
    (∀ errorText delaySec resultState now,
      (scheduleJobRetry jobId errorText delaySec resultState now after.db).2 = false) ∧
    ((∃ row ∈ before.db.jobs.rows, row.id = jobId ∧ row.state = .queued) →
      after.Spares jobId ∧ (.kill ∉ second → after.Settles jobId)) := by
  have staffedBefore : before.Staffed :=
    reached.preserves _ (fun _ _ _ staffed dependable stepped =>
      staffed_step staffed dependable stepped) staffed_initial
  have staffed : accepted.Staffed := staffed_step staffedBefore rfl requested
  have flagged : accepted.db.Flagged jobId := by
    rw [requested_step requested]
    exact flagged_of_accepted returned
  have flaggedAfter : after.db.Flagged jobId :=
    continued.preserves (fun world => world.db.Flagged jobId)
      (fun _ _ _ flagged _ stepped => flagged_step flagged stepped) flagged
  refine ⟨flaggedAfter, scheduleJobRetry_of_flagged flaggedAfter, ?_⟩
  intro waits
  have spares : accepted.Spares jobId := by
    rw [requested_step requested]
    exact ⟨(spares_of_queued staffedBefore waits).importer,
      (spares_of_queued staffedBefore waits).scanner⟩
  constructor
  · exact (continued.preserves _ (fun _ _ _ invariant dependable stepped =>
      spares_step invariant dependable stepped) ⟨staffed, flagged, spares⟩).2.2
  · intro alive
    have living : workers.RunWhere
        (fun _ action => action.dependable = true ∧ action ≠ .kill) accepted second after := by
      apply continued.imp
      intro action actionMem _ dependable
      exact ⟨dependable, fun killed => alive (killed ▸ actionMem)⟩
    have settles : accepted.Settles jobId := by
      intro row rowMem rowId
      rcases waits with ⟨old, oldMem, oldId, queued⟩
      rw [requested_step requested, requestJobCancel, Table.mem_update] at rowMem
      rcases rowMem with ⟨source, sourceMem, rfl⟩
      left
      have same : source = old := by
        apply Table.eq_of_key_eq sourceMem oldMem
        rw [oldId, ← rowId]
        split <;> rfl
      rw [same]
      split <;> simp [queued]
    refine (living.preserves (fun world => (world.Staffed ∧ world.db.Flagged jobId ∧
      world.Spares jobId) ∧ world.Settles jobId) ?_ ⟨⟨staffed, flagged, spares⟩, settles⟩).2
    intro world action next invariant guarded stepped
    refine ⟨spares_step invariant.1 guarded.1 stepped, ?_⟩
    simp only [workers, Option.map_eq_some_iff] at stepped
    rcases stepped with ⟨effect, happens, rfl⟩
    rcases invariant with ⟨⟨staffed, flagged, spares⟩, settles⟩
    exact settles_step staffed flagged spares settles guarded.1 guarded.2 happens

/-- A grab that waits in the queue. -/
def waitingGrab : List Action :=
  [.importStart 0 none, .enqueueJob { jid := "0a1b2c3d4e5f", type := "tidal_grab" } 1]

/-- The worker claims it, sees the flag and reports. -/
def grabTurnedAway : List Action :=
  [.importClaim "worker" 2 true, .importBegin true, .importReport 3 true]

theorem accepted_cancel_kept_waitingGrab : ∃ after : World,
    after.outcomes = [(1, .cancelled, some "cancelled")] ∧ after.db.Flagged 1 ∧
      after.Spares 1 ∧ after.Settles 1 := by
  have waits : ((workers.restrict World.Dependable).exec .initial waitingGrab).map
      World.outcomes = some [(1, .queued, none)] := by decide +kernel
  rcases Option.map_eq_some_iff.mp waits with ⟨before, executed, outcomes⟩
  have ends : (((workers.restrict World.Dependable).exec .initial waitingGrab).bind fun before =>
      (workers.restrict World.Dependable).exec
        { before with db := (requestJobCancel 1 before.db).1 } grabTurnedAway).map
      World.outcomes = some [(1, .cancelled, some "cancelled")] := by decide +kernel
  have accepts : ((workers.restrict World.Dependable).exec .initial waitingGrab).map
      (fun before => (requestJobCancel 1 before.db).2) = some true := by decide +kernel
  rw [executed, Option.bind_some] at ends
  rw [executed, Option.map_some, Option.some.injEq] at accepts
  rcases Option.map_eq_some_iff.mp ends with ⟨after, continued, cancelled⟩
  have queued : ∃ row ∈ before.db.jobs.rows, row.id = 1 ∧ row.state = .queued := by
    have rowMem : (1, JobState.queued, none) ∈ before.outcomes := by simp [outcomes]
    rcases List.mem_map.mp rowMem with ⟨row, rowMem, columns⟩
    simp only [Prod.mk.injEq] at columns
    exact ⟨row, rowMem, columns.1, columns.2.1⟩
  have kept := accepted_cancel_kept (Machine.runWhere_of_exec executed) accepts rfl
    (Machine.runWhere_of_exec continued)
  rcases kept.2.2 queued with ⟨spares, settles⟩
  exact ⟨after, cancelled, kept.1, spares, settles (by simp [grabTurnedAway])⟩

end Mintarr.Queue
