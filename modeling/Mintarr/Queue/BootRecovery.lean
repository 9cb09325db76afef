import Mintarr.Queue.Workers

/-!
# What boot recovery leaves behind

A killed process leaves rows that no thread will finish.  The boot sequence puts
jobs back or fails them, and then fails the scan runs whose job is gone.  Forced
recovery selects the rows in state `running` only, and the reconcile pass spares
every run whose job is active, so what a kill strands is exactly the jobs that
were being cancelled.
-/

namespace Mintarr.Queue

open Lib JobState

/-- The boot sequence: forced recovery by `worker.start_worker`, then the
reconcile pass of `_scan_loop`. -/
def Db.boot (recoveredAt reconciledAt : Time) (db : Db) : Db :=
  reconcileOrphanedLibraryScanRuns reconciledAt none
    (recoverStaleRunningJobs none true recoveredAt none db)

/-- Nothing is active without a worker to come: jobs are queued or have ended, and
an active run has a queued job. -/
structure Db.NothingStranded (db : Db) : Prop where
  jobs : ∀ job ∈ db.jobs.rows, job.state = .queued ∨ job.state.Terminal
  runs : ∀ run ∈ db.scanRuns.rows, run.state.Active →
    ∃ job ∈ db.jobs.rows, run.workerJobId = some job.id ∧ job.state = .queued

section NothingStranded

variable {db : Db}

/-- An active job is one that a worker will claim. -/
theorem Db.NothingStranded.queued_iff (nothing : db.NothingStranded) {job : Job}
    (jobMem : job ∈ db.jobs.rows) : job.state.Active ↔ job.state = .queued := by
  constructor
  · intro active
    rcases nothing.jobs job jobMem with queued | terminal
    · exact queued
    · exact absurd active terminal.not_active
  · intro queued
    rw [queued]
    exact active_queued

/-- A dedupe key is blocked by a queued job only. -/
theorem Db.NothingStranded.queued_of_findActiveJobByDedupe (nothing : db.NothingStranded)
    {dedupeKey : String} {job : Job}
    (found : findActiveJobByDedupe dedupeKey db = some job) : job.state = .queued := by
  simp only [findActiveJobByDedupe] at found
  split at found
  · contradiction
  · rcases Table.mem_of_latest? found with ⟨jobMem, accepted⟩
    simp only [decide_eq_true_eq] at accepted
    exact (nothing.queued_iff jobMem).mp accepted.2

/-- What `count_active_jobs` waits for is queued. -/
theorem Db.NothingStranded.countActiveJobs_eq (nothing : db.NothingStranded)
    (includeTypes excludeTypes : List String) :
    countActiveJobs includeTypes excludeTypes db = db.jobs.count fun job =>
      job.state = .queued ∧ (includeTypes = [] ∨ job.type ∈ includeTypes) ∧
        job.type ∉ excludeTypes := by
  apply congrArg List.length
  apply List.filter_congr
  intro job jobMem
  simp only [nothing.queued_iff jobMem]

/-- The run that stops the next scan has a queued job. -/
theorem Db.NothingStranded.queued_of_getActiveLibraryScanRun
    (nothing : db.NothingStranded) {run : ScanRun} (found : getActiveLibraryScanRun db = some run) :
    ∃ job ∈ db.jobs.rows, run.workerJobId = some job.id ∧ job.state = .queued := by
  rcases Table.mem_of_latest? found with ⟨runMem, active⟩
  simp only [decide_eq_true_eq] at active
  exact nothing.runs run runMem active

end NothingStranded

theorem JobState.active_cases {state : JobState} (active : state.Active) :
    state = .queued ∨ state = .running ∨ state = .cancelling := by
  revert active
  cases state <;> decide

theorem mem_staleJobs_force {now : Time} {db : Db} {job : Job} :
    job ∈ staleJobs none true now db ↔ job ∈ db.jobs.rows ∧ job.state = .running := by
  simp [staleJobs, Job.stale]

/-- Forced recovery requeues or fails the running jobs and leaves the others. -/
theorem mem_recover_force {now : Time} {db : Db} {job : Job} :
    job ∈ (recoverStaleRunningJobs none true now none db).jobs.rows ↔
      (job ∈ db.jobs.rows ∧ job.state ≠ .running) ∨
        ∃ old ∈ db.jobs.rows, old.state = .running ∧ Job.recover now old old = job := by
  have sub := keep_staleJobs none true now none db
  rw [recoverStaleRunningJobs, Table.mem_updateEach (Table.nodup_keys_of_sublist sub)
    fun item itemMem => sub.subset itemMem]
  simp only [Cut.keep, mem_staleJobs_force, and_assoc]
  apply or_congr_left
  apply and_congr_right
  intro jobMem
  constructor
  · exact fun others running => others job ⟨jobMem, running⟩ rfl
  · intro still old selected sameId
    rcases selected with ⟨oldMem, running⟩
    rw [Table.eq_of_key_eq oldMem jobMem sameId] at running
    exact still running

theorem Job.recover_state (now : Time) (job : Job) :
    (Job.recover now job job).state = .queued ∨ (Job.recover now job job).state = .failed := by
  simp only [Job.recover]
  split <;> simp

/-- A run that is active after the reconcile pass was not an orphan. -/
theorem reconciled_active {now : Time} {db : Db} {run : ScanRun}
    (runMem : run ∈ (reconcileOrphanedLibraryScanRuns now none db).scanRuns.rows)
    (active : run.state.Active) : run ∈ db.scanRuns.rows ∧ run.orphaned db = false := by
  have sub : (orphanedRuns db).Sublist db.scanRuns.rows :=
    List.filter_sublist.trans List.filter_sublist
  rw [reconcileOrphanedLibraryScanRuns, Cut.keep,
    Table.mem_updateEach (Table.nodup_keys_of_sublist sub)
      fun item itemMem => sub.subset itemMem] at runMem
  rcases runMem with ⟨stored, others⟩ | ⟨orphan, _, rfl⟩
  · refine ⟨stored, ?_⟩
    cases orphaned : run.orphaned db with
    | false => rfl
    | true =>
        have listed : run ∈ orphanedRuns db := by
          simp [orphanedRuns, stored, active, orphaned]
        exact absurd rfl (others run listed)
  · exact absurd active terminal_failed.not_active

/-- Boot recovery strands nothing exactly when the killed process was cancelling no
job. -/
theorem boot_strands_nothing_iff (recoveredAt reconciledAt : Time) (db : Db) :
    (db.boot recoveredAt reconciledAt).NothingStranded ↔
      ∀ job ∈ db.jobs.rows, job.state ≠ .cancelling := by
  have jobs : (db.boot recoveredAt reconciledAt).jobs =
      (recoverStaleRunningJobs none true recoveredAt none db).jobs :=
    reconcileOrphanedLibraryScanRuns_jobs reconciledAt none _
  constructor
  · intro nothing job jobMem cancelling
    have kept : job ∈ (db.boot recoveredAt reconciledAt).jobs.rows := by
      rw [jobs, mem_recover_force]
      exact Or.inl ⟨jobMem, by rw [cancelling]; decide⟩
    rcases nothing.jobs job kept with queued | terminal
    · rw [cancelling] at queued
      contradiction
    · exact terminal.not_active (cancelling ▸ active_cancelling)
  · intro settled
    have owned : ∀ job ∈ (recoverStaleRunningJobs none true recoveredAt none db).jobs.rows,
        job.state = .queued ∨ job.state.Terminal := by
      intro job jobMem
      rcases mem_recover_force.mp jobMem with ⟨stored, still⟩ | ⟨old, _, _, rfl⟩
      · by_cases active : job.state.Active
        · rcases active_cases active with queued | running | cancelling
          · exact Or.inl queued
          · exact absurd running still
          · exact absurd cancelling (settled job stored)
        · exact Or.inr (not_active_iff.mp active)
      · rcases Job.recover_state recoveredAt old with queued | failed
        · exact Or.inl queued
        · exact Or.inr (failed ▸ terminal_failed)
    refine ⟨owned, ?_⟩
    intro run runMem active
    rcases reconciled_active runMem active with ⟨_, backed⟩
    simp only [ScanRun.orphaned] at backed
    split at backed
    · contradiction
    next jobId workerJob =>
      split at backed
      · contradiction
      next job found =>
        rcases Table.find?_eq_some.mp found with ⟨jobMem, rfl⟩
        refine ⟨job, jobMem, workerJob, ?_⟩
        rcases owned job jobMem with queued | terminal
        · exact queued
        · simp [terminal] at backed

/-- A scan whose cancellation was accepted when the process was killed. -/
def killedWhileCancelling : List Action :=
  [.importStart 0 none, .scanStart, .scanReconcile 0 none,
    .enqueueLibraryScan "cheap" (some "operator") 1 none, .scanClaim "library-scan" 2 true,
    .scanBegin true 2 true, .scanProgress none 2, .requestLibraryScanCancel 1 3,
    .requestJobCancel 1, .kill]

theorem cancelling_job_stranded :
    ¬∀ actions world, workers.Run .initial (actions ++ [.kill]) world →
      ∀ recoveredAt reconciledAt, (world.db.boot recoveredAt reconciledAt).NothingStranded := by
  intro nothing
  have states : (workers.exec .initial killedWhileCancelling).map
      (fun world => (world.db.boot 10 11).jobs.rows.map Job.state) =
      some [.cancelling] := by decide +kernel
  rcases Option.map_eq_some_iff.mp states with ⟨world, executed, cancelling⟩
  have jobMem : JobState.cancelling ∈ (world.db.boot 10 11).jobs.rows.map Job.state := by
    simp [cancelling]
  rcases List.mem_map.mp jobMem with ⟨job, jobMem, state⟩
  have run := Machine.run_of_exec executed
  rcases (nothing killedWhileCancelling.dropLast world run 10 11).jobs job jobMem with
    queued | terminal
  · rw [state] at queued
    contradiction
  · exact terminal.not_active (state ▸ active_cancelling)

end Mintarr.Queue
