import Mintarr.Queue.Exclusion

/-!
# Terminal jobs and late reports

`mark_job_completed`, `mark_job_failed` and `mark_job_cancelled` look at no state.
A terminal row therefore keeps its state only as long as nobody who still holds
the job reports it, and the one step that makes a held job terminal behind its
holder's back is a recovery pass that gives up on it.  Without that step terminal
states are absorbing; with it they are not.
-/

namespace Mintarr.Queue

open Lib JobState

/-- The clock reading of a periodic recovery pass. -/
def Action.recoveryTime : Action → Option Time
  | .importRecover now _ => some now
  | _ => none

/-- The step is no periodic recovery pass that gives up on a job whose executor
invocation has not returned. -/
def World.SparesExecutors (world : World) (action : Action) : Prop :=
  ∀ now ∈ action.recoveryTime, ∀ job ∈ staleJobs none false now world.db,
    job.recoveryLimit ≤ job.attempts → ∀ running ∈ world.executors, running.id ≠ job.id

instance (world : World) (action : Action) : Decidable (world.SparesExecutors action) :=
  inferInstanceAs (Decidable (∀ now ∈ action.recoveryTime,
    ∀ job ∈ staleJobs none false now world.db,
      job.recoveryLimit ≤ job.attempts → ∀ running ∈ world.executors, running.id ≠ job.id))

/-- Every held job has an active row. -/
def World.Live (world : World) : Prop :=
  ∀ job ∈ world.executors, ∀ row ∈ world.db.jobs.rows, row.id = job.id → row.state.Active

/-- The relation a step must have to a terminal row. -/
def Db.KeepsTerminal (before after : Db) : Prop :=
  ∀ job ∈ before.jobs.rows, job.state.Terminal →
    ∃ next ∈ after.jobs.rows, next.id = job.id ∧ next.state = job.state ∧
      next.resultState = job.resultState

theorem Db.KeepsTerminal.trans {first second third : Db} (left : first.KeepsTerminal second)
    (right : second.KeepsTerminal third) : first.KeepsTerminal third := by
  intro job jobMem terminal
  rcases left job jobMem terminal with ⟨middle, middleMem, middleId, middleState, middleResult⟩
  rcases right middle middleMem (middleState ▸ terminal) with
    ⟨next, nextMem, nextId, nextState, nextResult⟩
  exact ⟨next, nextMem, nextId.trans middleId, nextState.trans middleState,
    nextResult.trans middleResult⟩

/-- A move that neither reports nor gives up leaves an active row active. -/
theorem Moves.active {op : Op} {old next : Job} (move : Moves op old next)
    (active : old.state.Active) (unreported : ¬op.Reports old.id)
    (continues : op.Recovers old → ¬old.recoveryLimit ≤ old.attempts) :
    next.state.Active := by
  cases move.transition with
  | kept state => exact state ▸ active
  | claimed _ state => exact state ▸ active_running
  | cancelling _ state => exact state ▸ active_cancelling
  | retried _ _ state => exact state ▸ active_queued
  | requeued _ _ _ state => exact state ▸ active_queued
  | exhausted selected _ limit => exact absurd limit (continues selected)
  | reported mine => exact absurd mine unreported

/-- A move that does not report leaves a terminal row as it is. -/
theorem Moves.terminal {op : Op} {old next : Job} (move : Moves op old next)
    (terminal : old.state.Terminal) (unreported : ¬op.Reports old.id) :
    next.state = old.state ∧ next.resultState = old.resultState := by
  have inactive := terminal.not_active
  cases move.transition with
  | kept state resultState => exact ⟨state, resultState⟩
  | claimed was => exact absurd (was ▸ active_queued) inactive
  | cancelling was => exact absurd (was ▸ active_running) inactive
  | retried was =>
      rcases was with was | was
      · exact absurd (was ▸ active_running) inactive
      · exact absurd (was ▸ active_cancelling) inactive
  | requeued _ was => exact absurd (was ▸ active_running) inactive
  | exhausted _ was => exact absurd (was ▸ active_running) inactive
  | reported mine => exact absurd mine unreported

section Steps

variable {world next : World} {action : Action} {effect : Effect}

/-- Only the holder of a job reports it, and lets go of it. -/
theorem reporter_holds (happens : Happens world action effect) {op : Op} {jobId : Nat}
    (ran : effect.op = some op) (reports : op.Reports jobId) :
    (∃ job, world.importer.job? = some job ∧ job.id = jobId ∧ effect.importer.job? = none) ∨
      ∃ job, world.scanner.job? = some job ∧ job.id = jobId ∧ effect.scanner.job? = none := by
  cases happens with
  | background plain => exact absurd reports (plain op ran).not_reports
  | booted _ _ op | swept _ _ _ op | importClaimed _ _ _ op | scanClaimed _ _ _ op =>
      rw [op, Option.some.injEq] at ran
      subst ran
      contradiction
  | importReported job _ _ owner op importer =>
      rw [op, Option.some.injEq] at ran
      subst ran
      exact Or.inl ⟨job, owner, Report.op_reports.mp reports, importer⟩
  | scanReported job _ _ owner op _ scanner =>
      rw [op, Option.some.injEq] at ran
      subst ran
      exact Or.inr ⟨job, owner, Report.op_reports.mp reports, scanner⟩

/-- A spared executor's job is not given up. -/
theorem spared_continues (happens : Happens world action effect)
    (spares : world.SparesExecutors action) {job row : Job} (rowMem : row ∈ world.db.jobs.rows)
    (sameId : row.id = job.id) (before : job ∈ world.executors)
    (after : job ∈ (world.perform effect).executors) {op : Op} (ran : effect.op = some op)
    (selected : op.Recovers row) : ¬row.recoveryLimit ≤ row.attempts := by
  intro limit
  cases happens with
  | background plain => exact (plain op ran).not_recovers selected
  | booted _ _ _ importer scanner =>
      simp [World.mem_executors, World.perform, importer, scanner] at after
  | swept now cut label op =>
      rw [op, Option.some.injEq] at ran
      subst ran label
      have stale : row ∈ staleJobs none false now world.db :=
        List.mem_filter.mpr ⟨rowMem, selected⟩
      exact spares now rfl row stale limit job before sameId.symm
  | importClaimed _ _ _ op | scanClaimed _ _ _ op =>
      rw [op, Option.some.injEq] at ran
      subst ran
      contradiction
  | importReported _ _ _ _ op | scanReported _ _ _ _ op =>
      rw [op, Option.some.injEq] at ran
      subst ran
      exact Report.not_recovers selected

/-- A job that stays held is not reported in the step. -/
theorem held_unreported (held : world.Held) (happens : Happens world action effect) {job : Job}
    (kept : (world.importer.job? = some job ∧ effect.importer.job? = some job) ∨
      (world.scanner.job? = some job ∧ effect.scanner.job? = some job))
    {op : Op} (ran : effect.op = some op) : ¬op.Reports job.id := by
  intro reports
  rcases reporter_holds happens ran reports with
    ⟨reporter, owner, sameId, done⟩ | ⟨reporter, owner, sameId, done⟩ <;>
    rcases kept with ⟨before, after⟩ | ⟨before, after⟩
  · rw [done] at after
    contradiction
  · exact held.ne_id owner before sameId
  · exact held.ne_id before owner sameId.symm
  · rw [done] at after
    contradiction

/-- A job that stays held keeps an active row. -/
theorem live_kept (held : world.Held) (live : world.Live) (happens : Happens world action effect)
    (spares : world.SparesExecutors action) {job : Job}
    (kept : (world.importer.job? = some job ∧ effect.importer.job? = some job) ∨
      (world.scanner.job? = some job ∧ effect.scanner.job? = some job))
    {row : Job} (rowMem : row ∈ (world.perform effect).db.jobs.rows)
    (sameId : row.id = job.id) : row.state.Active := by
  have before : job ∈ world.executors :=
    World.mem_executors.mpr (kept.imp And.left And.left)
  have after : job ∈ (world.perform effect).executors :=
    World.mem_executors.mpr (kept.imp And.right And.right)
  have stored : ∃ old ∈ world.db.jobs.rows, old.id = job.id := by
    rcases kept with ⟨owner, _⟩ | ⟨owner, _⟩
    · rcases held.importer job owner with ⟨_, old, oldMem, oldId, _⟩
      exact ⟨old, oldMem, oldId⟩
    · rcases held.scanner job owner with ⟨_, old, oldMem, oldId, _⟩
      exact ⟨old, oldMem, oldId⟩
  rcases stored with ⟨old, oldMem, oldId⟩
  have active := live job before old oldMem oldId
  rcases perform_back oldMem rowMem (sameId.trans oldId.symm) with rfl | ⟨op, ran, move⟩
  · exact active
  · apply move.active active
    · rw [oldId]
      exact held_unreported held happens kept ran
    · exact spared_continues happens spares oldMem oldId before after ran

/-- A freshly claimed job has an active row. -/
theorem live_claimed {request : ClaimRequest} {now : Time} {job row : Job}
    (op : effect.op = some (.dequeueNextJob request now))
    (claimed : (Op.dequeueNextJob request now).claimed world.db = some job)
    (rowMem : row ∈ (world.perform effect).db.jobs.rows) (sameId : row.id = job.id) :
    row.state.Active := by
  rw [Table.eq_of_key_eq rowMem (perform_claimed op claimed) sameId]
  rcases claimed_eq_some claimed with ⟨⟨old, _, _, rfl⟩, _⟩
  exact active_running

/-- One step that spares the executors keeps `Live`. -/
theorem live_step (held : world.Held) (live : world.Live)
    (spares : world.SparesExecutors action)
    (stepped : workers.step world action = some next) : next.Live := by
  rcases workers_step stepped with ⟨effect, happens, rfl⟩
  intro job jobMem row rowMem sameId
  -- A job that was held before the step is covered by `live_kept`.
  have kept : (world.importer.job? = some job ∧ effect.importer.job? = some job) ∨
      (world.scanner.job? = some job ∧ effect.scanner.job? = some job) → row.state.Active :=
    fun stays => live_kept held live happens spares stays rowMem sameId
  rcases World.mem_executors.mp jobMem with owner | owner
  · cases happens with
    | background _ importer => exact kept (Or.inl ⟨importer job owner, owner⟩)
    | booted _ _ _ importer | swept _ _ _ _ importer | importReported _ _ _ _ _ importer =>
        simp [World.perform, importer] at owner
    | importClaimed _ _ _ op importer =>
        exact live_claimed op (importer job owner) rowMem sameId
    | scanClaimed _ _ _ _ importer | scanReported _ _ _ _ _ importer =>
        exact kept (Or.inl ⟨importer ▸ owner, owner⟩)
  · cases happens with
    | background _ _ scanner => exact kept (Or.inr ⟨scanner job owner, owner⟩)
    | booted _ _ _ _ scanner | scanReported _ _ _ _ _ _ scanner =>
        simp [World.perform, scanner] at owner
    | scanClaimed _ _ _ op _ scanner =>
        exact live_claimed op (scanner job owner) rowMem sameId
    | swept _ _ _ _ _ scanner | importClaimed _ _ _ _ _ scanner
    | importReported _ _ _ _ _ _ scanner =>
        exact kept (Or.inr ⟨scanner ▸ owner, owner⟩)

/-- One step from a state whose held jobs are active keeps terminal rows. -/
theorem keepsTerminal_step (live : world.Live)
    (stepped : workers.step world action = some next) : world.db.KeepsTerminal next.db := by
  rcases workers_step stepped with ⟨effect, happens, rfl⟩
  intro job jobMem terminal
  rcases perform_forth effect jobMem with ⟨row, rowMem, sameId, rfl | ⟨op, ran, move⟩⟩
  · exact ⟨row, rowMem, rfl, rfl, rfl⟩
  · have unreported : ¬op.Reports job.id := by
      intro reports
      have holder : ∃ held ∈ world.executors, held.id = job.id := by
        rcases reporter_holds happens ran reports with ⟨held, owner, id, _⟩ | ⟨held, owner, id, _⟩
        · exact ⟨held, World.mem_executors.mpr (Or.inl owner), id⟩
        · exact ⟨held, World.mem_executors.mpr (Or.inr owner), id⟩
      rcases holder with ⟨held, heldMem, heldId⟩
      exact terminal.not_active (live held heldMem job jobMem heldId.symm)
    have same := move.terminal terminal unreported
    exact ⟨row, rowMem, sameId, same.1, same.2⟩

end Steps

/-- Terminal states are absorbing in every run of the process in which no periodic
recovery pass gives up on a job whose executor has not returned. -/
theorem terminal_absorbing {first second : List Action} {before after : World}
    (reached : workers.RunWhere World.SparesExecutors .initial first before)
    (continued : workers.RunWhere World.SparesExecutors before second after) :
    before.db.KeepsTerminal after.db := by
  have liveStep : ∀ world action next, (world.Held ∧ world.Live) →
      world.SparesExecutors action → workers.step world action = some next →
      next.Held ∧ next.Live := by
    intro world action next invariant spares stepped
    exact ⟨held_step invariant.1 stepped,
      live_step invariant.1 invariant.2 spares stepped⟩
  have initially : World.initial.Live := by
    intro job jobMem
    simp [World.executors, World.initial, ImportPc.job?, ScanPc.job?] at jobMem
  have invariant : before.Held ∧ before.Live :=
    reached.preserves _ liveStep ⟨held_initial, initially⟩
  apply continued.relates (fun world => world.Held ∧ world.Live)
    fun before after => before.db.KeepsTerminal after.db
  · exact fun world job jobMem _ => ⟨job, jobMem, rfl, rfl, rfl⟩
  · exact fun _ _ _ => Db.KeepsTerminal.trans
  · exact liveStep
  · exact fun _ _ _ invariant _ stepped => keepsTerminal_step invariant.2 stepped
  · exact invariant

/-- A scan that is still listing the library when its lease runs out, and the
recovery pass of the import worker that then gives up on it. -/
def overrunScan : List Action :=
  [.importStart 0 none, .scanStart, .scanReconcile 0 none,
    .enqueueLibraryScan "cheap" (some "operator") 1 none, .scanClaim "library-scan" 2 true,
    .scanBegin true 2 true, .scanProgress none 2, .heartbeat 1 defaultLeaseSec 2,
    .importRecover 303 none]

/-- The scan ends and reports. -/
def lateReport : List Action :=
  [.scanEnd .completed {} 304 true, .scanReport 305 true]

/-- The columns terminal states are about. -/
def World.outcomes (world : World) : List (Nat × JobState × Option String) :=
  world.db.jobs.rows.map fun job => (job.id, job.state, job.resultState)

theorem terminal_state_overwritten :
    ¬∀ first before second after, workers.Run .initial first before →
      workers.Run before second after → before.db.KeepsTerminal after.db := by
  intro absorbing
  have failed : (workers.exec .initial overrunScan).map World.outcomes =
      some [(1, .failed, some "stale")] := by decide +kernel
  rcases Option.map_eq_some_iff.mp failed with ⟨before, executed, stale⟩
  have completed : ((workers.exec .initial overrunScan).bind fun before =>
      workers.exec before lateReport).map World.outcomes =
      some [(1, .completed, some "library_scan_completed")] := by decide +kernel
  rw [executed, Option.bind_some] at completed
  rcases Option.map_eq_some_iff.mp completed with ⟨after, continued, reported⟩
  have keeps := absorbing _ _ _ _ (Machine.run_of_exec executed) (Machine.run_of_exec continued)
  have staleMem : (1, JobState.failed, some "stale") ∈ before.outcomes := by simp [stale]
  rcases List.mem_map.mp staleMem with ⟨job, jobMem, columns⟩
  simp only [Prod.mk.injEq] at columns
  rcases keeps job jobMem (by simp [columns.2.1]) with ⟨next, nextMem, _, nextState, _⟩
  have nextColumns : (next.id, next.state, next.resultState) ∈ after.outcomes :=
    List.mem_map.mpr ⟨next, nextMem, rfl⟩
  rw [reported, List.mem_singleton, Prod.mk.injEq, Prod.mk.injEq, nextState, columns.2.1]
    at nextColumns
  exact absurd nextColumns.2.1 (by decide)

/-- The same scan when it ends before the recovery pass. -/
def punctualScan : List Action :=
  [.importStart 0 none, .scanStart, .scanReconcile 0 none,
    .enqueueLibraryScan "cheap" (some "operator") 1 none, .scanClaim "library-scan" 2 true,
    .scanBegin true 2 true, .scanEnd .completed {} 100 true, .scanReport 101 true]

theorem terminal_absorbing_punctualScan : ∃ before after,
    before.outcomes = [(1, .completed, some "library_scan_completed")] ∧
      workers.RunWhere World.SparesExecutors before [.importRecover 303 none] after ∧
      before.db.KeepsTerminal after.db := by
  have completed : ((workers.restrict World.SparesExecutors).exec .initial punctualScan).map
      World.outcomes = some [(1, .completed, some "library_scan_completed")] := by
    decide +kernel
  rcases Option.map_eq_some_iff.mp completed with ⟨before, executed, outcomes⟩
  have swept : (((workers.restrict World.SparesExecutors).exec .initial punctualScan).bind
      fun before => (workers.restrict World.SparesExecutors).exec before
        [.importRecover 303 none]).isSome := by decide +kernel
  rw [executed, Option.bind_some] at swept
  rcases Option.isSome_iff_exists.mp swept with ⟨after, continued⟩
  have run := Machine.runWhere_of_exec continued
  exact ⟨before, after, outcomes, run,
    terminal_absorbing (Machine.runWhere_of_exec executed) run⟩

end Mintarr.Queue
