import Mintarr.Queue.Dedupe
import Mintarr.Queue.ScanBooks

/-!
# A scan run and its job

The executor ends the run in one critical section and reports the job in the next; recovery
knows only of the job, and the reconcile pass only of runs that are still active.  The rows
end in the same state unless the process dies between the two writes, or between the insertion
of a job and the link to it.
-/

namespace Mintarr.Queue

open Lib JobState

section Steps

variable {world next : World} {action : Action} {effect : Effect}

/-! ## Pairs of rows -/

/-- Rows that agree go on agreeing while their states stay or stay active. -/
theorem Agree.steady {run nextRun : ScanRun} {row nextRow : Job} (agree : Agree run row)
    (runKept : nextRun.state = run.state ∨ (run.state.Active ∧ nextRun.state.Active))
    (rowKept : nextRow.state = row.state ∨ (row.state.Active ∧ nextRow.state.Active)) :
    Agree nextRun nextRow := by
  rcases agree with ⟨runActive, rowActive⟩ | ⟨same, terminal⟩
  · left
    constructor
    · rcases runKept with kept | ⟨_, active⟩
      · rw [kept]
        exact runActive
      · exact active
    · rcases rowKept with kept | ⟨_, active⟩
      · rw [kept]
        exact rowActive
      · exact active
  · right
    have runSame : nextRun.state = run.state := by
      rcases runKept with kept | ⟨active, _⟩
      · exact kept
      · rw [same] at active
        exact absurd active terminal.not_active
    have rowSame : nextRow.state = row.state := by
      rcases rowKept with kept | ⟨active, _⟩
      · exact kept
      · exact absurd active terminal.not_active
    rw [runSame, rowSame]
    exact ⟨same, terminal⟩

/-- So does what the thread expects of them. -/
theorem expects_steady {scanner : ScanPc} {run nextRun : ScanRun} {row nextRow : Job}
    (sameId : nextRow.id = row.id)
    (runKept : nextRun.state = run.state ∨ (run.state.Active ∧ nextRun.state.Active))
    (rowKept : nextRow.state = row.state ∨ (row.state.Active ∧ nextRow.state.Active))
    (expects : scanner.Expects run row) : scanner.Expects nextRun nextRow := by
  have runActive : run.state.Active → nextRun.state.Active := by
    intro active
    rcases runKept with kept | ⟨_, active⟩
    · rw [kept]
      exact active
    · exact active
  have rowLives : row.state.Active ∨ row.state = .failed →
      nextRow.state.Active ∨ nextRow.state = .failed := by
    intro lives
    rcases rowKept with kept | ⟨_, active⟩
    · rw [kept]
      exact lives
    · exact Or.inl active
  cases scanner with
  | stopped | starting =>
      rcases expects with agree | ⟨active, failed⟩
      · exact Or.inl (agree.steady runKept rowKept)
      · right
        refine ⟨runActive active, ?_⟩
        rcases rowKept with kept | ⟨active, _⟩
        · rw [kept]
          exact failed
        · rw [failed] at active
          exact absurd active terminal_failed.not_active
  | polling => exact Agree.steady expects runKept rowKept
  | claimed job | scanning job _ =>
      unfold ScanPc.Expects at *
      dsimp only at *
      rw [sameId]
      split at expects
      · next own =>
          rw [if_pos own]
          exact ⟨runActive expects.1, rowLives expects.2⟩
      · next other =>
          rw [if_neg other]
          exact Agree.steady expects runKept rowKept
  | reporting job report =>
      unfold ScanPc.Expects at *
      dsimp only at *
      rw [sameId]
      split at expects
      · next own =>
          rw [if_pos own]
          rcases runKept with kept | ⟨active, _⟩
          · rw [kept]
            exact expects
          · rw [expects] at active
            exact absurd active report.terminal.not_active
      · next other =>
          rw [if_neg other]
          exact Agree.steady expects runKept rowKept

/-- A recovery that fails the job of a scan, while the scan runs or before the reconcile
pass. -/
theorem expects_recovered {scanner : ScanPc} {run : ScanRun} {row nextRow : Job}
    (sameId : nextRow.id = row.id) (running : row.state = .running)
    (failed : nextRow.state = .failed)
    (owned : scanner = .stopped ∨ ∃ job, scanner.job? = some job ∧ job.id = row.id)
    (expects : scanner.Expects run row) : scanner.Expects run nextRow := by
  rcases owned with rfl | ⟨job, held, own⟩
  · right
    refine ⟨?_, failed⟩
    rcases expects with (⟨active, _⟩ | ⟨_, terminal⟩) | ⟨active, _⟩
    · exact active
    · rw [running] at terminal
      exact absurd active_running terminal.not_active
    · exact active
  · cases scanner with
    | stopped | starting | polling => contradiction
    | claimed other | scanning other _ =>
        cases held
        unfold ScanPc.Expects at *
        dsimp only at *
        rw [if_pos own] at expects
        rw [sameId, if_pos own]
        exact ⟨expects.1, Or.inr failed⟩
    | reporting other report =>
        cases held
        unfold ScanPc.Expects at *
        dsimp only at *
        rw [if_pos own] at expects
        rw [sameId, if_pos own]
        exact expects

/-- A new scan. -/
theorem expects_fresh {scanner : ScanPc} {run : ScanRun} {row : Job}
    (runQueued : run.state = .queued) (rowQueued : row.state = .queued)
    (other : ∀ job, scanner.job? = some job → job.id ≠ row.id) : scanner.Expects run row := by
  have agree : Agree run row := Or.inl ⟨runQueued ▸ active_queued, rowQueued ▸ active_queued⟩
  cases scanner with
  | stopped | starting => exact Or.inl agree
  | polling => exact agree
  | claimed job | scanning job _ | reporting job _ =>
      unfold ScanPc.Expects
      dsimp only
      rw [if_neg (other job rfl)]
      exact agree

/-- Where a run and its job come from. -/
theorem pair_origin (books : world.Books) {run : ScanRun} {row : Job}
    (runMem : run ∈ (world.perform effect).db.scanRuns.rows)
    (rowMem : row ∈ (world.perform effect).db.jobs.rows)
    (linked : run.workerJobId = some row.id) :
    (run.state = .queued ∧ row.state = .queued ∧ row.id = world.db.jobs.nextKey) ∨
      ∃ oldRun ∈ world.db.scanRuns.rows, ∃ oldRow ∈ world.db.jobs.rows,
        oldRun.workerJobId = some oldRow.id ∧ oldRow.type = libraryScanJobType ∧
        run.id = oldRun.id ∧ row.id = oldRow.id ∧
        (run = oldRun ∨ ∃ op, effect.op = some op ∧ RunMoves op oldRun run) ∧
        (row = oldRow ∨ ∃ op, effect.op = some op ∧ Moves op oldRow row) := by
  rcases run_origin runMem with ⟨oldRun, oldRunMem, runId, link, runMove⟩ |
    ⟨_, runState, ⟨mode, requestedBy, now, cut, enqueued⟩, fresh⟩
  · have before := books.links oldRun oldRunMem row.id (link ▸ linked)
    rcases row_origin rowMem with ⟨oldRow, oldRowMem, rowId, _, rowMove⟩ | ⟨_, _, inserts⟩
    · right
      rw [link, rowId] at linked
      exact ⟨oldRun, oldRunMem, oldRow, oldRowMem, linked,
        (before.forth oldRow oldRowMem rowId.symm).1, runId, rowId, runMove, rowMove⟩
    · have older := before.inserted
      have newer := inserts.fresh.2.2
      omega
  · left
    have newer := (fresh row.id linked).1
    rcases row_origin rowMem with ⟨oldRow, oldRowMem, rowId, _⟩ | ⟨_, _, inserts⟩
    · have older := world.db.jobs.fresh oldRow oldRowMem
      omega
    · exact ⟨runState, inserts.fresh.1, newer⟩

/-- A critical section that leaves the states of runs to the scan thread. -/
def Op.Calm : Op → Prop
  | .updateLibraryScanRunState .. | .reconcileOrphanedLibraryScanRuns .. => False
  | _ => True

theorem Op.Calm.runKept {op : Op} {old run : ScanRun} (calm : op.Calm)
    (move : RunMoves op old run) :
    run.state = old.state ∨ (old.state.Active ∧ run.state.Active) := by
  cases move with
  | kept state => exact Or.inl state
  | cancelling was state => exact Or.inr ⟨was, state⟩
  | written _ _ _ _ _ ran | abandoned _ _ ran =>
      rw [ran] at calm
      exact calm.elim

/-- A step beside the scan thread. -/
theorem pairs_quiet (books : world.Books) (scanner : effect.scanner = world.scanner)
    (calm : ∀ op, effect.op = some op → op.Calm)
    (unreported : ∀ op, effect.op = some op → ∀ row ∈ world.db.jobs.rows,
      row.type = libraryScanJobType → ¬op.Reports row.id)
    (recovers : ∀ op row, effect.op = some op → op.Recovers row →
      world.scanner = .stopped ∨ world.importer ≠ .stopped) :
    ∀ run ∈ (world.perform effect).db.scanRuns.rows,
      ∀ row ∈ (world.perform effect).db.jobs.rows, run.workerJobId = some row.id →
        effect.scanner.Expects run row := by
  intro run runMem row rowMem linked
  rw [scanner]
  rcases pair_origin books runMem rowMem linked with ⟨runState, rowState, rowId⟩ |
    ⟨oldRun, oldRunMem, oldRow, oldRowMem, oldLinked, scan, _, rowId, runMove, rowMove⟩
  · apply expects_fresh runState rowState
    intro job owner same
    rcases held_scan books owner with ⟨_, _, _, older, _⟩
    omega
  · have before := books.pairs oldRun oldRunMem oldRow oldRowMem oldLinked
    have runKept : run.state = oldRun.state ∨ (oldRun.state.Active ∧ run.state.Active) := by
      rcases runMove with rfl | ⟨op, ran, move⟩
      · exact Or.inl rfl
      · exact (calm op ran).runKept move
    rcases rowMove with rfl | ⟨op, ran, move⟩
    · exact expects_steady rfl runKept (Or.inl rfl) before
    · rcases scan_row_cases (books.jobs oldRow oldRowMem scan) move with
        kept | active | ⟨selected, running, failed⟩ | reports
      · exact expects_steady rowId runKept (Or.inl kept) before
      · exact expects_steady rowId runKept (Or.inr active) before
      · apply expects_recovered rowId running failed ?_
          (expects_steady rfl runKept (Or.inl rfl) before)
        rcases recovers op oldRow ran selected with stopped | started
        · exact Or.inl stopped
        · exact Or.inr (books.owned started oldRow oldRowMem scan running)
      · exact absurd reports (unreported op ran oldRow oldRowMem scan)

/-- After a forced recovery no job is running. -/
theorem not_running_of_forced {now : Time} {db : Db} {row : Job}
    (rowMem : row ∈ (recoverStaleRunningJobs none true now none db).jobs.rows) :
    row.state ≠ .running := by
  rcases mem_recover_force.mp rowMem with ⟨_, still⟩ | ⟨old, _, _, rfl⟩
  · exact still
  · rcases Job.recover_state now old with state | state
    · rw [state]
      decide
    · rw [state]
      decide

theorem owned_step (books : world.Books) (spares : world.SparesScans action)
    (happens : world.effect action = some effect) (started : effect.importer ≠ .stopped) :
    ∀ row ∈ (world.perform effect).db.jobs.rows, row.type = libraryScanJobType →
      row.state = .running → ∃ job, effect.scanner.job? = some job ∧ job.id = row.id := by
  intro row rowMem scan running
  rcases started_by happens started with before | ⟨now, cut, rfl⟩
  · rcases row_origin rowMem with ⟨old, oldMem, sameId, work, _⟩ | ⟨op, ran, inserts⟩
    · have oldScan : old.type = libraryScanJobType := (type_of_work work).symm.trans scan
      have goesOn : old.state = .running →
          ∃ job, effect.scanner.job? = some job ∧ job.id = row.id := by
        intro was
        rcases books.owned before old oldMem oldScan was with ⟨job, owner, own⟩
        rcases scan_goes_on books spares happens owner with kept | stopped | ⟨report, now, ran⟩
        · exact ⟨job, kept, own.trans sameId.symm⟩
        · exact absurd stopped started
        · have reported := reported_state ran rowMem (sameId.trans own.symm)
          rw [running] at reported
          have terminal := report.terminal
          rw [← reported] at terminal
          exact absurd active_running terminal.not_active
      rcases perform_traced oldMem rowMem sameId with same | ⟨op, ran, _, traced⟩
      · apply goesOn
        rw [← same]
        exact running
      · rcases traced.running running with was | claimed
        · exact goesOn was
        · -- Only the scan worker claims scans, and it is told of its claim.
          cases action with
          | scanClaim workerId now delivered =>
              have told : delivered = true := spares
              subst told
              simp only [World.effect] at happens
              split at happens
              case h_2 => contradiction
              split at happens
              · next job taken =>
                  cases happens
                  simp only [Option.some.injEq] at ran
                  subst ran
                  rw [taken, Option.some.injEq] at claimed
                  exact ⟨job, rfl, congrArg Job.id claimed⟩
              · next taken =>
                  cases happens
                  simp only [Option.some.injEq] at ran
                  subst ran
                  rw [taken] at claimed
                  contradiction
          | importClaim workerId now delivered =>
              simp only [World.effect] at happens
              split at happens
              case h_2 => contradiction
              split at happens
              · cases happens
                simp only [Option.some.injEq] at ran
                subst ran
                exact absurd scan (importRequest_type claimed)
              · cases happens
                simp only [Option.some.injEq] at ran
                subst ran
                exact absurd scan (importRequest_type claimed)
          | importReport | scanReport =>
              simp only [World.effect] at happens
              split at happens
              · next report _ =>
                  cases happens
                  split at ran
                  · simp only [Option.some.injEq] at ran
                    subst ran
                    rw [Report.op_claimed] at claimed
                    contradiction
                  · contradiction
              · contradiction
          | _ =>
              simp only [World.effect, World.request, World.importStep, World.scanStep] at happens
              repeat' split at happens
              all_goals cases happens
              all_goals first
                | contradiction
                | (simp only [Option.some.injEq] at ran; subst ran; contradiction)
    · rw [inserts.fresh.1] at running
      contradiction
  · have whole : cut = none := of_decide_eq_true spares
    subst whole
    simp only [World.effect] at happens
    split at happens
    · cases happens
      exact absurd running (not_running_of_forced rowMem)
    · contradiction

/-- A step without a critical section beside the scan thread. -/
theorem pairs_idle (books : world.Books) (scanner : effect.scanner = world.scanner)
    (ran : effect.op = none) :
    ∀ run ∈ (world.perform effect).db.scanRuns.rows,
      ∀ row ∈ (world.perform effect).db.jobs.rows, run.workerJobId = some row.id →
        effect.scanner.Expects run row := by
  have same : (world.perform effect).db = world.db := by simp [World.perform, ran]
  rw [same, scanner]
  exact books.pairs

/-- A critical section that neither reports nor recovers, beside the scan thread. -/
theorem pairs_calm (books : world.Books) (scanner : effect.scanner = world.scanner) {op : Op}
    (ran : effect.op = some op) (calm : op.Calm) (plain : op.Background ∨ ∃ request now,
      op = .dequeueNextJob request now) :
    ∀ run ∈ (world.perform effect).db.scanRuns.rows,
      ∀ row ∈ (world.perform effect).db.jobs.rows, run.workerJobId = some row.id →
        effect.scanner.Expects run row := by
  apply pairs_quiet books scanner
  · intro other same
    rw [ran, Option.some.injEq] at same
    exact same ▸ calm
  · intro other same row _ _
    rw [ran, Option.some.injEq] at same
    subst same
    rcases plain with plain | ⟨request, now, rfl⟩
    · exact plain.not_reports
    · exact id
  · intro other row same
    rw [ran, Option.some.injEq] at same
    subst same
    rcases plain with plain | ⟨request, now, rfl⟩
    · exact fun recovers => absurd recovers plain.not_recovers
    · exact False.elim

/-- A recovery pass, at boot or while the import worker polls. -/
theorem pairs_recovered (books : world.Books) (scanner : effect.scanner = world.scanner)
    {maxAgeSec : Option Time} {force : Bool} {now : Time} {cut : Cut}
    (ran : effect.op = some (.recoverStaleRunningJobs maxAgeSec force now cut))
    (when_ : world.scanner = .stopped ∨ world.importer ≠ .stopped) :
    ∀ run ∈ (world.perform effect).db.scanRuns.rows,
      ∀ row ∈ (world.perform effect).db.jobs.rows, run.workerJobId = some row.id →
        effect.scanner.Expects run row := by
  apply pairs_quiet books scanner
  · intro other same
    rw [ran, Option.some.injEq] at same
    subst same
    trivial
  · intro other same row _ _
    rw [ran, Option.some.injEq] at same
    subst same
    exact id
  · intro other row _ _
    exact when_

/-- The import worker reports other jobs. -/
theorem pairs_imported (books : world.Books) (scanner : effect.scanner = world.scanner)
    {job : Job} (owner : world.importer.job? = some job) {report : Report} {now : Time}
    (ran : effect.op = some (report.op job.id now)) :
    ∀ run ∈ (world.perform effect).db.scanRuns.rows,
      ∀ row ∈ (world.perform effect).db.jobs.rows, run.workerJobId = some row.id →
        effect.scanner.Expects run row := by
  apply pairs_quiet books scanner
  · intro other same
    rw [ran, Option.some.injEq] at same
    subst same
    cases report <;> trivial
  · intro other same row rowMem scan
    rw [ran, Option.some.injEq] at same
    subst same
    rw [Report.op_reports]
    intro own
    rcases books.held.importer job owner with ⟨imports, stored, storedMem, sameId, type⟩
    have equal := Table.eq_of_key_eq storedMem rowMem (sameId.trans own)
    apply imports
    rw [← type, equal]
    exact scan
  · intro other row same
    rw [ran, Option.some.injEq] at same
    subst same
    exact fun recovers => absurd recovers Report.not_recovers

/-! ## The steps of the scan thread -/

/-- A run with a job is an orphan where the job has ended. -/
theorem orphaned_iff {db : Db} {run : ScanRun} {row : Job} (rowMem : row ∈ db.jobs.rows)
    (linked : run.workerJobId = some row.id) :
    run.orphaned db = true ↔ row.state.Terminal := by
  have found : db.jobs.find? row.id = some row := Table.find?_eq_some.mpr ⟨rowMem, rfl⟩
  unfold ScanRun.orphaned
  rw [linked]
  dsimp only
  rw [found]
  exact decide_eq_true_iff

/-- The reconcile pass settles the runs of a killed process. -/
theorem pairs_reconciled (books : world.Books) (scanner : world.scanner = .starting) {now : Time}
    (ran : effect.op = some (.reconcileOrphanedLibraryScanRuns now none)) :
    ∀ run ∈ (world.perform effect).db.scanRuns.rows,
      ∀ row ∈ (world.perform effect).db.jobs.rows, run.workerJobId = some row.id →
        Agree run row := by
  intro run runMem row rowMem linked
  have same : (world.perform effect).db =
      reconcileOrphanedLibraryScanRuns now none world.db := by
    simp [World.perform, ran, Op.apply]
  have sub : (orphanedRuns world.db).Sublist world.db.scanRuns.rows :=
    List.filter_sublist.trans List.filter_sublist
  rw [same] at runMem rowMem
  rw [reconcileOrphanedLibraryScanRuns_jobs] at rowMem
  rw [reconcileOrphanedLibraryScanRuns, Cut.keep,
    Table.mem_updateEach (Table.nodup_keys_of_sublist sub)
      fun item itemMem => sub.subset itemMem] at runMem
  rcases runMem with ⟨stored, others⟩ | ⟨orphan, orphanMem, rfl⟩
  · have before := books.pairs run stored row rowMem linked
    rw [scanner] at before
    rcases before with agree | ⟨active, failed⟩
    · exact agree
    · have orphaned : run.orphaned world.db = true :=
        (orphaned_iff rowMem linked).mpr (failed ▸ terminal_failed)
      have listed : run ∈ orphanedRuns world.db := by
        simp [orphanedRuns, stored, active, orphaned]
      exact absurd rfl (others run listed)
  · have before := books.pairs orphan (sub.subset orphanMem) row rowMem linked
    rw [scanner] at before
    simp only [orphanedRuns, List.mem_filter, decide_eq_true_eq] at orphanMem
    rcases orphanMem with ⟨⟨_, active⟩, orphaned⟩
    have ended := (orphaned_iff rowMem linked).mp orphaned
    rcases before with (⟨_, lives⟩ | ⟨equal, _⟩) | ⟨_, failed⟩
    · exact absurd lives ended.not_active
    · rw [equal] at active
      exact absurd active ended.not_active
    · exact Or.inr ⟨failed.symm, ended⟩

/-- A claim starts the scan of a run that is active. -/
theorem pairs_claimed (books : world.Books) (scanner : world.scanner = .polling)
    {request : ClaimRequest} {now : Time} {job : Job}
    (ran : effect.op = some (.dequeueNextJob request now))
    (taken : (Op.dequeueNextJob request now).claimed world.db = some job)
    (held : effect.scanner = .claimed job) :
    ∀ run ∈ (world.perform effect).db.scanRuns.rows,
      ∀ row ∈ (world.perform effect).db.jobs.rows, run.workerJobId = some row.id →
        effect.scanner.Expects run row := by
  intro run runMem row rowMem linked
  let quiet : Effect := { effect with scanner := world.scanner }
  have agree : (ScanPc.polling).Expects run row := by
    have runs : quiet.op = some (.dequeueNextJob request now) := ran
    have before : quiet.scanner.Expects run row :=
      pairs_calm books rfl runs trivial (Or.inr ⟨request, now, rfl⟩) run runMem row rowMem linked
    have stays : quiet.scanner = .polling := scanner
    rwa [stays] at before
  rw [held]
  unfold ScanPc.Expects
  dsimp only
  split
  · next own =>
      have same : row = job :=
        Table.eq_of_key_eq rowMem (perform_claimed ran taken) own.symm
      have running : row.state = .running := by
        rw [same]
        rcases (claimed_eq_some taken).1 with ⟨_, _, _, rfl⟩
        rfl
      have active : row.state.Active := running ▸ active_running
      refine ⟨?_, Or.inl active⟩
      rcases agree with ⟨runActive, _⟩ | ⟨_, terminal⟩
      · exact runActive
      · exact absurd active terminal.not_active
  · exact agree

/-- The scan thread writes its run: other runs stay as they are. -/
theorem pairs_written (books : world.Books) {job : Job} {runId : Int} {state : JobState}
    {lastError : Option String} {totals : Option ScanTotals} {now : Time}
    (owner : world.scanner.job? = some job) (named : scanRunId job.payload = some runId)
    (ran : effect.op = some (.updateLibraryScanRunState runId state lastError totals now))
    {run : ScanRun} {row : Job} (runMem : run ∈ (world.perform effect).db.scanRuns.rows)
    (rowMem : row ∈ (world.perform effect).db.jobs.rows)
    (linked : run.workerJobId = some row.id) :
    (job.id = row.id → run.state = state) ∧
      ∃ oldRun, world.scanner.Expects oldRun row ∧ (job.id ≠ row.id → run = oldRun) := by
  have same : (world.perform effect).db =
      updateLibraryScanRunState runId state lastError totals now world.db := by
    simp [World.perform, ran, Op.apply]
  rw [same] at runMem rowMem
  rw [updateLibraryScanRunState_jobs] at rowMem
  simp only [updateLibraryScanRunState, Table.mem_update] at runMem
  rcases runMem with ⟨old, oldMem, rfl⟩
  have link : old.workerJobId = some row.id := by
    split at linked
    · exact linked
    · exact linked
  rcases held_scan books owner with ⟨mine, carries, _, _, behind⟩
  rw [named, Option.some.injEq] at carries
  have own := behind old oldMem row rowMem link
  refine ⟨?_, old, books.pairs old oldMem row rowMem link, ?_⟩
  · intro same
    rw [if_pos (by simp [own.mpr same, carries])]
  · intro other
    have different : (old.id : Int) ≠ runId := by
      rw [carries]
      exact fun equal => other (own.mp (Nat.cast_inj.mp equal))
    rw [if_neg (by simp [different])]

/-- What the thread expects of the rows of a scan while it holds another one. -/
theorem ScanPc.Expects.other {scanner : ScanPc} {run : ScanRun} {row : Job} {job : Job}
    (expects : scanner.Expects run row) (owner : scanner.job? = some job)
    (other : job.id ≠ row.id) : Agree run row := by
  cases scanner with
  | stopped | starting | polling => contradiction
  | claimed held | scanning held _ | reporting held _ =>
      cases owner
      unfold ScanPc.Expects at expects
      dsimp only at expects
      rw [if_neg other] at expects
      exact expects

/-- The scan goes on. -/
theorem pairs_scanning (books : world.Books) {job : Job} {runId : Int}
    (scanner : world.scanner = .scanning job runId) {state : JobState}
    {lastError : Option String} {totals : Option ScanTotals} {now : Time}
    (stays : effect.scanner = .scanning job runId)
    (ran : effect.op = some (.updateLibraryScanRunState runId state lastError totals now))
    (active : state.Active) :
    ∀ run ∈ (world.perform effect).db.scanRuns.rows,
      ∀ row ∈ (world.perform effect).db.jobs.rows, run.workerJobId = some row.id →
        effect.scanner.Expects run row := by
  intro run runMem row rowMem linked
  have owner : world.scanner.job? = some job := by rw [scanner]; rfl
  have written := pairs_written books owner (books.scanning job runId scanner) ran runMem rowMem
    linked
  rcases written.2 with ⟨old, expects, kept⟩
  rw [stays]
  unfold ScanPc.Expects
  dsimp only
  split
  · next own =>
      rw [written.1 own]
      rw [scanner] at expects
      unfold ScanPc.Expects at expects
      dsimp only at expects
      rw [if_pos own] at expects
      exact ⟨active, expects.2⟩
  · next other =>
      rw [kept other]
      exact expects.other owner other

/-- The report of a scan: its job ends as its run has. -/
theorem pairs_reported (books : world.Books) {job : Job} {report : Report} {now : Time}
    (scanner : world.scanner = .reporting job report)
    (ran : effect.op = some (report.op job.id now)) :
    ∀ run ∈ (world.perform effect).db.scanRuns.rows,
      ∀ row ∈ (world.perform effect).db.jobs.rows, run.workerJobId = some row.id →
        Agree run row := by
  intro run runMem row rowMem linked
  rcases pair_origin books runMem rowMem linked with ⟨runState, rowState, _⟩ |
    ⟨oldRun, oldRunMem, oldRow, oldRowMem, oldLinked, scan, _, rowId, runMove, rowMove⟩
  · exact Or.inl ⟨runState ▸ active_queued, rowState ▸ active_queued⟩
  · have before := books.pairs oldRun oldRunMem oldRow oldRowMem oldLinked
    rw [scanner] at before
    unfold ScanPc.Expects at before
    dsimp only at before
    have calm : (report.op job.id now).Calm := by cases report <;> trivial
    have runKept : run.state = oldRun.state ∨ (oldRun.state.Active ∧ run.state.Active) := by
      rcases runMove with rfl | ⟨op, ranOp, move⟩
      · exact Or.inl rfl
      · rw [ran, Option.some.injEq] at ranOp
        subst ranOp
        exact calm.runKept move
    split at before
    · next own =>
        have rowState := reported_state ran rowMem (rowId.trans own.symm)
        right
        rw [rowState]
        refine ⟨?_, report.terminal⟩
        rcases runKept with kept | ⟨active, _⟩
        · exact kept.trans before
        · rw [before] at active
          exact absurd active report.terminal.not_active
    · next other =>
        apply before.steady runKept
        rcases rowMove with rfl | ⟨op, ranOp, move⟩
        · exact Or.inl rfl
        · rw [ran, Option.some.injEq] at ranOp
          subst ranOp
          rcases scan_row_cases (books.jobs oldRow oldRowMem scan) move with
            kept | active | ⟨selected, _⟩ | reports
          · exact Or.inl kept
          · exact Or.inr active
          · exact absurd selected Report.not_recovers
          · exact absurd (Report.op_reports.mp reports) other

/-- One step of the process leaves the rows as the thread then expects them. -/
theorem pairs_step (books : world.Books) (spares : world.SparesScans action)
    (happens : world.effect action = some effect) :
    ∀ run ∈ (world.perform effect).db.scanRuns.rows,
      ∀ row ∈ (world.perform effect).db.jobs.rows, run.workerJobId = some row.id →
        effect.scanner.Expects run row := by
  cases action with
  | enqueueJob | enqueueLibraryScan | requestJobCancel | requestLibraryScanCancel | heartbeat
  | progress =>
      cases happens
      exact pairs_calm books rfl rfl trivial (Or.inl trivial)
  | kill =>
      cases happens
      intro run runMem row rowMem linked
      have before := books.pairs run runMem row rowMem linked
      cases scanner : world.scanner with
      | stopped | starting =>
          rw [scanner] at before
          exact before
      | polling =>
          rw [scanner] at before
          exact Or.inl before
      | claimed job | scanning job _ =>
          rw [scanner] at before
          unfold ScanPc.Expects at before
          dsimp only at before
          split at before
          · rcases before with ⟨active, lives | failed⟩
            · exact Or.inl (Or.inl ⟨active, lives⟩)
            · exact Or.inr ⟨active, failed⟩
          · exact Or.inl before
      | reporting job report =>
          simp [World.SparesScans, World.sparesScans, ScanPc.between, scanner] at spares
  | importStart now cut =>
      simp only [World.effect] at happens
      split at happens
      · next scanner =>
          cases happens
          exact pairs_recovered books rfl rfl (Or.inl scanner)
      · contradiction
  | importRecover now cut =>
      simp only [World.effect] at happens
      split at happens
      · next importer =>
          cases happens
          exact pairs_recovered books rfl rfl (Or.inr (by rw [importer]; simp))
      · contradiction
  | importClaim workerId now delivered =>
      simp only [World.effect] at happens
      split at happens
      case h_2 => contradiction
      split at happens
      · cases happens
        exact pairs_calm books rfl rfl trivial (Or.inr ⟨_, _, rfl⟩)
      · cases happens
        exact pairs_calm books rfl rfl trivial (Or.inr ⟨_, _, rfl⟩)
  | importBegin | importEnd | importJudge =>
      simp only [World.effect, World.importStep] at happens
      repeat' split at happens
      all_goals first | contradiction | (cases happens; exact pairs_idle books rfl rfl)
  | importRetry now stored =>
      simp only [World.effect] at happens
      split at happens
      case h_2 => contradiction
      split at happens
      · cases happens
        exact pairs_calm books rfl rfl trivial (Or.inl trivial)
      · cases happens
        exact pairs_idle books rfl rfl
  | importReport now stored =>
      simp only [World.effect] at happens
      split at happens
      case h_2 => contradiction
      next job report importer =>
        have owner : world.importer.job? = some job := by rw [importer]; rfl
        cases stored with
        | false =>
            cases happens
            exact pairs_idle books rfl rfl
        | true =>
            cases happens
            exact pairs_imported books rfl owner rfl
  | scanStart =>
      simp only [World.effect] at happens
      split at happens
      · next scanner =>
          cases happens
          intro run runMem row rowMem linked
          have before := books.pairs run runMem row rowMem linked
          rw [scanner] at before
          exact before
      · contradiction
  | scanReconcile now cut =>
      have whole : cut = none := of_decide_eq_true spares
      subst whole
      simp only [World.effect] at happens
      split at happens
      · next scanner =>
          cases happens
          exact pairs_reconciled books scanner rfl
      · contradiction
  | scanClaim workerId now delivered =>
      have told : delivered = true := spares
      subst told
      simp only [World.effect] at happens
      split at happens
      case h_2 => contradiction
      next scanner =>
        split at happens
        · next job taken =>
            cases happens
            exact pairs_claimed books scanner rfl taken rfl
        · cases happens
          exact pairs_calm books scanner.symm rfl trivial (Or.inr ⟨_, _, rfl⟩)
  | scanBegin readOk now stored =>
      have through : stored = true := spares
      subst through
      simp only [World.effect] at happens
      split at happens
      case h_2 => contradiction
      next job scanner =>
        have owner : world.scanner.job? = some job := by rw [scanner]; rfl
        rcases held_scan books owner with ⟨runId, carries, positive, _⟩
        rw [carries] at happens
        dsimp only at happens
        rw [if_neg (by omega)] at happens
        split at happens
        · cases happens
          intro run runMem row rowMem linked
          have written := pairs_written books owner carries rfl runMem rowMem linked
          unfold ScanPc.Expects
          dsimp only
          split
          · next own => exact written.1 own
          · next other =>
              rcases written.2 with ⟨old, expects, kept⟩
              rw [kept other]
              exact expects.other owner other
        · cases happens
          intro run runMem row rowMem linked
          have before := books.pairs run runMem row rowMem linked
          rw [scanner] at before
          exact before
  | scanProgress totals now =>
      simp only [World.effect] at happens
      split at happens
      case h_2 => contradiction
      next job runId scanner =>
        cases happens
        exact pairs_scanning books scanner rfl rfl active_running
  | scanObserveCancel now =>
      simp only [World.effect] at happens
      split at happens
      case h_2 => contradiction
      next job runId scanner =>
        cases happens
        exact pairs_scanning books scanner rfl rfl active_cancelling
  | scanEnd outcome totals now stored =>
      have through : stored = true := spares
      subst through
      simp only [World.effect] at happens
      split at happens
      case h_2 => contradiction
      next job runId scanner =>
        have owner : world.scanner.job? = some job := by rw [scanner]; rfl
        cases happens
        intro run runMem row rowMem linked
        have written := pairs_written books owner (books.scanning job runId scanner) rfl runMem
          rowMem linked
        rcases written.2 with ⟨old, expects, kept⟩
        unfold ScanPc.Expects
        dsimp only
        split
        · next own =>
            rw [written.1 own]
            cases outcome <;> rfl
        · next other =>
            rw [kept other]
            exact expects.other owner other
  | scanReport now stored =>
      have through : stored = true := spares
      subst through
      simp only [World.effect] at happens
      split at happens
      case h_2 => contradiction
      next job report scanner =>
        have owner : world.scanner.job? = some job := by rw [scanner]; rfl
        cases happens
        exact pairs_reported books scanner rfl

theorem scanning_step (books : world.Books) (happens : world.effect action = some effect) :
    ∀ job runId, effect.scanner = .scanning job runId → scanRunId job.payload = some runId := by
  intro job runId scanning
  cases action with
  | scanBegin readOk now stored =>
      simp only [World.effect] at happens
      split at happens
      case h_2 => contradiction
      split at happens
      · cases happens
        contradiction
      · next named =>
          split at happens
          · cases happens
            contradiction
          · split at happens
            · cases happens
              contradiction
            · cases happens
              cases scanning
              exact named
  | scanProgress | scanObserveCancel =>
      simp only [World.effect] at happens
      split at happens
      case h_2 => contradiction
      next scanner =>
        cases happens
        cases scanning
        exact books.scanning job runId scanner
  | _ =>
      simp only [World.effect, World.request, World.importStep, World.scanStep] at happens
      repeat' split at happens
      all_goals first
        | contradiction
        | (cases happens; first | contradiction | exact books.scanning job runId scanning)

/-- One step of the process keeps the books. -/
theorem books_step (books : world.Books) (spares : world.SparesScans action)
    (stepped : workers.step world action = some next) : next.Books := by
  have held := held_step books.held stepped
  simp only [workers, Option.map_eq_some_iff] at stepped
  rcases stepped with ⟨effect, happens, rfl⟩
  constructor
  · exact held
  · exact Nat.lt_of_lt_of_le books.numbered runs_nextKey_le
  · exact jobs_step books spares happens
  · exact links_step books spares happens
  · exact carried_step books spares happens
  · exact stored_step books happens
  · exact scanning_step books happens
  · exact owned_step books spares happens
  · exact pairs_step books spares happens

theorem books_initial : World.initial.Books where
  held := held_initial
  numbered := Nat.one_pos
  jobs := by simp [World.initial, Db.empty]
  links := by simp [World.initial, Db.empty]
  carried := by simp [World.initial, Db.empty]
  stored := by simp [World.executors, World.initial, ImportPc.job?, ScanPc.job?]
  scanning := by simp [World.initial]
  owned := by simp [World.initial]
  pairs := by simp [World.initial, Db.empty]

theorem scansAgree_of_books (books : world.Books) : world.ScansAgree := by
  intro run runMem row rowMem together returned
  have linked : run.workerJobId = some row.id :=
    together.elim id (books.carried run runMem row rowMem)
  have expects := books.pairs run runMem row rowMem linked
  cases scanner : world.scanner with
  | stopped => exact absurd scanner returned.1
  | starting => exact absurd scanner returned.2.1
  | polling =>
      rw [scanner] at expects
      exact expects
  | claimed job | scanning job _ | reporting job _ =>
      have owner : world.scanner.job? = some job := by rw [scanner]; rfl
      exact expects.other owner (returned.2.2 job owner)

end Steps

/-- In every run that spares the scans, a scan run and its job agree whenever the executor of
the scan has returned and the boot is done. -/
theorem scan_run_matches_job {actions : List Action} {world : World}
    (run : workers.RunWhere World.SparesScans .initial actions world) : world.ScansAgree := by
  apply scansAgree_of_books
  apply run.preserves World.Books
  · intro state action next books spares stepped
    exact books_step books spares stepped
  · exact books_initial

/-! ## A kill between the two writes -/

/-- The states of the runs and of the jobs behind them. -/
def World.scanStates (world : World) : List (JobState × Option JobState) :=
  world.db.scanRuns.rows.map fun run =>
    (run.state, (run.workerJobId.bind world.db.jobs.find?).map Job.state)

/-- The thread waits for the next scan. -/
def ScanPc.idle : ScanPc → Bool
  | .polling => true
  | _ => false

theorem returned_of_idle {scanner : ScanPc} {row : Job} (idle : scanner.idle = true) :
    scanner.Returned row := by
  cases scanner with
  | polling =>
      refine ⟨by simp, by simp, ?_⟩
      intro job held
      cases held
  | stopped | starting | claimed | scanning | reporting => contradiction

/-- The process is killed after the run was written and before the job is reported; the next
boot recovers the job and reconciles the runs. -/
def killedBeforeReport : List Action :=
  scanBeforeReport ++ [.kill, .importStart 10 none, .scanStart, .scanReconcile 10 none]

theorem scan_run_outlives_job :
    ¬∀ actions world, workers.Run .initial actions world → world.ScansAgree := by
  intro agree
  have states : (workers.exec .initial killedBeforeReport).map (fun world =>
      (world.scanStates, world.scanner.idle)) = some ([(.completed, some .failed)], true) := by
    rfl
  rcases Option.map_eq_some_iff.mp states with ⟨world, executed, found⟩
  rcases Prod.mk.inj found with ⟨pairs, idle⟩
  have apart : (JobState.completed, some JobState.failed) ∈ world.scanStates := by simp [pairs]
  rcases List.mem_map.mp apart with ⟨run, runMem, same⟩
  simp only [Prod.mk.injEq, Option.map_eq_some_iff, Option.bind_eq_some_iff,
    Table.find?_eq_some] at same
  rcases same with ⟨completed, job, ⟨jobId, linked, jobMem, rfl⟩, failed⟩
  have ended := agree _ _ (Machine.run_of_exec executed) run runMem job jobMem (.inl linked)
    (returned_of_idle idle)
  rcases ended with ⟨active, _⟩ | ⟨equal, _⟩
  · rw [completed] at active
    exact absurd active terminal_completed.not_active
  · rw [completed, failed] at equal
    contradiction

/-- The report comes before the kill. -/
def killedAfterReport : List Action :=
  scanBeforeReport ++
    [.scanReport 4 true, .kill, .importStart 10 none, .scanStart, .scanReconcile 10 none]

theorem scan_run_matches_job_killedAfterReport : ∃ world,
    workers.RunWhere World.SparesScans .initial killedAfterReport world ∧
      world.scanStates = [(.completed, some .completed)] ∧ world.ScansAgree := by
  have states : ((workers.restrict World.SparesScans).exec .initial killedAfterReport).map
      World.scanStates = some [(.completed, some .completed)] := by
    rfl
  rcases Option.map_eq_some_iff.mp states with ⟨world, executed, ended⟩
  have run := Machine.runWhere_of_exec executed
  exact ⟨world, run, ended, scan_run_matches_job run⟩

end Mintarr.Queue
