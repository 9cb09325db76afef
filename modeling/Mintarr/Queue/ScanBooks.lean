import Mintarr.Queue.BootRecovery
import Mintarr.Queue.Cancellation

/-!
# The rows of a scan

A scan is two rows: its run, and the job that stands behind it.  This file says where the
rows come from, and what holds of them in every run that spares the scans: a link leads to
the one job that carries the run's id, a scan job is tried once, and the thread holds what it
was told.
-/

namespace Mintarr.Queue

open Lib JobState

/-- Both rows are active, or both have ended in one state. -/
def Agree (run : ScanRun) (job : Job) : Prop :=
  (run.state.Active ∧ job.state.Active) ∨ (run.state = job.state ∧ job.state.Terminal)

/-- The state that a report gives to its job. -/
def Report.state : Report → JobState
  | .completed .. => .completed
  | .failed .. => .failed
  | .cancelled => .cancelled

/-- What a run and its job may be while the scan thread is at a position. -/
def ScanPc.Expects (run : ScanRun) (row : Job) : ScanPc → Prop
  -- The reconcile pass is still to come.
  | .stopped | .starting => Agree run row ∨ (run.state.Active ∧ row.state = .failed)
  | .polling => Agree run row
  | .claimed job | .scanning job _ =>
      if job.id = row.id then run.state.Active ∧ (row.state.Active ∨ row.state = .failed)
      else Agree run row
  | .reporting job report =>
      if job.id = row.id then run.state = report.state else Agree run row

/-- The thread is between two scans, or the scan is not this one. -/
def ScanPc.Returned (row : Job) (scanner : ScanPc) : Prop :=
  scanner ≠ .stopped ∧ scanner ≠ .starting ∧ ∀ job, scanner.job? = some job → job.id ≠ row.id

/-- The job carries the id of the run. -/
def Job.Carries (run : ScanRun) (job : Job) : Prop :=
  job.type = libraryScanJobType ∧ scanRunId job.payload = some (run.id : Int)

/-- Once the executor of a scan has returned and the boot is done, run and job agree; they belong
together by the link of the run or by the id that the job carries. -/
def World.ScansAgree (world : World) : Prop :=
  ∀ run ∈ world.db.scanRuns.rows, ∀ job ∈ world.db.jobs.rows,
    run.workerJobId = some job.id ∨ job.Carries run → world.scanner.Returned job → Agree run job

/-- The run is written and the job is not yet reported. -/
def ScanPc.between : ScanPc → Bool
  | .reporting .. => true
  | _ => false

/-- The process is not killed between the two writes, and those writes, the claim, the
forced recovery and the reconcile pass go through.  Scans are enqueued by
`enqueue_library_scan` alone, as in `server`, which is not cut off between the job and its link. -/
def World.sparesScans (world : World) : Action → Bool
  | .enqueueJob request _ => request.type ≠ libraryScanJobType
  | .enqueueLibraryScan _ _ _ cut => cut ≠ some 2
  | .kill => !world.scanner.between
  | .importStart _ cut | .scanReconcile _ cut => cut = none
  | .scanClaim _ _ delivered => delivered
  | .scanBegin _ _ stored | .scanEnd _ _ _ stored | .scanReport _ stored => stored
  | _ => true

/-- The guard of the runs that spare the scans. -/
abbrev World.SparesScans (world : World) (action : Action) : Prop :=
  world.sparesScans action = true

/-! ## The rows of `enqueue_library_scan` -/

/-- How far a request for a scan gets. -/
theorem enqueueLibraryScan_cases (mode : String) (requestedBy : Option String) (now : Time)
    (cut : Cut) (db : Db) :
    let inserted := insertScanRun (normalizeScanMode mode) requestedBy now db
    let backed := insertScanJob (normalizeScanMode mode) db.scanRuns.nextKey now inserted
    enqueueLibraryScan mode requestedBy now cut db = db ∨
      enqueueLibraryScan mode requestedBy now cut db = inserted ∨
      (cut = some 2 ∧ enqueueLibraryScan mode requestedBy now cut db = backed) ∨
      enqueueLibraryScan mode requestedBy now cut db =
        linkScanJob db.scanRuns.nextKey db.jobs.nextKey now backed := by
  intro inserted backed
  unfold enqueueLibraryScan
  split
  · exact Or.inl rfl
  · cases cut with
    | none => exact Or.inr (Or.inr (Or.inr rfl))
    | some count =>
        rcases count with _ | _ | _ | count
        · exact Or.inl rfl
        · exact Or.inr (Or.inl rfl)
        · exact Or.inr (Or.inr (Or.inl ⟨rfl, rfl⟩))
        · right; right; right
          simp only [Cut.keep, List.take_succ_cons, List.take_nil]
          rfl

/-- Where a scan job is inserted, its run is. -/
theorem nextKey_of_inserted {mode : String} {requestedBy : Option String} {now : Time}
    {cut : Cut} {db : Db}
    (grown : (enqueueLibraryScan mode requestedBy now cut db).jobs.nextKey ≠ db.jobs.nextKey) :
    (enqueueLibraryScan mode requestedBy now cut db).scanRuns.nextKey =
      db.scanRuns.nextKey + 1 := by
  rcases enqueueLibraryScan_cases mode requestedBy now cut db with same | same | ⟨_, same⟩ | same
  · rw [same] at grown
    contradiction
  · rw [same] at grown
    exact absurd rfl grown
  · rw [same]
    rfl
  · rw [same]
    rfl

/-! ## What a critical section does to a run -/

/-- How a critical section may move the state of a run. -/
inductive RunMoves (op : Op) (old next : ScanRun) : Prop where
  | kept (state : next.state = old.state)
  | cancelling (was : old.state.Active) (state : next.state.Active)
  | written (runId : Int) (state : JobState) (lastError : Option String)
      (totals : Option ScanTotals) (now : Time)
      (ran : op = .updateLibraryScanRunState runId state lastError totals now)
      (mine : (old.id : Int) = runId) (written : next.state = state)
  | abandoned (now : Time) (cut : Cut) (ran : op = .reconcileOrphanedLibraryScanRuns now cut)
      (was : old.state.Active) (state : next.state = .failed)

/-- Where a run comes from. -/
inductive RunOrigin (op : Op) (db : Db) (next : ScanRun) : Prop where
  | moved (old : ScanRun) (mem : old ∈ db.scanRuns.rows) (sameId : next.id = old.id)
      (link : next.workerJobId = old.workerJobId) (move : RunMoves op old next)
  | inserted (mode : String) (requestedBy : Option String) (now : Time) (cut : Cut)
      (ran : op = .enqueueLibraryScan mode requestedBy now cut)
      (id : next.id = db.scanRuns.nextKey) (state : next.state = .queued)
      (link : ∀ jobId, next.workerJobId = some jobId →
        jobId = db.jobs.nextKey ∧ (op.apply db).jobs.nextKey = db.jobs.nextKey + 1)

/-- A run that no critical section touches. -/
theorem RunOrigin.of_mem {op : Op} {db : Db} {run : ScanRun} (mem : run ∈ db.scanRuns.rows) :
    RunOrigin op db run := .moved run mem rfl rfl (.kept rfl)

theorem runOrigin_insert {db : Db} {mode : String} {requestedBy : Option String}
    {now : Time} {next : ScanRun}
    (mem : next ∈ (insertScanRun mode requestedBy now db).scanRuns.rows) :
    next ∈ db.scanRuns.rows ∨ next.id = db.scanRuns.nextKey ∧ next.state = .queued ∧
      next.workerJobId = none := by
  rcases Table.mem_insert.mp mem with stored | rfl
  · exact Or.inl stored
  · exact Or.inr ⟨rfl, rfl, rfl⟩

theorem runOrigin_enqueue {mode : String} {requestedBy : Option String} {now : Time}
    {cut : Cut} {db : Db} {next : ScanRun}
    (mem : next ∈ (enqueueLibraryScan mode requestedBy now cut db).scanRuns.rows) :
    RunOrigin (.enqueueLibraryScan mode requestedBy now cut) db next := by
  have unlinked : next ∈ db.scanRuns.rows ∨ next.id = db.scanRuns.nextKey ∧
      next.state = .queued ∧ next.workerJobId = none →
      RunOrigin (.enqueueLibraryScan mode requestedBy now cut) db next := by
    rintro (stored | ⟨id, state, link⟩)
    · exact .of_mem stored
    · refine .inserted mode requestedBy now cut rfl id state ?_
      intro jobId linked
      rw [link] at linked
      contradiction
  rcases enqueueLibraryScan_cases mode requestedBy now cut db with same | same | ⟨_, same⟩ | same
  · rw [same] at mem
    exact .of_mem mem
  · rw [same] at mem
    exact unlinked (runOrigin_insert mem)
  · rw [same] at mem
    exact unlinked (runOrigin_insert mem)
  · have grown : ((Op.enqueueLibraryScan mode requestedBy now cut).apply db).jobs.nextKey =
        db.jobs.nextKey + 1 := by
      simp only [Op.apply, same]
      rfl
    rw [same] at mem
    simp only [linkScanJob, Table.mem_update] at mem
    rcases mem with ⟨old, oldMem, rfl⟩
    rcases runOrigin_insert oldMem with stored | ⟨id, state, link⟩
    · -- An older run has an older id.
      have older : old.id ≠ db.scanRuns.nextKey := Nat.ne_of_lt (db.scanRuns.fresh old stored)
      rw [if_neg (by simp [older])]
      exact .of_mem stored
    · rw [if_pos (by simp [id])]
      refine .inserted mode requestedBy now cut rfl id state ?_
      intro jobId linked
      cases linked
      exact ⟨rfl, grown⟩

/-- Where the runs come from after a critical section. -/
theorem runOrigin (op : Op) (db : Db) {next : ScanRun}
    (mem : next ∈ (op.apply db).scanRuns.rows) : RunOrigin op db next := by
  cases op with
  | enqueueJob request now =>
      apply RunOrigin.of_mem
      simp only [Op.apply, enqueueJob] at mem
      repeat' split at mem
      all_goals exact mem
  | dequeueNextJob request now =>
      apply RunOrigin.of_mem
      rcases dequeueNextJob_cases request now db with idle | ⟨_, _, _, claim⟩
      · simpa only [Op.apply, idle] using mem
      · simpa only [Op.apply, claim] using mem
  | enqueueLibraryScan mode requestedBy now cut => exact runOrigin_enqueue mem
  | updateLibraryScanRunState runId state lastError totals now =>
      simp only [Op.apply, updateLibraryScanRunState, Table.mem_update] at mem
      rcases mem with ⟨old, oldMem, rfl⟩
      split
      · next mine =>
          exact .moved old oldMem rfl rfl
            (.written runId state lastError totals now rfl (of_decide_eq_true mine) rfl)
      · exact .of_mem oldMem
  | requestLibraryScanCancel runId now =>
      simp only [Op.apply, requestLibraryScanCancel] at mem
      split at mem
      · exact .of_mem mem
      · next run found =>
          split at mem
          · next active =>
              simp only [Table.mem_update] at mem
              rcases mem with ⟨old, oldMem, rfl⟩
              split
              · refine .moved old oldMem rfl rfl ?_
                by_cases running : old.state = .running
                · exact .cancelling (running ▸ active_running) (by simp [running])
                · exact .kept (by simp [running])
              · exact .of_mem oldMem
          · exact .of_mem mem
  | reconcileOrphanedLibraryScanRuns now cut =>
      have sub : (cut.keep (orphanedRuns db)).Sublist db.scanRuns.rows :=
        (cut.keep_sublist _).trans (List.filter_sublist.trans List.filter_sublist)
      simp only [Op.apply, reconcileOrphanedLibraryScanRuns] at mem
      rw [Table.mem_updateEach (Table.nodup_keys_of_sublist sub)
        fun item itemMem => sub.subset itemMem] at mem
      rcases mem with ⟨stored, _⟩ | ⟨orphan, orphanMem, rfl⟩
      · exact .of_mem stored
      · have active : orphan.state.Active := by
          have listed := Cut.mem_of_mem_keep orphanMem
          simp only [orphanedRuns, List.mem_filter, decide_eq_true_eq] at listed
          exact listed.1.2
        exact .moved orphan (sub.subset orphanMem) rfl rfl (.abandoned now cut rfl active rfl)
  | heartbeatJob | updateJobProgress | markJobCompleted | markJobFailed | markJobCancelled
  | scheduleJobRetry | requestJobCancel | recoverStaleRunningJobs => exact .of_mem mem

/-! ## The books of the scans -/

/-- A scan job: it is tried once, and it carries the id of its run. -/
structure Job.Scan (db : Db) (row : Job) : Prop where
  limit : row.maxAttempts = some libraryScanMaxAttempts
  claimed : row.state = .running ∨ row.state = .cancelling → 0 < row.attempts
  run : ∃ runId : Nat, scanRunId row.payload = some (runId : Int) ∧ 0 < runId ∧
    runId < db.scanRuns.nextKey

/-- The link of a run leads to the one job that carries its id. -/
structure ScanRun.Linked (db : Db) (run : ScanRun) (jobId : Nat) : Prop where
  inserted : jobId < db.jobs.nextKey
  forth : ∀ row ∈ db.jobs.rows, row.id = jobId →
    row.type = libraryScanJobType ∧ scanRunId row.payload = some (run.id : Int)
  back : ∀ row ∈ db.jobs.rows, row.type = libraryScanJobType →
    scanRunId row.payload = some (run.id : Int) → row.id = jobId

/-- What holds of scans in every run that spares them. -/
structure World.Books (world : World) : Prop where
  held : world.Held
  numbered : 0 < world.db.scanRuns.nextKey
  jobs : ∀ row ∈ world.db.jobs.rows, row.type = libraryScanJobType → row.Scan world.db
  links : ∀ run ∈ world.db.scanRuns.rows, ∀ jobId, run.workerJobId = some jobId →
    run.Linked world.db jobId
  /-- The run whose id a job carries is linked to it. -/
  carried : ∀ run ∈ world.db.scanRuns.rows, ∀ row ∈ world.db.jobs.rows, row.Carries run →
    run.workerJobId = some row.id
  stored : ∀ job ∈ world.executors, ∃ row ∈ world.db.jobs.rows,
    row.id = job.id ∧ row.work = job.work
  scanning : ∀ job runId, world.scanner = .scanning job runId →
    scanRunId job.payload = some runId
  /-- The sweeps of a running import worker find no scan but the one that is running. -/
  owned : world.importer ≠ .stopped → ∀ row ∈ world.db.jobs.rows,
    row.type = libraryScanJobType → row.state = .running →
      ∃ job, world.scanner.job? = some job ∧ job.id = row.id
  pairs : ∀ run ∈ world.db.scanRuns.rows, ∀ row ∈ world.db.jobs.rows,
    run.workerJobId = some row.id → world.scanner.Expects run row

section Steps

variable {world next : World} {action : Action} {effect : Effect}

theorem payload_of_work {old row : Job} (work : row.work = old.work) :
    row.payload = old.payload := congrArg Work.payload work

theorem type_of_work {old row : Job} (work : row.work = old.work) : row.type = old.type :=
  congrArg Work.type work

/-- Where a job row comes from. -/
theorem row_origin {row : Job} (rowMem : row ∈ (world.perform effect).db.jobs.rows) :
    (∃ old ∈ world.db.jobs.rows, row.id = old.id ∧ row.work = old.work ∧
        (row = old ∨ ∃ op, effect.op = some op ∧ Moves op old row)) ∨
      ∃ op, effect.op = some op ∧ op.Inserts world.db row := by
  cases ran : effect.op with
  | none =>
      have same : (world.perform effect).db = world.db := by simp [World.perform, ran]
      rw [same] at rowMem
      exact Or.inl ⟨row, rowMem, rfl, rfl, Or.inl rfl⟩
  | some op =>
      have same : (world.perform effect).db = op.apply world.db := by simp [World.perform, ran]
      rw [same] at rowMem
      rcases (op.evolves world.db).back row rowMem with ⟨old, oldMem, sameId, move⟩ | ⟨_, inserts⟩
      · exact Or.inl ⟨old, oldMem, sameId.symm, move.work, Or.inr ⟨op, rfl, move⟩⟩
      · exact Or.inr ⟨op, rfl, inserts⟩

/-- Where a run comes from. -/
theorem run_origin {run : ScanRun} (runMem : run ∈ (world.perform effect).db.scanRuns.rows) :
    (∃ old ∈ world.db.scanRuns.rows, run.id = old.id ∧ run.workerJobId = old.workerJobId ∧
        (run = old ∨ ∃ op, effect.op = some op ∧ RunMoves op old run)) ∨
      run.id = world.db.scanRuns.nextKey ∧ run.state = .queued ∧
        (∃ mode requestedBy now cut,
          effect.op = some (.enqueueLibraryScan mode requestedBy now cut)) ∧
        ∀ jobId, run.workerJobId = some jobId → jobId = world.db.jobs.nextKey ∧
          (world.perform effect).db.jobs.nextKey = world.db.jobs.nextKey + 1 := by
  cases ran : effect.op with
  | none =>
      have same : (world.perform effect).db = world.db := by simp [World.perform, ran]
      rw [same] at runMem
      exact Or.inl ⟨run, runMem, rfl, rfl, Or.inl rfl⟩
  | some op =>
      have same : (world.perform effect).db = op.apply world.db := by simp [World.perform, ran]
      rw [same] at runMem ⊢
      rcases runOrigin op world.db runMem with ⟨old, oldMem, sameId, link, move⟩ |
        ⟨mode, requestedBy, now, cut, rfl, id, state, link⟩
      · exact Or.inl ⟨old, oldMem, sameId, link, Or.inr ⟨op, rfl, move⟩⟩
      · exact Or.inr ⟨id, state, ⟨mode, requestedBy, now, cut, rfl⟩, link⟩

theorem runs_nextKey_le : world.db.scanRuns.nextKey ≤
    (world.perform effect).db.scanRuns.nextKey := by
  cases ran : effect.op with
  | none => simp [World.perform, ran]
  | some op => simpa [World.perform, ran] using scanRuns_nextKey_le op world.db

theorem jobs_nextKey_le : world.db.jobs.nextKey ≤ (world.perform effect).db.jobs.nextKey := by
  cases ran : effect.op with
  | none => simp [World.perform, ran]
  | some op => simpa [World.perform, ran] using (op.evolves world.db).nextKey_le

/-- A scan job that is inserted carries the id of the run that is inserted with it. -/
theorem scan_inserted (spares : world.SparesScans action)
    (happens : world.effect action = some effect) {op : Op} {row : Job}
    (rowMem : row ∈ (world.perform effect).db.jobs.rows) (ran : effect.op = some op)
    (inserts : op.Inserts world.db row) (scan : row.type = libraryScanJobType) :
    row.state = .queued ∧ row.id = world.db.jobs.nextKey ∧
      row.maxAttempts = some libraryScanMaxAttempts ∧
      scanRunId row.payload = some (world.db.scanRuns.nextKey : Int) ∧
      world.db.scanRuns.nextKey < (world.perform effect).db.scanRuns.nextKey := by
  cases op with
  | enqueueJob request now =>
      have label := enqueued_by happens ran
      subst label
      rw [inserts.1] at scan
      exact absurd scan (of_decide_eq_true spares)
  | enqueueLibraryScan mode requestedBy now cut =>
      have same : (world.perform effect).db =
          enqueueLibraryScan mode requestedBy now cut world.db := by
        simp [World.perform, ran, Op.apply]
      rw [same] at rowMem ⊢
      have fresh := Table.fresh _ row rowMem
      rcases inserts with ⟨rfl, _⟩
      have grown := nextKey_of_inserted (Nat.ne_of_gt fresh)
      exact ⟨rfl, rfl, rfl, scanRunId_scanJob .., by rw [grown]; exact Nat.lt_succ_self _⟩
  | _ => exact inserts.elim

theorem jobs_step (books : world.Books) (spares : world.SparesScans action)
    (happens : world.effect action = some effect) :
    ∀ row ∈ (world.perform effect).db.jobs.rows, row.type = libraryScanJobType →
      row.Scan (world.perform effect).db := by
  intro row rowMem scan
  rcases row_origin rowMem with ⟨old, oldMem, _, work, move⟩ | ⟨op, ran, inserts⟩
  · have type : row.type = old.type := type_of_work work
    have before := books.jobs old oldMem (type ▸ scan)
    constructor
    · exact (congrArg Work.maxAttempts work).trans before.limit
    · rcases move with rfl | ⟨op, _, move⟩
      · exact before.claimed
      · intro active
        cases move.transition with
        | kept state _ attempts =>
            rw [attempts]
            exact before.claimed (state ▸ active)
        | claimed _ _ attempts =>
            rw [attempts]
            exact Nat.succ_pos _
        | cancelling was _ attempts =>
            rw [attempts]
            exact before.claimed (Or.inl was)
        | retried _ _ state | requeued _ _ _ state | exhausted _ _ _ state =>
            rw [state] at active
            simp at active
        | reported _ terminal =>
            rcases active with state | state
            · exact absurd (state ▸ active_running) terminal.not_active
            · exact absurd (state ▸ active_cancelling) terminal.not_active
    · rcases before.run with ⟨runId, carries, positive, below⟩
      refine ⟨runId, ?_, positive, Nat.lt_of_lt_of_le below runs_nextKey_le⟩
      rw [payload_of_work work]
      exact carries
  · rcases scan_inserted spares happens rowMem ran inserts scan with
      ⟨state, _, limit, carries, below⟩
    refine ⟨limit, ?_, _, carries, books.numbered, below⟩
    intro active
    rw [state] at active
    simp at active

theorem links_step (books : world.Books) (spares : world.SparesScans action)
    (happens : world.effect action = some effect) :
    ∀ run ∈ (world.perform effect).db.scanRuns.rows, ∀ jobId, run.workerJobId = some jobId →
      run.Linked (world.perform effect).db jobId := by
  intro run runMem jobId linked
  rcases run_origin runMem with ⟨old, oldMem, sameId, link, _⟩ |
    ⟨id, _, ⟨mode, requestedBy, now, cut, enqueued⟩, fresh⟩
  · have before := books.links old oldMem jobId (link ▸ linked)
    constructor
    · exact Nat.lt_of_lt_of_le before.inserted jobs_nextKey_le
    · intro row rowMem own
      rcases row_origin rowMem with ⟨stored, storedMem, rowId, work, _⟩ | ⟨op, ran, inserts⟩
      · have forth := before.forth stored storedMem (rowId ▸ own)
        exact ⟨(type_of_work work).trans forth.1,
          by rw [payload_of_work work, sameId]; exact forth.2⟩
      · have newer := inserts.fresh.2.2
        have older := before.inserted
        omega
    · intro row rowMem scan carries
      rcases row_origin rowMem with ⟨stored, storedMem, rowId, work, _⟩ | ⟨op, ran, inserts⟩
      · rw [rowId]
        apply before.back stored storedMem ((type_of_work work).symm.trans scan)
        rw [← payload_of_work work, ← sameId]
        exact carries
      · -- The inserted job carries a newer id.
        have newer := (scan_inserted spares happens rowMem ran inserts scan).2.2.2.1
        have older := world.db.scanRuns.fresh old oldMem
        rw [newer, sameId, Option.some.injEq, Nat.cast_inj] at carries
        omega
  · rcases fresh jobId linked with ⟨rfl, grown⟩
    constructor
    · omega
    · intro row rowMem own
      rcases row_origin rowMem with ⟨stored, storedMem, rowId, _⟩ | ⟨op, ran, inserts⟩
      · have older := world.db.jobs.fresh stored storedMem
        omega
      · have scan : row.type = libraryScanJobType := by
          rw [enqueued, Option.some.injEq] at ran
          rw [← ran] at inserts
          rw [inserts.1]
          rfl
        rw [id]
        exact ⟨scan, (scan_inserted spares happens rowMem ran inserts scan).2.2.2.1⟩
    · intro row rowMem scan carries
      rcases row_origin rowMem with ⟨stored, storedMem, rowId, work, _⟩ | ⟨op, ran, inserts⟩
      · have type : stored.type = libraryScanJobType := (type_of_work work).symm.trans scan
        rcases (books.jobs stored storedMem type).run with ⟨runId, own, _, older⟩
        rw [payload_of_work work, own, id, Option.some.injEq, Nat.cast_inj] at carries
        omega
      · exact inserts.fresh.2.2

/-- A run and a job that one request inserts are linked. -/
theorem linked_of_inserted (spares : world.SparesScans action)
    (happens : world.effect action = some effect) {mode : String} {requestedBy : Option String}
    {now : Time} {cut : Cut}
    (enqueued : effect.op = some (.enqueueLibraryScan mode requestedBy now cut)) {run : ScanRun}
    (runMem : run ∈ (world.perform effect).db.scanRuns.rows)
    (runNew : run.id = world.db.scanRuns.nextKey) {row : Job}
    (rowMem : row ∈ (world.perform effect).db.jobs.rows)
    (rowNew : row.id = world.db.jobs.nextKey) : run.workerJobId = some row.id := by
  have whole : cut ≠ some 2 := by
    have label := scanEnqueued_by happens enqueued
    subst label
    exact of_decide_eq_true spares
  have same : (world.perform effect).db =
      enqueueLibraryScan mode requestedBy now cut world.db := by
    simp [World.perform, enqueued, Op.apply]
  rw [same] at runMem rowMem
  rcases enqueueLibraryScan_cases mode requestedBy now cut world.db with
    kept | inserted | ⟨short, _⟩ | linked
  · rw [kept] at runMem
    have older := world.db.scanRuns.fresh run runMem
    omega
  · rw [inserted] at rowMem
    have older := world.db.jobs.fresh row rowMem
    omega
  · exact absurd short whole
  · rw [linked] at runMem
    simp only [linkScanJob, Table.mem_update] at runMem
    rcases runMem with ⟨old, _, rfl⟩
    by_cases own : (decide (old.id = world.db.scanRuns.nextKey)) = true
    · simp only [if_pos own, rowNew]
    · rw [if_neg own] at runNew
      exact absurd (decide_eq_true runNew) own

theorem carried_step (books : world.Books) (spares : world.SparesScans action)
    (happens : world.effect action = some effect) :
    ∀ run ∈ (world.perform effect).db.scanRuns.rows,
      ∀ row ∈ (world.perform effect).db.jobs.rows, row.Carries run →
        run.workerJobId = some row.id := by
  intro run runMem row rowMem carries
  rcases run_origin runMem with ⟨old, oldMem, sameId, link, _⟩ |
    ⟨id, _, ⟨mode, requestedBy, now, cut, enqueued⟩, _⟩
  · rcases row_origin rowMem with ⟨stored, storedMem, rowId, work, _⟩ | ⟨op, ran, inserts⟩
    · rw [link, rowId]
      apply books.carried old oldMem stored storedMem
      constructor
      · exact (type_of_work work).symm.trans carries.1
      · rw [← payload_of_work work, ← sameId]
        exact carries.2
    · -- The inserted job carries a newer id.
      have newer := (scan_inserted spares happens rowMem ran inserts carries.1).2.2.2.1
      have older := world.db.scanRuns.fresh old oldMem
      rw [carries.2, sameId, Option.some.injEq, Nat.cast_inj] at newer
      omega
  · rcases row_origin rowMem with ⟨stored, storedMem, rowId, work, _⟩ | ⟨op, ran, inserts⟩
    · have scan : stored.type = libraryScanJobType := (type_of_work work).symm.trans carries.1
      rcases (books.jobs stored storedMem scan).run with ⟨runId, own, _, older⟩
      have same := carries.2
      rw [payload_of_work work, own, id, Option.some.injEq, Nat.cast_inj] at same
      omega
    · exact linked_of_inserted spares happens enqueued runMem id rowMem inserts.fresh.2.2

theorem stored_step (books : world.Books) (happens : world.effect action = some effect) :
    ∀ job ∈ (world.perform effect).executors, ∃ row ∈ (world.perform effect).db.jobs.rows,
      row.id = job.id ∧ row.work = job.work := by
  intro job jobMem
  rcases held_cases happens jobMem with kept | ⟨request, now, op, claimed⟩
  · have before : job ∈ world.executors :=
      World.mem_executors.mpr (kept.imp And.left And.left)
    rcases books.stored job before with ⟨row, rowMem, sameId, work⟩
    rcases perform_forth effect rowMem with ⟨next, nextMem, nextId, rfl | ⟨_, _, move⟩⟩
    · exact ⟨next, nextMem, sameId, work⟩
    · exact ⟨next, nextMem, nextId.trans sameId, move.work.trans work⟩
  · exact ⟨job, perform_claimed op claimed, rfl, rfl⟩

/-! ## The thread and its scan -/

/-- The scan that the thread holds is the one behind its run. -/
theorem held_scan (books : world.Books) {job : Job} (owner : world.scanner.job? = some job) :
    ∃ runId : Nat, scanRunId job.payload = some (runId : Int) ∧ 0 < runId ∧
      job.id < world.db.jobs.nextKey ∧
      ∀ run ∈ world.db.scanRuns.rows, ∀ row ∈ world.db.jobs.rows,
        run.workerJobId = some row.id → (run.id = runId ↔ job.id = row.id) := by
  rcases books.stored job (World.mem_executors.mpr (Or.inr owner)) with
    ⟨stored, storedMem, sameId, work⟩
  have scan : stored.type = libraryScanJobType :=
    (type_of_work work).trans (books.held.scanner job owner).1
  rcases (books.jobs stored storedMem scan).run with ⟨runId, carries, positive, _⟩
  have payload := payload_of_work work
  refine ⟨runId, payload ▸ carries, positive, ?_, ?_⟩
  · rw [← sameId]
    exact world.db.jobs.fresh stored storedMem
  · intro run runMem row rowMem linked
    have link := books.links run runMem row.id linked
    constructor
    · intro same
      rw [← sameId]
      apply link.back stored storedMem scan
      rw [same]
      exact carries
    · intro same
      have own := (link.forth stored storedMem (sameId.trans same)).2
      rw [carries, Option.some.injEq, Nat.cast_inj] at own
      exact own.symm

/-- The state of a job whose report went through. -/
theorem reported_state {report : Report} {jobId : Nat} {now : Time} {row : Job}
    (ran : effect.op = some (report.op jobId now))
    (rowMem : row ∈ (world.perform effect).db.jobs.rows) (mine : row.id = jobId) :
    row.state = report.state := by
  have same : (world.perform effect).db = (report.op jobId now).apply world.db := by
    simp [World.perform, ran]
  rw [same] at rowMem
  cases report with
  | completed resultState result =>
      simp only [Report.op, Op.apply, markJobCompleted, Table.mem_update] at rowMem
      rcases rowMem with ⟨old, _, rfl⟩
      by_cases own : old.id = jobId
      · simp [own, Report.state]
      · simp [own] at mine
  | failed errorText resultState =>
      simp only [Report.op, Op.apply, markJobFailed, Table.mem_update] at rowMem
      rcases rowMem with ⟨old, _, rfl⟩
      by_cases own : old.id = jobId
      · simp [own, Report.state]
      · simp [own] at mine
  | cancelled =>
      simp only [Report.op, Op.apply, markJobCancelled, Table.mem_update] at rowMem
      rcases rowMem with ⟨old, _, rfl⟩
      by_cases own : old.id = jobId
      · simp [own, Report.state]
      · simp [own] at mine

theorem Report.terminal (report : Report) : report.state.Terminal := by
  cases report with
  | completed => exact terminal_completed
  | failed => exact terminal_failed
  | cancelled => exact terminal_cancelled

/-- A scan goes on, unless the process is killed or the scan is reported. -/
theorem scan_goes_on (books : world.Books) (spares : world.SparesScans action)
    (happens : world.effect action = some effect) {job : Job}
    (owner : world.scanner.job? = some job) :
    effect.scanner.job? = some job ∨ effect.importer = .stopped ∨
      ∃ report now, effect.op = some (Report.op job.id now report) := by
  cases action with
  | kill =>
      cases happens
      exact Or.inr (Or.inl rfl)
  | scanStart | scanReconcile | scanClaim =>
      simp only [World.effect] at happens
      split at happens
      · next scanner =>
          rw [scanner] at owner
          contradiction
      · contradiction
  | scanBegin readOk now stored =>
      rcases held_scan books owner with ⟨runId, carries, positive, _⟩
      simp only [World.effect] at happens
      split at happens
      case h_2 => contradiction
      next held scanner =>
        have same : world.scanner.job? = some held := by rw [scanner]; rfl
        rw [same, Option.some.injEq] at owner
        subst owner
        rw [carries] at happens
        dsimp only at happens
        split at happens
        · cases happens
          exact Or.inl rfl
        · split at happens
          · cases happens
            exact Or.inl rfl
          · cases happens
            exact Or.inl rfl
  | scanProgress | scanObserveCancel | scanEnd =>
      simp only [World.effect] at happens
      split at happens
      case h_2 => contradiction
      next scanner =>
        cases happens
        rw [scanner] at owner
        exact Or.inl owner
  | scanReport now stored =>
      simp only [World.effect] at happens
      split at happens
      case h_2 => contradiction
      next held report scanner =>
        have same : world.scanner.job? = some held := by rw [scanner]; rfl
        rw [same, Option.some.injEq] at owner
        subst owner
        have through : stored = true := spares
        subst through
        cases happens
        exact Or.inr (Or.inr ⟨report, now, rfl⟩)
  | importStart =>
      simp only [World.effect] at happens
      split at happens
      · next scanner =>
          rw [scanner] at owner
          contradiction
      · contradiction
  | _ =>
      simp only [World.effect, World.request, World.importStep] at happens
      repeat' split at happens
      all_goals first | contradiction | (cases happens; exact Or.inl owner)

/-- The import worker runs on, or it starts. -/
theorem started_by (happens : world.effect action = some effect)
    (started : effect.importer ≠ .stopped) :
    world.importer ≠ .stopped ∨ ∃ now cut, action = .importStart now cut := by
  cases action with
  | importStart now cut => exact Or.inr ⟨now, cut, rfl⟩
  | kill =>
      cases happens
      exact absurd rfl started
  | importRecover | importClaim | importBegin | importEnd | importJudge | importRetry
  | importReport =>
      left
      simp only [World.effect] at happens
      split at happens
      · next importer =>
          rw [importer]
          simp
      · contradiction
  | _ =>
      left
      simp only [World.effect, World.request, World.scanStep] at happens
      repeat' split at happens
      all_goals first | contradiction | (cases happens; exact started)

/-- What a critical section may do to the state of a scan job. -/
theorem scan_row_cases {op : Op} {db : Db} {old row : Job} (scan : old.Scan db)
    (move : Moves op old row) :
    row.state = old.state ∨ (old.state.Active ∧ row.state.Active) ∨
      (op.Recovers old ∧ old.state = .running ∧ row.state = .failed) ∨ op.Reports old.id := by
  have tried : old.state = .running ∨ old.state = .cancelling →
      ¬(old.attempts : Int) < libraryScanMaxAttempts := by
    intro active
    have claimed := scan.claimed active
    simp only [libraryScanMaxAttempts]
    omega
  cases move.transition with
  | kept state => exact Or.inl state
  | claimed was state => exact Or.inr (Or.inl ⟨was ▸ active_queued, state ▸ active_running⟩)
  | cancelling was state =>
      exact Or.inr (Or.inl ⟨was ▸ active_running, state ▸ active_cancelling⟩)
  | retried was remaining =>
      rw [scan.limit, Option.getD_some] at remaining
      exact absurd remaining (tried was)
  | requeued _ was remaining =>
      have limit : old.recoveryLimit = libraryScanMaxAttempts := by
        simp [Job.recoveryLimit, scan.limit, libraryScanMaxAttempts]
      rw [limit] at remaining
      exact absurd remaining (tried (Or.inl was))
  | exhausted selected was _ state => exact Or.inr (Or.inr (Or.inl ⟨selected, was, state⟩))
  | reported mine => exact Or.inr (Or.inr (Or.inr mine))

end Steps

end Mintarr.Queue
