import Mintarr.Queue.Job

/-!
# Queue operations of `state_db`

Each definition is one `state_db` function.  A function runs its statements in
one critical section of the module lock, so it is a function of the database;
the clock reading it takes is an argument.  Functions that swallow a database
error return their default and leave the table as the statements before the
error left it; `Cut` says which these are.
-/

namespace Mintarr.Queue

open Lib JobState

/-- `DEFAULT_LEASE_SEC`. -/
def defaultLeaseSec : Time := 300

def libraryScanJobType : String := "library_scan"
def libraryScanDedupeKey : String := "library_scan"
def libraryScanPriority : Int := 50
def libraryScanMaxAttempts : Int := 1

/-- `str(text)[:1000]`. -/
def truncateError (text : String) : String := String.ofList (text.toList.take 1000)

/-! ## Queue reads -/

/-- `find_active_job_by_dedupe`. -/
def findActiveJobByDedupe (dedupeKey : String) (db : Db) : Option Job :=
  if dedupeKey = "" then none
  else db.jobs.latest? fun job => job.dedupeKey = some dedupeKey ∧ job.state.Active

/-- `count_active_jobs`; an empty filter list is the absent filter. -/
def countActiveJobs (includeTypes excludeTypes : List String) (db : Db) : Nat :=
  db.jobs.count fun job =>
    job.state.Active ∧ (includeTypes = [] ∨ job.type ∈ includeTypes) ∧
      job.type ∉ excludeTypes

/-- `is_job_cancel_requested`; `readOk` is false when the query fails. -/
def isJobCancelRequested (jobId : Nat) (readOk : Bool) (db : Db) : Bool :=
  readOk && (db.jobs.find? jobId).any Job.cancelRequested

/-! ## Enqueue and claim -/

/-- Arguments of `enqueue_job` with their defaults. -/
structure EnqueueRequest where
  jid : String
  type : String
  payload : Payload := []
  dedupeKey : Option String := none
  sourceType : Option String := none
  sourceId : Option String := none
  priority : Int := 5
  maxAttempts : Option Int := some 3

/-- The row inserted by `enqueue_job`. -/
def EnqueueRequest.job (request : EnqueueRequest) (now : Time) (id : Nat) : Job where
  id
  jid := request.jid
  type := request.type
  state := .queued
  priority := request.priority
  createdAt := now
  maxAttempts := request.maxAttempts
  dedupeKey := request.dedupeKey
  sourceType := request.sourceType
  sourceId := request.sourceId
  payload := request.payload

@[simp] theorem EnqueueRequest.job_id (request : EnqueueRequest) (now : Time) (id : Nat) :
    (request.job now id).id = id := rfl

/-- `enqueue_job`: the new id, or the id of the newest active job with the same
non-empty dedupe key. -/
def enqueueJob (request : EnqueueRequest) (now : Time) (db : Db) : Db × Option Nat :=
  if request.jid = "" ∨ request.type = "" then (db, none)
  else
    match request.dedupeKey.bind (findActiveJobByDedupe · db) with
    | some job => (db, some job.id)
    | none =>
        ({ db with jobs := db.jobs.insert (request.job now) (request.job_id now) },
          some db.jobs.nextKey)

/-- Arguments of `dequeue_next_job`; an empty filter list is the absent filter. -/
structure ClaimRequest where
  workerId : String
  leaseSec : Time := defaultLeaseSec
  includeTypes : List String := []
  excludeTypes : List String := []

/-- The `WHERE` clause of the claim query. -/
def ClaimRequest.eligible (request : ClaimRequest) (now : Time) (job : Job) : Bool :=
  job.state = .queued ∧ job.nextAttemptAt.all (· ≤ now) ∧
    (request.includeTypes = [] ∨ job.type ∈ request.includeTypes) ∧
    job.type ∉ request.excludeTypes

theorem ClaimRequest.eligible_iff {request : ClaimRequest} {now : Time} {job : Job} :
    request.eligible now job = true ↔ job.state = .queued ∧
      job.nextAttemptAt.all (· ≤ now) = true ∧
      (request.includeTypes = [] ∨ job.type ∈ request.includeTypes) ∧
      job.type ∉ request.excludeTypes := by
  simp only [eligible, decide_eq_true_eq]

/-- The `ORDER BY` of the claim query: lowest priority number, then oldest. -/
def Job.ServedBefore (job other : Job) : Prop :=
  job.priority < other.priority ∨
    (job.priority = other.priority ∧ job.createdAt ≤ other.createdAt)

instance : DecidableRel Job.ServedBefore := fun job other =>
  inferInstanceAs (Decidable (job.priority < other.priority ∨
    (job.priority = other.priority ∧ job.createdAt ≤ other.createdAt)))

/-- The row the claim query returns. -/
def ClaimRequest.select (request : ClaimRequest) (now : Time) (db : Db) : Option Job :=
  ((db.jobs.rows.filter (request.eligible now)).insertionSort Job.ServedBefore).head?

/-- The row after the claim update. -/
def ClaimRequest.claim (request : ClaimRequest) (now : Time) (job : Job) : Job :=
  { job with
    state := .running
    startedAt := some now
    heartbeatAt := some now
    leaseExpiresAt := some (now + request.leaseSec)
    workerId := some request.workerId
    attempts := job.attempts + 1 }

@[simp] theorem ClaimRequest.claim_id (request : ClaimRequest) (now : Time) (job : Job) :
    (request.claim now job).id = job.id := rfl

@[simp] theorem ClaimRequest.claim_type (request : ClaimRequest) (now : Time) (job : Job) :
    (request.claim now job).type = job.type := rfl

/-- `dequeue_next_job`: claim the selected row and return it as re-read. -/
def dequeueNextJob (request : ClaimRequest) (now : Time) (db : Db) : Db × Option Job :=
  match request.select now db with
  | none => (db, none)
  | some job =>
      let jobs := db.jobs.update (fun row => row.id = job.id ∧ row.state = .queued)
        (request.claim now) (request.claim_id now)
      ({ db with jobs }, jobs.find? job.id)

/-! ## Reports on a claimed job -/

/-- `heartbeat_job`. -/
def heartbeatJob (jobId : Nat) (leaseSec now : Time) (db : Db) : Db :=
  { db with
    jobs := db.jobs.update (fun row => row.id = jobId ∧ row.state = .running) fun row =>
      { row with heartbeatAt := some now, leaseExpiresAt := some (now + leaseSec) } }

/-- `update_job_progress`. -/
def updateJobProgress (jobId : Nat) (progress : Progress) (now : Time) (db : Db) : Db :=
  { db with
    jobs := db.jobs.update (fun row => row.id = jobId) fun row =>
      { row with
        progress := some { progress with updatedAt := progress.updatedAt.or (some now) } } }

/-- `mark_job_completed`. -/
def markJobCompleted (jobId : Nat) (resultState : Option String) (result : Payload)
    (now : Time) (db : Db) : Db :=
  { db with
    jobs := db.jobs.update (fun row => row.id = jobId) fun row =>
      { row with
        state := .completed
        finishedAt := some now
        resultState
        result := some result
        errorText := none } }

/-- `mark_job_failed`. -/
def markJobFailed (jobId : Nat) (errorText : String) (resultState : Option String)
    (now : Time) (db : Db) : Db :=
  { db with
    jobs := db.jobs.update (fun row => row.id = jobId) fun row =>
      { row with
        state := .failed
        finishedAt := some now
        resultState
        errorText := some (truncateError errorText) } }

/-- `mark_job_cancelled`. -/
def markJobCancelled (jobId : Nat) (now : Time) (db : Db) : Db :=
  { db with
    jobs := db.jobs.update (fun row => row.id = jobId) fun row =>
      { row with
        state := .cancelled
        finishedAt := some now
        resultState := some "cancelled" } }

/-- The `WHERE` clause of `schedule_job_retry`, without the id. -/
def Job.retryable (job : Job) : Bool :=
  (job.state = .running ∨ job.state = .cancelling) ∧
    (job.attempts : Int) < job.maxAttempts.getD 1 ∧ job.cancelRequested = false

/-- `schedule_job_retry`; the result is whether a row was requeued. -/
def scheduleJobRetry (jobId : Nat) (errorText : String) (delaySec : Time)
    (resultState : Option String) (now : Time) (db : Db) : Db × Bool :=
  let retryAt := now + max 0 delaySec
  let progress : Progress :=
    { stage := "retry_wait"
      percent := 0
      message := s!"Transient failure; retrying in {(max 0 delaySec).floor}s"
      updatedAt := some now
      retryAt := some retryAt }
  let accept := fun row : Job => row.id = jobId && row.retryable
  ({ db with
      jobs := db.jobs.update accept fun row =>
        { row with
          state := .queued
          resultState
          finishedAt := none
          startedAt := none
          heartbeatAt := none
          leaseExpiresAt := none
          workerId := none
          nextAttemptAt := some retryAt
          progress := some progress
          errorText := some (truncateError errorText)
          cancelRequested := false } },
    0 < db.jobs.count accept)

/-- `request_job_cancel`; the result is whether a row was found. -/
def requestJobCancel (jobId : Nat) (db : Db) : Db × Bool :=
  let accept := fun row : Job => row.id = jobId ∧ row.state.Active
  ({ db with
      jobs := db.jobs.update (accept ·) fun row =>
        { row with
          cancelRequested := true
          state := if row.state = .running then .cancelling else row.state } },
    0 < db.jobs.count (accept ·))

/-! ## Lease recovery -/

/-- The rows selected by `recover_stale_running_jobs`: running, and either
forced or with an expired lease or, without a lease, started long ago. -/
def Job.stale (job : Job) (maxAgeSec : Option Time) (force : Bool) (now : Time) : Bool :=
  let maxAge := if maxAgeSec.getD 0 = 0 then 3600 else maxAgeSec.getD 0
  let expired :=
    match job.leaseExpiresAt with
    | some expires => decide (expires < now)
    | none => job.startedAt.any (· < now - maxAge)
  job.state = .running && (force || expired)

/-- `row["max_attempts"] or 3`. -/
def Job.recoveryLimit (job : Job) : Int :=
  if job.maxAttempts.getD 0 = 0 then 3 else job.maxAttempts.getD 0

/-- The update issued for a selected row: terminal failure at the attempt limit,
else a requeue with a short delay. -/
def Job.recover (now : Time) (selected row : Job) : Job :=
  if selected.recoveryLimit ≤ selected.attempts then
    { row with
      state := .failed
      finishedAt := some now
      resultState := some "stale"
      errorText := some "lease expired, attempts exhausted" }
  else
    { row with
      state := .queued
      startedAt := none
      heartbeatAt := none
      leaseExpiresAt := none
      workerId := none
      nextAttemptAt := some (now + 5)
      errorText := some "recovered from stale lease" }

@[simp] theorem Job.recover_id (now : Time) (selected row : Job) :
    (Job.recover now selected row).id = row.id := by
  simp only [Job.recover]
  split <;> rfl

/-- The rows one recovery pass selects. -/
def staleJobs (maxAgeSec : Option Time) (force : Bool) (now : Time) (db : Db) : List Job :=
  db.jobs.rows.filter fun job => job.stale maxAgeSec force now

/-- `recover_stale_running_jobs`. -/
def recoverStaleRunningJobs (maxAgeSec : Option Time) (force : Bool) (now : Time)
    (cut : Cut) (db : Db) : Db :=
  { db with
    jobs := db.jobs.updateEach (cut.keep (staleJobs maxAgeSec force now db))
      (Job.recover now) (Job.recover_id now) }

/-! ## Library-scan runs -/

/-- `get_active_library_scan_run`. -/
def getActiveLibraryScanRun (db : Db) : Option ScanRun :=
  db.scanRuns.latest? fun run => run.state.Active

/-- Characters `str.strip` removes. -/
def isPySpace (char : Char) : Bool :=
  char.toNat ∈ [9, 10, 11, 12, 13, 28, 29, 30, 31, 32, 133, 160, 5760, 8192, 8193, 8194,
    8195, 8196, 8197, 8198, 8199, 8200, 8201, 8202, 8232, 8233, 8239, 8287, 12288]

/-- `str.strip`. -/
def strip (text : String) : String :=
  String.ofList ((text.toList.dropWhile isPySpace).reverse.dropWhile isPySpace).reverse

/-- `(mode or "cheap").strip() or "cheap"`. -/
def normalizeScanMode (mode : String) : String :=
  let stripped := strip (if mode = "" then "cheap" else mode)
  if stripped = "" then "cheap" else stripped

/-- First statement of `enqueue_library_scan`: the run row. -/
def insertScanRun (mode : String) (requestedBy : Option String) (now : Time) (db : Db) : Db :=
  { db with
    scanRuns := db.scanRuns.insert fun id =>
      { id, mode, state := .queued, createdAt := now, updatedAt := now, requestedBy } }

/-- The job row inserted for a scan run. -/
def scanJob (mode : String) (runId : Nat) (now : Time) (id : Nat) : Job where
  id
  jid := s!"library-scan-{runId}"
  type := libraryScanJobType
  state := .queued
  priority := libraryScanPriority
  createdAt := now
  maxAttempts := some libraryScanMaxAttempts
  dedupeKey := some libraryScanDedupeKey
  sourceType := some "library"
  sourceId := some mode
  payload := [("run_id", .int runId), ("mode", .str mode)]

@[simp] theorem scanJob_id (mode : String) (runId : Nat) (now : Time) (id : Nat) :
    (scanJob mode runId now id).id = id := rfl

/-- Second statement of `enqueue_library_scan`: the backing job row. -/
def insertScanJob (mode : String) (runId : Nat) (now : Time) (db : Db) : Db :=
  { db with jobs := db.jobs.insert (scanJob mode runId now) (scanJob_id mode runId now) }

/-- Third statement of `enqueue_library_scan`: the link from the run to its job. -/
def linkScanJob (runId jobId : Nat) (now : Time) (db : Db) : Db :=
  { db with
    scanRuns := db.scanRuns.update (fun run => run.id = runId) fun run =>
      { run with workerJobId := some jobId, updatedAt := now } }

/-- `enqueue_library_scan`: reuse the newest active run, else create a run and
its backing job. -/
def enqueueLibraryScan (mode : String) (requestedBy : Option String) (now : Time)
    (cut : Cut) (db : Db) : Db :=
  match getActiveLibraryScanRun db with
  | some _ => db
  | none =>
      let mode := normalizeScanMode mode
      let runId := db.scanRuns.nextKey
      let jobId := db.jobs.nextKey
      let statements :=
        [insertScanRun mode requestedBy now, insertScanJob mode runId now,
          linkScanJob runId jobId now]
      (cut.keep statements).foldl (fun db statement => statement db) db

/-- `update_library_scan_run_state`. -/
def updateLibraryScanRunState (runId : Int) (state : JobState)
    (lastError : Option String) (totals : Option ScanTotals) (now : Time) (db : Db) : Db :=
  { db with
    scanRuns := db.scanRuns.update (fun run => run.id = runId) fun run =>
      { run with
        state
        updatedAt := now
        lastError := lastError.or run.lastError
        startedAt := if state = .running then run.startedAt.or (some now) else run.startedAt
        finishedAt := if state.Terminal then run.finishedAt.or (some now) else run.finishedAt
        totals := totals.getD run.totals } }

/-- The critical section of `request_library_scan_cancel`. The function then
calls `request_job_cancel` on the returned job in a critical section of its
own. -/
def requestLibraryScanCancel (runId : Nat) (now : Time) (db : Db) : Db × Option Nat :=
  match db.scanRuns.find? runId with
  | none => (db, none)
  | some run =>
      if run.state.Active then
        ({ db with
            scanRuns := db.scanRuns.update (fun row => row.id = runId) fun row =>
              { row with
                cancelRequested := true
                state := if row.state = .running then .cancelling else row.state
                updatedAt := now } },
          run.workerJobId)
      else (db, none)

/-- The condition under which `reconcile_orphaned_library_scan_runs` fails an
active run: no backing job, or a terminal one. -/
def ScanRun.orphaned (run : ScanRun) (db : Db) : Bool :=
  match run.workerJobId with
  | none => true
  | some jobId =>
      match db.jobs.find? jobId with
      | none => true
      | some job => job.state.Terminal

/-- The runs one reconcile pass fails. -/
def orphanedRuns (db : Db) : List ScanRun :=
  (db.scanRuns.rows.filter fun run => run.state.Active).filter fun run => run.orphaned db

/-- The update issued for an orphaned run. -/
def ScanRun.abandon (now : Time) (_selected run : ScanRun) : ScanRun :=
  { run with
    state := .failed
    finishedAt := run.finishedAt.or (some now)
    updatedAt := now
    lastError :=
      run.lastError.or (some "worker restarted; backing job no longer running") }

@[simp] theorem ScanRun.abandon_id (now : Time) (selected run : ScanRun) :
    (ScanRun.abandon now selected run).id = run.id := rfl

/-- `reconcile_orphaned_library_scan_runs`. -/
def reconcileOrphanedLibraryScanRuns (now : Time) (cut : Cut) (db : Db) : Db :=
  { db with
    scanRuns := db.scanRuns.updateEach (cut.keep (orphanedRuns db)) (ScanRun.abandon now)
      (ScanRun.abandon_id now) }

end Mintarr.Queue
