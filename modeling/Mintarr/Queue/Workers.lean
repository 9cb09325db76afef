import Mathlib.Data.List.Infix
import Mintarr.Queue.Lifecycle

/-!
# The worker threads

The process state is the database, the position of the import worker thread
(`worker._worker_loop`) and the position of the library-scan thread
(`library_scan_worker._scan_loop`).  An action is one step of a thread, of a
request handler or of a heartbeat thread; it runs at most one critical section
of the queue, so the machine refines the free queue machine.

Actions carry what the code does not decide: the clock, the executor's outcome,
and whether a database call got through (`state_db` swallows database errors and
returns its default).  Heartbeats are free actions, so they may be late, lost or
sent for a job that has ended.
-/

namespace Mintarr.Queue

open Lib JobState

/-! ## Retry policy of the import worker -/

/-- `_RETRY_BACKOFF_SEC`. -/
def retryBackoffSec : List (String × List Time) :=
  [("tidal_grab", [60, 300, 900]),
    ("sab_usenet_grab", [60, 300, 900]),
    ("qbittorrent_torrent_grab", [60, 300, 900]),
    ("promote_import", [60, 300, 900]),
    ("retry_import", [60, 300, 900])]

/-- `_TRANSIENT_ERROR_MARKERS`. -/
def transientErrorMarkers : List String :=
  ["timeout", "timed out", "temporarily unavailable", "temporary failure",
    "connection reset", "connection aborted", "connection refused", "remote disconnected",
    "service unavailable", "bad gateway", "gateway timeout", "http 500", "http 502",
    "http 503", "http 504"]

/-- `_PERMANENT_ERROR_MARKERS`. -/
def permanentErrorMarkers : List String :=
  ["missing album_id", "no executor", "verification is not retryable",
    "promote is not allowed", "retry failed with http 400", "retry failed with http 401",
    "retry failed with http 403", "retry failed with http 404",
    "retry failed with http 409", "promote failed with http 400",
    "promote failed with http 401", "promote failed with http 403",
    "promote failed with http 404", "promote failed with http 409",
    "no importable files after verification", "manualimport and rescue failed",
    "manualimport returned no candidates", "codec mismatch", "flac -t failed",
    "v2 policy block"]

/-- `str.lower` on the characters whose lower case is or contains an ASCII letter.
No other character can take part in a match with a marker. -/
def lowerChar (char : Char) : List Char :=
  if char = '\u212a' then ['k']
  else if char = '\u0130' then ['i', '\u0307']
  else [char.toLower]

/-- `any(marker in text for marker in markers)`. -/
def containsMarker (markers : List String) (text : List Char) : Bool :=
  markers.any fun marker => marker.toList <:+: text

/-- `_retry_delay_sec`. -/
def retryDelaySec (job : Job) : Time :=
  match retryBackoffSec.lookup job.type with
  | none | some [] => 0
  | some (first :: later) =>
      (first :: later).getD (min (job.attempts - 1) later.length) 0

/-- `_is_transient_failure`. -/
def isTransientFailure (job : Job) (error : String) : Bool :=
  let maxAttempts := if job.maxAttempts.getD 0 = 0 then 1 else job.maxAttempts.getD 0
  let text := error.toList.flatMap lowerChar
  (retryBackoffSec.lookup job.type).isSome && (job.attempts : Int) < maxAttempts &&
    !containsMarker permanentErrorMarkers text && containsMarker transientErrorMarkers text

/-- The job types with an executor: `worker` registers `noop` and `server` the
others before the thread starts. -/
def registeredTypes : List String :=
  ["noop", "tidal_grab", "local_grab", "soulseek_grab", "sab_usenet_grab",
    "qbittorrent_torrent_grab", "backend_completed_grab", "promote_import", "retry_import"]

/-! ## Thread positions -/

/-- The call that ends an executor invocation. -/
inductive Report where
  | completed (resultState : Option String) (result : Payload)
  | failed (errorText : String) (resultState : Option String)
  | cancelled

/-- The critical section of a report. -/
def Report.op (jobId : Nat) (now : Time) : Report → Op
  | .completed resultState result => .markJobCompleted jobId resultState result now
  | .failed errorText resultState => .markJobFailed jobId errorText resultState now
  | .cancelled => .markJobCancelled jobId now

@[simp] theorem Report.op_claimed (jobId : Nat) (now : Time) (report : Report) (db : Db) :
    (report.op jobId now).claimed db = none := by
  cases report <;> rfl

@[simp] theorem Report.op_reports {jobId other : Nat} {now : Time} {report : Report} :
    (report.op jobId now).Reports other ↔ jobId = other := by
  cases report <;> rfl

@[simp] theorem Report.not_recovers {jobId : Nat} {now : Time} {report : Report} {job : Job} :
    ¬(report.op jobId now).Recovers job := by
  cases report <;> exact id

/-- How an executor ends. -/
inductive Outcome where
  | returned (resultState : Option String) (result : Payload)
  | cancelled
  | raised (error : String)
  deriving DecidableEq

/-- Positions of the import worker thread. From `claimed` to `reporting` the
thread is inside `_execute_job`. -/
inductive ImportPc where
  | stopped
  | polling
  | claimed (job : Job)
  | executing (job : Job)
  | raised (job : Job) (error : String)
  | retrying (job : Job) (error : String)
  | reporting (job : Job) (report : Report)

/-- The job of the invocation the thread is in. -/
def ImportPc.job? : ImportPc → Option Job
  | .stopped | .polling => none
  | .claimed job | .executing job | .raised job _ | .retrying job _ | .reporting job _ =>
      some job

/-- Positions of the library-scan thread. From `claimed` to `reporting` the thread
is inside `_execute_library_scan_job`. -/
inductive ScanPc where
  | stopped
  | starting
  | polling
  | claimed (job : Job)
  | scanning (job : Job) (runId : Int)
  | reporting (job : Job) (report : Report)

/-- The job of the invocation the thread is in. -/
def ScanPc.job? : ScanPc → Option Job
  | .stopped | .starting | .polling => none
  | .claimed job | .scanning job _ | .reporting job _ => some job

/-- The process. -/
structure World where
  db : Db
  importer : ImportPc
  scanner : ScanPc

namespace World

/-- A new installation before the first boot. -/
def initial : World := ⟨.empty, .stopped, .stopped⟩

/-- The executor invocations that have not returned. -/
def executors (world : World) : List Job :=
  world.importer.job?.toList ++ world.scanner.job?.toList

end World

/-! ## Actions -/

/-- Decimal literals `int(text)` accepts, with surrounding white space. -/
def parseInt (text : String) : Option Int :=
  match (strip text).toList with
  | '+' :: digits => (String.ofList digits).toNat?.map Int.ofNat
  | _ => (strip text).toInt?

/-- `int(payload.get("run_id") or 0)`; `none` when the conversion raises. -/
def scanRunId (payload : Payload) : Option Int :=
  match payload.get? "run_id" with
  | .null => some 0
  | .int value => some value
  | .str text => if text = "" then some 0 else parseInt text

/-- How the body of a scan ends. -/
inductive ScanOutcome where
  | completed
  | cancelled
  | failed (error : String)

/-- The state the scan writes to its run. -/
def ScanOutcome.runState : ScanOutcome → JobState
  | .completed => .completed
  | .cancelled => .cancelled
  | .failed _ => .failed

/-- `{"run_id": run_id, **counters}`. -/
def scanResult (runId : Int) (totals : ScanTotals) : Payload :=
  [("run_id", .int runId), ("total_items", .int totals.totalItems),
    ("processed_items", .int totals.processedItems),
    ("measured_items", .int totals.measuredItems), ("fresh_items", .int totals.freshItems),
    ("unmeasured_items", .int totals.unmeasuredItems),
    ("error_items", .int totals.errorItems)]

/-- The report of the scan job that follows the update of its run. -/
def ScanOutcome.report (runId : Int) (totals : ScanTotals) : ScanOutcome → Report
  | .completed => .completed (some "library_scan_completed") (scanResult runId totals)
  | .cancelled => .cancelled
  | .failed error => .failed error (some "library_scan_failed")

/-- The actions of request handlers, heartbeat threads, the operating system and
the two worker threads. `stored` says whether the database call got through. -/
inductive Action where
  | enqueueJob (request : EnqueueRequest) (now : Time)
  | enqueueLibraryScan (mode : String) (requestedBy : Option String) (now : Time) (cut : Cut)
  | requestJobCancel (jobId : Nat)
  | requestLibraryScanCancel (runId : Nat) (now : Time)
  | heartbeat (jobId : Nat) (leaseSec now : Time)
  | progress (jobId : Nat) (progress : Progress) (now : Time)
  | kill
  | importStart (now : Time) (cut : Cut)
  | importRecover (now : Time) (cut : Cut)
  | importClaim (workerId : String) (now : Time) (delivered : Bool)
  | importBegin (readOk : Bool)
  | importEnd (outcome : Outcome)
  | importJudge (readOk : Bool)
  | importRetry (now : Time) (stored : Bool)
  | importReport (now : Time) (stored : Bool)
  | scanStart
  | scanReconcile (now : Time) (cut : Cut)
  | scanClaim (workerId : String) (now : Time) (delivered : Bool)
  | scanBegin (readOk : Bool) (now : Time) (stored : Bool)
  | scanProgress (totals : Option ScanTotals) (now : Time)
  | scanObserveCancel (now : Time)
  | scanEnd (outcome : ScanOutcome) (totals : ScanTotals) (now : Time) (stored : Bool)
  | scanReport (now : Time) (stored : Bool)

/-- What an action does: the critical section it runs, if any, and where it
leaves the threads. -/
structure Effect where
  op : Option Op
  importer : ImportPc
  scanner : ScanPc

namespace World

/-- The thread positions stay as they are. -/
def request (world : World) (op : Op) : Option Effect :=
  some ⟨some op, world.importer, world.scanner⟩

/-- A step of the import worker. -/
def importStep (world : World) (op : Option Op) (importer : ImportPc) : Option Effect :=
  some ⟨op, importer, world.scanner⟩

/-- A step of the scan worker. -/
def scanStep (world : World) (op : Option Op) (scanner : ScanPc) : Option Effect :=
  some ⟨op, world.importer, scanner⟩

/-- The claim the import worker issues. -/
def importRequest (workerId : String) : ClaimRequest :=
  { workerId, excludeTypes := [libraryScanJobType] }

/-- The claim the scan worker issues. -/
def scanRequest (workerId : String) : ClaimRequest :=
  { workerId, includeTypes := [libraryScanJobType] }

/-- What an action does in a process state; `none` where it is not enabled. -/
def effect (world : World) : Action → Option Effect
  | .enqueueJob request now => world.request (.enqueueJob request now)
  | .enqueueLibraryScan mode requestedBy now cut =>
      world.request (.enqueueLibraryScan mode requestedBy now cut)
  | .requestJobCancel jobId => world.request (.requestJobCancel jobId)
  | .requestLibraryScanCancel runId now =>
      world.request (.requestLibraryScanCancel runId now)
  | .heartbeat jobId leaseSec now => world.request (.heartbeatJob jobId leaseSec now)
  | .progress jobId progress now => world.request (.updateJobProgress jobId progress now)
  | .kill => some ⟨none, .stopped, .stopped⟩
  -- `server` starts the import worker, with its forced recovery, before the scan worker.
  | .importStart now cut =>
      match world.importer, world.scanner with
      | .stopped, .stopped =>
          world.importStep (some (.recoverStaleRunningJobs none true now cut)) .polling
      | _, _ => none
  | .importRecover now cut =>
      match world.importer with
      | .polling =>
          world.importStep (some (.recoverStaleRunningJobs none false now cut)) .polling
      | _ => none
  | .importClaim workerId now delivered =>
      match world.importer with
      | .polling =>
          let claim := Op.dequeueNextJob (importRequest workerId) now
          match claim.claimed world.db with
          | some job =>
              world.importStep (some claim) (if delivered then .claimed job else .polling)
          | none => world.importStep (some claim) .polling
      | _ => none
  | .importBegin readOk =>
      match world.importer with
      | .claimed job =>
          if job.type ∉ registeredTypes then
            world.importStep none
              (.reporting job (.failed s!"no executor for type={job.type}" (some "config_error")))
          else if isJobCancelRequested job.id readOk world.db then
            world.importStep none (.reporting job .cancelled)
          else world.importStep none (.executing job)
      | _ => none
  | .importEnd outcome =>
      match world.importer with
      | .executing job =>
          match outcome with
          | .returned resultState result =>
              world.importStep none (.reporting job (.completed resultState result))
          | .cancelled => world.importStep none (.reporting job .cancelled)
          | .raised error => world.importStep none (.raised job error)
      | _ => none
  | .importJudge readOk =>
      match world.importer with
      | .raised job error =>
          if !isJobCancelRequested job.id readOk world.db && isTransientFailure job error then
            world.importStep none (.retrying job error)
          else world.importStep none (.reporting job (.failed error (some "failed")))
      | _ => none
  | .importRetry now stored =>
      match world.importer with
      | .retrying job error =>
          let delaySec := retryDelaySec job
          let retry := scheduleJobRetry job.id error delaySec (some "retry_scheduled") now
          if stored && (retry world.db).2 then
            world.importStep
              (some (.scheduleJobRetry job.id error delaySec (some "retry_scheduled") now))
              .polling
          else world.importStep none (.reporting job (.failed error (some "failed")))
      | _ => none
  | .importReport now stored =>
      match world.importer with
      | .reporting job report =>
          world.importStep (if stored then some (report.op job.id now) else none) .polling
      | _ => none
  | .scanStart =>
      match world.scanner with
      | .stopped => world.scanStep none .starting
      | _ => none
  | .scanReconcile now cut =>
      match world.scanner with
      | .starting =>
          world.scanStep (some (.reconcileOrphanedLibraryScanRuns now cut)) .polling
      | _ => none
  | .scanClaim workerId now delivered =>
      match world.scanner with
      | .polling =>
          let claim := Op.dequeueNextJob (scanRequest workerId) now
          match claim.claimed world.db with
          | some job =>
              world.scanStep (some claim) (if delivered then .claimed job else .polling)
          | none => world.scanStep (some claim) .polling
      | _ => none
  | .scanBegin readOk now stored =>
      match world.scanner with
      | .claimed job =>
          match scanRunId job.payload with
          -- `int` raises outside the `try` of the executor; the loop catches it.
          | none => world.scanStep none .polling
          | some runId =>
              if runId = 0 then
                world.scanStep none
                  (.reporting job (.failed "library scan missing run_id" (some "failed")))
              else if isJobCancelRequested job.id readOk world.db then
                world.scanStep
                  (if stored then
                    some (.updateLibraryScanRunState runId .cancelled none none now) else none)
                  (.reporting job .cancelled)
              else world.scanStep none (.scanning job runId)
      | _ => none
  | .scanProgress totals now =>
      match world.scanner with
      | .scanning job runId =>
          world.scanStep (some (.updateLibraryScanRunState runId .running none totals now))
            (.scanning job runId)
      | _ => none
  | .scanObserveCancel now =>
      match world.scanner with
      | .scanning job runId =>
          world.scanStep (some (.updateLibraryScanRunState runId .cancelling none none now))
            (.scanning job runId)
      | _ => none
  | .scanEnd outcome totals now stored =>
      match world.scanner with
      | .scanning job runId =>
          let lastError := match outcome with
            | .failed error => some (truncateError error)
            | _ => none
          world.scanStep
            (if stored then
              some (.updateLibraryScanRunState runId outcome.runState lastError totals now)
            else none)
            (.reporting job (outcome.report runId totals))
      | _ => none
  | .scanReport now stored =>
      match world.scanner with
      | .reporting job report =>
          world.scanStep (if stored then some (report.op job.id now) else none) .polling
      | _ => none

/-- The process state after an effect. -/
def perform (world : World) (effect : Effect) : World where
  db := effect.op.elim world.db (Op.apply world.db)
  importer := effect.importer
  scanner := effect.scanner

end World

/-- The machine of the process. -/
def workers : Machine World Action where
  step world action := (world.effect action).map world.perform

/-! ## What a step of the process can do -/

/-- The critical section neither claims, reports nor recovers a job. -/
def Op.Background : Op → Prop
  | .dequeueNextJob .. | .markJobCompleted .. | .markJobFailed .. | .markJobCancelled ..
  | .recoverStaleRunningJobs .. => False
  | _ => True

theorem Op.Background.not_reports {op : Op} {jobId : Nat} (plain : op.Background) :
    ¬op.Reports jobId := by
  cases op <;> first | exact id | contradiction

theorem Op.Background.not_recovers {op : Op} {job : Job} (plain : op.Background) :
    ¬op.Recovers job := by
  cases op <;> first | exact id | contradiction

theorem Op.Background.claimed_eq {op : Op} (plain : op.Background) (db : Db) :
    op.claimed db = none := by
  cases op <;> first | rfl | contradiction

/-- The kinds of effects, by what they do to claimed jobs. -/
inductive Happens (world : World) (action : Action) (effect : Effect) : Prop where
  /-- No job is claimed, reported or recovered; an invocation may end. -/
  | background (op : ∀ op, effect.op = some op → op.Background)
      (importer : ∀ job, effect.importer.job? = some job → world.importer.job? = some job)
      (scanner : ∀ job, effect.scanner.job? = some job → world.scanner.job? = some job)
  /-- Forced recovery, before any thread runs. -/
  | booted (now : Time) (cut : Cut)
      (op : effect.op = some (.recoverStaleRunningJobs none true now cut))
      (importer : effect.importer.job? = none) (scanner : effect.scanner.job? = none)
  /-- Periodic recovery by the idle import worker. -/
  | swept (now : Time) (cut : Cut) (label : action = .importRecover now cut)
      (op : effect.op = some (.recoverStaleRunningJobs none false now cut))
      (importer : effect.importer.job? = none)
      (scanner : effect.scanner.job? = world.scanner.job?)
  /-- A claim by the idle import worker. -/
  | importClaimed (workerId : String) (now : Time) (idle : world.importer.job? = none)
      (op : effect.op = some (.dequeueNextJob (World.importRequest workerId) now))
      (importer : ∀ job, effect.importer.job? = some job →
        (Op.dequeueNextJob (World.importRequest workerId) now).claimed world.db = some job)
      (scanner : effect.scanner.job? = world.scanner.job?)
  /-- A claim by the idle scan worker. -/
  | scanClaimed (workerId : String) (now : Time) (idle : world.scanner.job? = none)
      (op : effect.op = some (.dequeueNextJob (World.scanRequest workerId) now))
      (importer : effect.importer.job? = world.importer.job?)
      (scanner : ∀ job, effect.scanner.job? = some job →
        (Op.dequeueNextJob (World.scanRequest workerId) now).claimed world.db = some job)
  /-- The import worker reports its job and becomes idle. -/
  | importReported (job : Job) (report : Report) (now : Time)
      (owner : world.importer.job? = some job)
      (op : effect.op = some (report.op job.id now))
      (importer : effect.importer.job? = none)
      (scanner : effect.scanner.job? = world.scanner.job?)
  /-- The scan worker reports its job and becomes idle. -/
  | scanReported (job : Job) (report : Report) (now : Time)
      (owner : world.scanner.job? = some job)
      (op : effect.op = some (report.op job.id now))
      (importer : effect.importer.job? = world.importer.job?)
      (scanner : effect.scanner.job? = none)

section Inversion

variable {world : World} {action : Action} {effect : Effect}

/-- Without a critical section there is nothing to ask of it. -/
theorem background_none : ∀ op, (none : Option Op) = some op → op.Background := by
  intro op ran
  cases ran

theorem background_some {op : Op} (plain : op.Background) :
    ∀ other, some op = some other → other.Background := by
  intro other same
  cases same
  exact plain

/-- A thread between invocations keeps no job. -/
theorem idle_keeps {owned : Option Job} :
    ∀ job, (none : Option Job) = some job → owned = some job := by
  intro job claimed
  cases claimed

/-- A request changes no thread. -/
theorem happens_request {op : Op} (happens : world.request op = some effect)
    (plain : op.Background) : Happens world action effect := by
  cases happens
  exact .background (background_some plain) (fun _ => id) fun _ => id

/-- A step inside an invocation of the import worker. -/
theorem happens_import {op : Option Op} {importer : ImportPc}
    (happens : world.importStep op importer = some effect)
    (plain : ∀ step, op = some step → step.Background)
    (keeps : ∀ job, importer.job? = some job → world.importer.job? = some job) :
    Happens world action effect := by
  cases happens
  exact .background plain keeps fun _ => id

/-- A step inside an invocation of the scan worker. -/
theorem happens_scan {op : Option Op} {scanner : ScanPc}
    (happens : world.scanStep op scanner = some effect)
    (plain : ∀ step, op = some step → step.Background)
    (keeps : ∀ job, scanner.job? = some job → world.scanner.job? = some job) :
    Happens world action effect := by
  cases happens
  exact .background plain (fun _ => id) keeps

/-- Every effect is of one of the kinds. -/
theorem effect_cases (happens : world.effect action = some effect) :
    Happens world action effect := by
  cases action with
  | enqueueJob request now => exact happens_request happens trivial
  | enqueueLibraryScan mode requestedBy now cut => exact happens_request happens trivial
  | requestJobCancel jobId => exact happens_request happens trivial
  | requestLibraryScanCancel runId now => exact happens_request happens trivial
  | heartbeat jobId leaseSec now => exact happens_request happens trivial
  | progress jobId progress now => exact happens_request happens trivial
  | kill =>
      cases happens
      exact .background background_none idle_keeps idle_keeps
  | importStart now cut =>
      simp only [World.effect] at happens
      split at happens
      · next scanner =>
          cases happens
          exact .booted now cut rfl rfl (by rw [scanner]; rfl)
      · contradiction
  | importRecover now cut =>
      simp only [World.effect] at happens
      split at happens
      · cases happens
        exact .swept now cut rfl rfl rfl rfl
      · contradiction
  | importClaim workerId now delivered =>
      simp only [World.effect] at happens
      split at happens
      case h_2 => contradiction
      next importer =>
        split at happens
        · next job claimed =>
            cases happens
            refine .importClaimed workerId now (by rw [importer]; rfl) rfl ?_ rfl
            intro other held
            cases delivered
            · contradiction
            · cases held
              exact claimed
        · cases happens
          exact .importClaimed workerId now (by rw [importer]; rfl) rfl idle_keeps rfl
  | importBegin readOk =>
      simp only [World.effect] at happens
      split at happens
      case h_2 => contradiction
      next importer =>
        split at happens
        · exact happens_import happens background_none (by rw [importer]; exact fun _ => id)
        · split at happens <;>
            exact happens_import happens background_none (by rw [importer]; exact fun _ => id)
  | importEnd outcome =>
      simp only [World.effect] at happens
      split at happens
      case h_2 => contradiction
      next importer =>
        cases outcome <;>
          exact happens_import happens background_none (by rw [importer]; exact fun _ => id)
  | importJudge readOk =>
      simp only [World.effect] at happens
      split at happens
      case h_2 => contradiction
      next importer =>
        split at happens <;>
          exact happens_import happens background_none (by rw [importer]; exact fun _ => id)
  | importRetry now stored =>
      simp only [World.effect] at happens
      split at happens
      case h_2 => contradiction
      next importer =>
        split at happens
        · exact happens_import happens (background_some trivial) idle_keeps
        · exact happens_import happens background_none (by rw [importer]; exact fun _ => id)
  | importReport now stored =>
      simp only [World.effect] at happens
      split at happens
      case h_2 => contradiction
      next job report importer =>
        cases stored with
        | false => exact happens_import happens background_none idle_keeps
        | true =>
            cases happens
            exact .importReported job report now (by rw [importer]; rfl) rfl rfl rfl
  | scanStart =>
      simp only [World.effect] at happens
      split at happens
      · exact happens_scan happens background_none idle_keeps
      · contradiction
  | scanReconcile now cut =>
      simp only [World.effect] at happens
      split at happens
      · exact happens_scan happens (background_some trivial) idle_keeps
      · contradiction
  | scanClaim workerId now delivered =>
      simp only [World.effect] at happens
      split at happens
      case h_2 => contradiction
      next scanner =>
        split at happens
        · next job claimed =>
            cases happens
            refine .scanClaimed workerId now (by rw [scanner]; rfl) rfl rfl ?_
            intro other held
            cases delivered
            · contradiction
            · cases held
              exact claimed
        · cases happens
          exact .scanClaimed workerId now (by rw [scanner]; rfl) rfl rfl idle_keeps
  | scanBegin readOk now stored =>
      simp only [World.effect] at happens
      split at happens
      case h_2 => contradiction
      next job scanner =>
        have same : world.scanner.job? = some job := by rw [scanner]; rfl
        split at happens
        · exact happens_scan happens background_none idle_keeps
        · split at happens
          · exact happens_scan happens background_none (by rw [same]; exact fun _ => id)
          · split at happens
            · refine happens_scan happens ?_ (by rw [same]; exact fun _ => id)
              cases stored
              · exact background_none
              · exact background_some trivial
            · exact happens_scan happens background_none (by rw [same]; exact fun _ => id)
  | scanProgress totals now =>
      simp only [World.effect] at happens
      split at happens
      case h_2 => contradiction
      next scanner =>
        exact happens_scan happens (background_some trivial) (by rw [scanner]; exact fun _ => id)
  | scanObserveCancel now =>
      simp only [World.effect] at happens
      split at happens
      case h_2 => contradiction
      next scanner =>
        exact happens_scan happens (background_some trivial) (by rw [scanner]; exact fun _ => id)
  | scanEnd outcome totals now stored =>
      simp only [World.effect] at happens
      split at happens
      case h_2 => contradiction
      next scanner =>
        refine happens_scan happens ?_ (by rw [scanner]; exact fun _ => id)
        cases stored
        · exact background_none
        · exact background_some trivial
  | scanReport now stored =>
      simp only [World.effect] at happens
      split at happens
      case h_2 => contradiction
      next job report scanner =>
        cases stored with
        | false => exact happens_scan happens background_none idle_keeps
        | true =>
            cases happens
            exact .scanReported job report now (by rw [scanner]; rfl) rfl rfl rfl

end Inversion

/-- A step of the process has an effect of one of the kinds. -/
theorem workers_step {world next : World} {action : Action}
    (stepped : workers.step world action = some next) :
    ∃ effect, Happens world action effect ∧ next = world.perform effect := by
  simp only [workers, Option.map_eq_some_iff] at stepped
  rcases stepped with ⟨effect, happens, rfl⟩
  exact ⟨effect, effect_cases happens, rfl⟩

/-- The process refines the free queue machine: its steps run critical sections of
the queue, one after the other. -/
theorem workers_refines {actions : List Action} {start finish : World}
    {guard : World → Action → Prop} (run : workers.RunWhere guard start actions finish) :
    ∃ ops, queue.Run start.db ops finish.db := by
  induction run with
  | nil state => exact ⟨[], .nil _⟩
  | cons _ stepped _ ih =>
      rcases ih with ⟨ops, rest⟩
      rcases workers_step stepped with ⟨effect, _, rfl⟩
      cases ran : effect.op with
      | none => exact ⟨ops, by simpa [World.perform, ran] using rest⟩
      | some op =>
          refine ⟨op :: ops, .cons trivial rfl ?_⟩
          simpa [World.perform, ran] using rest

end Mintarr.Queue
