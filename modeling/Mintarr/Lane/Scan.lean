import Mintarr.Lane.Jobs

/-!
# The library-scan executor

`_execute_library_scan_job` with its two loops: the pool of the cheap tiers, and the
spectral scan, one item after the other.  The queue and the ledger of the scan swallow
their database errors, so only the inventory and the measurements raise.
-/

namespace Mintarr.Lane

open Lib

/-- `_raise_if_cancelled`; the check answers for the shutdown event as well. -/
def raiseIfCancelled (handler : Handler) : Work Unit := do
  match ← ask handler .isJobCancelRequested with
  | .ok true =>
      let _ ← ask handler (.updateScanRun .cancelling)
      throw .cancelled
  | .ok false | .error _ => pure ()

/-- The rounds of `_wait_for_import_quiet` that find import work. -/
def pauseForImports (handler : Handler) : Nat → Work Unit
  | 0 => pure ()
  | polls + 1 => do
      raiseIfCancelled handler
      ask handler .heartbeatJob
      ask handler .updateJobProgress
      pauseForImports handler polls

/-- `_wait_for_import_quiet`. -/
def waitForImportQuiet (handler : Handler) : Work Unit := do
  pauseForImports handler (← ask handler .pollCount)

/-! ## The pool -/

/-- The rounds that find no future done. -/
def waitForFutures : Nat → Work Unit
  | 0 => pure ()
  | polls + 1 => do
      ask .libraryScan .heartbeatJob
      raiseIfCancelled .libraryScan
      waitForFutures polls

/-- One future that is done. What its measurement raised is recorded. -/
def collectFuture (trackfileId : Int) : Work Unit := do
  tryCatch (do raising (← ask .libraryScan (.futureResult trackfileId)))
    fun _ => ask .libraryScan (.upsertScanItem trackfileId)
  ask .libraryScan .updateScanProgress

/-- The futures that are done, one at least; the others are still pending. The pool's
futures stand in the order in which they end. -/
def collectFutures (pending : List Int) : Work (List Int) := do
  waitForFutures (← ask .libraryScan .pollCount)
  let done := (← ask .libraryScan .finishedFutures) + 1
  (pending.take done).forM collectFuture
  pure (pending.drop done)

/-- The end of the loop, where all items are submitted. -/
def drainPool : Nat → List Int → Work Unit
  | 0, _ | _, [] => pure ()
  | rounds + 1, pending => do drainPool rounds (← collectFutures pending)

/-- The items wait until the pool has room. -/
def makeRoom (workers : Nat) (pending : List Int) : Work (List Int) :=
  if pending.length < workers then pure pending else collectFutures pending

/-- The items are submitted while the pool has room. -/
def submitItems (workers : Nat) : List (Option Int) → List Int → Work Unit
  | [], pending => drainPool pending.length pending
  | trackfileId :: trackfiles, pending => do
      let pending ← makeRoom workers pending
      raiseIfCancelled .libraryScan
      waitForImportQuiet .libraryScan
      match trackfileId with
      | none =>
          ask .libraryScan .updateScanProgress
          submitItems workers trackfiles pending
      | some trackfileId =>
          ask .libraryScan (.upsertScanItem trackfileId)
          ask .libraryScan (.submitItem trackfileId)
          submitItems workers trackfiles (pending ++ [trackfileId])

/-- `_execute_parallel_scan_items`: the pool is shut down when the loop is left. -/
def executeParallelScanItems (workers : Nat) (trackfiles : List (Option Int)) :
    Work Unit := do
  tryCatch (submitItems workers trackfiles []) fun raised => do
    ask .libraryScan .shutdownPool
    throw raised
  ask .libraryScan .shutdownPool

/-! ## The spectral loop -/

/-- The measurement of an item, with its own wait for the imports. -/
def measureSpectralItem (trackfileId : Int) : Work Unit := do
  if !(← ask .scanItem (.priorItemTerminal trackfileId)) then
    ask .scanItem (.upsertScanItem trackfileId)
    waitForImportQuiet .scanItem
    ask .scanItem .heartbeatJob
    raising (← ask .scanItem (.measureItem trackfileId))

/-- One item. Any exception of its measurement is an error of the item, a cancel too. -/
def scanSpectralItem (trackfileId : Option Int) : Work Unit := do
  raiseIfCancelled .libraryScan
  waitForImportQuiet .libraryScan
  match trackfileId with
  | none => pure ()
  | some trackfileId =>
      tryCatch (measureSpectralItem trackfileId)
        fun _ => ask .libraryScan (.upsertScanItem trackfileId)
      ask .libraryScan .updateScanProgress

/-! ## The executor -/

/-- The payload of a scan job. -/
structure ScanRequest where
  /-- `run_id` is missing or zero. -/
  missingRun : Bool
  /-- The mode is `spectral_missing`. -/
  spectral : Bool
  /-- Workers of the tier; `none` for a mode without one. -/
  workers : Option Nat

/-- The body of the executor. -/
def scanTrackfiles (scan : ScanRequest) : Work Unit := do
  let enabled ← ask .libraryScan .spectralEnabled
  raiseIf (scan.spectral && !enabled) "background spectral scan disabled"
  let _ ← ask .libraryScan (.updateScanRun .running)
  ask .libraryScan .heartbeatJob
  let trackfiles ← raising (← ask .libraryScan .fetchTrackfiles)
  let _ ← ask .libraryScan (.updateScanRun .running)
  if scan.spectral then trackfiles.forM scanSpectralItem
  else
    match scan.workers with
    | none => throw (.error "unknown library scan mode")
    | some workers => executeParallelScanItems workers trackfiles

/-- The run and the job are ended alike. -/
def endScan (state : Queue.JobState) (report : Queue.Report) : Work Unit := do
  let _ ← ask .worker (.updateScanRun state)
  reportJob report

/-- `_execute_library_scan_job`. -/
def executeLibraryScanJob (scan : ScanRequest) : Work Unit := do
  if scan.missingRun then reportJob (.failed "library scan missing run_id" (some "failed"))
  else if ← isJobCancelRequested then endScan .cancelled .cancelled
  else
    tryCatch
      (do
        scanTrackfiles scan
        endScan .completed (.completed (some "library_scan_completed") []))
      fun
        | .cancelled => endScan .cancelled .cancelled
        | .error text => endScan .failed (.failed text (some "library_scan_failed"))

end Mintarr.Lane
