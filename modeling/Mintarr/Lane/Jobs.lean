import Mintarr.Lane.LidarrImport

/-!
# The executors

`pipeline.import_to_lidarr` and the source-grab executor, the promote and retry
executors, the release-switch endpoint, the backend executor with its mirror, and
`worker._execute_job` around them.
-/

namespace Mintarr.Lane

open Lib Policy Import

/-! ## Source grabs -/

/-- `import_to_lidarr`. -/
def importToLidarr (request : ImportRequest) : Work Unit := do
  raiseIfJobCancelled true .executor
  tryCatch
    (do
      triggerLidarrImport request
      setWorkerProgress .importToLidarr "finalizing")
    fun
      | .cancelled => throw .cancelled
      | .error text => markImportFailed .executor ("lidarr import exception: " ++ text)

/-- The part of `_source_grab_terminal_result` that reads the sidecar. -/
def sidecarTerminalResult : Work (Option String) :=
  tryCatch
    (do
      match ← ask .terminalResult .readSidecar with
      | none => pure none
      | some (_, record) =>
          let entry ← ask .terminalResult .readJob
          let (resultState, stage) ←
            raising (← ask .terminalResult (.terminalProgress record entry))
          setWorkerProgress .terminalResult stage
          pure (some resultState))
    fun _ => pure none

/-- `_source_grab_terminal_result`. -/
def sourceGrabTerminalResult : Work String := do
  match ← sidecarTerminalResult with
  | some resultState => pure resultState
  | none =>
      let entry ← ask .executor .readJob
      if entry.status = some .failed then
        throw (.error (entry.error.getD "source-grab failed (status=failed)"))
      else
        setWorkerProgress .executor "done"
        pure "completed"

/-- The payload of a source grab, and the settings. -/
structure GrabRequest where
  adapter : Adapter
  /-- The text of the exception, where the payload has no source id. -/
  missingSource : Option String
  /-- The source id starts with `slskd:`. -/
  slskd : Bool
  request : ImportRequest

/-- `_execute_source_grab_job`. -/
def executeSourceGrabJob (grab : GrabRequest) : Work String := do
  match grab.missingSource with
  | some text => throw (.error text)
  | none =>
      if ← ask .executor .adapterRegistered then
        act .executor .makeRawDir
        downloadAndPrepare grab.adapter grab.slskd
        importToLidarr grab.request
        sourceGrabTerminalResult
      else throw (.error (grab.adapter.name ++ " adapter not registered"))

/-! ## Promote and retry -/

/-- The end of a ManualImport and rescue that did not import. -/
def failManualImport (handler : Handler) : Work ImportOutcome := do
  markImportFailed handler "manual promote import failed"
  setWorkerProgress handler "failed"
  cleanupLidarrQueue handler
  pure .failed

/-- `_run_manual_import_only` past the ManualImport command. -/
def confirmManualImport (tracked : Bool) (handler : Handler) (files : List ImportFile) :
    Work ImportOutcome := do
  raiseIfJobCancelled tracked handler
  setWorkerProgress handler "manualimport_wait"
  if (← raising (← ask handler .importedCount)) ≥ max 1 files.length then
    setWorkerProgress handler "cleanup"
    markImportCompleted handler
    setWorkerProgress handler "done"
    pure .manualImported
  else if ← raising (← ask handler .commandPending) then
    saveJobs handler {}
    pure .pending
  else
    raiseIfJobCancelled tracked handler
    setWorkerProgress handler "rescue"
    if ← rescuePlaceAndRescan tracked handler files then
      markImportCompleted handler
      setWorkerProgress handler "done"
      pure .rescued
    else failManualImport handler

/-- `_run_manual_import_only`. -/
def runManualImportOnly (tracked : Bool) (handler : Handler) : Work ImportOutcome := do
  setWorkerProgress handler "manualimport_lookup"
  raiseIfJobCancelled tracked handler
  if !(← ask handler .lidarrKey) then pure .failed
  else
    let (status, body) ← raising (← ask handler .getManualImport)
    if status ≠ 200 then pure .failed
    else
      raiseIfJobCancelled tracked handler
      let files ← raising (manualImportFilesFromItems (← raising body))
      if files.isEmpty then pure .failed
      else
        raiseIfJobCancelled tracked handler
        setWorkerProgress handler "manualimport"
        ask handler .preCounts
        let _ ← raising (← ask handler (.postManualImport files))
        confirmManualImport tracked handler files

/-- What promote and retry return: the HTTP status, and the outcome or the error. -/
structure ActionResult where
  status : Nat
  outcome : Option ImportOutcome := none
  error : String := ""
  deriving DecidableEq, Repr

/-- `_promote_verified_import`. -/
def promoteVerifiedImport (tracked : Bool) (handler : Handler) (place : SidecarPlace)
    (record : SidecarRecord) : Work ActionResult := do
  if record.outcome = .manualImported || record.outcome = .rescued then
    pure { status := 200, outcome := some record.outcome }
  else if !record.isPromotable then
    pure { status := 409, error := "verification is not promotable" }
  else
    raiseIfJobCancelled tracked handler
    let promoted :=
      { record with decision := .acceptProvisional, manualPromote := true, lifecycle := .promoted }
    raising (← ask handler (.writeSidecar place promoted))
    let outcome ← runManualImportOnly tracked handler
    ask handler (.setV2ImportOutcome outcome)
    raising (← ask handler (.writeSidecar place { promoted with outcome }))
    pure { status := 200, outcome := some outcome }

/-- `_retry_verified_import`. -/
def retryVerifiedImport (tracked : Bool) (handler : Handler) (place : SidecarPlace)
    (record : SidecarRecord) : Work ActionResult := do
  if record.outcome = .manualImported || record.outcome = .rescued then
    pure { status := 200, outcome := some record.outcome }
  else if !record.isRetryableVerifiedImport then
    pure { status := 409, error := "verification is not retryable" }
  else if !(← ask handler .outputExists) then
    pure { status := 409, error := "output directory missing" }
  else
    raiseIfJobCancelled tracked handler
    saveJobs handler { status := some .processing }
    let outcome ← runManualImportOnly tracked handler
    ask handler (.setV2ImportOutcome outcome)
    raising (← ask handler (.writeSidecar place { record with outcome }))
    pure { status := 200, outcome := some outcome }

/-- `_verification_action_result_state`. -/
def verificationActionResultState : Work String := do
  match ← ask .executor .readSidecar with
  | none => pure "completed"
  | some (_, record) =>
      match record.outcome with
      | .failed => pure "failed"
      | .pending => pure "pending"
      | .manualImported | .rescued | .skipped => ask .executor (.derivedStatus record)

/-- `_execute_promote_import_job` and `_execute_retry_import_job` differ in their name and
their action. -/
def executeVerificationAction (name jid : String)
    (action : SidecarPlace → SidecarRecord → Work ActionResult) : Work String := do
  if jid = "" then throw (.error (name ++ " job missing jid"))
  else
    setWorkerProgress .executor "starting"
    match ← ask .executor .readSidecar with
    | none => throw (.error ("verification not found for jid=" ++ jid))
    | some (place, record) =>
        setWorkerProgress .executor "validating"
        let result ← action place record
        if result.status ≥ 400 then throw (.error result.error)
        else verificationActionResultState

/-- `_execute_promote_import_job`. -/
def executePromoteImportJob (jid : String) : Work String :=
  executeVerificationAction "promote_import" jid (promoteVerifiedImport true .executor)

/-- `_execute_retry_import_job`. -/
def executeRetryImportJob (jid : String) : Work String :=
  executeVerificationAction "retry_import" jid (retryVerifiedImport true .executor)

/-! ## The release-switch endpoint -/

/-- `_release_switch_manual_review_allowed`; the strategy is `review` where `enabled`. -/
def releaseSwitchManualReviewAllowed (enabled : Bool) (record : SidecarRecord) : Bool :=
  enabled && record.isPromotable && record.decision ≠ .block &&
    !([.codecMismatch, .flacTFail, .validatorError].any fun override : Override =>
      override ∈ record.overrides) &&
    (record.identity = some .ambiguousEdition || record.identity = some .insufficientEvidence)

/-- One album of the endpoint; `none` where it raises. -/
def operatorReleaseSwitch (albumId : Int) : Work (Option (List Int)) :=
  tryCatch
    (do
      match ← raising (← ask .endpoint (.switchCandidate albumId)) with
      | none => pure (some [])
      | some candidate =>
          some <$> applyReleaseSwitchCandidate .endpoint { candidate with albumId })
    fun _ => pure none

/-- The loop of the endpoint: the albums that were switched, and whether one raised, which
ends the loop. -/
def operatorReleaseSwitches : List Int → List Int → Work (List Int × Bool)
  | [], audits => pure (audits, false)
  | albumId :: albumIds, audits => do
      match ← operatorReleaseSwitch albumId with
      | none => pure (audits, true)
      | some switched => operatorReleaseSwitches albumIds (audits ++ switched)

/-- The import after the switch; `none` where it raises. -/
def operatorImport (place : SidecarPlace) (record : SidecarRecord) :
    Work (Option ActionResult) :=
  tryCatch (some <$> promoteVerifiedImport false .endpoint place record) fun _ => pure none

/-- The endpoint past its checks: the HTTP status. -/
def switchAndPromote (place : SidecarPlace) (record : SidecarRecord) : Work Nat := do
  let albumIds ← ask .endpoint .albumIdsForRecord
  let (audits, raised) ← operatorReleaseSwitches albumIds []
  if raised then
    restoreReleaseSwitches .endpoint audits
    pure 500
  else if audits.isEmpty then pure 200
  else
    match ← operatorImport place record with
    | none =>
        restoreReleaseSwitches .endpoint audits
        pure 500
    | some result =>
        if result.outcome ≠ some .manualImported && result.outcome ≠ some .rescued then
          restoreReleaseSwitches .endpoint audits
        pure result.status

/-- `verification_release_switch`: the checks are made before and after the lock is taken. -/
def verificationReleaseSwitch (enabled : Bool) : Work Nat := do
  match ← ask .endpoint .readSidecar with
  | none => pure 404
  | some (_, record) =>
      if !releaseSwitchManualReviewAllowed enabled record then pure 409
      else if !(← ask .endpoint .outputExists) then pure 409
      else
        match ← ask .endpoint .readSidecar with
        | none => pure 404
        | some (place, record) =>
            if !releaseSwitchManualReviewAllowed enabled record then pure 409
            else if !(← ask .endpoint .lidarrKey) then pure 409
            else switchAndPromote place record

/-! ## The backend executor -/

/-- The record of an imported backend job is closed, in the sidecar or in the database. -/
def closeBackendRecord : Option (SidecarPlace × SidecarRecord) → Work Bool
  | some (place, record) =>
      if record.outcome ≠ .pending && record.outcome ≠ .manualImported then pure false
      else do
        let imported := { record with outcome := .manualImported }
        raising (← ask .mirror (.writeSidecar place imported))
        raising (← ask .mirror (.upsertFromSidecar imported))
        pure true
  | none => do raising (← ask .mirror .updateRecordImportOutcome)

/-- `_finalize_imported_backend_record`. -/
def finalizeImportedBackendRecord : Work Bool := do
  let found ← ask .mirror .readSidecar
  tryCatch
    (do
      if ← closeBackendRecord found then
        markImportCompleted .mirror
        pure true
      else pure false)
    fun _ => pure false

/-- `_mirror_backend_ingest_outcome`. -/
def mirrorBackendIngestOutcome (state : Backend.BackendState) : Work Unit :=
  tryCatch
    (do
      if (← ask .mirror .getBackendJob) = some .importing then
        if ← ask .mirror (.updateBackendJob state) then
          if state = .imported then
            let _ ← finalizeImportedBackendRecord)
    fun _ => pure ()

/-- `_execute_backend_completed_grab_job`. -/
def executeBackendCompletedGrabJob (grab : GrabRequest) : Work String := do
  let resultState ← tryCatch (executeSourceGrabJob grab) fun raised => do
    mirrorBackendIngestOutcome .failed
    throw raised
  let entry ← ask .executor .readJob
  mirrorBackendIngestOutcome (Backend.backendIngestOutcome (some entry.projection))
  pure resultState

/-- `_reconcile_imported_backend_record_audits`, as far as one job goes. -/
def reconcileImportedBackendRecordAudits : Work Unit := do
  if ← ask .mirror .importedWithPendingRecord then
    let _ ← finalizeImportedBackendRecord

/-! ## The worker -/

/-- `state_db.is_job_cancel_requested` as the worker asks it. -/
def isJobCancelRequested : Work Bool := do
  match ← ask .worker .isJobCancelRequested with
  | .ok requested => pure requested
  | .error _ => pure false

/-- The end of the job is reported to the queue. -/
def reportJob (report : Queue.Report) : Work Unit := do
  let _ ← ask .worker (.report report)

/-- A failed job is retried if nobody cancels it and the failure is transient. -/
def retryOrFail (job : Queue.Job) (text : String) : Work Unit := do
  let requested ← isJobCancelRequested
  if !requested && Queue.isTransientFailure job text then
    if ← ask .worker (.scheduleJobRetry text) then pure ()
    else reportJob (.failed text (some "failed"))
  else reportJob (.failed text (some "failed"))

/-- `_execute_job`. -/
def executeJob (job : Queue.Job) (executor : Work String) : Work Unit := do
  if ← isJobCancelRequested then reportJob .cancelled
  else
    tryCatch (do reportJob (.completed (some (← executor)) [])) fun
      | .cancelled => reportJob .cancelled
      | .error text => retryOrFail job text

end Mintarr.Lane
