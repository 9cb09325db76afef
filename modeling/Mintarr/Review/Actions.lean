import Mathlib.Logic.Function.Basic
import Mintarr.Lane.Jobs
import Mintarr.Lib.Machine
import Mintarr.Review.Record

/-!
# What is done with a verification record

Every function of the server that rewrites the sidecar of a download: the requests of the
operator, the executors of the promote and retry jobs, the reads that settle a pending
import, the expiry, and the writers of the import pipeline.  Each is a function of the files
of that download and of a reply, which holds what the function gets from outside: answers of
Lidarr, failing writes, a cancel.
-/

namespace Mintarr.Review

open Policy Lane

/-! ## Files -/

/-- Where the files of a download may lie. -/
inductive Directory where
  /-- `OUTPUT_BASE / jid`. -/
  | output
  /-- `DOWNLOAD_BASE / jid`, where the files stay if they cannot be moved. -/
  | raw
  deriving DecidableEq, Repr

/-- Where its sidecar may lie: beside the files, or in an archive. -/
inductive Place where
  | folder (directory : Directory)
  | blocked | discarded | expired
  deriving DecidableEq, Repr

/-- What belongs to one download. -/
structure Desk where
  /-- Nothing, an unreadable file, or a sidecar. -/
  file : Place → Option (Option Record) := fun _ => none
  /-- The directory in `_jobs[jid]["output_dir"]`. -/
  projected : Option Directory := none
  /-- The row of the download in `records`. -/
  row : Option Row := none
  /-- Lidarr was told to import. -/
  submitted : Bool := false
  /-- Files were copied into the library. -/
  copied : Bool := false

namespace Desk

variable (desk : Desk)

/-- `_jobs.get(jid, {}).get("output_dir") or OUTPUT_BASE / jid`. -/
def outputDir : Directory := desk.projected.getD .output

/-- The places outside the projection, in the order of both searches. -/
def archives : List Place := [.folder .output, .blocked, .discarded, .expired]

/-- `_find_verification_sidecar`. -/
def findVerificationSidecar : Option Place :=
  (desk.projected.toList.map Place.folder ++ archives).find? fun place => (desk.file place).isSome

/-- `_read_verification_sidecar`. -/
def readVerificationSidecar : Option (Place × Record) :=
  match desk.findVerificationSidecar with
  | none => none
  | some place => (desk.file place).join.map fun record => (place, record)

/-- The record of the download in `_verification_records`. -/
def verificationRecords : Option Record :=
  archives.findSome? fun place => (desk.file place).join

/-- `_atomic_write_json`. -/
def write (place : Place) (record : Record) : Desk :=
  { desk with file := Function.update desk.file place (some (some record)) }

/-- The file is gone. -/
def remove (place : Place) : Desk :=
  { desk with file := Function.update desk.file place none }

/-- `state_db.upsert_from_sidecar`. -/
def mirror (record : Record) (now : Time) : Desk :=
  { desk with row := some (upsertFromSidecar record now desk.row) }

end Desk

/-! ## Promote and retry -/

/-- What an import of promote or retry meets. -/
structure ImportReply where
  /-- The job is cancelled, where a job runs it. -/
  cancelled : Bool := false
  outputExists : Bool := true
  /-- The write before the import succeeds. -/
  begun : Bool := true
  /-- A ManualImport is posted. -/
  submitted : Bool := true
  /-- The rescue copies files. -/
  copied : Bool := false
  /-- `_mark_import_completed` is reached. -/
  completed : Bool := true
  /-- What `_run_manual_import_only` returns; nothing where it raises. -/
  outcome : Option ImportOutcome := some .manualImported
  /-- The write of the outcome succeeds. -/
  recorded : Bool := true

/-- The projection keeps the directory that it is asked for, as in `_mark_import_completed`. -/
def Desk.saveOutputDir (desk : Desk) : Desk := { desk with projected := some desk.outputDir }

/-- `_run_manual_import_only`, as far as it leaves traces. -/
def Desk.runManualImportOnly (reply : ImportReply) (desk : Desk) : Desk :=
  { desk with
    submitted := desk.submitted || reply.submitted
    copied := desk.copied || reply.copied
    projected := if reply.completed then some desk.outputDir else desk.projected }

/-- `_promote_verified_import`; nothing is returned where it raises. -/
def promoteVerifiedImport (reply : ImportReply) (now : Time) (place : Place) (record : Record)
    (desk : Desk) : Desk × Option ActionResult :=
  if record.imported then (desk, some { status := 200, outcome := some record.outcome })
  else if !record.isPromotable then
    (desk, some { status := 409, error := "verification is not promotable" })
  else if reply.cancelled || !reply.begun then (desk, none)
  else
    let promoted := record.promote now
    let begun := (desk.write place promoted).runManualImportOnly reply
    match reply.outcome with
    | none => (begun, none)
    | some outcome =>
        if reply.recorded then
          (begun.write place { promoted with outcome },
            some { status := 200, outcome := some outcome })
        else (begun, none)

/-- `_retry_verified_import`. -/
def retryVerifiedImport (reply : ImportReply) (place : Place) (record : Record) (desk : Desk) :
    Desk × Option ActionResult :=
  if record.imported then (desk, some { status := 200, outcome := some record.outcome })
  else if !record.isRetryableVerifiedImport then
    (desk, some { status := 409, error := "verification is not retryable" })
  else if !reply.outputExists then
    (desk, some { status := 409, error := "output directory missing" })
  else if reply.cancelled then (desk, none)
  else
    let saved := desk.saveOutputDir
    if !reply.begun then (saved, none)
    else
      let begun := saved.runManualImportOnly reply
      match reply.outcome with
      | none => (begun, none)
      | some outcome =>
          if reply.recorded then
            (begun.write place { record with outcome },
              some { status := 200, outcome := some outcome })
          else (begun, none)

/-- `verification_promote`: the job is queued, or the import is run at once. -/
def verificationPromote (queued : Bool) (reply : ImportReply) (now : Time) (desk : Desk) :
    Desk × Option ActionResult :=
  match desk.readVerificationSidecar with
  | none => (desk, some { status := 404, error := "verification not found" })
  | some (place, record) =>
      if record.imported then (desk, some { status := 200, outcome := some record.outcome })
      else if !record.isPromotable then
        (desk, some { status := 409, error := "verification is not promotable" })
      else if queued then (desk, some { status := 202 })
      else promoteVerifiedImport { reply with cancelled := false } now place record desk

/-- `verification_retry_import`. -/
def verificationRetryImport (queued : Bool) (reply : ImportReply) (desk : Desk) :
    Desk × Option ActionResult :=
  match desk.readVerificationSidecar with
  | none => (desk, some { status := 404, error := "verification not found" })
  | some (place, record) =>
      if record.imported then (desk, some { status := 200, outcome := some record.outcome })
      else if !record.isRetryableVerifiedImport then
        (desk, some { status := 409, error := "verification is not retryable" })
      else if !reply.outputExists then
        (desk, some { status := 409, error := "output directory missing" })
      else if queued then (desk, some { status := 202 })
      else retryVerifiedImport { reply with cancelled := false } place record desk

/-- A job whose action answers with an error status raises. -/
def raiseForStatus : Desk × Option ActionResult → Desk × Option ActionResult
  | (desk, result) => (desk, result.filter (·.status < 400))

/-- `_execute_promote_import_job`. -/
def executePromoteImportJob (reply : ImportReply) (now : Time) (desk : Desk) :
    Desk × Option ActionResult :=
  match desk.readVerificationSidecar with
  | none => (desk, none)
  | some (place, record) => raiseForStatus (promoteVerifiedImport reply now place record desk)

/-- `_execute_retry_import_job`. -/
def executeRetryImportJob (reply : ImportReply) (desk : Desk) : Desk × Option ActionResult :=
  match desk.readVerificationSidecar with
  | none => (desk, none)
  | some (place, record) => raiseForStatus (retryVerifiedImport reply place record desk)

/-- What a release switch meets. -/
structure SwitchReply where
  /-- The strategy is `review`. -/
  enabled : Bool := true
  lidarrKey : Bool := true
  /-- How many albums were switched; nothing where that raises. -/
  switched : Option Nat := some 1
  reply : ImportReply := {}

/-- `verification_release_switch`: the HTTP status. -/
def verificationReleaseSwitch (reply : SwitchReply) (now : Time) (desk : Desk) : Desk × Nat :=
  match desk.readVerificationSidecar with
  | none => (desk, 404)
  | some (place, record) =>
      if !(reply.enabled && record.isSwitchable) then (desk, 409)
      else if !reply.reply.outputExists then (desk, 409)
      else if !reply.lidarrKey then (desk, 409)
      else
        match reply.switched with
        | none => (desk, 500)
        | some 0 => (desk, 200)
        | some (_ + 1) =>
            match promoteVerifiedImport { reply.reply with cancelled := false } now place record
                desk with
            | (after, none) => (after, 500)
            | (after, some result) => (after, result.status)

/-! ## Closing a review -/

/-- What a discard or an expiry meets. -/
structure CloseReply where
  now : Time
  /-- `REVIEW_RETENTION_DAYS`, in seconds. -/
  maxAge : Time := 0
  outputExists : Bool := true
  /-- The removed tree held no file that stayed. -/
  erased : Bool := true
  /-- There is a key, and `_blocklist_grab` succeeds. -/
  blocklisted : Bool := true
  /-- The archive is written. -/
  archived : Bool := true
  /-- The sidecar elsewhere can be removed. -/
  unlinked : Bool := true

/-- `_safe_rmtree_under(OUTPUT_BASE, output_dir)` takes the sidecar with it. -/
def Desk.rmtree (reply : CloseReply) (desk : Desk) : Desk :=
  if reply.outputExists && desk.outputDir = .output && reply.erased then
    desk.remove (.folder .output)
  else desk

/-- The record is written to the archive, and the sidecar at `old` removed; `false` where
that raises. -/
def Desk.archive (reply : CloseReply) (old target : Place) (record : Record) (desk : Desk) :
    Desk × Bool :=
  if !reply.archived then (desk, false)
  else
    let written := desk.write target record
    if old = target || (written.file old).isNone then (written, true)
    else if reply.unlinked then (written.remove old, true)
    else (written, false)

/-- `verification_discard`: the HTTP status. -/
def verificationDiscard (reply : CloseReply) (desk : Desk) : Desk × Nat :=
  match desk.readVerificationSidecar with
  | none => (desk, 404)
  | some (place, record) =>
      if !record.isDiscardable then (desk, 409)
      else if reply.outputExists && desk.outputDir ≠ .output then (desk, 500)
      else
        let discarded := record.discard reply.now reply.blocklisted
        match (desk.rmtree reply).archive reply place .discarded discarded with
        | (archived, false) => (archived, 500)
        | (archived, true) => (archived.mirror discarded reply.now, 200)

/-- `_expire_review_required_jobs`, as far as one download goes. -/
def expireReviewRequiredJobs (reply : CloseReply) (desk : Desk) : Desk :=
  match desk.verificationRecords with
  | none => desk
  | some listed =>
      if !listed.isExpired reply.now reply.maxAge then desk
      else
        match desk.readVerificationSidecar with
        | none => desk
        | some (place, current) =>
            match desk.archive reply place .expired
                (current.expire reply.now reply.blocklisted) with
            | (archived, false) => archived
            | (archived, true) => archived.rmtree reply

/-! ## Settling a pending import -/

/-- What Lidarr says of a download. -/
structure LidarrReply where
  key : Bool := true
  /-- `_count_lidarr_imported_history`. -/
  importedHistory : Nat := 0
  /-- `_count_lidarr_trackfiles`. -/
  trackfiles : Nat := 0
  /-- `_count_audio_files` of the output directory. -/
  audioFiles : Nat := 0
  /-- `_lidarr_has_pending_import_for_jid`. -/
  pending : Bool := false
  /-- The sidecar can be written. -/
  written : Bool := true

/-- The outcome that `_reconcile_pending_import` settles on. -/
def LidarrReply.outcome (lidarr : LidarrReply) (record : Record) : Option ImportOutcome :=
  let accepted := record.decision = .accept || record.decision = .acceptProvisional
  if record.outcome ≠ .pending || !lidarr.key then none
  else if lidarr.importedHistory > 0 && lidarr.audioFiles = 0 then some .manualImported
  else if accepted && lidarr.trackfiles > 0 && lidarr.audioFiles = 0 then some .manualImported
  else if lidarr.pending then none
  else if accepted then some .failed
  else none

/-- `_reconcile_pending_import`. -/
def reconcilePendingImport (lidarr : LidarrReply) (record : Record) (path : Option Place)
    (desk : Desk) : Desk :=
  match lidarr.outcome record with
  | none => desk
  | some outcome =>
      let settle (after : Desk) : Desk :=
        if outcome = .manualImported then after.saveOutputDir else after
      match path <|> desk.findVerificationSidecar with
      | none => settle desk
      | some target =>
          if lidarr.written then settle (desk.write target { record with outcome }) else desk

/-- `verification_get`. -/
def verificationGet (lidarr : LidarrReply) (desk : Desk) : Desk :=
  match desk.readVerificationSidecar with
  | none => desk
  | some (place, record) => reconcilePendingImport lidarr record (some place) desk

/-- `verification_list`, as far as one download goes. -/
def verificationList (lidarr : LidarrReply) (desk : Desk) : Desk :=
  match desk.verificationRecords with
  | none => desk
  | some record => reconcilePendingImport lidarr record none desk

/-- `_reconcile_pending_import_jobs`, for a download whose projection is pending. -/
def reconcilePendingImportJobs (lidarr : LidarrReply) (desk : Desk) : Desk :=
  match desk.readVerificationSidecar with
  | none => desk
  | some (place, record) =>
      if record.outcome = .pending then reconcilePendingImport lidarr record (some place) desk
      else desk

/-! ## The writers of the pipeline -/

/-- What a writer of the pipeline meets. -/
structure WriteReply where
  now : Time
  written : Bool := true
  /-- The sidecar elsewhere can be removed. -/
  unlinked : Bool := true
  /-- The sidecar can be read back. -/
  readBack : Bool := true
  /-- `_blocklist_grab` succeeds. -/
  blocklisted : Bool := true
  /-- The blocklist status can be written. -/
  rewritten : Bool := true
  /-- `_save_jobs` succeeds. -/
  saved : Bool := true

/-- `_write_verification_sidecar`: where it was written; nothing where it raises. -/
def writeVerificationSidecar (result : VerificationResult) (archived : Bool)
    (reply : WriteReply) (desk : Desk) : Desk × Option Place :=
  let existing := desk.readVerificationSidecar
  let record := verificationRecord result (existing.map (·.2)) reply.now
  let target := if archived then .blocked else .folder desk.outputDir
  if !reply.written then (desk, none)
  else
    let written := desk.write target record
    let single :=
      match existing with
      | none => written
      | some (old, _) => if old ≠ target && reply.unlinked then written.remove old else written
    (single.mirror record reply.now, some target)

/-- The blocklist status that `_create_review_required` adds, where it does. -/
def blocklistReview (record : Record) (blocklisted : Bool) : Option Record :=
  if record.lifecycle.blocklistPolicy = some .blocklistNow &&
      record.lifecycle.blocklistStatus ≠ some .done then
    some { record with
      lifecycle :=
        { record.lifecycle with
          blocklistStatus := some (if blocklisted then .done else .failed) } }
  else none

/-- `_mark_review_required`, as far as it says where the files are. -/
def Desk.markReviewRequired (desk : Desk) : Desk := { desk with projected := some .output }

/-- `_create_review_required`; `false` where it raises. -/
def createReviewRequired (result : VerificationResult) (reply : WriteReply) (desk : Desk) :
    Desk × Bool :=
  match writeVerificationSidecar result false reply desk with
  | (written, none) => (written, false)
  | (written, some target) =>
      match (written.file target).join with
      | none => (written, false)
      | some record =>
          if !reply.readBack then (written, false)
          else
            match blocklistReview record reply.blocklisted with
            | none => (written.markReviewRequired, reply.saved)
            | some blocklisted =>
                if reply.rewritten then
                  ((written.write target blocklisted).markReviewRequired, reply.saved)
                else (written, false)

/-- `_finalize_imported_backend_record`. -/
def finalizeImportedBackendRecord (now : Time) (written : Bool) (desk : Desk) : Desk :=
  match desk.readVerificationSidecar with
  | some (place, record) =>
      if record.outcome ≠ .pending && record.outcome ≠ .manualImported then desk
      else if !written then desk
      else
        let imported := { record with outcome := .manualImported }
        ((desk.write place imported).mirror imported now).saveOutputDir
  | none =>
      -- `update_record_import_outcome`.
      match desk.row with
      | none => desk
      | some row =>
          { desk.saveOutputDir with
            row :=
              some { row with importOutcome := .manualImported, derivedStatus := .imported } }

end Mintarr.Review
