import Mintarr.Lib.Crash
import Mintarr.Restore.Archive

/-!
# Staging and applying a restore

`restore.py` as programs over the file operations they make: staging a zip, cancelling it,
and the apply at boot.  Every operation may fail with an `OSError`, and the process may die
before any of them; questions whether a file exists are answered truthfully.  Temporary
files, which nothing reads, are operations without an effect.
-/

namespace Mintarr.Restore

open Lib

/-! ## The disk -/

/-- `restore_request.json`'s `state`. -/
inductive MarkerState where
  | staged | applying
  /-- What `_read_json_file` makes of a file that it cannot read. -/
  | unreadable
  | other (text : String)
  deriving DecidableEq, Repr

def MarkerState.text : MarkerState → String
  | .staged => "staged"
  | .applying => "applying"
  | .unreadable => "unreadable"
  | .other text => text

/-- Where a marker's `staged_zip` points to. -/
inductive ZipPath where
  /-- The empty path, which is no file. -/
  | empty
  /-- A file in the staging directory. -/
  | staged (name : String)
  | outside (path : String)
  deriving DecidableEq, Repr

/-- `_is_relative_to(path.resolve(), staging_dir.resolve())`. -/
def ZipPath.isStaged : ZipPath → Bool
  | .staged _ => true
  | .empty | .outside _ => false

/-- `restore_request.json`, as far as it is read back. -/
structure Marker where
  restoreId : Option String := none
  state : MarkerState
  stagedZip : ZipPath := .empty
  deriving DecidableEq, Repr

/-- `RestoreApplyResult.outcome`. -/
inductive RestoreOutcome where
  | noPending | disabledSkip | applied | failedPreflight | failedPartial
  deriving DecidableEq, Repr

/-- `restore_status.json`. -/
structure Status where
  restoreId : Option String
  state : RestoreOutcome
  detail : String
  safetyBackup : Option String := none
  deriving DecidableEq, Repr

/-- What a restart leaves. -/
structure Disk where
  files : Files
  marker : Option Marker := none
  /-- The zips that a restore may use; a file that is no zip has no members. -/
  zip : ZipPath → Option (Option (List ZipInfo)) := fun _ => none
  /-- The safety backups, under their restore ids. -/
  safety : String → Option (List ZipInfo) := fun _ => none
  status : Option Status := none
  /-- History: a file was replaced or removed, and the marker not looked at since. -/
  replacing : Bool := false
  /-- History: a file that was to be removed is still there. -/
  kept : Bool := false

/-! ## File operations -/

/-- What is asked of the file system. -/
inductive Call where
  | markerIsFile
  | readMarker
  | replaceMarker (marker : Marker)
  | unlinkMarker
  | zipIsFile (path : ZipPath)
  /-- The whole zip, as `validate_restore_zip` reads it. -/
  | readZip (path : ZipPath)
  /-- `zf.read`. -/
  | readMember (path : ZipPath) (name : List String)
  | replaceZip (path : ZipPath) (zip : Option (List ZipInfo))
  | unlinkZip (path : ZipPath)
  /-- `build_safety_zip`. -/
  | buildSafetyZip
  | replaceSafety (restoreId : String) (zip : List ZipInfo)
  | replaceStatus (status : Status)
  | replaceTarget (target : Target) (data : Bytes)
  | unlinkTarget (target : Target)
  /-- `mkdir`, or a write or an unlink of a temporary file. -/
  | scratch

/-- The type of its answers. -/
abbrev Answer : Call → Type
  | .markerIsFile | .zipIsFile _ => Bool
  | .readMarker => Except String Marker
  | .readZip _ => Except String (Option (List ZipInfo))
  | .readMember _ _ => Except String Bytes
  | .buildSafetyZip => Except String (List ZipInfo)
  | .replaceMarker _ | .unlinkMarker | .replaceZip _ _ | .unlinkZip _ | .replaceSafety _ _
  | .replaceStatus _ | .replaceTarget _ _ | .unlinkTarget _ | .scratch => Except String Unit

/-- How an operation goes. -/
inductive Reply where
  | done
  /-- An `OSError` with its text; for `build_safety_zip` any exception. -/
  | fails (text : String)
  deriving DecidableEq, Repr

/-- A value, where the operation does not fail. -/
def Reply.value {α : Type} (reply : Reply) (value : α) : Except String α :=
  match reply with
  | .done => .ok value
  | .fails text => .error text

/-- An effect, where the operation does not fail. -/
def Reply.effect (reply : Reply) (disk next : Disk) : Except String Unit × Disk :=
  match reply with
  | .done => (.ok (), next)
  | .fails text => (.error text, disk)

/-- The member of a zip under a name. -/
def Disk.member (disk : Disk) (path : ZipPath) (name : List String) : Option Bytes :=
  ((disk.zip path).join.bind fun infos => infos.find? fun info => info.filename = name).map
    ZipInfo.data

variable (sqlite : Sqlite)

/-- The file system. -/
def fileSystem : Device Call Answer Reply Disk where
  respond disk call reply :=
    match call with
    | .markerIsFile => (disk.marker.isSome, { disk with replacing := false })
    | .readMarker =>
        (match disk.marker with
        | some marker => reply.value marker
        | none => .error "No such file or directory", disk)
    | .replaceMarker marker => reply.effect disk { disk with marker := some marker }
    | .unlinkMarker => reply.effect disk { disk with marker := none }
    | .zipIsFile path => ((disk.zip path).isSome, disk)
    | .readZip path =>
        (match disk.zip path with
        | some zip => reply.value zip
        | none => .error "No such file or directory", disk)
    | .readMember path name =>
        (match disk.member path name with
        | some data => reply.value data
        | none => .error ("There is no item named " ++ nameText name), disk)
    | .replaceZip path zip =>
        reply.effect disk { disk with zip := Function.update disk.zip path (some zip) }
    | .unlinkZip path => reply.effect disk { disk with zip := Function.update disk.zip path none }
    | .buildSafetyZip => (reply.value (buildBackupZip sqlite disk.files), disk)
    | .replaceSafety restoreId zip =>
        reply.effect disk { disk with safety := Function.update disk.safety restoreId (some zip) }
    | .replaceStatus status => reply.effect disk { disk with status := some status }
    | .replaceTarget target data =>
        reply.effect disk
          { disk with files := disk.files.insert target data, replacing := true }
    | .unlinkTarget target =>
        reply.effect { disk with kept := disk.kept || (disk.files.lookup target).isSome }
          { disk with files := disk.files.erase target, replacing := true }
    | .scratch => reply.effect disk disk

/-! ## Programs -/

/-- Programs over file operations. -/
abbrev Restoring := Program Call Answer Raised

/-- A file operation. -/
def attempt (call : Call) : Restoring (Answer call) := Program.ask call

/-- An operation, which raises where it fails. -/
def orRaise {α : Type} : Except String α → Restoring α
  | .ok value => pure value
  | .error text => throw (.other text)

/-- A temporary file or a directory is made. -/
def scratch : Restoring Unit := do orRaise (← attempt .scratch)

/-- `_unlink_if_exists` of a temporary file. -/
def unlinkScratch : Restoring Unit := do
  let _ ← attempt .scratch

/-- A temporary file is written and takes the place of the file: `replace` is that step. -/
def writeAtomically (replace : Restoring Unit) : Restoring Unit := do
  let written ← tryCatch (do scratch; replace; pure (Except.ok ())) fun raised =>
    pure (.error raised)
  -- `finally`.
  unlinkScratch
  match written with
  | .ok () => pure ()
  | .error raised => throw raised

/-- The value of a program, or what it raises. -/
def caught {α : Type} (program : Restoring α) : Restoring (Except Raised α) :=
  tryCatch (do pure (.ok (← program))) fun raised => pure (.error raised)

/-! ### Marker and status -/

/-- `_read_json_file` of the marker. -/
def readJsonFile : Restoring Marker := do
  match (← attempt .readMarker : Except String Marker) with
  | .ok marker => pure marker
  | .error _ => pure { state := .unreadable }

/-- `_unlink_if_exists` of the marker. -/
def unlinkMarker : Restoring Unit := do
  if (← attempt .markerIsFile : Bool) then
    let _ ← attempt .unlinkMarker

/-- `_unlink_if_exists` of a zip. -/
def unlinkZip (path : ZipPath) : Restoring Unit := do
  if (← attempt (.zipIsFile path) : Bool) then
    let _ ← attempt (.unlinkZip path)

/-- `_set_marker_state`. -/
def setMarkerState (request : Marker) (state : MarkerState) : Restoring Unit :=
  writeAtomically do orRaise (← attempt (.replaceMarker { request with state }))

/-- `_safe_write_status`. -/
def safeWriteStatus (status : Status) : Restoring Unit :=
  tryCatch (writeAtomically do orRaise (← attempt (.replaceStatus status))) fun _ => pure ()

/-! ### Staging -/

/-- `_ensure_no_pending_restore`. -/
def ensureNoPendingRestore : Restoring Unit := do
  if (← attempt .markerIsFile : Bool) then throw (.state "restore already staged")

/-- `_write_restore_marker`. -/
def writeRestoreMarker (limits : RestoreLimits) (restoreId : String) (path : ZipPath) :
    Restoring Marker := do
  let zip ← orRaise (← attempt (.readZip path))
  match validateRestoreZip sqlite limits zip with
  | .error raised => throw raised
  | .ok _ =>
      let payload : Marker := { restoreId := some restoreId, state := .staged, stagedZip := path }
      writeAtomically do orRaise (← attempt (.replaceMarker payload))
      pure payload

/-- `stage_restore_upload` and `stage_restore_upload_stream`, and `stage_restore_from_path` once
its path is resolved: what is uploaded or copied is `zip`. -/
def stageRestore (limits : RestoreLimits) (restoreId : String) (zip : Option (List ZipInfo)) :
    Restoring Marker := do
  scratch
  ensureNoPendingRestore
  let path := ZipPath.staged (restoreId ++ ".zip")
  tryCatch
    (do
      scratch
      orRaise (← attempt (.replaceZip path zip))
      writeRestoreMarker sqlite limits restoreId path)
    fun raised => do
      unlinkScratch
      unlinkZip path
      throw raised

/-- `cancel_staged_restore`. -/
def cancelStagedRestore : Restoring (Option String) := do
  if !(← attempt .markerIsFile : Bool) then throw (.notFound "no staged restore")
  let request ← readJsonFile
  if request.state ≠ .staged then
    throw (.state "restore cannot be cancelled after apply starts")
  orRaise (← attempt .unlinkMarker)
  if (← attempt (.zipIsFile request.stagedZip) : Bool) && request.stagedZip.isStaged then
    orRaise (← attempt (.unlinkZip request.stagedZip))
  pure request.restoreId

/-! ### Applying -/

/-- `_atomic_write` of a target. -/
def writeTarget (target : Target) (data : Bytes) : Restoring Unit := do
  scratch
  writeAtomically do orRaise (← attempt (.replaceTarget target data))

/-- `_remove_wal_shm`. -/
def removeWalShm : Restoring Unit :=
  [Target.wal, .shm].forM fun target => do
    let _ ← attempt (.unlinkTarget target)

/-- What is done with an entry; only the state DB's log is removed with it. -/
def applyEntry (path : ZipPath) (entry : RestoreEntry) : Restoring Unit := do
  match entryTarget entry with
  | none => throw (.validation "unrestorable entry kind")
  | some target =>
      let data ← orRaise (← attempt (.readMember path entry.name))
      writeTarget target data
      if entry.kind = .stateDb then removeWalShm

/-- `_apply_entries`: the state DB first. -/
def applyEntries (path : ZipPath) (plan : RestorePlan) : Restoring Unit := do
  let _ ← orRaise (← attempt (.readZip path))
  (plan.entries.filter fun entry => entry.kind = .stateDb).forM (applyEntry path)
  (plan.entries.filter fun entry => entry.kind ≠ .stateDb).forM (applyEntry path)

/-- `_write_safety_backup`; its path is named by the restore id. -/
def writeSafetyBackup (restoreId : Option String) : Restoring String := do
  let directory := restoreId.getD "unknown"
  scratch
  writeAtomically do
    let zip ← orRaise (← attempt .buildSafetyZip)
    orRaise (← attempt (.replaceSafety directory zip))
  pure directory

/-- `RestoreApplyResult`. -/
structure RestoreApplyResult where
  outcome : RestoreOutcome
  startWorkers : Bool
  restoreId : Option String := none
  deriving DecidableEq, Repr

/-- The first preflight: the staged zip is validated once more. -/
def revalidate (limits : RestoreLimits) (path : ZipPath) : Restoring RestorePlan := do
  if !(← attempt (.zipIsFile path) : Bool) || !path.isStaged then
    throw (.validation "staged restore zip missing or out of staging")
  let zip ← orRaise (← attempt (.readZip path))
  match validateRestoreZip sqlite limits zip with
  | .error raised => throw raised
  | .ok plan => pure plan

/-- The end of an apply that has replaced nothing. -/
def failPreflight (restoreId : Option String) (path : ZipPath) (detail : String) :
    Restoring RestoreApplyResult := do
  unlinkMarker
  unlinkZip path
  safeWriteStatus { restoreId, state := .failedPreflight, detail }
  pure { outcome := .failedPreflight, startWorkers := true, restoreId }

/-- The part of `apply_pending_restore` after the marker is `applying`. -/
def replaceAll (restoreId : Option String) (path : ZipPath) (plan : RestorePlan)
    (safetyBackup : String) : Restoring RestoreApplyResult := do
  match ← caught (applyEntries path plan) with
  | .error raised =>
      safeWriteStatus
        { restoreId, state := .failedPartial
          detail := "apply failed mid-replacement: " ++ raised.text ++
            "; recover from pre-restore-state.zip"
          safetyBackup := some safetyBackup }
      pure { outcome := .failedPartial, startWorkers := false, restoreId }
  | .ok () =>
      unlinkMarker
      unlinkZip path
      safeWriteStatus
        { restoreId, state := .applied, detail := "restore applied"
          safetyBackup := some safetyBackup }
      pure { outcome := .applied, startWorkers := true, restoreId }

/-- The part of `apply_pending_restore` for a staged marker. -/
def applyStaged (limits : RestoreLimits) (request : Marker) : Restoring RestoreApplyResult := do
  let restoreId := request.restoreId
  let path := request.stagedZip
  match ← caught (revalidate sqlite limits path) with
  | .error (.validation text) =>
      failPreflight restoreId path ("revalidation failed: " ++ text)
  | .error raised => throw raised
  | .ok plan =>
      match ← caught (writeSafetyBackup restoreId) with
      | .error raised => failPreflight restoreId path ("safety backup failed: " ++ raised.text)
      | .ok safetyBackup =>
          match ← caught (setMarkerState request .applying) with
          | .error raised =>
              failPreflight restoreId path ("could not start apply: " ++ raised.text)
          | .ok () => replaceAll restoreId path plan safetyBackup

/-- `apply_pending_restore`. -/
def applyPendingRestore (enabled : Bool) (limits : RestoreLimits) :
    Restoring RestoreApplyResult := do
  if !(← attempt .markerIsFile : Bool) then
    return { outcome := .noPending, startWorkers := true }
  let request ← readJsonFile
  let restoreId := request.restoreId
  if request.state = .applying then
    safeWriteStatus
      { restoreId, state := .failedPartial
        detail := "interrupted apply detected; recover from safety backup and clear marker" }
    return { outcome := .failedPartial, startWorkers := false, restoreId }
  if !enabled then
    return { outcome := .disabledSkip, startWorkers := true, restoreId }
  if request.state ≠ .staged then
    unlinkMarker
    safeWriteStatus
      { restoreId, state := .failedPreflight
        detail := "unexpected marker state: " ++ request.state.text }
    return { outcome := .failedPreflight, startWorkers := true, restoreId }
  applyStaged sqlite limits request

/-- `_apply_pending_restore_at_boot`: whether workers start. -/
def applyPendingRestoreAtBoot (enabled : Bool) (limits : RestoreLimits) : Restoring Bool :=
  tryCatch (do pure (← applyPendingRestore sqlite enabled limits).startWorkers) fun _ =>
    pure true

end Mintarr.Restore
