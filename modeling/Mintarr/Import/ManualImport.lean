import Mintarr.Import.Gates

/-!
# From the gates to the library

The rest of `_trigger_lidarr_import`: the second lookup, the fallback on the job title,
the target guard, the ManualImport command, and the rescue that places files in the
library itself.  What Lidarr and the file system answer is an argument.
-/

namespace Mintarr.Import

open Policy

/-- How `_rescue_place_and_rescan` goes, past its cancel check. -/
inductive RescueAnswer where
  /-- A cancel was requested: `JobCancelled` is raised. -/
  | cancelled
  /-- It returns false, or raises, before it copies a file. -/
  | refused (raises : Bool)
  /-- It copies files; `none` where it raises afterwards, else whether Lidarr registered
  the files. -/
  | copied (registered : Option Bool)
  deriving DecidableEq

/-- What the outside answers after the gates; `Except.error` is a raised exception. -/
structure ManualImportAnswers where
  /-- `_maybe_auto_release_switch` switched a release. -/
  releaseSwitched : Bool
  /-- Status code and items of the second lookup. -/
  lookup : Except String (Int × List ManualImportItem)
  /-- The files that the search for the job title finds an album for, if it finds one. -/
  titleFiles : Except String (List ImportFile)
  /-- `_manualimport_target_guard_failure` of the job. -/
  targetGuard : List ManualImportItem → Option String
  /-- A cancel is requested before the command is posted. -/
  cancelRequested : Bool
  /-- Status code of the ManualImport command. -/
  command : Except String Int
  importedCount : Nat
  commandPending : Bool
  rescue : RescueAnswer

/-- How `_trigger_lidarr_import` ends. -/
inductive Ending where
  | returned
  | cancelled
  | raised (error : String)
  deriving DecidableEq

/-- A run of `_trigger_lidarr_import`. -/
structure ImportRun where
  events : List Event
  result : Option VerificationResult
  ending : Ending

namespace ImportRun

/-- The run after some events. -/
def after (run : ImportRun) (events : List Event) : ImportRun :=
  { run with events := events ++ run.events }

end ImportRun

/-- One item of `_manual_import_files_from_items`, which raises on an album without id. -/
def importFile (item : ManualImportItem) : Except String (Option ImportFile) :=
  if !item.rejections.isEmpty && !item.isReleaseFamilyRejection then .ok none
  else
    match item.artist, item.album with
    | some artistId, some album =>
        if item.tracks.isEmpty then .ok none
        else
          match [item.albumReleaseId, album.currentRelease, album.firstRelease].findSome?
              (Option.filter (·.truthy)) with
          | none => .ok none
          | some albumReleaseId =>
              match album.id with
              | none => .error "'id'"
              | some albumId =>
                  .ok (some
                    { path := item.path, artistId, albumId
                      albumReleaseId := some albumReleaseId
                      trackIds := item.tracks.map (·.id) })
    | _, _ => .ok none

/-- `_manual_import_files_from_items`. -/
def manualImportFilesFromItems (items : List ManualImportItem) :
    Except String (List ImportFile) :=
  (items.mapM importFile).map (·.filterMap id)

/-- `_rescue_place_and_rescan`: what it does, and what it returns or that it raises. -/
def rescuePlaceAndRescan (answer : RescueAnswer) (files : List ImportFile) :
    List Event × Except String Bool :=
  match answer with
  | .cancelled => ([], .error "cancel requested")
  | .refused raises => ([], if raises then .error "rescue" else .ok false)
  | .copied registered =>
      if files.isEmpty then ([], .ok false)
      else
        match registered with
        | none => ([.rescueCopied files], .error "rescue")
        | some true =>
            ([.rescueCopied files, .decisionLogged
                ⟨"RESCUED_BY_RESCAN", "place-files-and-rescan after manualimport-fail", none⟩],
              .ok true)
        | some false =>
            ([.rescueCopied files, .decisionLogged
                ⟨"RESCUE_FAILED", "Lidarr rescan did not register files", none⟩],
              .ok false)

namespace ImportContext

variable (context : ImportContext) (answers : ManualImportAnswers)

/-- `_restore_after_release_switch`. -/
def restore (trigger : String) : List Event :=
  if answers.releaseSwitched then [.releaseRestored trigger] else []

/-- The end of an import that Lidarr did not take. -/
def failImport (result : VerificationResult) (reason trigger : String) : ImportRun :=
  let failed := { result with importOutcome := .failed }
  { events :=
      [.decisionLogged (decisionRecord context.v2Enabled failed)] ++ context.sidecar false ++
        [.importFailed reason] ++ restore answers trigger ++ [.queueCleaned]
    result := some failed
    ending := .returned }

/-- The end of an import whose files are in the library. -/
def completeImport (result : VerificationResult) (outcome : ImportOutcome) : ImportRun :=
  let imported := { result with importOutcome := outcome }
  { events :=
      (if context.v2Enabled then
        [.sidecarWritten false, .decisionLogged (decisionRecord context.v2Enabled imported)]
      else []) ++ [.importCompleted]
    result := some imported
    ending := .returned }

/-- A lookup without candidates: the files of the job title are rescued, if any. -/
def zeroCandidates (result : VerificationResult) : ImportRun :=
  let failed :=
    context.failImport answers result "manualimport returned no candidates"
      "manualimport_zero_imported"
  match answers.titleFiles with
  | .error _ => failed
  | .ok files =>
      if files.isEmpty then failed
      else
        let (events, rescued) := rescuePlaceAndRescan answers.rescue files
        match rescued with
        -- Any exception is logged here, a cancel as well.
        | .error _ => failed.after events
        | .ok true => ⟨events, some result, .returned⟩
        | .ok false =>
            (context.failImport answers result
              "manualimport returned no candidates and rescue failed" "rescue_failed").after
                events

/-- After the command was posted: Lidarr imported the files, has the command pending, or the
rescue has to place them. -/
def confirmImport (result : VerificationResult) (files : List ImportFile) : ImportRun :=
  if answers.importedCount ≥ max 1 files.length then
    context.completeImport result .manualImported
  else if answers.commandPending then
    let pending := { result with importOutcome := .pending }
    { events :=
        context.sidecar false ++ restore answers "manualimport_timeout" ++
          [.warned "Lidarr ManualImport pending"]
      result := some pending
      ending := .returned }
  else
    let (events, rescued) := rescuePlaceAndRescan answers.rescue files
    match rescued with
    | .ok true => (context.completeImport result .rescued).after events
    -- The handler takes an exception, a cancel as well, for a failed rescue.
    | .ok false | .error _ =>
        (context.failImport answers result "manualimport and rescue failed"
          "rescue_failed").after events

/-- From the candidates of the second lookup to the ManualImport command. -/
def postManualImport (result : VerificationResult) (items : List ManualImportItem) :
    ImportRun :=
  match answers.targetGuard items with
  | some reason => context.failImport answers result reason "manualimport_rejected"
  | none =>
      match manualImportFilesFromItems items with
      | .error error => ⟨[], some result, .raised error⟩
      | .ok [] =>
          context.failImport answers result "no importable files after verification"
            "manualimport_rejected"
      | .ok files =>
          if answers.cancelRequested then ⟨[], some result, .cancelled⟩
          else
            match answers.command with
            | .error error => ⟨[.manualImportPosted files], some result, .raised error⟩
            | .ok _ =>
                (context.confirmImport answers result files).after [.manualImportPosted files]

/-- The ManualImport stage, from the release switch on. -/
def manualImport (result : VerificationResult) : ImportRun :=
  let run : ImportRun :=
    match answers.lookup with
    | .error error => ⟨[], some result, .raised error⟩
    | .ok (status, items) =>
        if status ≠ 200 then
          context.failImport answers result
            ("manualimport lookup failed: HTTP " ++ toString status) "manualimport_rejected"
        else if items.isEmpty then context.zeroCandidates answers result
        else context.postManualImport answers result items
  run.after (if answers.releaseSwitched then [.releaseSwitched] else [])

/-- `_trigger_lidarr_import`. -/
def triggerLidarrImport : ImportRun :=
  if context.cancelRequested then ⟨[], none, .cancelled⟩
  else if !context.lidarrKey then ⟨[], none, .returned⟩
  else
    match context.gates with
    | .raised => ⟨[], none, .raised "verification"⟩
    | .stopped events result => ⟨events, some result, .returned⟩
    | .proceeds events result => (context.manualImport answers result).after events

end ImportContext

end Mintarr.Import
