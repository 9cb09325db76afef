import Mathlib.Data.List.Dedup
import Mathlib.Data.List.Sort
import Mintarr.Lane.Download
import Mintarr.Queue.Workers

/-!
# `_trigger_lidarr_import` call by call

The gates are those of `Import.Gates`; here they are run, and so is everything after
them: the release switch, the lookup, the fallback on the job title, the ManualImport
command and the rescue, with every helper that may raise on the way.
-/

namespace Mintarr.Lane

open Lib Policy Import

/-- The arguments of an import and the settings it reads. -/
structure ImportRequest where
  /-- `V2_VERIFICATION_ENABLED`. -/
  v2Enabled : Bool
  /-- The release-switch strategy is `auto_high_confidence`. -/
  autoReleaseSwitch : Bool
  /-- `source_type` is `soulseek`. -/
  soulseek : Bool
  /-- `target_album_id`. -/
  targetAlbumId : Queue.Scalar

/-! ## Sidecars and the projection -/

/-- `_write_verification_sidecar`: into the output, or into the archive of blocked ones. A
sidecar found elsewhere is removed, if it can be. -/
def writeVerificationSidecar (handler : Handler) (result : VerificationResult)
    (archived : Bool) : Work Unit := do
  let existing ← ask handler .readSidecar
  let place : SidecarPlace := if archived then .blockedDecisions else .outputDir
  raising (← ask handler
    (.writeSidecar place (verificationRecord result (existing.map (·.2)))))
  match existing with
  | some (old, _) =>
      if old ≠ place then
        let _ ← ask handler (.unlinkSidecar old)
  | none => pure ()

/-- `_maybe_write_v2_sidecar`. -/
def maybeWriteV2Sidecar (handler : Handler) (request : ImportRequest)
    (result : VerificationResult) (archived : Bool) : Work Unit := do
  if request.v2Enabled then writeVerificationSidecar handler result archived

/-- `_mark_import_failed`. -/
def markImportFailed (handler : Handler) (reason : String) : Work Unit :=
  saveJobs handler
    { status := some .failed, error := some reason, lidarrHold := some false }

/-- `_mark_import_completed`. -/
def markImportCompleted (handler : Handler) : Work Unit :=
  saveJobs handler { status := some .completed, lidarrHold := some false }

/-- `_cleanup_lidarr_queue`: all but the last write is under its own handler. -/
def cleanupLidarrQueue (handler : Handler) : Work Unit := do
  ask handler .cleanLidarrQueue
  recordJobTiming handler "queue_cleanup_sec"

/-- `_create_review_required`. -/
def createReviewRequired (result : VerificationResult) : Work Unit := do
  writeVerificationSidecar .importToLidarr result false
  let record ← raising (← ask .importToLidarr .readBackRecord)
  if record.blocklistNow && !record.blocklistDone then
    let done ← ask .importToLidarr .blocklist
    raising (← ask .importToLidarr
      (.writeSidecar .outputDir { record with blocklistDone := done }))
  saveJobs .importToLidarr { status := some .reviewRequired, lidarrHold := some true }

/-! ## The gates -/

/-- An event of the gates. -/
def performEvent (result : VerificationResult) : Event → Work Unit
  | .decisionLogged record => ask .importToLidarr (.logDecision record)
  | .sidecarWritten archived => writeVerificationSidecar .importToLidarr result archived
  | .outputDeleted => ask .importToLidarr .deleteOutput
  | .jobFailed error =>
      saveJobs .importToLidarr { status := some .failed, error := some error }
  | .blocklisted => do
      let _ ← ask .importToLidarr .blocklist
  | .queueCleaned => cleanupLidarrQueue .importToLidarr
  | .warned _ => saveJobs .importToLidarr {}
  | .reviewMarked _ | .releaseSwitched | .releaseRestored _ | .manualImportPosted _
  | .rescueCopied _ | .importFailed _ | .importCompleted => pure ()

/-- What was read before the gates. -/
def evaluate (request : ImportRequest) : Work ImportContext := do
  setWorkerProgress .importToLidarr "lidarr_precheck"
  let items ← raising (← ask .importToLidarr .lookup)
  let readings ← ask .importToLidarr .precheck
  recordJobTiming .importToLidarr "lidarr_precheck_sec"
  setWorkerProgress .importToLidarr "flac_detective"
  let reply ← ask .importToLidarr .detective
  recordJobTiming .importToLidarr "flac_detective_sec"
  setWorkerProgress .importToLidarr "policy"
  pure { readings with items, reply, v2Enabled := request.v2Enabled }

/-- The gates; a result where the import goes on. -/
def passGates (context : ImportContext) : Work (Option VerificationResult) :=
  match context.gates with
  | .raised => do throw (.error (← ask .importToLidarr .verificationError))
  | .stopped events result => do
      if result.importOutcome = .skipped then
        -- `context.refuse`: the events in their order.
        events.forM (performEvent result)
      else
        -- `context.holdForReview`.
        ask .importToLidarr (.logDecision (decisionRecord context.v2Enabled result))
        createReviewRequired result
      pure none
  | .proceeds events result => do
      events.forM (performEvent result)
      pure (some result)

/-! ## Release switches -/

/-- `_release_switch_allowed_for_result`. -/
def releaseSwitchAllowedForResult (result : VerificationResult) : Bool :=
  result.verificationDecision ≠ .block &&
    !([.codecMismatch, .flacTFail, .validatorError].any fun override : Override =>
      override ∈ result.overrides) &&
    result.identity.decision ≠ .wrongAlbum

/-- `_album_ids_from_manualimport`. -/
def albumIdsFromManualimport (items : List ManualImportItem) : List Int :=
  ((items.filterMap fun item => (item.album.bind (·.id)).filter (· ≠ 0)).dedup).insertionSort
    (· ≤ ·)

/-- `_apply_release_switch_candidate`: the album, if Lidarr acknowledged the switch. -/
def applyReleaseSwitchCandidate (handler : Handler) (candidate : ReleaseSwitchCandidate) :
    Work (List Int) := do
  if !candidate.bestReleaseId.any (·.truthy) ||
      candidate.bestReleaseId = candidate.currentReleaseId then
    pure []
  else
    let reply ← ask handler (.switchAlbum candidate.albumId)
    let _ ← raising reply.status
    pure (if reply.acknowledged then [candidate.albumId] else [])

/-- One album of `_maybe_auto_release_switch`. -/
def autoReleaseSwitch (albumId : Int) : Work (List Int) :=
  tryCatch
    (do
      match ← raising (← ask .releaseSwitch (.switchCandidate albumId)) with
      | none => pure []
      | some candidate =>
          if candidate.highConfidence then
            applyReleaseSwitchCandidate .releaseSwitch { candidate with albumId }
          else pure [])
    fun _ => pure []

/-- `_maybe_auto_release_switch`: the albums that were switched, in order. -/
def maybeAutoReleaseSwitch (request : ImportRequest) (items : List ManualImportItem)
    (result : VerificationResult) : Work (List Int) := do
  if request.autoReleaseSwitch && releaseSwitchAllowedForResult result &&
      items.any (·.isReleaseFamilyRejection) then
    if (← ask .importToLidarr .audioFileCount) < 4 then pure []
    else
      (albumIdsFromManualimport items).foldlM
        (fun applied albumId => do pure (applied ++ (← autoReleaseSwitch albumId))) []
  else pure []

/-- `_restore_release_switches`. An album without id is skipped; the snapshot of a candidate
has releases and is not empty. -/
def restoreReleaseSwitches (handler : Handler) (audits : List Int) : Work Unit :=
  audits.reverse.forM fun albumId => do
    if albumId ≠ 0 then
      let _ ← ask handler (.restoreAlbum albumId)

/-! ## Exits -/

/-- The end of an import that Lidarr did not take, after its time was recorded. -/
def closeFailed (handler : Handler) (request : ImportRequest) (result : VerificationResult)
    (audits : List Int) (reason : String) : Work Unit := do
  let failed := { result with importOutcome := .failed }
  ask handler (.setV2ImportOutcome .failed)
  ask handler (.logDecision (decisionRecord request.v2Enabled failed))
  maybeWriteV2Sidecar handler request failed false
  markImportFailed handler reason
  restoreReleaseSwitches handler audits
  cleanupLidarrQueue handler

/-- The end of an import that Lidarr did not take. -/
def failImport (handler : Handler) (request : ImportRequest) (result : VerificationResult)
    (audits : List Int) (reason : String) : Work Unit := do
  recordJobTiming handler "lidarr_manualimport_sec"
  closeFailed handler request result audits reason

/-- The end of an import whose files are in the library. -/
def completeImport (handler : Handler) (request : ImportRequest)
    (result : VerificationResult) (outcome : ImportOutcome) : Work Unit := do
  let imported := { result with importOutcome := outcome }
  recordJobTiming handler "lidarr_manualimport_sec"
  ask handler (.setV2ImportOutcome outcome)
  if request.v2Enabled then
    writeVerificationSidecar handler imported false
    ask handler (.logDecision (decisionRecord request.v2Enabled imported))
  markImportCompleted handler

/-- The end of an import whose command Lidarr has still to run. -/
def leavePending (request : ImportRequest) (result : VerificationResult)
    (audits : List Int) : Work Unit := do
  recordJobTiming .importToLidarr "lidarr_manualimport_sec"
  ask .importToLidarr (.setV2ImportOutcome .pending)
  maybeWriteV2Sidecar .importToLidarr request { result with importOutcome := .pending } false
  restoreReleaseSwitches .importToLidarr audits
  saveJobs .importToLidarr {}

/-! ## The rescue -/

/-- One file of the rescue: the number of files copied. -/
def rescueFile (handler : Handler) (moved : Nat) (file : ImportFile) : Work Nat := do
  if ← raising (← ask handler (.sourceExists file)) then
    if ← ask handler (.copyToLibrary file) then pure (moved + 1) else pure moved
  else pure moved

/-- The rescue past its cancel check. -/
def placeAndRescan (handler : Handler) (files : List ImportFile) : Work Bool := do
  if !(← ask handler .rescueEnabled) then pure false
  else
    match files with
    | [] => pure false
    | first :: _ =>
        raising (← ask handler (.getAlbum first.albumId))
        raising (← ask handler (.getArtist first.artistId))
        if !(← ask handler .folderContained) then pure false
        else
          act handler .makeAlbumFolder
          let moved ← files.foldlM (rescueFile handler) 0
          if moved = 0 then pure false
          else
            raising (← ask handler (.refreshArtist first.artistId))
            let registered ← raising (← ask handler (.registeredTrackFiles first.albumId))
            if registered ≥ max 1 ((moved + 1) / 2) then
              ask handler (.logDecision
                ⟨"RESCUED_BY_RESCAN", "place-files-and-rescan after manualimport-fail", none⟩)
              raising (← ask handler .hideFromLidarr)
              pure true
            else
              ask handler (.logDecision
                ⟨"RESCUE_FAILED", "Lidarr rescan did not register files", none⟩)
              pure false

/-- `_rescue_place_and_rescan`. -/
def rescuePlaceAndRescan (tracked : Bool) (handler : Handler) (files : List ImportFile) :
    Work Bool := do
  raiseIfJobCancelled tracked handler
  placeAndRescan handler files

/-! ## ManualImport -/

/-- The first part of `_manualimport_target_guard_failure`: the target as a number, against
the albums of the candidates. -/
def targetMismatch (target : Queue.Scalar) (items : List ManualImportItem) :
    Option String :=
  let expected : Option Int :=
    match target with
    | .null => none
    | .int albumId => some albumId
    | .str text => if text = "" then none else Queue.parseInt text
  expected.bind fun expected =>
    let mismatched := (albumIdsFromManualimport items).filter (· ≠ expected)
    if mismatched.isEmpty then none
    else some ("manualimport target album mismatch: expected Lidarr albumId " ++
      toString expected ++ ", got " ++ toString mismatched)

/-- `_manualimport_target_guard_failure`; the second part compares the album titles of a
Soulseek import with the title of the job. -/
def manualimportTargetGuardFailure (request : ImportRequest) (target : Queue.Scalar)
    (items : List ManualImportItem) : Work (Option String) := do
  match targetMismatch target items with
  | some reason => pure (some reason)
  | none =>
      if request.soulseek then ask .importToLidarr (.soulseekTitleMismatch items)
      else pure none

/-- The fallback for a lookup without candidates: whether it ended the import. -/
def titleRescue (request : ImportRequest) (result : VerificationResult)
    (audits : List Int) : Work Bool := do
  let hits ← raising (← ask .titleRescue .searchArtists)
  match hits.find? (·.named) with
  | none => pure false
  | some artist =>
      let albums ← raising (← ask .titleRescue (.artistAlbums artist.artistId))
      match albums.find? (·.titled) with
      | none => pure false
      | some album =>
          let paths ← raising (← ask .titleRescue .outputFiles)
          let files : List ImportFile := paths.map fun path =>
            { path, artistId := artist.artistId, albumId := album.albumId }
          if files.isEmpty then pure false
          else
            let rescued ← rescuePlaceAndRescan true .titleRescue files
            recordJobTiming .titleRescue "lidarr_manualimport_sec"
            if !rescued then
              closeFailed .titleRescue request result audits
                "manualimport returned no candidates and rescue failed"
            pure true

/-- A lookup without candidates. Any exception of the fallback is logged, a cancel too. -/
def zeroCandidates (request : ImportRequest) (result : VerificationResult)
    (audits : List Int) : Work Unit := do
  let ended ← tryCatch (titleRescue request result audits) fun _ => pure false
  if !ended then
    failImport .importToLidarr request result audits "manualimport returned no candidates"

/-- The rescue after a ManualImport that did not import. -/
def rescueAfterManualImport (request : ImportRequest) (result : VerificationResult)
    (audits : List Int) (files : List ImportFile) : Work Unit :=
  tryCatch
    (do
      if ← rescuePlaceAndRescan true .rescue files then
        completeImport .rescue request result .rescued
      else
        failImport .rescue request result audits "manualimport and rescue failed")
    fun _ =>
      failImport .importToLidarr request result audits "manualimport and rescue failed"

/-- From the last cancel check to the end. -/
def postManualImport (request : ImportRequest) (result : VerificationResult)
    (audits : List Int) (files : List ImportFile) : Work Unit := do
  ask .importToLidarr .preCounts
  raiseIfJobCancelled true .importToLidarr
  let _ ← raising (← ask .importToLidarr (.postManualImport files))
  setWorkerProgress .importToLidarr "manualimport"
  if (← raising (← ask .importToLidarr .importedCount)) ≥ max 1 files.length then
    completeImport .importToLidarr request result .manualImported
  else if ← raising (← ask .importToLidarr .commandPending) then
    leavePending request result audits
  else rescueAfterManualImport request result audits files

/-- The candidates of the lookup. -/
def importCandidates (request : ImportRequest) (target : Queue.Scalar)
    (result : VerificationResult) (audits : List Int) (items : List ManualImportItem) :
    Work Unit := do
  match ← manualimportTargetGuardFailure request target items with
  | some reason => failImport .importToLidarr request result audits reason
  | none =>
      let files ← raising (manualImportFilesFromItems items)
      if files.isEmpty then
        failImport .importToLidarr request result audits
          "no importable files after verification"
      else postManualImport request result audits files

/-- From the lookup on. -/
def manualImport (request : ImportRequest) (target : Queue.Scalar)
    (result : VerificationResult) (audits : List Int) : Work Unit := do
  setWorkerProgress .importToLidarr "manualimport_lookup"
  let (status, body) ← raising (← ask .importToLidarr .getManualImport)
  if status ≠ 200 then
    failImport .importToLidarr request result audits
      ("manualimport lookup failed: HTTP " ++ toString status)
  else
    let items ← raising body
    if items.isEmpty then zeroCandidates request result audits
    else importCandidates request target result audits items

/-- The release switch, and the second lookup after it. -/
def switchAndImport (request : ImportRequest) (target : Queue.Scalar)
    (items : List ManualImportItem) (result : VerificationResult) : Work Unit := do
  let audits ← maybeAutoReleaseSwitch request items result
  if !audits.isEmpty then
    let _ ← raising (← ask .importToLidarr .lookup)
  manualImport request target result audits

/-- The target of a Soulseek import without one is inferred from the grab in Lidarr. -/
def resolveTarget (request : ImportRequest) : Work Queue.Scalar := do
  if request.soulseek && (request.targetAlbumId = .null || request.targetAlbumId = .str "") then
    match ← ask .importToLidarr .inferTarget with
    | none => pure .null
    | some albumId =>
        saveJobs .importToLidarr { targetAlbumId := some albumId }
        pure (.int albumId)
  else pure request.targetAlbumId

/-- `_trigger_lidarr_import`. -/
def triggerLidarrImport (request : ImportRequest) : Work Unit := do
  raiseIfJobCancelled true .importToLidarr
  if ← ask .importToLidarr .lidarrKey then
    let target ← resolveTarget request
    let context ← evaluate request
    match ← passGates context with
    | none => pure ()
    | some result => switchAndImport request target context.items result

end Mintarr.Lane
