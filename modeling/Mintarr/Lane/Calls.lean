import Mintarr.Backend.Lane
import Mintarr.Import.ManualImport
import Mintarr.Lib.Program

/-!
# What a job calls

An executor is a program over the calls below: the job row, the projection in `_jobs`,
files and processes, Lidarr, and the verification sidecars.  A call is answered by what
the code gets back from it, a raised exception included, so that the programs decide
nothing that the code does not decide.

Each call carries the handler it stands under, the innermost `except` around it in the
source, because the same helper is called where an exception ends the job and where it
is logged and forgotten.
-/

namespace Mintarr.Lane

open Lib Policy Import

/-- What a job raises: `JobCancelled`, or an exception with its text. -/
inductive Raised where
  | cancelled
  | error (text : String)
  deriving DecidableEq, Repr

/-- The innermost handler around a call. -/
inductive Handler where
  /-- The call is one of `worker._execute_job`. -/
  | worker
  /-- None before the worker. -/
  | executor
  /-- The one around `download_raw`, which raises again. -/
  | download
  /-- The one of `import_to_lidarr`. -/
  | importToLidarr
  /-- The one around each album of `_maybe_auto_release_switch`. -/
  | releaseSwitch
  /-- The one around the fallback on the job title, for a lookup without candidates. -/
  | titleRescue
  /-- The one around the rescue after a ManualImport. -/
  | rescue
  /-- The one of `_source_grab_terminal_result`. -/
  | terminalResult
  /-- The ones of `verification_release_switch`. -/
  | endpoint
  /-- The ones around the mirror of a backend job. -/
  | mirror
  /-- The one of `_execute_library_scan_job`. -/
  | libraryScan
  /-- The one around each item of a spectral scan. -/
  | scanItem
  deriving DecidableEq, Repr

/-! ## The projection -/

/-- `_jobs[jid]["status"]`. -/
inductive JobStatus where
  | queued | downloading | processing | completed | failed | reviewRequired
  deriving DecidableEq, Repr

/-- The status as the projection spells it. -/
def JobStatus.text : JobStatus → String
  | .queued => "queued"
  | .downloading => "downloading"
  | .processing => "processing"
  | .completed => "completed"
  | .failed => "failed"
  | .reviewRequired => "review_required"

/-- The fields of `_jobs[jid]` that the pipeline reads back. -/
structure JobEntry where
  status : Option JobStatus := none
  error : Option String := none
  lidarrHold : Bool := false
  deriving DecidableEq, Repr

/-- The fields that an update sets. -/
structure JobUpdate where
  status : Option JobStatus := none
  error : Option String := none
  lidarrHold : Option Bool := none
  targetAlbumId : Option Int := none
  deriving DecidableEq, Repr

/-- What `_backend_ingest_outcome` reads. -/
def JobEntry.projection (entry : JobEntry) : Backend.Projection where
  status := entry.status.elim "" JobStatus.text
  lidarrHold := entry.lidarrHold

/-- `_jobs[jid].update(...)`. -/
def JobEntry.update (entry : JobEntry) (update : JobUpdate) : JobEntry where
  status := update.status <|> entry.status
  error := update.error <|> entry.error
  lidarrHold := update.lidarrHold.getD entry.lidarrHold

/-! ## Sidecars -/

/-- Where a sidecar may lie, in the order in which `_find_verification_sidecar` looks. -/
inductive SidecarPlace where
  /-- The `output_dir` of the projection. -/
  | outputDir
  /-- `OUTPUT_BASE / jid`, where it is another directory. -/
  | outputBase
  | blockedDecisions | discarded | expiredReview
  deriving DecidableEq, Repr

/-- `lifecycle["state"]`. -/
inductive LifecycleState where
  | created | pendingReview | promoted | discarded | expired
  deriving DecidableEq, Repr

/-- The fields of a verification sidecar that decide what may be done with it. -/
structure SidecarRecord where
  decision : VerificationDecision
  outcome : ImportOutcome
  lifecycle : LifecycleState
  overrides : List Override := []
  /-- `manual_promote` is among the overrides. -/
  manualPromote : Bool := false
  /-- `release_identity_decision`. -/
  identity : Option IdentityDecision := none
  /-- `lifecycle["blocklist_policy"]` is `blocklist_now`. -/
  blocklistNow : Bool := false
  /-- `lifecycle["blocklist_status"]` is `done`. -/
  blocklistDone : Bool := false
  deriving DecidableEq, Repr

/-- `_is_promotable`. -/
def SidecarRecord.isPromotable (record : SidecarRecord) : Bool :=
  (record.decision = .reviewRequired && record.lifecycle = .pendingReview) ||
    (record.decision = .acceptProvisional &&
      (record.outcome = .failed || record.outcome = .pending) && record.manualPromote)

/-- `_is_retryable_verified_import`. -/
def SidecarRecord.isRetryableVerifiedImport (record : SidecarRecord) : Bool :=
  (record.decision = .accept || record.decision = .acceptProvisional) &&
    (record.outcome = .failed || record.outcome = .pending) &&
    record.lifecycle ≠ .discarded && record.lifecycle ≠ .expired

/-- `_verification_record`: a lifecycle that the sidecar has already is kept. -/
def verificationRecord (result : VerificationResult) (existing : Option SidecarRecord) :
    SidecarRecord where
  decision := result.verificationDecision
  outcome := result.importOutcome
  lifecycle :=
    match existing with
    | none => if result.verificationDecision = .reviewRequired then .pendingReview else .created
    | some existing => existing.lifecycle
  overrides := result.overrides
  identity := some result.identity.decision
  blocklistNow :=
    match existing with
    | none =>
        result.verificationDecision = .reviewRequired && .fakeHiRes ∉ result.overrides
    | some existing => existing.blocklistNow
  blocklistDone := existing.any SidecarRecord.blocklistDone

/-! ## Lidarr -/

/-- The best release of an album, by `_release_switch_candidate_for_album`. -/
structure ReleaseSwitchCandidate where
  albumId : Int
  currentReleaseId : Option ReleaseId
  bestReleaseId : Option ReleaseId
  /-- `best_score` and `margin` reach the bounds of the automatic switch. -/
  highConfidence : Bool
  deriving DecidableEq, Repr

/-- A PUT of an album: what Lidarr did with it, and what the code gets back. A request that
was executed may lose its reply. -/
structure AlbumReply where
  applied : Bool
  status : Except String Int
  deriving DecidableEq

/-- The reply is a success. -/
def AlbumReply.acknowledged (reply : AlbumReply) : Bool :=
  match reply.status with
  | .ok status => 200 ≤ status && status < 300
  | .error _ => false

/-- An artist that Lidarr's search returns. -/
structure ArtistHit where
  artistId : Int
  /-- The name contains the artist of the job title. -/
  named : Bool
  deriving DecidableEq, Repr

/-- An album of an artist. -/
structure AlbumHit where
  albumId : Int
  /-- The title contains the album of the job title. -/
  titled : Bool
  deriving DecidableEq, Repr

/-! ## Files -/

/-- What `rglob` finds in a source folder. -/
inductive SourceEntry where
  | symlink (path : String)
  | directory
  /-- It resolves to a place outside the root. -/
  | escape (path : String)
  | file (path : String) (audio : Bool)
  deriving DecidableEq, Repr

/-- Steps on files and processes that give nothing back but may raise. -/
inductive LocalStep where
  | parseCandidateId | makeRawDir | resolveSource | queueSlskdDownload | validatePathsSettled
  | startProcess | waitKilledProcess | normalizeFlacExtensions | outputStatistics
  | makeAlbumFolder
  deriving DecidableEq, Repr

/-! ## Calls -/

/-- The operation of a call. -/
inductive Op where
  -- The cancel flag of the job row, and `_mark_download_cancelled`.
  | isJobCancelRequested
  | markDownloadCancelled
  -- The projection; each but `readJob` ends in `_save_jobs`.
  | saveJobs (update : JobUpdate)
  | readJob
  | hideFromLidarr
  | setWorkerProgress (stage : String)
  | recordJobTiming (stage : String)
  -- Files and processes of the download.
  | act (step : LocalStep)
  | adapterRegistered
  /-- How often a loop finds what it waits for unfinished. -/
  | pollCount
  /-- The text of `TimeoutExpired`, when the time of the process is up. -/
  | processTimedOut
  /-- The terminated process ends within ten seconds. -/
  | processEnds
  /-- Return code and the end of stderr. -/
  | processResult
  | downloadedCount
  | listSource
  | copySource (path : String)
  | slskdRequest
  | slskdPaths
  | copiedBytes
  | slskdFailure
  | listFiles (suffix : String)
  | convertFile (path : String)
  | testFile (path : String)
  | moveOutput
  -- Sidecars and the audit log.
  | logDecision (record : DecisionRecord)
  | setV2ImportOutcome (outcome : ImportOutcome)
  | readSidecar
  | writeSidecar (place : SidecarPlace) (record : SidecarRecord)
  | unlinkSidecar (place : SidecarPlace)
  /-- The sidecar in the output directory, which was just written. -/
  | readBackRecord
  | deleteOutput
  | outputExists
  /-- `_worker_terminal_progress`: the result state and the stage. -/
  | terminalProgress (record : SidecarRecord) (entry : JobEntry)
  /-- `dashboard.derive_status`. -/
  | derivedStatus (record : SidecarRecord)
  -- The worker.
  | report (report : Queue.Report)
  | scheduleJobRetry (error : String)
  -- Library scans.
  | updateScanRun (state : Queue.JobState)
  | heartbeatJob
  | spectralEnabled
  | fetchTrackfiles
  | updateJobProgress
  | priorItemTerminal (trackfileId : Int)
  | upsertScanItem (trackfileId : Int)
  | measureItem (trackfileId : Int)
  | submitItem (trackfileId : Int)
  /-- How many futures are done at once, less one. -/
  | finishedFutures
  | futureResult (trackfileId : Int)
  | shutdownPool
  | updateScanProgress
  -- The mirror of a backend job.
  | getBackendJob
  | updateBackendJob (state : Backend.BackendState)
  | upsertFromSidecar (record : SidecarRecord)
  | updateRecordImportOutcome
  /-- The job is one of `list_imported_backend_jobs_with_pending_records`. -/
  | importedWithPendingRecord
  -- Lidarr and the Detective before the import.
  | lidarrKey
  | inferTarget
  /-- `_lookup()`, whose own exceptions give no candidates, and the reading of its items. -/
  | lookup
  | precheck
  | detective
  | verificationError
  | blocklist
  | cleanLidarrQueue
  -- Release switches.
  | audioFileCount
  /-- `_release_switch_album_ids_for_record`. -/
  | albumIdsForRecord
  | switchCandidate (albumId : Int)
  | switchAlbum (albumId : Int)
  | restoreAlbum (albumId : Int)
  -- ManualImport.
  | getManualImport
  /-- The second part of `_manualimport_target_guard_failure`. -/
  | soulseekTitleMismatch (items : List ManualImportItem)
  | searchArtists
  | artistAlbums (artistId : Int)
  | outputFiles
  | preCounts
  | postManualImport (files : List ImportFile)
  | importedCount
  | commandPending
  -- Rescue.
  | rescueEnabled
  | getAlbum (albumId : Int)
  | getArtist (artistId : Int)
  | folderContained
  | sourceExists (file : ImportFile)
  | copyToLibrary (file : ImportFile)
  | refreshArtist (artistId : Int)
  | registeredTrackFiles (albumId : Int)

/-- What the code gets back from a call. -/
@[reducible] def Op.Answer : Op → Type
  | .isJobCancelRequested | .sourceExists _ | .commandPending | .updateRecordImportOutcome =>
      Except String Bool
  | .markDownloadCancelled | .saveJobs _ | .hideFromLidarr | .setWorkerProgress _
  | .recordJobTiming _ | .act _ | .copySource _ | .writeSidecar .. | .getAlbum _
  | .getArtist _ | .refreshArtist _ | .upsertFromSidecar _ => Except String Unit
  | .readJob => JobEntry
  | .adapterRegistered | .processEnds | .unlinkSidecar _ | .outputExists | .lidarrKey
  | .blocklist | .rescueEnabled | .folderContained | .copyToLibrary _ | .report _
  | .scheduleJobRetry _ | .updateBackendJob _ | .importedWithPendingRecord
  | .updateScanRun _ | .spectralEnabled => Bool
  | .pollCount | .audioFileCount | .finishedFutures => Nat
  | .processTimedOut | .soulseekTitleMismatch _ => Option String
  | .processResult => Except String (Int × String)
  | .downloadedCount | .copiedBytes | .slskdRequest | .importedCount | .registeredTrackFiles _ =>
      Except String Nat
  | .listSource | .slskdPaths => Except String (List SourceEntry)
  | .listFiles _ | .outputFiles => Except String (List String)
  | .measureItem _ | .futureResult _ => Except String Unit
  | .priorItemTerminal _ => Bool
  | .fetchTrackfiles => Except String (List (Option Int))
  | .slskdFailure | .verificationError | .derivedStatus _ => String
  | .convertFile _ | .testFile _ | .moveOutput | .logDecision _ | .setV2ImportOutcome _
  | .deleteOutput | .cleanLidarrQueue | .preCounts | .heartbeatJob | .updateJobProgress
  | .upsertScanItem _ | .submitItem _ | .shutdownPool | .updateScanProgress => Unit
  | .readSidecar => Option (SidecarPlace × SidecarRecord)
  | .readBackRecord => Except String SidecarRecord
  | .terminalProgress .. => Except String (String × String)
  | .getBackendJob => Option Backend.BackendState
  | .albumIdsForRecord => List Int
  | .inferTarget => Option Int
  | .lookup => Except String (List ManualImportItem)
  | .precheck => ImportContext
  | .detective => DetectiveReply
  | .switchCandidate _ => Except String (Option ReleaseSwitchCandidate)
  | .switchAlbum _ | .restoreAlbum _ => AlbumReply
  | .getManualImport => Except String (Int × Except String (List ManualImportItem))
  | .searchArtists => Except String (List ArtistHit)
  | .artistAlbums _ => Except String (List AlbumHit)
  | .postManualImport _ => Except String Int

/-- An operation and the handler it stands under. -/
structure Call where
  handler : Handler
  op : Op

/-- Programs of the job threads. -/
abbrev Work := Program Call (fun call => call.op.Answer) Raised

/-- The call alone. -/
def ask (handler : Handler) (op : Op) : Work op.Answer :=
  Program.ask (⟨handler, op⟩ : Call)

/-- The value of an answer, or the exception. -/
def raising {α : Type} : Except String α → Work α
  | .ok value => pure value
  | .error text => throw (.error text)

/-! ## Where nothing goes wrong -/

/-- One FLAC file that Lidarr matches to a track of the wanted release. -/
def matchedItem : ManualImportItem where
  path := "/downloads/song.flac"
  artist := some 5
  album := some { id := some 3, currentRelease := some (.number 9) }
  tracks := [⟨11, "song"⟩]

/-- The reading of that file before the gates, over an empty library. -/
def matchedContext : ImportContext where
  cancelRequested := false
  lidarrKey := true
  v2Enabled := true
  reply := .response 200 "" (.ok ⟨some (some "AUTHENTIC"), .entries [{}]⟩)
  output := [⟨".flac", "song", [], []⟩]
  codecGateSkipped := 0
  items := [matchedItem]
  existingKbps := 0
  existingLabel := "nothing"
  existingTrackCount := 0
  expectedTrackCount := 1
  cdRip := none
  cdRipScoring := false
  measuredExisting := false
  measured :=
    { library := ⟨false, fun _ => .error "library not mounted", fun _ => none⟩
      rows := [], spectralEnabled := false, requireIntegrity := false }
  outputContained := true
  grabInHistory := true

/-- The answer of a call on which nothing goes wrong. -/
def Op.usual : (op : Op) → op.Answer
  | .isJobCancelRequested | .commandPending => .ok false
  | .sourceExists _ | .updateRecordImportOutcome => .ok true
  | .markDownloadCancelled | .saveJobs _ | .hideFromLidarr | .setWorkerProgress _
  | .recordJobTiming _ | .act _ | .copySource _ | .writeSidecar .. | .getAlbum _
  | .getArtist _ | .refreshArtist _ | .upsertFromSidecar _ => .ok ()
  | .readJob => { status := some .processing }
  | .adapterRegistered | .processEnds | .unlinkSidecar _ | .outputExists | .lidarrKey
  | .blocklist | .rescueEnabled | .folderContained | .copyToLibrary _ | .report _
  | .scheduleJobRetry _ | .updateBackendJob _ | .importedWithPendingRecord
  | .updateScanRun _ | .spectralEnabled => true
  | .pollCount | .finishedFutures => 0
  | .audioFileCount => 4
  | .processTimedOut | .soulseekTitleMismatch _ => none
  | .processResult => .ok (0, "")
  | .downloadedCount | .copiedBytes | .slskdRequest | .importedCount
  | .registeredTrackFiles _ => .ok 1
  | .listSource | .slskdPaths => .ok [.file "song.flac" true]
  | .listFiles _ | .outputFiles => .ok ["song.flac"]
  | .measureItem _ | .futureResult _ => .ok ()
  | .priorItemTerminal _ => false
  | .fetchTrackfiles => .ok [some 1]
  | .slskdFailure | .verificationError => ""
  | .derivedStatus _ => "accepted"
  | .convertFile _ | .testFile _ | .moveOutput | .logDecision _ | .setV2ImportOutcome _
  | .deleteOutput | .cleanLidarrQueue | .preCounts | .heartbeatJob | .updateJobProgress
  | .upsertScanItem _ | .submitItem _ | .shutdownPool | .updateScanProgress => ()
  | .readSidecar => none
  | .readBackRecord => .error "verification.json"
  | .terminalProgress .. => .ok ("accepted", "done")
  | .getBackendJob => some .importing
  | .albumIdsForRecord => [3]
  | .inferTarget => none
  | .lookup => .ok [matchedItem]
  | .precheck => matchedContext
  | .detective => matchedContext.reply
  | .switchCandidate _ => .ok none
  | .switchAlbum _ | .restoreAlbum _ => ⟨true, .ok 202⟩
  | .getManualImport => .ok (200, .ok [matchedItem])
  | .searchArtists => .ok [⟨5, true⟩]
  | .artistAlbums _ => .ok [⟨3, true⟩]
  | .postManualImport _ => .ok 201

end Mintarr.Lane
