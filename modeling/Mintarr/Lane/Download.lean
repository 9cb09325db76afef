import Mintarr.Lane.Calls

/-!
# From the source to the output directory

The cancel check, the cancellable subprocess, `download_raw` of the adapters, and the
phases of `pipeline.execute_source_grab` before the import.  A loop that waits asks first
how often it finds what it waits for unfinished, and then makes that many rounds.
-/

namespace Mintarr.Lane

open Lib

/-! ## Helpers of the server -/

/-- `_raise_if_job_cancelled`; `tracked` says that there is a worker job. -/
def raiseIfJobCancelled (tracked : Bool) (handler : Handler) : Work Unit := do
  if tracked then
    match ← ask handler .isJobCancelRequested with
    | .ok true =>
        raising (← ask handler .markDownloadCancelled)
        throw .cancelled
    | .ok false | .error _ => pure ()

/-- `if condition: raise RuntimeError(text)`. -/
def raiseIf (condition : Bool) (text : String) : Work Unit :=
  if condition then throw (.error text) else pure ()

/-- `_jobs[jid].update(...)` and `_save_jobs`. -/
def saveJobs (handler : Handler) (update : JobUpdate) : Work Unit := do
  raising (← ask handler (.saveJobs update))

/-- `_set_worker_progress`. -/
def setWorkerProgress (handler : Handler) (stage : String) : Work Unit := do
  raising (← ask handler (.setWorkerProgress stage))

/-- `_record_job_timing`. -/
def recordJobTiming (handler : Handler) (stage : String) : Work Unit := do
  raising (← ask handler (.recordJobTiming stage))

/-- A step on files or processes. -/
def act (handler : Handler) (step : LocalStep) : Work Unit := do
  raising (← ask handler (.act step))

/-- The process is given ten seconds to end, then killed. The second wait may raise. -/
def stopProcess : Work Unit := do
  if !(← ask .download .processEnds) then
    act .download .waitKilledProcess

/-- The rounds of `_run_cancellable_subprocess` that find the process running. -/
def pollProcess : Nat → Work Unit
  | 0 => pure ()
  | polls + 1 => do
      tryCatch (raiseIfJobCancelled true .download) fun
        | .cancelled => do
            stopProcess
            throw .cancelled
        | .error text => throw (.error text)
      match ← ask .download .processTimedOut with
      | some text => do
          act .download .waitKilledProcess
          throw (.error text)
      | none => pollProcess polls

/-- `_run_cancellable_subprocess` for a worker job. -/
def runCancellableSubprocess : Work (Int × String) := do
  act .download .startProcess
  pollProcess (← ask .download .pollCount)
  raising (← ask .download .processResult)

/-! ## Adapters -/

/-- The adapters that are registered. -/
inductive Adapter where
  | tidal | localFolder | soulseek | sabUsenet | qbittorrentTorrent | backendCompleted
  deriving DecidableEq, Repr

/-- The name of the adapter. -/
def Adapter.name : Adapter → String
  | .tidal => "tidal"
  | .localFolder => "local"
  | .soulseek => "soulseek"
  | .sabUsenet => "sab_usenet"
  | .qbittorrentTorrent => "qbittorrent_torrent"
  | .backendCompleted => "backend_completed"

/-- `TidalAdapter.download_raw`. -/
def downloadTidal : Work Unit := do
  act .download .parseCandidateId
  act .download .makeRawDir
  raiseIfJobCancelled true .download
  setWorkerProgress .download "configuring"
  let (code, stderr) ← runCancellableSubprocess
  raiseIf (code ≠ 0) ("tidal-dl-ng cfg exited " ++ toString code ++ ": " ++ stderr)
  raiseIfJobCancelled true .download
  setWorkerProgress .download "downloading"
  let (code, stderr) ← runCancellableSubprocess
  raiseIf (code ≠ 0) ("tidal-dl-ng exited " ++ toString code ++ ": " ++ stderr)
  let fileCount ← raising (← ask .download .downloadedCount)
  raiseIf (fileCount = 0) "no audio files downloaded"
  setWorkerProgress .download "downloaded"

/-- One entry of a source folder. -/
def copyEntry (entry : SourceEntry) : Work Unit := do
  raiseIfJobCancelled true .download
  match entry with
  | .symlink path => throw (.error ("symlink blocked: " ++ path))
  | .directory => pure ()
  | .escape path => throw (.error ("path escape blocked: " ++ path))
  | .file path _ => raising (← ask .download (.copySource path))

/-- `download_raw` of the adapters that copy a completed folder. -/
def copyFolder : Work Unit := do
  act .download .resolveSource
  act .download .makeRawDir
  setWorkerProgress .download "copying"
  let entries ← raising (← ask .download .listSource)
  entries.forM copyEntry
  raiseIf (!entries.any fun entry => entry matches .file _ true)
    "no supported audio files copied"
  setWorkerProgress .download "copied"

/-- The rounds of `_wait_for_slskd_files`. -/
def waitForSlskdFiles (expected : Nat) : Nat → Work (List SourceEntry)
  | 0 => do
      let failure ← ask .download .slskdFailure
      throw (.error ("soulseek slskd download timed out" ++
        if failure = "" then "" else ": " ++ failure))
  | polls + 1 => do
      raiseIfJobCancelled true .download
      let paths ← raising (← ask .download .slskdPaths)
      if paths.length ≥ expected then
        act .download .validatePathsSettled
        pure paths
      else
        setWorkerProgress .download "slskd_wait"
        waitForSlskdFiles expected polls

/-- One path of `_copy_paths`. -/
def copySlskdEntry (entry : SourceEntry) : Work Unit := do
  raiseIfJobCancelled true .download
  match entry with
  | .file path true => raising (← ask .download (.copySource path))
  | _ => pure ()

/-- `_download_raw_from_slskd`. -/
def downloadFromSlskd : Work Unit := do
  let expected ← raising (← ask .download .slskdRequest)
  act .download .makeRawDir
  setWorkerProgress .download "slskd_queue"
  let _ ← raising (← ask .download .slskdPaths)
  act .download .queueSlskdDownload
  let paths ← waitForSlskdFiles expected (← ask .download .pollCount)
  setWorkerProgress .download "copying"
  paths.forM copySlskdEntry
  let total ← raising (← ask .download .copiedBytes)
  raiseIf (total = 0) "no supported audio files copied from slskd download"
  setWorkerProgress .download "copied"

/-- `download_raw`; `slskd` says that the candidate id starts with `slskd:`. -/
def Adapter.downloadRaw (slskd : Bool) : Adapter → Work Unit
  | .tidal => downloadTidal
  | .soulseek => if slskd then downloadFromSlskd else copyFolder
  | .localFolder | .sabUsenet | .qbittorrentTorrent | .backendCompleted => copyFolder

/-! ## Phases -/

/-- `normalize_audio`. What goes wrong with one file is logged. -/
def normalizeAudio : Work Unit := do
  let m4aFiles ← raising (← ask .executor (.listFiles ".m4a"))
  let _ ← raising (← ask .executor (.listFiles ".flac"))
  setWorkerProgress .executor "postprocess"
  m4aFiles.forM fun path => do
    raiseIfJobCancelled true .executor
    ask .executor (.convertFile path)
  let flacFiles ← raising (← ask .executor (.listFiles ".flac"))
  flacFiles.forM fun path => do
    raiseIfJobCancelled true .executor
    ask .executor (.testFile path)

/-- `prepare_output_directory`. -/
def prepareOutputDirectory : Work Unit := do
  raiseIfJobCancelled true .executor
  ask .executor .moveOutput
  act .executor .normalizeFlacExtensions
  act .executor .outputStatistics

/-- `execute_source_grab` up to the import; a failed download fails the job. -/
def downloadAndPrepare (adapter : Adapter) (slskd : Bool) : Work Unit := do
  saveJobs .executor { status := some .downloading }
  setWorkerProgress .executor "preparing"
  tryCatch (adapter.downloadRaw slskd) fun
    | .cancelled => throw .cancelled
    | .error text => do
        saveJobs .executor { status := some .failed, error := some text }
        throw (.error text)
  recordJobTiming .executor "tidal_download_sec"
  raiseIfJobCancelled true .executor
  saveJobs .executor { status := some .processing }
  normalizeAudio
  raiseIfJobCancelled true .executor
  prepareOutputDirectory
  recordJobTiming .executor "postprocess_sec"
  recordJobTiming .executor "pre_import_total_sec"
  setWorkerProgress .executor "ready_for_import"
  saveJobs .executor { status := some .processing }

end Mintarr.Lane
