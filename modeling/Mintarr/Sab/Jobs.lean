import Mintarr.Lane.Calls

/-!
# The projection towards Lidarr

`_jobs` holds one entry for each download, and the emulated SAB answers Lidarr's queue and
history requests from it.  The whole dictionary is written to a JSON file after each change
and read back when the process starts.  Each writer of an entry keeps its name; the sizes
that are computed for a queue slot are left out.
-/

namespace Mintarr.Sab

open Lib Lane Backend

/-- Seconds since the epoch. -/
abbrev Time := Queue.Time

/-! ## Entries -/

/-- One entry of `_jobs`; a key is absent where the field is `none`.  An absent flag is
false. -/
structure Entry where
  id : String
  status : Option JobStatus := none
  hiddenFromLidarr : Bool := false
  lidarrHold : Bool := false
  createdAt : Option Time := none
  completedAt : Option Time := none
  title : Option String := none
  category : Option String := none
  outputDir : Option String := none
  size : Option Nat := none
  error : Option String := none
  stage : Option String := none
  warning : Option String := none
  percent : Option Int := none
  deriving DecidableEq

/-- The keys that an update sets. -/
structure Fields where
  status : Option JobStatus := none
  hiddenFromLidarr : Option Bool := none
  lidarrHold : Option Bool := none
  completedAt : Option Time := none
  title : Option String := none
  outputDir : Option String := none
  size : Option Nat := none
  error : Option String := none
  stage : Option String := none
  warning : Option String := none
  percent : Option Int := none

/-- `job.update(...)`. -/
def Entry.update (fields : Fields) (entry : Entry) : Entry where
  id := entry.id
  status := fields.status <|> entry.status
  hiddenFromLidarr := fields.hiddenFromLidarr.getD entry.hiddenFromLidarr
  lidarrHold := fields.lidarrHold.getD entry.lidarrHold
  createdAt := entry.createdAt
  completedAt := fields.completedAt <|> entry.completedAt
  title := fields.title <|> entry.title
  category := entry.category
  outputDir := fields.outputDir <|> entry.outputDir
  size := fields.size <|> entry.size
  error := fields.error <|> entry.error
  stage := fields.stage <|> entry.stage
  warning := fields.warning <|> entry.warning
  percent := fields.percent <|> entry.percent

@[simp] theorem Entry.update_id (fields : Fields) (entry : Entry) :
    (entry.update fields).id = entry.id := rfl

/-- `_jobs`. -/
abbrev Jobs := Registry Entry Entry.id

/-- What a writer does to `_jobs`. -/
inductive Update where
  /-- `_jobs[jid] = {...}`. -/
  | publish (entry : Entry)
  /-- `_jobs.pop(jid, None)`. -/
  | withdraw
  /-- `_jobs.setdefault(jid, {...})`, then the update. -/
  | setdefault (initial : Entry) (fields : Fields)
  /-- The update of an entry that is there. -/
  | update (fields : Fields)

/-- The update is made: an entry that is not there cannot be updated. -/
def Update.lands (jid : String) (jobs : Jobs) : Update → Bool
  | .update _ => (jobs.find? jid).isSome
  | .publish _ | .withdraw | .setdefault .. => true

/-- `_jobs` after an update. -/
def Update.apply (jid : String) (jobs : Jobs) : Update → Jobs
  | .publish entry =>
      let jobs := jobs.add { entry with id := jid }
      jobs.modify jid fun row => { entry with id := row.id }
  | .withdraw => jobs.remove jid
  | .setdefault initial fields =>
      let jobs := jobs.add { initial with id := jid }
      jobs.modify jid (Entry.update fields) (Entry.update_id fields)
  | .update fields => jobs.modify jid (Entry.update fields) (Entry.update_id fields)

/-! ## Writers -/

/-- `_backend_state_to_jobs_status`. -/
def backendStateToJobsStatus : BackendState → JobStatus
  | .failed => .failed
  | .completed | .importing | .review => .processing
  | .queued | .downloading | .imported | .cancelled => .downloading

/-- The writers of an entry, apart from the start of the process and a failing download. -/
inductive Writer where
  /-- `addurl` and the ingest endpoints. -/
  | addurl (category title : String) (size : Nat)
  | addurlBackendLane (category title : String)
  /-- The endpoint finds that the job was enqueued under another id, or not at all. -/
  | dedupeHit
  | recordJobTiming
  | setWorkerProgress (percent : Int) (stage : String) (message : Option String)
  | captureBackendTargetAlbumId
  | targetAlbumId
  /-- A warning of `_trigger_lidarr_import`. -/
  | warn (text : String)
  /-- The pending end of `_run_manual_import_only`. -/
  | manualImportPending
  | executeSourceGrab
  | normalizeAudio
  | prepared (outputDir : String) (size : Nat)
  | markDownloadCancelled
  | markImportFailed (reason : String)
  | markImportCompleted (outputDir : Option String)
  | markReviewRequired (outputDir reason : String)
  | hideFromLidarr
  /-- The fail-closed, BLOCK and fake branches of `_trigger_lidarr_import`. -/
  | blocked (error : String)
  | retryVerifiedImport (outputDir : String)
  | restoreBackendReviewProjection (row : BackendJob)
  | reconcileBackendJobs (row : BackendJob) (state : BackendState) (progress : Int)
  /-- `_run_download_job` without an adapter. -/
  | adapterMissing
  /-- A failing download on the thread that `addurl` starts where nothing was enqueued. -/
  | directDownloadFailed (error : String)

/-- `job.get("release_title") or jid`. -/
def releaseTitle (row : BackendJob) : String :=
  if row.releaseTitle.getD "" = "" then row.jid else row.releaseTitle.getD ""

/-- The entry that a backend row is projected to. -/
def projected (row : BackendJob) : Entry where
  id := row.jid
  category := some row.category
  title := some (releaseTitle row)
  size := some 0
  createdAt := some row.createdAt

/-- What the pipeline writes when `download_raw` raises. -/
def downloadFailed (error : String) (now : Time) : Update :=
  .update { status := some .failed, error := some error, completedAt := some now }

/-- The update each writer makes. -/
def Writer.update (jid : String) (now : Time) : Writer → Update
  | .addurl category title size =>
      .publish
        { id := jid
          category := some category
          status := some .queued
          title := some title
          size := some size
          percent := some 0
          createdAt := some now }
  | .addurlBackendLane category title =>
      .publish
        { id := jid
          category := some category
          status := some .downloading
          title := some title
          size := some 0
          percent := some 0
          createdAt := some now }
  | .dedupeHit => .withdraw
  | .recordJobTiming => .setdefault { id := jid } {}
  | .setWorkerProgress percent stage message =>
      .setdefault { id := jid }
        { percent := some (max 0 (min 100 percent)), stage := some stage, warning := message }
  | .captureBackendTargetAlbumId => .update {}
  | .targetAlbumId => .setdefault { id := jid } {}
  | .warn text => .update { warning := some text }
  | .manualImportPending =>
      .setdefault { id := jid }
        { warning := some "Lidarr ManualImport pending", percent := some 100 }
  | .executeSourceGrab => .setdefault { id := jid } { status := some .downloading }
  | .normalizeAudio => .update { status := some .processing }
  | .prepared outputDir size =>
      .update
        { status := some .processing
          outputDir := some outputDir
          size := some size
          percent := some 100 }
  | .markDownloadCancelled =>
      .setdefault { id := jid }
        { status := some .failed
          error := some "cancelled by user"
          completedAt := some now
          percent := some 100
          hiddenFromLidarr := some true }
  | .markImportFailed reason =>
      .setdefault { id := jid }
        { status := some .failed
          error := some reason
          completedAt := some now
          percent := some 100
          hiddenFromLidarr := some true
          lidarrHold := some false }
  | .markImportCompleted outputDir =>
      .setdefault { id := jid }
        { status := some .completed
          completedAt := some now
          percent := some 100
          hiddenFromLidarr := some true
          outputDir
          lidarrHold := some false }
  | .markReviewRequired outputDir reason =>
      .setdefault { id := jid }
        { status := some .reviewRequired
          lidarrHold := some true
          warning := some reason
          completedAt := some now
          outputDir := some outputDir
          percent := some 100
          hiddenFromLidarr := some false }
  | .hideFromLidarr => .update { hiddenFromLidarr := some true }
  | .blocked error =>
      .update
        { status := some .failed
          error := some error
          completedAt := some now
          hiddenFromLidarr := some true }
  | .retryVerifiedImport outputDir =>
      .setdefault { id := jid }
        { status := some .processing
          warning := some "ManualImport retry"
          hiddenFromLidarr := some false
          percent := some 100
          outputDir := some outputDir }
  | .restoreBackendReviewProjection row =>
      .setdefault (projected row)
        { title := some (releaseTitle row)
          status := some .reviewRequired
          lidarrHold := some true
          percent := some 100 }
  | .reconcileBackendJobs row state progress =>
      .setdefault (projected row)
        { title := some (releaseTitle row)
          status := some (backendStateToJobsStatus state)
          percent := some (max 0 (min 100 progress)) }
  | .adapterMissing =>
      .setdefault { id := jid }
        { status := some .failed
          error := some "tidal adapter not registered"
          completedAt := some now }
  | .directDownloadFailed error => downloadFailed error now

/-! ## The file -/

/-- How `_save_jobs` ends: the file holds the new text, still the old one, or a part of the
new one, which is not JSON. -/
inductive Saved where
  | stored | kept | torn
  deriving DecidableEq

/-- The readable contents of the jobs file after `_save_jobs`. -/
def saveJobs (jobs : Jobs) (file : Option Jobs) : Saved → Option Jobs
  | .stored => some jobs
  | .kept => file
  | .torn => none

/-- `_load_jobs` takes the entry for a download that the last process has left behind. -/
def Entry.zombie (now : Time) (entry : Entry) : Bool :=
  (entry.status = some .downloading || entry.status = some .queued ||
      entry.status = some .processing) &&
    1800 < now - entry.createdAt.getD now

/-- The zombie cleanup of `_load_jobs`. -/
def Entry.cleanUp (now : Time) (entry : Entry) : Entry :=
  if entry.zombie now then
    entry.update
      { status := some .failed
        error := some "container restart / stale download (auto-cleanup)"
        completedAt := some now }
  else entry

@[simp] theorem Entry.cleanUp_id (now : Time) (entry : Entry) :
    (entry.cleanUp now).id = entry.id := by
  simp only [Entry.cleanUp]
  split <;> rfl

/-- `_load_jobs`: the entries in memory, unless the write of the cleaned ones raises, and
the file. -/
def loadJobs (now : Time) (saved : Saved) (file : Option Jobs) : Option Jobs × Option Jobs :=
  let read := file.getD .empty
  let jobs := read.map (Entry.cleanUp now) (Entry.cleanUp_id now)
  if read.rows.any (Entry.zombie now) then
    (if saved = .stored then some jobs else none, saveJobs jobs file saved)
  else (some jobs, file)

/-- What `_expire_review_required_jobs` does to the entry of an expired review. -/
def expired (now : Time) : Update :=
  .update
    { status := some .failed
      error := some "review_required expired"
      completedAt := some now
      lidarrHold := some false }

/-! ## The listings -/

/-- A slot of the history listing. -/
structure HistorySlot where
  nzoId : String
  name : String
  category : String
  status : String
  storage : String
  completed : Time
  bytes : Nat
  size : String
  failMessage : String

/-- The history listing shows the entry. -/
def Entry.inHistory (entry : Entry) : Bool :=
  !entry.hiddenFromLidarr && (entry.status = some .completed || entry.status = some .failed)

/-- The slot of an entry that is shown. -/
def Entry.historySlot (entry : Entry) : HistorySlot where
  nzoId := entry.id
  name := entry.title.getD "?"
  category := entry.category.getD "music"
  status := if entry.status = some .completed then "Completed" else "Failed"
  storage := entry.outputDir.getD ""
  completed := entry.completedAt.getD 0
  bytes := entry.size.getD 0
  size := s!"{entry.size.getD 0 / (1024 * 1024)} MB"
  failMessage := if entry.status = some .failed then entry.error.getD "" else ""

/-- The slots of `mode=history`, oldest first. -/
def Jobs.history (jobs : Jobs) : List HistorySlot :=
  (jobs.rows.reverse.filter Entry.inHistory).map Entry.historySlot

/-- A slot of the queue listing. -/
structure QueueSlot where
  nzoId : String
  filename : String
  cat : String
  percentage : String
  status : String
  deriving DecidableEq

/-- `_sab_queue_slot`. -/
def Entry.sabQueueSlot (entry : Entry) : QueueSlot :=
  let slot (percent : Int) (status : String) : QueueSlot :=
    { nzoId := entry.id
      filename := entry.title.getD "?"
      cat := entry.category.getD "music"
      percentage := toString percent
      status }
  let percent := max 0 (min 100 (entry.percent.getD 0))
  if entry.lidarrHold || entry.status = some .reviewRequired then slot 100 "Paused"
  else if entry.status = some .downloading then slot percent "Downloading"
  else if entry.status = some .processing then slot 100 "Verifying"
  else slot percent "Queued"

/-- `_visible_in_sab_queue`, with the row of the backend lane. -/
def Entry.visibleInSabQueue (backend : Option BackendState) (entry : Entry) : Bool :=
  !entry.hiddenFromLidarr && !backend.any (·.Terminal) &&
    (entry.status = some .queued || entry.status = some .downloading ||
      entry.status = some .processing || entry.lidarrHold)

/-! ## What the history shows -/

/-- The history listing has a slot for the download. -/
def Jobs.shows (jid : String) (jobs : Jobs) : Bool := (jobs.find? jid).any Entry.inHistory

/-- A slot of the history is that of a finished entry which is not hidden. -/
theorem shows_of_history {jobs : Jobs} {slot : HistorySlot} (slotMem : slot ∈ jobs.history) :
    jobs.shows slot.nzoId = true := by
  simp only [Jobs.history, List.mem_map, List.mem_filter, List.mem_reverse] at slotMem
  rcases slotMem with ⟨entry, ⟨entryMem, shown⟩, rfl⟩
  have found : jobs.find? entry.id = some entry := Registry.find?_eq_some.mpr ⟨entryMem, rfl⟩
  simp only [Jobs.shows, Entry.historySlot, found, Option.any_some, shown]

/-- The fields finish no entry and bring none back into view. -/
def Fields.quiet (fields : Fields) : Bool :=
  fields.hiddenFromLidarr = some true ||
    (fields.status.any fun status => status ≠ .completed ∧ status ≠ .failed) ||
    (fields.status = none && fields.hiddenFromLidarr = none)

theorem inHistory_of_quiet {fields : Fields} {entry : Entry} (quiet : fields.quiet = true)
    (shown : (entry.update fields).inHistory = true) : entry.inHistory = true := by
  simp only [Fields.quiet, Bool.or_eq_true, Bool.and_eq_true, decide_eq_true_eq] at quiet
  rcases quiet with (hides | unfinished) | ⟨status, hidden⟩
  · simp [Entry.inHistory, Entry.update, hides] at shown
  · cases written : fields.status with
    | none => simp [written] at unfinished
    | some status => simp_all [Entry.inHistory, Entry.update]
  · simpa [Entry.inHistory, Entry.update, status, hidden] using shown

/-- An entry that is hidden stays hidden under an update that does not say otherwise. -/
theorem inHistory_of_hidden {fields : Fields} {entry : Entry}
    (hidden : entry.hiddenFromLidarr = true) (silent : fields.hiddenFromLidarr = none) :
    (entry.update fields).inHistory = false := by
  simp [Entry.inHistory, Entry.update, silent, hidden]

section Apply

variable {jobs : Jobs} {jid other : String}

/-- An update concerns one download. -/
theorem find?_apply_ne {update : Update} (differs : other ≠ jid) :
    (update.apply jid jobs).find? other = jobs.find? other := by
  have added (entry : Entry) :
      (jobs.add { entry with id := jid }).find? other = jobs.find? other := by
    cases taken : jobs.find? jid with
    | none => rw [Registry.find?_add taken, if_neg differs]
    | some stored => rw [Registry.add_of_taken taken]
  cases update with
  | publish entry => simp only [Update.apply, Registry.find?_modify, if_neg differs, added]
  | withdraw => simp only [Update.apply, Registry.find?_remove, if_neg differs]
  | setdefault initial fields =>
      simp only [Update.apply, Registry.find?_modify, if_neg differs, added]
  | update fields => simp only [Update.apply, Registry.find?_modify, if_neg differs]

theorem shows_apply_ne {update : Update} (differs : other ≠ jid) :
    (update.apply jid jobs).shows other = jobs.shows other := by
  simp only [Jobs.shows, find?_apply_ne differs]

/-- The entry after an update of what is there. -/
theorem find?_update {fields : Fields} :
    ((Update.update fields).apply jid jobs).find? jid =
      (jobs.find? jid).map (Entry.update fields) := by
  simp only [Update.apply, Registry.find?_modify, if_true]

/-- The entry after a `setdefault` and its update. -/
theorem find?_setdefault {initial : Entry} {fields : Fields} :
    ((Update.setdefault initial fields).apply jid jobs).find? jid =
      some (((jobs.find? jid).getD { initial with id := jid }).update fields) := by
  simp only [Update.apply, Registry.find?_modify, if_true]
  cases taken : jobs.find? jid with
  | none => rw [Registry.find?_add taken, if_pos rfl, Option.map_some, Option.getD_none]
  | some stored => rw [Registry.add_of_taken taken, taken, Option.map_some, Option.getD_some]

/-- The entry after `_jobs[jid] = {...}`. -/
theorem find?_publish {entry : Entry} :
    ((Update.publish entry).apply jid jobs).find? jid = some { entry with id := jid } := by
  simp only [Update.apply, Registry.find?_modify, if_true]
  cases taken : jobs.find? jid with
  | none => rw [Registry.find?_add taken, if_pos rfl, Option.map_some]
  | some stored =>
      have sameId := (Registry.find?_eq_some.mp taken).2
      rw [Registry.add_of_taken taken, taken, Option.map_some, sameId]

/-- The update finishes no entry and brings none back into view. -/
def Update.quiet : Update → Bool
  | .publish entry => !entry.inHistory
  | .withdraw => true
  | .setdefault initial fields => !initial.inHistory && fields.quiet
  | .update fields => fields.quiet

/-- The update leaves the flag that hides an entry. -/
def Update.silent : Update → Bool
  | .publish _ | .withdraw => false
  | .setdefault _ fields | .update fields => fields.hiddenFromLidarr = none

/-- The update meets a hidden entry, or none that it could change. -/
def Update.unseen (jid : String) (jobs : Jobs) : Update → Bool
  | .publish _ | .withdraw | .setdefault .. => (jobs.find? jid).any Entry.hiddenFromLidarr
  | .update _ => (jobs.find? jid).all Entry.hiddenFromLidarr

/-- A quiet update shows nothing that was not shown. -/
theorem shows_of_quiet {update : Update} (quiet : update.quiet = true)
    (shown : (update.apply jid jobs).shows other = true) : jobs.shows other = true := by
  by_cases mine : other = jid
  case neg => rwa [shows_apply_ne mine] at shown
  subst mine
  cases update with
  | publish entry =>
      simp only [Update.quiet, Bool.not_eq_true'] at quiet
      simp only [Jobs.shows, find?_publish, Option.any_some] at shown
      have same : entry.inHistory = true := shown
      rw [quiet] at same
      contradiction
  | withdraw => simp [Jobs.shows, Update.apply, Registry.find?_remove] at shown
  | setdefault initial fields =>
      simp only [Update.quiet, Bool.and_eq_true, Bool.not_eq_true'] at quiet
      simp only [Jobs.shows, find?_setdefault, Option.any_some] at shown
      have before := inHistory_of_quiet quiet.2 shown
      cases found : jobs.find? other with
      | none =>
          rw [found, Option.getD_none] at before
          have same : initial.inHistory = true := before
          rw [quiet.1] at same
          contradiction
      | some entry =>
          rw [found, Option.getD_some] at before
          rwa [Jobs.shows, found]
  | update fields =>
      simp only [Jobs.shows, find?_update, Option.any_map] at shown ⊢
      cases found : jobs.find? other with
      | none =>
          rw [found] at shown
          contradiction
      | some entry =>
          rw [found] at shown
          exact inHistory_of_quiet quiet shown

/-- What an update does to a hidden entry is not shown. -/
theorem shows_of_unseen {update : Update} (silent : update.silent = true)
    (unseen : update.unseen jid jobs = true) : (update.apply jid jobs).shows jid = false := by
  cases update with
  | publish entry | withdraw => contradiction
  | setdefault initial fields =>
      simp only [Update.silent, decide_eq_true_eq] at silent
      simp only [Update.unseen, Option.any_eq_true] at unseen
      rcases unseen with ⟨entry, found, hidden⟩
      rw [Jobs.shows, find?_setdefault, found, Option.any_some, Option.getD_some]
      exact inHistory_of_hidden hidden silent
  | update fields =>
      simp only [Update.silent, decide_eq_true_eq] at silent
      simp only [Update.unseen] at unseen
      rw [Jobs.shows, find?_update]
      cases found : jobs.find? jid with
      | none => rfl
      | some entry =>
          rw [found] at unseen
          exact inHistory_of_hidden unseen silent

/-- The writer marks an entry as failed without hiding it. -/
def Writer.marksFailed : Writer → Bool
  | .reconcileBackendJobs _ state _ => state = .failed
  | .adapterMissing | .directDownloadFailed _ => true
  | _ => false

/-- The other writers show nothing new. -/
theorem quiet_writer {writer : Writer} {now : Time} (harmless : writer.marksFailed = false) :
    (writer.update jid now).quiet = true := by
  cases writer with
  | adapterMissing | directDownloadFailed error => contradiction
  | reconcileBackendJobs row state progress =>
      simp only [Writer.marksFailed, decide_eq_false_iff_not] at harmless
      cases state <;> first | contradiction | rfl
  | _ => rfl

theorem silent_writer {writer : Writer} {now : Time} (marks : writer.marksFailed = true) :
    (writer.update jid now).silent = true := by
  cases writer <;> first | rfl | contradiction

end Apply

/-- An entry is shown after the start where the file showed it, or where the cleanup takes it
for an entry that was left behind. -/
theorem inHistory_cleanUp {now : Time} {entry : Entry}
    (shown : (entry.cleanUp now).inHistory = true) :
    entry.inHistory = true ∨ (entry.zombie now = true ∧ entry.hiddenFromLidarr = false) := by
  simp only [Entry.cleanUp] at shown
  split at shown
  · next zombie =>
      right
      refine ⟨zombie, ?_⟩
      simpa [Entry.inHistory, Entry.update] using shown
  · exact Or.inl shown

/-- What the entries read from the file show after the cleanup. -/
theorem shows_cleanUp {now : Time} {file : Option Jobs} {jid : String}
    (shown : Jobs.shows jid ((file.getD .empty).map (Entry.cleanUp now) (Entry.cleanUp_id now)) =
      true) :
    file.any (Jobs.shows jid) = true ∨ ∃ entry ∈ (file.getD .empty).rows,
      entry.id = jid ∧ entry.zombie now = true ∧ entry.hiddenFromLidarr = false := by
  simp only [Jobs.shows, Registry.find?_map, Option.any_map, Option.any_eq_true] at shown
  rcases shown with ⟨entry, found, inHistory⟩
  rcases inHistory_cleanUp inHistory with before | zombie
  · left
    cases file with
    | none => simp at found
    | some jobs =>
        rw [Option.getD_some] at found
        simp only [Option.any_some, Jobs.shows, found, before]
  · right
    rcases Registry.find?_eq_some.mp found with ⟨entryMem, sameId⟩
    exact ⟨entry, entryMem, sameId, zombie⟩

end Mintarr.Sab
