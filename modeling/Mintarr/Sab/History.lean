import Mintarr.Queue.Pending
import Mintarr.Sab.Jobs

/-!
# The history and the jobs that are still to come

The worker's jobs live in the database and what Lidarr sees lives in `_jobs`.  The machine
below runs both: the process of `Queue.workers` and every writer of `_jobs`, with the file
that outlives the process.  A writer may come at any moment, since request handlers, the
worker and the thread of a direct download all write.  Where a download fails, the pipeline
marks the entry and raises in one step; from there on the worker decides alone.
-/

namespace Mintarr.Sab

open Lib Queue

/-- The two job stores and the process. -/
structure Server where
  world : World
  /-- `_jobs`, while the process runs. -/
  jobs : Option Jobs
  /-- The contents of the jobs file, where it can be read. -/
  file : Option Jobs

/-- The job types whose executor is `pipeline.execute_source_grab`. -/
def sourceGrabTypes : List String :=
  ["tidal_grab", "local_grab", "soulseek_grab", "sab_usenet_grab", "qbittorrent_torrent_grab",
    "backend_completed_grab"]

/-- What the server does. -/
inductive Action where
  /-- `_load_jobs`, when the process starts. -/
  | load (now : Time) (saved : Saved)
  /-- `_expire_review_required_jobs`, before the worker starts. -/
  | expire (jid : String) (now : Time) (saved : Saved)
  | queue (action : Queue.Action)
  | write (writer : Writer) (jid : String) (now : Time) (saved : Saved)
  /-- `download_raw` raises `error`; `other` is what reaches the worker where the mark
  itself raises. -/
  | downloadFailed (error other : String) (now : Time) (saved : Saved)

namespace Server

/-- A new installation. -/
def initial : Server := ⟨.initial, none, none⟩

/-- An update under `_jobs_lock`, and its `_save_jobs`. -/
def record (server : Server) (jobs : Jobs) (jid : String) (update : Update) (saved : Saved) :
    Server :=
  if update.lands jid jobs then
    { server with
      jobs := some (update.apply jid jobs)
      file := saveJobs (update.apply jid jobs) server.file saved }
  else server

/-- The exception that reaches the worker when a download fails. -/
def raised (jobs : Jobs) (jid error other : String) (saved : Saved) : String :=
  if (jobs.find? jid).isSome ∧ saved = .stored then error else other

/-- One step; `none` where the action is not enabled. -/
def step (server : Server) : Action → Option Server
  | .load now saved =>
      match server.jobs with
      | some _ => none
      | none =>
          let (jobs, file) := loadJobs now saved server.file
          some { server with jobs, file }
  | .expire jid now saved =>
      match server.jobs, server.world.importer with
      | some jobs, .stopped =>
          let marked := server.record jobs jid (expired now) saved
          -- A failing write ends the start of the process.
          some { marked with jobs := if saved = .stored then marked.jobs else none }
      | _, _ => none
  | .queue action =>
      match server.jobs with
      | none => none
      | some jobs =>
          (workers.step server.world action).map fun world =>
            { server with
              world
              jobs := match action with
                | .kill => none
                | _ => some jobs }
  | .write writer jid now saved =>
      match server.jobs with
      | none => none
      | some jobs => some (server.record jobs jid (writer.update jid now) saved)
  | .downloadFailed error other now saved =>
      match server.jobs, server.world.importer with
      | some jobs, .executing job =>
          if job.type ∈ sourceGrabTypes then
            (workers.step server.world
                (.importEnd (.raised (raised jobs job.jid error other saved)))).map fun world =>
              { server.record jobs job.jid (Sab.downloadFailed error now) saved with world }
          else none
      | _, _ => none

end Server

/-- The machine of the two job stores. -/
def server : Machine Server Action where
  step := Server.step

namespace Server

/-- The answer to `mode=history`; nothing answers while no process runs. -/
def history (server : Server) : List HistorySlot := server.jobs.elim [] Jobs.history

/-- The history shows the download, now or after a restart. -/
def shows (server : Server) (jid : String) : Bool :=
  server.jobs.any (Jobs.shows jid) || server.file.any (Jobs.shows jid)

/-- The history will still show the download after the action, as far as that leaves the
entries: a kill loses those in memory. -/
def stillShows (server : Server) (action : Queue.Action) (jid : String) : Bool :=
  match action with
  | .kill => server.file.any (Jobs.shows jid)
  | _ => server.shows jid

/-- The process with the import worker past an executor that raised. -/
def afterRaise (server : Server) (job : Job) (error : String) : World :=
  { server.world with importer := .raised job error }

/-- The action does not make the history disagree with the queue: an entry that Lidarr can
see is marked as failed only where no job of the download is to come, and no job comes where
the history shows the download. -/
def spares (server : Server) : Action → Bool
  | .load now _ =>
      (server.file.getD .empty).rows.all fun entry =>
        entry.hiddenFromLidarr || !entry.zombie now || !server.world.pending entry.id
  | .expire jid now _ =>
      server.jobs.all fun jobs =>
        (expired now).unseen jid jobs || !server.world.pending jid
  | .queue action =>
      (server.world.enqueuedJid action).all (fun jid => !server.shows jid) &&
        server.world.db.jobs.rows.all fun row =>
          !row.waits || !(server.world.abandoned action).any (·.id = row.id) ||
            !server.stillShows action row.jid
  | .write writer jid now _ =>
      !writer.marksFailed || server.jobs.all fun jobs =>
        (writer.update jid now).unseen jid jobs || !server.world.pending jid
  | .downloadFailed error other now saved =>
      match server.jobs, server.world.importer with
      | some jobs, .executing job =>
          (Sab.downloadFailed error now).unseen job.jid jobs ||
            !(server.afterRaise job (raised jobs job.jid error other saved)).pending job.jid
      | _, _ => true

/-- The guard of the runs in which the two stores agree. -/
abbrev Spares (server : Server) (action : Action) : Prop := server.spares action = true

end Server

/-! ## The stores agree -/

/-- A download that has a job to come is not in the history, now or after a restart. -/
structure Server.Agrees (server : Server) : Prop where
  held : server.world.Held
  apart : ∀ jid, server.world.pending jid = true → server.shows jid = false

section Steps

variable {before after : Server} {jobs : Jobs} {jid other : String}

theorem shows_iff : before.shows jid = true ↔
    before.jobs.any (Jobs.shows jid) = true ∨ before.file.any (Jobs.shows jid) = true := by
  simp only [Server.shows, Bool.or_eq_true]

/-- The stores agree after a step that leaves the queue, where what it shows was shown or
belongs to no job to come. -/
theorem agrees_of_shows (agrees : before.Agrees) (world : after.world = before.world)
    (shows : ∀ jid, after.shows jid = true →
      before.shows jid = true ∨ before.world.pending jid = false) : after.Agrees := by
  constructor
  · rw [world]
    exact agrees.held
  · intro jid pending
    rw [world] at pending
    by_contra shown
    rw [Bool.not_eq_false] at shown
    rcases shows jid shown with earlier | free
    · rw [agrees.apart jid pending] at earlier
      contradiction
    · rw [pending] at free
      contradiction

/-- An update under the lock shows what was shown, or what the update shows. -/
theorem shows_record {update : Update} {saved : Saved}
    (shown : (before.record jobs jid update saved).shows other = true) :
    before.shows other = true ∨
      (update.lands jid jobs = true ∧ (update.apply jid jobs).shows other = true) := by
  simp only [Server.record] at shown
  split at shown
  case isFalse => exact Or.inl shown
  next lands =>
    rcases shows_iff.mp shown with memory | stored
    · exact Or.inr ⟨lands, memory⟩
    · cases saved with
      | stored => exact Or.inr ⟨lands, stored⟩
      | kept => exact Or.inl (shows_iff.mpr (Or.inr stored))
      | torn => contradiction

@[simp] theorem record_world {update : Update} {saved : Saved} :
    (before.record jobs jid update saved).world = before.world := by
  simp only [Server.record]
  split <;> rfl

/-- A mark that meets no visible entry, or a download without a job to come. -/
theorem shows_mark {update : Update} {saved : Saved} {pending : Bool}
    (here : before.jobs = some jobs) (silent : update.silent = true)
    (spared : update.unseen jid jobs = true ∨ pending = false)
    (shown : (before.record jobs jid update saved).shows other = true) :
    before.shows other = true ∨ (other = jid ∧ pending = false) := by
  rcases shows_record shown with earlier | ⟨_, applied⟩
  · exact Or.inl earlier
  by_cases mine : other = jid
  · subst mine
    rcases spared with unseen | free
    · rw [shows_of_unseen silent unseen] at applied
      contradiction
    · exact Or.inr ⟨rfl, free⟩
  · left
    rw [shows_apply_ne mine] at applied
    apply shows_iff.mpr
    rw [here]
    exact Or.inl applied

theorem agrees_load (agrees : before.Agrees) {now : Time} {saved : Saved}
    (spared : before.spares (.load now saved) = true)
    (stepped : before.step (.load now saved) = some after) : after.Agrees := by
  simp only [Server.step] at stepped
  split at stepped
  · contradiction
  cases stepped
  apply agrees_of_shows agrees
  · rfl
  intro jid shown
  have cleaned (found : Jobs.shows jid ((before.file.getD .empty).map (Entry.cleanUp now)
      (Entry.cleanUp_id now)) = true) :
      before.shows jid = true ∨ before.world.pending jid = false := by
    rcases shows_cleanUp found with stored | ⟨entry, entryMem, rfl, zombie, visible⟩
    · exact Or.inl (shows_iff.mpr (Or.inr stored))
    · right
      simp only [Server.spares, List.all_eq_true] at spared
      simpa [zombie, visible] using spared entry entryMem
  have kept (found : before.file.any (Jobs.shows jid) = true) :
      before.shows jid = true ∨ before.world.pending jid = false :=
    Or.inl (shows_iff.mpr (Or.inr found))
  simp only [Server.shows, loadJobs, Bool.or_eq_true] at shown
  split at shown
  · rcases shown with memory | stored
    · split at memory
      · exact cleaned memory
      · contradiction
    · cases saved with
      | stored => exact cleaned stored
      | kept => exact kept stored
      | torn => contradiction
  · rcases shown with memory | stored
    · exact cleaned memory
    · exact kept stored

theorem agrees_expire (agrees : before.Agrees) {now : Time} {saved : Saved}
    (spared : before.spares (.expire jid now saved) = true)
    (stepped : before.step (.expire jid now saved) = some after) : after.Agrees := by
  simp only [Server.step] at stepped
  split at stepped
  case h_2 => contradiction
  next jobs here idle =>
    cases stepped
    apply agrees_of_shows agrees
    · exact record_world
    intro other shown
    have marked : (before.record jobs jid (expired now) saved).shows other = true := by
      rcases shows_iff.mp shown with memory | stored
      · split at memory
        · exact shows_iff.mpr (Or.inl memory)
        · contradiction
      · exact shows_iff.mpr (Or.inr stored)
    simp only [Server.spares, here, Option.all_some, Bool.or_eq_true,
      Bool.not_eq_true'] at spared
    rcases shows_mark here rfl spared marked with earlier | ⟨rfl, free⟩
    · exact Or.inl earlier
    · exact Or.inr free

theorem agrees_write (agrees : before.Agrees) {writer : Writer} {now : Time} {saved : Saved}
    (spared : before.spares (.write writer jid now saved) = true)
    (stepped : before.step (.write writer jid now saved) = some after) : after.Agrees := by
  simp only [Server.step] at stepped
  split at stepped
  · contradiction
  next jobs here =>
    cases stepped
    apply agrees_of_shows agrees
    · exact record_world
    intro other shown
    cases marks : writer.marksFailed with
    | false =>
        left
        rcases shows_record shown with earlier | ⟨_, applied⟩
        · exact earlier
        · apply shows_iff.mpr
          rw [here]
          exact Or.inl (shows_of_quiet (quiet_writer marks) applied)
    | true =>
        simp only [Server.spares, marks, here, Bool.not_true, Bool.false_or, Option.all_some,
          Bool.or_eq_true, Bool.not_eq_true'] at spared
        rcases shows_mark here (silent_writer marks) spared shown with earlier | ⟨rfl, free⟩
        · exact Or.inl earlier
        · exact Or.inr free

/-- A step of the queue shows what was shown, and a kill only what is in the file. -/
theorem shows_queue {action : Queue.Action}
    (stepped : before.step (.queue action) = some after) (shown : after.shows jid = true) :
    before.stillShows action jid = true ∧ before.shows jid = true := by
  simp only [Server.step] at stepped
  split at stepped
  · contradiction
  next jobs here =>
    rw [Option.map_eq_some_iff] at stepped
    rcases stepped with ⟨world, _, rfl⟩
    cases action with
    | kill =>
        have stored : before.file.any (Jobs.shows jid) = true := by
          simpa [Server.shows] using shown
        exact ⟨stored, shows_iff.mpr (Or.inr stored)⟩
    | _ =>
        have same : before.shows jid = true := by
          simpa only [Server.shows, here] using shown
        exact ⟨same, same⟩

theorem agrees_queue (agrees : before.Agrees) {action : Queue.Action}
    (spared : before.spares (.queue action) = true)
    (stepped : before.step (.queue action) = some after) : after.Agrees := by
  have shows : ∀ jid, after.shows jid = true →
      before.stillShows action jid = true ∧ before.shows jid = true := by
    intro jid shown
    exact shows_queue stepped shown
  have moved : workers.step before.world action = some after.world := by
    simp only [Server.step] at stepped
    split at stepped
    · contradiction
    · rw [Option.map_eq_some_iff] at stepped
      rcases stepped with ⟨world, moved, rfl⟩
      exact moved
  refine ⟨held_step agrees.held moved, ?_⟩
  intro jid pending
  by_contra shown
  rw [Bool.not_eq_false] at shown
  rcases shows jid shown with ⟨still, earlier⟩
  simp only [Server.spares, Bool.and_eq_true, List.all_eq_true] at spared
  simp only [workers, Option.map_eq_some_iff] at moved
  rcases moved with ⟨effect, happens, moved⟩
  rw [← moved] at pending
  rcases pending_back agrees.held happens pending with was | ⟨old, oldMem, rfl, waits, given⟩ |
    enqueued
  · rw [agrees.apart jid was] at earlier
    contradiction
  · have lost : (before.world.abandoned action).any (·.id = old.id) = true := by
      simpa [List.any_eq_true] using given
    have hidden := spared.2 old oldMem
    simp [waits, lost, still] at hidden
  · have hidden := spared.1
    simp [enqueued, earlier] at hidden

theorem agrees_downloadFailed (agrees : before.Agrees) {error text : String} {now : Time}
    {saved : Saved} (spared : before.spares (.downloadFailed error text now saved) = true)
    (stepped : before.step (.downloadFailed error text now saved) = some after) :
    after.Agrees := by
  simp only [Server.step] at stepped
  split at stepped
  case h_2 => contradiction
  next jobs job here executing =>
    split at stepped
    case isFalse => contradiction
    rw [Option.map_eq_some_iff] at stepped
    rcases stepped with ⟨world, moved, rfl⟩
    simp only [Server.spares, here, executing, Bool.or_eq_true, Bool.not_eq_true'] at spared
    have raised : world = before.afterRaise job
        (Server.raised jobs job.jid error text saved) := by
      simp only [workers, World.effect, executing, World.importStep, Option.map_some,
        Option.some.injEq] at moved
      exact moved.symm
    refine ⟨held_step agrees.held moved, ?_⟩
    intro jid pending
    by_contra shown
    rw [Bool.not_eq_false] at shown
    have marked : (before.record jobs job.jid (downloadFailed error now) saved).shows jid =
        true := shown
    rcases shows_mark here rfl spared marked with earlier | ⟨rfl, free⟩
    · simp only [workers, Option.map_eq_some_iff] at moved
      rcases moved with ⟨effect, happens, moved⟩
      rw [← moved] at pending
      rcases pending_back agrees.held happens pending with was | ⟨_, _, _, _, _, lost, _⟩ |
        enqueued
      · rw [agrees.apart jid was] at earlier
        contradiction
      · cases lost
      · contradiction
    · rw [← raised, pending] at free
      contradiction

/-- One step that spares the agreement keeps it. -/
theorem agrees_step {action : Action} (agrees : before.Agrees)
    (spared : before.spares action = true) (stepped : before.step action = some after) :
    after.Agrees := by
  cases action with
  | load now saved => exact agrees_load agrees spared stepped
  | expire jid now saved => exact agrees_expire agrees spared stepped
  | queue action => exact agrees_queue agrees spared stepped
  | write writer jid now saved => exact agrees_write agrees spared stepped
  | downloadFailed error text now saved => exact agrees_downloadFailed agrees spared stepped

end Steps

theorem agrees_initial : Server.initial.Agrees where
  held := held_initial
  apart := by
    intro jid pending
    contradiction

/-- While a job of a download is active and will be executed, the history shows the download
neither as failed nor as completed, in every state of every run whose steps spare the
agreement. -/
theorem history_spares_pending {actions : List Action} {after : Server}
    (run : server.RunWhere Server.Spares .initial actions after) {jid : String}
    (pending : after.world.pending jid = true) :
    ¬∃ slot ∈ after.history, slot.nzoId = jid ∧
      (slot.status = "Failed" ∨ slot.status = "Completed") := by
  have agrees : after.Agrees := by
    apply run.preserves _ _ agrees_initial
    intro before action next agrees spared stepped
    exact agrees_step agrees spared stepped
  intro shown
  rcases shown with ⟨slot, slotMem, rfl, _⟩
  have hidden := agrees.apart _ pending
  cases here : after.jobs with
  | none => simp [Server.history, here] at slotMem
  | some jobs =>
      rw [Server.history, here] at slotMem
      have visible : after.shows slot.nzoId = true := by
        apply shows_iff.mpr
        rw [here]
        exact Or.inl (shows_of_history slotMem)
      rw [hidden] at visible
      contradiction

/-! ## A download that is tried again -/

/-- A download from TIDAL. -/
def albumGrab (jid : String) : EnqueueRequest := { jid, type := "tidal_grab" }

/-- Lidarr's grab is published, enqueued and claimed, and the download starts. -/
def startGrab (jid : String) : List Action :=
  [.write (.addurl "music" "Album" 0) jid 1 .stored, .queue (.enqueueJob (albumGrab jid) 1),
    .queue (.importClaim "worker" 2 true), .queue (.importBegin true),
    .write .executeSourceGrab jid 2 .stored]

/-- The first grab of a new installation, whose download fails. -/
def failingGrab (error : String) : List Action :=
  [.load 0 .stored, .queue (.importStart 0 none)] ++ startGrab "5f0c2a9e1b77" ++
    [.downloadFailed error "" 3 .stored, .queue (.importJudge true)]

/-- The download times out: the worker puts the job back in the queue, and the history shows
the download as failed. -/
theorem retried_grab_shown :
    ¬∀ (actions : List Action) (after : Server), server.Run .initial actions after →
      ∀ jid, after.world.pending jid = true →
        ¬∃ slot ∈ after.history, slot.nzoId = jid ∧
          (slot.status = "Failed" ∨ slot.status = "Completed") := by
  intro claimed
  have ends : (server.exec .initial
      (failingGrab "timeout" ++ [.queue (.importRetry 4 true)])).map
        (fun after => (after.world.pending "5f0c2a9e1b77",
          after.history.any fun slot => slot.nzoId = "5f0c2a9e1b77" && slot.status = "Failed")) =
      some (true, true) := by
    decide +kernel
  rcases Option.map_eq_some_iff.mp ends with ⟨after, executed, seen⟩
  rw [Prod.mk.injEq, List.any_eq_true] at seen
  rcases seen with ⟨pending, slot, slotMem, shown⟩
  rw [Bool.and_eq_true, decide_eq_true_eq, decide_eq_true_eq] at shown
  apply claimed _ after (Machine.run_of_exec executed) _ pending
  exact ⟨slot, slotMem, shown.1, Or.inl shown.2⟩

/-- The download fails for good and is reported, and the next grab starts. -/
def nextGrab : List Action :=
  failingGrab "not found" ++ [.queue (.importReport 4 true)] ++ startGrab "c41d8e07a5f2"

theorem history_spares_nextGrab : ∃ after,
    server.RunWhere Server.Spares .initial nextGrab after ∧
      (after.history.map HistorySlot.nzoId = ["5f0c2a9e1b77"] ∧
        after.world.pending "c41d8e07a5f2" = true) ∧
      ¬∃ slot ∈ after.history, slot.nzoId = "c41d8e07a5f2" ∧
        (slot.status = "Failed" ∨ slot.status = "Completed") := by
  have ends : ((server.restrict Server.Spares).exec .initial nextGrab).map
      (fun after => (after.history.map HistorySlot.nzoId, after.world.pending "c41d8e07a5f2")) =
      some (["5f0c2a9e1b77"], true) := by
    decide +kernel
  rcases Option.map_eq_some_iff.mp ends with ⟨after, executed, seen⟩
  rw [Prod.mk.injEq] at seen
  have run := Machine.runWhere_of_exec executed
  exact ⟨after, run, seen, history_spares_pending run seen.2⟩

end Mintarr.Sab
