import Mathlib.Logic.Function.Basic
import Mintarr.Backend.Row
import Mintarr.Queue.Workers

/-!
# The threads of the backend lane

The worker process of the queue together with the `backend_jobs` table, the
request threads that poll, cancel and discard backend jobs, and the part of the
backend executor that mirrors its outcome.  Every read and every write of a row
is a step of its own, so that the steps of other threads may fall between them.

Actions carry what the code does not decide: the clock, what the backend and
Lidarr answer, how the pipeline ended, and whether a database call got through.
The requests that cancel a worker job are steps of the queue; `_cancel_and_hide_job`
issues one before it looks at the backend row.
-/

namespace Mintarr.Backend

open Lib

/-! ## Polling a row -/

/-- What `client.status` reports. -/
structure BackendJobStatus where
  state : TransferState
  completedPath : Option String
  displayName : Option String
  deriving DecidableEq, Repr

/-- `_generic_backend_release_title`. -/
def genericBackendReleaseTitle (title backendId : Option String) : Bool :=
  match title.filter (· ≠ "") with
  | none => true
  | some title =>
      match backendId.filter (· ≠ "") with
      | none => false
      | some backendId => title = "backend release " ++ backendId

/-- `bool(status.completed_path)` and the path. -/
def BackendJobStatus.path? (status : BackendJobStatus) : Option String :=
  status.completedPath.filter (· ≠ "")

/-- The display name that replaces a generic title, if any. -/
def BackendJob.newTitle? (job : BackendJob) (displayName : Option String) : Option String :=
  let displayName := Queue.strip (displayName.getD "")
  if displayName ≠ "" ∧ genericBackendReleaseTitle job.releaseTitle job.backendJobId ∧
      some displayName ≠ job.releaseTitle then some displayName
  else none

/-- The update `_reconcile_backend_jobs` computes from a row and a status. -/
def BackendJob.reconcile (job : BackendJob) (status : BackendJobStatus) : Patch :=
  let newState := nextLifecycleState job.state status.state
  { state := if newState ≠ job.state then some newState else none
    backendPath := status.path?.filter (some · ≠ job.backendPath)
    releaseTitle := job.newTitle? status.displayName
    finished := newState.Terminal }

/-- `state_changed or path_new or title_new`. -/
def Patch.needed (patch : Patch) : Bool :=
  patch.state.isSome || patch.backendPath.isSome || patch.releaseTitle.isSome

/-- The rows the loop body passes over at once: no backend id, or owned by the
worker or the operator. -/
def BackendJob.passedOver (job : BackendJob) : Bool :=
  job.jid = "" || (job.backendJobId.getD "") = "" || job.state = .importing ||
    job.state = .review

/-- The relative path `_start_backend_ingest` accepts; `relpath` is what
`os.path.relpath` gives for the completed path, `none` where it raises. -/
def ingestPath (root : String) (relpath : Option String) : Option String :=
  if root = "" then none
  else
    relpath.filter fun rel =>
      rel ≠ "" ∧ ¬(['.', '.'] <+: rel.toList) ∧ ¬(['/'] <+: rel.toList)

def backendGrabType : String := "backend_completed_grab"

/-- `f"backend:{jid}"`. -/
def backendDedupeKey (jid : String) : String := "backend:" ++ jid

/-- The job `_start_backend_ingest` enqueues. -/
def ingestRequest (job : BackendJob) (rel : String) : Queue.EnqueueRequest where
  jid := job.jid
  type := backendGrabType
  payload :=
    [("source_id", .str rel),
      ("title", .str ((job.releaseTitle.filter (· ≠ "")).getD job.jid)),
      ("category", .str job.category)] ++
      match job.targetAlbumId with
      | none => []
      | some albumId => [("target_album_id", .int albumId)]
  dedupeKey := some (backendDedupeKey job.jid)
  sourceType := some "backend_completed"
  sourceId := some rel

/-- Requests of the other callers of `enqueue_job`: another type, and a dedupe key
with another prefix. -/
def foreignRequest (request : Queue.EnqueueRequest) : Bool :=
  request.type ≠ backendGrabType &&
    request.dedupeKey.all fun key => !("backend:".toList.isPrefixOf key.toList)

/-! ## Thread positions -/

/-- The fields of a queue projection that decide a backend outcome. -/
structure Projection where
  status : String
  lidarrHold : Bool := false
  deriving DecidableEq, Repr

/-- `_backend_ingest_outcome`; `none` where the id has no projection. -/
def backendIngestOutcome (projection : Option Projection) : BackendState :=
  match projection with
  | none => .imported
  | some projection =>
      if projection.lidarrHold ∨ projection.status = "review_required" then .review
      else if projection.status = "failed" then .failed
      else .imported

/-- Positions of a request thread. A poll keeps the rows it listed and has not yet
come to. -/
inductive Thread where
  | idle
  | polling (listed : List BackendJob)
  | captured (job : BackendJob) (listed : List BackendJob)
  | deciding (job : BackendJob) (status : BackendJobStatus) (listed : List BackendJob)
  | ingesting (job : BackendJob) (listed : List BackendJob)
  | handingOver (job : BackendJob) (rel : String) (listed : List BackendJob)
  | reverting (job : BackendJob) (listed : List BackendJob)
  | cancelling (jid : String) (seen : BackendState)

/-- Where a poll goes with a row once it is updated: to the hand-over of a completed
download, else to the next row. The state is the one decided on, not that of the row
re-read. -/
def Thread.decided (newState : BackendState) (status : BackendJobStatus)
    (listed : List BackendJob) (job : BackendJob) : Thread :=
  if newState = .completed ∧ status.path?.isSome then .ingesting job listed
  else .polling listed

/-- Positions of the backend executor: in the pipeline, between the read and the
write of the mirror, and after it. -/
inductive MirrorPc where
  | pipeline
  | writing (jid : String) (state : BackendState) (outcome : Queue.Outcome)
  | mirrored (outcome : Queue.Outcome)

/-- The process with the tables. -/
structure World where
  queue : Queue.World
  rows : BackendJobs
  threads : Nat → Thread
  mirror : MirrorPc

namespace World

/-- A new installation before the first boot. -/
def initial : World := ⟨.initial, .empty, fun _ => .idle, .pipeline⟩

end World

/-! ## Actions -/

/-- Which code issues an update. -/
inductive Writer where
  | poll | revert | mirror | cancel
  deriving DecidableEq, Repr

/-- An update of a row, with the state its writer decided from. -/
structure Write where
  jid : String
  seen : BackendState
  writer : Writer
  patch : Patch
  now : Queue.Time
  stored : Bool

/-- The accesses to the table that change it. -/
inductive RowOp where
  | create (request : NewBackendJob) (now : Queue.Time)
  | update (write : Write)

/-- The table and the row an access leaves. -/
def RowOp.apply (rows : BackendJobs) : RowOp → BackendJobs × Option BackendJob
  | .create request now => createBackendJob request now rows
  | .update write => updateBackendJob write.jid write.patch write.now write.stored rows

/-- The steps of the lane. `thread` is the request thread that takes the step. -/
inductive Action where
  | queue (action : Queue.Action)
  | create (jid sourceType category : String) (backendJobId title : Option String)
      (now : Queue.Time)
  | poll (thread : Nat)
  | skip (thread : Nat)
  | restoreReview (thread : Nat) (displayName : Option String) (now : Queue.Time) (stored : Bool)
  | capture (thread : Nat) (albumId : Option Int) (now : Queue.Time) (stored : Bool)
  | status (thread : Nat) (status : Option BackendJobStatus)
  | decide (thread : Nat) (now : Queue.Time) (stored : Bool)
  | ingest (thread : Nat) (root : String) (relpath : Option String) (now : Queue.Time)
      (stored : Bool)
  | enqueue (thread : Nat) (now : Queue.Time) (stored : Bool)
  | revert (thread : Nat) (now : Queue.Time) (stored : Bool)
  | cancelRead (thread : Nat) (jid : String) (readOk : Bool)
  | cancelWrite (thread : Nat) (now : Queue.Time) (stored : Bool)
  | mirrorRead (outcome : Queue.Outcome) (projection : Option Projection) (readOk : Bool)
  | mirrorWrite (now : Queue.Time) (stored : Bool)

/-- What an action does: the queue and the threads it leaves, and the access to the
table. The threads may depend on the row the access returns. -/
structure Effect where
  queue : Queue.World
  op : Option RowOp
  threads : Option BackendJob → Nat → Thread
  mirror : MirrorPc

namespace World

/-- A step of a request thread. -/
def threadStep (world : World) (thread : Nat) (op : Option RowOp)
    (next : Option BackendJob → Thread) : Option Effect :=
  some ⟨world.queue, op, fun row => Function.update world.threads thread (next row),
    world.mirror⟩

/-- A step of the backend executor. -/
def mirrorStep (world : World) (op : Option RowOp) (mirror : MirrorPc) : Option Effect :=
  some ⟨world.queue, op, fun _ => world.threads, mirror⟩

/-- The backend job whose executor body the import worker is in. -/
def ingesting? (world : World) : Option Queue.Job :=
  match world.queue.importer with
  | .executing job => if job.type = backendGrabType then some job else none
  | _ => none

/-- A step of the worker process. The other callers of `enqueue_job` enqueue other
work; the executor of a claimed job starts in the pipeline, and that of a backend job
ends as its mirror says. A kill ends the request threads. -/
def queueStep (world : World) (action : Queue.Action) : Option Effect :=
  let after (threads : Nat → Thread) (mirror : MirrorPc) : Option Effect :=
    (Queue.workers.step world.queue action).map fun queue =>
      ⟨queue, none, fun _ => threads, mirror⟩
  match action with
  | .enqueueJob request _ =>
      if foreignRequest request then after world.threads world.mirror else none
  | .importClaim .. => after world.threads .pipeline
  | .importEnd outcome =>
      match world.ingesting? with
      | none => after world.threads world.mirror
      | some _ =>
          match world.mirror with
          | .mirrored ended =>
              if ended = outcome then after world.threads world.mirror else none
          | _ => none
  | .kill => after (fun _ => .idle) .pipeline
  | _ => after world.threads world.mirror

/-- What an action does in a state; `none` where it is not enabled. -/
def effect (world : World) : Action → Option Effect
  | .queue action => world.queueStep action
  -- `_addurl_backend_lane`; the id is a new `uuid4`.
  | .create jid sourceType category backendJobId releaseTitle now =>
      let request : NewBackendJob :=
        { jid, sourceType, category, backendJobId, state := .downloading, releaseTitle }
      if (world.rows.find? (request.row now).jid).isSome then none
      else
        some ⟨world.queue, some (.create request now), fun _ => world.threads, world.mirror⟩
  | .poll thread =>
      match world.threads thread with
      | .idle => world.threadStep thread none fun _ => .polling (listActiveBackendJobs world.rows)
      | _ => none
  -- Also where no client is configured for the row.
  | .skip thread =>
      match world.threads thread with
      | .polling [] => world.threadStep thread none fun _ => .idle
      | .polling (_ :: listed) => world.threadStep thread none fun _ => .polling listed
      | _ => none
  | .restoreReview thread displayName now stored =>
      match world.threads thread with
      | .polling (job :: listed) =>
          if job.state = .review then
            match job.newTitle? displayName with
            | none => world.threadStep thread none fun _ => .polling listed
            | some title =>
                let write : Write :=
                  { jid := job.jid, seen := job.state, writer := .poll
                    patch := { releaseTitle := some title }, now, stored }
                world.threadStep thread (some (.update write)) fun _ => .polling listed
          else none
      | _ => none
  | .capture thread albumId now stored =>
      match world.threads thread with
      | .polling (job :: listed) =>
          if job.passedOver then none
          else
            match job.targetAlbumId, albumId with
            | none, some albumId =>
                let write : Write :=
                  { jid := job.jid, seen := job.state, writer := .poll
                    patch := { targetAlbumId := some albumId }, now, stored }
                world.threadStep thread (some (.update write)) fun updated =>
                  .captured (updated.getD job) listed
            | _, _ => world.threadStep thread none fun _ => .captured job listed
      | _ => none
  | .status thread status =>
      match world.threads thread with
      | .captured job listed =>
          match status with
          | none => world.threadStep thread none fun _ => .polling listed
          | some status => world.threadStep thread none fun _ => .deciding job status listed
      | _ => none
  | .decide thread now stored =>
      match world.threads thread with
      | .deciding job status listed =>
          let newState := nextLifecycleState job.state status.state
          let patch := job.reconcile status
          if patch.needed then
            let write : Write :=
              { jid := job.jid, seen := job.state, writer := .poll, patch, now, stored }
            world.threadStep thread (some (.update write)) fun updated =>
              updated.elim (.polling listed) (Thread.decided newState status listed)
          else world.threadStep thread none fun _ => .decided newState status listed job
      | _ => none
  | .ingest thread root relpath now stored =>
      match world.threads thread with
      | .ingesting job listed =>
          match ingestPath root relpath with
          | none => world.threadStep thread none fun _ => .polling listed
          | some rel =>
              let write : Write :=
                { jid := job.jid, seen := .completed, writer := .poll
                  patch := { state := some .importing }, now, stored }
              world.threadStep thread (some (.update write)) fun updated =>
                updated.elim (.polling listed) fun _ => .handingOver job rel listed
      | _ => none
  | .enqueue thread now stored =>
      match world.threads thread with
      | .handingOver job rel listed =>
          if stored then
            let enqueued := Queue.enqueueJob (ingestRequest job rel) now world.queue.db
            let next : Thread :=
              if enqueued.2.isSome then .polling listed else .reverting job listed
            some ⟨{ world.queue with db := enqueued.1 }, none,
              fun _ => Function.update world.threads thread next, world.mirror⟩
          else world.threadStep thread none fun _ => .reverting job listed
      | _ => none
  | .revert thread now stored =>
      match world.threads thread with
      | .reverting job listed =>
          let write : Write :=
            { jid := job.jid, seen := .importing, writer := .revert
              patch := { state := some .completed }, now, stored }
          world.threadStep thread (some (.update write)) fun _ => .polling listed
      | _ => none
  | .cancelRead thread jid readOk =>
      match world.threads thread with
      | .idle =>
          match getBackendJob jid readOk world.rows with
          | none => world.threadStep thread none fun _ => .idle
          | some job =>
              if job.state.Terminal then world.threadStep thread none fun _ => .idle
              else world.threadStep thread none fun _ => .cancelling jid job.state
      | _ => none
  | .cancelWrite thread now stored =>
      match world.threads thread with
      | .cancelling jid seen =>
          let write : Write :=
            { jid, seen, writer := .cancel
              patch := { state := some .cancelled, finished := true }, now, stored }
          world.threadStep thread (some (.update write)) fun _ => .idle
      | _ => none
  | .mirrorRead outcome projection readOk =>
      match world.ingesting?, world.mirror with
      | some job, .pipeline =>
          let state :=
            match outcome with
            | .returned .. => backendIngestOutcome projection
            | .cancelled | .raised _ => .failed
          match getBackendJob job.jid readOk world.rows with
          | none => world.mirrorStep none (.mirrored outcome)
          | some row =>
              if row.state = .importing then
                world.mirrorStep none (.writing job.jid state outcome)
              else world.mirrorStep none (.mirrored outcome)
      | _, _ => none
  | .mirrorWrite now stored =>
      match world.mirror with
      | .writing jid state outcome =>
          let write : Write :=
            { jid, seen := .importing, writer := .mirror
              patch := { state := some state, finished := decide state.Terminal }, now, stored }
          world.mirrorStep (some (.update write)) (.mirrored outcome)
      | _ => none

/-- The state after an effect. -/
def perform (world : World) (effect : Effect) : World :=
  let access := effect.op.map (RowOp.apply world.rows)
  { queue := effect.queue
    rows := (access.map Prod.fst).getD world.rows
    threads := effect.threads (access.bind Prod.snd)
    mirror := effect.mirror }

end World

/-- The lane. -/
def lane : Machine World Action where
  step world action := (world.effect action).map world.perform

/-! ## The rows after a step -/

section Rows

variable {world : World} {effect : Effect} {write : Write} {jid : String}

@[simp] theorem World.perform_rows : (world.perform effect).rows =
    ((effect.op.map (RowOp.apply world.rows)).map Prod.fst).getD world.rows := rfl

@[simp] theorem World.perform_queue : (world.perform effect).queue = effect.queue := rfl

@[simp] theorem World.perform_mirror : (world.perform effect).mirror = effect.mirror := rfl

theorem World.perform_threads : (world.perform effect).threads =
    effect.threads ((effect.op.map (RowOp.apply world.rows)).bind Prod.snd) := rfl

/-- A new id leaves the rows under the others alone. -/
theorem stateOf_createBackendJob {rows : BackendJobs} {request : NewBackendJob}
    {now : Queue.Time} {state : BackendState}
    (free : rows.find? (request.row now).jid = none) (stored : stateOf rows jid = some state) :
    stateOf (createBackendJob request now rows).1 jid = some state := by
  simp only [createBackendJob]
  split
  · exact stored
  · simp only [free]
    rw [stateOf, Registry.find?_add free]
    split
    · next same =>
        rw [stateOf, same, free] at stored
        contradiction
    · exact stored

/-- The state under an id after an effect that updates a row. -/
theorem stateOf_perform (same : effect.op = some (.update write)) :
    stateOf (world.perform effect).rows jid =
      if write.stored = true ∧ jid = write.jid then
        (stateOf world.rows jid).map fun state => write.patch.state.getD state
      else stateOf world.rows jid := by
  rw [World.perform_rows, same, Option.map_some, Option.map_some, Option.getD_some]
  simp only [RowOp.apply]
  cases write.stored with
  | false => simp
  | true => simpa using stateOf_updateBackendJob

end Rows

end Mintarr.Backend
