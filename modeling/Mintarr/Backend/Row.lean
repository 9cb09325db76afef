import Mintarr.Lib.Registry
import Mintarr.Queue.Operations

/-!
# Rows of the backend lane

The `backend_jobs` table of `state_db` and the functions that read and write it.
A row maps the download id Lidarr sees to a job of the download backend.  As in
the queue, a function is one critical section of the module lock, the clock
reading is an argument, and an SQL `NULL` is `none`.
-/

namespace Mintarr.Backend

open Lib

/-- `BACKEND_JOB_STATES`. -/
inductive BackendState where
  | queued | downloading | completed | importing | review | imported | failed | cancelled
  deriving DecidableEq, Repr

/-- `BACKEND_JOB_TERMINAL_STATES`. -/
def backendJobTerminalStates : List BackendState := [.imported, .failed, .cancelled]

namespace BackendState

def Terminal (state : BackendState) : Prop := state ∈ backendJobTerminalStates

instance (state : BackendState) : Decidable state.Terminal :=
  inferInstanceAs (Decidable (state ∈ backendJobTerminalStates))

@[simp] theorem terminal_imported : imported.Terminal := by decide
@[simp] theorem terminal_failed : failed.Terminal := by decide
@[simp] theorem terminal_cancelled : cancelled.Terminal := by decide
@[simp] theorem not_terminal_importing : ¬importing.Terminal := by decide
@[simp] theorem not_terminal_completed : ¬completed.Terminal := by decide
@[simp] theorem not_terminal_review : ¬review.Terminal := by decide

end BackendState

/-- `download_backend.BackendState`: what the backend says of a transfer. -/
inductive TransferState where
  | queued | downloading | completed | failed | unknown
  deriving DecidableEq, Repr

/-- `next_lifecycle_state`. -/
def nextLifecycleState (current : BackendState) (transfer : TransferState) : BackendState :=
  if current.Terminal ∨ current = .importing ∨ current = .review then current
  else
    match transfer with
    | .failed => .failed
    | .completed => .completed
    | .downloading => .downloading
    | .queued => .queued
    | .unknown => current

/-- A poll moves a row only out of the states before the import. -/
theorem nextLifecycleState_ne {current : BackendState} {transfer : TransferState}
    (moved : nextLifecycleState current transfer ≠ current) :
    ¬current.Terminal ∧ current ≠ .importing ∧ current ≠ .review := by
  simp only [nextLifecycleState] at moved
  split at moved
  · contradiction
  · next open_ => simpa only [not_or] using open_

/-- A poll never starts an import and never ends one. -/
theorem nextLifecycleState_importing {current : BackendState} {transfer : TransferState} :
    nextLifecycleState current transfer = .importing ↔ current = .importing := by
  cases current <;> cases transfer <;> decide

/-- One row of `backend_jobs`. -/
structure BackendJob where
  jid : String
  sourceType : String
  backendJobId : Option String
  category : String
  state : BackendState
  targetAlbumId : Option Int
  releaseTitle : Option String
  backendPath : Option String := none
  createdAt : Queue.Time
  updatedAt : Queue.Time
  finishedAt : Option Queue.Time := none
  deriving DecidableEq, Repr

/-- The table. -/
abbrev BackendJobs := Registry BackendJob BackendJob.jid

/-- Arguments of `create_backend_job`. -/
structure NewBackendJob where
  jid : String
  sourceType : String
  category : String
  backendJobId : Option String
  state : BackendState := .queued
  targetAlbumId : Option Int := none
  releaseTitle : Option String := none

/-- The inserted row. -/
def NewBackendJob.row (request : NewBackendJob) (now : Queue.Time) : BackendJob where
  jid := Queue.strip request.jid
  sourceType := Queue.strip request.sourceType
  backendJobId := request.backendJobId
  category := Queue.strip request.category
  state := request.state
  targetAlbumId := request.targetAlbumId
  releaseTitle := request.releaseTitle
  createdAt := now
  updatedAt := now

/-- The `DO UPDATE` of the upsert. -/
def BackendJob.resubmit (row fresh : BackendJob) : BackendJob :=
  { row with
    sourceType := fresh.sourceType
    backendJobId := fresh.backendJobId
    category := fresh.category
    state := fresh.state
    targetAlbumId := fresh.targetAlbumId
    releaseTitle := fresh.releaseTitle
    updatedAt := fresh.updatedAt }

@[simp] theorem BackendJob.resubmit_jid (fresh row : BackendJob) :
    (row.resubmit fresh).jid = row.jid := rfl

/-- `create_backend_job`: insert the row, or overwrite one that is not terminal. -/
def createBackendJob (request : NewBackendJob) (now : Queue.Time) (rows : BackendJobs) :
    BackendJobs × Option BackendJob :=
  let fresh := request.row now
  if fresh.jid = "" ∨ fresh.category = "" ∨ fresh.sourceType = "" then (rows, none)
  else
    let rows :=
      match rows.find? fresh.jid with
      | none => rows.add fresh
      | some old =>
          if old.state.Terminal then rows
          else
            rows.modify fresh.jid (BackendJob.resubmit · fresh) (BackendJob.resubmit_jid fresh)
    (rows, rows.find? fresh.jid)

/-- The columns `update_backend_job` is asked to change. -/
structure Patch where
  state : Option BackendState := none
  backendPath : Option String := none
  targetAlbumId : Option Int := none
  releaseTitle : Option String := none
  finished : Bool := false
  deriving DecidableEq, Repr

/-- The `UPDATE` of a row. -/
def BackendJob.patch (patch : Patch) (now : Queue.Time) (row : BackendJob) : BackendJob :=
  { row with
    updatedAt := now
    state := patch.state.getD row.state
    backendPath := patch.backendPath.or row.backendPath
    targetAlbumId := patch.targetAlbumId.or row.targetAlbumId
    releaseTitle := patch.releaseTitle.or row.releaseTitle
    finishedAt := if patch.finished then some now else row.finishedAt }

@[simp] theorem BackendJob.patch_jid (patch : Patch) (now : Queue.Time) (row : BackendJob) :
    (row.patch patch now).jid = row.jid := rfl

/-- `update_backend_job`; `stored` is false when the database call fails.  The
`WHERE` clause names the row only: it does not look at its state. -/
def updateBackendJob (jid : String) (patch : Patch) (now : Queue.Time) (stored : Bool)
    (rows : BackendJobs) : BackendJobs × Option BackendJob :=
  if stored then
    let rows := rows.modify jid (BackendJob.patch patch now) (BackendJob.patch_jid patch now)
    (rows, rows.find? jid)
  else (rows, none)

/-- `get_backend_job`; `readOk` is false when the query fails. -/
def getBackendJob (jid : String) (readOk : Bool) (rows : BackendJobs) : Option BackendJob :=
  if readOk then rows.find? jid else none

/-- The `ORDER BY updated_at DESC` of the list query. -/
def BackendJob.NewerThan (row other : BackendJob) : Prop := other.updatedAt ≤ row.updatedAt

instance : DecidableRel BackendJob.NewerThan := fun row other =>
  inferInstanceAs (Decidable (other.updatedAt ≤ row.updatedAt))

/-- `list_active_backend_jobs`. -/
def listActiveBackendJobs (rows : BackendJobs) : List BackendJob :=
  ((rows.rows.filter fun row => ¬row.state.Terminal).insertionSort
    BackendJob.NewerThan).take 10000

/-- The state of the row under an id. -/
def stateOf (rows : BackendJobs) (jid : String) : Option BackendState :=
  (rows.find? jid).map BackendJob.state

/-! ## What the functions do to the state of a row -/

section States

variable {rows : BackendJobs} {jid other : String} {patch : Patch} {now : Queue.Time}

/-- A stored update sets the state it is given, whatever the row's state was. -/
theorem stateOf_updateBackendJob :
    stateOf (updateBackendJob jid patch now true rows).1 other =
      if other = jid then (stateOf rows other).map fun state => patch.state.getD state
      else stateOf rows other := by
  simp only [stateOf, updateBackendJob, if_true, Registry.find?_modify]
  split
  · rw [Option.map_map, Option.map_map]
    rfl
  · rfl

/-- An update that fails changes nothing. -/
@[simp] theorem updateBackendJob_lost :
    updateBackendJob jid patch now false rows = (rows, none) := rfl

/-- Listed rows are stored and not terminal. -/
theorem mem_listActiveBackendJobs {row : BackendJob}
    (listed : row ∈ listActiveBackendJobs rows) :
    row ∈ rows.rows ∧ ¬row.state.Terminal := by
  have sorted := List.mem_of_mem_take listed
  rw [List.mem_insertionSort, List.mem_filter] at sorted
  exact ⟨sorted.1, of_decide_eq_true sorted.2⟩

end States

end Mintarr.Backend
