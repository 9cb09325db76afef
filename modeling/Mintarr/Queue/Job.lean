import Mathlib.Algebra.Order.Ring.Rat
import Mathlib.Algebra.Order.Floor.Defs
import Mathlib.Data.Rat.Floor
import Mintarr.Lib.Table

/-!
# Rows of the durable queue

The `jobs` and `library_scan_runs` tables of `state_db`.  Every column that a
queue operation reads or writes is a field; an SQL `NULL` is `none`.  The
`attempts` and `cancel_requested` columns have defaults and are only ever set
from non-null values, so they are plain fields.
-/

namespace Mintarr.Queue

open Lib

/-- Seconds since the epoch, as `time.time()` returns them. -/
abbrev Time := ℚ

/-- States of a job and of a library-scan run; both columns use the same six
names. -/
inductive JobState where
  | queued | running | cancelling | completed | failed | cancelled
  deriving DecidableEq, Repr

/-- `ACTIVE_JOB_STATES` and `ACTIVE_LIBRARY_SCAN_STATES`. -/
def activeJobStates : List JobState := [.queued, .running, .cancelling]

/-- `TERMINAL_JOB_STATES` and `TERMINAL_LIBRARY_SCAN_STATES`. -/
def terminalJobStates : List JobState := [.completed, .failed, .cancelled]

namespace JobState

def Active (state : JobState) : Prop := state ∈ activeJobStates

def Terminal (state : JobState) : Prop := state ∈ terminalJobStates

instance (state : JobState) : Decidable state.Active :=
  inferInstanceAs (Decidable (state ∈ activeJobStates))

instance (state : JobState) : Decidable state.Terminal :=
  inferInstanceAs (Decidable (state ∈ terminalJobStates))

/-- The two lists partition the states. -/
theorem not_active_iff {state : JobState} : ¬state.Active ↔ state.Terminal := by
  cases state <;> decide

@[simp] theorem active_queued : queued.Active := by decide
@[simp] theorem active_running : running.Active := by decide
@[simp] theorem active_cancelling : cancelling.Active := by decide
@[simp] theorem terminal_completed : completed.Terminal := by decide
@[simp] theorem terminal_failed : failed.Terminal := by decide
@[simp] theorem terminal_cancelled : cancelled.Terminal := by decide

theorem Terminal.not_active {state : JobState} (terminal : state.Terminal) :
    ¬state.Active := not_active_iff.mpr terminal

end JobState

/-- Scalar values of the JSON objects kept in `payload_json` and
`result_json`. -/
inductive Scalar where
  | null
  | int (value : Int)
  | str (value : String)
  deriving DecidableEq, Repr

/-- A flat JSON object; `json.dumps` and `json.loads` are inverse on it. -/
abbrev Payload := List (String × Scalar)

/-- `payload.get(key)`. -/
def Payload.get? (payload : Payload) (key : String) : Scalar :=
  ((payload.find? fun entry => entry.1 = key).map Prod.snd).getD .null

/-- The object kept in `progress_json`. -/
structure Progress where
  stage : String
  percent : Int
  message : String
  updatedAt : Option Time := none
  retryAt : Option Time := none
  deriving DecidableEq, Repr

/-- One row of `jobs`. -/
structure Job where
  id : Nat
  jid : String
  type : String
  state : JobState
  resultState : Option String := none
  priority : Int
  createdAt : Time
  startedAt : Option Time := none
  finishedAt : Option Time := none
  nextAttemptAt : Option Time := none
  heartbeatAt : Option Time := none
  leaseExpiresAt : Option Time := none
  attempts : Nat := 0
  maxAttempts : Option Int
  dedupeKey : Option String
  sourceType : Option String
  sourceId : Option String
  payload : Payload
  progress : Option Progress := none
  result : Option Payload := none
  errorText : Option String := none
  workerId : Option String := none
  cancelRequested : Bool := false
  deriving DecidableEq, Repr

/-- The counter columns of a scan run. -/
structure ScanTotals where
  totalItems : Int := 0
  processedItems : Int := 0
  measuredItems : Int := 0
  freshItems : Int := 0
  unmeasuredItems : Int := 0
  errorItems : Int := 0
  deriving DecidableEq, Repr

/-- One row of `library_scan_runs`. -/
structure ScanRun where
  id : Nat
  mode : String
  state : JobState
  createdAt : Time
  updatedAt : Time
  startedAt : Option Time := none
  finishedAt : Option Time := none
  workerJobId : Option Nat := none
  requestedBy : Option String
  totals : ScanTotals := {}
  cancelRequested : Bool := false
  lastError : Option String := none
  deriving DecidableEq, Repr

/-- The two queue tables of the state database. -/
structure Db where
  jobs : Table Job Job.id
  scanRuns : Table ScanRun ScanRun.id

/-- A freshly initialised database. -/
def Db.empty : Db := ⟨.empty, .empty⟩

/-- How far a multi-statement operation gets: `none` runs to completion,
`some count` is cut off after `count` statements by an error or a process kill.
Connections are in autocommit mode, so the statements before the cut persist. -/
abbrev Cut := Option Nat

/-- The statements that are executed. -/
def Cut.keep {α : Type} (cut : Cut) (statements : List α) : List α :=
  match cut with
  | none => statements
  | some count => statements.take count

theorem Cut.mem_of_mem_keep {α : Type} {cut : Cut} {statements : List α} {item : α}
    (member : item ∈ cut.keep statements) : item ∈ statements := by
  cases cut with
  | none => exact member
  | some count => exact List.mem_of_mem_take member

theorem Cut.keep_sublist {α : Type} (cut : Cut) (statements : List α) :
    (cut.keep statements).Sublist statements := by
  cases cut with
  | none => exact List.Sublist.refl _
  | some count => exact List.take_sublist count statements

end Mintarr.Queue
