import Mintarr.Lane.Plain

/-!
# Watching a cancel

What happens to a job while it runs, as far as cancels and the library go: whether a
cancel is accepted, found and raised, whether the library is changed, and what the
worker reports.  A cancel may be accepted at any moment, which for the job is the
moment before one of its calls.
-/

namespace Mintarr.Lane

open Lib

variable {α β : Type}

/-- The handlers that log a cancel and forget it. -/
def Handler.swallows : Handler → Bool
  | .titleRescue | .rescue | .scanItem => true
  | _ => false

/-- The handlers of a library scan, whose check raises at once. -/
def Handler.scans : Handler → Bool
  | .libraryScan | .scanItem => true
  | _ => false

/-- The state that a report leaves a job in. -/
def reportedState : Queue.Report → Queue.JobState
  | .completed .. => .completed
  | .failed .. => .failed
  | .cancelled => .cancelled

/-- It is the state that the queue's critical section writes. -/
theorem state_of_report {report : Queue.Report} {jobId : Nat} {now : Queue.Time}
    {db : Queue.Db} {row : Queue.Job} (stored : row ∈ ((report.op jobId now).apply db).jobs.rows)
    (own : row.id = jobId) : row.state = reportedState report := by
  cases report <;>
    simp only [Queue.Report.op, Queue.Op.apply, Queue.markJobCompleted, Queue.markJobFailed,
      Queue.markJobCancelled, Table.mem_update] at stored <;>
    · rcases stored with ⟨old, _, rfl⟩
      split at own
      · next mine => simp [mine, reportedState]
      · next other => simp [own] at other

/-- What has happened to a job so far. -/
structure Watch where
  /-- `cancel_requested` of the job row. -/
  requested : Bool
  /-- It was set, and no check has found it since. -/
  unread : Bool
  /-- A checkpoint has raised the cancel. -/
  raised : Bool := false
  /-- The cancel was raised under a handler that forgets it, or got lost on the way. -/
  swallowed : Bool := false
  /-- A ManualImport was posted, or a file copied to the library. -/
  mutated : Bool := false
  /-- That began after the cancel was requested. -/
  late : Bool := false
  /-- That began while a cancel was requested and unread. -/
  blind : Bool := false
  /-- A cancel was raised, to the worker, after the library was changed. -/
  overtaken : Bool := false
  /-- A file or item was taken up after a cancel was raised. -/
  processed : Bool := false
  /-- The state of the job row after the report. -/
  job : Option Queue.JobState := none
  /-- The state of the scan run. -/
  run : Option Queue.JobState := none
  /-- The database did not take the report, or the end of the run. -/
  lost : Bool := false
  deriving DecidableEq, Repr

namespace Watch

/-- A cancel is requested. -/
def accept (watch : Watch) : Watch :=
  { watch with requested := true, unread := watch.unread || !watch.requested }

/-- A file or item is taken up. -/
def take (watch : Watch) : Watch :=
  { watch with processed := watch.processed || watch.raised }

/-- The library is changed. -/
def mutate (watch : Watch) : Watch :=
  { watch.take with
    mutated := true
    late := watch.late || watch.requested
    blind := watch.blind || watch.unread }

/-- A checkpoint raises the cancel. -/
def raise (watch : Watch) (handler : Handler) : Watch :=
  { watch with
    raised := true
    swallowed := watch.swallowed || handler.swallows
    overtaken := watch.overtaken || (watch.mutated && !handler.swallows) }

/-- Another exception takes the place of the cancel, if one is under way. -/
def lose (watch : Watch) : Watch :=
  { watch with
    swallowed := watch.swallowed || watch.raised
    overtaken := watch.overtaken && !watch.raised }

/-- The worker reports the end of the job. -/
def reportJob (watch : Watch) (state : Queue.JobState) (stored : Bool) : Watch :=
  if stored then { watch with job := some state } else { watch with lost := true }

/-- The scan ends its run, or says that it goes on. -/
def reportRun (watch : Watch) (state : Queue.JobState) (stored : Bool) : Watch :=
  if stored then { watch with run := some state }
  else { watch with lost := watch.lost || state = .cancelled }

/-- What a call and its answer add. -/
def see (watch : Watch) : (call : Call) → call.op.Answer → Watch
  | ⟨handler, op⟩, answer =>
      match op, answer with
      | .isJobCancelRequested, .ok true =>
          let found := { watch with unread := false }
          if handler.scans then found.raise handler else found
      | .markDownloadCancelled, .ok () => watch.raise handler
      | .act .waitKilledProcess, .error _ => watch.lose
      | .copySource _, _ | .convertFile _, _ | .testFile _, _ | .measureItem _, _
      | .submitItem _, _ => watch.take
      | .postManualImport _, _ | .copyToLibrary _, _ => watch.mutate
      | .report report, stored => watch.reportJob (reportedState report) stored
      | .scheduleJobRetry _, stored => if stored then { watch with job := some .queued } else watch
      | .updateScanRun state, stored => watch.reportRun state stored
      | _, _ => watch

/-- The flag is found only where it is set; the check of a scan asks for a shutdown too. -/
def possible (watch : Watch) : (call : Call) → call.op.Answer → Bool
  | ⟨handler, op⟩, answer =>
      match op, answer with
      | .isJobCancelRequested, .ok found => !found || watch.requested || handler.scans
      | _, _ => true

/-- A call, before which a cancel may be accepted. -/
def surroundings : Surroundings Call (fun call => call.op.Answer) Watch where
  answers before call answer after :=
    ∃ start, (start = before ∨ start = before.accept) ∧
      start.possible call answer = true ∧ after = start.see call answer

/-- The state at the start of a job: the cancel may be requested already. -/
def start (requested : Bool) : Watch := { requested, unread := requested }

/-! ## Calls -/

/-- The property does not look at the cancel flag. -/
def Stable (invariant : Watch → Prop) : Prop := ∀ watch, invariant watch → invariant watch.accept

/-- A plain call adds nothing. -/
theorem see_plain {watch : Watch} {call : Call} {answer : call.op.Answer}
    (plain : call.op.plain = true) : watch.see call answer = watch := by
  rcases call with ⟨handler, op⟩
  cases op with
  | act step => cases step <;> simp_all [see, Op.plain]
  | isJobCancelRequested | markDownloadCancelled | copySource | convertFile | testFile
  | measureItem | submitItem | postManualImport | copyToLibrary | report | scheduleJobRetry
  | updateScanRun => simp [Op.plain, Op.processes] at plain
  | _ => rfl

/-- What is stable, a program of plain calls keeps. -/
theorem triple_within {invariant : Watch → Prop} {raises : Raised → Prop} {program : Work α}
    (within : program.Within (fun call => call.op.plain = true) raises)
    (stable : Stable invariant) :
    surroundings.Triple invariant program (fun _ => invariant)
      fun error watch => raises error ∧ invariant watch := by
  refine .of_within within ?_
  rintro before call answer after isPlain holds ⟨start, origin, _, rfl⟩
  rw [see_plain isPlain]
  rcases origin with rfl | rfl
  · exact holds
  · exact stable _ holds

theorem triple_plain {invariant : Watch → Prop} {program : Work α} (plain : program.Plain)
    (stable : Stable invariant) :
    surroundings.Triple invariant program (fun _ => invariant)
      fun error watch => error ≠ .cancelled ∧ invariant watch :=
  triple_within plain stable

/-- What holds after a call whose answer is not looked at. -/
theorem triple_ask {pre post : Watch → Prop} {fail : Raised → Watch → Prop}
    {handler : Handler} {op : Op} (stable : Stable pre)
    (sees : ∀ watch answer, pre watch → watch.possible ⟨handler, op⟩ answer = true →
      post (watch.see ⟨handler, op⟩ answer)) :
    surroundings.Triple pre (Lane.ask handler op) (fun _ => post) fail := by
  refine .ask ?_
  rintro before answer after holds ⟨start, rfl | rfl, allowed, rfl⟩
  · exact sees _ _ holds allowed
  · exact sees _ _ (stable _ holds) allowed

/-- An exception that an answer holds is raised. -/
theorem triple_raising {answer : Except String α} {pre : Watch → Prop}
    {fail : Raised → Watch → Prop}
    (fails : ∀ text watch, pre watch → fail (.error text) watch) :
    surroundings.Triple pre (Lane.raising answer) (fun _ => pre) fail := by
  cases answer with
  | ok value => exact .pure fun _ holds => holds
  | error text => exact .throw (fails text)

end Watch

end Mintarr.Lane
