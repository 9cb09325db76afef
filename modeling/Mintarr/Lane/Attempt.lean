import Mintarr.Lane.Footprints

/-!
# An attempt of a job

What the worker's decision to retry depends on: the projection, which carries the text of
an exception past `import_to_lidarr`, and whether the attempt has changed the library.  A
call that raises may have had its effect.
-/

namespace Mintarr.Lane

open Lib Policy Import

variable {α β : Type}

/-- What has happened to an attempt so far. -/
structure Attempt where
  /-- `_jobs[jid]`. -/
  entry : JobEntry := {}
  /-- A ManualImport was posted, or a file copied to the library. -/
  mutated : Bool := false
  /-- After that the import raised what the worker would take for transient. -/
  suspect : Bool := false
  /-- The worker has scheduled a retry. -/
  retried : Bool := false
  deriving DecidableEq, Repr

/-- The text under which `import_to_lidarr` records an exception. -/
def recorded (text : String) : String := "lidarr import exception: " ++ text

namespace Attempt

variable {row : Queue.Job}

/-- What a call changes. -/
def write (attempt : Attempt) : (op : Op) → op.Answer → Attempt
  | .saveJobs update, _ => { attempt with entry := attempt.entry.update update }
  | .markDownloadCancelled, _ =>
      let update := { status := some .failed, error := some "cancelled by user" }
      { attempt with entry := attempt.entry.update update }
  | .postManualImport _, _ | .copyToLibrary _, _ => { attempt with mutated := true }
  | .scheduleJobRetry _, stored => { attempt with retried := attempt.retried || stored }
  | _, _ => attempt

/-- An exception of the import is recorded, and looks transient. -/
def suspects (row : Queue.Job) (attempt : Attempt) (call : Call) (answer : call.op.Answer) : Bool :=
  attempt.mutated && call.handler = .importToLidarr &&
    (call.op.exception answer).any fun text => Queue.isTransientFailure row (recorded text)

/-- What a call and its answer add. -/
def see (row : Queue.Job) (attempt : Attempt) (call : Call) (answer : call.op.Answer) : Attempt :=
  let written := attempt.write call.op answer
  { written with suspect := attempt.suspect || suspects row written call answer }

/-- The projection is read as it was written. -/
def possible (attempt : Attempt) : (op : Op) → op.Answer → Prop
  | .readJob, entry => entry = attempt.entry
  | _, _ => True

/-- The attempt, call by call. -/
def surroundings (row : Queue.Job) : Surroundings Call (fun call => call.op.Answer) Attempt where
  answers before call answer after :=
    before.possible call.op answer ∧ after = before.see row call answer

/-- The sidecar is not found, or cannot be read. -/
def unread : (op : Op) → op.Answer → Bool
  | .readSidecar, none => true
  | op, answer => (op.exception answer).isSome

/-- Past a change of the library no exception that looks transient leaves the executor, and
where the import has raised one, the sidecar is read at its end. -/
def harmless (row : Queue.Job) (before : Attempt) (call : Call) (answer : call.op.Answer)
    (after : Attempt) : Bool :=
  match call.handler with
  | .executor =>
      !(after.mutated && (call.op.exception answer).any (Queue.isTransientFailure row))
  | .terminalResult => !(before.suspect && unread call.op answer)
  | _ => true

/-- The runs whose steps are harmless. -/
abbrev calm (row : Queue.Job) : Surroundings Call (fun call => call.op.Answer) Attempt :=
  (surroundings row).restrict fun before call answer after => harmless row before call answer after

/-! ## What holds of an attempt -/

/-- The worker has not decided yet. -/
def Unretried (attempt : Attempt) : Prop := attempt.retried = false

/-- The library is as it was. -/
def Unmutated (attempt : Attempt) : Prop := attempt.Unretried ∧ attempt.mutated = false

/-- The projection has not failed, or with a text that the worker takes for permanent. -/
def Fine (row : Queue.Job) (attempt : Attempt) : Prop :=
  attempt.Unretried ∧ (attempt.entry.status = some .failed →
    ∃ text, attempt.entry.error = some text ∧ Queue.isTransientFailure row text = false)

/-- The import is over. -/
def Settled (row : Queue.Job) (attempt : Attempt) : Prop :=
  attempt.Unretried ∧ (attempt.mutated = true → attempt.suspect = true ∨ attempt.Fine row)

/-- An exception on its way to the worker is not retried past a change of the library. -/
def Permanent (row : Queue.Job) (error : Raised) (attempt : Attempt) : Prop :=
  attempt.Unretried ∧ (attempt.mutated = true → ∀ text, error = .error text →
    Queue.isTransientFailure row text = false)

/-- An exception on its way to `import_to_lidarr`. -/
def Noted (row : Queue.Job) (error : Raised) (attempt : Attempt) : Prop :=
  attempt.Unretried ∧ (attempt.mutated = true → ∀ text, error = .error text →
    attempt.suspect = true ∨ Queue.isTransientFailure row (recorded text) = false)

/-- An exception that is caught. -/
def Caught (_ : Raised) (attempt : Attempt) : Prop := attempt.Unretried

variable {attempt : Attempt}

theorem Unmutated.permanent (unmutated : attempt.Unmutated) (error : Raised) :
    attempt.Permanent row error :=
  ⟨unmutated.1, fun mutated => by simp [unmutated.2] at mutated⟩

theorem Unmutated.noted (unmutated : attempt.Unmutated) (error : Raised) :
    attempt.Noted row error :=
  ⟨unmutated.1, fun mutated => by simp [unmutated.2] at mutated⟩

theorem Unmutated.settled (unmutated : attempt.Unmutated) : attempt.Settled row :=
  ⟨unmutated.1, fun mutated => by simp [unmutated.2] at mutated⟩

theorem Fine.settled (fine : attempt.Fine row) : attempt.Settled row := ⟨fine.1, fun _ => .inr fine⟩

/-- A text with a permanent marker is never retried. -/
theorem not_transient_of_marker {text : String} (marker : String)
    (mem : marker ∈ Queue.permanentErrorMarkers)
    (occurs : marker.toList <:+: text.toList.flatMap Queue.lowerChar) :
    Queue.isTransientFailure row text = false := by
  have permanent : Queue.containsMarker Queue.permanentErrorMarkers
      (text.toList.flatMap Queue.lowerChar) = true :=
    List.any_eq_true.2 ⟨marker, mem, decide_eq_true occurs⟩
  simp [Queue.isTransientFailure, permanent]

/-- Nor is one without a transient marker. -/
theorem not_transient_of_unmarked {text : String}
    (unmarked : Queue.containsMarker Queue.transientErrorMarkers
      (text.toList.flatMap Queue.lowerChar) = false) :
    Queue.isTransientFailure row text = false := by
  simp [Queue.isTransientFailure, unmarked]

/-! ## Calls -/

/-- The call is one of the worker, which decides. -/
def decides : Op → Bool
  | .scheduleJobRetry _ => true
  | _ => false

theorem unretried_see {call : Call} {answer : call.op.Answer} (keeps : decides call.op = false)
    (unretried : attempt.Unretried) : (attempt.see row call answer).Unretried := by
  rcases call with ⟨handler, op⟩
  cases op <;> first | exact unretried | simp [decides] at keeps

theorem decides_of_ordinary {op : Op} (ordinary : op.ordinary = true) : decides op = false := by
  cases op <;> first | rfl | simp [Op.ordinary, Op.plain, Op.processes] at ordinary

theorem unmutated_see {call : Call} {answer : call.op.Answer} (keeps : call.op.mutates = false)
    (undecided : decides call.op = false) (unmutated : attempt.Unmutated) :
    (attempt.see row call answer).Unmutated := by
  refine ⟨unretried_see undecided unmutated.1, ?_⟩
  rcases call with ⟨handler, op⟩
  cases op <;> first | exact unmutated.2 | simp [Op.mutates] at keeps

theorem fine_see {call : Call} {answer : call.op.Answer} (ordinary : call.op.ordinary = true)
    (fine : attempt.Fine row) : (attempt.see row call answer).Fine row := by
  refine ⟨unretried_see (decides_of_ordinary ordinary) fine.1, ?_⟩
  rcases call with ⟨handler, op⟩
  cases op with
  | saveJobs update =>
      simp only [Op.ordinary, Op.fails, Bool.and_eq_true, Bool.not_eq_true', Bool.or_eq_false_iff,
        decide_eq_false_iff_not, Option.isSome_eq_false_iff, Option.isNone_iff_eq_none] at ordinary
      rcases ordinary with ⟨⟨_, other, noError⟩, _⟩
      intro failed
      have status : attempt.entry.status = some .failed := by
        cases given : update.status with
        | none => simpa [see, write, JobEntry.update, given] using failed
        | some status => simp_all [see, write, JobEntry.update]
      rcases fine.2 status with ⟨text, error, permanent⟩
      exact ⟨text, by simp [see, write, JobEntry.update, noError, error], permanent⟩
  | markDownloadCancelled => simp [Op.ordinary, Op.fails] at ordinary
  | _ => exact fine.2

/-! ## Rules -/

/-- What makes no change of the library leaves it as it was. -/
theorem triple_unmutated {raises : Raised → Prop} {program : Work α}
    (within : program.Within
      (fun call => call.op.mutates = false ∧ decides call.op = false) raises) :
    (calm row).Triple Unmutated program (fun _ => Unmutated) fun _ => Unmutated := by
  refine (Surroundings.Triple.of_within within ?_).imp (fun _ => id) (fun _ _ => id)
    fun _ _ => And.right
  rintro before call answer after ⟨keeps, undecided⟩ unmutated ⟨⟨_, rfl⟩, _⟩
  exact unmutated_see keeps undecided unmutated

/-- Before any change of the library a program may also keep the projection fine. -/
def Before (row : Queue.Job) (attempt : Attempt) : Prop :=
  attempt.Unmutated ∧ attempt.Fine row

/-- What becomes of an exception that a call raises under a handler. -/
def Raises (row : Queue.Job) (handler : Handler) (fail : Raised → Attempt → Prop) : Prop :=
  ∀ (before : Attempt) op answer text, op.exception answer = some text →
    harmless row before ⟨handler, op⟩ answer (before.see row ⟨handler, op⟩ answer) = true →
      (before.see row ⟨handler, op⟩ answer).Unretried →
        fail (.error text) (before.see row ⟨handler, op⟩ answer)

/-- An exception of the import is noted. -/
theorem raises_importToLidarr : Raises row .importToLidarr (Noted row) := by
  rintro before op answer text exception - unretried
  refine ⟨unretried, ?_⟩
  rintro mutated other ⟨⟩
  change (before.write op answer).mutated = true at mutated
  cases transient : Queue.isTransientFailure row (recorded text) with
  | true => exact .inl (by simp [see, suspects, mutated, exception, transient])
  | false => exact .inr rfl

/-- An exception that leaves the executor is permanent. -/
theorem raises_executor : Raises row .executor (Permanent row) := by
  rintro before op answer text exception calm unretried
  refine ⟨unretried, ?_⟩
  rintro mutated other ⟨⟩
  simpa [harmless, mutated, exception] using calm

theorem raises_caught {handler : Handler} : Raises row handler Caught :=
  fun _ _ _ _ _ _ unretried => unretried

variable {handler : Handler} {fail : Raised → Attempt → Prop}

/-- What relays under a handler keeps what ordinary calls keep. -/
theorem triple_relays {invariant : Attempt → Prop} {program : Work α}
    (raises : Raises row handler fail) (relays : program.Relays handler)
    (unretried : ∀ attempt : Attempt, invariant attempt → attempt.Unretried)
    (kept : ∀ (attempt : Attempt) (call : Call) answer, call.op.ordinary = true →
      invariant attempt → invariant (attempt.see row call answer)) :
    (calm row).Triple invariant program (fun _ => invariant) fail := by
  refine .of_relays relays ?_ ?_
  · rintro before call answer after ⟨_, ordinary⟩ holds ⟨⟨_, rfl⟩, _⟩
    exact kept before call answer ordinary holds
  · rintro before ⟨_, op⟩ answer after error ⟨rfl, ordinary⟩ holds ⟨⟨_, rfl⟩, harmless⟩
      ⟨text, exception, rfl⟩
    exact raises before op answer text exception harmless
      (unretried_see (decides_of_ordinary ordinary) (unretried before holds))

theorem triple_fine {program : Work α} (raises : Raises row handler fail)
    (relays : program.Relays handler) :
    (calm row).Triple (Fine row) program (fun _ => Fine row) fail :=
  triple_relays raises relays (fun _ => And.left) fun _ _ _ => fine_see

theorem triple_unretried {program : Work α} (raises : Raises row handler fail)
    (relays : program.Relays handler) :
    (calm row).Triple Unretried program (fun _ => Unretried) fail :=
  triple_relays raises relays (fun _ => id) fun _ _ _ ordinary =>
    unretried_see (decides_of_ordinary ordinary)

/-- A call was answered, and its exception is not raised yet. -/
def Answered (fail : Raised → Attempt → Prop) (holds : Attempt → Prop) (op : Op)
    (answer : op.Answer) (attempt : Attempt) : Prop :=
  holds attempt ∧ ∀ text, op.exception answer = some text → fail (.error text) attempt

theorem triple_ask {pre post : Attempt → Prop} {op : Op} (raises : Raises row handler fail)
    (unretried : ∀ attempt : Attempt, post attempt → attempt.Unretried)
    (sees : ∀ (attempt : Attempt) answer, pre attempt →
      post (attempt.see row ⟨handler, op⟩ answer)) :
    (calm row).Triple pre (Lane.ask handler op) (Answered fail post op) fail := by
  refine .ask ?_
  rintro before answer after holds ⟨⟨_, rfl⟩, calm⟩
  have seen := sees before answer holds
  exact ⟨seen, fun text exception =>
    raises before op answer text exception calm (unretried _ seen)⟩

/-- The exception is raised. -/
theorem triple_raise {holds : Attempt → Prop} {op : Op} {answer : op.Answer}
    {value : Except String α}
    (exception : ∀ text, value = .error text → op.exception answer = some text) :
    (calm row).Triple (Answered fail holds op answer) (Lane.raising value)
      (fun _ => holds) fail := by
  cases value with
  | ok value => exact .pure fun _ => And.left
  | error text => exact .throw fun _ answered => answered.2 text (exception text rfl)

/-! ## Exits -/

variable {request : ImportRequest} {result : VerificationResult} {reason : String}

/-- The projection fails with a text that is permanent. -/
theorem triple_markImportFailed (raises : Raises row handler fail)
    (permanent : Queue.isTransientFailure row reason = false) :
    (calm row).Triple Unretried (markImportFailed handler reason) (fun _ => Fine row) fail := by
  refine (triple_ask raises (fun _ => And.left) fun attempt answer unretried => ?_).bind
    fun answer => triple_raise (by rintro text rfl; rfl)
  exact ⟨unretried, fun _ => ⟨reason, rfl, permanent⟩⟩

theorem triple_restoreReleaseSwitches {invariant : Attempt → Prop} (audits : List Int)
    (kept : ∀ (attempt : Attempt) albumId answer, invariant attempt →
      invariant (attempt.see row ⟨handler, .restoreAlbum albumId⟩ answer)) :
    (calm row).Triple invariant (restoreReleaseSwitches handler audits)
      (fun _ => invariant) fail := by
  refine .forM fun albumId _ => ?_
  split
  · refine .bind (.ask ?_) fun _ => .pure fun _ => id
    rintro before answer after holds ⟨⟨_, rfl⟩, _⟩
    exact kept before albumId answer holds
  · exact .pure fun _ => id

/-- An import that Lidarr did not take leaves the projection fine. -/
theorem triple_closeFailed (raises : Raises row handler fail)
    (permanent : Queue.isTransientFailure row reason = false) (audits : List Int) :
    (calm row).Triple Unretried (closeFailed handler request result audits reason)
      (fun _ => Fine row) fail :=
  (triple_unretried raises (.ask rfl)).bind fun _ => (triple_unretried raises (.ask rfl)).bind
    fun _ => (triple_unretried raises (relays_maybeWriteV2Sidecar false)).bind fun _ =>
      (triple_markImportFailed raises permanent).bind fun _ =>
        (triple_restoreReleaseSwitches audits fun _ _ _ => id).bind fun _ =>
          triple_fine raises relays_cleanupLidarrQueue

theorem triple_failImport (raises : Raises row handler fail)
    (permanent : Queue.isTransientFailure row reason = false) (audits : List Int) :
    (calm row).Triple Unretried (failImport handler request result audits reason)
      (fun _ => Fine row) fail :=
  (triple_unretried raises (relays_recordJobTiming _)).bind fun _ =>
    triple_closeFailed raises permanent audits

end Attempt

end Mintarr.Lane
