import Mintarr.Import.OnlyGate
import Mintarr.Lane.Cancels
import Mintarr.Lane.Switches

/-!
# What the backend lane says of a job

At the end of a backend job its state is read off the projection of the queue, and is
`imported` where the projection neither failed nor waits for a review.  Where the state is
`imported`, the record of the job is closed as imported too.  Whether an import stands
behind that depends on what the import has left in the projection at each of its ends.
-/

namespace Mintarr.Lane

open Lib Policy Import

variable {α β : Type}

/-- What the backend lane does with a job. -/
inductive LaneStep where
  /-- The worker executes it. -/
  | job (row : Queue.Job) (grab : GrabRequest)
  /-- The records of imported jobs are closed. -/
  | audit

/-- The program. -/
def LaneStep.program : LaneStep → Work Unit
  | .job row grab => executeJob row (executeBackendCompletedGrabJob grab)
  | .audit => reconcileImportedBackendRecordAudits

/-- What has been said of a backend job, and what stands behind it. -/
structure BackendReport where
  /-- `_jobs[jid]`. -/
  entry : JobEntry := {}
  /-- The last outcome of the pipeline is an import. -/
  imported : Bool := false
  /-- The fallback on the job title has placed its files. -/
  placed : Bool := false
  /-- `backend_jobs.state` is `imported`. -/
  reported : Bool := false
  /-- It became so by an import. -/
  founded : Bool := false
  /-- The job or its record was said to be imported without an import. -/
  unfounded : Bool := false
  deriving DecidableEq, Repr

namespace BackendReport

/-- The backend job gets a state. -/
def mirror (report : BackendReport) (state : Backend.BackendState) : BackendReport :=
  { report with
    reported := state = .imported
    founded := state = .imported && report.imported
    unfounded := report.unfounded || (state = .imported && !report.imported) }

/-- The record of the job gets an outcome. -/
def record (report : BackendReport) (outcome : ImportOutcome) : BackendReport :=
  { report with
    unfounded := report.unfounded ||
      (importedOutcome outcome && !(report.imported || report.founded)) }

/-- What a call changes. -/
def write (report : BackendReport) : (op : Op) → op.Answer → BackendReport
  | .saveJobs update, _ => { report with entry := report.entry.update update }
  | .markDownloadCancelled, _ =>
      let update := { status := some .failed, error := some "cancelled by user" }
      { report with entry := report.entry.update update }
  | .setV2ImportOutcome outcome, _ => { report with imported := importedOutcome outcome }
  | _, _ => report

/-- What the fallback on the job title changes besides. -/
def place (report : BackendReport) : (op : Op) → op.Answer → BackendReport
  | .searchArtists, _ => { report with placed := false }
  | .hideFromLidarr, .ok _ => { report with placed := true }
  | op, answer => report.write op answer

/-- What the mirror changes besides. -/
def reflect (report : BackendReport) : (op : Op) → op.Answer → BackendReport
  | .updateBackendJob state, stored => if stored then report.mirror state else report
  | .writeSidecar _ sidecar, _ | .upsertFromSidecar sidecar, _ => report.record sidecar.outcome
  | .updateRecordImportOutcome, _ => report.record .manualImported
  | op, answer => report.write op answer

/-- What a call and its answer change. -/
def see (report : BackendReport) (call : Call) (answer : call.op.Answer) : BackendReport :=
  match call.handler with
  | .titleRescue => report.place call.op answer
  | .mirror => report.reflect call.op answer
  | _ => report.write call.op answer

/-- Only imported jobs are listed as such. -/
def possible (report : BackendReport) : (op : Op) → op.Answer → Prop
  | .importedWithPendingRecord, listed => listed = true → report.reported = true
  | _, _ => True

/-- The lane, call by call. -/
def surroundings : Surroundings Call (fun call => call.op.Answer) BackendReport where
  answers before call answer after :=
    before.possible call.op answer ∧ after = before.see call answer

/-! ## Where the projection is told -/

/-- Lidarr's API key is there, and the ManualImport command is not pending any more. -/
def concludes : (op : Op) → op.Answer → Bool
  | .lidarrKey, found => found
  | .commandPending, .ok pending => !pending
  | _, _ => true

/-- The projection is read as this lane has written it. -/
def rereads (report : BackendReport) : (op : Op) → op.Answer → Bool
  | .readJob, entry => entry = report.entry
  | _, _ => true

/-- The import comes to an end that the projection tells, and the projection is read at the end
of the job. -/
def tells (report : BackendReport) (call : Call) (answer : call.op.Answer) : Bool :=
  match call.handler with
  | .importToLidarr => concludes call.op answer
  | .titleRescue => !(report.placed && Ledger.timed call.op answer)
  | .executor => report.rereads call.op answer
  | _ => true

/-- The runs whose steps do. -/
abbrev telling : Surroundings Call (fun call => call.op.Answer) BackendReport :=
  surroundings.restrict fun before call answer _ => before.tells call answer

/-! ## What holds of a report -/

/-- An import stands behind all that was said. -/
def Founded (report : BackendReport) : Prop := report.unfounded = false

/-- And behind the state of the backend job. -/
def Sound (report : BackendReport) : Prop :=
  report.Founded ∧ (report.reported = true → report.founded = true)

/-- The projection does not pass for an import. -/
def Halted (entry : JobEntry) : Prop :=
  entry.status = some .failed ∨ entry.status = some .reviewRequired

/-- The last outcome is an import. -/
def Imported (report : BackendReport) : Prop := report.Sound ∧ report.imported = true

/-- The end of an import: it has its outcome, or the projection tells that there is none. -/
def Told (report : BackendReport) : Prop :=
  report.Sound ∧ (report.imported = true ∨ Halted report.entry)

variable {report : BackendReport} {handler : Handler} {fail : Raised → BackendReport → Prop}
  {request : ImportRequest} {result : VerificationResult}

theorem Imported.told (imported : report.Imported) : report.Told := ⟨imported.1, .inl imported.2⟩

theorem Told.sound (told : report.Told) : report.Sound := told.1

/-- Where the import is told, `imported` is read off the projection only after an import. -/
theorem Told.imported_of_outcome (told : report.Told)
    (outcome : Backend.backendIngestOutcome (some report.entry.projection) = .imported) :
    report.imported = true := by
  cases told.2 with
  | inl imported => exact imported
  | inr halted =>
      exfalso
      rw [Backend.backendIngestOutcome] at outcome
      cases halted with
      | inl failed =>
          cases hold : report.entry.lidarrHold <;>
            simp [JobEntry.projection, failed, JobStatus.text, hold] at outcome
      | inr review => simp [JobEntry.projection, review, JobStatus.text] at outcome

/-! ## Calls -/

/-- Under the handler of the mirror the call says something of the backend job. -/
def reflects : Op → Bool
  | .updateBackendJob _ | .writeSidecar .. | .upsertFromSidecar _
  | .updateRecordImportOutcome => true
  | _ => false

/-- The call says nothing of the backend job. -/
def Quiet (call : Call) : Prop := call.handler ≠ .mirror ∨ reflects call.op = false

/-- Nor does it change the projection or the outcome. -/
def Silent (call : Call) : Prop :=
  call.handler ≠ .mirror ∧
    match call.op with
    | .saveJobs _ | .markDownloadCancelled | .setV2ImportOutcome _ => False
    | _ => True

theorem sound_write {op : Op} {answer : op.Answer} (sound : report.Sound) :
    (report.write op answer).Sound := by
  cases op <;> exact sound

theorem sound_see {call : Call} {answer : call.op.Answer} (quiet : Quiet call)
    (sound : report.Sound) : (report.see call answer).Sound := by
  cases call with
  | mk handler op =>
      cases handler with
      | titleRescue =>
          cases op with
          | searchArtists => exact sound
          | hideFromLidarr => cases answer <;> exact sound
          | _ => exact sound_write sound
      | mirror =>
          have still : reflects op = false := quiet.resolve_left fun other => other rfl
          cases op with
          | updateBackendJob state => simp [reflects] at still
          | writeSidecar place record => simp [reflects] at still
          | upsertFromSidecar record => simp [reflects] at still
          | updateRecordImportOutcome => simp [reflects] at still
          | _ => exact sound_write sound
      | _ => exact sound_write sound

/-- A silent call may say no more than that the files are in place. -/
theorem exists_see_of_silent {call : Call} {answer : call.op.Answer} (silent : Silent call) :
    ∃ placed, report.see call answer = { report with placed } := by
  cases call with
  | mk handler op =>
      have same : report.write op answer = report := by
        cases op with
        | saveJobs update => exact silent.2.elim
        | markDownloadCancelled => exact silent.2.elim
        | setV2ImportOutcome outcome => exact silent.2.elim
        | _ => rfl
      cases handler with
      | titleRescue =>
          cases op with
          | searchArtists => exact ⟨false, rfl⟩
          | hideFromLidarr =>
              cases answer with
              | ok value => exact ⟨true, rfl⟩
              | error text => exact ⟨report.placed, rfl⟩
          | _ => exact ⟨report.placed, same⟩
      | mirror => exact absurd rfl silent.1
      | _ => exact ⟨report.placed, same⟩

theorem quiet_of_silent {call : Call} (silent : Silent call) : Quiet call := .inl silent.1

/-! ## Programs -/

/-- The program says nothing of the backend job. -/
abbrev Keeps (program : Work α) : Prop := program.Within Quiet fun _ => True

/-- The program leaves the projection and the outcome alone. -/
abbrev Leaves (program : Work α) : Prop := program.Within Silent fun _ => True

theorem triple_sound {program : Work α} (keeps : Keeps program) :
    telling.Triple Sound program (fun _ => Sound) fun _ => Sound := by
  apply (Surroundings.Triple.of_within keeps ?_).imp (fun _ => id) (fun _ _ => id)
    fun _ _ => And.right
  intro before call answer after quiet sound step
  rw [step.1.2]
  exact sound_see quiet sound

/-- A program that leaves all else alone. -/
theorem triple_leaves {invariant : BackendReport → Prop} {program : Work α}
    (leaves : Leaves program)
    (blind : ∀ report placed, invariant report → invariant { report with placed }) :
    telling.Triple invariant program (fun _ => invariant) fun _ => invariant := by
  apply (Surroundings.Triple.of_within leaves ?_).imp (fun _ => id) (fun _ _ => id)
    fun _ _ => And.right
  intro before call answer after silent holds step
  obtain ⟨placed, seen⟩ : ∃ placed, before.see call answer = { before with placed } :=
    exists_see_of_silent silent
  rw [step.1.2, seen]
  exact blind before placed holds

theorem keeps_of_leaves {program : Work α} (leaves : Leaves program) : Keeps program :=
  leaves.imp (fun _ => quiet_of_silent) fun _ => id

theorem keeps_of_prepares {program : Work α} (prepares : program.Prepares) : Keeps program := by
  apply prepares.imp _ fun _ => id
  intro call prepares
  right
  cases op : call.op <;> first | rfl | simp [op, Op.prepares] at prepares

theorem keeps_of_relays {program : Work α} (job : handler ≠ .mirror)
    (relays : program.Relays handler) : Keeps program := by
  apply relays.within.imp _ fun _ => id
  intro call ordinary
  left
  rw [ordinary.1]
  exact job

theorem leaves_raising (answer : Except String α) : Leaves (raising answer) := by
  cases answer with
  | ok value => exact .pure value
  | error text => exact .throw trivial

/-- A call whose exception is raised. -/
theorem leaves_asking {op : Op} {value : op.Answer → Except String α}
    (silent : Silent ⟨handler, op⟩) :
    Leaves (ask handler op >>= fun answer => raising (value answer)) :=
  .bind (.ask silent) fun _ => leaves_raising _

theorem leaves_writeVerificationSidecar (job : handler ≠ .mirror) (archived : Bool) :
    Leaves (writeVerificationSidecar handler result archived) := by
  refine .bind (.ask ⟨job, trivial⟩) fun existing => .bind (.ask ⟨job, trivial⟩) fun answer =>
    .bind (leaves_raising answer) fun _ => ?_
  cases existing with
  | none => exact .pure _
  | some existing =>
      dsimp only
      generalize (if archived then SidecarPlace.blockedDecisions else .outputDir) = place
      split
      · exact .bind (.ask ⟨job, trivial⟩) fun _ => .pure _
      · exact .pure _

theorem leaves_maybeWriteV2Sidecar (job : handler ≠ .mirror) (archived : Bool) :
    Leaves (maybeWriteV2Sidecar handler request result archived) := by
  rw [maybeWriteV2Sidecar]
  split
  · exact leaves_writeVerificationSidecar job archived
  · exact .pure _

theorem leaves_restoreReleaseSwitches (job : handler ≠ .mirror) (audits : List Int) :
    Leaves (restoreReleaseSwitches handler audits) := by
  apply Program.Within.forM
  intro albumId
  split
  · exact .bind (.ask ⟨job, trivial⟩) fun _ => .pure _
  · exact .pure _

theorem leaves_cleanupLidarrQueue (job : handler ≠ .mirror) :
    Leaves (cleanupLidarrQueue handler) :=
  .bind (.ask ⟨job, trivial⟩) fun _ => leaves_asking ⟨job, trivial⟩

/-! ## Exits -/

theorem triple_told {program : Work α} (leaves : Leaves program) :
    telling.Triple Told program (fun _ => Told) fun _ => Told :=
  triple_leaves leaves fun _ _ => id

theorem triple_imported {program : Work α} (leaves : Leaves program) :
    telling.Triple Imported program (fun _ => Imported) fun _ => Imported :=
  triple_leaves leaves fun _ _ => id

/-- An exception of the import is caught outside. -/
theorem triple_onward {pre : BackendReport → Prop} {program : Work α}
    {post : α → BackendReport → Prop}
    (triple : telling.Triple pre program post fun _ => Told) :
    telling.Triple pre program post fun _ => Sound :=
  triple.imp (fun _ => id) (fun _ _ => id) fun _ _ => Told.sound

theorem see_saveJobs (update : JobUpdate) (answer : (Op.saveJobs update).Answer) :
    report.see ⟨handler, .saveJobs update⟩ answer =
      { report with entry := report.entry.update update } := by
  cases handler <;> rfl

/-- Once the projection has failed or waits for a review, it tells that nothing was imported, even
where it could not be saved. -/
theorem triple_saveJobs {update : JobUpdate}
    (halts : update.status = some .failed ∨ update.status = some .reviewRequired) :
    telling.Triple Sound (saveJobs handler update) (fun _ => Told) fun _ => Told := by
  have asked : telling.Triple Sound (ask handler (.saveJobs update)) (fun _ => Told)
      fun _ => Told := by
    apply Surroundings.Triple.ask
    intro before answer after sound step
    rw [step.1.2, see_saveJobs]
    refine ⟨sound, .inr ?_⟩
    cases halts with
    | inl failed => simp [Halted, JobEntry.update, failed]
    | inr review => simp [Halted, JobEntry.update, review]
  exact asked.bind fun answer => triple_told (leaves_raising answer)

theorem triple_markImportFailed (reason : String) :
    telling.Triple Sound (markImportFailed handler reason) (fun _ => Told) fun _ => Told :=
  triple_saveJobs (.inl rfl)

theorem triple_closeFailed (job : handler ≠ .mirror) {audits : List Int} (reason : String) :
    telling.Triple Sound (closeFailed handler request result audits reason) (fun _ => Told)
      fun _ => Sound :=
  (triple_sound (.ask (.inl job))).bind fun _ => (triple_sound (.ask (.inl job))).bind fun _ =>
    (triple_sound (keeps_of_leaves (leaves_maybeWriteV2Sidecar job false))).bind fun _ =>
      (triple_onward (triple_markImportFailed reason)).bind fun _ =>
        (triple_onward (triple_told (leaves_restoreReleaseSwitches job audits))).bind fun _ =>
          triple_onward (triple_told (leaves_cleanupLidarrQueue job))

theorem triple_failImport (job : handler ≠ .mirror) {audits : List Int} (reason : String) :
    telling.Triple Sound (failImport handler request result audits reason) (fun _ => Told)
      fun _ => Sound :=
  (triple_sound (keeps_of_prepares (prepares_recordJobTiming _))).bind fun _ =>
    triple_closeFailed job reason

/-- The outcome of an import that has changed the library. -/
theorem triple_setV2ImportOutcome (job : handler ≠ .mirror) {outcome : ImportOutcome}
    (imported : importedOutcome outcome = true) :
    telling.Triple Sound (ask handler (.setV2ImportOutcome outcome)) (fun _ => Imported)
      fail := by
  apply Surroundings.Triple.ask
  intro before answer after sound step
  rw [step.1.2]
  refine ⟨sound_see (.inl job) sound, ?_⟩
  cases handler <;> exact imported

theorem triple_completeImport (job : handler ≠ .mirror) {outcome : ImportOutcome}
    (imported : importedOutcome outcome = true) :
    telling.Triple Sound (completeImport handler request result outcome) (fun _ => Told)
      fun _ => Sound := by
  have kept {program : Work Unit} (leaves : Leaves program) :
      telling.Triple Imported program (fun _ => Imported) fun _ => Sound :=
    (triple_imported leaves).imp (fun _ => id) (fun _ _ => id) fun _ _ => And.left
  have completed : telling.Triple Imported (markImportCompleted handler) (fun _ => Told)
      fun _ => Sound := by
    have asked {update : JobUpdate} : telling.Triple Imported (ask handler (.saveJobs update))
        (fun _ => Imported) fun _ => Sound := by
      apply Surroundings.Triple.ask
      intro before answer after holds step
      rw [step.1.2, see_saveJobs]
      exact holds
    exact asked.bind fun answer => (kept (leaves_raising answer)).imp (fun _ => id)
      (fun _ _ => Imported.told) fun _ _ => id
  refine (triple_sound (keeps_of_prepares (prepares_recordJobTiming _))).bind fun _ =>
    (triple_setV2ImportOutcome job imported).bind fun _ => ?_
  split
  · exact (kept (leaves_writeVerificationSidecar job false)).bind fun _ =>
      (kept (.ask ⟨job, trivial⟩)).bind fun _ => completed
  · exact completed

/-! ## The import -/

variable {audits : List Int}

theorem triple_asked {op : Op} (job : handler ≠ .mirror) :
    telling.Triple Sound (ask handler op) (fun _ => Sound) fun _ => Sound :=
  triple_sound (.ask (.inl job))

theorem triple_raise (answer : Except String α) :
    telling.Triple Sound (raising answer) (fun _ => Sound) fun _ => Sound :=
  triple_sound (keeps_of_leaves (leaves_raising answer))

/-- A step that prepares. -/
theorem triple_step {program : Work α} (prepares : program.Prepares) :
    telling.Triple Sound program (fun _ => Sound) fun _ => Sound :=
  triple_sound (keeps_of_prepares prepares)

/-- The files of the fallback are in place. -/
def Placed (report : BackendReport) : Prop := report.Sound ∧ report.placed = true

theorem triple_hideFromLidarr :
    telling.Triple Sound (ask .titleRescue .hideFromLidarr)
      (fun answer report => (answer = .ok () → report.Placed) ∧
        (answer ≠ .ok () → report.Sound)) fail := by
  have job : Handler.titleRescue ≠ .mirror := by decide
  apply Surroundings.Triple.ask
  intro before answer after sound step
  rw [step.1.2]
  constructor
  · rintro rfl
    exact ⟨sound_see (.inl job) sound, rfl⟩
  · intro _
    exact sound_see (.inl job) sound

/-- With the files in place, no timing is recorded. -/
theorem triple_recordJobTiming (stage : String) :
    telling.Triple Placed (recordJobTiming .titleRescue stage) (fun _ => Told)
      fun _ => Sound := by
  have asked : telling.Triple Placed (ask .titleRescue (.recordJobTiming stage))
      (fun answer report => report.Sound ∧ answer ≠ .ok ()) fun _ => Sound := by
    have job : Handler.titleRescue ≠ .mirror := by decide
    apply Surroundings.Triple.ask
    intro before answer after holds step
    rw [step.1.2]
    refine ⟨sound_see (.inl job) holds.1, ?_⟩
    rintro rfl
    have untimed := step.2
    simp [tells, holds.2, Ledger.timed] at untimed
  apply asked.bind
  intro answer
  cases answer with
  | ok _ => exact fun _ holds => absurd rfl holds.2
  | error text => exact .throw fun _ => And.left

theorem triple_titleRescue :
    telling.Triple Sound (titleRescue request result audits)
      (fun ends report => (ends = true → report.Told) ∧ (ends = false → report.Sound))
      fun _ => Sound := by
  have job : Handler.titleRescue ≠ .mirror := by decide
  have rescued (files : List ImportFile) : telling.Triple Sound
      (rescuePlaceAndRescan true .titleRescue files)
      (fun rescued report => (rescued = true → report.Placed) ∧
        (rescued = false → report.Sound)) fun _ => Sound :=
    (triple_step (prepares_raiseIfJobCancelled true)).bind fun _ =>
      triple_placeAndRescan_of (fun _ => triple_asked job) triple_raise
        triple_hideFromLidarr files
  exact triple_titleRescue_of (fun _ => triple_asked job) triple_raise rescued
    (triple_recordJobTiming _) (triple_closeFailed job _)

theorem triple_zeroCandidates :
    telling.Triple Sound (zeroCandidates request result audits) (fun _ => Told)
      fun _ => Sound := by
  have job : Handler.importToLidarr ≠ .mirror := by decide
  have handled : telling.Triple Sound
      (tryCatch (titleRescue request result audits) fun _ => pure false)
      (fun ends report => (ends = true → report.Told) ∧ (ends = false → report.Sound))
      fun _ => Sound :=
    triple_titleRescue.tryCatch fun _ => .pure fun _ sound =>
      ⟨fun impossible => absurd impossible Bool.false_ne_true, fun _ => sound⟩
  apply handled.bind
  intro ends
  cases ends with
  | true => exact .pure fun _ holds => holds.1 rfl
  | false =>
      exact (triple_failImport job _).imp (fun _ holds => holds.2 rfl) (fun _ _ => id)
        fun _ _ => id

theorem triple_rescueAfterManualImport (files : List ImportFile) :
    telling.Triple Sound (rescueAfterManualImport request result audits files) (fun _ => Told)
      fun _ => Sound := by
  have job : Handler.rescue ≠ .mirror := by decide
  have rescued : telling.Triple Sound (rescuePlaceAndRescan true .rescue files)
      (fun _ => Sound) fun _ => Sound :=
    (triple_step (prepares_raiseIfJobCancelled true)).bind fun _ =>
      triple_sound (keeps_of_relays job (relays_placeAndRescan files))
  have body : telling.Triple Sound
      (do
        if ← rescuePlaceAndRescan true .rescue files then
          completeImport .rescue request result .rescued
        else
          failImport .rescue request result audits "manualimport and rescue failed")
      (fun _ => Told) fun _ => Sound := by
    apply rescued.bind
    intro rescued
    cases rescued with
    | true => exact triple_completeImport job rfl
    | false => exact triple_failImport job _
  exact body.tryCatch fun _ => triple_failImport (by decide) _

/-- The command is not pending. -/
theorem triple_commandPending :
    telling.Triple Sound (ask .importToLidarr .commandPending)
      (fun answer report => report.Sound ∧ answer ≠ .ok true) fail := by
  apply Surroundings.Triple.ask
  intro before answer after sound step
  rw [step.1.2]
  refine ⟨sound_see (.inr rfl) sound, ?_⟩
  rintro rfl
  have concluded := step.2
  simp [tells, concludes] at concluded

theorem triple_postManualImport (files : List ImportFile) :
    telling.Triple Sound (postManualImport request result audits files) (fun _ => Told)
      fun _ => Sound := by
  have job : Handler.importToLidarr ≠ .mirror := by decide
  refine (triple_asked job).bind fun _ =>
    (triple_step (prepares_raiseIfJobCancelled true)).bind fun _ =>
      (triple_asked job).bind fun posted => (triple_raise posted).bind fun _ =>
        (triple_step (prepares_setWorkerProgress _)).bind fun _ =>
          (triple_asked job).bind fun counted => (triple_raise counted).bind fun imported => ?_
  split
  · exact triple_completeImport job rfl
  · apply triple_commandPending.bind
    intro answer
    cases answer with
    | error text => exact .throw fun _ => And.left
    | ok pending =>
        cases pending with
        | true => exact fun _ holds => absurd rfl holds.2
        | false =>
            exact (triple_rescueAfterManualImport files).imp (fun _ => And.left)
              (fun _ _ => id) fun _ _ => id

theorem triple_importCandidates (target : Queue.Scalar) (items : List ManualImportItem) :
    telling.Triple Sound (importCandidates request target result audits items) (fun _ => Told)
      fun _ => Sound := by
  have job : Handler.importToLidarr ≠ .mirror := by decide
  apply (triple_sound (keeps_of_relays job
    (Ledger.relays_manualimportTargetGuardFailure target items))).bind
  intro reason
  cases reason with
  | some reason => exact triple_failImport job reason
  | none =>
      apply (triple_raise _).bind
      intro files
      split
      · exact triple_failImport job _
      · exact triple_postManualImport files

theorem triple_manualImport (target : Queue.Scalar) :
    telling.Triple Sound (manualImport request target result audits) (fun _ => Told)
      fun _ => Sound := by
  have job : Handler.importToLidarr ≠ .mirror := by decide
  refine (triple_step (prepares_setWorkerProgress _)).bind fun _ =>
    (triple_asked job).bind fun found => (triple_raise found).bind fun reply => ?_
  dsimp only
  split
  · exact triple_failImport job _
  · apply (triple_raise _).bind
    intro items
    split
    · exact triple_zeroCandidates
    · exact triple_importCandidates target items

theorem triple_switchAndImport (target : Queue.Scalar) (items : List ManualImportItem) :
    telling.Triple Sound (switchAndImport request target items result) (fun _ => Told)
      fun _ => Sound := by
  have switches : Keeps (maybeAutoReleaseSwitch request items result) := by
    apply (within_maybeAutoReleaseSwitch items).imp _ fun _ _ => trivial
    intro call switching
    right
    cases op : call.op <;> first | rfl | simp [op, Op.switching] at switching
  apply (triple_sound switches).bind
  intro audits
  split
  · exact (triple_asked (by decide)).bind fun found => (triple_raise found).bind fun _ =>
      triple_manualImport target
  · exact triple_manualImport target

/-! ## The gates -/

theorem keeps_performEvent (event : Event) : Keeps (performEvent result event) := by
  have job : Handler.importToLidarr ≠ .mirror := by decide
  cases event with
  | decisionLogged record => exact .ask (.inl job)
  | sidecarWritten archived =>
      exact keeps_of_leaves (leaves_writeVerificationSidecar job archived)
  | outputDeleted => exact .ask (.inl job)
  | jobFailed error => exact keeps_of_prepares (prepares_saveJobs _)
  | blocklisted => exact .bind (.ask (.inl job)) fun _ => .pure _
  | queueCleaned => exact keeps_of_leaves (leaves_cleanupLidarrQueue job)
  | warned warning => exact keeps_of_prepares (prepares_saveJobs _)
  | _ => exact .pure _

/-- The event comes after the failure of a job. -/
def trails : Event → Bool
  | .blocklisted | .queueCleaned => true
  | _ => false

theorem leaves_performEvent {event : Event} (trailing : trails event = true) :
    Leaves (performEvent result event) := by
  have job : Handler.importToLidarr ≠ .mirror := by decide
  cases event with
  | blocklisted => exact .bind (.ask ⟨job, trivial⟩) fun _ => .pure _
  | queueCleaned => exact leaves_cleanupLidarrQueue job
  | _ => simp [trails] at trailing

/-- The events of a refusal: the job fails, and nothing after that says otherwise. -/
theorem triple_refused {before after : List Event} {error : String}
    (trailing : ∀ event ∈ after, trails event = true) :
    telling.Triple Sound ((before ++ .jobFailed error :: after).forM (performEvent result))
      (fun _ => Told) fun _ => Sound := by
  induction before with
  | nil =>
      have failed : telling.Triple Sound (performEvent result (.jobFailed error))
          (fun _ => Told) fun _ => Sound := triple_onward (triple_saveJobs (.inl rfl))
      have rest : Leaves (after.forM (performEvent result)) :=
        .forM_of_mem fun event member => leaves_performEvent (trailing event member)
      exact failed.bind fun _ => triple_onward (triple_told rest)
  | cons event before ih => exact (triple_sound (keeps_performEvent event)).bind fun _ => ih

/-- Where the gates stop a candidate, they refuse it or hold it for review. -/
theorem refuses_of_gates {context : ImportContext} {events : List Event}
    (stopped : context.gates = .stopped events result) :
    result.importOutcome ≠ .skipped ∨ ∃ before error after,
      events = before ++ .jobFailed error :: after ∧ ∀ event ∈ after, trails event = true := by
  have refused {first : VerificationResult} {error : String}
      (refuses : context.refuse first error = .stopped events result) :
      ∃ before error after, events = before ++ .jobFailed error :: after ∧
        ∀ event ∈ after, trails event = true := by
    cases refuses
    let skipped := { first with importOutcome := .skipped }
    refine ⟨[.decisionLogged (decisionRecord context.v2Enabled skipped)] ++
      context.sidecar true ++ (if context.outputContained then [.outputDeleted] else []), error,
      context.blocklist ++ [.queueCleaned], by simp [skipped], ?_⟩
    rw [ImportContext.blocklist]
    split <;> simp [trails]
  cases ImportContext.refused_or_held stopped with
  | inl refuses =>
      obtain ⟨first, error, refuses⟩ := refuses
      exact .inr (refused refuses)
  | inr held =>
      left
      rw [held.1]
      decide

theorem triple_createReviewRequired :
    telling.Triple Sound (createReviewRequired result) (fun _ => Told) fun _ => Sound := by
  have job : Handler.importToLidarr ≠ .mirror := by decide
  have held : telling.Triple Sound
      (saveJobs .importToLidarr { status := some .reviewRequired, lidarrHold := some true })
      (fun _ => Told) fun _ => Sound := triple_onward (triple_saveJobs (.inr rfl))
  refine (triple_sound (keeps_of_leaves (leaves_writeVerificationSidecar job false))).bind
    fun _ => (triple_asked job).bind fun answer => (triple_raise answer).bind fun record => ?_
  dsimp only
  split
  · exact (triple_asked job).bind fun _ => (triple_asked job).bind fun written =>
      (triple_raise written).bind fun _ => held
  · exact held

/-- A candidate that the gates stop has failed, or waits for a review. -/
theorem triple_passGates (context : ImportContext) :
    telling.Triple Sound (passGates context)
      (fun passed report => passed.elim report.Told fun _ => report.Sound) fun _ => Sound := by
  have job : Handler.importToLidarr ≠ .mirror := by decide
  cases gates : context.gates with
  | raised =>
      rw [passGates, gates]
      exact (triple_asked job).bind fun text => .throw fun _ => id
  | stopped events result =>
      rw [passGates, gates]
      dsimp only
      split
      · next skipped =>
          obtain different | ⟨before, error, after, rfl, trailing⟩ := refuses_of_gates gates
          · contradiction
          · exact (triple_refused trailing).bind fun _ => .pure fun _ => id
      · exact (triple_asked job).bind fun _ =>
          triple_createReviewRequired.bind fun _ => .pure fun _ => id
  | proceeds events result =>
      rw [passGates, gates]
      have steps : Keeps (events.forM (performEvent result)) :=
        .forM fun event => keeps_performEvent event
      exact (triple_sound steps).bind fun _ => .pure fun _ => id

/-- The key is there. -/
theorem triple_lidarrKey :
    telling.Triple Sound (ask .importToLidarr .lidarrKey)
      (fun key report => report.Sound ∧ key = true) fail := by
  apply Surroundings.Triple.ask
  intro before key after sound step
  rw [step.1.2]
  exact ⟨sound_see (.inr rfl) sound, step.2⟩

theorem triple_triggerLidarrImport :
    telling.Triple Sound (triggerLidarrImport request) (fun _ => Told) fun _ => Sound := by
  have job : Handler.importToLidarr ≠ .mirror := by decide
  refine (triple_step (prepares_raiseIfJobCancelled true)).bind fun _ =>
    triple_lidarrKey.bind fun key => ?_
  cases key with
  | false => exact fun _ holds => absurd holds.2 Bool.false_ne_true
  | true =>
      refine Surroundings.Triple.imp ?_ (fun _ => And.left) (fun _ _ => id) fun _ _ => id
      refine (triple_sound (keeps_of_relays job relays_resolveTarget)).bind fun target =>
        (triple_sound (keeps_of_relays job relays_evaluate)).bind fun context =>
          (triple_passGates context).bind fun passed => ?_
      cases passed with
      | none => exact .pure fun _ => id
      | some result => exact triple_switchAndImport target context.items

/-! ## The executors -/

theorem leaves_setWorkerProgress (job : handler ≠ .mirror) (stage : String) :
    Leaves (setWorkerProgress handler stage) := leaves_asking ⟨job, trivial⟩

/-- What the import raises fails the job. -/
theorem triple_importToLidarr :
    telling.Triple Sound (importToLidarr request) (fun _ => Told) fun _ => Sound := by
  refine (triple_step (prepares_raiseIfJobCancelled true)).bind fun _ =>
    Surroundings.Triple.tryCatch (triple_triggerLidarrImport.bind fun _ =>
      triple_onward (triple_told (leaves_setWorkerProgress (by decide) _))) ?_
  intro error
  cases error with
  | cancelled => exact .throw fun _ => id
  | error text => exact triple_onward (triple_markImportFailed _)

theorem leaves_sidecarTerminalResult : Leaves sidecarTerminalResult := by
  have job : Handler.terminalResult ≠ .mirror := by decide
  refine .tryCatch (?_ : Program.Within _ (fun _ => True) _) fun _ _ => .pure _
  refine .bind (.ask ⟨job, trivial⟩) fun found => ?_
  cases found with
  | none => exact .pure _
  | some found =>
      exact .bind (.ask ⟨job, trivial⟩) fun entry => .bind (.ask ⟨job, trivial⟩) fun answer =>
        .bind (leaves_raising answer) fun _ =>
          .bind (leaves_setWorkerProgress job _) fun _ => .pure _

theorem leaves_sourceGrabTerminalResult : Leaves sourceGrabTerminalResult := by
  have job : Handler.executor ≠ .mirror := by decide
  refine .bind leaves_sidecarTerminalResult fun found => ?_
  cases found with
  | some resultState => exact .pure _
  | none =>
      refine .bind (.ask ⟨job, trivial⟩) fun entry => ?_
      split
      · exact .throw trivial
      · exact .bind (leaves_setWorkerProgress job _) fun _ => .pure _

theorem triple_executeSourceGrabJob (grab : GrabRequest) :
    telling.Triple Sound (executeSourceGrabJob grab) (fun _ => Told) fun _ => Sound := by
  cases missing : grab.missingSource with
  | some text =>
      rw [executeSourceGrabJob, missing]
      exact .throw fun _ => id
  | none =>
      rw [executeSourceGrabJob, missing]
      refine (triple_asked (by decide)).bind fun registered => ?_
      cases registered with
      | false => exact .throw fun _ => id
      | true =>
          exact (triple_step (prepares_act _)).bind fun _ =>
            (triple_step (prepares_downloadAndPrepare _ _)).bind fun _ =>
              triple_importToLidarr.bind fun _ =>
                triple_onward (triple_told leaves_sourceGrabTerminalResult)

/-! ## The mirror -/

/-- An import stands behind the state that the backend job is to get. -/
def Backed (state : Backend.BackendState) (report : BackendReport) : Prop :=
  report.Sound ∧ (state = .imported → report.imported = true)

/-- An import stands behind the record. -/
def Standing (report : BackendReport) : Prop :=
  report.Sound ∧ (report.imported || report.founded) = true

/-- The call of the mirror leaves the state and the outcome alone. -/
def closes : Op → Bool
  | .updateBackendJob _ | .setV2ImportOutcome _ => false
  | _ => true

/-- The record of an import may be closed. -/
theorem standing_see {op : Op} {answer : op.Answer} (closing : closes op = true)
    (standing : report.Standing) : (report.see ⟨.mirror, op⟩ answer).Standing := by
  have recorded (outcome : ImportOutcome) : (report.record outcome).Standing := by
    refine ⟨⟨?_, standing.1.2⟩, standing.2⟩
    simp only [Founded, record, standing.2, Bool.not_true, Bool.and_false, Bool.or_false]
    exact standing.1.1
  cases op with
  | updateBackendJob state => contradiction
  | setV2ImportOutcome outcome => contradiction
  | writeSidecar place sidecar => exact recorded _
  | upsertFromSidecar sidecar => exact recorded _
  | updateRecordImportOutcome => exact recorded _
  | _ => exact standing

/-- The program closes a record. -/
abbrev Closes (program : Work α) : Prop :=
  program.Within (fun call => call.handler = .mirror ∧ closes call.op = true) fun _ => True

theorem triple_standing {program : Work α} (closing : Closes program) :
    telling.Triple Standing program (fun _ => Standing) fun _ => Standing := by
  apply (Surroundings.Triple.of_within closing ?_).imp (fun _ => id) (fun _ _ => id)
    fun _ _ => And.right
  intro before call answer after allowed standing step
  cases call with
  | mk handler op =>
      obtain ⟨rfl, closing⟩ := allowed
      rw [step.1.2]
      exact standing_see closing standing

theorem closes_raising (answer : Except String α) : Closes (raising answer) := by
  cases answer with
  | ok value => exact .pure value
  | error text => exact .throw trivial

theorem closes_closeBackendRecord (found : Option (SidecarPlace × SidecarRecord)) :
    Closes (closeBackendRecord found) := by
  cases found with
  | none => exact .bind (.ask ⟨rfl, rfl⟩) fun answer => closes_raising answer
  | some found =>
      cases found with
      | mk place record =>
          rw [closeBackendRecord]
          split
          · exact .pure _
          · exact .bind (.ask ⟨rfl, rfl⟩) fun written => .bind (closes_raising written) fun _ =>
              .bind (.ask ⟨rfl, rfl⟩) fun stored => .bind (closes_raising stored) fun _ =>
                .pure _

theorem closes_finalizeImportedBackendRecord : Closes finalizeImportedBackendRecord := by
  refine .bind (.ask ⟨rfl, rfl⟩) fun found =>
    .tryCatch (?_ : Program.Within _ (fun _ => True) _) fun _ _ => .pure _
  refine .bind (closes_closeBackendRecord found) fun closed => ?_
  cases closed with
  | false => exact .pure _
  | true =>
      have completed : Closes (markImportCompleted .mirror) :=
        .bind (.ask ⟨rfl, rfl⟩) fun answer => closes_raising answer
      exact .bind completed fun _ => .pure _

theorem triple_finalizeImportedBackendRecord :
    telling.Triple Standing finalizeImportedBackendRecord (fun _ => Sound) fun _ => Sound :=
  (triple_standing closes_finalizeImportedBackendRecord).imp (fun _ => id) (fun _ _ => And.left)
    fun _ _ => And.left

/-- The backend job gets a state that is backed. -/
theorem triple_updateBackendJob (state : Backend.BackendState) :
    telling.Triple (Backed state) (ask .mirror (.updateBackendJob state))
      (fun stored report => report.Sound ∧
        (stored = true → state = .imported → report.Standing)) fail := by
  apply Surroundings.Triple.ask
  intro before stored after backed step
  rw [step.1.2]
  cases stored with
  | false => exact ⟨backed.1, fun impossible => absurd impossible Bool.false_ne_true⟩
  | true =>
      have mirrored : (before.mirror state).Sound := by
        constructor
        · by_cases imported : state = .imported
          · simp [Founded, mirror, imported, backed.2 imported]
            exact backed.1.1
          · simp [Founded, mirror, imported]
            exact backed.1.1
        · intro reported
          simp only [mirror, decide_eq_true_eq] at reported
          simp [mirror, reported, backed.2 reported]
      refine ⟨mirrored, fun _ imported => ⟨mirrored, ?_⟩⟩
      simp [see, reflect, mirror, backed.2 imported]

theorem triple_mirrorBackendIngestOutcome (state : Backend.BackendState) :
    telling.Triple (Backed state) (mirrorBackendIngestOutcome state) (fun _ => Sound)
      fun _ => Sound := by
  have read : telling.Triple (Backed state) (ask .mirror .getBackendJob)
      (fun _ => Backed state) fun _ => Sound := by
    apply Surroundings.Triple.ask
    intro before answer after backed step
    rw [step.1.2]
    exact backed
  have body : telling.Triple (Backed state)
      (do
        if (← ask .mirror .getBackendJob) = some .importing then
          if ← ask .mirror (.updateBackendJob state) then
            if state = .imported then
              let _ ← finalizeImportedBackendRecord)
      (fun _ => Sound) fun _ => Sound := by
    apply read.bind
    intro found
    split
    · apply (triple_updateBackendJob state).bind
      intro stored
      cases stored with
      | false => exact .pure fun _ => And.left
      | true =>
          change telling.Triple _ (if state = .imported then _ else _) _ _
          split
          · next imported =>
              refine Surroundings.Triple.imp (triple_finalizeImportedBackendRecord.bind
                fun _ => .pure fun _ => id) (fun _ holds => holds.2 rfl imported)
                (fun _ _ => id) fun _ _ => id
          · exact .pure fun _ => And.left
    · exact .pure fun _ => And.left
  exact body.tryCatch fun _ => .pure fun _ => id

/-- The projection is read as it was written. -/
theorem triple_readJob :
    telling.Triple Told (ask .executor .readJob)
      (fun entry => Backed (Backend.backendIngestOutcome (some entry.projection))) fail := by
  apply Surroundings.Triple.ask
  intro before entry after told step
  have same : entry = before.entry := of_decide_eq_true step.2
  rw [step.1.2, same]
  exact ⟨told.1, told.imported_of_outcome⟩

theorem triple_executeBackendCompletedGrabJob (grab : GrabRequest) :
    telling.Triple Sound (executeBackendCompletedGrabJob grab) (fun _ => Sound)
      fun _ => Sound := by
  have failed : telling.Triple Sound (mirrorBackendIngestOutcome .failed) (fun _ => Sound)
      fun _ => Sound :=
    (triple_mirrorBackendIngestOutcome .failed).imp
      (fun _ sound => ⟨sound, fun impossible => by contradiction⟩) (fun _ _ => id) fun _ _ => id
  have grabbed : telling.Triple Sound
      (tryCatch (executeSourceGrabJob grab) fun raised => do
        mirrorBackendIngestOutcome .failed
        throw raised)
      (fun _ => Told) fun _ => Sound :=
    (triple_executeSourceGrabJob grab).tryCatch fun _ => failed.bind fun _ => .throw fun _ => id
  exact grabbed.bind fun _ => triple_readJob.bind fun _ =>
    (triple_mirrorBackendIngestOutcome _).bind fun _ => .pure fun _ => id

/-! ## The lane -/

theorem triple_reconcileImportedBackendRecordAudits :
    telling.Triple Sound reconcileImportedBackendRecordAudits (fun _ => Sound)
      fun _ => Sound := by
  have listed : telling.Triple Sound (ask .mirror .importedWithPendingRecord)
      (fun listed report => report.Sound ∧ (listed = true → report.Standing))
      fun _ => Sound := by
    apply Surroundings.Triple.ask
    intro before listed after sound step
    rw [step.1.2]
    refine ⟨sound, fun lists => ⟨sound, ?_⟩⟩
    rw [Bool.or_eq_true]
    right
    exact sound.2 (step.1.1 lists)
  apply listed.bind
  intro listed
  cases listed with
  | false => exact .pure fun _ => And.left
  | true =>
      refine Surroundings.Triple.imp (triple_finalizeImportedBackendRecord.bind
        fun _ => .pure fun _ => id) (fun _ holds => holds.2 rfl) (fun _ _ => id) fun _ _ => id

theorem keeps_reportJob (report : Queue.Report) : Keeps (reportJob report) :=
  .bind (.ask (.inr rfl)) fun _ => .pure _

theorem keeps_isJobCancelRequested : Keeps isJobCancelRequested := by
  refine .bind (.ask (.inr rfl)) fun answer => ?_
  cases answer with
  | ok requested => exact .pure _
  | error text => exact .pure _

theorem triple_executeJob (row : Queue.Job) {executor : Work String}
    (executes : telling.Triple Sound executor (fun _ => Sound) fun _ => Sound) :
    telling.Triple Sound (executeJob row executor) (fun _ => Sound) fun _ => Sound := by
  have reported (report : Queue.Report) : telling.Triple Sound (reportJob report)
      (fun _ => Sound) fun _ => Sound := triple_sound (keeps_reportJob report)
  refine (triple_sound keeps_isJobCancelRequested).bind fun requested => ?_
  cases requested with
  | true => exact reported _
  | false =>
      refine (executes.bind fun result => reported _).tryCatch fun raised => ?_
      cases raised with
      | cancelled => exact reported _
      | error text =>
          refine (triple_sound keeps_isJobCancelRequested).bind fun requested => ?_
          split
          · refine (triple_sound (.ask (.inr rfl))).bind fun stored => ?_
            cases stored with
            | true => exact .pure fun _ => id
            | false => exact reported _
          · exact reported _

theorem triple_laneStep (step : LaneStep) :
    telling.Triple Sound step.program (fun _ => Sound) fun _ => Sound := by
  cases step with
  | job row grab => exact triple_executeJob row (triple_executeBackendCompletedGrabJob grab)
  | audit => exact triple_reconcileImportedBackendRecordAudits

/-- Over all that the lane does with a job, an import stands behind all it has said. -/
theorem founded_of_run (steps : List LaneStep) {finish : BackendReport}
    {outcome : Except Raised PUnit}
    (run : telling.Run {} (steps.forM LaneStep.program) finish outcome) : finish.Founded := by
  have initially : Sound {} := ⟨rfl, fun impossible => absurd impossible Bool.false_ne_true⟩
  have lane : telling.Triple Sound (steps.forM LaneStep.program) (fun _ => Sound)
      fun _ => Sound := Surroundings.Triple.forM fun step _ => triple_laneStep step
  have ends := Surroundings.Triple.iff_run.mp lane _ _ _ initially run
  cases outcome with
  | ok value => exact And.left ends
  | error raised => exact And.left ends

/-! ## Playing a job -/

/-- Every call is answered by `replies`; the projection is read as it was written. -/
def reply (replies : (call : Call) → call.op.Answer) (before : BackendReport) (call : Call) :
    call.op.Answer × BackendReport :=
  let answer : call.op.Answer :=
    match call with
    | ⟨_, .readJob⟩ => before.entry
    | ⟨_, .importedWithPendingRecord⟩ => before.reported
    | call => replies call
  (answer, before.see call answer)

theorem answers_reply (replies : (call : Call) → call.op.Answer) (before : BackendReport)
    (call : Call) :
    surroundings.answers before call (reply replies before call).1
      (reply replies before call).2 := by
  refine ⟨?_, rfl⟩
  cases call with
  | mk handler op =>
      cases op with
      | importedWithPendingRecord => exact id
      | _ => trivial

/-- A completed download of a backend. -/
def backendGrab : GrabRequest := { Watch.localGrab with adapter := .backendCompleted }

/-- The row of that job. -/
def backendGrabRow : Queue.Job := { Watch.localGrabRow with type := Backend.backendGrabType }

/-- The job, and the audit after it. -/
def backendLane : List LaneStep := [.job backendGrabRow backendGrab, .audit]

/-- No file is imported yet, and Lidarr has still to run the ManualImport command. -/
def commandQueued : (call : Call) → call.op.Answer
  | ⟨_, .importedCount⟩ => .ok 0
  | ⟨_, .commandPending⟩ => .ok true
  | ⟨_, op⟩ => op.usual

/-- The files are imported, and the job is reported so. -/
theorem founded_of_run_backendLane :
    ∃ finish, (∃ outcome, telling.Run {} (backendLane.forM LaneStep.program) finish outcome) ∧
      finish.Founded ∧ finish.reported = true := by
  have run : telling.Run _ _ _ _ := Surroundings.run_restrict_play
    (answers_reply fun call => call.op.usual) (backendLane.forM LaneStep.program) {}
    (by decide +kernel)
  exact ⟨_, ⟨_, run⟩, founded_of_run backendLane run, by decide +kernel⟩

/-- The command is pending, and the job is reported as imported. -/
theorem not_founded_commandQueued : ¬∀ (steps : List LaneStep) (finish : BackendReport)
    (outcome : Except Raised PUnit),
      surroundings.Run {} (steps.forM LaneStep.program) finish outcome → finish.Founded := by
  intro every
  have founded := every backendLane _ _
    (Surroundings.run_play (answers_reply commandQueued) _ _)
  have unfounded : (Surroundings.play (reply commandQueued)
      (backendLane.forM LaneStep.program) {}).1.unfounded = true := by
    decide +kernel
  rw [Founded, unfounded] at founded
  contradiction

end BackendReport

end Mintarr.Lane
