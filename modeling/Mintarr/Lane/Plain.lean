import Mintarr.Lane.Scan

/-!
# The plain parts of the jobs

Most helpers only keep books: they neither look at the cancel flag nor handle a file nor
report to the queue, and what they raise is never a cancel.  What the other calls have
established, they keep.
-/

namespace Mintarr.Lane

open Lib Policy Import

variable {α β : Type}

/-- The call takes up a file or an item. -/
def Op.processes : Op → Bool
  | .copySource _ | .convertFile _ | .testFile _ | .postManualImport _ | .copyToLibrary _
  | .measureItem _ | .submitItem _ => true
  | _ => false

/-- The call may change the library of Lidarr: a ManualImport command or a rescue copy. -/
def Op.mutates : Op → Bool
  | .postManualImport _ | .copyToLibrary _ => true
  | _ => false

/-- The call keeps books only. -/
def Op.plain : Op → Bool
  | .isJobCancelRequested | .markDownloadCancelled | .act .waitKilledProcess | .report _
  | .scheduleJobRetry _ | .updateScanRun _ => false
  | op => !op.processes

/-- The program keeps books only, and does not raise a cancel. -/
def Work.Plain (program : Work α) : Prop :=
  program.Within (fun call => call.op.plain = true) (· ≠ .cancelled)

namespace Work.Plain

theorem pure (value : α) : (Pure.pure value : Work α).Plain := Program.Within.pure value

theorem throw (text : String) : (MonadExcept.throw (Raised.error text) : Work α).Plain :=
  Program.Within.throw (by simp)

theorem ask {handler : Handler} {op : Op} (plain : op.plain = true) :
    (Lane.ask handler op).Plain := Program.Within.ask plain

theorem bind {program : Work α} {next : α → Work β} (first : program.Plain)
    (rest : ∀ value, (next value).Plain) : (program >>= next).Plain :=
  Program.Within.bind first rest

/-- A plain program never runs the branch of a handler for a cancel. -/
theorem tryCatch {program : Work α} {handler : Raised → Work α} (body : program.Plain)
    (handled : ∀ text, (handler (.error text)).Plain) :
    (MonadExcept.tryCatch program handler).Plain := by
  refine Program.Within.tryCatch body ?_
  rintro (_ | text) raised
  · contradiction
  · exact handled text

/-- What a plain program raises may be caught altogether. -/
theorem caught {raises : Raised → Prop} {program : Work α} {handler : Raised → Work α}
    (body : program.Plain)
    (handled : ∀ error, (handler error).Within (fun call => call.op.plain = true) raises) :
    (MonadExcept.tryCatch program handler).Within (fun call => call.op.plain = true) raises :=
  Program.Within.tryCatch body fun error _ => handled error

theorem forM {items : List β} {round : β → Work PUnit} (rounds : ∀ item, (round item).Plain) :
    (items.forM round).Plain := Program.Within.forM rounds

theorem raising (answer : Except String α) : (Lane.raising answer).Plain := by
  cases answer with
  | ok value => exact .pure value
  | error text => exact .throw text

end Work.Plain

open Work

/-! ## Projection and sidecars -/

variable {handler : Handler} {request : ImportRequest} {result : VerificationResult}

theorem plain_saveJobs (update : JobUpdate) : (saveJobs handler update).Plain :=
  .bind (.ask rfl) .raising

theorem plain_setWorkerProgress (stage : String) : (setWorkerProgress handler stage).Plain :=
  .bind (.ask rfl) .raising

theorem plain_recordJobTiming (stage : String) : (recordJobTiming handler stage).Plain :=
  .bind (.ask rfl) .raising

theorem plain_act {step : LocalStep} (plain : (Op.act step).plain = true) :
    (act handler step).Plain :=
  .bind (.ask plain) .raising

theorem plain_raiseIf (condition : Bool) (text : String) : (raiseIf condition text).Plain := by
  cases condition with
  | true => exact .throw text
  | false => exact .pure _

theorem plain_writeVerificationSidecar (archived : Bool) :
    (writeVerificationSidecar handler result archived).Plain := by
  refine .bind (.ask rfl) fun existing => .bind (.ask rfl) fun answer =>
    .bind (.raising answer) fun _ => ?_
  cases existing with
  | none => exact .pure _
  | some found =>
      dsimp only
      generalize (if archived then SidecarPlace.blockedDecisions else .outputDir) = place
      split
      · exact .bind (.ask rfl) fun _ => .pure _
      · exact .pure _

theorem plain_maybeWriteV2Sidecar (archived : Bool) :
    (maybeWriteV2Sidecar handler request result archived).Plain := by
  unfold maybeWriteV2Sidecar
  split
  · exact plain_writeVerificationSidecar archived
  · exact .pure _

theorem plain_markImportFailed (reason : String) : (markImportFailed handler reason).Plain :=
  plain_saveJobs _

theorem plain_markImportCompleted : (markImportCompleted handler).Plain := plain_saveJobs _

theorem plain_cleanupLidarrQueue : (cleanupLidarrQueue handler).Plain :=
  .bind (.ask rfl) fun _ => plain_recordJobTiming _

/-! ## The gates -/

theorem plain_createReviewRequired : (createReviewRequired result).Plain := by
  refine .bind (plain_writeVerificationSidecar false) fun _ => .bind (.ask rfl) fun answer =>
    .bind (.raising answer) fun record => ?_
  split
  · exact .bind (.ask rfl) fun _ => .bind (.ask rfl) fun answer =>
      .bind (.raising answer) fun _ => plain_saveJobs _
  · exact plain_saveJobs _

theorem plain_performEvent (event : Event) : (performEvent result event).Plain := by
  cases event with
  | decisionLogged record => exact .ask rfl
  | sidecarWritten archived => exact plain_writeVerificationSidecar archived
  | outputDeleted => exact .ask rfl
  | jobFailed error => exact plain_saveJobs _
  | blocklisted => exact .bind (.ask rfl) fun _ => .pure _
  | queueCleaned => exact plain_cleanupLidarrQueue
  | warned warning => exact plain_saveJobs _
  | _ => exact .pure _

theorem plain_evaluate : (evaluate request).Plain :=
  .bind (plain_setWorkerProgress _) fun _ => .bind (.ask rfl) fun found =>
    .bind (.raising found) fun _ => .bind (.ask rfl) fun _ =>
      .bind (plain_recordJobTiming _) fun _ => .bind (plain_setWorkerProgress _) fun _ =>
        .bind (.ask rfl) fun _ => .bind (plain_recordJobTiming _) fun _ =>
          .bind (plain_setWorkerProgress _) fun _ => .pure _

theorem plain_passGates (context : ImportContext) : (passGates context).Plain := by
  unfold passGates
  split
  · exact .bind (.ask rfl) fun text => .throw text
  · split
    · exact .bind (.forM plain_performEvent) fun _ => .pure _
    · exact .bind (.ask rfl) fun _ => .bind plain_createReviewRequired fun _ => .pure _
  · exact .bind (.forM plain_performEvent) fun _ => .pure _

theorem plain_resolveTarget : (resolveTarget request).Plain := by
  unfold resolveTarget
  split
  · refine .bind (.ask rfl) fun inferred => ?_
    cases inferred with
    | none => exact .pure _
    | some albumId => exact .bind (plain_saveJobs _) fun _ => .pure _
  · exact .pure _

/-! ## Release switches -/

theorem plain_applyReleaseSwitchCandidate (candidate : ReleaseSwitchCandidate) :
    (applyReleaseSwitchCandidate handler candidate).Plain := by
  unfold applyReleaseSwitchCandidate
  split
  · exact .pure _
  · exact .bind (.ask rfl) fun reply => .bind (.raising reply.status) fun _ => .pure _

theorem plain_autoReleaseSwitch (albumId : Int) : (autoReleaseSwitch albumId).Plain := by
  refine .tryCatch (.bind (.ask rfl) fun answer => .bind (.raising answer) fun found => ?_)
    fun _ => .pure _
  cases found with
  | none => exact .pure _
  | some candidate =>
      dsimp only
      split
      · exact plain_applyReleaseSwitchCandidate _
      · exact .pure _

theorem plain_maybeAutoReleaseSwitch (items : List ManualImportItem) :
    (maybeAutoReleaseSwitch request items result).Plain := by
  unfold maybeAutoReleaseSwitch
  split
  · refine .bind (.ask rfl) fun count => ?_
    split
    · exact .pure _
    · exact Program.Within.foldlM fun applied albumId =>
        .bind (plain_autoReleaseSwitch albumId) fun _ => .pure _
  · exact .pure _

theorem plain_restoreReleaseSwitches (audits : List Int) :
    (restoreReleaseSwitches handler audits).Plain := by
  refine .forM fun albumId => ?_
  split
  · exact .bind (.ask rfl) fun _ => .pure _
  · exact .pure _

/-! ## Exits -/

theorem plain_closeFailed (audits : List Int) (reason : String) :
    (closeFailed handler request result audits reason).Plain :=
  .bind (.ask rfl) fun _ => .bind (.ask rfl) fun _ =>
    .bind (plain_maybeWriteV2Sidecar false) fun _ => .bind (plain_markImportFailed reason) fun _ =>
      .bind (plain_restoreReleaseSwitches audits) fun _ => plain_cleanupLidarrQueue

theorem plain_failImport (audits : List Int) (reason : String) :
    (failImport handler request result audits reason).Plain :=
  .bind (plain_recordJobTiming _) fun _ => plain_closeFailed audits reason

theorem plain_completeImport (outcome : ImportOutcome) :
    (completeImport handler request result outcome).Plain := by
  refine .bind (plain_recordJobTiming _) fun _ => .bind (.ask rfl) fun _ => ?_
  split
  · exact .bind (plain_writeVerificationSidecar false) fun _ => .bind (.ask rfl) fun _ =>
      plain_markImportCompleted
  · exact plain_markImportCompleted

theorem plain_leavePending (audits : List Int) : (leavePending request result audits).Plain :=
  .bind (plain_recordJobTiming _) fun _ => .bind (.ask rfl) fun _ =>
    .bind (plain_maybeWriteV2Sidecar false) fun _ =>
      .bind (plain_restoreReleaseSwitches audits) fun _ => plain_saveJobs _

theorem plain_manualimportTargetGuardFailure (target : Queue.Scalar)
    (items : List ManualImportItem) :
    (manualimportTargetGuardFailure request target items).Plain := by
  unfold manualimportTargetGuardFailure
  split
  · exact .pure _
  · split
    · exact .ask rfl
    · exact .pure _

/-! ## After the import -/

theorem plain_sidecarTerminalResult : sidecarTerminalResult.Plain := by
  refine .tryCatch (.bind (.ask rfl) fun found => ?_) fun _ => .pure _
  cases found with
  | none => exact .pure _
  | some found =>
      exact .bind (.ask rfl) fun _ => .bind (.ask rfl) fun answer =>
        .bind (.raising answer) fun _ => .bind (plain_setWorkerProgress _) fun _ => .pure _

theorem plain_sourceGrabTerminalResult : sourceGrabTerminalResult.Plain := by
  refine .bind plain_sidecarTerminalResult fun found => ?_
  cases found with
  | some resultState => exact .pure _
  | none =>
      refine .bind (.ask rfl) fun entry => ?_
      split
      · exact .throw _
      · exact .bind (plain_setWorkerProgress _) fun _ => .pure _

theorem plain_failManualImport : (failManualImport handler).Plain :=
  .bind (plain_markImportFailed _) fun _ => .bind (plain_setWorkerProgress _) fun _ =>
    .bind plain_cleanupLidarrQueue fun _ => .pure _

theorem plain_verificationActionResultState : verificationActionResultState.Plain := by
  refine .bind (.ask rfl) fun found => ?_
  cases found with
  | none => exact .pure _
  | some found =>
      dsimp only
      split
      · exact .pure _
      · exact .pure _
      · exact .ask rfl
      · exact .ask rfl
      · exact .ask rfl

/-! ## The mirror of a backend job -/

theorem plain_closeBackendRecord (found : Option (SidecarPlace × SidecarRecord)) :
    (closeBackendRecord found).Plain := by
  cases found with
  | none => exact .bind (.ask rfl) .raising
  | some found =>
      rcases found with ⟨place, record⟩
      simp only [closeBackendRecord]
      split
      · exact .pure _
      · exact .bind (.ask rfl) fun answer => .bind (.raising answer) fun _ =>
          .bind (.ask rfl) fun answer => .bind (.raising answer) fun _ => .pure _

theorem plain_finalizeImportedBackendRecord : finalizeImportedBackendRecord.Plain := by
  refine .bind (.ask rfl) fun found => .tryCatch ?_ fun _ => .pure _
  refine .bind (plain_closeBackendRecord found) fun closed => ?_
  cases closed with
  | true => exact .bind plain_markImportCompleted fun _ => .pure _
  | false => exact .pure _

/-- The mirror raises nothing. -/
theorem within_mirrorBackendIngestOutcome (state : Backend.BackendState) :
    (mirrorBackendIngestOutcome state).Within (fun call => call.op.plain = true)
      fun _ => False := by
  refine Work.Plain.caught (.bind (.ask rfl) fun row => ?_) fun _ => .pure _
  split
  · refine .bind (.ask rfl) fun updated => ?_
    split
    · split
      · exact .bind plain_finalizeImportedBackendRecord fun _ => .pure _
      · exact .pure _
    · exact .pure _
  · exact .pure _

theorem plain_mirrorBackendIngestOutcome (state : Backend.BackendState) :
    (mirrorBackendIngestOutcome state).Plain :=
  (within_mirrorBackendIngestOutcome state).imp (fun _ => id) fun _ => False.elim

end Mintarr.Lane
