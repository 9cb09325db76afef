import Mintarr.Lane.ScanCancel

/-!
# Which cancels are kept

The jobs with a cancel check, and the runs in which a raised cancel ends them as
cancelled and excludes a change of the library.  A run is one of the surroundings under a
guard, a condition on its steps.
-/

namespace Mintarr.Lane

open Lib

/-- The jobs that import, with their payloads. -/
inductive ImportJob where
  | sourceGrab (grab : GrabRequest)
  | backendCompletedGrab (grab : GrabRequest)
  | promoteImport (jid : String)
  | retryImport (jid : String)

/-- The executor of the job. -/
def ImportJob.executor : ImportJob → Work String
  | .sourceGrab grab => executeSourceGrabJob grab
  | .backendCompletedGrab grab => executeBackendCompletedGrabJob grab
  | .promoteImport jid => executePromoteImportJob jid
  | .retryImport jid => executeRetryImportJob jid

/-- The jobs with a cancel check. -/
inductive CancellableJob where
  | importing (job : ImportJob)
  | libraryScan (scan : ScanRequest)

/-- The job under the worker that runs it; `row` is its row in the queue. -/
def CancellableJob.execute (row : Queue.Job) : CancellableJob → Work Unit
  | .importing job => executeJob row job.executor
  | .libraryScan scan => executeLibraryScanJob scan

/-- A checkpoint raises the cancel. -/
def Call.raises : (call : Call) → call.op.Answer → Bool
  | ⟨handler, op⟩, answer =>
      match op, answer with
      | .isJobCancelRequested, .ok true => handler.scans
      | .markDownloadCancelled, .ok () => true
      | _, _ => false

namespace Watch

theorem ends_executor (job : ImportJob) : Ends job.executor := by
  cases job with
  | sourceGrab grab => exact ends_executeSourceGrabJob grab
  | backendCompletedGrab grab => exact ends_executeBackendCompletedGrabJob grab
  | promoteImport jid =>
      exact (passes_executeVerificationAction (passes_promoteVerifiedImport rfl rfl)).ends
  | retryImport jid =>
      exact (passes_executeVerificationAction (passes_retryVerifiedImport rfl rfl)).ends

theorem fresh_start (requested : Bool) : (start requested).Fresh where
  unprocessed := rfl
  unreported := rfl
  unlost := rfl
  late_eq_blind := rfl
  requested_eq_unread := rfl
  unraised := rfl
  unswallowed := rfl
  notOvertaken := rfl
  unchanged := rfl

variable {row : Queue.Job} {requested : Bool} {finish : Watch} {outcome : Except Raised Unit}

/-- Every run of an import job ends in a final state. -/
theorem final_of_run {job : ImportJob}
    (run : surroundings.Run (start requested) (executeJob row job.executor) finish outcome) :
    finish.Final := by
  have triple : surroundings.Triple Fresh (executeJob row job.executor) (fun _ => Final)
      fun _ => Final := triple_executeJob (ends_executor job)
  have ends := Surroundings.Triple.iff_run.mp triple _ _ _ (fresh_start requested) run
  cases outcome <;> exact ends

/-- Every run of a scan that swallows no cancel ends in a final state. -/
theorem scanFinal_of_run {scan : ScanRequest}
    (run : surroundings.Run (start requested) (executeLibraryScanJob scan) finish outcome) :
    finish.OrSwallowed ScanFinal := by
  have ends := Surroundings.Triple.iff_run.mp (triple_executeLibraryScanJob scan) _ _ _
    (fresh_start requested).toOpen run
  cases outcome <;> exact ends

/-! ## Raised cancels -/

/-- No checkpoint raises under a handler that forgets the cancel, a process that is stopped
for a cancel ends, and the database takes the last reports. -/
def heeded (before : Watch) : (call : Call) → call.op.Answer → Bool
  | call, answer =>
      !(call.raises answer && call.handler.swallows) &&
        match call, answer with
        | ⟨_, op⟩, answer =>
            match op, answer with
            | .act .waitKilledProcess, .error _ => !before.raised
            | .report _, stored => stored
            | .updateScanRun state, stored => stored || state ≠ .cancelled
            | _, _ => true

/-- A heeded step loses no cancel. -/
theorem kept_of_heeded {before begun : Watch} {call : Call} {answer : call.op.Answer}
    (origin : begun = before ∨ begun = before.accept) (heeded : before.heeded call answer = true)
    (kept : before.swallowed = false ∧ before.lost = false) :
    (begun.see call answer).swallowed = false ∧ (begun.see call answer).lost = false := by
  have started : (begun.swallowed = false ∧ begun.lost = false) ∧ begun.raised = before.raised := by
    rcases origin with rfl | rfl <;> exact ⟨kept, rfl⟩
  rcases started with ⟨⟨unswallowed, unlost⟩, raised⟩
  rcases call with ⟨handler, op⟩
  cases op with
  | isJobCancelRequested =>
      rcases answer with _ | _ | _
      · exact ⟨unswallowed, unlost⟩
      · exact ⟨unswallowed, unlost⟩
      · cases scans : handler.scans <;>
          simp_all [see, Watch.raise, Watch.heeded, Call.raises]
  | markDownloadCancelled =>
      cases answer with
      | ok => simp_all [see, Watch.raise, Watch.heeded, Call.raises]
      | error text => exact ⟨unswallowed, unlost⟩
  | act step =>
      cases step <;> cases answer <;>
        simp_all [see, Watch.lose, Watch.heeded, Call.raises]
  | copySource | convertFile | testFile | measureItem | submitItem | postManualImport
  | copyToLibrary => exact ⟨unswallowed, unlost⟩
  | report report =>
      have stored : answer = true := by simpa [Watch.heeded, Call.raises] using heeded
      subst stored
      exact ⟨unswallowed, unlost⟩
  | scheduleJobRetry error => cases answer <;> exact ⟨unswallowed, unlost⟩
  | updateScanRun state =>
      cases answer <;> simp_all [see, Watch.reportRun, Watch.heeded, Call.raises]
  | _ => exact ⟨unswallowed, unlost⟩

theorem unlost_of_run {program : Work Unit}
    (run : (surroundings.restrict fun before call answer _ => before.heeded call answer).Run
      (start requested) program finish outcome) :
    finish.swallowed = false ∧ finish.lost = false := by
  refine run.invariant (fun watch => watch.swallowed = false ∧ watch.lost = false) ?_ ⟨rfl, rfl⟩
  rintro before call answer after kept ⟨⟨begun, origin, _, rfl⟩, heeded⟩
  exact kept_of_heeded origin heeded kept

/-- A cancel that was raised leaves the job cancelled, and the run of a scan as well, and
nothing was taken up after it. -/
def Terminalised (job : CancellableJob) (watch : Watch) : Prop :=
  match job with
  | .importing _ => watch.CancelKept
  | .libraryScan _ => watch.ScanCancelKept

/-- Where every step is heeded, a raised cancel terminalises the job as cancelled. -/
theorem cancel_terminalises (row : Queue.Job) (job : CancellableJob)
    (run : (surroundings.restrict fun before call answer _ => before.heeded call answer).Run
      (start requested) (job.execute row) finish outcome) :
    finish.Terminalised job := by
  rcases unlost_of_run run with ⟨unswallowed, unlost⟩
  cases job with
  | importing job =>
      exact (final_of_run run.of_restrict).cancelKept_iff.mpr ⟨unswallowed, by simp [unlost]⟩
  | libraryScan scan =>
      rcases scanFinal_of_run run.of_restrict with swallowed | final
      · rw [unswallowed] at swallowed
        contradiction
      · exact final unlost

/-! ## Cancels and the library -/

/-- No request is unread when a step begins that changes the library, and after such a step
no checkpoint lets a cancel through to the worker. -/
def timely (before : Watch) (call : Call) (answer : call.op.Answer) (after : Watch) : Bool :=
  !(call.op.mutates && after.unread) &&
    !(call.raises answer && !call.handler.swallows && before.mutated)

/-- A timely step changes the library neither blindly nor before a cancel. -/
theorem excluded_of_timely {before begun : Watch} {call : Call} {answer : call.op.Answer}
    (origin : begun = before ∨ begun = before.accept)
    (timely : before.timely call answer (begun.see call answer) = true)
    (excluded : before.blind = false ∧ before.overtaken = false) :
    (begun.see call answer).blind = false ∧ (begun.see call answer).overtaken = false := by
  have started : (begun.blind = false ∧ begun.overtaken = false) ∧
      begun.mutated = before.mutated := by
    rcases origin with rfl | rfl <;> exact ⟨excluded, rfl⟩
  rcases started with ⟨⟨seeing, notOvertaken⟩, mutated⟩
  rcases call with ⟨handler, op⟩
  cases op with
  | isJobCancelRequested =>
      rcases answer with _ | _ | _
      · exact ⟨seeing, notOvertaken⟩
      · exact ⟨seeing, notOvertaken⟩
      · cases scans : handler.scans <;>
          simp_all [see, Watch.raise, Watch.timely, Call.raises, Op.mutates]
        cases swallows : handler.swallows <;> simp_all
  | markDownloadCancelled =>
      cases answer with
      | ok =>
          cases swallows : handler.swallows <;>
            simp_all [see, Watch.raise, Watch.timely, Call.raises, Op.mutates]
      | error text => exact ⟨seeing, notOvertaken⟩
  | act step =>
      cases step <;> cases answer <;> simp_all [see, Watch.lose]
  | postManualImport | copyToLibrary =>
      simp_all [see, Watch.mutate, Watch.take, Watch.timely, Call.raises, Op.mutates]
  | copySource | convertFile | testFile | measureItem | submitItem =>
      exact ⟨seeing, notOvertaken⟩
  | report report => cases answer <;> exact ⟨seeing, notOvertaken⟩
  | scheduleJobRetry error => cases answer <;> exact ⟨seeing, notOvertaken⟩
  | updateScanRun state => cases answer <;> exact ⟨seeing, notOvertaken⟩
  | _ => exact ⟨seeing, notOvertaken⟩

/-- Where every step is timely, a cancelled job has not changed the library, and no change
begins after the request. -/
theorem cancel_excludes_mutation (row : Queue.Job) (job : ImportJob)
    (run : (surroundings.restrict fun before call answer after =>
      before.timely call answer after).Run (start requested) (executeJob row job.executor)
        finish outcome) :
    finish.MutationExcluded := by
  have excluded : finish.blind = false ∧ finish.overtaken = false := by
    refine run.invariant (fun watch => watch.blind = false ∧ watch.overtaken = false) ?_
      ⟨rfl, rfl⟩
    rintro before call answer after kept ⟨⟨begun, origin, _, rfl⟩, timely⟩
    exact excluded_of_timely origin timely kept
  exact (final_of_run run.of_restrict).mutationExcluded_iff.mpr ⟨excluded.1, by simp [excluded.2]⟩

/-! ## Playing a job -/

/-- The flag is read truly, other calls are answered by `replies`, and a cancel is requested
before the calls that `accepts` names. -/
def reply (accepts : Call → Bool) (replies : (call : Call) → call.op.Answer) (before : Watch)
    (call : Call) : call.op.Answer × Watch :=
  let begun := if accepts call then before.accept else before
  let answer : call.op.Answer :=
    match call with
    | ⟨_, .isJobCancelRequested⟩ => .ok begun.requested
    | other => replies other
  (answer, begun.see call answer)

theorem answers_reply (accepts : Call → Bool) (replies : (call : Call) → call.op.Answer)
    (before : Watch) (call : Call) :
    surroundings.answers before call (reply accepts replies before call).1
      (reply accepts replies before call).2 := by
  refine ⟨if accepts call then before.accept else before, ?_, ?_, rfl⟩
  · split
    · exact .inr rfl
    · exact .inl rfl
  · rcases call with ⟨handler, op⟩
    cases op with
    | isJobCancelRequested =>
        cases requested : (if accepts ⟨handler, .isJobCancelRequested⟩ then before.accept
          else before).requested <;> simp [possible, reply, requested]
    | _ => rfl

/-- A local source grab of one file, with V2 enabled. -/
def localGrab : GrabRequest where
  adapter := .localFolder
  missingSource := none
  slskd := false
  request :=
    { v2Enabled := true, autoReleaseSwitch := false, soulseek := false, targetAlbumId := .null }

/-- The row of that job, at its first attempt. -/
def localGrabRow : Queue.Job where
  id := 1
  jid := "local-1"
  type := "local_grab"
  state := .running
  priority := 0
  createdAt := 0
  attempts := 1
  maxAttempts := some 3
  dedupeKey := none
  sourceType := none
  sourceId := none
  payload := []

/-- The candidates are looked up. -/
def looksUp : Op → Bool
  | .getManualImport => true
  | _ => false

/-- The ManualImport command is posted. -/
def posts : Op → Bool
  | .postManualImport _ => true
  | _ => false

/-- Lidarr is asked whether the command is pending. -/
def asksPending : Op → Bool
  | .commandPending => true
  | _ => false

/-- A loop asks how long it waits. -/
def waits : Op → Bool
  | .pollCount => true
  | _ => false

/-- Lidarr drops the ManualImport command, and a cancel is requested then: the check of the
rescue raises it. -/
def droppedCommand : (call : Call) → call.op.Answer
  | ⟨_, .importedCount⟩ => .ok 0
  | ⟨_, .readJob⟩ => { status := some .failed, error := some "manualimport and rescue failed" }
  | ⟨_, op⟩ => op.usual

/-- The one item of a spectral scan waits for an import once. -/
def pausedItem : (call : Call) → call.op.Answer
  | ⟨.scanItem, .pollCount⟩ => (1 : Nat)
  | ⟨_, op⟩ => op.usual

/-- The handlers of the rescue forget a cancel, and the one of a scan item does as well: the
grab is reported failed and the scan completed. -/
theorem cancel_swallowed :
    ∃ grab scan,
      (∃ outcome, surroundings.Run (start false)
        (CancellableJob.execute localGrabRow (.importing (.sourceGrab localGrab))) grab outcome) ∧
      (∃ outcome, surroundings.Run (start false)
        (CancellableJob.execute localGrabRow (.libraryScan ⟨false, true, none⟩)) scan outcome) ∧
      grab.raised = true ∧ grab.job = some .failed ∧
      scan.raised = true ∧ scan.job = some .completed ∧ scan.run = some .completed := by
  refine ⟨_, _,
    ⟨_, Surroundings.run_play
      (answers_reply (fun call => asksPending call.op) droppedCommand) _ _⟩,
    ⟨_, Surroundings.run_play
      (answers_reply (fun call => waits call.op) pausedItem) _ _⟩, ?_⟩
  decide +kernel

/-- A cancel that is requested during the lookup is raised before the command is posted. -/
theorem cancel_terminalises_localGrab :
    ∃ grab, (∃ outcome,
      (surroundings.restrict fun before call answer _ => before.heeded call answer).Run
        (start false) (CancellableJob.execute localGrabRow (.importing (.sourceGrab localGrab)))
        grab outcome) ∧
      grab.raised = true ∧ grab.job = some .cancelled := by
  have run : (surroundings.restrict fun before call answer _ => before.heeded call answer).Run
      _ _ _ _ := Surroundings.run_restrict_play
    (answers_reply (fun call => looksUp call.op) fun call => call.op.usual)
    (CancellableJob.execute localGrabRow (.importing (.sourceGrab localGrab))) (start false)
    (by decide +kernel)
  refine ⟨_, ⟨_, run⟩, by decide +kernel, ?_⟩
  exact (cancel_terminalises localGrabRow _ run (by decide +kernel)).1

/-- A sidecar that an operator may promote. -/
def reviewedRecord : SidecarRecord where
  decision := .reviewRequired
  outcome := .pending
  lifecycle := .pendingReview

/-- Lidarr drops the ManualImport command of a promote. -/
def droppedPromote : (call : Call) → call.op.Answer
  | ⟨_, .readSidecar⟩ => some (.outputDir, reviewedRecord)
  | ⟨_, .importedCount⟩ => .ok 0
  | ⟨_, op⟩ => op.usual

/-- The check before the rescue of a promote cancels the job after its ManualImport command;
the command of a grab is posted although the cancel was requested after its last check. -/
theorem mutation_not_excluded :
    ∃ promote grab,
      (∃ outcome, surroundings.Run (start false)
        (executeJob localGrabRow (ImportJob.promoteImport "local-1").executor) promote outcome) ∧
      (∃ outcome, surroundings.Run (start false)
        (executeJob localGrabRow (ImportJob.sourceGrab localGrab).executor) grab outcome) ∧
      promote.job = some .cancelled ∧ promote.mutated = true ∧ grab.late = true := by
  refine ⟨_, _,
    ⟨_, Surroundings.run_play
      (answers_reply (fun call => asksPending call.op) droppedPromote) _ _⟩,
    ⟨_, Surroundings.run_play
      (answers_reply (fun call => posts call.op) fun call => call.op.usual)
      _ _⟩, ?_⟩
  decide +kernel

/-- The lookup of a grab is in time for a cancel. -/
theorem cancel_excludes_mutation_localGrab :
    ∃ grab, (∃ outcome,
      (surroundings.restrict fun before call answer after =>
        before.timely call answer after).Run (start false)
          (executeJob localGrabRow (ImportJob.sourceGrab localGrab).executor) grab outcome) ∧
      grab.requested = true ∧ grab.MutationExcluded := by
  have run : (surroundings.restrict fun before call answer after =>
      before.timely call answer after).Run _ _ _ _ := Surroundings.run_restrict_play
    (answers_reply (fun call => looksUp call.op) fun call => call.op.usual)
    (executeJob localGrabRow (ImportJob.sourceGrab localGrab).executor) (start false)
    (by decide +kernel)
  exact ⟨_, ⟨_, run⟩, by decide +kernel, cancel_excludes_mutation localGrabRow _ run⟩

end Watch

end Mintarr.Lane
