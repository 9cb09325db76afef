import Mintarr.Lane.CancelEnds

/-!
# Cancels of a library scan

A scan raises its cancel at the head of each item and while it waits for imports.  The
wait inside the measurement of a spectral item stands under the handler of the item: past
that the scan goes on.  What is shown here holds as long as no cancel is raised there.
-/

namespace Mintarr.Lane

open Lib

namespace Watch

variable {α β : Type} {watch : Watch}

/-- A cancel was swallowed, or the property holds. -/
def OrSwallowed (holds : Watch → Prop) (watch : Watch) : Prop :=
  watch.swallowed = true ∨ holds watch

theorem swallowed_see {call : Call} {answer : call.op.Answer}
    (swallowed : watch.swallowed = true) : (watch.see call answer).swallowed = true := by
  rcases call with ⟨handler, op⟩
  simp only [see]
  split
  · split <;> simp [Watch.raise, swallowed]
  · simp [Watch.raise, swallowed]
  · simp [Watch.lose, swallowed]
  · exact swallowed
  · exact swallowed
  · exact swallowed
  · exact swallowed
  · exact swallowed
  · exact swallowed
  · exact swallowed
  · simp only [Watch.reportJob]
    split <;> exact swallowed
  · split <;> exact swallowed
  · simp only [Watch.reportRun]
    split <;> exact swallowed
  · exact swallowed

/-- A swallowed cancel stays swallowed. -/
theorem triple_swallowed {program : Work α} :
    surroundings.Triple (fun watch => watch.swallowed = true) program
      (fun _ watch => watch.swallowed = true) fun _ watch => watch.swallowed = true := by
  have everything : program.Within (fun _ => True) fun _ => True := by
    induction program with
    | pure value => trivial
    | throw error => trivial
    | call question next ih => exact ⟨trivial, ih⟩
  refine (Surroundings.Triple.of_within everything ?_).imp (fun _ => id) (fun _ _ => id)
    fun _ _ => And.right
  rintro before call answer after _ swallowed ⟨start, origin, _, rfl⟩
  refine swallowed_see ?_
  rcases origin with rfl | rfl <;> exact swallowed

/-- A triple may start where a cancel was swallowed, and then says nothing more. -/
theorem triple_orSwallowed {pre : Watch → Prop} {post : α → Watch → Prop}
    {fail : Raised → Watch → Prop}
    {program : Work α} (triple : surroundings.Triple pre program post fail) :
    surroundings.Triple (OrSwallowed pre) program (fun value => OrSwallowed (post value))
      fun error => OrSwallowed (fail error) := by
  rintro state (swallowed | holds)
  · refine (triple_swallowed state swallowed).imp ?_
    rintro finish (error | value) still <;> exact .inl still
  · refine (triple state holds).imp ?_
    rintro finish (error | value) ends <;> exact .inr ends

/-- The program may be run in an open scan, and leaves it so unless it swallows a cancel. -/
abbrev Scans (program : Work α) : Prop :=
  surroundings.Triple Open program (fun _ => OrSwallowed Open) fun error =>
    OrSwallowed (Fail error)

theorem Passes.scans {program : Work α} (passes : Passes program) : Scans program :=
  passes.imp (fun _ => id) (fun _ _ => .inr) fun _ _ => .inr

theorem OrSwallowed.join {holds : Watch → Prop} (twice : watch.OrSwallowed (OrSwallowed holds)) :
    watch.OrSwallowed holds := by
  rcases twice with swallowed | once
  · exact .inl swallowed
  · exact once

theorem Scans.bind {program : Work α} {next : α → Work β} (first : Scans program)
    (rest : ∀ value, Scans (next value)) : Scans (program >>= next) := by
  refine Surroundings.Triple.bind first fun value => ?_
  exact (triple_orSwallowed (rest value)).imp (fun _ => id) (fun _ _ => .join) fun _ _ => .join

theorem Scans.forM {items : List β} {round : β → Work PUnit}
    (rounds : ∀ item, Scans (round item)) : Scans (items.forM round) := by
  induction items with
  | nil => exact (Passes.pure _).scans
  | cons item items ih => exact (rounds item).bind fun _ => ih

theorem scans_plain {program : Work α} (plain : program.Plain) : Scans program :=
  (passes_plain plain).scans

/-! ## Checkpoints -/

/-- What the run of a scan records does not matter before its end. -/
theorem Open.reportRun (isOpen : watch.Open) {state : Queue.JobState} {stored : Bool}
    (goesOn : state ≠ .cancelled) : (watch.reportRun state stored).Open := by
  cases stored <;>
    exact
      { unprocessed := isOpen.unprocessed
        unreported := isOpen.unreported
        unlost := by simp [Watch.reportRun, isOpen.unlost, goesOn]
        late_eq_blind := isOpen.late_eq_blind
        requested_eq_unread := isOpen.requested_eq_unread
        unraised := isOpen.unraised
        unswallowed := isOpen.unswallowed
        notOvertaken := isOpen.notOvertaken }

theorem Fail.reportRun {error : Raised} (fail : watch.Fail error) {state : Queue.JobState}
    {stored : Bool} (goesOn : state ≠ .cancelled) :
    (watch.reportRun state stored).Fail error := by
  cases stored <;>
    exact
      { unprocessed := fail.unprocessed
        unreported := fail.unreported
        unlost := by simp [Watch.reportRun, fail.unlost, goesOn]
        late_eq_blind := fail.late_eq_blind
        cancelled_iff := fail.cancelled_iff
        raised_of_swallowed := fail.raised_of_swallowed
        overtaken_iff := fail.overtaken_iff }

theorem swallowed_reportRun {state : Queue.JobState} {stored : Bool} :
    (watch.reportRun state stored).swallowed = watch.swallowed := by
  cases stored <;> rfl

theorem passes_updateScanRun {handler : Handler} {state : Queue.JobState}
    (goesOn : state ≠ .cancelled) : Passes (ask handler (.updateScanRun state)) :=
  passes_ask fun _ _ isOpen => isOpen.reportRun goesOn

/-- `_raise_if_cancelled`: the check raises at once, and its cancel stays `caught`. -/
theorem triple_raiseIfCancelled {handler : Handler} {caught : Watch → Prop}
    {fail : Raised → Watch → Prop} (scans : handler.scans = true) (stable : Stable caught)
    (raises : ∀ watch : Watch, watch.Open →
      caught ({ watch with unread := false }.raise handler))
    (fails : ∀ watch stored, caught watch → fail .cancelled (watch.reportRun .cancelling stored)) :
    surroundings.Triple Open (raiseIfCancelled handler) (fun _ => Open) fail := by
  have checked : surroundings.Triple Open (ask handler .isJobCancelRequested)
      (fun answer => if answer = .ok true then caught else Open) fail := by
    refine .ask ?_
    rintro before answer after holds ⟨start, origin, _, rfl⟩
    have isOpen : start.Open := by
      rcases origin with rfl | rfl
      · exact holds
      · exact stable_open _ holds
    match answer with
    | .ok true =>
        simp only [see, scans]
        exact raises start isOpen
    | .ok false | .error _ => exact isOpen
  refine checked.bind ?_
  rintro (text | _ | _)
  · exact .pure fun _ => id
  · exact .pure fun _ => id
  · have marked : surroundings.Triple caught
        (ask handler (.updateScanRun .cancelling)) (fun _ => fail .cancelled) fail :=
      triple_ask stable fun watch stored holds _ => fails watch stored holds
    exact marked.bind fun _ => .throw fun _ => id

theorem passes_raiseIfCancelled : Passes (raiseIfCancelled .libraryScan) :=
  triple_raiseIfCancelled rfl (stable_fail .cancelled) (fun _ isOpen => isOpen.raise rfl)
    fun _ _ fail => fail.reportRun (by decide)

/-- The program swallows a cancel that it raises. -/
abbrev SwallowsInside (program : Work α) : Prop :=
  surroundings.Triple Open program (fun _ => Open) fun _ => OrSwallowed Open

theorem swallowsInside_plain {program : Work α} (plain : program.Plain) :
    SwallowsInside program :=
  (unchecked_plain plain).imp (fun _ => id) (fun _ _ => id) fun _ _ ⟨_, isOpen⟩ => .inr isOpen

theorem swallowsInside_raiseIfCancelled : SwallowsInside (raiseIfCancelled .scanItem) := by
  have stable : Stable fun watch => watch.swallowed = true := fun _ => id
  refine triple_raiseIfCancelled rfl stable ?_ ?_
  · intro watch _
    simp [Watch.raise, Handler.swallows]
  · intro watch stored swallowed
    exact .inl (swallowed_reportRun.trans swallowed)

/-! ## The pool -/

theorem passes_waitForImportQuiet : Passes (waitForImportQuiet .libraryScan) := by
  have pauses (polls : Nat) : Passes (pauseForImports .libraryScan polls) := by
    induction polls with
    | zero => exact Passes.pure _
    | succ polls ih =>
        exact passes_raiseIfCancelled.bind fun _ => (passes_plain (.ask rfl)).bind fun _ =>
          (passes_plain (.ask rfl)).bind fun _ => ih
  exact (passes_plain (.ask rfl)).bind fun polls => pauses polls

theorem passes_waitForFutures (polls : Nat) : Passes (waitForFutures polls) := by
  induction polls with
  | zero => exact Passes.pure _
  | succ polls ih =>
      exact (passes_plain (.ask rfl)).bind fun _ => passes_raiseIfCancelled.bind fun _ => ih

theorem plain_collectFuture (trackfileId : Int) : (collectFuture trackfileId).Plain :=
  .bind (.tryCatch (.bind (.ask rfl) .raising) fun _ => .ask rfl) fun _ => .ask rfl

theorem passes_collectFutures (pending : List Int) : Passes (collectFutures pending) :=
  (passes_plain (.ask rfl)).bind fun _ => (passes_waitForFutures _).bind fun _ =>
    passes_plain (.bind (.ask rfl) fun _ => .bind (.forM plain_collectFuture) fun _ => .pure _)

theorem passes_drainPool (rounds : Nat) (pending : List Int) :
    Passes (drainPool rounds pending) := by
  induction rounds generalizing pending with
  | zero => exact Passes.pure _
  | succ rounds ih =>
      cases pending with
      | nil => exact Passes.pure _
      | cons first others => exact (passes_collectFutures _).bind fun pending => ih pending

theorem passes_makeRoom (workers : Nat) (pending : List Int) :
    Passes (makeRoom workers pending) := by
  rw [makeRoom]
  split
  · exact Passes.pure _
  · exact passes_collectFutures _

theorem passes_submitItems (workers : Nat) (trackfiles : List (Option Int))
    (pending : List Int) : Passes (submitItems workers trackfiles pending) := by
  induction trackfiles generalizing pending with
  | nil => exact passes_drainPool _ _
  | cons trackfileId trackfiles ih =>
      refine (passes_makeRoom _ _).bind fun pending => passes_raiseIfCancelled.bind fun _ =>
        passes_waitForImportQuiet.bind fun _ => ?_
      cases trackfileId with
      | none => exact (passes_plain (.ask rfl)).bind fun _ => ih _
      | some trackfileId =>
          refine (passes_plain (.ask rfl)).bind fun _ => (passes_ask ?_).bind fun _ => ih _
          exact fun _ _ isOpen => isOpen.take

theorem passes_executeParallelScanItems (workers : Nat) (trackfiles : List (Option Int)) :
    Passes (executeParallelScanItems workers trackfiles) := by
  refine Surroundings.Triple.bind ((passes_submitItems workers trackfiles []).tryCatch ?_)
    fun _ => passes_plain (.ask rfl)
  intro raised
  have shut : surroundings.Triple (Fail raised) (ask .libraryScan .shutdownPool)
      (fun _ => Fail raised) Fail :=
    triple_ask (stable_fail raised) fun _ _ fail _ => fail
  exact shut.bind fun _ => .throw fun _ => id

/-! ## The spectral loop -/

theorem swallowsInside_waitForImportQuiet : SwallowsInside (waitForImportQuiet .scanItem) := by
  have pauses (polls : Nat) : SwallowsInside (pauseForImports .scanItem polls) := by
    induction polls with
    | zero => exact swallowsInside_plain (.pure _)
    | succ polls ih =>
        exact swallowsInside_raiseIfCancelled.bind fun _ =>
          (swallowsInside_plain (.ask rfl)).bind fun _ =>
            (swallowsInside_plain (.ask rfl)).bind fun _ => ih
  exact (swallowsInside_plain (.ask rfl)).bind fun polls => pauses polls

theorem swallowsInside_measureSpectralItem (trackfileId : Int) :
    SwallowsInside (measureSpectralItem trackfileId) := by
  have measured : SwallowsInside (ask .scanItem (.measureItem trackfileId)) :=
    triple_ask stable_open fun _ _ isOpen _ => isOpen.take
  refine (swallowsInside_plain (.ask rfl)).bind fun terminal => ?_
  split
  · exact (swallowsInside_plain (.ask rfl)).bind fun _ =>
      swallowsInside_waitForImportQuiet.bind fun _ => (swallowsInside_plain (.ask rfl)).bind
        fun _ => measured.bind fun _ => swallowsInside_plain (.raising _)
  · exact swallowsInside_plain (.pure _)

theorem scans_scanSpectralItem (trackfileId : Option Int) :
    Scans (scanSpectralItem trackfileId) := by
  refine passes_raiseIfCancelled.scans.bind fun _ => passes_waitForImportQuiet.scans.bind
    fun _ => ?_
  cases trackfileId with
  | none => exact scans_plain (.pure _)
  | some trackfileId =>
      have handled : Scans (tryCatch (measureSpectralItem trackfileId)
          fun _ => ask .libraryScan (.upsertScanItem trackfileId)) := by
        refine Surroundings.Triple.tryCatch
          ((swallowsInside_measureSpectralItem trackfileId).imp (fun _ => id)
            (fun _ _ => .inr) fun _ _ => id) fun _ => ?_
        exact triple_orSwallowed (passes_plain (.ask rfl))
      exact handled.bind fun _ => scans_plain (.ask rfl)

theorem scans_scanTrackfiles (scan : ScanRequest) : Scans (scanTrackfiles scan) := by
  refine (scans_plain (.ask rfl)).bind fun _ => (scans_plain (plain_raiseIf _ _)).bind fun _ =>
    (passes_updateScanRun (by decide)).scans.bind fun _ => (scans_plain (.ask rfl)).bind fun _ =>
      (scans_plain (.ask rfl)).bind fun _ => (scans_plain (.raising _)).bind fun trackfiles =>
        (passes_updateScanRun (by decide)).scans.bind fun _ => ?_
  split
  · exact Scans.forM scans_scanSpectralItem
  · split
    · exact (Passes.throw _).scans
    · exact (passes_executeParallelScanItems _ _).scans

/-! ## The executor -/

/-- A cancel that was raised leaves the job and the run cancelled, and no item was taken up
after it. -/
def ScanCancelKept (watch : Watch) : Prop :=
  watch.raised = true →
    watch.job = some .cancelled ∧ watch.run = some .cancelled ∧ watch.processed = false

/-- No cancel was raised. -/
def Unraised (watch : Watch) : Prop := watch.raised = false

/-- The run is cancelled, or the database did not take it. -/
def RunCancelled (watch : Watch) : Prop :=
  watch.processed = false ∧ (watch.lost = true ∨ watch.run = some .cancelled)

/-- A scan has ended. -/
def ScanFinal (watch : Watch) : Prop := watch.lost = false → watch.ScanCancelKept

theorem Unraised.scanFinal (unraised : watch.Unraised) : watch.ScanFinal := by
  intro _ raised
  rw [show watch.raised = false from unraised] at raised
  contradiction

theorem Unraised.reportRun (unraised : watch.Unraised) {state : Queue.JobState} {stored : Bool} :
    (watch.reportRun state stored).Unraised := by
  cases stored <;> exact unraised

theorem Unraised.reportJob (unraised : watch.Unraised) {state : Queue.JobState} {stored : Bool} :
    (watch.reportJob state stored).Unraised := by
  cases stored <;> exact unraised

theorem Fail.runCancelled {error : Raised} (fail : watch.Fail error) {stored : Bool} :
    (watch.reportRun .cancelled stored).RunCancelled := by
  cases stored
  · exact ⟨fail.unprocessed, .inl (by simp [Watch.reportRun])⟩
  · exact ⟨fail.unprocessed, .inr rfl⟩

theorem RunCancelled.scanFinal (cancelled : watch.RunCancelled) {stored : Bool} :
    (watch.reportJob .cancelled stored).ScanFinal := by
  rintro found -
  cases stored with
  | false => simp [Watch.reportJob] at found
  | true =>
      rcases cancelled with ⟨unprocessed, lost | run⟩
      · rw [show watch.lost = false from found] at lost
        contradiction
      · exact ⟨rfl, run, unprocessed⟩

/-- A scan on which no cancel was raised may end as it likes. -/
theorem triple_endScan_unraised {fail : Raised → Watch → Prop} {state : Queue.JobState}
    {report : Queue.Report} :
    surroundings.Triple Unraised (endScan state report) (fun _ => ScanFinal) fail := by
  have stable : Stable Unraised := fun _ => id
  have runEnded : surroundings.Triple Unraised (ask .worker (.updateScanRun state))
      (fun _ => Unraised) fail :=
    triple_ask stable fun _ _ unraised _ => unraised.reportRun
  have jobEnded : surroundings.Triple Unraised (ask .worker (.report report))
      (fun _ => ScanFinal) fail :=
    triple_ask stable fun _ _ unraised _ => unraised.reportJob.scanFinal
  exact runEnded.bind fun _ => jobEnded.bind fun _ => .pure fun _ => id

/-- A raised cancel ends the run and the job. -/
theorem triple_endScan_cancelled {fail : Raised → Watch → Prop} :
    surroundings.Triple (Fail .cancelled) (endScan .cancelled .cancelled)
      (fun _ => ScanFinal) fail := by
  have runEnded : surroundings.Triple (Fail .cancelled)
      (ask .worker (.updateScanRun .cancelled)) (fun _ => RunCancelled) fail :=
    triple_ask (stable_fail _) fun _ _ fail _ => fail.runCancelled
  have jobEnded : surroundings.Triple RunCancelled (ask .worker (.report .cancelled))
      (fun _ => ScanFinal) fail :=
    triple_ask (fun _ => id) fun _ _ cancelled _ => cancelled.scanFinal
  exact runEnded.bind fun _ => jobEnded.bind fun _ => .pure fun _ => id

theorem Ended.unraised (ended : watch.Ended) : watch.OrSwallowed Unraised := by
  rw [OrSwallowed, Unraised, ended.raised_eq_swallowed]
  exact (Bool.eq_false_or_eq_true _)

/-- A scan keeps its cancel unless an item swallows it. -/
theorem triple_executeLibraryScanJob (scan : ScanRequest) :
    surroundings.Triple Open (executeLibraryScanJob scan) (fun _ => OrSwallowed ScanFinal)
      fun _ => OrSwallowed ScanFinal := by
  have ended {pre : Watch → Prop} {state : Queue.JobState} {report : Queue.Report}
      (weaker : ∀ watch, pre watch → watch.OrSwallowed Unraised) :
      surroundings.Triple pre (endScan state report) (fun _ => OrSwallowed ScanFinal)
        fun _ => OrSwallowed ScanFinal :=
    (triple_orSwallowed triple_endScan_unraised).imp weaker (fun _ _ => id) fun _ _ => id
  rw [executeLibraryScanJob]
  split
  · refine .bind (triple_ask stable_open ?_) fun _ => .pure fun _ => id
    exact fun watch _ isOpen _ =>
      .inr (Unraised.reportJob (show watch.Unraised from isOpen.unraised)).scanFinal
  · have checked : surroundings.Triple Open Lane.isJobCancelRequested
        (fun requested => if requested then Unraised else Open) fun _ => OrSwallowed ScanFinal :=
      triple_isJobCancelRequested_worker stable_open fun _ isOpen => isOpen.unraised
    refine checked.bind fun requested => ?_
    cases requested with
    | true => exact ended fun _ => .inr
    | false =>
        have body : surroundings.Triple Open
            (do
              scanTrackfiles scan
              endScan .completed (.completed (some "library_scan_completed") []))
            (fun _ => OrSwallowed ScanFinal) fun error => OrSwallowed (Fail error) := by
          have ended : surroundings.Triple Open
              (endScan .completed (.completed (some "library_scan_completed") []))
              (fun _ => ScanFinal) Fail :=
            triple_endScan_unraised.imp (fun _ isOpen => isOpen.unraised) (fun _ _ => id)
              fun _ _ => id
          exact .bind (scans_scanTrackfiles scan) fun _ => triple_orSwallowed ended
        refine body.tryCatch ?_
        rintro (_ | text)
        · exact triple_orSwallowed triple_endScan_cancelled
        · rintro watch (swallowed | fail)
          · exact ended (fun _ => id) watch (.inl swallowed)
          · exact ended (fun _ => id) watch fail.ended.unraised

end Watch

end Mintarr.Lane
