import Mintarr.Lane.Attempt
import Mintarr.Lane.Cancels

/-!
# Which failures are retried

Past a change of the library an exception reaches the worker in two ways: it leaves the
executor at once, or `import_to_lidarr` records it and the terminal result raises it
again.  One lemma for each function, from the last check to the worker.
-/

namespace Mintarr.Lane

open Lib Policy Import

namespace Attempt

variable {α β : Type} {row : Queue.Job} {handler : Handler}
  {fail : Raised → Attempt → Prop} {request : ImportRequest} {result : VerificationResult}

/-! ## Checks -/

/-- A check keeps what it looks at, and its cancel is never retried. -/
theorem triple_raiseIfJobCancelled {invariant : Attempt → Prop} {tracked : Bool}
    (kept : ∀ (attempt : Attempt) answer, invariant attempt →
      invariant (attempt.see row ⟨handler, .isJobCancelRequested⟩ answer))
    (raises : ∀ (before : Attempt) answer error, invariant before →
      harmless row before ⟨handler, .markDownloadCancelled⟩ answer
        (before.see row ⟨handler, .markDownloadCancelled⟩ answer) = true →
      (∀ text, error = .error text → answer = .error text) →
        fail error (before.see row ⟨handler, .markDownloadCancelled⟩ answer)) :
    (calm row).Triple invariant (raiseIfJobCancelled tracked handler)
      (fun _ => invariant) fail := by
  cases tracked with
  | false => exact .pure fun _ => id
  | true =>
      have asked : (calm row).Triple invariant (ask handler .isJobCancelRequested)
          (fun _ => invariant) fail := by
        refine .ask ?_
        rintro before answer after holds ⟨⟨_, rfl⟩, _⟩
        exact kept before answer holds
      have marked : (calm row).Triple invariant (ask handler .markDownloadCancelled)
          (fun answer attempt => ∀ error, (∀ text, error = .error text → answer = .error text) →
            fail error attempt) fail := by
        refine .ask ?_
        rintro before answer after holds ⟨⟨_, rfl⟩, harmless⟩ error same
        exact raises before answer error holds harmless same
      refine asked.bind ?_
      rintro (text | _ | _)
      · exact .pure fun _ => id
      · exact .pure fun _ => id
      · refine marked.bind ?_
        rintro (text | _)
        · refine .throw fun _ holds => holds _ ?_
          rintro other ⟨⟩
          rfl
        · refine Surroundings.Triple.throw fun _ holds => holds _ ?_
          rintro text ⟨⟩

theorem triple_check_caught {tracked : Bool} :
    (calm row).Triple (Fine row) (raiseIfJobCancelled tracked handler)
      (fun _ => Fine row) Caught :=
  triple_raiseIfJobCancelled (fun _ _ => id) fun _ _ _ fine _ _ => fine.1

theorem triple_check_executor {tracked : Bool} :
    (calm row).Triple Unretried (raiseIfJobCancelled tracked .executor)
      (fun _ => Unretried) (Permanent row) := by
  refine triple_raiseIfJobCancelled (fun _ _ => id) ?_
  rintro before answer error unretried calm same
  refine ⟨unretried, ?_⟩
  rintro mutated text rfl
  rw [same text rfl] at calm mutated
  have untransient : (!(true && Queue.isTransientFailure row text)) = true := mutated ▸ calm
  simpa only [Bool.true_and, Bool.not_eq_true'] using untransient

/-- A check before any change of the library. -/
theorem triple_check_before {tracked : Bool} :
    (calm row).Triple (Before row) (raiseIfJobCancelled tracked handler)
      (fun _ => Before row) fun _ => Unmutated :=
  triple_raiseIfJobCancelled (fun _ _ => id) fun _ _ _ before _ _ => before.1

/-! ## The import -/

/-- A program of ordinary calls under a handler that catches everything. -/
theorem triple_raising_caught {answer : Except String α} :
    (calm row).Triple (Fine row) (raising answer) (fun _ => Fine row) Caught := by
  cases answer with
  | ok value => exact .pure fun _ => id
  | error text => exact .throw fun _ fine => fine.1

theorem triple_ask_fine {op : Op} (ordinary : op.ordinary = true) :
    (calm row).Triple (Fine row) (ask handler op) (fun _ => Fine row) fail := by
  refine .ask ?_
  rintro before answer after fine ⟨⟨_, rfl⟩, _⟩
  exact fine_see ordinary fine

theorem triple_rescuePlaceAndRescan {tracked : Bool} (files : List ImportFile) :
    (calm row).Triple (Fine row) (rescuePlaceAndRescan tracked handler files)
      (fun _ => Fine row) Caught :=
  triple_check_caught.bind fun _ => triple_fine raises_caught (relays_placeAndRescan files)

/-- The texts of a failed import. -/
theorem permanent_rescue :
    Queue.isTransientFailure row "manualimport and rescue failed" = false :=
  not_transient_of_marker "manualimport and rescue failed" (by simp [Queue.permanentErrorMarkers])
    ⟨[], [], by simp [Queue.lowerChar]⟩

theorem permanent_noCandidates :
    Queue.isTransientFailure row "manualimport returned no candidates" = false :=
  not_transient_of_marker "manualimport returned no candidates"
    (by simp [Queue.permanentErrorMarkers]) ⟨[], [], by simp [Queue.lowerChar]⟩

theorem permanent_noCandidates_rescue : Queue.isTransientFailure row
    "manualimport returned no candidates and rescue failed" = false :=
  not_transient_of_marker "manualimport returned no candidates"
    (by simp [Queue.permanentErrorMarkers])
    ⟨[], " and rescue failed".toList, by simp [Queue.lowerChar]⟩

theorem triple_titleRescue (audits : List Int) :
    (calm row).Triple (Fine row) (titleRescue request result audits)
      (fun _ => Fine row) Caught := by
  refine (triple_ask_fine rfl).bind fun _ => triple_raising_caught.bind fun hits => ?_
  split
  · exact .pure fun _ => id
  · refine (triple_ask_fine rfl).bind fun _ => triple_raising_caught.bind fun albums => ?_
    split
    · exact .pure fun _ => id
    · refine (triple_ask_fine rfl).bind fun _ => triple_raising_caught.bind fun paths => ?_
      dsimp only
      split
      · exact .pure fun _ => id
      · refine (triple_rescuePlaceAndRescan _).bind fun rescued =>
          (triple_fine raises_caught (relays_recordJobTiming _)).bind fun _ => ?_
        cases rescued with
        | true => exact .pure fun _ => id
        | false =>
            refine .bind ?_ fun _ => .pure fun _ => id
            exact (triple_closeFailed raises_caught permanent_noCandidates_rescue audits).imp
              (fun _ fine => fine.1) (fun _ _ => id) fun _ _ => id

theorem triple_zeroCandidates (audits : List Int) :
    (calm row).Triple (Fine row) (zeroCandidates request result audits)
      (fun _ => Fine row) (Noted row) := by
  have caught : (calm row).Triple (Fine row)
      (tryCatch (titleRescue request result audits) fun _ => pure false)
      (fun ended => if ended then Fine row else Unretried) (Noted row) := by
    refine Surroundings.Triple.tryCatch ((triple_titleRescue audits).imp (fun _ => id) ?_
      fun _ _ => id) fun _ => .pure fun _ => id
    intro ended attempt fine
    cases ended with
    | true => exact fine
    | false => exact fine.1
  refine caught.bind fun ended => ?_
  cases ended with
  | true => exact .pure fun _ => id
  | false => exact triple_failImport raises_importToLidarr permanent_noCandidates audits

theorem triple_rescueAfterManualImport (audits : List Int) (files : List ImportFile) :
    (calm row).Triple (Fine row) (rescueAfterManualImport request result audits files)
      (fun _ => Fine row) (Noted row) := by
  have failed {handler : Handler} {fail : Raised → Attempt → Prop}
      (raises : Raises row handler fail) : (calm row).Triple Unretried
        (failImport handler request result audits "manualimport and rescue failed")
        (fun _ => Fine row) fail :=
    triple_failImport raises permanent_rescue audits
  have rescued : (calm row).Triple (Fine row)
      (do
        if ← rescuePlaceAndRescan true .rescue files then
          completeImport .rescue request result .rescued
        else
          failImport .rescue request result audits "manualimport and rescue failed")
      (fun _ => Fine row) Caught := by
    refine (triple_rescuePlaceAndRescan files).bind fun rescued => ?_
    cases rescued with
    | true => exact triple_fine raises_caught (relays_completeImport _)
    | false =>
        exact (failed raises_caught).imp (fun _ fine => fine.1) (fun _ _ => id) fun _ _ => id
  exact rescued.tryCatch fun _ => failed raises_importToLidarr

/-- The end of an import that Lidarr has still to run. -/
theorem triple_leavePending (audits : List Int) :
    (calm row).Triple (Fine row) (leavePending request result audits)
      (fun _ => Fine row) (Noted row) :=
  (triple_fine raises_importToLidarr (relays_recordJobTiming _)).bind fun _ =>
    (triple_ask_fine rfl).bind fun _ =>
      (triple_fine raises_importToLidarr (relays_maybeWriteV2Sidecar false)).bind fun _ =>
        (triple_restoreReleaseSwitches audits fun _ _ _ => id).bind fun _ =>
          triple_fine raises_importToLidarr (relays_saveJobs rfl)

/-- Past its command an import raises only what calls answer. -/
theorem triple_postManualImport (audits : List Int) (files : List ImportFile) :
    (calm row).Triple (Before row) (postManualImport request result audits files)
      (fun _ => Settled row) (Noted row) := by
  have counted : (calm row).Triple (Before row) (ask .importToLidarr .preCounts)
      (fun _ => Before row) (Noted row) := by
    refine .ask ?_
    rintro before answer after holds ⟨⟨_, rfl⟩, _⟩
    exact holds
  have checked : (calm row).Triple (Before row) (raiseIfJobCancelled true .importToLidarr)
      (fun _ => Fine row) (Noted row) :=
    triple_check_before.imp (fun _ => id) (fun _ _ => And.right) fun error _ unmutated =>
      unmutated.noted error
  have asked {op : Op} (ordinary : op.ordinary = true) : (calm row).Triple (Fine row)
      (ask .importToLidarr op) (Answered (Noted row) (Fine row) op) (Noted row) :=
    triple_ask raises_importToLidarr (fun _ => And.left) fun _ _ => fine_see ordinary
  refine counted.bind fun _ => checked.bind fun _ => (asked rfl).bind fun _ =>
    (triple_raise (by rintro text rfl; rfl)).bind fun _ =>
      (triple_fine raises_importToLidarr (relays_setWorkerProgress _)).bind fun _ =>
        (asked rfl).bind fun _ => (triple_raise (by rintro text rfl; rfl)).bind
          fun imported => ?_
  have ended : (calm row).Triple (Fine row)
      (if imported ≥ max 1 files.length then
        completeImport .importToLidarr request result .manualImported
      else do
        if ← raising (← ask .importToLidarr .commandPending) then
          leavePending request result audits
        else rescueAfterManualImport request result audits files)
      (fun _ => Fine row) (Noted row) := by
    split
    · exact triple_fine raises_importToLidarr (relays_completeImport _)
    · refine (asked rfl).bind fun _ => (triple_raise (by rintro text rfl; rfl)).bind
        fun pending => ?_
      cases pending with
      | true => exact triple_leavePending audits
      | false => exact triple_rescueAfterManualImport audits files
  exact ended.imp (fun _ => id) (fun _ _ fine => fine.settled) fun _ _ => id

theorem keeps_of_plain {op : Op} (plain : op.plain = true) :
    op.mutates = false ∧ decides op = false := by
  cases op <;> first | exact ⟨rfl, rfl⟩ | simp [Op.plain, Op.processes] at plain

theorem triple_unmutated_plain {program : Work α} (plain : program.Plain) :
    (calm row).Triple Unmutated program (fun _ => Unmutated) fun _ => Unmutated :=
  triple_unmutated (plain.imp (fun _ => keeps_of_plain) fun _ => id)

/-- Before any change of the library a program of ordinary calls keeps the projection fine. -/
theorem triple_before {program : Work α} (plain : program.Plain)
    (relays : program.Relays .importToLidarr) :
    (calm row).Triple (Before row) program (fun _ => Before row) fun _ => Unmutated :=
  ((triple_unmutated_plain plain).and (triple_fine raises_importToLidarr relays)).imp
    (fun _ => id) (fun _ _ => id) fun _ _ => And.left

/-- A failed import that has not changed the library. -/
theorem triple_failImport_before (audits : List Int) (reason : String) :
    (calm row).Triple (Before row) (failImport .importToLidarr request result audits reason)
      (fun _ => Settled row) (Noted row) :=
  (triple_unmutated_plain (plain_failImport audits reason)).imp (fun _ => And.left)
    (fun _ _ unmutated => unmutated.settled) fun error _ unmutated => unmutated.noted error

theorem triple_raising_before {answer : Except String α} :
    (calm row).Triple (Before row) (raising answer) (fun _ => Before row) (Noted row) := by
  cases answer with
  | ok value => exact .pure fun _ => id
  | error text => exact .throw fun _ before => before.1.noted _

theorem triple_importCandidates (target : Queue.Scalar) (audits : List Int)
    (items : List ManualImportItem) :
    (calm row).Triple (Before row) (importCandidates request target result audits items)
      (fun _ => Settled row) (Noted row) := by
  have relays : (manualimportTargetGuardFailure request target items).Relays .importToLidarr := by
    unfold manualimportTargetGuardFailure
    split
    · exact .pure _
    · split
      · exact .ask rfl
      · exact .pure _
  have guarded : (calm row).Triple (Before row)
      (manualimportTargetGuardFailure request target items) (fun _ => Before row) (Noted row) :=
    (triple_before (plain_manualimportTargetGuardFailure _ _) relays).imp (fun _ => id)
      (fun _ _ => id) fun error _ unmutated => unmutated.noted error
  refine guarded.bind fun guarded => ?_
  cases guarded with
  | some reason => exact triple_failImport_before audits reason
  | none =>
      refine triple_raising_before.bind fun files => ?_
      split
      · exact triple_failImport_before audits _
      · exact triple_postManualImport audits files

/-- A call before any change of the library. -/
theorem triple_ask_before {op : Op} (plain : op.plain = true) (ordinary : op.ordinary = true) :
    (calm row).Triple (Before row) (ask .importToLidarr op) (fun _ => Before row) (Noted row) :=
  (triple_before (.ask plain) (.ask ordinary)).imp (fun _ => id) (fun _ _ => id)
    fun error _ unmutated => unmutated.noted error

theorem triple_manualImport (target : Queue.Scalar) (audits : List Int) :
    (calm row).Triple (Before row) (manualImport request target result audits)
      (fun _ => Settled row) (Noted row) := by
  have progressed : (calm row).Triple (Before row)
      (setWorkerProgress .importToLidarr "manualimport_lookup") (fun _ => Before row) (Noted row) :=
    (triple_before (plain_setWorkerProgress _) (relays_setWorkerProgress _)).imp (fun _ => id)
      (fun _ _ => id) fun error _ unmutated => unmutated.noted error
  refine progressed.bind fun _ => (triple_ask_before rfl rfl).bind fun _ =>
    triple_raising_before.bind fun ⟨status, body⟩ => ?_
  dsimp only
  split
  · exact triple_failImport_before audits _
  · refine triple_raising_before.bind fun items => ?_
    split
    · exact (triple_zeroCandidates audits).imp (fun _ => And.right)
        (fun _ _ fine => fine.settled) fun _ _ => id
    · exact triple_importCandidates target audits items

theorem triple_switchAndImport (target : Queue.Scalar) (items : List ManualImportItem) :
    (calm row).Triple (Before row) (switchAndImport request target items result)
      (fun _ => Settled row) (Noted row) := by
  have switched : (calm row).Triple (Before row) (maybeAutoReleaseSwitch request items result)
      (fun _ => Before row) (Noted row) := by
    refine (Surroundings.Triple.of_within (within_maybeAutoReleaseSwitch items) ?_).imp
      (fun _ => id) (fun _ _ => id) fun _ _ ⟨impossible, _⟩ => impossible.elim
    rintro before ⟨handler, op⟩ answer after switching holds ⟨⟨_, rfl⟩, _⟩
    cases op <;> first | exact holds | simp [Op.switching] at switching
  refine switched.bind fun audits => ?_
  split
  · exact (triple_ask_before rfl rfl).bind fun _ => triple_raising_before.bind fun _ =>
      triple_manualImport target audits
  · exact triple_manualImport target audits

/-- A failed step that has not changed the library. -/
theorem triple_plain_before {program : Work α} (plain : program.Plain) :
    (calm row).Triple (Before row) program (fun _ => Unmutated) (Noted row) :=
  (triple_unmutated_plain plain).imp (fun _ => And.left) (fun _ _ => id)
    fun error _ unmutated => unmutated.noted error

/-- A candidate that the gates let through has not changed anything. -/
theorem triple_passGates (context : ImportContext) :
    (calm row).Triple (Before row) (passGates context)
      (fun passed => match passed with
        | none => Unmutated
        | some _ => Before row) (Noted row) := by
  cases gates : context.gates with
  | raised =>
      rw [passGates, gates]
      exact (triple_ask_before rfl rfl).bind fun text => .throw fun _ before => before.1.noted _
  | stopped events result =>
      rw [passGates, gates]
      dsimp only
      split
      · exact (triple_plain_before (.forM plain_performEvent)).bind fun _ => .pure fun _ => id
      · exact (triple_ask_before rfl rfl).bind fun _ =>
          (triple_plain_before plain_createReviewRequired).bind fun _ => .pure fun _ => id
  | proceeds events result =>
      rw [passGates, gates]
      have relays : Work.Relays .importToLidarr (events.forM (performEvent result)) :=
        Program.Relays.forM fun event member =>
          relays_performEvent (passes_of_gates gates event member)
      refine .bind ?_ fun _ => .pure fun _ => id
      exact (triple_before (.forM plain_performEvent) relays).imp (fun _ => id) (fun _ _ => id)
        fun error _ unmutated => unmutated.noted error

theorem triple_triggerLidarrImport :
    (calm row).Triple (Before row) (triggerLidarrImport request) (fun _ => Settled row)
      (Noted row) := by
  have checked : (calm row).Triple (Before row) (raiseIfJobCancelled true .importToLidarr)
      (fun _ => Before row) (Noted row) :=
    triple_check_before.imp (fun _ => id) (fun _ _ => id) fun error _ unmutated =>
      unmutated.noted error
  refine checked.bind fun _ => (triple_ask_before rfl rfl).bind fun key => ?_
  cases key with
  | false => exact .pure fun _ before => before.1.settled
  | true =>
      have targeted : (calm row).Triple (Before row) (resolveTarget request)
          (fun _ => Before row) (Noted row) :=
        (triple_before plain_resolveTarget relays_resolveTarget).imp (fun _ => id)
          (fun _ _ => id) fun error _ unmutated => unmutated.noted error
      have evaluated : (calm row).Triple (Before row) (evaluate request)
          (fun _ => Before row) (Noted row) :=
        (triple_before plain_evaluate relays_evaluate).imp (fun _ => id)
          (fun _ _ => id) fun error _ unmutated => unmutated.noted error
      refine targeted.bind fun target => evaluated.bind fun context =>
        (triple_passGates context).bind fun passed => ?_
      cases passed with
      | none => exact .pure fun _ unmutated => unmutated.settled
      | some result => exact triple_switchAndImport target _

/-! ## The executors -/

/-- What is settled stays so where nothing is written. -/
theorem settled_see {attempt : Attempt} {op : Op} {answer : op.Answer}
    (same : attempt.write op answer = attempt) (settled : attempt.Settled row) :
    (attempt.see row ⟨handler, op⟩ answer).Settled row := by
  simp only [see, same]
  refine ⟨settled.1, fun mutated => ?_⟩
  rcases settled.2 mutated with suspect | fine
  · exact .inl (by simp [suspect])
  · exact .inr fine

theorem triple_importToLidarr :
    (calm row).Triple (Before row) (importToLidarr request) (fun _ => Settled row)
      (Permanent row) := by
  have checked : (calm row).Triple (Before row) (raiseIfJobCancelled true .executor)
      (fun _ => Before row) (Permanent row) :=
    triple_check_before.imp (fun _ => id) (fun _ _ => id) fun error _ unmutated =>
      unmutated.permanent error
  have body : (calm row).Triple (Before row)
      (do
        triggerLidarrImport request
        setWorkerProgress .importToLidarr "finalizing")
      (fun _ => Settled row) (Noted row) :=
    triple_triggerLidarrImport.bind fun _ =>
      (triple_ask raises_importToLidarr (fun _ => And.left) fun _ _ => settled_see rfl).bind
        fun _ => triple_raise (by rintro text rfl; rfl)
  refine checked.bind fun _ => body.tryCatch ?_
  rintro (_ | text)
  · refine .throw fun _ noted => ⟨noted.1, ?_⟩
    rintro _ text ⟨⟩
  · have failed : (calm row).Triple (Noted row (.error text))
        (ask .executor (.saveJobs
          { status := some .failed, error := some (recorded text), lidarrHold := some false }))
        (Answered (Permanent row) (Settled row) _) (Permanent row) := by
      refine triple_ask raises_executor (fun _ => And.left) fun attempt answer noted => ?_
      refine ⟨noted.1, fun mutated => ?_⟩
      rcases noted.2 mutated text rfl with suspect | permanent
      · exact .inl (by simp [see, write, suspect])
      · exact .inr ⟨noted.1, fun _ => ⟨_, rfl, permanent⟩⟩
    exact failed.bind fun answer => triple_raise (by rintro text rfl; rfl)

/-- A suspect import has been found out, where `found` says so. -/
def FoundOut (row : Queue.Job) (found : Bool) (attempt : Attempt) : Prop :=
  attempt.Settled row ∧ (found = false → attempt.suspect = false)

/-- A call of the terminal result; what it does not read was not needed. -/
theorem triple_ask_terminal {op : Op}
    (same : ∀ (attempt : Attempt) answer, attempt.write op answer = attempt) :
    (calm row).Triple (Settled row) (ask .terminalResult op)
      (fun answer => FoundOut row (!unread op answer)) fail := by
  refine .ask ?_
  rintro before answer after settled ⟨⟨_, rfl⟩, calm⟩
  refine ⟨settled_see (same before answer) settled, fun missing => ?_⟩
  have read : unread op answer = true := by simpa using missing
  have unsuspected : before.suspect = false := by simpa [harmless, read] using calm
  simp [see, same, suspects, unsuspected]

theorem triple_raise_terminal {op : Op} {answer : op.Answer} {value : Except String α}
    (exception : ∀ text, value = .error text → unread op answer = true) :
    (calm row).Triple (FoundOut row (!unread op answer)) (raising value)
      (fun _ => Settled row) fun _ => FoundOut row false := by
  cases value with
  | ok value => exact .pure fun _ => And.left
  | error text =>
      exact .throw fun _ foundOut => ⟨foundOut.1, fun _ => foundOut.2 (by simp [exception text rfl])⟩

/-- Without a terminal state of the sidecar, the import was not suspect. -/
theorem triple_sidecarTerminalResult :
    (calm row).Triple (Settled row) sidecarTerminalResult
      (fun found => FoundOut row found.isSome) fail := by
  have settled : ∀ attempt : Attempt, attempt.Settled row → attempt.FoundOut row true :=
    fun _ settled => ⟨settled, by simp⟩
  refine .tryCatch (?_ : (calm row).Triple _ _ _ fun _ => FoundOut row false)
    fun _ => .pure fun _ => id
  refine (triple_ask_terminal fun _ _ => rfl).bind fun found => ?_
  cases found with
  | none => exact .pure fun _ => id
  | some found =>
      rcases found with ⟨place, record⟩
      refine .bind ((triple_ask_terminal fun _ _ => rfl).imp (fun _ => And.left)
        (fun _ _ => And.left) fun _ _ => id) fun entry => ?_
      refine (triple_ask_terminal fun _ _ => rfl).bind fun progress =>
        (triple_raise_terminal (by rintro text rfl; rfl)).bind fun terminal => ?_
      rcases terminal with ⟨resultState, stage⟩
      refine .bind ?_ fun _ => .pure settled
      exact (triple_ask_terminal fun _ _ => rfl).bind fun _ =>
        triple_raise_terminal (by rintro text rfl; rfl)

/-- The terminal result raises the recorded error only where that is permanent. -/
theorem triple_sourceGrabTerminalResult :
    (calm row).Triple (Settled row) sourceGrabTerminalResult (fun _ => Unretried)
      (Permanent row) := by
  refine triple_sidecarTerminalResult.bind fun found => ?_
  cases found with
  | some resultState => exact .pure fun _ foundOut => foundOut.1.1
  | none =>
      have read : (calm row).Triple (FoundOut row false) (ask .executor .readJob)
          (fun entry attempt => entry = attempt.entry ∧ attempt.FoundOut row false)
          (Permanent row) := by
        refine .ask ?_
        rintro before answer after foundOut ⟨⟨same, rfl⟩, _⟩
        exact ⟨same, settled_see rfl foundOut.1, fun _ => by simp [see, write, suspects, foundOut.2]⟩
      refine read.bind fun entry => ?_
      split
      · next failed =>
          refine .throw fun attempt foundOut => ?_
          rcases foundOut with ⟨same, settled, unsuspected⟩
          refine ⟨settled.1, ?_⟩
          rintro mutated text ⟨⟩
          rcases settled.2 mutated with suspect | fine
          · simp [unsuspected] at suspect
          · rcases fine.2 (same ▸ failed) with ⟨text, error, permanent⟩
            simpa [same, error] using permanent
      · exact .bind ((triple_unretried raises_executor (relays_setWorkerProgress _)).imp
          (fun _ holds => holds.2.1.1) (fun _ _ => id) fun _ _ => id) fun _ => .pure fun _ => id

theorem keeps_of_prepares {op : Op} (prepares : op.prepares = true) :
    op.mutates = false ∧ decides op = false := by
  cases op <;> first | exact ⟨rfl, rfl⟩ | simp [Op.prepares] at prepares

/-- The part of a grab before the import. -/
theorem triple_prepares {program : Work α} (prepares : program.Prepares) :
    (calm row).Triple Unmutated program (fun _ => Unmutated) (Permanent row) :=
  (triple_unmutated (prepares.imp (fun _ => keeps_of_prepares) fun _ => id)).imp (fun _ => id)
    (fun _ _ => id) fun error _ unmutated => unmutated.permanent error

theorem triple_downloadAndPrepare (adapter : Adapter) (slskd : Bool) :
    (calm row).Triple Unmutated (downloadAndPrepare adapter slskd) (fun _ => Before row)
      (Permanent row) := by
  have ready : (calm row).Triple Unmutated (saveJobs .executor { status := some .processing })
      (fun _ => Before row) (Permanent row) := by
    refine (triple_ask raises_executor (fun _ before => before.1.1)
      fun attempt answer unmutated => ?_).bind fun _ => triple_raise (by rintro text rfl; rfl)
    refine ⟨unmutated_see rfl rfl unmutated, unmutated.1, fun failed => ?_⟩
    simp [see, write, JobEntry.update] at failed
  exact (triple_prepares (prepares_saveJobs _)).bind fun _ =>
    (triple_prepares (prepares_setWorkerProgress _)).bind fun _ =>
      (triple_prepares (prepares_downloadHandled adapter slskd)).bind fun _ =>
        (triple_prepares (prepares_recordJobTiming _)).bind fun _ =>
          (triple_prepares (prepares_raiseIfJobCancelled true)).bind fun _ =>
            (triple_prepares (prepares_saveJobs _)).bind fun _ =>
              (triple_prepares prepares_normalizeAudio).bind fun _ =>
                (triple_prepares (prepares_raiseIfJobCancelled true)).bind fun _ =>
                  (triple_prepares prepares_prepareOutputDirectory).bind fun _ =>
                    (triple_prepares (prepares_recordJobTiming _)).bind fun _ =>
                      (triple_prepares (prepares_recordJobTiming _)).bind fun _ =>
                        (triple_prepares (prepares_setWorkerProgress _)).bind fun _ => ready

theorem triple_executeSourceGrabJob (grab : GrabRequest) :
    (calm row).Triple Unmutated (executeSourceGrabJob grab) (fun _ => Unretried)
      (Permanent row) := by
  unfold executeSourceGrabJob
  split
  · exact .throw fun _ unmutated => unmutated.permanent _
  · refine (triple_prepares (.ask rfl)).bind fun registered => ?_
    cases registered with
    | false => exact .throw fun _ unmutated => unmutated.permanent _
    | true =>
        exact (triple_prepares (prepares_act _)).bind fun _ =>
          (triple_downloadAndPrepare _ _).bind fun _ => triple_importToLidarr.bind fun _ =>
            triple_sourceGrabTerminalResult

/-- The mirror of a backend job does not matter here. -/
theorem triple_mirrorBackendIngestOutcome {invariant : Attempt → Prop}
    (kept : ∀ (attempt : Attempt) (call : Call) answer, call.op.plain = true →
      invariant attempt → invariant (attempt.see row call answer))
    (state : Backend.BackendState) :
    (calm row).Triple invariant (mirrorBackendIngestOutcome state) (fun _ => invariant) fail := by
  refine (Surroundings.Triple.of_within (within_mirrorBackendIngestOutcome state) ?_).imp
    (fun _ => id) (fun _ _ => id) fun _ _ ⟨impossible, _⟩ => impossible.elim
  rintro before call answer after plain holds ⟨⟨_, rfl⟩, _⟩
  exact kept before call answer plain holds

theorem triple_executeBackendCompletedGrabJob (grab : GrabRequest) :
    (calm row).Triple Unmutated (executeBackendCompletedGrabJob grab) (fun _ => Unretried)
      (Permanent row) := by
  have mirrored : (calm row).Triple Unmutated
      (tryCatch (executeSourceGrabJob grab) fun raised => do
        mirrorBackendIngestOutcome .failed
        throw raised)
      (fun _ => Unretried) (Permanent row) := by
    refine (triple_executeSourceGrabJob grab).tryCatch fun raised => ?_
    refine .bind (triple_mirrorBackendIngestOutcome ?_ _) fun _ => .throw fun _ => id
    rintro attempt call answer plain permanent
    have keeps := keeps_of_plain plain
    refine ⟨unretried_see keeps.2 permanent.1, fun mutated => permanent.2 ?_⟩
    rcases call with ⟨handler, op⟩
    cases op <;> first | exact mutated | simp [Op.mutates] at keeps
  refine mirrored.bind fun resultState => ?_
  refine .bind (triple_unretried raises_executor (.ask rfl)) fun entry => ?_
  refine .bind (triple_mirrorBackendIngestOutcome ?_ _) fun _ => .pure fun _ => id
  exact fun attempt call answer plain => unretried_see (keeps_of_plain plain).2

/-! ## Promote and retry -/

theorem triple_failManualImport :
    (calm row).Triple Unretried (failManualImport .executor) (fun _ => Unretried)
      (Permanent row) := by
  have failed : (calm row).Triple Unretried
      (markImportFailed .executor "manual promote import failed") (fun _ => Unretried)
      (Permanent row) :=
    (triple_ask raises_executor (fun _ => id) fun _ _ => id).bind fun _ =>
      triple_raise (by rintro text rfl; rfl)
  exact failed.bind fun _ =>
    (triple_unretried raises_executor (relays_setWorkerProgress _)).bind fun _ =>
      (triple_unretried raises_executor relays_cleanupLidarrQueue).bind fun _ => .pure fun _ => id

theorem triple_confirmManualImport {tracked : Bool} (files : List ImportFile) :
    (calm row).Triple Unretried (confirmManualImport tracked .executor files)
      (fun _ => Unretried) (Permanent row) := by
  have progressed (stage : String) : (calm row).Triple Unretried
      (setWorkerProgress .executor stage) (fun _ => Unretried) (Permanent row) :=
    triple_unretried raises_executor (relays_setWorkerProgress stage)
  have completed : (calm row).Triple Unretried (markImportCompleted .executor)
      (fun _ => Unretried) (Permanent row) :=
    triple_unretried raises_executor relays_markImportCompleted
  have asked {op : Op} (ordinary : op.ordinary = true) : (calm row).Triple Unretried
      (ask .executor op) (Answered (Permanent row) Unretried op) (Permanent row) :=
    triple_ask raises_executor (fun _ => id) fun _ _ =>
      unretried_see (decides_of_ordinary ordinary)
  refine triple_check_executor.bind fun _ => (progressed _).bind fun _ =>
    (asked rfl).bind fun _ => (triple_raise (by rintro text rfl; rfl)).bind fun imported => ?_
  split
  · exact (progressed _).bind fun _ => completed.bind fun _ => (progressed _).bind fun _ =>
      .pure fun _ => id
  · refine (asked rfl).bind fun _ => (triple_raise (by rintro text rfl; rfl)).bind
      fun pending => ?_
    cases pending with
    | true =>
        exact (triple_unretried raises_executor (relays_saveJobs rfl)).bind fun _ =>
          .pure fun _ => id
    | false =>
        refine triple_check_executor.bind fun _ => (progressed _).bind fun _ =>
          (triple_check_executor.bind fun _ =>
            triple_unretried raises_executor (relays_placeAndRescan files)).bind
              fun rescued => ?_
        cases rescued with
        | true =>
            exact completed.bind fun _ => (progressed _).bind fun _ => .pure fun _ => id
        | false => exact triple_failManualImport

theorem triple_plain_executor {program : Work α} (plain : program.Plain) :
    (calm row).Triple Unmutated program (fun _ => Unmutated) (Permanent row) :=
  (triple_unmutated_plain plain).imp (fun _ => id) (fun _ _ => id) fun error _ unmutated =>
    unmutated.permanent error

theorem triple_check_unmutated {tracked : Bool} :
    (calm row).Triple Unmutated (raiseIfJobCancelled tracked .executor)
      (fun _ => Unmutated) (Permanent row) :=
  triple_prepares (prepares_raiseIfJobCancelled tracked)

theorem triple_runManualImportOnly {tracked : Bool} :
    (calm row).Triple Unmutated (runManualImportOnly tracked .executor)
      (fun _ => Unretried) (Permanent row) := by
  refine (triple_plain_executor (plain_setWorkerProgress _)).bind fun _ =>
    triple_check_unmutated.bind fun _ => (triple_plain_executor (.ask rfl)).bind fun key => ?_
  split
  · exact .pure fun _ => And.left
  · refine (triple_plain_executor (.ask rfl)).bind fun _ =>
      (triple_plain_executor (.raising _)).bind fun ⟨status, body⟩ => ?_
    dsimp only
    split
    · exact .pure fun _ => And.left
    · refine triple_check_unmutated.bind fun _ => (triple_plain_executor (.raising _)).bind
        fun items => (triple_plain_executor (.raising _)).bind fun files => ?_
      split
      · exact .pure fun _ => And.left
      · have posted : (calm row).Triple Unmutated (ask .executor (.postManualImport files))
            (Answered (Permanent row) Unretried _) (Permanent row) :=
          triple_ask raises_executor (fun _ => id) fun _ _ => And.left
        exact triple_check_unmutated.bind fun _ =>
          (triple_plain_executor (plain_setWorkerProgress _)).bind fun _ =>
            (triple_plain_executor (.ask rfl)).bind fun _ => posted.bind fun _ =>
              (triple_raise (by rintro text rfl; rfl)).bind fun _ =>
                triple_confirmManualImport files

/-- The texts with which promote and retry answer an operator are not transient. -/
def Answers (row : Queue.Job) (result : ActionResult) (attempt : Attempt) : Prop :=
  attempt.Unretried ∧ Queue.isTransientFailure row result.error = false

theorem answers_pure {result : ActionResult} (text : String) (answered : result.error = text)
    (unmarked : Queue.containsMarker Queue.transientErrorMarkers
      (text.toList.flatMap Queue.lowerChar) = false)
    {pre : Attempt → Prop} (unretried : ∀ attempt : Attempt, pre attempt → attempt.Unretried) :
    (calm row).Triple pre (pure result) (Answers row) (Permanent row) :=
  .pure fun attempt holds =>
    ⟨unretried attempt holds, answered ▸ not_transient_of_unmarked unmarked⟩

/-- Without an error there is nothing to mark. -/
theorem unmarked_empty : Queue.containsMarker Queue.transientErrorMarkers
    ("".toList.flatMap Queue.lowerChar) = false := by
  simp [Queue.containsMarker, Queue.transientErrorMarkers]

/-- The import of promote and retry, and the sidecar after it. -/
theorem triple_importAndRecord {tracked : Bool} {place : SidecarPlace}
    {record : ImportOutcome → SidecarRecord} :
    (calm row).Triple Unmutated
      (do
        let outcome ← runManualImportOnly tracked .executor
        ask .executor (.setV2ImportOutcome outcome)
        raising (← ask .executor (.writeSidecar place (record outcome)))
        pure { status := 200, outcome := some outcome })
      (Answers row) (Permanent row) := by
  refine triple_runManualImportOnly.bind fun outcome =>
    (triple_unretried raises_executor (.ask rfl)).bind fun _ => ?_
  refine (triple_ask raises_executor (fun _ => id) fun _ _ => id).bind fun _ =>
    (triple_raise (by rintro text rfl; rfl)).bind fun _ => ?_
  exact answers_pure "" rfl unmarked_empty fun _ => id

theorem triple_promoteVerifiedImport {tracked : Bool} (place : SidecarPlace)
    (record : SidecarRecord) :
    (calm row).Triple Unmutated (promoteVerifiedImport tracked .executor place record)
      (Answers row) (Permanent row) := by
  unfold promoteVerifiedImport
  split
  · exact answers_pure "" rfl unmarked_empty fun _ => And.left
  · split
    · exact answers_pure "verification is not promotable" rfl (by decide +kernel) fun _ => And.left
    · exact triple_check_unmutated.bind fun _ => (triple_plain_executor (.ask rfl)).bind
        fun _ => (triple_plain_executor (.raising _)).bind fun _ => triple_importAndRecord

theorem triple_retryVerifiedImport {tracked : Bool} (place : SidecarPlace)
    (record : SidecarRecord) :
    (calm row).Triple Unmutated (retryVerifiedImport tracked .executor place record)
      (Answers row) (Permanent row) := by
  unfold retryVerifiedImport
  split
  · exact answers_pure "" rfl unmarked_empty fun _ => And.left
  · split
    · exact answers_pure "verification is not retryable" rfl (by decide +kernel) fun _ => And.left
    · refine (triple_plain_executor (.ask rfl)).bind fun existing => ?_
      split
      · exact answers_pure "output directory missing" rfl (by decide +kernel) fun _ => And.left
      · exact triple_check_unmutated.bind fun _ =>
          (triple_plain_executor (plain_saveJobs _)).bind fun _ => triple_importAndRecord

theorem triple_executeVerificationAction {name jid : String}
    {action : SidecarPlace → SidecarRecord → Work ActionResult}
    (answers : ∀ place record, (calm row).Triple Unmutated (action place record)
      (Answers row) (Permanent row)) :
    (calm row).Triple Unmutated (executeVerificationAction name jid action)
      (fun _ => Unretried) (Permanent row) := by
  unfold executeVerificationAction
  split
  · exact .throw fun _ unmutated => unmutated.permanent _
  · refine (triple_plain_executor (plain_setWorkerProgress _)).bind fun _ =>
      (triple_plain_executor (.ask rfl)).bind fun found => ?_
    cases found with
    | none => exact .throw fun _ unmutated => unmutated.permanent _
    | some found =>
        rcases found with ⟨place, record⟩
        refine (triple_plain_executor (plain_setWorkerProgress _)).bind fun _ =>
          (answers place record).bind fun result => ?_
        split
        · refine .throw fun _ answers => ⟨answers.1, ?_⟩
          rintro _ text ⟨⟩
          exact answers.2
        · have relays : verificationActionResultState.Relays .executor := by
            refine .bind (.ask rfl) fun found => ?_
            cases found with
            | none => exact .pure _
            | some found =>
                dsimp only
                split
                · exact .pure _
                · exact .pure _
                · exact .ask rfl
                · exact .ask rfl
                · exact .ask rfl
          exact (triple_unretried raises_executor relays).imp (fun _ => And.left)
            (fun _ _ => id) fun _ _ => id

/-! ## The worker -/

theorem triple_executor (job : ImportJob) :
    (calm row).Triple Unmutated job.executor (fun _ => Unretried) (Permanent row) := by
  cases job with
  | sourceGrab grab => exact triple_executeSourceGrabJob grab
  | backendCompletedGrab grab => exact triple_executeBackendCompletedGrabJob grab
  | promoteImport jid => exact triple_executeVerificationAction triple_promoteVerifiedImport
  | retryImport jid => exact triple_executeVerificationAction triple_retryVerifiedImport

/-- A retry follows only an attempt that has not changed the library. -/
def RetrySafe (attempt : Attempt) : Prop := attempt.retried = true → attempt.mutated = false

theorem Unretried.retrySafe {attempt : Attempt} (unretried : attempt.Unretried) :
    attempt.RetrySafe := by
  intro retried
  rw [show attempt.retried = false from unretried] at retried
  contradiction

theorem triple_reportJob (report : Queue.Report) :
    (calm row).Triple Unretried (reportJob report) (fun _ => RetrySafe) fail := by
  refine .bind (.ask ?_) fun _ => .pure fun _ => id
  rintro before answer after unretried ⟨⟨_, rfl⟩, _⟩
  exact Unretried.retrySafe unretried

theorem triple_isJobCancelRequested {invariant : Attempt → Prop}
    (kept : ∀ (attempt : Attempt) answer, invariant attempt →
      invariant (attempt.see row ⟨.worker, .isJobCancelRequested⟩ answer)) :
    (calm row).Triple invariant isJobCancelRequested (fun _ => invariant) fail := by
  have asked : (calm row).Triple invariant (ask .worker .isJobCancelRequested)
      (fun _ => invariant) fail := by
    refine .ask ?_
    rintro before answer after holds ⟨⟨_, rfl⟩, _⟩
    exact kept before answer holds
  refine asked.bind ?_
  rintro (text | requested)
  · exact .pure fun _ => id
  · exact .pure fun _ => id

/-- The worker retries no exception that is permanent. -/
theorem triple_retryOrFail (text : String) :
    (calm row).Triple (Permanent row (.error text)) (retryOrFail row text)
      (fun _ => RetrySafe) fail := by
  refine (triple_isJobCancelRequested fun _ _ => id).bind fun requested => ?_
  have failed : (calm row).Triple (Permanent row (.error text))
      (reportJob (.failed text (some "failed"))) (fun _ => RetrySafe) fail :=
    (triple_reportJob _).imp (fun _ => And.left) (fun _ _ => id) fun _ _ => id
  split
  · next retries =>
      have transient : Queue.isTransientFailure row text = true := by
        simp only [Bool.and_eq_true] at retries
        exact retries.2
      have scheduled : (calm row).Triple (Permanent row (.error text))
          (ask .worker (.scheduleJobRetry text))
          (fun stored attempt => attempt.RetrySafe ∧ (stored = false → attempt.Unretried)) fail := by
        refine .ask ?_
        rintro before stored after permanent ⟨⟨_, rfl⟩, _⟩
        refine ⟨fun _ => ?_, fun unstored => ?_⟩
        · by_contra mutated
          rw [Bool.not_eq_false] at mutated
          rw [permanent.2 mutated text rfl] at transient
          contradiction
        · subst unstored
          change (before.retried || false) = false
          rw [show before.retried = false from permanent.1]
          rfl
      refine scheduled.bind fun stored => ?_
      cases stored with
      | true => exact .pure fun _ => And.left
      | false =>
          exact (triple_reportJob _).imp (fun _ holds => holds.2 rfl) (fun _ _ => id) fun _ _ => id
  · exact failed

theorem triple_executeJob (job : ImportJob) :
    (calm row).Triple Unmutated (executeJob row job.executor) (fun _ => RetrySafe) fail := by
  refine (triple_isJobCancelRequested fun _ _ => id).bind fun requested => ?_
  split
  · exact (triple_reportJob _).imp (fun _ => And.left) (fun _ _ => id) fun _ _ => id
  · have body : (calm row).Triple Unmutated
        (do reportJob (.completed (some (← job.executor)) [])) (fun _ => RetrySafe)
        (Permanent row) :=
      (triple_executor job).bind fun _ => triple_reportJob _
    refine body.tryCatch ?_
    rintro (_ | text)
    · exact (triple_reportJob _).imp (fun _ => And.left) (fun _ _ => id) fun _ _ => id
    · exact triple_retryOrFail text

/-- Where every step is harmless, an attempt that is retried has not changed the library. -/
theorem retry_safe (row : Queue.Job) (job : ImportJob) {entry : JobEntry} {finish : Attempt}
    {outcome : Except Raised Unit}
    (run : (calm row).Run { entry } (executeJob row job.executor) finish outcome) :
    finish.RetrySafe := by
  have triple : (calm row).Triple Unmutated (executeJob row job.executor) (fun _ => RetrySafe)
      fun _ => RetrySafe := triple_executeJob job
  have begins : Unmutated { entry } := ⟨rfl, rfl⟩
  have ends := Surroundings.Triple.iff_run.mp triple _ _ _ begins run
  cases outcome <;> exact ends

/-! ## Playing an attempt -/

/-- The projection is read as it was written, other calls are answered by `replies`. -/
def reply (row : Queue.Job) (replies : (call : Call) → call.op.Answer) (before : Attempt)
    (call : Call) : call.op.Answer × Attempt :=
  let answer : call.op.Answer :=
    match call with
    | ⟨_, .readJob⟩ => before.entry
    | other => replies other
  (answer, before.see row call answer)

theorem answers_reply (replies : (call : Call) → call.op.Answer) (before : Attempt)
    (call : Call) :
    (surroundings row).answers before call (reply row replies before call).1
      (reply row replies before call).2 := by
  refine ⟨?_, rfl⟩
  rcases call with ⟨handler, op⟩
  cases op <;> trivial

/-- A Tidal grab of one file, with V2 enabled. -/
def tidalGrab : GrabRequest := { Watch.localGrab with adapter := .tidal }

/-- The row of that job, at its first attempt. -/
def tidalGrabRow : Queue.Job := { Watch.localGrabRow with type := "tidal_grab" }

/-- A call loses its reply. -/
def timesOut (lost : Op → Bool) : (call : Call) → call.op.Answer
  | ⟨_, .getManualImport⟩ => if lost .getManualImport then .error "Read timed out." else Op.usual _
  | ⟨_, .postManualImport files⟩ =>
      if lost (.postManualImport files) then .error "Read timed out." else .ok 201
  | ⟨_, op⟩ => op.usual

/-- The reply to a ManualImport command is lost: the grab is retried, and posts it again. -/
theorem retry_unsafe :
    ∃ grab, (∃ outcome, (surroundings tidalGrabRow).Run {}
        (executeJob tidalGrabRow (ImportJob.sourceGrab tidalGrab).executor) grab outcome) ∧
      grab.retried = true ∧ grab.mutated = true := by
  refine ⟨_, ⟨_, Surroundings.run_play
    (answers_reply (timesOut Watch.posts)) _ _⟩, ?_⟩
  decide +kernel

/-- The reply to the lookup is lost: the grab is retried before it has posted anything. -/
theorem retry_safe_tidalGrab :
    ∃ grab, (∃ outcome, (calm tidalGrabRow).Run {}
        (executeJob tidalGrabRow (ImportJob.sourceGrab tidalGrab).executor) grab outcome) ∧
      grab.retried = true ∧ grab.mutated = false := by
  have run : (calm tidalGrabRow).Run _ _ _ _ := Surroundings.run_restrict_play
    (answers_reply (timesOut Watch.looksUp))
    (executeJob tidalGrabRow (ImportJob.sourceGrab tidalGrab).executor) {} (by decide +kernel)
  refine ⟨_, ⟨_, run⟩, by decide +kernel, ?_⟩
  exact retry_safe tidalGrabRow _ run (by decide +kernel)

end Attempt

end Mintarr.Lane
