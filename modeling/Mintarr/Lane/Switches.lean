import Mintarr.Lane.Footprints
import Mintarr.Lane.Jobs

/-!
# Release switches

A release switch changes an album of Lidarr before the import it is made for.  A ledger
says which albums are switched and neither used nor undone: an album leaves it when there
is an outcome of the import, or when a restore of the album is sent.  The switch is undone
by hand at each exit, so what counts is through which exits a run can leave.
-/

namespace Mintarr.Lane

open Lib Policy Import

variable {α β : Type}

/-- `outcome in {"MANUAL_IMPORTED", "RESCUED"}`. -/
def importedOutcome (outcome : ImportOutcome) : Bool :=
  outcome = .manualImported || outcome = .rescued

/-- The release switches of a run. -/
structure Ledger where
  /-- The albums that are switched, neither used nor undone. -/
  owed : List Int := []
  /-- The endpoint has read a record whose import is done already. -/
  closed : Bool := false
  /-- The fallback on the job title has placed its files. -/
  placed : Bool := false
  deriving DecidableEq, Repr

/-- What may switch a release. -/
inductive Switcher where
  | trigger (request : ImportRequest)
  | endpoint (enabled : Bool)

/-- The program. -/
def Switcher.program : Switcher → Work Unit
  | .trigger request => triggerLidarrImport request
  | .endpoint enabled => do let _ ← verificationReleaseSwitch enabled

/-- The program switches no release. -/
abbrev Work.Fixed (program : Work α) : Prop :=
  program.Within (fun call => call.op.switches = false) fun _ => True

namespace Ledger

/-- What a call changes. -/
def owes (owed : List Int) : (op : Op) → op.Answer → List Int
  | .switchAlbum albumId, reply => if reply.applied then albumId :: owed else owed
  | .restoreAlbum albumId, _ => owed.filter (· ≠ albumId)
  | .setV2ImportOutcome outcome, _ => if importedOutcome outcome then [] else owed
  | _, _ => owed

/-- Whether the last record that was read is one whose import is done. -/
def closes (closed : Bool) : (op : Op) → op.Answer → Bool
  | .readSidecar, found => found.any fun found => importedOutcome found.2.outcome
  | _, _ => closed

/-- The download was hidden, as a rescue does that has registered its files. -/
def places : (op : Op) → op.Answer → Bool
  | .hideFromLidarr, .ok _ => true
  | _, _ => false

/-- What a call and its answer change. -/
def see (ledger : Ledger) (call : Call) (answer : call.op.Answer) : Ledger where
  owed := owes ledger.owed call.op answer
  closed :=
    if call.handler = .endpoint then closes ledger.closed call.op answer else ledger.closed
  placed := ledger.placed || (call.handler = .titleRescue && places call.op answer)

/-- The run, call by call. -/
def surroundings : Surroundings Call (fun call => call.op.Answer) Ledger where
  answers before call answer after := after = before.see call answer

/-! ## Where a switch is lost -/

/-- A switch that Lidarr makes is acknowledged, and made for an import that is still to come. -/
def acknowledges (ledger : Ledger) : (op : Op) → op.Answer → Bool
  | .switchAlbum albumId, reply =>
      !reply.applied || (reply.acknowledged && albumId ≠ 0 && !ledger.closed)
  | _, _ => true

/-- The call neither raises nor lets a cancel through, and its candidates name their albums. -/
def continues : (op : Op) → op.Answer → Bool
  | .isJobCancelRequested, .ok requested => !requested
  | .getManualImport, .ok (status, .ok items) =>
      status ≠ 200 || (manualImportFilesFromItems items).toOption.isSome
  | op, answer => (op.exception answer).isNone

/-- The time of the ManualImport was recorded. -/
def timed : (op : Op) → op.Answer → Bool
  | .recordJobTiming _, .ok _ => true
  | _, _ => false

/-- Lidarr acknowledges the switches that it makes. While an album is switched, no call of
`_trigger_lidarr_import` ends the import, unless there is a handler before its own, and the
fallback on the job title does not end it with its files in place. -/
def mends (ledger : Ledger) (call : Call) (answer : call.op.Answer) : Bool :=
  ledger.acknowledges call.op answer && (ledger.owed.isEmpty ||
    match call.handler with
    | .importToLidarr => continues call.op answer
    | .titleRescue => !(ledger.placed && timed call.op answer)
    | _ => true)

/-- The runs whose steps mend. -/
abbrev settling : Surroundings Call (fun call => call.op.Answer) Ledger :=
  surroundings.restrict fun before call answer _ => before.mends call answer

/-- Every switch is used or undone. -/
def Settled (ledger : Ledger) : Prop := ledger.owed = []

/-- What is switched is among the albums that an exit restores. -/
def Covered (audits : List Int) (ledger : Ledger) : Prop :=
  ∀ albumId ∈ ledger.owed, albumId ∈ audits ∧ albumId ≠ 0

variable {ledger : Ledger} {audits : List Int} {handler : Handler}
  {fail : Raised → Ledger → Prop}

theorem Settled.covered (settled : ledger.Settled) : ledger.Covered audits := by
  intro albumId owed
  rw [Settled] at settled
  simp [settled] at owed

theorem Covered.settled (covered : ledger.Covered []) : ledger.Settled := by
  apply List.eq_nil_iff_forall_not_mem.mpr
  intro albumId owed
  exact List.not_mem_nil (covered albumId owed).1

/-! ## Calls that switch nothing -/

/-- Only a switch adds to what is owed. -/
theorem mem_owed_see {call : Call} {answer : call.op.Answer} {albumId : Int}
    (fixed : call.op.switches = false) (owed : albumId ∈ (ledger.see call answer).owed) :
    albumId ∈ ledger.owed := by
  cases call with
  | mk handler op =>
      cases op with
      | switchAlbum albumId => simp [Op.switches] at fixed
      | restoreAlbum albumId => simp [Op.switches] at fixed
      | setV2ImportOutcome outcome =>
          simp only [see, owes] at owed
          split at owed
          · exact absurd owed List.not_mem_nil
          · exact owed
      | _ => exact owed

theorem covered_see {call : Call} {answer : call.op.Answer} (fixed : call.op.switches = false)
    (covered : ledger.Covered audits) : (ledger.see call answer).Covered audits :=
  fun albumId owed => covered albumId (mem_owed_see fixed owed)

theorem settled_see {call : Call} {answer : call.op.Answer} (fixed : call.op.switches = false)
    (settled : ledger.Settled) : (ledger.see call answer).Settled := by
  apply List.eq_nil_iff_forall_not_mem.mpr
  intro albumId owed
  have before := mem_owed_see fixed owed
  rw [Settled] at settled
  simp [settled] at before

theorem triple_covered {program : Work α} (fixed : program.Fixed) :
    settling.Triple (Covered audits) program (fun _ => Covered audits)
      fun _ => Covered audits := by
  apply (Surroundings.Triple.of_within fixed ?_).imp (fun _ => id) (fun _ _ => id)
    fun _ _ => And.right
  intro before call answer after fixed covered step
  rw [step.1]
  exact covered_see fixed covered

theorem triple_settled {program : Work α} (fixed : program.Fixed) :
    settling.Triple Settled program (fun _ => Settled) fun _ => Settled := by
  apply (Surroundings.Triple.of_within fixed ?_).imp (fun _ => id) (fun _ _ => id)
    fun _ _ => And.right
  intro before call answer after fixed settled step
  rw [step.1]
  exact settled_see fixed settled

theorem fixed_of_relays {program : Work α} (relays : program.Relays handler) : program.Fixed := by
  apply relays.within.imp _ fun _ => id
  intro call ordinary
  have switches := ordinary.2
  simp only [Op.ordinary, Bool.and_eq_true, Bool.not_eq_true'] at switches
  exact switches.2

theorem fixed_raising (answer : Except String α) : (raising answer).Fixed := by
  cases answer with
  | ok value => exact .pure value
  | error text => exact .throw trivial

/-! ## Exceptions -/

/-- What becomes of an exception under a handler: no call raises past the one of
`import_to_lidarr` while an album is switched. -/
structure Raises (audits : List Int) (handler : Handler) (fail : Raised → Ledger → Prop) :
    Prop where
  settled : ∀ error (ledger : Ledger), ledger.Settled → fail error ledger
  covered : ∀ error (before : Ledger) op answer text, before.Covered audits →
    op.switches = false → op.exception answer = some text →
      before.mends ⟨handler, op⟩ answer = true → fail error (before.see ⟨handler, op⟩ answer)

/-- An exception that is caught. -/
theorem raises_caught : Raises audits handler fun _ => Covered audits where
  settled _ _ := Settled.covered
  covered _ _ _ _ _ covered fixed _ _ := covered_see fixed covered

theorem settled_of_continues {call : Call} {answer : call.op.Answer}
    (under : call.handler = .importToLidarr) (mends : ledger.mends call answer = true)
    (stops : continues call.op answer = false) : ledger.Settled := by
  simp only [Ledger.mends, under, stops, Bool.or_false, Bool.and_eq_true] at mends
  exact List.isEmpty_iff.mp mends.2

theorem continues_of_exception {op : Op} {answer : op.Answer} {text : String}
    (exception : op.exception answer = some text) : continues op answer = false := by
  cases op with
  | isJobCancelRequested =>
      cases answer with
      | error text' => exact congrArg Option.isNone exception
      | ok requested => exact absurd exception.symm (Option.some_ne_none text)
  | getManualImport =>
      cases answer with
      | error text => rfl
      | ok reply =>
          cases reply with
          | mk status body =>
              cases body with
              | error text => exact congrArg Option.isNone exception
              | ok items => exact absurd exception.symm (Option.some_ne_none text)
  | _ => exact congrArg Option.isNone exception

/-- Under the handler of `import_to_lidarr` nothing is owed where a call raises. -/
theorem raises_importToLidarr : Raises audits .importToLidarr fun _ => Settled where
  settled _ _ := id
  covered _ _ _ _ _ _ fixed exception mends :=
    settled_see fixed
      (settled_of_continues rfl mends (continues_of_exception exception))

/-! ## Rules -/

/-- A program that relays keeps what is covered. -/
theorem triple_relays {program : Work α} (raises : Raises audits handler fail)
    (relays : program.Relays handler) :
    settling.Triple (Covered audits) program (fun _ => Covered audits) fail := by
  have fixed {op : Op} (ordinary : op.ordinary = true) : op.switches = false := by
    simp only [Op.ordinary, Bool.and_eq_true, Bool.not_eq_true'] at ordinary
    exact ordinary.2
  apply Surroundings.Triple.of_relays relays
  · intro before call answer after allowed covered step
    rw [step.1]
    exact covered_see (fixed allowed.2) covered
  · intro before call answer after error allowed covered step raised
    cases call with
    | mk own op =>
        obtain ⟨rfl, ordinary⟩ := allowed
        obtain ⟨text, exception, rfl⟩ := raised
        rw [step.1]
        exact raises.covered _ before op answer text covered (fixed ordinary) exception step.2

/-- Once nothing is owed, whatever is raised leaves nothing owed. -/
theorem triple_settled_fail {program : Work α} (raises : Raises audits handler fail)
    (fixed : program.Fixed) :
    settling.Triple Settled program (fun _ => Settled) fail :=
  (triple_settled fixed).imp (fun _ => id) (fun _ _ => id) raises.settled

/-- A call whose exception is raised. -/
theorem triple_asking {op : Op} {value : op.Answer → Except String α}
    (raises : Raises audits handler fail) (fixed : op.switches = false)
    (exception : ∀ answer text, value answer = .error text → op.exception answer = some text) :
    settling.Triple (Covered audits) (ask handler op >>= fun answer => raising (value answer))
      (fun _ => Covered audits) fail := by
  have asked : settling.Triple (Covered audits) (ask handler op)
      (fun answer ledger => ledger.Covered audits ∧
        ∀ text, value answer = .error text → fail (.error text) ledger) fail := by
    apply Surroundings.Triple.ask
    intro before answer after covered step
    rw [step.1]
    constructor
    · exact covered_see fixed covered
    · intro text raised
      exact raises.covered _ before op answer text covered fixed (exception answer text raised)
        step.2
  apply asked.bind
  intro answer
  cases value answer with
  | ok value => exact .pure fun _ => And.left
  | error text => exact .throw fun _ holds => holds.2 text rfl

/-- A restore of each album leaves nothing owed. -/
theorem triple_restoring (audits : List Int) :
    settling.Triple (Covered audits)
      (audits.forM fun albumId => do
        if albumId ≠ 0 then
          let _ ← ask handler (.restoreAlbum albumId))
      (fun _ => Settled) fail := by
  induction audits with
  | nil => exact .pure fun _ => Covered.settled
  | cons albumId audits ih =>
      have restored : settling.Triple (Covered (albumId :: audits))
          (do
            if albumId ≠ 0 then
              let _ ← ask handler (.restoreAlbum albumId) : Work PUnit)
          (fun _ => Covered audits) fail := by
        split
        · have sent : settling.Triple (Covered (albumId :: audits))
              (ask handler (.restoreAlbum albumId)) (fun _ => Covered audits) fail := by
            apply Surroundings.Triple.ask
            intro before answer after covered step
            rw [step.1]
            intro other owed
            simp only [see, owes, List.mem_filter, decide_eq_true_eq] at owed
            have listed := covered other owed.1
            exact ⟨(List.mem_cons.mp listed.1).resolve_left owed.2, listed.2⟩
          exact sent.bind fun _ => .pure fun _ => id
        · next zero =>
            rw [ne_eq, not_not] at zero
            apply Surroundings.Triple.pure
            intro before covered other owed
            have listed := covered other owed
            refine ⟨(List.mem_cons.mp listed.1).resolve_left ?_, listed.2⟩
            rw [zero]
            exact listed.2
      exact restored.bind fun _ => ih

theorem triple_restoreReleaseSwitches :
    settling.Triple (Covered audits) (restoreReleaseSwitches handler audits)
      (fun _ => Settled) fail := by
  apply (triple_restoring audits.reverse).imp _ (fun _ _ => id) fun _ _ => id
  intro before covered albumId owed
  have listed := covered albumId owed
  exact ⟨List.mem_reverse.mpr listed.1, listed.2⟩

/-! ## Exits -/

variable {request : ImportRequest} {result : VerificationResult}

theorem triple_closeFailed (raises : Raises audits handler fail) (reason : String) :
    settling.Triple (Covered audits) (closeFailed handler request result audits reason)
      (fun _ => Settled) fail :=
  (triple_relays raises (.ask rfl)).bind fun _ => (triple_relays raises (.ask rfl)).bind fun _ =>
    (triple_relays raises (relays_maybeWriteV2Sidecar false)).bind fun _ =>
      (triple_asking raises rfl (by rintro _ text rfl; rfl)).bind fun _ =>
        triple_restoreReleaseSwitches.bind fun _ =>
          triple_settled_fail raises (fixed_of_relays relays_cleanupLidarrQueue)

theorem triple_failImport (raises : Raises audits handler fail) (reason : String) :
    settling.Triple (Covered audits) (failImport handler request result audits reason)
      (fun _ => Settled) fail :=
  (triple_relays raises (relays_recordJobTiming _)).bind fun _ => triple_closeFailed raises reason

/-- The outcome of an import that has changed the library settles its switches. -/
theorem triple_setV2ImportOutcome {outcome : ImportOutcome}
    (imported : importedOutcome outcome = true) :
    settling.Triple (Covered audits) (ask handler (.setV2ImportOutcome outcome))
      (fun _ => Settled) fail := by
  apply Surroundings.Triple.ask
  intro before answer after covered step
  rw [step.1, Settled]
  simp only [see, owes, imported, if_true]

theorem triple_completeImport (raises : Raises audits handler fail) {outcome : ImportOutcome}
    (imported : importedOutcome outcome = true) :
    settling.Triple (Covered audits) (completeImport handler request result outcome)
      (fun _ => Settled) fail := by
  apply (triple_relays raises (relays_recordJobTiming _)).bind
  intro _
  apply (triple_setV2ImportOutcome imported).bind
  intro _
  apply triple_settled_fail raises
  split
  · exact .bind (fixed_of_relays (relays_writeVerificationSidecar false)) fun _ =>
      .bind (.ask rfl) fun _ => fixed_of_relays relays_markImportCompleted
  · exact fixed_of_relays relays_markImportCompleted

theorem triple_leavePending :
    settling.Triple (Covered audits) (leavePending request result audits)
      (fun _ => Settled) fun _ => Settled :=
  (triple_relays raises_importToLidarr (relays_recordJobTiming _)).bind fun _ =>
    (triple_relays raises_importToLidarr (.ask rfl)).bind fun _ =>
      (triple_relays raises_importToLidarr (relays_maybeWriteV2Sidecar false)).bind fun _ =>
        triple_restoreReleaseSwitches.bind fun _ =>
          triple_settled_fail (@raises_importToLidarr audits)
            (fixed_of_relays (relays_saveJobs rfl))

/-! ## Checks and the rescue -/

theorem fixed_of_prepares {program : Work α} (prepares : program.Prepares) : program.Fixed := by
  apply prepares.imp _ fun _ => id
  intro call prepares
  cases call with
  | mk handler op => cases op <;> first | rfl | simp [Op.prepares] at prepares

/-- A value that is raised where it is none. -/
theorem triple_raising {value : Except String α} {pre : Ledger → Prop}
    {post : α → Ledger → Prop}
    (returns : ∀ result, value = .ok result → ∀ ledger, pre ledger → post result ledger)
    (throws : ∀ text, value = .error text → ∀ ledger, pre ledger → fail (.error text) ledger) :
    settling.Triple pre (raising value) post fail := by
  cases value with
  | ok result => exact .pure (returns result rfl)
  | error text => exact .throw (throws text rfl)

/-- Under the handler of `import_to_lidarr` no cancel gets through while an album is switched. -/
theorem triple_raiseIfJobCancelled {tracked : Bool} :
    settling.Triple (Covered audits) (raiseIfJobCancelled tracked .importToLidarr)
      (fun _ => Covered audits) fun _ => Settled := by
  cases tracked with
  | false => exact .pure fun _ => id
  | true =>
      have asked : settling.Triple (Covered audits) (ask .importToLidarr .isJobCancelRequested)
          (fun answer ledger => ledger.Covered audits ∧ (answer = .ok true → ledger.Settled))
          fun _ => Settled := by
        apply Surroundings.Triple.ask
        intro before answer after covered step
        rw [step.1]
        constructor
        · exact covered_see rfl covered
        · intro requested
          exact settled_see rfl (settled_of_continues rfl step.2 (by rw [requested]; rfl))
      apply asked.bind
      intro answer
      cases answer with
      | error text => exact .pure fun _ => And.left
      | ok requested =>
          cases requested with
          | false => exact .pure fun _ => And.left
          | true =>
              have marked : settling.Triple Settled (do
                    raising (← ask .importToLidarr .markDownloadCancelled)
                    throw .cancelled : Work Unit)
                  (fun _ => Covered audits) fun _ => Settled :=
                (triple_settled (.ask rfl)).bind fun _ =>
                  (triple_settled (fixed_raising _)).bind fun _ => .throw fun _ => id
              exact marked.imp (fun _ holds => holds.2 rfl) (fun _ _ => id) fun _ _ => id

/-- What stands under a handler of its own only has to keep what is covered. -/
theorem triple_rescuePlaceAndRescan {tracked : Bool} (files : List ImportFile) :
    settling.Triple (Covered audits) (rescuePlaceAndRescan tracked handler files)
      (fun _ => Covered audits) fun _ => Covered audits :=
  triple_covered (.bind (fixed_of_prepares (prepares_raiseIfJobCancelled tracked)) fun _ =>
    fixed_of_relays (relays_placeAndRescan files))

/-- The fallback on the job title has its files in place. -/
def Placed (audits : List Int) (ledger : Ledger) : Prop :=
  ledger.Covered audits ∧ ledger.placed = true

theorem triple_asked {op : Op} (fixed : op.switches = false) :
    settling.Triple (Covered audits) (ask handler op) (fun _ => Covered audits)
      fun _ => Covered audits := triple_covered (.ask fixed)

theorem triple_raise (answer : Except String α) :
    settling.Triple (Covered audits) (raising answer) (fun _ => Covered audits)
      fun _ => Covered audits := triple_covered (fixed_raising answer)

theorem triple_hideFromLidarr :
    settling.Triple (Covered audits) (ask .titleRescue .hideFromLidarr)
      (fun answer ledger => (answer = .ok () → ledger.Placed audits) ∧
        (answer ≠ .ok () → ledger.Covered audits)) fail := by
  apply Surroundings.Triple.ask
  intro before answer after covered step
  rw [step.1]
  constructor
  · rintro rfl
    exact ⟨covered_see rfl covered, Bool.or_true _⟩
  · intro _
    exact covered_see rfl covered

/-- Where the files are in place, no timing is recorded while an album is switched. -/
theorem triple_recordJobTiming (stage : String) :
    settling.Triple (Placed audits) (recordJobTiming .titleRescue stage) (fun _ => Settled)
      fun _ => Covered audits := by
  have asked : settling.Triple (Placed audits) (ask .titleRescue (.recordJobTiming stage))
      (fun answer ledger => ledger.Covered audits ∧ (answer = .ok () → ledger.Settled))
      fun _ => Covered audits := by
    apply Surroundings.Triple.ask
    intro before answer after holds step
    rw [step.1]
    constructor
    · exact covered_see rfl holds.1
    · rintro rfl
      have mends := step.2
      have settled : before.Settled := by
        simpa [Ledger.mends, acknowledges, timed, holds.2, Settled] using mends
      exact settled_see rfl settled
  apply asked.bind
  intro answer
  cases answer with
  | ok _ => exact .pure fun _ holds => holds.2 rfl
  | error text => exact .throw fun _ => And.left

/-- The fallback on the job title leaves nothing owed where it ends the import. -/
theorem triple_titleRescue :
    settling.Triple (Covered audits) (titleRescue request result audits)
      (fun ended ledger => (ended = true → ledger.Settled) ∧
        (ended = false → ledger.Covered audits)) fun _ => Covered audits := by
  have rescued (files : List ImportFile) : settling.Triple (Covered audits)
      (rescuePlaceAndRescan true .titleRescue files)
      (fun rescued ledger => (rescued = true → ledger.Placed audits) ∧
        (rescued = false → ledger.Covered audits)) fun _ => Covered audits :=
    (triple_covered (fixed_of_prepares (prepares_raiseIfJobCancelled true))).bind fun _ =>
      triple_placeAndRescan_of (fun rescues => triple_asked (Op.switches_of_rescues rescues))
        triple_raise triple_hideFromLidarr files
  exact triple_titleRescue_of (fun rescues => triple_asked (Op.switches_of_rescues rescues))
    triple_raise rescued (triple_recordJobTiming _) (triple_closeFailed raises_caught _)

/-! ## The ManualImport -/

theorem triple_zeroCandidates :
    settling.Triple (Covered audits) (zeroCandidates request result audits)
      (fun _ => Settled) fun _ => Settled := by
  have handled : settling.Triple (Covered audits)
      (tryCatch (titleRescue request result audits) fun _ => pure false)
      (fun ended ledger => (ended = true → ledger.Settled) ∧
        (ended = false → ledger.Covered audits)) fun _ => Settled :=
    triple_titleRescue.tryCatch fun _ => .pure fun _ covered =>
      ⟨fun impossible => absurd impossible Bool.false_ne_true, fun _ => covered⟩
  apply handled.bind
  intro ended
  cases ended with
  | true => exact .pure fun _ holds => holds.1 rfl
  | false =>
      exact (triple_failImport raises_importToLidarr _).imp (fun _ holds => holds.2 rfl)
        (fun _ _ => id) fun _ _ => id

theorem triple_rescueAfterManualImport (files : List ImportFile) :
    settling.Triple (Covered audits) (rescueAfterManualImport request result audits files)
      (fun _ => Settled) fun _ => Settled := by
  have body : settling.Triple (Covered audits)
      (do
        if ← rescuePlaceAndRescan true .rescue files then
          completeImport .rescue request result .rescued
        else
          failImport .rescue request result audits "manualimport and rescue failed")
      (fun _ => Settled) fun _ => Covered audits := by
    apply (triple_rescuePlaceAndRescan files).bind
    intro rescued
    cases rescued with
    | true => exact triple_completeImport raises_caught rfl
    | false => exact triple_failImport raises_caught _
  exact body.tryCatch fun _ => triple_failImport raises_importToLidarr _

/-- The answer of a call of `import_to_lidarr`: where it ends the import, nothing is owed. -/
def Continues (audits : List Int) (op : Op) (answer : op.Answer) (ledger : Ledger) : Prop :=
  ledger.Covered audits ∧ (continues op answer = false → ledger.Settled)

theorem triple_continues {op : Op} (fixed : op.switches = false) :
    settling.Triple (Covered audits) (ask .importToLidarr op) (Continues audits op) fail := by
  apply Surroundings.Triple.ask
  intro before answer after covered step
  rw [step.1]
  constructor
  · exact covered_see fixed covered
  · intro stops
    exact settled_see fixed (settled_of_continues rfl step.2 stops)

/-- A step under the handler of `import_to_lidarr` that relays. -/
theorem triple_step {program : Work α} (relays : program.Relays .importToLidarr) :
    settling.Triple (Covered audits) program (fun _ => Covered audits) fun _ => Settled :=
  triple_relays raises_importToLidarr relays

/-- A step of the import whose exception is raised. -/
theorem triple_raised {op : Op} {answer : op.Answer} {value : Except String α}
    (stops : ∀ text, value = .error text → continues op answer = false) :
    settling.Triple (Continues audits op answer) (raising value) (fun _ => Covered audits)
      fun _ => Settled :=
  triple_raising (fun _ _ _ => And.left) fun text raises _ holds => holds.2 (stops text raises)

theorem triple_postManualImport (files : List ImportFile) :
    settling.Triple (Covered audits) (postManualImport request result audits files)
      (fun _ => Settled) fun _ => Settled := by
  refine (triple_step (.ask rfl)).bind fun _ => triple_raiseIfJobCancelled.bind fun _ =>
    (triple_continues rfl).bind fun posted =>
      (triple_raised (by rintro text rfl; rfl)).bind fun _ =>
        (triple_step (relays_setWorkerProgress _)).bind fun _ =>
          (triple_continues rfl).bind fun counted =>
            (triple_raised (by rintro text rfl; rfl)).bind fun imported => ?_
  split
  · exact triple_completeImport raises_importToLidarr rfl
  · refine (triple_continues rfl).bind fun asked =>
      (triple_raised (by rintro text rfl; rfl)).bind fun pending => ?_
    cases pending with
    | true => exact triple_leavePending
    | false => exact triple_rescueAfterManualImport files

theorem relays_manualimportTargetGuardFailure (target : Queue.Scalar)
    (items : List ManualImportItem) :
    (manualimportTargetGuardFailure request target items).Relays .importToLidarr := by
  rw [manualimportTargetGuardFailure]
  cases targetMismatch target items with
  | some reason => exact .pure _
  | none =>
      dsimp only
      split
      · exact .ask rfl
      · exact .pure _

/-- Candidates that raise end the import, so nothing is owed then. -/
theorem triple_importCandidates (target : Queue.Scalar) (items : List ManualImportItem) :
    settling.Triple
      (fun ledger => ledger.Covered audits ∧
        ((manualImportFilesFromItems items).toOption.isSome = false → ledger.Settled))
      (importCandidates request target result audits items)
      (fun _ => Settled) fun _ => Settled := by
  have failed (reason : String) : settling.Triple (Covered audits)
      (failImport .importToLidarr request result audits reason) (fun _ => Settled)
      fun _ => Settled := triple_failImport raises_importToLidarr reason
  cases read : manualImportFilesFromItems items with
  | error text =>
      have settled : settling.Triple Settled
          (importCandidates request target result audits items) (fun _ => Settled)
          fun _ => Settled := by
        apply (triple_settled (fixed_of_relays
          (relays_manualimportTargetGuardFailure target items))).bind
        intro reason
        cases reason with
        | some reason =>
            exact (failed reason).imp (fun _ => Settled.covered) (fun _ _ => id) fun _ _ => id
        | none =>
            rw [read]
            exact .throw fun _ => id
      exact settled.imp (fun _ holds => holds.2 rfl) (fun _ _ => id) fun _ _ => id
  | ok files =>
      have covered : settling.Triple (Covered audits)
          (importCandidates request target result audits items) (fun _ => Settled)
          fun _ => Settled := by
        apply (triple_step (relays_manualimportTargetGuardFailure target items)).bind
        intro reason
        cases reason with
        | some reason => exact failed reason
        | none =>
            rw [read]
            change settling.Triple _ (if files.isEmpty then _ else _) _ _
            split
            · exact failed _
            · exact triple_postManualImport files
      exact covered.imp (fun _ => And.left) (fun _ _ => id) fun _ _ => id

theorem triple_manualImport (target : Queue.Scalar) :
    settling.Triple (Covered audits) (manualImport request target result audits)
      (fun _ => Settled) fun _ => Settled := by
  apply (triple_step (relays_setWorkerProgress _)).bind
  intro _
  apply (triple_continues rfl).bind
  intro found
  cases found with
  | error text => exact .throw fun _ holds => holds.2 rfl
  | ok reply =>
      cases reply with
      | mk status body =>
          change settling.Triple _ (if status ≠ 200 then _ else _) _ _
          split
          · exact (triple_failImport raises_importToLidarr _).imp (fun _ => And.left)
              (fun _ _ => id) fun _ _ => id
          · next okay =>
              have success : status = 200 := not_not.mp okay
              cases body with
              | error text =>
                  have raised : Op.exception .getManualImport (.ok (status, .error text)) =
                      some text := if_pos success
                  exact .throw fun _ holds => holds.2 (continues_of_exception raised)
              | ok items =>
                  change settling.Triple _ (if items.isEmpty then _ else _) _ _
                  split
                  · exact triple_zeroCandidates.imp (fun _ => And.left) (fun _ _ => id)
                      fun _ _ => id
                  · refine (triple_importCandidates target items).imp ?_ (fun _ _ => id)
                      fun _ _ => id
                    intro ledger holds
                    refine ⟨holds.1, fun unread => holds.2 ?_⟩
                    simp [continues, success, unread]

/-! ## The switch -/

/-- What holds while releases are switched: the record that was read last, and that no release
is switched for one whose import is done. -/
structure Switching (done : Bool) (audits : List Int) (ledger : Ledger) : Prop where
  closed : ledger.closed = done
  covered : ledger.Covered audits
  settled : done = true → ledger.Settled

variable {done : Bool}

/-- A call that changes neither the switches nor the record. -/
theorem triple_switching {op : Op} (fixed : op.switches = false)
    (same : ∀ (ledger : Ledger) answer,
      (ledger.see ⟨handler, op⟩ answer).closed = ledger.closed) :
    settling.Triple (Switching done audits) (ask handler op) (fun _ => Switching done audits)
      fail := by
  apply Surroundings.Triple.ask
  intro before answer after holds step
  rw [step.1]
  constructor
  · rw [same]
    exact holds.closed
  · exact covered_see fixed holds.covered
  · intro isDone
    exact settled_see fixed (holds.settled isDone)

/-- A switch that Lidarr makes is acknowledged. -/
theorem triple_switchAlbum (albumId : Int) :
    settling.Triple (Switching done audits) (ask handler (.switchAlbum albumId))
      (fun reply => Switching done
        (audits ++ if reply.acknowledged then [albumId] else [])) fail := by
  apply Surroundings.Triple.ask
  intro before reply after holds step
  have acknowledged : before.acknowledges (.switchAlbum albumId) reply = true := by
    have mends := step.2
    simp only [Ledger.mends, Bool.and_eq_true] at mends
    exact mends.1
  have closed : (before.see ⟨handler, .switchAlbum albumId⟩ reply).closed = before.closed := by
    simp [see, closes]
  have owed : (before.see ⟨handler, .switchAlbum albumId⟩ reply).owed =
      if reply.applied then albumId :: before.owed else before.owed := rfl
  rw [step.1]
  cases applied : reply.applied with
  | false =>
      rw [applied] at owed
      constructor
      · rw [closed]
        exact holds.closed
      · intro other member
        rw [owed] at member
        exact ⟨List.mem_append_left _ (holds.covered other member).1,
          (holds.covered other member).2⟩
      · intro isDone
        rw [Settled, owed]
        exact holds.settled isDone
  | true =>
      simp only [acknowledges, applied, Bool.not_true, Bool.false_or, Bool.and_eq_true,
        decide_eq_true_eq, Bool.not_eq_true'] at acknowledged
      rw [applied] at owed
      constructor
      · rw [closed]
        exact holds.closed
      · intro other member
        rw [owed] at member
        rw [acknowledged.1.1]
        cases List.mem_cons.mp member with
        | inl same =>
            rw [same]
            exact ⟨List.mem_append_right _ (List.mem_singleton_self _), acknowledged.1.2⟩
        | inr before =>
            exact ⟨List.mem_append_left _ (holds.covered other before).1,
              (holds.covered other before).2⟩
      · intro isDone
        rw [← holds.closed, acknowledged.2] at isDone
        contradiction

theorem triple_applyReleaseSwitchCandidate (candidate : ReleaseSwitchCandidate) :
    settling.Triple (Switching done audits) (applyReleaseSwitchCandidate handler candidate)
      (fun switched => Switching done (audits ++ switched)) fun _ => Switching done audits := by
  rw [applyReleaseSwitchCandidate]
  split
  · apply Surroundings.Triple.pure
    intro ledger holds
    rw [List.append_nil]
    exact holds
  · apply (triple_switchAlbum _).bind
    intro reply
    cases status : reply.status with
    | ok code => exact .pure fun _ => id
    | error text =>
        apply Surroundings.Triple.throw
        intro ledger holds
        simpa [AlbumReply.acknowledged, status] using holds

theorem triple_autoReleaseSwitch (albumId : Int) :
    settling.Triple (Switching done audits) (autoReleaseSwitch albumId)
      (fun switched => Switching done (audits ++ switched)) fail := by
  have nothing {other : Raised → Ledger → Prop} : settling.Triple (Switching done audits)
      (pure [] : Work (List Int)) (fun switched => Switching done (audits ++ switched)) other := by
    apply Surroundings.Triple.pure
    intro ledger holds
    rw [List.append_nil]
    exact holds
  refine (?_ : settling.Triple _ _ _ fun _ => Switching done audits).tryCatch fun _ => nothing
  apply (triple_switching rfl fun _ _ => rfl).bind
  intro answer
  cases answer with
  | error text => exact .throw fun _ => id
  | ok found =>
      cases found with
      | none => exact nothing
      | some candidate =>
          change settling.Triple _ (if candidate.highConfidence then _ else _) _ _
          split
          · exact triple_applyReleaseSwitchCandidate _
          · exact nothing

theorem triple_maybeAutoReleaseSwitch (items : List ManualImportItem) :
    settling.Triple (Switching done []) (maybeAutoReleaseSwitch request items result)
      (fun audits => Switching done audits) fail := by
  rw [maybeAutoReleaseSwitch]
  split
  · apply (triple_switching rfl fun _ _ => rfl).bind
    intro count
    split
    · exact .pure fun _ => id
    · apply Surroundings.Triple.foldlM
      intro applied albumId
      exact (triple_autoReleaseSwitch albumId).bind fun _ => .pure fun _ => id
  · exact .pure fun _ => id

theorem triple_switchAndImport (target : Queue.Scalar) (items : List ManualImportItem) :
    settling.Triple Settled (switchAndImport request target items result) (fun _ => Settled)
      fun _ => Settled := by
  have switched {done : Bool} : settling.Triple (Switching done [])
      (switchAndImport request target items result) (fun _ => Settled) fun _ => Settled := by
    apply (triple_maybeAutoReleaseSwitch items).bind
    intro audits
    have imported : settling.Triple (Switching done audits)
        (manualImport request target result audits) (fun _ => Settled) fun _ => Settled :=
      (triple_manualImport target).imp (fun _ => Switching.covered) (fun _ _ => id) fun _ _ => id
    split
    · exact ((triple_asking raises_importToLidarr rfl (by rintro _ text rfl; rfl)).imp
        (fun _ => Switching.covered) (fun _ _ => id) fun _ _ => id).bind fun _ =>
          triple_manualImport target
    · exact imported
  intro ledger settled
  exact switched ledger ⟨rfl, settled.covered, fun _ => settled⟩

/-! ## The import -/

theorem fixed_createReviewRequired : (createReviewRequired result).Fixed := by
  refine .bind (fixed_of_relays (relays_writeVerificationSidecar false)) fun _ =>
    .bind (.ask rfl) fun answer => .bind (fixed_raising answer) fun record => ?_
  have saved {update : JobUpdate} : (saveJobs .importToLidarr update).Fixed :=
    fixed_of_prepares (prepares_saveJobs update)
  dsimp only
  split
  · exact .bind (.ask rfl) fun _ => .bind (.ask rfl) fun written =>
      .bind (fixed_raising written) fun _ => saved
  · exact saved

theorem fixed_performEvent (event : Event) : (performEvent result event).Fixed := by
  cases event with
  | decisionLogged record => exact .ask rfl
  | sidecarWritten archived => exact fixed_of_relays (relays_writeVerificationSidecar archived)
  | outputDeleted => exact .ask rfl
  | jobFailed error => exact fixed_of_prepares (prepares_saveJobs _)
  | blocklisted => exact .bind (.ask rfl) fun _ => .pure _
  | queueCleaned => exact fixed_of_relays relays_cleanupLidarrQueue
  | warned warning => exact fixed_of_prepares (prepares_saveJobs _)
  | _ => exact .pure _

theorem fixed_passGates (context : ImportContext) : (passGates context).Fixed := by
  cases gates : context.gates with
  | raised =>
      rw [passGates, gates]
      exact .bind (.ask rfl) fun _ => .throw trivial
  | stopped events result =>
      rw [passGates, gates]
      dsimp only
      split
      · exact .bind (Program.Within.forM fun event => fixed_performEvent event) fun _ => .pure _
      · exact .bind (.ask rfl) fun _ => .bind fixed_createReviewRequired fun _ => .pure _
  | proceeds events result =>
      rw [passGates, gates]
      exact .bind (Program.Within.forM fun event => fixed_performEvent event) fun _ => .pure _

theorem triple_triggerLidarrImport :
    settling.Triple Settled (triggerLidarrImport request) (fun _ => Settled)
      fun _ => Settled := by
  refine (triple_settled (fixed_of_prepares (prepares_raiseIfJobCancelled true))).bind fun _ =>
    (triple_settled (.ask rfl)).bind fun key => ?_
  cases key with
  | false => exact .pure fun _ => id
  | true =>
      refine (triple_settled (fixed_of_relays relays_resolveTarget)).bind fun target =>
        (triple_settled (fixed_of_relays relays_evaluate)).bind fun context =>
          (triple_settled (fixed_passGates context)).bind fun passed => ?_
      cases passed with
      | none => exact .pure fun _ => id
      | some result => exact triple_switchAndImport target context.items

/-! ## The endpoint -/

theorem triple_operatorReleaseSwitch (albumId : Int) :
    settling.Triple (Switching done audits) (operatorReleaseSwitch albumId)
      (fun switched => Switching done (audits ++ switched.getD [])) fail := by
  have nothing : settling.Triple (Switching done audits) (pure (some []) : Work (Option (List Int)))
      (fun switched => Switching done (audits ++ switched.getD []))
      fun _ => Switching done audits := by
    apply Surroundings.Triple.pure
    intro ledger holds
    rw [Option.getD_some, List.append_nil]
    exact holds
  have unswitched (ledger : Ledger) (holds : ledger.Switching done audits) :
      ledger.Switching done (audits ++ (none : Option (List Int)).getD []) := by
    rw [Option.getD_none, List.append_nil]
    exact holds
  refine (?_ : settling.Triple _ _ _ fun _ => Switching done audits).tryCatch
    fun _ => .pure unswitched
  apply (triple_switching rfl fun _ _ => rfl).bind
  intro answer
  cases answer with
  | error text => exact .throw fun _ => id
  | ok found =>
      cases found with
      | none => exact nothing
      | some candidate =>
          exact (triple_applyReleaseSwitchCandidate _).bind fun _ => .pure fun _ => id

theorem triple_operatorReleaseSwitches (albumIds : List Int) :
    settling.Triple (Switching done audits) (operatorReleaseSwitches albumIds audits)
      (fun switched => Switching done switched.1) fail := by
  induction albumIds generalizing audits with
  | nil => exact .pure fun _ => id
  | cons albumId albumIds ih =>
      apply (triple_operatorReleaseSwitch albumId).bind
      intro switched
      cases switched with
      | none =>
          apply Surroundings.Triple.pure
          intro ledger holds
          rw [Option.getD_none, List.append_nil] at holds
          exact holds
      | some switched => exact ih

theorem fixed_runManualImportOnly {tracked : Bool} :
    (runManualImportOnly tracked handler).Fixed := by
  have progressed (stage : String) : (setWorkerProgress handler stage).Fixed :=
    fixed_of_prepares (prepares_setWorkerProgress stage)
  have checked : (raiseIfJobCancelled tracked handler).Fixed :=
    fixed_of_prepares (prepares_raiseIfJobCancelled tracked)
  have completed (outcome : ImportOutcome) : Work.Fixed (do
      markImportCompleted handler
      setWorkerProgress handler "done"
      pure outcome) :=
    .bind (fixed_of_prepares (prepares_saveJobs _)) fun _ => .bind (progressed _) fun _ => .pure _
  have confirmed (files : List ImportFile) : (confirmManualImport tracked handler files).Fixed := by
    refine .bind checked fun _ => .bind (progressed _) fun _ => .bind (.ask rfl) fun counted =>
      .bind (fixed_raising counted) fun imported => ?_
    split
    · exact .bind (progressed _) fun _ => completed _
    · refine .bind (.ask rfl) fun asked => .bind (fixed_raising asked) fun pending => ?_
      cases pending with
      | true => exact .bind (fixed_of_prepares (prepares_saveJobs _)) fun _ => .pure _
      | false =>
          refine .bind checked fun _ => .bind (progressed _) fun _ =>
            .bind (.bind checked fun _ => fixed_of_relays (relays_placeAndRescan files))
              fun rescued => ?_
          cases rescued with
          | true => exact completed _
          | false =>
              exact .bind (fixed_of_prepares (prepares_saveJobs _)) fun _ =>
                .bind (progressed _) fun _ => .bind (fixed_of_relays relays_cleanupLidarrQueue)
                  fun _ => .pure _
  refine .bind (progressed _) fun _ => .bind checked fun _ => .bind (.ask rfl) fun key => ?_
  split
  · exact .pure _
  · refine .bind (.ask rfl) fun found => .bind (fixed_raising found) fun reply => ?_
    dsimp only
    split
    · exact .pure _
    · refine .bind checked fun _ => .bind (fixed_raising _) fun items =>
        .bind (fixed_raising _) fun files => ?_
      split
      · exact .pure _
      · exact .bind checked fun _ => .bind (progressed _) fun _ => .bind (.ask rfl) fun _ =>
          .bind (.ask rfl) fun posted => .bind (fixed_raising posted) fun _ => confirmed files

/-- The result of a promote: where it is an import, nothing is owed. -/
def Promoted (audits : List Int) (result : ActionResult) (ledger : Ledger) : Prop :=
  ledger.Covered audits ∧
    (result.outcome.any importedOutcome = true → ledger.Settled)

theorem triple_promoted {program : Work α} {result : ActionResult} (fixed : program.Fixed) :
    settling.Triple (Promoted audits result) program (fun _ => Promoted audits result)
      fun _ => Promoted audits result := by
  apply (Surroundings.Triple.of_within fixed ?_).imp (fun _ => id) (fun _ _ => id)
    fun _ _ => And.right
  intro before call answer after fixed promoted step
  rw [step.1]
  exact ⟨covered_see fixed promoted.1, fun imported => settled_see fixed (promoted.2 imported)⟩

/-- The outcome of the import that an operator has asked for. -/
theorem triple_setOutcome (outcome : ImportOutcome) :
    settling.Triple (Covered audits) (ask handler (.setV2ImportOutcome outcome))
      (fun _ => Promoted audits { status := 200, outcome := some outcome }) fail := by
  apply Surroundings.Triple.ask
  intro before answer after covered step
  rw [step.1]
  constructor
  · exact covered_see rfl covered
  · intro imported
    rw [Option.any_some] at imported
    simp only [see, owes, imported, if_true, Settled]

theorem triple_promoteVerifiedImport {place : SidecarPlace} {record : SidecarRecord} :
    settling.Triple (Switching (importedOutcome record.outcome) audits)
      (promoteVerifiedImport false handler place record) (Promoted audits)
      fun _ => Covered audits := by
  have covered {β : Type} {program : Work β} (fixed : program.Fixed) : settling.Triple
      (Covered audits) program (fun _ => Covered audits) fun _ => Covered audits :=
    triple_covered fixed
  rw [promoteVerifiedImport]
  split
  · exact .pure fun _ holds => ⟨holds.covered, holds.settled⟩
  · split
    · exact .pure fun _ holds =>
        ⟨holds.covered, fun impossible => absurd impossible Bool.false_ne_true⟩
    · refine Surroundings.Triple.imp ?_ (fun _ => Switching.covered) (fun _ _ => id) fun _ _ => id
      refine (covered (.pure ())).bind fun _ => (covered (.ask rfl)).bind fun answer =>
        (covered (fixed_raising answer)).bind fun _ =>
          (covered fixed_runManualImportOnly).bind fun outcome =>
            (triple_setOutcome outcome).bind fun _ => ?_
      have kept {β : Type} {program : Work β} (fixed : program.Fixed) : settling.Triple
          (Promoted audits { status := 200, outcome := some outcome }) program
          (fun _ => Promoted audits { status := 200, outcome := some outcome })
          fun _ => Covered audits :=
        (triple_promoted fixed).imp (fun _ => id) (fun _ _ => id) fun _ _ => And.left
      exact (kept (.ask rfl)).bind fun answer => (kept (fixed_raising answer)).bind fun _ =>
        .pure fun _ => id

theorem triple_switchAndPromote (place : SidecarPlace) (record : SidecarRecord) :
    settling.Triple (Switching (importedOutcome record.outcome) [])
      (switchAndPromote place record) (fun _ => Settled) fun _ => Settled := by
  refine (triple_switching rfl fun _ _ => by simp [see, closes]).bind fun albumIds =>
    (triple_operatorReleaseSwitches albumIds).bind fun switched => ?_
  cases switched with
  | mk audits raised =>
      have restored : settling.Triple (Covered audits) (restoreReleaseSwitches .endpoint audits)
          (fun _ => Settled) fun _ => Settled := triple_restoreReleaseSwitches
      have undone {status : Nat} : settling.Triple (Covered audits)
          (do
            restoreReleaseSwitches .endpoint audits
            pure status) (fun _ => Settled) fun _ => Settled :=
        restored.bind fun _ => .pure fun _ => id
      dsimp only
      split
      · exact undone.imp (fun _ => Switching.covered) (fun _ _ => id) fun _ _ => id
      · split
        · next empty =>
            rw [List.isEmpty_iff] at empty
            exact .pure fun _ holds => Covered.settled (empty ▸ holds.covered)
        · have promoted : settling.Triple (Switching (importedOutcome record.outcome) audits)
              (some <$> promoteVerifiedImport false .endpoint place record)
              (fun result ledger => result.elim (ledger.Covered audits) fun result =>
                Promoted audits result ledger) fun _ => Covered audits :=
            triple_promoteVerifiedImport.bind fun _ => .pure fun _ => id
          have imported : settling.Triple (Switching (importedOutcome record.outcome) audits)
              (operatorImport place record)
              (fun result ledger => result.elim (ledger.Covered audits) fun result =>
                Promoted audits result ledger) fun _ => Settled :=
            promoted.tryCatch fun _ => .pure fun _ => id
          apply imported.bind
          intro result
          cases result with
          | none => exact undone
          | some result =>
              dsimp only
              split
              · exact undone.imp (fun _ => And.left) (fun _ _ => id) fun _ _ => id
              · next done =>
                  apply Surroundings.Triple.pure
                  intro ledger promoted
                  apply promoted.2
                  cases named : result.outcome with
                  | none => simp [named] at done
                  | some outcome =>
                      cases outcome with
                      | manualImported => rfl
                      | rescued => rfl
                      | _ => simp [named] at done

theorem triple_verificationReleaseSwitch (enabled : Bool) :
    settling.Triple Settled (verificationReleaseSwitch enabled) (fun _ => Settled)
      fun _ => Settled := by
  have read : settling.Triple Settled (ask .endpoint .readSidecar)
      (fun found ledger => ledger.Settled ∧
        ∀ place record, found = some (place, record) →
          ledger.Switching (importedOutcome record.outcome) [])
      fun _ => Settled := by
    apply Surroundings.Triple.ask
    intro before found after settled step
    rw [step.1]
    have still : (before.see ⟨.endpoint, .readSidecar⟩ found).Settled := settled_see rfl settled
    refine ⟨still, ?_⟩
    rintro place record rfl
    exact ⟨by simp [see, closes], still.covered, fun _ => still⟩
  have settled {op : Op} (fixed : op.switches = false) : settling.Triple Settled
      (ask .endpoint op) (fun _ => Settled) fun _ => Settled := triple_settled (.ask fixed)
  apply (settled rfl).bind
  intro found
  cases found with
  | none => exact .pure fun _ => id
  | some found =>
      dsimp only
      split
      · exact .pure fun _ => id
      · apply (settled rfl).bind
        intro outputExists
        split
        · exact .pure fun _ => id
        · apply read.bind
          intro again
          cases again with
          | none => exact .pure fun _ => And.left
          | some again =>
              cases again with
              | mk place record =>
                  dsimp only
                  split
                  · exact .pure fun _ => And.left
                  · have keyed : settling.Triple
                        (Switching (importedOutcome record.outcome) [])
                        (ask .endpoint .lidarrKey)
                        (fun _ => Switching (importedOutcome record.outcome) [])
                        fun _ => Settled :=
                      triple_switching rfl fun _ _ => by simp [see, closes]
                    refine Surroundings.Triple.imp (keyed.bind fun key => ?_)
                      (fun _ holds => holds.2 place record rfl) (fun _ _ => id) fun _ _ => id
                    split
                    · exact .pure fun _ holds => Covered.settled holds.covered
                    · exact triple_switchAndPromote place record

/-! ## Every run -/

theorem triple_switcher (switcher : Switcher) :
    settling.Triple Settled switcher.program (fun _ => Settled) fun _ => Settled := by
  cases switcher with
  | trigger request => exact triple_triggerLidarrImport
  | endpoint enabled =>
      exact (triple_verificationReleaseSwitch enabled).bind fun _ => .pure fun _ => id

/-- When a run ends, by return or by exception, every switch is used or undone. -/
theorem settled_of_run (switcher : Switcher) {finish : Ledger} {outcome : Except Raised Unit}
    (run : settling.Run {} switcher.program finish outcome) : finish.Settled := by
  have initially : Settled {} := rfl
  have ends := Surroundings.Triple.iff_run.mp (triple_switcher switcher) _ _ _ initially run
  cases outcome <;> exact ends

/-! ## Playing an import with a switch -/

/-- Every call is answered by `replies`. -/
def reply (replies : (call : Call) → call.op.Answer) (before : Ledger) (call : Call) :
    call.op.Answer × Ledger :=
  (replies call, before.see call (replies call))

theorem answers_reply (replies : (call : Call) → call.op.Answer) (before : Ledger) (call : Call) :
    surroundings.answers before call (reply replies before call).1
      (reply replies before call).2 := rfl

/-- The settings of the automatic switch. -/
def automatic : ImportRequest where
  v2Enabled := true
  autoReleaseSwitch := true
  soulseek := false
  targetAlbumId := .null

/-- Lidarr has another release of album 3, which fits better. -/
def switchable : (call : Call) → call.op.Answer
  | ⟨_, .lookup⟩ => .ok [{ matchedItem with rejections := ["missing tracks"] }]
  | ⟨_, .switchCandidate albumId⟩ =>
      .ok (some ⟨albumId, some (.number 9), some (.number 10), true⟩)
  | ⟨_, op⟩ => op.usual

/-- After the switch the candidates are not to be had. -/
def lookupLost : (call : Call) → call.op.Answer
  | ⟨_, .getManualImport⟩ => .error "Read timed out."
  | call => switchable call

/-- The switch is made and the files are imported. -/
theorem settled_of_run_automatic :
    ∃ finish, (∃ outcome, settling.Run {} (Switcher.trigger automatic).program finish outcome) ∧
      finish.Settled := by
  have run : settling.Run _ _ _ _ := Surroundings.run_restrict_play
    (answers_reply switchable) (Switcher.trigger automatic).program {} (by decide +kernel)
  exact ⟨_, ⟨_, run⟩, settled_of_run (.trigger automatic) run⟩

/-- Album 3 stays switched. -/
theorem not_settled_lookupLost : ¬∀ (switcher : Switcher) (finish : Ledger)
    (outcome : Except Raised Unit),
      surroundings.Run {} switcher.program finish outcome → finish.Settled := by
  intro every
  have settled := every (.trigger automatic) _ _
    (Surroundings.run_play (answers_reply lookupLost) _ _)
  have owed : (Surroundings.play (reply lookupLost)
      (Switcher.trigger automatic).program {}).1.owed = [3] := by
    decide +kernel
  rw [Settled, owed] at settled
  contradiction

end Ledger

end Mintarr.Lane
