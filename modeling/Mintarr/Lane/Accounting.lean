import Mintarr.Lane.BackendReports

/-!
# What an import leaves on file

An import ends at one of about fifteen exits, and each of them sets the outcome, writes the
sidecar and marks the projection by hand.  Here the sidecars and the projection are the state
that the calls change, next to what Lidarr has answered, so that what an import files can be
held against what it was told.
-/

namespace Mintarr.Lane

open Lib Policy Import

variable {α β : Type}

/-- The sidecars of a job. -/
abbrev Shelf : Type := SidecarPlace → Option SidecarRecord

namespace Shelf

/-- No sidecar. -/
def empty : Shelf := fun _ => none

/-- This sidecar and no other. -/
def only (place : SidecarPlace) (record : SidecarRecord) : Shelf :=
  Function.update empty place (some record)

/-- The places in the order in which `_find_verification_sidecar` looks. -/
def places : List SidecarPlace :=
  [.outputDir, .outputBase, .blockedDecisions, .discarded, .expiredReview]

/-- `_find_verification_sidecar`, with what it finds. -/
def first (shelf : Shelf) : Option (SidecarPlace × SidecarRecord) :=
  places.findSome? fun place => (shelf place).map (place, ·)

/-- One sidecar at most. -/
def Single (shelf : Shelf) : Prop := shelf = empty ∨ ∃ place record, shelf = only place record

theorem only_self (place : SidecarPlace) (record : SidecarRecord) :
    only place record place = some record := Function.update_self ..

theorem only_of_ne {place other : SidecarPlace} {record : SidecarRecord}
    (different : other ≠ place) : only place record other = none := by
  rw [only, Function.update_of_ne different]
  rfl

theorem first_empty : first empty = none := rfl

theorem first_only (place : SidecarPlace) (record : SidecarRecord) :
    first (only place record) = some (place, record) := by
  cases place <;> rfl

/-- To write over the only sidecar leaves the new one only. -/
theorem update_only (place : SidecarPlace) (old record : SidecarRecord) :
    Function.update (only place old) place (some record) = only place record := by
  rw [only, Function.update_idem, only]

/-- To write elsewhere and to remove the old one does, too. -/
theorem update_update_only {place other : SidecarPlace} (different : other ≠ place)
    (old record : SidecarRecord) :
    Function.update (Function.update (only other old) place (some record)) other none =
      only place record := by
  funext query
  by_cases here : query = other
  · rw [here, Function.update_self, only_of_ne different]
  · rw [Function.update_of_ne here]
    by_cases there : query = place
    · rw [there, Function.update_self, only_self]
    · rw [Function.update_of_ne there, only_of_ne here, only_of_ne there]

end Shelf

/-- The files and the projection of a job, and what Lidarr has said of its import. -/
structure Filing where
  /-- `_jobs[jid]`. -/
  entry : JobEntry
  shelf : Shelf
  /-- How many files were submitted to ManualImport. -/
  posted : Nat := 0
  /-- Lidarr has imported them. -/
  confirmed : Bool := false
  /-- The rescue has reported success. -/
  rescued : Bool := false
  /-- Lidarr has still to run the command. -/
  held : Bool := false

namespace Filing

/-- What a call and its answer change. -/
def see (filing : Filing) : (op : Op) → op.Answer → Filing
  | .saveJobs update, _ => { filing with entry := filing.entry.update update }
  | .markDownloadCancelled, _ =>
      let update := { status := some .failed, error := some "cancelled by user" }
      { filing with entry := filing.entry.update update }
  | .writeSidecar place record, .ok _ =>
      { filing with shelf := Function.update filing.shelf place (some record) }
  | .unlinkSidecar place, true =>
      { filing with shelf := Function.update filing.shelf place none }
  | .deleteOutput, _ => { filing with shelf := Function.update filing.shelf .outputDir none }
  | .postManualImport files, .ok _ =>
      { filing with posted := files.length, confirmed := false }
  | .importedCount, .ok count => { filing with confirmed := count ≥ max 1 filing.posted }
  | .commandPending, .ok pending => { filing with held := pending }
  | .hideFromLidarr, .ok _ => { filing with rescued := true }
  | _, _ => filing

/-- A sidecar is read where it lies, if it can be read. -/
def possible (filing : Filing) : (op : Op) → op.Answer → Prop
  | .readSidecar, found => found = none ∨ found = filing.shelf.first
  | .readBackRecord, .ok record => filing.shelf .outputDir = some record
  | _, _ => True

/-- An import, call by call. -/
def surroundings : Surroundings Call (fun call => call.op.Answer) Filing where
  answers before call answer after :=
    before.possible call.op answer ∧ after = before.see call.op answer

/-! ## Where the books can be kept -/

/-- Lidarr's API key is there. -/
def keyed : (op : Op) → op.Answer → Bool
  | .lidarrKey, found => found
  | _, _ => true

/-- The rescue does not report success. -/
def unrescued : (op : Op) → op.Answer → Bool
  | .hideFromLidarr, .ok _ => false
  | _, _ => true

/-- The call raises. -/
def raises : (op : Op) → op.Answer → Bool
  | .recordJobTiming _, .error _ | .writeSidecar .., .error _ | .saveJobs _, .error _ => true
  | _, _ => false

/-- A sidecar that lies there is read, and removed where it is to be removed. -/
def handles (filing : Filing) : (op : Op) → op.Answer → Bool
  | .readSidecar, found => found = filing.shelf.first
  | .unlinkSidecar _, removed => removed
  | _, _ => true

/-- The step is one of an import with a key, whose fallback on the job title does not succeed,
and in which nothing goes wrong between the success of the rescue and its bookkeeping. -/
def keepsBooks (filing : Filing) (call : Call) (answer : call.op.Answer) : Bool :=
  filing.handles call.op answer &&
    match call.handler with
    | .importToLidarr => keyed call.op answer
    | .titleRescue => unrescued call.op answer
    | .rescue => !(filing.rescued && raises call.op answer)
    | _ => true

/-- The runs of such steps. -/
abbrev bookkeeping : Surroundings Call (fun call => call.op.Answer) Filing :=
  surroundings.restrict fun before call answer _ => before.keepsBooks call answer

/-! ## What holds of the files -/

/-- The status that goes with a record. -/
def statusFor (filing : Filing) (record : SidecarRecord) : Prop :=
  match record.outcome with
  | .manualImported | .rescued => filing.entry.status = some .completed
  | .failed | .skipped => filing.entry.status = some .failed
  | .pending =>
      (filing.held = true ∧ filing.entry.status = some .processing) ∨
        (record.decision = .reviewRequired ∧ filing.entry.status = some .reviewRequired)

/-- There is one sidecar, it says of the import what Lidarr said, and the projection says the
same. -/
def Accounted (filing : Filing) : Prop :=
  ∃ place record, filing.shelf = .only place record ∧
    (record.outcome = .manualImported ↔ filing.confirmed = true) ∧
    (record.outcome = .rescued ↔ filing.rescued = true) ∧ filing.statusFor record

/-- Nothing was imported yet. -/
def Open (filing : Filing) : Prop :=
  filing.shelf.Single ∧ filing.confirmed = false ∧ filing.rescued = false

/-- And the projection says so. -/
def Busy (filing : Filing) : Prop := filing.Open ∧ filing.entry.status = some .processing

theorem Busy.open {filing : Filing} (busy : filing.Busy) : filing.Open := busy.1

/-- One sidecar, which says that the import came to this. -/
def Filed (place : SidecarPlace) (outcome : ImportOutcome) (filing : Filing) : Prop :=
  (∃ record, filing.shelf = .only place record ∧ record.outcome = outcome) ∧
    filing.confirmed = decide (outcome = .manualImported) ∧
    filing.rescued = decide (outcome = .rescued)

/-- The record fits what Lidarr said; with the status, the import is accounted for. -/
theorem Filed.accounted {filing : Filing} {place : SidecarPlace} {outcome : ImportOutcome}
    (filed : filing.Filed place outcome)
    (status : ∀ record : SidecarRecord, record.outcome = outcome → filing.statusFor record) :
    filing.Accounted := by
  obtain ⟨⟨record, shelf, rfl⟩, confirmed, rescued⟩ := filed
  refine ⟨place, record, shelf, ?_, ?_, status record rfl⟩
  · rw [confirmed, decide_eq_true_eq]
  · rw [rescued, decide_eq_true_eq]

variable {filing : Filing} {handler : Handler} {fail : Raised → Filing → Prop}
  {request : ImportRequest} {result : VerificationResult} {audits : List Int}

/-! ## Calls -/

/-- The call changes neither the files nor the projection, nor does it say anything of the
import. -/
def silent : Op → Bool
  | .saveJobs _ | .markDownloadCancelled | .writeSidecar .. | .unlinkSidecar _ | .deleteOutput
  | .postManualImport _ | .importedCount | .commandPending | .hideFromLidarr => false
  | _ => true

/-- Nor the files, nor does it say that the import has succeeded. -/
def harmless : Op → Bool
  | .saveJobs _ | .markDownloadCancelled | .postManualImport _ | .commandPending => true
  | op => silent op

theorem see_of_silent {op : Op} {answer : op.Answer} (unchanged : silent op = true) :
    filing.see op answer = filing := by
  cases op <;> first | rfl | simp [silent] at unchanged

theorem open_see {op : Op} {answer : op.Answer} (keeps : harmless op = true)
    (holds : filing.Open) : (filing.see op answer).Open := by
  cases op with
  | writeSidecar place record => simp [harmless, silent] at keeps
  | unlinkSidecar place => simp [harmless, silent] at keeps
  | deleteOutput => simp [harmless, silent] at keeps
  | importedCount => simp [harmless, silent] at keeps
  | hideFromLidarr => simp [harmless, silent] at keeps
  | postManualImport files =>
      cases answer with
      | ok status => exact ⟨holds.1, rfl, holds.2.2⟩
      | error text => exact holds
  | commandPending => cases answer <;> exact holds
  | _ => exact holds

/-- The program is silent. -/
abbrev Silent (program : Work α) : Prop :=
  program.Within (fun call => silent call.op = true) fun _ => True

/-- The program is harmless. -/
abbrev Harmless (program : Work α) : Prop :=
  program.Within (fun call => harmless call.op = true) fun _ => True

/-- A silent program keeps whatever holds. -/
theorem triple_silent {invariant : Filing → Prop} {program : Work α} (quiet : Silent program) :
    bookkeeping.Triple invariant program (fun _ => invariant) fun _ => invariant := by
  apply (Surroundings.Triple.of_within quiet ?_).imp (fun _ => id) (fun _ _ => id)
    fun _ _ => And.right
  intro before call answer after unchanged holds step
  rw [step.1.2, see_of_silent unchanged]
  exact holds

theorem triple_asked {invariant : Filing → Prop} {op : Op} (unchanged : silent op = true) :
    bookkeeping.Triple invariant (ask handler op) (fun _ => invariant) fail :=
  Surroundings.Triple.ask fun before answer after holds step => by
    rw [step.1.2, see_of_silent unchanged]
    exact holds

theorem triple_harmless {program : Work α} (keeps : Harmless program) :
    bookkeeping.Triple Open program (fun _ => Open) fun _ => Open := by
  apply (Surroundings.Triple.of_within keeps ?_).imp (fun _ => id) (fun _ _ => id)
    fun _ _ => And.right
  intro before call answer after permitted holds step
  rw [step.1.2]
  exact open_see permitted holds

theorem silent_raising (answer : Except String α) : Silent (raising answer) := by
  cases answer with
  | ok value => exact .pure value
  | error text => exact .throw trivial

theorem harmless_of_silent {program : Work α} (quiet : Silent program) : Harmless program := by
  apply quiet.imp _ fun _ => id
  intro call unchanged
  cases op : call.op <;> simp_all [silent, harmless]

/-- A call whose exception is raised. -/
theorem silent_asking {op : Op} {value : op.Answer → Except String α}
    (unchanged : silent op = true) :
    Silent (ask handler op >>= fun answer => raising (value answer)) :=
  .bind (.ask unchanged) fun _ => silent_raising _

theorem silent_setWorkerProgress (stage : String) : Silent (setWorkerProgress handler stage) :=
  silent_asking rfl

theorem silent_recordJobTiming (stage : String) : Silent (recordJobTiming handler stage) :=
  silent_asking rfl

theorem silent_restoreReleaseSwitches (audits : List Int) :
    Silent (restoreReleaseSwitches handler audits) := by
  apply Program.Within.forM
  intro albumId
  split
  · exact .bind (.ask rfl) fun _ => .pure _
  · exact .pure _

theorem silent_cleanupLidarrQueue : Silent (cleanupLidarrQueue handler) :=
  .bind (.ask rfl) fun _ => silent_recordJobTiming _

theorem harmless_raiseIfJobCancelled (tracked : Bool) :
    Harmless (raiseIfJobCancelled tracked handler) := by
  cases tracked with
  | false => exact .pure _
  | true =>
      refine .bind (.ask rfl) fun answer => ?_
      cases answer with
      | error text => exact .pure _
      | ok requested =>
          cases requested with
          | false => exact .pure _
          | true =>
              exact .bind (.ask rfl) fun marked =>
                .bind (harmless_of_silent (silent_raising marked)) fun _ => .throw trivial

/-! ## Writing a sidecar -/

/-- What holds of all but the files. -/
def Blind (others : Filing → Prop) : Prop :=
  ∀ filing shelf, others filing → others { filing with shelf }

/-- A call that raises is none between the success of the rescue and its bookkeeping. -/
theorem not_settled_of_raises {op : Op} {answer : op.Answer}
    (keeps : filing.keepsBooks ⟨handler, op⟩ answer = true) (raised : raises op answer = true) :
    ¬(handler = .rescue ∧ filing.rescued = true) := by
  rintro ⟨rfl, rescued⟩
  simp [keepsBooks, rescued, raised] at keeps

/-- A sidecar is read and removed where it is to be. -/
theorem handles_of_keepsBooks {call : Call} {answer : call.op.Answer}
    (keeps : filing.keepsBooks call answer = true) : filing.handles call.op answer = true := by
  rw [keepsBooks, Bool.and_eq_true] at keeps
  exact keeps.1

/-- What a call that raises leaves. -/
def Raising (handler : Handler) (holds : Filing → Prop) (filing : Filing) : Prop :=
  holds filing ∧ ¬(handler = .rescue ∧ filing.rescued = true)

/-- The sidecar that lies there is found. -/
theorem triple_readSidecar {others : Filing → Prop} :
    bookkeeping.Triple (fun filing => filing.shelf.Single ∧ others filing)
      (ask handler .readSidecar)
      (fun found filing => (filing.shelf.Single ∧ others filing) ∧ found = filing.shelf.first)
      fail := by
  apply Surroundings.Triple.ask
  intro before found after holds step
  have handled : before.handles .readSidecar found = true := handles_of_keepsBooks step.2
  rw [step.1.2]
  exact ⟨holds, of_decide_eq_true handled⟩

/-- A sidecar that is to be removed is removed. -/
theorem triple_unlinkSidecar {pre : Filing → Prop} (place : SidecarPlace) :
    bookkeeping.Triple pre (ask handler (.unlinkSidecar place))
      (fun _ filing => ∃ before, pre before ∧
        filing = { before with shelf := Function.update before.shelf place none }) fail := by
  apply Surroundings.Triple.ask
  intro before removed after holds step
  have handled : before.handles (.unlinkSidecar place) removed = true :=
    handles_of_keepsBooks step.2
  have gone : removed = true := handled
  refine ⟨before, holds, ?_⟩
  rw [step.1.2, gone]
  rfl

/-- One sidecar with this record. -/
def Holds (place : SidecarPlace) (record : SidecarRecord) (others : Filing → Prop)
    (filing : Filing) : Prop :=
  filing.shelf = .only place record ∧ others filing

/-- Where a sidecar was written over at most one other, and the other is removed, it is the only
one. -/
theorem triple_writeVerificationSidecar (others : Filing → Prop) (blind : Blind others)
    (archived : Bool) :
    bookkeeping.Triple (fun filing => filing.shelf.Single ∧ others filing)
      (writeVerificationSidecar handler result archived)
      (fun _ filing => ∃ existing,
        filing.Holds (if archived then .blockedDecisions else .outputDir)
          (verificationRecord result existing) others)
      fun _ => Raising handler fun filing => filing.shelf.Single ∧ others filing := by
  rw [writeVerificationSidecar]
  generalize (if archived then SidecarPlace.blockedDecisions else .outputDir) = place
  apply triple_readSidecar.bind
  intro existing
  let record := verificationRecord result (existing.map (·.2))
  have written : bookkeeping.Triple
      (fun filing => (filing.shelf.Single ∧ others filing) ∧ existing = filing.shelf.first)
      (ask handler (.writeSidecar place record) >>= raising)
      (fun _ filing => ∃ shelf : Shelf, shelf.Single ∧ existing = shelf.first ∧
        filing.shelf = Function.update shelf place (some record) ∧ others filing)
      fun _ => Raising handler fun filing => filing.shelf.Single ∧ others filing := by
    intro before holds answer after answered
    cases answer with
    | ok value =>
        rw [answered.1.2]
        exact ⟨before.shelf, holds.1.1, holds.2, rfl, blind _ _ holds.1.2⟩
    | error text =>
        rw [answered.1.2]
        exact ⟨holds.1, not_settled_of_raises answered.2 rfl⟩
  apply written.bind
  intro _
  cases existing with
  | none =>
      apply Surroundings.Triple.pure
      rintro filing ⟨shelf, single, found, written, holds⟩
      cases single with
      | inl nothing =>
          refine ⟨none, ?_, holds⟩
          rw [written, nothing]
          rfl
      | inr only =>
          obtain ⟨other, old, rfl⟩ := only
          rw [Shelf.first_only] at found
          contradiction
  | some existing =>
      obtain ⟨old, previous⟩ := existing
      have shelved {filing : Filing} (holds : ∃ shelf : Shelf, shelf.Single ∧
          some (old, previous) = shelf.first ∧
          filing.shelf = Function.update shelf place (some record) ∧ others filing) :
          filing.shelf = Function.update (Shelf.only old previous) place (some record) ∧
            others filing := by
        obtain ⟨shelf, single, found, written, holds⟩ := holds
        cases single with
        | inl nothing =>
            rw [nothing, Shelf.first_empty] at found
            contradiction
        | inr only =>
            obtain ⟨other, last, rfl⟩ := only
            rw [Shelf.first_only] at found
            cases found
            exact ⟨written, holds⟩
      dsimp only
      split
      · next different =>
          refine (triple_unlinkSidecar old).bind fun _ => .pure ?_
          rintro _ ⟨before, holds, rfl⟩
          obtain ⟨written, holds⟩ := shelved holds
          refine ⟨some previous, ?_, blind _ _ holds⟩
          change Function.update before.shelf old none = _
          rw [written, Shelf.update_update_only different]
          rfl
      · next same =>
          apply Surroundings.Triple.pure
          intro filing holds
          obtain ⟨written, holds⟩ := shelved holds
          rw [not_not] at same
          refine ⟨some previous, ?_, holds⟩
          rw [written, same, Shelf.update_only]
          rfl

/-! ## Exits -/

/-- What the import has come to, before it is filed. -/
def Came (outcome : ImportOutcome) (filing : Filing) : Prop :=
  filing.confirmed = decide (outcome = .manualImported) ∧
    filing.rescued = decide (outcome = .rescued)

/-- It can be filed. -/
def Settled (outcome : ImportOutcome) (filing : Filing) : Prop :=
  filing.shelf.Single ∧ filing.Came outcome

/-- The status of the projection. -/
def Shows (status : JobStatus) (filing : Filing) : Prop := filing.entry.status = some status

theorem open_iff_came (outcome : ImportOutcome) (manual : outcome ≠ .manualImported)
    (rescued : outcome ≠ .rescued) :
    filing.Open ↔ filing.Settled outcome := by
  simp [Open, Settled, Came, manual, rescued]

theorem Filed.open {place : SidecarPlace} {outcome : ImportOutcome}
    (filed : filing.Filed place outcome) (manual : outcome ≠ .manualImported)
    (rescued : outcome ≠ .rescued) : filing.Open := by
  obtain ⟨⟨record, shelf, _⟩, came⟩ := filed
  exact (open_iff_came outcome manual rescued).mpr ⟨.inr ⟨place, record, shelf⟩, came⟩

/-- The sidecar of an outcome, whatever else holds. -/
theorem triple_sidecar (others : Filing → Prop) (blind : Blind others) (archived : Bool) :
    bookkeeping.Triple
      (fun filing => filing.Settled result.importOutcome ∧ others filing)
      (writeVerificationSidecar handler result archived)
      (fun _ filing => filing.Filed (if archived then .blockedDecisions else .outputDir)
        result.importOutcome ∧ others filing)
      fun _ => Raising handler fun filing =>
        filing.Settled result.importOutcome ∧ others filing := by
  have both : Blind fun filing => filing.Came result.importOutcome ∧ others filing :=
    fun _ shelf holds => ⟨holds.1, blind _ shelf holds.2⟩
  apply (triple_writeVerificationSidecar _ both archived).imp
  · exact fun _ holds => ⟨holds.1.1, holds.1.2, holds.2⟩
  · rintro _ filing ⟨existing, shelf, came, holds⟩
    exact ⟨⟨⟨_, shelf, rfl⟩, came⟩, holds⟩
  · exact fun _ _ holds => ⟨⟨⟨holds.1.1, holds.1.2.1⟩, holds.1.2.2⟩, holds.2⟩

/-- The sidecar of an outcome. -/
theorem triple_filed (archived : Bool) :
    bookkeeping.Triple (Settled result.importOutcome)
      (writeVerificationSidecar handler result archived)
      (fun _ => Filed (if archived then .blockedDecisions else .outputDir) result.importOutcome)
      fun _ => Raising handler (Settled result.importOutcome) :=
  (triple_sidecar (fun _ => True) (fun _ _ holds => holds) archived).imp
    (fun _ holds => ⟨holds, trivial⟩) (fun _ _ => And.left)
    fun _ _ holds => ⟨holds.1.1, holds.2⟩

/-- The projection gets a status, saved or not. -/
theorem triple_saveStatus {holds : Filing → Prop} {update : JobUpdate} {status : JobStatus}
    (sets : update.status = some status)
    (kept : ∀ filing, holds filing →
      holds { filing with entry := filing.entry.update update }) :
    bookkeeping.Triple holds (saveJobs handler update)
      (fun _ filing => holds filing ∧ filing.Shows status) fun _ => Raising handler holds := by
  intro before initially answer after answered
  have saved : holds (before.see (.saveJobs update) answer) := kept before initially
  cases answer with
  | ok value =>
      rw [answered.1.2]
      refine ⟨saved, ?_⟩
      change (before.entry.update update).status = some status
      rw [JobEntry.update, sets]
      rfl
  | error text =>
      have unsettled : ¬(handler = .rescue ∧ before.rescued = true) :=
        not_settled_of_raises answered.2 rfl
      rw [answered.1.2]
      exact ⟨saved, unsettled⟩

/-- The end of an import that Lidarr did not take is accounted for. -/
theorem triple_closeFailed (enabled : request.v2Enabled = true) (reason : String) :
    bookkeeping.Triple Open (closeFailed handler request result audits reason)
      (fun _ => Accounted) fun _ => Open := by
  let failed := { result with importOutcome := .failed }
  let done (filing : Filing) : Prop := filing.Filed .outputDir .failed ∧ filing.Shows .failed
  have written : bookkeeping.Triple Open
      (maybeWriteV2Sidecar handler request failed false) (fun _ => Filed .outputDir .failed)
      fun _ => Open := by
    rw [maybeWriteV2Sidecar, if_pos enabled]
    exact (triple_filed false).imp
      (fun _ => (open_iff_came .failed (by decide) (by decide)).mp) (fun _ _ => id)
      fun _ _ holds => (open_iff_came .failed (by decide) (by decide)).mpr holds.1
  have marked : bookkeeping.Triple (Filed .outputDir .failed) (markImportFailed handler reason)
      (fun _ => done) fun _ => Open :=
    (triple_saveStatus rfl fun _ => id).imp (fun _ => id) (fun _ _ => id)
      fun _ _ holds => holds.1.open (by decide) (by decide)
  have kept {program : Work Unit} (quiet : Silent program) :
      bookkeeping.Triple done program (fun _ => done) fun _ => Open :=
    (triple_silent quiet).imp (fun _ => id) (fun _ _ => id)
      fun _ _ holds => holds.1.open (by decide) (by decide)
  have ended : bookkeeping.Triple Open (closeFailed handler request result audits reason)
      (fun _ => done) fun _ => Open :=
    (triple_asked rfl).bind fun _ => (triple_asked rfl).bind fun _ => written.bind fun _ =>
      marked.bind fun _ => (kept (silent_restoreReleaseSwitches audits)).bind fun _ =>
        kept silent_cleanupLidarrQueue
  refine ended.imp (fun _ => id) (fun _ filing holds => ?_) fun _ _ => id
  refine holds.1.accounted fun record failed => ?_
  rw [statusFor, failed]
  exact holds.2

theorem triple_failImport (enabled : request.v2Enabled = true) (reason : String) :
    bookkeeping.Triple Open (failImport handler request result audits reason)
      (fun _ => Accounted) fun _ => Open :=
  (triple_silent (silent_recordJobTiming _)).bind fun _ => triple_closeFailed enabled reason

theorem triple_recordJobTiming {holds : Filing → Prop} (stage : String) :
    bookkeeping.Triple holds (recordJobTiming handler stage) (fun _ => holds)
      fun _ => Raising handler holds := by
  intro before initially answer after answered
  cases answer with
  | ok value =>
      rw [answered.1.2]
      exact initially
  | error text =>
      have unsettled : ¬(handler = .rescue ∧ before.rescued = true) :=
        not_settled_of_raises answered.2 rfl
      rw [answered.1.2]
      exact ⟨initially, unsettled⟩

/-- The end of an import whose files are in the library is accounted for, unless a call raises
before. -/
theorem triple_completeImport (enabled : request.v2Enabled = true) {outcome : ImportOutcome}
    (imported : importedOutcome outcome = true) :
    bookkeeping.Triple (Settled outcome) (completeImport handler request result outcome)
      (fun _ => Accounted) fun _ => Raising handler (Came outcome) := by
  let filed := { result with importOutcome := outcome }
  have timed : bookkeeping.Triple (Settled outcome)
      (recordJobTiming handler "lidarr_manualimport_sec") (fun _ => Settled outcome)
      fun _ => Raising handler (Came outcome) :=
    (triple_recordJobTiming _).imp (fun _ => id) (fun _ _ => id)
      fun _ _ holds => ⟨holds.1.2, holds.2⟩
  have written : bookkeeping.Triple (Settled outcome)
      (writeVerificationSidecar handler filed false) (fun _ => Filed .outputDir outcome)
      fun _ => Raising handler (Came outcome) :=
    (triple_filed false).imp (fun _ => id) (fun _ _ => id)
      fun _ _ holds => ⟨holds.1.2, holds.2⟩
  have marked : bookkeeping.Triple (Filed .outputDir outcome) (markImportCompleted handler)
      (fun _ filing => filing.Filed .outputDir outcome ∧ filing.Shows .completed)
      fun _ => Raising handler (Came outcome) :=
    (triple_saveStatus rfl fun _ => id).imp (fun _ => id) (fun _ _ => id)
      fun _ _ holds => ⟨holds.1.2, holds.2⟩
  have ended : bookkeeping.Triple (Settled outcome)
      (completeImport handler request result outcome)
      (fun _ filing => filing.Filed .outputDir outcome ∧ filing.Shows .completed)
      fun _ => Raising handler (Came outcome) := by
    rw [completeImport, if_pos enabled]
    exact timed.bind fun _ => (triple_asked rfl).bind fun _ => written.bind fun _ =>
      (triple_asked rfl).bind fun _ => marked
  refine ended.imp (fun _ => id) (fun _ filing holds => ?_) fun _ _ => id
  refine holds.1.accounted fun record came => ?_
  rw [statusFor, came]
  cases outcome with
  | manualImported => exact holds.2
  | rescued => exact holds.2
  | _ => contradiction

/-- Lidarr has still to run the command. -/
def Waiting (filing : Filing) : Prop := filing.Busy ∧ filing.held = true

/-- The end of an import that Lidarr has still to run is accounted for. -/
theorem triple_leavePending (enabled : request.v2Enabled = true) :
    bookkeeping.Triple Waiting (leavePending request result audits) (fun _ => Accounted)
      fun _ _ => True := by
  let pending := { result with importOutcome := .pending }
  have anyhow {pre : Filing → Prop} {program : Work Unit} {post : Unit → Filing → Prop}
      {fail : Raised → Filing → Prop} (triple : bookkeeping.Triple pre program post fail) :
      bookkeeping.Triple pre program post fun _ _ => True :=
    triple.imp (fun _ => id) (fun _ _ => id) fun _ _ _ => trivial
  let going (filing : Filing) : Prop :=
    filing.held = true ∧ filing.entry.status = some .processing
  let done (filing : Filing) : Prop := filing.Filed .outputDir .pending ∧ going filing
  have written : bookkeeping.Triple Waiting
      (maybeWriteV2Sidecar .importToLidarr request pending false) (fun _ => done)
      fun _ _ => True := by
    rw [maybeWriteV2Sidecar, if_pos enabled]
    refine (anyhow (triple_sidecar going (fun _ _ holds => holds) false)).imp
      (fun filing holds => ?_) (fun _ _ => id) fun _ _ => id
    exact ⟨(open_iff_came .pending (by decide) (by decide)).mp holds.1.1, holds.2, holds.1.2⟩
  have saved : bookkeeping.Triple done (saveJobs .importToLidarr {}) (fun _ => done)
      fun _ _ => True := by
    intro before holds answer after answered
    have same : done (before.see (.saveJobs {}) answer) := holds
    cases answer with
    | ok value =>
        rw [answered.1.2]
        exact same
    | error text => trivial
  have ended : bookkeeping.Triple Waiting (leavePending request result audits) (fun _ => done)
      fun _ _ => True :=
    (anyhow (triple_silent (silent_recordJobTiming _))).bind fun _ =>
      (triple_asked rfl).bind fun _ => written.bind fun _ =>
        (anyhow (triple_silent (silent_restoreReleaseSwitches audits))).bind fun _ => saved
  refine ended.imp (fun _ => id) (fun _ filing holds => ?_) fun _ _ => id
  refine holds.1.accounted fun record came => ?_
  rw [statusFor, came]
  exact .inl holds.2

/-! ## The rescue -/

theorem silent_of_rescues {op : Op} (rescues : op.rescues = true) : silent op = true := by
  cases op <;> first | rfl | simp [Op.rescues] at rescues

/-- The rescue has placed the files, which the fallback does not. -/
def Placed (handler : Handler) (filing : Filing) : Prop :=
  filing.Settled .rescued ∧ handler ≠ .titleRescue

theorem triple_hideFromLidarr :
    bookkeeping.Triple Open (ask handler .hideFromLidarr)
      (fun answer filing => (answer = .ok () → filing.Placed handler) ∧
        (answer ≠ .ok () → filing.Open)) fail := by
  intro before holds answer after answered
  cases answer with
  | ok value =>
      rw [answered.1.2]
      refine ⟨fun _ => ⟨⟨holds.1, holds.2.1, rfl⟩, ?_⟩, fun impossible => absurd rfl impossible⟩
      rintro rfl
      have unrescued := answered.2
      simp [keepsBooks, Filing.unrescued] at unrescued
  | error text =>
      rw [answered.1.2]
      exact ⟨fun impossible => by contradiction, fun _ => holds⟩

theorem triple_raise {invariant : Filing → Prop} (answer : Except String α) :
    bookkeeping.Triple invariant (raising answer) (fun _ => invariant) fun _ => invariant :=
  triple_silent (silent_raising answer)

theorem triple_rescuePlaceAndRescan (files : List ImportFile) :
    bookkeeping.Triple Open (rescuePlaceAndRescan true handler files)
      (fun rescued filing => (rescued = true → filing.Placed handler) ∧
        (rescued = false → filing.Open)) fun _ => Open :=
  (triple_harmless (harmless_raiseIfJobCancelled true)).bind fun _ =>
    triple_placeAndRescan_of (fun rescues => triple_asked (silent_of_rescues rescues))
      triple_raise triple_hideFromLidarr files

/-- The fallback on the job title ends the import as failed, or not at all. -/
theorem triple_titleRescue (enabled : request.v2Enabled = true) :
    bookkeeping.Triple Open (titleRescue request result audits)
      (fun ends filing => (ends = true → filing.Accounted) ∧ (ends = false → filing.Open))
      fun _ => Open := by
  have unplaced : bookkeeping.Triple (Placed .titleRescue)
      (recordJobTiming .titleRescue "lidarr_manualimport_sec") (fun _ => Accounted)
      fun _ => Open := fun _ holds => absurd rfl holds.2
  exact triple_titleRescue_of (fun rescues => triple_asked (silent_of_rescues rescues))
    triple_raise triple_rescuePlaceAndRescan unplaced (triple_closeFailed enabled _)

theorem triple_zeroCandidates (enabled : request.v2Enabled = true) :
    bookkeeping.Triple Open (zeroCandidates request result audits) (fun _ => Accounted)
      fun _ => Open := by
  have handled : bookkeeping.Triple Open
      (tryCatch (titleRescue request result audits) fun _ => pure false)
      (fun ends filing => (ends = true → filing.Accounted) ∧ (ends = false → filing.Open))
      fun _ => Open :=
    (triple_titleRescue enabled).tryCatch fun _ => .pure fun _ holds =>
      ⟨fun impossible => absurd impossible Bool.false_ne_true, fun _ => holds⟩
  apply handled.bind
  intro ends
  cases ends with
  | true => exact .pure fun _ holds => holds.1 rfl
  | false =>
      exact (triple_failImport enabled _).imp (fun _ holds => holds.2 rfl) (fun _ _ => id)
        fun _ _ => id

/-- After the rescue the import is accounted for as rescued, or as failed. -/
theorem triple_rescueAfterManualImport (enabled : request.v2Enabled = true)
    (files : List ImportFile) :
    bookkeeping.Triple Open (rescueAfterManualImport request result audits files)
      (fun _ => Accounted) fun _ => Open := by
  have completed : bookkeeping.Triple (fun filing => filing.Placed .rescue)
      (completeImport .rescue request result .rescued) (fun _ => Accounted) fun _ => Open := by
    apply (triple_completeImport enabled rfl).imp (fun _ => And.left) (fun _ _ => id)
    intro _ filing raised
    exact absurd ⟨rfl, raised.1.2⟩ raised.2
  have body : bookkeeping.Triple Open
      (do
        if ← rescuePlaceAndRescan true .rescue files then
          completeImport .rescue request result .rescued
        else
          failImport .rescue request result audits "manualimport and rescue failed")
      (fun _ => Accounted) fun _ => Open := by
    apply (triple_rescuePlaceAndRescan files).bind
    intro rescued
    cases rescued with
    | true => exact completed.imp (fun _ holds => holds.1 rfl) (fun _ _ => id) fun _ _ => id
    | false =>
        exact (triple_failImport enabled _).imp (fun _ holds => holds.2 rfl) (fun _ _ => id)
          fun _ _ => id
  exact body.tryCatch fun _ => triple_failImport enabled _

/-! ## ManualImport -/

/-- However the program raises, the import is not filed. -/
theorem triple_anyhow {pre : Filing → Prop} {program : Work α} {post : α → Filing → Prop}
    {fail : Raised → Filing → Prop} (triple : bookkeeping.Triple pre program post fail) :
    bookkeeping.Triple pre program post fun _ _ => True :=
  triple.imp (fun _ => id) (fun _ _ => id) fun _ _ _ => trivial

theorem triple_busy {program : Work α} (quiet : Silent program) :
    bookkeeping.Triple Busy program (fun _ => Busy) fun _ _ => True :=
  triple_anyhow (triple_silent quiet)

/-- A job that is not cancelled goes on as before. -/
theorem triple_raiseIfJobCancelled :
    bookkeeping.Triple Busy (raiseIfJobCancelled true .importToLidarr) (fun _ => Busy)
      fun _ _ => True := by
  apply (triple_asked rfl).bind
  intro answer
  cases answer with
  | error text => exact .pure fun _ => id
  | ok requested =>
      cases requested with
      | false => exact .pure fun _ => id
      | true =>
          have asked : bookkeeping.Triple Busy (ask .importToLidarr .markDownloadCancelled)
              (fun _ _ => True) fun _ _ => True := .ask fun _ _ _ _ _ => trivial
          have marked : bookkeeping.Triple Busy
              (ask .importToLidarr .markDownloadCancelled >>= raising) (fun _ _ => True)
              fun _ _ => True :=
            asked.bind fun answer => triple_raise answer
          exact marked.bind fun _ => .throw fun _ => id

/-- An update that sets no status. -/
theorem triple_saveNothing {update : JobUpdate} (nothing : update.status = none) :
    bookkeeping.Triple Busy (saveJobs handler update) (fun _ => Busy) fun _ _ => True := by
  intro before holds answer after answered
  have same : (before.see (.saveJobs update) answer).Busy := by
    refine ⟨holds.1, ?_⟩
    change (before.entry.update update).status = some .processing
    rw [JobEntry.update, nothing]
    exact holds.2
  cases answer with
  | ok value =>
      rw [answered.1.2]
      exact same
  | error text => trivial

/-- Past the command Lidarr is asked how many files it has imported. -/
def Counted (files : List ImportFile) (count : Nat) (filing : Filing) : Prop :=
  filing.shelf.Single ∧ filing.entry.status = some .processing ∧ filing.rescued = false ∧
    filing.confirmed = decide (count ≥ max 1 files.length)

/-- From the last cancel check on, the import is accounted for as Lidarr reports it. -/
theorem triple_postManualImport (enabled : request.v2Enabled = true) (files : List ImportFile) :
    bookkeeping.Triple Busy (postManualImport request result audits files) (fun _ => Accounted)
      fun _ _ => True := by
  let sent (filing : Filing) : Prop := filing.Busy ∧ filing.posted = files.length
  have posted : bookkeeping.Triple Busy
      (ask .importToLidarr (.postManualImport files) >>= raising) (fun _ => sent)
      fun _ _ => True := by
    intro before holds answer after answered
    cases answer with
    | ok status =>
        rw [answered.1.2]
        exact ⟨⟨⟨holds.1.1, rfl, holds.1.2.2⟩, holds.2⟩, rfl⟩
    | error text => trivial
  have counted : bookkeeping.Triple sent (ask .importToLidarr .importedCount >>= raising)
      (Counted files) fun _ _ => True := by
    intro before holds answer after answered
    cases answer with
    | ok count =>
        rw [answered.1.2]
        refine ⟨holds.1.1.1, holds.1.2, holds.1.1.2.2, ?_⟩
        change decide (count ≥ max 1 before.posted) = _
        rw [holds.2]
    | error text => trivial
  have pending : bookkeeping.Triple Busy (ask .importToLidarr .commandPending >>= raising)
      (fun pending filing => filing.Busy ∧ filing.held = pending) fun _ _ => True := by
    intro before holds answer after answered
    cases answer with
    | ok pending =>
        rw [answered.1.2]
        exact ⟨holds, rfl⟩
    | error text => trivial
  refine (triple_asked rfl).bind fun _ => triple_raiseIfJobCancelled.bind fun _ =>
    posted.bind fun _ => (triple_anyhow (triple_silent (silent_setWorkerProgress _))).bind
      fun _ => counted.bind fun count => ?_
  split
  · next enough =>
      refine (triple_anyhow (triple_completeImport enabled rfl)).imp (fun filing holds => ?_)
        (fun _ _ => id) fun _ _ => id
      refine ⟨holds.1, ?_, holds.2.2.1⟩
      rw [holds.2.2.2, decide_eq_true enough]
      rfl
  · next short =>
      refine Surroundings.Triple.imp (pending.bind fun pending => ?_) (fun filing holds => ?_)
        (fun _ _ => id) fun _ _ => id
      · cases pending with
        | true => exact triple_leavePending enabled
        | false =>
            exact (triple_anyhow (triple_rescueAfterManualImport enabled files)).imp
              (fun _ holds => holds.1.open) (fun _ _ => id) fun _ _ => id
      · refine ⟨⟨holds.1, ?_, holds.2.2.1⟩, holds.2.1⟩
        rw [holds.2.2.2, decide_eq_false short]

/-- An import that fails while it is still under way. -/
theorem triple_fails (enabled : request.v2Enabled = true) (reason : String) :
    bookkeeping.Triple Busy (failImport .importToLidarr request result audits reason)
      (fun _ => Accounted) fun _ _ => True :=
  (triple_anyhow (triple_failImport enabled reason)).imp (fun _ => Busy.open) (fun _ _ => id)
    fun _ _ => id

theorem silent_manualimportTargetGuardFailure (target : Queue.Scalar)
    (items : List ManualImportItem) :
    Silent (manualimportTargetGuardFailure request target items) := by
  rw [manualimportTargetGuardFailure]
  split
  · exact .pure _
  · split
    · exact .ask rfl
    · exact .pure _

theorem triple_importCandidates (enabled : request.v2Enabled = true) (target : Queue.Scalar)
    (items : List ManualImportItem) :
    bookkeeping.Triple Busy (importCandidates request target result audits items)
      (fun _ => Accounted) fun _ _ => True := by
  apply (triple_busy (silent_manualimportTargetGuardFailure target items)).bind
  intro reason
  cases reason with
  | some reason => exact triple_fails enabled reason
  | none =>
      apply (triple_busy (silent_raising _)).bind
      intro files
      split
      · exact triple_fails enabled _
      · exact triple_postManualImport enabled files

theorem triple_manualImport (enabled : request.v2Enabled = true) (target : Queue.Scalar) :
    bookkeeping.Triple Busy (manualImport request target result audits) (fun _ => Accounted)
      fun _ _ => True := by
  refine (triple_busy (silent_setWorkerProgress _)).bind fun _ =>
    (triple_asked rfl).bind fun found => (triple_busy (silent_raising found)).bind fun reply => ?_
  dsimp only
  split
  · exact triple_fails enabled _
  · apply (triple_busy (silent_raising _)).bind
    intro items
    split
    · exact (triple_anyhow (triple_zeroCandidates enabled)).imp (fun _ => Busy.open)
        (fun _ _ => id) fun _ _ => id
    · exact triple_importCandidates enabled target items

theorem triple_switchAndImport (enabled : request.v2Enabled = true) (target : Queue.Scalar)
    (items : List ManualImportItem) :
    bookkeeping.Triple Busy (switchAndImport request target items result) (fun _ => Accounted)
      fun _ _ => True := by
  have switches : Silent (maybeAutoReleaseSwitch request items result) := by
    apply (within_maybeAutoReleaseSwitch items).imp _ fun _ _ => trivial
    intro call switching
    cases op : call.op <;> first | rfl | simp [op, Op.switching] at switching
  apply (triple_busy switches).bind
  intro audits
  split
  · exact (triple_asked rfl).bind fun found => (triple_busy (silent_raising found)).bind fun _ =>
      triple_manualImport enabled target
  · exact triple_manualImport enabled target

/-! ## The gates -/

/-- A candidate that is refused is filed among the blocked decisions. -/
theorem triple_refused {context : ImportContext} (enabled : context.v2Enabled = true)
    {first : VerificationResult} {error : String} {events : List Event}
    (refused : context.refuse first error = .stopped events result) :
    bookkeeping.Triple Busy (events.forM (performEvent result)) (fun _ => Accounted)
      fun _ _ => True := by
  cases refused
  let skipped := { first with importOutcome := .skipped }
  let filed : Filing → Prop := Filed .blockedDecisions .skipped
  let done (filing : Filing) : Prop := filed filing ∧ filing.Shows .failed
  have written : bookkeeping.Triple Busy
      ((context.sidecar true).forM (performEvent skipped)) (fun _ => filed) fun _ _ => True := by
    rw [ImportContext.sidecar, if_pos enabled]
    refine Surroundings.Triple.bind ((triple_anyhow (triple_filed true)).imp
      (fun _ holds => ?_) (fun _ _ => id) fun _ _ => id) fun _ => .pure fun _ => id
    exact (open_iff_came .skipped (by decide) (by decide)).mp holds.1
  have deleted : bookkeeping.Triple filed
      ((if context.outputContained then [Event.outputDeleted] else []).forM
        (performEvent skipped)) (fun _ => filed) fun _ _ => True := by
    split
    · have gone : bookkeeping.Triple filed (performEvent skipped .outputDeleted)
          (fun _ => filed) fun _ _ => True := by
        intro before holds answer after answered
        obtain ⟨⟨record, shelf, came⟩, said⟩ := holds
        rw [answered.1.2]
        refine ⟨⟨record, ?_, came⟩, said⟩
        change Function.update before.shelf .outputDir none = _
        rw [shelf, Function.update_eq_self_iff, Shelf.only_of_ne (by decide)]
      exact gone.bind fun _ => .pure fun _ => id
    · exact .pure fun _ => id
  have failed : bookkeeping.Triple filed ([Event.jobFailed error].forM (performEvent skipped))
      (fun _ => done) fun _ _ => True :=
    (triple_anyhow (triple_saveStatus rfl fun _ => id)).bind fun _ => .pure fun _ => id
  have blocked : Silent (context.blocklist.forM (performEvent skipped)) := by
    rw [ImportContext.blocklist]
    split
    · exact .bind (.bind (.ask rfl) fun _ => .pure _) fun _ => .pure _
    · exact .pure _
  have cleaned : Silent ([Event.queueCleaned].forM (performEvent skipped)) :=
    .bind silent_cleanupLidarrQueue fun _ => .pure _
  have logged : bookkeeping.Triple Busy
      ([Event.decisionLogged (decisionRecord context.v2Enabled skipped)].forM
        (performEvent skipped)) (fun _ => Busy) fun _ _ => True :=
    (triple_asked rfl).bind fun _ => .pure fun _ => id
  have ended : bookkeeping.Triple Busy (List.forM _ (performEvent skipped)) (fun _ => done)
      fun _ _ => True :=
    ((((logged.forM_append written).forM_append deleted).forM_append failed).forM_append
      (triple_anyhow (triple_silent blocked))).forM_append (triple_anyhow (triple_silent cleaned))
  refine ended.imp (fun _ => id) (fun _ filing holds => ?_) fun _ _ => id
  refine holds.1.accounted fun record came => ?_
  rw [statusFor, came]
  exact holds.2

/-- A candidate that is held for review is filed as pending. -/
theorem triple_createReviewRequired (pending : result.importOutcome = .pending)
    (reviewed : result.verificationDecision = .reviewRequired) :
    bookkeeping.Triple Busy (createReviewRequired result) (fun _ => Accounted)
      fun _ _ => True := by
  let recorded (record : SidecarRecord) (filing : Filing) : Prop :=
    filing.Holds .outputDir record (Came .pending) ∧ record.outcome = .pending ∧
      record.decision = .reviewRequired
  have written : bookkeeping.Triple Busy (writeVerificationSidecar .importToLidarr result false)
      (fun _ filing => ∃ record, recorded record filing) fun _ _ => True := by
    refine (triple_anyhow (triple_writeVerificationSidecar (Came .pending)
      (fun _ _ holds => holds) false)).imp (fun _ holds => ?_) (fun _ filing holds => ?_)
      fun _ _ => id
    · exact (open_iff_came .pending (by decide) (by decide)).mp holds.1
    · obtain ⟨existing, holds⟩ := holds
      exact ⟨_, holds, pending, reviewed⟩
  have read : bookkeeping.Triple (fun filing => ∃ record, recorded record filing)
      (ask .importToLidarr .readBackRecord >>= raising) recorded fun _ _ => True := by
    intro before holds answer after answered
    cases answer with
    | error text => trivial
    | ok record =>
        obtain ⟨filed, holds⟩ := holds
        have found : before.shelf .outputDir = some record := answered.1.1
        rw [holds.1.1, Shelf.only_self] at found
        cases found
        rw [answered.1.2]
        exact holds
  have rewritten (record : SidecarRecord) (done : Bool) : bookkeeping.Triple (recorded record)
      (ask .importToLidarr (.writeSidecar .outputDir { record with blocklistDone := done }) >>=
        raising)
      (fun _ => recorded { record with blocklistDone := done }) fun _ _ => True := by
    intro before holds answer after answered
    cases answer with
    | error text => trivial
    | ok value =>
        rw [answered.1.2]
        refine ⟨⟨?_, holds.1.2⟩, holds.2⟩
        change Function.update before.shelf .outputDir _ = _
        rw [holds.1.1, Shelf.update_only]
  have saved (record : SidecarRecord) : bookkeeping.Triple (recorded record)
      (saveJobs .importToLidarr { status := some .reviewRequired, lidarrHold := some true })
      (fun _ => Accounted) fun _ _ => True := by
    refine (triple_anyhow (triple_saveStatus rfl fun _ => id)).imp (fun _ => id)
      (fun _ filing holds => ?_) fun _ _ => id
    obtain ⟨⟨⟨shelf, came⟩, outcome, decision⟩, status⟩ := holds
    have filed : filing.Filed .outputDir .pending := ⟨⟨record, shelf, outcome⟩, came⟩
    refine ⟨.outputDir, record, shelf, ?_, ?_, ?_⟩
    · rw [outcome, came.1, decide_eq_true_eq]
    · rw [outcome, came.2, decide_eq_true_eq]
    · rw [statusFor, outcome]
      exact .inr ⟨decision, status⟩
  refine written.bind fun _ => read.bind fun record => ?_
  dsimp only
  split
  · exact (triple_asked rfl).bind fun done => (rewritten record done).bind fun _ => saved _
  · exact saved record

/-- A candidate that the gates stop is accounted for, one that they let through is under way. -/
theorem triple_passGates {context : ImportContext} (enabled : context.v2Enabled = true) :
    bookkeeping.Triple Busy (passGates context)
      (fun passed filing => passed.elim filing.Accounted fun _ => filing.Busy)
      fun _ _ => True := by
  cases gates : context.gates with
  | raised =>
      rw [passGates, gates]
      exact (triple_asked rfl).bind fun text => .throw fun _ _ => trivial
  | stopped events result =>
      rw [passGates, gates]
      dsimp only
      split
      · next skipped =>
          cases ImportContext.refused_or_held gates with
          | inl refused =>
              obtain ⟨first, error, refused⟩ := refused
              exact (triple_refused enabled refused).bind fun _ => .pure fun _ => id
          | inr held =>
              rw [held.1] at skipped
              contradiction
      · next unskipped =>
          cases ImportContext.refused_or_held gates with
          | inl refused =>
              obtain ⟨first, error, refused⟩ := refused
              cases refused
              contradiction
          | inr held =>
              exact (triple_asked rfl).bind fun _ =>
                (triple_createReviewRequired held.1 held.2).bind fun _ => .pure fun _ => id
  | proceeds events result =>
      rw [passGates, gates]
      have steps : bookkeeping.Triple Busy (events.forM (performEvent result)) (fun _ => Busy)
          fun _ _ => True := by
        apply Surroundings.Triple.forM
        intro event member
        have passing := passes_of_gates gates event member
        cases event with
        | decisionLogged record => exact triple_asked rfl
        | warned warning => exact triple_saveNothing rfl
        | _ => simp [passes] at passing
      exact steps.bind fun _ => .pure fun _ => id

/-- The readings before the gates leave the import under way. -/
theorem triple_evaluate :
    bookkeeping.Triple Busy (evaluate request)
      (fun context filing => filing.Busy ∧ context.v2Enabled = request.v2Enabled)
      fun _ _ => True :=
  (triple_busy (silent_setWorkerProgress _)).bind fun _ => (triple_asked rfl).bind fun found =>
    (triple_busy (silent_raising found)).bind fun _ => (triple_asked rfl).bind fun _ => (triple_busy (silent_recordJobTiming _)).bind fun _ =>
      (triple_busy (silent_setWorkerProgress _)).bind fun _ => (triple_asked rfl).bind fun _ =>
        (triple_busy (silent_recordJobTiming _)).bind fun _ =>
          (triple_busy (silent_setWorkerProgress _)).bind fun _ => .pure fun _ holds =>
            ⟨holds, rfl⟩

theorem triple_resolveTarget :
    bookkeeping.Triple Busy (resolveTarget request) (fun _ => Busy) fun _ _ => True := by
  rw [resolveTarget]
  split
  · apply (triple_asked rfl).bind
    intro inferred
    cases inferred with
    | none => exact .pure fun _ => id
    | some albumId => exact (triple_saveNothing rfl).bind fun _ => .pure fun _ => id
  · exact .pure fun _ => id

/-- The key is there. -/
theorem triple_lidarrKey :
    bookkeeping.Triple Busy (ask .importToLidarr .lidarrKey)
      (fun key filing => filing.Busy ∧ key = true) fail := by
  apply Surroundings.Triple.ask
  intro before key after holds step
  have keeps := step.2
  rw [step.1.2]
  refine ⟨holds, ?_⟩
  cases key with
  | true => rfl
  | false => simp [keepsBooks, keyed] at keeps

theorem triple_triggerLidarrImport (enabled : request.v2Enabled = true) :
    bookkeeping.Triple Busy (triggerLidarrImport request) (fun _ => Accounted)
      fun _ _ => True := by
  refine triple_raiseIfJobCancelled.bind fun _ => triple_lidarrKey.bind fun key => ?_
  cases key with
  | false => exact fun _ holds => absurd holds.2 Bool.false_ne_true
  | true =>
      refine Surroundings.Triple.imp (triple_resolveTarget.bind fun target =>
        triple_evaluate.bind fun context => ?_) (fun _ => And.left) (fun _ _ => id) fun _ _ => id
      intro filing holds
      have gates := triple_passGates (holds.2.trans enabled)
      refine (gates.bind fun passed => ?_) filing holds.1
      cases passed with
      | none => exact .pure fun _ => id
      | some result => exact triple_switchAndImport enabled target context.items

/-- An import that is under way with at most one sidecar of an earlier attempt, and that
returns, leaves one sidecar, whose outcome is what Lidarr has said of the import, and a status
of the job that goes with it. -/
theorem accounted_of_run (enabled : request.v2Enabled = true) {start finish : Filing}
    (single : start.shelf.Single) (confirmed : start.confirmed = false)
    (rescued : start.rescued = false) (processing : start.entry.status = some .processing)
    (run : bookkeeping.Run start (triggerLidarrImport request) finish (.ok ())) :
    finish.Accounted := by
  have busy : start.Busy := ⟨⟨single, confirmed, rescued⟩, processing⟩
  exact Surroundings.Triple.iff_run.mp (triple_triggerLidarrImport enabled) _ _ _ busy run

/-! ## Playing an import -/

/-- Every call is answered by `replies`; the sidecars are read as they lie. -/
def reply (replies : (call : Call) → call.op.Answer) (before : Filing) (call : Call) :
    call.op.Answer × Filing :=
  let answer : call.op.Answer :=
    match call with
    | ⟨_, .readSidecar⟩ => before.shelf.first
    | ⟨_, .readBackRecord⟩ => (before.shelf .outputDir).elim (.error "verification.json") .ok
    | call => replies call
  (answer, before.see call.op answer)

theorem answers_reply (replies : (call : Call) → call.op.Answer) (before : Filing)
    (call : Call) :
    surroundings.answers before call (reply replies before call).1
      (reply replies before call).2 := by
  refine ⟨?_, rfl⟩
  cases call with
  | mk handler op =>
      cases op with
      | readSidecar => exact .inr rfl
      | readBackRecord =>
          cases found : before.shelf .outputDir with
          | none => simp [reply, found, possible]
          | some record => simp [reply, found, possible]
      | _ => trivial

/-- A second attempt: the first one was blocked. -/
def secondAttempt : Filing where
  entry := { status := some .processing }
  shelf := .only .blockedDecisions
    { decision := .block, outcome := .skipped, lifecycle := .created }

/-- Lidarr imports nothing, and the rescue places the files. -/
def nothingImported : (call : Call) → call.op.Answer
  | ⟨_, .importedCount⟩ => .ok 0
  | ⟨_, op⟩ => op.usual

/-- The one sidecar says `RESCUED`. -/
theorem accounted_of_run_secondAttempt :
    ∃ finish, bookkeeping.Run secondAttempt (triggerLidarrImport Ledger.automatic) finish
      (.ok ()) ∧ finish.Accounted ∧ finish.rescued = true := by
  have run : bookkeeping.Run _ _ _ _ := Surroundings.run_restrict_play
    (answers_reply nothingImported) (triggerLidarrImport Ledger.automatic) secondAttempt
    (by decide +kernel)
  have returns : (Surroundings.play (reply nothingImported)
      (triggerLidarrImport Ledger.automatic) secondAttempt).2 = .ok () := by
    decide +kernel
  rw [returns] at run
  exact ⟨_, run, accounted_of_run rfl (.inr ⟨_, _, rfl⟩) rfl rfl rfl run, by decide +kernel⟩

end Filing

end Mintarr.Lane
