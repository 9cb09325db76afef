import Mintarr.Lane.Relays

/-!
# Footprints

Which calls the phases of a source grab make before the import, and which the release
switch makes.  Whatever these calls do not touch, the phases keep.
-/

namespace Mintarr.Lane

open Lib Policy Import

variable {α β : Type}

/-- The calls of a grab before its import. -/
def Op.prepares : Op → Bool
  | .isJobCancelRequested | .markDownloadCancelled | .saveJobs _ | .setWorkerProgress _
  | .recordJobTiming _ | .act _ | .adapterRegistered | .pollCount | .processTimedOut
  | .processEnds | .processResult | .downloadedCount | .listSource | .copySource _
  | .slskdRequest | .slskdPaths | .copiedBytes | .slskdFailure | .listFiles _ | .convertFile _
  | .testFile _ | .moveOutput => true
  | _ => false

/-- The program only prepares. -/
abbrev Work.Prepares (program : Work α) : Prop :=
  program.Within (fun call => call.op.prepares = true) fun _ => True

namespace Work.Prepares

theorem pure (value : α) : (Pure.pure value : Work α).Prepares := Program.Within.pure value

theorem throw (error : Raised) : (MonadExcept.throw error : Work α).Prepares :=
  Program.Within.throw trivial

theorem ask {handler : Handler} {op : Op} (prepares : op.prepares = true) :
    (Lane.ask handler op).Prepares := Program.Within.ask prepares

theorem bind {program : Work α} {next : α → Work β} (first : program.Prepares)
    (rest : ∀ value, (next value).Prepares) : (program >>= next).Prepares :=
  Program.Within.bind first rest

theorem raising (answer : Except String α) : (Lane.raising answer).Prepares := by
  cases answer with
  | ok value => exact .pure value
  | error text => exact .throw _

/-- A call whose exception is raised. -/
theorem asking {handler : Handler} {op : Op} {value : op.Answer → Except String α}
    (prepares : op.prepares = true) :
    Work.Prepares (Lane.ask handler op >>= fun answer => Lane.raising (value answer)) :=
  .bind (.ask prepares) fun _ => .raising _

end Work.Prepares

variable {handler : Handler}

theorem prepares_saveJobs (update : JobUpdate) : (saveJobs handler update).Prepares :=
  .asking rfl

theorem prepares_setWorkerProgress (stage : String) :
    (setWorkerProgress handler stage).Prepares := .asking rfl

theorem prepares_recordJobTiming (stage : String) :
    (recordJobTiming handler stage).Prepares := .asking rfl

theorem prepares_act (step : LocalStep) : (act handler step).Prepares := .asking rfl

theorem prepares_raiseIf (condition : Bool) (text : String) :
    (raiseIf condition text).Prepares := by
  cases condition with
  | true => exact .throw _
  | false => exact .pure _

theorem prepares_raiseIfJobCancelled (tracked : Bool) :
    (raiseIfJobCancelled tracked handler).Prepares := by
  cases tracked with
  | false => exact .pure _
  | true =>
      refine .bind (.ask rfl) ?_
      rintro (text | _ | _)
      · exact .pure _
      · exact .pure _
      · exact .bind (.ask rfl) fun _ => .bind (.raising _) fun _ => .throw _

theorem prepares_pollProcess (polls : Nat) : (pollProcess polls).Prepares := by
  induction polls with
  | zero => exact .pure _
  | succ polls ih =>
      refine .bind (Program.Within.tryCatch (prepares_raiseIfJobCancelled true) ?_) fun _ =>
        .bind (.ask rfl) fun timedOut => ?_
      · rintro (_ | text) _
        · refine Work.Prepares.bind (.bind (.ask rfl) fun ended => ?_) fun _ => .throw _
          split
          · exact prepares_act _
          · exact .pure _
        · exact Work.Prepares.throw _
      · cases timedOut with
        | none => exact ih
        | some text => exact .bind (prepares_act _) fun _ => .throw _

theorem prepares_runCancellableSubprocess : runCancellableSubprocess.Prepares :=
  .bind (prepares_act _) fun _ => .bind (.ask rfl) fun polls =>
    .bind (prepares_pollProcess polls) fun _ => .asking rfl

theorem prepares_downloadTidal : downloadTidal.Prepares :=
  .bind (prepares_act _) fun _ => .bind (prepares_act _) fun _ =>
    .bind (prepares_raiseIfJobCancelled true) fun _ => .bind (prepares_setWorkerProgress _) fun _ =>
      .bind prepares_runCancellableSubprocess fun _ => .bind (prepares_raiseIf _ _) fun _ =>
        .bind (prepares_raiseIfJobCancelled true) fun _ =>
          .bind (prepares_setWorkerProgress _) fun _ =>
            .bind prepares_runCancellableSubprocess fun _ => .bind (prepares_raiseIf _ _) fun _ =>
              .bind (.ask rfl) fun _ => .bind (.raising _) fun _ =>
                .bind (prepares_raiseIf _ _) fun _ => prepares_setWorkerProgress _

theorem prepares_copyEntry (entry : SourceEntry) : (copyEntry entry).Prepares := by
  refine .bind (prepares_raiseIfJobCancelled true) fun _ => ?_
  cases entry with
  | symlink path => exact .throw _
  | directory => exact .pure _
  | escape path => exact .throw _
  | file path audio => exact .asking rfl

theorem prepares_copyFolder : copyFolder.Prepares :=
  .bind (prepares_act _) fun _ => .bind (prepares_act _) fun _ =>
    .bind (prepares_setWorkerProgress _) fun _ => .bind (.ask rfl) fun _ =>
      .bind (.raising _) fun _ => .bind (Program.Within.forM prepares_copyEntry) fun _ =>
        .bind (prepares_raiseIf _ _) fun _ => prepares_setWorkerProgress _

theorem prepares_waitForSlskdFiles (expected polls : Nat) :
    (waitForSlskdFiles expected polls).Prepares := by
  induction polls with
  | zero => exact .bind (.ask rfl) fun _ => .throw _
  | succ polls ih =>
      refine .bind (prepares_raiseIfJobCancelled true) fun _ => .bind (.ask rfl) fun _ =>
        .bind (.raising _) fun paths => ?_
      split
      · exact .bind (prepares_act _) fun _ => .pure _
      · exact .bind (prepares_setWorkerProgress _) fun _ => ih

theorem prepares_copySlskdEntry (entry : SourceEntry) : (copySlskdEntry entry).Prepares := by
  refine .bind (prepares_raiseIfJobCancelled true) fun _ => ?_
  split
  · exact .asking rfl
  · exact .pure _

theorem prepares_downloadFromSlskd : downloadFromSlskd.Prepares :=
  .bind (.ask rfl) fun _ => .bind (.raising _) fun _ => .bind (prepares_act _) fun _ =>
    .bind (prepares_setWorkerProgress _) fun _ => .bind (.ask rfl) fun _ =>
      .bind (.raising _) fun _ => .bind (prepares_act _) fun _ => .bind (.ask rfl) fun polls =>
        .bind (prepares_waitForSlskdFiles _ polls) fun _ =>
          .bind (prepares_setWorkerProgress _) fun _ =>
            .bind (Program.Within.forM prepares_copySlskdEntry) fun _ =>
              .bind (.ask rfl) fun _ => .bind (.raising _) fun _ =>
                .bind (prepares_raiseIf _ _) fun _ => prepares_setWorkerProgress _

theorem prepares_downloadRaw (adapter : Adapter) (slskd : Bool) :
    (adapter.downloadRaw slskd).Prepares := by
  cases adapter with
  | tidal => exact prepares_downloadTidal
  | soulseek =>
      cases slskd with
      | true => exact prepares_downloadFromSlskd
      | false => exact prepares_copyFolder
  | _ => exact prepares_copyFolder

theorem prepares_normalizeAudio : normalizeAudio.Prepares :=
  .bind (.ask rfl) fun _ => .bind (.raising _) fun _ => .bind (.ask rfl) fun _ =>
    .bind (.raising _) fun _ => .bind (prepares_setWorkerProgress _) fun _ =>
      .bind (Program.Within.forM fun _ =>
        .bind (prepares_raiseIfJobCancelled true) fun _ => .ask rfl) fun _ =>
        .bind (.ask rfl) fun _ => .bind (.raising _) fun _ => Program.Within.forM fun _ =>
          .bind (prepares_raiseIfJobCancelled true) fun _ => .ask rfl

theorem prepares_prepareOutputDirectory : prepareOutputDirectory.Prepares :=
  .bind (prepares_raiseIfJobCancelled true) fun _ => .bind (.ask rfl) fun _ =>
    .bind (prepares_act _) fun _ => prepares_act _

/-- The download, and its failure. -/
theorem prepares_downloadHandled (adapter : Adapter) (slskd : Bool) :
    Work.Prepares (tryCatch (adapter.downloadRaw slskd) fun
      | .cancelled => throw .cancelled
      | .error text => do
          saveJobs .executor { status := some .failed, error := some text }
          throw (.error text)) := by
  refine Program.Within.tryCatch (prepares_downloadRaw adapter slskd) ?_
  rintro (_ | text) _
  · exact Work.Prepares.throw _
  · exact Work.Prepares.bind (prepares_saveJobs _) fun _ => .throw _

theorem prepares_downloadAndPrepare (adapter : Adapter) (slskd : Bool) :
    (downloadAndPrepare adapter slskd).Prepares :=
  .bind (prepares_saveJobs _) fun _ => .bind (prepares_setWorkerProgress _) fun _ =>
    .bind (prepares_downloadHandled adapter slskd) fun _ =>
      .bind (prepares_recordJobTiming _) fun _ => .bind (prepares_raiseIfJobCancelled true) fun _ =>
        .bind (prepares_saveJobs _) fun _ => .bind prepares_normalizeAudio fun _ =>
          .bind (prepares_raiseIfJobCancelled true) fun _ =>
            .bind prepares_prepareOutputDirectory fun _ => .bind (prepares_recordJobTiming _)
              fun _ => .bind (prepares_recordJobTiming _) fun _ =>
                .bind (prepares_setWorkerProgress _) fun _ => prepares_saveJobs _

/-! ## Before the import -/

variable {request : ImportRequest} {result : VerificationResult}

theorem relays_resolveTarget : (resolveTarget request).Relays .importToLidarr := by
  unfold resolveTarget
  split
  · refine .bind (.ask rfl) fun inferred => ?_
    cases inferred with
    | none => exact .pure _
    | some albumId => exact .bind (relays_saveJobs rfl) fun _ => .pure _
  · exact .pure _

theorem relays_evaluate : (evaluate request).Relays .importToLidarr :=
  .bind (relays_setWorkerProgress _) fun _ =>
    .raising_bind rfl (by rintro _ text rfl; rfl) fun _ => .bind (.ask rfl) fun _ =>
    .bind (relays_recordJobTiming _) fun _ => .bind (relays_setWorkerProgress _) fun _ =>
      .bind (.ask rfl) fun _ => .bind (relays_recordJobTiming _) fun _ =>
        .bind (relays_setWorkerProgress _) fun _ => .pure _

/-- An event after which the import may go on. -/
def passes : Event → Bool
  | .decisionLogged _ | .warned _ => true
  | _ => false

/-- The older gate lets a candidate through with its decision logged and a warning at most. -/
theorem passes_of_legacyGate {context : ImportContext} {first : VerificationResult}
    {events : List Event} (proceeds : context.legacyGate first = .proceeds events result) :
    ∀ event ∈ events, passes event = true := by
  have logged : ∀ event ∈ (if context.v2Enabled then []
      else [Event.decisionLogged (decisionRecord context.v2Enabled first)]), passes event = true := by
    split <;> simp [passes]
  simp only [ImportContext.legacyGate] at proceeds
  split at proceeds
  · cases proceeds
    exact logged
  · split at proceeds
    · split at proceeds
      · contradiction
      · cases proceeds
        simp only [List.mem_append, List.mem_singleton]
        rintro event (member | rfl)
        · exact logged event member
        · rfl
    · cases proceeds
      exact logged

theorem passes_of_gates {context : ImportContext} {events : List Event}
    (proceeds : context.gates = .proceeds events result) :
    ∀ event ∈ events, passes event = true := by
  simp only [ImportContext.gates] at proceeds
  split at proceeds
  · contradiction
  · split at proceeds
    · contradiction
    · split at proceeds
      · contradiction
      · split at proceeds
        · contradiction
        · exact passes_of_legacyGate proceeds

theorem relays_performEvent {event : Event} (passing : passes event = true) :
    (performEvent result event).Relays .importToLidarr := by
  cases event with
  | decisionLogged record => exact .ask rfl
  | warned warning => exact relays_saveJobs rfl
  | _ => simp [passes] at passing

/-! ## Release switches -/

/-- The calls of a release switch. -/
def Op.switching : Op → Bool
  | .audioFileCount | .switchCandidate _ | .switchAlbum _ => true
  | _ => false

/-- The automatic switch raises nothing. -/
theorem within_maybeAutoReleaseSwitch (items : List ManualImportItem) :
    (maybeAutoReleaseSwitch request items result).Within (fun call => call.op.switching = true)
      fun _ => False := by
  have applied (candidate : ReleaseSwitchCandidate) :
      (applyReleaseSwitchCandidate .releaseSwitch candidate).Within
        (fun call => call.op.switching = true) fun _ => True := by
    unfold applyReleaseSwitchCandidate
    split
    · exact .pure _
    · refine .bind (Program.Within.ask rfl) fun reply => .bind ?_ fun _ => .pure _
      cases reply.status with
      | ok status => exact .pure _
      | error text => exact .throw trivial
  have one (albumId : Int) : (autoReleaseSwitch albumId).Within
      (fun call => call.op.switching = true) fun _ => False := by
    refine .tryCatch (?_ : Program.Within _ (fun _ => True) _) fun _ _ => .pure _
    refine .bind (Program.Within.ask rfl) fun answer => .bind ?_ fun found => ?_
    · cases answer with
      | ok value => exact .pure _
      | error text => exact .throw trivial
    · cases found with
      | none => exact .pure _
      | some candidate =>
          dsimp only
          split
          · exact applied _
          · exact .pure _
  unfold maybeAutoReleaseSwitch
  split
  · refine .bind (Program.Within.ask rfl) fun count => ?_
    split
    · exact .pure _
    · exact Program.Within.foldlM fun applied albumId => .bind (one albumId) fun _ => .pure _
  · exact .pure _

/-! ## The rescue, in any surroundings -/

section Rescue

/-- The calls of a rescue and of the fallback on the job title, before the last. -/
def Op.rescues : Op → Bool
  | .rescueEnabled | .getAlbum _ | .getArtist _ | .folderContained | .act _ | .sourceExists _
  | .copyToLibrary _ | .refreshArtist _ | .registeredTrackFiles _ | .logDecision _
  | .searchArtists | .artistAlbums _ | .outputFiles | .recordJobTiming _ => true
  | _ => false

theorem Op.switches_of_rescues {op : Op} (rescues : op.rescues = true) :
    op.switches = false := by
  cases op <;> first | rfl | simp [Op.rescues] at rescues

variable {σ : Type} {surroundings : Surroundings Call (fun call => call.op.Answer) σ}
  {invariant placed ended : σ → Prop} {fail : Raised → σ → Prop}

/-- A rescue that reports success has hidden the download last. -/
theorem triple_placeAndRescan_of
    (asked : ∀ {op : Op}, op.rescues = true →
      surroundings.Triple invariant (ask handler op) (fun _ => invariant) fail)
    (raised : ∀ {β : Type} (answer : Except String β),
      surroundings.Triple invariant (raising answer) (fun _ => invariant) fail)
    (hidden : surroundings.Triple invariant (ask handler .hideFromLidarr)
      (fun answer state => (answer = .ok () → placed state) ∧
        (answer ≠ .ok () → invariant state)) fail)
    (files : List ImportFile) :
    surroundings.Triple invariant (placeAndRescan handler files)
      (fun rescued state => (rescued = true → placed state) ∧ (rescued = false → invariant state))
      fail := by
  have nothing : surroundings.Triple invariant (pure false : Work Bool)
      (fun rescued state => (rescued = true → placed state) ∧ (rescued = false → invariant state))
      fail :=
    .pure fun _ holds => ⟨fun impossible => absurd impossible Bool.false_ne_true, fun _ => holds⟩
  have rounds (moved : Nat) (file : ImportFile) : surroundings.Triple invariant
      (rescueFile handler moved file) (fun _ => invariant) fail := by
    apply (asked rfl).bind
    intro found
    apply (raised found).bind
    intro present
    cases present with
    | false => exact .pure fun _ => id
    | true =>
        apply (asked rfl).bind
        intro copied
        cases copied with
        | true => exact .pure fun _ => id
        | false => exact .pure fun _ => id
  apply (asked rfl).bind
  intro enabled
  split
  · exact nothing
  · cases files with
    | nil => exact nothing
    | cons first others =>
        apply (asked rfl).bind
        intro album
        apply (raised album).bind
        intro _
        apply (asked rfl).bind
        intro artist
        apply (raised artist).bind
        intro _
        apply (asked rfl).bind
        intro contained
        split
        · exact nothing
        · have made : surroundings.Triple invariant (act handler .makeAlbumFolder)
              (fun _ => invariant) fail := (asked rfl).bind fun made => raised made
          apply made.bind
          intro _
          have copied : surroundings.Triple invariant
              ((first :: others).foldlM (rescueFile handler) 0) (fun _ => invariant) fail :=
            Surroundings.Triple.foldlM rounds
          apply copied.bind
          intro moved
          split
          · exact nothing
          · apply (asked rfl).bind
            intro refreshed
            apply (raised refreshed).bind
            intro _
            apply (asked rfl).bind
            intro counted
            apply (raised counted).bind
            intro registered
            split
            · apply (asked rfl).bind
              intro _
              apply hidden.bind
              intro answer
              cases answer with
              | ok _ =>
                  exact .pure fun _ holds => ⟨fun _ => holds.1 rfl,
                    fun impossible => absurd impossible.symm Bool.false_ne_true⟩
              | error text =>
                  have throws : surroundings.Triple invariant (raising (.error text) : Work Bool)
                      (fun _ => invariant) fail := raised (.error text)
                  exact .throw fun state holds =>
                    throws state (holds.2 fun impossible => by contradiction)
            · exact (asked rfl).bind fun _ => nothing

/-- The fallback on the job title ends the import with its files in place, or as failed. -/
theorem triple_titleRescue_of {audits : List Int}
    (asked : ∀ {op : Op}, op.rescues = true →
      surroundings.Triple invariant (ask .titleRescue op) (fun _ => invariant) fail)
    (raised : ∀ {β : Type} (answer : Except String β),
      surroundings.Triple invariant (raising answer) (fun _ => invariant) fail)
    (rescued : ∀ files, surroundings.Triple invariant
      (rescuePlaceAndRescan true .titleRescue files)
      (fun rescued state => (rescued = true → placed state) ∧ (rescued = false → invariant state))
      fail)
    (timed : surroundings.Triple placed
      (recordJobTiming .titleRescue "lidarr_manualimport_sec") (fun _ => ended) fail)
    (closed : surroundings.Triple invariant
      (closeFailed .titleRescue request result audits
        "manualimport returned no candidates and rescue failed")
      (fun _ => ended) fail) :
    surroundings.Triple invariant (titleRescue request result audits)
      (fun ends state => (ends = true → ended state) ∧ (ends = false → invariant state)) fail := by
  have goesOn : surroundings.Triple invariant (pure false : Work Bool)
      (fun ends state => (ends = true → ended state) ∧ (ends = false → invariant state)) fail :=
    .pure fun _ holds => ⟨fun impossible => absurd impossible Bool.false_ne_true, fun _ => holds⟩
  have finished : surroundings.Triple ended (pure true : Work Bool)
      (fun ends state => (ends = true → ended state) ∧ (ends = false → invariant state)) fail :=
    .pure fun _ holds =>
      ⟨fun _ => holds, fun impossible => absurd impossible.symm Bool.false_ne_true⟩
  apply (asked rfl).bind
  intro found
  apply (raised found).bind
  intro hits
  cases hits.find? (·.named) with
  | none => exact goesOn
  | some artist =>
      apply (asked rfl).bind
      intro found
      apply (raised found).bind
      intro albums
      cases albums.find? (·.titled) with
      | none => exact goesOn
      | some album =>
          apply (asked rfl).bind
          intro found
          apply (raised found).bind
          intro paths
          dsimp only
          split
          · exact goesOn
          · apply (rescued _).bind
            intro rescued
            cases rescued with
            | true =>
                have inPlace := timed.bind fun _ => finished
                exact inPlace.imp (fun _ holds => holds.1 rfl) (fun _ _ => id) fun _ _ => id
            | false =>
                have recorded : surroundings.Triple invariant
                    (recordJobTiming .titleRescue "lidarr_manualimport_sec")
                    (fun _ => invariant) fail :=
                  (asked rfl).bind fun answer => raised answer
                have failed := recorded.bind fun _ => closed.bind fun _ => finished
                exact failed.imp (fun _ holds => holds.2 rfl) (fun _ _ => id) fun _ _ => id

end Rescue

end Mintarr.Lane
