import Mintarr.Lane.Plain

/-!
# Where an exception comes from

What a bookkeeping function raises is the exception of the call it has just made.  So
what an exception says, and where it is raised, can be read off the answers of the calls.
-/

namespace Mintarr.Lane

open Lib Policy Import

variable {α β : Type}

/-- The exception that an answer raises. The check of the cancel flag swallows its own. -/
def Op.exception : (op : Op) → op.Answer → Option String
  | .sourceExists _, .error text | .commandPending, .error text
  | .updateRecordImportOutcome, .error text | .markDownloadCancelled, .error text
  | .saveJobs _, .error text | .hideFromLidarr, .error text
  | .setWorkerProgress _, .error text | .recordJobTiming _, .error text
  | .act _, .error text | .copySource _, .error text | .writeSidecar .., .error text
  | .getAlbum _, .error text | .getArtist _, .error text | .refreshArtist _, .error text
  | .upsertFromSidecar _, .error text | .processResult, .error text
  | .downloadedCount, .error text | .copiedBytes, .error text | .slskdRequest, .error text
  | .importedCount, .error text | .registeredTrackFiles _, .error text
  | .listSource, .error text | .slskdPaths, .error text | .listFiles _, .error text
  | .outputFiles, .error text | .measureItem _, .error text | .futureResult _, .error text
  | .fetchTrackfiles, .error text | .readBackRecord, .error text
  | .terminalProgress .., .error text | .switchCandidate _, .error text
  | .searchArtists, .error text | .artistAlbums _, .error text
  | .postManualImport _, .error text | .verificationError, text
  | .getManualImport, .error text | .lookup, .error text => some text
  | .getManualImport, .ok (status, .error text) => if status = 200 then some text else none
  | .switchAlbum _, reply | .restoreAlbum _, reply =>
      match reply.status with
      | .error text => some text
      | .ok _ => none
  | _, _ => none

/-- The call may leave the projection failed, or with another error. -/
def Op.fails : Op → Bool
  | .saveJobs update => update.status = some .failed || update.error.isSome
  | .markDownloadCancelled => true
  | _ => false

/-- The call switches the release of an album, or switches it back. -/
def Op.switches : Op → Bool
  | .switchAlbum _ | .restoreAlbum _ => true
  | _ => false

/-- The call neither fails the job nor switches a release, and has no part in its end. -/
def Op.ordinary (op : Op) : Bool :=
  (op.plain || op.processes) && !op.fails && !op.switches

/-- The exception is that of the answer. -/
def relayed (call : Call) (answer : call.op.Answer) (error : Raised) : Prop :=
  ∃ text, call.op.exception answer = some text ∧ error = .error text

section Raising

variable {allowed : Call → Prop} {handler : Handler} {op : Op}
  {value : op.Answer → Except String α}

/-- A call whose exception is raised, and what follows. -/
theorem relays_raising_bind {next : α → Work β} (permitted : allowed ⟨handler, op⟩)
    (exception : ∀ answer text, value answer = .error text → op.exception answer = some text)
    (rest : ∀ value, Program.Relays allowed relayed (next value)) :
    Program.Relays allowed relayed
      (Lane.ask handler op >>= fun answer => Lane.raising (value answer) >>= next) := by
  refine ⟨permitted, fun answer => ?_⟩
  change (∃ error, (Lane.raising (value answer) >>= next) = .throw error ∧ _) ∨
    Program.Relays _ _ (Lane.raising (value answer) >>= next)
  cases raises : value answer with
  | ok value => exact .inr (rest value)
  | error text => exact .inl ⟨.error text, rfl, text, exception answer text raises, rfl⟩

/-- A call whose exception is raised. -/
theorem relays_raising (permitted : allowed ⟨handler, op⟩)
    (exception : ∀ answer text, value answer = .error text → op.exception answer = some text) :
    Program.Relays allowed relayed
      (Lane.ask handler op >>= fun answer => Lane.raising (value answer)) := by
  refine ⟨permitted, fun answer => ?_⟩
  change (∃ error, Lane.raising (value answer) = .throw error ∧ _) ∨
    Program.Relays _ _ (Lane.raising (value answer))
  cases raises : value answer with
  | ok value => exact .inr trivial
  | error text => exact .inl ⟨.error text, rfl, text, exception answer text raises, rfl⟩

end Raising

/-- The program makes ordinary calls under a handler, and raises what they answer. -/
abbrev Work.Relays (handler : Handler) (program : Work α) : Prop :=
  Program.Relays (fun call : Call => call.handler = handler ∧ call.op.ordinary = true) relayed
    program

namespace Work.Relays

variable {handler : Handler}

theorem pure (value : α) : Work.Relays handler (Pure.pure value : Work α) :=
  Program.Relays.pure value

theorem ask {op : Op} (ordinary : op.ordinary = true) : Work.Relays handler (Lane.ask handler op) :=
  Program.Relays.ask ⟨rfl, ordinary⟩

theorem bind {program : Work α} {next : α → Work β} (first : program.Relays handler)
    (rest : ∀ value, (next value).Relays handler) : (program >>= next).Relays handler :=
  Program.Relays.bind first rest

/-- A call whose exception is raised, and what follows. -/
theorem raising_bind {op : Op} {value : op.Answer → Except String α} {next : α → Work β}
    (ordinary : op.ordinary = true)
    (exception : ∀ answer text, value answer = .error text → op.exception answer = some text)
    (rest : ∀ value, (next value).Relays handler) :
    Work.Relays handler
      (Lane.ask handler op >>= fun answer => Lane.raising (value answer) >>= next) :=
  relays_raising_bind ⟨rfl, ordinary⟩ exception rest

/-- A call whose exception is raised. -/
theorem raising {op : Op} {value : op.Answer → Except String α} (ordinary : op.ordinary = true)
    (exception : ∀ answer text, value answer = .error text → op.exception answer = some text) :
    Work.Relays handler (Lane.ask handler op >>= fun answer => Lane.raising (value answer)) :=
  relays_raising ⟨rfl, ordinary⟩ exception

end Work.Relays

variable {handler : Handler} {request : ImportRequest} {result : VerificationResult}

theorem relays_setWorkerProgress (stage : String) :
    (setWorkerProgress handler stage).Relays handler :=
  .raising rfl (by rintro _ text rfl; rfl)

theorem relays_recordJobTiming (stage : String) :
    (recordJobTiming handler stage).Relays handler :=
  .raising rfl (by rintro _ text rfl; rfl)

theorem relays_act {step : LocalStep} (ordinary : (Op.act step).ordinary = true) :
    (act handler step).Relays handler :=
  .raising ordinary (by rintro _ text rfl; rfl)

theorem relays_saveJobs {update : JobUpdate}
    (ordinary : (Op.saveJobs update).ordinary = true) :
    (saveJobs handler update).Relays handler :=
  .raising ordinary (by rintro _ text rfl; rfl)

theorem relays_markImportCompleted : (markImportCompleted handler).Relays handler :=
  relays_saveJobs rfl

theorem relays_cleanupLidarrQueue : (cleanupLidarrQueue handler).Relays handler :=
  .bind (.ask rfl) fun _ => relays_recordJobTiming _

theorem relays_writeVerificationSidecar (archived : Bool) :
    (writeVerificationSidecar handler result archived).Relays handler := by
  refine .bind (.ask rfl) fun existing => .raising_bind rfl (by rintro _ text rfl; rfl) fun _ => ?_
  cases existing with
  | none => exact .pure _
  | some found =>
      dsimp only
      generalize (if archived then SidecarPlace.blockedDecisions else .outputDir) = place
      split
      · exact .bind (.ask rfl) fun _ => .pure _
      · exact .pure _

theorem relays_maybeWriteV2Sidecar (archived : Bool) :
    (maybeWriteV2Sidecar handler request result archived).Relays handler := by
  unfold maybeWriteV2Sidecar
  split
  · exact relays_writeVerificationSidecar archived
  · exact .pure _

theorem relays_completeImport (outcome : ImportOutcome) :
    (completeImport handler request result outcome).Relays handler := by
  refine .bind (relays_recordJobTiming _) fun _ => .bind (.ask rfl) fun _ => ?_
  split
  · exact .bind (relays_writeVerificationSidecar false) fun _ => .bind (.ask rfl) fun _ =>
      relays_markImportCompleted
  · exact relays_markImportCompleted

/-! ## The rescue -/

theorem relays_rescueFile (moved : Nat) (file : ImportFile) :
    (rescueFile handler moved file).Relays handler := by
  refine .raising_bind rfl (by rintro _ text rfl; rfl) fun found => ?_
  cases found with
  | false => exact .pure _
  | true =>
      refine .bind (.ask rfl) fun copied => ?_
      cases copied with
      | true => exact .pure _
      | false => exact .pure _

theorem relays_placeAndRescan (files : List ImportFile) :
    (placeAndRescan handler files).Relays handler := by
  refine .bind (.ask rfl) fun enabled => ?_
  split
  · exact .pure _
  · cases files with
    | nil => exact .pure _
    | cons first others =>
        refine .raising_bind rfl (by rintro _ text rfl; rfl) fun _ =>
          .raising_bind rfl (by rintro _ text rfl; rfl) fun _ =>
            .bind (.ask rfl) fun contained => ?_
        split
        · exact .pure _
        · refine .bind (relays_act rfl) fun _ =>
            .bind (Program.Relays.foldlM relays_rescueFile) fun moved => ?_
          split
          · exact .pure _
          · refine .raising_bind rfl (by rintro _ text rfl; rfl) fun _ =>
              .raising_bind rfl (by rintro _ text rfl; rfl) fun registered => ?_
            split
            · exact .bind (.ask rfl) fun _ =>
                .raising_bind rfl (by rintro _ text rfl; rfl) fun _ => .pure _
            · exact .bind (.ask rfl) fun _ => .pure _

end Mintarr.Lane
