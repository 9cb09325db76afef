import Mintarr.Restore.Apply

/-!
# What file operations change

Which operations touch the files or the marker, and which operations the programs of a
restore are made of.
-/

namespace Mintarr.Restore

open Lib

variable (sqlite : Sqlite)

/-- The file system, where its replies meet a guard. -/
abbrev operations (guard : Disk → Call → Reply → Prop) : Surroundings Call Answer Disk :=
  (fileSystem sqlite).surroundings guard

/-! ## What the file system changes -/

/-- A call that changes neither files nor marker nor zips. -/
def Call.Idle : Call → Prop
  | .replaceMarker _ | .unlinkMarker | .replaceTarget _ _ | .unlinkTarget _ | .markerIsFile
  | .replaceZip _ _ | .unlinkZip _ => False
  | _ => True

/-- A call that changes neither files nor zips. -/
def Call.Harmless : Call → Prop
  | .replaceTarget _ _ | .unlinkTarget _ | .replaceZip _ _ | .unlinkZip _ => False
  | _ => True

/-- A call that changes no file. -/
def Call.KeepsFiles : Call → Prop
  | .replaceTarget _ _ | .unlinkTarget _ => False
  | _ => True

/-- A call that leaves the marker and does not look for it. -/
def Call.KeepsMarker : Call → Prop
  | .replaceMarker _ | .unlinkMarker | .markerIsFile => False
  | _ => True

theorem idle_harmless (call : Call) (idle : call.Idle) : call.Harmless := by
  cases call <;> trivial

theorem harmless_keepsFiles (call : Call) (harmless : call.Harmless) : call.KeepsFiles := by
  cases call <;> trivial

theorem idle_keepsFiles (call : Call) (idle : call.Idle) : call.KeepsFiles :=
  harmless_keepsFiles call (idle_harmless call idle)

/-- What a disk holds of files, marker and zips, and its history. -/
structure Disk.Same (disk other : Disk) : Prop where
  files : disk.files = other.files
  kept : disk.kept = other.kept
  marker : disk.marker = other.marker
  zip : disk.zip = other.zip
  replacing : disk.replacing = other.replacing

section Calls

variable {sqlite} {guard : Disk → Call → Reply → Prop} {before after : Disk} {call : Call}
  {answer : Answer call}

theorem same_of_idle (idle : call.Idle)
    (answered : (operations sqlite guard).answers before call answer after) :
    after.Same before := by
  rcases answered with ⟨reply, _, responds⟩
  cases call with
  | replaceMarker | unlinkMarker | replaceTarget | unlinkTarget | markerIsFile | replaceZip
  | unlinkZip => exact absurd idle id
  | readMarker | zipIsFile | readZip | readMember | buildSafetyZip =>
      cases responds
      exact ⟨rfl, rfl, rfl, rfl, rfl⟩
  | replaceSafety | replaceStatus | scratch =>
      cases reply with
      | done =>
          cases responds
          exact ⟨rfl, rfl, rfl, rfl, rfl⟩
      | fails text =>
          cases responds
          exact ⟨rfl, rfl, rfl, rfl, rfl⟩

theorem files_of_keepsFiles (keeps : call.KeepsFiles)
    (answered : (operations sqlite guard).answers before call answer after) :
    after.files = before.files ∧ after.kept = before.kept := by
  by_cases idle : call.Idle
  · have same := same_of_idle idle answered
    exact ⟨same.files, same.kept⟩
  · rcases answered with ⟨reply, _, responds⟩
    cases call with
    | replaceTarget | unlinkTarget => exact absurd keeps id
    | markerIsFile =>
        cases responds
        exact ⟨rfl, rfl⟩
    | replaceMarker | unlinkMarker | replaceZip | unlinkZip =>
        cases reply with
        | done =>
            cases responds
            exact ⟨rfl, rfl⟩
        | fails text =>
            cases responds
            exact ⟨rfl, rfl⟩
    | readMarker | zipIsFile | readZip | readMember | buildSafetyZip | replaceSafety
    | replaceStatus | scratch => exact absurd trivial idle

theorem zip_of_harmless (harmless : call.Harmless)
    (answered : (operations sqlite guard).answers before call answer after) :
    after.zip = before.zip := by
  by_cases idle : call.Idle
  · exact (same_of_idle idle answered).zip
  · rcases answered with ⟨reply, _, responds⟩
    cases call with
    | replaceTarget | unlinkTarget | replaceZip | unlinkZip => exact absurd harmless id
    | markerIsFile =>
        cases responds
        rfl
    | replaceMarker | unlinkMarker =>
        cases reply with
        | done =>
            cases responds
            rfl
        | fails text =>
            cases responds
            rfl
    | readMarker | zipIsFile | readZip | readMember | buildSafetyZip | replaceSafety
    | replaceStatus | scratch => exact absurd trivial idle

theorem marker_of_keepsMarker (keeps : call.KeepsMarker)
    (answered : (operations sqlite guard).answers before call answer after) :
    after.marker = before.marker := by
  by_cases idle : call.Idle
  · exact (same_of_idle idle answered).marker
  · rcases answered with ⟨reply, _, responds⟩
    cases call with
    | replaceMarker | unlinkMarker | markerIsFile => exact absurd keeps id
    | replaceTarget | unlinkTarget | replaceZip | unlinkZip =>
        cases reply with
        | done =>
            cases responds
            rfl
        | fails text =>
            cases responds
            rfl
    | readMarker | zipIsFile | readZip | readMember | buildSafetyZip | replaceSafety
    | replaceStatus | scratch => exact absurd trivial idle

end Calls

/-! ## Programs that change nothing that matters -/

section Within

variable {raises : Raised → Prop}

theorem within_attempt {allowed : Call → Prop} {call : Call} (permitted : allowed call) :
    (attempt call).Within allowed raises := .ask permitted

theorem within_orRaise {allowed : Call → Prop} {α : Type} (answer : Except String α) :
    (orRaise answer).Within allowed fun _ => True := by
  cases answer with
  | ok value => exact .pure value
  | error text => exact .throw trivial

theorem within_scratch {allowed : Call → Prop} (permitted : allowed .scratch) :
    scratch.Within allowed fun _ => True :=
  (within_attempt permitted).bind within_orRaise

theorem within_unlinkScratch {allowed : Call → Prop} (permitted : allowed .scratch) :
    unlinkScratch.Within allowed raises :=
  (within_attempt permitted).bind fun _ => .pure _

theorem within_writeAtomically {allowed : Call → Prop} {replace : Restoring Unit}
    (permitted : allowed .scratch) (within : replace.Within allowed fun _ => True) :
    (writeAtomically replace).Within allowed fun _ => True := by
  have body : (do scratch; replace; pure (Except.ok ()) : Restoring (Except Raised Unit)).Within
      allowed fun _ => True :=
    (within_scratch permitted).bind fun _ => within.bind fun _ => .pure _
  have written : Program.Within allowed (fun _ => True)
      (tryCatch (do scratch; replace; pure (Except.ok ()) : Restoring (Except Raised Unit))
        fun raised => pure (.error raised)) :=
    body.tryCatch fun raised _ => .pure _
  apply written.bind
  intro result
  apply (within_unlinkScratch permitted).bind
  intro _
  cases result with
  | ok value => exact .pure _
  | error raised => exact .throw trivial

theorem within_caught {allowed : Call → Prop} {α : Type} {program : Restoring α}
    (within : program.Within allowed fun _ => True) : (caught program).Within allowed raises := by
  have body : (do pure (.ok (← program)) : Restoring (Except Raised α)).Within allowed
      fun _ => True :=
    within.bind fun _ => .pure _
  exact body.tryCatch fun raised _ => .pure _

theorem within_readJsonFile {allowed : Call → Prop} (permitted : allowed .readMarker) :
    readJsonFile.Within allowed raises := by
  apply (within_attempt permitted).bind
  intro answer
  cases answer with
  | ok marker => exact .pure _
  | error text => exact .pure _

theorem within_unlinkMarker : unlinkMarker.Within Call.KeepsFiles raises := by
  apply Program.Within.bind (within_attempt trivial)
  intro isFile
  cases isFile with
  | false => exact .pure _
  | true => exact Program.Within.bind (within_attempt trivial) fun _ => .pure _

theorem within_unlinkZip {path : ZipPath} : (unlinkZip path).Within Call.KeepsFiles raises := by
  apply Program.Within.bind (within_attempt trivial)
  intro isFile
  cases isFile with
  | false => exact .pure _
  | true => exact Program.Within.bind (within_attempt trivial) fun _ => .pure _

theorem within_safeWriteStatus {status : Status} :
    (safeWriteStatus status).Within Call.Idle raises := by
  have replaced : (do orRaise (← attempt (.replaceStatus status)) : Restoring Unit).Within
      Call.Idle fun _ => True :=
    Program.Within.bind (within_attempt trivial) within_orRaise
  exact (within_writeAtomically trivial replaced).tryCatch fun raised _ => .pure _

theorem within_setMarkerState {request : Marker} {state : MarkerState} :
    (setMarkerState request state).Within Call.Harmless fun _ => True := by
  apply within_writeAtomically trivial
  exact Program.Within.bind (within_attempt trivial) within_orRaise

theorem within_failPreflight {restoreId : Option String} {path : ZipPath} {detail : String} :
    (failPreflight restoreId path detail).Within Call.KeepsFiles raises := by
  have status : ∀ status : Status, (safeWriteStatus status).Within Call.KeepsFiles raises :=
    fun status => within_safeWriteStatus.imp idle_keepsFiles fun _ => id
  exact within_unlinkMarker.bind fun _ => within_unlinkZip.bind fun _ => (status _).bind fun _ => .pure _

theorem within_revalidate {limits : RestoreLimits} {path : ZipPath} :
    (revalidate sqlite limits path).Within Call.Idle fun _ => True := by
  apply Program.Within.bind (within_attempt trivial)
  intro isFile
  split
  · exact .throw trivial
  · apply Program.Within.bind (within_attempt trivial)
    intro answer
    apply (within_orRaise answer).bind
    intro zip
    split
    · exact .throw trivial
    · exact .pure _

theorem within_writeSafetyBackup {restoreId : Option String} :
    (writeSafetyBackup restoreId).Within Call.Idle fun _ => True := by
  apply (within_scratch trivial).bind
  intro _
  have replaced : (do
      let zip ← orRaise (← attempt .buildSafetyZip)
      orRaise (← attempt (.replaceSafety (restoreId.getD "unknown") zip)) :
      Restoring Unit).Within Call.Idle fun _ => True := by
    apply Program.Within.bind (within_attempt trivial)
    intro answer
    apply (within_orRaise answer).bind
    intro zip
    exact Program.Within.bind (within_attempt trivial) within_orRaise
  exact (within_writeAtomically trivial replaced).bind fun _ => .pure _

theorem within_applyEntry {path : ZipPath} {entry : RestoreEntry} :
    (applyEntry path entry).Within Call.KeepsMarker fun _ => True := by
  unfold applyEntry
  split
  · exact .throw trivial
  · next target _ =>
      apply Program.Within.bind (within_attempt trivial)
      intro answer
      apply (within_orRaise answer).bind
      intro data
      have written : (writeTarget target data).Within Call.KeepsMarker fun _ => True := by
        apply (within_scratch trivial).bind
        intro _
        apply within_writeAtomically trivial
        exact Program.Within.bind (within_attempt trivial) within_orRaise
      apply written.bind
      intro _
      split
      · apply Program.Within.forM
        intro removed
        exact Program.Within.bind (within_attempt trivial) fun _ => .pure _
      · exact .pure _

theorem within_applyEntries {path : ZipPath} {plan : RestorePlan} :
    (applyEntries path plan).Within Call.KeepsMarker fun _ => True := by
  apply Program.Within.bind (within_attempt trivial)
  intro answer
  apply (within_orRaise answer).bind
  intro _
  apply (Program.Within.forM fun _ => within_applyEntry).bind
  intro _
  exact .forM fun _ => within_applyEntry

theorem within_stageRestore {limits : RestoreLimits} {restoreId : String}
    {zip : Option (List ZipInfo)} :
    (stageRestore sqlite limits restoreId zip).Within Call.KeepsFiles fun _ => True := by
  apply (within_scratch trivial).bind
  intro _
  have free : ensureNoPendingRestore.Within Call.KeepsFiles fun _ => True := by
    apply Program.Within.bind (within_attempt trivial)
    intro isFile
    cases isFile with
    | false => exact .pure _
    | true => exact .throw trivial
  apply free.bind
  intro _
  apply Program.Within.tryCatch
  · apply (within_scratch trivial).bind
    intro _
    apply Program.Within.bind (within_attempt trivial)
    intro answer
    apply (within_orRaise answer).bind
    intro _
    apply Program.Within.bind (within_attempt trivial)
    intro answer
    apply (within_orRaise answer).bind
    intro zip
    split
    · exact .throw trivial
    · apply Program.Within.bind
      · apply within_writeAtomically trivial
        exact Program.Within.bind (within_attempt trivial) within_orRaise
      · exact fun _ => .pure _
  · intro raised _
    apply (within_unlinkScratch trivial).bind
    intro _
    apply within_unlinkZip.bind
    intro _
    exact .throw trivial

theorem within_cancelStagedRestore :
    cancelStagedRestore.Within Call.KeepsFiles fun _ => True := by
  apply Program.Within.bind (within_attempt trivial)
  intro isFile
  split
  · exact .throw trivial
  · apply (within_readJsonFile trivial).bind
    intro request
    split
    · exact .throw trivial
    · apply Program.Within.bind (within_attempt trivial)
      intro answer
      apply (within_orRaise answer).bind
      intro _
      apply Program.Within.bind (within_attempt trivial)
      intro isFile
      split
      · apply Program.Within.bind (within_attempt trivial)
        intro answer
        exact (within_orRaise answer).bind fun _ => .pure _
      · exact .pure _

end Within

end Mintarr.Restore
