import Mintarr.Lib.Machine
import Mintarr.Restore.Operations

/-!
# The restore boundary

Between the first file that an apply replaces and the removal of its marker, the marker says
`applying`, wherever the process dies and whichever operation fails.  A boot that can read
such a marker starts no workers and leaves the marker alone.  One that cannot takes it for
an unknown marker: it skips it or even removes it, and starts the workers.
-/

namespace Mintarr.Restore

open Lib

/-! ## Hosts -/

/-- A machine that runs Mintarr. -/
structure Host where
  disk : Disk
  /-- An apply has begun to replace files and never got to the removal of its marker. -/
  partially : Bool := false

/-- What happens on it, each with the replies of the file system; where they are used up, the
process dies. -/
inductive Event where
  | stage (limits : RestoreLimits) (restoreId : String) (zip : Option (List ZipInfo))
      (script : List Reply)
  | cancel (script : List Reply)
  | boot (enabled : Bool) (limits : RestoreLimits) (script : List Reply)
  /-- Anything else changes files. -/
  | work (files : Files)
  /-- An operator recovers the files and removes the marker. -/
  | recover (files : Files)

variable (sqlite : Sqlite)

/-- A boot, as it starts. -/
def Host.booting (host : Host) : Disk := { host.disk with replacing := false }

/-- What a boot leaves and returns. -/
def Host.boot (enabled : Bool) (limits : RestoreLimits) (script : List Reply) (host : Host) :
    Disk × Option (Except Raised RestoreApplyResult) :=
  (fileSystem sqlite).exec (applyPendingRestore sqlite enabled limits) script host.booting

/-- What an event leaves. -/
def Event.perform : Event → Host → Host
  | .stage limits restoreId zip script, host =>
      { host with
        disk := ((fileSystem sqlite).exec (stageRestore sqlite limits restoreId zip) script
          host.disk).1 }
  | .cancel script, host =>
      { host with disk := ((fileSystem sqlite).exec cancelStagedRestore script host.disk).1 }
  | .boot enabled limits script, host =>
      { disk := (host.boot sqlite enabled limits script).1
        partially := host.partially || (host.boot sqlite enabled limits script).1.replacing }
  | .work files, host => { host with disk := { host.disk with files } }
  | .recover files, host => { disk := { host.disk with files, marker := none } }

/-- The events of a host, one after the other. -/
def restores : Machine Host Event where
  step host event := some (event.perform sqlite host)

/-- `_apply_pending_restore_at_boot` starts the workers where an exception escapes. -/
def startWorkers : Except Raised RestoreApplyResult → Bool
  | .ok result => result.startWorkers
  | .error _ => true

/-- What `_apply_pending_restore_at_boot` returns. -/
theorem exec_atBoot (enabled : Bool) (limits : RestoreLimits) (script : List Reply)
    (disk : Disk) :
    (fileSystem sqlite).exec (applyPendingRestoreAtBoot sqlite enabled limits) script disk =
      (((fileSystem sqlite).exec (applyPendingRestore sqlite enabled limits) script disk).1,
        ((fileSystem sqlite).exec (applyPendingRestore sqlite enabled limits) script
          disk).2.map fun outcome => .ok (startWorkers outcome)) := by
  unfold applyPendingRestoreAtBoot
  generalize applyPendingRestore sqlite enabled limits = program
  induction program generalizing script disk with
  | pure result => rfl
  | throw raised => rfl
  | call call next ih =>
      cases script with
      | nil => rfl
      | cons reply script => exact ih _ script _

/-! ## The condition -/

/-- The marker is read. -/
def Readable (_ : Disk) (call : Call) (reply : Reply) : Prop :=
  call = .readMarker → reply = .done

/-- While files may be partially replaced, a boot can read the marker. -/
def Host.Readable (host : Host) : Event → Prop
  | .boot enabled limits script => host.partially = true →
      (fileSystem sqlite).Meets Restore.Readable (applyPendingRestore sqlite enabled limits)
        script host.booting
  | _ => True

/-- No file is replaced. -/
def ReplacesNothing (_ : Disk) (call : Call) (reply : Reply) : Prop :=
  ∀ target data, call = .replaceTarget target data → reply ≠ .done

/-! ## An interrupted apply is never resumed -/

section Triples

variable {sqlite} {guard : Disk → Call → Reply → Prop}

/-- What depends on files and marker alone. -/
def Settled (holds : Disk → Prop) : Prop := ∀ disk other, Disk.Same disk other → holds other →
  holds disk

/-- An idle program that may raise. -/
theorem crash_idle {α : Type} {program : Restoring α} {holds : Disk → Prop}
    (within : program.Within Call.Idle fun _ => True) (settled : Settled holds) :
    (operations sqlite guard).CrashTriple holds program (fun _ => holds) (fun _ => holds)
      holds := by
  have triple : (operations sqlite guard).CrashTriple holds program (fun _ => holds)
      (fun _ disk => True ∧ holds disk) holds :=
    .of_within within fun before _ _ after idle initially answered =>
      settled after before (same_of_idle idle answered) initially
  exact triple.imp (fun _ => id) (fun _ _ => id) (fun _ _ raised => raised.2) fun _ => id

/-- An idle program that does not. -/
theorem crash_quiet {α : Type} {program : Restoring α} {holds : Disk → Prop}
    {fail : Raised → Disk → Prop} (within : program.Within Call.Idle fun _ => False)
    (settled : Settled holds) :
    (operations sqlite guard).CrashTriple holds program (fun _ => holds) fail holds := by
  have triple : (operations sqlite guard).CrashTriple holds program (fun _ => holds)
      (fun _ disk => False ∧ holds disk) holds :=
    .of_within within fun before _ _ after idle initially answered =>
      settled after before (same_of_idle idle answered) initially
  exact triple.imp (fun _ => id) (fun _ _ => id) (fun _ _ raised => raised.1.elim) fun _ => id

/-- An apply was interrupted. -/
def Disk.Interrupted (disk : Disk) (request : Marker) (files : Files) : Prop :=
  request.state = .applying ∧ disk.marker = some request ∧ disk.files = files

theorem settled_interrupted {request : Marker} {files : Files} :
    Settled fun disk => disk.Interrupted request files := by
  intro disk other same initially
  exact ⟨initially.1, same.marker.trans initially.2.1, same.files.trans initially.2.2⟩

/-- A boot that can read the marker of an interrupted apply starts no workers. -/
theorem crash_interrupted (readable : ∀ disk call reply, guard disk call reply →
      Readable disk call reply) {request : Marker} {files : Files} {enabled : Bool}
    {limits : RestoreLimits} :
    (operations sqlite guard).CrashTriple (fun disk => disk.Interrupted request files)
      (applyPendingRestore sqlite enabled limits)
      (fun result disk => result.startWorkers = false ∧ disk.Interrupted request files)
      (fun _ _ => False) (fun disk => disk.Interrupted request files) := by
  have isFile : (operations sqlite guard).CrashTriple
      (fun disk => disk.Interrupted request files) (attempt .markerIsFile)
      (fun answer disk => (answer : Bool) = true ∧ disk.Interrupted request files)
      (fun _ _ => False) fun disk => disk.Interrupted request files := by
    apply Surroundings.CrashTriple.ask
    · exact fun _ => id
    · intro before answer after initially answered
      rcases answered with ⟨reply, _, responds⟩
      cases responds
      refine ⟨?_, initially⟩
      rw [initially.2.1]
      rfl
  have read : (operations sqlite guard).CrashTriple
      (fun disk => disk.Interrupted request files) readJsonFile
      (fun answer disk => answer = request ∧ disk.Interrupted request files)
      (fun _ _ => False) fun disk => disk.Interrupted request files := by
    have asked : (operations sqlite guard).CrashTriple
        (fun disk => disk.Interrupted request files) (attempt .readMarker)
        (fun answer disk => answer = (Except.ok request : Except String Marker) ∧
          disk.Interrupted request files)
        (fun _ _ => False) fun disk => disk.Interrupted request files := by
      apply Surroundings.CrashTriple.ask
      · exact fun _ => id
      · intro before answer after initially answered
        rcases answered with ⟨reply, met, responds⟩
        have done := readable _ _ _ met rfl
        subst done
        cases responds
        refine ⟨?_, initially⟩
        rw [initially.2.1]
        rfl
    apply asked.bind
    intro answer
    apply Surroundings.CrashTriple.of_fact
    intro same
    subst same
    exact .pure fun _ holds => ⟨rfl, holds⟩
  apply isFile.bind
  intro present
  apply Surroundings.CrashTriple.of_fact
  intro isPresent
  rw [isPresent]
  apply read.bind
  intro answer
  apply Surroundings.CrashTriple.of_fact
  intro same
  subst same
  by_cases applying : answer.state = .applying
  · simp only [applying, if_true]
    apply (crash_quiet within_safeWriteStatus settled_interrupted).bind
    intro _
    exact .pure fun _ holds => ⟨rfl, holds⟩
  · exact .of_never fun disk initially => applying initially.1

/-! ## A partial apply leaves its marker -/

/-- No file was replaced since the marker was looked at. -/
def Disk.Quiet (disk : Disk) : Prop := disk.replacing = false

/-- Where files may be partially replaced, the marker says so. -/
def Disk.Marked (disk : Disk) : Prop :=
  disk.replacing = true → ∃ request, disk.marker = some request ∧ request.state = .applying

theorem Disk.Quiet.marked {disk : Disk} (quiet : disk.Quiet) : disk.Marked := by
  intro replacing
  rw [quiet] at replacing
  contradiction

theorem settled_quiet : Settled Disk.Quiet := by
  intro disk other same quiet
  exact same.replacing.trans quiet

theorem quiet_of_keepsFiles {before after : Disk} {call : Call} {answer : Answer call}
    (keeps : call.KeepsFiles) (quiet : before.Quiet)
    (answered : (operations sqlite guard).answers before call answer after) : after.Quiet := by
  by_cases idle : call.Idle
  · exact settled_quiet after before (same_of_idle idle answered) quiet
  · rcases answered with ⟨reply, _, responds⟩
    cases call with
    | replaceTarget | unlinkTarget => exact absurd keeps id
    | markerIsFile =>
        cases responds
        rfl
    | replaceMarker | unlinkMarker | replaceZip | unlinkZip =>
        cases reply with
        | done =>
            cases responds
            exact quiet
        | fails text =>
            cases responds
            exact quiet
    | readMarker | zipIsFile | readZip | readMember | buildSafetyZip | replaceSafety
    | replaceStatus | scratch => exact absurd trivial idle

/-- A program that replaces no file. -/
theorem crash_quietly {α : Type} {program : Restoring α}
    (within : program.Within Call.KeepsFiles fun _ => True) :
    (operations sqlite guard).CrashTriple Disk.Quiet program (fun _ => Disk.Quiet)
      (fun _ => Disk.Marked) Disk.Marked := by
  have triple : (operations sqlite guard).CrashTriple Disk.Quiet program (fun _ => Disk.Quiet)
      (fun _ disk => True ∧ disk.Quiet) Disk.Quiet :=
    .of_within within fun _ _ _ _ keeps quiet answered =>
      quiet_of_keepsFiles keeps quiet answered
  exact triple.imp (fun _ => id) (fun _ _ => id) (fun _ _ raised => raised.2.marked)
    fun _ => Disk.Quiet.marked

theorem crash_keepsFiles {α : Type} {program : Restoring α}
    (within : program.Within Call.KeepsFiles fun _ => True) :
    (operations sqlite guard).CrashTriple Disk.Quiet program (fun _ => Disk.Marked)
      (fun _ => Disk.Marked) Disk.Marked :=
  (crash_quietly within).imp (fun _ => id) (fun _ _ => Disk.Quiet.marked) (fun _ _ => id)
    fun _ => id

theorem crash_caught {α : Type} {program : Restoring α} {pre killed : Disk → Prop}
    {post : α → Disk → Prop} {fail other : Raised → Disk → Prop}
    (triple : (operations sqlite guard).CrashTriple pre program post fail killed) :
    (operations sqlite guard).CrashTriple pre (caught program)
      (fun result disk =>
        match result with
        | .ok value => post value disk
        | .error raised => fail raised disk) other killed := by
  apply Surroundings.CrashTriple.tryCatch
  · apply triple.bind
    intro value
    exact .pure fun _ holds => holds
  · intro raised
    exact .pure fun _ holds => holds

/-- The file is as it was, or as the replacement leaves it. -/
theorem crash_writeAtomically {replace : Restoring Unit} {pre post killed : Disk → Prop}
    (before : Settled pre) (after : Settled post)
    (triple : (operations sqlite guard).CrashTriple pre replace (fun _ => post) (fun _ => pre)
      killed)
    (cutBefore : ∀ disk, pre disk → killed disk) (cutAfter : ∀ disk, post disk → killed disk) :
    (operations sqlite guard).CrashTriple pre (writeAtomically replace) (fun _ => post)
      (fun _ => pre) killed := by
  have made : (operations sqlite guard).CrashTriple pre scratch (fun _ => pre) (fun _ => pre)
      killed :=
    (crash_idle (within_scratch trivial) before).imp (fun _ => id) (fun _ _ => id)
      (fun _ _ => id) cutBefore
  have written : (operations sqlite guard).CrashTriple pre
      (tryCatch (do scratch; replace; pure (Except.ok ()) : Restoring (Except Raised Unit))
        fun raised => pure (.error raised))
      (fun result disk =>
        match result with
        | .ok _ => post disk
        | .error _ => pre disk)
      (fun _ => pre) killed := by
    apply Surroundings.CrashTriple.tryCatch
    · exact made.bind fun _ => triple.bind fun _ => .pure fun _ holds => holds
    · intro raised
      exact .pure fun _ holds => holds
  apply written.bind
  intro result
  cases result with
  | ok value =>
      have cleared : (operations sqlite guard).CrashTriple post unlinkScratch (fun _ => post)
          (fun _ => pre) killed :=
        (crash_quiet (within_unlinkScratch trivial) after).imp (fun _ => id) (fun _ _ => id)
          (fun _ _ => id) cutAfter
      apply cleared.bind
      intro _
      exact .pure fun _ holds => holds
  | error raised =>
      have cleared : (operations sqlite guard).CrashTriple pre unlinkScratch (fun _ => pre)
          (fun _ => pre) killed :=
        (crash_quiet (within_unlinkScratch trivial) before).imp (fun _ => id) (fun _ _ => id)
          (fun _ _ => id) cutBefore
      apply cleared.bind
      intro _
      exact .throw fun _ holds => holds

/-- The marker says `applying`. -/
def Disk.Applying (disk : Disk) : Prop :=
  ∃ request, disk.marker = some request ∧ request.state = .applying

theorem Disk.Applying.marked {disk : Disk} (applying : disk.Applying) : disk.Marked :=
  fun _ => applying

theorem settled_applying : Settled Disk.Applying := by
  intro disk other same applying
  rcases applying with ⟨request, marker, state⟩
  exact ⟨request, same.marker.trans marker, state⟩

theorem crash_setMarkerState {request : Marker} :
    (operations sqlite guard).CrashTriple Disk.Quiet (setMarkerState request .applying)
      (fun _ => Disk.Applying) (fun _ => Disk.Quiet) Disk.Marked := by
  have replaced : (operations sqlite guard).CrashTriple Disk.Quiet
      (do orRaise (← attempt (.replaceMarker { request with state := .applying })) :
        Restoring Unit)
      (fun _ => Disk.Applying) (fun _ => Disk.Quiet) Disk.Marked := by
    have asked : (operations sqlite guard).CrashTriple Disk.Quiet
        (attempt (.replaceMarker { request with state := .applying }))
        (fun answer disk =>
          match (answer : Except String Unit) with
          | .ok _ => disk.Applying
          | .error _ => disk.Quiet)
        (fun _ => Disk.Quiet) Disk.Marked := by
      apply Surroundings.CrashTriple.ask
      · exact fun _ => Disk.Quiet.marked
      · intro before answer after quiet answered
        rcases answered with ⟨reply, _, responds⟩
        cases reply with
        | done =>
            cases responds
            exact ⟨_, rfl, rfl⟩
        | fails text =>
            cases responds
            exact quiet
    apply asked.bind
    intro answer
    cases answer with
    | ok value => exact .pure fun _ holds => holds
    | error text => exact .throw fun _ holds => holds
  exact crash_writeAtomically settled_quiet settled_applying replaced
    (fun _ => Disk.Quiet.marked) fun _ => Disk.Applying.marked

theorem crash_applyEntries {path : ZipPath} {plan : RestorePlan} :
    (operations sqlite guard).CrashTriple Disk.Applying (applyEntries path plan)
      (fun _ => Disk.Applying) (fun _ => Disk.Applying) Disk.Marked := by
  have triple : (operations sqlite guard).CrashTriple Disk.Applying (applyEntries path plan)
      (fun _ => Disk.Applying) (fun _ disk => True ∧ disk.Applying) Disk.Applying := by
    apply Surroundings.CrashTriple.of_within within_applyEntries
    intro before call answer after keeps applying answered
    rcases applying with ⟨request, marker, state⟩
    exact ⟨request, (marker_of_keepsMarker keeps answered).trans marker, state⟩
  exact triple.imp (fun _ => id) (fun _ _ => id) (fun _ _ raised => raised.2)
    fun _ => Disk.Applying.marked

/-- Looking at the marker is the end of the replacing. -/
theorem crash_unlinkMarker {fail : Raised → Disk → Prop} :
    (operations sqlite guard).CrashTriple Disk.Applying unlinkMarker (fun _ => Disk.Quiet) fail
      Disk.Marked := by
  have asked : (operations sqlite guard).CrashTriple Disk.Applying (attempt .markerIsFile)
      (fun _ => Disk.Quiet) fail Disk.Marked := by
    apply Surroundings.CrashTriple.ask
    · exact fun _ => Disk.Applying.marked
    · intro before answer after _ answered
      rcases answered with ⟨reply, _, responds⟩
      cases responds
      rfl
  apply asked.bind
  intro isFile
  cases isFile with
  | false => exact .pure fun _ holds => holds
  | true =>
      have removed : (operations sqlite guard).CrashTriple Disk.Quiet (attempt .unlinkMarker)
          (fun _ => Disk.Quiet) fail Disk.Marked := by
        apply Surroundings.CrashTriple.ask
        · exact fun _ => Disk.Quiet.marked
        · intro before answer after quiet answered
          have keeps : Call.unlinkMarker.KeepsFiles := trivial
          exact quiet_of_keepsFiles keeps quiet answered
      apply removed.bind
      intro _
      exact .pure fun _ holds => holds

theorem crash_replaceAll {restoreId : Option String} {path : ZipPath} {plan : RestorePlan}
    {safetyBackup : String} :
    (operations sqlite guard).CrashTriple Disk.Applying
      (replaceAll restoreId path plan safetyBackup) (fun _ => Disk.Marked)
      (fun _ => Disk.Marked) Disk.Marked := by
  apply (crash_caught crash_applyEntries).bind
  intro result
  cases result with
  | error raised =>
      have status : ∀ status, (operations sqlite guard).CrashTriple Disk.Applying
          (safeWriteStatus status) (fun _ => Disk.Applying) (fun _ => Disk.Marked)
          Disk.Marked := by
        intro status
        exact (crash_quiet within_safeWriteStatus settled_applying).imp (fun _ => id)
          (fun _ _ => id) (fun _ _ => id) fun _ => Disk.Applying.marked
      apply (status _).bind
      intro _
      exact .pure fun _ => Disk.Applying.marked
  | ok value =>
      apply crash_unlinkMarker.bind
      intro _
      apply crash_keepsFiles
      have status : ∀ status : Status,
          (safeWriteStatus status).Within Call.KeepsFiles fun _ => True :=
        fun status => within_safeWriteStatus.imp idle_keepsFiles fun _ => id
      exact within_unlinkZip.bind fun _ => (status _).bind fun _ => .pure _

theorem crash_applyStaged {limits : RestoreLimits} {request : Marker} :
    (operations sqlite guard).CrashTriple Disk.Quiet (applyStaged sqlite limits request)
      (fun _ => Disk.Marked) (fun _ => Disk.Marked) Disk.Marked := by
  have preflight : ∀ {α : Type} {program : Restoring α},
      program.Within Call.Idle (fun _ => True) →
      (operations sqlite guard).CrashTriple Disk.Quiet (caught program) (fun _ => Disk.Quiet)
        (fun _ => Disk.Marked) Disk.Marked :=
    fun within => crash_quietly (within_caught (within.imp idle_keepsFiles fun _ => id))
  apply (preflight (within_revalidate sqlite)).bind
  intro revalidated
  split
  · exact crash_keepsFiles within_failPreflight
  · exact .throw fun _ => Disk.Quiet.marked
  · next plan =>
      apply (preflight within_writeSafetyBackup).bind
      intro saved
      cases saved with
      | error raised => exact crash_keepsFiles within_failPreflight
      | ok safetyBackup =>
          apply (crash_caught crash_setMarkerState).bind
          intro begun
          cases begun with
          | error raised =>
              exact crash_keepsFiles within_failPreflight
          | ok value => exact crash_replaceAll

/-- Wherever a boot ends, a partial apply is marked. -/
theorem crash_marked {enabled : Bool} {limits : RestoreLimits} :
    (operations sqlite guard).CrashTriple Disk.Quiet (applyPendingRestore sqlite enabled limits)
      (fun _ => Disk.Marked) (fun _ => Disk.Marked) Disk.Marked := by
  have status : ∀ status : Status,
      (safeWriteStatus status).Within Call.KeepsFiles fun _ => True :=
    fun status => within_safeWriteStatus.imp idle_keepsFiles fun _ => id
  have looks : (attempt .markerIsFile).Within Call.KeepsFiles fun _ => True :=
    within_attempt trivial
  apply (crash_quietly looks).bind
  intro isFile
  split
  · exact .pure fun _ => Disk.Quiet.marked
  · apply (crash_quietly (within_readJsonFile trivial)).bind
    intro request
    split
    · exact crash_keepsFiles ((status _).bind fun _ => .pure _)
    · split
      · exact .pure fun _ => Disk.Quiet.marked
      · split
        · exact crash_keepsFiles
            (within_unlinkMarker.bind fun _ => (status _).bind fun _ => .pure _)
        · exact crash_applyStaged

/-! ## Before the first replacement -/

/-- The files are as they were. -/
def Disk.Intact (files : Files) (disk : Disk) : Prop := disk.files = files

theorem settled_intact {files : Files} : Settled (Disk.Intact files) := by
  intro disk other same intact
  exact same.files.trans intact

/-- A program that replaces no file leaves all of them. -/
theorem crash_intact {α : Type} {program : Restoring α} {files : Files}
    (within : program.Within Call.KeepsFiles fun _ => True) :
    (operations sqlite guard).CrashTriple (Disk.Intact files) program
      (fun _ => Disk.Intact files) (fun _ => Disk.Intact files) (Disk.Intact files) := by
  have triple : (operations sqlite guard).CrashTriple (Disk.Intact files) program
      (fun _ => Disk.Intact files) (fun _ disk => True ∧ disk.Intact files)
      (Disk.Intact files) :=
    .of_within within fun _ _ _ _ keeps intact answered =>
      (files_of_keepsFiles keeps answered).1.trans intact
  exact triple.imp (fun _ => id) (fun _ _ => id) (fun _ _ raised => raised.2) fun _ => id

variable (unreplaced : ∀ disk call reply, guard disk call reply →
  ReplacesNothing disk call reply)
include unreplaced

theorem crash_writeTarget {target : Target} {data : Bytes} {files : Files} :
    (operations sqlite guard).CrashTriple (Disk.Intact files) (writeTarget target data)
      (fun _ _ => False) (fun _ => Disk.Intact files) (Disk.Intact files) := by
  have replaced : (operations sqlite guard).CrashTriple (Disk.Intact files)
      (do orRaise (← attempt (.replaceTarget target data)) : Restoring Unit)
      (fun _ _ => False) (fun _ => Disk.Intact files) (Disk.Intact files) := by
    have asked : (operations sqlite guard).CrashTriple (Disk.Intact files)
        (attempt (.replaceTarget target data))
        (fun answer disk =>
          (answer : Except String Unit) ≠ .ok () ∧ disk.Intact files)
        (fun _ => Disk.Intact files) (Disk.Intact files) := by
      apply Surroundings.CrashTriple.ask
      · exact fun _ => id
      · intro before answer after intact answered
        rcases answered with ⟨reply, met, responds⟩
        cases reply with
        | done => exact absurd rfl (unreplaced _ _ _ met target data rfl)
        | fails text =>
            cases responds
            exact ⟨by simp, intact⟩
    apply asked.bind
    intro answer
    cases answer with
    | ok value => exact .of_never fun disk holds => holds.1 rfl
    | error text => exact .throw fun _ holds => holds.2
  apply (crash_intact (within_scratch trivial)).bind
  intro _
  have never : Settled fun _ => False := fun _ _ _ => id
  exact crash_writeAtomically settled_intact never replaced (fun _ => id) fun _ => False.elim

theorem crash_applyEntry {path : ZipPath} {entry : RestoreEntry} {files : Files} :
    (operations sqlite guard).CrashTriple (Disk.Intact files) (applyEntry path entry)
      (fun _ => Disk.Intact files) (fun _ => Disk.Intact files) (Disk.Intact files) := by
  unfold applyEntry
  split
  · exact .throw fun _ => id
  · have read : (attempt (.readMember path entry.name)).Within Call.KeepsFiles
        fun _ => True := within_attempt trivial
    apply (crash_intact read).bind
    intro answer
    apply (crash_intact (within_orRaise answer)).bind
    intro data
    apply (crash_writeTarget unreplaced).bind
    intro _
    exact .of_never fun _ => id

/-- A boot that replaces no file leaves all files as they were. -/
theorem crash_replacesNothing {enabled : Bool} {limits : RestoreLimits} {files : Files} :
    (operations sqlite guard).CrashTriple (Disk.Intact files)
      (applyPendingRestore sqlite enabled limits) (fun _ => Disk.Intact files)
      (fun _ => Disk.Intact files) (Disk.Intact files) := by
  have status : ∀ status : Status,
      (safeWriteStatus status).Within Call.KeepsFiles fun _ => True :=
    fun status => within_safeWriteStatus.imp idle_keepsFiles fun _ => id
  have entries : ∀ path plan, (operations sqlite guard).CrashTriple (Disk.Intact files)
      (applyEntries path plan) (fun _ => Disk.Intact files) (fun _ => Disk.Intact files)
      (Disk.Intact files) := by
    intro path plan
    have read : (attempt (.readZip path)).Within Call.KeepsFiles fun _ => True :=
      within_attempt trivial
    apply (crash_intact read).bind
    intro answer
    apply (crash_intact (within_orRaise answer)).bind
    intro _
    apply (Surroundings.CrashTriple.forM fun _ _ => crash_applyEntry unreplaced).bind
    intro _
    exact .forM fun _ _ => crash_applyEntry unreplaced
  have replaces : ∀ restoreId path plan safetyBackup,
      (operations sqlite guard).CrashTriple (Disk.Intact files)
        (replaceAll restoreId path plan safetyBackup) (fun _ => Disk.Intact files)
        (fun _ => Disk.Intact files) (Disk.Intact files) := by
    intro restoreId path plan safetyBackup
    apply (crash_caught (entries path plan)).bind
    intro result
    cases result with
    | error raised => exact crash_intact ((status _).bind fun _ => .pure _)
    | ok value =>
        exact crash_intact (within_unlinkMarker.bind fun _ => within_unlinkZip.bind fun _ =>
          (status _).bind fun _ => .pure _)
  have looks : (attempt .markerIsFile).Within Call.KeepsFiles fun _ => True :=
    within_attempt trivial
  apply (crash_intact looks).bind
  intro isFile
  split
  · exact .pure fun _ => id
  · apply (crash_intact (within_readJsonFile trivial)).bind
    intro request
    split
    · exact crash_intact ((status _).bind fun _ => .pure _)
    · split
      · exact .pure fun _ => id
      · split
        · exact crash_intact
            (within_unlinkMarker.bind fun _ => (status _).bind fun _ => .pure _)
        · have revalidated : (caught (revalidate sqlite limits request.stagedZip)).Within
              Call.KeepsFiles fun _ => True :=
            within_caught ((within_revalidate sqlite).imp idle_keepsFiles fun _ => id)
          apply (crash_intact revalidated).bind
          intro result
          split
          · exact crash_intact within_failPreflight
          · exact .throw fun _ => id
          · have saved : (caught (writeSafetyBackup request.restoreId)).Within
                Call.KeepsFiles fun _ => True :=
              within_caught (within_writeSafetyBackup.imp idle_keepsFiles fun _ => id)
            apply (crash_intact saved).bind
            intro result
            cases result with
            | error raised => exact crash_intact within_failPreflight
            | ok safetyBackup =>
                apply (crash_intact (within_caught (within_setMarkerState.imp harmless_keepsFiles
                  fun _ => id))).bind
                intro begun
                cases begun with
                | error raised => exact crash_intact within_failPreflight
                | ok value => exact replaces ..

end Triples

/-! ## Requests beside an interrupted apply -/

section Requests

variable {sqlite} {guard : Disk → Call → Reply → Prop}

/-- The marker of an interrupted apply is there. -/
theorem crash_markerIsFile {fail : Raised → Disk → Prop} :
    (operations sqlite guard).CrashTriple Disk.Applying (attempt .markerIsFile)
      (fun answer disk => (answer : Bool) = true ∧ disk.Applying) fail Disk.Applying := by
  apply Surroundings.CrashTriple.ask
  · exact fun _ => id
  · intro before answer after applying answered
    rcases answered with ⟨reply, _, responds⟩
    cases responds
    rcases applying with ⟨request, marker, state⟩
    refine ⟨?_, request, marker, state⟩
    rw [marker]
    rfl

/-- Nothing is staged beside an interrupted apply. -/
theorem crash_stageRestore {limits : RestoreLimits} {restoreId : String}
    {zip : Option (List ZipInfo)} :
    (operations sqlite guard).CrashTriple Disk.Applying
      (stageRestore sqlite limits restoreId zip) (fun _ => Disk.Applying)
      (fun _ => Disk.Applying) Disk.Applying := by
  apply (crash_idle (within_scratch trivial) settled_applying).bind
  intro _
  have refused : (operations sqlite guard).CrashTriple Disk.Applying ensureNoPendingRestore
      (fun _ _ => False) (fun _ => Disk.Applying) Disk.Applying := by
    apply crash_markerIsFile.bind
    intro isFile
    apply Surroundings.CrashTriple.of_fact
    intro present
    rw [present]
    exact .throw fun _ => id
  apply refused.bind
  intro _
  exact .of_never fun _ => id

/-- An interrupted apply is not cancelled. -/
theorem crash_cancelStagedRestore :
    (operations sqlite guard).CrashTriple Disk.Applying cancelStagedRestore
      (fun _ => Disk.Applying) (fun _ => Disk.Applying) Disk.Applying := by
  apply crash_markerIsFile.bind
  intro isFile
  apply Surroundings.CrashTriple.of_fact
  intro present
  rw [present]
  have read : (operations sqlite guard).CrashTriple Disk.Applying readJsonFile
      (fun request disk => request.state ≠ .staged ∧ disk.Applying) (fun _ => Disk.Applying)
      Disk.Applying := by
    have asked : (operations sqlite guard).CrashTriple Disk.Applying (attempt .readMarker)
        (fun answer disk =>
          (∀ request, (answer : Except String Marker) = .ok request → request.state ≠ .staged) ∧
            disk.Applying)
        (fun _ => Disk.Applying) Disk.Applying := by
      apply Surroundings.CrashTriple.ask
      · exact fun _ => id
      · intro before answer after applying answered
        rcases answered with ⟨reply, _, responds⟩
        rcases applying with ⟨request, marker, state⟩
        cases responds
        refine ⟨?_, request, marker, state⟩
        intro other same
        rw [marker] at same
        cases reply with
        | done =>
            cases same
            rw [state]
            simp
        | fails text => contradiction
    apply asked.bind
    intro answer
    cases answer with
    | ok request => exact .pure fun _ holds => ⟨holds.1 request rfl, holds.2⟩
    | error text => exact .pure fun _ holds => ⟨by simp, holds.2⟩
  apply read.bind
  intro request
  apply Surroundings.CrashTriple.of_fact
  intro unstaged
  simp only [if_pos unstaged]
  exact .throw fun _ => id

end Requests

/-! ## Runs -/

/-- A host whose restore never leaves a mix of old and new files unmarked. -/
structure Host.FailsClosed (host : Host) : Prop where
  /-- Where files may be partially replaced, a boot that can read the marker keeps it and
  starts no workers. -/
  closed : host.partially = true → ∃ request, host.disk.marker = some request ∧
    ∀ enabled limits script, (fileSystem sqlite).Meets Restore.Readable
        (applyPendingRestore sqlite enabled limits) script host.booting →
      (host.boot sqlite enabled limits script).1.marker = some request ∧
        ∀ outcome, (host.boot sqlite enabled limits script).2 = some outcome →
          startWorkers outcome = false
  /-- A boot that replaces no file leaves all files as they were. -/
  intact : ∀ enabled limits script, (fileSystem sqlite).Meets ReplacesNothing
      (applyPendingRestore sqlite enabled limits) script host.booting →
    (host.boot sqlite enabled limits script).1.files = host.disk.files
  /-- Staging and cancelling change no file. -/
  requests : ∀ event : Event, (∀ enabled limits script, event ≠ .boot enabled limits script) →
    (∀ files, event ≠ .work files ∧ event ≠ .recover files) →
    (event.perform sqlite host).disk.files = host.disk.files

/-- A partial apply has its marker. -/
def Host.Marked (host : Host) : Prop := host.partially = true → host.disk.Applying

variable {sqlite}

theorem boot_interrupted {host : Host} {request : Marker} {enabled : Bool}
    {limits : RestoreLimits} {script : List Reply} (marker : host.disk.marker = some request)
    (applying : request.state = .applying)
    (readable : (fileSystem sqlite).Meets Restore.Readable
      (applyPendingRestore sqlite enabled limits) script host.booting) :
    (host.boot sqlite enabled limits script).1.marker = some request ∧
      ∀ outcome, (host.boot sqlite enabled limits script).2 = some outcome →
        startWorkers outcome = false := by
  have interrupted : host.booting.Interrupted request host.disk.files := ⟨applying, marker, rfl⟩
  have ends := Device.exec_of_triple (crash_interrupted fun _ _ _ => id) interrupted readable
  unfold Host.boot
  revert ends
  cases (fileSystem sqlite).exec (applyPendingRestore sqlite enabled limits) script
      host.booting with
  | mk disk outcome =>
      rcases outcome with _ | raised | result
      · intro killed
        exact ⟨killed.2.1, by simp⟩
      · exact False.elim
      · intro ended
        refine ⟨ended.2.2.1, ?_⟩
        rintro _ ⟨⟩
        exact ended.1

theorem marked_step {host : Host} {event : Event} (marked : host.Marked)
    (readable : host.Readable sqlite event) : (event.perform sqlite host).Marked := by
  cases event with
  | stage limits restoreId zip script =>
      intro partially
      exact Device.exec_holds crash_stageRestore (marked partially) Device.meets_true
  | cancel script =>
      intro partially
      exact Device.exec_holds crash_cancelStagedRestore (marked partially) Device.meets_true
  | boot enabled limits script =>
      intro partially
      cases before : host.partially with
      | true =>
          rcases marked before with ⟨request, marker, applying⟩
          have kept := boot_interrupted marker applying (readable before)
          exact ⟨request, kept.1, applying⟩
      | false =>
          have replacing : (host.boot sqlite enabled limits script).1.replacing = true := by
            simpa [Event.perform, before] using partially
          have ends : (host.boot sqlite enabled limits script).1.Marked :=
            Device.exec_holds crash_marked rfl Device.meets_true
          exact ends replacing
  | work files =>
      intro partially
      exact marked partially
  | recover files =>
      intro partially
      contradiction

/-- In every run whose boots can read the marker while files may be partially replaced, a boot
then starts no workers and keeps the marker; and a boot that replaces no file leaves all of
them. -/
theorem restore_fails_closed {start finish : Host} {events : List Event}
    (whole : start.partially = false)
    (run : (restores sqlite).RunWhere (Host.Readable sqlite) start events finish) :
    finish.FailsClosed sqlite := by
  have marked : finish.Marked := by
    have initially : start.Marked := by
      intro partially
      rw [whole] at partially
      contradiction
    clear whole
    induction run with
    | nil host => exact initially
    | cons readable stepped _ ih =>
        cases stepped
        exact ih (marked_step initially readable)
  constructor
  · intro partially
    rcases marked partially with ⟨request, marker, applying⟩
    refine ⟨request, marker, ?_⟩
    intro enabled limits script readable
    exact boot_interrupted marker applying readable
  · intro enabled limits script unreplaced
    exact Device.exec_holds (crash_replacesNothing fun _ _ _ => id) rfl unreplaced
  · intro event unbooted unworked
    cases event with
    | stage limits restoreId zip script =>
        exact Device.exec_holds (crash_intact (within_stageRestore sqlite)) rfl
          Device.meets_true
    | cancel script =>
        exact Device.exec_holds (crash_intact within_cancelStagedRestore) rfl Device.meets_true
    | boot enabled limits script => exact absurd rfl (unbooted enabled limits script)
    | work files => exact absurd rfl (unworked files).1
    | recover files => exact absurd rfl (unworked files).2

/-! ## A marker that cannot be read -/

/-- A library that backs a database up as it is. -/
def plainSqlite : Sqlite where
  snapshot database _ := database
  integrityCheck _ := some true
  sound _ _ := rfl

/-- A backup of a state DB and a decision log is staged. -/
def stagedHost : Host where
  disk :=
    { files := AList.insert .stateDb [0] ∅
      marker :=
        some
          { restoreId := some "r1", state := .staged, stagedZip := .staged "r1.zip" }
      zip := Function.update (fun _ => none) (.staged "r1.zip")
        (some (some
          [{ filename := ["state_db.sqlite"], data := [1] },
            { filename := ["logs", "decisions.jsonl"], data := [] }])) }

/-- The process dies when the state DB has been replaced. -/
def killedApply : Event := .boot true {} (List.replicate 17 .done)

/-- The host after that. -/
def halfRestored : Host := killedApply.perform plainSqlite stagedHost

/-- The next boot cannot read the marker: it starts the workers, and where restores are
enabled it removes the marker. -/
theorem restore_fails_open :
    (restores plainSqlite).Run stagedHost [killedApply] halfRestored ∧
      stagedHost.partially = false ∧ halfRestored.partially = true ∧
      ((halfRestored.boot plainSqlite false {} [.done, .fails "I/O error"]).2.map
        startWorkers = some true) ∧
      ((halfRestored.boot plainSqlite true {} (.done :: .fails "I/O error" ::
        List.replicate 9 .done)).2.map startWorkers = some true) ∧
      (halfRestored.boot plainSqlite true {} (.done :: .fails "I/O error" ::
        List.replicate 9 .done)).1.marker = none := by
  refine ⟨.cons trivial rfl (.nil _), rfl, rfl, rfl, rfl, rfl⟩

/-- Where the marker is read, the same boot starts no workers. -/
theorem restore_fails_closed_killed :
    halfRestored.partially = true ∧ halfRestored.FailsClosed plainSqlite := by
  have run : (restores plainSqlite).RunWhere (Host.Readable plainSqlite) stagedHost
      [killedApply] halfRestored := by
    refine .cons ?_ rfl (.nil _)
    intro partially
    contradiction
  exact ⟨rfl, restore_fails_closed rfl run⟩

end Mintarr.Restore
