import Mintarr.Restore.Backup
import Mintarr.Restore.Boundary

/-!
# A backup is restored as it was taken

Where an apply reports success, every file of the backup has the bytes that the backup holds
of it, and every other file the ones that it had.  The write-ahead log of the replaced
database is gone where its removal did not fail.
-/

namespace Mintarr.Restore

open Lib

/-! ## The loops of the apply -/

/-- What is left of the old database's log and of the one shared memory. -/
abbrev Logs := Option Bytes → Option Bytes → Bool → Prop

/-- A disk on which the entries `done` of the backup have been restored. -/
structure Disk.Restored (sqlite : Sqlite) (backup before : Files) (path : ZipPath)
    (logs : Logs) (done : List RestoreEntry) (disk : Disk) : Prop where
  zip : disk.zip path = some (some (buildBackupZip sqlite backup))
  targets : ∀ target, target ≠ .wal → target ≠ .shm → disk.files.lookup target =
    if some target ∈ done.map entryTarget then backedUp sqlite backup target
    else before.lookup target
  logs : logs (disk.files.lookup .wal) (disk.files.lookup .shm) disk.kept

/-- The log is as it was. -/
def Unchanged (before : Files) : Logs := fun wal shm kept =>
  wal = before.lookup .wal ∧ shm = before.lookup .shm ∧ kept = false

/-- The log is gone, unless a removal failed. -/
def Removed : Logs := fun wal shm kept => (wal = none ∧ shm = none) ↔ kept = false

/-- A file that is there and is to be removed is removed. -/
def Removes (disk : Disk) (call : Call) (reply : Reply) : Prop :=
  ∀ target, call = .unlinkTarget target → (disk.files.lookup target).isSome = true →
    reply = .done

section Loops

variable {sqlite : Sqlite} {guard : Disk → Call → Reply → Prop} {backup before : Files}
  {path : ZipPath} {logs : Logs} {done : List RestoreEntry} {target : Target} {data : Bytes}

/-- The member of a backup is found by its name. -/
theorem Disk.member_backup {disk : Disk}
    (zip : disk.zip path = some (some (buildBackupZip sqlite backup)))
    (held : backedUp sqlite backup target = some data) :
    disk.member path target.filename = some data := by
  have mem : target.member data ∈ buildBackupZip sqlite backup :=
    mem_buildBackupZip.mpr ⟨target, data, held, rfl⟩
  have found : (buildBackupZip sqlite backup).find? (fun info =>
      info.filename = target.filename) = some (target.member data) := by
    cases search : (buildBackupZip sqlite backup).find? fun info =>
        info.filename = target.filename with
    | none =>
        have none_ := List.find?_eq_none.mp search _ mem
        simp [Target.member] at none_
    | some info =>
        have same := List.find?_some search
        rcases mem_buildBackupZip.mp (List.mem_of_find?_eq_some search) with
          ⟨other, content, otherHeld, rfl⟩
        have equal : target = other := by
          have names : other.filename = target.filename := of_decide_eq_true same
          have isSome : (backedUp sqlite backup target).isSome = true := by
            rw [held]
            rfl
          exact filename_injective isSome names.symm
        subst equal
        rw [held] at otherHeld
        cases otherHeld
        rfl
  unfold Disk.member
  rw [zip]
  simp only [Option.join_some, Option.bind_some, found, Option.map_some]
  rfl

theorem settled_restored :
    Settled (Disk.Restored sqlite backup before path logs done) := by
  intro disk other same restored
  constructor
  · rw [same.zip]
    exact restored.zip
  · rw [same.files]
    exact restored.targets
  · rw [same.files, same.kept]
    exact restored.logs

/-- A file of the backup is replaced. -/
theorem crash_restoreTarget (held : backedUp sqlite backup target = some data) :
    (operations sqlite guard).CrashTriple
      (Disk.Restored sqlite backup before path logs done) (writeTarget target data)
      (fun _ => Disk.Restored sqlite backup before path logs (done ++ [target.entry data]))
      (fun _ => Disk.Restored sqlite backup before path logs done) fun _ => True := by
  have own : entryTarget (target.entry data) = some target :=
    entryTarget_entry (by rw [held]; rfl)
  have away : target ≠ .wal ∧ target ≠ .shm := by
    refine ⟨?_, ?_⟩
    · rintro rfl
      contradiction
    · rintro rfl
      contradiction
  have replaced : (operations sqlite guard).CrashTriple
      (Disk.Restored sqlite backup before path logs done)
      (do orRaise (← attempt (.replaceTarget target data)) : Restoring Unit)
      (fun _ => Disk.Restored sqlite backup before path logs (done ++ [target.entry data]))
      (fun _ => Disk.Restored sqlite backup before path logs done) fun _ => True := by
    have asked : (operations sqlite guard).CrashTriple
        (Disk.Restored sqlite backup before path logs done)
        (attempt (.replaceTarget target data))
        (fun answer disk =>
          match (answer : Except String Unit) with
          | .ok _ => disk.Restored sqlite backup before path logs (done ++ [target.entry data])
          | .error _ => disk.Restored sqlite backup before path logs done)
        (fun _ => Disk.Restored sqlite backup before path logs done) fun _ => True := by
      apply Surroundings.CrashTriple.ask
      · exact fun _ _ => trivial
      · intro start answer after restored answered
        rcases answered with ⟨reply, _, responds⟩
        cases reply with
        | fails text =>
            cases responds
            exact restored
        | done =>
            cases responds
            refine ⟨restored.zip, ?_, ?_⟩
            · intro other noWal noShm
              by_cases same : other = target
              · subst same
                simp [AList.lookup_insert, own, held]
              · simp [AList.lookup_insert_ne same, own, same,
                  restored.targets other noWal noShm]
            · dsimp only
              rw [AList.lookup_insert_ne away.1.symm, AList.lookup_insert_ne away.2.symm]
              exact restored.logs
    apply asked.bind
    intro answer
    cases answer with
    | ok value => exact .pure fun _ holds => holds
    | error text => exact .throw fun _ holds => holds
  have made : (operations sqlite guard).CrashTriple
      (Disk.Restored sqlite backup before path logs done) scratch
      (fun _ => Disk.Restored sqlite backup before path logs done)
      (fun _ => Disk.Restored sqlite backup before path logs done) fun _ => True :=
    (crash_idle (within_scratch trivial) settled_restored).imp (fun _ => id) (fun _ _ => id)
      (fun _ _ => id) fun _ _ => trivial
  apply made.bind
  intro _
  exact crash_writeAtomically settled_restored settled_restored replaced (fun _ _ => trivial)
    fun _ _ => trivial

/-- The content that is read is the one of the backup. -/
theorem crash_readEntry (held : backedUp sqlite backup target = some data) :
    (operations sqlite guard).CrashTriple
      (Disk.Restored sqlite backup before path logs done)
      (do orRaise (← attempt (.readMember path (target.entry data).name)) : Restoring Bytes)
      (fun content disk => content = data ∧ disk.Restored sqlite backup before path logs done)
      (fun _ _ => True) fun _ => True := by
  have asked : (operations sqlite guard).CrashTriple
      (Disk.Restored sqlite backup before path logs done)
      (attempt (.readMember path (target.entry data).name))
      (fun answer disk =>
        (∀ content, (answer : Except String Bytes) = .ok content → content = data) ∧
          disk.Restored sqlite backup before path logs done)
      (fun _ _ => True) fun _ => True := by
    apply Surroundings.CrashTriple.ask
    · exact fun _ _ => trivial
    · intro start answer after restored answered
      rcases answered with ⟨reply, _, responds⟩
      cases responds
      refine ⟨?_, restored⟩
      intro content same
      have found : start.member path (target.entry data).name = some data :=
        Disk.member_backup restored.zip held
      rw [found] at same
      cases reply with
      | done =>
          cases same
          rfl
      | fails text => contradiction
  apply asked.bind
  intro answer
  cases answer with
  | ok content => exact .pure fun _ holds => ⟨holds.1 content rfl, holds.2⟩
  | error text => exact .throw fun _ _ => trivial

/-- An entry that is not the state DB. -/
theorem crash_restoreEntry (held : backedUp sqlite backup target = some data)
    (other : target.kind ≠ .stateDb) :
    (operations sqlite guard).CrashTriple
      (Disk.Restored sqlite backup before path logs done)
      (applyEntry path (target.entry data))
      (fun _ => Disk.Restored sqlite backup before path logs (done ++ [target.entry data]))
      (fun _ _ => True) fun _ => True := by
  unfold applyEntry
  rw [entryTarget_entry (by rw [held]; rfl)]
  apply (crash_readEntry held).bind
  intro answer
  apply Surroundings.CrashTriple.of_fact
  intro same
  rw [same]
  apply ((crash_restoreTarget held).imp (fun _ => id) (fun _ _ => id) (fun _ _ _ => trivial)
    fun _ => id).bind
  intro _
  have kind : ¬(target.entry data).kind = .stateDb := other
  rw [if_neg kind]
  exact .pure fun _ holds => holds

/-- The removal of the old log. -/
theorem crash_removeWalShm :
    (operations sqlite guard).CrashTriple
      (Disk.Restored sqlite backup before path (Unchanged before) done) removeWalShm
      (fun _ => Disk.Restored sqlite backup before path Removed done) (fun _ _ => True)
      fun _ => True := by
  have wal : (operations sqlite guard).CrashTriple
      (Disk.Restored sqlite backup before path (Unchanged before) done)
      (attempt (.unlinkTarget .wal))
      (fun _ => Disk.Restored sqlite backup before path
        (fun wal _ kept => wal = none ↔ kept = false) done) (fun _ _ => True) fun _ => True := by
    apply Surroundings.CrashTriple.ask
    · exact fun _ _ => trivial
    · intro start answer after restored answered
      rcases answered with ⟨reply, _, responds⟩
      rcases restored.logs with ⟨_, _, fresh⟩
      cases reply with
      | done =>
          cases responds
          refine ⟨restored.zip, ?_, ?_⟩
          · intro target noWal noShm
            dsimp only
            rw [AList.lookup_erase_ne noWal]
            exact restored.targets target noWal noShm
          · simp [fresh]
      | fails text =>
          cases responds
          refine ⟨restored.zip, restored.targets, ?_⟩
          simp [fresh]
  have shm : (operations sqlite guard).CrashTriple
      (Disk.Restored sqlite backup before path (fun wal _ kept => wal = none ↔ kept = false) done)
      (attempt (.unlinkTarget .shm))
      (fun _ => Disk.Restored sqlite backup before path Removed done) (fun _ _ => True)
      fun _ => True := by
    apply Surroundings.CrashTriple.ask
    · exact fun _ _ => trivial
    · intro start answer after restored answered
      rcases answered with ⟨reply, _, responds⟩
      have logs := restored.logs
      cases reply with
      | done =>
          cases responds
          refine ⟨restored.zip, ?_, ?_⟩
          · intro target noWal noShm
            dsimp only
            rw [AList.lookup_erase_ne noShm]
            exact restored.targets target noWal noShm
          · simpa [Removed] using logs
      | fails text =>
          cases responds
          refine ⟨restored.zip, restored.targets, ?_⟩
          simp [Removed, logs]
  have first : (operations sqlite guard).CrashTriple
      (Disk.Restored sqlite backup before path (Unchanged before) done)
      (do let _ ← attempt (.unlinkTarget .wal); pure () : Restoring Unit)
      (fun _ => Disk.Restored sqlite backup before path
        (fun wal _ kept => wal = none ↔ kept = false) done) (fun _ _ => True) fun _ => True :=
    wal.bind fun _ => .pure fun _ holds => holds
  have second : (operations sqlite guard).CrashTriple
      (Disk.Restored sqlite backup before path (fun wal _ kept => wal = none ↔ kept = false) done)
      (do let _ ← attempt (.unlinkTarget .shm); pure () : Restoring Unit)
      (fun _ => Disk.Restored sqlite backup before path Removed done) (fun _ _ => True)
      fun _ => True :=
    shm.bind fun _ => .pure fun _ holds => holds
  apply first.bind
  intro _
  apply second.bind
  intro _
  exact .pure fun _ holds => holds

/-- The entry of the state DB. -/
theorem crash_restoreDatabase (held : backedUp sqlite backup .stateDb = some data) :
    (operations sqlite guard).CrashTriple
      (Disk.Restored sqlite backup before path (Unchanged before) done)
      (applyEntry path (Target.stateDb.entry data))
      (fun _ => Disk.Restored sqlite backup before path Removed
        (done ++ [Target.stateDb.entry data]))
      (fun _ _ => True) fun _ => True := by
  unfold applyEntry
  rw [entryTarget_entry (by rw [held]; rfl)]
  apply (crash_readEntry held).bind
  intro answer
  apply Surroundings.CrashTriple.of_fact
  intro same
  rw [same]
  apply ((crash_restoreTarget held).imp (fun _ => id) (fun _ _ => id) (fun _ _ _ => trivial)
    fun _ => id).bind
  intro _
  exact crash_removeWalShm

/-- What is left of the log when all entries are restored. -/
def finalLogs (sqlite : Sqlite) (backup before : Files) : Logs :=
  if (backedUp sqlite backup .stateDb).isSome then Removed else Unchanged before

/-- The entries of a backup. -/
def backupEntries (sqlite : Sqlite) (backup : Files) : List RestoreEntry :=
  (backupMembers sqlite backup).map fun member => member.1.entry member.2

/-- The state DB is the first entry, if it is one. -/
theorem database_entries : (backupEntries sqlite backup).filter (fun entry =>
      entry.kind = .stateDb) =
    (backedUp sqlite backup .stateDb).toList.map fun data => Target.stateDb.entry data := by
  have others : ∀ target ∈ (sidecarJids backup).map Target.sidecar ++
      (Label.all.flatMap (fun label => (archiveNames backup label).map (Target.archive label)) ++
        LogName.all.map Target.log), target.kind ≠ .stateDb := by
    intro target mem
    simp only [List.mem_append, List.mem_map, List.mem_flatMap] at mem
    rcases mem with ⟨jid, _, rfl⟩ | ⟨label, _, name, _, rfl⟩ | ⟨name, _, rfl⟩
    · simp [Target.kind]
    · simp [Target.kind]
    · simp [Target.kind]
  have none_ : ∀ targets : List Target, (∀ target ∈ targets, target.kind ≠ .stateDb) →
      ((targets.filterMap fun target => (backedUp sqlite backup target).map fun data =>
        (target, data)).map fun member => member.1.entry member.2).filter
          (fun entry => entry.kind = .stateDb) = [] := by
    intro targets kinds
    apply List.filter_eq_nil_iff.mpr
    intro entry mem
    rcases List.mem_map.mp mem with ⟨member, found, rfl⟩
    rcases List.mem_filterMap.mp found with ⟨target, listed, taken⟩
    rcases Option.map_eq_some_iff.mp taken with ⟨data, _, rfl⟩
    rw [decide_eq_true_eq]
    exact kinds target listed
  unfold backupEntries backupMembers backupTargets
  rw [List.filterMap_cons]
  cases held : backedUp sqlite backup .stateDb with
  | none =>
      simp only [Option.map_none, Option.toList_none, List.map_nil]
      exact none_ _ others
  | some data =>
      simp only [Option.map_some, List.map_cons, Option.toList_some, List.map_nil]
      rw [List.filter_cons_of_pos (by simp [Target.entry, Target.kind]), none_ _ others]

/-- Every file of the backup is restored, and no other one is touched. -/
theorem crash_restoreEntries {plan : RestorePlan}
    (entries : plan.entries = backupEntries sqlite backup) :
    (operations sqlite guard).CrashTriple
      (Disk.Restored sqlite backup before path (Unchanged before) []) (applyEntries path plan)
      (fun _ disk => disk.Restored sqlite backup before path (finalLogs sqlite backup before)
        ((backupEntries sqlite backup).filter (fun entry => entry.kind = .stateDb) ++
          (backupEntries sqlite backup).filter fun entry => entry.kind ≠ .stateDb))
      (fun _ _ => True) fun _ => True := by
  have opened : (operations sqlite guard).CrashTriple
      (Disk.Restored sqlite backup before path (Unchanged before) [])
      (attempt (.readZip path))
      (fun _ => Disk.Restored sqlite backup before path (Unchanged before) [])
      (fun _ _ => True) fun _ => True := by
    apply Surroundings.CrashTriple.ask
    · exact fun _ _ => trivial
    · intro start answer after restored answered
      have idle : (Call.readZip path).Idle := trivial
      exact settled_restored after start (same_of_idle idle answered) restored
  apply opened.bind
  intro answer
  have checked : (operations sqlite guard).CrashTriple
      (Disk.Restored sqlite backup before path (Unchanged before) []) (orRaise answer)
      (fun _ => Disk.Restored sqlite backup before path (Unchanged before) [])
      (fun _ _ => True) fun _ => True := by
    cases answer with
    | ok zip => exact .pure fun _ holds => holds
    | error text => exact .throw fun _ _ => trivial
  apply checked.bind
  intro _
  rw [entries]
  have database : (operations sqlite guard).CrashTriple
      (Disk.Restored sqlite backup before path (Unchanged before) [])
      (((backupEntries sqlite backup).filter fun entry => entry.kind = .stateDb).forM
        (applyEntry path))
      (fun _ => Disk.Restored sqlite backup before path (finalLogs sqlite backup before)
        ((backupEntries sqlite backup).filter fun entry => entry.kind = .stateDb))
      (fun _ _ => True) fun _ => True := by
    rw [database_entries]
    unfold finalLogs
    cases held : backedUp sqlite backup .stateDb with
    | none => exact .pure fun _ holds => holds
    | some data =>
        apply (crash_restoreDatabase held).bind
        intro _
        exact .pure fun _ holds => holds
  apply database.bind
  intro _
  apply Surroundings.CrashTriple.forM_done
  intro first entry rest same
  have mem : entry ∈ (backupEntries sqlite backup).filter fun entry =>
      entry.kind ≠ .stateDb := by
    rw [same]
    simp
  rcases List.mem_filter.mp mem with ⟨listed, kind⟩
  rcases List.mem_map.mp listed with ⟨member, found, rfl⟩
  have held := mem_backupMembers.mp found
  have other : member.1.kind ≠ .stateDb := of_decide_eq_true kind
  have round : (operations sqlite guard).CrashTriple
      (Disk.Restored sqlite backup before path (finalLogs sqlite backup before)
        ((backupEntries sqlite backup).filter (fun entry => entry.kind = .stateDb) ++ first))
      (applyEntry path (member.1.entry member.2))
      (fun _ => Disk.Restored sqlite backup before path (finalLogs sqlite backup before)
        ((backupEntries sqlite backup).filter (fun entry => entry.kind = .stateDb) ++ first ++
          [member.1.entry member.2]))
      (fun _ _ => True) fun _ => True := crash_restoreEntry held other
  rw [List.append_assoc] at round
  exact round

end Loops

/-! ## The whole apply -/

/-- Every file of the backup has the bytes that were backed up, every other file the ones that
it had; of the old log there is what its removal left. -/
structure Disk.Complete (sqlite : Sqlite) (backup before : Files) (disk : Disk) : Prop where
  targets : ∀ target, target ≠ .wal → target ≠ .shm → disk.files.lookup target =
    (backedUp sqlite backup target <|> before.lookup target)
  logs : finalLogs sqlite backup before (disk.files.lookup .wal) (disk.files.lookup .shm) disk.kept

section Apply

variable {sqlite : Sqlite} {guard : Disk → Call → Reply → Prop} {backup before : Files}
  {path : ZipPath} {logs : Logs} {done : List RestoreEntry}

/-- All entries are all files of the backup. -/
theorem Disk.Restored.complete {disk : Disk}
    (restored : disk.Restored sqlite backup before path (finalLogs sqlite backup before)
      ((backupEntries sqlite backup).filter (fun entry => entry.kind = .stateDb) ++
        (backupEntries sqlite backup).filter fun entry => entry.kind ≠ .stateDb)) :
    disk.Complete sqlite backup before := by
  refine ⟨?_, restored.logs⟩
  intro target noWal noShm
  rw [restored.targets target noWal noShm]
  have all : some target ∈ ((backupEntries sqlite backup).filter (fun entry =>
      entry.kind = .stateDb) ++ (backupEntries sqlite backup).filter fun entry =>
        entry.kind ≠ .stateDb).map entryTarget ↔
      (backedUp sqlite backup target).isSome = true := by
    rw [List.mem_map]
    constructor
    · rintro ⟨entry, mem, own⟩
      have listed : entry ∈ backupEntries sqlite backup := by
        rcases List.mem_append.mp mem with mem | mem
        · exact (List.mem_filter.mp mem).1
        · exact (List.mem_filter.mp mem).1
      rcases List.mem_map.mp listed with ⟨member, found, rfl⟩
      have held := mem_backupMembers.mp found
      rw [entryTarget_entry (by rw [held]; rfl)] at own
      cases own
      rw [held]
      rfl
    · intro isSome
      rcases Option.isSome_iff_exists.mp isSome with ⟨data, held⟩
      refine ⟨target.entry data, ?_, entryTarget_entry isSome⟩
      have listed : target.entry data ∈ backupEntries sqlite backup :=
        List.mem_map.mpr ⟨(target, data), mem_backupMembers.mpr held, rfl⟩
      rw [List.mem_append]
      by_cases kind : (target.entry data).kind = .stateDb
      · exact Or.inl (List.mem_filter.mpr ⟨listed, decide_eq_true kind⟩)
      · exact Or.inr (List.mem_filter.mpr ⟨listed, decide_eq_true kind⟩)
  cases held : backedUp sqlite backup target with
  | none =>
      rw [if_neg (by rw [all, held]; simp)]
      rfl
  | some data =>
      rw [if_pos (by rw [all, held]; rfl)]
      rfl

/-- Programs that touch neither files nor zips. -/
theorem crash_harmless {α : Type} {program : Restoring α}
    (within : program.Within Call.Harmless fun _ => True) :
    (operations sqlite guard).CrashTriple (Disk.Restored sqlite backup before path logs done)
      program (fun _ => Disk.Restored sqlite backup before path logs done) (fun _ _ => True)
      fun _ => True := by
  have triple : (operations sqlite guard).CrashTriple
      (Disk.Restored sqlite backup before path logs done) program
      (fun _ => Disk.Restored sqlite backup before path logs done)
      (fun _ disk => True ∧ disk.Restored sqlite backup before path logs done)
      (Disk.Restored sqlite backup before path logs done) := by
    apply Surroundings.CrashTriple.of_within within
    intro start call answer after harmless restored answered
    have files := files_of_keepsFiles (harmless_keepsFiles call harmless) answered
    constructor
    · rw [zip_of_harmless harmless answered]
      exact restored.zip
    · rw [files.1]
      exact restored.targets
    · rw [files.1, files.2]
      exact restored.logs
  exact triple.imp (fun _ => id) (fun _ _ => id) (fun _ _ _ => trivial) fun _ _ => trivial

/-- Programs that touch no file. -/
theorem crash_complete {α : Type} {program : Restoring α}
    (within : program.Within Call.KeepsFiles fun _ => True) :
    (operations sqlite guard).CrashTriple (Disk.Complete sqlite backup before) program
      (fun _ => Disk.Complete sqlite backup before) (fun _ _ => True) fun _ => True := by
  have triple : (operations sqlite guard).CrashTriple (Disk.Complete sqlite backup before)
      program (fun _ => Disk.Complete sqlite backup before)
      (fun _ disk => True ∧ disk.Complete sqlite backup before)
      (Disk.Complete sqlite backup before) := by
    apply Surroundings.CrashTriple.of_within within
    intro start call answer after keeps complete answered
    have files := files_of_keepsFiles keeps answered
    constructor
    · rw [files.1]
      exact complete.targets
    · rw [files.1, files.2]
      exact complete.logs
  exact triple.imp (fun _ => id) (fun _ _ => id) (fun _ _ _ => trivial) fun _ _ => trivial

/-- The plan is the one of the backup. -/
theorem crash_revalidate {limits : RestoreLimits} :
    (operations sqlite guard).CrashTriple
      (Disk.Restored sqlite backup before path logs done) (revalidate sqlite limits path)
      (fun plan disk => plan.entries = backupEntries sqlite backup ∧
        disk.Restored sqlite backup before path logs done)
      (fun _ _ => True) fun _ => True := by
  have looked : (attempt (.zipIsFile path)).Within Call.Harmless fun _ => True :=
    within_attempt trivial
  have read : (operations sqlite guard).CrashTriple
      (Disk.Restored sqlite backup before path logs done)
      (do orRaise (← attempt (.readZip path)) : Restoring (Option (List ZipInfo)))
      (fun zip disk => zip = some (buildBackupZip sqlite backup) ∧
        disk.Restored sqlite backup before path logs done)
      (fun _ _ => True) fun _ => True := by
    have asked : (operations sqlite guard).CrashTriple
        (Disk.Restored sqlite backup before path logs done) (attempt (.readZip path))
        (fun answer disk =>
          (∀ zip, (answer : Except String (Option (List ZipInfo))) = .ok zip →
            zip = some (buildBackupZip sqlite backup)) ∧
            disk.Restored sqlite backup before path logs done)
        (fun _ _ => True) fun _ => True := by
      apply Surroundings.CrashTriple.ask
      · exact fun _ _ => trivial
      · intro start answer after restored answered
        rcases answered with ⟨reply, _, responds⟩
        cases responds
        refine ⟨?_, restored⟩
        intro zip same
        rw [restored.zip] at same
        cases reply with
        | done =>
            cases same
            rfl
        | fails text => contradiction
    apply asked.bind
    intro answer
    cases answer with
    | ok zip => exact .pure fun _ holds => ⟨holds.1 zip rfl, holds.2⟩
    | error text => exact .throw fun _ _ => trivial
  apply (crash_harmless looked).bind
  intro isFile
  split
  · exact .throw fun _ _ => trivial
  · apply read.bind
    intro zip
    apply Surroundings.CrashTriple.of_fact
    intro same
    subst same
    split
    · exact .throw fun _ _ => trivial
    · next plan accepted => exact .pure fun _ holds => ⟨entries_of_backup accepted, holds⟩

/-- An apply that reports success is complete. -/
def Reports (sqlite : Sqlite) (backup before : Files) (result : RestoreApplyResult)
    (disk : Disk) : Prop :=
  result.outcome = .applied → disk.Complete sqlite backup before

/-- A result that is no success. -/
theorem crash_failure {result : RestoreApplyResult} {program : Restoring Unit}
    {pre : Disk → Prop} (failure : result.outcome ≠ .applied) :
    (operations sqlite guard).CrashTriple pre (do program; pure result)
      (Reports sqlite backup before) (fun _ _ => True) fun _ => True := by
  apply Surroundings.CrashTriple.any.bind
  intro _
  exact .pure fun _ _ applied => absurd applied failure

theorem crash_failPreflight {restoreId : Option String} {detail : String} {pre : Disk → Prop} :
    (operations sqlite guard).CrashTriple pre (failPreflight restoreId path detail)
      (Reports sqlite backup before) (fun _ _ => True) fun _ => True := by
  apply Surroundings.CrashTriple.any.bind
  intro _
  apply Surroundings.CrashTriple.any.bind
  intro _
  exact crash_failure (by simp)

theorem crash_reports_replaceAll {restoreId : Option String} {plan : RestorePlan}
    {safetyBackup : String} (entries : plan.entries = backupEntries sqlite backup) :
    (operations sqlite guard).CrashTriple
      (Disk.Restored sqlite backup before path (Unchanged before) [])
      (replaceAll restoreId path plan safetyBackup) (Reports sqlite backup before)
      (fun _ _ => True) fun _ => True := by
  apply (crash_caught (crash_restoreEntries entries)).bind
  intro result
  cases result with
  | error raised => exact crash_failure (by simp)
  | ok value =>
      have status : ∀ status : Status,
          (safeWriteStatus status).Within Call.KeepsFiles fun _ => True :=
        fun status => within_safeWriteStatus.imp idle_keepsFiles fun _ => id
      have ends : ∀ program : Restoring RestoreApplyResult,
          program.Within Call.KeepsFiles (fun _ => True) →
          (operations sqlite guard).CrashTriple (Disk.Complete sqlite backup before) program
            (Reports sqlite backup before) (fun _ _ => True) fun _ => True := by
        intro program within
        exact (crash_complete within).imp (fun _ => id) (fun _ _ complete _ => complete)
          (fun _ _ => id) fun _ => id
      apply (ends _ (within_unlinkMarker.bind fun _ => within_unlinkZip.bind fun _ =>
        (status _).bind fun _ => .pure _)).imp (fun _ restored => restored.complete)
        (fun _ _ => id) (fun _ _ => id) fun _ => id

/-- An apply of a backup that reports success is complete. -/
theorem crash_reports {enabled : Bool} {limits : RestoreLimits} :
    (operations sqlite guard).CrashTriple
      (fun disk => (∀ request, disk.marker = some request → request.stagedZip = path) ∧
        disk.Restored sqlite backup before path (Unchanged before) [])
      (applyPendingRestore sqlite enabled limits) (Reports sqlite backup before)
      (fun _ _ => True) fun _ => True := by
  have looked : (operations sqlite guard).CrashTriple
      (fun disk => (∀ request, disk.marker = some request → request.stagedZip = path) ∧
        disk.Restored sqlite backup before path (Unchanged before) [])
      (attempt .markerIsFile)
      (fun _ disk => (∀ request, disk.marker = some request → request.stagedZip = path) ∧
        disk.Restored sqlite backup before path (Unchanged before) [])
      (fun _ _ => True) fun _ => True := by
    apply Surroundings.CrashTriple.ask
    · exact fun _ _ => trivial
    · intro start answer after holds answered
      rcases answered with ⟨reply, _, responds⟩
      cases responds
      exact ⟨holds.1, holds.2.zip, holds.2.targets, holds.2.logs⟩
  have read : (operations sqlite guard).CrashTriple
      (fun disk => (∀ request, disk.marker = some request → request.stagedZip = path) ∧
        disk.Restored sqlite backup before path (Unchanged before) [])
      readJsonFile
      (fun request disk => (request.state = .staged → request.stagedZip = path) ∧
        disk.Restored sqlite backup before path (Unchanged before) [])
      (fun _ _ => True) fun _ => True := by
    have asked : (operations sqlite guard).CrashTriple
        (fun disk => (∀ request, disk.marker = some request → request.stagedZip = path) ∧
          disk.Restored sqlite backup before path (Unchanged before) [])
        (attempt .readMarker)
        (fun answer disk =>
          (∀ request, (answer : Except String Marker) = .ok request →
            request.stagedZip = path) ∧
            disk.Restored sqlite backup before path (Unchanged before) [])
        (fun _ _ => True) fun _ => True := by
      apply Surroundings.CrashTriple.ask
      · exact fun _ _ => trivial
      · intro start answer after holds answered
        rcases answered with ⟨reply, _, responds⟩
        cases responds
        refine ⟨?_, holds.2⟩
        intro request same
        cases marker : start.marker with
        | none =>
            rw [marker] at same
            contradiction
        | some stored =>
            rw [marker] at same
            cases reply with
            | done =>
                cases same
                exact holds.1 request marker
            | fails text => contradiction
    apply asked.bind
    intro answer
    cases answer with
    | ok request => exact .pure fun _ holds => ⟨fun _ => holds.1 request rfl, holds.2⟩
    | error text => exact .pure fun _ holds => ⟨by simp, holds.2⟩
  apply looked.bind
  intro isFile
  split
  · exact .pure fun _ _ applied => by simp at applied
  · apply read.bind
    intro request
    apply Surroundings.CrashTriple.of_fact
    intro staged
    split
    · exact crash_failure (by simp)
    · split
      · exact .pure fun _ _ applied => by simp at applied
      · split
        · apply Surroundings.CrashTriple.any.bind
          intro _
          exact crash_failure (by simp)
        · next isStaged =>
            have zip := staged (not_not.mp isStaged)
            unfold applyStaged
            rw [zip]
            apply (crash_caught crash_revalidate).bind
            intro validated
            cases validated with
            | error raised =>
                cases raised with
                | validation text => exact crash_failPreflight
                | state | notFound | other => exact .throw fun _ _ => trivial
            | ok plan =>
                apply Surroundings.CrashTriple.of_fact
                intro entries
                have saved : (caught (writeSafetyBackup request.restoreId)).Within
                    Call.Harmless fun _ => True :=
                  within_caught (within_writeSafetyBackup.imp idle_harmless fun _ => id)
                apply (crash_harmless saved).bind
                intro backedUp_
                cases backedUp_ with
                | error raised => exact crash_failPreflight
                | ok safetyBackup =>
                    have begun : (caught (setMarkerState request .applying)).Within
                        Call.Harmless fun _ => True := within_caught within_setMarkerState
                    apply (crash_harmless begun).bind
                    intro applying
                    cases applying with
                    | error raised => exact crash_failPreflight
                    | ok value => exact crash_reports_replaceAll entries

theorem kept_respond {disk : Disk} {call : Call} {reply : Reply} :
    ((fileSystem sqlite).respond disk call reply).2.kept = false ↔
      disk.kept = false ∧ Removes disk call reply := by
  cases call with
  | unlinkTarget target =>
      cases reply with
      | done => simp [fileSystem, Reply.effect, Removes]
      | fails text =>
          have removes : Removes disk (.unlinkTarget target) (.fails text) ↔
              ¬(disk.files.lookup target).isSome = true := by
            constructor
            · intro removes isSome
              have done := removes target rfl isSome
              contradiction
            · intro absent other same isSome
              cases same
              exact absurd isSome absent
          rw [removes]
          simp [fileSystem, Reply.effect]
  | markerIsFile | readMarker | zipIsFile | readZip | readMember | buildSafetyZip =>
      simp [fileSystem, Removes]
  | replaceMarker | unlinkMarker | replaceZip | unlinkZip | replaceSafety | replaceStatus
  | replaceTarget | scratch =>
      cases reply <;> simp [fileSystem, Reply.effect, Removes]

/-- The history tells whether all removals were made. -/
theorem meets_removes_iff {α : Type} (program : Restoring α) (script : List Reply)
    (disk : Disk) :
    disk.kept = false ∧ (fileSystem sqlite).Meets Removes program script disk ↔
      ((fileSystem sqlite).exec program script disk).1.kept = false := by
  induction program generalizing script disk with
  | pure value => exact and_iff_left trivial
  | throw raised => exact and_iff_left trivial
  | call call next ih =>
      cases script with
      | nil => exact and_iff_left trivial
      | cons reply script =>
          unfold Device.exec Device.Meets
          rw [← ih, kept_respond, and_assoc]

end Apply

/-- A backup within the limits is accepted exactly where its files are whole.  Where an apply
of it reports success, every file of the backup is as it was backed up and every other one as
it was; and no log of the replaced database remains exactly where none of its removals
failed. -/
theorem backup_restores (sqlite : Sqlite) (limits : RestoreLimits) (backup : Files)
    (fits : Fits limits (buildBackupZip sqlite backup)) :
    ((∃ plan, validateRestoreZip sqlite limits (some (buildBackupZip sqlite backup)) =
      .ok plan) ↔ Whole backup) ∧
    ∀ disk request enabled bounds script after result,
      disk.marker = some request →
      disk.zip request.stagedZip = some (some (buildBackupZip sqlite backup)) →
      disk.kept = false →
      (fileSystem sqlite).exec (applyPendingRestore sqlite enabled bounds) script disk =
        (after, some (.ok result)) →
      result.outcome = .applied →
      (∀ target, target ≠ .wal → target ≠ .shm → after.files.lookup target =
        (backedUp sqlite backup target <|> disk.files.lookup target)) ∧
      ((backup.lookup .stateDb).isSome = true →
        ((after.files.lookup .wal = none ∧ after.files.lookup .shm = none) ↔
          (fileSystem sqlite).Meets Removes (applyPendingRestore sqlite enabled bounds) script
            disk)) ∧
      ((backup.lookup .stateDb).isSome = false →
        after.files.lookup .wal = disk.files.lookup .wal ∧
          after.files.lookup .shm = disk.files.lookup .shm) := by
  refine ⟨validate_backup_iff fits, ?_⟩
  intro disk request enabled bounds script after result marker zip fresh executed applied
  have staged : disk.Restored sqlite backup disk.files request.stagedZip
      (Unchanged disk.files) [] := by
    refine ⟨zip, ?_, rfl, rfl, fresh⟩
    intro target _ _
    rw [if_neg (by simp)]
  have named : ∀ other, disk.marker = some other → other.stagedZip = request.stagedZip := by
    intro other same
    rw [marker] at same
    cases same
    rfl
  have reports : (operations sqlite fun _ _ _ => True).CrashTriple
      (fun start => (∀ other, start.marker = some other →
          other.stagedZip = request.stagedZip) ∧
        start.Restored sqlite backup disk.files request.stagedZip (Unchanged disk.files) [])
      (applyPendingRestore sqlite enabled bounds) (Reports sqlite backup disk.files)
      (fun _ _ => True) fun _ => True := crash_reports
  have meets : (fileSystem sqlite).Meets (fun _ _ _ => True)
      (applyPendingRestore sqlite enabled bounds) script disk := Device.meets_true
  have ends := Device.exec_of_triple reports ⟨named, staged⟩ meets
  rw [executed] at ends
  have complete := ends applied
  have held : (backedUp sqlite backup .stateDb).isSome = (backup.lookup .stateDb).isSome := by
    simp [backedUp]
  have logs := complete.logs
  unfold finalLogs at logs
  rw [held] at logs
  refine ⟨complete.targets, ?_, ?_⟩
  · intro database
    rw [if_pos database] at logs
    have history : disk.kept = false ∧ (fileSystem sqlite).Meets Removes
        (applyPendingRestore sqlite enabled bounds) script disk ↔ _ := meets_removes_iff _ _ _
    rw [executed] at history
    exact logs.trans (history.symm.trans (and_iff_right fresh))
  · intro database
    rw [if_neg (by rw [database]; simp)] at logs
    exact ⟨logs.1, logs.2.1⟩

/-! ## A line that was cut off, and a log that stays -/

/-- A backup of a state DB, a sidecar and a decision. -/
def databaseBackup : Files :=
  AList.insert .stateDb [1]
    (AList.insert (.sidecar "0123456789ab") [0x7B, 0x7D]
      (AList.insert (.log .decisions) [0x7B, 0x7D, 0x0A] ∅))

/-- It is staged beside a database with a write-ahead log, a later sidecar of the same download
and one of another. -/
def stagedDatabase : Disk where
  files :=
    AList.insert .stateDb [0]
      (AList.insert .wal [9]
        (AList.insert (.sidecar "0123456789ab") [0x5B, 0x5D]
          (AList.insert (.sidecar "ba9876543210") [0x7B, 0x7D] ∅)))
  marker := some { restoreId := some "r1", state := .staged, stagedZip := .staged "r1.zip" }
  zip :=
    Function.update (fun _ => none) (.staged "r1.zip")
      (some (some (buildBackupZip plainSqlite databaseBackup)))

theorem whole_databaseBackup : Whole databaseBackup := by
  constructor
  · intro jid data held
    rw [databaseBackup, AList.lookup_insert_ne (by simp)] at held
    by_cases same : jid = "0123456789ab"
    · rw [same, AList.lookup_insert] at held
      rw [same, ← Option.some.inj held]
      exact ⟨by decide, rfl⟩
    · rw [AList.lookup_insert_ne (by simp [same]), AList.lookup_insert_ne (by simp)] at held
      contradiction
  · intro label name data held
    rw [databaseBackup, AList.lookup_insert_ne (by simp), AList.lookup_insert_ne (by simp),
      AList.lookup_insert_ne (by simp)] at held
    contradiction
  · intro name data held
    rw [databaseBackup, AList.lookup_insert_ne (by simp), AList.lookup_insert_ne (by simp)]
      at held
    by_cases same : name = .decisions
    · rw [same, AList.lookup_insert] at held
      rw [← Option.some.inj held]
      rfl
    · rw [AList.lookup_insert_ne (by simp [same])] at held
      contradiction

/-- The old log is removed with the database that it belongs to, the sidecar and the decision
are those of the backup, and the other sidecar stays. -/
theorem backup_restores_database :
    (∃ plan, validateRestoreZip plainSqlite {}
      (some (buildBackupZip plainSqlite databaseBackup)) = .ok plan) ∧
    let after := ((fileSystem plainSqlite).exec (applyPendingRestore plainSqlite true {})
      (List.replicate 60 .done) stagedDatabase).1
    after.files.lookup .stateDb = some [1] ∧ after.files.lookup .wal = none ∧
      after.files.lookup (.sidecar "0123456789ab") = some [0x7B, 0x7D] ∧
      after.files.lookup (.sidecar "ba9876543210") = some [0x7B, 0x7D] ∧
      after.files.lookup (.log .decisions) = some [0x7B, 0x7D, 0x0A] := by
  have fits : Fits {} (buildBackupZip plainSqlite databaseBackup) := by
    constructor <;> decide
  have restores := backup_restores plainSqlite {} databaseBackup fits
  have applied := restores.2 stagedDatabase
    { restoreId := some "r1", state := .staged, stagedZip := .staged "r1.zip" } true {}
    (List.replicate 60 .done) _ _ rfl rfl rfl rfl rfl
  refine ⟨restores.1.mpr whole_databaseBackup, ?_, ?_, ?_, ?_, ?_⟩
  · exact (applied.1 .stateDb (by simp) (by simp)).trans rfl
  · apply ((applied.2.1 rfl).mpr _).1
    exact ((meets_removes_iff _ _ _).mpr rfl).2
  · exact (applied.1 (.sidecar "0123456789ab") (by simp) (by simp)).trans rfl
  · exact (applied.1 (.sidecar "ba9876543210") (by simp) (by simp)).trans rfl
  · exact (applied.1 (.log .decisions) (by simp) (by simp)).trans rfl

/-- The decision log after the process died in the middle of its first line. -/
def cutLog : Files :=
  AList.insert (.log .decisions) (appendLine [] [0x7B, 0x22, 0x61, 0x22, 0x3A, 0x31, 0x7D] 5) ∅

/-- The replies of an apply whose removal of the write-ahead log fails. -/
def busyLog : List Reply :=
  List.replicate 18 .done ++ .fails "Device or resource busy" :: List.replicate 40 .done

/-- A backup of the cut log is refused, and a successful apply may leave the old log. -/
theorem backup_not_restored :
    validateRestoreZip plainSqlite {} (some (buildBackupZip plainSqlite cutLog)) =
        .error (.validation "restore JSONL entry is invalid: logs/decisions.jsonl") ∧
      (((fileSystem plainSqlite).exec (applyPendingRestore plainSqlite true {}) busyLog
        stagedDatabase).2.map fun outcome => outcome.map RestoreApplyResult.outcome) =
        some (.ok .applied) ∧
      ((fileSystem plainSqlite).exec (applyPendingRestore plainSqlite true {}) busyLog
        stagedDatabase).1.files.lookup .wal = some [9] := by
  refine ⟨?_, ?_, ?_⟩
  · rfl
  · rfl
  · rfl

end Mintarr.Restore
