import Mathlib.Data.List.Sort
import Mathlib.Data.String.Basic
import Mintarr.Lib.Characters
import Mintarr.Lib.Crash
import Mintarr.Lib.Machine
import Mintarr.Lib.Registry

/-!
# Scheduled backups

`write_backup_file` writes a zip under a temporary name, gives it a name that is not taken, and
removes the oldest backups.  Every file operation may fail with an `OSError`, and the process may
die before any of them.
-/

namespace Mintarr.Backup

open Lib

/-! ## The directory -/

/-- A file in the backup directory. -/
structure BackupFile (ζ : Type) where
  name : String
  /-- The zip in it; nothing where something else was written, or not to its end. -/
  content : Option ζ
  /-- `p.stat().st_mtime`. -/
  mtime : Int
  /-- `p.is_file()`. -/
  isFile : Bool
  deriving DecidableEq

/-- `backup_dir`, with its history. -/
structure BackupDir (ζ : Type) where
  files : Registry (BackupFile ζ) BackupFile.name
  /-- History: the backups that were given their names, the last one first. -/
  written : List (String × ζ)

/-- `target.name`, for a suffix that is tried; the first one is without any. -/
def targetName (stamp : String) (suffix : Nat) : String :=
  "mintarr-backup-" ++ stamp ++ (if suffix = 0 then "" else "-" ++ toString suffix) ++ ".zip"

/-- `f".{target.name}.tmp"`. -/
def tmpName (target : String) : String := "." ++ target ++ ".tmp"

/-- The name matches `mintarr-backup-*.zip`. -/
def isScheduled (name : String) : Bool :=
  "mintarr-backup-".toList.isPrefixOf name.toList &&
    ".zip".toList.isSuffixOf (name.toList.drop "mintarr-backup-".toList.length)

variable {ζ : Type}

namespace BackupDir

variable (dir : BackupDir ζ)

/-- `target.exists()`. -/
def has (name : String) : Bool := (dir.files.find? name).isSome

/-- Where the loop over the suffixes ends. -/
def freeName (stamp : String) : String :=
  targetName stamp
    (((List.range (dir.files.rows.length + 1)).find? fun suffix =>
      !dir.has (targetName stamp suffix)).getD 0)

/-- `(p.stat().st_mtime, p.name)`, in the order of `reverse=True`. -/
def newer (first second : BackupFile ζ) : Prop :=
  second.mtime < first.mtime ∨ (second.mtime = first.mtime ∧ second.name ≤ first.name)

instance (first second : BackupFile ζ) : Decidable (newer first second) :=
  inferInstanceAs (Decidable (_ ∨ _))

/-- The files that count for the retention. -/
def scheduled : List (BackupFile ζ) :=
  dir.files.rows.filter fun file => isScheduled file.name && file.isFile

/-- `backups`. -/
def backups : List (BackupFile ζ) := dir.scheduled.insertionSort newer

/-- A file is removed. -/
def removed (name : String) : BackupDir ζ := { dir with files := dir.files.remove name }

/-- A file is there in place of what had its name. -/
def put (file : BackupFile ζ) : BackupDir ζ :=
  { dir with files := (dir.files.remove file.name).add file }

/-- `tmp.replace(target)`, of a file with this zip. -/
def renamed (tmp target : String) (zip : ζ) : BackupDir ζ :=
  match dir.files.find? tmp with
  | none => dir
  | some file =>
      { (dir.removed tmp).put { file with name := target } with
        written := (target, zip) :: dir.written }

end BackupDir

/-! ## File operations -/

/-- What is asked of the file system. -/
inductive Call (ζ : Type) where
  | mkdir
  /-- The loop over the suffixes. -/
  | freeName (stamp : String)
  /-- `build_zip()`. -/
  | build
  /-- `tmp.write_bytes` opens the file, and writes it. -/
  | truncate (name : String)
  | fill (name : String) (zip : ζ)
  | replace (tmp target : String) (zip : ζ)
  | exists (name : String)
  /-- The paths of `backups`. -/
  | list
  | unlink (name : String)

/-- The type of its answers. -/
abbrev Answer (ζ : Type) : Call ζ → Type
  | .freeName _ => String
  | .build => Except String ζ
  | .exists _ => Bool
  | .list => Except String (List String)
  | .mkdir | .truncate _ | .fill _ _ | .replace _ _ _ | .unlink _ => Except String Unit

/-- How an operation goes. -/
inductive Reply (ζ : Type) where
  /-- At this time. -/
  | done (now : Int)
  /-- `build_zip` returns a zip. -/
  | built (zip : ζ)
  /-- An `OSError`; for `build_zip` any exception. -/
  | fails (text : String)

/-- An effect, where the operation does not fail. -/
def Reply.effect (reply : Reply ζ) (dir : BackupDir ζ) (next : Int → BackupDir ζ) :
    Except String Unit × BackupDir ζ :=
  match reply with
  | .done now => (.ok (), next now)
  | .built _ => (.error "", dir)
  | .fails text => (.error text, dir)

/-- What `build_zip` returns. -/
def Reply.zip : Reply ζ → Except String ζ
  | .built zip => .ok zip
  | .done _ => .error ""
  | .fails text => .error text

/-- A value that may not be read. -/
def Reply.value {α : Type} (reply : Reply ζ) (value : α) : Except String α :=
  match reply with
  | .done _ => .ok value
  | .built _ => .error ""
  | .fails text => .error text

/-- The file system. -/
def fileSystem : Device (Call ζ) (Answer ζ) (Reply ζ) (BackupDir ζ) where
  respond dir call reply :=
    match call with
    | .mkdir => reply.effect dir fun _ => dir
    | .freeName stamp => (dir.freeName stamp, dir)
    | .build => (reply.zip, dir)
    | .truncate name => reply.effect dir fun now => dir.put ⟨name, none, now, true⟩
    | .fill name zip => reply.effect dir fun now => dir.put ⟨name, some zip, now, true⟩
    | .replace tmp target zip => reply.effect dir fun _ => dir.renamed tmp target zip
    | .exists name => (dir.has name, dir)
    | .list => (reply.value (dir.backups.map BackupFile.name), dir)
    | .unlink name => reply.effect dir fun _ => dir.removed name

/-! ## Programs -/

/-- Programs over file operations; what they raise is a text. -/
abbrev Backing (ζ : Type) := Program (Call ζ) (Answer ζ) String

def attempt (call : Call ζ) : Backing ζ (Answer ζ call) := Program.ask call

/-- An operation, which raises where it fails. -/
def orRaise {α : Type} : Except String α → Backing ζ α
  | .ok value => pure value
  | .error text => throw text

/-- `build_zip()`. -/
def buildZip : Backing ζ ζ := do orRaise (← attempt .build)

/-- An operation with an effect. -/
def truncate (name : String) : Backing ζ Unit := do orRaise (← attempt (.truncate name))

def fill (name : String) (zip : ζ) : Backing ζ Unit := do orRaise (← attempt (.fill name zip))

def replace (tmp target : String) (zip : ζ) : Backing ζ Unit := do
  orRaise (← attempt (.replace tmp target zip))

def mkdir : Backing ζ Unit := do orRaise (← attempt .mkdir)

/-- The names of `backups`. -/
def listBackups : Backing ζ (List String) := do
  orRaise (← attempt .list : Except String (List String))

/-- Removes a file, or not. -/
def unlink (name : String) : Backing ζ Unit := do
  let _ ← attempt (.unlink name)

/-- The body of the `try`: the zip is built, written and renamed. -/
def writeZip (target : String) : Backing ζ Unit := do
  let zip ← buildZip
  truncate (tmpName target)
  fill (tmpName target) zip
  replace (tmpName target) target zip

/-- Its `finally`. -/
def removeTmp (target : String) : Backing ζ Unit := do
  if (← attempt (.exists (tmpName target)) : Bool) then unlink (tmpName target)

/-- `prune_scheduled_backups`; a file that is not removed is left. -/
def pruneScheduledBackups (retention : Int) : Backing ζ Unit :=
  if retention ≤ 0 then pure ()
  else do
    let names ← listBackups
    (names.drop retention.toNat).forM unlink

/-- The value of a program, or what it raises. -/
def caught {α : Type} (program : Backing ζ α) : Backing ζ (Except String α) :=
  tryCatch (do pure (.ok (← program))) fun raised => pure (.error raised)

/-- `write_backup_file`. -/
def writeBackupFile (stamp : String) (retention : Int) : Backing ζ String := do
  mkdir
  let target : String ← attempt (.freeName stamp)
  let written ← caught (writeZip target)
  removeTmp target
  orRaise written
  pruneScheduledBackups retention
  return target

/-! ## The directory after an operation -/

namespace BackupDir

variable {dir : BackupDir ζ} {file other : BackupFile ζ} {name target tmp : String} {zip : ζ}

theorem rows_put : (dir.put file).files.rows =
    file :: dir.files.rows.filter fun other => other.name ≠ file.name := by
  have free : (dir.files.remove file.name).find? file.name = none := by
    rw [Registry.find?_remove, if_pos rfl]
  exact Registry.rows_add free

theorem mem_put_iff : other ∈ (dir.put file).files.rows ↔
    other = file ∨ (other ∈ dir.files.rows ∧ other.name ≠ file.name) := by
  rw [rows_put, List.mem_cons, List.mem_filter, decide_eq_true_iff]

theorem mem_removed_iff : other ∈ (dir.removed name).files.rows ↔
    other ∈ dir.files.rows ∧ other.name ≠ name := by
  rw [removed, Registry.remove, List.mem_filter, decide_eq_true_iff]

theorem find?_put : (dir.put file).files.find? name =
    if name = file.name then some file else dir.files.find? name := by
  have free : (dir.files.remove file.name).find? file.name = none := by
    rw [Registry.find?_remove, if_pos rfl]
  rw [put, Registry.find?_add free, Registry.find?_remove]
  split <;> rfl

theorem find?_removed : (dir.removed name).files.find? target =
    if target = name then none else dir.files.find? target := Registry.find?_remove

/-- Nothing has a name that is not found. -/
theorem name_ne_of_free (free : dir.files.find? name = none) (listed : other ∈ dir.files.rows) :
    other.name ≠ name := by
  intro same
  apply Registry.find?_eq_none.mp free
  rw [← same]
  exact List.mem_map_of_mem listed

/-- A file that does not count is put in place of one that does not. -/
theorem scheduled_put (uncounted : isScheduled file.name = false) :
    (dir.put file).scheduled = dir.scheduled := by
  rw [scheduled, rows_put, List.filter_cons, uncounted, Bool.false_and, if_neg Bool.false_ne_true,
    List.filter_filter, scheduled]
  apply List.filter_congr
  intro other _
  by_cases same : other.name = file.name
  · rw [same, uncounted, Bool.false_and, Bool.false_and]
  · rw [decide_eq_true same, Bool.and_true]

/-- What counts of a directory from which something is removed, counted before. -/
theorem scheduled_removed : (dir.removed name).scheduled.Sublist dir.scheduled :=
  List.filter_sublist.filter _

theorem scheduled_removed_of_ne (uncounted : isScheduled name = false) :
    (dir.removed name).scheduled = dir.scheduled := by
  rw [scheduled, scheduled, removed, Registry.remove, List.filter_filter]
  apply List.filter_congr
  intro other _
  by_cases same : other.name = name
  · rw [same, uncounted, Bool.false_and, Bool.false_and]
  · rw [decide_eq_true same, Bool.and_true]

/-- A file under a free name counts as well. -/
theorem scheduled_put_free (free : dir.files.find? file.name = none)
    (counted : isScheduled file.name = true) (isFile : file.isFile = true) :
    (dir.put file).scheduled = file :: dir.scheduled := by
  have others : (dir.files.rows.filter fun other => other.name ≠ file.name) = dir.files.rows := by
    rw [List.filter_eq_self]
    intro other listed
    exact decide_eq_true (name_ne_of_free free listed)
  rw [scheduled, rows_put, List.filter_cons, counted, isFile, Bool.true_and, if_pos rfl, others,
    scheduled]

end BackupDir

/-! ## Names -/

theorem isScheduled_of_toList {name : String} {middle : List Char}
    (shape : name.toList = "mintarr-backup-".toList ++ middle ++ ".zip".toList) :
    isScheduled name = true := by
  have start : "mintarr-backup-".toList.isPrefixOf name.toList = true := by
    rw [List.isPrefixOf_iff_prefix, shape, List.append_assoc]
    exact List.prefix_append _ _
  have rest : name.toList.drop "mintarr-backup-".toList.length = middle ++ ".zip".toList := by
    rw [shape, List.append_assoc, List.drop_left]
  rw [isScheduled, start, rest, Bool.true_and, List.isSuffixOf_iff_suffix]
  exact List.suffix_append _ _

theorem toList_targetName (stamp : String) (suffix : Nat) :
    (targetName stamp suffix).toList = "mintarr-backup-".toList ++
      (stamp.toList ++ if suffix = 0 then [] else '-' :: Nat.toDigits 10 suffix) ++
        ".zip".toList := by
  have digits : (toString suffix).toList = Nat.toDigits 10 suffix := String.toList_ofList
  have dash : "-".toList = ['-'] := rfl
  delta targetName
  rw [String.toList_append, String.toList_append, String.toList_append]
  by_cases none : suffix = 0
  · rw [if_pos none, if_pos none, String.toList_empty, List.append_nil, List.append_nil]
  · rw [if_neg none, if_neg none, String.toList_append, digits, dash, List.singleton_append,
      List.append_assoc "mintarr-backup-".toList]

theorem isScheduled_targetName (stamp : String) (suffix : Nat) :
    isScheduled (targetName stamp suffix) = true := by
  exact isScheduled_of_toList (toList_targetName stamp suffix)

theorem targetName_injective (stamp : String) : Function.Injective (targetName stamp) := by
  intro first second same
  have texts := congrArg String.toList same
  rw [toList_targetName, toList_targetName, List.append_cancel_right_eq,
    List.append_cancel_left_eq, List.append_cancel_left_eq] at texts
  by_cases none : first = 0
  · by_cases other : second = 0
    · rw [none, other]
    · rw [if_pos none, if_neg other] at texts
      contradiction
  · by_cases other : second = 0
    · rw [if_neg none, if_pos other] at texts
      contradiction
    · rw [if_neg none, if_neg other, List.cons.injEq] at texts
      have digits := congrArg Text.int texts.2
      rw [Text.int_toDigits, Text.int_toDigits] at digits
      exact digits

/-- A temporary file does not count. -/
theorem isScheduled_tmpName (target : String) : isScheduled (tmpName target) = false := by
  have dot : (tmpName target).toList = '.' :: (target.toList ++ ".tmp".toList) := by
    delta tmpName
    rw [String.toList_append, String.toList_append]
    rfl
  rw [isScheduled, dot]
  rfl

theorem tmpName_ne (target name : String) (counted : isScheduled name = true) :
    name ≠ tmpName target := by
  rintro rfl
  rw [isScheduled_tmpName] at counted
  contradiction

namespace BackupDir

variable {dir : BackupDir ζ}

/-- The loop over the suffixes ends with a name that is not taken. -/
theorem free_freeName (stamp : String) : dir.files.find? (dir.freeName stamp) = none := by
  have free : ∃ suffix ∈ List.range (dir.files.rows.length + 1),
      (!dir.has (targetName stamp suffix)) = true := by
    by_contra taken
    push Not at taken
    have within : ((List.range (dir.files.rows.length + 1)).map (targetName stamp)) ⊆
        dir.files.rows.map BackupFile.name := by
      intro name listed
      obtain ⟨suffix, inside, rfl⟩ := List.mem_map.mp listed
      have found := taken suffix inside
      rw [Ne, Bool.not_eq_true, Bool.not_eq_false', has, Option.isSome_iff_ne_none] at found
      by_contra absent
      exact found (Registry.find?_eq_none.mpr absent)
    have distinct := (@List.nodup_range (dir.files.rows.length + 1)).map
      (targetName_injective stamp)
    have fewer := (List.subperm_of_subset distinct within).length_le
    rw [List.length_map, List.length_map, List.length_range] at fewer
    exact absurd fewer (Nat.not_succ_le_self _)
  have found := List.find?_isSome.mpr free
  rw [freeName]
  cases first : (List.range (dir.files.rows.length + 1)).find? fun suffix =>
      !dir.has (targetName stamp suffix) with
  | none =>
      rw [first] at found
      contradiction
  | some suffix =>
      have untaken := List.find?_some first
      rw [Bool.not_eq_true', has, Option.isSome_eq_false_iff, Option.isNone_iff_eq_none] at untaken
      exact untaken

end BackupDir

/-! ## What is newest -/

namespace BackupDir

variable {dir : BackupDir ζ} {file other : BackupFile ζ} {name : String} {count : Nat}

/-- One file stands before another. -/
def ahead (first second : BackupFile ζ) : Bool :=
  second.mtime < first.mtime || (second.mtime = first.mtime && second.name < first.name)

/-- How many of the files that count stand before a file. -/
def rank (dir : BackupDir ζ) (file : BackupFile ζ) : Nat :=
  dir.scheduled.countP fun other => ahead other file

theorem newer_total (first second : BackupFile ζ) : newer first second ∨ newer second first := by
  rw [newer, newer]
  rcases lt_trichotomy first.mtime second.mtime with earlier | same | later
  · exact .inr (.inl earlier)
  · rcases le_total first.name second.name with before | behind
    · exact .inr (.inr ⟨same, before⟩)
    · exact .inl (.inr ⟨same.symm, behind⟩)
  · exact .inl (.inl later)

theorem newer_trans {third : BackupFile ζ} (first : newer file other) (second : newer other third) :
    newer file third := by
  rw [newer] at first second ⊢
  rcases first with before | ⟨same, names⟩
  · rcases second with after | ⟨equal, _⟩
    · exact .inl (after.trans before)
    · exact .inl (equal ▸ before)
  · rcases second with after | ⟨equal, others⟩
    · exact .inl (same ▸ after)
    · exact .inr ⟨equal.trans same, others.trans names⟩

theorem ahead_of_newer (sorted : newer file other) (differs : file.name ≠ other.name) :
    ahead file other = true := by
  rw [ahead, Bool.or_eq_true, Bool.and_eq_true, decide_eq_true_iff, decide_eq_true_iff,
    decide_eq_true_iff]
  rcases sorted with later | ⟨same, names⟩
  · exact .inl later
  · exact .inr ⟨same, lt_of_le_of_ne names differs.symm⟩

theorem pairwise_backups : dir.backups.Pairwise fun first second => ahead first second = true := by
  have sorted : dir.backups.Pairwise newer := by
    have total : Std.Total (newer : BackupFile ζ → BackupFile ζ → Prop) := ⟨newer_total⟩
    have trans : IsTrans (BackupFile ζ) newer := ⟨fun _ _ _ => newer_trans⟩
    exact List.pairwise_insertionSort newer dir.scheduled
  have names : (dir.backups.map BackupFile.name).Nodup := by
    have same : (dir.backups.map BackupFile.name).Perm (dir.scheduled.map BackupFile.name) :=
      (List.perm_insertionSort newer dir.scheduled).map _
    exact same.nodup_iff.mpr
      (dir.files.distinct.sublist (List.filter_sublist.map BackupFile.name))
  rw [List.Nodup, List.pairwise_map] at names
  exact (sorted.and names).imp fun both => ahead_of_newer both.1 both.2

/-- Where a file stands behind the first ones, so many are ahead of it. -/
theorem le_rank_of_mem_drop (listed : file ∈ dir.backups.drop count) : count ≤ dir.rank file := by
  have whole := List.take_append_drop count dir.backups
  have sorted := @pairwise_backups ζ dir
  rw [← whole, List.pairwise_append] at sorted
  have first : (dir.backups.take count).countP (fun other => ahead other file) = count := by
    rw [List.countP_eq_length.mpr fun other before => sorted.2.2 other before file listed,
      List.length_take, min_eq_left]
    by_contra short
    rw [List.drop_eq_nil_of_le (Nat.le_of_not_le short)] at listed
    contradiction
  have same : dir.backups.countP (fun other => ahead other file) = dir.rank file :=
    (List.perm_insertionSort newer dir.scheduled).countP_eq _
  rw [← same, ← first]
  exact (List.take_sublist count dir.backups).countP_le

theorem rank_removed_le : (dir.removed name).rank file ≤ dir.rank file :=
  scheduled_removed.countP_le

end BackupDir

/-! ## What holds all along -/

/-- A name that the backups use for themselves. -/
def Own (name : String) : Prop :=
  isScheduled name = true ∨ ∃ target, isScheduled target = true ∧ name = tmpName target

/-- The backup that is this many back from the last one is to be kept. -/
def Recent (retention : Int) (back : Nat) : Prop := retention ≤ 0 ∨ back < retention.toNat

/-- What holds of the directory, compared with what it was. -/
structure Holds (retention : Int) (start dir : BackupDir ζ) : Prop where
  /-- The last backups are there as they were built. -/
  recent : ∀ back name zip, Recent retention back → dir.written[back]? = some (name, zip) →
    ∃ file ∈ dir.files.rows, file.name = name ∧ file.content = some zip ∧ dir.rank file ≤ back
  named : ∀ backup ∈ dir.written, isScheduled backup.1 = true
  /-- What counts as a backup was one before, or is one as it was built. -/
  whole : ∀ file ∈ dir.files.rows, isScheduled file.name = true →
    file ∈ start.files.rows ∨ ∃ zip, (file.name, zip) ∈ dir.written ∧ file.content = some zip
  /-- Nothing else is touched. -/
  others : ∀ name, ¬Own name → dir.files.find? name = start.files.find? name

variable {retention : Int} {start dir : BackupDir ζ} {file : BackupFile ζ}
  {name target tmp : String} {zip : ζ}

theorem Holds.refl (empty : start.written = []) : Holds retention start start where
  recent := by
    intro back name zip _ listed
    rw [empty] at listed
    contradiction
  named := by
    intro backup listed
    rw [empty] at listed
    contradiction
  whole := fun file listed _ => .inl listed
  others := fun _ _ => rfl

/-- The name of a backup is that of no temporary file. -/
theorem Holds.name_ne (holds : Holds retention start dir) {back : Nat}
    (listed : dir.written[back]? = some (name, zip)) : name ≠ tmpName target :=
  tmpName_ne target name (holds.named (name, zip) (List.mem_of_getElem? listed))

/-- A temporary file is no backup. -/
theorem Holds.put (holds : Holds retention start dir) (counted : isScheduled target = true)
    (tmp : file.name = tmpName target) : Holds retention start (dir.put file) := by
  have uncounted : isScheduled file.name = false := tmp ▸ isScheduled_tmpName target
  constructor
  · intro back name zip recent listed
    obtain ⟨kept, found, same, content, rank⟩ := holds.recent back name zip recent listed
    refine ⟨kept, ?_, same, content, ?_⟩
    · rw [BackupDir.mem_put_iff, same, tmp]
      exact .inr ⟨found, holds.name_ne listed⟩
    · rw [BackupDir.rank, BackupDir.scheduled_put uncounted]
      exact rank
  · exact holds.named
  · intro other listed isBackup
    rw [BackupDir.mem_put_iff] at listed
    rcases listed with rfl | ⟨there, _⟩
    · rw [uncounted] at isBackup
      contradiction
    · exact holds.whole other there isBackup
  · intro other foreign
    rw [BackupDir.find?_put, if_neg]
    · exact holds.others other foreign
    · rintro rfl
      exact foreign (.inr ⟨target, counted, tmp⟩)

/-- A name of the backups that is none of the last ones may be removed. -/
theorem Holds.removed (holds : Holds retention start dir) (own : Own name)
    (old : ∀ back other zip, Recent retention back → dir.written[back]? = some (other, zip) →
      other ≠ name) : Holds retention start (dir.removed name) := by
  constructor
  · intro back other zip recent listed
    obtain ⟨kept, found, same, content, rank⟩ := holds.recent back other zip recent listed
    refine ⟨kept, ?_, same, content, BackupDir.rank_removed_le.trans rank⟩
    rw [BackupDir.mem_removed_iff, same]
    exact ⟨found, old back other zip recent listed⟩
  · exact holds.named
  · intro other listed isBackup
    exact holds.whole other (BackupDir.mem_removed_iff.mp listed).1 isBackup
  · intro other foreign
    rw [BackupDir.find?_removed, if_neg]
    · exact holds.others other foreign
    · rintro rfl
      exact foreign own

/-- The temporary file holds this zip, and is newer than the backups. -/
def Filled (dir : BackupDir ζ) (target : String) (zip : ζ) : Prop :=
  ∃ now, dir.files.find? (tmpName target) = some ⟨tmpName target, some zip, now, true⟩ ∧
    ∀ file ∈ dir.scheduled, file.mtime < now

/-- What a rename leaves, under a name that was not taken. -/
theorem BackupDir.renamed_spec {now : Int} (counted : isScheduled target = true)
    (free : dir.files.find? target = none)
    (found : dir.files.find? (tmpName target) = some ⟨tmpName target, some zip, now, true⟩) :
    (dir.renamed (tmpName target) target zip).written = (target, zip) :: dir.written ∧
      (dir.renamed (tmpName target) target zip).scheduled =
        ⟨target, some zip, now, true⟩ :: dir.scheduled ∧
      (∀ file, file ∈ (dir.renamed (tmpName target) target zip).files.rows ↔
        file = ⟨target, some zip, now, true⟩ ∨
          (file ∈ dir.files.rows ∧ file.name ≠ tmpName target)) ∧
      ∀ name, name ≠ target → name ≠ tmpName target →
        (dir.renamed (tmpName target) target zip).files.find? name = dir.files.find? name := by
  have differs : target ≠ tmpName target := tmpName_ne target target counted
  have stillFree : (dir.removed (tmpName target)).files.find? target = none := by
    rw [BackupDir.find?_removed, if_neg differs]
    exact free
  have shape : dir.renamed (tmpName target) target zip =
      { (dir.removed (tmpName target)).put ⟨target, some zip, now, true⟩ with
        written := (target, zip) :: dir.written } := by
    rw [BackupDir.renamed, found]
  rw [shape]
  refine ⟨rfl, ?_, ?_, ?_⟩
  · have scheduled := @BackupDir.scheduled_put_free ζ (dir.removed (tmpName target))
      ⟨target, some zip, now, true⟩ stillFree counted rfl
    rw [BackupDir.scheduled_removed_of_ne (isScheduled_tmpName target)] at scheduled
    exact scheduled
  · intro file
    apply BackupDir.mem_put_iff.trans
    rw [BackupDir.mem_removed_iff]
    apply or_congr_right
    constructor
    · exact fun there => there.1
    · exact fun there => ⟨there, BackupDir.name_ne_of_free free there.1⟩
  · intro name apart noTmp
    exact (BackupDir.find?_put.trans (if_neg apart)).trans
      (BackupDir.find?_removed.trans (if_neg noTmp))

/-- The newest backup gets a name that is not taken. -/
theorem Holds.renamed (holds : Holds retention start dir) (counted : isScheduled target = true)
    (free : dir.files.find? target = none) (filled : Filled dir target zip) :
    Holds retention start (dir.renamed (tmpName target) target zip) := by
  obtain ⟨now, found, newest⟩ := filled
  obtain ⟨written, scheduled, rows, elsewhere⟩ := BackupDir.renamed_spec counted free found
  constructor
  · intro back name other recent listed
    rw [written] at listed
    cases back with
    | zero =>
        cases listed
        refine ⟨_, (rows _).mpr (.inl rfl), rfl, rfl, ?_⟩
        rw [Nat.le_zero, BackupDir.rank, scheduled, List.countP_eq_zero]
        intro first among
        rcases List.mem_cons.mp among with rfl | earlier
        · simp [BackupDir.ahead]
        · have before := newest first earlier
          simp [BackupDir.ahead, before.le, before.ne']
    | succ back =>
        have sooner : Recent retention back := recent.imp_right Nat.lt_of_succ_lt
        obtain ⟨kept, there, same, content, rank⟩ := holds.recent back name other sooner listed
        refine ⟨kept, (rows kept).mpr (.inr ⟨there, ?_⟩), same, content, ?_⟩
        · rw [same]
          exact holds.name_ne listed
        · rw [BackupDir.rank, scheduled, List.countP_cons]
          apply Nat.add_le_add rank
          split
          · exact Nat.le_refl 1
          · exact Nat.zero_le 1
  · intro backup listed
    rw [written] at listed
    rcases List.mem_cons.mp listed with rfl | earlier
    · exact counted
    · exact holds.named backup earlier
  · intro other listed isBackup
    rw [written]
    rcases (rows other).mp listed with rfl | ⟨there, _⟩
    · exact .inr ⟨zip, List.mem_cons_self, rfl⟩
    · rcases holds.whole other there isBackup with before | ⟨built, earlier, content⟩
      · exact .inl before
      · exact .inr ⟨built, List.mem_cons_of_mem _ earlier, content⟩
  · intro other foreign
    have apart : other ≠ target := by
      rintro rfl
      exact foreign (.inl counted)
    have noTmp : other ≠ tmpName target := by
      rintro rfl
      exact foreign (.inr ⟨target, counted, rfl⟩)
    exact (elsewhere other apart noTmp).trans (holds.others other foreign)

/-! ## One backup -/

/-- The clock of the file system is past the time of every backup when a zip is written. -/
def Advances (dir : BackupDir ζ) : Call ζ → Reply ζ → Prop
  | .fill _ _, .done now => ∀ file ∈ dir.scheduled, file.mtime < now
  | _, _ => True

instance (dir : BackupDir ζ) (call : Call ζ) (reply : Reply ζ) :
    Decidable (Advances dir call reply) :=
  match call, reply with
  | .fill _ _, .done now => inferInstanceAs (Decidable (∀ file ∈ dir.scheduled, file.mtime < now))
  | .fill _ _, .built _ | .fill _ _, .fails _ | .mkdir, _ | .freeName _, _ | .build, _
  | .truncate _, _ | .replace _ _ _, _ | .exists _, _ | .list, _ | .unlink _, _ => isTrue trivial

/-- The file system, with such a clock. -/
abbrev disk (ζ : Type) : Surroundings (Call ζ) (Answer ζ) (BackupDir ζ) :=
  (@fileSystem ζ).surroundings Advances

/-- From `before` a program leaves `after`, or raises, and `Holds` all along. -/
abbrev Keeps {α : Type} (retention : Int) (start : BackupDir ζ) (before : BackupDir ζ → Prop)
    (program : Backing ζ α) (after : α → BackupDir ζ → Prop) : Prop :=
  (disk ζ).CrashTriple (fun dir => Holds retention start dir ∧ before dir) program
    (fun value dir => Holds retention start dir ∧ after value dir)
    (fun _ dir => Holds retention start dir) (Holds retention start)

theorem keeps_orRaise {α : Type} {answer : Except String α} {after : α → BackupDir ζ → Prop} :
    Keeps retention start (fun dir => ∀ value, answer = .ok value → after value dir)
      (orRaise answer) after := by
  cases answer with
  | ok value => exact .pure fun dir both => ⟨both.1, both.2 value rfl⟩
  | error text => exact .throw fun dir both => both.1

/-- An effect that keeps what holds, where it happens. -/
theorem keeps_effect {call : Call ζ} {answered : Answer ζ call → Except String Unit}
    {before after : BackupDir ζ → Prop} (change : BackupDir ζ → Int → BackupDir ζ)
    (responds : ∀ dir reply,
      ((fileSystem.respond dir call reply).2 = (reply.effect dir (change dir)).2) ∧
        answered (fileSystem.respond dir call reply).1 = (reply.effect dir (change dir)).1)
    (holds : ∀ dir now, Holds retention start dir → before dir → Advances dir call (.done now) →
      Holds retention start (change dir now) ∧ after (change dir now)) :
    Keeps retention start before (attempt call >>= fun answer => orRaise (answered answer))
      fun _ => after := by
  have asked : Keeps retention start before (attempt call) fun answer dir =>
      ∀ value, answered answer = .ok value → after dir := by
    apply Surroundings.CrashTriple.ask
    · exact fun _ both => both.1
    rintro dir answer next ⟨kept, initially⟩ ⟨reply, advances, responded⟩
    have both := responds dir reply
    rw [responded] at both
    obtain ⟨same, answers⟩ := both
    change next = _ at same
    rw [same]
    cases reply with
    | done now =>
        obtain ⟨still, ends⟩ := holds dir now kept initially advances
        exact ⟨still, fun _ _ => ends⟩
    | built zip =>
        refine ⟨kept, ?_⟩
        intro value succeeded
        rw [answers] at succeeded
        contradiction
    | fails text =>
        refine ⟨kept, ?_⟩
        intro value succeeded
        rw [answers] at succeeded
        contradiction
  exact asked.bind fun answer => keeps_orRaise

theorem keeps_mkdir : Keeps retention start (fun _ => True) mkdir fun _ _ => True :=
  keeps_effect (fun dir _ => dir) (fun _ _ => ⟨rfl, rfl⟩) fun _ _ kept _ _ => ⟨kept, trivial⟩

theorem keeps_buildZip {before : BackupDir ζ → Prop} :
    Keeps retention start before buildZip fun _ => before := by
  have asked : Keeps retention start before (attempt .build) fun answer dir =>
      ∀ value, answer = .ok value → before dir := by
    apply Surroundings.CrashTriple.ask
    · exact fun _ both => both.1
    rintro dir answer next both ⟨reply, _, responded⟩
    cases responded
    exact ⟨both.1, fun _ _ => both.2⟩
  exact asked.bind fun answer => keeps_orRaise

/-- The name of the backup stays free while the temporary file is written. -/
theorem free_put (counted : isScheduled target = true) (tmp : file.name = tmpName target)
    (free : dir.files.find? target = none) : (dir.put file).files.find? target = none := by
  rw [BackupDir.find?_put, tmp, if_neg (tmpName_ne target target counted)]
  exact free

theorem keeps_truncate (counted : isScheduled target = true) :
    Keeps retention start (fun dir => dir.files.find? target = none)
      (truncate (tmpName target)) fun _ dir => dir.files.find? target = none :=
  keeps_effect (fun dir now => dir.put ⟨tmpName target, none, now, true⟩)
    (fun _ _ => ⟨rfl, rfl⟩) fun _ _ kept free _ =>
    ⟨kept.put counted rfl, free_put counted rfl free⟩

theorem keeps_fill (counted : isScheduled target = true) :
    Keeps retention start (fun dir => dir.files.find? target = none)
      (fill (tmpName target) zip) fun _ dir =>
        dir.files.find? target = none ∧ Filled dir target zip := by
  apply keeps_effect (fun dir now => dir.put ⟨tmpName target, some zip, now, true⟩)
    fun _ _ => ⟨rfl, rfl⟩
  intro dir now kept free advances
  refine ⟨kept.put counted rfl, free_put counted rfl free, now, ?_, ?_⟩
  · rw [BackupDir.find?_put, if_pos rfl]
  · have same := @BackupDir.scheduled_put ζ dir ⟨tmpName target, some zip, now, true⟩
      (isScheduled_tmpName target)
    rw [same]
    exact advances

theorem keeps_replace (counted : isScheduled target = true) :
    Keeps retention start (fun dir => dir.files.find? target = none ∧ Filled dir target zip)
      (replace (tmpName target) target zip) fun _ _ => True :=
  keeps_effect (fun dir _ => dir.renamed (tmpName target) target zip)
    (fun _ _ => ⟨rfl, rfl⟩) fun _ _ kept both _ =>
    ⟨kept.renamed counted both.1 both.2, trivial⟩

theorem keeps_writeZip (counted : isScheduled target = true) :
    Keeps retention start (fun dir => dir.files.find? target = none)
      (writeZip target) fun _ _ => True := by
  apply keeps_buildZip.bind
  intro zip
  apply (keeps_truncate counted).bind
  intro _
  apply (keeps_fill counted).bind
  intro _
  exact keeps_replace counted

/-- A question changes nothing. -/
theorem keeps_question {call : Call ζ} {before : BackupDir ζ → Prop}
    {after : Answer ζ call → BackupDir ζ → Prop}
    (responds : ∀ dir reply, (fileSystem.respond dir call reply).2 = dir)
    (holds : ∀ dir reply, before dir → after (fileSystem.respond dir call reply).1 dir) :
    Keeps retention start before (attempt call) after := by
  apply Surroundings.CrashTriple.ask
  · exact fun _ both => both.1
  rintro dir answer next ⟨kept, initially⟩ ⟨reply, _, responded⟩
  have same := responds dir reply
  have holds := holds dir reply initially
  rw [responded] at same holds
  change next = dir at same
  rw [same]
  exact ⟨kept, holds⟩

theorem keeps_unlink {before : BackupDir ζ → Prop}
    (removable : ∀ dir, Holds retention start dir → before dir →
      Holds retention start (dir.removed name) ∧ before (dir.removed name)) :
    Keeps retention start before (unlink name) fun _ => before := by
  have asked : Keeps retention start before (attempt (.unlink name)) fun _ => before := by
    apply Surroundings.CrashTriple.ask
    · exact fun _ both => both.1
    rintro dir answer next ⟨kept, initially⟩ ⟨reply, _, responded⟩
    cases reply with
    | done now =>
        cases responded
        exact removable dir kept initially
    | built zip =>
        cases responded
        exact ⟨kept, initially⟩
    | fails text =>
        cases responded
        exact ⟨kept, initially⟩
  exact asked.bind fun _ => .pure fun _ both => both

theorem keeps_removeTmp (counted : isScheduled target = true) :
    Keeps retention start (fun _ => True) (removeTmp target) fun _ _ => True := by
  have own : Own (tmpName target) := .inr ⟨target, counted, rfl⟩
  have asked : Keeps retention start (fun _ => True) (attempt (.exists (tmpName target)))
      fun _ _ => True :=
    keeps_question (fun _ _ => rfl) fun _ _ _ => trivial
  apply asked.bind
  intro isThere
  cases isThere with
  | false => exact .pure fun _ both => both
  | true =>
      apply keeps_unlink
      intro dir kept _
      refine ⟨kept.removed own ?_, trivial⟩
      intro back other zip _ listed
      exact kept.name_ne listed

/-- What is true before and does not speak of the directory is a hypothesis. -/
theorem keeps_of_fact {α : Type} {fact : Prop} {program : Backing ζ α}
    {before : BackupDir ζ → Prop} {after : α → BackupDir ζ → Prop}
    (kept : fact → Keeps retention start before program after) :
    Keeps retention start (fun dir => fact ∧ before dir) program after :=
  (Surroundings.CrashTriple.of_fact kept).imp (fun _ both => ⟨both.2.1, both.1, both.2.2⟩)
    (fun _ _ => id) (fun _ _ => id) fun _ => id

/-- None of the last backups has one of these names. -/
def Spares (retention : Int) (names : List String) (dir : BackupDir ζ) : Prop :=
  ∀ back name zip, Recent retention back → dir.written[back]? = some (name, zip) → name ∉ names

/-- The last backups are not among those that are removed. -/
theorem Holds.spares (holds : Holds retention start dir) (limited : ¬retention ≤ 0) :
    Spares retention ((dir.backups.map BackupFile.name).drop retention.toNat) dir := by
  intro back name zip recent listed removed
  obtain ⟨kept, there, same, _, rank⟩ := holds.recent back name zip recent listed
  rw [← List.map_drop] at removed
  obtain ⟨other, dropped, named⟩ := List.mem_map.mp removed
  have among : other ∈ dir.files.rows := by
    have sorted := List.mem_of_mem_drop dropped
    rw [BackupDir.backups, List.mem_insertionSort] at sorted
    exact (List.mem_filter.mp sorted).1
  have equal : other = kept :=
    List.inj_on_of_nodup_map dir.files.distinct among there (named.trans same.symm)
  have behind := BackupDir.le_rank_of_mem_drop dropped
  rw [equal] at behind
  exact absurd (recent.resolve_left limited) (Nat.not_lt.mpr (behind.trans rank))

/-- What is listed counts as a backup. -/
theorem isScheduled_of_backups {count : Nat}
    (listed : name ∈ (dir.backups.map BackupFile.name).drop count) : isScheduled name = true := by
  obtain ⟨file, sorted, rfl⟩ := List.mem_map.mp (List.mem_of_mem_drop listed)
  rw [BackupDir.backups, List.mem_insertionSort] at sorted
  have counts := (List.mem_filter.mp sorted).2
  rw [Bool.and_eq_true] at counts
  exact counts.1

theorem keeps_pruneScheduledBackups :
    Keeps retention start (fun _ => True) (pruneScheduledBackups retention) fun _ _ => True := by
  rw [pruneScheduledBackups]
  by_cases unlimited : retention ≤ 0
  · rw [if_pos unlimited]
    exact .pure fun _ both => both
  rw [if_neg unlimited]
  have listed : Keeps retention start (fun _ => True) listBackups fun names dir =>
      (∀ name ∈ names.drop retention.toNat, isScheduled name = true) ∧
        Spares retention (names.drop retention.toNat) dir := by
    have asked : Keeps retention start (fun _ => True) (attempt .list) fun answer dir =>
        ∀ names, answer = .ok names →
          (∀ name ∈ names.drop retention.toNat, isScheduled name = true) ∧
            Spares retention (names.drop retention.toNat) dir := by
      apply Surroundings.CrashTriple.ask
      · exact fun _ both => both.1
      rintro dir answer next ⟨kept, _⟩ ⟨reply, _, responded⟩
      cases responded
      refine ⟨kept, ?_⟩
      intro names read
      cases reply with
      | done now =>
          cases read
          exact ⟨fun name => isScheduled_of_backups, kept.spares unlimited⟩
      | built zip => contradiction
      | fails text => contradiction
    exact asked.bind fun answer => keeps_orRaise
  apply listed.bind
  intro names
  have loop (counts : ∀ name ∈ names.drop retention.toNat, isScheduled name = true) :
      Keeps retention start (Spares retention (names.drop retention.toNat))
        ((names.drop retention.toNat).forM unlink) fun _ =>
          Spares retention (names.drop retention.toNat) := by
    apply Surroundings.CrashTriple.forM
    intro name among
    apply keeps_unlink
    intro dir kept spares
    refine ⟨kept.removed (.inl (counts name among)) ?_, spares⟩
    rintro back _ zip recent written rfl
    exact spares back _ zip recent written among
  apply keeps_of_fact
  intro counts
  exact (loop counts).imp (fun _ => id) (fun _ _ both => ⟨both.1, trivial⟩) (fun _ _ => id)
    fun _ => id

theorem keeps_caught {α : Type} {program : Backing ζ α} {before : BackupDir ζ → Prop}
    (kept : Keeps retention start before program fun _ _ => True) :
    Keeps retention start before (caught program) fun _ _ => True := by
  have body : Keeps retention start before
      (do pure (.ok (← program)) : Backing ζ (Except String α)) fun _ _ => True :=
    kept.bind fun value => .pure fun _ both => both
  exact body.tryCatch fun raised => .pure fun _ holds => ⟨holds, trivial⟩

/-- A backup keeps what holds, however far it comes. -/
theorem keeps_writeBackupFile (stamp : String) (retention : Int) :
    Keeps retention start (fun _ => True) (writeBackupFile stamp retention) fun _ _ => True := by
  apply keeps_mkdir.bind
  intro _
  have named : Keeps retention start (fun _ => True) (attempt (.freeName stamp))
      fun (target : String) dir => isScheduled target = true ∧ dir.files.find? target = none :=
    keeps_question (fun _ _ => rfl) fun dir _ _ =>
      ⟨isScheduled_targetName _ _, BackupDir.free_freeName stamp⟩
  apply named.bind
  intro target
  apply keeps_of_fact
  intro counted
  apply (keeps_caught (keeps_writeZip counted)).bind
  intro written
  apply (keeps_removeTmp counted).bind
  intro _
  have raised : Keeps retention start (fun _ => True) (orRaise written) fun _ _ => True :=
    keeps_orRaise.imp (fun _ both => ⟨both.1, fun _ _ => trivial⟩) (fun _ _ => id) (fun _ _ => id)
      fun _ => id
  apply raised.bind
  intro _
  apply keeps_pruneScheduledBackups.bind
  intro _
  exact .pure fun _ both => both

/-! ## How many backups are left -/

/-- Every file that is to be removed is removed. -/
def Removes (_ : BackupDir ζ) : Call ζ → Reply ζ → Prop
  | .unlink _, reply => ∃ now, reply = .done now
  | _, _ => True

/-- The backups that are there were listed, and none of them has been removed. -/
def Remaining (listed removed : List String) (dir : BackupDir ζ) : Prop :=
  ∀ file ∈ dir.scheduled, file.name ∈ listed ∧ file.name ∉ removed

theorem length_le_of_remaining {listed : List String} {count : Nat}
    (remaining : Remaining listed (listed.drop count) dir) : dir.scheduled.length ≤ count := by
  have names : (dir.scheduled.map BackupFile.name).Nodup :=
    dir.files.distinct.sublist (List.filter_sublist.map BackupFile.name)
  have within : dir.scheduled.map BackupFile.name ⊆ listed.take count := by
    intro name among
    obtain ⟨file, counts, rfl⟩ := List.mem_map.mp among
    obtain ⟨there, left⟩ := remaining file counts
    rw [← List.take_append_drop count listed, List.mem_append] at there
    exact there.resolve_right left
  have fewer := (List.subperm_of_subset names within).length_le
  rw [List.length_map] at fewer
  exact fewer.trans (List.length_take_le count listed)

/-- The listing names every backup. -/
theorem remaining_backups : Remaining (dir.backups.map BackupFile.name) [] dir := by
  intro file counts
  refine ⟨List.mem_map_of_mem ?_, List.not_mem_nil⟩
  rw [BackupDir.backups, List.mem_insertionSort]
  exact counts

/-- What a program leaves where all removals succeed, if it returns. -/
abbrev Leaves {α : Type} (before : BackupDir ζ → Prop) (program : Backing ζ α)
    (after : α → BackupDir ζ → Prop) : Prop :=
  ((@fileSystem ζ).surroundings Removes).CrashTriple before program after (fun _ _ => True)
    fun _ => True

/-- A round of the loop removes its backup. -/
theorem leaves_unlink {listed removed : List String} :
    Leaves (Remaining listed removed : BackupDir ζ → Prop) (unlink name) fun _ =>
      Remaining listed (removed ++ [name]) := by
  have asked : Leaves (Remaining listed removed : BackupDir ζ → Prop)
      (attempt (.unlink name)) fun _ => Remaining listed (removed ++ [name]) := by
    apply Surroundings.CrashTriple.ask
    · exact fun _ _ => trivial
    rintro dir answer next remaining ⟨reply, ⟨now, rfl⟩, responded⟩
    cases responded
    intro file counts
    obtain ⟨there, left⟩ := remaining file (BackupDir.scheduled_removed.subset counts)
    refine ⟨there, ?_⟩
    rw [List.mem_append, List.mem_singleton, not_or]
    exact ⟨left, (BackupDir.mem_removed_iff.mp (List.mem_filter.mp counts).1).2⟩
  exact asked.bind fun _ => .pure fun _ remaining => remaining

/-- Where pruning returns, no more backups are left than are to be kept. -/
theorem leaves_pruneScheduledBackups (limited : ¬retention ≤ 0) :
    Leaves (fun _ : BackupDir ζ => True) (pruneScheduledBackups retention) fun _ dir =>
      dir.scheduled.length ≤ retention.toNat := by
  rw [pruneScheduledBackups, if_neg limited]
  have listed : Leaves (fun _ : BackupDir ζ => True) listBackups fun names =>
      Remaining names [] := by
    have asked : Leaves (fun _ : BackupDir ζ => True) (attempt .list) fun answer dir =>
        ∀ names, answer = .ok names → Remaining names [] dir := by
      apply Surroundings.CrashTriple.ask
      · exact fun _ _ => trivial
      rintro dir answer next _ ⟨reply, _, responded⟩
      cases responded
      intro names read
      cases reply with
      | done now =>
          cases read
          exact remaining_backups
      | built zip => contradiction
      | fails text => contradiction
    apply asked.bind
    intro answer
    cases answer with
    | ok names => exact .pure fun _ read => read names rfl
    | error text => exact .throw fun _ _ => trivial
  apply listed.bind
  intro names
  have loop : Leaves (Remaining names [] : BackupDir ζ → Prop)
      ((names.drop retention.toNat).forM unlink) fun _ =>
        Remaining names ([] ++ names.drop retention.toNat) :=
    .forM_done [] fun _ _ _ _ => leaves_unlink
  exact loop.imp (fun _ => id) (fun _ _ => length_le_of_remaining) (fun _ _ => id) fun _ => id

/-- Nor does a backup that returns leave more. -/
theorem leaves_writeBackupFile (stamp : String) (limited : ¬retention ≤ 0) :
    Leaves (fun _ : BackupDir ζ => True) (writeBackupFile stamp retention) fun _ dir =>
      dir.scheduled.length ≤ retention.toNat := by
  have anything {α : Type} (program : Backing ζ α) :
      Leaves (fun _ => True) program fun _ _ => True := .any
  apply (anything mkdir).bind
  intro _
  apply (anything (attempt (.freeName stamp))).bind
  intro target
  apply (anything (caught (writeZip target))).bind
  intro written
  apply (anything (removeTmp target)).bind
  intro _
  apply (anything (orRaise written)).bind
  intro _
  apply (leaves_pruneScheduledBackups limited).bind
  intro _
  exact .pure fun _ bounded => bounded

/-! ## Every run -/

/-- The scheduler at work: a backup with the time in its name, executed against some replies, which
may end before it does. -/
def scheduler (ζ : Type) (retention : Int) :
    Machine (BackupDir ζ) (String × List (Reply ζ)) where
  step dir backup := some (fileSystem.exec (writeBackupFile backup.1 retention) backup.2 dir).1

/-- The clock advances from backup to backup. -/
def Timely (retention : Int) (dir : BackupDir ζ) (backup : String × List (Reply ζ)) : Prop :=
  (@fileSystem ζ).Meets Advances (writeBackupFile backup.1 retention) backup.2 dir

/-- A directory in which nothing is yet. -/
def emptyDir : BackupDir Nat := ⟨.empty, []⟩

/-- A backup that ends, and one that is killed when its zip is written. -/
def firstReplies : List (Reply Nat) :=
  [.done 1, .done 1, .built 7, .done 2, .done 3, .done 3, .done 3, .done 3]

def secondReplies : List (Reply Nat) := [.done 4, .done 4, .built 8, .done 5, .done 6]

/-- The directory after each of them. -/
def firstDir : BackupDir Nat := (fileSystem.exec (writeBackupFile "1" 1) firstReplies emptyDir).1

def secondDir : BackupDir Nat :=
  (fileSystem.exec (writeBackupFile "2" 1) secondReplies firstDir).1

example : secondDir.files.rows.map (fun file => (file.name, file.content, file.mtime)) =
    [(".mintarr-backup-2.zip.tmp", some 8, 6), ("mintarr-backup-1.zip", some 7, 3)] := by
  decide +kernel

end Mintarr.Backup
