import Mathlib.Data.List.Nodup
import Mathlib.Logic.Function.Basic
import Mintarr.Lib.Lists
import Mintarr.Lib.Path
import Mintarr.Restore.Backup

/-!
# The destinations of a restore plan

Where the entries of an accepted zip go, under the roots that the server passes to a
restore.  The validation compares the names as they are written, and a path drops empty
segments and dots, so two spellings of one destination are both accepted.
-/

namespace Mintarr.Restore

open Lib

/-! ## Names and paths -/

/-- A member as the zip lists it. -/
structure Member where
  filename : String
  externalAttr : Nat := 0
  data : Bytes
  deriving DecidableEq, Repr

def Member.info (member : Member) : ZipInfo where
  filename := segments member.filename
  externalAttr := member.externalAttr
  data := member.data

/-- `PurePosixPath(name).parts`, of a relative name. -/
def parts (filename : List String) : List String :=
  filename.filter fun part => part ≠ "" ∧ part ≠ "."

/-- `RestoreTargets`; a path is the list of its names. -/
structure RestoreTargets where
  stateDbPath : List String
  outputBase : List String
  archiveDirs : Label → List String
  logPaths : LogName → List String

/-- The targets of `apply_pending_restore_at_boot`; the state DB and `OUTPUT_BASE` are
configured. -/
def serverTargets (stateDbPath outputBase : List String) : RestoreTargets where
  stateDbPath := stateDbPath
  outputBase := outputBase
  archiveDirs label :=
    match label with
    | .blocked => ["config", "blocked_decisions"]
    | .discarded => ["config", "discarded"]
    | .expired => ["config", "expired_review"]
  logPaths name :=
    match name with
    | .decisions => ["config", "decisions.jsonl"]
    | .releaseSwitchAudit => ["config", "release_switch_audit.jsonl"]

/-- `_entry_target`; nothing where it raises. -/
def entryPath (targets : RestoreTargets) (entry : RestoreEntry) : Option (List String) :=
  match entry.kind, entry.targetKey with
  | .sidecar, [_, jid, _] => some (targets.outputBase ++ [jid, "verification.json"])
  | .archive, [_, label, name] =>
      (Label.all.find? fun other => other.text = label).map fun other =>
        targets.archiveDirs other ++ [name]
  | .log, [_, name] => (LogName.all.find? fun other => other.text = name).map targets.logPaths
  | _, _ => none

/-! ## Applying -/

/-- The files under their paths. -/
abbrev Tree := List String → Option Bytes

/-- `zf.read(name)`: the last member of that name. -/
def readMember (zip : List ZipInfo) (name : List String) : Option Bytes :=
  (zip.reverse.find? fun info => info.filename = name).map ZipInfo.data

/-- `f"{db_path}{suffix}"`. -/
def suffixed (path : List String) (suffix : String) : List String :=
  path.dropLast ++ [path.getLastD "" ++ suffix]

/-- The state DB's part of `_apply_entries`: the file is replaced and its log removed. -/
def replaceStateDb (targets : RestoreTargets) (zip : List ZipInfo) (tree : Tree)
    (entry : RestoreEntry) : Option Tree := do
  let data ← readMember zip entry.name
  let replaced := Function.update tree targets.stateDbPath (some data)
  pure (Function.update (Function.update replaced (suffixed targets.stateDbPath "-wal") none)
    (suffixed targets.stateDbPath "-shm") none)

/-- What `_apply_entries` does with any other entry. -/
def replaceTarget (targets : RestoreTargets) (zip : List ZipInfo) (tree : Tree)
    (entry : RestoreEntry) : Option Tree := do
  let path ← entryPath targets entry
  let data ← readMember zip entry.name
  pure (Function.update tree path (some data))

/-- `_apply_entries`, where no write fails; nothing where it raises. -/
def applyPlan (targets : RestoreTargets) (zip : List ZipInfo) (entries : List RestoreEntry)
    (tree : Tree) : Option Tree := do
  let replaced ← (entries.filter fun entry => entry.kind = .stateDb).foldlM
    (replaceStateDb targets zip) tree
  (entries.filter fun entry => entry.kind ≠ .stateDb).foldlM (replaceTarget targets zip) replaced

/-- Entries with different destinations are written in any order. -/
theorem replaceTarget_commutes {targets : RestoreTargets} {zip : List ZipInfo}
    {first second : RestoreEntry} (tree : Tree)
    (apart : first = second ∨ entryPath targets first ≠ entryPath targets second) :
    (replaceTarget targets zip tree first).bind (replaceTarget targets zip · second) =
      (replaceTarget targets zip tree second).bind (replaceTarget targets zip · first) := by
  cases apart with
  | inl same => rw [same]
  | inr different =>
      unfold replaceTarget
      cases firstPath : entryPath targets first with
      | none => cases entryPath targets second <;> simp
      | some path =>
          cases secondPath : entryPath targets second with
          | none => simp
          | some other =>
              have distinct : path ≠ other := by
                intro same
                rw [firstPath, secondPath, same] at different
                exact different rfl
              cases readMember zip first.name with
              | none => cases readMember zip second.name <;> simp
              | some data =>
                  cases readMember zip second.name with
                  | none => simp
                  | some otherData => simp [Function.update_comm distinct]

/-! ## What the validation knows of an entry -/

/-- A file that an entry may name. -/
def Target.Restorable : Target → Prop
  | .stateDb | .log _ => True
  | .sidecar jid => isJid jid = true
  | .archive _ name => isJsonName name = true ∧ name ≠ ".json"
  | .wal | .shm | .other _ => False

theorem Target.Restorable.filename_ne_nil {target : Target} (restorable : target.Restorable) :
    target.filename ≠ [] := by
  cases target with
  | wal | shm | other => exact absurd restorable id
  | stateDb | sidecar | archive | log => simp [Target.filename]

/-- An accepted member is the entry of the file that the parts of its name spell. -/
theorem target_of_validateInfo {info : ZipInfo} {entry : RestoreEntry}
    (accepted : validateInfo info = .ok entry) :
    ∃ target : Target, target.Restorable ∧ parts info.filename = target.filename ∧
      entry = { target.entry info.data with name := info.filename } := by
  have checked := validateParts_of_validateInfo accepted
  rw [← parts] at checked
  generalize parts info.filename = names at checked
  unfold validateParts at checked
  split at checked
  · cases checked
    exact ⟨.stateDb, trivial, rfl, rfl⟩
  · next jid =>
      split at checked
      · contradiction
      · next jidLike =>
          cases checked
          exact ⟨.sidecar jid, by simpa [Target.Restorable] using jidLike, rfl, rfl⟩
  · next label name =>
      split at checked
      · contradiction
      · next known =>
          split at checked
          · contradiction
          · next json =>
              cases checked
              obtain ⟨found, -, rfl⟩ := List.mem_map.mp (not_not.mp known)
              have named : isJsonName name = true ∧ name ≠ ".json" := by simpa using json
              exact ⟨.archive found name, named, rfl, rfl⟩
  · next name =>
      split at checked
      · contradiction
      · next known =>
          cases checked
          obtain ⟨found, -, rfl⟩ := List.mem_map.mp (not_not.mp known)
          exact ⟨.log found, trivial, rfl, rfl⟩
  · contradiction

/-- Where a file goes, the state DB apart. -/
def Target.path (targets : RestoreTargets) : Target → Option (List String)
  | .sidecar jid => some (targets.outputBase ++ [jid, "verification.json"])
  | .archive label name => some (targets.archiveDirs label ++ [name])
  | .log name => some (targets.logPaths name)
  | .stateDb | .wal | .shm | .other _ => none

/-- The path of an entry is the place of the file that it restores. -/
theorem entryPath_eq {targets : RestoreTargets} {entry : RestoreEntry} :
    entryPath targets entry = (entryTarget entry).bind (Target.path targets) := by
  obtain ⟨name, kind, size, key, jid⟩ := entry
  have placed : ∀ {α : Type} (found : Option α) (target : α → Target) (path : α → List String),
      (∀ x, (target x).path targets = some (path x)) →
        found.map path = (found.map target).bind (Target.path targets) := by
    intro α found target path agree
    cases found with
    | none => rfl
    | some x => exact (agree x).symm
  rcases key with _ | ⟨root, _ | ⟨label, _ | ⟨file, _ | ⟨extra, rest⟩⟩⟩⟩ <;> cases kind <;>
    first
    | rfl
    | exact placed _ _ _ fun _ => rfl

theorem entryPath_entry {targets : RestoreTargets} {target : Target} {data : Bytes}
    {name : List String} :
    entryPath targets { target.entry data with name } = target.path targets := by
  cases target with
  | archive label name => cases label <;> rfl
  | log name => cases name <;> rfl
  | stateDb | wal | shm | sidecar | other => rfl

theorem length_of_isJid {jid : String} (jidLike : isJid jid = true) :
    jid.toList.length = 12 ∨ jid.toList.length = 13 := by
  simp only [isJid, Bool.or_eq_true, Bool.and_eq_true, decide_eq_true_eq] at jidLike
  exact jidLike.imp And.left fun longer => longer.1.1

/-- No jid is the directory of an archive. -/
theorem archiveDirs_of_isJid {stateDbPath outputBase : List String} {label : Label}
    {jid name : String} (jidLike : isJid jid = true) :
    outputBase ++ [jid, "verification.json"] ≠
      (serverTargets stateDbPath outputBase).archiveDirs label ++ [name] := by
  intro same
  have length := length_of_isJid jidLike
  have reversed := congrArg List.reverse same
  cases label <;>
    simp only [serverTargets, List.reverse_append, List.reverse_cons, List.reverse_nil,
      List.nil_append, List.cons_append, List.cons.injEq] at reversed <;>
    · rw [reversed.2.1] at length
      revert length
      decide

/-- No sidecar is a log. -/
theorem logPaths_ne_sidecar {stateDbPath outputBase : List String} {name : LogName}
    {jid : String} :
    outputBase ++ [jid, "verification.json"] ≠
      (serverTargets stateDbPath outputBase).logPaths name := by
  intro same
  have reversed := congrArg List.reverse same
  cases name <;> simp [serverTargets] at reversed

/-- The server's roots keep the files of a restore apart, wherever the output is. -/
theorem path_injective {stateDbPath outputBase : List String} {target other : Target}
    (restorable : target.Restorable) (otherRestorable : other.Restorable)
    (written : target ≠ .stateDb) (otherWritten : other ≠ .stateDb)
    (same : target.path (serverTargets stateDbPath outputBase) =
      other.path (serverTargets stateDbPath outputBase)) : target = other := by
  cases target with
  | stateDb => exact absurd rfl written
  | wal | shm | other => exact absurd restorable id
  | sidecar jid =>
      cases other with
      | stateDb => exact absurd rfl otherWritten
      | wal | shm | other => exact absurd otherRestorable id
      | sidecar otherJid =>
          simp only [Target.path, serverTargets, Option.some.injEq, List.append_cancel_left_eq,
            List.cons.injEq, and_true] at same
          rw [same]
      | archive label name =>
          exact absurd (Option.some.inj same) (archiveDirs_of_isJid restorable)
      | log name => exact absurd (Option.some.inj same) logPaths_ne_sidecar
  | archive label name =>
      cases other with
      | stateDb => exact absurd rfl otherWritten
      | wal | shm | other => exact absurd otherRestorable id
      | sidecar jid =>
          exact absurd (Option.some.inj same).symm (archiveDirs_of_isJid otherRestorable)
      | archive otherLabel otherName =>
          cases label <;> cases otherLabel <;> simp_all [Target.path, serverTargets]
      | log otherName =>
          cases label <;> cases otherName <;> simp [Target.path, serverTargets] at same
  | log name =>
      cases other with
      | stateDb => exact absurd rfl otherWritten
      | wal | shm | other => exact absurd otherRestorable id
      | sidecar jid => exact absurd (Option.some.inj same).symm logPaths_ne_sidecar
      | archive label otherName =>
          cases label <;> cases name <;> simp [Target.path, serverTargets] at same
      | log otherName =>
          cases name <;> cases otherName <;> first | rfl | simp [Target.path, serverTargets] at same

/-! ## The plan -/

/-- Exactly 12 lowercase hex characters. -/
def isHexJid (jid : String) : Bool :=
  jid.toList.length = 12 &&
    jid.toList.all fun char => ('a' ≤ char && char ≤ 'f') || ('0' ≤ char && char ≤ '9')

/-- A name that stays inside the directory it is in. -/
def Inside (part : String) : Prop := Segment part ∧ '/' ∉ part.toList

/-- The path lies under the root of its kind. -/
def RestoreTargets.Holds (targets : RestoreTargets) (kind : Kind) (path : List String) : Prop :=
  match kind with
  | .stateDb => path = targets.stateDbPath
  | .sidecar => ∃ below, path = targets.outputBase ++ below ∧ ∀ part ∈ below, Inside part
  | .archive => ∃ label name, path = targets.archiveDirs label ++ [name] ∧ Inside name
  | .log => ∃ name, path = targets.logPaths name

/-- A plan whose destinations are contained and pairwise distinct, so that its entries
may be applied in any order. -/
structure RestorePlan.Sound (targets : RestoreTargets) (zip : List ZipInfo)
    (plan : RestorePlan) : Prop where
  distinct : ((plan.entries.filter fun entry => entry.kind ≠ .stateDb).map
    (entryPath targets)).Nodup
  contained : ∀ entry ∈ plan.entries, entry.kind ≠ .stateDb →
    ∃ path, entryPath targets entry = some path ∧ targets.Holds entry.kind path
  jids : ∀ entry ∈ plan.entries, entry.kind = .sidecar →
    ∃ jid, entry.jid = some jid ∧ isHexJid jid = true
  one_state_db : (plan.entries.filter fun entry => entry.kind = .stateDb).length ≤ 1
  any_order : ∀ entries, entries.Perm plan.entries → ∀ tree,
    applyPlan targets zip entries tree = applyPlan targets zip plan.entries tree

/-- The parts of a sidecar's name whose jid ends in a newline. -/
def endsInNewline (names : List String) : Bool :=
  match names with
  | ["sidecars", jid, "verification.json"] => jid.toList.getLast? = some '\n'
  | _ => false

theorem endsInNewline_iff {names : List String} : endsInNewline names = true ↔
    ∃ jid, names = ["sidecars", jid, "verification.json"] ∧
      jid.toList.getLast? = some '\n' := by
  unfold endsInNewline
  split
  · next jid => simp
  · next other =>
      constructor
      · intro absurdity
        contradiction
      · rintro ⟨jid, spelled, -⟩
        exact absurd spelled (other jid)

/-- `_JID_RE` takes a jid of 12 hex characters, and one with a newline after them. -/
theorem isJid_iff {jid : String} : isJid jid = true ∧ jid.toList.getLast? ≠ some '\n' ↔
    isHexJid jid = true := by
  unfold isJid isHexJid
  constructor
  · intro taken
    obtain ⟨jidLike, last⟩ := taken
    simp only [Bool.or_eq_true] at jidLike
    cases jidLike with
    | inl exact12 => exact exact12
    | inr newline =>
        simp only [Bool.and_eq_true, decide_eq_true_eq] at newline
        have split := List.take_append_drop 12 jid.toList
        rw [newline.2] at split
        rw [← split, List.getLast?_append] at last
        exact absurd rfl last
  · intro hex
    constructor
    · simp only [hex, Bool.true_or]
    · intro last
      simp only [Bool.and_eq_true, List.all_eq_true] at hex
      have newline := hex.2 _ (List.mem_of_getLast? last)
      contradiction

/-- The entries of a plan whose destinations differ and with at most one state DB may be
applied in any order. -/
theorem applyPlan_perm {targets : RestoreTargets} {zip : List ZipInfo}
    {entries other : List RestoreEntry} (reordered : other.Perm entries)
    (distinct : ((entries.filter fun entry => entry.kind ≠ .stateDb).map
      (entryPath targets)).Nodup)
    (one : (entries.filter fun entry => entry.kind = .stateDb).length ≤ 1) (tree : Tree) :
    applyPlan targets zip other tree = applyPlan targets zip entries tree := by
  have database : other.filter (fun entry => entry.kind = .stateDb) =
      entries.filter fun entry => entry.kind = .stateDb := by
    have permuted := reordered.filter fun entry => entry.kind = .stateDb
    cases held : entries.filter fun entry => entry.kind = .stateDb with
    | nil =>
        rw [held] at permuted
        exact permuted.eq_nil
    | cons first rest =>
        rw [held] at permuted one
        simp only [List.length_cons] at one
        have alone : rest = [] := List.length_eq_zero_iff.mp (by omega)
        rw [alone] at permuted ⊢
        exact List.perm_singleton.mp permuted
  have files := reordered.filter fun entry => entry.kind ≠ .stateDb
  have commutes := @foldlM_perm RestoreEntry Tree (replaceTarget targets zip) _ _ files.symm ?_
  · simp only [applyPlan, database, commutes]
  · intro first memFirst second memSecond tree
    apply replaceTarget_commutes
    by_cases same : first = second
    · exact .inl same
    · right
      intro collide
      exact same (List.inj_on_of_nodup_map distinct memFirst memSecond collide)

variable {stateDbPath outputBase : List String} {members : List Member} {plan : RestorePlan}
  {sqlite : Sqlite} {limits : RestoreLimits}

/-- The parts of the name that an entry was accepted under. -/
def RestoreEntry.parts (entry : RestoreEntry) : List String :=
  match entry.kind with
  | .stateDb => ["state_db.sqlite"]
  | _ => entry.targetKey

/-- What the validation knows of the entry of a member. -/
structure EntryOf (member : Member) (entry : RestoreEntry) : Prop where
  parts_eq : parts member.info.filename = entry.parts
  target : ∃ target : Target, target.Restorable ∧ entry.kind = target.kind ∧
    parts member.info.filename = target.filename ∧
    (∀ targets, entryPath targets entry = target.path targets) ∧
    (∀ jid, target = .sidecar jid → entry.jid = some jid)

theorem entryOf_of_validateInfo {member : Member} {entry : RestoreEntry}
    (accepted : validateInfo member.info = .ok entry) : EntryOf member entry := by
  obtain ⟨target, restorable, named, rfl⟩ := target_of_validateInfo accepted
  constructor
  · rw [named]
    cases target with
    | wal | shm | other => exact absurd restorable id
    | stateDb | sidecar | archive | log => rfl
  · refine ⟨target, restorable, rfl, named, fun targets => entryPath_entry, ?_⟩
    intro jid sidecar
    rw [sidecar]
    rfl

theorem entries_of_accepted
    (accepted : validateRestoreZip sqlite limits (some (members.map Member.info)) = .ok plan) :
    List.Forall₂ EntryOf members plan.entries := by
  unfold validateRestoreZip at accepted
  dsimp only at accepted
  split at accepted
  · contradiction
  · obtain ⟨entries, same, checked⟩ := checked_of_validateInfos accepted
    rw [List.nil_append] at same
    rw [same]
    rw [List.forall₂_map_left_iff] at checked
    exact checked.imp fun member entry accepted => entryOf_of_validateInfo accepted.1

/-- Two entries have the same parts where both are the state DB, or both go to the same
place. -/
theorem parts_ne_iff {first second : RestoreEntry} {member other : Member}
    (firstOf : EntryOf member first) (secondOf : EntryOf other second) :
    first.parts ≠ second.parts ↔
      (first.kind ≠ .stateDb → second.kind ≠ .stateDb →
        entryPath (serverTargets stateDbPath outputBase) first ≠
          entryPath (serverTargets stateDbPath outputBase) second) ∧
      (first.kind = .stateDb → second.kind = .stateDb → False) := by
  obtain ⟨target, restorable, kind, named, path, -⟩ := firstOf.target
  obtain ⟨otherTarget, otherRestorable, otherKind, otherNamed, otherPath, -⟩ := secondOf.target
  have same_iff : first.parts = second.parts ↔ target = otherTarget := by
    rw [← firstOf.parts_eq, ← secondOf.parts_eq, named, otherNamed]
    constructor
    · exact eq_of_filename restorable.filename_ne_nil
    · intro same
      rw [same]
  have database : ∀ {target : Target}, target.Restorable →
      (target.kind = .stateDb ↔ target = .stateDb) := by
    intro target restorable
    cases target with
    | wal | shm | other => exact absurd restorable id
    | stateDb | sidecar | archive | log => simp [Target.kind]
  rw [ne_eq, same_iff, kind, otherKind, path, otherPath, ne_eq, ne_eq, database restorable,
    database otherRestorable]
  constructor
  · intro different
    constructor
    · intro written otherWritten collide
      exact different (path_injective restorable otherRestorable written otherWritten collide)
    · intro first second
      exact different (first.trans second.symm)
  · intro separate same
    obtain ⟨apart, single⟩ := separate
    subst same
    by_cases state : target = .stateDb
    · exact single state state
    · exact apart state state rfl

/-- A filter keeps at most one element where no two elements pass it. -/
theorem length_filter_le_one {α : Type} {entries : List α} {kept : α → Bool} :
    (entries.filter kept).length ≤ 1 ↔
      entries.Pairwise fun first second => kept first = true → kept second = true → False := by
  rw [← List.pairwise_filter]
  cases entries.filter kept with
  | nil => simp
  | cons first rest =>
      cases rest with
      | nil => simp
      | cons second rest =>
          constructor
          · intro small
            simp at small
          · intro apart
            exact absurd ((List.pairwise_cons.mp apart).1 second List.mem_cons_self) id

/-- A part of a member's name holds no slash. -/
theorem slash_notMem_part {member : Member} {part : String}
    (present : part ∈ parts member.info.filename) : '/' ∉ part.toList :=
  slash_notMem_segment (List.mem_filter.mp present).1

/-- A file goes below the root of its kind. -/
theorem holds_path {targets : RestoreTargets} {target : Target} (restorable : target.Restorable)
    (written : target.kind ≠ .stateDb)
    (unslashed : ∀ part ∈ target.filename, '/' ∉ part.toList) :
    ∃ path, target.path targets = some path ∧ targets.Holds target.kind path := by
  cases target with
  | stateDb | wal | shm | other => exact absurd rfl written
  | sidecar jid =>
      refine ⟨_, rfl, _, rfl, ?_⟩
      intro part below
      simp only [List.mem_cons, List.not_mem_nil, or_false] at below
      cases below with
      | inl here =>
          rw [here]
          exact ⟨isJid_segment restorable, unslashed jid (by simp [Target.filename])⟩
      | inr file =>
          rw [file]
          exact ⟨by simp [Segment], by decide⟩
  | archive label name =>
      exact ⟨_, rfl, label, name, rfl, isJsonName_segment restorable.1,
        unslashed name (by simp [Target.filename])⟩
  | log name => exact ⟨_, rfl, name, rfl⟩

/-- An accepted zip makes a contained plan of pairwise distinct destinations exactly where
no two names have the same parts and no jid ends in a newline. -/
theorem plan_sound_iff
    (accepted : validateRestoreZip sqlite limits (some (members.map Member.info)) = .ok plan) :
    plan.Sound (serverTargets stateDbPath outputBase) (members.map Member.info) ↔
      (members.map fun member => parts member.info.filename).Nodup ∧
        ∀ member ∈ members, endsInNewline (parts member.info.filename) = false := by
  have listed := entries_of_accepted accepted
  have named : members.map (fun member => parts member.info.filename) =
      plan.entries.map RestoreEntry.parts :=
    Related.map_eq listed fun _ _ entryOf => entryOf.parts_eq
  have unique : (plan.entries.map RestoreEntry.parts).Nodup ↔
      ((plan.entries.filter fun entry => entry.kind ≠ .stateDb).map
        (entryPath (serverTargets stateDbPath outputBase))).Nodup ∧
      (plan.entries.filter fun entry => entry.kind = .stateDb).length ≤ 1 := by
    rw [length_filter_le_one]
    unfold List.Nodup
    rw [List.pairwise_map, List.pairwise_map, List.pairwise_filter, ← List.pairwise_and_iff]
    apply List.Pairwise.iff_of_mem
    intro first second presentFirst presentSecond
    obtain ⟨member, -, firstOf⟩ := Related.left listed presentFirst
    obtain ⟨other, -, secondOf⟩ := Related.left listed presentSecond
    simpa using parts_ne_iff firstOf secondOf
  rw [named, unique]
  constructor
  · intro sound
    refine ⟨⟨sound.distinct, sound.one_state_db⟩, ?_⟩
    intro member present
    apply Bool.eq_false_iff.mpr
    intro newline
    obtain ⟨jid, spelled, last⟩ := endsInNewline_iff.mp newline
    obtain ⟨entry, presentEntry, entryOf⟩ := Related.right listed present
    obtain ⟨target, restorable, kind, filename, -, jids⟩ := entryOf.target
    have sidecar : target = .sidecar jid := by
      apply eq_of_filename restorable.filename_ne_nil
      rw [← filename, spelled]
      rfl
    obtain ⟨other, recorded, hex⟩ := sound.jids entry presentEntry (by rw [kind, sidecar]; rfl)
    rw [jids jid sidecar] at recorded
    cases recorded
    exact (isJid_iff.mpr hex).2 last
  · intro own
    obtain ⟨⟨distinct, one⟩, noNewline⟩ := own
    refine ⟨distinct, ?_, ?_, one, fun entries perm tree => applyPlan_perm perm distinct one tree⟩
    · intro entry present written
      obtain ⟨member, presentMember, entryOf⟩ := Related.left listed present
      obtain ⟨target, restorable, kind, filename, path, -⟩ := entryOf.target
      rw [kind, path]
      rw [kind] at written
      exact holds_path restorable written fun part below =>
        slash_notMem_part (filename ▸ below)
    · intro entry present sidecarKind
      obtain ⟨member, presentMember, entryOf⟩ := Related.left listed present
      obtain ⟨target, restorable, kind, filename, -, jids⟩ := entryOf.target
      rw [kind] at sidecarKind
      cases target with
      | sidecar jid =>
          refine ⟨jid, jids jid rfl, isJid_iff.mp ⟨restorable, ?_⟩⟩
          intro last
          have newline := endsInNewline_iff.mpr ⟨jid, filename, last⟩
          rw [noNewline member presentMember] at newline
          contradiction
      | stateDb | archive | log | wal | shm | other => contradiction

/-- A database library without databases. -/
def noSqlite : Sqlite where
  snapshot _ _ := []
  integrityCheck data := some (data = [])
  sound _ _ := rfl

/-- Two spellings of the decision log, one of an empty log and one of a blank line. -/
def twoSpellings : List Member :=
  [{ filename := "logs/decisions.jsonl", data := [] },
   { filename := "logs//decisions.jsonl", data := [0x0A] }]

def twoSpellingsPlan : RestorePlan where
  entries :=
    [{ name := ["logs", "decisions.jsonl"], kind := .log, size := 0
       targetKey := ["logs", "decisions.jsonl"] },
     { name := ["logs", "", "decisions.jsonl"], kind := .log, size := 1
       targetKey := ["logs", "decisions.jsonl"] }]
  totalUncompressedBytes := 1

/-- Both logs are accepted, and the order of the entries decides which one is restored. -/
theorem two_spellings_accepted :
    validateRestoreZip noSqlite {} (some (twoSpellings.map Member.info)) =
        .ok twoSpellingsPlan ∧
      ¬ twoSpellingsPlan.Sound (serverTargets ["config", "state.db"] ["output"])
        (twoSpellings.map Member.info) := by
  constructor
  · rfl
  · intro sound
    exact absurd sound.distinct (by decide)

/-- Members with names of their own make a sound plan; one of them is in UTF-16. -/
def plainMembers : List Member :=
  [{ filename := "state_db.sqlite", data := [] },
   { filename := "sidecars/0123456789ab/verification.json", data := [0x7B, 0x7D] },
   { filename := "./archive/discarded/a.json", data := [0x7B, 0x00, 0x7D, 0x00] }]

theorem plainMembers_sound : ∃ plan,
    validateRestoreZip noSqlite {} (some (plainMembers.map Member.info)) = .ok plan ∧
      plan.Sound (serverTargets ["config", "state.db"] ["output"])
        (plainMembers.map Member.info) := by
  refine ⟨_, rfl, ?_⟩
  apply (@plan_sound_iff _ _ plainMembers _ noSqlite {} rfl).mpr
  decide

end Mintarr.Restore
