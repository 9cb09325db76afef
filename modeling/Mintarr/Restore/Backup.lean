import Mathlib.Algebra.GroupWithZero.Nat
import Mintarr.Restore.Archive

/-!
# A backup and its validation

A backup holds one member for each file that it takes, under a name of its own.  It is
accepted by the validation, limits apart, exactly where the sidecars and the lines of the
logs are JSON documents and the names are the ones that Mintarr gives.
-/

namespace Mintarr.Restore

open Lib

/-! ## Members of a backup -/

/-- The name of a file in a backup. -/
def Target.filename : Target → List String
  | .stateDb => ["state_db.sqlite"]
  | .sidecar jid => ["sidecars", jid, "verification.json"]
  | .archive label name => ["archive", label.text, name]
  | .log name => ["logs", name.text]
  | .wal | .shm | .other _ => []

/-- Its external attributes. -/
def Target.externalAttr : Target → Nat
  | .stateDb => privateFile
  | _ => regularFile

/-- The member that it becomes. -/
def Target.member (target : Target) (data : Bytes) : ZipInfo where
  filename := target.filename
  externalAttr := target.externalAttr
  data := data

/-- What a backup holds of a file. -/
def backedUp (sqlite : Sqlite) (files : Files) : Target → Option Bytes
  | .stateDb =>
      (files.lookup .stateDb).map fun database =>
        sqlite.snapshot database (files.lookup .wal)
  | .sidecar jid => files.lookup (.sidecar jid)
  | .archive label name => if isJsonName name then files.lookup (.archive label name) else none
  | .log name => files.lookup (.log name)
  | .wal | .shm | .other _ => none

/-- The files that a backup looks for, in its order. -/
def backupTargets (files : Files) : List Target :=
  .stateDb :: ((sidecarJids files).map .sidecar ++
    (Label.all.flatMap (fun label => (archiveNames files label).map (.archive label)) ++
      LogName.all.map .log))

variable {sqlite : Sqlite} {files : Files} {target other : Target} {data : Bytes}

theorem mem_sidecarJids {jid : String} :
    jid ∈ sidecarJids files ↔ (files.lookup (.sidecar jid)).isSome = true := by
  unfold sidecarJids
  rw [(List.perm_insertionSort _ _).mem_iff, List.mem_filterMap, AList.lookup_isSome]
  constructor
  · rintro ⟨target, mem, same⟩
    cases target with
    | sidecar found =>
        cases same
        exact mem
    | stateDb | wal | shm | archive | log | other => contradiction
  · intro mem
    exact ⟨.sidecar jid, mem, rfl⟩

theorem mem_archiveNames {label : Label} {name : String} :
    name ∈ archiveNames files label ↔
      isJsonName name = true ∧ (files.lookup (.archive label name)).isSome = true := by
  unfold archiveNames
  rw [(List.perm_insertionSort _ _).mem_iff, List.mem_filterMap, AList.lookup_isSome]
  constructor
  · rintro ⟨target, mem, same⟩
    cases target with
    | archive found foundName =>
        dsimp only at same
        split at same
        · next json =>
            cases same
            rw [json.1] at mem
            exact ⟨json.2, mem⟩
        · contradiction
    | stateDb | wal | shm | sidecar | log | other => contradiction
  · rintro ⟨json, mem⟩
    exact ⟨.archive label name, mem, by simp [json]⟩

/-- Every file that a backup takes is one that it looks for. -/
theorem mem_backupTargets (held : (backedUp sqlite files target).isSome = true) :
    target ∈ backupTargets files := by
  unfold backupTargets
  cases target with
  | stateDb => simp
  | sidecar jid =>
      have mem : jid ∈ sidecarJids files := mem_sidecarJids.mpr held
      simp [mem]
  | archive label name =>
      simp only [backedUp] at held
      split at held
      · next json =>
          have mem := mem_archiveNames.mpr ⟨json, held⟩
          cases label <;> simp [Label.all, mem]
      · contradiction
  | log name => cases name <;> simp [LogName.all]
  | wal | shm | other => contradiction

theorem nodup_sidecarJids : (sidecarJids files).Nodup := by
  unfold sidecarJids
  rw [(List.perm_insertionSort _ _).nodup_iff]
  apply List.Nodup.filterMap _ files.nodupKeys
  intro first second jid left right
  cases first <;> cases second <;> simp_all

theorem nodup_archiveNames {label : Label} : (archiveNames files label).Nodup := by
  unfold archiveNames
  rw [(List.perm_insertionSort _ _).nodup_iff]
  apply List.Nodup.filterMap _ files.nodupKeys
  intro first second name left right
  cases first <;> cases second <;> simp_all

theorem nodup_backupTargets : (backupTargets files).Nodup := by
  have sidecars : ((sidecarJids files).map Target.sidecar).Nodup :=
    nodup_sidecarJids.map fun _ _ same => by cases same; rfl
  have archives : ∀ label, ((archiveNames files label).map (Target.archive label)).Nodup :=
    fun label => nodup_archiveNames.map fun _ _ same => by cases same; rfl
  unfold backupTargets
  simp only [Label.all, LogName.all, List.flatMap_cons, List.flatMap_nil, List.map_cons,
    List.map_nil, List.nodup_cons, List.nodup_append, sidecars, archives]
  grind

/-- The members of a backup. -/
theorem buildBackupZip_eq : buildBackupZip sqlite files =
    (backupTargets files).filterMap fun target =>
      (backedUp sqlite files target).map target.member := by
  have sidecars : (sidecarJids files).flatMap (fun jid =>
      zipFile files (.sidecar jid) ["sidecars", jid, "verification.json"]) =
      ((sidecarJids files).map Target.sidecar).filterMap fun target =>
        (backedUp sqlite files target).map target.member := by
    rw [List.filterMap_map, List.filterMap_eq_flatMap_toList]
    apply List.flatMap_congr
    intro jid _
    simp only [zipFile, Function.comp_apply, backedUp, Option.toList_map]
    rfl
  have archives : ∀ label, (archiveNames files label).flatMap (fun name =>
      zipFile files (.archive label name) ["archive", label.text, name]) =
      ((archiveNames files label).map (Target.archive label)).filterMap fun target =>
        (backedUp sqlite files target).map target.member := by
    intro label
    rw [List.filterMap_map, List.filterMap_eq_flatMap_toList]
    apply List.flatMap_congr
    intro name mem
    have json := (mem_archiveNames.mp mem).1
    simp only [zipFile, Function.comp_apply, backedUp, Option.toList_map, if_pos json]
    rfl
  have logs : LogName.all.flatMap (fun name => zipFile files (.log name) ["logs", name.text]) =
      (LogName.all.map Target.log).filterMap fun target =>
        (backedUp sqlite files target).map target.member := by
    rw [List.filterMap_map, List.filterMap_eq_flatMap_toList]
    apply List.flatMap_congr
    intro name _
    simp only [zipFile, Function.comp_apply, backedUp, Option.toList_map]
    rfl
  unfold buildBackupZip backupTargets
  simp only [sidecars, archives, logs, List.filterMap_cons, List.filterMap_append,
    List.filterMap_flatMap, List.append_assoc]
  cases held : files.lookup .stateDb with
  | none => simp [backedUp, held]
  | some database => simp [backedUp, held, Target.member, Target.filename, Target.externalAttr]

/-- A member of a backup is a file that it takes. -/
theorem mem_buildBackupZip {info : ZipInfo} : info ∈ buildBackupZip sqlite files ↔
    ∃ target data, backedUp sqlite files target = some data ∧ info = target.member data := by
  rw [buildBackupZip_eq, List.mem_filterMap]
  constructor
  · rintro ⟨target, _, taken⟩
    rcases Option.map_eq_some_iff.mp taken with ⟨data, held, rfl⟩
    exact ⟨target, data, held, rfl⟩
  · rintro ⟨target, data, held, rfl⟩
    exact ⟨target, mem_backupTargets (by rw [held]; rfl), by rw [held]; rfl⟩

theorem label_text_injective {label other : Label} (same : label.text = other.text) :
    label = other := by
  cases label <;> cases other <;> first | rfl | contradiction

theorem logName_text_injective {name other : LogName} (same : name.text = other.text) :
    name = other := by
  cases name <;> cases other <;> first | rfl | contradiction

/-- Files that a zip can name have names of their own. -/
theorem eq_of_filename (named : target.filename ≠ []) (same : target.filename = other.filename) :
    target = other := by
  cases target with
  | stateDb => cases other <;> first | rfl | simp [Target.filename] at same
  | sidecar jid =>
      cases other <;> first | contradiction | simp_all [Target.filename]
  | archive label name =>
      cases other with
      | archive otherLabel otherName =>
          simp only [Target.filename, List.cons.injEq, and_true, true_and] at same
          rw [label_text_injective same.1, same.2]
      | stateDb | wal | shm | sidecar | log | other => simp [Target.filename] at same
  | log name =>
      cases other with
      | log otherName =>
          simp only [Target.filename, List.cons.injEq, and_true, true_and] at same
          rw [logName_text_injective same]
      | stateDb | wal | shm | sidecar | archive | other => simp [Target.filename] at same
  | wal | shm | other => exact absurd rfl named

/-- Files that a backup takes have names of their own. -/
theorem filename_injective (held : (backedUp sqlite files target).isSome = true)
    (same : target.filename = other.filename) : target = other := by
  apply eq_of_filename _ same
  cases target with
  | wal | shm | other => contradiction
  | stateDb | sidecar | archive | log => simp [Target.filename]

/-! ## Validation of a member -/

/-- The kind of a file. -/
def Target.kind : Target → Kind
  | .stateDb | .wal | .shm | .other _ => .stateDb
  | .sidecar _ => .sidecar
  | .archive _ _ => .archive
  | .log _ => .log

/-- The entry of a restore that its member becomes. -/
def Target.entry (target : Target) (data : Bytes) : RestoreEntry where
  name := target.filename
  kind := target.kind
  size := data.length
  targetKey :=
    match target with
    | .stateDb => ["state_db"]
    | _ => target.filename
  jid :=
    match target with
    | .sidecar jid => some jid
    | _ => none

/-- Mintarr gives such a name. -/
def Target.Named : Target → Prop
  | .sidecar jid => isJid jid = true
  | .archive _ name => name ≠ ".json"
  | _ => True

theorem entryTarget_entry (held : (backedUp sqlite files target).isSome = true) :
    entryTarget (target.entry data) = some target := by
  cases target with
  | stateDb => rfl
  | sidecar jid => rfl
  | archive label name => cases label <;> rfl
  | log name => cases name <;> rfl
  | wal | shm | other => contradiction

theorem isJid_segment {jid : String} (jidLike : isJid jid = true) :
    jid ≠ "" ∧ jid ≠ "." ∧ jid ≠ ".." := by
  refine ⟨?_, ?_, ?_⟩
  · rintro rfl
    contradiction
  · rintro rfl
    contradiction
  · rintro rfl
    contradiction

theorem isJsonName_segment {name : String} (json : isJsonName name = true) :
    name ≠ "" ∧ name ≠ "." ∧ name ≠ ".." := by
  refine ⟨?_, ?_, ?_⟩
  · rintro rfl
    contradiction
  · rintro rfl
    contradiction
  · rintro rfl
    contradiction

/-- A segment of a name that a path keeps. -/
def Segment (part : String) : Prop := part ≠ "" ∧ part ≠ "." ∧ part ≠ ".."

theorem regular_externalAttr : isSymlinkOrSpecial target.externalAttr = false := by
  have written : isSymlinkOrSpecial privateFile = false := by decide
  have regular : isSymlinkOrSpecial regularFile = false := by decide
  cases target with
  | stateDb => exact written
  | wal | shm | sidecar | archive | log | other => exact regular

/-- A name whose segments all count is taken as it is. -/
theorem validateInfo_member (last : target.filename.getLastD "" ≠ "")
    (segments : ∀ part ∈ target.filename, Segment part) :
    validateInfo (target.member data) = validateParts (target.member data) target.filename := by
  have kept : target.filename.filter (fun part => part ≠ "" ∧ part ≠ ".") = target.filename := by
    apply List.filter_eq_self.mpr
    intro part mem
    have segment := segments part mem
    simp [segment.1, segment.2.1]
  have relative : ¬(target.filename.head? = some "" ∨ ".." ∈ target.filename) := by
    rintro (absolute | parent)
    · have mem := List.mem_of_head? absolute
      exact (segments "" mem).1 rfl
    · exact (segments ".." parent).2.2 rfl
  have parts : safeParts target.filename = .ok target.filename := by
    unfold safeParts
    rw [kept, if_neg relative]
  unfold validateInfo Target.member
  dsimp only
  rw [if_neg last, regular_externalAttr, parts]
  rfl

/-- A member with a name that Mintarr gives is accepted. -/
theorem validateInfo_named (held : (backedUp sqlite files target).isSome = true)
    (named : target.Named) : validateInfo (target.member data) = .ok (target.entry data) := by
  cases target with
  | stateDb =>
      refine (validateInfo_member ?_ ?_).trans rfl
      · simp [Target.filename]
      · simp [Target.filename, Segment]
  | sidecar jid =>
      have jidLike : isJid jid = true := named
      have segment := isJid_segment jidLike
      refine (validateInfo_member ?_ ?_).trans ?_
      · simp [Target.filename]
      · simp [Target.filename, Segment, segment]
      · change (if !isJid jid then _ else _) = _
        rw [jidLike]
        rfl
  | archive label name =>
      have json : isJsonName name = true := by
        by_contra other
        simp [backedUp, other] at held
      have segment := isJsonName_segment json
      have known : label.text ∈ Label.all.map Label.text := by cases label <;> decide
      have other : ¬(!isJsonName name ∨ name = ".json") := by
        rw [json]
        simpa [Target.Named] using named
      refine (validateInfo_member ?_ ?_).trans ?_
      · simp [Target.filename, segment]
      · cases label <;> simp [Target.filename, Segment, segment, Label.text]
      · change (if label.text ∉ Label.all.map Label.text then _ else
          if !isJsonName name ∨ name = ".json" then _ else _) = _
        rw [if_neg (not_not.mpr known), if_neg other]
        rfl
  | log name =>
      refine (validateInfo_member ?_ ?_).trans ?_
      · cases name <;> simp [Target.filename, LogName.text]
      · cases name <;> simp [Target.filename, Segment, LogName.text]
      · cases name <;> rfl
  | wal | shm | other => contradiction

/-- An accepted name is accepted by its parts. -/
theorem validateParts_of_validateInfo {info : ZipInfo} {entry : RestoreEntry}
    (accepted : validateInfo info = .ok entry) :
    validateParts info (info.filename.filter fun part => part ≠ "" ∧ part ≠ ".") =
      .ok entry := by
  unfold validateInfo at accepted
  split at accepted
  · contradiction
  · split at accepted
    · contradiction
    · split at accepted
      · contradiction
      · next parts safe =>
          unfold safeParts at safe
          dsimp only at safe
          split at safe
          · contradiction
          · cases safe
            exact accepted

/-- A member with another name is refused. -/
theorem named_of_validateInfo {entry : RestoreEntry}
    (accepted : validateInfo (target.member data) = .ok entry) : target.Named := by
  have parts := validateParts_of_validateInfo accepted
  cases target with
  | sidecar jid =>
      by_cases kept : jid ≠ "" ∧ jid ≠ "."
      · have same : ["sidecars", jid, "verification.json"].filter (fun part =>
            part ≠ "" ∧ part ≠ ".") = ["sidecars", jid, "verification.json"] := by
          simp [kept.1, kept.2]
        simp only [Target.member, Target.filename] at parts
        rw [same] at parts
        simp only [validateParts] at parts
        split at parts
        · contradiction
        · next jidLike => simpa [Target.Named] using jidLike
      · have dropped : ["sidecars", jid, "verification.json"].filter (fun part =>
            part ≠ "" ∧ part ≠ ".") = ["sidecars", "verification.json"] := by
          have gone : jid = "" ∨ jid = "." := by
            by_contra other
            exact kept (not_or.mp other)
          rcases gone with rfl | rfl
          · decide
          · decide
        simp only [Target.member, Target.filename] at parts
        rw [dropped] at parts
        contradiction
  | archive label name =>
      rintro rfl
      cases label with
      | blocked => contradiction
      | discarded => contradiction
      | expired => contradiction
  | stateDb | log | wal | shm | other => trivial

/-! ## Validation of a backup -/

/-- The content is what the validation expects of its kind. -/
def Target.Readable (sqlite : Sqlite) (target : Target) (data : Bytes) : Prop :=
  validateMember sqlite target.kind target.filename data = .ok ()

/-- A member and the entry that it becomes. -/
def Checked (sqlite : Sqlite) (info : ZipInfo) (entry : RestoreEntry) : Prop :=
  validateInfo info = .ok entry ∧
    validateMember sqlite entry.kind entry.name info.data = .ok ()

variable {limits : RestoreLimits} {infos : List ZipInfo} {entries : List RestoreEntry}
  {plan done : RestorePlan}

/-- The limits of `validate_restore_zip` are kept. -/
structure Fits (limits : RestoreLimits) (infos : List ZipInfo) : Prop where
  entries : infos.length ≤ limits.maxEntries
  each : ∀ info ∈ infos, info.fileSize ≤ limits.maxEntryUncompressedBytes
  total : (infos.map ZipInfo.fileSize).sum ≤ limits.maxTotalUncompressedBytes

/-- An entry carries its member's name and size. -/
theorem entry_of_validateInfo {info : ZipInfo} {entry : RestoreEntry}
    (accepted : validateInfo info = .ok entry) :
    entry.name = info.filename ∧ entry.size = info.fileSize := by
  have parts := validateParts_of_validateInfo accepted
  generalize info.filename.filter (fun part => part ≠ "" ∧ part ≠ ".") = names at parts
  unfold validateParts at parts
  split at parts
  · cases parts
    exact ⟨rfl, rfl⟩
  · split at parts
    · contradiction
    · cases parts
      exact ⟨rfl, rfl⟩
  · split at parts
    · contradiction
    · split at parts
      · contradiction
      · cases parts
        exact ⟨rfl, rfl⟩
  · split at parts
    · contradiction
    · cases parts
      exact ⟨rfl, rfl⟩
  · contradiction

/-- What is accepted is checked member by member. -/
theorem checked_of_validateInfos (accepted : validateInfos sqlite limits infos plan = .ok done) :
    ∃ entries, done.entries = plan.entries ++ entries ∧
      List.Forall₂ (Checked sqlite) infos entries := by
  induction infos generalizing plan with
  | nil =>
      cases accepted
      exact ⟨[], by simp, .nil⟩
  | cons info infos ih =>
      unfold validateInfos at accepted
      cases valid : validateInfo info with
      | error text =>
          rw [valid] at accepted
          contradiction
      | ok entry =>
          rw [valid] at accepted
          simp only [bind, Except.bind] at accepted
          split at accepted
          · contradiction
          · split at accepted
            · contradiction
            · split at accepted
              · contradiction
              · cases content : validateMember sqlite entry.kind entry.name info.data with
                | error text =>
                    simp [content] at accepted
                | ok value =>
                    simp only [content] at accepted
                    rcases ih accepted with ⟨entries, same, checked⟩
                    refine ⟨entry :: entries, ?_, .cons ⟨valid, content⟩ checked⟩
                    rw [same]
                    simp

/-- Members that are checked, with distinct names and within the limits, are accepted. -/
theorem validateInfos_of_checked (checked : List.Forall₂ (Checked sqlite) infos entries)
    (names : (plan.entries.map RestoreEntry.name ++ infos.map ZipInfo.filename).Nodup)
    (each : ∀ info ∈ infos, info.fileSize ≤ limits.maxEntryUncompressedBytes)
    (total : plan.totalUncompressedBytes + (infos.map ZipInfo.fileSize).sum ≤
      limits.maxTotalUncompressedBytes) :
    ∃ done, validateInfos sqlite limits infos plan = .ok done := by
  induction checked generalizing plan with
  | nil => exact ⟨plan, rfl⟩
  | @cons info entry infos entries here _ ih =>
      rcases entry_of_validateInfo here.1 with ⟨name, size⟩
      simp only [List.map_cons, List.sum_cons] at names total
      have fresh : entry.name ∉ plan.entries.map RestoreEntry.name := by
        intro mem
        rw [name] at mem
        exact List.disjoint_of_nodup_append names mem List.mem_cons_self
      have small : ¬entry.size > limits.maxEntryUncompressedBytes := by
        have bound := each info List.mem_cons_self
        omega
      have room : ¬plan.totalUncompressedBytes + entry.size >
          limits.maxTotalUncompressedBytes := by omega
      unfold validateInfos
      simp only [here.1, here.2, bind, Except.bind, if_neg fresh, if_neg small, if_neg room]
      apply ih
      · simp only [List.map_append, List.map_cons, List.map_nil, List.append_assoc,
          List.singleton_append, name]
        exact names
      · exact fun other mem => each other (List.mem_cons_of_mem _ mem)
      · dsimp only
        omega

/-- The files that a backup takes, with what it takes. -/
def backupMembers (sqlite : Sqlite) (files : Files) : List (Target × Bytes) :=
  (backupTargets files).filterMap fun target =>
    (backedUp sqlite files target).map fun data => (target, data)

theorem mem_backupMembers : (target, data) ∈ backupMembers sqlite files ↔
    backedUp sqlite files target = some data := by
  unfold backupMembers
  rw [List.mem_filterMap]
  constructor
  · rintro ⟨other, _, taken⟩
    rcases Option.map_eq_some_iff.mp taken with ⟨content, held, same⟩
    cases same
    exact held
  · intro held
    exact ⟨target, mem_backupTargets (by rw [held]; rfl), by rw [held]; rfl⟩

theorem buildBackupZip_map : buildBackupZip sqlite files =
    (backupMembers sqlite files).map fun member => member.1.member member.2 := by
  rw [buildBackupZip_eq, backupMembers, List.map_filterMap]
  apply List.filterMap_congr
  intro target _
  rw [Option.map_map]
  rfl

theorem nodup_backupMembers : ((backupMembers sqlite files).map Prod.fst).Nodup := by
  have same : (backupMembers sqlite files).map Prod.fst =
      (backupTargets files).filter fun target => (backedUp sqlite files target).isSome := by
    unfold backupMembers
    rw [List.map_filterMap, ← List.filterMap_eq_filter]
    apply List.filterMap_congr
    intro target _
    cases held : backedUp sqlite files target with
    | none => simp [Option.guard, held]
    | some data => simp [Option.guard, held]
  rw [same]
  exact nodup_backupTargets.filter _

/-- No two members of a backup have the same name. -/
theorem nodup_filenames :
    ((buildBackupZip sqlite files).map ZipInfo.filename).Nodup := by
  have named : (buildBackupZip sqlite files).map ZipInfo.filename =
      ((backupMembers sqlite files).map Prod.fst).map Target.filename := by
    rw [buildBackupZip_map, List.map_map, List.map_map]
    rfl
  rw [named]
  apply List.Nodup.map_on _ nodup_backupMembers
  intro target mem other _ same
  rcases List.mem_map.mp mem with ⟨member, held, rfl⟩
  exact filename_injective (by rw [mem_backupMembers.mp held]; rfl) same

/-- A file is checked where its name and its content are as they should be. -/
theorem checked_member_iff (held : backedUp sqlite files target = some data) :
    (∃ entry, Checked sqlite (target.member data) entry) ↔
      target.Named ∧ target.Readable sqlite data := by
  have isSome : (backedUp sqlite files target).isSome = true := by
    rw [held]
    rfl
  constructor
  · rintro ⟨entry, valid, content⟩
    have named := named_of_validateInfo valid
    rw [validateInfo_named isSome named] at valid
    cases valid
    exact ⟨named, content⟩
  · rintro ⟨named, readable⟩
    exact ⟨target.entry data, validateInfo_named isSome named, readable⟩

/-- The entries of an accepted backup are its files. -/
theorem entries_of_backup
    (accepted : validateRestoreZip sqlite limits (some (buildBackupZip sqlite files)) =
      .ok plan) :
    plan.entries = (backupMembers sqlite files).map fun member => member.1.entry member.2 := by
  unfold validateRestoreZip at accepted
  dsimp only at accepted
  split at accepted
  · contradiction
  · rcases checked_of_validateInfos accepted with ⟨entries, same, checked⟩
    rw [same, List.nil_append]
    rw [buildBackupZip_map, List.forall₂_map_left_iff] at checked
    have all : ∀ member ∈ backupMembers sqlite files,
        backedUp sqlite files member.1 = some member.2 := by
      intro member mem
      exact mem_backupMembers.mp mem
    generalize backupMembers sqlite files = members at checked all
    clear same accepted
    induction checked with
    | nil => rfl
    | @cons member entry members entries here _ ih =>
        have held := all member List.mem_cons_self
        have isSome : (backedUp sqlite files member.1).isSome = true := by
          rw [held]
          rfl
        have valid := here.1
        rw [validateInfo_named isSome (named_of_validateInfo valid)] at valid
        cases valid
        rw [List.map_cons, ih fun other mem => all other (List.mem_cons_of_mem _ mem)]

theorem validateJsonMember_iff {name : List String} {data : Bytes} :
    validateJsonMember name data = .ok () ↔ Json.loadsBytes data = .ok () := by
  rw [validateJsonMember]
  cases Json.loadsBytes data <;> simp [Except.mapError]

theorem validateJsonlMember_iff {name : List String} {data : Bytes} :
    validateJsonlMember name data = .ok () ↔ loadsLines data = .ok () := by
  rw [validateJsonlMember]
  cases loadsLines data <;> simp [Except.mapError]

/-- What Mintarr leaves where no write of a log was cut off. -/
structure Whole (files : Files) : Prop where
  sidecars : ∀ jid data, files.lookup (.sidecar jid) = some data →
    isJid jid = true ∧ Json.loadsBytes data = .ok ()
  archives : ∀ label name data, files.lookup (.archive label name) = some data →
    isJsonName name = true → name ≠ ".json" ∧ Json.loadsBytes data = .ok ()
  logs : ∀ name data, files.lookup (.log name) = some data → loadsLines data = .ok ()

theorem whole_iff (sqlite : Sqlite) : Whole files ↔ ∀ target data,
    backedUp sqlite files target = some data →
      target.Named ∧ target.Readable sqlite data := by
  constructor
  · intro whole target data held
    cases target with
    | stateDb =>
        rcases Option.map_eq_some_iff.mp held with ⟨database, _, rfl⟩
        refine ⟨trivial, ?_⟩
        simp [Target.Readable, Target.kind, validateMember, validateSqliteMember, sqlite.sound]
    | sidecar jid =>
        have good := whole.sidecars jid data held
        exact ⟨good.1, validateJsonMember_iff.mpr good.2⟩
    | archive label name =>
        simp only [backedUp] at held
        split at held
        · next json =>
            have good := whole.archives label name data held json
            exact ⟨good.1, validateJsonMember_iff.mpr good.2⟩
        · contradiction
    | log name =>
        have good := whole.logs name data held
        exact ⟨trivial, validateJsonlMember_iff.mpr good⟩
    | wal | shm | other => contradiction
  · intro good
    constructor
    · intro jid data held
      have one := good (.sidecar jid) data held
      exact ⟨one.1, validateJsonMember_iff.mp one.2⟩
    · intro label name data held isJson
      have one := good (.archive label name) data (by simp only [backedUp, if_pos isJson, held])
      exact ⟨one.1, validateJsonMember_iff.mp one.2⟩
    · intro name data held
      exact validateJsonlMember_iff.mp (good (.log name) data held).2

/-- A backup within the limits is accepted exactly where its files are whole. -/
theorem validate_backup_iff (fits : Fits limits (buildBackupZip sqlite files)) :
    (∃ plan, validateRestoreZip sqlite limits (some (buildBackupZip sqlite files)) = .ok plan) ↔
      Whole files := by
  rw [whole_iff sqlite]
  constructor
  · rintro ⟨plan, accepted⟩ target data held
    apply (checked_member_iff held).mp
    unfold validateRestoreZip at accepted
    dsimp only at accepted
    rw [if_neg (by have := fits.entries; omega)] at accepted
    rcases checked_of_validateInfos accepted with ⟨entries, _, checked⟩
    have mem : target.member data ∈ buildBackupZip sqlite files :=
      mem_buildBackupZip.mpr ⟨target, data, held, rfl⟩
    rcases List.forall₂_iff_get.mp checked with ⟨_, each⟩
    rcases List.mem_iff_get.mp mem with ⟨index, found⟩
    have here := each index.1 index.2 (by have := checked.length_eq; omega)
    exact ⟨_, found ▸ here⟩
  · intro good
    unfold validateRestoreZip
    dsimp only
    rw [if_neg (by have := fits.entries; omega)]
    have checked : List.Forall₂ (Checked sqlite) (buildBackupZip sqlite files)
        ((backupMembers sqlite files).map fun member => member.1.entry member.2) := by
      rw [buildBackupZip_map, List.forall₂_map_left_iff, List.forall₂_map_right_iff,
        List.forall₂_same]
      intro member mem
      have held := mem_backupMembers.mp mem
      have one := good member.1 member.2 held
      exact ⟨validateInfo_named (by rw [held]; rfl) one.1, one.2⟩
    apply validateInfos_of_checked checked
    · exact nodup_filenames
    · exact fits.each
    · rw [Nat.zero_add]
      exact fits.total

end Mintarr.Restore
