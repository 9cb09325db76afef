import Mathlib.Data.List.AList
import Mathlib.Data.List.Sort
import Mintarr.Lib.Json

/-!
# Backup zips

The files that a backup holds, `build_backup_zip`, and the check that a restore makes of a
zip before it uses it.  A member's name is kept as the list of its segments.
-/

namespace Mintarr.Restore

open Lib

/-! ## Files -/

/-- `_ARCHIVE_LABELS`. -/
inductive Label where
  | blocked | discarded | expired
  deriving DecidableEq, Repr

/-- `_LOG_NAMES`. -/
inductive LogName where
  | decisions | releaseSwitchAudit
  deriving DecidableEq, Repr

def Label.text : Label → String
  | .blocked => "blocked"
  | .discarded => "discarded"
  | .expired => "expired"

def LogName.text : LogName → String
  | .decisions => "decisions.jsonl"
  | .releaseSwitchAudit => "release_switch_audit.jsonl"

/-- The labels, in the order of `archive_dirs`. -/
def Label.all : List Label := [.blocked, .discarded, .expired]

/-- The logs, in the order of `log_files`. -/
def LogName.all : List LogName := [.decisions, .releaseSwitchAudit]

/-- A file outside the staging and the safety directory. -/
inductive Target where
  | stateDb
  /-- The state DB's path with `-wal` and with `-shm`. -/
  | wal | shm
  /-- `OUTPUT_BASE / jid / "verification.json"`. -/
  | sidecar (jid : String)
  /-- A file in the archive directory of a label. -/
  | archive (label : Label) (name : String)
  | log (name : LogName)
  /-- Any other file, the music among them. -/
  | other (path : String)
  deriving DecidableEq, Repr

/-- Files with their contents. -/
abbrev Files := AList fun _ : Target => Bytes

/-- The line that `_log_decision` and `_release_switch_audit` append to a log, where the
process dies when `written` bytes of it are written. -/
def appendLine (log line : Bytes) (written : Nat) : Bytes :=
  log ++ (line ++ [0x0A]).take written

/-- The library behind the state DB. -/
structure Sqlite where
  /-- The backup of a database and its write-ahead log. -/
  snapshot : Bytes → Option Bytes → Bytes
  /-- `PRAGMA integrity_check` says `ok`; nothing where it raises `DatabaseError`. -/
  integrityCheck : Bytes → Option Bool
  /-- A backup is a valid image. -/
  sound : ∀ database log, integrityCheck (snapshot database log) = some true

/-! ## Members -/

/-- A member of a zip. -/
structure ZipInfo where
  filename : List String
  externalAttr : Nat := 0
  data : Bytes
  deriving DecidableEq, Repr

def ZipInfo.fileSize (info : ZipInfo) : Nat := info.data.length

/-- The name as it is written. -/
def nameText (name : List String) : String := "/".intercalate name

/-- `name.endswith(".json")`. -/
def isJsonName (name : String) : Bool := ['.', 'j', 's', 'o', 'n'].isSuffixOf name.toList

/-- The external attributes that `zf.write` takes from a regular file. -/
def regularFile : Nat := 0o100644 <<< 16

/-- The external attributes that `zf.writestr` sets. -/
def privateFile : Nat := 0o600 <<< 16

/-! ## Building -/

/-- The jids with a sidecar under `OUTPUT_BASE`. -/
def sidecarJids (files : Files) : List String :=
  (files.keys.filterMap fun target =>
    match target with
    | .sidecar jid => some jid
    | _ => none).insertionSort (· ≤ ·)

/-- The names that `glob("*.json")` finds in an archive directory. -/
def archiveNames (files : Files) (label : Label) : List String :=
  (files.keys.filterMap fun target =>
    match target with
    | .archive other name => if other = label ∧ isJsonName name then some name else none
    | _ => none).insertionSort (· ≤ ·)

/-- The member that a file becomes, if it is there. -/
def zipFile (files : Files) (target : Target) (filename : List String) : List ZipInfo :=
  (files.lookup target).toList.map fun data =>
    { filename, externalAttr := regularFile, data }

/-- `build_backup_zip`. -/
def buildBackupZip (sqlite : Sqlite) (files : Files) : List ZipInfo :=
  ((files.lookup .stateDb).toList.map fun database =>
    { filename := ["state_db.sqlite"]
      externalAttr := privateFile
      data := sqlite.snapshot database (files.lookup .wal) }) ++
  (sidecarJids files).flatMap (fun jid =>
    zipFile files (.sidecar jid) ["sidecars", jid, "verification.json"]) ++
  Label.all.flatMap (fun label =>
    (archiveNames files label).flatMap fun name =>
      zipFile files (.archive label name) ["archive", label.text, name]) ++
  LogName.all.flatMap (fun name => zipFile files (.log name) ["logs", name.text])

/-! ## Validation -/

/-- `RestoreEntry.kind`. -/
inductive Kind where
  | stateDb | sidecar | archive | log
  deriving DecidableEq, Repr

/-- A validated member. -/
structure RestoreEntry where
  name : List String
  kind : Kind
  size : Nat
  targetKey : List String
  jid : Option String := none
  deriving DecidableEq, Repr

/-- `RestorePlan`. -/
structure RestorePlan where
  entries : List RestoreEntry := []
  totalUncompressedBytes : Nat := 0
  hasStateDb : Bool := false
  deriving DecidableEq, Repr

/-- `RestoreLimits`. -/
structure RestoreLimits where
  maxEntries : Nat := 250000
  maxTotalUncompressedBytes : Nat := 25 * 1024 * 1024 * 1024
  maxEntryUncompressedBytes : Nat := 2 * 1024 * 1024 * 1024
  deriving DecidableEq, Repr

/-- What the functions raise, with its text. -/
inductive Raised where
  /-- `RestoreValidationError`. -/
  | validation (text : String)
  /-- `RestoreStateError`. -/
  | state (text : String)
  /-- `RestoreNotFoundError`. -/
  | notFound (text : String)
  /-- Anything else, an `OSError` as a rule. -/
  | other (text : String)
  deriving DecidableEq, Repr

/-- `str(exc)`. -/
def Raised.text : Raised → String
  | .validation text | .state text | .notFound text | .other text => text

/-- `_JID_RE.match`; its `$` also stands before a newline at the end. -/
def isJid (jid : String) : Bool :=
  let hex := fun char : Char => ('a' ≤ char && char ≤ 'f') || ('0' ≤ char && char ≤ '9')
  let chars := jid.toList
  (chars.length = 12 && chars.all hex) ||
    (chars.length = 13 && (chars.take 12).all hex && chars.drop 12 = ['\n'])

/-- `_is_symlink_or_special`. -/
def isSymlinkOrSpecial (externalAttr : Nat) : Bool :=
  let mode := (externalAttr >>> 16) &&& 0o777777
  let fileType := mode &&& 0o170000
  if fileType = 0 then false else fileType ≠ 0o100000

/-- `_safe_parts`: a path drops empty segments and dots. -/
def safeParts (name : List String) : Except Raised (List String) :=
  let parts := name.filter fun part => part ≠ "" ∧ part ≠ "."
  if name.head? = some "" ∨ ".." ∈ parts then
    .error (.validation ("unsafe restore zip path: " ++ nameText name))
  else .ok parts

/-- The part of `_validate_info` that looks at the parts of the name. -/
def validateParts (info : ZipInfo) : List String → Except Raised RestoreEntry
  | ["state_db.sqlite"] =>
      .ok
        { name := info.filename, kind := .stateDb, size := info.fileSize
          targetKey := ["state_db"] }
  | ["sidecars", jid, "verification.json"] =>
      if !isJid jid then .error (.validation ("unsafe restore jid segment: " ++ jid))
      else
        .ok
          { name := info.filename, kind := .sidecar, size := info.fileSize
            targetKey := ["sidecars", jid, "verification.json"], jid := some jid }
  | ["archive", label, filename] =>
      if label ∉ Label.all.map Label.text then
        .error (.validation ("unknown restore zip entry: " ++ nameText info.filename))
      else if !isJsonName filename ∨ filename = ".json" then
        .error (.validation ("invalid archive sidecar name: " ++ nameText info.filename))
      else
        .ok
          { name := info.filename, kind := .archive, size := info.fileSize
            targetKey := ["archive", label, filename] }
  | ["logs", filename] =>
      if filename ∉ LogName.all.map LogName.text then
        .error (.validation ("unknown restore zip entry: " ++ nameText info.filename))
      else
        .ok
          { name := info.filename, kind := .log, size := info.fileSize
            targetKey := ["logs", filename] }
  | _ => .error (.validation ("unknown restore zip entry: " ++ nameText info.filename))

/-- `_validate_info`. -/
def validateInfo (info : ZipInfo) : Except Raised RestoreEntry :=
  if info.filename.getLastD "" = "" then
    .error (.validation ("restore zip contains directory entry: " ++ nameText info.filename))
  else if isSymlinkOrSpecial info.externalAttr then
    .error (.validation ("restore zip entry is not a regular file: " ++ nameText info.filename))
  else
    match safeParts info.filename with
    | .error text => .error text
    | .ok parts => validateParts info parts

/-- `_validate_sqlite_member`. -/
def validateSqliteMember (sqlite : Sqlite) (data : Bytes) : Except Raised Unit :=
  match sqlite.integrityCheck data with
  | some true => .ok ()
  | some false => .error (.validation "restore state_db failed integrity_check")
  | none => .error (.validation "restore state_db is not valid SQLite")

/-- What an entry that is no JSON raises; only two kinds of error are caught. -/
def raisedByJson (text : String) : Json.Invalid → Raised
  | .malformed => .validation text
  | .integer digits =>
      .other ("Exceeds the limit (4300 digits) for integer string conversion: value has " ++
        toString digits ++ " digits; use sys.set_int_max_str_digits() to increase the limit")

/-- `_validate_json_member`. -/
def validateJsonMember (name : List String) (data : Bytes) : Except Raised Unit :=
  (Json.loadsBytes data).mapError
    (raisedByJson ("restore JSON entry is invalid: " ++ nameText name))

/-- Every line that is not blank is read as a JSON document. -/
def loadsLines (data : Bytes) : Except Json.Invalid Unit :=
  match Text.decode data with
  | some text =>
      (Text.splitlines text).forM fun line =>
        if Text.isBlank line then .ok () else Json.loads (line.map .char)
  | none => .error .malformed

/-- `_validate_jsonl_member`. -/
def validateJsonlMember (name : List String) (data : Bytes) : Except Raised Unit :=
  (loadsLines data).mapError
    (raisedByJson ("restore JSONL entry is invalid: " ++ nameText name))

/-- The check of a member's content. -/
def validateMember (sqlite : Sqlite) (kind : Kind) (name : List String) (data : Bytes) :
    Except Raised Unit :=
  match kind with
  | .stateDb => validateSqliteMember sqlite data
  | .sidecar | .archive => validateJsonMember name data
  | .log => validateJsonlMember name data

/-- The loop of `validate_restore_zip`. -/
def validateInfos (sqlite : Sqlite) (limits : RestoreLimits) :
    List ZipInfo → RestorePlan → Except Raised RestorePlan
  | [], plan => .ok plan
  | info :: infos, plan => do
      let entry ← validateInfo info
      -- `seen_names` are the names of the entries so far.
      if entry.name ∈ plan.entries.map RestoreEntry.name then
        throw (.validation ("duplicate restore zip entry: " ++ nameText entry.name))
      if entry.size > limits.maxEntryUncompressedBytes then
        throw (.validation ("restore zip entry too large: " ++ nameText entry.name))
      let total := plan.totalUncompressedBytes + entry.size
      if total > limits.maxTotalUncompressedBytes then
        throw (.validation "restore zip total uncompressed size too large")
      validateMember sqlite entry.kind entry.name info.data
      validateInfos sqlite limits infos
        { entries := plan.entries ++ [entry]
          totalUncompressedBytes := total
          hasStateDb := plan.hasStateDb || entry.kind = .stateDb }

/-- `validate_restore_zip`; a file that is no zip has no members. -/
def validateRestoreZip (sqlite : Sqlite) (limits : RestoreLimits) (zip : Option (List ZipInfo)) :
    Except Raised RestorePlan :=
  match zip with
  | none => .error (.validation "restore input is not a valid zip")
  | some infos =>
      if infos.length > limits.maxEntries then
        .error (.validation "restore zip has too many entries")
      else validateInfos sqlite limits infos {}

/-! ## Targets -/

/-- `_entry_target`, and the state DB's own path. -/
def entryTarget (entry : RestoreEntry) : Option Target :=
  match entry.kind, entry.targetKey with
  | .stateDb, _ => some .stateDb
  | .sidecar, [_, jid, _] => some (.sidecar jid)
  | .archive, [_, label, name] =>
      (Label.all.find? fun other => other.text = label).map fun other => .archive other name
  | .log, [_, name] => (LogName.all.find? fun other => other.text = name).map .log
  | _, _ => none

end Mintarr.Restore
