import Mathlib.Algebra.GroupWithZero.Nat
import Mintarr.Ingest.Offers
import Mintarr.Lib.TreeListing

/-!
# Completed folders

A folder that a download client has finished is taken by its path below a download root, and all
regular files in it are copied.  The adapters look at the tree several times: when the path is
resolved and the folder counted, again when it has settled, and once more while it is copied.  In
between the tree may change.
-/

namespace Mintarr.Ingest

open Lib

/-! ## Adapters -/

/-- What the adapters differ in. -/
structure FolderRules where
  sourceLabel : String
  partialSuffixes : List String
  /-- Names of parts of a path, in lower case, below which nothing is finished. -/
  partialParts : List String
  partialMessage : String

/-- `CompletedFolderAdapter`, by `source_label`. -/
def completedFolderRules (sourceLabel : String) : FolderRules where
  sourceLabel := sourceLabel
  partialSuffixes :=
    [".!qb", ".crdownload", ".download", ".incomplete", ".part", ".partial", ".qbt!", ".tmp"]
  partialParts := ["__admin__", "_unpack_", "_failed_"]
  partialMessage := sourceLabel ++ " folder has partial markers"

/-- `SabUsenetCompletedAdapter`. -/
def sabUsenetRules : FolderRules := completedFolderRules "sab_usenet"

/-- `QBittorrentCompletedAdapter`. -/
def qbittorrentTorrentRules : FolderRules := completedFolderRules "qbittorrent_torrent"

/-- `BackendCompletedAdapter`. -/
def backendCompletedRules : FolderRules := completedFolderRules "backend_completed"

/-- `SoulseekCompletedAdapter`, for a path that is not an id of slskd. -/
def soulseekRules : FolderRules where
  sourceLabel := "soulseek"
  partialSuffixes := [".part", ".partial", ".tmp", ".download", ".crdownload", ".incomplete"]
  partialParts := []
  partialMessage := "soulseek folder has partial download markers"

/-- A completed-folder adapter with its settings. -/
structure CompletedFolderAdapter where
  rules : FolderRules
  downloadRoot : PurePath
  plain : ∀ part ∈ downloadRoot.parts, PurePath.IsPart part
  maxFiles : Nat
  /-- No limit where it is zero. -/
  maxBytes : Nat
  /-- `settle_seconds` is not zero. -/
  settles : Bool

/-- What the adapter sees when it looks. -/
structure Moment where
  files : FileSystem
  /-- `path.stat().st_mtime_ns`. -/
  mtimeNs : PurePath → Int

/-! ## The files of a folder -/

/-- The path of an entry that `rglob` yields. -/
def entryPath (src : PurePath) (names : List String) : PurePath :=
  { src with parts := src.parts ++ names }

/-- `src.rglob("*")`, by the names below the folder. -/
def rglob (files : FileSystem) (src : PurePath) : List (List String) :=
  match files.lookup true src with
  | .ok node => node.walked
  | .error _ => []

/-- A turn of the loops of `_snapshot` and `download_raw`: the size of a regular file, nothing where
the loop continues. -/
def visit (files : FileSystem) (root src : PurePath) (names : List String) :
    Except Raised (Option Nat) := do
  let file := entryPath src names
  let link ← (isSymlink files file).mapError .osError
  if link then
    throw (.runtimeError ("symlink blocked: " ++ PurePath.asPosix ⟨"", names⟩))
  else do
    let regular ← (isFile files file).mapError .osError
    if !regular then return none
    else do
      let resolved ← resolve files file
      if ¬resolved.isRelativeTo root then
        throw (.runtimeError s!"path escape blocked: {file.asPosix}")
      else do
        let size ← (stSize files file).mapError .osError
        return some size

/-- What is kept of an entry; something is done with a regular file, which may fail. -/
def keep (fails : List String → Option Fault) (names : List String) :
    Option Nat → Except Raised (List (List String × Nat))
  | none => .ok []
  | some size => (fails names).elim (.ok [(names, size)]) fun fault => .error (.osError fault)

/-- The regular files among some entries, with their sizes. -/
def regularAmong (files : FileSystem) (fails : List String → Option Fault) (root src : PurePath) :
    List (List String) → Except Raised (List (List String × Nat))
  | [] => .ok []
  | names :: rest => do
      let size ← visit files root src names
      let kept ← keep fails names size
      let others ← regularAmong files fails root src rest
      return kept ++ others

/-- The regular files of a folder. -/
def regularFiles (files : FileSystem) (fails : List String → Option Fault) (root src : PurePath) :
    Except Raised (List (List String × Nat)) :=
  regularAmong files fails root src (rglob files src)

/-- `f.suffix.lower() in _SUPPORTED_AUDIO_SUFFIXES`. -/
def isAudio (table : CaseTable) (names : List String) : Bool :=
  let lower := table.lower (suffix (names.getLast?.getD "").toList)
  lower = ".flac".toList ∨ lower = ".m4a".toList

/-- `part.lower() in _PARTIAL_PATH_PARTS`. -/
def FolderRules.isMarker (rules : FolderRules) (table : CaseTable) (part : String) : Bool :=
  rules.partialParts.any fun marker => table.lower part.toList = marker.toList

/-- The name of a file, or of a folder that it is in, is one of an unfinished download. -/
def FolderRules.isPartial (rules : FolderRules) (table : CaseTable) (names : List String) : Bool :=
  (rules.partialSuffixes.any fun ending =>
    ending.toList.isSuffixOf (table.lower (names.getLast?.getD "").toList)) ||
    names.any (rules.isMarker table)

/-- What `_snapshot` returns. -/
structure Snapshot where
  /-- Size and `st_mtime_ns` by name. -/
  files : List (List String × Nat × Int)
  audioFiles : Nat
  totalBytes : Nat
  partialFiles : Nat

/-- The counts of `_snapshot`. -/
def snapshotOf (rules : FolderRules) (table : CaseTable) (moment : Moment) (src : PurePath)
    (found : List (List String × Nat)) : Snapshot where
  files := found.map fun file =>
    (file.1, file.2, moment.mtimeNs (entryPath src file.1))
  audioFiles := found.countP fun file => isAudio table file.1
  totalBytes := (found.map Prod.snd).sum
  partialFiles := found.countP fun file => rules.isPartial table file.1

/-- The snapshots are the same; the files are compared as `dict`s. -/
def Snapshot.same (first second : Snapshot) : Bool :=
  first.files.isPerm second.files && first.audioFiles = second.audioFiles &&
    first.totalBytes = second.totalBytes

namespace CompletedFolderAdapter

variable (adapter : CompletedFolderAdapter) (table : CaseTable)

/-- `_snapshot`. -/
def snapshot (moment : Moment) (src : PurePath) : Except Raised Snapshot := do
  let root ← resolve moment.files adapter.downloadRoot
  let found ← regularFiles moment.files (fun _ => none) root src
  return snapshotOf adapter.rules table moment src found

/-- The part of `_validate_completed_dir` about the first snapshot. -/
def checkSnapshot (src : PurePath) (first : Snapshot) : Except Raised Unit :=
  if first.partialFiles ≠ 0 then throw (.runtimeError adapter.rules.partialMessage)
  else if first.audioFiles = 0 then
    throw (.runtimeError s!"no supported audio files found in {src.asPosix}")
  else if adapter.maxFiles < first.files.length then
    throw (.runtimeError (adapter.rules.sourceLabel ++
      s!" folder has too many files: {first.files.length} > {adapter.maxFiles}"))
  else if adapter.maxBytes ≠ 0 ∧ adapter.maxBytes < first.totalBytes then
    throw (.runtimeError (adapter.rules.sourceLabel ++
      s!" folder exceeds max bytes: {first.totalBytes} > {adapter.maxBytes}"))
  else .ok ()

/-- `_validate_completed_dir`; the second snapshot is taken `late`. -/
def validateCompletedDir (early late : Moment) (src : PurePath) : Except Raised Unit := do
  let first ← adapter.snapshot table early src
  adapter.checkSnapshot src first
  if !adapter.settles then return ()
  else do
    let second ← adapter.snapshot table late src
    if second.partialFiles ≠ 0 then throw (.runtimeError adapter.rules.partialMessage)
    else if !second.same first then
      throw (.runtimeError (adapter.rules.sourceLabel ++ " folder not settled"))
    else return ()

/-- The loop over the parts of a path, which is below the root. -/
def checkParts (files : FileSystem) (path : PurePath) :
    PurePath → List String → Except Raised Unit
  | _, [] => .ok ()
  | cur, part :: rest =>
      if adapter.rules.isMarker table part then
        .error (.runtimeError adapter.rules.partialMessage)
      else
        match isSymlink files (cur.child part) with
        | .error fault => .error (.osError fault)
        | .ok true => .error (.runtimeError s!"symlink blocked: {path.asPosix}")
        | .ok false => checkParts files path (cur.child part) rest

/-- `resolve_source_dir` without `check_completed`. -/
def resolveUnchecked (files : FileSystem) (relPath : String) : Except Raised PurePath :=
  let path := PurePath.ofString relPath
  if relPath = "" ∨ path.root ≠ "" then
    throw (.runtimeError (adapter.rules.sourceLabel ++ " path must be relative"))
  else do
    let root ← resolve files adapter.downloadRoot
    adapter.checkParts table files path root path.parts
    let src ← resolve files (root.joinpath path)
    if ¬src.isRelativeTo root then throw (.runtimeError s!"path traversal blocked: {relPath}")
    else do
      let directory ← (isDir files src).mapError .osError
      if ¬directory then
        throw (.runtimeError
          (adapter.rules.sourceLabel ++ s!" source not a directory: {src.asPosix}"))
      else return src

/-- `resolve_source_dir` with `check_completed`. -/
def resolveSourceDir (early late : Moment) (relPath : String) : Except Raised PurePath := do
  let src ← adapter.resolveUnchecked table early.files relPath
  adapter.validateCompletedDir table early late src
  return src

/-- `normalize_candidate_id`; the root is resolved again when the folder has settled. -/
def normalizeCandidateId (early late : Moment) (relPath : String) : Except Raised String := do
  let src ← adapter.resolveSourceDir table early late relPath
  let root ← resolve late.files adapter.downloadRoot
  match src.relativeTo root with
  | some relative => return relative.asPosix
  | none => throw .valueError

end CompletedFolderAdapter

/-! ## The copy -/

/-- What `download_raw` leaves and returns. -/
structure RawDownload where
  /-- The copies below `raw_dir`, with their sizes. -/
  copies : List (List String × Nat)
  fileCount : Nat
  totalBytes : Nat

/-- The loop of `download_raw` and what comes behind it; `copyFault` says which copies fail. -/
def copyFolder (table : CaseTable) (files : FileSystem)
    (copyFault : List String → Option Fault) (root src : PurePath) : Except Raised RawDownload := do
  let found ← regularFiles files copyFault root src
  if (found.countP fun file => isAudio table file.1) = 0 then
    throw (.runtimeError s!"no supported audio files copied from {src.asPosix}")
  else return ⟨found, found.length, (found.map Prod.snd).sum⟩

/-- `download_raw`; the folder is copied at a `later` moment. -/
def CompletedFolderAdapter.downloadRaw (adapter : CompletedFolderAdapter) (table : CaseTable)
    (early late later : Moment) (copyFault : List String → Option Fault) (candidateId : String) :
    Except Raised RawDownload := do
  let src ← adapter.resolveSourceDir table early late candidateId
  let root ← resolve later.files adapter.downloadRoot
  copyFolder table later.files copyFault root src

/-- `download_raw` of the local folder adapter. -/
def LocalFolderAdapter.downloadRaw (adapter : LocalFolderAdapter) (table : CaseTable)
    (early later : FileSystem) (copyFault : List String → Option Fault) (candidateId : String) :
    Except Raised RawDownload := do
  let src ← adapter.resolveSourceDir early candidateId
  let root ← resolve later adapter.ingestRoot
  copyFolder table later copyFault root src

/-! ## What the loops find -/

open LocalFolderAdapter (mapError_eq_ok_iff resolve_eq_ok_iff)

variable {files : FileSystem} {fails : List String → Option Fault} {root src : PurePath}
  {names front here top : List String} {node : Node} {size : Option Nat}
  {found : List (List String × Nat)} {entries : List (List String)}

theorem visit_eq_ok_iff : visit files root src names = .ok size ↔
    isSymlink files (entryPath src names) = .ok false ∧
      ((isFile files (entryPath src names) = .ok false ∧ size = none) ∨
        (isFile files (entryPath src names) = .ok true ∧
          ∃ resolved, resolve files (entryPath src names) = .ok resolved ∧
            resolved.isRelativeTo root = true ∧
            ∃ bytes, stSize files (entryPath src names) = .ok bytes ∧ size = some bytes)) := by
  simp only [visit, bind_eq_ok_iff, mapError_eq_ok_iff, ite_throw_eq_ok_iff]
  constructor
  · rintro ⟨link, unlinked, plain, regular, tested, goesOn⟩
    rw [Bool.not_eq_true] at plain
    rw [plain] at unlinked
    refine ⟨unlinked, ?_⟩
    cases regular with
    | false =>
        cases goesOn
        exact .inl ⟨tested, rfl⟩
    | true =>
        change (resolve files (entryPath src names) >>= _) = _ at goesOn
        simp only [bind_eq_ok_iff, ite_throw_eq_ok_iff, mapError_eq_ok_iff, not_not] at goesOn
        obtain ⟨resolved, resolves, within, bytes, read, returned⟩ := goesOn
        cases returned
        exact .inr ⟨tested, resolved, resolves, within, bytes, read, rfl⟩
  · rintro ⟨unlinked, plain | ⟨tested, resolved, resolves, within, bytes, read, rfl⟩⟩
    · obtain ⟨tested, rfl⟩ := plain
      exact ⟨false, unlinked, Bool.false_ne_true, false, tested, rfl⟩
    · refine ⟨false, unlinked, Bool.false_ne_true, true, tested, ?_⟩
      change (resolve files (entryPath src names) >>= _) = _
      simp only [bind_eq_ok_iff, ite_throw_eq_ok_iff, mapError_eq_ok_iff, not_not]
      exact ⟨resolved, resolves, within, bytes, read, rfl⟩

/-- The entry with its size, where it is a regular file. -/
def regular? (files : FileSystem) (root src : PurePath) (names : List String) :
    Option (List String × Nat) :=
  (visit files root src names).toOption.bind fun size => size.map (names, ·)

theorem regular?_eq_some_iff {bytes : Nat} {other : List String} :
    regular? files root src names = some (other, bytes) ↔
      other = names ∧ visit files root src names = .ok (some bytes) := by
  rw [regular?]
  cases visited : visit files root src names with
  | error raised => simp [Except.toOption]
  | ok size =>
      cases size with
      | none => simp [Except.toOption]
      | some size => simp [Except.toOption, eq_comm]

/-- The loop ends where it visits every entry and all that is done with the files succeeds. -/
theorem regularAmong_eq_ok_iff : regularAmong files fails root src entries = .ok found ↔
    (∀ names ∈ entries, ∃ size, visit files root src names = .ok size ∧
      (size ≠ none → fails names = none)) ∧
    entries.filterMap (regular? files root src) = found := by
  induction entries generalizing found with
  | nil => simp [regularAmong]
  | cons names entries ih =>
      rw [regularAmong, List.forall_mem_cons, List.filterMap_cons]
      simp only [bind_eq_ok_iff, ih]
      constructor
      · rintro ⟨size, visited, kept, keeps, others, rest, returned⟩
        obtain ⟨each, rfl⟩ := rest
        cases returned
        cases size with
        | none =>
            cases keeps
            refine ⟨⟨⟨none, visited, fun impossible => absurd rfl impossible⟩, each⟩, ?_⟩
            simp [regular?, visited, Except.toOption]
        | some size =>
            cases done : fails names with
            | some fault => simp [keep, done] at keeps
            | none =>
                rw [keep, done] at keeps
                cases keeps
                refine ⟨⟨⟨some size, visited, fun _ => rfl⟩, each⟩, ?_⟩
                simp [regular?, visited, Except.toOption]
      · rintro ⟨⟨⟨size, visited, done⟩, each⟩, rfl⟩
        cases size with
        | none =>
            refine ⟨none, visited, [], rfl, _, ⟨each, rfl⟩, ?_⟩
            simp [regular?, visited, Except.toOption]
            rfl
        | some size =>
            have succeeds := done (Option.some_ne_none size)
            refine ⟨some size, visited, [(names, size)], ?_, _, ⟨each, rfl⟩, ?_⟩
            · rw [keep, succeeds]
              rfl
            · simp [regular?, visited, Except.toOption]
              rfl

/-! ## Where an entry lies -/

/-- An entry is reached by its names, where nothing on the way is a link. -/
theorem reaches_entry (reaches : files.Reaches src here) (found : files.tree.find here = .ok node)
    (lists : node.Lists names)
    (unlinked : ∀ front, node.Lists front → isSymlink files (entryPath src front) = .ok false) :
    files.Reaches (entryPath src names) (here ++ names) := by
  induction names using List.reverseRecOn with
  | nil => exact absurd rfl lists.ne_nil
  | append_singleton front name ih =>
      have above : files.Reaches (entryPath src front) (here ++ front) := by
        cases front with
        | nil =>
            rw [List.append_nil]
            have same : entryPath src [] = src := by
              rw [entryPath, List.append_nil]
            rw [same]
            exact reaches
        | cons first rest =>
            exact ih (lists.above (List.prefix_append _ _) (List.cons_ne_nil _ _))
      have path : entryPath src (front ++ [name]) = (entryPath src front).child name := by
        rw [entryPath, entryPath, PurePath.child, List.append_assoc]
      have below : name ≠ ".." := by
        obtain ⟨fileName, rfl⟩ := lists.proper name (by simp)
        exact fileName.proper.2.1
      have plain := unlinked _ lists
      rw [path, isSymlink, above.lookup_child below] at plain
      have there : files.tree.find (here ++ (front ++ [name])) = node.find (front ++ [name]) := by
        rw [Node.find_append, found]
        rfl
      rw [← List.append_assoc] at there
      rw [path, ← List.append_assoc]
      cases entry : files.tree.find (here ++ front ++ [name]) with
      | error fault =>
          rw [entry] at plain
          cases fault with
          | missing =>
              rw [entry] at there
              exact absurd there.symm lists.find_ne_missing
          | denied => cases plain
      | ok child =>
          rw [entry] at plain
          apply above.child below entry
          rintro target rfl
          cases plain

/-- What a turn of the loop finds at a place. -/
theorem visit_of_reaches {child : Node} {place : List String} (bytes : Nat)
    (reaches : files.Reaches (entryPath src names) place)
    (found : files.tree.find place = .ok child)
    (visited : visit files root src names = .ok size) :
    (size = some bytes ↔ child = .file bytes) ∧
      (size ≠ none → PurePath.isRelativeTo ⟨"/", place⟩ root = true) := by
  have looked : files.lookup true (entryPath src names) = .ok child := reaches.lookup.trans found
  have resolves := resolve_eq_ok_iff.mpr reaches.resolve
  obtain ⟨_, plain | ⟨tested, resolved, same, within, read, sized, rfl⟩⟩ :=
    visit_eq_ok_iff.mp visited
  · obtain ⟨tested, rfl⟩ := plain
    rw [isFile, looked] at tested
    constructor
    · constructor
      · intro impossible
        contradiction
      · rintro rfl
        cases tested
    · intro impossible
      exact absurd rfl impossible
  · rw [isFile, looked] at tested
    rw [stSize, looked] at sized
    cases sized
    rw [resolves] at same
    cases same
    refine ⟨?_, fun _ => within⟩
    cases child with
    | file bytes => simp [Node.size]
    | special => cases tested
    | symlink target => cases tested
    | directory access entries => cases tested

/-- What the loop finds in a folder is all regular files that a walk meets there, each of them
once and inside of the root; and the walk meets no link. -/
structure Finds (files : FileSystem) (root : PurePath) (here : List String) (node : Node)
    (found : List (List String × Nat)) : Prop where
  nodup : (found.map Prod.fst).Nodup
  mem_iff : ∀ names bytes, (names, bytes) ∈ found ↔
    node.Lists names ∧ node.find names = .ok (.file bytes)
  within : ∀ file ∈ found, PurePath.isRelativeTo ⟨"/", here ++ file.1⟩ root = true
  unlinked : ∀ names, node.Lists names → ∀ target, node.find names ≠ .ok (.symlink target)

theorem finds_of_regularFiles (reaches : files.Reaches src here)
    (found : files.tree.find here = .ok node) {kept : List (List String × Nat)}
    (kept_eq : regularFiles files fails root src = .ok kept) :
    Finds files root here node kept := by
  have listing : rglob files src = node.walked := by
    rw [rglob, reaches.lookup, found]
  rw [regularFiles, listing, regularAmong_eq_ok_iff] at kept_eq
  obtain ⟨each, rfl⟩ := kept_eq
  have unlinked (names : List String) (lists : node.Lists names) :
      isSymlink files (entryPath src names) = .ok false := by
    obtain ⟨size, visited, _⟩ := each names (Node.mem_walked_iff.mpr lists)
    exact (visit_eq_ok_iff.mp visited).1
  have reached (names : List String) (lists : node.Lists names) :
      files.Reaches (entryPath src names) (here ++ names) :=
    reaches_entry reaches found lists unlinked
  have there (names : List String) : files.tree.find (here ++ names) = node.find names := by
    rw [Node.find_append, found]
    rfl
  have turn (names : List String) (bytes : Nat) (lists : node.Lists names) :
      visit files root src names = .ok (some bytes) ↔ node.find names = .ok (.file bytes) := by
    obtain ⟨size, visited, _⟩ := each names (Node.mem_walked_iff.mpr lists)
    have place := (reached names lists).sound.found
    cases entry : files.tree.find (here ++ names) with
    | error fault =>
        rw [entry] at place
        contradiction
    | ok child =>
        have both := (visit_of_reaches bytes (reached names lists) entry visited).1
        rw [visited, ← there, entry, Except.ok.injEq, Except.ok.injEq]
        exact both
  have mem_iff (names : List String) (bytes : Nat) :
      (names, bytes) ∈ node.walked.filterMap (regular? files root src) ↔
        node.Lists names ∧ node.find names = .ok (.file bytes) := by
    rw [List.mem_filterMap]
    constructor
    · rintro ⟨other, listed, kept⟩
      obtain ⟨rfl, visited⟩ := regular?_eq_some_iff.mp kept
      have lists := Node.mem_walked_iff.mp listed
      exact ⟨lists, (turn names bytes lists).mp visited⟩
    · rintro ⟨lists, found⟩
      exact ⟨names, Node.mem_walked_iff.mpr lists,
        regular?_eq_some_iff.mpr ⟨rfl, (turn names bytes lists).mpr found⟩⟩
  refine ⟨?_, mem_iff, ?_, ?_⟩
  · have names_eq : (node.walked.filterMap (regular? files root src)).map Prod.fst =
        node.walked.filter fun names => (regular? files root src names).isSome := by
      induction node.walked with
      | nil => rfl
      | cons names rest ih =>
          cases kept : regular? files root src names with
          | none => simp [kept, ih]
          | some file =>
              obtain ⟨other, bytes⟩ := file
              obtain ⟨rfl, _⟩ := regular?_eq_some_iff.mp kept
              simp [kept, ih]
    rw [names_eq]
    exact node.nodup_walked.filter _
  · intro file listed
    obtain ⟨names, bytes⟩ := file
    obtain ⟨lists, regular⟩ := (mem_iff names bytes).mp listed
    have entry : files.tree.find (here ++ names) = .ok (.file bytes) := (there names).trans regular
    exact (visit_of_reaches bytes (reached names lists) entry
      ((turn names bytes lists).mpr regular)).2 (Option.some_ne_none bytes)
  · intro names lists target link
    have place := (reached names lists).sound.straight.noLink (here ++ names) List.prefix_rfl target
    rw [there] at place
    exact place link

/-! ## Downloads -/

/-- What was downloaded is the folder as it is found: all regular files in it, each of them once,
with audio among them. -/
structure Delivers (table : CaseTable) (files : FileSystem) (root src : PurePath)
    (raw : RawDownload) : Prop where
  place : ∃ here node, files.Reaches src here ∧ files.tree.find here = .ok node ∧
    Finds files root here node raw.copies
  count : raw.fileCount = raw.copies.length
  bytes : raw.totalBytes = (raw.copies.map Prod.snd).sum
  audio : ∃ copy ∈ raw.copies, isAudio table copy.1 = true

variable {table : CaseTable} {raw : RawDownload} {relPath normal : String}
  {early late later moment : Moment}

theorem copyFolder_eq_ok_iff : copyFolder table files fails root src = .ok raw ↔
    regularFiles files fails root src = .ok raw.copies ∧
      (∃ copy ∈ raw.copies, isAudio table copy.1 = true) ∧
      raw.fileCount = raw.copies.length ∧ raw.totalBytes = (raw.copies.map Prod.snd).sum := by
  simp only [copyFolder, bind_eq_ok_iff, ite_throw_eq_ok_iff, List.countP_eq_zero, not_forall,
    not_not, exists_prop]
  constructor
  · rintro ⟨found, kept, audio, returned⟩
    cases returned
    exact ⟨kept, audio, rfl, rfl⟩
  · rintro ⟨kept, audio, count, bytes⟩
    refine ⟨raw.copies, kept, audio, ?_⟩
    rw [← count, ← bytes]
    rfl

theorem delivers_of_copyFolder (copied : copyFolder table files fails root src = .ok raw) :
    Delivers table files root src raw := by
  obtain ⟨kept, audio, count, bytes⟩ := copyFolder_eq_ok_iff.mp copied
  refine ⟨?_, count, bytes, audio⟩
  cases looked : files.lookup true src with
  | error fault =>
      have nothing : rglob files src = [] := by
        rw [rglob, looked]
      rw [regularFiles, nothing, regularAmong, Except.ok.injEq] at kept
      obtain ⟨copy, listed, _⟩ := audio
      rw [← kept] at listed
      contradiction
  | ok node =>
      obtain ⟨here, reaches, found⟩ := FileSystem.reaches_of_lookup looked
      exact ⟨here, node, reaches, found, finds_of_regularFiles reaches found kept⟩

/-- The folder of a local id is copied as it is found. -/
theorem LocalFolderAdapter.delivers_of_taken {adapter : LocalFolderAdapter} {later : FileSystem}
    (downloaded : adapter.downloadRaw table files later fails relPath = .ok raw) :
    ∃ src root, adapter.resolveSourceDir files relPath = .ok src ∧
      resolve later adapter.ingestRoot = .ok root ∧ Delivers table later root src raw := by
  simp only [downloadRaw, bind_eq_ok_iff] at downloaded
  obtain ⟨src, taken, root, resolved, copied⟩ := downloaded
  exact ⟨src, root, taken, resolved, delivers_of_copyFolder copied⟩

namespace CompletedFolderAdapter

variable {adapter : CompletedFolderAdapter}

/-- What is asked of a folder before it is copied. -/
structure Keeps (adapter : CompletedFolderAdapter) (table : CaseTable)
    (found : List (List String × Nat)) : Prop where
  finished : ∀ file ∈ found, adapter.rules.isPartial table file.1 = false
  files : found.length ≤ adapter.maxFiles
  bytes : adapter.maxBytes = 0 ∨ (found.map Prod.snd).sum ≤ adapter.maxBytes
  audio : ∃ file ∈ found, isAudio table file.1 = true

theorem snapshot_eq_ok_iff {taken : Snapshot} : adapter.snapshot table moment src = .ok taken ↔
    ∃ root found, resolve moment.files adapter.downloadRoot = .ok root ∧
      regularFiles moment.files (fun _ => none) root src = .ok found ∧
      snapshotOf adapter.rules table moment src found = taken := by
  simp only [snapshot, bind_eq_ok_iff]
  constructor
  · rintro ⟨root, resolved, found, kept, returned⟩
    cases returned
    exact ⟨root, found, resolved, kept, rfl⟩
  · rintro ⟨root, found, resolved, kept, rfl⟩
    exact ⟨root, resolved, found, kept, rfl⟩

theorem checkSnapshot_eq_ok_iff : adapter.checkSnapshot src
      (snapshotOf adapter.rules table moment src found) = .ok () ↔ adapter.Keeps table found := by
  rw [checkSnapshot, ite_throw_eq_ok_iff, ite_throw_eq_ok_iff, ite_throw_eq_ok_iff,
    ite_throw_eq_ok_iff]
  simp only [snapshotOf, List.length_map, not_not, not_and_or, not_lt, List.countP_eq_zero,
    not_forall, exists_prop, Bool.not_eq_true]
  constructor
  · rintro ⟨finished, audio, files, bytes, _⟩
    exact ⟨finished, files, bytes, by simpa using audio⟩
  · rintro ⟨finished, files, bytes, audio⟩
    exact ⟨finished, by simpa using audio, files, bytes, trivial⟩

/-- The moment at which a folder is last looked at before the copy. -/
def lastLook (adapter : CompletedFolderAdapter) (early late : Moment) : Moment :=
  if adapter.settles then late else early

/-- Of a folder that is valid, the last look has found what is asked of it. -/
theorem keeps_of_validateCompletedDir
    (valid : adapter.validateCompletedDir table early late src = .ok ()) :
    ∃ root found, resolve (adapter.lastLook early late).files adapter.downloadRoot = .ok root ∧
      regularFiles (adapter.lastLook early late).files (fun _ => none) root src = .ok found ∧
      adapter.Keeps table found := by
  simp only [validateCompletedDir, bind_eq_ok_iff] at valid
  obtain ⟨first, looked, _, checked, rest⟩ := valid
  obtain ⟨root, found, resolved, kept, rfl⟩ := snapshot_eq_ok_iff.mp looked
  have keeps := checkSnapshot_eq_ok_iff.mp checked
  rw [lastLook]
  cases settles : adapter.settles with
  | false => exact ⟨root, found, resolved, kept, keeps⟩
  | true =>
      rw [settles] at rest
      change (adapter.snapshot table late src >>= _) = _ at rest
      simp only [bind_eq_ok_iff, ite_throw_eq_ok_iff, not_not, Bool.not_eq_true'] at rest
      obtain ⟨second, again, finished, same, _⟩ := rest
      obtain ⟨root, others, resolved, kept, rfl⟩ := snapshot_eq_ok_iff.mp again
      refine ⟨root, others, resolved, kept, ?_⟩
      rw [Bool.not_eq_false, Snapshot.same, Bool.and_eq_true, Bool.and_eq_true, decide_eq_true_iff,
        decide_eq_true_iff, List.isPerm_iff] at same
      obtain ⟨⟨files, audio⟩, bytes⟩ := same
      have lengths := files.length_eq
      simp only [snapshotOf, List.length_map] at files audio bytes lengths finished
      constructor
      · intro file listed
        simpa using List.countP_eq_zero.mp finished file listed
      · rw [lengths]
        exact keeps.files
      · rw [bytes]
        exact keeps.bytes
      · have some := List.countP_pos_iff.mpr keeps.audio
        rw [← audio] at some
        exact List.countP_pos_iff.mp some

/-- What can be copied has been found. -/
theorem regularFiles_of_copied (copied : regularFiles files fails root src = .ok found) :
    regularFiles files (fun _ => none) root src = .ok found := by
  rw [regularFiles, regularAmong_eq_ok_iff] at copied ⊢
  refine ⟨fun names listed => ?_, copied.2⟩
  obtain ⟨size, visited, _⟩ := copied.1 names listed
  exact ⟨size, visited, fun _ => rfl⟩

/-- `/done` holds a folder with an audio file and a cover. -/
def doneFolder : FileSystem :=
  { LocalFolderAdapter.linkedRoot with
    entries :=
      [(⟨"done", by decide⟩, .directory {}
        [(⟨"Record", by decide⟩, .directory {}
          [(⟨"01.flac", by decide⟩, .file 5),
            (⟨"Scans", by decide⟩, .directory {} [(⟨"front.jpg", by decide⟩, .file 2)])])])] }

/-- The adapter for it. -/
def doneAdapter : CompletedFolderAdapter where
  rules := backendCompletedRules
  downloadRoot := ⟨"/", ["done"]⟩
  plain := List.forall_mem_singleton.mpr ⟨by decide, by decide⟩
  maxFiles := 300
  maxBytes := 0
  settles := true

/-- Nothing is touched. -/
def doneMoment : Moment := ⟨doneFolder, fun _ => 0⟩

/-- What is left of the adapter where nothing is known of unfinished downloads. -/
def toLocal (adapter : CompletedFolderAdapter) : LocalFolderAdapter where
  ingestRoot := adapter.downloadRoot
  plain := adapter.plain

/-- No part of a path is a marker of an unfinished download. -/
def Unmarked (adapter : CompletedFolderAdapter) (table : CaseTable) (relPath : String) : Prop :=
  ∀ part ∈ (PurePath.ofString relPath).parts, adapter.rules.isMarker table part = false

instance : Decidable (adapter.Unmarked table relPath) :=
  inferInstanceAs (Decidable (∀ part ∈ (PurePath.ofString relPath).parts,
    adapter.rules.isMarker table part = false))

variable {path cur : PurePath} {parts rest : List String}

theorem checkParts_eq_ok_iff : adapter.checkParts table files path cur parts = .ok () ↔
    (∀ part ∈ parts, adapter.rules.isMarker table part = false) ∧
      LocalFolderAdapter.checkParts files path cur parts = .ok () := by
  induction parts generalizing cur with
  | nil => simp [checkParts, LocalFolderAdapter.checkParts]
  | cons part rest ih =>
      rw [checkParts, LocalFolderAdapter.checkParts, List.forall_mem_cons]
      cases marker : adapter.rules.isMarker table part with
      | true => simp
      | false =>
          cases link : isSymlink files (cur.child part) with
          | error fault => simp
          | ok linked =>
              cases linked with
              | true => simp
              | false => simpa using ih

/-- A path is taken where the local folder adapter takes it and no part of it is a marker. -/
theorem resolveUnchecked_eq_ok_iff : adapter.resolveUnchecked table files relPath = .ok src ↔
    adapter.Unmarked table relPath ∧ ∃ root, adapter.toLocal.Accepts files relPath root src := by
  simp only [resolveUnchecked, ite_throw_eq_ok_iff, bind_eq_ok_iff, mapError_eq_ok_iff]
  constructor
  · intro taken
    obtain ⟨given, root, resolved, _, checked, other, source, within, isDirectory, directory,
      holds, returned⟩ := taken
    cases returned
    obtain ⟨unmarked, unlinked⟩ := checkParts_eq_ok_iff.mp checked
    rw [not_or] at given
    rw [not_not] at within holds
    refine ⟨unmarked, root, ?_⟩
    constructor
    · exact given.1
    · exact not_not.mp given.2
    · exact resolved
    · exact unlinked
    · exact source
    · exact within
    · rw [directory, holds]
  · intro accepted
    obtain ⟨unmarked, root, accepts⟩ := accepted
    have checked := checkParts_eq_ok_iff.mpr ⟨unmarked, accepts.unlinked⟩
    refine ⟨?_, root, accepts.resolved, (), checked, src, accepts.source, ?_, true,
      accepts.directory, not_not.mpr rfl, rfl⟩
    · rw [not_or, not_not]
      exact ⟨accepts.nonempty, accepts.relative⟩
    · exact not_not.mpr accepts.within

theorem resolveSourceDir_eq_ok_iff : adapter.resolveSourceDir table early late relPath = .ok src ↔
    (adapter.Unmarked table relPath ∧
      ∃ root, adapter.toLocal.Accepts early.files relPath root src) ∧
      adapter.validateCompletedDir table early late src = .ok () := by
  simp only [resolveSourceDir, bind_eq_ok_iff, resolveUnchecked_eq_ok_iff]
  constructor
  · rintro ⟨other, taken, _, valid, returned⟩
    cases returned
    exact ⟨taken, valid⟩
  · rintro ⟨taken, valid⟩
    exact ⟨src, taken, (), valid, rfl⟩

/-- An id is accepted where its normal form is, but for the markers in it. -/
theorem normalizeCandidateId_eq_ok_iff :
    adapter.normalizeCandidateId table moment moment relPath = .ok normal ↔
      ∃ top rest, (adapter.Unmarked table relPath ∧
        adapter.toLocal.Accepts moment.files relPath ⟨"/", top⟩ ⟨"/", top ++ rest⟩) ∧
        adapter.validateCompletedDir table moment moment ⟨"/", top ++ rest⟩ = .ok () ∧
        PurePath.asPosix ⟨"", rest⟩ = normal := by
  have below : ∀ top rest,
      PurePath.relativeTo ⟨"/", top ++ rest⟩ ⟨"/", top⟩ = some ⟨"", rest⟩ := by
    intro top rest
    simp [PurePath.relativeTo, PurePath.isRelativeTo]
  simp only [normalizeCandidateId, bind_eq_ok_iff, resolveSourceDir_eq_ok_iff]
  constructor
  · intro normalized
    obtain ⟨src, ⟨⟨unmarked, other, accepts⟩, valid⟩, root, resolved, returned⟩ := normalized
    have same := accepts.resolved
    have again : resolve moment.files adapter.toLocal.ingestRoot = .ok root := resolved
    rw [again, Except.ok.injEq] at same
    obtain ⟨top, rest, _, _, rfl, rfl, _, _⟩ := accepts.place
    rw [same, below] at returned
    cases returned
    exact ⟨top, rest, ⟨unmarked, accepts⟩, valid, rfl⟩
  · intro normalized
    obtain ⟨top, rest, ⟨unmarked, accepts⟩, valid, rfl⟩ := normalized
    refine ⟨_, ⟨⟨unmarked, _, accepts⟩, valid⟩, _, accepts.resolved, ?_⟩
    rw [below]
    rfl

end CompletedFolderAdapter

end Mintarr.Ingest
