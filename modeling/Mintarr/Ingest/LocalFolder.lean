import Mathlib.Data.List.Infix
import Mathlib.Data.List.Sort
import Mintarr.Lib.Casing
import Mintarr.Lib.Collect
import Mintarr.Lib.FileTree
import Mintarr.Lib.Lists

/-!
# Local folders

`LocalFolderAdapter` offers the albums two directories below its ingest root, and takes an offer
back by the path of its directory.  A search walks the root as it is spelled; an offer is named
from the root as it resolves.
-/

namespace Mintarr.Ingest

open Lib

/-! ## The adapter -/

/-- `LocalFolderAdapter`; the parts of the root are those that `Path` keeps. -/
structure LocalFolderAdapter where
  ingestRoot : PurePath
  plain : ∀ part ∈ ingestRoot.parts, PurePath.IsPart part

/-- `__init__`, with what `LOCAL_INGEST_PATH` is set to. -/
def LocalFolderAdapter.init (ingestRoot localIngestPath : Option String) : LocalFolderAdapter :=
  let root := (ingestRoot.filter (· ≠ "") <|> localIngestPath.filter (· ≠ "")).getD "/local-ingest"
  { ingestRoot := PurePath.ofString root
    plain := fun _ listed => PurePath.isPart_of_mem_partsOf listed }

/-- `ReleaseCandidate`. -/
structure ReleaseCandidate where
  sourceType : String
  sourceId : String
  title : String
  artist : String
  album : String
  year : Option Int
  qualityTag : String
  sizeBytes : Nat
  downloadUrl : String
  priority : Nat
  deriving DecidableEq, Repr

/-- What `search` builds. -/
def localCandidate (artist album : FileName) (rel : String) (total : Nat) : ReleaseCandidate where
  sourceType := "local"
  sourceId := rel
  title := s!"{artist.text} - {album.text} (FLAC) [Local]"
  artist := artist.text
  album := album.text
  year := none
  qualityTag := "FLAC"
  sizeBytes := total
  downloadUrl := s!"local:{rel}"
  priority := 30

/-- What `search` is asked for. -/
structure Query where
  query : String
  artist : String
  album : String

/-- Nothing is asked for. -/
def Query.blank (asked : Query) (table : CaseTable) : Bool :=
  table.lower asked.query.toList = [] && table.lower asked.artist.toList = [] &&
    table.lower asked.album.toList = []

/-- What the methods raise. -/
inductive Raised where
  | runtimeError (message : String)
  /-- The `RuntimeError` of `Path.resolve`, where links go round in a loop. -/
  | symlinkLoop
  /-- The `ValueError` of `Path.relative_to`. -/
  | valueError
  | osError (fault : Fault)
  deriving DecidableEq

/-! ## Looking at files -/

/-- What a place is; where nothing is found, it is nothing. -/
def test (is : Node → Bool) : Except Fault Node → Except Fault Bool
  | .ok node => .ok (is node)
  | .error .missing => .ok false
  | .error .denied => .error .denied

/-- `path.is_symlink()`. -/
def isSymlink (files : FileSystem) (path : PurePath) : Except Fault Bool :=
  test Node.isSymlink (files.lookup false path)

/-- `path.is_dir()`. -/
def isDir (files : FileSystem) (path : PurePath) : Except Fault Bool :=
  test Node.isDirectory (files.lookup true path)

/-- `path.is_file()`. -/
def isFile (files : FileSystem) (path : PurePath) : Except Fault Bool :=
  test Node.isFile (files.lookup true path)

/-- The names below in `path.iterdir()`. -/
def iterdir (files : FileSystem) (path : PurePath) : Except Fault (List FileName) :=
  (files.lookup true path).bind Node.list

/-- `path.stat().st_size`. -/
def stSize (files : FileSystem) (path : PurePath) : Except Fault Nat :=
  (files.lookup true path).map Node.size

/-- `path.resolve()`. -/
def resolve (files : FileSystem) (path : PurePath) : Except Raised PurePath :=
  match files.resolve path with
  | some resolved => .ok resolved
  | none => .error .symlinkLoop

/-- The names in `sorted(path.iterdir())`; none where it raises an `OSError`. -/
def listing (files : FileSystem) (path : PurePath) : List FileName :=
  match iterdir files path with
  | .ok names => names.insertionSort fun first second => first.text ≤ second.text
  | .error _ => []

/-- The suffix of a name: what is behind its last dot, with the dot. -/
def suffix (name : List Char) : List Char :=
  let extension := (name.reverse.takeWhile (· ≠ '.')).reverse
  if extension = [] || name.length ≤ extension.length + 1 then [] else '.' :: extension

/-- `needle` is in the lower case of `text`, if there is one. -/
def mentions (table : CaseTable) (needle text : String) : Bool :=
  let lower := table.lower needle.toList
  lower = [] ∨ lower <:+: table.lower text.toList

/-- Neither `path.is_symlink()` nor `not path.is_dir()`. -/
def isOwnDir (files : FileSystem) (path : PurePath) : Except Fault Bool := do
  if ← isSymlink files path then return false
  isDir files path

/-- What `flac_files` keeps. -/
def isFlac (files : FileSystem) (table : CaseTable) (file : PurePath) : Except Fault Bool := do
  if !(← isFile files file) then return false
  if ← isSymlink files file then return false
  return table.lower (suffix file.name.toList) = ".flac".toList

/-- The paths that `flac_files` keeps of some. -/
def flacAmong (files : FileSystem) (table : CaseTable) :
    List PurePath → Except Fault (List PurePath)
  | [] => .ok []
  | file :: rest => do
      let kept ← isFlac files table file
      let others ← flacAmong files table rest
      return if kept then file :: others else others

/-- `flac_files`. -/
def flacFiles (files : FileSystem) (table : CaseTable) (albumDir : PurePath) :
    Except Fault (List PurePath) := do
  let names ← iterdir files albumDir
  flacAmong files table (names.map fun name => albumDir.child name.text)

/-- The sizes of files together. -/
def totalSize (files : FileSystem) : List PurePath → Except Fault Nat
  | [] => .ok 0
  | file :: rest => do
      let size ← stSize files file
      let others ← totalSize files rest
      return size + others

namespace LocalFolderAdapter

variable (adapter : LocalFolderAdapter) (files : FileSystem) (table : CaseTable) (asked : Query)

/-- `is_enabled`. -/
def isEnabled : Except Fault Bool := isDir files adapter.ingestRoot

/-! ## Search -/

/-- `artist_dir`. -/
def artistDir (artist : FileName) : PurePath := adapter.ingestRoot.child artist.text

/-- `album_dir`. -/
def albumDir (artist album : FileName) : PurePath := (adapter.artistDir artist).child album.text

/-- The candidate for an album and its FLAC files. -/
def candidateOf (root : PurePath) (artist album : FileName) (flac : List PurePath) :
    Except Raised ReleaseCandidate :=
  match (adapter.albumDir artist album).relativeTo root, totalSize files flac with
  | none, _ => .error .valueError
  | some _, .error fault => .error (.osError fault)
  | some rel, .ok total => .ok (localCandidate artist album rel.asPosix total)

/-- The candidate, if there are FLAC files. -/
def offerOf (root : PurePath) (artist album : FileName) :
    Except Fault (List PurePath) → Except Raised (Option ReleaseCandidate)
  | .error _ => .ok none
  | .ok [] => .ok none
  | .ok (first :: rest) => (adapter.candidateOf files root artist album (first :: rest)).map some

/-- What the inner loop finds in an album; nothing where it continues. -/
def albumOffer (root : PurePath) (artist album : FileName) :
    Except Raised (Option ReleaseCandidate) :=
  match isOwnDir files (adapter.albumDir artist album) with
  | .error fault => .error (.osError fault)
  | .ok false => .ok none
  | .ok true =>
      if mentions table asked.album album.text &&
          mentions table asked.query (artist.text ++ " " ++ album.text) then
        adapter.offerOf files root artist album
          (flacFiles files table (adapter.albumDir artist album))
      else .ok none

/-- The body of the inner loop. -/
def visitAlbum (root : PurePath) (artist : FileName) (candidates : List ReleaseCandidate)
    (album : FileName) : Except (Ending Raised ReleaseCandidate) (List ReleaseCandidate) :=
  match adapter.albumOffer files table asked root artist album with
  | .error raised => .error (.raised raised)
  | .ok none => .ok candidates
  | .ok (some candidate) =>
      let candidates := candidates ++ [candidate]
      if 100 ≤ candidates.length then .error (.returned candidates) else .ok candidates

/-- The body of the outer loop. -/
def visitArtist (root : PurePath) (candidates : List ReleaseCandidate) (artist : FileName) :
    Except (Ending Raised ReleaseCandidate) (List ReleaseCandidate) :=
  match isOwnDir files (adapter.artistDir artist) with
  | .error fault => .error (.raised (.osError fault))
  | .ok false => .ok candidates
  | .ok true =>
      if mentions table asked.artist artist.text then
        (listing files (adapter.artistDir artist)).foldlM
          (adapter.visitAlbum files table asked root artist) candidates
      else .ok candidates

/-- `search`. -/
def search : Except Raised (List ReleaseCandidate) := do
  if !(← (adapter.isEnabled files).mapError .osError) then return []
  if asked.blank table then return []
  let root ← resolve files adapter.ingestRoot
  Ending.result ((listing files adapter.ingestRoot).foldlM
    (adapter.visitArtist files table asked root) [])

/-! ## Taking an offer back -/

/-- The loop over the parts of a path, which is below the root. -/
def checkParts (path : PurePath) : PurePath → List String → Except Raised Unit
  | _, [] => .ok ()
  | cur, part :: rest =>
      match isSymlink files (cur.child part) with
      | .error fault => .error (.osError fault)
      | .ok true => .error (.runtimeError s!"symlink blocked: {path.asPosix}")
      | .ok false => checkParts path (cur.child part) rest

/-- `resolve_source_dir`. -/
def resolveSourceDir (relPath : String) : Except Raised PurePath :=
  let path := PurePath.ofString relPath
  if relPath = "" ∨ path.root ≠ "" then throw (.runtimeError "local path must be relative")
  else do
    let root ← resolve files adapter.ingestRoot
    checkParts files path root path.parts
    let src ← resolve files (root.joinpath path)
    if ¬src.isRelativeTo root then throw (.runtimeError s!"path traversal blocked: {relPath}")
    else do
      let directory ← (isDir files src).mapError .osError
      if ¬directory then
        throw (.runtimeError s!"local source not a directory: {src.asPosix}")
      else return src

/-- `normalize_candidate_id`. -/
def normalizeCandidateId (relPath : String) : Except Raised String := do
  let src ← adapter.resolveSourceDir files relPath
  let root ← resolve files adapter.ingestRoot
  match src.relativeTo root with
  | some relative => return relative.asPosix
  | none => throw .valueError

/-! ## What is accepted -/

variable {adapter files} {relPath normal : String} {root src : PurePath}
  {top rest names : List String}

/-- What `resolve_source_dir` finds out about a path that it takes. -/
structure Accepts (adapter : LocalFolderAdapter) (files : FileSystem) (relPath : String)
    (root src : PurePath) : Prop where
  nonempty : relPath ≠ ""
  relative : (PurePath.ofString relPath).root = ""
  resolved : resolve files adapter.ingestRoot = .ok root
  unlinked : checkParts files (PurePath.ofString relPath) root (PurePath.ofString relPath).parts =
    .ok ()
  source : resolve files (root.joinpath (PurePath.ofString relPath)) = .ok src
  within : src.isRelativeTo root = true
  directory : isDir files src = .ok true

theorem mapError_eq_ok_iff {α : Type} {outcome : Except Fault α} {result : α} :
    outcome.mapError Raised.osError = .ok result ↔ outcome = .ok result := by
  cases outcome <;> simp [Except.mapError]

theorem resolve_eq_ok_iff {path : PurePath} :
    resolve files path = .ok src ↔ files.resolve path = some src := by
  rw [resolve]
  cases files.resolve path <;> simp

theorem resolveSourceDir_eq_ok_iff : adapter.resolveSourceDir files relPath = .ok src ↔
    ∃ root, Accepts adapter files relPath root src := by
  simp only [resolveSourceDir, ite_throw_eq_ok_iff, bind_eq_ok_iff, mapError_eq_ok_iff]
  constructor
  · intro taken
    obtain ⟨given, root, resolved, _, unlinked, other, source, within, isDirectory, directory,
      holds, returned⟩ := taken
    cases returned
    rw [not_or] at given
    rw [not_not] at within holds
    refine ⟨root, ?_⟩
    constructor
    · exact given.1
    · exact not_not.mp given.2
    · exact resolved
    · exact unlinked
    · exact source
    · exact within
    · rw [directory, holds]
  · intro accepted
    obtain ⟨root, accepts⟩ := accepted
    refine ⟨?_, root, accepts.resolved, (), accepts.unlinked, src, accepts.source, ?_, true,
      accepts.directory, not_not.mpr rfl, rfl⟩
    · rw [not_or, not_not]
      exact ⟨accepts.nonempty, accepts.relative⟩
    · exact not_not.mpr accepts.within

theorem directory_of_test {outcome : Except Fault Node}
    (directory : test Node.isDirectory outcome = .ok true) :
    ∃ access entries, outcome = .ok (.directory access entries) := by
  cases outcome with
  | error fault => cases fault <;> simp [test] at directory
  | ok node =>
      rw [test, Except.ok.injEq] at directory
      cases node with
      | directory access entries => exact ⟨access, entries, rfl⟩
      | file size => contradiction
      | special => contradiction
      | symlink target => contradiction

/-- What is taken is a directory below the root, at a place that no link leads to. -/
theorem Accepts.place (accepts : adapter.Accepts files relPath root src) :
    ∃ top rest access entries, root = ⟨"/", top⟩ ∧ src = ⟨"/", top ++ rest⟩ ∧
      Node.Straight files.tree (top ++ rest) ∧
      files.tree.find (top ++ rest) = .ok (.directory access entries) := by
  have resolved := resolve_eq_ok_iff.mp accepts.resolved
  have source := resolve_eq_ok_iff.mp accepts.source
  obtain ⟨top, _, rfl⟩ := Option.map_eq_some_iff.mp resolved
  obtain ⟨names, walked, rfl⟩ := Option.map_eq_some_iff.mp source
  have within : (⟨"/", names⟩ : PurePath).isRelativeTo ⟨"/", top⟩ = true := accepts.within
  rw [PurePath.isRelativeTo, Bool.and_eq_true, List.isPrefixOf_iff_prefix] at within
  obtain ⟨rest, rfl⟩ := within.2
  have straight := FileSystem.straight_realpath FileSystem.sound_root.straight walked
  have directory := accepts.directory
  rw [isDir, FileSystem.lookup_straight straight] at directory
  obtain ⟨access, entries, found⟩ := directory_of_test directory
  exact ⟨top, rest, access, entries, rfl, rfl, straight, found⟩

/-- What is found is named by parts. -/
theorem isPart_of_find {node : Node} (found : files.tree.find (top ++ rest) = .ok node) :
    ∀ part ∈ rest, PurePath.IsPart part := by
  intro part listed
  obtain ⟨name, rfl⟩ := Node.proper_of_find found part (List.mem_append_right top listed)
  exact ⟨name.proper.1, name.proper.2.2⟩

theorem isSymlink_sound (sound : Node.Sound files.tree names) :
    isSymlink files ⟨"/", names⟩ = .ok false := by
  rw [isSymlink, FileSystem.lookup_straight sound.straight]
  have there := sound.found
  cases found : files.tree.find names with
  | error fault =>
      rw [found] at there
      contradiction
  | ok node =>
      cases node with
      | symlink target => exact absurd found (sound.straight.noLink names List.prefix_rfl target)
      | file size => rfl
      | special => rfl
      | directory access entries => rfl

theorem checkParts_sound (path : PurePath) (sound : Node.Sound files.tree (top ++ rest)) :
    checkParts files path ⟨"/", top⟩ rest = .ok () := by
  induction rest generalizing top with
  | nil => rfl
  | cons part rest ih =>
      have shape : top ++ part :: rest = top ++ [part] ++ rest := by simp
      have child : (⟨"/", top⟩ : PurePath).child part = ⟨"/", top ++ [part]⟩ := rfl
      rw [shape] at sound
      rw [checkParts, child, isSymlink_sound (sound.above (List.prefix_append _ rest))]
      exact ih sound

/-- A directory below the root that no link leads to is taken by its path. -/
theorem accepts_asPosix {access : Access} {entries : List (FileName × Node)}
    (resolved : resolve files adapter.ingestRoot = .ok ⟨"/", top⟩)
    (straight : Node.Straight files.tree (top ++ rest))
    (found : files.tree.find (top ++ rest) = .ok (.directory access entries)) :
    adapter.Accepts files (PurePath.asPosix ⟨"", rest⟩) ⟨"/", top⟩ ⟨"/", top ++ rest⟩ := by
  have plain := isPart_of_find found
  have path := PurePath.ofString_asPosix plain
  have there : (files.tree.find (top ++ rest)).isOk = true := by
    rw [found]
    rfl
  constructor
  · exact PurePath.asPosix_ne_empty plain
  · rw [path]
  · exact resolved
  · rw [path]
    exact checkParts_sound _ ⟨straight, there⟩
  · rw [path, resolve_eq_ok_iff]
    exact (FileSystem.reaches_straight straight there).resolve
  · simp [PurePath.isRelativeTo]
  · rw [isDir, FileSystem.lookup_straight straight, found]
    rfl

theorem normalizeCandidateId_eq_ok_iff : adapter.normalizeCandidateId files relPath = .ok normal ↔
    ∃ top rest, adapter.Accepts files relPath ⟨"/", top⟩ ⟨"/", top ++ rest⟩ ∧
      PurePath.asPosix ⟨"", rest⟩ = normal := by
  have below : ∀ top rest,
      PurePath.relativeTo ⟨"/", top ++ rest⟩ ⟨"/", top⟩ = some ⟨"", rest⟩ := by
    intro top rest
    simp [PurePath.relativeTo, PurePath.isRelativeTo]
  simp only [normalizeCandidateId, bind_eq_ok_iff, resolveSourceDir_eq_ok_iff]
  constructor
  · intro normalized
    obtain ⟨src, taken, root, resolved, returned⟩ := normalized
    obtain ⟨other, accepts⟩ := taken
    have same := accepts.resolved
    rw [resolved, Except.ok.injEq] at same
    obtain ⟨top, rest, _, _, rfl, rfl, _, _⟩ := accepts.place
    rw [same, below] at returned
    cases returned
    exact ⟨top, rest, accepts, rfl⟩
  · intro normalized
    obtain ⟨top, rest, accepts, rfl⟩ := normalized
    refine ⟨_, ⟨_, accepts⟩, _, accepts.resolved, ?_⟩
    rw [below]
    rfl

/-- A normal form is its own normal form. -/
theorem normalizeCandidateId_idem
    (accepted : adapter.normalizeCandidateId files relPath = .ok normal) :
    adapter.normalizeCandidateId files normal = .ok normal := by
  obtain ⟨top, rest, accepts, rfl⟩ := normalizeCandidateId_eq_ok_iff.mp accepted
  obtain ⟨other, below, access, entries, root, src, straight, found⟩ := accepts.place
  cases root
  have same : rest = below := by simpa using src
  rw [← same] at straight found
  exact normalizeCandidateId_eq_ok_iff.mpr
    ⟨top, rest, accepts_asPosix accepts.resolved straight found, rfl⟩

end LocalFolderAdapter

end Mintarr.Ingest
