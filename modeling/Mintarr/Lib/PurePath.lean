import Mintarr.Lib.Path

/-!
# Pure paths

A POSIX path as `pathlib` keeps it: the slashes it begins with, and its parts without those
that say nothing.
-/

namespace Mintarr.Lib

/-- `PurePosixPath`. -/
structure PurePath where
  root : String
  parts : List String
  deriving DecidableEq, Repr

namespace PurePath

/-- The parts of a text that count. -/
def partsOf (path : String) : List String :=
  (segments path).filter fun part => part ≠ "" && part ≠ "."

/-- The slashes that count at the beginning: two are not one, three are. -/
def rootOf (path : String) : String :=
  if ['/', '/', '/'].isPrefixOf path.toList then "/"
  else if ['/', '/'].isPrefixOf path.toList then "//"
  else if ['/'].isPrefixOf path.toList then "/"
  else ""

/-- `PurePosixPath(path)`. -/
def ofString (path : String) : PurePath where
  root := rootOf path
  parts := partsOf path

/-- `path / other`. -/
def joinpath (path other : PurePath) : PurePath :=
  if other.root ≠ "" then other else { path with parts := path.parts ++ other.parts }

/-- `path / name`, for one name. -/
def child (path : PurePath) (name : String) : PurePath :=
  { path with parts := path.parts ++ [name] }

/-- `path.as_posix()`. -/
def asPosix (path : PurePath) : String :=
  if path.root = "" && path.parts = [] then "." else path.root ++ "/".intercalate path.parts

/-- `path.is_relative_to(other)`. -/
def isRelativeTo (path other : PurePath) : Bool :=
  path.root = other.root && other.parts.isPrefixOf path.parts

/-- `path.relative_to(other)`; nothing where it raises. -/
def relativeTo (path other : PurePath) : Option PurePath :=
  if path.isRelativeTo other then some ⟨"", path.parts.drop other.parts.length⟩ else none

/-- `path.name`. -/
def name (path : PurePath) : String := path.parts.getLast?.getD ""

/-- A text without slashes is cut into itself. -/
theorem segments_of_notMem {part : String} (single : '/' ∉ part.toList) :
    segments part = [part] := by
  rw [segments, List.splitOn_eq_splitOnP, List.splitOnP_eq_singleton]
  · rw [List.map_singleton, String.ofList_toList]
  · intro char mem
    apply beq_false_of_ne
    intro same
    exact single (same ▸ mem)

/-- A part that counts. -/
structure IsPart (part : String) : Prop where
  counts : part ≠ "" ∧ part ≠ "."
  single : '/' ∉ part.toList

theorem isPart_of_mem_partsOf {path part : String} (listed : part ∈ partsOf path) :
    IsPart part := by
  obtain ⟨cut, counts⟩ := List.mem_filter.mp listed
  constructor
  · simpa using counts
  · exact slash_notMem_segment cut

/-- Parts with a slash between them are read back. -/
theorem segments_intercalate {parts : List String} (nonempty : parts ≠ [])
    (single : ∀ part ∈ parts, '/' ∉ part.toList) : segments ("/".intercalate parts) = parts := by
  have slash : "/".toList = ['/'] := rfl
  have cut : (['/'].intercalate (parts.map String.toList)).splitOn '/' =
      parts.map String.toList := by
    apply List.splitOn_intercalate
    · simpa using single
    · simpa using nonempty
  rw [segments, String.toList_intercalate, slash, cut, List.map_map]
  simp

/-- A text that does not begin with a slash is relative. -/
theorem rootOf_eq_empty {path : String} (relative : path.toList.head? ≠ some '/') :
    rootOf path = "" := by
  cases chars : path.toList with
  | nil => simp [rootOf, chars]
  | cons first rest =>
      have different : '/' ≠ first := by
        intro same
        apply relative
        rw [chars, same]
        rfl
      simp [rootOf, chars, List.isPrefixOf, different]

/-- The parts with slashes between them begin as the first one does. -/
theorem head_intercalate {first : String} (nonempty : first ≠ "") (rest : List String) :
    ∃ c ∈ first.toList, ("/".intercalate (first :: rest)).toList.head? = some c := by
  have slash : "/".toList = ['/'] := rfl
  cases chars : first.toList with
  | nil => exact absurd (String.toList_eq_nil_iff.mp chars) nonempty
  | cons c others =>
      refine ⟨c, List.mem_cons_self, ?_⟩
      rw [String.toList_intercalate, slash, List.map_cons, chars]
      cases rest with
      | nil => rfl
      | cons second rest =>
          rw [List.map_cons, List.intercalate_cons_cons]
          rfl

theorem asPosix_ne_empty {parts : List String} (plain : ∀ part ∈ parts, IsPart part) :
    asPosix ⟨"", parts⟩ ≠ "" := by
  cases parts with
  | nil => simp [asPosix]
  | cons first rest =>
      obtain ⟨c, _, begins⟩ := head_intercalate (plain first List.mem_cons_self).counts.1 rest
      intro empty
      have text : asPosix ⟨"", first :: rest⟩ = "/".intercalate (first :: rest) := by
        simp [asPosix]
      rw [← text, empty] at begins
      contradiction

/-- The text of a relative path is that path. -/
theorem ofString_asPosix {parts : List String} (plain : ∀ part ∈ parts, IsPart part) :
    ofString (asPosix ⟨"", parts⟩) = ⟨"", parts⟩ := by
  cases parts with
  | nil => rfl
  | cons first rest =>
      have text : asPosix ⟨"", first :: rest⟩ = "/".intercalate (first :: rest) := by
        simp [asPosix]
      have cut := @segments_intercalate (first :: rest) (List.cons_ne_nil first rest)
        fun part listed => (plain part listed).single
      have kept : partsOf ("/".intercalate (first :: rest)) = first :: rest := by
        rw [partsOf, cut, List.filter_eq_self]
        intro part listed
        have counts := (plain part listed).counts
        simp [counts.1, counts.2]
      have relative : rootOf ("/".intercalate (first :: rest)) = "" := by
        apply rootOf_eq_empty
        have part := plain first List.mem_cons_self
        obtain ⟨c, listed, begins⟩ := head_intercalate part.counts.1 rest
        intro slashed
        rw [begins, Option.some.injEq] at slashed
        exact part.single (slashed ▸ listed)
      rw [text, ofString, kept, relative]

/-- A name below is one part. -/
theorem ofString_of_notMem {part : String} (single : '/' ∉ part.toList)
    (plain : part ≠ "" ∧ part ≠ ".") : ofString part = ⟨"", [part]⟩ := by
  have root : rootOf part = "" := by
    apply rootOf_eq_empty
    intro begins
    exact single (List.mem_of_mem_head? begins)
  rw [ofString, root, partsOf, segments_of_notMem single]
  simp [plain.1, plain.2]

end PurePath

end Mintarr.Lib
