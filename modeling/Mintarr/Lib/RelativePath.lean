import Mintarr.Lib.FileTree

/-!
# Relative paths

`os.path.relpath` compares two paths as they are spelled, and looks at no file.  The same path may
resolve elsewhere, where a link is on the way.
-/

namespace Mintarr.Lib

/-! ## Names from one place to another -/

/-- `os.path.normpath`, of the parts of an absolute path behind some that are normal. -/
def normParts : List String → List String → List String
  | here, [] => here
  | here, part :: rest =>
      if part = ".." then normParts here.dropLast rest else normParts (here ++ [part]) rest

/-- How many names two lists have in common at their beginning. -/
def commonLength : List String → List String → Nat
  | first :: firsts, second :: seconds =>
      if first = second then commonLength firsts seconds + 1 else 0
  | _, _ => 0

/-- The parts of `os.path.relpath`, for normal absolute paths. -/
def relParts (start path : List String) : List String :=
  let common := commonLength start path
  List.replicate (start.length - common) ".." ++ path.drop common

variable {here start path parts rest : List String}

/-- Where nothing leads upwards, nothing changes. -/
theorem normParts_of_notMem (direct : ".." ∉ parts) : normParts here parts = here ++ parts := by
  induction parts generalizing here with
  | nil => rw [normParts, List.append_nil]
  | cons part parts ih =>
      rw [List.mem_cons, not_or] at direct
      rw [normParts, if_neg fun same => direct.1 same.symm, ih direct.2, List.append_assoc]
      rfl

theorem commonLength_append (start rest : List String) :
    commonLength start (start ++ rest) = start.length := by
  induction start with
  | nil => cases rest <;> rfl
  | cons first start ih =>
      rw [List.cons_append, commonLength, if_pos rfl, ih, List.length_cons]

theorem commonLength_lt (apart : ¬start <+: path) : commonLength start path < start.length := by
  induction start generalizing path with
  | nil => exact absurd List.nil_prefix apart
  | cons first start ih =>
      cases path with
      | nil => exact Nat.succ_pos _
      | cons second path =>
          rw [commonLength, List.length_cons]
          by_cases same : first = second
          · rw [if_pos same]
            apply Nat.succ_lt_succ
            apply ih
            intro within
            exact apart (same ▸ List.cons_prefix_cons.mpr ⟨rfl, within⟩)
          · rw [if_neg same]
            exact Nat.succ_pos _

/-- Below the start, the names behind it are left. -/
theorem relParts_append (start rest : List String) : relParts start (start ++ rest) = rest := by
  rw [relParts, commonLength_append, Nat.sub_self, List.drop_left]
  rfl

/-- From anywhere else, the way leads upwards first. -/
theorem relParts_of_apart (apart : ¬start <+: path) :
    ∃ rest, relParts start path = ".." :: rest := by
  have fewer := Nat.sub_pos_of_lt (commonLength_lt apart)
  obtain ⟨count, up⟩ := Nat.exists_eq_succ_of_ne_zero fewer.ne'
  rw [relParts, up, List.replicate_succ]
  exact ⟨_, rfl⟩

namespace PurePath

/-- The text of a relative path that leads upwards first begins with two dots. -/
theorem dots_asPosix (rest : List String) :
    "..".toList <+: (asPosix ⟨"", ".." :: rest⟩).toList := by
  have slash : "/".toList = ['/'] := rfl
  have text : asPosix ⟨"", ".." :: rest⟩ = "/".intercalate (".." :: rest) := by
    simp [asPosix]
  rw [text, String.toList_intercalate, slash, List.map_cons]
  cases rest with
  | nil => exact List.prefix_rfl
  | cons next rest =>
      rw [List.map_cons, List.intercalate_cons_cons]
      exact List.prefix_append _ _

/-- The text of a relative path does not begin with a slash. -/
theorem head_asPosix (plain : ∀ part ∈ parts, IsPart part) :
    (asPosix ⟨"", parts⟩).toList.head? ≠ some '/' := by
  cases parts with
  | nil =>
      have dot : (asPosix ⟨"", []⟩).toList.head? = some '.' := rfl
      rw [dot]
      decide
  | cons first rest =>
      have text : asPosix ⟨"", first :: rest⟩ = "/".intercalate (first :: rest) := by
        simp [asPosix]
      have part := plain first List.mem_cons_self
      obtain ⟨c, listed, begins⟩ := head_intercalate part.counts.1 rest
      rw [text, begins]
      intro slash
      cases slash
      exact part.single listed

end PurePath

/-! ## On a file system -/

namespace FileSystem

variable (files : FileSystem)

/-- The parts of `os.path.abspath`. -/
def abspath (path : PurePath) : List String := normParts [] (files.absolute path)

/-- `os.path.relpath`. -/
def relpath (path start : PurePath) : String :=
  PurePath.asPosix ⟨"", relParts (files.abspath start) (files.abspath path)⟩

variable {files} {names top : List String} {path : PurePath}

theorem abspath_of_direct (direct : ".." ∉ files.absolute path) :
    files.abspath path = files.absolute path := by
  rw [abspath, normParts_of_notMem direct, List.nil_append]

theorem absolute_of_rooted (rooted : path.root = "/") : files.absolute path = path.parts := by
  rw [absolute, rooted]
  rfl


theorem resolveParts_straight {jump : List String → List String → Option (List String)}
    (straight : Node.Straight files.tree (top ++ names)) :
    resolveParts files.linkAt jump top names = some (top ++ names) := by
  induction names generalizing top with
  | nil => rw [resolveParts, List.append_nil]
  | cons part rest ih =>
      have shape : top ++ part :: rest = top ++ [part] ++ rest := by simp
      have below : part ≠ ".." := by
        intro parent
        apply straight.noParent
        simp [parent]
      rw [shape] at straight ⊢
      have plain : files.linkAt (top ++ [part]) = none := by
        rw [Option.eq_none_iff_forall_ne_some]
        intro target link
        have above := straight.above (List.prefix_append (top ++ [part]) rest)
        rw [linkAt_concat (above.above (List.prefix_append _ _)) below] at link
        exact above.noLink _ List.prefix_rfl target link
      rw [resolveParts, if_neg below, plain]
      exact ih straight

/-- A straight place resolves to itself, whether there is something or not. -/
theorem resolve_straight (straight : Node.Straight files.tree names) :
    files.resolve ⟨"/", names⟩ = some ⟨"/", names⟩ := by
  have rooted : files.absolute ⟨"/", names⟩ = names := rfl
  rw [resolve, rooted]
  cases files.depth with
  | zero =>
      rw [realpath, @resolveParts_straight files names [] _ straight]
      rfl
  | succ depth =>
      rw [realpath, @resolveParts_straight files names [] _ straight]
      rfl

/-- What resolves is straight. -/
theorem straight_of_resolve {resolved : PurePath} (resolves : files.resolve path = some resolved) :
    resolved.root = "/" ∧ Node.Straight files.tree resolved.parts := by
  obtain ⟨names, walked, rfl⟩ := Option.map_eq_some_iff.mp resolves
  exact ⟨rfl, straight_realpath sound_root.straight walked⟩

/-- A path resolves as the place that it is spelled as. -/
theorem resolve_congr {other : PurePath} (same : files.absolute path = files.absolute other) :
    files.resolve path = files.resolve other := by
  rw [resolve, resolve, same]

/-- A path that is spelled above a straight place resolves as it is spelled. -/
theorem resolve_of_spelled (straight : Node.Straight files.tree names)
    (above : files.absolute path <+: names) :
    files.resolve path = some ⟨"/", files.absolute path⟩ := by
  have spelled : files.absolute path = files.absolute ⟨"/", files.absolute path⟩ := rfl
  rw [resolve_congr spelled]
  exact resolve_straight (straight.above above)

end FileSystem

end Mintarr.Lib
