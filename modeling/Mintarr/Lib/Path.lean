import Mathlib.Data.List.Basic

/-!
# Paths as text

A POSIX path is cut at its slashes; `normpath` drops what does not count in it.
-/

namespace Mintarr.Lib

/-- `path.split("/")`. -/
def segments (path : String) : List String := (path.toList.splitOn '/').map String.ofList

theorem slash_notMem_splitOn {chars piece : List Char} (cut : piece ∈ chars.splitOn '/') :
    '/' ∉ piece := by
  rw [List.splitOn_eq_splitOnP] at cut
  induction chars generalizing piece with
  | nil =>
      rw [List.splitOnP_nil, List.mem_singleton] at cut
      simp [cut]
  | cons head tail ih =>
      rw [List.splitOnP_cons_eq_if_modifyHead] at cut
      split at cut
      · cases List.mem_cons.mp cut with
        | inl empty => simp [empty]
        | inr later => exact ih later
      · next other =>
          have different : '/' ≠ head := by
            intro same
            simp [← same] at other
          cases pieces : tail.splitOnP (· == '/') with
          | nil => simp [pieces] at cut
          | cons first rest =>
              rw [pieces, List.modifyHead_cons] at cut
              cases List.mem_cons.mp cut with
              | inl here =>
                  rw [here, List.mem_cons, not_or]
                  exact ⟨different, ih (by rw [pieces]; exact List.mem_cons_self)⟩
              | inr later =>
                  exact ih (by rw [pieces]; exact List.mem_cons_of_mem first later)

/-- A segment holds no slash. -/
theorem slash_notMem_segment {name part : String} (present : part ∈ segments name) :
    '/' ∉ part.toList := by
  obtain ⟨piece, cut, rfl⟩ := List.mem_map.mp present
  rw [String.toList_ofList]
  exact slash_notMem_splitOn cut

/-- The kept segments of a path, the last one first, as `os.path.normpath` keeps them. -/
def keptSegments (rooted : Bool) (kept : List String) (segment : String) : List String :=
  if segment = "" ∨ segment = "." then kept
  else if segment ≠ ".." ∨ (!rooted && kept = []) = true ∨ kept.head? = some ".." then
    segment :: kept
  else kept.drop 1

/-- `os.path.normpath`, of POSIX: two leading slashes stay two. -/
def normpath (path : String) : String :=
  let slashes :=
    match path.toList with
    | '/' :: '/' :: '/' :: _ => "/"
    | '/' :: '/' :: _ => "//"
    | '/' :: _ => "/"
    | _ => ""
  let kept := (segments path).foldl (keptSegments (slashes ≠ "")) []
  let normal := slashes ++ "/".intercalate kept.reverse
  if normal = "" then "." else normal

example : normpath "/music/./Artist//Album/../01.flac" = "/music/Artist/01.flac" := by rfl

end Mintarr.Lib
