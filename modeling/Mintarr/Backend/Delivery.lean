import Mintarr.Backend.PathMap
import Mintarr.Ingest.CompletedFolder
import Mintarr.Lib.RelativePath

/-!
# From the backend to the copy

A reconcile pass hands a completed download over by its path below the download root.  The path is
computed from the root as it is spelled, and the copy job reads it below the root as it resolves.
-/

namespace Mintarr.Backend

open Lib Ingest

/-! ## The path of the job -/

/-- `Path(text).resolve()`. -/
def resolveText (files : FileSystem) (text : List Char) : Option PurePath :=
  files.resolve (PurePath.ofString (String.ofList text))

/-- `Path(download_root)`, which the copy job's adapter has as well. -/
def SabBackendClient.root (client : SabBackendClient) : PurePath :=
  PurePath.ofString (String.ofList client.downloadRoot)

/-- `rel` in `_start_backend_ingest`; nothing where the ingest is skipped. -/
def handedPath (files : FileSystem) (client : SabBackendClient) (completedPath : PurePath) :
    Option String :=
  if client.downloadRoot = [] then none
  else
    let rel := files.relpath completedPath client.root
    if rel = "" ∨ "..".toList <+: rel.toList ∨ rel.toList.head? = some '/' then none else some rel

/-! ## What arrives -/

/-- The root is spelled as it resolves. -/
def SpelledOut (files : FileSystem) (client : SabBackendClient) : Prop :=
  files.resolve client.root = some ⟨"/", files.absolute client.root⟩

/-- The first name of a path below the root does not begin with two dots. -/
def PlainBelow (files : FileSystem) (client : SabBackendClient) (completed : PurePath) : Prop :=
  ∀ rest, completed.parts = files.absolute client.root ++ rest →
    ¬"..".toList <+: (PurePath.asPosix ⟨"", rest⟩).toList

/-- A completed download is handed over just where the root is spelled out and the name below it is
plain, and what the copy job then copies is what the backend has reported. -/
structure Arrives (table : CaseTable) (files : FileSystem) (client : SabBackendClient)
    (completed : PurePath) : Prop where
  handed_iff : (∃ rel, handedPath files client completed = some rel) ↔
    SpelledOut files client ∧ PlainBelow files client completed
  copied : ∀ rel, handedPath files client completed = some rel →
    ∀ (adapter : CompletedFolderAdapter) (early late later : Moment)
      (copyFault : List String → Option Fault) (raw : RawDownload),
      adapter.downloadRoot = client.root →
      early.files.resolve client.root = files.resolve client.root →
      adapter.downloadRaw table early late later copyFault rel = .ok raw →
      ∃ root, Delivers table later.files root completed raw

variable {table : CaseTable} {files : FileSystem} {client : SabBackendClient}
  {completed root : PurePath} {rel : String} {top rest : List String}

/-- A completed path is one that resolves, strictly below what the root resolves to. -/
theorem contained_of_historyStatus {jid : String} {slot : HistorySlot}
    (ended : (historyStatus table (resolveText files) client jid slot).completedPath =
      some completed) :
    client.downloadRoot ≠ [] ∧ (∃ path, files.resolve path = some completed) ∧
      ∃ root, files.resolve client.root = some root ∧ StrictlyBelow root completed := by
  obtain ⟨root, resolved, below⟩ := completedPath_below ended
  rw [historyStatus] at ended
  split at ended
  · contradiction
  · dsimp only at ended
    split at ended
    · contradiction
    · next set =>
        refine ⟨set, ?_, root, resolved, below⟩
        rw [containedPath] at ended
        split at ended
        · next resolves =>
            split at ended
            · contradiction
            · split at ended
              · contradiction
              · cases ended
                exact ⟨_, resolves⟩
        · contradiction

theorem abspath_completed (straight : Node.Straight files.tree completed.parts)
    (rooted : completed.root = "/") : files.abspath completed = completed.parts := by
  have spelled := @FileSystem.absolute_of_rooted files completed rooted
  rw [FileSystem.abspath_of_direct (spelled.symm ▸ straight.noParent), spelled]

/-- What is handed over lies below the root as it is spelled. -/
theorem spelled_of_handedPath (direct : ".." ∉ files.absolute client.root)
    (straight : Node.Straight files.tree completed.parts) (rooted : completed.root = "/")
    (handed : handedPath files client completed = some rel) :
    ∃ rest, completed.parts = files.absolute client.root ++ rest ∧
      rel = PurePath.asPosix ⟨"", rest⟩ ∧ ¬"..".toList <+: rel.toList := by
  have start := FileSystem.abspath_of_direct direct
  have there := abspath_completed straight rooted
  rw [handedPath] at handed
  split at handed
  · contradiction
  · dsimp only at handed
    split at handed
    · contradiction
    · next taken =>
        obtain rfl := Option.some.inj handed
        rw [not_or, not_or] at taken
        by_cases below : files.absolute client.root <+: completed.parts
        · obtain ⟨rest, shape⟩ := below
          refine ⟨rest, shape.symm, ?_, taken.2.1⟩
          rw [FileSystem.relpath, start, there, ← shape, relParts_append]
        · obtain ⟨rest, up⟩ := relParts_of_apart below
          have dots := PurePath.dots_asPosix rest
          rw [← up, ← start, ← there] at dots
          exact absurd dots taken.2.1

/-- Where the check of its parts passes, a path below a straight place is straight. -/
theorem straight_of_checkParts {path : PurePath} (straight : Node.Straight files.tree top)
    (noParent : ".." ∉ rest)
    (checked : LocalFolderAdapter.checkParts files path ⟨"/", top⟩ rest = .ok ()) :
    Node.Straight files.tree (top ++ rest) := by
  induction rest generalizing top with
  | nil =>
      rw [List.append_nil]
      exact straight
  | cons part rest ih =>
      rw [List.mem_cons, not_or] at noParent
      have below : part ≠ ".." := fun same => noParent.1 same.symm
      have child : (⟨"/", top⟩ : PurePath).child part = ⟨"/", top ++ [part]⟩ := rfl
      rw [LocalFolderAdapter.checkParts, child] at checked
      have shape : top ++ part :: rest = top ++ [part] ++ rest := by simp
      rw [shape]
      cases link : isSymlink files ⟨"/", top ++ [part]⟩ with
      | error fault =>
          rw [link] at checked
          contradiction
      | ok linked =>
          rw [link] at checked
          cases linked with
          | true => contradiction
          | false =>
              apply ih _ noParent.2 checked
              apply straight.concat below
              intro target found
              rw [← FileSystem.linkAt_concat straight below, FileSystem.linkAt] at found
              rw [isSymlink] at link
              cases looked : files.lookup false ⟨"/", top ++ [part]⟩ with
              | error fault =>
                  rw [looked] at found
                  contradiction
              | ok node =>
                  rw [looked] at found link
                  cases node with
                  | symlink other => cases link
                  | file size => contradiction
                  | special => contradiction
                  | directory access entries => contradiction

/-- The adapter takes a path without `..` below its root from there and nowhere else, whatever the
tree is at that moment. -/
theorem source_of_accepts {adapter : LocalFolderAdapter} {relPath : String} {src : PurePath}
    (accepts : adapter.Accepts files relPath root src)
    (noParent : ".." ∉ (PurePath.ofString relPath).parts) :
    src = ⟨"/", root.parts ++ (PurePath.ofString relPath).parts⟩ := by
  obtain ⟨rooted, straight⟩ := FileSystem.straight_of_resolve
    (LocalFolderAdapter.resolve_eq_ok_iff.mp accepts.resolved)
  have whole : root = ⟨"/", root.parts⟩ := by
    rw [← rooted]
  have checked := accepts.unlinked
  rw [whole] at checked
  have there := FileSystem.resolve_straight (straight_of_checkParts straight noParent checked)
  have source := LocalFolderAdapter.resolve_eq_ok_iff.mp accepts.source
  have joined : root.joinpath (PurePath.ofString relPath) =
      ⟨"/", root.parts ++ (PurePath.ofString relPath).parts⟩ := by
    rw [PurePath.joinpath, accepts.relative, if_neg fun differs => differs rfl, ← rooted]
  rw [joined, there, Option.some.injEq] at source
  exact source.symm

/-- A client whose download root is `/done`. -/
def doneClient : SabBackendClient where
  downloadRoot := "/done".toList
  pathMap := none

/-- Below a root that is a link nothing is handed over. -/
example : handedPath LocalFolderAdapter.linkedRoot ⟨"/ingest".toList, none⟩
    ⟨"/", ["data", "Artist"]⟩ = none := by
  decide +kernel

end Mintarr.Backend
