import Mathlib.Data.List.Induction
import Mathlib.Data.List.Nodup
import Mintarr.Lib.Characters
import Mintarr.Lib.Registry

/-!
# Normalisation of a download

`.m4a` files are converted next to where they are, what is FLAC is tested, and the directory is
handed on with FLAC suffixes in lower case.  How each run of a tool goes is an argument.  Paths
are relative to the directory that is normalised and then moved.
-/

namespace Mintarr.Pipeline

open Lib

/-! ## Files -/

/-- A path below the directory, whose name `pathlib` cuts into stem and suffix. -/
structure FilePath where
  folder : List String
  stem : String
  suffix : String
  deriving DecidableEq, Repr

namespace FilePath

/-- `path.with_suffix(suffix)`. -/
def withSuffix (path : FilePath) (suffix : String) : FilePath := { path with suffix }

/-- `path.suffix.lower() == suffix`. -/
def hasSuffix (path : FilePath) (suffix : String) : Bool :=
  path.suffix.toList.map Char.toLower = suffix.toList

/-- `flac_path`, where a `.m4a` file is converted to. -/
def target (path : FilePath) : FilePath := path.withSuffix ".flac"

end FilePath

/-- A file.  The track it was made from, and whether `flac -t` succeeded on it, are kept beside
it; nobody reads them. -/
structure File where
  path : FilePath
  size : Nat
  track : FilePath
  passed : Bool

/-- The files of the directory. -/
abbrev Tree := Registry File File.path

/-- A download: every file is a track of its own that is not tested. -/
structure Raw where
  tree : Tree
  own : ∀ file ∈ tree.rows, file.track = file.path ∧ file.passed = false

/-- `_files_with_suffix`. -/
def filesWithSuffix (tree : Tree) (suffix : String) : List FilePath :=
  (tree.rows.map File.path).filter fun path => path.hasSuffix suffix

/-! ## Tools -/

/-- A run of `ffprobe` raises or prints something. -/
inductive Probe where
  | raises
  | reports (stdout : Option String)
  deriving DecidableEq

/-- A run of `ffmpeg`: where it does not return zero, it may have written some of the output. -/
inductive Ffmpeg where
  | succeeds (size : Nat)
  | fails (left : Option Nat)
  | raises (left : Option Nat)
  deriving DecidableEq

/-- A run of `flac -t`. -/
inductive FlacTest where
  | passes
  | fails
  | raises
  deriving DecidableEq

/-- How the tools behave: on a `.m4a` file and its conversion, and in the second loop on what is
at a path and was made from a track. -/
structure Tools where
  probe : FilePath → Probe
  copy : FilePath → Ffmpeg
  encode : FilePath → Ffmpeg
  testConverted : FilePath → FlacTest
  testDirect : (path track : FilePath) → FlacTest

namespace Ffmpeg

/-- The size of the output, if it was written. -/
def written : Ffmpeg → Option Nat
  | .succeeds size => some size
  | .fails left => left
  | .raises left => left

/-- Whether zero is returned; nothing if an exception is raised. -/
def returned : Ffmpeg → Option Bool
  | .succeeds _ => some true
  | .fails _ => some false
  | .raises _ => none

end Ffmpeg

/-! ## The loops -/

/-- `NormalizeStats`. -/
structure NormalizeStats where
  codecGateSkipped : Nat := 0
  conversionFailed : Nat := 0
  integrityFailed : Nat := 0
  deriving DecidableEq, Repr

/-- The directory and the counts; which tracks were counted, and which were overwritten by
another, is kept beside them. -/
structure State where
  tree : Tree
  stats : NormalizeStats := {}
  counted : List FilePath := []
  overwritten : List FilePath := []

namespace State

variable (state : State)

/-- `ffmpeg -y` writes over what is at the output. -/
def leave (track : FilePath) : Option Nat → State
  | none => state
  | some size =>
      { state with
        tree := (state.tree.remove track.target).add
          { path := track.target, size, track, passed := false }
        overwritten := state.overwritten ++
          ((state.tree.find? track.target).toList.map File.track).filter (· ≠ track) }

/-- `not flac_path.exists() or flac_path.stat().st_size < 1024`. -/
def tooSmall (path : FilePath) : Bool :=
  match state.tree.find? path with
  | none => true
  | some file => file.size < 1024

/-- `path.unlink`. -/
def unlink (path : FilePath) : State := { state with tree := state.tree.remove path }

def skip (track : FilePath) : State :=
  { state with
    stats := { state.stats with codecGateSkipped := state.stats.codecGateSkipped + 1 }
    counted := state.counted ++ [track] }

def failConversion (track : FilePath) : State :=
  { state with
    stats := { state.stats with conversionFailed := state.stats.conversionFailed + 1 }
    counted := state.counted ++ [track] }

def failIntegrity (track : FilePath) : State :=
  { state with
    stats := { state.stats with integrityFailed := state.stats.integrityFailed + 1 }
    counted := state.counted ++ [track] }

/-- `flac -t` has succeeded on a file. -/
def pass (path : FilePath) : State :=
  { state with tree := state.tree.modify path fun file => { file with passed := true } }

end State

/-- `codec in ("flac", "alac")`. -/
def losslessCodec (stdout : Option String) : Bool :=
  let codec := (Text.strip Text.isSpace (stdout.getD "").toList).map Char.toLower
  codec = "flac".toList || codec = "alac".toList

namespace Tools

variable (tools : Tools)

/-- The end of a conversion: the source goes, and the integrity gate. -/
def finish (state : State) (m : FilePath) : State :=
  match tools.testConverted m with
  | .passes => (state.unlink m).pass m.target
  | .fails => ((state.unlink m).failIntegrity m).unlink m.target
  | .raises => state.unlink m

/-- The conversion with `-c:a flac`. -/
def reencode (state : State) (m : FilePath) : State :=
  let left := state.leave m (tools.encode m).written
  match (tools.encode m).returned with
  | none => left
  | some false => left.failConversion m
  | some true => tools.finish left m

/-- The conversion with `-c:a copy`, and with `-c:a flac` where that fails. -/
def convert (state : State) (m : FilePath) : State :=
  let left := state.leave m (tools.copy m).written
  match (tools.copy m).returned with
  | none => left
  | some zero =>
      if !zero || left.tooSmall m.target then tools.reencode left m else tools.finish left m

/-- One `.m4a` file of the first loop of `normalize_audio`. -/
def convertFile (state : State) (m : FilePath) : State :=
  match tools.probe m with
  | .raises => state
  | .reports stdout =>
      if losslessCodec stdout then tools.convert state m else (state.skip m).unlink m

/-- The test of a file that was made from a track. -/
def testMadeFrom (state : State) (f track : FilePath) : State :=
  match tools.testDirect f track with
  | .passes => state.pass f
  | .fails => (state.failIntegrity track).unlink f
  | .raises => state

/-- One file of the second loop of `normalize_audio`. -/
def testFile (state : State) (f : FilePath) : State :=
  match state.tree.find? f with
  | none => state
  | some file => tools.testMadeFrom state f file.track

/-- `normalize_audio`, if no cancel stops it. -/
def normalizeAudio (tree : Tree) : State :=
  let converted := (filesWithSuffix tree ".m4a").foldl tools.convertFile { tree }
  (filesWithSuffix converted.tree ".flac").foldl tools.testFile converted

end Tools

/-- One file of `_normalize_flac_extensions`. -/
def normalizeFlacExtension (tree : Tree) (path : FilePath) : Tree :=
  if path.suffix = ".flac" then tree
  else if (tree.find? (path.withSuffix ".flac")).isSome then tree
  else
    match tree.find? path with
    | none => tree
    | some file => (tree.remove path).add { file with path := path.withSuffix ".flac" }

/-- `_normalize_flac_extensions`. -/
def normalizeFlacExtensions (tree : Tree) : Tree :=
  (filesWithSuffix tree ".flac").foldl normalizeFlacExtension tree

/-- The files of `prepare_output_directory`, wherever they are in the end. -/
def prepareOutputDirectory (tree : Tree) : Tree := normalizeFlacExtensions tree

/-! ## What is seen at a path -/

/-- The track of the file at a path, and whether the file passed. -/
def seen (tree : Tree) (path : FilePath) : Option (FilePath × Bool) :=
  (tree.find? path).map fun file => (file.track, file.passed)

theorem seen_remove {tree : Tree} {wanted path : FilePath} :
    seen (tree.remove wanted) path = if path = wanted then none else seen tree path := by
  rw [seen, Registry.find?_remove]
  split
  · rfl
  · rfl

theorem seen_modify {tree : Tree} {wanted path : FilePath} :
    seen (tree.modify wanted fun file => { file with passed := true }) path =
      if path = wanted then (seen tree path).map fun entry => (entry.1, true)
      else seen tree path := by
  rw [seen, Registry.find?_modify]
  split
  · rw [seen, Option.map_map, Option.map_map]
    rfl
  · rfl

/-- A file that replaces what was at its path. -/
theorem find?_replace {tree : Tree} {file : File} {wanted path : FilePath}
    (here : file.path = wanted) :
    ((tree.remove wanted).add file).find? path =
      if path = wanted then some file else tree.find? path := by
  subst here
  rw [Registry.find?_add (by rw [Registry.find?_remove, if_pos rfl]), Registry.find?_remove]
  split
  · rfl
  · rfl

namespace State

variable {state : State} {m path : FilePath}

@[simp] theorem seen_unlink : seen (state.unlink m).tree path =
    if path = m then none else seen state.tree path := seen_remove

@[simp] theorem seen_pass : seen (state.pass m).tree path =
    if path = m then (seen state.tree path).map fun entry => (entry.1, true)
    else seen state.tree path := seen_modify

@[simp] theorem tree_skip : (state.skip m).tree = state.tree := rfl

@[simp] theorem tree_failConversion : (state.failConversion m).tree = state.tree := rfl

@[simp] theorem tree_failIntegrity : (state.failIntegrity m).tree = state.tree := rfl

@[simp] theorem counted_unlink : (state.unlink m).counted = state.counted := rfl

@[simp] theorem counted_pass : (state.pass m).counted = state.counted := rfl

@[simp] theorem counted_skip : (state.skip m).counted = state.counted ++ [m] := rfl

@[simp] theorem counted_failConversion :
    (state.failConversion m).counted = state.counted ++ [m] := rfl

@[simp] theorem counted_failIntegrity :
    (state.failIntegrity m).counted = state.counted ++ [m] := rfl

@[simp] theorem overwritten_unlink : (state.unlink m).overwritten = state.overwritten := rfl

@[simp] theorem overwritten_pass : (state.pass m).overwritten = state.overwritten := rfl

@[simp] theorem overwritten_skip : (state.skip m).overwritten = state.overwritten := rfl

@[simp] theorem overwritten_failConversion :
    (state.failConversion m).overwritten = state.overwritten := rfl

@[simp] theorem overwritten_failIntegrity :
    (state.failIntegrity m).overwritten = state.overwritten := rfl

theorem find?_leave {size : Nat} : (state.leave m (some size)).tree.find? path =
    if path = m.target then some { path := m.target, size, track := m, passed := false }
    else state.tree.find? path :=
  find?_replace rfl

theorem seen_leave {left : Option Nat} : seen (state.leave m left).tree path =
    if path = m.target ∧ left.isSome = true then some (m, false) else seen state.tree path := by
  cases left with
  | none => simp [leave]
  | some size =>
      rw [seen, find?_leave]
      by_cases here : path = m.target
      · simp [here]
      · simp [here, seen]

@[simp] theorem counted_leave {left : Option Nat} :
    (state.leave m left).counted = state.counted := by
  cases left with
  | none => rfl
  | some size => rfl

/-- What is written over is a track that was there, and another one. -/
theorem mem_overwritten_leave {left : Option Nat} {track : FilePath}
    (mem : track ∈ (state.leave m left).overwritten) :
    track ∈ state.overwritten ∨
      left.isSome = true ∧ ∃ passed, seen state.tree m.target = some (track, passed) ∧
        track ≠ m := by
  cases left with
  | none => exact .inl mem
  | some size =>
      cases List.mem_append.mp mem with
      | inl before => exact .inl before
      | inr here =>
          right
          rw [List.mem_filter, List.mem_map] at here
          obtain ⟨⟨file, found, rfl⟩, different⟩ := here
          rw [Option.mem_toList] at found
          refine ⟨rfl, file.passed, ?_, by simpa using different⟩
          rw [seen, found]
          rfl

theorem tooSmall_leave {size : Nat} :
    (state.leave m (some size)).tooSmall m.target = decide (size < 1024) := by
  rw [tooSmall, find?_leave, if_pos rfl]

end State

/-! ## What a conversion comes to -/

namespace Tools

variable (tools : Tools)

/-- The probe reports a lossless codec. -/
def lossless (m : FilePath) : Bool :=
  match tools.probe m with
  | .raises => false
  | .reports stdout => losslessCodec stdout

/-- The probe reports another codec. -/
def refuses (m : FilePath) : Bool :=
  match tools.probe m with
  | .raises => false
  | .reports stdout => !losslessCodec stdout

/-- The first conversion returns without the output it should have. -/
def reencodes (m : FilePath) : Bool :=
  match tools.copy m with
  | .succeeds size => size < 1024
  | .fails _ => true
  | .raises _ => false

/-- The first conversion is enough. -/
def copies (m : FilePath) : Bool :=
  match tools.copy m with
  | .succeeds size => 1024 ≤ size
  | .fails _ => false
  | .raises _ => false

/-- Something is written over the output. -/
def writes (m : FilePath) : Bool :=
  tools.lossless m &&
    ((tools.copy m).written.isSome || tools.reencodes m && (tools.encode m).written.isSome)

/-- The file is converted. -/
def converts (m : FilePath) : Bool :=
  tools.lossless m &&
    (tools.copies m || tools.reencodes m && (tools.encode m).returned = some true)

/-- Both conversions return without success. -/
def failsConversion (m : FilePath) : Bool :=
  tools.lossless m && tools.reencodes m && (tools.encode m).returned = some false

/-- The file is converted, and the conversion is bad. -/
def failsIntegrity (m : FilePath) : Bool := tools.converts m && tools.testConverted m = .fails

/-- The file is converted, and the conversion is good. -/
def passes (m : FilePath) : Bool := tools.converts m && tools.testConverted m = .passes

/-- The first loop counts the file. -/
def counts (m : FilePath) : Bool :=
  tools.refuses m || tools.failsConversion m || tools.failsIntegrity m

variable {tools} {state : State} {m path : FilePath}

theorem seen_finish (differs : m.target ≠ m) :
    seen (tools.finish state m).tree path =
      if path = m.target then
        match tools.testConverted m with
        | .passes => (seen state.tree path).map fun entry => (entry.1, true)
        | .fails => none
        | .raises => seen state.tree path
      else if path = m then none else seen state.tree path := by
  rw [finish]
  by_cases here : path = m.target
  · subst here
    cases tools.testConverted m with
    | passes => simp [differs]
    | fails => simp
    | raises => simp [differs]
  · cases tools.testConverted m with
    | passes => simp [here]
    | fails => simp [here]
    | raises => simp [here]

theorem counted_finish : (tools.finish state m).counted =
    state.counted ++ if tools.testConverted m = .fails then [m] else [] := by
  rw [finish]
  cases tools.testConverted m with
  | passes => simp
  | fails => simp
  | raises => simp

theorem overwritten_finish : (tools.finish state m).overwritten = state.overwritten := by
  rw [finish]
  cases tools.testConverted m with
  | passes => rfl
  | fails => rfl
  | raises => rfl

/-- What a conversion leaves at its output once it has been tested. -/
def tested (tools : Tools) (m : FilePath) : Option (FilePath × Bool) :=
  match tools.testConverted m with
  | .passes => some (m, true)
  | .fails => none
  | .raises => some (m, false)

theorem seen_finish_leave (differs : m.target ≠ m) {size : Nat} :
    seen (tools.finish (state.leave m (some size)) m).tree path =
      if path = m.target then tools.tested m
      else if path = m then none
      else seen state.tree path := by
  rw [seen_finish differs]
  by_cases here : path = m.target
  · simp only [here, if_true, State.seen_leave, tested, Option.isSome_some, and_true]
    cases tools.testConverted m with
    | passes => rfl
    | fails => rfl
    | raises => rfl
  · simp [here, State.seen_leave]

theorem seen_reencode (differs : m.target ≠ m) :
    seen (tools.reencode state m).tree path =
      if path = m.target ∧ (tools.encode m).written.isSome = true then
        if (tools.encode m).returned = some true then tools.tested m else some (m, false)
      else if path = m ∧ (tools.encode m).returned = some true then none
      else seen state.tree path := by
  rw [reencode]
  cases tools.encode m with
  | succeeds size =>
      simp only [Ffmpeg.written, Ffmpeg.returned, seen_finish_leave differs]
      simp
  | fails left =>
      simp only [Ffmpeg.written, Ffmpeg.returned, State.tree_failConversion, State.seen_leave]
      simp
  | raises left =>
      simp only [Ffmpeg.written, Ffmpeg.returned, State.seen_leave]
      simp

/-- What the file at the output of a conversion is seen as. -/
def outcome (tools : Tools) (m : FilePath) : Option (FilePath × Bool) :=
  if tools.converts m then tools.tested m else some (m, false)

theorem written_of_returned {run : Ffmpeg} (zero : run.returned = some true) :
    run.written.isSome = true := by
  cases run with
  | succeeds size => rfl
  | fails left => cases zero
  | raises left => cases zero

theorem convert_of_copies (copies : tools.copies m = true) :
    ∃ size, (tools.copy m).written = some size ∧
      tools.convert state m = tools.finish (state.leave m (some size)) m := by
  rw [Tools.copies] at copies
  rw [convert]
  cases copied : tools.copy m with
  | succeeds size =>
      rw [copied] at copies
      have large : ¬ size < 1024 := by simpa using copies
      refine ⟨size, rfl, ?_⟩
      simp only [Ffmpeg.written, Ffmpeg.returned, State.tooSmall_leave, large]
      rfl
  | fails left =>
      rw [copied] at copies
      cases copies
  | raises left =>
      rw [copied] at copies
      cases copies

theorem convert_of_reencodes (reencodes : tools.reencodes m = true) :
    tools.convert state m = tools.reencode (state.leave m (tools.copy m).written) m := by
  rw [Tools.reencodes] at reencodes
  rw [convert]
  cases copied : tools.copy m with
  | succeeds size =>
      rw [copied] at reencodes
      simp only [Ffmpeg.written, Ffmpeg.returned, State.tooSmall_leave, reencodes]
      rfl
  | fails left => rfl
  | raises left =>
      rw [copied] at reencodes
      cases reencodes

theorem convert_of_raises {left : Option Nat} (raises : tools.copy m = .raises left) :
    tools.convert state m = state.leave m left := by
  rw [convert, raises]
  rfl

/-- The ways the first conversion goes. -/
theorem copy_cases (tools : Tools) (m : FilePath) :
    (tools.copies m = true ∧ tools.reencodes m = false) ∨
      (tools.copies m = false ∧ tools.reencodes m = true) ∨
      (tools.copies m = false ∧ tools.reencodes m = false ∧
        ∃ left, tools.copy m = .raises left) := by
  rw [copies, reencodes]
  cases tools.copy m with
  | succeeds size =>
      by_cases small : size < 1024
      · right
        left
        simp [small]
      · left
        simp [small, Nat.le_of_not_lt small]
  | fails left => exact .inr (.inl ⟨rfl, rfl⟩)
  | raises left => exact .inr (.inr ⟨rfl, rfl, left, rfl⟩)

theorem seen_convert (differs : m.target ≠ m) (lossless : tools.lossless m = true) :
    seen (tools.convert state m).tree path =
      if path = m.target ∧ tools.writes m = true then tools.outcome m
      else if path = m ∧ tools.converts m = true then none
      else seen state.tree path := by
  rcases copy_cases tools m with ⟨copies, reencodes⟩ | ⟨copies, reencodes⟩ |
    ⟨copies, reencodes, left, raises⟩
  · obtain ⟨size, written, converted⟩ := @convert_of_copies tools state m copies
    rw [converted, seen_finish_leave differs]
    simp [writes, converts, outcome, lossless, copies, written]
  · rw [convert_of_reencodes reencodes, seen_reencode differs, State.seen_leave]
    simp only [writes, converts, outcome, lossless, copies, reencodes, Bool.true_and,
      Bool.false_or, Bool.or_eq_true, decide_eq_true_eq]
    by_cases zero : (tools.encode m).returned = some true
    · by_cases here : path = m.target
      · simp [zero, written_of_returned zero, here]
      · simp [zero, written_of_returned zero, here]
    · by_cases here : path = m.target
      · by_cases encoded : (tools.encode m).written.isSome = true
        · simp [zero, here, encoded]
        · simp [zero, here, encoded]
      · simp [zero, here]
  · rw [convert_of_raises raises, State.seen_leave]
    simp [writes, converts, outcome, lossless, copies, reencodes, raises, Ffmpeg.written]

/-- What one file of the first loop does to what is seen. -/
theorem seen_convertFile (differs : m.target ≠ m) :
    seen (tools.convertFile state m).tree path =
      if path = m.target ∧ tools.writes m = true then tools.outcome m
      else if path = m ∧ (tools.refuses m = true ∨ tools.converts m = true) then none
      else seen state.tree path := by
  rw [convertFile]
  cases probed : tools.probe m with
  | raises =>
      have lossless : tools.lossless m = false := by rw [Tools.lossless, probed]
      have refuses : tools.refuses m = false := by rw [Tools.refuses, probed]
      simp [writes, converts, lossless, refuses]
  | reports stdout =>
      by_cases codec : losslessCodec stdout = true
      · have lossless : tools.lossless m = true := by simp [Tools.lossless, probed, codec]
        have refuses : tools.refuses m = false := by simp [Tools.refuses, probed, codec]
        simp only [codec, if_true]
        rw [seen_convert differs lossless]
        simp [refuses]
      · have lossless : tools.lossless m = false := by simp [Tools.lossless, probed, codec]
        have refuses : tools.refuses m = true := by simp [Tools.refuses, probed, codec]
        simp [codec, writes, converts, lossless, refuses]

theorem counted_reencode : (tools.reencode state m).counted = state.counted ++
    if (tools.encode m).returned = some false ∨
      (tools.encode m).returned = some true ∧ tools.testConverted m = .fails then [m] else [] := by
  rw [reencode]
  cases tools.encode m with
  | succeeds size =>
      simp only [Ffmpeg.written, Ffmpeg.returned, counted_finish, State.counted_leave]
      simp
  | fails left => simp [Ffmpeg.written, Ffmpeg.returned]
  | raises left => simp [Ffmpeg.written, Ffmpeg.returned]

/-- One file of the first loop is counted as it deserves. -/
theorem counted_convertFile : (tools.convertFile state m).counted =
    state.counted ++ if tools.counts m = true then [m] else [] := by
  rw [convertFile, counts, failsConversion, failsIntegrity, converts]
  cases probed : tools.probe m with
  | raises =>
      have lossless : tools.lossless m = false := by simp [Tools.lossless, probed]
      have refuses : tools.refuses m = false := by simp [Tools.refuses, probed]
      simp [lossless, refuses]
  | reports stdout =>
      by_cases codec : losslessCodec stdout = true
      · have lossless : tools.lossless m = true := by simp [Tools.lossless, probed, codec]
        have refuses : tools.refuses m = false := by simp [Tools.refuses, probed, codec]
        simp only [codec, if_true]
        rcases copy_cases tools m with ⟨copies, reencodes⟩ | ⟨copies, reencodes⟩ |
          ⟨copies, reencodes, left, raises⟩
        · obtain ⟨size, written, converted⟩ := @convert_of_copies tools state m copies
          rw [converted, counted_finish, State.counted_leave]
          simp [lossless, refuses, copies, reencodes]
        · rw [convert_of_reencodes reencodes, counted_reencode, State.counted_leave]
          simp [lossless, refuses, copies, reencodes]
        · rw [convert_of_raises raises, State.counted_leave]
          simp [lossless, refuses, copies, reencodes]
      · have lossless : tools.lossless m = false := by simp [Tools.lossless, probed, codec]
        have refuses : tools.refuses m = true := by simp [Tools.refuses, probed, codec]
        simp [codec, lossless, refuses]

theorem overwritten_reencode : (tools.reencode state m).overwritten =
    (state.leave m (tools.encode m).written).overwritten := by
  rw [reencode]
  cases tools.encode m with
  | succeeds size => exact overwritten_finish
  | fails left => rfl
  | raises left => rfl

/-- A second run of `ffmpeg` writes over what the first has left, or over what was there. -/
theorem mem_overwritten_leave_leave {track : FilePath} {first second : Option Nat}
    (mem : track ∈ ((state.leave m first).leave m second).overwritten) :
    track ∈ state.overwritten ∨
      (first.isSome = true ∨ second.isSome = true) ∧
        ∃ passed, seen state.tree m.target = some (track, passed) ∧ track ≠ m := by
  rcases State.mem_overwritten_leave mem with before | ⟨wrote, passed, was, other⟩
  · rcases State.mem_overwritten_leave before with earlier | ⟨wrote, rest⟩
    · exact .inl earlier
    · exact .inr ⟨.inl wrote, rest⟩
  · rw [State.seen_leave] at was
    split at was
    · cases was
      exact absurd rfl other
    · exact .inr ⟨.inr wrote, passed, was, other⟩

/-- What one file of the first loop writes over was seen before. -/
theorem mem_overwritten_convertFile {track : FilePath}
    (mem : track ∈ (tools.convertFile state m).overwritten) :
    track ∈ state.overwritten ∨
      tools.writes m = true ∧ ∃ passed, seen state.tree m.target = some (track, passed) ∧
        track ≠ m := by
  rw [convertFile] at mem
  cases probed : tools.probe m with
  | raises =>
      rw [probed] at mem
      exact .inl mem
  | reports stdout =>
      rw [probed] at mem
      by_cases codec : losslessCodec stdout = true
      · have lossless : tools.lossless m = true := by simp [Tools.lossless, probed, codec]
        simp only [codec, if_true] at mem
        rw [writes, lossless, Bool.true_and, Bool.or_eq_true]
        rcases copy_cases tools m with ⟨copies, reencodes⟩ | ⟨copies, reencodes⟩ |
          ⟨copies, reencodes, left, raises⟩
        · obtain ⟨size, written, converted⟩ := @convert_of_copies tools state m copies
          rw [converted, overwritten_finish] at mem
          rcases State.mem_overwritten_leave mem with before | ⟨wrote, rest⟩
          · exact .inl before
          · exact .inr ⟨.inl (written ▸ rfl), rest⟩
        · rw [convert_of_reencodes reencodes, overwritten_reencode] at mem
          rcases mem_overwritten_leave_leave mem with before | ⟨wrote, rest⟩
          · exact .inl before
          · exact .inr ⟨by simpa [reencodes] using wrote, rest⟩
        · rw [convert_of_raises raises] at mem
          rcases State.mem_overwritten_leave mem with before | ⟨wrote, rest⟩
          · exact .inl before
          · exact .inr ⟨.inl (by rw [raises]; exact wrote), rest⟩
      · simp only [codec] at mem
        exact .inl mem

end Tools

/-! ## The first loop -/

namespace FilePath

theorem hasSuffix_target (path : FilePath) : path.target.hasSuffix ".flac" = true := by
  change decide (".flac".toList.map Char.toLower = ".flac".toList) = true
  decide

/-- A suffix is one of the two at most. -/
theorem not_flac_of_m4a {path : FilePath} (m4a : path.hasSuffix ".m4a" = true) :
    path.hasSuffix ".flac" = false := by
  have lower : path.suffix.toList.map Char.toLower = ".m4a".toList := of_decide_eq_true m4a
  rw [hasSuffix, lower]
  decide

theorem target_ne {path : FilePath} (m4a : path.hasSuffix ".m4a" = true) : path.target ≠ path := by
  intro same
  have flac := hasSuffix_target path
  rw [same, not_flac_of_m4a m4a] at flac
  cases flac

end FilePath

namespace Tools

variable {tools : Tools} {state : State} {path : FilePath} {files : List FilePath}

/-- The last of some files that writes to a path. -/
def lastWriter (tools : Tools) (files : List FilePath) (path : FilePath) : Option FilePath :=
  (files.filter fun m => m.target = path && tools.writes m).getLast?

theorem lastWriter_append (m : FilePath) : tools.lastWriter (files ++ [m]) path =
    if path = m.target ∧ tools.writes m = true then some m
    else tools.lastWriter files path := by
  rw [lastWriter, List.filter_append]
  by_cases writes : m.target = path ∧ tools.writes m = true
  · simp [writes, eq_comm]
  · have none : (m.target = path && tools.writes m) = false := by
      simpa using writes
    rw [List.filter_cons_of_neg (by simp [none]), List.filter_nil, List.append_nil, if_neg]
    · rfl
    · intro both
      exact writes ⟨both.1.symm, both.2⟩

theorem lastWriter_eq_some {m : FilePath} (last : tools.lastWriter files path = some m) :
    m ∈ files ∧ m.target = path ∧ tools.writes m = true := by
  have mem := List.mem_filter.mp (List.mem_of_getLast? last)
  simpa using mem

/-- At a FLAC path is seen what the last writer has come to. -/
theorem seen_convertFiles (m4a : ∀ m ∈ files, m.hasSuffix ".m4a" = true)
    (flac : path.hasSuffix ".flac" = true) :
    seen (files.foldl tools.convertFile state).tree path =
      match tools.lastWriter files path with
      | none => seen state.tree path
      | some m => tools.outcome m := by
  induction files using List.reverseRecOn with
  | nil => rfl
  | append_singleton files m ih =>
      have suffix : m.hasSuffix ".m4a" = true := m4a m (by simp)
      rw [List.foldl_concat, seen_convertFile (FilePath.target_ne suffix), lastWriter_append]
      by_cases writes : path = m.target ∧ tools.writes m = true
      · rw [if_pos writes, if_pos writes]
      · have other : path ≠ m := by
          intro same
          rw [same, FilePath.not_flac_of_m4a suffix] at flac
          cases flac
        rw [if_neg writes, if_neg writes, if_neg (fun both => other both.1)]
        exact ih fun other mem => m4a other (by simp [mem])

/-- A `.m4a` file goes where it is refused or converted. -/
theorem seen_convertFiles_m4a (m4a : ∀ m ∈ files, m.hasSuffix ".m4a" = true)
    (suffix : path.hasSuffix ".m4a" = true) :
    seen (files.foldl tools.convertFile state).tree path =
      if path ∈ files ∧ (tools.refuses path = true ∨ tools.converts path = true) then none
      else seen state.tree path := by
  induction files using List.reverseRecOn with
  | nil => simp
  | append_singleton files m ih =>
      have kind : m.hasSuffix ".m4a" = true := m4a m (by simp)
      have other : path ≠ m.target := by
        intro same
        have flac := FilePath.hasSuffix_target m
        rw [← same, FilePath.not_flac_of_m4a suffix] at flac
        cases flac
      rw [List.foldl_concat, seen_convertFile (FilePath.target_ne kind),
        if_neg (fun both => other both.1), ih fun other mem => m4a other (by simp [mem])]
      by_cases here : path = m
      · subst here
        by_cases gone : tools.refuses path = true ∨ tools.converts path = true
        · simp [gone]
        · simp [gone]
      · simp [here]

theorem counted_convertFiles : (files.foldl tools.convertFile state).counted =
    state.counted ++ files.filter tools.counts := by
  induction files using List.reverseRecOn with
  | nil => simp
  | append_singleton files m ih =>
      rw [List.foldl_concat, counted_convertFile, ih, List.filter_append, List.append_assoc]
      by_cases counts : tools.counts m = true
      · simp [counts]
      · simp [counts]

/-- What is overwritten in the first loop was there before, or was written by an earlier file. -/
theorem mem_overwritten_convertFiles {track : FilePath}
    (m4a : ∀ m ∈ files, m.hasSuffix ".m4a" = true)
    (mem : track ∈ (files.foldl tools.convertFile state).overwritten) :
    track ∈ state.overwritten ∨
      ∃ before m after passed, files = before ++ m :: after ∧ tools.writes m = true ∧
        seen (before.foldl tools.convertFile state).tree m.target = some (track, passed) ∧
        track ≠ m := by
  induction files using List.reverseRecOn with
  | nil => exact .inl mem
  | append_singleton files m ih =>
      rw [List.foldl_concat] at mem
      rcases mem_overwritten_convertFile mem with earlier | ⟨writes, passed, was, other⟩
      · rcases ih (fun other mem => m4a other (by simp [mem])) earlier with
          start | ⟨before, m', after, passed, split, rest⟩
        · exact .inl start
        · right
          refine ⟨before, m', after ++ [m], passed, ?_, rest⟩
          rw [split]
          simp
      · exact .inr ⟨files, m, [], passed, rfl, writes, was, other⟩

end Tools

/-! ## The second loop -/

theorem mem_filesWithSuffix {tree : Tree} {path : FilePath} {suffix : String} :
    path ∈ filesWithSuffix tree suffix ↔
      path.hasSuffix suffix = true ∧ (seen tree path).isSome = true := by
  rw [filesWithSuffix, List.mem_filter, seen, Option.isSome_map, and_comm]
  apply and_congr_right
  intro _
  constructor
  · intro listed
    cases found : tree.find? path with
    | none => exact absurd listed (Registry.find?_eq_none.mp found)
    | some file => rfl
  · intro found
    obtain ⟨file, read⟩ := Option.isSome_iff_exists.mp found
    obtain ⟨mem, rfl⟩ := Registry.find?_eq_some.mp read
    exact List.mem_map_of_mem mem

theorem nodup_filesWithSuffix (tree : Tree) (suffix : String) :
    (filesWithSuffix tree suffix).Nodup :=
  tree.distinct.filter _

namespace Tools

variable {tools : Tools} {state : State} {path f : FilePath} {files : List FilePath}

/-- What the second test makes of a file. -/
def retest (tools : Tools) (path : FilePath) (entry : FilePath × Bool) :
    Option (FilePath × Bool) :=
  match tools.testDirect path entry.1 with
  | .passes => some (entry.1, true)
  | .fails => none
  | .raises => some entry

theorem seen_testMadeFrom {track : FilePath} {passed : Bool}
    (there : seen state.tree f = some (track, passed)) :
    seen (tools.testMadeFrom state f track).tree path =
      if path = f then tools.retest f (track, passed) else seen state.tree path := by
  rw [testMadeFrom, retest]
  cases tools.testDirect f track with
  | passes =>
      by_cases here : path = f
      · simp [here, there]
      · simp [here]
  | fails => simp only [State.seen_unlink, State.tree_failIntegrity]
  | raises =>
      by_cases here : path = f
      · simp [here, there]
      · simp [here]

theorem seen_testFile : seen (tools.testFile state f).tree path =
    if path = f then (seen state.tree f).bind (tools.retest f)
    else seen state.tree path := by
  rw [testFile]
  cases found : state.tree.find? f with
  | none =>
      by_cases here : path = f
      · simp [here, seen, found]
      · simp [here]
  | some file =>
      have there : seen state.tree f = some (file.track, file.passed) := by
        rw [seen, found]
        rfl
      rw [there, Option.bind_some]
      exact seen_testMadeFrom there

theorem counted_testFile : (tools.testFile state f).counted =
    state.counted ++ ((seen state.tree f).toList.map Prod.fst).filter fun track =>
      tools.testDirect f track = .fails := by
  rw [testFile, seen]
  cases state.tree.find? f with
  | none => simp
  | some file =>
      simp only [testMadeFrom]
      cases tested : tools.testDirect f file.track with
      | passes => simp [tested]
      | fails => simp [tested]
      | raises => simp [tested]

theorem overwritten_testFile : (tools.testFile state f).overwritten = state.overwritten := by
  rw [testFile]
  cases state.tree.find? f with
  | none => rfl
  | some file =>
      simp only [testMadeFrom]
      cases tools.testDirect f file.track with
      | passes => rfl
      | fails => rfl
      | raises => rfl

theorem overwritten_testFiles :
    (files.foldl tools.testFile state).overwritten = state.overwritten := by
  induction files generalizing state with
  | nil => rfl
  | cons file files ih => rw [List.foldl_cons, ih, overwritten_testFile]

/-- Every file is tested once. -/
theorem seen_testFiles (distinct : files.Nodup) :
    seen (files.foldl tools.testFile state).tree path =
      if path ∈ files then (seen state.tree path).bind (tools.retest path)
      else seen state.tree path := by
  induction files generalizing state with
  | nil => simp
  | cons file files ih =>
      rw [List.nodup_cons] at distinct
      rw [List.foldl_cons, ih distinct.2, seen_testFile]
      by_cases here : path = file
      · subst here
        simp [distinct.1]
      · simp [here]

/-- What the second loop counts are the files that fail in it. -/
theorem mem_counted_testFiles (distinct : files.Nodup) {track : FilePath} :
    track ∈ (files.foldl tools.testFile state).counted ↔
      track ∈ state.counted ∨ ∃ file ∈ files, ∃ passed,
        seen state.tree file = some (track, passed) ∧ tools.testDirect file track = .fails := by
  induction files generalizing state with
  | nil => simp
  | cons file files ih =>
      rw [List.nodup_cons] at distinct
      rw [List.foldl_cons, ih distinct.2, counted_testFile, List.mem_append, List.mem_filter,
        List.mem_map, or_assoc]
      apply or_congr_right
      have apart : ∀ other ∈ files, seen (tools.testFile state file).tree other =
          seen state.tree other := by
        intro other mem
        rw [seen_testFile, if_neg]
        intro same
        exact distinct.1 (same ▸ mem)
      constructor
      · intro failed
        rcases failed with ⟨⟨entry, found, rfl⟩, fails⟩ | ⟨other, mem, passed, found, fails⟩
        · rw [Option.mem_toList] at found
          exact ⟨file, List.mem_cons_self, entry.2, found, by simpa using fails⟩
        · rw [apart other mem] at found
          exact ⟨other, List.mem_cons_of_mem _ mem, passed, found, fails⟩
      · intro failed
        obtain ⟨other, mem, passed, found, fails⟩ := failed
        cases List.mem_cons.mp mem with
        | inl here =>
            subst here
            left
            refine ⟨⟨(track, passed), ?_, rfl⟩, by simpa using fails⟩
            rw [Option.mem_toList]
            exact found
        | inr later =>
            right
            refine ⟨other, later, passed, ?_, fails⟩
            rw [apart other later]
            exact found

end Tools

/-! ## The suffixes -/

/-- There is a FLAC file of a track. -/
def HasFlac (tree : Tree) (entry : FilePath × Bool) : Prop :=
  ∃ path, path.hasSuffix ".flac" = true ∧ seen tree path = some entry

theorem seen_rename {tree : Tree} {path other : FilePath} {file : File}
    (found : tree.find? path = some file) (free : tree.find? path.target = none) :
    seen ((tree.remove path).add { file with path := path.target }) other =
      if other = path.target then seen tree path
      else if other = path then none
      else seen tree other := by
  have vacant : (tree.remove path).find? path.target = none := by
    rw [Registry.find?_remove, free, ite_self]
  have added := @Registry.find?_add _ _ _ _ _ { file with path := path.target } vacant other
  rw [seen, added]
  by_cases here : other = path.target
  · simp [here, seen, found]
  · rw [if_neg here, if_neg here]
    exact seen_remove

/-- A file is renamed at most, and stays a FLAC file. -/
theorem normalizeFlacExtension_spec (tree : Tree) {path : FilePath}
    (flac : path.hasSuffix ".flac" = true) :
    (∀ entry, HasFlac (normalizeFlacExtension tree path) entry ↔ HasFlac tree entry) ∧
      ∀ other, other.hasSuffix ".flac" = false →
        seen (normalizeFlacExtension tree path) other = seen tree other := by
  rw [normalizeFlacExtension]
  by_cases lower : path.suffix = ".flac"
  · rw [if_pos lower]
    exact ⟨fun _ => Iff.rfl, fun _ _ => rfl⟩
  rw [if_neg lower]
  rw [← FilePath.target]
  by_cases taken : (tree.find? path.target).isSome = true
  · rw [if_pos taken]
    exact ⟨fun _ => Iff.rfl, fun _ _ => rfl⟩
  rw [if_neg taken]
  have free : tree.find? path.target = none := by simpa using taken
  cases found : tree.find? path with
  | none => exact ⟨fun _ => Iff.rfl, fun _ _ => rfl⟩
  | some file =>
      have differs : path.target ≠ path := by
        intro same
        apply lower
        rw [← same]
        rfl
      have renamed : ∀ other, seen ((tree.remove path).add { file with path := path.target })
          other = if other = path.target then seen tree path
            else if other = path then none else seen tree other := by
        intro other
        exact seen_rename found free
      constructor
      · intro entry
        constructor
        · intro held
          obtain ⟨other, suffix, there⟩ := held
          have was := (renamed other).symm.trans there
          split at was
          · exact ⟨path, flac, was⟩
          · split at was
            · cases was
            · exact ⟨other, suffix, was⟩
        · intro held
          obtain ⟨other, suffix, there⟩ := held
          by_cases here : other = path
          · subst here
            refine ⟨other.target, FilePath.hasSuffix_target other, (renamed _).trans ?_⟩
            rw [if_pos rfl]
            exact there
          · refine ⟨other, suffix, (renamed other).trans ?_⟩
            rw [if_neg, if_neg here]
            · exact there
            · intro same
              rw [same, seen, free] at there
              cases there
      · intro other suffix
        apply (renamed other).trans
        rw [if_neg, if_neg]
        · intro same
          rw [same, flac] at suffix
          cases suffix
        · intro same
          rw [same, FilePath.hasSuffix_target] at suffix
          cases suffix

/-- The suffixes are changed, and nothing is lost by it. -/
theorem prepareOutputDirectory_spec (tree : Tree) :
    (∀ entry, HasFlac (prepareOutputDirectory tree) entry ↔ HasFlac tree entry) ∧
      ∀ other, other.hasSuffix ".flac" = false →
        seen (prepareOutputDirectory tree) other = seen tree other := by
  have renames : ∀ (files : List FilePath) (before : Tree),
      (∀ file ∈ files, file.hasSuffix ".flac" = true) →
      (∀ entry, HasFlac (files.foldl normalizeFlacExtension before) entry ↔
        HasFlac before entry) ∧
        ∀ other, other.hasSuffix ".flac" = false →
          seen (files.foldl normalizeFlacExtension before) other = seen before other := by
    intro files
    induction files with
    | nil => exact fun before flac => ⟨fun _ => Iff.rfl, fun _ _ => rfl⟩
    | cons file files ih =>
        intro before flac
        rw [List.forall_mem_cons] at flac
        obtain ⟨first, others⟩ := normalizeFlacExtension_spec before flac.1
        obtain ⟨rest, kept⟩ := ih (normalizeFlacExtension before file) flac.2
        rw [List.foldl_cons]
        constructor
        · intro entry
          exact (rest entry).trans (first entry)
        · intro other suffix
          exact (kept other suffix).trans (others other suffix)
  apply renames
  intro file listed
  exact (mem_filesWithSuffix.mp listed).1

/-! ## What normalisation is for -/

namespace Tools

variable (tools : Tools)

/-- All tests of a track succeed. -/
def succeeds (track : FilePath) : Bool :=
  if track.hasSuffix ".m4a" then tools.passes track else tools.testDirect track track = .passes

/-- The files in the end. -/
def prepared (raw : Raw) : Tree := prepareOutputDirectory (tools.normalizeAudio raw.tree).tree

/-- Only tested lossless files get through, and no track is lost without being counted. -/
structure Sound (raw : Raw) : Prop where
  tested : ∀ file ∈ (tools.prepared raw).rows,
    file.path.hasSuffix ".flac" = true → file.passed = true
  gated : ∀ file ∈ (tools.prepared raw).rows,
    file.path.hasSuffix ".m4a" = true → tools.lossless file.path = true
  counted : ∀ file ∈ raw.tree.rows,
    file.path.hasSuffix ".m4a" = true ∨ file.path.hasSuffix ".flac" = true →
    (∃ made ∈ (tools.prepared raw).rows,
      made.path.hasSuffix ".flac" = true ∧ made.track = file.path) ∨
    file.path ∈ (tools.normalizeAudio raw.tree).counted
  kept : ∀ track ∈ (tools.normalizeAudio raw.tree).overwritten, tools.succeeds track = false

/-- Every `.m4a` file is probed, and either counted or the last to write to its output; nothing
is written over a FLAC file; and no test of a file that is left raises, unless the file has
passed in the first loop. -/
structure Clean (raw : Raw) : Prop where
  probed : ∀ m ∈ filesWithSuffix raw.tree ".m4a", tools.probe m ≠ .raises
  settled : ∀ m ∈ filesWithSuffix raw.tree ".m4a", tools.counts m = true ∨
    tools.lastWriter (filesWithSuffix raw.tree ".m4a") m.target = some m
  apart : ∀ f ∈ filesWithSuffix raw.tree ".flac",
    tools.lastWriter (filesWithSuffix raw.tree ".m4a") f = none
  direct : ∀ f ∈ filesWithSuffix raw.tree ".flac", tools.testDirect f f ≠ .raises
  retested : ∀ m ∈ filesWithSuffix raw.tree ".m4a",
    tools.lastWriter (filesWithSuffix raw.tree ".m4a") m.target = some m →
    tools.failsIntegrity m = false →
    tools.passes m = true ∨ tools.testDirect m.target m ≠ .raises

end Tools

/-! ## Where a track is -/

theorem seen_of_mem {tree : Tree} {file : File} (mem : file ∈ tree.rows) :
    seen tree file.path = some (file.track, file.passed) := by
  rw [seen, Registry.find?_eq_some.mpr ⟨mem, rfl⟩]
  rfl

theorem mem_of_seen {tree : Tree} {path : FilePath} {entry : FilePath × Bool}
    (there : seen tree path = some entry) :
    ∃ file ∈ tree.rows, file.path = path ∧ file.track = entry.1 ∧ file.passed = entry.2 := by
  obtain ⟨file, found, rfl⟩ := Option.map_eq_some_iff.mp there
  obtain ⟨mem, here⟩ := Registry.find?_eq_some.mp found
  exact ⟨file, mem, here, rfl, rfl⟩

theorem Raw.seen_eq {raw : Raw} {path : FilePath} {entry : FilePath × Bool}
    (there : seen raw.tree path = some entry) : entry = (path, false) := by
  obtain ⟨file, mem, here, track, passed⟩ := mem_of_seen there
  obtain ⟨own, untested⟩ := raw.own file mem
  exact Prod.ext (track.symm.trans (own.trans here)) (passed.symm.trans untested)

theorem Raw.seen_iff {raw : Raw} {path : FilePath} :
    seen raw.tree path = some (path, false) ↔ (seen raw.tree path).isSome = true := by
  constructor
  · intro there
    rw [there]
    rfl
  · intro some
    obtain ⟨entry, there⟩ := Option.isSome_iff_exists.mp some
    rw [there, Raw.seen_eq there]

namespace Tools

variable {tools : Tools} {raw : Raw}

/-- The state after the first loop. -/
def converted (tools : Tools) (raw : Raw) : State :=
  (filesWithSuffix raw.tree ".m4a").foldl tools.convertFile { tree := raw.tree }

theorem m4a_of_mem {m : FilePath} (mem : m ∈ filesWithSuffix raw.tree ".m4a") :
    m.hasSuffix ".m4a" = true := (mem_filesWithSuffix.mp mem).1

theorem outcome_eq (m : FilePath) : tools.outcome m =
    if tools.failsIntegrity m = true then none else some (m, tools.passes m) := by
  rw [outcome, failsIntegrity, passes, tested]
  cases tools.converts m with
  | false => rfl
  | true =>
      cases tools.testConverted m with
      | passes => rfl
      | fails => rfl
      | raises => rfl

theorem seen_converted {path : FilePath} (flac : path.hasSuffix ".flac" = true) :
    seen (tools.converted raw).tree path =
      match tools.lastWriter (filesWithSuffix raw.tree ".m4a") path with
      | none => seen raw.tree path
      | some m => tools.outcome m :=
  seen_convertFiles (fun _ mem => m4a_of_mem mem) flac

/-- A `.m4a` track is at a FLAC path where it is the last to write there, and not removed. -/
theorem converted_m4a {m : FilePath} (mem : m ∈ filesWithSuffix raw.tree ".m4a")
    {path : FilePath} {passed : Bool} (flac : path.hasSuffix ".flac" = true) :
    seen (tools.converted raw).tree path = some (m, passed) ↔
      path = m.target ∧
        tools.lastWriter (filesWithSuffix raw.tree ".m4a") m.target = some m ∧
        tools.failsIntegrity m = false ∧ passed = tools.passes m := by
  rw [seen_converted flac]
  constructor
  · intro there
    cases last : tools.lastWriter (filesWithSuffix raw.tree ".m4a") path with
    | none =>
        rw [last] at there
        have own := congrArg Prod.fst (Raw.seen_eq there)
        have suffix := FilePath.not_flac_of_m4a (m4a_of_mem mem)
        rw [show m = path from own, flac] at suffix
        cases suffix
    | some writer =>
        rw [last] at there
        simp only [outcome_eq] at there
        split at there
        · cases there
        · next good =>
            cases there
            have here := (lastWriter_eq_some last).2.1
            subst here
            exact ⟨rfl, last, by simpa using good, rfl⟩
  · intro holds
    obtain ⟨rfl, last, good, rfl⟩ := holds
    rw [last]
    simp only [outcome_eq, good]
    rfl

/-- A FLAC track is where it was as long as nothing is written there. -/
theorem converted_flac {f : FilePath} (mem : f ∈ filesWithSuffix raw.tree ".flac")
    {path : FilePath} {passed : Bool} (flac : path.hasSuffix ".flac" = true) :
    seen (tools.converted raw).tree path = some (f, passed) ↔
      path = f ∧ tools.lastWriter (filesWithSuffix raw.tree ".m4a") f = none ∧
        passed = false := by
  rw [seen_converted flac]
  constructor
  · intro there
    cases last : tools.lastWriter (filesWithSuffix raw.tree ".m4a") path with
    | none =>
        rw [last] at there
        cases Raw.seen_eq there
        exact ⟨rfl, last, rfl⟩
    | some writer =>
        rw [last] at there
        simp only [outcome_eq] at there
        split at there
        · cases there
        · cases there
          have suffix := FilePath.not_flac_of_m4a (m4a_of_mem (lastWriter_eq_some last).1)
          rw [(mem_filesWithSuffix.mp mem).1] at suffix
          cases suffix
  · intro holds
    obtain ⟨rfl, last, rfl⟩ := holds
    rw [last]
    exact Raw.seen_iff.mpr (mem_filesWithSuffix.mp mem).2

theorem counted_converted : (tools.converted raw).counted =
    (filesWithSuffix raw.tree ".m4a").filter tools.counts := by
  rw [converted, counted_convertFiles, List.nil_append]

theorem normalizeAudio_eq : tools.normalizeAudio raw.tree =
    (filesWithSuffix (tools.converted raw).tree ".flac").foldl tools.testFile
      (tools.converted raw) := rfl

theorem seen_normalizeAudio {path : FilePath} (flac : path.hasSuffix ".flac" = true) :
    seen (tools.normalizeAudio raw.tree).tree path =
      (seen (tools.converted raw).tree path).bind (tools.retest path) := by
  rw [normalizeAudio_eq, seen_testFiles (nodup_filesWithSuffix _ _)]
  simp only [mem_filesWithSuffix]
  cases there : seen (tools.converted raw).tree path with
  | none => simp
  | some entry => simp [flac]

theorem seen_normalizeAudio_m4a {path : FilePath} (m4a : path.hasSuffix ".m4a" = true) :
    seen (tools.normalizeAudio raw.tree).tree path = seen (tools.converted raw).tree path := by
  rw [normalizeAudio_eq, seen_testFiles (nodup_filesWithSuffix _ _)]
  simp [mem_filesWithSuffix, FilePath.not_flac_of_m4a m4a]

theorem mem_counted_normalizeAudio {track : FilePath} :
    track ∈ (tools.normalizeAudio raw.tree).counted ↔
      track ∈ (tools.converted raw).counted ∨ ∃ path passed,
        path.hasSuffix ".flac" = true ∧
          seen (tools.converted raw).tree path = some (track, passed) ∧
          tools.testDirect path track = .fails := by
  rw [normalizeAudio_eq, mem_counted_testFiles (nodup_filesWithSuffix _ _)]
  apply or_congr_right
  constructor
  · intro failed
    obtain ⟨path, listed, passed, there, fails⟩ := failed
    exact ⟨path, passed, (mem_filesWithSuffix.mp listed).1, there, fails⟩
  · intro failed
    obtain ⟨path, passed, flac, there, fails⟩ := failed
    exact ⟨path, mem_filesWithSuffix.mpr ⟨flac, by rw [there]; rfl⟩, passed, there, fails⟩

/-- The FLAC files in the end are those that the second loop leaves. -/
theorem flac_prepared {entry : FilePath × Bool} :
    (∃ made ∈ (tools.prepared raw).rows, made.path.hasSuffix ".flac" = true ∧
        (made.track, made.passed) = entry) ↔
      ∃ path before, path.hasSuffix ".flac" = true ∧
        seen (tools.converted raw).tree path = some before ∧
        tools.retest path before = some entry := by
  have kept := (prepareOutputDirectory_spec (tools.normalizeAudio raw.tree).tree).1 entry
  constructor
  · intro present
    obtain ⟨made, mem, flac, rfl⟩ := present
    obtain ⟨path, suffix, there⟩ := kept.mp ⟨made.path, flac, seen_of_mem mem⟩
    rw [seen_normalizeAudio suffix, Option.bind_eq_some_iff] at there
    obtain ⟨before, was, became⟩ := there
    exact ⟨path, before, suffix, was, became⟩
  · intro present
    obtain ⟨path, before, suffix, was, became⟩ := present
    have there : seen (tools.normalizeAudio raw.tree).tree path = some entry := by
      rw [seen_normalizeAudio suffix, was]
      exact became
    obtain ⟨final, flac, found⟩ := kept.mpr ⟨path, suffix, there⟩
    obtain ⟨made, mem, here, track, passed⟩ := mem_of_seen found
    exact ⟨made, mem, here ▸ flac, Prod.ext track passed⟩

theorem retest_cases {path track : FilePath} {passed : Bool} :
    (tools.retest path (track, passed) = some (track, true) ∧
        tools.testDirect path track = .passes) ∨
      (tools.retest path (track, passed) = none ∧ tools.testDirect path track = .fails) ∨
      (tools.retest path (track, passed) = some (track, passed) ∧
        tools.testDirect path track = .raises) := by
  rw [retest]
  cases tools.testDirect path track with
  | passes => exact .inl ⟨rfl, rfl⟩
  | fails => exact .inr (.inl ⟨rfl, rfl⟩)
  | raises => exact .inr (.inr ⟨rfl, rfl⟩)

/-- A track gets through or is counted exactly if the first loop counts it or leaves it. -/
theorem made_or_counted_iff {track : FilePath} :
    ((∃ made ∈ (tools.prepared raw).rows,
        made.path.hasSuffix ".flac" = true ∧ made.track = track) ∨
      track ∈ (tools.normalizeAudio raw.tree).counted) ↔
    track ∈ (tools.converted raw).counted ∨ ∃ path passed,
      path.hasSuffix ".flac" = true ∧
        seen (tools.converted raw).tree path = some (track, passed) := by
  rw [mem_counted_normalizeAudio]
  constructor
  · intro either
    rcases either with ⟨made, mem, flac, rfl⟩ | counted | ⟨path, passed, flac, there, _⟩
    · right
      obtain ⟨path, before, suffix, was, became⟩ := flac_prepared.mp ⟨made, mem, flac, rfl⟩
      obtain ⟨track, passed⟩ := before
      rcases @retest_cases tools path track passed with ⟨same, _⟩ | ⟨same, _⟩ | ⟨same, _⟩
      · have own : track = made.track :=
          congrArg Prod.fst (Option.some.inj (same.symm.trans became))
        exact ⟨path, passed, suffix, own ▸ was⟩
      · rw [same] at became
        cases became
      · have own : track = made.track :=
          congrArg Prod.fst (Option.some.inj (same.symm.trans became))
        exact ⟨path, passed, suffix, own ▸ was⟩
    · exact .inl counted
    · exact .inr ⟨path, passed, flac, there⟩
  · intro either
    rcases either with counted | ⟨path, passed, flac, there⟩
    · exact .inr (.inl counted)
    · rcases @retest_cases tools path track passed with ⟨same, _⟩ | ⟨_, fails⟩ | ⟨same, _⟩
      · left
        obtain ⟨made, mem, suffix, entry⟩ := flac_prepared.mpr ⟨path, _, flac, there, same⟩
        exact ⟨made, mem, suffix, congrArg Prod.fst entry⟩
      · exact .inr (.inr ⟨path, passed, flac, there, fails⟩)
      · left
        obtain ⟨made, mem, suffix, entry⟩ := flac_prepared.mpr ⟨path, _, flac, there, same⟩
        exact ⟨made, mem, suffix, congrArg Prod.fst entry⟩

/-- Only tested files are left exactly if no test of an untested file raises. -/
theorem tested_iff :
    (∀ file ∈ (tools.prepared raw).rows,
      file.path.hasSuffix ".flac" = true → file.passed = true) ↔
    ∀ path track passed, path.hasSuffix ".flac" = true →
      seen (tools.converted raw).tree path = some (track, passed) →
      tools.testDirect path track = .raises → passed = true := by
  constructor
  · intro every path track passed flac there raises
    rcases @retest_cases tools path track passed with ⟨_, other⟩ | ⟨_, other⟩ | ⟨same, _⟩
    · rw [raises] at other
      cases other
    · rw [raises] at other
      cases other
    · obtain ⟨made, mem, suffix, entry⟩ := flac_prepared.mpr ⟨path, _, flac, there, same⟩
      exact (congrArg Prod.snd entry).symm.trans (every made mem suffix)
  · intro every file mem flac
    obtain ⟨path, before, suffix, was, became⟩ := flac_prepared.mp ⟨file, mem, flac, rfl⟩
    obtain ⟨track, passed⟩ := before
    rcases @retest_cases tools path track passed with ⟨same, _⟩ | ⟨same, _⟩ | ⟨same, raises⟩
    · exact (congrArg Prod.snd (Option.some.inj (same.symm.trans became))).symm
    · rw [same] at became
      cases became
    · have kept : passed = file.passed :=
        congrArg Prod.snd (Option.some.inj (same.symm.trans became))
      exact kept.symm.trans (every path track passed suffix was raises)

/-- Only lossless `.m4a` files are left exactly if every probe reports. -/
theorem gated_iff :
    (∀ file ∈ (tools.prepared raw).rows,
      file.path.hasSuffix ".m4a" = true → tools.lossless file.path = true) ↔
    ∀ m ∈ filesWithSuffix raw.tree ".m4a", tools.probe m ≠ .raises := by
  have left : ∀ path, path.hasSuffix ".m4a" = true → seen (tools.prepared raw) path =
      if path ∈ filesWithSuffix raw.tree ".m4a" ∧
        (tools.refuses path = true ∨ tools.converts path = true) then none
      else seen raw.tree path := by
    intro path m4a
    rw [prepared, (prepareOutputDirectory_spec _).2 path (FilePath.not_flac_of_m4a m4a),
      seen_normalizeAudio_m4a m4a]
    exact seen_convertFiles_m4a (fun _ mem => m4a_of_mem mem) m4a
  constructor
  · intro every m mem raises
    have lossless : tools.lossless m = false := by simp [Tools.lossless, raises]
    have refuses : tools.refuses m = false := by simp [Tools.refuses, raises]
    have stays := left m (m4a_of_mem mem)
    rw [if_neg (by simp [refuses, converts, lossless])] at stays
    obtain ⟨entry, there⟩ := Option.isSome_iff_exists.mp (mem_filesWithSuffix.mp mem).2
    obtain ⟨file, listed, here, _⟩ := mem_of_seen (stays.trans there)
    have good := every file listed (here ▸ m4a_of_mem mem)
    rw [here, lossless] at good
    cases good
  · intro every file listed m4a
    have there := seen_of_mem listed
    rw [left file.path m4a] at there
    split at there
    · cases there
    · next stays =>
        have mem : file.path ∈ filesWithSuffix raw.tree ".m4a" :=
          mem_filesWithSuffix.mpr ⟨m4a, by rw [there]; rfl⟩
        rw [not_and, not_or] at stays
        have accepted := (stays mem).1
        have probed := every _ mem
        rw [Tools.refuses] at accepted
        rw [Tools.lossless]
        cases probe : tools.probe file.path with
        | raises => exact absurd probe probed
        | reports stdout =>
            rw [probe] at accepted
            simpa using accepted

/-! ## When it is sound -/

theorem exists_row {tree : Tree} {path : FilePath} {suffix : String}
    (mem : path ∈ filesWithSuffix tree suffix) : ∃ file ∈ tree.rows, file.path = path := by
  obtain ⟨entry, there⟩ := Option.isSome_iff_exists.mp (mem_filesWithSuffix.mp mem).2
  obtain ⟨file, listed, here, _⟩ := mem_of_seen there
  exact ⟨file, listed, here⟩

theorem mem_of_row {tree : Tree} {file : File} {suffix : String} (listed : file ∈ tree.rows)
    (kind : file.path.hasSuffix suffix = true) : file.path ∈ filesWithSuffix tree suffix :=
  mem_filesWithSuffix.mpr ⟨kind, by rw [seen_of_mem listed]; rfl⟩

/-- What the first loop counts has not passed. -/
theorem passes_of_counts {m : FilePath} (counts : tools.counts m = true) :
    tools.passes m = false := by
  rw [Tools.counts, Bool.or_eq_true, Bool.or_eq_true] at counts
  rw [passes]
  rcases counts with (refuses | conversion) | integrity
  · have lossless : tools.lossless m = false := by
      rw [Tools.refuses] at refuses
      rw [Tools.lossless]
      cases probed : tools.probe m with
      | raises => rfl
      | reports stdout => simpa [probed] using refuses
    simp [converts, lossless]
  · rw [failsConversion, Bool.and_eq_true, Bool.and_eq_true, decide_eq_true_eq] at conversion
    obtain ⟨⟨_, reencodes⟩, failed⟩ := conversion
    have copies : tools.copies m = false := by
      rcases copy_cases tools m with ⟨_, other⟩ | ⟨copies, _⟩ | ⟨copies, _⟩
      · rw [reencodes] at other
        cases other
      · exact copies
      · exact copies
    simp [converts, copies, failed]
  · rw [failsIntegrity, Bool.and_eq_true, decide_eq_true_eq] at integrity
    simp [integrity.2]

/-- Where a later file writes, an earlier one is not the last. -/
theorem mem_of_lastWriter {before after : List FilePath} {path m writer : FilePath}
    (last : tools.lastWriter (before ++ after) path = some writer) (mem : m ∈ after)
    (here : m.target = path) (writes : tools.writes m = true) : writer ∈ after := by
  rw [lastWriter, List.filter_append, List.getLast?_append] at last
  cases later : (after.filter fun m => m.target = path && tools.writes m).getLast? with
  | none =>
      have empty := List.getLast?_eq_none_iff.mp later
      have listed : m ∈ after.filter fun m => m.target = path && tools.writes m :=
        List.mem_filter.mpr ⟨mem, by simp [here, writes]⟩
      rw [empty] at listed
      cases listed
  | some other =>
      rw [later] at last
      cases last
      exact (List.mem_filter.mp (List.mem_of_getLast? later)).1

theorem Sound.clean (sound : tools.Sound raw) : tools.Clean raw := by
  have settled : ∀ track, (∃ file ∈ raw.tree.rows, file.path = track) →
      track.hasSuffix ".m4a" = true ∨ track.hasSuffix ".flac" = true →
      track ∈ (filesWithSuffix raw.tree ".m4a").filter tools.counts ∨ ∃ path passed,
        path.hasSuffix ".flac" = true ∧
          seen (tools.converted raw).tree path = some (track, passed) := by
    intro track listed kind
    obtain ⟨file, mem, rfl⟩ := listed
    rw [← counted_converted]
    exact made_or_counted_iff.mp (sound.counted file mem kind)
  have apart : ∀ f ∈ filesWithSuffix raw.tree ".flac",
      tools.lastWriter (filesWithSuffix raw.tree ".m4a") f = none := by
    intro f mem
    have flac := (mem_filesWithSuffix.mp mem).1
    rcases settled f (exists_row mem) (.inr flac) with counted | ⟨path, passed, suffix, there⟩
    · have suffix := FilePath.not_flac_of_m4a (m4a_of_mem (List.mem_filter.mp counted).1)
      rw [flac] at suffix
      cases suffix
    · exact ((converted_flac mem suffix).mp there).2.1
  constructor
  · exact gated_iff.mp sound.gated
  · intro m mem
    rcases settled m (exists_row mem) (.inl (m4a_of_mem mem)) with
      counted | ⟨path, passed, suffix, there⟩
    · exact .inl (List.mem_filter.mp counted).2
    · exact .inr ((converted_m4a mem suffix).mp there).2.1
  · exact apart
  · intro f mem raises
    have flac := (mem_filesWithSuffix.mp mem).1
    have there := (converted_flac mem flac).mpr ⟨rfl, apart f mem, rfl⟩
    exact absurd (tested_iff.mp sound.tested f f false flac there raises) (by decide)
  · intro m mem last good
    by_cases raises : tools.testDirect m.target m = .raises
    · have flac := FilePath.hasSuffix_target m
      have there := (converted_m4a mem flac).mpr ⟨rfl, last, good, rfl⟩
      exact .inl (tested_iff.mp sound.tested m.target m _ flac there raises)
    · exact .inr raises

theorem Clean.kept (clean : tools.Clean raw) :
    ∀ track ∈ (tools.normalizeAudio raw.tree).overwritten, tools.succeeds track = false := by
  intro track mem
  rw [normalizeAudio_eq, overwritten_testFiles] at mem
  rcases mem_overwritten_convertFiles (fun _ mem => m4a_of_mem mem) mem with
    start | ⟨before, m, after, passed, split, writes, was, other⟩
  · cases start
  have listed : m ∈ filesWithSuffix raw.tree ".m4a" := by simp [split]
  have earlier : ∀ m' ∈ before, m'.hasSuffix ".m4a" = true := by
    intro m' mem
    apply @m4a_of_mem raw
    simp [split, mem]
  rw [seen_convertFiles earlier (FilePath.hasSuffix_target m)] at was
  cases last : tools.lastWriter before m.target with
  | none =>
      -- A FLAC file is written over, which a clean download excludes.
      rw [last] at was
      have there : m.target ∈ filesWithSuffix raw.tree ".flac" :=
        mem_filesWithSuffix.mpr ⟨FilePath.hasSuffix_target m, Option.isSome_of_eq_some was⟩
      have none := clean.apart m.target there
      rw [lastWriter, List.getLast?_eq_none_iff] at none
      have written : m ∈ (filesWithSuffix raw.tree ".m4a").filter fun m' =>
          m'.target = m.target && tools.writes m' :=
        List.mem_filter.mpr ⟨listed, by simp [writes]⟩
      rw [none] at written
      cases written
  | some writer =>
      rw [last] at was
      simp only [outcome_eq] at was
      split at was
      · cases was
      · cases was
        obtain ⟨mem, here, _⟩ := lastWriter_eq_some last
        have m4a := earlier track mem
        have among : track ∈ filesWithSuffix raw.tree ".m4a" := by simp [split, mem]
        rw [succeeds, if_pos m4a]
        cases clean.settled track among with
        | inl counts => exact passes_of_counts counts
        | inr last =>
            -- A later file writes over it, so it was not the last.
            rw [split, here] at last
            have later := mem_of_lastWriter last List.mem_cons_self rfl writes
            have distinct := nodup_filesWithSuffix raw.tree ".m4a"
            rw [split, List.nodup_append] at distinct
            exact absurd rfl (distinct.2.2 track mem track later)

theorem Clean.sound (clean : tools.Clean raw) : tools.Sound raw := by
  constructor
  · apply tested_iff.mpr
    intro path track passed flac there raises
    have was := there
    rw [seen_converted flac] at was
    cases last : tools.lastWriter (filesWithSuffix raw.tree ".m4a") path with
    | none =>
        rw [last] at was
        cases Raw.seen_eq was
        have mem : path ∈ filesWithSuffix raw.tree ".flac" :=
          mem_filesWithSuffix.mpr ⟨flac, Option.isSome_of_eq_some was⟩
        exact absurd raises (clean.direct path mem)
    | some m =>
        rw [last] at was
        simp only [outcome_eq] at was
        split at was
        · cases was
        · cases was
          obtain ⟨mem, rfl, _⟩ := lastWriter_eq_some last
          obtain ⟨_, last, good, _⟩ := (converted_m4a mem flac).mp there
          cases clean.retested track mem last good with
          | inl passes => exact passes
          | inr ends => exact absurd raises ends
  · exact gated_iff.mpr clean.probed
  · intro file listed kind
    apply made_or_counted_iff.mpr
    rw [counted_converted, List.mem_filter]
    cases kind with
    | inl m4a =>
        have mem := mem_of_row listed m4a
        by_cases counts : tools.counts file.path = true
        · exact .inl ⟨mem, counts⟩
        · have last := (clean.settled _ mem).resolve_left counts
          have good : tools.failsIntegrity file.path = false := by
            rw [Tools.counts, Bool.or_eq_true, not_or] at counts
            simpa using counts.2
          right
          exact ⟨_, _, FilePath.hasSuffix_target _,
            (converted_m4a mem (FilePath.hasSuffix_target _)).mpr ⟨rfl, last, good, rfl⟩⟩
    | inr flac =>
        have mem := mem_of_row listed flac
        right
        exact ⟨_, _, flac, (converted_flac mem flac).mpr ⟨rfl, clean.apart _ mem, rfl⟩⟩
  · exact clean.kept

end Tools

/-! ## The counters -/

/-- The counters add up to the tracks that were counted. -/
def State.Tallied (state : State) : Prop :=
  state.counted.length = state.stats.codecGateSkipped + state.stats.conversionFailed +
    state.stats.integrityFailed

namespace State.Tallied

variable {state : State} {tools : Tools} {m : FilePath}

theorem leave {left : Option Nat} (tallied : state.Tallied) : (state.leave m left).Tallied := by
  cases left with
  | none => exact tallied
  | some size => exact tallied

theorem skip (tallied : state.Tallied) : (state.skip m).Tallied := by
  simp only [State.Tallied, State.skip, List.length_append, List.length_singleton] at *
  omega

theorem failConversion (tallied : state.Tallied) : (state.failConversion m).Tallied := by
  simp only [State.Tallied, State.failConversion, List.length_append,
    List.length_singleton] at *
  omega

theorem failIntegrity (tallied : state.Tallied) : (state.failIntegrity m).Tallied := by
  simp only [State.Tallied, State.failIntegrity, List.length_append, List.length_singleton] at *
  omega

theorem finish (tallied : state.Tallied) : (tools.finish state m).Tallied := by
  rw [Tools.finish]
  cases tools.testConverted m with
  | passes => exact tallied
  | fails => exact tallied.failIntegrity
  | raises => exact tallied

theorem reencode (tallied : state.Tallied) : (tools.reencode state m).Tallied := by
  rw [Tools.reencode]
  cases tools.encode m with
  | succeeds size => exact tallied.leave.finish
  | fails left => exact tallied.leave.failConversion
  | raises left => exact tallied.leave

theorem convertFile (tallied : state.Tallied) : (tools.convertFile state m).Tallied := by
  rw [Tools.convertFile]
  cases tools.probe m with
  | raises => exact tallied
  | reports stdout =>
      by_cases codec : losslessCodec stdout = true
      · simp only [codec, if_true]
        rcases Tools.copy_cases tools m with ⟨copies, _⟩ | ⟨_, reencodes⟩ | ⟨_, _, left, raises⟩
        · obtain ⟨size, _, converted⟩ := @Tools.convert_of_copies tools state m copies
          rw [converted]
          exact tallied.leave.finish
        · rw [Tools.convert_of_reencodes reencodes]
          exact tallied.leave.reencode
        · rw [Tools.convert_of_raises raises]
          exact tallied.leave
      · simp only [codec]
        exact tallied.skip

theorem testFile (tallied : state.Tallied) : (tools.testFile state m).Tallied := by
  rw [Tools.testFile]
  cases state.tree.find? m with
  | none => exact tallied
  | some file =>
      simp only [Tools.testMadeFrom]
      cases tools.testDirect m file.track with
      | passes => exact tallied
      | fails => exact tallied.failIntegrity
      | raises => exact tallied

theorem foldl {step : State → FilePath → State}
    (steps : ∀ state m, state.Tallied → (step state m).Tallied) (files : List FilePath)
    (tallied : state.Tallied) : (files.foldl step state).Tallied := by
  induction files generalizing state with
  | nil => exact tallied
  | cons file files ih => exact ih (steps state file tallied)

end State.Tallied

namespace Tools

theorem tallied_normalizeAudio (tools : Tools) (tree : Tree) :
    (tools.normalizeAudio tree).Tallied := by
  apply State.Tallied.foldl
  · intro state f tallied
    exact tallied.testFile
  · apply State.Tallied.foldl
    · intro state m tallied
      exact tallied.convertFile
    · rfl

/-- Normalisation is sound exactly on what is clean, and its counters say how many tracks were
counted. -/
theorem sound_iff_clean (tools : Tools) (raw : Raw) :
    (tools.Sound raw ↔ tools.Clean raw) ∧ (tools.normalizeAudio raw.tree).Tallied :=
  ⟨⟨Sound.clean, Clean.sound⟩, tallied_normalizeAudio tools raw.tree⟩

/-! ## Two files with one stem -/

/-- A FLAC file, and a `.m4a` file beside it. -/
def sameStem : Raw where
  tree :=
    { rows := [⟨⟨[], "01", ".m4a"⟩, 4096, ⟨[], "01", ".m4a"⟩, false⟩,
        ⟨⟨[], "01", ".flac"⟩, 4096, ⟨[], "01", ".flac"⟩, false⟩]
      distinct := by decide }
  own := by simp

/-- Everything succeeds. -/
def smooth : Tools where
  probe := fun _ => .reports (some "alac")
  copy := fun _ => .succeeds 4096
  encode := fun _ => .succeeds 4096
  testConverted := fun _ => .passes
  testDirect := fun _ _ => .passes

/-- The FLAC file is overwritten, and nobody counts it. -/
theorem not_sound_sameStem : ¬ smooth.Sound sameStem := by
  intro sound
  have apart := sound.clean.apart ⟨[], "01", ".flac"⟩ (by decide)
  exact absurd apart (by decide)

end Tools

end Mintarr.Pipeline
