import Mathlib.Algebra.GroupWithZero.Nat
import Mathlib.Data.List.Induction
import Mintarr.Lib.Characters
import Mintarr.Lib.Regex

/-!
# Cue sheets

`parse_cue_offsets` counts the FILE commands with an expression over the whole text, for which
only a line feed ends a line, and reads the TRACK and INDEX commands line by line.  What a
regular sheet is, is said once over the commands of its lines.
-/

namespace Mintarr.Disc

open Lib

/-! ## The expressions -/

/-- `_CUE_TRACK_RE`. -/
def cueTrack : List (Piece Char) :=
  .run Text.isSpace 0 none false :: Text.ignoreCase "track" ++
    [.run Text.isSpace 1 none false, .run Text.isDecimal 1 none false,
      .run Text.isSpace 1 none false, .run (fun c => !Text.isSpace c) 1 none true]

/-- `_CUE_INDEX_RE`. -/
def cueIndex : List (Piece Char) :=
  let number : Piece Char := .run Text.isDecimal 1 none true
  .run Text.isSpace 0 none false :: Text.ignoreCase "index" ++
    [.run Text.isSpace 1 none false, number, .run Text.isSpace 1 none false, number,
      .one fun c => c = ':', number, .one fun c => c = ':', number]

/-- `msf_to_frames`. -/
def msfToFrames (minutes seconds frames : Nat) : Nat := (minutes * 60 + seconds) * 75 + frames

/-- `_CUE_TRACK_RE.match(line)`: the type it names. -/
def trackMatch (line : List Char) : Option (List Char) :=
  (Regex.matchPieces cueTrack line).bind fun found => found.1.head?

/-- The groups of `_CUE_INDEX_RE`. -/
structure IndexGroups where
  number : List Char
  minutes : List Char
  seconds : List Char
  frames : List Char
  deriving DecidableEq, Repr

/-- `_CUE_INDEX_RE.match(line)`. -/
def indexMatch (line : List Char) : Option IndexGroups :=
  (Regex.matchPieces cueIndex line).bind fun found =>
    match found.1 with
    | [number, minutes, seconds, frames] => some { number, minutes, seconds, frames }
    | _ => none

namespace IndexGroups

/-- The offset the parser reads; nothing where `int` raises. -/
def readOffset (groups : IndexGroups) : Option Nat := do
  let minutes ← Text.readInt groups.minutes
  let seconds ← Text.readInt groups.seconds
  let frames ← Text.readInt groups.frames
  return msfToFrames minutes seconds frames

/-- The offset the digits stand for, however many they are. -/
def offset (groups : IndexGroups) : Nat :=
  msfToFrames (Text.int groups.minutes) (Text.int groups.seconds) (Text.int groups.frames)

/-- The offset has no more digits than `int` reads. -/
def Short (groups : IndexGroups) : Prop :=
  groups.minutes.length ≤ Text.maxStrDigits ∧ groups.seconds.length ≤ Text.maxStrDigits ∧
    groups.frames.length ≤ Text.maxStrDigits

theorem readOffset_eq_some {groups : IndexGroups} (short : groups.Short) :
    groups.readOffset = some groups.offset := by
  rw [readOffset, Text.readInt_eq_some short.1, Text.readInt_eq_some short.2.1,
    Text.readInt_eq_some short.2.2]
  rfl

theorem readOffset_eq_none {groups : IndexGroups} (long : ¬groups.Short) :
    groups.readOffset = none := by
  rw [readOffset]
  by_cases minutes : groups.minutes.length ≤ Text.maxStrDigits
  · by_cases seconds : groups.seconds.length ≤ Text.maxStrDigits
    · have frames : Text.maxStrDigits < groups.frames.length := by
        rw [Short] at long
        omega
      rw [Text.readInt_eq_some minutes, Text.readInt_eq_some seconds, Text.readInt_eq_none frames]
      rfl
    · rw [Text.readInt_eq_some minutes, Text.readInt_eq_none (by omega)]
      rfl
  · rw [Text.readInt_eq_none (by omega)]
    rfl

end IndexGroups

section File

-- `str.isalnum`, for `\b`
variable (isalnum : Char → Bool)

/-- `FILE\b` matches here. -/
def startsFile (text : List Char) : Bool :=
  (Regex.matchPieces (Text.ignoreCase "file") text).any fun found =>
    !found.2.head?.any (Text.isWord isalnum)

/-- `len(_CUE_FILE_RE.findall(cue_text))`: a match ends with a FILE before which there is only
white space back to a line start, that is to the start of the text or to a line feed; `fresh`
while that is so. -/
def fileMatches : Bool → List Char → Nat
  | _, [] => 0
  | fresh, c :: rest =>
      if fresh && startsFile isalnum (c :: rest) then 1 + fileMatches false rest
      else fileMatches (c = '\n' || (fresh && Text.isSpace c)) rest

end File

/-! ## The parser -/

/-- Where the loop over the lines stands. -/
structure CueScan where
  offsets : List Nat := []
  inTrack : Bool := false
  haveIndex01 : Bool := false

/-- How the loop ends before the last line. -/
inductive CueStop where
  /-- `return []`. -/
  | irregular
  /-- `int` raises. -/
  | valueError
  deriving DecidableEq, Repr

/-- One line. -/
def cueStep (scan : CueScan) (line : List Char) : Except CueStop CueScan :=
  match trackMatch line with
  | some type =>
      if scan.inTrack && !scan.haveIndex01 then .error .irregular
      else if Text.upper type ≠ "AUDIO".toList then .error .irregular
      else .ok { scan with inTrack := true, haveIndex01 := false }
  | none =>
      match indexMatch line with
      | some groups =>
          if !scan.inTrack then .error .irregular
          else
            match Text.readInt groups.number with
            | none => .error .valueError
            | some number =>
                if number ≠ 1 then .ok scan
                else if scan.haveIndex01 then .error .irregular
                else
                  match groups.readOffset with
                  | none => .error .valueError
                  | some offset =>
                      .ok { scan with offsets := scan.offsets ++ [offset], haveIndex01 := true }
      | none => .ok scan

/-- After the last line; nothing where the empty list is returned. -/
def cueEnd (scan : CueScan) : Option (List Nat) :=
  if scan.inTrack && !scan.haveIndex01 then none else some scan.offsets

/-- The loop over the lines; nothing where it raises. -/
def cueOffsets (lines : List (List Char)) : Option (List Nat) :=
  match lines.foldlM cueStep {} with
  | .ok scan => some ((cueEnd scan).getD [])
  | .error .irregular => some []
  | .error .valueError => none

/-- `parse_cue_offsets`; nothing where it raises. -/
def parseCueOffsets (isalnum : Char → Bool) (text : List Char) : Option (List Nat) :=
  if fileMatches isalnum true text > 1 then some [] else cueOffsets (Text.splitlines text)

/-! ## Regular sheets -/

/-- What a line says. -/
inductive Command where
  /-- A track, with the type it names. -/
  | track (type : Option (List Char))
  | index (number offset : Nat)
  | other
  deriving DecidableEq

/-- The line is a TRACK with a number and nothing else. -/
def isBareTrack (line : List Char) : Bool :=
  (Regex.matchPieces (.run Text.isSpace 0 none false :: Text.ignoreCase "track" ++
    [.run Text.isSpace 1 none false, .run Text.isDecimal 1 none false,
      .run Text.isSpace 0 none false]) line).any fun found => found.2 = []

/-- The command of a line. -/
def command (line : List Char) : Command :=
  match trackMatch line with
  | some type => .track (some type)
  | none =>
      match indexMatch line with
      | some groups => .index (Text.int groups.number) groups.offset
      | none => if isBareTrack line then .track none else .other

namespace Command

/-- The type of a track that names one. -/
def type? : Command → Option (List Char)
  | track type => type
  | _ => none

def isTrack : Command → Bool
  | track _ => true
  | _ => false

def isIndex : Command → Bool
  | index _ _ => true
  | _ => false

/-- The offset of an INDEX 01. -/
def start : Command → Option Nat
  | index number offset => if number = 1 then some offset else none
  | _ => none

/-- A track without a type, when such lines are passed over. -/
def typed : Command → Command
  | track none => other
  | command => command

/-- The commands before the first track. -/
def preamble (commands : List Command) : List Command :=
  commands.takeWhile fun command => !command.isTrack

/-- The commands of each track. -/
def blocks : List Command → List (List Command)
  | [] => []
  | command :: rest =>
      if command.isTrack then preamble rest :: blocks rest else blocks rest

/-- The starts of the tracks, in order. -/
def starts (commands : List Command) : List Nat :=
  (blocks commands).flatMap fun block => block.filterMap start

/-- Every type that is named is AUDIO, no INDEX comes before the first track, and every track
has one INDEX 01. -/
structure Regular (commands : List Command) : Prop where
  audio : ∀ type ∈ commands.filterMap type?, Text.upper type = "AUDIO".toList
  indexed : ∀ command ∈ preamble commands, command.isIndex = false
  started : ∀ block ∈ blocks commands, (block.filterMap start).length = 1

@[simp] theorem type?_track (type : Option (List Char)) : (track type).type? = type := rfl

@[simp] theorem type?_index (number offset : Nat) : (index number offset).type? = none := rfl

@[simp] theorem type?_other : other.type? = none := rfl

@[simp] theorem start_track (type : Option (List Char)) : (track type).start = none := rfl

@[simp] theorem start_index (number offset : Nat) :
    (index number offset).start = if number = 1 then some offset else none := rfl

@[simp] theorem start_other : other.start = none := rfl

@[simp] theorem isIndex_index (number offset : Nat) : (index number offset).isIndex = true := rfl

@[simp] theorem isIndex_other : other.isIndex = false := rfl

@[simp] theorem isTrack_track (type : Option (List Char)) : (track type).isTrack = true := rfl

@[simp] theorem isTrack_index (number offset : Nat) : (index number offset).isTrack = false := rfl

@[simp] theorem isTrack_other : other.isTrack = false := rfl

@[simp] theorem typed_bare : (track none).typed = other := rfl

@[simp] theorem typed_track (type : List Char) : (track (some type)).typed = track (some type) :=
  rfl

@[simp] theorem typed_index (number offset : Nat) :
    (index number offset).typed = index number offset := rfl

@[simp] theorem typed_other : other.typed = other := rfl

@[simp] theorem preamble_track (type : Option (List Char)) (rest : List Command) :
    preamble (.track type :: rest) = [] := rfl

@[simp] theorem preamble_index (number offset : Nat) (rest : List Command) :
    preamble (.index number offset :: rest) = .index number offset :: preamble rest := rfl

@[simp] theorem preamble_other (rest : List Command) :
    preamble (.other :: rest) = .other :: preamble rest := rfl

@[simp] theorem blocks_track (type : Option (List Char)) (rest : List Command) :
    blocks (.track type :: rest) = preamble rest :: blocks rest := rfl

@[simp] theorem blocks_index (number offset : Nat) (rest : List Command) :
    blocks (.index number offset :: rest) = blocks rest := rfl

@[simp] theorem blocks_other (rest : List Command) : blocks (.other :: rest) = blocks rest := rfl

end Command

/-! ## The loop reads regular sheets -/

namespace CueScan

open Command

/-- What the loop still needs before the next track: one start in all, or no index where there
was no track. -/
def Current (scan : CueScan) (block : List Command) : Prop :=
  if scan.inTrack then
    (block.filterMap start).length + (if scan.haveIndex01 then 1 else 0) = 1
  else ∀ command ∈ block, command.isIndex = false

/-- What the loop still needs of the commands to come. -/
def Needs (scan : CueScan) (commands : List Command) : Prop :=
  scan.Current (preamble commands) ∧
    (∀ type ∈ commands.filterMap type?, Text.upper type = "AUDIO".toList) ∧
      ∀ block ∈ blocks commands, (block.filterMap start).length = 1

/-- What the loop returns when it gets that. -/
def result (scan : CueScan) (commands : List Command) : List Nat :=
  scan.offsets ++ ((preamble commands).filterMap start ++ starts commands)

/-- One command, whose numbers are all read; nothing where the parser returns the empty list. -/
def stepCommand (scan : CueScan) : Command → Option CueScan
  | .track type =>
      if scan.inTrack && !scan.haveIndex01 then none
      else if Text.upper (type.getD []) ≠ "AUDIO".toList then none
      else some { scan with inTrack := true, haveIndex01 := false }
  | .index number offset =>
      if !scan.inTrack then none
      else if number ≠ 1 then some scan
      else if scan.haveIndex01 then none
      else some { scan with offsets := scan.offsets ++ [offset], haveIndex01 := true }
  | .other => some scan

/-- At the end the last track must have its start. -/
theorem needs_nil_iff (scan : CueScan) :
    scan.Needs [] ↔ (scan.inTrack && !scan.haveIndex01) = false := by
  cases inTrack : scan.inTrack <;> cases have01 : scan.haveIndex01 <;>
    simp [Needs, Current, preamble, Command.blocks, inTrack, have01]

/-- A track needs the start of the one before, and its own. -/
theorem needs_track_iff (scan : CueScan) (type : List Char) (rest : List Command) :
    scan.Needs (.track (some type) :: rest) ↔
      (scan.inTrack && !scan.haveIndex01) = false ∧ Text.upper type = "AUDIO".toList ∧
        ({ scan with inTrack := true, haveIndex01 := false } : CueScan).Needs rest := by
  have ended : scan.Current [] ↔ (scan.inTrack && !scan.haveIndex01) = false := by
    cases inTrack : scan.inTrack <;> cases have01 : scan.haveIndex01 <;>
      simp [Current, inTrack, have01]
  rw [Needs, Needs, preamble_track, blocks_track, ended, List.filterMap_cons, type?_track,
    List.forall_mem_cons, List.forall_mem_cons]
  simp only [Current, if_true, Bool.false_eq_true, if_false, Nat.add_zero]
  tauto

/-- An index needs a track, and an INDEX 01 one without a start. -/
theorem needs_index_iff (scan : CueScan) (number offset : Nat) (rest : List Command) :
    scan.Needs (.index number offset :: rest) ↔
      scan.inTrack = true ∧ if number = 1 then
        scan.haveIndex01 = false ∧
          ({ scan with offsets := scan.offsets ++ [offset], haveIndex01 := true } :
            CueScan).Needs rest
      else scan.Needs rest := by
  cases inTrack : scan.inTrack with
  | false => simp [Needs, Current, inTrack]
  | true =>
      split_ifs with first
      · cases have01 : scan.haveIndex01 <;> simp [Needs, Current, inTrack, have01, first]
      · simp [Needs, Current, inTrack, first]

/-- Other lines need nothing. -/
theorem needs_other_iff (scan : CueScan) (rest : List Command) :
    scan.Needs (.other :: rest) ↔ scan.Needs rest := by
  cases inTrack : scan.inTrack <;> simp [Needs, Current, inTrack, List.filterMap_cons]

/-- The loop gets through exactly when the commands give what it needs. -/
theorem foldlM_eq_some_iff {commands : List Command} (named : .track none ∉ commands)
    (scan : CueScan) (offsets : List Nat) :
    (commands.foldlM stepCommand scan).bind cueEnd = some offsets ↔
      scan.Needs commands ∧ offsets = scan.result commands := by
  induction commands generalizing scan with
  | nil =>
      rw [needs_nil_iff]
      cases ended : (scan.inTrack && !scan.haveIndex01) <;>
        simp [cueEnd, ended, result, starts, preamble, Command.blocks, eq_comm]
  | cons command rest ih =>
      have tail := ih fun track_mem => named (List.mem_cons_of_mem command track_mem)
      rw [List.foldlM_cons]
      cases command with
      | track type =>
          cases type with
          | none => exact absurd List.mem_cons_self named
          | some type =>
              rw [needs_track_iff, stepCommand, Option.getD_some]
              split_ifs with unstarted data
              · simp [unstarted]
              · constructor
                · intro impossible
                  contradiction
                · intro given
                  exact absurd given.1.2.1 data
              · have audio : Text.upper type = "AUDIO".toList := not_not.mp data
                rw [Bool.not_eq_true] at unstarted
                have same : scan.result (.track (some type) :: rest) =
                    ({ scan with inTrack := true, haveIndex01 := false } :
                      CueScan).result rest := by
                  simp [result, starts]
                rw [same, eq_true unstarted, eq_true audio, true_and, true_and]
                exact tail _
      | index number offset =>
          rw [needs_index_iff, stepCommand]
          cases inTrack : scan.inTrack with
          | false => simp
          | true =>
              by_cases first : number = 1
              · subst first
                cases have01 : scan.haveIndex01 with
                | true => simp
                | false =>
                    have later := tail
                      { offsets := scan.offsets ++ [offset], inTrack := true, haveIndex01 := true }
                    have same : scan.result (.index 1 offset :: rest) =
                        ({ offsets := scan.offsets ++ [offset], inTrack := true,
                           haveIndex01 := true } : CueScan).result rest := by
                      simp [result, starts]
                    rw [← same] at later
                    simpa using later
              · have same : scan.result (.index number offset :: rest) = scan.result rest := by
                  simp [result, starts, first]
                simpa [first, same] using tail scan
      | other =>
          rw [needs_other_iff]
          have same : scan.result (.other :: rest) = scan.result rest := by
            simp [result, starts, List.filterMap_cons]
          rw [same]
          exact tail scan

end CueScan

namespace Command

/-- The preamble of a regular sheet has no start. -/
theorem Regular.start_preamble {commands : List Command} (regular : Regular commands) :
    (preamble commands).filterMap start = [] := by
  rw [List.filterMap_eq_nil_iff]
  intro command command_mem
  have plain := regular.indexed command command_mem
  cases command with
  | track type => rfl
  | index number offset => contradiction
  | other => rfl

/-- At the start the loop needs a regular sheet. -/
theorem needs_iff_regular (commands : List Command) :
    ({} : CueScan).Needs commands ↔ Regular commands := by
  constructor
  · intro needs
    exact ⟨needs.2.1, needs.1, needs.2.2⟩
  · intro regular
    exact ⟨regular.indexed, regular.audio, regular.started⟩

/-- No command is a track without a type once these are passed over. -/
theorem track_none_not_mem_typed (commands : List Command) :
    .track none ∉ commands.map typed := by
  intro named
  obtain ⟨command, _, typed_eq⟩ := List.mem_map.mp named
  cases command with
  | track type =>
      cases type with
      | none => contradiction
      | some type =>
          rw [typed] at typed_eq
          · injection typed_eq with impossible
            contradiction
          · intro impossible
            injection impossible with impossible
            contradiction
  | index number offset => contradiction
  | other => contradiction

end Command

open Command

/-- The commands get through exactly where they are a regular sheet. -/
theorem foldlM_stepCommand_eq_some_iff {commands : List Command} (named : .track none ∉ commands)
    (offsets : List Nat) :
    (commands.foldlM CueScan.stepCommand {}).bind cueEnd = some offsets ↔
      Regular commands ∧ offsets = starts commands := by
  have result : Regular commands → ({} : CueScan).result commands = starts commands := by
    intro regular
    rw [CueScan.result, regular.start_preamble]
    rfl
  rw [CueScan.foldlM_eq_some_iff named, needs_iff_regular]
  constructor
  · intro read
    exact ⟨read.1, read.2.trans (result read.1)⟩
  · intro read
    exact ⟨read.1, read.2.trans (result read.1).symm⟩

/-! ## Numbers that are not read -/

/-- The commands lead into a track that still needs its INDEX 01. -/
def Opens (commands : List Command) : Prop := Regular (commands ++ [.index 1 0])

/-- An INDEX line whose number has more digits than `int` reads. -/
def LongNumber (line : List Char) : Prop :=
  trackMatch line = none ∧
    ∃ groups, indexMatch line = some groups ∧ Text.maxStrDigits < groups.number.length

/-- An INDEX 01 whose minutes, seconds or frames have. -/
def LongStart (line : List Char) : Prop :=
  trackMatch line = none ∧
    ∃ groups, indexMatch line = some groups ∧ Text.int groups.number = 1 ∧ ¬groups.Short

/-- The parser gets to the line, and to a number in it that `int` does not read. -/
def Stumbles (before : List Command) (line : List Char) : Prop :=
  LongNumber line ∧ (Regular before ∨ Opens before) ∧
      (∃ command ∈ before, command.isTrack = true) ∨
    LongStart line ∧ Opens before

namespace CueScan

/-- The commands so far lead here. -/
def After (scan : CueScan) (commands : List Command) : Prop :=
  commands.foldlM stepCommand {} = some scan

variable {scan : CueScan} {commands : List Command}

theorem After.concat (after : scan.After commands) {next : CueScan} {command : Command}
    (step : scan.stepCommand command = some next) : next.After (commands ++ [command]) := by
  rw [After, List.foldlM_append, after]
  exact (Option.bind_eq_some_iff.mpr ⟨next, step, rfl⟩ :
    (scan.stepCommand command).bind some = some next)

/-- Who is in a track has passed one. -/
theorem After.inTrack_iff (after : scan.After commands) :
    scan.inTrack = true ↔ ∃ command ∈ commands, command.isTrack = true := by
  induction commands using List.reverseRecOn generalizing scan with
  | nil =>
      rw [After, List.foldlM_nil] at after
      cases after
      simp
  | append_singleton commands command ih =>
      rw [After, List.foldlM_append] at after
      obtain ⟨middle, reached, step⟩ := Option.bind_eq_some_iff.mp after
      obtain ⟨last, step, same⟩ := Option.bind_eq_some_iff.mp step
      cases same
      have before := ih reached
      cases command with
      | track type =>
          rw [stepCommand] at step
          split_ifs at step
          cases step
          simp
      | index number offset =>
          rw [stepCommand] at step
          split_ifs at step with outside other again <;> cases step <;> simp [← before]
      | other =>
          cases step
          simp [← before]

/-- The commands are regular where the parser may stop. -/
theorem After.regular_iff (after : scan.After commands) (named : .track none ∉ commands) :
    Regular commands ↔ (scan.inTrack && !scan.haveIndex01) = false := by
  have ends := foldlM_stepCommand_eq_some_iff named (starts commands)
  rw [After] at after
  rw [after, Option.bind_some, cueEnd] at ends
  constructor
  · intro regular
    have stops := ends.mpr ⟨regular, rfl⟩
    split_ifs at stops with unstarted
    exact Bool.not_eq_true _ ▸ unstarted
  · intro started
    have read := foldlM_stepCommand_eq_some_iff named scan.offsets
    rw [after, Option.bind_some, cueEnd, if_neg (by simp [started])] at read
    exact (read.mp rfl).1

/-- They are open where the track needs its INDEX 01. -/
theorem After.opens_iff (after : scan.After commands) (named : .track none ∉ commands) :
    Opens commands ↔ scan.inTrack = true ∧ scan.haveIndex01 = false := by
  have bare : .track none ∉ commands ++ [.index 1 0] := by simp [named]
  constructor
  · intro opens
    have read := (foldlM_stepCommand_eq_some_iff bare _).mpr ⟨opens, rfl⟩
    rw [List.foldlM_append, after] at read
    cases inTrack : scan.inTrack <;> cases have01 : scan.haveIndex01 <;>
      simp [stepCommand, inTrack, have01] at read ⊢
  · intro needs
    have step : scan.stepCommand (.index 1 0) =
        some { scan with offsets := scan.offsets ++ [0], haveIndex01 := true } := by
      simp [stepCommand, needs.1, needs.2]
    have next := after.concat step
    exact (next.regular_iff bare).mpr (by simp)

end CueScan

/-- Where the commands get through they are regular or open. -/
theorem exists_after_iff {commands : List Command} (named : .track none ∉ commands) :
    (∃ scan : CueScan, scan.After commands) ↔ Regular commands ∨ Opens commands := by
  constructor
  · intro reached
    obtain ⟨scan, after⟩ := reached
    rw [after.regular_iff named, after.opens_iff named]
    cases scan.inTrack <;> cases scan.haveIndex01 <;> simp
  · intro given
    rcases given with regular | opens
    · have read := (foldlM_stepCommand_eq_some_iff named _).mpr ⟨regular, rfl⟩
      obtain ⟨scan, after, _⟩ := Option.bind_eq_some_iff.mp read
      exact ⟨scan, after⟩
    · have read := (foldlM_stepCommand_eq_some_iff (by simp [named]) _).mpr ⟨opens, rfl⟩
      obtain ⟨last, folded, _⟩ := Option.bind_eq_some_iff.mp read
      rw [List.foldlM_append] at folded
      obtain ⟨scan, after, _⟩ := Option.bind_eq_some_iff.mp folded
      exact ⟨scan, after⟩

/-! ## The loop over the lines -/

/-- The commands of lines, without the bare tracks. -/
def typedCommands (lines : List (List Char)) : List Command := (lines.map command).map typed

theorem track_none_not_mem_typedCommands (lines : List (List Char)) :
    .track none ∉ typedCommands lines := track_none_not_mem_typed _

/-- No line makes the parser stumble. -/
def Readable (lines : List (List Char)) : Prop :=
  ∀ before line after, lines = before ++ line :: after → ¬Stumbles (typedCommands before) line

/-- A line after others is read as its command; a track without a type is passed over, and a
number that is not read raises. -/
theorem cueStep_eq {scan : CueScan} {lines : List (List Char)}
    (after : scan.After (typedCommands lines)) (line : List Char) :
    (Stumbles (typedCommands lines) line ∧ cueStep scan line = .error .valueError) ∨
      (¬Stumbles (typedCommands lines) line ∧
        cueStep scan line =
          (scan.stepCommand (command line).typed).elim (.error .irregular) .ok) := by
  have named := track_none_not_mem_typedCommands lines
  have opens := after.opens_iff named
  have tracked := after.inTrack_iff
  have through := (exists_after_iff named).mp ⟨scan, after⟩
  rw [opens] at through
  rw [Stumbles, ← tracked, opens, LongNumber, LongStart, cueStep, command]
  cases track : trackMatch line with
  | some type =>
      right
      constructor
      · simp
      · simp only [typed_track, CueScan.stepCommand, Option.getD_some]
        split_ifs <;> rfl
  | none =>
      cases index : indexMatch line with
      | none =>
          right
          constructor
          · simp
          · cases isBareTrack line <;> rfl
      | some groups =>
          cases inTrack : scan.inTrack with
          | false =>
              right
              constructor
              · simp
              · simp [CueScan.stepCommand, inTrack]
          | true =>
              by_cases long : Text.maxStrDigits < groups.number.length
              · left
                constructor
                · rw [inTrack] at through
                  exact Or.inl ⟨⟨rfl, groups, rfl, long⟩, through, rfl⟩
                · simp [Text.readInt_eq_none long]
              · have number := Text.readInt_eq_some (Nat.le_of_not_lt long)
                by_cases first : Text.int groups.number = 1
                · cases have01 : scan.haveIndex01 with
                  | true =>
                      right
                      constructor
                      · simp [long]
                      · simp [CueScan.stepCommand, inTrack, have01, number, first]
                  | false =>
                      by_cases short : groups.Short
                      · right
                        constructor
                        · simp [long, short]
                        · simp [CueScan.stepCommand, inTrack, have01, number, first,
                            IndexGroups.readOffset_eq_some short]
                      · left
                        constructor
                        · exact Or.inr ⟨⟨rfl, groups, rfl, first, short⟩, rfl, rfl⟩
                        · simp [number, first, IndexGroups.readOffset_eq_none short]
                · right
                  constructor
                  · simp [long, first]
                  · simp [CueScan.stepCommand, inTrack, number, first]

/-- Lines without long numbers are readable. -/
theorem readable_of_forall {lines : List (List Char)}
    (short : ∀ line ∈ lines, ¬LongNumber line ∧ ¬LongStart line) : Readable lines := by
  intro before line after split stumbles
  have plain := short line (by rw [split]; simp)
  rcases stumbles with long | long
  · exact plain.1 long.1
  · exact plain.2 long.1

theorem readable_concat_iff (lines : List (List Char)) (line : List Char) :
    Readable (lines ++ [line]) ↔ Readable lines ∧ ¬Stumbles (typedCommands lines) line := by
  constructor
  · intro readable
    constructor
    · intro before other after split
      apply readable before other (after ++ [line])
      rw [split, List.append_assoc, List.cons_append]
    · exact readable lines line [] rfl
  · intro readable before other after split
    rcases List.eq_nil_or_concat after with rfl | ⟨shorter, last, rfl⟩
    · obtain ⟨rfl, same⟩ := List.append_inj' split rfl
      rw [List.singleton_inj.mp same] at readable
      exact readable.2
    · rw [List.concat_eq_append, ← List.cons_append, ← List.append_assoc] at split
      obtain ⟨rfl, _⟩ := List.append_inj' split rfl
      exact readable.1 before other shorter rfl

/-- The loop raises at a line that makes it stumble, and else goes through the commands. -/
theorem foldlM_cueStep (lines : List (List Char)) :
    (¬Readable lines ∧ lines.foldlM cueStep {} = .error .valueError) ∨
      (Readable lines ∧ lines.foldlM cueStep {} =
        ((typedCommands lines).foldlM CueScan.stepCommand {}).elim (.error .irregular) .ok) := by
  induction lines using List.reverseRecOn with
  | nil =>
      right
      constructor
      · intro before line after split
        simp at split
      · rfl
  | append_singleton lines line ih =>
      have named := track_none_not_mem_typedCommands lines
      have commands : typedCommands (lines ++ [line]) =
          typedCommands lines ++ [(command line).typed] := by
        simp [typedCommands]
      rw [readable_concat_iff, commands, List.foldlM_append, List.foldlM_append]
      rcases ih with ⟨stumbled, raised⟩ | ⟨readable, through⟩
      · rw [raised]
        exact Or.inl ⟨fun both => stumbled both.1, rfl⟩
      · rw [through]
        cases folded : (typedCommands lines).foldlM CueScan.stepCommand {} with
        | none =>
            -- the loop has returned, so no later line is read
            right
            constructor
            · refine ⟨readable, ?_⟩
              intro stumbles
              have reached : ∃ scan : CueScan, scan.After (typedCommands lines) := by
                apply (exists_after_iff named).mpr
                rcases stumbles with long | long
                · exact long.2.1
                · exact Or.inr long.2
              obtain ⟨scan, after⟩ := reached
              rw [CueScan.After, folded] at after
              contradiction
            · rfl
        | some scan =>
            have single : ∀ next, (Except.ok scan : Except CueStop CueScan) >>= (fun scan =>
                [line].foldlM cueStep scan) = next ↔ cueStep scan line = next := by
              intro next
              change (cueStep scan line).bind Except.ok = next ↔ _
              cases cueStep scan line <;> rfl
            have last : (some scan >>= fun scan =>
                [(command line).typed].foldlM CueScan.stepCommand scan) =
                  scan.stepCommand (command line).typed := by
              change (scan.stepCommand (command line).typed).bind some = _
              exact Option.bind_fun_some _
            rw [Option.elim_some, single, single, last]
            rcases cueStep_eq folded line with ⟨stumbles, raised⟩ | ⟨reads, step⟩
            · exact Or.inl ⟨fun both => both.2 stumbles, raised⟩
            · exact Or.inr ⟨⟨readable, reads⟩, step⟩

/-- A regular readable sheet gives the starts of its tracks. -/
theorem cueOffsets_of_regular {lines : List (List Char)} (readable : Readable lines)
    (regular : Regular (typedCommands lines)) :
    cueOffsets lines = some (starts (typedCommands lines)) := by
  have through := (foldlM_cueStep lines).resolve_left fun stumbled => stumbled.1 readable
  have read := (foldlM_stepCommand_eq_some_iff (track_none_not_mem_typedCommands lines) _).mpr
    ⟨regular, rfl⟩
  obtain ⟨scan, after, ended⟩ := Option.bind_eq_some_iff.mp read
  rw [cueOffsets, through.2, after, Option.elim_some]
  simp [ended]

/-- Another readable sheet gives nothing. -/
theorem cueOffsets_of_not_regular {lines : List (List Char)} (readable : Readable lines)
    (irregular : ¬Regular (typedCommands lines)) : cueOffsets lines = some [] := by
  have through := (foldlM_cueStep lines).resolve_left fun stumbled => stumbled.1 readable
  rw [cueOffsets, through.2]
  cases folded : (typedCommands lines).foldlM CueScan.stepCommand {} with
  | none => rfl
  | some scan =>
      cases ended : cueEnd scan with
      | none => simp [ended]
      | some offsets =>
          have read := foldlM_stepCommand_eq_some_iff (track_none_not_mem_typedCommands lines)
            offsets
          rw [folded, Option.bind_some, ended] at read
          exact absurd (read.mp rfl).1 irregular

/-- A sheet that is not readable raises. -/
theorem cueOffsets_of_not_readable {lines : List (List Char)} (stumbled : ¬Readable lines) :
    cueOffsets lines = none := by
  have raised := (foldlM_cueStep lines).resolve_right fun through => stumbled through.1
  rw [cueOffsets, raised.2]

/-! ## FILE commands -/

section File

variable (isalnum : Char → Bool)

/-- The line is a FILE command. -/
def isFile (line : List Char) : Bool := startsFile isalnum (line.dropWhile Text.isSpace)

/-- The lines of a text when only a line feed ends one. -/
def feedLines : List Char → List (List Char)
  | [] => [[]]
  | c :: rest =>
      if c = '\n' then [] :: feedLines rest
      else (c :: (feedLines rest).headD []) :: (feedLines rest).tail

/-- There is always a first line. -/
theorem feedLines_eq_cons (text : List Char) :
    feedLines text = (feedLines text).headD [] :: (feedLines text).tail := by
  cases text with
  | nil => rfl
  | cons c rest =>
      rw [feedLines]
      split_ifs <;> rfl

/-- A FILE is not begun by white space. -/
theorem startsFile_of_isSpace {c : Char} (space : Text.isSpace c = true) (rest : List Char) :
    startsFile isalnum (c :: rest) = false := by
  have other : Text.foldCase c ≠ 'f' := Text.foldCase_ne_of_isSpace space (by decide)
  have unmatched : Regex.matchPieces (Text.ignoreCase "file") (c :: rest) = none := by
    change (if decide (Text.foldCase c = 'f') = true then _ else none) = none
    rw [if_neg]
    simpa using other
  rw [startsFile, unmatched]
  rfl

/-- What comes after the line does not matter to a FILE in it. -/
theorem startsFile_append_break {line rest : List Char} {c : Char}
    (space : Text.isSpace c = true) :
    startsFile isalnum (line ++ c :: rest) = startsFile isalnum line := by
  have severed : Regex.Severed (c :: rest) (Text.ignoreCase "file") := by
    have literal : Regex.Severed (c :: rest) (Text.ignoreCase "file" ++ []) :=
      Text.severed_ignoreCase (by decide) space trivial
    rwa [List.append_nil] at literal
  rw [startsFile, startsFile, Regex.matchPieces_append severed]
  cases matched : Regex.matchPieces (Text.ignoreCase "file") line with
  | none => rfl
  | some found =>
      obtain ⟨groups, after⟩ := found
      cases after with
      | nil => simp [Text.isWord_of_isSpace isalnum space]
      | cons d after => rfl

/-- The first line ends with the text or before a line feed. -/
theorem exists_first_line (text : List Char) :
    text = (feedLines text).headD [] ∨
      ∃ later, text = (feedLines text).headD [] ++ '\n' :: later := by
  induction text with
  | nil => exact Or.inl rfl
  | cons c rest ih =>
      rw [feedLines]
      split_ifs with feed
      · rw [feed]
        exact Or.inr ⟨rest, rfl⟩
      · cases ih with
        | inl last => exact Or.inl (congrArg (c :: ·) last)
        | inr more =>
            obtain ⟨later, rest_eq⟩ := more
            exact Or.inr ⟨later, congrArg (c :: ·) rest_eq⟩

/-- A FILE at the start of a text is one of its first line. -/
theorem startsFile_first_line (c : Char) (text : List Char) :
    startsFile isalnum (c :: text) = startsFile isalnum (c :: (feedLines text).headD []) := by
  cases exists_first_line text with
  | inl last => rw [← last]
  | inr more =>
      obtain ⟨later, text_eq⟩ := more
      have whole : c :: text = (c :: (feedLines text).headD []) ++ '\n' :: later :=
        congrArg (c :: ·) text_eq
      rw [whole, startsFile_append_break isalnum (by decide)]

theorem isFile_cons_of_isSpace {c : Char} (space : Text.isSpace c = true) (line : List Char) :
    isFile isalnum (c :: line) = isFile isalnum line := by
  rw [isFile, isFile, List.dropWhile_cons_of_pos space]

theorem isFile_cons_of_not_isSpace {c : Char} (solid : Text.isSpace c = false)
    (line : List Char) : isFile isalnum (c :: line) = startsFile isalnum (c :: line) := by
  rw [isFile, List.dropWhile_cons_of_neg (by simp [solid])]

/-- The expression finds the FILE commands among the lines that line feeds end; the first of
them only counts while no other character was seen in it. -/
theorem fileMatches_eq (fresh : Bool) (text : List Char) :
    fileMatches isalnum fresh text =
      (if fresh && isFile isalnum ((feedLines text).headD []) then 1 else 0) +
        (feedLines text).tail.countP (isFile isalnum) := by
  induction text generalizing fresh with
  | nil => cases fresh <;> rfl
  | cons c rest ih =>
      have split := feedLines_eq_cons rest
      have first := startsFile_first_line isalnum c rest
      rw [fileMatches, feedLines]
      generalize (feedLines rest).headD [] = line at ih split first ⊢
      generalize (feedLines rest).tail = later at ih split ⊢
      by_cases feed : c = '\n'
      · subst feed
        have space : Text.isSpace '\n' = true := by decide
        have nothing : isFile isalnum [] = false := rfl
        rw [startsFile_of_isSpace isalnum space, Bool.and_false, if_neg Bool.false_ne_true,
          if_pos rfl, split, List.headD_cons, nothing, Bool.and_false, List.tail_cons,
          List.countP_cons]
        have again := ih true
        simp at again ⊢
        rw [again, Nat.add_comm]
      · rw [if_neg feed, List.headD_cons, List.tail_cons]
        cases space : Text.isSpace c with
        | true =>
            rw [startsFile_of_isSpace isalnum space, isFile_cons_of_isSpace isalnum space,
              Bool.and_false, if_neg Bool.false_ne_true, Bool.and_true]
            simp only [feed, decide_false, Bool.false_or]
            exact ih fresh
        | false =>
            rw [first, isFile_cons_of_not_isSpace isalnum space, ih, ih]
            cases fresh && startsFile isalnum (c :: line) <;> simp [feed]

/-- The FILE commands the parser counts. -/
theorem fileMatches_true (text : List Char) :
    fileMatches isalnum true text = (feedLines text).countP (isFile isalnum) := by
  rw [fileMatches_eq, feedLines_eq_cons text, List.countP_cons]
  simp [Nat.add_comm]

/-- A line that was begun ends with the text or before a line break. -/
theorem linesFrom_eq_cons (line text : List Char) (begun : line ≠ []) :
    ∃ more later, Text.linesFrom line text = (line ++ more) :: later ∧
      (text = more ∨ ∃ c rest, text = more ++ c :: rest ∧ Text.isLineBreak c = true) := by
  induction line, text using Text.linesFrom.induct with
  | case1 => exact absurd rfl begun
  | case2 line _ =>
      refine ⟨[], [], ?_, Or.inl rfl⟩
      rw [Text.linesFrom, if_neg begun, List.append_nil]
  | case3 line rest _ =>
      refine ⟨[], Text.linesFrom [] rest, ?_, Or.inr ⟨'\r', '\n' :: rest, rfl, by decide⟩⟩
      rw [Text.linesFrom, List.append_nil]
  | case4 line c rest no_feed ends _ =>
      refine ⟨[], Text.linesFrom [] rest, ?_, Or.inr ⟨c, rest, rfl, ends⟩⟩
      rw [Text.linesFrom, if_pos ends, List.append_nil]
      exact no_feed
  | case5 line c rest no_feed goes_on ih =>
      obtain ⟨more, later, lines_eq, ended⟩ := ih (by simp)
      refine ⟨c :: more, later, ?_, ?_⟩
      · rw [Text.linesFrom, if_neg goes_on, lines_eq, List.append_assoc]
        · rfl
        · exact no_feed
      · cases ended with
        | inl last => exact Or.inl (congrArg (c :: ·) last)
        | inr broken =>
            obtain ⟨d, others, rest_eq, ends⟩ := broken
            exact Or.inr ⟨d, others, congrArg (c :: ·) rest_eq, ends⟩

/-- A FILE that begins in a blank line makes it a FILE command. -/
theorem isFile_of_startsFile {blank : List Char} {c : Char} {rest : List Char}
    (spaces : ∀ d ∈ blank, Text.isSpace d = true)
    (starts : startsFile isalnum (c :: rest) = true) :
    ∃ line later, Text.linesFrom (blank ++ [c]) rest = line :: later ∧
      isFile isalnum line = true := by
  have solid : Text.isSpace c = false := by
    rw [← Bool.not_eq_true]
    intro space
    rw [startsFile_of_isSpace isalnum space] at starts
    contradiction
  obtain ⟨more, later, lines_eq, ended⟩ := linesFrom_eq_cons (blank ++ [c]) rest (by simp)
  refine ⟨_, later, lines_eq, ?_⟩
  have skipped : (blank ++ [c] ++ more).dropWhile Text.isSpace = c :: more := by
    rw [List.append_assoc, List.dropWhile_append_of_pos spaces]
    exact List.dropWhile_cons_of_neg (by simp [solid])
  rw [isFile, skipped]
  cases ended with
  | inl last => rwa [← last]
  | inr broken =>
      obtain ⟨d, others, rest_eq, ends⟩ := broken
      have whole : c :: rest = (c :: more) ++ d :: others := congrArg (c :: ·) rest_eq
      rwa [whole, startsFile_append_break isalnum (Text.isSpace_of_isLineBreak ends)] at starts

/-- The parser counts no FILE that begins no line: while a line may still begin with one, each
is counted for its line, and then for the lines after. -/
theorem fileMatches_le (line text : List Char) :
    fileMatches isalnum false text ≤ ((Text.linesFrom line text).drop 1).countP (isFile isalnum) ∧
      ((∀ c ∈ line, Text.isSpace c = true) →
        fileMatches isalnum true text ≤ (Text.linesFrom line text).countP (isFile isalnum)) := by
  induction line, text using Text.linesFrom.induct with
  | case1 => exact ⟨Nat.le_refl 0, fun _ => Nat.le_refl 0⟩
  | case2 line _ => exact ⟨Nat.zero_le _, fun _ => Nat.zero_le _⟩
  | case3 line rest ih =>
      have feed : fileMatches isalnum true rest ≤
          (Text.linesFrom [] rest).countP (isFile isalnum) := ih.2 (by simp)
      have counted : ∀ fresh, fileMatches isalnum fresh ('\r' :: '\n' :: rest) =
          fileMatches isalnum true rest := by
        intro fresh
        have carriage : startsFile isalnum ('\r' :: '\n' :: rest) = false :=
          startsFile_of_isSpace isalnum (by decide) _
        have newline : startsFile isalnum ('\n' :: rest) = false :=
          startsFile_of_isSpace isalnum (by decide) _
        simp [fileMatches, carriage, newline]
      rw [Text.linesFrom, counted, counted]
      constructor
      · exact feed
      · intro _
        exact Nat.le_trans feed ((List.sublist_cons_self _ _).countP_le)
  | case4 line c rest no_feed ends ih =>
      have space := Text.isSpace_of_isLineBreak ends
      have later : ∀ fresh, fileMatches isalnum fresh rest ≤
          (Text.linesFrom [] rest).countP (isFile isalnum) := by
        intro fresh
        cases fresh with
        | true => exact ih.2 (by simp)
        | false => exact Nat.le_trans ih.1 ((List.drop_sublist 1 _).countP_le)
      have counted : ∀ fresh, fileMatches isalnum fresh (c :: rest) ≤
          (Text.linesFrom [] rest).countP (isFile isalnum) := by
        intro fresh
        rw [fileMatches, startsFile_of_isSpace isalnum space, Bool.and_false,
          if_neg Bool.false_ne_true]
        exact later _
      rw [Text.linesFrom, if_pos ends]
      · constructor
        · exact counted false
        · intro _
          exact Nat.le_trans (counted true) ((List.sublist_cons_self _ _).countP_le)
      · exact no_feed
  | case5 line c rest no_feed goes_on ih =>
      have no_newline : c ≠ '\n' := by
        intro feed
        rw [feed] at goes_on
        exact goes_on (by decide)
      rw [Text.linesFrom, if_neg goes_on]
      · constructor
        · have passed : fileMatches isalnum false (c :: rest) = fileMatches isalnum false rest := by
            simp [fileMatches, no_newline]
          rw [passed]
          exact ih.1
        · intro blank
          cases starts : startsFile isalnum (c :: rest) with
          | true =>
              have counted : fileMatches isalnum true (c :: rest) =
                  1 + fileMatches isalnum false rest := by
                simp [fileMatches, starts]
              obtain ⟨first, later, lines_eq, isFile⟩ :=
                isFile_of_startsFile isalnum blank starts
              have others := ih.1
              rw [lines_eq, List.drop_one, List.tail_cons] at others
              rw [counted, lines_eq, List.countP_cons, if_pos isFile]
              omega
          | false =>
              have passed : fileMatches isalnum true (c :: rest) =
                  fileMatches isalnum (Text.isSpace c) rest := by
                simp [fileMatches, starts, no_newline]
              rw [passed]
              cases space : Text.isSpace c with
              | true =>
                  apply ih.2
                  intro d d_mem
                  rw [List.mem_append, List.mem_singleton] at d_mem
                  cases d_mem with
                  | inl in_line => exact blank d in_line
                  | inr last => rw [last, space]
              | false => exact Nat.le_trans ih.1 ((List.drop_sublist 1 _).countP_le)
      · exact no_feed

/-- The parser counts no more FILE commands than there are. -/
theorem fileMatches_le_countP (text : List Char) :
    fileMatches isalnum true text ≤ (Text.splitlines text).countP (isFile isalnum) :=
  (fileMatches_le isalnum [] text).2 (by simp)

end File

/-! ## Tracks and their starts -/

namespace Command

/-- The starts of a sheet are those before the first track and those of the tracks. -/
theorem filterMap_start (commands : List Command) :
    commands.filterMap start = (preamble commands).filterMap start ++ starts commands := by
  induction commands with
  | nil => rfl
  | cons command rest ih =>
      cases command with
      | track type => simpa [starts, List.filterMap_cons] using ih
      | index number offset =>
          by_cases first : number = 1 <;> simpa [starts, first] using ih
      | other => simpa [starts, List.filterMap_cons] using ih

/-- Every track has its block. -/
theorem length_blocks (commands : List Command) :
    (blocks commands).length = commands.countP isTrack := by
  induction commands with
  | nil => rfl
  | cons command rest ih => cases command <;> simp [List.countP_cons, ih]

/-- A regular sheet has a start for every track. -/
theorem Regular.length_starts {commands : List Command} (regular : Regular commands) :
    (starts commands).length = commands.countP isTrack := by
  have ones : (blocks commands).map (fun block => (block.filterMap start).length) =
      (blocks commands).map fun _ => 1 := by
    apply List.map_congr_left
    intro block block_mem
    exact regular.started block block_mem
  rw [starts, List.length_flatMap, ones, List.map_const', List.sum_replicate_nat,
    length_blocks, Nat.mul_one]

/-- A regular sheet with a track has a start. -/
theorem Regular.starts_ne_nil_iff {commands : List Command} (regular : Regular commands) :
    starts commands ≠ [] ↔ ∃ command ∈ commands, command.isTrack = true := by
  rw [← List.length_pos_iff, regular.length_starts, List.countP_pos_iff]

/-- A regular sheet has as many starts as tracks. -/
theorem Regular.length_filterMap {commands : List Command} (regular : Regular commands) :
    (commands.filterMap start).length = commands.countP isTrack := by
  rw [filterMap_start, regular.start_preamble, List.nil_append, regular.length_starts]

/-- The tracks are those with a type and those without. -/
theorem countP_isTrack (commands : List Command) :
    commands.countP isTrack =
      (commands.map typed).countP isTrack + commands.count (.track none) := by
  induction commands with
  | nil => rfl
  | cons command rest ih =>
      cases command with
      | track type =>
          cases type with
          | none =>
              simp only [List.countP_cons, List.count_cons, List.map_cons, ih, typed_bare,
                isTrack_track, isTrack_other, beq_self_eq_true]
              rfl
          | some type =>
              simp [List.countP_cons, ih, Nat.add_right_comm]
      | index number offset => simp [ih]
      | other => simp [ih]

/-- The starts do not depend on the tracks without a type. -/
theorem filterMap_start_typed (commands : List Command) :
    (commands.map typed).filterMap start = commands.filterMap start := by
  rw [List.filterMap_map]
  congr
  funext command
  cases command with
  | track type => cases type <;> rfl
  | index number offset => rfl
  | other => rfl

/-- With a track that names no type, a sheet is regular at most in one reading. -/
theorem not_regular_of_bare {commands : List Command} (bare : .track none ∈ commands)
    (regular : Regular (commands.map typed)) : ¬Regular commands := by
  intro counted
  have with_bare := counted.length_filterMap
  have without := regular.length_filterMap
  have tracks := countP_isTrack commands
  have some_bare := List.count_pos_iff.mpr bare
  rw [filterMap_start_typed] at without
  omega

end Command

/-! ## What the parser accepts -/

section Accepts

variable (isalnum : Char → Bool)

/-- The commands of a text; a TRACK with a number but no type may count as a track. -/
def readCommands (counted : Bool) (text : List Char) : List Command :=
  if counted then (Text.splitlines text).map command else typedCommands (Text.splitlines text)

/-- At most one line is a FILE command. -/
def SingleFile (text : List Char) : Prop :=
  (Text.splitlines text).countP (isFile isalnum) ≤ 1

/-- The parser returns the starts of a regular single-file sheet, and nothing for any other
text. -/
structure ReadsCue (counted : Bool) (text : List Char) : Prop where
  accepts : SingleFile isalnum text → Regular (readCommands counted text) →
    parseCueOffsets isalnum text = some (starts (readCommands counted text))
  rejects : ¬(SingleFile isalnum text ∧ Regular (readCommands counted text)) →
    parseCueOffsets isalnum text = some []

/-- No line the parser gets to has an INDEX with more digits than `int` reads. -/
def Legible (text : List Char) : Prop :=
  (feedLines text).countP (isFile isalnum) ≤ 1 → Readable (Text.splitlines text)

/-- A sheet as the parser sees it: at most one line between line feeds begins with FILE, and
the commands without the bare tracks are regular and have a track. -/
def LooksRegular (text : List Char) : Prop :=
  (feedLines text).countP (isFile isalnum) ≤ 1 ∧ Regular (readCommands false text) ∧
    ∃ command ∈ readCommands false text, command.isTrack = true

/-- What looks regular has no second FILE command; where a bare track counts, the sheet is
irregular with and without it. -/
def Undisguised (counted : Bool) (text : List Char) : Prop :=
  if .track none ∈ readCommands counted text then
    ¬LooksRegular isalnum text ∧
      ¬(SingleFile isalnum text ∧ Regular (readCommands counted text))
  else LooksRegular isalnum text → SingleFile isalnum text

variable {isalnum} in
/-- Illegible texts raise. -/
theorem parseCueOffsets_of_not_legible {text : List Char} (illegible : ¬Legible isalnum text) :
    parseCueOffsets isalnum text = none := by
  rw [Legible, Classical.not_imp, ← fileMatches_true] at illegible
  rw [parseCueOffsets, if_neg (by omega)]
  exact cueOffsets_of_not_readable illegible.2

variable {isalnum} in
/-- What looks regular is read as that. -/
theorem parseCueOffsets_of_looksRegular {text : List Char} (legible : Legible isalnum text)
    (looks : LooksRegular isalnum text) :
    parseCueOffsets isalnum text = some (starts (readCommands false text)) ∧
      parseCueOffsets isalnum text ≠ some [] := by
  obtain ⟨files, regular, tracks⟩ := looks
  have readable := legible files
  have single : ¬fileMatches isalnum true text > 1 := by
    rw [fileMatches_true]
    omega
  have read : parseCueOffsets isalnum text = some (starts (readCommands false text)) := by
    rw [parseCueOffsets, if_neg single]
    exact cueOffsets_of_regular readable regular
  constructor
  · exact read
  · rw [read]
    intro nothing
    exact regular.starts_ne_nil_iff.mpr tracks (Option.some.inj nothing)

variable {isalnum} in
/-- Nothing else is read. -/
theorem parseCueOffsets_of_not_looksRegular {text : List Char} (legible : Legible isalnum text)
    (looks : ¬LooksRegular isalnum text) : parseCueOffsets isalnum text = some [] := by
  rw [parseCueOffsets]
  split_ifs with files
  · rfl
  · rw [fileMatches_true] at files
    have readable := legible (by omega)
    by_cases regular : Regular (readCommands false text)
    · have read : cueOffsets (Text.splitlines text) = some (starts (readCommands false text)) :=
        cueOffsets_of_regular readable regular
      rw [read, Option.some.injEq]
      by_contra tracks
      exact looks ⟨by omega, regular, regular.starts_ne_nil_iff.mp tracks⟩
    · exact cueOffsets_of_not_regular readable regular

/-- A single-file text looks like one. -/
theorem SingleFile.feedLines_le {text : List Char} (single : SingleFile isalnum text) :
    (feedLines text).countP (isFile isalnum) ≤ 1 := by
  rw [← fileMatches_true]
  exact Nat.le_trans (fileMatches_le_countP isalnum text) single

/-- A regular single-file text gives the starts of its tracks. -/
theorem parseCueOffsets_of_regular {text : List Char} (legible : Legible isalnum text)
    (single : SingleFile isalnum text) (regular : Regular (readCommands false text)) :
    parseCueOffsets isalnum text = some (starts (readCommands false text)) := by
  have files := single.feedLines_le
  have readable := legible files
  rw [← fileMatches_true] at files
  rw [parseCueOffsets, if_neg (by omega)]
  exact cueOffsets_of_regular readable regular

/-- Without a bare track both readings agree. -/
theorem readCommands_eq_of_bare {counted : Bool} {text : List Char}
    (bare : .track none ∉ readCommands counted text) :
    readCommands counted text = readCommands false text := by
  cases counted with
  | false => rfl
  | true =>
      refine ((List.map_congr_left ?_).trans (List.map_id _)).symm
      intro command command_mem
      cases command with
      | track type =>
          cases type with
          | none => exact absurd command_mem bare
          | some type => rfl
      | index number offset => rfl
      | other => rfl

/-- A legible text is read as it should exactly when it is undisguised. -/
theorem readsCue_iff_of_legible {text : List Char} (legible : Legible isalnum text)
    (counted : Bool) :
    ReadsCue isalnum counted text ↔ Undisguised isalnum counted text := by
  rw [Undisguised]
  split_ifs with bare
  · cases counted with
    | false => exact absurd bare (track_none_not_mem_typed _)
    | true =>
        constructor
        · intro reads
          have irregular : LooksRegular isalnum text → ¬Regular (readCommands true text) :=
            fun looks => not_regular_of_bare bare looks.2.1
          constructor
          · intro looks
            have nothing := reads.rejects fun given => irregular looks given.2
            exact (parseCueOffsets_of_looksRegular legible looks).2 nothing
          · intro given
            have read := reads.accepts given.1 given.2
            have looks : ¬LooksRegular isalnum text := fun looks => irregular looks given.2
            rw [parseCueOffsets_of_not_looksRegular legible looks, Option.some.injEq] at read
            exact given.2.starts_ne_nil_iff.mpr ⟨_, bare, rfl⟩ read.symm
        · intro given
          obtain ⟨looks, irregular⟩ := given
          constructor
          · intro single regular
            exact absurd ⟨single, regular⟩ irregular
          · intro _
            exact parseCueOffsets_of_not_looksRegular legible looks
  · have same := readCommands_eq_of_bare bare
    constructor
    · intro reads looks
      by_contra several
      have nothing := reads.rejects fun given => several given.1
      exact (parseCueOffsets_of_looksRegular legible looks).2 nothing
    · intro undisguised
      constructor
      · intro single regular
        rw [same] at regular ⊢
        exact parseCueOffsets_of_regular isalnum legible single regular
      · intro irregular
        apply parseCueOffsets_of_not_looksRegular legible
        intro looks
        rw [same] at irregular
        exact irregular ⟨undisguised looks, looks.2.1⟩

/-- What is read as it should is read at all. -/
theorem ReadsCue.legible {counted : Bool} {text : List Char}
    (reads : ReadsCue isalnum counted text) : Legible isalnum text := by
  by_contra illegible
  have raised := parseCueOffsets_of_not_legible illegible
  by_cases given : SingleFile isalnum text ∧ Regular (readCommands counted text)
  · rw [reads.accepts given.1 given.2] at raised
    contradiction
  · rw [reads.rejects given] at raised
    contradiction

/-- The parser reads a text as it should exactly when the text is legible and undisguised. -/
theorem readsCue_iff (counted : Bool) (text : List Char) :
    ReadsCue isalnum counted text ↔
      Legible isalnum text ∧ Undisguised isalnum counted text := by
  constructor
  · intro reads
    have legible := reads.legible
    exact ⟨legible, (readsCue_iff_of_legible isalnum legible counted).mp reads⟩
  · intro given
    exact (readsCue_iff_of_legible isalnum given.1 counted).mpr given.2

end Accepts

/-- Two FILE commands on lines that carriage returns end. -/
def carriageReturns : List Char :=
  "FILE a\rFILE b\rTRACK 01 AUDIO\rINDEX 01 00:00:02".toList

set_option maxRecDepth 2000 in
/-- The second FILE command is not seen. -/
theorem not_readsCue_carriageReturns :
    ¬ReadsCue Char.isAlphanum false carriageReturns := by
  intro reads
  have read : parseCueOffsets Char.isAlphanum carriageReturns = some [2] := by decide
  have nothing := reads.rejects fun given => absurd given.1 (by unfold SingleFile; decide)
  rw [read] at nothing
  contradiction

end Mintarr.Disc
