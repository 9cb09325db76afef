import Mathlib.Algebra.Group.Int.Defs
import Mintarr.Disc.Cue
import Mintarr.Disc.ReadText

/-!
# Tables of contents

A table of contents is rebuilt from the lengths of the tracks, or from one image and its cue
sheet.  For a sheet rendered from the lengths both ways agree.
-/

namespace Mintarr.Disc

open Lib

/-! ## Both reconstructions -/

/-- `SAMPLES_PER_FRAME`. -/
def samplesPerFrame : Int := 588

/-- `CdToc`. -/
structure CdToc where
  trackOffsetsFrames : List Int
  leadoutFrames : Int
  trackCount : Nat
  deriving DecidableEq, Repr

/-- `build_toc_from_track_lengths`. -/
def buildTocFromTrackLengths (lengths : List Int) : Option CdToc :=
  if lengths.isEmpty || lengths.any (· ≤ 0) then none
  else
    let built : List Int × Int := lengths.foldl
      (fun built length => (built.1 ++ [built.2], built.2 + length)) ([], 0)
    some
      { trackOffsetsFrames := built.1
        leadoutFrames := built.2
        trackCount := built.1.length }

/-- `_samples_to_frames`. -/
def samplesToFrames (samples : Int) : Option Int :=
  if samples ≤ 0 ∨ samples % samplesPerFrame ≠ 0 then none else some (samples / samplesPerFrame)

section Reconstruction

-- the paths below the folder, the sample count a file is read to have, and its content
variable {Path : Type} (flacSamples : Path → Option Int) (content : Path → Option (List UInt8))
-- `str.isalnum`, and the machine's byte order
variable (isalnum : Char → Bool) (native : Bool)

/-- The frames of a file. -/
def framesOf (flac : Path) : Option Int := (flacSamples flac).bind samplesToFrames

/-- `_toc_from_per_track`. -/
def tocFromPerTrack (flacs : List Path) : Option CdToc := do
  let lengths ← flacs.mapM (framesOf flacSamples)
  buildTocFromTrackLengths lengths

/-- The checks of `_toc_from_single_image` on the offsets it parsed. -/
def checkedToc (offsets : List Int) (leadout : Int) : Option CdToc :=
  match offsets.head?, offsets.getLast? with
  | some first, some last =>
      if first ≠ 0 ∨ (offsets.zip offsets.tail).any fun pair => pair.2 ≤ pair.1 then none
      else if last ≥ leadout then none
      else
        some
          { trackOffsetsFrames := offsets
            leadoutFrames := leadout
            trackCount := offsets.length }
  | _, _ => none

/-- `_toc_from_single_image`, with the sorted cue sheets below the folder; nothing at all where
it raises. -/
def tocFromSingleImage (image : Path) (cues : List Path) : Option (Option CdToc) :=
  match cues.head?, framesOf flacSamples image with
  | some cue, some leadout =>
      (parseCueOffsets isalnum (readCue native (content cue))).map fun offsets =>
        checkedToc (offsets.map Int.ofNat) leadout
  | _, _ => some none

/-- `reconstruct_toc`, with the sorted FLAC files and cue sheets below the folder; nothing at
all where it raises. -/
def reconstructToc (isDir : Bool) (flacs cues : List Path) : Option (Option CdToc) :=
  if !isDir then some none
  else
    match flacs with
    | [] => some none
    | [image] => tocFromSingleImage flacSamples content isalnum native image cues
    | flacs => some (tocFromPerTrack flacSamples flacs)

end Reconstruction

/-! ## Running offsets -/

/-- Where each track begins. -/
def offsetsFrom : Nat → List Nat → List Nat
  | _, [] => []
  | start, length :: lengths => start :: offsetsFrom (start + length) lengths

/-- The loop collects the running offsets. -/
theorem foldl_offsets (lengths : List Nat) (offsets : List Int) (start : Nat) :
    (lengths.map Int.ofNat).foldl
        (fun built length => (built.1 ++ [built.2], built.2 + length))
        (offsets, Int.ofNat start) =
      (offsets ++ (offsetsFrom start lengths).map Int.ofNat,
        Int.ofNat (start + lengths.sum)) := by
  induction lengths generalizing offsets start with
  | nil => simp [offsetsFrom]
  | cons length lengths ih =>
      have step := ih (offsets ++ [Int.ofNat start]) (start + length)
      rw [List.map_cons, List.foldl_cons, List.sum_cons, offsetsFrom, List.map_cons,
        ← Nat.add_assoc]
      rw [List.append_assoc, List.singleton_append] at step
      exact step

/-- Offsets lie from the first on before the end. -/
theorem bounds_of_mem_offsetsFrom {lengths : List Nat} (positive : ∀ length ∈ lengths, 0 < length)
    {start offset : Nat} (offset_mem : offset ∈ offsetsFrom start lengths) :
    start ≤ offset ∧ offset < start + lengths.sum := by
  induction lengths generalizing start with
  | nil => contradiction
  | cons length lengths ih =>
      have head := positive length List.mem_cons_self
      rw [List.sum_cons]
      cases List.mem_cons.mp offset_mem with
      | inl first => omega
      | inr later =>
          have tail := ih (fun other other_mem => positive other (List.mem_cons_of_mem _ other_mem))
            later
          omega

/-- Offsets increase. -/
theorem pairwise_offsetsFrom {lengths : List Nat} (positive : ∀ length ∈ lengths, 0 < length)
    (start : Nat) : (offsetsFrom start lengths).Pairwise (· < ·) := by
  induction lengths generalizing start with
  | nil => exact List.Pairwise.nil
  | cons length lengths ih =>
      have head := positive length List.mem_cons_self
      have others : ∀ other ∈ lengths, 0 < other :=
        fun other other_mem => positive other (List.mem_cons_of_mem _ other_mem)
      rw [offsetsFrom, List.pairwise_cons]
      constructor
      · intro offset offset_mem
        have bounds := bounds_of_mem_offsetsFrom others offset_mem
        omega
      · exact ih others (start + length)

/-- The tracks give their offsets. -/
theorem buildTocFromTrackLengths_eq {lengths : List Nat} (nonempty : lengths ≠ [])
    (positive : ∀ length ∈ lengths, 0 < length) :
    buildTocFromTrackLengths (lengths.map Int.ofNat) =
      some
        { trackOffsetsFrames := (offsetsFrom 0 lengths).map Int.ofNat
          leadoutFrames := Int.ofNat lengths.sum
          trackCount := (offsetsFrom 0 lengths).length } := by
  have usable : ¬((lengths.map Int.ofNat).isEmpty ||
      (lengths.map Int.ofNat).any (· ≤ 0)) = true := by
    simp only [List.isEmpty_map, List.any_map, Bool.or_eq_true, List.isEmpty_iff, nonempty,
      false_or, List.any_eq_true, not_exists, not_and]
    intro length length_mem
    have head := positive length length_mem
    simp
    omega
  have built := foldl_offsets lengths [] 0
  rw [buildTocFromTrackLengths, if_neg usable]
  have zero : Int.ofNat 0 = 0 := rfl
  rw [zero, List.nil_append, Nat.zero_add] at built
  simp only [built, List.length_map]

/-! ## Rendered sheets -/

/-- A number of at least two digits. -/
def twoDigits (number : Nat) : List Char :=
  if number < 10 then '0' :: Nat.toDigits 10 number else Nat.toDigits 10 number

/-- `TRACK nn AUDIO`. -/
def trackLine (indent : List Char) (number : Nat) : List Char :=
  indent ++ ("TRACK".toList ++ ([' '] ++ (twoDigits number ++ ([' '] ++ "AUDIO".toList))))

/-- `INDEX 01 MM:SS:FF`. -/
def indexLine (indent : List Char) (offset : Nat) : List Char :=
  indent ++ ("INDEX".toList ++ ([' '] ++ (twoDigits 1 ++ ([' '] ++
    (twoDigits (offset / 4500) ++ (':' :: (twoDigits (offset / 75 % 60) ++
      (':' :: twoDigits (offset % 75)))))))))

/-- An INDEX whose number is read as zero. -/
def Pregap (line : List Char) : Prop :=
  trackMatch line = none ∧
    ∃ groups, indexMatch line = some groups ∧ Text.readInt groups.number = some 0

/-- A line between the commands of a track: it is an INDEX 00, or no TRACK or INDEX at all. -/
def Passive (line : List Char) : Prop := (command line).typed = .other ∨ Pregap line

/-- A track of a sheet: its length, and the lines around its INDEX 01. -/
structure CueTrack where
  length : Nat
  number : Nat
  indent : List Char
  before : List (List Char)
  indexIndent : List Char
  after : List (List Char)
  positive : 0 < length
  indent_spaces : ∀ c ∈ indent, Text.isSpace c = true
  indexIndent_spaces : ∀ c ∈ indexIndent, Text.isSpace c = true
  before_passive : ∀ line ∈ before, Passive line
  after_passive : ∀ line ∈ after, Passive line

/-- The lines of a track that begins at an offset. -/
def CueTrack.lines (track : CueTrack) (start : Nat) : List (List Char) :=
  trackLine track.indent track.number ::
    (track.before ++ indexLine track.indexIndent start :: track.after)

/-- The lines of the tracks from an offset on. -/
def trackLines : Nat → List CueTrack → List (List Char)
  | _, [] => []
  | start, track :: tracks => track.lines start ++ trackLines (start + track.length) tracks

/-- A sheet: the lines before its first track, and its tracks. -/
structure CueSheet where
  header : List (List Char)
  tracks : List CueTrack
  header_plain : ∀ line ∈ header, (command line).typed = .other

namespace CueSheet

/-- The lines of a sheet. -/
def lines (sheet : CueSheet) : List (List Char) := sheet.header ++ trackLines 0 sheet.tracks

/-- The lengths a sheet was rendered from. -/
def lengths (sheet : CueSheet) : List Nat := sheet.tracks.map CueTrack.length

end CueSheet

/-! ## Reading the rendered lines -/

theorem isDecimal_of_mem_twoDigits {number : Nat} {c : Char} (c_mem : c ∈ twoDigits number) :
    Text.isDecimal c = true := by
  rw [twoDigits] at c_mem
  split_ifs at c_mem
  · cases List.mem_cons.mp c_mem with
    | inl zero =>
        rw [zero]
        exact Text.isDecimal_of_isDigit (by decide)
    | inr digit => exact Text.isDecimal_of_mem_toDigits digit
  · exact Text.isDecimal_of_mem_toDigits c_mem

/-- A number of two digits is read. -/
theorem int_twoDigits (number : Nat) : Text.int (twoDigits number) = number := by
  rw [twoDigits]
  split_ifs
  · exact Text.int_toDigits number
  · exact Text.int_toDigits number

theorem length_twoDigits_pos (number : Nat) : 1 ≤ (twoDigits number).length := by
  rw [twoDigits]
  split_ifs
  · simp
  · exact Nat.length_toDigits_pos

/-- A number does not begin with white space. -/
theorem head_twoDigits (number : Nat) (rest : List Char) :
    ((twoDigits number ++ rest).head?.all fun c => !Text.isSpace c) = true := by
  rw [twoDigits]
  split_ifs
  · rfl
  · exact Text.head_toDigits number rest

/-- A run of digits takes a number of two digits. -/
theorem matchPieces_twoDigits {captured : Bool} {pieces : List (Piece Char)}
    {rest after : List Char} {groups : List (List Char)} (number : Nat)
    (stops : (rest.head?.all fun c => !Text.isDecimal c) = true)
    (matched : Regex.matchPieces pieces rest = some (groups, after)) :
    Regex.matchPieces (.run Text.isDecimal 1 none captured :: pieces) (twoDigits number ++ rest) =
      some (if captured then twoDigits number :: groups else groups, after) :=
  Regex.matchPieces_run_stops (fun _ c_mem => isDecimal_of_mem_twoDigits c_mem)
    (length_twoDigits_pos number) stops matched

/-- A run of white space takes a blank. -/
theorem matchPieces_blank {pieces : List (Piece Char)} {rest after : List Char}
    {groups : List (List Char)}
    (stops : (rest.head?.all fun c => !Text.isSpace c) = true)
    (matched : Regex.matchPieces pieces rest = some (groups, after)) :
    Regex.matchPieces (.run Text.isSpace 1 none false :: pieces) ([' '] ++ rest) =
      some (groups, after) := by
  apply Regex.matchPieces_run_stops
  · intro c c_mem
    rw [List.mem_singleton] at c_mem
    rw [c_mem]
    rfl
  · exact Nat.le_refl 1
  · exact stops
  · exact matched

/-- Only letters of a command follow its indentation. -/
theorem isSpace_foldCase_ne {letter : Char} (solid : Text.isSpace letter = false) :
    ∀ c, Text.isSpace c = true → decide (Text.foldCase c = letter) = false := by
  intro c space
  simpa using Text.foldCase_ne_of_isSpace space solid

/-- A track line names its type. -/
theorem trackMatch_trackLine {indent : List Char} (number : Nat)
    (spaces : ∀ c ∈ indent, Text.isSpace c = true) :
    trackMatch (trackLine indent number) = some "AUDIO".toList := by
  have type : Regex.matchPieces [.run (fun c => !Text.isSpace c) 1 none true] "AUDIO".toList =
      some (["AUDIO".toList], []) := rfl
  have named := matchPieces_blank (by decide) type
  have numbered : Regex.matchPieces [.run Text.isDecimal 1 none false,
      .run Text.isSpace 1 none false, .run (fun c => !Text.isSpace c) 1 none true]
      (twoDigits number ++ ([' '] ++ "AUDIO".toList)) = some (["AUDIO".toList], []) :=
    matchPieces_twoDigits number (by decide) named
  have blank := matchPieces_blank (head_twoDigits number _) numbered
  have word :=
    (Text.matchPieces_ignoreCase "track" "TRACK".toList (by decide) _ _).trans blank
  have solid : Text.isSpace 't' = false := by decide
  have matched : Regex.matchPieces cueTrack (trackLine indent number) =
      some (["AUDIO".toList], []) :=
    (Regex.matchPieces_leading spaces rfl (isSpace_foldCase_ne solid)).trans word
  rw [trackMatch, matched]
  rfl

/-- An index line is no track. -/
theorem trackMatch_indexLine {indent : List Char} (offset : Nat)
    (spaces : ∀ c ∈ indent, Text.isSpace c = true) :
    trackMatch (indexLine indent offset) = none := by
  have solid : Text.isSpace 't' = false := by decide
  have matched : Regex.matchPieces cueTrack (indexLine indent offset) = none :=
    (Regex.matchPieces_leading spaces rfl (isSpace_foldCase_ne solid)).trans rfl
  rw [trackMatch, matched]
  rfl

/-- Minutes, seconds and frames of an offset. -/
theorem msfToFrames_eq (offset : Nat) :
    msfToFrames (offset / 4500) (offset / 75 % 60) (offset % 75) = offset := by
  rw [msfToFrames]
  omega

/-- What the expression finds in an index line. -/
def indexGroups (offset : Nat) : IndexGroups where
  number := twoDigits 1
  minutes := twoDigits (offset / 4500)
  seconds := twoDigits (offset / 75 % 60)
  frames := twoDigits (offset % 75)

theorem offset_indexGroups (offset : Nat) : (indexGroups offset).offset = offset := by
  rw [IndexGroups.offset, indexGroups, int_twoDigits, int_twoDigits, int_twoDigits]
  exact msfToFrames_eq offset

/-- An index line gives its number and its offset. -/
theorem indexMatch_indexLine {indent : List Char} (offset : Nat)
    (spaces : ∀ c ∈ indent, Text.isSpace c = true) :
    indexMatch (indexLine indent offset) = some (indexGroups offset) := by
  have frames : Regex.matchPieces [.run Text.isDecimal 1 none true]
      (twoDigits (offset % 75) ++ []) = some ([twoDigits (offset % 75)], []) :=
    matchPieces_twoDigits _ rfl rfl
  rw [List.append_nil] at frames
  have seconds : Regex.matchPieces [.run Text.isDecimal 1 none true,
      .one fun c => c = ':', .run Text.isDecimal 1 none true]
      (twoDigits (offset / 75 % 60) ++ (':' :: twoDigits (offset % 75))) =
        some ([twoDigits (offset / 75 % 60), twoDigits (offset % 75)], []) :=
    matchPieces_twoDigits _ rfl frames
  have minutes : Regex.matchPieces [.run Text.isDecimal 1 none true,
      .one fun c => c = ':', .run Text.isDecimal 1 none true,
      .one fun c => c = ':', .run Text.isDecimal 1 none true]
      (twoDigits (offset / 4500) ++ (':' :: (twoDigits (offset / 75 % 60) ++
        (':' :: twoDigits (offset % 75))))) =
        some ([twoDigits (offset / 4500), twoDigits (offset / 75 % 60),
          twoDigits (offset % 75)], []) :=
    matchPieces_twoDigits _ rfl seconds
  have spaced := matchPieces_blank (head_twoDigits _ _) minutes
  have numbered : Regex.matchPieces [.run Text.isDecimal 1 none true,
      .run Text.isSpace 1 none false, .run Text.isDecimal 1 none true,
      .one fun c => c = ':', .run Text.isDecimal 1 none true,
      .one fun c => c = ':', .run Text.isDecimal 1 none true]
      (twoDigits 1 ++ ([' '] ++ (twoDigits (offset / 4500) ++
        (':' :: (twoDigits (offset / 75 % 60) ++ (':' :: twoDigits (offset % 75))))))) =
        some ([twoDigits 1, twoDigits (offset / 4500), twoDigits (offset / 75 % 60),
          twoDigits (offset % 75)], []) :=
    matchPieces_twoDigits _ rfl spaced
  have blank := matchPieces_blank (head_twoDigits 1 _) numbered
  have word :=
    (Text.matchPieces_ignoreCase "index" "INDEX".toList (by decide) _ _).trans blank
  have solid : Text.isSpace 'i' = false := by decide
  have matched : Regex.matchPieces cueIndex (indexLine indent offset) =
      some ([twoDigits 1, twoDigits (offset / 4500), twoDigits (offset / 75 % 60),
        twoDigits (offset % 75)], []) :=
    (Regex.matchPieces_leading spaces rfl (isSpace_foldCase_ne solid)).trans word
  rw [indexMatch, matched]
  rfl

theorem command_trackLine {indent : List Char} (number : Nat)
    (spaces : ∀ c ∈ indent, Text.isSpace c = true) :
    command (trackLine indent number) = .track (some "AUDIO".toList) := by
  rw [command, trackMatch_trackLine number spaces]

theorem command_indexLine {indent : List Char} (offset : Nat)
    (spaces : ∀ c ∈ indent, Text.isSpace c = true) :
    command (indexLine indent offset) = .index 1 offset := by
  have one : Text.int (indexGroups offset).number = 1 := int_twoDigits 1
  rw [command, trackMatch_indexLine offset spaces, indexMatch_indexLine offset spaces]
  simp only [one, offset_indexGroups]

/-! ## Every number of a rendered sheet is read -/

theorem length_twoDigits_le {number : Nat} (small : number < 10 ^ 36) :
    (twoDigits number).length ≤ Text.maxStrDigits := by
  have few := (Nat.length_toDigits_le_iff (k := 36) (by decide) (by decide)).mpr small
  rw [twoDigits, Text.maxStrDigits]
  split_ifs
  · rw [List.length_cons]
    omega
  · omega

/-- A line that is no command has no number. -/
theorem short_of_other {line : List Char} (other : (command line).typed = .other) :
    ¬LongNumber line ∧ ¬LongStart line := by
  have unread : trackMatch line = none → indexMatch line = none := by
    intro track
    cases index : indexMatch line with
    | none => rfl
    | some groups =>
        rw [command, track, index] at other
        contradiction
  constructor
  · intro long
    obtain ⟨track, groups, index, _⟩ := long
    rw [unread track] at index
    contradiction
  · intro long
    obtain ⟨track, groups, index, _⟩ := long
    rw [unread track] at index
    contradiction

/-- Nor is that of a pregap too long. -/
theorem short_of_passive {line : List Char} (passive : Passive line) :
    ¬LongNumber line ∧ ¬LongStart line := by
  rcases passive with other | ⟨_, groups, index, zero⟩
  · exact short_of_other other
  · rw [Text.readInt] at zero
    split_ifs at zero with few
    rw [Option.some.injEq] at zero
    constructor
    · intro long
      obtain ⟨_, found, found_eq, many⟩ := long
      rw [index, Option.some.injEq] at found_eq
      rw [← found_eq] at many
      omega
    · intro long
      obtain ⟨_, found, found_eq, first, _⟩ := long
      rw [index, Option.some.injEq] at found_eq
      rw [← found_eq, zero] at first
      contradiction

/-- A track line has no number that is read. -/
theorem short_trackLine {indent : List Char} (number : Nat)
    (spaces : ∀ c ∈ indent, Text.isSpace c = true) :
    ¬LongNumber (trackLine indent number) ∧ ¬LongStart (trackLine indent number) := by
  have named := trackMatch_trackLine number spaces
  constructor
  · intro long
    rw [long.1] at named
    contradiction
  · intro long
    rw [long.1] at named
    contradiction

/-- The numbers of an index line are short where its offset is one of an image. -/
theorem short_indexLine {indent : List Char} {offset : Nat} (small : offset < 2 ^ 36)
    (spaces : ∀ c ∈ indent, Text.isSpace c = true) :
    ¬LongNumber (indexLine indent offset) ∧ ¬LongStart (indexLine indent offset) := by
  have found := indexMatch_indexLine offset spaces
  constructor
  · intro long
    obtain ⟨_, groups, index, many⟩ := long
    rw [found, Option.some.injEq] at index
    have few : (twoDigits 1).length ≤ Text.maxStrDigits := length_twoDigits_le (by decide)
    rw [← index] at many
    exact absurd many (Nat.not_lt.mpr few)
  · intro long
    obtain ⟨_, groups, index, _, many⟩ := long
    rw [found, Option.some.injEq] at index
    rw [← index] at many
    apply many
    refine ⟨length_twoDigits_le ?_, length_twoDigits_le ?_, length_twoDigits_le ?_⟩ <;> omega

/-! ## The commands of a rendered sheet -/

namespace Command

/-- A command between those of a track. -/
def Quiet (command : Command) : Prop := command = .other ∨ ∃ offset, command = .index 0 offset

theorem Quiet.start {command : Command} (quiet : Quiet command) : command.start = none := by
  obtain rfl | ⟨offset, rfl⟩ := quiet <;> rfl

theorem Quiet.type? {command : Command} (quiet : Quiet command) : command.type? = none := by
  obtain rfl | ⟨offset, rfl⟩ := quiet <;> rfl

theorem Quiet.isTrack {command : Command} (quiet : Quiet command) : command.isTrack = false := by
  obtain rfl | ⟨offset, rfl⟩ := quiet <;> rfl

section Quiet

variable {quiet : List Command} (silent : ∀ command ∈ quiet, Quiet command)

include silent

theorem preamble_append (rest : List Command) :
    preamble (quiet ++ rest) = quiet ++ preamble rest := by
  apply List.takeWhile_append_of_pos
  intro command command_mem
  rw [(silent command command_mem).isTrack]
  rfl

theorem blocks_append (rest : List Command) : blocks (quiet ++ rest) = blocks rest := by
  induction quiet with
  | nil => rfl
  | cons command quiet ih =>
      have track := (silent command List.mem_cons_self).isTrack
      rw [List.cons_append, blocks, if_neg (by simp [track])]
      exact ih fun later later_mem => silent later (List.mem_cons_of_mem command later_mem)

theorem filterMap_start_quiet : quiet.filterMap start = [] := by
  rw [List.filterMap_eq_nil_iff]
  intro command command_mem
  exact (silent command command_mem).start

theorem filterMap_type?_quiet : quiet.filterMap Command.type? = [] := by
  rw [List.filterMap_eq_nil_iff]
  intro command command_mem
  exact (silent command command_mem).type?

end Quiet

end Command

open Command

theorem typedCommands_append (lines others : List (List Char)) :
    typedCommands (lines ++ others) = typedCommands lines ++ typedCommands others := by
  rw [typedCommands, List.map_append, List.map_append]
  rfl

/-- Passive lines are quiet. -/
theorem quiet_of_passive {lines : List (List Char)} (passive : ∀ line ∈ lines, Passive line) :
    ∀ command ∈ typedCommands lines, Quiet command := by
  intro command command_mem
  obtain ⟨read, read_mem, rfl⟩ := List.mem_map.mp command_mem
  obtain ⟨line, line_mem, rfl⟩ := List.mem_map.mp read_mem
  cases passive line line_mem with
  | inl plain => exact Or.inl plain
  | inr pregap =>
      obtain ⟨track, groups, index, zero⟩ := pregap
      rw [Text.readInt] at zero
      split_ifs at zero
      rw [Option.some.injEq] at zero
      rw [command, track, index]
      exact Or.inr ⟨groups.offset, by simp only [zero, typed_index]⟩

/-- The commands of a track. -/
theorem typedCommands_track (track : CueTrack) (start : Nat) (others : List (List Char)) :
    typedCommands (track.lines start ++ others) =
      .track (some "AUDIO".toList) :: (typedCommands track.before ++
        .index 1 start :: (typedCommands track.after ++ typedCommands others)) := by
  rw [CueTrack.lines, List.cons_append, List.append_assoc, List.cons_append]
  simp only [typedCommands, List.map_cons, List.map_append,
    command_trackLine track.number track.indent_spaces,
    command_indexLine start track.indexIndent_spaces, typed_track, typed_index]

/-- The tracks begin at their offsets. -/
theorem typedCommands_trackLines (start : Nat) (tracks : List CueTrack) :
    preamble (typedCommands (trackLines start tracks)) = [] ∧
      starts (typedCommands (trackLines start tracks)) =
        offsetsFrom start (tracks.map CueTrack.length) ∧
      (∀ block ∈ blocks (typedCommands (trackLines start tracks)),
        (block.filterMap Command.start).length = 1) ∧
      ∀ type ∈ (typedCommands (trackLines start tracks)).filterMap type?,
        Text.upper type = "AUDIO".toList := by
  induction tracks generalizing start with
  | nil => simp [trackLines, typedCommands, preamble, starts, Command.blocks, offsetsFrom]
  | cons track tracks ih =>
      obtain ⟨no_preamble, starts_eq, started, audio⟩ := ih (start + track.length)
      have before := quiet_of_passive track.before_passive
      have after := quiet_of_passive track.after_passive
      have block : preamble (typedCommands track.before ++ .index 1 start ::
          (typedCommands track.after ++ typedCommands (trackLines (start + track.length) tracks))) =
            typedCommands track.before ++ .index 1 start :: typedCommands track.after := by
        rw [preamble_append before, preamble_index, preamble_append after, no_preamble,
          List.append_nil]
      have others : blocks (typedCommands track.before ++ .index 1 start ::
          (typedCommands track.after ++ typedCommands (trackLines (start + track.length) tracks))) =
            blocks (typedCommands (trackLines (start + track.length) tracks)) := by
        rw [blocks_append before, blocks_index, blocks_append after]
      have one : (typedCommands track.before ++ .index 1 start ::
          typedCommands track.after).filterMap Command.start = [start] := by
        have head : (Command.index 1 start).start = some start := rfl
        rw [List.filterMap_append, filterMap_start_quiet before, List.filterMap_cons_some head,
          filterMap_start_quiet after]
        rfl
      rw [trackLines, typedCommands_track]
      refine ⟨rfl, ?_, ?_, ?_⟩
      · rw [starts, blocks_track, block, others, List.flatMap_cons, one]
        exact congrArg (start :: ·) starts_eq
      · rw [blocks_track, block, others, List.forall_mem_cons]
        constructor
        · rw [one]
          rfl
        · exact started
      · have named : (Command.track (some "AUDIO".toList)).type? = some "AUDIO".toList := rfl
        have unnamed : (Command.index 1 start).type? = none := rfl
        rw [List.filterMap_cons_some named, List.filterMap_append, filterMap_type?_quiet before,
          List.filterMap_cons_none unnamed, List.filterMap_append, filterMap_type?_quiet after,
          List.nil_append, List.nil_append, List.forall_mem_cons]
        constructor
        · decide
        · exact audio

namespace CueSheet

/-- Every track has a length. -/
theorem lengths_positive (sheet : CueSheet) : ∀ length ∈ sheet.lengths, 0 < length := by
  intro length length_mem
  obtain ⟨track, _, rfl⟩ := List.mem_map.mp length_mem
  exact track.positive

/-- A sheet is regular, and its tracks begin at their offsets. -/
theorem regular_lines (sheet : CueSheet) :
    Regular (typedCommands sheet.lines) ∧
      starts (typedCommands sheet.lines) = offsetsFrom 0 sheet.lengths := by
  obtain ⟨no_preamble, starts_eq, started, audio⟩ := typedCommands_trackLines 0 sheet.tracks
  have plain : ∀ command ∈ typedCommands sheet.header, command = .other := by
    intro command command_mem
    obtain ⟨read, read_mem, rfl⟩ := List.mem_map.mp command_mem
    obtain ⟨line, line_mem, rfl⟩ := List.mem_map.mp read_mem
    exact sheet.header_plain line line_mem
  have quiet : ∀ command ∈ typedCommands sheet.header, Quiet command :=
    fun command command_mem => Or.inl (plain command command_mem)
  rw [lines, typedCommands_append]
  constructor
  · constructor
    · rw [List.filterMap_append, filterMap_type?_quiet quiet, List.nil_append]
      exact audio
    · rw [preamble_append quiet, no_preamble, List.append_nil]
      intro command command_mem
      rw [plain command command_mem]
      rfl
    · rw [blocks_append quiet]
      exact started
  · rw [starts, blocks_append quiet]
    exact starts_eq

/-- Its numbers are read where it is the sheet of an image. -/
theorem readable_lines (sheet : CueSheet) (small : sheet.lengths.sum < 2 ^ 36) :
    Readable sheet.lines := by
  apply readable_of_forall
  intro line line_mem
  rcases List.mem_append.mp line_mem with header | track
  · exact short_of_other (sheet.header_plain line header)
  · have each : ∀ (tracks : List CueTrack) (start : Nat),
        start + (tracks.map CueTrack.length).sum < 2 ^ 36 →
          line ∈ trackLines start tracks → ¬LongNumber line ∧ ¬LongStart line := by
      intro tracks
      induction tracks with
      | nil =>
          intro start _ listed
          contradiction
      | cons first tracks ih =>
          intro start within listed
          rw [List.map_cons, List.sum_cons] at within
          rw [trackLines, CueTrack.lines, List.cons_append, List.append_assoc, List.cons_append,
            List.mem_cons, List.mem_append, List.mem_cons, List.mem_append] at listed
          rcases listed with rfl | before | rfl | after | later
          · exact short_trackLine first.number first.indent_spaces
          · exact short_of_passive (first.before_passive line before)
          · exact short_indexLine (by omega) first.indexIndent_spaces
          · exact short_of_passive (first.after_passive line after)
          · exact ih (start + first.length) (by omega) later
    exact each sheet.tracks 0 (by rwa [Nat.zero_add]) track

end CueSheet

/-! ## Both ways agree -/

/-- Increasing offsets pass the check of the single image. -/
theorem any_zip_tail_of_pairwise {offsets : List Int} (increasing : offsets.Pairwise (· < ·)) :
    ((offsets.zip offsets.tail).any fun pair => pair.2 ≤ pair.1) = false := by
  induction offsets with
  | nil => rfl
  | cons first offsets ih =>
      rw [List.pairwise_cons] at increasing
      cases offsets with
      | nil => rfl
      | cons second offsets =>
          have below := increasing.1 second List.mem_cons_self
          rw [List.tail_cons, List.zip_cons_cons, List.any_cons]
          rw [List.tail_cons] at ih
          rw [ih increasing.2, Bool.or_false, decide_eq_false_iff_not]
          omega

section Agree

variable {Path : Type} (flacSamples : Path → Option Int) (content : Path → Option (List UInt8))
variable (isalnum : Char → Bool) (native : Bool)

/-- A sample count no reconstruction uses: it is missing, not positive, or not a whole number of
frames. -/
def Unusable (samples : Option Int) : Prop :=
  ∀ count, samples = some count → count ≤ 0 ∨ count % samplesPerFrame ≠ 0

/-- No frames come of an unusable count. -/
theorem framesOf_eq_none {flac : Path} (unusable : Unusable (flacSamples flac)) :
    framesOf flacSamples flac = none := by
  rw [framesOf]
  cases read : flacSamples flac with
  | none => rfl
  | some count => exact if_pos (unusable count read)

/-- The frames of whole frames. -/
theorem framesOf_eq_some {flac : Path} {length : Nat} (positive : 0 < length)
    (read : flacSamples flac = some (588 * (length : Int))) :
    framesOf flacSamples flac = some (Int.ofNat length) := by
  have usable : ¬((588 * length : Int) ≤ 0 ∨ (588 * length : Int) % samplesPerFrame ≠ 0) := by
    rw [samplesPerFrame]
    omega
  have frames : (588 * length : Int) / samplesPerFrame = length := by
    rw [samplesPerFrame]
    omega
  rw [framesOf, read, Option.bind_some, samplesToFrames, if_neg usable, frames]
  rfl

/-- One unusable file spoils the reconstruction from tracks. -/
theorem tocFromPerTrack_eq_none {flacs : List Path}
    (spoiled : ∃ flac ∈ flacs, Unusable (flacSamples flac)) :
    tocFromPerTrack flacSamples flacs = none := by
  have frames : flacs.mapM (framesOf flacSamples) = none := by
    induction flacs with
    | nil => simp at spoiled
    | cons flac flacs ih =>
        rw [List.mapM_cons]
        cases head : framesOf flacSamples flac with
        | none => rfl
        | some length =>
            have tail : flacs.mapM (framesOf flacSamples) = none := by
              apply ih
              obtain ⟨bad, bad_mem, unusable⟩ := spoiled
              cases List.mem_cons.mp bad_mem with
              | inl same =>
                  rw [← same, framesOf_eq_none flacSamples unusable] at head
                  contradiction
              | inr later => exact ⟨bad, later, unusable⟩
            rw [tail]
            rfl
  rw [tocFromPerTrack, frames]
  rfl

/-- An unusable image spoils the reconstruction from it. -/
theorem tocFromSingleImage_eq_none {image : Path} (cues : List Path)
    (unusable : Unusable (flacSamples image)) :
    tocFromSingleImage flacSamples content isalnum native image cues = some none := by
  rw [tocFromSingleImage, framesOf_eq_none flacSamples unusable]
  cases cues.head? <;> rfl

/-- The tracks of a sheet give its table. -/
theorem tocFromPerTrack_eq {lengths : List Nat} {flacs : List Path} (nonempty : lengths ≠ [])
    (positive : ∀ length ∈ lengths, 0 < length)
    (read : flacs.map flacSamples =
      lengths.map fun length : Nat => some (588 * (length : Int))) :
    tocFromPerTrack flacSamples flacs =
      some
        { trackOffsetsFrames := (offsetsFrom 0 lengths).map Int.ofNat
          leadoutFrames := Int.ofNat lengths.sum
          trackCount := (offsetsFrom 0 lengths).length } := by
  have frames : flacs.mapM (framesOf flacSamples) = some (lengths.map Int.ofNat) := by
    clear nonempty
    induction lengths generalizing flacs with
    | nil =>
        rw [List.map_nil, List.map_eq_nil_iff] at read
        rw [read]
        rfl
    | cons length lengths ih =>
        obtain ⟨flac, others, rfl, head, tail⟩ := List.map_eq_cons_iff.mp read
        have first := framesOf_eq_some flacSamples (positive length List.mem_cons_self) head
        have later := ih (fun other other_mem => positive other (List.mem_cons_of_mem _ other_mem))
          tail
        rw [List.mapM_cons, first, later]
        rfl
  rw [tocFromPerTrack, frames]
  exact buildTocFromTrackLengths_eq nonempty positive

/-- The offsets of the tracks pass the checks. -/
theorem checkedToc_eq {lengths : List Nat} (nonempty : lengths ≠ [])
    (positive : ∀ length ∈ lengths, 0 < length) :
    checkedToc ((offsetsFrom 0 lengths).map Int.ofNat) (Int.ofNat lengths.sum) =
      some
        { trackOffsetsFrames := (offsetsFrom 0 lengths).map Int.ofNat
          leadoutFrames := Int.ofNat lengths.sum
          trackCount := (offsetsFrom 0 lengths).length } := by
  have first : ((offsetsFrom 0 lengths).map Int.ofNat).head? = some 0 := by
    cases lengths with
    | nil => contradiction
    | cons length lengths => rfl
  have some_offset : (offsetsFrom 0 lengths).map Int.ofNat ≠ [] := by
    intro empty
    rw [empty] at first
    contradiction
  have last := List.getLast?_eq_some_getLast some_offset
  have before_end : ¬((offsetsFrom 0 lengths).map Int.ofNat).getLast some_offset ≥
      Int.ofNat lengths.sum := by
    obtain ⟨offset, offset_mem, offset_eq⟩ := List.mem_map.mp (List.getLast_mem some_offset)
    have bounds := bounds_of_mem_offsetsFrom positive offset_mem
    rw [← offset_eq]
    intro beyond
    have beyond_nat := Int.ofNat_le.mp beyond
    omega
  have increasing : ((offsetsFrom 0 lengths).map Int.ofNat).Pairwise (· < ·) := by
    rw [List.pairwise_map]
    apply (pairwise_offsetsFrom positive 0).imp
    intro before after below
    exact Int.ofNat_lt.mpr below
  have checked : ¬((0 : Int) ≠ 0 ∨ (((offsetsFrom 0 lengths).map Int.ofNat).zip
      ((offsetsFrom 0 lengths).map Int.ofNat).tail).any
        (fun pair => pair.2 ≤ pair.1) = true) := by
    rw [any_zip_tail_of_pairwise increasing]
    simp
  rw [checkedToc, first, last]
  simp only [if_neg checked, if_neg before_end, List.length_map]

/-- The cue sheet of an image gives the same table. -/
theorem tocFromSingleImage_eq {sheet : CueSheet} {image cue : Path} (cues : List Path)
    {text : List Char} (nonempty : sheet.lengths ≠ [])
    (stored : StoredUtf8 (1024 * 1024) (content cue) text)
    (rendered : Text.splitlines text = sheet.lines) (single : SingleFile isalnum text)
    (streaminfo : ∀ path count, flacSamples path = some count → count < 2 ^ 36)
    (read : flacSamples image = some (588 * (sheet.lengths.sum : Int))) :
    tocFromSingleImage flacSamples content isalnum native image (cue :: cues) =
      some (some
        { trackOffsetsFrames := (offsetsFrom 0 sheet.lengths).map Int.ofNat
          leadoutFrames := Int.ofNat sheet.lengths.sum
          trackCount := (offsetsFrom 0 sheet.lengths).length }) := by
  have positive := sheet.lengths_positive
  obtain ⟨regular, starts_eq⟩ := sheet.regular_lines
  have text_eq : readCue native (content cue) = text := readText_of_storedUtf8 native stored
  have commands : readCommands false text = typedCommands sheet.lines := by
    rw [← rendered]
    rfl
  have legible : Legible isalnum text := by
    intro _
    rw [rendered]
    have counted := streaminfo image _ read
    exact sheet.readable_lines (by omega)
  have parsed : parseCueOffsets isalnum text = some (offsetsFrom 0 sheet.lengths) := by
    rw [← starts_eq, ← commands]
    apply parseCueOffsets_of_regular isalnum legible single
    rw [commands]
    exact regular
  have sum_positive : 0 < sheet.lengths.sum := by
    cases shape : sheet.lengths with
    | nil => exact absurd shape nonempty
    | cons length lengths =>
        have head := positive length (by rw [shape]; exact List.mem_cons_self)
        rw [List.sum_cons]
        omega
  rw [tocFromSingleImage, List.head?_cons, framesOf_eq_some flacSamples sum_positive read]
  simp only [text_eq, parsed, Option.map_some]
  rw [checkedToc_eq nonempty positive]

/-- The tracks of an album and its image with a stored sheet rendered from them give one table,
whose offsets begin at zero, increase and lie before the lead-out; an unusable sample count gives
none.  FLAC counts the samples of a file in 36 bits. -/
theorem reconstructions_agree {sheet : CueSheet} {text : List Char} {flacs : List Path}
    {image cue : Path} (cues : List Path) (tracks : 2 ≤ sheet.lengths.length)
    (rendered : Text.splitlines text = sheet.lines) (single : SingleFile isalnum text)
    (stored : StoredUtf8 (1024 * 1024) (content cue) text)
    (streaminfo : ∀ path count, flacSamples path = some count → count < 2 ^ 36)
    (read_tracks : flacs.map flacSamples =
      sheet.lengths.map fun length : Nat => some (588 * (length : Int)))
    (read_image : flacSamples image = some (588 * (sheet.lengths.sum : Int))) :
    (∃ toc, tocFromPerTrack flacSamples flacs = some toc ∧
      tocFromSingleImage flacSamples content isalnum native image (cue :: cues) =
        some (some toc) ∧
      toc.trackOffsetsFrames.head? = some 0 ∧ toc.trackOffsetsFrames.Pairwise (· < ·) ∧
      ∀ offset ∈ toc.trackOffsetsFrames, offset < toc.leadoutFrames) ∧
    (∀ flacs : List Path, (∃ flac ∈ flacs, Unusable (flacSamples flac)) →
      tocFromPerTrack flacSamples flacs = none) ∧
    ∀ (image : Path) (cues : List Path), Unusable (flacSamples image) →
      tocFromSingleImage flacSamples content isalnum native image cues = some none := by
  have nonempty : sheet.lengths ≠ [] := by
    intro empty
    rw [empty] at tracks
    contradiction
  have positive := sheet.lengths_positive
  refine ⟨⟨_, tocFromPerTrack_eq flacSamples nonempty positive read_tracks,
    tocFromSingleImage_eq flacSamples content isalnum native cues nonempty stored rendered single
      streaminfo read_image, ?_, ?_, ?_⟩, ?_, ?_⟩
  · cases shape : sheet.lengths with
    | nil => exact absurd shape nonempty
    | cons length lengths => rfl
  · rw [List.pairwise_map]
    apply (pairwise_offsetsFrom positive 0).imp
    intro before after below
    exact Int.ofNat_lt.mpr below
  · intro offset offset_mem
    obtain ⟨start, start_mem, rfl⟩ := List.mem_map.mp offset_mem
    have bounds := bounds_of_mem_offsetsFrom positive start_mem
    rw [Nat.zero_add] at bounds
    exact Int.ofNat_lt.mpr bounds.2
  · intro flacs spoiled
    exact tocFromPerTrack_eq_none flacSamples spoiled
  · intro image cues unusable
    exact tocFromSingleImage_eq_none flacSamples content isalnum native cues unusable

end Agree

/-! ### Two tracks of two and four seconds -/

/-- The second track has a pregap. -/
def pregapLine : List Char := "  INDEX 00 00:01:70".toList

/-- A track with quiet lines before its start. -/
def quietTrack (length number : Nat) (before : List (List Char)) (positive : 0 < length)
    (passive : ∀ line ∈ before, Passive line) : CueTrack where
  length
  number
  indent := [' ']
  before
  indexIndent := [' ']
  after := []
  positive
  indent_spaces := List.forall_mem_singleton.mpr rfl
  indexIndent_spaces := List.forall_mem_singleton.mpr rfl
  before_passive := passive
  after_passive := by simp

theorem passive_title : ∀ line ∈ ["  TITLE é".toList], Passive line := by
  intro line line_mem
  rw [List.mem_singleton.mp line_mem]
  exact Or.inl (by decide)

theorem passive_pregap : ∀ line ∈ [pregapLine], Passive line := by
  intro line line_mem
  rw [List.mem_singleton.mp line_mem]
  exact Or.inr ⟨by decide, _, rfl, by decide⟩

/-- The sheet of two tracks. -/
def twoTracks : CueSheet where
  header := ["FILE x WAVE".toList]
  tracks := [quietTrack 150 1 ["  TITLE é".toList] (by decide) passive_title,
    quietTrack 300 2 [pregapLine] (by decide) passive_pregap]
  header_plain := by decide

/-- Its text. -/
def twoTracksText : List Char :=
  ("FILE x WAVE\r\n TRACK 01 AUDIO\n  TITLE é\n INDEX 01 00:00:00\n TRACK 02 AUDIO\n" ++
    "  INDEX 00 00:01:70\n INDEX 01 00:02:00").toList

/-- The files: the image, its sheet, and the tracks. -/
def sampleCounts (path : String) : Option Int :=
  [("image.flac", 264600), ("01.flac", 88200), ("02.flac", 176400)].lookup path

def cueContent (path : String) : Option (List UInt8) :=
  if path = "image.cue" then some (Utf8.encode twoTracksText) else none

theorem sampleCounts_lt (path : String) (count : Int) (read : sampleCounts path = some count) :
    count < 2 ^ 36 := by
  rw [sampleCounts, List.lookup_cons, List.lookup_cons, List.lookup_cons, List.lookup_nil] at read
  split at read
  · cases read
    decide
  · split at read
    · cases read
      decide
    · split at read
      · cases read
        decide
      · contradiction

set_option maxRecDepth 4000 in
/-- Both ways give the table of the two tracks. -/
theorem reconstructions_agree_twoTracks :
    ∃ toc, tocFromPerTrack sampleCounts ["01.flac", "02.flac"] = some toc ∧
      tocFromSingleImage sampleCounts cueContent Char.isAlphanum false "image.flac"
        ["image.cue"] = some (some toc) := by
  have stored : StoredUtf8 (1024 * 1024) (cueContent "image.cue") twoTracksText :=
    ⟨false, if_pos rfl, by decide, fun _ => by decide⟩
  obtain ⟨⟨toc, tracks, image, _⟩, _⟩ := @reconstructions_agree String sampleCounts cueContent
    Char.isAlphanum false twoTracks twoTracksText ["01.flac", "02.flac"] "image.flac" "image.cue"
    [] (by decide) (by decide) (by unfold SingleFile; decide) stored sampleCounts_lt (by decide)
    (by decide)
  exact ⟨toc, tracks, image⟩

end Mintarr.Disc
