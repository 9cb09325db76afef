import Mathlib.Data.List.Nodup
import Mintarr.Import.Progress
import Mintarr.Lib.Characters

/-!
# The rescue

Where a ManualImport fails, the files are copied into the library by name, and Lidarr is asked to
look there.  What is outside of Mintarr is an argument: Lidarr's answers, the output, and how
each copy ends.
-/

namespace Mintarr.Import.Rescue

open Lib Progress

universe u

/-! ## Names -/

/-- `_sanitize_path_segment`. -/
def sanitizePathSegment (segment : Option String) : String :=
  match segment with
  | none => "Unknown"
  | some text =>
      if text = "" then "Unknown"
      else
        let separated := text.toList.map fun c => if c = '/' ∨ c = '\\' then '_' else c
        let kept := separated.filter fun c => c ≠ '\x00'
        let bare := String.ofList ((Text.strip Text.isSpace kept).dropWhile fun c => c = '.')
        if bare = "" ∨ bare = ".." ∨ bare = "." then "Unknown" else bare

/-- What is read of an album. -/
structure AlbumAnswer where
  title : Option String
  releaseDate : Option String

/-- The year in the name of an album's folder. -/
def albumYear (album : AlbumAnswer) : String :=
  let year := (album.releaseDate.getD "").toList.take 4
  if Text.isdigit year then String.ofList year else "0000"

/-- A part of a path that names something below. -/
def Plain (part : String) : Prop := part ≠ "" ∧ part ≠ "." ∧ part ≠ ".."

instance (part : String) : Decidable (Plain part) := inferInstanceAs (Decidable (_ ∧ _))

/-! ## The surroundings -/

variable {Content : Type u}

/-- A file of the library. -/
structure Entry (Content : Type u) where
  content : Content
  album : Option Int
  deriving DecidableEq

/-- How a copy ends: a copy that fails leaves something at its destination, or nothing. -/
inductive CopyOutcome (Content : Type u) where
  | copied
  | failed (left : Option (Entry Content))
  deriving DecidableEq

/-- Whether a copy is counted. -/
def CopyOutcome.counted : CopyOutcome Content → Bool
  | .copied => true
  | .failed _ => false

/-- What is outside; `none` and `false` stand for a raised exception. -/
structure Outside (Content : Type u) where
  completeRoot : String
  outputBase : PurePath
  cancelled : Bool
  rescueEnabled : Bool
  album : Option AlbumAnswer
  /-- The answer for the artist, with the name. -/
  artist : Option (Option String)
  /-- `Path.resolve`. -/
  resolve : PurePath → PurePath
  folderMade : Bool
  /-- The files of the output. -/
  disk : PurePath → Option Content
  copy : PurePath → CopyOutcome Content
  refreshed : Bool
  /-- How many trackfiles Lidarr has of the album afterwards. -/
  registered : Option Nat
  hidden : Bool
  resolves : ∀ path, ∀ part ∈ (resolve path).parts, Plain part
  named : ∀ path content, disk path = some content → Plain path.name

/-- The library, and what was copied into it. -/
structure Placing (Content : Type u) where
  library : PurePath → Option (Entry Content)
  /-- The source and the destination of each call of `shutil.copy2`. -/
  placed : List (PurePath × PurePath) := []
  moved : Nat := 0

namespace Outside

variable (outside : Outside Content)

/-- `library_root`. -/
def libraryRoot : PurePath := outside.resolve (.ofString "/music/Album")

/-- `album_folder_p`. -/
def albumFolder (album : AlbumAnswer) (artistName : Option String) : PurePath :=
  outside.resolve
    ((outside.libraryRoot.joinpath (.ofString (sanitizePathSegment artistName))).joinpath
      (.ofString (sanitizePathSegment album.title ++ " (" ++ albumYear album ++ ")")))

/-- `path.is_relative_to(library_root)`. -/
def contained (path : PurePath) : Bool :=
  path.root = outside.libraryRoot.root && outside.libraryRoot.parts.isPrefixOf path.parts

/-- The file that a submitted path stands for. -/
def source (file : ImportFile) : PurePath :=
  lidarrPathToOutputPath outside.completeRoot outside.outputBase file.path

/-- The destination of a file. -/
def destination (folder : PurePath) (file : ImportFile) : PurePath :=
  { folder with parts := folder.parts ++ [(outside.source file).name] }

/-- What a copy leaves at its destination. -/
def left (albumId : Int) (file : ImportFile) : Option (Entry Content) :=
  match outside.copy (outside.source file) with
  | .copied => (outside.disk (outside.source file)).map fun content => ⟨content, albumId⟩
  | .failed left => left

/-- One file of the loop. -/
def copyFile (folder : PurePath) (albumId : Int) (placing : Placing Content)
    (file : ImportFile) : Placing Content :=
  match outside.disk (outside.source file) with
  | none => placing
  | some _ =>
      { library := fun path =>
          if path = outside.destination folder file then outside.left albumId file
          else placing.library path
        placed := placing.placed ++
          [(outside.source file, outside.destination folder file)]
        moved :=
          if (outside.copy (outside.source file)).counted then placing.moved + 1
          else placing.moved }

/-- The folder of the album of the first file, if Lidarr answers. -/
def folderOfAlbum : Option PurePath := do
  let album ← outside.album
  let artistName ← outside.artist
  some (outside.albumFolder album artistName)

/-- The rescue past the copies. -/
def rescan (placing : Placing Content) : Except Halt Bool :=
  if placing.moved = 0 then .ok false
  else if !outside.refreshed then .error .raised
  else
    match outside.registered with
    | none => .error .raised
    | some rescueCount =>
        if rescueCount ≥ max 1 ((placing.moved + 1) / 2) then
          if outside.hidden then .ok true else .error .raised
        else .ok false

/-- The rescue past its first checks. -/
def placeAndRescan (first : ImportFile) (files : List ImportFile)
    (library : PurePath → Option (Entry Content)) : Placing Content × Except Halt Bool :=
  match outside.folderOfAlbum with
  | none => ({ library }, .error .raised)
  | some folder =>
      if !outside.contained folder then ({ library }, .ok false)
      else if !outside.folderMade then ({ library }, .error .raised)
      else
        let placing := files.foldl (outside.copyFile folder first.albumId) { library }
        (placing, outside.rescan placing)

/-- `_rescue_place_and_rescan`. -/
def rescuePlaceAndRescan (files : List ImportFile)
    (library : PurePath → Option (Entry Content)) : Placing Content × Except Halt Bool :=
  if outside.cancelled then ({ library }, .error .cancelled)
  else if !outside.rescueEnabled then ({ library }, .ok false)
  else
    match files with
    | [] => ({ library }, .ok false)
    | first :: rest => outside.placeAndRescan first (first :: rest) library

/-! ## What the rescue is for -/

/-- A path is strictly inside the library. -/
def Inside (path : PurePath) : Prop :=
  path.root = outside.libraryRoot.root ∧ ∃ below, below ≠ [] ∧ (∀ part ∈ below, Plain part) ∧
    path.parts = outside.libraryRoot.parts ++ below

/-- The album that is replaced: that of the first file. -/
def replaced (files : List ImportFile) : Option Int := files.head?.map ImportFile.albumId

/-- Every file is placed, and nothing else is overwritten. -/
structure Places (files : List ImportFile) (library : PurePath → Option (Entry Content)) :
    Prop where
  apart : ((outside.rescuePlaceAndRescan files library).1.placed.map Prod.snd).Nodup
  inside : ∀ pair ∈ (outside.rescuePlaceAndRescan files library).1.placed,
    outside.Inside pair.2
  kept : ∀ pair ∈ (outside.rescuePlaceAndRescan files library).1.placed, ∀ entry,
    library pair.2 = some entry → outside.disk pair.1 ≠ some entry.content →
    entry.album ≠ replaced files →
    (outside.rescuePlaceAndRescan files library).1.library pair.2 = some entry
  complete : (outside.rescuePlaceAndRescan files library).2 = .ok true → ∀ file ∈ files,
    ∃ path entry, (outside.rescuePlaceAndRescan files library).1.library path = some entry ∧
      outside.disk (outside.source file) = some entry.content

/-- The rescue comes to the copies. -/
def Reaches (files : List ImportFile) (folder : PurePath) : Prop :=
  outside.cancelled = false ∧ outside.rescueEnabled = true ∧ files ≠ [] ∧
    outside.folderOfAlbum = some folder ∧ outside.contained folder = true ∧
    outside.folderMade = true

/-- How many copies are counted. -/
def counted (files : List ImportFile) : Nat :=
  files.countP fun file => (outside.copy (outside.source file)).counted

/-- Enough files are registered for the copies that are counted. -/
def Registers (files : List ImportFile) : Prop :=
  1 ≤ outside.counted files ∧ outside.refreshed = true ∧ outside.hidden = true ∧
    ∃ rescueCount, outside.registered = some rescueCount ∧
      max 1 ((outside.counted files + 1) / 2) ≤ rescueCount

/-- The content of a file is left by one of the copies, or the library has it elsewhere. -/
def Held (files : List ImportFile) (library : PurePath → Option (Entry Content))
    (folder : PurePath) (albumId : Int) (file : ImportFile) : Prop :=
  (∃ other ∈ files, ∃ entry, outside.left albumId other = some entry ∧
    outside.disk (outside.source file) = some entry.content) ∨
  ∃ path entry, (∀ other ∈ files, outside.destination folder other ≠ path) ∧
    library path = some entry ∧ outside.disk (outside.source file) = some entry.content

/-- The base names differ, what is in the way belongs to the album, and every content is held
if enough files are registered. -/
structure Placeable (files : List ImportFile) (library : PurePath → Option (Entry Content))
    (folder : PurePath) (albumId : Int) : Prop where
  names : (files.map fun file => (outside.source file).name).Nodup
  foreign : ∀ file ∈ files, ∀ entry,
    library (outside.destination folder file) = some entry →
    outside.disk (outside.source file) ≠ some entry.content → entry.album ≠ some albumId →
    outside.left albumId file = some entry
  held : outside.Registers files → ∀ file ∈ files, outside.Held files library folder albumId file

/-! ## The folder -/

theorem mem_of_mem_strip {drops : Char → Bool} {text : List Char} {c : Char}
    (mem : c ∈ Text.strip drops text) : c ∈ text := by
  rw [Text.strip, List.mem_reverse] at mem
  have inner := (List.dropWhile_sublist _).subset mem
  exact (List.dropWhile_sublist _).subset (List.mem_reverse.mp inner)

/-- No separator is left in a segment. -/
theorem slash_notMem_sanitizePathSegment (segment : Option String) :
    '/' ∉ (sanitizePathSegment segment).toList := by
  cases segment with
  | none => decide
  | some text =>
      simp only [sanitizePathSegment]
      split
      · decide
      · split
        · decide
        · rw [String.toList_ofList]
          intro mem
          have kept := mem_of_mem_strip ((List.dropWhile_sublist _).subset mem)
          obtain ⟨c, _, same⟩ := List.mem_map.mp (List.mem_filter.mp kept).1
          split at same
          · cases same
          · next other => exact other (.inl same)

/-- A segment names something below. -/
theorem plain_sanitizePathSegment (segment : Option String) :
    Plain (sanitizePathSegment segment) := by
  cases segment with
  | none => decide
  | some text =>
      simp only [sanitizePathSegment]
      split
      · decide
      · split
        · decide
        · next named =>
            rw [not_or, not_or] at named
            exact ⟨named.1, named.2.2, named.2.1⟩

theorem slash_notMem_albumYear (album : AlbumAnswer) : '/' ∉ (albumYear album).toList := by
  rw [albumYear]
  split
  · next digits =>
      rw [String.toList_ofList]
      intro mem
      rw [Text.isdigit, Bool.and_eq_true] at digits
      have digit := List.all_eq_true.mp digits.2 '/' mem
      revert digit
      decide
  · decide

/-- Before it is resolved, the folder of an album is two names below the library. -/
theorem albumFolder_eq (outside : Outside Content) (album : AlbumAnswer)
    (artistName : Option String) :
    outside.albumFolder album artistName = outside.resolve
      { outside.libraryRoot with
        parts := outside.libraryRoot.parts ++ [sanitizePathSegment artistName] ++
          [sanitizePathSegment album.title ++ " (" ++ albumYear album ++ ")"] } := by
  have artist := plain_sanitizePathSegment artistName
  have single :
      '/' ∉ (sanitizePathSegment album.title ++ " (" ++ albumYear album ++ ")").toList := by
    simp [slash_notMem_sanitizePathSegment, slash_notMem_albumYear]
  have long : 3 ≤
      (sanitizePathSegment album.title ++ " (" ++ albumYear album ++ ")").toList.length := by
    simp
    omega
  have named : ∀ short : String, short.toList.length < 3 →
      sanitizePathSegment album.title ++ " (" ++ albumYear album ++ ")" ≠ short := by
    intro short few same
    rw [same] at long
    omega
  rw [albumFolder, PurePath.ofString_of_notMem (slash_notMem_sanitizePathSegment artistName)
    ⟨artist.1, artist.2.1⟩, PurePath.ofString_of_notMem single
    ⟨named "" (by decide), named "." (by decide)⟩]
  rfl

/-! ## The copies -/

variable {outside}

theorem destination_inj {folder : PurePath} {file other : ImportFile} :
    outside.destination folder file = outside.destination folder other ↔
      (outside.source file).name = (outside.source other).name := by
  simp [destination]

/-- What one existing file does to the library. -/
theorem copyFile_of_exists {folder : PurePath} {albumId : Int} {placing : Placing Content}
    {file : ImportFile} (present : (outside.disk (outside.source file)).isSome) :
    outside.copyFile folder albumId placing file =
      { library := fun path =>
          if path = outside.destination folder file then outside.left albumId file
          else placing.library path
        placed := placing.placed ++ [(outside.source file, outside.destination folder file)]
        moved :=
          if (outside.copy (outside.source file)).counted then placing.moved + 1
          else placing.moved } := by
  rw [copyFile]
  obtain ⟨content, found⟩ := Option.isSome_iff_exists.mp present
  rw [found]

section Copies

variable {folder : PurePath} {albumId : Int} {files : List ImportFile}

/-- Every file that exists is copied, one after the other. -/
theorem foldl_copyFile (present : ∀ file ∈ files, (outside.disk (outside.source file)).isSome)
    (placing : Placing Content) :
    (files.foldl (outside.copyFile folder albumId) placing).placed =
        placing.placed ++ files.map (fun file =>
          (outside.source file, outside.destination folder file)) ∧
      (files.foldl (outside.copyFile folder albumId) placing).moved =
        placing.moved + outside.counted files := by
  induction files generalizing placing with
  | nil => simp [counted]
  | cons file files ih =>
      rw [List.forall_mem_cons] at present
      obtain ⟨placed, moved⟩ := ih present.2 (outside.copyFile folder albumId placing file)
      rw [List.foldl_cons, placed, moved, copyFile_of_exists present.1]
      constructor
      · simp
      · simp only [counted, List.countP_cons]
        split <;> omega

/-- What is no destination stays as it is. -/
theorem library_foldl_of_ne
    (present : ∀ file ∈ files, (outside.disk (outside.source file)).isSome) {path : PurePath}
    (other : ∀ file ∈ files, outside.destination folder file ≠ path)
    (placing : Placing Content) :
    (files.foldl (outside.copyFile folder albumId) placing).library path =
      placing.library path := by
  induction files generalizing placing with
  | nil => rfl
  | cons file files ih =>
      rw [List.forall_mem_cons] at present other
      rw [List.foldl_cons, ih present.2 other.2, copyFile_of_exists present.1]
      exact if_neg (Ne.symm other.1)

/-- A destination that one file has alone holds what its copy leaves. -/
theorem library_foldl_of_mem
    (present : ∀ file ∈ files, (outside.disk (outside.source file)).isSome)
    (names : (files.map fun file => (outside.source file).name).Nodup) {file : ImportFile}
    (listed : file ∈ files) (placing : Placing Content) :
    (files.foldl (outside.copyFile folder albumId) placing).library
      (outside.destination folder file) = outside.left albumId file := by
  induction files generalizing placing with
  | nil => cases listed
  | cons first files ih =>
      rw [List.forall_mem_cons] at present
      rw [List.map_cons, List.nodup_cons] at names
      rw [List.foldl_cons]
      cases List.mem_cons.mp listed with
      | inl here =>
          have apart : ∀ other ∈ files,
              outside.destination folder other ≠ outside.destination folder file := by
            intro other mem same
            apply names.1
            rw [← here, ← destination_inj.mp same]
            exact List.mem_map_of_mem mem
          rw [library_foldl_of_ne present.2 apart, copyFile_of_exists present.1, here]
          exact if_pos rfl
      | inr later => exact ih present.2 names.2 later _

end Copies

/-! ## The run -/

section Run

variable {files : List ImportFile} {library : PurePath → Option (Entry Content)}

/-- A rescue succeeds past the copies where enough is registered. -/
theorem rescan_iff {placing : Placing Content} (moved : placing.moved = outside.counted files) :
    outside.rescan placing = .ok true ↔ outside.Registers files := by
  rw [rescan, Registers, moved]
  by_cases none : outside.counted files = 0
  · simp [none]
  have some : 1 ≤ outside.counted files := Nat.one_le_iff_ne_zero.mpr none
  rw [if_neg none]
  cases outside.refreshed with
  | false => simp
  | true =>
      cases outside.registered with
      | none => simp
      | some rescueCount =>
          simp only [Bool.not_true, Bool.false_eq_true, if_false]
          by_cases enough : rescueCount ≥ max 1 ((outside.counted files + 1) / 2)
          · rw [if_pos enough]
            cases outside.hidden with
            | false => simp
            | true =>
                simp only [if_true, true_iff]
                exact ⟨some, trivial, trivial, rescueCount, rfl, enough⟩
          · rw [if_neg enough]
            constructor
            · intro succeeds
              cases succeeds
            · intro registers
              obtain ⟨_, _, _, count, same, le⟩ := registers
              cases same
              exact absurd le enough

/-- A rescue that does not come to the copies changes nothing, and does not succeed. -/
theorem run_of_not_reaches (stops : ∀ folder, ¬ outside.Reaches files folder) :
    (outside.rescuePlaceAndRescan files library).1 = { library } ∧
      (outside.rescuePlaceAndRescan files library).2 ≠ .ok true := by
  by_cases cancelled : outside.cancelled = true
  · simp [rescuePlaceAndRescan, cancelled]
  by_cases enabled : outside.rescueEnabled = true
  · cases files with
    | nil => simp [rescuePlaceAndRescan, cancelled, enabled]
    | cons first rest =>
        simp only [rescuePlaceAndRescan, cancelled, enabled, placeAndRescan]
        cases found : outside.folderOfAlbum with
        | none => simp
        | some folder =>
            by_cases contained : outside.contained folder = true
            · by_cases made : outside.folderMade = true
              · exact absurd ⟨by simpa using cancelled, enabled, List.cons_ne_nil _ _, found,
                  contained, made⟩ (stops folder)
              · simp [contained, made]
            · simp [contained]
  · simp [rescuePlaceAndRescan, cancelled, enabled]

/-- A rescue that comes to the copies makes them, and succeeds where enough is registered. -/
theorem run_of_reaches {first : ImportFile} {rest : List ImportFile} {folder : PurePath}
    (reaches : outside.Reaches (first :: rest) folder) :
    outside.rescuePlaceAndRescan (first :: rest) library =
      ((first :: rest).foldl (outside.copyFile folder first.albumId) { library },
        outside.rescan
          ((first :: rest).foldl (outside.copyFile folder first.albumId) { library })) := by
  obtain ⟨cancelled, enabled, nonempty, found, contained, made⟩ := reaches
  simp only [rescuePlaceAndRescan, cancelled, enabled, placeAndRescan, found, contained, made]
  rfl

/-- Where the names differ, a content is in the library afterwards if a copy left it there or
the library had it where no copy went. -/
theorem held_iff {folder : PurePath} {albumId : Int}
    (present : ∀ file ∈ files, (outside.disk (outside.source file)).isSome)
    (names : (files.map fun file => (outside.source file).name).Nodup) (file : ImportFile) :
    (∃ path entry, (files.foldl (outside.copyFile folder albumId) { library }).library path =
        some entry ∧ outside.disk (outside.source file) = some entry.content) ↔
      outside.Held files library folder albumId file := by
  constructor
  · intro holds
    obtain ⟨path, entry, found, same⟩ := holds
    by_cases placed : ∃ other ∈ files, outside.destination folder other = path
    · obtain ⟨other, listed, rfl⟩ := placed
      left
      rw [library_foldl_of_mem present names listed] at found
      exact ⟨other, listed, entry, found, same⟩
    · right
      have elsewhere : ∀ other ∈ files, outside.destination folder other ≠ path := by
        intro other listed here
        exact placed ⟨other, listed, here⟩
      rw [library_foldl_of_ne present elsewhere] at found
      exact ⟨path, entry, elsewhere, found, same⟩
  · intro held
    cases held with
    | inl copied =>
        obtain ⟨other, listed, entry, found, same⟩ := copied
        refine ⟨outside.destination folder other, entry, ?_, same⟩
        rw [library_foldl_of_mem present names listed]
        exact found
    | inr kept =>
        obtain ⟨path, entry, elsewhere, found, same⟩ := kept
        refine ⟨path, entry, ?_, same⟩
        rw [library_foldl_of_ne present elsewhere]
        exact found

/-- Every destination is strictly inside the library. -/
theorem inside_destination {folder : PurePath} {file : ImportFile}
    (reaches : outside.Reaches files folder)
    (present : (outside.disk (outside.source file)).isSome) :
    outside.Inside (outside.destination folder file) := by
  obtain ⟨_, _, _, found, within, _⟩ := reaches
  rw [contained, Bool.and_eq_true, decide_eq_true_eq, List.isPrefixOf_iff_prefix] at within
  obtain ⟨sameRoot, below, parts⟩ := within
  obtain ⟨content, read⟩ := Option.isSome_iff_exists.mp present
  have resolved : ∀ part ∈ folder.parts, Plain part := by
    simp only [folderOfAlbum, Option.bind_eq_bind, Option.bind_eq_some_iff] at found
    obtain ⟨album, _, artistName, _, same⟩ := found
    cases same
    exact outside.resolves _
  refine ⟨sameRoot, below ++ [(outside.source file).name], by simp, ?_, ?_⟩
  · intro part mem
    cases List.mem_append.mp mem with
    | inl inner =>
        apply resolved
        rw [← parts]
        exact List.mem_append_right _ inner
    | inr last =>
        rw [List.mem_singleton.mp last]
        exact outside.named _ content read
  · rw [destination, ← parts, List.append_assoc]

/-- The destinations differ where the names do. -/
theorem nodup_destinations {folder : PurePath} :
    (files.map (outside.destination folder)).Nodup ↔
      (files.map fun file => (outside.source file).name).Nodup := by
  have same : files.map (outside.destination folder) =
      (files.map fun file => (outside.source file).name).map fun name =>
        { folder with parts := folder.parts ++ [name] } := by
    rw [List.map_map]
    rfl
  rw [same]
  apply List.nodup_map_iff
  intro name other equal
  simpa using equal

/-- A rescue that comes to the copies places every file exactly where the files can be
placed. -/
theorem places_iff_of_reaches {first : ImportFile} {rest : List ImportFile} {folder : PurePath}
    (reaches : outside.Reaches (first :: rest) folder)
    (present : ∀ file ∈ first :: rest, (outside.disk (outside.source file)).isSome) :
    outside.Places (first :: rest) library ↔
      outside.Placeable (first :: rest) library folder first.albumId := by
  have run := @run_of_reaches _ outside library first rest folder reaches
  obtain ⟨placed, moved⟩ :=
    @foldl_copyFile _ outside folder first.albumId (first :: rest) present { library }
  rw [List.nil_append] at placed
  rw [Nat.zero_add] at moved
  have pairs : ∀ file ∈ first :: rest, (outside.source file, outside.destination folder file) ∈
      (outside.rescuePlaceAndRescan (first :: rest) library).1.placed := by
    intro file listed
    rw [run, placed]
    exact List.mem_map_of_mem listed
  constructor
  · intro places
    have names : ((first :: rest).map fun file => (outside.source file).name).Nodup := by
      have apart := places.apart
      rw [run, placed, List.map_map] at apart
      exact nodup_destinations.mp apart
    constructor
    · exact names
    · intro file listed entry found differs foreign
      have kept := places.kept _ (pairs file listed) entry found differs foreign
      rw [run, library_foldl_of_mem present names listed] at kept
      exact kept
    · intro registers file listed
      apply (held_iff present names file).mp
      have complete := places.complete
      rw [run] at complete
      exact complete ((rescan_iff moved).mpr registers) file listed
  · intro placeable
    constructor
    · rw [run, placed, List.map_map]
      exact nodup_destinations.mpr placeable.names
    · intro pair mem
      rw [run, placed] at mem
      obtain ⟨file, listed, rfl⟩ := List.mem_map.mp mem
      exact inside_destination reaches (present file listed)
    · intro pair mem entry found differs foreign
      rw [run] at mem ⊢
      rw [placed] at mem
      obtain ⟨file, listed, rfl⟩ := List.mem_map.mp mem
      rw [library_foldl_of_mem present placeable.names listed]
      exact placeable.foreign file listed entry found differs foreign
    · rw [run]
      intro succeeds file listed
      apply (held_iff present placeable.names file).mpr
      exact placeable.held ((rescan_iff moved).mp succeeds) file listed

/-- The rescue places every file and overwrites nothing else exactly where it does not come to
the copies, or the files can be placed. -/
theorem places_iff (outside : Outside Content) (files : List ImportFile)
    (library : PurePath → Option (Entry Content))
    (present : ∀ file ∈ files, (outside.disk (outside.source file)).isSome) :
    outside.Places files library ↔
      ∀ first rest folder, files = first :: rest → outside.Reaches files folder →
        outside.Placeable files library folder first.albumId := by
  constructor
  · intro places first rest folder listed reaches
    subst listed
    exact (places_iff_of_reaches reaches present).mp places
  · intro placeable
    by_cases reached : ∃ folder, outside.Reaches files folder
    · obtain ⟨folder, reaches⟩ := reached
      cases files with
      | nil => exact absurd rfl reaches.2.2.1
      | cons first rest =>
          exact (places_iff_of_reaches reaches present).mpr
            (placeable first rest folder rfl reaches)
    · have stops : ∀ folder, ¬ outside.Reaches files folder := by
        intro folder reaches
        exact reached ⟨folder, reaches⟩
      obtain ⟨same, fails⟩ := @run_of_not_reaches _ outside files library stops
      constructor
      · rw [same]
        exact List.nodup_nil
      · rw [same]
        intro pair mem
        cases mem
      · rw [same]
        intro pair mem
        cases mem
      · intro succeeds
        exact absurd succeeds fails

end Run

/-! ## Two discs -/

/-- The first track of the first disc. -/
def firstTrack : ImportFile where
  path := "/downloads/TidalHiRes/complete/job/CD1/01.flac"
  artistId := 1
  albumId := 7

/-- The first track of the second disc. -/
def secondTrack : ImportFile :=
  { firstTrack with path := "/downloads/TidalHiRes/complete/job/CD2/01.flac" }

/-- The track behind it. -/
def thirdTrack : ImportFile :=
  { firstTrack with path := "/downloads/TidalHiRes/complete/job/CD2/02.flac" }

/-- A file of the output. -/
def inOutput (disc : String) : PurePath := ⟨"/", ["output", "job", disc, "01.flac"]⟩

/-- The file of the third track. -/
def behind : PurePath := ⟨"/", ["output", "job", "CD2", "02.flac"]⟩

/-- An output with two discs, of which all copies succeed. -/
def twoDiscs : Outside String where
  completeRoot := "/downloads/TidalHiRes/complete"
  outputBase := ⟨"/", ["output"]⟩
  cancelled := false
  rescueEnabled := true
  album := some ⟨some "Album", some "1999-01-01"⟩
  artist := some (some "Artist")
  resolve := fun path => { path with parts := path.parts.filter fun part => Plain part }
  folderMade := true
  disk := fun path =>
    if path = inOutput "CD1" then some "first disc"
    else if path = inOutput "CD2" then some "second disc"
    else if path = behind then some "third track"
    else none
  copy := fun _ => .copied
  refreshed := true
  registered := some 1
  hidden := true
  resolves := by
    intro path part mem
    exact of_decide_eq_true (List.mem_filter.mp mem).2
  named := by
    intro path content found
    by_cases first : path = inOutput "CD1"
    · rw [first]
      decide
    by_cases second : path = inOutput "CD2"
    · rw [second]
      decide
    by_cases third : path = behind
    · rw [third]
      decide
    rw [if_neg first, if_neg second, if_neg third] at found
    cases found

theorem source_firstTrack : twoDiscs.source firstTrack = inOutput "CD1" := rfl

theorem source_secondTrack : twoDiscs.source secondTrack = inOutput "CD2" := rfl

theorem source_thirdTrack : twoDiscs.source thirdTrack = behind := rfl

theorem present_twoDiscs :
    ∀ file ∈ [firstTrack, secondTrack], (twoDiscs.disk (twoDiscs.source file)).isSome := by
  intro file listed
  rcases List.mem_cons.mp listed with rfl | second
  · rw [source_firstTrack]
    rfl
  · rw [List.mem_singleton.mp second, source_secondTrack]
    rfl

theorem reaches_twoDiscs (rest : List ImportFile) :
    twoDiscs.Reaches (firstTrack :: rest)
      ⟨"/", ["music", "Album", "Artist", "Album (1999)"]⟩ :=
  ⟨rfl, rfl, List.cons_ne_nil _ _, rfl, rfl, rfl⟩

/-- The second disc is copied over the first. -/
theorem not_places_twoDiscs :
    ([firstTrack, secondTrack].map twoDiscs.source).Nodup ∧
      (∀ file ∈ [firstTrack, secondTrack], (twoDiscs.disk (twoDiscs.source file)).isSome) ∧
      ¬ twoDiscs.Places [firstTrack, secondTrack] fun _ => none := by
  constructor
  · rw [List.map_cons, List.map_singleton, source_firstTrack, source_secondTrack]
    decide
  constructor
  · exact present_twoDiscs
  · intro places
    have placeable := (places_iff_of_reaches (reaches_twoDiscs _) present_twoDiscs).mp places
    have names := placeable.names
    rw [List.map_cons, List.map_singleton, source_firstTrack, source_secondTrack] at names
    exact absurd names (by decide)

/-- A file in the folder of the album. -/
def inAlbum (name : String) : PurePath := ⟨"/", ["music", "Album", "Artist", "Album (1999)", name]⟩

/-- A library with a file of another album there. -/
def guest (path : PurePath) : Option (Entry String) :=
  if path = inAlbum "00.flac" then some ⟨"guest", some 9⟩ else none

/-- Two tracks with names of their own are placed, and the other file is kept. -/
theorem places_firstTrack : twoDiscs.Places [firstTrack, thirdTrack] guest ∧
    (twoDiscs.rescuePlaceAndRescan [firstTrack, thirdTrack] guest).2 = .ok true ∧
    (twoDiscs.rescuePlaceAndRescan [firstTrack, thirdTrack] guest).1.library
      (inAlbum "00.flac") = some ⟨"guest", some 9⟩ := by
  refine ⟨?_, rfl, rfl⟩
  have present : ∀ file ∈ [firstTrack, thirdTrack],
      (twoDiscs.disk (twoDiscs.source file)).isSome := by
    intro file listed
    rcases List.mem_cons.mp listed with rfl | last
    · rw [source_firstTrack]
      rfl
    · rw [List.mem_singleton.mp last, source_thirdTrack]
      rfl
  apply (places_iff twoDiscs [firstTrack, thirdTrack] guest present).mpr
  intro first rest folder listed reaches
  cases listed
  have album : folder = ⟨"/", ["music", "Album", "Artist", "Album (1999)"]⟩ :=
    (Option.some.inj reaches.2.2.2.1).symm
  constructor
  · rw [List.map_cons, List.map_singleton, source_firstTrack, source_thirdTrack]
    decide
  · intro file mem entry found
    have elsewhere : twoDiscs.destination folder file ≠ inAlbum "00.flac" := by
      rw [album, destination]
      rcases List.mem_cons.mp mem with rfl | last
      · rw [source_firstTrack]
        decide
      · rw [List.mem_singleton.mp last, source_thirdTrack]
        decide
    rw [guest, if_neg elsewhere] at found
    cases found
  · intro registers file mem
    left
    rcases List.mem_cons.mp mem with rfl | last
    · refine ⟨firstTrack, List.mem_cons_self, ⟨"first disc", some 7⟩, ?_, ?_⟩
      · rw [left, source_firstTrack]
        rfl
      · rw [source_firstTrack]
        rfl
    · rw [List.mem_singleton.mp last]
      refine ⟨thirdTrack, List.mem_cons_of_mem _ List.mem_cons_self,
        ⟨"third track", some 7⟩, ?_, ?_⟩
      · rw [left, source_thirdTrack]
        rfl
      · rw [source_thirdTrack]
        rfl

end Outside

end Mintarr.Import.Rescue
