import Mintarr.Policy.TitleMarks

/-!
# Matching files to the titles of tracks

A file named after a track has the normal title of the track where the numbers that the pattern
takes from the one and not from the other make no difference.  A title that is normal is changed
once more where it starts with a number or has a mark for a word.
-/

namespace Mintarr.Policy.Titles

open Lib

/-! ## Files named after a track -/

section Files

variable {beyond : Char → Bool}

/-- An audio suffix begins with its only dot and is in lower case. -/
theorem suffixOf_file {suffix : List Char} (audio : suffix ∈ audioSuffixes) (text : List Char) :
    suffixOf (text ++ suffix) = suffix := by
  have known : (audioSuffixes.all fun suffix => suffix.head? = some '.' &&
      !suffix.tail.contains '.' && decide (lower suffix = suffix)) = true := by decide
  have here := List.all_eq_true.mp known suffix audio
  rw [Bool.and_eq_true, Bool.and_eq_true, decide_eq_true_eq, decide_eq_true_eq] at here
  obtain ⟨⟨dot, others⟩, lowered⟩ := here
  cases suffix with
  | nil => contradiction
  | cons c letters =>
      cases dot
      have plain : ∀ c ∈ letters.reverse, decide (c ≠ '.') = true := by
        intro c listed
        apply decide_eq_true
        intro same
        rw [same, List.mem_reverse] at listed
        simp [listed] at others
      rw [suffixOf, if_pos (by simp), List.reverse_append, List.reverse_cons, List.append_assoc,
        List.takeWhile_append_of_pos plain, List.singleton_append,
        List.takeWhile_cons_of_neg (by simp), List.append_nil, List.reverse_reverse, lowered]

theorem stripSuffix_file {suffix : List Char} (audio : suffix ∈ audioSuffixes)
    (text : List Char) : stripSuffix (text ++ suffix) = text := by
  rw [stripSuffix, suffixOf_file audio]
  simp [audio]

theorem stripSuffix_eq_self {title : List Char} (plain : suffixOf title ∉ audioSuffixes) :
    stripSuffix title = title := if_neg plain

/-- Words of letters are kept apart by blanks. -/
theorem words_titleWords (text : List Char) :
    words Text.isLowerAlnum ([' '].intercalate (titleWords text)) = titleWords text :=
  words_intercalate rfl fun _ listed => mem_words listed

theorem intercalate_titleWords {text other : List Char} :
    [' '].intercalate (titleWords text) = [' '].intercalate (titleWords other) ↔
      titleWords text = titleWords other := by
  constructor
  · intro same
    rw [← words_titleWords text, same, words_titleWords]
  · intro same
    rw [same]

/-- A file and its title agree where the words of what they leave do. -/
theorem normalizeTrackTitle_file {title number suffix : List Char}
    (plain : suffixOf title ∉ audioSuffixes) (decimal : ∀ c ∈ number, Text.isDecimal c = true)
    (length : number.length = 1 ∨ number.length = 2) (audio : suffix ∈ audioSuffixes) :
    normalizeTrackTitle beyond (number ++ (" - ".toList ++ title) ++ suffix) =
        normalizeTrackTitle beyond title ↔
      titleWords (unmarked beyond (lastPart (filedRest title))) =
        titleWords (unmarked beyond (lastPart (stripNumber title))) := by
  rw [normalizeTrackTitle_eq, normalizeTrackTitle_eq, intercalate_titleWords, bareTitle, bareTitle,
    stripSuffix_file audio, stripSuffix_eq_self plain, stripNumber_file decimal length]
  rfl

/-- What the longer of two texts is ahead with. -/
def spare (first second : List Char) : List Char :=
  if first.length ≤ second.length then second.take (second.length - first.length)
  else first.take (first.length - second.length)

/-- The shorter of two texts. -/
def shared (first second : List Char) : List Char :=
  if first.length ≤ second.length then first else second

theorem titleWords_filedRest (title : List Char) :
    titleWords (unmarked beyond (lastPart (filedRest title))) =
        titleWords (unmarked beyond (lastPart (stripNumber title))) ↔
      Harmless beyond (spare (filedRest title) (stripNumber title))
        (shared (filedRest title) (stripNumber title)) := by
  cases @ahead_rests beyond title with
  | inl own =>
      obtain ⟨extra, shape, ahead⟩ := own
      have lengths : (filedRest title).length ≤ (stripNumber title).length := by
        rw [shape, List.length_append]
        omega
      have cut : spare (filedRest title) (stripNumber title) = extra := by
        rw [spare, if_pos lengths, shape, List.length_append, Nat.add_sub_cancel,
          List.take_left]
      rw [cut, shared, if_pos lengths, ← titleWords_ahead ahead, ← shape]
      exact eq_comm
  | inr file =>
      obtain ⟨extra, shape, ahead⟩ := file
      have both : spare (filedRest title) (stripNumber title) = extra ∧
          shared (filedRest title) (stripNumber title) = stripNumber title := by
        rw [spare, shared]
        cases extra with
        | nil =>
            rw [List.nil_append] at shape
            rw [shape]
            simp
        | cons c extra =>
            have longer : ¬ (filedRest title).length ≤ (stripNumber title).length := by
              rw [shape, List.length_append, List.length_cons]
              omega
            rw [if_neg longer, if_neg longer, shape, List.length_append, Nat.add_sub_cancel,
              List.take_left]
            exact ⟨rfl, rfl⟩
      rw [both.1, both.2, ← titleWords_ahead ahead, ← shape]

/-! ## Titles that are normal -/

/-- A word of one or two digits. -/
def isNumberWord (word : List Char) : Bool :=
  word.all Text.isDecimal && (word.length = 1 || word.length = 2)

/-- The words begin with the number of a track or of a disc, with something behind it. -/
def startsNumbered : List (List Char) → Bool
  | first :: second :: rest =>
      isNumberWord first ||
        "disc".toList.isPrefixOf first &&
          (isNumberWord (first.drop 4) ||
            first.length = 4 && isNumberWord second && !rest.isEmpty)
  | _ => false

end Files

section Normal

variable {beyond : Char → Bool}

/-- Words as a normal title has them. -/
def ProperWords (texts : List (List Char)) : Prop :=
  ∀ word ∈ texts, word ≠ [] ∧ ∀ c ∈ word, Text.isLowerAlnum c = true

/-- What stands behind a word. -/
def behindWord (texts : List (List Char)) : List Char :=
  if texts = [] then [] else ' ' :: [' '].intercalate texts

theorem intercalate_cons_eq (word : List Char) (texts : List (List Char)) :
    [' '].intercalate (word :: texts) = word ++ behindWord texts := by
  cases texts with
  | nil => simp [behindWord]
  | cons other texts =>
      rw [List.intercalate_cons_cons, behindWord, if_neg (List.cons_ne_nil other texts)]
      simp

theorem foldCase_of_isLowerAlnum {c : Char} (letter : Text.isLowerAlnum c = true) :
    Text.foldCase c = c := by
  rw [Text.isLowerAlnum, Bool.or_eq_true] at letter
  cases letter with
  | inl lower =>
      have bounds := Text.bounds_of_isLower lower
      apply Text.foldCase_eq_self
      · omega
      · simp only [List.mem_cons, List.not_mem_nil, or_false]
        omega
  | inr digit => exact Text.foldCase_of_isDigit digit

theorem isSeparator_of_isLowerAlnum {c : Char} (letter : Text.isLowerAlnum c = true) :
    isSeparator c = false := by
  apply eq_false_of_ne_true
  intro separator
  rw [isLowerAlnum_of_isSeparator separator] at letter
  contradiction

theorem isTitleWord_of_isLowerAlnum {c : Char} (letter : Text.isLowerAlnum c = true) :
    isTitleWord beyond c = true := by
  simp [isTitleWord, Text.isWord, isTitleAlnum, foldCase_of_isLowerAlnum letter, letter,
    Text.isSpace_of_isLowerAlnum letter]

/-- The characters of a normal title. -/
def IsNormal (text : List Char) : Prop := ∀ c ∈ text, Text.isLowerAlnum c = true ∨ c = ' '

theorem isNormal_intercalate {texts : List (List Char)} (proper : ProperWords texts) :
    IsNormal ([' '].intercalate texts) := by
  induction texts with
  | nil => intro c listed; cases listed
  | cons word texts ih =>
      have here := proper word List.mem_cons_self
      have later := ih fun other listed => proper other (List.mem_cons_of_mem word listed)
      intro c listed
      rw [intercalate_cons_eq, List.mem_append] at listed
      cases listed with
      | inl inWord => exact .inl (here.2 c inWord)
      | inr behind =>
          rw [behindWord] at behind
          split at behind
          · cases behind
          · cases List.mem_cons.mp behind with
            | inl blank => exact .inr blank
            | inr rest => exact later c rest

theorem IsNormal.map_foldCase {text : List Char} (normal : IsNormal text) :
    text.map Text.foldCase = text := by
  have same : ∀ c ∈ text, Text.foldCase c = id c := by
    intro c listed
    cases normal c listed with
    | inl letter => exact foldCase_of_isLowerAlnum letter
    | inr blank => rw [blank]; decide
  exact (List.map_congr_left same).trans (List.map_id text)

theorem IsNormal.lower_eq {text : List Char} (normal : IsNormal text) : lower text = text := by
  rw [lower]
  induction text with
  | nil => rfl
  | cons c text ih =>
      rw [IsNormal, List.forall_mem_cons] at normal
      have folded : Text.foldCase c = c := by
        cases normal.1 with
        | inl letter => exact foldCase_of_isLowerAlnum letter
        | inr blank => rw [blank]; decide
      rw [List.flatMap_cons, lowerChar_of_foldCase folded, ih normal.2, List.singleton_append]

theorem IsNormal.sublist {text part : List Char} (normal : IsNormal text)
    (sublist : part.Sublist text) : IsNormal part :=
  fun c listed => normal c (sublist.subset listed)

/-- A blank or nothing is behind a word. -/
theorem head_behindWord (texts : List (List Char)) :
    behindWord texts = [] ∨ ∃ rest, behindWord texts = ' ' :: rest := by
  rw [behindWord]
  split
  · exact .inl rfl
  · exact .inr ⟨_, rfl⟩

/-- The run of some characters that a word and no blank is made of. -/
theorem takeWhile_word {accepts : Char → Bool} {word : List Char} (texts : List (List Char))
    (accepted : ∀ c ∈ word, accepts c = true) (blank : accepts ' ' = false) :
    (word ++ behindWord texts).takeWhile accepts = word := by
  rw [List.takeWhile_append_of_pos accepted]
  cases head_behindWord texts with
  | inl empty => rw [empty]; simp
  | inr behind =>
      obtain ⟨rest, shape⟩ := behind
      rw [shape, List.takeWhile_cons_of_neg (by simp [blank]), List.append_nil]

/-- A number is taken where a word of one or two digits has something behind it. -/
theorem dropNumber_word {word : List Char} {texts : List (List Char)}
    (letters : ∀ c ∈ word, Text.isLowerAlnum c = true) :
    (dropNumber (word ++ behindWord texts)).isSome = true ↔
      isNumberWord word = true ∧ texts ≠ [] := by
  have plain : ∀ c ∈ word, (!isSeparator c) = true := by
    intro c listed
    rw [isSeparator_of_isLowerAlnum (letters c listed)]
    rfl
  constructor
  · intro taken
    obtain ⟨rest, dropped⟩ := Option.isSome_iff_exists.mp taken
    obtain ⟨digits, separators, shape, number, _⟩ := dropNumber_eq_some dropped
    have noSeparator : ∀ c ∈ digits, (!isSeparator c) = true := by
      intro c listed
      rw [isSeparator_of_isDecimal (number.decimal c listed)]
      rfl
    have same : word = digits := by
      have run := takeWhile_word texts plain (by decide)
      rw [shape, List.takeWhile_append_of_pos noSeparator] at run
      cases separators with
      | nil => exact absurd rfl number.nonempty
      | cons c separators =>
          have separator := number.separators c List.mem_cons_self
          rw [List.cons_append, List.takeWhile_cons_of_neg (by simp [separator]),
            List.append_nil] at run
          exact run.symm
    constructor
    · rw [same, isNumberWord, Bool.and_eq_true, List.all_eq_true, Bool.or_eq_true,
        decide_eq_true_eq, decide_eq_true_eq]
      exact ⟨number.decimal, number.length⟩
    · intro empty
      rw [same, empty] at shape
      have nothing : behindWord [] = [] := rfl
      have behind := List.append_cancel_left shape
      rw [nothing] at behind
      exact number.nonempty (List.append_eq_nil_iff.mp behind.symm).1
  · intro found
    obtain ⟨number, nonempty⟩ := found
    rw [isNumberWord, Bool.and_eq_true, List.all_eq_true, Bool.or_eq_true, decide_eq_true_eq,
      decide_eq_true_eq] at number
    rw [dropNumber_append number.1 number.2 (by rw [behindWord, if_neg nonempty]; rfl)]
    rfl

/-- The word for a disc is found at the start of the first word. -/
theorem dropLiteral_word {word : List Char} {texts : List (List Char)}
    (proper : ProperWords (word :: texts)) :
    dropLiteral "disc" (word ++ behindWord texts) =
      if "disc".toList.isPrefixOf word then some (word.drop 4 ++ behindWord texts) else none := by
  have sign : "disc".toList = ['d', 'i', 's', 'c'] := rfl
  have normal : IsNormal ((word ++ behindWord texts).take 4) := by
    rw [← intercalate_cons_eq]
    exact (isNormal_intercalate proper).sublist (List.take_sublist _ _)
  have count : "disc".toList.length = 4 := rfl
  rw [dropLiteral, count, normal.map_foldCase]
  by_cases begins : "disc".toList.isPrefixOf word = true
  · obtain ⟨rest, rfl⟩ := List.isPrefixOf_iff_prefix.mp begins
    have cut : ("disc".toList ++ rest).drop 4 = rest := rfl
    rw [if_pos begins, cut, if_pos (by rw [List.append_assoc]; rfl), List.append_assoc]
    rfl
  · rw [if_neg begins, if_neg]
    intro same
    have run := takeWhile_word texts (proper word List.mem_cons_self).2 (by decide)
    have letters : ∀ c ∈ "disc".toList, Text.isLowerAlnum c = true :=
      List.all_eq_true.mp (show "disc".toList.all Text.isLowerAlnum = true from rfl)
    rw [← List.take_append_drop 4 (word ++ behindWord texts), same,
      List.takeWhile_append_of_pos letters] at run
    exact begins (List.isPrefixOf_iff_prefix.mpr ⟨_, run⟩)

/-- No blank is dropped before a word. -/
theorem dropWhile_word {word : List Char} (texts : List (List Char)) (nonempty : word ≠ [])
    (letters : ∀ c ∈ word, Text.isLowerAlnum c = true) :
    (word ++ behindWord texts).dropWhile Text.isSpace = word ++ behindWord texts := by
  cases word with
  | nil => exact absurd rfl nonempty
  | cons c word =>
      have other := Text.isSpace_of_isLowerAlnum (letters c List.mem_cons_self)
      exact List.dropWhile_cons_of_neg (by simp [other])

/-- The number of a disc stands in the same word or in the next one. -/
theorem dropNumber_disc {word : List Char} {texts : List (List Char)}
    (letters : ∀ c ∈ word, Text.isLowerAlnum c = true) (later : ProperWords texts) :
    (dropNumber ((word ++ behindWord texts).dropWhile Text.isSpace)).isSome = true ↔
      isNumberWord word = true ∧ texts ≠ [] ∨
        word = [] ∧ ∃ second rest, texts = second :: rest ∧ isNumberWord second = true ∧
          rest ≠ [] := by
  by_cases empty : word = []
  · have noNumber : isNumberWord [] = false := rfl
    rw [empty, noNumber]
    cases texts with
    | nil => simp [behindWord, dropNumber]
    | cons second rest =>
        have proper := later second List.mem_cons_self
        have blank : ([] ++ behindWord (second :: rest)).dropWhile Text.isSpace =
            second ++ behindWord rest := by
          rw [List.nil_append, behindWord, if_neg (List.cons_ne_nil second rest),
            intercalate_cons_eq, List.dropWhile_cons_of_pos rfl,
            dropWhile_word rest proper.1 proper.2]
        rw [blank, dropNumber_word proper.2]
        simp
  · rw [dropWhile_word texts empty letters, dropNumber_word letters]
    simp [empty]

/-- The number pattern matches a normal title that starts with a number. -/
theorem dropFirst_intercalate {texts : List (List Char)} (proper : ProperWords texts) :
    (dropFirst ([' '].intercalate texts)).isSome = startsNumbered texts := by
  cases texts with
  | nil => rfl
  | cons first texts =>
      have here := proper first List.mem_cons_self
      have later : ProperWords texts :=
        fun word listed => proper word (List.mem_cons_of_mem first listed)
      have behind := @dropNumber_word first texts here.2
      have disc := @dropNumber_disc (first.drop 4) texts
        (fun c listed => here.2 c (List.mem_of_mem_drop listed)) later
      rw [intercalate_cons_eq, dropFirst, dropWhile_word texts here.1 here.2,
        dropLiteral_word proper, Option.isSome_or, Bool.eq_iff_iff, Bool.or_eq_true, behind]
      cases begins : "disc".toList.isPrefixOf first with
      | true =>
          have length : first.drop 4 = [] ↔ first.length = 4 := by
            have long := (List.isPrefixOf_iff_prefix.mp begins).length_le
            have four : "disc".toList.length = 4 := rfl
            rw [List.drop_eq_nil_iff]
            omega
          rw [if_pos rfl, Option.bind_some, disc, length]
          cases texts with
          | nil => simp [startsNumbered]
          | cons second rest =>
              have inner : (∃ other others, second :: rest = other :: others ∧
                  isNumberWord other = true ∧ others ≠ []) ↔
                    isNumberWord second = true ∧ rest ≠ [] := by simp
              simp only [inner, startsNumbered, begins, Bool.true_and, Bool.or_eq_true,
                Bool.and_eq_true, decide_eq_true_eq, Bool.not_eq_true',
                List.isEmpty_eq_false_iff, ne_eq, reduceCtorEq, not_false_eq_true, and_true,
                and_assoc]
              exact or_comm
      | false =>
          rw [if_neg Bool.false_ne_true]
          cases texts with
          | nil => simp [startsNumbered]
          | cons second rest => simp only [startsNumbered, begins]; simp

theorem takeWhile_run {accepts : Char → Bool} {run rest : List Char}
    (accepted : ∀ c ∈ run, accepts c = true) (stops : rest.head?.any accepts = false) :
    (run ++ rest).takeWhile accepts = run := by
  rw [List.takeWhile_append_of_pos accepted]
  cases rest with
  | nil => simp
  | cons c rest =>
      have other : accepts c = false := by simpa using stops
      rw [List.takeWhile_cons_of_neg (by simp [other]), List.append_nil]

/-- A word of a normal title is a mark where it is one of the two. -/
theorem dropRemaster_word {word : List Char} {texts : List (List Char)}
    (proper : ProperWords (word :: texts)) :
    (dropRemaster beyond (word ++ behindWord texts)).isSome = true ↔ word ∈ remasterWords := by
  have letters := (proper word List.mem_cons_self).2
  constructor
  · intro found
    obtain ⟨behind, dropped⟩ := Option.isSome_iff_exists.mp found
    obtain ⟨run, shape, marks, stops⟩ := dropRemaster_eq_some dropped
    have lower := (remasterWord_letters marks).2
    have whole := takeWhile_word texts (fun c listed => isTitleWord_of_isLowerAlnum
      (letters c listed)) (show isTitleWord beyond ' ' = false from rfl)
    rw [shape, takeWhile_run (fun c listed => isTitleWord_of_foldCase (lower c listed)) stops]
      at whole
    have normal : IsNormal run := fun c listed => .inl (letters c (whole ▸ listed))
    rw [normal.map_foldCase, whole] at marks
    exact marks
  · intro marks
    have normal : IsNormal word := fun c listed => .inl (letters c listed)
    have stops : (behindWord texts).head?.any (isTitleWord beyond) = false := by
      cases head_behindWord texts with
      | inl empty => rw [empty]; rfl
      | inr behind =>
          obtain ⟨rest, shape⟩ := behind
          rw [shape]
          rfl
    have literal : ∀ text : String, text.toList = word →
        dropLiteral text (word ++ behindWord texts) = some (behindWord texts) := by
      intro text spelled
      rw [dropLiteral, spelled, List.take_left, List.drop_left, normal.map_foldCase, if_pos rfl]
    rw [dropRemaster, List.findSome?_isSome_iff]
    simp only [remasterWords, List.mem_cons, List.not_mem_nil, or_false] at marks
    cases marks with
    | inl long =>
        refine ⟨"remastered", List.mem_cons_self, ?_⟩
        rw [literal _ long.symm]
        simp [stops]
    | inr short =>
        refine ⟨"remaster", List.mem_cons_of_mem _ List.mem_cons_self, ?_⟩
        rw [literal _ short.symm]
        simp [stops]

/-- A mark at a word of a normal title is this word, or the next one behind a year. -/
theorem dropMark_word {word : List Char} {texts : List (List Char)}
    (proper : ProperWords (word :: texts))
    (found : (dropMark beyond (word ++ behindWord texts)).isSome = true) :
    ∃ mark ∈ word :: texts, mark ∈ remasterWords := by
  rw [dropMark, Option.isSome_or, Bool.or_eq_true] at found
  cases found with
  | inr plain => exact ⟨word, List.mem_cons_self, (dropRemaster_word proper).mp plain⟩
  | inl withYear =>
      obtain ⟨behind, bound⟩ := Option.isSome_iff_exists.mp withYear
      obtain ⟨rest, year, dropped⟩ := Option.bind_eq_some_iff.mp bound
      obtain ⟨digits, blanks, shape, _, decimal, nonempty, spaces⟩ := dropYear_eq_some year
      have letters := (proper word List.mem_cons_self).2
      have same : word = digits := by
        have run := takeWhile_word texts letters (by decide)
        have alnum : ∀ c ∈ digits, Text.isLowerAlnum c = true := by
          intro c listed
          have normal := isNormal_intercalate proper
          rw [intercalate_cons_eq, shape] at normal
          cases normal c (List.mem_append_left _ listed) with
          | inl letter => exact letter
          | inr blank =>
              have digit := decimal c listed
              rw [blank] at digit
              contradiction
        rw [shape, takeWhile_run alnum] at run
        · exact run.symm
        · cases blanks with
          | nil => exact absurd rfl nonempty
          | cons c blanks =>
              have blank := isLowerAlnum_of_isSeparator
                (isSeparator_of_isSpace (spaces c List.mem_cons_self))
              simpa using blank
      rw [same] at shape
      have behindShape := List.append_cancel_left shape
      cases texts with
      | nil =>
          have empty := List.append_eq_nil_iff.mp behindShape.symm
          exact absurd empty.1 nonempty
      | cons second texts =>
          have later : ProperWords (second :: texts) :=
            fun word listed => proper word (List.mem_cons_of_mem _ listed)
          have here := later second List.mem_cons_self
          rw [behindWord, if_neg (List.cons_ne_nil second texts), intercalate_cons_eq]
            at behindShape
          have next : rest = second ++ behindWord texts := by
            cases blanks with
            | nil => exact absurd rfl nonempty
            | cons c blanks =>
                obtain ⟨_, tail⟩ := List.cons.inj behindShape
                cases blanks with
                | nil => exact tail.symm
                | cons d blanks =>
                    cases second with
                    | nil => exact absurd rfl here.1
                    | cons first second =>
                        obtain ⟨rfl, _⟩ := List.cons.inj tail
                        have space := spaces first (List.mem_cons_of_mem c List.mem_cons_self)
                        rw [Text.isSpace_of_isLowerAlnum (here.2 first List.mem_cons_self)]
                          at space
                        contradiction
          rw [next] at dropped
          have marks := (dropRemaster_word later).mp (by rw [dropped]; rfl)
          exact ⟨second, List.mem_cons_of_mem word List.mem_cons_self, marks⟩

/-- A normal title has no mark where none of its words is one. -/
theorem quiet_intercalate {texts : List (List Char)} (proper : ProperWords texts)
    {before : Option Char} (outside : before.any (isTitleWord beyond) = false) :
    Quiet (findRemaster beyond) [] before ([' '].intercalate texts) ↔
      ∀ word ∈ texts, word ∉ remasterWords := by
  induction texts generalizing before with
  | nil => simp [Quiet]
  | cons word texts ih =>
      have here := proper word List.mem_cons_self
      have later : ProperWords texts :=
        fun other listed => proper other (List.mem_cons_of_mem word listed)
      have inWord : ∀ c ∈ word, isTitleWord beyond c = true :=
        fun c listed => isTitleWord_of_isLowerAlnum (here.2 c listed)
      rw [intercalate_cons_eq, quiet_append, List.append_nil]
      have first : Quiet (findRemaster beyond) (behindWord texts) before word ↔
          dropMark beyond (word ++ behindWord texts) = none := by
        cases word with
        | nil => exact absurd rfl here.1
        | cons c word =>
            rw [List.forall_mem_cons] at inWord
            have inside : (some c).any (isTitleWord beyond) = true := by simpa using inWord.1
            have found : findRemaster beyond before (c :: (word ++ behindWord texts)) =
                dropMark beyond (c :: (word ++ behindWord texts)) := by
              rw [findRemaster, outside, List.head?_cons, inside]
              rfl
            rw [Quiet, found, List.cons_append]
            exact and_iff_left (quiet_of_word inside inWord.2)
      have rest : Quiet (findRemaster beyond) [] (lastOf before word) (behindWord texts) ↔
          ∀ word ∈ texts, word ∉ remasterWords := by
        rw [behindWord]
        split
        · next empty => simp [Quiet, empty]
        · rw [Quiet, ih later rfl, List.append_nil]
          apply and_iff_right
          have clear : dropMark beyond (' ' :: [' '].intercalate texts) = none :=
            dropMark_eq_none (by decide) (@dropYear_eq_none [] _ ' ' (by decide) (by decide))
          rw [findRemaster, clear]
          split <;> rfl
      rw [first, rest, List.forall_mem_cons]
      constructor
      · intro quiet
        refine ⟨?_, quiet.2⟩
        intro marks
        have remaster := (@dropRemaster_word beyond word texts proper).mpr marks
        rw [dropMark, Option.or_eq_none_iff] at quiet
        rw [quiet.1.2] at remaster
        contradiction
      · intro none_
        refine ⟨?_, none_.2⟩
        rw [← Option.not_isSome_iff_eq_none]
        intro found
        obtain ⟨mark, listed, marks⟩ := dropMark_word proper found
        cases List.mem_cons.mp listed with
        | inl same => exact none_.1 (same ▸ marks)
        | inr other => exact none_.2 mark other marks

/-- A number that is dropped has a digit, and the rest stays. -/
theorem dropNumber_suffix {text rest : List Char} (dropped : dropNumber text = some rest) :
    ∃ before, text = before ++ rest ∧ ∃ c ∈ before, Text.isDecimal c = true := by
  obtain ⟨digits, separators, rfl, number, _⟩ := dropNumber_eq_some dropped
  refine ⟨digits ++ separators, by simp, ?_⟩
  cases digits with
  | nil => have length := number.length; simp at length
  | cons c digits => exact ⟨c, by simp, number.decimal c List.mem_cons_self⟩

theorem dropFirst_suffix {text rest : List Char} (dropped : dropFirst text = some rest) :
    ∃ before, text = before ++ rest ∧ ∃ c ∈ before, Text.isDecimal c = true := by
  have widen : ∀ part, part <:+ text → dropNumber part = some rest →
      ∃ before, text = before ++ rest ∧ ∃ c ∈ before, Text.isDecimal c = true := by
    intro part suffix number
    obtain ⟨start, shape⟩ := suffix
    obtain ⟨before, rfl, c, listed, decimal⟩ := dropNumber_suffix number
    exact ⟨start ++ before, by simp [← shape], c, List.mem_append_right start listed, decimal⟩
  rw [dropFirst, Option.or_eq_some_iff] at dropped
  cases dropped with
  | inr plain => exact widen _ (List.dropWhile_suffix _) plain.2
  | inl withDisc =>
      obtain ⟨behind, disc, dropped⟩ := Option.bind_eq_some_iff.mp withDisc
      obtain ⟨run, shape, _⟩ := dropLiteral_eq_some disc
      apply widen _ _ dropped
      have inner : behind <:+ text.dropWhile Text.isSpace := ⟨run, shape.symm⟩
      exact ((List.dropWhile_suffix _).trans inner).trans (List.dropWhile_suffix _)

/-- What is left is behind the first number. -/
theorem stripNumber_suffix_of_some {text rest : List Char} (dropped : dropFirst text = some rest) :
    stripNumber text <:+ rest := by
  rw [stripNumber, dropped]
  cases second : dropNumber rest with
  | none => simp [second]
  | some last =>
      obtain ⟨between, shape, _⟩ := dropNumber_suffix second
      have inner : last <:+ rest := ⟨between, shape.symm⟩
      simpa [second] using inner

theorem stripNumber_eq_self {text : List Char} (none_ : dropFirst text = none) :
    stripNumber text = text := by
  rw [stripNumber, none_]

theorem stripNumber_suffix (text : List Char) : stripNumber text <:+ text := by
  cases found : dropFirst text with
  | none => simp [stripNumber_eq_self found]
  | some rest =>
      obtain ⟨before, shape, _⟩ := dropFirst_suffix found
      have behind : rest <:+ text := ⟨before, shape.symm⟩
      exact (stripNumber_suffix_of_some found).trans behind

theorem lastPart_eq_self {text : List Char} (plain : '-' ∉ text) : lastPart text = text := by
  have none_ : behindDash text = none := by
    induction text with
    | nil => rfl
    | cons c text ih =>
        rw [List.mem_cons, not_or] at plain
        have dashed : ¬ " - ".toList.isPrefixOf (c :: text) = true := by
          intro begins
          have sign : '-' ∈ " - ".toList := by decide
          have member := (List.isPrefixOf_iff_prefix.mp begins).subset sign
          rw [List.mem_cons] at member
          cases member with
          | inl same => exact plain.1 same
          | inr later => exact plain.2 later
        rw [behindDash, ih plain.2, if_neg dashed]
        rfl
  rw [lastPart, none_]
  rfl

theorem IsNormal.not_mem {text : List Char} (normal : IsNormal text) (sign : Char)
    (letter : Text.isLowerAlnum sign = false) (blank : sign ≠ ' ') : sign ∉ text := by
  intro listed
  cases normal sign listed with
  | inl alnum => rw [letter] at alnum; contradiction
  | inr same => exact blank same

/-- A normal title has no dot, no dash and no bracket. -/
theorem bareTitle_of_isNormal {text : List Char} (normal : IsNormal text) :
    bareTitle beyond text = removeAll (findRemaster beyond) (stripNumber text) := by
  have noSuffix : stripSuffix text = text := by
    apply stripSuffix_eq_self
    rw [suffixOf, if_neg (normal.not_mem '.' (by decide) (by decide))]
    decide
  have part := normal.sublist (stripNumber_suffix text).sublist
  have dash := lastPart_eq_self (part.not_mem '-' (by decide) (by decide))
  have brackets : removeAll findBracketed (stripNumber text) = stripNumber text := by
    apply removeFrom_eq_self
    apply quiet_of_forall
    intro before c listed rest
    have square : c ≠ '[' := fun same =>
      part.not_mem '[' (by decide) (by decide) (same ▸ listed)
    have round : c ≠ '(' := fun same =>
      part.not_mem '(' (by decide) (by decide) (same ▸ listed)
    simp [findBracketed, square, round]
  rw [bareTitle, noSuffix, dash, brackets]

/-- In a normal title every character but the blank is a letter or a digit. -/
theorem IsNormal.filter_eq {text : List Char} (normal : IsNormal text) :
    text.filter (fun c => decide (c ≠ ' ')) = text.filter Text.isLowerAlnum := by
  apply List.filter_congr
  intro c listed
  cases normal c listed with
  | inl letter =>
      have other : c ≠ ' ' := by
        intro same
        rw [same] at letter
        contradiction
      simp [letter, other]
  | inr blank => rw [blank]; decide

theorem titleWords_of_isNormal {text : List Char} (normal : IsNormal text) :
    titleWords text = words Text.isLowerAlnum text := by
  rw [titleWords, normal.lower_eq]

/-- No mark begins at a blank. -/
theorem findRemaster_begins (before : Option Char) (c : Char) (rest : List Char)
    (found : (findRemaster beyond before (c :: rest)).isSome = true) :
    decide (c ≠ ' ') = true := by
  apply decide_eq_true
  intro blank
  have clear : dropMark beyond (c :: rest) = none := by
    rw [blank]
    exact dropMark_eq_none (by decide) (@dropYear_eq_none [] _ ' ' (by decide) (by decide))
  rw [findRemaster, clear] at found
  split at found <;> contradiction

/-- A number that is dropped from a normal title takes a letter or digit with it. -/
theorem numbered_length {text rest : List Char} (normal : IsNormal text)
    (dropped : dropFirst text = some rest) :
    ((stripNumber text).filter Text.isLowerAlnum).length <
      (text.filter Text.isLowerAlnum).length := by
  have left := ((stripNumber_suffix_of_some dropped).sublist.filter Text.isLowerAlnum).length_le
  obtain ⟨before, rfl, c, listed, decimal⟩ := dropFirst_suffix dropped
  have letter : Text.isLowerAlnum c = true := by
    cases normal c (List.mem_append_left rest listed) with
    | inl alnum => exact alnum
    | inr blank =>
        rw [blank] at decimal
        contradiction
  have taken : 0 < (before.filter Text.isLowerAlnum).length :=
    List.length_pos_of_mem (List.mem_filter.mpr ⟨listed, letter⟩)
  rw [List.filter_append, List.length_append]
  omega

/-- Normalising a normal title again changes nothing, unless it starts with a number or has a
mark for a word. -/
theorem normalizeTrackTitle_intercalate {texts : List (List Char)} (proper : ProperWords texts) :
    normalizeTrackTitle beyond ([' '].intercalate texts) = [' '].intercalate texts ↔
      startsNumbered texts = false ∧ ∀ word ∈ texts, word ∉ remasterWords := by
  have normal := isNormal_intercalate proper
  have read : words Text.isLowerAlnum ([' '].intercalate texts) = texts :=
    words_intercalate rfl proper
  have first := dropFirst_intercalate proper
  have quiet := @quiet_intercalate beyond texts proper none rfl
  rw [normalizeTrackTitle_eq, bareTitle_of_isNormal normal, ← first, ← quiet]
  generalize whole : [' '].intercalate texts = text at normal read ⊢
  have part : IsNormal (removeAll (findRemaster beyond) (stripNumber text)) :=
    normal.sublist ((removeFrom_sublist 0 none _).trans (stripNumber_suffix text).sublist)
  have same : [' '].intercalate (titleWords (removeAll (findRemaster beyond) (stripNumber text))) =
      text ↔ words Text.isLowerAlnum (removeAll (findRemaster beyond) (stripNumber text)) =
        words Text.isLowerAlnum text := by
    rw [← titleWords_of_isNormal part, read]
    constructor
    · intro unchanged
      rw [← words_titleWords, unchanged, read]
    · intro left
      rw [left, whole]
  rw [same]
  cases found : dropFirst text with
  | some rest =>
      have shorter := numbered_length normal found
      have numbered : words Text.isLowerAlnum (removeAll (findRemaster beyond)
          (stripNumber text)) ≠ words Text.isLowerAlnum text := by
        intro left
        have letters := congrArg List.length (congrArg List.flatten left)
        have fewer := ((@removeFrom_sublist Char (findRemaster beyond) 0 none
          (stripNumber text)).filter Text.isLowerAlnum).length_le
        rw [flatten_words, flatten_words, removeAll] at letters
        omega
      simp [numbered]
  | none =>
      rw [stripNumber_eq_self found] at part ⊢
      constructor
      · intro left
        constructor
        · rfl
        · have letters := congrArg List.flatten left
          rw [flatten_words, flatten_words, ← normal.filter_eq, ← part.filter_eq] at letters
          exact quiet_of_filter_eq findRemaster_begins letters
      · intro marks
        rw [removeAll, removeFrom_eq_self marks.2]

end Normal

/-! ## What is ignored -/

section Numbering

variable (beyond : Char → Bool)

/-- Only the numbering is ignored: a file named after a track has the normal title of the track,
and normalising it again changes nothing. -/
structure IgnoresNumbering (title : List Char) : Prop where
  files : suffixOf title ∉ audioSuffixes →
    ∀ number suffix : List Char, (∀ c ∈ number, Text.isDecimal c = true) →
      (number.length = 1 ∨ number.length = 2) → suffix ∈ audioSuffixes →
      normalizeTrackTitle beyond (number ++ (" - ".toList ++ title) ++ suffix) =
        normalizeTrackTitle beyond title
  idempotent :
    normalizeTrackTitle beyond (normalizeTrackTitle beyond title) = normalizeTrackTitle beyond title

/-- A title whose own numbers are never taken for those of a track in two ways. -/
structure Unambiguous (title : List Char) : Prop where
  beginning : suffixOf title ∉ audioSuffixes →
    Harmless beyond (spare (filedRest title) (stripNumber title))
      (shared (filedRest title) (stripNumber title))
  unnumbered : startsNumbered (titleWords (bareTitle beyond title)) = false
  unmarked : ∀ word ∈ titleWords (bareTitle beyond title), word ∉ remasterWords

theorem properWords_titleWords (text : List Char) : ProperWords (titleWords text) := by
  intro word listed
  exact mem_words listed

/-- Exactly the titles without an ambiguous number match the files named after them and are
normalised once and for all. -/
theorem ignoresNumbering_iff (title : List Char) :
    IgnoresNumbering beyond title ↔ Unambiguous beyond title := by
  have again := @normalizeTrackTitle_intercalate beyond (titleWords (bareTitle beyond title))
    (properWords_titleWords _)
  rw [← normalizeTrackTitle_eq] at again
  constructor
  · intro ignores
    obtain ⟨unnumbered, unmarked⟩ := again.mp ignores.idempotent
    refine ⟨?_, unnumbered, unmarked⟩
    intro plain
    have one : ∀ c ∈ ['1'], Text.isDecimal c = true := by
      rw [List.forall_mem_singleton]
      rfl
    have audio : ".flac".toList ∈ audioSuffixes := List.mem_cons_self
    have file := ignores.files plain ['1'] ".flac".toList one (.inl rfl) audio
    rw [normalizeTrackTitle_file plain one (.inl rfl) audio] at file
    exact (titleWords_filedRest title).mp file
  · intro unambiguous
    refine ⟨?_, again.mpr ⟨unambiguous.unnumbered, unambiguous.unmarked⟩⟩
    intro plain number suffix decimal length audio
    rw [normalizeTrackTitle_file plain decimal length audio]
    exact (titleWords_filedRest title).mpr (unambiguous.beginning plain)

/-- The file of `1-2 Step` keeps a number that the title loses. -/
theorem not_ignoresNumbering_step : ¬ IgnoresNumbering (fun _ => true) "1-2 Step".toList := by
  intro ignores
  have number : ∀ c ∈ ['1'], Text.isDecimal c = true := by
    rw [List.forall_mem_singleton]
    rfl
  have plain : suffixOf "1-2 Step".toList ∉ audioSuffixes := by decide
  have file := ignores.files plain ['1'] ".flac".toList number (.inl rfl) List.mem_cons_self
  rw [normalizeTrackTitle_file plain number (.inl rfl) List.mem_cons_self] at file
  have filed : titleWords (unmarked (fun _ => true) (lastPart (filedRest "1-2 Step".toList))) =
      ["2".toList, "step".toList] := by rfl
  have own : titleWords (unmarked (fun _ => true) (lastPart (stripNumber "1-2 Step".toList))) =
      ["step".toList] := by rfl
  rw [filed, own] at file
  exact absurd (congrArg List.length file) (by decide)

end Numbering

end Mintarr.Policy.Titles
