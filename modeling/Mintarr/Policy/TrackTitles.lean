import Mintarr.Lib.Characters
import Mintarr.Lib.Removal
import Mintarr.Lib.Words

/-!
# Titles of tracks

A file named after a track carries its number and a suffix, and `normalize_track_title_for_match`
is to drop both.  The pattern for the number also takes numbers that belong to the title.  What a
file leaves and what its title leaves are the same text but for a beginning of numbers and
separators.
-/

namespace Mintarr.Policy.Titles

open Lib

/-! ## Characters -/

/-- `str.isalnum`, given for the characters beyond ASCII that are neither decimal digits nor taken
for a letter in any case. -/
def isTitleAlnum (beyond : Char → Bool) (c : Char) : Bool :=
  Text.isDecimal c || Text.isLowerAlnum (Text.foldCase c) || Text.isAlnum beyond c

/-- `\w`. -/
def isTitleWord (beyond : Char → Bool) (c : Char) : Bool := Text.isWord (isTitleAlnum beyond) c

/-- `[\s._-]`. -/
def isSeparator (c : Char) : Bool := Text.isSpace c || c = '.' || c = '_' || c = '-'

/-- `str.lower` of a character, as far as it gives letters and digits of ASCII. -/
def lowerChar (c : Char) : List Char :=
  if c = '\u0130' then ['i', '\u0307']
  else if c = '\u212a' then ['k']
  else [c.toLower]

/-- `str.lower`, as far as it gives letters and digits of ASCII. -/
def lower (text : List Char) : List Char := text.flatMap lowerChar

/-! ## The suffix -/

/-- `AUDIO_SUFFIXES`. -/
def audioSuffixes : List (List Char) :=
  [".flac".toList, ".m4a".toList, ".mp3".toList, ".ogg".toList, ".aac".toList]

/-- `title[title.rfind("."):].lower()`, empty without a dot. -/
def suffixOf (title : List Char) : List Char :=
  if '.' ∈ title then lower ('.' :: (title.reverse.takeWhile (· ≠ '.')).reverse) else []

/-- The title without an audio suffix. -/
def stripSuffix (title : List Char) : List Char :=
  let suffix := suffixOf title
  if suffix ∈ audioSuffixes then title.take (title.length - suffix.length) else title

/-! ## The number -/

/-- What is behind a literal in any letter case. -/
def dropLiteral (word : String) (text : List Char) : Option (List Char) :=
  if (text.take word.toList.length).map Text.foldCase = word.toList then
    some (text.drop word.toList.length)
  else none

/-- What is behind `\d{1,2}[\s._-]+`; no separator is a digit. -/
def dropNumber (text : List Char) : Option (List Char) :=
  let digits := text.takeWhile Text.isDecimal
  let behind := text.dropWhile Text.isDecimal
  if (digits.length = 1 || digits.length = 2) && behind.head?.any isSeparator then
    some (behind.dropWhile isSeparator)
  else none

/-- What is behind `^\s*(?:disc\s*)?\d{1,2}[\s._-]+`. -/
def dropFirst (text : List Char) : Option (List Char) :=
  let start := text.dropWhile Text.isSpace
  ((dropLiteral "disc" start).bind fun rest => dropNumber (rest.dropWhile Text.isSpace)).or
    (dropNumber start)

/-- The title without its numbers. -/
def stripNumber (text : List Char) : List Char :=
  match dropFirst text with
  | none => text
  | some rest => (dropNumber rest).getD rest

/-! ## The last part -/

/-- What is behind the last `" - "`. -/
def behindDash : List Char → Option (List Char)
  | [] => none
  | c :: rest =>
      (behindDash rest).or
        (if " - ".toList.isPrefixOf (c :: rest) then some ((c :: rest).drop 3) else none)

/-- `text.rsplit(" - ", 1)[-1]`. -/
def lastPart (text : List Char) : List Char := (behindDash text).getD text

/-! ## Marks of an edition -/

/-- What is behind `\d{4}\s+`. -/
def dropYear (text : List Char) : Option (List Char) :=
  let year := text.take 4
  let behind := text.drop 4
  if year.length = 4 && year.all Text.isDecimal && behind.head?.any Text.isSpace then
    some (behind.dropWhile Text.isSpace)
  else none

/-- What is behind `\s*[\])]`. -/
def dropClosing (text : List Char) : Option (List Char) :=
  match text.dropWhile Text.isSpace with
  | [] => none
  | c :: rest => if c = ']' || c = ')' then some rest else none

/-- The words of a mark in brackets. -/
def editions : List String :=
  ["remastered", "remaster", "remixed", "remix", "anniversary remaster"]

/-- What is behind one of the words and a closing bracket. -/
def dropEdition (text : List Char) : Option (List Char) :=
  editions.findSome? fun word => (dropLiteral word text).bind dropClosing

/-- What is behind a mark in brackets. -/
def findBracketed : Finder Char := fun _ text =>
  match text with
  | [] => none
  | c :: rest =>
      if c = '[' || c = '(' then
        let inner := rest.dropWhile Text.isSpace
        ((dropYear inner).bind dropEdition).or (dropEdition inner)
      else none

section Marks

variable (beyond : Char → Bool)

/-- What is behind `remaster(?:ed)?\b`. -/
def dropRemaster (text : List Char) : Option (List Char) :=
  ["remastered", "remaster"].findSome? fun word =>
    (dropLiteral word text).filter fun rest => !rest.head?.any (isTitleWord beyond)

/-- What is behind `(?:\d{4}\s+)?remaster(?:ed)?\b`. -/
def dropMark (text : List Char) : Option (List Char) :=
  ((dropYear text).bind (dropRemaster beyond)).or (dropRemaster beyond text)

/-- What is behind `\b(?:\d{4}\s+)?remaster(?:ed)?\b`. -/
def findRemaster : Finder Char := fun before text =>
  if before.any (isTitleWord beyond) = text.head?.any (isTitleWord beyond) then none
  else dropMark beyond text

/-! ## Normal titles -/

/-- The title without its suffix, its numbers, the parts before its last one and the marks of an
edition. -/
def bareTitle (title : List Char) : List Char :=
  removeAll (findRemaster beyond)
    (removeAll findBracketed (lastPart (stripNumber (stripSuffix title))))

/-- `normalize_track_title_for_match`. -/
def normalizeTrackTitle (title : List Char) : List Char :=
  let letters := collapse Text.isLowerAlnum ' ' (lower (bareTitle beyond title))
  Text.strip Text.isSpace (collapse (fun c => !Text.isSpace c) ' ' letters)

end Marks

/-- The words of a text in ASCII letters and digits. -/
def titleWords (text : List Char) : List (List Char) := words Text.isLowerAlnum (lower text)

/-- The words of a normal title are those of what is left of the title. -/
theorem normalizeTrackTitle_eq (beyond : Char → Bool) (title : List Char) :
    normalizeTrackTitle beyond title =
      [' '].intercalate (titleWords (bareTitle beyond title)) := by
  rw [normalizeTrackTitle, titleWords]
  generalize lower (bareTitle beyond title) = text
  have same : words (fun c => !Text.isSpace c) (collapse Text.isLowerAlnum ' ' text) =
      words Text.isLowerAlnum (collapse Text.isLowerAlnum ' ' text) := by
    apply words_congr
    intro c member
    cases mem_collapse member with
    | inl letter => rw [letter, Text.isSpace_of_isLowerAlnum letter]; rfl
    | inr blank => rw [blank]; rfl
  have trimmed := @trim_collapse Char (fun c => !Text.isSpace c) ' ' rfl
    (collapse Text.isLowerAlnum ' ' text)
  simp only [Bool.not_not] at trimmed
  rw [same, words_collapse rfl] at trimmed
  rw [← trimmed, trimEnd, Text.strip]
  simp only [Bool.not_not]

/-! ## Digits, separators and letters -/

/-- No decimal digit has a value of white space or of a letter. -/
theorem bounds_of_isDecimal {c : Char} (decimal : Text.isDecimal c = true) :
    0x30 ≤ c.toNat ∧ (c.toNat < 0x3A ∨ 0x660 ≤ c.toNat) ∧
      (c.toNat < 0x1680 ∨ 0x1681 ≤ c.toNat) ∧ (c.toNat < 0x2000 ∨ 0x3001 ≤ c.toNat) := by
  rw [Text.isDecimal, Text.decimal, Option.isSome_map] at decimal
  obtain ⟨first, found⟩ := Option.isSome_iff_exists.mp decimal
  have listed := List.mem_of_find?_eq_some found
  have within := List.find?_some found
  simp only [Bool.and_eq_true, decide_eq_true_eq] at within
  have known : (Text.decimalZeros.all fun first => decide (0x30 ≤ first) &&
      (decide (first = 0x30) || decide (0x660 ≤ first)) &&
      (decide (first + 9 < 0x1680) || decide (0x1681 ≤ first)) &&
      (decide (first + 9 < 0x2000) || decide (0x3001 ≤ first))) = true := by decide
  have here := List.all_eq_true.mp known first listed
  simp only [Bool.and_eq_true, Bool.or_eq_true, decide_eq_true_eq] at here
  omega

theorem isSpace_of_isDecimal {c : Char} (decimal : Text.isDecimal c = true) :
    Text.isSpace c = false := by
  apply eq_false_of_ne_true
  intro space
  have bounds := bounds_of_isDecimal decimal
  have values := Text.toNat_of_isSpace space
  simp only [List.mem_cons, List.not_mem_nil, or_false] at values
  omega

theorem foldCase_of_isDecimal {c : Char} (decimal : Text.isDecimal c = true) :
    Text.foldCase c = c := by
  have bounds := bounds_of_isDecimal decimal
  apply Text.foldCase_eq_self
  · omega
  · simp only [List.mem_cons, List.not_mem_nil, or_false]
    omega

theorem isSeparator_of_isDecimal {c : Char} (decimal : Text.isDecimal c = true) :
    isSeparator c = false := by
  have others : c ≠ '.' ∧ c ≠ '_' ∧ c ≠ '-' := by
    refine ⟨?_, ?_, ?_⟩ <;> (intro same; rw [same] at decimal; contradiction)
  simp [isSeparator, isSpace_of_isDecimal decimal, others]

theorem isDecimal_of_isSeparator {c : Char} (separator : isSeparator c = true) :
    Text.isDecimal c = false := by
  apply eq_false_of_ne_true
  intro decimal
  rw [isSeparator_of_isDecimal decimal] at separator
  contradiction

theorem isSeparator_of_isSpace {c : Char} (space : Text.isSpace c = true) :
    isSeparator c = true := by
  simp [isSeparator, space]

/-- A separator is no letter in any case. -/
theorem foldCase_of_isSeparator {c : Char} (separator : isSeparator c = true) :
    Text.foldCase c = c := by
  rw [isSeparator, Bool.or_eq_true, Bool.or_eq_true, Bool.or_eq_true] at separator
  cases separator with
  | inr dash => rw [of_decide_eq_true dash]; decide
  | inl rest =>
      cases rest with
      | inr line => rw [of_decide_eq_true line]; decide
      | inl rest =>
          cases rest with
          | inr dot => rw [of_decide_eq_true dot]; decide
          | inl space => exact Text.foldCase_of_isSpace space

/-- Neither a digit nor a separator is taken for a letter. -/
theorem foldCase_ne_letter {c letter : Char}
    (plain : Text.isDecimal c = true ∨ isSeparator c = true)
    (lower : letter.isLower = true) : Text.foldCase c ≠ letter := by
  intro same
  cases plain with
  | inl decimal =>
      rw [foldCase_of_isDecimal decimal] at same
      have bounds := bounds_of_isDecimal decimal
      have letters := Text.bounds_of_isLower lower
      rw [same] at bounds
      omega
  | inr separator =>
      rw [foldCase_of_isSeparator separator] at same
      have alnum : Text.isLowerAlnum letter = true := by simp [Text.isLowerAlnum, lower]
      have values := Text.bounds_of_isLower lower
      have others : ∀ other : Char, other.toNat < 0x61 → letter ≠ other := by
        intro other below equal
        rw [equal] at values
        omega
      rw [same, isSeparator, Text.isSpace_of_isLowerAlnum alnum] at separator
      simp [others '.' (by decide), others '_' (by decide), others '-' (by decide)] at separator

/-! ## The number of a file -/

theorem dropLiteral_eq_none {word : String} {first : Char} {letters : List Char}
    (spelled : word.toList = first :: letters) (lower : first.isLower = true) {text : List Char}
    (plain : ∀ c, text.head? = some c → Text.isDecimal c = true ∨ isSeparator c = true) :
    dropLiteral word text = none := by
  rw [dropLiteral, spelled, if_neg]
  cases text with
  | nil => simp
  | cons c rest =>
      rw [List.length_cons, List.take_succ_cons, List.map_cons]
      intro same
      exact foldCase_ne_letter (plain c rfl) lower (List.cons.inj same).1

/-- The parts of a number with its separators. -/
structure IsNumber (digits separators : List Char) : Prop where
  decimal : ∀ c ∈ digits, Text.isDecimal c = true
  length : digits.length = 1 ∨ digits.length = 2
  nonempty : separators ≠ []
  separators : ∀ c ∈ separators, isSeparator c = true

theorem dropNumber_append {digits rest : List Char}
    (decimal : ∀ c ∈ digits, Text.isDecimal c = true)
    (length : digits.length = 1 ∨ digits.length = 2)
    (separated : rest.head?.any isSeparator = true) :
    dropNumber (digits ++ rest) = some (rest.dropWhile isSeparator) := by
  have stops : rest.takeWhile Text.isDecimal = [] ∧ rest.dropWhile Text.isDecimal = rest := by
    cases rest with
    | nil => exact ⟨rfl, rfl⟩
    | cons c rest =>
        have other := isDecimal_of_isSeparator (by simpa using separated)
        constructor
        · rw [List.takeWhile_cons_of_neg (by simp [other])]
        · rw [List.dropWhile_cons_of_neg (by simp [other])]
  rw [dropNumber, List.takeWhile_append_of_pos decimal, List.dropWhile_append_of_pos decimal,
    stops.1, stops.2, List.append_nil, separated]
  have count : (decide (digits.length = 1) || decide (digits.length = 2)) = true := by
    simpa using length
  simp [count]

/-- What a number with its separators looks like. -/
theorem dropNumber_eq_some {text rest : List Char} (dropped : dropNumber text = some rest) :
    ∃ digits separators, text = digits ++ (separators ++ rest) ∧ IsNumber digits separators ∧
      (rest.head?.all fun c => !isSeparator c) = true := by
  rw [dropNumber] at dropped
  split at dropped
  · next passed =>
    rw [Bool.and_eq_true, Bool.or_eq_true, decide_eq_true_eq, decide_eq_true_eq] at passed
    obtain ⟨length, separated⟩ := passed
    cases dropped
    refine ⟨text.takeWhile Text.isDecimal,
      (text.dropWhile Text.isDecimal).takeWhile isSeparator, ?_, ⟨?_, length, ?_, ?_⟩, ?_⟩
    · rw [List.takeWhile_append_dropWhile, List.takeWhile_append_dropWhile]
    · intro c listed
      exact List.all_eq_true.mp List.all_takeWhile c listed
    · cases behind : text.dropWhile Text.isDecimal with
      | nil => rw [behind] at separated; contradiction
      | cons c others =>
          rw [behind] at separated
          rw [List.takeWhile_cons_of_pos (by simpa using separated)]
          exact List.cons_ne_nil _ _
    · intro c listed
      exact List.all_eq_true.mp List.all_takeWhile c listed
    · have rejected := List.head?_dropWhile_not isSeparator (text.dropWhile Text.isDecimal)
      generalize (text.dropWhile Text.isDecimal).dropWhile isSeparator = rest at rejected
      cases rest with
      | nil => rfl
      | cons c others => simpa using rejected
  · contradiction

/-- What is left of a title behind the number of its file. -/
def filedRest (title : List Char) : List Char :=
  (dropNumber (title.dropWhile isSeparator)).getD (title.dropWhile isSeparator)

/-- The number of a file is dropped, with a number that the title begins with. -/
theorem stripNumber_file {number : List Char} (decimal : ∀ c ∈ number, Text.isDecimal c = true)
    (length : number.length = 1 ∨ number.length = 2) (title : List Char) :
    stripNumber (number ++ (" - ".toList ++ title)) = filedRest title := by
  have behind : dropNumber (number ++ (" - ".toList ++ title)) =
      some (title.dropWhile isSeparator) :=
    dropNumber_append decimal length rfl
  cases number with
  | nil => simp at length
  | cons c number =>
      have first := decimal c List.mem_cons_self
      have start : (c :: number ++ (" - ".toList ++ title)).dropWhile Text.isSpace =
          c :: number ++ (" - ".toList ++ title) :=
        List.dropWhile_cons_of_neg (by simp [isSpace_of_isDecimal first])
      have noDisc : dropLiteral "disc" (c :: number ++ (" - ".toList ++ title)) = none := by
        apply dropLiteral_eq_none (by rfl) (by decide)
        intro d head
        cases head
        exact .inl first
      rw [stripNumber, dropFirst, start, noDisc, behind]
      rfl

/-! ## What the file and the title leave -/

/-- No mark begins within a text, whatever is behind it. -/
def Markless (beyond : Char → Bool) (text : List Char) : Prop :=
  ∀ part after, part <:+ text → part ≠ [] → dropMark beyond (part ++ after) = none

/-- The beginning of a text that is ahead of another and in which no mark begins. -/
structure Ahead (beyond : Char → Bool) (extra rest : List Char) : Prop where
  ends : ∀ c, extra.getLast? = some c → isSeparator c = true
  apart : extra ≠ [] → (rest.head?.all fun c => !isSeparator c) = true
  plain : Markless beyond extra
  unopened : ∀ c ∈ extra, c ≠ '[' ∧ c ≠ '('

section Markless

variable {beyond : Char → Bool}

theorem markless_nil : Markless beyond [] := by
  intro part after suffix nonempty
  exact absurd (List.eq_nil_of_suffix_nil suffix) nonempty

theorem markless_cons {c : Char} {text : List Char}
    (here : ∀ after, dropMark beyond (c :: (text ++ after)) = none)
    (later : Markless beyond text) : Markless beyond (c :: text) := by
  intro part after suffix nonempty
  cases List.suffix_cons_iff.mp suffix with
  | inl whole => rw [whole]; exact here after
  | inr inner => exact later part after inner nonempty

/-- A mark begins with a year or a letter. -/
theorem dropMark_eq_none {c : Char} {rest : List Char} (letter : Text.foldCase c ≠ 'r')
    (year : dropYear (c :: rest) = none) : dropMark beyond (c :: rest) = none := by
  have no : ∀ word : String, word.toList.head? = some 'r' →
      dropLiteral word (c :: rest) = none := by
    intro word begins
    rw [dropLiteral, if_neg]
    cases spelled : word.toList with
    | nil => rw [spelled] at begins; contradiction
    | cons first letters =>
        rw [spelled] at begins
        cases begins
        intro same
        exact letter (List.cons.inj same).1
  rw [dropMark, year, dropRemaster]
  simp [no "remastered" rfl, no "remaster" rfl]

/-- A year has four digits in a row. -/
theorem dropYear_eq_none {before after : List Char} {c : Char} (short : before.length < 4)
    (other : Text.isDecimal c = false) : dropYear (before ++ c :: after) = none := by
  have member : c ∈ (before ++ c :: after).take 4 := by
    rw [List.take_append, List.mem_append]
    right
    rw [List.take_cons (by omega)]
    exact List.mem_cons_self
  have broken : ((before ++ c :: after).take 4).all Text.isDecimal = false := by
    rw [List.all_eq_false]
    exact ⟨c, member, by simp [other]⟩
  rw [dropYear]
  simp only [broken, Bool.and_false, Bool.false_and]
  rfl

theorem markless_separators {run text : List Char} (separators : ∀ c ∈ run, isSeparator c = true)
    (later : Markless beyond text) : Markless beyond (run ++ text) := by
  induction run with
  | nil => exact later
  | cons c run ih =>
      rw [List.forall_mem_cons] at separators
      apply markless_cons _ (ih separators.2)
      intro after
      apply dropMark_eq_none (foldCase_ne_letter (.inr separators.1) (by decide))
      exact @dropYear_eq_none [] _ c (by decide) (isDecimal_of_isSeparator separators.1)

/-- One or two digits before a separator are no year. -/
theorem markless_number {digits text : List Char} {separator : Char}
    (decimal : ∀ c ∈ digits, Text.isDecimal c = true)
    (length : digits.length = 1 ∨ digits.length = 2) (separated : isSeparator separator = true)
    (later : Markless beyond (separator :: text)) :
    Markless beyond (digits ++ separator :: text) := by
  have other := isDecimal_of_isSeparator separated
  have few : digits.length < 3 := by omega
  clear length
  induction digits with
  | nil => exact later
  | cons c digits ih =>
      rw [List.forall_mem_cons] at decimal
      rw [List.length_cons] at few
      apply markless_cons _ (ih decimal.2 (by omega))
      intro after
      apply dropMark_eq_none (foldCase_ne_letter (.inl decimal.1) (by decide))
      have broken := @dropYear_eq_none (c :: digits) (text ++ after) separator
        (by rw [List.length_cons]; omega) other
      rw [List.append_assoc, List.cons_append]
      exact broken

/-- The letters of a word without an `r` begin no mark. -/
theorem markless_word {run text : List Char}
    (letters : ∀ c ∈ run, (Text.foldCase c).isLower = true ∧ Text.foldCase c ≠ 'r')
    (later : Markless beyond text) : Markless beyond (run ++ text) := by
  induction run with
  | nil => exact later
  | cons c run ih =>
      rw [List.forall_mem_cons] at letters
      apply markless_cons _ (ih letters.2)
      intro after
      apply dropMark_eq_none letters.1.2
      apply @dropYear_eq_none [] _ c (by decide)
      apply eq_false_of_ne_true
      intro decimal
      exact foldCase_ne_letter (.inl decimal) letters.1.1 rfl

end Markless

section Ahead

variable {beyond : Char → Bool}

theorem markless_isNumber {digits separators text : List Char} (number : IsNumber digits separators)
    (later : Markless beyond text) : Markless beyond (digits ++ (separators ++ text)) := by
  have behind := markless_separators number.separators later
  cases separators with
  | nil => exact absurd rfl number.nonempty
  | cons c separators =>
      exact markless_number number.decimal number.length
        (number.separators c List.mem_cons_self) behind

/-- Neither digits nor separators open a bracket. -/
theorem unopened_of_plain {c : Char} (plain : Text.isDecimal c = true ∨ isSeparator c = true) :
    c ≠ '[' ∧ c ≠ '(' := by
  constructor <;> (intro same; rw [same] at plain; revert plain; decide)

theorem IsNumber.unopened {digits separators : List Char} (number : IsNumber digits separators) :
    ∀ c ∈ digits ++ separators, c ≠ '[' ∧ c ≠ '(' := by
  intro c listed
  cases List.mem_append.mp listed with
  | inl digit => exact unopened_of_plain (.inl (number.decimal c digit))
  | inr separator => exact unopened_of_plain (.inr (number.separators c separator))

theorem IsNumber.ends {digits separators : List Char} (number : IsNumber digits separators)
    (before : List Char) :
    ∀ c, (before ++ (digits ++ separators)).getLast? = some c → isSeparator c = true := by
  intro c last
  rw [← List.append_assoc, List.getLast?_append_of_ne_nil _ number.nonempty] at last
  exact number.separators c (List.mem_of_getLast? last)

/-- What a second number leaves. -/
theorem getD_dropNumber {rest : List Char}
    (apart : (rest.head?.all fun c => !isSeparator c) = true) :
    ∃ extra, rest = extra ++ (dropNumber rest).getD rest ∧
      (extra = [] ∨ ∃ digits separators, IsNumber digits separators ∧
        extra = digits ++ separators) ∧
      (((dropNumber rest).getD rest).head?.all fun c => !isSeparator c) = true := by
  cases dropped : dropNumber rest with
  | none => exact ⟨[], rfl, .inl rfl, apart⟩
  | some behind =>
      obtain ⟨digits, separators, shape, number, apart⟩ := dropNumber_eq_some dropped
      exact ⟨digits ++ separators, by simpa using shape, .inr ⟨digits, separators, number, rfl⟩,
        apart⟩

theorem dropLiteral_eq_some {word : String} {text rest : List Char}
    (dropped : dropLiteral word text = some rest) :
    ∃ run, text = run ++ rest ∧ run.map Text.foldCase = word.toList := by
  rw [dropLiteral] at dropped
  split at dropped
  · next same =>
    cases dropped
    exact ⟨text.take word.toList.length, (List.take_append_drop _ _).symm, same⟩
  · contradiction

/-- The title begins behind its separators with what is none. -/
theorem dropWhile_isSeparator {blanks start : List Char}
    (blank : ∀ c ∈ blanks, isSeparator c = true)
    (begins : (start.head?.all fun c => !isSeparator c) = true) :
    (blanks ++ start).dropWhile isSeparator = start := by
  rw [List.dropWhile_append_of_pos blank]
  cases start with
  | nil => rfl
  | cons c start => exact List.dropWhile_cons_of_neg (by simpa using begins)

/-- A number, if there is one, ahead of the rest. -/
theorem ahead_of_number {before extra rest : List Char}
    (beforeEnds : ∀ c, before.getLast? = some c → isSeparator c = true)
    (markless : ∀ text, Markless beyond text → Markless beyond (before ++ text))
    (unopened : ∀ c ∈ before, c ≠ '[' ∧ c ≠ '(')
    (shape : extra = [] ∨ ∃ digits separators, IsNumber digits separators ∧
      extra = digits ++ separators)
    (apart : (rest.head?.all fun c => !isSeparator c) = true) :
    Ahead beyond (before ++ extra) rest := by
  cases shape with
  | inl empty =>
      rw [empty, List.append_nil]
      have plain := markless [] markless_nil
      rw [List.append_nil] at plain
      exact ⟨beforeEnds, fun _ => apart, plain, unopened⟩
  | inr number =>
      obtain ⟨digits, separators, number, rfl⟩ := number
      constructor
      · exact number.ends before
      · exact fun _ => apart
      · apply markless
        have plain := markless_isNumber number (@markless_nil beyond)
        rw [List.append_nil] at plain
        exact plain
      · intro c listed
        cases List.mem_append.mp listed with
        | inl earlier => exact unopened c earlier
        | inr later => exact number.unopened c later

theorem head_separators (text : List Char) :
    ((text.dropWhile isSeparator).head?.all fun c => !isSeparator c) = true := by
  have rejected := List.head?_dropWhile_not isSeparator text
  generalize text.dropWhile isSeparator = rest at rejected
  cases rest with
  | nil => rfl
  | cons c others => simpa using rejected

/-- A title without a number of its own is ahead of what its file leaves. -/
theorem ahead_of_none {title : List Char} (none_ : dropFirst title = none) :
    ∃ extra, stripNumber title = extra ++ filedRest title ∧
      Ahead beyond extra (filedRest title) := by
  have own : stripNumber title = title := by rw [stripNumber, none_]
  obtain ⟨extra, shape, number, apart⟩ := getD_dropNumber (head_separators title)
  have separators : ∀ c ∈ title.takeWhile isSeparator, isSeparator c = true :=
    fun c listed => List.all_eq_true.mp List.all_takeWhile c listed
  refine ⟨title.takeWhile isSeparator ++ extra, ?_, ?_⟩
  · rw [own, filedRest, List.append_assoc, ← shape, List.takeWhile_append_dropWhile]
  · apply ahead_of_number _ (fun text => markless_separators separators) _ number apart
    · intro c last
      exact separators c (List.mem_of_getLast? last)
    · intro c listed
      exact unopened_of_plain (.inr (separators c listed))

/-- What the file leaves is ahead of a title whose own number is taken too. -/
theorem ahead_of_number_first {title rest : List Char}
    (dropped : dropNumber (title.dropWhile Text.isSpace) = some rest)
    (own : stripNumber title = (dropNumber rest).getD rest) :
    ∃ extra, filedRest title = extra ++ stripNumber title ∧
      Ahead beyond extra (stripNumber title) := by
  obtain ⟨digits, separators, shape, number, apart⟩ := dropNumber_eq_some dropped
  have blanks : ∀ c ∈ title.takeWhile Text.isSpace, isSeparator c = true :=
    fun c listed => isSeparator_of_isSpace (List.all_eq_true.mp List.all_takeWhile c listed)
  have start : title.dropWhile isSeparator = title.dropWhile Text.isSpace := by
    conv_lhs => rw [← List.takeWhile_append_dropWhile (p := Text.isSpace) (l := title)]
    apply dropWhile_isSeparator blanks
    rw [shape]
    cases digits with
    | nil => have length := number.length; simp at length
    | cons c digits =>
        simp [isSeparator_of_isDecimal (number.decimal c List.mem_cons_self)]
  obtain ⟨extra, shape', number', apart'⟩ := getD_dropNumber apart
  refine ⟨extra, ?_, ?_⟩
  · rw [filedRest, start, dropped, own]
    exact shape'
  · rw [own]
    have ahead := @ahead_of_number beyond [] extra _ (by simp) (fun text plain => plain) (by simp)
      number' apart'
    exact ahead

/-- What the file leaves is ahead of a title whose disc and number are taken. -/
theorem ahead_of_disc {title rest behind : List Char}
    (disc : dropLiteral "disc" (title.dropWhile Text.isSpace) = some behind)
    (dropped : dropNumber (behind.dropWhile Text.isSpace) = some rest)
    (own : stripNumber title = (dropNumber rest).getD rest) :
    ∃ extra, filedRest title = extra ++ stripNumber title ∧
      Ahead beyond extra (stripNumber title) := by
  obtain ⟨run, shape, folded⟩ := dropLiteral_eq_some disc
  obtain ⟨digits, separators, shape', number, apart⟩ := dropNumber_eq_some dropped
  obtain ⟨extra, shape'', number', apart'⟩ := getD_dropNumber apart
  have letters : ∀ c ∈ run, (Text.foldCase c).isLower = true ∧ Text.foldCase c ≠ 'r' := by
    intro c listed
    have spelled : Text.foldCase c ∈ "disc".toList := folded ▸ List.mem_map_of_mem listed
    have known : ("disc".toList.all fun d => d.isLower && d ≠ 'r') = true := by decide
    have here := List.all_eq_true.mp known _ spelled
    simpa using here
  have plain : ∀ c ∈ run, Text.isDecimal c = false ∧ isSeparator c = false := by
    intro c listed
    constructor <;> (apply eq_false_of_ne_true; intro is)
    · exact foldCase_ne_letter (.inl is) (letters c listed).1 rfl
    · exact foldCase_ne_letter (.inr is) (letters c listed).1 rfl
  have blanks : ∀ text : List Char, ∀ c ∈ text.takeWhile Text.isSpace, isSeparator c = true :=
    fun text c listed => isSeparator_of_isSpace (List.all_eq_true.mp List.all_takeWhile c listed)
  cases run with
  | nil => contradiction
  | cons first run =>
      have other := plain first List.mem_cons_self
      have start : title.dropWhile isSeparator = title.dropWhile Text.isSpace := by
        conv_lhs => rw [← List.takeWhile_append_dropWhile (p := Text.isSpace) (l := title)]
        apply dropWhile_isSeparator (blanks title)
        simp [shape, other.2]
      have noNumber : dropNumber (title.dropWhile Text.isSpace) = none := by
        rw [shape, dropNumber, List.cons_append,
          List.takeWhile_cons_of_neg (by simp [other.1])]
        rfl
      let before := first :: run ++ (behind.takeWhile Text.isSpace ++ (digits ++ separators))
      refine ⟨before ++ extra, ?_, ?_⟩
      · rw [filedRest, start, noNumber, Option.getD_none, own, List.append_assoc, ← shape'', shape]
        conv_lhs =>
          rw [← List.takeWhile_append_dropWhile (p := Text.isSpace) (l := behind), shape']
        simp [before]
      · rw [own]
        apply ahead_of_number _ _ _ number' apart'
        · intro c last
          have last' : ((first :: run ++ behind.takeWhile Text.isSpace) ++
              (digits ++ separators)).getLast? = some c := by
            rw [List.append_assoc]
            exact last
          exact number.ends _ c last'
        · intro text markless
          have inner := markless_separators (blanks behind) (markless_isNumber number markless)
          have whole := markless_word letters inner
          simpa [before] using whole
        · intro c listed
          cases List.mem_append.mp listed with
          | inl letter =>
              have lower := (letters c letter).1
              constructor <;> (intro same; rw [same] at lower; revert lower; decide)
          | inr rest =>
              cases List.mem_append.mp rest with
              | inl blank => exact unopened_of_plain (.inr (blanks behind c blank))
              | inr inNumber => exact number.unopened c inNumber

/-- What the file leaves of the title and what the title leaves of itself differ by something
ahead of the shorter one. -/
theorem ahead_rests (title : List Char) :
    (∃ extra, stripNumber title = extra ++ filedRest title ∧
        Ahead beyond extra (filedRest title)) ∨
      ∃ extra, filedRest title = extra ++ stripNumber title ∧
        Ahead beyond extra (stripNumber title) := by
  cases found : dropFirst title with
  | none => exact .inl (ahead_of_none found)
  | some rest =>
      right
      have own : stripNumber title = (dropNumber rest).getD rest := by rw [stripNumber, found]
      rw [dropFirst, Option.or_eq_some_iff] at found
      cases found with
      | inl withDisc =>
          obtain ⟨behind, disc, dropped⟩ := Option.bind_eq_some_iff.mp withDisc
          exact ahead_of_disc disc dropped own
      | inr plain => exact ahead_of_number_first plain.2 own

end Ahead

end Mintarr.Policy.Titles
