import Mintarr.Policy.TrackTitles

/-!
# Marks of an edition in a title

One of two texts has a beginning of numbers and separators that the other lacks.  The marks of an
edition that are removed are the same ones in both, but for a mark right behind a low line.  This
decides when the two texts have the same words.
-/

namespace Mintarr.Policy.Titles

open Lib

/-! ## Silent characters -/

/-- A character that leaves no letter or digit of ASCII. -/
def isSilent (c : Char) : Bool := (lowerChar c).all fun d => !Text.isLowerAlnum d

theorem titleWords_append_eq_iff {before rest : List Char} :
    titleWords (before ++ rest) = titleWords rest ↔ ∀ c ∈ before, isSilent c = true := by
  rw [titleWords, titleWords, lower, List.flatMap_append, ← lower, ← lower, words_append_eq_iff]
  simp only [lower, List.mem_flatMap, isSilent, List.all_eq_true, Bool.not_eq_true']
  constructor
  · intro silent c member d letter
    exact silent d ⟨c, member, letter⟩
  · intro silent d member
    obtain ⟨c, member, letter⟩ := member
    exact silent c member d letter

/-- A separator is in lower case already. -/
theorem lowerChar_of_foldCase {c : Char} (folded : Text.foldCase c = c) : lowerChar c = [c] := by
  have first : c ≠ '\u0130' := by
    intro same
    rw [same] at folded
    contradiction
  have fourth : c ≠ '\u212a' := by
    intro same
    rw [same] at folded
    contradiction
  have second : c ≠ '\u0131' := by
    intro same
    rw [same] at folded
    contradiction
  have third : c ≠ '\u017f' := by
    intro same
    rw [same] at folded
    contradiction
  rw [lowerChar, if_neg first, if_neg fourth]
  simp only [Text.foldCase, first, second, third, fourth, or_self, if_false] at folded
  rw [folded]

theorem isLowerAlnum_of_isSeparator {c : Char} (separator : isSeparator c = true) :
    Text.isLowerAlnum c = false := by
  apply eq_false_of_ne_true
  intro letter
  rw [Text.isLowerAlnum, Bool.or_eq_true] at letter
  cases letter with
  | inl lower =>
      exact foldCase_ne_letter (.inr separator) lower (foldCase_of_isSeparator separator)
  | inr digit =>
      have decimal := Text.isDecimal_of_isDigit digit
      rw [isDecimal_of_isSeparator separator] at decimal
      contradiction

theorem isSilent_of_isSeparator {c : Char} (separator : isSeparator c = true) :
    isSilent c = true := by
  rw [isSilent, lowerChar_of_foldCase (foldCase_of_isSeparator separator)]
  simp [isLowerAlnum_of_isSeparator separator]

/-- An `r` in any case is heard. -/
theorem isSilent_of_foldCase {c : Char} (letter : Text.foldCase c = 'r') : isSilent c = false := by
  have lowered : lowerChar c = ['r'] := by
    rw [Text.foldCase] at letter
    split_ifs at letter with first second third
    · exact absurd letter (by decide)
    · exact absurd letter (by decide)
    · exact absurd letter (by decide)
    · rw [lowerChar, if_neg (fun same => first (.inl same)), if_neg third, letter]
  rw [isSilent, lowered]
  decide

/-! ## Boundaries -/

section Boundaries

variable {beyond : Char → Bool}

/-- Of the separators the low line alone belongs to a word. -/
theorem isTitleWord_of_isSeparator {c : Char} (separator : isSeparator c = true)
    (other : c ≠ '_') : isTitleWord beyond c = false := by
  rw [isTitleWord, Text.isWord]
  cases space : Text.isSpace c with
  | true => simp [other]
  | false =>
      have sign : c = '.' ∨ c = '-' := by
        simpa [isSeparator, space, other] using separator
      have beyond_ : isTitleAlnum beyond c = false := by
        rw [isTitleAlnum, isDecimal_of_isSeparator separator, foldCase_of_isSeparator separator,
          isLowerAlnum_of_isSeparator separator]
        cases sign with
        | inl dot => rw [dot]; rfl
        | inr dash => rw [dash]; rfl
      simp [beyond_, other]

theorem isTitleWord_of_isDecimal {c : Char} (decimal : Text.isDecimal c = true) :
    isTitleWord beyond c = true := by
  simp [isTitleWord, Text.isWord, isTitleAlnum, decimal, isSpace_of_isDecimal decimal]

theorem isTitleWord_of_foldCase {c : Char} (letter : (Text.foldCase c).isLower = true) :
    isTitleWord beyond c = true := by
  have alnum : Text.isLowerAlnum (Text.foldCase c) = true := by
    simp [Text.isLowerAlnum, letter]
  have noSpace : Text.isSpace c = false := by
    apply eq_false_of_ne_true
    intro space
    rw [Text.foldCase_of_isSpace space] at alnum
    rw [Text.isSpace_of_isLowerAlnum alnum] at space
    contradiction
  simp [isTitleWord, Text.isWord, isTitleAlnum, alnum, noSpace]

/-- Within a word no mark begins. -/
theorem quiet_of_word {before : Option Char} {run after : List Char}
    (inside : before.any (isTitleWord beyond) = true)
    (word : ∀ c ∈ run, isTitleWord beyond c = true) :
    Quiet (findRemaster beyond) after before run := by
  induction run generalizing before with
  | nil => trivial
  | cons c run ih =>
      rw [List.forall_mem_cons] at word
      constructor
      · rw [findRemaster, inside, List.head?_cons, Option.any_some, word.1]
        rfl
      · exact ih (by simpa using word.1) word.2

/-- Where no mark begins nothing is found. -/
theorem quiet_of_markless {before : Option Char} {text after : List Char}
    (markless : Markless beyond text) : Quiet (findRemaster beyond) after before text := by
  induction text generalizing before with
  | nil => trivial
  | cons c text ih =>
      constructor
      · have here := markless (c :: text) after (List.suffix_refl _) (List.cons_ne_nil _ _)
        rw [List.cons_append] at here
        rw [findRemaster, here]
        split <;> rfl
      · apply ih
        intro part after suffix nonempty
        exact markless part after (suffix.trans (List.suffix_cons c text)) nonempty

/-- Behind what belongs to no word the pattern is found as at the start. -/
theorem findRemaster_congr {before : Option Char}
    (outside : before.any (isTitleWord beyond) = false)
    (text : List Char) : findRemaster beyond before text = findRemaster beyond none text := by
  rw [findRemaster, findRemaster, outside]
  rfl

/-- The words that mark a new master. -/
def remasterWords : List (List Char) := ["remastered".toList, "remaster".toList]

theorem dropRemaster_eq_some {text behind : List Char}
    (dropped : dropRemaster beyond text = some behind) :
    ∃ run, text = run ++ behind ∧ run.map Text.foldCase ∈ remasterWords ∧
      behind.head?.any (isTitleWord beyond) = false := by
  rw [dropRemaster] at dropped
  obtain ⟨word, listed, found⟩ := List.exists_of_findSome?_eq_some dropped
  rw [Option.filter_eq_some_iff] at found
  obtain ⟨run, shape, spelled⟩ := dropLiteral_eq_some found.1
  refine ⟨run, shape, ?_, by simpa using found.2⟩
  rw [spelled]
  simp only [List.mem_cons, List.not_mem_nil, or_false] at listed
  cases listed with
  | inl long => rw [long]; exact List.mem_cons_self
  | inr short => rw [short]; exact List.mem_cons_of_mem _ List.mem_cons_self

/-- Such a word begins with an `r` and has lower-case letters, in some case. -/
theorem remasterWord_letters {run : List Char} (marks : run.map Text.foldCase ∈ remasterWords) :
    (∃ c rest, run = c :: rest ∧ Text.foldCase c = 'r') ∧
      ∀ c ∈ run, (Text.foldCase c).isLower = true := by
  have known : (remasterWords.all fun word =>
      word.head? = some 'r' && word.all Char.isLower) = true := by decide
  have here := List.all_eq_true.mp known _ marks
  rw [Bool.and_eq_true, decide_eq_true_eq] at here
  constructor
  · cases run with
    | nil => have begins := here.1; contradiction
    | cons c rest =>
        refine ⟨c, rest, rfl, ?_⟩
        have begins := here.1
        simpa using begins
  · intro c listed
    exact List.all_eq_true.mp here.2 _ (List.mem_map_of_mem listed)

/-- What a year looks like. -/
theorem dropYear_eq_some {text rest : List Char} (dropped : dropYear text = some rest) :
    ∃ year blanks, text = year ++ (blanks ++ rest) ∧ year.length = 4 ∧
      (∀ c ∈ year, Text.isDecimal c = true) ∧ blanks ≠ [] ∧
      ∀ c ∈ blanks, Text.isSpace c = true := by
  rw [dropYear] at dropped
  split at dropped
  · next passed =>
    rw [Bool.and_eq_true, Bool.and_eq_true, decide_eq_true_eq, List.all_eq_true] at passed
    obtain ⟨⟨length, decimal⟩, spaced⟩ := passed
    cases dropped
    refine ⟨text.take 4, (text.drop 4).takeWhile Text.isSpace, ?_, length, decimal, ?_, ?_⟩
    · rw [List.takeWhile_append_dropWhile, List.take_append_drop]
    · cases behind : text.drop 4 with
      | nil => rw [behind] at spaced; contradiction
      | cons c others =>
          rw [behind] at spaced
          rw [List.takeWhile_cons_of_pos (by simpa using spaced)]
          exact List.cons_ne_nil _ _
    · intro c listed
      exact List.all_eq_true.mp List.all_takeWhile c listed
  · contradiction

theorem removeFrom_of_clear {before other : Option Char} {text : List Char}
    (clear : dropMark beyond text = none) :
    removeFrom (findRemaster beyond) 0 before text =
      removeFrom (findRemaster beyond) 0 other text := by
  apply removeFrom_congr
  rw [findRemaster, findRemaster, clear]
  split <;> split <;> rfl

/-- A mark at the start of a text or behind what belongs to no word is removed. -/
theorem removeFrom_mark {before : Option Char} {mark behind : List Char}
    (outside : before.any (isTitleWord beyond) = false)
    (begins : (mark.head?.any (isTitleWord beyond)) = true)
    (found : dropMark beyond (mark ++ behind) = some behind) :
    removeFrom (findRemaster beyond) 0 before (mark ++ behind) =
      removeFrom (findRemaster beyond) 0 (lastOf none mark) behind := by
  cases mark with
  | nil => contradiction
  | cons c mark =>
      have matched : findRemaster beyond before (c :: mark ++ behind) = some behind := by
        rw [findRemaster, outside, List.cons_append, List.head?_cons, Option.any_some]
        rw [List.head?_cons, Option.any_some] at begins
        rw [begins]
        exact found
      rw [removeFrom_match (List.cons_ne_nil _ _) matched, lastOf_cons, lastOf_cons]

theorem dropMark_of_remaster {run behind : List Char}
    (letters : ∃ c rest, run = c :: rest ∧ Text.foldCase c = 'r')
    (found : dropRemaster beyond (run ++ behind) = some behind) :
    dropMark beyond (run ++ behind) = some behind := by
  obtain ⟨c, rest, rfl, folded⟩ := letters
  have other : Text.isDecimal c = false := by
    apply eq_false_of_ne_true
    intro decimal
    exact foldCase_ne_letter (.inl decimal) (by decide) folded
  have noYear : dropYear (c :: rest ++ behind) = none :=
    @dropYear_eq_none [] _ c (by decide) other
  rw [dropMark, noYear, found]
  rfl

/-- Behind a low line a mark without a year is kept. -/
theorem removeFrom_low_line_word {run behind : List Char}
    (found : dropRemaster beyond (run ++ behind) = some behind)
    (marks : run.map Text.foldCase ∈ remasterWords) :
    removeFrom (findRemaster beyond) 0 (some '_') (run ++ behind) =
      run ++ removeAll (findRemaster beyond) (run ++ behind) := by
  obtain ⟨letters, lower⟩ := remasterWord_letters marks
  have word : ∀ c ∈ run, isTitleWord beyond c = true :=
    fun c listed => isTitleWord_of_foldCase (lower c listed)
  have inside : (some '_').any (isTitleWord beyond) = true := rfl
  have dropped := dropMark_of_remaster letters found
  obtain ⟨c, rest, rfl, folded⟩ := letters
  have begins : ((c :: rest).head?.any (isTitleWord beyond)) = true := by
    simpa using word c List.mem_cons_self
  rw [removeFrom_append (quiet_of_word inside word), removeAll, removeFrom_mark rfl begins dropped,
    lastOf_cons, lastOf_cons]

/-- Behind a low line the year of a mark is kept. -/
theorem removeFrom_low_line_year {year blanks rest behind : List Char} (length : year.length = 4)
    (decimal : ∀ c ∈ year, Text.isDecimal c = true) (nonempty : blanks ≠ [])
    (spaces : ∀ c ∈ blanks, Text.isSpace c = true)
    (found : dropRemaster beyond rest = some behind)
    (whole : dropMark beyond (year ++ (blanks ++ rest)) = some behind) :
    removeFrom (findRemaster beyond) 0 (some '_') (year ++ (blanks ++ rest)) =
      year ++ (blanks ++ removeAll (findRemaster beyond) (year ++ (blanks ++ rest))) := by
  obtain ⟨run, rfl, marks, _⟩ := dropRemaster_eq_some found
  obtain ⟨letters, lower⟩ := remasterWord_letters marks
  have dropped := dropMark_of_remaster letters found
  have runNonempty : run ≠ [] := by
    obtain ⟨c, rest, rfl, _⟩ := letters
    exact List.cons_ne_nil _ _
  have word : ∀ c ∈ year, isTitleWord beyond c = true :=
    fun c listed => isTitleWord_of_isDecimal (decimal c listed)
  have markless : Markless beyond blanks := by
    have plain := markless_separators (fun c listed => isSeparator_of_isSpace (spaces c listed))
      (@markless_nil beyond)
    rw [List.append_nil] at plain
    exact plain
  have outside : (lastOf (lastOf (some '_') year) blanks).any (isTitleWord beyond) = false := by
    rw [← List.nil_append blanks, lastOf_append _ nonempty, lastOf,
      List.getLast?_eq_some_getLast nonempty]
    exact Text.isWord_of_isSpace _ (spaces _ (List.getLast_mem nonempty))
  have runBegins : (run.head?.any (isTitleWord beyond)) = true := by
    obtain ⟨c, rest, rfl, _⟩ := letters
    simpa using isTitleWord_of_foldCase (lower c List.mem_cons_self)
  have kept : removeFrom (findRemaster beyond) 0 (some '_') (year ++ (blanks ++ (run ++ behind))) =
      year ++ (blanks ++ removeFrom (findRemaster beyond) 0 (lastOf none run) behind) := by
    rw [removeFrom_append (quiet_of_word rfl word), removeFrom_append (quiet_of_markless markless),
      removeFrom_mark outside runBegins dropped]
  have all_ : removeAll (findRemaster beyond) (year ++ (blanks ++ (run ++ behind))) =
      removeFrom (findRemaster beyond) 0 (lastOf none run) behind := by
    have shape : year ++ (blanks ++ (run ++ behind)) = (year ++ (blanks ++ run)) ++ behind := by
      simp
    have begins : ((year ++ (blanks ++ run)).head?.any (isTitleWord beyond)) = true := by
      cases year with
      | nil => contradiction
      | cons c year => simpa using word c List.mem_cons_self
    rw [shape] at whole ⊢
    rw [removeAll, removeFrom_mark rfl begins whole, ← List.append_assoc,
      lastOf_append _ runNonempty]
  rw [kept, all_]

/-- What is kept behind a low line is silent where the first word of the mark is. -/
theorem removeFrom_low_line (text : List Char) :
    ∃ kept, removeFrom (findRemaster beyond) 0 (some '_') text =
        kept ++ removeAll (findRemaster beyond) text ∧
      ((∀ c ∈ kept, isSilent c = true) ↔ ((dropMark beyond text).isSome = true →
        ∀ c ∈ text.takeWhile (fun c => !Text.isSpace c), isSilent c = true)) := by
  cases found : dropMark beyond text with
  | none => exact ⟨[], removeFrom_of_clear found, by simp⟩
  | some behind =>
      have whole := found
      rw [dropMark, Option.or_eq_some_iff] at found
      cases found with
      | inl withYear =>
          obtain ⟨rest, year, remaster⟩ := Option.bind_eq_some_iff.mp withYear
          obtain ⟨digits, blanks, rfl, length, decimal, nonempty, spaces⟩ := dropYear_eq_some year
          refine ⟨digits ++ blanks, ?_, ?_⟩
          · rw [List.append_assoc]
            exact removeFrom_low_line_year length decimal nonempty spaces remaster whole
          · have word : (digits ++ (blanks ++ rest)).takeWhile (fun c => !Text.isSpace c) =
                digits := by
              have noSpace : ∀ c ∈ digits, (!Text.isSpace c) = true := by
                intro c listed
                rw [isSpace_of_isDecimal (decimal c listed)]
                rfl
              rw [List.takeWhile_append_of_pos noSpace]
              cases blanks with
              | nil => exact absurd rfl nonempty
              | cons c blanks =>
                  have space := spaces c List.mem_cons_self
                  rw [List.cons_append, List.takeWhile_cons_of_neg (by simp [space]),
                    List.append_nil]
            rw [word]
            constructor
            · intro silent _ c listed
              exact silent c (List.mem_append_left blanks listed)
            · intro silent c listed
              cases List.mem_append.mp listed with
              | inl digit => exact silent rfl c digit
              | inr blank => exact isSilent_of_isSeparator (isSeparator_of_isSpace (spaces c blank))
      | inr plain =>
          obtain ⟨run, rfl, marks, _⟩ := dropRemaster_eq_some plain.2
          refine ⟨run, removeFrom_low_line_word plain.2 marks, ?_⟩
          obtain ⟨letters, _⟩ := remasterWord_letters marks
          obtain ⟨c, rest, rfl, folded⟩ := letters
          have loud := isSilent_of_foldCase folded
          have noSpace : Text.isSpace c = false := by
            apply eq_false_of_ne_true
            intro space
            exact foldCase_ne_letter (.inr (isSeparator_of_isSpace space)) (by decide) folded
          constructor
          · intro silent
            exact absurd (silent c List.mem_cons_self) (ne_true_of_eq_false loud)
          · intro silent
            have first : c ∈ (c :: rest ++ behind).takeWhile (fun c => !Text.isSpace c) := by
              rw [List.cons_append, List.takeWhile_cons_of_pos (by simp [noSpace])]
              exact List.mem_cons_self
            exact absurd (silent rfl c first) (ne_true_of_eq_false loud)

end Boundaries

/-! ## What a difference at the beginning means for the words -/

/-- A dash does not begin in one text and end in another that begins with no separator. -/
theorem behindDash_append {extra rest : List Char}
    (apart : (rest.head?.all fun c => !isSeparator c) = true) :
    behindDash (extra ++ rest) =
      (behindDash rest).or ((behindDash extra).map fun part => part ++ rest) := by
  have here : ∀ c, ∀ text : List Char, " - ".toList.isPrefixOf (c :: (text ++ rest)) =
      " - ".toList.isPrefixOf (c :: text) := by
    have sign : " - ".toList = [' ', '-', ' '] := rfl
    have begins : ∀ d others, rest = d :: others → d ≠ ' ' ∧ d ≠ '-' := by
      intro d others shape
      rw [shape, List.head?_cons, Option.all_some] at apart
      constructor <;> (intro same; rw [same] at apart; revert apart; decide)
    intro c text
    rw [sign]
    cases text with
    | nil =>
        cases shape : rest with
        | nil => rfl
        | cons d others =>
            have other : ('-' == d) = false := by
              simpa using fun same => (begins d others shape).2 same.symm
            simp [List.isPrefixOf, other]
    | cons e text =>
        cases text with
        | nil =>
            cases shape : rest with
            | nil => rfl
            | cons d others =>
                have other : (' ' == d) = false := by
                  simpa using fun same => (begins d others shape).1 same.symm
                simp [List.isPrefixOf, other]
        | cons f text => rfl
  induction extra with
  | nil => simp [behindDash]
  | cons c extra ih =>
      rw [List.cons_append, behindDash, behindDash, ih, here]
      cases behindDash rest with
      | some part => rfl
      | none =>
          cases behindDash extra with
          | some part => rfl
          | none =>
              cases dashed : " - ".toList.isPrefixOf (c :: extra) with
              | false => simp
              | true =>
                  have long := (List.isPrefixOf_iff_prefix.mp dashed).length_le
                  have enough : 3 ≤ (c :: extra).length := long
                  have cut : (c :: extra ++ rest).drop 3 = (c :: extra).drop 3 ++ rest :=
                    List.drop_append_of_le_length enough
                  rw [List.cons_append] at cut
                  simp [cut]

section Harmless

variable (beyond : Char → Bool)

/-- The title without the marks of an edition. -/
def unmarked (text : List Char) : List Char :=
  removeAll (findRemaster beyond) (removeAll findBracketed text)

/-- What stands ahead of a text makes no difference: a dash follows, or it has no letter and no
digit, and no low line before a mark that is heard. -/
def Harmless (extra rest : List Char) : Prop :=
  (behindDash rest).isSome = true ∨
    (∀ c ∈ lastPart extra, isSilent c = true) ∧
      ((lastPart extra).getLast? = some '_' →
        (dropMark beyond (removeAll findBracketed rest)).isSome = true →
        ∀ c ∈ (removeAll findBracketed rest).takeWhile (fun c => !Text.isSpace c),
          isSilent c = true)

variable {beyond}

/-- The last part of a text is its end. -/
theorem lastPart_suffix (text : List Char) : lastPart text <:+ text := by
  have dashed : ∀ text part, behindDash text = some part → part <:+ text := by
    intro text
    induction text with
    | nil =>
        intro part found
        contradiction
    | cons c text ih =>
        intro part found
        rw [behindDash, Option.or_eq_some_iff] at found
        cases found with
        | inl later => exact (ih part later).trans (List.suffix_cons c text)
        | inr here =>
            have found := here.2
            split at found
            · rw [← Option.some.inj found]
              exact List.drop_suffix _ _
            · contradiction
  rw [lastPart]
  cases found : behindDash text with
  | none => exact List.suffix_refl _
  | some part => exact dashed text part found

theorem Ahead.suffix {extra part rest : List Char} (ahead : Ahead beyond extra rest)
    (suffix : part <:+ extra) : Ahead beyond part rest where
  ends := by
    intro c last
    obtain ⟨before, rfl⟩ := suffix
    have nonempty : part ≠ [] := by
      intro empty
      rw [empty] at last
      contradiction
    exact ahead.ends c (by rw [List.getLast?_append_of_ne_nil _ nonempty, last])
  apart := by
    intro nonempty
    apply ahead.apart
    intro empty
    rw [empty] at suffix
    exact nonempty (List.eq_nil_of_suffix_nil suffix)
  plain := fun piece after inner => ahead.plain piece after (inner.trans suffix)
  unopened := fun c listed => ahead.unopened c (suffix.subset listed)

/-- Something ahead of a text without a dash stays there, with what is kept behind a low line. -/
theorem unmarked_ahead {extra rest : List Char} (ahead : Ahead beyond extra rest) :
    unmarked beyond (extra ++ rest) = extra ++ removeFrom (findRemaster beyond) 0
      (lastOf none extra) (removeAll findBracketed rest) := by
  have unopened : Quiet findBracketed rest none extra := by
    apply quiet_of_forall
    intro before c listed others
    have plain := ahead.unopened c listed
    simp [findBracketed, plain.1, plain.2]
  have brackets : removeAll findBracketed (extra ++ rest) =
      extra ++ removeAll findBracketed rest := by
    rw [removeAll, removeFrom_append unopened, removeAll]
    congr 1
    exact removeFrom_congr rfl
  rw [unmarked, brackets, removeAll, removeFrom_append (quiet_of_markless ahead.plain)]

/-- The words are the same exactly where what stands ahead is harmless. -/
theorem titleWords_ahead {extra rest : List Char} (ahead : Ahead beyond extra rest) :
    titleWords (unmarked beyond (lastPart (extra ++ rest))) =
        titleWords (unmarked beyond (lastPart rest)) ↔ Harmless beyond extra rest := by
  have dash : behindDash (extra ++ rest) =
      (behindDash rest).or ((behindDash extra).map fun part => part ++ rest) := by
    cases extra with
    | nil => simp [behindDash]
    | cons c extra => exact behindDash_append (ahead.apart (List.cons_ne_nil c extra))
  cases found : behindDash rest with
  | some part =>
      rw [lastPart, lastPart, dash, found]
      simp [Harmless, found]
  | none =>
      have whole : lastPart (extra ++ rest) = lastPart extra ++ rest := by
        rw [lastPart, lastPart, dash, found]
        cases behindDash extra <;> rfl
      have short : lastPart rest = rest := by rw [lastPart, found]; rfl
      have part := ahead.suffix (lastPart_suffix extra)
      rw [whole, short, unmarked_ahead part, unmarked, Harmless, found]
      generalize lastPart extra = extra at part
      generalize removeAll findBracketed rest = text
      by_cases line : extra.getLast? = some '_'
      · obtain ⟨kept, stays, silent⟩ := @removeFrom_low_line beyond text
        have last : lastOf none extra = some '_' := by rw [lastOf, line]; rfl
        rw [last, stays, ← List.append_assoc, titleWords_append_eq_iff, List.forall_mem_append,
          silent]
        simp [line]
      · have outside : (lastOf none extra).any (isTitleWord beyond) = false := by
          rw [lastOf]
          cases last : extra.getLast? with
          | none => rfl
          | some c =>
              have other : c ≠ '_' := by
                intro same
                exact line (same ▸ last)
              exact isTitleWord_of_isSeparator (part.ends c last) other
        have stays : removeFrom (findRemaster beyond) 0 (lastOf none extra) text =
            removeAll (findRemaster beyond) text :=
          removeFrom_congr (findRemaster_congr outside text)
        rw [stays, titleWords_append_eq_iff]
        simp [line]

end Harmless

end Mintarr.Policy.Titles
