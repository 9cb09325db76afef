import Mathlib.Data.List.Basic
import Mintarr.Lib.Regex

/-!
# Words

The words of a text are its longest runs of letters, for any notion of a letter.  A text that
keeps its words apart by one blank each is read back into its words.
-/

namespace Mintarr.Lib

universe u

/-- A word that has ended, if there is one. -/
def ended {α : Type u} (word : List α) : List (List α) := if word.isEmpty then [] else [word]

/-- The words of a text that continues a word. -/
def wordsFrom {α : Type u} (letter : α → Bool) : List α → List α → List (List α)
  | word, [] => ended word
  | word, c :: rest =>
      if letter c then wordsFrom letter (word ++ [c]) rest
      else ended word ++ wordsFrom letter [] rest

/-- The words of a text. -/
def words {α : Type u} (letter : α → Bool) (text : List α) : List (List α) :=
  wordsFrom letter [] text

section Words

variable {α : Type u} {letter : α → Bool}

@[simp] theorem words_nil : words letter [] = [] := rfl

/-- What is no letter ends a word. -/
theorem wordsFrom_append_cons {c : α} (blank : letter c = false) (word text rest : List α) :
    wordsFrom letter word (text ++ c :: rest) =
      wordsFrom letter word text ++ words letter rest := by
  induction text generalizing word with
  | nil => simp [wordsFrom, blank, words]
  | cons d text ih =>
      rw [List.cons_append, wordsFrom, wordsFrom]
      split
      · exact ih _
      · rw [ih, List.append_assoc]

theorem words_append_cons {c : α} (blank : letter c = false) (text rest : List α) :
    words letter (text ++ c :: rest) = words letter text ++ words letter rest :=
  wordsFrom_append_cons blank [] text rest

theorem words_cons {c : α} (blank : letter c = false) (rest : List α) :
    words letter (c :: rest) = words letter rest :=
  words_append_cons blank [] rest

/-- A text without letters has no words. -/
theorem words_append_of_blank {before : List α} (blank : ∀ c ∈ before, letter c = false)
    (rest : List α) : words letter (before ++ rest) = words letter rest := by
  induction before with
  | nil => rfl
  | cons c before ih =>
      rw [List.forall_mem_cons] at blank
      rw [List.cons_append, words_cons blank.1, ih blank.2]

/-- Letters continue a word. -/
theorem wordsFrom_of_letters {run : List α} (letters : ∀ c ∈ run, letter c = true)
    (word : List α) : wordsFrom letter word run = ended (word ++ run) := by
  induction run generalizing word with
  | nil => rw [wordsFrom, List.append_nil]
  | cons c run ih =>
      rw [List.forall_mem_cons] at letters
      rw [wordsFrom, if_pos letters.1, ih letters.2, List.append_assoc, List.singleton_append]

theorem words_of_letters {run : List α} (letters : ∀ c ∈ run, letter c = true) :
    words letter run = ended run :=
  wordsFrom_of_letters letters []

theorem ended_of_ne_nil {word : List α} (nonempty : word ≠ []) : ended word = [word] := by
  rw [ended, if_neg]
  simpa using nonempty

theorem flatten_ended (word : List α) : (ended word).flatten = word := by
  rw [ended]
  split
  · next empty => simpa using empty.symm
  · exact List.append_nil word

/-- The words are the letters of the text. -/
theorem flatten_wordsFrom (word text : List α) :
    (wordsFrom letter word text).flatten = word ++ text.filter letter := by
  induction text generalizing word with
  | nil => rw [wordsFrom, flatten_ended, List.filter_nil, List.append_nil]
  | cons c text ih =>
      rw [wordsFrom]
      split
      · next isLetter => rw [ih, List.filter_cons_of_pos isLetter, List.append_assoc]; rfl
      · next blank =>
          rw [List.flatten_append, ih, flatten_ended, List.filter_cons_of_neg blank]
          rfl

theorem flatten_words (text : List α) : (words letter text).flatten = text.filter letter :=
  flatten_wordsFrom [] text

/-- What is put before a text leaves its words as they are where it has no letter. -/
theorem words_append_eq_iff {before rest : List α} :
    words letter (before ++ rest) = words letter rest ↔ ∀ c ∈ before, letter c = false := by
  constructor
  · intro same c member
    have letters := congrArg List.flatten same
    rw [flatten_words, flatten_words, List.filter_append] at letters
    have nothing := List.append_left_eq_self.mp letters
    exact eq_false_of_ne_true (List.filter_eq_nil_iff.mp nothing c member)
  · intro blank
    exact words_append_of_blank blank rest

/-- Words are not empty and have only letters. -/
theorem mem_wordsFrom {word text found : List α} (letters : ∀ c ∈ word, letter c = true)
    (listed : found ∈ wordsFrom letter word text) :
    found ≠ [] ∧ ∀ c ∈ found, letter c = true := by
  have whole : ∀ last : List α, (∀ c ∈ last, letter c = true) → found ∈ ended last →
      found ≠ [] ∧ ∀ c ∈ found, letter c = true := by
    intro last letters listed
    rw [ended] at listed
    split at listed
    · cases listed
    · next nonempty =>
        rw [List.mem_singleton] at listed
        rw [listed]
        exact ⟨by simpa using nonempty, letters⟩
  induction text generalizing word with
  | nil => exact whole word letters listed
  | cons c text ih =>
      rw [wordsFrom] at listed
      split at listed
      · next isLetter =>
          apply ih _ listed
          intro d member
          cases List.mem_append.mp member with
          | inl earlier => exact letters d earlier
          | inr last => rw [List.mem_singleton.mp last, isLetter]
      · cases List.mem_append.mp listed with
        | inl last => exact whole word letters last
        | inr later => exact ih (by simp) later

theorem mem_words {text found : List α} (listed : found ∈ words letter text) :
    found ≠ [] ∧ ∀ c ∈ found, letter c = true :=
  mem_wordsFrom (by simp) listed

/-- The words depend on which characters of the text are letters. -/
theorem wordsFrom_congr {other : α → Bool} {text : List α}
    (same : ∀ c ∈ text, letter c = other c) (word : List α) :
    wordsFrom letter word text = wordsFrom other word text := by
  induction text generalizing word with
  | nil => rfl
  | cons c text ih =>
      rw [List.forall_mem_cons] at same
      rw [wordsFrom, wordsFrom, same.1, ih same.2, ih same.2]

theorem words_congr {other : α → Bool} {text : List α}
    (same : ∀ c ∈ text, letter c = other c) : words letter text = words other text :=
  wordsFrom_congr same []

/-- What continues two texts alike leaves them alike. -/
theorem wordsFrom_append_congr {rest other : List α}
    (same : ∀ word, wordsFrom letter word rest = wordsFrom letter word other) (text : List α)
    (word : List α) :
    wordsFrom letter word (text ++ rest) = wordsFrom letter word (text ++ other) := by
  induction text generalizing word with
  | nil => exact same word
  | cons c text ih =>
      rw [List.cons_append, List.cons_append, wordsFrom, wordsFrom, ih, ih]

/-- Words kept apart by a blank are read back. -/
theorem words_intercalate {blank : α} (isBlank : letter blank = false) {texts : List (List α)}
    (proper : ∀ text ∈ texts, text ≠ [] ∧ ∀ c ∈ text, letter c = true) :
    words letter ([blank].intercalate texts) = texts := by
  induction texts with
  | nil => rfl
  | cons text texts ih =>
      rw [List.forall_mem_cons] at proper
      have first : words letter text = [text] := by
        rw [words_of_letters proper.1.2, ended_of_ne_nil proper.1.1]
      cases texts with
      | nil => rw [List.intercalate_singleton, first]
      | cons other texts =>
          rw [List.intercalate_cons_cons, List.append_assoc, List.singleton_append,
            words_append_cons isBlank, first, ih proper.2]
          rfl

/-! ## One blank for each gap -/

/-- A blank for each run of characters that are no letters. -/
def collapse (letter : α → Bool) (blank : α) (text : List α) : List α :=
  Regex.sub [[.run (fun c => !letter c) 1 none false]] (fun _ => [blank]) text

theorem collapse_cons_of_letter {c blank : α} (isLetter : letter c = true) (rest : List α) :
    collapse letter blank (c :: rest) = c :: collapse letter blank rest :=
  Regex.sub_run_of_rejects (by simpa using isLetter) rest

theorem collapse_cons_of_blank {c blank : α} (notLetter : letter c = false) (rest : List α) :
    collapse letter blank (c :: rest) =
      blank :: collapse letter blank (rest.dropWhile fun c => !letter c) :=
  Regex.sub_run_of_accepts (by simpa using notLetter) rest

/-- The induction that a collapse follows. -/
theorem collapse_induction (letter : α → Bool) {property : List α → Prop} (empty : property [])
    (one : ∀ c rest, letter c = true → property rest → property (c :: rest))
    (gap : ∀ c rest, letter c = false → property (rest.dropWhile fun c => !letter c) →
      property (c :: rest)) (text : List α) : property text := by
  have bounded : ∀ bound, ∀ text : List α, text.length ≤ bound → property text := by
    intro bound
    induction bound with
    | zero =>
        intro text short
        rw [List.eq_nil_of_length_eq_zero (Nat.le_zero.mp short)]
        exact empty
    | succ bound ih =>
        intro text short
        cases text with
        | nil => exact empty
        | cons c rest =>
            have shorter := Nat.le_of_succ_le_succ short
            cases isLetter : letter c with
            | true => exact one c rest isLetter (ih rest shorter)
            | false =>
                apply gap c rest isLetter
                exact ih _ (Nat.le_trans (List.dropWhile_suffix _).length_le shorter)
  exact bounded text.length text (Nat.le_refl _)

/-- A collapse has only letters and blanks. -/
theorem mem_collapse {blank c : α} {text : List α} (member : c ∈ collapse letter blank text) :
    letter c = true ∨ c = blank := by
  induction text using collapse_induction letter with
  | empty => cases member
  | one d rest isLetter ih =>
      rw [collapse_cons_of_letter isLetter] at member
      cases List.mem_cons.mp member with
      | inl here => rw [here]; exact Or.inl isLetter
      | inr later => exact ih later
  | gap d rest notLetter ih =>
      rw [collapse_cons_of_blank notLetter] at member
      cases List.mem_cons.mp member with
      | inl here => exact Or.inr here
      | inr later => exact ih later

/-- What is no letter at the start of a text is in no word. -/
theorem words_dropWhile (rest : List α) :
    words letter (rest.dropWhile fun c => !letter c) = words letter rest := by
  induction rest with
  | nil => rfl
  | cons c rest ih =>
      cases isLetter : letter c with
      | true => simp [isLetter]
      | false => rw [List.dropWhile_cons_of_pos (by simp [isLetter]), ih, words_cons isLetter]

/-- A collapse has the words of the text. -/
theorem wordsFrom_collapse {blank : α} (isBlank : letter blank = false) (word text : List α) :
    wordsFrom letter word (collapse letter blank text) = wordsFrom letter word text := by
  induction text using collapse_induction letter generalizing word with
  | empty => rfl
  | one c rest isLetter ih =>
      rw [collapse_cons_of_letter isLetter, wordsFrom, wordsFrom, if_pos isLetter,
        if_pos isLetter, ih]
  | gap c rest notLetter ih =>
      have same : wordsFrom letter [] (collapse letter blank (rest.dropWhile fun c => !letter c)) =
          wordsFrom letter [] rest := (ih []).trans (words_dropWhile rest)
      rw [collapse_cons_of_blank notLetter, wordsFrom, wordsFrom, isBlank, notLetter, same]
      rfl

/-- A text without what is no letter at its end. -/
def trimEnd (letter : α → Bool) (text : List α) : List α :=
  (text.reverse.dropWhile fun c => !letter c).reverse

theorem trimEnd_append {text rest : List α} (some_ : trimEnd letter rest ≠ []) :
    trimEnd letter (text ++ rest) = text ++ trimEnd letter rest := by
  have left : (rest.reverse.dropWhile fun c => !letter c) ≠ [] := by
    intro empty
    exact some_ (by rw [trimEnd, empty, List.reverse_nil])
  rw [trimEnd, List.reverse_append, List.dropWhile_append, if_neg (by simpa using left),
    List.reverse_append, List.reverse_reverse, trimEnd]

theorem trimEnd_of_letters {run : List α} (letters : ∀ c ∈ run, letter c = true) :
    trimEnd letter run = run := by
  have kept : (run.reverse.dropWhile fun c => !letter c) = run.reverse := by
    cases shape : run.reverse with
    | nil => rfl
    | cons c rest =>
        have member : c ∈ run := List.mem_reverse.mp (shape ▸ List.mem_cons_self)
        rw [List.dropWhile_cons_of_neg]
        simp [letters c member]
  rw [trimEnd, kept, List.reverse_reverse]

theorem trimEnd_append_of_blank {text : List α} {blank : α} (isBlank : letter blank = false) :
    trimEnd letter (text ++ [blank]) = trimEnd letter text := by
  simp [trimEnd, isBlank]

/-- What is left of a text behind what is no letter begins with a letter. -/
theorem head_dropWhile (text : List α) :
    ((text.dropWhile fun c => !letter c).head?.all letter) = true := by
  have rejected := List.head?_dropWhile_not (fun c => !letter c) text
  cases shape : text.dropWhile fun c => !letter c with
  | nil => rfl
  | cons c rest =>
      rw [shape] at rejected
      simpa using rejected

/-- A collapse that continues a word is made of its words, with a blank between them. -/
theorem trimEnd_collapse {blank : α} (isBlank : letter blank = false) {word text : List α}
    (letters : ∀ c ∈ word, letter c = true)
    (begins : word ≠ [] ∨ (text.head?.all letter) = true) :
    trimEnd letter (word ++ collapse letter blank text) =
      [blank].intercalate (wordsFrom letter word text) := by
  induction text using collapse_induction letter generalizing word with
  | empty =>
      have nothing : collapse letter blank [] = [] := rfl
      rw [nothing, List.append_nil, trimEnd_of_letters letters, wordsFrom, ended]
      split
      · next empty => rw [List.isEmpty_iff.mp empty]; rfl
      · rw [List.intercalate_singleton]
  | one c rest isLetter ih =>
      rw [collapse_cons_of_letter isLetter, wordsFrom, if_pos isLetter, ← ih _ (Or.inl (by simp))]
      · rw [List.append_assoc, List.singleton_append]
      · intro d member
        cases List.mem_append.mp member with
        | inl earlier => exact letters d earlier
        | inr last => rw [List.mem_singleton.mp last, isLetter]
  | gap c rest notLetter ih =>
      have nonempty : word ≠ [] := by
        apply begins.resolve_right
        simp [notLetter]
      have none_before : ∀ c ∈ ([] : List α), letter c = true := by simp
      have first : ended word = [word] := ended_of_ne_nil nonempty
      rw [collapse_cons_of_blank notLetter, wordsFrom, notLetter, first]
      simp only [Bool.false_eq_true, if_false]
      rw [← words, ← words_dropWhile]
      cases shape : rest.dropWhile fun c => !letter c with
      | nil =>
          have nothing : collapse letter blank [] = [] := rfl
          rw [nothing, trimEnd_append_of_blank isBlank, trimEnd_of_letters letters, words_nil,
            List.append_nil, List.intercalate_singleton]
      | cons d more =>
          have isLetter : letter d = true := by
            have begins := @head_dropWhile α letter rest
            rw [shape] at begins
            simpa using begins
          have inner := ih none_before (Or.inr (by simp [shape, isLetter]))
          rw [shape, List.nil_append] at inner
          have there : words letter (d :: more) ≠ [] := by
            intro empty
            have letters := @flatten_words α letter (d :: more)
            rw [empty, List.filter_cons_of_pos isLetter] at letters
            contradiction
          have behind : trimEnd letter (blank :: collapse letter blank (d :: more)) =
              blank :: [blank].intercalate (words letter (d :: more)) := by
            have trimmed := @trimEnd_append α letter [blank] (collapse letter blank (d :: more))
            rw [inner] at trimmed
            apply trimmed
            intro empty
            have nothing : [blank].intercalate (words letter (d :: more)) = [] := empty
            have read := @words_intercalate α letter blank isBlank (words letter (d :: more))
              fun text listed => mem_words listed
            rw [nothing] at read
            exact there read.symm
          rw [trimEnd_append (by rw [behind]; exact List.cons_ne_nil _ _), behind]
          cases found : words letter (d :: more) with
          | nil => exact absurd found there
          | cons first others =>
              rw [List.singleton_append, List.intercalate_cons_cons]
              simp

theorem dropWhile_collapse {blank : α} (isBlank : letter blank = false) (text : List α) :
    (collapse letter blank text).dropWhile (fun c => !letter c) =
      collapse letter blank (text.dropWhile fun c => !letter c) := by
  have stays : ∀ rest : List α, (rest.head?.all letter) = true →
      (collapse letter blank rest).dropWhile (fun c => !letter c) = collapse letter blank rest := by
    intro rest begins
    cases rest with
    | nil => rfl
    | cons c rest =>
        have isLetter : letter c = true := by simpa using begins
        rw [collapse_cons_of_letter isLetter, List.dropWhile_cons_of_neg (by simp [isLetter])]
  cases text with
  | nil => rfl
  | cons c rest =>
      cases isLetter : letter c with
      | true =>
          rw [stays _ (by simp [isLetter]), List.dropWhile_cons_of_neg (by simp [isLetter])]
      | false =>
          rw [collapse_cons_of_blank isLetter, List.dropWhile_cons_of_pos (by simp [isBlank]),
            List.dropWhile_cons_of_pos (by simp [isLetter]), stays _ (head_dropWhile rest)]

/-- A collapse without the blanks at its ends is made of its words. -/
theorem trim_collapse {blank : α} (isBlank : letter blank = false) (text : List α) :
    trimEnd letter ((collapse letter blank text).dropWhile fun c => !letter c) =
      [blank].intercalate (words letter text) := by
  have none_before : ∀ c ∈ ([] : List α), letter c = true := by simp
  have whole := trimEnd_collapse isBlank none_before (Or.inr (head_dropWhile text))
  rw [List.nil_append, ← words, words_dropWhile] at whole
  rw [dropWhile_collapse isBlank, whole]

theorem words_collapse {blank : α} (isBlank : letter blank = false) (text : List α) :
    words letter (collapse letter blank text) = words letter text :=
  wordsFrom_collapse isBlank [] text

end Words

end Mintarr.Lib
