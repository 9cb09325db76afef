import Mathlib.Data.List.Basic
import Mintarr.Lib.Words

/-!
# Lower case

`str.lower` over the case properties of Unicode: every character has a mapping of its own,
which may be longer than one character, and only a capital sigma looks at its neighbours.  A
character that has no case and is not ignored in the search for one keeps what is before it
apart from what is behind it.
-/

namespace Mintarr.Lib

/-- The case properties of the characters. -/
structure CaseTable where
  /-- The full lower-case mapping of a character. -/
  lowerChar : Char → List Char
  /-- `Cased`. -/
  cased : Char → Bool
  /-- `Case_Ignorable`. -/
  ignorable : Char → Bool
  lowerChar_ne_nil : ∀ c, lowerChar c ≠ []

namespace CaseTable

variable (table : CaseTable)

/-- `Σ`. -/
def sigma : Char := '\u03a3'

/-- The nearest character that is not ignored has a case. -/
def nextCased (chars : List Char) : Bool := (chars.dropWhile table.ignorable).head?.any table.cased

/-- The lower case of a character behind `before`, which is read backwards, and before
`after`. -/
def lowerAt (before : List Char) (c : Char) (after : List Char) : List Char :=
  if c = sigma then
    [if table.nextCased before && !table.nextCased after then '\u03c2' else '\u03c3']
  else table.lowerChar c

/-- The lower case of a text behind `before`. -/
def lowerFrom (before : List Char) : List Char → List Char
  | [] => []
  | c :: after => table.lowerAt before c after ++ lowerFrom (c :: before) after

/-- `str.lower`. -/
def lower (text : List Char) : List Char := table.lowerFrom [] text

/-- The lower case of a character by itself. -/
def lowerOne (c : Char) : List Char := if c = sigma then ['\u03c3'] else table.lowerChar c

/-- A character that has no case and is passed over by no search for one, and that nothing
else becomes. -/
structure Separates (separator : Char) : Prop where
  ne_sigma : separator ≠ sigma
  ne_small : separator ≠ '\u03c2' ∧ separator ≠ '\u03c3'
  cased : table.cased separator = false
  ignorable : table.ignorable separator = false
  same : table.lowerChar separator = [separator]
  only : ∀ c, separator ∈ table.lowerChar c → c = separator

variable {table} {separator : Char} {text : List Char}

@[simp] theorem lower_nil : table.lower [] = [] := rfl

theorem lowerAt_ne_nil (before : List Char) (c : Char) (after : List Char) :
    table.lowerAt before c after ≠ [] := by
  unfold lowerAt
  split
  · simp
  · exact table.lowerChar_ne_nil c

/-- Only the empty text has an empty lower case. -/
@[simp] theorem lower_eq_nil : table.lower text = [] ↔ text = [] := by
  cases text with
  | nil => simp
  | cons c after =>
      have inhabited := table.lowerAt_ne_nil [] c after
      simp [lower, lowerFrom, inhabited]

/-- What is before and behind a character matters only for a sigma. -/
theorem words_lower {letter : Char → Bool} (final : letter '\u03c2' = false)
    (small : letter '\u03c3' = false) (text : List Char) :
    words letter (table.lower text) = words letter (text.flatMap table.lowerOne) := by
  have follows : ∀ before word, wordsFrom letter word (table.lowerFrom before text) =
      wordsFrom letter word (text.flatMap table.lowerOne) := by
    induction text with
    | nil => exact fun _ _ => rfl
    | cons c after ih =>
        intro before word
        rw [lowerFrom, List.flatMap_cons, lowerAt, lowerOne]
        split
        · have rest := ih (c :: before) []
          split
          · simp [wordsFrom, final, small, rest]
          · simp [wordsFrom, small, rest]
        · exact wordsFrom_append_congr (ih (c :: before)) _ word
  exact follows [] []

namespace Separates

variable (separates : table.Separates separator)

include separates

/-- A search for a character with a case ends at a separator. -/
theorem nextCased_append (front back : List Char) :
    table.nextCased (front ++ separator :: back) = table.nextCased front := by
  unfold nextCased
  induction front with
  | nil => simp [separates.ignorable, separates.cased]
  | cons c front ih =>
      cases ignored : table.ignorable c with
      | true => simpa [ignored] using ih
      | false => simp [ignored]

/-- What is before a separator does not matter behind it. -/
theorem lowerFrom_before (front back : List Char) :
    table.lowerFrom (front ++ separator :: back) text = table.lowerFrom front text := by
  induction text generalizing front with
  | nil => rfl
  | cons c after ih =>
      have here : table.lowerAt (front ++ separator :: back) c after =
          table.lowerAt front c after := by
        simp only [lowerAt, separates.nextCased_append]
      have later := ih (c :: front)
      rw [List.cons_append] at later
      rw [lowerFrom, lowerFrom, here, later]

/-- The parts of a text beside a separator are lowered apart. -/
theorem lowerFrom_append (before rest : List Char) :
    table.lowerFrom before (text ++ separator :: rest) =
      table.lowerFrom before text ++ separator :: table.lower rest := by
  induction text generalizing before with
  | nil =>
      have here : table.lowerAt before separator rest = [separator] := by
        rw [lowerAt, if_neg separates.ne_sigma, separates.same]
      have later : table.lowerFrom (separator :: before) rest = table.lowerFrom [] rest :=
        separates.lowerFrom_before [] before
      simp only [List.nil_append, lowerFrom, here, later, lower, List.cons_append]
  | cons c text ih =>
      have here : table.lowerAt before c (text ++ separator :: rest) =
          table.lowerAt before c text := by
        simp only [lowerAt, separates.nextCased_append]
      rw [List.cons_append, lowerFrom, here, ih, lowerFrom, List.append_assoc]

theorem lower_append (text rest : List Char) :
    table.lower (text ++ separator :: rest) =
      table.lower text ++ separator :: table.lower rest :=
  separates.lowerFrom_append [] rest

/-- Separators come from separators. -/
theorem notMem_lowerFrom (absent : separator ∉ text) (before : List Char) :
    separator ∉ table.lowerFrom before text := by
  induction text generalizing before with
  | nil => exact List.not_mem_nil
  | cons c after ih =>
      have different : c ≠ separator := by
        intro same
        apply absent
        rw [same]
        exact List.mem_cons_self
      have here : separator ∉ table.lowerAt before c after := by
        unfold lowerAt
        split
        · split
          · simpa using separates.ne_small.1
          · simpa using separates.ne_small.2
        · intro mapped
          exact different (separates.only c mapped)
      have later := ih (fun mem => absent (List.mem_cons_of_mem c mem)) (c :: before)
      rw [lowerFrom, List.mem_append, not_or]
      exact ⟨here, later⟩

theorem notMem_lower (absent : separator ∉ text) : separator ∉ table.lower text :=
  separates.notMem_lowerFrom absent []

/-- A separator in the lower case of a text is one of the text. -/
theorem exists_cut (length : Nat) : ∀ text : List Char, text.length ≤ length →
    ∀ front back, table.lower text = front ++ separator :: back →
      ∃ head rest, text = head ++ separator :: rest ∧ table.lower head = front := by
  induction length with
  | zero =>
      intro text short front back cut
      have empty : text = [] := List.length_eq_zero_iff.mp (Nat.le_zero.mp short)
      rw [empty, lower_nil] at cut
      simp at cut
  | succ length ih =>
      intro text short front back cut
      by_cases present : separator ∈ text
      · obtain ⟨segment, rest, whole, first⟩ := List.eq_append_cons_of_mem present
        have plain := separates.notMem_lower first
        rw [whole, separates.lower_append] at cut
        obtain ⟨more, fronts, backs⟩ | ⟨more, fronts, backs⟩ := List.append_eq_append_iff.mp cut
        · cases more with
          | nil => exact ⟨segment, rest, whole, by simpa using fronts.symm⟩
          | cons c more =>
              rw [List.cons_append, List.cons.injEq] at backs
              have shorter : rest.length ≤ length := by
                rw [whole] at short
                simp at short
                omega
              obtain ⟨head, below, within, lowered⟩ := ih rest shorter more back backs.2
              refine ⟨segment ++ separator :: head, below, ?_, ?_⟩
              · rw [whole, within, List.append_assoc, List.cons_append]
              · rw [separates.lower_append, lowered, fronts, backs.1]
        · cases more with
          | nil => exact ⟨segment, rest, whole, by simpa using fronts⟩
          | cons c more =>
              rw [List.cons_append, List.cons.injEq] at backs
              apply absurd _ plain
              rw [fronts, backs.1]
              exact List.mem_append_right _ List.mem_cons_self
      · have absent := separates.notMem_lower present
        rw [cut] at absent
        exact absurd (List.mem_append_right _ List.mem_cons_self) absent

theorem exists_of_lower_eq {front back : List Char}
    (cut : table.lower text = front ++ separator :: back) :
    ∃ head rest, text = head ++ separator :: rest ∧ table.lower head = front :=
  separates.exists_cut text.length text (Nat.le_refl _) front back cut

end Separates

end CaseTable

end Mintarr.Lib
