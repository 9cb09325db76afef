import Mathlib.Data.List.Basic

/-!
# Removing matches

The matches of a pattern are removed from a text, from left to right and none inside another.
What the pattern matches at a place may depend on the one character before it, as a word boundary
does.  Where no match begins, and behind a character that no match can follow, the text stays.
-/

namespace Mintarr.Lib

variable {α : Type}

/-- A pattern: what is behind a match at the start of a text, given the character before. -/
abbrev Finder (α : Type) := Option α → List α → Option (List α)

/-- The text without its matches; `skip` characters still belong to the match before. -/
def removeFrom (find : Finder α) : Nat → Option α → List α → List α
  | _, _, [] => []
  | skip + 1, _, c :: rest => removeFrom find skip (some c) rest
  | 0, before, c :: rest =>
      match find before (c :: rest) with
      | none => c :: removeFrom find 0 (some c) rest
      | some behind => removeFrom find (rest.length - behind.length) (some c) rest

/-- `re.sub(pattern, "", text)`. -/
def removeAll (find : Finder α) (text : List α) : List α := removeFrom find 0 none text

section Removal

variable {find : Finder α}

@[simp] theorem removeFrom_nil (skip : Nat) (before : Option α) :
    removeFrom find skip before [] = [] := by
  cases skip <;> rfl

theorem removeFrom_cons_of_none {before : Option α} {c : α} {rest : List α}
    (clear : find before (c :: rest) = none) :
    removeFrom find 0 before (c :: rest) = c :: removeFrom find 0 (some c) rest := by
  rw [removeFrom, clear]

/-- The last character of a text, or the one before it. -/
def lastOf (before : Option α) (text : List α) : Option α := text.getLast?.or before

@[simp] theorem lastOf_nil (before : Option α) : lastOf before [] = before := rfl

@[simp] theorem lastOf_cons (before : Option α) (c : α) (text : List α) :
    lastOf before (c :: text) = lastOf (some c) text := by
  cases text with
  | nil => rfl
  | cons d text =>
      rw [lastOf, lastOf, List.getLast?_cons_cons]
      rw [List.getLast?_eq_some_getLast (List.cons_ne_nil d text)]
      rfl

theorem lastOf_append (before : Option α) {first second : List α} (nonempty : second ≠ []) :
    lastOf before (first ++ second) = lastOf none second := by
  rw [lastOf, lastOf, List.getLast?_append_of_ne_nil _ nonempty,
    List.getLast?_eq_some_getLast nonempty]
  rfl

theorem removeFrom_skip (before : Option α) (skipped rest : List α) :
    removeFrom find skipped.length before (skipped ++ rest) =
      removeFrom find 0 (lastOf before skipped) rest := by
  induction skipped generalizing before with
  | nil => rfl
  | cons c skipped ih =>
      rw [List.cons_append, List.length_cons, removeFrom, ih, lastOf_cons]

/-- A match is removed. -/
theorem removeFrom_match {before : Option α} {text behind : List α} (nonempty : text ≠ [])
    (found : find before (text ++ behind) = some behind) :
    removeFrom find 0 before (text ++ behind) = removeFrom find 0 (lastOf before text) behind := by
  cases text with
  | nil => contradiction
  | cons c text =>
      have count : (text ++ behind).length - behind.length = text.length := by simp
      rw [List.cons_append] at found ⊢
      rw [removeFrom, found]
      simp only [count]
      rw [removeFrom_skip, lastOf_cons]

/-- No match begins in a text that is followed by another. -/
def Quiet (find : Finder α) (after : List α) : Option α → List α → Prop
  | _, [] => True
  | before, c :: rest =>
      find before (c :: (rest ++ after)) = none ∧ Quiet find after (some c) rest

/-- A text in which no match begins stays. -/
theorem removeFrom_append {before : Option α} {text after : List α}
    (quiet : Quiet find after before text) :
    removeFrom find 0 before (text ++ after) =
      text ++ removeFrom find 0 (lastOf before text) after := by
  induction text generalizing before with
  | nil => rfl
  | cons c text ih =>
      rw [List.cons_append, removeFrom_cons_of_none quiet.1, ih quiet.2, lastOf_cons]
      rfl

/-- Where a pattern matches at none of the characters nothing begins. -/
theorem quiet_of_forall {before : Option α} {text after : List α}
    (clear : ∀ before, ∀ c ∈ text, ∀ rest, find before (c :: rest) = none) :
    Quiet find after before text := by
  induction text generalizing before with
  | nil => trivial
  | cons c text ih =>
      refine ⟨clear before c List.mem_cons_self _, ih ?_⟩
      intro before d member rest
      exact clear before d (List.mem_cons_of_mem c member) rest

theorem quiet_append {before : Option α} {first second after : List α} :
    Quiet find after before (first ++ second) ↔
      Quiet find (second ++ after) before first ∧
        Quiet find after (lastOf before first) second := by
  induction first generalizing before with
  | nil => simp [Quiet]
  | cons c first ih =>
      rw [List.cons_append, Quiet, Quiet, ih, lastOf_cons, List.append_assoc, and_assoc]

/-- The rest of a text is removed from in the same way behind characters that make no difference
to the pattern. -/
theorem removeFrom_congr {before other : Option α} {text : List α}
    (same : find before text = find other text) :
    removeFrom find 0 before text = removeFrom find 0 other text := by
  cases text with
  | nil => rfl
  | cons c rest => rw [removeFrom, removeFrom, same]

theorem removeFrom_sublist (skip : Nat) (before : Option α) (text : List α) :
    (removeFrom find skip before text).Sublist text := by
  induction text generalizing skip before with
  | nil => simp
  | cons c rest ih =>
      cases skip with
      | succ skip => exact (ih skip (some c)).cons c
      | zero =>
          rw [removeFrom]
          split
          · exact (ih 0 (some c)).cons_cons c
          · exact (ih _ (some c)).cons c

/-- Where all of some characters are left, and every match begins with one of them, nothing was
removed and nothing matches. -/
theorem quiet_of_filter_eq {kept : α → Bool} {before : Option α} {text : List α}
    (begins : ∀ before c rest, (find before (c :: rest)).isSome = true → kept c = true)
    (same : (removeFrom find 0 before text).filter kept = text.filter kept) :
    Quiet find [] before text := by
  induction text generalizing before with
  | nil => trivial
  | cons c rest ih =>
      cases found : find before (c :: rest) with
      | none =>
          rw [removeFrom_cons_of_none found] at same
          constructor
          · rw [List.append_nil]
            exact found
          · apply ih
            cases letter : kept c <;> simpa [List.filter_cons, letter] using same
      | some behind =>
          have first := begins before c rest (by rw [found]; rfl)
          rw [removeFrom, found, List.filter_cons_of_pos first] at same
          have fewer := ((@removeFrom_sublist α find (rest.length - behind.length) (some c)
            rest).filter kept).length_le
          have lengths := congrArg List.length same
          simp only [List.length_cons] at lengths
          omega

/-- A text in which nothing matches stays. -/
theorem removeFrom_eq_self {before : Option α} {text : List α}
    (quiet : Quiet find [] before text) : removeFrom find 0 before text = text := by
  have whole := removeFrom_append quiet
  rw [List.append_nil, removeFrom_nil, List.append_nil] at whole
  exact whole

end Removal

end Mintarr.Lib
