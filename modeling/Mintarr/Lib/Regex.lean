import Mathlib.Data.List.Basic

/-!
# Regular expressions of bounded runs

Expressions whose branches are sequences of single characters and of greedy runs, matched
with backtracking: the leftmost match counts, the first branch that matches, and the longest
runs that let the rest match.  The matches of a text do not overlap.  An expression here
never matches the empty text.
-/

namespace Mintarr.Lib

universe u v w

/-- A character of a class, or a greedy run of them. -/
inductive Piece (α : Type u) where
  | one (accepts : α → Bool)
  | run (accepts : α → Bool) (least : Nat) (most : Option Nat) (captured : Bool)

/-- The branches of an expression. -/
abbrev Regex (α : Type u) := List (List (Piece α))

/-- A match: its text, and what its groups captured. -/
structure Match (α : Type u) where
  text : List α
  groups : List (List α)
  deriving DecidableEq

namespace Regex

variable {α : Type u}

/-- The characters of a text, one by one. -/
def literal [DecidableEq α] (text : List α) : List (Piece α) :=
  text.map fun expected => .one fun c => c = expected

/-- How far a run can get. -/
def reach (accepts : α → Bool) (most : Option Nat) (text : List α) : Nat :=
  let longest := (text.takeWhile accepts).length
  match most with
  | none => longest
  | some bound => min bound longest

/-- The lengths of a run, the longest first. -/
def lengths (least longest : Nat) : List Nat :=
  (List.range' least (longest + 1 - least)).reverse

/-- Match a branch at the start of a text: the groups, and what is left. -/
def matchPieces : List (Piece α) → List α → Option (List (List α) × List α)
  | [], text => some ([], text)
  | .one accepts :: pieces, text =>
      match text with
      | [] => none
      | c :: rest => if accepts c then matchPieces pieces rest else none
  | .run accepts least most captured :: pieces, text =>
      (lengths least (reach accepts most text)).findSome? fun length =>
        (matchPieces pieces (text.drop length)).map fun found =>
          (if captured then text.take length :: found.1 else found.1, found.2)

/-- Match an expression at the start of a text. -/
def firstMatch (regex : Regex α) (text : List α) : Option (Match α) :=
  regex.findSome? fun pieces =>
    (matchPieces pieces text).map fun found =>
      { text := text.take (text.length - found.2.length), groups := found.1 }

/-- The matches of a text and the characters between them; `skip` characters still belong to
the match before. -/
def parts (regex : Regex α) : Nat → List α → List (α ⊕ Match α)
  | _, [] => []
  | skip + 1, _ :: rest => parts regex skip rest
  | 0, c :: rest =>
      match firstMatch regex (c :: rest) with
      | none => .inl c :: parts regex 0 rest
      | some found => .inr found :: parts regex (found.text.length - 1) rest

/-- `finditer`. -/
def finditer (regex : Regex α) (text : List α) : List (Match α) :=
  (parts regex 0 text).filterMap Sum.getRight?

/-- `search`. -/
def search (regex : Regex α) (text : List α) : Option (Match α) :=
  (finditer regex text).head?

/-- `sub`. -/
def sub (regex : Regex α) (replace : Match α → List α) (text : List α) : List α :=
  (parts regex 0 text).flatMap (Sum.elim (fun c => [c]) replace)

/-! ## Matching a branch -/

/-- A run that ends where it must takes all of its characters. -/
theorem reach_append {accepts : α → Bool} {most : Option Nat} {run rest : List α}
    (accepted : ∀ c ∈ run, accepts c = true)
    (ends : most = some run.length ∨
      (rest.head?.all fun c => !accepts c) = true ∧
        ∀ bound, most = some bound → run.length ≤ bound) :
    reach accepts most (run ++ rest) = run.length := by
  have longest : (run ++ rest).takeWhile accepts = run ++ rest.takeWhile accepts :=
    List.takeWhile_append_of_pos accepted
  rcases ends with full | ⟨stops, within⟩
  · rw [full]
    simp [reach, longest]
  · have stopped : rest.takeWhile accepts = [] := by
      cases rest with
      | nil => rfl
      | cons c rest =>
          have rejected : accepts c = false := by simpa using stops
          simp [rejected]
    cases most with
    | none => simp [reach, longest, stopped]
    | some bound =>
        have bounded := within bound rfl
        simp only [reach, longest, stopped, List.append_nil]
        omega

/-- The longest length comes first. -/
theorem lengths_eq_cons {least longest : Nat} (enough : least ≤ longest) :
    ∃ shorter, lengths least longest = longest :: shorter := by
  have count : longest + 1 - least = (longest - least) + 1 := by omega
  have last : least + 1 * (longest - least) = longest := by omega
  refine ⟨(List.range' least (longest - least)).reverse, ?_⟩
  rw [lengths, count, List.range'_concat, last]
  simp

/-- No length of a run is beyond its reach. -/
theorem le_of_mem_lengths {least longest length : Nat} (listed : length ∈ lengths least longest) :
    length ≤ longest := by
  rw [lengths, List.mem_reverse, List.mem_range'_1] at listed
  omega

/-- A run with a rest that matches is matched. -/
theorem matchPieces_run {accepts : α → Bool} {least : Nat} {most : Option Nat} {captured : Bool}
    {pieces : List (Piece α)} {run rest after : List α} {groups : List (List α)}
    (reached : reach accepts most (run ++ rest) = run.length) (enough : least ≤ run.length)
    (matched : matchPieces pieces rest = some (groups, after)) :
    matchPieces (.run accepts least most captured :: pieces) (run ++ rest) =
      some (if captured then run :: groups else groups, after) := by
  obtain ⟨shorter, lengths_eq⟩ := lengths_eq_cons enough
  rw [matchPieces, reached, lengths_eq, List.findSome?_cons]
  simp [matched]

/-- A run takes what it accepts, up to what it does not. -/
theorem matchPieces_run_stops {accepts : α → Bool} {least : Nat} {captured : Bool}
    {pieces : List (Piece α)} {run rest after : List α} {groups : List (List α)}
    (accepted : ∀ c ∈ run, accepts c = true) (enough : least ≤ run.length)
    (stops : (rest.head?.all fun c => !accepts c) = true)
    (matched : matchPieces pieces rest = some (groups, after)) :
    matchPieces (.run accepts least none captured :: pieces) (run ++ rest) =
      some (if captured then run :: groups else groups, after) := by
  apply matchPieces_run (reach_append accepted _) enough matched
  right
  constructor
  · exact stops
  · intro bound bounded
    contradiction

/-- A run before a character it does not accept is taken whole or not at all. -/
theorem matchPieces_leading {accepts expected : α → Bool} {pieces : List (Piece α)}
    {run rest : List α} (accepted : ∀ c ∈ run, accepts c = true)
    (stops : (rest.head?.all fun c => !accepts c) = true)
    (disjoint : ∀ c, accepts c = true → expected c = false) :
    matchPieces (.run accepts 0 none false :: .one expected :: pieces) (run ++ rest) =
      matchPieces (.one expected :: pieces) rest := by
  cases matched : matchPieces (.one expected :: pieces) rest with
  | some found => exact matchPieces_run_stops accepted (Nat.zero_le _) stops matched
  | none =>
      have reached : reach accepts none (run ++ rest) = run.length :=
        reach_append accepted (Or.inr ⟨stops, fun bound bounded => by contradiction⟩)
      rw [matchPieces, List.findSome?_eq_none_iff, reached]
      intro length listed
      rw [Option.map_eq_none_iff, List.drop_append_of_le_length (le_of_mem_lengths listed)]
      -- what is left of the run does not begin what comes next
      cases left : run.drop length with
      | nil => exact matched
      | cons c others =>
          have within : c ∈ run := by
            apply List.mem_of_mem_drop (i := length)
            rw [left]
            exact List.mem_cons_self
          rw [List.cons_append, matchPieces, disjoint c (accepted c within)]
          rfl

section Literal

variable [DecidableEq α]

/-- A literal matches itself. -/
theorem matchPieces_literal (text : List α) (pieces : List (Piece α)) (rest : List α) :
    matchPieces (literal text ++ pieces) (text ++ rest) = matchPieces pieces rest := by
  induction text with
  | nil => rfl
  | cons c text ih =>
      simp only [literal, List.map_cons, List.cons_append, matchPieces, decide_true, if_true]
      exact ih

/-- One of two texts begins with the other. -/
def compatible : List α → List α → Bool
  | expected :: literal, c :: text => c = expected && compatible literal text
  | _, _ => true

/-- A text in which no occurrence of a literal begins. -/
def clear (literal : List α) : List α → Bool
  | [] => true
  | c :: rest => !compatible literal (c :: rest) && clear literal rest

/-- A branch that begins with a literal matches only compatible texts. -/
theorem compatible_of_match {text : List α} {pieces : List (Piece α)} {subject : List α}
    (matched : (matchPieces (literal text ++ pieces) subject).isSome = true) :
    compatible text subject = true := by
  induction text generalizing subject with
  | nil => cases subject <;> rfl
  | cons expected text ih =>
      cases subject with
      | nil => rfl
      | cons c subject =>
          simp only [literal, List.map_cons, List.cons_append, matchPieces] at matched
          split_ifs at matched with same
          · have tail := ih matched
            simp only [compatible, tail, Bool.and_true]
            exact same
          · contradiction

/-- What is compatible with a longer text is compatible with its prefix. -/
theorem compatible_prefix {text subject rest : List α}
    (whole : compatible text (subject ++ rest) = true) : compatible text subject = true := by
  induction text generalizing subject with
  | nil => cases subject <;> rfl
  | cons expected text ih =>
      cases subject with
      | nil => rfl
      | cons c subject =>
          simp only [List.cons_append, compatible, Bool.and_eq_true] at whole ⊢
          exact ⟨whole.1, ih whole.2⟩

/-- Without the first character of a literal a text is clear of it. -/
theorem clear_of_not_mem {expected : α} {literal text : List α} (absent : expected ∉ text) :
    clear (expected :: literal) text = true := by
  induction text with
  | nil => rfl
  | cons c text ih =>
      rw [List.mem_cons, not_or] at absent
      have differs : (c = expected) = False := by
        apply eq_false
        intro same
        exact absent.1 same.symm
      simp [clear, compatible, differs, ih absent.2]

/-- Every branch of an expression begins with a literal. -/
def Begins (text : List α) (regex : Regex α) : Prop :=
  ∀ pieces ∈ regex, ∃ rest, pieces = literal text ++ rest

/-- An expression that begins with a literal does not match elsewhere. -/
theorem firstMatch_eq_none {regex : Regex α} {text subject : List α}
    (begins : Begins text regex) (apart : compatible text subject = false) :
    firstMatch regex subject = none := by
  rw [firstMatch, List.findSome?_eq_none_iff]
  intro pieces pieces_mem
  obtain ⟨rest, rfl⟩ := begins pieces pieces_mem
  cases matched : matchPieces (literal text ++ rest) subject with
  | none => rfl
  | some found =>
      have compatible := compatible_of_match (by rw [matched]; rfl)
      rw [apart] at compatible
      contradiction

/-! ## The parts of a text -/

/-- A clear text has no match. -/
theorem parts_clear {regex : Regex α} {text segment : List α} (rest : List α)
    (begins : Begins text regex) (cleared : clear text segment = true) :
    parts regex 0 (segment ++ rest) = segment.map Sum.inl ++ parts regex 0 rest := by
  induction segment with
  | nil => rfl
  | cons c segment ih =>
      rw [clear, Bool.and_eq_true, Bool.not_eq_true'] at cleared
      have apart : compatible text (c :: (segment ++ rest)) = false := by
        by_contra compatible
        rw [Bool.not_eq_false, ← List.cons_append] at compatible
        have whole := compatible_prefix compatible
        rw [cleared.1] at whole
        contradiction
      simp only [List.cons_append, parts, firstMatch_eq_none begins apart, ih cleared.2,
        List.map_cons]

end Literal

/-- What belongs to the match before is skipped. -/
theorem parts_skip (regex : Regex α) (skipped rest : List α) :
    parts regex skipped.length (skipped ++ rest) = parts regex 0 rest := by
  induction skipped with
  | nil => rfl
  | cons c skipped ih => exact ih

/-- A match is one part. -/
theorem parts_match {regex : Regex α} {text rest : List α} {groups : List (List α)}
    (found : firstMatch regex (text ++ rest) = some { text, groups }) (nonempty : text ≠ []) :
    parts regex 0 (text ++ rest) = .inr { text, groups } :: parts regex 0 rest := by
  cases text with
  | nil => exact absurd rfl nonempty
  | cons c text =>
      rw [List.cons_append] at found ⊢
      simp only [parts, found, List.length_cons, Nat.add_sub_cancel]
      rw [parts_skip]

/-- A branch that leaves the rest has matched the text before it. -/
theorem firstMatch_eq_some {pieces : List (Piece α)} {regex : Regex α} {text rest : List α}
    {groups : List (List α)} (matched : matchPieces pieces (text ++ rest) = some (groups, rest)) :
    firstMatch (pieces :: regex) (text ++ rest) = some { text, groups } := by
  simp [firstMatch, matched]

/-- A branch that does not match is passed over. -/
theorem firstMatch_cons_of_none {pieces : List (Piece α)} {regex : Regex α} {text : List α}
    (unmatched : matchPieces pieces text = none) :
    firstMatch (pieces :: regex) text = firstMatch regex text := by
  simp [firstMatch, unmatched]

/-- Nothing is found in a clear text. -/
theorem finditer_clear [DecidableEq α] {regex : Regex α} {text segment : List α} (rest : List α)
    (begins : Begins text regex) (cleared : clear text segment = true) :
    finditer regex (segment ++ rest) = finditer regex rest := by
  rw [finditer, finditer, parts_clear rest begins cleared, List.filterMap_append,
    List.filterMap_map]
  have nothing : List.filterMap (Sum.getRight? ∘ Sum.inl) segment = ([] : List (Match α)) := by
    rw [List.filterMap_eq_nil_iff]
    intro c _
    rfl
  rw [nothing, List.nil_append]

/-- A match is found. -/
theorem finditer_match {regex : Regex α} {text rest : List α} {groups : List (List α)}
    (found : firstMatch regex (text ++ rest) = some { text, groups }) (nonempty : text ≠ []) :
    finditer regex (text ++ rest) = { text, groups } :: finditer regex rest := by
  rw [finditer, parts_match found nonempty]
  rfl

/-- A clear character stays. -/
theorem sub_cons_clear [DecidableEq α] {regex : Regex α} {replace : Match α → List α}
    {expected c : α} (rest : List α) (begins : Begins [expected] regex) (differs : c ≠ expected) :
    sub regex replace (c :: rest) = c :: sub regex replace rest := by
  have cleared : clear [expected] [c] = true := by simp [clear, compatible, differs]
  rw [sub, ← List.singleton_append, parts_clear rest begins cleared]
  rfl

/-- A match is replaced. -/
theorem sub_match {regex : Regex α} {replace : Match α → List α} {text rest : List α}
    {groups : List (List α)}
    (found : firstMatch regex (text ++ rest) = some { text, groups }) (nonempty : text ≠ []) :
    sub regex replace (text ++ rest) = replace { text, groups } ++ sub regex replace rest := by
  rw [sub, parts_match found nonempty]
  rfl

/-- A text without the first character of an expression stays. -/
theorem sub_eq_self [DecidableEq α] {regex : Regex α} {replace : Match α → List α}
    {expected : α} {text : List α} (begins : Begins [expected] regex)
    (absent : expected ∉ text) : sub regex replace text = text := by
  have free : clear [expected] text = true := clear_of_not_mem absent
  have cleared := parts_clear [] begins free
  rw [List.append_nil, parts, List.append_nil] at cleared
  rw [sub, cleared, List.flatMap_map]
  exact List.flatMap_singleton' text

/-- A run is replaced as a whole. -/
theorem sub_run_of_accepts {accepts : α → Bool} {replace : Match α → List α} {c : α}
    (accepted : accepts c = true) (rest : List α) :
    sub [[.run accepts 1 none false]] replace (c :: rest) =
      replace { text := c :: rest.takeWhile accepts, groups := [] } ++
        sub [[.run accepts 1 none false]] replace (rest.dropWhile accepts) := by
  have split : c :: rest = (c :: rest.takeWhile accepts) ++ rest.dropWhile accepts := by
    rw [List.cons_append, List.takeWhile_append_dropWhile]
  have run : ∀ d ∈ c :: rest.takeWhile accepts, accepts d = true := by
    rw [List.forall_mem_cons]
    exact ⟨accepted, fun d => List.all_eq_true.mp List.all_takeWhile d⟩
  have stops : ((rest.dropWhile accepts).head?.all fun c => !accepts c) = true := by
    rw [Option.all_eq_true]
    intro d first
    have rejected := List.head?_dropWhile_not accepts rest
    rw [first] at rejected
    simpa using rejected
  have matched : matchPieces [.run accepts 1 none false]
      ((c :: rest.takeWhile accepts) ++ rest.dropWhile accepts) =
        some ([], rest.dropWhile accepts) :=
    matchPieces_run_stops run (by simp) stops rfl
  rw [split, sub_match (firstMatch_eq_some matched) (List.cons_ne_nil _ _)]

/-- What a run does not take stays. -/
theorem sub_run_of_rejects {accepts : α → Bool} {replace : Match α → List α} {c : α}
    (rejected : accepts c = false) (rest : List α) :
    sub [[.run accepts 1 none false]] replace (c :: rest) =
      c :: sub [[.run accepts 1 none false]] replace rest := by
  have unmatched : firstMatch [[.run accepts 1 none false]] (c :: rest) = none := by
    have short : reach accepts none (c :: rest) = 0 := by simp [reach, rejected]
    simp [firstMatch, matchPieces, short, lengths]
  rw [sub, parts, unmatched]
  rfl

/-! ## Appended texts -/

/-- No match of a branch continues into a text. -/
def Severed (after : List α) : List (Piece α) → Prop
  | [] => True
  | .one accepts :: pieces =>
      matchPieces (.one accepts :: pieces) after = none ∧ Severed after pieces
  | .run accepts _ _ _ :: pieces =>
      (after.head?.all fun c => !accepts c) = true ∧ Severed after pieces

/-- Runs stop before a text they do not accept. -/
theorem reach_append_of_stops {accepts : α → Bool} {after : List α} (most : Option Nat)
    (stops : (after.head?.all fun c => !accepts c) = true) (text : List α) :
    reach accepts most (text ++ after) = reach accepts most text := by
  have longest : (text ++ after).takeWhile accepts = text.takeWhile accepts := by
    induction text with
    | nil =>
        cases after with
        | nil => rfl
        | cons c after =>
            have rejected : accepts c = false := by simpa using stops
            simp [rejected]
    | cons c text ih =>
        rw [List.cons_append, List.takeWhile_cons, List.takeWhile_cons, ih]
  simp only [reach, longest]

theorem reach_le (accepts : α → Bool) (most : Option Nat) (text : List α) :
    reach accepts most text ≤ text.length := by
  have longest := (List.takeWhile_prefix accepts (l := text)).length_le
  cases most with
  | none => exact longest
  | some bound => exact Nat.le_trans (Nat.min_le_right _ _) longest

/-- What is left is no longer than the text. -/
theorem length_le_of_matchPieces {pieces : List (Piece α)} {text : List α}
    {found : List (List α) × List α} (matched : matchPieces pieces text = some found) :
    found.2.length ≤ text.length := by
  induction pieces generalizing text found with
  | nil =>
      rw [matchPieces, Option.some.injEq] at matched
      subst matched
      exact Nat.le_refl _
  | cons piece pieces ih =>
      cases piece with
      | one accepts =>
          cases text with
          | nil => contradiction
          | cons c text =>
              rw [matchPieces] at matched
              split_ifs at matched
              have tail := ih matched
              rw [List.length_cons]
              omega
      | run accepts least most captured =>
          rw [matchPieces] at matched
          obtain ⟨length, _, tail⟩ := List.exists_of_findSome?_eq_some matched
          obtain ⟨inner, inner_eq, rfl⟩ := Option.map_eq_some_iff.mp tail
          have left := ih inner_eq
          rw [List.length_drop] at left
          exact Nat.le_trans left (Nat.sub_le _ _)

/-- Functions that agree on a list find the same. -/
theorem findSome?_congr {β : Type v} {γ : Type w} {list : List β} {f g : β → Option γ}
    (same : ∀ x ∈ list, f x = g x) : list.findSome? f = list.findSome? g := by
  induction list with
  | nil => rfl
  | cons x list ih =>
      have tail := ih fun y y_mem => same y (List.mem_cons_of_mem x y_mem)
      rw [List.findSome?_cons, List.findSome?_cons, same x List.mem_cons_self, tail]

/-- What follows a text stays after its match. -/
theorem matchPieces_append {after : List α} {pieces : List (Piece α)}
    (severed : Severed after pieces) (text : List α) :
    matchPieces pieces (text ++ after) =
      (matchPieces pieces text).map fun found => (found.1, found.2 ++ after) := by
  induction pieces generalizing text with
  | nil => rfl
  | cons piece pieces ih =>
      cases piece with
      | one accepts =>
          cases text with
          | nil => exact severed.1
          | cons c text =>
              rw [List.cons_append, matchPieces, matchPieces]
              split_ifs
              · exact ih severed.2 text
              · rfl
      | run accepts least most captured =>
          rw [matchPieces, matchPieces, reach_append_of_stops most severed.1, List.map_findSome?]
          apply findSome?_congr
          intro length listed
          have within := Nat.le_trans (le_of_mem_lengths listed) (reach_le accepts most text)
          rw [List.drop_append_of_le_length within, List.take_append_of_le_length within,
            ih severed.2, Function.comp_apply]
          cases matchPieces pieces (text.drop length) with
          | none => rfl
          | some found => rfl

/-- What follows a text does not change its first match. -/
theorem firstMatch_append {after : List α} {regex : Regex α}
    (severed : ∀ pieces ∈ regex, Severed after pieces) (text : List α) :
    firstMatch regex (text ++ after) = firstMatch regex text := by
  rw [firstMatch, firstMatch]
  apply findSome?_congr
  intro pieces listed
  rw [matchPieces_append (severed pieces listed) text, Option.map_map]
  cases matched : matchPieces pieces text with
  | none => rfl
  | some found =>
      have left := length_le_of_matchPieces matched
      have length : (text ++ after).length - (found.2 ++ after).length =
          text.length - found.2.length := by
        rw [List.length_append, List.length_append]
        omega
      simp only [Option.map_some, Function.comp_apply, length]
      rw [List.take_append_of_le_length (Nat.sub_le _ _)]

/-- A match lies within its text. -/
theorem length_le_of_firstMatch {regex : Regex α} {text : List α} {found : Match α}
    (matched : firstMatch regex text = some found) : found.text.length ≤ text.length := by
  obtain ⟨pieces, _, taken⟩ := List.exists_of_findSome?_eq_some matched
  obtain ⟨inner, _, rfl⟩ := Option.map_eq_some_iff.mp taken
  rw [List.length_take]
  exact Nat.min_le_right _ _

/-- The parts of a text and of what follows it. -/
theorem parts_append {after : List α} {regex : Regex α}
    (severed : ∀ pieces ∈ regex, Severed after pieces) (text : List α) (skip : Nat)
    (within : skip ≤ text.length) :
    parts regex skip (text ++ after) = parts regex skip text ++ parts regex 0 after := by
  induction text generalizing skip with
  | nil =>
      have none_left : skip = 0 := by simpa using within
      rw [none_left]
      rfl
  | cons c text ih =>
      cases skip with
      | succ skip => exact ih skip (Nat.le_of_succ_le_succ within)
      | zero =>
          have same := firstMatch_append severed (c :: text)
          rw [List.cons_append] at same ⊢
          rw [parts, parts, same]
          cases matched : firstMatch regex (c :: text) with
          | none => exact congrArg (List.cons _) (ih 0 (Nat.zero_le _))
          | some found =>
              have length := length_le_of_firstMatch matched
              rw [List.length_cons] at length
              exact congrArg (List.cons _) (ih _ (by omega))

/-- What is found in a text and in what follows it. -/
theorem finditer_append {after : List α} {regex : Regex α}
    (severed : ∀ pieces ∈ regex, Severed after pieces) (text : List α) :
    finditer regex (text ++ after) = finditer regex text ++ finditer regex after := by
  rw [finditer, finditer, finditer, parts_append severed text 0 (Nat.zero_le _),
    List.filterMap_append]

/-- No part of a literal's end begins a text. -/
def apart [DecidableEq α] : List α → List α → Bool
  | [], _ => true
  | c :: text, after => !compatible (c :: text) after && apart text after

theorem severed_literal [DecidableEq α] {text after : List α} {pieces : List (Piece α)}
    (separate : apart text after = true) (rest : Severed after pieces) :
    Severed after (literal text ++ pieces) := by
  induction text with
  | nil => exact rest
  | cons c text ih =>
      rw [apart, Bool.and_eq_true, Bool.not_eq_true'] at separate
      constructor
      · cases matched : matchPieces (literal (c :: text) ++ pieces) after with
        | none => exact matched
        | some found =>
            have compatible := compatible_of_match (by rw [matched]; rfl)
            rw [separate.1] at compatible
            contradiction
      · exact ih separate.2

end Regex

end Mintarr.Lib
