import Mintarr.Lib.PyValue

/-!
# File name patterns

`fnmatch` with the three special signs of a shell pattern: a star for any text, a question mark
for one character, and a set in brackets for one character of it.  What a set contains is left
open.  A pattern without any of the signs matches itself alone.
-/

namespace Mintarr.Lib.Glob

open Py

/-- What a pattern is made of. -/
inductive Token where
  | star
  | question
  /-- What stands between the brackets. -/
  | set (stuff : Str)
  | literal (c : CodePoint)
  deriving DecidableEq, Repr

/-- The set that was opened before a text, and what is behind it; nothing where it is not
closed.  A bracket at its beginning does not close it. -/
def splitSet (text : Str) : Option (Str × Str) :=
  let bang := text.takeWhile (· = .char '!') |>.take 1
  let bracket := (text.drop bang.length).take 1 |>.takeWhile (· = .char ']')
  let skipped := bang ++ bracket
  let body := (text.drop skipped.length).takeWhile (· ≠ .char ']')
  match text.drop (skipped.length + body.length) with
  | [] => none
  | _ :: rest => some (skipped ++ body, rest)

/-- The tokens of a pattern that is not longer than the fuel. -/
def tokensFrom : Nat → Str → List Token
  | 0, _ => []
  | _, [] => []
  | fuel + 1, c :: text =>
      if c = .char '*' then .star :: tokensFrom fuel text
      else if c = .char '?' then .question :: tokensFrom fuel text
      else if c = .char '[' then
        match splitSet text with
        | none => .literal c :: tokensFrom fuel text
        | some (stuff, rest) => .set stuff :: tokensFrom fuel rest
      else .literal c :: tokensFrom fuel text

/-- The tokens of a pattern. -/
def tokens (pattern : Str) : List Token := tokensFrom pattern.length pattern

/-- A name is made as the tokens say. -/
def matchTokens (contains : Str → CodePoint → Bool) : List Token → Str → Bool
  | [], name => name.isEmpty
  | .star :: rest, name => name.tails.any (matchTokens contains rest)
  | .question :: rest, name =>
      match name with
      | [] => false
      | _ :: name => matchTokens contains rest name
  | .set stuff :: rest, name =>
      match name with
      | [] => false
      | c :: name => contains stuff c && matchTokens contains rest name
  | .literal d :: rest, name =>
      match name with
      | [] => false
      | c :: name => c = d && matchTokens contains rest name

/-- `fnmatch.fnmatchcase(name, pattern)`. -/
def fnmatch (contains : Str → CodePoint → Bool) (name pattern : Str) : Bool :=
  matchTokens contains (tokens pattern) name

/-- `*`, `?` or `[`. -/
def isSpecial (c : CodePoint) : Bool := c = .char '*' || c = .char '?' || c = .char '['

/-- A pattern of plain characters matches itself alone. -/
theorem fnmatch_plain (contains : Str → CodePoint → Bool) {pattern : Str}
    (plain : ∀ c ∈ pattern, isSpecial c = false) (name : Str) :
    fnmatch contains name pattern = true ↔ name = pattern := by
  have literal : ∀ fuel, ∀ pattern : Str, pattern.length ≤ fuel →
      (∀ c ∈ pattern, isSpecial c = false) →
      tokensFrom fuel pattern = pattern.map .literal := by
    intro fuel
    induction fuel with
    | zero =>
        intro pattern short _
        rw [List.length_eq_zero_iff.mp (Nat.le_zero.mp short)]
        rfl
    | succ fuel ih =>
        intro pattern short plain
        cases pattern with
        | nil => rfl
        | cons c text =>
            rw [List.forall_mem_cons] at plain
            have ordinary := plain.1
            simp only [isSpecial, Bool.or_eq_false_iff, decide_eq_false_iff_not] at ordinary
            rw [tokensFrom, if_neg ordinary.1.1, if_neg ordinary.1.2, if_neg ordinary.2,
              ih text (Nat.le_of_succ_le_succ short) plain.2, List.map_cons]
  rw [fnmatch, tokens, literal _ pattern (Nat.le_refl _) plain]
  clear plain literal
  induction pattern generalizing name with
  | nil => cases name <;> simp [matchTokens]
  | cons d pattern ih =>
      rw [List.map_cons]
      cases name with
      | nil => simp [matchTokens]
      | cons c name => simp [matchTokens, ih]

end Mintarr.Lib.Glob
