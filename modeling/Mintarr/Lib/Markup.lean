import Mathlib.Data.List.DropRight
import Mintarr.Lib.Regex

/-!
# Escaping and unescaping markup

`escape` of `xml.sax.saxutils` and `unescape` of `html`.  The table of the named character
references is a parameter.
-/

namespace Mintarr.Lib.Markup

/-- `str.replace` of one character. -/
def replaceChar (old : Char) (new : List Char) (text : List Char) : List Char :=
  text.flatMap fun c => if c = old then new else [c]

/-- `escape`. -/
def xmlEscape (text : List Char) : List Char :=
  replaceChar '<' "&lt;".toList
    (replaceChar '>' "&gt;".toList (replaceChar '&' "&amp;".toList text))

/-! ## Character references -/

/-- The value of a hexadecimal digit. -/
def hexValue (c : Char) : Option Nat :=
  "0123456789abcdef".toList.idxOf? c.toLower

/-- The characters of a name. -/
def isNameChar (c : Char) : Bool := c ∉ "\t\n\x0c <&#;".toList

/-- `_charref`. -/
def charref : Regex Char :=
  let ended : List (Piece Char) := [.run (fun c => c = ';') 0 (some 1) false]
  [ Regex.literal ['&'] ++ Regex.literal ['#'] ++ [.run Char.isDigit 1 none false] ++ ended,
    Regex.literal ['&'] ++ Regex.literal ['#'] ++ [.one fun c => c = 'x' ∨ c = 'X',
      .run (fun c => (hexValue c).isSome) 1 none false] ++ ended,
    Regex.literal ['&'] ++ [.run isNameChar 1 (some 32) false] ++ ended ]

/-- The number of a digit string. -/
def number (base : Nat) (text : List Char) : Nat :=
  text.foldl (fun value c => value * base + (hexValue c).getD 0) 0

/-- The characters that stand for the numbers from `0x80` on. -/
def windows : List Nat :=
  [0x20ac, 0x81, 0x201a, 0x192, 0x201e, 0x2026, 0x2020, 0x2021, 0x2c6, 0x2030, 0x160, 0x2039,
    0x152, 0x8d, 0x17d, 0x8f, 0x90, 0x2018, 0x2019, 0x201c, 0x201d, 0x2022, 0x2013, 0x2014,
    0x2dc, 0x2122, 0x161, 0x203a, 0x153, 0x9d, 0x17e, 0x178]

/-- `_invalid_codepoints`. -/
def invalidCodepoint (code : Nat) : Bool :=
  (0x1 ≤ code ∧ code ≤ 0x8) ∨ (0xe ≤ code ∧ code ≤ 0x1f) ∨ (0x7f ≤ code ∧ code ≤ 0x9f) ∨
    (0xfdd0 ≤ code ∧ code ≤ 0xfdef) ∨ code = 0xb ∨ 0xfffe ≤ code % 0x10000

/-- The text of a numeric reference. -/
def numericText (code : Nat) : List Char :=
  if code = 0 then [Char.ofNat 0xfffd]
  else if code = 0xd then ['\r']
  else if 0x80 ≤ code ∧ code ≤ 0x9f then [Char.ofNat (windows.getD (code - 0x80) 0)]
  else if (0xd800 ≤ code ∧ code ≤ 0xdfff) ∨ 0x10ffff < code then [Char.ofNat 0xfffd]
  else if invalidCodepoint code then []
  else [Char.ofNat code]

section Unescape

variable (html5 : List Char → Option (List Char))

/-- The longest name that a reference begins with. -/
def longestName (reference : List Char) : Nat → Option (List Char)
  | 0 | 1 => none
  | length + 1 =>
      match html5 (reference.take (length + 1)) with
      | some text => some (text ++ reference.drop (length + 1))
      | none => longestName reference length

/-- `_replace_charref`, of what follows the `&`. -/
def replaceCharref (reference : List Char) : List Char :=
  match reference with
  | '#' :: digits =>
      let digits := digits.rdropWhile fun c => c = ';'
      match digits with
      | 'x' :: hex | 'X' :: hex => numericText (number 16 hex)
      | _ => numericText (number 10 digits)
  | _ =>
      match html5 reference with
      | some text => text
      | none => (longestName html5 reference (reference.length - 1)).getD ('&' :: reference)

/-- The text of a reference that was matched with its mark. -/
def replacement (found : Match Char) : List Char := replaceCharref html5 (found.text.drop 1)

/-- `unescape`. -/
def htmlUnescape (text : List Char) : List Char :=
  if '&' ∉ text then text else Regex.sub charref (replacement html5) text

end Unescape

/-! ## The round trip -/

/-- What stands for a character. -/
def escaped (c : Char) : List Char :=
  if c = '&' then "&amp;".toList
  else if c = '>' then "&gt;".toList
  else if c = '<' then "&lt;".toList
  else [c]

/-- A text is escaped character by character. -/
theorem xmlEscape_eq (text : List Char) : xmlEscape text = text.flatMap escaped := by
  rw [xmlEscape, replaceChar, replaceChar, replaceChar, List.flatMap_assoc, List.flatMap_assoc]
  congr 1
  funext c
  by_cases ampersand : c = '&'
  · subst ampersand
    rfl
  · by_cases greater : c = '>'
    · subst greater
      rfl
    · simp [escaped, ampersand, greater]

/-- An escaped text has no bracket. -/
theorem not_mem_xmlEscape (text : List Char) : '<' ∉ xmlEscape text := by
  rw [xmlEscape_eq, List.mem_flatMap]
  rintro ⟨c, _, bracket⟩
  unfold escaped at bracket
  split_ifs at bracket with ampersand greater less
  · contradiction
  · contradiction
  · contradiction
  · rw [List.mem_singleton] at bracket
    exact less bracket.symm

/-- Every reference begins with its mark. -/
theorem begins_charref : Regex.Begins ['&'] charref := by
  intro pieces pieces_mem
  simp only [charref, List.mem_cons, List.not_mem_nil, or_false] at pieces_mem
  rcases pieces_mem with rfl | rfl | rfl <;> exact ⟨_, by simp only [List.append_assoc]; rfl⟩

/-- A named reference is matched as a whole. -/
theorem firstMatch_named {name : List Char} (rest : List Char) (nonempty : name ≠ [])
    (short : name.length ≤ 32) (named : name.all isNameChar = true) :
    Regex.firstMatch charref (('&' :: (name ++ [';'])) ++ rest) =
      some { text := '&' :: (name ++ [';']), groups := [] } := by
  obtain ⟨first, others, rfl⟩ := List.exists_cons_of_ne_nil nonempty
  rw [List.all_eq_true] at named
  have first_named := named first (by simp)
  have unnumbered : (first = '#') = False := by
    apply eq_false
    rintro rfl
    contradiction
  have ended : Regex.matchPieces [Piece.run (fun c => c = ';') 0 (some 1) false] (';' :: rest) =
      some ([], rest) := by
    have reached : Regex.reach (fun c => c = ';') (some 1) ([';'] ++ rest) = [';'].length :=
      Regex.reach_append (by simp) (.inl rfl)
    exact Regex.matchPieces_run reached (by simp) rfl
  have run : Regex.matchPieces
      [.run isNameChar 1 (some 32) false, .run (fun c => c = ';') 0 (some 1) false]
      ((first :: others) ++ ';' :: rest) = some ([], rest) := by
    have reached : Regex.reach isNameChar (some 32) ((first :: others) ++ ';' :: rest) =
        (first :: others).length := by
      apply Regex.reach_append named
      right
      constructor
      · rfl
      · intro bound bound_eq
        cases bound_eq
        exact short
    exact Regex.matchPieces_run reached (by simp) ended
  rw [charref, Regex.firstMatch_cons_of_none, Regex.firstMatch_cons_of_none]
  · apply Regex.firstMatch_eq_some
    simpa [Regex.literal, Regex.matchPieces] using run
  · simp [Regex.literal, Regex.matchPieces, unnumbered]
  · simp [Regex.literal, Regex.matchPieces, unnumbered]

/-- A named reference of the table is replaced. -/
theorem sub_reference {html5 : List Char → Option (List Char)} {name : List Char} {c : Char}
    (rest : List Char) (nonempty : name ≠ []) (short : name.length ≤ 32)
    (named : name.all isNameChar = true) (listed : html5 (name ++ [';']) = some [c]) :
    Regex.sub charref (replacement html5) (('&' :: (name ++ [';'])) ++ rest) =
      c :: Regex.sub charref (replacement html5) rest := by
  obtain ⟨first, others, rfl⟩ := List.exists_cons_of_ne_nil nonempty
  have unnumbered : first ≠ '#' := by
    rintro rfl
    have hash := List.all_eq_true.mp named '#' (by simp)
    contradiction
  have replaced : replaceCharref html5 ((first :: others) ++ [';']) = [c] := by
    unfold replaceCharref
    split
    · next digits hash =>
        rw [List.cons_append, List.cons.injEq] at hash
        exact absurd hash.1 unnumbered
    · rw [listed]
  rw [Regex.sub_match (firstMatch_named rest nonempty short named) (by simp)]
  simp only [replacement, List.drop_succ_cons, List.drop_zero, replaced, List.singleton_append]

section RoundTrip

variable {html5 : List Char → Option (List Char)}

/-- Unescaping undoes escaping. -/
theorem htmlUnescape_xmlEscape (ampersand : html5 "amp;".toList = some ['&'])
    (less : html5 "lt;".toList = some ['<']) (greater : html5 "gt;".toList = some ['>'])
    (text : List Char) : htmlUnescape html5 (xmlEscape text) = text := by
  have undone : Regex.sub charref (replacement html5) (xmlEscape text) = text := by
    rw [xmlEscape_eq]
    induction text with
    | nil => rfl
    | cons c text ih =>
        rw [List.flatMap_cons, escaped]
        split_ifs with is_ampersand is_greater is_less
        · rw [is_ampersand]
          have step := @sub_reference html5 "amp".toList '&' (text.flatMap escaped) (by decide)
            (by decide) (by decide) ampersand
          rw [ih] at step
          exact step
        · rw [is_greater]
          have step := @sub_reference html5 "gt".toList '>' (text.flatMap escaped) (by decide)
            (by decide) (by decide) greater
          rw [ih] at step
          exact step
        · rw [is_less]
          have step := @sub_reference html5 "lt".toList '<' (text.flatMap escaped) (by decide)
            (by decide) (by decide) less
          rw [ih] at step
          exact step
        · rw [List.singleton_append, Regex.sub_cons_clear _ begins_charref is_ampersand, ih]
  rw [htmlUnescape]
  split_ifs with marked
  · exact undone
  · rw [Regex.sub_eq_self begins_charref marked] at undone
    exact undone

end RoundTrip

end Mintarr.Lib.Markup
