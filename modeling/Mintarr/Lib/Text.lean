import Mathlib.Data.List.Basic

/-!
# Texts

Which byte strings Python's codec takes for UTF-8, how `str.splitlines` cuts a text, what
`str.strip` removes, and how long an integer may be written.
-/

namespace Mintarr.Lib

/-- The content of a file. -/
abbrev Bytes := List UInt8

namespace Text

/-! ## UTF-8 -/

/-- A byte that continues a character, between `low` and `high`. -/
def continuation (byte low high : Nat) : Option Nat :=
  if low ≤ byte ∧ byte ≤ high then some (byte % 64) else none

/-- `bytes.decode` from UTF-8, where the error handler decides what `point` makes of a surrogate;
nothing where it raises. -/
def decodeWith {α : Type} (point : Nat → Option α) : Bytes → Option (List α)
  | [] => some []
  | first :: rest =>
      let lead := first.toNat
      if lead < 0x80 then do
        let value ← point lead
        (decodeWith point rest).map (value :: ·)
      else if 0xC2 ≤ lead ∧ lead ≤ 0xDF then
        match rest with
        | second :: rest => do
            let low ← continuation second.toNat 0x80 0xBF
            let value ← point (lead % 32 * 64 + low)
            (decodeWith point rest).map (value :: ·)
        | _ => none
      else if 0xE0 ≤ lead ∧ lead ≤ 0xEF then
        match rest with
        | second :: third :: rest => do
            -- No overlong forms.
            let middle ← continuation second.toNat (if lead = 0xE0 then 0xA0 else 0x80) 0xBF
            let low ← continuation third.toNat 0x80 0xBF
            let value ← point (lead % 16 * 4096 + middle * 64 + low)
            (decodeWith point rest).map (value :: ·)
        | _ => none
      else if 0xF0 ≤ lead ∧ lead ≤ 0xF4 then
        match rest with
        | second :: third :: fourth :: rest => do
            let high ← continuation second.toNat (if lead = 0xF0 then 0x90 else 0x80)
              (if lead = 0xF4 then 0x8F else 0xBF)
            let middle ← continuation third.toNat 0x80 0xBF
            let low ← continuation fourth.toNat 0x80 0xBF
            let value ← point (lead % 8 * 262144 + high * 4096 + middle * 64 + low)
            (decodeWith point rest).map (value :: ·)
        | _ => none
      else none

/-- `bytes.decode("utf-8")`. -/
def decode : Bytes → Option (List Char) :=
  decodeWith fun value =>
    if 0xD800 ≤ value ∧ value < 0xE000 then none else some (Char.ofNat value)

/-! ## Lines -/

/-- A character that ends a line. -/
def isLineBreak (char : Char) : Bool :=
  char.toNat ∈ [0x0A, 0x0B, 0x0C, 0x0D, 0x1C, 0x1D, 0x1E, 0x85, 0x2028, 0x2029]

/-- A character that `str.strip` removes. -/
def isSpace (char : Char) : Bool :=
  char.toNat ∈ [0x09, 0x1F, 0x20, 0xA0, 0x1680, 0x202F, 0x205F, 0x3000] ||
    isLineBreak char || (0x2000 ≤ char.toNat && char.toNat ≤ 0x200A)

/-- The lines of a text, the last of which was begun with `line`. -/
def linesFrom (line : List Char) : List Char → List (List Char)
  | [] => if line = [] then [] else [line]
  | '\r' :: '\n' :: rest => line :: linesFrom [] rest
  | char :: rest =>
      if isLineBreak char then line :: linesFrom [] rest else linesFrom (line ++ [char]) rest

/-- `str.splitlines`. -/
def splitlines (text : List Char) : List (List Char) := linesFrom [] text

/-- `line.strip()` is empty. -/
def isBlank (line : List Char) : Bool := line.all isSpace

/-- The most digits that `int` reads from a text. -/
def maxStrDigits : Nat := 4300

end Text

end Mintarr.Lib
