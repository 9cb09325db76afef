import Mathlib.Data.List.Basic
import Mintarr.Lib.Regex
import Mintarr.Lib.Text

/-!
# Decimal digits and letter case

The characters `\d` matches, with the values `int` gives them, and the case folding of
`re.IGNORECASE` as far as it meets ASCII letters.
-/

namespace Mintarr.Lib.Text

/-! ## Decimal digits -/

/-- The zeros of the runs of ten decimal digits of Unicode 15. -/
def decimalZeros : List Nat :=
  [0x30, 0x660, 0x6F0, 0x7C0, 0x966, 0x9E6, 0xA66, 0xAE6, 0xB66, 0xBE6, 0xC66, 0xCE6, 0xD66,
    0xDE6, 0xE50, 0xED0, 0xF20, 0x1040, 0x1090, 0x17E0, 0x1810, 0x1946, 0x19D0, 0x1A80, 0x1A90,
    0x1B50, 0x1BB0, 0x1C40, 0x1C50, 0xA620, 0xA8D0, 0xA900, 0xA9D0, 0xA9F0, 0xAA50, 0xABF0,
    0xFF10, 0x104A0, 0x10D30, 0x11066, 0x110F0, 0x11136, 0x111D0, 0x112F0, 0x11450, 0x114D0,
    0x11650, 0x116C0, 0x11730, 0x118E0, 0x11950, 0x11C50, 0x11D50, 0x11DA0, 0x11F50, 0x16A60,
    0x16AC0, 0x16B50, 0x1D7CE, 0x1D7D8, 0x1D7E2, 0x1D7EC, 0x1D7F6, 0x1E140, 0x1E2F0, 0x1E4F0,
    0x1E950, 0x1FBF0]

/-- The value of a decimal digit. -/
def decimal (c : Char) : Option Nat :=
  (decimalZeros.find? fun first => first ≤ c.toNat && c.toNat < first + 10).map (c.toNat - ·)

/-- `\d`. -/
def isDecimal (c : Char) : Bool := (decimal c).isSome

/-- The ranges of the digits that are no decimal digits, superscripts and circled ones among
them. -/
def otherDigits : List (Nat × Nat) :=
  [(0xB2, 0xB3), (0xB9, 0xB9), (0x1369, 0x1371), (0x19DA, 0x19DA), (0x2070, 0x2070),
    (0x2074, 0x2079), (0x2080, 0x2089), (0x2460, 0x2468), (0x2474, 0x247C), (0x2488, 0x2490),
    (0x24EA, 0x24EA), (0x24F5, 0x24FD), (0x24FF, 0x24FF), (0x2776, 0x277E), (0x2780, 0x2788),
    (0x278A, 0x2792), (0x10A40, 0x10A43), (0x10E60, 0x10E68), (0x11052, 0x1105A),
    (0x1F100, 0x1F10A)]

/-- `str.isdigit`. -/
def isdigit (text : List Char) : Bool :=
  !text.isEmpty && text.all fun c =>
    isDecimal c || otherDigits.any fun range => range.1 ≤ c.toNat && c.toNat ≤ range.2

/-- `str.strip`, of the characters that are dropped at both ends. -/
def strip (drops : Char → Bool) (text : List Char) : List Char :=
  ((text.dropWhile drops).reverse.dropWhile drops).reverse

/-- The value of decimal digits. -/
def int (digits : List Char) : Nat :=
  digits.foldl (fun value c => 10 * value + (decimal c).getD 0) 0

/-- `int` of decimal digits; nothing where it raises. -/
def readInt (digits : List Char) : Option Nat :=
  if digits.length ≤ maxStrDigits then some (int digits) else none

theorem readInt_eq_some {digits : List Char} (short : digits.length ≤ maxStrDigits) :
    readInt digits = some (int digits) := if_pos short

theorem readInt_eq_none {digits : List Char} (long : maxStrDigits < digits.length) :
    readInt digits = none := if_neg (by omega)

/-- Where the ASCII digits are. -/
theorem bounds_of_isDigit {c : Char} (digit : c.isDigit = true) :
    0x30 ≤ c.toNat ∧ c.toNat ≤ 0x39 := by
  simp only [Char.isDigit, Bool.and_eq_true, decide_eq_true_eq] at digit
  exact digit

/-- An ASCII digit has its value. -/
theorem decimal_of_isDigit {c : Char} (digit : c.isDigit = true) :
    decimal c = some (c.toNat - 0x30) := by
  obtain ⟨low, high⟩ := bounds_of_isDigit digit
  have above : c.toNat < 0x30 + 10 := by omega
  simp [decimal, decimalZeros, low, above]

theorem isDecimal_of_isDigit {c : Char} (digit : c.isDigit = true) : isDecimal c = true := by
  rw [isDecimal, decimal_of_isDigit digit]
  rfl

/-- On ASCII digits this is the usual reading. -/
theorem int_eq_ofDigitChars {digits : List Char} (ascii : ∀ c ∈ digits, c.isDigit = true) :
    int digits = Nat.ofDigitChars 10 digits 0 := by
  have read : ∀ value, digits.foldl (fun value c => 10 * value + (decimal c).getD 0) value =
      Nat.ofDigitChars 10 digits value := by
    induction digits with
    | nil =>
        intro value
        exact Nat.ofDigitChars_nil.symm
    | cons c digits ih =>
        intro value
        have head := decimal_of_isDigit (ascii c List.mem_cons_self)
        have tail := ih fun d d_mem => ascii d (List.mem_cons_of_mem c d_mem)
        rw [List.foldl_cons, head, tail, Nat.ofDigitChars_cons]
        rfl
  exact read 0

/-- The digits of a number. -/
theorem isDigit_of_mem_toDigits {number : Nat} {c : Char} (c_mem : c ∈ Nat.toDigits 10 number) :
    c.isDigit = true :=
  Nat.isDigit_of_mem_toDigits (by decide) (by decide) c_mem

theorem isDecimal_of_mem_toDigits {number : Nat} {c : Char}
    (c_mem : c ∈ Nat.toDigits 10 number) : isDecimal c = true :=
  isDecimal_of_isDigit (isDigit_of_mem_toDigits c_mem)

/-- A number is read from its digits. -/
@[simp] theorem int_toDigits (number : Nat) : int (Nat.toDigits 10 number) = number := by
  have ascii : ∀ c ∈ Nat.toDigits 10 number, c.isDigit = true := by
    intro c c_mem
    exact isDigit_of_mem_toDigits c_mem
  rw [int_eq_ofDigitChars ascii, Nat.ofDigitChars_ten_toDigits]

/-- A digit is no white space. -/
theorem isSpace_of_isDigit {c : Char} (digit : c.isDigit = true) : isSpace c = false := by
  obtain ⟨low, high⟩ := bounds_of_isDigit digit
  simp only [isSpace, isLineBreak, List.mem_cons, List.not_mem_nil, or_false, Bool.or_eq_false_iff,
    decide_eq_false_iff_not, Bool.and_eq_false_iff]
  omega

/-- The digits of a number do not begin with white space. -/
theorem head_toDigits (number : Nat) (rest : List Char) :
    ((Nat.toDigits 10 number ++ rest).head?.all fun c => !isSpace c) = true := by
  cases shape : Nat.toDigits 10 number with
  | nil => exact absurd shape Nat.toDigits_ne_nil
  | cons c digits =>
      have digit : c.isDigit = true := by
        apply isDigit_of_mem_toDigits
        rw [shape]
        exact List.mem_cons_self
      simp [isSpace_of_isDigit digit]

/-! ## Letter case -/

/-- The lower-case ASCII letter that `re.IGNORECASE` takes a character for; other characters
stay. -/
def foldCase (c : Char) : Char :=
  if c = '\u0130' ∨ c = '\u0131' then 'i'
  else if c = '\u017f' then 's'
  else if c = '\u212a' then 'k'
  else c.toLower

/-- `str.upper` of a character whose upper case is a single letter; the others have none in
ASCII. -/
def upperChar (c : Char) : Char :=
  if c = '\u0131' then 'I' else if c = '\u017f' then 'S' else c.toUpper

/-- `str.upper`, where it gives a word of single ASCII letters. -/
def upper (text : List Char) : List Char := text.map upperChar

/-- `\w`: the characters for which `str.isalnum` holds, none of them white space, and `_`. -/
def isWord (isalnum : Char → Bool) (c : Char) : Bool := c = '_' || (isalnum c && !isSpace c)

/-- `str.isalnum`, given beyond ASCII. -/
def isAlnum (beyond : Char → Bool) (c : Char) : Bool :=
  if c.toNat < 0x80 then c.isAlphanum else beyond c

/-- `[a-z0-9]`. -/
def isLowerAlnum (c : Char) : Bool := c.isLower || c.isDigit

/-- A literal in any letter case, given in lower case. -/
def ignoreCase (text : String) : List (Piece Char) :=
  text.toList.map fun expected => .one fun c => foldCase c = expected

/-- Where the lower-case ASCII letters are. -/
theorem bounds_of_isLower {c : Char} (letter : c.isLower = true) :
    0x61 ≤ c.toNat ∧ c.toNat ≤ 0x7A := by
  have range : (decide (c.val ≥ 'a'.val) && decide (c.val ≤ 'z'.val)) = true := letter
  rw [Bool.and_eq_true, decide_eq_true_eq, decide_eq_true_eq] at range
  exact range

/-- Letters and digits are ASCII. -/
theorem lt_of_isAlphanum {c : Char} (letter : c.isAlphanum = true) : c.toNat < 0x80 := by
  have split : c.isAlphanum = (c.isUpper || c.isLower || c.isDigit) := rfl
  rw [split, Bool.or_eq_true, Bool.or_eq_true] at letter
  rcases letter with (upper | lower) | digit
  · have range : c.val ≥ 'A'.val ∧ c.val ≤ 'Z'.val := of_decide_eq_true upper
    have high : c.toNat ≤ 0x5A := range.2
    omega
  · have bounds := bounds_of_isLower lower
    omega
  · have bounds := bounds_of_isDigit digit
    omega

/-- Letters and digits are no white space. -/
theorem isSpace_of_isLowerAlnum {c : Char} (letter : isLowerAlnum c = true) :
    isSpace c = false := by
  rw [isLowerAlnum, Bool.or_eq_true] at letter
  cases letter with
  | inl lower =>
      obtain ⟨low, high⟩ := bounds_of_isLower lower
      simp only [isSpace, isLineBreak, List.mem_cons, List.not_mem_nil, or_false,
        Bool.or_eq_false_iff, decide_eq_false_iff_not, Bool.and_eq_false_iff]
      omega
  | inr digit => exact isSpace_of_isDigit digit

/-- What is neither a capital letter nor one of the four others has no case. -/
theorem foldCase_eq_self {c : Char} (plain : c.toNat < 0x41 ∨ 0x5A < c.toNat)
    (others : c.toNat ∉ [0x130, 0x131, 0x17F, 0x212A]) : foldCase c = c := by
  have apart : ∀ d : Char, d.toNat ∈ [0x130, 0x131, 0x17F, 0x212A] → c ≠ d := by
    intro d listed same
    rw [same] at others
    exact others listed
  have first : c ≠ '\u0130' := apart _ (by decide)
  have second : c ≠ '\u0131' := apart _ (by decide)
  have third : c ≠ '\u017f' := apart _ (by decide)
  have fourth : c ≠ '\u212a' := apart _ (by decide)
  have lower : ¬(65 ≤ c.val ∧ c.val ≤ 90) := by
    rw [UInt32.le_iff_toNat_le, UInt32.le_iff_toNat_le]
    intro upper
    have above : 0x41 ≤ c.toNat := upper.1
    have below : c.toNat ≤ 0x5A := upper.2
    omega
  have kept : c.toLower = c := dif_neg lower
  simp [foldCase, first, second, third, fourth, kept]

/-- A digit has no case. -/
theorem foldCase_of_isDigit {c : Char} (digit : c.isDigit = true) : foldCase c = c := by
  obtain ⟨_, high⟩ := bounds_of_isDigit digit
  apply foldCase_eq_self
  · omega
  · simp only [List.mem_cons, List.not_mem_nil, or_false]
    omega

/-- The values of white space. -/
theorem toNat_of_isSpace {c : Char} (space : isSpace c = true) :
    c.toNat ≤ 0x20 ∨ c.toNat ∈ [0x85, 0xA0, 0x1680, 0x2028, 0x2029, 0x202F, 0x205F, 0x3000] ∨
      0x2000 ≤ c.toNat ∧ c.toNat ≤ 0x200A := by
  simp only [isSpace, isLineBreak, List.mem_cons, List.not_mem_nil, or_false, Bool.or_eq_true,
    decide_eq_true_eq, Bool.and_eq_true] at space ⊢
  omega

/-- White space has no case. -/
theorem foldCase_of_isSpace {c : Char} (space : isSpace c = true) : foldCase c = c := by
  have values := toNat_of_isSpace space
  simp only [List.mem_cons, List.not_mem_nil, or_false] at values
  apply foldCase_eq_self
  · omega
  · simp only [List.mem_cons, List.not_mem_nil, or_false]
    omega

/-- A line break is white space. -/
theorem isSpace_of_isLineBreak {c : Char} (ends : isLineBreak c = true) : isSpace c = true := by
  simp [isSpace, ends]

/-- No word has white space. -/
theorem isWord_of_isSpace (isalnum : Char → Bool) {c : Char} (space : isSpace c = true) :
    isWord isalnum c = false := by
  have other : c ≠ '_' := by
    intro same
    rw [same] at space
    contradiction
  simp [isWord, space, other]

/-- A letter of a literal is not white space. -/
theorem foldCase_ne_of_isSpace {c expected : Char} (space : isSpace c = true)
    (letter : isSpace expected = false) : foldCase c ≠ expected := by
  rw [foldCase_of_isSpace space]
  intro same
  rw [same, letter] at space
  contradiction

/-- A literal takes a text of its letters. -/
theorem matchPieces_ignoreCase (text : String) (subject : List Char)
    (folded : subject.map foldCase = text.toList) (pieces : List (Piece Char))
    (rest : List Char) :
    Regex.matchPieces (ignoreCase text ++ pieces) (subject ++ rest) =
      Regex.matchPieces pieces rest := by
  rw [ignoreCase, ← folded]
  clear folded
  induction subject with
  | nil => rfl
  | cons c subject ih =>
      simp only [List.map_cons, List.cons_append, Regex.matchPieces, decide_true, if_true]
      exact ih

/-- A literal without white space does not continue into white space. -/
theorem severed_ignoreCase {text : String} {c : Char} {rest : List Char}
    {pieces : List (Piece Char)} (letters : (text.toList.all fun d => !isSpace d) = true)
    (space : isSpace c = true) (severed : Regex.Severed (c :: rest) pieces) :
    Regex.Severed (c :: rest) (ignoreCase text ++ pieces) := by
  rw [ignoreCase]
  generalize text.toList = word at letters ⊢
  induction word with
  | nil => exact severed
  | cons expected word ih =>
      simp only [List.all_cons, Bool.and_eq_true, Bool.not_eq_true'] at letters
      constructor
      · simp [Regex.matchPieces, foldCase_ne_of_isSpace space letters.1]
      · exact ih letters.2

end Mintarr.Lib.Text
