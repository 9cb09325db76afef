import Mintarr.Lib.Codecs
import Mintarr.Lib.PyValue

/-!
# JSON documents

Which texts and byte strings `json.loads` accepts.  Only acceptance is of interest: no value is
built.  A byte string may be in UTF-8, UTF-16 or UTF-32, and half of a surrogate pair is a
character like any other.
-/

namespace Mintarr.Lib

namespace Py.CodePoint

/-- `chr(value)`. -/
def ofNat (value : Nat) : CodePoint :=
  if half : 0xD800 ≤ value ∧ value < 0xE000 then .surrogate ⟨value - 0xD800, by omega⟩
  else .char (Char.ofNat value)

/-- A character between two others. -/
def within (low high : Char) : CodePoint → Bool
  | char c => low ≤ c && c ≤ high
  | surrogate _ => false

end Py.CodePoint

namespace Json

open Py

/-! ## Encodings -/

/-- An encoding of a document. -/
inductive Encoding where
  | utf8
  | utf16 (big : Bool)
  | utf32 (big : Bool)
  deriving DecidableEq, Repr

/-- `json.detect_encoding`, with the bytes behind the mark that the codec drops. -/
def detectEncoding (bytes : Bytes) : Encoding × Bytes :=
  if [0x00, 0x00, 0xFE, 0xFF].isPrefixOf bytes then (.utf32 true, bytes.drop 4)
  else if [0xFF, 0xFE, 0x00, 0x00].isPrefixOf bytes then (.utf32 false, bytes.drop 4)
  else if [0xFE, 0xFF].isPrefixOf bytes then (.utf16 true, bytes.drop 2)
  else if [0xFF, 0xFE].isPrefixOf bytes then (.utf16 false, bytes.drop 2)
  else if [0xEF, 0xBB, 0xBF].isPrefixOf bytes then (.utf8, bytes.drop 3)
  else
    match bytes with
    | first :: second :: third :: fourth :: _ =>
        if first = 0 then (if second ≠ 0 then .utf16 true else .utf32 true, bytes)
        else if second = 0 then
          (if third ≠ 0 ∨ fourth ≠ 0 then .utf16 false else .utf32 false, bytes)
        else (.utf8, bytes)
    | [first, second] =>
        if first = 0 then (.utf16 true, bytes)
        else if second = 0 then (.utf16 false, bytes)
        else (.utf8, bytes)
    | _ => (.utf8, bytes)

/-- The code points of UTF-16 code units; the half of a pair may stand by itself. -/
def pointsOfUnits : List Nat → Str
  | high :: low :: rest =>
      if (0xD800 ≤ high ∧ high < 0xDC00) ∧ 0xDC00 ≤ low ∧ low < 0xE000 then
        .ofNat (0x10000 + (high - 0xD800) * 0x400 + (low - 0xDC00)) :: pointsOfUnits rest
      else .ofNat high :: pointsOfUnits (low :: rest)
  | units => units.map .ofNat

/-- `bytes.decode` from UTF-32 of a byte order, with `surrogatepass`. -/
def decodeUtf32 (big : Bool) : Bytes → Option Str
  | [] => some []
  | first :: second :: third :: fourth :: rest => do
      let low := Utf16.unit big first second
      let high := Utf16.unit big third fourth
      let value := if big then low * 0x10000 + high else high * 0x10000 + low
      if value < 0x110000 then (decodeUtf32 big rest).map (.ofNat value :: ·) else none
  | _ => none

/-- `bytes.decode(encoding, "surrogatepass")`; nothing where it raises. -/
def Encoding.decode : Encoding → Bytes → Option Str
  | .utf8, bytes => Text.decodeWith (some ∘ .ofNat) bytes
  | .utf16 big, bytes => (Utf16.unitsOf big bytes).map pointsOfUnits
  | .utf32 big, bytes => decodeUtf32 big bytes

/-! ## Scanning -/

/-- Why a document is not accepted. -/
inductive Invalid where
  /-- A `JSONDecodeError`, or the `UnicodeDecodeError` of its bytes. -/
  | malformed
  /-- The `ValueError` of an integer with so many digits. -/
  | integer (digits : Nat)
  deriving DecidableEq, Repr

/-- What follows a part of a document. -/
abbrev Scan := Except Invalid Str

/-- The white space between tokens. -/
def skipSpace (text : Str) : Str :=
  text.dropWhile fun point => point ∈ [.char ' ', .char '\t', .char '\n', .char '\r']

def isDigit (point : CodePoint) : Bool := CodePoint.within '0' '9' point

def isHexDigit (point : CodePoint) : Bool :=
  isDigit point || CodePoint.within 'A' 'F' point || CodePoint.within 'a' 'f' point

/-- The characters that may be escaped by themselves. -/
def escapes : Str := ['"', '\\', '/', 'b', 'f', 'n', 'r', 't'].map .char

/-- What follows a string whose opening quote was read. -/
def scanString : Str → Scan
  | [] => .error .malformed
  | .char '"' :: rest => .ok rest
  | .char '\\' :: .char 'u' :: a :: b :: c :: d :: rest =>
      if [a, b, c, d].all isHexDigit then scanString rest else .error .malformed
  | .char '\\' :: escaped :: rest =>
      if escaped ∈ escapes then scanString rest else .error .malformed
  | point :: rest =>
      if CodePoint.within '\x00' '\x1F' point then .error .malformed else scanString rest

/-- The words that stand for a value. -/
def words : List (List Char) :=
  [['n', 'u', 'l', 'l'], ['t', 'r', 'u', 'e'], ['f', 'a', 'l', 's', 'e'], ['N', 'a', 'N'],
    ['I', 'n', 'f', 'i', 'n', 'i', 't', 'y'], ['-', 'I', 'n', 'f', 'i', 'n', 'i', 't', 'y']]

/-- What follows a word. -/
def scanWord (text : Str) (word : List Char) : Option Str :=
  if (word.map .char).isPrefixOf text then some (text.drop word.length) else none

/-- What follows an exponent; it may be missing. -/
def scanExponent : Str → Str
  | mark :: sign :: digit :: rest =>
      if mark ≠ .char 'e' ∧ mark ≠ .char 'E' then mark :: sign :: digit :: rest
      else if isDigit sign then (digit :: rest).dropWhile isDigit
      else if (sign = .char '+' ∨ sign = .char '-') ∧ isDigit digit then rest.dropWhile isDigit
      else mark :: sign :: digit :: rest
  | [mark, digit] =>
      if (mark = .char 'e' ∨ mark = .char 'E') ∧ isDigit digit then [] else [mark, digit]
  | text => text

/-- What follows a fraction; it may be missing. -/
def scanFraction : Str → Str
  | .char '.' :: digit :: rest =>
      if isDigit digit then rest.dropWhile isDigit else .char '.' :: digit :: rest
  | text => text

/-- What follows a number without its sign. -/
def scanDigits : Str → Scan
  | [] => .error .malformed
  | first :: rest =>
      if isDigit first then
        let next := if first = .char '0' then rest else rest.dropWhile isDigit
        let stop := scanExponent (scanFraction next)
        let digits := 1 + rest.length - next.length
        -- Only an integer is read by `int`.
        if stop.length = next.length ∧ Text.maxStrDigits < digits then .error (.integer digits)
        else .ok stop
      else .error .malformed

/-- What follows a number. -/
def scanNumber : Str → Scan
  | .char '-' :: rest => scanDigits rest
  | text => scanDigits text

/-- What the scanner stands before. -/
inductive Expected where
  | value
  /-- A key of an object, and what follows up to its end. -/
  | member
  /-- A value of an array, and what follows up to its end. -/
  | element
  deriving DecidableEq, Repr

/-- What follows the expected part of a document. -/
def scan : Nat → Expected → Str → Scan
  | 0, _, _ => .error .malformed
  | fuel + 1, .value, text =>
      match text with
      | [] => .error .malformed
      | .char '"' :: rest => scanString rest
      | .char '{' :: rest =>
          match skipSpace rest with
          | .char '}' :: rest => .ok rest
          | rest => scan fuel .member rest
      | .char '[' :: rest =>
          match skipSpace rest with
          | .char ']' :: rest => .ok rest
          | rest => scan fuel .element rest
      | text =>
          match words.findSome? (scanWord text) with
          | some rest => .ok rest
          | none => scanNumber text
  | fuel + 1, .member, text =>
      match text with
      | .char '"' :: rest => do
          let rest ← scanString rest
          match skipSpace rest with
          | .char ':' :: rest => do
              let rest ← scan fuel .value (skipSpace rest)
              match skipSpace rest with
              | .char ',' :: rest => scan fuel .member (skipSpace rest)
              | .char '}' :: rest => .ok rest
              | _ => .error .malformed
          | _ => .error .malformed
      | _ => .error .malformed
  | fuel + 1, .element, text => do
      let rest ← scan fuel .value text
      match skipSpace rest with
      | .char ',' :: rest => scan fuel .element (skipSpace rest)
      | .char ']' :: rest => .ok rest
      | _ => .error .malformed

/-- `json.loads` of a text. The first of two calls reads a character, so twice the length is fuel
enough. A mark at the front of the text is no white space. -/
def loads (text : Str) : Except Invalid Unit := do
  let rest ← scan (2 * text.length + 1) .value (skipSpace text)
  if skipSpace rest = [] then .ok () else .error .malformed

/-- `json.loads` of bytes. -/
def loadsBytes (bytes : Bytes) : Except Invalid Unit :=
  let (encoding, bytes) := detectEncoding bytes
  match encoding.decode bytes with
  | some text => loads text
  | none => .error .malformed

end Json

end Mintarr.Lib
