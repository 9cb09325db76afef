import Mathlib.Data.List.DropRight
import Mathlib.Data.List.Basic

/-!
# UTF-8 and base64

Texts are lists of characters and byte strings are lists of bytes.  UTF-8 is the one of the
core library, with a decoder that replaces what is malformed; base64 is the one with padding,
in groups of four digits.
-/

namespace Mintarr.Lib

/-! ## UTF-8 -/

namespace Utf8

/-- `str.encode("utf-8")`. -/
def encode (text : List Char) : List UInt8 :=
  text.flatMap String.utf8EncodeChar

/-- `bytes.decode("utf-8")`. -/
def decode (bytes : List UInt8) : Option (List Char) :=
  bytes.toByteArray.utf8Decode?.map Array.toList

/-- The lead byte promises more bytes, the first of them in a range. -/
def promised (lead : Nat) : Option (Nat × Nat × Nat) :=
  if 0xC2 ≤ lead ∧ lead ≤ 0xDF then some (1, 0x80, 0xBF)
  else if lead = 0xE0 then some (2, 0xA0, 0xBF)
  else if lead = 0xED then some (2, 0x80, 0x9F)
  else if 0xE1 ≤ lead ∧ lead ≤ 0xEF then some (2, 0x80, 0xBF)
  else if lead = 0xF0 then some (3, 0x90, 0xBF)
  else if 0xF1 ≤ lead ∧ lead ≤ 0xF3 then some (3, 0x80, 0xBF)
  else if lead = 0xF4 then some (3, 0x80, 0x8F)
  else none

/-- How many bytes one replacement character stands for: the longest start of a sequence. -/
def malformed : List UInt8 → Nat
  | [] => 0
  | lead :: rest =>
      match promised lead.toNat, rest with
      | some (count, least, most), second :: others =>
          if least ≤ second.toNat ∧ second.toNat ≤ most then
            2 + ((others.take (count - 1)).takeWhile fun byte => byte.toNat / 64 = 2).length
          else 1
      | _, _ => 1

/-- Decode, with a replacement character for what is malformed; `skip` bytes still belong to
the character before. -/
def replaced : Nat → List UInt8 → List Char
  | _, [] => []
  | skip + 1, _ :: rest => replaced skip rest
  | 0, byte :: rest =>
      match (byte :: rest).toByteArray.utf8DecodeChar? 0 with
      | some c => c :: replaced (c.utf8Size - 1) rest
      | none => Char.ofNat 0xFFFD :: replaced (malformed (byte :: rest) - 1) rest

/-- `bytes.decode("utf-8", errors="replace")`. -/
def decodeReplace (bytes : List UInt8) : List Char :=
  (decode bytes).getD (replaced 0 bytes)

/-- The bytes of a text are its encoding. -/
theorem toByteArray_encode (text : List Char) : (encode text).toByteArray = text.utf8Encode :=
  rfl

/-- What was encoded is decoded. -/
@[simp] theorem decode_encode (text : List Char) : decode (encode text) = some text := by
  rw [decode, toByteArray_encode, List.utf8Decode?_utf8Encode]
  simp

/-- What is decoded is an encoding. -/
theorem encode_of_decode {bytes : List UInt8} {text : List Char}
    (decoded : decode bytes = some text) : encode text = bytes := by
  obtain ⟨chars, chars_eq, rfl⟩ := Option.map_eq_some_iff.mp decoded
  have valid : bytes.toByteArray.utf8Decode?.isSome = true := by
    rw [chars_eq]
    rfl
  have same := ByteArray.utf8Encode_get_utf8Decode? (b := bytes.toByteArray) (h := valid)
  simp only [chars_eq, Option.get_some] at same
  rw [← toByteArray_encode] at same
  have data := congrArg (fun array => array.data.toList) same
  simpa using data

@[simp] theorem decodeReplace_encode (text : List Char) : decodeReplace (encode text) = text := by
  rw [decodeReplace, decode_encode]
  rfl

end Utf8

/-! ## base64 -/

namespace Base64

/-- The digits, in the order of their values. -/
def digits : List Char :=
  "ABCDEFGHIJKLMNOPQRSTUVWXYZabcdefghijklmnopqrstuvwxyz0123456789+/".toList

/-- The digit of a value below 64. -/
def digit (value : Nat) : Char := digits.getD value 'A'

/-- The value of a digit. -/
def value (c : Char) : Option Nat := digits.idxOf? c

/-- The four digits of 24 bits. -/
def digitsOf (group : Nat) : List Char :=
  [digit (group / 262144), digit (group / 4096 % 64), digit (group / 64 % 64),
    digit (group % 64)]

/-- The 24 bits of four digits. -/
def group (a b c d : Char) : Option Nat :=
  match value a, value b, value c, value d with
  | some a, some b, some c, some d => some (a * 262144 + b * 4096 + c * 64 + d)
  | _, _, _, _ => none

/-- The three bytes of 24 bits. -/
def bytesOf (group : Nat) : List UInt8 :=
  [UInt8.ofNat (group / 65536), UInt8.ofNat (group / 256 % 256), UInt8.ofNat (group % 256)]

/-- `b64encode`. -/
def encode : List UInt8 → List Char
  | [] => []
  | [a] => (digitsOf (a.toNat * 65536)).take 2 ++ ['=', '=']
  | [a, b] => (digitsOf (a.toNat * 65536 + b.toNat * 256)).take 3 ++ ['=']
  | a :: b :: c :: rest =>
      digitsOf (a.toNat * 65536 + b.toNat * 256 + c.toNat) ++ encode rest

/-- `a2b_base64(…, strict_mode=True)`; nothing where it raises. -/
def decode : List Char → Option (List UInt8)
  | [] => some []
  | a :: b :: c :: d :: rest =>
      if rest = [] ∧ c = '=' ∧ d = '=' then
        (group a b 'A' 'A').map fun group => (bytesOf group).take 1
      else if rest = [] ∧ d = '=' then
        (group a b c 'A').map fun group => (bytesOf group).take 2
      else
        match group a b c d, decode rest with
        | some group, some bytes => some (bytesOf group ++ bytes)
        | _, _ => none
  | _ => none

/-- A value below 64 is read from its digit, which is not the padding. -/
theorem value_digit (number : Nat) (small : number < 64) :
    value (digit number) = some number ∧ digit number ≠ '=' ∧ digit number ∈ digits := by
  have all : ∀ number < 64,
      value (digit number) = some number ∧ digit number ≠ '=' ∧ digit number ∈ digits := by
    decide +kernel
  exact all number small

/-- The bits of 24 bits' digits. -/
theorem group_digitsOf (number : Nat) (small : number < 16777216) :
    group (digit (number / 262144)) (digit (number / 4096 % 64)) (digit (number / 64 % 64))
      (digit (number % 64)) = some number := by
  have first := (value_digit (number / 262144) (by omega)).1
  have second := (value_digit (number / 4096 % 64) (by omega)).1
  have third := (value_digit (number / 64 % 64) (by omega)).1
  have fourth := (value_digit (number % 64) (by omega)).1
  simp only [group, first, second, third, fourth, Option.some.injEq]
  omega

/-- The bytes of three bytes' bits. -/
theorem bytesOf_group (a b c : UInt8) :
    bytesOf (a.toNat * 65536 + b.toNat * 256 + c.toNat) = [a, b, c] := by
  have b_lt := b.toNat_lt
  have c_lt := c.toNat_lt
  have first : (a.toNat * 65536 + b.toNat * 256 + c.toNat) / 65536 = a.toNat := by omega
  have second : (a.toNat * 65536 + b.toNat * 256 + c.toNat) / 256 % 256 = b.toNat := by omega
  have third : (a.toNat * 65536 + b.toNat * 256 + c.toNat) % 256 = c.toNat := by omega
  simp only [bytesOf, first, second, third, UInt8.ofNat_toNat]

/-- The digit of no bits. -/
theorem digit_zero : digit 0 = 'A' := rfl

/-- What was encoded is decoded. -/
@[simp] theorem decode_encode (bytes : List UInt8) : decode (encode bytes) = some bytes := by
  induction bytes using encode.induct with
  | case1 => rfl
  | case2 a =>
      have a_lt := a.toNat_lt
      have whole := group_digitsOf (a.toNat * 65536) (by omega)
      have third : a.toNat * 65536 / 64 % 64 = 0 := by omega
      have fourth : a.toNat * 65536 % 64 = 0 := by omega
      rw [third, fourth, digit_zero] at whole
      have bytes := bytesOf_group a 0 0
      simp only [UInt8.toNat_zero, Nat.zero_mul, Nat.add_zero] at bytes
      simp [encode, decode, digitsOf, whole, bytes]
  | case3 a b =>
      have a_lt := a.toNat_lt
      have b_lt := b.toNat_lt
      have whole := group_digitsOf (a.toNat * 65536 + b.toNat * 256) (by omega)
      have padding := (value_digit
        ((a.toNat * 65536 + b.toNat * 256) / 64 % 64) (by omega)).2.1
      have fourth : (a.toNat * 65536 + b.toNat * 256) % 64 = 0 := by omega
      rw [fourth, digit_zero] at whole
      have bytes := bytesOf_group a b 0
      simp only [UInt8.toNat_zero, Nat.add_zero] at bytes
      simp [encode, decode, digitsOf, whole, bytes, padding]
  | case4 a b c rest ih =>
      have a_lt := a.toNat_lt
      have b_lt := b.toNat_lt
      have c_lt := c.toNat_lt
      have whole := group_digitsOf
        (a.toNat * 65536 + b.toNat * 256 + c.toNat) (by omega)
      have padding := (value_digit
        ((a.toNat * 65536 + b.toNat * 256 + c.toNat) % 64) (by omega)).2.1
      simp [encode, decode, digitsOf, whole, ih, padding, bytesOf_group]

/-- An encoding is made of digits and of the padding to whole groups. -/
theorem exists_encode_eq (bytes : List UInt8) :
    ∃ body count, encode bytes = body ++ List.replicate count '=' ∧
      (∀ c ∈ body, c ∈ digits) ∧ count < 4 ∧ (body.length + count) % 4 = 0 ∧
      (bytes ≠ [] → body ≠ []) := by
  have listed : ∀ {group : Nat}, group < 16777216 → ∀ c ∈ digitsOf group, c ∈ digits := by
    intro group small c c_mem
    simp only [digitsOf, List.mem_cons, List.not_mem_nil, or_false] at c_mem
    rcases c_mem with rfl | rfl | rfl | rfl <;> exact (value_digit _ (by omega)).2.2
  induction bytes using encode.induct with
  | case1 => exact ⟨[], 0, rfl, by simp, by simp, rfl, by simp⟩
  | case2 a =>
      have a_lt := a.toNat_lt
      refine ⟨(digitsOf (a.toNat * 65536)).take 2, 2, rfl, ?_, by simp, by simp [digitsOf],
        by simp [digitsOf]⟩
      intro c c_mem
      exact listed (by omega) c (List.mem_of_mem_take c_mem)
  | case3 a b =>
      have a_lt := a.toNat_lt
      have b_lt := b.toNat_lt
      refine ⟨(digitsOf (a.toNat * 65536 + b.toNat * 256)).take 3, 1, rfl, ?_, by simp,
        by simp [digitsOf], by simp [digitsOf]⟩
      intro c c_mem
      exact listed (by omega) c (List.mem_of_mem_take c_mem)
  | case4 a b c rest ih =>
      have a_lt := a.toNat_lt
      have b_lt := b.toNat_lt
      have c_lt := c.toNat_lt
      obtain ⟨body, count, rest_eq, body_digits, count_lt, whole, _⟩ := ih
      refine ⟨digitsOf (a.toNat * 65536 + b.toNat * 256 + c.toNat) ++ body, count, ?_, ?_,
        count_lt, ?_, by simp [digitsOf]⟩
      · rw [encode, rest_eq, List.append_assoc]
      · intro d d_mem
        rcases List.mem_append.mp d_mem with first | later
        · exact listed (by omega) d first
        · exact body_digits d later
      · simp only [List.length_append, digitsOf, List.length_cons, List.length_nil]
        omega

/-! ### The alphabet for URLs -/

/-- The digit of the URL-safe alphabet. -/
def toUrl (c : Char) : Char := if c = '+' then '-' else if c = '/' then '_' else c

/-- The translation of `altchars` back to the standard alphabet. -/
def fromUrl (c : Char) : Char := if c = '-' then '+' else if c = '_' then '/' else c

/-- The characters of URL-safe tokens. -/
def isUrl (c : Char) : Bool := c.isAlphanum || c = '_' || c = '-'

set_option maxRecDepth 2000 in
/-- The digits survive the translation. -/
theorem url_digit {c : Char} (c_mem : c ∈ digits) :
    fromUrl (toUrl c) = c ∧ isUrl (toUrl c) = true := by
  have all : (digits.all fun c => fromUrl (toUrl c) = c ∧ isUrl (toUrl c) = true) = true := by
    decide
  exact of_decide_eq_true (List.all_eq_true.mp all c c_mem)

/-- `urlsafe_b64encode`. -/
def urlsafeEncode (bytes : List UInt8) : List Char := (encode bytes).map toUrl

/-- `b64decode(…, altchars=b"-_", validate=True)`. -/
def urlsafeDecode (text : List Char) : Option (List UInt8) := decode (text.map fromUrl)

/-- What was encoded is decoded. -/
@[simp] theorem urlsafeDecode_encode (bytes : List UInt8) :
    urlsafeDecode (urlsafeEncode bytes) = some bytes := by
  obtain ⟨body, count, encode_eq, body_digits, _⟩ := exists_encode_eq bytes
  have restored : (encode bytes).map (fromUrl ∘ toUrl) = encode bytes := by
    refine (List.map_congr_left ?_).trans (List.map_id _)
    intro c c_mem
    rw [encode_eq, List.mem_append, List.mem_replicate] at c_mem
    rcases c_mem with in_body | ⟨_, rfl⟩
    · exact (url_digit (body_digits c in_body)).1
    · rfl
  rw [urlsafeDecode, urlsafeEncode, List.map_map, restored, decode_encode]

/-- An encoding is a token and the padding to whole groups. -/
theorem exists_urlsafeEncode_eq (bytes : List UInt8) :
    ∃ token, urlsafeEncode bytes = token ++ List.replicate ((4 - token.length % 4) % 4) '=' ∧
      (∀ c ∈ token, isUrl c = true) ∧ (bytes ≠ [] → token ≠ []) := by
  obtain ⟨body, count, encode_eq, body_digits, count_lt, whole, nonempty⟩ :=
    exists_encode_eq bytes
  refine ⟨body.map toUrl, ?_, ?_, ?_⟩
  · have count_eq : (4 - body.length % 4) % 4 = count := by omega
    rw [urlsafeEncode, encode_eq, List.map_append, List.map_replicate, List.length_map, count_eq]
    rfl
  · intro c c_mem
    obtain ⟨d, d_mem, rfl⟩ := List.mem_map.mp c_mem
    exact (url_digit (body_digits d d_mem)).2
  · intro some_bytes
    simpa using nonempty some_bytes

/-- Stripping the padding of a token. -/
theorem rdropWhile_padding (token : List Char) (count : Nat)
    (unpadded : ∀ c ∈ token, isUrl c = true) :
    (token ++ List.replicate count '=').rdropWhile (fun c => c = '=') = token := by
  have stays : token.rdropWhile (fun c => c = '=') = token := by
    rw [List.rdropWhile_eq_self_iff]
    intro nonempty
    have last := unpadded _ (List.getLast_mem nonempty)
    intro padded
    rw [of_decide_eq_true padded] at last
    contradiction
  induction count with
  | zero => simpa using stays
  | succ count ih =>
      rw [List.replicate_succ', ← List.append_assoc, List.rdropWhile_concat_pos _ _ _ (by simp)]
      exact ih

end Base64

end Mintarr.Lib
