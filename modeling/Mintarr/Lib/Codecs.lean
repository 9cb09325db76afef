import Mathlib.Data.List.Basic
import Mintarr.Lib.Encodings

/-!
# Latin-1 and UTF-16

Both codecs beside the UTF-8 of the core library, with what tells their byte strings apart:
the bytes that can begin a text, and how many bytes its characters take.
-/

namespace Mintarr.Lib

/-! ## The first bytes of UTF-8 -/

namespace Utf8

/-- No character begins with a byte above the lead bytes, and only one of three bytes with a
byte between those of two and of four. -/
theorem head_utf8EncodeChar (c : Char) :
    ∃ lead rest, String.utf8EncodeChar c = lead :: rest ∧ lead.toNat < 0xF8 ∧
      (c.toNat < 0x800 → lead.toNat < 0xE0) := by
  have value : c.val.toNat = c.toNat := rfl
  rw [String.utf8EncodeChar]
  split_ifs with one two three
  · refine ⟨_, _, rfl, ?_, ?_⟩ <;> simp <;> omega
  · refine ⟨_, _, rfl, ?_, ?_⟩ <;> simp <;> omega
  · refine ⟨_, _, rfl, ?_, ?_⟩
    · simp
      omega
    · omega
  · refine ⟨_, _, rfl, ?_, ?_⟩
    · simp
      omega
    · omega

/-- Only one character has the bytes of a mark. -/
theorem eq_mark_of_take {c : Char} {rest : List UInt8}
    (marked : (String.utf8EncodeChar c ++ rest).take 3 = [0xEF, 0xBB, 0xBF]) : c = '\uFEFF' := by
  have value : c.val.toNat = c.toNat := rfl
  have mark : '\uFEFF'.toNat = 0xFEFF := rfl
  apply Char.toNat_inj.mp
  rw [mark]
  rw [String.utf8EncodeChar] at marked
  split_ifs at marked with one two three
  · have lead := congrArg UInt8.toNat (List.cons.inj marked).1
    simp at lead
    omega
  · have lead := congrArg UInt8.toNat (List.cons.inj marked).1
    simp at lead
    omega
  · simp only [List.cons_append, List.take_succ_cons, List.cons.injEq] at marked
    have lead := congrArg UInt8.toNat marked.1
    have middle := congrArg UInt8.toNat marked.2.1
    have low := congrArg UInt8.toNat marked.2.2.1
    simp at lead middle low
    omega
  · have lead := congrArg UInt8.toNat (List.cons.inj marked).1
    simp at lead
    omega

/-- No text begins with a byte above the lead bytes. -/
theorem decode_eq_none_of_lead {lead : UInt8} (rest : List UInt8) (above : 0xF8 ≤ lead.toNat) :
    decode (lead :: rest) = none := by
  cases decoded : decode (lead :: rest) with
  | none => rfl
  | some text =>
      have encoded := encode_of_decode decoded
      cases text with
      | nil => contradiction
      | cons c text =>
          obtain ⟨first, others, char_eq, below, _⟩ := head_utf8EncodeChar c
          rw [encode, List.flatMap_cons, char_eq, List.cons_append, List.cons.injEq] at encoded
          rw [encoded.1] at below
          omega

/-- The bytes of the first character come before those of the others. -/
theorem length_encode_cons (c : Char) (text : List Char) :
    (encode (c :: text)).length = c.utf8Size + (encode text).length := by
  rw [encode, List.flatMap_cons, List.length_append, String.length_utf8EncodeChar]
  rfl

/-- A character takes at least one byte. -/
theorem length_le_length_encode (text : List Char) : text.length ≤ (encode text).length := by
  induction text with
  | nil => exact Nat.le_refl 0
  | cons c text ih =>
      have positive := c.utf8Size_pos
      rw [length_encode_cons, List.length_cons]
      omega

/-- Only ASCII characters take one byte each. -/
theorem ascii_of_length_encode {text : List Char} (short : (encode text).length = text.length) :
    ∀ c ∈ text, c.toNat < 0x80 := by
  induction text with
  | nil => simp
  | cons c text ih =>
      have positive := c.utf8Size_pos
      have longer := length_le_length_encode text
      rw [length_encode_cons, List.length_cons] at short
      have one : c.utf8Size = 1 := by omega
      have head : c.toNat ≤ 0x7F := UInt32.le_iff_toNat_le.mp (Char.utf8Size_eq_one_iff.mp one)
      intro d d_mem
      cases List.mem_cons.mp d_mem with
      | inl same =>
          rw [same]
          omega
      | inr in_text => exact ih (by omega) d in_text

/-- An ASCII character is its byte. -/
theorem utf8EncodeChar_of_ascii {c : Char} (ascii : c.toNat < 0x80) :
    String.utf8EncodeChar c = [UInt8.ofNat c.toNat] := by
  have small : c.val.toNat ≤ 0x7F := by
    have value : c.val.toNat = c.toNat := rfl
    omega
  rw [String.utf8EncodeChar]
  exact if_pos small

end Utf8

/-! ## Latin-1 -/

namespace Latin1

/-- The text is made of Latin-1 characters. -/
def Representable (text : List Char) : Prop := ∀ c ∈ text, c.toNat < 0x100

/-- `str.encode("latin-1")` of a representable text. -/
def encode (text : List Char) : List UInt8 := text.map fun c => UInt8.ofNat c.toNat

/-- `bytes.decode("latin-1")`. -/
def decode (bytes : List UInt8) : List Char := bytes.map fun byte => Char.ofNat byte.toNat

@[simp] theorem length_encode (text : List Char) : (encode text).length = text.length :=
  List.length_map _

/-- What was encoded is decoded. -/
theorem decode_encode {text : List Char} (representable : Representable text) :
    decode (encode text) = text := by
  rw [decode, encode, List.map_map]
  refine (List.map_congr_left ?_).trans (List.map_id _)
  intro c c_mem
  have byte : (UInt8.ofNat c.toNat).toNat = c.toNat :=
    UInt8.toNat_ofNat_of_lt' (representable c c_mem)
  rw [Function.comp_apply, byte, Char.ofNat_toNat]
  rfl

/-- On ASCII texts Latin-1 and UTF-8 agree. -/
theorem encode_eq_utf8 {text : List Char} (ascii : ∀ c ∈ text, c.toNat < 0x80) :
    encode text = Utf8.encode text := by
  induction text with
  | nil => rfl
  | cons c text ih =>
      have tail := ih fun d d_mem => ascii d (List.mem_cons_of_mem c d_mem)
      rw [encode, Utf8.encode] at tail ⊢
      rw [List.map_cons, List.flatMap_cons, tail,
        Utf8.utf8EncodeChar_of_ascii (ascii c List.mem_cons_self)]
      rfl

end Latin1

/-! ## UTF-16 -/

namespace Utf16

/-- The code unit of two bytes. -/
def unit (big : Bool) (first second : UInt8) : Nat :=
  if big then first.toNat * 256 + second.toNat else second.toNat * 256 + first.toNat

/-- The two bytes of a code unit. -/
def bytes (big : Bool) (unit : Nat) : List UInt8 :=
  if big then [UInt8.ofNat (unit / 256), UInt8.ofNat (unit % 256)]
  else [UInt8.ofNat (unit % 256), UInt8.ofNat (unit / 256)]

/-- The code units of a character, a pair of surrogates above the basic plane. -/
def units (c : Char) : List Nat :=
  if c.toNat < 0x10000 then [c.toNat]
  else [0xD800 + (c.toNat - 0x10000) / 0x400, 0xDC00 + (c.toNat - 0x10000) % 0x400]

/-- `str.encode` in UTF-16 of a byte order, without a mark. -/
def encode (big : Bool) (text : List Char) : List UInt8 :=
  text.flatMap fun c => (units c).flatMap (bytes big)

/-- The code units of bytes; an odd byte is left over. -/
def unitsOf (big : Bool) : List UInt8 → Option (List Nat)
  | [] => some []
  | [_] => none
  | first :: second :: rest => (unitsOf big rest).map (unit big first second :: ·)

/-- The characters of code units, after the first half of a pair or none. -/
def chars : Option Nat → List Nat → Option (List Char)
  | none, [] => some []
  | some _, [] => none
  | none, value :: rest =>
      if value < 0xD800 ∨ 0xE000 ≤ value then (chars none rest).map (Char.ofNat value :: ·)
      else if value < 0xDC00 then chars (some value) rest
      else none
  | some high, value :: rest =>
      if 0xDC00 ≤ value ∧ value < 0xE000 then
        (chars none rest).map
          (Char.ofNat (0x10000 + (high - 0xD800) * 0x400 + (value - 0xDC00)) :: ·)
      else none

/-- `bytes.decode` from UTF-16 of a byte order; nothing where it raises. -/
def decode (big : Bool) (bytes : List UInt8) : Option (List Char) :=
  (unitsOf big bytes).bind (chars none)

/-- What was split is put together. -/
theorem unitsOf_bytes (big : Bool) {value : Nat} (small : value < 0x10000) (rest : List UInt8) :
    unitsOf big (bytes big value ++ rest) = (unitsOf big rest).map (value :: ·) := by
  have high : (UInt8.ofNat (value / 256)).toNat = value / 256 :=
    UInt8.toNat_ofNat_of_lt' (by change value / 256 < 256; omega)
  have low : (UInt8.ofNat (value % 256)).toNat = value % 256 :=
    UInt8.toNat_ofNat_of_lt' (by change value % 256 < 256; omega)
  have whole : value / 256 * 256 + value % 256 = value := by omega
  cases big with
  | true =>
      have unit_eq : unit true (UInt8.ofNat (value / 256)) (UInt8.ofNat (value % 256)) =
          value := by
        rw [unit, if_pos rfl, high, low, whole]
      change (unitsOf true rest).map _ = _
      rw [unit_eq]
  | false =>
      have unit_eq : unit false (UInt8.ofNat (value % 256)) (UInt8.ofNat (value / 256)) =
          value := by
        rw [unit, if_neg Bool.false_ne_true, high, low, whole]
      change (unitsOf false rest).map _ = _
      rw [unit_eq]

/-- The code units of a character fit two bytes. -/
theorem lt_of_mem_units {c : Char} {value : Nat} (value_mem : value ∈ units c) :
    value < 0x10000 := by
  have valid : c.toNat < 0xD800 ∨ 0xDFFF < c.toNat ∧ c.toNat < 0x110000 := c.valid
  rw [units] at value_mem
  split_ifs at value_mem with basic
  · rw [List.mem_singleton] at value_mem
    omega
  · rw [List.mem_cons, List.mem_singleton] at value_mem
    omega

/-- The code units of an encoding. -/
theorem unitsOf_encode (big : Bool) (text : List Char) :
    unitsOf big (encode big text) = some (text.flatMap units) := by
  have split : ∀ values : List Nat, (∀ value ∈ values, value < 0x10000) → ∀ rest,
      unitsOf big (values.flatMap (bytes big) ++ rest) =
        (unitsOf big rest).map (values ++ ·) := by
    intro values
    induction values with
    | nil => simp
    | cons value values ih =>
        intro small rest
        have tail := ih (fun other other_mem => small other (List.mem_cons_of_mem value other_mem))
        rw [List.flatMap_cons, List.append_assoc,
          unitsOf_bytes big (small value List.mem_cons_self), tail, Option.map_map]
        rfl
  induction text with
  | nil => rfl
  | cons c text ih =>
      rw [encode] at ih ⊢
      rw [List.flatMap_cons, split (units c) (fun value value_mem => lt_of_mem_units value_mem), ih]
      rfl

/-- A character is read from its code units. -/
theorem chars_units (c : Char) (rest : List Nat) :
    chars none (units c ++ rest) = (chars none rest).map (c :: ·) := by
  have valid : c.toNat < 0xD800 ∨ 0xDFFF < c.toNat ∧ c.toNat < 0x110000 := c.valid
  rw [units]
  split_ifs with basic
  · have plain : c.toNat < 0xD800 ∨ 0xE000 ≤ c.toNat := by omega
    simp [chars, plain]
  · have paired : ¬(0xD800 + (c.toNat - 0x10000) / 0x400 < 0xD800 ∨
        0xE000 ≤ 0xD800 + (c.toNat - 0x10000) / 0x400) := by omega
    have leads : 0xD800 + (c.toNat - 0x10000) / 0x400 < 0xDC00 := by omega
    have trails : 0xDC00 ≤ 0xDC00 + (c.toNat - 0x10000) % 0x400 ∧
        0xDC00 + (c.toNat - 0x10000) % 0x400 < 0xE000 := by omega
    have whole : 0x10000 + (0xD800 + (c.toNat - 0x10000) / 0x400 - 0xD800) * 0x400 +
        (0xDC00 + (c.toNat - 0x10000) % 0x400 - 0xDC00) = c.toNat := by omega
    rw [List.cons_append, List.cons_append, List.nil_append, chars, if_neg paired,
      if_pos leads, chars, if_pos trails, whole, Char.ofNat_toNat]

/-- What was encoded is decoded. -/
theorem decode_encode (big : Bool) (text : List Char) :
    decode big (encode big text) = some text := by
  rw [decode, unitsOf_encode, Option.bind_some]
  induction text with
  | nil => rfl
  | cons c text ih =>
      rw [List.flatMap_cons, chars_units, ih]
      rfl

/-- Every character has a code unit of its own. -/
theorem length_le_of_chars {pending : Option Nat} {values : List Nat} {text : List Char}
    (read : chars pending values = some text) : text.length ≤ values.length := by
  induction values generalizing pending text with
  | nil =>
      cases pending with
      | none =>
          rw [chars, Option.some.injEq] at read
          rw [← read]
          exact Nat.le_refl 0
      | some high => contradiction
  | cons value values ih =>
      have one_more : ∀ {c : Char}, (chars none values).map (c :: ·) = some text →
          text.length ≤ (value :: values).length := by
        intro c mapped
        obtain ⟨tail, tail_eq, rfl⟩ := Option.map_eq_some_iff.mp mapped
        exact Nat.succ_le_succ (ih tail_eq)
      cases pending with
      | none =>
          rw [chars] at read
          split_ifs at read
          · exact one_more read
          · exact Nat.le_succ_of_le (ih read)
      | some high =>
          rw [chars] at read
          split_ifs at read
          exact one_more read

/-- A code unit takes two bytes. -/
theorem length_of_unitsOf {big : Bool} {bytes : List UInt8} {values : List Nat}
    (split : unitsOf big bytes = some values) : bytes.length = 2 * values.length := by
  induction bytes using unitsOf.induct generalizing values with
  | case1 =>
      rw [unitsOf, Option.some.injEq] at split
      rw [← split]
      rfl
  | case2 => contradiction
  | case3 first second rest ih =>
      rw [unitsOf] at split
      obtain ⟨tail, tail_eq, rfl⟩ := Option.map_eq_some_iff.mp split
      have length := ih tail_eq
      rw [List.length_cons, List.length_cons, List.length_cons]
      omega

/-- A character takes at least two bytes. -/
theorem length_le_of_decode {big : Bool} {bytes : List UInt8} {text : List Char}
    (decoded : decode big bytes = some text) : 2 * text.length ≤ bytes.length := by
  obtain ⟨values, split, read⟩ := Option.bind_eq_some_iff.mp decoded
  have chars_le := length_le_of_chars read
  have length := length_of_unitsOf split
  omega

end Utf16

end Mintarr.Lib
