import Mintarr.Lib.Characters
import Mintarr.Lib.Encodings
import Mintarr.Lib.Markup

/-!
# Percent encoding

`quote_plus` of `urllib.parse`, which writes the bytes of a text into a URL, and the readers of what
it writes.
-/

namespace Mintarr.Lib.Percent

/-! ## Quoting -/

/-- A byte that stands for itself. -/
def isSafe (byte : UInt8) : Bool :=
  (Char.ofNat byte.toNat).isAlphanum || Char.ofNat byte.toNat ∈ "_.-~".toList

def hexDigit (value : Nat) : Char := "0123456789ABCDEF".toList.getD value '0'

def quoteByte (byte : UInt8) : List Char :=
  if byte = 0x20 then ['+']
  else if isSafe byte then [Char.ofNat byte.toNat]
  else ['%', hexDigit (byte.toNat / 16), hexDigit (byte.toNat % 16)]

/-- `quote_plus`. -/
def quotePlus (text : List Char) : List Char := (Utf8.encode text).flatMap quoteByte

/-! ## Unquoting -/

/-- The byte whose two hexadecimal digits come next. -/
def hexByte (input : List Char) : Option UInt8 :=
  match input with
  | high :: low :: _ =>
      (Markup.hexValue high).bind fun high =>
        (Markup.hexValue low).map fun low => UInt8.ofNat (high * 16 + low)
  | _ => none

/-- `unquote_to_bytes`, after some characters. -/
def unquoteFrom : Nat → List Char → List UInt8
  | _, [] => []
  | skip + 1, _ :: rest => unquoteFrom skip rest
  | 0, c :: rest =>
      if c = '%' then
        match hexByte rest with
        | some byte => byte :: unquoteFrom 2 rest
        | none => String.utf8EncodeChar c ++ unquoteFrom 0 rest
      else String.utf8EncodeChar c ++ unquoteFrom 0 rest

def plusToSpace (c : Char) : Char := if c = '+' then ' ' else c

/-- `unquote_plus`, with what is made of bytes that are no text. -/
def unquotePlus (errors : List UInt8 → List Char) (input : List Char) : List Char :=
  let bytes := unquoteFrom 0 (input.map plusToSpace)
  (Utf8.decode bytes).getD (errors bytes)

/-! ## What was quoted -/

section RoundTrip

variable {rest : List Char} {c : Char}

theorem hexDigit_spec {value : Nat} (small : value < 16) :
    Markup.hexValue (hexDigit value) = some value ∧ plusToSpace (hexDigit value) = hexDigit value ∧
      (hexDigit value).isAlphanum = true := by
  have all : ∀ value < 16, Markup.hexValue (hexDigit value) = some value ∧
      plusToSpace (hexDigit value) = hexDigit value ∧ (hexDigit value).isAlphanum = true := by
    decide
  exact all value small

theorem unquoteFrom_cons (plain : c ≠ '%') :
    unquoteFrom 0 (c :: rest) = String.utf8EncodeChar c ++ unquoteFrom 0 rest := by
  rw [unquoteFrom]
  exact if_neg plain

/-- Two digits are read as their byte. -/
theorem unquoteFrom_percent (byte : UInt8) :
    unquoteFrom 0 ('%' :: hexDigit (byte.toNat / 16) :: hexDigit (byte.toNat % 16) :: rest) =
      byte :: unquoteFrom 0 rest := by
  have bound := byte.toNat_lt
  obtain ⟨high, -⟩ := @hexDigit_spec (byte.toNat / 16) (by omega)
  obtain ⟨low, -⟩ := @hexDigit_spec (byte.toNat % 16) (by omega)
  have whole : byte.toNat / 16 * 16 + byte.toNat % 16 = byte.toNat := by omega
  have digits : hexByte (hexDigit (byte.toNat / 16) :: hexDigit (byte.toNat % 16) :: rest) =
      some byte := by
    rw [hexByte, high, low, Option.bind_some, Option.map_some, whole, UInt8.ofNat_toNat]
  simp [unquoteFrom, digits]

/-- A safe character is one of ASCII that neither reader changes. -/
theorem plain_of_isSafe {byte : UInt8} (safe : isSafe byte = true) :
    String.utf8EncodeChar (Char.ofNat byte.toNat) = [byte] ∧ Char.ofNat byte.toNat ≠ '%' ∧
      plusToSpace (Char.ofNat byte.toNat) = Char.ofNat byte.toNat := by
  have all : ∀ value < 256, isSafe (UInt8.ofNat value) = true →
      String.utf8EncodeChar (Char.ofNat value) = [UInt8.ofNat value] ∧ Char.ofNat value ≠ '%' ∧
        plusToSpace (Char.ofNat value) = Char.ofNat value := by
    decide +kernel
  have found := all byte.toNat byte.toNat_lt
  rw [UInt8.ofNat_toNat] at found
  exact found safe

/-- Every byte but the blank is read as it was, and no `+` stands for it. -/
theorem unquoteFrom_quoteByte {byte : UInt8} (solid : byte ≠ 0x20) :
    unquoteFrom 0 (quoteByte byte ++ rest) = byte :: unquoteFrom 0 rest ∧
      (quoteByte byte).map plusToSpace = quoteByte byte := by
  rw [quoteByte, if_neg solid]
  split_ifs with safe
  · obtain ⟨single, plain, kept⟩ := plain_of_isSafe safe
    rw [List.singleton_append, unquoteFrom_cons plain, single, List.map_singleton, kept]
    exact ⟨rfl, rfl⟩
  · have bound := byte.toNat_lt
    have high := (@hexDigit_spec (byte.toNat / 16) (by omega)).2.1
    have low := (@hexDigit_spec (byte.toNat % 16) (by omega)).2.1
    have mark : plusToSpace '%' = '%' := rfl
    simp only [List.map_cons, List.map_nil, high, low, mark, List.cons_append, List.nil_append,
      unquoteFrom_percent, and_self]

theorem unquoteFrom_quoteBytes (bytes : List UInt8) :
    unquoteFrom 0 ((bytes.flatMap quoteByte).map plusToSpace ++ rest) =
      bytes ++ unquoteFrom 0 rest := by
  induction bytes with
  | nil => rfl
  | cons byte bytes ih =>
      rw [List.flatMap_cons, List.map_append, List.append_assoc]
      by_cases blank : byte = 0x20
      · subst blank
        exact (unquoteFrom_cons (by decide)).trans (congrArg (0x20 :: ·) ih)
      · obtain ⟨read, kept⟩ := @unquoteFrom_quoteByte
          ((bytes.flatMap quoteByte).map plusToSpace ++ rest) byte blank
        rw [kept, read, ih]
        rfl

/-- What was quoted is read back. -/
theorem unquotePlus_quotePlus (errors : List UInt8 → List Char) (text : List Char) :
    unquotePlus errors (quotePlus text) = text := by
  have read := @unquoteFrom_quoteBytes [] (Utf8.encode text)
  rw [List.append_nil, unquoteFrom, List.append_nil] at read
  rw [unquotePlus, quotePlus, read, Utf8.decode_encode]
  rfl

/-- A text of characters that stand for themselves is quoted as it is. -/
theorem quotePlus_eq_self {text : List Char}
    (safe : ∀ c ∈ text, c.isAlphanum = true ∨ c ∈ "_.-~".toList) : quotePlus text = text := by
  have all : ∀ code < 0x80, (Char.ofNat code).isAlphanum = true ∨ Char.ofNat code ∈ "_.-~".toList →
      (String.utf8EncodeChar (Char.ofNat code)).flatMap quoteByte = [Char.ofNat code] := by
    decide +kernel
  have marks : "_.-~".toList.all (fun c => c.toNat < 0x80) = true := by decide
  have each : ∀ c ∈ text, (String.utf8EncodeChar c).flatMap quoteByte = [c] := by
    intro c listed
    have ascii : c.toNat < 0x80 := by
      rcases safe c listed with letter | mark
      · exact Text.lt_of_isAlphanum letter
      · exact of_decide_eq_true (List.all_eq_true.mp marks c mark)
    have found := all c.toNat ascii
    rw [Char.ofNat_toNat] at found
    exact found (safe c listed)
  rw [quotePlus, Utf8.encode, List.flatMap_assoc, List.flatMap_congr each, List.flatMap_singleton']

/-- Without percent signs a text is its bytes. -/
theorem unquoteFrom_of_not_mem {text : List Char} (plain : '%' ∉ text) :
    unquoteFrom 0 (text ++ rest) = Utf8.encode text ++ unquoteFrom 0 rest := by
  induction text with
  | nil => rfl
  | cons c text ih =>
      rw [List.mem_cons, not_or] at plain
      have bytes : Utf8.encode (c :: text) = String.utf8EncodeChar c ++ Utf8.encode text := rfl
      rw [List.cons_append, unquoteFrom_cons (Ne.symm plain.1), ih plain.2, bytes,
        List.append_assoc]

/-- A character of a quoted text: one that no part of a URL is cut at. -/
def isQuoted (c : Char) : Bool := c.isAlphanum || c ∈ "_.-~+%".toList

theorem isQuoted_of_mem_quoteByte {byte : UInt8} (member : c ∈ quoteByte byte) :
    isQuoted c = true := by
  have bound := byte.toNat_lt
  rw [quoteByte] at member
  split_ifs at member with space safe
  · cases List.mem_singleton.mp member
    rfl
  · cases List.mem_singleton.mp member
    rw [isSafe, Bool.or_eq_true] at safe
    rw [isQuoted, Bool.or_eq_true]
    apply safe.imp id
    intro listed
    have split : "_.-~+%".toList = "_.-~".toList ++ "+%".toList := by decide
    rw [decide_eq_true_eq] at listed ⊢
    rw [split]
    exact List.mem_append_left _ listed
  · rcases List.mem_cons.mp member with rfl | digits
    · rfl
    · have digit : c.isAlphanum = true := by
        rcases List.mem_cons.mp digits with rfl | low
        · exact (hexDigit_spec (by omega)).2.2
        · cases List.mem_singleton.mp low
          exact (hexDigit_spec (by omega)).2.2
      rw [isQuoted, digit]
      rfl

theorem isQuoted_of_mem_quotePlus {text : List Char} (member : c ∈ quotePlus text) :
    isQuoted c = true := by
  obtain ⟨byte, -, inside⟩ := List.mem_flatMap.mp member
  exact isQuoted_of_mem_quoteByte inside

end RoundTrip

end Mintarr.Lib.Percent
