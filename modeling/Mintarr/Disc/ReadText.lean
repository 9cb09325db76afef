import Mintarr.Lib.Codecs

/-!
# Reading cue sheets and logs

`_read_text` tries three codecs in turn and keeps the first that does not raise.  Latin-1
comes last, so a Latin-1 file is read as what it is only where neither UTF-8 nor UTF-16 takes
its bytes.
-/

namespace Mintarr.Disc

open Lib

/-- `bytes.decode("utf-8-sig")`. -/
def utf8Sig (raw : List UInt8) : Option (List Char) :=
  if raw.take 3 = [0xEF, 0xBB, 0xBF] then Utf8.decode (raw.drop 3) else Utf8.decode raw

/-- `bytes.decode("utf-16")`; without a mark the byte order is the machine's. -/
def utf16 (native : Bool) (raw : List UInt8) : Option (List Char) :=
  if raw.take 2 = [0xFF, 0xFE] then Utf16.decode false (raw.drop 2)
  else if raw.take 2 = [0xFE, 0xFF] then Utf16.decode true (raw.drop 2)
  else Utf16.decode native raw

/-- `_read_text`, of a file that may fail to be read. -/
def readText (native : Bool) (limit : Nat) (file : Option (List UInt8)) : List Char :=
  match file with
  | none => []
  | some bytes =>
      let raw := bytes.take limit
      let codecs := [utf8Sig, utf16 native, fun raw => some (Latin1.decode raw)]
      (codecs.findSome? fun codec => codec raw).getD (Utf8.decodeReplace raw)

/-- `_read_text` of `cd_toc`. -/
def readCue (native : Bool) (file : Option (List UInt8)) : List Char :=
  readText native (1024 * 1024) file

/-- `_MAX_LOG_BYTES`. -/
def maxLogBytes : Nat := 5 * 1024 * 1024

/-- `_read_text` of `cd_rip_evidence` without a limit of its own. -/
def readLog (native : Bool) (file : Option (List UInt8)) : List Char :=
  readText native maxLogBytes file

/-- How a ripper stores a text: UTF-8 with or without a mark, UTF-16 of a byte order with one,
or Latin-1. -/
inductive Encoding where
  | utf8 (marked : Bool)
  | utf16 (big : Bool)
  | latin1
  deriving DecidableEq, Repr

namespace Encoding

/-- The bytes of a stored text. -/
def bytes : Encoding → List Char → List UInt8
  | utf8 marked, text => (if marked then [0xEF, 0xBB, 0xBF] else []) ++ Utf8.encode text
  | utf16 big, text => (if big then [0xFE, 0xFF] else [0xFF, 0xFE]) ++ Utf16.encode big text
  | latin1, text => Latin1.encode text

end Encoding

/-- However a text is stored within the limit, it is read back. -/
def ReadsBack (native : Bool) (limit : Nat) (text : List Char) : Prop :=
  ∀ encoding : Encoding, (encoding.bytes text).length ≤ limit →
    readText native limit (some (encoding.bytes text)) = text

/-- The text is ASCII, or its Latin-1 bytes are neither UTF-8 nor UTF-16. -/
def Unmistakable (native : Bool) (text : List Char) : Prop :=
  (∀ c ∈ text, c.toNat < 0x80) ∨
    utf8Sig (Latin1.encode text) = none ∧ utf16 native (Latin1.encode text) = none

/-- Within the limit the codecs see the whole file. -/
theorem readText_eq (native : Bool) {limit : Nat} {raw : List UInt8}
    (within : raw.length ≤ limit) :
    readText native limit (some raw) =
      (utf8Sig raw).getD ((utf16 native raw).getD (Latin1.decode raw)) := by
  rw [readText, List.take_of_length_le within]
  cases first : utf8Sig raw with
  | some text => simp [first]
  | none => cases second : utf16 native raw <;> simp [first, second]

/-! ## Files with a mark, and UTF-8 -/

/-- A mark of UTF-8 is skipped. -/
theorem utf8Sig_marked (text : List Char) :
    utf8Sig ([0xEF, 0xBB, 0xBF] ++ Utf8.encode text) = some text := by
  have marked : ([0xEF, 0xBB, 0xBF] ++ Utf8.encode text).take 3 = [0xEF, 0xBB, 0xBF] := rfl
  rw [utf8Sig, if_pos marked]
  exact Utf8.decode_encode text

/-- Without a mark a text is read that does not begin like one. -/
theorem utf8Sig_unmarked {text : List Char} (markless : text.head? ≠ some '\uFEFF') :
    utf8Sig (Utf8.encode text) = some text := by
  have unmarked : ¬(Utf8.encode text).take 3 = [0xEF, 0xBB, 0xBF] := by
    intro marked
    cases text with
    | nil => contradiction
    | cons c text =>
        rw [Utf8.encode, List.flatMap_cons] at marked
        rw [Utf8.eq_mark_of_take marked] at markless
        exact markless rfl
  rw [utf8Sig, if_neg unmarked]
  exact Utf8.decode_encode text

/-- Bytes with another start have no mark of UTF-8. -/
theorem utf8Sig_of_lead {lead : UInt8} {rest : List UInt8} (other : lead ≠ 0xEF) :
    utf8Sig (lead :: rest) = Utf8.decode (lead :: rest) := by
  have unmarked : ¬(lead :: rest).take 3 = [0xEF, 0xBB, 0xBF] := by
    intro marked
    rw [List.take_succ_cons, List.cons.injEq] at marked
    exact other marked.1
  rw [utf8Sig, if_neg unmarked]

/-- UTF-8 of Latin-1 characters is taken for UTF-8. -/
theorem utf8Sig_encode {text : List Char} (representable : Latin1.Representable text) :
    utf8Sig (Utf8.encode text) = some text := by
  cases text with
  | nil => exact Utf8.decode_encode []
  | cons c text =>
      obtain ⟨lead, others, char_eq, _, below⟩ := Utf8.head_utf8EncodeChar c
      have small := representable c List.mem_cons_self
      have other : lead ≠ 0xEF := by
        intro same
        have lead_lt := below (by omega)
        rw [same] at lead_lt
        contradiction
      have encoded : Utf8.encode (c :: text) = lead :: (others ++ Utf8.encode text) := by
        rw [Utf8.encode, List.flatMap_cons, char_eq]
        rfl
      rw [← Utf8.decode_encode (c :: text), encoded, utf8Sig_of_lead other]

/-- The file is a text in UTF-8 within the limit, with a mark or else with another start. -/
def StoredUtf8 (limit : Nat) (file : Option (List UInt8)) (text : List Char) : Prop :=
  ∃ marked, file = some ((Encoding.utf8 marked).bytes text) ∧
    ((Encoding.utf8 marked).bytes text).length ≤ limit ∧
      (marked = false → text.head? ≠ some '\uFEFF')

/-- What is stored in UTF-8 is read. -/
theorem readText_of_storedUtf8 (native : Bool) {limit : Nat} {file : Option (List UInt8)}
    {text : List Char} (stored : StoredUtf8 limit file text) :
    readText native limit file = text := by
  obtain ⟨marked, rfl, within, markless⟩ := stored
  rw [readText_eq native within]
  cases marked with
  | true => rw [Encoding.bytes, if_pos rfl, utf8Sig_marked, Option.getD_some]
  | false =>
      rw [Encoding.bytes, if_neg Bool.false_ne_true, List.nil_append,
        utf8Sig_unmarked (markless rfl), Option.getD_some]

/-- UTF-16 with a mark is no UTF-8, and is read in its byte order. -/
theorem utf16_marked (native big : Bool) (text : List Char) :
    utf8Sig ((Encoding.utf16 big).bytes text) = none ∧
      utf16 native ((Encoding.utf16 big).bytes text) = some text := by
  cases big with
  | true =>
      constructor
      · refine (utf8Sig_of_lead (by decide)).trans (Utf8.decode_eq_none_of_lead _ (by decide))
      · exact Utf16.decode_encode true text
  | false =>
      constructor
      · refine (utf8Sig_of_lead (by decide)).trans (Utf8.decode_eq_none_of_lead _ (by decide))
      · exact Utf16.decode_encode false text

/-! ## Latin-1 files -/

/-- Only ASCII texts have the same bytes in UTF-8 and Latin-1. -/
theorem ascii_of_utf8Sig {text : List Char}
    (same : utf8Sig (Latin1.encode text) = some text) : ∀ c ∈ text, c.toNat < 0x80 := by
  have longer := Utf8.length_le_length_encode text
  rw [utf8Sig] at same
  split_ifs at same with marked
  · -- what follows a mark is too short to be the text
    have encoded := congrArg List.length (Utf8.encode_of_decode same)
    have three := congrArg List.length marked
    simp only [List.length_drop, List.length_take, Latin1.length_encode, List.length_cons,
      List.length_nil] at encoded three
    omega
  · have encoded := congrArg List.length (Utf8.encode_of_decode same)
    rw [Latin1.length_encode] at encoded
    exact Utf8.ascii_of_length_encode encoded

/-- UTF-16 gives too few characters. -/
theorem ascii_of_utf16 {native : Bool} {text : List Char}
    (same : utf16 native (Latin1.encode text) = some text) : ∀ c ∈ text, c.toNat < 0x80 := by
  have halved : 2 * text.length ≤ text.length := by
    rw [utf16] at same
    split_ifs at same with little big
    · have taken := Utf16.length_le_of_decode same
      rw [List.length_drop, Latin1.length_encode] at taken
      omega
    · have taken := Utf16.length_le_of_decode same
      rw [List.length_drop, Latin1.length_encode] at taken
      omega
    · have taken := Utf16.length_le_of_decode same
      rwa [Latin1.length_encode] at taken
  have empty : text = [] := List.length_eq_zero_iff.mp (by omega)
  rw [empty]
  simp

/-- ASCII texts are read back. -/
theorem utf8Sig_of_ascii {text : List Char} (ascii : ∀ c ∈ text, c.toNat < 0x80) :
    utf8Sig (Latin1.encode text) = some text := by
  rw [Latin1.encode_eq_utf8 ascii]
  apply utf8Sig_encode
  intro c c_mem
  have small := ascii c c_mem
  omega

/-- A Latin-1 file is read back exactly when it cannot be mistaken. -/
theorem readText_latin1_iff (native : Bool) {limit : Nat} {text : List Char}
    (representable : Latin1.Representable text) (within : text.length ≤ limit) :
    readText native limit (some (Latin1.encode text)) = text ↔ Unmistakable native text := by
  have short : (Latin1.encode text).length ≤ limit := by rwa [Latin1.length_encode]
  rw [readText_eq native short, Unmistakable]
  constructor
  · intro same
    cases first : utf8Sig (Latin1.encode text) with
    | some taken =>
        rw [first, Option.getD_some] at same
        rw [same] at first
        exact Or.inl (ascii_of_utf8Sig first)
    | none =>
        cases second : utf16 native (Latin1.encode text) with
        | some taken =>
            rw [first, second, Option.getD_none, Option.getD_some] at same
            rw [same] at second
            exact Or.inl (ascii_of_utf16 second)
        | none => exact Or.inr ⟨rfl, rfl⟩
  · intro unmistakable
    cases unmistakable with
    | inl ascii => rw [utf8Sig_of_ascii ascii, Option.getD_some]
    | inr refused =>
        rw [refused.1, refused.2, Option.getD_none, Option.getD_none,
          Latin1.decode_encode representable]

/-- Every stored form of a Latin-1 text is read back exactly when its Latin-1 bytes cannot be
mistaken for another codec's. -/
theorem readsBack_iff (native : Bool) {limit : Nat} {text : List Char}
    (representable : Latin1.Representable text) (within : text.length ≤ limit) :
    ReadsBack native limit text ↔ Unmistakable native text := by
  have latin1 := readText_latin1_iff native representable within
  constructor
  · intro readsBack
    apply latin1.mp
    apply readsBack .latin1
    rwa [Encoding.bytes, Latin1.length_encode]
  · intro unmistakable encoding fits
    rw [readText_eq native fits]
    cases encoding with
    | utf8 marked =>
        cases marked with
        | true => rw [Encoding.bytes, if_pos rfl, utf8Sig_marked, Option.getD_some]
        | false =>
            rw [Encoding.bytes, if_neg Bool.false_ne_true, List.nil_append,
              utf8Sig_encode representable, Option.getD_some]
    | utf16 big =>
        obtain ⟨refused, read⟩ := utf16_marked native big text
        rw [refused, read, Option.getD_none, Option.getD_some]
    | latin1 =>
        rw [← readText_eq native fits]
        exact latin1.mpr unmistakable

/-- A text of one accented letter is read back. -/
theorem readsBack_accent : ReadsBack false maxLogBytes ['é'] := by
  have representable : Latin1.Representable ['é'] := by
    intro c c_mem
    rw [List.mem_singleton] at c_mem
    rw [c_mem]
    decide
  exact (readsBack_iff false representable (by decide)).mpr (Or.inr (by decide))

/-- With a second letter its Latin-1 bytes are a character of UTF-16. -/
theorem not_readsBack_accent : ¬ReadsBack false maxLogBytes ['é', 'a'] := by
  intro readsBack
  have mistaken : readText false maxLogBytes (some (Encoding.latin1.bytes ['é', 'a'])) =
      ['\u61e9'] := by
    rw [readText_eq false (by decide)]
    decide
  have same := readsBack .latin1 (by decide)
  rw [mistaken] at same
  contradiction

end Mintarr.Disc
