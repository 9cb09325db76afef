import Mintarr.Lib.Encodings
import Mintarr.Lib.Markup

/-!
# The source pointer of the indexer

A search result points to its source by a URL with the source id in base64url, and the file
behind that URL points to it by `meta` elements, which come back as the body of an upload.
Texts are lists of characters, which are the strings that UTF-8 can encode.
-/

namespace Mintarr.Newznab

open Lib

abbrev Text := List Char

/-! ## base64url tokens -/

/-- What the decoder raises, and what it catches. -/
inductive Raised where
  | valueError (message : String)
  | binasciiError
  | unicodeDecodeError
  deriving DecidableEq, Repr

/-- `_b64url_encode`. -/
def b64urlEncode (s : Text) : Text :=
  (Base64.urlsafeEncode (Utf8.encode s)).rdropWhile fun c => c = '='

/-- `b64decode` of the padded token, and `decode`. -/
def decodePadded (padded : Text) : Except Raised Text :=
  match Base64.urlsafeDecode padded with
  | none => .error .binasciiError
  | some bytes =>
      match Utf8.decode bytes with
      | none => .error .unicodeDecodeError
      | some text => .ok text

/-- `_b64url_decode`. -/
def b64urlDecode (s : Text) : Except Raised Text :=
  if s = [] then .error (.valueError "empty base64url token")
  else if !s.all Base64.isUrl then .error (.valueError "invalid base64url token")
  else
    let pad := List.replicate ((4 - s.length % 4) % 4) '='
    match decodePadded (s ++ pad) with
    | .ok text => .ok text
    | .error .binasciiError => .error (.valueError "invalid base64url token")
    | .error .unicodeDecodeError => .error (.valueError "invalid base64url token")
    | .error error => .error error

/-- The text that a token stands for, if any. -/
def Denotes (token text : Text) : Prop :=
  Base64.urlsafeDecode (token ++ List.replicate ((4 - token.length % 4) % 4) '=') =
    some (Utf8.encode text)

/-! ## The pointer file -/

/-- The shape of `_SOURCE_NAME_RE`. -/
def isSourceName (source : Text) : Bool :=
  source ≠ [] && source.all fun c => c.isLower || c.isDigit || c = '_'

/-- `_nzb_pointer`, at the second `now`. -/
def nzbPointer (now : Nat) (source sourceId : Text) : Text :=
  let safeSource := Markup.xmlEscape source
  let safeId := Markup.xmlEscape sourceId
  let safeName := Markup.xmlEscape (source ++ ':' :: sourceId)
  "<?xml version=\"1.0\" encoding=\"UTF-8\"?>\n".toList ++
  ("<nzb xmlns=\"http://www.newzbin.com/DTD/2003/nzb\">\n".toList ++
  ("  <head>\n".toList ++
  ("    <meta type=\"name\">".toList ++ (safeName ++ ("</meta>\n".toList ++
  ("    <meta type=\"tidalhires_source\">".toList ++ (safeSource ++ ("</meta>\n".toList ++
  ("    <meta type=\"tidalhires_source_id\">".toList ++ (safeId ++ ("</meta>\n".toList ++
  ("  </head>\n".toList ++
  ("  <file poster=\"tidalhires@local\" date=\"".toList ++ (Nat.toDigits 10 now ++
  ("\" subject=\"".toList ++ (safeName ++ (" yEnc (1/1)\">\n".toList ++
  ("    <groups><group>tidalhires.fake</group></groups>\n".toList ++
  ("    <segments><segment bytes=\"1\" number=\"1\">tidalhires-".toList ++ (safeSource ++
  ("@local</segment></segments>\n".toList ++
  ("  </file>\n".toList ++ "</nzb>".toList))))))))))))))))))))))

/-! ## Reading an upload -/

/-- `\s`. -/
def isSpace (c : Char) : Bool :=
  (0x9 ≤ c.toNat ∧ c.toNat ≤ 0xd) ∨ (0x1c ≤ c.toNat ∧ c.toNat ≤ 0x20) ∨ c.toNat = 0x85 ∨
    c.toNat = 0xa0 ∨ c.toNat = 0x1680 ∨ (0x2000 ≤ c.toNat ∧ c.toNat ≤ 0x200a) ∨
    c.toNat = 0x2028 ∨ c.toNat = 0x2029 ∨ c.toNat = 0x202f ∨ c.toNat = 0x205f ∨
    c.toNat = 0x3000

/-- `_NZB_META_RE`. -/
def nzbMeta : Regex Char :=
  [ Regex.literal "<meta".toList ++ .run isSpace 1 none false ::
      (Regex.literal "type=\"".toList ++ .run (fun c => c ≠ '"') 1 none true ::
        (Regex.literal "\">".toList ++ .run (fun c => c ≠ '<') 0 none true ::
          Regex.literal "</meta>".toList)) ]

section Reading

-- the named references of `html.entities.html5`, and the digits of `\d`
variable (html5 : Text → Option Text) (isDigit : Char → Bool)

/-- `_parse_nzb_meta`: the items of the dictionary, in the order in which they are set. -/
def parseNzbMeta (content : Text) : List (Text × Text) :=
  (Regex.finditer nzbMeta content).filterMap fun found =>
    match found.groups with
    | [key, value] => some (key, Markup.htmlUnescape html5 value)
    | _ => none

/-- `dict.get`: the item that was set last. -/
def metaGet (meta_ : List (Text × Text)) (key : Text) : Option Text :=
  meta_.reverse.lookup key

/-- The expression of the numeric fallbacks. -/
def tidalNumber : Regex Char :=
  [ Regex.literal "tidal".toList ++ [.run (fun c => c = ':') 0 (some 1) false,
      .run (fun c => isSpace c ∨ c = '_' ∨ c = '-') 0 (some 1) false,
      .run isDigit 6 (some 12) true] ]

/-- A numeric fallback. -/
def searchTidal (text : Text) : Option (Text × Text) :=
  match Regex.search (tidalNumber isDigit) text with
  | some { groups := [number], .. } => some ("tidal".toList, number)
  | _ => none

/-- What one upload says; nothing where it cannot be read. -/
def parseUpload : Option (List UInt8) → Option (Text × Text)
  | none => none
  | some body =>
      let content := Utf8.decodeReplace body
      let meta_ := parseNzbMeta html5 content
      let source := (metaGet meta_ "tidalhires_source".toList).getD []
      let sourceId := (metaGet meta_ "tidalhires_source_id".toList).getD []
      if source ≠ [] ∧ sourceId ≠ [] then some (source, sourceId)
      else searchTidal isDigit content

/-- `_parse_source_name`, where the adapters have these names. -/
def parseSourceName (adapters : List Text) (name : Text) (files : List (Option (List UInt8))) :
    Option (Text × Text) :=
  match adapters.find? fun adapter => (adapter ++ [':']).isPrefixOf name with
  | some adapter => some (adapter, name.drop (adapter ++ [':']).length)
  | none =>
      match files.findSome? (parseUpload html5 isDigit) with
      | some found => some found
      | none => searchTidal isDigit name

end Reading

/-! ## Tokens -/

/-- A token is decoded if and only if it consists of base64url characters and stands for a
text. -/
theorem b64urlDecode_eq_ok_iff (token text : Text) :
    b64urlDecode token = .ok text ↔
      token ≠ [] ∧ token.all Base64.isUrl = true ∧ Denotes token text := by
  unfold b64urlDecode Denotes
  by_cases empty : token = []
  · simp [empty]
  · by_cases shaped : token.all Base64.isUrl = true
    · simp only [shaped, Bool.not_true, Bool.false_eq_true, if_false, ne_eq, empty,
        not_false_eq_true, true_and, decodePadded]
      cases bytes_eq : Base64.urlsafeDecode
          (token ++ List.replicate ((4 - token.length % 4) % 4) '=') with
      | none => simp
      | some bytes =>
          simp only [Option.some.injEq]
          constructor
          · intro decoded
            cases text_eq : Utf8.decode bytes with
            | none =>
                rw [text_eq] at decoded
                contradiction
            | some found =>
                rw [text_eq] at decoded
                cases decoded
                exact (Utf8.encode_of_decode text_eq).symm
          · intro encoded
            rw [encoded, Utf8.decode_encode]
    · simp [empty, shaped]

/-- What the decoding of a padded token can raise. -/
theorem decodePadded_cases (padded : Text) :
    (∃ text, decodePadded padded = .ok text) ∨ decodePadded padded = .error .binasciiError ∨
      decodePadded padded = .error .unicodeDecodeError := by
  unfold decodePadded
  cases Base64.urlsafeDecode padded with
  | none => exact .inr (.inl rfl)
  | some bytes =>
      cases text_eq : Utf8.decode bytes with
      | none => exact .inr (.inr (by simp [text_eq]))
      | some text => exact .inl ⟨text, by simp [text_eq]⟩

/-- Every other token raises `ValueError`. -/
theorem b64urlDecode_valueError {token : Text}
    (refused : ∀ text, b64urlDecode token ≠ .ok text) :
    ∃ message, b64urlDecode token = .error (.valueError message) := by
  unfold b64urlDecode at refused ⊢
  split_ifs with empty shaped
  · exact ⟨_, rfl⟩
  · exact ⟨_, rfl⟩
  · rw [if_neg empty, if_neg shaped] at refused
    rcases decodePadded_cases (token ++ List.replicate ((4 - token.length % 4) % 4) '=') with
      ⟨text, decoded⟩ | raised | raised
    · simp only [decoded] at refused
      exact absurd rfl (refused text)
    · simp only [raised]
      exact ⟨_, rfl⟩
    · simp only [raised]
      exact ⟨_, rfl⟩

/-- What was encoded is decoded. -/
theorem b64urlDecode_encode {s : Text} (nonempty : s ≠ []) :
    b64urlDecode (b64urlEncode s) = .ok s := by
  obtain ⟨token, encode_eq, shaped, token_nonempty⟩ :=
    Base64.exists_urlsafeEncode_eq (Utf8.encode s)
  have token_eq : b64urlEncode s = token := by
    rw [b64urlEncode, encode_eq, Base64.rdropWhile_padding token _ shaped]
  have bytes_nonempty : Utf8.encode s ≠ [] := by
    intro empty
    have decoded := Utf8.decode_encode s
    rw [empty] at decoded
    exact nonempty (Option.some.inj decoded).symm
  rw [token_eq, b64urlDecode_eq_ok_iff]
  refine ⟨token_nonempty bytes_nonempty, List.all_eq_true.mpr shaped, ?_⟩
  rw [Denotes, ← encode_eq, Base64.urlsafeDecode_encode]

/-! ## The pointer -/

/-- A `meta` element. -/
def metaElement (key value : Text) : Text :=
  "<meta type=\"".toList ++ (key ++ ("\">".toList ++ (value ++ "</meta>".toList)))

/-- Its text. -/
theorem metaElement_eq (key value : Text) :
    metaElement key value =
      "<meta type=\"".toList ++ (key ++ ("\">".toList ++ (value ++ "</meta>".toList))) :=
  rfl

/-- The `meta` elements are matched. -/
theorem firstMatch_metaElement {key value : Text} (rest : Text) (nonempty : key ≠ [])
    (unquoted : '"' ∉ key) (unbracketed : '<' ∉ value) :
    Regex.firstMatch nzbMeta (metaElement key value ++ rest) =
      some { text := metaElement key value, groups := [key, value] } := by
  have closing : Regex.matchPieces (Regex.literal "</meta>".toList) ("</meta>".toList ++ rest) =
      some ([], rest) := by
    rw [← List.append_nil (Regex.literal "</meta>".toList), Regex.matchPieces_literal]
    rfl
  have values : Regex.matchPieces
      (.run (fun c => c ≠ '<') 0 none true :: Regex.literal "</meta>".toList)
      (value ++ ("</meta>".toList ++ rest)) = some ([value], rest) := by
    have reached : Regex.reach (fun c => c ≠ '<') none (value ++ ("</meta>".toList ++ rest)) =
        value.length := by
      apply Regex.reach_append
      · intro c c_mem
        apply decide_eq_true
        rintro rfl
        exact unbracketed c_mem
      · exact .inr ⟨rfl, by simp⟩
    exact Regex.matchPieces_run reached (Nat.zero_le _) closing
  have keys : Regex.matchPieces
      (.run (fun c => c ≠ '"') 1 none true :: (Regex.literal "\">".toList ++
        .run (fun c => c ≠ '<') 0 none true :: Regex.literal "</meta>".toList))
      (key ++ ("\">".toList ++ (value ++ ("</meta>".toList ++ rest)))) =
      some ([key, value], rest) := by
    have reached : Regex.reach (fun c => c ≠ '"') none
        (key ++ ("\">".toList ++ (value ++ ("</meta>".toList ++ rest)))) = key.length := by
      apply Regex.reach_append
      · intro c c_mem
        apply decide_eq_true
        rintro rfl
        exact unquoted c_mem
      · exact .inr ⟨rfl, by simp⟩
    apply Regex.matchPieces_run reached (List.length_pos_iff.mpr nonempty)
    rw [Regex.matchPieces_literal]
    exact values
  have spaced : Regex.matchPieces
      (.run isSpace 1 none false :: (Regex.literal "type=\"".toList ++
        .run (fun c => c ≠ '"') 1 none true :: (Regex.literal "\">".toList ++
          .run (fun c => c ≠ '<') 0 none true :: Regex.literal "</meta>".toList)))
      ([' '] ++ ("type=\"".toList ++
        (key ++ ("\">".toList ++ (value ++ ("</meta>".toList ++ rest)))))) =
      some ([key, value], rest) := by
    have reached : Regex.reach isSpace none ([' '] ++ ("type=\"".toList ++
        (key ++ ("\">".toList ++ (value ++ ("</meta>".toList ++ rest)))))) = [' '].length := by
      apply Regex.reach_append
      · intro c c_mem
        rw [List.mem_singleton.mp c_mem]
        rfl
      · exact .inr ⟨rfl, by simp⟩
    apply Regex.matchPieces_run reached (by simp)
    rw [Regex.matchPieces_literal]
    exact keys
  apply Regex.firstMatch_eq_some
  have split_ : metaElement key value ++ rest = "<meta".toList ++ ([' '] ++ ("type=\"".toList ++
      (key ++ ("\">".toList ++ (value ++ ("</meta>".toList ++ rest)))))) := by
    simp [metaElement_eq]
  rw [split_, Regex.matchPieces_literal]
  exact spaced

/-- The expression begins with its tag. -/
theorem begins_nzbMeta : Regex.Begins "<meta".toList nzbMeta := by
  intro pieces pieces_mem
  rw [nzbMeta, List.mem_singleton] at pieces_mem
  exact ⟨_, pieces_mem⟩

section RoundTrip

variable {html5 : Text → Option Text}

/-- The items of a `meta` element come first. -/
theorem parseNzbMeta_metaElement {key value : Text} (rest : Text) (nonempty : key ≠ [])
    (unquoted : '"' ∉ key) (unbracketed : '<' ∉ value) :
    parseNzbMeta html5 (metaElement key value ++ rest) =
      (key, Markup.htmlUnescape html5 value) :: parseNzbMeta html5 rest := by
  have found := firstMatch_metaElement rest nonempty unquoted unbracketed
  rw [parseNzbMeta, Regex.finditer_match found (by simp [metaElement_eq])]
  rfl

/-- A text without a tag has no items. -/
theorem parseNzbMeta_clear {segment : Text} (rest : Text)
    (cleared : Regex.clear "<meta".toList segment = true) :
    parseNzbMeta html5 (segment ++ rest) = parseNzbMeta html5 rest := by
  rw [parseNzbMeta, Regex.finditer_clear rest begins_nzbMeta cleared]
  rfl

/-- A text without a bracket has no items. -/
theorem parseNzbMeta_unbracketed {segment : Text} (rest : Text) (unbracketed : '<' ∉ segment) :
    parseNzbMeta html5 (segment ++ rest) = parseNzbMeta html5 rest := by
  apply parseNzbMeta_clear rest
  have tag : "<meta".toList = '<' :: "meta".toList := by decide
  rw [tag]
  exact Regex.clear_of_not_mem unbracketed

/-- The file is made of three `meta` elements and of texts without a tag. -/
theorem nzbPointer_eq (now : Nat) (source sourceId : Text) :
    nzbPointer now source sourceId =
      "<?xml version=\"1.0\" encoding=\"UTF-8\"?>\n".toList ++
      ("<nzb xmlns=\"http://www.newzbin.com/DTD/2003/nzb\">\n  <head>\n    ".toList ++
      (metaElement "name".toList (Markup.xmlEscape (source ++ ':' :: sourceId)) ++
      ("\n    ".toList ++
      (metaElement "tidalhires_source".toList (Markup.xmlEscape source) ++
      ("\n    ".toList ++
      (metaElement "tidalhires_source_id".toList (Markup.xmlEscape sourceId) ++
      ("\n  </head>\n  <file poster=\"tidalhires@local\" date=\"".toList ++
      (Nat.toDigits 10 now ++
      ("\" subject=\"".toList ++
      (Markup.xmlEscape (source ++ ':' :: sourceId) ++
      (" yEnc (1/1)\">\n    <groups><group>tidalhires.fake</group></groups>\n".toList ++
      ("    <segments><segment bytes=\"1\" number=\"1\">tidalhires-".toList ++
      (Markup.xmlEscape source ++
      "@local</segment></segments>\n  </file>\n</nzb>".toList))))))))))))) := by
  have head : "<nzb xmlns=\"http://www.newzbin.com/DTD/2003/nzb\">\n  <head>\n    " =
      "<nzb xmlns=\"http://www.newzbin.com/DTD/2003/nzb\">\n" ++ ("  <head>\n" ++ "    ") := rfl
  have name : "    <meta type=\"name\">" = "    " ++ ("<meta type=\"" ++ ("name" ++ "\">")) := rfl
  have itsSource : "    <meta type=\"tidalhires_source\">" =
      "    " ++ ("<meta type=\"" ++ ("tidalhires_source" ++ "\">")) := rfl
  have itsId : "    <meta type=\"tidalhires_source_id\">" =
      "    " ++ ("<meta type=\"" ++ ("tidalhires_source_id" ++ "\">")) := rfl
  have close : "</meta>\n" = "</meta>" ++ "\n" := rfl
  have line : "\n    " = "\n" ++ "    " := rfl
  have file : "\n  </head>\n  <file poster=\"tidalhires@local\" date=\"" =
      "\n" ++ ("  </head>\n" ++ "  <file poster=\"tidalhires@local\" date=\"") := rfl
  have groups : " yEnc (1/1)\">\n    <groups><group>tidalhires.fake</group></groups>\n" =
      " yEnc (1/1)\">\n" ++ "    <groups><group>tidalhires.fake</group></groups>\n" := rfl
  have tail : "@local</segment></segments>\n  </file>\n</nzb>" =
      "@local</segment></segments>\n" ++ ("  </file>\n" ++ "</nzb>") := rfl
  delta nzbPointer
  simp only [metaElement_eq, head, name, itsSource, itsId, close, line, file, groups, tail,
    String.toList_append, List.append_assoc]

/-- The items of the file. -/
theorem parseNzbMeta_nzbPointer (now : Nat) (source sourceId : Text) :
    parseNzbMeta html5 (nzbPointer now source sourceId) =
      [ ("name".toList,
          Markup.htmlUnescape html5 (Markup.xmlEscape (source ++ ':' :: sourceId))),
        ("tidalhires_source".toList, Markup.htmlUnescape html5 (Markup.xmlEscape source)),
        ("tidalhires_source_id".toList,
          Markup.htmlUnescape html5 (Markup.xmlEscape sourceId)) ] := by
  have escaped := Markup.not_mem_xmlEscape
  have digits : '<' ∉ Nat.toDigits 10 now := by
    intro bracket
    have digit := Nat.isDigit_of_mem_toDigits (by decide) (by decide) bracket
    contradiction
  have ended : parseNzbMeta html5 "@local</segment></segments>\n  </file>\n</nzb>".toList = [] := by
    rw [← List.append_nil "@local</segment></segments>\n  </file>\n</nzb>".toList,
      parseNzbMeta_clear [] (by decide +kernel)]
    rfl
  rw [nzbPointer_eq, parseNzbMeta_clear _ (by decide +kernel),
    parseNzbMeta_clear _ (by decide +kernel),
    parseNzbMeta_metaElement _ (by decide) (by decide) (escaped _),
    parseNzbMeta_clear _ (by decide +kernel),
    parseNzbMeta_metaElement _ (by decide) (by decide) (escaped _),
    parseNzbMeta_clear _ (by decide +kernel),
    parseNzbMeta_metaElement _ (by decide) (by decide) (escaped _),
    parseNzbMeta_clear _ (by decide +kernel), parseNzbMeta_unbracketed _ digits,
    parseNzbMeta_unbracketed _ (by decide +kernel), parseNzbMeta_unbracketed _ (escaped _),
    parseNzbMeta_clear _ (by decide +kernel), parseNzbMeta_clear _ (by decide +kernel),
    parseNzbMeta_unbracketed _ (escaped _), ended]

/-- What an upload of the file says. -/
theorem parseUpload_nzbPointer (isDigit : Char → Bool) (now : Nat) {source sourceId : Text}
    (ampersand : html5 "amp;".toList = some ['&']) (less : html5 "lt;".toList = some ['<'])
    (greater : html5 "gt;".toList = some ['>']) (source_nonempty : source ≠ [])
    (id_nonempty : sourceId ≠ []) :
    parseUpload html5 isDigit (some (Utf8.encode (nzbPointer now source sourceId))) =
      some (source, sourceId) := by
  have undone := Markup.htmlUnescape_xmlEscape ampersand less greater
  simp only [parseUpload, Utf8.decodeReplace_encode, parseNzbMeta_nzbPointer, undone, metaGet]
  simp [List.lookup_cons, source_nonempty, id_nonempty]

/-- The source and its id survive the round trip over the indexer. -/
theorem source_round_trip (html5 : Text → Option Text) (isDigit : Char → Bool)
    (adapters : List Text) (now : Nat) (source sourceId name : Text)
    (ampersand : html5 "amp;".toList = some ['&']) (less : html5 "lt;".toList = some ['<'])
    (greater : html5 "gt;".toList = some ['>'])
    (shaped : isSourceName source = true) (nonempty : sourceId ≠ [])
    (unprefixed : ∀ adapter ∈ adapters, ¬ (adapter ++ [':']) <+: name) :
    b64urlDecode (b64urlEncode sourceId) = .ok sourceId ∧
      parseSourceName html5 isDigit adapters name
          [some (Utf8.encode (nzbPointer now source sourceId))] = some (source, sourceId) ∧
      ∀ token,
        (∀ text, b64urlDecode token = .ok text →
          token.all Base64.isUrl = true ∧ Denotes token text) ∧
        ((∀ text, b64urlDecode token ≠ .ok text) →
          ∃ message, b64urlDecode token = .error (.valueError message)) := by
  refine ⟨b64urlDecode_encode nonempty, ?_, ?_⟩
  · have source_nonempty : source ≠ [] := by
      rintro rfl
      contradiction
    have direct : adapters.find? (fun adapter => (adapter ++ [':']).isPrefixOf name) = none := by
      rw [List.find?_eq_none]
      intro adapter adapter_mem prefixed
      exact unprefixed adapter adapter_mem (List.isPrefixOf_iff_prefix.mp prefixed)
    rw [parseSourceName, direct]
    simp only [List.findSome?_cons,
      parseUpload_nzbPointer isDigit now ampersand less greater source_nonempty nonempty]
  · intro token
    constructor
    · intro text decoded
      exact ((b64urlDecode_eq_ok_iff token text).mp decoded).2
    · intro refused
      exact b64urlDecode_valueError refused

/-- A table of the named references that are escaped. -/
def fewReferences (name : Text) : Option Text :=
  [("amp;".toList, ['&']), ("lt;".toList, ['<']), ("gt;".toList, ['>'])].lookup name

theorem source_round_trip_of_reference :
    parseSourceName fewReferences Char.isDigit ["tidal".toList] "upload.nzb".toList
        [some (Utf8.encode (nzbPointer 0 "local".toList "&amp; tidal:123456".toList))] =
      some ("local".toList, "&amp; tidal:123456".toList) :=
  (source_round_trip fewReferences Char.isDigit ["tidal".toList] 0 "local".toList
    "&amp; tidal:123456".toList "upload.nzb".toList (by decide) (by decide) (by decide)
    (by decide) (by decide) (by decide)).2.1

end RoundTrip

end Mintarr.Newznab
