import Mintarr.Lib.Characters
import Mintarr.Lib.Lists
import Mintarr.Lib.Regex
import Mintarr.Policy.Adjustments

/-!
# Rip logs

`_parse_log` judges a rip by the phrases of its log: the tokens after the word "confidence",
the copies that succeeded, and the markers of errors.  A log is rendered from the results of
its tracks with any text around their phrases.
-/

namespace Mintarr.Disc

open Lib Policy

/-! ## The parser -/

/-- The second components of `_RIPPERS`. -/
inductive Ripper where
  | eac | xld | whipper | cyanrip
  deriving DecidableEq, Repr

/-- `_RIPPERS`. -/
def rippers : List (String × Ripper) :=
  [("Exact Audio Copy", .eac), ("X Lossless Decoder", .xld), ("whipper", .whipper),
    ("morituri", .whipper), ("cyanrip", .cyanrip)]

/-- `_ERROR_MARKERS`. -/
def errorMarkers : List String :=
  ["copy aborted", "there were errors", "timing problem", "missing samples",
    "rip not accurate", "no match", "track not present in database", " : ng",
    "accurately ripped (confidence 0)"]

/-- `_COPY_OK_RE` between its word boundaries. -/
def copyOk : List (Piece Char) := Text.ignoreCase "copy ok"

/-- `_XLD_TRACK_OK_RE` before its word boundary. -/
def xldTrackOk : List (Piece Char) :=
  Text.ignoreCase "track" ++
    [.run Text.isSpace 1 none false, .run Text.isDecimal 1 none false,
      .run Text.isSpace 0 none false, .one fun c => c = ':', .run Text.isSpace 0 none false] ++
    Text.ignoreCase "ok"

/-- `_AR_CONFIDENCE_RE`, on a text whose case is folded. -/
def arConfidence : Regex Char :=
  [Regex.literal "confidence".toList ++
    [.run Text.isSpace 1 none false, .run Text.isDecimal 1 none true]]

/-- `_VERSION_RE`; of two branches the one that takes more comes first. -/
def version : Regex Char :=
  let letter : List (Piece Char) := Text.ignoreCase "v"
  let number : Piece Char := .run Text.isDecimal 1 none false
  let dotted : List (Piece Char) := [.one fun c => c = '.', number]
  let beta : List (Piece Char) :=
    .run Text.isSpace 0 none false :: Text.ignoreCase "beta" ++
      [.run Text.isSpace 0 none false, number]
  let plain := [number :: dotted ++ dotted ++ beta, number :: dotted ++ dotted,
    number :: dotted ++ beta, number :: dotted]
  plain.map (letter ++ ·) ++ plain

/-- `needle in text`. -/
def occurs (needle text : List Char) : Bool := text.tails.any needle.isPrefixOf

/-- `AccurateRipResult`. -/
structure AccurateRipResult where
  present : Bool := false
  accurate : Bool := false
  minConfidence : Option Nat := none
  matched : Nat := 0
  total : Nat := 0
  deriving DecidableEq, Repr

/-- `CdRipEvidence`, as `_parse_log` builds it. -/
structure RipEvidence where
  detected : Bool
  status : RipStatus
  summary : String
  ripper : Option Ripper
  ripperVersion : Option (List Char)
  logFilename : Option String
  hasCue : Bool
  tracksCopyOk : Nat
  accuraterip : AccurateRipResult

/-- What the decision reads of the evidence. -/
def RipEvidence.read (evidence : RipEvidence) : Policy.CdRipEvidence where
  detected := evidence.detected
  status := evidence.status
  logFilename := evidence.logFilename
  accurate := evidence.accuraterip.accurate

/-- `_AR_CONFIDENCE_RE.findall(text)`. -/
def confidenceTokens (text : List Char) : List (List Char) :=
  (Regex.finditer arConfidence (text.map Text.foldCase)).flatMap fun found => found.groups

/-- `[int(m) for m in _AR_CONFIDENCE_RE.findall(text)]`; nothing where it raises. -/
def readConfidences (text : List Char) : Option (List Nat) :=
  (confidenceTokens text).mapM Text.readInt

/-- `_ALL_ACCURATE_RE.search(text)`. -/
def allAccurate (text : List Char) : Bool :=
  occurs "all tracks accurately ripped".toList (text.map Text.foldCase)

/-- What `_parse_accuraterip` makes of the confidences and of the summary of the disc. -/
def accurateRipOf (confidences : List Nat) (allAccurate : Bool) : AccurateRipResult :=
  if confidences = [] && !allAccurate then {}
  else
    let total := confidences.length
    let nonZero := confidences.filter fun confidence => 0 < confidence
    let matched := nonZero.length
    { present := true
      accurate := (allAccurate || 0 < matched) && !(matched < total : Bool)
      minConfidence := nonZero.min?
      matched
      total }

/-- `_parse_accuraterip`; nothing where it raises. -/
def parseAccuraterip (text : List Char) : Option AccurateRipResult :=
  (readConfidences text).map fun confidences => accurateRipOf confidences (allAccurate text)

/-- `_pass_summary`. -/
def passSummary (ar : AccurateRipResult) (copies : Nat) : String :=
  if ar.accurate then
    match ar.minConfidence with
    | some least => "AccurateRip-verified rip (min confidence " ++ toString least ++ ")"
    | none => "AccurateRip-verified rip"
  else "rip log present, " ++ toString copies ++ " track(s) copied OK"

section Parser

-- `str.lower`, and the characters of `\w`
variable (lower : List Char → List Char) (isWord : Char → Bool)

/-- `_ripper_from_head`. -/
def ripperFromHead (head : List Char) : Option Ripper :=
  (rippers.find? fun ripper => occurs (lower ripper.1.toList) (lower head)).map Prod.snd

/-- `_ripper_version`. -/
def ripperVersion (text : List Char) (ripper : Option Ripper) : Option (List Char) :=
  if ripper.isNone then none
  else
    let head := ['\n'].intercalate ((Text.splitlines text).take 5)
    -- The group is the match without its letter; it begins and ends with a digit, so there is
    -- nothing to strip.
    (Regex.search version head).map fun found =>
      found.text.dropWhile fun c => Text.foldCase c = 'v'

/-- How often a branch is found before a word boundary and, if `bounded`, after one; two finds
of the branches here cannot overlap. -/
def occurrences (bounded : Bool) (pieces : List (Piece Char)) : Option Char → List Char → Nat
  | _, [] => 0
  | previous, c :: rest =>
      let starts := !bounded || !previous.any isWord
      let ends := (Regex.matchPieces pieces (c :: rest)).any fun found =>
        !found.2.head?.any isWord
      (if starts && ends then 1 else 0) + occurrences bounded pieces (some c) rest

/-- `any(marker in text.lower() for marker in _ERROR_MARKERS)`. -/
def errorDetected (text : List Char) : Bool :=
  errorMarkers.any fun marker => occurs marker.toList (lower text)

/-- `_parse_log`; nothing where it raises. -/
def parseLog (text : List Char) (logFilename : String) (hasCue : Bool) : Option RipEvidence :=
  let ripper := ripperFromHead lower text
  let copies := occurrences isWord true copyOk none text +
    occurrences isWord false xldTrackOk none text
  (parseAccuraterip text).map fun ar =>
    let verdict : RipStatus × String :=
      if errorDetected lower text || (ar.present && !ar.accurate) then
        (.warn, "rip log present with errors or AccurateRip mismatch")
      else if ar.accurate || 0 < copies then (.pass, passSummary ar copies)
      else (.warn, "rip log present but no positive copy/AccurateRip evidence")
    { detected := true
      status := verdict.1
      summary := verdict.2
      ripper
      ripperVersion := ripperVersion text ripper
      logFilename := some logFilename
      hasCue
      tracksCopyOk := copies
      accuraterip := ar }

end Parser

/-! ## What the parser says -/

/-- The scan for confidences counts a track at most once. -/
theorem matched_le_total (confidences : List Nat) (allAccurate : Bool) :
    (accurateRipOf confidences allAccurate).matched ≤
      (accurateRipOf confidences allAccurate).total := by
  rw [accurateRipOf]
  split_ifs
  · exact Nat.le_refl 0
  · exact List.length_filter_le _ _

/-- A log is accurate when something is and no confidence is zero. -/
theorem accurate_accurateRipOf_iff (confidences : List Nat) (allAccurate : Bool) :
    (accurateRipOf confidences allAccurate).accurate = true ↔
      (allAccurate = true ∨ ∃ confidence ∈ confidences, 0 < confidence) ∧ 0 ∉ confidences := by
  have positive : 0 < (confidences.filter fun confidence => 0 < confidence).length ↔
      ∃ confidence ∈ confidences, 0 < confidence := by
    simp [List.length_pos_iff_exists_mem]
  have all_positive : (confidences.filter fun confidence => 0 < confidence).length <
      confidences.length ↔ 0 ∈ confidences := by
    rw [List.length_filter_lt_length_iff_exists]
    simp
  rw [accurateRipOf]
  split_ifs with absent
  · rw [Bool.and_eq_true, decide_eq_true_eq, Bool.not_eq_true'] at absent
    simp [absent]
  · simp only [Bool.and_eq_true, Bool.or_eq_true, decide_eq_true_eq, Bool.not_eq_true',
      decide_eq_false_iff_not, positive, all_positive]

/-- The values of the tokens, however long these are. -/
def confidences (text : List Char) : List Nat := (confidenceTokens text).map Text.int

/-- The tokens are read where none of them is too long. -/
theorem readConfidences_eq_some {text : List Char}
    (short : ∀ token ∈ confidenceTokens text, token.length ≤ Text.maxStrDigits) :
    readConfidences text = some (confidences text) := by
  rw [readConfidences, confidences]
  generalize confidenceTokens text = tokens at short ⊢
  induction tokens with
  | nil => rfl
  | cons token tokens ih =>
      rw [List.forall_mem_cons] at short
      rw [List.mapM_cons, Text.readInt_eq_some short.1, ih short.2]
      rfl

/-- Only then is the log read. -/
theorem isSome_readConfidences_iff (text : List Char) :
    (readConfidences text).isSome = true ↔
      ∀ token ∈ confidenceTokens text, token.length ≤ Text.maxStrDigits := by
  have each : ∀ token, (Text.readInt token).isSome = true ↔ token.length ≤ Text.maxStrDigits := by
    intro token
    rw [Text.readInt]
    split_ifs with short <;> simp [short]
  rw [readConfidences, isSome_mapM]
  simp only [each]

section Verdict

variable (lower : List Char → List Char) (isWord : Char → Bool)

/-- A rip passes as accurate when its log is accurate and has no marker of an error. -/
theorem pass_parseLog_iff {text : List Char} {logFilename : String} {hasCue : Bool}
    {evidence : RipEvidence}
    (parsed : parseLog lower isWord text logFilename hasCue = some evidence) :
    evidence.status = .pass ∧ evidence.accuraterip.accurate = true ↔
      errorDetected lower text = false ∧ evidence.accuraterip.accurate = true := by
  rw [parseLog, Option.map_eq_some_iff] at parsed
  obtain ⟨ar, _, rfl⟩ := parsed
  cases errorDetected lower text <;> cases accurate : ar.accurate <;> simp

/-- What is said of AccurateRip. -/
theorem accuraterip_parseLog {text : List Char} {logFilename : String} {hasCue : Bool}
    {evidence : RipEvidence}
    (parsed : parseLog lower isWord text logFilename hasCue = some evidence) :
    evidence.accuraterip = accurateRipOf (confidences text) (allAccurate text) := by
  rw [parseLog, Option.map_eq_some_iff] at parsed
  obtain ⟨ar, read, rfl⟩ := parsed
  rw [parseAccuraterip, Option.map_eq_some_iff] at read
  obtain ⟨values, values_eq, rfl⟩ := read
  have short := (isSome_readConfidences_iff text).mp (by rw [values_eq]; rfl)
  rw [readConfidences_eq_some short, Option.some.injEq] at values_eq
  rw [values_eq]

/-- A log is judged where its tokens are read. -/
theorem isSome_parseLog_iff (text : List Char) (logFilename : String) (hasCue : Bool) :
    (parseLog lower isWord text logFilename hasCue).isSome = true ↔
      ∀ token ∈ confidenceTokens text, token.length ≤ Text.maxStrDigits := by
  rw [parseLog, Option.isSome_map, parseAccuraterip, Option.isSome_map,
    isSome_readConfidences_iff]

end Verdict

/-! ## Rendered logs -/

/-- What a rip says of a track. -/
inductive TrackResult where
  | accurate (confidence : Nat) (positive : 1 ≤ confidence)
  | unverified (confidence : Nat)
  | unlisted
  deriving DecidableEq

/-- A phrase of a log. -/
inductive Phrase where
  | copyOk
  | accurate (confidence : Nat)
  | unverified (confidence : Nat)
  deriving DecidableEq

namespace TrackResult

/-- AccurateRip knows the track. -/
def verified : TrackResult → Bool
  | accurate _ _ => true
  | _ => false

/-- The phrases of a track. -/
def phrases : TrackResult → List Phrase
  | accurate confidence _ => [.accurate confidence, .copyOk]
  | unverified confidence => [.unverified confidence, .copyOk]
  | unlisted => [.copyOk]

end TrackResult

namespace Phrase

/-- The token of a confidence, up to the bracket that closes it. -/
def token (confidence : Nat) : List Char :=
  "confidence ".toList ++ (Nat.toDigits 10 confidence ++ [')'])

theorem token_eq (confidence : Nat) :
    token confidence = "confidence ".toList ++ (Nat.toDigits 10 confidence ++ [')']) := rfl

/-- The text of a phrase. -/
def text : Phrase → List Char
  | copyOk => "Copy OK".toList
  | accurate confidence => "Accurately ripped (".toList ++ token confidence
  | unverified confidence => "Cannot be verified as accurate (".toList ++ token confidence

/-- The tokens of a phrase. -/
def tokens : Phrase → List (List Char)
  | copyOk => []
  | accurate confidence | unverified confidence => [Nat.toDigits 10 confidence]

end Phrase

/-- A log: a text before each phrase, and one after the last. -/
structure RipLog where
  body : List (List Char × Phrase)
  ending : List Char

namespace RipLog

/-- The text of a log. -/
def text (log : RipLog) : List Char :=
  (log.body.flatMap fun part => part.1 ++ part.2.text) ++ log.ending

/-- The tokens in the texts around the phrases. -/
def strayTokens (log : RipLog) : List (List Char) :=
  (log.body.flatMap fun part => confidenceTokens part.1) ++ confidenceTokens log.ending

/-- The confidences in the texts around the phrases. -/
def strays (log : RipLog) : List Nat := log.strayTokens.map Text.int

/-- A log holds the phrases of the tracks, in any order. -/
def Renders (log : RipLog) (tracks : List TrackResult) : Prop :=
  (log.body.map Prod.snd).Perm (tracks.flatMap TrackResult.phrases)

end RipLog

/-- The phrases begin with no part of the word, and no run of its token ends in them. -/
theorem severed_phrase (phrase : Phrase) (rest : List Char) :
    ∀ pieces ∈ arConfidence, Regex.Severed (phrase.text.map Text.foldCase ++ rest) pieces := by
  intro pieces pieces_mem
  rw [arConfidence, List.mem_singleton] at pieces_mem
  rw [pieces_mem]
  apply Regex.severed_literal
  · cases phrase <;> rfl
  · cases phrase <;> exact ⟨rfl, rfl, trivial⟩

/-- The expression begins with the word. -/
theorem begins_arConfidence : Regex.Begins "confidence".toList arConfidence := by
  intro pieces pieces_mem
  rw [arConfidence, List.mem_singleton] at pieces_mem
  exact ⟨_, pieces_mem⟩

/-- A token is found with its number. -/
theorem finditer_token (confidence : Nat) (rest : List Char) :
    ∃ text, Regex.finditer arConfidence
        ("confidence ".toList ++ (Nat.toDigits 10 confidence ++ ')' :: rest)) =
      { text, groups := [Nat.toDigits 10 confidence] } ::
        Regex.finditer arConfidence (')' :: rest) := by
  have digits : Regex.matchPieces [.run Text.isDecimal 1 none true]
      (Nat.toDigits 10 confidence ++ ')' :: rest) =
        some ([Nat.toDigits 10 confidence], ')' :: rest) := by
    apply Regex.matchPieces_run_stops
    · intro c c_mem
      exact Text.isDecimal_of_mem_toDigits c_mem
    · exact Nat.length_toDigits_pos
    · rfl
    · rfl
  have space : Regex.matchPieces
      [.run Text.isSpace 1 none false, .run Text.isDecimal 1 none true]
      ([' '] ++ (Nat.toDigits 10 confidence ++ ')' :: rest)) =
        some ([Nat.toDigits 10 confidence], ')' :: rest) := by
    apply Regex.matchPieces_run_stops
    · intro c c_mem
      rw [List.mem_singleton] at c_mem
      rw [c_mem]
      rfl
    · exact Nat.le_refl 1
    · exact Text.head_toDigits confidence _
    · exact digits
  have word := Regex.matchPieces_literal "confidence".toList
    [.run Text.isSpace 1 none false, .run Text.isDecimal 1 none true]
    ([' '] ++ (Nat.toDigits 10 confidence ++ ')' :: rest))
  rw [space] at word
  refine ⟨"confidence ".toList ++ Nat.toDigits 10 confidence, ?_⟩
  rw [← List.append_assoc]
  apply Regex.finditer_match
  · apply Regex.firstMatch_eq_some
    rw [List.append_assoc]
    exact word
  · exact List.append_ne_nil_of_left_ne_nil (by decide) _

/-- The confidence of a phrase is found, and nothing else of it. -/
theorem confidenceTokens_phrase (phrase : Phrase) (rest : List Char) :
    confidenceTokens (phrase.text ++ rest) = phrase.tokens ++ confidenceTokens rest := by
  have number : ∀ (before : List Char) (confidence : Nat),
      Regex.clear "confidence".toList (before.map Text.foldCase) = true →
        confidenceTokens (before ++ Phrase.token confidence ++ rest) =
          Nat.toDigits 10 confidence :: confidenceTokens rest := by
    intro before confidence cleared
    have digits : (Nat.toDigits 10 confidence).map Text.foldCase =
        Nat.toDigits 10 confidence := by
      refine (List.map_congr_left ?_).trans (List.map_id _)
      intro c c_mem
      exact Text.foldCase_of_isDigit (Text.isDigit_of_mem_toDigits c_mem)
    have folded : (before ++ Phrase.token confidence ++ rest).map Text.foldCase =
        before.map Text.foldCase ++ ("confidence ".toList ++
          (Nat.toDigits 10 confidence ++ ')' :: rest.map Text.foldCase)) := by
      have word : "confidence ".toList.map Text.foldCase = "confidence ".toList := by decide
      have bracket : Text.foldCase ')' = ')' := by decide
      rw [Phrase.token_eq]
      generalize "confidence ".toList = letters at word ⊢
      simp only [List.map_append, digits, word, List.append_assoc, List.singleton_append,
        List.map_cons, bracket]
    obtain ⟨text, found⟩ := finditer_token confidence (rest.map Text.foldCase)
    have bracket : Regex.clear "confidence".toList [')'] = true := rfl
    have closing := Regex.finditer_clear (rest.map Text.foldCase) begins_arConfidence bracket
    rw [List.singleton_append] at closing
    rw [confidenceTokens, folded, Regex.finditer_clear _ begins_arConfidence cleared, found,
      closing, List.flatMap_cons]
    rfl
  cases phrase with
  | copyOk =>
      have words : (Phrase.text .copyOk).map Text.foldCase = "copy ok".toList := by decide
      have cleared : Regex.clear "confidence".toList "copy ok".toList = true := by decide
      rw [confidenceTokens, List.map_append, words,
        Regex.finditer_clear _ begins_arConfidence cleared]
      rfl
  | accurate confidence => exact number "Accurately ripped (".toList confidence (by decide)
  | unverified confidence =>
      exact number "Cannot be verified as accurate (".toList confidence (by decide)

/-- Only whole tokens of the text before a phrase are read. -/
theorem confidenceTokens_append_phrase (before : List Char) (phrase : Phrase)
    (rest : List Char) :
    confidenceTokens (before ++ (phrase.text ++ rest)) =
      confidenceTokens before ++ (phrase.tokens ++ confidenceTokens rest) := by
  have folded : (before ++ (phrase.text ++ rest)).map Text.foldCase =
      before.map Text.foldCase ++ (phrase.text.map Text.foldCase ++ rest.map Text.foldCase) := by
    rw [List.map_append, List.map_append]
  rw [← confidenceTokens_phrase phrase rest, confidenceTokens, folded,
    Regex.finditer_append (severed_phrase phrase _), List.flatMap_append, ← List.map_append]
  rfl

namespace RipLog

/-- The tokens of a log are those of its phrases and those around them. -/
theorem mem_confidenceTokens_text_iff (log : RipLog) (token : List Char) :
    token ∈ confidenceTokens log.text ↔
      token ∈ log.strayTokens ∨ ∃ phrase ∈ log.body.map Prod.snd, token ∈ phrase.tokens := by
  obtain ⟨body, ending⟩ := log
  rw [text, strayTokens]
  induction body with
  | nil => simp
  | cons part body ih =>
      rw [List.flatMap_cons, List.append_assoc, List.append_assoc, confidenceTokens_append_phrase]
      simp only [List.mem_append, ih, List.flatMap_cons, List.map_cons, List.mem_cons,
        exists_eq_or_imp]
      tauto

end RipLog

namespace TrackResult

/-- The confidence of a track. -/
def confidence : TrackResult → Option Nat
  | accurate confidence _ | unverified confidence => some confidence
  | unlisted => none

/-- Only an unlisted track has no confidence. -/
theorem eq_unlisted {track : TrackResult} (silent : track.confidence = none) :
    track = .unlisted := by
  cases track with
  | accurate confidence positive => contradiction
  | unverified confidence => contradiction
  | unlisted => rfl

/-- The phrases of a track have the digits of its confidence. -/
theorem exists_token_iff (track : TrackResult) (token : List Char) :
    (∃ phrase ∈ track.phrases, token ∈ phrase.tokens) ↔
      ∃ confidence, track.confidence = some confidence ∧ token = Nat.toDigits 10 confidence := by
  cases track <;> simp [phrases, Phrase.tokens, TrackResult.confidence]

end TrackResult

/-- The tokens of a rendered log. -/
theorem RipLog.Renders.mem_confidenceTokens_iff {log : RipLog} {tracks : List TrackResult}
    (renders : log.Renders tracks) (token : List Char) :
    token ∈ confidenceTokens log.text ↔
      token ∈ log.strayTokens ∨ ∃ track ∈ tracks, ∃ confidence,
        track.confidence = some confidence ∧ token = Nat.toDigits 10 confidence := by
  have listed : (∃ phrase ∈ log.body.map Prod.snd, token ∈ phrase.tokens) ↔
      ∃ track ∈ tracks, ∃ confidence,
        track.confidence = some confidence ∧ token = Nat.toDigits 10 confidence := by
    simp only [renders.mem_iff, List.mem_flatMap, ← TrackResult.exists_token_iff]
    constructor
    · intro rendered
      obtain ⟨phrase, ⟨track, track_mem, phrase_mem⟩, found⟩ := rendered
      exact ⟨track, track_mem, phrase, phrase_mem, found⟩
    · intro rendered
      obtain ⟨track, track_mem, phrase, phrase_mem, found⟩ := rendered
      exact ⟨phrase, ⟨track, track_mem, phrase_mem⟩, found⟩
  rw [log.mem_confidenceTokens_text_iff, listed]

/-- The confidences of a rendered log. -/
theorem RipLog.Renders.mem_confidences_iff {log : RipLog} {tracks : List TrackResult}
    (renders : log.Renders tracks) (confidence : Nat) :
    confidence ∈ confidences log.text ↔
      confidence ∈ log.strays ∨ ∃ track ∈ tracks, track.confidence = some confidence := by
  rw [confidences, RipLog.strays, List.mem_map, List.mem_map]
  constructor
  · intro listed
    obtain ⟨token, token_mem, rfl⟩ := listed
    rcases (renders.mem_confidenceTokens_iff token).mp token_mem with stray | named
    · exact Or.inl ⟨token, stray, rfl⟩
    · obtain ⟨track, track_mem, value, value_eq, rfl⟩ := named
      exact Or.inr ⟨track, track_mem, by rw [Text.int_toDigits, value_eq]⟩
  · intro listed
    rcases listed with stray | named
    · obtain ⟨token, token_mem, same⟩ := stray
      exact ⟨token, (renders.mem_confidenceTokens_iff token).mpr (Or.inl token_mem), same⟩
    · obtain ⟨track, track_mem, value_eq⟩ := named
      exact ⟨Nat.toDigits 10 confidence, (renders.mem_confidenceTokens_iff _).mpr
        (Or.inr ⟨track, track_mem, confidence, value_eq, rfl⟩), Text.int_toDigits confidence⟩

/-- A log has no confidence when neither its tracks nor its other texts have one. -/
theorem RipLog.Renders.forall_not_mem_confidences_iff {log : RipLog} {tracks : List TrackResult}
    (renders : log.Renders tracks) :
    (∀ confidence, confidence ∉ confidences log.text) ↔
      (∀ track ∈ tracks, track = .unlisted) ∧ log.strays = [] := by
  constructor
  · intro silent
    constructor
    · intro track track_mem
      cases listed : track.confidence with
      | none => exact TrackResult.eq_unlisted listed
      | some confidence =>
          exact absurd ((renders.mem_confidences_iff confidence).mpr
            (Or.inr ⟨track, track_mem, listed⟩)) (silent confidence)
    · apply List.eq_nil_iff_forall_not_mem.mpr
      intro confidence stray
      exact silent confidence ((renders.mem_confidences_iff confidence).mpr (Or.inl stray))
  · intro silent confidence found
    obtain ⟨unlisted, none_stray⟩ := silent
    rw [renders.mem_confidences_iff, none_stray] at found
    cases found with
    | inl stray => exact List.not_mem_nil stray
    | inr listed =>
        obtain ⟨track, track_mem, listed⟩ := listed
        rw [unlisted track track_mem] at listed
        contradiction

/-! ## When a pass is a pass -/

section Pass

variable (lower : List Char → List Char) (isWord : Char → Bool)

/-- A pass means that every track was verified; scoring lifts a review only then. -/
structure RipEvidence.Truthful (evidence : RipEvidence) (tracks : List TrackResult) : Prop where
  pass_iff : evidence.status = .pass ∧ evidence.accuraterip.accurate = true ↔
    ∀ track ∈ tracks, track.verified = true
  lifts : applyCdRipScoring evidence.read .reviewRequired ≠ .reviewRequired →
    ∀ track ∈ tracks, track.verified = true
  matched_le : evidence.accuraterip.matched ≤ evidence.accuraterip.total

/-- A fully verified log has no marker of an error and no stray confidence of zero; another log
has one of these, or a track of confidence zero, or nothing at all from AccurateRip. -/
def RipLog.Telling (log : RipLog) (tracks : List TrackResult) : Prop :=
  if ∀ track ∈ tracks, track.verified = true then
    errorDetected lower log.text = false ∧ 0 ∉ log.strays
  else
    errorDetected lower log.text = true ∨ 0 ∈ log.strays ∨ .unverified 0 ∈ tracks ∨
      (∀ track ∈ tracks, track = .unlisted) ∧ log.strays = [] ∧ allAccurate log.text = false

/-- Scoring lifts a review exactly for a rip that passes as accurate. -/
theorem lifts_iff (evidence : RipEvidence) :
    applyCdRipScoring evidence.read .reviewRequired ≠ .reviewRequired ↔
      evidence.status = .pass ∧ evidence.accuraterip.accurate = true := by
  cases status : evidence.status <;> cases accurate : evidence.accuraterip.accurate <;>
    simp [applyCdRipScoring, CdRipEvidence.verified, RipEvidence.read, status, accurate,
      VerificationDecision.autoImports]

/-- A verified track has a positive confidence. -/
theorem TrackResult.exists_confidence_of_verified {track : TrackResult}
    (verified : track.verified = true) :
    ∃ confidence, track.confidence = some confidence ∧ 0 < confidence := by
  cases track with
  | accurate confidence positive => exact ⟨confidence, rfl, positive⟩
  | unverified confidence => contradiction
  | unlisted => contradiction

/-- Only an unverified track can have no confidence. -/
theorem TrackResult.confidence_eq_zero_iff (track : TrackResult) :
    track.confidence = some 0 ↔ track = .unverified 0 := by
  cases track with
  | accurate confidence positive =>
      have differs : confidence ≠ 0 := by omega
      simp [TrackResult.confidence, differs]
  | unverified confidence => simp [TrackResult.confidence]
  | unlisted => simp [TrackResult.confidence]

/-- No number of the log has more digits than `int` reads. -/
structure RipLog.Legible (log : RipLog) (tracks : List TrackResult) : Prop where
  tracks : ∀ track ∈ tracks, ∀ confidence, track.confidence = some confidence →
    (Nat.toDigits 10 confidence).length ≤ Text.maxStrDigits
  strays : ∀ token ∈ log.strayTokens, token.length ≤ Text.maxStrDigits

/-- A rendered log is judged where it is legible. -/
theorem RipLog.Renders.isSome_parseLog_iff {log : RipLog} {tracks : List TrackResult}
    (renders : log.Renders tracks) (logFilename : String) (hasCue : Bool) :
    (parseLog lower isWord log.text logFilename hasCue).isSome = true ↔ log.Legible tracks := by
  rw [Disc.isSome_parseLog_iff]
  constructor
  · intro short
    constructor
    · intro track track_mem confidence listed
      exact short _ ((renders.mem_confidenceTokens_iff _).mpr
        (Or.inr ⟨track, track_mem, confidence, listed, rfl⟩))
    · intro token stray
      exact short token ((renders.mem_confidenceTokens_iff token).mpr (Or.inl stray))
  · intro legible token found
    rcases (renders.mem_confidenceTokens_iff token).mp found with stray | named
    · exact legible.strays token stray
    · obtain ⟨track, track_mem, confidence, listed, rfl⟩ := named
      exact legible.tracks track track_mem confidence listed

/-- Evidence is truthful where its confidences and the markers say so. -/
theorem truthful_iff_accurate {text : List Char} {logFilename : String} {hasCue : Bool}
    {evidence : RipEvidence} (tracks : List TrackResult)
    (parsed : parseLog lower isWord text logFilename hasCue = some evidence) :
    evidence.Truthful tracks ↔
      (errorDetected lower text = false ∧
          (accurateRipOf (confidences text) (allAccurate text)).accurate = true ↔
        ∀ track ∈ tracks, track.verified = true) := by
  have verdict := pass_parseLog_iff lower isWord parsed
  have said := accuraterip_parseLog lower isWord parsed
  rw [said] at verdict
  constructor
  · intro truthful
    have pass_iff := truthful.pass_iff
    rw [said] at pass_iff
    exact verdict.symm.trans pass_iff
  · intro pass_iff
    constructor
    · rw [said]
      exact verdict.trans pass_iff
    · intro lifted
      have passes := (lifts_iff evidence).mp lifted
      rw [said] at passes
      exact pass_iff.mp (verdict.mp passes)
    · rw [said]
      exact matched_le_total _ _

/-- The confidences and the markers say so exactly on telling logs. -/
theorem accurate_iff_telling {tracks : List TrackResult} {log : RipLog} (nonempty : tracks ≠ [])
    (renders : log.Renders tracks) :
    (errorDetected lower log.text = false ∧
          (accurateRipOf (confidences log.text) (allAccurate log.text)).accurate = true ↔
        ∀ track ∈ tracks, track.verified = true) ↔
      log.Telling lower tracks := by
  have zero : 0 ∈ confidences log.text ↔ 0 ∈ log.strays ∨ .unverified 0 ∈ tracks := by
    rw [renders.mem_confidences_iff]
    simp [TrackResult.confidence_eq_zero_iff]
  rw [accurate_accurateRipOf_iff, zero, RipLog.Telling]
  split_ifs with verified
  · -- every track counts, so only a marker or a stray zero can hold the pass back
    have counted : ∃ confidence ∈ confidences log.text, 0 < confidence := by
      obtain ⟨track, track_mem⟩ := List.exists_mem_of_ne_nil tracks nonempty
      obtain ⟨confidence, listed, positive⟩ :=
        TrackResult.exists_confidence_of_verified (verified track track_mem)
      exact ⟨confidence, (renders.mem_confidences_iff confidence).mpr
        (Or.inr ⟨track, track_mem, listed⟩), positive⟩
    have none_zero : TrackResult.unverified 0 ∉ tracks := by
      intro unverified
      have impossible := verified _ unverified
      contradiction
    rw [iff_true_right verified]
    simp [counted, none_zero]
  · -- the pass has to be held back
    have silent := renders.forall_not_mem_confidences_iff
    have positive : ¬(0 ∈ log.strays ∨ .unverified 0 ∈ tracks) →
        ((∃ confidence ∈ confidences log.text, 0 < confidence) ↔
          ¬∀ confidence, confidence ∉ confidences log.text) := by
      intro none_zero
      rw [← zero] at none_zero
      constructor
      · intro counted all_silent
        obtain ⟨confidence, listed, _⟩ := counted
        exact all_silent confidence listed
      · intro counted
        obtain ⟨confidence, listed⟩ := not_forall_not.mp counted
        refine ⟨confidence, listed, Nat.pos_of_ne_zero ?_⟩
        intro is_zero
        rw [is_zero] at listed
        exact none_zero listed
    rw [iff_false_right verified, ← and_assoc (c := allAccurate log.text = false), ← silent,
      ← or_assoc (a := 0 ∈ log.strays)]
    by_cases zeros : 0 ∈ log.strays ∨ .unverified 0 ∈ tracks
    · simp only [zeros, not_true, and_false, not_false_iff, true_or, or_true]
    · rw [positive zeros]
      cases errorDetected lower log.text <;> cases allAccurate log.text <;> simp [zeros]

/-- A log is judged, and a pass says what it should, exactly on legible telling logs. -/
theorem truthful_parseLog_iff {tracks : List TrackResult} {log : RipLog} (logFilename : String)
    (hasCue : Bool) (nonempty : tracks ≠ []) (renders : log.Renders tracks) :
    (∃ evidence, parseLog lower isWord log.text logFilename hasCue = some evidence ∧
        evidence.Truthful tracks) ↔
      log.Legible tracks ∧ log.Telling lower tracks := by
  rw [← renders.isSome_parseLog_iff lower isWord logFilename hasCue,
    ← accurate_iff_telling lower nonempty renders]
  constructor
  · intro judged
    obtain ⟨evidence, parsed, truthful⟩ := judged
    constructor
    · rw [parsed]
      rfl
    · exact (truthful_iff_accurate lower isWord tracks parsed).mp truthful
  · intro judged
    obtain ⟨evidence, parsed⟩ := Option.isSome_iff_exists.mp judged.1
    exact ⟨evidence, parsed, (truthful_iff_accurate lower isWord tracks parsed).mpr judged.2⟩

end Pass

/-! ### Two tracks, one of them unverified -/

/-- A log of two tracks. -/
def logOf (first second : Phrase) : RipLog where
  body := [([], first), (['\n'], .copyOk), (['\n'], second), (['\n'], .copyOk)]
  ending := ['\n']

/-- The lower case and the word characters of ASCII texts. -/
def asciiLower (text : List Char) : List Char := text.map Char.toLower

def asciiWord (c : Char) : Bool := c.isAlphanum || c = '_'

/-- A small number has few digits. -/
theorem length_toDigits_le {number : Nat} (small : number < 10 ^ 9) :
    (Nat.toDigits 10 number).length ≤ Text.maxStrDigits := by
  have short := (Nat.length_toDigits_le_iff (k := 9) (by decide) (by decide)).mpr small
  exact Nat.le_trans short (by decide)

/-- A log of two verified tracks passes. -/
theorem truthful_parseLog_verified :
    ∃ evidence, parseLog asciiLower asciiWord (logOf (.accurate 5) (.accurate 12)).text "rip.log"
        true = some evidence ∧
      evidence.Truthful [.accurate 5 (by decide), .accurate 12 (by decide)] := by
  apply (truthful_parseLog_iff asciiLower asciiWord "rip.log" true (by simp)
    (by exact List.Perm.refl _)).mpr
  constructor
  · constructor
    · simp [TrackResult.confidence, length_toDigits_le]
    · decide +kernel
  · rw [RipLog.Telling, if_pos (by decide +kernel)]
    constructor
    · decide +kernel
    · decide +kernel

/-- A log passes as accurate although its second track was not verified. -/
theorem not_truthful_parseLog_unverified :
    ¬∃ evidence, parseLog asciiLower asciiWord (logOf (.accurate 5) (.unverified 2)).text
        "rip.log" true = some evidence ∧
      evidence.Truthful [.accurate 5 (by decide), .unverified 2] := by
  intro judged
  obtain ⟨evidence, parsed, truthful⟩ := judged
  have accurate : evidence.accuraterip.accurate = true := by
    rw [accuraterip_parseLog asciiLower asciiWord parsed]
    decide +kernel
  have passes := (pass_parseLog_iff asciiLower asciiWord parsed).mpr ⟨by decide +kernel, accurate⟩
  have verified := truthful.pass_iff.mp passes (.unverified 2) (by simp)
  exact Bool.false_ne_true verified

end Mintarr.Disc
