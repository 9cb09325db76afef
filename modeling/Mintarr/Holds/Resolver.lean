import Mathlib.Data.List.Dedup
import Mathlib.Data.List.ReduceOption
import Mintarr.Lib.Casing
import Mintarr.Lib.Characters
import Mintarr.Lib.Words

/-!
# The album resolver

A search names an artist and an album.  `resolve_album_id` finds the one album of the catalogue
whose names normalise to the same, and a hold of that album suppresses the search.  The tables of
Unicode are a parameter, and so is what a reader takes a character for.
-/

namespace Mintarr.Holds

open Lib

/-! ## Names -/

/-- What is used of Unicode. -/
structure Unicode where
  /-- `unicodedata.normalize("NFKD", value)`. -/
  nfkd : List Char → List Char
  /-- `unicodedata.combining(ch)`. -/
  combining : Char → Bool
  /-- The case properties behind `str.lower`. -/
  casing : CaseTable
  /-- A text is decomposed character by character; only combining characters change places. -/
  nfkd_starters : ∀ value, (nfkd value).filter (fun c => !combining c) =
    value.flatMap fun c => (nfkd [c]).filter fun c => !combining c

namespace Unicode

variable (unicode : Unicode)

/-- A text in lower case, without diacritics. -/
def fold (value : List Char) : List Char :=
  if value.isEmpty then []
  else unicode.casing.lower ((unicode.nfkd value).filter fun c => !unicode.combining c)

/-- `normalize`. -/
def normalize (value : List Char) : List Char :=
  let spaced := collapse Text.isLowerAlnum ' ' (unicode.fold value)
  [' '].intercalate (words (fun c => !Text.isSpace c) spaced)

/-- What becomes of a character, but that a final sigma has a form of its own. -/
def foldChar (c : Char) : List Char :=
  ((unicode.nfkd [c]).filter fun c => !unicode.combining c).flatMap unicode.casing.lowerOne

variable {unicode}

/-- What is compared are the words in ASCII letters and digits. -/
theorem normalize_eq (value : List Char) : unicode.normalize value =
    [' '].intercalate (words Text.isLowerAlnum (unicode.fold value)) := by
  have same : words (fun c => !Text.isSpace c)
      (collapse Text.isLowerAlnum ' ' (unicode.fold value)) =
      words Text.isLowerAlnum (collapse Text.isLowerAlnum ' ' (unicode.fold value)) := by
    apply words_congr
    intro c member
    cases mem_collapse member with
    | inl letter => rw [letter, Text.isSpace_of_isLowerAlnum letter]; rfl
    | inr blank => rw [blank]; rfl
  rw [normalize, same, words_collapse rfl]

/-- Texts normalise to the same exactly if they have the same such words. -/
theorem normalize_eq_iff {value other : List Char} :
    unicode.normalize value = unicode.normalize other ↔
      words Text.isLowerAlnum (unicode.fold value) =
        words Text.isLowerAlnum (unicode.fold other) := by
  rw [normalize_eq, normalize_eq]
  constructor
  · intro same
    have read : ∀ text : List Char, words Text.isLowerAlnum
        ([' '].intercalate (words Text.isLowerAlnum text)) = words Text.isLowerAlnum text :=
      fun text => words_intercalate rfl fun word listed => mem_words listed
    rw [← read, same, read]
  · intro same
    rw [same]

/-- The words of a text are found character by character. -/
theorem words_fold (value : List Char) : words Text.isLowerAlnum (unicode.fold value) =
    words Text.isLowerAlnum (value.flatMap unicode.foldChar) := by
  rw [fold]
  split
  · next empty => rw [List.isEmpty_iff.mp empty]; rfl
  · rw [unicode.casing.words_lower rfl rfl, unicode.nfkd_starters, List.flatMap_assoc]
    rfl

end Unicode

/-! ## Letters -/

/-- What a character is to a reader, beside its letter case. -/
inductive Glyph where
  /-- A letter or digit of any script, as it is in lower case and without diacritics. -/
  | letter (plain : Char)
  | diacritic
  /-- Punctuation, spacing and any other sign. -/
  | gap
  deriving DecidableEq

/-- What is kept of a character: a letter, or the gap that it makes. -/
def Glyph.sign : Glyph → Option (Option Char)
  | .letter plain => some (some plain)
  | .diacritic => none
  | .gap => some none

section Reading

variable (reading : Char → Glyph)

/-- What a reader keeps of a text. -/
def signs (value : List Char) : List (Option Char) := value.filterMap fun c => (reading c).sign

/-- The letters and digits of a text. -/
def lettersOf (value : List Char) : List Char := (signs reading value).reduceOption

/-- The same, word by word. -/
def wordsOf (value : List Char) : List (List Char) :=
  (words Option.isSome (signs reading value)).map List.reduceOption

variable (unicode : Unicode)

/-- The code takes a character for what it is: a letter is one ASCII letter or digit, and nothing
else leaves one. -/
def Plain (c : Char) : Prop :=
  match reading c with
  | .letter plain => unicode.foldChar c = [plain] ∧ Text.isLowerAlnum plain = true
  | .diacritic => unicode.foldChar c = []
  | .gap => unicode.foldChar c ≠ [] ∧ ∀ d ∈ unicode.foldChar c, Text.isLowerAlnum d = false

instance (c : Char) : Decidable (Plain reading unicode c) := by
  unfold Plain
  split
  · infer_instance
  · infer_instance
  · exact @instDecidableAnd _ _ inferInstance (List.decidableBAll _ _)

/-- No letter or digit of a text is dropped or taken for another. -/
def PlainText (value : List Char) : Prop := ∀ c ∈ value, Plain reading unicode c

instance (value : List Char) : Decidable (PlainText reading unicode value) :=
  List.decidableBAll _ _

variable {reading unicode}

/-- Texts of the same words have the same letters. -/
theorem flatten_wordsOf (value : List Char) :
    (wordsOf reading value).flatten = lettersOf reading value := by
  have kept : ∀ found : List (List (Option Char)),
      (found.map List.reduceOption).flatten = found.flatten.reduceOption := by
    intro found
    induction found with
    | nil => rfl
    | cons word found ih =>
        rw [List.map_cons, List.flatten_cons, List.flatten_cons, List.reduceOption_append, ih]
  rw [wordsOf, kept, flatten_words, lettersOf]
  induction signs reading value with
  | nil => rfl
  | cons sign rest ih =>
      cases sign with
      | none => simpa [List.reduceOption_cons_of_none] using ih
      | some c => simpa [List.reduceOption_cons_of_some] using ih

theorem reduceOption_map_some (word : List Char) : (word.map some).reduceOption = word := by
  rw [List.reduceOption, List.filterMap_map]
  exact List.filterMap_some

theorem ended_map_some (word : List Char) :
    ended word = (ended (word.map some)).map List.reduceOption := by
  cases word with
  | nil => rfl
  | cons c word =>
      rw [ended_of_ne_nil (List.cons_ne_nil c word), ended_of_ne_nil (by simp),
        List.map_singleton, reduceOption_map_some]

/-- The word that was begun goes on in the same way in both. -/
theorem wordsFrom_of_plain {value : List Char} (plain : PlainText reading unicode value)
    (word : List Char) :
    wordsFrom Text.isLowerAlnum word (value.flatMap unicode.foldChar) =
      (wordsFrom Option.isSome (word.map some) (signs reading value)).map List.reduceOption := by
  induction value generalizing word with
  | nil => exact ended_map_some word
  | cons c value ih =>
      have here := plain c List.mem_cons_self
      have later := ih fun d listed => plain d (List.mem_cons_of_mem c listed)
      rw [Plain] at here
      rw [List.flatMap_cons, signs, List.filterMap_cons, ← signs]
      cases sign : reading c with
      | letter letter =>
          rw [sign] at here
          dsimp only at here ⊢
          rw [here.1, List.singleton_append, wordsFrom, if_pos here.2, later, Glyph.sign,
            wordsFrom, if_pos Option.isSome_some, List.map_append]
          rfl
      | diacritic =>
          rw [sign] at here
          dsimp only at here ⊢
          rw [here, List.nil_append, later]
          rfl
      | gap =>
          rw [sign] at here
          dsimp only at here ⊢
          obtain ⟨first, others, folded⟩ := List.exists_cons_of_ne_nil here.1
          rw [folded] at here ⊢
          have blank := List.forall_mem_cons.mp here.2
          have ends : wordsFrom Text.isLowerAlnum word
              (first :: others ++ value.flatMap unicode.foldChar) =
                ended word ++ words Text.isLowerAlnum (value.flatMap unicode.foldChar) := by
            rw [List.cons_append, wordsFrom, if_neg (by simp [blank.1]), ← words,
              words_append_of_blank blank.2]
          rw [ends, words, later [], Glyph.sign, wordsFrom, if_neg (by simp), ended_map_some,
            List.map_append]
          rfl

/-- A plain text has the words that the code compares. -/
theorem words_of_plain {value : List Char} (plain : PlainText reading unicode value) :
    words Text.isLowerAlnum (unicode.fold value) = wordsOf reading value := by
  rw [Unicode.words_fold]
  exact wordsFrom_of_plain plain []

/-- Plain texts normalise to the same exactly if they have the same words. -/
theorem normalize_eq_iff_of_plain {value other : List Char}
    (plain : PlainText reading unicode value) (plainOther : PlainText reading unicode other) :
    unicode.normalize value = unicode.normalize other ↔
      wordsOf reading value = wordsOf reading other := by
  rw [Unicode.normalize_eq_iff, words_of_plain plain, words_of_plain plainOther]

end Reading

/-! ## The catalogue -/

/-- A row of Lidarr's albums; the id is what `int` makes of it. -/
structure AlbumRow where
  albumId : Option Int
  artist : List Char
  album : List Char

/-- `AlbumCatalogueEntry`. -/
structure AlbumCatalogueEntry where
  albumId : Int
  artistNorm : List Char
  albumNorm : List Char

/-- `combined_norm`. -/
def AlbumCatalogueEntry.combinedNorm (entry : AlbumCatalogueEntry) : List Char :=
  Text.strip Text.isSpace (entry.artistNorm ++ ' ' :: entry.albumNorm)

/-- What a search asks for. -/
structure AlbumSearch where
  artist : List Char
  album : List Char
  q : List Char

/-- How a search was resolved. -/
inductive MatchMethod where
  | artistAlbum | qExact | none
  deriving DecidableEq

/-- `AlbumMatch`. -/
structure AlbumMatch where
  albumId : Option Int
  method : MatchMethod
  candidateCount : Nat

/-- The id of an album: Lidarr's ids are positive. -/
def AlbumRow.validId (row : AlbumRow) : Option Int := row.albumId.filter fun id => 0 < id

section Resolver

variable (unicode : Unicode)

/-- The entry of a row. -/
def catalogueEntry (row : AlbumRow) : Option AlbumCatalogueEntry :=
  match row.validId with
  | none => none
  | some albumId =>
      let albumNorm := unicode.normalize row.album
      if albumNorm = [] then none
      else some { albumId, artistNorm := unicode.normalize row.artist, albumNorm }

/-- `build_catalogue`. -/
def buildCatalogue (rows : List AlbumRow) : List AlbumCatalogueEntry :=
  rows.filterMap (catalogueEntry unicode)

/-- `_unique`. -/
def unique (albumIds : List Int) (method : MatchMethod) : AlbumMatch :=
  match albumIds.dedup with
  | [albumId] => { albumId := some albumId, method, candidateCount := 1 }
  | several => { albumId := none, method, candidateCount := several.length }

/-- `_ABSTAIN`. -/
def abstain : AlbumMatch := { albumId := none, method := .none, candidateCount := 0 }

/-- The ids of the entries that satisfy a test. -/
def idsOf (catalogue : List AlbumCatalogueEntry) (accepts : AlbumCatalogueEntry → Bool) :
    List Int :=
  (catalogue.filter accepts).map AlbumCatalogueEntry.albumId

/-- The ids the query selects. -/
def idsOfQuery (catalogue : List AlbumCatalogueEntry) (qNorm : List Char) : List Int :=
  let combined := idsOf catalogue fun entry => entry.combinedNorm = qNorm
  if combined = [] then idsOf catalogue fun entry => entry.albumNorm = qNorm else combined

/-- `resolve_album_id`. -/
def resolveAlbumId (catalogue : List AlbumCatalogueEntry) (search : AlbumSearch)
    (allowQFallback : Bool) : AlbumMatch :=
  let artistNorm := unicode.normalize search.artist
  let albumNorm := unicode.normalize search.album
  let qNorm := unicode.normalize search.q
  if artistNorm ≠ [] ∧ albumNorm ≠ [] then
    unique (idsOf catalogue fun entry =>
      entry.artistNorm = artistNorm && entry.albumNorm = albumNorm) .artistAlbum
  else if allowQFallback = true ∧ qNorm ≠ [] then unique (idsOfQuery catalogue qNorm) .qExact
  else abstain

/-- `_album_hold_suppressed_album_id`: the rows are missing where reading them raised. -/
def albumHoldSuppressedAlbumId (rows : Option (List AlbumRow)) (allowQFallback : Bool)
    (held : Int → Bool) (search : AlbumSearch) : Option Int :=
  match rows with
  | none => none
  | some rows =>
      let catalogue := buildCatalogue unicode rows
      if catalogue.isEmpty then none
      else (resolveAlbumId unicode catalogue search allowQFallback).albumId.filter held

/-! ## What a search may resolve to -/

variable (reading : Char → Glyph)

/-- The row and the search have the same names up to letter case, diacritics, punctuation and
spacing. -/
def Names (search : AlbumSearch) (row : AlbumRow) : Prop :=
  lettersOf reading row.artist = lettersOf reading search.artist ∧
    lettersOf reading row.album = lettersOf reading search.album

/-- The row and the search have the same names word by word. -/
def SameWords (search : AlbumSearch) (row : AlbumRow) : Prop :=
  wordsOf reading row.artist = wordsOf reading search.artist ∧
    wordsOf reading row.album = wordsOf reading search.album

/-- The row and the search normalise to the same. -/
def Similar (search : AlbumSearch) (row : AlbumRow) : Prop :=
  unicode.normalize row.artist = unicode.normalize search.artist ∧
    unicode.normalize row.album = unicode.normalize search.album

/-- The album with an id has the names of the search, and no other album has. -/
def OnlyNamed (rows : List AlbumRow) (search : AlbumSearch) (albumId : Int) : Prop :=
  (∃ row ∈ rows, row.validId = some albumId ∧ Names reading search row) ∧
    ∀ row ∈ rows, ∀ other, row.validId = some other → Names reading search row → other = albumId

/-- A search resolves to no other album than the one it names, and is suppressed for no other. -/
structure NeverWrong (rows : List AlbumRow) (search : AlbumSearch) (allowQFallback : Bool) :
    Prop where
  resolved : ∀ albumId,
    (resolveAlbumId unicode (buildCatalogue unicode rows) search allowQFallback).albumId =
      some albumId → OnlyNamed reading rows search albumId
  suppressed : ∀ held albumId,
    albumHoldSuppressedAlbumId unicode (some rows) allowQFallback held search = some albumId →
      held albumId = true ∧ OnlyNamed reading rows search albumId

/-- The names that are compared are plain: those of the search, and those of the rows that
normalise to the same or have the same letters. -/
structure Clean (rows : List AlbumRow) (search : AlbumSearch) : Prop where
  artist : PlainText reading unicode search.artist
  album : PlainText reading unicode search.album
  rows : ∀ row ∈ rows, row.validId ≠ none →
    Similar unicode search row ∨ Names reading search row →
      PlainText reading unicode row.artist ∧ PlainText reading unicode row.album

/-- Both names of a search have a letter or digit. -/
def Lettered (search : AlbumSearch) : Prop :=
  lettersOf reading search.artist ≠ [] ∧ lettersOf reading search.album ≠ []

/-- The query stands in for a name without letters, and some row answers to it. -/
def QueryDecides (rows : List AlbumRow) (search : AlbumSearch) (allowQFallback : Bool) : Prop :=
  allowQFallback = true ∧ ¬ Lettered reading search ∧ unicode.normalize search.q ≠ [] ∧
    ∃ entry ∈ buildCatalogue unicode rows, entry.combinedNorm = unicode.normalize search.q ∨
      entry.albumNorm = unicode.normalize search.q

/-- Where the rows with the words of a search are of one album, no other album has its letters in
other words. -/
def Undivided (rows : List AlbumRow) (search : AlbumSearch) : Prop :=
  Lettered reading search → ∀ albumId,
    (∃ row ∈ rows, row.validId = some albumId ∧ SameWords reading search row) →
    (∀ row ∈ rows, ∀ other, row.validId = some other → SameWords reading search row →
      other = albumId) →
    ∀ row ∈ rows, ∀ other, row.validId = some other → Names reading search row → other = albumId

/-- Both names of a search have something left. -/
def Direct (search : AlbumSearch) : Prop :=
  unicode.normalize search.artist ≠ [] ∧ unicode.normalize search.album ≠ []

/-- The only id in a list. -/
def Lone (albumIds : List Int) (albumId : Int) : Prop :=
  albumId ∈ albumIds ∧ ∀ other ∈ albumIds, other = albumId

variable {unicode reading} {rows : List AlbumRow} {search : AlbumSearch} {allowQFallback : Bool}

theorem unique_albumId {albumIds : List Int} {method : MatchMethod} {albumId : Int} :
    (unique albumIds method).albumId = some albumId ↔ Lone albumIds albumId := by
  have members : ∀ other, other ∈ albumIds.dedup ↔ other ∈ albumIds := fun other =>
    List.mem_dedup
  have distinct := albumIds.nodup_dedup
  rw [unique, Lone]
  simp only [← members]
  generalize albumIds.dedup = ids at distinct
  cases ids with
  | nil => simp
  | cons first others =>
      cases others with
      | nil =>
          simp only [Option.some.injEq, List.mem_singleton, forall_eq]
          constructor
          · intro same
            exact ⟨same.symm, same⟩
          · intro same
            exact same.2
      | cons second others =>
          constructor
          · intro absent
            cases absent
          · intro lone
            have same : first = second :=
              (lone.2 first List.mem_cons_self).trans
                (lone.2 second (List.mem_cons_of_mem _ List.mem_cons_self)).symm
            rw [same] at distinct
            simp at distinct

theorem catalogueEntry_eq_some {row : AlbumRow} {entry : AlbumCatalogueEntry} :
    catalogueEntry unicode row = some entry ↔
      row.validId = some entry.albumId ∧ unicode.normalize row.artist = entry.artistNorm ∧
        unicode.normalize row.album = entry.albumNorm ∧ entry.albumNorm ≠ [] := by
  rw [catalogueEntry]
  cases row.validId with
  | none => simp
  | some albumId =>
      by_cases empty : unicode.normalize row.album = []
      · simp only [empty, if_true, reduceCtorEq, Option.some.injEq, false_iff]
        intro named
        exact named.2.2.2 named.2.2.1.symm
      · simp only [empty, if_false, Option.some.injEq]
        constructor
        · intro same
          rw [← same]
          exact ⟨rfl, rfl, rfl, empty⟩
        · intro named
          obtain ⟨id, artist, album, _⟩ := named
          rw [id, artist, album]

/-- The ids that are compared are those of the similar rows. -/
theorem mem_idsOf_similar (nonempty : unicode.normalize search.album ≠ []) {albumId : Int} :
    albumId ∈ idsOf (buildCatalogue unicode rows) (fun entry =>
        entry.artistNorm = unicode.normalize search.artist &&
          entry.albumNorm = unicode.normalize search.album) ↔
      ∃ row ∈ rows, row.validId = some albumId ∧ Similar unicode search row := by
  rw [idsOf, List.mem_map]
  constructor
  · intro listed
    obtain ⟨entry, selected, rfl⟩ := listed
    obtain ⟨stored, same⟩ := List.mem_filter.mp selected
    obtain ⟨row, listed, made⟩ := List.mem_filterMap.mp stored
    obtain ⟨id, artist, album, _⟩ := catalogueEntry_eq_some.mp made
    rw [Bool.and_eq_true, decide_eq_true_eq, decide_eq_true_eq] at same
    exact ⟨row, listed, id, artist.trans same.1, album.trans same.2⟩
  · intro found
    obtain ⟨row, listed, id, artist, album⟩ := found
    have named : unicode.normalize row.album ≠ [] := by
      rw [album]
      exact nonempty
    have made : catalogueEntry unicode row =
        some ⟨albumId, unicode.normalize row.artist, unicode.normalize row.album⟩ :=
      catalogueEntry_eq_some.mpr ⟨id, rfl, rfl, named⟩
    refine ⟨⟨albumId, unicode.normalize row.artist, unicode.normalize row.album⟩, ?_, rfl⟩
    rw [List.mem_filter]
    exact ⟨List.mem_filterMap.mpr ⟨row, listed, made⟩, by simp [artist, album]⟩

/-- What a search with both names resolves to. -/
theorem resolveAlbumId_direct (direct : Direct unicode search) {albumId : Int} :
    (resolveAlbumId unicode (buildCatalogue unicode rows) search allowQFallback).albumId =
        some albumId ↔
      (∃ row ∈ rows, row.validId = some albumId ∧ Similar unicode search row) ∧
        ∀ row ∈ rows, ∀ other, row.validId = some other → Similar unicode search row →
          other = albumId := by
  have reduced : resolveAlbumId unicode (buildCatalogue unicode rows) search allowQFallback =
      unique (idsOf (buildCatalogue unicode rows) fun entry =>
        entry.artistNorm = unicode.normalize search.artist &&
          entry.albumNorm = unicode.normalize search.album) .artistAlbum := if_pos direct
  rw [reduced, unique_albumId, Lone, mem_idsOf_similar direct.2]
  apply and_congr_right
  intro _
  constructor
  · intro lone row listed other id similar
    exact lone other ((mem_idsOf_similar direct.2).mpr ⟨row, listed, id, similar⟩)
  · intro only other listed
    obtain ⟨row, stored, id, similar⟩ := (mem_idsOf_similar direct.2).mp listed
    exact only row stored other id similar

/-- Any other search resolves to nothing where no row answers to the query. -/
theorem resolveAlbumId_indirect (indirect : ¬ Direct unicode search)
    (silent : allowQFallback = true → unicode.normalize search.q ≠ [] →
      ∀ entry ∈ buildCatalogue unicode rows, entry.combinedNorm ≠ unicode.normalize search.q ∧
        entry.albumNorm ≠ unicode.normalize search.q) :
    (resolveAlbumId unicode (buildCatalogue unicode rows) search allowQFallback).albumId =
      none := by
  have reduced : resolveAlbumId unicode (buildCatalogue unicode rows) search allowQFallback =
      if allowQFallback = true ∧ unicode.normalize search.q ≠ [] then
        unique (idsOfQuery (buildCatalogue unicode rows) (unicode.normalize search.q)) .qExact
      else abstain := if_neg indirect
  rw [reduced]
  split
  · next allowed =>
      have unanswered := silent allowed.1 allowed.2
      have combined : idsOf (buildCatalogue unicode rows) (fun entry =>
          entry.combinedNorm = unicode.normalize search.q) = [] := by
        rw [idsOf, List.map_eq_nil_iff, List.filter_eq_nil_iff]
        intro entry listed
        simpa using (unanswered entry listed).1
      have alone : idsOf (buildCatalogue unicode rows) (fun entry =>
          entry.albumNorm = unicode.normalize search.q) = [] := by
        rw [idsOf, List.map_eq_nil_iff, List.filter_eq_nil_iff]
        intro entry listed
        simpa using (unanswered entry listed).2
      rw [idsOfQuery]
      simp only [combined, if_true, alone]
      rfl
  · rfl

theorem suppressed_resolved {held : Int → Bool} {albumId : Int}
    (suppressed : albumHoldSuppressedAlbumId unicode (some rows) allowQFallback held search =
      some albumId) :
    held albumId = true ∧
      (resolveAlbumId unicode (buildCatalogue unicode rows) search allowQFallback).albumId =
        some albumId := by
  simp only [albumHoldSuppressedAlbumId] at suppressed
  split at suppressed
  · cases suppressed
  · obtain ⟨resolved, live⟩ := Option.filter_eq_some_iff.mp suppressed
    exact ⟨live, resolved⟩

/-- A plain name has a letter exactly if normalisation leaves something of it. -/
theorem normalize_ne_nil_iff {value : List Char} (plain : PlainText reading unicode value) :
    unicode.normalize value ≠ [] ↔ lettersOf reading value ≠ [] := by
  have blank : unicode.normalize [] = [] := by
    rw [Unicode.normalize_eq]
    rfl
  have empty : PlainText reading unicode [] := fun c listed => absurd listed List.not_mem_nil
  apply not_congr
  rw [← blank, normalize_eq_iff_of_plain plain empty, ← flatten_wordsOf]
  constructor
  · intro same
    rw [same]
    rfl
  · intro none_left
    have nothing : wordsOf reading ([] : List Char) = [] := rfl
    rw [nothing]
    apply List.eq_nil_iff_forall_not_mem.mpr
    intro word listed
    have here := List.flatten_eq_nil_iff.mp none_left word listed
    rw [← words_of_plain plain] at listed
    exact (mem_words listed).1 here

theorem direct_iff (clean : Clean unicode reading rows search) :
    Direct unicode search ↔ Lettered reading search :=
  and_congr (normalize_ne_nil_iff clean.artist) (normalize_ne_nil_iff clean.album)

theorem names_of_sameWords {row : AlbumRow} (same : SameWords reading search row) :
    Names reading search row := by
  constructor
  · rw [← flatten_wordsOf, same.1, flatten_wordsOf]
  · rw [← flatten_wordsOf, same.2, flatten_wordsOf]

/-- Among clean names the code compares words. -/
theorem similar_iff (clean : Clean unicode reading rows search) {row : AlbumRow}
    (listed : row ∈ rows) (valid : row.validId ≠ none) :
    Similar unicode search row ↔ SameWords reading search row := by
  have compared : PlainText reading unicode row.artist ∧ PlainText reading unicode row.album →
      (Similar unicode search row ↔ SameWords reading search row) := by
    intro plain
    exact and_congr (normalize_eq_iff_of_plain plain.1 clean.artist)
      (normalize_eq_iff_of_plain plain.2 clean.album)
  constructor
  · intro similar
    exact (compared (clean.rows row listed valid (Or.inl similar))).mp similar
  · intro same
    exact (compared (clean.rows row listed valid (Or.inr (names_of_sameWords same)))).mpr same

theorem exists_similar_iff (clean : Clean unicode reading rows search) {albumId : Int} :
    (∃ row ∈ rows, row.validId = some albumId ∧ Similar unicode search row) ↔
      ∃ row ∈ rows, row.validId = some albumId ∧ SameWords reading search row := by
  apply exists_congr
  intro row
  apply and_congr_right
  intro listed
  apply and_congr_right
  intro valid
  exact similar_iff clean listed (by simp [valid])

theorem only_similar_iff (clean : Clean unicode reading rows search) {albumId : Int} :
    (∀ row ∈ rows, ∀ other, row.validId = some other → Similar unicode search row →
      other = albumId) ↔
      ∀ row ∈ rows, ∀ other, row.validId = some other → SameWords reading search row →
        other = albumId := by
  apply forall₂_congr
  intro row listed
  apply forall₂_congr
  intro other valid
  rw [similar_iff clean listed (by simp [valid])]

/-- A search without a letter in one of its names resolves to nothing. -/
theorem direct_of_resolved (clean : Clean unicode reading rows search)
    (silent : ¬ QueryDecides unicode reading rows search allowQFallback) {albumId : Int}
    (answered : (resolveAlbumId unicode (buildCatalogue unicode rows) search
      allowQFallback).albumId = some albumId) : Direct unicode search := by
  by_contra indirect
  have letterless := mt (direct_iff clean).mpr indirect
  have nothing := @resolveAlbumId_indirect unicode rows search allowQFallback indirect (by
    intro allowed asked entry listed
    constructor
    · intro same
      exact silent ⟨allowed, letterless, asked, entry, listed, Or.inl same⟩
    · intro same
      exact silent ⟨allowed, letterless, asked, entry, listed, Or.inr same⟩)
  rw [nothing] at answered
  contradiction

end Resolver

/-! ### A title with accents -/

theorem toLower_ne_nil (c : Char) : [c.toLower] ≠ [] := List.cons_ne_nil _ _

/-- Unicode as far as the letters of a few languages go. -/
def latinUnicode : Unicode where
  nfkd value := value.flatMap fun c =>
    if c = 'é' then ['e', '\u0301'] else if c = '²' then ['2'] else [c]
  combining c := c = '\u0301'
  casing :=
    { lowerChar := fun c => [c.toLower]
      cased := Char.isAlpha
      ignorable := fun _ => false
      lowerChar_ne_nil := toLower_ne_nil }
  nfkd_starters value := by
    rw [List.filter_flatMap]
    simp

/-- A reader who knows the accent, and takes a raised two for a digit of its own. -/
def latinReading (c : Char) : Glyph :=
  if c = 'é' then .letter 'e'
  else if c = '\u0301' then .diacritic
  else if c ∈ [' ', '-', '/', '!'] then .gap
  else .letter c.toLower

/-- A raised two is taken for a two. -/
example : ¬ Plain latinReading latinUnicode '²' := by decide

/-- Three albums, one of them in another script. -/
def shelf : List AlbumRow :=
  [{ albumId := some 1, artist := "René".toList, album := "cet-été".toList },
    { albumId := some 2, artist := "Кино".toList, album := "Ночь".toList },
    { albumId := some 3, artist := "René".toList, album := "cet-été live".toList }]

/-- The first of them, spelled in another way. -/
def summer : AlbumSearch where
  artist := "RENE".toList
  album := "Cet ete!".toList
  q := []

/-- Unicode for words in lower case without diacritics. -/
def plainUnicode : Unicode where
  nfkd := id
  combining _ := false
  casing :=
    { lowerChar := fun c => [c]
      cased := fun _ => false
      ignorable := fun _ => false
      lowerChar_ne_nil := fun _ => List.cons_ne_nil _ _ }
  nfkd_starters value := by simp

/-- The album that is in the catalogue. -/
def house : AlbumRow where
  albumId := some 1
  artist := "x".toList
  album := "дом 2".toList

/-- The album that is searched. -/
def world : AlbumSearch where
  artist := "x".toList
  album := "мир 2".toList
  q := []

end Mintarr.Holds
