import Mathlib.Algebra.Order.Group.Unbundled.Abs
import Mathlib.Algebra.Order.Ring.Rat
import Mathlib.Data.Finset.Card
import Mathlib.Data.Finset.Lattice.Basic
import Mathlib.Data.List.Infix
import Mintarr.Policy.Verification

/-!
# Release identity

What `_compute_verification` learns from the ManualImport items of Lidarr about the
release that was downloaded.  Track titles are as `normalize_track_title_for_match`
returns them, rejection reasons are lower-cased, and scores are rationals.
-/

namespace Mintarr.Policy

/-- A release id of Lidarr. -/
inductive ReleaseId where
  | number (id : Int)
  | text (id : String)
  deriving DecidableEq, Repr

namespace ReleaseId

/-- `bool(release_id)`. -/
def truthy : ReleaseId → Bool
  | .number id => id ≠ 0
  | .text id => id ≠ ""

/-- `release_id not in (None, "")`. -/
def given : ReleaseId → Bool
  | .number _ => true
  | .text id => id ≠ ""

end ReleaseId

/-- A track that Lidarr matched a file to. -/
structure ManualImportTrack where
  id : Int
  title : String
  deriving DecidableEq, Repr

/-- The album of a ManualImport item. -/
structure ManualImportAlbum where
  id : Option Int := none
  title : String := ""
  /-- `currentRelease.id`. -/
  currentRelease : Option ReleaseId := none
  /-- The id of the first of `releases`. -/
  firstRelease : Option ReleaseId := none
  deriving DecidableEq, Repr

/-- One item of Lidarr's manual-import lookup. The three MBIDs are the first non-empty
values that the source looks up for an item. -/
structure ManualImportItem where
  path : String
  /-- The id of the artist, when the item has one. -/
  artist : Option Int := none
  album : Option ManualImportAlbum := none
  tracks : List ManualImportTrack := []
  rejections : List String := []
  albumId : Option Int := none
  albumReleaseId : Option ReleaseId := none
  releaseId : Option ReleaseId := none
  artistMbid : Option String := none
  releaseGroupMbid : Option String := none
  releaseMbid : Option String := none
  deriving DecidableEq, Repr

namespace ManualImportItem

/-- `item["artist"] and item["album"] and item["tracks"]`. -/
def matched (item : ManualImportItem) : Bool :=
  item.artist.isSome && item.album.isSome && !item.tracks.isEmpty

/-- `is_release_family_rejection`. -/
def isReleaseFamilyRejection (item : ManualImportItem) : Bool :=
  !item.rejections.isEmpty && item.rejections.all fun reason =>
    ["match is not close enough", "missing tracks", "unmatched tracks"].any fun marker =>
      marker.toList <:+: reason.toList

/-- `_lidarr_album_id_from_record`. -/
def recordAlbumId (item : ManualImportItem) : Option Int :=
  item.albumId.or (item.album.bind (·.id))

/-- `currentRelease.id` of the item's album. -/
def currentRelease (item : ManualImportItem) : Option ReleaseId :=
  item.album.bind (·.currentRelease)

/-- `_album_release_id_from_manualimport_item`. -/
def recordReleaseId (item : ManualImportItem) : Option ReleaseId :=
  let own := if item.albumReleaseId.any (·.truthy) then item.albumReleaseId else item.releaseId
  if own.any (·.given) then own else item.currentRelease.filter (·.given)

/-- `track_title_names`. -/
def titleNames (item : ManualImportItem) : Finset String :=
  (item.tracks.map (·.title)).toFinset.erase ""

/-- What an item adds to `track_count`. -/
def trackCount (item : ManualImportItem) : Nat :=
  if item.tracks.isEmpty then if item.path = "" then 0 else 1 else item.tracks.length

end ManualImportItem

/-- `_manualimport_album_complete`. -/
def manualimportAlbumComplete (audioCount : Nat) (items : List ManualImportItem) : Bool :=
  audioCount ≠ 0 &&
    audioCount ≤ (items.filter fun item => item.rejections.isEmpty && item.matched).length

/-- What the decision reads of an `ObservedRelease`. -/
structure ObservedRelease where
  fileCount : Nat
  trackTitles : Finset String
  artistMbid : Option String
  releaseGroupMbid : Option String
  deriving DecidableEq

/-- `ExpectedRelease`. -/
structure ExpectedRelease where
  albumId : Option Int
  releaseId : Option ReleaseId
  trackCount : Nat
  trackTitles : Finset String
  artistMbid : Option String
  releaseGroupMbid : Option String
  releaseMbid : Option String
  isCurrent : Bool := false
  deriving DecidableEq

namespace ExpectedRelease

/-- The group of an item before its tracks are counted. -/
def ofItem (item : ManualImportItem) : ExpectedRelease where
  albumId := item.recordAlbumId
  releaseId := item.recordReleaseId
  trackCount := 0
  trackTitles := ∅
  artistMbid := item.artistMbid
  releaseGroupMbid := item.releaseGroupMbid
  releaseMbid := item.releaseMbid

/-- The item belongs to the group. -/
def groups (release : ExpectedRelease) (item : ManualImportItem) : Bool :=
  release.albumId = item.recordAlbumId && release.releaseId = item.recordReleaseId

/-- The group with the item's tracks. -/
def addTracks (release : ExpectedRelease) (item : ManualImportItem) : ExpectedRelease :=
  { release with
    trackCount := release.trackCount + item.trackCount
    trackTitles := release.trackTitles ∪ item.titleNames }

end ExpectedRelease

/-- The groups after one more item, in order of first appearance. -/
def groupItem (releases : List ExpectedRelease) (item : ManualImportItem) :
    List ExpectedRelease :=
  if releases.any (·.groups item) then
    releases.map fun release => if release.groups item then release.addTracks item else release
  else releases ++ [(ExpectedRelease.ofItem item).addTracks item]

/-- `_manualimport_expected_releases`. -/
def manualimportExpectedReleases (items : List ManualImportItem) :
    List ExpectedRelease × Option ReleaseId :=
  let current := items.findSome? fun item => item.currentRelease.filter (·.given)
  let releases := items.foldl groupItem []
  (releases.map fun release => { release with isCurrent := release.releaseId = current },
    current)

/-! ## Scoring -/

/-- `score_release_match`. -/
def scoreReleaseMatch (observed : ObservedRelease) (expected : ExpectedRelease) : ℚ :=
  let countScore : ℚ := max 0 (100 - |(expected.trackCount : ℚ) - observed.fileCount| * 10)
  let nameScore : ℚ :=
    if observed.trackTitles ≠ ∅ ∧ expected.trackTitles ≠ ∅ then
      (observed.trackTitles ∩ expected.trackTitles).card / observed.trackTitles.card * 100
    else 50
  countScore * (2 / 5) + nameScore * (3 / 5)

/-- The first release with the highest score, the head of the stable sort. -/
def bestMatch (observed : ObservedRelease) (first : ExpectedRelease)
    (rest : List ExpectedRelease) : ExpectedRelease :=
  rest.foldl (fun best release =>
    if scoreReleaseMatch observed best < scoreReleaseMatch observed release then release
    else best) first

/-- `ReleaseIdentityResult`. -/
structure ReleaseIdentityResult where
  decision : IdentityDecision
  confidence : ℚ
  bestReleaseId : Option ReleaseId := none
  currentReleaseId : Option ReleaseId := none
  score : ℚ := 0
  trackCountDelta : Option Nat := none
  titleSimilarity : Option ℚ := none
  reasons : List String
  deriving DecidableEq

/-- Two MBIDs that are both known and differ. -/
def mbidMismatch (observed expected : Option String) : Bool :=
  match observed, expected with
  | some observed, some expected => observed ≠ "" && expected ≠ "" && observed ≠ expected
  | _, _ => false

/-- The first expected release whose MBIDs contradict the observed ones, and the reason. -/
def mbidContradiction (observed : ObservedRelease) (expected : List ExpectedRelease) :
    Option (ExpectedRelease × String) :=
  expected.findSome? fun release =>
    if mbidMismatch observed.artistMbid release.artistMbid then
      some (release, "artist MBID mismatch")
    else if mbidMismatch observed.releaseGroupMbid release.releaseGroupMbid then
      some (release, "release-group MBID mismatch")
    else none

/-- `evaluate_release_identity`, with its default thresholds. -/
def evaluateReleaseIdentity (observed : ObservedRelease)
    (expected : List ExpectedRelease) (current : Option ReleaseId) : ReleaseIdentityResult :=
  match mbidContradiction observed expected with
  | some (release, reason) =>
      { decision := .wrongAlbum, confidence := 100, bestReleaseId := release.releaseId
        currentReleaseId := current, reasons := [reason] }
  | none =>
      match expected with
      | [] =>
          { decision := .insufficientEvidence, confidence := 0, currentReleaseId := current
            reasons := ["insufficient release evidence"] }
      | first :: rest =>
          if observed.fileCount = 0 && observed.trackTitles = ∅ then
            { decision := .insufficientEvidence, confidence := 0, currentReleaseId := current
              reasons := ["insufficient release evidence"] }
          else
            let best := bestMatch observed first rest
            let score := scoreReleaseMatch observed best
            let outcome : IdentityDecision × String :=
              if best.releaseId = current && score ≥ 95 then
                (.sameRelease, "matches current Lidarr release")
              else if score ≥ 80 then
                (.sameFamily, "matches another Lidarr release in the same album family")
              else (.ambiguousEdition, "no release reached same-family confidence")
            { decision := outcome.1
              confidence := score
              bestReleaseId := best.releaseId
              currentReleaseId := current
              score
              trackCountDelta := (best.trackCount - observed.fileCount : Int).natAbs
              titleSimilarity :=
                if observed.trackTitles ≠ ∅ ∧ best.trackTitles ≠ ∅ then
                  some ((observed.trackTitles ∩ best.trackTitles).card /
                    observed.trackTitles.card)
                else none
              reasons := [outcome.2] }

/-- The result `_release_identity_result` returns instead, when Lidarr's own matching
speaks for the release. -/
def ReleaseIdentityResult.sameRelease (result : ReleaseIdentityResult)
    (expected : List ExpectedRelease) (atLeast : ℚ) (reason : String) :
    ReleaseIdentityResult :=
  { result with
    decision := .sameRelease
    confidence := max result.confidence atLeast
    bestReleaseId :=
      match (expected.find? (·.isCurrent)).or expected.head? with
      | some release => release.releaseId
      | none => result.currentReleaseId
    score := max result.score atLeast
    reasons := reason :: result.reasons }

/-- `_release_identity_result`. -/
def releaseIdentityResult (observed : ObservedRelease) (items : List ManualImportItem)
    (manualimportComplete : Bool) : ReleaseIdentityResult :=
  let (expected, current) := manualimportExpectedReleases items
  let result := evaluateReleaseIdentity observed expected current
  if result.decision = .wrongAlbum then result
  else if result.decision ∉ [.ambiguousEdition, .insufficientEvidence] then result
  else if manualimportComplete then
    result.sameRelease expected 85 "Lidarr ManualImport matched every observed audio file"
  else if items.any fun item => item.matched && !item.isReleaseFamilyRejection then
    result.sameRelease expected 75 "Lidarr ManualImport resolved target album tracks"
  else result

/-! ## What an identity rests on -/

section Identity

variable {observed : ObservedRelease} {expected : List ExpectedRelease}
variable {current : Option ReleaseId}

/-- The MBIDs of an expected release contradict the observed ones. -/
def contradicts (observed : ObservedRelease) (release : ExpectedRelease) : Bool :=
  mbidMismatch observed.artistMbid release.artistMbid ||
    mbidMismatch observed.releaseGroupMbid release.releaseGroupMbid

theorem mbidContradiction_eq_none : mbidContradiction observed expected = none ↔
    ∀ release ∈ expected, contradicts observed release = false := by
  rw [mbidContradiction, List.findSome?_eq_none_iff]
  apply forall₂_congr
  intro release _
  cases artist : mbidMismatch observed.artistMbid release.artistMbid with
  | true => simp [contradicts, artist]
  | false =>
      cases group : mbidMismatch observed.releaseGroupMbid release.releaseGroupMbid <;>
        simp [contradicts, artist, group]

/-- Nothing but an MBID makes a release the wrong album. -/
theorem evaluateReleaseIdentity_wrongAlbum_iff :
    (evaluateReleaseIdentity observed expected current).decision = .wrongAlbum ↔
      ∃ release ∈ expected, contradicts observed release = true := by
  cases contradiction : mbidContradiction observed expected with
  | some found =>
      have exists_contradicting :
          ¬∀ release ∈ expected, contradicts observed release = false := by
        rw [← mbidContradiction_eq_none, contradiction]
        exact Option.some_ne_none found
      simpa [evaluateReleaseIdentity, contradiction] using exists_contradicting
  | none =>
      have consistent := mbidContradiction_eq_none.mp contradiction
      have none_contradicts : ¬∃ release ∈ expected, contradicts observed release = true := by
        intro found
        rcases found with ⟨release, listed, contradicting⟩
        exact Bool.false_ne_true ((consistent release listed).symm.trans contradicting)
      simp only [none_contradicts, iff_false, evaluateReleaseIdentity, contradiction]
      split
      · simp
      · split
        · simp
        · simp only
          split_ifs <;> simp

/-- Lidarr's own matching never overrules a contradicting MBID. -/
theorem releaseIdentityResult_wrongAlbum_iff {items : List ManualImportItem}
    {manualimportComplete : Bool} :
    (releaseIdentityResult observed items manualimportComplete).decision = .wrongAlbum ↔
      ∃ release ∈ (manualimportExpectedReleases items).1,
        contradicts observed release = true := by
  rw [← @evaluateReleaseIdentity_wrongAlbum_iff _ _ (manualimportExpectedReleases items).2]
  simp only [releaseIdentityResult]
  split
  · rfl
  · split
    · rfl
    · split
      · next overruled _ _ => simp [ReleaseIdentityResult.sameRelease, overruled]
      · split
        · next overruled _ _ _ => simp [ReleaseIdentityResult.sameRelease, overruled]
        · rfl

/-- No expected release scores higher than the best match. -/
theorem scoreReleaseMatch_le_bestMatch {first : ExpectedRelease}
    {rest : List ExpectedRelease} : ∀ release ∈ first :: rest,
      scoreReleaseMatch observed release ≤
        scoreReleaseMatch observed (bestMatch observed first rest) := by
  induction rest generalizing first with
  | nil => simp [bestMatch]
  | cons second rest ih =>
      intro release listed
      rw [bestMatch, List.foldl_cons]
      split
      · next better =>
          rcases List.mem_cons.mp listed with rfl | later
          · exact better.le.trans (ih second List.mem_cons_self)
          · exact ih release later
      · next worse =>
          rcases List.mem_cons.mp listed with rfl | later
          · exact ih release List.mem_cons_self
          · rcases List.mem_cons.mp later with rfl | later
            · exact (not_lt.mp worse).trans (ih first List.mem_cons_self)
            · exact ih release (List.mem_cons_of_mem _ later)

end Identity

end Mintarr.Policy
