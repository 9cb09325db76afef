import Mintarr.Policy.ReleaseIdentity

/-!
# The order of the expected releases

Lidarr lists the releases of an album in some order.  The decision should not depend on it, and
does where two releases are equally good, or equally wrong.
-/

namespace Mintarr.Policy

/-- What of a result is compared. -/
def ReleaseIdentityResult.verdict (result : ReleaseIdentityResult) :
    IdentityDecision × ℚ × Option ReleaseId :=
  (result.decision, result.confidence, result.bestReleaseId)

/-- There is something to compare releases with. -/
def ObservedRelease.HasEvidence (observed : ObservedRelease) : Prop :=
  ¬(observed.fileCount = 0 ∧ observed.trackTitles = ∅)

/-- The order in which the releases are listed changes nothing: a current release that ties for
the best score is the same release, and a contradicting MBID makes the album the wrong one. -/
structure OrderFree (observed : ObservedRelease) (expected : List ExpectedRelease)
    (current : Option ReleaseId) : Prop where
  same : ∀ listed, listed.Perm expected →
    (evaluateReleaseIdentity observed listed current).verdict =
      (evaluateReleaseIdentity observed expected current).verdict
  tied : (∀ release ∈ expected, contradicts observed release = false) → observed.HasEvidence →
    ∀ release ∈ expected, release.releaseId = current →
      (∀ other ∈ expected, scoreReleaseMatch observed other ≤ scoreReleaseMatch observed release) →
      (∃ other ∈ expected, other ≠ release ∧
        scoreReleaseMatch observed other = scoreReleaseMatch observed release) →
      ∀ listed, listed.Perm expected →
        (evaluateReleaseIdentity observed listed current).decision = .sameRelease
  wrong : (∃ release ∈ expected, contradicts observed release = true) →
    ∀ listed, listed.Perm expected →
      (evaluateReleaseIdentity observed listed current).decision = .wrongAlbum

/-- One release is wrong, or none is and there is no evidence or one best release. -/
def Settled (observed : ObservedRelease) (expected : List ExpectedRelease) : Prop :=
  (∃ release ∈ expected, contradicts observed release = true ∧
    ∀ other ∈ expected, contradicts observed other = true → other = release) ∨
  (∀ release ∈ expected, contradicts observed release = false) ∧
    (expected = [] ∨ ¬ observed.HasEvidence ∨
      ∃ best ∈ expected, ∀ other ∈ expected, other ≠ best →
        scoreReleaseMatch observed other < scoreReleaseMatch observed best)

section Order

variable {observed : ObservedRelease} {expected : List ExpectedRelease}
variable {current : Option ReleaseId}

/-- A contradiction that is found is one of a listed release. -/
theorem mbidContradiction_eq_some {release : ExpectedRelease} {reason : String}
    (found : mbidContradiction observed expected = some (release, reason)) :
    release ∈ expected ∧ contradicts observed release = true := by
  rw [mbidContradiction, List.findSome?_eq_some_iff] at found
  obtain ⟨before, listed, after, split, here, _⟩ := found
  rw [split]
  by_cases artist : mbidMismatch observed.artistMbid listed.artistMbid = true
  · rw [if_pos artist] at here
    cases here
    exact ⟨by simp, by simp [contradicts, artist]⟩
  · rw [if_neg artist] at here
    by_cases group : mbidMismatch observed.releaseGroupMbid listed.releaseGroupMbid = true
    · rw [if_pos group] at here
      cases here
      exact ⟨by simp, by simp [contradicts, group]⟩
    · rw [if_neg group] at here
      cases here

/-- A wrong release that is listed is reported. -/
theorem verdict_of_contradicts
    (wrong : ∃ release ∈ expected, contradicts observed release = true) :
    ∃ release ∈ expected, contradicts observed release = true ∧
      (evaluateReleaseIdentity observed expected current).verdict =
        (.wrongAlbum, 100, release.releaseId) := by
  cases found : mbidContradiction observed expected with
  | none =>
      obtain ⟨release, listed, contradicting⟩ := wrong
      rw [mbidContradiction_eq_none.mp found release listed] at contradicting
      cases contradicting
  | some pair =>
      obtain ⟨listed, contradicting⟩ := mbidContradiction_eq_some found
      refine ⟨pair.1, listed, contradicting, ?_⟩
      simp [evaluateReleaseIdentity, found, ReleaseIdentityResult.verdict]

/-- A wrong release that is listed first is reported. -/
theorem verdict_of_first {release : ExpectedRelease} {rest : List ExpectedRelease}
    (contradicting : contradicts observed release = true) :
    (evaluateReleaseIdentity observed (release :: rest) current).verdict =
      (.wrongAlbum, 100, release.releaseId) := by
  have found :
      ∃ reason, mbidContradiction observed (release :: rest) = some (release, reason) := by
    rw [mbidContradiction, List.findSome?_cons]
    cases artist : mbidMismatch observed.artistMbid release.artistMbid with
    | true => exact ⟨_, rfl⟩
    | false =>
        have group : mbidMismatch observed.releaseGroupMbid release.releaseGroupMbid = true := by
          simpa [contradicts, artist] using contradicting
        rw [group]
        exact ⟨_, rfl⟩
  obtain ⟨reason, found⟩ := found
  simp [evaluateReleaseIdentity, found, ReleaseIdentityResult.verdict]

/-- What a best release is reported as. -/
def verdictOf (observed : ObservedRelease) (current : Option ReleaseId)
    (best : ExpectedRelease) : IdentityDecision × ℚ × Option ReleaseId :=
  (if best.releaseId = current ∧ scoreReleaseMatch observed best ≥ 95 then .sameRelease
    else if scoreReleaseMatch observed best ≥ 80 then .sameFamily
    else .ambiguousEdition, scoreReleaseMatch observed best, best.releaseId)

theorem verdict_of_bestMatch {first : ExpectedRelease} {rest : List ExpectedRelease}
    (consistent : ∀ release ∈ first :: rest, contradicts observed release = false)
    (evidence : observed.HasEvidence) :
    (evaluateReleaseIdentity observed (first :: rest) current).verdict =
      verdictOf observed current (bestMatch observed first rest) := by
  have some : (observed.fileCount = 0 && observed.trackTitles = ∅) = false := by
    simpa [ObservedRelease.HasEvidence] using evidence
  have none := mbidContradiction_eq_none.mpr consistent
  simp only [evaluateReleaseIdentity, none, some, ReleaseIdentityResult.verdict, verdictOf]
  by_cases same : (bestMatch observed first rest).releaseId = current ∧
      scoreReleaseMatch observed (bestMatch observed first rest) ≥ 95
  · simp [same]
  · by_cases family : scoreReleaseMatch observed (bestMatch observed first rest) ≥ 80
    · simp [same, family]
    · simp [same, family]

theorem bestMatch_mem (first : ExpectedRelease) (rest : List ExpectedRelease) :
    bestMatch observed first rest ∈ first :: rest := by
  induction rest generalizing first with
  | nil => exact List.mem_cons_self
  | cons second rest ih =>
      rw [bestMatch, List.foldl_cons]
      split
      · exact List.mem_cons_of_mem _ (ih second)
      · cases List.mem_cons.mp (ih first) with
        | inl here =>
            rw [bestMatch] at here
            rw [here]
            exact List.mem_cons_self
        | inr later => exact List.mem_cons_of_mem _ (List.mem_cons_of_mem _ later)

/-- The first of the best releases is the best match. -/
theorem bestMatch_of_first {first : ExpectedRelease} {rest : List ExpectedRelease}
    (best : ∀ other ∈ rest,
      scoreReleaseMatch observed other ≤ scoreReleaseMatch observed first) :
    bestMatch observed first rest = first := by
  induction rest with
  | nil => rfl
  | cons second rest ih =>
      rw [List.forall_mem_cons] at best
      rw [bestMatch, List.foldl_cons, if_neg (not_lt.mpr best.1)]
      exact ih best.2

theorem bestMatch_eq_of_forall_lt {first best : ExpectedRelease} {rest : List ExpectedRelease}
    (listed : best ∈ first :: rest)
    (unique : ∀ other ∈ first :: rest, other ≠ best →
      scoreReleaseMatch observed other < scoreReleaseMatch observed best) :
    bestMatch observed first rest = best := by
  by_contra other
  have lower := unique _ (bestMatch_mem first rest) other
  exact (scoreReleaseMatch_le_bestMatch best listed).not_gt lower

/-- Without contradiction and with evidence, a single best release is reported. -/
theorem verdict_of_unique {best : ExpectedRelease}
    (consistent : ∀ release ∈ expected, contradicts observed release = false)
    (evidence : observed.HasEvidence) (listed : best ∈ expected)
    (unique : ∀ other ∈ expected, other ≠ best →
      scoreReleaseMatch observed other < scoreReleaseMatch observed best) :
    (evaluateReleaseIdentity observed expected current).verdict =
      verdictOf observed current best := by
  cases expected with
  | nil => cases listed
  | cons first rest =>
      rw [verdict_of_bestMatch consistent evidence, bestMatch_eq_of_forall_lt listed unique]

/-- A best release that is listed first is reported. -/
theorem verdict_of_best_first {best : ExpectedRelease} {rest : List ExpectedRelease}
    (consistent : ∀ release ∈ best :: rest, contradicts observed release = false)
    (evidence : observed.HasEvidence)
    (highest : ∀ other ∈ best :: rest,
      scoreReleaseMatch observed other ≤ scoreReleaseMatch observed best) :
    (evaluateReleaseIdentity observed (best :: rest) current).verdict =
      verdictOf observed current best := by
  have first : bestMatch observed best rest = best := by
    apply bestMatch_of_first
    intro other listed
    exact highest other (List.mem_cons_of_mem _ listed)
  rw [verdict_of_bestMatch consistent evidence, first]

/-- Where there is nothing to decide from, nothing is decided. -/
theorem verdict_of_no_evidence
    (consistent : ∀ release ∈ expected, contradicts observed release = false)
    (nothing : expected = [] ∨ ¬ observed.HasEvidence) :
    (evaluateReleaseIdentity observed expected current).verdict =
      (.insufficientEvidence, 0, none) := by
  have none := mbidContradiction_eq_none.mpr consistent
  cases expected with
  | nil => rfl
  | cons first rest =>
      have absent : (observed.fileCount = 0 && observed.trackTitles = ∅) = true := by
        simpa [ObservedRelease.HasEvidence] using nothing
      simp [evaluateReleaseIdentity, none, absent, ReleaseIdentityResult.verdict]

/-- Some listed release scores no less than any other. -/
theorem exists_highest (listed : expected ≠ []) : ∃ best ∈ expected, ∀ other ∈ expected,
    scoreReleaseMatch observed other ≤ scoreReleaseMatch observed best := by
  cases expected with
  | nil => exact absurd rfl listed
  | cons first rest =>
      exact ⟨bestMatch observed first rest, bestMatch_mem first rest,
        scoreReleaseMatch_le_bestMatch⟩

/-- Two releases that are each reported when listed first are one release. -/
theorem OrderFree.eq_of_first (free : OrderFree observed expected current)
    (distinct : (expected.map ExpectedRelease.releaseId).Nodup) {one other : ExpectedRelease}
    (listed : one ∈ expected) (also : other ∈ expected)
    (reported : ∀ release, release = one ∨ release = other →
      (evaluateReleaseIdentity observed (release :: expected.erase release) current).verdict.2.2 =
        release.releaseId) : one = other := by
  apply List.inj_on_of_nodup_map distinct listed also
  rw [← reported one (Or.inl rfl), ← reported other (Or.inr rfl),
    free.same _ (List.perm_cons_erase listed).symm, free.same _ (List.perm_cons_erase also).symm]

theorem OrderFree.settled (free : OrderFree observed expected current)
    (distinct : (expected.map ExpectedRelease.releaseId).Nodup) : Settled observed expected := by
  by_cases consistent : ∀ release ∈ expected, contradicts observed release = false
  · apply Or.inr
    refine ⟨consistent, ?_⟩
    by_cases empty : expected = []
    · exact Or.inl empty
    · apply Or.inr
      by_cases evidence : observed.HasEvidence
      · apply Or.inr
        obtain ⟨best, listed, highest⟩ := exists_highest empty
        refine ⟨best, listed, ?_⟩
        intro other also different
        apply lt_of_le_of_ne (highest other also)
        -- a second best release would be reported if it came first
        intro tie
        apply different
        apply free.eq_of_first distinct also listed
        intro release which
        have member : release ∈ expected := by
          cases which with
          | inl here => rw [here]; exact also
          | inr here => rw [here]; exact listed
        have score :
            scoreReleaseMatch observed release = scoreReleaseMatch observed best := by
          cases which with
          | inl here => rw [here, tie]
          | inr here => rw [here]
        have perm := List.perm_cons_erase member
        rw [verdict_of_best_first _ evidence]
        · rfl
        · intro candidate among
          rw [score]
          exact highest candidate (perm.mem_iff.mpr among)
        · intro candidate among
          exact consistent candidate (perm.mem_iff.mpr among)
      · exact Or.inl evidence
  · apply Or.inl
    push Not at consistent
    obtain ⟨release, listed, contradicting⟩ := consistent
    rw [ne_eq, Bool.not_eq_false] at contradicting
    refine ⟨release, listed, contradicting, ?_⟩
    intro other also wrong
    apply free.eq_of_first distinct also listed
    intro candidate which
    have contradicted : contradicts observed candidate = true := by
      cases which with
      | inl here => rw [here]; exact wrong
      | inr here => rw [here]; exact contradicting
    rw [verdict_of_first contradicted]

theorem contradicts_of_perm {listed : List ExpectedRelease} (perm : listed.Perm expected)
    (consistent : ∀ release ∈ expected, contradicts observed release = false) :
    ∀ release ∈ listed, contradicts observed release = false := by
  intro release member
  exact consistent release (perm.mem_iff.mp member)

/-- A contradicting MBID makes the album the wrong one in every order. -/
theorem decision_of_perm {listed : List ExpectedRelease} (perm : listed.Perm expected)
    (contradicted : ∃ release ∈ expected, contradicts observed release = true) :
    (evaluateReleaseIdentity observed listed current).decision = .wrongAlbum := by
  obtain ⟨release, member, contradicting⟩ := contradicted
  exact evaluateReleaseIdentity_wrongAlbum_iff.mpr
    ⟨release, perm.mem_iff.mpr member, contradicting⟩

/-- The only release that contradicts is reported in every order. -/
theorem verdict_of_only_contradicting {release : ExpectedRelease}
    {listed : List ExpectedRelease} (perm : listed.Perm expected) (member : release ∈ expected)
    (contradicting : contradicts observed release = true)
    (only : ∀ other ∈ expected, contradicts observed other = true → other = release) :
    (evaluateReleaseIdentity observed listed current).verdict =
      (.wrongAlbum, 100, release.releaseId) := by
  have contradicted : ∃ other ∈ listed, contradicts observed other = true :=
    ⟨release, perm.mem_iff.mpr member, contradicting⟩
  obtain ⟨other, also, wrong, verdict⟩ := verdict_of_contradicts contradicted
  rw [verdict, only other (perm.mem_iff.mp also) wrong]

theorem Settled.same (settled : Settled observed expected) {listed : List ExpectedRelease}
    (perm : listed.Perm expected) : (evaluateReleaseIdentity observed listed current).verdict =
      (evaluateReleaseIdentity observed expected current).verdict := by
  cases settled with
  | inl found =>
      obtain ⟨release, member, contradicting, only⟩ := found
      rw [verdict_of_only_contradicting perm member contradicting only,
        verdict_of_only_contradicting (List.Perm.refl expected) member contradicting only]
  | inr found =>
      obtain ⟨consistent, nothing⟩ := found
      by_cases evidence : observed.HasEvidence
      · cases nothing with
        | inl empty =>
            rw [empty] at perm
            rw [perm.eq_nil, empty]
        | inr nothing =>
            obtain ⟨best, member, unique⟩ := nothing.resolve_left (not_not_intro evidence)
            rw [verdict_of_unique consistent evidence member unique,
              verdict_of_unique (contradicts_of_perm perm consistent) evidence
                (perm.mem_iff.mpr member)]
            intro other also
            exact unique other (perm.mem_iff.mp also)
      · rw [verdict_of_no_evidence consistent (Or.inr evidence),
          verdict_of_no_evidence (contradicts_of_perm perm consistent) (Or.inr evidence)]

/-- No release ties for the best score. -/
theorem Settled.not_tied (settled : Settled observed expected)
    (consistent : ∀ release ∈ expected, contradicts observed release = false)
    (evidence : observed.HasEvidence) {release other : ExpectedRelease}
    (member : release ∈ expected)
    (highest : ∀ other ∈ expected,
      scoreReleaseMatch observed other ≤ scoreReleaseMatch observed release)
    (also : other ∈ expected) (different : other ≠ release) :
    scoreReleaseMatch observed other ≠ scoreReleaseMatch observed release := by
  cases settled with
  | inl found =>
      obtain ⟨wrong, listed, contradicting, _⟩ := found
      rw [consistent wrong listed] at contradicting
      cases contradicting
  | inr found =>
      cases found.2 with
      | inl empty =>
          rw [empty] at member
          cases member
      | inr nothing =>
          obtain ⟨best, listed, unique⟩ := nothing.resolve_left (not_not_intro evidence)
          have first : release = best := by
            by_contra lower
            exact (unique release member lower).not_ge (highest best listed)
          rw [first] at different
          rw [first]
          exact (unique other also different).ne

theorem Settled.orderFree (settled : Settled observed expected) :
    OrderFree observed expected current := by
  constructor
  · intro listed perm
    exact settled.same perm
  · intro consistent evidence release member _ highest tied
    obtain ⟨other, also, different, tie⟩ := tied
    exact absurd tie (settled.not_tied consistent evidence member highest also different)
  · intro contradicted listed perm
    exact decision_of_perm perm contradicted

/-- Where the order of the releases changes nothing. -/
theorem orderFree_iff (observed : ObservedRelease) (expected : List ExpectedRelease)
    (current : Option ReleaseId)
    (distinct : (expected.map ExpectedRelease.releaseId).Nodup) :
    OrderFree observed expected current ↔ Settled observed expected := by
  constructor
  · intro free
    exact free.settled distinct
  · exact Settled.orderFree

end Order

/-- A downloaded single. -/
def single : ObservedRelease where
  fileCount := 1
  trackTitles := {"song"}
  artistMbid := none
  releaseGroupMbid := none

/-- One of its pressings. -/
def pressing (id : Int) : ExpectedRelease where
  albumId := some 1
  releaseId := some (.number id)
  trackCount := 1
  trackTitles := {"song"}
  artistMbid := none
  releaseGroupMbid := none
  releaseMbid := none

theorem single_hasEvidence : single.HasEvidence := by simp [ObservedRelease.HasEvidence, single]

/-- Of two pressings the first that is listed is the best. -/
theorem bestReleaseId_pressing (first second : Int) (current : Option ReleaseId) :
    (evaluateReleaseIdentity single [pressing first, pressing second] current).verdict.2.2 =
      some (.number first) := by
  rw [verdict_of_best_first _ single_hasEvidence]
  · rfl
  · intro other listed
    rw [List.mem_pair] at listed
    cases listed with
    | inl here => rw [here]
    | inr here =>
        rw [here]
        exact le_of_eq rfl
  · intro other listed
    rw [List.mem_pair] at listed
    cases listed with
    | inl here => rw [here]; rfl
    | inr here => rw [here]; rfl

/-- A release with another track besides. -/
def maxiSingle : ExpectedRelease :=
  { pressing 2 with trackCount := 2, trackTitles := {"song", "remix"} }

/-- The single is the better match, wherever it is listed. -/
theorem orderFree_twoReleases :
    OrderFree single [maxiSingle, pressing 1] (some (.number 2)) := by
  apply (orderFree_iff single [maxiSingle, pressing 1] (some (.number 2)) (by decide)).mpr
  refine .inr ⟨?_, .inr (.inr ⟨pressing 1, by simp, ?_⟩)⟩
  · intro release listed
    rw [List.mem_pair] at listed
    rcases listed with rfl | rfl
    · rfl
    · rfl
  · intro other listed apart
    rw [List.mem_pair] at listed
    rcases listed with rfl | rfl
    · decide +kernel
    · exact absurd rfl apart

theorem not_orderFree_twoPressings :
    ¬ OrderFree single [pressing 1, pressing 2] (some (.number 1)) := by
  intro free
  have swapped := congrArg (·.2.2)
    (free.same [pressing 2, pressing 1] (List.Perm.swap _ _ _))
  simp only [bestReleaseId_pressing] at swapped
  cases swapped

end Mintarr.Policy
