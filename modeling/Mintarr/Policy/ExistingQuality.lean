import Mintarr.Evidence.Measure
import Mintarr.Lib.Lists
import Mintarr.Policy.LibraryComparison

/-!
# What the comparison reads of the existing release

New knowledge about the existing rows and a better candidate both keep an upgrade, and
keeping the release takes knowledge of every measured row.

The rows come from SQLite, which returns integers, while the rollup looks for the
boolean `False`: corruption that was measured and stored does not reach the comparison.
-/

namespace Mintarr.Policy

open Evidence Lib

/-- `compare`, where the release may have no measured evidence. -/
def compareExisting (candidate : CandidateQuality) (existing : Option AlbumQuality)
    (existingIncomplete considerExistingAuthenticity considerExistingIntegrity : Bool) :
    ComparisonVerdict :=
  match existing with
  | none => .review
  | some existing =>
      compare candidate existing existingIncomplete considerExistingAuthenticity
        considerExistingIntegrity

/-! ## The rollup -/

/-- `r.get("status") == "measured"`. -/
def isMeasured (row : Row) : Bool := row.status = some "measured"

/-- `r.get("spectral_status") == "measured"`. -/
def isSpectral (row : Row) : Bool := row.spectralStatus = some "measured"

theorem mem_measured {rows : List Row} {row : Row} :
    row ∈ rows.filter (·.status = some "measured") ↔ row ∈ rows ∧ isMeasured row = true := by
  simp [isMeasured]

/-- A running minimum of tiers is one of them and below the others. -/
theorem foldl_min_rowTier {rest : List Row} :
    ∀ tier low : Nat, rest.foldl (fun tier row => min tier (rowTier row)) tier = low →
      (tier = low ∨ ∃ row ∈ rest, rowTier row = low) ∧ low ≤ tier ∧
        ∀ row ∈ rest, low ≤ rowTier row := by
  induction rest with
  | nil =>
      intro tier low folded
      simp only [List.foldl_nil] at folded
      simp [folded]
  | cons head tail ih =>
      intro tier low folded
      have found := ih (min tier (rowTier head)) low folded
      have below := Nat.le_min.mp found.2.1
      constructor
      · cases Nat.le_total tier (rowTier head) with
        | inl lower =>
            rw [Nat.min_eq_left lower] at found
            exact found.1.imp id fun later => by
              obtain ⟨row, present, equal⟩ := later
              exact ⟨row, List.mem_cons_of_mem head present, equal⟩
        | inr higher =>
            rw [Nat.min_eq_right higher] at found
            right
            cases found.1 with
            | inl equal => exact ⟨head, List.mem_cons_self, equal⟩
            | inr later =>
                obtain ⟨row, present, equal⟩ := later
                exact ⟨row, List.mem_cons_of_mem head present, equal⟩
      · constructor
        · exact below.1
        · intro row present
          cases List.mem_cons.mp present with
          | inl first => exact first ▸ below.2
          | inr later => exact found.2.2 row later

/-- What the rollup says of the measured rows, in terms of the rows. -/
structure Rollup (rows : List Row) (quality : AlbumQuality) : Prop where
  any_invalid : quality.anyInvalid = true ↔
    ∃ row ∈ rows, isMeasured row = true ∧ row.integrityOk.isFalse = true
  all_valid : quality.allValid = !quality.anyInvalid
  tier_attained : ∃ row ∈ rows, isMeasured row = true ∧ rowTier row = quality.minTier
  tier_below : ∀ row ∈ rows, isMeasured row = true → quality.minTier ≤ rowTier row
  any_fake : quality.anyFake = true ↔
    ∃ row ∈ rows, isMeasured row = true ∧ isSpectral row = true ∧ row.authentic.eqZero = true
  authenticity_known : quality.authenticityKnown = true ↔
    ∀ row ∈ rows, isMeasured row = true → isSpectral row = true
  integrity_known : quality.integrityKnown = true ↔
    ∀ row ∈ rows, isMeasured row = true → row.integrityKnown = true

/-- The rollup is there as soon as one row is measured. -/
theorem albumQuality_eq_none_iff {rows : List Row} :
    albumQuality rows = none ↔ ∀ row ∈ rows, isMeasured row = false := by
  have none_left : rows.filter (·.status = some "measured") = [] ↔
      ∀ row ∈ rows, isMeasured row = false := by
    rw [List.filter_eq_nil_iff]
    simp [isMeasured]
  rw [← none_left, albumQuality]
  cases rows.filter (·.status = some "measured") with
  | nil => simp
  | cons first rest => simp

theorem rollup_of_albumQuality {rows : List Row} {quality : AlbumQuality}
    (rolled : albumQuality rows = some quality) : Rollup rows quality := by
  have measured : ∀ row, row ∈ rows.filter (·.status = some "measured") ↔
      row ∈ rows ∧ isMeasured row = true := fun row => mem_measured
  rw [albumQuality] at rolled
  cases kept : rows.filter (·.status = some "measured") with
  | nil =>
      rw [kept] at rolled
      contradiction
  | cons first rest =>
      rw [kept] at rolled measured
      injection rolled with rolled
      subst rolled
      have tiers := @foldl_min_rowTier rest (rowTier first) _ rfl
      constructor
      · simp only [List.any_eq_true, measured, and_assoc]
      · simp only [List.not_any_eq_all_not]
      · cases tiers.1 with
        | inl head =>
            have present := (measured first).mp List.mem_cons_self
            exact ⟨first, present.1, present.2, head⟩
        | inr later =>
            obtain ⟨row, tail, equal⟩ := later
            have present := (measured row).mp (List.mem_cons_of_mem first tail)
            exact ⟨row, present.1, present.2, equal⟩
      · intro row present fresh
        cases List.mem_cons.mp ((measured row).mpr ⟨present, fresh⟩) with
        | inl head => exact head ▸ tiers.2.1
        | inr tail => exact tiers.2.2 row tail
      · simp only [List.any_eq_true, List.mem_filter, measured, and_assoc, isSpectral]
      · have everywhere : ((first :: rest).filter (·.spectralStatus = some "measured")).length =
            (first :: rest).length ↔ ∀ row ∈ first :: rest, isSpectral row = true := by
          rw [List.length_filter_eq_length_iff]
          rfl
        simp only [Bool.and_eq_true, decide_eq_true_eq, everywhere]
        constructor
        · intro known row present fresh
          exact known.1 row ((measured row).mpr ⟨present, fresh⟩)
        · intro known
          have spectral : ∀ row ∈ first :: rest, isSpectral row = true := by
            intro row present
            exact known row ((measured row).mp present).1 ((measured row).mp present).2
          exact ⟨spectral, by rw [everywhere.mpr spectral]; simp⟩
      · simp only [List.all_eq_true]
        constructor
        · intro known row present fresh
          exact known row ((measured row).mpr ⟨present, fresh⟩)
        · intro known row present
          exact known row ((measured row).mp present).1 ((measured row).mp present).2

/-! ## When the comparison upgrades or keeps -/

variable {candidate : CandidateQuality} {existing : AlbumQuality}
  {incomplete authenticity integrity : Bool}

/-- A defect that was measured in the existing release. -/
def AlbumQuality.defective (existing : AlbumQuality) (authenticity : Bool) : Bool :=
  existing.anyInvalid || authenticity && existing.anyFake

/-- A usable candidate upgrades a defective release. -/
theorem compare_of_defective (valid : candidate.valid = true)
    (genuine : candidate.authentic = true) (defect : existing.defective authenticity = true) :
    compare candidate existing incomplete authenticity integrity = .upgrade := by
  rw [AlbumQuality.defective, Bool.or_eq_true] at defect
  cases defect with
  | inl invalid => simp [compare, valid, genuine, invalid]
  | inr fake => simp [compare, valid, genuine, fake]

/-- Against a sound release the tiers decide, and then what is known of it. -/
theorem compare_of_sound (valid : candidate.valid = true) (genuine : candidate.authentic = true)
    (sound : existing.defective authenticity = false) :
    compare candidate existing incomplete authenticity integrity =
      if !candidate.tierKnown then .review
      else if candidate.tier > existing.minTier then .upgrade
      else if candidate.tier = existing.minTier && candidate.complete && incomplete then .upgrade
      else if integrity && !existing.integrityKnown then .review
      else if authenticity && !existing.authenticityKnown then .review
      else if candidate.tier < existing.minTier then .downgrade
      else .equivalent := by
  rw [AlbumQuality.defective, Bool.or_eq_false_iff] at sound
  simp only [compare, valid, genuine, sound.1, sound.2, Bool.not_true, Bool.false_eq_true,
    if_false]

/-- A usable candidate upgrades a defective release, and beats a sound one on tier or
completeness if its tier is known. -/
theorem compare_eq_upgrade_iff :
    compare candidate existing incomplete authenticity integrity = .upgrade ↔
      candidate.valid = true ∧ candidate.authentic = true ∧
        (existing.defective authenticity = true ∨ candidate.tierKnown = true ∧
          (existing.minTier < candidate.tier ∨ candidate.tier = existing.minTier ∧
            candidate.complete = true ∧ incomplete = true)) := by
  cases valid : candidate.valid with
  | false => simp [compare, valid]
  | true =>
      cases genuine : candidate.authentic with
      | false => simp [compare, valid, genuine]
      | true =>
          cases defect : existing.defective authenticity with
          | true => simp [compare_of_defective valid genuine defect]
          | false =>
              rw [compare_of_sound valid genuine defect]
              cases candidate.tierKnown with
              | false => simp
              | true =>
                  by_cases better : existing.minTier < candidate.tier
                  · simp [better]
                  · by_cases completes : candidate.tier = existing.minTier ∧
                        candidate.complete = true ∧ incomplete = true
                    · simp [completes]
                    · -- what comes after the tiers never upgrades
                      have passed : (decide (candidate.tier = existing.minTier) &&
                          candidate.complete && incomplete) = false := by
                        simpa [and_assoc] using completes
                      simp only [better, passed, completes, Bool.not_true, Bool.false_eq_true,
                        if_false, or_self, and_false, iff_false]
                      split_ifs <;> simp

/-- A usable candidate loses to the existing release, or equals it, only where each axis
that counts is known. -/
theorem kept_of_compare (valid : candidate.valid = true) (genuine : candidate.authentic = true)
    (kept : compare candidate existing incomplete authenticity integrity = .downgrade ∨
      compare candidate existing incomplete authenticity integrity = .equivalent) :
    candidate.tierKnown = true ∧ existing.defective authenticity = false ∧
      (integrity = true → existing.integrityKnown = true) ∧
      (authenticity = true → existing.authenticityKnown = true) := by
  cases defect : existing.defective authenticity with
  | true => simp [compare_of_defective valid genuine defect] at kept
  | false =>
      rw [compare_of_sound valid genuine defect] at kept
      cases tierKnown : candidate.tierKnown with
      | false => simp [tierKnown] at kept
      | true =>
          refine ⟨rfl, rfl, ?_, ?_⟩
          · intro counts
            cases known : existing.integrityKnown with
            | true => rfl
            | false =>
                simp only [tierKnown, counts, known, Bool.not_true, Bool.not_false,
                  Bool.false_eq_true, Bool.and_true, if_false, if_true] at kept
                split_ifs at kept <;> simp at kept
          · intro counts
            cases known : existing.authenticityKnown with
            | true => rfl
            | false =>
                simp only [tierKnown, counts, known, Bool.not_true, Bool.not_false,
                  Bool.false_eq_true, Bool.and_true, if_false, if_true] at kept
                split_ifs at kept <;> simp at kept

/-! ## More knowledge, and enough of it -/

/-- What the three sensors have to say of a row besides its tier. -/
def unverified (row : Row) : Row :=
  { row with
    integrityOk := .unknown
    checksumOk := .unknown
    integrityIssue := none
    integritySensorVersion := none
    integrityKnown := false
    authentic := .unknown
    spectralStatus := none
    spectralReason := none
    spectralVerdict := none
    spectralSensorVersion := none }

/-- A row after its integrity went from unknown to known, or its spectral verdict from
missing to measured, or both, or neither. -/
structure Resolves (row resolved : Row) : Prop where
  metadata : unverified resolved = unverified row
  integrity : resolved.integrityOk = row.integrityOk ∧
      resolved.integrityKnown = row.integrityKnown ∨
    row.integrityOk = .unknown ∧ row.integrityKnown = false ∧ resolved.integrityKnown = true
  spectral : resolved.spectralStatus = row.spectralStatus ∧
      resolved.authentic = row.authentic ∨
    isSpectral row = false ∧ isSpectral resolved = true

namespace Resolves

variable {row resolved : Row}

theorem isMeasured_eq (resolves : Resolves row resolved) :
    isMeasured resolved = isMeasured row := by
  have status := congrArg Row.status resolves.metadata
  simp only [unverified] at status
  simp [isMeasured, status]

theorem rowTier_eq (resolves : Resolves row resolved) : rowTier resolved = rowTier row := by
  have lossless := congrArg Row.lossless resolves.metadata
  have bitDepth := congrArg Row.bitDepth resolves.metadata
  have sampleRate := congrArg Row.sampleRate resolves.metadata
  simp only [unverified] at lossless bitDepth sampleRate
  simp [rowTier, lossless, bitDepth, sampleRate]

/-- Corruption that was known stays known. -/
theorem invalid (resolves : Resolves row resolved) (broken : row.integrityOk.isFalse = true) :
    resolved.integrityOk.isFalse = true := by
  cases resolves.integrity with
  | inl same => rw [same.1, broken]
  | inr fresh =>
      rw [fresh.1] at broken
      contradiction

/-- A fake that was known stays known. -/
theorem fake (resolves : Resolves row resolved) (heard : isSpectral row = true)
    (faked : row.authentic.eqZero = true) :
    isSpectral resolved = true ∧ resolved.authentic.eqZero = true := by
  cases resolves.spectral with
  | inl same =>
      rw [isSpectral, same.1, same.2]
      exact ⟨heard, faked⟩
  | inr fresh =>
      rw [fresh.1] at heard
      contradiction

end Resolves

/-- A candidate that is no worse on any axis, and as valid and authentic as before. -/
structure CandidateQuality.Improves (candidate better : CandidateQuality) : Prop where
  valid : better.valid = candidate.valid
  authentic : better.authentic = candidate.authentic
  tier : candidate.tier ≤ better.tier
  tier_known : candidate.tierKnown = true → better.tierKnown = true
  complete : candidate.complete = true → better.complete = true

variable {rows resolved : List Row} {better : CandidateQuality}

/-- Resolving rows neither adds nor removes measured evidence, leaves the weakest tier,
and forgets no defect. -/
theorem rollup_of_resolves (resolves : List.Forall₂ Resolves rows resolved)
    {before : AlbumQuality} (rolled : albumQuality rows = some before) :
    ∃ after, albumQuality resolved = some after ∧ after.minTier = before.minTier ∧
      ∀ authenticity, before.defective authenticity = true →
        after.defective authenticity = true := by
  have rollup := rollup_of_albumQuality rolled
  obtain ⟨weakest, present, fresh, lowest⟩ := rollup.tier_attained
  obtain ⟨weakestAfter, presentAfter, step⟩ := Related.right resolves present
  have freshAfter : isMeasured weakestAfter = true := by rw [step.isMeasured_eq, fresh]
  cases rolledAfter : albumQuality resolved with
  | none =>
      have unmeasured := albumQuality_eq_none_iff.mp rolledAfter weakestAfter presentAfter
      rw [freshAfter] at unmeasured
      contradiction
  | some after =>
      have rollupAfter := rollup_of_albumQuality rolledAfter
      refine ⟨after, rfl, ?_, ?_⟩
      · apply Nat.le_antisymm
        · rw [← lowest, ← step.rowTier_eq]
          exact rollupAfter.tier_below weakestAfter presentAfter freshAfter
        · obtain ⟨other, member, measured, attained⟩ := rollupAfter.tier_attained
          obtain ⟨row, source, back⟩ := Related.left resolves member
          rw [← attained, back.rowTier_eq]
          exact rollup.tier_below row source (by rw [← back.isMeasured_eq, measured])
      · intro authenticity defective
        simp only [AlbumQuality.defective, Bool.or_eq_true, Bool.and_eq_true,
          rollup.any_invalid, rollup.any_fake] at defective
        simp only [AlbumQuality.defective, Bool.or_eq_true, Bool.and_eq_true,
          rollupAfter.any_invalid, rollupAfter.any_fake]
        cases defective with
        | inl broken =>
            obtain ⟨row, source, measured, broken⟩ := broken
            obtain ⟨next, member, step⟩ := Related.right resolves source
            left
            exact ⟨next, member, by rw [step.isMeasured_eq, measured], step.invalid broken⟩
        | inr faked =>
            obtain ⟨enabled, row, source, measured, heard, faked⟩ := faked
            obtain ⟨next, member, step⟩ := Related.right resolves source
            right
            exact ⟨enabled, next, member, by rw [step.isMeasured_eq, measured],
              step.fake heard faked⟩

/-- An upgrade stays one when more is learnt of the existing rows and when the candidate
gets better. -/
theorem upgrade_of_resolves (resolves : List.Forall₂ Resolves rows resolved)
    (improves : candidate.Improves better)
    (upgrade : compareExisting candidate (albumQuality rows) incomplete authenticity integrity =
      .upgrade) :
    compareExisting better (albumQuality resolved) incomplete authenticity integrity =
      .upgrade := by
  cases rolled : albumQuality rows with
  | none =>
      rw [rolled, compareExisting] at upgrade
      contradiction
  | some before =>
      obtain ⟨after, rolledAfter, tier, defects⟩ := rollup_of_resolves resolves rolled
      rw [rolled, compareExisting, compare_eq_upgrade_iff] at upgrade
      rw [rolledAfter, compareExisting, compare_eq_upgrade_iff, improves.valid,
        improves.authentic, tier]
      obtain ⟨valid, genuine, reason⟩ := upgrade
      refine ⟨valid, genuine, ?_⟩
      cases reason with
      | inl defective => exact .inl (defects authenticity defective)
      | inr wins =>
          right
          refine ⟨improves.tier_known wins.1, ?_⟩
          have higher := improves.tier
          cases wins.2 with
          | inl beats =>
              left
              omega
          | inr completes =>
              have complete := improves.complete completes.2.1
              have tied := completes.1
              by_cases equal : better.tier = before.minTier
              · exact .inr ⟨equal, complete, completes.2.2⟩
              · left
                omega

/-- A release that is kept has no corrupt measured track, and on each axis that counts
every measured track is known and none is a fake. -/
theorem known_of_kept (valid : candidate.valid = true) (genuine : candidate.authentic = true)
    (kept : compareExisting candidate (albumQuality rows) incomplete authenticity integrity =
        .downgrade ∨
      compareExisting candidate (albumQuality rows) incomplete authenticity integrity =
        .equivalent) :
    candidate.tierKnown = true ∧
      (∀ row ∈ rows, isMeasured row = true → row.integrityOk.isFalse = false) ∧
      (integrity = true → ∀ row ∈ rows, isMeasured row = true → row.integrityKnown = true) ∧
      (authenticity = true → ∀ row ∈ rows, isMeasured row = true →
        isSpectral row = true ∧ row.authentic.eqZero = false) := by
  cases rolled : albumQuality rows with
  | none =>
      simp only [rolled, compareExisting] at kept
      simp at kept
  | some existing =>
      have rollup := rollup_of_albumQuality rolled
      simp only [rolled, compareExisting] at kept
      obtain ⟨tierKnown, sound, known, verified⟩ := kept_of_compare valid genuine kept
      rw [AlbumQuality.defective, Bool.or_eq_false_iff] at sound
      refine ⟨tierKnown, ?_, fun enabled => rollup.integrity_known.mp (known enabled), ?_⟩
      · intro row present measured
        apply Bool.eq_false_iff.mpr
        intro broken
        have invalid := rollup.any_invalid.mpr ⟨row, present, measured, broken⟩
        rw [sound.1] at invalid
        contradiction
      · intro enabled row present measured
        have heard := rollup.authenticity_known.mp (verified enabled) row present measured
        refine ⟨heard, Bool.eq_false_iff.mpr ?_⟩
        intro faked
        have fake := rollup.any_fake.mpr ⟨row, present, measured, heard, faked⟩
        rw [enabled, fake] at sound
        exact absurd sound.2 (by simp)

/-- The asymmetry the comparison rests on: an upgrade survives all new knowledge, while
keeping the release takes knowledge of every measured track. -/
theorem comparison_asymmetry (candidate : CandidateQuality) (rows : List Row)
    (incomplete authenticity integrity : Bool) :
    (∀ resolved better, List.Forall₂ Resolves rows resolved → candidate.Improves better →
      compareExisting candidate (albumQuality rows) incomplete authenticity integrity =
        .upgrade →
      compareExisting better (albumQuality resolved) incomplete authenticity integrity =
        .upgrade) ∧
    (candidate.valid = true → candidate.authentic = true →
      (compareExisting candidate (albumQuality rows) incomplete authenticity integrity =
          .downgrade ∨
        compareExisting candidate (albumQuality rows) incomplete authenticity integrity =
          .equivalent) →
      candidate.tierKnown = true ∧
        (∀ row ∈ rows, isMeasured row = true → row.integrityOk.isFalse = false) ∧
        (integrity = true →
          ∀ row ∈ rows, isMeasured row = true → row.integrityKnown = true) ∧
        (authenticity = true → ∀ row ∈ rows, isMeasured row = true →
          isSpectral row = true ∧ row.authentic.eqZero = false)) := by
  constructor
  · intro resolved better resolves improves upgrade
    exact upgrade_of_resolves resolves improves upgrade
  · intro valid genuine kept
    exact known_of_kept valid genuine kept

/-- A complete 16-bit candidate that passed its gates. -/
def cleanCandidate : CandidateQuality where
  valid := true
  authentic := true
  tier := 1
  complete := true
  tierKnown := true

/-- A track that only its integrity scan has reached, and found corrupt, next to a
measured one. -/
def corruptStub : List Row :=
  [{ trackfileId := 1, status := some "measured", lossless := .bool true,
     integrityOk := .bool true, integrityKnown := true },
   { trackfileId := 2, integrityOk := .bool false, integrityKnown := true }]

/-- The rollup passes over a corrupt track without metadata, and the release is kept. -/
theorem kept_with_corrupt_stub :
    cleanCandidate.valid = true ∧ cleanCandidate.authentic = true ∧
      compareExisting cleanCandidate (albumQuality corruptStub) false false true =
        .equivalent ∧
      ∃ row ∈ corruptStub, row.integrityOk.isFalse = true := by
  refine ⟨rfl, rfl, by decide, ?_⟩
  simp [corruptStub, Flag.isFalse]

/-! ## Stored corruption -/

/-- Every truth value went through an integer column. -/
structure Stored (row : Row) : Prop where
  lossless : row.lossless.stored = row.lossless
  integrity_ok : row.integrityOk.stored = row.integrityOk
  checksum_ok : row.checksumOk.stored = row.checksumOk
  authentic : row.authentic.stored = row.authentic

/-- A row as `state_db` reads it back. -/
abbrev StoredRow := { row : Row // Stored row }

@[simp] theorem stored_stored (flag : Flag) : flag.stored.stored = flag.stored := by
  cases flag with
  | unknown => rfl
  | bool value => cases value <;> rfl
  | int value =>
      simp only [Flag.stored]
      split <;> rfl

/-- No stored value is the boolean `False`. -/
@[simp] theorem isFalse_stored (flag : Flag) : flag.stored.isFalse = false := by
  cases flag <;> rfl

/-- Each of the four writes stores its truth values as integers. -/
theorem stored_writes {row : Row} (stored : Stored row) (write : TrackWrite)
    (albumId : Option Int) (integrity : IntegrityMeasurement) (spectral : SpectralMeasurement) :
    Stored (upsertLibraryMetadata write row) ∧ Stored (upsertLibraryEvidence write row) ∧
      Stored (updateLibraryIntegrity albumId integrity row) ∧
      Stored (updateLibrarySpectral spectral row) := by
  refine ⟨⟨?_, ?_, ?_, ?_⟩, ⟨?_, ?_, ?_, ?_⟩, ⟨?_, ?_, ?_, ?_⟩, ⟨?_, ?_, ?_, ?_⟩⟩ <;>
    simp [upsertLibraryMetadata, upsertLibraryEvidence, updateLibraryIntegrity,
      updateLibrarySpectral, TrackWrite.metadata, Integrity.stamp, stored.lossless,
      stored.integrity_ok, stored.checksum_ok, stored.authentic]

variable (library : Library)

/-- Reading a row for a decision leaves its metadata, and its integrity if that is
fresh. -/
theorem isMeasured_view (row : Row) :
    isMeasured (decisionEvidenceView library row) = isMeasured row := by
  rw [decisionEvidenceView]
  split_ifs <;> rfl

/-- A row whose corruption is measured and fresh. -/
def measuredCorrupt (row : Row) : Bool :=
  isMeasured row && library.isIntegrityRowFresh row && row.integrityOk = .int 0

theorem isFalse_view (row : StoredRow) :
    (decisionEvidenceView library row.1).integrityOk.isFalse = false := by
  have kept : row.1.integrityOk.isFalse = false := by
    rw [← row.2.integrity_ok, isFalse_stored]
  rw [decisionEvidenceView]
  split_ifs <;> first | exact kept | rfl

/-- The rows of the decision. -/
def decisionRows (rows : List StoredRow) : List Row :=
  rows.map fun row => decisionEvidenceView library row.1

/-- The rollup of stored rows never sees corruption. -/
theorem anyInvalid_decisionRows {rows : List StoredRow} {quality : AlbumQuality}
    (rolled : albumQuality (decisionRows library rows) = some quality) :
    quality.anyInvalid = false := by
  apply Bool.eq_false_iff.mpr
  intro invalid
  obtain ⟨view, present, -, broken⟩ := (rollup_of_albumQuality rolled).any_invalid.mp invalid
  obtain ⟨row, -, rfl⟩ := List.mem_map.mp present
  rw [isFalse_view library row] at broken
  contradiction

/-- Measured corruption reaches the rollup and the comparison. -/
structure CorruptionSeen (rows : List StoredRow) (quality : AlbumQuality) : Prop where
  any_invalid : quality.anyInvalid = true ↔ ∃ row ∈ rows, measuredCorrupt library row.1 = true
  all_valid : quality.allValid = !quality.anyInvalid
  upgrades : (∃ row ∈ rows, measuredCorrupt library row.1 = true) →
    ∀ candidate : CandidateQuality, candidate.valid = true → candidate.authentic = true →
      ∀ incomplete authenticity integrity,
        compare candidate quality incomplete authenticity integrity = .upgrade

/-- The decision sees the measured corruption of a release exactly where there is none:
the rollup tests a stored integer for being `False`. -/
theorem corruption_seen_iff (rows : List StoredRow) :
    (∀ quality, albumQuality (decisionRows library rows) = some quality →
      CorruptionSeen library rows quality) ↔
      ∀ row ∈ rows, measuredCorrupt library row.1 = false := by
  constructor
  · intro seen row present
    apply Bool.eq_false_iff.mpr
    intro corrupt
    have fresh : isMeasured row.1 = true := by
      simp only [measuredCorrupt, Bool.and_eq_true] at corrupt
      exact corrupt.1.1
    cases rolled : albumQuality (decisionRows library rows) with
    | none =>
        have unmeasured := albumQuality_eq_none_iff.mp rolled _
          (List.mem_map.mpr ⟨row, present, rfl⟩)
        rw [isMeasured_view, fresh] at unmeasured
        contradiction
    | some quality =>
        have invalid := (seen quality rolled).any_invalid.mpr ⟨row, present, corrupt⟩
        rw [anyInvalid_decisionRows library rolled] at invalid
        contradiction
  · intro clean quality rolled
    have none_corrupt : ¬ ∃ row ∈ rows, measuredCorrupt library row.1 = true := by
      rintro ⟨row, present, corrupt⟩
      rw [clean row present] at corrupt
      contradiction
    constructor
    · rw [anyInvalid_decisionRows library rolled]
      simpa using clean
    · exact (rollup_of_albumQuality rolled).all_valid
    · intro corrupt
      exact absurd corrupt none_corrupt

/-- A mount that holds one file, of a known size and modification time. -/
def mountedLibrary : Library where
  configured := true
  resolve path := .ok path
  file path := if path = "/music/01.flac" then some ⟨4096, 0⟩ else none

/-- A 16-bit track whose fresh integrity scan found corruption. -/
def corruptRow : StoredRow :=
  ⟨{ trackfileId := 7, path := some "/music/01.flac", size := some 4096, mtime := some 0,
     status := some "measured", lossless := .int 1, integrityOk := .int 0,
     sensorVersion := some metadataSensorVersion,
     integritySensorVersion := some integritySensorVersion },
   ⟨rfl, rfl, rfl, rfl⟩⟩

/-- The stored corruption is not seen, and the corrupt track is kept. -/
theorem stored_corruption_missed :
    measuredCorrupt mountedLibrary corruptRow.1 = true ∧
      ∃ quality, albumQuality (decisionRows mountedLibrary [corruptRow]) = some quality ∧
        quality.anyInvalid = false ∧
        compare cleanCandidate quality false false false = .equivalent :=
  ⟨rfl, _, rfl, rfl, rfl⟩

end Mintarr.Policy
