import Mintarr.Evidence.Row

/-!
# Measured quality of the existing library

The rollup of a release's evidence rows and the comparison of a candidate with it, as
in `library_comparison`.
-/

namespace Mintarr.Policy

open Evidence

/-- `value or default`. -/
def orDefault (value : Option Int) (default : Int) : Int :=
  match value with
  | none => default
  | some value => if value = 0 then default else value

/-- `tier_rank`. -/
def tierRank (lossless : Bool) (bitDepth sampleRate : Option Int) : Nat :=
  if !lossless then 0
  else
    let depth := orDefault bitDepth 16
    let rate := orDefault sampleRate 44100
    if depth ≥ 24 && rate > 48000 then 3
    else if depth ≥ 24 then 2
    else 1

/-- `AlbumQuality`. -/
structure AlbumQuality where
  measuredCount : Nat
  trackCount : Nat
  allValid : Bool
  anyInvalid : Bool
  minTier : Nat
  allLossless : Bool
  anyFake : Bool
  authenticityKnown : Bool
  integrityKnown : Bool
  anyMd5Mismatch : Bool
  anyNonstandardFlacTags : Bool
  deriving DecidableEq, Repr

/-- The tier of one existing track. -/
def rowTier (row : Row) : Nat := tierRank row.lossless.truthy row.bitDepth row.sampleRate

/-- `album_quality`. -/
def albumQuality (rows : List Row) : Option AlbumQuality :=
  match rows.filter (·.status = some "measured") with
  | [] => none
  | first :: rest =>
      let measured := first :: rest
      let spectral := measured.filter (·.spectralStatus = some "measured")
      some
        { measuredCount := measured.length
          trackCount := rows.length
          allValid := measured.all (!·.integrityOk.isFalse)
          anyInvalid := measured.any (·.integrityOk.isFalse)
          minTier := rest.foldl (fun tier row => min tier (rowTier row)) (rowTier first)
          allLossless := measured.all (·.lossless.truthy)
          anyFake := spectral.any (·.authentic.eqZero)
          authenticityKnown := spectral.length = measured.length && 0 < spectral.length
          integrityKnown := measured.all (·.integrityKnown)
          anyMd5Mismatch := measured.any (·.checksumOk.eqZero)
          anyNonstandardFlacTags :=
            measured.any (·.integrityIssue = some "nonstandard_flac_tags") }

/-- `CandidateQuality`. -/
structure CandidateQuality where
  valid : Bool
  authentic : Bool
  tier : Nat
  complete : Bool
  tierKnown : Bool
  deriving DecidableEq, Repr

/-- The comparison verdicts. -/
inductive ComparisonVerdict where
  | upgrade | equivalent | downgrade | review
  deriving DecidableEq, Repr

/-- `compare`, for a release that has measured evidence. -/
def compare (candidate : CandidateQuality) (existing : AlbumQuality)
    (existingIncomplete considerExistingAuthenticity considerExistingIntegrity : Bool) :
    ComparisonVerdict :=
  if !candidate.valid then .downgrade
  else if !candidate.authentic then .review
  else if existing.anyInvalid then .upgrade
  else if considerExistingAuthenticity && existing.anyFake then .upgrade
  else if !candidate.tierKnown then .review
  else if candidate.tier > existing.minTier then .upgrade
  else if candidate.tier = existing.minTier && candidate.complete && existingIncomplete then
    .upgrade
  else if considerExistingIntegrity && !existing.integrityKnown then .review
  else if considerExistingAuthenticity && !existing.authenticityKnown then .review
  else if candidate.tier < existing.minTier then .downgrade
  else .equivalent

/-- A candidate that failed a gate or is not known to be genuine never wins the
comparison, whatever is in the library. -/
theorem compare_of_unproven {candidate : CandidateQuality} {existing : AlbumQuality}
    {incomplete authenticity integrity : Bool}
    (unproven : candidate.valid = false ∨ candidate.authentic = false) :
    compare candidate existing incomplete authenticity integrity = .downgrade ∨
      compare candidate existing incomplete authenticity integrity = .review := by
  cases valid : candidate.valid with
  | false => simp [compare, valid]
  | true =>
      have doubtful := unproven.resolve_left (by simp [valid])
      simp [compare, valid, doubtful]

end Mintarr.Policy
