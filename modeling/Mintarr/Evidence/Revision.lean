import Mathlib.Algebra.BigOperators.Group.List.Lemmas
import Mathlib.Data.List.Sort
import Mathlib.Tactic.Abel
import Mintarr.Evidence.Row
import Mintarr.Lib.Registry
import Mintarr.Lib.SqlInteger
import Mintarr.Queue.Job

/-!
# The revision of the evidence table

`library_evidence_revision` is the key under which a rollup of the table is cached: the number of
rows, the newest stamps, and one sum over the columns of all rows.  The sum is of integers of 64
bits; what SQLite makes of larger ones in floating point is a parameter.
-/

namespace Mintarr.Evidence

open Lib
open Queue (Time)

/-! ## The table -/

/-- A row with its stamps. -/
structure StampedRow extends Row where
  measuredAt : Option Time := none
  spectralMeasuredAt : Option Time := none
  deriving DecidableEq

/-- `library_evidence`. -/
abbrev EvidenceTable := Registry StampedRow fun row => row.trackfileId

/-- `row.get(stamp) or time.time()`. -/
def stampOr (stamp : Option Time) (now : Time) : Time :=
  if stamp.getD 0 = 0 then now else stamp.getD 0

/-- The columns `upsert_library_metadata` sets, of a row with the trackfile id. -/
def metadataColumns (given : StampedRow) (now : Time) (row : StampedRow) : StampedRow :=
  { row with
    albumId := given.albumId
    path := given.path
    size := given.size
    mtime := given.mtime
    status := given.status
    reason := given.reason
    codec := given.codec
    sampleRate := given.sampleRate
    bitDepth := given.bitDepth
    bitrateKbps := given.bitrateKbps
    channels := given.channels
    lossless := given.lossless.stored
    sensorVersion := given.sensorVersion
    measuredAt := some (stampOr given.measuredAt now) }

/-- The columns `update_library_integrity` sets. -/
def integrityColumns (given : StampedRow) (row : StampedRow) : StampedRow :=
  { row with
    albumId := given.albumId
    integrityOk := given.integrityOk.stored
    checksumOk := given.checksumOk.stored
    integrityIssue := given.integrityIssue
    integritySensorVersion := given.integritySensorVersion }

/-- The columns `update_library_spectral` sets. -/
def spectralColumns (given : StampedRow) (now : Time) (row : StampedRow) : StampedRow :=
  { row with
    authentic := given.authentic.stored
    spectralStatus := given.spectralStatus
    spectralReason := given.spectralReason
    spectralVerdict := given.spectralVerdict
    spectralSensorVersion := given.spectralSensorVersion
    spectralMeasuredAt := some (stampOr given.spectralMeasuredAt now) }

/-- The writers. -/
inductive Writer where
  | upsertLibraryEvidence
  | upsertLibraryMetadata
  | updateLibraryIntegrity
  | updateLibrarySpectral
  deriving DecidableEq

/-- A call of a writer with a row, and its time. -/
structure EvidenceWrite where
  writer : Writer
  given : StampedRow
  now : Time

namespace EvidenceWrite

/-- What the call makes of a row. -/
def change (write : EvidenceWrite) (row : StampedRow) : StampedRow :=
  match write.writer with
  | .upsertLibraryEvidence =>
      integrityColumns write.given (metadataColumns write.given write.now row)
  | .upsertLibraryMetadata => metadataColumns write.given write.now row
  | .updateLibraryIntegrity => integrityColumns write.given row
  | .updateLibrarySpectral => spectralColumns write.given write.now row

theorem change_trackfileId (write : EvidenceWrite) (row : StampedRow) :
    (write.change row).trackfileId = row.trackfileId := by
  rw [change]
  split
  · rfl
  · rfl
  · rfl
  · rfl

/-- The row the call makes where there is none; the album is always set. -/
def inserted (write : EvidenceWrite) : StampedRow :=
  write.change { trackfileId := write.given.trackfileId, albumId := write.given.albumId }

/-- The integers that the call binds. -/
def integers (write : EvidenceWrite) : List (Option Int) :=
  let given := write.given
  match write.writer with
  | .upsertLibraryEvidence | .upsertLibraryMetadata =>
      [some given.trackfileId, given.albumId, given.size, given.sampleRate, given.bitDepth,
        given.bitrateKbps, given.channels]
  | .updateLibraryIntegrity | .updateLibrarySpectral => [some given.trackfileId, given.albumId]

/-- Every integer can be bound; else `execute` raises, and the call only logs that. -/
def binds (write : EvidenceWrite) : Bool :=
  write.integers.reduceOption.all fun value => decide (Sql.IsInteger value)

/-- What the call does to the table. -/
def apply (write : EvidenceWrite) (table : EvidenceTable) : EvidenceTable :=
  if write.binds then
    match table.find? write.given.trackfileId with
    | some _ => table.modify write.given.trackfileId write.change write.change_trackfileId
    | none => table.add write.inserted
  else table

end EvidenceWrite

/-- What the calls do to the table. -/
def applyWrites (table : EvidenceTable) (writes : List EvidenceWrite) : EvidenceTable :=
  writes.foldl (fun table write => write.apply table) table

/-! ## The revision -/

/-- `COALESCE` of a truth value. -/
def Flag.coalesce (flag : Flag) (default : Int) : Int :=
  match flag with
  | .unknown => default
  | .bool value => if value then 1 else 0
  | .int value => value

/-- `LENGTH(COALESCE(text, ''))`: the characters before the first NUL. -/
def sqlLength (text : Option String) : Int :=
  ((text.getD "").toList.takeWhile fun c => c ≠ '\x00').length

/-- The summands of a row, in the order of the query. -/
def summands (row : StampedRow) : List Int :=
  [row.trackfileId, row.albumId.getD 0, row.size.getD 0, Sql.truncate (row.mtime.getD 0),
    row.sampleRate.getD 0, row.bitDepth.getD 0, row.bitrateKbps.getD 0, row.channels.getD 0,
    row.lossless.coalesce (-7), row.integrityOk.coalesce (-11), row.checksumOk.coalesce (-13),
    row.authentic.coalesce (-17), sqlLength row.status, sqlLength row.reason,
    sqlLength row.codec, sqlLength row.integrityIssue, sqlLength row.sensorVersion,
    sqlLength row.integritySensorVersion, sqlLength row.spectralStatus,
    sqlLength row.spectralSensorVersion]

/-- The term of a row; nothing where it is not an integer. -/
def term (row : StampedRow) : Option Int := Sql.addUp 0 (summands row)

/-- The rows in the order of their primary key. -/
def ordered (table : EvidenceTable) : List StampedRow :=
  table.rows.insertionSort fun row other => row.trackfileId ≤ other.trackfileId

variable (floatSum : List StampedRow → Option Int)

/-- The fingerprint, nothing where the query raises. A sum of integers raises where it is too
large; one real term makes the sum real, which is `floatSum` of the rows. -/
def fingerprint (table : EvidenceTable) : Option Int :=
  match (ordered table).mapM term with
  | some terms => Sql.addUp 0 terms
  | none => floatSum (ordered table)

/-- `COALESCE(MAX(stamp), 0)` over the rows. -/
def newest (stamps : List (Option Time)) : Time := (stamps.reduceOption.max?).getD 0

/-- `library_evidence_revision`. -/
def libraryEvidenceRevision (table : EvidenceTable) : Nat × Time × Time × Int :=
  match fingerprint floatSum table with
  | some sum =>
      (table.rows.length, newest (table.rows.map StampedRow.measuredAt),
        newest (table.rows.map StampedRow.spectralMeasuredAt), sum)
  | none => (0, 0, 0, 0)

/-! ## What a cached rollup rests on -/

/-- The columns `_library_quality_album_summary` reads of a row. -/
structure SummaryColumns where
  albumId : Option Int
  path : Option String
  status : Option String
  reason : Option String
  codec : Option String
  sampleRate : Option Int
  bitDepth : Option Int
  bitrateKbps : Option Int
  lossless : Flag
  integrityOk : Flag
  checksumOk : Flag
  integrityIssue : Option String
  sensorVersion : Option String
  integritySensorVersion : Option String
  authentic : Flag
  spectralStatus : Option String
  spectralSensorVersion : Option String
  deriving DecidableEq

def StampedRow.summaryColumns (row : StampedRow) : SummaryColumns where
  albumId := row.albumId
  path := row.path
  status := row.status
  reason := row.reason
  codec := row.codec
  sampleRate := row.sampleRate
  bitDepth := row.bitDepth
  bitrateKbps := row.bitrateKbps
  lossless := row.lossless
  integrityOk := row.integrityOk
  checksumOk := row.checksumOk
  integrityIssue := row.integrityIssue
  sensorVersion := row.sensorVersion
  integritySensorVersion := row.integritySensorVersion
  authentic := row.authentic
  spectralStatus := row.spectralStatus
  spectralSensorVersion := row.spectralSensorVersion

/-- Two tables have the same rows as far as the rollup reads them. -/
def SameSummary (table other : EvidenceTable) : Prop :=
  ∀ trackfileId, (table.find? trackfileId).map StampedRow.summaryColumns =
    (other.find? trackfileId).map StampedRow.summaryColumns

/-! ## The writes that last -/

/-- The columns that the writers set together. -/
inductive Tier where
  | album
  | metadata
  | integrity
  | spectral
  deriving DecidableEq

def Tier.all : List Tier := [.album, .metadata, .integrity, .spectral]

/-- The writer sets the columns of a tier in a row that is there. -/
def Writer.sets : Writer → Tier → Bool
  | .upsertLibraryEvidence, tier => tier ≠ .spectral
  | .upsertLibraryMetadata, tier => tier = .album ∨ tier = .metadata
  | .updateLibraryIntegrity, tier => tier = .album ∨ tier = .integrity
  | .updateLibrarySpectral, tier => tier = .spectral

namespace Tier

/-- What the columns of a tier add to the sum. -/
def share : Tier → StampedRow → Int
  | .album, row => row.albumId.getD 0
  | .metadata, row =>
      row.size.getD 0 + Sql.truncate (row.mtime.getD 0) + row.sampleRate.getD 0 +
        row.bitDepth.getD 0 + row.bitrateKbps.getD 0 + row.channels.getD 0 +
        row.lossless.coalesce (-7) + sqlLength row.status + sqlLength row.reason +
        sqlLength row.codec + sqlLength row.sensorVersion
  | .integrity, row =>
      row.integrityOk.coalesce (-11) + row.checksumOk.coalesce (-13) +
        sqlLength row.integrityIssue + sqlLength row.integritySensorVersion
  | .spectral, row =>
      row.authentic.coalesce (-17) + sqlLength row.spectralStatus +
        sqlLength row.spectralSensorVersion

/-- The stamp of a tier. -/
def stamp : Tier → StampedRow → Option Time
  | .metadata, row => row.measuredAt
  | .spectral, row => row.spectralMeasuredAt
  | .album, _ | .integrity, _ => none

/-- The columns of a tier that the rollup reads are the same in two rows. -/
def Same : Tier → StampedRow → StampedRow → Prop
  | .album, row, other => row.albumId = other.albumId
  | .metadata, row, other =>
      row.path = other.path ∧ row.status = other.status ∧ row.reason = other.reason ∧
        row.codec = other.codec ∧ row.sampleRate = other.sampleRate ∧
        row.bitDepth = other.bitDepth ∧ row.bitrateKbps = other.bitrateKbps ∧
        row.lossless = other.lossless ∧ row.sensorVersion = other.sensorVersion
  | .integrity, row, other =>
      row.integrityOk = other.integrityOk ∧ row.checksumOk = other.checksumOk ∧
        row.integrityIssue = other.integrityIssue ∧
        row.integritySensorVersion = other.integritySensorVersion
  | .spectral, row, other =>
      row.authentic = other.authentic ∧ row.spectralStatus = other.spectralStatus ∧
        row.spectralSensorVersion = other.spectralSensorVersion

end Tier

/-- The row as the call stores it. -/
def EvidenceWrite.stored (write : EvidenceWrite) : StampedRow :=
  { write.given with
    lossless := write.given.lossless.stored
    integrityOk := write.given.integrityOk.stored
    checksumOk := write.given.checksumOk.stored
    authentic := write.given.authentic.stored
    measuredAt := some (stampOr write.given.measuredAt write.now)
    spectralMeasuredAt := some (stampOr write.given.spectralMeasuredAt write.now) }

/-- The call sets the columns of a tier in the row of a trackfile. -/
def EvidenceWrite.settles (tier : Tier) (trackfileId : Int) (write : EvidenceWrite) : Bool :=
  write.binds && write.writer.sets tier && write.given.trackfileId = trackfileId

/-- The row whose columns of a tier a row has after the calls: the last call that sets them
stored it, or it is the row itself. -/
def source (writes : List EvidenceWrite) (tier : Tier) (row : StampedRow) : StampedRow :=
  match writes.reverse.find? (EvidenceWrite.settles tier row.trackfileId) with
  | some write => write.stored
  | none => row

/-- A call names a trackfile that the table does not have. -/
def Adds (table : EvidenceTable) (writes : List EvidenceWrite) : Prop :=
  ∃ write ∈ writes, write.binds = true ∧ table.find? write.given.trackfileId = none

/-- What the calls leave in the columns that the rollup reads was there before. -/
def Repeats (table : EvidenceTable) (writes : List EvidenceWrite) : Prop :=
  ∀ row ∈ table.rows, ∀ tier : Tier, tier.Same (source writes tier row) row

/-- The newest stamp of a tier is another one with the stamps that the calls leave. -/
def Restamps (table : EvidenceTable) (writes : List EvidenceWrite) : Prop :=
  ∃ tier : Tier, newest (table.rows.map fun row => tier.stamp (source writes tier row)) ≠
    newest (table.rows.map tier.stamp)

/-- The numbers that the calls leave do not add up to those that they replace. -/
def Shifts (table : EvidenceTable) (writes : List EvidenceWrite) : Prop :=
  (table.rows.map fun row =>
    (Tier.all.map fun tier => tier.share (source writes tier row) - tier.share row).sum).sum ≠ 0

/-- No sum of the query leaves 64 bits. -/
def AddsUp (table : EvidenceTable) : Prop :=
  ∃ terms total, (ordered table).mapM term = some terms ∧ Sql.addUp 0 terms = some total

/-- The sum becomes another one: its integers do not add up to the same, or SQLite says so of
the sums that leave 64 bits. -/
def Resums (table : EvidenceTable) (writes : List EvidenceWrite) : Prop :=
  (AddsUp table ∧ AddsUp (applyWrites table writes) ∧ Shifts table writes) ∨
    (¬(AddsUp table ∧ AddsUp (applyWrites table writes)) ∧
      fingerprint floatSum (applyWrites table writes) ≠ fingerprint floatSum table)

/-- The query raises after the calls, and before them it did so or counted no row. -/
def Unread (table : EvidenceTable) (writes : List EvidenceWrite) : Prop :=
  fingerprint floatSum (applyWrites table writes) = none ∧
    (fingerprint floatSum table = none ∨ table.rows = [])

/-! ## What a run of calls leaves -/

namespace EvidenceWrite

variable (write : EvidenceWrite) (tier : Tier)

theorem share_change (row : StampedRow) : tier.share (write.change row) =
    if write.writer.sets tier then tier.share write.stored else tier.share row := by
  obtain ⟨writer, given, now⟩ := write
  cases writer <;> cases tier <;> rfl

theorem stamp_change (row : StampedRow) : tier.stamp (write.change row) =
    if write.writer.sets tier then tier.stamp write.stored else tier.stamp row := by
  obtain ⟨writer, given, now⟩ := write
  cases writer <;> cases tier <;> rfl

theorem same_change (other row : StampedRow) : tier.Same (write.change row) other =
    if write.writer.sets tier then tier.Same write.stored other else tier.Same row other := by
  obtain ⟨writer, given, now⟩ := write
  cases writer <;> cases tier <;> rfl

theorem inserted_trackfileId : write.inserted.trackfileId = write.given.trackfileId :=
  write.change_trackfileId _

/-- What the call makes of any row of the table. -/
def step (row : StampedRow) : StampedRow :=
  if write.binds ∧ row.trackfileId = write.given.trackfileId then write.change row else row

theorem step_trackfileId (row : StampedRow) :
    (write.step row).trackfileId = row.trackfileId := by
  rw [step]
  split
  · exact write.change_trackfileId row
  · rfl

theorem isSome_find?_apply (table : EvidenceTable) (trackfileId : Int) :
    ((write.apply table).find? trackfileId).isSome = true ↔
      (table.find? trackfileId).isSome = true ∨
        (write.binds = true ∧ trackfileId = write.given.trackfileId) := by
  rw [apply]
  split
  · next binds =>
      cases found : table.find? write.given.trackfileId with
      | some row =>
          dsimp only
          rw [Registry.find?_modify]
          split
          · next same => simp [same, found]
          · next other => simp [other]
      | none =>
          rw [← write.inserted_trackfileId] at found
          dsimp only
          rw [Registry.find?_add found, write.inserted_trackfileId]
          split
          · next same => simp [same, binds]
          · next other => simp [other]
  · next refused => simp [refused]

/-- A call that adds no row changes the rows one by one. -/
theorem rows_apply {table : EvidenceTable}
    (known : write.binds = true → table.find? write.given.trackfileId ≠ none) :
    (write.apply table).rows = table.rows.map write.step := by
  have unchanged : write.binds = false → table.rows.map write.step = table.rows := by
    intro refused
    refine (List.map_congr_left ?_).trans (List.map_id _)
    intro row _
    rw [step, if_neg (by simp [refused])]
    rfl
  rw [apply]
  split
  · next binds =>
      cases found : table.find? write.given.trackfileId with
      | some row =>
          apply List.map_congr_left
          intro row _
          rw [step]
          simp only [binds, true_and]
      | none => exact absurd found (known binds)
  · next refused => exact (unchanged (Bool.eq_false_iff.mpr refused)).symm

end EvidenceWrite

/-- What the calls make of a row. -/
def settled (writes : List EvidenceWrite) (row : StampedRow) : StampedRow :=
  writes.foldl (fun row write => write.step row) row

theorem settled_concat (writes : List EvidenceWrite) (write : EvidenceWrite) (row : StampedRow) :
    settled (writes ++ [write]) row = write.step (settled writes row) :=
  List.foldl_concat _ _ _ _

theorem applyWrites_concat (table : EvidenceTable) (writes : List EvidenceWrite)
    (write : EvidenceWrite) :
    applyWrites table (writes ++ [write]) = write.apply (applyWrites table writes) :=
  List.foldl_concat _ _ _ _

theorem settled_trackfileId (writes : List EvidenceWrite) (row : StampedRow) :
    (settled writes row).trackfileId = row.trackfileId := by
  induction writes using List.reverseRecOn with
  | nil => rfl
  | append_singleton writes write ih => rw [settled_concat, write.step_trackfileId, ih]

/-- A value that a tier's columns determine comes from the last call that sets them. -/
theorem value_settled {α : Type} (value : StampedRow → α) (tier : Tier)
    (ofTier : ∀ (write : EvidenceWrite) row, value (write.change row) =
      if write.writer.sets tier then value write.stored else value row)
    (writes : List EvidenceWrite) (row : StampedRow) :
    value (settled writes row) = value (source writes tier row) := by
  induction writes using List.reverseRecOn with
  | nil => rfl
  | append_singleton writes write ih =>
      rw [settled_concat, EvidenceWrite.step, settled_trackfileId]
      have last : source (writes ++ [write]) tier row =
          if write.settles tier row.trackfileId then write.stored
          else source writes tier row := by
        rw [source, List.reverse_concat, List.find?_cons]
        cases write.settles tier row.trackfileId <;> rfl
      rw [last]
      split
      · next touched =>
          rw [ofTier, ih]
          cases sets : write.writer.sets tier <;>
            simp [EvidenceWrite.settles, touched.1, touched.2, sets]
      · next other =>
          rw [ih, if_neg]
          intro settles
          simp only [EvidenceWrite.settles, Bool.and_eq_true, decide_eq_true_eq] at settles
          exact other ⟨settles.1.1, settles.2.symm⟩

theorem isSome_find?_applyWrites (table : EvidenceTable) (writes : List EvidenceWrite)
    (trackfileId : Int) :
    ((applyWrites table writes).find? trackfileId).isSome = true ↔
      (table.find? trackfileId).isSome = true ∨
        ∃ write ∈ writes, write.binds = true ∧ trackfileId = write.given.trackfileId := by
  induction writes using List.reverseRecOn with
  | nil => simp [applyWrites]
  | append_singleton writes write ih =>
      rw [applyWrites_concat, write.isSome_find?_apply, ih, or_assoc]
      simp [or_and_right, exists_or]

/-- Calls that add no row change the rows one by one. -/
theorem rows_applyWrites {table : EvidenceTable} {writes : List EvidenceWrite}
    (adds : ¬ Adds table writes) :
    (applyWrites table writes).rows = table.rows.map (settled writes) := by
  induction writes using List.reverseRecOn with
  | nil => exact (List.map_id _).symm
  | append_singleton writes write ih =>
      have before : ¬ Adds table writes := by
        rintro ⟨other, other_mem, added⟩
        exact adds ⟨other, List.mem_append_left _ other_mem, added⟩
      have known : write.binds = true →
          (applyWrites table writes).find? write.given.trackfileId ≠ none := by
        intro binds
        rw [Option.ne_none_iff_isSome, isSome_find?_applyWrites]
        left
        rw [← Option.ne_none_iff_isSome]
        intro absent
        exact adds ⟨write, by simp, binds, absent⟩
      rw [applyWrites_concat, write.rows_apply known, ih before, List.map_map]
      apply List.map_congr_left
      intro row _
      exact (settled_concat writes write row).symm

/-- A call that adds a row makes the table longer. -/
theorem length_lt_of_adds {table : EvidenceTable} {writes : List EvidenceWrite}
    (adds : Adds table writes) :
    table.rows.length < (applyWrites table writes).rows.length := by
  obtain ⟨write, write_mem, binds, absent⟩ := adds
  have keys : ∀ {other : EvidenceTable} {trackfileId : Int},
      trackfileId ∈ other.rows.map (fun row => row.trackfileId) ↔
        (other.find? trackfileId).isSome = true := by
    intro other trackfileId
    rw [← Option.ne_none_iff_isSome, ne_eq, Registry.find?_eq_none, not_not]
  have fresh : (write.given.trackfileId :: table.rows.map fun row => row.trackfileId).Nodup :=
    List.nodup_cons.mpr ⟨Registry.find?_eq_none.mp absent, table.distinct⟩
  have listed : write.given.trackfileId :: (table.rows.map fun row => row.trackfileId) ⊆
      (applyWrites table writes).rows.map fun row => row.trackfileId := by
    intro trackfileId either
    rw [keys, isSome_find?_applyWrites]
    rcases List.mem_cons.mp either with same | there
    · exact Or.inr ⟨write, write_mem, binds, same⟩
    · exact Or.inl (keys.mp there)
  have shorter := (List.subperm_of_subset fresh listed).length_le
  simp only [List.length_cons, List.length_map] at shorter
  exact shorter

/-! ## The parts of the revision -/

/-- The sum of a row's summands. -/
def weight (row : StampedRow) : Int :=
  row.trackfileId + (Tier.all.map fun tier => tier.share row).sum

theorem term_eq {row : StampedRow} {value : Int} (exact : term row = some value) :
    value = weight row := by
  rw [Sql.addUp_eq exact, weight]
  simp only [summands, Tier.all, Tier.share, List.map_cons, List.map_nil, List.sum_cons,
    List.sum_nil]
  abel

theorem terms_eq {rows : List StampedRow} {terms : List Int}
    (exact : rows.mapM term = some terms) : terms = rows.map weight := by
  induction rows generalizing terms with
  | nil => simpa using exact.symm
  | cons row rows ih =>
      rw [List.mapM_cons] at exact
      simp only [Option.pure_def, Option.bind_eq_bind, Option.bind_eq_some_iff,
        Option.some.injEq] at exact
      obtain ⟨value, first, others, rest, rfl⟩ := exact
      rw [term_eq first, ih rest, List.map_cons]

/-- An exact sum is that of the rows in any order. -/
theorem fingerprint_of_addsUp {table : EvidenceTable} (exact : AddsUp table) :
    fingerprint floatSum table = some (table.rows.map weight).sum := by
  obtain ⟨terms, total, mapped, added⟩ := exact
  have rows : (ordered table).Perm table.rows := List.perm_insertionSort _ _
  rw [fingerprint, mapped]
  dsimp only
  rw [added, Sql.addUp_eq added, zero_add, terms_eq mapped, (rows.map weight).sum_eq]

theorem sum_shifts (table : EvidenceTable) (writes : List EvidenceWrite) :
    ((table.rows.map (settled writes)).map weight).sum = (table.rows.map weight).sum +
      (table.rows.map fun row => (Tier.all.map fun tier =>
        tier.share (source writes tier row) - tier.share row).sum).sum := by
  rw [List.map_map, ← List.sum_map_add]
  congr 1
  apply List.map_congr_left
  intro row _
  have shares : ∀ tier : Tier, tier.share (settled writes row) =
      tier.share (source writes tier row) :=
    fun tier => value_settled tier.share tier (fun write row => write.share_change tier row) _ _
  simp only [Function.comp_apply, weight, settled_trackfileId, shares, Tier.all, List.map_cons,
    List.map_nil, List.sum_cons, List.sum_nil]
  abel

/-- Without a new row the sum becomes another one as the condition says. -/
theorem resums_iff {table : EvidenceTable} {writes : List EvidenceWrite}
    (adds : ¬ Adds table writes) : Resums floatSum table writes ↔
      fingerprint floatSum (applyWrites table writes) ≠ fingerprint floatSum table := by
  rw [Resums]
  by_cases exact : AddsUp table ∧ AddsUp (applyWrites table writes)
  · have shifts : fingerprint floatSum (applyWrites table writes) ≠ fingerprint floatSum table ↔
        Shifts table writes := by
      rw [fingerprint_of_addsUp floatSum exact.1, fingerprint_of_addsUp floatSum exact.2,
        rows_applyWrites adds, sum_shifts, Shifts, ne_eq, Option.some.injEq, add_eq_left]
    rw [shifts]
    simp [exact]
  · rw [← and_assoc]
    simp [exact]

theorem restamps_iff {table : EvidenceTable} {writes : List EvidenceWrite}
    (adds : ¬ Adds table writes) : Restamps table writes ↔
      newest ((applyWrites table writes).rows.map StampedRow.measuredAt) ≠
          newest (table.rows.map StampedRow.measuredAt) ∨
        newest ((applyWrites table writes).rows.map StampedRow.spectralMeasuredAt) ≠
          newest (table.rows.map StampedRow.spectralMeasuredAt) := by
  have stamps : ∀ tier : Tier, (applyWrites table writes).rows.map tier.stamp =
      table.rows.map fun row => tier.stamp (source writes tier row) := by
    intro tier
    rw [rows_applyWrites adds, List.map_map]
    apply List.map_congr_left
    intro row _
    exact value_settled tier.stamp tier (fun write row => write.stamp_change tier row) _ _
  have measured := stamps .metadata
  have spectral := stamps .spectral
  constructor
  · rintro ⟨tier, moved⟩
    cases tier with
    | album | integrity => exact absurd rfl moved
    | metadata => exact Or.inl (measured ▸ moved)
    | spectral => exact Or.inr (spectral ▸ moved)
  · rintro (moved | moved)
    · exact ⟨.metadata, measured ▸ moved⟩
    · exact ⟨.spectral, spectral ▸ moved⟩

/-- The query raises for a table only if it has rows. -/
theorem rows_ne_nil_of_fingerprint {table : EvidenceTable}
    (raises : fingerprint floatSum table = none) : table.rows ≠ [] := by
  intro empty
  rw [fingerprint, ordered, empty] at raises
  contradiction

/-- A new row moves the revision, unless it cannot be read. -/
theorem revision_eq_iff_of_adds {table : EvidenceTable} {writes : List EvidenceWrite}
    (adds : Adds table writes) :
    libraryEvidenceRevision floatSum (applyWrites table writes) =
        libraryEvidenceRevision floatSum table ↔ Unread floatSum table writes := by
  have longer := length_lt_of_adds adds
  have some_row : (applyWrites table writes).rows ≠ [] :=
    List.ne_nil_of_length_pos (Nat.zero_lt_of_lt longer)
  simp only [Unread, libraryEvidenceRevision]
  cases after : fingerprint floatSum (applyWrites table writes) with
  | some sum =>
      cases fingerprint floatSum table with
      | some total => simp [Nat.ne_of_gt longer]
      | none => simp [some_row]
  | none =>
      cases before : fingerprint floatSum table with
      | some total =>
          simp only [Prod.mk.injEq]
          constructor
          · intro same
            exact ⟨trivial, Or.inr (List.length_eq_zero_iff.mp same.1.symm)⟩
          · rintro ⟨_, raises | empty⟩
            · contradiction
            · rw [fingerprint, ordered, empty] at before
              rw [empty]
              cases before
              exact ⟨rfl, rfl, rfl, rfl⟩
      | none => simp

/-- Without a new row the stamps and the sum move it. -/
theorem revision_eq_iff_of_not_adds {table : EvidenceTable} {writes : List EvidenceWrite}
    (adds : ¬ Adds table writes) :
    libraryEvidenceRevision floatSum (applyWrites table writes) =
        libraryEvidenceRevision floatSum table ↔
      Unread floatSum table writes ∨
        ¬(Restamps table writes ∨ Resums floatSum table writes) := by
  have length : (applyWrites table writes).rows.length = table.rows.length := by
    rw [rows_applyWrites adds, List.length_map]
  have empty_iff : (applyWrites table writes).rows = [] ↔ table.rows = [] := by
    rw [← List.length_eq_zero_iff, length, List.length_eq_zero_iff]
  simp only [resums_iff floatSum adds, restamps_iff adds, Unread, libraryEvidenceRevision]
  cases after : fingerprint floatSum (applyWrites table writes) with
  | some sum =>
      cases before : fingerprint floatSum table with
      | some total => simp [length, and_assoc]
      | none => simp [empty_iff, rows_ne_nil_of_fingerprint floatSum before]
  | none =>
      have rows : table.rows ≠ [] :=
        mt empty_iff.mpr (rows_ne_nil_of_fingerprint floatSum after)
      cases before : fingerprint floatSum table with
      | some total =>
          have counted : 0 ≠ table.rows.length := fun zero =>
            rows (List.length_eq_zero_iff.mp zero.symm)
          simp [rows, counted]
      | none => simp

/-- The revision stays the same where it cannot be read, or where no part of it moves. -/
theorem libraryEvidenceRevision_eq_iff (table : EvidenceTable) (writes : List EvidenceWrite) :
    libraryEvidenceRevision floatSum (applyWrites table writes) =
        libraryEvidenceRevision floatSum table ↔
      Unread floatSum table writes ∨
        ¬(Adds table writes ∨ Restamps table writes ∨ Resums floatSum table writes) := by
  by_cases adds : Adds table writes
  · rw [revision_eq_iff_of_adds floatSum adds]
    simp [adds]
  · rw [revision_eq_iff_of_not_adds floatSum adds]
    simp [adds]

theorem summaryColumns_eq_iff (row other : StampedRow) :
    row.summaryColumns = other.summaryColumns ↔ ∀ tier : Tier, tier.Same row other := by
  constructor
  · intro same tier
    injection same with album path status reason codec rate depth bitrate lossless ok checksum
      issue version integrityVersion authentic spectral spectralVersion
    cases tier with
    | album => exact album
    | metadata => exact ⟨path, status, reason, codec, rate, depth, bitrate, lossless, version⟩
    | integrity => exact ⟨ok, checksum, issue, integrityVersion⟩
    | spectral => exact ⟨authentic, spectral, spectralVersion⟩
  · intro same
    have album : row.albumId = other.albumId := same .album
    obtain ⟨path, status, reason, codec, rate, depth, bitrate, lossless, version⟩ :=
      same .metadata
    obtain ⟨ok, checksum, issue, integrityVersion⟩ := same .integrity
    obtain ⟨authentic, spectral, spectralVersion⟩ := same .spectral
    simp only [StampedRow.summaryColumns, album, path, status, reason, codec, rate, depth,
      bitrate, lossless, version, ok, checksum, issue, integrityVersion, authentic, spectral,
      spectralVersion]

theorem find?_applyWrites {table : EvidenceTable} {writes : List EvidenceWrite}
    (adds : ¬ Adds table writes) {row : StampedRow} (row_mem : row ∈ table.rows) :
    (applyWrites table writes).find? row.trackfileId = some (settled writes row) := by
  apply Registry.find?_eq_some.mpr
  rw [rows_applyWrites adds]
  exact ⟨List.mem_map_of_mem row_mem, settled_trackfileId writes row⟩

/-- The rollup reads the same after calls that add no row and leave what was there. -/
theorem sameSummary_iff (table : EvidenceTable) (writes : List EvidenceWrite) :
    SameSummary table (applyWrites table writes) ↔
      ¬ Adds table writes ∧ Repeats table writes := by
  have settles : ∀ row, (settled writes row).summaryColumns = row.summaryColumns ↔
      ∀ tier : Tier, tier.Same (source writes tier row) row := by
    intro row
    rw [summaryColumns_eq_iff]
    apply forall_congr'
    intro tier
    rw [value_settled (fun changed => tier.Same changed row) tier
      (fun write changed => write.same_change tier row changed)]
  constructor
  · intro same
    have adds : ¬ Adds table writes := by
      rintro ⟨write, write_mem, binds, absent⟩
      have there := (isSome_find?_applyWrites table writes write.given.trackfileId).mpr
        (Or.inr ⟨write, write_mem, binds, rfl⟩)
      have missing := same write.given.trackfileId
      rw [absent, Option.map_none, eq_comm, Option.map_eq_none_iff] at missing
      rw [missing] at there
      contradiction
    refine ⟨adds, ?_⟩
    intro row row_mem
    have before : table.find? row.trackfileId = some row :=
      Registry.find?_eq_some.mpr ⟨row_mem, rfl⟩
    have columns := same row.trackfileId
    rw [before, find?_applyWrites adds row_mem] at columns
    exact (settles row).mp (Option.some.inj columns).symm
  · rintro ⟨adds, repeats⟩ trackfileId
    cases before : table.find? trackfileId with
    | none =>
        have after : (applyWrites table writes).find? trackfileId = none := by
          rw [← Option.not_isSome_iff_eq_none, isSome_find?_applyWrites, before]
          rintro (there | ⟨write, write_mem, binds, rfl⟩)
          · contradiction
          · exact adds ⟨write, write_mem, binds, before⟩
        rw [after]
    | some row =>
        obtain ⟨row_mem, rfl⟩ := Registry.find?_eq_some.mp before
        rw [find?_applyWrites adds row_mem]
        exact congrArg some ((settles row).mpr (repeats row row_mem)).symm

/-- The revision detects a change of what the rollup reads exactly if the calls leave what was
there, or they add a row, move a newest stamp or make the sum another one and it can be read. -/
theorem revision_detects_iff (table : EvidenceTable) (writes : List EvidenceWrite) :
    (libraryEvidenceRevision floatSum (applyWrites table writes) =
        libraryEvidenceRevision floatSum table →
      SameSummary table (applyWrites table writes)) ↔
      (¬ Adds table writes ∧ Repeats table writes) ∨
        (¬ Unread floatSum table writes ∧
          (Adds table writes ∨ Restamps table writes ∨ Resums floatSum table writes)) := by
  rw [libraryEvidenceRevision_eq_iff, sameSummary_iff, imp_iff_not_or, not_or, not_not, or_comm]

/-! ### Two files that change places -/

/-- What the integrity scan says of a file. -/
def integrityOf (trackfileId : Int) (ok : Bool) : EvidenceWrite where
  writer := .updateLibraryIntegrity
  given := { trackfileId, albumId := some 1, integrityOk := .bool ok }
  now := 0

/-- A SQLite that makes nothing of sums in floating point. -/
def integersOnly : List StampedRow → Option Int := fun _ => none

/-- One file is sound and one is not. -/
def oneSound : EvidenceTable := applyWrites Registry.empty [integrityOf 1 true, integrityOf 2 false]

/-- The sound one breaks and the other one is repaired. -/
def exchanged : List EvidenceWrite := [integrityOf 1 false, integrityOf 2 true]

theorem not_detected_exchanged :
    libraryEvidenceRevision integersOnly (applyWrites oneSound exchanged) =
        libraryEvidenceRevision integersOnly oneSound ∧
      ¬ SameSummary oneSound (applyWrites oneSound exchanged) := by
  constructor
  · rfl
  · intro same
    have first := same 1
    revert first
    decide

end Mintarr.Evidence
