import Mathlib.Logic.Function.Basic
import Mintarr.Review.Record

/-!
# The backfill of the state index

`backfill` writes the row of each download again from the sidecars on disk, in the order
in which the server looks for a sidecar.  It derives the status with a copy of
`derive_status` of its own, whose cases stand in another order.

Decisions, outcomes and lifecycle states are open strings here, as a sidecar may hold any.
-/

namespace Mintarr.Review

/-! ## Sidecars and rows -/

/-- What the index reads of a sidecar; a key is absent or null where the field is
`none`. -/
structure Sidecar where
  jid : String
  title : Option String := none
  albumIds : List Int := []
  ts : Option Time := none
  decision : Option String := none
  outcome : Option String := none
  score : Option Int := none
  verdict : Option String := none
  state : Option String := none
  createdAt : Option Time := none
  promotedAt : Option Time := none
  discardedAt : Option Time := none
  expiredAt : Option Time := none
  actor : Option String := none
  sourceType : Option String := none
  deriving DecidableEq, Repr

/-- A row of `records`, but for its jid. -/
structure IndexRow where
  title : String
  albumIds : List Int
  createdAt : Time
  updatedAt : Time
  verificationDecision : Option String
  importOutcome : Option String
  derivedStatus : DerivedStatus
  score : Option Int
  verdict : Option String
  lifecycleState : Option String
  actor : Option String
  discardedAt : Option Time
  promotedAt : Option Time
  expiredAt : Option Time
  sourceType : String
  deriving DecidableEq, Repr

namespace Sidecar

variable (sidecar : Sidecar)

/-- `outcome in ("MANUAL_IMPORTED", "RESCUED")`. -/
def imported : Bool :=
  sidecar.outcome = some "MANUAL_IMPORTED" || sidecar.outcome = some "RESCUED"

/-- `derive_status`; a sidecar holds no `verification_state`. -/
def deriveStatus : DerivedStatus :=
  if sidecar.state = some "discarded" then .discarded
  else if sidecar.state = some "expired" then .expired
  else if sidecar.decision = some "REVIEW_REQUIRED" ∧ sidecar.state = some "pending_review" then
    .needsReview
  else if sidecar.decision = some "BLOCK" ∧ sidecar.imported = true then .policyViolation
  else if sidecar.outcome = some "FAILED" then .failed
  else if sidecar.state = some "promoted" then .promoted
  else if sidecar.outcome = some "PENDING" then .pending
  else if sidecar.imported = true then .imported
  else if sidecar.decision = some "BLOCK" then .blocked
  else .unknown

/-- `_derive_status_for_backfill`. -/
def deriveStatusForBackfill : DerivedStatus :=
  if sidecar.decision = some "BLOCK" ∧ sidecar.imported = true then .policyViolation
  else if sidecar.state = some "discarded" then .discarded
  else if sidecar.state = some "expired" then .expired
  else if sidecar.state = some "promoted" then .promoted
  else if sidecar.decision = some "REVIEW_REQUIRED" ∧ sidecar.state = some "pending_review" then
    .needsReview
  else if sidecar.outcome = some "FAILED" then .failed
  else if sidecar.outcome = some "PENDING" then .pending
  else if sidecar.imported = true then .imported
  else if sidecar.decision = some "BLOCK" then .blocked
  else .unknown

/-- `value or other`, of time stamps. -/
def orElse (value : Option Time) (other : Time) : Time :=
  if value.getD 0 ≠ 0 then value.getD 0 else other

/-- `upsert_from_sidecar`, on the row that is there. -/
def upsert (status : DerivedStatus) (now : Time) (row : Option IndexRow) : IndexRow where
  title := sidecar.title.getD ""
  albumIds := sidecar.albumIds
  createdAt := (row.map IndexRow.createdAt).getD
    (orElse sidecar.createdAt (orElse sidecar.ts now))
  updatedAt := now
  verificationDecision := sidecar.decision
  importOutcome := sidecar.outcome
  derivedStatus := status
  score := sidecar.score
  verdict := sidecar.verdict
  lifecycleState := sidecar.state
  actor := sidecar.actor
  discardedAt := sidecar.discardedAt <|> row.bind IndexRow.discardedAt
  promotedAt := sidecar.promotedAt <|> row.bind IndexRow.promotedAt
  expiredAt := sidecar.expiredAt <|> row.bind IndexRow.expiredAt
  sourceType := if sidecar.sourceType.getD "" = "" then "tidal" else sidecar.sourceType.getD ""

/-! ## Where the two statuses differ -/

/-- A promoted record whose import failed, or a closed one that was blocked and imported. -/
def contested : Bool :=
  (sidecar.state = some "promoted" && sidecar.outcome = some "FAILED") ||
    ((sidecar.state = some "discarded" || sidecar.state = some "expired") &&
      sidecar.decision = some "BLOCK" && sidecar.imported)

/-- The copy agrees with the server's derivation but for the contested records. -/
theorem deriveStatusForBackfill_eq_iff :
    sidecar.deriveStatusForBackfill = sidecar.deriveStatus ↔ sidecar.contested = false := by
  have apart : sidecar.imported = true → sidecar.outcome ≠ some "FAILED" := by
    intro imported failed
    simp [Sidecar.imported, failed] at imported
  rw [deriveStatusForBackfill, deriveStatus, contested]
  by_cases violation : sidecar.decision = some "BLOCK" ∧ sidecar.imported = true
  · -- the copy looks at the violation first, the server at the closed states
    have succeeded := apart violation.2
    by_cases discarded : sidecar.state = some "discarded"
    · simp [violation, discarded]
    · by_cases expired : sidecar.state = some "expired"
      · simp [violation, expired]
      · simp [violation, discarded, expired, succeeded]
  · simp only [if_neg violation]
    by_cases promoted : sidecar.state = some "promoted"
    · -- the copy looks at a promote before the outcome of the import
      by_cases failed : sidecar.outcome = some "FAILED"
      · simp [promoted, failed]
      · simp [promoted, failed]
    · have calm : (decide (sidecar.decision = some "BLOCK") && sidecar.imported) = false := by
        simpa using violation
      simp [promoted, Bool.and_assoc, calm]

end Sidecar

/-! ## The server's records are such sidecars -/

/-- `VerificationDecision`, as it is written. -/
def decisionText : Policy.VerificationDecision → String
  | .block => "BLOCK"
  | .reviewRequired => "REVIEW_REQUIRED"
  | .acceptProvisional => "ACCEPT_PROVISIONAL"
  | .accept => "ACCEPT"

/-- `v2_import_outcome`, as it is written. -/
def outcomeText : Policy.ImportOutcome → String
  | .manualImported => "MANUAL_IMPORTED"
  | .rescued => "RESCUED"
  | .failed => "FAILED"
  | .skipped => "SKIPPED"
  | .pending => "PENDING"

/-- `lifecycle["state"]`, as it is written. -/
def stateText : Lane.LifecycleState → String
  | .created => "created"
  | .pendingReview => "pending_review"
  | .promoted => "promoted"
  | .discarded => "discarded"
  | .expired => "expired"

/-- The sidecar of a record. -/
def Record.written (record : Record) (jid : String) : Sidecar where
  jid := jid
  ts := record.ts
  decision := some (decisionText record.decision)
  outcome := some (outcomeText record.outcome)
  state := record.lifecycle.state.map stateText
  createdAt := record.lifecycle.createdAt
  promotedAt := record.lifecycle.promotedAt
  discardedAt := record.lifecycle.discardedAt
  expiredAt := record.lifecycle.expiredAt

/-- The status of a sidecar is the one that the server mirrors for its record. -/
theorem deriveStatus_written (record : Record) (jid : String) :
    (record.written jid).deriveStatus = deriveStatus record := by
  rcases record with ⟨decision, outcome, ⟨state⟩⟩
  cases decision <;> cases outcome <;> rcases state with _ | state <;>
    first
    | rfl
    | cases state <;> rfl

/-! ## Backfill -/

/-- The locations of sidecars. -/
inductive Source where
  | output | blocked | discarded | expired
  deriving DecidableEq, Repr

/-- The sources, in the order in which both searches look at them. -/
def sources : List Source := [.output, .blocked, .discarded, .expired]

/-- The files of a location in the order of `_scan_dir_for_sidecars`, each under the jid
that its name has; nothing is read of a file that is no sidecar.  Every sidecar is filed
under its own jid. -/
structure Shelf where
  files : List (String × Option Sidecar)
  filed : ∀ file ∈ files, ∀ sidecar ∈ file.2, sidecar.jid = file.1

/-- Every file is a sidecar with a jid. -/
def Shelf.Readable (shelf : Shelf) : Prop :=
  ∀ file ∈ shelf.files, ∃ sidecar, file.2 = some sidecar ∧ sidecar.jid ≠ ""

/-- The counts of a backfill. -/
structure Counts where
  filed : Source → Nat := fun _ => 0
  skipped : Nat := 0
  errors : Nat := 0

/-- A backfill under way. -/
structure Progress where
  seen : List String := []
  counts : Counts := {}
  rows : String → Option IndexRow

/-- One turn of the loop of `backfill`. -/
def backfillFile (dryRun : Bool) (now : String → Time) (source : Source) (progress : Progress)
    (content : Option Sidecar) : Progress :=
  match content with
  | none =>
      { progress with
        counts := { progress.counts with errors := progress.counts.errors + 1 } }
  | some sidecar =>
      if sidecar.jid = "" then
        { progress with
          counts := { progress.counts with errors := progress.counts.errors + 1 } }
      else if sidecar.jid ∈ progress.seen then
        { progress with
          counts := { progress.counts with skipped := progress.counts.skipped + 1 } }
      else
        { seen := sidecar.jid :: progress.seen
          counts :=
            { progress.counts with
              filed := Function.update progress.counts.filed source
                (progress.counts.filed source + 1) }
          rows :=
            if dryRun then progress.rows
            else
              Function.update progress.rows sidecar.jid
                (some (sidecar.upsert sidecar.deriveStatusForBackfill (now sidecar.jid)
                  (progress.rows sidecar.jid))) }

/-- The files in the order of the loop. -/
def scanned (shelves : Source → Shelf) : List (Source × String × Option Sidecar) :=
  sources.flatMap fun source => (shelves source).files.map fun file => (source, file)

/-- `backfill`, where the row of a jid is written at the time `now jid`. -/
def backfill (dryRun : Bool) (now : String → Time) (shelves : Source → Shelf)
    (rows : String → Option IndexRow) : Progress :=
  (scanned shelves).foldl
    (fun progress entry => backfillFile dryRun now entry.1 progress entry.2.2) { rows }

/-- `_find_verification_sidecar`, without a projected directory. -/
def findVerificationSidecar (shelves : Source → Shelf) (jid : String) :
    Option (String × Option Sidecar) :=
  sources.findSome? fun source => (shelves source).files.find? fun file => file.1 = jid

/-- The row that the server stores when it mirrors the sidecar that it finds. -/
def mirroredRow (now : String → Time) (shelves : Source → Shelf)
    (rows : String → Option IndexRow) (jid : String) : Option IndexRow :=
  match (findVerificationSidecar shelves jid).bind Prod.snd with
  | none => rows jid
  | some sidecar => some (sidecar.upsert sidecar.deriveStatus (now jid) (rows jid))

/-! ## The run -/

variable {now : String → Time} {shelves : Source → Shelf} {rows : String → Option IndexRow}

/-- The first sidecar of a jid decides its row, and each later one is skipped. -/
theorem rows_foldl {files : List (Source × String × Option Sidecar)}
    (filed : ∀ entry ∈ files, ∃ sidecar, entry.2.2 = some sidecar ∧
      sidecar.jid = entry.2.1 ∧ sidecar.jid ≠ "") (jid : String) :
    ∀ progress : Progress,
      (files.foldl (fun progress entry => backfillFile false now entry.1 progress entry.2.2)
        progress).rows jid =
      if jid ∈ progress.seen then progress.rows jid
      else
        match (files.find? fun entry => entry.2.1 = jid).bind fun entry => entry.2.2 with
        | none => progress.rows jid
        | some sidecar =>
            some (sidecar.upsert sidecar.deriveStatusForBackfill (now jid)
              (progress.rows jid)) := by
  induction files with
  | nil => simp
  | cons head tail ih =>
      intro progress
      obtain ⟨sidecar, content, own, named⟩ := filed head List.mem_cons_self
      have later := ih fun entry present => filed entry (List.mem_cons_of_mem head present)
      rw [List.foldl_cons, later, content]
      simp only [backfillFile, if_neg named]
      by_cases known : sidecar.jid ∈ progress.seen
      · rw [if_pos known]
        by_cases seen : jid ∈ progress.seen
        · simp only [if_pos seen]
        · have other : head.2.1 ≠ jid := by
            rintro rfl
            exact seen (own ▸ known)
          simp only [if_neg seen, List.find?_cons, other, decide_false]
      · rw [if_neg known]
        by_cases here : sidecar.jid = jid
        · subst here
          have found : (head :: tail).find? (fun entry => entry.2.1 = sidecar.jid) = some head := by
            simp [← own]
          rw [if_pos List.mem_cons_self, if_neg known, found]
          simp [content]
        · have other : head.2.1 ≠ jid := by rwa [← own]
          have elsewhere : jid ≠ sidecar.jid := fun same => here same.symm
          have unseen : jid ∈ sidecar.jid :: progress.seen ↔ jid ∈ progress.seen := by
            simp [elsewhere]
          simp only [unseen, List.find?_cons, other, decide_false, Bool.false_eq_true, if_false,
            Function.update_of_ne elsewhere]

/-- The scan meets the sidecars of a jid in the order in which the server looks for one. -/
theorem find?_scanned (jid : String) :
    ((scanned shelves).find? fun entry => entry.2.1 = jid).map Prod.snd =
      findVerificationSidecar shelves jid := by
  rw [scanned, List.find?_flatMap, findVerificationSidecar, List.map_findSome?]
  congr 1
  funext source
  rw [Function.comp_apply, List.find?_map, Option.map_map]
  have identity : (Prod.snd ∘ fun file : String × Option Sidecar => (source, file)) = id := rfl
  rw [identity, Option.map_id]
  rfl

/-- Every entry of the scan is a sidecar that is filed under its jid. -/
theorem scanned_filed (readable : ∀ source, (shelves source).Readable) :
    ∀ entry ∈ scanned shelves, ∃ sidecar, entry.2.2 = some sidecar ∧
      sidecar.jid = entry.2.1 ∧ sidecar.jid ≠ "" := by
  intro entry present
  obtain ⟨source, -, listed⟩ := List.mem_flatMap.mp present
  obtain ⟨file, stored, rfl⟩ := List.mem_map.mp listed
  obtain ⟨sidecar, content, named⟩ := readable source file stored
  exact ⟨sidecar, content, (shelves source).filed file stored sidecar content, named⟩

/-- The row that a backfill leaves. -/
theorem rows_backfill (readable : ∀ source, (shelves source).Readable) (jid : String) :
    (backfill false now shelves rows).rows jid =
      match (findVerificationSidecar shelves jid).bind Prod.snd with
      | none => rows jid
      | some sidecar =>
          some (sidecar.upsert sidecar.deriveStatusForBackfill (now jid) (rows jid)) := by
  have run := @rows_foldl now _ (scanned_filed readable) jid { rows }
  rw [if_neg List.not_mem_nil] at run
  rw [backfill, run, ← find?_scanned, Option.bind_map]
  rfl

/-- The statuses tell two rows of one sidecar apart. -/
theorem upsert_eq_iff {sidecar : Sidecar} {status other : DerivedStatus} {time : Time}
    {row : Option IndexRow} :
    sidecar.upsert status time row = sidecar.upsert other time row ↔ status = other := by
  constructor
  · intro same
    exact congrArg IndexRow.derivedStatus same
  · intro same
    rw [same]

/-- A backfill leaves the rows of the server's own mirroring exactly where no sidecar that
it selects is contested. -/
theorem backfill_mirrors_iff (readable : ∀ source, (shelves source).Readable) :
    (∀ jid, (backfill false now shelves rows).rows jid = mirroredRow now shelves rows jid) ↔
      ∀ jid, ∀ sidecar ∈ (findVerificationSidecar shelves jid).bind Prod.snd,
        sidecar.contested = false := by
  apply forall_congr'
  intro jid
  rw [rows_backfill readable, mirroredRow]
  cases (findVerificationSidecar shelves jid).bind Prod.snd with
  | none => simp
  | some sidecar =>
      simp only [Option.some.injEq, upsert_eq_iff, Sidecar.deriveStatusForBackfill_eq_iff,
        Option.mem_def, forall_eq']

/-- A promoted record whose import failed, in the output. -/
def failedImport : Sidecar where
  jid := "0123456789ab"
  decision := some "ACCEPT_PROVISIONAL"
  outcome := some "FAILED"
  state := some "promoted"
  promotedAt := some 20
  createdAt := some 10

/-- The record of a blocked download, in the archive. -/
def blockedDownload : Sidecar where
  jid := "0123456789ac"
  decision := some "BLOCK"
  outcome := some "SKIPPED"
  state := some "created"
  createdAt := some 10

/-- The record of a second attempt at it, in the output. -/
def importedDownload : Sidecar where
  jid := "0123456789ac"
  decision := some "ACCEPT"
  outcome := some "MANUAL_IMPORTED"
  state := some "created"
  createdAt := some 20

/-- The locations with one sidecar in the output and one in the archive, if there are any. -/
def shelved (output blocked : Option Sidecar) (source : Source) : Shelf where
  files :=
    match source with
    | .output => output.toList.map fun sidecar => (sidecar.jid, some sidecar)
    | .blocked => blocked.toList.map fun sidecar => (sidecar.jid, some sidecar)
    | .discarded | .expired => []
  filed := by
    cases source <;> cases output <;> cases blocked <;> simp

/-- The failed promote is mirrored as failed and backfilled as promoted. -/
theorem failedImport_backfilled :
    ((backfill false (fun _ => 30) (shelved (some failedImport) none) fun _ => none).rows
        failedImport.jid).map IndexRow.derivedStatus = some .promoted ∧
      (mirroredRow (fun _ => 30) (shelved (some failedImport) none) (fun _ => none)
        failedImport.jid).map IndexRow.derivedStatus = some .failed :=
  ⟨rfl, rfl⟩

/-- The first of two records of a download is backfilled as it is mirrored, and the other one is
skipped. -/
theorem blockedDownload_mirrored :
    let shelves := shelved (some importedDownload) (some blockedDownload)
    let after := backfill false (fun _ => 30) shelves fun _ => none
    (∀ jid, after.rows jid = mirroredRow (fun _ => 30) shelves (fun _ => none) jid) ∧
      (after.rows blockedDownload.jid).map IndexRow.derivedStatus = some .imported ∧
      after.counts.skipped = 1 := by
  refine ⟨?_, rfl, rfl⟩
  apply (backfill_mirrors_iff _).mpr
  · intro jid sidecar found
    simp only [findVerificationSidecar, sources, shelved, List.findSome?, Option.toList,
      List.map_nil, List.find?_nil, List.map_cons, List.find?_cons] at found
    by_cases own : importedDownload.jid = jid
    · simp only [own, decide_true, Option.bind_some, Option.mem_def,
        Option.some.injEq] at found
      rw [← found]
      decide
    · have other : ¬ blockedDownload.jid = jid := own
      simp [own, other] at found
  · intro source file stored
    cases source with
    | output =>
        simp only [shelved, Option.toList, List.map_cons, List.map_nil,
          List.mem_singleton] at stored
        exact ⟨importedDownload, by rw [stored], by decide⟩
    | blocked =>
        simp only [shelved, Option.toList, List.map_cons, List.map_nil,
          List.mem_singleton] at stored
        exact ⟨blockedDownload, by rw [stored], by decide⟩
    | discarded | expired => exact absurd stored List.not_mem_nil

end Mintarr.Review
