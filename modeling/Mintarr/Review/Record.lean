import Mintarr.Lane.Calls

/-!
# Verification sidecars

The record of one download: what the verification decided, what became of the import,
and the life of the review.  `Lane.Calls` keeps the few fields that an executor looks at;
here are those that the operator's requests read and write, and the row of the state index
that mirrors them.
-/

namespace Mintarr.Review

open Policy Lane

/-- Time stamps. -/
abbrev Time := Queue.Time

/-! ## Records -/

/-- `lifecycle["blocklist_policy"]`. -/
inductive BlocklistPolicy where
  | holdForReview | blocklistNow | skipped
  deriving DecidableEq, Repr

/-- `lifecycle["blocklist_status"]`. -/
inductive BlocklistStatus where
  | pending | skipped | done | failed
  deriving DecidableEq, Repr

/-- `lifecycle["actor"]`. -/
inductive Actor where
  | userPromote | userDiscard | autoExpire
  deriving DecidableEq, Repr

/-- The keys of a `lifecycle`; a key is absent or null where the field is `none`. -/
structure Lifecycle where
  state : Option LifecycleState := none
  createdAt : Option Time := none
  promotedAt : Option Time := none
  discardedAt : Option Time := none
  expiredAt : Option Time := none
  actor : Option Actor := none
  blocklistPolicy : Option BlocklistPolicy := none
  blocklistStatus : Option BlocklistStatus := none
  deriving DecidableEq, Repr

/-- A verification sidecar.  A missing `lifecycle` is the empty one, as every reader
takes it. -/
structure Record where
  decision : VerificationDecision
  outcome : ImportOutcome
  lifecycle : Lifecycle := {}
  overrides : List Override := []
  /-- `manual_promote` is among the overrides. -/
  manualPromote : Bool := false
  /-- `release_identity_decision`. -/
  identity : Option IdentityDecision := none
  ts : Option Time := none
  deriving DecidableEq, Repr

/-- `decide_blocklist_policy`. -/
def decideBlocklistPolicy (verdict : String) (overrides : List Override) : BlocklistPolicy :=
  if .fakeHiRes ∈ overrides then .holdForReview
  else if verdict = "FAKE_CERTAIN" then .blocklistNow
  else .blocklistNow

/-- `_sidecar_lifecycle`. -/
def sidecarLifecycle (result : VerificationResult) (now : Time) : Lifecycle :=
  let state : LifecycleState :=
    if result.verificationDecision = .reviewRequired then .pendingReview else .created
  let policy : BlocklistPolicy :=
    if state = .pendingReview then decideBlocklistPolicy result.verdict result.overrides
    else .skipped
  { state := some state
    createdAt := some now
    blocklistPolicy := some policy
    blocklistStatus := some (if policy = .blocklistNow then .pending else .skipped) }

/-- `_verification_record`: a lifecycle that is there already is kept as it is. -/
def verificationRecord (result : VerificationResult) (existing : Option Record) (now : Time) :
    Record where
  decision := result.verificationDecision
  outcome := result.importOutcome
  lifecycle :=
    match existing with
    | none => sidecarLifecycle result now
    | some existing =>
        if existing.lifecycle = {} then sidecarLifecycle result now else existing.lifecycle
  overrides := result.overrides
  identity := some result.identity.decision
  ts := some now

namespace Record

/-- `outcome in ("MANUAL_IMPORTED", "RESCUED")`. -/
def imported (record : Record) : Bool :=
  record.outcome = .manualImported || record.outcome = .rescued

/-- A promote that did not import: the second half of `_is_promotable`. -/
def promoteFailed (record : Record) : Bool :=
  record.decision = .acceptProvisional &&
    (record.outcome = .failed || record.outcome = .pending) && record.manualPromote

/-- `_is_promotable`. -/
def isPromotable (record : Record) : Bool :=
  (record.decision = .reviewRequired && record.lifecycle.state = some .pendingReview) ||
    record.promoteFailed

/-- `_is_retryable_verified_import`. -/
def isRetryableVerifiedImport (record : Record) : Bool :=
  (record.decision = .accept || record.decision = .acceptProvisional) &&
    (record.outcome = .failed || record.outcome = .pending) &&
    record.lifecycle.state ≠ some .discarded && record.lifecycle.state ≠ some .expired

/-- The check of `verification_discard`. -/
def isDiscardable (record : Record) : Bool :=
  record.decision = .reviewRequired || record.promoteFailed

/-- `_release_switch_manual_review_allowed`, where the strategy is `review`. -/
def isSwitchable (record : Record) : Bool :=
  record.isPromotable && record.decision ≠ .block &&
    !([.codecMismatch, .flacTFail, .validatorError].any fun override : Override =>
      override ∈ record.overrides) &&
    (record.identity = some .ambiguousEdition || record.identity = some .insufficientEvidence)

/-- The record that a promote writes before its import. -/
def promote (record : Record) (now : Time) : Record :=
  { record with
    decision := .acceptProvisional
    manualPromote := true
    lifecycle :=
      { record.lifecycle with
        state := some .promoted
        actor := some .userPromote
        promotedAt :=
          if record.lifecycle.promotedAt.getD 0 = 0 then some now
          else record.lifecycle.promotedAt } }

/-- The blocklist status when a review is closed; a release is blocklisted once. -/
def blocklistStatus (record : Record) (blocklisted : Bool) : Option BlocklistStatus :=
  if record.lifecycle.blocklistStatus = some .done then some .done
  else some (if blocklisted then .done else .failed)

/-- The record that a discard writes. -/
def discard (record : Record) (now : Time) (blocklisted : Bool) : Record :=
  { record with
    lifecycle :=
      { record.lifecycle with
        state := some .discarded
        discardedAt := some now
        actor := some .userDiscard
        blocklistStatus := record.blocklistStatus blocklisted } }

/-- The record that an expiry writes. -/
def expire (record : Record) (now : Time) (blocklisted : Bool) : Record :=
  { record with
    lifecycle :=
      { record.lifecycle with
        state := some .expired
        expiredAt := some now
        actor := some .autoExpire
        blocklistStatus := record.blocklistStatus blocklisted } }

/-- `float(lifecycle.get("created_at") or rec.get("ts") or now)`. -/
def createdAt (record : Record) (now : Time) : Time :=
  if record.lifecycle.createdAt.getD 0 ≠ 0 then record.lifecycle.createdAt.getD 0
  else if record.ts.getD 0 ≠ 0 then record.ts.getD 0
  else now

/-- The checks of `_expire_review_required_jobs`. -/
def isExpired (record : Record) (now maxAge : Time) : Bool :=
  record.decision = .reviewRequired && record.lifecycle.state = some .pendingReview &&
    now - record.createdAt now > maxAge

/-- The review is over. -/
def closed (record : Record) : Bool :=
  record.lifecycle.state = some .discarded || record.lifecycle.state = some .expired

/-- The fields that an executor looks at. -/
def sidecar (record : Record) : SidecarRecord where
  decision := record.decision
  outcome := record.outcome
  lifecycle := record.lifecycle.state.getD .created
  overrides := record.overrides
  manualPromote := record.manualPromote
  identity := record.identity
  blocklistNow := record.lifecycle.blocklistPolicy = some .blocklistNow
  blocklistDone := record.lifecycle.blocklistStatus = some .done

end Record

/-! ## Executors see the same record -/

theorem isPromotable_sidecar (record : Record) :
    record.sidecar.isPromotable = record.isPromotable := by
  cases state : record.lifecycle.state <;>
    simp [SidecarRecord.isPromotable, Record.isPromotable, Record.promoteFailed,
      Record.sidecar, state]

theorem isRetryable_sidecar (record : Record) :
    record.sidecar.isRetryableVerifiedImport = record.isRetryableVerifiedImport := by
  cases state : record.lifecycle.state <;>
    simp [SidecarRecord.isRetryableVerifiedImport, Record.isRetryableVerifiedImport,
      Record.sidecar, state]

/-- The lane writes the record that is written here. -/
theorem verificationRecord_sidecar (result : VerificationResult) (existing : Option Record)
    (now : Time)
    (stored : ∀ record ∈ existing, record.lifecycle.state.isSome) :
    (verificationRecord result existing now).sidecar =
      Lane.verificationRecord result (existing.map Record.sidecar) := by
  cases existing with
  | none =>
      simp only [verificationRecord, Lane.verificationRecord, Record.sidecar, sidecarLifecycle,
        Option.map_none, Option.getD_some, Option.any_none]
      by_cases reviewed : result.verificationDecision = .reviewRequired
      · by_cases fake : .fakeHiRes ∈ result.overrides <;>
          simp [decideBlocklistPolicy, reviewed, fake]
      · simp [reviewed]
  | some record =>
      have living : record.lifecycle ≠ {} := by
        intro empty
        have state := stored record rfl
        rw [empty] at state
        contradiction
      simp only [verificationRecord, Lane.verificationRecord, Record.sidecar, if_neg living,
        Option.map_some, Option.any_some]

/-! ## The state index -/

/-- The statuses of `derive_status`. -/
inductive DerivedStatus where
  | discarded | expired | needsReview | policyViolation | failed | promoted | pending
  | imported | blocked | unknown
  deriving DecidableEq, Repr

/-- `derive_status` of a sidecar. -/
def deriveStatus (record : Record) : DerivedStatus :=
  if record.lifecycle.state = some .discarded then .discarded
  else if record.lifecycle.state = some .expired then .expired
  else if record.decision = .reviewRequired ∧ record.lifecycle.state = some .pendingReview then
    .needsReview
  else if record.decision = .block ∧ record.imported = true then .policyViolation
  else if record.outcome = .failed then .failed
  else if record.lifecycle.state = some .promoted then .promoted
  else if record.outcome = .pending then .pending
  else if record.imported = true then .imported
  else if record.decision = .block then .blocked
  else .unknown

/-- The row of a download in `records`, as far as the sidecar decides it. -/
structure Row where
  createdAt : Time
  decision : VerificationDecision
  importOutcome : ImportOutcome
  derivedStatus : DerivedStatus
  lifecycleState : Option LifecycleState
  actor : Option Actor
  discardedAt : Option Time
  promotedAt : Option Time
  expiredAt : Option Time
  deriving DecidableEq, Repr

/-- `upsert_from_sidecar(record, derived_status=derive_status(record))`: the row that the
statement leaves where there was `row`. -/
def upsertFromSidecar (record : Record) (now : Time) (row : Option Row) : Row where
  createdAt := (row.map Row.createdAt).getD (record.createdAt now)
  decision := record.decision
  importOutcome := record.outcome
  derivedStatus := deriveStatus record
  lifecycleState := record.lifecycle.state
  actor := record.lifecycle.actor
  discardedAt := record.lifecycle.discardedAt <|> row.bind Row.discardedAt
  promotedAt := record.lifecycle.promotedAt <|> row.bind Row.promotedAt
  expiredAt := record.lifecycle.expiredAt <|> row.bind Row.expiredAt

/-- The row shows the record: writing the record again would leave it as it is. -/
def Row.Shows (row : Row) (record : Record) : Prop :=
  ∀ now, upsertFromSidecar record now (some row) = row

/-- An upsert shows its record. -/
theorem shows_upsertFromSidecar (record : Record) (now : Time) (row : Option Row) :
    (upsertFromSidecar record now row).Shows record := by
  intro later
  have again : ∀ first second : Option Time,
      (first <|> (first <|> second)) = (first <|> second) := by
    intro first second
    cases first <;> rfl
  simp only [upsertFromSidecar, Option.map_some, Option.getD_some, Option.bind_some, again]

/-- A row shows every record with the same columns. -/
theorem Row.Shows.congr {row : Row} {record other : Record} (same : row.Shows record)
    (decision : other.decision = record.decision) (outcome : other.outcome = record.outcome)
    (lifecycle : { other.lifecycle with
        createdAt := none, blocklistPolicy := none, blocklistStatus := none } =
      { record.lifecycle with
        createdAt := none, blocklistPolicy := none, blocklistStatus := none }) :
    row.Shows other := by
  cases record with
  | mk recordDecision recordOutcome recordLifecycle =>
      cases recordLifecycle
      cases other with
      | mk otherDecision otherOutcome otherLifecycle =>
          cases otherLifecycle
          simp only [Lifecycle.mk.injEq, true_and, and_true] at decision outcome lifecycle
          rcases lifecycle with ⟨rfl, rfl, rfl, rfl, rfl⟩
          subst decision outcome
          exact same

end Mintarr.Review
