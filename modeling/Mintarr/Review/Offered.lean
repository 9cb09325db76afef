import Mintarr.Review.Mirror

/-!
# The actions that the dashboard offers

The dashboard shows an operator the actions that `available_actions` lists for a record, and
passes the chosen one on to an endpoint with a guard of its own.  The list and the guards
were written apart: a blocked release may be discarded by the one and not by the other, as
may a failed import that no operator promoted.
-/

namespace Mintarr.Review

open Lib Policy Lane

/-! ## The menu -/

/-- The actions of the menu. -/
inductive MenuAction where
  | promote | discard | applyReleaseSwitch | retryImport
  deriving DecidableEq, Repr

/-- What is configured: whether `_release_switch_strategy()` is `review`, and whether
`_get_lidarr_key()` finds a key. -/
structure Settings where
  review : Bool
  lidarrKey : Bool
  deriving DecidableEq, Repr

namespace Record

/-- `decision == "REVIEW_REQUIRED" and state == "pending_review"`. -/
def waits (record : Record) : Bool :=
  record.decision = .reviewRequired && record.lifecycle.state = some .pendingReview

/-- `identity_decision in {"AMBIGUOUS_EDITION", "INSUFFICIENT_EVIDENCE"}`. -/
def unclearEdition (record : Record) : Bool :=
  record.identity = some .ambiguousEdition || record.identity = some .insufficientEvidence

/-- `hard_audio_overrides.intersection(overrides)`. -/
def hardOverride (record : Record) : Bool :=
  [.codecMismatch, .flacTFail, .validatorError].any fun override : Override =>
    override ∈ record.overrides

end Record

/-- `available_actions`. -/
def availableActions (settings : Settings) (record : Record) : List MenuAction :=
  if record.closed then []
  else if record.imported then []
  else if record.waits then
    if record.unclearEdition && settings.review then [.promote, .discard, .applyReleaseSwitch]
    else [.promote, .discard]
  else if record.outcome = .failed then [.retryImport, .discard]
  else if record.outcome = .pending then [.retryImport]
  else if record.decision = .block then [.discard]
  else []

/-! ## The request -/

/-- What an endpoint meets besides the record. -/
structure Circumstances where
  /-- The worker queue takes the job. -/
  queued : Bool := true
  reply : ImportReply := {}
  /-- How many albums a switch changed; nothing where that raises. -/
  switched : Option Nat := some 1
  close : CloseReply
  now : Time

/-- The output directory exists. -/
def Circumstances.OutputPresent (meets : Circumstances) : Prop :=
  meets.reply.outputExists = true ∧ meets.close.outputExists = true

/-- The endpoint of an action in `view_map`, and its HTTP status; nothing where it raises. -/
def viewMap (settings : Settings) (meets : Circumstances) (desk : Desk) :
    MenuAction → Desk × Option Nat
  | .promote =>
      let answer := verificationPromote meets.queued meets.reply meets.now desk
      (answer.1, answer.2.map ActionResult.status)
  | .discard =>
      let answer := verificationDiscard
        { meets.close with
          blocklisted := settings.lidarrKey && meets.close.blocklisted } desk
      (answer.1, some answer.2)
  | .applyReleaseSwitch =>
      let answer := verificationReleaseSwitch
        { enabled := settings.review
          lidarrKey := settings.lidarrKey
          switched := meets.switched
          reply := meets.reply } meets.now desk
      (answer.1, some answer.2)
  | .retryImport =>
      let answer := verificationRetryImport meets.queued meets.reply desk
      (answer.1, answer.2.map ActionResult.status)

/-- `action` of the dashboard. -/
def dashboardAction (settings : Settings) (meets : Circumstances) (requested : MenuAction)
    (desk : Desk) : Desk × Option Nat :=
  match desk.readVerificationSidecar with
  | none => (desk, some 404)
  | some (_, record) =>
      if requested ∈ availableActions settings record then
        viewMap settings meets desk requested
      else (desk, some 409)

/-- Every action that the dashboard offers is accepted. -/
def Desk.Accepts (desk : Desk) (settings : Settings) : Prop :=
  ∀ place record, desk.readVerificationSidecar = some (place, record) →
    ∀ requested ∈ availableActions settings record, ∀ meets : Circumstances,
      meets.OutputPresent → (dashboardAction settings meets requested desk).2 ≠ some 409

/-! ## The condition -/

/-- Where a record is open, no release switch is offered for one whose audio is broken, nor
without a key; a failed import is one that an operator promoted; a pending one was accepted;
and it is not blocked. -/
structure Record.MenuFits (record : Record) (settings : Settings) : Prop where
  switch : record.waits = true → record.unclearEdition = true → settings.review = true →
    record.hardOverride = false ∧ settings.lidarrKey = true
  failed : record.waits = false → record.outcome = .failed → record.manualPromote = true
  pending : record.waits = false → record.outcome = .pending →
    record.decision = .accept ∨ record.decision = .acceptProvisional
  blocked : record.outcome = .skipped → record.decision ≠ .block

/-- The condition on the record of a download. -/
def Desk.MenuFits (desk : Desk) (settings : Settings) : Prop :=
  ∀ place record, desk.readVerificationSidecar = some (place, record) →
    record.closed = false → record.imported = false → record.MenuFits settings

/-! ## The guards -/

section Guards

variable {desk : Desk} {settings : Settings} {place : Place} {record : Record}

/-- The guard of the endpoint of an action. -/
def Record.passes (record : Record) (settings : Settings) : MenuAction → Bool
  | .promote => record.isPromotable
  | .discard => record.isDiscardable
  | .applyReleaseSwitch => settings.review && record.isSwitchable && settings.lidarrKey
  | .retryImport => record.isRetryableVerifiedImport

/-- A promote that may begin is not refused. -/
theorem promoteVerifiedImport_accepted {reply : ImportReply} {now : Time}
    (promotable : record.isPromotable = true) :
    (promoteVerifiedImport reply now place record desk).2.map ActionResult.status ≠
      some 409 := by
  simp only [promoteVerifiedImport, promotable, Bool.not_true, Bool.false_eq_true, if_false]
  repeat' split
  all_goals simp

theorem promote_refused_iff {queued : Bool} {reply : ImportReply} {now : Time}
    (found : desk.readVerificationSidecar = some (place, record))
    (unimported : record.imported = false) :
    (verificationPromote queued reply now desk).2.map ActionResult.status = some 409 ↔
      record.isPromotable = false := by
  simp only [verificationPromote, found, unimported, Bool.false_eq_true, if_false]
  cases promotable : record.isPromotable with
  | false => simp
  | true =>
      cases queued with
      | true => simp
      | false => simpa using promoteVerifiedImport_accepted promotable

theorem discard_refused_iff {reply : CloseReply}
    (found : desk.readVerificationSidecar = some (place, record)) :
    (verificationDiscard reply desk).2 = 409 ↔ record.isDiscardable = false := by
  simp only [verificationDiscard, found]
  cases record.isDiscardable with
  | false => simp
  | true =>
      simp only [Bool.not_true, Bool.false_eq_true, if_false]
      repeat' split
      all_goals simp

theorem retry_refused_iff {queued : Bool} {reply : ImportReply}
    (found : desk.readVerificationSidecar = some (place, record))
    (unimported : record.imported = false) (present : reply.outputExists = true) :
    (verificationRetryImport queued reply desk).2.map ActionResult.status = some 409 ↔
      record.isRetryableVerifiedImport = false := by
  simp only [verificationRetryImport, found, unimported, present, retryVerifiedImport,
    Bool.not_true, Bool.false_eq_true, if_false]
  cases record.isRetryableVerifiedImport with
  | false => simp
  | true =>
      simp only [Bool.not_true, Bool.false_eq_true, if_false]
      repeat' split
      all_goals simp

theorem switch_refused_iff {reply : SwitchReply} {now : Time}
    (found : desk.readVerificationSidecar = some (place, record))
    (present : reply.reply.outputExists = true) :
    (verificationReleaseSwitch reply now desk).2 = 409 ↔
      (reply.enabled && record.isSwitchable && reply.lidarrKey) = false := by
  simp only [verificationReleaseSwitch, found, present, Bool.not_true, Bool.false_eq_true,
    if_false]
  cases switchable : reply.enabled && record.isSwitchable with
  | false => simp
  | true =>
      cases reply.lidarrKey with
      | false => simp
      | true =>
          have promotable : record.isPromotable = true := by
            simp only [Bool.and_eq_true, Record.isSwitchable] at switchable
            exact switchable.2.1.1.1
          simp only [Bool.not_true, Bool.false_eq_true, if_false, Bool.and_self]
          split
          · simp
          · simp
          · split
            · simp
            · next count switched after result ended =>
                have accepted : (some result).map ActionResult.status ≠ some 409 := by
                  have answered := congrArg Prod.snd ended
                  dsimp only at answered
                  rw [← answered]
                  exact promoteVerifiedImport_accepted promotable
                simpa using accepted

/-- An endpoint answers 409 exactly where its guard fails. -/
theorem viewMap_refuses_iff {meets : Circumstances} (requested : MenuAction)
    (found : desk.readVerificationSidecar = some (place, record))
    (unimported : record.imported = false) (present : meets.OutputPresent) :
    (viewMap settings meets desk requested).2 = some 409 ↔
      record.passes settings requested = false := by
  cases requested with
  | promote => exact promote_refused_iff found unimported
  | discard =>
      rw [Record.passes, ← discard_refused_iff found]
      exact Option.some_inj
  | applyReleaseSwitch =>
      rw [Record.passes]
      let reply : SwitchReply :=
        { enabled := settings.review
          lidarrKey := settings.lidarrKey
          switched := meets.switched
          reply := meets.reply }
      have refused := @switch_refused_iff desk place record reply meets.now found present.1
      rw [← refused]
      exact Option.some_inj
  | retryImport => exact retry_refused_iff found unimported present.1

/-- The menu is accepted exactly where every action on it passes its guard. -/
theorem Desk.accepts_iff : desk.Accepts settings ↔
    ∀ place record, desk.readVerificationSidecar = some (place, record) →
      ∀ requested ∈ availableActions settings record,
        record.passes settings requested = true := by
  unfold Desk.Accepts
  apply forall₂_congr
  intro place record
  apply forall_congr'
  intro found
  apply forall₂_congr
  intro requested offered
  have unimported : record.imported = false := by
    cases imported : record.imported with
    | false => rfl
    | true => simp [availableActions, imported] at offered
  have answered : ∀ meets, (dashboardAction settings meets requested desk).2 =
      (viewMap settings meets desk requested).2 := by
    intro meets
    simp only [dashboardAction, found, if_pos offered]
  constructor
  · intro accepted
    let meets : Circumstances := { close := { now := 0 }, now := 0 }
    have here := accepted meets ⟨rfl, rfl⟩
    rw [answered, ne_eq, viewMap_refuses_iff requested found unimported ⟨rfl, rfl⟩] at here
    simpa using here
  · intro passes meets present
    rw [answered, ne_eq, viewMap_refuses_iff requested found unimported present, passes]
    simp

/-- A review that waits can be promoted and discarded. -/
theorem Record.menuFits_of_waits (closed : record.closed = false)
    (imported : record.imported = false) (waits : record.waits = true) :
    (∀ requested ∈ availableActions settings record,
        record.passes settings requested = true) ↔ record.MenuFits settings := by
  have review := waits
  simp only [Record.waits, Bool.and_eq_true, decide_eq_true_eq] at review
  have promotable : record.isPromotable = true := by
    simp [Record.isPromotable, review.1, review.2]
  have discardable : record.isDiscardable = true := by
    simp [Record.isDiscardable, review.1]
  have switchable : record.isSwitchable =
      (!record.hardOverride && record.unclearEdition) := by
    simp [Record.isSwitchable, promotable, review.1, Record.hardOverride,
      Record.unclearEdition]
  have fits : record.MenuFits settings ↔
      (record.unclearEdition = true → settings.review = true →
        record.hardOverride = false ∧ settings.lidarrKey = true) := by
    constructor
    · intro fits
      exact fits.switch waits
    · intro switch
      constructor
      · intro _
        exact switch
      · simp [waits]
      · simp [waits]
      · simp [review.1]
  rw [fits]
  cases offered : record.unclearEdition && settings.review with
  | false =>
      have withheld : record.unclearEdition = true → settings.review ≠ true := by
        intro unclear review
        simp [unclear, review] at offered
      simp only [availableActions, closed, imported, waits, offered, Bool.false_eq_true,
        if_false, if_true, List.forall_mem_cons, Record.passes, promotable, discardable,
        List.not_mem_nil, IsEmpty.forall_iff, implies_true, and_self, true_iff]
      intro unclear review
      exact absurd review (withheld unclear)
  | true =>
      have both : record.unclearEdition = true ∧ settings.review = true := by
        simpa using offered
      simp [availableActions, closed, imported, waits, Record.passes, promotable, discardable,
        switchable, both.1, both.2]

/-- An import that is not under review is retried where it was accepted, and discarded where
an operator promoted it. -/
theorem Record.menuFits_of_not_waits (closed : record.closed = false)
    (imported : record.imported = false) (waits : record.waits = false)
    (promoted : record.manualPromote = true → record.decision = .acceptProvisional) :
    (∀ requested ∈ availableActions settings record,
        record.passes settings requested = true) ↔ record.MenuFits settings := by
  have fits : record.MenuFits settings ↔
      (record.outcome = .failed → record.manualPromote = true) ∧
      (record.outcome = .pending →
        record.decision = .accept ∨ record.decision = .acceptProvisional) ∧
      (record.outcome = .skipped → record.decision ≠ .block) := by
    constructor
    · intro fits
      exact ⟨fits.failed waits, fits.pending waits, fits.blocked⟩
    · intro parts
      constructor
      · simp [waits]
      · intro _
        exact parts.1
      · intro _
        exact parts.2.1
      · exact parts.2.2
  have live : record.lifecycle.state ≠ some .discarded ∧
      record.lifecycle.state ≠ some .expired := by
    simpa [Record.closed] using closed
  rw [fits]
  cases outcome : record.outcome with
  | manualImported => simp [Record.imported, outcome] at imported
  | rescued => simp [Record.imported, outcome] at imported
  | failed =>
      -- Both actions are on the menu; a discard is refused unless the import was promoted.
      simp only [availableActions, closed, imported, waits, outcome, Bool.false_eq_true,
        if_false, if_true, List.forall_mem_cons, List.not_mem_nil, IsEmpty.forall_iff,
        implies_true, and_true, Record.passes, true_implies, reduceCtorEq]
      constructor
      · intro passes
        have discardable := passes.2
        have retryable := passes.1
        simp only [Record.isDiscardable, Record.promoteFailed, Bool.or_eq_true, Bool.and_eq_true,
          decide_eq_true_eq] at discardable
        rcases discardable with review | failed
        · simp [Record.isRetryableVerifiedImport, review] at retryable
        · exact failed.2
      · intro manual
        have accepted := promoted manual
        constructor
        · simp [Record.isRetryableVerifiedImport, outcome, accepted, live.1, live.2]
        · simp [Record.isDiscardable, Record.promoteFailed, outcome, accepted, manual]
  | pending =>
      simp [availableActions, closed, imported, waits, outcome, Record.passes,
        Record.isRetryableVerifiedImport, live.1, live.2]
  | skipped =>
      cases decision : record.decision <;>
        simp [availableActions, closed, imported, waits, outcome, Record.passes,
          Record.isDiscardable, Record.promoteFailed, decision]

/-- A record on which an operator's promote stands only where it was accepted by one meets
its menu exactly where the condition holds. -/
theorem Record.menuFits_iff (promoted : record.manualPromote = true →
      record.decision = .acceptProvisional) :
    (∀ requested ∈ availableActions settings record,
        record.passes settings requested = true) ↔
      (record.closed = false → record.imported = false → record.MenuFits settings) := by
  cases closed : record.closed with
  | true => simp [availableActions, closed]
  | false =>
      cases imported : record.imported with
      | true => simp [availableActions, imported]
      | false =>
          simp only [true_implies]
          cases waits : record.waits with
          | true => exact Record.menuFits_of_waits closed imported waits
          | false => exact Record.menuFits_of_not_waits closed imported waits promoted

end Guards

/-! ## What every record keeps -/

/-- Every sidecar of a download has a property. -/
def Desk.Every (desk : Desk) (property : Record → Prop) : Prop :=
  ∀ place record, desk.file place = some (some record) → property record

/-- A property that no operation takes from a record. -/
structure Lasting (property : Record → Prop) : Prop where
  promote : ∀ record now, property record → property (record.promote now)
  outcome : ∀ record outcome, property record → property { record with outcome }
  lifecycle : ∀ record lifecycle, property record → property { record with lifecycle }
  fresh : ∀ result existing now, property (verificationRecord result existing now)

section Every

variable {desk : Desk} {property : Record → Prop} {place : Place} {record : Record}

theorem Desk.Every.write (every : desk.Every property) (written : property record) :
    (desk.write place record).Every property := by
  intro other content stored
  rw [Desk.file_write] at stored
  split at stored
  · cases stored
    exact written
  · exact every other content stored

theorem Desk.Every.remove (every : desk.Every property) : (desk.remove place).Every property := by
  intro other content stored
  rw [Desk.file_remove] at stored
  split at stored
  · contradiction
  · exact every other content stored

theorem Desk.Every.found (every : desk.Every property)
    (found : desk.readVerificationSidecar = some (place, record)) : property record :=
  every place record (Desk.readVerificationSidecar_eq_some.mp found).2

theorem every_promote (lasting : Lasting property) (every : desk.Every property)
    (holds : property record) {reply : ImportReply} {now : Time} :
    (promoteVerifiedImport reply now place record desk).1.Every property := by
  have promoted := lasting.promote record now holds
  have begun : ((desk.write place (record.promote now)).runManualImportOnly reply).Every
      property := every.write promoted
  simp only [promoteVerifiedImport]
  split
  · exact every
  · split
    · exact every
    · split
      · exact every
      · split
        · exact begun
        · next outcome ended =>
            split
            · exact begun.write (lasting.outcome _ outcome promoted)
            · exact begun

theorem every_retry (lasting : Lasting property) (every : desk.Every property)
    (holds : property record) {reply : ImportReply} :
    (retryVerifiedImport reply place record desk).1.Every property := by
  have saved : desk.saveOutputDir.Every property := every
  have begun : (desk.saveOutputDir.runManualImportOnly reply).Every property := every
  simp only [retryVerifiedImport]
  split
  · exact every
  · split
    · exact every
    · split
      · exact every
      · split
        · exact every
        · split
          · exact saved
          · split
            · exact begun
            · next outcome ended =>
                split
                · exact begun.write (lasting.outcome _ outcome holds)
                · exact begun

theorem every_rmtree (every : desk.Every property) {reply : CloseReply} :
    (desk.rmtree reply).Every property := by
  unfold Desk.rmtree
  split
  · exact every.remove
  · exact every

theorem every_archive (every : desk.Every property) (holds : property record)
    {reply : CloseReply} {old target : Place} :
    (desk.archive reply old target record).1.Every property := by
  have written : (desk.write target record).Every property := every.write holds
  simp only [Desk.archive]
  split
  · exact every
  · split
    · exact written
    · split
      · exact written.remove
      · exact written

theorem every_reconcile (lasting : Lasting property) (every : desk.Every property)
    (holds : property record) {lidarr : LidarrReply} {path : Option Place} :
    (reconcilePendingImport lidarr record path desk).Every property := by
  unfold reconcilePendingImport
  cases lidarr.outcome record with
  | none => exact every
  | some outcome =>
      have settle : ∀ after : Desk, after.Every property →
          (if outcome = .manualImported then after.saveOutputDir else after).Every property := by
        intro after kept
        split
        · exact kept
        · exact kept
      dsimp only
      cases path <|> desk.findVerificationSidecar with
      | none => exact settle desk every
      | some target =>
          cases lidarr.written with
          | false => exact every
          | true => exact settle _ (every.write (lasting.outcome _ outcome holds))

theorem every_writeSidecar (lasting : Lasting property) (every : desk.Every property)
    {result : VerificationResult} {archived : Bool} {reply : WriteReply} :
    (writeVerificationSidecar result archived reply desk).1.Every property := by
  simp only [writeVerificationSidecar]
  generalize (if archived then Place.blocked else .folder desk.outputDir) = target
  have fresh := lasting.fresh result (desk.readVerificationSidecar.map (·.2)) reply.now
  generalize verificationRecord result (desk.readVerificationSidecar.map (·.2)) reply.now =
    record at fresh
  have written : (desk.write target record).Every property := every.write fresh
  cases reply.written with
  | false => exact every
  | true =>
      cases desk.readVerificationSidecar with
      | none => exact written
      | some existing =>
          rcases existing with ⟨old, _⟩
          dsimp only
          cases old ≠ target && reply.unlinked with
          | false => exact written
          | true =>
              have removed : ((desk.write target record).remove old).Every property :=
                written.remove
              exact removed

theorem every_createReview (lasting : Lasting property) (every : desk.Every property)
    {result : VerificationResult} {reply : WriteReply} :
    (createReviewRequired result reply desk).1.Every property := by
  have wrote : (writeVerificationSidecar result false reply desk).1.Every property :=
    every_writeSidecar lasting every
  unfold createReviewRequired
  generalize writeVerificationSidecar result false reply desk = answer at wrote
  rcases answer with ⟨written, target⟩
  cases target with
  | none => exact wrote
  | some target =>
      dsimp only
      split
      · exact wrote
      · next record stored =>
          split
          · exact wrote
          · split
            · exact wrote
            · next blocklisted rewrites =>
                split
                · have holds : property record :=
                    wrote target record (Option.join_eq_some_iff.mp stored)
                  have kept : property blocklisted := by
                    unfold blocklistReview at rewrites
                    split at rewrites
                    · cases rewrites
                      exact lasting.lifecycle record _ holds
                    · contradiction
                  have rewritten : (written.write target blocklisted).Every property :=
                    Desk.Every.write wrote kept
                  exact rewritten
                · exact wrote

theorem every_finalize (lasting : Lasting property) (every : desk.Every property) {now : Time}
    {written : Bool} : (finalizeImportedBackendRecord now written desk).Every property := by
  unfold finalizeImportedBackendRecord
  split
  · next place record found =>
      split
      · exact every
      · split
        · exact every
        · have imported := lasting.outcome record .manualImported (every.found found)
          have kept : (desk.write place { record with outcome := .manualImported }).Every
              property := every.write imported
          exact kept
  · split
    · exact every
    · exact every

theorem every_discard (lasting : Lasting property) (every : desk.Every property)
    {reply : CloseReply} : (verificationDiscard reply desk).1.Every property := by
  unfold verificationDiscard
  split
  · exact every
  · next place record found =>
      split
      · exact every
      · split
        · exact every
        · have discarded : property (record.discard reply.now reply.blocklisted) :=
            lasting.lifecycle record _ (every.found found)
          have archived : ((desk.rmtree reply).archive reply place .discarded
              (record.discard reply.now reply.blocklisted)).1.Every property :=
            every_archive (every_rmtree every) discarded
          dsimp only
          split
          · next after ended =>
              rw [ended] at archived
              exact archived
          · next after ended =>
              rw [ended] at archived
              exact archived

theorem every_expire (lasting : Lasting property) (every : desk.Every property)
    {reply : CloseReply} : (expireReviewRequiredJobs reply desk).Every property := by
  unfold expireReviewRequiredJobs
  split
  · exact every
  · split
    · exact every
    · split
      · exact every
      · next place record found =>
          have expired : property (record.expire reply.now reply.blocklisted) :=
            lasting.lifecycle record _ (every.found found)
          have archived : (desk.archive reply place .expired
              (record.expire reply.now reply.blocklisted)).1.Every property :=
            every_archive every expired
          split
          · next after ended =>
              rw [ended] at archived
              exact archived
          · next after ended =>
              rw [ended] at archived
              exact every_rmtree archived

theorem every_action (lasting : Lasting property) (every : desk.Every property)
    (action : Action) : (action.perform desk).Every property := by
  cases action with
  | promote queued reply now =>
      simp only [Action.perform, verificationPromote]
      split
      · exact every
      · next place record found =>
          split
          · exact every
          · split
            · exact every
            · split
              · exact every
              · exact every_promote lasting every (every.found found)
  | retryImport queued reply =>
      simp only [Action.perform, verificationRetryImport]
      split
      · exact every
      · next place record found =>
          split
          · exact every
          · split
            · exact every
            · split
              · exact every
              · split
                · exact every
                · exact every_retry lasting every (every.found found)
  | releaseSwitch reply now =>
      simp only [Action.perform, verificationReleaseSwitch]
      split
      · exact every
      · next place record found =>
          have promoted : (promoteVerifiedImport { reply.reply with cancelled := false } now place
              record desk).1.Every property := every_promote lasting every (every.found found)
          split
          · exact every
          · split
            · exact every
            · split
              · exact every
              · split
                · exact every
                · exact every
                · split
                  · next after ended =>
                      rw [ended] at promoted
                      exact promoted
                  · next after result ended =>
                      rw [ended] at promoted
                      exact promoted
  | discard reply => exact every_discard lasting every
  | expire reply => exact every_expire lasting every
  | promoteJob reply now =>
      simp only [Action.perform, executePromoteImportJob]
      split
      · exact every
      · next place record found =>
          rw [raiseForStatus_fst]
          exact every_promote lasting every (every.found found)
  | retryJob reply =>
      simp only [Action.perform, executeRetryImportJob]
      split
      · exact every
      · next place record found =>
          rw [raiseForStatus_fst]
          exact every_retry lasting every (every.found found)
  | get lidarr =>
      simp only [Action.perform, verificationGet]
      split
      · exact every
      · next place record found => exact every_reconcile lasting every (every.found found)
  | list lidarr =>
      simp only [Action.perform, verificationList]
      split
      · exact every
      · next listed found =>
          rcases List.exists_of_findSome?_eq_some found with ⟨place, _, file⟩
          rw [Option.join_eq_some_iff] at file
          exact every_reconcile lasting every (every place listed file)
  | pollQueue lidarr =>
      simp only [Action.perform, reconcilePendingImportJobs]
      split
      · exact every
      · next place record found =>
          split
          · exact every_reconcile lasting every (every.found found)
          · exact every

/-- What lasts is kept by every operation. -/
theorem every_operation (lasting : Lasting property) (every : desk.Every property)
    (operation : Operation) : (operation.perform desk).Every property := by
  cases operation with
  | action action => exact every_action lasting every action
  | writeSidecar result archived reply => exact every_writeSidecar lasting every
  | createReview result reply => exact every_createReview lasting every
  | finalizeBackend now written => exact every_finalize lasting every

/-- What lasts holds of every record that the operations of a new download write. -/
theorem every_run (lasting : Lasting property) {start finish : Desk} {done : List Operation}
    (run : operations.Run start done finish) (every : start.Every property) :
    finish.Every property := by
  refine run.preserves (fun desk => desk.Every property) ?_ every
  intro desk operation next kept _ stepped
  cases stepped
  exact every_operation lasting kept operation

end Every

/-! ## Offered and accepted -/

/-- An operator's promote stands only on a record that it accepted. -/
theorem lasting_manualPromote :
    Lasting fun record => record.manualPromote = true → record.decision = .acceptProvisional where
  promote := by
    intro record now _ _
    rfl
  outcome := by
    intro record outcome holds
    exact holds
  lifecycle := by
    intro record lifecycle holds
    exact holds
  fresh := by
    intro result existing now manual
    contradiction

/-- After every sequence of operations on a download that starts without a sidecar, each
offered action is accepted exactly where the record is not blocked, its failed import was
promoted, its pending import accepted, and a release switch offered only where it can be
done. -/
theorem offered_accepted_iff (settings : Settings) {start finish : Desk}
    {done : List Operation} (empty : ∀ place, start.file place = none)
    (run : operations.Run start done finish) :
    finish.Accepts settings ↔ finish.MenuFits settings := by
  have every : start.Every fun record =>
      record.manualPromote = true → record.decision = .acceptProvisional := by
    intro place record stored
    rw [empty] at stored
    contradiction
  have promoted := every_run lasting_manualPromote run every
  rw [Desk.accepts_iff]
  apply forall₂_congr
  intro place record
  apply forall_congr'
  intro found
  exact Record.menuFits_iff (promoted.found found)

/-! ## A failed import and a review -/

/-- A result that was accepted, and whose import failed. -/
def failedResult : VerificationResult :=
  { heldResult with verificationDecision := .accept, importOutcome := .failed }

/-- The sidecar of the failed import. -/
def failedDesk : Desk :=
  Operation.perform (.writeSidecar failedResult false { now := 1 }) {}

/-- A discard is offered for the failed import, and answered 409. -/
theorem not_accepts_failedDesk :
    operations.Run {} [.writeSidecar failedResult false { now := 1 }] failedDesk ∧
      ¬failedDesk.Accepts { review := false, lidarrKey := true } := by
  constructor
  · exact .cons trivial rfl (.nil _)
  · intro accepted
    have refused := accepted (.folder .output) _ rfl .discard (by decide)
      { close := { now := 2 }, now := 2 } ⟨rfl, rfl⟩
    exact refused rfl

/-- The record of a new review. -/
def heldRecord : Record where
  decision := .reviewRequired
  outcome := .pending
  lifecycle :=
    { state := some .pendingReview
      createdAt := some 1
      blocklistPolicy := some .blocklistNow
      blocklistStatus := some .done }
  identity := some .sameRelease
  ts := some 1

/-- Whatever is offered for a new review is accepted, under every strategy. -/
theorem offered_accepted_review :
    Desk.Accepts (Operation.perform (.createReview heldResult { now := 1 }) {})
      { review := true, lidarrKey := true } := by
  refine (offered_accepted_iff { review := true, lidarrKey := true } (fun _ => rfl)
    (.cons trivial rfl (.nil _))).mpr ?_
  intro place record found _ _
  have here : (Operation.perform (.createReview heldResult { now := 1 })
      {}).readVerificationSidecar = some (.folder .output, heldRecord) := rfl
  cases here.symm.trans found
  constructor
  · intro _ unclear
    contradiction
  · intro waits
    contradiction
  · intro waits
    contradiction
  · intro _ blocked
    contradiction

end Mintarr.Review
