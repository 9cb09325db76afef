import Mintarr.Review.Closed

/-!
# The state index

The row of a download shows its sidecar after the operations that end in
`upsert_from_sidecar`: the writers of the pipeline, a discard, and the end of a backend
job.  Promote, retry, release switch, the settling of a pending import and the expiry
rewrite the sidecar and leave the row as it is.
-/

namespace Mintarr.Review

open Lib Policy Lane

/-! ## Operations -/

/-- All that rewrites the sidecar of a download, one after the other. -/
inductive Operation where
  | action (action : Action)
  | writeSidecar (result : VerificationResult) (archived : Bool) (reply : WriteReply)
  | createReview (result : VerificationResult) (reply : WriteReply)
  | finalizeBackend (now : Time) (written : Bool)

/-- What an operation leaves. -/
def Operation.perform : Operation → Desk → Desk
  | .action request, desk => request.perform desk
  | .writeSidecar result archived reply, desk =>
      (writeVerificationSidecar result archived reply desk).1
  | .createReview result reply, desk => (createReviewRequired result reply desk).1
  | .finalizeBackend now written, desk => finalizeImportedBackendRecord now written desk

/-- The operations of one download. -/
def operations : Machine Desk Operation where
  step desk operation := some (operation.perform desk)

/-! ## The mirror -/

/-- The row shows the current sidecar. -/
def Desk.Mirrored (desk : Desk) : Prop :=
  ∀ place record, desk.readVerificationSidecar = some (place, record) →
    ∃ row, desk.row = some row ∧ row.Shows record

/-- The places that the search looks at. -/
def Desk.searched (desk : Desk) : List Place :=
  desk.projected.toList.map Place.folder ++ Desk.archives

/-- The only sidecar of the download is the one that is found. -/
def Desk.Filed (desk : Desk) : Prop :=
  ∀ place ∈ desk.searched, (desk.file place).isSome = true →
    ∃ record, desk.readVerificationSidecar = some (place, record)

/-! ## The condition -/

/-- The import of a promote of a record that was promoted before, and ends as before. -/
def ImportReply.Repeats (reply : ImportReply) (record : Record) : Prop :=
  record.decision = .acceptProvisional ∧ record.lifecycle.state = some .promoted ∧
    record.lifecycle.actor = some .userPromote ∧ record.lifecycle.promotedAt.getD 0 ≠ 0 ∧
    ∀ outcome ∈ reply.outcome, outcome = record.outcome

/-- A promote that does not change what the row shows. -/
def ImportReply.Silent (reply : ImportReply) (record : Record) : Prop :=
  record.imported = true ∨ record.isPromotable = false ∨ reply.Repeats record

/-- File writes succeed. -/
def Operation.Succeeds : Operation → Prop
  | .action (.promote _ reply _) | .action (.promoteJob reply _)
  | .action (.retryImport _ reply) | .action (.retryJob reply) =>
      reply.begun = true ∧ reply.recorded = true
  | .action (.releaseSwitch reply _) => reply.reply.begun = true ∧ reply.reply.recorded = true
  | .action (.discard reply) | .action (.expire reply) =>
      reply.archived = true ∧ reply.unlinked = true
  | .action (.get lidarr) | .action (.list lidarr) | .action (.pollQueue lidarr) =>
      lidarr.written = true
  | .writeSidecar _ _ reply | .createReview _ reply =>
      reply.written = true ∧ reply.unlinked = true ∧ reply.rewritten = true
  | .finalizeBackend _ written => written = true

/-- An operation without a mirroring call that leaves what the row shows: a promote or a retry
that is refused or ends as the one before, an expiry that is not due, a pending import that
Lidarr does not settle. -/
def Action.Silent (action : Action) (desk : Desk) (record : Record) : Prop :=
  match action with
  | .promote queued reply _ => queued = true ∨ reply.Silent record
  | .promoteJob reply _ => reply.cancelled = true ∨ reply.Silent record
  | .releaseSwitch reply _ =>
      (reply.enabled && record.isSwitchable && reply.reply.outputExists && reply.lidarrKey &&
        reply.switched.any (0 < ·)) = false ∨ reply.reply.Silent record
  | .retryImport queued reply =>
      queued = true ∨ record.imported = true ∨ record.isRetryableVerifiedImport = false ∨
        reply.outputExists = false ∨ ∀ outcome ∈ reply.outcome, outcome = record.outcome
  | .retryJob reply =>
      reply.cancelled = true ∨ record.imported = true ∨
        record.isRetryableVerifiedImport = false ∨ reply.outputExists = false ∨
        ∀ outcome ∈ reply.outcome, outcome = record.outcome
  | .discard _ => True
  | .expire reply =>
      ∀ listed ∈ desk.verificationRecords, listed.isExpired reply.now reply.maxAge = false
  | .get lidarr | .list lidarr | .pollQueue lidarr => lidarr.outcome record = none

/-- The condition on a step. -/
def Desk.Faithful (desk : Desk) (operation : Operation) : Prop :=
  operation.Succeeds ∧
    match operation with
    | .action action =>
        ∀ place record, desk.readVerificationSidecar = some (place, record) →
          action.Silent desk record
    | .writeSidecar .. | .createReview .. | .finalizeBackend .. => True

section Step

variable {desk next : Desk} {place : Place} {record : Record}

/-- Sidecar, row and places are as they were. -/
structure Desk.Agrees (desk : Desk) : Prop where
  filed : desk.Filed
  mirrored : desk.Mirrored

/-- The searched file is found. -/
theorem Desk.read_of_only (mem : place ∈ desk.searched)
    (file : desk.file place = some (some record))
    (only : ∀ other ∈ desk.searched, (desk.file other).isSome = true → other = place) :
    desk.readVerificationSidecar = some (place, record) := by
  refine Desk.readVerificationSidecar_eq_some.mpr ⟨?_, file⟩
  have present : desk.findVerificationSidecar.isSome = true := by
    unfold Desk.findVerificationSidecar
    rw [List.find?_isSome]
    exact ⟨place, mem, by rw [file]; rfl⟩
  rcases Option.isSome_iff_exists.mp present with ⟨other, found⟩
  have searched : other ∈ desk.searched := List.mem_of_find?_eq_some found
  rw [found, only other searched (Desk.file_of_find found)]

/-- One sidecar, shown by the row, is all there is. -/
theorem Desk.agrees_of_only (mem : place ∈ desk.searched)
    (file : desk.file place = some (some record))
    (only : ∀ other ∈ desk.searched, (desk.file other).isSome = true → other = place)
    {row : Row} (stored : desk.row = some row) (same : row.Shows record) : desk.Agrees := by
  have read := Desk.read_of_only mem file only
  constructor
  · intro other searched present
    rw [only other searched present]
    exact ⟨record, read⟩
  · intro other found readOther
    rw [read] at readOther
    cases readOther
    exact ⟨row, stored, same⟩

/-- Without a sidecar there is nothing to show. -/
theorem Desk.agrees_of_none
    (absent : ∀ other ∈ desk.searched, desk.file other = none) : desk.Agrees := by
  constructor
  · intro other searched present
    rw [absent other searched] at present
    contradiction
  · intro other found readOther
    have read := Desk.readVerificationSidecar_eq_some.mp readOther
    have searched : other ∈ desk.searched := List.mem_of_find?_eq_some read.1
    rw [absent other searched] at read
    cases read.2

theorem Desk.searched_of_read (found : desk.readVerificationSidecar = some (place, record)) :
    place ∈ desk.searched :=
  List.mem_of_find?_eq_some (Desk.readVerificationSidecar_eq_some.mp found).1

theorem Desk.Filed.only (filed : desk.Filed)
    (found : desk.readVerificationSidecar = some (place, record)) :
    ∀ other ∈ desk.searched, (desk.file other).isSome = true → other = place := by
  intro other searched present
  rcases filed other searched present with ⟨content, readOther⟩
  rw [found] at readOther
  cases readOther
  rfl

theorem Desk.Filed.absent (filed : desk.Filed) (found : desk.readVerificationSidecar = none) :
    ∀ other ∈ desk.searched, desk.file other = none := by
  intro other searched
  by_contra present
  rcases filed other searched (Option.isSome_iff_ne_none.mpr present) with ⟨content, readOther⟩
  rw [found] at readOther
  contradiction

/-- The record that is found is rewritten, and the row shows the new one. -/
theorem Desk.agrees_write (filed : desk.Filed)
    (found : desk.readVerificationSidecar = some (place, record)) {content : Record} {row : Row}
    (file : next.file = Function.update desk.file place (some (some content)))
    (searched : ∀ other, other ∈ next.searched ↔ other ∈ desk.searched)
    (stored : next.row = some row) (same : row.Shows content) : next.Agrees := by
  have mem := (searched place).mpr (Desk.searched_of_read found)
  refine Desk.agrees_of_only mem ?_ ?_ stored same
  · rw [file, Function.update_self]
  · intro other mem present
    by_cases here : other = place
    · exact here
    · rw [file, Function.update_of_ne here] at present
      exact filed.only found other ((searched other).mp mem) present

/-! ## Operations without a mirroring call -/

/-- A promote of a record that was promoted before leaves its lifecycle as it was. -/
theorem lifecycle_promote_of_repeats {reply : ImportReply} {now : Time}
    (repeats : reply.Repeats record) : (record.promote now).lifecycle = record.lifecycle := by
  rcases repeats with ⟨_, state, actor, promotedAt, _⟩
  cases lifecycle : record.lifecycle
  simp only [lifecycle] at state actor promotedAt
  simp only [Record.promote, lifecycle, if_neg promotedAt, state, actor]

/-- The projection keeps the directory that it stands for. -/
theorem Desk.mem_searched_saved {other : Place} :
    other ∈ desk.saveOutputDir.searched ↔ other ∈ desk.searched := by
  unfold Desk.searched Desk.saveOutputDir Desk.outputDir
  cases desk.projected with
  | none => simp [Desk.archives]
  | some directory => rfl

theorem Desk.mem_searched_import {reply : ImportReply} {other : Place} :
    other ∈ (desk.runManualImportOnly reply).searched ↔ other ∈ desk.searched := by
  cases completed : reply.completed with
  | true =>
      have same : (desk.runManualImportOnly reply).searched = desk.saveOutputDir.searched := by
        simp [Desk.searched, Desk.runManualImportOnly, Desk.saveOutputDir, completed]
      rw [same]
      exact Desk.mem_searched_saved
  | false => simp [Desk.searched, Desk.runManualImportOnly, completed]

theorem agrees_promote (agrees : desk.Agrees)
    (found : desk.readVerificationSidecar = some (place, record)) {reply : ImportReply}
    {now : Time} (succeeds : reply.begun = true ∧ reply.recorded = true)
    (silent : reply.cancelled = true ∨ reply.Silent record) :
    (promoteVerifiedImport reply now place record desk).1.Agrees := by
  rcases agrees.mirrored place record found with ⟨row, stored, same⟩
  unfold promoteVerifiedImport
  split
  · exact agrees
  · next unimported =>
      split
      · exact agrees
      · next promotable =>
          split
          · exact agrees
          · next begins =>
              have repeats : reply.Repeats record := by
                rcases silent with cancelled | imported | refused | repeats
                · simp [cancelled] at begins
                · contradiction
                · simp [refused] at promotable
                · exact repeats
              have lifecycle : (record.promote now).lifecycle = record.lifecycle :=
                lifecycle_promote_of_repeats repeats
              have shown : row.Shows (record.promote now) :=
                same.congr repeats.1.symm rfl (by rw [lifecycle])
              have searched : ∀ other, other ∈ ((desk.write place
                  (record.promote now)).runManualImportOnly reply).searched ↔
                  other ∈ desk.searched := by
                intro other
                exact Desk.mem_searched_import
              dsimp only
              split
              · exact Desk.agrees_write agrees.filed found rfl searched stored shown
              · next outcome ended =>
                  rw [if_pos succeeds.2]
                  have again : ({ record.promote now with outcome } : Record) =
                      record.promote now := by
                    rw [repeats.2.2.2.2 outcome ended]
                    rfl
                  rw [again]
                  refine Desk.agrees_write agrees.filed found ?_ searched stored shown
                  exact Function.update_idem ..

theorem agrees_retry (agrees : desk.Agrees)
    (found : desk.readVerificationSidecar = some (place, record)) {reply : ImportReply}
    (succeeds : reply.begun = true ∧ reply.recorded = true)
    (silent : reply.cancelled = true ∨ record.imported = true ∨
      record.isRetryableVerifiedImport = false ∨ reply.outputExists = false ∨
      ∀ outcome ∈ reply.outcome, outcome = record.outcome) :
    (retryVerifiedImport reply place record desk).1.Agrees := by
  rcases agrees.mirrored place record found with ⟨row, stored, same⟩
  have file := (Desk.readVerificationSidecar_eq_some.mp found).2
  have kept : desk.file = Function.update desk.file place (some (some record)) := by
    rw [← file, Function.update_eq_self]
  have searched : ∀ other, other ∈ (desk.saveOutputDir.runManualImportOnly reply).searched ↔
      other ∈ desk.searched := by
    intro other
    exact Desk.mem_searched_import.trans Desk.mem_searched_saved
  unfold retryVerifiedImport
  split
  · exact agrees
  · split
    · exact agrees
    · split
      · exact agrees
      · split
        · exact agrees
        · next unimported retryable output uncancelled =>
            have unchanged : ∀ outcome ∈ reply.outcome, outcome = record.outcome := by
              rcases silent with cancelled | imported | refused | missing | unchanged
              · contradiction
              · contradiction
              · simp [refused] at retryable
              · simp [missing] at output
              · exact unchanged
            dsimp only
            rw [succeeds.1]
            simp only [Bool.not_true, Bool.false_eq_true, if_false]
            split
            · exact Desk.agrees_write agrees.filed found kept searched stored same
            · next outcome ended =>
                rw [if_pos succeeds.2, unchanged outcome ended]
                exact Desk.agrees_write agrees.filed found rfl searched stored same

/-! ## Operations with one -/

/-- What an archive that succeeds leaves. -/
theorem Desk.file_archive (desk : Desk) {reply : CloseReply} (old target : Place)
    (record : Record) (succeeds : reply.archived = true ∧ reply.unlinked = true) :
    (desk.archive reply old target record).2 = true ∧
      (desk.archive reply old target record).1.file target = some (some record) ∧
      (desk.archive reply old target record).1.projected = desk.projected ∧
      ∀ other, other ≠ target → (desk.archive reply old target record).1.file other =
        if other = old then none else desk.file other := by
  unfold Desk.archive
  simp only [succeeds.1, succeeds.2, Bool.not_true, Bool.false_eq_true, if_false, if_true]
  split
  · next absent =>
      refine ⟨rfl, by simp, rfl, ?_⟩
      intro other elsewhere
      simp only [Bool.or_eq_true, decide_eq_true_eq, Option.isNone_iff_eq_none] at absent
      rw [Desk.file_write, if_neg elsewhere]
      split
      · next here =>
          subst here
          rcases absent with same | none_
          · exact absurd same elsewhere
          · rw [Desk.file_write, if_neg elsewhere] at none_
            exact none_
      · rfl
  · next present =>
      simp only [Bool.or_eq_true, decide_eq_true_eq, not_or] at present
      refine ⟨rfl, ?_, rfl, ?_⟩
      · rw [Desk.file_remove, if_neg (Ne.symm present.1), Desk.file_write, if_pos rfl]
      · intro other elsewhere
        rw [Desk.file_remove, Desk.file_write, if_neg elsewhere]

theorem Desk.file_rmtree {reply : CloseReply} {other : Place}
    (present : ((desk.rmtree reply).file other).isSome = true) :
    (desk.file other).isSome = true := by
  unfold Desk.rmtree at present
  split at present
  · rw [Desk.file_remove] at present
    split at present
    · contradiction
    · exact present
  · exact present

@[simp] theorem Desk.projected_rmtree {reply : CloseReply} :
    (desk.rmtree reply).projected = desk.projected := by
  unfold Desk.rmtree
  split
  · rfl
  · rfl

theorem agrees_discard (agrees : desk.Agrees) {reply : CloseReply}
    (succeeds : reply.archived = true ∧ reply.unlinked = true) :
    (verificationDiscard reply desk).1.Agrees := by
  unfold verificationDiscard
  split
  · exact agrees
  · next place record found =>
      split
      · exact agrees
      · split
        · exact agrees
        · have archived := (desk.rmtree reply).file_archive place .discarded
            (record.discard reply.now reply.blocklisted) succeeds
          dsimp only
          split
          · next after raised =>
              rw [raised] at archived
              simp at archived
          · next after ended =>
              rw [ended] at archived
              rcases archived with ⟨_, written, projected, elsewhere⟩
              have mem : Place.discarded ∈ (after.mirror
                  (record.discard reply.now reply.blocklisted) reply.now).searched :=
                List.mem_append_right _ (by simp [Desk.archives])
              apply Desk.agrees_of_only mem written _ rfl (shows_upsertFromSidecar _ _ _)
              · intro other mem present
                by_contra different
                rw [Desk.file_mirror, elsewhere other different] at present
                split at present
                · contradiction
                · next other_ =>
                    have searched : other ∈ desk.searched := by
                      rw [Desk.searched, Desk.projected_mirror, projected,
                        Desk.projected_rmtree] at mem
                      exact mem
                    exact other_ (agrees.filed.only found other searched
                      (Desk.file_rmtree present))

/-- What a writer of the pipeline leaves, where its file writes succeed. -/
theorem Desk.writeVerificationSidecar_only (filed : desk.Filed) (result : VerificationResult)
    (archived : Bool) {reply : WriteReply}
    (succeeds : reply.written = true ∧ reply.unlinked = true) :
    ∃ written target content row,
      writeVerificationSidecar result archived reply desk = (written, some target) ∧
        target ∈ desk.searched ∧ target = (if archived then .blocked else .folder desk.outputDir) ∧
        written.projected = desk.projected ∧ written.file target = some (some content) ∧
        written.row = some row ∧ row.Shows content ∧
        ∀ other ∈ desk.searched, other ≠ target → written.file other = none := by
  unfold writeVerificationSidecar
  simp only [succeeds.1, succeeds.2, Bool.not_true, Bool.false_eq_true, if_false, Bool.and_true]
  generalize chosen : (if archived then Place.blocked else .folder desk.outputDir) = target
  have searched : target ∈ desk.searched := by
    unfold Desk.searched Desk.archives
    unfold Desk.outputDir at chosen
    cases archived with
    | true => simp [← chosen]
    | false =>
        cases projected : desk.projected with
        | none => simp [← chosen, projected]
        | some directory => simp [← chosen, projected]
  refine ⟨_, target, _, _, rfl, searched, rfl, ?_, ?_, rfl, shows_upsertFromSidecar _ _ _, ?_⟩
  · cases desk.readVerificationSidecar with
    | none => rfl
    | some existing =>
        rcases existing with ⟨old, record⟩
        dsimp only
        split
        · rfl
        · rfl
  · cases desk.readVerificationSidecar with
    | none => simp
    | some existing =>
        rcases existing with ⟨old, record⟩
        by_cases other : old = target
        · simp [other]
        · simp [other, Ne.symm other]
  · intro other mem different
    cases found : desk.readVerificationSidecar with
    | none =>
        have absent := filed.absent found other mem
        simp [different, absent]
    | some existing =>
        rcases existing with ⟨old, record⟩
        by_cases here : other = old
        · subst here
          simp [different]
        · have absent : desk.file other = none := by
            by_contra present
            exact here (filed.only found other mem (Option.isSome_iff_ne_none.mpr present))
          by_cases moved : old = target
          · simp [moved, different, absent]
          · simp [moved, here, different, absent]

theorem agrees_writeSidecar (agrees : desk.Agrees) (result : VerificationResult)
    (archived : Bool) {reply : WriteReply}
    (succeeds : reply.written = true ∧ reply.unlinked = true) :
    (writeVerificationSidecar result archived reply desk).1.Agrees := by
  rcases Desk.writeVerificationSidecar_only agrees.filed result archived succeeds with
      ⟨written, target, content, row, wrote, searched, _, projected, file, stored,
      same, absent⟩
  have places : written.searched = desk.searched := by
    unfold Desk.searched
    rw [projected]
  rw [wrote]
  refine Desk.agrees_of_only (places ▸ searched) file ?_ stored same
  intro other mem present
  by_contra different
  rw [absent other (places ▸ mem) different] at present
  contradiction

/-- The projection is pointed at `OUTPUT_BASE`: the record stays the one that is found, or
none is. -/
theorem agrees_markReviewRequired {target : Place} {content : Record} {row : Row}
    (file : desk.file target = some (some content)) (stored : desk.row = some row)
    (same : row.Shows content)
    (absent : ∀ other ∈ Desk.archives, other ≠ target → desk.file other = none) :
    desk.markReviewRequired.Agrees := by
  have places : ∀ other, other ∈ desk.markReviewRequired.searched ↔ other ∈ Desk.archives := by
    intro other
    simp [Desk.searched, Desk.markReviewRequired, Desk.archives]
  by_cases searched : target ∈ Desk.archives
  · refine Desk.agrees_of_only ((places target).mpr searched) file ?_ stored same
    intro other mem present
    by_contra different
    have gone : desk.markReviewRequired.file other = none :=
      absent other ((places other).mp mem) different
    rw [gone] at present
    contradiction
  · apply Desk.agrees_of_none
    intro other mem
    have archive := (places other).mp mem
    apply absent other archive
    intro here
    exact searched (here ▸ archive)

theorem agrees_createReview (agrees : desk.Agrees) {result : VerificationResult}
    {reply : WriteReply}
    (succeeds : reply.written = true ∧ reply.unlinked = true ∧ reply.rewritten = true) :
    (createReviewRequired result reply desk).1.Agrees := by
  have kept := agrees_writeSidecar agrees result false ⟨succeeds.1, succeeds.2.1⟩
  rcases Desk.writeVerificationSidecar_only agrees.filed result false
      ⟨succeeds.1, succeeds.2.1⟩ with ⟨written, target, content, row, wrote, searched, _,
      projected, file, stored, same, absent⟩
  rw [wrote] at kept
  have archived : ∀ other ∈ Desk.archives, other ≠ target → written.file other = none := by
    intro other mem
    exact absent other (List.mem_append_right _ mem)
  unfold createReviewRequired
  rw [wrote]
  dsimp only
  rw [file]
  dsimp only [Option.join_some]
  split
  · exact kept
  · cases rewrites : blocklistReview content reply.blocklisted with
    | none => exact agrees_markReviewRequired file stored same archived
    | some blocklisted =>
        dsimp only
        rw [if_pos succeeds.2.2]
        have rewritten : (written.write target blocklisted).file target =
            some (some blocklisted) := by
          rw [Desk.file_write, if_pos rfl]
        refine agrees_markReviewRequired rewritten stored ?_ ?_
        · unfold blocklistReview at rewrites
          split at rewrites
          · cases rewrites
            exact same.congr rfl rfl rfl
          · contradiction
        · intro other mem different
          rw [Desk.file_write, if_neg different]
          exact archived other mem different

theorem agrees_finalize (agrees : desk.Agrees) {now : Time} :
    (finalizeImportedBackendRecord now true desk).Agrees := by
  unfold finalizeImportedBackendRecord
  split
  · next place record found =>
      split
      · exact agrees
      · simp only [Bool.not_true, Bool.false_eq_true, if_false]
        apply Desk.agrees_write agrees.filed found rfl _ rfl (shows_upsertFromSidecar _ _ _)
        intro other
        exact Desk.mem_searched_saved
  · next found =>
      split
      · exact agrees
      · apply Desk.agrees_of_none
        intro other mem
        exact agrees.filed.absent found other (Desk.mem_searched_saved.mp mem)

/-! ## Steps and runs -/

/-- The list shows the record that is found. -/
theorem Desk.Filed.listed (filed : desk.Filed) {listed : Record}
    (found : desk.verificationRecords = some listed) :
    ∃ place, desk.readVerificationSidecar = some (place, listed) := by
  rcases List.exists_of_findSome?_eq_some found with ⟨place, mem, file⟩
  rw [Option.join_eq_some_iff] at file
  have searched : place ∈ desk.searched := List.mem_append_right _ mem
  rcases filed place searched (by rw [file]; rfl) with ⟨record, read⟩
  have same := (Desk.readVerificationSidecar_eq_some.mp read).2
  rw [file] at same
  cases same
  exact ⟨place, read⟩

@[simp] theorem raiseForStatus_fst (result : Desk × Option ActionResult) :
    (raiseForStatus result).1 = result.1 := by
  cases result
  rfl

theorem agrees_action (agrees : desk.Agrees) {action : Action}
    (faithful : desk.Faithful (.action action)) : (action.perform desk).Agrees := by
  rcases faithful with ⟨succeeds, silent⟩
  cases action with
  | discard reply => exact agrees_discard agrees succeeds
  | promote queued reply now =>
      simp only [Action.perform, verificationPromote]
      split
      · exact agrees
      · next place record found =>
          split
          · exact agrees
          · split
            · exact agrees
            · split
              · exact agrees
              · next unqueued =>
                  rcases silent place record found with queued | silent
                  · contradiction
                  · exact agrees_promote agrees found succeeds (Or.inr silent)
  | promoteJob reply now =>
      simp only [Action.perform, executePromoteImportJob]
      split
      · exact agrees
      · next place record found =>
          rw [raiseForStatus_fst]
          exact agrees_promote agrees found succeeds (silent place record found)
  | retryImport queued reply =>
      simp only [Action.perform, verificationRetryImport]
      split
      · exact agrees
      · next place record found =>
          split
          · exact agrees
          · split
            · exact agrees
            · split
              · exact agrees
              · split
                · exact agrees
                · next unqueued =>
                    rcases silent place record found with queued | silent
                    · contradiction
                    · exact agrees_retry agrees found succeeds (Or.inr silent)
  | retryJob reply =>
      simp only [Action.perform, executeRetryImportJob]
      split
      · exact agrees
      · next place record found =>
          rw [raiseForStatus_fst]
          exact agrees_retry agrees found succeeds (silent place record found)
  | releaseSwitch reply now =>
      simp only [Action.perform, verificationReleaseSwitch]
      split
      · exact agrees
      · next place record found =>
          split
          · exact agrees
          · next allowed =>
              split
              · exact agrees
              · next output =>
                  split
                  · exact agrees
                  · next key =>
                      split
                      · exact agrees
                      · exact agrees
                      · next count switched =>
                          have unheard : reply.reply.Silent record := by
                            rcases silent place record found with stopped | unheard
                            · simp_all
                            · exact unheard
                          have kept : (promoteVerifiedImport
                              { reply.reply with cancelled := false } now place record
                              desk).1.Agrees :=
                            agrees_promote agrees found succeeds (Or.inr unheard)
                          split
                          · next after raised =>
                              rw [raised] at kept
                              exact kept
                          · next after result ended =>
                              rw [ended] at kept
                              exact kept
  | expire reply =>
      simp only [Action.perform, expireReviewRequiredJobs]
      split
      · exact agrees
      · next listed foundListed =>
          rcases agrees.filed.listed foundListed with ⟨place, found⟩
          rw [silent place listed found listed foundListed]
          exact agrees
  | get lidarr =>
      simp only [Action.perform, verificationGet]
      split
      · exact agrees
      · next place record found =>
          rw [reconcile_kept (silent place record found)]
          exact agrees
  | list lidarr =>
      simp only [Action.perform, verificationList]
      split
      · exact agrees
      · next listed foundListed =>
          rcases agrees.filed.listed foundListed with ⟨place, found⟩
          rw [reconcile_kept (silent place listed found)]
          exact agrees
  | pollQueue lidarr =>
      simp only [Action.perform, reconcilePendingImportJobs]
      split
      · exact agrees
      · next place record found =>
          split
          · rw [reconcile_kept (silent place record found)]
            exact agrees
          · exact agrees

/-- A step that meets the condition keeps the row and the sidecar in agreement. -/
theorem agrees_step (agrees : desk.Agrees) {operation : Operation}
    (faithful : desk.Faithful operation) : (operation.perform desk).Agrees := by
  cases operation with
  | action action => exact agrees_action agrees faithful
  | writeSidecar result archived reply =>
      exact agrees_writeSidecar agrees _ _ ⟨faithful.1.1, faithful.1.2.1⟩
  | createReview result reply => exact agrees_createReview agrees faithful.1
  | finalizeBackend now written =>
      have succeeds : written = true := faithful.1
      subst succeeds
      exact agrees_finalize agrees

end Step

/-- What a row that shows a record says. -/
theorem Row.Shows.columns {row : Row} {record : Record} (same : row.Shows record) :
    row.decision = record.decision ∧ row.importOutcome = record.outcome ∧
      row.derivedStatus = deriveStatus record ∧
      row.lifecycleState = record.lifecycle.state ∧ row.actor = record.lifecycle.actor := by
  have shown := same 0
  rw [← shown]
  exact ⟨rfl, rfl, rfl, rfl, rfl⟩

/-- After every sequence of operations in which none without a mirroring call changes what the
row shows, the row is the one that an upsert of the current sidecar leaves. -/
theorem row_mirrors_sidecar {start finish : Desk} {done : List Operation}
    (agrees : start.Agrees) (run : operations.RunWhere Desk.Faithful start done finish) :
    finish.Agrees ∧ ∀ place record, finish.readVerificationSidecar = some (place, record) →
      ∃ row, finish.row = some row ∧
        (∀ now, upsertFromSidecar record now (some row) = row) ∧
        row.derivedStatus = deriveStatus record := by
  have kept : finish.Agrees := by
    induction run with
    | nil desk => exact agrees
    | cons faithful stepped _ ih =>
        cases stepped
        exact ih (agrees_step agrees faithful)
  refine ⟨kept, ?_⟩
  intro place record found
  rcases kept.mirrored place record found with ⟨row, stored, same⟩
  exact ⟨row, stored, same, same.columns.2.2.1⟩

/-! ## A promote that the dashboard does not see -/

/-- A desk without anything. -/
theorem agrees_empty : ({} : Desk).Agrees := by
  apply Desk.agrees_of_none
  intro other _
  rfl

/-- The review is promoted and imported, and its row still asks for the operator. -/
theorem row_lags_promote :
    ∃ finish place record row,
      operations.Run {}
        [.createReview heldResult { now := 1 }, .action (.promote false {} 2)] finish ∧
        finish.readVerificationSidecar = some (place, record) ∧ finish.row = some row ∧
        record.outcome = .manualImported ∧ deriveStatus record = .promoted ∧
        row.importOutcome = .pending ∧ row.derivedStatus = .needsReview := by
  refine ⟨_, _, _, _, .cons trivial rfl (.cons trivial rfl (.nil _)), rfl, rfl, ?_⟩
  decide

/-- A review that is created, looked at and discarded is mirrored. -/
theorem row_mirrors_discard :
    ∃ finish, operations.RunWhere Desk.Faithful {}
        [.createReview heldResult { now := 1 }, .action (.get {}),
          .action (.discard { now := 2 })] finish ∧
      finish.Mirrored := by
  have run : operations.RunWhere Desk.Faithful {}
      [.createReview heldResult { now := 1 }, .action (.get {}),
        .action (.discard { now := 2 })]
      (Operation.perform (.action (.discard { now := 2 }))
        (Operation.perform (.createReview heldResult { now := 1 }) {})) := by
    refine .cons ⟨⟨rfl, rfl, rfl⟩, trivial⟩ rfl (.cons ⟨rfl, ?_⟩ rfl
      (.cons ⟨⟨rfl, rfl⟩, ?_⟩ rfl (.nil _)))
    · intro place record found
      cases found
      rfl
    · intro place record found
      trivial
  exact ⟨_, run, (row_mirrors_sidecar agrees_empty run).1.mirrored⟩

end Mintarr.Review
