import Mintarr.Lane.Cancels
import Mintarr.Lane.Footprints
import Mintarr.Lib.Collect

/-!
# The album of a job

A job may be made for an album that Mintarr knows.  `_manualimport_target_guard_failure` holds
the first ManualImport to that album.  The fallback on the job title, promote, retry and the
release switch do without it: there it is up to what Lidarr answers.
-/

namespace Mintarr.Lane

open Lib Policy Import

variable {α β : Type}

/-- The album that a payload names. -/
def expectedAlbumId : Queue.Scalar → Option Int
  | .null => none
  | .int albumId => some albumId
  | .str text => if text = "" then none else Queue.parseInt text

/-- The target is asked for. -/
def infersTarget (request : ImportRequest) : Bool :=
  request.soulseek && (request.targetAlbumId = .null || request.targetAlbumId = .str "")

/-- What can change the library. -/
inductive Importer where
  | queued (job : ImportJob)
  /-- Promote at once, where the queue is not there. -/
  | promoteNow (place : SidecarPlace) (record : SidecarRecord)
  | retryNow (place : SidecarPlace) (record : SidecarRecord)
  | releaseSwitch (enabled : Bool)

/-- The program. -/
def Importer.program : Importer → Work Unit
  | .queued job => do let _ ← job.executor
  | .promoteNow place record => do let _ ← promoteVerifiedImport false .endpoint place record
  | .retryNow place record => do let _ ← retryVerifiedImport false .endpoint place record
  | .releaseSwitch enabled => do let _ ← verificationReleaseSwitch enabled

/-- The album that is known, and where files went. -/
structure Aim where
  /-- The album that the payload or Lidarr has named. -/
  target : Option Int
  /-- The other albums that files were submitted to ManualImport for, or copied for. -/
  astray : List Int := []
  deriving DecidableEq, Repr

namespace Aim

/-- A file of the album is one of the target. -/
def hits (aim : Aim) (albumId : Int) : Bool := aim.target.all (· = albumId)

/-- Files of some albums are submitted. -/
def submit (aim : Aim) (albumIds : List Int) : Aim :=
  { aim with astray := aim.astray ++ albumIds.filter fun albumId => !aim.hits albumId }

/-- What a call and its answer add. -/
def see (aim : Aim) : (op : Op) → op.Answer → Aim
  | .inferTarget, found => { aim with target := found <|> aim.target }
  | .postManualImport files, _ => aim.submit (files.map (·.albumId))
  | .copyToLibrary file, _ => aim.submit [file.albumId]
  | _, _ => aim

/-- The imports, call by call. -/
def surroundings : Surroundings Call (fun call => call.op.Answer) Aim where
  answers before call answer after := after = before.see call.op answer

/-- What is known of the target before an import. A Soulseek import without one may have found
it in an earlier attempt. -/
def KnowsRequest (aim : Aim) (request : ImportRequest) : Prop :=
  match expectedAlbumId request.targetAlbumId with
  | some albumId => aim.target = some albumId
  | none => infersTarget request = true ∨ aim.target = none

/-- What is known of the target before a job. -/
def Knows (aim : Aim) : Importer → Prop
  | .queued (.sourceGrab grab) => aim.KnowsRequest grab.request
  | .queued (.backendCompletedGrab grab) => aim.KnowsRequest grab.request
  | _ => True

/-! ## What Lidarr has to answer -/

/-- The albums of the files that candidates give. -/
def filesFit (fits : Int → Bool) (items : List ManualImportItem) : Bool :=
  match manualImportFilesFromItems items with
  | .ok files => files.all fun file => fits file.albumId
  | .error _ => true

/-- A target that is known is inferred again, the album that the job title finds is the target,
and so are the albums of the candidates that no guard looks at. -/
def answered (aim : Aim) : (call : Call) → call.op.Answer → Bool
  | ⟨handler, op⟩, answer =>
      match op, answer with
      | .inferTarget, found => aim.target.all fun albumId => found = some albumId
      | .artistAlbums _, .ok albums =>
          (albums.find? (·.titled)).all fun album => aim.hits album.albumId
      | .getManualImport, .ok (status, .ok items) =>
          status ≠ 200 || filesFit (fun albumId => aim.hits albumId ||
            (handler = .importToLidarr && albumId ≠ 0)) items
      | _, _ => true

/-- The runs with such answers. -/
abbrev aimed : Surroundings Call (fun call => call.op.Answer) Aim :=
  surroundings.restrict fun before call answer _ => before.answered call answer = true

/-! ## What holds of an aim -/

/-- No file went to another album. -/
def Clear (aim : Aim) : Prop := aim.astray = []

/-- Neither did one, and the target is the one that is expected. -/
def Aims (expected : Option Int) (aim : Aim) : Prop := aim.target = expected ∧ aim.Clear

/-- Every file is one of the target. -/
def Safe (expected : Option Int) (files : List ImportFile) : Prop :=
  ∀ file ∈ files, expected.all (· = file.albumId) = true

variable {aim : Aim} {expected : Option Int} {files : List ImportFile} {handler : Handler}
  {fail : Raised → Aim → Prop} {request : ImportRequest} {result : VerificationResult}

theorem Aims.clear (aims : aim.Aims expected) : aim.Clear := aims.2

/-- The call neither submits a file nor asks for the target. -/
def steady : Op → Bool
  | .inferTarget | .postManualImport _ | .copyToLibrary _ => false
  | _ => true

theorem see_of_steady {op : Op} {answer : op.Answer} (keeps : steady op = true) :
    aim.see op answer = aim := by
  cases op with
  | inferTarget => contradiction
  | postManualImport files => contradiction
  | copyToLibrary file => contradiction
  | _ => rfl

theorem clear_see {op : Op} {answer : op.Answer} (unmutating : op.mutates = false)
    (clear : aim.Clear) : (aim.see op answer).Clear := by
  cases op with
  | postManualImport files => contradiction
  | copyToLibrary file => contradiction
  | _ => exact clear

/-- Files of the target add nothing. -/
theorem submit_of_safe (aims : aim.Aims expected) (safe : Safe expected files) :
    aim.submit (files.map (·.albumId)) = aim := by
  have none_ : (files.map (·.albumId)).filter (fun albumId => !aim.hits albumId) = [] := by
    rw [List.filter_eq_nil_iff]
    intro albumId listed
    obtain ⟨file, member, rfl⟩ := List.mem_map.mp listed
    rw [hits, aims.1, safe file member]
    simp
  rw [submit, none_, List.append_nil]

/-! ## Programs that submit nothing -/

/-- Where every call is steady, all stays as it is. -/
theorem triple_steady {invariant : Aim → Prop} {raises : Raised → Prop} {program : Work α}
    (within : program.Within (fun call => steady call.op = true) raises) :
    aimed.Triple invariant program (fun _ => invariant) fun _ => invariant := by
  refine (Surroundings.Triple.of_within within ?_).imp (fun _ => id) (fun _ _ => id)
    fun _ _ => And.right
  intro before call answer after keeps holds step
  rw [step.1, see_of_steady keeps]
  exact holds

theorem steady_of_prepares {op : Op} (prepares : op.prepares = true) : steady op = true := by
  cases op with
  | inferTarget => simp [Op.prepares] at prepares
  | postManualImport files => simp [Op.prepares] at prepares
  | copyToLibrary file => simp [Op.prepares] at prepares
  | _ => rfl

theorem triple_prepares {invariant : Aim → Prop} {program : Work α}
    (prepares : program.Prepares) :
    aimed.Triple invariant program (fun _ => invariant) fun _ => invariant :=
  triple_steady (prepares.imp (fun _ => steady_of_prepares) fun _ => id)

theorem triple_ask {invariant : Aim → Prop} {op : Op} (keeps : steady op = true) :
    aimed.Triple invariant (ask handler op) (fun _ => invariant) fail := by
  apply Surroundings.Triple.ask
  intro before answer after holds step
  rw [step.1, see_of_steady keeps]
  exact holds

theorem triple_raising {invariant : Aim → Prop} {answer : Except String α} :
    aimed.Triple invariant (raising answer) (fun _ => invariant) fun _ => invariant := by
  cases answer with
  | ok value => exact .pure fun _ => id
  | error text => exact .throw fun _ => id

/-- A program that keeps books submits nothing. -/
theorem triple_plain {program : Work α} (plain : program.Plain) :
    aimed.Triple Clear program (fun _ => Clear) fun _ => Clear := by
  refine (Surroundings.Triple.of_within plain ?_).imp (fun _ => id) (fun _ _ => id)
    fun _ _ => And.right
  intro before call answer after keeps clear step
  rw [step.1]
  apply clear_see _ clear
  cases op : call.op with
  | postManualImport files => simp [op, Op.plain, Op.processes] at keeps
  | copyToLibrary file => simp [op, Op.plain, Op.processes] at keeps
  | _ => rfl

/-! ## The guard -/

/-- A file comes from a candidate that names its album. -/
theorem exists_of_mem_files {items : List ManualImportItem} {file : ImportFile}
    (read : manualImportFilesFromItems items = .ok files) (member : file ∈ files) :
    ∃ item ∈ items, ∃ album, item.album = some album ∧ album.id = some file.albumId := by
  rw [manualImportFilesFromItems] at read
  cases mapped : items.mapM importFile with
  | error text =>
      rw [mapped] at read
      contradiction
  | ok found =>
      rw [mapped] at read
      cases read
      obtain ⟨one, among, rfl⟩ := List.mem_filterMap.mp member
      obtain ⟨item, listed, given⟩ := exists_of_mem_mapM_ok mapped among
      refine ⟨item, listed, ?_⟩
      rw [importFile] at given
      split at given
      · cases given
      · split at given
        · next artistId album _ named =>
            split at given
            · cases given
            · split at given
              · cases given
              · split at given
                · cases given
                · next albumId identified =>
                    cases given
                    exact ⟨album, named, identified⟩
        · cases given

/-- What the guard lets through are files of the target, but for files of album 0. -/
theorem safe_of_guard {target : Queue.Scalar} {items : List ManualImportItem}
    (read : manualImportFilesFromItems items = .ok files)
    (passed : targetMismatch target items = none)
    (fits : ∀ file ∈ files, (expectedAlbumId target).all (· = file.albumId) = true ∨
      file.albumId ≠ 0) : Safe (expectedAlbumId target) files := by
  intro file member
  cases fits file member with
  | inl same => exact same
  | inr nonzero =>
      obtain ⟨item, listed, album, named, albumId⟩ := exists_of_mem_files read member
      have among : file.albumId ∈ albumIdsFromManualimport items := by
        rw [albumIdsFromManualimport, (List.perm_insertionSort _ _).mem_iff, List.mem_dedup,
          List.mem_filterMap]
        refine ⟨item, listed, ?_⟩
        simp [named, albumId, nonzero]
      cases expected : expectedAlbumId target with
      | none => rfl
      | some albumId =>
          have mismatch : targetMismatch target items =
              (expectedAlbumId target).bind fun expected =>
                let mismatched := (albumIdsFromManualimport items).filter (· ≠ expected)
                if mismatched.isEmpty then none
                else some ("manualimport target album mismatch: expected Lidarr albumId " ++
                  toString expected ++ ", got " ++ toString mismatched) := by
            cases target <;> rfl
          rw [mismatch, expected] at passed
          have same : ∀ other ∈ albumIdsFromManualimport items, other = albumId := by
            simpa using passed
          simp [same file.albumId among]

/-! ## The rescue -/

/-- A call of a rescue: none that submits another file. -/
def copies (files : List ImportFile) (call : Call) : Prop :=
  steady call.op = true ∨ ∃ file ∈ files, call.op = .copyToLibrary file

theorem within_raising {allowed : Call → Prop} (answer : Except String α) :
    (raising answer).Within allowed fun _ => True := by
  cases answer with
  | ok value => exact .pure value
  | error text => exact .throw trivial

theorem within_rescueFile {file : ImportFile} (moved : Nat) (member : file ∈ files) :
    (rescueFile handler moved file).Within (copies files) fun _ => True := by
  refine .bind (.ask (.inl rfl)) fun answer => .bind (within_raising answer) fun found => ?_
  cases found with
  | false => exact .pure _
  | true =>
      refine .bind (.ask (.inr ⟨file, member, rfl⟩)) fun copied => ?_
      cases copied with
      | true => exact .pure _
      | false => exact .pure _

theorem within_placeAndRescan (files : List ImportFile) :
    (placeAndRescan handler files).Within (copies files) fun _ => True := by
  refine .bind (.ask (.inl rfl)) fun enabled => ?_
  split
  · exact .pure _
  · cases files with
    | nil => exact .pure _
    | cons first others =>
        refine .bind (.ask (.inl rfl)) fun album => .bind (within_raising album) fun _ =>
          .bind (.ask (.inl rfl)) fun artist => .bind (within_raising artist) fun _ =>
            .bind (.ask (.inl rfl)) fun contained => ?_
        split
        · exact .pure _
        · refine .bind (.bind (.ask (.inl rfl)) fun made => within_raising made) fun _ =>
            .bind (.foldlM_of_mem fun moved file => within_rescueFile moved) fun moved => ?_
          split
          · exact .pure _
          · refine .bind (.ask (.inl rfl)) fun refreshed => .bind (within_raising refreshed)
              fun _ => .bind (.ask (.inl rfl)) fun counted => .bind (within_raising counted)
                fun registered => ?_
            split
            · exact .bind (.ask (.inl rfl)) fun _ => .bind (.ask (.inl rfl)) fun hidden =>
                .bind (within_raising hidden) fun _ => .pure _
            · exact .bind (.ask (.inl rfl)) fun _ => .pure _

/-- Files of the target may be rescued. -/
theorem triple_rescuePlaceAndRescan {tracked : Bool} (safe : Safe expected files) :
    aimed.Triple (Aims expected) (rescuePlaceAndRescan tracked handler files)
      (fun _ => Aims expected) fun _ => Aims expected := by
  refine (triple_prepares (prepares_raiseIfJobCancelled tracked)).bind fun _ => ?_
  refine (Surroundings.Triple.of_within (within_placeAndRescan files) ?_).imp (fun _ => id)
    (fun _ _ => id) fun _ _ => And.right
  intro before call answer after copying aims step
  rw [step.1]
  obtain keeps | ⟨file, member, op⟩ := copying
  · rw [see_of_steady keeps]
    exact aims
  · have single : Safe expected [file] := by
      intro other listed
      rw [List.mem_singleton.mp listed]
      exact safe file member
    have same : before.see call.op answer = before.submit [file.albumId] := by
      cases call with
      | mk handler other =>
          cases op
          rfl
    have unchanged := submit_of_safe aims single
    rw [List.map_singleton] at unchanged
    rw [same, unchanged]
    exact aims

/-! ## The import -/

/-- A call, and what its answer is held to. -/
theorem triple_ask_answered {op : Op} (keeps : steady op = true) :
    aimed.Triple (Aims expected) (ask handler op)
      (fun answer aim => aim.Aims expected ∧
        Aim.answered ⟨expected, []⟩ ⟨handler, op⟩ answer = true) fail := by
  apply Surroundings.Triple.ask
  intro before answer after aims step
  have same : before = ⟨expected, []⟩ := by
    cases before
    cases aims.1
    cases aims.2
    rfl
  rw [step.1, see_of_steady keeps]
  exact ⟨aims, same ▸ step.2⟩

/-- What is known before a program is known in it. -/
theorem triple_known {invariant : Aim → Prop} {known : Prop} {program : Work α}
    {post : α → Aim → Prop}
    (triple : known → aimed.Triple invariant program post fail) :
    aimed.Triple (fun aim => invariant aim ∧ known) program post fail :=
  fun aim holds => triple holds.2 aim holds.1

theorem triple_clear {program : Work α} (plain : program.Plain) :
    aimed.Triple (Aims expected) program (fun _ => Clear) fun _ => Clear :=
  (triple_plain plain).imp (fun _ => And.right) (fun _ _ => id) fun _ _ => id

/-- A step that stays on the aim. -/
theorem triple_onward {program : Work α} {post : α → Aim → Prop}
    (triple : aimed.Triple (Aims expected) program post fun _ => Aims expected) :
    aimed.Triple (Aims expected) program post fun _ => Clear :=
  triple.imp (fun _ => id) (fun _ _ => id) fun _ _ => And.right

/-- An exception that an answer holds is raised, or the answer is the value. -/
theorem triple_raise {answer : Except String α} :
    aimed.Triple (Aims expected) (raising answer)
      (fun value aim => aim.Aims expected ∧ answer = .ok value) fun _ => Clear := by
  cases answer with
  | ok value => exact .pure fun _ aims => ⟨aims, rfl⟩
  | error text => exact .throw fun _ => And.right

theorem triple_titleRescue (audits : List Int) :
    aimed.Triple (Aims expected) (titleRescue request result audits)
      (fun _ => Clear) fun _ => Clear := by
  refine (triple_ask rfl).bind fun searched => (triple_onward triple_raising).bind
    fun artists => ?_
  split
  · exact .pure fun _ => And.right
  · refine (triple_ask_answered rfl).bind fun found => triple_known fun answered =>
      triple_raise.bind fun albums => triple_known fun same => ?_
    rw [same] at answered
    split
    · exact .pure fun _ => And.right
    · next album titled =>
        refine (triple_ask rfl).bind fun listed => (triple_onward triple_raising).bind
          fun paths => ?_
        dsimp only
        split
        · exact .pure fun _ => And.right
        · have hit : expected.all (· = album.albumId) = true := by
            simp only [Aim.answered, titled, Option.all_some, hits] at answered
            exact answered
          have safe : ∀ artistId, Safe expected (paths.map fun path =>
              { path, artistId, albumId := album.albumId }) := by
            intro artistId file member
            obtain ⟨path, _, rfl⟩ := List.mem_map.mp member
            exact hit
          refine (triple_onward (triple_rescuePlaceAndRescan (safe _))).bind fun rescued =>
            (triple_clear (plain_recordJobTiming _)).bind fun _ => ?_
          cases rescued with
          | true => exact .pure fun _ => id
          | false =>
              exact (triple_plain (plain_closeFailed _ _)).bind fun _ => .pure fun _ => id

theorem triple_zeroCandidates (audits : List Int) :
    aimed.Triple (Aims expected) (zeroCandidates request result audits)
      (fun _ => Clear) fun _ => Clear := by
  have caught : aimed.Triple (Aims expected)
      (tryCatch (titleRescue request result audits) fun _ => pure false)
      (fun _ => Clear) fun _ => Clear :=
    (triple_titleRescue audits).tryCatch fun _ => .pure fun _ => id
  refine caught.bind fun ended => ?_
  cases ended with
  | true => exact .pure fun _ => id
  | false => exact triple_plain (plain_failImport _ _)

theorem triple_rescueAfterManualImport (audits : List Int) (safe : Safe expected files) :
    aimed.Triple (Aims expected) (rescueAfterManualImport request result audits files)
      (fun _ => Clear) fun _ => Clear := by
  have rescued : aimed.Triple (Aims expected)
      (do
        if ← rescuePlaceAndRescan true .rescue files then
          completeImport .rescue request result .rescued
        else
          failImport .rescue request result audits "manualimport and rescue failed")
      (fun _ => Clear) fun _ => Clear := by
    refine (triple_onward (triple_rescuePlaceAndRescan safe)).bind fun rescued => ?_
    cases rescued with
    | true => exact triple_clear (plain_completeImport _)
    | false => exact triple_clear (plain_failImport _ _)
  exact rescued.tryCatch fun _ => triple_plain (plain_failImport _ _)

/-- Files of the target are posted. -/
theorem triple_post (safe : Safe expected files) :
    aimed.Triple (Aims expected) (ask handler (.postManualImport files))
      (fun _ => Aims expected) fail := by
  apply Surroundings.Triple.ask
  intro before answer after aims step
  have same : before.see (.postManualImport files) answer =
      before.submit (files.map (·.albumId)) := rfl
  rw [step.1, same, submit_of_safe aims safe]
  exact aims

theorem triple_postManualImport (audits : List Int) (safe : Safe expected files) :
    aimed.Triple (Aims expected) (postManualImport request result audits files)
      (fun _ => Clear) fun _ => Clear := by
  refine (triple_ask rfl).bind fun _ =>
    (triple_onward (triple_prepares (prepares_raiseIfJobCancelled true))).bind fun _ =>
      (triple_post safe).bind fun posted => (triple_onward triple_raising).bind fun _ =>
        (triple_onward (triple_prepares (prepares_setWorkerProgress _))).bind fun _ =>
          (triple_ask rfl).bind fun counted => (triple_onward triple_raising).bind
            fun imported => ?_
  split
  · exact triple_clear (plain_completeImport _)
  · refine (triple_ask rfl).bind fun asked => (triple_onward triple_raising).bind
      fun pending => ?_
    cases pending with
    | true => exact triple_clear (plain_leavePending audits)
    | false => exact triple_rescueAfterManualImport audits safe

/-- Where the guard gives no reason, no candidate names another album. -/
theorem triple_guard (target : Queue.Scalar) (items : List ManualImportItem) :
    aimed.Triple (Aims expected) (manualimportTargetGuardFailure request target items)
      (fun reason aim => aim.Aims expected ∧
        (reason = none → targetMismatch target items = none)) fun _ => Clear := by
  cases mismatch : targetMismatch target items with
  | some reason =>
      rw [manualimportTargetGuardFailure, mismatch]
      exact .pure fun _ aims => ⟨aims, fun impossible => by contradiction⟩
  | none =>
      rw [manualimportTargetGuardFailure, mismatch]
      dsimp only
      split
      · exact (triple_ask rfl).imp (fun _ => id) (fun _ _ aims => ⟨aims, fun _ => rfl⟩)
          fun _ _ => id
      · exact .pure fun _ aims => ⟨aims, fun _ => rfl⟩

theorem triple_importCandidates {target : Queue.Scalar} (audits : List Int)
    {items : List ManualImportItem}
    (fits : filesFit (fun albumId => (expectedAlbumId target).all (· = albumId) ||
      decide (albumId ≠ 0)) items = true) :
    aimed.Triple (Aims (expectedAlbumId target))
      (importCandidates request target result audits items) (fun _ => Clear) fun _ => Clear := by
  refine (triple_guard target items).bind fun reason => triple_known fun passed => ?_
  cases reason with
  | some reason => exact triple_clear (plain_failImport _ _)
  | none =>
      refine triple_raise.bind fun files => triple_known fun read => ?_
      split
      · exact triple_clear (plain_failImport _ _)
      · apply triple_postManualImport audits
        apply safe_of_guard read (passed rfl)
        rw [filesFit, read] at fits
        simpa using fits

theorem triple_manualImport (target : Queue.Scalar) (audits : List Int) :
    aimed.Triple (Aims (expectedAlbumId target)) (manualImport request target result audits)
      (fun _ => Clear) fun _ => Clear := by
  refine (triple_onward (triple_prepares (prepares_setWorkerProgress _))).bind fun _ =>
    (triple_ask_answered rfl).bind fun found => triple_known fun answered =>
      triple_raise.bind fun reply => triple_known fun same => ?_
  rw [same] at answered
  dsimp only
  split
  · exact triple_clear (plain_failImport _ _)
  · next okay =>
      refine triple_raise.bind fun items => triple_known fun listed => ?_
      split
      · exact triple_zeroCandidates audits
      · apply triple_importCandidates audits
        cases reply with
        | mk status body =>
            have success : status = 200 := not_not.mp okay
            cases listed
            simpa [Aim.answered, success, Aim.hits] using answered

theorem triple_switchAndImport (target : Queue.Scalar) (items : List ManualImportItem) :
    aimed.Triple (Aims (expectedAlbumId target)) (switchAndImport request target items result)
      (fun _ => Clear) fun _ => Clear := by
  have switches : (maybeAutoReleaseSwitch request items result).Within
      (fun call => steady call.op = true) fun _ => False := by
    apply (within_maybeAutoReleaseSwitch items).imp _ fun _ => id
    intro call switching
    cases op : call.op with
    | inferTarget => simp [op, Op.switching] at switching
    | postManualImport files => simp [op, Op.switching] at switching
    | copyToLibrary file => simp [op, Op.switching] at switching
    | _ => rfl
  refine (triple_onward (triple_steady switches)).bind fun audits => ?_
  split
  · exact (triple_ask rfl).bind fun _ => (triple_onward triple_raising).bind fun _ =>
      triple_manualImport target audits
  · exact triple_manualImport target audits

theorem steady_performEvent {event : Event} (passing : passes event = true) :
    (performEvent result event).Within (fun call => steady call.op = true) fun _ => True := by
  cases event with
  | decisionLogged record => exact .ask rfl
  | warned warning => exact (prepares_saveJobs _).imp (fun _ => steady_of_prepares) fun _ => id
  | _ => simp [passes] at passing

/-- A candidate that the gates let through is still aimed at the target. -/
theorem triple_passGates (context : ImportContext) :
    aimed.Triple (Aims expected) (passGates context)
      (fun passed aim => passed.elim aim.Clear fun _ => aim.Aims expected) fun _ => Clear := by
  cases gates : context.gates with
  | raised =>
      rw [passGates, gates]
      exact (triple_ask rfl).bind fun text => .throw fun _ => And.right
  | stopped events result =>
      rw [passGates, gates]
      dsimp only
      split
      · exact (triple_clear (.forM plain_performEvent)).bind fun _ => .pure fun _ => id
      · exact (triple_ask rfl).bind fun _ =>
          (triple_clear plain_createReviewRequired).bind fun _ => .pure fun _ => id
  | proceeds events result =>
      rw [passGates, gates]
      have steps : Program.Within (fun call : Call => steady call.op = true) (fun _ => True)
          (events.forM (performEvent result)) :=
        .forM_of_mem fun event member => steady_performEvent (passes_of_gates gates event member)
      exact (triple_onward (triple_steady steps)).bind fun _ => .pure fun _ => id

/-- The target that Lidarr names is the one that is known, if one is. -/
theorem triple_inferTarget :
    aimed.Triple Clear (ask .importToLidarr .inferTarget) (fun found => Aims found) fail := by
  apply Surroundings.Triple.ask
  intro before found after clear step
  rw [step.1]
  refine ⟨?_, clear⟩
  have again : before.target.all (fun albumId => decide (found = some albumId)) = true := step.2
  cases found with
  | some albumId => rfl
  | none =>
      cases known : before.target with
      | none => exact known
      | some albumId =>
          rw [known] at again
          simp at again

/-- The target of the import is the one that is known, or is found. -/
theorem triple_resolveTarget :
    aimed.Triple (fun aim => aim.KnowsRequest request ∧ aim.Clear) (resolveTarget request)
      (fun target => Aims (expectedAlbumId target)) fun _ => Clear := by
  rw [resolveTarget]
  split
  · have asked : aimed.Triple (fun aim => aim.KnowsRequest request ∧ aim.Clear)
        (ask .importToLidarr .inferTarget) (fun found => Aims found) fun _ => Clear :=
      triple_inferTarget.imp (fun _ => And.right) (fun _ _ => id) fun _ _ => id
    refine asked.bind fun found => ?_
    cases found with
    | none => exact .pure fun _ => id
    | some albumId =>
        exact (triple_onward (triple_prepares (prepares_saveJobs _))).bind fun _ =>
          .pure fun _ => id
  · next given =>
      apply Surroundings.Triple.pure
      intro aim both
      refine ⟨?_, both.2⟩
      have knows := both.1
      rw [KnowsRequest] at knows
      cases expected : expectedAlbumId request.targetAlbumId with
      | some albumId =>
          rw [expected] at knows
          exact knows
      | none =>
          rw [expected] at knows
          exact knows.resolve_left given

theorem triple_evaluate :
    aimed.Triple (Aims expected) (evaluate request) (fun _ => Aims expected)
      fun _ => Clear := by
  have progressed : ∀ stage, aimed.Triple (Aims expected)
      (setWorkerProgress .importToLidarr stage) (fun _ => Aims expected) fun _ => Clear :=
    fun stage => triple_onward (triple_prepares (prepares_setWorkerProgress stage))
  have timed : ∀ stage, aimed.Triple (Aims expected)
      (recordJobTiming .importToLidarr stage) (fun _ => Aims expected) fun _ => Clear :=
    fun stage => triple_onward (triple_prepares (prepares_recordJobTiming stage))
  exact (progressed _).bind fun _ => (triple_ask rfl).bind fun _ =>
    (triple_onward triple_raising).bind fun _ => (triple_ask rfl).bind fun _ =>
    (timed _).bind fun _ => (progressed _).bind fun _ => (triple_ask rfl).bind fun _ =>
      (timed _).bind fun _ => (progressed _).bind fun _ => .pure fun _ => id

/-- What is known before the import. -/
def Ready (request : ImportRequest) (aim : Aim) : Prop := aim.KnowsRequest request ∧ aim.Clear

theorem triple_ready {program : Work α} (prepares : program.Prepares) :
    aimed.Triple (Ready request) program (fun _ => Ready request) fun _ => Clear :=
  (triple_prepares prepares).imp (fun _ => id) (fun _ _ => id) fun _ _ => And.right

theorem triple_triggerLidarrImport :
    aimed.Triple (Ready request) (triggerLidarrImport request) (fun _ => Clear)
      fun _ => Clear := by
  refine (triple_ready (prepares_raiseIfJobCancelled true)).bind fun _ =>
    (triple_ask rfl).bind fun key => ?_
  cases key with
  | false => exact .pure fun _ => And.right
  | true =>
      refine triple_resolveTarget.bind fun target => triple_evaluate.bind fun context =>
        (triple_passGates context).bind fun passed => ?_
      cases passed with
      | none => exact .pure fun _ => id
      | some result => exact triple_switchAndImport target context.items

/-! ## The executors -/

theorem triple_importToLidarr :
    aimed.Triple (Ready request) (importToLidarr request) (fun _ => Clear) fun _ => Clear := by
  refine (triple_ready (prepares_raiseIfJobCancelled true)).bind fun _ =>
    Surroundings.Triple.tryCatch
      (triple_triggerLidarrImport.bind fun _ => triple_plain (plain_setWorkerProgress _)) ?_
  intro error
  cases error with
  | cancelled => exact .throw fun _ => id
  | error text => exact triple_plain (plain_markImportFailed _)

theorem triple_executeSourceGrabJob (grab : GrabRequest) :
    aimed.Triple (Ready grab.request) (executeSourceGrabJob grab) (fun _ => Clear)
      fun _ => Clear := by
  cases missing : grab.missingSource with
  | some text =>
      rw [executeSourceGrabJob, missing]
      exact .throw fun _ => And.right
  | none =>
      rw [executeSourceGrabJob, missing]
      refine (triple_ask rfl).bind fun registered => ?_
      cases registered with
      | false => exact .throw fun _ => And.right
      | true =>
          exact (triple_ready (prepares_act _)).bind fun _ =>
            (triple_ready (prepares_downloadAndPrepare _ _)).bind fun _ =>
              triple_importToLidarr.bind fun _ => triple_plain plain_sourceGrabTerminalResult

theorem triple_executeBackendCompletedGrabJob (grab : GrabRequest) :
    aimed.Triple (Ready grab.request) (executeBackendCompletedGrabJob grab) (fun _ => Clear)
      fun _ => Clear := by
  have grabbed : aimed.Triple (Ready grab.request)
      (tryCatch (executeSourceGrabJob grab) fun raised => do
        mirrorBackendIngestOutcome .failed
        throw raised)
      (fun _ => Clear) fun _ => Clear := by
    refine (triple_executeSourceGrabJob grab).tryCatch fun raised => ?_
    exact (triple_plain (plain_mirrorBackendIngestOutcome _)).bind fun _ => .throw fun _ => id
  exact grabbed.bind fun _ => (triple_plain (.ask rfl)).bind fun _ =>
    (triple_plain (plain_mirrorBackendIngestOutcome _)).bind fun _ => .pure fun _ => id

/-! ## Promote, retry and the release switch -/

theorem triple_confirmManualImport {tracked : Bool} (safe : Safe expected files) :
    aimed.Triple (Aims expected) (confirmManualImport tracked handler files) (fun _ => Clear)
      fun _ => Clear := by
  have checked : aimed.Triple (Aims expected) (raiseIfJobCancelled tracked handler)
      (fun _ => Aims expected) fun _ => Clear :=
    triple_onward (triple_prepares (prepares_raiseIfJobCancelled tracked))
  have progressed : ∀ stage, aimed.Triple (Aims expected) (setWorkerProgress handler stage)
      (fun _ => Aims expected) fun _ => Clear :=
    fun stage => triple_onward (triple_prepares (prepares_setWorkerProgress stage))
  have completed : ∀ outcome : ImportOutcome, aimed.Triple (Aims expected)
      (do
        markImportCompleted handler
        setWorkerProgress handler "done"
        pure outcome)
      (fun _ => Clear) fun _ => Clear := fun outcome =>
    (triple_clear plain_markImportCompleted).bind fun _ =>
      (triple_plain (plain_setWorkerProgress _)).bind fun _ => .pure fun _ => id
  refine checked.bind fun _ => (progressed _).bind fun _ => (triple_ask rfl).bind fun counted =>
    (triple_onward triple_raising).bind fun imported => ?_
  split
  · exact (progressed _).bind fun _ => completed _
  · refine (triple_ask rfl).bind fun asked => (triple_onward triple_raising).bind
      fun pending => ?_
    cases pending with
    | true => exact (triple_clear (plain_saveJobs _)).bind fun _ => .pure fun _ => id
    | false =>
        refine checked.bind fun _ => (progressed _).bind fun _ =>
          (triple_onward (triple_rescuePlaceAndRescan safe)).bind fun rescued => ?_
        cases rescued with
        | true => exact completed _
        | false => exact triple_clear plain_failManualImport

/-- Without a guard the files are those that Lidarr answers. -/
theorem triple_runManualImportOnly {tracked : Bool} (unguarded : handler ≠ .importToLidarr) :
    aimed.Triple (Aims expected) (runManualImportOnly tracked handler) (fun _ => Clear)
      fun _ => Clear := by
  have checked : aimed.Triple (Aims expected) (raiseIfJobCancelled tracked handler)
      (fun _ => Aims expected) fun _ => Clear :=
    triple_onward (triple_prepares (prepares_raiseIfJobCancelled tracked))
  have progressed : ∀ stage, aimed.Triple (Aims expected) (setWorkerProgress handler stage)
      (fun _ => Aims expected) fun _ => Clear :=
    fun stage => triple_onward (triple_prepares (prepares_setWorkerProgress stage))
  refine (progressed _).bind fun _ => checked.bind fun _ => (triple_ask rfl).bind fun key => ?_
  split
  · exact .pure fun _ => And.right
  · refine (triple_ask_answered rfl).bind fun found => triple_known fun answered =>
      triple_raise.bind fun reply => triple_known fun same => ?_
    rw [same] at answered
    dsimp only
    split
    · exact .pure fun _ => And.right
    · next okay =>
        refine checked.bind fun _ => triple_raise.bind fun items => triple_known fun listed =>
          triple_raise.bind fun files => triple_known fun read => ?_
        split
        · exact .pure fun _ => And.right
        · have safe : Safe expected files := by
            cases reply with
            | mk status body =>
                have success : status = 200 := not_not.mp okay
                cases listed
                have fits := answered
                simp only [Aim.answered, success, filesFit, read, Aim.hits, unguarded] at fits
                simpa [Safe] using fits
          exact checked.bind fun _ => (progressed _).bind fun _ => (triple_ask rfl).bind fun _ =>
            (triple_post safe).bind fun posted => (triple_onward triple_raising).bind fun _ =>
              triple_confirmManualImport safe

/-- The import of promote and retry, and the sidecar after it. -/
theorem triple_importAndRecord {tracked : Bool} {place : SidecarPlace}
    {record : ImportOutcome → SidecarRecord} (unguarded : handler ≠ .importToLidarr) :
    aimed.Triple (Aims expected)
      (do
        let outcome ← runManualImportOnly tracked handler
        ask handler (.setV2ImportOutcome outcome)
        raising (← ask handler (.writeSidecar place (record outcome)))
        pure ({ status := 200, outcome := some outcome } : ActionResult))
      (fun _ => Clear) fun _ => Clear :=
  (triple_runManualImportOnly unguarded).bind fun _ => (triple_ask rfl).bind fun _ =>
    (triple_ask rfl).bind fun _ => triple_raising.bind fun _ => .pure fun _ => id

theorem triple_promoteVerifiedImport {tracked : Bool} (unguarded : handler ≠ .importToLidarr)
    (place : SidecarPlace) (record : SidecarRecord) :
    aimed.Triple (Aims expected) (promoteVerifiedImport tracked handler place record)
      (fun _ => Clear) fun _ => Clear := by
  rw [promoteVerifiedImport]
  split
  · exact .pure fun _ => And.right
  · split
    · exact .pure fun _ => And.right
    · exact (triple_onward (triple_prepares (prepares_raiseIfJobCancelled tracked))).bind
        fun _ => (triple_ask rfl).bind fun _ => (triple_onward triple_raising).bind fun _ =>
          triple_importAndRecord unguarded

theorem triple_retryVerifiedImport {tracked : Bool} (unguarded : handler ≠ .importToLidarr)
    (place : SidecarPlace) (record : SidecarRecord) :
    aimed.Triple (Aims expected) (retryVerifiedImport tracked handler place record)
      (fun _ => Clear) fun _ => Clear := by
  rw [retryVerifiedImport]
  split
  · exact .pure fun _ => And.right
  · split
    · exact .pure fun _ => And.right
    · refine (triple_ask rfl).bind fun existing => ?_
      split
      · exact .pure fun _ => And.right
      · exact (triple_onward (triple_prepares (prepares_raiseIfJobCancelled tracked))).bind
          fun _ => (triple_onward (triple_prepares (prepares_saveJobs _))).bind fun _ =>
            triple_importAndRecord unguarded

theorem triple_executeVerificationAction {name jid : String}
    {action : SidecarPlace → SidecarRecord → Work ActionResult}
    (acts : ∀ place record, aimed.Triple (Aims expected) (action place record)
      (fun _ => Clear) fun _ => Clear) :
    aimed.Triple (Aims expected) (executeVerificationAction name jid action)
      (fun _ => Clear) fun _ => Clear := by
  have progressed : ∀ stage, aimed.Triple (Aims expected) (setWorkerProgress .executor stage)
      (fun _ => Aims expected) fun _ => Clear :=
    fun stage => triple_onward (triple_prepares (prepares_setWorkerProgress stage))
  rw [executeVerificationAction]
  split
  · exact .throw fun _ => And.right
  · refine (progressed _).bind fun _ => (triple_ask rfl).bind fun found => ?_
    cases found with
    | none => exact .throw fun _ => And.right
    | some found =>
        cases found with
        | mk place record =>
            refine (progressed _).bind fun _ => (acts place record).bind fun result => ?_
            split
            · exact .throw fun _ => id
            · exact triple_plain plain_verificationActionResultState

theorem steady_applyReleaseSwitchCandidate (candidate : ReleaseSwitchCandidate) :
    (applyReleaseSwitchCandidate handler candidate).Within
      (fun call => steady call.op = true) fun _ => True := by
  rw [applyReleaseSwitchCandidate]
  split
  · exact .pure _
  · exact .bind (.ask rfl) fun reply => .bind (within_raising _) fun _ => .pure _

theorem steady_operatorReleaseSwitch (albumId : Int) :
    (operatorReleaseSwitch albumId).Within (fun call => steady call.op = true)
      fun _ => True := by
  refine .tryCatch (?_ : Program.Within _ (fun _ => True) _) fun _ _ => .pure _
  refine .bind (.ask rfl) fun answer => .bind (within_raising answer) fun found => ?_
  cases found with
  | none => exact .pure _
  | some candidate =>
      exact .bind (steady_applyReleaseSwitchCandidate _) fun _ => .pure _

theorem steady_operatorReleaseSwitches (albumIds audits : List Int) :
    (operatorReleaseSwitches albumIds audits).Within (fun call => steady call.op = true)
      fun _ => True := by
  induction albumIds generalizing audits with
  | nil => exact .pure _
  | cons albumId albumIds ih =>
      refine .bind (steady_operatorReleaseSwitch albumId) fun switched => ?_
      cases switched with
      | none => exact .pure _
      | some switched => exact ih _

theorem triple_switchAndPromote (place : SidecarPlace) (record : SidecarRecord) :
    aimed.Triple (Aims expected) (switchAndPromote place record) (fun _ => Clear)
      fun _ => Clear := by
  have imported : aimed.Triple (Aims expected) (operatorImport place record) (fun _ => Clear)
      fun _ => Clear := by
    refine Surroundings.Triple.tryCatch ?_ fun _ => .pure fun _ => id
    exact (triple_promoteVerifiedImport (by decide) place record).bind fun _ => .pure fun _ => id
  refine (triple_ask rfl).bind fun albumIds =>
    (triple_onward (triple_steady (steady_operatorReleaseSwitches _ _))).bind fun switched => ?_
  dsimp only
  split
  · exact (triple_clear (plain_restoreReleaseSwitches _)).bind fun _ => .pure fun _ => id
  · split
    · exact .pure fun _ => And.right
    · refine imported.bind fun result => ?_
      cases result with
      | none =>
          exact (triple_plain (plain_restoreReleaseSwitches _)).bind fun _ => .pure fun _ => id
      | some result =>
          dsimp only
          split
          · exact (triple_plain (plain_restoreReleaseSwitches _)).bind fun _ => .pure fun _ => id
          · exact .pure fun _ => id

theorem triple_verificationReleaseSwitch (enabled : Bool) :
    aimed.Triple (Aims expected) (verificationReleaseSwitch enabled) (fun _ => Clear)
      fun _ => Clear := by
  refine (triple_ask rfl).bind fun found => ?_
  cases found with
  | none => exact .pure fun _ => And.right
  | some found =>
      dsimp only
      split
      · exact .pure fun _ => And.right
      · refine (triple_ask rfl).bind fun existing => ?_
        split
        · exact .pure fun _ => And.right
        · refine (triple_ask rfl).bind fun again => ?_
          cases again with
          | none => exact .pure fun _ => And.right
          | some again =>
              dsimp only
              split
              · exact .pure fun _ => And.right
              · refine (triple_ask rfl).bind fun key => ?_
                split
                · exact .pure fun _ => And.right
                · exact triple_switchAndPromote again.1 again.2

/-! ## Every importer -/

/-- Whatever is known of the target, a run that needs nothing of it may begin. -/
theorem triple_any {program : Work α} {pre : Aim → Prop} (clear : ∀ aim, pre aim → aim.Clear)
    (triple : ∀ expected, aimed.Triple (Aims expected) program (fun _ => Clear)
      fun _ => Clear) :
    aimed.Triple pre (do let _ ← program) (fun _ => Clear) fun _ => Clear := by
  intro aim holds
  have aims : aim.Aims aim.target := ⟨rfl, clear aim holds⟩
  exact ((triple aim.target).bind fun _ => .pure fun _ => id) aim aims

theorem triple_importer (importer : Importer) :
    aimed.Triple (fun aim => aim.Knows importer ∧ aim.Clear) importer.program
      (fun _ => Clear) fun _ => Clear := by
  cases importer with
  | queued job =>
      cases job with
      | sourceGrab grab =>
          exact (triple_executeSourceGrabJob grab).bind fun _ => .pure fun _ => id
      | backendCompletedGrab grab =>
          exact (triple_executeBackendCompletedGrabJob grab).bind fun _ => .pure fun _ => id
      | promoteImport jid =>
          exact triple_any (fun _ => And.right) fun _ =>
            triple_executeVerificationAction (triple_promoteVerifiedImport (by decide))
      | retryImport jid =>
          exact triple_any (fun _ => And.right) fun _ =>
            triple_executeVerificationAction (triple_retryVerifiedImport (by decide))
  | promoteNow place record =>
      exact triple_any (fun _ => And.right) fun _ =>
        triple_promoteVerifiedImport (by decide) place record
  | retryNow place record =>
      exact triple_any (fun _ => And.right) fun _ =>
        triple_retryVerifiedImport (by decide) place record
  | releaseSwitch enabled =>
      exact triple_any (fun _ => And.right) fun _ => triple_verificationReleaseSwitch enabled

/-- Where Lidarr answers no other album to a path without guard, no file goes to one. -/
theorem clear_of_run (importer : Importer) {start finish : Aim} {outcome : Except Raised Unit}
    (knows : start.Knows importer) (clear : start.Clear)
    (run : aimed.Run start importer.program finish outcome) : finish.Clear := by
  have ends := Surroundings.Triple.iff_run.mp (triple_importer importer) _ _ _
    ⟨knows, clear⟩ run
  cases outcome <;> exact ends

/-! ## Playing an import -/

/-- Every call is answered by `replies`. -/
def reply (replies : (call : Call) → call.op.Answer) (before : Aim) (call : Call) :
    call.op.Answer × Aim :=
  (replies call, before.see call.op (replies call))

theorem answers_reply (replies : (call : Call) → call.op.Answer) (before : Aim) (call : Call) :
    surroundings.answers before call (reply replies before call).1
      (reply replies before call).2 := rfl

/-- A grab of album 3. -/
def aimedGrab : GrabRequest :=
  { Watch.localGrab with request := { Watch.localGrab.request with targetAlbumId := .int 3 } }

/-- Lidarr matches no file, and the title of album 4 contains the one of the job. -/
def titleOfAnother : (call : Call) → call.op.Answer
  | ⟨_, .getManualImport⟩ => .ok (200, .ok [])
  | ⟨_, .artistAlbums _⟩ => .ok [⟨4, true⟩]
  | ⟨_, op⟩ => op.usual

/-- Nothing is wrong with the album that Lidarr answers. -/
theorem clear_of_run_aimedGrab :
    ∃ finish, (∃ outcome, aimed.Run ⟨some 3, []⟩
        (Importer.queued (.sourceGrab aimedGrab)).program finish outcome) ∧ finish.Clear := by
  have run : aimed.Run _ _ _ _ := Surroundings.run_restrict_play
    (answers_reply fun call => call.op.usual) (Importer.queued (.sourceGrab aimedGrab)).program
    ⟨some 3, []⟩ (by decide +kernel)
  have knows : Knows ⟨some 3, []⟩ (.queued (.sourceGrab aimedGrab)) := rfl
  have clear : Clear ⟨some 3, []⟩ := rfl
  exact ⟨_, ⟨_, run⟩, clear_of_run (.queued (.sourceGrab aimedGrab)) knows clear run⟩

/-- The files of album 3 are copied for album 4. -/
theorem not_clear_aimedGrab : ¬∀ (importer : Importer) (start finish : Aim)
    (outcome : Except Raised Unit), start.Knows importer → start.Clear →
      surroundings.Run start importer.program finish outcome → finish.Clear := by
  intro every
  have knows : Knows ⟨some 3, []⟩ (.queued (.sourceGrab aimedGrab)) := rfl
  have clear := every (.queued (.sourceGrab aimedGrab)) ⟨some 3, []⟩ _ _ knows rfl
    (Surroundings.run_play (answers_reply titleOfAnother) _ _)
  have astray : (Surroundings.play (reply titleOfAnother)
      (Importer.queued (.sourceGrab aimedGrab)).program ⟨some 3, []⟩).1.astray = [4] := by
    decide +kernel
  rw [Clear, astray] at clear
  contradiction

end Aim

end Mintarr.Lane
