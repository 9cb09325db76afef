import Mintarr.Backend.Absorbing
import Mintarr.Queue.Cancellation

/-!
# The hand-over to the worker

A row is set to `importing` before its worker job exists, and the code that ends
worker jobs knows nothing of backend rows.  A reconcile pass skips an importing
row, so only the thread that hands it over or the job it handed over can move
it on.  `Careful` names the steps at which both are lost; without them every
importing row has a thread or a live job, and once no thread is handing it over
it has a worker job.
-/

namespace Mintarr.Backend

open Lib BackendState

/-- The states before the hand-over. -/
def BackendState.Early (state : BackendState) : Prop :=
  state ∈ [.queued, .downloading, .completed]

instance (state : BackendState) : Decidable state.Early :=
  inferInstanceAs (Decidable (state ∈ [.queued, .downloading, .completed]))

/-- A thread has set the row to `importing` and has neither enqueued nor reverted it. -/
def Thread.HandsOver (jid : String) : Thread → Prop
  | .handingOver job _ _ | .reverting job _ => job.jid = jid
  | _ => False

/-- A thread of the process is handing the row over. -/
def World.HandsOver (world : World) (jid : String) : Prop :=
  ∃ thread, (world.threads thread).HandsOver jid

/-- The row has a worker job that is queued, running or cancelling. -/
def World.HasWorkerJob (world : World) (jid : String) : Prop :=
  ∃ job ∈ world.queue.db.jobs.rows, job.jid = jid ∧ job.state.Active

/-- The row imports. -/
def World.Imports (world : World) (jid : String) : Prop :=
  stateOf world.rows jid = some .importing

/-- The row is past the hand-over, or in it. -/
def World.Begun (world : World) (jid : String) : Prop :=
  ∃ state, stateOf world.rows jid = some state ∧ ¬state.Early

/-- The job is the one handed over for this row. -/
def Backs (jid : String) (job : Queue.Job) : Prop :=
  job.type = backendGrabType ∧ job.jid = jid

/-- A job handed over for this row is active, or the worker is still at it. -/
def World.Engaged (world : World) (jid : String) : Prop :=
  (∃ job ∈ world.queue.db.jobs.rows, Backs jid job ∧ job.state.Active) ∨
    ∃ job, world.queue.importer.job? = some job ∧ Backs jid job

/-- The worker is past the mirror of this job. -/
def World.Finished (world : World) (jobId : Nat) : Prop :=
  (∃ job, world.queue.importer.job? = some job ∧ job.id = jobId) ∧
    ∃ outcome, world.mirror = .mirrored outcome

/-! ## What a step of the queue leaves of the jobs -/

section Jobs

variable {before after : Queue.World} {action : Queue.Action}

/-- A job comes from an earlier one, which was active if it is, or has just been
inserted. -/
theorem jobs_back (stepped : Queue.workers.step before action = some after) {job : Queue.Job}
    (jobMem : job ∈ after.db.jobs.rows) :
    (∃ old ∈ before.db.jobs.rows, old.id = job.id ∧ job.work = old.work ∧
      (job.state.Active → old.state.Active)) ∨
    (∃ request now, action = .enqueueJob request now ∧
      job = request.job now before.db.jobs.nextKey) ∨
    job.type = Queue.libraryScanJobType ∧ job.dedupeKey = some Queue.libraryScanDedupeKey := by
  simp only [Queue.workers, Option.map_eq_some_iff] at stepped
  rcases stepped with ⟨effect, happens, rfl⟩
  cases ran : effect.op with
  | none =>
      refine Or.inl ⟨job, ?_, rfl, rfl, id⟩
      simpa [Queue.World.perform, ran] using jobMem
  | some op =>
      have opMem : job ∈ (op.apply before.db).jobs.rows := by
        simpa [Queue.World.perform, ran] using jobMem
      rcases (op.evolves before.db).back job opMem with ⟨old, oldMem, sameId, move⟩ | ⟨_, new⟩
      · exact Or.inl ⟨old, oldMem, sameId, move.work, move.was_active⟩
      · right
        cases op with
        | enqueueJob request now =>
            exact Or.inl ⟨request, now, Queue.enqueued_by happens ran, new.1⟩
        | enqueueLibraryScan mode requestedBy now cut =>
            right
            rw [new.1]
            exact ⟨rfl, rfl⟩
        | _ => exact new.elim

/-- Only the two workers report jobs. -/
theorem reported_by {world : Queue.World} {effect : Queue.Effect} {op : Queue.Op} {jobId : Nat}
    (happens : world.effect action = some effect) (ran : effect.op = some op)
    (reports : op.Reports jobId) :
    (∃ now, action = .importReport now true) ∨ ∃ now, action = .scanReport now true := by
  cases action with
  | importReport now stored =>
      simp only [Queue.World.effect] at happens
      split at happens
      case h_2 => contradiction
      cases happens
      cases stored
      · contradiction
      · exact Or.inl ⟨now, rfl⟩
  | scanReport now stored =>
      simp only [Queue.World.effect] at happens
      split at happens
      case h_2 => contradiction
      cases happens
      cases stored
      · contradiction
      · exact Or.inr ⟨now, rfl⟩
  | _ =>
      simp only [Queue.World.effect, Queue.World.request, Queue.World.importStep,
        Queue.World.scanStep] at happens
      repeat' split at happens
      all_goals cases happens
      all_goals cases ran
      all_goals contradiction

/-- The recovery pass an action runs. -/
def recovery : Queue.Action → Option (Bool × Queue.Time)
  | .importStart now _ => some (true, now)
  | .importRecover now _ => some (false, now)
  | _ => none

theorem recovered_by {world : Queue.World} {effect : Queue.Effect} {op : Queue.Op}
    {job : Queue.Job} (happens : world.effect action = some effect) (ran : effect.op = some op)
    (recovers : op.Recovers job) :
    ∃ force now, recovery action = some (force, now) ∧ job.stale none force now = true := by
  cases action with
  | importStart now cut | importRecover now cut =>
      simp only [Queue.World.effect] at happens
      split at happens
      case h_2 => contradiction
      cases happens
      cases ran
      exact ⟨_, now, rfl, recovers⟩
  | importReport now stored | scanReport now stored =>
      simp only [Queue.World.effect] at happens
      split at happens
      case h_2 => contradiction
      cases happens
      cases stored
      · contradiction
      · cases ran
        exact (Queue.Report.not_recovers recovers).elim
  | _ =>
      simp only [Queue.World.effect, Queue.World.request, Queue.World.importStep,
        Queue.World.scanStep] at happens
      repeat' split at happens
      all_goals cases happens
      all_goals cases ran
      all_goals contradiction

/-- The import worker comes by a job by claiming it. -/
theorem importer_back {world : Queue.World} {effect : Queue.Effect} {job : Queue.Job}
    (happens : world.effect action = some effect)
    (owner : effect.importer.job? = some job) :
    world.importer.job? = some job ∨ ∃ workerId now delivered,
      action = .importClaim workerId now delivered ∧
      (Queue.Op.dequeueNextJob (Queue.World.importRequest workerId) now).claimed world.db =
        some job := by
  cases action with
  | importClaim workerId now delivered =>
      cases Queue.effect_cases happens with
      | background _ importer => exact Or.inl (importer job owner)
      | booted _ _ _ importer | swept _ _ _ _ importer | importReported _ _ _ _ _ importer =>
          rw [importer] at owner
          contradiction
      | scanClaimed _ _ _ _ importer | scanReported _ _ _ _ _ importer =>
          exact Or.inl (importer ▸ owner)
      | importClaimed other then_ _ op importer =>
          simp only [Queue.World.effect] at happens
          split at happens
          case h_2 => contradiction
          split at happens <;> cases happens <;> cases op
          all_goals exact Or.inr ⟨_, _, _, rfl, importer job owner⟩
  | _ =>
      simp only [Queue.World.effect, Queue.World.request, Queue.World.importStep,
        Queue.World.scanStep] at happens
      repeat' split at happens
      all_goals cases happens
      all_goals first
        | exact Or.inl owner
        | contradiction
        | (left; simp_all [Queue.ImportPc.job?])

/-- An active job stays active unless the import worker reports it or a recovery pass
gives it up. -/
theorem jobs_forth (held : before.Held)
    (stepped : Queue.workers.step before action = some after) {job : Queue.Job}
    (jobMem : job ∈ before.db.jobs.rows) (active : job.state.Active)
    (imported : job.type ≠ Queue.libraryScanJobType)
    (unreported : ∀ now, action = .importReport now true →
      ∀ owned, before.importer.job? = some owned → owned.id ≠ job.id)
    (continues : ∀ force now, recovery action = some (force, now) →
      job.stale none force now = true → ¬job.recoveryLimit ≤ job.attempts) :
    ∃ next ∈ after.db.jobs.rows, next.id = job.id ∧ next.work = job.work ∧
      next.state.Active := by
  simp only [Queue.workers, Option.map_eq_some_iff] at stepped
  rcases stepped with ⟨effect, happens, rfl⟩
  rcases Queue.perform_forth effect jobMem with ⟨next, nextMem, sameId, rfl | ⟨op, ran, move⟩⟩
  · exact ⟨next, nextMem, rfl, rfl, active⟩
  refine ⟨next, nextMem, sameId, move.work, move.active active ?_ ?_⟩
  · intro reports
    rcases Queue.reporter_holds (Queue.effect_cases happens) ran reports with
      ⟨owned, owner, ownedId, done⟩ | ⟨owned, owner, ownedId, _⟩
    · rcases reported_by happens ran reports with ⟨now, rfl⟩ | ⟨now, rfl⟩
      · exact unreported now rfl owned owner ownedId
      · simp only [Queue.World.effect] at happens
        split at happens
        case h_2 => contradiction
        cases happens
        simp only at done
        rw [owner] at done
        contradiction
    · rcases held.scanner owned owner with ⟨scan, row, rowMem, rowId, rowType⟩
      have same := Table.eq_of_key_eq rowMem jobMem (rowId.trans ownedId)
      rw [same, scan] at rowType
      exact imported rowType
  · intro recovers
    rcases recovered_by happens ran recovers with ⟨force, now, runs, stale⟩
    exact continues force now runs stale

end Jobs

/-! ## The invariant -/

/-- The step loses no hand-over. -/
structure World.Careful (world : World) (action : Action) : Prop where
  /-- A poll moves no row that has been handed over. -/
  polls : ∀ effect write, world.effect action = some effect →
    effect.op = some (.update write) → write.writer = .poll → write.stored = true →
    write.patch.state.isSome → ∀ state, stateOf world.rows write.jid = some state → state.Early
  /-- The process is not killed between the `importing` write and the enqueue. -/
  kills : action = .queue .kill → ∀ jid, world.HandsOver jid → ¬world.Imports jid
  /-- Recovery does not give up the job of an importing row. -/
  recovers : ∀ inner force now, action = .queue inner → recovery inner = some (force, now) →
    ∀ job ∈ world.queue.db.jobs.rows, job.stale none force now = true →
    job.recoveryLimit ≤ job.attempts → job.type = backendGrabType → ¬world.Imports job.jid
  /-- The worker ends no job of an importing row without having mirrored it. -/
  reports : ∀ now, action = .queue (.importReport now true) →
    ∀ job, world.queue.importer.job? = some job → job.type = backendGrabType →
    (∀ outcome, world.mirror ≠ .mirrored outcome) → ¬world.Imports job.jid
  /-- The mirror's read and write get through. -/
  reads : ∀ outcome projection, action = .mirrorRead outcome projection false →
    ∀ job, world.ingesting? = some job → ¬world.Imports job.jid
  writes : ∀ now, action = .mirrorWrite now false →
    ∀ jid state outcome, world.mirror = .writing jid state outcome → ¬world.Imports jid
  /-- The revert gets through. -/
  reverts : ∀ thread now, action = .revert thread now false →
    ∀ jid, (world.threads thread).HandsOver jid → ¬world.Imports jid

/-- What holds in every careful run. -/
structure World.Tending (world : World) : Prop where
  held : world.queue.Held
  owned : ∀ job, world.queue.importer.job? = some job →
    ∃ row ∈ world.queue.db.jobs.rows, row.id = job.id ∧ row.work = job.work
  keyed : ∀ job ∈ world.queue.db.jobs.rows, ∀ jid,
    job.dedupeKey = some (backendDedupeKey jid) → Backs jid job
  begun : ∀ jid, world.Engaged jid ∨ world.HandsOver jid → world.Begun jid
  alone : ∀ jid, world.HandsOver jid → ¬world.Engaged jid
  sole : ∀ first second jid, (world.threads first).HandsOver jid →
    (world.threads second).HandsOver jid → first = second
  mirror : ∀ jid state outcome, world.mirror = .writing jid state outcome →
    ¬state.Early ∧ state ≠ .importing ∧ ∃ job, world.ingesting? = some job ∧ job.jid = jid
  tended : ∀ jid, world.Imports jid → world.HandsOver jid ∨
    ∃ job ∈ world.queue.db.jobs.rows, Backs jid job ∧ job.state.Active ∧ ¬world.Finished job.id

section Steps

variable {world next : World} {action : Action} {effect : Effect} {write : Write}

/-- A step that leaves the queue alone keeps the invariant when a row is handed over
only from before its hand-over, no row in use goes back before it, and every importing
row is handed over or was importing without. -/
theorem tending_lane (tending : world.Tending) (queue : next.queue = world.queue)
    (begun : ∀ jid, world.Begun jid → world.Engaged jid ∨ next.HandsOver jid → next.Begun jid)
    (entered : ∀ thread jid, (next.threads thread).HandsOver jid →
      (world.threads thread).HandsOver jid ∨
        (¬world.Begun jid ∧ next.Begun jid ∧
          ∀ other, (next.threads other).HandsOver jid → other = thread))
    (imports : ∀ jid, next.Imports jid →
      next.HandsOver jid ∨ world.Imports jid ∧ ¬world.HandsOver jid)
    (mirror : ∀ jid state outcome, next.mirror = .writing jid state outcome →
      ¬state.Early ∧ state ≠ .importing ∧ ∃ job, next.ingesting? = some job ∧ job.jid = jid)
    (finished : ∀ jid, ∀ job ∈ world.queue.db.jobs.rows, next.Imports jid → Backs jid job →
      next.Finished job.id → world.Finished job.id) : next.Tending := by
  have engaged : ∀ jid, next.Engaged jid ↔ world.Engaged jid := by
    intro jid
    simp only [World.Engaged, queue]
  refine ⟨queue ▸ tending.held, queue ▸ tending.owned, queue ▸ tending.keyed, ?begun, ?alone,
    ?sole, mirror, ?tended⟩
  case begun =>
    intro jid used
    rcases used with busy | handing
    · have busy := (engaged jid).mp busy
      exact begun jid (tending.begun jid (Or.inl busy)) (Or.inl busy)
    · rcases handing with ⟨thread, position⟩
      rcases entered thread jid position with old | ⟨_, fresh, _⟩
      · exact begun jid (tending.begun jid (Or.inr ⟨thread, old⟩)) (Or.inr ⟨thread, position⟩)
      · exact fresh
  case alone =>
    intro jid handing busy
    have busy := (engaged jid).mp busy
    rcases handing with ⟨thread, position⟩
    rcases entered thread jid position with old | ⟨notBegun, _, _⟩
    · exact tending.alone jid ⟨thread, old⟩ busy
    · exact notBegun (tending.begun jid (Or.inl busy))
  case sole =>
    intro first second jid left right
    rcases entered first jid left with oldLeft | ⟨_, _, only⟩
    · rcases entered second jid right with oldRight | ⟨_, _, only⟩
      · exact tending.sole first second jid oldLeft oldRight
      · exact only first left
    · exact (only second right).symm
  case tended =>
    intro jid importing
    rcases imports jid importing with handing | ⟨before, free⟩
    · exact Or.inl handing
    · rcases tending.tended jid before with handing | ⟨job, jobMem, backs, active, unfinished⟩
      · exact absurd handing free
      · right
        exact ⟨job, queue ▸ jobMem, backs, active,
          fun done => unfinished (finished jid job jobMem importing backs done)⟩

/-- What a step of the worker process leaves of the lane. -/
structure Leaves (world : World) (inner : Queue.Action) (next : World) : Prop where
  queue : Queue.workers.step world.queue inner = some next.queue
  body : ∀ job, world.ingesting? = some job → (∀ outcome, world.mirror ≠ .mirrored outcome) →
    inner = .kill ∨ next.ingesting? = some job
  rows : next.rows = world.rows
  threads : next.threads = world.threads ∨ inner = .kill ∧ next.threads = fun _ => .idle
  mirror : next.mirror = .pipeline ∨ next.mirror = world.mirror ∧ inner ≠ .kill ∧
    ∀ workerId now delivered, inner ≠ .importClaim workerId now delivered
  foreign : ∀ request now, inner = .enqueueJob request now → foreignRequest request = true

/-- The worker stays in the body of a backend job until the body ends. -/
theorem ingesting_kept {inner : Queue.Action} {queue : Queue.World} {job : Queue.Job}
    (ran : Queue.workers.step world.queue inner = some queue)
    (body : world.ingesting? = some job) (goesOn : ∀ outcome, inner ≠ .importEnd outcome) :
    inner = .kill ∨ { world with queue }.ingesting? = some job := by
  have position : world.queue.importer = .executing job ∧ job.type = backendGrabType := by
    simp only [World.ingesting?] at body
    split at body
    case h_2 => contradiction
    split at body <;> cases body
    next importer backend => exact ⟨importer, backend⟩
  have kept : queue.importer = .executing job → { world with queue }.ingesting? = some job := by
    intro importer
    simp only [World.ingesting?, importer, position.2, if_true]
  simp only [Queue.workers, Option.map_eq_some_iff] at ran
  rcases ran with ⟨effect, happens, rfl⟩
  cases inner with
  | kill => exact Or.inl rfl
  | importEnd outcome => exact absurd rfl (goesOn outcome)
  | importStart | importRecover | importClaim | importBegin | importJudge | importRetry
  | importReport =>
      simp only [Queue.World.effect, position.1] at happens
      contradiction
  | _ =>
      right
      apply kept
      simp only [Queue.World.effect, Queue.World.request, Queue.World.scanStep] at happens
      repeat' split at happens
      all_goals cases happens
      all_goals exact position.1

theorem queueStep_leaves {inner : Queue.Action}
    (happens : world.queueStep inner = some effect) : Leaves world inner (world.perform effect) := by
  -- The queue steps, and the lane keeps its threads and mirror.
  have plain : ∀ threads mirror,
      (Queue.workers.step world.queue inner).map (fun queue =>
        (⟨queue, none, fun _ => threads, mirror⟩ : Effect)) = some effect →
      ((∃ job, world.ingesting? = some job) → (∀ outcome, world.mirror ≠ .mirrored outcome) →
        ∀ outcome, inner ≠ .importEnd outcome) →
      (threads = world.threads ∨ inner = .kill ∧ threads = fun _ => .idle) →
      (mirror = .pipeline ∨ mirror = world.mirror ∧ inner ≠ .kill ∧
        ∀ workerId now delivered, inner ≠ .importClaim workerId now delivered) →
      (∀ request now, inner = .enqueueJob request now → foreignRequest request = true) →
      Leaves world inner (world.perform effect) := by
    intro threads mirror stepped ends keeps resets foreign
    rcases Option.map_eq_some_iff.mp stepped with ⟨queue, ran, rfl⟩
    refine ⟨ran, ?_, rfl, keeps, resets, foreign⟩
    intro job body unmirrored
    exact ingesting_kept ran body (ends ⟨job, body⟩ unmirrored)
  cases inner with
  | enqueueJob request now =>
      simp only [World.queueStep] at happens
      split at happens
      · next own =>
          apply plain _ _ happens
          · simp
          · exact Or.inl rfl
          · simp
          · intro other then_ same
            cases same
            exact own
      · contradiction
  | importEnd outcome =>
      simp only [World.queueStep] at happens
      split at happens
      · next outside =>
          apply plain _ _ happens
          · rintro ⟨job, body⟩
            rw [outside] at body
            contradiction
          · exact Or.inl rfl
          · simp
          · simp
      · split at happens
        case h_2 => contradiction
        next ended mirrored =>
          split at happens
          case isFalse => contradiction
          apply plain _ _ happens
          · intro _ unmirrored
            exact absurd mirrored (unmirrored ended)
          · exact Or.inl rfl
          · simp
          · simp
  | kill =>
      apply plain _ _ happens
      · simp
      · exact Or.inr ⟨rfl, rfl⟩
      · exact Or.inl rfl
      · simp
  | _ =>
      apply plain _ _ happens
      · simp
      · exact Or.inl rfl
      · simp
      · simp

/-- A job of another caller has another dedupe key. -/
theorem foreign_key {request : Queue.EnqueueRequest} (foreign : foreignRequest request = true)
    (jid : String) : request.dedupeKey ≠ some (backendDedupeKey jid) := by
  intro same
  simp only [foreignRequest, Bool.and_eq_true, same, Option.all_some, Bool.not_eq_true'] at foreign
  have starts : "backend:".toList.isPrefixOf (backendDedupeKey jid).toList = true := by
    rw [List.isPrefixOf_iff_prefix, backendDedupeKey, String.toList_append]
    exact List.prefix_append _ _
  rw [starts] at foreign
  cases foreign.2

theorem foreign_type {request : Queue.EnqueueRequest} (foreign : foreignRequest request = true) :
    request.type ≠ backendGrabType := by
  simp only [foreignRequest, Bool.and_eq_true, decide_eq_true_eq] at foreign
  exact foreign.1

/-- A scan job has another dedupe key. -/
theorem scan_key (jid : String) : Queue.libraryScanDedupeKey ≠ backendDedupeKey jid := by
  intro same
  have heads : Queue.libraryScanDedupeKey.toList.head? =
      ("backend:".toList ++ jid.toList).head? := by
    rw [same, backendDedupeKey, String.toList_append]
  have left : Queue.libraryScanDedupeKey.toList.head? = some 'l' := by decide
  have right : "backend:".toList.head? = some 'b' := by decide
  rw [List.head?_append, left, right] at heads
  simp at heads

/-- A job the lane is engaged in after a step of the worker process comes from one it
was engaged in before. -/
theorem engaged_back {inner : Queue.Action} (leaves : Leaves world inner next) {jid : String}
    (engaged : next.Engaged jid) :
    world.Engaged jid := by
  rcases engaged with ⟨job, jobMem, backs, active⟩ | ⟨job, owner, backs⟩
  · left
    rcases jobs_back leaves.queue jobMem with
      ⟨old, oldMem, _, work, was⟩ | ⟨request, now, enqueues, rfl⟩ | ⟨scan, _⟩
    · have sameType : job.type = old.type := congrArg Queue.Work.type work
      have sameJid : job.jid = old.jid := congrArg Queue.Work.jid work
      exact ⟨old, oldMem, ⟨sameType ▸ backs.1, sameJid ▸ backs.2⟩, was active⟩
    · exact absurd backs.1 (foreign_type (leaves.foreign request now enqueues))
    · rw [backs.1] at scan
      exact absurd scan (by decide)
  · have stepped := leaves.queue
    simp only [Queue.workers, Option.map_eq_some_iff] at stepped
    rcases stepped with ⟨effect, happens, performed⟩
    rw [← performed] at owner
    rcases importer_back happens owner with kept | ⟨_, _, _, _, claimed⟩
    · exact Or.inr ⟨job, kept, backs⟩
    · left
      rcases (Queue.claimed_eq_some claimed).1 with ⟨row, rowMem, eligible, rfl⟩
      have queued := (Queue.ClaimRequest.eligible_iff.mp eligible).1
      exact ⟨row, rowMem, backs, queued ▸ Queue.JobState.active_queued⟩

/-- The job the import worker holds keeps its row. -/
theorem owned_step (tending : world.Tending) {inner : Queue.Action}
    (leaves : Leaves world inner next) {job : Queue.Job}
    (owner : next.queue.importer.job? = some job) :
    ∃ row ∈ next.queue.db.jobs.rows, row.id = job.id ∧ row.work = job.work := by
  have stepped := leaves.queue
  simp only [Queue.workers, Option.map_eq_some_iff] at stepped
  rcases stepped with ⟨effect, happens, performed⟩
  rw [← performed] at owner ⊢
  rcases importer_back happens owner with kept | ⟨workerId, now, delivered, rfl, claimed⟩
  · rcases tending.owned job kept with ⟨row, rowMem, rowId, work⟩
    rcases Queue.perform_forth effect rowMem with ⟨moved, movedMem, movedId, rfl | ⟨_, _, move⟩⟩
    · exact ⟨moved, movedMem, rowId, work⟩
    · exact ⟨moved, movedMem, movedId.trans rowId, move.work.trans work⟩
  · have op : effect.op = some (.dequeueNextJob (Queue.World.importRequest workerId) now) := by
      simp only [Queue.World.effect] at happens
      split at happens
      case h_2 => contradiction
      split at happens <;> cases happens <;> rfl
    exact ⟨job, Queue.perform_claimed op claimed, rfl, rfl⟩

/-- Dedupe keys of the lane stay with its jobs. -/
theorem keyed_step (tending : world.Tending) {inner : Queue.Action}
    (leaves : Leaves world inner next) {job : Queue.Job}
    (jobMem : job ∈ next.queue.db.jobs.rows) {jid : String}
    (key : job.dedupeKey = some (backendDedupeKey jid)) : Backs jid job := by
  rcases jobs_back leaves.queue jobMem with
    ⟨old, oldMem, _, work, _⟩ | ⟨request, now, enqueues, rfl⟩ | ⟨_, scan⟩
  · have sameType : job.type = old.type := congrArg Queue.Work.type work
    have sameJid : job.jid = old.jid := congrArg Queue.Work.jid work
    have sameKey : job.dedupeKey = old.dedupeKey := congrArg Queue.Work.dedupeKey work
    have backs := tending.keyed old oldMem jid (sameKey ▸ key)
    exact ⟨sameType ▸ backs.1, sameJid ▸ backs.2⟩
  · exact absurd key (foreign_key (leaves.foreign request now enqueues) jid)
  · rw [scan, Option.some.injEq] at key
    exact absurd key (scan_key jid)

/-- A careful step of the worker process leaves the live job of an importing row
live. -/
theorem live_step (tending : world.Tending) {inner : Queue.Action}
    (careful : world.Careful (.queue inner)) (leaves : Leaves world inner next)
    {job : Queue.Job} (jobMem : job ∈ world.queue.db.jobs.rows)
    (imports : world.Imports job.jid) (type : job.type = backendGrabType)
    (active : job.state.Active) (unfinished : ¬world.Finished job.id) :
    ∃ kept ∈ next.queue.db.jobs.rows, Backs job.jid kept ∧ kept.state.Active ∧
      ¬next.Finished kept.id := by
  have survives : ∃ kept ∈ next.queue.db.jobs.rows, kept.id = job.id ∧ kept.work = job.work ∧
      kept.state.Active := by
    refine jobs_forth tending.held leaves.queue jobMem active ?_ ?_ ?_
    · rw [type]
      decide
    · rintro now rfl owned owner sameId
      rcases tending.owned owned owner with ⟨row, rowMem, rowId, work⟩
      have sameRow := Table.eq_of_key_eq rowMem jobMem (rowId.trans sameId)
      have ownedType : owned.type = job.type := by
        rw [← sameRow]
        exact (congrArg Queue.Work.type work).symm
      have ownedJid : owned.jid = job.jid := by
        rw [← sameRow]
        exact (congrArg Queue.Work.jid work).symm
      refine careful.reports now rfl owned owner (ownedType.trans type) ?_ (ownedJid ▸ imports)
      intro outcome mirrored
      exact unfinished ⟨⟨owned, owner, sameId⟩, outcome, mirrored⟩
    · intro force now runs stale limit
      exact careful.recovers inner force now rfl runs job jobMem stale limit type imports
  rcases survives with ⟨kept, keptMem, sameId, work, keptActive⟩
  have backs : Backs job.jid kept :=
    ⟨(congrArg Queue.Work.type work).trans type, congrArg Queue.Work.jid work⟩
  refine ⟨kept, keptMem, backs, keptActive, ?_⟩
  rintro ⟨⟨owned, owner, ownedId⟩, outcome, mirrored⟩
  rcases leaves.mirror with reset | ⟨same, _, unclaimed⟩
  · rw [reset] at mirrored
    contradiction
  · have stepped := leaves.queue
    simp only [Queue.workers, Option.map_eq_some_iff] at stepped
    rcases stepped with ⟨effect, happens, performed⟩
    rw [← performed] at owner
    rcases importer_back happens owner with before | ⟨workerId, now, delivered, claims, _⟩
    · exact unfinished ⟨⟨owned, before, ownedId.trans sameId⟩, outcome, same ▸ mirrored⟩
    · exact unclaimed workerId now delivered claims

/-- A careful step of the worker process keeps the invariant. -/
theorem tending_queue (tending : world.Tending) {inner : Queue.Action}
    (careful : world.Careful (.queue inner)) (leaves : Leaves world inner next) :
    next.Tending := by
  have imports : ∀ jid, next.Imports jid ↔ world.Imports jid := by
    intro jid
    rw [World.Imports, World.Imports, leaves.rows]
  have begun : ∀ jid, next.Begun jid ↔ world.Begun jid := by
    intro jid
    rw [World.Begun, World.Begun, leaves.rows]
  have position : ∀ thread jid, (next.threads thread).HandsOver jid →
      (world.threads thread).HandsOver jid := by
    intro thread jid handing
    rcases leaves.threads with same | ⟨_, idle⟩
    · exact same ▸ handing
    · rw [idle] at handing
      exact handing.elim
  have handsOver : ∀ jid, next.HandsOver jid → world.HandsOver jid :=
    fun jid ⟨thread, handing⟩ => ⟨thread, position thread jid handing⟩
  refine ⟨Queue.held_step tending.held leaves.queue, fun job => owned_step tending leaves,
    fun job jobMem jid => keyed_step tending leaves jobMem, ?begun, ?alone, ?sole, ?mirror,
    ?tended⟩
  case begun =>
    intro jid used
    rw [begun]
    exact tending.begun jid (used.imp (engaged_back leaves) (handsOver jid))
  case alone =>
    intro jid handing engaged
    exact tending.alone jid (handsOver jid handing) (engaged_back leaves engaged)
  case sole =>
    intro first second jid left right
    exact tending.sole first second jid (position first jid left) (position second jid right)
  case mirror =>
    intro jid state outcome writing
    rcases leaves.mirror with reset | ⟨same, alive, _⟩
    · rw [reset] at writing
      contradiction
    · rw [same] at writing
      rcases tending.mirror jid state outcome writing with ⟨late, other, job, body, sameJid⟩
      refine ⟨late, other, job, ?_, sameJid⟩
      exact (leaves.body job body (by simp [writing])).resolve_left alive
  case tended =>
    intro jid importing
    have importing := (imports jid).mp importing
    rcases tending.tended jid importing with handing | ⟨job, jobMem, backs, active, unfinished⟩
    · left
      rcases leaves.threads with same | ⟨rfl, _⟩
      · rcases handing with ⟨thread, position⟩
        exact ⟨thread, same ▸ position⟩
      · exact absurd importing (careful.kills rfl jid handing)
    · right
      rcases backs with ⟨type, rfl⟩
      exact live_step tending careful leaves jobMem importing type active unfinished

/-! ## The steps of the request threads and of the mirror -/

/-- A step that leaves queue and mirror alone keeps what the mirror is about to write. -/
theorem mirror_kept (tending : world.Tending) (queue : next.queue = world.queue)
    (mirror : next.mirror = world.mirror) :
    ∀ jid state outcome, next.mirror = .writing jid state outcome →
      ¬state.Early ∧ state ≠ .importing ∧ ∃ job, next.ingesting? = some job ∧ job.jid = jid := by
  intro jid state outcome writing
  have same : next.ingesting? = world.ingesting? := by simp only [World.ingesting?, queue]
  rw [same]
  exact tending.mirror jid state outcome (mirror ▸ writing)

/-- Whether a thread hands a row over after another has moved. -/
theorem handsOver_update {thread : Nat} {position : Thread} {jid : String} {other : Nat} :
    (Function.update world.threads thread position other).HandsOver jid ↔
      if other = thread then position.HandsOver jid else (world.threads other).HandsOver jid := by
  rw [Function.update_apply]
  split <;> rfl

/-- A step of a request thread that enters no hand-over and leaves none, and moves no
row into or behind one, keeps the invariant. -/
theorem tending_thread (tending : world.Tending) {thread : Nat} {position : Thread}
    (queue : next.queue = world.queue) (mirror : next.mirror = world.mirror)
    (threads : next.threads = Function.update world.threads thread position)
    (same : ∀ jid, position.HandsOver jid ↔ (world.threads thread).HandsOver jid)
    (begun : ∀ jid, world.Begun jid → next.Begun jid)
    (imports : ∀ jid, next.Imports jid → world.Imports jid) : next.Tending := by
  have handing : ∀ other jid,
      (next.threads other).HandsOver jid ↔ (world.threads other).HandsOver jid := by
    intro other jid
    rw [threads, handsOver_update]
    split
    · next equal => rw [same, equal]
    · rfl
  refine tending_lane tending queue (fun jid started _ => begun jid started) ?_ ?_ ?_ ?_
  · intro other jid position_
    exact Or.inl ((handing other jid).mp position_)
  · intro jid importing
    by_cases handed : world.HandsOver jid
    · rcases handed with ⟨other, position_⟩
      exact Or.inl ⟨other, (handing other jid).mpr position_⟩
    · exact Or.inr ⟨imports jid importing, handed⟩
  · exact mirror_kept tending queue mirror
  · intro jid job _ _ _ finished
    simpa only [World.Finished, queue, mirror] using finished

/-- A write that moves no row into its import and none behind it. -/
structure Write.Forward (world : World) (write : Write) : Prop where
  importing : write.patch.state ≠ some .importing
  begun : write.stored = true → ∀ new ∈ write.patch.state, world.Begun write.jid → ¬new.Early

theorem begun_write (same : effect.op = some (.update write)) (forward : write.Forward world)
    {jid : String} (begun : world.Begun jid) : (world.perform effect).Begun jid := by
  rcases begun with ⟨state, stored, late⟩
  by_cases hit : write.stored = true ∧ jid = write.jid
  case neg => exact ⟨state, by rw [stateOf_perform same, if_neg hit, stored], late⟩
  refine ⟨write.patch.state.getD state, by rw [stateOf_perform same, if_pos hit, stored]; rfl, ?_⟩
  cases column : write.patch.state with
  | none => exact late
  | some new => exact forward.begun hit.1 new column ⟨state, hit.2 ▸ stored, late⟩

theorem imports_write (same : effect.op = some (.update write)) (forward : write.Forward world)
    {jid : String} (imports : (world.perform effect).Imports jid) : world.Imports jid := by
  rw [World.Imports, stateOf_perform same] at imports
  split at imports
  case isFalse => exact imports
  rcases Option.map_eq_some_iff.mp imports with ⟨state, stored, column⟩
  cases written : write.patch.state with
  | none =>
      rw [written, Option.getD_none] at column
      rw [World.Imports, stored, column]
  | some new =>
      rw [written, Option.getD_some] at column
      exact absurd (column ▸ written) forward.importing

/-- A write without a state moves nothing. -/
theorem forward_of_none (absent : write.patch.state = none) : write.Forward world where
  importing := by
    rw [absent]
    exact nofun
  begun _ new column := by
    rw [absent] at column
    contradiction

/-- A request thread that only moves on keeps the invariant. -/
theorem tending_moved (tending : world.Tending) {thread : Nat} {position : Thread}
    (happens : world.threadStep thread none (fun _ => position) = some effect)
    (same : ∀ jid, position.HandsOver jid ↔ (world.threads thread).HandsOver jid) :
    (world.perform effect).Tending := by
  cases happens
  exact tending_thread tending rfl rfl rfl same (fun _ => id) (fun _ => id)

/-- So does one that writes a row forward. -/
theorem tending_wrote (tending : world.Tending) {thread : Nat}
    {positions : Option BackendJob → Thread}
    (happens : world.threadStep thread (some (.update write)) positions = some effect)
    (forward : write.Forward world)
    (same : ∀ row jid, (positions row).HandsOver jid ↔ (world.threads thread).HandsOver jid) :
    (world.perform effect).Tending := by
  cases happens
  exact tending_thread tending rfl rfl rfl (same _) (fun _ => begun_write rfl forward)
    (fun _ => imports_write rfl forward)

/-- A poll's decision does not start an import, and comes before any hand-over. -/
theorem reconcile_forward {job : BackendJob} {status : BackendJobStatus}
    (write_patch : write.patch = job.reconcile status)
    (early : write.stored = true → write.patch.state.isSome → ¬world.Begun write.jid) :
    write.Forward world where
  importing := by
    rw [write_patch]
    simp only [BackendJob.reconcile]
    split
    · next moved =>
        intro same
        have starts := nextLifecycleState_importing.mp (Option.some.inj same)
        exact moved (by rw [starts, nextLifecycleState_importing.mpr rfl])
    · intro same
      contradiction
  begun stored new column begun :=
    absurd begun (early stored (by rw [Option.mem_def.mp column]; rfl))

theorem not_handsOver_decided {newState : BackendState} {status : BackendJobStatus}
    {listed : List BackendJob} {job : BackendJob} {jid : String} :
    ¬(Thread.decided newState status listed job).HandsOver jid := by
  simp only [Thread.decided]
  split <;> exact id

/-- A thread that hands nothing over can move without ending a hand-over. -/
theorem handsOver_other {thread : Nat} {position : Thread} {jid : String}
    (threads : next.threads = Function.update world.threads thread position)
    (free : ¬(world.threads thread).HandsOver jid) (handed : world.HandsOver jid) :
    next.HandsOver jid := by
  rcases handed with ⟨other, position_⟩
  refine ⟨other, ?_⟩
  rw [threads, handsOver_update, if_neg]
  · exact position_
  · rintro rfl
    exact free position_

/-- The write that starts an import hands the row over, from before any hand-over. -/
theorem tending_ingested (tending : world.Tending) {thread : Nat} {job : BackendJob}
    {rel : String} {listed : List BackendJob}
    (happens : world.threadStep thread (some (.update write))
      (fun updated => updated.elim (.polling listed) fun _ => .handingOver job rel listed) =
      some effect)
    (sameJid : write.jid = job.jid) (state : write.patch.state = some .importing)
    (position : ∀ jid, ¬(world.threads thread).HandsOver jid)
    (early : write.stored = true → ¬world.Begun write.jid) :
    (world.perform effect).Tending := by
  cases happens
  generalize performed : world.perform _ = next
  have moved : ∀ other, stateOf next.rows other =
      if write.stored = true ∧ other = write.jid then
        (stateOf world.rows other).map fun state => write.patch.state.getD state
      else stateOf world.rows other := fun other => performed ▸ stateOf_perform rfl
  have elsewhere : ∀ other, ¬(write.stored = true ∧ other = write.jid) →
      stateOf next.rows other = stateOf world.rows other := fun other missed => by
    rw [moved, if_neg missed]
  have queue : next.queue = world.queue := by rw [← performed]; rfl
  have mirror : next.mirror = world.mirror := by rw [← performed]; rfl
  -- The row may be gone, or the call may have failed: then nothing is handed over.
  cases updated : (RowOp.apply world.rows (.update write)).2 with
  | none =>
      have threads : next.threads = Function.update world.threads thread (.polling listed) := by
        rw [← performed]
        simp only [World.perform, Option.map_some, Option.bind_some, updated, Option.elim_none]
      have same : ∀ other, stateOf next.rows other = stateOf world.rows other := by
        intro other
        by_cases hit : write.stored = true ∧ other = write.jid
        case neg => exact elsewhere other hit
        rw [RowOp.apply, hit.1] at updated
        have gone : stateOf next.rows other = none := by
          rw [← performed, hit.2, stateOf, World.perform_rows]
          simp only [Option.map_some, Option.getD_some, RowOp.apply, hit.1]
          exact congrArg (Option.map BackendJob.state) updated
        rw [gone]
        rw [moved, if_pos hit] at gone
        exact (Option.map_eq_none_iff.mp gone).symm
      refine tending_thread tending queue mirror threads (fun jid => iff_of_false id (position jid))
        ?_ ?_
      · rintro jid ⟨state, stored, late⟩
        exact ⟨state, (same jid).trans stored, late⟩
      · intro jid imports
        exact (same jid).symm.trans imports
  | some row =>
      have threads : next.threads =
          Function.update world.threads thread (.handingOver job rel listed) := by
        rw [← performed]
        simp only [World.perform, Option.map_some, Option.bind_some, updated, Option.elim_some]
      have stored : write.stored = true := by
        cases kept : write.stored with
        | true => rfl
        | false =>
            rw [RowOp.apply, kept] at updated
            contradiction
      have importing : stateOf next.rows write.jid = some .importing := by
        have found : stateOf next.rows write.jid = some row.state := by
          rw [RowOp.apply, stored] at updated
          rw [← performed, stateOf, World.perform_rows]
          simp only [Option.map_some, Option.getD_some, RowOp.apply, stored]
          exact congrArg (Option.map BackendJob.state) updated
        have column := found
        rw [moved, if_pos ⟨stored, rfl⟩, state] at column
        rcases Option.map_eq_some_iff.mp column with ⟨_, _, same⟩
        rw [found, ← same]
        rfl
      have handing : ∀ other jid, (next.threads other).HandsOver jid ↔
          if other = thread then job.jid = jid else (world.threads other).HandsOver jid := by
        intro other jid
        rw [threads, handsOver_update]
        rfl
      have notBegun := early stored
      refine tending_lane tending queue ?_ ?_ ?_ ?_ ?_
      · rintro jid ⟨before, was, late⟩ _
        by_cases hit : jid = write.jid
        · exact absurd ⟨before, hit ▸ was, late⟩ notBegun
        · exact ⟨before, (elsewhere jid fun both => hit both.2).trans was, late⟩
      · intro other jid position_
        rw [handing] at position_
        split at position_
        case isFalse => exact Or.inl position_
        next equal =>
          right
          rw [← position_, ← sameJid]
          refine ⟨notBegun, ⟨.importing, importing, by decide⟩, ?_⟩
          intro second secondHanding
          rw [handing] at secondHanding
          split at secondHanding
          · next same => exact same.trans equal.symm
          · exact absurd (tending.begun _ (Or.inr ⟨second, secondHanding⟩)) notBegun
      · intro jid imports
        by_cases hit : jid = write.jid
        · left
          refine ⟨thread, ?_⟩
          rw [handing, if_pos rfl, hit, sameJid]
        · have before : world.Imports jid :=
            (elsewhere jid fun both => hit both.2).symm.trans imports
          by_cases handed : world.HandsOver jid
          · exact Or.inl (handsOver_other threads (position jid) handed)
          · exact Or.inr ⟨before, handed⟩
      · exact mirror_kept tending queue mirror
      · intro jid job _ _ _ finished
        simpa only [World.Finished, queue, mirror] using finished

/-- The revert takes a row back that nobody else works on. -/
theorem tending_reverted (tending : world.Tending) {thread : Nat} {job : BackendJob}
    {listed : List BackendJob}
    (happens : world.threadStep thread (some (.update write)) (fun _ => .polling listed) =
      some effect)
    (sameJid : write.jid = job.jid) (state : write.patch.state = some .completed)
    (position : world.threads thread = .reverting job listed)
    (reverts : write.stored = false → ¬world.Imports write.jid) :
    (world.perform effect).Tending := by
  cases happens
  generalize performed : world.perform _ = next
  have moved : ∀ other, stateOf next.rows other =
      if write.stored = true ∧ other = write.jid then
        (stateOf world.rows other).map fun state => write.patch.state.getD state
      else stateOf world.rows other := fun other => performed ▸ stateOf_perform rfl
  have queue : next.queue = world.queue := by rw [← performed]; rfl
  have mirror : next.mirror = world.mirror := by rw [← performed]; rfl
  have threads : next.threads = Function.update world.threads thread (.polling listed) := by
    rw [← performed]
    rfl
  have mine : ∀ jid, (world.threads thread).HandsOver jid ↔ write.jid = jid := by
    intro jid
    rw [position, sameJid]
    rfl
  have handing : ∀ other jid, (next.threads other).HandsOver jid →
      (world.threads other).HandsOver jid ∧ write.jid ≠ jid := by
    intro other jid handed
    rw [threads, handsOver_update] at handed
    split at handed
    · exact handed.elim
    · next differs =>
        refine ⟨handed, ?_⟩
        intro same
        exact differs (tending.sole other thread jid handed ((mine jid).mpr same))
  refine tending_lane tending queue ?_ ?_ ?_ ?_ ?_
  · rintro jid ⟨before, was, late⟩ used
    have differs : write.jid ≠ jid := by
      rcases used with engaged | ⟨other, handed⟩
      · intro same
        exact tending.alone jid ⟨thread, (mine jid).mpr same⟩ engaged
      · exact (handing other jid handed).2
    refine ⟨before, ?_, late⟩
    rw [moved, if_neg (fun both => differs both.2.symm), was]
  · intro other jid handed
    exact Or.inl (handing other jid handed).1
  · intro jid imports
    have differs : write.jid ≠ jid := by
      intro same
      rw [World.Imports, moved] at imports
      split at imports
      · rcases Option.map_eq_some_iff.mp imports with ⟨_, _, column⟩
        rw [state] at column
        contradiction
      · next missed =>
          cases kept : write.stored with
          | false => exact reverts kept (same ▸ imports)
          | true => exact missed ⟨kept, same.symm⟩
    rw [World.Imports, moved, if_neg (fun both => differs both.2.symm)] at imports
    by_cases handed : world.HandsOver jid
    · exact Or.inl (handsOver_other threads (fun own => differs ((mine jid).mp own)) handed)
    · exact Or.inr ⟨imports, handed⟩
  · exact mirror_kept tending queue mirror
  · intro jid job _ _ _ finished
    simpa only [World.Finished, queue, mirror] using finished

/-- The enqueue ends the hand-over with a job of its own: no other thread hands the row
over and no job of an earlier hand-over is active. -/
theorem tending_enqueued (tending : world.Tending) {thread : Nat} {job : BackendJob}
    {rel : String} {listed : List BackendJob} {now : Queue.Time}
    (position : world.threads thread = .handingOver job rel listed)
    (inserts : Queue.enqueueJob (ingestRequest job rel) now world.queue.db =
      ({ world.queue.db with
          jobs := world.queue.db.jobs.insert ((ingestRequest job rel).job now)
            ((ingestRequest job rel).job_id now) }, some world.queue.db.jobs.nextKey))
    (rows : next.rows = world.rows) (mirror : next.mirror = world.mirror)
    (queue : next.queue =
      { world.queue with db := (Queue.enqueueJob (ingestRequest job rel) now world.queue.db).1 })
    (threads : next.threads = Function.update world.threads thread (.polling listed)) :
    next.Tending := by
  have stepped : Queue.workers.step world.queue (.enqueueJob (ingestRequest job rel) now) =
      some next.queue := by
    rw [queue]
    rfl
  let enqueued := (ingestRequest job rel).job now world.queue.db.jobs.nextKey
  have jobs : ∀ row, row ∈ next.queue.db.jobs.rows ↔
      row ∈ world.queue.db.jobs.rows ∨ row = enqueued := by
    intro row
    rw [queue, inserts]
    simp only [Table.mem_insert]
    rfl
  have importer : next.queue.importer = world.queue.importer := by rw [queue]
  have mine : ∀ jid, (world.threads thread).HandsOver jid ↔ job.jid = jid := by
    intro jid
    rw [position]
    rfl
  have handing : ∀ other jid, (next.threads other).HandsOver jid ↔
      (world.threads other).HandsOver jid ∧ job.jid ≠ jid := by
    intro other jid
    rw [threads, handsOver_update]
    split
    · next equal =>
        rw [equal, mine]
        exact ⟨fun handed => handed.elim, fun both => absurd both.1 both.2⟩
    · next differs =>
        refine ⟨fun handed => ⟨handed, ?_⟩, And.left⟩
        intro same
        exact differs (tending.sole other thread jid handed ((mine jid).mpr same))
  have engaged : ∀ jid, next.Engaged jid → world.Engaged jid ∨ job.jid = jid := by
    intro jid busy
    rcases busy with ⟨row, rowMem, backs, active⟩ | ⟨row, owner, backs⟩
    · rcases (jobs row).mp rowMem with old | rfl
      · exact Or.inl (Or.inl ⟨row, old, backs, active⟩)
      · exact Or.inr backs.2
    · exact Or.inl (Or.inr ⟨row, importer ▸ owner, backs⟩)
  have begun : ∀ jid, next.Begun jid ↔ world.Begun jid := by
    intro jid
    rw [World.Begun, World.Begun, rows]
  refine ⟨Queue.held_step tending.held stepped, ?owned, ?keyed, ?begun, ?alone, ?sole, ?mirror,
    ?tended⟩
  case owned =>
    intro owned owner
    rcases tending.owned owned (importer ▸ owner) with ⟨row, rowMem, work⟩
    exact ⟨row, (jobs row).mpr (Or.inl rowMem), work⟩
  case keyed =>
    intro row rowMem jid key
    rcases (jobs row).mp rowMem with old | rfl
    · exact tending.keyed row old jid key
    · refine ⟨rfl, ?_⟩
      have same : backendDedupeKey job.jid = backendDedupeKey jid := Option.some.inj key
      exact (String.append_right_inj _).mp same
  case begun =>
    intro jid used
    rw [begun]
    rcases used with busy | ⟨other, handed⟩
    · rcases engaged jid busy with old | same
      · exact tending.begun jid (Or.inl old)
      · exact tending.begun jid (Or.inr ⟨thread, (mine jid).mpr same⟩)
    · exact tending.begun jid (Or.inr ⟨other, ((handing other jid).mp handed).1⟩)
  case alone =>
    rintro jid ⟨other, handed⟩ busy
    rcases engaged jid busy with old | same
    · exact tending.alone jid ⟨other, ((handing other jid).mp handed).1⟩ old
    · exact ((handing other jid).mp handed).2 same
  case sole =>
    intro first second jid left right
    exact tending.sole first second jid ((handing first jid).mp left).1
      ((handing second jid).mp right).1
  case mirror =>
    intro jid state outcome writing
    have same : next.ingesting? = world.ingesting? := by simp only [World.ingesting?, importer]
    rw [same]
    exact tending.mirror jid state outcome (mirror ▸ writing)
  case tended =>
    intro jid imports
    rw [World.Imports, rows] at imports
    by_cases same : job.jid = jid
    · right
      refine ⟨enqueued, (jobs enqueued).mpr (Or.inr rfl), ⟨rfl, same⟩,
        Queue.JobState.active_queued, ?_⟩
      -- The worker cannot hold a job that has just been inserted.
      rintro ⟨⟨owned, owner, ownedId⟩, _⟩
      rcases tending.owned owned (importer ▸ owner) with ⟨row, rowMem, rowId, _⟩
      have below := world.queue.db.jobs.fresh row rowMem
      rw [rowId, ownedId] at below
      exact Nat.lt_irrefl _ below
    · rcases tending.tended jid imports with ⟨other, handed⟩ | ⟨row, rowMem, backs, active, live⟩
      · exact Or.inl ⟨other, (handing other jid).mpr ⟨handed, same⟩⟩
      · right
        refine ⟨row, (jobs row).mpr (Or.inl rowMem), backs, active, ?_⟩
        intro finished
        apply live
        simpa only [World.Finished, importer, mirror] using finished

/-- What the enqueue of a hand-over does: nothing without an id, else it inserts. -/
theorem enqueue_cases (tending : world.Tending) {thread : Nat} {job : BackendJob}
    {rel : String} {listed : List BackendJob} {now : Queue.Time}
    (position : world.threads thread = .handingOver job rel listed) :
    Queue.enqueueJob (ingestRequest job rel) now world.queue.db = (world.queue.db, none) ∨
    Queue.enqueueJob (ingestRequest job rel) now world.queue.db =
      ({ world.queue.db with
          jobs := world.queue.db.jobs.insert ((ingestRequest job rel).job now)
            ((ingestRequest job rel).job_id now) }, some world.queue.db.jobs.nextKey) := by
  simp only [Queue.enqueueJob]
  split
  · exact Or.inl rfl
  · split
    case h_2 => exact Or.inr rfl
    next found search =>
      exfalso
      have hit : Queue.findActiveJobByDedupe (backendDedupeKey job.jid) world.queue.db =
          some found := search
      simp only [Queue.findActiveJobByDedupe] at hit
      split at hit
      · contradiction
      · rcases Table.mem_of_latest? hit with ⟨foundMem, accepted⟩
        have accepted := of_decide_eq_true accepted
        have backs := tending.keyed found foundMem job.jid accepted.1
        refine tending.alone job.jid ⟨thread, ?_⟩ (Or.inl ⟨found, foundMem, backs, accepted.2⟩)
        rw [position]
        rfl

/-- The job whose body the worker is in is the one it holds. -/
theorem ingesting_holds {job : Queue.Job} (body : world.ingesting? = some job) :
    world.queue.importer.job? = some job ∧ job.type = backendGrabType := by
  simp only [World.ingesting?] at body
  split at body
  case h_2 => contradiction
  next importer =>
    split at body <;> cases body
    next backend =>
      rw [importer]
      exact ⟨rfl, backend⟩

/-- A finished job handed over for a row is the one whose body the worker is in, when it
is in one. -/
theorem finished_jid (tending : world.Tending) {job row : Queue.Job} {jid : String}
    (body : world.ingesting? = some job) (rowMem : row ∈ world.queue.db.jobs.rows)
    (backs : Backs jid row) (finished : next.Finished row.id)
    (queue : next.queue = world.queue) : job.jid = jid := by
  rcases finished with ⟨⟨owned, owner, ownedId⟩, _⟩
  have owner : world.queue.importer.job? = some owned := queue ▸ owner
  rw [(ingesting_holds body).1, Option.some.injEq] at owner
  subst owner
  rcases tending.owned job (ingesting_holds body).1 with ⟨stored, storedMem, storedId, work⟩
  have same := Table.eq_of_key_eq storedMem rowMem (storedId.trans ownedId)
  rw [← backs.2, ← same]
  exact (congrArg Queue.Work.jid work).symm

/-- The mirror passes a job whose row it did not find importing. -/
theorem tending_mirrored (tending : world.Tending) {job : Queue.Job} {mirror : MirrorPc}
    (body : world.ingesting? = some job) (notImporting : ¬world.Imports job.jid)
    (passed : ∀ jid state outcome, mirror ≠ .writing jid state outcome) :
    ({ world with mirror } : World).Tending := by
  refine tending_lane tending rfl (fun _ begun _ => begun) (fun _ _ handed => Or.inl handed) ?_
    (fun jid state outcome writing => absurd writing (passed jid state outcome)) ?_
  · intro jid imports
    by_cases handed : world.HandsOver jid
    · exact Or.inl handed
    · exact Or.inr ⟨imports, handed⟩
  · intro jid row rowMem imports backs finished
    rw [← finished_jid tending body rowMem backs finished rfl] at imports
    exact absurd imports notImporting

/-- The states a pipeline's end is mirrored as. -/
theorem backendIngestOutcome_late (projection : Option Projection) :
    ¬(backendIngestOutcome projection).Early ∧ backendIngestOutcome projection ≠ .importing := by
  simp only [backendIngestOutcome]
  repeat' split
  all_goals decide

theorem tending_mirrorRead (tending : world.Tending) {outcome : Queue.Outcome}
    {projection : Option Projection} {readOk : Bool}
    (careful : world.Careful (.mirrorRead outcome projection readOk))
    (happens : world.effect (.mirrorRead outcome projection readOk) = some effect) :
    (world.perform effect).Tending := by
  simp only [World.effect] at happens
  split at happens
  case h_2 => contradiction
  next job body _ =>
    split at happens
    · next missing =>
        cases happens
        refine tending_mirrored tending body ?_ (by intros; simp)
        cases readOk with
        | false => exact careful.reads outcome projection rfl job body
        | true =>
            intro imports
            rw [World.Imports, stateOf, show world.rows.find? job.jid = none from missing]
              at imports
            contradiction
    · next row found =>
        have stored : stateOf world.rows job.jid = some row.state := by
          cases readOk with
          | false => contradiction
          | true => exact congrArg (Option.map BackendJob.state) found
        split at happens
        · next importing =>
            cases happens
            refine tending_lane tending rfl (fun _ begun _ => begun)
              (fun _ _ handed => Or.inl handed) ?_ ?_ ?_
            · intro jid imports
              by_cases handed : world.HandsOver jid
              · exact Or.inl handed
              · exact Or.inr ⟨imports, handed⟩
            · intro jid state ended writing
              cases writing
              have late : ∀ state : BackendState, state = .failed ∨
                  (∃ projection, state = backendIngestOutcome projection) →
                  ¬state.Early ∧ state ≠ .importing := by
                rintro state (rfl | ⟨projection, rfl⟩)
                · decide
                · exact backendIngestOutcome_late projection
              refine (late _ ?_).imp_right fun other => ⟨other, job, body, rfl⟩
              cases outcome
              · exact Or.inr ⟨projection, rfl⟩
              · exact Or.inl rfl
              · exact Or.inl rfl
            · rintro jid row _ _ _ ⟨_, _, mirrored⟩
              contradiction
        · next other =>
            cases happens
            refine tending_mirrored tending body ?_ (by intros; simp)
            intro imports
            rw [World.Imports, stored, Option.some.injEq] at imports
            exact other imports

theorem tending_mirrorWrite (tending : world.Tending) {now : Queue.Time} {stored : Bool}
    (careful : world.Careful (.mirrorWrite now stored))
    (happens : world.effect (.mirrorWrite now stored) = some effect) :
    (world.perform effect).Tending := by
  simp only [World.effect] at happens
  split at happens
  case h_2 => contradiction
  next jid state outcome writing =>
    rcases tending.mirror jid state outcome writing with ⟨late, other, job, body, rfl⟩
    cases happens
    have forward : Write.Forward world
        { jid := job.jid, seen := .importing, writer := .mirror
          patch := { state := some state, finished := decide state.Terminal }, now, stored } :=
      ⟨fun same => other (Option.some.inj same), fun _ new same _ => by cases same; exact late⟩
    refine tending_lane tending rfl (fun _ begun _ => begun_write rfl forward begun)
      (fun _ _ handed => Or.inl handed) ?_ (by intros; contradiction) ?_
    · intro jid imports
      by_cases handed : world.HandsOver jid
      · exact Or.inl handed
      · exact Or.inr ⟨imports_write rfl forward imports, handed⟩
    · intro jid row rowMem imports backs finished
      have same := finished_jid tending body rowMem backs finished rfl
      subst same
      exfalso
      have before := imports_write rfl forward imports
      rw [World.Imports, stateOf_perform rfl] at imports
      cases stored with
      | false => exact careful.writes now rfl job.jid state outcome writing before
      | true =>
          rw [if_pos ⟨rfl, rfl⟩, show stateOf world.rows job.jid = some .importing from before]
            at imports
          exact other (Option.some.inj imports)

/-- A poll's write of the state column comes before any hand-over. -/
theorem poll_early (careful : world.Careful action) (happens : world.effect action = some effect)
    (same : effect.op = some (.update write)) (poll : write.writer = .poll) :
    write.stored = true → write.patch.state.isSome → ¬world.Begun write.jid := by
  rintro stored column ⟨state, found, late⟩
  exact late (careful.polls effect write happens same poll stored column state found)

/-- A new row is downloading. -/
theorem created_imports {request : NewBackendJob} {now : Queue.Time} {rows : BackendJobs}
    {jid : String} (free : rows.find? (request.row now).jid = none)
    (downloading : request.state = .downloading)
    (imports : stateOf (createBackendJob request now rows).1 jid = some .importing) :
    stateOf rows jid = some .importing := by
  cases before : stateOf rows jid with
  | some state => rw [← stateOf_createBackendJob free before, imports]
  | none =>
      simp only [createBackendJob] at imports
      split at imports
      · rw [before] at imports
        contradiction
      · simp only [free] at imports
        rw [stateOf, Registry.find?_add free] at imports
        split at imports
        · simp only [Option.map_some, NewBackendJob.row, downloading] at imports
          contradiction
        · rw [← stateOf, before] at imports
          contradiction

theorem tending_create (tending : world.Tending) {request : NewBackendJob} {now : Queue.Time}
    (free : world.rows.find? (request.row now).jid = none)
    (downloading : request.state = .downloading)
    (rows : next.rows = (createBackendJob request now world.rows).1)
    (queue : next.queue = world.queue) (threads : next.threads = world.threads)
    (mirror : next.mirror = world.mirror) : next.Tending := by
  have unchanged : next.threads = Function.update world.threads 0 (world.threads 0) := by
    rw [threads, Function.update_eq_self]
  refine tending_thread tending queue mirror unchanged (fun _ => Iff.rfl) ?_ ?_
  · rintro jid ⟨state, stored, late⟩
    exact ⟨state, rows ▸ stateOf_createBackendJob free stored, late⟩
  · intro jid imports
    rw [World.Imports, rows] at imports
    exact created_imports free downloading imports

/-- A careful step keeps the invariant. -/
theorem tending_effect (tending : world.Tending) (careful : world.Careful action)
    (happens : world.effect action = some effect) : (world.perform effect).Tending := by
  have effected := happens
  cases action with
  | queue inner => exact tending_queue tending careful (queueStep_leaves happens)
  | create jid sourceType category backendJobId title now =>
      simp only [World.effect] at happens
      split at happens
      · contradiction
      · next free =>
          cases happens
          let request : NewBackendJob :=
            { jid, sourceType, category, backendJobId, state := .downloading, releaseTitle := title }
          have unused : world.rows.find? (request.row now).jid = none := by simpa using free
          exact tending_create tending unused rfl World.perform_rows World.perform_queue
            World.perform_threads World.perform_mirror
  | poll thread | skip thread | status thread | cancelRead thread =>
      simp only [World.effect] at happens
      repeat' split at happens
      all_goals first
        | contradiction
        | (refine tending_moved tending happens fun jid => iff_of_false id ?_
           simp_all [Thread.HandsOver])
  | restoreReview thread | capture thread =>
      simp only [World.effect] at happens
      repeat' split at happens
      all_goals first
        | contradiction
        | (refine tending_moved tending happens fun jid => iff_of_false id ?_
           simp_all [Thread.HandsOver])
        | (refine tending_wrote tending happens (forward_of_none rfl)
             fun row jid => iff_of_false id ?_
           simp_all [Thread.HandsOver])
  | decide thread now stored =>
      simp only [World.effect] at happens
      split at happens
      case h_2 => contradiction
      next job status listed position =>
        have free : ∀ jid, ¬(world.threads thread).HandsOver jid := by
          intro jid
          rw [position]
          exact id
        split at happens
        · refine tending_wrote tending happens (reconcile_forward rfl ?_) ?_
          · exact poll_early careful effected (threadStep_op happens) rfl
          · intro row jid
            refine iff_of_false ?_ (free jid)
            cases row
            · exact id
            · exact not_handsOver_decided
        · exact tending_moved tending happens fun jid =>
            iff_of_false not_handsOver_decided (free jid)
  | ingest thread root relpath now stored =>
      simp only [World.effect] at happens
      split at happens
      case h_2 => contradiction
      next job listed position =>
        have free : ∀ jid, ¬(world.threads thread).HandsOver jid := by
          intro jid
          rw [position]
          exact id
        split at happens
        · exact tending_moved tending happens fun jid => iff_of_false id (free jid)
        · refine tending_ingested tending happens rfl rfl free ?_
          intro kept
          exact poll_early careful effected (threadStep_op happens) rfl kept rfl
  | enqueue thread now stored =>
      simp only [World.effect] at happens
      split at happens
      case h_2 => contradiction
      next job rel listed position =>
        have same : ∀ jid, (Thread.reverting job listed).HandsOver jid ↔
            (world.threads thread).HandsOver jid := by
          intro jid
          rw [position]
          rfl
        split at happens
        case isFalse => exact tending_moved tending happens same
        have enqueued : Queue.enqueueJob (ingestRequest job rel) now world.queue.db =
              (world.queue.db, none) ∨ _ := enqueue_cases tending position
        rcases enqueued with nothing | inserts
        · simp only [nothing] at happens
          exact tending_moved tending happens same
        · cases happens
          refine tending_enqueued tending position inserts rfl rfl rfl ?_
          simp only [World.perform, inserts, Option.isSome_some, if_true]
  | revert thread now stored =>
      simp only [World.effect] at happens
      split at happens
      case h_2 => contradiction
      next job listed position =>
        refine tending_reverted tending happens rfl rfl position ?_
        intro lost
        have lost : stored = false := lost
        refine careful.reverts thread now (by rw [lost]) job.jid ?_
        rw [position]
        rfl
  | cancelWrite thread now stored =>
      simp only [World.effect] at happens
      split at happens
      case h_2 => contradiction
      next jid seen position =>
        refine tending_wrote tending happens ⟨by simp, ?_⟩ fun row other => iff_of_false id ?_
        · intro _ new same _
          cases same
          decide
        · rw [position]
          exact id
  | mirrorRead outcome projection readOk => exact tending_mirrorRead tending careful happens
  | mirrorWrite now stored => exact tending_mirrorWrite tending careful happens

theorem tending_step (tending : world.Tending) (careful : world.Careful action)
    (stepped : lane.step world action = some next) : next.Tending := by
  simp only [lane, Option.map_eq_some_iff] at stepped
  rcases stepped with ⟨effect, happens, rfl⟩
  exact tending_effect tending careful happens

theorem tending_initial : World.initial.Tending where
  held := Queue.held_initial
  owned _ owner := by contradiction
  keyed _ jobMem := by contradiction
  begun jid used := by
    rcases used with (⟨_, jobMem, _⟩ | ⟨_, owner, _⟩) | ⟨_, position⟩ <;> contradiction
  alone _ handed := by
    rcases handed with ⟨_, position⟩
    contradiction
  sole _ _ _ position := by contradiction
  mirror _ _ _ writing := by contradiction
  tended _ imports := by contradiction

end Steps

theorem tending_run {actions : List Action} {after : World}
    (run : lane.RunWhere World.Careful .initial actions after) : after.Tending :=
  run.preserves _ (fun _ _ _ tending careful stepped => tending_step tending careful stepped)
    tending_initial

/-- In every careful run, an importing row that no thread is handing over has a worker
job of its id that is queued, running or cancelling. -/
theorem importing_tended {actions : List Action} {after : World} {jid : String}
    (run : lane.RunWhere World.Careful .initial actions after) (imports : after.Imports jid)
    (settled : ¬after.HandsOver jid) : after.HasWorkerJob jid := by
  rcases (tending_run run).tended jid imports with handed | ⟨job, jobMem, backs, active, _⟩
  · exact absurd handed settled
  · exact ⟨job, jobMem, backs.2, active⟩

/-! ## A reconcile pass -/

/-- A step of the poll in one thread. -/
def Action.PollsIn (thread : Nat) : Action → Prop
  | .poll other | .skip other | .restoreReview other .. | .capture other .. | .status other _
  | .decide other .. | .ingest other .. | .enqueue other .. | .revert other .. => other = thread
  | _ => False

/-- The poll has the row in its list as importing only, and works on another. -/
def Thread.PassesOver (jid : String) : Thread → Prop
  | .idle => True
  | .polling listed => ∀ job ∈ listed, job.jid = jid → job.state = .importing
  | .captured job listed | .deciding job _ listed | .ingesting job listed
  | .handingOver job _ listed | .reverting job listed =>
      job.jid ≠ jid ∧ ∀ job ∈ listed, job.jid = jid → job.state = .importing
  | .cancelling .. => False

section Pass

variable {world next : World} {action : Action} {effect : Effect} {write : Write}
variable {thread : Nat} {jid : String}

/-- The row an update returns has the id that was updated. -/
theorem updated_jid {row : BackendJob}
    (updated : (RowOp.apply world.rows (.update write)).2 = some row) : row.jid = write.jid := by
  simp only [RowOp.apply, updateBackendJob] at updated
  split at updated
  · exact (Registry.find?_eq_some.mp updated).2
  · contradiction

/-- A write to another row leaves this one. -/
theorem imports_other (same : effect.op = some (.update write)) (differs : write.jid ≠ jid)
    (imports : world.Imports jid) : (world.perform effect).Imports jid := by
  rw [World.Imports, stateOf_perform same, if_neg (fun both => differs both.2.symm)]
  exact imports

/-- A step of the thread that moves to a position passing over the row. -/
theorem passes_update {position : Thread} (passes : position.PassesOver jid) :
    (Function.update world.threads thread position thread).PassesOver jid := by
  rwa [Function.update_self]

/-- A decided row is not the importing one. -/
theorem decided_passesOver {newState : BackendState} {status : BackendJobStatus}
    {listed : List BackendJob} {job : BackendJob} (other : job.jid ≠ jid)
    (rest : ∀ job ∈ listed, job.jid = jid → job.state = .importing) :
    (Thread.decided newState status listed job).PassesOver jid := by
  simp only [Thread.decided]
  split
  · exact ⟨other, rest⟩
  · exact rest

theorem pass_effect (imports : world.Imports jid)
    (passes : (world.threads thread).PassesOver jid) (polls : action.PollsIn thread)
    (happens : world.effect action = some effect) :
    (world.perform effect).Imports jid ∧
      ((world.perform effect).threads thread).PassesOver jid := by
  cases action with
  | poll other =>
      cases polls
      simp only [World.effect] at happens
      split at happens
      case h_2 => contradiction
      cases happens
      refine ⟨imports, passes_update ?_⟩
      intro job listed same
      rcases mem_listActiveBackendJobs listed with ⟨jobMem, _⟩
      have found : world.rows.find? jid = some job := Registry.find?_eq_some.mpr ⟨jobMem, same⟩
      rw [World.Imports, stateOf, found] at imports
      exact Option.some.inj imports
  | skip other =>
      cases polls
      simp only [World.effect] at happens
      split at happens
      case h_3 => contradiction
      · cases happens
        exact ⟨imports, passes_update trivial⟩
      · next position =>
          cases happens
          rw [position] at passes
          exact ⟨imports, passes_update fun job listed => passes job (List.mem_cons_of_mem _ listed)⟩
  | restoreReview other displayName now stored =>
      cases polls
      simp only [World.effect] at happens
      split at happens
      case h_2 => contradiction
      next job listed position =>
        split at happens
        case isFalse => contradiction
        next review =>
          rw [position] at passes
          have rest : ∀ job ∈ listed, job.jid = jid → job.state = .importing :=
            fun job listed => passes job (List.mem_cons_of_mem _ listed)
          have differs : job.jid ≠ jid := by
            intro same
            rw [passes job List.mem_cons_self same] at review
            contradiction
          split at happens <;> cases happens
          · exact ⟨imports, passes_update rest⟩
          · exact ⟨imports_other rfl differs imports, passes_update rest⟩
  | capture other albumId now stored =>
      cases polls
      simp only [World.effect] at happens
      split at happens
      case h_2 => contradiction
      next job listed position =>
        split at happens
        case isTrue => contradiction
        next taken =>
          rw [position] at passes
          have rest : ∀ job ∈ listed, job.jid = jid → job.state = .importing :=
            fun job listed => passes job (List.mem_cons_of_mem _ listed)
          have differs : job.jid ≠ jid := by
            intro same
            simp [BackendJob.passedOver, passes job List.mem_cons_self same] at taken
          split at happens <;> cases happens
          · refine ⟨imports_other rfl differs imports, passes_update ⟨?_, rest⟩⟩
            simp only [Option.map_some, Option.bind_some]
            cases updated : (RowOp.apply world.rows _).2 with
            | none => exact differs
            | some row => exact (updated_jid updated).symm ▸ differs
          · exact ⟨imports, passes_update ⟨differs, rest⟩⟩
  | status other status =>
      cases polls
      simp only [World.effect] at happens
      split at happens
      case h_2 => contradiction
      next job listed position =>
        rw [position] at passes
        split at happens <;> cases happens
        · exact ⟨imports, passes_update passes.2⟩
        · exact ⟨imports, passes_update passes⟩
  | decide other now stored =>
      cases polls
      simp only [World.effect] at happens
      split at happens
      case h_2 => contradiction
      next job status listed position =>
        rw [position] at passes
        split at happens <;> cases happens
        · refine ⟨imports_other rfl passes.1 imports, passes_update ?_⟩
          simp only [Option.map_some, Option.bind_some]
          cases updated : (RowOp.apply world.rows _).2 with
          | none => exact passes.2
          | some row =>
              exact decided_passesOver ((updated_jid updated).symm ▸ passes.1) passes.2
        · exact ⟨imports, passes_update (decided_passesOver passes.1 passes.2)⟩
  | ingest other root relpath now stored =>
      cases polls
      simp only [World.effect] at happens
      split at happens
      case h_2 => contradiction
      next job listed position =>
        rw [position] at passes
        split at happens <;> cases happens
        · exact ⟨imports, passes_update passes.2⟩
        · refine ⟨imports_other rfl passes.1 imports, passes_update ?_⟩
          generalize Option.bind _ _ = updated
          cases updated
          · exact passes.2
          · exact passes
  | enqueue other now stored =>
      cases polls
      simp only [World.effect] at happens
      split at happens
      case h_2 => contradiction
      next job rel listed position =>
        rw [position] at passes
        split at happens <;> cases happens
        · refine ⟨imports, passes_update ?_⟩
          split
          · exact passes.2
          · exact passes
        · exact ⟨imports, passes_update passes⟩
  | revert other now stored =>
      cases polls
      simp only [World.effect] at happens
      split at happens
      case h_2 => contradiction
      next job listed position =>
        rw [position] at passes
        cases happens
        exact ⟨imports_other rfl passes.1 imports, passes_update passes.2⟩
  | _ => exact polls.elim

/-- No reconcile pass moves an importing row: the poll of a thread that was idle leaves it
importing, whatever the backend answers. -/
theorem pass_leaves_importing {before after : World} {actions : List Action}
    (run : lane.RunWhere (fun _ action => action.PollsIn thread) before actions after)
    (idle : before.threads thread = .idle) (imports : before.Imports jid) :
    after.Imports jid := by
  have kept := run.preserves
    (fun world => world.Imports jid ∧ (world.threads thread).PassesOver jid) ?step ?start
  case start => exact ⟨imports, by rw [idle]; trivial⟩
  case step =>
    intro world action next invariant polls stepped
    simp only [lane, Option.map_eq_some_iff] at stepped
    rcases stepped with ⟨effect, happens, rfl⟩
    exact pass_effect invariant.1 invariant.2 polls happens
  exact kept.1

/-- The row is looked after: it has a worker job, or a reconcile pass by an idle thread moves it
out of `importing`. -/
def World.Attended (world : World) (jid : String) : Prop :=
  world.HasWorkerJob jid ∨ ∃ thread actions after, world.threads thread = .idle ∧
    lane.RunWhere (fun _ action => action.PollsIn thread) world actions after ∧
    ¬after.Imports jid

/-- Without a worker job an importing row is unattended. -/
theorem not_attended (imports : world.Imports jid) (jobless : ¬world.HasWorkerJob jid) :
    ¬world.Attended jid := by
  rintro (job | ⟨thread, actions, after, idle, run, moved⟩)
  · exact jobless job
  · exact moved (pass_leaves_importing run idle imports)

end Pass

/-- A completed download is about to be handed over. -/
def completedDownload : List Action :=
  [.create "3f2a" "sab_usenet_backend" "backend" (some "SABnzbd_nzo_1") none 1,
    .poll 0, .capture 0 none 2 true,
    .status 0 (some { state := .completed, completedPath := some "/dl/a", displayName := none }),
    .decide 0 3 true, .ingest 0 "/dl" (some "a") 4 true]

/-- The process is killed between the `importing` write and the enqueue, and started
again. -/
def killedHandover : List Action :=
  completedDownload ++ [.queue .kill, .queue (.importStart 10 none)]

/-- The row is importing without a worker job, and stays so. -/
theorem importing_orphaned : ∃ after : World, lane.Run .initial killedHandover after ∧
    after.Imports "3f2a" ∧ ¬after.Attended "3f2a" := by
  have ends : (lane.exec .initial killedHandover).map (fun world =>
      (stateOf world.rows "3f2a", world.queue.db.jobs.rows)) =
      some (some .importing, []) := by decide +kernel
  rcases Option.map_eq_some_iff.mp ends with ⟨after, executed, columns⟩
  simp only [Prod.mk.injEq] at columns
  refine ⟨after, Machine.run_of_exec executed, columns.1, not_attended columns.1 ?_⟩
  rintro ⟨job, jobMem, _⟩
  rw [columns.2] at jobMem
  contradiction

/-- A check that a step is careful, for the steps that only a poll's write can make
careless. -/
def World.pollsEarly (world : World) (action : Action) : Bool :=
  match action with
  | .create .. | .poll _ | .capture .. | .status .. | .decide .. | .ingest .. | .enqueue .. =>
      (world.effect action).all fun effect =>
        effect.write?.all fun write => (stateOf world.rows write.jid).all (·.Early)
  | _ => false

theorem careful_of_pollsEarly {world : World} {action : Action}
    (early : world.pollsEarly action = true) : world.Careful action := by
  have polls : ∀ effect write, world.effect action = some effect →
      effect.op = some (.update write) → ∀ state, stateOf world.rows write.jid = some state →
      state.Early := by
    intro effect write happens same state stored
    have write_eq : effect.write? = some write := by rw [Effect.write?, same]
    cases action <;> simp only [World.pollsEarly, happens, Option.all_some, write_eq, stored,
      decide_eq_true_eq, reduceCtorEq] at early <;> exact early
  constructor
  case polls => exact fun effect write happens same _ _ _ => polls effect write happens same
  all_goals
    intros
    subst_eqs

/-- A hand-over without disturbance: the row has the job enqueued for it. -/
theorem importing_tended_completedDownload : ∃ after : World,
    after.Imports "3f2a" ∧ after.HasWorkerJob "3f2a" := by
  have ends : ((lane.restrict fun world action => world.pollsEarly action = true).exec .initial
      (completedDownload ++ [.enqueue 0 5 true])).map (fun world =>
      (stateOf world.rows "3f2a", world.queue.db.jobs.rows.map fun job =>
        (job.type, job.jid, job.state))) =
      some (some .importing, [("backend_completed_grab", "3f2a", .queued)]) := by decide +kernel
  rcases Option.map_eq_some_iff.mp ends with ⟨after, executed, columns⟩
  simp only [Prod.mk.injEq] at columns
  have run : lane.RunWhere World.Careful .initial _ after :=
    (Machine.runWhere_of_exec executed).imp fun _ _ _ early => careful_of_pollsEarly early
  have settled : ¬after.HandsOver "3f2a" := by
    intro handed
    apply (tending_run run).alone "3f2a" handed
    have jobMem : ("backend_completed_grab", "3f2a", Queue.JobState.queued) ∈
        after.queue.db.jobs.rows.map fun job => (job.type, job.jid, job.state) := by
      simp [columns.2]
    rcases List.mem_map.mp jobMem with ⟨job, jobMem, same⟩
    simp only [Prod.mk.injEq] at same
    exact Or.inl ⟨job, jobMem, ⟨same.1, same.2.1⟩, same.2.2 ▸ Queue.JobState.active_queued⟩
  exact ⟨after, columns.1, importing_tended run columns.1 settled⟩

end Mintarr.Backend
