import Mintarr.Queue.Dedupe
import Mintarr.Sab.Jobs

/-!
# The handlers of `addurl`

A handler looks for an active job with its dedupe key, publishes an entry in `_jobs`, enqueues
a job, which looks for the key again, and reads the job back: where it is another request's,
the handler withdraws its own entry.  Each of these is one step, and between them other
handlers, the workers and the other writers of `_jobs` take theirs.  The database does not
fail, and neither a handler nor the process ends early.
-/

namespace Mintarr.Sab

open Lib Queue JobState

/-! ## Requests -/

/-- `str` of a scalar. -/
def scalarText : Scalar → String
  | .null => "None"
  | .int value => toString value
  | .str value => value

/-- An `addurl` request that `_addurl_canonicalize` has accepted. -/
structure Request where
  source : String
  /-- The end of the dedupe key: an album id, or the hash of a source id. -/
  item : String
  sourceId : Scalar
  title : String
  category : String
  size : Nat

def Request.dedupeKey (request : Request) : String := request.source ++ ":" ++ request.item

/-- What the handler enqueues. -/
def Request.enqueue (request : Request) (jid : String) : EnqueueRequest where
  jid
  type := request.source ++ "_grab"
  payload :=
    [("source_id", request.sourceId), ("title", .str request.title),
      ("category", .str request.category)]
  dedupeKey := some request.dedupeKey
  sourceType := some request.source
  sourceId := some (scalarText request.sourceId)

/-- Where a handler stands. -/
inductive RequestPc where
  | canonicalized
  /-- `find_active_job_by_dedupe` found nothing. -/
  | missed
  | published (jid : String)
  | enqueued (jid : String) (jobId : Nat)
  /-- The job that was read back belongs to `existing`. -/
  | redundant (jid existing : String)
  | answered (jid : String)

/-- The handler has not yet found or enqueued a job. -/
def RequestPc.undecided : RequestPc → Bool
  | .canonicalized | .missed | .published _ => true
  | .enqueued .. | .redundant .. | .answered _ => false

/-- The entry that a handler under way has published. -/
def RequestPc.ownEntry : RequestPc → Option String
  | .published jid | .enqueued jid _ | .redundant jid _ => some jid
  | .canonicalized | .missed | .answered _ => none

/-! ## The machine -/

/-- The queue with its worker, `_jobs`, and the handlers. -/
structure Grabs where
  world : World
  jobs : Jobs
  requests : List (Request × RequestPc)

/-- What happens. -/
inductive GrabAction where
  | arrive (request : Request)
  | check (index : Nat)
  | publish (index : Nat) (jid : String) (now : Time)
  | enqueue (index : Nat) (now : Time)
  | reread (index : Nat)
  | withdraw (index : Nat) (now : Time)
  /-- The workers and the other users of the queue. -/
  | queue (action : Queue.Action)
  /-- The other writers of `_jobs`, which make entries for worker jobs only. -/
  | write (writer : Writer) (jid : String) (now : Time)

/-- The update makes an entry where there is none. -/
def Update.creates : Update → Bool
  | .publish _ | .setdefault .. => true
  | .withdraw | .update _ => false

namespace Grabs

/-- A download has a worker job. -/
def hasJob (state : Grabs) (jid : String) : Bool :=
  state.world.db.jobs.rows.any fun job => job.jid = jid

/-- A handler moves on. -/
def move (state : Grabs) (index : Nat) (request : Request) (pc : RequestPc) : Grabs :=
  { state with requests := state.requests.set index (request, pc) }

/-- After `find_active_job_by_dedupe`. -/
def checked (request : Request) (db : Db) : RequestPc :=
  match findActiveJobByDedupe request.dedupeKey db with
  | some job => if job.jid = "" then .missed else .answered job.jid
  | none => .missed

/-- After `get_job`. -/
def reread (jid : String) (jobId : Nat) (db : Db) : RequestPc :=
  match db.jobs.find? jobId with
  | some job => if job.jid ≠ "" ∧ job.jid ≠ jid then .redundant jid job.jid else .answered jid
  | none => .answered jid

/-- One step. -/
def step (state : Grabs) : GrabAction → Option Grabs
  | .arrive request =>
      some { state with requests := state.requests ++ [(request, .canonicalized)] }
  | .check index =>
      match state.requests[index]? with
      | some (request, .canonicalized) =>
          some (state.move index request (checked request state.world.db))
      | _ => none
  | .publish index jid now =>
      match state.requests[index]? with
      | some (request, .missed) =>
          if jid = "" then none
          else
            let writer := Writer.addurl request.category request.title request.size
            some
              { state.move index request (.published jid) with
                jobs := (writer.update jid now).apply jid state.jobs }
      | _ => none
  | .enqueue index now =>
      match state.requests[index]? with
      | some (request, .published jid) =>
          -- nothing comes back only where the database fails
          match (enqueueJob (request.enqueue jid) now state.world.db).2 with
          | some jobId =>
              (workers.step state.world (.enqueueJob (request.enqueue jid) now)).map fun world =>
                { state.move index request (.enqueued jid jobId) with world }
          | none => none
      | _ => none
  | .reread index =>
      match state.requests[index]? with
      | some (request, .enqueued jid jobId) =>
          some (state.move index request (reread jid jobId state.world.db))
      | _ => none
  | .withdraw index now =>
      match state.requests[index]? with
      | some (request, .redundant jid existing) =>
          some
            { state.move index request (.answered existing) with
              jobs := (Writer.dedupeHit.update jid now).apply jid state.jobs }
      | _ => none
  | .queue action =>
      match action with
      | .kill => none
      | action => (workers.step state.world action).map fun world => { state with world }
  | .write writer jid now =>
      if (writer.update jid now).creates && !state.hasJob jid then none
      else some { state with jobs := (writer.update jid now).apply jid state.jobs }

end Grabs

/-- The machine of the handlers. -/
def grabs : Machine Grabs GrabAction where
  step := Grabs.step

/-- A job with this id is active for the key. -/
def Grabs.ActiveFor (state : Grabs) (jobId : Nat) (key : String) : Prop :=
  ∃ job ∈ state.world.db.jobs.rows,
    job.id = jobId ∧ job.dedupeKey = some key ∧ job.state.Active

/-- A process at work before the first request: keys are unique, and every job has a name. -/
structure Grabs.Ready (state : Grabs) : Prop where
  idle : state.requests = []
  unique : ∀ key, key ≠ "" → key ≠ libraryScanDedupeKey → state.world.db.UniqueActiveKey key
  named : ∀ job ∈ state.world.db.jobs.rows, job.jid ≠ ""

/-! ## What the queue keeps -/

/-- The jobs are still there, with their names and keys. -/
def Kept (before after : Db) : Prop :=
  ∀ job ∈ before.jobs.rows, ∃ next ∈ after.jobs.rows,
    next.id = job.id ∧ next.jid = job.jid ∧ next.dedupeKey = job.dedupeKey

theorem Kept.refl (db : Db) : Kept db db := by
  intro job jobMem
  exact ⟨job, jobMem, rfl, rfl, rfl⟩

/-- What holds of the jobs between the steps of the handlers. -/
structure Orderly (db : Db) : Prop where
  unique : ∀ key, key ≠ "" → key ≠ libraryScanDedupeKey → db.UniqueActiveKey key
  named : ∀ job ∈ db.jobs.rows, job.jid ≠ ""

/-- A critical section names the jobs that it inserts. -/
theorem named_apply (op : Op) {db : Db} (named : ∀ job ∈ db.jobs.rows, job.jid ≠ "") :
    ∀ job ∈ (op.apply db).jobs.rows, job.jid ≠ "" := by
  intro next nextMem
  rcases (op.evolves db).back next nextMem with ⟨job, jobMem, _, move⟩ | ⟨_, inserts⟩
  · have same : next.jid = job.jid := congrArg Work.jid move.work
    rw [same]
    exact named job jobMem
  · cases op with
    | enqueueJob request now =>
        intro nameless
        have unnamed : request.jid = "" := by
          rw [inserts.1] at nameless
          exact nameless
        simp only [Op.apply, enqueueJob, unnamed, true_or, if_true] at nextMem
        exact named next nextMem nameless
    | enqueueLibraryScan mode requestedBy now cut =>
        rw [inserts.1]
        intro nameless
        have text := congrArg String.toList nameless
        simp [scanJob, ToString.toString] at text
    | _ => exact inserts.elim

/-- A critical section keeps the jobs in order. -/
theorem Orderly.apply {db : Db} (orderly : Orderly db) (op : Op) : Orderly (op.apply db) where
  unique key nonempty apart := by
    refine Op.uniqueActiveKey ?_ (orderly.unique key nonempty apart)
    intro inserted inserts insertedKey
    cases op with
    | enqueueJob request now =>
        exact enqueueJob_insertsUnused request now db inserted inserts key nonempty insertedKey
    | enqueueLibraryScan mode requestedBy now cut =>
        rw [inserts.1] at insertedKey
        exact absurd (Option.some.inj insertedKey).symm apart
    | _ => exact inserts.elim
  named := named_apply op orderly.named

/-- A critical section loses no job. -/
theorem kept_apply (op : Op) (db : Db) : Kept db (op.apply db) := by
  intro job jobMem
  obtain ⟨next, nextMem, nextId, move⟩ := (op.evolves db).forth job jobMem
  exact ⟨next, nextMem, nextId, congrArg Work.jid move.work, move.dedupeKey⟩

/-- So neither does a step of the process. -/
theorem kept_workers {world next : World} {action : Queue.Action}
    (worked : workers.step world action = some next) :
    Kept world.db next.db ∧ (Orderly world.db → Orderly next.db) := by
  obtain ⟨effect, _, rfl⟩ := workers_step worked
  cases ran : effect.op with
  | none =>
      simp only [World.perform, ran, Option.elim_none]
      exact ⟨.refl _, id⟩
  | some op =>
      simp only [World.perform, ran, Option.elim_some]
      exact ⟨kept_apply op world.db, fun orderly => orderly.apply op⟩

/-! ## What a step can do -/

/-- The steps, with what they rest on. -/
inductive Grabs.Steps (state : Grabs) : GrabAction → Grabs → Prop
  | arrive (request : Request) : Grabs.Steps state (.arrive request)
      { state with requests := state.requests ++ [(request, .canonicalized)] }
  | check {index : Nat} {request : Request}
      (here : state.requests[index]? = some (request, .canonicalized)) :
      Grabs.Steps state (.check index)
        (state.move index request (Grabs.checked request state.world.db))
  | publish {index : Nat} {request : Request} {jid : String} {now : Time}
      (here : state.requests[index]? = some (request, .missed)) (named : jid ≠ "") :
      Grabs.Steps state (.publish index jid now)
        { state.move index request (.published jid) with
          jobs := ((Writer.addurl request.category request.title request.size).update jid
            now).apply jid state.jobs }
  | enqueue {index jobId : Nat} {request : Request} {jid : String} {now : Time} {world : World}
      (here : state.requests[index]? = some (request, .published jid))
      (enqueued : (enqueueJob (request.enqueue jid) now state.world.db).2 = some jobId)
      (worked : workers.step state.world (.enqueueJob (request.enqueue jid) now) = some world) :
      Grabs.Steps state (.enqueue index now)
        { state.move index request (.enqueued jid jobId) with world }
  | reread {index jobId : Nat} {request : Request} {jid : String}
      (here : state.requests[index]? = some (request, .enqueued jid jobId)) :
      Grabs.Steps state (.reread index)
        (state.move index request (Grabs.reread jid jobId state.world.db))
  | withdraw {index : Nat} {request : Request} {jid existing : String} {now : Time}
      (here : state.requests[index]? = some (request, .redundant jid existing)) :
      Grabs.Steps state (.withdraw index now)
        { state.move index request (.answered existing) with
          jobs := (Writer.dedupeHit.update jid now).apply jid state.jobs }
  | queue {action : Queue.Action} {world : World}
      (worked : workers.step state.world action = some world) :
      Grabs.Steps state (.queue action) { state with world }
  | write {writer : Writer} {jid : String} {now : Time}
      (allowed : (writer.update jid now).creates = true → state.hasJob jid = true) :
      Grabs.Steps state (.write writer jid now)
        { state with jobs := (writer.update jid now).apply jid state.jobs }

/-- Every step is one of them. -/
theorem Grabs.step_cases {state next : Grabs} {action : GrabAction}
    (stepped : state.step action = some next) : state.Steps action next := by
  cases action with
  | arrive request =>
      cases stepped
      exact .arrive request
  | check index =>
      simp only [step] at stepped
      split at stepped
      · next request here =>
          cases stepped
          exact .check here
      · contradiction
  | publish index jid now =>
      simp only [step] at stepped
      split at stepped
      · next request here =>
          split_ifs at stepped with nameless
          cases stepped
          exact .publish here nameless
      · contradiction
  | enqueue index now =>
      simp only [step] at stepped
      split at stepped
      · next request jid here =>
          split at stepped
          · next jobId enqueued =>
              obtain ⟨world, worked, rfl⟩ := Option.map_eq_some_iff.mp stepped
              exact .enqueue here enqueued worked
          · contradiction
      · contradiction
  | reread index =>
      simp only [step] at stepped
      split at stepped
      · next request jid jobId here =>
          cases stepped
          exact .reread here
      · contradiction
  | withdraw index now =>
      simp only [step] at stepped
      split at stepped
      · next request jid existing here =>
          cases stepped
          exact .withdraw here
      · contradiction
  | queue action =>
      simp only [step] at stepped
      split at stepped
      · contradiction
      · obtain ⟨world, worked, rfl⟩ := Option.map_eq_some_iff.mp stepped
        exact .queue worked
  | write writer jid now =>
      simp only [step] at stepped
      split_ifs at stepped with forbidden
      cases stepped
      apply Grabs.Steps.write
      intro creates
      by_contra absent
      simp [creates, absent] at forbidden

/-- A step keeps the jobs, and their order. -/
theorem Grabs.Steps.kept {state next : Grabs} {action : GrabAction}
    (steps : state.Steps action next) :
    Kept state.world.db next.world.db ∧ (Orderly state.world.db → Orderly next.world.db) := by
  cases steps with
  | enqueue _ _ worked => exact kept_workers worked
  | queue worked => exact kept_workers worked
  | _ => exact ⟨.refl _, id⟩

end Mintarr.Sab
