import Mintarr.Sab.Requests

/-!
# One grab for a source item

A request decides on a job when it finds one or enqueues one, and the decision stands: it
answers with the name of this job.  While a job stays active for a key, every request for the
key decides on it.  The entry that a handler has published belongs to it until it has
answered, and then to a worker job.
-/

namespace Mintarr.Sab

open Lib Queue JobState

/-! ## What a handler decides -/

/-- How a handler moves, on a database. -/
inductive RequestPc.Moves (db : Db) (request : Request) : RequestPc → RequestPc → Prop
  | same (pc : RequestPc) : RequestPc.Moves db request pc pc
  | checked : RequestPc.Moves db request .canonicalized (Grabs.checked request db)
  | published (jid : String) : RequestPc.Moves db request .missed (.published jid)
  | enqueued {jid : String} {jobId : Nat} {now : Time}
      (result : (enqueueJob (request.enqueue jid) now db).2 = some jobId) :
      RequestPc.Moves db request (.published jid) (.enqueued jid jobId)
  | reread (jid : String) (jobId : Nat) :
      RequestPc.Moves db request (.enqueued jid jobId) (Grabs.reread jid jobId db)
  | withdrawn (jid existing : String) :
      RequestPc.Moves db request (.redundant jid existing) (.answered existing)

/-- Every handler moves. -/
theorem Grabs.Steps.forth {state next : Grabs} {action : GrabAction}
    (steps : state.Steps action next) {index : Nat} {request : Request} {old : RequestPc}
    (before : state.requests[index]? = some (request, old)) :
    ∃ new, next.requests[index]? = some (request, new) ∧
      RequestPc.Moves state.world.db request old new := by
  have moved : ∀ {other : Nat} {mine : Request} {pc new : RequestPc},
      state.requests[other]? = some (mine, pc) → RequestPc.Moves state.world.db mine pc new →
        ∃ moved, (state.requests.set other (mine, new))[index]? = some (request, moved) ∧
          RequestPc.Moves state.world.db request old moved := by
    intro other mine pc new here moves
    by_cases same : other = index
    · subst same
      rw [before] at here
      cases here
      have index_lt := (List.getElem?_eq_some_iff.mp before).1
      exact ⟨new, List.getElem?_set_self index_lt, moves⟩
    · refine ⟨old, ?_, .same old⟩
      rw [List.getElem?_set_ne same]
      exact before
  cases steps with
  | arrive arrived =>
      have index_lt := (List.getElem?_eq_some_iff.mp before).1
      refine ⟨old, ?_, .same old⟩
      rw [← before]
      exact List.getElem?_append_left index_lt
  | check here => exact moved here .checked
  | publish here named => exact moved here (.published _)
  | enqueue here enqueued worked => exact moved here (.enqueued enqueued)
  | reread here => exact moved here (.reread _ _)
  | withdraw here => exact moved here (.withdrawn _ _)
  | queue worked => exact ⟨old, before, .same old⟩
  | write allowed => exact ⟨old, before, .same old⟩

/-- A new handler has just canonicalised its request. -/
theorem Grabs.Steps.arrived {state next : Grabs} {action : GrabAction}
    (steps : state.Steps action next) {index : Nat} {request : Request} {pc : RequestPc}
    (absent : state.requests[index]? = none)
    (after : next.requests[index]? = some (request, pc)) : pc = .canonicalized := by
  have beyond : state.requests.length ≤ index := List.getElem?_eq_none_iff.mp absent
  have kept : ∀ {other : Nat} {entry : Request × RequestPc},
      (state.requests.set other entry)[index]? = some (request, pc) → pc = .canonicalized := by
    intro other entry found
    rw [List.getElem?_eq_none (by simpa using beyond)] at found
    contradiction
  cases steps with
  | arrive arrived =>
      rw [List.getElem?_append_right beyond] at after
      cases List.mem_singleton.mp (List.mem_of_getElem? after)
      rfl
  | check here => exact kept after
  | publish here named => exact kept after
  | enqueue here enqueued worked => exact kept after
  | reread here => exact kept after
  | withdraw here => exact kept after
  | queue worked =>
      rw [absent] at after
      contradiction
  | write allowed =>
      rw [absent] at after
      contradiction

/-- The handler has decided on a job, and answers with its name. -/
def RequestPc.decided (jobId : Nat) (jid : String) : RequestPc → Prop
  | .canonicalized | .missed | .published _ => False
  | .enqueued _ id => id = jobId
  | .redundant _ existing => existing = jid
  | .answered answer => answer = jid

/-- The job of a handler's decision. -/
abbrev Named (jobId : Nat) (jid : String) (db : Db) : Prop :=
  ∃ job ∈ db.jobs.rows, job.id = jobId ∧ job.jid = jid

theorem Kept.named {before after : Db} {jobId : Nat} {jid : String} (kept : Kept before after)
    (named : Named jobId jid before) : Named jobId jid after := by
  obtain ⟨job, jobMem, sameId, sameJid⟩ := named
  obtain ⟨next, nextMem, nextId, nextJid, _⟩ := kept job jobMem
  exact ⟨next, nextMem, nextId.trans sameId, nextJid.trans sameJid⟩

section Decisions

variable {db : Db} {request : Request} {jobId : Nat} {jid : String} {old new : RequestPc}

/-- A decision stands. -/
theorem RequestPc.Moves.decided (moves : RequestPc.Moves db request old new)
    (named : Named jobId jid db) (nonempty : jid ≠ "") (decided : old.decided jobId jid) :
    new.decided jobId jid := by
  cases moves with
  | same => exact decided
  | checked => exact decided.elim
  | published => exact decided.elim
  | enqueued => exact decided.elim
  | withdrawn => exact decided
  | reread own id =>
      obtain ⟨job, jobMem, sameId, sameJid⟩ := named
      have sameJob : id = jobId := decided
      have found : db.jobs.find? id = some job := by
        rw [Table.find?_eq_some]
        exact ⟨jobMem, sameId.trans sameJob.symm⟩
      simp only [Grabs.reread, found, sameJid]
      by_cases mine : jid = own
      · simp [mine, RequestPc.decided]
      · simp [mine, nonempty, RequestPc.decided]

/-- A key is never empty, and never that of the library scan. -/
theorem Request.dedupeKey_ne (request : Request) :
    request.dedupeKey ≠ "" ∧ request.dedupeKey ≠ libraryScanDedupeKey := by
  have colon : ':' ∈ request.dedupeKey.toList := by simp [Request.dedupeKey]
  constructor
  · intro empty
    rw [empty] at colon
    simp at colon
  · intro scan
    rw [scan] at colon
    simp [libraryScanDedupeKey] at colon

/-- What the lookup finds is active for the key. -/
theorem active_of_findActiveJobByDedupe {key : String} {job : Job}
    (found : findActiveJobByDedupe key db = some job) :
    job ∈ db.jobs.rows ∧ job.dedupeKey = some key ∧ job.state.Active := by
  simp only [findActiveJobByDedupe] at found
  split_ifs at found
  obtain ⟨jobMem, accepted⟩ := Table.mem_of_latest? found
  simp only [decide_eq_true_eq] at accepted
  exact ⟨jobMem, accepted⟩

/-- The job that the lookup finds for a key, where one is active. -/
theorem findActiveJobByDedupe_eq (orderly : Orderly db) {job : Job}
    (jobMem : job ∈ db.jobs.rows) (keyed : job.dedupeKey = some request.dedupeKey)
    (active : job.state.Active) :
    findActiveJobByDedupe request.dedupeKey db = some job := by
  obtain ⟨nonempty, apart⟩ := request.dedupeKey_ne
  cases found : findActiveJobByDedupe request.dedupeKey db with
  | none =>
      rcases findActiveJobByDedupe_eq_none.mp found with empty | absent
      · exact absurd empty nonempty
      · exact absurd active (absent job jobMem keyed)
  | some other =>
      obtain ⟨otherMem, otherKey, otherActive⟩ := active_of_findActiveJobByDedupe found
      have same := orderly.unique _ nonempty apart other otherMem job jobMem otherKey keyed
        otherActive active
      rw [same]

/-- While a job is active for the key, an open request decides on it. -/
theorem RequestPc.Moves.serves (moves : RequestPc.Moves db request old new)
    (orderly : Orderly db) {job : Job} (jobMem : job ∈ db.jobs.rows)
    (keyed : job.dedupeKey = some request.dedupeKey) (active : job.state.Active)
    (before : old.undecided = true ∨ old.decided job.id job.jid) :
    new.undecided = true ∨ new.decided job.id job.jid := by
  have nonempty := orderly.named job jobMem
  rcases before with undecided | decided
  · have found := findActiveJobByDedupe_eq orderly jobMem keyed active
    cases moves with
    | same => exact .inl undecided
    | checked =>
        right
        simp [Grabs.checked, found, nonempty, RequestPc.decided]
    | published => exact .inl rfl
    | enqueued result =>
        right
        simp only [enqueueJob, Request.enqueue, Option.bind_some, found] at result
        split_ifs at result
        exact (Option.some.inj result).symm
    | reread => contradiction
    | withdrawn => contradiction
  · exact .inr (moves.decided ⟨job, jobMem, rfl, rfl⟩ nonempty decided)

end Decisions

/-! ## Runs -/

section Runs

variable {start mid finish : Grabs} {labels : List GrabAction}

theorem Grabs.Ready.orderly (ready : start.Ready) : Orderly start.world.db :=
  ⟨ready.unique, ready.named⟩

/-- The jobs stay in order. -/
theorem orderly_run {guard : Grabs → GrabAction → Prop}
    (run : grabs.RunWhere guard start labels finish) (orderly : Orderly start.world.db) :
    Orderly finish.world.db := by
  apply run.preserves fun state => Orderly state.world.db
  · intro state action next before _ stepped
    exact (Grabs.step_cases stepped).kept.2 before
  · exact orderly

/-- A decision stands to the end of a run. -/
theorem decided_run (run : grabs.Run start labels finish) {index jobId : Nat} {jid : String}
    {request : Request} {pc : RequestPc} (nonempty : jid ≠ "")
    (named : Named jobId jid start.world.db)
    (here : start.requests[index]? = some (request, pc)) (decided : pc.decided jobId jid) :
    ∃ last, finish.requests[index]? = some (request, last) ∧ last.decided jobId jid := by
  induction run generalizing pc with
  | nil state => exact ⟨pc, here, decided⟩
  | cons _ stepped _ ih =>
      have steps := Grabs.step_cases stepped
      obtain ⟨new, there, moves⟩ := steps.forth here
      exact ih (steps.kept.1.named named) there (moves.decided named nonempty decided)

/-- Through a run in which a job stays active for the key, a request that is open at its
start decides on this job. -/
theorem serves_run {jobId index : Nat} {jid key : String}
    (run : grabs.RunWhere (fun state _ => state.ActiveFor jobId key) mid labels finish)
    (orderly : Orderly mid.world.db) (named : Named jobId jid mid.world.db)
    (before : ∀ request pc, mid.requests[index]? = some (request, pc) →
      request.dedupeKey = key → pc.undecided = true ∨ pc.decided jobId jid) :
    ∀ request pc, finish.requests[index]? = some (request, pc) →
      request.dedupeKey = key → pc.undecided = true ∨ pc.decided jobId jid := by
  induction run with
  | nil state => exact before
  | @cons state next finish action actions active stepped _ ih =>
      have steps := Grabs.step_cases stepped
      apply ih (steps.kept.2 orderly) (steps.kept.1.named named)
      intro request pc after keyed
      cases here : state.requests[index]? with
      | none =>
          rw [steps.arrived here after]
          exact .inl rfl
      | some entry =>
          obtain ⟨new, there, moves⟩ := steps.forth here
          rw [there] at after
          cases after
          obtain ⟨job, jobMem, rfl, jobKey, jobActive⟩ := active
          obtain ⟨same, sameMem, sameId, rfl⟩ := named
          have same_eq := Table.eq_of_key_eq sameMem jobMem sameId
          rw [same_eq] at before ⊢
          rw [← keyed] at jobKey
          exact moves.serves orderly jobMem jobKey jobActive (before _ _ here keyed)

/-! ## The entries -/

/-- Every new entry belongs to a job, or to a handler under way. -/
structure Accounted (old : Jobs) (state : Grabs) : Prop where
  entries : ∀ jid, (state.jobs.find? jid).isSome = true →
    (old.find? jid).isSome = true ∨ state.hasJob jid = true ∨
      ∃ (index : Nat) (request : Request) (pc : RequestPc),
        state.requests[index]? = some (request, pc) ∧ pc.ownEntry = some jid
  enqueued : ∀ (index : Nat) (request : Request) (jid : String) (jobId : Nat),
    state.requests[index]? = some (request, .enqueued jid jobId) →
      ∃ job ∈ state.world.db.jobs.rows, job.id = jobId

theorem hasJob_iff {state : Grabs} {jid : String} :
    state.hasJob jid = true ↔ ∃ job ∈ state.world.db.jobs.rows, job.jid = jid := by
  simp [Grabs.hasJob]

/-- The result of `enqueue_job` is a job of the key, and active. -/
theorem enqueueJob_active {request : Request} {jid : String} {now : Time} {db : Db}
    {jobId : Nat} (result : (enqueueJob (request.enqueue jid) now db).2 = some jobId) :
    ∃ job ∈ (enqueueJob (request.enqueue jid) now db).1.jobs.rows,
      job.id = jobId ∧ job.dedupeKey = some request.dedupeKey ∧ job.state.Active := by
  unfold enqueueJob at result ⊢
  split_ifs at result ⊢ with invalid
  simp only [Request.enqueue, Option.bind_some] at result ⊢
  cases found : findActiveJobByDedupe request.dedupeKey db with
  | some job =>
      obtain ⟨jobMem, keyed, active⟩ := active_of_findActiveJobByDedupe found
      simp only [found, Option.some.injEq] at result ⊢
      exact ⟨job, jobMem, result, keyed, active⟩
  | none =>
      simp only [found, Option.some.injEq] at result ⊢
      exact ⟨_, Table.mem_insert.mpr (.inr rfl), result, rfl, active_queued⟩

/-- Jobs that stay still have their names. -/
theorem Kept.hasJob {state next : Grabs} {jid : String}
    (kept : Kept state.world.db next.world.db) (there : state.hasJob jid = true) :
    next.hasJob jid = true := by
  rw [hasJob_iff] at there ⊢
  obtain ⟨job, jobMem, sameJid⟩ := there
  obtain ⟨later, laterMem, _, laterJid, _⟩ := kept job jobMem
  exact ⟨later, laterMem, laterJid.trans sameJid⟩

/-- The move of one handler keeps the account. -/
theorem Accounted.moved {old : Jobs} {state next : Grabs} (accounted : Accounted old state)
    (kept : Kept state.world.db next.world.db) {index : Nat} {request : Request}
    {pc new : RequestPc} (here : state.requests[index]? = some (request, pc))
    (requests : next.requests = state.requests.set index (request, new))
    (entries : ∀ jid, (next.jobs.find? jid).isSome = true →
      new.ownEntry = some jid ∨ next.hasJob jid = true ∨
        ((state.jobs.find? jid).isSome = true ∧ pc.ownEntry ≠ some jid))
    (enqueued : ∀ jid jobId, new = .enqueued jid jobId →
      ∃ job ∈ next.world.db.jobs.rows, job.id = jobId) : Accounted old next := by
  have index_lt := (List.getElem?_eq_some_iff.mp here).1
  have mine : next.requests[index]? = some (request, new) := by
    rw [requests]
    exact List.getElem?_set_self index_lt
  constructor
  · intro jid present
    rcases entries jid present with published | job | ⟨before, differs⟩
    · exact .inr (.inr ⟨index, request, new, mine, published⟩)
    · exact .inr (.inl job)
    · rcases accounted.entries jid before with first | job | ⟨other, theirs, theirPc, there, entry⟩
      · exact .inl first
      · exact .inr (.inl (kept.hasJob job))
      · by_cases same : index = other
        · subst same
          rw [here] at there
          cases there
          exact absurd entry differs
        · refine .inr (.inr ⟨other, theirs, theirPc, ?_, entry⟩)
          rw [requests, List.getElem?_set_ne same]
          exact there
  · intro other theirs jid jobId there
    by_cases same : index = other
    · subst same
      rw [mine] at there
      cases there
      exact enqueued jid jobId rfl
    · rw [requests, List.getElem?_set_ne same] at there
      obtain ⟨job, jobMem, sameId⟩ := accounted.enqueued other theirs jid jobId there
      obtain ⟨later, laterMem, laterId, _⟩ := kept job jobMem
      exact ⟨later, laterMem, laterId.trans sameId⟩

/-- An update that creates nothing leaves only entries that were there. -/
theorem isSome_apply {jobs : Jobs} {update : Update} {jid other : String}
    (creates : update.creates = false)
    (present : ((update.apply jid jobs).find? other).isSome = true) :
    (jobs.find? other).isSome = true := by
  by_cases mine : other = jid
  · subst mine
    cases update with
    | publish entry => contradiction
    | setdefault initial fields => contradiction
    | withdraw => simp [Update.apply, Registry.find?_remove] at present
    | update fields => simpa [find?_update] using present
  · rwa [find?_apply_ne mine] at present

/-- A step that leaves the handlers keeps the account. -/
theorem Accounted.unmoved {old : Jobs} {state next : Grabs} (accounted : Accounted old state)
    (kept : Kept state.world.db next.world.db) (requests : next.requests = state.requests)
    (entries : ∀ jid, (next.jobs.find? jid).isSome = true →
      next.hasJob jid = true ∨ (state.jobs.find? jid).isSome = true) : Accounted old next := by
  constructor
  · intro jid present
    rcases entries jid present with job | before
    · exact .inr (.inl job)
    · rcases accounted.entries jid before with first | job | handler
      · exact .inl first
      · exact .inr (.inl (kept.hasJob job))
      · rw [requests]
        exact .inr (.inr handler)
  · intro index request jid jobId there
    rw [requests] at there
    obtain ⟨job, jobMem, sameId⟩ := accounted.enqueued index request jid jobId there
    obtain ⟨later, laterMem, laterId, _⟩ := kept job jobMem
    exact ⟨later, laterMem, laterId.trans sameId⟩

/-- Every step keeps the account. -/
theorem Accounted.step {old : Jobs} {state next : Grabs} {action : GrabAction}
    (accounted : Accounted old state) (orderly : Orderly state.world.db)
    (steps : state.Steps action next) : Accounted old next := by
  have kept := steps.kept.1
  cases steps with
  | arrive request =>
      constructor
      · intro jid present
        rcases accounted.entries jid present with first | job | ⟨index, mine, pc, there, entry⟩
        · exact .inl first
        · exact .inr (.inl job)
        · refine .inr (.inr ⟨index, mine, pc, ?_, entry⟩)
          rw [← there]
          exact List.getElem?_append_left (List.getElem?_eq_some_iff.mp there).1
      · intro index mine jid jobId there
        rcases Nat.lt_or_ge index state.requests.length with before | beyond
        · rw [List.getElem?_append_left before] at there
          exact accounted.enqueued index mine jid jobId there
        · rw [List.getElem?_append_right beyond] at there
          cases List.mem_singleton.mp (List.mem_of_getElem? there)
  | check here =>
      apply accounted.moved kept here rfl
      · intro jid present
        exact .inr (.inr ⟨present, by simp [RequestPc.ownEntry]⟩)
      · intro jid jobId enqueued
        unfold Grabs.checked at enqueued
        split at enqueued
        · split_ifs at enqueued
        · contradiction
  | @publish index request own now here named =>
      apply accounted.moved kept here rfl
      · intro jid present
        by_cases mine : jid = own
        · rw [mine]
          exact .inl rfl
        · have before : (state.jobs.find? jid).isSome = true := by
            rw [← find?_apply_ne mine]
            exact present
          exact .inr (.inr ⟨before, by simp [RequestPc.ownEntry]⟩)
      · intro jid jobId enqueued
        contradiction
  | @enqueue index jobId request own now world here result worked =>
      apply accounted.moved kept here rfl
      · intro jid present
        by_cases mine : jid = own
        · rw [mine]
          exact .inl rfl
        · refine .inr (.inr ⟨present, ?_⟩)
          intro published
          exact mine (Option.some.inj published).symm
      · intro jid id enqueued
        cases enqueued
        obtain ⟨job, jobMem, sameId, _⟩ := enqueueJob_active result
        have world_db : world.db =
            (enqueueJob (request.enqueue own) now state.world.db).1 := by
          simp only [workers, World.effect, World.request, Option.map_some,
            Option.some.injEq] at worked
          rw [← worked]
          rfl
        refine ⟨job, ?_, sameId⟩
        rw [world_db]
        exact jobMem
  | @reread index jobId request own here =>
      apply accounted.moved kept here rfl
      · intro jid present
        by_cases mine : jid = own
        · subst mine
          obtain ⟨job, jobMem, sameId⟩ := accounted.enqueued index request jid jobId here
          have found : state.world.db.jobs.find? jobId = some job :=
            Table.find?_eq_some.mpr ⟨jobMem, sameId⟩
          simp only [Grabs.reread, found]
          split_ifs with lost
          · exact .inl rfl
          · right
            left
            rw [hasJob_iff]
            refine ⟨job, jobMem, ?_⟩
            by_contra differs
            exact lost ⟨orderly.named job jobMem, differs⟩
        · refine .inr (.inr ⟨present, ?_⟩)
          intro published
          exact mine (Option.some.inj published).symm
      · intro jid id enqueued
        unfold Grabs.reread at enqueued
        split at enqueued
        · split_ifs at enqueued
        · contradiction
  | @withdraw index request own existing now here =>
      apply accounted.moved kept here rfl
      · intro jid present
        have before := isSome_apply rfl present
        refine .inr (.inr ⟨before, ?_⟩)
        intro published
        cases published
        simp [Writer.update, Update.apply, Registry.find?_remove] at present
      · intro jid jobId enqueued
        contradiction
  | queue worked =>
      apply accounted.unmoved kept rfl
      intro jid present
      exact .inr present
  | @write writer own now allowed =>
      apply accounted.unmoved kept rfl
      intro jid present
      cases creates : (writer.update own now).creates with
      | false => exact .inr (isSome_apply creates present)
      | true =>
          by_cases mine : jid = own
          · rw [mine]
            exact .inl (allowed creates)
          · right
            rw [← find?_apply_ne mine]
            exact present

/-- The account holds at the end of every run. -/
theorem accounted_run (run : grabs.Run start labels finish) (ready : start.Ready) :
    Accounted start.jobs finish := by
  have both := run.preserves
    (fun state => Orderly state.world.db ∧ Accounted start.jobs state) ?step ?initially
  · exact both.2
  case step =>
    intro state action next before _ stepped
    have steps := Grabs.step_cases stepped
    exact ⟨steps.kept.2 before.1, before.2.step before.1 steps⟩
  case initially =>
    refine ⟨ready.orderly, ?_, ?_⟩
    · intro jid present
      exact .inl present
    · intro index request jid jobId there
      rw [ready.idle] at there
      simp at there

/-- `jid` is the name of the one job that is active for the key. -/
def OneActive (db : Db) (key jid : String) : Prop :=
  ∃ job ∈ db.jobs.rows, job.dedupeKey = some key ∧ job.state.Active ∧ job.jid = jid ∧
    ∀ other ∈ db.jobs.rows, other.dedupeKey = some key → other.state.Active → other = job

/-- A job that is active for a request is the only one. -/
theorem Orderly.oneActive {db : Db} (orderly : Orderly db) {request : Request} {job : Job}
    (jobMem : job ∈ db.jobs.rows) (keyed : job.dedupeKey = some request.dedupeKey)
    (active : job.state.Active) : OneActive db request.dedupeKey job.jid := by
  obtain ⟨nonempty, apart⟩ := request.dedupeKey_ne
  refine ⟨job, jobMem, keyed, active, rfl, ?_⟩
  intro other otherMem otherKey otherActive
  exact orderly.unique _ nonempty apart other otherMem job jobMem otherKey keyed otherActive active

/-- A request answers with the job that was active when it was enqueued. -/
theorem answers_enqueued {before after : List GrabAction} {next : Grabs} {index : Nat}
    {now : Time} {request : Request} {jid : String} (ready : start.Ready)
    (run : grabs.Run start before mid) (stepped : grabs.step mid (.enqueue index now) = some next)
    (rest : grabs.Run next after finish)
    (answered : finish.requests[index]? = some (request, .answered jid)) :
    OneActive next.world.db request.dedupeKey jid := by
  have enqueues : mid.step (.enqueue index now) = some next := stepped
  have steps := Grabs.step_cases enqueues
  have orderly := steps.kept.2 (orderly_run run ready.orderly)
  cases steps with
  | @enqueue _ jobId mine own _ world here result worked =>
      obtain ⟨job, jobMem, sameId, keyed, active⟩ := enqueueJob_active result
      have world_db : world.db = (enqueueJob (mine.enqueue own) now mid.world.db).1 := by
        simp only [workers, World.effect, World.request, Option.map_some,
          Option.some.injEq] at worked
        rw [← worked]
        rfl
      rw [← world_db] at jobMem
      have there := List.getElem?_set_self (a := (mine, RequestPc.enqueued own jobId))
        (List.getElem?_eq_some_iff.mp here).1
      obtain ⟨last, lastHere, decided⟩ := decided_run rest (orderly.named job jobMem)
        ⟨job, jobMem, sameId, rfl⟩ there rfl
      rw [answered] at lastHere
      cases lastHere
      have same : jid = job.jid := decided
      rw [same]
      exact orderly.oneActive jobMem keyed active

/-- A request that finds a job answers with it. -/
theorem answers_found {before : List GrabAction} {next : Grabs} {index : Nat}
    {request : Request} {jid : String} (ready : start.Ready) (run : grabs.Run start before mid)
    (stepped : grabs.step mid (.check index) = some next)
    (answered : next.requests[index]? = some (request, .answered jid)) :
    OneActive next.world.db request.dedupeKey jid := by
  have orderly := orderly_run run ready.orderly
  have checks : mid.step (.check index) = some next := stepped
  cases Grabs.step_cases checks with
  | @check _ mine here =>
      have there := List.getElem?_set_self (a := (mine, Grabs.checked mine mid.world.db))
        (List.getElem?_eq_some_iff.mp here).1
      have same := answered.symm.trans there
      rw [Option.some.injEq, Prod.mk.injEq] at same
      obtain ⟨rfl, checked⟩ := same
      unfold Grabs.checked at checked
      split at checked
      · next job found =>
          split_ifs at checked
          cases checked
          obtain ⟨jobMem, keyed, active⟩ := active_of_findActiveJobByDedupe found
          exact orderly.oneActive jobMem keyed active
      · contradiction

/-- One grab for a source item: a request answers with the job that was active for its key
when it enqueued one or found one; the requests that are served while a job stays active
answer with this job; and an entry of a request that has answered belongs to a worker job. -/
theorem one_grab_per_item (start : Grabs) (ready : start.Ready) :
    (∀ before mid (index : Nat) now next after finish (request : Request) (jid : String),
      grabs.Run start before mid → grabs.step mid (.enqueue index now) = some next →
        grabs.Run next after finish →
          finish.requests[index]? = some (request, .answered jid) →
            OneActive next.world.db request.dedupeKey jid) ∧
    (∀ before mid (index : Nat) next (request : Request) (jid : String),
      grabs.Run start before mid → grabs.step mid (.check index) = some next →
        next.requests[index]? = some (request, .answered jid) →
          OneActive next.world.db request.dedupeKey jid) ∧
    (∀ before mid within finish (index : Nat) (request : Request) (jid : String),
      grabs.Run start before mid →
        (∀ (mine : Request) (pc : RequestPc), mid.requests[index]? = some (mine, pc) →
          pc.undecided = true) →
          ∀ job ∈ mid.world.db.jobs.rows,
            grabs.RunWhere (fun state _ => state.ActiveFor job.id request.dedupeKey)
                mid within finish →
              finish.requests[index]? = some (request, .answered jid) → jid = job.jid) ∧
    (∀ labels finish, grabs.Run start labels finish →
      ∀ entry ∈ finish.jobs.rows, start.jobs.find? entry.id = none →
        (∀ (request : Request) (pc : RequestPc), (request, pc) ∈ finish.requests →
          pc.ownEntry ≠ some entry.id) →
          finish.hasJob entry.id = true) := by
  refine ⟨?_, ?_, ?_, ?_⟩
  · intro before mid index now next after finish request jid run stepped rest answered
    exact answers_enqueued ready run stepped rest answered
  · intro before mid index next request jid run stepped answered
    exact answers_found ready run stepped answered
  · intro before mid within finish index request jid run undecided job jobMem active answered
    have orderly := orderly_run run ready.orderly
    have served := serves_run active orderly ⟨job, jobMem, rfl, rfl⟩
      (fun mine pc here _ => .inl (undecided mine pc here)) request _ answered rfl
    rcases served with undecided | decided
    · contradiction
    · exact decided
  · intro labels finish run entry entryMem new answered
    have accounted := accounted_run run ready
    have present : (finish.jobs.find? entry.id).isSome = true := by
      rw [Registry.find?_eq_some.mpr ⟨entryMem, rfl⟩]
      rfl
    rcases accounted.entries entry.id present with
      old | job | ⟨index, request, pc, there, published⟩
    · rw [new] at old
      contradiction
    · exact job
    · exact absurd published (answered request pc (List.mem_of_getElem? there))

/-- A new installation. -/
def Grabs.initial : Grabs := ⟨.initial, .empty, []⟩

theorem Grabs.ready_initial : Grabs.initial.Ready where
  idle := rfl
  unique key _ _ left leftMem := by simp [Grabs.initial, World.initial, Db.empty] at leftMem
  named job jobMem := by simp [Grabs.initial, World.initial, Db.empty] at jobMem

/-- An album of TIDAL. -/
def album : Request where
  source := "tidal"
  item := "421"
  sourceId := .int 421
  title := "TIDAL album 421"
  category := "music"
  size := 0

/-- Two requests for one album, between each other's steps. -/
def race : List GrabAction :=
  [.arrive album, .arrive album, .check 0, .check 1, .publish 0 "first" 1, .publish 1 "second" 1,
    .enqueue 1 2, .enqueue 0 2, .reread 0, .reread 1, .withdraw 0 3]

theorem one_grab_per_item_race : ∃ finish, grabs.Run .initial race finish ∧
    finish.requests.map (fun handler => handler.2.ownEntry) = [none, none] ∧
    (finish.jobs.find? "first").isNone = true ∧
    ∀ entry ∈ finish.jobs.rows, finish.hasJob entry.id = true := by
  have run : grabs.Run .initial race _ := Machine.run_of_exec rfl
  refine ⟨_, run, rfl, rfl, ?_⟩
  intro entry entryMem
  refine (one_grab_per_item .initial Grabs.ready_initial).2.2.2 _ _ run entry entryMem rfl ?_
  intro request pc handler published
  have answers : ∀ other ∈ [RequestPc.answered "second", .answered "second"],
      other.ownEntry = none := by simp [RequestPc.ownEntry]
  have absent := answers pc (List.mem_map_of_mem (f := Prod.snd) handler)
  rw [absent] at published
  contradiction

end Runs

end Mintarr.Sab
