import Mintarr.Queue.Lifecycle

/-!
# The attempt budget of a job

Only a claim raises `attempts`, and only rows below their limit are put back in
the queue.  The bound on `attempts` is therefore carried by a stronger invariant
on queued rows, and the bound on claims follows because every claim that is
handed out raises `attempts`.
-/

namespace Mintarr.Queue

open Lib JobState

/-- The rows a job with a positive limit may have: `attempts` is within the
limit, and strictly below it while the job waits for a claim. -/
structure Job.WithinBudget (job : Job) (limit : Int) : Prop where
  attempts_le : (job.attempts : Int) ≤ limit
  queued_lt : job.state = .queued → (job.attempts : Int) < limit

/-- The budget invariant of the jobs table. -/
def Db.Budgeted (db : Db) : Prop :=
  ∀ job ∈ db.jobs.rows, ∀ limit, job.maxAttempts = some limit → 1 ≤ limit →
    job.WithinBudget limit

/-- With a positive limit both null-defaults of `max_attempts` are the limit. -/
theorem Job.recoveryLimit_eq {job : Job} {limit : Int} (stored : job.maxAttempts = some limit)
    (positive : 1 ≤ limit) : job.recoveryLimit = limit := by
  have nonzero : limit ≠ 0 := by omega
  simp [Job.recoveryLimit, stored, nonzero]

theorem Moves.withinBudget {op : Op} {old next : Job} {limit : Int}
    (move : Moves op old next) (stored : old.maxAttempts = some limit)
    (positive : 1 ≤ limit) (within : old.WithinBudget limit) : next.WithinBudget limit := by
  have bound := within.attempts_le
  cases move.transition with
  | kept state _ attempts =>
      exact ⟨by omega, fun queued => by
        have below := within.queued_lt (state ▸ queued)
        omega⟩
  | claimed was state attempts =>
      have below := within.queued_lt was
      exact ⟨by omega, fun queued => by simp [state] at queued⟩
  | cancelling _ state attempts =>
      exact ⟨by omega, fun queued => by simp [state] at queued⟩
  | retried _ remaining _ attempts =>
      rw [stored, Option.getD_some] at remaining
      exact ⟨by omega, fun _ => by omega⟩
  | requeued _ _ remaining _ attempts =>
      rw [Job.recoveryLimit_eq stored positive] at remaining
      exact ⟨by omega, fun _ => by omega⟩
  | exhausted _ _ _ state attempts =>
      exact ⟨by omega, fun queued => by simp [state] at queued⟩
  | reported _ state attempts =>
      refine ⟨by omega, fun queued => ?_⟩
      rw [queued] at state
      exact absurd active_queued state.not_active

/-- One critical section keeps the budget invariant. -/
theorem Op.budgeted (op : Op) {db : Db} (budgeted : db.Budgeted) : (op.apply db).Budgeted := by
  apply (op.evolves db).forall_rows _ _ budgeted
  · intro old next within move limit stored positive
    rw [move.maxAttempts] at stored
    exact move.withinBudget stored positive (within limit stored positive)
  · intro job inserts limit _ positive
    have attempts := inserts.fresh.2.1
    exact ⟨by omega, fun _ => by omega⟩

/-- Every run keeps the budget invariant. -/
theorem run_budgeted {ops : List Op} {before after : Db}
    (run : queue.Run before ops after) (budgeted : before.Budgeted) : after.Budgeted := by
  apply run.preserves Db.Budgeted _ budgeted
  intro db op next within _ stepped
  cases stepped
  exact op.budgeted within

/-- Every run keeps each row and does not lower its `attempts`. -/
theorem run_attempts_le {ops : List Op} {before after : Db}
    (run : queue.Run before ops after) : ∀ job ∈ before.jobs.rows,
      ∃ next ∈ after.jobs.rows, next.id = job.id ∧ job.attempts ≤ next.attempts := by
  apply run.relates (fun _ => True) fun before after =>
    ∀ job ∈ before.jobs.rows, ∃ next ∈ after.jobs.rows,
      next.id = job.id ∧ job.attempts ≤ next.attempts
  · exact fun db job jobMem => ⟨job, jobMem, rfl, Nat.le_refl _⟩
  · intro first second third left right job jobMem
    rcases left job jobMem with ⟨middle, middleMem, firstId, firstLe⟩
    rcases right middle middleMem with ⟨next, nextMem, secondId, secondLe⟩
    exact ⟨next, nextMem, secondId.trans firstId, Nat.le_trans firstLe secondLe⟩
  · exact fun _ _ _ _ _ _ => trivial
  · intro db op next _ _ stepped job jobMem
    cases stepped
    rcases (op.evolves db).forth job jobMem with ⟨moved, movedMem, sameId, move⟩
    exact ⟨moved, movedMem, sameId, move.attempts_le⟩
  · trivial

/-- 1 when the critical section hands the job to its caller. -/
def claims (jobId : Nat) (db : Db) (op : Op) : Nat :=
  if (op.claimed db).any fun job => job.id = jobId then 1 else 0

/-- The `attempts` column of a job; 0 before the job exists. -/
def attemptsOf (jobId : Nat) (db : Db) : Nat :=
  ((db.jobs.find? jobId).map Job.attempts).getD 0

theorem attemptsOf_eq {db : Db} {job : Job} (jobMem : job ∈ db.jobs.rows) :
    attemptsOf job.id db = job.attempts := by
  have found : db.jobs.find? job.id = some job := Table.find?_eq_some.mpr ⟨jobMem, rfl⟩
  simp [attemptsOf, found]

theorem attemptsOf_le_apply (jobId : Nat) (op : Op) (db : Db) :
    attemptsOf jobId db ≤ attemptsOf jobId (op.apply db) := by
  cases found : db.jobs.find? jobId with
  | none => simp [attemptsOf, found]
  | some job =>
      rcases Table.find?_eq_some.mp found with ⟨jobMem, rfl⟩
      rcases (op.evolves db).forth job jobMem with ⟨next, nextMem, sameId, move⟩
      rw [attemptsOf_eq jobMem, ← sameId, attemptsOf_eq nextMem]
      exact move.attempts_le

/-- A claim that is handed out raises `attempts`. -/
theorem attemptsOf_claim (jobId : Nat) (op : Op) (db : Db) :
    attemptsOf jobId db + claims jobId db op ≤ attemptsOf jobId (op.apply db) := by
  by_cases handed : (op.claimed db).any fun job => job.id = jobId
  case neg =>
    simpa [claims, handed] using attemptsOf_le_apply jobId op db
  cases op with
  | dequeueNextJob request now =>
      rcases dequeueNextJob_cases request now db with idle | ⟨job, jobMem, eligible, claim⟩
      · simp [Op.claimed, idle] at handed
      · have sameId : job.id = jobId := by
          simp only [Op.claimed, claim, Option.any_some, decide_eq_true_eq] at handed
          exact handed
        subst sameId
        have queued := (ClaimRequest.eligible_iff.mp eligible).1
        have after : request.claim now job ∈
            (Op.apply db (.dequeueNextJob request now)).jobs.rows := by
          simp only [Op.apply, claim]
          exact Table.mem_update.mpr ⟨job, jobMem, by simp [queued]⟩
        have raised := attemptsOf_eq after
        rw [ClaimRequest.claim_id] at raised
        rw [attemptsOf_eq jobMem, raised]
        simp [claims, handed, ClaimRequest.claim]
  | _ => simp [Op.claimed] at handed

/-- The attempt budget, over every run of the queue from an empty database: a job
enqueued with a positive limit stays within it, is below it while it is queued, is
claimed at most that often, and keeps or raises its `attempts` in every later run. -/
theorem attempt_budget {ops : List Op} {db : Db} (run : queue.Run .empty ops db)
    {job : Job} (jobMem : job ∈ db.jobs.rows) {limit : Int}
    (stored : job.maxAttempts = some limit) (positive : 1 ≤ limit) :
    (job.attempts : Int) ≤ limit ∧
      (job.state = .queued → (job.attempts : Int) < limit) ∧
      (queue.weight (claims job.id) .empty ops : Int) ≤ limit ∧
      ∀ more later, queue.Run db more later →
        ∃ next ∈ later.jobs.rows, next.id = job.id ∧ job.attempts ≤ next.attempts := by
  have initially : Db.empty.Budgeted := by
    intro row rowMem
    simp [Db.empty] at rowMem
  have within := run_budgeted run initially job jobMem limit stored positive
  refine ⟨within.attempts_le, within.queued_lt, ?_, ?_⟩
  · have counted : attemptsOf job.id .empty + queue.weight (claims job.id) .empty ops ≤
        attemptsOf job.id db := by
      apply run.weight_le
      intro before op after stepped
      cases stepped
      exact attemptsOf_claim job.id op before
    rw [attemptsOf_eq jobMem] at counted
    have bound := within.attempts_le
    omega
  · intro more later continued
    exact run_attempts_le continued job jobMem

/-- A grab that is claimed, recovered after its lease ran out, and claimed again. -/
def recoveredGrab : List Op :=
  [.enqueueJob { jid := "0a1b2c3d4e5f", type := "tidal_grab" } 0,
    .dequeueNextJob { workerId := "worker" } 1,
    .recoverStaleRunningJobs none false 400 none,
    .dequeueNextJob { workerId := "worker" } 410]

theorem attempt_budget_recoveredGrab :
    ∃ job ∈ (recoveredGrab.foldl Op.apply .empty).jobs.rows, job.attempts = 2 ∧
      (job.attempts : Int) ≤ 3 ∧
      (queue.weight (claims job.id) .empty recoveredGrab : Int) ≤ 3 := by
  have found : ∃ job ∈ (recoveredGrab.foldl Op.apply .empty).jobs.rows,
      job.attempts = 2 ∧ job.maxAttempts = some 3 := by decide +kernel
  rcases found with ⟨job, jobMem, attempts, stored⟩
  have run : queue.Run .empty recoveredGrab (recoveredGrab.foldl Op.apply .empty) :=
    Machine.run_of_exec rfl
  have budget := attempt_budget run jobMem stored (by decide)
  exact ⟨job, jobMem, attempts, budget.1, budget.2.2.1⟩

end Mintarr.Queue
