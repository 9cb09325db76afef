import Mintarr.Lane.CancelPassage

/-!
# What the worker makes of a cancel

`_execute_job` reports a raised cancel as cancelled and anything else as something else,
so that the fate of a cancel is decided on its way to the worker: it is kept unless a
handler has swallowed it, and it undoes a change of the library only where no checkpoint
that comes after the change lets it through.
-/

namespace Mintarr.Lane

open Lib

namespace Watch

/-- The worker has reported a job. -/
structure Final (watch : Watch) : Prop where
  unprocessed : watch.processed = false
  late_eq_blind : watch.late = watch.blind
  raised_of_swallowed : watch.swallowed = true → watch.raised = true
  lost_unreported : watch.lost = true → watch.job = none
  kept : watch.raised = true → watch.swallowed = false → watch.lost = false →
    watch.job = some .cancelled
  dropped : watch.swallowed = true → watch.job ≠ some .cancelled
  overtaken_iff : watch.overtaken = true ↔
    watch.raised = true ∧ watch.swallowed = false ∧ watch.mutated = true
  cancelled_raised : watch.job = some .cancelled → watch.mutated = true →
    watch.raised = true ∧ watch.swallowed = false

/-- A cancel that was raised leaves the job cancelled, and no file or item was taken up
after it. -/
def CancelKept (watch : Watch) : Prop :=
  watch.raised = true → watch.job = some .cancelled ∧ watch.processed = false

/-- A cancelled job has not changed the library, and no change began after the request. -/
def MutationExcluded (watch : Watch) : Prop :=
  (watch.job = some .cancelled → watch.mutated = false) ∧ watch.late = false

variable {watch : Watch}

theorem Final.cancelKept_iff (final : watch.Final) :
    watch.CancelKept ↔
      watch.swallowed = false ∧ ¬(watch.raised = true ∧ watch.lost = true) := by
  constructor
  · intro kept
    refine ⟨?_, ?_⟩
    · by_contra swallowed
      rw [Bool.not_eq_false] at swallowed
      exact final.dropped swallowed (kept (final.raised_of_swallowed swallowed)).1
    · rintro ⟨raised, lost⟩
      have cancelled := (kept raised).1
      rw [final.lost_unreported lost] at cancelled
      contradiction
  · rintro ⟨unswallowed, found⟩ raised
    refine ⟨final.kept raised unswallowed ?_, final.unprocessed⟩
    simpa [raised] using found

theorem Final.mutationExcluded_iff (final : watch.Final) :
    watch.MutationExcluded ↔
      watch.blind = false ∧ ¬(watch.overtaken = true ∧ watch.lost = false) := by
  rw [MutationExcluded, final.late_eq_blind, and_comm]
  refine and_congr_right fun _ => ⟨?_, ?_⟩
  · rintro unchanged ⟨overtaken, found⟩
    rcases final.overtaken_iff.mp overtaken with ⟨raised, unswallowed, mutated⟩
    rw [unchanged (final.kept raised unswallowed found)] at mutated
    contradiction
  · intro notOvertaken cancelled
    by_contra mutated
    rw [Bool.not_eq_false] at mutated
    rcases final.cancelled_raised cancelled mutated with ⟨raised, unswallowed⟩
    refine notOvertaken ⟨final.overtaken_iff.mpr ⟨raised, unswallowed, mutated⟩, ?_⟩
    by_contra lost
    rw [final.lost_unreported (by simpa using lost)] at cancelled
    contradiction

/-! ## Reports -/

/-- A job that ended without a cancel on its way is not reported cancelled. -/
theorem Ended.reportJob (ended : watch.Ended) {state : Queue.JobState}
    (other : state ≠ .cancelled) (stored : Bool) : (watch.reportJob state stored).Final := by
  cases stored <;> constructor <;>
    simp +contextual [Watch.reportJob, ended.unprocessed, ended.late_eq_blind, ended.unreported,
      ended.raised_eq_swallowed, ended.notOvertaken, other, ended.unlost]

/-- A retry leaves the job queued. -/
theorem Ended.retried (ended : watch.Ended) :
    Final { watch with job := some .queued } := by
  simpa [Watch.reportJob] using
    ended.reportJob (by decide : Queue.JobState.queued ≠ .cancelled) true

/-- A cancel that reached the worker is reported. -/
theorem Fail.reportJob (fail : watch.Fail .cancelled) (stored : Bool) :
    (watch.reportJob .cancelled stored).Final := by
  rcases fail.cancelled_iff.mp rfl with ⟨raised, unswallowed⟩
  cases stored <;> constructor <;>
    simp [Watch.reportJob, fail.unprocessed, fail.late_eq_blind, fail.unreported, raised,
      unswallowed, fail.overtaken_iff, fail.unlost]

/-- A job whose cancel the worker finds before it starts is reported cancelled. -/
theorem Ended.reportJob_unstarted (ended : watch.Ended) (unraised : watch.raised = false)
    (unchanged : watch.mutated = false) (stored : Bool) :
    (watch.reportJob .cancelled stored).Final := by
  have unswallowed : watch.swallowed = false := by rw [← ended.raised_eq_swallowed, unraised]
  cases stored <;> constructor <;>
    simp [Watch.reportJob, ended.unprocessed, ended.late_eq_blind, ended.unreported,
      unraised, unswallowed, ended.notOvertaken, unchanged, ended.unlost]

/-! ## The worker -/

variable {α : Type} {job : Queue.Job} {executor : Work String}

/-- A report, from a state in which it is the right one. -/
theorem triple_reportJob {pre : Watch → Prop} {fail : Raised → Watch → Prop}
    (stable : Stable pre) {report : Queue.Report}
    (reports : ∀ watch stored, pre watch → (watch.reportJob (reportedState report) stored).Final) :
    surroundings.Triple pre (Lane.reportJob report) (fun _ => Final) fail := by
  refine .bind (triple_ask stable ?_) fun _ => .pure fun _ => id
  exact fun watch stored holds _ => reports watch stored holds

/-- Before the executor nothing has happened. -/
structure Fresh (watch : Watch) : Prop extends Open watch where
  unchanged : watch.mutated = false

theorem stable_fresh : Stable Fresh := fun watch fresh =>
  { stable_open watch fresh.toOpen with unchanged := fresh.unchanged }

/-- The worker has found a cancel before the executor. -/
structure Unstarted (watch : Watch) : Prop extends Ended watch where
  unraised : watch.raised = false
  unchanged : watch.mutated = false

theorem stable_unstarted : Stable Unstarted := fun _ unstarted => { unstarted with }

/-- The check of the worker reads the flag at most. -/
theorem triple_isJobCancelRequested_worker {pre post : Watch → Prop}
    {fail : Raised → Watch → Prop} (stable : Stable pre)
    (read : ∀ watch : Watch, pre watch → post { watch with unread := false }) :
    surroundings.Triple pre Lane.isJobCancelRequested
      (fun requested => if requested then post else pre) fail := by
  have asked : surroundings.Triple pre (ask .worker .isJobCancelRequested)
      (fun answer => if answer = .ok true then post else pre) fail := by
    refine .ask ?_
    rintro before answer after holds ⟨start, origin, _, rfl⟩
    have started : pre start := by
      rcases origin with rfl | rfl
      · exact holds
      · exact stable _ holds
    match answer with
    | .ok true => exact read start started
    | .ok false | .error _ => exact started
  refine asked.bind ?_
  rintro (text | _ | _)
  · exact .pure fun _ => id
  · exact .pure fun _ => id
  · exact .pure fun _ => id

/-- A job whose exception is no cancel is retried or failed. -/
theorem triple_retryOrFail {fail : Raised → Watch → Prop} (text : String) :
    surroundings.Triple Ended (retryOrFail job text) (fun _ => Final) fail := by
  have failed : surroundings.Triple Ended
      (Lane.reportJob (.failed text (some "failed"))) (fun _ => Final) fail :=
    triple_reportJob stable_ended fun _ stored ended =>
      ended.reportJob (by simp [reportedState]) stored
  have read : ∀ watch : Watch, watch.Ended → Ended { watch with unread := false } :=
    fun _ ended => { ended with }
  have checked : surroundings.Triple Ended Lane.isJobCancelRequested (fun _ => Ended) fail :=
    (triple_isJobCancelRequested_worker stable_ended read).imp
      (fun _ => id) (fun requested _ holds => by cases requested <;> exact holds) fun _ _ => id
  refine checked.bind fun requested => ?_
  split
  · have scheduled : surroundings.Triple Ended (ask .worker (.scheduleJobRetry text))
        (fun stored => if stored then Final else Ended) fail := by
      refine .ask ?_
      rintro before stored after ended ⟨start, origin, _, rfl⟩
      have started : start.Ended := by
        rcases origin with rfl | rfl
        · exact ended
        · exact stable_ended _ ended
      cases stored with
      | true => exact started.retried
      | false => exact started
    refine scheduled.bind fun stored => ?_
    cases stored with
    | true => exact .pure fun _ => id
    | false => exact failed
  · exact failed

/-- The worker brings the end of an executor to its report. -/
theorem triple_executeJob {fail : Raised → Watch → Prop} (ends : Ends executor) :
    surroundings.Triple Fresh (executeJob job executor) (fun _ => Final) fail := by
  have read : ∀ watch : Watch, watch.Fresh → Unstarted { watch with unread := false } :=
    fun _ fresh =>
      { fresh.toOpen.ended with
        unraised := fresh.unraised
        unchanged := fresh.unchanged }
  refine (triple_isJobCancelRequested_worker stable_fresh read).bind fun requested => ?_
  cases requested with
  | true =>
      exact triple_reportJob stable_unstarted fun _ stored unstarted =>
        unstarted.reportJob_unstarted unstarted.unraised unstarted.unchanged stored
  | false =>
      have body : surroundings.Triple Fresh
          (do Lane.reportJob (.completed (some (← executor)) [])) (fun _ => Final) Fail :=
        (ends.imp (fun _ fresh => fresh.toOpen) (fun _ _ => id) fun _ _ => id).bind fun _ =>
          triple_reportJob stable_ended fun _ stored ended =>
            ended.reportJob (by simp [reportedState]) stored
      refine body.tryCatch ?_
      rintro (_ | text)
      · exact triple_reportJob (stable_fail _) fun _ stored fail => fail.reportJob stored
      · exact (triple_retryOrFail text).imp (fun _ fail => fail.ended) (fun _ _ => id)
          fun _ _ => id

end Watch

end Mintarr.Lane
