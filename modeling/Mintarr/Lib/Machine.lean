import Mathlib.Order.Defs.PartialOrder

/-!
# Labelled machines and their runs

A machine is a partial step function: a label is either enabled in a state and
then has one outcome, or it is not enabled.  Nondeterminism is in the choice of
labels.  A run is a list of labels executed one after the other; a run may be
restricted by a guard, a condition on each step's label and the state it is
taken from.

The rules below package the inductions over runs: an invariant of the steps
holds at the end of a run, with or without the labels that led there, a preorder
followed by the steps relates the ends of a run, and a potential that grows by
at least the weight of every step bounds the weight of the whole run.
-/

namespace Mintarr.Lib

universe u v

/-- A labelled machine. `step state label` is `none` where `label` is not
enabled in `state`. -/
structure Machine (σ : Type u) (α : Type v) where
  step : σ → α → Option σ

namespace Machine

variable {σ : Type u} {α : Type v} {machine : Machine σ α}
variable {guard : σ → α → Prop}

/-- `machine.RunWhere guard start labels finish`: executing `labels` from
`start` ends in `finish`, and every step meets `guard` in the state it is taken
from. -/
inductive RunWhere (machine : Machine σ α) (guard : σ → α → Prop) :
    σ → List α → σ → Prop
  | nil (state : σ) : RunWhere machine guard state [] state
  | cons {start next finish : σ} {label : α} {labels : List α} :
      guard start label → machine.step start label = some next →
      RunWhere machine guard next labels finish →
      RunWhere machine guard start (label :: labels) finish

/-- A run without a guard. -/
abbrev Run (machine : Machine σ α) : σ → List α → σ → Prop :=
  machine.RunWhere fun _ _ => True

/-- Execute a list of labels; `none` when one of them is not enabled. -/
def exec (machine : Machine σ α) : σ → List α → Option σ
  | start, [] => some start
  | start, label :: labels =>
      match machine.step start label with
      | some next => machine.exec next labels
      | none => none

/-- Execution computes the run. -/
theorem run_of_exec {start finish : σ} {labels : List α}
    (executed : machine.exec start labels = some finish) :
    machine.Run start labels finish := by
  induction labels generalizing start with
  | nil =>
      cases executed
      exact .nil _
  | cons label labels ih =>
      simp only [exec] at executed
      split at executed
      · next stepped => exact .cons trivial stepped (ih executed)
      · contradiction

/-- The machine with the guarded steps only. -/
def restrict (machine : Machine σ α) (guard : σ → α → Prop)
    [∀ state label, Decidable (guard state label)] : Machine σ α where
  step state label := if guard state label then machine.step state label else none

/-- Execution under a guard computes the guarded run. -/
theorem runWhere_of_exec [∀ state label, Decidable (guard state label)]
    {start finish : σ} {labels : List α}
    (executed : (machine.restrict guard).exec start labels = some finish) :
    machine.RunWhere guard start labels finish := by
  induction labels generalizing start with
  | nil =>
      cases executed
      exact .nil _
  | cons label labels ih =>
      simp only [exec, restrict] at executed
      split at executed
      · next stepped =>
          split at stepped
          · next allowed => exact .cons allowed stepped (ih executed)
          · contradiction
      · contradiction

namespace RunWhere

/-- A run meets every guard that its labels meet. -/
theorem imp {other : σ → α → Prop} {start finish : σ} {labels : List α}
    (run : machine.RunWhere guard start labels finish)
    (implies : ∀ label ∈ labels, ∀ state, guard state label → other state label) :
    machine.RunWhere other start labels finish := by
  induction run with
  | nil state => exact .nil state
  | cons allowed stepped _ ih =>
      rw [List.forall_mem_cons] at implies
      exact .cons (implies.1 _ allowed) stepped (ih implies.2)

/-- A run meets every guard that its guarded steps meet under an invariant. -/
theorem imp_where {other : σ → α → Prop} {start finish : σ} {labels : List α}
    (run : machine.RunWhere guard start labels finish) (invariant : σ → Prop)
    (kept : ∀ state label next, invariant state →
      machine.step state label = some next → invariant next)
    (implies : ∀ state label next, invariant state → machine.step state label = some next →
      guard state label → other state label)
    (initially : invariant start) : machine.RunWhere other start labels finish := by
  induction run with
  | nil state => exact .nil state
  | cons allowed stepped _ ih =>
      exact .cons (implies _ _ _ initially stepped allowed) stepped
        (ih (kept _ _ _ initially stepped))

/-- The invariant rule: what every guarded step preserves holds at the end of
every guarded run. -/
theorem preserves {start finish : σ} {labels : List α}
    (run : machine.RunWhere guard start labels finish) (invariant : σ → Prop)
    (kept : ∀ state label next, invariant state → guard state label →
      machine.step state label = some next → invariant next)
    (initially : invariant start) : invariant finish := by
  induction run with
  | nil => exact initially
  | cons allowed stepped _ ih => exact ih (kept _ _ _ initially allowed stepped)

/-- The rule for what a state owes to the steps that led to it: an invariant of the labels so far
and the state, which every step preserves, holds of all labels and the end of the run. -/
theorem explains {start finish : σ} {labels : List α}
    (run : machine.RunWhere guard start labels finish) (invariant : List α → σ → Prop)
    (kept : ∀ past state label next, invariant past state → guard state label →
      machine.step state label = some next → invariant (past ++ [label]) next)
    (initially : invariant [] start) : invariant labels finish := by
  have continued : ∀ past, invariant past start → invariant (past ++ labels) finish := by
    clear initially
    induction run with
    | nil state =>
        intro past held
        rw [List.append_nil]
        exact held
    | @cons start next finish label labels allowed stepped _ ih =>
        intro past held
        rw [← List.singleton_append, ← List.append_assoc]
        exact ih _ (kept past start label next held allowed stepped)
  exact continued [] initially

/-- The rule for what a run does to a state: a preorder that every step follows
under an invariant relates the ends of the run. -/
theorem relates {start finish : σ} {labels : List α}
    (run : machine.RunWhere guard start labels finish)
    (invariant : σ → Prop) (relation : σ → σ → Prop)
    (refl : ∀ state, relation state state)
    (trans : ∀ first second third, relation first second →
      relation second third → relation first third)
    (kept : ∀ state label next, invariant state → guard state label →
      machine.step state label = some next → invariant next)
    (follows : ∀ state label next, invariant state → guard state label →
      machine.step state label = some next → relation state next)
    (initially : invariant start) : relation start finish := by
  induction run with
  | nil state => exact refl state
  | cons allowed stepped _ ih =>
      have first := follows _ _ _ initially allowed stepped
      have rest := ih (kept _ _ _ initially allowed stepped)
      exact trans _ _ _ first rest

end RunWhere

/-- Sum of the weights of the steps of an execution. -/
def weight (machine : Machine σ α) (cost : σ → α → Nat) : σ → List α → Nat
  | _, [] => 0
  | start, label :: labels =>
      cost start label +
        match machine.step start label with
        | some next => machine.weight cost next labels
        | none => 0

/-- The amortisation rule: a potential that every step raises by at least the
step's cost bounds the cost of the run. -/
theorem RunWhere.weight_le {cost : σ → α → Nat} {potential : σ → Nat}
    {start finish : σ} {labels : List α}
    (run : machine.RunWhere guard start labels finish)
    (raised : ∀ state label next, machine.step state label = some next →
      potential state + cost state label ≤ potential next) :
    potential start + machine.weight cost start labels ≤ potential finish := by
  induction run with
  | nil => simp [weight]
  | cons _ stepped _ ih =>
      have first := raised _ _ _ stepped
      simp only [weight, stepped]
      omega

end Machine

end Mintarr.Lib
