import Mathlib.Order.BoundedOrder.Lattice

/-!
# Stages of a graded decision

A decision is an element of a linear order, the more permissive the higher; the least
decision refuses.  A stage takes a decision and returns one.  A stage may only tighten,
may leave a refusal a refusal, and may never refuse on its own; each of these is kept by
composition.  A cap, the minimum with a fixed decision, is the plain tightening stage.
-/

namespace Mintarr.Lib

universe u

variable {α : Type u} [LinearOrder α]

/-- The stage never returns a more permissive decision. -/
def Tightens (stage : α → α) : Prop := ∀ decision, stage decision ≤ decision

theorem tightens_cap (cap : α) : Tightens fun decision => min decision cap :=
  fun decision => min_le_left decision cap

theorem Tightens.comp {first second : α → α} (after : Tightens second)
    (before : Tightens first) : Tightens (second ∘ first) := by
  intro decision
  exact (after (first decision)).trans (before decision)

variable [OrderBot α]

/-- The stage leaves a refusal a refusal. -/
def KeepsRefusal (stage : α → α) : Prop := stage ⊥ = ⊥

/-- The stage refuses only what was refused before. -/
def NeverRefuses (stage : α → α) : Prop := ∀ decision, stage decision = ⊥ → decision = ⊥

/-- There is nothing below a refusal. -/
theorem Tightens.keepsRefusal {stage : α → α} (tightens : Tightens stage) :
    KeepsRefusal stage :=
  le_bot_iff.mp (tightens ⊥)

theorem KeepsRefusal.comp {first second : α → α} (after : KeepsRefusal second)
    (before : KeepsRefusal first) : KeepsRefusal (second ∘ first) := by
  simp only [KeepsRefusal, Function.comp_apply] at *
  rw [before, after]

/-- A cap refuses only where the cap itself is a refusal. -/
theorem neverRefuses_cap {cap : α} (permits : cap ≠ ⊥) :
    NeverRefuses fun decision => min decision cap := by
  intro decision refused
  exact (min_eq_bot.mp refused).resolve_right permits

theorem NeverRefuses.comp {first second : α → α} (after : NeverRefuses second)
    (before : NeverRefuses first) : NeverRefuses (second ∘ first) := by
  intro decision refused
  exact before decision (after (first decision) refused)

end Mintarr.Lib
