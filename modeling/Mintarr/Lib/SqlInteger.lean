import Mathlib.Algebra.BigOperators.Group.List.Basic
import Mathlib.Algebra.Ring.Int.Defs
import Mathlib.Data.Rat.Floor

/-!
# Integers of a SQL column

A column holds integers of 64 bits.  A sum of them is exact as long as no sum on the way leaves
that range; what a database does beyond it is not said here.
-/

namespace Mintarr.Lib.Sql

/-- An integer of 64 bits. -/
def IsInteger (value : Int) : Prop := -2 ^ 63 ≤ value ∧ value < 2 ^ 63

instance (value : Int) : Decidable (IsInteger value) :=
  inferInstanceAs (Decidable (-2 ^ 63 ≤ value ∧ value < 2 ^ 63))

/-- What the values add up to from the left; nothing where a sum on the way is too large. -/
def addUp (sum : Int) : List Int → Option Int
  | [] => some sum
  | value :: values => if IsInteger (sum + value) then addUp (sum + value) values else none

/-- A sum that is not too large is exact. -/
theorem addUp_eq {sum total : Int} {values : List Int} (exact : addUp sum values = some total) :
    total = sum + values.sum := by
  induction values generalizing sum with
  | nil =>
      rw [List.sum_nil, add_zero]
      exact (Option.some.inj exact).symm
  | cons value values ih =>
      rw [addUp] at exact
      split_ifs at exact
      rw [ih exact, List.sum_cons, add_assoc]

/-- `CAST(value AS INTEGER)` of a real number. -/
def truncate (value : ℚ) : Int :=
  max (-2 ^ 63) (min (2 ^ 63 - 1) (value.num.tdiv value.den))

end Mintarr.Lib.Sql
