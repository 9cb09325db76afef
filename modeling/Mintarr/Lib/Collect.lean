import Mathlib.Data.List.Basic

/-!
# Collecting up to a limit

A loop collects what it meets, returns as soon as it has enough, and ends where something raises.
It gives a result exactly where it has enough before the first thing that raises.  Before it the
rules for what comes behind something that may raise.
-/

namespace Mintarr.Lib

variable {ε β : Type}

theorem bind_eq_ok_iff {α : Type} {value : Except ε α} {next : α → Except ε β} {result : β} :
    value >>= next = .ok result ↔ ∃ a, value = .ok a ∧ next a = .ok result := by
  cases value with
  | error error => simp [bind, Except.bind]
  | ok a => simp [bind, Except.bind]

theorem ite_throw_eq_ok_iff {condition : Prop} [Decidable condition] {error : ε}
    {body : Except ε β} {result : β} :
    (if condition then throw error else body) = .ok result ↔ ¬condition ∧ body = .ok result := by
  split
  · next holds => simp [holds, throw, throwThe, MonadExceptOf.throw]
  · next fails => simp [fails]

/-- A result comes from an element. -/
theorem exists_of_mem_mapM_ok {α : Type} {f : α → Except ε β} {list : List α} {results : List β}
    (mapped : list.mapM f = .ok results) {y : β} (listed : y ∈ results) :
    ∃ x ∈ list, f x = .ok y := by
  induction list generalizing results with
  | nil =>
      cases mapped
      contradiction
  | cons x rest ih =>
      rw [List.mapM_cons, bind_eq_ok_iff] at mapped
      obtain ⟨first, head, mapped⟩ := mapped
      obtain ⟨others, tail, mapped⟩ := bind_eq_ok_iff.mp mapped
      cases mapped
      cases List.mem_cons.mp listed with
      | inl same => exact ⟨x, List.mem_cons_self, same ▸ head⟩
      | inr later =>
          obtain ⟨origin, mem, result⟩ := ih tail later
          exact ⟨origin, List.mem_cons_of_mem x mem, result⟩

/-- How a loop ends early. -/
inductive Ending (ε β : Type) where
  | raised (error : ε)
  | returned (found : List β)

/-- One thing that the loop meets. -/
def collectStep (limit : Nat) (found : List β) : Except ε β → Except (Ending ε β) (List β)
  | .error error => .error (.raised error)
  | .ok item =>
      if limit ≤ (found ++ [item]).length then .error (.returned (found ++ [item]))
      else .ok (found ++ [item])

/-- What the caller gets. -/
def Ending.result : Except (Ending ε β) (List β) → Except ε (List β)
  | .ok found => .ok found
  | .error (.returned found) => .ok found
  | .error (.raised error) => .error error

/-- What is collected of the things that are met. -/
def collected (met : List (Except ε β)) : List β := met.filterMap Except.toOption

@[simp] theorem collected_nil : collected ([] : List (Except ε β)) = [] := rfl

@[simp] theorem collected_ok (item : β) (met : List (Except ε β)) :
    collected (.ok item :: met) = item :: collected met := rfl

@[simp] theorem collected_error (error : ε) (met : List (Except ε β)) :
    collected (.error error :: met) = collected met := rfl

@[simp] theorem collected_append (front back : List (Except ε β)) :
    collected (front ++ back) = collected front ++ collected back :=
  List.filterMap_append

theorem collected_flatMap {α : Type} (f : α → List (Except ε β)) (list : List α) :
    collected (list.flatMap f) = list.flatMap fun x => collected (f x) :=
  List.filterMap_flatMap

theorem mem_collected {item : β} {met : List (Except ε β)} :
    item ∈ collected met ↔ .ok item ∈ met := by
  rw [collected, List.mem_filterMap]
  constructor
  · intro found
    obtain ⟨outcome, listed, some_⟩ := found
    cases outcome with
    | error error => contradiction
    | ok other =>
        cases some_
        exact listed
  · intro listed
    exact ⟨.ok item, listed, rfl⟩

/-- Enough is collected before anything raises. -/
def Unhindered (limit : Nat) (met : List (Except ε β)) : Prop :=
  ∀ front error back, met = front ++ .error error :: back → limit ≤ (collected front).length

theorem unhindered_error {limit : Nat} {error : ε} {met : List (Except ε β)} :
    Unhindered limit (.error error :: met) ↔ limit = 0 := by
  constructor
  · intro enough
    exact Nat.le_zero.mp (enough [] error met rfl)
  · intro none_ front other back _
    rw [none_]
    exact Nat.zero_le _

theorem unhindered_ok {limit : Nat} {item : β} {met : List (Except ε β)} :
    Unhindered (limit + 1) (.ok item :: met) ↔ Unhindered limit met := by
  constructor
  · intro enough front error back shape
    have before := enough (.ok item :: front) error back (by rw [shape]; rfl)
    exact Nat.le_of_succ_le_succ before
  · intro enough front error back shape
    cases front with
    | nil => cases shape
    | cons first front =>
        rw [List.cons_append, List.cons.injEq] at shape
        rw [← shape.1, collected_ok]
        exact Nat.succ_le_succ (enough front error back shape.2)

theorem unhindered_zero {met : List (Except ε β)} : Unhindered 0 met :=
  fun _ _ _ _ => Nat.zero_le _

theorem unhindered_of_ok {limit : Nat} {met : List (Except ε β)}
    (fine : ∀ error, .error error ∉ met) : Unhindered limit met := by
  intro front error back shape
  exact absurd (by rw [shape]; simp) (fine error)

/-- What is collected in the first half is not needed in the second one. -/
theorem unhindered_append {limit : Nat} {front back : List (Except ε β)} :
    Unhindered limit (front ++ back) ↔
      Unhindered limit front ∧ Unhindered (limit - (collected front).length) back := by
  induction front generalizing limit with
  | nil =>
      have nothing : Unhindered limit ([] : List (Except ε β)) :=
        unhindered_of_ok fun _ => List.not_mem_nil
      simp [nothing]
  | cons outcome front ih =>
      cases outcome with
      | error error =>
          rw [List.cons_append, unhindered_error, unhindered_error]
          constructor
          · intro none_
            refine ⟨none_, ?_⟩
            rw [none_, Nat.zero_sub]
            exact unhindered_zero
          · exact And.left
      | ok item =>
          cases limit with
          | zero => simp [unhindered_zero]
          | succ limit =>
              rw [List.cons_append, unhindered_ok, unhindered_ok, ih, collected_ok,
                List.length_cons, Nat.add_sub_add_right]

theorem unhindered_flatMap {α : Type} {limit : Nat} {f : α → List (Except ε β)} {list : List α} :
    Unhindered limit (list.flatMap f) ↔ ∀ before x after, list = before ++ x :: after →
      Unhindered (limit - (collected (before.flatMap f)).length) (f x) := by
  induction list generalizing limit with
  | nil =>
      have nothing : Unhindered limit ([] : List (Except ε β)) :=
        unhindered_of_ok fun _ => List.not_mem_nil
      simp [nothing]
  | cons first rest ih =>
      rw [List.flatMap_cons, unhindered_append, ih]
      constructor
      · intro both before x after shape
        cases before with
        | nil =>
            rw [List.nil_append, List.cons.injEq] at shape
            rw [← shape.1]
            exact both.1
        | cons head before =>
            rw [List.cons_append, List.cons.injEq] at shape
            have later := both.2 before x after shape.2
            rw [Nat.sub_sub] at later
            rw [← shape.1, List.flatMap_cons, collected_append, List.length_append]
            exact later
      · intro every
        constructor
        · exact every [] first rest rfl
        · intro before x after shape
          have later := every (first :: before) x after (by rw [shape]; rfl)
          rw [List.flatMap_cons, collected_append, List.length_append] at later
          rw [Nat.sub_sub]
          exact later

/-- The loop gives what it collects, up to the limit. -/
theorem collect_eq_ok_iff {left : Nat} {met : List (Except ε β)} {found result : List β}
    (room : 0 < left) :
    Ending.result (met.foldlM (collectStep (found.length + left)) found) = .ok result ↔
      Unhindered left met ∧ found ++ (collected met).take left = result := by
  induction met generalizing found left with
  | nil =>
      have nothing : Unhindered left ([] : List (Except ε β)) := by
        intro front error back shape
        cases front <;> cases shape
      simp [nothing, Ending.result, pure, Except.pure]
  | cons outcome met ih =>
      cases outcome with
      | error error =>
          have none_ : left ≠ 0 := Nat.ne_of_gt room
          rw [unhindered_error, List.foldlM_cons]
          simp [none_, collectStep, Ending.result, bind, Except.bind]
      | ok item =>
          cases left with
          | zero => contradiction
          | succ left =>
              rw [unhindered_ok, collected_ok, List.take_succ_cons, List.foldlM_cons]
              cases left with
              | zero =>
                  simp [unhindered_zero, collectStep, Ending.result, bind, Except.bind]
              | succ left =>
                  have more := @ih (left + 1) (found ++ [item]) (Nat.succ_pos left)
                  have count : (found ++ [item]).length + (left + 1) =
                      found.length + (left + 1 + 1) := by
                    rw [List.length_append, List.length_singleton]
                    omega
                  have goesOn : collectStep (found.length + (left + 1 + 1)) found
                      (.ok item : Except ε β) = .ok (found ++ [item]) := by
                    rw [collectStep, if_neg]
                    rw [List.length_append, List.length_singleton]
                    omega
                  rw [count, List.append_assoc, List.singleton_append] at more
                  rw [goesOn]
                  exact more

end Mintarr.Lib
