import Mathlib.Data.List.Basic

/-!
# Ranks in a stable sort

An element of the sorted list stands behind as many others as rank before it in the list that
was sorted: the smaller ones, and of its equals those that came earlier.  A list whose first
elements are all of one kind, as far as there are any or as far as it is shown, hides none of
this kind behind others.
-/

namespace Mintarr.Lib

variable {α : Type}

section Ranks

variable {le : α → α → Bool}

/-- How many rank before an element that stands between two lists. -/
def rankAt (le : α → α → Bool) (before : List α) (x : α) (after : List α) : Nat :=
  before.countP (fun y => le y x) + after.countP fun y => !le x y

theorem rankAt_cons_of_le {y x : α} {before after : List α} (first : le y x = true) :
    rankAt le (y :: before) x after = rankAt le before x after + 1 := by
  simp only [rankAt, List.countP_cons, if_pos first]
  omega

theorem rankAt_cons_of_lt {y x : α} {before after : List α} (later : le y x = false) :
    rankAt le (y :: before) x after = rankAt le before x after := by
  simp only [rankAt, List.countP_cons, later]
  rfl

/-- What stands before an inserted element is smaller, and nothing else is. -/
theorem length_of_inserted {x : α} {smaller larger : List α}
    (sorted : (smaller ++ x :: larger).Pairwise fun y z => le y z = true)
    (less : ∀ y, y ∈ smaller → (!le x y) = true) :
    smaller.length = (smaller ++ larger).countP fun y => !le x y := by
  have behind := (List.pairwise_cons.mp (List.pairwise_append.mp sorted).2.1).1
  have none_ : larger.countP (fun y => !le x y) = 0 := by
    rw [List.countP_eq_zero]
    intro y listed
    simp [behind y listed]
  have all_ : smaller.countP (fun y => !le x y) = smaller.length := List.countP_eq_length.mpr less
  rw [List.countP_append, all_, none_, Nat.add_zero]

variable (trans : ∀ x y z, le x y = true → le y z = true → le x z = true)
  (total : ∀ x y, (le x y || le y x) = true)

include trans total

/-- The first element is put behind the smaller ones. -/
theorem mergeSort_insert (x : α) (list : List α) :
    ∃ smaller larger, (x :: list).mergeSort le = smaller ++ x :: larger ∧
      list.mergeSort le = smaller ++ larger ∧ smaller.length = list.countP (fun y => !le x y) ∧
      (∀ y ∈ smaller, le x y = false) ∧ ∀ y ∈ larger, le x y = true := by
  obtain ⟨smaller, larger, inserted, rest, less⟩ := List.mergeSort_cons trans total x list
  have sorted := List.pairwise_mergeSort trans total (x :: list)
  rw [inserted] at sorted
  refine ⟨smaller, larger, inserted, rest, ?_, ?_, ?_⟩
  · rw [length_of_inserted sorted less, ← rest]
    exact (List.mergeSort_perm list le).countP_eq _
  · intro y listed
    simpa using less y listed
  · exact (List.pairwise_cons.mp (List.pairwise_append.mp sorted).2.1).1

/-- Every element has its place in the sorted list. -/
theorem exists_place (before : List α) (x : α) (after : List α) :
    ∃ first rest, (before ++ x :: after).mergeSort le = first ++ x :: rest ∧
      first.length = rankAt le before x after := by
  induction before with
  | nil =>
      obtain ⟨smaller, larger, inserted, _, length, _, _⟩ := mergeSort_insert trans total x after
      exact ⟨smaller, larger, inserted, by simp [rankAt, length]⟩
  | cons y before ih =>
      obtain ⟨first, rest, place, length⟩ := ih
      obtain ⟨smaller, larger, inserted, others, _, less, more⟩ :=
        mergeSort_insert trans total y (before ++ x :: after)
      rw [List.cons_append, inserted]
      cases List.append_eq_append_iff.mp (others.symm.trans place) with
      | inl behind =>
          obtain ⟨between, rfl, rfl⟩ := behind
          have later := more x (List.mem_append_right between List.mem_cons_self)
          refine ⟨smaller ++ y :: between, rest, by simp, ?_⟩
          rw [rankAt_cons_of_le later, ← length]
          simp only [List.length_append, List.length_cons]
          omega
      | inr reached =>
          obtain ⟨between, rfl, same⟩ := reached
          cases between with
          | nil =>
              rw [List.nil_append] at same
              have later := more x (same ▸ List.mem_cons_self)
              refine ⟨first ++ [y], rest, by simp [← same], ?_⟩
              rw [rankAt_cons_of_le later, ← length, List.length_append, List.length_singleton]
          | cons z between =>
              obtain ⟨rfl, rfl⟩ := List.cons.inj same
              have earlier := less x (List.mem_append_right first List.mem_cons_self)
              refine ⟨first, between ++ y :: larger, by simp, ?_⟩
              rw [rankAt_cons_of_lt earlier, length]

/-- Every place of the sorted list belongs to an element. -/
theorem exists_origin {list first : List α} {x : α} {rest : List α}
    (place : list.mergeSort le = first ++ x :: rest) :
    ∃ before after, list = before ++ x :: after ∧ first.length = rankAt le before x after := by
  induction list generalizing first rest with
  | nil => simp at place
  | cons y list ih =>
      obtain ⟨smaller, larger, inserted, others, length, less, more⟩ :=
        mergeSort_insert trans total y list
      rw [inserted] at place
      cases List.append_eq_append_iff.mp place with
      | inl reached =>
          obtain ⟨between, rfl, same⟩ := reached
          cases between with
          | nil =>
              obtain ⟨rfl, rfl⟩ := List.cons.inj same
              exact ⟨[], list, rfl, by simp [rankAt, length]⟩
          | cons z between =>
              obtain ⟨rfl, rfl⟩ := List.cons.inj same
              have later := more x (List.mem_append_right between List.mem_cons_self)
              have placed := others.trans (List.append_assoc smaller between (x :: rest)).symm
              obtain ⟨before, after, rfl, rank⟩ := ih placed
              refine ⟨y :: before, after, rfl, ?_⟩
              rw [rankAt_cons_of_le later, ← rank]
              simp only [List.length_append, List.length_cons]
              omega
      | inr behind =>
          obtain ⟨between, rfl, same⟩ := behind
          cases between with
          | nil =>
              obtain ⟨rfl, rfl⟩ := List.cons.inj same
              refine ⟨[], list, rfl, ?_⟩
              rw [List.append_nil] at length
              simp [rankAt, length]
          | cons z between =>
              obtain ⟨rfl, rfl⟩ := List.cons.inj same
              have earlier := less x (List.mem_append_right first List.mem_cons_self)
              rw [List.append_assoc, List.cons_append] at others
              obtain ⟨before, after, rfl, rank⟩ := ih others
              refine ⟨y :: before, after, rfl, ?_⟩
              rw [rankAt_cons_of_lt earlier, rank]

end Ranks

section Front

variable {p : α → Bool} {list : List α}

/-- The first elements are of one kind where none of another stands so early. -/
theorem forall_take_iff (m : Nat) : (∀ x ∈ list.take m, p x = true) ↔
    ∀ first x rest, list = first ++ x :: rest → p x = false → m ≤ first.length := by
  constructor
  · intro front first x rest place other
    by_contra early
    have taken : x ∈ list.take m := by
      rw [place, List.take_append, List.mem_append]
      right
      rw [List.take_cons (by omega)]
      exact List.mem_cons_self
    exact absurd (front x taken) (ne_true_of_eq_false other)
  · intro late x taken
    by_contra other
    obtain ⟨first, rest, place⟩ := List.append_of_mem taken
    have whole : list = first ++ x :: (rest ++ list.drop m) := by
      rw [← List.cons_append, ← List.append_assoc, ← place, List.take_append_drop]
    have bound := late first x _ whole (eq_false_of_ne_true other)
    have short := congrArg List.length place
    rw [List.length_take, List.length_append, List.length_cons] at short
    omega

/-- Where a list is shown up to a limit, the elements of one kind come first among those shown,
and none is cut off behind another, if the list begins with them. -/
theorem forall_front_iff (limit : Nat) :
    ((list.take limit).Pairwise (fun earlier later => p later = true → p earlier = true) ∧
      ∀ x ∈ list.drop limit, p x = true → ∀ y ∈ list.take limit, p y = true) ↔
      ∀ x ∈ list.take (min limit (list.countP p)), p x = true := by
  induction list generalizing limit with
  | nil => simp
  | cons y list ih =>
      cases limit with
      | zero => simp
      | succ limit =>
          rw [List.take_succ_cons, List.drop_succ_cons, List.pairwise_cons]
          cases kind : p y with
          | true =>
              rw [List.countP_cons_of_pos kind, Nat.succ_min_succ, List.take_succ_cons]
              simp only [List.forall_mem_cons, ← ih limit]
              simp [kind]
          | false =>
              rw [List.countP_cons_of_neg (ne_true_of_eq_false kind)]
              constructor
              · intro shown
                obtain ⟨⟨apart, _⟩, cut⟩ := shown
                have absent : list.countP p = 0 := by
                  rw [List.countP_eq_zero]
                  intro x listed hidden
                  rw [← List.take_append_drop limit list, List.mem_append] at listed
                  cases listed with
                  | inl taken => exact Bool.false_ne_true (apart x taken hidden)
                  | inr dropped =>
                      exact ne_true_of_eq_false kind (cut x dropped hidden y List.mem_cons_self)
                rw [absent]
                simp
              · intro front
                have absent : list.countP p = 0 := by
                  by_contra some_
                  have early : y ∈ (y :: list).take (min (limit + 1) (list.countP p)) := by
                    rw [List.take_cons (by omega)]
                    exact List.mem_cons_self
                  exact ne_true_of_eq_false kind (front y early)
                rw [List.countP_eq_zero] at absent
                refine ⟨⟨?_, ?_⟩, ?_⟩
                · intro x taken hidden
                  exact absurd hidden (absent x (List.mem_of_mem_take taken))
                · apply List.pairwise_of_forall_mem_list
                  intro earlier _ later taken hidden
                  exact absurd hidden (absent later (List.mem_of_mem_take taken))
                · intro x dropped hidden
                  exact absurd hidden (absent x (List.mem_of_mem_drop dropped))

end Front

/-- The sorted list begins with elements of one kind where none of another ranks so early. -/
theorem forall_take_mergeSort_iff {le : α → α → Bool}
    (trans : ∀ x y z, le x y = true → le y z = true → le x z = true)
    (total : ∀ x y, (le x y || le y x) = true) {p : α → Bool} {list : List α} (m : Nat) :
    (∀ x ∈ (list.mergeSort le).take m, p x = true) ↔
      ∀ before x after, list = before ++ x :: after → p x = false →
        m ≤ rankAt le before x after := by
  rw [forall_take_iff]
  constructor
  · intro late before x after origin other
    obtain ⟨first, rest, place, rank⟩ := exists_place trans total before x after
    exact rank ▸ late first x rest (origin ▸ place) other
  · intro late first x rest place other
    obtain ⟨before, after, origin, rank⟩ := exists_origin trans total place
    exact rank ▸ late before x after origin other

end Mintarr.Lib
