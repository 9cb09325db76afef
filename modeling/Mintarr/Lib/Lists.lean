import Mathlib.Data.List.Forall2

/-!
# Lists that correspond, lists in another order, and lists without repetitions

An element of one of two related lists has its partner in the other, and a fold of steps
that commute does not depend on the order.  Of elements with one key the first is kept.
-/

namespace Mintarr.Lib

variable {α β : Type}

theorem Related.right {related : α → β → Prop} {left : List α} {right : List β}
    (listed : List.Forall₂ related left right) {x : α} (present : x ∈ left) :
    ∃ y ∈ right, related x y := by
  induction listed with
  | nil => contradiction
  | cons head _ ih =>
      cases List.mem_cons.mp present with
      | inl first => exact ⟨_, List.mem_cons_self, first ▸ head⟩
      | inr later =>
          obtain ⟨y, member, step⟩ := ih later
          exact ⟨y, List.mem_cons_of_mem _ member, step⟩

theorem Related.left {related : α → β → Prop} {left : List α} {right : List β}
    (listed : List.Forall₂ related left right) {y : β} (present : y ∈ right) :
    ∃ x ∈ left, related x y := by
  obtain ⟨x, member, step⟩ := Related.right listed.flip present
  exact ⟨x, member, step⟩

/-- Lists that are related in two ways are so pair by pair. -/
theorem Related.both {first second : α → β → Prop} {left : List α} {right : List β}
    (one : List.Forall₂ first left right) (other : List.Forall₂ second left right) :
    List.Forall₂ (fun x y => first x y ∧ second x y) left right := by
  induction one with
  | nil => exact .nil
  | cons head _ ih =>
      cases other with
      | cons head' tail => exact .cons ⟨head, head'⟩ (ih tail)

theorem Related.countP_le {p : α → Bool} {q : β → Bool} {left : List α} {right : List β}
    (listed : List.Forall₂ (fun x y => p x = true → q y = true) left right) :
    left.countP p ≤ right.countP q := by
  induction listed with
  | nil => exact Nat.le_refl 0
  | @cons x y _ _ head _ ih =>
      rw [List.countP_cons, List.countP_cons]
      by_cases holds : p x = true
      · rw [if_pos holds, if_pos (head holds)]
        exact Nat.succ_le_succ ih
      · rw [if_neg holds]
        exact Nat.le_add_right_of_le ih

/-- With one pair more there are more on the right. -/
theorem Related.countP_lt {p : α → Bool} {q : β → Bool} {left : List α} {right : List β}
    (listed : List.Forall₂ (fun x y => p x = true → q y = true) left right) {x : α} {y : β}
    (paired : (x, y) ∈ left.zip right) (fails : p x = false) (holds : q y = true) :
    left.countP p < right.countP q := by
  induction listed with
  | nil => contradiction
  | @cons x' y' _ _ head tail ih =>
      rw [List.countP_cons, List.countP_cons]
      rw [List.zip_cons_cons, List.mem_cons] at paired
      cases paired with
      | inl same =>
          obtain ⟨rfl, rfl⟩ := Prod.mk.inj same
          rw [fails, holds]
          exact Nat.lt_succ_of_le (Related.countP_le tail)
      | inr later =>
          have more := ih later
          by_cases first : p x' = true
          · rw [if_pos first, if_pos (head first)]
            exact Nat.succ_lt_succ more
          · rw [if_neg first]
            exact Nat.lt_add_right _ more

/-- Two elements in their order, with their partners. -/
theorem Related.zip_sublist {left : List α} {right : List β} (bound : left.length ≤ right.length)
    {x y : α} (order : [x, y].Sublist left) :
    ∃ a b, [(x, a), (y, b)].Sublist (left.zip right) := by
  have unzipped : (left.zip right).map Prod.fst = left := List.map_fst_zip bound
  rw [← unzipped] at order
  obtain ⟨pairs, paired, same⟩ := List.sublist_map_iff.mp order
  obtain ⟨first, rest, rfl, firstSame, same⟩ := List.map_eq_cons_iff.mp same.symm
  obtain ⟨second, behind, rfl, secondSame, same⟩ := List.map_eq_cons_iff.mp same
  cases List.map_eq_nil_iff.mp same
  subst firstSame secondSame
  exact ⟨first.2, second.2, paired⟩

/-- Elements that carry the same value make equal lists of values. -/
theorem Related.map_eq {γ : Type} {related : α → β → Prop} {left : List α} {right : List β}
    (listed : List.Forall₂ related left right) {first : α → γ} {second : β → γ}
    (agree : ∀ x y, related x y → first x = second y) :
    left.map first = right.map second := by
  induction listed with
  | nil => rfl
  | cons head _ ih => rw [List.map_cons, List.map_cons, agree _ _ head, ih]

/-- Steps that commute may be taken in any order. -/
theorem foldlM_perm {step : β → α → Option β} {first second : List α}
    (reordered : first.Perm second)
    (commute : ∀ x ∈ first, ∀ y ∈ first, ∀ state,
      (step state x).bind (step · y) = (step state y).bind (step · x)) (start : β) :
    first.foldlM step start = second.foldlM step start := by
  induction reordered generalizing start with
  | nil => rfl
  | cons head _ ih =>
      simp only [List.foldlM_cons]
      have later := ih fun x memX y memY =>
        commute x (List.mem_cons_of_mem head memX) y (List.mem_cons_of_mem head memY)
      simp only [later]
  | swap left right rest =>
      simp only [List.foldlM_cons, ← bind_assoc]
      have swapped := commute right List.mem_cons_self left
        (List.mem_cons_of_mem right List.mem_cons_self) start
      exact congrArg (fun state => state >>= fun next => rest.foldlM step next) swapped
  | trans left _ ihLeft ihRight =>
      rw [ihLeft commute, ihRight]
      intro x memX y memY
      exact commute x (left.mem_iff.mpr memX) y (left.mem_iff.mpr memY)

/-- A fold over parts goes through them one after the other. -/
theorem foldlM_flatMap {γ : Type} {m : Type → Type} [Monad m] [LawfulMonad m]
    (step : γ → β → m γ) (parts : α → List β) (list : List α) (start : γ) :
    (list.flatMap parts).foldlM step start =
      list.foldlM (fun state x => (parts x).foldlM step state) start := by
  induction list generalizing start with
  | nil => rfl
  | cons x rest ih => simp only [List.flatMap_cons, List.foldlM_append, List.foldlM_cons, ih]

theorem length_flatMap_le {γ : Type} {f : α → List β} {g : α → List γ} {list : List α}
    (each : ∀ x ∈ list, (f x).length ≤ (g x).length) :
    (list.flatMap f).length ≤ (list.flatMap g).length := by
  induction list with
  | nil => exact Nat.le_refl 0
  | cons first rest ih =>
      rw [List.forall_mem_cons] at each
      rw [List.flatMap_cons, List.flatMap_cons, List.length_append, List.length_append]
      exact Nat.add_le_add each.1 (ih each.2)

theorem filter_eq_flatMap (p : α → Bool) (list : List α) :
    list.filter p = list.flatMap fun x => if p x = true then [x] else [] := by
  induction list with
  | nil => rfl
  | cons first rest ih =>
      rw [List.filter_cons, List.flatMap_cons, ih]
      split <;> rfl

/-- A list of results is there where each of them is. -/
theorem isSome_mapM {f : α → Option β} (list : List α) :
    (list.mapM f).isSome = true ↔ ∀ x ∈ list, (f x).isSome = true := by
  induction list with
  | nil => simp
  | cons x rest ih =>
      rw [List.mapM_cons, List.forall_mem_cons, ← ih]
      cases f x <;> cases rest.mapM f <;> simp

/-- A result comes from an element. -/
theorem exists_of_mem_mapM {f : α → Option β} {list : List α} {results : List β}
    (mapped : list.mapM f = some results) {y : β} (listed : y ∈ results) :
    ∃ x ∈ list, f x = some y := by
  induction list generalizing results with
  | nil =>
      cases mapped
      contradiction
  | cons x rest ih =>
      rw [List.mapM_cons] at mapped
      obtain ⟨first, head, mapped⟩ := Option.bind_eq_some_iff.mp mapped
      obtain ⟨others, tail, mapped⟩ := Option.bind_eq_some_iff.mp mapped
      cases mapped
      rcases List.mem_cons.mp listed with same | later
      · exact ⟨x, List.mem_cons_self, same ▸ head⟩
      · obtain ⟨origin, mem, result⟩ := ih tail later
        exact ⟨origin, List.mem_cons_of_mem x mem, result⟩

/-- There are as many results as elements. -/
theorem length_of_mapM {f : α → Option β} {list : List α} {results : List β}
    (mapped : list.mapM f = some results) : results.length = list.length := by
  induction list generalizing results with
  | nil =>
      cases mapped
      rfl
  | cons x rest ih =>
      rw [List.mapM_cons] at mapped
      obtain ⟨first, _, mapped⟩ := Option.bind_eq_some_iff.mp mapped
      obtain ⟨others, tail, mapped⟩ := Option.bind_eq_some_iff.mp mapped
      cases mapped
      rw [List.length_cons, List.length_cons, ih tail]

/-! ## The first of every key -/

section Distinct

variable {κ : Type} [DecidableEq κ]

/-- The elements whose key is neither in `seen` nor that of an earlier one. -/
def distinctFrom (key : α → κ) (seen : List κ) : List α → List α
  | [] => []
  | x :: rest =>
      if key x ∈ seen then distinctFrom key seen rest
      else x :: distinctFrom key (key x :: seen) rest

/-- The first element of every key. -/
def distinctBy (key : α → κ) (list : List α) : List α := distinctFrom key [] list

variable {key : α → κ}

/-- Only membership in what was seen counts. -/
theorem distinctFrom_congr {seen other : List κ} (same : ∀ k, k ∈ seen ↔ k ∈ other)
    (list : List α) : distinctFrom key seen list = distinctFrom key other list := by
  induction list generalizing seen other with
  | nil => rfl
  | cons x rest ih =>
      have cons : ∀ k, k ∈ key x :: seen ↔ k ∈ key x :: other := by
        intro k
        rw [List.mem_cons, List.mem_cons, same]
      simp only [distinctFrom, same, ih same, ih cons]

/-- The keys that are left are those of the list that were not seen. -/
theorem mem_map_distinctFrom {seen : List κ} {list : List α} {k : κ} :
    k ∈ (distinctFrom key seen list).map key ↔ k ∈ list.map key ∧ k ∉ seen := by
  induction list generalizing seen with
  | nil => simp [distinctFrom]
  | cons x rest ih =>
      unfold distinctFrom
      split
      · next present =>
          rw [ih, List.map_cons, List.mem_cons]
          constructor
          · intro later
            exact ⟨Or.inr later.1, later.2⟩
          · intro both
            rcases both.1 with same | later
            · exact absurd (same ▸ present) both.2
            · exact ⟨later, both.2⟩
      · next absent =>
          rw [List.map_cons, List.map_cons, List.mem_cons, List.mem_cons, ih, List.mem_cons,
            not_or]
          constructor
          · intro present
            rcases present with same | later
            · exact ⟨Or.inl same, same ▸ absent⟩
            · exact ⟨Or.inr later.1, later.2.2⟩
          · intro both
            by_cases same : k = key x
            · exact Or.inl same
            · exact Or.inr ⟨both.1.resolve_left same, same, both.2⟩

/-- No two elements that are left have the same key. -/
theorem nodup_distinctFrom {seen : List κ} (list : List α) :
    ((distinctFrom key seen list).map key).Nodup := by
  induction list generalizing seen with
  | nil => simp [distinctFrom]
  | cons x rest ih =>
      unfold distinctFrom
      split
      · exact ih
      · rw [List.map_cons, List.nodup_cons, mem_map_distinctFrom]
        constructor
        · intro later
          exact later.2 List.mem_cons_self
        · exact ih

/-- The parts of a list keep what the parts before them do not have. -/
theorem distinctFrom_append {seen : List κ} (front back : List α) :
    distinctFrom key seen (front ++ back) =
      distinctFrom key seen front ++ distinctFrom key (front.map key ++ seen) back := by
  induction front generalizing seen with
  | nil => rfl
  | cons x front ih =>
      rw [List.cons_append, distinctFrom, distinctFrom]
      split
      · next present =>
          rw [ih]
          congr 1
          apply distinctFrom_congr
          intro k
          simp only [List.map_cons, List.cons_append, List.mem_cons, List.mem_append]
          constructor
          · intro listed
            exact Or.inr listed
          · intro listed
            rcases listed with same | listed
            · exact Or.inr (same ▸ present)
            · exact listed
      · rw [ih, List.cons_append]
        congr 2
        apply distinctFrom_congr
        intro k
        simp only [List.map_cons, List.cons_append, List.mem_cons, List.mem_append]
        tauto

/-- Repetitions within the parts make no difference. -/
theorem distinctFrom_flatMap {β : Type} (f : β → List α) (seen : List κ) (list : List β) :
    distinctFrom key seen (list.flatMap fun x => distinctBy key (f x)) =
      distinctFrom key seen (list.flatMap f) := by
  have inner : ∀ (seen : List κ) (part : List α), ∀ base : List κ,
      (∀ k ∈ base, k ∈ seen) →
      distinctFrom key seen (distinctFrom key base part) = distinctFrom key seen part := by
    intro seen part
    induction part generalizing seen with
    | nil =>
        intro base within
        rfl
    | cons x rest ih =>
        intro base within
        by_cases based : key x ∈ base
        · rw [distinctFrom, if_pos based, ih seen base within]
          rw [distinctFrom, if_pos (within _ based)]
        · rw [distinctFrom, if_neg based]
          by_cases present : key x ∈ seen
          · rw [distinctFrom, if_pos present, distinctFrom, if_pos present]
            apply ih
            rw [List.forall_mem_cons]
            exact ⟨present, within⟩
          · rw [distinctFrom, if_neg present, distinctFrom, if_neg present]
            congr 1
            apply ih
            rw [List.forall_mem_cons]
            refine ⟨List.mem_cons_self, ?_⟩
            intro k listed
            exact List.mem_cons_of_mem _ (within k listed)
  induction list generalizing seen with
  | nil => rfl
  | cons x rest ih =>
      rw [List.flatMap_cons, List.flatMap_cons, distinctFrom_append, distinctFrom_append, ih]
      congr 1
      · exact inner seen (f x) [] (by simp)
      · apply distinctFrom_congr
        intro k
        have kept : k ∈ (distinctBy key (f x)).map key ↔ k ∈ (f x).map key := by
          rw [distinctBy, mem_map_distinctFrom]
          simp
        rw [List.mem_append, List.mem_append, kept]

end Distinct

end Mintarr.Lib
