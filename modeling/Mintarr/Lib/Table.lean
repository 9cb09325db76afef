import Mathlib.Data.List.Sort

/-!
# Tables with an auto-increment key

Rows carry a natural key.  A table lists its rows in the order of their keys,
knows the next key it will hand out, and can only be built so that no key
occurs twice and no key is handed out again.  The two mutations are the ones a
row store offers: insert one row under the next key, and change every row that
satisfies a condition without touching its key.

`Evolves` is the relation between an earlier and a later table that follows from
what the mutations do to single rows.
-/

namespace Mintarr.Lib

universe u

/-- A table with an auto-increment key. -/
structure Table (ρ : Type u) (key : ρ → Nat) where
  rows : List ρ
  nextKey : Nat
  ascending : (rows.map key).Pairwise (· < ·)
  fresh : ∀ row ∈ rows, key row < nextKey

namespace Table

variable {ρ : Type u} {key : ρ → Nat}

/-- The empty table; the first key is 1. -/
def empty : Table ρ key where
  rows := []
  nextKey := 1
  ascending := .nil
  fresh := by simp

/-- Insert the row built for the next key. -/
def insert (table : Table ρ key) (make : Nat → ρ)
    (keyed : ∀ fresh, key (make fresh) = fresh := by intro; rfl) : Table ρ key where
  rows := table.rows ++ [make table.nextKey]
  nextKey := table.nextKey + 1
  ascending := by
    rw [List.map_append, List.pairwise_append]
    refine ⟨table.ascending, by simp, ?_⟩
    intro earlier earlierMem later laterMem
    simp only [List.map_cons, List.map_nil, List.mem_singleton] at laterMem
    rw [List.mem_map] at earlierMem
    rcases earlierMem with ⟨row, rowMem, rfl⟩
    rw [laterMem, keyed]
    exact table.fresh row rowMem
  fresh := by
    intro row rowMem
    rw [List.mem_append, List.mem_singleton] at rowMem
    rcases rowMem with old | rfl
    · exact Nat.lt_succ_of_lt (table.fresh row old)
    · rw [keyed]
      exact Nat.lt_succ_self _

/-- Change every accepted row. -/
def update (table : Table ρ key) (accept : ρ → Bool) (change : ρ → ρ)
    (keeps : ∀ row, key (change row) = key row := by intro; rfl) : Table ρ key where
  rows := table.rows.map fun row => if accept row then change row else row
  nextKey := table.nextKey
  ascending := by
    have keysEq : (table.rows.map fun row => if accept row then change row else row).map
        key = table.rows.map key := by
      rw [List.map_map]
      apply List.map_congr_left
      intro row _
      simp only [Function.comp_apply]
      split
      · exact keeps row
      · rfl
    rw [keysEq]
    exact table.ascending
  fresh := by
    intro row rowMem
    rw [List.mem_map] at rowMem
    rcases rowMem with ⟨old, oldMem, rfl⟩
    have bound := table.fresh old oldMem
    split
    · rw [keeps]
      exact bound
    · exact bound

/-- One keyed update after the other: for every listed row, change the row that
now has its key. -/
def updateEach (table : Table ρ key) (selected : List ρ) (change : ρ → ρ → ρ)
    (keeps : ∀ item row, key (change item row) = key row := by intros; rfl) :
    Table ρ key :=
  selected.foldl
    (fun table item =>
      table.update (fun row => key row = key item) (change item) (keeps item)) table

/-- Number of rows a condition selects. -/
def count (table : Table ρ key) (accept : ρ → Bool) : Nat :=
  (table.rows.filter accept).length

/-- The accepted row with the largest key. -/
def latest? (table : Table ρ key) (accept : ρ → Bool) : Option ρ :=
  (table.rows.filter accept).getLast?

/-- The row under a key. -/
def find? (table : Table ρ key) (wanted : Nat) : Option ρ :=
  table.rows.find? fun row => key row = wanted

section Lookup

variable {table : Table ρ key} {accept : ρ → Bool}

@[simp] theorem rows_empty : (empty : Table ρ key).rows = [] := rfl

theorem mem_insert {make : Nat → ρ} {keyed : ∀ fresh, key (make fresh) = fresh}
    {row : ρ} : row ∈ (table.insert make keyed).rows ↔
      row ∈ table.rows ∨ row = make table.nextKey := by
  simp [insert]

theorem mem_update {change : ρ → ρ} {keeps : ∀ row, key (change row) = key row}
    {row : ρ} : row ∈ (table.update accept change keeps).rows ↔
      ∃ old ∈ table.rows, (if accept old then change old else old) = row := by
  simp [update]

theorem nodup_keys (table : Table ρ key) : (table.rows.map key).Nodup :=
  table.ascending.imp fun below => Nat.ne_of_lt below

/-- A key identifies a row. -/
theorem eq_of_key_eq {left right : ρ} (leftMem : left ∈ table.rows)
    (rightMem : right ∈ table.rows) (equal : key left = key right) : left = right :=
  List.inj_on_of_nodup_map table.nodup_keys leftMem rightMem equal

/-- Rows selected in table order have distinct keys. -/
theorem nodup_keys_of_sublist {selected : List ρ} (sub : selected.Sublist table.rows) :
    (selected.map key).Nodup :=
  table.nodup_keys.sublist (sub.map key)

/-- What a pass of keyed updates leaves, when it works on distinct rows of the
table: the rows under other keys, and the changed form of every listed row. -/
theorem mem_updateEach {change : ρ → ρ → ρ}
    {keeps : ∀ item row, key (change item row) = key row} {selected : List ρ}
    (distinct : (selected.map key).Nodup) (listed : ∀ item ∈ selected, item ∈ table.rows)
    {row : ρ} : row ∈ (table.updateEach selected change keeps).rows ↔
      (row ∈ table.rows ∧ ∀ item ∈ selected, key item ≠ key row) ∨
        ∃ item ∈ selected, change item item = row := by
  induction selected generalizing table with
  | nil => simp [updateEach]
  | cons first rest ih =>
      rw [List.map_cons, List.nodup_cons] at distinct
      have firstMem := listed first List.mem_cons_self
      have others : ∀ item ∈ rest, key item ≠ key first := by
        intro item itemMem equal
        exact distinct.1 (equal ▸ List.mem_map_of_mem itemMem)
      let middle := table.update (fun row => key row = key first) (change first) (keeps first)
      have middleMem : ∀ {row : ρ}, row ∈ middle.rows ↔
          (row ∈ table.rows ∧ key first ≠ key row) ∨ row = change first first := by
        intro row
        rw [mem_update]
        constructor
        · intro changed
          rcases changed with ⟨old, oldMem, rfl⟩
          by_cases equal : key old = key first
          · rw [eq_of_key_eq oldMem firstMem equal]
            simp
          · simpa [equal] using Or.inl ⟨oldMem, Ne.symm equal⟩
        · intro left
          rcases left with ⟨rowMem, differs⟩ | rfl
          · exact ⟨row, rowMem, by simp [Ne.symm differs]⟩
          · exact ⟨first, firstMem, by simp⟩
      have restListed : ∀ item ∈ rest, item ∈ middle.rows := by
        intro item itemMem
        have itemListed := listed item (List.mem_cons_of_mem _ itemMem)
        exact middleMem.mpr (Or.inl ⟨itemListed, (others item itemMem).symm⟩)
      have step : table.updateEach (first :: rest) change keeps =
          middle.updateEach rest change keeps := rfl
      rw [step, ih distinct.2 restListed, middleMem]
      constructor
      · intro left
        rcases left with ⟨⟨rowMem, differs⟩ | rfl, absent⟩ | ⟨item, itemMem, rfl⟩
        · exact Or.inl ⟨rowMem, List.forall_mem_cons.mpr ⟨differs, absent⟩⟩
        · exact Or.inr ⟨first, List.mem_cons_self, rfl⟩
        · exact Or.inr ⟨item, List.mem_cons_of_mem _ itemMem, rfl⟩
      · intro left
        rcases left with ⟨rowMem, absent⟩ | ⟨item, itemMem, rfl⟩
        · have absent := List.forall_mem_cons.mp absent
          exact Or.inl ⟨Or.inl ⟨rowMem, absent.1⟩, absent.2⟩
        · rcases List.mem_cons.mp itemMem with rfl | itemMem
          · refine Or.inl ⟨Or.inr rfl, ?_⟩
            intro other otherMem
            rw [keeps]
            exact others other otherMem
          · exact Or.inr ⟨item, itemMem, rfl⟩

@[simp] theorem nextKey_updateEach {change : ρ → ρ → ρ}
    {keeps : ∀ item row, key (change item row) = key row} {selected : List ρ} :
    (table.updateEach selected change keeps).nextKey = table.nextKey := by
  induction selected generalizing table with
  | nil => rfl
  | cons first rest ih => exact ih

theorem find?_eq_some {wanted : Nat} {row : ρ} :
    table.find? wanted = some row ↔ row ∈ table.rows ∧ key row = wanted := by
  constructor
  · intro found
    exact ⟨List.mem_of_find?_eq_some found, by simpa using List.find?_some found⟩
  · intro stored
    rcases stored with ⟨rowMem, rfl⟩
    cases found : table.find? (key row) with
    | none =>
        have absent := List.find?_eq_none.mp found row rowMem
        simp at absent
    | some other =>
        have otherMem := List.mem_of_find?_eq_some found
        have equal : key other = key row := by simpa using List.find?_some found
        rw [eq_of_key_eq otherMem rowMem equal]

theorem mem_of_latest? {row : ρ} (found : table.latest? accept = some row) :
    row ∈ table.rows ∧ accept row = true := by
  have member := List.mem_of_getLast? found
  simpa using member

theorem latest?_eq_none : table.latest? accept = none ↔
    ∀ row ∈ table.rows, accept row = false := by
  simp [latest?]

theorem count_pos_iff : 0 < table.count accept ↔ ∃ row ∈ table.rows, accept row = true := by
  simp [count, List.length_pos_iff_exists_mem]

end Lookup

/-- How a table may have changed: every earlier row is still there, moved along
`moved`, and every later row is an earlier one or `entered` under a new key. -/
structure Evolves (moved : ρ → ρ → Prop) (entered : ρ → Prop)
    (before after : Table ρ key) : Prop where
  forth : ∀ row ∈ before.rows, ∃ next ∈ after.rows,
    key next = key row ∧ moved row next
  back : ∀ next ∈ after.rows,
    (∃ row ∈ before.rows, key row = key next ∧ moved row next) ∨
      (before.nextKey ≤ key next ∧ entered next)
  nextKey_le : before.nextKey ≤ after.nextKey

namespace Evolves

variable {moved : ρ → ρ → Prop} {entered : ρ → Prop}
variable {before middle after : Table ρ key}

theorem refl (stays : ∀ row, moved row row) (table : Table ρ key) :
    Evolves moved entered table table where
  forth row rowMem := ⟨row, rowMem, rfl, stays row⟩
  back row rowMem := Or.inl ⟨row, rowMem, rfl, stays row⟩
  nextKey_le := Nat.le_refl _

/-- An update evolves the table when it moves the rows it accepts. -/
theorem update (stays : ∀ row, moved row row) (table : Table ρ key)
    {accept : ρ → Bool} {change : ρ → ρ} (keeps : ∀ row, key (change row) = key row)
    (moves : ∀ row ∈ table.rows, accept row = true → moved row (change row)) :
    Evolves moved entered table (table.update accept change keeps) where
  forth row rowMem := by
    refine ⟨if accept row then change row else row, ?_, ?_, ?_⟩
    · exact mem_update.mpr ⟨row, rowMem, rfl⟩
    · split
      · exact keeps row
      · rfl
    · split
      · next accepted => exact moves row rowMem accepted
      · exact stays row
  back next nextMem := by
    rcases mem_update.mp nextMem with ⟨row, rowMem, rfl⟩
    refine Or.inl ⟨row, rowMem, ?_, ?_⟩
    · split
      · exact (keeps row).symm
      · rfl
    · split
      · next accepted => exact moves row rowMem accepted
      · exact stays row
  nextKey_le := Nat.le_refl _

/-- A pass of keyed updates evolves the table when it moves the listed rows. -/
theorem updateEach (stays : ∀ row, moved row row) (table : Table ρ key)
    {selected : List ρ} {change : ρ → ρ → ρ}
    (keeps : ∀ item row, key (change item row) = key row)
    (distinct : (selected.map key).Nodup) (listed : ∀ item ∈ selected, item ∈ table.rows)
    (moves : ∀ item ∈ selected, moved item (change item item)) :
    Evolves moved entered table (table.updateEach selected change keeps) where
  forth row rowMem := by
    by_cases chosen : ∃ item ∈ selected, key item = key row
    · rcases chosen with ⟨item, itemMem, equal⟩
      rcases eq_of_key_eq (listed item itemMem) rowMem equal with rfl
      refine ⟨change item item, ?_, keeps item item, moves item itemMem⟩
      exact (mem_updateEach distinct listed).mpr (Or.inr ⟨item, itemMem, rfl⟩)
    · push Not at chosen
      exact ⟨row, (mem_updateEach distinct listed).mpr (Or.inl ⟨rowMem, chosen⟩), rfl,
        stays row⟩
  back next nextMem := by
    rcases (mem_updateEach distinct listed).mp nextMem with ⟨old, _⟩ | ⟨item, itemMem, rfl⟩
    · exact Or.inl ⟨next, old, rfl, stays next⟩
    · exact Or.inl ⟨item, listed item itemMem, (keeps item item).symm, moves item itemMem⟩
  nextKey_le := Nat.le_of_eq nextKey_updateEach.symm

/-- An insertion evolves the table when the new row may enter. -/
theorem insert (stays : ∀ row, moved row row) (table : Table ρ key)
    {make : Nat → ρ} (keyed : ∀ fresh, key (make fresh) = fresh)
    (enters : entered (make table.nextKey)) :
    Evolves moved entered table (table.insert make keyed) where
  forth row rowMem := ⟨row, mem_insert.mpr (Or.inl rowMem), rfl, stays row⟩
  back next nextMem := by
    rcases mem_insert.mp nextMem with old | rfl
    · exact Or.inl ⟨next, old, rfl, stays next⟩
    · exact Or.inr ⟨Nat.le_of_eq (keyed _).symm, enters⟩
  nextKey_le := Nat.le_succ _

/-- What moving preserves and entering establishes holds of all later rows. -/
theorem forall_rows {holds : ρ → Prop} (evolved : Evolves moved entered before after)
    (kept : ∀ row next, holds row → moved row next → holds next)
    (established : ∀ row, entered row → holds row)
    (every : ∀ row ∈ before.rows, holds row) : ∀ row ∈ after.rows, holds row := by
  intro next nextMem
  rcases evolved.back next nextMem with ⟨row, rowMem, _, move⟩ | ⟨_, new⟩
  · exact kept row next (every row rowMem) move
  · exact established next new

end Evolves

end Table

end Mintarr.Lib
