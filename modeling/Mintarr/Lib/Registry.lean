import Mathlib.Data.List.Nodup

/-!
# Rows under a key of their own

A registry lists rows that carry the key they are stored under, and can only be
built so that no key occurs twice.  Rows are read by key; the mutations add
a row under a key that is not taken, change the row under a key or every row, and remove the
row under a key.
-/

namespace Mintarr.Lib

universe u v

/-- Rows stored under distinct keys. -/
structure Registry (ρ : Type u) {κ : Type v} (key : ρ → κ) where
  rows : List ρ
  distinct : (rows.map key).Nodup

namespace Registry

variable {ρ : Type u} {κ : Type v} {key : ρ → κ}

/-- The registry without rows. -/
def empty : Registry ρ key := ⟨[], .nil⟩

variable [DecidableEq κ]

/-- The row under a key. -/
def find? (registry : Registry ρ key) (wanted : κ) : Option ρ :=
  registry.rows.find? fun row => key row = wanted

/-- Change the row under a key. -/
def modify (registry : Registry ρ key) (wanted : κ) (change : ρ → ρ)
    (keeps : ∀ row, key (change row) = key row := by intro; rfl) : Registry ρ key where
  rows := registry.rows.map fun row => if key row = wanted then change row else row
  distinct := by
    have keysEq : (registry.rows.map fun row =>
        if key row = wanted then change row else row).map key = registry.rows.map key := by
      rw [List.map_map]
      apply List.map_congr_left
      intro row _
      simp only [Function.comp_apply]
      split
      · exact keeps row
      · rfl
    rw [keysEq]
    exact registry.distinct

/-- Add a row; the registry stays as it is when the key is taken. -/
def add (registry : Registry ρ key) (row : ρ) : Registry ρ key :=
  if taken : key row ∈ registry.rows.map key then registry
  else
    { rows := row :: registry.rows
      distinct := by
        rw [List.map_cons, List.nodup_cons]
        exact ⟨taken, registry.distinct⟩ }

/-- Change every row. -/
def map (registry : Registry ρ key) (change : ρ → ρ)
    (keeps : ∀ row, key (change row) = key row := by intro; rfl) : Registry ρ key where
  rows := registry.rows.map change
  distinct := by
    have same : key ∘ change = key := funext keeps
    rw [List.map_map, same]
    exact registry.distinct

/-- Remove the row under a key. -/
def remove (registry : Registry ρ key) (wanted : κ) : Registry ρ key where
  rows := registry.rows.filter fun row => key row ≠ wanted
  distinct := registry.distinct.sublist (List.filter_sublist.map key)

@[simp] theorem find?_empty (wanted : κ) :
    (empty : Registry ρ key).find? wanted = none := rfl

variable {registry : Registry ρ key}

theorem find?_eq_some {wanted : κ} {row : ρ} :
    registry.find? wanted = some row ↔ row ∈ registry.rows ∧ key row = wanted := by
  constructor
  · intro found
    exact ⟨List.mem_of_find?_eq_some found, by simpa using List.find?_some found⟩
  · intro stored
    rcases stored with ⟨rowMem, rfl⟩
    cases found : registry.find? (key row) with
    | none =>
        have absent := List.find?_eq_none.mp found row rowMem
        simp at absent
    | some other =>
        have otherMem := List.mem_of_find?_eq_some found
        have equal : key other = key row := by simpa using List.find?_some found
        rw [List.inj_on_of_nodup_map registry.distinct otherMem rowMem equal]

theorem find?_eq_none {wanted : κ} :
    registry.find? wanted = none ↔ wanted ∉ registry.rows.map key := by
  simp [find?]

/-- A change is seen under its key and under no other. -/
theorem find?_modify {wanted other : κ} {change : ρ → ρ}
    {keeps : ∀ row, key (change row) = key row} :
    (registry.modify wanted change keeps).find? other =
      if other = wanted then (registry.find? other).map change
      else registry.find? other := by
  have changed : ∀ row, (key row = wanted → key row = other → other = wanted) := by
    intro row isWanted isOther
    rw [← isOther, isWanted]
  ext row
  rw [find?_eq_some]
  simp only [modify, List.mem_map]
  constructor
  · intro stored
    rcases stored with ⟨⟨old, oldMem, rfl⟩, rowKey⟩
    by_cases isWanted : key old = wanted
    · rw [if_pos isWanted, keeps] at rowKey
      rw [if_pos isWanted, if_pos (changed old isWanted rowKey), Option.map_eq_some_iff]
      exact ⟨old, find?_eq_some.mpr ⟨oldMem, rowKey⟩, rfl⟩
    · rw [if_neg isWanted] at rowKey
      rw [if_neg isWanted, if_neg (fun same => isWanted (rowKey.trans same))]
      exact find?_eq_some.mpr ⟨oldMem, rowKey⟩
  · intro found
    split at found
    · next same =>
        rcases Option.map_eq_some_iff.mp found with ⟨old, oldFound, rfl⟩
        rcases find?_eq_some.mp oldFound with ⟨oldMem, oldKey⟩
        exact ⟨⟨old, oldMem, if_pos (oldKey.trans same)⟩, (keeps old).trans oldKey⟩
    · next differs =>
        rcases find?_eq_some.mp found with ⟨rowMem, rowKey⟩
        exact ⟨⟨row, rowMem, if_neg (fun isWanted => differs (rowKey ▸ isWanted))⟩, rowKey⟩

/-- A row added under a free key is seen under it and under no other. -/
theorem find?_add {row : ρ} (free : registry.find? (key row) = none) {other : κ} :
    (registry.add row).find? other =
      if other = key row then some row else registry.find? other := by
  rw [add, dif_neg (find?_eq_none.mp free)]
  simp only [find?, List.find?_cons]
  split
  · next same => rw [if_pos (of_decide_eq_true same).symm]
  · next differs => rw [if_neg (fun same => of_decide_eq_false differs same.symm)]

/-- A row that is taken already is not replaced. -/
theorem add_of_taken {row stored : ρ} (taken : registry.find? (key row) = some stored) :
    registry.add row = registry := by
  have present : key row ∈ registry.rows.map key := by
    rcases find?_eq_some.mp taken with ⟨storedMem, sameKey⟩
    exact List.mem_map.mpr ⟨stored, storedMem, sameKey⟩
  rw [add, dif_pos present]

/-- A change of every row is seen under each key. -/
theorem find?_map {wanted : κ} {change : ρ → ρ} {keeps : ∀ row, key (change row) = key row} :
    (registry.map change keeps).find? wanted = (registry.find? wanted).map change := by
  have same : (fun row => decide (key row = wanted)) ∘ change =
      fun row => decide (key row = wanted) := by
    funext row
    simp only [Function.comp_apply, keeps]
  simp only [find?, map, List.find?_map, same]

/-- A removed row is not seen, and every other row is. -/
theorem find?_remove {wanted other : κ} :
    (registry.remove wanted).find? other =
      if other = wanted then none else registry.find? other := by
  ext row
  rw [find?_eq_some]
  simp only [remove, List.mem_filter, decide_eq_true_eq]
  constructor
  · intro stored
    rcases stored with ⟨⟨rowMem, kept⟩, rfl⟩
    rw [if_neg kept]
    exact find?_eq_some.mpr ⟨rowMem, rfl⟩
  · intro found
    split at found
    · contradiction
    · next differs =>
        rcases find?_eq_some.mp found with ⟨rowMem, rfl⟩
        exact ⟨⟨rowMem, differs⟩, rfl⟩

/-- The rows after one is added under a free key. -/
theorem rows_add {row : ρ} (free : registry.find? (key row) = none) :
    (registry.add row).rows = row :: registry.rows := by
  rw [add, dif_neg (find?_eq_none.mp free)]

end Registry

end Mintarr.Lib
