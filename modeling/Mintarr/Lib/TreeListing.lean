import Mintarr.Lib.FileTree

/-!
# Listing a tree

A walk through all that is below a directory: it lists the entries, and goes into those that are
directories themselves, but through no link.  A directory whose names cannot be read is passed over.
-/

namespace Mintarr.Lib

namespace Node

mutual

/-- The names of all that a walk meets below a node. -/
def walked : Node → List (List String)
  | .directory access entries => if access.listable then walkedEntries [] entries else []
  | .file _ | .special | .symlink _ => []

/-- The same for the entries whose names were not seen before. -/
def walkedEntries (seen : List String) : List (FileName × Node) → List (List String)
  | [] => []
  | (name, node) :: rest =>
      if name.text ∈ seen then walkedEntries seen rest
      else
        [name.text] :: (walked node).map (name.text :: ·) ++ walkedEntries (name.text :: seen) rest

end

/-- A walk meets these names below the node. -/
inductive Lists : Node → List String → Prop where
  | entry {access : Access} {entries : List (FileName × Node)} {name : String} {node : Node} :
      access.listable = true → entryNamed entries name = some node →
      Lists (.directory access entries) [name]
  | under {access : Access} {entries : List (FileName × Node)} {name : String} {node : Node}
      {rest : List String} :
      access.listable = true → entryNamed entries name = some node → Lists node rest →
      Lists (.directory access entries) (name :: rest)

variable {node child : Node} {access : Access} {entries : List (FileName × Node)}
  {seen names rest : List String} {name : String}

theorem entryNamed_cons (first : FileName × Node) :
    entryNamed (first :: entries) name =
      if first.1.text = name then some first.2 else entryNamed entries name := by
  rw [entryNamed, List.find?_cons]
  by_cases same : first.1.text = name
  · simp [same]
  · simp [same, entryNamed]

/-- The walk meets an entry, and what is below it. -/
theorem mem_walkedEntries_iff : names ∈ walkedEntries seen entries ↔
    ∃ name node, name ∉ seen ∧ entryNamed entries name = some node ∧
      (names = [name] ∨ ∃ rest, names = name :: rest ∧ rest ∈ walked node) := by
  induction entries generalizing seen with
  | nil => simp [walkedEntries, entryNamed]
  | cons first entries ih =>
      obtain ⟨fileName, entry⟩ := first
      rw [walkedEntries]
      split
      · next known =>
          rw [ih]
          constructor
          · rintro ⟨name, node, fresh, found, listed⟩
            refine ⟨name, node, fresh, ?_, listed⟩
            rw [entryNamed_cons, if_neg, found]
            rintro rfl
            exact fresh known
          · rintro ⟨name, node, fresh, found, listed⟩
            refine ⟨name, node, fresh, ?_, listed⟩
            rw [entryNamed_cons, if_neg] at found
            · exact found
            · rintro rfl
              exact fresh known
      · next unknown =>
          rw [List.mem_append, List.mem_cons, List.mem_map, ih]
          constructor
          · rintro ((rfl | ⟨rest, listed, rfl⟩) | ⟨name, node, fresh, found, listed⟩)
            · exact ⟨_, entry, unknown, by rw [entryNamed_cons, if_pos rfl], .inl rfl⟩
            · exact ⟨_, entry, unknown, by rw [entryNamed_cons, if_pos rfl],
                .inr ⟨rest, rfl, listed⟩⟩
            · rw [List.mem_cons, not_or] at fresh
              refine ⟨name, node, fresh.2, ?_, listed⟩
              rw [entryNamed_cons, if_neg (Ne.symm fresh.1), found]
          · rintro ⟨name, node, fresh, found, listed⟩
            rw [entryNamed_cons] at found
            split at found
            · next same =>
                cases found
                left
                rw [same]
                cases listed with
                | inl single => exact .inl single
                | inr deeper =>
                    obtain ⟨rest, rfl, listed⟩ := deeper
                    exact .inr ⟨rest, listed, rfl⟩
            · next other =>
                right
                refine ⟨name, node, ?_, found, listed⟩
                rw [List.mem_cons, not_or]
                exact ⟨Ne.symm other, fresh⟩

theorem mem_walked_iff : names ∈ walked node ↔ node.Lists names := by
  constructor
  · intro listed
    induction names generalizing node with
    | nil =>
        cases node with
        | directory access entries =>
            rw [walked] at listed
            split at listed
            · obtain ⟨name, child, _, _, other⟩ := mem_walkedEntries_iff.mp listed
              simp at other
            · contradiction
        | _ =>
            rw [walked] at listed
            contradiction
    | cons name rest ih =>
        cases node with
        | directory access entries =>
            rw [walked] at listed
            split at listed
            · next listable =>
                obtain ⟨other, child, _, found, reached⟩ := mem_walkedEntries_iff.mp listed
                cases reached with
                | inl single =>
                    cases single
                    exact .entry listable found
                | inr deeper =>
                    obtain ⟨rest, same, listed⟩ := deeper
                    cases same
                    exact .under listable found (ih listed)
            · contradiction
        | _ =>
            rw [walked] at listed
            contradiction
  · intro lists
    induction lists with
    | entry listable found =>
        rw [walked, if_pos listable, mem_walkedEntries_iff]
        exact ⟨_, _, List.not_mem_nil, found, .inl rfl⟩
    | under listable found _ ih =>
        rw [walked, if_pos listable, mem_walkedEntries_iff]
        exact ⟨_, _, List.not_mem_nil, found, .inr ⟨_, rfl, ih⟩⟩

/-- Nothing is met twice. -/
theorem nodup_walked (node : Node) : (walked node).Nodup := by
  refine @Node.rec (fun node => (walked node).Nodup)
    (fun entries => ∀ seen, (walkedEntries seen entries).Nodup)
    (fun entry => (walked entry.2).Nodup) ?_ ?_ ?_ ?_ ?_ ?_ ?_ node
  · intro size
    exact List.nodup_nil
  · exact List.nodup_nil
  · intro target
    exact List.nodup_nil
  · intro access entries each
    rw [walked]
    split
    · exact each []
    · exact List.nodup_nil
  · intro seen
    exact List.nodup_nil
  · rintro ⟨name, entry⟩ entries inner others seen
    rw [walkedEntries]
    split
    · exact others seen
    · have apart : [name.text] ∉ (walked entry).map (name.text :: ·) := by
        rw [List.mem_map]
        rintro ⟨rest, listed, same⟩
        cases same
        cases mem_walked_iff.mp listed
      have mapped : ((walked entry).map (name.text :: ·)).Nodup :=
        inner.map (List.cons_injective)
      refine (List.nodup_cons.mpr ⟨apart, mapped⟩).append (others _) ?_
      intro names first later
      obtain ⟨other, child, fresh, _, reached⟩ := mem_walkedEntries_iff.mp later
      have head : names.head? = some name.text := by
        rw [List.mem_cons, List.mem_map] at first
        rcases first with rfl | ⟨rest, _, rfl⟩ <;> rfl
      rw [List.mem_cons, not_or] at fresh
      rcases reached with rfl | ⟨rest, rfl, _⟩
      · exact fresh.1 (Option.some.inj head)
      · exact fresh.1 (Option.some.inj head)
  · intro name entry inner
    exact inner

theorem Lists.ne_nil (lists : node.Lists names) : names ≠ [] := by
  cases lists with
  | entry _ _ => exact List.cons_ne_nil _ _
  | under _ _ _ => exact List.cons_ne_nil _ _

/-- The walk meets all that is on the way. -/
theorem Lists.above {front : List String} (lists : node.Lists names) (within : front <+: names)
    (nonempty : front ≠ []) : node.Lists front := by
  induction lists generalizing front with
  | entry listable found =>
      cases front with
      | nil => contradiction
      | cons first rest =>
          rw [List.cons_prefix_cons, List.prefix_nil] at within
          obtain ⟨rfl, rfl⟩ := within
          exact .entry listable found
  | under listable found _ ih =>
      cases front with
      | nil => contradiction
      | cons first rest =>
          rw [List.cons_prefix_cons] at within
          obtain ⟨rfl, within⟩ := within
          cases rest with
          | nil => exact .entry listable found
          | cons second rest => exact .under listable found (ih within (List.cons_ne_nil _ _))

/-- What is met has names of entries. -/
theorem Lists.proper (lists : node.Lists names) :
    ∀ part ∈ names, ∃ name : FileName, name.text = part := by
  induction lists with
  | entry _ found =>
      obtain ⟨fileName, same, _⟩ := entryNamed_proper found
      rw [List.forall_mem_singleton]
      exact ⟨fileName, same⟩
  | under _ found _ ih =>
      obtain ⟨fileName, same, _⟩ := entryNamed_proper found
      rw [List.forall_mem_cons]
      exact ⟨⟨fileName, same⟩, ih⟩

/-- What is met is there, unless a directory above it cannot be searched. -/
theorem Lists.find_ne_missing (lists : node.Lists names) :
    node.find names ≠ .error .missing := by
  induction lists with
  | @entry access entries name child _ present =>
      intro missing
      rw [find, present] at missing
      split at missing
      · change child.find [] = _ at missing
        rw [find_nil] at missing
        cases missing
      · cases missing
  | @under access entries name child rest _ present _ ih =>
      intro missing
      rw [find, present] at missing
      split at missing
      · exact ih missing
      · cases missing

/-- What is found is met, where the names of the directories on the way can be read. -/
theorem lists_of_find (found : node.find names = .ok child) (nonempty : names ≠ [])
    (listable : ∀ front, front <+: names → front ≠ names → ∀ access entries,
      node.find front = .ok (.directory access entries) → access.listable = true) :
    node.Lists names := by
  induction names generalizing node with
  | nil => contradiction
  | cons name rest ih =>
      cases node with
      | directory access entries =>
          have top := listable [] List.nil_prefix nonempty.symm access entries find_nil
          rw [find] at found
          split at found
          · next searchable =>
              cases present : entryNamed entries name with
              | none => simp [present] at found
              | some entry =>
                  rw [present] at found
                  cases rest with
                  | nil => exact .entry top present
                  | cons second rest =>
                      refine .under top present (ih found (List.cons_ne_nil _ _) ?_)
                      intro front within differs access entries there
                      apply listable (name :: front) (List.cons_prefix_cons.mpr ⟨rfl, within⟩)
                      · intro same
                        cases same
                        exact differs rfl
                      · rw [find, if_pos searchable, present]
                        exact there
          · contradiction
      | file size => contradiction
      | special => contradiction
      | symlink target => contradiction

end Node

end Mintarr.Lib
