import Mathlib.Data.List.Dedup
import Mathlib.Data.List.Infix
import Mintarr.Lib.PurePath

/-!
# File trees with symbolic links

A tree of directories, files and symbolic links, as a process sees it.  The system walks along a
path part by part, follows the links it meets, and gives up after a number of them.  `realpath`
follows links by name: what it cannot look up it keeps as it is spelled.  Where the system gets
through, both end in one place, and a place that `realpath` names is found there without a link.
-/

namespace Mintarr.Lib

/-- What an entry of a directory can be called. -/
structure FileName where
  text : String
  proper : (text ≠ "" ∧ text ≠ ".") ∧ text ≠ ".." ∧ '/' ∉ text.toList
  deriving DecidableEq

/-- The permissions of a directory. -/
structure Access where
  /-- Its names can be read. -/
  listable : Bool := true
  /-- Its entries can be looked up. -/
  searchable : Bool := true

/-- A place in the tree, with what is below it. -/
inductive Node where
  | file (size : Nat)
  /-- A socket, a pipe or a device. -/
  | special
  | symlink (target : PurePath)
  /-- An entry behind another one of its name is hidden. -/
  | directory (access : Access) (entries : List (FileName × Node))

/-- Why a lookup fails. -/
inductive Fault where
  /-- `ENOENT`, `ENOTDIR` or `ELOOP`. -/
  | missing
  /-- `EACCES`. -/
  | denied
  deriving DecidableEq

/-- Where one part of a path leads. -/
inductive Step where
  | place (names : List String)
  | link (target : PurePath)

namespace Node

/-- The entry of a name. -/
def entryNamed (entries : List (FileName × Node)) (name : String) : Option Node :=
  (entries.find? fun entry => entry.1.text = name).map Prod.snd

/-- The names of the entries. -/
def names (entries : List (FileName × Node)) : List FileName := (entries.map Prod.fst).dedup

def isSymlink : Node → Bool
  | .symlink _ => true
  | _ => false

def isDirectory : Node → Bool
  | .directory _ _ => true
  | _ => false

def isFile : Node → Bool
  | .file _ => true
  | _ => false

/-- The size of a file. -/
def size : Node → Nat
  | .file size => size
  | _ => 0

/-- The names that a process reads in a directory. -/
def list : Node → Except Fault (List FileName)
  | .directory access entries => if access.listable then .ok (names entries) else .error .denied
  | _ => .error .missing

/-- What is found under names when no link is followed. -/
def find : Node → List String → Except Fault Node
  | tree, [] => .ok tree
  | .directory access entries, name :: rest =>
      if access.searchable then
        match entryNamed entries name with
        | none => .error .missing
        | some node => node.find rest
      else .error .denied
  | _, _ :: _ => .error .missing

/-- One part of a path, from a place. -/
def step (tree : Node) (here : List String) (part : String) : Except Fault Step :=
  if part = ".." then
    match tree.find here with
    | .ok (.directory access _) =>
        if access.searchable then .ok (.place here.dropLast) else .error .denied
    | .ok _ => .error .missing
    | .error fault => .error fault
  else
    match tree.find (here ++ [part]) with
    | .ok (.symlink target) => .ok (.link target)
    | .ok _ => .ok (.place (here ++ [part]))
    | .error fault => .error fault

/-- The place that the target of a link is relative to. -/
def startOf (here : List String) (target : PurePath) : List String :=
  if target.root = "" then here else []

/-- The parts of a path one after the other; `jump` goes on behind a link. The number of links
that may still be followed is kept beside the place. -/
def walkParts (tree : Node) (follow : Bool) (links : Nat)
    (jump : List String → List String → Except Fault (Nat × List String)) :
    List String → List String → Except Fault (Nat × List String)
  | here, [] => .ok (links, here)
  | here, part :: rest =>
      match tree.step here part with
      | .error fault => .error fault
      | .ok (.place there) => walkParts tree follow links jump there rest
      | .ok (.link target) =>
          if rest = [] && !follow then .ok (links, here ++ [part])
          else jump (startOf here target) (target.parts ++ rest)

/-- Where the system gets along a path; a link at its end is followed if `follow` says so. -/
def walk (tree : Node) (follow : Bool) :
    Nat → List String → List String → Except Fault (Nat × List String)
  | 0 => walkParts tree follow 0 fun _ _ => .error .missing
  | links + 1 => walkParts tree follow (links + 1) (tree.walk follow links)

end Node

/-- The parts of a path one after the other, as `realpath` takes them. -/
def resolveParts (linkAt : List String → Option PurePath)
    (jump : List String → List String → Option (List String)) :
    List String → List String → Option (List String)
  | here, [] => some here
  | here, part :: rest =>
      if part = ".." then resolveParts linkAt jump here.dropLast rest
      else
        match linkAt (here ++ [part]) with
        | none => resolveParts linkAt jump (here ++ [part]) rest
        | some target =>
            (jump (Node.startOf here target) target.parts).bind fun there =>
              resolveParts linkAt jump there rest

/-- `os.path.realpath`; nothing where links go round in a loop, which is where they are nested
deeper than there are any. -/
def realpath (linkAt : List String → Option PurePath) :
    Nat → List String → List String → Option (List String)
  | 0 => resolveParts linkAt fun _ _ => none
  | depth + 1 => resolveParts linkAt (realpath linkAt depth)

/-- What a process looks at. -/
structure FileSystem where
  /-- The permissions and the entries of the root. -/
  access : Access
  entries : List (FileName × Node)
  /-- The working directory. -/
  cwd : List String
  /-- How many links the system follows along one path. -/
  links : Nat
  /-- How deep links may be nested in `realpath`. -/
  depth : Nat
  within : links ≤ depth

namespace FileSystem

variable (files : FileSystem)

def tree : Node := .directory files.access files.entries

/-- The parts of a path from the root of the tree. -/
def absolute (path : PurePath) : List String :=
  if path.root = "" then files.cwd ++ path.parts else path.parts

/-- `os.stat`, and `os.lstat` where no link is followed. -/
def lookup (follow : Bool) (path : PurePath) : Except Fault Node :=
  (files.tree.walk follow files.links [] (files.absolute path)).bind fun there =>
    files.tree.find there.2

/-- The link at a place. -/
def linkAt (names : List String) : Option PurePath :=
  match files.lookup false ⟨"/", names⟩ with
  | .ok (.symlink target) => some target
  | _ => none

/-- `path.resolve()`; nothing where it raises. -/
def resolve (path : PurePath) : Option PurePath :=
  (realpath files.linkAt files.depth [] (files.absolute path)).map fun names => ⟨"/", names⟩

end FileSystem

/-! ## What is found without a link -/

namespace Node

variable {tree : Node} {follow : Bool} {links : Nat} {here front back parts : List String}
  {part : String}

@[simp] theorem find_nil : tree.find [] = .ok tree := by
  cases tree <;> rfl

/-- Names are looked up one after the other. -/
theorem find_append (front back : List String) :
    tree.find (front ++ back) = (tree.find front).bind fun node => node.find back := by
  induction front generalizing tree with
  | nil =>
      rw [find_nil]
      rfl
  | cons name front ih =>
      cases tree with
      | directory access entries =>
          simp only [List.cons_append, find]
          split
          · cases entryNamed entries name with
            | none => rfl
            | some node => exact ih
          · rfl
      | file size => rfl
      | special => rfl
      | symlink target => rfl

theorem entryNamed_proper {entries : List (FileName × Node)} {name : String} {node : Node}
    (found : entryNamed entries name = some node) :
    ∃ fileName : FileName, fileName.text = name ∧ fileName ∈ names entries := by
  rw [entryNamed, Option.map_eq_some_iff] at found
  obtain ⟨entry, listed, _⟩ := found
  refine ⟨entry.1, ?_, ?_⟩
  · simpa using List.find?_some listed
  · rw [names, List.mem_dedup]
    exact List.mem_map_of_mem (List.mem_of_find?_eq_some listed)

/-- Every name of a directory has an entry. -/
theorem isSome_entryNamed {entries : List (FileName × Node)} {name : FileName}
    (listed : name ∈ names entries) : (entryNamed entries name.text).isSome = true := by
  rw [names, List.mem_dedup, List.mem_map] at listed
  obtain ⟨entry, listed, rfl⟩ := listed
  rw [entryNamed, Option.isSome_map, List.find?_isSome]
  exact ⟨entry, listed, by simp⟩

theorem find_singleton {access : Access} {entries : List (FileName × Node)} {name : String}
    {node : Node} (searchable : access.searchable = true)
    (entry : entryNamed entries name = some node) :
    (directory access entries).find [name] = .ok node := by
  rw [find, if_pos searchable, entry]
  exact find_nil

/-- What is found has names of entries. -/
theorem proper_of_find {node : Node} (found : tree.find parts = .ok node) :
    ∀ part ∈ parts, ∃ name : FileName, name.text = part := by
  induction parts generalizing tree with
  | nil => simp
  | cons name rest ih =>
      cases tree with
      | directory access entries =>
          rw [find] at found
          split at found
          · cases present : entryNamed entries name with
            | none => simp [present] at found
            | some child =>
                rw [present] at found
                obtain ⟨fileName, same, _⟩ := entryNamed_proper present
                rw [List.forall_mem_cons]
                exact ⟨⟨fileName, same⟩, ih found⟩
          · contradiction
      | file size => contradiction
      | special => contradiction
      | symlink target => contradiction

/-- A place whose names lead there without a link. -/
structure Straight (tree : Node) (names : List String) : Prop where
  noParent : ".." ∉ names
  noLink : ∀ front, front <+: names → ∀ target, tree.find front ≠ .ok (.symlink target)

theorem Straight.above (straight : Straight tree parts) (within : front <+: parts) :
    Straight tree front where
  noParent := fun listed => straight.noParent (within.subset listed)
  noLink := fun inner first => straight.noLink inner (first.trans within)

theorem straight_nil (noLink : ∀ target, tree ≠ .symlink target) : Straight tree [] where
  noParent := List.not_mem_nil
  noLink := by
    intro front within target found
    rw [List.prefix_nil.mp within, find_nil, Except.ok.injEq] at found
    exact noLink target found

/-- A place is straight up to a part that is none above it and no link. -/
theorem Straight.concat (straight : Straight tree here) (below : part ≠ "..")
    (noLink : ∀ target, tree.find (here ++ [part]) ≠ .ok (.symlink target)) :
    Straight tree (here ++ [part]) where
  noParent := by
    rw [List.mem_append, List.mem_singleton, not_or]
    exact ⟨straight.noParent, below.symm⟩
  noLink := by
    intro front within target
    rw [List.prefix_concat_iff] at within
    cases within with
    | inl whole =>
        rw [whole]
        exact noLink target
    | inr earlier => exact straight.noLink front earlier target

/-! ## Along a path -/

theorem step_of_ne (below : part ≠ "..") : tree.step here part =
    match tree.find (here ++ [part]) with
    | .ok (.symlink target) => .ok (.link target)
    | .ok _ => .ok (.place (here ++ [part]))
    | .error fault => .error fault := by
  rw [step, if_neg below]

/-- A straight place is found, or not, as it is without following links. -/
theorem walk_straight (straight : Straight tree (here ++ parts))
    (found : (tree.find here).isOk = true) :
    tree.walk follow links here parts =
      (tree.find (here ++ parts)).map fun _ => (links, here ++ parts) := by
  have along : ∀ jump here parts, Straight tree (here ++ parts) → (tree.find here).isOk = true →
      walkParts tree follow links jump here parts =
        (tree.find (here ++ parts)).map fun _ => (links, here ++ parts) := by
    intro jump here parts
    induction parts generalizing here with
    | nil =>
        intro _ found
        cases there : tree.find here with
        | error fault => simp [there, Except.isOk, Except.toBool] at found
        | ok node =>
            rw [List.append_nil, there]
            rfl
    | cons part rest ih =>
        intro straight _
        have shape : here ++ part :: rest = here ++ [part] ++ rest := by simp
        have below : part ≠ ".." := by
          intro same
          apply straight.noParent
          simp [same]
        rw [walkParts, step_of_ne below]
        cases there : tree.find (here ++ [part]) with
        | error fault =>
            rw [shape, find_append, there]
            rfl
        | ok node =>
            have noLink := straight.noLink (here ++ [part]) ⟨rest, by simp⟩
            have rests := ih (here ++ [part]) (shape ▸ straight) (by rw [there]; rfl)
            rw [shape]
            cases node with
            | symlink target => exact absurd there (noLink target)
            | file size => exact rests
            | special => exact rests
            | directory access entries => exact rests
  cases links with
  | zero => exact along _ here parts straight found
  | succ links => exact along _ here parts straight found

/-- The second half of a path is walked from where the first one ends, with the links that are
left. -/
theorem walk_append (nonempty : back ≠ []) (front : List String) :
    tree.walk follow links here (front ++ back) =
      (tree.walk true links here front).bind fun there =>
        tree.walk follow there.1 there.2 back := by
  have along : ∀ links jump jumpTrue,
      tree.walk follow links = walkParts tree follow links jump →
      (∀ start rest, jump start (rest ++ back) =
        (jumpTrue start rest).bind fun there => tree.walk follow there.1 there.2 back) →
      ∀ front here, walkParts tree follow links jump here (front ++ back) =
        (walkParts tree true links jumpTrue here front).bind fun there =>
          tree.walk follow there.1 there.2 back := by
    intro links jump jumpTrue whole jumps front
    induction front with
    | nil =>
        intro here
        rw [List.nil_append, ← whole]
        rfl
    | cons part rest ih =>
        intro here
        rw [List.cons_append, walkParts, walkParts]
        cases tree.step here part with
        | error fault => rfl
        | ok step =>
            cases step with
            | place there => exact ih there
            | link target =>
                have more : rest ++ back ≠ [] := by simp [nonempty]
                simp only [more, decide_false, Bool.false_and, Bool.false_eq_true, if_false,
                  Bool.not_true, Bool.and_false]
                rw [← List.append_assoc]
                exact jumps (startOf here target) (target.parts ++ rest)
  induction links generalizing here front with
  | zero => exact along 0 _ _ rfl (fun _ _ => rfl) front here
  | succ links ih => exact along (links + 1) _ _ rfl (fun start rest => ih rest) front here

theorem walk_true_append (front back : List String) :
    tree.walk true links here (front ++ back) =
      (tree.walk true links here front).bind fun there =>
        tree.walk true there.1 there.2 back := by
  cases back with
  | nil =>
      have stays : ∀ there : Nat × List String, tree.walk true there.1 there.2 [] = .ok there := by
        intro there
        cases there with
        | mk links place => cases links <;> rfl
      rw [List.append_nil]
      cases tree.walk true links here front with
      | error fault => rfl
      | ok there => exact (stays there).symm
  | cons part rest => exact walk_append (List.cons_ne_nil part rest) front

/-- A place that the system can be at. -/
structure Sound (tree : Node) (here : List String) : Prop where
  straight : Straight tree here
  found : (tree.find here).isOk = true

theorem Sound.above (sound : Sound tree parts) (within : front <+: parts) : Sound tree front where
  straight := sound.straight.above within
  found := by
    obtain ⟨back, rfl⟩ := within
    have found := sound.found
    rw [find_append] at found
    cases there : tree.find front with
    | ok node => rfl
    | error fault =>
        rw [there] at found
        contradiction

theorem Sound.startOf (sound : Sound tree here) (target : PurePath) :
    Sound tree (startOf here target) := by
  rw [Node.startOf]
  split
  · exact sound
  · exact sound.above List.nil_prefix

/-- Two dots lead up. -/
theorem place_of_parent {there : List String}
    (stepped : tree.step here ".." = .ok (.place there)) : there = here.dropLast := by
  rw [Node.step, if_pos rfl] at stepped
  split at stepped
  · split at stepped
    · cases stepped
      rfl
    · contradiction
  · contradiction
  · contradiction

/-- A name leads to what is found there, if it is no link. -/
theorem place_of_ne {there : List String} (below : part ≠ "..")
    (stepped : tree.step here part = .ok (.place there)) :
    there = here ++ [part] ∧ (tree.find there).isOk = true ∧
      ∀ target, tree.find there ≠ .ok (.symlink target) := by
  rw [step_of_ne below] at stepped
  split at stepped
  · cases stepped
  · next node noLink found =>
      cases stepped
      refine ⟨rfl, by rw [found]; rfl, ?_⟩
      intro target link
      rw [found, Except.ok.injEq] at link
      exact noLink target link
  · contradiction

theorem link_of_step {target : PurePath} (stepped : tree.step here part = .ok (.link target)) :
    part ≠ ".." ∧ tree.find (here ++ [part]) = .ok (.symlink target) := by
  by_cases below : part = ".."
  · rw [Node.step, if_pos below] at stepped
    split at stepped
    · split at stepped
      · cases stepped
      · contradiction
    · contradiction
    · contradiction
  · rw [step_of_ne below] at stepped
    split at stepped
    · next other found =>
        cases stepped
        exact ⟨below, found⟩
    · cases stepped
    · contradiction

/-- One part leads from place to place. -/
theorem Sound.step {there : List String} (sound : Sound tree here)
    (stepped : tree.step here part = .ok (.place there)) : Sound tree there := by
  by_cases below : part = ".."
  · rw [below] at stepped
    rw [place_of_parent stepped]
    exact sound.above (List.dropLast_prefix here)
  · obtain ⟨rfl, found, noLink⟩ := place_of_ne below stepped
    exact ⟨sound.straight.concat below noLink, found⟩

/-- The system walks from place to place, and uses up links. -/
theorem Sound.walk {there : Nat × List String} (sound : Sound tree here)
    (walked : tree.walk true links here parts = .ok there) :
    Sound tree there.2 ∧ there.1 ≤ links := by
  have along : ∀ links jump,
      (∀ start rest there, Sound tree start → jump start rest = .ok there →
        Sound tree there.2 ∧ there.1 ≤ links) →
      ∀ parts here there, Sound tree here →
        walkParts tree true links jump here parts = .ok there →
          Sound tree there.2 ∧ there.1 ≤ links := by
    intro links jump jumps parts
    induction parts with
    | nil =>
        intro here there sound walked
        cases walked
        exact ⟨sound, Nat.le_refl links⟩
    | cons part rest ih =>
        intro here there sound walked
        rw [walkParts] at walked
        cases stepped : tree.step here part with
        | error fault =>
            rw [stepped] at walked
            contradiction
        | ok step =>
            rw [stepped] at walked
            cases step with
            | place next => exact ih next there (sound.step stepped) walked
            | link target =>
                simp only [Bool.not_true, Bool.and_false, Bool.false_eq_true, if_false] at walked
                exact jumps _ _ there (sound.startOf target) walked
  induction links generalizing here parts there with
  | zero =>
      apply along 0 _ _ parts here there sound walked
      intro start rest there sound impossible
      contradiction
  | succ links ih =>
      apply along (links + 1) _ _ parts here there sound walked
      intro start rest there sound walked
      have inner := ih sound walked
      exact ⟨inner.1, Nat.le_succ_of_le inner.2⟩

/-- One name is looked up without following it. -/
theorem walk_singleton (below : part ≠ "..") :
    tree.walk false links here [part] =
      (tree.find (here ++ [part])).map fun _ => (links, here ++ [part]) := by
  have along : ∀ jump, walkParts tree false links jump here [part] =
      (tree.find (here ++ [part])).map fun _ => (links, here ++ [part]) := by
    intro jump
    rw [walkParts, step_of_ne below]
    cases tree.find (here ++ [part]) with
    | error fault => rfl
    | ok node => cases node <;> rfl
  cases links with
  | zero => exact along _
  | succ links => exact along _

end Node

/-! ## By name -/

namespace FileSystem

open Node

variable {files : FileSystem} {here parts names : List String} {part : String}

/-- What is looked up at a straight place is what is found there. -/
theorem lookup_straight {follow : Bool} (straight : Straight files.tree names) :
    files.lookup follow ⟨"/", names⟩ = files.tree.find names := by
  have rooted : files.absolute ⟨"/", names⟩ = names := rfl
  have walked := @walk_straight files.tree follow files.links [] names straight rfl
  rw [List.nil_append] at walked
  rw [lookup, rooted, walked]
  cases found : files.tree.find names with
  | error fault => rfl
  | ok node => exact found

/-- The link below a straight place. -/
theorem linkAt_concat (straight : Straight files.tree here) (below : part ≠ "..")
    (target : PurePath) : files.linkAt (here ++ [part]) = some target ↔
      files.tree.find (here ++ [part]) = .ok (.symlink target) := by
  have rooted : files.absolute ⟨"/", here ++ [part]⟩ = here ++ [part] := rfl
  have walked := @walk_straight files.tree true files.links [] here straight rfl
  rw [List.nil_append] at walked
  have looked : files.lookup false ⟨"/", here ++ [part]⟩ = files.tree.find (here ++ [part]) := by
    rw [lookup, rooted, walk_append (by simp) here, walked]
    cases found : files.tree.find here with
    | error fault =>
        rw [find_append, found]
        rfl
    | ok node =>
        have single := @walk_singleton files.tree files.links here part below
        change ((files.tree.walk false files.links here [part]).bind fun there =>
          files.tree.find there.2) = _
        rw [single]
        cases there : files.tree.find (here ++ [part]) with
        | error fault => rfl
        | ok node => exact there
  rw [linkAt, looked]
  cases files.tree.find (here ++ [part]) with
  | error fault => simp
  | ok node => cases node <;> simp

theorem startOf_straight (straight : Straight files.tree here) (target : PurePath) :
    Straight files.tree (startOf here target) := by
  rw [startOf]
  split
  · exact straight
  · exact straight.above List.nil_prefix

/-- What `realpath` gives is a straight place. -/
theorem straight_realpath {depth : Nat} {there : List String} (straight : Straight files.tree here)
    (resolved : realpath files.linkAt depth here parts = some there) :
    Straight files.tree there := by
  have along : ∀ jump,
      (∀ start rest there, Straight files.tree start → jump start rest = some there →
        Straight files.tree there) →
      ∀ parts here there, Straight files.tree here →
        resolveParts files.linkAt jump here parts = some there → Straight files.tree there := by
    intro jump jumps parts
    induction parts with
    | nil =>
        intro here there straight resolved
        cases resolved
        exact straight
    | cons part rest ih =>
        intro here there straight resolved
        rw [resolveParts] at resolved
        by_cases below : part = ".."
        · rw [if_pos below] at resolved
          exact ih _ there (straight.above (List.dropLast_prefix here)) resolved
        · rw [if_neg below] at resolved
          cases link : files.linkAt (here ++ [part]) with
          | none =>
              rw [link] at resolved
              apply ih _ there (straight.concat below _) resolved
              intro target found
              rw [← linkAt_concat straight below, link] at found
              contradiction
          | some target =>
              rw [link] at resolved
              obtain ⟨next, jumped, rest⟩ := Option.bind_eq_some_iff.mp resolved
              exact ih next there (jumps _ _ next (startOf_straight straight target) jumped) rest
  induction depth generalizing here parts there with
  | zero =>
      apply along _ _ parts here there straight resolved
      intro start rest there straight impossible
      contradiction
  | succ depth ih =>
      apply along _ _ parts here there straight resolved
      intro start rest there straight resolved
      exact ih straight resolved

/-- Where the system gets along a path is what `realpath` gives. -/
theorem realpath_of_walk {links depth : Nat} {there : Nat × List String} (within : links ≤ depth)
    (sound : Sound files.tree here) (walked : files.tree.walk true links here parts = .ok there) :
    realpath files.linkAt depth here parts = some there.2 := by
  induction links using Nat.strong_induction_on generalizing depth here parts there with
  | _ links ih =>
      have shape : ∃ jump next, files.tree.walk true links = walkParts files.tree true links jump ∧
          realpath files.linkAt depth = resolveParts files.linkAt next ∧
          ∀ start front rest there, Sound files.tree start →
            jump start (front ++ rest) = .ok there →
            ∃ middle : Nat × List String, next start front = some middle.2 ∧
              Sound files.tree middle.2 ∧ middle.1 < links ∧
              files.tree.walk true middle.1 middle.2 rest = .ok there := by
        cases links with
        | zero =>
            cases depth with
            | zero => exact ⟨_, _, rfl, rfl, fun _ _ _ _ _ impossible => by contradiction⟩
            | succ depth => exact ⟨_, _, rfl, rfl, fun _ _ _ _ _ impossible => by contradiction⟩
        | succ links =>
            cases depth with
            | zero => contradiction
            | succ depth =>
                refine ⟨_, _, rfl, rfl, ?_⟩
                intro start front rest there sound jumped
                rw [walk_true_append] at jumped
                cases first : files.tree.walk true links start front with
                | error fault =>
                    rw [first] at jumped
                    contradiction
                | ok middle =>
                    rw [first] at jumped
                    have inner := sound.walk first
                    have resolved := ih links (Nat.lt_succ_self links)
                      (Nat.le_of_succ_le_succ within) sound first
                    exact ⟨middle, resolved, inner.1, Nat.lt_succ_of_le inner.2, jumped⟩
      obtain ⟨jump, next, walks, resolves, jumps⟩ := shape
      rw [resolves]
      rw [walks] at walked
      induction parts generalizing here there with
      | nil =>
          cases walked
          rfl
      | cons part rest inner =>
          rw [walkParts] at walked
          rw [resolveParts]
          cases stepped : files.tree.step here part with
          | error fault =>
              rw [stepped] at walked
              contradiction
          | ok step =>
              rw [stepped] at walked
              cases step with
              | place place =>
                  have goesOn := inner (sound.step stepped) walked
                  by_cases below : part = ".."
                  · rw [below] at stepped
                    rw [if_pos below, ← place_of_parent stepped]
                    exact goesOn
                  · obtain ⟨same, _, noLink⟩ := place_of_ne below stepped
                    rw [same] at noLink
                    rw [if_neg below]
                    cases link : files.linkAt (here ++ [part]) with
                    | none => exact same ▸ goesOn
                    | some target =>
                        rw [linkAt_concat sound.straight below] at link
                        exact absurd link (noLink target)
              | link target =>
                  obtain ⟨below, found⟩ := link_of_step stepped
                  simp only [Bool.not_true, Bool.and_false, Bool.false_eq_true, if_false] at walked
                  obtain ⟨middle, first, middleSound, fewer, second⟩ :=
                    jumps _ _ rest there (sound.startOf target) walked
                  have link := (linkAt_concat sound.straight below target).mpr found
                  have last := ih middle.1 fewer (Nat.le_trans (Nat.le_of_lt fewer) within)
                    middleSound second
                  rw [resolves] at last
                  rw [if_neg below, link]
                  simp only [first, Option.bind_some, last]

/-! ## Places of paths -/

/-- The system gets to a place along a path. -/
def Reaches (files : FileSystem) (path : PurePath) (here : List String) : Prop :=
  ∃ left, files.tree.walk true files.links [] (files.absolute path) = .ok (left, here)

variable {path : PurePath} {name : String}

theorem sound_root : Sound files.tree [] := by
  constructor
  · apply straight_nil
    intro target impossible
    contradiction
  · rfl

theorem Reaches.sound (reaches : files.Reaches path here) : Sound files.tree here := by
  obtain ⟨left, walked⟩ := reaches
  exact (sound_root.walk walked).1

theorem Reaches.lookup (reaches : files.Reaches path here) :
    files.lookup true path = files.tree.find here := by
  obtain ⟨left, walked⟩ := reaches
  rw [FileSystem.lookup, walked]
  rfl

theorem Reaches.resolve (reaches : files.Reaches path here) :
    files.resolve path = some ⟨"/", here⟩ := by
  obtain ⟨left, walked⟩ := reaches
  rw [FileSystem.resolve, realpath_of_walk files.within sound_root walked]
  rfl

/-- What is found along a path is at a place. -/
theorem reaches_of_lookup {node : Node} (found : files.lookup true path = .ok node) :
    ∃ here, files.Reaches path here ∧ files.tree.find here = .ok node := by
  rw [FileSystem.lookup] at found
  cases walked : files.tree.walk true files.links [] (files.absolute path) with
  | error fault =>
      rw [walked] at found
      contradiction
  | ok there =>
      rw [walked] at found
      exact ⟨there.2, ⟨there.1, walked⟩, found⟩

/-- A straight place is reached along its names. -/
theorem reaches_straight (straight : Straight files.tree names)
    (found : (files.tree.find names).isOk = true) : files.Reaches ⟨"/", names⟩ names := by
  have walked := @walk_straight files.tree true files.links [] names straight rfl
  rw [List.nil_append] at walked
  cases there : files.tree.find names with
  | error fault =>
      rw [there] at found
      contradiction
  | ok node =>
      rw [there] at walked
      exact ⟨files.links, walked⟩

theorem absolute_child (path : PurePath) (name : String) :
    files.absolute (path.child name) = files.absolute path ++ [name] := by
  rw [absolute, absolute, PurePath.child]
  split
  · rw [List.append_assoc]
  · rfl

/-- An entry of the directory that is reached. -/
theorem Reaches.lookup_child (reaches : files.Reaches path here) (below : name ≠ "..") :
    files.lookup false (path.child name) = files.tree.find (here ++ [name]) := by
  obtain ⟨left, walked⟩ := reaches
  rw [FileSystem.lookup, absolute_child, walk_append (List.cons_ne_nil name []), walked]
  change ((files.tree.walk false left here [name]).bind fun there =>
    files.tree.find there.2) = _
  rw [walk_singleton below]
  cases found : files.tree.find (here ++ [name]) with
  | error fault => rfl
  | ok node => exact found

/-- A link is all that could lead away from an entry. -/
theorem Reaches.lookup_follow (reaches : files.Reaches path here) (below : name ≠ "..")
    (noLink : ∀ target, files.tree.find (here ++ [name]) ≠ .ok (.symlink target)) :
    files.lookup true (path.child name) = files.tree.find (here ++ [name]) := by
  have sound := reaches.sound
  obtain ⟨left, walked⟩ := reaches
  have last := @walk_straight files.tree true left here [name]
    (sound.straight.concat below noLink) sound.found
  rw [FileSystem.lookup, absolute_child, walk_true_append, walked]
  change ((files.tree.walk true left here [name]).bind fun there =>
    files.tree.find there.2) = _
  rw [last]
  cases found : files.tree.find (here ++ [name]) with
  | error fault => rfl
  | ok node => exact found

/-- An entry that is no link is reached. -/
theorem Reaches.child {node : Node} (reaches : files.Reaches path here) (below : name ≠ "..")
    (found : files.tree.find (here ++ [name]) = .ok node)
    (noLink : ∀ target, node ≠ .symlink target) :
    files.Reaches (path.child name) (here ++ [name]) := by
  have straight : Straight files.tree (here ++ [name]) := by
    apply reaches.sound.straight.concat below
    intro target link
    rw [found, Except.ok.injEq] at link
    exact noLink target link
  obtain ⟨left, walked⟩ := reaches
  refine ⟨left, ?_⟩
  rw [absolute_child, walk_true_append, walked]
  have last := @walk_straight files.tree true left here [name] straight
    (sound_root.walk walked).1.found
  rw [found] at last
  exact last

end FileSystem

end Mintarr.Lib
