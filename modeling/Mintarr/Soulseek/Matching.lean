import Mathlib.Data.List.Infix
import Mathlib.Data.List.Nodup
import Mathlib.Data.List.Perm.Subperm
import Mathlib.Data.List.ReduceOption
import Mintarr.Lib.Glob
import Mintarr.Lib.Lists
import Mintarr.Soulseek.Responses

/-!
# Finding finished downloads

`_matching_paths` looks for each requested file below the download root, by its base name taken
as a pattern, and takes the newest file that is left.  A name with a special sign is not found,
or found in another file; and a request whose size is not known may take the file that another
one of its name needs.  Where neither can happen, taking the newest is as good as any choice; but
a link of that name that leads back to itself ends the search.
-/

namespace Mintarr.Soulseek

open Lib Lib.Py

/-! ## Trees -/

/-- What a file can be called. -/
def IsName (name : Str) : Prop :=
  name ≠ [] ∧ name ≠ str "." ∧ name ≠ str ".." ∧ .char '/' ∉ name ∧ .char '\x00' ∉ name

/-- Something below the download root. -/
structure Entry where
  /-- Its parts below the root. -/
  path : List Str
  isSymlink : Bool
  isFile : Bool
  /-- The parts of `path.resolve()`; nothing for a link that leads back to itself, where it
  raises. -/
  resolved : Option (List Str)
  size : Nat
  mtimeNs : Int
  deriving DecidableEq, Repr

/-- `path.name`. -/
def Entry.name (entry : Entry) : Str := entry.path.getLastD []

/-- A download root and what a walk through it meets, in its order. -/
structure Tree where
  /-- The parts of the resolved root. -/
  root : List Str
  entries : List Entry
  distinct : (entries.map Entry.path).Nodup
  named : ∀ entry ∈ entries, IsName entry.name

/-- What the search rests on: `str.lower`, and what a set of a pattern contains. -/
structure Matcher where
  lower : Str → Str
  contains : Str → CodePoint → Bool

/-- `_PARTIAL_SUFFIXES`. -/
def partialSuffixes : List Str :=
  [str ".part", str ".partial", str ".tmp", str ".download", str ".crdownload",
    str ".incomplete"]

/-- `path.name.lower().endswith(_PARTIAL_SUFFIXES)`. -/
def isPartial (matcher : Matcher) (name : Str) : Bool :=
  partialSuffixes.any fun suffix => suffix.isSuffixOf (matcher.lower name)

/-- `Path(item.filename.replace("\\", "/")).name`. -/
def baseName (item : SlskdDownloadFile) : Str := nameOf (slashed item.filename)

/-- Two stars within a longer name are no valid pattern. -/
def isInvalid (pattern : Str) : Bool :=
  pattern ≠ str "**" && pattern.tails.any fun tail => (str "**").isPrefixOf tail

/-- A name of the pattern; three patterns stand for directories alone. -/
def globs (matcher : Matcher) (pattern name : Str) : Bool :=
  pattern ≠ [] && pattern ≠ str ".." && pattern ≠ str "**" &&
    Glob.fnmatch matcher.contains name pattern

/-- `root.rglob(pattern)`, without the directories; nothing where the walk raises. -/
def rglob (matcher : Matcher) (tree : Tree) (pattern : Str) : Option (List Entry) :=
  if isInvalid pattern then none
  else some (tree.entries.filter fun entry => globs matcher pattern entry.name)

/-! ## The search -/

/-- What the loop has chosen. -/
structure Matched where
  matches_ : List Entry
  used : List (List Str)

/-- The tests of the inner loop. -/
def isCandidate (matcher : Matcher) (tree : Tree) (exclude used : List (List Str))
    (item : SlskdDownloadFile) (entry : Entry) : Bool :=
  entry.path ∉ used && (entry.resolved.all fun resolved => resolved ∉ exclude) &&
    !entry.isSymlink && entry.isFile && !isPartial matcher entry.name &&
    (entry.resolved.any fun resolved => tree.root.isPrefixOf resolved) &&
    (item.size = 0 || (entry.size : Int) = item.size)

/-- The inner loop; nothing where it raises. -/
def candidatesFor (matcher : Matcher) (tree : Tree) (exclude used : List (List Str))
    (item : SlskdDownloadFile) : Option (List Entry) :=
  (rglob matcher tree (baseName item)).bind fun found =>
    if found.any fun entry => entry.path ∉ used && entry.resolved.isNone then none
    else some (found.filter (isCandidate matcher tree exclude used item))

/-- The order of `sorted` by the time of modification, in reverse. -/
def isNewer (first second : Entry) : Bool := second.mtimeNs ≤ first.mtimeNs

/-- `sorted(candidates, key=..., reverse=True)[0]`. -/
def newest (candidates : List Entry) : Option Entry := (candidates.mergeSort isNewer).head?

/-- One requested file. -/
def matchItem (matcher : Matcher) (tree : Tree) (exclude : List (List Str)) (matched : Matched)
    (item : SlskdDownloadFile) : Option Matched :=
  match candidatesFor matcher tree exclude matched.used item with
  | none => none
  | some found =>
      match newest found with
      | none => some matched
      | some chosen =>
          some { matches_ := matched.matches_ ++ [chosen], used := chosen.path :: matched.used }

/-- `_matching_paths`; nothing where it raises. -/
def matchingPaths (matcher : Matcher) (tree : Tree) (exclude : List (List Str))
    (files : List SlskdDownloadFile) : Option (List Entry) :=
  (files.foldlM (matchItem matcher tree exclude) { matches_ := [], used := [] }).map
    Matched.matches_

/-! ## What is found for each request -/

/-- What is chosen for a request. -/
def choose (matcher : Matcher) (tree : Tree) (exclude used : List (List Str))
    (item : SlskdDownloadFile) : Option (Option Entry) :=
  (candidatesFor matcher tree exclude used item).map newest

/-- What is chosen for each request. -/
def choices (matcher : Matcher) (tree : Tree) (exclude : List (List Str)) :
    List SlskdDownloadFile → List (List Str) → Option (List (Option Entry))
  | [], _ => some []
  | item :: rest, used =>
      (choose matcher tree exclude used item).bind fun chosen =>
        (choices matcher tree exclude rest (chosen.toList.map Entry.path ++ used)).map
          (chosen :: ·)

section Choices

variable {matcher : Matcher} {tree : Tree} {exclude : List (List Str)}

theorem foldlM_matchItem (files : List SlskdDownloadFile) (matched : Matched) :
    (files.foldlM (matchItem matcher tree exclude) matched).map Matched.matches_ =
      (choices matcher tree exclude files matched.used).map fun chosen =>
        matched.matches_ ++ chosen.reduceOption := by
  induction files generalizing matched with
  | nil => simp [choices, List.reduceOption]
  | cons item files ih =>
      rw [List.foldlM_cons, choices]
      cases found : candidatesFor matcher tree exclude matched.used item with
      | none => simp [matchItem, choose, found]
      | some found_ =>
          cases best : newest found_ with
          | none =>
              have stays := ih matched
              simp only [matchItem, choose, found, best, Option.map_some, Option.bind_some,
                Option.bind_eq_bind, stays, Option.map_map, Option.toList_none, List.map_nil,
                List.nil_append]
              rfl
          | some chosen =>
              have grows := ih
                { matches_ := matched.matches_ ++ [chosen]
                  used := chosen.path :: matched.used }
              simp only [matchItem, choose, found, best, Option.map_some, Option.bind_some,
                Option.bind_eq_bind, grows, Option.map_map, Option.toList_some, List.map_cons,
                List.map_nil, List.singleton_append]
              congr 1
              funext rest
              simp [List.reduceOption]

/-- The paths found are those chosen for the requests, in their order. -/
theorem matchingPaths_eq (files : List SlskdDownloadFile) :
    matchingPaths matcher tree exclude files =
      (choices matcher tree exclude files []).map List.reduceOption := by
  rw [matchingPaths, foldlM_matchItem]
  simp only [List.nil_append]

/-! ## Candidates -/

omit matcher tree exclude in
theorem mem_of_newest {candidates : List Entry} {chosen : Entry}
    (best : newest candidates = some chosen) : chosen ∈ candidates := by
  rw [newest] at best
  exact (List.mem_mergeSort).mp (List.mem_of_head? best)

theorem le_of_newest {candidates : List Entry} {chosen : Entry}
    (best : newest candidates = some chosen) {other : Entry} (listed : other ∈ candidates) :
    other.mtimeNs ≤ chosen.mtimeNs := by
  have sorted : (candidates.mergeSort isNewer).Pairwise fun first second =>
      isNewer first second = true := by
    apply List.pairwise_mergeSort
    · intro first second third left right
      simp only [isNewer, decide_eq_true_eq] at left right ⊢
      omega
    · intro first second
      simp only [isNewer, Bool.or_eq_true, decide_eq_true_eq]
      omega
  have found : other ∈ candidates.mergeSort isNewer := List.mem_mergeSort.mpr listed
  rw [newest] at best
  generalize candidates.mergeSort isNewer = ranked at sorted found best
  cases ranked with
  | nil => contradiction
  | cons first rest =>
      cases best
      cases List.mem_cons.mp found with
      | inl same => exact same ▸ Int.le_refl _
      | inr later => exact of_decide_eq_true ((List.pairwise_cons.mp sorted).1 other later)

theorem exists_newest {candidates : List Entry} {other : Entry} (listed : other ∈ candidates) :
    ∃ chosen, newest candidates = some chosen := by
  cases best : newest candidates with
  | some chosen => exact ⟨chosen, rfl⟩
  | none =>
      rw [newest, List.head?_eq_none_iff] at best
      have ranked : other ∈ candidates.mergeSort isNewer := List.mem_mergeSort.mpr listed
      rw [best] at ranked
      contradiction

/-- The pattern of a request finds the file, and no test but that of `used` rejects it. -/
structure Fits (matcher : Matcher) (tree : Tree) (exclude : List (List Str))
    (item : SlskdDownloadFile) (entry : Entry) : Prop where
  listed : entry ∈ tree.entries
  found : globs matcher (baseName item) entry.name = true
  fresh : ∀ resolved ∈ entry.resolved, resolved ∉ exclude
  regular : entry.isSymlink = false ∧ entry.isFile = true
  complete : isPartial matcher entry.name = false
  inside : ∃ resolved ∈ entry.resolved, tree.root.isPrefixOf resolved = true
  size : item.size = 0 ∨ (entry.size : Int) = item.size

theorem mem_candidatesFor {item : SlskdDownloadFile} {used : List (List Str)} {entry : Entry} :
    entry ∈ (tree.entries.filter fun entry => globs matcher (baseName item) entry.name).filter
        (isCandidate matcher tree exclude used item) ↔
      Fits matcher tree exclude item entry ∧ entry.path ∉ used := by
  simp only [List.mem_filter, isCandidate, Bool.and_eq_true, Bool.or_eq_true, decide_eq_true_eq,
    Bool.not_eq_true', Option.all_eq_true, Option.any_eq_true]
  constructor
  · intro passed
    obtain ⟨⟨listed, found⟩, ⟨⟨⟨⟨⟨unused, fresh⟩, link⟩, file⟩, complete⟩, inside⟩, size⟩ := passed
    exact ⟨⟨listed, found, fresh, ⟨link, file⟩, complete, inside, size⟩, unused⟩
  · intro passed
    obtain ⟨fits, unused⟩ := passed
    exact ⟨⟨fits.listed, fits.found⟩,
      ⟨⟨⟨⟨⟨unused, fits.fresh⟩, fits.regular.1⟩, fits.regular.2⟩, fits.complete⟩, fits.inside⟩,
      fits.size⟩

/-- The pattern of a request finds no link that leads back to itself. -/
def Loopless (matcher : Matcher) (tree : Tree) (item : SlskdDownloadFile) : Prop :=
  ∀ entry ∈ tree.entries, globs matcher (baseName item) entry.name = true →
    entry.resolved.isSome = true

/-- No link that leads back to itself is used. -/
def Unlooped (tree : Tree) (used : List (List Str)) : Prop :=
  ∀ entry ∈ tree.entries, entry.path ∈ used → entry.resolved.isSome = true

theorem candidatesFor_eq_some {item : SlskdDownloadFile} {used : List (List Str)}
    {found : List Entry} (searched : candidatesFor matcher tree exclude used item = some found) :
    found = (tree.entries.filter fun entry => globs matcher (baseName item) entry.name).filter
      (isCandidate matcher tree exclude used item) := by
  rw [candidatesFor, rglob] at searched
  split at searched
  · contradiction
  · rw [Option.bind_some] at searched
    split at searched
    · contradiction
    · exact (Option.some.inj searched).symm

/-- The inner loop ends where the pattern is valid and each file it finds is resolved. -/
theorem isSome_candidatesFor_iff {item : SlskdDownloadFile} {used : List (List Str)}
    (unlooped : Unlooped tree used) :
    (candidatesFor matcher tree exclude used item).isSome = true ↔
      isInvalid (baseName item) = false ∧ Loopless matcher tree item := by
  have resolves : ((tree.entries.filter fun entry => globs matcher (baseName item) entry.name).any
      fun entry => entry.path ∉ used && entry.resolved.isNone) = false ↔
        Loopless matcher tree item := by
    rw [List.any_eq_false, Loopless]
    constructor
    · intro none_loops entry listed found
      by_cases reused : entry.path ∈ used
      · exact unlooped entry listed reused
      · have ends := none_loops entry (List.mem_filter.mpr ⟨listed, found⟩)
        simpa [reused, Option.isSome_iff_ne_none] using ends
    · intro loopless entry listed
      obtain ⟨listed, found⟩ := List.mem_filter.mp listed
      have ends := loopless entry listed found
      simp [Option.isSome_iff_ne_none.mp ends]
  rw [candidatesFor, rglob, ← resolves]
  cases isInvalid (baseName item) with
  | true => simp
  | false =>
      rw [if_neg Bool.false_ne_true, Option.bind_some]
      cases (tree.entries.filter fun entry => globs matcher (baseName item) entry.name).any
        fun entry => entry.path ∉ used && entry.resolved.isNone <;> simp

/-- What is chosen fits, is not used yet, and is the newest file of this kind. -/
theorem choose_eq_some {item : SlskdDownloadFile} {used : List (List Str)} {entry : Entry}
    (chosen : choose matcher tree exclude used item = some (some entry)) :
    Fits matcher tree exclude item entry ∧ entry.path ∉ used ∧
      ∀ other, Fits matcher tree exclude item other → other.path ∉ used →
        other.mtimeNs ≤ entry.mtimeNs := by
  rw [choose, Option.map_eq_some_iff] at chosen
  obtain ⟨found, searched, best⟩ := chosen
  rw [candidatesFor_eq_some searched] at best
  have passed := mem_candidatesFor.mp (mem_of_newest best)
  refine ⟨passed.1, passed.2, ?_⟩
  intro other fits unused
  exact le_of_newest best (mem_candidatesFor.mpr ⟨fits, unused⟩)

theorem choose_isSome {item : SlskdDownloadFile} {used : List (List Str)}
    (unlooped : Unlooped tree used) :
    (choose matcher tree exclude used item).isSome = true ↔
      isInvalid (baseName item) = false ∧ Loopless matcher tree item := by
  rw [choose, Option.isSome_map, isSome_candidatesFor_iff unlooped]

/-- Where the inner loop ends and an unused file fits, a file is chosen. -/
theorem exists_choose {item : SlskdDownloadFile} {used : List (List Str)} {other : Entry}
    (unlooped : Unlooped tree used)
    (readable : isInvalid (baseName item) = false ∧ Loopless matcher tree item)
    (fits : Fits matcher tree exclude item other) (unused : other.path ∉ used) :
    ∃ entry, choose matcher tree exclude used item = some (some entry) := by
  have searches : (candidatesFor matcher tree exclude used item).isSome = true :=
    (isSome_candidatesFor_iff unlooped).mpr readable
  obtain ⟨found, searched⟩ := Option.isSome_iff_exists.mp searches
  have candidate := mem_candidatesFor.mpr ⟨fits, unused⟩
  rw [← candidatesFor_eq_some searched] at candidate
  obtain ⟨entry, best⟩ := exists_newest candidate
  rw [choose, searched, Option.map_some, best]
  exact ⟨entry, rfl⟩

theorem Tree.eq_of_path {first second : Entry} (left : first ∈ tree.entries)
    (right : second ∈ tree.entries) (same : first.path = second.path) : first = second :=
  List.inj_on_of_nodup_map tree.distinct left right same

/-- What fits is no link that leads back to itself. -/
theorem Unlooped.choose {item : SlskdDownloadFile} {used : List (List Str)}
    {choice : Option Entry} (unlooped : Unlooped tree used)
    (chosen : choose matcher tree exclude used item = some choice) :
    Unlooped tree (choice.toList.map Entry.path ++ used) := by
  intro entry listed reused
  rcases List.mem_append.mp reused with new | old
  · obtain ⟨taken, taken_mem, same⟩ := List.mem_map.mp new
    rw [Option.mem_toList] at taken_mem
    have fits := (choose_eq_some (chosen.trans (congrArg some taken_mem))).1
    obtain ⟨resolved, resolved_eq, _⟩ := fits.inside
    rw [Tree.eq_of_path listed fits.listed same.symm]
    exact Option.isSome_iff_exists.mpr ⟨resolved, resolved_eq⟩
  · exact unlooped entry listed old

/-! ## Choices one after the other -/

theorem choices_cons_eq_some {item : SlskdDownloadFile} {rest : List SlskdDownloadFile}
    {used : List (List Str)} {chosen : List (Option Entry)} :
    choices matcher tree exclude (item :: rest) used = some chosen ↔
      ∃ first others, choose matcher tree exclude used item = some first ∧
        choices matcher tree exclude rest (first.toList.map Entry.path ++ used) = some others ∧
        chosen = first :: others := by
  simp only [choices, Option.bind_eq_some_iff, Option.map_eq_some_iff]
  constructor
  · intro taken
    obtain ⟨first, head, others, tail, same⟩ := taken
    exact ⟨first, others, head, tail, same.symm⟩
  · intro taken
    obtain ⟨first, others, head, tail, same⟩ := taken
    exact ⟨first, head, others, tail, same.symm⟩

theorem fits_of_choices {files : List SlskdDownloadFile} {used : List (List Str)}
    {chosen : List (Option Entry)} (taken : choices matcher tree exclude files used = some chosen) :
    List.Forall₂ (fun item choice => ∀ entry, choice = some entry →
      Fits matcher tree exclude item entry ∧ entry.path ∉ used) files chosen := by
  induction files generalizing used chosen with
  | nil =>
      cases taken
      exact .nil
  | cons item files ih =>
      obtain ⟨first, others, head, tail, rfl⟩ := choices_cons_eq_some.mp taken
      constructor
      · intro entry same
        have passed := choose_eq_some (same ▸ head)
        exact ⟨passed.1, passed.2.1⟩
      · apply (ih tail).imp
        intro later choice passed entry same
        have unused := (passed entry same).2
        rw [List.mem_append, not_or] at unused
        exact ⟨(passed entry same).1, unused.2⟩

theorem exists_choices {files : List SlskdDownloadFile} {used : List (List Str)}
    (unlooped : Unlooped tree used) :
    (∃ chosen, choices matcher tree exclude files used = some chosen) ↔
      ∀ item ∈ files, isInvalid (baseName item) = false ∧ Loopless matcher tree item := by
  induction files generalizing used with
  | nil => simp [choices]
  | cons item files ih =>
      have here : (choose matcher tree exclude used item).isSome = true ↔
        isInvalid (baseName item) = false ∧ Loopless matcher tree item := choose_isSome unlooped
      rw [List.forall_mem_cons, ← here]
      constructor
      · intro taken
        obtain ⟨chosen, taken⟩ := taken
        obtain ⟨first, others, head, tail, rfl⟩ := choices_cons_eq_some.mp taken
        exact ⟨Option.isSome_iff_exists.mpr ⟨first, head⟩,
          (ih (unlooped.choose head)).mp ⟨others, tail⟩⟩
      · intro readable
        obtain ⟨first, head⟩ := Option.isSome_iff_exists.mp readable.1
        obtain ⟨others, tail⟩ := (ih (unlooped.choose head)).mpr readable.2
        exact ⟨first :: others, choices_cons_eq_some.mpr ⟨first, others, head, tail, rfl⟩⟩

/-- An earlier choice is at least as new as what is chosen later and would have fitted. -/
theorem newest_of_choices {files : List SlskdDownloadFile} {used : List (List Str)}
    {found : List Entry}
    (taken : choices matcher tree exclude files used = some (found.map some)) :
    (files.zip found).Pairwise fun earlier later =>
      Fits matcher tree exclude earlier.1 later.2 →
        later.2.mtimeNs ≤ earlier.2.mtimeNs := by
  induction files generalizing used found with
  | nil => exact .nil
  | cons item files ih =>
      obtain ⟨first, others, head, tail, same⟩ := choices_cons_eq_some.mp taken
      cases found with
      | nil => contradiction
      | cons entry found =>
          rw [List.map_cons] at same
          obtain ⟨rfl, rfl⟩ := List.cons.inj same
          apply List.Pairwise.cons
          · intro later paired fits
            have passed := List.forall₂_zip ((List.forall₂_map_right_iff).mp
              (fits_of_choices tail)) (a := later.1) (b := later.2) paired
            have unused := (passed later.2 rfl).2
            rw [List.mem_append, not_or] at unused
            exact (choose_eq_some head).2.2 later.2 fits unused.2
          · exact ih tail

end Choices

/-! ## What the search is for -/

/-- A file that may stand for a request. -/
structure Eligible (matcher : Matcher) (tree : Tree) (exclude : List (List Str))
    (item : SlskdDownloadFile) (entry : Entry) : Prop where
  listed : entry ∈ tree.entries
  name : entry.name = baseName item
  fresh : ∀ resolved ∈ entry.resolved, resolved ∉ exclude
  regular : entry.isSymlink = false ∧ entry.isFile = true
  complete : isPartial matcher entry.name = false
  inside : ∃ resolved ∈ entry.resolved, tree.root.isPrefixOf resolved = true
  size : item.size = 0 ∨ (entry.size : Int) = item.size

/-- Where every request can be given a file of its own each is, and no request is ever given a
file that may not stand for it. -/
structure Finds (matcher : Matcher) (tree : Tree) (exclude : List (List Str))
    (files : List SlskdDownloadFile) : Prop where
  complete : ∀ assigned, List.Forall₂ (Eligible matcher tree exclude) files assigned →
    (assigned.map Entry.path).Nodup →
    ∃ found, matchingPaths matcher tree exclude files = some found ∧
      List.Forall₂ (Eligible matcher tree exclude) files found ∧ (found.map Entry.path).Nodup
  sound : ∀ chosen, choices matcher tree exclude files [] = some chosen →
    List.Forall₂ (fun item choice => ∀ entry, choice = some entry →
      Eligible matcher tree exclude item entry) files chosen

/-- Some file of its name and size may stand for a request. -/
structure Possible (matcher : Matcher) (item : SlskdDownloadFile) : Prop where
  name : IsName (baseName item)
  complete : isPartial matcher (baseName item) = false
  size : 0 ≤ item.size

/-- The base names of the requests are patterns that match themselves alone, and of requests for
one name those of a known size come first. -/
structure Findable (matcher : Matcher) (files : List SlskdDownloadFile) : Prop where
  readable : (∀ item ∈ files, Possible matcher item) →
    ∀ item ∈ files, isInvalid (baseName item) = false
  own : (∀ item ∈ files, Possible matcher item) →
    ∀ item ∈ files, globs matcher (baseName item) (baseName item) = true
  only : (∀ item ∈ files, isInvalid (baseName item) = false) →
    ∀ item ∈ files, 0 ≤ item.size → ∀ name, IsName name → isPartial matcher name = false →
      globs matcher (baseName item) name = true → name = baseName item
  ordered : (∀ item ∈ files, Possible matcher item) →
    files.Pairwise fun earlier later =>
      baseName earlier = baseName later → earlier.size = 0 → later.size = 0

section Finds

variable {matcher : Matcher} {tree : Tree} {exclude : List (List Str)}

theorem Eligible.possible {item : SlskdDownloadFile} {entry : Entry}
    (eligible : Eligible matcher tree exclude item entry) : Possible matcher item := by
  constructor
  · exact eligible.name ▸ tree.named entry eligible.listed
  · exact eligible.name ▸ eligible.complete
  · have known := eligible.size
    omega

theorem Eligible.fits {item : SlskdDownloadFile} {entry : Entry}
    (eligible : Eligible matcher tree exclude item entry)
    (own : globs matcher (baseName item) (baseName item) = true) :
    Fits matcher tree exclude item entry where
  listed := eligible.listed
  found := eligible.name.symm ▸ own
  fresh := eligible.fresh
  regular := eligible.regular
  complete := eligible.complete
  inside := eligible.inside
  size := eligible.size

theorem Fits.eligible {item : SlskdDownloadFile} {entry : Entry}
    (fits : Fits matcher tree exclude item entry)
    (only : 0 ≤ item.size → ∀ name, IsName name → isPartial matcher name = false →
      globs matcher (baseName item) name = true → name = baseName item) :
    Eligible matcher tree exclude item entry where
  listed := fits.listed
  name := by
    have known := fits.size
    exact only (by omega) entry.name (tree.named entry fits.listed) fits.complete fits.found
  fresh := fits.fresh
  regular := fits.regular
  complete := fits.complete
  inside := fits.inside
  size := fits.size

/-- A request that takes the file of another leaves its own file to it. -/
theorem exchange {files : List SlskdDownloadFile} {assigned : List Entry} {own taken : Entry}
    (listed : List.Forall₂ (Eligible matcher tree exclude) files assigned)
    (distinct : ((own :: assigned).map Entry.path).Nodup)
    (swap : ∀ item ∈ files, Eligible matcher tree exclude item taken →
      Eligible matcher tree exclude item own)
    (found : taken ∈ tree.entries) :
    ∃ others, List.Forall₂ (Eligible matcher tree exclude) files others ∧
      ((taken :: others).map Entry.path).Nodup ∧
      ∀ entry ∈ others, entry ∈ own :: assigned := by
  rw [List.map_cons, List.nodup_cons] at distinct
  obtain ⟨apart, distinct⟩ := distinct
  have strange : ∀ entry ∈ assigned, entry.path ≠ own.path := by
    intro entry member same
    exact apart (same ▸ List.mem_map_of_mem member)
  have inTree : ∀ entry ∈ assigned, entry ∈ tree.entries := by
    intro entry member
    obtain ⟨item, _, eligible⟩ := Related.left listed member
    exact eligible.listed
  refine ⟨assigned.map fun entry => if entry = taken then own else entry, ?_, ?_, ?_⟩
  · rw [List.forall₂_map_right_iff]
    have withFiles := (List.forall₂_and_left _ _).mpr ⟨fun item member => member, listed⟩
    apply withFiles.imp
    intro item entry pair
    split
    next same => exact swap item pair.1 (same ▸ pair.2)
    next => exact pair.2
  · rw [List.map_cons, List.map_map, List.nodup_cons]
    constructor
    · intro member
      obtain ⟨entry, listed', same⟩ := List.mem_map.mp member
      by_cases replaced : entry = taken
      · rw [Function.comp_apply, if_pos replaced] at same
        exact strange entry listed' (replaced ▸ same.symm)
      · rw [Function.comp_apply, if_neg replaced] at same
        exact replaced (Tree.eq_of_path (inTree entry listed') found same)
    · apply List.Nodup.map_on _ (List.Nodup.of_map _ distinct)
      intro first left second right same
      rw [Function.comp_apply, Function.comp_apply] at same
      by_cases leftTaken : first = taken
      · by_cases rightTaken : second = taken
        · rw [leftTaken, rightTaken]
        · rw [if_pos leftTaken, if_neg rightTaken] at same
          exact absurd same.symm (strange second right)
      · by_cases rightTaken : second = taken
        · rw [if_neg leftTaken, if_pos rightTaken] at same
          exact absurd same (strange first left)
        · rw [if_neg leftTaken, if_neg rightTaken] at same
          exact Tree.eq_of_path (inTree first left) (inTree second right) same
  · intro entry member
    obtain ⟨old, listed', same⟩ := List.mem_map.mp member
    split at same
    · exact same ▸ List.mem_cons_self
    · exact same ▸ List.mem_cons_of_mem own listed'

/-- Taking the newest file each time gives every request one, where each can have one. -/
theorem choices_of_assigned {files : List SlskdDownloadFile} {used : List (List Str)}
    {assigned : List Entry} (unlooped : Unlooped tree used)
    (readable : ∀ item ∈ files, isInvalid (baseName item) = false ∧ Loopless matcher tree item)
    (own : ∀ item ∈ files, globs matcher (baseName item) (baseName item) = true)
    (only : ∀ item ∈ files, 0 ≤ item.size → ∀ name, IsName name →
      isPartial matcher name = false → globs matcher (baseName item) name = true →
        name = baseName item)
    (ordered : files.Pairwise fun earlier later =>
      baseName earlier = baseName later → earlier.size = 0 → later.size = 0)
    (listed : List.Forall₂ (Eligible matcher tree exclude) files assigned)
    (distinct : (assigned.map Entry.path).Nodup)
    (unused : ∀ entry ∈ assigned, entry.path ∉ used) :
    ∃ found, choices matcher tree exclude files used = some (found.map some) ∧
      List.Forall₂ (Eligible matcher tree exclude) files found ∧
      (found.map Entry.path).Nodup := by
  induction files generalizing used assigned with
  | nil => exact ⟨[], rfl, .nil, List.nodup_nil⟩
  | cons item files ih =>
      cases listed with
      | @cons _ mine _ assigned head listed =>
          rw [List.forall_mem_cons] at readable own only unused
          obtain ⟨first, ordered⟩ := List.pairwise_cons.mp ordered
          have fits := head.fits own.1
          obtain ⟨taken, chosen⟩ := exists_choose unlooped readable.1 fits unused.1
          have passed := choose_eq_some chosen
          have eligible := passed.1.eligible only.1
          have swap : ∀ later ∈ files, Eligible matcher tree exclude later taken →
              Eligible matcher tree exclude later mine := by
            intro later member other
            have sameName : baseName item = baseName later := eligible.name.symm.trans other.name
            refine { head with name := head.name.trans sameName, size := ?_ }
            -- a request of a known size does not follow one of an unknown size
            have order := first later member sameName
            have mineSize := head.size
            have takenSize := eligible.size
            have otherSize := other.size
            omega
          obtain ⟨others, stillListed, stillDistinct, from_⟩ :=
            exchange listed distinct swap eligible.listed
          rw [List.map_cons, List.nodup_cons] at stillDistinct
          have stillUnused : ∀ entry ∈ others,
              entry.path ∉ (some taken).toList.map Entry.path ++ used := by
            intro entry member reused
            cases List.mem_cons.mp reused with
            | inl same => exact stillDistinct.1 (same ▸ List.mem_map_of_mem member)
            | inr earlier =>
                cases List.mem_cons.mp (from_ entry member) with
                | inl same => exact unused.1 (same ▸ earlier)
                | inr rest => exact unused.2 entry rest earlier
          obtain ⟨found, tail, found_, apart⟩ := ih (unlooped.choose chosen) readable.2 own.2
            only.2 ordered stillListed stillDistinct.2 stillUnused
          refine ⟨taken :: found, ?_, .cons eligible found_, ?_⟩
          · exact choices_cons_eq_some.mpr ⟨some taken, found.map some, chosen, tail, rfl⟩
          · rw [List.map_cons, List.nodup_cons]
            refine ⟨?_, apart⟩
            intro member
            obtain ⟨entry, listed', same⟩ := List.mem_map.mp member
            obtain ⟨later, _, passed'⟩ := Related.left
              ((List.forall₂_map_right_iff).mp (fits_of_choices tail)) listed'
            exact (passed' entry rfl).2 (same ▸ List.mem_cons_self)

theorem unlooped_nil : Unlooped tree [] := by
  intro entry _ used
  contradiction

theorem finds_of_findable {files : List SlskdDownloadFile}
    (loopless : ∀ item ∈ files, Loopless matcher tree item) (findable : Findable matcher files) :
    Finds matcher tree exclude files where
  complete := by
    intro assigned listed distinct
    have possible : ∀ item ∈ files, Possible matcher item := by
      intro item member
      obtain ⟨entry, _, eligible⟩ := Related.right listed member
      exact eligible.possible
    have readable := findable.readable possible
    have searched : ∀ item ∈ files,
        isInvalid (baseName item) = false ∧ Loopless matcher tree item := by
      intro item member
      exact ⟨readable item member, loopless item member⟩
    have unused : ∀ entry ∈ assigned, entry.path ∉ ([] : List (List Str)) :=
      fun _ _ => List.not_mem_nil
    obtain ⟨found, taken, eligible, apart⟩ := choices_of_assigned unlooped_nil searched
      (findable.own possible) (findable.only readable) (findable.ordered possible) listed distinct
      unused
    refine ⟨found, ?_, eligible, apart⟩
    rw [matchingPaths_eq, taken, Option.map_some]
    simp [List.reduceOption]
  sound := by
    intro chosen taken
    have searched := (exists_choices unlooped_nil).mp ⟨chosen, taken⟩
    have readable : ∀ item ∈ files, isInvalid (baseName item) = false := by
      intro item member
      exact (searched item member).1
    have withFiles := (List.forall₂_and_left _ _).mpr ⟨fun item member => member,
      fits_of_choices taken⟩
    apply withFiles.imp
    intro item choice pair entry same
    exact (pair.2 entry same).1.eligible (findable.only readable item pair.1)

end Finds

/-! ## Trees of given files -/

/-- A regular file below a root. -/
structure Copy where
  name : Str
  size : Nat
  mtimeNs : Int

/-- The `k`-th of some files, in a directory of its own. -/
def Copy.entry (copy : Copy) (k : Nat) : Entry where
  path := [List.replicate (k + 1) (.char 'd'), copy.name]
  isSymlink := false
  isFile := true
  resolved := some [str "downloads", List.replicate (k + 1) (.char 'd'), copy.name]
  size := copy.size
  mtimeNs := copy.mtimeNs

/-- The files from the `k`-th on. -/
def entriesFrom : Nat → List Copy → List Entry
  | _, [] => []
  | k, copy :: rest => copy.entry k :: entriesFrom (k + 1) rest

theorem mem_entriesFrom {k : Nat} {copies : List Copy} {entry : Entry}
    (listed : entry ∈ entriesFrom k copies) :
    ∃ copy ∈ copies, ∃ i, k ≤ i ∧ entry = copy.entry i := by
  induction copies generalizing k with
  | nil => contradiction
  | cons copy rest ih =>
      cases List.mem_cons.mp listed with
      | inl same => exact ⟨copy, List.mem_cons_self, k, Nat.le_refl k, same⟩
      | inr later =>
          obtain ⟨other, member, i, bound, same⟩ := ih later
          exact ⟨other, List.mem_cons_of_mem copy member, i, Nat.le_of_succ_le bound, same⟩

theorem nodup_entriesFrom (k : Nat) (copies : List Copy) :
    ((entriesFrom k copies).map Entry.path).Nodup := by
  induction copies generalizing k with
  | nil => exact List.nodup_nil
  | cons copy rest ih =>
      rw [entriesFrom, List.map_cons, List.nodup_cons]
      refine ⟨?_, ih (k + 1)⟩
      intro member
      obtain ⟨entry, listed, same⟩ := List.mem_map.mp member
      obtain ⟨other, _, i, bound, rfl⟩ := mem_entriesFrom listed
      have directories := congrArg List.length (List.cons.inj same).1
      rw [List.length_replicate, List.length_replicate] at directories
      omega

theorem listed_entriesFrom (k : Nat) (copies : List Copy) :
    List.Forall₂ (fun copy entry => ∃ i, entry = copy.entry i) copies
      (entriesFrom k copies) := by
  induction copies generalizing k with
  | nil => exact .nil
  | cons copy rest ih => exact .cons ⟨k, rfl⟩ (ih (k + 1))

/-- A download root with these files. -/
def planted (copies : List Copy) (named : ∀ copy ∈ copies, IsName copy.name) : Tree where
  root := [str "downloads"]
  entries := entriesFrom 0 copies
  distinct := nodup_entriesFrom 0 copies
  named := by
    intro entry listed
    obtain ⟨copy, member, i, _, rfl⟩ := mem_entriesFrom listed
    exact named copy member

theorem Copy.inside (copy : Copy) (k : Nat) :
    ∃ resolved ∈ (copy.entry k).resolved, [str "downloads"].isPrefixOf resolved = true := by
  refine ⟨_, rfl, ?_⟩
  rw [List.isPrefixOf_iff_prefix]
  exact ⟨[List.replicate (k + 1) (.char 'd'), copy.name], rfl⟩

/-- There are no links. -/
theorem loopless_planted (matcher : Matcher) {copies : List Copy}
    {named : ∀ copy ∈ copies, IsName copy.name} (item : SlskdDownloadFile) :
    Loopless matcher (planted copies named) item := by
  intro entry listed _
  obtain ⟨copy, _, i, _, rfl⟩ := mem_entriesFrom listed
  rfl

theorem eligible_entry {matcher : Matcher} {copies : List Copy}
    {named : ∀ copy ∈ copies, IsName copy.name} {item : SlskdDownloadFile} {copy : Copy} {k : Nat}
    (listed : copy.entry k ∈ (planted copies named).entries) (called : copy.name = baseName item)
    (complete : isPartial matcher copy.name = false)
    (sized : item.size = 0 ∨ (copy.size : Int) = item.size) :
    Eligible matcher (planted copies named) [] item (copy.entry k) where
  listed := listed
  name := called
  fresh := fun _ _ => List.not_mem_nil
  regular := ⟨rfl, rfl⟩
  complete := complete
  inside := copy.inside k
  size := sized

section Planted

variable {matcher : Matcher} {files : List SlskdDownloadFile}

/-- One file for each request, of its name and size. -/
theorem eligible_planted {copyOf : SlskdDownloadFile → Copy}
    (possible : ∀ item ∈ files, Possible matcher item)
    (called : ∀ item, (copyOf item).name = baseName item)
    (sized : ∀ item ∈ files, item.size = 0 ∨ ((copyOf item).size : Int) = item.size)
    (named : ∀ copy ∈ files.map copyOf, IsName copy.name) :
    List.Forall₂ (Eligible matcher (planted (files.map copyOf) named) []) files
      (planted (files.map copyOf) named).entries := by
  have listed := (List.forall₂_map_left_iff).mp (listed_entriesFrom 0 (files.map copyOf))
  have fromFiles := (List.forall₂_and_left _ _).mpr ⟨fun item member => member, listed⟩
  have inTree := (List.forall₂_and_left _ _).mpr ⟨fun entry member => member, fromFiles.flip⟩
  apply inTree.flip.imp
  intro item entry pair
  obtain ⟨there, member, k, rfl⟩ := pair
  apply eligible_entry there (called item)
  · rw [called item]
    exact (possible item member).complete
  · exact sized item member

/-- The search finds a file for each request where there is one. -/
theorem chosen_of_finds {tree : Tree} {assigned : List Entry}
    (finds : Finds matcher tree [] files)
    (listed : List.Forall₂ (Eligible matcher tree []) files assigned)
    (distinct : (assigned.map Entry.path).Nodup) :
    ∃ found, choices matcher tree [] files [] = some (found.map some) ∧
      List.Forall₂ (Eligible matcher tree []) files found ∧ (found.map Entry.path).Nodup := by
  obtain ⟨found, matched, eligible, apart⟩ := finds.complete assigned listed distinct
  rw [matchingPaths_eq] at matched
  obtain ⟨chosen, taken, rfl⟩ := Option.map_eq_some_iff.mp matched
  have length : chosen.reduceOption.length = chosen.length :=
    eligible.length_eq.symm.trans (fits_of_choices taken).length_eq
  refine ⟨chosen.reduceOption, ?_, eligible, apart⟩
  rw [taken]
  congr 1
  have all := List.reduceOption_length_eq_iff.mp length
  clear taken matched eligible apart length finds listed distinct
  induction chosen with
  | nil => rfl
  | cons choice rest ih =>
      rw [List.forall_mem_cons] at all
      obtain ⟨entry, rfl⟩ := Option.isSome_iff_exists.mp all.1
      rw [List.reduceOption_cons_of_some, List.map_cons, ← ih all.2]

/-! ## Requests whose files are missed -/

/-- The file that a request stands for. -/
def SlskdDownloadFile.copy (item : SlskdDownloadFile) : Copy :=
  { name := baseName item, size := item.size.toNat, mtimeNs := 0 }

theorem SlskdDownloadFile.copy_size {item : SlskdDownloadFile} (possible : Possible matcher item) :
    item.size = 0 ∨ (item.copy.size : Int) = item.size :=
  .inr (Int.toNat_of_nonneg possible.size)

theorem named_copies {copyOf : SlskdDownloadFile → Copy}
    (possible : ∀ item ∈ files, Possible matcher item)
    (called : ∀ item, (copyOf item).name = baseName item) :
    ∀ copy ∈ files.map copyOf, IsName copy.name := by
  intro copy listed
  obtain ⟨item, member, rfl⟩ := List.mem_map.mp listed
  rw [called item]
  exact (possible item member).name

/-- Downloads are found in every tree without links that lead back to themselves. -/
def Found (matcher : Matcher) (files : List SlskdDownloadFile) : Prop :=
  ∀ tree exclude, (∀ item ∈ files, Loopless matcher tree item) → Finds matcher tree exclude files

theorem Found.planted (found : Found matcher files) {copies : List Copy}
    (named : ∀ copy ∈ copies, IsName copy.name) :
    Finds matcher (planted copies named) [] files :=
  found _ [] fun item _ => loopless_planted matcher item

/-- Where every request has its file the pattern of each can be read and matches itself. -/
theorem readable_of_finds (finds : Found matcher files)
    (possible : ∀ item ∈ files, Possible matcher item) :
    ∀ item ∈ files, isInvalid (baseName item) = false ∧
      globs matcher (baseName item) (baseName item) = true := by
  have named : ∀ copy ∈ files.map SlskdDownloadFile.copy, IsName copy.name :=
    named_copies possible fun _ => rfl
  have listed := eligible_planted possible (fun _ => rfl)
    (fun item member => SlskdDownloadFile.copy_size (possible item member)) named
  obtain ⟨found, taken, eligible, _⟩ :=
    chosen_of_finds (finds.planted named) listed (Tree.distinct _)
  intro item member
  refine ⟨((exists_choices unlooped_nil).mp ⟨_, taken⟩ item member).1, ?_⟩
  have fits := (List.forall₂_map_right_iff).mp (fits_of_choices taken)
  obtain ⟨entry, _, both⟩ := Related.right (Related.both eligible fits) member
  exact both.1.name ▸ (both.2 entry rfl).1.found

/-- Among more files than there are requests some file is left for each of them. -/
theorem exists_choice {tree : Tree} {exclude used : List (List Str)}
    {chosen : List (Option Entry)}
    (taken : choices matcher tree exclude files used = some chosen)
    (unlooped : Unlooped tree used)
    (room : used.length + files.length ≤ tree.entries.length) {item : SlskdDownloadFile}
    (member : item ∈ files) (fits : ∀ entry ∈ tree.entries, Fits matcher tree exclude item entry)
    {related : SlskdDownloadFile → Entry → Prop}
    (holds : List.Forall₂ (fun item choice => ∀ entry, choice = some entry → related item entry)
      files chosen) :
    ∃ entry ∈ tree.entries, related item entry := by
  induction files generalizing used chosen with
  | nil => contradiction
  | cons first files ih =>
      obtain ⟨choice, others, head, tail, rfl⟩ := choices_cons_eq_some.mp taken
      rw [List.length_cons] at room
      cases holds with
      | cons here later =>
          cases List.mem_cons.mp member with
          | inr deeper =>
              apply ih tail (unlooped.choose head) _ deeper later
              cases choice <;> simp <;> omega
          | inl same =>
              subst same
              have unused : ∃ entry ∈ tree.entries, entry.path ∉ used := by
                by_contra absent
                have none_ : ∀ entry ∈ tree.entries, entry.path ∈ used := by
                  intro entry there
                  by_contra free
                  exact absent ⟨entry, there, free⟩
                have within : tree.entries.map Entry.path ⊆ used := by
                  intro path listed
                  obtain ⟨entry, there, rfl⟩ := List.mem_map.mp listed
                  exact none_ entry there
                have short := tree.distinct.length_le_of_subset within
                rw [List.length_map] at short
                omega
              obtain ⟨other, there, free⟩ := unused
              have readable := (exists_choices unlooped).mp ⟨_, taken⟩ item List.mem_cons_self
              obtain ⟨entry, found⟩ := exists_choose unlooped readable (fits other there) free
              have same := Option.some.inj (head.symm.trans found)
              exact ⟨entry, (choose_eq_some found).1.listed, here entry same⟩

/-- A pattern that matches the name of another file finds that file. -/
theorem only_of_finds (finds : Found matcher files)
    (readable : ∀ item ∈ files, isInvalid (baseName item) = false) {item : SlskdDownloadFile}
    (member : item ∈ files) (known : 0 ≤ item.size) {name : Str} (isName : IsName name)
    (complete : isPartial matcher name = false)
    (found : globs matcher (baseName item) name = true) : name = baseName item := by
  let copy : Copy := { name := name, size := item.size.toNat, mtimeNs := 0 }
  have named : ∀ other ∈ List.replicate files.length copy, IsName other.name := by
    intro other listed
    rw [List.eq_of_mem_replicate listed]
    exact isName
  have isCopy : ∀ entry ∈ (planted _ named).entries, ∃ k, entry = copy.entry k := by
    intro entry listed
    obtain ⟨other, there, k, _, rfl⟩ := mem_entriesFrom listed
    exact ⟨k, List.eq_of_mem_replicate there ▸ rfl⟩
  have taken : ∃ chosen, choices matcher (planted _ named) [] files [] = some chosen :=
    (exists_choices unlooped_nil).mpr fun item member =>
      ⟨readable item member, loopless_planted matcher item⟩
  obtain ⟨chosen, taken⟩ := taken
  have fits : ∀ entry ∈ (planted _ named).entries,
      Fits matcher (planted _ named) [] item entry := by
    intro entry listed
    obtain ⟨k, rfl⟩ := isCopy entry listed
    exact {
      listed := listed
      found := found
      fresh := fun _ _ => List.not_mem_nil
      regular := ⟨rfl, rfl⟩
      complete := complete
      inside := copy.inside k
      size := .inr (Int.toNat_of_nonneg known) }
  have room : ([] : List (List Str)).length + files.length ≤ (planted _ named).entries.length := by
    have many := (listed_entriesFrom 0 (List.replicate files.length copy)).length_eq
    rw [List.length_replicate] at many
    simp only [planted, ← many, List.length_nil, Nat.zero_add, Nat.le_refl]
  obtain ⟨entry, listed, eligible⟩ := exists_choice taken unlooped_nil room member fits
    ((finds.planted named).sound chosen taken)
  obtain ⟨k, rfl⟩ := isCopy entry listed
  exact eligible.name

/-- The files for requests of a known size are the newest of one name and size, and there are no
more of them than such requests. -/
def contested (name : Str) (size : Nat) (item : SlskdDownloadFile) : Copy where
  name := baseName item
  size := if item.size = 0 then size + 1 else item.size.toNat
  mtimeNs := if baseName item = name ∧ item.size = size then 1 else 0

theorem contested_sized {name : Str} {size : Nat} {item : SlskdDownloadFile}
    (possible : Possible matcher item) :
    item.size = 0 ∨ ((contested name size item).size : Int) = item.size := by
  by_cases unknown : item.size = 0
  · exact .inl unknown
  · rw [contested, if_neg unknown]
    exact .inr (Int.toNat_of_nonneg possible.size)

theorem contested_mtimeNs {name : Str} {size : Nat} {item : SlskdDownloadFile} :
    (contested name size item).mtimeNs = 1 ↔ baseName item = name ∧ item.size = size := by
  simp only [contested]
  split
  · next asked => exact iff_of_true rfl asked
  · next other => exact iff_of_false (by decide) other

theorem contested_mtimeNs_le (name : Str) (size : Nat) (item : SlskdDownloadFile) :
    (contested name size item).mtimeNs ≤ 1 := by
  simp only [contested]
  split <;> decide

/-- A file of that name and size stands for a request of them. -/
theorem contested_newest {name : Str} {size : Nat} {item : SlskdDownloadFile}
    (possible : Possible matcher item) (called : (contested name size item).name = name)
    (sized : (contested name size item).size = size) :
    (contested name size item).mtimeNs = 1 := by
  have known := possible.size
  rw [contested_mtimeNs]
  simp only [contested] at called sized
  split at sized
  · omega
  · exact ⟨called, by omega⟩

/-- A request of a known size behind one of an unknown size for the same name may lose its
file to it. -/
theorem ordered_of_finds (finds : Found matcher files)
    (possible : ∀ item ∈ files, Possible matcher item)
    (own : ∀ item ∈ files, globs matcher (baseName item) (baseName item) = true) :
    files.Pairwise fun earlier later =>
      baseName earlier = baseName later → earlier.size = 0 → later.size = 0 := by
  rw [List.pairwise_iff_forall_sublist]
  intro earlier later order sameName unknown
  by_contra known
  let copyOf := contested (baseName later) later.size.toNat
  have named : ∀ copy ∈ files.map copyOf, IsName copy.name :=
    named_copies possible fun _ => rfl
  have listed := eligible_planted possible (fun _ => rfl)
    (fun item member => contested_sized (possible item member)) named
  obtain ⟨found, taken, eligible, distinct⟩ :=
    chosen_of_finds (finds.planted named) listed (Tree.distinct _)
  have laterPossible := possible later (order.subset (by simp))
  have isNewest : ∀ item entry, Eligible matcher (planted _ named) [] item entry →
      baseName item = baseName later → item.size = later.size → entry.mtimeNs = 1 := by
    intro item entry stands called sized
    obtain ⟨copy, there, k, _, rfl⟩ := mem_entriesFrom stands.listed
    obtain ⟨other, member, rfl⟩ := List.mem_map.mp there
    have entrySize := stands.size
    have laterSize := laterPossible.size
    apply contested_newest (possible other member)
    · exact stands.name.trans called
    · have same : ((copyOf other).entry k).size =
          (contested (baseName later) later.size.toNat other).size := rfl
      omega
  obtain ⟨first, second, order⟩ :=
    Related.zip_sublist (Nat.le_of_eq eligible.length_eq) order
  have firstPaired : (earlier, first) ∈ files.zip found := order.subset List.mem_cons_self
  have secondPaired : (later, second) ∈ files.zip found :=
    order.subset (List.mem_cons_of_mem _ List.mem_cons_self)
  have secondStands := List.forall₂_zip eligible secondPaired
  -- the later file would have done for the earlier request
  have fits : Fits matcher (planted _ named) [] earlier second :=
    { secondStands.fits (own later (List.of_mem_zip secondPaired).1) with
      found := by
        rw [secondStands.name, ← sameName]
        exact own earlier (List.of_mem_zip firstPaired).1
      size := .inl unknown }
  have newer : second.mtimeNs ≤ first.mtimeNs :=
    (List.pairwise_cons.mp ((newest_of_choices taken).sublist order)).1 (later, second)
      List.mem_cons_self fits
  rw [isNewest later second secondStands rfl rfl] at newer
  let contests (item : SlskdDownloadFile) : Bool := (copyOf item).mtimeNs = 1
  let isTaken (entry : Entry) : Bool := entry.mtimeNs = 1
  have enough : files.countP contests < found.countP isTaken := by
    apply Related.countP_lt _ firstPaired
    · apply decide_eq_false
      intro asked
      have sized := (contested_mtimeNs.mp asked).2
      have laterSize := laterPossible.size
      omega
    · obtain ⟨copy, there, k, _, rfl⟩ :=
        mem_entriesFrom (List.forall₂_zip eligible firstPaired).listed
      obtain ⟨item, _, rfl⟩ := List.mem_map.mp there
      have bound := contested_mtimeNs_le (baseName later) later.size.toNat item
      exact decide_eq_true (Int.le_antisymm bound newer)
    · apply eligible.imp
      intro item entry stands asked
      obtain ⟨called, sized⟩ := contested_mtimeNs.mp (of_decide_eq_true asked)
      have laterSize := laterPossible.size
      exact decide_eq_true (isNewest item entry stands called (by omega))
  have few : found.countP isTaken ≤ (planted _ named).entries.countP isTaken := by
    apply List.Subperm.countP_le
    apply List.subperm_of_subset (List.Nodup.of_map _ distinct)
    intro entry member
    obtain ⟨item, _, stands⟩ := Related.left eligible member
    exact stands.listed
  have same : (planted _ named).entries.countP isTaken ≤ files.countP contests := by
    apply Related.countP_le
    apply ((List.forall₂_map_left_iff).mp (listed_entriesFrom 0 (files.map copyOf))).flip.imp
    intro entry item pair taken
    obtain ⟨k, rfl⟩ := pair
    exact taken
  omega

/-! ## When every finished download is found -/

/-- A link that leads back to itself ends the search where a pattern finds it. -/
theorem matchingPaths_eq_none {tree : Tree} {exclude : List (List Str)}
    (looping : ¬∀ item ∈ files, Loopless matcher tree item) :
    matchingPaths matcher tree exclude files = none := by
  rw [matchingPaths_eq, Option.map_eq_none_iff]
  cases taken : choices matcher tree exclude files [] with
  | none => rfl
  | some chosen =>
      have searched := (exists_choices unlooped_nil).mp ⟨chosen, taken⟩
      exact absurd (fun item member => (searched item member).2) looping

/-- Downloads are found, whatever else lies there but links that lead back to themselves, exactly
where the base names match themselves alone and a request of an unknown size follows those of a
known size for its name; with such a link of a name that is looked for the search raises. -/
theorem finds_iff (matcher : Matcher) (files : List SlskdDownloadFile) :
    (Found matcher files ↔ Findable matcher files) ∧
      ∀ tree exclude, (¬∀ item ∈ files, Loopless matcher tree item) →
        matchingPaths matcher tree exclude files = none := by
  refine ⟨⟨?_, ?_⟩, ?_⟩
  · intro found
    constructor
    · intro possible item member
      exact (readable_of_finds found possible item member).1
    · intro possible item member
      exact (readable_of_finds found possible item member).2
    · intro readable item member known name isName complete matched
      exact only_of_finds found readable member known isName complete matched
    · intro possible
      apply ordered_of_finds found possible
      intro item member
      exact (readable_of_finds found possible item member).2
  · intro findable tree exclude loopless
    exact finds_of_findable loopless findable
  · intro tree exclude looping
    exact matchingPaths_eq_none looping

/-- Names without a special sign are found, if their sizes are known. -/
theorem findable_of_plain
    (plain : ∀ item ∈ files, ∀ c ∈ baseName item, Glob.isSpecial c = false)
    (known : ∀ item ∈ files, item.size ≠ 0) : Findable matcher files where
  readable := by
    intro _ item member
    have noStar : .char '*' ∉ baseName item := by
      intro star
      have special := plain item member _ star
      contradiction
    rw [isInvalid, Bool.and_eq_false_iff]
    right
    rw [List.any_eq_false]
    intro tail listed starred
    have prefix_ := List.isPrefixOf_iff_prefix.mp starred
    have inTail : .char '*' ∈ tail := prefix_.subset (by decide)
    exact noStar ((List.mem_tails _ _).mp listed |>.subset inTail)
  own := by
    intro possible item member
    have name := (possible item member).name
    have matched := (Glob.fnmatch_plain matcher.contains (plain item member) _).mpr rfl
    have notStars : baseName item ≠ str "**" := by
      intro same
      have special := plain item member (.char '*') (by rw [same]; decide)
      contradiction
    simp only [globs, matched, Bool.and_true, Bool.and_eq_true, decide_eq_true_eq]
    exact ⟨⟨name.1, name.2.2.1⟩, notStars⟩
  only := by
    intro _ item member _ name _ _ found
    rw [globs, Bool.and_eq_true] at found
    exact (Glob.fnmatch_plain matcher.contains (plain item member) name).mp found.2
  ordered := by
    intro _
    apply List.pairwise_of_forall_mem_list
    intro earlier member _ _ _ unknown
    exact absurd unknown (known earlier member)

end Planted

/-- A set of single characters. -/
def plainMatcher : Matcher where
  lower := id
  contains stuff c := stuff.contains c

/-- A file whose name begins with a number in brackets. -/
def bracketRequest : SlskdDownloadFile :=
  { filename := str "Album/[01].flac", size := 5 }

theorem bracketRequest_named :
    ∀ copy ∈ [bracketRequest].map SlskdDownloadFile.copy, IsName copy.name := by
  intro copy listed
  rw [List.mem_singleton.mp listed]
  exact ⟨by decide, by decide, by decide, by decide, by decide⟩

/-- The requested file lies there, and it is not found. -/
theorem not_finds_bracket :
    ¬ Finds plainMatcher (planted _ bracketRequest_named) [] [bracketRequest] := by
  intro finds
  have possible : Possible plainMatcher bracketRequest :=
    ⟨bracketRequest_named _ List.mem_cons_self, by decide, by decide⟩
  have listed := eligible_planted ((List.forall_mem_singleton).mpr possible) (fun _ => rfl)
    ((List.forall_mem_singleton).mpr (SlskdDownloadFile.copy_size possible)) bracketRequest_named
  obtain ⟨found, matched, eligible, _⟩ := finds.complete _ listed (Tree.distinct _)
  have nothing : matchingPaths plainMatcher (planted _ bracketRequest_named) []
      [bracketRequest] = some [] := by
    have readable : isInvalid (baseName bracketRequest) = false := by decide
    have silent : globs plainMatcher (baseName bracketRequest) (str "[01].flac") = false := by
      decide
    have none_ : choose plainMatcher (planted _ bracketRequest_named) [] [] bracketRequest =
        some none := by
      obtain ⟨choice, taken⟩ := Option.isSome_iff_exists.mp ((choose_isSome unlooped_nil).mpr
        ⟨readable, loopless_planted plainMatcher bracketRequest⟩)
      rw [taken]
      cases choice with
      | none => rfl
      | some entry =>
          have fits := (choose_eq_some taken).1
          have found := fits.found
          cases List.mem_singleton.mp fits.listed
          exact absurd found (ne_true_of_eq_false silent)
    rw [matchingPaths_eq, choices, none_]
    rfl
  rw [nothing] at matched
  cases matched
  cases eligible

end Mintarr.Soulseek
