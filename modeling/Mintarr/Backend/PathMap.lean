import Mintarr.Backend.Row
import Mintarr.Lib.Casing
import Mintarr.Lib.Characters
import Mintarr.Lib.PurePath

/-!
# Where a backend says its files are

`parse_path_map` and `apply_path_map` rewrite a path of the backend into one of this host,
and `contained_path` takes it only from below the download root.  The prefix of a path is
compared in lower case, and then cut from the path as it is by the length of the source: the
two lengths need not be the same.
-/

namespace Mintarr.Backend

open Lib

/-! ## The map -/

/-- `text.replace("\\", "/")`. -/
def slashed (text : List Char) : List Char := text.map fun c => if c = '\\' then '/' else c

/-- `text.rstrip("/")`. -/
def rstripSlash (text : List Char) : List Char :=
  (text.reverse.dropWhile (· = '/')).reverse

/-- `text.strip()`. -/
def strip (text : List Char) : List Char := Text.strip Text.isSpace text

/-- `entry.split("=>", 1)`, where there is one. -/
def cutArrow : List Char → Option (List Char × List Char)
  | [] => none
  | '=' :: '>' :: rest => some ([], rest)
  | c :: rest => (cutArrow rest).map fun sides => (c :: sides.1, sides.2)

/-- A prefix of the backend and the prefix that takes its place. -/
structure Pair where
  src : List Char
  dst : List Char
  deriving DecidableEq, Repr

/-- One entry of a map; nothing where it is skipped. -/
def parseEntry (entry : List Char) : Option Pair :=
  match cutArrow (strip entry) with
  | none => none
  | some (src, dst) =>
      let pair : Pair :=
        { src := rstripSlash (slashed (strip src)), dst := rstripSlash (slashed (strip dst)) }
      if pair.src ≠ [] && pair.dst ≠ [] then some pair else none

/-- `parse_path_map`. -/
def parsePathMap (raw : Option (List Char)) : List Pair :=
  ((raw.getD []).splitOn ';').filterMap parseEntry

/-- What the loop of `apply_path_map` does with one pair. -/
def applyPair (table : CaseTable) (norm : List Char) (pair : Pair) : Option (List Char) :=
  let lowered := table.lower norm
  let srcL := table.lower pair.src
  if lowered = srcL then some pair.dst
  else if (srcL ++ ['/']).isPrefixOf lowered then
    some (pair.dst ++ norm.drop pair.src.length)
  else none

/-- `apply_path_map`. -/
def applyPathMap (table : CaseTable) (path : List Char) (pairs : List Pair) : List Char :=
  if path = [] || pairs = [] then path
  else (pairs.findSome? (applyPair table (slashed path))).getD path

/-! ## Containment -/

/-- `path in other.parents`. -/
def isParent (path other : PurePath) : Bool :=
  path.root = other.root && path.parts.isPrefixOf other.parts && path.parts ≠ other.parts

/-- `contained_path`; `resolve` is `Path(text).resolve()`, and nothing where that raises. -/
def containedPath (resolve : List Char → Option PurePath) (root candidate : List Char) :
    Option PurePath :=
  match resolve root, resolve candidate with
  | some rootResolved, some candidateResolved =>
      if candidateResolved = rootResolved then none
      else if !isParent rootResolved candidateResolved then none
      else some candidateResolved
  | _, _ => none

/-- The client of a SABnzbd backend, as far as it reads paths. -/
structure SabBackendClient where
  /-- `download_root`; an empty one is not set. -/
  downloadRoot : List Char
  pathMap : Option (List Char)

/-- The keys of a history slot that are read, as texts; a missing one is empty. -/
structure HistorySlot where
  status : List Char
  storage : List Char
  name : List Char
  filename : List Char

/-- `BackendJobStatus`; the completed path is not yet a text. -/
structure HistoryStatus where
  backendJobId : String
  state : TransferState
  progress : Nat
  completedPath : Option PurePath
  rawStatus : List Char
  displayName : Option (List Char)

/-- `_slot_display_name`. -/
def slotDisplayName (slot : HistorySlot) : Option (List Char) :=
  let name := strip (if slot.name ≠ [] then slot.name else slot.filename)
  if name = [] then none else some name

/-- `_has_token(text, _SAB_FAILED_TOKENS)`. -/
def hasFailedToken (table : CaseTable) (text : List Char) : Bool :=
  ["failed", "error"].any fun token =>
    (table.lower text).tails.any fun tail => token.toList.isPrefixOf tail

/-- `_history_status`. -/
def historyStatus (table : CaseTable) (resolve : List Char → Option PurePath)
    (client : SabBackendClient) (jid : String) (slot : HistorySlot) : HistoryStatus :=
  if hasFailedToken table slot.status then
    { backendJobId := jid
      state := .failed
      progress := 0
      completedPath := none
      rawStatus := slot.status
      displayName := slotDisplayName slot }
  else
    { backendJobId := jid
      state := .completed
      progress := 100
      completedPath :=
        if client.downloadRoot = [] then none
        else
          containedPath resolve client.downloadRoot
            (applyPathMap table slot.storage (parsePathMap client.pathMap))
      rawStatus := slot.status
      displayName := slotDisplayName slot }

/-! ## What the map is for -/

/-- A source matches a path: it is the first part of it but for letter case, and what is left
is nothing or begins with a separator. -/
structure Matches (table : CaseTable) (src norm head rest : List Char) : Prop where
  whole : norm = head ++ rest
  same : table.lower head = table.lower src
  ends : rest = [] ∨ ∃ below, rest = '/' :: below

/-- A path is mapped by the first pair whose source matches it, to the target followed by what
is left of it; without one it stays as it is. -/
inductive Maps (table : CaseTable) (path : List Char) : List Pair → List Char → Prop where
  | unmatched : Maps table path [] path
  | first {pair : Pair} {pairs : List Pair} {head rest : List Char} :
      Matches table pair.src (slashed path) head rest →
      Maps table path (pair :: pairs) (pair.dst ++ rest)
  | later {pair : Pair} {pairs : List Pair} {result : List Char} :
      (∀ head rest, ¬Matches table pair.src (slashed path) head rest) →
      Maps table path pairs result → Maps table path (pair :: pairs) result

/-- A path below another. -/
def StrictlyBelow (root path : PurePath) : Prop :=
  path.root = root.root ∧ ∃ below, below ≠ [] ∧ path.parts = root.parts ++ below

/-- Paths are mapped, and a completed path lies below the download root. -/
structure MapsPaths (table : CaseTable) (resolve : List Char → Option PurePath)
    (client : SabBackendClient) (jid : String) (slot : HistorySlot) : Prop where
  maps : Maps table slot.storage (parsePathMap client.pathMap)
    (applyPathMap table slot.storage (parsePathMap client.pathMap))
  below : ∀ completed,
    (historyStatus table resolve client jid slot).completedPath = some completed →
      ∃ root, resolve client.downloadRoot = some root ∧ StrictlyBelow root completed

/-- The part of the path that the first matching source matches is as long as the source, or
all of the path. -/
def CutsAlike (table : CaseTable) (norm : List Char) (pairs : List Pair) : Prop :=
  ∀ before pair after head rest, pairs = before ++ pair :: after →
    (∀ earlier ∈ before, ∀ head rest, ¬Matches table earlier.src norm head rest) →
    Matches table pair.src norm head rest → rest = [] ∨ head.length = pair.src.length

/-! ## One pair -/

section Pairs

variable {table : CaseTable} {src norm head rest : List Char}

/-- A source matches one part of a path at most. -/
theorem Matches.unique (slash : table.Separates '/') {other left : List Char}
    (matched : Matches table src norm head rest) (again : Matches table src norm other left) :
    head = other ∧ rest = left := by
  -- The longer of two heads would have a separator more.
  have longer : ∀ {one two more after : List Char}, table.lower one = table.lower two →
      two = one ++ more → more ++ after = [] ∨ (∃ below, more ++ after = '/' :: below) →
      more = [] := by
    intro one two more after same extends_ ends
    cases more with
    | nil => rfl
    | cons c more =>
        rcases ends with empty | ⟨below, begins⟩
        · contradiction
        · rw [List.cons_append, List.cons.injEq] at begins
          rw [extends_, begins.1, slash.lower_append] at same
          have lengths := congrArg List.length same
          simp at lengths
  have lowered := matched.same.trans again.same.symm
  obtain ⟨more, heads, rests⟩ | ⟨more, heads, rests⟩ :=
    List.append_eq_append_iff.mp (matched.whole.symm.trans again.whole)
  · have empty := longer lowered heads (rests ▸ matched.ends)
    rw [empty, List.append_nil] at heads
    rw [empty, List.nil_append] at rests
    exact ⟨heads.symm, rests⟩
  · have empty := longer lowered.symm heads (rests ▸ again.ends)
    rw [empty, List.append_nil] at heads
    rw [empty, List.nil_append] at rests
    exact ⟨heads, rests.symm⟩

/-- The loop passes over a pair that does not match. -/
theorem applyPair_eq_none (slash : table.Separates '/') {pair : Pair} :
    applyPair table norm pair = none ↔
      ∀ head rest, ¬Matches table pair.src norm head rest := by
  constructor
  · intro passed head rest matched
    unfold applyPair at passed
    rw [matched.whole] at passed
    rcases matched.ends with empty | ⟨below, begins⟩
    · simp [empty, matched.same] at passed
    · rw [begins, slash.lower_append, matched.same] at passed
      simp at passed
  · intro unmatched
    unfold applyPair
    rw [if_neg, if_neg]
    · intro begins
      obtain ⟨more, lowered⟩ := List.isPrefixOf_iff_prefix.mp begins
      rw [List.append_assoc, List.singleton_append] at lowered
      obtain ⟨head, below, whole, same⟩ := slash.exists_of_lower_eq lowered.symm
      exact unmatched head ('/' :: below) ⟨whole, same, Or.inr ⟨below, rfl⟩⟩
    · intro same
      exact unmatched norm [] ⟨(List.append_nil norm).symm, same, Or.inl rfl⟩

/-- What the loop makes of a pair that matches. -/
theorem applyPair_of_matches (slash : table.Separates '/') {pair : Pair}
    (matched : Matches table pair.src norm head rest) :
    applyPair table norm pair =
      some (pair.dst ++ if rest = [] then [] else norm.drop pair.src.length) := by
  unfold applyPair
  rcases matched.ends with empty | ⟨below, begins⟩
  · rw [matched.whole, empty, List.append_nil, if_pos matched.same, if_pos rfl, List.append_nil]
  · have lowered : table.lower norm = table.lower pair.src ++ '/' :: table.lower below := by
      rw [matched.whole, begins, slash.lower_append, matched.same]
    have differs : table.lower norm ≠ table.lower pair.src := by
      rw [lowered]
      intro same
      have lengths := congrArg List.length same
      simp at lengths
    have prefixed : (table.lower pair.src ++ ['/']).isPrefixOf (table.lower norm) = true := by
      rw [lowered, List.isPrefixOf_iff_prefix]
      exact ⟨table.lower below, by simp⟩
    have nonempty : rest ≠ [] := by
      rw [begins]
      simp
    rw [if_neg differs, if_pos prefixed, if_neg nonempty]

/-- The cut by the length of the source is right exactly where the two lengths are the same. -/
theorem drop_eq_iff (matched : Matches table src norm head rest) :
    (if rest = [] then [] else norm.drop src.length) = rest ↔
      rest = [] ∨ head.length = src.length := by
  by_cases empty : rest = []
  · simp [empty]
  · have positive := List.length_pos_iff.mpr empty
    rw [if_neg empty, or_iff_right empty]
    constructor
    · intro cut
      have lengths := congrArg List.length cut
      rw [matched.whole, List.length_drop, List.length_append] at lengths
      omega
    · intro lengths
      rw [matched.whole, ← lengths, List.drop_left]

/-! ## The loop -/

/-- Where the first source matches, its pair decides. -/
theorem maps_first_iff (slash : table.Separates '/') {path result : List Char} {pair : Pair}
    {pairs : List Pair} (matched : Matches table pair.src (slashed path) head rest) :
    Maps table path (pair :: pairs) result ↔ result = pair.dst ++ rest := by
  constructor
  · intro maps
    cases maps with
    | first again => rw [(matched.unique slash again).2]
    | later unmatched _ => exact absurd matched (unmatched head rest)
  · intro same
    rw [same]
    exact .first matched

theorem maps_later_iff {path result : List Char} {pair : Pair} {pairs : List Pair}
    (unmatched : ∀ head rest, ¬Matches table pair.src (slashed path) head rest) :
    Maps table path (pair :: pairs) result ↔ Maps table path pairs result := by
  constructor
  · intro maps
    cases maps with
    | first matched => exact absurd matched (unmatched _ _)
    | later _ maps => exact maps
  · intro maps
    exact .later unmatched maps

theorem cutsAlike_first_iff (slash : table.Separates '/') {pair : Pair} {pairs : List Pair}
    (matched : Matches table pair.src norm head rest) :
    CutsAlike table norm (pair :: pairs) ↔ rest = [] ∨ head.length = pair.src.length := by
  constructor
  · intro alike
    refine alike [] pair pairs head rest rfl ?_ matched
    intro earlier listed
    contradiction
  · intro alike before other after otherHead otherRest split unmatched again
    cases before with
    | nil =>
        rw [List.nil_append, List.cons.injEq] at split
        rw [← split.1] at again ⊢
        obtain ⟨heads, rests⟩ := matched.unique slash again
        rw [← heads, ← rests]
        exact alike
    | cons earlier before =>
        rw [List.cons_append, List.cons.injEq] at split
        rw [split.1] at matched
        exact absurd matched (unmatched earlier List.mem_cons_self head rest)

theorem cutsAlike_later_iff {pair : Pair} {pairs : List Pair}
    (unmatched : ∀ head rest, ¬Matches table pair.src norm head rest) :
    CutsAlike table norm (pair :: pairs) ↔ CutsAlike table norm pairs := by
  constructor
  · intro alike before other after head rest split earlier matched
    refine alike (pair :: before) other after head rest (by rw [split]; rfl) ?_ matched
    rw [List.forall_mem_cons]
    exact ⟨unmatched, earlier⟩
  · intro alike before other after head rest split earlier matched
    cases before with
    | nil =>
        rw [List.nil_append, List.cons.injEq] at split
        rw [← split.1] at matched
        exact absurd matched (unmatched head rest)
    | cons first before =>
        rw [List.cons_append, List.cons.injEq] at split
        rw [List.forall_mem_cons] at earlier
        exact alike before other after head rest split.2 earlier.2 matched

/-- The loop maps a path as it should exactly where the first match is cut alike. -/
theorem maps_findSome_iff (slash : table.Separates '/') (path : List Char) (pairs : List Pair) :
    Maps table path pairs ((pairs.findSome? (applyPair table (slashed path))).getD path) ↔
      CutsAlike table (slashed path) pairs := by
  induction pairs with
  | nil =>
      have unlisted : CutsAlike table (slashed path) [] := by
        intro before pair after head rest split
        simp at split
      exact iff_of_true .unmatched unlisted
  | cons pair pairs ih =>
      by_cases matches_ : ∃ head rest, Matches table pair.src (slashed path) head rest
      · obtain ⟨head, rest, matched⟩ := matches_
        rw [maps_first_iff slash matched, cutsAlike_first_iff slash matched,
          List.findSome?_cons, applyPair_of_matches slash matched]
        simp only [Option.getD_some, List.append_cancel_left_eq]
        exact drop_eq_iff matched
      · have unmatched : ∀ head rest, ¬Matches table pair.src (slashed path) head rest := by
          intro head rest matched
          exact matches_ ⟨head, rest, matched⟩
        rw [maps_later_iff unmatched, cutsAlike_later_iff unmatched, List.findSome?_cons,
          (applyPair_eq_none slash).mpr unmatched]
        exact ih

/-- No source of a map is empty. -/
theorem src_ne_nil {raw : Option (List Char)} {pair : Pair} (listed : pair ∈ parsePathMap raw) :
    pair.src ≠ [] := by
  obtain ⟨entry, _, parsed⟩ := List.mem_filterMap.mp listed
  unfold parseEntry at parsed
  split at parsed
  · contradiction
  · next src dst cut =>
      dsimp only at parsed
      split at parsed
      · next kept =>
          cases parsed
          simp only [Bool.and_eq_true, decide_eq_true_eq] at kept
          exact kept.1
      · contradiction

/-- The shortcut of `apply_path_map` is the loop. -/
theorem applyPathMap_eq (slash : table.Separates '/') (path : List Char)
    (raw : Option (List Char)) :
    applyPathMap table path (parsePathMap raw) =
      ((parsePathMap raw).findSome? (applyPair table (slashed path))).getD path := by
  unfold applyPathMap
  split
  · next short =>
      rw [Bool.or_eq_true, decide_eq_true_eq, decide_eq_true_eq] at short
      rcases short with empty | unmapped
      · have passed : ∀ pair ∈ parsePathMap raw, applyPair table (slashed path) pair = none := by
          intro pair listed
          rw [applyPair_eq_none slash]
          intro head rest matched
          have nothing : [] = head ++ rest := by
            rw [← matched.whole, empty]
            rfl
          have same := matched.same
          rw [(List.nil_eq_append_iff.mp nothing).1, CaseTable.lower_nil] at same
          exact src_ne_nil listed (CaseTable.lower_eq_nil.mp same.symm)
        rw [List.findSome?_eq_none_iff.mpr passed]
        rfl
      · rw [unmapped]
        rfl
  · rfl

/-! ## Containment -/

theorem strictlyBelow_of_isParent {root path : PurePath} (parent : isParent root path = true) :
    StrictlyBelow root path := by
  simp only [isParent, Bool.and_eq_true, decide_eq_true_eq, List.isPrefixOf_iff_prefix] at parent
  obtain ⟨⟨roots, below, parts⟩, differs⟩ := parent
  refine ⟨roots.symm, below, ?_, parts.symm⟩
  intro empty
  rw [empty, List.append_nil] at parts
  exact differs parts

/-- What is contained lies below the root. -/
theorem strictlyBelow_of_containedPath {resolve : List Char → Option PurePath}
    {root candidate : List Char} {path : PurePath}
    (contained : containedPath resolve root candidate = some path) :
    ∃ rootResolved, resolve root = some rootResolved ∧ StrictlyBelow rootResolved path := by
  unfold containedPath at contained
  split at contained
  · next rootResolved candidateResolved rooted _ =>
      split at contained
      · contradiction
      · split at contained
        · contradiction
        · next parent =>
            cases contained
            refine ⟨rootResolved, rooted, strictlyBelow_of_isParent ?_⟩
            simpa using parent
  · contradiction

theorem completedPath_below {resolve : List Char → Option PurePath} {client : SabBackendClient}
    {jid : String} {slot : HistorySlot} {completed : PurePath}
    (ended : (historyStatus table resolve client jid slot).completedPath = some completed) :
    ∃ root, resolve client.downloadRoot = some root ∧ StrictlyBelow root completed := by
  unfold historyStatus at ended
  split at ended
  · contradiction
  · dsimp only at ended
    split at ended
    · contradiction
    · exact strictlyBelow_of_containedPath ended

/-- Paths are mapped component by component, and a completed path lies below the download root,
exactly where the first source that matches matches a part of its own length or all of the
path. -/
theorem mapsPaths_iff (slash : table.Separates '/') (resolve : List Char → Option PurePath)
    (client : SabBackendClient) (jid : String) (slot : HistorySlot) :
    MapsPaths table resolve client jid slot ↔
      CutsAlike table (slashed slot.storage) (parsePathMap client.pathMap) := by
  rw [← maps_findSome_iff slash, ← applyPathMap_eq slash]
  constructor
  · intro mapped
    exact mapped.maps
  · intro maps
    constructor
    · exact maps
    · intro completed ended
      exact completedPath_below ended

end Pairs

/-! ## A capital with a dot -/

/-- Lower case of texts in which only a capital I with a dot is not lower case. -/
def dotted : CaseTable where
  lowerChar c := if c = '\u0130' then ['i', '\u0307'] else [c]
  cased c := c.isAlpha || c = '\u0130'
  ignorable c := c = '\u0307'
  lowerChar_ne_nil c := by split <;> simp

theorem separates_dotted : dotted.Separates '/' where
  ne_sigma := by decide
  ne_small := by decide
  cased := by decide
  ignorable := by decide
  same := by decide
  only := by
    intro c mapped
    simp only [dotted] at mapped
    split at mapped
    · simp at mapped
    · exact (List.mem_singleton.mp mapped).symm

/-- A client that maps a folder with a small dotted i. -/
def dottedClient : SabBackendClient where
  downloadRoot := "/m".toList
  pathMap := some "/i\u0307=>/m".toList

/-- A download in the folder with the capital letter. -/
def capitalSlot : HistorySlot where
  status := "completed".toList
  storage := "/\u0130/a".toList
  name := []
  filename := []

/-- Two characters of the source stand against one of the path: the separator is cut off with
it. -/
theorem not_mapsPaths_capital :
    applyPathMap dotted capitalSlot.storage (parsePathMap dottedClient.pathMap) = "/ma".toList ∧
      ¬MapsPaths dotted (fun _ => none) dottedClient "1" capitalSlot := by
  have cut : applyPathMap dotted capitalSlot.storage (parsePathMap dottedClient.pathMap) =
      "/ma".toList := by rfl
  have pairs : parsePathMap dottedClient.pathMap = [⟨"/i\u0307".toList, "/m".toList⟩] := by rfl
  refine ⟨cut, ?_⟩
  intro mapped
  have maps := mapped.maps
  rw [cut, pairs] at maps
  have matched : Matches dotted "/i\u0307".toList (slashed capitalSlot.storage)
      "/\u0130".toList "/a".toList := ⟨by rfl, by rfl, Or.inr ⟨_, rfl⟩⟩
  have result := (maps_first_iff separates_dotted matched).mp maps
  revert result
  decide

/-- The folder as the map spells it is mapped with all that is below it. -/
theorem mapsPaths_spelled : MapsPaths dotted (fun _ => none) dottedClient "1"
    { capitalSlot with storage := "\\i\u0307\\a".toList } := by
  refine (mapsPaths_iff separates_dotted (fun _ => none) dottedClient "1"
    { capitalSlot with storage := "\\i\u0307\\a".toList }).mpr ?_
  have pairs : parsePathMap dottedClient.pathMap = [⟨"/i\u0307".toList, "/m".toList⟩] := by rfl
  have matched : Matches dotted "/i\u0307".toList (slashed "\\i\u0307\\a".toList)
      "/i\u0307".toList "/a".toList := ⟨by rfl, by rfl, Or.inr ⟨_, rfl⟩⟩
  rw [pairs]
  exact (cutsAlike_first_iff separates_dotted matched).mpr (Or.inr rfl)

end Mintarr.Backend
