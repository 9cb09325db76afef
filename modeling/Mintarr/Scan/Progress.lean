import Mathlib.Data.List.Nodup
import Mathlib.Data.List.Range
import Mintarr.Scan.Items

/-!
# How far the items of a scan got

The counters are the numbers of the trackfiles that were counted, and the ledger item of a
trackfile says how far it got.  Both loops make the same entries: a trackfile is skipped, or
it is marked, measured and counted.  Each entry keeps the accounts.
-/

namespace Mintarr.Scan

open Lib

/-! ## Unique ids -/

/-- The ids of the trackfiles are unique. -/
abbrev UniqueIds (trackfiles : List Trackfile) : Prop :=
  (trackfiles.filterMap Trackfile.id).Nodup

/-- Two positions with one id are one. -/
theorem UniqueIds.position_eq {trackfiles : List Trackfile} (unique : UniqueIds trackfiles)
    {position other : Nat} {trackfile another : Trackfile} {id : Int}
    (at_position : trackfiles[position]? = some trackfile)
    (at_other : trackfiles[other]? = some another)
    (id_eq : trackfile.id = some id) (another_eq : another.id = some id) :
    position = other := by
  have apart : trackfiles.Pairwise fun first second =>
      ∀ id, first.id = some id → ∀ id', second.id = some id' → id ≠ id' :=
    List.pairwise_filterMap.mp unique
  rw [List.pairwise_iff_getElem] at apart
  obtain ⟨position_lt, position_eq⟩ := List.getElem?_eq_some_iff.mp at_position
  obtain ⟨other_lt, other_eq⟩ := List.getElem?_eq_some_iff.mp at_other
  rcases Nat.lt_trichotomy position other with earlier | same | later
  · have differs := apart position other position_lt other_lt earlier id
      (by rw [position_eq, id_eq]) id (by rw [other_eq, another_eq])
    exact absurd rfl differs
  · exact same
  · have differs := apart other position other_lt position_lt later id
      (by rw [other_eq, another_eq]) id (by rw [position_eq, id_eq])
    exact absurd rfl differs

/-! ## Measure functions -/

/-- What a measure function may do with a trackfile: without a path it returns and writes
nothing; with one it raises, or it writes a state of the class it returns. -/
inductive Measures (trackfile : Trackfile) : Except String Measured → Prop
  | pathless : trackfile.hasPath = false → Measures trackfile (.ok (.unmeasured, none))
  | raised (error : String) : trackfile.hasPath = true → Measures trackfile (.error error)
  | written (outcome : Outcome) (state : ItemState) : trackfile.hasPath = true →
      state.class? = some (classOf (.ok outcome)) → Measures trackfile (.ok (outcome, some state))

/-- Every measure function does, where the ledger has a marker. -/
theorem Tier.measures (tier : Tier) (answers : Answers) {prior : LedgerItem}
    {trackfile : Trackfile} (hasId : trackfile.id ≠ none) (open_ : prior.state.class? = none) :
    Measures trackfile (tier.measure answers (some prior) trackfile) := by
  have notTerminal : prior.state ∉ spectralTerminalItemStates := by
    intro terminal
    cases state_eq : prior.state <;>
      simp [state_eq, spectralTerminalItemStates, ItemState.class?] at terminal open_
  by_cases hasPath : trackfile.hasPath = true
  · have readable : ¬(trackfile.id = none || !trackfile.hasPath) = true := by
      simp [hasId, hasPath]
    have unfinished :
        ¬((some prior).any fun item => item.state ∈ spectralTerminalItemStates) = true := by
      simpa using notTerminal
    cases raises : answers.raises with
    | some error =>
        cases tier <;>
          simp only [Tier.measure, measureTrackfileItem, measureMetadataItem,
            measureIntegrityItem, measureSpectralItem, if_neg readable, if_neg unfinished,
            raises] <;>
          exact .raised error hasPath
    | none =>
        cases tier <;>
          simp only [Tier.measure, measureTrackfileItem, measureMetadataItem,
            measureIntegrityItem, measureSpectralItem, if_neg readable, if_neg unfinished,
            raises] <;>
          split_ifs <;> exact .written _ _ hasPath rfl
  · have pathless : trackfile.hasPath = false := by simpa using hasPath
    cases tier <;>
      simp [Tier.measure, measureTrackfileItem, measureMetadataItem, measureIntegrityItem,
        measureSpectralItem, pathless] <;>
      exact .pathless pathless

/-! ## How far the items got -/

/-- The class under which an item was counted. -/
def Progress.class? : Progress → Option ItemClass
  | .skipped => some .unmeasured
  | .submitted | .finished _ => none
  | .counted result => some (classOf result)

/-- What the measure function returned or raised. -/
def Progress.result? : Progress → Option (Except String Outcome)
  | .skipped | .submitted => none
  | .finished result | .counted result => some result

/-- The class of the ledger item. -/
def Progress.ledgerClass (trackfile : Trackfile) : Progress → Option ItemClass
  | .skipped | .submitted | .finished (.error _) => none
  | .finished (.ok outcome) | .counted (.ok outcome) =>
      if trackfile.hasPath then some (classOf (.ok outcome)) else none
  | .counted (.error _) => some .error

/-- The ledger item of a trackfile with an id says how far it got; only a trackfile that
was interrupted or has a path can raise. -/
structure Fits (ledger : Ledger) (interrupted : Bool) (trackfile : Trackfile) (id : Int)
    (progress : Progress) : Prop where
  item : ∃ item, ledger id = some item ∧ item.state.class? = progress.ledgerClass trackfile
  raised : ∀ error, progress.result? = some (.error error) →
    interrupted = true ∨ trackfile.hasPath = true
  returned : ∀ outcome, progress.result? = some (.ok outcome) → interrupted = false
  identified : progress ≠ .skipped

/-- The rest of the ledger does not matter. -/
theorem Fits.frame {ledger next : Ledger} {interrupted : Bool} {trackfile : Trackfile}
    {id : Int} {progress : Progress} (fits : Fits ledger interrupted trackfile id progress)
    (same : next id = ledger id) : Fits next interrupted trackfile id progress where
  item := by
    rw [same]
    exact fits.item
  raised := fits.raised
  returned := fits.returned
  identified := fits.identified

/-- The positions of a prefix that are handed to the measure function. -/
def handedBefore (trackfiles : List Trackfile) (interrupts : Nat → Bool) (length : Nat) :
    List Nat :=
  (List.range length).filter fun position =>
    (trackfiles[position]?.bind Trackfile.id).isSome && !interrupts position

/-- The invariant of both loops: the accounts agree with how far the items got. -/
structure Kept (trackfiles : List Trackfile) (interrupts : Nat → Bool) (items : List Progress)
    (books : Books) : Prop where
  taken : items.length ≤ trackfiles.length
  handed : books.handed = handedBefore trackfiles interrupts items.length
  total : books.counters.total = trackfiles.length
  processed : books.counters.processed = items.countP fun progress => progress.class?.isSome
  classes : ∀ itemClass,
    books.counters.of itemClass = items.countP fun progress => progress.class? = some itemClass
  skipped : ∀ (position : Nat) (progress : Progress) (trackfile : Trackfile),
    items[position]? = some progress → trackfiles[position]? = some trackfile →
      trackfile.id = none → progress = .skipped
  fits : ∀ (position : Nat) (progress : Progress) (trackfile : Trackfile) (id : Int),
    items[position]? = some progress → trackfiles[position]? = some trackfile →
      trackfile.id = some id → Fits books.ledger (interrupts position) trackfile id progress
  listed : ∀ id item, books.ledger id = some item →
    ∃ position : Nat, position < items.length ∧
      ∃ trackfile, trackfiles[position]? = some trackfile ∧ trackfile.id = some id

/-- Nothing was taken yet. -/
theorem kept_openBooks (trackfiles : List Trackfile) (interrupts : Nat → Bool) :
    Kept trackfiles interrupts [] (openBooks trackfiles) where
  taken := Nat.zero_le _
  handed := rfl
  total := rfl
  processed := rfl
  classes itemClass := by cases itemClass <;> rfl
  skipped position progress trackfile found := by simp at found
  fits position progress trackfile id found := by simp at found
  listed id item found := by simp [openBooks] at found

/-! ## What an entry of the books does -/

/-- One entry: nothing but the item of `id` is written, and one class is counted or none. -/
structure Moves (books next : Books) (id : Option Int) (counted : Option ItemClass) : Prop where
  total : next.counters.total = books.counters.total
  processed : next.counters.processed =
    books.counters.processed + if counted.isSome then 1 else 0
  classes : ∀ itemClass, next.counters.of itemClass =
    books.counters.of itemClass + if counted = some itemClass then 1 else 0
  frame : ∀ other, id ≠ some other → next.ledger other = books.ledger other

theorem Books.skip_moves (books : Books) : Moves books books.skip none (some .unmeasured) where
  total := rfl
  processed := rfl
  classes itemClass := by cases itemClass <;> rfl
  frame _ _ := rfl

theorem Books.mark_moves (books : Books) (tier : Tier) (id : Int) (trackfile : Trackfile) :
    Moves books (books.mark tier id trackfile) (some id) none where
  total := rfl
  processed := rfl
  classes itemClass := by cases itemClass <;> rfl
  frame other differs := by
    have apart : other ≠ id := by
      intro same
      exact differs (by rw [same])
    simp [Books.mark, upsertLibraryScanItem, Function.update_of_ne apart]

theorem Books.note_moves (books : Books) (id : Int) (trackfile : Trackfile)
    (result : Except String Measured) :
    Moves books (books.note id trackfile result) (some id) none := by
  have unchanged : Moves books books (some id) none := by
    constructor
    · rfl
    · rfl
    · intro itemClass
      simp
    · intro other differs
      rfl
  rcases result with error | ⟨outcome, _ | state⟩
  · exact unchanged
  · exact unchanged
  · constructor
    · rfl
    · rfl
    · exact unchanged.classes
    · intro other differs
      have apart : other ≠ id := by
        intro same
        exact differs (by rw [same])
      simp [Books.note, upsertLibraryScanItem, Function.update_of_ne apart]

theorem Books.count_moves (books : Books) (id : Int) (trackfile : Trackfile)
    (result : Except String Outcome) :
    Moves books (books.count id trackfile result) (some id) (some (classOf result)) := by
  cases result with
  | ok outcome =>
      constructor
      · cases outcome <;> rfl
      · cases outcome <;> rfl
      · intro itemClass
        cases outcome <;> cases itemClass <;> rfl
      · intro other differs
        rfl
  | error error =>
      constructor
      · rfl
      · rfl
      · intro itemClass
        cases itemClass <;> rfl
      · intro other differs
        have apart : other ≠ id := by
          intro same
          exact differs (by rw [same])
        simp [Books.count, upsertLibraryScanItem, Function.update_of_ne apart]

/-! ## One entry keeps the accounts -/

section Steps

variable {trackfiles : List Trackfile} {interrupts : Nat → Bool} {items : List Progress}
variable {books next : Books} {trackfile : Trackfile}

/-- The next trackfile is taken. -/
theorem Kept.take (kept : Kept trackfiles interrupts items books)
    (unique : UniqueIds trackfiles) {progress : Progress}
    (found : trackfiles[items.length]? = some trackfile)
    (moves : Moves books next trackfile.id progress.class?)
    (handed : next.handed = handedBefore trackfiles interrupts (items.length + 1))
    (skipped : trackfile.id = none → progress = .skipped)
    (fits : ∀ id, trackfile.id = some id →
      Fits next.ledger (interrupts items.length) trackfile id progress) :
    Kept trackfiles interrupts (items ++ [progress]) next := by
  have length_lt : items.length < trackfiles.length := (List.getElem?_eq_some_iff.mp found).1
  constructor
  · rw [List.length_append]
    exact length_lt
  · simpa using handed
  · exact moves.total.trans kept.total
  · rw [moves.processed, kept.processed, List.countP_append, List.countP_singleton]
  · intro itemClass
    rw [moves.classes, kept.classes, List.countP_append, List.countP_singleton]
    simp
  · intro position old another at_position another_at another_id
    rcases Nat.lt_trichotomy position items.length with earlier | same | later
    · rw [List.getElem?_append_left earlier] at at_position
      exact kept.skipped position old another at_position another_at another_id
    · subst same
      rw [found] at another_at
      cases another_at
      simp at at_position
      rw [← at_position]
      exact skipped another_id
    · rw [List.getElem?_eq_none (by simp; omega)] at at_position
      contradiction
  · intro position old another id at_position another_at another_id
    rcases Nat.lt_trichotomy position items.length with earlier | same | later
    · rw [List.getElem?_append_left earlier] at at_position
      apply (kept.fits position old another id at_position another_at another_id).frame
      apply moves.frame
      intro same_id
      have same := unique.position_eq another_at found another_id same_id
      omega
    · subst same
      rw [found] at another_at
      cases another_at
      simp at at_position
      rw [← at_position]
      exact fits id another_id
    · rw [List.getElem?_eq_none (by simp; omega)] at at_position
      contradiction
  · intro id item ledger_item
    by_cases own : trackfile.id = some id
    · exact ⟨items.length, by simp, trackfile, found, own⟩
    · rw [moves.frame id own] at ledger_item
      obtain ⟨position, earlier, another, another_at, another_id⟩ :=
        kept.listed id item ledger_item
      exact ⟨position, by simp; omega, another, another_at, another_id⟩

/-- A trackfile under way gets one step further. -/
theorem Kept.advance (kept : Kept trackfiles interrupts items books)
    (unique : UniqueIds trackfiles) {position : Nat} {old progress : Progress} {id : Int}
    (at_position : items[position]? = some old) (uncounted : old.class? = none)
    (found : trackfiles[position]? = some trackfile) (id_eq : trackfile.id = some id)
    (moves : Moves books next (some id) progress.class?) (handed : next.handed = books.handed)
    (fits : Fits next.ledger (interrupts position) trackfile id progress) :
    Kept trackfiles interrupts (items.set position progress) next := by
  obtain ⟨position_lt, old_eq⟩ := List.getElem?_eq_some_iff.mp at_position
  constructor
  · simpa using kept.taken
  · rw [handed, kept.handed, List.length_set]
  · exact moves.total.trans kept.total
  · rw [moves.processed, kept.processed, List.countP_set position_lt, old_eq]
    simp [uncounted]
  · intro itemClass
    rw [moves.classes, kept.classes, List.countP_set position_lt, old_eq]
    simp [uncounted]
  · intro other another_progress another at_other another_at another_id
    by_cases same : position = other
    · subst same
      rw [found] at another_at
      cases another_at
      rw [id_eq] at another_id
      contradiction
    · rw [List.getElem?_set_ne same] at at_other
      exact kept.skipped other another_progress another at_other another_at another_id
  · intro other another_progress another another_id at_other another_at another_id_eq
    by_cases same : position = other
    · subst same
      rw [found] at another_at
      cases another_at
      rw [id_eq] at another_id_eq
      cases another_id_eq
      rw [List.getElem?_set_self position_lt] at at_other
      cases at_other
      exact fits
    · rw [List.getElem?_set_ne same] at at_other
      apply (kept.fits other another_progress another another_id at_other another_at
        another_id_eq).frame
      apply moves.frame
      intro same_id
      rw [← same_id] at another_id_eq
      exact same (unique.position_eq found another_at id_eq another_id_eq)
  · intro other item ledger_item
    by_cases own : some id = some other
    · cases own
      exact ⟨position, by simpa using position_lt, trackfile, found, id_eq⟩
    · rw [moves.frame other own] at ledger_item
      simpa using kept.listed other item ledger_item

/-- Whether the next position is handed. -/
theorem handedBefore_succ (trackfiles : List Trackfile) (interrupts : Nat → Bool)
    (length : Nat) :
    handedBefore trackfiles interrupts (length + 1) =
      handedBefore trackfiles interrupts length ++
        if (trackfiles[length]?.bind Trackfile.id).isSome && !interrupts length then [length]
        else [] := by
  rw [handedBefore, List.range_succ, List.filter_append, List.filter_singleton,
    Bool.cond_eq_ite]
  rfl

/-- A trackfile without an id is skipped. -/
theorem Kept.skip (kept : Kept trackfiles interrupts items books)
    (unique : UniqueIds trackfiles) (found : trackfiles[items.length]? = some trackfile)
    (id_eq : trackfile.id = none) :
    Kept trackfiles interrupts (items ++ [.skipped]) books.skip := by
  apply kept.take unique found
  · rw [id_eq]
    exact books.skip_moves
  · rw [handedBefore_succ, found]
    simpa [id_eq, Books.skip] using kept.handed
  · intro _
    rfl
  · intro id id_some
    rw [id_eq] at id_some
    contradiction

/-- The marker fits a trackfile that was only taken. -/
theorem Books.mark_fits (books : Books) (tier : Tier) (interrupted : Bool)
    (trackfile : Trackfile) (id : Int) :
    Fits (books.mark tier id trackfile).ledger interrupted trackfile id .submitted where
  item := by
    refine ⟨{ albumId := trackfile.albumId, state := tier.measuring }, ?_, ?_⟩
    · simp [Books.mark, upsertLibraryScanItem]
    · cases tier <;> rfl
  raised error raised := by simp [Progress.result?] at raised
  returned outcome returned := by simp [Progress.result?] at returned
  identified := by simp

/-- A trackfile with an id is marked and handed to the measure function. -/
theorem Kept.submit (kept : Kept trackfiles interrupts items books)
    (unique : UniqueIds trackfiles) (tier : Tier) {id : Int}
    (found : trackfiles[items.length]? = some trackfile) (id_eq : trackfile.id = some id)
    (uninterrupted : interrupts items.length = false) :
    Kept trackfiles interrupts (items ++ [.submitted])
      ((books.mark tier id trackfile).hand items.length) := by
  have moves := books.mark_moves tier id trackfile
  apply kept.take unique found
  · rw [id_eq]
    exact ⟨moves.total, moves.processed, moves.classes, moves.frame⟩
  · rw [handedBefore_succ, found]
    simp [id_eq, uninterrupted, Books.hand, Books.mark, kept.handed]
  · intro id_none
    rw [id_eq] at id_none
    contradiction
  · intro other other_eq
    rw [id_eq] at other_eq
    cases other_eq
    exact books.mark_fits tier _ trackfile id

/-- A trackfile that is interrupted is marked only. -/
theorem Kept.mark (kept : Kept trackfiles interrupts items books)
    (unique : UniqueIds trackfiles) (tier : Tier) {id : Int}
    (found : trackfiles[items.length]? = some trackfile) (id_eq : trackfile.id = some id)
    (interrupted : interrupts items.length = true) :
    Kept trackfiles interrupts (items ++ [.submitted]) (books.mark tier id trackfile) := by
  apply kept.take unique found
  · rw [id_eq]
    exact books.mark_moves tier id trackfile
  · rw [handedBefore_succ, found]
    simpa [interrupted, Books.mark] using kept.handed
  · intro id_none
    rw [id_eq] at id_none
    contradiction
  · intro other other_eq
    rw [id_eq] at other_eq
    cases other_eq
    exact books.mark_fits tier _ trackfile id

/-- What is written for a result fits the trackfile that has it. -/
theorem Fits.note {position : Nat} {id : Int} {result : Except String Measured}
    (fits : Fits books.ledger (interrupts position) trackfile id .submitted)
    (measures : Measures trackfile result) (uninterrupted : interrupts position = false) :
    Fits (books.note id trackfile result).ledger (interrupts position) trackfile id
      (.finished (result.map Prod.fst)) := by
  obtain ⟨item, ledger_item, marked⟩ := fits.item
  cases measures with
  | pathless pathless =>
      constructor
      · refine ⟨item, ledger_item, ?_⟩
        simpa [Except.map, Progress.ledgerClass, pathless] using marked
      · intro error raised
        simp [Except.map, Progress.result?] at raised
      · intro outcome returned
        exact uninterrupted
      · simp
  | raised error hasPath =>
      constructor
      · exact ⟨item, ledger_item, by simpa [Except.map, Progress.ledgerClass] using marked⟩
      · intro error raised
        exact .inr hasPath
      · intro outcome returned
        exact uninterrupted
      · simp
  | written outcome state hasPath state_class =>
      constructor
      · refine ⟨{ albumId := trackfile.albumId, state }, ?_, ?_⟩
        · simp [Books.note, upsertLibraryScanItem]
        · simpa [Except.map, Progress.ledgerClass, hasPath] using state_class
      · intro error raised
        simp [Except.map, Progress.result?] at raised
      · intro outcome returned
        exact uninterrupted
      · simp

/-- What is written for a counted result fits the trackfile as well. -/
theorem Fits.count {position : Nat} {id : Int} {result : Except String Outcome}
    (fits : Fits books.ledger (interrupts position) trackfile id (.finished result)) :
    Fits (books.count id trackfile result).ledger (interrupts position) trackfile id
      (.counted result) := by
  cases result with
  | ok outcome => exact ⟨fits.item, fits.raised, fits.returned, by simp⟩
  | error error =>
      constructor
      · refine ⟨{ albumId := trackfile.albumId, state := .error,
                  lastError := some (String.ofList (error.toList.take 1000)) }, ?_, rfl⟩
        simp [Books.count, upsertLibraryScanItem]
      · exact fits.raised
      · exact fits.returned
      · simp

/-- The measure function of a submitted trackfile has run. -/
theorem Kept.measured (kept : Kept trackfiles interrupts items books)
    (unique : UniqueIds trackfiles) {position : Nat} {id : Int} {result : Except String Measured}
    (at_position : items[position]? = some .submitted)
    (found : trackfiles[position]? = some trackfile) (id_eq : trackfile.id = some id)
    (uninterrupted : interrupts position = false) (measures : Measures trackfile result) :
    Kept trackfiles interrupts (items.set position (.finished (result.map Prod.fst)))
      (books.note id trackfile result) := by
  apply kept.advance unique at_position rfl found id_eq
  · exact books.note_moves id trackfile result
  · rcases result with error | ⟨outcome, _ | state⟩ <;> rfl
  · have fits := kept.fits position _ trackfile id at_position found id_eq
    exact fits.note measures uninterrupted

/-- The turn of a trackfile was interrupted. -/
theorem Kept.interrupted (kept : Kept trackfiles interrupts items books)
    (unique : UniqueIds trackfiles) {position : Nat} {id : Int} (error : String)
    (at_position : items[position]? = some .submitted)
    (found : trackfiles[position]? = some trackfile) (id_eq : trackfile.id = some id)
    (interrupted : interrupts position = true) :
    Kept trackfiles interrupts (items.set position (.finished (.error error))) books := by
  apply kept.advance unique at_position rfl found id_eq
  · constructor
    · rfl
    · rfl
    · intro itemClass
      simp [Progress.class?]
    · intro other differs
      rfl
  · rfl
  · have fits := kept.fits position _ trackfile id at_position found id_eq
    constructor
    · exact fits.item
    · intro _ _
      exact .inl interrupted
    · intro outcome returned
      simp [Progress.result?] at returned
    · simp

/-- A result is counted. -/
theorem Kept.counted (kept : Kept trackfiles interrupts items books)
    (unique : UniqueIds trackfiles) {position : Nat} {id : Int} {result : Except String Outcome}
    (at_position : items[position]? = some (.finished result))
    (found : trackfiles[position]? = some trackfile) (id_eq : trackfile.id = some id) :
    Kept trackfiles interrupts (items.set position (.counted result))
      (books.count id trackfile result) := by
  apply kept.advance unique at_position rfl found id_eq
  · exact books.count_moves id trackfile result
  · cases result <;> rfl
  · exact (kept.fits position _ trackfile id at_position found id_eq).count

end Steps

end Mintarr.Scan
