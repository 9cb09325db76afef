import Mathlib.Logic.Function.Basic
import Mintarr.Lib.Machine

/-!
# The items of a library scan

The two loops of `library_scan_worker` that take the trackfiles of a run: the bounded pool
of the cheap, the metadata and the integrity tier, and the serial loop of the spectral one.
Both count what becomes of each trackfile and keep a ledger of the items, in which the
measure functions write as well.

A run has a job of one attempt, so its ledger starts empty.  What a measure function finds
on disk and in the evidence index is an answer of its environment.
-/

namespace Mintarr.Scan

open Lib

/-! ## Trackfiles and ledger items -/

/-- What the loops read of a trackfile. -/
structure Trackfile where
  id : Option Int
  path : Option String
  albumId : Option Int := none
  deriving DecidableEq, Repr

/-- `not path` fails. -/
def Trackfile.hasPath (trackfile : Trackfile) : Bool := trackfile.path.getD "" ≠ ""

/-- The states of a ledger item. -/
inductive ItemState where
  | measuring | metadataMeasuring | integrityMeasuring | spectralMeasuring
  | fresh | integrityFresh | spectralFresh
  | measured | integrityMeasured | spectralMeasured
  | unmeasured | integritySkipped | integrityUnmeasured | spectralSkipped
  | spectralUnmeasured
  | error
  deriving DecidableEq, Repr

/-- What a measure function returns. -/
inductive Outcome where
  | fresh | measured | unmeasured
  deriving DecidableEq, Repr

/-- The classes that are counted. -/
inductive ItemClass where
  | fresh | measured | unmeasured | error
  deriving DecidableEq, Repr

/-- The class of what a measure function returned or raised. -/
def classOf : Except String Outcome → ItemClass
  | .ok .fresh => .fresh
  | .ok .measured => .measured
  | .ok .unmeasured => .unmeasured
  | .error _ => .error

/-- The class that a final state stands for. -/
def ItemState.class? : ItemState → Option ItemClass
  | .measuring | .metadataMeasuring | .integrityMeasuring | .spectralMeasuring => none
  | .fresh | .integrityFresh | .spectralFresh => some .fresh
  | .measured | .integrityMeasured | .spectralMeasured => some .measured
  | .unmeasured | .integritySkipped | .integrityUnmeasured | .spectralSkipped
  | .spectralUnmeasured => some .unmeasured
  | .error => some .error

/-- `_SPECTRAL_TERMINAL_ITEM_STATES`. -/
def spectralTerminalItemStates : List ItemState :=
  [.spectralFresh, .spectralMeasured, .spectralUnmeasured, .spectralSkipped]

/-- A row of `library_scan_items`, but for its run and trackfile. -/
structure LedgerItem where
  albumId : Option Int
  state : ItemState
  lastError : Option String := none
  deriving DecidableEq, Repr

/-- The ledger of a run, by trackfile id. -/
abbrev Ledger := Int → Option LedgerItem

/-- `upsert_library_scan_item`. -/
def upsertLibraryScanItem (ledger : Ledger) (trackfileId : Int) (albumId : Option Int)
    (state : ItemState) (lastError : Option String) : Ledger :=
  Function.update ledger trackfileId (some { albumId, state, lastError })

/-! ## Measure functions -/

/-- The scan tiers. -/
inductive Tier where
  | cheap | metadata | integrity | spectral
  deriving DecidableEq, Repr

/-- The ledger marker of a tier. -/
def Tier.measuring : Tier → ItemState
  | .cheap => .measuring
  | .metadata => .metadataMeasuring
  | .integrity => .integrityMeasuring
  | .spectral => .spectralMeasuring

/-- What a measure function finds. -/
structure Answers where
  /-- The stored metadata is of the file that is there. -/
  metadataFresh : Bool := true
  /-- So is what the tier itself measures. -/
  tierFresh : Bool := false
  /-- The measurement has the status `measured`. -/
  measured : Bool := true
  /-- What a call raises before the item is written. -/
  raises : Option String := none
  deriving DecidableEq, Repr

/-- What a measure function returns, and the state it writes. -/
abbrev Measured := Outcome × Option ItemState

/-- `_measure_trackfile_item`. -/
def measureTrackfileItem (answers : Answers) (trackfile : Trackfile) :
    Except String Measured :=
  if trackfile.id = none || !trackfile.hasPath then .ok (.unmeasured, none)
  else
    match answers.raises with
    | some error => .error error
    | none =>
        if answers.tierFresh then .ok (.fresh, some .fresh)
        else if answers.measured then .ok (.measured, some .measured)
        else .ok (.unmeasured, some .unmeasured)

/-- `_measure_metadata_item`: the same, with its own notion of fresh. -/
def measureMetadataItem (answers : Answers) (trackfile : Trackfile) : Except String Measured :=
  measureTrackfileItem answers trackfile

/-- `_measure_integrity_item`. -/
def measureIntegrityItem (answers : Answers) (trackfile : Trackfile) :
    Except String Measured :=
  if trackfile.id = none || !trackfile.hasPath then .ok (.unmeasured, none)
  else
    match answers.raises with
    | some error => .error error
    | none =>
        if !answers.metadataFresh then .ok (.unmeasured, some .integritySkipped)
        else if answers.tierFresh then .ok (.fresh, some .integrityFresh)
        else if answers.measured then .ok (.measured, some .integrityMeasured)
        else .ok (.unmeasured, some .integrityUnmeasured)

/-- `_measure_spectral_item`, where the ledger has `prior`. -/
def measureSpectralItem (answers : Answers) (prior : Option LedgerItem)
    (trackfile : Trackfile) : Except String Measured :=
  if trackfile.id = none || !trackfile.hasPath then .ok (.unmeasured, none)
  else if prior.any fun item => item.state ∈ spectralTerminalItemStates then .ok (.fresh, none)
  else
    match answers.raises with
    | some error => .error error
    | none =>
        if !answers.metadataFresh then .ok (.unmeasured, some .spectralSkipped)
        else if answers.tierFresh then .ok (.fresh, some .spectralFresh)
        else if answers.measured then .ok (.measured, some .spectralMeasured)
        else .ok (.unmeasured, some .spectralUnmeasured)

/-- The measure function of a tier. -/
def Tier.measure (tier : Tier) (answers : Answers) (prior : Option LedgerItem)
    (trackfile : Trackfile) : Except String Measured :=
  match tier with
  | .cheap => measureTrackfileItem answers trackfile
  | .metadata => measureMetadataItem answers trackfile
  | .integrity => measureIntegrityItem answers trackfile
  | .spectral => measureSpectralItem answers prior trackfile

/-! ## Counters and books -/

/-- The counters of a run. -/
structure Counters where
  total : Nat
  processed : Nat := 0
  measured : Nat := 0
  fresh : Nat := 0
  unmeasured : Nat := 0
  error : Nat := 0
  deriving DecidableEq, Repr

/-- The counter of a class. -/
def Counters.of (counters : Counters) : ItemClass → Nat
  | .fresh => counters.fresh
  | .measured => counters.measured
  | .unmeasured => counters.unmeasured
  | .error => counters.error

/-- `_count_scan_outcome`. -/
def countScanOutcome (counters : Counters) : Outcome → Counters
  | .fresh => { counters with fresh := counters.fresh + 1 }
  | .measured => { counters with measured := counters.measured + 1 }
  | .unmeasured => { counters with unmeasured := counters.unmeasured + 1 }

/-- What a run writes down, and the positions that it hands to the measure function. -/
structure Books where
  counters : Counters
  ledger : Ledger := fun _ => none
  handed : List Nat := []

namespace Books

/-- A trackfile without an id is only counted. -/
def skip (books : Books) : Books :=
  { books with
    counters :=
      { books.counters with
        unmeasured := books.counters.unmeasured + 1
        processed := books.counters.processed + 1 } }

/-- The marker of an item under way. -/
def mark (books : Books) (tier : Tier) (trackfileId : Int) (trackfile : Trackfile) : Books :=
  { books with
    ledger :=
      upsertLibraryScanItem books.ledger trackfileId trackfile.albumId tier.measuring none }

/-- The measure function is called. -/
def hand (books : Books) (position : Nat) : Books :=
  { books with handed := books.handed ++ [position] }

/-- What the measure function writes. -/
def note (books : Books) (trackfileId : Int) (trackfile : Trackfile)
    (result : Except String Measured) : Books :=
  match result with
  | .ok (_, some state) =>
      { books with
        ledger := upsertLibraryScanItem books.ledger trackfileId trackfile.albumId state none }
  | _ => books

/-- The `try`, `except` and `finally` around a result. -/
def count (books : Books) (trackfileId : Int) (trackfile : Trackfile) :
    Except String Outcome → Books
  | .ok outcome =>
      let counters := countScanOutcome books.counters outcome
      { books with counters := { counters with processed := counters.processed + 1 } }
  | .error error =>
      { books with
        counters :=
          { books.counters with
            error := books.counters.error + 1
            processed := books.counters.processed + 1 }
        ledger := upsertLibraryScanItem books.ledger trackfileId trackfile.albumId .error
          (some (String.ofList (error.toList.take 1000))) }

end Books

/-! ## The pool -/

/-- A trackfile that was taken: without an id, submitted, measured, or counted. -/
inductive Progress where
  | skipped
  | submitted
  | finished (result : Except String Outcome)
  | counted (result : Except String Outcome)

/-- The future is in `pending`. -/
def Progress.pending : Progress → Bool
  | .submitted | .finished _ => true
  | .skipped | .counted _ => false

/-- Where the loop of `_execute_parallel_scan_items` stands. -/
inductive Phase where
  | filling
  | waiting
  | collecting (done : List Nat)
  | completed
  | cancelled
  deriving DecidableEq, Repr

/-- A parallel scan; `next_index` is the number of the trackfiles that were taken. -/
structure Pool where
  phase : Phase := .filling
  items : List Progress := []
  books : Books

/-- What happens in a parallel scan. -/
inductive Action where
  /-- A turn of the filling loop, or its end. -/
  | fill
  /-- `_raise_if_cancelled` raises. -/
  | cancel
  /-- `wait` returns these futures. -/
  | wait (done : List Nat)
  /-- The next one of them is collected. -/
  | collect
  /-- A thread runs the measure function. -/
  | measure (position : Nat) (answers : Answers)

namespace Pool

/-- A turn of the filling loop. -/
def fill (tier : Tier) (workers : Nat) (trackfiles : List Trackfile) (pool : Pool) : Pool :=
  let pending := pool.items.countP Progress.pending
  match trackfiles[pool.items.length]? with
  | some trackfile =>
      if pending < workers then
        match trackfile.id with
        | none => { pool with items := pool.items ++ [.skipped], books := pool.books.skip }
        | some id =>
            { pool with
              items := pool.items ++ [.submitted]
              books := (pool.books.mark tier id trackfile).hand pool.items.length }
      else if pending = 0 then pool
      else { pool with phase := .waiting }
  | none =>
      if pending = 0 then { pool with phase := .completed }
      else { pool with phase := .waiting }

/-- A thread has run the measure function. -/
def measure (tier : Tier) (trackfiles : List Trackfile) (pool : Pool) (position : Nat)
    (answers : Answers) : Option Pool :=
  match pool.items[position]?, trackfiles[position]? with
  | some .submitted, some trackfile =>
      trackfile.id.map fun id =>
        let result := tier.measure answers (pool.books.ledger id) trackfile
        { pool with
          items := pool.items.set position (.finished (result.map Prod.fst))
          books := pool.books.note id trackfile result }
  | _, _ => none

/-- A finished future is counted. -/
def collect (trackfiles : List Trackfile) (pool : Pool) (position : Nat) (rest : List Nat) :
    Option Pool :=
  match pool.items[position]?, trackfiles[position]? with
  | some (.finished result), some trackfile =>
      trackfile.id.map fun id =>
        { phase := if rest = [] then .filling else .collecting rest
          items := pool.items.set position (.counted result)
          books := pool.books.count id trackfile result }
  | _, _ => none

/-- The future is done. -/
def isDone (pool : Pool) (position : Nat) : Bool :=
  match pool.items[position]? with
  | some (.finished _) => true
  | _ => false

/-- One step. -/
def step (tier : Tier) (workers : Nat) (trackfiles : List Trackfile) (pool : Pool) :
    Action → Option Pool
  | .fill =>
      match pool.phase with
      | .filling => some (pool.fill tier workers trackfiles)
      | _ => none
  | .cancel =>
      match pool.phase with
      | .filling | .waiting => some { pool with phase := .cancelled }
      | _ => none
  | .wait done =>
      match pool.phase with
      | .waiting =>
          if done.all pool.isDone then
            some { pool with phase := if done = [] then .filling else .collecting done }
          else none
      | _ => none
  | .collect =>
      match pool.phase with
      | .collecting (position :: rest) => pool.collect trackfiles position rest
      | _ => none
  | .measure position answers =>
      match pool.phase with
      | .completed => none
      | _ => pool.measure tier trackfiles position answers

end Pool

/-- `_execute_parallel_scan_items`. -/
def pools (tier : Tier) (workers : Nat) (trackfiles : List Trackfile) : Machine Pool Action where
  step := Pool.step tier workers trackfiles

/-- The books at the start of a run. -/
def openBooks (trackfiles : List Trackfile) : Books where
  counters := { total := trackfiles.length }

/-! ## The spectral loop -/

/-- What a turn of the spectral loop meets. -/
structure TurnAnswers where
  /-- The checks before the item raise `LibraryScanCancelled`. -/
  cancelled : Bool := false
  /-- What is raised between the marker and the measure function. -/
  interrupted : Option String := none
  answers : Answers := {}
  deriving DecidableEq, Repr

/-- A turn of the spectral loop; nothing where the run is cancelled. -/
def spectralTurn (books : Books) (position : Nat) (trackfile : Trackfile)
    (turn : TurnAnswers) : Option Books :=
  if turn.cancelled then none
  else
    match trackfile.id with
    | none => some books.skip
    | some id =>
        if (books.ledger id).any fun item => item.state ∈ spectralTerminalItemStates then
          some (books.count id trackfile (.ok .fresh))
        else
          let marked := books.mark .spectral id trackfile
          match turn.interrupted with
          | some error => some (marked.count id trackfile (.error error))
          | none =>
              let handed := marked.hand position
              let result := Tier.spectral.measure turn.answers (handed.ledger id) trackfile
              some ((handed.note id trackfile result).count id trackfile (result.map Prod.fst))

/-- The spectral loop from a position on. -/
def spectralLoop (turns : Nat → TurnAnswers) (position : Nat) (books : Books) :
    List Trackfile → Option Books
  | [] => some books
  | trackfile :: rest =>
      match spectralTurn books position trackfile (turns position) with
      | none => none
      | some next => spectralLoop turns (position + 1) next rest

/-! ## Runs -/

/-- The modes of a scan. -/
inductive Mode where
  | cheap | metadata | integrity | spectralMissing
  deriving DecidableEq, Repr

/-- The tier of a mode that runs in the pool. -/
def Mode.tier : Mode → Tier
  | .cheap => .cheap
  | .metadata => .metadata
  | .integrity => .integrity
  | .spectralMissing => .spectral

/-- A run of `_execute_library_scan_job` completes with these books; `turns` is what the
spectral loop meets. -/
def Completes (mode : Mode) (workers : Nat) (trackfiles : List Trackfile)
    (turns : Nat → TurnAnswers) (books : Books) : Prop :=
  match mode with
  | .spectralMissing => spectralLoop turns 0 (openBooks trackfiles) trackfiles = some books
  | other =>
      ∃ actions pool,
        (pools other.tier workers trackfiles).Run { books := openBooks trackfiles } actions pool ∧
          pool.phase = .completed ∧ pool.books = books

/-- The turn of a position ends before the measure function is called. -/
def Mode.interrupts (mode : Mode) (turns : Nat → TurnAnswers) (position : Nat) : Bool :=
  mode = .spectralMissing && (turns position).interrupted.isSome

end Mintarr.Scan
