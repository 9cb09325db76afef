import Mintarr.Connectors.Config
import Mintarr.Holds.CancelledGrabs
import Mintarr.Holds.Resolver
import Mintarr.Ingest.LocalFolder

/-!
# The searches of the indexer

A search is answered with an empty feed where its album is held, and else with what the adapters
find.  The album is resolved with a catalogue that the process keeps for some minutes.  Handlers run
in threads: between the steps of one search there are steps of others, and calls that hold an album
or end a hold.
-/

namespace Mintarr.Newznab

open Lib Holds
open Queue (Time)
open Ingest (ReleaseCandidate Query)

/-! ## Requests and adapters -/

/-- The arguments of a search. -/
structure SearchRequest where
  q : String
  artist : String
  album : String
  year : List Char

namespace SearchRequest

/-- `empty_query`: the test of the indexer. -/
def emptyQuery (request : SearchRequest) : Bool :=
  request.q = "" && request.artist = "" && request.album = ""

/-- What the adapters are asked for. -/
def query (request : SearchRequest) : Query where
  query := if request.emptyQuery then "Daft Punk Random Access Memories" else request.q
  artist := request.artist
  album := request.album

/-- What is resolved. -/
def albumSearch (request : SearchRequest) : AlbumSearch where
  artist := request.artist.toList
  album := request.album.toList
  q := request.q.toList

/-- `int(year_str) if year_str.isdigit() else None`; nothing at all where `int` raises. -/
def yearNumber (request : SearchRequest) : Option (Option Nat) :=
  if Text.isdigit request.year then
    if request.year.all Text.isDecimal then (Text.readInt request.year).map some else none
  else some none

end SearchRequest

/-- An adapter, as a search meets it. -/
structure Adapter where
  name : String
  /-- `is_enabled`; nothing where it raises. -/
  isEnabled : Option Bool
  /-- `connector_for_adapter`. -/
  connector : Option Connectors.ConnectorManifest
  /-- `search`; nothing where it raises. -/
  search : Query → Option Nat → Option (List ReleaseCandidate)

namespace Adapter

/-- `_adapter_import_mode_enabled`. -/
def importModeEnabled (rows : Connectors.Rows) (adapter : Adapter) : Bool :=
  adapter.connector.all fun manifest => Connectors.configuredMode rows manifest = "import"

/-- The adapter is asked. -/
def asked (rows : Connectors.Rows) (request : SearchRequest) (adapter : Adapter) : Bool :=
  adapter.isEnabled = some true && adapter.importModeEnabled rows &&
    !(request.emptyQuery && adapter.name ≠ "tidal")

/-- What a search takes from it. -/
def hits (request : SearchRequest) (year : Option Nat) (adapter : Adapter) :
    List ReleaseCandidate :=
  (adapter.search request.query year).getD []

end Adapter

/-- What all adapters that are asked find, in their order. -/
def allHits (rows : Connectors.Rows) (adapters : List Adapter) (request : SearchRequest)
    (year : Option Nat) : List ReleaseCandidate :=
  (adapters.filter (Adapter.asked rows request)).flatMap (Adapter.hits request year)

/-- `all_candidates`, sorted; nothing where an adapter does not say whether it is enabled. -/
def allCandidates (rows : Connectors.Rows) (adapters : List Adapter) (request : SearchRequest)
    (year : Option Nat) : Option (List ReleaseCandidate) :=
  if adapters.any fun adapter => adapter.isEnabled = none then none
  else some ((allHits rows adapters request year).insertionSort fun c d => d.priority ≤ c.priority)

/-! ## The handlers -/

/-- What does not change while the process runs. -/
structure Setting where
  unicode : Unicode
  /-- `MINTARR_ALBUM_HOLD_Q_RESOLVE`. -/
  allowQFallback : Bool
  /-- `json.dumps` of the details of a hold. -/
  dumps : Fields → String
  /-- `str` of a value that is no text. -/
  repr : Py.PyValue → Py.Str

/-- Where the handler of a search stands. -/
inductive SearchPc where
  /-- The cached catalogue is too old. -/
  | reading
  | built (catalogue : List AlbumCatalogueEntry)
  /-- With the catalogue that `_get_album_catalogue` has returned. -/
  | looked (catalogue : List AlbumCatalogueEntry)
  /-- The album is not held, and the adapters are next. -/
  | passed
  /-- Answered with an empty feed. -/
  | suppressed (albumId : Int)
  | replied (items : List ReleaseCandidate)
  /-- Answered with an error. -/
  | failed

/-- A search under way, with the time at which it looked at the cache. -/
structure Handler where
  request : SearchRequest
  year : Option Nat
  arrived : Time
  pc : SearchPc

/-- The process: the holds, the last time that was read, `_ALBUM_CATALOGUE_CACHE`, the handlers. -/
structure Indexer where
  holds : AlbumHolds
  clock : Time
  cache : Option (Time × List AlbumCatalogueEntry)
  handlers : List Handler

/-- A call that changes the holds and gets through to the database. -/
inductive HoldCall where
  | cancelled (grab : CancelledGrab)
  | requested (request : DashboardHold)
  | cleared (albumId : Nat)

/-- What happens. -/
inductive Action where
  | arrive (request : SearchRequest) (now : Time)
  /-- `_read_lidarr_album_rows` and `build_catalogue`; no rows where the latter raises. -/
  | read (index : Nat) (rows : Option (List AlbumRow)) (now : Time)
  | store (index : Nat)
  /-- `get_album_hold`; `readOk` is false where the query fails. -/
  | check (index : Nat) (now : Time) (readOk : Bool)
  | collect (index : Nat) (rows : Connectors.Rows) (adapters : List Adapter)
  | call (call : HoldCall) (now : Time)

/-- `_ALBUM_CATALOGUE_TTL_SEC`. -/
def albumCatalogueTtlSec : Time := 300

section Steps

variable (setting : Setting)

/-- What a call does to the table, if anything. -/
def HoldCall.call? : HoldCall → Option Call
  | .cancelled grab => (grab.hold setting.dumps setting.repr).map .create
  | .requested request => (request.hold setting.dumps setting.repr).map .create
  | .cleared albumId => some (.clear albumId (some "user_dashboard"))

/-- The event in the history of the holds. -/
def Action.event : Action → Option Event
  | .call made now => (made.call? setting).map fun change => ⟨change, now⟩
  | _ => none

/-- The history of the holds. -/
def holdEvents (log : List Action) : List Event := log.filterMap (Action.event setting)

/-- The album id that a search resolves to. -/
def resolved (catalogue : List AlbumCatalogueEntry) (request : SearchRequest) : Option Int :=
  (resolveAlbumId setting.unicode catalogue request.albumSearch setting.allowQFallback).albumId

/-- `_album_hold_suppressed_album_id`, with its catalogue. -/
def suppressedAlbumId (catalogue : List AlbumCatalogueEntry) (request : SearchRequest)
    (held : Int → Bool) : Option Int :=
  if catalogue.isEmpty then none else (resolved setting catalogue request).filter held

namespace SearchPc

/-- At the start of a search. -/
def start (cache : Option (Time × List AlbumCatalogueEntry)) (request : SearchRequest)
    (now : Time) : SearchPc :=
  if request.yearNumber = none then .failed
  else if request.emptyQuery then .passed
  else
    match cache.filter fun cached => now - cached.1 < albumCatalogueTtlSec with
    | some cached => .looked cached.2
    | none => .reading

/-- After the rows are read. -/
def read (rows : Option (List AlbumRow)) : SearchPc → Option SearchPc
  | .reading => some (rows.elim .passed fun rows => .built (buildCatalogue setting.unicode rows))
  | _ => none

/-- The catalogue to store. -/
def toStore : SearchPc → Option (List AlbumCatalogueEntry)
  | .built catalogue => some catalogue
  | _ => none

/-- After the hold is looked for. -/
def check (request : SearchRequest) (held : Int → Bool) : SearchPc → Option SearchPc
  | .looked catalogue =>
      some ((suppressedAlbumId setting catalogue request held).elim .passed .suppressed)
  | _ => none

/-- After the adapters have been asked. -/
def collect (found : Option (List ReleaseCandidate)) : SearchPc → Option SearchPc
  | .passed => some (found.elim .failed .replied)
  | _ => none

end SearchPc

namespace Indexer

/-- A handler moves on. -/
def move (state : Indexer) (index : Nat) (pc : Handler → Option SearchPc) : Option Indexer :=
  state.handlers[index]?.bind fun handler =>
    (pc handler).map fun pc =>
      { state with handlers := state.handlers.set index { handler with pc } }

/-- The time is read; it does not run backwards. -/
def tick (state : Indexer) (now : Time) : Option Indexer :=
  if state.clock ≤ now then some { state with clock := now } else none

/-- One step. -/
def step (state : Indexer) : Action → Option Indexer
  | .arrive request now =>
      (state.tick now).map fun state =>
        { state with
          handlers := state.handlers ++
            [⟨request, request.yearNumber.getD none, now,
              SearchPc.start state.cache request now⟩] }
  | .read index rows now =>
      (state.tick now).bind fun state => state.move index fun handler => handler.pc.read setting rows
  | .store index =>
      state.handlers[index]?.bind fun handler =>
        handler.pc.toStore.bind fun catalogue =>
          { state with cache := some (handler.arrived, catalogue) }.move index
            fun _ => some (.looked catalogue)
  | .check index now readOk =>
      (state.tick now).bind fun state =>
        state.move index fun handler =>
          handler.pc.check setting handler.request fun albumId =>
            readOk && state.holds.isAlbumHeld albumId now
  | .collect index rows adapters =>
      state.move index fun handler =>
        handler.pc.collect (allCandidates rows adapters handler.request handler.year)
  | .call call now =>
      (state.tick now).map fun state =>
        { state with
          holds := (call.call? setting).elim state.holds fun call => call.apply state.holds now }

/-- A process that has just started. -/
def initial (clock : Time) : Indexer := ⟨Registry.empty, clock, none, []⟩

end Indexer

/-- The machine of the searches. -/
def indexer : Machine Indexer Action where
  step := Indexer.step setting

/-! ## What a step does -/

/-- What a step does. -/
inductive Indexer.Moves (state : Indexer) : Action → Indexer → Prop
  | arrive {request : SearchRequest} {now : Time} (order : state.clock ≤ now) :
      state.Moves (.arrive request now)
        { state with
          clock := now
          handlers := state.handlers ++
            [⟨request, request.yearNumber.getD none, now,
              SearchPc.start state.cache request now⟩] }
  | read {index : Nat} {handler : Handler} {rows : Option (List AlbumRow)} {now : Time}
      (order : state.clock ≤ now) (here : state.handlers[index]? = some handler)
      (reading : handler.pc = .reading) :
      state.Moves (.read index rows now)
        { state with
          clock := now
          handlers := state.handlers.set index
            { handler with
              pc := rows.elim .passed fun rows => .built (buildCatalogue setting.unicode rows) } }
  | store {index : Nat} {handler : Handler} {catalogue : List AlbumCatalogueEntry}
      (here : state.handlers[index]? = some handler) (built : handler.pc = .built catalogue) :
      state.Moves (.store index)
        { state with
          cache := some (handler.arrived, catalogue)
          handlers := state.handlers.set index { handler with pc := .looked catalogue } }
  | check {index : Nat} {handler : Handler} {catalogue : List AlbumCatalogueEntry} {now : Time}
      {readOk : Bool} (order : state.clock ≤ now)
      (here : state.handlers[index]? = some handler) (looked : handler.pc = .looked catalogue) :
      state.Moves (.check index now readOk)
        { state with
          clock := now
          handlers := state.handlers.set index
            { handler with
              pc := (suppressedAlbumId setting catalogue handler.request fun albumId =>
                readOk && state.holds.isAlbumHeld albumId now).elim .passed .suppressed } }
  | collect {index : Nat} {handler : Handler} {rows : Connectors.Rows} {adapters : List Adapter}
      (here : state.handlers[index]? = some handler) (passed : handler.pc = .passed) :
      state.Moves (.collect index rows adapters)
        { state with
          handlers := state.handlers.set index
            { handler with
              pc := (allCandidates rows adapters handler.request handler.year).elim .failed
                .replied } }
  | call {call : HoldCall} {now : Time} (order : state.clock ≤ now) :
      state.Moves (.call call now)
        { state with
          clock := now
          holds := (call.call? setting).elim state.holds fun call => call.apply state.holds now }

variable {setting}

theorem Indexer.tick_eq_some {state next : Indexer} {now : Time} :
    state.tick now = some next ↔ state.clock ≤ now ∧ { state with clock := now } = next := by
  simp only [Indexer.tick, Option.ite_none_right_eq_some, Option.some.injEq]

theorem Indexer.move_eq_some {state next : Indexer} {index : Nat}
    {pc : Handler → Option SearchPc} :
    state.move index pc = some next ↔
      ∃ handler new, state.handlers[index]? = some handler ∧ pc handler = some new ∧
        next = { state with handlers := state.handlers.set index { handler with pc := new } } := by
  simp only [Indexer.move, Option.bind_eq_some_iff, Option.map_eq_some_iff]
  constructor
  · rintro ⟨handler, here, new, moved, rfl⟩
    exact ⟨handler, new, here, moved, rfl⟩
  · rintro ⟨handler, new, here, moved, rfl⟩
    exact ⟨handler, here, new, moved, rfl⟩

theorem SearchPc.read_eq_some {pc new : SearchPc} {rows : Option (List AlbumRow)} :
    pc.read setting rows = some new ↔ pc = .reading ∧
      new = rows.elim .passed fun rows => .built (buildCatalogue setting.unicode rows) := by
  cases pc with
  | reading => simp [SearchPc.read, eq_comm]
  | _ => simp [SearchPc.read]

theorem SearchPc.toStore_eq_some {pc : SearchPc} {catalogue : List AlbumCatalogueEntry} :
    pc.toStore = some catalogue ↔ pc = .built catalogue := by
  cases pc with
  | built other => simp [SearchPc.toStore]
  | _ => simp [SearchPc.toStore]

theorem SearchPc.check_eq_some {pc new : SearchPc} {request : SearchRequest}
    {held : Int → Bool} :
    pc.check setting request held = some new ↔ ∃ catalogue, pc = .looked catalogue ∧
      new = (suppressedAlbumId setting catalogue request held).elim .passed .suppressed := by
  cases pc with
  | looked catalogue => simp [SearchPc.check, eq_comm]
  | _ => simp [SearchPc.check]

theorem SearchPc.collect_eq_some {pc new : SearchPc} {found : Option (List ReleaseCandidate)} :
    pc.collect found = some new ↔ pc = .passed ∧ new = found.elim .failed .replied := by
  cases pc with
  | passed => simp [SearchPc.collect, eq_comm]
  | _ => simp [SearchPc.collect]

/-- Every step is one of these. -/
theorem Indexer.moves_of_step {state next : Indexer} {action : Action}
    (stepped : (indexer setting).step state action = some next) :
    state.Moves setting action next := by
  change state.step setting action = some next at stepped
  cases action with
  | arrive request now =>
      obtain ⟨_, ticked, rfl⟩ := Option.map_eq_some_iff.mp stepped
      obtain ⟨order, rfl⟩ := tick_eq_some.mp ticked
      exact .arrive order
  | read index rows now =>
      obtain ⟨_, ticked, moved⟩ := Option.bind_eq_some_iff.mp stepped
      obtain ⟨order, rfl⟩ := tick_eq_some.mp ticked
      obtain ⟨handler, _, here, went, rfl⟩ := move_eq_some.mp moved
      obtain ⟨reading, rfl⟩ := SearchPc.read_eq_some.mp went
      exact .read order here reading
  | store index =>
      obtain ⟨handler, here, rest⟩ := Option.bind_eq_some_iff.mp stepped
      obtain ⟨catalogue, stored, moved⟩ := Option.bind_eq_some_iff.mp rest
      obtain ⟨again, _, there, went, rfl⟩ := move_eq_some.mp moved
      cases here.symm.trans there
      cases went
      exact .store here (SearchPc.toStore_eq_some.mp stored)
  | check index now readOk =>
      obtain ⟨_, ticked, moved⟩ := Option.bind_eq_some_iff.mp stepped
      obtain ⟨order, rfl⟩ := tick_eq_some.mp ticked
      obtain ⟨handler, _, here, went, rfl⟩ := move_eq_some.mp moved
      obtain ⟨catalogue, looked, rfl⟩ := SearchPc.check_eq_some.mp went
      exact .check order here looked
  | collect index rows adapters =>
      obtain ⟨handler, _, here, went, rfl⟩ := move_eq_some.mp stepped
      obtain ⟨passed, rfl⟩ := SearchPc.collect_eq_some.mp went
      exact .collect here passed
  | call call now =>
      obtain ⟨_, ticked, rfl⟩ := Option.map_eq_some_iff.mp stepped
      obtain ⟨order, rfl⟩ := tick_eq_some.mp ticked
      exact .call order

end Steps

/-! ## What the history says of a search -/

section History

variable (setting : Setting)

/-- The catalogue is made of rows that were read at a time. -/
def ReadAt (log : List Action) (catalogue : List AlbumCatalogueEntry) (time : Time) : Prop :=
  ∃ index rows, Action.read index (some rows) time ∈ log ∧
    catalogue = buildCatalogue setting.unicode rows

/-- The rows were read after the search arrived, or less than five minutes before. -/
def Recent (log : List Action) (handler : Handler) (catalogue : List AlbumCatalogueEntry) : Prop :=
  ∃ time, handler.arrived - albumCatalogueTtlSec < time ∧ ReadAt setting log catalogue time

/-- A hold was looked for, and the verdict is the album that the search resolves to, if it was held
at this moment. -/
def Checked (log : List Action) (index : Nat) (handler : Handler) (verdict : Option Int) : Prop :=
  ∃ before now readOk after catalogue, log = before ++ .check index now readOk :: after ∧
    Recent setting before handler catalogue ∧
    ∀ albumId, verdict = some albumId ↔
      resolved setting catalogue handler.request = some albumId ∧ readOk = true ∧
        Held (holdEvents setting before) albumId now

/-- The search had no reason to be suppressed: it is the test of the indexer, its rows could not be
read, or no album it resolves to was held. -/
def Free (log : List Action) (index : Nat) (handler : Handler) : Prop :=
  handler.request.emptyQuery = true ∨ (∃ time, Action.read index none time ∈ log) ∨
    Checked setting log index handler none

/-- The candidates of the adapters that are asked, those of higher priority first, and those of one
priority in the order in which they were found. -/
structure Feed (rows : Connectors.Rows) (adapters : List Adapter) (handler : Handler)
    (items : List ReleaseCandidate) : Prop where
  told : ∀ adapter ∈ adapters, adapter.isEnabled ≠ none
  perm : items.Perm (allHits rows adapters handler.request handler.year)
  sorted : items.Pairwise fun c d => d.priority ≤ c.priority
  stable : ∀ priority, items.filter (fun c => c.priority = priority) =
    (allHits rows adapters handler.request handler.year).filter fun c => c.priority = priority

/-- The history explains where a search stands. -/
def Explained (log : List Action) (index : Nat) (handler : Handler) : Prop :=
  match handler.pc with
  | .reading => handler.request.emptyQuery = false
  | .built catalogue =>
      handler.request.emptyQuery = false ∧
        ∃ time, handler.arrived ≤ time ∧ ReadAt setting log catalogue time
  | .looked catalogue =>
      handler.request.emptyQuery = false ∧ Recent setting log handler catalogue
  | .passed => Free setting log index handler
  | .suppressed albumId =>
      handler.request.emptyQuery = false ∧ Checked setting log index handler (some albumId)
  | .replied items =>
      Free setting log index handler ∧ ∃ rows adapters,
        Action.collect index rows adapters ∈ log ∧ Feed rows adapters handler items
  | .failed =>
      handler.request.yearNumber = none ∨ ∃ rows adapters,
        Action.collect index rows adapters ∈ log ∧ ∃ adapter ∈ adapters, adapter.isEnabled = none

variable {setting} {log more : List Action} {index : Nat} {handler : Handler}

theorem ReadAt.append {catalogue : List AlbumCatalogueEntry} {time : Time}
    (read : ReadAt setting log catalogue time) : ReadAt setting (log ++ more) catalogue time := by
  obtain ⟨reader, rows, listed, built⟩ := read
  exact ⟨reader, rows, List.mem_append_left more listed, built⟩

theorem Recent.append {catalogue : List AlbumCatalogueEntry}
    (recent : Recent setting log handler catalogue) :
    Recent setting (log ++ more) handler catalogue := by
  obtain ⟨time, after, read⟩ := recent
  exact ⟨time, after, read.append⟩

theorem Checked.append {verdict : Option Int} (checked : Checked setting log index handler verdict) :
    Checked setting (log ++ more) index handler verdict := by
  obtain ⟨before, now, readOk, after, catalogue, rfl, recent, held⟩ := checked
  exact ⟨before, now, readOk, after ++ more, catalogue, by simp, recent, held⟩

theorem Free.append (free : Free setting log index handler) :
    Free setting (log ++ more) index handler := by
  rcases free with blank | ⟨time, unread⟩ | checked
  · exact .inl blank
  · exact .inr (.inl ⟨time, List.mem_append_left more unread⟩)
  · exact .inr (.inr checked.append)

/-- What is explained stays so. -/
theorem Explained.append (explained : Explained setting log index handler) :
    Explained setting (log ++ more) index handler := by
  obtain ⟨request, year, arrived, pc⟩ := handler
  cases pc with
  | reading => exact explained
  | built catalogue =>
      obtain ⟨real, time, after, read⟩ := explained
      exact ⟨real, time, after, read.append⟩
  | looked catalogue => exact ⟨explained.1, explained.2.append⟩
  | passed => exact Free.append explained
  | suppressed albumId => exact ⟨explained.1, explained.2.append⟩
  | replied items =>
      obtain ⟨free, rows, adapters, collected, feed⟩ := explained
      exact ⟨free.append, rows, adapters, List.mem_append_left more collected, feed⟩
  | failed =>
      rcases explained with year | ⟨rows, adapters, collected, silent⟩
      · exact .inl year
      · exact .inr ⟨rows, adapters, List.mem_append_left more collected, silent⟩

/-- What is found is in the feed, in its order. -/
theorem feed_of_allCandidates {rows : Connectors.Rows} {adapters : List Adapter}
    {items : List ReleaseCandidate}
    (found : allCandidates rows adapters handler.request handler.year = some items) :
    Feed rows adapters handler items := by
  rw [allCandidates, Option.ite_none_left_eq_some, Option.some.injEq] at found
  obtain ⟨told, rfl⟩ := found
  have perm := List.perm_insertionSort (fun c d : ReleaseCandidate => d.priority ≤ c.priority)
    (allHits rows adapters handler.request handler.year)
  refine ⟨?_, perm, List.pairwise_insertionSort _ _, ?_⟩
  · intro adapter listed silent
    apply told
    rw [List.any_eq_true]
    exact ⟨adapter, listed, by simpa using silent⟩
  · intro priority
    have alike : ((allHits rows adapters handler.request handler.year).filter
        fun c => c.priority = priority).Pairwise fun c d => d.priority ≤ c.priority := by
      apply List.pairwise_of_forall_mem_list
      intro c listed d others
      have here := (List.mem_filter.mp listed).2
      have there := (List.mem_filter.mp others).2
      rw [decide_eq_true_eq] at here there
      rw [here, there]
    have kept := List.sublist_insertionSort alike List.filter_sublist
    have same := (kept.filter fun c => c.priority = priority).eq_of_length
      (by rw [List.filter_filter, (perm.filter _).length_eq]; simp)
    rw [List.filter_filter] at same
    simpa using same.symm

/-! ## Runs -/

variable {state next : Indexer} {action : Action}

variable (setting) in
/-- What the history says of the process. -/
structure Sound (log : List Action) (state : Indexer) : Prop where
  follows : Follows state.holds (recorded (holdEvents setting log)) state.clock
  cached : ∀ cached, state.cache = some cached →
    ∃ time, cached.1 ≤ time ∧ ReadAt setting log cached.2 time
  arrived : ∀ (index : Nat) (handler : Handler), state.handlers[index]? = some handler →
    handler.arrived ≤ state.clock
  explained : ∀ (index : Nat) (handler : Handler), state.handlers[index]? = some handler →
    Explained setting log index handler

/-- What holds of the handlers and of a new one holds of all of them. -/
theorem forall_set {handlers : List Handler} {new : Handler} {kept : Nat → Handler → Prop}
    (others : ∀ (place : Nat) (other : Handler), handlers[place]? = some other → kept place other)
    (moved : kept index new) (place : Nat) (other : Handler)
    (here : (handlers.set index new)[place]? = some other) : kept place other := by
  rw [List.getElem?_set] at here
  split_ifs at here with same
  · rw [← same]
    cases here
    exact moved
  · exact others place other here

theorem holdEvents_append : holdEvents setting (log ++ [action]) =
    holdEvents setting log ++ (action.event setting).toList := by
  rw [holdEvents, List.filterMap_append]
  cases found : action.event setting with
  | none => simp [holdEvents, found]
  | some event => simp [holdEvents, found]

/-- Without a call the holds stay as recorded. -/
theorem follows_quiet {holds : AlbumHolds} {clock now : Time} (order : clock ≤ now)
    (quiet : action.event setting = none)
    (follows : Follows holds (recorded (holdEvents setting log)) clock) :
    Follows holds (recorded (holdEvents setting (log ++ [action]))) now := by
  intro later after albumId
  rw [holdEvents_append, quiet, Option.toList_none, List.append_nil]
  exact follows later (order.trans after) albumId

/-- A call changes the holds and the record alike. -/
theorem follows_call {holds : AlbumHolds} {clock now : Time} {call : HoldCall} (order : clock ≤ now)
    (follows : Follows holds (recorded (holdEvents setting log)) clock) :
    Follows ((call.call? setting).elim holds fun change => change.apply holds now)
      (recorded (holdEvents setting (log ++ [.call call now]))) now := by
  cases made : call.call? setting with
  | none => exact follows_quiet order (by rw [Action.event, made]; rfl) follows
  | some change =>
      have event : (Action.call call now).event setting = some ⟨change, now⟩ := by
        rw [Action.event, made]
        rfl
      rw [holdEvents_append, event, Option.toList_some, recorded_append]
      exact @Follows.apply _ _ _ follows ⟨change, now⟩ order

/-- The album is held as its history says. -/
theorem isAlbumHeld_iff_held (sound : Sound setting log state) {now : Time}
    (order : state.clock ≤ now) {albumId : Int} :
    state.holds.isAlbumHeld albumId now = true ↔ Held (holdEvents setting log) albumId now := by
  rw [AlbumHolds.isAlbumHeld_iff, sound.follows now order albumId, held_iff_recorded]

theorem suppressedAlbumId_eq_some {catalogue : List AlbumCatalogueEntry} {request : SearchRequest}
    {held : Int → Bool} {albumId : Int} :
    suppressedAlbumId setting catalogue request held = some albumId ↔
      catalogue ≠ [] ∧ resolved setting catalogue request = some albumId ∧ held albumId = true := by
  rw [suppressedAlbumId, Option.ite_none_left_eq_some, Option.filter_eq_some_iff,
    List.isEmpty_iff]

/-- No album is resolved with an empty catalogue. -/
theorem resolved_nil (request : SearchRequest) : resolved setting [] request = none := by
  rw [resolved, resolveAlbumId]
  split_ifs
  · rfl
  · rfl
  · rfl

/-- A search is explained from its start. -/
theorem Sound.explained_start (sound : Sound setting log state) {request : SearchRequest}
    {now : Time} (place : Nat) :
    Explained setting log place
      ⟨request, request.yearNumber.getD none, now, SearchPc.start state.cache request now⟩ := by
  rw [SearchPc.start]
  split_ifs with wrong blank
  · exact .inl wrong
  · exact .inl blank
  · have real := Bool.eq_false_of_not_eq_true blank
    cases kept : state.cache.filter fun cached => now - cached.1 < albumCatalogueTtlSec with
    | none => exact real
    | some cached =>
        obtain ⟨stored, fresh⟩ := Option.filter_eq_some_iff.mp kept
        obtain ⟨time, after, read⟩ := sound.cached cached stored
        have late : now - albumCatalogueTtlSec < time :=
          lt_of_lt_of_le (sub_lt_comm.mp (of_decide_eq_true fresh)) after
        exact ⟨real, time, late, read⟩

/-- The verdict of a check is explained. -/
theorem Sound.explained_check (sound : Sound setting log state) {catalogue : List AlbumCatalogueEntry}
    {now : Time} {readOk : Bool} (order : state.clock ≤ now)
    (here : state.handlers[index]? = some handler) (looked : handler.pc = .looked catalogue) :
    Explained setting (log ++ [.check index now readOk]) index
      { handler with
        pc := (suppressedAlbumId setting catalogue handler.request fun albumId =>
          readOk && state.holds.isAlbumHeld albumId now).elim .passed .suppressed } := by
  have before := sound.explained index handler here
  rw [Explained, looked] at before
  obtain ⟨real, recent⟩ := before
  have checked : ∀ verdict, (suppressedAlbumId setting catalogue handler.request fun albumId =>
      readOk && state.holds.isAlbumHeld albumId now) = verdict →
      Checked setting (log ++ [.check index now readOk]) index handler verdict := by
    intro verdict found
    refine ⟨log, now, readOk, [], catalogue, rfl, recent, ?_⟩
    intro albumId
    rw [← found, suppressedAlbumId_eq_some, Bool.and_eq_true, isAlbumHeld_iff_held sound order,
      and_iff_right_iff_imp]
    rintro ⟨named, _⟩ rfl
    rw [resolved_nil] at named
    cases named
  cases found : suppressedAlbumId setting catalogue handler.request fun albumId =>
      readOk && state.holds.isAlbumHeld albumId now with
  | none => exact Or.inr (Or.inr (checked none found))
  | some albumId => exact ⟨real, checked (some albumId) found⟩

/-- A step is explained by the history with it. -/
theorem Sound.step (sound : Sound setting log state)
    (stepped : (indexer setting).step state action = some next) :
    Sound setting (log ++ [action]) next := by
  have older : ∀ (place : Nat) (other : Handler), state.handlers[place]? = some other →
      Explained setting (log ++ [action]) place other := by
    intro place other there
    exact (sound.explained place other there).append
  have stored : ∀ cached, state.cache = some cached →
      ∃ time, cached.1 ≤ time ∧ ReadAt setting (log ++ [action]) cached.2 time := by
    intro cached held
    obtain ⟨time, after, read⟩ := sound.cached cached held
    exact ⟨time, after, read.append⟩
  have later : ∀ {now}, state.clock ≤ now → ∀ (place : Nat) (other : Handler),
      state.handlers[place]? = some other → other.arrived ≤ now := by
    intro now order place other there
    exact (sound.arrived place other there).trans order
  cases Indexer.moves_of_step stepped with
  | @arrive request now order =>
      have placed : ∀ (place : Nat) (other : Handler),
          (state.handlers ++ [⟨request, request.yearNumber.getD none, now,
            SearchPc.start state.cache request now⟩])[place]? = some other →
          state.handlers[place]? = some other ∨ other = ⟨request, request.yearNumber.getD none, now,
            SearchPc.start state.cache request now⟩ := by
        intro place other there
        rw [List.getElem?_append] at there
        split_ifs at there
        · exact .inl there
        · exact .inr (List.mem_singleton.mp (List.mem_of_getElem? there))
      refine ⟨follows_quiet order rfl sound.follows, stored, ?_, ?_⟩
      · intro place other there
        rcases placed place other there with known | rfl
        · exact later order place other known
        · exact le_refl now
      · intro place other there
        rcases placed place other there with known | rfl
        · exact older place other known
        · exact (sound.explained_start place).append
  | @read index handler rows now order here reading =>
      refine ⟨follows_quiet order rfl sound.follows, stored,
        forall_set (later order) (later order index handler here), forall_set older ?_⟩
      have real := sound.explained index handler here
      rw [Explained, reading] at real
      cases rows with
      | none => exact Or.inr (Or.inl ⟨now, List.mem_append_right log List.mem_cons_self⟩)
      | some rows =>
          exact ⟨real, now, later order index handler here, index, rows,
            List.mem_append_right log List.mem_cons_self, rfl⟩
  | @store index handler catalogue here built =>
      have before := sound.explained index handler here
      rw [Explained, built] at before
      obtain ⟨real, time, after, read⟩ := before
      refine ⟨follows_quiet (le_refl _) rfl sound.follows, ?_,
        forall_set sound.arrived (sound.arrived index handler here), forall_set older ?_⟩
      · intro cached same
        cases same
        exact ⟨time, after, read.append⟩
      · have positive : (0 : Time) < albumCatalogueTtlSec := by norm_num [albumCatalogueTtlSec]
        exact ⟨real, time, (sub_lt_self _ positive).trans_le after, read.append⟩
  | @check index handler catalogue now readOk order here looked =>
      exact ⟨follows_quiet order rfl sound.follows, stored,
        forall_set (later order) (later order index handler here),
        forall_set older (sound.explained_check order here looked)⟩
  | @collect index handler rows adapters here passed =>
      refine ⟨follows_quiet (le_refl _) rfl sound.follows, stored,
        forall_set sound.arrived (sound.arrived index handler here), forall_set older ?_⟩
      have free := sound.explained index handler here
      rw [Explained, passed] at free
      have last : Action.collect index rows adapters ∈ log ++ [.collect index rows adapters] :=
        List.mem_append_right log List.mem_cons_self
      cases found : allCandidates rows adapters handler.request handler.year with
      | none =>
          rw [allCandidates, ite_eq_left_iff, List.any_eq_true] at found
          by_cases silent : ∃ adapter ∈ adapters, adapter.isEnabled = none
          · exact Or.inr ⟨rows, adapters, last, silent⟩
          · cases found (by simpa using silent)
      | some items => exact ⟨free.append, rows, adapters, last, feed_of_allCandidates found⟩
  | call order =>
      exact ⟨follows_call order sound.follows, stored, later order, older⟩

theorem Sound.initial (clock : Time) : Sound setting [] (Indexer.initial clock) where
  follows := follows_initial clock
  cached := by
    intro cached absent
    cases absent
  arrived := by
    intro place other there
    cases there
  explained := by
    intro place other there
    cases there

theorem sound_of_run {clock : Time}
    (run : (indexer setting).Run (Indexer.initial clock) log state) : Sound setting log state := by
  apply run.explains (Sound setting)
  · intro past before label after sound _ stepped
    exact sound.step stepped
  · exact Sound.initial clock

/-- In every run a search is answered with an empty feed just where the album that it resolves to,
with rows that are not older than five minutes, is held when it is looked for; else it is answered
with all that the adapters find. -/
theorem explained_of_run {clock : Time}
    (run : (indexer setting).Run (Indexer.initial clock) log state)
    (here : state.handlers[index]? = some handler) : Explained setting log index handler :=
  (sound_of_run run).explained index handler here

/-! ## After a cancelled grab -/

/-- The album is held at least until a time that the clock may not have reached. -/
def HeldUntil (albumId : Int) (created : Time) (state : Indexer) : Prop :=
  created ≤ state.clock ∧ ∃ expiry, state.holds.deadline albumId = some expiry ∧
    created + defaultAlbumHoldTtlSec ≤ expiry

/-- A call asks for a hold of an hour, or clears one. -/
theorem HoldCall.cases_of_call? {call : HoldCall} {change : Call}
    (made : call.call? setting = some change) :
    (∃ request, change = .create request ∧
      ∀ now, request.expiry now = now + defaultAlbumHoldTtlSec) ∨
    ∃ number, call = .cleared number ∧ change = .clear number (some "user_dashboard") := by
  have hour : ∀ {request : HoldRequest}, request.expiresAt = none → request.ttlSeconds = none →
      ∀ now, request.expiry now = now + defaultAlbumHoldTtlSec := by
    intro request expires lasts now
    rw [HoldRequest.expiry, expires, lasts, Option.getD_none, Option.getD_none]
    norm_num [defaultAlbumHoldTtlSec]
  cases call with
  | cancelled grab =>
      obtain ⟨request, asked, rfl⟩ := Option.map_eq_some_iff.mp made
      obtain ⟨albumId, _, rfl⟩ := Option.map_eq_some_iff.mp asked
      exact .inl ⟨_, rfl, hour rfl rfl⟩
  | requested dashboard =>
      obtain ⟨request, asked, rfl⟩ := Option.map_eq_some_iff.mp made
      rw [DashboardHold.hold] at asked
      split at asked
      · cases asked
        exact .inl ⟨_, rfl, hour rfl rfl⟩
      · cases asked
  | cleared number =>
      cases made
      exact .inr ⟨number, rfl, rfl⟩

/-- The album that a call ends the hold of. -/
def Action.clears : Action → Option Int
  | .call (.cleared number) _ => some number
  | _ => none

/-- Nothing but a clear ends the hold. -/
theorem HeldUntil.step {albumId : Int} {created : Time} (held : HeldUntil albumId created state)
    (kept : action.clears ≠ some albumId)
    (stepped : (indexer setting).step state action = some next) :
    HeldUntil albumId created next := by
  obtain ⟨past, expiry, deadline, ahead⟩ := held
  cases Indexer.moves_of_step stepped with
  | arrive order => exact ⟨past.trans order, expiry, deadline, ahead⟩
  | read order => exact ⟨past.trans order, expiry, deadline, ahead⟩
  | store => exact ⟨past, expiry, deadline, ahead⟩
  | check order => exact ⟨past.trans order, expiry, deadline, ahead⟩
  | collect => exact ⟨past, expiry, deadline, ahead⟩
  | @call call now order =>
      refine ⟨past.trans order, ?_⟩
      cases made : call.call? setting with
      | none => exact ⟨expiry, deadline, ahead⟩
      | some change =>
          rcases HoldCall.cases_of_call? made with ⟨request, rfl, hour⟩ | ⟨number, rfl, rfl⟩
          · cases valid : request.valid with
            | false =>
                have same := @AlbumHolds.deadline_of_invalid state.holds request now valid
                exact ⟨expiry, (congrArg (AlbumHolds.deadline · albumId) same).trans deadline, ahead⟩
            | true =>
                have moved := @AlbumHolds.deadline_createAlbumHold state.holds request now valid
                  albumId
                by_cases same : albumId = request.albumId
                · rw [if_pos same, hour] at moved
                  exact ⟨_, moved, add_le_add_left (past.trans order) _⟩
                · rw [if_neg same, deadline] at moved
                  exact ⟨expiry, moved, ahead⟩
          · have moved := @AlbumHolds.deadline_clearAlbumHold state.holds number
              (some "user_dashboard") now albumId
            have other : albumId ≠ number := by
              rintro rfl
              exact kept rfl
            rw [if_neg other, deadline] at moved
            exact ⟨expiry, moved, ahead⟩

/-- The removal of a grab holds its album. -/
theorem heldUntil_of_cancelled {grab : CancelledGrab} {albumId : Int} {created : Time}
    (named : grab.albumId = some albumId) (stored : 0 < albumId ∧ albumId < 2 ^ 63)
    (stepped : (indexer setting).step state (.call (.cancelled grab) created) = some next) :
    HeldUntil albumId created next := by
  cases Indexer.moves_of_step stepped with
  | call order =>
      refine ⟨le_refl created, created + defaultAlbumHoldTtlSec, ?_, le_refl _⟩
      cases asked : grab.hold setting.dumps setting.repr with
      | none =>
          rw [CancelledGrab.hold, named] at asked
          cases asked
      | some request =>
          have made : (HoldCall.cancelled grab).call? setting = some (.create request) := by
            rw [HoldCall.call?, asked]
            rfl
          rcases HoldCall.cases_of_call? made with ⟨other, same, hour⟩ | ⟨number, wrong, _⟩
          · cases same
            rw [CancelledGrab.hold, named, Option.map_some, Option.some.injEq] at asked
            have album : request.albumId = albumId := by rw [← asked]
            have written : Text.strip Text.isSpace "operator_cancelled_active_grab".toList ≠ [] := by
              decide
            have reason : request.reasonText ≠ [] := by
              rw [← asked]
              exact written
            have valid : request.valid = true := by
              simp only [HoldRequest.valid, album, Bool.and_eq_true, decide_eq_true_eq]
              exact ⟨stored, reason⟩
            have moved := @AlbumHolds.deadline_createAlbumHold state.holds request created valid
              albumId
            rw [if_pos album.symm, hour] at moved
            rw [made]
            exact moved
          · cases wrong

/-- Once the removal of a grab has held an album that Lidarr or a row has named, no search that
resolves to this album is answered with candidates for an hour, whatever else goes on, unless the
hold is cleared. -/
theorem suppressed_of_cancelled {created now : Time} {between : List Action} {start mid : Indexer}
    {grab : CancelledGrab} {albumId : Int} {catalogue : List AlbumCatalogueEntry}
    (cancel : (indexer setting).step start (.call (.cancelled grab) created) = some mid)
    (rest : (indexer setting).Run mid between state)
    (check : (indexer setting).step state (.check index now true) = some next)
    (here : state.handlers[index]? = some handler) (looked : handler.pc = .looked catalogue)
    (named : grab.albumId = some albumId) (stored : 0 < albumId ∧ albumId < 2 ^ 63)
    (resolves : resolved setting catalogue handler.request = some albumId)
    (kept : ∀ action ∈ between, action.clears ≠ some albumId)
    (soon : now < created + defaultAlbumHoldTtlSec) :
    next.handlers[index]? = some { handler with pc := .suppressed albumId } := by
  have guarded : (indexer setting).RunWhere (fun _ action => action.clears ≠ some albumId) mid
      between state := by
    apply rest.imp
    intro action listed _ _
    exact kept action listed
  obtain ⟨_, expiry, deadline, ahead⟩ : HeldUntil albumId created state := by
    apply guarded.preserves (HeldUntil albumId created)
    · intro _ _ _ held allowed stepped
      exact held.step allowed stepped
    · exact heldUntil_of_cancelled named stored cancel
  have held : state.holds.isAlbumHeld albumId now = true :=
    AlbumHolds.isAlbumHeld_iff.mpr ⟨expiry, deadline, lt_of_lt_of_le soon ahead⟩
  cases Indexer.moves_of_step check with
  | check order there again =>
      cases here.symm.trans there
      cases looked.symm.trans again
      have nonempty : catalogue ≠ [] := by
        rintro rfl
        rw [resolved_nil] at resolves
        cases resolves
      have verdict : (suppressedAlbumId setting catalogue handler.request fun albumId =>
          true && state.holds.isAlbumHeld albumId now) = some albumId :=
        suppressedAlbumId_eq_some.mpr ⟨nonempty, resolves, held⟩
      rw [verdict]
      exact List.getElem?_set_self (List.getElem?_eq_some_iff.mp here).1

end History

/-! ### A search after a removal -/

/-- A setting for texts in lower case. -/
def plainSetting : Setting where
  unicode := plainUnicode
  allowQFallback := false
  dumps _ := "{}"
  repr _ := []

/-- A removed download of an album. -/
def removedGrab (albumId : Int) : CancelledGrab where
  jid := "removed"
  row := .backend
    { jid := "removed", sourceType := "sab_usenet", backendJobId := none, category := "music"
      state := .downloading, targetAlbumId := some albumId, releaseTitle := none, createdAt := 0
      updatedAt := 0 }
  entry := {}
  queue := none

/-- A search for an album of one artist. -/
def searchFor (album : String) : SearchRequest where
  q := "a " ++ album
  artist := "a"
  album := album
  year := []

/-- Lidarr has two albums. -/
def albumRows : List AlbumRow :=
  [{ albumId := some 1, artist := ['a'], album := ['b'] },
    { albumId := some 2, artist := ['a'], album := ['c'] }]

/-- Downloads of both albums are removed and the hold of the second one is cleared, while a
search for each goes on. -/
def searchedLog : List Action :=
  [.call (.cancelled (removedGrab 2)) 0, .call (.cancelled (removedGrab 1)) 0,
    .arrive (searchFor "c") 1, .arrive (searchFor "b") 1, .read 1 (some albumRows) 1,
    .read 0 (some albumRows) 2, .store 1, .call (.cleared 2) 2, .store 0, .check 0 3 true,
    .check 1 4 true]

/-- What its first steps come to. -/
def searched (steps : Nat) : Indexer :=
  ((indexer plainSetting).exec (Indexer.initial 0) (searchedLog.take steps)).getD
    (Indexer.initial 0)

/-- The search for the album that is held no longer gets through. -/
theorem explained_of_run_removed :
    Explained plainSetting searchedLog 1 ⟨searchFor "b", none, 1, .suppressed 1⟩ ∧
      Explained plainSetting searchedLog 0 ⟨searchFor "c", none, 1, .passed⟩ := by
  have run : (indexer plainSetting).Run (Indexer.initial 0) searchedLog (searched 11) :=
    Machine.run_of_exec rfl
  constructor
  · exact explained_of_run run (by with_unfolding_all rfl)
  · exact explained_of_run run (by with_unfolding_all rfl)

theorem suppressed_of_cancelled_removed :
    (searched 11).handlers[1]? = some ⟨searchFor "b", none, 1, .suppressed 1⟩ := by
  have rest : (indexer plainSetting).Run (searched 2) ((searchedLog.drop 2).take 8)
      (searched 10) :=
    Machine.run_of_exec rfl
  have cancel : (indexer plainSetting).step (searched 1)
      (.call (.cancelled (removedGrab 1)) 0) = some (searched 2) := rfl
  have check : (indexer plainSetting).step (searched 10) (.check 1 4 true) =
      some (searched 11) := rfl
  have here : (searched 10).handlers[1]? = some ⟨searchFor "b", none, 1,
      .looked (buildCatalogue plainUnicode albumRows)⟩ := by
    with_unfolding_all rfl
  exact suppressed_of_cancelled cancel rest check here rfl rfl (by decide) (by decide +kernel)
    (by decide) (by norm_num [defaultAlbumHoldTtlSec])

end Mintarr.Newznab
