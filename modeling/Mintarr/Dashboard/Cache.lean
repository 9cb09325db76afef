import Mathlib.Logic.Function.Basic
import Mintarr.Lib.Machine
import Mintarr.Queue.Job

/-!
# The dashboard cache

Calls of `get_or_compute` from any threads, and invalidations.  A call reads the clock, looks
into the cache under the lock, computes outside of it, and stores under it again; every step of a
call may come between any steps of the others.  A state remembers at which step of the run a call
was entered, a computation began and a prefix was invalidated.
-/

namespace Mintarr.Dashboard

open Lib
open Queue (Time)

universe u v

/-- A key: its first element, if that is a string, and the others. -/
structure CacheKey (ρ : Type u) where
  first : Option (List Char)
  rest : ρ
  deriving DecidableEq

/-- `isinstance(k[0], str) and k[0].startswith(prefix)`. -/
def CacheKey.startsWith {ρ : Type u} (key : CacheKey ρ) (start : List Char) : Bool :=
  key.first.any fun text => start.isPrefixOf text

/-- `_MAX_ENTRIES`. -/
def maxEntries : Nat := 200

/-- An entry of `_cache`, and the step at which its computation began. -/
structure CacheEntry (ρ : Type u) (α : Type v) where
  key : CacheKey ρ
  stamp : Time
  value : α
  began : Nat

/-- The arguments of a call, the time it read, and the step at which it was entered. -/
structure CacheCall (ρ : Type u) where
  key : CacheKey ρ
  ttlSec : Time
  now : Time
  entered : Nat

/-- What a call returned, and the step at which the computation of it began. -/
structure CacheAnswer (ρ : Type u) (α : Type v) where
  call : CacheCall ρ
  value : α
  began : Nat

/-- Where a call stands. -/
inductive CachePhase (ρ : Type u) where
  | entered (call : CacheCall ρ)
  | missed (call : CacheCall ρ)
  | computing (call : CacheCall ρ) (began : Nat)
  | ended

/-- An invalidation that has returned, and its step. -/
structure Invalidation where
  start : List Char
  step : Nat

/-- The cache, the calls, and what happened. -/
structure CacheState (ρ : Type u) (α : Type v) where
  entries : List (CacheEntry ρ α) := []
  calls : Nat → Option (CachePhase ρ) := fun _ => none
  clock : Time := 0
  step : Nat := 0
  invalidations : List Invalidation := []
  answers : List (CacheAnswer ρ α) := []

/-- What happens next. -/
inductive CacheEvent (ρ : Type u) (α : Type v) where
  /-- A call reads the clock. -/
  | enter (id : Nat) (key : CacheKey ρ) (ttlSec now : Time)
  /-- It looks into the cache. -/
  | look (id : Nat)
  | compute (id : Nat)
  /-- The computation is done, and its value is stored and returned. -/
  | store (id : Nat) (value : α)
  /-- The computation raises. -/
  | raise (id : Nat)
  | invalidatePrefix (start : List Char)

namespace CacheState

variable {ρ : Type u} {α : Type v} [DecidableEq ρ]

/-! ## The cache -/

/-- `min(_cache, key=...)`: the first of the oldest entries. -/
def oldest : List (CacheEntry ρ α) → Option (CacheEntry ρ α)
  | [] => none
  | entry :: entries =>
      match oldest entries with
      | some other => if other.stamp < entry.stamp then some other else some entry
      | none => some entry

/-- `_cache.pop(oldest)` when the cache is full. -/
def evict (entries : List (CacheEntry ρ α)) : List (CacheEntry ρ α) :=
  if maxEntries ≤ entries.length then
    match oldest entries with
    | some entry => entries.filter fun other => other.key ≠ entry.key
    | none => entries
  else entries

/-- `_cache[key] = value`: in the place of the key, or at the end. -/
def setEntry (entry : CacheEntry ρ α) (entries : List (CacheEntry ρ α)) :
    List (CacheEntry ρ α) :=
  if entries.any fun other => other.key = entry.key then
    entries.map fun other => if other.key = entry.key then entry else other
  else entries ++ [entry]

/-- The fresh entry of a call. -/
def freshEntry (entries : List (CacheEntry ρ α)) (call : CacheCall ρ) :
    Option (CacheEntry ρ α) :=
  (entries.find? fun entry => entry.key = call.key).filter fun entry =>
    call.now - entry.stamp < call.ttlSec

/-! ## The steps -/

/-- A call goes on. -/
def goTo (state : CacheState ρ α) (id : Nat) (phase : CachePhase ρ) : CacheState ρ α :=
  { state with calls := Function.update state.calls id (some phase), step := state.step + 1 }

/-- A call returns. -/
def answer (state : CacheState ρ α) (id : Nat) (given : CacheAnswer ρ α) : CacheState ρ α :=
  { state.goTo id .ended with answers := given :: state.answers }

/-- A call is entered. -/
def enter (state : CacheState ρ α) (id : Nat) (key : CacheKey ρ) (ttlSec now : Time) :
    CacheState ρ α :=
  { state.goTo id (.entered { key, ttlSec, now, entered := state.step }) with clock := now }

/-- A call looks into the cache. -/
def look (state : CacheState ρ α) (id : Nat) (call : CacheCall ρ) : CacheState ρ α :=
  match freshEntry state.entries call with
  | some entry => state.answer id { call, value := entry.value, began := entry.began }
  | none => state.goTo id (.missed call)

/-- A call stores what it computed. -/
def store (state : CacheState ρ α) (id : Nat) (call : CacheCall ρ) (began : Nat) (value : α) :
    CacheState ρ α :=
  { state.answer id { call, value, began } with
    entries := setEntry { key := call.key, stamp := call.now, value, began }
      (evict state.entries) }

/-- `invalidate_prefix`. -/
def invalidatePrefix (state : CacheState ρ α) (start : List Char) : CacheState ρ α :=
  { state with
    entries := state.entries.filter fun entry => !entry.key.startsWith start
    invalidations := { start, step := state.step } :: state.invalidations
    step := state.step + 1 }

/-- Any call may take its next step, and a new one may be entered at any time. -/
def machine : Machine (CacheState ρ α) (CacheEvent ρ α) where
  step state event :=
    match event with
    | .enter id key ttlSec now =>
        if (state.calls id).isNone && state.clock ≤ now then
          some (state.enter id key ttlSec now)
        else none
    | .look id =>
        match state.calls id with
        | some (.entered call) => some (state.look id call)
        | _ => none
    | .compute id =>
        match state.calls id with
        | some (.missed call) => some (state.goTo id (.computing call state.step))
        | _ => none
    | .store id value =>
        match state.calls id with
        | some (.computing call began) => some (state.store id call began value)
        | _ => none
    | .raise id =>
        match state.calls id with
        | some (.computing _ _) => some (state.goTo id .ended)
        | _ => none
    | .invalidatePrefix start => some (state.invalidatePrefix start)

/-- A cache before its first call. -/
def initial (clock : Time) : CacheState ρ α := { clock := clock }

/-! ## What a cache promises -/

/-- An answer to a call that was entered after an invalidation of its key. -/
def CacheAnswer.Current (given : CacheAnswer ρ α) (invalidation : Invalidation) : Prop :=
  given.call.key.startsWith invalidation.start = true → invalidation.step < given.call.entered →
    invalidation.step < given.began

/-- No answer is older than an invalidation before its call, and the cache is bounded. -/
structure Kept (state : CacheState ρ α) : Prop where
  current : ∀ invalidation ∈ state.invalidations, ∀ given ∈ state.answers,
    CacheAnswer.Current given invalidation
  bounded : state.entries.length ≤ maxEntries

/-- A value is stored only if its key was not invalidated since its computation began. -/
def Unspoiled (state : CacheState ρ α) : CacheEvent ρ α → Prop
  | .store id _ => ∀ call began, state.calls id = some (.computing call began) →
      ∀ invalidation ∈ state.invalidations,
        call.key.startsWith invalidation.start = true → invalidation.step < began
  | _ => True

/-! ## The bound -/

theorem length_setEntry (entry : CacheEntry ρ α) (entries : List (CacheEntry ρ α)) :
    (setEntry entry entries).length ≤ entries.length + 1 := by
  rw [setEntry]
  split
  · rw [List.length_map]
    exact Nat.le_succ _
  · rw [List.length_append, List.length_singleton]

omit [DecidableEq ρ] in
theorem oldest_mem {entries : List (CacheEntry ρ α)} {entry : CacheEntry ρ α}
    (found : oldest entries = some entry) : entry ∈ entries := by
  induction entries generalizing entry with
  | nil => cases found
  | cons first entries ih =>
      rw [oldest] at found
      cases rest : oldest entries with
      | none =>
          rw [rest] at found
          cases found
          exact List.mem_cons_self
      | some other =>
          rw [rest] at found
          dsimp only at found
          split at found
          · cases found
            exact List.mem_cons_of_mem _ (ih rest)
          · cases found
            exact List.mem_cons_self

omit [DecidableEq ρ] in
theorem oldest_eq_none {entries : List (CacheEntry ρ α)} (found : oldest entries = none) :
    entries = [] := by
  cases entries with
  | nil => rfl
  | cons first entries =>
      rw [oldest] at found
      cases rest : oldest entries with
      | none =>
          rw [rest] at found
          cases found
      | some other =>
          rw [rest] at found
          dsimp only at found
          split at found
          · cases found
          · cases found

/-- After the eviction there is room. -/
theorem length_evict {entries : List (CacheEntry ρ α)} (bounded : entries.length ≤ maxEntries) :
    (evict entries).length < maxEntries := by
  rw [evict]
  split_ifs with full
  · cases found : oldest entries with
    | none =>
        rw [oldest_eq_none found] at full
        cases full
    | some entry =>
        have dropped : (entries.filter fun other => other.key ≠ entry.key).length <
            entries.length := by
          rw [List.length_filter_lt_length_iff_exists]
          exact ⟨entry, oldest_mem found, by simp⟩
        exact dropped.trans_le bounded
  · exact not_le.mp full

theorem evict_subset (entries : List (CacheEntry ρ α)) : evict entries ⊆ entries := by
  rw [evict]
  split
  · split
    · exact List.filter_subset_self _
    · exact List.Subset.refl _
  · exact List.Subset.refl _

theorem mem_setEntry {entry other : CacheEntry ρ α} {entries : List (CacheEntry ρ α)}
    (stored : other ∈ setEntry entry entries) : other = entry ∨ other ∈ entries := by
  rw [setEntry] at stored
  split at stored
  · obtain ⟨old, listed, rfl⟩ := List.mem_map.mp stored
    split
    · exact Or.inl rfl
    · exact Or.inr listed
  · cases List.mem_append.mp stored with
    | inl listed => exact Or.inr listed
    | inr last => exact Or.inl (List.mem_singleton.mp last)

/-- No step fills the cache beyond its bound. -/
theorem bounded_step {state next : CacheState ρ α} {event : CacheEvent ρ α}
    (bounded : state.entries.length ≤ maxEntries)
    (stepped : machine.step state event = some next) : next.entries.length ≤ maxEntries := by
  cases event with
  | enter id key ttlSec now =>
      simp only [machine] at stepped
      split at stepped
      · cases stepped
        exact bounded
      · cases stepped
  | look id =>
      simp only [machine] at stepped
      split at stepped
      · cases stepped
        rw [look]
        split
        · exact bounded
        · exact bounded
      · cases stepped
  | compute id =>
      simp only [machine] at stepped
      split at stepped
      · cases stepped
        exact bounded
      · cases stepped
  | store id value =>
      simp only [machine] at stepped
      split at stepped
      · cases stepped
        have room := length_evict bounded
        exact (length_setEntry _ _).trans room
      · cases stepped
  | raise id =>
      simp only [machine] at stepped
      split at stepped
      · cases stepped
        exact bounded
      · cases stepped
  | invalidatePrefix start =>
      cases stepped
      exact (List.length_filter_le _ _).trans bounded

/-- The cache is bounded in every run. -/
theorem bounded_of_run {guard : CacheState ρ α → CacheEvent ρ α → Prop} {clock : Time}
    {events : List (CacheEvent ρ α)} {finish : CacheState ρ α}
    (run : machine.RunWhere guard (initial clock) events finish) :
    finish.entries.length ≤ maxEntries := by
  apply run.preserves fun state => state.entries.length ≤ maxEntries
  · intro state event next bounded _ stepped
    exact bounded_step bounded stepped
  · exact Nat.zero_le _

/-! ## The invariant -/

/-- A call is entered before it computes, and both are past. -/
def CachePhase.Past (step : Nat) : CachePhase ρ → Prop
  | .entered call => call.entered < step
  | .missed call => call.entered < step
  | .computing call began => call.entered < began ∧ began < step
  | .ended => True

omit [DecidableEq ρ] in
theorem CachePhase.Past.mono {phase : CachePhase ρ} {step later : Nat}
    (past : CachePhase.Past step phase) (order : step ≤ later) :
    CachePhase.Past later phase := by
  cases phase with
  | entered call => exact Nat.lt_of_lt_of_le past order
  | missed call => exact Nat.lt_of_lt_of_le past order
  | computing call began => exact ⟨past.1, Nat.lt_of_lt_of_le past.2 order⟩
  | ended => trivial

/-- No entry is older than an invalidation of its key. -/
structure Sound (state : CacheState ρ α) : Prop where
  current : ∀ invalidation ∈ state.invalidations, ∀ given ∈ state.answers,
    CacheAnswer.Current given invalidation
  fresh : ∀ invalidation ∈ state.invalidations, ∀ entry ∈ state.entries,
    entry.key.startsWith invalidation.start = true → invalidation.step < entry.began
  phases : ∀ id phase, state.calls id = some phase → CachePhase.Past state.step phase
  answered : ∀ given ∈ state.answers, given.call.entered < state.step

variable {state : CacheState ρ α}

omit [DecidableEq ρ] in
theorem Sound.goTo (sound : state.Sound) (id : Nat) {phase : CachePhase ρ}
    (past : CachePhase.Past (state.step + 1) phase) : (state.goTo id phase).Sound where
  current := sound.current
  fresh := sound.fresh
  phases := by
    intro other found calls
    simp only [CacheState.goTo, Function.update_apply] at calls
    split_ifs at calls
    · cases calls
      exact past
    · exact (sound.phases other found calls).mono (Nat.le_succ _)
  answered := by
    intro given listed
    exact Nat.lt_succ_of_lt (sound.answered given listed)

omit [DecidableEq ρ] in
theorem Sound.answer (sound : state.Sound) (id : Nat) {given : CacheAnswer ρ α}
    (past : given.call.entered < state.step)
    (current : ∀ invalidation ∈ state.invalidations, CacheAnswer.Current given invalidation) :
    (state.answer id given).Sound where
  current := by
    intro invalidation returned other listed
    cases List.mem_cons.mp listed with
    | inl last => rw [last]; exact current invalidation returned
    | inr earlier => exact sound.current invalidation returned other earlier
  fresh := sound.fresh
  phases := by
    have ended : CachePhase.Past (state.step + 1) (.ended : CachePhase ρ) := trivial
    exact (sound.goTo id ended).phases
  answered := by
    intro other listed
    cases List.mem_cons.mp listed with
    | inl last => rw [last]; exact Nat.lt_succ_of_lt past
    | inr earlier => exact Nat.lt_succ_of_lt (sound.answered other earlier)

/-- What the cache has for a call is newer than every invalidation of its key. -/
theorem Sound.look (sound : state.Sound) {id : Nat} {call : CacheCall ρ}
    (entered : state.calls id = some (.entered call)) : (state.look id call).Sound := by
  have past : call.entered < state.step := sound.phases id _ entered
  rw [CacheState.look]
  cases found : freshEntry state.entries call with
  | none =>
      have missed : CachePhase.Past (state.step + 1) (.missed call) := Nat.lt_succ_of_lt past
      exact sound.goTo id missed
  | some entry =>
      apply sound.answer id past
      intro invalidation returned named _
      have stored := (Option.filter_eq_some_iff.mp found).1
      have same : entry.key = call.key := by simpa using List.find?_some stored
      apply sound.fresh invalidation returned entry (List.mem_of_find?_eq_some stored)
      rw [same]
      exact named

theorem Sound.store (sound : state.Sound) {id : Nat} {call : CacheCall ρ} {began : Nat}
    (computing : state.calls id = some (.computing call began)) (value : α)
    (unspoiled : ∀ invalidation ∈ state.invalidations,
      call.key.startsWith invalidation.start = true → invalidation.step < began) :
    (state.store id call began value).Sound := by
  obtain ⟨order, past⟩ := sound.phases id _ computing
  have answered := @Sound.answer _ _ _ sound id { call, value, began } (order.trans past)
    fun invalidation _ _ before => before.trans order
  constructor
  · exact answered.current
  · intro invalidation returned entry stored named
    cases mem_setEntry stored with
    | inl last =>
        rw [last]
        apply unspoiled invalidation returned
        rw [last] at named
        exact named
    | inr earlier =>
        exact sound.fresh invalidation returned entry (evict_subset _ earlier) named
  · exact answered.phases
  · exact answered.answered

omit [DecidableEq ρ] in
theorem Sound.invalidatePrefix (sound : state.Sound) (start : List Char) :
    (state.invalidatePrefix start).Sound := by
  constructor
  · intro invalidation returned given listed named order
    cases List.mem_cons.mp returned with
    | inl last =>
        -- no call has been entered since
        rw [last] at order
        exact absurd (sound.answered given listed) (Nat.lt_asymm order)
    | inr earlier => exact sound.current invalidation earlier given listed named order
  · intro invalidation returned entry stored named
    obtain ⟨stored, other⟩ := List.mem_filter.mp stored
    cases List.mem_cons.mp returned with
    | inl last =>
        rw [last] at named
        rw [named] at other
        cases other
    | inr earlier => exact sound.fresh invalidation earlier entry stored named
  · intro id phase calls
    exact (sound.phases id phase calls).mono (Nat.le_succ _)
  · intro given listed
    exact Nat.lt_succ_of_lt (sound.answered given listed)

theorem Sound.step (sound : state.Sound) {event : CacheEvent ρ α} {next : CacheState ρ α}
    (unspoiled : state.Unspoiled event) (stepped : machine.step state event = some next) :
    next.Sound := by
  cases event with
  | enter id key ttlSec now =>
      simp only [machine] at stepped
      split at stepped
      · cases stepped
        have past : CachePhase.Past (state.step + 1)
            (.entered { key, ttlSec, now, entered := state.step }) := Nat.lt_succ_self _
        have entered := sound.goTo id past
        exact ⟨entered.current, entered.fresh, entered.phases, entered.answered⟩
      · cases stepped
  | look id =>
      simp only [machine] at stepped
      split at stepped
      · next call entered =>
          cases stepped
          exact sound.look entered
      · cases stepped
  | compute id =>
      simp only [machine] at stepped
      split at stepped
      · next call missed =>
          cases stepped
          have past : CachePhase.Past (state.step + 1) (.computing call state.step) :=
            ⟨sound.phases id _ missed, Nat.lt_succ_self _⟩
          exact sound.goTo id past
      · cases stepped
  | store id value =>
      simp only [machine] at stepped
      split at stepped
      · next call began computing =>
          cases stepped
          exact sound.store computing value (unspoiled call began computing)
      · cases stepped
  | raise id =>
      simp only [machine] at stepped
      split at stepped
      · cases stepped
        have ended : CachePhase.Past (state.step + 1) (.ended : CachePhase ρ) := trivial
        exact sound.goTo id ended
      · cases stepped
  | invalidatePrefix start =>
      cases stepped
      exact sound.invalidatePrefix start

omit [DecidableEq ρ] in
theorem sound_initial (clock : Time) : (initial clock : CacheState ρ α).Sound where
  current := by
    intro invalidation returned
    cases returned
  fresh := by
    intro invalidation returned
    cases returned
  phases := by
    intro id phase calls
    cases calls
  answered := by
    intro given listed
    cases listed

/-- While no spoiled value is stored the cache keeps its promise. -/
theorem kept_of_unspoiled {clock : Time} {events : List (CacheEvent ρ α)}
    {finish : CacheState ρ α}
    (run : machine.RunWhere Unspoiled (initial clock) events finish) : finish.Kept := by
  have sound : finish.Sound := by
    apply run.preserves Sound _ (sound_initial clock)
    intro state event next sound unspoiled stepped
    exact sound.step unspoiled stepped
  exact ⟨sound.current, bounded_of_run run⟩

/-! ### A summary that is computed while it is invalidated -/

/-- `("summary",)`. -/
def summaryKey : CacheKey Unit := { first := some "summary".toList, rest := () }

/-- A computation is invalidated and raises, the next call stores its value, and the last call
finds it. -/
def recomputed : List (CacheEvent Unit Nat) :=
  [.enter 0 summaryKey 10 0, .look 0, .compute 0, .invalidatePrefix "summary".toList, .raise 0,
    .enter 1 summaryKey 10 1, .look 1, .compute 1, .store 1 7, .enter 2 summaryKey 10 2, .look 2]

/-- The invalidation comes while the value is computed, and a later call finds the value. -/
def invalidatedFirst : List (CacheEvent Unit Nat) :=
  [.enter 0 summaryKey 10 0, .look 0, .compute 0, .invalidatePrefix "summary".toList, .store 0 5,
    .enter 1 summaryKey 10 1, .look 1]

/-- The state in which the last call looks into the cache. -/
def recomputedCache : CacheState Unit Nat :=
  ((((((((initial 0).enter 0 summaryKey 10 0).goTo 0
    (.missed { key := summaryKey, ttlSec := 10, now := 0, entered := 0 })).goTo 0
    (.computing { key := summaryKey, ttlSec := 10, now := 0, entered := 0 } 2)).invalidatePrefix
    "summary".toList).goTo 0 .ended).enter 1 summaryKey 10 1).goTo 1
    (.missed { key := summaryKey, ttlSec := 10, now := 1, entered := 5 })).goTo 1
    (.computing { key := summaryKey, ttlSec := 10, now := 1, entered := 5 } 7)
    |>.store 1 { key := summaryKey, ttlSec := 10, now := 1, entered := 5 } 7 7
    |>.enter 2 summaryKey 10 2

def lastCall : CacheCall Unit := { key := summaryKey, ttlSec := 10, now := 2, entered := 9 }

theorem freshEntry_recomputedCache : freshEntry recomputedCache.entries lastCall =
    some { key := summaryKey, stamp := 1, value := 7, began := 7 } := by
  have entries : recomputedCache.entries =
      [{ key := summaryKey, stamp := 1, value := 7, began := 7 }] := rfl
  rw [entries]
  norm_num [freshEntry, lastCall, Option.filter]

theorem kept_recomputed :
    ∃ finish, machine.RunWhere Unspoiled (initial 0) recomputed finish ∧ finish.Kept ∧
      finish.answers.map CacheAnswer.value = [7, 7] := by
  have run : machine.RunWhere Unspoiled (initial 0) recomputed
      (recomputedCache.look 2 lastCall) := by
    refine .cons trivial rfl (.cons trivial rfl (.cons trivial rfl (.cons trivial rfl
      (.cons trivial rfl (.cons trivial rfl (.cons trivial rfl (.cons trivial rfl (.cons ?_ rfl
      (.cons trivial rfl (.cons trivial rfl (.nil _)))))))))))
    intro call began computing invalidation returned _
    cases computing
    cases List.mem_singleton.mp returned
    decide
  refine ⟨_, run, kept_of_unspoiled run, ?_⟩
  rw [look, freshEntry_recomputedCache]
  rfl

/-- The calls of the run. -/
def earlyCall : CacheCall Unit := { key := summaryKey, ttlSec := 10, now := 0, entered := 0 }

def lateCall : CacheCall Unit := { key := summaryKey, ttlSec := 10, now := 1, entered := 5 }

/-- The state in which the later call looks into the cache. -/
def spoiledCache : CacheState Unit Nat :=
  (((((initial 0).enter 0 summaryKey 10 0).goTo 0 (.missed earlyCall)).goTo 0
    (.computing earlyCall 2)).invalidatePrefix "summary".toList).store 0 earlyCall 2 5
    |>.enter 1 summaryKey 10 1

theorem freshEntry_spoiledCache : freshEntry spoiledCache.entries lateCall =
    some { key := summaryKey, stamp := 0, value := 5, began := 2 } := by
  have entries : spoiledCache.entries =
      [{ key := summaryKey, stamp := 0, value := 5, began := 2 }] := rfl
  rw [entries]
  norm_num [freshEntry, lateCall, Option.filter]

theorem not_kept_invalidatedFirst :
    ∃ finish, machine.Run (initial 0) invalidatedFirst finish ∧ ¬ finish.Kept := by
  have executed : machine.exec (initial 0) invalidatedFirst = some (spoiledCache.look 1 lateCall) :=
    rfl
  refine ⟨_, Machine.run_of_exec executed, ?_⟩
  rw [look, freshEntry_spoiledCache]
  intro kept
  have current := kept.current { start := "summary".toList, step := 3 } List.mem_cons_self
    { call := lateCall, value := 5, began := 2 } List.mem_cons_self
  have late := current (by decide) (by decide)
  exact absurd late (by decide)

end CacheState

end Mintarr.Dashboard
