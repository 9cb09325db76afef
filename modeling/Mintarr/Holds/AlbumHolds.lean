import Mathlib.Data.List.Induction
import Mathlib.Data.List.Sort
import Mintarr.Lib.Characters
import Mintarr.Lib.Machine
import Mintarr.Lib.Registry
import Mintarr.Queue.Job

/-!
# Album holds

A hold keeps the candidates of an album out of searches until it runs out or is cleared.  The
table `album_holds` is a timed map: an album is held until a deadline.
-/

namespace Mintarr.Holds

open Lib
open Queue (Time)

/-! ## The table -/

/-- A row of `album_holds`. -/
structure AlbumHold where
  albumId : Int
  reason : String
  createdAt : Time
  updatedAt : Time
  expiresAt : Time
  sourceJid : Option String := none
  sourceType : Option String := none
  sourceId : Option String := none
  actor : Option String := none
  clearedAt : Option Time := none
  clearedBy : Option String := none
  detailsJson : String := "{}"
  deriving DecidableEq

/-- The table. -/
abbrev AlbumHolds := Registry AlbumHold AlbumHold.albumId

/-- The arguments of `create_album_hold`; the details are as `json.dumps` gives them. -/
structure HoldRequest where
  albumId : Int
  reason : String
  expiresAt : Option Time := none
  ttlSeconds : Option Time := none
  sourceJid : Option String := none
  sourceType : Option String := none
  sourceId : Option String := none
  actor : Option String := none
  detailsJson : String := "{}"

/-- `DEFAULT_ALBUM_HOLD_TTL_SEC`. -/
def defaultAlbumHoldTtlSec : Time := 3600

namespace HoldRequest

/-- When the hold runs out. -/
def expiry (request : HoldRequest) (now : Time) : Time :=
  request.expiresAt.getD (now + max (request.ttlSeconds.getD defaultAlbumHoldTtlSec) 0)

/-- `str(reason or "").strip()`. -/
def reasonText (request : HoldRequest) : List Char :=
  Text.strip Text.isSpace request.reason.toList

/-- The hold can be stored: SQLite has no larger integers. -/
def valid (request : HoldRequest) : Bool :=
  0 < request.albumId && request.albumId < 2 ^ 63 && request.reasonText ≠ []

/-- The row of a new hold. -/
def row (request : HoldRequest) (now : Time) : AlbumHold where
  albumId := request.albumId
  reason := String.ofList request.reasonText
  createdAt := now
  updatedAt := now
  expiresAt := request.expiry now
  sourceJid := request.sourceJid
  sourceType := request.sourceType
  sourceId := request.sourceId
  actor := request.actor
  detailsJson := request.detailsJson

/-- The row of a hold that was there before. -/
def renew (request : HoldRequest) (now : Time) (hold : AlbumHold) : AlbumHold :=
  { request.row now with albumId := hold.albumId, createdAt := hold.createdAt }

theorem renew_albumId (request : HoldRequest) (now : Time) (hold : AlbumHold) :
    (request.renew now hold).albumId = hold.albumId := rfl

end HoldRequest

namespace AlbumHolds

/-- `create_album_hold`. -/
def createAlbumHold (holds : AlbumHolds) (request : HoldRequest) (now : Time) :
    AlbumHolds × Option AlbumHold :=
  if request.valid then
    let stored := match holds.find? request.albumId with
      | some _ => holds.modify request.albumId (request.renew now) (request.renew_albumId now)
      | none => holds.add (request.row now)
    (stored, stored.find? request.albumId)
  else (holds, none)

/-- `cleared_at IS NULL AND expires_at > now`. -/
def isActive (now : Time) (hold : AlbumHold) : Bool :=
  hold.clearedAt = none && now < hold.expiresAt

/-- `get_album_hold`. -/
def getAlbumHold (holds : AlbumHolds) (albumId : Int) (includeInactive : Bool) (now : Time) :
    Option AlbumHold :=
  (holds.find? albumId).filter fun hold => includeInactive || isActive now hold

/-- `is_album_held`. -/
def isAlbumHeld (holds : AlbumHolds) (albumId : Int) (now : Time) : Bool :=
  (holds.getAlbumHold albumId false now).isSome

/-- `LIMIT limit OFFSET offset`: a negative limit is none, and a negative offset is zero. -/
def page (limit offset : Int) (rows : List AlbumHold) : List AlbumHold :=
  let rest := rows.drop offset.toNat
  if limit < 0 then rest else rest.take limit.toNat

/-- `list_album_holds`: the total, and a page of the rows, the one that was changed last first;
the order of rows changed at one time is left open by the query. -/
def listAlbumHolds (holds : AlbumHolds) (activeOnly : Bool) (limit offset : Int) (now : Time) :
    Nat × List AlbumHold :=
  let selected := holds.rows.filter fun hold => !activeOnly || isActive now hold
  (selected.length,
    page limit offset (selected.mergeSort fun hold other => other.updatedAt ≤ hold.updatedAt))

/-- Mark a hold as cleared. -/
def clear (actor : Option String) (now : Time) (hold : AlbumHold) : AlbumHold :=
  if hold.clearedAt = none then
    { hold with clearedAt := some now, clearedBy := actor, updatedAt := now }
  else hold

theorem clear_albumId (actor : Option String) (now : Time) (hold : AlbumHold) :
    (clear actor now hold).albumId = hold.albumId := by
  rw [clear]
  split
  · rfl
  · rfl

/-- `clear_album_hold`. -/
def clearAlbumHold (holds : AlbumHolds) (albumId : Int) (actor : Option String) (now : Time) :
    AlbumHolds × Bool :=
  (holds.modify albumId (clear actor now) (clear_albumId actor now),
    (holds.find? albumId).any fun hold => hold.clearedAt = none)

/-- Clear a hold that has run out. -/
def expire (now : Time) (hold : AlbumHold) : AlbumHold :=
  if hold.expiresAt ≤ now then clear (some "auto_expire") now hold else hold

theorem expire_albumId (now : Time) (hold : AlbumHold) :
    (expire now hold).albumId = hold.albumId := by
  rw [expire]
  split
  · exact clear_albumId _ _ hold
  · rfl

/-- `expire_album_holds`. -/
def expireAlbumHolds (holds : AlbumHolds) (now : Time) : AlbumHolds × Nat :=
  (holds.map (expire now) (expire_albumId now),
    (holds.rows.filter fun hold => hold.clearedAt = none && hold.expiresAt ≤ now).length)

/-! ## What one call does -/

/-- Until when a hold is in force. -/
def holdDeadline (hold : AlbumHold) : Option Time :=
  if hold.clearedAt = none then some hold.expiresAt else none

section Calls

variable {holds : AlbumHolds}

/-- Until when an album is held. -/
def deadline (holds : AlbumHolds) (albumId : Int) : Option Time :=
  (holds.find? albumId).bind holdDeadline

theorem deadline_eq_some {albumId : Int} {expiry : Time} :
    holds.deadline albumId = some expiry ↔
      ∃ hold, holds.find? albumId = some hold ∧ hold.clearedAt = none ∧
        hold.expiresAt = expiry := by
  rw [deadline, Option.bind_eq_some_iff]
  apply exists_congr
  intro hold
  simp [holdDeadline]

/-- A new hold holds its album until it runs out, and no other album. -/
theorem deadline_createAlbumHold {request : HoldRequest} (now : Time)
    (valid : request.valid = true) (albumId : Int) :
    (holds.createAlbumHold request now).1.deadline albumId =
      if albumId = request.albumId then some (request.expiry now)
      else holds.deadline albumId := by
  rw [createAlbumHold, if_pos valid]
  cases found : holds.find? request.albumId with
  | none =>
      have added := @Registry.find?_add _ _ AlbumHold.albumId _ holds (request.row now) found
        albumId
      rw [deadline, added]
      change _ = if albumId = (request.row now).albumId then _ else _
      split_ifs
      · rfl
      · rfl
  | some hold =>
      rw [deadline, Registry.find?_modify]
      split_ifs with same
      · rw [same, found]
        rfl
      · rfl

theorem deadline_of_invalid {request : HoldRequest} {now : Time}
    (invalid : request.valid = false) :
    (holds.createAlbumHold request now).1 = holds := by
  rw [createAlbumHold, invalid]
  rfl

theorem holdDeadline_clear (actor : Option String) (now : Time) (hold : AlbumHold) :
    holdDeadline (clear actor now hold) = none := by
  by_cases live : hold.clearedAt = none
  · simp [holdDeadline, clear, live]
  · simp [holdDeadline, clear, live]

theorem deadline_clearAlbumHold (albumId : Int) (actor : Option String) (now : Time)
    (other : Int) : (holds.clearAlbumHold albumId actor now).1.deadline other =
      if other = albumId then none else holds.deadline other := by
  rw [deadline, clearAlbumHold, Registry.find?_modify]
  split_ifs
  · cases holds.find? other with
    | none => rfl
    | some hold => exact holdDeadline_clear actor now hold
  · rfl

/-- The sweeper clears a hold that has run out. -/
theorem holdDeadline_expire (now : Time) (hold : AlbumHold) :
    holdDeadline (expire now hold) = (holdDeadline hold).filter fun expiry => now < expiry := by
  by_cases past : hold.expiresAt ≤ now
  · rw [expire, if_pos past, holdDeadline_clear, holdDeadline]
    split_ifs
    · simp [Option.filter, past]
    · rfl
  · rw [expire, if_neg past, holdDeadline]
    split_ifs
    · simp [Option.filter, not_le.mp past]
    · rfl

theorem deadline_expireAlbumHolds (now : Time) (albumId : Int) :
    (holds.expireAlbumHolds now).1.deadline albumId =
      (holds.deadline albumId).filter fun expiry => now < expiry := by
  rw [deadline, deadline, expireAlbumHolds, Registry.find?_map]
  cases holds.find? albumId with
  | none => rfl
  | some hold => exact holdDeadline_expire now hold

/-- A deadline that has not come. -/
def Live (now : Time) (deadline : Option Time) : Prop :=
  ∃ expiry, deadline = some expiry ∧ now < expiry

theorem live_holdDeadline {now : Time} {hold : AlbumHold} :
    Live now (holdDeadline hold) ↔ isActive now hold = true := by
  by_cases live : hold.clearedAt = none
  · simp [Live, holdDeadline, isActive, live]
  · simp [Live, holdDeadline, isActive, live]

/-- What is live after a sweep is what was live before it. -/
theorem live_filter {now later : Time} (order : now ≤ later) {deadline : Option Time} :
    Live later (deadline.filter fun expiry => now < expiry) ↔ Live later deadline := by
  cases deadline with
  | none => rfl
  | some expiry =>
      by_cases ahead : now < expiry
      · simp [Option.filter, ahead]
      · simp [Live, Option.filter, ahead, (not_lt.mp ahead).trans order]

theorem isActive_expire {now later : Time} (order : now ≤ later) (hold : AlbumHold) :
    isActive later (expire now hold) = isActive later hold := by
  rw [Bool.eq_iff_iff, ← live_holdDeadline, ← live_holdDeadline, holdDeadline_expire,
    live_filter order]

/-- The sweeper leaves a hold in force as it is. -/
theorem expire_of_isActive {now later : Time} (order : now ≤ later) {hold : AlbumHold}
    (active : isActive later hold = true) : expire now hold = hold := by
  rw [isActive, Bool.and_eq_true, decide_eq_true_eq, decide_eq_true_eq] at active
  rw [expire, if_neg (not_le.mpr (order.trans_lt active.2))]

theorem isAlbumHeld_iff {albumId : Int} {now : Time} :
    holds.isAlbumHeld albumId now = true ↔ Live now (holds.deadline albumId) := by
  rw [isAlbumHeld, getAlbumHold, deadline]
  cases holds.find? albumId with
  | none => simp [Live]
  | some hold =>
      rw [Option.bind_some, live_holdDeadline]
      cases active : isActive now hold with
      | true => simp [Option.filter, active]
      | false => simp [Option.filter, active]

/-- The answer of a clear tells whether there is a deadline, past or not. -/
theorem clearAlbumHold_answer {albumId : Int} {actor : Option String} {now : Time} :
    (holds.clearAlbumHold albumId actor now).2 = (holds.deadline albumId).isSome := by
  rw [clearAlbumHold, deadline]
  cases holds.find? albumId with
  | none => rfl
  | some hold =>
      by_cases live : hold.clearedAt = none
      · simp [holdDeadline, live]
      · simp [holdDeadline, live]

/-- The holds in force, the one that was changed last first. -/
def activeHolds (holds : AlbumHolds) (now : Time) : List AlbumHold :=
  (holds.rows.filter (isActive now)).mergeSort fun hold other => other.updatedAt ≤ hold.updatedAt

theorem listAlbumHolds_active (limit offset : Int) (now : Time) :
    holds.listAlbumHolds true limit offset now =
      ((holds.activeHolds now).length, page limit offset (holds.activeHolds now)) := by
  simp [listAlbumHolds, activeHolds]

theorem mem_activeHolds {now : Time} {hold : AlbumHold} :
    hold ∈ holds.activeHolds now ↔ hold ∈ holds.rows ∧ isActive now hold = true := by
  rw [activeHolds, List.mem_mergeSort, List.mem_filter]

theorem nodup_activeHolds (now : Time) :
    ((holds.activeHolds now).map AlbumHold.albumId).Nodup := by
  have perm := (List.mergeSort_perm (holds.rows.filter (isActive now))
    fun hold other => decide (other.updatedAt ≤ hold.updatedAt)).map AlbumHold.albumId
  rw [activeHolds, perm.nodup_iff]
  exact holds.distinct.sublist (List.filter_sublist.map _)

theorem mem_albumIds_activeHolds {albumId : Int} {now : Time} :
    albumId ∈ (holds.activeHolds now).map AlbumHold.albumId ↔
      Live now (holds.deadline albumId) := by
  rw [List.mem_map]
  constructor
  · intro listed
    obtain ⟨hold, active, named⟩ := listed
    obtain ⟨stored, active⟩ := mem_activeHolds.mp active
    rw [deadline, Registry.find?_eq_some.mpr ⟨stored, named⟩, Option.bind_some]
    exact live_holdDeadline.mpr active
  · intro live
    rw [deadline] at live
    cases found : holds.find? albumId with
    | none =>
        rw [found] at live
        obtain ⟨_, absent, _⟩ := live
        cases absent
    | some hold =>
        rw [found] at live
        obtain ⟨stored, named⟩ := Registry.find?_eq_some.mp found
        exact ⟨hold, mem_activeHolds.mpr ⟨stored, live_holdDeadline.mp live⟩, named⟩

/-- A sweep does not change what is listed later. -/
theorem activeHolds_expireAlbumHolds {now later : Time} (order : now ≤ later) :
    (holds.expireAlbumHolds now).1.activeHolds later = holds.activeHolds later := by
  have same : isActive later ∘ expire now = isActive later := by
    funext hold
    exact isActive_expire order hold
  have kept : (holds.rows.filter (isActive later)).map (expire now) =
      holds.rows.filter (isActive later) := by
    rw [List.map_congr_left (g := id), List.map_id]
    intro hold listed
    exact expire_of_isActive order (List.mem_filter.mp listed).2
  rw [activeHolds, expireAlbumHolds, Registry.map, List.filter_map, same, kept, activeHolds]

/-- A sweep does not change what is answered later. -/
theorem getAlbumHold_expireAlbumHolds {now later : Time} (order : now ≤ later) (albumId : Int) :
    (holds.expireAlbumHolds now).1.getAlbumHold albumId false later =
      holds.getAlbumHold albumId false later := by
  rw [getAlbumHold, expireAlbumHolds, Registry.find?_map, getAlbumHold]
  cases holds.find? albumId with
  | none => rfl
  | some hold =>
      have same := isActive_expire order hold
      cases active : isActive later hold with
      | true => simp [Option.filter, active, expire_of_isActive order active]
      | false =>
          rw [active] at same
          simp [Option.filter, active, same]

end Calls

end AlbumHolds

/-! ## Runs -/

/-- A call that changes the table. -/
inductive Call where
  | create (request : HoldRequest)
  | clear (albumId : Int) (actor : Option String)
  | expire

/-- A call and its time. -/
structure Event where
  call : Call
  now : Time

/-- The table, and the time of the last call. -/
structure Site where
  holds : AlbumHolds
  clock : Time

/-- What a call leaves. -/
def Call.apply (call : Call) (holds : AlbumHolds) (now : Time) : AlbumHolds :=
  match call with
  | .create request => (holds.createAlbumHold request now).1
  | .clear albumId actor => (holds.clearAlbumHold albumId actor now).1
  | .expire => (holds.expireAlbumHolds now).1

/-- Calls come one after the other, and time does not run backwards. -/
def site : Machine Site Event where
  step state event :=
    if state.clock ≤ event.now then
      some { holds := event.call.apply state.holds event.now, clock := event.now }
    else none

/-- The call creates a hold of the album. -/
def Call.creates (albumId : Int) : Call → Bool
  | .create request => request.valid && request.albumId = albumId
  | _ => false

/-- The call creates or clears a hold of the album. -/
def Call.concerns (albumId : Int) : Call → Bool
  | .create request => request.valid && request.albumId = albumId
  | .clear cleared _ => cleared = albumId
  | .expire => false

/-- The last call that concerns the album creates a hold that is still in force. -/
def Held (events : List Event) (albumId : Int) (now : Time) : Prop :=
  ∃ before request created after,
    events = before ++ { call := .create request, now := created } :: after ∧
      (Call.create request).creates albumId = true ∧ now < request.expiry created ∧
      ∀ event ∈ after, event.call.concerns albumId = false

/-- Until when each album is held. -/
abbrev Deadlines := Int → Option Time

/-- The deadlines after a call. -/
def record (deadlines : Deadlines) (event : Event) : Deadlines :=
  match event.call with
  | .create request =>
      if request.valid then
        Function.update deadlines request.albumId (some (request.expiry event.now))
      else deadlines
  | .clear albumId _ => Function.update deadlines albumId none
  | .expire => deadlines

/-- The deadlines after the calls of a run. -/
def recorded (events : List Event) : Deadlines := events.foldl record fun _ => none

theorem record_of_not_concerns {event : Event} {albumId : Int}
    (other : event.call.concerns albumId = false) (deadlines : Deadlines) :
    record deadlines event albumId = deadlines albumId := by
  cases shape : event.call with
  | create request =>
      rw [shape, Call.concerns, Bool.and_eq_false_imp] at other
      rw [record, shape]
      dsimp only
      split_ifs with valid
      · have differs := of_decide_eq_false (other valid)
        rw [Function.update_of_ne (Ne.symm differs)]
      · rfl
  | clear cleared actor =>
      rw [shape, Call.concerns] at other
      rw [record, shape]
      exact Function.update_of_ne (Ne.symm (of_decide_eq_false other)) _ _
  | expire => rw [record, shape]

theorem record_of_creates {request : HoldRequest} {albumId : Int}
    (creates : (Call.create request).creates albumId = true) (created : Time)
    (deadlines : Deadlines) :
    record deadlines { call := .create request, now := created } albumId =
      some (request.expiry created) := by
  rw [Call.creates, Bool.and_eq_true, decide_eq_true_eq] at creates
  obtain ⟨valid, rfl⟩ := creates
  rw [record]
  dsimp only
  rw [if_pos valid, Function.update_self]

theorem recorded_append (events : List Event) (event : Event) :
    recorded (events ++ [event]) = record (recorded events) event := by
  rw [recorded, List.foldl_append]
  rfl

/-- Which albums are held after one more call. -/
theorem held_append {events : List Event} {event : Event} {albumId : Int} {now : Time} :
    Held (events ++ [event]) albumId now ↔
      (∃ request, event.call = .create request ∧ event.call.creates albumId = true ∧
        now < request.expiry event.now) ∨
      event.call.concerns albumId = false ∧ Held events albumId now := by
  constructor
  · intro held
    obtain ⟨before, request, created, after, split, creates, ahead, others⟩ := held
    cases List.eq_nil_or_concat after with
    | inl none_after =>
        rw [none_after] at split
        have last := (List.append_inj' split rfl).2
        cases last
        exact Or.inl ⟨request, rfl, creates, ahead⟩
    | inr some_after =>
        obtain ⟨earlier, last, rfl⟩ := some_after
        rw [List.concat_eq_append, ← List.cons_append, ← List.append_assoc] at split
        have parts := List.append_inj' split rfl
        cases parts.2
        refine Or.inr ⟨others event (by simp), before, request, created, earlier, parts.1,
          creates, ahead, ?_⟩
        intro other listed
        apply others
        rw [List.concat_eq_append]
        exact List.mem_append_left _ listed
  · intro held
    cases held with
    | inl last =>
        obtain ⟨request, called, creates, ahead⟩ := last
        rw [called] at creates
        refine ⟨events, request, event.now, [], ?_, creates, ahead, by simp⟩
        rw [← called]
    | inr earlier =>
        obtain ⟨other, before, request, created, after, rfl, creates, ahead, others⟩ := earlier
        refine ⟨before, request, created, after ++ [event], by simp, creates, ahead, ?_⟩
        intro called listed
        cases List.mem_append.mp listed with
        | inl within => exact others called within
        | inr last => rw [List.mem_singleton.mp last, other]

theorem not_held_nil {albumId : Int} {now : Time} : ¬ Held [] albumId now := by
  intro held
  obtain ⟨before, _, _, _, split, _⟩ := held
  cases before with
  | nil => cases split
  | cons _ _ => cases split

/-- A call that concerns an album decides whether it is held. -/
theorem live_record_of_concerns {event : Event} {albumId : Int} {now : Time}
    (concerned : event.call.concerns albumId = true) (deadlines : Deadlines) :
    AlbumHolds.Live now (record deadlines event albumId) ↔
      ∃ request, event.call = .create request ∧ event.call.creates albumId = true ∧
        now < request.expiry event.now := by
  obtain ⟨call, time⟩ := event
  cases call with
  | create request =>
      rw [record_of_creates concerned]
      constructor
      · intro live
        obtain ⟨_, same, ahead⟩ := live
        cases same
        exact ⟨request, rfl, concerned, ahead⟩
      · intro created
        obtain ⟨_, same, _, ahead⟩ := created
        cases same
        exact ⟨_, rfl, ahead⟩
  | clear cleared actor =>
      have named := of_decide_eq_true concerned
      have absent : record deadlines { call := .clear cleared actor, now := time } albumId =
          none := by
        rw [← named]
        exact Function.update_self _ _ _
      rw [absent]
      constructor
      · intro live
        obtain ⟨_, same, _⟩ := live
        cases same
      · intro created
        obtain ⟨_, same, _⟩ := created
        cases same
  | expire => cases concerned

/-- The deadlines tell which albums are held. -/
theorem held_iff_recorded {events : List Event} {albumId : Int} {now : Time} :
    Held events albumId now ↔ AlbumHolds.Live now (recorded events albumId) := by
  induction events using List.reverseRecOn with
  | nil =>
      constructor
      · intro held
        exact absurd held not_held_nil
      · intro live
        obtain ⟨_, absent, _⟩ := live
        cases absent
  | append_singleton events event ih =>
      rw [held_append, recorded_append]
      cases concerned : event.call.concerns albumId with
      | false =>
          rw [record_of_not_concerns concerned, ← ih]
          have not_created : ¬ ∃ request, event.call = .create request ∧
              event.call.creates albumId = true ∧ now < request.expiry event.now := by
            intro created
            obtain ⟨request, called, creates, _⟩ := created
            rw [called] at creates concerned
            rw [Call.concerns, ← Call.creates, creates] at concerned
            cases concerned
          simp [not_created]
      | true =>
          rw [live_record_of_concerns concerned]
          simp

/-! ### The table follows the deadlines -/

/-- From a time on the table holds what the deadlines say. -/
def Follows (holds : AlbumHolds) (deadlines : Deadlines) (clock : Time) : Prop :=
  ∀ now, clock ≤ now → ∀ albumId,
    AlbumHolds.Live now (holds.deadline albumId) ↔ AlbumHolds.Live now (deadlines albumId)

/-- Each call does to the table what it does to the deadlines. -/
theorem Follows.apply {holds : AlbumHolds} {deadlines : Deadlines} {clock : Time}
    (follows : Follows holds deadlines clock) {event : Event} (order : clock ≤ event.now) :
    Follows (event.call.apply holds event.now) (record deadlines event) event.now := by
  intro now later albumId
  have before := follows now (order.trans later) albumId
  obtain ⟨call, time⟩ := event
  cases call with
  | create request =>
      rw [Call.apply, record]
      dsimp only
      split_ifs with valid
      · rw [AlbumHolds.deadline_createAlbumHold _ valid, Function.update_apply]
        split_ifs
        · rfl
        · exact before
      · rw [AlbumHolds.deadline_of_invalid (Bool.eq_false_of_not_eq_true valid)]
        exact before
  | clear cleared actor =>
      rw [Call.apply, record]
      dsimp only
      rw [AlbumHolds.deadline_clearAlbumHold, Function.update_apply]
      split_ifs
      · rfl
      · exact before
  | expire =>
      rw [Call.apply, record]
      dsimp only
      rw [AlbumHolds.deadline_expireAlbumHolds, AlbumHolds.live_filter later]
      exact before

/-- A run does to the table what it does to the deadlines. -/
theorem Follows.run {start finish : Site} {events : List Event} {deadlines : Deadlines}
    (follows : Follows start.holds deadlines start.clock) (run : site.Run start events finish) :
    Follows finish.holds (events.foldl record deadlines) finish.clock := by
  induction run generalizing deadlines with
  | nil state => exact follows
  | cons _ stepped _ ih =>
      simp only [site] at stepped
      split_ifs at stepped with order
      cases stepped
      exact ih (follows.apply order)

/-- A site before its first call. -/
def Site.initial (clock : Time) : Site where
  holds := Registry.empty
  clock := clock

theorem follows_initial (clock : Time) :
    Follows (Site.initial clock).holds (fun _ => none) (Site.initial clock).clock := by
  intro now _ albumId
  rfl

/-- Without a create an album that is not held stays so. -/
theorem foldl_record_of_not_creates {events : List Event} {albumId : Int} {deadlines : Deadlines}
    (none_created : ∀ event ∈ events, event.call.creates albumId = false)
    (absent : deadlines albumId = none) : events.foldl record deadlines albumId = none := by
  induction events generalizing deadlines with
  | nil => exact absent
  | cons event events ih =>
      rw [List.forall_mem_cons] at none_created
      apply ih none_created.2
      cases concerned : event.call.concerns albumId with
      | false => rw [record_of_not_concerns concerned, absent]
      | true =>
          obtain ⟨call, time⟩ := event
          cases call with
          | create request =>
              rw [Call.concerns, ← Call.creates, none_created.1] at concerned
              cases concerned
          | clear cleared actor =>
              have named := of_decide_eq_true concerned
              rw [← named]
              exact Function.update_self _ _ _
          | expire => cases concerned

/-! ## Consistency -/

/-- After the calls, the queries at a time agree on which albums are held, a sweep in between
changes no answer, and a clear tells whether the album was held and ends the hold. -/
structure Consistent (events : List Event) (state : Site) (now : Time) : Prop where
  held : ∀ albumId, state.holds.isAlbumHeld albumId now = true ↔ Held events albumId now
  got : ∀ albumId, (∃ hold, state.holds.getAlbumHold albumId false now = some hold ∧
    hold.albumId = albumId) ↔ Held events albumId now
  listed : ∃ rows : List AlbumHold, (rows.map AlbumHold.albumId).Nodup ∧
    (∀ albumId, albumId ∈ rows.map AlbumHold.albumId ↔ Held events albumId now) ∧
    ∀ limit offset, state.holds.listAlbumHolds true limit offset now =
      (rows.length, AlbumHolds.page limit offset rows)
  swept : ∀ earlier ≤ now,
    (∀ albumId, (state.holds.expireAlbumHolds earlier).1.isAlbumHeld albumId now =
      state.holds.isAlbumHeld albumId now) ∧
    (∀ albumId, (state.holds.expireAlbumHolds earlier).1.getAlbumHold albumId false now =
      state.holds.getAlbumHold albumId false now) ∧
    ∀ limit offset, (state.holds.expireAlbumHolds earlier).1.listAlbumHolds true limit offset now =
      state.holds.listAlbumHolds true limit offset now
  answered : ∀ albumId actor,
    (state.holds.clearAlbumHold albumId actor now).2 = true ↔ Held events albumId now
  cleared : ∀ albumId actor (later : List Event) (finish : Site) (time : Time),
    site.Run { holds := (state.holds.clearAlbumHold albumId actor now).1, clock := now } later
      finish →
    (∀ event ∈ later, event.call.creates albumId = false) → finish.clock ≤ time →
    finish.holds.isAlbumHeld albumId time = false

section Reached

variable {events : List Event} {state : Site} {clock now : Time}

theorem follows_of_run (run : site.Run (Site.initial clock) events state) :
    Follows state.holds (recorded events) state.clock :=
  (follows_initial clock).run run

/-- The table holds what the calls say. -/
theorem live_iff_held (run : site.Run (Site.initial clock) events state)
    (order : state.clock ≤ now) (albumId : Int) :
    AlbumHolds.Live now (state.holds.deadline albumId) ↔ Held events albumId now := by
  rw [follows_of_run run now order albumId, held_iff_recorded]

/-- A clear ends the hold until the next create. -/
theorem not_held_of_cleared {holds : AlbumHolds} {deadlines : Deadlines} {albumId : Int}
    {actor : Option String} {later : List Event} {finish : Site} {time : Time}
    (follows : Follows holds deadlines now)
    (run : site.Run { holds := (holds.clearAlbumHold albumId actor now).1, clock := now } later
      finish)
    (none_created : ∀ event ∈ later, event.call.creates albumId = false)
    (order : finish.clock ≤ time) : finish.holds.isAlbumHeld albumId time = false := by
  have cleared : Follows (holds.clearAlbumHold albumId actor now).1
      (Function.update deadlines albumId none) now :=
    @Follows.apply holds deadlines now follows { call := .clear albumId actor, now } (le_refl now)
  have finished := cleared.run run time order albumId
  rw [foldl_record_of_not_creates none_created (Function.update_self _ _ _)] at finished
  rw [Bool.eq_false_iff, ne_eq, AlbumHolds.isAlbumHeld_iff, finished]
  intro live
  obtain ⟨_, absent, _⟩ := live
  cases absent

/-- The map is consistent unless a hold has run out and was not swept: a clear takes it for one
that is in force. -/
theorem consistent_iff (run : site.Run (Site.initial clock) events state)
    (order : state.clock ≤ now) : Consistent events state now ↔
      ∀ hold ∈ state.holds.rows, hold.clearedAt = none → now < hold.expiresAt := by
  constructor
  · intro consistent hold stored live
    have deadline : state.holds.deadline hold.albumId = some hold.expiresAt := by
      rw [AlbumHolds.deadline, Registry.find?_eq_some.mpr ⟨stored, rfl⟩, Option.bind_some,
        AlbumHolds.holdDeadline, if_pos live]
    have answer : (state.holds.clearAlbumHold hold.albumId none now).2 = true := by
      rw [AlbumHolds.clearAlbumHold_answer, deadline]
      rfl
    have held := (live_iff_held run order hold.albumId).mpr
      ((consistent.answered hold.albumId none).mp answer)
    obtain ⟨expiry, same, ahead⟩ := held
    rw [deadline, Option.some.injEq] at same
    rw [same]
    exact ahead
  · intro ahead
    constructor
    · intro albumId
      rw [AlbumHolds.isAlbumHeld_iff, live_iff_held run order]
    · intro albumId
      rw [← live_iff_held run order, ← AlbumHolds.isAlbumHeld_iff, AlbumHolds.isAlbumHeld,
        Option.isSome_iff_exists]
      apply exists_congr
      intro hold
      rw [and_iff_left_iff_imp]
      intro found
      have stored := Option.filter_eq_some_iff.mp found
      exact (Registry.find?_eq_some.mp stored.1).2
    · refine ⟨state.holds.activeHolds now, AlbumHolds.nodup_activeHolds now, ?_, ?_⟩
      · intro albumId
        rw [AlbumHolds.mem_albumIds_activeHolds, live_iff_held run order]
      · intro limit offset
        exact AlbumHolds.listAlbumHolds_active limit offset now
    · intro earlier before
      refine ⟨?_, ?_, ?_⟩
      · intro albumId
        rw [AlbumHolds.isAlbumHeld, AlbumHolds.getAlbumHold_expireAlbumHolds before,
          AlbumHolds.isAlbumHeld]
      · exact AlbumHolds.getAlbumHold_expireAlbumHolds before
      · intro limit offset
        rw [AlbumHolds.listAlbumHolds_active, AlbumHolds.listAlbumHolds_active,
          AlbumHolds.activeHolds_expireAlbumHolds before]
    · intro albumId actor
      rw [AlbumHolds.clearAlbumHold_answer, ← live_iff_held run order]
      constructor
      · intro some_deadline
        obtain ⟨expiry, deadline⟩ := Option.isSome_iff_exists.mp some_deadline
        obtain ⟨hold, found, live, rfl⟩ := AlbumHolds.deadline_eq_some.mp deadline
        exact ⟨_, deadline, ahead hold (Registry.find?_eq_some.mp found).1 live⟩
      · intro live
        obtain ⟨expiry, deadline, _⟩ := live
        rw [deadline]
        rfl
    · intro albumId actor later finish time continued none_created after
      have follows : Follows state.holds (recorded events) now := by
        intro time past
        exact follows_of_run run time (order.trans past)
      exact not_held_of_cleared follows continued none_created after

end Reached

/-- A hold of ten seconds. -/
def shortHold : HoldRequest where
  albumId := 1
  reason := "cancelled"
  ttlSeconds := some 10

/-- The site after it was created at time zero. -/
def shortSite : Site where
  holds := (AlbumHolds.createAlbumHold Registry.empty shortHold 0).1
  clock := 0

theorem shortSite_run :
    site.Run (Site.initial 0) [{ call := .create shortHold, now := 0 }] shortSite :=
  .cons trivial rfl (.nil _)

/-- Album one is held, cleared and held again; the hold of album two runs out and is swept. -/
def renewedHolds : List Event :=
  [{ call := .create shortHold, now := 0 },
    { call := .clear 1 (some "operator"), now := 3 },
    { call := .create { shortHold with ttlSeconds := some 20 }, now := 4 },
    { call := .create { shortHold with albumId := 2, ttlSeconds := some 5 }, now := 5 },
    { call := .expire, now := 12 }]

/-- The site after some calls. -/
def siteAfter (events : List Event) : Site :=
  events.foldl (fun state event =>
    { holds := event.call.apply state.holds event.now, clock := event.now }) (Site.initial 0)

theorem renewedHolds_run : site.Run (Site.initial 0) renewedHolds (siteAfter renewedHolds) :=
  .cons trivial rfl (.cons trivial rfl (.cons trivial rfl (.cons trivial rfl
    (.cons trivial rfl (.nil _)))))

/-- After the sweep the map is consistent, and holds the first album. -/
theorem consistent_renewedHolds : Consistent renewedHolds (siteAfter renewedHolds) 15 ∧
    (siteAfter renewedHolds).holds.isAlbumHeld 1 15 = true ∧
    (siteAfter renewedHolds).holds.isAlbumHeld 2 15 = false := by
  refine ⟨(consistent_iff renewedHolds_run (by decide)).mpr ?_, ?_, ?_⟩
  · decide +kernel
  · decide +kernel
  · decide +kernel

/-- A clear of the hold after it ran out says that it was held. -/
theorem not_consistent_expired :
    site.Run (Site.initial 0) [{ call := .create shortHold, now := 0 }] shortSite ∧
      ¬ Consistent [{ call := .create shortHold, now := 0 }] shortSite 20 := by
  constructor
  · exact shortSite_run
  · intro consistent
    have answer : (shortSite.holds.clearAlbumHold 1 none 20).2 = true := rfl
    have held := (consistent.held 1).mpr ((consistent.answered 1 none).mp answer)
    have deadline : shortSite.holds.deadline 1 = some (shortHold.expiry 0) := rfl
    have expiry : shortHold.expiry 0 = 10 := by norm_num [HoldRequest.expiry, shortHold]
    rw [AlbumHolds.isAlbumHeld_iff, deadline, expiry] at held
    obtain ⟨_, same, ahead⟩ := held
    cases same
    norm_num at ahead

end Mintarr.Holds
