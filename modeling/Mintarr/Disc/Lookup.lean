import Mathlib.Data.List.Basic
import Mathlib.Data.Nat.Basic

/-!
# AccurateRip responses

A response is a row of chunks of different sizes.  The parser walks from chunk to chunk, counts
those of the disc it looks for, and stops at what is no whole chunk.  Every read of the model
is checked against the end of the data and fails beyond it.
-/

namespace Mintarr.Disc.Lookup

/-! ## The parser -/

/-- What is known of the disc. -/
structure Expected where
  id1 : Nat
  id2 : Nat
  cddb : Nat
  trackCount : Nat
  deriving DecidableEq, Repr

/-- `AccurateRipResult`. -/
structure AccurateRipResult where
  found : Bool
  pressings : Nat := 0
  maxConfidence : Nat := 0
  trackCount : Nat := 0
  perTrackConfidence : List Nat := []
  deriving DecidableEq, Repr

/-- `_CHUNK_HEADER`. -/
def chunkHeader : Nat := 13

/-- `_PER_TRACK`. -/
def perTrack : Nat := 9

/-- `int.from_bytes(data[start:stop], "little")`; nothing if the slice is cut off. -/
def fromBytes (data : List UInt8) (start stop : Nat) : Option Nat :=
  if stop ≤ data.length then
    some (((data.drop start).take (stop - start)).foldr
      (fun byte value => byte.toNat + 256 * value) 0)
  else none

/-- The variables of the loop; `perTrackMax` is a dictionary. -/
structure Walk where
  pressings : Nat := 0
  perTrackMax : Nat → Option Nat := fun _ => none

/-- One step of the loop over the tracks; nothing where the read fails. -/
def readTrack (data : List UInt8) (base : Nat) (perTrackMax : Nat → Option Nat) (track : Nat) :
    Option (Nat → Option Nat) :=
  (data[base + track * perTrack]?).map fun confidence other =>
    if other = track then some (max ((perTrackMax track).getD 0) confidence.toNat)
    else perTrackMax other

/-- The `while` loop; nothing where a read fails or the fuel ends. -/
def walkChunks (expected : Expected) (data : List UInt8) : Nat → Nat → Walk → Option Walk
  | 0, _, _ => none
  | fuel + 1, offset, walk =>
      if data.length < offset + chunkHeader then some walk
      else do
        let n := (← data[offset]?).toNat
        let chunkLen := chunkHeader + perTrack * n
        if n = 0 ∨ data.length < offset + chunkLen then some walk
        else do
          let id1 ← fromBytes data (offset + 1) (offset + 5)
          let id2 ← fromBytes data (offset + 5) (offset + 9)
          let cddb ← fromBytes data (offset + 9) (offset + 13)
          if ({ id1, id2, cddb, trackCount := n } : Expected) = expected then do
            let perTrackMax ← (List.range n).foldlM (readTrack data (offset + chunkHeader))
              walk.perTrackMax
            walkChunks expected data fuel (offset + chunkLen)
              { pressings := walk.pressings + 1, perTrackMax }
          else walkChunks expected data fuel (offset + chunkLen) walk

/-- `parse_accuraterip`; nothing where it raises, does not end or reads past the end. -/
def parseAccuraterip (data : Option (List UInt8)) (expected : Expected) :
    Option AccurateRipResult :=
  match data with
  | none | some [] => some { found := false }
  | some data => do
      let walk ← walkChunks expected data (data.length + 1) 0 {}
      if walk.pressings = 0 then some { found := false }
      else do
        let perTrackConfidence ← (List.range expected.trackCount).mapM walk.perTrackMax
        let maxConfidence ← perTrackConfidence.max?
        some
          { found := true
            pressings := walk.pressings
            maxConfidence
            trackCount := expected.trackCount
            perTrackConfidence }

/-! ## Responses -/

/-- The bytes of a little-endian number. -/
def toBytes (number : UInt32) : List UInt8 :=
  [UInt8.ofNat (number.toNat % 256), UInt8.ofNat (number.toNat / 256 % 256),
    UInt8.ofNat (number.toNat / 65536 % 256), UInt8.ofNat (number.toNat / 16777216)]

/-- A track of a chunk. -/
structure Track where
  confidence : UInt8
  crc : UInt32
  crc450 : UInt32
  deriving DecidableEq

/-- A chunk has a track, and their number fits its byte. -/
structure Chunk where
  id1 : UInt32
  id2 : UInt32
  cddb : UInt32
  tracks : List Track
  nonempty : 1 ≤ tracks.length
  counted : tracks.length ≤ 255
  deriving DecidableEq

/-- The bytes of a track. -/
def Track.encode (track : Track) : List UInt8 :=
  track.confidence :: (toBytes track.crc ++ toBytes track.crc450)

namespace Chunk

/-- The bytes of a chunk. -/
def encode (chunk : Chunk) : List UInt8 :=
  UInt8.ofNat chunk.tracks.length :: (toBytes chunk.id1 ++ (toBytes chunk.id2 ++
    (toBytes chunk.cddb ++ chunk.tracks.flatMap Track.encode)))

/-- The four values a chunk is matched by. -/
def header (chunk : Chunk) : Expected where
  id1 := chunk.id1.toNat
  id2 := chunk.id2.toNat
  cddb := chunk.cddb.toNat
  trackCount := chunk.tracks.length

/-- The confidence of a track. -/
def confidence (chunk : Chunk) (track : Nat) : Nat :=
  (chunk.tracks[track]?.map fun track => track.confidence.toNat).getD 0

end Chunk

/-- The largest of some numbers, or zero. -/
def maximum (numbers : List Nat) : Nat := numbers.foldr max 0

/-- What the chunks of a disc say together. -/
def collect (expected : Expected) (chunks : List Chunk) : AccurateRipResult :=
  let matching := chunks.filter fun chunk => chunk.header = expected
  if matching = [] then { found := false }
  else
    { found := true
      pressings := matching.length
      maxConfidence := maximum (matching.flatMap fun chunk =>
        chunk.tracks.map fun track => track.confidence.toNat)
      trackCount := expected.trackCount
      perTrackConfidence := (List.range expected.trackCount).map fun track =>
        maximum (matching.map fun chunk => chunk.confidence track) }

/-! ## Reading what was written -/

@[simp] theorem length_toBytes (number : UInt32) : (toBytes number).length = 4 := rfl

@[simp] theorem length_encode_track (track : Track) : track.encode.length = perTrack := rfl

theorem length_flatMap_encode (tracks : List Track) :
    (tracks.flatMap Track.encode).length = perTrack * tracks.length := by
  induction tracks with
  | nil => rfl
  | cons track tracks ih =>
      simp only [List.flatMap_cons, List.length_append, length_encode_track, ih,
        List.length_cons]
      simp only [perTrack]
      omega

theorem Chunk.length_encode (chunk : Chunk) :
    chunk.encode.length = chunkHeader + perTrack * chunk.tracks.length := by
  simp only [Chunk.encode, List.length_cons, List.length_append, length_toBytes,
    length_flatMap_encode, chunkHeader]
  omega

theorem length_le_flatMap_encode (chunks : List Chunk) :
    chunks.length ≤ (chunks.flatMap Chunk.encode).length := by
  induction chunks with
  | nil => exact Nat.le_refl _
  | cons chunk chunks ih =>
      rw [List.flatMap_cons, List.length_append, List.length_cons, chunk.length_encode]
      simp only [chunkHeader]
      omega

/-- A number is read back from where it was written. -/
theorem fromBytes_toBytes {data before rest : List UInt8} {start : Nat} (number : UInt32)
    (written : data = before ++ (toBytes number ++ rest)) (here : before.length = start) :
    fromBytes data start (start + 4) = some number.toNat := by
  subst written here
  have fits : before.length + 4 ≤ (before ++ (toBytes number ++ rest)).length := by
    simp only [List.length_append, length_toBytes]
    omega
  have bound := number.toNat_lt
  simp only [fromBytes, if_pos fits, List.drop_left, Nat.add_sub_cancel_left, Option.some.injEq]
  have taken : (toBytes number ++ rest).take 4 = toBytes number := rfl
  rw [taken]
  simp only [toBytes, List.foldr_cons, List.foldr_nil, UInt8.toNat_ofNat']
  omega

/-- The confidence of a track is read back from where it was written. -/
theorem confidence_of_written (tracks : List Track) :
    ∀ (before rest : List UInt8) (track : Nat) (inside : track < tracks.length),
      (before ++ (tracks.flatMap Track.encode ++ rest))[before.length + track * perTrack]? =
        some (tracks.get ⟨track, inside⟩).confidence := by
  induction tracks with
  | nil =>
      intro before rest track inside
      cases inside
  | cons first tracks ih =>
      intro before rest track inside
      cases track with
      | zero =>
          rw [List.getElem?_append_right (by omega)]
          simp [Track.encode]
      | succ track =>
          have moved := ih (before ++ first.encode) rest track (Nat.lt_of_succ_lt_succ inside)
          rw [List.length_append, length_encode_track, List.append_assoc,
            ← List.append_assoc first.encode] at moved
          have same : before.length + (track + 1) * perTrack
              = before.length + perTrack + track * perTrack := by
            simp only [perTrack]
            omega
          rw [same]
          exact moved

/-- The loop over the tracks of a chunk, all of whose reads succeed. -/
theorem foldlM_readTrack {data : List UInt8} {base : Nat} (confidence : Nat → UInt8)
    (perTrackMax : Nat → Option Nat) (n : Nat)
    (reads : ∀ track < n, data[base + track * perTrack]? = some (confidence track)) :
    (List.range n).foldlM (readTrack data base) perTrackMax = some fun track =>
      if track < n then some (max ((perTrackMax track).getD 0) (confidence track).toNat)
      else perTrackMax track := by
  induction n with
  | zero => simp
  | succ n ih =>
      have before := ih fun track inside => reads track (Nat.lt_succ_of_lt inside)
      rw [List.range_succ, List.foldlM_append, before]
      simp only [Option.bind_eq_bind, Option.bind_some, List.foldlM_cons, List.foldlM_nil,
        readTrack, reads n (Nat.lt_succ_self n), Option.map_some, Option.pure_def,
        Option.some.injEq]
      funext track
      by_cases last : track = n
      · simp [last]
      · have same : track < n + 1 ↔ track < n := by omega
        simp only [last, if_false, same]

/-! ## The walk over chunks -/

/-- The walk after a chunk of the disc. -/
def Walk.absorb (walk : Walk) (chunk : Chunk) : Walk where
  pressings := walk.pressings + 1
  perTrackMax := fun track =>
    if track < chunk.tracks.length then
      some (max ((walk.perTrackMax track).getD 0) (chunk.confidence track))
    else walk.perTrackMax track

/-- The four values of a chunk are read back from where it was written. -/
theorem header_of_written {data before rest : List UInt8} (chunk : Chunk)
    (written : data = before ++ (chunk.encode ++ rest)) :
    data[before.length]? = some (UInt8.ofNat chunk.tracks.length) ∧
      fromBytes data (before.length + 1) (before.length + 5) = some chunk.id1.toNat ∧
      fromBytes data (before.length + 5) (before.length + 9) = some chunk.id2.toNat ∧
      fromBytes data (before.length + 9) (before.length + 13) = some chunk.cddb.toNat := by
  let count := [UInt8.ofNat chunk.tracks.length]
  let tracks := chunk.tracks.flatMap Track.encode ++ rest
  subst written
  constructor
  · rw [List.getElem?_append_right (Nat.le_refl _), Nat.sub_self]
    rfl
  constructor
  · apply @fromBytes_toBytes _ (before ++ count)
      (toBytes chunk.id2 ++ (toBytes chunk.cddb ++ tracks)) _ chunk.id1
    · simp [Chunk.encode, count, tracks]
    · simp [count]
  constructor
  · apply @fromBytes_toBytes _ (before ++ (count ++ toBytes chunk.id1))
      (toBytes chunk.cddb ++ tracks) _ chunk.id2
    · simp [Chunk.encode, count, tracks]
    · simp [count]
  · apply @fromBytes_toBytes _
      (before ++ (count ++ (toBytes chunk.id1 ++ toBytes chunk.id2))) tracks _ chunk.cddb
    · simp [Chunk.encode, count, tracks]
    · simp [count]

/-- The tracks of a chunk are absorbed where it was written. -/
theorem foldlM_of_written {data before rest : List UInt8} (chunk : Chunk) (walk : Walk)
    (written : data = before ++ (chunk.encode ++ rest)) :
    (List.range chunk.tracks.length).foldlM (readTrack data (before.length + chunkHeader))
      walk.perTrackMax = some (walk.absorb chunk).perTrackMax := by
  let header := UInt8.ofNat chunk.tracks.length ::
    (toBytes chunk.id1 ++ (toBytes chunk.id2 ++ toBytes chunk.cddb))
  have split : data = (before ++ header) ++ (chunk.tracks.flatMap Track.encode ++ rest) := by
    rw [written]
    simp [Chunk.encode, header]
  have base : before.length + chunkHeader = (before ++ header).length := by
    simp [header, chunkHeader]
  rw [base, split]
  rw [foldlM_readTrack (fun track => (chunk.tracks[track]?.map Track.confidence).getD 0)]
  · simp only [Walk.absorb, Option.some.injEq]
    funext track
    by_cases inside : track < chunk.tracks.length
    · simp [inside, Chunk.confidence]
    · simp [inside]
  · intro track inside
    rw [confidence_of_written chunk.tracks (before ++ header) rest track inside]
    simp [List.getElem?_eq_getElem inside]

/-- The count of a chunk fits its byte. -/
theorem toNat_count (chunk : Chunk) :
    (UInt8.ofNat chunk.tracks.length).toNat = chunk.tracks.length := by
  have counted := chunk.counted
  rw [UInt8.toNat_ofNat']
  omega

/-- A chunk is absorbed if it is one of the disc, and passed in any case. -/
theorem walkChunks_chunk {data before rest : List UInt8} (expected : Expected) (chunk : Chunk)
    (fuel : Nat) (walk : Walk) (written : data = before ++ (chunk.encode ++ rest)) :
    walkChunks expected data (fuel + 1) before.length walk =
      walkChunks expected data fuel (before ++ chunk.encode).length
        (if chunk.header = expected then walk.absorb chunk else walk) := by
  have reads := header_of_written chunk written
  have nonempty := chunk.nonempty
  have long : before.length + (chunkHeader + perTrack * chunk.tracks.length) ≤ data.length := by
    rw [written, List.length_append, List.length_append, chunk.length_encode]
    omega
  have header : ¬ data.length < before.length + chunkHeader := by omega
  have whole : ¬ (chunk.tracks.length = 0 ∨
      data.length < before.length + (chunkHeader + perTrack * chunk.tracks.length)) := by
    omega
  rw [walkChunks, if_neg header, reads.1]
  simp only [Option.bind_eq_bind, Option.bind_some, toNat_count, if_neg whole, reads.2.1,
    reads.2.2.1, reads.2.2.2, foldlM_of_written chunk walk written, List.length_append,
    chunk.length_encode]
  by_cases matching : chunk.header = expected
  · rw [if_pos matching]
    exact if_pos matching
  · rw [if_neg matching]
    exact if_neg matching

/-- The beginning of a chunk is no chunk. -/
theorem walkChunks_tail {data before tail : List UInt8} (expected : Expected) (chunk : Chunk)
    (fuel : Nat) (walk : Walk) (written : data = before ++ tail)
    (begins : tail <+: chunk.encode) (incomplete : tail ≠ chunk.encode) :
    walkChunks expected data (fuel + 1) before.length walk = some walk := by
  have short : tail.length < chunkHeader + perTrack * chunk.tracks.length := by
    rw [← chunk.length_encode]
    apply Nat.lt_of_le_of_ne begins.length_le
    intro same
    exact incomplete (begins.eq_of_length same)
  subst written
  rw [walkChunks]
  by_cases header : (before ++ tail).length < before.length + chunkHeader
  · rw [if_pos header]
  · rw [if_neg header]
    rw [List.length_append] at header
    cases tail with
    | nil =>
        simp only [List.length_nil, chunkHeader] at header
        omega
    | cons count rest =>
        have first : count = UInt8.ofNat chunk.tracks.length := by
          obtain ⟨missing, whole⟩ := begins
          exact (List.cons.inj whole).1
        have read : (before ++ count :: rest)[before.length]? = some count := by
          rw [List.getElem?_append_right (Nat.le_refl _), Nat.sub_self]
          rfl
        rw [read, first]
        simp only [Option.bind_eq_bind, Option.bind_some, toNat_count]
        rw [if_pos]
        right
        rw [List.length_append]
        exact Nat.add_lt_add_left short _

/-- Chunks are walked over one by one, and what follows them stops the walk. -/
theorem walkChunks_encode (expected : Expected) (chunks : List Chunk) {chunk : Chunk}
    {tail : List UInt8} (begins : tail <+: chunk.encode) (incomplete : tail ≠ chunk.encode) :
    ∀ (before : List UInt8) (fuel : Nat) (walk : Walk), chunks.length < fuel →
      walkChunks expected (before ++ (chunks.flatMap Chunk.encode ++ tail)) fuel
        before.length walk =
        some ((chunks.filter fun chunk => chunk.header = expected).foldl Walk.absorb walk) := by
  induction chunks with
  | nil =>
      intro before fuel walk enough
      obtain ⟨fuel, rfl⟩ := Nat.exists_eq_succ_of_ne_zero (Nat.ne_zero_of_lt enough)
      exact walkChunks_tail expected chunk fuel walk rfl begins incomplete
  | cons first chunks ih =>
      intro before fuel walk enough
      obtain ⟨fuel, rfl⟩ := Nat.exists_eq_succ_of_ne_zero (Nat.ne_zero_of_lt enough)
      have split : before ++ ((first :: chunks).flatMap Chunk.encode ++ tail) =
          before ++ (first.encode ++ (chunks.flatMap Chunk.encode ++ tail)) := by
        rw [List.flatMap_cons, List.append_assoc]
      rw [walkChunks_chunk expected first fuel walk split, split,
        ← List.append_assoc before first.encode]
      rw [ih (before ++ first.encode) fuel _ (Nat.lt_of_succ_lt_succ enough)]
      by_cases matching : first.header = expected
      · simp [matching]
      · simp [matching]

/-! ## What the walk has collected -/

@[simp] theorem maximum_nil : maximum [] = 0 := rfl

@[simp] theorem maximum_cons (number : Nat) (numbers : List Nat) :
    maximum (number :: numbers) = max number (maximum numbers) := rfl

theorem maximum_le_iff (numbers : List Nat) (bound : Nat) :
    maximum numbers ≤ bound ↔ ∀ number ∈ numbers, number ≤ bound := by
  induction numbers with
  | nil => simp
  | cons number numbers ih => rw [maximum_cons, Nat.max_le, ih, List.forall_mem_cons]

theorem le_maximum {numbers : List Nat} {number : Nat} (mem : number ∈ numbers) :
    number ≤ maximum numbers :=
  (maximum_le_iff numbers _).mp (Nat.le_refl _) number mem

theorem max?_eq_maximum {numbers : List Nat} (nonempty : numbers ≠ []) :
    numbers.max? = some (maximum numbers) := by
  rw [List.max?_eq_some_iff]
  constructor
  · induction numbers with
    | nil => exact absurd rfl nonempty
    | cons number numbers ih =>
        rw [maximum_cons]
        by_cases last : numbers = []
        · simp [last]
        · rcases Nat.le_total number (maximum numbers) with le | le
          · rw [Nat.max_eq_right le]
            exact List.mem_cons_of_mem _ (ih last)
          · rw [Nat.max_eq_left le]
            exact List.mem_cons_self
  · intro number mem
    exact le_maximum mem

theorem pressings_foldl (matching : List Chunk) (walk : Walk) :
    (matching.foldl Walk.absorb walk).pressings = walk.pressings + matching.length := by
  induction matching generalizing walk with
  | nil => rfl
  | cons chunk matching ih =>
      rw [List.foldl_cons, ih, List.length_cons]
      simp only [Walk.absorb]
      omega

/-- The entry of a track is the largest confidence any of the chunks gives it. -/
theorem perTrackMax_foldl {n track : Nat} (inside : track < n) (matching : List Chunk)
    (walk : Walk) (same : ∀ chunk ∈ matching, chunk.tracks.length = n) :
    (matching.foldl Walk.absorb walk).perTrackMax track =
      if matching = [] then walk.perTrackMax track
      else some (max ((walk.perTrackMax track).getD 0)
        (maximum (matching.map fun chunk => chunk.confidence track))) := by
  induction matching generalizing walk with
  | nil => rfl
  | cons chunk matching ih =>
      have entry : (walk.absorb chunk).perTrackMax track =
          some (max ((walk.perTrackMax track).getD 0) (chunk.confidence track)) := by
        simp [Walk.absorb, same chunk List.mem_cons_self, inside]
      rw [List.foldl_cons, ih _ fun other mem => same other (List.mem_cons_of_mem _ mem), entry]
      by_cases last : matching = []
      · simp [last]
      · simp [last, Nat.max_assoc]

/-- The overall maximum, track by track or chunk by chunk. -/
theorem maximum_tracks {n : Nat} (matching : List Chunk)
    (same : ∀ chunk ∈ matching, chunk.tracks.length = n) :
    maximum ((List.range n).map fun track =>
      maximum (matching.map fun chunk => chunk.confidence track)) =
    maximum (matching.flatMap fun chunk =>
      chunk.tracks.map fun track => track.confidence.toNat) := by
  apply Nat.le_antisymm
  · rw [maximum_le_iff]
    intro largest listed
    obtain ⟨track, inside, rfl⟩ := List.mem_map.mp listed
    rw [maximum_le_iff]
    intro confidence given
    obtain ⟨chunk, mem, rfl⟩ := List.mem_map.mp given
    have bound : track < chunk.tracks.length := by
      rw [same chunk mem]
      exact List.mem_range.mp inside
    apply le_maximum
    apply List.mem_flatMap.mpr
    refine ⟨chunk, mem, List.mem_map.mpr ⟨chunk.tracks[track], List.getElem_mem bound, ?_⟩⟩
    simp [Chunk.confidence, List.getElem?_eq_getElem bound]
  · rw [maximum_le_iff]
    intro confidence given
    obtain ⟨chunk, mem, listed⟩ := List.mem_flatMap.mp given
    obtain ⟨entry, has, rfl⟩ := List.mem_map.mp listed
    obtain ⟨track, bound, rfl⟩ := List.getElem_of_mem has
    have entry : chunk.tracks[track].confidence.toNat = chunk.confidence track := by
      simp [Chunk.confidence, List.getElem?_eq_getElem bound]
    rw [entry]
    apply Nat.le_trans (le_maximum (List.mem_map_of_mem mem))
    apply le_maximum
    apply List.mem_map.mpr
    exact ⟨track, List.mem_range.mpr (by rw [← same chunk mem]; exact bound), rfl⟩

/-- Reading entries that are all there. -/
theorem mapM_perTrackMax {perTrackMax : Nat → Option Nat} (value : Nat → Nat)
    (tracks : List Nat) (entries : ∀ track ∈ tracks, perTrackMax track = some (value track)) :
    tracks.mapM perTrackMax = some (tracks.map value) := by
  induction tracks with
  | nil => rfl
  | cons track tracks ih =>
      rw [List.mapM_cons, entries track List.mem_cons_self,
        ih fun other mem => entries other (List.mem_cons_of_mem _ mem)]
      rfl

/-- The result of a walk over the chunks of a response is what they say together. -/
theorem parse_of_walk {expected : Expected} {data : List UInt8} {chunks : List Chunk}
    (nonempty : data ≠ [])
    (walked : walkChunks expected data (data.length + 1) 0 {} =
      some ((chunks.filter fun chunk => chunk.header = expected).foldl Walk.absorb {})) :
    parseAccuraterip (some data) expected = some (collect expected chunks) := by
  have counted : ∀ chunk ∈ chunks.filter fun chunk => chunk.header = expected,
      chunk.tracks.length = expected.trackCount := by
    intro chunk mem
    have header : chunk.header = expected := by simpa using (List.mem_filter.mp mem).2
    rw [← header]
    rfl
  have positive : (chunks.filter fun chunk => chunk.header = expected) ≠ [] →
      1 ≤ expected.trackCount := by
    intro some
    obtain ⟨chunk, mem⟩ := List.exists_mem_of_ne_nil _ some
    rw [← counted chunk mem]
    exact chunk.nonempty
  have parsed : parseAccuraterip (some data) expected =
      (do
        let walk ← walkChunks expected data (data.length + 1) 0 {}
        if walk.pressings = 0 then some { found := false }
        else do
          let perTrackConfidence ← (List.range expected.trackCount).mapM walk.perTrackMax
          let maxConfidence ← perTrackConfidence.max?
          some
            { found := true
              pressings := walk.pressings
              maxConfidence
              trackCount := expected.trackCount
              perTrackConfidence }) := by
    cases data with
    | nil => exact absurd rfl nonempty
    | cons byte data => rfl
  rw [parsed, walked, collect]
  generalize (chunks.filter fun chunk => chunk.header = expected) = matching at *
  simp only [Option.bind_eq_bind, Option.bind_some, pressings_foldl, Nat.zero_add,
    List.length_eq_zero_iff]
  by_cases none : matching = []
  · rw [if_pos none, if_pos none]
  · have entries : (List.range expected.trackCount).mapM
        (matching.foldl Walk.absorb {}).perTrackMax =
        some ((List.range expected.trackCount).map fun track =>
          maximum (matching.map fun chunk => chunk.confidence track)) := by
      apply mapM_perTrackMax
      intro track mem
      rw [perTrackMax_foldl (List.mem_range.mp mem) matching _ counted, if_neg none]
      simp
    have some : (List.range expected.trackCount).map
        (fun track => maximum (matching.map fun chunk => chunk.confidence track)) ≠ [] := by
      have := positive none
      rw [ne_eq, List.map_eq_nil_iff, List.range_eq_nil]
      omega
    rw [if_neg none, if_neg none, entries]
    simp only [Option.bind_some, max?_eq_maximum some, maximum_tracks matching counted]

/-! ## Arbitrary bytes -/

/-- A walk that has counted a chunk has an entry for every track. -/
def Walk.Filled (expected : Expected) (walk : Walk) : Prop :=
  walk.pressings ≠ 0 →
    1 ≤ expected.trackCount ∧ ∀ track < expected.trackCount, (walk.perTrackMax track).isSome

/-- A slice inside the data is read. -/
theorem fromBytes_inside {data : List UInt8} {start stop : Nat} (inside : stop ≤ data.length) :
    ∃ number, fromBytes data start stop = some number := by
  rw [fromBytes, if_pos inside]
  exact ⟨_, rfl⟩

/-- The tracks of a whole chunk are read, and each gets an entry. -/
theorem foldlM_inside {data : List UInt8} {base n : Nat} (perTrackMax : Nat → Option Nat)
    (inside : base + perTrack * n ≤ data.length) :
    ∃ after, (List.range n).foldlM (readTrack data base) perTrackMax = some after ∧
      ∀ track < n, (after track).isSome := by
  have reads : ∀ track < n, data[base + track * perTrack]? =
      some ((data[base + track * perTrack]?).getD 0) := by
    intro track counted
    have bound : base + track * perTrack < data.length := by
      simp only [perTrack] at inside ⊢
      omega
    rw [List.getElem?_eq_getElem bound]
    rfl
  constructor
  · constructor
    · exact foldlM_readTrack _ perTrackMax n reads
    · intro track counted
      rw [if_pos counted]
      rfl

/-- The walk ends, and no read of it fails. -/
theorem walkChunks_total (expected : Expected) (data : List UInt8) (fuel : Nat) :
    ∀ (offset : Nat) (walk : Walk), offset ≤ data.length → data.length < offset + fuel →
      walk.Filled expected →
      ∃ after, walkChunks expected data fuel offset walk = some after ∧
        after.Filled expected := by
  induction fuel with
  | zero =>
      intro offset walk inside enough
      omega
  | succ fuel ih =>
      intro offset walk inside enough filled
      rw [walkChunks]
      by_cases header : data.length < offset + chunkHeader
      · rw [if_pos header]
        exact ⟨walk, rfl, filled⟩
      rw [if_neg header]
      have bound : offset < data.length := by
        simp only [chunkHeader] at header
        omega
      rw [List.getElem?_eq_getElem bound]
      simp only [Option.bind_eq_bind, Option.bind_some]
      generalize (data[offset]).toNat = n
      by_cases stops : n = 0 ∨ data.length < offset + (chunkHeader + perTrack * n)
      · rw [if_pos stops]
        exact ⟨walk, rfl, filled⟩
      rw [if_neg stops]
      simp only [chunkHeader, perTrack] at header stops
      obtain ⟨id1, read1⟩ := @fromBytes_inside data (offset + 1) (offset + 5) (by omega)
      obtain ⟨id2, read2⟩ := @fromBytes_inside data (offset + 5) (offset + 9) (by omega)
      obtain ⟨cddb, read3⟩ := @fromBytes_inside data (offset + 9) (offset + 13) (by omega)
      simp only [read1, read2, read3, Option.bind_some]
      have next : offset + (chunkHeader + perTrack * n) ≤ data.length := by
        simp only [chunkHeader, perTrack]
        omega
      have enoughLeft : data.length < offset + (chunkHeader + perTrack * n) + fuel := by
        simp only [chunkHeader, perTrack]
        omega
      by_cases matching : ({ id1, id2, cddb, trackCount := n } : Expected) = expected
      · rw [if_pos matching]
        have tracks : offset + chunkHeader + perTrack * n ≤ data.length := by
          rw [Nat.add_assoc]
          exact next
        obtain ⟨perTrackMax, absorbed, entries⟩ := foldlM_inside walk.perTrackMax tracks
        rw [absorbed]
        apply ih _ _ next enoughLeft
        intro counted
        rw [← matching]
        constructor
        · change 1 ≤ n
          omega
        · exact entries
      · rw [if_neg matching]
        exact ih _ _ next enoughLeft filled

theorem parseAccuraterip_total (data : Option (List UInt8)) (expected : Expected) :
    ∃ result, parseAccuraterip data expected = some result := by
  cases data with
  | none => exact ⟨_, rfl⟩
  | some data =>
      cases data with
      | nil => exact ⟨_, rfl⟩
      | cons byte data =>
          obtain ⟨walk, walked, filled⟩ := walkChunks_total expected (byte :: data)
            ((byte :: data).length + 1) 0 {} (Nat.zero_le _) (by omega)
            (fun counted => absurd rfl counted)
          simp only [parseAccuraterip, walked, Option.bind_eq_bind, Option.bind_some]
          by_cases none : walk.pressings = 0
          · rw [if_pos none]
            exact ⟨_, rfl⟩
          · obtain ⟨positive, entries⟩ := filled none
            have read : (List.range expected.trackCount).mapM walk.perTrackMax =
                some ((List.range expected.trackCount).map
                  fun track => (walk.perTrackMax track).getD 0) := by
              apply mapM_perTrackMax
              intro track mem
              obtain ⟨value, entry⟩ :=
                Option.isSome_iff_exists.mp (entries track (List.mem_range.mp mem))
              rw [entry]
              rfl
            have some : (List.range expected.trackCount).map
                (fun track => (walk.perTrackMax track).getD 0) ≠ [] := by
              rw [ne_eq, List.map_eq_nil_iff, List.range_eq_nil]
              omega
            rw [if_neg none, read]
            simp only [Option.bind_some, max?_eq_maximum some]
            exact ⟨_, rfl⟩

/-- The parser counts the chunks of the disc and nothing else, and it stops on any bytes. -/
theorem parseAccuraterip_exact (expected : Expected) :
    (∀ (chunks : List Chunk) (tail : List UInt8),
      (∃ chunk : Chunk, tail <+: chunk.encode ∧ tail ≠ chunk.encode) →
      parseAccuraterip (some (chunks.flatMap Chunk.encode ++ tail)) expected =
        some (collect expected chunks)) ∧
    ∀ data, ∃ result, parseAccuraterip data expected = some result := by
  constructor
  · intro chunks tail begun
    obtain ⟨chunk, begins, incomplete⟩ := begun
    by_cases empty : chunks.flatMap Chunk.encode ++ tail = []
    · have none : chunks = [] := by
        cases chunks with
        | nil => rfl
        | cons first chunks => simp [Chunk.encode] at empty
      rw [empty, none]
      rfl
    · apply parse_of_walk empty
      have enough : chunks.length < (chunks.flatMap Chunk.encode ++ tail).length + 1 := by
        have := length_le_flatMap_encode chunks
        rw [List.length_append]
        omega
      exact walkChunks_encode expected chunks begins incomplete [] _ {} enough
  · intro data
    exact parseAccuraterip_total data expected

/-- A chunk of another disc between two of the disc, and the beginning of a third. -/
theorem parseAccuraterip_exact_twoPressings :
    let first : Chunk := ⟨1, 2, 3, [⟨5, 7, 8⟩, ⟨9, 7, 8⟩], by decide, by decide⟩
    let other : Chunk := ⟨1, 2, 4, [⟨200, 7, 8⟩], by decide, by decide⟩
    let second : Chunk := ⟨1, 2, 3, [⟨6, 70, 80⟩, ⟨0, 70, 80⟩], by decide, by decide⟩
    parseAccuraterip (some ([first, other, second].flatMap Chunk.encode ++ [2, 1, 0]))
      ⟨1, 2, 3, 2⟩ = some ⟨true, 2, 9, 2, [6, 9]⟩ := by
  intro first other second
  exact (parseAccuraterip_exact ⟨1, 2, 3, 2⟩).1 [first, other, second] [2, 1, 0]
    ⟨first, by decide, by decide⟩

end Mintarr.Disc.Lookup
