import Mintarr.Scan.Progress

/-!
# The accounts of a library scan

There is one exit of the measure functions that returns without writing the item: a
trackfile with an id and without a path is counted as unmeasured, and its item keeps the
marker.  A completed scan is exact if and only if no such trackfile reached the measure
function.
-/

namespace Mintarr.Scan

open Lib

/-! ## What a completed scan promises -/

/-- The number of ledger items of a class. -/
def itemsOf (ledger : Ledger) (trackfiles : List Trackfile) (itemClass : ItemClass) : Nat :=
  trackfiles.countP fun trackfile =>
    (trackfile.id.bind ledger).any fun item => item.state.class? = some itemClass

/-- The number of trackfiles that have no id, which are counted as unmeasured. -/
def anonymous (trackfiles : List Trackfile) : ItemClass → Nat
  | .unmeasured => trackfiles.countP fun trackfile => trackfile.id.isNone
  | _ => 0

/-- The accounts of a completed scan are exact. -/
structure Exact (trackfiles : List Trackfile) (books : Books) : Prop where
  total : books.counters.total = trackfiles.length
  processed : books.counters.processed = trackfiles.length
  sum : books.counters.measured + books.counters.fresh + books.counters.unmeasured +
    books.counters.error = books.counters.processed
  once : books.handed.Nodup
  listed : ∀ id item, books.ledger id = some item →
    ∃ trackfile ∈ trackfiles, trackfile.id = some id
  final : ∀ id item, books.ledger id = some item → item.state.class?.isSome
  classes : ∀ itemClass,
    itemsOf books.ledger trackfiles itemClass + anonymous trackfiles itemClass =
      books.counters.of itemClass

/-! ## The pool -/

/-- The accounts of a pool are kept, and a completed one has counted everything. -/
structure Pool.Kept (trackfiles : List Trackfile) (pool : Pool) : Prop where
  books : Scan.Kept trackfiles (fun _ => false) pool.items pool.books
  all : pool.phase = .completed → pool.items.length = trackfiles.length
  counted : pool.phase = .completed → ∀ progress ∈ pool.items, progress.pending = false

section Pools

variable {tier : Tier} {workers : Nat} {trackfiles : List Trackfile} {pool next : Pool}

/-- A turn of the filling loop keeps the accounts. -/
theorem Pool.Kept.fill (kept : pool.Kept trackfiles) (unique : UniqueIds trackfiles)
    (filling : pool.phase = .filling) : (pool.fill tier workers trackfiles).Kept trackfiles := by
  have undone : ∀ {next : Pool}, next.phase ≠ .completed →
      Scan.Kept trackfiles (fun _ => false) next.items next.books → next.Kept trackfiles := by
    intro next running books
    exact ⟨books, fun completed => absurd completed running,
      fun completed => absurd completed running⟩
  unfold Pool.fill
  cases found : trackfiles[pool.items.length]? with
  | some trackfile =>
      dsimp only
      split_ifs with room idle
      · cases id_eq : trackfile.id with
        | none =>
            apply undone (by simp [filling])
            exact kept.books.skip unique found id_eq
        | some id =>
            apply undone (by simp [filling])
            exact kept.books.submit unique tier found id_eq rfl
      · exact kept
      · exact undone (by simp) kept.books
  | none =>
      dsimp only
      split_ifs with idle
      · constructor
        · exact kept.books
        · intro _
          have beyond : trackfiles.length ≤ pool.items.length :=
            List.getElem?_eq_none_iff.mp found
          exact le_antisymm kept.books.taken beyond
        · intro _ progress taken
          simpa using List.countP_eq_zero.mp idle progress taken
      · exact undone (by simp) kept.books

/-- A measurement keeps the accounts. -/
theorem Pool.Kept.measure (kept : pool.Kept trackfiles) (unique : UniqueIds trackfiles)
    (running : pool.phase ≠ .completed) {position : Nat} {answers : Answers}
    (measured : pool.measure tier trackfiles position answers = some next) :
    next.Kept trackfiles := by
  unfold Pool.measure at measured
  split at measured
  · next trackfile at_position found =>
      obtain ⟨id, id_eq, rfl⟩ := Option.map_eq_some_iff.mp measured
      have fits := kept.books.fits position _ trackfile id at_position found id_eq
      obtain ⟨item, ledger_item, marked⟩ := fits.item
      have hasId : trackfile.id ≠ none := by simp [id_eq]
      have measures := tier.measures answers hasId marked
      constructor
      · rw [ledger_item]
        exact kept.books.measured unique at_position found id_eq rfl measures
      · intro completed
        exact absurd completed running
      · intro completed
        exact absurd completed running
  · contradiction

/-- So does the collection of a result. -/
theorem Pool.Kept.collect (kept : pool.Kept trackfiles) (unique : UniqueIds trackfiles)
    {position : Nat} {rest : List Nat}
    (collected : pool.collect trackfiles position rest = some next) : next.Kept trackfiles := by
  unfold Pool.collect at collected
  split at collected
  · next result trackfile at_position found =>
      obtain ⟨id, id_eq, rfl⟩ := Option.map_eq_some_iff.mp collected
      have running : (if rest = [] then Phase.filling else .collecting rest) ≠ .completed := by
        split_ifs <;> simp
      constructor
      · exact kept.books.counted unique at_position found id_eq
      · intro completed
        exact absurd completed running
      · intro completed
        exact absurd completed running
  · contradiction

/-- Every step of the pool keeps the accounts. -/
theorem Pool.Kept.step (kept : pool.Kept trackfiles) (unique : UniqueIds trackfiles)
    {action : Action} (stepped : pool.step tier workers trackfiles action = some next) :
    next.Kept trackfiles := by
  have moved : ∀ {phase : Phase}, phase ≠ .completed →
      Pool.Kept trackfiles { pool with phase } := by
    intro phase running
    exact ⟨kept.books, fun completed => absurd completed running,
      fun completed => absurd completed running⟩
  cases action with
  | fill =>
      cases phase_eq : pool.phase <;> simp [Pool.step, phase_eq] at stepped
      rw [← stepped]
      exact kept.fill unique phase_eq
  | cancel =>
      cases phase_eq : pool.phase <;> simp [Pool.step, phase_eq] at stepped <;>
        · rw [← stepped]
          exact moved (by simp)
  | wait done =>
      cases phase_eq : pool.phase <;> simp [Pool.step, phase_eq] at stepped
      rw [← stepped.2]
      apply moved
      split_ifs <;> simp
  | collect =>
      simp only [Pool.step] at stepped
      split at stepped
      · exact kept.collect unique stepped
      · contradiction
  | measure position answers =>
      simp only [Pool.step] at stepped
      split at stepped
      · contradiction
      · next running => exact kept.measure unique running stepped

/-- So does every run. -/
theorem Pool.Kept.run {actions : List Action} (unique : UniqueIds trackfiles)
    (run : (pools tier workers trackfiles).Run { books := openBooks trackfiles } actions pool) :
    pool.Kept trackfiles := by
  apply run.preserves (Pool.Kept trackfiles)
  · intro state action next kept _ stepped
    exact kept.step unique stepped
  · constructor
    · exact kept_openBooks trackfiles _
    · intro completed
      contradiction
    · intro completed
      contradiction

end Pools

/-! ## The spectral loop -/

section Spectral

variable {trackfiles : List Trackfile} {turns : Nat → TurnAnswers} {items : List Progress}
variable {books next : Books} {trackfile : Trackfile}

/-- Setting what was just appended. -/
theorem set_append_last (items : List Progress) (old new : Progress) :
    (items ++ [old]).set items.length new = items ++ [new] := by
  rw [List.set_append_right items.length new le_rfl, Nat.sub_self]
  rfl

/-- A turn of the spectral loop takes one trackfile and counts it. -/
theorem Kept.spectralTurn {interrupts : Nat → Bool} {turn : TurnAnswers}
    (kept : Kept trackfiles interrupts items books) (unique : UniqueIds trackfiles)
    (found : trackfiles[items.length]? = some trackfile)
    (interrupts_eq : interrupts items.length = turn.interrupted.isSome)
    (turned : Scan.spectralTurn books items.length trackfile turn = some next) :
    ∃ progress : Progress, progress.pending = false ∧
      Kept trackfiles interrupts (items ++ [progress]) next := by
  have last : ∀ old : Progress, (items ++ [old])[items.length]? = some old := by
    intro old
    simp
  unfold Scan.spectralTurn at turned
  split_ifs at turned with cancelled
  cases id_eq : trackfile.id with
  | none =>
      simp only [id_eq, Option.some.injEq] at turned
      rw [← turned]
      exact ⟨.skipped, rfl, kept.skip unique found id_eq⟩
  | some id =>
      -- the ledger starts empty, and no other trackfile has this id
      have absent : books.ledger id = none := by
        cases ledger_item : books.ledger id with
        | none => rfl
        | some item =>
            obtain ⟨position, earlier, another, another_at, another_id⟩ :=
              kept.listed id item ledger_item
            have same := unique.position_eq another_at found another_id id_eq
            omega
      simp only [id_eq, absent, Option.any_none, Bool.false_eq_true, if_false] at turned
      cases interrupted_eq : turn.interrupted with
      | some error =>
          simp only [interrupted_eq, Option.some.injEq] at turned
          have interrupted : interrupts items.length = true := by
            rw [interrupts_eq, interrupted_eq]
            rfl
          have marked := kept.mark unique .spectral found id_eq interrupted
          have finished := marked.interrupted unique error (last _) found id_eq interrupted
          rw [set_append_last] at finished
          have counted := finished.counted unique (last _) found id_eq
          rw [set_append_last, turned] at counted
          exact ⟨_, rfl, counted⟩
      | none =>
          simp only [interrupted_eq, Option.some.injEq] at turned
          have uninterrupted : interrupts items.length = false := by
            rw [interrupts_eq, interrupted_eq]
            rfl
          have submitted := kept.submit unique .spectral found id_eq uninterrupted
          have fits := submitted.fits items.length _ trackfile id (last _) found id_eq
          obtain ⟨item, ledger_item, marked⟩ := fits.item
          have hasId : trackfile.id ≠ none := by simp [id_eq]
          have measures := Tier.spectral.measures turn.answers hasId marked
          rw [← ledger_item] at measures
          have finished := submitted.measured unique (last _) found id_eq uninterrupted measures
          rw [set_append_last] at finished
          have counted := finished.counted unique (last _) found id_eq
          rw [set_append_last, turned] at counted
          exact ⟨_, rfl, counted⟩

/-- So the loop counts all of them. -/
theorem Kept.spectralLoop (rest : List Trackfile)
    (kept : Kept trackfiles (Mode.spectralMissing.interrupts turns) items books)
    (unique : UniqueIds trackfiles) (counted : ∀ progress ∈ items, progress.pending = false)
    (rest_eq : trackfiles.drop items.length = rest)
    (looped : Scan.spectralLoop turns items.length books rest = some next) :
    ∃ final, Kept trackfiles (Mode.spectralMissing.interrupts turns) final next ∧
      final.length = trackfiles.length ∧ ∀ progress ∈ final, progress.pending = false := by
  induction rest generalizing items books with
  | nil =>
      simp only [Scan.spectralLoop, Option.some.injEq] at looped
      rw [← looped]
      have beyond : trackfiles.length ≤ items.length := List.drop_eq_nil_iff.mp rest_eq
      exact ⟨items, kept, le_antisymm kept.taken beyond, counted⟩
  | cons trackfile rest ih =>
      simp only [Scan.spectralLoop] at looped
      split at looped
      · contradiction
      · next after turned =>
          have found : trackfiles[items.length]? = some trackfile := by
            rw [← List.head?_drop, rest_eq]
            rfl
          obtain ⟨progress, ended, kept_next⟩ := kept.spectralTurn unique found rfl turned
          apply ih kept_next
          · intro other other_mem
            rcases List.mem_append.mp other_mem with before | same
            · exact counted other before
            · rw [List.mem_singleton.mp same]
              exact ended
          · rw [List.length_append, List.length_singleton, ← List.drop_drop, rest_eq]
            rfl
          · simpa using looped

end Spectral

/-! ## Completed scans -/

section Completed

variable {trackfiles : List Trackfile} {interrupts : Nat → Bool} {items : List Progress}
variable {books : Books}

/-- A completed scan has counted every trackfile. -/
theorem Completes.kept {mode : Mode} {workers : Nat} {turns : Nat → TurnAnswers}
    (completes : Completes mode workers trackfiles turns books) (unique : UniqueIds trackfiles) :
    ∃ items, Kept trackfiles (mode.interrupts turns) items books ∧
      items.length = trackfiles.length ∧ ∀ progress ∈ items, progress.pending = false := by
  have pooled : ∀ {tier : Tier} {actions : List Action} {pool : Pool},
      (pools tier workers trackfiles).Run { books := openBooks trackfiles } actions pool →
        pool.phase = .completed →
          ∃ items, Kept trackfiles (fun _ => false) items pool.books ∧
            items.length = trackfiles.length ∧ ∀ progress ∈ items, progress.pending = false := by
    intro tier actions pool run completed
    have kept := Pool.Kept.run unique run
    exact ⟨pool.items, kept.books, kept.all completed, kept.counted completed⟩
  cases mode with
  | spectralMissing =>
      apply (kept_openBooks trackfiles _).spectralLoop trackfiles unique
      · simp
      · rfl
      · exact completes
  | cheap =>
      obtain ⟨actions, pool, run, completed, rfl⟩ := completes
      exact pooled run completed
  | metadata =>
      obtain ⟨actions, pool, run, completed, rfl⟩ := completes
      exact pooled run completed
  | integrity =>
      obtain ⟨actions, pool, run, completed, rfl⟩ := completes
      exact pooled run completed

/-- The class that the books have for a trackfile. -/
def Ledger.classFor (ledger : Ledger) (trackfile : Trackfile) : Option ItemClass :=
  match trackfile.id with
  | none => some .unmeasured
  | some id => (ledger id).bind fun item => item.state.class?

/-- The trackfiles of a class are its ledger items and those without an id. -/
theorem itemsOf_add_anonymous (ledger : Ledger) (trackfiles : List Trackfile)
    (itemClass : ItemClass) :
    itemsOf ledger trackfiles itemClass + anonymous trackfiles itemClass =
      trackfiles.countP fun trackfile => ledger.classFor trackfile = some itemClass := by
  induction trackfiles with
  | nil => cases itemClass <;> rfl
  | cons trackfile rest ih =>
      have head : anonymous (trackfile :: rest) itemClass =
          anonymous rest itemClass +
            if trackfile.id = none ∧ itemClass = .unmeasured then 1 else 0 := by
        cases itemClass <;> simp [anonymous, List.countP_cons]
      rw [head, List.countP_cons, ← ih, itemsOf, itemsOf, List.countP_cons]
      cases id_eq : trackfile.id with
      | none =>
          cases itemClass <;> simp [Ledger.classFor, id_eq]
          omega
      | some id =>
          cases ledger_item : ledger id <;> simp [Ledger.classFor, id_eq, ledger_item]
          omega

/-- Every counted item is in one class. -/
theorem countP_classes (items : List Progress) :
    (items.countP fun progress => progress.class?.isSome) =
      (items.countP fun progress => progress.class? = some .measured) +
        (items.countP fun progress => progress.class? = some .fresh) +
        (items.countP fun progress => progress.class? = some .unmeasured) +
        items.countP fun progress => progress.class? = some .error := by
  induction items with
  | nil => rfl
  | cons progress rest ih =>
      simp only [List.countP_cons, ih]
      cases progress.class? with
      | none => simp
      | some itemClass => cases itemClass <;> simp <;> omega

/-- An item that is not pending was skipped or counted. -/
theorem Progress.counted_of_not_pending {progress : Progress} (ended : progress.pending = false)
    (identified : progress ≠ .skipped) : ∃ result, progress = .counted result := by
  cases progress with
  | skipped => exact absurd rfl identified
  | submitted => contradiction
  | finished result => contradiction
  | counted result => exact ⟨result, rfl⟩

/-- The item of a counted trackfile is in the class it was counted under, where it was
interrupted or has a path. -/
theorem Fits.classFor {ledger : Ledger} {interrupted : Bool} {trackfile : Trackfile} {id : Int}
    {progress : Progress} (fits : Fits ledger interrupted trackfile id progress)
    (id_eq : trackfile.id = some id) (ended : progress.pending = false)
    (reached : interrupted = false → trackfile.hasPath = true) :
    ledger.classFor trackfile = progress.class? := by
  obtain ⟨result, rfl⟩ := Progress.counted_of_not_pending ended fits.identified
  obtain ⟨item, ledger_item, class_eq⟩ := fits.item
  simp only [Ledger.classFor, id_eq, ledger_item, Option.bind_some, class_eq]
  cases result with
  | error error => rfl
  | ok outcome => simp [Progress.ledgerClass, Progress.class?, reached (fits.returned outcome rfl)]

/-- An item in a final state belongs to a trackfile that was interrupted or has a path. -/
theorem Fits.hasPath_of_final {ledger : Ledger} {interrupted : Bool} {trackfile : Trackfile}
    {id : Int} {progress : Progress} (fits : Fits ledger interrupted trackfile id progress)
    (ended : progress.pending = false)
    (final : ∀ item, ledger id = some item → item.state.class?.isSome)
    (uninterrupted : interrupted = false) : trackfile.hasPath = true := by
  obtain ⟨result, rfl⟩ := Progress.counted_of_not_pending ended fits.identified
  obtain ⟨item, ledger_item, class_eq⟩ := fits.item
  have closed := final item ledger_item
  cases result with
  | error error =>
      rcases fits.raised error rfl with interrupted | hasPath
      · rw [uninterrupted] at interrupted
        contradiction
      · exact hasPath
  | ok outcome =>
      by_contra pathless
      rw [class_eq] at closed
      simp [Progress.ledgerClass, pathless] at closed

/-- Books that count every trackfile are exact where every trackfile that was handed to the
measure function has a path. -/
theorem Kept.exact (kept : Kept trackfiles interrupts items books)
    (all : items.length = trackfiles.length)
    (counted : ∀ progress ∈ items, progress.pending = false)
    (reached : ∀ (position : Nat) (trackfile : Trackfile),
      trackfiles[position]? = some trackfile → trackfile.id.isSome = true →
        interrupts position = false → trackfile.hasPath = true) : Exact trackfiles books := by
  -- position by position, the ledger has the class that was counted
  have agree : trackfiles.map books.ledger.classFor = items.map Progress.class? := by
    apply List.ext_getElem
    · simp [all]
    · intro position position_lt items_lt
      simp only [List.getElem_map]
      have within : position < trackfiles.length := by simpa using position_lt
      have found := List.getElem?_eq_getElem within
      have taken := List.getElem?_eq_getElem (l := items) (by simpa using items_lt)
      have ended := counted _ (List.getElem_mem (by simpa using items_lt))
      cases id_eq : trackfiles[position].id with
      | none =>
          rw [kept.skipped position _ _ taken found id_eq]
          simp [Ledger.classFor, id_eq, Progress.class?]
      | some id =>
          have fits := kept.fits position _ _ id taken found id_eq
          exact fits.classFor id_eq ended (reached position _ found (by simp [id_eq]))
  have every : (items.countP fun progress => progress.class?.isSome) = trackfiles.length := by
    rw [← all, List.countP_eq_length]
    intro progress progress_mem
    have ended := counted progress progress_mem
    cases progress <;> first | rfl | contradiction
  constructor
  · exact kept.total
  · exact kept.processed.trans every
  · have classes := countP_classes items
    rw [← kept.processed, ← kept.classes, ← kept.classes, ← kept.classes, ← kept.classes] at classes
    exact classes.symm
  · rw [kept.handed]
    exact List.nodup_range.filter _
  · intro id item ledger_item
    obtain ⟨position, _, trackfile, found, id_eq⟩ := kept.listed id item ledger_item
    exact ⟨trackfile, List.mem_of_getElem? found, id_eq⟩
  · intro id item ledger_item
    obtain ⟨position, position_lt, trackfile, found, id_eq⟩ := kept.listed id item ledger_item
    have taken := List.getElem?_eq_getElem position_lt
    have ended := counted _ (List.getElem_mem position_lt)
    have fits := kept.fits position _ trackfile id taken found id_eq
    have class_eq := fits.classFor id_eq ended (reached position trackfile found (by simp [id_eq]))
    obtain ⟨result, counted_eq⟩ := Progress.counted_of_not_pending ended fits.identified
    simp only [Ledger.classFor, id_eq, ledger_item, Option.bind_some, counted_eq] at class_eq
    rw [class_eq]
    rfl
  · intro itemClass
    rw [itemsOf_add_anonymous, kept.classes]
    have same := congrArg (List.countP fun counted => counted = some itemClass) agree
    rw [List.countP_map, List.countP_map] at same
    exact same

/-- A completed scan is exact if and only if every trackfile with an id has a path, but for
those whose turn was interrupted before the measurement. -/
theorem accounts_exact_iff (mode : Mode) (workers : Nat) (trackfiles : List Trackfile)
    (turns : Nat → TurnAnswers) (books : Books)
    (unique : (trackfiles.filterMap Trackfile.id).Nodup)
    (completes : Completes mode workers trackfiles turns books) :
    Exact trackfiles books ↔
      ∀ (position : Nat) (trackfile : Trackfile), trackfiles[position]? = some trackfile →
        trackfile.id.isSome = true → mode.interrupts turns position = false →
          trackfile.hasPath = true := by
  obtain ⟨items, kept, all, counted⟩ := completes.kept unique
  constructor
  · intro exact_ position trackfile found identified uninterrupted
    obtain ⟨id, id_eq⟩ := Option.isSome_iff_exists.mp identified
    have position_lt : position < items.length := by
      rw [all]
      exact (List.getElem?_eq_some_iff.mp found).1
    have taken := List.getElem?_eq_getElem position_lt
    have fits := kept.fits position _ trackfile id taken found id_eq
    apply fits.hasPath_of_final (counted _ (List.getElem_mem position_lt)) _ uninterrupted
    intro item ledger_item
    exact exact_.final id item ledger_item
  · intro reached
    exact kept.exact all counted reached

/-- The trackfiles of a short album. -/
def shortAlbum : List Trackfile :=
  [{ id := some 1, path := some "/music/01.flac" }, { id := some 2, path := some "/music/02.flac" }]

/-- Two threads, of which the second is done first and the first cannot read its file. -/
def crossedScan : Option Pool :=
  (pools .cheap 2 shortAlbum).exec { books := openBooks shortAlbum }
    [.fill, .fill, .fill, .measure 1 {}, .wait [1], .measure 0 { raises := some "no such file" },
      .collect, .fill, .wait [0], .collect, .fill]

theorem isSome_crossedScan : crossedScan.isSome = true := by decide +kernel

theorem accounts_exact_iff_of_path :
    ∃ books, Completes .cheap 2 shortAlbum (fun _ => {}) books ∧ Exact shortAlbum books ∧
      books.counters.measured = 1 ∧ books.counters.error = 1 := by
  have completes : Completes .cheap 2 shortAlbum (fun _ => {})
      (crossedScan.get isSome_crossedScan).books :=
    ⟨_, _, Machine.run_of_exec (Option.some_get isSome_crossedScan).symm, by decide +kernel, rfl⟩
  refine ⟨_, completes,
    (accounts_exact_iff .cheap 2 shortAlbum _ _ (by decide) completes).mpr ?_,
    by decide +kernel, by decide +kernel⟩
  intro position trackfile found _ _
  have listed := List.mem_of_getElem? found
  rw [shortAlbum, List.mem_cons, List.mem_singleton] at listed
  rcases listed with rfl | rfl
  · rfl
  · rfl

/-- One trackfile in a pool of one thread. -/
def shortScan : List Action :=
  [.fill, .fill, .measure 0 {}, .wait [0], .collect, .fill]

/-- A trackfile with an id and no path is counted, and its item stays in `measuring`. -/
theorem pathless_trackfile_not_exact :
    let trackfiles : List Trackfile := [{ id := some 1, path := none }]
    ∃ books, Completes .cheap 1 trackfiles (fun _ => {}) books ∧
      books.counters.unmeasured = 1 ∧
      books.ledger 1 = some { albumId := none, state := .measuring } ∧
      ¬ Exact trackfiles books := by
  intro trackfiles
  have completes : Completes .cheap 1 trackfiles (fun _ => {}) _ :=
    ⟨shortScan, _, Machine.run_of_exec rfl, rfl, rfl⟩
  refine ⟨_, completes, rfl, rfl, ?_⟩
  intro exact_
  have final := exact_.final 1 _ rfl
  contradiction

end Completed

end Mintarr.Scan
