import Mintarr.Queue.Workers

/-!
# At most one active job per dedupe key

No critical section makes a terminal job active again, so uniqueness can only be
lost where a row is inserted.  `enqueue_job` looks for an active job with its key;
`enqueue_library_scan` looks for an active scan run instead, and a scan ends its
run before it reports its job.
-/

namespace Mintarr.Queue

open Lib JobState

/-- No non-empty dedupe key belongs to two active jobs. -/
def Db.UniqueActiveKeys (db : Db) : Prop :=
  ∀ left ∈ db.jobs.rows, ∀ right ∈ db.jobs.rows, ∀ key, key ≠ "" →
    left.dedupeKey = some key → right.dedupeKey = some key →
    left.state.Active → right.state.Active → left = right

/-- The dedupe lookup finds nothing exactly when the key is unused. -/
theorem findActiveJobByDedupe_eq_none {key : String} {db : Db} :
    findActiveJobByDedupe key db = none ↔
      key = "" ∨ ∀ job ∈ db.jobs.rows, job.dedupeKey = some key → ¬job.state.Active := by
  simp only [findActiveJobByDedupe]
  split
  · simp_all
  · rw [Table.latest?_eq_none]
    simp_all

/-- The inserted row, if any, takes a key that no active job has. -/
def Op.InsertsUnused (op : Op) (db : Db) : Prop :=
  ∀ inserted, op.Inserts db inserted → ∀ key, key ≠ "" → inserted.dedupeKey = some key →
    ∀ job ∈ db.jobs.rows, job.dedupeKey = some key → ¬job.state.Active

/-- `enqueue_job` inserts unused keys only. -/
theorem enqueueJob_insertsUnused (request : EnqueueRequest) (now : Time) (db : Db) :
    (Op.enqueueJob request now).InsertsUnused db := by
  intro row inserted key nonempty keyed job jobMem sameKey
  rcases inserted with ⟨rfl, absent⟩
  have requested : request.dedupeKey = some key := keyed
  rw [requested, Option.bind_some, findActiveJobByDedupe_eq_none] at absent
  exact absent.resolve_left nonempty job jobMem sameKey

/-- The key belongs to one active job at most. -/
def Db.UniqueActiveKey (key : String) (db : Db) : Prop :=
  ∀ left ∈ db.jobs.rows, ∀ right ∈ db.jobs.rows,
    left.dedupeKey = some key → right.dedupeKey = some key →
    left.state.Active → right.state.Active → left = right

/-- A critical section that inserts a key only where it is unused keeps it unique. -/
theorem Op.uniqueActiveKey {op : Op} {db : Db} {key : String}
    (unused : ∀ inserted, op.Inserts db inserted → inserted.dedupeKey = some key →
      ∀ job ∈ db.jobs.rows, job.dedupeKey = some key → ¬job.state.Active)
    (unique : db.UniqueActiveKey key) : (op.apply db).UniqueActiveKey key := by
  have evolved := op.evolves db
  -- A new row next to a moved one: the moved row was active under the same key.
  have apart : ∀ inserted old moved, op.Inserts db inserted → old ∈ db.jobs.rows →
      Moves op old moved → inserted.dedupeKey = some key →
      moved.dedupeKey = some key → moved.state.Active → False := by
    intro inserted old moved inserts oldMem move insertedKey movedKey active
    rw [move.dedupeKey] at movedKey
    exact unused inserted inserts insertedKey old oldMem movedKey (move.was_active active)
  intro left leftMem right rightMem leftKey rightKey leftActive rightActive
  rcases evolved.back left leftMem with ⟨oldLeft, oldLeftMem, leftId, leftMove⟩ | ⟨_, leftNew⟩ <;>
    rcases evolved.back right rightMem with
      ⟨oldRight, oldRightMem, rightId, rightMove⟩ | ⟨_, rightNew⟩
  · have same : oldLeft = oldRight := by
      apply unique oldLeft oldLeftMem oldRight oldRightMem
      · exact leftMove.dedupeKey ▸ leftKey
      · exact rightMove.dedupeKey ▸ rightKey
      · exact leftMove.was_active leftActive
      · exact rightMove.was_active rightActive
    apply Table.eq_of_key_eq leftMem rightMem
    rw [← leftId, ← rightId, same]
  · exact (apart right oldLeft left rightNew oldLeftMem leftMove rightKey leftKey leftActive).elim
  · exact (apart left oldRight right leftNew oldRightMem rightMove leftKey rightKey
      rightActive).elim
  · apply Table.eq_of_key_eq leftMem rightMem
    rw [leftNew.fresh.2.2, rightNew.fresh.2.2]

/-- A critical section that inserts unused keys only keeps active keys unique. -/
theorem Op.uniqueActiveKeys {op : Op} {db : Db} (unused : op.InsertsUnused db)
    (unique : db.UniqueActiveKeys) : (op.apply db).UniqueActiveKeys := by
  intro left leftMem right rightMem key nonempty
  have before : db.UniqueActiveKey key := by
    intro first firstMem second secondMem
    exact unique first firstMem second secondMem key nonempty
  have free : ∀ inserted, op.Inserts db inserted → inserted.dedupeKey = some key →
      ∀ job ∈ db.jobs.rows, job.dedupeKey = some key → ¬job.state.Active := by
    intro inserted inserts
    exact unused inserted inserts key nonempty
  exact Op.uniqueActiveKey free before left leftMem right rightMem

/-- The critical section is a call of `enqueue_library_scan`. -/
def Op.requestsScan : Op → Bool
  | .enqueueLibraryScan .. => true
  | _ => false

/-- A scan request that finds no active run finds no active job with the scan key
either. -/
def World.ScanKeyFree (world : World) (action : Action) : Prop :=
  ((world.effect action).bind Effect.op).any Op.requestsScan = true →
    getActiveLibraryScanRun world.db = none →
      ∀ job ∈ world.db.jobs.rows, job.dedupeKey = some libraryScanDedupeKey →
        ¬job.state.Active

instance (world : World) (action : Action) : Decidable (world.ScanKeyFree action) :=
  inferInstanceAs (Decidable
    (((world.effect action).bind Effect.op).any Op.requestsScan = true →
      getActiveLibraryScanRun world.db = none →
        ∀ job ∈ world.db.jobs.rows, job.dedupeKey = some libraryScanDedupeKey →
          ¬job.state.Active))

/-- Under the condition every critical section of the process inserts unused keys
only. -/
theorem insertsUnused_step {world : World} {action : Action} {effect : Effect} {op : Op}
    (happens : world.effect action = some effect) (ran : effect.op = some op)
    (free : world.ScanKeyFree action) : op.InsertsUnused world.db := by
  cases op with
  | enqueueJob request now => exact enqueueJob_insertsUnused request now world.db
  | enqueueLibraryScan mode requestedBy now cut =>
      have requests : ((world.effect action).bind Effect.op).any Op.requestsScan = true := by
        rw [happens, Option.bind_some, ran]
        rfl
      intro row inserted key _ keyed job jobMem sameKey
      rcases inserted with ⟨rfl, idle⟩
      have scanKey : some libraryScanDedupeKey = some key := keyed
      exact free requests idle job jobMem (sameKey.trans scanKey.symm)
  | _ => exact fun _ inserts => inserts.elim

/-- At most one active job per dedupe key, in every run of the process whose scan
requests find the scan key free. -/
theorem active_keys_unique {actions : List Action} {world : World}
    (run : workers.RunWhere World.ScanKeyFree .initial actions world) :
    world.db.UniqueActiveKeys := by
  apply run.preserves fun world => world.db.UniqueActiveKeys
  · intro world action next unique free stepped
    simp only [workers, Option.map_eq_some_iff] at stepped
    rcases stepped with ⟨effect, happens, rfl⟩
    cases ran : effect.op with
    | none => simpa [World.perform, ran] using unique
    | some op =>
        have kept := Op.uniqueActiveKeys (insertsUnused_step happens ran free) unique
        simpa [World.perform, ran] using kept
  · intro left leftMem
    simp [World.initial, Db.empty] at leftMem

/-- The active jobs and their keys. -/
def World.activeKeys (world : World) : List (Nat × Option String) :=
  (world.db.jobs.rows.filter fun job => job.state.Active).map fun job =>
    (job.id, job.dedupeKey)

/-- A scan that has ended its run but not reported its job. -/
def scanBeforeReport : List Action :=
  [.importStart 0 none, .scanStart, .scanReconcile 0 none,
    .enqueueLibraryScan "cheap" (some "operator") 1 none, .scanClaim "library-scan" 2 true,
    .scanBegin true 2 true, .scanProgress none 2, .scanEnd .completed {} 3 true]

/-- A scan request that arrives before the report. -/
def requestBeforeReport : List Action :=
  scanBeforeReport ++ [.enqueueLibraryScan "integrity" (some "operator") 4 none]

theorem scan_key_active_twice :
    ¬∀ actions world, workers.Run .initial actions world → world.db.UniqueActiveKeys := by
  intro unique
  have keys : (workers.exec .initial requestBeforeReport).map World.activeKeys =
      some [(1, some "library_scan"), (2, some "library_scan")] := by decide +kernel
  rcases Option.map_eq_some_iff.mp keys with ⟨world, executed, twice⟩
  have first : (1, some "library_scan") ∈ world.activeKeys := by simp [twice]
  have second : (2, some "library_scan") ∈ world.activeKeys := by simp [twice]
  simp only [World.activeKeys, List.mem_map, List.mem_filter, decide_eq_true_eq,
    Prod.mk.injEq] at first second
  rcases first with ⟨left, ⟨leftMem, leftActive⟩, leftId, leftKey⟩
  rcases second with ⟨right, ⟨rightMem, rightActive⟩, rightId, rightKey⟩
  have same := unique _ _ (Machine.run_of_exec executed) left leftMem right rightMem _
    (by decide) leftKey rightKey leftActive rightActive
  rw [same, rightId] at leftId
  contradiction

/-- A scan request that arrives after the report. -/
def requestAfterReport : List Action :=
  scanBeforeReport ++
    [.scanReport 4 true, .enqueueLibraryScan "integrity" (some "operator") 5 none]

theorem active_keys_unique_requestAfterReport : ∃ world,
    workers.RunWhere World.ScanKeyFree .initial requestAfterReport world ∧
      world.activeKeys = [(2, some "library_scan")] ∧ world.db.UniqueActiveKeys := by
  have keys : ((workers.restrict World.ScanKeyFree).exec .initial requestAfterReport).map
      World.activeKeys = some [(2, some "library_scan")] := by decide +kernel
  rcases Option.map_eq_some_iff.mp keys with ⟨world, executed, once⟩
  have run := Machine.runWhere_of_exec executed
  exact ⟨world, run, once, active_keys_unique run⟩

end Mintarr.Queue
