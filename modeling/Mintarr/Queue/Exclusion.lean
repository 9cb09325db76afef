import Mintarr.Queue.Workers

/-!
# Which thread holds which job

The leases do not keep two executors apart: a lease may run out under a running
executor.  What does is that the two claim queries split the jobs by type, that
`type` never changes, and that each thread claims only between two invocations.
`Held` is that invariant.
-/

namespace Mintarr.Queue

open Lib JobState

/-- The jobs the two threads hold are rows of the table, and their types tell the
threads apart. -/
structure World.Held (world : World) : Prop where
  importer : ∀ job, world.importer.job? = some job →
    job.type ≠ libraryScanJobType ∧
      ∃ row ∈ world.db.jobs.rows, row.id = job.id ∧ row.type = job.type
  scanner : ∀ job, world.scanner.job? = some job →
    job.type = libraryScanJobType ∧
      ∃ row ∈ world.db.jobs.rows, row.id = job.id ∧ row.type = job.type

/-- What a claim hands out: an eligible row of the table, now running. -/
theorem claimed_eq_some {request : ClaimRequest} {now : Time} {db : Db} {job : Job}
    (claimed : (Op.dequeueNextJob request now).claimed db = some job) :
    (∃ row ∈ db.jobs.rows, request.eligible now row = true ∧ job = request.claim now row) ∧
      job ∈ ((Op.dequeueNextJob request now).apply db).jobs.rows := by
  simp only [Op.claimed] at claimed
  rcases dequeueNextJob_cases request now db with idle | ⟨row, rowMem, eligible, claim⟩
  · rw [idle] at claimed
    contradiction
  · simp only [claim, Option.some.injEq] at claimed
    subst claimed
    refine ⟨⟨row, rowMem, eligible, rfl⟩, ?_⟩
    have queued := (ClaimRequest.eligible_iff.mp eligible).1
    simp only [Op.apply, claim]
    exact Table.mem_update.mpr ⟨row, rowMem, by simp [queued]⟩

/-- The import worker never claims a scan job. -/
theorem importRequest_type {workerId : String} {now : Time} {db : Db} {job : Job}
    (claimed : (Op.dequeueNextJob (World.importRequest workerId) now).claimed db = some job) :
    job.type ≠ libraryScanJobType := by
  rcases claimed_eq_some claimed with ⟨⟨row, _, eligible, rfl⟩, _⟩
  have excluded := (ClaimRequest.eligible_iff.mp eligible).2.2.2
  simpa [World.importRequest] using excluded

/-- The scan worker claims scan jobs only. -/
theorem scanRequest_type {workerId : String} {now : Time} {db : Db} {job : Job}
    (claimed : (Op.dequeueNextJob (World.scanRequest workerId) now).claimed db = some job) :
    job.type = libraryScanJobType := by
  rcases claimed_eq_some claimed with ⟨⟨row, _, eligible, rfl⟩, _⟩
  have included := (ClaimRequest.eligible_iff.mp eligible).2.2.1
  simpa [World.scanRequest] using included

section Rows

variable {world : World} {effect : Effect}

/-- The jobs table after an effect: some critical section ran, or none. -/
theorem perform_forth (effect : Effect) {job : Job} (jobMem : job ∈ world.db.jobs.rows) :
    ∃ next ∈ (world.perform effect).db.jobs.rows, next.id = job.id ∧
      (next = job ∨ ∃ op, effect.op = some op ∧ Moves op job next) := by
  cases ran : effect.op with
  | none => exact ⟨job, by simpa [World.perform, ran] using jobMem, rfl, Or.inl rfl⟩
  | some op =>
      rcases (op.evolves world.db).forth job jobMem with ⟨next, nextMem, sameId, move⟩
      exact ⟨next, by simpa [World.perform, ran] using nextMem, sameId,
        Or.inr ⟨op, rfl, move⟩⟩

/-- A row under the key of an earlier row comes from it. -/
theorem perform_back {old next : Job} (oldMem : old ∈ world.db.jobs.rows)
    (nextMem : next ∈ (world.perform effect).db.jobs.rows) (sameId : next.id = old.id) :
    next = old ∨ ∃ op, effect.op = some op ∧ Moves op old next := by
  rcases perform_forth effect oldMem with ⟨moved, movedMem, movedId, move⟩
  rw [Table.eq_of_key_eq nextMem movedMem (sameId.trans movedId.symm)]
  exact move

/-- A held row stays in the table with its type. -/
theorem perform_row {job : Job} (held : ∃ row ∈ world.db.jobs.rows,
    row.id = job.id ∧ row.type = job.type) :
    ∃ row ∈ (world.perform effect).db.jobs.rows, row.id = job.id ∧ row.type = job.type := by
  rcases held with ⟨row, rowMem, sameId, sameType⟩
  rcases perform_forth effect rowMem with ⟨next, nextMem, nextId, rfl | ⟨op, _, move⟩⟩
  · exact ⟨next, nextMem, sameId, sameType⟩
  · exact ⟨next, nextMem, nextId.trans sameId, move.type.trans sameType⟩

/-- A claimed job is in the table after the claim. -/
theorem perform_claimed {request : ClaimRequest} {now : Time} {job : Job}
    (op : effect.op = some (.dequeueNextJob request now))
    (claimed : (Op.dequeueNextJob request now).claimed world.db = some job) :
    job ∈ (world.perform effect).db.jobs.rows := by
  simpa [World.perform, op] using (claimed_eq_some claimed).2

end Rows

/-- One step of the process keeps `Held`. -/
theorem held_step {world next : World} {action : Action} (held : world.Held)
    (stepped : workers.step world action = some next) : next.Held := by
  rcases workers_step stepped with ⟨effect, happens, rfl⟩
  -- An invocation that goes on keeps its row; only the claims start a new one.
  have importKept : ∀ job, world.importer.job? = some job →
      job.type ≠ libraryScanJobType ∧
        ∃ row ∈ (world.perform effect).db.jobs.rows, row.id = job.id ∧ row.type = job.type :=
    fun job owner => ⟨(held.importer job owner).1, perform_row (held.importer job owner).2⟩
  have scanKept : ∀ job, world.scanner.job? = some job →
      job.type = libraryScanJobType ∧
        ∃ row ∈ (world.perform effect).db.jobs.rows, row.id = job.id ∧ row.type = job.type :=
    fun job owner => ⟨(held.scanner job owner).1, perform_row (held.scanner job owner).2⟩
  cases happens with
  | background _ importer scanner =>
      exact ⟨fun job owner => importKept job (importer job owner),
        fun job owner => scanKept job (scanner job owner)⟩
  | booted _ _ _ importer scanner =>
      exact ⟨fun job owner => by simp [World.perform, importer] at owner,
        fun job owner => by simp [World.perform, scanner] at owner⟩
  | swept _ _ _ _ importer scanner =>
      exact ⟨fun job owner => by simp [World.perform, importer] at owner,
        fun job owner => scanKept job (scanner ▸ owner)⟩
  | importClaimed workerId now _ op importer scanner =>
      refine ⟨?_, fun job owner => scanKept job (scanner ▸ owner)⟩
      intro job owner
      have claimed := importer job owner
      exact ⟨importRequest_type claimed, job, perform_claimed op claimed, rfl, rfl⟩
  | scanClaimed workerId now _ op importer scanner =>
      refine ⟨fun job owner => importKept job (importer ▸ owner), ?_⟩
      intro job owner
      have claimed := scanner job owner
      exact ⟨scanRequest_type claimed, job, perform_claimed op claimed, rfl, rfl⟩
  | importReported _ _ _ _ _ importer scanner =>
      exact ⟨fun job owner => by simp [World.perform, importer] at owner,
        fun job owner => scanKept job (scanner ▸ owner)⟩
  | scanReported _ _ _ _ _ importer scanner =>
      exact ⟨fun job owner => importKept job (importer ▸ owner),
        fun job owner => by simp [World.perform, scanner] at owner⟩

theorem held_initial : World.initial.Held := by
  constructor
  · intro job claimed
    cases claimed
  · intro job claimed
    cases claimed

/-- Every run keeps `Held`. -/
theorem held_run {guard : World → Action → Prop} {actions : List Action} {world : World}
    (run : workers.RunWhere guard .initial actions world) : world.Held :=
  run.preserves _ (fun _ _ _ held _ stepped => held_step held stepped) held_initial

namespace World

theorem mem_executors {world : World} {job : Job} : job ∈ world.executors ↔
    world.importer.job? = some job ∨ world.scanner.job? = some job := by
  simp [executors]

/-- Two invocations of one job are the same invocation of the same thread. -/
theorem Held.ne_id {world : World} (held : world.Held) {imported scanned : Job}
    (importer : world.importer.job? = some imported)
    (scanner : world.scanner.job? = some scanned) : imported.id ≠ scanned.id := by
  intro sameId
  rcases held.importer _ importer with ⟨notScan, importRow, importMem, importId, importType⟩
  rcases held.scanner _ scanner with ⟨scan, scanRow, scanMem, scanId, scanType⟩
  have sameRow := Table.eq_of_key_eq importMem scanMem (by rw [importId, scanId, sameId])
  rw [sameRow, scanType, scan] at importType
  exact notScan importType.symm

/-- The job a step claims with `dequeue_next_job`. -/
def claimedBy (world : World) (action : Action) : Option Job :=
  ((world.effect action).bind Effect.op).bind (Op.claimed world.db)

end World

/-- A step that claims a job is taken by an idle thread whose type filter the job
passes. -/
theorem claimedBy_cases {world : World} {action : Action} {job : Job}
    (claims : world.claimedBy action = some job) :
    ∃ row ∈ world.db.jobs.rows, row.id = job.id ∧ row.type = job.type ∧
      (world.importer.job? = none ∧ job.type ≠ libraryScanJobType ∨
        world.scanner.job? = none ∧ job.type = libraryScanJobType) := by
  simp only [World.claimedBy, Option.bind_eq_some_iff] at claims
  rcases claims with ⟨op, ⟨effect, happens, ran⟩, claimed⟩
  have row : ∀ {request now}, (Op.dequeueNextJob request now).claimed world.db = some job →
      ∃ row ∈ world.db.jobs.rows, row.id = job.id ∧ row.type = job.type := by
    intro request now claimed
    rcases claimed_eq_some claimed with ⟨⟨row, rowMem, _, rfl⟩, _⟩
    exact ⟨row, rowMem, rfl, rfl⟩
  cases effect_cases happens with
  | background plain =>
      rw [(plain op ran).claimed_eq] at claimed
      contradiction
  | booted _ _ op | swept _ _ _ op =>
      rw [op, Option.some.injEq] at ran
      subst ran
      contradiction
  | importReported _ _ _ _ op | scanReported _ _ _ _ op =>
      rw [op, Option.some.injEq] at ran
      subst ran
      rw [Report.op_claimed] at claimed
      contradiction
  | importClaimed _ _ idle op =>
      rw [op, Option.some.injEq] at ran
      subst ran
      rcases row claimed with ⟨stored, storedMem, sameId, sameType⟩
      exact ⟨stored, storedMem, sameId, sameType, Or.inl ⟨idle, importRequest_type claimed⟩⟩
  | scanClaimed _ _ idle op =>
      rw [op, Option.some.injEq] at ran
      subst ran
      rcases row claimed with ⟨stored, storedMem, sameId, sameType⟩
      exact ⟨stored, storedMem, sameId, sameType, Or.inr ⟨idle, scanRequest_type claimed⟩⟩

/-- Mutual exclusion of execution, over every run of the process: no step claims a
job whose earlier executor invocation has not returned, and at most one executor
of a non-scan job runs. -/
theorem executors_exclusive {actions : List Action} {world : World}
    (run : workers.Run .initial actions world) :
    (∀ action job, world.claimedBy action = some job →
      ∀ running ∈ world.executors, running.id ≠ job.id) ∧
    (world.executors.filter fun job => job.type ≠ libraryScanJobType).length ≤ 1 := by
  have held := held_run run
  constructor
  · intro action job claims running runningMem sameId
    rcases claimedBy_cases claims with ⟨row, rowMem, rowId, rowType, filtered⟩
    have runningRow : (world.importer.job? = some running ∧
          running.type ≠ libraryScanJobType ∨
        world.scanner.job? = some running ∧ running.type = libraryScanJobType) ∧
        running.type = job.type := by
      have same : ∀ other ∈ world.db.jobs.rows, other.id = running.id → other.type = job.type := by
        intro other otherMem otherId
        rw [Table.eq_of_key_eq otherMem rowMem (by rw [otherId, sameId, rowId]), rowType]
      rcases World.mem_executors.mp runningMem with importer | scanner
      · rcases held.importer _ importer with ⟨type, other, otherMem, otherId, otherType⟩
        exact ⟨Or.inl ⟨importer, type⟩, otherType ▸ same other otherMem otherId⟩
      · rcases held.scanner _ scanner with ⟨type, other, otherMem, otherId, otherType⟩
        exact ⟨Or.inr ⟨scanner, type⟩, otherType ▸ same other otherMem otherId⟩
    rcases runningRow with ⟨owner, sameType⟩
    rw [sameType] at owner
    rcases filtered with ⟨idle, notScan⟩ | ⟨idle, scan⟩ <;>
      rcases owner with ⟨busy, type⟩ | ⟨busy, type⟩
    · rw [idle] at busy
      contradiction
    · exact notScan type
    · exact type scan
    · rw [idle] at busy
      contradiction
  · simp only [World.executors, List.filter_append, List.length_append]
    have scanners : (world.scanner.job?.toList.filter
        fun job => job.type ≠ libraryScanJobType) = [] := by
      rw [List.filter_eq_nil_iff]
      intro job jobMem
      have scan := (held.scanner job (by simpa using jobMem)).1
      simp [scan]
    rw [scanners]
    have importers : world.importer.job?.toList.length ≤ 1 := by
      cases world.importer.job? <;> simp
    have filtered := List.length_filter_le
      (fun job : Job => decide (job.type ≠ libraryScanJobType)) world.importer.job?.toList
    simpa using Nat.le_trans filtered importers

/-- A grab and a library scan, both claimed after the first boot. -/
def grabAndScan : List Action :=
  [.importStart 0 none, .scanStart, .scanReconcile 0 none,
    .enqueueLibraryScan "cheap" (some "operator") 1 none, .scanClaim "library-scan" 2 true,
    .enqueueJob { jid := "0a1b2c3d4e5f", type := "tidal_grab" } 3,
    .importClaim "worker" 4 true, .importBegin true, .scanBegin true 5 true]

theorem executors_exclusive_grabAndScan : ∃ world, workers.Run .initial grabAndScan world ∧
    world.executors.map Job.type = ["tidal_grab", libraryScanJobType] ∧
    (world.executors.filter fun job => job.type ≠ libraryScanJobType).length ≤ 1 := by
  have types : (workers.exec .initial grabAndScan).map
      (fun world => world.executors.map Job.type) =
      some ["tidal_grab", libraryScanJobType] := by decide +kernel
  rcases Option.map_eq_some_iff.mp types with ⟨world, executed, held⟩
  have run := Machine.run_of_exec executed
  exact ⟨world, run, held, (executors_exclusive run).2⟩

end Mintarr.Queue
