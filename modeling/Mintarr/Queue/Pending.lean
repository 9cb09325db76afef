import Mintarr.Queue.ScanBooks

/-!
# The jobs that will still be executed

A row waits when a claim or a recovery pass will hand it out, and a row that a thread holds
goes on as long as the thread has not left the executor for good.  A step of the process
makes a row pending only by enqueuing it, by a kill, or by the loss of a report.
-/

namespace Mintarr.Queue

open Lib JobState

/-! ## Pending rows -/

/-- The row is handed out once more, by a claim or after a recovery pass. -/
def Job.waits (row : Job) : Bool :=
  row.state = .queued || (row.state = .running && (row.attempts : Int) < row.recoveryLimit)

/-- The invocation leads to an execution of the row: it has not ended yet, or it ended in a
failure that `_execute_job` answers with a retry. -/
def ImportPc.goesOn (row : Job) : ImportPc → Bool
  | .stopped | .polling | .reporting .. => false
  | .claimed _ | .executing _ => true
  | .raised job error => isTransientFailure job error && row.retryable
  | .retrying .. => row.retryable

/-- The scan is executed. -/
def ScanPc.goesOn : ScanPc → Bool
  | .claimed _ | .scanning .. => true
  | .stopped | .starting | .polling | .reporting .. => false

namespace World

/-- The import worker holds the row. -/
def imports (world : World) (row : Job) : Bool := world.importer.job?.any (·.id = row.id)

/-- The scan worker holds the row. -/
def scans (world : World) (row : Job) : Bool := world.scanner.job?.any (·.id = row.id)

/-- The row will be executed, or is being executed. -/
def toCome (world : World) (row : Job) : Bool :=
  if world.imports row then world.importer.goesOn row
  else if world.scans row then world.scanner.goesOn
  else row.waits

/-- The download has an active job that will be executed, or is being executed. -/
def pending (world : World) (jid : String) : Bool :=
  world.db.jobs.rows.any fun row => row.jid = jid && row.state.Active && world.toCome row

theorem pending_iff {world : World} {jid : String} : world.pending jid = true ↔
    ∃ row ∈ world.db.jobs.rows, row.jid = jid ∧ row.state.Active ∧ world.toCome row = true := by
  simp [pending, and_assoc]

/-- The invocations that a step ends without a report. -/
def abandoned (world : World) : Action → List Job
  | .kill => world.executors
  | .importReport _ false => world.importer.job?.toList
  | .scanReport _ false => world.scanner.job?.toList
  | _ => []

/-- The download that a step enqueues a job for. -/
def enqueuedJid (world : World) : Action → Option String
  | .enqueueJob request _ => some request.jid
  | .enqueueLibraryScan .. => some s!"library-scan-{world.db.scanRuns.nextKey}"
  | _ => none

end World

/-! ## What a step does to an invocation -/

/-- How a step moves the import worker, as far as pending rows are concerned. -/
inductive ImportMoves (world : World) (action : Action) (effect : Effect) : Prop where
  | same (kept : effect.importer = world.importer)
  | idle (was : world.importer.job? = none) (still : effect.importer.job? = none)
  | claimed (was : world.importer.job? = none) (job : Job) (workerId : String) (now : Time)
      (op : effect.op = some (.dequeueNextJob (World.importRequest workerId) now))
      (owner : effect.importer.job? = some job)
      (handed : (Op.dequeueNextJob (World.importRequest workerId) now).claimed world.db = some job)
  | moved (silent : effect.op = none) (owner : effect.importer.job? = world.importer.job?)
      (goesOn : ∀ row, effect.importer.goesOn row = true → world.importer.goesOn row = true)
  | retried (job : Job) (error : String) (was : world.importer = .retrying job error)
      (delaySec now : Time) (resultState : Option String)
      (op : effect.op = some (.scheduleJobRetry job.id error delaySec resultState now))
      (done : (scheduleJobRetry job.id error delaySec resultState now world.db).2 = true)
      (still : effect.importer.job? = none)
  | reported (job : Job) (report : Report) (now : Time) (was : world.importer.job? = some job)
      (op : effect.op = some (report.op job.id now)) (still : effect.importer.job? = none)
  | abandoned (silent : effect.op = none) (still : effect.importer.job? = none)
      (lost : ∀ job, world.importer.job? = some job → job ∈ world.abandoned action)

/-- How a step moves the scan worker, as far as pending rows are concerned. -/
inductive ScanMoves (world : World) (action : Action) (effect : Effect) : Prop where
  | same (kept : effect.scanner = world.scanner)
  | idle (was : world.scanner.job? = none) (still : effect.scanner.job? = none)
  | claimed (was : world.scanner.job? = none) (job : Job) (workerId : String) (now : Time)
      (op : effect.op = some (.dequeueNextJob (World.scanRequest workerId) now))
      (owner : effect.scanner.job? = some job)
      (handed : (Op.dequeueNextJob (World.scanRequest workerId) now).claimed world.db = some job)
  /-- The scan goes on, or it ends before its report. -/
  | moved (was : world.scanner.goesOn = true)
      (owner : effect.scanner.job? = world.scanner.job? ∨ effect.scanner.job? = none)
  | reported (job : Job) (report : Report) (now : Time) (was : world.scanner.job? = some job)
      (op : effect.op = some (report.op job.id now)) (still : effect.scanner.job? = none)
  | abandoned (silent : effect.op = none) (still : effect.scanner.job? = none)
      (lost : ∀ job, world.scanner.job? = some job → job ∈ world.abandoned action)

section Moves

variable {world : World} {action : Action} {effect : Effect}

/-- The import worker has left a position that no job belongs to. -/
theorem imports_idle {importer : ImportPc} (here : world.importer = importer)
    (free : importer.job? = none) (still : effect.importer.job? = none) :
    ImportMoves world action effect := by
  apply ImportMoves.idle _ still
  rw [here]
  exact free

/-- A step inside an invocation of the import worker that runs no critical section. -/
theorem imports_moved {before after : ImportPc} (here : world.importer = before)
    (happens : world.importStep none after = some effect) (owner : after.job? = before.job?)
    (goesOn : ∀ row, after.goesOn row = true → before.goesOn row = true) :
    ImportMoves world action effect := by
  cases happens
  apply ImportMoves.moved rfl
  · rw [here]
    exact owner
  · rw [here]
    exact goesOn

/-- Every step moves the import worker in one of these ways. -/
theorem import_moves (happens : world.effect action = some effect) :
    ImportMoves world action effect := by
  cases action with
  | kill =>
      cases happens
      apply ImportMoves.abandoned rfl rfl
      intro job owner
      simp [World.abandoned, World.executors, owner]
  | importStart now cut =>
      simp only [World.effect] at happens
      split at happens
      · next importer _ =>
          cases happens
          exact imports_idle importer rfl rfl
      · contradiction
  | importRecover now cut =>
      simp only [World.effect] at happens
      split at happens
      · next importer =>
          cases happens
          exact imports_idle importer rfl rfl
      · contradiction
  | importClaim workerId now delivered =>
      simp only [World.effect] at happens
      split at happens
      case h_2 => contradiction
      next importer =>
        split at happens
        · next job claimed =>
            cases happens
            cases delivered with
            | false => exact imports_idle importer rfl rfl
            | true =>
                apply ImportMoves.claimed _ job workerId now rfl rfl claimed
                rw [importer]
                rfl
        · cases happens
          exact imports_idle importer rfl rfl
  | importBegin readOk =>
      simp only [World.effect] at happens
      split at happens
      case h_2 => contradiction
      next importer =>
        split at happens
        · apply imports_moved importer happens rfl
          intro row goesOn
          contradiction
        · split at happens
          · apply imports_moved importer happens rfl
            intro row goesOn
            contradiction
          · exact imports_moved importer happens rfl fun _ _ => rfl
  | importEnd outcome =>
      simp only [World.effect] at happens
      split at happens
      case h_2 => contradiction
      next importer =>
        cases outcome <;> exact imports_moved importer happens rfl fun _ _ => rfl
  | importJudge readOk =>
      simp only [World.effect] at happens
      split at happens
      case h_2 => contradiction
      next importer =>
        split at happens
        · next transient =>
            apply imports_moved importer happens rfl
            intro row retryable
            rw [Bool.and_eq_true] at transient
            simpa [ImportPc.goesOn, transient.2] using retryable
        · apply imports_moved importer happens rfl
          intro row goesOn
          contradiction
  | importRetry now stored =>
      simp only [World.effect] at happens
      split at happens
      case h_2 => contradiction
      next job error importer =>
        split at happens
        · next done =>
            rw [Bool.and_eq_true] at done
            cases happens
            exact .retried job error importer _ now _ rfl done.2 rfl
        · apply imports_moved importer happens rfl
          intro row goesOn
          contradiction
  | importReport now stored =>
      simp only [World.effect] at happens
      split at happens
      case h_2 => contradiction
      next job report importer =>
        cases happens
        cases stored with
        | false =>
            apply ImportMoves.abandoned rfl rfl
            intro job owner
            simp [World.abandoned, owner]
        | true =>
            apply ImportMoves.reported job report now _ rfl rfl
            rw [importer]
            rfl
  | enqueueJob request now | enqueueLibraryScan mode requestedBy now cut
  | requestJobCancel jobId | requestLibraryScanCancel runId now
  | heartbeat jobId leaseSec now | progress jobId progress now =>
      cases happens
      exact .same rfl
  | scanStart | scanReconcile now cut | scanProgress totals now | scanObserveCancel now
  | scanEnd outcome totals now stored | scanReport now stored =>
      simp only [World.effect] at happens
      split at happens
      · cases happens
        exact .same rfl
      · contradiction
  | scanClaim workerId now delivered =>
      simp only [World.effect] at happens
      split at happens
      case h_2 => contradiction
      split at happens <;> cases happens <;> exact .same rfl
  | scanBegin readOk now stored =>
      simp only [World.effect] at happens
      repeat' split at happens
      all_goals first | contradiction | (cases happens; exact .same rfl)

/-- The scan worker has left a position that no job belongs to. -/
theorem scans_idle {scanner : ScanPc} (here : world.scanner = scanner)
    (free : scanner.job? = none) (still : effect.scanner.job? = none) :
    ScanMoves world action effect := by
  apply ScanMoves.idle _ still
  rw [here]
  exact free

/-- A step inside a scan that has not ended. -/
theorem scans_moved {before after : ScanPc} {op : Option Op} (here : world.scanner = before)
    (happens : world.scanStep op after = some effect) (was : before.goesOn = true)
    (owner : after.job? = before.job? ∨ after.job? = none) : ScanMoves world action effect := by
  cases happens
  apply ScanMoves.moved
  · rw [here]
    exact was
  · rw [here]
    exact owner

/-- Every step moves the scan worker in one of these ways. -/
theorem scan_moves (happens : world.effect action = some effect) :
    ScanMoves world action effect := by
  cases action with
  | kill =>
      cases happens
      apply ScanMoves.abandoned rfl rfl
      intro job owner
      simp [World.abandoned, World.executors, owner]
  | importStart now cut =>
      simp only [World.effect] at happens
      split at happens
      · cases happens
        exact .same rfl
      · contradiction
  | enqueueJob request now | enqueueLibraryScan mode requestedBy now cut
  | requestJobCancel jobId | requestLibraryScanCancel runId now
  | heartbeat jobId leaseSec now | progress jobId progress now =>
      cases happens
      exact .same rfl
  | importRecover now cut | importReport now stored =>
      simp only [World.effect] at happens
      split at happens
      · cases happens
        exact .same rfl
      · contradiction
  | importClaim workerId now delivered | importBegin readOk | importEnd outcome
  | importJudge readOk | importRetry now stored =>
      simp only [World.effect] at happens
      repeat' split at happens
      all_goals first | contradiction | (cases happens; exact .same rfl)
  | scanStart =>
      simp only [World.effect] at happens
      split at happens
      · next scanner =>
          cases happens
          exact scans_idle scanner rfl rfl
      · contradiction
  | scanReconcile now cut =>
      simp only [World.effect] at happens
      split at happens
      · next scanner =>
          cases happens
          exact scans_idle scanner rfl rfl
      · contradiction
  | scanClaim workerId now delivered =>
      simp only [World.effect] at happens
      split at happens
      case h_2 => contradiction
      next scanner =>
        split at happens
        · next job claimed =>
            cases happens
            cases delivered with
            | false => exact scans_idle scanner rfl rfl
            | true =>
                apply ScanMoves.claimed _ job workerId now rfl rfl claimed
                rw [scanner]
                rfl
        · cases happens
          exact scans_idle scanner rfl rfl
  | scanBegin readOk now stored =>
      simp only [World.effect] at happens
      split at happens
      case h_2 => contradiction
      next scanner =>
        split at happens
        · exact scans_moved scanner happens rfl (Or.inr rfl)
        · split at happens
          · exact scans_moved scanner happens rfl (Or.inl rfl)
          · split at happens <;> exact scans_moved scanner happens rfl (Or.inl rfl)
  | scanProgress totals now | scanObserveCancel now | scanEnd outcome totals now stored =>
      simp only [World.effect] at happens
      split at happens
      case h_2 => contradiction
      next scanner => exact scans_moved scanner happens rfl (Or.inl rfl)
  | scanReport now stored =>
      simp only [World.effect] at happens
      split at happens
      case h_2 => contradiction
      next job report scanner =>
        cases happens
        cases stored with
        | false =>
            apply ScanMoves.abandoned rfl rfl
            intro job owner
            simp [World.abandoned, owner]
        | true =>
            apply ScanMoves.reported job report now _ rfl rfl
            rw [scanner]
            rfl

end Moves

/-! ## Where a pending row comes from -/

section Rows

variable {world : World} {action : Action} {effect : Effect} {old row : Job}

theorem imports_iff : world.imports row = true ↔
    ∃ job, world.importer.job? = some job ∧ job.id = row.id := by
  simp [World.imports, Option.any_eq_true]

theorem scans_iff : world.scans row = true ↔
    ∃ job, world.scanner.job? = some job ∧ job.id = row.id := by
  simp [World.scans, Option.any_eq_true]

theorem toCome_imported (mine : world.imports row = true)
    (goesOn : world.importer.goesOn row = true) : world.toCome row = true := by
  simp only [World.toCome, mine, if_true, goesOn]

theorem toCome_scanned (other : ¬world.imports row = true) (mine : world.scans row = true)
    (goesOn : world.scanner.goesOn = true) : world.toCome row = true := by
  simp only [World.toCome, if_neg other, mine, if_true, goesOn]

theorem toCome_free (other : ¬world.imports row = true) (free : ¬world.scans row = true)
    (waits : row.waits = true) : world.toCome row = true := by
  simp only [World.toCome, if_neg other, if_neg free, waits]

theorem waits_of_queued (queued : row.state = .queued) : row.waits = true := by
  simp [Job.waits, queued]

/-- No row is held by both threads. -/
theorem not_imports_of_scans (held : world.Held) (mine : world.scans row = true) :
    ¬world.imports row = true := by
  intro other
  rcases scans_iff.mp mine with ⟨scanned, scanner, scanId⟩
  rcases imports_iff.mp other with ⟨imported, importer, importId⟩
  exact held.ne_id importer scanner (importId.trans scanId.symm)

/-- A job is enqueued by a request. -/
theorem enqueued_jid (happens : world.effect action = some effect) {op : Op}
    (ran : effect.op = some op) (inserts : op.Inserts world.db row) :
    world.enqueuedJid action = some row.jid := by
  cases op with
  | enqueueJob request now =>
      rw [enqueued_by happens ran, inserts.1]
      rfl
  | enqueueLibraryScan mode requestedBy now cut =>
      cases action with
      | enqueueLibraryScan =>
          cases happens
          cases ran
          rw [inserts.1]
          rfl
      | importReport | scanReport =>
          simp only [World.effect] at happens
          split at happens
          · next report _ =>
              cases happens
              cases report <;> simp [Report.op] at ran
          · contradiction
      | _ =>
          simp only [World.effect, World.request, World.importStep, World.scanStep] at happens
          repeat' split at happens
          all_goals cases happens
          all_goals first | contradiction | simp at ran
  | _ => exact inserts.elim

/-- No step claims the row that the import worker holds. -/
theorem unclaimed (held : world.Held) (happens : world.effect action = some effect)
    (mine : world.imports row = true) {op : Op} (ran : effect.op = some op) {job : Job}
    (sameId : job.id = row.id) : op.claimed world.db ≠ some job := by
  intro claimed
  rcases imports_iff.mp mine with ⟨imported, owner, importId⟩
  cases effect_cases happens with
  | background plain =>
      rw [(plain op ran).claimed_eq] at claimed
      contradiction
  | booted _ _ recovers | swept _ _ _ recovers =>
      cases recovers.symm.trans ran
      contradiction
  | importReported _ report _ _ reports | scanReported _ report _ _ reports =>
      cases reports.symm.trans ran
      rw [Report.op_claimed] at claimed
      contradiction
  | importClaimed _ _ idle =>
      rw [idle] at owner
      contradiction
  | scanClaimed workerId now _ claim =>
      cases claim.symm.trans ran
      have scan := scanRequest_type claimed
      rcases claimed_eq_some claimed with ⟨⟨chosen, chosenMem, _, rfl⟩, _⟩
      rcases held.importer _ owner with ⟨notScan, stored, storedMem, storedId, sameType⟩
      have same : chosen = stored :=
        Table.eq_of_key_eq chosenMem storedMem (sameId.trans (importId.symm.trans storedId.symm))
      rw [ClaimRequest.claim_type, same, sameType] at scan
      exact notScan scan

/-- A row that can be retried could be retried before, while the import worker holds it. -/
theorem retryable_back {op : Op} (move : Moves op old row) (trace : Traced op world.db old row)
    (unclaimed : op.claimed world.db ≠ some row) (retryable : row.retryable = true) :
    old.retryable = true := by
  simp only [Job.retryable, decide_eq_true_eq] at retryable ⊢
  rcases retryable with ⟨state, remaining, notRequested⟩
  rw [move.maxAttempts] at remaining
  refine ⟨?_, ?_, ?_⟩
  · rcases state with running | cancelling
    · rcases trace.running running with was | claimed
      · exact Or.inl was
      · exact absurd claimed unclaimed
    · cases move.transition with
      | kept same => exact Or.inr (same.symm.trans cancelling)
      | cancelling was => exact Or.inl was
      | claimed _ other | retried _ _ other | requeued _ _ _ other | exhausted _ _ _ other =>
          rw [cancelling] at other
          contradiction
      | reported _ terminal =>
          rw [cancelling] at terminal
          contradiction
  · have grown := move.attempts_le
    omega
  · by_contra requested
    have kept := move.cancelRequested (by simpa using requested)
    rw [notRequested] at kept
    contradiction

theorem Moves.recoveryLimit {op : Op} (move : Moves op old row) :
    row.recoveryLimit = old.recoveryLimit := by
  simp only [Job.recoveryLimit, move.maxAttempts]

/-- A free row that waits was waiting. -/
theorem waits_back {op : Op} (move : Moves op old row) (trace : Traced op world.db old row)
    (unretried : ∀ errorText delaySec resultState now,
      op ≠ .scheduleJobRetry old.id errorText delaySec resultState now)
    (waits : row.waits = true) : old.waits = true := by
  simp only [Job.waits, Bool.or_eq_true, Bool.and_eq_true, decide_eq_true_eq] at waits ⊢
  rcases waits with queued | ⟨running, remaining⟩
  · rcases trace.queued queued with was | requeues
    · exact Or.inl was
    · cases op with
      | scheduleJobRetry jobId errorText delaySec resultState now =>
          rcases requeues with ⟨rfl, _⟩
          exact (unretried _ _ _ _ rfl).elim
      | recoverStaleRunningJobs maxAgeSec force now cut =>
          rcases requeues with ⟨stale, left⟩
          simp only [Job.stale, Bool.and_eq_true, decide_eq_true_eq] at stale
          exact Or.inr ⟨stale.1, left⟩
      | _ => exact requeues.elim
  · have grown := move.attempts_le
    rw [move.recoveryLimit] at remaining
    cases move.transition with
    | kept same => exact Or.inr ⟨same.symm.trans running, by omega⟩
    | claimed was => exact Or.inl was
    | cancelling _ other | retried _ _ other | requeued _ _ _ other | exhausted _ _ _ other =>
        rw [running] at other
        contradiction
    | reported _ terminal =>
        rw [running] at terminal
        contradiction

/-- A step without a critical section leaves the rows. -/
theorem row_silent (oldMem : old ∈ world.db.jobs.rows)
    (rowMem : row ∈ (world.perform effect).db.jobs.rows) (sameId : row.id = old.id)
    (silent : effect.op = none) : row = old := by
  rcases perform_traced oldMem rowMem sameId with same | ⟨op, ran, _⟩
  · exact same
  · rw [silent] at ran
    contradiction

/-- The row a claim hands out was waiting, and no thread held it. -/
theorem claimed_back {request : ClaimRequest} {now : Time} {job : Job}
    (oldMem : old ∈ world.db.jobs.rows)
    (handed : (Op.dequeueNextJob request now).claimed world.db = some job)
    (mine : job.id = old.id) : old.state = .queued ∧ old.type = job.type := by
  rcases claimed_eq_some handed with ⟨⟨chosen, chosenMem, eligible, rfl⟩, _⟩
  rw [Table.eq_of_key_eq oldMem chosenMem mine.symm]
  exact ⟨(ClaimRequest.eligible_iff.mp eligible).1, rfl⟩

/-- A row that the import worker holds and goes on with was to come. -/
theorem imported_back (held : world.Held) (happens : world.effect action = some effect)
    (oldMem : old ∈ world.db.jobs.rows) (rowMem : row ∈ (world.perform effect).db.jobs.rows)
    (sameId : row.id = old.id) {job : Job} (owner : effect.importer.job? = some job)
    (mine : job.id = row.id) (goesOn : effect.importer.goesOn row = true) :
    world.toCome old = true := by
  have held_before (was : world.importer.job? = some job) : world.imports old = true :=
    imports_iff.mpr ⟨job, was, mine.trans sameId⟩
  cases import_moves happens with
  | same kept =>
      rw [kept] at owner goesOn
      have imports := held_before owner
      apply toCome_imported imports
      rcases perform_traced oldMem rowMem sameId with rfl | ⟨op, ran, move, trace⟩
      · exact goesOn
      · have retryable := retryable_back move trace (unclaimed held happens imports ran sameId)
        cases position : world.importer <;> rw [position] at goesOn <;>
          simp_all [ImportPc.goesOn]
  | idle _ still | retried _ _ _ _ _ _ _ _ still | reported _ _ _ _ _ still
  | abandoned _ still =>
      rw [still] at owner
      contradiction
  | claimed was claimed workerId now _ holder handed =>
      rw [owner] at holder
      cases holder
      have waiting := claimed_back oldMem handed (mine.trans sameId)
      apply toCome_free
      · intro imports
        rcases imports_iff.mp imports with ⟨other, otherOwner, _⟩
        rw [was] at otherOwner
        contradiction
      · intro scans
        rcases scans_iff.mp scans with ⟨scanned, scanner, scanId⟩
        rcases held.scanner _ scanner with ⟨scan, stored, storedMem, storedId, sameType⟩
        have same := Table.eq_of_key_eq storedMem oldMem (storedId.trans scanId)
        have notScan := importRequest_type handed
        rw [← waiting.2, ← same, sameType] at notScan
        exact notScan scan
      · exact waits_of_queued waiting.1
  | moved silent keeps before =>
      rw [keeps] at owner
      rw [row_silent oldMem rowMem sameId silent] at goesOn
      exact toCome_imported (held_before owner) (before old goesOn)

/-- A row that the scan worker holds and goes on with was to come. -/
theorem scanned_back (held : world.Held) (happens : world.effect action = some effect)
    (oldMem : old ∈ world.db.jobs.rows) (sameId : row.id = old.id) {job : Job}
    (owner : effect.scanner.job? = some job) (mine : job.id = row.id)
    (goesOn : effect.scanner.goesOn = true) : world.toCome old = true := by
  have before (was : world.scanner.job? = some job) (going : world.scanner.goesOn = true) :
      world.toCome old = true := by
    have scans := scans_iff.mpr ⟨job, was, mine.trans sameId⟩
    exact toCome_scanned (not_imports_of_scans held scans) scans going
  cases scan_moves happens with
  | same kept =>
      rw [kept] at owner goesOn
      exact before owner goesOn
  | idle _ still | reported _ _ _ _ _ still | abandoned _ still =>
      rw [still] at owner
      contradiction
  | claimed was claimed workerId now _ holder handed =>
      rw [owner] at holder
      cases holder
      have waiting := claimed_back oldMem handed (mine.trans sameId)
      apply toCome_free
      · intro imports
        rcases imports_iff.mp imports with ⟨imported, importer, importId⟩
        rcases held.importer _ importer with ⟨notScan, stored, storedMem, storedId, sameType⟩
        have same := Table.eq_of_key_eq storedMem oldMem (storedId.trans importId)
        have scan := scanRequest_type handed
        rw [← waiting.2, ← same, sameType] at scan
        exact notScan scan
      · intro scans
        rcases scans_iff.mp scans with ⟨other, otherOwner, _⟩
        rw [was] at otherOwner
        contradiction
      · exact waits_of_queued waiting.1
  | moved was keeps =>
      rcases keeps with keeps | still
      · rw [keeps] at owner
        exact before owner was
      · rw [still] at owner
        contradiction

/-- A reported row is no longer active. -/
theorem reported_inactive {report : Report} {jobId : Nat} {now : Time}
    (ran : effect.op = some (report.op jobId now))
    (rowMem : row ∈ (world.perform effect).db.jobs.rows) (mine : row.id = jobId) :
    ¬row.state.Active := by
  rw [reported_state ran rowMem mine]
  exact report.terminal.not_active

/-- A row that waits without a thread was to come, unless its invocation is given up. -/
theorem free_back (happens : world.effect action = some effect)
    (oldMem : old ∈ world.db.jobs.rows) (rowMem : row ∈ (world.perform effect).db.jobs.rows)
    (sameId : row.id = old.id) (active : row.state.Active)
    (unimported : ¬(world.perform effect).imports row = true)
    (unscanned : ¬(world.perform effect).scans row = true) (waits : row.waits = true) :
    world.toCome old = true ∨
      (old.waits = true ∧ ∃ job ∈ world.abandoned action, job.id = old.id) := by
  by_cases imports : world.imports old = true
  · rcases imports_iff.mp imports with ⟨job, owner, mine⟩
    have leaves (stays : effect.importer.job? = world.importer.job?) : False := by
      apply unimported
      exact imports_iff.mpr ⟨job, stays.trans owner, mine.trans sameId.symm⟩
    cases import_moves happens with
    | same kept => exact (leaves (by rw [kept])).elim
    | idle was | claimed was =>
        rw [was] at owner
        contradiction
    | moved _ keeps => exact (leaves keeps).elim
    | retried other error was delaySec now resultState op done =>
        left
        apply toCome_imported imports
        rw [was] at owner
        cases owner
        rw [was]
        simp only [scheduleJobRetry, decide_eq_true_eq, Table.count_pos_iff] at done
        rcases done with ⟨accepted, acceptedMem, accept⟩
        simp only [Bool.and_eq_true, decide_eq_true_eq] at accept
        rw [Table.eq_of_key_eq oldMem acceptedMem (mine.symm.trans accept.1.symm)]
        exact accept.2
    | reported other report now was op =>
        rw [owner] at was
        cases was
        exact absurd active (reported_inactive op rowMem (sameId.trans mine.symm))
    | abandoned silent _ lost =>
        rw [row_silent oldMem rowMem sameId silent] at waits
        exact Or.inr ⟨waits, job, lost job owner, mine⟩
  by_cases scans : world.scans old = true
  · rcases scans_iff.mp scans with ⟨job, owner, mine⟩
    have leaves (stays : effect.scanner.job? = world.scanner.job?) : False := by
      apply unscanned
      exact scans_iff.mpr ⟨job, stays.trans owner, mine.trans sameId.symm⟩
    cases scan_moves happens with
    | same kept => exact (leaves (by rw [kept])).elim
    | idle was | claimed was =>
        rw [was] at owner
        contradiction
    | moved was => exact Or.inl (toCome_scanned imports scans was)
    | reported other report now was op =>
        rw [owner] at was
        cases was
        exact absurd active (reported_inactive op rowMem (sameId.trans mine.symm))
    | abandoned silent _ lost =>
        rw [row_silent oldMem rowMem sameId silent] at waits
        exact Or.inr ⟨waits, job, lost job owner, mine⟩
  left
  apply toCome_free imports scans
  rcases perform_traced oldMem rowMem sameId with rfl | ⟨op, ran, move, trace⟩
  · exact waits
  · apply waits_back move trace _ waits
    intro errorText delaySec resultState now retry
    rw [retry] at ran
    rcases retried_by happens ran with ⟨job, owner, mine, _⟩
    exact imports (imports_iff.mpr ⟨job, owner, mine⟩)

/-- Where a pending job comes from: the download had one, its invocation is given up, or it
is enqueued. -/
theorem pending_back (held : world.Held) (happens : world.effect action = some effect)
    {jid : String} (pending : (world.perform effect).pending jid = true) :
    world.pending jid = true ∨
      (∃ old ∈ world.db.jobs.rows, old.jid = jid ∧ old.waits = true ∧
        ∃ job ∈ world.abandoned action, job.id = old.id) ∨
      world.enqueuedJid action = some jid := by
  rcases World.pending_iff.mp pending with ⟨row, rowMem, rfl, active, toCome⟩
  rcases row_origin rowMem with ⟨old, oldMem, sameId, work, _⟩ | ⟨op, ran, inserts⟩
  case inr => exact Or.inr (Or.inr (enqueued_jid happens ran inserts))
  have sameJid : old.jid = row.jid := (congrArg Work.jid work).symm
  have wasActive : old.state.Active := by
    rcases perform_traced oldMem rowMem sameId with rfl | ⟨op, _, move, _⟩
    · exact active
    · exact move.was_active active
  have stays (still : world.toCome old = true) : world.pending row.jid = true :=
    World.pending_iff.mpr ⟨old, oldMem, sameJid, wasActive, still⟩
  simp only [World.toCome] at toCome
  split at toCome
  · next imports =>
      rcases imports_iff.mp imports with ⟨job, owner, mine⟩
      exact Or.inl (stays (imported_back held happens oldMem rowMem sameId owner mine toCome))
  · next unimported =>
      split at toCome
      · next scans =>
          rcases scans_iff.mp scans with ⟨job, owner, mine⟩
          exact Or.inl (stays (scanned_back held happens oldMem sameId owner mine toCome))
      · next unscanned =>
          rcases free_back happens oldMem rowMem sameId active unimported unscanned toCome
            with still | ⟨waits, given⟩
          · exact Or.inl (stays still)
          · exact Or.inr (Or.inl ⟨old, oldMem, sameJid, waits, given⟩)

end Rows

end Mintarr.Queue
