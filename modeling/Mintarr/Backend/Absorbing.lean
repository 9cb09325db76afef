import Mintarr.Backend.Lane

/-!
# Terminal states of the backend lane

`update_backend_job` does not look at the state it overwrites, so a writer is
only right when the row is still where the writer saw it.  No writer decides on
a terminal state, and a poll never decides on a row that is importing; hence a
step changes a terminal state, or ends an import from a poll, exactly when
another thread moved the row between the step's read and its write.
-/

namespace Mintarr.Backend

open Lib BackendState

/-! ## What the writers decide from -/

/-- The steps that may end an import: the worker's mirrored outcome, a cancel or
discard, and the revert after a failed enqueue. -/
def Action.EndsImport : Action → Prop
  | .mirrorWrite .. | .cancelWrite .. | .revert .. => True
  | _ => False

instance (action : Action) : Decidable action.EndsImport := by
  cases action <;> simp only [Action.EndsImport] <;> infer_instance

/-- A write of the state column rests on a state that may be left: never a terminal
one, and for a poll not `importing`. -/
structure Write.Grounded (write : Write) : Prop where
  left : write.patch.state.isSome → ¬write.seen.Terminal
  polled : write.patch.state.isSome → write.writer = .poll → write.seen ≠ .importing

/-- The update of a row an effect issues, if any. -/
def Effect.write? (effect : Effect) : Option Write :=
  match effect.op with
  | some (.update write) => some write
  | _ => none

/-- No request thread is about to cancel a row it saw in a terminal state. -/
def World.Guarded (world : World) : Prop :=
  ∀ thread jid seen, world.threads thread = .cancelling jid seen → ¬seen.Terminal

section Inversion

variable {world : World} {action : Action} {effect : Effect} {write : Write}

/-- A patch without a state is grounded whatever it rests on. -/
theorem grounded_of_none (absent : write.patch.state = none) : write.Grounded := by
  constructor <;> intro present <;> rw [absent] at present <;> contradiction

/-- A poll that moves a row saw it before the import. -/
theorem reconcile_grounded {job : BackendJob} {status : BackendJobStatus} {writer : Writer}
    {now : Queue.Time} {stored : Bool} :
    (Write.mk job.jid job.state writer (job.reconcile status) now stored).Grounded := by
  by_cases moved : nextLifecycleState job.state status.state = job.state
  · exact grounded_of_none (by simp [BackendJob.reconcile, moved])
  · rcases nextLifecycleState_ne moved with ⟨left, importing, _⟩
    exact ⟨fun _ => left, fun _ _ => importing⟩

/-- A step of the worker process writes no row. -/
theorem queueStep_op {inner : Queue.Action}
    (happens : world.queueStep inner = some effect) : effect.op = none := by
  cases inner <;> simp only [World.queueStep] at happens <;>
    (repeat' split at happens) <;>
    simp only [Option.map_eq_some_iff, reduceCtorEq] at happens <;>
    (rcases happens with ⟨_, _, rfl⟩; rfl)

theorem threadStep_op {thread : Nat} {op : Option RowOp} {next : Option BackendJob → Thread}
    (happens : world.threadStep thread op next = some effect) : effect.op = op := by
  cases happens
  rfl

/-- What the table access of an effect may be. -/
inductive Accesses (world : World) (action : Action) (op : Option RowOp) : Prop where
  | nothing (none : op = none)
  | created (request : NewBackendJob) (now : Queue.Time) (same : op = some (.create request now))
      (free : world.rows.find? (request.row now).jid = none)
      (state : request.state = .downloading)
  | wrote (write : Write) (same : op = some (.update write)) (grounded : write.Grounded)
      (writer : write.writer = .poll ↔ ¬action.EndsImport)

/-- A write of a poll. -/
theorem accesses_poll (grounded : write.Grounded) (poll : write.writer = .poll)
    (continues : ¬action.EndsImport) : Accesses world action (some (.update write)) :=
  .wrote write rfl grounded ⟨fun _ => continues, fun _ => poll⟩

/-- A write of another writer, decided from a state that is not terminal. -/
theorem accesses_other (left : ¬write.seen.Terminal) (other : write.writer ≠ .poll)
    (ends : action.EndsImport) : Accesses world action (some (.update write)) :=
  .wrote write rfl ⟨fun _ => left, fun _ poll => (other poll).elim⟩
    ⟨fun poll => (other poll).elim, fun continues => (continues ends).elim⟩

/-- The table access of each step. -/
theorem effect_accesses (guarded : world.Guarded) (happens : world.effect action = some effect) :
    Accesses world action effect.op := by
  cases action with
  | queue inner =>
      exact .nothing (queueStep_op happens)
  | create jid sourceType category backendJobId title now =>
      simp only [World.effect] at happens
      split at happens
      · contradiction
      · next free =>
          cases happens
          exact .created _ now rfl (by simpa using free) rfl
  | restoreReview thread displayName now stored =>
      simp only [World.effect] at happens
      repeat' split at happens
      all_goals cases happens
      all_goals first | exact .nothing rfl | exact accesses_poll (grounded_of_none rfl) rfl id
  | capture thread albumId now stored =>
      simp only [World.effect] at happens
      repeat' split at happens
      all_goals cases happens
      all_goals first | exact .nothing rfl | exact accesses_poll (grounded_of_none rfl) rfl id
  | decide thread now stored =>
      simp only [World.effect] at happens
      repeat' split at happens
      all_goals cases happens
      · exact accesses_poll reconcile_grounded rfl id
      · exact .nothing rfl
  | ingest thread root relpath now stored =>
      simp only [World.effect] at happens
      repeat' split at happens
      all_goals cases happens
      · exact .nothing rfl
      · exact accesses_poll ⟨fun _ => not_terminal_completed, by simp⟩ rfl id
  | revert thread now stored =>
      simp only [World.effect] at happens
      repeat' split at happens
      all_goals cases happens
      exact accesses_other not_terminal_importing (by simp) trivial
  | cancelWrite thread now stored =>
      simp only [World.effect] at happens
      split at happens
      case h_2 => contradiction
      next jid seen position =>
        cases happens
        exact accesses_other (guarded thread jid seen position) (by simp) trivial
  | mirrorWrite now stored =>
      simp only [World.effect] at happens
      repeat' split at happens
      all_goals cases happens
      exact accesses_other not_terminal_importing (by simp) trivial
  | _ =>
      simp only [World.effect] at happens
      repeat' split at happens
      all_goals cases happens
      all_goals exact .nothing rfl

/-- A step leaves the threads of the others alone, and its own cancelling only if the
row it read is not terminal. -/
theorem guarded_update {thread : Nat} {position : Thread} (guarded : world.Guarded)
    (own : ∀ jid seen, position = .cancelling jid seen → ¬seen.Terminal) :
    ∀ other jid seen, Function.update world.threads thread position other =
      .cancelling jid seen → ¬seen.Terminal := by
  intro other jid seen position_
  rw [Function.update_apply] at position_
  split at position_
  · exact own jid seen position_
  · exact guarded other jid seen position_

theorem decided_ne_cancelling {newState : BackendState} {status : BackendJobStatus}
    {listed : List BackendJob} {job : BackendJob} {jid : String} {seen : BackendState} :
    Thread.decided newState status listed job ≠ .cancelling jid seen := by
  simp only [Thread.decided]
  split <;> exact nofun

/-- Idle threads cancel nothing. -/
theorem guarded_idle : ∀ thread : Nat, ∀ jid seen,
    (fun _ : Nat => Thread.idle) thread = .cancelling jid seen → ¬seen.Terminal := by
  intros
  contradiction

theorem guarded_effect (guarded : world.Guarded) (happens : world.effect action = some effect) :
    (world.perform effect).Guarded := by
  cases action with
  | queue inner =>
      cases inner <;> simp only [World.effect, World.queueStep] at happens <;>
        (repeat' split at happens) <;>
        simp only [Option.map_eq_some_iff, reduceCtorEq] at happens <;>
        rcases happens with ⟨_, _, rfl⟩
      all_goals first | exact guarded_idle | exact guarded
  | decide thread now stored =>
      simp only [World.effect] at happens
      repeat' split at happens
      all_goals cases happens
      · refine guarded_update guarded ?_
        intro jid seen position
        generalize Option.bind _ _ = updated at position
        cases updated with
        | none => cases position
        | some row => exact (decided_ne_cancelling position).elim
      · exact guarded_update guarded fun _ _ position => (decided_ne_cancelling position).elim
  | ingest thread root relpath now stored =>
      simp only [World.effect] at happens
      repeat' split at happens
      all_goals cases happens
      · exact guarded_update guarded (by intros; contradiction)
      · refine guarded_update guarded ?_
        intro jid seen position
        generalize Option.bind _ _ = updated at position
        cases updated <;> cases position
  | enqueue thread now stored =>
      simp only [World.effect] at happens
      repeat' split at happens
      all_goals cases happens
      all_goals exact guarded_update guarded (by intros; contradiction)
  | cancelRead thread jid readOk =>
      simp only [World.effect] at happens
      repeat' split at happens
      all_goals cases happens
      case h_2.isFalse.refl nonterminal =>
        refine guarded_update guarded ?_
        intro _ _ position
        cases position
        exact nonterminal
      all_goals exact guarded_update guarded (by intros; contradiction)
  | create jid sourceType category backendJobId title now | mirrorRead outcome projection readOk | mirrorWrite now stored =>
      simp only [World.effect] at happens
      repeat' split at happens
      all_goals cases happens
      all_goals exact guarded
  | _ =>
      simp only [World.effect] at happens
      repeat' split at happens
      all_goals cases happens
      all_goals exact guarded_update guarded (by intros; contradiction)

theorem guarded_initial : World.initial.Guarded := fun _ _ _ => nofun

/-- A step of the lane keeps the guard of the cancelling threads. -/
theorem guarded_step {next : World} (guarded : world.Guarded)
    (stepped : lane.step world action = some next) : next.Guarded := by
  simp only [lane, Option.map_eq_some_iff] at stepped
  rcases stepped with ⟨effect, happens, rfl⟩
  exact guarded_effect guarded happens

end Inversion

/-! ## Overtaken writes -/

/-- The write comes too late: since its writer looked at the row, the row has been
moved to a terminal state, or to `importing` when the writer is a poll, and the write
would move it on. -/
def Write.Overtaken (write : Write) (rows : BackendJobs) : Prop :=
  write.stored = true ∧ ∃ new ∈ write.patch.state, ∃ now ∈ stateOf rows write.jid,
    now ≠ write.seen ∧ now ≠ new ∧ (now.Terminal ∨ now = .importing ∧ write.writer = .poll)

/-- The step is no overtaken write. -/
def World.Timely (world : World) (action : Action) : Prop :=
  ∀ effect write, world.effect action = some effect → effect.op = some (.update write) →
    ¬write.Overtaken world.rows

/-- The step changes no terminal state and leaves `importing` only where an import may
end. -/
def World.Absorbs (world : World) (action : Action) : Prop :=
  ∀ next, lane.step world action = some next →
    ∀ jid state, stateOf world.rows jid = some state →
      (state.Terminal → stateOf next.rows jid = some state) ∧
      (state = .importing → stateOf next.rows jid = some .importing ∨ action.EndsImport)

section Absorbing

variable {world next : World} {action : Action} {effect : Effect} {write : Write}

/-- A timely step is absorbed. -/
theorem absorbs_of_timely (guarded : world.Guarded) (timely : world.Timely action) :
    world.Absorbs action := by
  intro next stepped jid state before
  simp only [lane, Option.map_eq_some_iff] at stepped
  rcases stepped with ⟨effect, happens, rfl⟩
  cases effect_accesses guarded happens with
  | nothing none =>
      have same : (world.perform effect).rows = world.rows := by simp [none]
      rw [same]
      exact ⟨fun _ => before, fun importing => Or.inl (importing ▸ before)⟩
  | created request now same free _ =>
      have after : stateOf (world.perform effect).rows jid = some state := by
        rw [World.perform_rows, same]
        exact stateOf_createBackendJob free before
      exact ⟨fun _ => after, fun importing => Or.inl (importing ▸ after)⟩
  | wrote write same grounded writer =>
      have notOvertaken := timely effect write happens same
      rw [stateOf_perform same, before, Option.map_some]
      by_cases hit : write.stored = true ∧ jid = write.jid
      case neg =>
        rw [if_neg hit]
        exact ⟨fun _ => rfl, fun importing => Or.inl (by rw [importing])⟩
      rcases hit with ⟨stored, rfl⟩
      rw [if_pos ⟨stored, rfl⟩]
      cases column : write.patch.state with
      | none => exact ⟨fun _ => rfl, fun importing => Or.inl (by rw [importing]; rfl)⟩
      | some new =>
          have left := grounded.left (by simp [column])
          have polled := grounded.polled (by simp [column])
          rw [Option.getD_some]
          constructor
          · intro terminal
            by_contra moved
            refine notOvertaken ⟨stored, new, column, state, before, ?_, ?_, Or.inl terminal⟩
            · intro seen
              exact left (seen ▸ terminal)
            · intro equal
              exact moved (by rw [equal])
          · intro importing
            by_cases ends : action.EndsImport
            · exact Or.inr ends
            left
            have poll := writer.mpr ends
            by_contra moved
            refine notOvertaken ⟨stored, new, column, state, before, ?_, ?_,
              Or.inr ⟨importing, poll⟩⟩
            · intro seen
              exact polled poll (seen ▸ importing)
            · intro equal
              exact moved (by rw [← equal, importing])

/-- An overtaken write is not absorbed. -/
theorem timely_of_absorbs (guarded : world.Guarded) (absorbs : world.Absorbs action) :
    world.Timely action := by
  intro effect write happens same overtaken
  rcases overtaken with ⟨stored, new, column, state, before, _, differs, reason⟩
  have stepped : lane.step world action = some (world.perform effect) := by
    simp only [lane, happens, Option.map_some]
  have after : stateOf (world.perform effect).rows write.jid = some new := by
    rw [stateOf_perform same, if_pos ⟨stored, rfl⟩, before, Option.map_some, column,
      Option.getD_some]
  rcases absorbs _ stepped write.jid state before with ⟨terminal, importing⟩
  rw [after, Option.some.injEq] at terminal importing
  rcases reason with final | ⟨imports, poll⟩
  · exact differs (terminal final).symm
  · rcases importing imports with same' | ends
    · exact differs (imports.trans same'.symm)
    · cases effect_accesses guarded happens with
      | nothing none =>
          rw [none] at same
          contradiction
      | created request now created free _ =>
          rw [created] at same
          cases same
      | wrote other other_same grounded writer =>
          rw [other_same] at same
          cases same
          exact writer.mp poll ends

/-- Terminal states absorb, and imports end only where they may, in exactly the runs
without an overtaken write. -/
theorem backend_terminal_absorbing_iff (actions : List Action) (after : World) :
    lane.RunWhere World.Absorbs .initial actions after ↔
      lane.RunWhere World.Timely .initial actions after := by
  constructor
  · intro run
    refine run.imp_where World.Guarded (fun _ _ _ => guarded_step) ?_ guarded_initial
    intro _ _ _ guarded _ absorbs
    exact timely_of_absorbs guarded absorbs
  · intro run
    refine run.imp_where World.Guarded (fun _ _ _ => guarded_step) ?_ guarded_initial
    intro _ _ _ guarded _ timely
    exact absorbs_of_timely guarded timely

/-- Along such a run a terminal state stays. -/
theorem terminal_stays {actions : List Action} {before after : World} {jid : String}
    {state : BackendState} (run : lane.RunWhere World.Absorbs before actions after)
    (stored : stateOf before.rows jid = some state) (terminal : state.Terminal) :
    stateOf after.rows jid = some state := by
  induction run with
  | nil => exact stored
  | cons absorbs stepped _ ih => exact ih ((absorbs _ stepped jid state stored).1 terminal)

/-- A poll reads a row as downloading and asks the backend; before it writes, Lidarr
removes the download. -/
def pollOvertakenByDelete : List Action :=
  [.create "3f2a" "sab_usenet_backend" "backend" (some "SABnzbd_nzo_1") none 1,
    .poll 0, .capture 0 none 2 true,
    .status 0 (some { state := .completed, completedPath := some "/dl/a", displayName := none }),
    .cancelRead 1 "3f2a" true, .cancelWrite 1 3 true]

/-- The poll's write then makes the cancelled row `completed`, and it goes on to import
it. -/
theorem backend_terminal_reopened : ∃ before after : World,
    lane.Run .initial pollOvertakenByDelete before ∧
      stateOf before.rows "3f2a" = some .cancelled ∧
      lane.Run before [.decide 0 4 true, .ingest 0 "/dl" (some "a") 5 true] after ∧
      stateOf after.rows "3f2a" = some .importing := by
  have cancels : (lane.exec .initial pollOvertakenByDelete).map
      (fun world => stateOf world.rows "3f2a") = some (some .cancelled) := by decide +kernel
  have reopens : ((lane.exec .initial pollOvertakenByDelete).bind fun before =>
      lane.exec before [.decide 0 4 true, .ingest 0 "/dl" (some "a") 5 true]).map
      (fun world => stateOf world.rows "3f2a") = some (some .importing) := by decide +kernel
  rcases Option.map_eq_some_iff.mp cancels with ⟨before, first, cancelled⟩
  rw [first, Option.bind_some] at reopens
  rcases Option.map_eq_some_iff.mp reopens with ⟨after, second, importing⟩
  exact ⟨before, after, Machine.run_of_exec first, cancelled, Machine.run_of_exec second,
    importing⟩

end Absorbing

end Mintarr.Backend
