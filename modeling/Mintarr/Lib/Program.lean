import Mathlib.Logic.Basic

/-!
# Programs that call their surroundings

A program is a tree: it returns a value, raises an exception, or makes a call and
continues with the answer.  The surroundings have a state of their own and say which
answers a call may get in a state, and which state it leaves.  A run is one way through
the tree.

`Ensures` is the weakest precondition of a program and agrees with its runs; `Triple`
packages it for programs that may raise.  A program whose calls all keep an invariant
keeps it, whatever it does with the answers.
-/

namespace Mintarr.Lib

/-- Programs over the calls `Q`, each with a type of answers, that raise `ε`. -/
inductive Program (Q : Type) (A : Q → Type) (ε α : Type) where
  | pure (value : α)
  | throw (error : ε)
  | call (question : Q) (next : A question → Program Q A ε α)

namespace Program

variable {Q : Type} {A : Q → Type} {ε α β σ : Type}

/-- The first program, and the second on its value. -/
def bind : Program Q A ε α → (α → Program Q A ε β) → Program Q A ε β
  | .pure value, next => next value
  | .throw error, _ => .throw error
  | .call question rest, next => .call question fun answer => (rest answer).bind next

/-- The program, and the handler on the exception it raises. -/
def tryCatch : Program Q A ε α → (ε → Program Q A ε α) → Program Q A ε α
  | .pure value, _ => .pure value
  | .throw error, handler => handler error
  | .call question rest, handler =>
      .call question fun answer => (rest answer).tryCatch handler

instance : Monad (Program Q A ε) where
  pure := .pure
  bind := bind

instance : MonadExceptOf ε (Program Q A ε) where
  throw := .throw
  tryCatch := tryCatch

theorem bind_assoc (program : Program Q A ε α) (next : α → Program Q A ε β)
    (last : β → Program Q A ε σ) :
    (program.bind next).bind last = program.bind fun value => (next value).bind last := by
  induction program with
  | pure value => rfl
  | throw error => rfl
  | call question rest ih =>
      rw [bind, bind, bind]
      congr 1
      funext answer
      exact ih answer

theorem bind_pure (program : Program Q A ε α) : program.bind .pure = program := by
  induction program with
  | pure value => rfl
  | throw error => rfl
  | call question rest ih =>
      rw [bind]
      congr 1
      funext answer
      exact ih answer

instance : LawfulMonad (Program Q A ε) :=
  .mk' _ bind_pure (fun _ _ => rfl) bind_assoc

/-- The call alone. -/
def ask (question : Q) : Program Q A ε (A question) := .call question .pure

/-! ## Calls -/

/-- Every call of the program is one of `allowed`, and it raises nothing but `raises`. -/
def Within (allowed : Q → Prop) (raises : ε → Prop) : Program Q A ε α → Prop
  | .pure _ => True
  | .throw error => raises error
  | .call question next =>
      allowed question ∧ ∀ answer, (next answer).Within allowed raises

variable {allowed : Q → Prop} {raises : ε → Prop} {program : Program Q A ε α}

theorem Within.pure (value : α) :
    (Pure.pure value : Program Q A ε α).Within allowed raises := trivial

theorem Within.throw {error : ε} (raised : raises error) :
    (MonadExcept.throw error : Program Q A ε α).Within allowed raises := raised

theorem Within.ask {question : Q} (permitted : allowed question) :
    (ask question : Program Q A ε _).Within allowed raises := ⟨permitted, fun _ => trivial⟩

/-- Sequencing makes the calls of both. -/
theorem Within.bind {next : α → Program Q A ε β} (first : program.Within allowed raises)
    (rest : ∀ value, (next value).Within allowed raises) :
    (program >>= next).Within allowed raises := by
  induction program with
  | pure value => exact rest value
  | throw error => exact first
  | call question tail ih => exact ⟨first.1, fun answer => ih answer (first.2 answer)⟩

/-- A handler adds its own calls, and only its exceptions are left. -/
theorem Within.tryCatch {raised : ε → Prop} {handler : ε → Program Q A ε α}
    (body : program.Within allowed raised)
    (handled : ∀ error, raised error → (handler error).Within allowed raises) :
    (MonadExcept.tryCatch program handler).Within allowed raises := by
  induction program with
  | pure value => trivial
  | throw error => exact handled error body
  | call question tail ih => exact ⟨body.1, fun answer => ih answer (body.2 answer)⟩

/-- A loop makes the calls of its rounds. -/
theorem Within.forM_of_mem {items : List β} {round : β → Program Q A ε PUnit}
    (rounds : ∀ item ∈ items, (round item).Within allowed raises) :
    (items.forM round).Within allowed raises := by
  induction items with
  | nil => trivial
  | cons item items ih =>
      rw [List.forall_mem_cons] at rounds
      exact rounds.1.bind fun _ => ih rounds.2

theorem Within.forM {items : List β} {round : β → Program Q A ε PUnit}
    (rounds : ∀ item, (round item).Within allowed raises) :
    (items.forM round).Within allowed raises :=
  .forM_of_mem fun item _ => rounds item

/-- A loop that carries a value. -/
theorem Within.foldlM_of_mem {items : List β} {round : α → β → Program Q A ε α} {value : α}
    (rounds : ∀ value, ∀ item ∈ items, (round value item).Within allowed raises) :
    (items.foldlM round value).Within allowed raises := by
  induction items generalizing value with
  | nil => trivial
  | cons item items ih =>
      have first := rounds value item List.mem_cons_self
      exact first.bind fun _ =>
        ih fun value other member => rounds value other (List.mem_cons_of_mem item member)

theorem Within.foldlM {items : List β} {round : α → β → Program Q A ε α} {value : α}
    (rounds : ∀ value item, (round value item).Within allowed raises) :
    (items.foldlM round value).Within allowed raises :=
  .foldlM_of_mem fun value item _ => rounds value item

theorem Within.imp {other : Q → Prop} {others : ε → Prop}
    (within : program.Within allowed raises)
    (calls : ∀ question, allowed question → other question)
    (errors : ∀ error, raises error → others error) : program.Within other others := by
  induction program with
  | pure value => trivial
  | throw error => exact errors _ within
  | call question next ih =>
      exact ⟨calls _ within.1, fun answer => ih answer (within.2 answer)⟩

/-! ## Exceptions that are answers -/

/-- Every call of the program is one of `allowed`, and all that it raises is what a call was
just answered, as `relayed` says. -/
def Relays (allowed : Q → Prop) (relayed : (question : Q) → A question → ε → Prop) :
    Program Q A ε α → Prop
  | .pure _ => True
  | .throw _ => False
  | .call question next => allowed question ∧ ∀ answer,
      (∃ error, next answer = .throw error ∧ relayed question answer error) ∨
        (next answer).Relays allowed relayed

variable {relayed : (question : Q) → A question → ε → Prop}

theorem Relays.pure (value : α) :
    (Pure.pure value : Program Q A ε α).Relays allowed relayed := trivial

theorem Relays.ask {question : Q} (permitted : allowed question) :
    (ask question : Program Q A ε _).Relays allowed relayed :=
  ⟨permitted, fun _ => .inr trivial⟩

theorem Relays.bind {next : α → Program Q A ε β} (first : program.Relays allowed relayed)
    (rest : ∀ value, (next value).Relays allowed relayed) :
    (program >>= next).Relays allowed relayed := by
  induction program with
  | pure value => exact rest value
  | throw error => exact first.elim
  | call question tail ih =>
      refine ⟨first.1, fun answer => ?_⟩
      rcases first.2 answer with ⟨error, raised, relays⟩ | relays
      · refine .inl ⟨error, ?_, relays⟩
        change (tail answer).bind next = .throw error
        rw [raised]
        rfl
      · exact .inr (ih answer relays)

/-- A loop relays what its rounds relay. -/
theorem Relays.forM {items : List β} {round : β → Program Q A ε PUnit}
    (rounds : ∀ item ∈ items, (round item).Relays allowed relayed) :
    (items.forM round).Relays allowed relayed := by
  induction items with
  | nil => trivial
  | cons item items ih =>
      rw [List.forall_mem_cons] at rounds
      exact rounds.1.bind fun _ => ih rounds.2

theorem Relays.foldlM {items : List β} {round : α → β → Program Q A ε α} {value : α}
    (rounds : ∀ value item, (round value item).Relays allowed relayed) :
    (items.foldlM round value).Relays allowed relayed := by
  induction items generalizing value with
  | nil => trivial
  | cons item items ih => exact (rounds value item).bind fun _ => ih

/-- The calls of a program that relays. -/
theorem Relays.within (relays : program.Relays allowed relayed) :
    program.Within allowed fun _ => True := by
  induction program with
  | pure value => trivial
  | throw error => exact relays.elim
  | call question next ih =>
      refine ⟨relays.1, fun answer => ?_⟩
      cases relays.2 answer with
      | inl throws =>
          obtain ⟨error, raised, _⟩ := throws
          rw [raised]
          trivial
      | inr relays => exact ih answer relays

end Program

open Program

/-- Surroundings with states `σ`: a call in a state may get an answer and leave a state. -/
structure Surroundings (Q : Type) (A : Q → Type) (σ : Type) where
  answers : σ → (question : Q) → A question → σ → Prop

namespace Surroundings

variable {Q : Type} {A : Q → Type} {ε α β σ : Type} {surroundings : Surroundings Q A σ}

/-- `surroundings.Run start program finish outcome`: a run of the program. -/
inductive Run (surroundings : Surroundings Q A σ) :
    σ → Program Q A ε α → σ → Except ε α → Prop
  | pure (state : σ) (value : α) : Run surroundings state (.pure value) state (.ok value)
  | throw (state : σ) (error : ε) : Run surroundings state (.throw error) state (.error error)
  | call {start next finish : σ} {question : Q} {rest : A question → Program Q A ε α}
      {answer : A question} {outcome : Except ε α} :
      surroundings.answers start question answer next →
      Run surroundings next (rest answer) finish outcome →
      Run surroundings start (.call question rest) finish outcome

/-- The surroundings when only the steps that meet `guard` are made. -/
def restrict (surroundings : Surroundings Q A σ)
    (guard : σ → (question : Q) → A question → σ → Prop) : Surroundings Q A σ where
  answers start question answer next :=
    surroundings.answers start question answer next ∧ guard start question answer next

section Run

variable {start finish : σ} {program : Program Q A ε α} {outcome : Except ε α}

/-- What every step keeps, a run keeps. -/
theorem Run.invariant (invariant : σ → Prop)
    (kept : ∀ before question answer after, invariant before →
      surroundings.answers before question answer after → invariant after)
    (run : surroundings.Run start program finish outcome) (initially : invariant start) :
    invariant finish := by
  induction run with
  | pure state value => exact initially
  | throw state error => exact initially
  | call answered _ ih => exact ih (kept _ _ _ _ initially answered)

/-- The steps that a guard leaves are steps. -/
theorem Run.of_restrict {guard : σ → (question : Q) → A question → σ → Prop}
    (run : (surroundings.restrict guard).Run start program finish outcome) :
    surroundings.Run start program finish outcome := by
  induction run with
  | pure state value => exact .pure state value
  | throw state error => exact .throw state error
  | call answered _ ih => exact .call answered.1 ih

end Run

/-! ## Weakest preconditions -/

/-- However the calls are answered, the program ends with `post`. -/
def Ensures (surroundings : Surroundings Q A σ) :
    Program Q A ε α → (σ → Except ε α → Prop) → σ → Prop
  | .pure value, post, state => post state (.ok value)
  | .throw error, post, state => post state (.error error)
  | .call question next, post, state =>
      ∀ answer after, surroundings.answers state question answer after →
        surroundings.Ensures (next answer) post after

variable {program : Program Q A ε α} {post : σ → Except ε α → Prop} {state : σ}

/-- A program ensures what holds at the end of all its runs. -/
theorem ensures_iff : surroundings.Ensures program post state ↔
    ∀ finish outcome, surroundings.Run state program finish outcome → post finish outcome := by
  induction program generalizing state with
  | pure value =>
      constructor
      · rintro ends finish outcome ⟨⟩
        exact ends
      · exact fun runs => runs _ _ (.pure ..)
  | throw error =>
      constructor
      · rintro ends finish outcome ⟨⟩
        exact ends
      · exact fun runs => runs _ _ (.throw ..)
  | call question next ih =>
      constructor
      · rintro ends finish outcome ⟨⟩
        next answered run => exact (ih _).mp (ends _ _ answered) _ _ run
      · exact fun runs answer after answered =>
          (ih _).mpr fun finish outcome run => runs _ _ (.call answered run)

theorem Ensures.imp {other : σ → Except ε α → Prop}
    (ensures : surroundings.Ensures program post state)
    (implies : ∀ finish outcome, post finish outcome → other finish outcome) :
    surroundings.Ensures program other state :=
  ensures_iff.mpr fun _ _ run => implies _ _ (ensures_iff.mp ensures _ _ run)

theorem Ensures.and {other : σ → Except ε α → Prop}
    (ensures : surroundings.Ensures program post state)
    (others : surroundings.Ensures program other state) :
    surroundings.Ensures program
      (fun finish outcome => post finish outcome ∧ other finish outcome) state :=
  ensures_iff.mpr fun _ _ run =>
    ⟨ensures_iff.mp ensures _ _ run, ensures_iff.mp others _ _ run⟩

/-- What comes after the first program is ensured from where it ends. -/
theorem ensures_bind {next : α → Program Q A ε β} {post : σ → Except ε β → Prop} :
    surroundings.Ensures (program >>= next) post state ↔
      surroundings.Ensures program
        (fun after outcome =>
          match outcome with
          | .ok value => surroundings.Ensures (next value) post after
          | .error error => post after (.error error)) state := by
  induction program generalizing state with
  | pure value => rfl
  | throw error => rfl
  | call question rest ih =>
      exact forall₃_congr fun answer after _ => ih answer

/-- A handler is run where the program raises. -/
theorem ensures_tryCatch {handler : ε → Program Q A ε α} :
    surroundings.Ensures (MonadExcept.tryCatch program handler) post state ↔
      surroundings.Ensures program
        (fun after outcome =>
          match outcome with
          | .ok value => post after (.ok value)
          | .error error => surroundings.Ensures (handler error) post after) state := by
  induction program generalizing state with
  | pure value => rfl
  | throw error => rfl
  | call question rest ih =>
      exact forall₃_congr fun answer after _ => ih answer

/-- A program keeps what each of its calls keeps. -/
theorem ensures_of_within {allowed : Q → Prop} {raises : ε → Prop} {invariant : σ → Prop}
    (within : program.Within allowed raises)
    (kept : ∀ before question answer after, allowed question → invariant before →
      surroundings.answers before question answer after → invariant after)
    (initially : invariant state) :
    surroundings.Ensures program
      (fun finish outcome => invariant finish ∧ ∀ error, outcome = .error error → raises error)
      state := by
  induction program generalizing state with
  | pure value => exact ⟨initially, by rintro _ ⟨⟩⟩
  | throw error =>
      refine ⟨initially, ?_⟩
      rintro _ ⟨⟩
      exact within
  | call question next ih =>
      exact fun answer after answered =>
        ih answer (within.2 answer) (kept _ _ _ _ within.1 initially answered)

/-! ## Triples -/

/-- From `pre` the program returns with `post` or raises with `fail`. -/
def Triple (surroundings : Surroundings Q A σ) (pre : σ → Prop) (program : Program Q A ε α)
    (post : α → σ → Prop) (fail : ε → σ → Prop) : Prop :=
  ∀ state, pre state → surroundings.Ensures program
    (fun finish outcome =>
      match outcome with
      | .ok value => post value finish
      | .error error => fail error finish) state

namespace Triple

variable {pre : σ → Prop} {post : α → σ → Prop} {fail : ε → σ → Prop}

theorem pure {value : α} (holds : ∀ state, pre state → post value state) :
    surroundings.Triple pre (Pure.pure value : Program Q A ε α) post fail := holds

theorem throw {error : ε} (holds : ∀ state, pre state → fail error state) :
    surroundings.Triple pre (MonadExcept.throw error : Program Q A ε α) post fail := holds

theorem ask {question : Q} {post : A question → σ → Prop}
    (holds : ∀ before answer after, pre before →
      surroundings.answers before question answer after → post answer after) :
    surroundings.Triple pre (Program.ask question : Program Q A ε _) post fail :=
  fun before initially answer after answered => holds before answer after initially answered

theorem bind {next : α → Program Q A ε β} {middle : α → σ → Prop} {post : β → σ → Prop}
    (first : surroundings.Triple pre program middle fail)
    (rest : ∀ value, surroundings.Triple (middle value) (next value) post fail) :
    surroundings.Triple pre (program >>= next) post fail := by
  intro state initially
  refine ensures_bind.mpr ((first state initially).imp ?_)
  rintro finish (error | value) ends
  · exact ends
  · exact rest value finish ends

theorem tryCatch {handler : ε → Program Q A ε α} {raised : ε → σ → Prop}
    (body : surroundings.Triple pre program post raised)
    (handled : ∀ error, surroundings.Triple (raised error) (handler error) post fail) :
    surroundings.Triple pre (MonadExcept.tryCatch program handler) post fail := by
  intro state initially
  refine ensures_tryCatch.mpr ((body state initially).imp ?_)
  rintro finish (error | value) ends
  · exact handled error finish ends
  · exact ends

/-- The rule of consequence. -/
theorem imp {pre' : σ → Prop} {post' : α → σ → Prop} {fail' : ε → σ → Prop}
    (triple : surroundings.Triple pre program post fail)
    (before : ∀ state, pre' state → pre state)
    (after : ∀ value state, post value state → post' value state)
    (raised : ∀ error state, fail error state → fail' error state) :
    surroundings.Triple pre' program post' fail' := by
  intro state initially
  refine (triple state (before state initially)).imp ?_
  rintro finish (error | value) ends
  · exact raised error finish ends
  · exact after value finish ends

/-- What two triples say of a program holds together. -/
theorem and {pre' : σ → Prop} {post' : α → σ → Prop} {fail' : ε → σ → Prop}
    (triple : surroundings.Triple pre program post fail)
    (other : surroundings.Triple pre' program post' fail') :
    surroundings.Triple (fun state => pre state ∧ pre' state) program
      (fun value state => post value state ∧ post' value state)
      fun error state => fail error state ∧ fail' error state := by
  rintro state ⟨holds, holds'⟩
  refine ((triple state holds).and (other state holds')).imp ?_
  rintro finish (error | value) ends <;> exact ends

/-- A loop keeps what its rounds keep. -/
theorem forM {invariant : σ → Prop} {items : List β} {round : β → Program Q A ε PUnit}
    (rounds : ∀ item ∈ items,
      surroundings.Triple invariant (round item) (fun _ => invariant) fail) :
    surroundings.Triple invariant (items.forM round) (fun _ => invariant) fail := by
  induction items with
  | nil => exact pure fun _ holds => holds
  | cons item items ih =>
      rw [List.forall_mem_cons] at rounds
      exact rounds.1.bind fun _ => ih rounds.2

/-- A loop over two lists is two loops. -/
theorem forM_append {middle : σ → Prop} {post : PUnit → σ → Prop} {items others : List β}
    {round : β → Program Q A ε PUnit}
    (first : surroundings.Triple pre (items.forM round) (fun _ => middle) fail)
    (rest : surroundings.Triple middle (others.forM round) post fail) :
    surroundings.Triple pre ((items ++ others).forM round) post fail := by
  rw [List.forM_eq_forM, List.forM_append]
  exact first.bind fun _ => rest

/-- A loop that carries a value. -/
theorem foldlM {invariant : α → σ → Prop} {items : List β} {round : α → β → Program Q A ε α}
    {value : α}
    (rounds : ∀ value item,
      surroundings.Triple (invariant value) (round value item) invariant fail) :
    surroundings.Triple (invariant value) (items.foldlM round value) invariant fail := by
  induction items generalizing value with
  | nil => exact pure fun _ holds => holds
  | cons item items ih => exact (rounds value item).bind fun _ => ih

/-- A program keeps what each of its calls keeps. -/
theorem of_within {allowed : Q → Prop} {raises : ε → Prop} {invariant : σ → Prop}
    (within : program.Within allowed raises)
    (kept : ∀ before question answer after, allowed question → invariant before →
      surroundings.answers before question answer after → invariant after) :
    surroundings.Triple invariant program (fun _ => invariant)
      fun error state => raises error ∧ invariant state := by
  intro state initially
  refine (ensures_of_within within kept initially).imp ?_
  rintro finish (error | value) ⟨holds, raised⟩
  · exact ⟨raised error rfl, holds⟩
  · exact holds

/-- A program that relays keeps what its calls keep, and raises where one of them does. -/
theorem of_relays {allowed : Q → Prop} {relayed : (question : Q) → A question → ε → Prop}
    {invariant : σ → Prop} (relays : program.Relays allowed relayed)
    (kept : ∀ before question answer after, allowed question → invariant before →
      surroundings.answers before question answer after → invariant after)
    (raised : ∀ before question answer after error, allowed question → invariant before →
      surroundings.answers before question answer after → relayed question answer error →
      fail error after) :
    surroundings.Triple invariant program (fun _ => invariant) fail := by
  intro state initially
  induction program generalizing state with
  | pure value => exact initially
  | throw error => exact relays.elim
  | call question next ih =>
      rcases relays with ⟨permitted, continues⟩
      intro answer after answered
      rcases continues answer with ⟨error, throws, relayed⟩ | relays
      · rw [throws]
        exact raised _ _ _ _ _ permitted initially answered relayed
      · exact ih answer relays after (kept _ _ _ _ permitted initially answered)

/-- A triple is about every run. -/
theorem iff_run : surroundings.Triple pre program post fail ↔
    ∀ start finish outcome, pre start → surroundings.Run start program finish outcome →
      match outcome with
      | .ok value => post value finish
      | .error error => fail error finish := by
  constructor
  · exact fun triple start finish outcome initially run =>
      ensures_iff.mp (triple start initially) finish outcome run
  · exact fun runs start initially => ensures_iff.mpr fun finish outcome run =>
      runs start finish outcome initially run

end Triple

/-! ## Playing a run -/

/-- The run in which every call is answered by `reply`. -/
def play (reply : σ → (question : Q) → A question × σ) :
    Program Q A ε α → σ → σ × Except ε α
  | .pure value, state => (state, .ok value)
  | .throw error, state => (state, .error error)
  | .call question next, state =>
      play reply (next (reply state question).1) (reply state question).2

/-- Where the replies are possible, so is the run. -/
theorem run_play {reply : σ → (question : Q) → A question × σ}
    (possible : ∀ state question,
      surroundings.answers state question (reply state question).1 (reply state question).2)
    (program : Program Q A ε α) (state : σ) :
    surroundings.Run state program (play reply program state).1
      (play reply program state).2 := by
  induction program generalizing state with
  | pure value => exact .pure state value
  | throw error => exact .throw state error
  | call question next ih => exact .call (possible state question) (ih _ _)

/-- Every step of the played run meets the guard. -/
def playsWithin (reply : σ → (question : Q) → A question × σ)
    (guard : σ → (question : Q) → A question → σ → Bool) : Program Q A ε α → σ → Bool
  | .pure _, _ => true
  | .throw _, _ => true
  | .call question next, state =>
      guard state question (reply state question).1 (reply state question).2 &&
        playsWithin reply guard (next (reply state question).1) (reply state question).2

theorem run_restrict_play {reply : σ → (question : Q) → A question × σ}
    {guard : σ → (question : Q) → A question → σ → Bool}
    (possible : ∀ state question,
      surroundings.answers state question (reply state question).1 (reply state question).2)
    (program : Program Q A ε α) (state : σ) (within : playsWithin reply guard program state) :
    (surroundings.restrict fun before question answer after =>
      guard before question answer after = true).Run state program
      (play reply program state).1 (play reply program state).2 := by
  induction program generalizing state with
  | pure value => exact .pure state value
  | throw error => exact .throw state error
  | call question next ih =>
      rw [playsWithin, Bool.and_eq_true] at within
      exact .call ⟨possible state question, within.1⟩ (ih _ _ within.2)

end Surroundings

end Mintarr.Lib
