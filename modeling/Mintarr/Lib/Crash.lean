import Mintarr.Lib.Program

/-!
# Programs that may be killed

A run of a program may be cut off before any of its calls.  `Cut` says in which states, and
`Safe` that a property holds in all of them; a crash triple adds it to a triple, as a third
postcondition.

A device answers calls as a reply says.  Against a list of replies a program is executed to
its end or, where the replies are used up, to the call before which it was killed.
-/

namespace Mintarr.Lib

open Program

namespace Surroundings

variable {Q : Type} {A : Q → Type} {ε α β σ : Type} {surroundings : Surroundings Q A σ}

/-- `surroundings.Cut start program finish`: the program was killed in `finish`, before one of
its calls. -/
inductive Cut (surroundings : Surroundings Q A σ) : σ → Program Q A ε α → σ → Prop
  | here (state : σ) (question : Q) (rest : A question → Program Q A ε α) :
      Cut surroundings state (.call question rest) state
  | call {start next finish : σ} {question : Q} {rest : A question → Program Q A ε α}
      {answer : A question} :
      surroundings.answers start question answer next →
      Cut surroundings next (rest answer) finish →
      Cut surroundings start (.call question rest) finish

/-- Wherever the program is killed, `killed` holds. -/
def Safe (surroundings : Surroundings Q A σ) (killed : σ → Prop) : Program Q A ε α → σ → Prop
  | .pure _, _ => True
  | .throw _, _ => True
  | .call question next, state =>
      killed state ∧ ∀ answer after, surroundings.answers state question answer after →
        surroundings.Safe killed (next answer) after

variable {program : Program Q A ε α} {killed : σ → Prop} {state : σ}

/-- A program is safe where all its cuts are. -/
theorem safe_iff : surroundings.Safe killed program state ↔
    ∀ finish, surroundings.Cut state program finish → killed finish := by
  induction program generalizing state with
  | pure value =>
      constructor
      · intro _ finish cut
        cases cut
      · intro _
        trivial
  | throw error =>
      constructor
      · intro _ finish cut
        cases cut
      · intro _
        trivial
  | call question next ih =>
      constructor
      · intro safe finish cut
        cases cut with
        | here => exact safe.1
        | call answered cut => exact (ih _).mp (safe.2 _ _ answered) finish cut
      · intro cuts
        constructor
        · exact cuts state (.here ..)
        · intro answer after answered
          apply (ih answer).mpr
          intro finish cut
          exact cuts finish (.call answered cut)

theorem Safe.imp {other : σ → Prop} (safe : surroundings.Safe killed program state)
    (implies : ∀ finish, killed finish → other finish) :
    surroundings.Safe other program state := by
  apply safe_iff.mpr
  intro finish cut
  exact implies finish (safe_iff.mp safe finish cut)

/-- The second program is safe wherever the first one returns. -/
theorem safe_bind {next : α → Program Q A ε β} :
    surroundings.Safe killed (program >>= next) state ↔
      surroundings.Safe killed program state ∧
        surroundings.Ensures program
          (fun after outcome =>
            match outcome with
            | .ok value => surroundings.Safe killed (next value) after
            | .error _ => True) state := by
  induction program generalizing state with
  | pure value => exact (iff_of_eq (true_and _)).symm
  | throw error => exact (iff_of_eq (and_true _)).symm
  | call question rest ih =>
      constructor
      · intro safe
        have tails := fun answer after answered => (ih answer).mp (safe.2 answer after answered)
        constructor
        · exact ⟨safe.1, fun answer after answered => (tails answer after answered).1⟩
        · exact fun answer after answered => (tails answer after answered).2
      · intro safe
        constructor
        · exact safe.1.1
        · intro answer after answered
          exact (ih answer).mpr ⟨safe.1.2 answer after answered, safe.2 answer after answered⟩

/-- The handler is safe wherever the program raises. -/
theorem safe_tryCatch {handler : ε → Program Q A ε α} :
    surroundings.Safe killed (MonadExcept.tryCatch program handler) state ↔
      surroundings.Safe killed program state ∧
        surroundings.Ensures program
          (fun after outcome =>
            match outcome with
            | .ok _ => True
            | .error error => surroundings.Safe killed (handler error) after) state := by
  induction program generalizing state with
  | pure value => exact (iff_of_eq (and_true _)).symm
  | throw error => exact (iff_of_eq (true_and _)).symm
  | call question rest ih =>
      constructor
      · intro safe
        have tails := fun answer after answered => (ih answer).mp (safe.2 answer after answered)
        constructor
        · exact ⟨safe.1, fun answer after answered => (tails answer after answered).1⟩
        · exact fun answer after answered => (tails answer after answered).2
      · intro safe
        constructor
        · exact safe.1.1
        · intro answer after answered
          exact (ih answer).mpr ⟨safe.1.2 answer after answered, safe.2 answer after answered⟩

/-! ## Crash triples -/

/-- From `pre` the program returns with `post`, raises with `fail`, or is killed with
`killed`. -/
structure CrashTriple (surroundings : Surroundings Q A σ) (pre : σ → Prop)
    (program : Program Q A ε α) (post : α → σ → Prop) (fail : ε → σ → Prop)
    (killed : σ → Prop) : Prop where
  ends : surroundings.Triple pre program post fail
  cuts : ∀ state, pre state → surroundings.Safe killed program state

namespace CrashTriple

variable {pre : σ → Prop} {post : α → σ → Prop} {fail : ε → σ → Prop}

theorem pure {value : α} (holds : ∀ state, pre state → post value state) :
    surroundings.CrashTriple pre (Pure.pure value : Program Q A ε α) post fail killed :=
  ⟨.pure holds, fun _ _ => trivial⟩

theorem throw {error : ε} (holds : ∀ state, pre state → fail error state) :
    surroundings.CrashTriple pre (MonadExcept.throw error : Program Q A ε α) post fail killed :=
  ⟨.throw holds, fun _ _ => trivial⟩

theorem ask {question : Q} {post : A question → σ → Prop}
    (before : ∀ state, pre state → killed state)
    (holds : ∀ before answer after, pre before →
      surroundings.answers before question answer after → post answer after) :
    surroundings.CrashTriple pre (Program.ask question : Program Q A ε _) post fail killed := by
  constructor
  · exact .ask holds
  · intro state initially
    exact ⟨before state initially, fun _ _ _ => trivial⟩

theorem bind {next : α → Program Q A ε β} {middle : α → σ → Prop} {post : β → σ → Prop}
    (first : surroundings.CrashTriple pre program middle fail killed)
    (rest : ∀ value, surroundings.CrashTriple (middle value) (next value) post fail killed) :
    surroundings.CrashTriple pre (program >>= next) post fail killed := by
  constructor
  · exact first.ends.bind fun value => (rest value).ends
  · intro state initially
    apply safe_bind.mpr
    constructor
    · exact first.cuts state initially
    · apply (first.ends state initially).imp
      intro finish outcome ends
      cases outcome with
      | ok value => exact (rest value).cuts finish ends
      | error error => trivial

theorem tryCatch {handler : ε → Program Q A ε α} {raised : ε → σ → Prop}
    (body : surroundings.CrashTriple pre program post raised killed)
    (handled : ∀ error,
      surroundings.CrashTriple (raised error) (handler error) post fail killed) :
    surroundings.CrashTriple pre (MonadExcept.tryCatch program handler) post fail killed := by
  constructor
  · exact body.ends.tryCatch fun error => (handled error).ends
  · intro state initially
    apply safe_tryCatch.mpr
    constructor
    · exact body.cuts state initially
    · apply (body.ends state initially).imp
      intro finish outcome ends
      cases outcome with
      | ok value => trivial
      | error error => exact (handled error).cuts finish ends

/-- The rule of consequence. -/
theorem imp {pre' : σ → Prop} {post' : α → σ → Prop} {fail' : ε → σ → Prop}
    {killed' : σ → Prop}
    (triple : surroundings.CrashTriple pre program post fail killed)
    (before : ∀ state, pre' state → pre state)
    (after : ∀ value state, post value state → post' value state)
    (raised : ∀ error state, fail error state → fail' error state)
    (cut : ∀ state, killed state → killed' state) :
    surroundings.CrashTriple pre' program post' fail' killed' := by
  constructor
  · exact triple.ends.imp before after raised
  · intro state initially
    exact (triple.cuts state (before state initially)).imp cut

/-- A precondition that is the same everywhere is a hypothesis. -/
theorem of_fact {fact : Prop}
    (triple : fact → surroundings.CrashTriple pre program post fail killed) :
    surroundings.CrashTriple (fun state => fact ∧ pre state) program post fail killed := by
  constructor
  · intro state initially
    exact (triple initially.1).ends state initially.2
  · intro state initially
    exact (triple initially.1).cuts state initially.2

/-- What is never begun does no harm. -/
theorem of_never (never : ∀ state, ¬pre state) :
    surroundings.CrashTriple pre program post fail killed := by
  constructor
  · intro state initially
    exact absurd initially (never state)
  · intro state initially
    exact absurd initially (never state)

/-- A loop keeps what its rounds keep. -/
theorem forM {invariant : σ → Prop} {items : List β} {round : β → Program Q A ε PUnit}
    (rounds : ∀ item ∈ items,
      surroundings.CrashTriple invariant (round item) (fun _ => invariant) fail killed) :
    surroundings.CrashTriple invariant (items.forM round) (fun _ => invariant) fail killed := by
  induction items with
  | nil => exact pure fun _ holds => holds
  | cons item items ih =>
      rw [List.forall_mem_cons] at rounds
      exact rounds.1.bind fun _ => ih rounds.2

/-- A loop whose invariant speaks of the rounds that are done. -/
theorem forM_done {invariant : List β → σ → Prop} {items : List β}
    {round : β → Program Q A ε PUnit} (start : List β)
    (rounds : ∀ before item after, items = before ++ item :: after →
      surroundings.CrashTriple (invariant (start ++ before)) (round item)
        (fun _ => invariant (start ++ (before ++ [item]))) fail killed) :
    surroundings.CrashTriple (invariant start) (items.forM round)
      (fun _ => invariant (start ++ items)) fail killed := by
  induction items generalizing start with
  | nil =>
      rw [List.append_nil]
      exact pure fun _ holds => holds
  | cons item items ih =>
      have first := rounds [] item items rfl
      rw [List.append_nil, List.nil_append] at first
      apply first.bind
      intro _
      have rest := ih (start ++ [item]) fun before other after same => by
        have later := rounds (item :: before) other after (by rw [same, List.cons_append])
        simpa only [List.append_assoc, List.cons_append, List.nil_append] using later
      simpa only [List.append_assoc, List.cons_append, List.nil_append] using rest

/-- Nothing is said of any program. -/
theorem any : surroundings.CrashTriple pre program (fun _ _ => True) (fun _ _ => True)
    fun _ => True := by
  constructor
  · intro state _
    apply ensures_iff.mpr
    intro finish outcome _
    cases outcome with
    | ok value => trivial
    | error error => trivial
  · intro state _
    exact safe_iff.mpr fun _ _ => trivial

/-- A program keeps what each of its calls keeps, however far it comes. -/
theorem of_within {allowed : Q → Prop} {raises : ε → Prop} {invariant : σ → Prop}
    (within : program.Within allowed raises)
    (kept : ∀ before question answer after, allowed question → invariant before →
      surroundings.answers before question answer after → invariant after) :
    surroundings.CrashTriple invariant program (fun _ => invariant)
      (fun error state => raises error ∧ invariant state) invariant := by
  constructor
  · exact .of_within within kept
  · intro state initially
    induction program generalizing state with
    | pure value => trivial
    | throw error => trivial
    | call question next ih =>
        constructor
        · exact initially
        · intro answer after answered
          exact ih answer (within.2 answer) after (kept _ _ _ _ within.1 initially answered)

end CrashTriple

end Surroundings

/-! ## Devices -/

/-- What answers calls: a reply decides the answer and the next state. -/
structure Device (Q : Type) (A : Q → Type) (R σ : Type) where
  respond : σ → (question : Q) → R → A question × σ

namespace Device

variable {Q : Type} {A : Q → Type} {ε α R σ : Type} (device : Device Q A R σ)

/-- Execute a program against a list of replies; nothing is returned where it is killed. -/
def exec : Program Q A ε α → List R → σ → σ × Option (Except ε α)
  | .pure value, _, state => (state, some (.ok value))
  | .throw error, _, state => (state, some (.error error))
  | .call _ _, [], state => (state, none)
  | .call question next, reply :: script, state =>
      exec (next (device.respond state question reply).1) script
        (device.respond state question reply).2

/-- Every call of that execution meets `guard`. -/
def Meets (guard : σ → Q → R → Prop) : Program Q A ε α → List R → σ → Prop
  | .pure _, _, _ => True
  | .throw _, _, _ => True
  | .call _ _, [], _ => True
  | .call question next, reply :: script, state =>
      guard state question reply ∧
        Meets guard (next (device.respond state question reply).1) script
          (device.respond state question reply).2

/-- The device as surroundings, with the replies that meet a guard. -/
def surroundings (guard : σ → Q → R → Prop) : Surroundings Q A σ where
  answers before question answer after :=
    ∃ reply, guard before question reply ∧ device.respond before question reply = (answer, after)

variable {device} {guard : σ → Q → R → Prop} {program : Program Q A ε α} {script : List R}
  {start finish : σ}

/-- An execution is a run, or a cut. -/
theorem exec_run (meets : device.Meets guard program script start) :
    match device.exec program script start with
    | (finish, some outcome) => (device.surroundings guard).Run start program finish outcome
    | (finish, none) => (device.surroundings guard).Cut start program finish := by
  induction program generalizing script start with
  | pure value => exact .pure start value
  | throw error => exact .throw start error
  | call question next ih =>
      cases script with
      | nil => exact .here start question next
      | cons reply script =>
          have rest := ih _ meets.2
          have answered : (device.surroundings guard).answers start question
              (device.respond start question reply).1
              (device.respond start question reply).2 := ⟨reply, meets.1, rfl⟩
          unfold exec
          revert rest
          cases device.exec (next (device.respond start question reply).1) script
              (device.respond start question reply).2 with
          | mk finish outcome =>
              cases outcome with
              | none => exact fun cut => .call answered cut
              | some outcome => exact fun run => .call answered run

/-- What a crash triple says of an execution. -/
theorem exec_of_triple {pre : σ → Prop} {post : α → σ → Prop} {fail : ε → σ → Prop}
    {killed : σ → Prop}
    (triple : (device.surroundings guard).CrashTriple pre program post fail killed)
    (initially : pre start) (meets : device.Meets guard program script start) :
    match device.exec program script start with
    | (finish, some (.ok value)) => post value finish
    | (finish, some (.error error)) => fail error finish
    | (finish, none) => killed finish := by
  have run := exec_run meets
  revert run
  cases device.exec program script start with
  | mk finish outcome =>
      cases outcome with
      | none =>
          exact fun cut => Surroundings.safe_iff.mp (triple.cuts start initially) finish cut
      | some outcome =>
          intro run
          have ends := Surroundings.Triple.iff_run.mp triple.ends start finish outcome initially run
          cases outcome with
          | ok value => exact ends
          | error error => exact ends

/-- What holds wherever a program ends or is killed. -/
theorem exec_holds {pre holds : σ → Prop}
    (triple : (device.surroundings guard).CrashTriple pre program (fun _ => holds)
      (fun _ => holds) holds)
    (initially : pre start) (meets : device.Meets guard program script start) :
    holds (device.exec program script start).1 := by
  have ends := exec_of_triple triple initially meets
  revert ends
  cases device.exec program script start with
  | mk finish outcome =>
      rcases outcome with _ | error | value
      · exact id
      · exact id
      · exact id

/-- Without a guard every execution meets it. -/
theorem meets_true : device.Meets (fun _ _ _ => True) program script start := by
  induction program generalizing script start with
  | pure value => trivial
  | throw error => trivial
  | call question next ih =>
      cases script with
      | nil => trivial
      | cons reply script => exact ⟨trivial, ih _⟩

end Device

end Mintarr.Lib
