import ProxyLauncher.Interruption.Program

/-!
# Programs beside others

Others may change the state between any two actions of a program.  What the program then knows of
the state is what its own reads and commands have told it, so a contract is stated about these
events, for every answer that a read can have.
-/

namespace ProxyLauncher.Interruption

variable {σ ρ κ φ ε α β : Type}

/-- What happens while a program runs: its reads with the state that they saw, its commands with
their results, and the actions of others. -/
inductive Event (σ ρ κ φ : Type) where
  | answered (query : ρ) (state : σ)
  | unanswered (query : ρ)
  | issued (command : κ) (done : Bool)
  | foreign (action : φ)

/-- An event of the program itself. -/
def Event.isOwn : Event σ ρ κ φ → Bool
  | .answered .. | .unanswered _ | .issued .. => true
  | .foreign _ => false

namespace Program

/-- A run from one state to another, with its events. -/
inductive Runs (host : Host σ ρ κ) (interfere : φ → σ → σ) :
    Program σ ρ κ ε α → σ → List (Event σ ρ κ φ) → Program σ ρ κ ε α → σ → Prop where
  | refl {program : Program σ ρ κ ε α} {state : σ} :
      Runs host interfere program state [] program state
  | answered {query : ρ} {next : Option σ → Program σ ρ κ ε α} {state last : σ}
      {events : List (Event σ ρ κ φ)} {rest : Program σ ρ κ ε α} :
      host.answers query true → Runs host interfere (next (some state)) state events rest last →
      Runs host interfere (.read query next) state (.answered query state :: events) rest last
  | unanswered {query : ρ} {next : Option σ → Program σ ρ κ ε α} {state last : σ}
      {events : List (Event σ ρ κ φ)} {rest : Program σ ρ κ ε α} :
      host.answers query false → Runs host interfere (next none) state events rest last →
      Runs host interfere (.read query next) state (.unanswered query :: events) rest last
  | accepted {command : κ} {next : Bool → Program σ ρ κ ε α} {state last : σ}
      {events : List (Event σ ρ κ φ)} {rest : Program σ ρ κ ε α} :
      host.accepts command true →
      Runs host interfere (next true) (host.effect command state) events rest last →
      Runs host interfere (.issue command next) state (.issued command true :: events) rest last
  | refused {command : κ} {next : Bool → Program σ ρ κ ε α} {state last : σ}
      {events : List (Event σ ρ κ φ)} {rest : Program σ ρ κ ε α} :
      host.accepts command false → Runs host interfere (next false) state events rest last →
      Runs host interfere (.issue command next) state (.issued command false :: events) rest last
  | interfered {program : Program σ ρ κ ε α} {action : φ} {state last : σ}
      {events : List (Event σ ρ κ φ)} {rest : Program σ ρ κ ε α} :
      Runs host interfere program (interfere action state) events rest last →
      Runs host interfere program state (.foreign action :: events) rest last

/-- A run passes through a state after each part of its events. -/
theorem Runs.split {host : Host σ ρ κ} {interfere : φ → σ → σ} {program rest : Program σ ρ κ ε α}
    {state last : σ} {before after : List (Event σ ρ κ φ)}
    (runs : Runs host interfere program state (before ++ after) rest last) :
    ∃ between middle, Runs host interfere program state before between middle ∧
      Runs host interfere between middle after rest last := by
  induction before generalizing program state with
  | nil => exact ⟨_, _, .refl, runs⟩
  | cons event before ih =>
      cases runs with
      | answered answers runs =>
          obtain ⟨between, middle, first, second⟩ := ih runs
          exact ⟨between, middle, .answered answers first, second⟩
      | unanswered answers runs =>
          obtain ⟨between, middle, first, second⟩ := ih runs
          exact ⟨between, middle, .unanswered answers first, second⟩
      | accepted accepts runs =>
          obtain ⟨between, middle, first, second⟩ := ih runs
          exact ⟨between, middle, .accepted accepts first, second⟩
      | refused accepts runs =>
          obtain ⟨between, middle, first, second⟩ := ih runs
          exact ⟨between, middle, .refused accepts first, second⟩
      | interfered runs =>
          obtain ⟨between, middle, first, second⟩ := ih runs
          exact ⟨between, middle, .interfered first, second⟩

/-- The first command of the run in which nothing fails and nobody else acts. -/
def firstCommand : Program σ ρ κ ε α → σ → Option κ
  | .done _, _ => none
  | .read _ next, state => (next (some state)).firstCommand state
  | .issue command _, _ => some command

theorem exists_runs_of_firstCommand {host : Host σ ρ κ} (interfere : φ → σ → σ)
    (answers : ∀ query, host.answers query true) {program : Program σ ρ κ ε α} {state : σ}
    {command : κ} (first : program.firstCommand state = some command) :
    ∃ events next, Runs host interfere program state events (.issue command next) state ∧
      ∀ event ∈ events, event.isOwn = true := by
  induction program with
  | done outcome => cases first
  | read query next ih =>
      obtain ⟨events, following, runs, own⟩ := ih (some state) first
      exact ⟨_, following, .answered (answers query) runs, List.forall_mem_cons.mpr ⟨rfl, own⟩⟩
  | issue issued next =>
      obtain rfl := Option.some.inj first
      exact ⟨[], next, .refl, by simp⟩

/-- After the events in `past`, every command that `program` issues satisfies `guarantee` of the
events before it, and every outcome satisfies `post`, whatever the reads see. -/
def Withstands (guarantee : List (Event σ ρ κ φ) → κ → Prop)
    (post : Except ε α → List (Event σ ρ κ φ) → Prop) :
    Program σ ρ κ ε α → List (Event σ ρ κ φ) → Prop
  | .done outcome, past => post outcome past
  | .read query next, past =>
      (∀ state, (next (some state)).Withstands guarantee post (past ++ [.answered query state])) ∧
      (next none).Withstands guarantee post (past ++ [.unanswered query])
  | .issue command next, past =>
      guarantee past command ∧
      ∀ done, (next done).Withstands guarantee post (past ++ [.issued command done])

variable {host : Host σ ρ κ} {interfere : φ → σ → σ}
  {guarantee : List (Event σ ρ κ φ) → κ → Prop} {past events : List (Event σ ρ κ φ)}
  {program rest : Program σ ρ κ ε α} {state last : σ}

/-- A contract holds of what is left of the program, after its own events. -/
theorem Withstands.runs {post : Except ε α → List (Event σ ρ κ φ) → Prop}
    (withstands : program.Withstands guarantee post past)
    (runs : Runs host interfere program state events rest last) :
    rest.Withstands guarantee post (past ++ events.filter Event.isOwn) := by
  induction runs generalizing past with
  | refl => simpa using withstands
  | answered _ _ ih => simpa [Event.isOwn, List.filter_cons] using ih (withstands.1 _)
  | unanswered _ _ ih => simpa [Event.isOwn, List.filter_cons] using ih withstands.2
  | accepted _ _ ih => simpa [Event.isOwn, List.filter_cons] using ih (withstands.2 true)
  | refused _ _ ih => simpa [Event.isOwn, List.filter_cons] using ih (withstands.2 false)
  | interfered _ ih => simpa [Event.isOwn, List.filter_cons] using ih withstands

/-- What is known of the events before a command. -/
theorem Withstands.command {post : Except ε α → List (Event σ ρ κ φ) → Prop} {command : κ}
    {next : Bool → Program σ ρ κ ε α} (withstands : program.Withstands guarantee post [])
    (runs : Runs host interfere program state events (.issue command next) last) :
    guarantee (events.filter Event.isOwn) command :=
  (withstands.runs runs).1

theorem Withstands.mono {guarantee' : List (Event σ ρ κ φ) → κ → Prop}
    {post post' : Except ε α → List (Event σ ρ κ φ) → Prop}
    (withstands : program.Withstands guarantee post past)
    (weaken : ∀ past command, guarantee past command → guarantee' past command)
    (implies : ∀ outcome past, post outcome past → post' outcome past) :
    program.Withstands guarantee' post' past := by
  induction program generalizing past with
  | done outcome => exact implies _ _ withstands
  | read query next ih => exact ⟨fun state => ih _ (withstands.1 state), ih _ withstands.2⟩
  | issue command next ih =>
      exact ⟨weaken _ _ withstands.1, fun done => ih _ (withstands.2 done)⟩

@[simp] theorem withstands_pure {post : Except ε α → List (Event σ ρ κ φ) → Prop} (value : α) :
    (pure value : Program σ ρ κ ε α).Withstands guarantee post past ↔ post (.ok value) past :=
  Iff.rfl

theorem withstands_pure_bind {post : Except ε β → List (Event σ ρ κ φ) → Prop} {value : α}
    {rest : α → Program σ ρ κ ε β} :
    ((pure value : Program σ ρ κ ε α).bind rest).Withstands guarantee post past ↔
      (rest value).Withstands guarantee post past := Iff.rfl

@[simp] theorem withstands_ask {post : Except ε α → List (Event σ ρ κ φ) → Prop} (query : ρ)
    (view : σ → α) (error : ε) :
    (ask query view error : Program σ ρ κ ε α).Withstands guarantee post past ↔
      (∀ state, post (.ok (view state)) (past ++ [.answered query state])) ∧
        post (.error error) (past ++ [.unanswered query]) := Iff.rfl

@[simp] theorem withstands_peek {post : Except ε (Option α) → List (Event σ ρ κ φ) → Prop}
    (query : ρ) (view : σ → α) :
    (peek query view : Program σ ρ κ ε (Option α)).Withstands guarantee post past ↔
      (∀ state, post (.ok (some (view state))) (past ++ [.answered query state])) ∧
        post (.ok none) (past ++ [.unanswered query]) := Iff.rfl

@[simp] theorem withstands_tell {post : Except ε Bool → List (Event σ ρ κ φ) → Prop}
    (command : κ) :
    (tell command : Program σ ρ κ ε Bool).Withstands guarantee post past ↔
      guarantee past command ∧ ∀ done, post (.ok done) (past ++ [.issued command done]) := Iff.rfl

/-- Sequencing with an intermediate assertion. -/
theorem Withstands.bind {post : Except ε β → List (Event σ ρ κ φ) → Prop}
    {middle : Except ε α → List (Event σ ρ κ φ) → Prop} {rest : α → Program σ ρ κ ε β}
    (first : program.Withstands guarantee middle past)
    (returns : ∀ value past, middle (.ok value) past →
      (rest value).Withstands guarantee post past)
    (raises : ∀ error past, middle (.error error) past → post (.error error) past) :
    (program >>= rest).Withstands guarantee post past := by
  change (program.bind rest).Withstands guarantee post past
  induction program generalizing past with
  | done outcome =>
      cases outcome with
      | ok value => exact returns _ _ first
      | error error => exact raises _ _ first
  | read query next ih => exact ⟨fun state => ih _ (first.1 state), ih _ first.2⟩
  | issue command next ih => exact ⟨first.1, fun done => ih _ (first.2 done)⟩

end Program

end ProxyLauncher.Interruption
