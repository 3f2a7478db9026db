import Mathlib

/-!
# Programs that can fail and be stopped

A program works on a state that outlives it: files, registry values, the settings
of another process.  It learns about that state through reads, which may fail,
and changes it through single commands, which either take effect as a whole or
fail and change nothing.  Between two of these actions the program can be stopped
for good; whatever the commands issued so far have done then stays.

The control flow of a program is shallow: it is the continuation that receives
the result of each read and of each command.
-/

namespace ProxyLauncher.Interruption

/-- A program over a state `σ` with reads labelled by `ρ`, commands `κ`, errors `ε`
and results `α`.  A read receives the whole state, or `none` when it failed. -/
inductive Program (σ ρ κ ε α : Type) where
  | done (outcome : Except ε α)
  | read (query : ρ) (next : Option σ → Program σ ρ κ ε α)
  | issue (command : κ) (next : Bool → Program σ ρ κ ε α)

/-- What commands do to the state, and which results a read (`true` for answered)
and a command (`true` for carried out) can have. -/
structure Host (σ ρ κ : Type) where
  effect : κ → σ → σ
  answers : ρ → Bool → Prop
  accepts : κ → Bool → Prop

variable {σ ρ κ ε ε' α β : Type}

namespace Host

/-- No read and no command fails. -/
def reliable (effect : κ → σ → σ) : Host σ ρ κ where
  effect
  answers := fun _ result => result = true
  accepts := fun _ result => result = true

/-- Every read and every command may fail. -/
def faulty (effect : κ → σ → σ) : Host σ ρ κ where
  effect
  answers := fun _ _ => True
  accepts := fun _ _ => True

/-- Reads are answered; every command may fail. -/
def faultyCommands (effect : κ → σ → σ) : Host σ ρ κ where
  effect
  answers := fun _ result => result = true
  accepts := fun _ _ => True

@[simp] theorem reliable_effect (effect : κ → σ → σ) :
    (reliable effect : Host σ ρ κ).effect = effect := rfl

@[simp] theorem reliable_answers (effect : κ → σ → σ) (query : ρ) (result : Bool) :
    (reliable effect : Host σ ρ κ).answers query result ↔ result = true := Iff.rfl

@[simp] theorem reliable_accepts (effect : κ → σ → σ) (command : κ) (result : Bool) :
    (reliable effect : Host σ ρ κ).accepts command result ↔ result = true := Iff.rfl

@[simp] theorem faulty_effect (effect : κ → σ → σ) :
    (faulty effect : Host σ ρ κ).effect = effect := rfl

@[simp] theorem faulty_answers (effect : κ → σ → σ) (query : ρ) (result : Bool) :
    (faulty effect : Host σ ρ κ).answers query result := trivial

@[simp] theorem faulty_accepts (effect : κ → σ → σ) (command : κ) (result : Bool) :
    (faulty effect : Host σ ρ κ).accepts command result := trivial

@[simp] theorem faultyCommands_effect (effect : κ → σ → σ) :
    (faultyCommands effect : Host σ ρ κ).effect = effect := rfl

@[simp] theorem faultyCommands_answers (effect : κ → σ → σ) (query : ρ) (result : Bool) :
    (faultyCommands effect : Host σ ρ κ).answers query result ↔ result = true := Iff.rfl

@[simp] theorem faultyCommands_accepts (effect : κ → σ → σ) (command : κ) (result : Bool) :
    (faultyCommands effect : Host σ ρ κ).accepts command result := trivial

end Host

namespace Program

/-- Run `program`, then continue with its result; an error ends the whole. -/
def bind : Program σ ρ κ ε α → (α → Program σ ρ κ ε β) → Program σ ρ κ ε β
  | .done (.ok value), rest => rest value
  | .done (.error error), _ => .done (.error error)
  | .read query next, rest => .read query fun answer => (next answer).bind rest
  | .issue command next, rest => .issue command fun result => (next result).bind rest

instance : Monad (Program σ ρ κ ε) where
  pure value := .done (.ok value)
  bind := bind

/-- End with an error. -/
def raise (error : ε) : Program σ ρ κ ε α := .done (.error error)

/-- Catch the error of a program as a value. -/
def attempt : Program σ ρ κ ε α → Program σ ρ κ ε' (Except ε α)
  | .done outcome => .done (.ok outcome)
  | .read query next => .read query fun answer => (next answer).attempt
  | .issue command next => .issue command fun result => (next result).attempt

/-- Read part of the state; a failed read raises `error`. -/
def ask (query : ρ) (view : σ → α) (error : ε) : Program σ ρ κ ε α :=
  .read query fun
    | some state => pure (view state)
    | none => raise error

/-- Read part of the state; a failed read returns `none`. -/
def peek (query : ρ) (view : σ → α) : Program σ ρ κ ε (Option α) :=
  .read query fun answer => pure (answer.map view)

/-- Issue a command whose failure raises `error`. -/
def perform (command : κ) (error : ε) : Program σ ρ κ ε Unit :=
  .issue command fun
    | true => pure ()
    | false => raise error

/-- Issue a command and return whether it was carried out. -/
def tell (command : κ) : Program σ ρ κ ε Bool :=
  .issue command fun result => pure result

/-- Lift a computation that only returns or raises. -/
def ofExcept (outcome : Except ε α) : Program σ ρ κ ε α := .done outcome

/-- One read or one command. -/
inductive Step (host : Host σ ρ κ) :
    Program σ ρ κ ε α × σ → Program σ ρ κ ε α × σ → Prop where
  | answered {query : ρ} {next : Option σ → Program σ ρ κ ε α} {state : σ} :
      host.answers query true → Step host (.read query next, state) (next (some state), state)
  | unanswered {query : ρ} {next : Option σ → Program σ ρ κ ε α} {state : σ} :
      host.answers query false → Step host (.read query next, state) (next none, state)
  | accepted {command : κ} {next : Bool → Program σ ρ κ ε α} {state : σ} :
      host.accepts command true →
      Step host (.issue command next, state) (next true, host.effect command state)
  | refused {command : κ} {next : Bool → Program σ ρ κ ε α} {state : σ} :
      host.accepts command false → Step host (.issue command next, state) (next false, state)

/-- Some number of reads and commands. -/
def Reaches (host : Host σ ρ κ) :
    Program σ ρ κ ε α × σ → Program σ ρ κ ε α × σ → Prop :=
  Relation.ReflTransGen (Step host)

/-- The program can be stopped in `last`. -/
def Stops (host : Host σ ρ κ) (program : Program σ ρ κ ε α) (state last : σ) : Prop :=
  ∃ rest, Reaches host (program, state) (rest, last)

/-- The program can end in `last` with `outcome`. -/
def Finishes (host : Host σ ρ κ) (program : Program σ ρ κ ε α) (state : σ)
    (outcome : Except ε α) (last : σ) : Prop :=
  Reaches host (program, state) (.done outcome, last)

/-- The program can issue `command` when the state is `last`. -/
def Issues (host : Host σ ρ κ) (program : Program σ ρ κ ε α) (state : σ)
    (command : κ) (last : σ) : Prop :=
  ∃ next, Reaches host (program, state) (.issue command next, last)

theorem Finishes.stops {host : Host σ ρ κ} {program : Program σ ρ κ ε α} {state last : σ}
    {outcome : Except ε α} (finishes : program.Finishes host state outcome last) :
    program.Stops host state last :=
  ⟨_, finishes⟩

theorem Stops.refl (host : Host σ ρ κ) (program : Program σ ρ κ ε α) (state : σ) :
    program.Stops host state state :=
  ⟨program, .refl⟩

/-- A program that issues no command leaves the state alone. -/
theorem Stops.eq_of_not_issues {host : Host σ ρ κ} {program : Program σ ρ κ ε α}
    {state last : σ} (stops : program.Stops host state last)
    (silent : ∀ command last, ¬ program.Issues host state command last) : last = state := by
  obtain ⟨rest, reaches⟩ := stops
  suffices every : ∀ second : Program σ ρ κ ε α × σ, Reaches host (program, state) second →
      second.2 = state from every _ reaches
  intro second reaches
  induction reaches with
  | refl => rfl
  | tail earlier step ih =>
      cases step with
      | answered | unanswered | refused => exact ih
      | accepted => exact absurd ⟨_, earlier⟩ (silent _ _)

/-- The run in which nothing fails. -/
def exec (effect : κ → σ → σ) : Program σ ρ κ ε α → σ → Except ε α × σ
  | .done outcome, state => (outcome, state)
  | .read _ next, state => (next (some state)).exec effect state
  | .issue command next, state => (next true).exec effect (effect command state)

/-- The state after the first `count` commands of the run in which nothing fails. -/
def stopAfter (effect : κ → σ → σ) : Program σ ρ κ ε α → Nat → σ → σ
  | .done _, _, state => state
  | .read _ next, count, state => (next (some state)).stopAfter effect count state
  | .issue _ _, 0, state => state
  | .issue command next, count + 1, state =>
      (next true).stopAfter effect count (effect command state)

/-- The runs of a first program are runs of the whole. -/
theorem Reaches.bind {host : Host σ ρ κ} {program left : Program σ ρ κ ε α} {state last : σ}
    (reaches : Reaches host (program, state) (left, last)) (rest : α → Program σ ρ κ ε β) :
    Reaches host (program >>= rest, state) (left >>= rest, last) := by
  refine Relation.ReflTransGen.lift
    (fun pair : Program σ ρ κ ε α × σ => (pair.1 >>= rest, pair.2)) ?_ _ _ reaches
  rintro _ _ (answers | answers | accepts | accepts)
  · exact .answered answers
  · exact .unanswered answers
  · exact .accepted accepts
  · exact .refused accepts

theorem Reaches.attempt {host : Host σ ρ κ} {program left : Program σ ρ κ ε α}
    {state last : σ} (reaches : Reaches host (program, state) (left, last)) :
    Reaches host ((program.attempt : Program σ ρ κ ε' (Except ε α)), state)
      (left.attempt, last) := by
  refine Relation.ReflTransGen.lift
    (fun pair : Program σ ρ κ ε α × σ =>
      ((pair.1.attempt : Program σ ρ κ ε' (Except ε α)), pair.2)) ?_ _ _ reaches
  rintro _ _ (answers | answers | accepts | accepts)
  · exact .answered answers
  · exact .unanswered answers
  · exact .accepted accepts
  · exact .refused accepts

/-- A whole can be stopped in its first program. -/
theorem Stops.bind {host : Host σ ρ κ} {program : Program σ ρ κ ε α} {state last : σ}
    (stops : program.Stops host state last) (rest : α → Program σ ρ κ ε β) :
    (program >>= rest).Stops host state last := by
  obtain ⟨left, reaches⟩ := stops
  exact ⟨_, reaches.bind rest⟩

theorem Stops.attempt {host : Host σ ρ κ} {program : Program σ ρ κ ε α} {state last : σ}
    (stops : program.Stops host state last) :
    (program.attempt : Program σ ρ κ ε' (Except ε α)).Stops host state last := by
  obtain ⟨left, reaches⟩ := stops
  exact ⟨_, reaches.attempt⟩

/-- A whole can be stopped after its first program has returned. -/
theorem Finishes.stops_bind {host : Host σ ρ κ} {program : Program σ ρ κ ε α}
    {state middle last : σ} {value : α}
    (finishes : program.Finishes host state (.ok value) middle)
    {rest : α → Program σ ρ κ ε β} (stops : (rest value).Stops host middle last) :
    (program >>= rest).Stops host state last := by
  obtain ⟨left, reaches⟩ := stops
  exact ⟨left, (Reaches.bind finishes rest).trans reaches⟩

/-- A whole can issue a command after its first program has returned. -/
theorem Finishes.issues_bind {host : Host σ ρ κ} {program : Program σ ρ κ ε α}
    {state middle last : σ} {value : α} {command : κ}
    (finishes : program.Finishes host state (.ok value) middle)
    {rest : α → Program σ ρ κ ε β} (issues : (rest value).Issues host middle command last) :
    (program >>= rest).Issues host state command last := by
  obtain ⟨next, reaches⟩ := issues
  exact ⟨next, (Reaches.bind finishes rest).trans reaches⟩

theorem Finishes.bind {host : Host σ ρ κ} {program : Program σ ρ κ ε α}
    {state middle last : σ} {value : α} {outcome : Except ε β}
    (finishes : program.Finishes host state (.ok value) middle)
    {rest : α → Program σ ρ κ ε β} (continues : (rest value).Finishes host middle outcome last) :
    (program >>= rest).Finishes host state outcome last :=
  (Reaches.bind finishes rest).trans continues

theorem finishes_pure (host : Host σ ρ κ) (value : α) (state : σ) :
    (Pure.pure value : Program σ ρ κ ε α).Finishes host state (.ok value) state :=
  .refl

theorem finishes_ask {host : Host σ ρ κ} {query : ρ} (answers : host.answers query true)
    (view : σ → α) (error : ε) (state : σ) :
    (ask query view error : Program σ ρ κ ε α).Finishes host state (.ok (view state)) state :=
  .single (.answered answers)

theorem finishes_tell {host : Host σ ρ κ} {command : κ} (accepts : host.accepts command true)
    (state : σ) :
    (tell command : Program σ ρ κ ε Bool).Finishes host state (.ok true)
      (host.effect command state) :=
  .single (.accepted accepts)

/-- A run without failures is a run of every host with the same commands on which
nothing has to fail. -/
theorem finishes_exec (host : Host σ ρ κ) (answers : ∀ query, host.answers query true)
    (accepts : ∀ command, host.accepts command true)
    (program : Program σ ρ κ ε α) (state : σ) :
    program.Finishes host state (program.exec host.effect state).1
      (program.exec host.effect state).2 := by
  induction program generalizing state with
  | done outcome => exact .refl
  | read query next ih => exact .head (.answered (answers query)) (ih (some state) state)
  | issue command next ih =>
      exact .head (.accepted (accepts command)) (ih true (host.effect command state))

/-- A whole can be stopped after its first program has run without failures. -/
theorem stops_bind_of_exec {host : Host σ ρ κ} (answers : ∀ query, host.answers query true)
    (accepts : ∀ command, host.accepts command true) {program : Program σ ρ κ ε α}
    {rest : α → Program σ ρ κ ε β} {state middle last : σ} {value : α}
    (returns : program.exec host.effect state = (.ok value, middle))
    (stops : (rest value).Stops host middle last) : (program >>= rest).Stops host state last := by
  have finishes := finishes_exec host answers accepts program state
  rw [returns] at finishes
  exact finishes.stops_bind stops

theorem stops_stopAfter (host : Host σ ρ κ) (answers : ∀ query, host.answers query true)
    (accepts : ∀ command, host.accepts command true)
    (program : Program σ ρ κ ε α) (count : Nat) (state : σ) :
    program.Stops host state (program.stopAfter host.effect count state) := by
  induction program generalizing state count with
  | done outcome => exact ⟨_, .refl⟩
  | read query next ih =>
      obtain ⟨rest, reaches⟩ := ih (some state) count state
      exact ⟨rest, .head (.answered (answers query)) reaches⟩
  | issue command next ih =>
      cases count with
      | zero => exact ⟨_, .refl⟩
      | succ count =>
          obtain ⟨rest, reaches⟩ := ih true count (host.effect command state)
          exact ⟨rest, .head (.accepted (accepts command)) reaches⟩

section Exec

variable {effect : κ → σ → σ} {state : σ}

@[simp] theorem exec_pure (value : α) :
    (pure value : Program σ ρ κ ε α).exec effect state = (.ok value, state) := rfl

@[simp] theorem exec_raise (error : ε) :
    (raise error : Program σ ρ κ ε α).exec effect state = (.error error, state) := rfl

@[simp] theorem exec_ofExcept (outcome : Except ε α) :
    (ofExcept outcome : Program σ ρ κ ε α).exec effect state = (outcome, state) := rfl

theorem exec_bind (program : Program σ ρ κ ε α) (rest : α → Program σ ρ κ ε β) :
    (program >>= rest).exec effect state =
      match program.exec effect state with
      | (.ok value, last) => (rest value).exec effect last
      | (.error error, last) => (.error error, last) := by
  change (program.bind rest).exec effect state = _
  induction program generalizing state with
  | done outcome => cases outcome <;> rfl
  | read query next ih => exact ih (some state)
  | issue command next ih => exact ih true

/-- The form of `exec_bind` for a program that is known to return. -/
theorem exec_bind_ok {program : Program σ ρ κ ε α} {rest : α → Program σ ρ κ ε β}
    {value : α} {last : σ} (returns : program.exec effect state = (.ok value, last)) :
    (program >>= rest).exec effect state = (rest value).exec effect last := by
  rw [exec_bind, returns]

@[simp] theorem exec_attempt (program : Program σ ρ κ ε α) :
    (program.attempt : Program σ ρ κ ε' (Except ε α)).exec effect state =
      (.ok (program.exec effect state).1, (program.exec effect state).2) := by
  induction program generalizing state with
  | done outcome => rfl
  | read query next ih => exact ih (some state)
  | issue command next ih => exact ih true

@[simp] theorem exec_ask (query : ρ) (view : σ → α) (error : ε) :
    (ask query view error : Program σ ρ κ ε α).exec effect state =
      (.ok (view state), state) := rfl

@[simp] theorem exec_peek (query : ρ) (view : σ → α) :
    (peek query view : Program σ ρ κ ε (Option α)).exec effect state =
      (.ok (some (view state)), state) := rfl

@[simp] theorem exec_perform (command : κ) (error : ε) :
    (perform command error : Program σ ρ κ ε Unit).exec effect state =
      (.ok (), effect command state) := rfl

@[simp] theorem exec_tell (command : κ) :
    (tell command : Program σ ρ κ ε Bool).exec effect state =
      (.ok true, effect command state) := rfl

end Exec

end Program

end ProxyLauncher.Interruption
