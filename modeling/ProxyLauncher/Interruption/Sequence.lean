import ProxyLauncher.Interruption.Contract

/-!
# Straight-line programs

Most writes of a program are sequences: one command after the other, given up at the
first that fails.  For such a program the list of its commands says everything, and
the states it passes through are the states after each prefix of the list.
-/

namespace ProxyLauncher.Interruption

variable {σ ρ κ ε α β : Type}

/-- The state after all `commands`. -/
def after (effect : κ → σ → σ) (commands : List κ) (state : σ) : σ :=
  commands.foldl (fun state command => effect command state) state

/-- The states after each of `commands`. -/
def passes (effect : κ → σ → σ) : List κ → σ → List σ
  | [], _ => []
  | command :: commands, state =>
      effect command state :: passes effect commands (effect command state)

section

variable {effect : κ → σ → σ} {state : σ}

@[simp] theorem after_nil : after effect [] state = state := rfl

@[simp] theorem after_cons (command : κ) (commands : List κ) :
    after effect (command :: commands) state = after effect commands (effect command state) :=
  rfl

@[simp] theorem after_append (commands commands' : List κ) :
    after effect (commands ++ commands') state =
      after effect commands' (after effect commands state) :=
  List.foldl_append ..

@[simp] theorem passes_nil : passes effect [] state = [] := rfl

@[simp] theorem passes_cons (command : κ) (commands : List κ) :
    passes effect (command :: commands) state =
      effect command state :: passes effect commands (effect command state) := rfl

@[simp] theorem passes_append (commands commands' : List κ) :
    passes effect (commands ++ commands') state =
      passes effect commands state ++
        passes effect commands' (after effect commands state) := by
  induction commands generalizing state with
  | nil => rfl
  | cons command commands ih => simp [ih]

end

/-- Every state that `commands` pass through from a state with `invariant` has it too. -/
def Maintains (effect : κ → σ → σ) (commands : List κ) (invariant : σ → Prop) : Prop :=
  ∀ state, invariant state → ∀ stage ∈ passes effect commands state, invariant stage

namespace Maintains

variable {effect : κ → σ → σ} {commands : List κ} {invariant invariant' : σ → Prop}

/-- Single commands that keep an invariant. -/
theorem of_forall (keeps : ∀ command ∈ commands, ∀ state, invariant state →
    invariant (effect command state)) : Maintains effect commands invariant := by
  intro state holds
  induction commands generalizing state with
  | nil => simp
  | cons command commands ih =>
      have next := keeps command List.mem_cons_self state holds
      rw [passes_cons, List.forall_mem_cons]
      exact ⟨next, ih (fun other member => keeps other (List.mem_cons_of_mem _ member)) _ next⟩

theorem and (left : Maintains effect commands invariant)
    (right : Maintains effect commands invariant') :
    Maintains effect commands fun state => invariant state ∧ invariant' state :=
  fun state holds stage passed => ⟨left state holds.1 stage passed, right state holds.2 stage passed⟩

theorem after (maintains : Maintains effect commands invariant) {state : σ}
    (holds : invariant state) : invariant (after effect commands state) := by
  have reached : Interruption.after effect commands state ∈
      state :: passes effect commands state := by
    clear maintains holds
    induction commands generalizing state with
    | nil => exact List.mem_cons_self
    | cons command commands ih => exact List.mem_cons_of_mem _ ih
  rcases List.mem_cons.mp reached with same | passed
  · rw [same]
    exact holds
  · exact maintains state holds _ passed

theorem append {commands' : List κ} (first : Maintains effect commands invariant)
    (second : Maintains effect commands' invariant) :
    Maintains effect (commands ++ commands') invariant := by
  intro state holds stage passed
  rw [passes_append, List.mem_append] at passed
  rcases passed with passed | passed
  · exact first state holds stage passed
  · exact second _ (first.after holds) stage passed

end Maintains

namespace Program

/-- `program` issues `commands` one after the other, ends with an error at the first that
fails and with `outcome` after the last. -/
inductive Sequence : List κ → Except ε α → Program σ ρ κ ε α → Prop where
  | done (outcome : Except ε α) : Sequence [] outcome (.done outcome)
  | issue {command : κ} {commands : List κ} {outcome : Except ε α}
      {next : Bool → Program σ ρ κ ε α} (error : ε) (fails : next false = raise error)
      (rest : Sequence commands outcome (next true)) :
      Sequence (command :: commands) outcome (.issue command next)

namespace Sequence

variable {host : Host σ ρ κ} {effect : κ → σ → σ} {commands commands' : List κ}
  {outcome : Except ε α} {program : Program σ ρ κ ε α} {state : σ}

theorem pure (value : α) : Sequence [] (.ok value) (Pure.pure value : Program σ ρ κ ε α) :=
  .done _

theorem raise (error : ε) : Sequence [] (.error error) (.raise error : Program σ ρ κ ε α) :=
  .done _

theorem perform (command : κ) (error : ε) :
    Sequence [command] (.ok ()) (.perform command error : Program σ ρ κ ε Unit) :=
  .issue error rfl (.done _)

theorem bind {value : α} {outcome : Except ε β} {rest : α → Program σ ρ κ ε β}
    (first : Sequence commands (.ok value) program)
    (second : Sequence commands' outcome (rest value)) :
    Sequence (commands ++ commands') outcome (program >>= rest) := by
  generalize returns : Except.ok value = returned at first
  induction first with
  | done =>
      subst returns
      exact second
  | issue error fails _ ih =>
      refine .issue error ?_ (ih returns)
      rw [fails]
      rfl

/-- An invariant of all the states that the commands pass through. -/
theorem ensures {invariant : σ → Prop} (sequence : Sequence commands outcome program)
    (stages : ∀ stage ∈ passes host.effect commands state, invariant stage)
    (holds : invariant state) :
    program.Ensures host
      (fun command state => command ∈ commands ∧ invariant (host.effect command state))
      (fun result last => invariant last ∧
        (result.isOk = true → result = outcome ∧ last = after host.effect commands state))
      state := by
  induction sequence generalizing state with
  | done outcome => exact ⟨holds, fun _ => ⟨rfl, rfl⟩⟩
  | issue error fails _ ih =>
      rw [passes_cons, List.forall_mem_cons] at stages
      refine ⟨⟨List.mem_cons_self, stages.1⟩, fun _ => ?_, fun _ => ?_⟩
      · refine (ih stages.2 stages.1).mono (fun command state guaranteed => ?_) fun _ _ post => post
        exact ⟨List.mem_cons_of_mem _ guaranteed.1, guaranteed.2⟩
      · rw [fails]
        exact ⟨holds, fun impossible => absurd impossible Bool.false_ne_true⟩

theorem exec (sequence : Sequence commands outcome program) :
    program.exec effect state = (outcome, after effect commands state) := by
  induction sequence generalizing state with
  | done outcome => rfl
  | issue error fails rest ih => exact ih

/-- A program can be stopped after each of its commands. -/
theorem stops (sequence : Sequence commands outcome program)
    (accepts : ∀ command ∈ commands, host.accepts command true) {stage : σ}
    (passed : stage ∈ passes host.effect commands state) : program.Stops host state stage := by
  induction sequence generalizing state with
  | done outcome => simp at passed
  | @issue command commands outcome next error fails rest ih =>
      rw [List.forall_mem_cons] at accepts
      have step : Step host (.issue command next, state)
          (next true, host.effect command state) := .accepted accepts.1
      rw [passes_cons, List.mem_cons] at passed
      rcases passed with rfl | later
      · exact ⟨_, .single step⟩
      · obtain ⟨last, reaches⟩ := ih accepts.2 later
        exact ⟨last, .head step reaches⟩

end Sequence

end Program

end ProxyLauncher.Interruption
