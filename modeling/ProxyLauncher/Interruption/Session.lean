import ProxyLauncher.Interruption.Contract

/-!
# Sessions

Over its lifetime a system runs many programs, one at a time, on the same state.  Each can
be stopped anywhere; while none is running, somebody else may change the state.  A session
is the state together with what is left of the program that is running.  Whether a call is
allowed may depend on the state in which it is made.
-/

namespace ProxyLauncher.Interruption

variable {σ ρ κ ε α γ : Type}

structure Session (σ ρ κ ε α : Type) where
  running : Option (Program σ ρ κ ε α)
  state : σ

namespace Session

/-- Start a program, let it take a step, stop it, or change the state from outside. -/
inductive Step (host : Host σ ρ κ) (program : γ → Program σ ρ κ ε α) (allowed : γ → σ → Prop)
    (foreign : σ → σ → Prop) : Session σ ρ κ ε α → Session σ ρ κ ε α → Prop where
  | start (call : γ) (state : σ) (permitted : allowed call state) :
      Step host program allowed foreign ⟨none, state⟩ ⟨some (program call), state⟩
  | run {left left' : Program σ ρ κ ε α} {state state' : σ}
      (step : Program.Step host (left, state) (left', state')) :
      Step host program allowed foreign ⟨some left, state⟩ ⟨some left', state'⟩
  | stop (left : Program σ ρ κ ε α) (state : σ) :
      Step host program allowed foreign ⟨some left, state⟩ ⟨none, state⟩
  | foreign {state state' : σ} (change : foreign state state') :
      Step host program allowed foreign ⟨none, state⟩ ⟨none, state'⟩

/-- Every call is allowed. -/
def Always : γ → σ → Prop := fun _ _ => True

theorem always {call : γ} {state : σ} : Always call state := trivial

/-- Some number of steps. -/
def Reaches (host : Host σ ρ κ) (program : γ → Program σ ρ κ ε α) (allowed : γ → σ → Prop)
    (foreign : σ → σ → Prop) : Session σ ρ κ ε α → Session σ ρ κ ε α → Prop :=
  Relation.ReflTransGen (Step host program allowed foreign)

variable {host : Host σ ρ κ} {program : γ → Program σ ρ κ ε α} {allowed : γ → σ → Prop}
  {foreign : σ → σ → Prop}
  {guarantee : κ → σ → Prop} {invariant : σ → Prop} {session session' : Session σ ρ κ ε α}

/-- The state satisfies `invariant`, and the running program has a contract for the rest
of its run. -/
structure Safe (host : Host σ ρ κ) (guarantee : κ → σ → Prop) (invariant : σ → Prop)
    (session : Session σ ρ κ ε α) : Prop where
  state : invariant session.state
  running : ∀ left, session.running = some left →
    left.Ensures host guarantee (fun _ _ => True) session.state

theorem Safe.idle {state : σ} (holds : invariant state) :
    Safe host guarantee invariant (⟨none, state⟩ : Session σ ρ κ ε α) :=
  ⟨holds, by simp⟩

theorem Safe.step (safe : Safe host guarantee invariant session)
    (calls : ∀ call state, allowed call state → invariant state →
      (program call).Ensures host guarantee (fun _ _ => True) state)
    (keeps : ∀ command state, guarantee command state → invariant state →
      invariant (host.effect command state))
    (foreignKeeps : ∀ state state', foreign state state' → invariant state → invariant state')
    (step : Step host program allowed foreign session session') :
    Safe host guarantee invariant session' := by
  cases step with
  | start call state permitted =>
      refine ⟨safe.state, ?_⟩
      rintro _ ⟨⟩
      exact calls call state permitted safe.state
  | run step =>
      have contract := safe.running _ rfl
      refine ⟨?_, ?_⟩
      · cases step with
        | answered | unanswered | refused => exact safe.state
        | accepted => exact keeps _ _ contract.1 safe.state
      · rintro _ ⟨⟩
        exact contract.step step
  | stop left state => exact .idle safe.state
  | foreign change => exact .idle (foreignKeeps _ _ change safe.state)

/-- A guarantee of every program, and an invariant that it keeps, hold in whole sessions. -/
theorem Safe.reaches (safe : Safe host guarantee invariant session)
    (calls : ∀ call state, allowed call state → invariant state →
      (program call).Ensures host guarantee (fun _ _ => True) state)
    (keeps : ∀ command state, guarantee command state → invariant state →
      invariant (host.effect command state))
    (foreignKeeps : ∀ state state', foreign state state' → invariant state → invariant state')
    (reaches : Reaches host program allowed foreign session session') :
    Safe host guarantee invariant session' := by
  induction reaches with
  | refl => exact safe
  | tail _ step ih => exact ih.step calls keeps foreignKeeps step

/-- What a program can do by itself it can do in a session. -/
theorem reaches_of_run {left left' : Program σ ρ κ ε α} {state state' : σ}
    (run : Program.Reaches host (left, state) (left', state')) :
    Reaches host program allowed foreign ⟨some left, state⟩ ⟨some left', state'⟩ := by
  suffices every : ∀ second : Program σ ρ κ ε α × σ, Program.Reaches host (left, state) second →
      Reaches host program allowed foreign ⟨some left, state⟩ ⟨some second.1, second.2⟩ from every _ run
  intro second run
  induction run with
  | refl => exact .refl
  | tail _ step ih => exact ih.tail (.run step)

/-- Stop the running program, start another one and let it run for a while. -/
theorem reaches_of_stops {left : Program σ ρ κ ε α} {state last : σ} (call : γ)
    (permitted : allowed call state) (stops : (program call).Stops host state last) :
    ∃ left', Reaches host program allowed foreign ⟨some left, state⟩ ⟨some left', last⟩ := by
  obtain ⟨left', run⟩ := stops
  exact ⟨left', .trans (.tail (.single (.stop left state)) (.start call state permitted))
    (reaches_of_run run)⟩

end Session

end ProxyLauncher.Interruption
