import ProxyLauncher.Transition.Machine

/-!
# Stretches of a run

A stretch is a part of a run in which all states meet a condition.
-/

namespace ProxyLauncher.Transition.Machine

variable {σ α ε : Type} {machine : Machine σ α ε} {allowed : List ε → σ → α → Prop}
  {kept : σ → Prop} {events events' : List ε} {state state' : σ}

/-- The states from the first to the last, these included, meet the condition. -/
inductive Stays (machine : Machine σ α ε) (allowed : List ε → σ → α → Prop) (kept : σ → Prop) :
    List ε → σ → List ε → σ → Prop where
  | refl {events : List ε} {state : σ} (holds : kept state) :
      Stays machine allowed kept events state events state
  | step {events events' : List ε} {state state' state'' : σ} (action : α)
      (stays : Stays machine allowed kept events state events' state')
      (permitted : allowed events' state' action)
      (next : machine.next state' action = some state'') (holds : kept state'') :
      Stays machine allowed kept events state
        (events' ++ (machine.event state' action).toList) state''

/-- A run goes on over a stretch. -/
theorem Stays.reaches (stays : machine.Stays allowed kept events state events' state')
    (reaches : machine.Reaches allowed events state) : machine.Reaches allowed events' state' := by
  induction stays with
  | refl => exact reaches
  | step action _ permitted next _ ih => exact .step action (ih reaches) permitted next

theorem Stays.first (stays : machine.Stays allowed kept events state events' state') :
    kept state := by
  induction stays with
  | refl holds => exact holds
  | step _ _ _ _ _ ih => exact ih

theorem Stays.last (stays : machine.Stays allowed kept events state events' state') :
    kept state' := by
  cases stays with
  | refl holds => exact holds
  | step _ _ _ _ holds => exact holds

/-- What holds at the first state of a stretch and is kept as long as the condition is met. -/
theorem Stays.invariant {property : σ → Prop}
    (stays : machine.Stays allowed kept events state events' state')
    (reaches : machine.Reaches allowed events state) (start : property state)
    (keeps : ∀ events state action state', machine.Reaches allowed events state →
      allowed events state action → machine.next state action = some state' →
      kept state → kept state' → property state → property state') : property state' := by
  induction stays with
  | refl => exact start
  | step action stays permitted next holds ih =>
      exact keeps _ _ action _ (stays.reaches reaches) permitted next stays.last holds
        (ih reaches start)

end ProxyLauncher.Transition.Machine
