import Mathlib

/-!
# Machines and their runs

A machine has a state that changes one atomic action at a time.  An action that is not
enabled has no next state.  Some actions are observed as events.  A run records its events,
and a condition on the runs may look at the events so far, the state and the action.
-/

namespace ProxyLauncher.Transition

structure Machine (σ α ε : Type) where
  initial : σ → Prop
  next : σ → α → Option σ
  event : σ → α → Option ε

namespace Machine

variable {σ α ε : Type}

/-- The events and the states that the runs reach whose actions are all allowed. -/
inductive Reaches (machine : Machine σ α ε) (allowed : List ε → σ → α → Prop) :
    List ε → σ → Prop where
  | start {state : σ} (initial : machine.initial state) : Reaches machine allowed [] state
  | step {events : List ε} {state state' : σ} (action : α)
      (reaches : Reaches machine allowed events state)
      (permitted : allowed events state action)
      (next : machine.next state action = some state') :
      Reaches machine allowed (events ++ (machine.event state action).toList) state'

/-- Every action is allowed. -/
def Always : List ε → σ → α → Prop := fun _ _ _ => True

instance (events : List ε) (state : σ) (action : α) : Decidable (Always events state action) :=
  .isTrue trivial

variable {machine : Machine σ α ε} {allowed allowed' : List ε → σ → α → Prop}
  {events before after : List ε} {state : σ}

/-- What holds at the start and is kept by each allowed action holds throughout. -/
theorem Reaches.invariant {property : List ε → σ → Prop}
    (start : ∀ state, machine.initial state → property [] state)
    (keeps : ∀ events state action state', property events state → allowed events state action →
      machine.next state action = some state' →
      property (events ++ (machine.event state action).toList) state')
    (reaches : machine.Reaches allowed events state) : property events state := by
  induction reaches with
  | start initial => exact start _ initial
  | step action _ permitted next ih => exact keeps _ _ _ _ ih permitted next

theorem Reaches.weaken
    (weaker : ∀ events state action, allowed events state action → allowed' events state action)
    (reaches : machine.Reaches allowed events state) :
    machine.Reaches allowed' events state := by
  induction reaches with
  | start initial => exact .start initial
  | step action _ permitted next ih => exact .step action ih (weaker _ _ _ permitted) next

/-- An event was observed at an allowed action of a run that had the events before it. -/
theorem Reaches.at_event {event : ε}
    (reaches : machine.Reaches allowed events state)
    (split : events = before ++ event :: after) :
    ∃ state action state', machine.Reaches allowed before state ∧
      allowed before state action ∧ machine.next state action = some state' ∧
      machine.event state action = some event := by
  induction reaches generalizing after with
  | start => simp at split
  | @step events state state' action reaches permitted next ih =>
      rcases observed : machine.event state action with _ | last
      · rw [observed, Option.toList_none, List.append_nil] at split
        exact ih split
      · rw [observed, Option.toList_some] at split
        rcases List.eq_nil_or_concat after with rfl | ⟨front, final, rfl⟩
        · obtain ⟨rfl, same⟩ := List.append_inj' split rfl
          obtain rfl : last = event := by simpa using same
          exact ⟨state, action, state', reaches, permitted, next, observed⟩
        · rw [List.concat_eq_append, ← List.cons_append, ← List.append_assoc] at split
          exact ih (List.append_inj' split rfl).1

/-- There was an event of the first kind, and all the later ones are of the second kind. -/
def Since (start later : ε → Prop) (events : List ε) : Prop :=
  ∃ before first after, events = before ++ first :: after ∧ start first ∧
    ∀ event ∈ after, later event

theorem Since.of_append {start later : ε → Prop} {event : Option ε}
    (since : Since start later (events ++ event.toList)) :
    (∃ first, event = some first ∧ start first) ∨
      Since start later events ∧ ∀ seen ∈ event, later seen := by
  obtain ⟨before, first, after, split, started, kept⟩ := since
  cases event with
  | none =>
      rw [Option.toList_none, List.append_nil] at split
      exact .inr ⟨⟨before, first, after, split, started, kept⟩, by simp⟩
  | some last =>
      rw [Option.toList_some] at split
      rcases List.eq_nil_or_concat after with rfl | ⟨front, final, rfl⟩
      · obtain ⟨-, same⟩ := List.append_inj' split rfl
        obtain rfl : last = first := by simpa using same
        exact .inl ⟨last, rfl, started⟩
      · rw [List.concat_eq_append, ← List.cons_append, ← List.append_assoc] at split
        obtain ⟨rfl, same⟩ := List.append_inj' split rfl
        obtain rfl : last = final := by simpa using same
        refine .inr ⟨⟨before, first, front, rfl, started, fun event member => ?_⟩, ?_⟩
        · exact kept event (by simp [member])
        · rintro seen ⟨rfl⟩
          exact kept _ (by simp)

/-- The run of a list of actions, as long as each is enabled and allowed. -/
def exec (machine : Machine σ α ε) (allowed : List ε → σ → α → Prop)
    [∀ events state action, Decidable (allowed events state action)] :
    List α → List ε → σ → Option (List ε × σ)
  | [], events, state => some (events, state)
  | action :: actions, events, state =>
      if allowed events state action then
        (machine.next state action).bind fun state' =>
          exec machine allowed actions (events ++ (machine.event state action).toList) state'
      else none

theorem Reaches.exec [∀ events state action, Decidable (allowed events state action)]
    (reaches : machine.Reaches allowed events state) {actions : List α} {events' : List ε}
    {state' : σ} (executed : machine.exec allowed actions events state = some (events', state')) :
    machine.Reaches allowed events' state' := by
  induction actions generalizing events state with
  | nil =>
      rw [Machine.exec, Option.some.injEq, Prod.mk.injEq] at executed
      obtain ⟨rfl, rfl⟩ := executed
      exact reaches
  | cons action actions ih =>
      rw [Machine.exec] at executed
      split at executed
      · rename_i permitted
        obtain ⟨next, found, rest⟩ := Option.bind_eq_some_iff.mp executed
        exact ih (.step action reaches permitted found) rest
      · exact absurd executed.symm (Option.some_ne_none _)

end Machine

end ProxyLauncher.Transition
