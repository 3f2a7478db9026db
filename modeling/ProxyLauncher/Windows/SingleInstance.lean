import ProxyLauncher.Transition.Stretches

/-!
# One window at a time

The processes of the application share a named mutex and a named event that resets itself.  A
process is primary when it has created the mutex; a later one signals the event and ends.  Each
call of the system is one action here, any of the processes may run between two of them, and a
process may end at any time.
-/

namespace ProxyLauncher.Windows.SingleInstance

open Transition

/-- What a process does next. -/
inductive Stage where
  | idle
  | creatingEvent (alreadyExists : Bool)
  | unwinding
  | closingMutex
  | resetting
  | ended
deriving DecidableEq

/-- `WindowsSingleInstance`; its handles are those of the process. -/
structure Instance where
  acquired : Bool := false
  primary : Bool := false
  stage : Stage := .idle
deriving DecidableEq

/-- The processes and the two objects; an object exists as long as it has handles. -/
structure System (Process : Type) where
  instances : Process → Instance
  mutexHandles : Finset Process
  eventHandles : Finset Process
  signaled : Bool

inductive Action (Process : Type) where
  | createMutex (process : Process)
  | createEvent (process : Process)
  | createEventFails (process : Process)
  | unwind (process : Process)
  | setEvent (process : Process)
  | pollActivation (process : Process)
  | closeEvent (process : Process)
  | closeMutex (process : Process)
  | reset (process : Process)
  | endProcess (process : Process)
  | reapMutex (process : Process)
  | reapEvent (process : Process)

inductive Event (Process : Type) where
  | signaled (process : Process)
  | polled (process : Process) (requested : Bool)

variable {Process : Type} [DecidableEq Process]

namespace System

variable (system : System Process)

def set (process : Process) (inst : Instance) : System Process :=
  { system with instances := Function.update system.instances process inst }

def setStage (process : Process) (stage : Stage) : System Process :=
  system.set process { system.instances process with stage := stage }

/-- The process is primary and is not about to end. -/
def Serves (process : Process) : Prop :=
  (system.instances process).primary = true ∧ (system.instances process).stage = .idle

end System

/-- One call of the system.  `acquire` creates the mutex and then the event, and closes the mutex
again when the event cannot be created; `close` closes the event, then the mutex, and then forgets
both.  The system closes what is left of a process that has ended, in any order. -/
def next (system : System Process) : Action Process → Option (System Process)
  | .createMutex process =>
      if (system.instances process).stage = .idle ∧
          (system.instances process).acquired = false then
        some { system.setStage process (.creatingEvent (decide (system.mutexHandles ≠ ∅))) with
          mutexHandles := insert process system.mutexHandles }
      else none
  | .createEvent process =>
      match (system.instances process).stage with
      | .creatingEvent alreadyExists =>
          some { system.set process { acquired := true, primary := !alreadyExists } with
            eventHandles := insert process system.eventHandles
            signaled := decide (system.eventHandles ≠ ∅) && system.signaled }
      | _ => none
  | .createEventFails process =>
      match (system.instances process).stage with
      | .creatingEvent _ => some (system.setStage process .unwinding)
      | _ => none
  | .unwind process =>
      if (system.instances process).stage = .unwinding then
        some { system.setStage process .idle with
          mutexHandles := system.mutexHandles.erase process }
      else none
  | .setEvent process =>
      if (system.instances process).stage = .idle ∧
          (system.instances process).acquired = true ∧
          (system.instances process).primary = false then
        some { system with signaled := true }
      else none
  | .pollActivation process =>
      if (system.instances process).stage = .idle ∧
          (system.instances process).primary = true then
        some { system with signaled := false }
      else none
  | .closeEvent process =>
      if (system.instances process).stage = .idle then
        some { system.setStage process .closingMutex with
          eventHandles := system.eventHandles.erase process }
      else none
  | .closeMutex process =>
      if (system.instances process).stage = .closingMutex then
        some { system.setStage process .resetting with
          mutexHandles := system.mutexHandles.erase process }
      else none
  | .reset process =>
      if (system.instances process).stage = .resetting then some (system.set process {}) else none
  | .endProcess process => some (system.setStage process .ended)
  | .reapMutex process =>
      if (system.instances process).stage = .ended then
        some { system with mutexHandles := system.mutexHandles.erase process }
      else none
  | .reapEvent process =>
      if (system.instances process).stage = .ended then
        some { system with eventHandles := system.eventHandles.erase process }
      else none

/-- The runs from a session without handles. -/
def machine (Process : Type) [DecidableEq Process] :
    Machine (System Process) (Action Process) (Event Process) where
  initial system := (∀ process, system.instances process = {}) ∧ system.mutexHandles = ∅ ∧
    system.eventHandles = ∅
  next := next
  event system
    | .setEvent process => some (.signaled process)
    | .pollActivation process => some (.polled process system.signaled)
    | _ => none

variable {system system' : System Process} {process other : Process}
  {events events' : List (Event Process)}

/-- The process has a handle of the mutex. -/
def Instance.holdsMutex (inst : Instance) : Bool :=
  match inst.stage with
  | .idle | .closingMutex => inst.acquired
  | .creatingEvent _ | .unwinding => true
  | .resetting | .ended => false

/-- The process has a handle of the event. -/
def Instance.holdsEvent (inst : Instance) : Bool :=
  decide (inst.stage = .idle) && inst.acquired

/-- The process has created the mutex. -/
def Instance.claims (inst : Instance) : Bool :=
  inst.primary || decide (inst.stage = .creatingEvent false)

/-- The process is in `acquire`. -/
def Instance.opening (inst : Instance) : Bool :=
  match inst.stage with
  | .creatingEvent _ | .unwinding => true
  | .idle | .closingMutex | .resetting | .ended => false

/-- Processes have the handles that they think they have, and one of them at most has created the
mutex that exists. -/
structure Sound (system : System Process) : Prop where
  mutex : ∀ process, (system.instances process).holdsMutex = true →
    process ∈ system.mutexHandles
  left : ∀ process ∈ system.mutexHandles, (system.instances process).holdsMutex = true ∨
    (system.instances process).stage = .ended
  event : ∀ process, (system.instances process).holdsEvent = true →
    process ∈ system.eventHandles
  acquired : ∀ process, (system.instances process).primary = true →
    (system.instances process).acquired = true
  opening : ∀ process, (system.instances process).opening = true →
    (system.instances process).acquired = false
  unique : ∀ process other, (system.instances process).claims = true →
    (system.instances other).claims = true → process ∈ system.mutexHandles →
      other ∈ system.mutexHandles → process = other

namespace Sound

/-- One process changes, with its own handles. -/
theorem set (sound : Sound system) {inst : Instance} {mutexHandles eventHandles : Finset Process}
    {signaled : Bool}
    (mutexes : ∀ other, other ≠ process → (other ∈ mutexHandles ↔ other ∈ system.mutexHandles))
    (handles : ∀ other, other ≠ process → (other ∈ eventHandles ↔ other ∈ system.eventHandles))
    (mutex : inst.holdsMutex = true → process ∈ mutexHandles)
    (left : process ∈ mutexHandles → inst.holdsMutex = true ∨ inst.stage = .ended)
    (event : inst.holdsEvent = true → process ∈ eventHandles)
    (acquired : inst.primary = true → inst.acquired = true)
    (opening : inst.opening = true → inst.acquired = false)
    (alone : inst.claims = true → process ∈ mutexHandles → ∀ other, other ≠ process →
      (system.instances other).claims = true → other ∉ system.mutexHandles) :
    Sound ⟨Function.update system.instances process inst, mutexHandles, eventHandles, signaled⟩ where
  mutex other := by
    dsimp only
    by_cases same : other = process
    · subst same
      rw [Function.update_self]
      exact mutex
    · rw [Function.update_of_ne same, mutexes other same]
      exact sound.mutex other
  left other := by
    dsimp only
    by_cases same : other = process
    · subst same
      rw [Function.update_self]
      exact left
    · rw [Function.update_of_ne same, mutexes other same]
      exact sound.left other
  event other := by
    dsimp only
    by_cases same : other = process
    · subst same
      rw [Function.update_self]
      exact event
    · rw [Function.update_of_ne same, handles other same]
      exact sound.event other
  acquired other := by
    dsimp only
    by_cases same : other = process
    · subst same
      rw [Function.update_self]
      exact acquired
    · rw [Function.update_of_ne same]
      exact sound.acquired other
  opening other := by
    dsimp only
    by_cases same : other = process
    · subst same
      rw [Function.update_self]
      exact opening
    · rw [Function.update_of_ne same]
      exact sound.opening other
  unique first second claims claims' there there' := by
    dsimp only at claims claims' there there'
    by_cases same : first = process
    · by_cases same' : second = process
      · exact same.trans same'.symm
      · subst same
        rw [Function.update_self] at claims
        rw [Function.update_of_ne same'] at claims'
        exact absurd ((mutexes second same').mp there') (alone claims there second same' claims')
    · rw [Function.update_of_ne same] at claims
      by_cases same' : second = process
      · subst same'
        rw [Function.update_self] at claims'
        exact absurd ((mutexes first same).mp there) (alone claims' there' first same claims)
      · rw [Function.update_of_ne same'] at claims'
        exact sound.unique first second claims claims' ((mutexes first same).mp there)
          ((mutexes second same').mp there')

theorem mem_insert_of_ne {handles : Finset Process} (different : other ≠ process) :
    other ∈ insert process handles ↔ other ∈ handles := by
  simp [different]

theorem mem_erase_of_ne {handles : Finset Process} (different : other ≠ process) :
    other ∈ handles.erase process ↔ other ∈ handles := by
  simp [different]

omit [DecidableEq Process] in
/-- A process keeps the claim that it has had. -/
theorem alone (sound : Sound system) {mutexHandles : Finset Process}
    (claims : (system.instances process).claims = true)
    (subset : mutexHandles ⊆ system.mutexHandles) (there : process ∈ mutexHandles) :
    ∀ other, other ≠ process → (system.instances other).claims = true →
      other ∉ system.mutexHandles :=
  fun other different claims' there' =>
    different (sound.unique other process claims' claims there' (subset there))

theorem next {action : Action Process} (sound : Sound system)
    (step : SingleInstance.next system action = some system') : Sound system' := by
  cases action with
  | createMutex process =>
      obtain ⟨⟨idle, free⟩, same⟩ := Option.ite_none_right_eq_some.mp step
      obtain rfl := Option.some.inj same
      have secondary : (system.instances process).primary = false := by
        cases primary : (system.instances process).primary with
        | false => rfl
        | true => exact absurd (sound.acquired process primary) (by simp [free])
      apply sound.set (fun _ => mem_insert_of_ne) (fun _ _ => .rfl)
      · exact fun _ => Finset.mem_insert_self _ _
      · exact fun _ => .inl rfl
      · intro holds
        cases holds
      · intro primary
        exact absurd primary (by simp [secondary])
      · exact fun _ => free
      · intro claims _ other _ _ there
        -- The mutex was not there before.
        rw [Instance.claims, secondary, Bool.false_or, decide_eq_true_eq] at claims
        have none := of_decide_eq_false (Stage.creatingEvent.inj claims)
        rw [ne_eq, not_not] at none
        exact absurd there (none ▸ Finset.notMem_empty other)
  | createEvent process =>
      unfold SingleInstance.next at step
      dsimp only at step
      split at step
      · rename_i alreadyExists stage
        obtain rfl := Option.some.inj step
        have held := sound.mutex process (by rw [Instance.holdsMutex, stage])
        apply sound.set (fun _ _ => .rfl) (fun _ => mem_insert_of_ne)
        · exact fun _ => held
        · exact fun _ => .inl rfl
        · exact fun _ => Finset.mem_insert_self _ _
        · exact fun _ => rfl
        · intro opening
          cases opening
        · intro claims
          apply sound.alone _ (Finset.Subset.refl _)
          cases alreadyExists with
          | true => cases claims
          | false => rw [Instance.claims, stage, decide_eq_true rfl, Bool.or_true]
      · cases step
  | createEventFails process =>
      unfold SingleInstance.next at step
      dsimp only at step
      split at step
      · rename_i alreadyExists stage
        obtain rfl := Option.some.inj step
        have held := sound.mutex process (by rw [Instance.holdsMutex, stage])
        apply sound.set (fun _ _ => .rfl) (fun _ _ => .rfl)
        · exact fun _ => held
        · exact fun _ => .inl rfl
        · intro holds
          cases holds
        · exact sound.acquired process
        · exact fun _ => sound.opening process (by rw [Instance.opening, stage])
        · intro claims
          apply sound.alone _ (Finset.Subset.refl _)
          rw [Instance.claims, Bool.or_eq_true] at claims ⊢
          exact .inl (claims.resolve_right (by simp))
      · cases step
  | unwind process =>
      obtain ⟨stage, same⟩ := Option.ite_none_right_eq_some.mp step
      obtain rfl := Option.some.inj same
      have free := sound.opening process (by rw [Instance.opening, stage])
      apply sound.set (fun _ => mem_erase_of_ne) (fun _ _ => .rfl)
      · intro holds
        exact absurd (free.symm.trans holds) (by decide)
      · exact fun there => absurd there (Finset.notMem_erase _ _)
      · intro holds
        rw [Instance.holdsEvent, Bool.and_eq_true] at holds
        exact absurd (free.symm.trans holds.2) (by decide)
      · exact sound.acquired process
      · intro opening
        cases opening
      · exact fun _ there => absurd there (Finset.notMem_erase _ _)
  | setEvent process =>
      obtain ⟨-, same⟩ := Option.ite_none_right_eq_some.mp step
      obtain rfl := Option.some.inj same
      exact ⟨sound.mutex, sound.left, sound.event, sound.acquired, sound.opening, sound.unique⟩
  | pollActivation process =>
      obtain ⟨-, same⟩ := Option.ite_none_right_eq_some.mp step
      obtain rfl := Option.some.inj same
      exact ⟨sound.mutex, sound.left, sound.event, sound.acquired, sound.opening, sound.unique⟩
  | closeEvent process =>
      obtain ⟨stage, same⟩ := Option.ite_none_right_eq_some.mp step
      obtain rfl := Option.some.inj same
      apply sound.set (fun _ _ => .rfl) (fun _ => mem_erase_of_ne)
      · intro holds
        apply sound.mutex process
        rw [Instance.holdsMutex, stage]
        exact holds
      · intro there
        have held := sound.left process there
        rw [Instance.holdsMutex, stage] at held
        exact .inl (held.resolve_right (by simp))
      · intro holds
        cases holds
      · exact sound.acquired process
      · intro opening
        cases opening
      · intro claims
        rw [Instance.claims, Bool.or_eq_true] at claims
        apply sound.alone _ (Finset.Subset.refl _)
        rw [Instance.claims, claims.resolve_right (by simp), Bool.true_or]
  | closeMutex process =>
      obtain ⟨stage, same⟩ := Option.ite_none_right_eq_some.mp step
      obtain rfl := Option.some.inj same
      apply sound.set (fun _ => mem_erase_of_ne) (fun _ _ => .rfl)
      · intro holds
        cases holds
      · exact fun there => absurd there (Finset.notMem_erase _ _)
      · intro holds
        cases holds
      · exact sound.acquired process
      · intro opening
        cases opening
      · exact fun _ there => absurd there (Finset.notMem_erase _ _)
  | reset process =>
      obtain ⟨stage, same⟩ := Option.ite_none_right_eq_some.mp step
      obtain rfl := Option.some.inj same
      apply sound.set (fun _ _ => .rfl) (fun _ _ => .rfl)
      · intro holds
        cases holds
      · intro there
        have held := sound.left process there
        rw [Instance.holdsMutex, stage] at held
        exact absurd held (by simp)
      · intro holds
        cases holds
      · intro primary
        cases primary
      · intro opening
        cases opening
      · intro claims
        cases claims
  | endProcess process =>
      obtain rfl := Option.some.inj step
      apply sound.set (fun _ _ => .rfl) (fun _ _ => .rfl)
      · intro holds
        cases holds
      · exact fun _ => .inr rfl
      · intro holds
        cases holds
      · exact sound.acquired process
      · intro opening
        cases opening
      · intro claims
        rw [Instance.claims, Bool.or_eq_true] at claims
        apply sound.alone _ (Finset.Subset.refl _)
        rw [Instance.claims, claims.resolve_right (by simp), Bool.true_or]
  | reapMutex process =>
      obtain ⟨stage, same⟩ := Option.ite_none_right_eq_some.mp step
      obtain rfl := Option.some.inj same
      have reaped := @Sound.set _ _ _ process sound (system.instances process)
        (system.mutexHandles.erase process) system.eventHandles system.signaled
        (fun _ => mem_erase_of_ne) (fun _ _ => .rfl)
        (by rw [Instance.holdsMutex, stage]; intro holds; cases holds)
        (fun _ => .inr stage) (sound.event process)
        (sound.acquired process) (sound.opening process)
        (fun _ there => absurd there (Finset.notMem_erase _ _))
      rwa [Function.update_eq_self] at reaped
  | reapEvent process =>
      obtain ⟨stage, same⟩ := Option.ite_none_right_eq_some.mp step
      obtain rfl := Option.some.inj same
      have reaped := @Sound.set _ _ _ process sound (system.instances process)
        system.mutexHandles (system.eventHandles.erase process) system.signaled
        (fun _ _ => .rfl) (fun _ => mem_erase_of_ne) (sound.mutex process)
        (sound.left process)
        (by rw [Instance.holdsEvent, stage]; intro holds; cases holds)
        (sound.acquired process) (sound.opening process)
        (fun claims => sound.alone claims (Finset.Subset.refl _))
      rwa [Function.update_eq_self] at reaped

end Sound

theorem sound_of_reaches {allowed : List (Event Process) → System Process → Action Process → Prop}
    (reaches : (machine Process).Reaches allowed events system) : Sound system := by
  induction reaches with
  | @start system initial =>
      obtain ⟨instances, mutexHandles, eventHandles⟩ := initial
      constructor
      · intro process holds
        rw [instances] at holds
        cases holds
      · intro process there
        rw [mutexHandles] at there
        exact absurd there (Finset.notMem_empty _)
      · intro process holds
        rw [instances] at holds
        cases holds
      · intro process primary
        rw [instances] at primary
        cases primary
      · intro process opening
        rw [instances] at opening
        cases opening
      · intro process other claims
        rw [instances] at claims
        cases claims
  | step action _ _ next ih => exact ih.next next

omit [DecidableEq Process] in
theorem Sound.serves_unique (sound : Sound system) (first : system.Serves process)
    (second : system.Serves other) : process = other := by
  have held {process : Process} (serves : system.Serves process) :
      process ∈ system.mutexHandles := by
    apply sound.mutex process
    rw [Instance.holdsMutex, serves.2]
    exact sound.acquired process serves.1
  apply sound.unique process other _ _ (held first) (held second)
  · rw [Instance.claims, first.1, Bool.true_or]
  · rw [Instance.claims, second.1, Bool.true_or]

theorem next_createEvent {alreadyExists : Bool}
    (stage : (system.instances process).stage = .creatingEvent alreadyExists) :
    next system (.createEvent process) =
      some { system.set process { acquired := true, primary := !alreadyExists } with
        eventHandles := insert process system.eventHandles
        signaled := decide (system.eventHandles ≠ ∅) && system.signaled } := by
  unfold next
  dsimp only
  rw [stage]

/-- In every order of the calls and ends of processes one process at most is primary.  When the
processes before have closed or lost their handles, the next one becomes primary. -/
theorem one_primary (reaches : (machine Process).Reaches Machine.Always events system) :
    (∀ process other, system.Serves process → system.Serves other → process = other) ∧
    ∀ process, (system.instances process).stage = .idle →
      (∀ other, (system.instances other).holdsMutex = false) →
      (∀ other ∈ system.mutexHandles, (system.instances other).stage ≠ .ended) →
      ∃ opened system', next system (.createMutex process) = some opened ∧
        next opened (.createEvent process) = some system' ∧ system'.Serves process := by
  have sound := sound_of_reaches reaches
  refine ⟨fun _ _ => sound.serves_unique, ?_⟩
  intro process idle closed reaped
  have free : (system.instances process).acquired = false := by
    have holds := closed process
    rwa [Instance.holdsMutex, idle] at holds
  have none : system.mutexHandles = ∅ := by
    rw [Finset.eq_empty_iff_forall_notMem]
    intro other there
    rcases sound.left other there with holds | ended
    · exact absurd ((closed other).symm.trans holds) (by decide)
    · exact reaped other there ended
  have opened : next system (.createMutex process) =
      some { system.setStage process (.creatingEvent false) with
        mutexHandles := insert process system.mutexHandles } := by
    have absent : decide (system.mutexHandles ≠ ∅) = false := decide_eq_false (not_not.mpr none)
    rw [next, if_pos ⟨idle, free⟩, absent]
  refine ⟨_, _, opened, @next_createEvent _ _ _ process false ?_, ?_⟩
  · simp [System.setStage, System.set]
  · simp [System.Serves, System.set]

/-- Before the first process. -/
def session : System ℕ where
  instances _ := {}
  mutexHandles := ∅
  eventHandles := ∅
  signaled := false

/-- Two processes start at once. -/
def twoStarts : List (Action ℕ) :=
  [.createMutex 0, .createMutex 1, .createEvent 1, .createEvent 0]

theorem twoStarts_facts : ((machine ℕ).exec Machine.Always twoStarts [] session).any
    (fun result => decide (result.2.instances 0 = { acquired := true, primary := true }) &&
      decide (result.2.instances 1 = { acquired := true })) = true := by
  decide

theorem one_primary_sample : ∃ system : System ℕ, system.Serves 0 ∧ ¬ system.Serves 1 := by
  obtain ⟨⟨events, system⟩, executed, checked⟩ := (Option.any_eq_true _ _).mp twoStarts_facts
  simp only [Bool.and_eq_true, decide_eq_true_eq] at checked
  have start : (machine ℕ).Reaches Machine.Always [] session := .start ⟨fun _ => rfl, rfl, rfl⟩
  have serves : system.Serves 0 := by
    rw [System.Serves, checked.1]
    exact ⟨rfl, rfl⟩
  refine ⟨system, serves, ?_⟩
  intro other
  exact absurd ((one_primary (start.exec executed)).1 0 1 serves other) (by decide)

/-- The event is not polled. -/
def Event.quiet : Event Process → Prop
  | .signaled _ => True
  | .polled _ _ => False

/-- The event has been signaled since the last poll. -/
def Requested (seen : List (Event Process)) : Prop :=
  ∃ before other after, seen = before ++ .signaled other :: after ∧ ∀ event ∈ after, event.quiet

omit [DecidableEq Process] in
theorem Requested.signaled (seen : List (Event Process)) (other : Process) :
    Requested (seen ++ [.signaled other]) :=
  ⟨seen, other, [], rfl, by simp⟩

omit [DecidableEq Process] in
theorem not_requested_polled (seen : List (Event Process)) (other : Process) (requested : Bool) :
    ¬ Requested (seen ++ [.polled other requested]) := by
  intro ⟨before, signaler, after, split, quiet⟩
  rcases List.eq_nil_or_concat after with rfl | ⟨front, last, rfl⟩
  · obtain ⟨-, same⟩ := List.append_inj' split rfl
    cases same
  · rw [List.concat_eq_append, ← List.cons_append, ← List.append_assoc] at split
    obtain ⟨-, same⟩ := List.append_inj' split rfl
    obtain rfl : Event.polled other requested = last := by simpa using same
    exact quiet (.polled other requested) (by simp)

/-- While a process is primary, the event is there, and no other process polls it. -/
theorem Sound.signaled_next {action : Action Process} (sound : Sound system)
    (serves : system.Serves process) (step : SingleInstance.next system action = some system') :
    ((machine Process).event system action = none ∧ system'.signaled = system.signaled) ∨
      (∃ other, (machine Process).event system action = some (.signaled other) ∧
        system'.signaled = true) ∨
      ((machine Process).event system action = some (.polled process system.signaled) ∧
        system'.signaled = false) := by
  have present : decide (system.eventHandles ≠ ∅) = true := by
    apply decide_eq_true
    apply Finset.Nonempty.ne_empty
    refine ⟨process, sound.event process ?_⟩
    rw [Instance.holdsEvent, serves.2, sound.acquired process serves.1]
    rfl
  cases action with
  | createEvent other =>
      unfold SingleInstance.next at step
      dsimp only at step
      split at step
      · obtain rfl := Option.some.inj step
        dsimp only
        rw [present, Bool.true_and]
        exact .inl ⟨rfl, rfl⟩
      · cases step
  | createEventFails other =>
      unfold SingleInstance.next at step
      dsimp only at step
      split at step
      · obtain rfl := Option.some.inj step
        exact .inl ⟨rfl, rfl⟩
      · cases step
  | setEvent other =>
      obtain ⟨-, same⟩ := Option.ite_none_right_eq_some.mp step
      obtain rfl := Option.some.inj same
      exact .inr (.inl ⟨other, rfl, rfl⟩)
  | pollActivation other =>
      obtain ⟨⟨idle, primary⟩, same⟩ := Option.ite_none_right_eq_some.mp step
      obtain rfl := Option.some.inj same
      obtain rfl := sound.serves_unique serves ⟨primary, idle⟩
      exact .inr (.inr ⟨rfl, rfl⟩)
  | endProcess other =>
      obtain rfl := Option.some.inj step
      exact .inl ⟨rfl, rfl⟩
  | createMutex other | unwind other | closeEvent other | closeMutex other | reset other
  | reapMutex other | reapEvent other =>
      obtain ⟨-, same⟩ := Option.ite_none_right_eq_some.mp step
      obtain rfl := Option.some.inj same
      exact .inl ⟨rfl, rfl⟩

/-- As long as a process is primary, it is asked to come to the front exactly when an event was
signaled that it has not polled yet: no request is lost and none is invented. -/
theorem activation_delivered (reaches : (machine Process).Reaches Machine.Always events system)
    (stays : (machine Process).Stays Machine.Always (fun system => system.Serves process)
      events system events' system') :
    ∃ seen, events' = events ++ seen ∧
      ((machine Process).event system' (.pollActivation process) = some (.polled process true) ↔
        Requested seen ∨ system.signaled = true ∧ ∀ event ∈ seen, event.quiet) := by
  have polled (system : System Process) :
      (machine Process).event system (.pollActivation process) = some (.polled process true) ↔
        system.signaled = true := by
    simp [machine]
  rw [polled]
  induction stays with
  | refl serves =>
      refine ⟨[], (List.append_nil _).symm, ?_⟩
      constructor
      · intro signaled
        exact .inr ⟨signaled, by simp⟩
      · rintro (⟨before, other, after, split, -⟩ | ⟨signaled, -⟩)
        · simp at split
        · exact signaled
  | step action stays _ next serves ih =>
      obtain ⟨seen, rfl, delivered⟩ := ih reaches
      have sound := sound_of_reaches (stays.reaches reaches)
      rcases sound.signaled_next stays.last next with
        ⟨silent, same⟩ | ⟨other, event, set⟩ | ⟨event, reset⟩
      · refine ⟨seen, by rw [silent, Option.toList_none, List.append_nil], ?_⟩
        rw [same]
        exact delivered
      · refine ⟨seen ++ [.signaled other], by rw [event, Option.toList_some, List.append_assoc], ?_⟩
        exact iff_of_true set (.inl (.signaled seen other))
      · refine ⟨seen ++ [_], by rw [event, Option.toList_some, List.append_assoc], ?_⟩
        rw [reset]
        apply iff_of_false Bool.false_ne_true
        rintro (requested | ⟨-, quiet⟩)
        · exact not_requested_polled seen _ _ requested
        · exact quiet _ (List.mem_append_right _ (List.mem_singleton_self _))

theorem activation_delivered_sample : ∃ system : System ℕ, system.Serves 0 ∧
    (machine ℕ).event system (.pollActivation 0) = some (.polled 0 true) := by
  obtain ⟨⟨events, system⟩, executed, checked⟩ := (Option.any_eq_true _ _).mp twoStarts_facts
  simp only [Bool.and_eq_true, decide_eq_true_eq] at checked
  have start : (machine ℕ).Reaches Machine.Always [] session := .start ⟨fun _ => rfl, rfl, rfl⟩
  have serves : system.Serves 0 := by
    rw [System.Serves, checked.1]
    exact ⟨rfl, rfl⟩
  have set : next system (.setEvent 1) = some { system with signaled := true } := by
    rw [next, checked.2, if_pos ⟨rfl, rfl, rfl⟩]
  have stays : (machine ℕ).Stays Machine.Always (fun system => system.Serves 0) events system
      (events ++ [.signaled 1]) { system with signaled := true } :=
    .step (Action.setEvent 1) (.refl serves) trivial set serves
  obtain ⟨seen, split, delivered⟩ := activation_delivered (start.exec executed) stays
  obtain rfl := List.append_cancel_left split
  exact ⟨{ system with signaled := true }, serves, delivered.mpr (.inl (.signaled [] 1))⟩

end ProxyLauncher.Windows.SingleInstance
