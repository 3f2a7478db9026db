import ProxyLauncher.Timing.Limited
import ProxyLauncher.Transition.Machine

/-!
# Reconnecting after a failure of the engine

The application for macOS connects again when its tunnel has stopped by itself.  It learns of a
failure from the events that the tunnel has stored.
-/

namespace ProxyLauncher.IOS

open Transition

structure TunnelAutoReconnectPolicy where
  attempts : List ℚ := []

namespace TunnelAutoReconnectPolicy

/-- The attempt is in the window of ten minutes, in either direction. -/
def Near (attempt now : ℚ) : Prop :=
  now - attempt ≤ 600 ∧ -600 ≤ now - attempt

instance : DecidableRel Near :=
  fun _ _ => inferInstanceAs (Decidable (_ ∧ _))

def mayRetry (policy : TunnelAutoReconnectPolicy) (now : ℚ) (failureAt : Option ℚ)
    (explicitDisconnect : Bool) : TunnelAutoReconnectPolicy × Bool :=
  match explicitDisconnect, failureAt with
  | false, some failureAt =>
      if 0 ≤ now - failureAt ∧ now - failureAt ≤ 45 then
        let attempts := policy.attempts.filter fun attempt => decide (Near attempt now)
        if attempts.length < 3 then ({ attempts := attempts ++ [now] }, true)
        else ({ attempts := attempts }, false)
      else (policy, false)
  | _, _ => (policy, false)

variable {policy : TunnelAutoReconnectPolicy} {now failureAt : ℚ}

theorem mayRetry_true (retry : (policy.mayRetry now (some failureAt) false).2 = true) :
    (0 ≤ now - failureAt ∧ now - failureAt ≤ 45) ∧
      (policy.attempts.filter fun attempt => decide (Near attempt now)).length < 3 ∧
      (policy.mayRetry now (some failureAt) false).1.attempts =
        (policy.attempts.filter fun attempt => decide (Near attempt now)) ++ [now] := by
  unfold mayRetry at retry ⊢
  dsimp only at retry ⊢
  split_ifs at retry ⊢ with young room
  exact ⟨young, room, rfl⟩

theorem mayRetry_false (refused : (policy.mayRetry now (some failureAt) false).2 = false) :
    (policy.mayRetry now (some failureAt) false).1 = policy ∨
      (policy.mayRetry now (some failureAt) false).1.attempts =
        policy.attempts.filter fun attempt => decide (Near attempt now) := by
  unfold mayRetry at refused ⊢
  dsimp only at refused ⊢
  split_ifs at refused ⊢
  · exact .inr rfl
  · exact .inl rfl

end TunnelAutoReconnectPolicy

/-- `NEVPNStatus`. -/
inductive Status where
  | invalid
  | disconnected
  | connecting
  | connected
  | reasserting
  | disconnecting
deriving DecidableEq

/-- `TunnelEvent`, as far as the controller reads it. -/
structure TunnelEvent where
  id : ℕ
  timestamp : ℚ
  type : String
deriving DecidableEq

/-- `VPNController`; of the task it matters whether there is one. -/
structure VPNController where
  status : Status := .invalid
  userRequestedDisconnect : Bool := false
  hasObservedConnection : Bool := false
  recoveryTask : Bool := false
  reconnectPolicy : TunnelAutoReconnectPolicy := {}
  lastHandledFailureID : Option ℕ := none

namespace VPNController

variable (controller : VPNController)

/-- The failure that the stored events report, unless the tunnel was stopped by hand since. -/
def failure (events : List TunnelEvent) : Option TunnelEvent :=
  (events.find? fun event => event.type = "switch failed").filter fun failure =>
    !events.any fun event =>
      decide (event.type = "manual stop") && decide (failure.timestamp ≤ event.timestamp)

/-- The controller and the failure after which it connects again. -/
def scheduleRecoveryAfterUnexpectedFailure (events : List TunnelEvent) (now : ℚ) :
    VPNController × Option TunnelEvent :=
  if controller.userRequestedDisconnect = false ∧ controller.hasObservedConnection = true ∧
      controller.recoveryTask = false then
    match failure (events.take 12) with
    | some failure =>
        if controller.lastHandledFailureID = some failure.id then (controller, none)
        else
          let retry := controller.reconnectPolicy.mayRetry now (some failure.timestamp)
            controller.userRequestedDisconnect
          if retry.2 = true then
            ({ controller with
                reconnectPolicy := retry.1
                lastHandledFailureID := some failure.id
                recoveryTask := true }, some failure)
          else ({ controller with reconnectPolicy := retry.1 }, none)
    | none => (controller, none)
  else (controller, none)

def refreshStatus (connection : Status) (events : List TunnelEvent) (now : ℚ) :
    VPNController × Option TunnelEvent :=
  let previous := controller.status
  let controller := { controller with status := connection }
  let controller :=
    if connection = .connected then
      { controller with hasObservedConnection := true, recoveryTask := false }
    else controller
  if connection = .disconnected ∧ previous ≠ .disconnected then
    controller.scheduleRecoveryAfterUnexpectedFailure events now
  else (controller, none)

/-- The controller, the connection of the system, the events that are stored and the time. -/
structure App where
  controller : VPNController := {}
  connection : Status := .invalid
  events : List TunnelEvent := []
  clock : ℚ := 0

inductive Action where
  | refreshStatus
  | disconnect
  | recreateConfiguration
  | resetConfiguration
  | connectEnds
  | recoveryEnds
  | connectionChanges (connection : Status)
  | append (event : TunnelEvent)
  | clear
  | tick (clock : ℚ)

/-- The controller that has looked at the connection. -/
def App.refreshed (app : App) (controller : VPNController) : VPNController × Option TunnelEvent :=
  controller.refreshStatus app.connection app.events app.clock

/-- The controller after the parts of its calls that run without interruption. -/
def call (app : App) : Action → VPNController × Option TunnelEvent
  | .refreshStatus => app.refreshed app.controller
  | .disconnect =>
      app.refreshed { app.controller with userRequestedDisconnect := true, recoveryTask := false }
  | .recreateConfiguration =>
      ({ app.controller with userRequestedDisconnect := true, recoveryTask := false }, none)
  | .resetConfiguration =>
      ({ app.controller with hasObservedConnection := false, lastHandledFailureID := none }, none)
  | .connectEnds => app.refreshed { app.controller with userRequestedDisconnect := false }
  | .recoveryEnds => ({ app.controller with recoveryTask := false }, none)
  | .connectionChanges _ | .append _ | .clear | .tick _ => (app.controller, none)

/-- The tunnel and the system change what the controller looks at; the time does not go back. -/
def next (app : App) (action : Action) : Option App :=
  let app' := { app with controller := (call app action).1 }
  match action with
  | .connectionChanges connection => some { app' with connection := connection }
  | .append event => some { app' with events := (event :: app.events).take 40 }
  | .clear => some { app' with events := [] }
  | .tick clock => if app.clock ≤ clock then some { app' with clock := clock } else none
  | .refreshStatus | .disconnect | .recreateConfiguration | .resetConfiguration | .connectEnds
  | .recoveryEnds => some app'

/-- An action, when it happened, and the failure after which it schedules a recovery. -/
structure Observed where
  action : Action
  now : ℚ
  scheduled : Option TunnelEvent

def machine : Machine App Action Observed where
  initial app := app.controller = {}
  next := next
  event app action := some { action := action, now := app.clock, scheduled := (call app action).2 }

/-- When recoveries were scheduled. -/
def recoveryTimes (events : List Observed) : List ℚ :=
  events.filterMap fun observed => observed.scheduled.map fun _ => observed.now

/-- Whether the action is a disconnect of the user, or the end of a connect. -/
def Action.bars : Action → Option Bool
  | .disconnect | .recreateConfiguration => some true
  | .connectEnds => some false
  | .refreshStatus | .resetConfiguration | .recoveryEnds | .connectionChanges _ | .append _ | .clear
  | .tick _ => none

/-- The user has disconnected and no connection has been made since. -/
def barred (events : List Observed) : Bool :=
  events.foldl (fun barred observed => observed.action.bars.getD barred) false

/-- The controller forgets the failure that it has handled last. -/
def Action.forgets : Action → Bool
  | .resetConfiguration => true
  | _ => false

/-- The failure that was handled last, unless the configuration was made anew since. -/
def handled (events : List Observed) : Option ℕ :=
  events.foldl (fun handled observed =>
    if observed.action.forgets = true then none
    else (observed.scheduled.map TunnelEvent.id).or handled) none

variable {app app' : App} {controller : VPNController} {action : Action} {observed : Observed}
  {events before after : List Observed} {failure : TunnelEvent} {now : ℚ}

/-- What scheduling leaves and what it needs. -/
structure Schedules (controller controller' : VPNController) (now : ℚ)
    (scheduled : Option TunnelEvent) : Prop where
  request : controller'.userRequestedDisconnect = controller.userRequestedDisconnect
  attempts : (scheduled = none ∧ (controller'.reconnectPolicy = controller.reconnectPolicy ∨
        controller'.reconnectPolicy.attempts = controller.reconnectPolicy.attempts.filter
          fun attempt => decide (TunnelAutoReconnectPolicy.Near attempt now))) ∨
      scheduled.isSome = true ∧
        (controller.reconnectPolicy.attempts.filter fun attempt =>
          decide (TunnelAutoReconnectPolicy.Near attempt now)).length < 3 ∧
        controller'.reconnectPolicy.attempts = (controller.reconnectPolicy.attempts.filter
          fun attempt => decide (TunnelAutoReconnectPolicy.Near attempt now)) ++ [now]
  handled : controller'.lastHandledFailureID =
    (scheduled.map TunnelEvent.id).or controller.lastHandledFailureID
  justified : ∀ failure, scheduled = some failure → controller.userRequestedDisconnect = false ∧
    controller.lastHandledFailureID ≠ some failure.id ∧ 0 ≤ now - failure.timestamp ∧
      now - failure.timestamp ≤ 45

theorem Schedules.refl (controller : VPNController) (now : ℚ) :
    Schedules controller controller now none :=
  ⟨rfl, .inl ⟨rfl, .inl rfl⟩, rfl, fun _ same => by cases same⟩

theorem schedules_scheduleRecovery (events : List TunnelEvent) :
    Schedules controller (controller.scheduleRecoveryAfterUnexpectedFailure events now).1 now
      (controller.scheduleRecoveryAfterUnexpectedFailure events now).2 := by
  unfold scheduleRecoveryAfterUnexpectedFailure
  split_ifs with able
  · cases VPNController.failure (events.take 12) with
    | none => exact .refl controller now
    | some failure =>
        dsimp only
        rw [able.1]
        split_ifs with known retry
        · exact .refl controller now
        · have ⟨young, room, attempts⟩ := TunnelAutoReconnectPolicy.mayRetry_true retry
          refine ⟨able.1.symm, .inr ⟨rfl, room, attempts⟩, rfl, ?_⟩
          intro failure' same
          obtain rfl := Option.some.inj same
          exact ⟨able.1, known, young⟩
        · rw [Bool.not_eq_true] at retry
          exact ⟨able.1.symm, .inl ⟨rfl, TunnelAutoReconnectPolicy.mayRetry_false retry⟩, rfl,
            fun _ same => by cases same⟩
  · exact .refl controller now

theorem schedules_refreshStatus (connection : Status) (events : List TunnelEvent) :
    Schedules controller (controller.refreshStatus connection events now).1 now
      (controller.refreshStatus connection events now).2 := by
  unfold refreshStatus
  dsimp only
  by_cases connected : connection = .connected
  · rw [if_pos connected, if_neg (by simp [connected])]
    exact ⟨rfl, .inl ⟨rfl, .inl rfl⟩, rfl, fun _ same => by cases same⟩
  · rw [if_neg connected]
    split_ifs
    · have schedules := @schedules_scheduleRecovery { controller with status := connection } now
        events
      exact ⟨schedules.request, schedules.attempts, schedules.handled, schedules.justified⟩
    · exact ⟨rfl, .inl ⟨rfl, .inl rfl⟩, rfl, fun _ same => by cases same⟩

/-- The controller remembers the last request of the user, the last failure that it handled, and
the recoveries of the last ten minutes. -/
structure Recalls (events : List Observed) (app : App) : Prop where
  request : app.controller.userRequestedDisconnect = barred events
  failure : app.controller.lastHandledFailureID = handled events
  limited : Timing.Limited TunnelAutoReconnectPolicy.Near 3 (recoveryTimes events)
  past : ∀ time ∈ recoveryTimes events, time ≤ app.clock
  attempts : ∃ earlier ≤ app.clock, (∀ time ∈ recoveryTimes events, time ≤ earlier) ∧
    app.controller.reconnectPolicy.attempts = (recoveryTimes events).filter fun time =>
      decide (TunnelAutoReconnectPolicy.Near time earlier)

theorem barred_append : barred (events ++ [observed]) =
    observed.action.bars.getD (barred events) := by
  rw [barred, List.foldl_append]
  rfl

theorem handled_append : handled (events ++ [observed]) =
    if observed.action.forgets = true then none
    else (observed.scheduled.map TunnelEvent.id).or (handled events) := by
  rw [handled, List.foldl_append]
  rfl

theorem recoveryTimes_append : recoveryTimes (events ++ [observed]) =
    recoveryTimes events ++ (observed.scheduled.map fun _ => observed.now).toList := by
  rw [recoveryTimes, List.filterMap_append, recoveryTimes]
  cases scheduled : observed.scheduled <;> simp [scheduled]

/-- The controller before its call looks at the connection. -/
def requested (controller : VPNController) (action : Action) : VPNController :=
  match action with
  | .disconnect | .recreateConfiguration =>
      { controller with userRequestedDisconnect := true, recoveryTask := false }
  | .connectEnds => { controller with userRequestedDisconnect := false }
  | .resetConfiguration =>
      { controller with hasObservedConnection := false, lastHandledFailureID := none }
  | .recoveryEnds => { controller with recoveryTask := false }
  | .refreshStatus | .connectionChanges _ | .append _ | .clear | .tick _ => controller

theorem schedules_call :
    Schedules (requested app.controller action) (call app action).1 app.clock
      (call app action).2 := by
  cases action with
  | refreshStatus | disconnect | connectEnds => exact schedules_refreshStatus _ _
  | recreateConfiguration | resetConfiguration | recoveryEnds | connectionChanges | append | clear
  | tick => exact .refl _ _

theorem next_eq (step : next app action = some app') :
    app'.controller = (call app action).1 ∧ app.clock ≤ app'.clock := by
  cases action with
  | tick clock =>
      obtain ⟨later, same⟩ := Option.ite_none_right_eq_some.mp step
      obtain rfl := Option.some.inj same
      exact ⟨rfl, later⟩
  | _ =>
      obtain rfl := Option.some.inj step
      exact ⟨rfl, le_rfl⟩

theorem Recalls.next (recalls : Recalls events app)
    (step : VPNController.next app action = some app') :
    Recalls (events ++ [⟨action, app.clock, (call app action).2⟩]) app' := by
  obtain ⟨controller, later⟩ := next_eq step
  have schedules := @schedules_call app action
  obtain ⟨earlier, before, past, attempts⟩ := recalls.attempts
  have unchanged : (requested app.controller action).reconnectPolicy =
      app.controller.reconnectPolicy := by
    cases action <;> rfl
  -- What was forgotten before is not near now.
  have near : (app.controller.reconnectPolicy.attempts.filter fun attempt =>
      decide (TunnelAutoReconnectPolicy.Near attempt app.clock)) =
      (recoveryTimes events).filter fun attempt =>
        decide (TunnelAutoReconnectPolicy.Near attempt app.clock) := by
    rw [attempts]
    apply Timing.filter_filter_near
    intro time there close
    constructor
    · linarith [close.1]
    · linarith [past time there]
  rw [← unchanged] at near attempts
  constructor
  · rw [controller, schedules.request, barred_append, ← recalls.request]
    cases action <;> rfl
  · rw [controller, schedules.handled, handled_append, ← recalls.failure]
    cases action with
    | resetConfiguration => rfl
    | _ => rfl
  · rw [recoveryTimes_append]
    rcases schedules.attempts with ⟨none, -⟩ | ⟨some, room, -⟩
    · rw [none]
      simpa using recalls.limited
    · obtain ⟨failure, found⟩ := Option.isSome_iff_exists.mp some
      rw [found]
      apply Timing.Limited.append recalls.limited
      rwa [← near]
  · intro time there
    rw [recoveryTimes_append] at there
    rcases List.mem_append.mp there with there | now
    · exact (recalls.past time there).trans later
    · rw [Option.mem_toList, Option.map_eq_some_iff] at now
      obtain ⟨failure, -, rfl⟩ := now
      exact later
  · rw [controller, recoveryTimes_append]
    rcases schedules.attempts with ⟨none, same | filtered⟩ | ⟨some, -, appended⟩
    · rw [none, Option.map_none, Option.toList_none, List.append_nil, same]
      exact ⟨earlier, before.trans later, past, attempts⟩
    · rw [none, Option.map_none, Option.toList_none, List.append_nil, filtered]
      exact ⟨app.clock, later, recalls.past, near⟩
    · obtain ⟨failure, found⟩ := Option.isSome_iff_exists.mp some
      rw [found, Option.map_some, Option.toList_some, appended, near]
      refine ⟨app.clock, later, ?_, ?_⟩
      · intro time there
        rcases List.mem_append.mp there with there | last
        · exact recalls.past time there
        · exact (List.mem_singleton.mp last).le
      · have own : TunnelAutoReconnectPolicy.Near app.clock app.clock := by
          constructor
          · norm_num
          · norm_num
        rw [List.filter_append, List.filter_singleton, decide_eq_true own, cond_true]

theorem recalls_of_reaches (reaches : machine.Reaches Machine.Always events app) :
    Recalls events app := by
  induction reaches with
  | @start app initial =>
      have fresh : app.controller = {} := initial
      refine ⟨?_, ?_, .nil, fun _ there => (by cases there), app.clock, le_rfl,
        fun _ there => (by cases there), ?_⟩
      · rw [fresh]
        rfl
      · rw [fresh]
        rfl
      · rw [fresh]
        rfl
  | step action _ _ next ih => exact ih.next next

/-- On a clock that does not go back, the application schedules at most three recoveries in ten
minutes, each for another failure than the last one, at most 45 seconds old, and none while the
user has disconnected. -/
theorem reconnects_limited (reaches : machine.Reaches Machine.Always events app) :
    (∀ start, ((recoveryTimes events).filter fun time =>
      decide (start ≤ time ∧ time ≤ start + 600)).length ≤ 3) ∧
    ∀ before observed after failure, events = before ++ observed :: after →
      observed.scheduled = some failure →
        barred (before ++ [observed]) = false ∧ handled before ≠ some failure.id ∧
          0 ≤ observed.now - failure.timestamp ∧ observed.now - failure.timestamp ≤ 45 := by
  constructor
  · intro start
    apply (recalls_of_reaches reaches).limited.length_filter_le
    intro time now there there'
    have first := of_decide_eq_true there
    have second := of_decide_eq_true there'
    constructor
    · linarith [first.1, second.2]
    · linarith [first.2, second.1]
  · intro before observed after failure split scheduled
    obtain ⟨app, action, app', reached, -, step, event⟩ := reaches.at_event split
    obtain rfl := Option.some.inj event
    have recalls := recalls_of_reaches reached
    have ⟨request, other, young⟩ := schedules_call.justified failure scheduled
    refine ⟨?_, ?_, young⟩
    · rw [barred_append, ← recalls.request, ← request]
      cases action <;> rfl
    · rw [← recalls.failure]
      cases action with
      | resetConfiguration => cases scheduled
      | _ => exact other

/-- A connection fails, and the application connects again. -/
def sampleActions : List Action :=
  [.connectionChanges .connected, .refreshStatus, .append ⟨1, 0, "switch failed"⟩, .tick 5,
    .connectionChanges .disconnected, .refreshStatus]

theorem reconnects_limited_sample : ∃ events app before observed after failure,
    machine.Reaches Machine.Always events app ∧ recoveryTimes events = [5] ∧
      ((recoveryTimes events).filter fun time =>
        decide (0 ≤ time ∧ time ≤ 0 + 600)).length ≤ 3 ∧
      events = before ++ observed :: after ∧ observed.scheduled = some failure ∧
      handled before ≠ some failure.id ∧ observed.now - failure.timestamp ≤ 45 := by
  have executed : (machine.exec Machine.Always sampleActions [] {}).any
      (fun result => decide (recoveryTimes result.1 = [5])) = true := by
    decide +kernel
  obtain ⟨⟨events, app⟩, executed, times⟩ := (Option.any_eq_true _ _).mp executed
  have start : machine.Reaches Machine.Always [] {} := .start rfl
  have reached := start.exec executed
  have times := of_decide_eq_true times
  obtain ⟨few, justified⟩ := reconnects_limited reached
  have member : (5 : ℚ) ∈ recoveryTimes events := by
    rw [times]
    exact List.mem_singleton_self 5
  obtain ⟨observed, there, recovered⟩ := List.mem_filterMap.mp member
  obtain ⟨failure, scheduled, -⟩ := Option.map_eq_some_iff.mp recovered
  obtain ⟨before, after, split⟩ := List.append_of_mem there
  obtain ⟨-, other, -, young⟩ := justified before observed after failure split scheduled
  exact ⟨events, app, before, observed, after, failure, reached, times, few 0, split, scheduled,
    other, young⟩

end VPNController

end ProxyLauncher.IOS
