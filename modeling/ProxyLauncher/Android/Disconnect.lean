import ProxyLauncher.Android.VpnSessions

/-!
# Disconnecting

After a disconnect no session is going on, and what older sessions left behind does not start one.
-/

namespace ProxyLauncher.Android.Tunnel

open Transition

/-- The command may start a session. -/
def Event.resumes : Event → Bool
  | .commanded .connect _ | .commanded .reconcile _ => true
  | _ => false

/-- No session is going on, and none will be when the process is restarted. -/
structure World.Withdrawn (world : World) : Prop where
  unmarked : world.restartPending = false
  gone : ∀ service, (world.services service).Over

section Steps

variable {world world' : World} {service generation thread : ℕ} {prepared : PreparedProxy}
  {answer : Answer} {action : Action} {event : Option Event}

/-- What a callback captured is out of date when no session is going on. -/
theorem Service.Over.stale (gone : (world.services service).Over)
    (captured : world.Captured service generation) :
    generation ≠ (world.services service).sessionGeneration ∨
      (world.services service).stopping = true := by
  rcases gone with stopping | zero
  · exact .inr stopping
  · have some := captured.1
    exact .inl (by omega)

theorem World.Withdrawn.alike (withdrawn : world.Withdrawn) (alike : world.Alike world')
    (pending : world'.restartPending = world.restartPending) : world'.Withdrawn where
  unmarked := pending.trans withdrawn.unmarked
  gone service := alike.over_iff.mpr (withdrawn.gone service)

/-- Stopping the tunnel ends the last session. -/
theorem World.withdrawn_stopTunnel (others : ∀ other ≠ service, (world.services other).Over) :
    (world.stopTunnel service).Withdrawn := by
  refine ⟨rfl, fun other => ?_⟩
  by_cases same : other = service
  · rw [same]
    exact .inl (by simp [World.stopTunnel, World.terminateVpnProcess, World.post, Service.closed,
      Service.ended])
  · have kept : (world.stopTunnel service).services other = world.services other := by
      simp [World.stopTunnel, World.stopAutoMonitor, World.terminateVpnProcess, World.post,
        World.modify, same]
    rw [kept]
    exact others other same

theorem World.Withdrawn.receiver (withdrawn : world.Withdrawn) :
    world.receiver.2.Withdrawn := by
  unfold World.receiver
  cases world.current with
  | some service => exact withdrawn
  | none =>
      refine ⟨withdrawn.unmarked, fun other => ?_⟩
      by_cases same : other = world.created
      · rw [same]
        exact .inr (by simp)
      · change ((world.modify world.created fun _ => {}).services other).Over
        rw [World.modify_other same]
        exact withdrawn.gone other

theorem World.Withdrawn.onDestroy (withdrawn : world.Withdrawn) :
    (world.onDestroy service).Withdrawn := by
  refine ⟨withdrawn.unmarked, fun other => ?_⟩
  have kept := (@World.alike_stopAutoMonitor world service).over_iff.mpr (withdrawn.gone other)
  by_cases same : other = service
  · rw [same]
    by_cases stopping : ((world.stopAutoMonitor service).services service).stopping = true
    · exact .inl (by simp [World.onDestroy, stopping])
    · exact .inl (by simp [World.onDestroy, stopping, Service.closed, Service.ended])
  · have moved : (world.onDestroy service).services other =
        (world.stopAutoMonitor service).services other := by simp [World.onDestroy, same]
    rwa [moved]

theorem World.restartPending_registerNetworkCallback :
    (world.registerNetworkCallback service answer).restartPending = world.restartPending := by
  unfold World.registerNetworkCallback
  split_ifs <;> rfl

theorem World.restartPending_confirm :
    (world.confirm service generation thread prepared answer).restartPending =
      world.restartPending := by
  unfold World.confirm
  dsimp only
  split_ifs
  · exact World.restartPending_registerNetworkCallback
  · exact World.restartPending_registerNetworkCallback
  · rfl

theorem World.Withdrawn.reconcilePhysicalNetwork {network : Option ℕ}
    (withdrawn : world.Withdrawn) (idle : (world.services service).worker = none) :
    (world.reconcilePhysicalNetwork service network).Withdrawn := by
  have noted (next : ℕ) : (world.modify service fun found =>
      { found with underlyingNetwork := some next }).Withdrawn :=
    withdrawn.alike (World.alike_modify rfl rfl) rfl
  unfold World.reconcilePhysicalNetwork
  dsimp only
  split_ifs
  · exact withdrawn
  · cases network with
    | none => exact withdrawn
    | some next =>
        dsimp only
        cases (world.services service).underlyingNetwork with
        | none => exact noted next
        | some previous =>
            dsimp only
            rw [idle]
            split_ifs with same alive
            · exact withdrawn
            · simp [World.isAlive] at alive
            · exact noted next

/-- A message that was posted before does nothing to a session. -/
theorem World.Withdrawn.run {message : Message} (withdrawn : world.Withdrawn)
    (idle : ∀ service, (world.services service).worker = none)
    (captured : ∀ session ∈ message.session, world.Captured session.1 session.2) :
    (world.run answer message).1.Withdrawn ∧
      (world.run answer message).2 ≠ some .engineStarted := by
  cases message with
  | continueStartAfterPreflight service generation prepared =>
      have stale := (withdrawn.gone service).stale (captured (service, generation) rfl)
      rw [World.run, World.continueStartAfterPreflight, if_pos stale]
      exact ⟨withdrawn, by simp⟩
  | failStartForSession service generation =>
      have stale := (withdrawn.gone service).stale (captured (service, generation) rfl)
      rw [World.run, World.failStartForSession, if_pos stale]
      exact ⟨withdrawn, by simp⟩
  | confirm service generation thread prepared =>
      exact ⟨withdrawn.alike World.alike_confirm World.restartPending_confirm, by simp [World.run]⟩
  | requestAutoHandoff service generation =>
      have stale := (withdrawn.gone service).stale (captured (service, generation) rfl)
      refine ⟨?_, by simp [World.run]⟩
      rw [World.run, World.requestAutoHandoff, if_pos (stale.imp id .inl)]
      exact withdrawn
  | reconcilePhysicalNetwork service =>
      exact ⟨withdrawn.reconcilePhysicalNetwork (idle service), by simp [World.run]⟩
  | killProcess =>
      exact ⟨⟨withdrawn.unmarked, fun _ => .inr rfl⟩, by simp [World.run]⟩

theorem World.Withdrawn.onEngineExit {exit : Thread} (withdrawn : world.Withdrawn) :
    (world.onEngineExit exit).1.Withdrawn ∧
      (world.onEngineExit exit).2 ≠ some .engineStarted := by
  have closed : (world.modify exit.service Service.closed).Withdrawn :=
    withdrawn.alike (World.alike_modify rfl rfl) rfl
  unfold World.onEngineExit
  dsimp only
  split_ifs
  · exact ⟨closed, by simp⟩
  · exact ⟨⟨closed.unmarked, closed.gone⟩, by simp⟩
  · exact ⟨⟨closed.unmarked, closed.gone⟩, by simp⟩
  · exact ⟨withdrawn, by simp⟩

/-- Only a command that resumes ends the withdrawal. -/
theorem World.Withdrawn.react (withdrawn : world.Withdrawn) (valid : world.Valid)
    (reacted : world.react action = some (world', event))
    (silent : ∀ seen ∈ event, seen.resumes = false) :
    world'.Withdrawn ∧ event ≠ some .engineStarted := by
  have idle (service : ℕ) : (world.services service).worker = none :=
    ((valid.sound service).ended (withdrawn.gone service)).2
  cases action with
  | command command =>
      obtain ⟨rfl, rfl⟩ := Prod.mk.inj (Option.some.inj reacted)
      have unresumed := silent _ rfl
      refine ⟨?_, by simp⟩
      cases command with
      | disconnect => exact World.withdrawn_stopTunnel fun other _ => withdrawn.receiver.gone other
      | other => exact withdrawn.receiver
      | _ => exact absurd unresumed (by simp [Event.resumes])
  | restart =>
      simp only [World.react] at reacted
      split_ifs at reacted
      obtain ⟨rfl, rfl⟩ := Prod.mk.inj (Option.some.inj reacted)
      have received := withdrawn.receiver
      rw [World.onRestart, received.unmarked]
      exact ⟨received, by simp⟩
  | revoke =>
      obtain ⟨service, -, same⟩ := Option.map_eq_some_iff.mp reacted
      obtain ⟨rfl, rfl⟩ := Prod.mk.inj same
      exact ⟨World.withdrawn_stopTunnel fun other _ => withdrawn.gone other, by simp⟩
  | destroy =>
      obtain ⟨service, -, same⟩ := Option.map_eq_some_iff.mp reacted
      obtain ⟨rfl, rfl⟩ := Prod.mk.inj same
      exact ⟨withdrawn.onDestroy, by simp⟩
  | engineExit thread =>
      simp only [World.react] at reacted
      split_ifs at reacted
      have exited := @World.Withdrawn.onEngineExit
        { world with engines := world.engines.erase thread } thread
        ⟨withdrawn.unmarked, withdrawn.gone⟩
      rwa [Option.some.inj reacted] at exited
  | message message answer =>
      simp only [World.react] at reacted
      split_ifs at reacted with posted
      have ran := @World.Withdrawn.run
        { world with messages := world.messages.erase message } answer message
        ⟨withdrawn.unmarked, withdrawn.gone⟩ idle (valid.messages message (List.mem_append_left _ posted))
      rwa [Option.some.inj reacted] at ran
  | die =>
      obtain ⟨rfl, rfl⟩ := Prod.mk.inj (Option.some.inj reacted)
      exact ⟨⟨withdrawn.unmarked, fun _ => .inr rfl⟩, by simp⟩
  | _ =>
      simp only [World.react] at reacted
      split_ifs at reacted
      obtain ⟨rfl, rfl⟩ := Prod.mk.inj (Option.some.inj reacted)
      exact ⟨⟨withdrawn.unmarked, withdrawn.gone⟩, by simp⟩

end Steps

section Runs

variable {world : World} {events before after : List Event}

theorem exists_react {world' : World} {action : Action}
    (next : vpnService.next world action = some world') :
    ∃ event, world.react action = some (world', event) ∧
      vpnService.event world action = event := by
  obtain ⟨⟨found, event⟩, reacted, rfl⟩ := Option.map_eq_some_iff.mp next
  refine ⟨event, reacted, ?_⟩
  change (world.react action).bind Prod.snd = event
  rw [reacted]
  rfl

/-- The last command that counts was a disconnect. -/
def Disconnected : List Event → Prop :=
  Machine.Since (fun event => ∃ dying, event = .commanded .disconnect dying)
    fun event => event.resumes = false

theorem World.run_ne_commanded {message : Message} {answer : Answer} {command : Command}
    {dying : Bool} : (world.run answer message).2 ≠ some (.commanded command dying) := by
  cases message with
  | continueStartAfterPreflight service generation prepared =>
      simp only [World.run, World.continueStartAfterPreflight, World.failStartForSession]
      split_ifs <;> simp
  | failStartForSession service generation =>
      simp only [World.run, World.failStartForSession]
      split_ifs <;> simp
  | _ => simp [World.run]

theorem World.onEngineExit_ne_commanded {exit : Thread} {command : Command} {dying : Bool} :
    (world.onEngineExit exit).2 ≠ some (.commanded command dying) := by
  simp only [World.onEngineExit]
  split_ifs <;> simp

/-- Only a command is observed as a command. -/
theorem World.react_commanded {world' : World} {action : Action} {command : Command} {dying : Bool}
    (reacted : world.react action = some (world', some (.commanded command dying))) :
    action = .command command := by
  cases action with
  | command issued =>
      obtain ⟨-, same⟩ := Prod.mk.inj (Option.some.inj reacted)
      exact congrArg Action.command (Event.commanded.inj (Option.some.inj same)).1
  | revoke =>
      obtain ⟨service, -, same⟩ := Option.map_eq_some_iff.mp reacted
      exact absurd (Prod.mk.inj same).2 (by simp)
  | destroy =>
      obtain ⟨service, -, same⟩ := Option.map_eq_some_iff.mp reacted
      exact absurd (Prod.mk.inj same).2 (by simp)
  | engineExit thread =>
      simp only [World.react] at reacted
      split_ifs at reacted
      exact absurd (congrArg Prod.snd (Option.some.inj reacted)) World.onEngineExit_ne_commanded
  | message message answer =>
      simp only [World.react] at reacted
      split_ifs at reacted
      exact absurd (congrArg Prod.snd (Option.some.inj reacted)) World.run_ne_commanded
  | die =>
      exact absurd (Prod.mk.inj (Option.some.inj reacted)).2 (by simp)
  | _ =>
      simp only [World.react] at reacted
      split_ifs at reacted
      exact absurd (Prod.mk.inj (Option.some.inj reacted)).2 (by simp)

theorem withdrawn_of_disconnect {world' : World} {action : Action} {dying : Bool}
    (valid : world.Valid)
    (reacted : world.react action = some (world', some (.commanded .disconnect dying))) :
    world'.Withdrawn := by
  obtain rfl := World.react_commanded reacted
  obtain ⟨rfl, -⟩ := Prod.mk.inj (Option.some.inj reacted)
  have received := valid.receiver
  refine World.withdrawn_stopTunnel fun other different => ?_
  refine received.1.retired other fun here => different ?_
  exact Option.some.inj (here.symm.trans received.2)

def Followed (events : List Event) (world : World) : Prop :=
  world.Valid ∧ (Disconnected events → world.Withdrawn)

/-- No session is going on after a disconnect. -/
theorem followed_of_reaches (reaches : vpnService.Reaches Machine.Always events world) :
    Followed events world := by
  refine reaches.invariant ?_ ?_
  · rintro state ⟨pending, rfl⟩
    refine ⟨World.valid_start pending 0, ?_⟩
    rintro ⟨before, first, after, split, -⟩
    simp at split
  · intro events state action state' held _ next
    obtain ⟨valid, withdrawn⟩ := held
    obtain ⟨event, reacted, observed⟩ := exists_react next
    refine ⟨valid.react reacted, fun disconnected => ?_⟩
    rw [observed] at disconnected
    rcases disconnected.of_append with ⟨-, rfl, dying, rfl⟩ | ⟨still, silent⟩
    · exact withdrawn_of_disconnect valid reacted
    · exact ((withdrawn still).react valid reacted silent).1

/-- After a disconnect and until a command resumes the service, no tunnel is kept, no engine is
started and no restart is marked. -/
theorem disconnect_stays {dying : Bool} (reaches : vpnService.Reaches Machine.Always events world)
    (split : events = before ++ .commanded .disconnect dying :: after)
    (silent : ∀ event ∈ after, event.resumes = false) :
    world.restartPending = false ∧
      (∀ service, (world.services service).tunFd = none ∧
        (world.services service).worker = none ∧ (world.services service).interfaces = []) ∧
      .engineStarted ∉ after := by
  obtain ⟨valid, withdrawn⟩ := followed_of_reaches reaches
  have idle := withdrawn ⟨before, _, after, split, ⟨dying, rfl⟩, silent⟩
  refine ⟨idle.unmarked, fun service => ?_, fun started => ?_⟩
  · have sound := valid.sound service
    obtain ⟨closed, stopped⟩ := sound.ended (idle.gone service)
    refine ⟨closed, stopped, ?_⟩
    rw [sound.interfaces, closed]
    rfl
  · -- The engine would have been started from a state that was withdrawn already.
    obtain ⟨front, rest, rfl⟩ := List.append_of_mem started
    rw [← List.cons_append, ← List.append_assoc] at split
    obtain ⟨state, action, state', reached, -, next, observed⟩ := reaches.at_event split
    obtain ⟨event, reacted, same⟩ := exists_react next
    obtain ⟨valid', withdrawn'⟩ := followed_of_reaches reached
    have idle' := withdrawn' ⟨before, _, front, rfl, ⟨dying, rfl⟩, fun event member =>
      silent event (by simp [member])⟩
    rw [same] at observed
    refine (idle'.react valid' reacted ?_).2 observed
    rw [observed]
    rintro seen ⟨rfl⟩
    rfl

end Runs

section Sample

/-- What a list of actions reaches from the installation on. -/
theorem exists_reaches {allowed : List Event → World → Action → Prop}
    [∀ events world action, Decidable (allowed events world action)] {actions : List Action}
    {events : List Event}
    (executed : (vpnService.exec allowed actions [] { restartPending := false }).map Prod.fst =
      some events) : ∃ world, vpnService.Reaches allowed events world := by
  obtain ⟨⟨found, world⟩, ran, rfl⟩ := Option.map_eq_some_iff.mp executed
  have start : vpnService.Reaches allowed [] { restartPending := false } :=
    .start ⟨false, rfl⟩
  exact ⟨world, start.exec ran⟩

/-- A connection by hand, up to its confirmation. -/
def connection : List Action :=
  [.command .connect, .preflight ⟨0, 1, 0⟩ (some ⟨false⟩),
    .message (.continueStartAfterPreflight 0 1 ⟨false⟩) {}, .message (.confirm 0 1 2 ⟨false⟩) {}]

/-- The engine ends and the network changes after a disconnect. -/
theorem disconnect_stays_sample :
    ∃ world, vpnService.Reaches Machine.Always
        [.commanded .connect false, .engineStarted, .commanded .disconnect false] world ∧
      world.restartPending = false ∧
      (∀ service, (world.services service).tunFd = none ∧
        (world.services service).worker = none ∧ (world.services service).interfaces = []) ∧
      .engineStarted ∉ ([] : List Event) := by
  obtain ⟨world, reaches⟩ := @exists_reaches Machine.Always _
    (connection ++ [.command .disconnect, .engineExit ⟨0, 1, 2⟩, .networkChanged 0,
      .message (.reconcilePhysicalNetwork 0) { network := some 7 }])
    [.commanded .connect false, .engineStarted, .commanded .disconnect false] (by decide)
  exact ⟨world, reaches, @disconnect_stays world _ [.commanded .connect false, .engineStarted] []
    false reaches rfl (by simp)⟩

end Sample

end ProxyLauncher.Android.Tunnel
