import ProxyLauncher.Android.Disconnect

/-!
# Handing over to a new process

The process kills itself some time after it decided to.  Whether the service goes on in a new
process is what the flag says at that time.  A connect clears the flag, but does not call off a kill
that is pending already.
-/

namespace ProxyLauncher.Android.Tunnel

open Transition

/-- How far the last command of the user has come, when it was a connect. -/
inductive Latest where
  | superseded
  | starting
  | started
deriving DecidableEq

/-- A connect whose own start has failed does not count any more. -/
def Latest.observe : Latest → Event → Latest
  | _, .commanded .connect _ => .starting
  | _, .commanded .disconnect _ => .superseded
  | .starting, .startFailed => .superseded
  | .starting, .engineStarted | .starting, .killed _ => .started
  | latest, _ => latest

def latest (events : List Event) : Latest :=
  events.foldl Latest.observe .superseded

/-- What takes the last connect back. -/
def Event.spoils : Event → Bool
  | .commanded .connect _ | .commanded .disconnect _ | .startFailed | .revoked | .exited => true
  | _ => false

namespace World

variable (world : World)

/-- The process is about to kill itself. -/
def Dying : Prop :=
  .killProcess ∈ world.pending

instance : Decidable world.Dying :=
  inferInstanceAs (Decidable (_ ∈ _))

/-- The session is going on. -/
def Current (service generation : ℕ) : Prop :=
  generation = (world.services service).sessionGeneration ∧
    (world.services service).stopping = false

instance (service generation : ℕ) : Decidable (world.Current service generation) :=
  inferInstanceAs (Decidable (_ ∧ _))

/-- The message fails the start of the session that is going on. -/
def FailsStart (answer : Answer) : Message → Prop
  | .failStartForSession service generation => world.Current service generation
  | .continueStartAfterPreflight service generation _ =>
      world.Current service generation ∧ answer.established = false
  | _ => False

instance (answer : Answer) : (message : Message) → Decidable (world.FailsStart answer message)
  | .failStartForSession _ _ => inferInstanceAs (Decidable (World.Current _ _ _))
  | .continueStartAfterPreflight _ _ _ => inferInstanceAs (Decidable (_ ∧ _))
  | .confirm _ _ _ _ | .requestAutoHandoff _ _ | .reconcilePhysicalNetwork _ | .killProcess =>
      inferInstanceAs (Decidable False)

/-- The engine of the session that is going on ends, and no other proxy will be tried. -/
def EndsForGood (thread : Thread) : Prop :=
  world.Current thread.service thread.generation ∧
    (world.services thread.service).worker = some thread.thread ∧
    (world.services thread.service).activePrepared.any PreparedProxy.autoSelection = false

instance (thread : Thread) : Decidable (world.EndsForGood thread) :=
  inferInstanceAs (Decidable (_ ∧ _))

/-- No kill is pending unless the process will be restarted. -/
def Owing : Prop :=
  world.Dying → world.restartPending = true

end World

/-- A connect is not received by a process that is about to kill itself.  While a connect counts, the
system does not take the tunnel away, no engine ends for good, and no start but its own fails. -/
def Unspoiled (events : List Event) (world : World) : Action → Prop
  | .command .connect => ¬ world.Dying
  | .revoke => latest events = .superseded
  | .engineExit thread => world.EndsForGood thread → latest events = .superseded
  | .message message answer => world.FailsStart answer message → latest events ≠ .started
  | _ => True

instance (events : List Event) (world : World) : (action : Action) →
    Decidable (Unspoiled events world action)
  | .command .connect => inferInstanceAs (Decidable (¬ _))
  | .revoke => inferInstanceAs (Decidable (_ = _))
  | .engineExit _ | .message _ _ => inferInstanceAs (Decidable (_ → _))
  | .command .disconnect | .command .reconcile | .command .other | .restart | .destroy
  | .preflight _ _ | .engineReports _ | .monitorReports _ | .networkChanged _ | .ends _ | .die =>
      .isTrue trivial

/-- A step decides on no kill, or marks the restart. -/
def World.Careful (world world' : World) : Prop :=
  world'.restartPending = true ∨ world'.restartPending = world.restartPending ∧
    (world'.Dying → world.Dying)

section Steps

variable {world world' world'' : World} {service generation thread : ℕ}
  {prepared : PreparedProxy} {answer : Answer}

theorem World.Careful.owing (careful : world.Careful world') (owing : world.Owing) :
    world'.Owing := by
  rcases careful with marked | ⟨same, before⟩
  · exact fun _ => marked
  · intro pending
    rw [same]
    exact owing (before pending)

theorem World.Careful.trans (first : world.Careful world') (second : world'.Careful world'') :
    world.Careful world'' := by
  rcases second with marked | ⟨same, before⟩
  · exact .inl marked
  · rcases first with marked | ⟨same', before'⟩
    · exact .inl (same.trans marked)
    · exact .inr ⟨same.trans same', fun pending => before' (before pending)⟩

theorem World.Careful.refl : world.Careful world :=
  .inr ⟨rfl, id⟩

/-- Some messages are removed, or others are added. -/
theorem World.careful_of_pending (same : world'.restartPending = world.restartPending)
    (added : ∀ message ∈ world'.pending, message ∈ world.pending ∨ message ≠ .killProcess) :
    world.Careful world' :=
  .inr ⟨same, fun dying => (added _ dying).resolve_right fun other => other rfl⟩

theorem World.careful_post {message : Message} (other : message ≠ .killProcess) :
    world.Careful (world.post message) := by
  refine World.careful_of_pending rfl fun added member => ?_
  rcases List.mem_cons.mp (World.perm_post.mem_iff.mp member) with rfl | before
  · exact .inr other
  · exact .inl before

theorem World.careful_announce {message : Message} (other : message ≠ .killProcess) :
    world.Careful (world.announce message) := by
  refine World.careful_of_pending rfl fun added member => ?_
  rcases List.mem_cons.mp (World.perm_announce.mem_iff.mp member) with rfl | before
  · exact .inr other
  · exact .inl before

theorem World.careful_sifted (test : Message → Bool) :
    world.Careful { world with messages := world.messages.filter test } := by
  refine World.careful_of_pending rfl fun message member => .inl ?_
  exact (List.filter_sublist.append_right world.exits).mem member

theorem World.careful_stopAutoMonitor : world.Careful (world.stopAutoMonitor service) :=
  World.careful_sifted fun message => message ≠ .reconcilePhysicalNetwork service

theorem World.careful_registerNetworkCallback :
    world.Careful (world.registerNetworkCallback service answer) := by
  unfold World.registerNetworkCallback
  split_ifs
  · exact .refl
  · exact .refl

theorem World.careful_confirm :
    world.Careful (world.confirm service generation thread prepared answer) := by
  unfold World.confirm
  dsimp only
  split_ifs
  · have monitored := (@World.careful_stopAutoMonitor (world.modify service fun found =>
      { found with activePrepared := some prepared }) service).trans
        (@World.careful_registerNetworkCallback _ service answer)
    exact monitored
  · exact World.careful_registerNetworkCallback
  · exact .refl

theorem World.careful_startTunnel : world.Careful (world.startTunnel service) := by
  unfold World.startTunnel
  dsimp only
  split_ifs
  · exact .refl
  · exact .refl

theorem World.pending_startTunnel : (world.startTunnel service).pending = world.pending := by
  unfold World.startTunnel
  dsimp only
  split_ifs <;> rfl

theorem World.pending_receiver : world.receiver.2.pending = world.pending := by
  unfold World.receiver
  cases world.current <;> rfl

theorem World.pending_onRestart : (world.onRestart service).pending = world.pending := by
  unfold World.onRestart
  split_ifs
  · exact World.pending_startTunnel
  · rfl

/-- A handoff marks the restart. -/
theorem World.careful_handOff : world.Careful (world.handOff service) :=
  .inl rfl

theorem World.careful_requestAutoHandoff :
    world.Careful (world.requestAutoHandoff service generation) := by
  unfold World.requestAutoHandoff
  dsimp only
  split_ifs
  · exact .refl
  · exact World.careful_handOff

theorem World.careful_reconcilePhysicalNetwork {network : Option ℕ} :
    world.Careful (world.reconcilePhysicalNetwork service network) := by
  have noted (next : ℕ) : world.Careful (world.modify service fun found =>
      { found with underlyingNetwork := some next }) := .refl
  unfold World.reconcilePhysicalNetwork
  dsimp only
  split_ifs
  · exact .refl
  · cases network with
    | none => exact .refl
    | some next =>
        dsimp only
        cases (world.services service).underlyingNetwork with
        | none => exact noted next
        | some previous =>
            dsimp only
            split_ifs
            · exact .refl
            · refine (noted next).trans ?_
              unfold World.requestNetworkHandoff
              dsimp only
              split_ifs
              · exact .refl
              · exact World.careful_handOff
            · exact noted next

/-- A message that does not fail the start of a session. -/
theorem World.careful_run {message : Message}
    (unspoiled : ∀ event ∈ (world.run answer message).2, event.spoils = false) :
    world.Careful (world.run answer message).1 ∨ message = .killProcess := by
  cases message with
  | continueStartAfterPreflight service generation prepared =>
      refine .inl ?_
      simp only [World.run, World.continueStartAfterPreflight, World.failStartForSession]
        at unspoiled ⊢
      split_ifs at unspoiled ⊢
      · exact .refl
      · exact .refl
      · exact absurd (unspoiled _ rfl) (by simp [Event.spoils])
      · have posted : world.Careful (world.post
            (.confirm service generation (world.fresh + 1) prepared)) :=
          World.careful_post (by simp)
        exact posted
  | failStartForSession service generation =>
      refine .inl ?_
      simp only [World.run, World.failStartForSession] at unspoiled ⊢
      split_ifs at unspoiled ⊢
      · exact .refl
      · exact absurd (unspoiled _ rfl) (by simp [Event.spoils])
  | confirm service generation thread prepared => exact .inl World.careful_confirm
  | requestAutoHandoff service generation => exact .inl World.careful_requestAutoHandoff
  | reconcilePhysicalNetwork service => exact .inl World.careful_reconcilePhysicalNetwork
  | killProcess => exact .inr rfl

theorem World.careful_receiver : world.Careful world.receiver.2 := by
  unfold World.receiver
  cases world.current with
  | some service => exact .refl
  | none => exact .refl

theorem World.careful_onEngineExit {exit : Thread}
    (unspoiled : ∀ event ∈ (world.onEngineExit exit).2, event.spoils = false) :
    world.Careful (world.onEngineExit exit).1 := by
  unfold World.onEngineExit at unspoiled ⊢
  dsimp only at unspoiled ⊢
  split_ifs at unspoiled ⊢
  · exact .refl
  · have announced : (world.modify exit.service Service.closed).Careful _ :=
      @World.careful_announce _ (.requestAutoHandoff exit.service exit.generation) (by simp)
    exact announced
  · exact absurd (unspoiled _ rfl) (by simp [Event.spoils])
  · exact .refl

theorem World.not_dying_killed : ¬ world.killed.Dying := by
  simp [World.Dying, World.pending, World.killed]

/-- What does not take the last connect back keeps the process owing. -/
theorem World.Owing.react {action : Action} {event : Option Event} (owing : world.Owing)
    (reacted : world.react action = some (world', event))
    (unspoiled : ∀ seen ∈ event, seen.spoils = false) : world'.Owing := by
  cases action with
  | command command =>
      obtain ⟨rfl, rfl⟩ := Prod.mk.inj (Option.some.inj reacted)
      have kept := unspoiled _ rfl
      cases command with
      | reconcile =>
          refine World.Careful.owing (World.careful_receiver.trans ?_) owing
          simp only [World.onStartCommand, World.reconcileTunnelAfterForegroundResume]
          split_ifs
          · exact World.careful_startTunnel
          · exact .refl
      | other => exact World.careful_receiver.owing owing
      | _ => exact absurd kept (by simp [Event.spoils])
  | restart =>
      simp only [World.react] at reacted
      split_ifs at reacted with dead
      obtain ⟨rfl, -⟩ := Prod.mk.inj (Option.some.inj reacted)
      intro dying
      rw [World.Dying, World.pending_onRestart, World.pending_receiver, dead.2] at dying
      exact absurd dying (by simp)
  | revoke =>
      obtain ⟨service, -, same⟩ := Option.map_eq_some_iff.mp reacted
      obtain ⟨-, rfl⟩ := Prod.mk.inj same
      exact absurd (unspoiled _ rfl) (by simp [Event.spoils])
  | destroy =>
      obtain ⟨service, -, same⟩ := Option.map_eq_some_iff.mp reacted
      obtain ⟨rfl, -⟩ := Prod.mk.inj same
      exact (@World.careful_stopAutoMonitor world service).owing owing
  | preflight thread prepared =>
      simp only [World.react] at reacted
      split_ifs at reacted
      obtain ⟨rfl, -⟩ := Prod.mk.inj (Option.some.inj reacted)
      have posted : World.posted thread prepared ≠ .killProcess := by
        cases prepared <;> simp [World.posted]
      exact (@World.careful_post { world with preflights := _ } _ posted).owing owing
  | engineExit thread =>
      simp only [World.react] at reacted
      split_ifs at reacted
      have exited := @World.careful_onEngineExit
        { world with engines := world.engines.erase thread } thread
      rw [Option.some.inj reacted] at exited
      exact (exited unspoiled).owing owing
  | engineReports message =>
      simp only [World.react] at reacted
      split_ifs at reacted with announced
      obtain ⟨rfl, -⟩ := Prod.mk.inj (Option.some.inj reacted)
      exact fun dying => owing ((World.perm_report announced).mem_iff.mp dying)
  | monitorReports thread =>
      simp only [World.react] at reacted
      split_ifs at reacted
      obtain ⟨rfl, -⟩ := Prod.mk.inj (Option.some.inj reacted)
      exact (@World.careful_post { world with monitors := _ } _ (by simp)).owing owing
  | networkChanged service =>
      simp only [World.react] at reacted
      split_ifs at reacted
      obtain ⟨rfl, -⟩ := Prod.mk.inj (Option.some.inj reacted)
      exact ((World.careful_sifted _).trans (World.careful_post (by simp))).owing owing
  | message message answer =>
      simp only [World.react] at reacted
      split_ifs at reacted with posted
      have ran := @World.careful_run { world with messages := world.messages.erase message }
        answer message
      rw [Option.some.inj reacted] at ran
      rcases ran unspoiled with careful | rfl
      · refine careful.owing fun dying => owing ?_
        exact (List.erase_sublist.append_right world.exits).mem dying
      · obtain ⟨rfl, -⟩ := Prod.mk.inj (Option.some.inj reacted)
        exact fun dying => absurd dying World.not_dying_killed
  | ends thread =>
      simp only [World.react] at reacted
      split_ifs at reacted
      obtain ⟨rfl, -⟩ := Prod.mk.inj (Option.some.inj reacted)
      exact owing
  | die =>
      obtain ⟨rfl, -⟩ := Prod.mk.inj (Option.some.inj reacted)
      exact fun dying => absurd dying World.not_dying_killed

end Steps

section Runs

variable {world world' : World} {events : List Event} {action : Action} {event : Event}
  {answer : Answer} {message : Message} {exit : Thread} {pending : Bool}

theorem latest_append : latest (events ++ [event]) = (latest events).observe event := by
  simp [latest]

theorem World.run_startFailed (ran : (world.run answer message).2 = some .startFailed) :
    world.FailsStart answer message := by
  cases message with
  | continueStartAfterPreflight service generation prepared =>
      simp only [World.run, World.continueStartAfterPreflight] at ran
      split_ifs at ran with stale failed
      · rw [not_or, not_not, Bool.not_eq_true] at stale
        exact ⟨stale, failed⟩
      · simp at ran
  | failStartForSession service generation =>
      simp only [World.run, World.failStartForSession] at ran
      split_ifs at ran with stale
      rwa [not_or, not_not, Bool.not_eq_true] at stale
  | _ => simp [World.run] at ran

theorem World.run_spoils (ran : (world.run answer message).2 = some event)
    (spoils : event.spoils = true) : event = .startFailed := by
  cases message with
  | continueStartAfterPreflight service generation prepared =>
      simp only [World.run, World.continueStartAfterPreflight, World.failStartForSession] at ran
      split_ifs at ran <;> obtain rfl := Option.some.inj ran
      · rfl
      · simp [Event.spoils] at spoils
  | failStartForSession service generation =>
      simp only [World.run, World.failStartForSession] at ran
      split_ifs at ran
      exact (Option.some.inj ran).symm
  | killProcess =>
      obtain rfl := Option.some.inj ran
      simp [Event.spoils] at spoils
  | _ => simp [World.run] at ran

theorem World.onEngineExit_observed (exited : (world.onEngineExit exit).2 = some event) :
    event = .exited ∧ world.EndsForGood exit := by
  simp only [World.onEngineExit] at exited
  split_ifs at exited with here stopping auto
  refine ⟨(Option.some.inj exited).symm, ⟨here.1, ?_⟩, here.2, ?_⟩
  · exact Bool.not_eq_true _ ▸ stopping
  · exact Bool.not_eq_true _ ▸ auto

/-- The actions that may take the last connect back. -/
theorem World.react_spoils (reacted : world.react action = some (world', some event))
    (spoils : event.spoils = true) :
    (∃ command dying, action = .command command ∧ event = .commanded command dying) ∨
      (action = .revoke ∧ event = .revoked) ∨
      (∃ thread, action = .engineExit thread ∧ event = .exited ∧ world.EndsForGood thread) ∨
      ∃ message answer, action = .message message answer ∧ event = .startFailed ∧
        world.FailsStart answer message := by
  cases action with
  | command command =>
      obtain ⟨-, same⟩ := Prod.mk.inj (Option.some.inj reacted)
      exact .inl ⟨command, _, rfl, (Option.some.inj same).symm⟩
  | revoke =>
      obtain ⟨service, -, same⟩ := Option.map_eq_some_iff.mp reacted
      exact .inr (.inl ⟨rfl, (Option.some.inj (Prod.mk.inj same).2).symm⟩)
  | destroy =>
      obtain ⟨service, -, same⟩ := Option.map_eq_some_iff.mp reacted
      exact absurd (Prod.mk.inj same).2 (by simp)
  | engineExit thread =>
      simp only [World.react] at reacted
      split_ifs at reacted
      obtain ⟨rfl, ends⟩ :=
        World.onEngineExit_observed (congrArg Prod.snd (Option.some.inj reacted))
      exact .inr (.inr (.inl ⟨thread, rfl, rfl, ends⟩))
  | message message answer =>
      simp only [World.react] at reacted
      split_ifs at reacted
      have ran := congrArg Prod.snd (Option.some.inj reacted)
      obtain rfl := World.run_spoils ran spoils
      have fails := World.run_startFailed ran
      refine .inr (.inr (.inr ⟨message, answer, rfl, rfl, ?_⟩))
      cases message <;> exact fails
  | die => exact absurd (Prod.mk.inj (Option.some.inj reacted)).2 (by simp)
  | _ =>
      simp only [World.react] at reacted
      split_ifs at reacted
      exact absurd (Prod.mk.inj (Option.some.inj reacted)).2 (by simp)

/-- No kill is pending after a connect that was received when none was. -/
theorem World.Owing.connect (undying : ¬ world.Dying) :
    (world.receiver.2.onStartCommand world.receiver.1 .connect).Owing := by
  intro dying
  have same : (world.receiver.2.onStartCommand world.receiver.1 .connect).pending =
      world.receiver.2.pending := World.pending_startTunnel
  rw [World.Dying, same, World.pending_receiver] at dying
  exact absurd dying undying

theorem Latest.observe_superseded (quiet : event.spoils = false) :
    Latest.superseded.observe event = .superseded := by
  cases event with
  | commanded command dying => cases command <;> simp_all [Latest.observe, Event.spoils]
  | _ => rfl

def Marked (events : List Event) (world : World) : Prop :=
  latest events ≠ .superseded → world.Owing

theorem Marked.observe (marked : Marked events world) (permitted : Unspoiled events world action)
    (reacted : world.react action = some (world', some event)) :
    Marked (events ++ [event]) world' := by
  intro standing
  rw [latest_append] at standing
  by_cases spoils : event.spoils = true
  · rcases World.react_spoils reacted spoils with
      ⟨command, dying, rfl, rfl⟩ | ⟨rfl, rfl⟩ | ⟨thread, rfl, rfl, ends⟩ |
        ⟨message, answer, rfl, rfl, fails⟩
    · obtain ⟨rfl, -⟩ := Prod.mk.inj (Option.some.inj reacted)
      cases command with
      | connect => exact World.Owing.connect permitted
      | disconnect => exact absurd rfl standing
      | _ => simp [Event.spoils] at spoils
    · rw [show latest events = .superseded from permitted] at standing
      exact absurd rfl standing
    · rw [permitted ends] at standing
      exact absurd rfl standing
    · have unstarted := permitted fails
      -- A start that fails before any engine was started is the connect's own.
      rcases found : latest events with _ | _ | _
      · simp [found, Latest.observe] at standing
      · simp [found, Latest.observe] at standing
      · exact absurd found unstarted
  · rw [Bool.not_eq_true] at spoils
    have before : latest events ≠ .superseded := by
      intro superseded
      rw [superseded] at standing
      exact absurd (Latest.observe_superseded spoils) standing
    refine (marked before).react reacted ?_
    rintro seen ⟨rfl⟩
    exact spoils

theorem marked_of_reaches (reaches : vpnService.Reaches Unspoiled events world) :
    Marked events world := by
  refine reaches.invariant ?_ ?_
  · intro state _ standing
    exact absurd rfl standing
  · intro events state action state' marked permitted next
    obtain ⟨event, reacted, observed⟩ := exists_react next
    rw [observed]
    cases event with
    | none =>
        intro standing
        rw [Option.toList_none, List.append_nil] at standing
        exact (marked standing).react reacted (by simp)
    | some event => exact marked.observe permitted reacted

theorem World.run_killed (ran : (world.run answer message).2 = some (.killed pending)) :
    message = .killProcess ∧ pending = world.restartPending ∧
      (world.run answer message).1 = world.killed := by
  cases message with
  | continueStartAfterPreflight service generation prepared =>
      simp only [World.run, World.continueStartAfterPreflight, World.failStartForSession] at ran
      split_ifs at ran <;> simp at ran
  | failStartForSession service generation =>
      simp only [World.run, World.failStartForSession] at ran
      split_ifs at ran
      simp at ran
  | killProcess => exact ⟨rfl, (Event.killed.inj (Option.some.inj ran)).symm, rfl⟩
  | _ => simp [World.run] at ran

/-- The process kills itself only if it had decided to, and its flag is what is left. -/
theorem World.react_killed (reacted : world.react action = some (world', some (.killed pending))) :
    world.Dying ∧ pending = world.restartPending ∧ world' = world.killed := by
  cases action with
  | message message answer =>
      simp only [World.react] at reacted
      split_ifs at reacted with posted
      have ran := Option.some.inj reacted
      obtain ⟨rfl, same, left⟩ := World.run_killed (congrArg Prod.snd ran)
      exact ⟨List.mem_append_left _ posted, same, (congrArg Prod.fst ran).symm.trans left⟩
  | engineExit thread =>
      simp only [World.react] at reacted
      split_ifs at reacted
      exact absurd (World.onEngineExit_observed (congrArg Prod.snd (Option.some.inj reacted))).1
        (by simp)
  | revoke =>
      obtain ⟨service, -, same⟩ := Option.map_eq_some_iff.mp reacted
      exact absurd (Prod.mk.inj same).2 (by simp)
  | destroy =>
      obtain ⟨service, -, same⟩ := Option.map_eq_some_iff.mp reacted
      exact absurd (Prod.mk.inj same).2 (by simp)
  | command command | die => exact absurd (Prod.mk.inj (Option.some.inj reacted)).2 (by simp)
  | _ =>
      simp only [World.react] at reacted
      split_ifs at reacted
      exact absurd (Prod.mk.inj (Option.some.inj reacted)).2 (by simp)

/-- A process that was killed with the flag set starts the tunnel again. -/
theorem World.restarts (marked : world.restartPending = true) :
    ∃ restarted thread, world.killed.react .restart = some (restarted, none) ∧
      thread ∈ restarted.preflights := by
  obtain ⟨pending, services, created, current, messages, exits, preflights, engines, monitors,
    alive, fresh⟩ := world
  obtain rfl : pending = true := marked
  exact ⟨_, ⟨0, 1, fresh⟩, rfl, List.mem_cons_self⟩

/-- Whenever the process kills itself and the last command of the user was a connect whose start has
not failed, the flag is set, and the restarted process starts the tunnel. -/
theorem kill_after_connect (reaches : vpnService.Reaches Unspoiled events world)
    (standing : latest events ≠ .superseded)
    (killed : world.react action = some (world', some (.killed pending))) :
    pending = true ∧ ∃ restarted thread, world'.react .restart = some (restarted, none) ∧
      thread ∈ restarted.preflights := by
  obtain ⟨dying, rfl, rfl⟩ := World.react_killed killed
  have marked := marked_of_reaches reaches standing dying
  exact ⟨marked, World.restarts marked⟩

end Runs

/-- The network changes twice during a connection. -/
def handover : List Action :=
  connection ++
    [.networkChanged 0, .message (.reconcilePhysicalNetwork 0) { network := some 7 },
      .networkChanged 0, .message (.reconcilePhysicalNetwork 0) { network := some 8 }]

/-- A connect that is received between a handoff and its kill clears the flag. -/
theorem connect_before_kill_lost :
    ¬ ∀ (events : List Event) (world : World) (action : Action) (world' : World) (pending : Bool),
      vpnService.Reaches Machine.Always events world → latest events ≠ .superseded →
      world.react action = some (world', some (.killed pending)) → pending = true := by
  intro claimed
  obtain ⟨world, reaches⟩ := @exists_reaches Machine.Always _
    (handover ++ [.command .connect, .message .killProcess {}])
    [.commanded .connect false, .engineStarted, .commanded .connect true, .killed false] (by decide)
  have split : [Event.commanded .connect false, .engineStarted, .commanded .connect true,
      .killed false] = [.commanded .connect false, .engineStarted, .commanded .connect true] ++
        .killed false :: [] := rfl
  obtain ⟨state, action, state', reached, -, next, observed⟩ := reaches.at_event split
  obtain ⟨event, reacted, same⟩ := exists_react next
  obtain rfl := same.symm.trans observed
  exact absurd (claimed _ _ _ _ _ reached (by decide) reacted) (by decide)

/-- The kill of a handoff, after which the tunnel is started again. -/
theorem kill_after_connect_sample :
    ∃ world action world',
      vpnService.Reaches Unspoiled [.commanded .connect false, .engineStarted] world ∧
        world.react action = some (world', some (.killed true)) ∧
        ∃ restarted thread, world'.react .restart = some (restarted, none) ∧
          thread ∈ restarted.preflights := by
  obtain ⟨world, reaches⟩ := @exists_reaches Unspoiled _ (handover ++ [.message .killProcess {}])
    [.commanded .connect false, .engineStarted, .killed true] (by decide)
  have split : [Event.commanded .connect false, .engineStarted, .killed true] =
      [.commanded .connect false, .engineStarted] ++ .killed true :: [] := rfl
  obtain ⟨state, action, state', reached, -, next, observed⟩ := reaches.at_event split
  obtain ⟨event, reacted, same⟩ := exists_react next
  obtain rfl := same.symm.trans observed
  exact ⟨state, action, state', reached, reacted,
    (kill_after_connect reached (by decide) reacted).2⟩

end ProxyLauncher.Android.Tunnel
