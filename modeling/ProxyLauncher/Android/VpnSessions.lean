import ProxyLauncher.Android.VpnService

/-!
# The sessions of the tunnel

A session that is over has no tunnel and no engine, and what its callbacks captured is out of
date.  A disconnect ends every session, so nothing but a new command starts one.
-/

namespace ProxyLauncher.Android.Tunnel

open Transition

/-- No session of the service is going on. -/
def Service.Over (service : Service) : Prop :=
  service.stopping = true ∨ service.sessionGeneration = 0

/-- The session of a message. -/
def Message.session : Message → Option (ℕ × ℕ)
  | .continueStartAfterPreflight service generation _ | .failStartForSession service generation
  | .confirm service generation _ _ | .requestAutoHandoff service generation =>
      some (service, generation)
  | .reconcilePhysicalNetwork _ | .killProcess => none

/-- The message goes on with the start of a session. -/
def Message.continues (service generation : ℕ) : Message → Bool
  | .continueStartAfterPreflight service' generation' _ =>
      decide (service' = service) && decide (generation' = generation)
  | _ => false

def Thread.of (service generation : ℕ) (thread : Thread) : Bool :=
  decide (thread.service = service) && decide (thread.generation = generation)

namespace World

/-- The probes and messages that may still go on with the start of a session. -/
def startsOf (world : World) (service generation : ℕ) : ℕ :=
  world.preflights.countP (Thread.of service generation) +
    world.pending.countP (Message.continues service generation)

/-- A generation that the service has had. -/
def Captured (world : World) (service generation : ℕ) : Prop :=
  1 ≤ generation ∧ generation ≤ (world.services service).sessionGeneration

end World

/-- What holds of a service, with the number of starts that are still going on. -/
structure Service.Sound (service : Service) (starts : ℕ) : Prop where
  ended : service.Over → service.tunFd = none ∧ service.worker = none
  interfaces : service.interfaces = service.tunFd.toList
  single : starts ≤ 1
  vacant : starts = 1 → service.tunFd = none

structure World.Valid (world : World) : Prop where
  sound : ∀ service, (world.services service).Sound
    (world.startsOf service (world.services service).sessionGeneration)
  retired : ∀ service, world.current ≠ some service → (world.services service).Over
  bound : ∀ service, world.current = some service → service < world.created
  unborn : ∀ service, world.created ≤ service → (world.services service).sessionGeneration = 0
  threads : ∀ thread ∈ world.preflights ++ world.engines ++ world.monitors,
    world.Captured thread.service thread.generation
  messages : ∀ message ∈ world.pending, ∀ session ∈ message.session,
    world.Captured session.1 session.2

section Changes

variable {world world' : World} {service generation starts starts' : ℕ} {found : Service}
  {change : Service → Service} {message : Message}

theorem Service.Sound.fewer (sound : found.Sound starts) (fewer : starts' ≤ starts) :
    found.Sound starts' where
  ended := sound.ended
  interfaces := sound.interfaces
  single := fewer.trans sound.single
  vacant some := sound.vacant (le_antisymm sound.single (some ▸ fewer))

/-- A change of one service keeps the others valid. -/
theorem World.Valid.changeOne (valid : world.Valid) (service : ℕ)
    (others : ∀ other ≠ service, world'.services other = world.services other)
    (current : world'.current = world.current) (created : world'.created = world.created)
    (grows : (world.services service).sessionGeneration ≤
      (world'.services service).sessionGeneration)
    (born : service < world.created ∨
      (world'.services service).sessionGeneration = (world.services service).sessionGeneration)
    (sound : (world'.services service).Sound
      (world'.startsOf service (world'.services service).sessionGeneration))
    (starts : ∀ other ≠ service, ∀ generation,
      world'.startsOf other generation ≤ world.startsOf other generation)
    (retired : world.current ≠ some service → (world'.services service).Over)
    (threads : ∀ thread ∈ world'.preflights ++ world'.engines ++ world'.monitors,
      thread ∈ world.preflights ++ world.engines ++ world.monitors ∨
        world'.Captured thread.service thread.generation)
    (messages : ∀ message ∈ world'.pending, message ∈ world.pending ∨
      ∀ session ∈ message.session, world'.Captured session.1 session.2) : world'.Valid := by
  have captured {other generation : ℕ} (before : world.Captured other generation) :
      world'.Captured other generation := by
    refine ⟨before.1, before.2.trans ?_⟩
    by_cases same : other = service
    · rw [same]
      exact grows
    · rw [others other same]
  refine ⟨fun other => ?_, fun other away => ?_, fun other here => ?_, fun other unborn => ?_,
    fun thread member => ?_, fun message member session of => ?_⟩
  · by_cases same : other = service
    · rw [same]
      exact sound
    · rw [others other same]
      exact (valid.sound other).fewer (starts other same _)
  · rw [current] at away
    by_cases same : other = service
    · rw [same] at away ⊢
      exact retired away
    · rw [others other same]
      exact valid.retired other away
  · rw [created]
    exact valid.bound other (current ▸ here)
  · rw [created] at unborn
    by_cases same : other = service
    · rw [same] at unborn ⊢
      rcases born with born | equal
      · exact absurd born (not_lt.mpr unborn)
      · rw [equal]
        exact valid.unborn service unborn
    · rw [others other same]
      exact valid.unborn other unborn
  · rcases threads thread member with before | now
    · exact captured (valid.threads thread before)
    · exact now
  · rcases messages message member with before | now
    · exact captured (valid.messages message before session of)
    · exact now session of

@[simp] theorem World.modify_same : (world.modify service change).services service =
    change (world.services service) := by
  simp [World.modify]

@[simp] theorem World.modify_other {other : ℕ} (different : other ≠ service) :
    (world.modify service change).services other = world.services other := by
  simp [World.modify, different]

/-- No start of a session that is still to come is going on. -/
theorem World.Valid.startsOf_eq_zero (valid : world.Valid)
    (newer : (world.services service).sessionGeneration < generation) :
    world.startsOf service generation = 0 := by
  have threads : world.preflights.countP (Thread.of service generation) = 0 := by
    refine List.countP_eq_zero.mpr fun thread member => ?_
    intro here
    simp only [Thread.of, Bool.and_eq_true, decide_eq_true_eq] at here
    have captured := valid.threads thread (by simp [member])
    rw [here.1, here.2] at captured
    exact absurd captured.2 (not_le.mpr newer)
  have messages : world.pending.countP (Message.continues service generation) = 0 := by
    refine List.countP_eq_zero.mpr fun message member => ?_
    intro here
    cases message with
    | continueStartAfterPreflight service' generation' prepared =>
        simp only [Message.continues, Bool.and_eq_true, decide_eq_true_eq] at here
        have captured := valid.messages _ member (service', generation') rfl
        rw [here.1, here.2] at captured
        exact absurd captured.2 (not_le.mpr newer)
    | _ => simp [Message.continues] at here
  rw [World.startsOf, threads, messages]

/-- Fewer messages and threads. -/
theorem World.Valid.fewer (valid : world.Valid) (services : world'.services = world.services)
    (current : world'.current = world.current) (created : world'.created = world.created)
    (starts : ∀ service generation,
      world'.startsOf service generation ≤ world.startsOf service generation)
    (threads : ∀ thread ∈ world'.preflights ++ world'.engines ++ world'.monitors,
      thread ∈ world.preflights ++ world.engines ++ world.monitors)
    (messages : ∀ message ∈ world'.pending, message ∈ world.pending) : world'.Valid where
  sound service := by
    rw [services]
    exact (valid.sound service).fewer (starts _ _)
  retired service away := by
    rw [services]
    exact valid.retired service (current ▸ away)
  bound service here := by
    rw [created]
    exact valid.bound service (current ▸ here)
  unborn service unborn := by
    rw [services]
    exact valid.unborn service (created ▸ unborn)
  threads thread member := by
    rw [World.Captured, services]
    exact valid.threads thread (threads thread member)
  messages message member session of := by
    rw [World.Captured, services]
    exact valid.messages message (messages message member) session of

/-- A change that leaves the tunnel, the engine and the generation alone. -/
theorem World.Valid.modify (valid : world.Valid)
    (generation : (change (world.services service)).sessionGeneration =
      (world.services service).sessionGeneration)
    (stopping : (change (world.services service)).stopping = (world.services service).stopping)
    (tunFd : (change (world.services service)).tunFd = (world.services service).tunFd)
    (worker : (change (world.services service)).worker = (world.services service).worker)
    (interfaces : (change (world.services service)).interfaces =
      (world.services service).interfaces) : (world.modify service change).Valid := by
  have same : (change (world.services service)).Over ↔ (world.services service).Over := by
    rw [Service.Over, Service.Over, generation, stopping]
  refine valid.changeOne service (fun other => World.modify_other) rfl rfl (by simp [generation])
    (.inr (by simp [generation])) ?_ (fun _ _ _ => le_rfl) ?_ (fun _ member => .inl member)
    fun _ member => .inl member
  · have sound := valid.sound service
    rw [World.modify_same, generation]
    exact ⟨fun gone => by rw [tunFd, worker]; exact sound.ended (same.mp gone),
      by rw [interfaces, tunFd]; exact sound.interfaces, sound.single,
      by rw [tunFd]; exact sound.vacant⟩
  · intro away
    rw [World.modify_same]
    exact same.mpr (valid.retired service away)

/-- One more message that does not go on with a start is posted or will be. -/
theorem World.Valid.expecting (valid : world.Valid) {messages exits : List Message}
    (added : List.Perm (messages ++ exits) (message :: world.pending))
    (continues : ∀ service generation, message.continues service generation = false)
    (captured : ∀ session ∈ message.session, world.Captured session.1 session.2) :
    { world with messages := messages, exits := exits }.Valid where
  sound service := by
    have starts : World.startsOf { world with messages := messages, exits := exits } service
        (world.services service).sessionGeneration =
        world.startsOf service (world.services service).sessionGeneration := by
      unfold World.startsOf
      apply congrArg
      exact (added.countP_eq _).trans (List.countP_cons_of_neg (by simp [continues]))
    exact starts ▸ valid.sound service
  retired := valid.retired
  bound := valid.bound
  unborn := valid.unborn
  threads := valid.threads
  messages other member := by
    rcases List.mem_cons.mp (added.mem_iff.mp member) with rfl | before
    · exact captured
    · exact valid.messages other before

theorem World.perm_post : List.Perm (world.post message).pending (message :: world.pending) := by
  unfold World.pending World.post
  rw [List.append_assoc]
  exact List.perm_middle

theorem World.Valid.post (valid : world.Valid)
    (continues : ∀ service generation, message.continues service generation = false)
    (captured : ∀ session ∈ message.session, world.Captured session.1 session.2) :
    (world.post message).Valid :=
  valid.expecting World.perm_post continues captured

theorem World.perm_announce :
    List.Perm (world.announce message).pending (message :: world.pending) := by
  unfold World.pending World.announce
  rw [← List.append_assoc]
  exact List.perm_append_comm

theorem World.Valid.announce (valid : world.Valid)
    (continues : ∀ service generation, message.continues service generation = false)
    (captured : ∀ session ∈ message.session, world.Captured session.1 session.2) :
    (world.announce message).Valid :=
  valid.expecting World.perm_announce continues captured

theorem World.Valid.kill (valid : world.Valid) : world.terminateVpnProcess.Valid :=
  valid.post (fun _ _ => rfl) (by simp [Message.session])

/-- A session ends, and its tunnel is closed. -/
theorem World.Valid.ending (valid : world.Valid) (born : service < world.created)
    (generation : (change (world.services service)).sessionGeneration =
      (world.services service).sessionGeneration + 1)
    (stopping : (change (world.services service)).stopping = true)
    (tunFd : (change (world.services service)).tunFd = none)
    (worker : (change (world.services service)).worker = none)
    (interfaces : (change (world.services service)).interfaces = []) :
    (world.modify service change).Valid := by
  have starts : (world.modify service change).startsOf service
      ((world.modify service change).services service).sessionGeneration = 0 := by
    rw [World.modify_same, generation]
    exact valid.startsOf_eq_zero (Nat.lt_succ_self _)
  refine valid.changeOne service (fun other => World.modify_other) rfl rfl (by simp [generation])
    (.inl born) ?_ (fun _ _ _ => le_rfl) ?_ (fun _ member => .inl member)
    fun _ member => .inl member
  · rw [starts, World.modify_same]
    exact ⟨fun _ => ⟨tunFd, worker⟩, by rw [interfaces, tunFd]; rfl, Nat.zero_le 1, by simp⟩
  · intro _
    rw [World.modify_same]
    exact .inl stopping

theorem closed_interfaces (interfaces : found.interfaces = found.tunFd.toList) :
    found.closed.interfaces = [] := by
  rw [Service.closed, interfaces]
  cases found.tunFd <;> simp

/-- The tunnel of a session is closed. -/
theorem World.Valid.closing (valid : world.Valid) :
    (world.modify service Service.closed).Valid := by
  have sound := valid.sound service
  have interfaces := closed_interfaces sound.interfaces
  refine valid.changeOne service (fun other => World.modify_other) rfl rfl ?_ (.inr ?_) ?_
    (fun _ _ _ => le_rfl) ?_ (fun _ member => .inl member) fun _ member => .inl member
  · rw [World.modify_same]
    rfl
  · rw [World.modify_same]
    rfl
  · rw [World.modify_same]
    exact ⟨fun _ => ⟨rfl, rfl⟩, interfaces, sound.single, fun _ => rfl⟩
  · rw [World.modify_same]
    exact valid.retired service

end Changes

/-! ## Operations -/

section Operations

variable {world : World} {service generation thread : ℕ} {prepared : PreparedProxy}
  {answer : Answer}

theorem World.Valid.flagged (valid : world.Valid) (pending : Bool) :
    { world with restartPending := pending }.Valid :=
  valid.fewer rfl rfl rfl (fun _ _ => le_rfl) (fun _ member => member) fun _ member => member

theorem World.Valid.rearranged (valid : world.Valid) {messages exits : List Message}
    (moved : List.Perm (messages ++ exits) world.pending) :
    { world with messages := messages, exits := exits }.Valid := by
  refine valid.fewer rfl rfl rfl (fun service generation => ?_) (fun _ member => member) ?_
  · exact Nat.add_le_add_left (moved.countP_eq _).le _
  · intro message member
    exact moved.mem_iff.mp member

/-- The thread of an engine posts its message. -/
theorem World.perm_report {message : Message} (announced : message ∈ world.exits) :
    List.Perm (world.messages ++ [message] ++ world.exits.erase message) world.pending := by
  unfold World.pending
  rw [List.append_assoc]
  exact (List.perm_cons_erase announced).symm.append_left _

/-- Some of the messages are removed. -/
theorem World.Valid.without (valid : world.Valid) {messages : List Message}
    (kept : messages.Sublist world.messages) (pending : Bool) :
    { world with messages := messages, restartPending := pending }.Valid := by
  have sublist : (messages ++ world.exits).Sublist world.pending := kept.append_right _
  refine valid.fewer rfl rfl rfl (fun service generation => ?_) (fun _ member => member) ?_
  · exact Nat.add_le_add_left sublist.countP_le _
  · intro message member
    exact sublist.mem member

theorem World.Valid.sifted (valid : world.Valid) (test : Message → Bool) (pending : Bool) :
    { world with messages := world.messages.filter test, restartPending := pending }.Valid :=
  valid.without List.filter_sublist pending

theorem World.Valid.stopAutoMonitor (valid : world.Valid) :
    (world.stopAutoMonitor service).Valid := by
  have modified : (world.modify service Service.withoutMonitor).Valid :=
    valid.modify rfl rfl rfl rfl rfl
  exact modified.sifted _ world.restartPending

theorem World.Valid.registerNetworkCallback (valid : world.Valid) :
    (world.registerNetworkCallback service answer).Valid := by
  unfold World.registerNetworkCallback
  split_ifs
  · exact valid
  · exact valid.modify rfl rfl rfl rfl rfl

/-- The sessions of the services are the same. -/
def World.Alike (world world' : World) : Prop :=
  ∀ service, (world'.services service).sessionGeneration =
      (world.services service).sessionGeneration ∧
    (world'.services service).stopping = (world.services service).stopping

theorem World.alike_modify {change : Service → Service}
    (generation : (change (world.services service)).sessionGeneration =
      (world.services service).sessionGeneration)
    (stopping : (change (world.services service)).stopping =
      (world.services service).stopping) : world.Alike (world.modify service change) := by
  intro other
  by_cases same : other = service
  · rw [same, World.modify_same]
    exact ⟨generation, stopping⟩
  · rw [World.modify_other same]
    exact ⟨rfl, rfl⟩

theorem World.Alike.trans {world' world'' : World} (first : world.Alike world')
    (second : world'.Alike world'') : world.Alike world'' := fun service =>
  ⟨(second service).1.trans (first service).1, (second service).2.trans (first service).2⟩

theorem World.Alike.captured {world' : World} (alike : world.Alike world')
    (captured : world.Captured service generation) : world'.Captured service generation := by
  rw [World.Captured, (alike service).1]
  exact captured

theorem World.Alike.over_iff {world' : World} (alike : world.Alike world') :
    (world'.services service).Over ↔ (world.services service).Over := by
  rw [Service.Over, Service.Over, (alike service).1, (alike service).2]

theorem World.alike_stopAutoMonitor : world.Alike (world.stopAutoMonitor service) :=
  World.alike_modify rfl rfl

theorem World.alike_registerNetworkCallback :
    world.Alike (world.registerNetworkCallback service answer) := by
  unfold World.registerNetworkCallback
  split_ifs
  · exact fun _ => ⟨rfl, rfl⟩
  · exact World.alike_modify rfl rfl

theorem World.alike_startAutoMonitor :
    world.Alike (world.startAutoMonitor service generation answer) := by
  have alike : world.Alike (((world.stopAutoMonitor service).registerNetworkCallback service
      answer).modify service fun found => { found with monitorWorker := some world.fresh }) :=
    World.alike_stopAutoMonitor.trans
      (World.alike_registerNetworkCallback.trans (World.alike_modify rfl rfl))
  exact alike

theorem World.alike_confirm :
    world.Alike (world.confirm service generation thread prepared answer) := by
  unfold World.confirm
  dsimp only
  split_ifs
  · exact (World.alike_modify rfl rfl).trans World.alike_startAutoMonitor
  · exact (World.alike_modify rfl rfl).trans World.alike_registerNetworkCallback
  · exact fun _ => ⟨rfl, rfl⟩

theorem World.Valid.watch (valid : world.Valid) {threads : List Thread} {fresh : ℕ}
    (captured : ∀ thread ∈ threads, thread ∈ world.monitors ∨
      world.Captured thread.service thread.generation) :
    { world with monitors := threads, fresh := fresh }.Valid where
  sound := valid.sound
  retired := valid.retired
  bound := valid.bound
  unborn := valid.unborn
  threads thread member := by
    rcases List.mem_append.mp member with before | here
    · exact valid.threads thread (List.mem_append_left _ before)
    · rcases captured thread here with before | now
      · exact valid.threads thread (List.mem_append_right _ before)
      · exact now
  messages := valid.messages

theorem World.Valid.startAutoMonitor (valid : world.Valid)
    (captured : world.Captured service generation) :
    (world.startAutoMonitor service generation answer).Valid := by
  have ready : ((world.stopAutoMonitor service).registerNetworkCallback service answer).Valid :=
    valid.stopAutoMonitor.registerNetworkCallback
  have monitors : ((world.stopAutoMonitor service).registerNetworkCallback service
      answer).monitors = world.monitors := by
    unfold World.registerNetworkCallback
    split_ifs <;> rfl
  have alike : world.Alike (world.startAutoMonitor service generation answer) :=
    World.alike_startAutoMonitor
  refine (ready.modify rfl rfl rfl rfl rfl).watch fun thread member => ?_
  rcases List.mem_cons.mp member with rfl | before
  · exact .inr (alike.captured captured)
  · exact .inl (monitors ▸ before)

theorem World.Valid.confirm (valid : world.Valid)
    (captured : world.Captured service generation) :
    (world.confirm service generation thread prepared answer).Valid := by
  have ready : (world.modify service fun found =>
      { found with activePrepared := some prepared }).Valid := valid.modify rfl rfl rfl rfl rfl
  unfold World.confirm
  dsimp only
  split_ifs
  · exact ready.startAutoMonitor ((World.alike_modify rfl rfl).captured captured)
  · exact ready.registerNetworkCallback
  · exact valid

theorem World.Valid.failStartForSession (valid : world.Valid) :
    (world.failStartForSession service generation).1.Valid := by
  unfold World.failStartForSession
  dsimp only
  split_ifs
  · exact valid
  · exact ((valid.modify rfl rfl rfl rfl rfl).flagged false).kill

/-- A service with a session was created. -/
theorem World.Valid.born (valid : world.Valid) (captured : world.Captured service generation) :
    service < world.created := by
  by_contra unborn
  have none := valid.unborn service (not_lt.mp unborn)
  have some := captured.1.trans captured.2
  omega

/-- A tunnel is opened for a session that has none. -/
theorem World.Valid.opening {tun : ℕ} (valid : world.Valid)
    (going : ¬ (world.services service).Over)
    (starts : world.startsOf service (world.services service).sessionGeneration = 0)
    (vacant : (world.services service).tunFd = none) :
    (world.modify service fun found =>
      { found with
        tunFd := some tun
        worker := some thread
        interfaces := tun :: found.interfaces }).Valid := by
  have interfaces := (valid.sound service).interfaces
  rw [vacant] at interfaces
  refine valid.changeOne service (fun other => World.modify_other) rfl rfl ?_ (.inr ?_) ?_
    (fun _ _ _ => le_rfl) ?_ (fun _ member => .inl member) fun _ member => .inl member
  · exact le_of_eq (by rw [World.modify_same])
  · rw [World.modify_same]
  · rw [World.modify_same]
    refine ⟨fun gone => absurd gone going, by simp [interfaces], ?_, ?_⟩
    · exact starts.le.trans (Nat.zero_le 1)
    · intro one
      exact absurd (starts.symm.trans one) (by decide)
  · intro away
    exact absurd (valid.retired service away) going

theorem World.Valid.fork {threads : List Thread} {alive : List ℕ} {fresh : ℕ}
    (valid : world.Valid) (captured : ∀ thread ∈ threads, thread ∈ world.engines ∨
      world.Captured thread.service thread.generation) :
    { world with engines := threads, alive := alive, fresh := fresh }.Valid where
  sound := valid.sound
  retired := valid.retired
  bound := valid.bound
  unborn := valid.unborn
  threads thread member := by
    simp only [List.mem_append] at member
    rcases member with (preflight | engine) | monitor
    · exact valid.threads thread (by simp [preflight])
    · rcases captured thread engine with before | now
      · exact valid.threads thread (by simp [before])
      · exact now
    · exact valid.threads thread (by simp [monitor])
  messages := valid.messages

/-- The start of a session goes on when nothing else of it does, and there is no tunnel yet. -/
theorem World.Valid.continueStartAfterPreflight {established : Bool} (valid : world.Valid)
    (captured : world.Captured service generation)
    (last : generation = (world.services service).sessionGeneration →
      world.startsOf service generation = 0 ∧ (world.services service).tunFd = none) :
    (world.continueStartAfterPreflight service generation prepared established).1.Valid := by
  have ready : (world.modify service fun found =>
      { found with preflightWorker := none }).Valid := valid.modify rfl rfl rfl rfl rfl
  unfold World.continueStartAfterPreflight
  dsimp only
  split_ifs with stale failed
  · exact valid
  · exact ready.failStartForSession
  · rw [not_or, not_not] at stale
    obtain ⟨starts, vacant⟩ := last stale.1
    have going : ¬ (world.services service).Over := by
      rintro (stopping | zero)
      · exact stale.2 stopping
      · have some := captured.1.trans captured.2
        omega
    have opened := @World.Valid.opening _ service (world.fresh + 1) world.fresh ready
      (by rwa [World.modify_same]) (by rw [World.modify_same]; exact stale.1 ▸ starts)
      (by rwa [World.modify_same])
    have posted : (World.post _ (.confirm service generation (world.fresh + 1) prepared)).Valid :=
      opened.post (fun _ _ => rfl) (by
        rintro session ⟨rfl⟩
        exact ⟨captured.1, by simpa using captured.2⟩)
    refine posted.fork fun thread member => ?_
    rcases List.mem_cons.mp member with rfl | before
    · exact .inr ⟨captured.1, by simpa [World.post] using captured.2⟩
    · exact .inl before

theorem World.Valid.handOff (valid : world.Valid) (born : service < world.created) :
    (world.handOff service).Valid := by
  have closed := closed_interfaces (valid.sound service).interfaces
  have ended : (world.modify service (Service.closed ∘ Service.withoutMonitor ∘ fun found =>
      { found.ended with failoverHandoff := true, activePrepared := none })).Valid :=
    valid.ending born rfl rfl rfl rfl closed
  have whole : world.handOff service =
      ({ world.modify service (Service.closed ∘ Service.withoutMonitor ∘ fun found =>
          { found.ended with failoverHandoff := true, activePrepared := none }) with
        messages := world.messages.filter fun message =>
          message ≠ .reconcilePhysicalNetwork service
        restartPending := true } : World).terminateVpnProcess := by
    simp [World.handOff, World.stopAutoMonitor, World.modify, Function.comp_def]
  rw [whole]
  exact (ended.sifted _ true).kill

theorem World.Valid.requestAutoHandoff (valid : world.Valid)
    (captured : world.Captured service generation) :
    (world.requestAutoHandoff service generation).Valid := by
  unfold World.requestAutoHandoff
  dsimp only
  split_ifs
  · exact valid
  · exact valid.handOff (valid.born captured)

theorem World.Valid.requestNetworkHandoff (valid : world.Valid) :
    (world.requestNetworkHandoff service generation).Valid := by
  unfold World.requestNetworkHandoff
  dsimp only
  split_ifs with stale
  · exact valid
  · simp only [not_or] at stale
    refine valid.handOff (not_le.mp fun unborn => ?_)
    have idle := ((valid.sound service).ended (.inr (valid.unborn service unborn))).2
    simp [idle, World.isAlive] at stale

theorem World.Valid.reconcilePhysicalNetwork {network : Option ℕ} (valid : world.Valid) :
    (world.reconcilePhysicalNetwork service network).Valid := by
  have noted (next : ℕ) : (world.modify service fun found =>
      { found with underlyingNetwork := some next }).Valid := valid.modify rfl rfl rfl rfl rfl
  unfold World.reconcilePhysicalNetwork
  dsimp only
  split_ifs
  · exact valid
  · cases network with
    | none => exact valid
    | some next =>
        dsimp only
        cases (world.services service).underlyingNetwork with
        | none => exact noted next
        | some previous =>
            dsimp only
            split_ifs
            · exact valid
            · exact (noted next).requestNetworkHandoff
            · exact noted next

theorem World.Valid.schedulePhysicalNetworkReconcile (valid : world.Valid) :
    (world.schedulePhysicalNetworkReconcile service).Valid := by
  have posted : (World.post _ (.reconcilePhysicalNetwork service)).Valid :=
    (valid.sifted (fun message => message ≠ .reconcilePhysicalNetwork service)
      world.restartPending).post (fun _ _ => rfl) (by simp [Message.session])
  exact posted

theorem World.Valid.onEngineExit {exit : Thread} (valid : world.Valid)
    (captured : world.Captured exit.service exit.generation) :
    (world.onEngineExit exit).1.Valid := by
  unfold World.onEngineExit
  dsimp only
  split_ifs
  · exact valid.closing
  · refine valid.closing.announce (fun _ _ => rfl) ?_
    rintro session ⟨rfl⟩
    exact ⟨captured.1, by simpa [Service.closed] using captured.2⟩
  · exact valid.closing.announce (fun _ _ => rfl) (by simp [Message.session])
  · exact valid

theorem World.Valid.stopTunnel (valid : world.Valid) (born : service < world.created) :
    (world.stopTunnel service).Valid := by
  have ready : ({ world with restartPending := false }.stopAutoMonitor service).Valid :=
    (valid.flagged false).stopAutoMonitor
  have closed := closed_interfaces (ready.sound service).interfaces
  refine World.Valid.kill ?_
  exact ready.ending born rfl rfl rfl rfl closed

/-- The instance is destroyed, and has no session. -/
theorem World.Valid.retire (valid : world.Valid)
    (gone : ∀ service, world.current = some service → (world.services service).Over) :
    { world with current := none }.Valid where
  sound := valid.sound
  retired service _ := by
    by_cases here : world.current = some service
    · exact gone service here
    · exact valid.retired service here
  bound := by simp
  unborn := valid.unborn
  threads := valid.threads
  messages := valid.messages

theorem World.Valid.onDestroy (valid : world.Valid) (current : world.current = some service) :
    (world.onDestroy service).Valid := by
  have born := valid.bound service current
  have ready : (world.stopAutoMonitor service).Valid := valid.stopAutoMonitor
  have closed := closed_interfaces (ready.sound service).interfaces
  have stopped : ((world.stopAutoMonitor service).modify service fun found =>
      if found.stopping = true then found else found.ended.closed).Valid := by
    by_cases stopping : ((world.stopAutoMonitor service).services service).stopping = true
    · refine ready.modify ?_ ?_ ?_ ?_ ?_ <;> rw [if_pos stopping]
    · refine ready.ending born ?_ ?_ ?_ ?_ ?_ <;> rw [if_neg stopping]
      · rfl
      · rfl
      · rfl
      · rfl
      · exact closed
  refine stopped.retire fun other here => ?_
  obtain rfl : service = other := Option.some.inj (current.symm.trans here)
  rw [World.modify_same]
  split_ifs with stopping
  · exact .inl stopping
  · exact .inl rfl

theorem World.Valid.startTunnel (valid : world.Valid) (current : world.current = some service) :
    (world.startTunnel service).Valid := by
  unfold World.startTunnel
  dsimp only
  split_ifs with busy
  · exact valid
  · simp only [Bool.or_eq_true, not_or, Bool.not_eq_true, Option.isSome_eq_false_iff,
      Option.isNone_iff_eq_none] at busy
    have interfaces := (valid.sound service).interfaces
    rw [busy.2] at interfaces
    have starts : world.startsOf service ((world.services service).sessionGeneration + 1) = 0 :=
      valid.startsOf_eq_zero (Nat.lt_succ_self _)
    refine valid.changeOne service (fun other different => by simp [different]) rfl rfl (by simp)
      (.inl (valid.bound service current)) ?_ (fun other different generation => ?_)
      (fun away => absurd current away) (fun thread member => ?_) fun _ member => .inl member
    · have one : World.startsOf { world with
          preflights := ⟨service, (world.services service).sessionGeneration + 1, world.fresh⟩ ::
            world.preflights } service ((world.services service).sessionGeneration + 1) = 1 := by
        rw [World.startsOf, List.countP_cons_of_pos (by simp [Thread.of])]
        rw [World.startsOf] at starts
        change _ + 1 + world.pending.countP _ = 1
        omega
      simp only [World.modify_same]
      refine ⟨?_, by simp [interfaces, busy.2], one.le, fun _ => busy.2⟩
      rintro (stopping | zero)
      · simp at stopping
      · simp at zero
    · have apart : Thread.of other generation
          ⟨service, (world.services service).sessionGeneration + 1, world.fresh⟩ = false := by
        simp [Thread.of, Ne.symm different]
      simp only [World.startsOf, List.countP_cons, apart]
      exact le_rfl
    · simp only [List.cons_append, List.mem_cons] at member
      rcases member with rfl | before
      · exact .inr ⟨by simp, by simp⟩
      · exact .inl before

/-- The instance that receives an intent is the current one. -/
theorem World.Valid.receiver (valid : world.Valid) :
    world.receiver.2.Valid ∧ world.receiver.2.current = some world.receiver.1 := by
  unfold World.receiver
  cases current : world.current with
  | some service => exact ⟨valid, current⟩
  | none =>
      refine ⟨?_, rfl⟩
      have unborn := valid.unborn world.created le_rfl
      have reset : (world.modify world.created fun _ => {}).Valid := by
        have sound := valid.sound world.created
        rw [unborn] at sound
        refine valid.changeOne world.created (fun other => World.modify_other) rfl rfl ?_ (.inr ?_)
          ?_ (fun _ _ _ => le_rfl) ?_ (fun _ member => .inl member) fun _ member => .inl member
        · rw [unborn]
          exact Nat.zero_le _
        · rw [World.modify_same, unborn]
        · rw [World.modify_same]
          exact ⟨fun _ => ⟨rfl, rfl⟩, rfl, sound.single, fun _ => rfl⟩
        · rw [World.modify_same]
          exact fun _ => .inr rfl
      refine ⟨reset.sound, fun service _ => reset.retired service ?_, ?_, fun service later => ?_,
        reset.threads, reset.messages⟩
      · exact fun here => absurd (current.symm.trans here) (by simp)
      · rintro service ⟨rfl⟩
        exact Nat.lt_succ_self _
      · exact reset.unborn service (le_trans (Nat.le_succ _) later)

theorem World.Valid.onStartCommand (valid : world.Valid) (current : world.current = some service)
    (command : Command) : (world.onStartCommand service command).Valid := by
  cases command with
  | disconnect => exact (valid.flagged false).stopTunnel (valid.bound service current)
  | connect => exact (valid.flagged false).startTunnel current
  | reconcile =>
      unfold World.onStartCommand World.reconcileTunnelAfterForegroundResume
      dsimp only
      split_ifs
      · exact valid.startTunnel current
      · exact valid
  | other => exact valid

theorem World.Valid.onRestart (valid : world.Valid) (current : world.current = some service) :
    (world.onRestart service).Valid := by
  unfold World.onRestart
  split_ifs
  · exact (valid.flagged false).startTunnel current
  · exact valid

theorem World.valid_start (pending : Bool) (fresh : ℕ) :
    ({ restartPending := pending, fresh := fresh } : World).Valid where
  sound _ := ⟨fun _ => ⟨rfl, rfl⟩, rfl, Nat.zero_le 1, fun _ => rfl⟩
  retired _ _ := .inr rfl
  bound := by simp
  unborn _ _ := rfl
  threads := by simp
  messages := by simp [World.pending]

/-- A message runs once it is removed. -/
theorem World.Valid.run {message : Message} (valid : world.Valid)
    (posted : message ∈ world.messages) :
    ({ world with messages := world.messages.erase message }.run answer message).1.Valid := by
  have erased : { world with messages := world.messages.erase message }.Valid :=
    valid.without List.erase_sublist world.restartPending
  have expected : message ∈ world.pending := List.mem_append_left _ posted
  cases message with
  | continueStartAfterPreflight service generation prepared =>
      refine erased.continueStartAfterPreflight
        (valid.messages _ expected (service, generation) rfl) fun last => ?_
      have sound := valid.sound service
      rw [← last] at sound
      have here : Message.continues service generation
          (.continueStartAfterPreflight service generation prepared) = true := by
        simp [Message.continues]
      have counted : 0 < world.pending.countP (Message.continues service generation) :=
        List.countP_pos_iff.mpr ⟨_, expected, here⟩
      have fewer := List.countP_erase (Message.continues service generation) world.pending
        (.continueStartAfterPreflight service generation prepared)
      rw [if_pos ⟨expected, here⟩, World.pending, List.erase_append_left _ posted] at fewer
      have single := sound.single
      rw [World.startsOf] at single
      refine ⟨?_, sound.vacant ?_⟩
      · change world.preflights.countP _ + (world.messages.erase _ ++ world.exits).countP _ = 0
        rw [fewer]
        change _ + (world.pending.countP _ - 1) = 0
        omega
      · rw [World.startsOf]
        omega
  | failStartForSession service generation => exact erased.failStartForSession
  | confirm service generation thread prepared =>
      exact erased.confirm (valid.messages _ expected (service, generation) rfl)
  | requestAutoHandoff service generation =>
      exact erased.requestAutoHandoff (valid.messages _ expected (service, generation) rfl)
  | reconcilePhysicalNetwork service => exact erased.reconcilePhysicalNetwork
  | killProcess => exact World.valid_start _ _

theorem World.Valid.post_probe (valid : world.Valid) {probe : Thread}
    (running : probe ∈ world.preflights) (prepared : Option PreparedProxy) :
    ({ world with preflights := world.preflights.erase probe }.post
      (World.posted probe prepared)).Valid := by
  have captured := valid.threads probe (by simp [running])
  refine ⟨fun service => (valid.sound service).fewer ?_, valid.retired, valid.bound, valid.unborn,
    fun thread member => ?_, fun message member session of => ?_⟩
  · have fewer := List.countP_erase
      (Thread.of service (world.services service).sessionGeneration) world.preflights probe
    have next : Message.continues service (world.services service).sessionGeneration
        (World.posted probe prepared) = true →
          Thread.of service (world.services service).sessionGeneration probe = true := by
      cases prepared with
      | none => simp [World.posted, Message.continues]
      | some prepared => exact id
    rw [World.startsOf, World.startsOf, World.perm_post.countP_eq, List.countP_cons]
    change (world.preflights.erase probe).countP
        (Thread.of service (world.services service).sessionGeneration) +
      (world.pending.countP (Message.continues service (world.services service).sessionGeneration) +
        if (World.posted probe prepared).continues service
          (world.services service).sessionGeneration = true then 1 else 0) ≤ _
    rw [fewer]
    by_cases here : Thread.of service (world.services service).sessionGeneration probe = true
    · have counted : 0 < world.preflights.countP
          (Thread.of service (world.services service).sessionGeneration) :=
        List.countP_pos_iff.mpr ⟨_, running, here⟩
      rw [if_pos ⟨running, here⟩]
      split_ifs <;> omega
    · rw [if_neg fun both => here both.2, if_neg (mt next here)]
      omega
  · simp only [World.post, List.append_assoc, List.mem_append] at member
    rcases member with probes | rest
    · exact valid.threads thread (by simp [List.mem_of_mem_erase probes])
    · exact valid.threads thread (by simpa using .inr rest)
  · rcases List.mem_cons.mp (World.perm_post.mem_iff.mp member) with rfl | before
    · cases prepared with
      | none =>
          obtain rfl := Option.some.inj of
          exact captured
      | some prepared =>
          obtain rfl := Option.some.inj of
          exact captured
    · exact valid.messages message before session of

/-- What holds of the process is kept by each action. -/
theorem World.Valid.react {action : Action} {world' : World} {event : Option Event}
    (valid : world.Valid) (reacted : world.react action = some (world', event)) :
    world'.Valid := by
  cases action with
  | command command =>
      obtain ⟨rfl, -⟩ := Prod.mk.inj (Option.some.inj reacted)
      exact valid.receiver.1.onStartCommand valid.receiver.2 command
  | restart =>
      simp only [World.react] at reacted
      split_ifs at reacted
      obtain ⟨rfl, -⟩ := Prod.mk.inj (Option.some.inj reacted)
      exact valid.receiver.1.onRestart valid.receiver.2
  | revoke =>
      obtain ⟨service, current, same⟩ := Option.map_eq_some_iff.mp reacted
      obtain ⟨rfl, -⟩ := Prod.mk.inj same
      exact (valid.flagged false).stopTunnel (valid.bound service current)
  | destroy =>
      obtain ⟨service, current, same⟩ := Option.map_eq_some_iff.mp reacted
      obtain ⟨rfl, -⟩ := Prod.mk.inj same
      exact valid.onDestroy current
  | preflight thread prepared =>
      simp only [World.react] at reacted
      split_ifs at reacted with running
      obtain ⟨rfl, -⟩ := Prod.mk.inj (Option.some.inj reacted)
      exact valid.post_probe running prepared
  | engineExit thread =>
      simp only [World.react] at reacted
      split_ifs at reacted with running
      have captured := valid.threads thread (by simp [running])
      have fewer : { world with engines := world.engines.erase thread }.Valid :=
        valid.fork fun other member => .inl (List.mem_of_mem_erase member)
      have exited : (({ world with engines := world.engines.erase thread } :
          World).onEngineExit thread).1.Valid := fewer.onEngineExit captured
      rwa [Option.some.inj reacted] at exited
  | engineReports message =>
      simp only [World.react] at reacted
      split_ifs at reacted with announced
      obtain ⟨rfl, -⟩ := Prod.mk.inj (Option.some.inj reacted)
      exact valid.rearranged (World.perm_report announced)
  | monitorReports thread =>
      simp only [World.react] at reacted
      split_ifs at reacted with running
      obtain ⟨rfl, -⟩ := Prod.mk.inj (Option.some.inj reacted)
      have fewer : { world with monitors := world.monitors.erase thread }.Valid :=
        valid.watch fun other member => .inl (List.mem_of_mem_erase member)
      refine fewer.post (fun _ _ => rfl) ?_
      rintro session ⟨rfl⟩
      exact valid.threads thread (by simp [running])
  | networkChanged service =>
      simp only [World.react] at reacted
      split_ifs at reacted
      obtain ⟨rfl, -⟩ := Prod.mk.inj (Option.some.inj reacted)
      exact valid.schedulePhysicalNetworkReconcile
  | message message answer =>
      simp only [World.react] at reacted
      split_ifs at reacted with posted
      have ran : (({ world with messages := world.messages.erase message } :
          World).run answer message).1.Valid := valid.run posted
      rwa [Option.some.inj reacted] at ran
  | ends thread =>
      simp only [World.react] at reacted
      split_ifs at reacted
      obtain ⟨rfl, -⟩ := Prod.mk.inj (Option.some.inj reacted)
      exact valid.fewer rfl rfl rfl (fun _ _ => le_rfl) (fun _ member => member)
        fun _ member => member
  | die =>
      obtain ⟨rfl, -⟩ := Prod.mk.inj (Option.some.inj reacted)
      exact World.valid_start _ _

end Operations

end ProxyLauncher.Android.Tunnel
