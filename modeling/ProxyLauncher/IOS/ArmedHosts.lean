import ProxyLauncher.IOS.FlowEventCollector

/-!
# The armed hosts

Every host that is armed in the engine is one that the collector revokes later.
-/

namespace ProxyLauncher.IOS.SmartFlowEventCollector

open Engine (validateExactHost setDirectExactHost isArmed)
open Transition

variable {environment : Environment} {tunnel : Tunnel} {events : List Observed} {host : String}

/-- The active hosts have their exact names, and each is to expire in time.  The armed hosts are
among them. -/
structure Tracked (environment : Environment) (tunnel : Tunnel) : Prop where
  named : ∀ host ∈ tunnel.collector.activeDirectHosts,
    validateExactHost environment.hosts host = some host
  probes : ∀ probe ∈ tunnel.probes,
    validateExactHost environment.hosts probe.host = some probe.host
  armed : ∀ approved, tunnel.armed = some approved →
    approved ⊆ tunnel.collector.activeDirectHosts ∧ approved.card ≤ 12
  allowed : ∀ host ∈ tunnel.collector.activeDirectHosts,
    tunnel.collector.enabled = true ∧ tunnel.collector.exactHostDirect = true
  scheduled : ∀ host ∈ tunnel.collector.activeDirectHosts, ∃ expiry ∈ tunnel.expiries,
    expiry.host = host ∧ expiry.runtime = tunnel.collector.runtimeID ∧
      expiry.deadline ≤ tunnel.uptime + tunnel.collector.directTTLSeconds

namespace Tracked

variable {learning : AdaptiveRouteLearning} {probe : Probe} {expiry : Expiry}
  {exactHostDirect labScopedDirect first second : Bool} {runtimeID : String} {id : ℕ} {event : ℤ}
  {seconds firstAt secondAt : ℚ}

theorem saving (tracked : Tracked environment tunnel) :
    Tracked environment (tunnel.saving environment learning) :=
  ⟨tracked.named, tracked.probes, tracked.armed, tracked.allowed, tracked.scheduled⟩

theorem recent (tracked : Tracked environment tunnel) : Tracked environment tunnel.recent :=
  ⟨tracked.named, tracked.probes, tracked.armed, tracked.allowed, tracked.scheduled⟩

/-- Without active hosts nothing is armed. -/
theorem not_armed (tracked : Tracked environment tunnel)
    (inactive : host ∉ tunnel.collector.activeDirectHosts) :
    isArmed tunnel.armed host = false := by
  rw [isArmed]
  cases engine : tunnel.armed with
  | none => rfl
  | some approved =>
      rw [Option.any_some, decide_eq_false_iff_not]
      exact fun there => inactive ((tracked.armed approved engine).1 there)

/-- Disarming takes away every armed host when they are all active. -/
theorem disarmAll_active (tracked : Tracked environment tunnel) :
    disarmAll environment tunnel.armed tunnel.collector.activeDirectHosts =
      tunnel.armed.map fun _ => ∅ := by
  rw [disarmAll_eq tracked.named]
  cases engine : tunnel.armed with
  | none => rfl
  | some approved =>
      rw [Option.map_some, Option.map_some,
        Finset.sdiff_eq_empty_iff_subset.mpr (tracked.armed approved engine).1]

theorem empty_of_map {armed : Option (Finset String)} {approved : Finset String}
    (found : (armed.map fun _ => ∅) = some approved) : approved = ∅ := by
  cases armed with
  | none => cases found
  | some _ => exact (Option.some.inj found).symm

/-- Starting keeps the armed hosts tracked when nothing was armed or the collector was off. -/
theorem start (tracked : Tracked environment tunnel)
    (ended : tunnel.armed = none ∨ tunnel.collector.enabled = false) :
    Tracked environment (tunnel.start exactHostDirect labScopedDirect seconds runtimeID) where
  named _ there := absurd there (Finset.notMem_empty _)
  probes := tracked.probes
  armed approved engine := by
    have engine : tunnel.armed = some approved := engine
    rcases ended with ended | stopped
    · cases ended.symm.trans engine
    · have none : approved = ∅ := by
        rw [Finset.eq_empty_iff_forall_notMem]
        intro host there
        have active := (tracked.armed approved engine).1 there
        exact absurd (tracked.allowed host active).1 (by simp [stopped])
      subst none
      exact ⟨Finset.empty_subset _, Nat.zero_le _⟩
  allowed _ there := absurd there (Finset.notMem_empty _)
  scheduled _ there := absurd there (Finset.notMem_empty _)

/-- Stopping disarms all the hosts. -/
theorem stop (tracked : Tracked environment tunnel) :
    Tracked environment (tunnel.stop environment) where
  named _ there := absurd there (Finset.notMem_empty _)
  probes := tracked.probes
  armed approved engine := by
    have engine : disarmAll environment tunnel.armed tunnel.collector.activeDirectHosts =
      some approved := engine
    rw [tracked.disarmAll_active] at engine
    obtain rfl := empty_of_map engine
    exact ⟨Finset.empty_subset _, Nat.zero_le _⟩
  allowed _ there := absurd there (Finset.notMem_empty _)
  scheduled _ there := absurd there (Finset.notMem_empty _)

/-- Revoking disarms all the hosts while the collector goes on. -/
theorem revokeAllDirect (tracked : Tracked environment tunnel) :
    Tracked environment (tunnel.revokeAllDirect environment runtimeID) := by
  unfold Tunnel.revokeAllDirect
  split_ifs with enabled
  · apply saving
    exact
      { named := fun _ there => absurd there (Finset.notMem_empty _)
        probes := tracked.probes
        armed := by
          intro approved engine
          dsimp only at engine
          rw [tracked.disarmAll_active] at engine
          obtain rfl := empty_of_map engine
          exact ⟨Finset.empty_subset _, Nat.zero_le _⟩
        allowed := fun _ there => absurd there (Finset.notMem_empty _)
        scheduled := fun _ there => absurd there (Finset.notMem_empty _) }
  · exact tracked

/-- A host that is reverted is neither active nor armed. -/
theorem revert (tracked : Tracked environment tunnel)
    (named : validateExactHost environment.hosts host = some host) :
    Tracked environment (tunnel.revert environment host) := by
  apply saving
  exact
    { named := fun other there => tracked.named other (Finset.mem_of_mem_erase there)
      probes := tracked.probes
      armed := by
        intro approved engine
        dsimp only at engine
        rw [disarm_eq named] at engine
        obtain ⟨before, found, rfl⟩ := Option.map_eq_some_iff.mp engine
        have ⟨active, few⟩ := tracked.armed before found
        exact ⟨Finset.erase_subset_erase _ active, Finset.card_erase_le.trans few⟩
      allowed := fun other there => tracked.allowed other (Finset.mem_of_mem_erase there)
      scheduled := fun other there => tracked.scheduled other (Finset.mem_of_mem_erase there) }

theorem launchDirectProbe (tracked : Tracked environment tunnel)
    (named : validateExactHost environment.hosts host = some host) :
    Tracked environment (tunnel.launchDirectProbe host) := by
  unfold Tunnel.launchDirectProbe
  split_ifs with free
  · exact
      { named := tracked.named
        probes := by
          intro probe there
          rcases List.mem_append.mp there with there | last
          · exact tracked.probes probe there
          · obtain rfl := List.mem_singleton.mp last
            exact named
        armed := tracked.armed
        allowed := tracked.allowed
        scheduled := tracked.scheduled }
  · exact tracked

theorem proxyFailed {type : AdaptiveRouteLearning.Failure} (tracked : Tracked environment tunnel)
    (named : validateExactHost environment.hosts host = some host) :
    Tracked environment (tunnel.proxyFailed environment host id type) := by
  unfold Tunnel.proxyFailed
  dsimp only
  split
  · split_ifs
    · exact tracked.saving.launchDirectProbe named
    · exact tracked.saving
  · exact tracked.saving

/-- A host whose evidence is accepted is armed before it becomes active. -/
theorem accept (tracked : Tracked environment tunnel)
    (named : validateExactHost environment.hosts host = some host) :
    Tracked environment (tunnel.accept environment host id event) := by
  have recent := tracked.recent
  unfold Tunnel.accept
  dsimp only
  generalize (if event = 1 then AdaptiveRouteLearning.Failure.proxyTimeout else .proxyRefused) =
    type
  split_ifs
  · exact ⟨recent.named, recent.probes, recent.armed, recent.allowed, recent.scheduled⟩
  · exact recent.revert named
  · exact recent.proxyFailed named
  · exact recent
  · exact tracked

/-- The result of a probe leaves the armed hosts alone. -/
theorem landed (tracked : Tracked environment tunnel) : Tracked environment (tunnel.landed probe) :=
  ⟨tracked.named, fun other there => tracked.probes other (List.mem_of_mem_erase there),
    tracked.armed, tracked.allowed, tracked.scheduled⟩

/-- Arming a host schedules its end. -/
theorem arm (tracked : Tracked environment tunnel)
    (named : validateExactHost environment.hosts probe.host = some probe.host)
    (allowed : tunnel.collector.enabled = true ∧ tunnel.collector.exactHostDirect = true)
    (current : tunnel.collector.runtimeID = probe.runtime) :
    Tracked environment (tunnel.arm environment probe learning) := by
  unfold Tunnel.arm
  dsimp only
  split_ifs with applied
  · obtain ⟨before, engine, room, after⟩ := setDirectExactHost_eq_zero named applied
    have ⟨active, few⟩ := tracked.armed before engine
    apply saving
    exact
      { named := by
          intro other there
          rcases Finset.mem_insert.mp there with rfl | there
          · exact named
          · exact tracked.named other there
        probes := tracked.probes
        armed := by
          intro approved now
          dsimp only at now
          rw [after] at now
          obtain rfl := Option.some.inj now
          refine ⟨Finset.insert_subset_insert _ active, ?_⟩
          rcases room with room | there
          · exact (Finset.card_insert_le _ _).trans room
          · rw [Finset.insert_eq_of_mem there]
            exact few
        allowed := fun _ _ => allowed
        scheduled := by
          intro other there
          rcases Finset.mem_insert.mp there with rfl | there
          · exact ⟨_, List.mem_append_right _ (List.mem_singleton_self _), rfl, current.symm,
              le_rfl⟩
          · obtain ⟨expiry, pending, due⟩ := tracked.scheduled other there
            exact ⟨expiry, List.mem_append_left _ pending, due⟩ }
  · exact tracked.saving

/-- The answer to a probe that is under way keeps the hosts tracked. -/
theorem probed (tracked : Tracked environment tunnel) (there : probe ∈ tunnel.probes) :
    Tracked environment (tunnel.probed environment probe first second firstAt secondAt) := by
  have landed := @landed environment tunnel probe tracked
  unfold Tunnel.probed
  dsimp only
  split_ifs with current
  · split
    · exact landed.arm (tracked.probes probe there) ⟨current.1, current.2.1⟩ current.2.2
    · exact landed.saving
  · exact landed

/-- An expired host is disarmed. -/
theorem expire (tracked : Tracked environment tunnel) :
    Tracked environment (tunnel.expire environment expiry) := by
  -- The other active hosts keep what they are scheduled for.
  have kept (other : String) (active : other ∈ tunnel.collector.activeDirectHosts)
      (different : tunnel.collector.runtimeID = expiry.runtime → other ≠ expiry.host) :
      ∃ pending ∈ tunnel.expiries.erase expiry, pending.host = other ∧
        pending.runtime = tunnel.collector.runtimeID ∧
        pending.deadline ≤ tunnel.uptime + tunnel.collector.directTTLSeconds := by
    obtain ⟨pending, there, own, current, due⟩ := tracked.scheduled other active
    refine ⟨pending, ?_, own, current, due⟩
    rw [List.mem_erase_of_ne]
    · exact there
    · rintro rfl
      exact different current.symm own.symm
  unfold Tunnel.expire
  dsimp only
  split_ifs with due
  · have named := tracked.named _ due.2.2
    apply saving
    exact
      { named := fun other there => tracked.named other (Finset.mem_of_mem_erase there)
        probes := tracked.probes
        armed := by
          intro approved engine
          dsimp only at engine
          rw [disarm_eq named] at engine
          obtain ⟨before, found, rfl⟩ := Option.map_eq_some_iff.mp engine
          have ⟨active, few⟩ := tracked.armed before found
          exact ⟨Finset.erase_subset_erase _ active, Finset.card_erase_le.trans few⟩
        allowed := fun other there => tracked.allowed other (Finset.mem_of_mem_erase there)
        scheduled := fun other there =>
          kept other (Finset.mem_of_mem_erase there) fun _ => Finset.ne_of_mem_erase there }
  · exact
      { named := tracked.named
        probes := tracked.probes
        armed := tracked.armed
        allowed := tracked.allowed
        scheduled := fun other there => kept other there fun current same =>
          due ⟨(tracked.allowed other there).1, current, same ▸ there⟩ }

/-- Every action keeps the armed hosts among the active ones. -/
theorem next {tunnel' : Tunnel} {action : Action} (tracked : Tracked environment tunnel)
    (step : SmartFlowEventCollector.next environment tunnel action = some tunnel') :
    Tracked environment tunnel' := by
  cases action with
  | start exactHostDirect labScopedDirect seconds runtimeID =>
      obtain ⟨⟨ended, -⟩, same⟩ := Option.ite_none_right_eq_some.mp step
      obtain rfl := Option.some.inj same
      exact tracked.start ended
  | stop =>
      obtain rfl := Option.some.inj step
      exact tracked.stop
  | beginRuntime =>
      obtain rfl := Option.some.inj step
      refine ⟨tracked.named, tracked.probes, ?_, tracked.allowed, tracked.scheduled⟩
      intro approved engine
      obtain rfl := Option.some.inj engine
      exact ⟨Finset.empty_subset _, Nat.zero_le _⟩
  | endRuntime =>
      obtain rfl := Option.some.inj step
      exact ⟨tracked.named, tracked.probes, fun approved engine => (by cases engine),
        tracked.allowed, tracked.scheduled⟩
  | accept name id event =>
      obtain ⟨host, accepted, rfl⟩ := Option.map_eq_some_iff.mp step
      exact tracked.accept (validateExactHost_self accepted)
  | revokeAllDirect runtimeID =>
      obtain ⟨-, same⟩ := Option.ite_none_right_eq_some.mp step
      obtain rfl := Option.some.inj same
      exact tracked.revokeAllDirect
  | probed probe first second firstAt secondAt =>
      obtain ⟨there, same⟩ := Option.ite_none_right_eq_some.mp step
      obtain rfl := Option.some.inj same
      exact tracked.probed there
  | expire expiry =>
      obtain ⟨-, same⟩ := Option.ite_none_right_eq_some.mp step
      obtain rfl := Option.some.inj same
      exact tracked.expire
  | wait uptime date =>
      obtain ⟨later, same⟩ := Option.ite_none_right_eq_some.mp step
      obtain rfl := Option.some.inj same
      refine ⟨tracked.named, tracked.probes, tracked.armed, tracked.allowed, ?_⟩
      intro host there
      obtain ⟨expiry, pending, own, current, due⟩ := tracked.scheduled host there
      exact ⟨expiry, pending, own, current, by dsimp only; linarith⟩

end Tracked

/-- In every reachable tunnel the armed hosts are among the active ones. -/
theorem tracked_of_reaches {allowed : List Observed → Tunnel → Action → Prop}
    (reaches : (machine environment).Reaches allowed events tunnel) :
    Tracked environment tunnel := by
  induction reaches with
  | start initial =>
      obtain ⟨stored, date, uptime, rfl⟩ := initial
      exact ⟨fun _ there => absurd there (Finset.notMem_empty _), fun _ there => (by cases there),
        fun _ engine => (by cases engine), fun _ there => absurd there (Finset.notMem_empty _),
        fun _ there => absurd there (Finset.notMem_empty _)⟩
  | step action _ _ next ih => exact ih.next next

/-- A stopped tunnel has no active hosts. -/
theorem active_stop : (tunnel.stop environment).collector.activeDirectHosts = ∅ :=
  rfl

theorem Tracked.active_revokeAllDirect {runtimeID : String}
    (tracked : Tracked environment tunnel) :
    (tunnel.revokeAllDirect environment runtimeID).collector.activeDirectHosts = ∅ := by
  unfold Tunnel.revokeAllDirect
  split_ifs with enabled
  · rfl
  · rw [Finset.eq_empty_iff_forall_notMem]
    intro host there
    exact enabled (tracked.allowed host there).1

/-- Whatever is armed in the engine is known to the collector, so that nothing stays armed when
the tunnel stops or the network changes, in any order of the events, checks and timers. -/
theorem armed_revocable (reaches : (machine environment).Reaches Machine.Always events tunnel) :
    (∀ host, isArmed tunnel.armed host = true →
      host ∈ tunnel.collector.activeDirectHosts ∧ tunnel.collector.enabled = true) ∧
    (∀ approved, tunnel.armed = some approved → approved.card ≤ 12) ∧
    ∀ host runtimeID, isArmed (tunnel.stop environment).armed host = false ∧
      isArmed (tunnel.revokeAllDirect environment runtimeID).armed host = false := by
  have tracked := tracked_of_reaches reaches
  refine ⟨?_, fun approved engine => (tracked.armed approved engine).2, ?_⟩
  · intro host armed
    have active : host ∈ tunnel.collector.activeDirectHosts := by
      by_contra inactive
      exact absurd (tracked.not_armed inactive) (by simp [armed])
    exact ⟨active, (tracked.allowed host active).1⟩
  · intro host runtimeID
    constructor
    · apply tracked.stop.not_armed
      rw [active_stop]
      exact Finset.notMem_empty host
    · apply tracked.revokeAllDirect.not_armed
      rw [tracked.active_revokeAllDirect]
      exact Finset.notMem_empty host

def sampleEnvironment : Environment where
  hosts := Engine.sampleParsers
  text := Engine.sampleText
  encodedSize learning := 256 * (learning.hosts.count + 1)

/-- Two flows of a host fail while another host is reached, and both checks of the host succeed. -/
def sampleActions : List Action :=
  [.start true false 86400 "run", .beginRuntime, .accept "b.io" 1 0, .accept "a.io" 2 1,
    .wait 1 1, .accept "a.io" 3 1, .wait 5 5, .probed ⟨"a.io", "run"⟩ true true 2 4]

theorem sample_armed : ((machine sampleEnvironment).exec Machine.Always sampleActions [] {}).any
    (fun result => isArmed result.2.armed "a.io") = true := by
  decide +kernel

theorem armed_revocable_sample : ∃ tunnel : Tunnel, isArmed tunnel.armed "a.io" = true ∧
    isArmed (tunnel.stop sampleEnvironment).armed "a.io" = false := by
  obtain ⟨⟨events, tunnel⟩, executed, armed⟩ := (Option.any_eq_true _ _).mp sample_armed
  have start : (machine sampleEnvironment).Reaches Machine.Always [] {} :=
    .start ⟨{}, 0, 0, rfl⟩
  have revocable := armed_revocable (start.exec executed)
  exact ⟨tunnel, armed, (revocable.2.2 "a.io" "next").1⟩

end ProxyLauncher.IOS.SmartFlowEventCollector
