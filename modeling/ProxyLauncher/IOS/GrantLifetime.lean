import ProxyLauncher.IOS.ArmedHosts
import ProxyLauncher.Transition.Stretches

/-!
# The lifetime of a grant

A host that is armed is disarmed at the latest when its time is over, however often it is armed
again while it is armed.
-/

namespace ProxyLauncher.IOS.SmartFlowEventCollector

open Engine (validateExactHost isArmed)
open Transition

variable {environment : Environment} {tunnel tunnel' : Tunnel} {events events' : List Observed}
  {host : String} {id : ℕ} {event : ℤ} {probe : Probe} {expiry : Expiry}
  {learning : AdaptiveRouteLearning} {first second : Bool} {firstAt secondAt : ℚ}

/-- No time passes while a timer is due. -/
def prompt (_ : List Observed) (tunnel : Tunnel) : Action → Prop
  | .wait uptime _ => ∀ expiry ∈ tunnel.expiries, uptime ≤ expiry.deadline
  | _ => True

instance (events : List Observed) (tunnel : Tunnel) (action : Action) :
    Decidable (prompt events tunnel action) :=
  match action with
  | .wait uptime _ =>
      inferInstanceAs (Decidable (∀ expiry ∈ tunnel.expiries, uptime ≤ expiry.deadline))
  | .start _ _ _ _ | .stop | .beginRuntime | .endRuntime | .accept _ _ _ | .revokeAllDirect _
  | .probed _ _ _ _ _ | .expire _ => .isTrue trivial

/-- Neither the timers nor what they are compared with have changed. -/
structure Steady (tunnel tunnel' : Tunnel) : Prop where
  expiries : tunnel'.expiries = tunnel.expiries
  uptime : tunnel'.uptime = tunnel.uptime
  runtimeID : tunnel'.collector.runtimeID = tunnel.collector.runtimeID
  seconds : tunnel'.collector.directTTLSeconds = tunnel.collector.directTTLSeconds

theorem steady_launchDirectProbe : Steady tunnel (tunnel.launchDirectProbe host) := by
  unfold Tunnel.launchDirectProbe
  split_ifs <;> exact ⟨rfl, rfl, rfl, rfl⟩

theorem steady_proxyFailed {type : AdaptiveRouteLearning.Failure} :
    Steady tunnel (tunnel.proxyFailed environment host id type) := by
  unfold Tunnel.proxyFailed
  dsimp only
  generalize ((load environment tunnel.stored).proxyFailure environment.text host (toString id)
    type true tunnel.collector.runtimeID tunnel.date) = learnt
  have launched := @steady_launchDirectProbe (tunnel.saving environment learnt.1) host
  split
  · split_ifs
    · exact ⟨launched.expiries, launched.uptime, launched.runtimeID, launched.seconds⟩
    · exact ⟨rfl, rfl, rfl, rfl⟩
  · exact ⟨rfl, rfl, rfl, rfl⟩

theorem steady_accept : Steady tunnel (tunnel.accept environment host id event) := by
  unfold Tunnel.accept
  dsimp only
  generalize (if event = 1 then AdaptiveRouteLearning.Failure.proxyTimeout else .proxyRefused) =
    type
  have failed := @steady_proxyFailed environment tunnel.recent host id type
  split_ifs
  · exact ⟨rfl, rfl, rfl, rfl⟩
  · exact ⟨rfl, rfl, rfl, rfl⟩
  · exact ⟨failed.expiries, failed.uptime, failed.runtimeID, failed.seconds⟩
  · exact ⟨rfl, rfl, rfl, rfl⟩
  · exact ⟨rfl, rfl, rfl, rfl⟩

/-- A probe schedules at most the end of what it arms. -/
theorem steady_probed :
    Steady tunnel (tunnel.probed environment probe first second firstAt secondAt) ∨
      Steady
        { tunnel with
          expiries := tunnel.expiries ++ [{
            host := probe.host
            runtime := probe.runtime
            deadline := tunnel.uptime + tunnel.collector.directTTLSeconds }] }
        (tunnel.probed environment probe first second firstAt secondAt) := by
  unfold Tunnel.probed
  dsimp only
  split_ifs
  · split
    · unfold Tunnel.arm
      dsimp only
      split_ifs
      · exact .inr ⟨rfl, rfl, rfl, rfl⟩
      · exact .inl ⟨rfl, rfl, rfl, rfl⟩
    · exact .inl ⟨rfl, rfl, rfl, rfl⟩
  · exact .inl ⟨rfl, rfl, rfl, rfl⟩

theorem steady_expire : Steady { tunnel with expiries := tunnel.expiries.erase expiry }
    (tunnel.expire environment expiry) := by
  unfold Tunnel.expire
  dsimp only
  split_ifs <;> exact ⟨rfl, rfl, rfl, rfl⟩

theorem steady_revokeAllDirect_expiries {runtimeID : String} :
    (tunnel.revokeAllDirect environment runtimeID).expiries = tunnel.expiries ∧
      (tunnel.revokeAllDirect environment runtimeID).uptime = tunnel.uptime ∧
      (tunnel.revokeAllDirect environment runtimeID).collector.directTTLSeconds =
        tunnel.collector.directTTLSeconds := by
  unfold Tunnel.revokeAllDirect
  split_ifs <;> exact ⟨rfl, rfl, rfl⟩

/-- No timer is overdue. -/
structure Timely (tunnel : Tunnel) : Prop where
  seconds : 0 ≤ tunnel.collector.directTTLSeconds
  pending : ∀ expiry ∈ tunnel.expiries, tunnel.uptime ≤ expiry.deadline

theorem Timely.steady (timely : Timely tunnel) (steady : Steady tunnel tunnel') :
    Timely tunnel' where
  seconds := steady.seconds ▸ timely.seconds
  pending := by
    rw [steady.expiries, steady.uptime]
    exact timely.pending

theorem Timely.next {action : Action} (timely : Timely tunnel)
    (permitted : prompt events tunnel action)
    (step : next environment tunnel action = some tunnel') : Timely tunnel' := by
  cases action with
  | start exactHostDirect labScopedDirect seconds runtimeID =>
      obtain ⟨-, same⟩ := Option.ite_none_right_eq_some.mp step
      obtain rfl := Option.some.inj same
      refine ⟨?_, timely.pending⟩
      dsimp only [Tunnel.start]
      split_ifs with lab
      · linarith [lab.2.1]
      · norm_num [AdaptiveRouteLearning.lifetime]
  | stop | beginRuntime | endRuntime =>
      obtain rfl := Option.some.inj step
      exact ⟨timely.seconds, timely.pending⟩
  | accept name id event =>
      obtain ⟨host, -, rfl⟩ := Option.map_eq_some_iff.mp step
      exact timely.steady steady_accept
  | revokeAllDirect runtimeID =>
      obtain ⟨-, same⟩ := Option.ite_none_right_eq_some.mp step
      obtain rfl := Option.some.inj same
      have ⟨expiries, uptime, seconds⟩ :=
        @steady_revokeAllDirect_expiries environment tunnel runtimeID
      constructor
      · rw [seconds]
        exact timely.seconds
      · rw [expiries, uptime]
        exact timely.pending
  | probed probe first second firstAt secondAt =>
      obtain ⟨-, same⟩ := Option.ite_none_right_eq_some.mp step
      obtain rfl := Option.some.inj same
      rcases @steady_probed environment tunnel probe first second firstAt secondAt with
        steady | steady
      · exact timely.steady steady
      · apply Timely.steady _ steady
        refine ⟨timely.seconds, ?_⟩
        intro expiry there
        rcases List.mem_append.mp there with there | last
        · exact timely.pending expiry there
        · rw [List.mem_singleton.mp last]
          exact le_add_of_nonneg_right timely.seconds
  | expire expiry =>
      obtain ⟨-, same⟩ := Option.ite_none_right_eq_some.mp step
      obtain rfl := Option.some.inj same
      apply Timely.steady _ steady_expire
      exact ⟨timely.seconds, fun other there => timely.pending other (List.mem_of_mem_erase there)⟩
  | wait uptime date =>
      obtain ⟨-, same⟩ := Option.ite_none_right_eq_some.mp step
      obtain rfl := Option.some.inj same
      exact ⟨timely.seconds, permitted⟩

theorem timely_of_reaches (reaches : (machine environment).Reaches prompt events tunnel) :
    Timely tunnel := by
  induction reaches with
  | start initial =>
      obtain ⟨stored, date, uptime, rfl⟩ := initial
      refine ⟨?_, fun _ there => by cases there⟩
      norm_num [AdaptiveRouteLearning.lifetime]
  | step action _ permitted next ih => exact ih.next permitted next

/-- The timer is set in the generation. -/
def Pending (expiry : Expiry) (tunnel : Tunnel) : Prop :=
  expiry ∈ tunnel.expiries ∧ tunnel.collector.runtimeID = expiry.runtime

/-- The timer stays set as long as its host stays armed. -/
theorem Pending.next {action : Action} (tracked : Tracked environment tunnel)
    (step : SmartFlowEventCollector.next environment tunnel action = some tunnel')
    (armed : isArmed tunnel.armed expiry.host = true)
    (armed' : isArmed tunnel'.armed expiry.host = true) (pending : Pending expiry tunnel) :
    Pending expiry tunnel' := by
  have tracked' := tracked.next step
  have active (tunnel : Tunnel) (tracked : Tracked environment tunnel)
      (armed : isArmed tunnel.armed expiry.host = true) :
      expiry.host ∈ tunnel.collector.activeDirectHosts := by
    by_contra inactive
    exact absurd (tracked.not_armed inactive) (by simp [armed])
  have before := active tunnel tracked armed
  have after := active tunnel' tracked' armed'
  cases action with
  | start exactHostDirect labScopedDirect seconds runtimeID =>
      obtain ⟨⟨ended, -⟩, -⟩ := Option.ite_none_right_eq_some.mp step
      rcases ended with ended | stopped
      · rw [ended] at armed
        cases armed
      · exact absurd (tracked.allowed _ before).1 (by simp [stopped])
  | stop =>
      obtain rfl := Option.some.inj step
      exact absurd after (Finset.notMem_empty _)
  | beginRuntime =>
      obtain rfl := Option.some.inj step
      exact absurd armed' (by simp [isArmed])
  | endRuntime =>
      obtain rfl := Option.some.inj step
      cases armed'
  | accept name id event =>
      obtain ⟨host, -, rfl⟩ := Option.map_eq_some_iff.mp step
      have steady := @steady_accept environment tunnel host id event
      exact ⟨steady.expiries ▸ pending.1, steady.runtimeID.trans pending.2⟩
  | revokeAllDirect runtimeID =>
      obtain ⟨-, same⟩ := Option.ite_none_right_eq_some.mp step
      obtain rfl := Option.some.inj same
      rw [tracked.active_revokeAllDirect] at after
      exact absurd after (Finset.notMem_empty _)
  | probed probe first second firstAt secondAt =>
      obtain ⟨-, same⟩ := Option.ite_none_right_eq_some.mp step
      obtain rfl := Option.some.inj same
      rcases @steady_probed environment tunnel probe first second firstAt secondAt with
        steady | steady
      · exact ⟨steady.expiries ▸ pending.1, steady.runtimeID.trans pending.2⟩
      · exact ⟨steady.expiries ▸ List.mem_append_left _ pending.1,
          steady.runtimeID.trans pending.2⟩
  | expire fired =>
      obtain ⟨-, same⟩ := Option.ite_none_right_eq_some.mp step
      obtain rfl := Option.some.inj same
      have steady := @steady_expire environment tunnel fired
      refine ⟨?_, steady.runtimeID.trans pending.2⟩
      rw [steady.expiries]
      -- The timer itself would have disarmed its host.
      apply (List.mem_erase_of_ne _).mpr pending.1
      rintro rfl
      unfold Tunnel.expire at after
      dsimp only at after
      rw [if_pos ⟨(tracked.allowed _ before).1, pending.2, before⟩] at after
      exact Finset.notMem_erase _ _ after
  | wait uptime date =>
      obtain ⟨-, same⟩ := Option.ite_none_right_eq_some.mp step
      obtain rfl := Option.some.inj same
      exact pending

/-- When timers fire in time, no host stays armed for longer than the time of a grant. -/
theorem armed_ends (reaches : (machine environment).Reaches prompt events tunnel)
    (stays : (machine environment).Stays prompt (fun tunnel => isArmed tunnel.armed host = true)
      events tunnel events' tunnel') :
    tunnel'.uptime ≤ tunnel.uptime + tunnel.collector.directTTLSeconds := by
  have tracked := tracked_of_reaches reaches
  have armed : isArmed tunnel.armed host = true := stays.first
  have active : host ∈ tunnel.collector.activeDirectHosts := by
    by_contra inactive
    exact absurd (tracked.not_armed inactive) (by simp [armed])
  obtain ⟨expiry, there, rfl, current, deadline⟩ := tracked.scheduled host active
  have pending : Pending expiry tunnel' := by
    apply stays.invariant reaches ⟨there, current.symm⟩
    intro _ _ _ _ reaches _ step armed armed' pending
    exact pending.next (tracked_of_reaches reaches) step armed armed'
  exact ((timely_of_reaches (stays.reaches reaches)).pending expiry pending.1).trans deadline

/-- The host of the sample is armed at the time 5 and still armed at the time 9. -/
theorem sample_prompt : ((machine sampleEnvironment).exec prompt sampleActions [] {}).any
    (fun result => isArmed result.2.armed "a.io" && decide (result.2.uptime = 5) &&
      result.2.expiries.all fun expiry => decide (9 ≤ expiry.deadline)) = true := by
  decide +kernel

theorem armed_ends_sample : ∃ tunnel tunnel' : Tunnel, isArmed tunnel.armed "a.io" = true ∧
    isArmed tunnel'.armed "a.io" = true ∧ tunnel'.uptime = 9 ∧
    tunnel'.uptime ≤ tunnel.uptime + tunnel.collector.directTTLSeconds := by
  obtain ⟨⟨events, tunnel⟩, executed, checked⟩ := (Option.any_eq_true _ _).mp sample_prompt
  simp only [Bool.and_eq_true, decide_eq_true_eq, List.all_eq_true] at checked
  obtain ⟨⟨armed, five⟩, later⟩ := checked
  have start : (machine sampleEnvironment).Reaches prompt [] {} := .start ⟨{}, 0, 0, rfl⟩
  have waits : next sampleEnvironment tunnel (.wait 9 9) =
      some { tunnel with uptime := 9, date := 9 } := by
    rw [next, five, if_pos (by norm_num)]
  have stays : (machine sampleEnvironment).Stays prompt
      (fun tunnel => isArmed tunnel.armed "a.io" = true) events tunnel _
      { tunnel with uptime := 9, date := 9 } :=
    .step (Action.wait 9 9) (.refl armed) later waits armed
  exact ⟨tunnel, { tunnel with uptime := 9, date := 9 }, armed, armed, rfl,
    armed_ends (start.exec executed) stays⟩

end ProxyLauncher.IOS.SmartFlowEventCollector
