import ProxyLauncher.Engine.HostNames
import ProxyLauncher.IOS.LearningLimits

/-!
# The collector of flow events

The engine reports the outcomes of flows by the exact names of their hosts.  The collector of the
packet tunnel keeps the evidence of a host, checks the host over a physical interface and arms it
in the engine for a while.  Its work is done on a serial queue; the checks run beside it, and the
engine starts and ends on a thread of its own.
-/

namespace ProxyLauncher.IOS.SmartFlowEventCollector

open Engine (validateExactHost setDirectExactHost isArmed exactForm)
open Transition

/-- What the code calls: the names of hosts in Rust and in Swift, and the encoder of the store. -/
structure Environment where
  hosts : Engine.Hosts
  text : Text
  encodedSize : AdaptiveRouteLearning → ℕ

/-- The task of `launchDirectProbe`. -/
structure Probe where
  host : String
  runtime : String
deriving DecidableEq

/-- The work behind `asyncAfter`. -/
structure Expiry where
  host : String
  runtime : String
  deadline : ℚ
deriving DecidableEq

/-- `SmartFlowEventCollector`; the store is there while the collector is enabled. -/
structure Collector where
  runtimeID : String := ""
  successfulHosts : Dictionary ℚ := ∅
  enabled : Bool := false
  exactHostDirect : Bool := false
  directTTLSeconds : ℚ := AdaptiveRouteLearning.lifetime
  activeDirectHosts : Finset String := ∅
  inflight : Finset String := ∅

/-- The collector, the stored evidence, the armed hosts of the engine, the work that is under way
and the two clocks: the date can be set, the time since the start cannot. -/
structure Tunnel where
  collector : Collector := {}
  stored : AdaptiveRouteLearning := {}
  armed : Option (Finset String) := none
  probes : List Probe := []
  expiries : List Expiry := []
  date : ℚ := 0
  uptime : ℚ := 0

variable (environment : Environment)

instance (learning : AdaptiveRouteLearning) : Decidable learning.Storable :=
  inferInstanceAs (Decidable (_ ∧ _))

/-- `ProfileStore.adaptiveRouteLearning`, read. -/
def load (stored : AdaptiveRouteLearning) : AdaptiveRouteLearning :=
  if environment.encodedSize stored ≤ 65536 ∧ stored.Storable then stored else {}

/-- `ProfileStore.adaptiveRouteLearning`, written. -/
def save (stored learning : AdaptiveRouteLearning) : AdaptiveRouteLearning :=
  if learning.Storable ∧ environment.encodedSize learning ≤ 65536 then learning else stored

/-- `tun2proxy_set_direct_exact_host(host, false)`. -/
def disarm (armed : Option (Finset String)) (host : String) : Option (Finset String) :=
  (setDirectExactHost environment.hosts armed host false).2

instance : RightCommutative (disarm environment) where
  right_comm armed first second := by
    unfold disarm setDirectExactHost
    cases armed with
    | none =>
        cases validateExactHost environment.hosts first <;>
          cases validateExactHost environment.hosts second <;> rfl
    | some approved =>
        cases validateExactHost environment.hosts first with
        | none => cases validateExactHost environment.hosts second <;> rfl
        | some first =>
            cases validateExactHost environment.hosts second with
            | none => rfl
            | some second => simp [Finset.erase_right_comm]

/-- The loop over `activeDirectHosts`. -/
def disarmAll (armed : Option (Finset String)) (hosts : Finset String) : Option (Finset String) :=
  hosts.val.foldl (disarm environment) armed

namespace Tunnel

variable (tunnel : Tunnel)

/-- The evidence of the tunnel is replaced by what is stored of the other. -/
def saving (learning : AdaptiveRouteLearning) : Tunnel :=
  { tunnel with stored := save environment tunnel.stored learning }

/-- A direct connection of the host is over. -/
def revert (host : String) : Tunnel :=
  saving environment
    { tunnel with
      armed := disarm environment tunnel.armed host
      collector := { tunnel.collector with
        activeDirectHosts := tunnel.collector.activeDirectHosts.erase host } }
    ((load environment tunnel.stored).directFailure environment.text host).1

def start (exactHostDirect labScopedDirect : Bool) (qaDirectTTLSeconds : ℚ) (runtimeID : String) :
    Tunnel :=
  { tunnel with
    collector := {
      runtimeID := runtimeID
      enabled := true
      exactHostDirect := exactHostDirect
      directTTLSeconds :=
        if labScopedDirect = true ∧ 4 ≤ qaDirectTTLSeconds ∧ qaDirectTTLSeconds ≤ 10 then
          qaDirectTTLSeconds
        else AdaptiveRouteLearning.lifetime } }

def stop : Tunnel :=
  { tunnel with
    armed := disarmAll environment tunnel.armed tunnel.collector.activeDirectHosts
    collector := { tunnel.collector with
      activeDirectHosts := ∅
      exactHostDirect := false
      enabled := false
      inflight := ∅
      successfulHosts := ∅ } }

def revokeAllDirect (runtimeID : String) : Tunnel :=
  if tunnel.collector.enabled = true then
    saving environment
      { tunnel with
        armed := disarmAll environment tunnel.armed tunnel.collector.activeDirectHosts
        collector := { tunnel.collector with
          activeDirectHosts := ∅
          inflight := ∅
          successfulHosts := ∅
          runtimeID := runtimeID } }
      ((load environment tunnel.stored).prune tunnel.date runtimeID)
  else tunnel

def launchDirectProbe (host : String) : Tunnel :=
  if tunnel.collector.inflight.card < 3 ∧ host ∉ tunnel.collector.inflight then
    { tunnel with
      collector := { tunnel.collector with inflight := insert host tunnel.collector.inflight }
      probes := tunnel.probes ++ [{ host := host, runtime := tunnel.collector.runtimeID }] }
  else tunnel

/-- A success of the host; the oldest of too many is forgotten. -/
def succeeded (successfulHosts : Dictionary ℚ) (host : String) (now : ℚ) : Dictionary ℚ :=
  let hosts : Dictionary ℚ := successfulHosts.insert host now
  if 32 < hosts.count then
    match hosts.pairs.argmin Prod.snd with
    | some (oldest, _) => hosts.erase oldest
    | none => hosts
  else hosts

/-- The failure of a flow while another host is reached over the proxy. -/
def proxyFailed (host : String) (id : ℕ) (type : AdaptiveRouteLearning.Failure) : Tunnel :=
  let learnt := (load environment tunnel.stored).proxyFailure environment.text host (toString id)
    type true tunnel.collector.runtimeID tunnel.date
  let tunnel := tunnel.saving environment learnt.1
  match learnt.2 with
  | .verifyDirect _ =>
      if tunnel.collector.exactHostDirect = true then tunnel.launchDirectProbe host else tunnel
  | _ => tunnel

/-- The successes of the last minute. -/
def recent : Tunnel :=
  { tunnel with
    collector := { tunnel.collector with
      successfulHosts := tunnel.collector.successfulHosts.filter fun _ date =>
        decide (tunnel.date - date < 60) } }

/-- Another host is reached over the proxy. -/
def healthy (host : String) : Bool :=
  tunnel.collector.successfulHosts.keys.any fun other => decide (other ≠ host)

def accept (host : String) (id : ℕ) (event : ℤ) : Tunnel :=
  if tunnel.collector.enabled = true then
    let tunnel := tunnel.recent
    if event = 0 then
      { tunnel with
        collector := { tunnel.collector with
          successfulHosts := succeeded tunnel.collector.successfulHosts host tunnel.date } }
    else if event = 5 ∧ tunnel.collector.exactHostDirect = true then
      tunnel.revert environment host
    else if (event = 1 ∨ event = 2) ∧ tunnel.healthy host = true then
      tunnel.proxyFailed environment host id
        (if event = 1 then .proxyTimeout else .proxyRefused)
    else tunnel
  else tunnel

/-- The two comparisons at the end of a probe. -/
def compared (probe : Probe) (ok : Bool) (firstAt secondAt : ℚ) :
    AdaptiveRouteLearning × AdaptiveRouteLearning.Action :=
  (((load environment tunnel.stored).comparison environment.text probe.host true ok ok true
    probe.runtime firstAt).1).comparison environment.text probe.host true ok ok true
      probe.runtime secondAt

/-- The host is armed and its end is scheduled, if the engine takes it. -/
def arm (probe : Probe) (learning : AdaptiveRouteLearning) : Tunnel :=
  let applied := setDirectExactHost environment.hosts tunnel.armed probe.host true
  if applied.1 = 0 then
    saving environment
      { tunnel with
        armed := applied.2
        collector := { tunnel.collector with
          activeDirectHosts := insert probe.host tunnel.collector.activeDirectHosts }
        expiries := tunnel.expiries ++ [{
          host := probe.host
          runtime := probe.runtime
          deadline := tunnel.uptime + tunnel.collector.directTTLSeconds }] }
      learning
  else tunnel.saving environment (learning.directFailure environment.text probe.host).1

/-- The probe has ended with the results of its checks. -/
def landed (probe : Probe) : Tunnel :=
  { tunnel with
    collector := { tunnel.collector with
      inflight := tunnel.collector.inflight.erase probe.host }
    probes := tunnel.probes.erase probe }

def probed (probe : Probe) (first second : Bool) (firstAt secondAt : ℚ) : Tunnel :=
  let tunnel := tunnel.landed probe
  if tunnel.collector.enabled = true ∧ tunnel.collector.exactHostDirect = true ∧
      tunnel.collector.runtimeID = probe.runtime then
    let two := tunnel.compared environment probe (first && second) firstAt secondAt
    match two.2, first && second with
    | .temporaryDirect _, true => tunnel.arm environment probe two.1
    | _, _ => tunnel.saving environment two.1
  else tunnel

def expire (expiry : Expiry) : Tunnel :=
  let tunnel := { tunnel with expiries := tunnel.expiries.erase expiry }
  if tunnel.collector.enabled = true ∧ tunnel.collector.runtimeID = expiry.runtime ∧
      expiry.host ∈ tunnel.collector.activeDirectHosts then
    tunnel.revert environment expiry.host
  else tunnel

end Tunnel

inductive Action where
  | start (exactHostDirect labScopedDirect : Bool) (qaDirectTTLSeconds : ℚ) (runtimeID : String)
  | stop
  | beginRuntime
  | endRuntime
  | accept (name : String) (id : ℕ) (event : ℤ)
  | revokeAllDirect (runtimeID : String)
  | probed (probe : Probe) (first second : Bool) (firstAt secondAt : ℚ)
  | expire (expiry : Expiry)
  | wait (uptime date : ℚ)

/-- An action and its date. -/
structure Observed where
  action : Action
  date : ℚ

/-- `UUID().uuidString` is a text that nothing carries yet. -/
def Fresh (tunnel : Tunnel) (runtimeID : String) : Prop :=
  tunnel.collector.runtimeID ≠ runtimeID ∧
    (∀ probe ∈ tunnel.probes, probe.runtime ≠ runtimeID) ∧
    (∀ expiry ∈ tunnel.expiries, expiry.runtime ≠ runtimeID) ∧
    ∀ pair ∈ tunnel.stored.hosts.pairs, pair.2.networkID ≠ runtimeID

instance (tunnel : Tunnel) (runtimeID : String) : Decidable (Fresh tunnel runtimeID) :=
  inferInstanceAs (Decidable (_ ∧ _))

/-- The tunnel starts the collector when the last engine has ended or the collector is stopped,
the callback of the engine has the exact name of a host, and work is done once it is due. -/
def next (tunnel : Tunnel) : Action → Option Tunnel
  | .start exactHostDirect labScopedDirect qaDirectTTLSeconds runtimeID =>
      if (tunnel.armed = none ∨ tunnel.collector.enabled = false) ∧ Fresh tunnel runtimeID then
        some (tunnel.start exactHostDirect labScopedDirect qaDirectTTLSeconds runtimeID)
      else none
  | .stop => some (tunnel.stop environment)
  | .beginRuntime => some { tunnel with armed := some ∅ }
  | .endRuntime => some { tunnel with armed := none }
  | .accept name id event =>
      (validateExactHost environment.hosts name).map fun host =>
        tunnel.accept environment host id event
  | .revokeAllDirect runtimeID =>
      if Fresh tunnel runtimeID then some (tunnel.revokeAllDirect environment runtimeID) else none
  | .probed probe first second firstAt secondAt =>
      if probe ∈ tunnel.probes then
        some (tunnel.probed environment probe first second firstAt secondAt)
      else none
  | .expire expiry =>
      if expiry ∈ tunnel.expiries ∧ expiry.deadline ≤ tunnel.uptime then
        some (tunnel.expire environment expiry)
      else none
  | .wait uptime date =>
      if tunnel.uptime ≤ uptime then some { tunnel with uptime := uptime, date := date } else none

/-- The runs from any evidence that an earlier process has stored. -/
def machine : Machine Tunnel Action Observed where
  initial tunnel := ∃ stored date uptime,
    tunnel = { stored := stored, date := date, uptime := uptime }
  next := next environment
  event tunnel action := some { action := action, date := tunnel.date }

variable {environment : Environment} {tunnel : Tunnel} {events : List Observed} {host : String}

theorem validateExactHost_self {hosts : Engine.Hosts} {input name : String}
    (accepted : validateExactHost hosts input = some name) :
    validateExactHost hosts name = some name := by
  have form : exactForm input = name := by
    unfold validateExactHost at accepted
    dsimp only at accepted
    split_ifs at accepted
    exact Option.some.inj accepted
  have last := Engine.getLast?_exactForm input
  rw [form] at last
  have kept : name.toList.rdropWhile (fun char => decide (char = '.')) = name.toList := by
    rw [List.rdropWhile_eq_self_iff]
    intro nonempty point
    exact last (List.getLast?_eq_some_getLast nonempty ▸ congrArg some (of_decide_eq_true point))
  have lower : name.toList.map Char.toLower = name.toList := by
    rw [← form, exactForm, String.toList_ofList, List.map_map]
    apply List.map_congr_left
    intro char _
    exact Char.toLower_toLower_eq_toLower char
  have same : (name.toList.rdropWhile fun char => decide (char = '.')).map Char.toLower =
      (input.toList.rdropWhile fun char => decide (char = '.')).map Char.toLower := by
    rw [kept, lower, ← form, exactForm, String.toList_ofList]
  unfold validateExactHost at accepted ⊢
  rw [same]
  exact accepted

theorem disarm_eq (named : validateExactHost environment.hosts host = some host)
    (armed : Option (Finset String)) :
    disarm environment armed host = armed.map fun approved => approved.erase host := by
  unfold disarm setDirectExactHost
  rw [named]
  cases armed with
  | none => rfl
  | some approved => simp

theorem disarmAll_eq {hosts : Finset String}
    (named : ∀ host ∈ hosts, validateExactHost environment.hosts host = some host)
    (armed : Option (Finset String)) :
    disarmAll environment armed hosts = armed.map fun approved => approved \ hosts := by
  have each : ∀ (list : List String) (armed : Option (Finset String)),
      (∀ host ∈ list, validateExactHost environment.hosts host = some host) →
        list.foldl (disarm environment) armed =
          armed.map fun approved => approved \ list.toFinset := by
    intro list
    induction list with
    | nil => intro armed _; cases armed <;> simp
    | cons host list ih =>
        intro armed named
        rw [List.foldl_cons, ih _ fun other there => named other (List.mem_cons_of_mem _ there),
          disarm_eq (named host List.mem_cons_self), Option.map_map]
        congr 1
        funext approved
        rw [Function.comp_apply, List.toFinset_cons, Finset.sdiff_insert,
          Finset.erase_sdiff_comm]
  rw [disarmAll, ← Finset.coe_toList hosts, Multiset.coe_foldl, each _ _ fun host there =>
    named host (Finset.mem_toList.mp there), Finset.toList_toFinset]

theorem setDirectExactHost_eq_zero {armed : Option (Finset String)}
    (named : validateExactHost environment.hosts host = some host)
    (applied : (setDirectExactHost environment.hosts armed host true).1 = 0) :
    ∃ approved, armed = some approved ∧ (approved.card < 12 ∨ host ∈ approved) ∧
      (setDirectExactHost environment.hosts armed host true).2 =
        some (insert host approved) := by
  unfold setDirectExactHost at applied ⊢
  rw [named] at applied ⊢
  cases armed with
  | none => exact absurd applied (by simp)
  | some approved =>
      simp only [true_and, if_true] at applied ⊢
      split_ifs at applied ⊢ with full
      · exact absurd applied (by simp)
      · refine ⟨approved, rfl, ?_, rfl⟩
        by_cases room : approved.card < 12
        · exact .inl room
        · by_contra other
          rw [or_iff_right room] at other
          exact full ⟨not_lt.mp room, other⟩

end ProxyLauncher.IOS.SmartFlowEventCollector
