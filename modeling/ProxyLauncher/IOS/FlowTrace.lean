import ProxyLauncher.Transition.Machine

/-!
# The trace of original flows

`Smart4OriginalFlowTrace` compresses the events of each flow of the engine into a set of numbers
and a mark for contradictions.  Times are integers.  The calls that name a laboratory host, a flow
and a known event are observed as events of the machine, so that the history of a flow can be
compared with what is left of it.
-/

namespace ProxyLauncher.IOS.FlowTrace

open Transition

inductive LabAlias where
  | primary
  | sharedIPNeighbor
  | ipv6Neighbor
  | syntheticOrigin
deriving DecidableEq

/-- `LabAlias.init?(host:)`. -/
def LabAlias.ofHost : String → Option LabAlias
  | "www.apple.com" => some .primary
  | "www.apple.com.cn" => some .sharedIPNeighbor
  | "ipv6.l.google.com" => some .ipv6Neighbor
  | "start.qa-example.test" => some .syntheticOrigin
  | _ => none

def maxFlows : ℕ := 32

/-- Sixty seconds, in the unit of the clock. -/
def lifetime : ℤ := 60000

/-- The arguments of `record`. -/
structure Call where
  host : String
  connectionID : UInt64
  event : ℤ
  now : ℤ
deriving DecidableEq

/-- The alias of a call that is not ignored. -/
def Call.accepted (call : Call) : Option LabAlias :=
  if call.connectionID ≠ 0 ∧ 0 ≤ call.event ∧ call.event ≤ 11 then LabAlias.ofHost call.host
  else none

structure Entry where
  labAlias : LabAlias
  started : ℤ
  last : ℤ
  events : Finset ℤ
  conflicted : Bool

namespace Entry

variable (entry : Entry)

def originalRecoveredWithPayload : Bool :=
  !entry.conflicted && decide (7 ∈ entry.events) && decide (8 ∈ entry.events) &&
    decide (9 ∈ entry.events) && decide (10 ∈ entry.events) != decide (11 ∈ entry.events) &&
    !decide (0 ∈ entry.events) && !decide (5 ∈ entry.events)

def proxyHandshake : Bool :=
  !entry.conflicted && decide (0 ∈ entry.events) && !decide (7 ∈ entry.events) &&
    !decide (6 ∈ entry.events) && !decide (8 ∈ entry.events) && !decide (9 ∈ entry.events)

/-- The entry of a flow that is not known yet. -/
def opened (labAlias : LabAlias) (event now : ℤ) : Entry where
  labAlias
  started := now
  last := now
  events := {event}
  conflicted := event = 7 || event = 8 || event = 9

/-- The entry of a known flow after another event. -/
def noted (labAlias : LabAlias) (event now : ℤ) : Entry :=
  let strayed := labAlias ≠ entry.labAlias || now < entry.last ||
    now > entry.started + lifetime
  let repeated := event ∈ ({6, 7, 8, 9, 10, 11} : Finset ℤ) && event ∈ entry.events
  let early := (event = 8 || event = 9) && 7 ∉ entry.events
  let events := insert event entry.events
  let torn := 10 ∈ events && 11 ∈ events
  { entry with
    conflicted := entry.conflicted || strayed || repeated || early || torn
    events
    last := max entry.last now }

end Entry

/-- `Smart4OriginalFlowTrace`. -/
structure Trace where
  flows : AList fun _ : UInt64 => Entry := ∅
  overflowed : Bool := false

structure Summary where
  observedFlows : ℕ
  proxyHandshakeAccepted : ℕ
  originalDirectPayload : ℕ
  conflicted : ℕ
  inconclusive : ℤ
  overflowed : Bool
deriving DecidableEq

namespace Trace

variable (trace : Trace)

def expire (now : ℤ) : Trace :=
  { trace with
    flows :=
      { entries := trace.flows.entries.filter fun flow => now - flow.2.started ≤ lifetime
        nodupKeys := trace.flows.nodupKeys.sublist List.filter_sublist } }

/-- `record`, after its first guard. -/
def enter (call : Call) (labAlias : LabAlias) : Trace :=
  match trace.flows.lookup call.connectionID with
  | some entry =>
      { trace with
        flows := trace.flows.insert call.connectionID
          (entry.noted labAlias call.event call.now) }
  | none =>
      if trace.flows.entries.length < maxFlows then
        { trace with
          flows := trace.flows.insert call.connectionID
            (Entry.opened labAlias call.event call.now) }
      else { trace with overflowed := true }

def record (call : Call) : Trace :=
  match call.accepted with
  | some labAlias => (trace.expire call.now).enter call labAlias
  | none => trace

/-- The flows that a summary is about. -/
def active (now : ℤ) : List ((_ : UInt64) × Entry) :=
  trace.flows.entries.filter fun flow =>
    now ≥ flow.2.last && now - flow.2.started ≤ lifetime

def summary (now : ℤ) : Summary :=
  let active := trace.active now
  let proxy := active.countP fun flow => flow.2.proxyHandshake
  let direct := active.countP fun flow => flow.2.originalRecoveredWithPayload
  let conflicts := active.countP fun flow => flow.2.conflicted
  { observedFlows := active.length
    proxyHandshakeAccepted := proxy
    originalDirectPayload := direct
    conflicted := conflicts
    inconclusive := active.length - proxy - direct - conflicts
    overflowed := trace.overflowed }

end Trace

/-- Any sequence of calls of `record`. -/
def flowTrace : Machine Trace Call Call where
  initial trace := trace = {}
  next trace call := some (trace.record call)
  event _ call := call.accepted.map fun _ => call

/-- What has been recorded of one flow. -/
def history (calls : List Call) (connectionID : UInt64) : List Call :=
  calls.filter fun call => call.connectionID = connectionID

/-- If the flow was heard of before, it still has its entry when it is heard of again. -/
def Kept (connectionID : UInt64) (calls : List Call) (trace : Trace) (call : Call) : Prop :=
  call.connectionID = connectionID → history calls connectionID ≠ [] →
    connectionID ∈ (trace.expire call.now).flows

end ProxyLauncher.IOS.FlowTrace
