import ProxyLauncher.Transition.Machine

/-!
# The threads of a routing session

While a session is active, one thread follows the socket events of the local proxy and
another handles the loopback packets that go to the proxy or come from the direct listener.
They share the table of port decisions and the stop flag.  Every region under the mutex and
every access to the flag is one action.
-/

namespace ProxyLauncher.WinDivert

open Transition

inductive PortDecision where
  | proxy
  | direct
deriving DecidableEq, Repr

/-- A TCP connection to the proxy, and the process that opened it. -/
structure Connection where
  id : Nat
  ipv6 : Bool
  localPort : UInt16
  process : UInt32
deriving DecidableEq

inductive SocketEventKind where
  | connect
  | close
deriving DecidableEq

/-- What the socket handle delivers. -/
structure SocketEvent where
  connection : Connection
  kind : SocketEventKind
  tcp : Bool := true
  remotePort : UInt16
deriving DecidableEq

structure TcpHeader where
  srcPort : UInt16
  dstPort : UInt16
deriving DecidableEq

/-- What the network handle delivers; the header is what `WinDivertHelperParsePacket` finds.
The connection is the one the packet belongs to, and the threads do not see it. -/
structure Packet where
  connection : Connection
  ipv6 : Bool
  tcp : Option TcpHeader
deriving DecidableEq

/-- The fields that `Apply` sets and that do not change while the threads run.
`processPathHash` is what the system answers about a process. -/
structure Plan where
  proxyPort : UInt16
  directPort : UInt16
  applicationHashes : List String
  processPathHash : UInt32 → Option String

/-- `PortKey`. -/
def portKey (ipv6 : Bool) (port : UInt16) : UInt32 :=
  (if ipv6 then 0x10000 else 0) ||| port.toUInt32

def Connection.key (connection : Connection) : UInt32 :=
  portKey connection.ipv6 connection.localPort

/-- `ProcessPathMatches`. -/
def Plan.processPathMatches (plan : Plan) (process : UInt32) : Bool :=
  match plan.processPathHash process with
  | some hash => decide (hash ∈ plan.applicationHashes)
  | none => false

/-- The decision for the connections of a process. -/
def Plan.decisionFor (plan : Plan) (process : UInt32) : PortDecision :=
  if plan.processPathMatches process then .direct else .proxy

/-- Where `SocketLoop` is. -/
inductive SocketLoop where
  | checking
  | receiving
  | failed
  | handling (event : SocketEvent)
  | finished
deriving DecidableEq

/-- Where `NetworkLoop` is. -/
inductive NetworkLoop where
  | checking
  | receiving
  | failed
  | waiting (packet : Packet) (header : TcpHeader)
  | givingUp (packet : Packet) (header : TcpHeader)
  | looking (packet : Packet) (header : TcpHeader)
  | sending (packet : Packet)
  | finished
deriving DecidableEq

structure Session where
  portDecisions : UInt32 → Option PortDecision := fun _ => none
  stop : Bool := false
  socket : SocketLoop := .checking
  network : NetworkLoop := .checking

namespace Session

def setPort (session : Session) (key : UInt32) (decision : Option PortDecision) : Session :=
  { session with portDecisions := Function.update session.portDecisions key decision }

/-- `port_decisions_.try_emplace`. -/
def tryEmplace (session : Session) (key : UInt32) (decision : PortDecision) : Session :=
  session.setPort key (some ((session.portDecisions key).getD decision))

/-- `IsDirectPort`. -/
def isDirectPort (session : Session) (ipv6 : Bool) (port : UInt16) : Bool :=
  session.portDecisions (portKey ipv6 port) = some .direct

/-- The predicate that `WaitForPortDecision` waits for. -/
def ready (session : Session) (ipv6 : Bool) (port : UInt16) : Bool :=
  session.stop || (session.portDecisions (portKey ipv6 port)).isSome

end Session

/-- The tests of `SocketLoop` on what it received. -/
def Plan.ignores (plan : Plan) (event : SocketEvent) : Bool :=
  !event.tcp || event.remotePort != plan.proxyPort || event.connection.localPort == 0

/-- Where `NetworkLoop` goes with a packet. -/
def Plan.dispatch (plan : Plan) (packet : Packet) : NetworkLoop :=
  match packet.tcp with
  | none => .sending packet
  | some header =>
      if header.dstPort = plan.proxyPort then .waiting packet header
      else if header.srcPort = plan.directPort then .looking packet header
      else .sending packet

/-- A packet with its destination rewritten for the decision. -/
def Plan.forward (plan : Plan) (packet : Packet) (header : TcpHeader) : PortDecision → Packet
  | .proxy => packet
  | .direct => { packet with tcp := some { header with dstPort := plan.directPort } }

/-- A packet of the direct listener, with its source rewritten if its port is direct. -/
def Plan.reverse (plan : Plan) (packet : Packet) (header : TcpHeader) (direct : Bool) : Packet :=
  if direct then { packet with tcp := some { header with srcPort := plan.proxyPort } } else packet

inductive Action where
  | socketCheck
  | socketReceive (event : SocketEvent)
  | socketReceiveFailed
  | socketFailedCheck
  | socketHandle
  | networkCheck
  | networkReceive (packet : Packet)
  | networkReceiveFailed
  | networkFailedCheck
  | wait
  | timeOut
  | commit
  | look
  | send
  | requestStop
deriving DecidableEq

/-- `SocketLoop` after an event that it does not ignore: `ClassifyPort` or
`RemovePortDecision`. -/
def Plan.handle (plan : Plan) (session : Session) (event : SocketEvent) : Session :=
  match event.kind with
  | .connect =>
      session.tryEmplace event.connection.key (plan.decisionFor event.connection.process)
  | .close => session.setPort event.connection.key none

/-- One action of one of the threads, or the request to stop. -/
def Plan.next (plan : Plan) (session : Session) (action : Action) : Option Session :=
  match action, session.socket, session.network with
  | .socketCheck, .checking, _ =>
      some { session with socket := if session.stop then .finished else .receiving }
  | .socketReceive event, .receiving, _ =>
      some { session with socket := if plan.ignores event then .checking else .handling event }
  | .socketReceiveFailed, .receiving, _ => some { session with socket := .failed }
  | .socketFailedCheck, .failed, _ =>
      some { session with socket := if session.stop then .finished else .checking }
  | .socketHandle, .handling event, _ =>
      some { plan.handle session event with socket := .checking }
  | .networkCheck, _, .checking =>
      some { session with network := if session.stop then .finished else .receiving }
  | .networkReceive packet, _, .receiving =>
      some { session with network := plan.dispatch packet }
  | .networkReceiveFailed, _, .receiving => some { session with network := .failed }
  | .networkFailedCheck, _, .failed =>
      some { session with network := if session.stop then .finished else .checking }
  | .wait, _, .waiting packet header =>
      -- The flag is read again after the wait: a decision does not count during a stop.
      if session.stop then some { session with network := .givingUp packet header }
      else
        (session.portDecisions (portKey packet.ipv6 header.srcPort)).map fun decision =>
          { session with network := .sending (plan.forward packet header decision) }
  | .timeOut, _, .waiting packet header =>
      if session.ready packet.ipv6 header.srcPort then none
      else some { session with network := .givingUp packet header }
  | .commit, _, .givingUp packet header =>
      -- `CommitProxyIfUnknown`, and the packet goes to the proxy in any case.
      some { (session.tryEmplace (portKey packet.ipv6 header.srcPort) .proxy) with
        network := .sending (plan.forward packet header .proxy) }
  | .look, _, .looking packet header =>
      let direct := session.isDirectPort packet.ipv6 header.dstPort
      some { session with network := .sending (plan.reverse packet header direct) }
  | .send, _, .sending _ => some { session with network := .checking }
  | .requestStop, _, _ => some { session with stop := true }
  | _, _, _ => none

/-- What is observed of a session.  A packet is listed with the key of its port; `found` tells
whether its decision was in the table, or the wait was given up. -/
inductive Event where
  | handled (event : SocketEvent)
  | timedOut (packet : Packet) (key : UInt32)
  | forwarded (packet : Packet) (key : UInt32) (decision : PortDecision) (found : Bool)
  | returned (packet : Packet) (key : UInt32) (rewritten : Bool)
deriving DecidableEq

def observe (session : Session) (action : Action) : Option Event :=
  match action, session.socket, session.network with
  | .socketHandle, .handling event, _ => some (.handled event)
  | .wait, _, .waiting packet header =>
      if session.stop then none
      else
        (session.portDecisions (portKey packet.ipv6 header.srcPort)).map fun decision =>
          .forwarded packet (portKey packet.ipv6 header.srcPort) decision true
  | .timeOut, _, .waiting packet header =>
      some (.timedOut packet (portKey packet.ipv6 header.srcPort))
  | .commit, _, .givingUp packet header =>
      some (.forwarded packet (portKey packet.ipv6 header.srcPort) .proxy false)
  | .look, _, .looking packet header =>
      some (.returned packet (portKey packet.ipv6 header.dstPort)
        (session.isDirectPort packet.ipv6 header.dstPort))
  | _, _, _ => none

/-- A session from the start of its threads to the end of both. -/
def Plan.machine (plan : Plan) : Machine Session Action Event where
  initial session := session = {}
  next := plan.next
  event := observe

variable {plan : Plan} {session session' : Session} {action : Action}

/-- The changes of the table, with what is observed of them. -/
inductive Effect (plan : Plan) (session : Session) (action : Action) (session' : Session) :
    Option Event → Prop where
  | silent (table : session'.portDecisions = session.portDecisions) :
      Effect plan session action session' none
  | handled {event : SocketEvent} (handling : session.socket = .handling event)
      (acted : action = .socketHandle)
      (table : session'.portDecisions = (plan.handle session event).portDecisions) :
      Effect plan session action session' (some (.handled event))
  | timedOut {packet : Packet} {header : TcpHeader}
      (waiting : session.network = .waiting packet header) (acted : action = .timeOut)
      (missing : session.portDecisions (portKey packet.ipv6 header.srcPort) = none)
      (table : session'.portDecisions = session.portDecisions) :
      Effect plan session action session'
        (some (.timedOut packet (portKey packet.ipv6 header.srcPort)))
  | found {packet : Packet} {header : TcpHeader} {decision : PortDecision}
      (waiting : session.network = .waiting packet header) (acted : action = .wait)
      (present : session.portDecisions (portKey packet.ipv6 header.srcPort) = some decision)
      (table : session'.portDecisions = session.portDecisions) :
      Effect plan session action session'
        (some (.forwarded packet (portKey packet.ipv6 header.srcPort) decision true))
  | committed {packet : Packet} {header : TcpHeader}
      (givingUp : session.network = .givingUp packet header) (acted : action = .commit)
      (table : session'.portDecisions =
        (session.tryEmplace (portKey packet.ipv6 header.srcPort) .proxy).portDecisions) :
      Effect plan session action session'
        (some (.forwarded packet (portKey packet.ipv6 header.srcPort) .proxy false))
  | looked {packet : Packet} {header : TcpHeader}
      (looking : session.network = .looking packet header) (acted : action = .look)
      (table : session'.portDecisions = session.portDecisions) :
      Effect plan session action session'
        (some (.returned packet (portKey packet.ipv6 header.dstPort)
          (session.isDirectPort packet.ipv6 header.dstPort)))

/-- Every action has one of these effects. -/
theorem next_effect (next : plan.next session action = some session') :
    Effect plan session action session' (observe session action) := by
  unfold Plan.next at next
  split at next
  case h_5 handling =>
      obtain rfl := Option.some.inj next
      simp only [observe, handling]
      exact .handled handling rfl rfl
  case h_10 packet header waiting =>
      simp only [observe, waiting]
      split at next
      · rename_i stopping
        obtain rfl := Option.some.inj next
        simp only [stopping, if_true]
        exact .silent rfl
      · rename_i running
        obtain ⟨decision, present, rfl⟩ := Option.map_eq_some_iff.mp next
        simp only [running, present]
        exact .found waiting rfl present rfl
  case h_11 packet header waiting =>
      simp only [observe, waiting]
      split at next
      · exact absurd next.symm (Option.some_ne_none _)
      · rename_i unready
        obtain rfl := Option.some.inj next
        have missing : session.portDecisions (portKey packet.ipv6 header.srcPort) = none := by
          simp [Session.ready] at unready
          exact unready.2
        exact .timedOut waiting rfl missing rfl
  case h_12 packet header givingUp =>
      obtain rfl := Option.some.inj next
      simp only [observe, givingUp]
      exact .committed givingUp rfl rfl
  case h_13 packet header looking =>
      obtain rfl := Option.some.inj next
      simp only [observe, looking]
      exact .looked looking rfl rfl
  case h_16 => exact absurd next.symm (Option.some_ne_none _)
  all_goals
    obtain rfl := Option.some.inj next
    exact .silent rfl

end ProxyLauncher.WinDivert
