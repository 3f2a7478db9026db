import Mathlib.Data.List.DropRight
import ProxyLauncher.Engine.FirstRecord

/-!
# The TCP sessions of the engine

`handle_tcp_session` with the patches of the repository: the events of a flow, and the payload
that goes to the servers and to the client.
-/

namespace ProxyLauncher.Engine

/-- What decides on the names of hosts: the parser of addresses, the names that are approved when
a flow starts and those that are armed within five seconds of a failed handshake. -/
structure Hosts where
  isIpAddress : String → Bool
  approved : String → Bool
  armed : String → Bool

def isLabel (label : List Char) : Bool :=
  label ≠ [] && label.length ≤ 63 && label.head? ≠ some '-' && label.getLast? ≠ some '-' &&
    label.all fun char => char.isLower || char.isDigit || char == '-'

/-- `validate_exact_host`. -/
def validateExactHost (hosts : Hosts) (input : String) : Option String :=
  let chars := (input.toList.rdropWhile fun char => char = '.').map Char.toLower
  let name := String.ofList chars
  if 253 < name.utf8ByteSize ∨ chars = [] ∨ ¬ chars.all (fun char => char.toNat < 128) ∨
      hosts.isIpAddress name ∨ '.' ∉ chars then none
  else if (chars.splitOn '.').all isLabel then some name
  else none

/-- `FlowRoutingPolicy::for_new_flow`; the destination is a synthetic address or not. -/
def forNewFlow (hosts : Hosts) (synthetic : Bool) (domainName : Option String) : Bool :=
  synthetic && match domainName.bind (validateExactHost hosts) with
    | some host => hosts.approved host
    | none => false

inductive Family where
  | ipv4
  | ipv6
deriving DecidableEq

/-- A physical connection and the family of its peer, unless `peer_addr` fails. -/
structure Server extends Socket where
  family : Option Family

/-- The failures of the handshake with the upstream proxy. -/
inductive Failure where
  | timedOut
  | refused
  | other
deriving DecidableEq

/-- `failure_kind`, and the event of a handshake that is given up. -/
def Failure.kind : Failure → ℕ
  | .timedOut => 1
  | .refused => 2
  | .other => 3

/-- A flow: its name and destination, what the connections of the engine come to, and the turns of
the relay. -/
structure Flow where
  domainName : Option String
  synthetic : Bool
  port : ℕ
  labDirect : Bool
  client : Socket
  upstream : Option Socket
  handshake : Except Failure Unit
  physical : Option Server
  cellular : Option Socket
  turns : List (Direction × ℕ)

/-- How a session ends: early, with what the client has received, or with the relay. -/
inductive Fate where
  | ended (toClient : Bytes)
  | relayed (route : Route) (relay : Relay)

structure Outcome where
  events : List ℕ
  fate : Fate

def Outcome.after (outcome : Outcome) (events : List ℕ) : Outcome :=
  { outcome with events := events ++ outcome.events }

variable (hosts : Hosts) (flow : Flow)

/-- `flow_events::emit`. -/
def Flow.emit (event : ℕ) : List ℕ :=
  if (flow.domainName.bind (validateExactHost hosts)).isSome then [event] else []

/-- The name of a flow that goes over a physical connection from the start. -/
def Flow.directHost : Option String :=
  if flow.labDirect && forNewFlow hosts flow.synthetic flow.domainName then flow.domainName
  else none

def Flow.emitFamily (server : Server) : List ℕ :=
  match server.family with
  | some .ipv4 => flow.emit hosts 10
  | some .ipv6 => flow.emit hosts 11
  | none => []

/-- The event of the first payload in a direction. -/
def Direction.event : Direction → ℕ
  | .sending => 8
  | .receiving => 9

/-- The relay of a session. -/
def Flow.relayed (usesDirect : Bool) (route : Route) (relay : Relay) : Outcome :=
  let done := relay.run flow.turns
  { events :=
      if flow.labDirect && usesDirect then
        done.2.flatMap fun direction => flow.emit hosts direction.event
      else []
    fate := .relayed route done.1 }

/-- The rest of a session over a physical connection. -/
def Flow.directSession (server : Server) : Outcome :=
  if server.family = some .ipv6 then
    if flow.domainName.isSome ∧ flow.port = 443 then
      match exchangeFirstRecords flow.client server.toSocket flow.cellular with
      | .error toClient => ⟨flow.emit hosts 5, .ended toClient⟩
      | .ok (route, relay) =>
          (flow.relayed hosts true route relay).after
            (if flow.labDirect then flow.emit hosts 8 ++ flow.emit hosts 9 else [])
    else ⟨[], .ended []⟩
  else flow.relayed hosts true .physical (Relay.between flow.client server.toSocket)

/-- `recover_after_proxy_failure`: a connection, no approval, or an error. -/
inductive Recovery where
  | recovered (server : Server)
  | unarmed
  | failed

def Flow.recoverAfterProxyFailure (host : String) : Recovery :=
  match validateExactHost hosts host with
  | none => .failed
  | some normalized =>
      if hosts.armed normalized then
        match flow.physical with
        | some server => .recovered server
        | none => .failed
      else .unarmed

/-- A session after its handshake has failed. -/
def Flow.recover : Outcome :=
  match flow.domainName.filter fun _ => flow.labDirect with
  | none => ⟨[], .ended []⟩
  | some host =>
      match flow.recoverAfterProxyFailure hosts host with
      | .recovered server =>
          (flow.directSession hosts server).after
            (flow.emitFamily hosts server ++ flow.emit hosts 7)
      | .unarmed => ⟨[], .ended []⟩
      | .failed => ⟨flow.emit hosts 5, .ended []⟩

/-- `handle_tcp_session`. -/
def handleTcpSession : Outcome :=
  match flow.directHost hosts with
  | some _ =>
      match flow.physical with
      | none => ⟨flow.emit hosts 5, .ended []⟩
      | some server =>
          (flow.directSession hosts server).after
            (flow.emitFamily hosts server ++ flow.emit hosts 6)
  | none =>
      match flow.upstream with
      | none => ⟨flow.emit hosts 4, .ended []⟩
      | some upstream =>
          match flow.handshake with
          | .ok () =>
              (flow.relayed hosts false .proxy (Relay.between flow.client upstream)).after
                (flow.emit hosts 0)
          | .error failure => (flow.recover hosts).after (flow.emit hosts failure.kind)

/-- The session goes over this physical connection, after these events. -/
inductive Flow.Uses : Server → List ℕ → Prop where
  | approved {server : Server} {name : String} (direct : flow.directHost hosts = some name)
      (connected : flow.physical = some server) :
      Uses server (flow.emitFamily hosts server ++ flow.emit hosts 6)
  | recovered {server : Server} {upstream : Socket} {failure : Failure} {name host : String}
      (proxied : flow.directHost hosts = none) (reached : flow.upstream = some upstream)
      (refused : flow.handshake = .error failure) (lab : flow.labDirect = true)
      (named : flow.domainName = some name) (valid : validateExactHost hosts name = some host)
      (armed : hosts.armed host = true) (connected : flow.physical = some server) :
      Uses server
        (flow.emit hosts failure.kind ++ (flow.emitFamily hosts server ++ flow.emit hosts 7))

variable {hosts : Hosts} {flow : Flow} {server : Server} {before : List ℕ}

theorem Flow.Uses.outcome (uses : flow.Uses hosts server before) :
    handleTcpSession hosts flow = (flow.directSession hosts server).after before := by
  cases uses with
  | approved direct connected => simp only [handleTcpSession, direct, connected]
  | recovered proxied reached refused lab named valid armed connected =>
      rename_i upstream failure name host
      have recovery : flow.recoverAfterProxyFailure hosts name = .recovered server := by
        simp only [Flow.recoverAfterProxyFailure, valid, armed, connected, if_true]
      simp only [handleTcpSession, proxied, reached, refused, Flow.recover, named, lab,
        Option.filter_some, if_true, recovery]
      simp [Outcome.after]

/-- Such a session is a laboratory one of a valid name. -/
theorem Flow.Uses.reports (uses : flow.Uses hosts server before) :
    flow.labDirect = true ∧ ∀ event, flow.emit hosts event = [event] := by
  cases uses with
  | approved direct connected =>
      unfold Flow.directHost at direct
      split at direct
      · rename_i approved
        rw [Bool.and_eq_true] at approved
        refine ⟨approved.1, fun event => ?_⟩
        have known := approved.2
        rw [forNewFlow, Bool.and_eq_true] at known
        unfold Flow.emit
        split at known
        · rename_i host valid
          rw [valid]
          rfl
        · exact absurd known.2 Bool.false_ne_true
      · cases direct
  | recovered proxied reached refused lab named valid armed connected =>
      refine ⟨lab, fun event => ?_⟩
      rw [Flow.emit, named, Option.bind_some, valid]
      rfl

@[simp] theorem Outcome.after_fate (outcome : Outcome) (events : List ℕ) :
    (outcome.after events).fate = outcome.fate := rfl

@[simp] theorem Outcome.after_events (outcome : Outcome) (events : List ℕ) :
    (outcome.after events).events = events ++ outcome.events := rfl

section Sessions

variable (ipv6 : server.family = some .ipv6)
  (named : flow.domainName.isSome = true ∧ flow.port = 443)
include ipv6

theorem directSession_unnamed (unnamed : ¬ (flow.domainName.isSome = true ∧ flow.port = 443)) :
    flow.directSession hosts server = ⟨[], .ended []⟩ := by
  rw [Flow.directSession, if_pos ipv6, if_neg unnamed]

include named

theorem directSession_of_error {toClient : Bytes}
    (exchanged : exchangeFirstRecords flow.client server.toSocket flow.cellular =
      .error toClient) :
    flow.directSession hosts server = ⟨flow.emit hosts 5, .ended toClient⟩ := by
  simp only [Flow.directSession, if_pos ipv6, if_pos named, exchanged]

theorem directSession_of_ok {route : Route} {relay : Relay}
    (exchanged : exchangeFirstRecords flow.client server.toSocket flow.cellular =
      .ok (route, relay)) :
    flow.directSession hosts server =
      (flow.relayed hosts true route relay).after
        (if flow.labDirect then flow.emit hosts 8 ++ flow.emit hosts 9 else []) := by
  simp only [Flow.directSession, if_pos ipv6, if_pos named, exchanged]

end Sessions

/-- An IPv6 session that goes on after the exchange delivers the bytes of the client to the chosen
server and those of that server to the client.  One that does not has delivered nothing to the
client, but for a part of the verified record when the connection of the client fails under it. -/
theorem first_record_replay (uses : flow.Uses hosts server before)
    (ipv6 : server.family = some .ipv6) :
    (∀ route relay, (handleTcpSession hosts flow).fate = .relayed route relay →
      ∃ chosen, route.IsServer server.toSocket flow.cellular chosen ∧
        relay.sending.Intact flow.client.sent ∧ relay.receiving.Intact chosen.sent) ∧
    ∀ toClient, (handleTcpSession hosts flow).fate = .ended toClient →
      toClient = [] ∨ ∃ route chosen hello record rest,
        Route.IsServer route server.toSocket flow.cellular chosen ∧
        verifyIpv6TlsFirstRecord chosen hello = some (record, rest) ∧
        takes flow.client.room record = false ∧ toClient <+: record := by
  rw [uses.outcome, Outcome.after_fate]
  by_cases named : flow.domainName.isSome = true ∧ flow.port = 443
  · cases exchanged : exchangeFirstRecords flow.client server.toSocket flow.cellular with
    | error received =>
        rw [directSession_of_error ipv6 named exchanged]
        constructor
        · intro route relay relayed
          cases relayed
        · intro toClient ended
          obtain rfl := Fate.ended.inj ended
          exact exchangeFirstRecords_error exchanged
    | ok exchange =>
        obtain ⟨route, relay⟩ := exchange
        rw [directSession_of_ok ipv6 named exchanged, Outcome.after_fate]
        constructor
        · intro route' relay' relayed
          obtain ⟨rfl, rfl⟩ := Fate.relayed.inj relayed
          obtain ⟨chosen, isServer, sending, receiving⟩ := exchangeFirstRecords_ok exchanged
          exact ⟨chosen, isServer, Relay.intact_run sending receiving flow.turns⟩
        · intro toClient ended
          cases ended
  · rw [directSession_unnamed ipv6 named]
    constructor
    · intro route relay relayed
      cases relayed
    · intro toClient ended
      exact .inl (Fate.ended.inj ended).symm

def sampleHosts : Hosts where
  isIpAddress _ := false
  approved _ := true
  armed _ := true

/-- A record with one byte. -/
def sampleRecord (byte : UInt8) : Bytes := [22, 3, 3, 0, 1, byte]

/-- The Wi-Fi connection is reset after the first record of the client. -/
def resetServer : Server where
  inTime := []
  later := []
  family := some .ipv6

/-- A flow that is approved, whose client takes some bytes and sends its record in two chunks. -/
def replayedFlow (room : Option ℕ) (turns : List (Direction × ℕ)) : Flow where
  domainName := some "a.test"
  synthetic := true
  port := 443
  labDirect := true
  client := { inTime := [[22, 3, 3], [0, 1, 7, 8]], later := [[9]], room }
  upstream := none
  handshake := .ok ()
  physical := some resetServer
  cellular := some { inTime := [sampleRecord 5 ++ [6]], later := [[4]] }
  turns

theorem replayedFlow_uses (room : Option ℕ) (turns : List (Direction × ℕ)) :
    (replayedFlow room turns).Uses sampleHosts resetServer
      ((replayedFlow room turns).emitFamily sampleHosts resetServer ++
        (replayedFlow room turns).emit sampleHosts 6) := by
  have approved : forNewFlow sampleHosts true (some "a.test") = true := by decide
  have direct : (replayedFlow room turns).directHost sampleHosts = some "a.test" := by
    simp only [Flow.directHost, replayedFlow, approved, Bool.and_self, if_true]
  exact .approved direct rfl

theorem replayedFlow_exchange (turns : List (Direction × ℕ)) :
    exchangeFirstRecords (replayedFlow none turns).client resetServer.toSocket
        (replayedFlow none turns).cellular =
      .ok (.cellular,
        { sending := { left := [8, 9], room := none, written := sampleRecord 7 }
          receiving := { left := [6, 4], room := none, written := sampleRecord 5 } }) :=
  rfl

/-- The exchange is repeated over cellular, and the relay passes on what is left. -/
theorem first_record_replay_sample : ∃ relay : Relay,
    (handleTcpSession sampleHosts (replayedFlow none [(.sending, 5), (.receiving, 5)])).fate =
      .relayed .cellular relay ∧
    relay.sending.written = sampleRecord 7 ++ [8, 9] ∧
    relay.receiving.written = sampleRecord 5 ++ [6, 4] ∧
    ∃ chosen, Route.IsServer .cellular resetServer.toSocket
        (some { inTime := [sampleRecord 5 ++ [6]], later := [[4]] }) chosen ∧
      relay.sending.Intact (sampleRecord 7 ++ [8, 9]) ∧ relay.receiving.Intact chosen.sent := by
  have uses := replayedFlow_uses none [(.sending, 5), (.receiving, 5)]
  have exchanged := replayedFlow_exchange [(.sending, 5), (.receiving, 5)]
  have fate := uses.outcome
  rw [directSession_of_ok rfl (by decide) exchanged] at fate
  exact ⟨_, congrArg Outcome.fate fate, rfl, rfl,
    (first_record_replay uses rfl).1 _ _ (congrArg Outcome.fate fate)⟩

/-- The client takes three bytes of the verified record before its connection fails. -/
theorem first_record_cut_short : ¬ ∀ (hosts : Hosts) (flow : Flow) (server : Server)
    (before : List ℕ), flow.Uses hosts server before → server.family = some .ipv6 →
      ∀ toClient, (handleTcpSession hosts flow).fate = .ended toClient → toClient = [] := by
  intro claimed
  have uses := replayedFlow_uses (some 3) []
  have exchanged : exchangeFirstRecords (replayedFlow (some 3) []).client resetServer.toSocket
      (replayedFlow (some 3) []).cellular = .error [22, 3, 3] := rfl
  have fate := uses.outcome
  rw [directSession_of_error rfl (by decide) exchanged] at fate
  have nothing := claimed _ _ _ _ uses rfl _ (congrArg Outcome.fate fate)
  cases nothing

end ProxyLauncher.Engine
