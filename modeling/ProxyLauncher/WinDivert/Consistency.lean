import ProxyLauncher.WinDivert.Session

/-!
# Mid-stream consistency

From its first packet until its end is handled, a connection keeps its destination.  The table
of port decisions holds that destination all the while, unless a wait is given up although the
port is direct, or the end of an earlier connection of the port removes the decision.
-/

namespace ProxyLauncher.WinDivert

open Transition

variable {plan : Plan} {session session' : Session} {action : Action} {events : List Event}
  {connection : Connection} {decision : PortDecision}

namespace Session

variable {key other : UInt32}

@[simp] theorem setPort_self (entry : Option PortDecision) :
    (session.setPort key entry).portDecisions key = entry :=
  Function.update_self ..

theorem setPort_of_ne (different : other ≠ key) (entry : Option PortDecision) :
    (session.setPort key entry).portDecisions other = session.portDecisions other :=
  Function.update_of_ne different ..

/-- The first write wins. -/
theorem tryEmplace_of_some (present : session.portDecisions other = some decision)
    (new : PortDecision) :
    (session.tryEmplace key new).portDecisions other = some decision := by
  by_cases same : other = key
  · subst same
    rw [tryEmplace, setPort_self, present, Option.getD_some]
  · rw [tryEmplace, setPort_of_ne same, present]

theorem tryEmplace_self (new : PortDecision) :
    (session.tryEmplace key new).portDecisions key =
      some ((session.portDecisions key).getD new) :=
  setPort_self ..

end Session

theorem portKey_inj {ipv6 ipv6' : Bool} {port port' : UInt16}
    (same : portKey ipv6 port = portKey ipv6' port') : ipv6 = ipv6' ∧ port = port' := by
  have value (ipv6 : Bool) (port : UInt16) :
      (portKey ipv6 port).toNat = 2 ^ 16 * ipv6.toNat + port.toNat := by
    rw [Nat.two_pow_add_eq_or_of_lt port.toNat_lt]
    cases ipv6 <;> simp [portKey]
  have equal := congrArg UInt32.toNat same
  rw [value, value] at equal
  have bound := port.toNat_lt
  have bound' := port'.toNat_lt
  have versions : ipv6.toNat = ipv6'.toNat := by omega
  constructor
  · cases ipv6 <;> cases ipv6' <;> simp_all
  · exact UInt16.toNat_inj.mp (by omega)

/-- The end of the connection has been handled. -/
def Ended (connection : Connection) (events : List Event) : Prop :=
  ∃ event, .handled event ∈ events ∧ event.connection = connection ∧ event.kind = .close

/-- A packet of the connection has had the decision, and its end has not been handled. -/
def Open (connection : Connection) (decision : PortDecision) (events : List Event) : Prop :=
  (∃ packet found, .forwarded packet connection.key decision found ∈ events ∧
    packet.connection = connection) ∧ ¬ Ended connection events

/-- No wait is given up for a port that is direct, and no end of a connection is handled while
another one is open on its port. -/
structure Undisturbed (events : List Event) (session : Session) (action : Action) : Prop where
  commit : ∀ packet header, action = .commit → session.network = .givingUp packet header →
    session.portDecisions (portKey packet.ipv6 header.srcPort) ≠ some .direct
  close : ∀ event, action = .socketHandle → session.socket = .handling event →
    event.kind = .close → ∀ connection decision, Open connection decision events →
      connection.ipv6 = event.connection.ipv6 →
      connection.localPort = event.connection.localPort → connection = event.connection

/-- The table holds the destinations of the open connections. -/
def Kept (events : List Event) (session : Session) : Prop :=
  ∀ connection decision, Open connection decision events →
    session.portDecisions connection.key = some decision

theorem Ended.append {more : List Event} (ended : Ended connection events) :
    Ended connection (events ++ more) := by
  obtain ⟨event, member, close⟩ := ended
  exact ⟨event, List.mem_append_left _ member, close⟩

/-- A connection that is open after an event was open before, or the event is its packet. -/
theorem Open.of_append {event : Event} (isOpen : Open connection decision (events ++ [event])) :
    Open connection decision events ∨
      ∃ packet found, event = .forwarded packet connection.key decision found ∧
        packet.connection = connection := by
  obtain ⟨⟨packet, found, member, own⟩, notEnded⟩ := isOpen
  rcases List.mem_append.mp member with earlier | last
  · exact .inl ⟨⟨packet, found, earlier, own⟩, fun ended => notEnded ended.append⟩
  · exact .inr ⟨packet, found, (List.mem_singleton.mp last).symm, own⟩

theorem kept_start : Kept [] {} := by
  intro connection decision isOpen
  obtain ⟨⟨packet, found, member, own⟩, notEnded⟩ := isOpen
  exact absurd member List.not_mem_nil

/-- Handling a socket event keeps the decision of an open connection. -/
theorem kept_handle {event : SocketEvent} (kept : Kept events session)
    (permitted : event.kind = .close → ∀ connection decision, Open connection decision events →
      connection.ipv6 = event.connection.ipv6 →
      connection.localPort = event.connection.localPort → connection = event.connection)
    (isOpen : Open connection decision (events ++ [.handled event])) :
    (plan.handle session event).portDecisions connection.key = some decision := by
  have openBefore : Open connection decision events := by
    rcases isOpen.of_append with openBefore | ⟨packet, found, impossible, own⟩
    · exact openBefore
    · exact absurd impossible (by simp)
  have present := kept connection decision openBefore
  cases kind : event.kind with
  | connect =>
      simp only [Plan.handle, kind]
      exact Session.tryEmplace_of_some present _
  | close =>
      simp only [Plan.handle, kind]
      have different : connection.key ≠ event.connection.key := by
        intro same
        obtain ⟨version, port⟩ := portKey_inj same
        have own := permitted kind connection decision openBefore version port
        exact isOpen.2 ⟨event, by simp, own.symm, kind⟩
      rw [Session.setPort_of_ne different, present]

theorem kept_step (kept : Kept events session) (permitted : Undisturbed events session action)
    (next : plan.next session action = some session') :
    Kept (events ++ (observe session action).toList) session' := by
  intro connection decision isOpen
  have effect := next_effect next
  generalize observe session action = observed at effect isOpen
  cases effect with
  | silent table =>
      rw [Option.toList_none, List.append_nil] at isOpen
      rw [table]
      exact kept connection decision isOpen
  | handled handling acted table =>
      rw [table]
      exact kept_handle kept (permitted.close _ acted handling) isOpen
  | timedOut waiting acted missing table =>
      rw [table]
      rcases isOpen.of_append with openBefore | ⟨packet, found, impossible, own⟩
      · exact kept connection decision openBefore
      · exact absurd impossible (by simp)
  | found waiting acted present table =>
      rw [table]
      rcases isOpen.of_append with openBefore | ⟨packet, found, same, own⟩
      · exact kept connection decision openBefore
      · obtain ⟨rfl, key, rfl, rfl⟩ := Event.forwarded.inj same
        rw [← key, present]
  | @committed packet header givingUp acted table =>
      rw [table]
      rcases isOpen.of_append with openBefore | ⟨own, found, same, _⟩
      · exact Session.tryEmplace_of_some (kept connection decision openBefore) _
      · -- The packet goes to the proxy, so the table must not say direct.
        obtain ⟨rfl, key, rfl, rfl⟩ := Event.forwarded.inj same
        have proxy := permitted.commit _ _ acted givingUp
        rw [← key, Session.tryEmplace_self]
        cases entry : session.portDecisions (portKey packet.ipv6 header.srcPort) with
        | none => rfl
        | some held =>
            cases held with
            | proxy => rfl
            | direct => exact absurd entry proxy
  | looked looking acted table =>
      rw [table]
      rcases isOpen.of_append with openBefore | ⟨packet, found, impossible, own⟩
      · exact kept connection decision openBefore
      · exact absurd impossible (by simp)

theorem kept_of_reaches (reaches : plan.machine.Reaches Undisturbed events session) :
    Kept events session := by
  refine reaches.invariant ?_ ?_
  · rintro _ rfl
    exact kept_start
  · intro events session action session' kept permitted next
    exact kept_step kept permitted next

/-- While a connection is open, a packet of its port has the decision of the connection. -/
theorem decision_of_open (kept : Kept events session)
    (permitted : Undisturbed events session action)
    (next : plan.next session action = some session') (isOpen : Open connection decision events)
    {packet : Packet} {decision' : PortDecision} {found : Bool}
    (observed : observe session action =
      some (.forwarded packet connection.key decision' found)) : decision' = decision := by
  have entry := kept connection decision isOpen
  have effect := next_effect next
  rw [observed] at effect
  generalize key : connection.key = port at effect entry
  cases effect with
  | found waiting acted present table => exact Option.some.inj (present.symm.trans entry)
  | committed givingUp acted table =>
      cases decision with
      | proxy => rfl
      | direct => exact absurd entry (permitted.commit _ _ acted givingUp)

theorem rewritten_of_open (kept : Kept events session)
    (next : plan.next session action = some session') (isOpen : Open connection decision events)
    {packet : Packet} {rewritten : Bool}
    (observed : observe session action = some (.returned packet connection.key rewritten)) :
    rewritten = true ↔ decision = .direct := by
  have entry := kept connection decision isOpen
  have effect := next_effect next
  rw [observed] at effect
  generalize key : connection.key = port at effect entry
  cases effect with
  | looked looking acted table => simp [Session.isDirectPort, entry]

/-- Each packet of the port of a connection, from the first packet of the connection to the
handling of its end, has the decision of the first packet, and a packet of the direct listener
is rewritten exactly if that decision is direct. -/
def Consistent (events : List Event) : Prop :=
  ∀ (connection : Connection) (packet : Packet) (decision : PortDecision) (found : Bool)
    (before middle after : List Event) (event : Event),
    events = before ++ .forwarded packet connection.key decision found :: middle ++
      event :: after →
    packet.connection = connection →
    ¬ Ended connection (before ++ .forwarded packet connection.key decision found :: middle) →
    (∀ other decision' found',
      event = .forwarded other connection.key decision' found' → decision' = decision) ∧
    (∀ other rewritten, event = .returned other connection.key rewritten →
      (rewritten = true ↔ decision = .direct))

/-- Every run is consistent in which no wait is given up for a direct port and no end of a
connection is handled while another one is open on its port. -/
theorem mid_stream_consistency (plan : Plan) {events : List Event} {session : Session}
    (reaches : plan.machine.Reaches Undisturbed events session) : Consistent events := by
  intro connection packet decision found before middle after event split own notEnded
  obtain ⟨session, action, session', earlier, permitted, next, observed⟩ :=
    reaches.at_event split
  have kept := kept_of_reaches earlier
  have isOpen : Open connection decision
      (before ++ .forwarded packet connection.key decision found :: middle) :=
    ⟨⟨packet, found, by simp, own⟩, notEnded⟩
  constructor
  · rintro other decision' found' rfl
    exact decision_of_open kept permitted next isOpen observed
  · rintro other rewritten rfl
    exact rewritten_of_open kept next isOpen observed

def samplePlan : Plan where
  proxyPort := 8080
  directPort := 9090
  applicationHashes := ["selected"]
  processPathHash process := if process = 7 then some "selected" else none

/-- A connection of a selected application. -/
def sampleConnection : Connection :=
  { id := 1, ipv6 := false, localPort := 50000, process := 7 }

def sampleConnect : SocketEvent :=
  { connection := sampleConnection, kind := .connect, remotePort := 8080 }

def samplePacket : Packet :=
  { connection := sampleConnection, ipv6 := false, tcp := some ⟨50000, 8080⟩ }

def sampleReply : Packet :=
  { connection := sampleConnection, ipv6 := false, tcp := some ⟨9090, 50000⟩ }

/-- The socket event is handled, and a packet is received. -/
def sampleOpening : List Action :=
  [.socketCheck, .socketReceive sampleConnect, .socketHandle, .networkCheck,
    .networkReceive samplePacket, .wait, .send, .networkCheck]

/-- The events of a packet and a reply. -/
def sampleEvents : List Event :=
  [.handled sampleConnect, .forwarded samplePacket sampleConnection.key .direct true,
    .returned sampleReply sampleConnection.key true]

/-- No wait is given up, and no end of a connection is handled. -/
def Calm (_ : List Event) (session : Session) (action : Action) : Prop :=
  action ≠ .commit ∧ session.socket ∈ [.checking, .receiving, .handling sampleConnect]

instance (events : List Event) (session : Session) (action : Action) :
    Decidable (Calm events session action) := inferInstanceAs (Decidable (_ ∧ _))

theorem Calm.undisturbed (events : List Event) (session : Session) (action : Action)
    (calm : Calm events session action) : Undisturbed events session action where
  commit packet header acted _ := absurd acted calm.1
  close event _ handling close := by
    have member := calm.2
    rw [handling] at member
    obtain rfl : event = sampleConnect := by simpa using member
    exact absurd close (by decide)

theorem sample_reaches :
    ∃ session, samplePlan.machine.Reaches Undisturbed sampleEvents session := by
  have executed : (samplePlan.machine.exec Calm
      (sampleOpening ++ [.networkReceive sampleReply, .look]) [] {}).map Prod.fst =
      some sampleEvents := by decide +kernel
  obtain ⟨⟨events, session⟩, found, rfl⟩ := Option.map_eq_some_iff.mp executed
  exact ⟨session, ((Machine.Reaches.start rfl).exec found).weaken Calm.undisturbed⟩

theorem mid_stream_consistency_sample : Consistent sampleEvents := by
  obtain ⟨session, reaches⟩ := sample_reaches
  exact mid_stream_consistency samplePlan reaches

/-- The events of a packet to the direct listener and of one to the proxy. -/
def divertedEvents : List Event :=
  [.handled sampleConnect, .forwarded samplePacket sampleConnection.key .direct true,
    .forwarded samplePacket sampleConnection.key .proxy false]

/-- A stop is requested between two packets of a direct connection: the second one goes to the
proxy. -/
theorem mid_stream_consistency_fails : ∃ events session,
    samplePlan.machine.Reaches Machine.Always events session ∧ ¬ Consistent events := by
  have executed : (samplePlan.machine.exec Machine.Always
      (sampleOpening ++ [.networkReceive samplePacket, .requestStop, .wait, .commit]) [] {}).map
        Prod.fst = some divertedEvents := by
    decide +kernel
  obtain ⟨⟨events, session⟩, found, rfl⟩ := Option.map_eq_some_iff.mp executed
  refine ⟨divertedEvents, session, (Machine.Reaches.start rfl).exec found, ?_⟩
  intro consistent
  have notEnded : ¬ Ended sampleConnection
      ([.handled sampleConnect] ++
        .forwarded samplePacket sampleConnection.key .direct true :: []) := by
    rintro ⟨event, member, -, close⟩
    obtain rfl : event = sampleConnect := by simpa using member
    exact absurd close (by decide)
  have same := (consistent sampleConnection samplePacket .direct true [.handled sampleConnect] []
    [] (.forwarded samplePacket sampleConnection.key .proxy false) rfl rfl notEnded).1
    samplePacket .proxy false rfl
  exact absurd same (by decide)

end ProxyLauncher.WinDivert
