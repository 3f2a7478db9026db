import ProxyLauncher.WinDivert.Consistency

/-!
# Reuse of a port

The table knows a port and not the connection that uses it.  Its entry belongs to the
connection whose event or packet wrote it.  As long as events and packets are only handled
while the entry of their port, if there is one, belongs to their own connection, every
connection has the decisions that its own events and packets give it.
-/

namespace ProxyLauncher.WinDivert

open Transition

variable {plan : Plan} {session session' : Session} {action : Action}
  {events before after : List Event} {connection : Connection} {key : UInt32}

/-- How an event changes the connection that the entry of a port belongs to. -/
def holderStep (key : UInt32) (holder : Option Connection) : Event → Option Connection
  | .handled event =>
      if event.connection.key = key then
        match event.kind with
        | .connect => some (holder.getD event.connection)
        | .close => none
      else holder
  | .forwarded packet port _ false =>
      if port = key then some (holder.getD packet.connection) else holder
  | _ => holder

/-- The connection whose event or packet wrote the entry of a port. -/
def holder (key : UInt32) (events : List Event) : Option Connection :=
  events.foldl (holderStep key) none

/-- How an event changes the decision of a connection, if only its own events and packets
count. -/
def ownStep (plan : Plan) (connection : Connection) (entry : Option PortDecision) :
    Event → Option PortDecision
  | .handled event =>
      if event.connection = connection then
        match event.kind with
        | .connect => some (entry.getD (plan.decisionFor connection.process))
        | .close => none
      else entry
  | .forwarded packet port _ false =>
      if packet.connection = connection ∧ port = connection.key then some (entry.getD .proxy)
      else entry
  | _ => entry

/-- The decision that its own events and packets give a connection. -/
def ownDecision (plan : Plan) (connection : Connection) (events : List Event) :
    Option PortDecision :=
  events.foldl (ownStep plan connection) none

@[simp] theorem holder_append (event : Event) :
    holder key (events ++ [event]) = holderStep key (holder key events) event := by
  simp [holder]

@[simp] theorem ownDecision_append (event : Event) :
    ownDecision plan connection (events ++ [event]) =
      ownStep plan connection (ownDecision plan connection events) event := by
  simp [ownDecision]

/-- A wait for a packet of the connection has been given up. -/
def GaveUp (connection : Connection) (events : List Event) : Prop :=
  ∃ packet decision, .forwarded packet connection.key decision false ∈ events ∧
    packet.connection = connection

theorem GaveUp.append {more : List Event} (gaveUp : GaveUp connection events) :
    GaveUp connection (events ++ more) := by
  obtain ⟨packet, decision, member, own⟩ := gaveUp
  exact ⟨packet, decision, List.mem_append_left _ member, own⟩

/-- An event leaves the own decision, or makes it from the process, or it is a packet whose
wait was given up. -/
theorem ownStep_cases {entry : Option PortDecision} {event : Event} {decision : PortDecision}
    (own : ownStep plan connection entry event = some decision) :
    entry = some decision ∨ decision = plan.decisionFor connection.process ∨
      decision = .proxy ∧ GaveUp connection [event] := by
  cases event with
  | handled event =>
      simp only [ownStep] at own
      split at own
      · cases kind : event.kind with
        | connect =>
            simp only [kind, Option.some.injEq] at own
            cases entry with
            | none => exact .inr (.inl own.symm)
            | some entry => exact .inl (congrArg some own)
        | close => simp [kind] at own
      · exact .inl own
  | timedOut packet port => exact .inl own
  | forwarded packet port given found =>
      cases found with
      | true => exact .inl own
      | false =>
          simp only [ownStep] at own
          split at own
          · rename_i mine
            obtain ⟨mine, rfl⟩ := mine
            cases entry with
            | none =>
                exact .inr (.inr ⟨(Option.some.inj own).symm, packet, given, by simp, mine⟩)
            | some entry => exact .inl own
          · exact .inl own
  | returned packet port rewritten => exact .inl own

/-- The own decision of a connection is the one for the process that opened it, or the proxy
after a wait that was given up. -/
theorem ownDecision_cases {decision : PortDecision}
    (own : ownDecision plan connection events = some decision) :
    decision = plan.decisionFor connection.process ∨
      decision = .proxy ∧ GaveUp connection events := by
  induction events using List.reverseRecOn generalizing decision with
  | nil => exact absurd own.symm (Option.some_ne_none _)
  | append_singleton events event ih =>
      rw [ownDecision_append] at own
      rcases ownStep_cases own with earlier | identity | ⟨proxy, packet, given, member, mine⟩
      · rcases ih earlier with identity | ⟨proxy, gaveUp⟩
        · exact .inl identity
        · exact .inr ⟨proxy, gaveUp.append⟩
      · exact .inl identity
      · exact .inr ⟨proxy, packet, given, List.mem_append_right _ member, mine⟩

/-- An event or a packet is handled only when the entry of its port, if there is one, belongs
to its own connection. -/
structure Separate (events : List Event) (session : Session) (action : Action) : Prop where
  event : ∀ event, action = .socketHandle → session.socket = .handling event →
    ∀ other, holder event.connection.key events = some other → other = event.connection
  forward : ∀ packet header,
    action = .wait ∧ session.network = .waiting packet header ∨
      action = .commit ∧ session.network = .givingUp packet header →
    ∀ other, holder (portKey packet.ipv6 header.srcPort) events = some other →
      other = packet.connection
  reverse : ∀ packet header, action = .look → session.network = .looking packet header →
    ∀ other, holder (portKey packet.ipv6 header.dstPort) events = some other →
      other = packet.connection

/-- The entry of a port is the own decision of the connection that it belongs to, and no other
connection of the port has one. -/
structure Tracked (plan : Plan) (events : List Event) (session : Session) : Prop where
  free : ∀ key, session.portDecisions key = none ↔ holder key events = none
  own : ∀ connection, ownDecision plan connection events =
    if holder connection.key events = some connection then session.portDecisions connection.key
    else none

theorem tracked_start : Tracked plan [] {} where
  free _ := by simp [holder]
  own _ := by simp [ownDecision, holder]

theorem Tracked.of_table (tracked : Tracked plan events session) {event : Event}
    (holders : ∀ key holder, holderStep key holder event = holder)
    (owns : ∀ connection entry, ownStep plan connection entry event = entry)
    (table : session'.portDecisions = session.portDecisions) :
    Tracked plan (events ++ [event]) session' where
  free key := by rw [holder_append, holders, table, tracked.free]
  own connection := by rw [ownDecision_append, owns, holder_append, holders, table, tracked.own]

/-- A write for `writer` on a port whose entry, if there is one, belongs to `writer`. -/
theorem Tracked.write {event : Event} {port : UInt32} {writer : Connection}
    {decision : PortDecision} (tracked : Tracked plan events session)
    (permitted : ∀ other, holder port events = some other → other = writer)
    (holders : ∀ key holder, holderStep key holder event =
      if port = key then some (holder.getD writer) else holder)
    (owns : ∀ connection entry, ownStep plan connection entry event =
      if writer = connection ∧ port = connection.key then some (entry.getD decision) else entry)
    (table : session'.portDecisions = (session.tryEmplace port decision).portDecisions) :
    Tracked plan (events ++ [event]) session' := by
  have holder_port : (holder port events).getD writer = writer := by
    cases held : holder port events with
    | none => rfl
    | some other => exact permitted other held
  constructor
  · intro key
    rw [holder_append, holders, table]
    by_cases same : port = key
    · subst same
      simp [Session.tryEmplace_self]
    · rw [if_neg same, Session.tryEmplace, Session.setPort_of_ne (Ne.symm same), tracked.free]
  · intro connection
    have own := tracked.own connection
    rw [holder_append, holders, ownDecision_append, owns, table]
    by_cases same : port = connection.key
    · subst same
      rw [if_pos rfl, holder_port, Session.tryEmplace_self]
      simp only [and_true, Option.some.injEq]
      by_cases mine : writer = connection
      · subst mine
        rw [if_pos rfl, if_pos rfl, own]
        cases held : holder writer.key events with
        | none => rw [if_neg (by simp), (tracked.free _).mpr held]
        | some other => rw [permitted other held, if_pos rfl]
      · rw [if_neg mine, if_neg mine, own, if_neg]
        intro held
        exact mine (permitted connection held).symm
    · rw [if_neg (by simp [same]), if_neg same, own, Session.tryEmplace,
        Session.setPort_of_ne (Ne.symm same)]

/-- The entry of a port is removed at the end of the connection that it belongs to. -/
theorem Tracked.remove {event : SocketEvent} (tracked : Tracked plan events session)
    (permitted : ∀ other, holder event.connection.key events = some other →
      other = event.connection) (close : event.kind = .close)
    (table : session'.portDecisions = (session.setPort event.connection.key none).portDecisions) :
    Tracked plan (events ++ [.handled event]) session' := by
  constructor
  · intro key
    rw [holder_append, table]
    by_cases same : event.connection.key = key
    · subst same
      simp [holderStep, close]
    · rw [holderStep, if_neg same, Session.setPort_of_ne (Ne.symm same), tracked.free]
  · intro connection
    have own := tracked.own connection
    rw [holder_append, ownDecision_append, table]
    by_cases same : event.connection.key = connection.key
    · by_cases mine : event.connection = connection
      · simp [holderStep, ownStep, close, mine]
      · rw [ownStep, if_neg mine, own, if_neg, holderStep, if_pos same]
        · simp [close]
        · intro held
          exact mine (permitted connection (same ▸ held)).symm
    · have other : event.connection ≠ connection := by
        rintro rfl
        exact same rfl
      rw [ownStep, if_neg other, holderStep, if_neg same, own,
        Session.setPort_of_ne (Ne.symm same)]

theorem tracked_step (tracked : Tracked plan events session)
    (permitted : Separate events session action)
    (next : plan.next session action = some session') :
    Tracked plan (events ++ (observe session action).toList) session' := by
  have effect := next_effect next
  generalize observe session action = observed at effect
  cases effect with
  | silent table =>
      rw [Option.toList_none, List.append_nil]
      exact ⟨fun key => table ▸ tracked.free key, fun connection => table ▸ tracked.own connection⟩
  | @handled event handling acted table =>
      have own := permitted.event event acted handling
      cases kind : event.kind with
      | connect =>
          simp only [Plan.handle, kind] at table
          refine tracked.write own ?_ ?_ table
          · intro key holder
            simp only [holderStep, kind]
          · intro connection entry
            by_cases mine : event.connection = connection
            · subst mine
              simp [ownStep, kind]
            · simp [ownStep, mine]
      | close =>
          simp only [Plan.handle, kind] at table
          exact tracked.remove own kind table
  | timedOut waiting acted missing table =>
      exact tracked.of_table (fun _ _ => rfl) (fun _ _ => rfl) table
  | found waiting acted present table =>
      exact tracked.of_table (fun _ _ => rfl) (fun _ _ => rfl) table
  | committed givingUp acted table =>
      exact tracked.write (permitted.forward _ _ (.inr ⟨acted, givingUp⟩))
        (fun _ _ => rfl) (fun _ _ => rfl) table
  | looked looking acted table =>
      exact tracked.of_table (fun _ _ => rfl) (fun _ _ => rfl) table

theorem tracked_of_reaches (reaches : plan.machine.Reaches Separate events session) :
    Tracked plan events session := by
  refine reaches.invariant ?_ ?_
  · rintro _ rfl
    exact tracked_start
  · intro events session action session' tracked permitted next
    exact tracked_step tracked permitted next

/-- The own decision of a connection for whose port an entry is found. -/
theorem Tracked.own_of_present (tracked : Tracked plan events session)
    (permitted : ∀ other, holder connection.key events = some other → other = connection)
    {decision : PortDecision} (present : session.portDecisions connection.key = some decision) :
    ownDecision plan connection events = some decision := by
  rw [tracked.own, if_pos, present]
  cases held : holder connection.key events with
  | none => exact absurd ((tracked.free _).mpr held ▸ present.symm) (Option.some_ne_none _)
  | some other => rw [permitted other held]

theorem Tracked.own_of_missing (tracked : Tracked plan events session)
    (missing : session.portDecisions connection.key = none) :
    ownDecision plan connection events = none := by
  rw [tracked.own, missing, ite_self]

/-- A decision that is found for a packet is the one for the process that opened the
connection, or the proxy after a wait for a packet of the connection was given up.  A wait is
given up before a stop only if the connection has no decision of its own, and then the packet
goes to the proxy.  A packet of the direct listener is rewritten exactly if the decision of its
own connection is direct. -/
structure Isolated (plan : Plan) (before : List Event) (event : Event) : Prop where
  found : ∀ packet decision, event = .forwarded packet packet.connection.key decision true →
    decision = plan.decisionFor packet.connection.process ∨
      decision = .proxy ∧ GaveUp packet.connection before
  own : ∀ packet decision, event = .forwarded packet packet.connection.key decision true →
    ownDecision plan packet.connection before = some decision
  timedOut : ∀ packet, event = .timedOut packet packet.connection.key →
    ownDecision plan packet.connection before = none
  default : ∀ packet decision, event = .forwarded packet packet.connection.key decision false →
    decision = .proxy
  returned : ∀ packet rewritten, event = .returned packet packet.connection.key rewritten →
    (rewritten = true ↔ ownDecision plan packet.connection before = some .direct)

theorem own_of_found {packet : Packet} {decision : PortDecision}
    (tracked : Tracked plan before session) (permitted : Separate before session action)
    (next : plan.next session action = some session')
    (observed : observe session action =
      some (.forwarded packet packet.connection.key decision true)) :
    ownDecision plan packet.connection before = some decision := by
  have effect := next_effect next
  rw [observed] at effect
  generalize key : packet.connection.key = port at effect
  cases effect with
  | found waiting acted present table =>
      have own := permitted.forward _ _ (.inl ⟨acted, waiting⟩)
      rw [← key] at own present
      exact tracked.own_of_present own present

theorem own_of_timedOut {packet : Packet} (tracked : Tracked plan before session)
    (next : plan.next session action = some session')
    (observed : observe session action = some (.timedOut packet packet.connection.key)) :
    ownDecision plan packet.connection before = none := by
  have effect := next_effect next
  rw [observed] at effect
  generalize key : packet.connection.key = port at effect
  cases effect with
  | timedOut waiting acted missing table =>
      rw [← key] at missing
      exact tracked.own_of_missing missing

theorem own_of_returned {packet : Packet} {rewritten : Bool}
    (tracked : Tracked plan before session) (permitted : Separate before session action)
    (next : plan.next session action = some session')
    (observed : observe session action =
      some (.returned packet packet.connection.key rewritten)) :
    rewritten = true ↔ ownDecision plan packet.connection before = some .direct := by
  have effect := next_effect next
  rw [observed] at effect
  generalize key : packet.connection.key = port at effect
  cases effect with
  | looked looking acted table =>
      have own := permitted.reverse _ _ acted looking
      rw [← key] at own
      rw [Session.isDirectPort, ← key]
      cases entry : session.portDecisions packet.connection.key with
      | none => simp [tracked.own_of_missing entry]
      | some decision => simp [tracked.own_of_present own entry]

theorem proxy_of_default {packet : Packet} {port : UInt32} {decision : PortDecision}
    (next : plan.next session action = some session')
    (observed : observe session action = some (.forwarded packet port decision false)) :
    decision = .proxy := by
  have effect := next_effect next
  rw [observed] at effect
  cases effect with
  | committed => rfl

theorem isolated_step {event : Event} (tracked : Tracked plan before session)
    (permitted : Separate before session action)
    (next : plan.next session action = some session')
    (observed : observe session action = some event) : Isolated plan before event where
  found _ _ is := ownDecision_cases (own_of_found tracked permitted next (is ▸ observed))
  own _ _ is := own_of_found tracked permitted next (is ▸ observed)
  timedOut _ is := own_of_timedOut tracked next (is ▸ observed)
  default _ _ is := proxy_of_default next (is ▸ observed)
  returned _ _ is := own_of_returned tracked permitted next (is ▸ observed)

/-- In every run in which events and packets are handled only while the entry of their port, if
there is one, belongs to their own connection, the decisions for a connection depend on the
process that opened it and on no earlier connection of its port. -/
theorem decisions_isolated (plan : Plan) {events : List Event} {session : Session}
    (reaches : plan.machine.Reaches Separate events session) :
    ∀ before event after, events = before ++ event :: after → Isolated plan before event := by
  intro before event after split
  obtain ⟨session, action, session', earlier, permitted, next, observed⟩ :=
    reaches.at_event split
  exact isolated_step (tracked_of_reaches earlier) permitted next observed

/-- A later connection of the port, which another application opens. -/
def sampleSuccessor : Connection :=
  { id := 2, ipv6 := false, localPort := 50000, process := 8 }

def sampleClose : SocketEvent :=
  { connection := sampleConnection, kind := .close, remotePort := 8080 }

def sampleNext : SocketEvent :=
  { connection := sampleSuccessor, kind := .connect, remotePort := 8080 }

def sampleNextPacket : Packet :=
  { connection := sampleSuccessor, ipv6 := false, tcp := some ⟨50000, 8080⟩ }

/-- The connections follow each other, and each event comes before the packets. -/
def sampleSequence : List Action :=
  sampleOpening ++ [.socketCheck, .socketReceive sampleClose, .socketHandle, .socketCheck,
    .socketReceive sampleNext, .socketHandle, .networkReceive sampleNextPacket, .wait]

def sampleSequenceEvents : List Event :=
  [.handled sampleConnect, .forwarded samplePacket sampleConnection.key .direct true,
    .handled sampleClose, .handled sampleNext,
    .forwarded sampleNextPacket sampleSuccessor.key .proxy true]

/-- The entries of the ports that the threads are at belong to the connections they are at. -/
def apart (events : List Event) (session : Session) : Bool :=
  (match session.socket with
    | .handling event =>
        decide (holder event.connection.key events ∈ [none, some event.connection])
    | _ => true) &&
  match session.network with
  | .waiting packet header =>
      decide (holder (portKey packet.ipv6 header.srcPort) events ∈ [none, some packet.connection])
  | .givingUp _ _ => false
  | .looking _ _ => false
  | _ => true

theorem separate_of_apart (events : List Event) (session : Session) (action : Action)
    (clear : apart events session = true) : Separate events session action where
  event event _ handling other held := by
    simp only [apart, handling, Bool.and_eq_true, decide_eq_true_eq] at clear
    have cases := clear.1
    rw [held] at cases
    simpa using cases
  forward packet header doing other held := by
    rcases doing with ⟨-, waiting⟩ | ⟨-, givingUp⟩
    · simp only [apart, waiting, Bool.and_eq_true, decide_eq_true_eq] at clear
      have cases := clear.2
      rw [held] at cases
      simpa using cases
    · simp [apart, givingUp] at clear
  reverse packet header _ looking other held := by
    simp [apart, looking] at clear

theorem sampleSequence_reaches :
    ∃ session, samplePlan.machine.Reaches Separate sampleSequenceEvents session := by
  have executed : (samplePlan.machine.exec (fun events session _ => apart events session = true)
      sampleSequence [] {}).map Prod.fst = some sampleSequenceEvents := by decide
  obtain ⟨⟨events, session⟩, found, rfl⟩ := Option.map_eq_some_iff.mp executed
  exact ⟨session, ((Machine.Reaches.start rfl).exec found).weaken separate_of_apart⟩

theorem decisions_isolated_sample :
    Isolated samplePlan
      [.handled sampleConnect, .forwarded samplePacket sampleConnection.key .direct true,
        .handled sampleClose, .handled sampleNext]
      (.forwarded sampleNextPacket sampleSuccessor.key .proxy true) := by
  obtain ⟨session, reaches⟩ := sampleSequence_reaches
  exact decisions_isolated samplePlan reaches _ _ [] rfl

/-- The first packet of the later connection comes before the end of the earlier one is handled:
it has the decision of the earlier connection. -/
theorem decisions_isolated_fails : ∃ session,
    samplePlan.machine.Reaches Machine.Always
      [.handled sampleConnect, .forwarded samplePacket sampleConnection.key .direct true,
        .forwarded sampleNextPacket sampleSuccessor.key .direct true] session ∧
    ¬ Isolated samplePlan
      [.handled sampleConnect, .forwarded samplePacket sampleConnection.key .direct true]
      (.forwarded sampleNextPacket sampleSuccessor.key .direct true) := by
  have executed : (samplePlan.machine.exec Machine.Always
      (sampleOpening ++ [.networkReceive sampleNextPacket, .wait]) [] {}).map Prod.fst =
      some [.handled sampleConnect, .forwarded samplePacket sampleConnection.key .direct true,
        .forwarded sampleNextPacket sampleSuccessor.key .direct true] := by
    decide
  obtain ⟨⟨events, session⟩, found, rfl⟩ := Option.map_eq_some_iff.mp executed
  refine ⟨session, (Machine.Reaches.start rfl).exec found, ?_⟩
  intro isolated
  rcases isolated.found sampleNextPacket .direct rfl with identity | ⟨proxy, _⟩
  · exact absurd identity (by decide)
  · exact absurd proxy (by decide)

end ProxyLauncher.WinDivert
