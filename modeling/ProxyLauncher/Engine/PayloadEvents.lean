import ProxyLauncher.Engine.Session
import ProxyLauncher.IOS.FlowTrace

/-!
# The payload events of direct flows

The first payload in each direction is an event of the relay.  A session over IPv6 reports both
events after its exchange of first records already.
-/

namespace ProxyLauncher.Engine

open IOS.FlowTrace (Entry LabAlias lifetime)

variable {hosts : Hosts} {flow : Flow} {server : Server} {before : List ℕ}

/-- The exchange of an IPv6 session succeeds, and the relay carries a payload after it. -/
def Flow.Repeats (flow : Flow) (server : Server) : Prop :=
  server.family = some .ipv6 ∧ (flow.domainName.isSome = true ∧ flow.port = 443) ∧
    ∃ route relay direction,
      exchangeFirstRecords flow.client server.toSocket flow.cellular = .ok (route, relay) ∧
      (relay.half direction).carries (sizesOf direction flow.turns) = true

theorem count_payload_event (directions : List Direction) (direction : Direction) :
    (directions.map Direction.event).count direction.event = directions.count direction := by
  apply List.count_map_of_injective
  intro first second same
  cases first with
  | sending =>
      cases second with
      | sending => rfl
      | receiving => cases same
  | receiving =>
      cases second with
      | sending => cases same
      | receiving => rfl

/-- The events of the relay of a direct session. -/
theorem relayed_events (lab : flow.labDirect = true)
    (reports : ∀ event, flow.emit hosts event = [event]) (route : Route) (relay : Relay) :
    (flow.relayed hosts true route relay).events =
      (relay.run flow.turns).2.map Direction.event := by
  simp only [Flow.relayed, lab, Bool.and_self, if_true, reports]
  induction (relay.run flow.turns).2 with
  | nil => rfl
  | cons direction directions ih =>
      rw [List.flatMap_cons, ih]
      rfl

theorem count_before (uses : flow.Uses hosts server before) (direction : Direction) :
    before.count direction.event = 0 := by
  have reports := uses.reports.2
  have family : (flow.emitFamily hosts server).count direction.event = 0 := by
    unfold Flow.emitFamily
    split
    · rw [reports]
      cases direction <;> rfl
    · rw [reports]
      cases direction <;> rfl
    · rfl
  cases uses with
  | approved direct connected =>
      rw [List.count_append, family, reports]
      cases direction <;> rfl
  | recovered proxied reached refused lab named valid armed connected =>
      rename_i upstream failure name host
      rw [List.count_append, List.count_append, family, reports, reports]
      cases failure <;> cases direction <;> rfl

theorem count_relay {relay : Relay} {direction : Direction}
    (started : (relay.half direction).total = 0)
    (going : (relay.half direction).stopped = false) (turns : List (Direction × ℕ)) :
    ((relay.run turns).2.map Direction.event).count direction.event =
      if (relay.half direction).carries (sizesOf direction turns) then 1 else 0 := by
  rw [count_payload_event, Relay.count_run started going]

/-- What is reported over the physical connection, one direction at a time. -/
theorem count_directSession (uses : flow.Uses hosts server before) (direction : Direction) :
    (flow.directSession hosts server).events.count direction.event ≤ 1 ↔
      ¬ (server.family = some .ipv6 ∧ (flow.domainName.isSome = true ∧ flow.port = 443) ∧
        ∃ route relay,
          exchangeFirstRecords flow.client server.toSocket flow.cellular = .ok (route, relay) ∧
          (relay.half direction).carries (sizesOf direction flow.turns) = true) := by
  obtain ⟨lab, reports⟩ := uses.reports
  by_cases ipv6 : server.family = some .ipv6
  · by_cases named : flow.domainName.isSome = true ∧ flow.port = 443
    · cases exchanged : exchangeFirstRecords flow.client server.toSocket flow.cellular with
      | error toClient =>
          rw [directSession_of_error ipv6 named exchanged, reports]
          cases direction <;> simp [Direction.event]
      | ok exchange =>
          obtain ⟨route, relay⟩ := exchange
          obtain ⟨started, going⟩ := @exchangeFirstRecords_fresh _ _ _ _ relay direction exchanged
          rw [directSession_of_ok ipv6 named exchanged, Outcome.after_events, lab, if_pos rfl,
            reports, reports, relayed_events lab reports, List.count_append,
            count_relay started going]
          have both : ([8] ++ [9]).count direction.event = 1 := by cases direction <;> rfl
          rw [both]
          cases carried : (relay.half direction).carries (sizesOf direction flow.turns) with
          | true => simp [ipv6, named, carried]
          | false => simp [carried]
    · rw [directSession_unnamed ipv6 named]
      simp [named]
  · have once : (flow.directSession hosts server).events.count direction.event ≤ 1 := by
      rw [Flow.directSession, if_neg ipv6, relayed_events lab reports, count_relay]
      · split <;> decide
      · cases direction <;> rfl
      · cases direction <;> rfl
    exact iff_of_true once fun repeated => ipv6 repeated.1

/-- Each payload event comes at most once. -/
def Unique (events : List ℕ) : Prop := ∀ direction : Direction, events.count direction.event ≤ 1

theorem unique_iff (uses : flow.Uses hosts server before) :
    Unique (handleTcpSession hosts flow).events ↔ ¬ flow.Repeats server := by
  have each (direction : Direction) :
      (handleTcpSession hosts flow).events.count direction.event =
        (flow.directSession hosts server).events.count direction.event := by
    rw [uses.outcome, Outcome.after_events, List.count_append, count_before uses, Nat.zero_add]
  unfold Unique
  simp only [each, count_directSession uses]
  constructor
  · intro apart repeated
    obtain ⟨ipv6, named, route, relay, direction, exchanged, carried⟩ := repeated
    exact apart direction ⟨ipv6, named, route, relay, exchanged, carried⟩
  · intro none direction repeated
    obtain ⟨ipv6, named, route, relay, exchanged, carried⟩ := repeated
    exact none ⟨ipv6, named, route, relay, direction, exchanged, carried⟩

/-- The trace after the events of one connection. -/
def recordFlow (trace : IOS.FlowTrace.Trace) (host : String) (connectionID : UInt64)
    (reports : List (ℕ × ℤ)) : IOS.FlowTrace.Trace :=
  reports.foldl (fun trace report => trace.record ⟨host, connectionID, report.1, report.2⟩) trace

/-- The entry of a flow after more events. -/
def noteAll (labAlias : LabAlias) (entry : Entry) (reports : List (ℕ × ℤ)) : Entry :=
  reports.foldl (fun entry report => entry.noted labAlias report.1 report.2) entry

variable {trace : IOS.FlowTrace.Trace} {host : String} {connectionID : UInt64}
  {labAlias : LabAlias} {entry : Entry} {reports : List (ℕ × ℤ)}

theorem lookup_expire_of_timely {now : ℤ} (found : trace.flows.lookup connectionID = some entry)
    (timely : now ≤ entry.started + lifetime) :
    (trace.expire now).flows.lookup connectionID = some entry := by
  rw [← Option.mem_def, AList.mem_lookup_iff] at found ⊢
  apply List.mem_filter.mpr
  constructor
  · exact found
  · rw [decide_eq_true_eq]
    exact sub_left_le_of_le_add timely

theorem lookup_expire_none {now : ℤ} (unknown : trace.flows.lookup connectionID = none) :
    (trace.expire now).flows.lookup connectionID = none := by
  rw [Option.eq_none_iff_forall_ne_some] at unknown ⊢
  intro entry found
  rw [← Option.mem_def, AList.mem_lookup_iff] at found
  apply unknown entry
  rw [← Option.mem_def, AList.mem_lookup_iff]
  exact List.mem_of_mem_filter found

theorem accepted_report {event : ℕ} {now : ℤ} (alias' : LabAlias.ofHost host = some labAlias)
    (identified : connectionID ≠ 0) (known : event ≤ 11) :
    IOS.FlowTrace.Call.accepted ⟨host, connectionID, event, now⟩ = some labAlias := by
  have range : connectionID ≠ 0 ∧ (0 : ℤ) ≤ event ∧ (event : ℤ) ≤ 11 := ⟨identified, by omega⟩
  rw [IOS.FlowTrace.Call.accepted, if_pos range]
  exact alias'

theorem lookup_recordFlow (alias' : LabAlias.ofHost host = some labAlias)
    (identified : connectionID ≠ 0) (found : trace.flows.lookup connectionID = some entry)
    (known : ∀ report ∈ reports, report.1 ≤ 11 ∧ report.2 ≤ entry.started + lifetime) :
    (recordFlow trace host connectionID reports).flows.lookup connectionID =
      some (noteAll labAlias entry reports) := by
  induction reports generalizing trace entry with
  | nil => exact found
  | cons report reports ih =>
      obtain ⟨first, others⟩ := List.forall_mem_cons.mp known
      rw [recordFlow, List.foldl_cons, ← recordFlow, noteAll, List.foldl_cons, ← noteAll]
      apply ih
      · rw [IOS.FlowTrace.Trace.record, accepted_report alias' identified first.1]
        dsimp only
        rw [IOS.FlowTrace.Trace.enter, lookup_expire_of_timely found first.2]
        exact AList.lookup_insert _
      · exact others

theorem lookup_record_new {event : ℕ} {now : ℤ} (alias' : LabAlias.ofHost host = some labAlias)
    (identified : connectionID ≠ 0) (unknown : trace.flows.lookup connectionID = none)
    (room : trace.flows.entries.length < IOS.FlowTrace.maxFlows) (known : event ≤ 11) :
    (trace.record ⟨host, connectionID, event, now⟩).flows.lookup connectionID =
      some (Entry.opened labAlias event now) := by
  have least : (trace.expire now).flows.entries.length < IOS.FlowTrace.maxFlows :=
    Nat.lt_of_le_of_lt (List.length_filter_le _ _) room
  rw [IOS.FlowTrace.Trace.record, accepted_report alias' identified known]
  dsimp only
  rw [IOS.FlowTrace.Trace.enter, lookup_expire_none unknown]
  dsimp only
  rw [if_pos least]
  exact AList.lookup_insert _

/-- The entry of a recovered flow: later events stray from it neither in name nor in time. -/
structure Follows (labAlias : LabAlias) (entry : Entry) (reports : List (ℕ × ℤ)) : Prop where
  labelled : entry.labAlias = labAlias
  recovered : (7 : ℤ) ∈ entry.events
  single : ¬ ((10 : ℤ) ∈ entry.events ∧ (11 : ℤ) ∈ entry.events)
  known : ∀ report ∈ reports, report.1 = 5 ∨ report.1 = 8 ∨ report.1 = 9
  later : ∀ report ∈ reports, entry.last ≤ report.2
  ordered : (reports.map Prod.snd).Pairwise (· ≤ ·)
  timely : ∀ report ∈ reports, report.2 ≤ entry.started + lifetime

section Follows

variable {report : ℕ × ℤ} (follows : Follows labAlias entry (report :: reports))
include follows

theorem Follows.noted_conflicted :
    (entry.noted labAlias report.1 report.2).conflicted = true ↔
      entry.conflicted = true ∨
        ((report.1 : ℤ) = 8 ∨ (report.1 : ℤ) = 9) ∧ (report.1 : ℤ) ∈ entry.events := by
  have later := not_lt.mpr (follows.later report List.mem_cons_self)
  have timely := not_lt.mpr (follows.timely report List.mem_cons_self)
  have single := follows.single
  have same := follows.labelled
  have recovered := follows.recovered
  rcases follows.known report List.mem_cons_self with event | event | event
  all_goals simp [Entry.noted, event, same, recovered, later, timely, single]

theorem Follows.noted : Follows labAlias (entry.noted labAlias report.1 report.2) reports where
  labelled := follows.labelled
  recovered := Finset.mem_insert_of_mem follows.recovered
  single := by
    have single := follows.single
    rcases follows.known report List.mem_cons_self with event | event | event
    all_goals simpa [Entry.noted, event] using single
  known other member := follows.known other (List.mem_cons_of_mem _ member)
  later other member := by
    have ordered := follows.ordered
    rw [List.map_cons, List.pairwise_cons] at ordered
    apply max_le
    · exact follows.later other (List.mem_cons_of_mem _ member)
    · exact ordered.1 other.2 (List.mem_map_of_mem member)
  ordered := (List.pairwise_cons.mp follows.ordered).2
  timely other member := follows.timely other (List.mem_cons_of_mem _ member)

end Follows

/-- A recovered flow is marked when a payload event comes twice, and only then. -/
theorem noteAll_conflicted (follows : Follows labAlias entry reports) :
    (noteAll labAlias entry reports).conflicted = false ↔
      entry.conflicted = false ∧ ∀ direction : Direction,
        (reports.map Prod.fst).count direction.event +
          (if (direction.event : ℤ) ∈ entry.events then 1 else 0) ≤ 1 := by
  induction reports generalizing entry with
  | nil =>
      have small (direction : Direction) :
          (if (direction.event : ℤ) ∈ entry.events then 1 else 0) ≤ 1 := by
        split <;> decide
      simp [noteAll, small]
  | cons report reports ih =>
      rw [noteAll, List.foldl_cons, ← noteAll, ih follows.noted, ← Bool.not_eq_true,
        follows.noted_conflicted, not_or, Bool.not_eq_true, and_assoc, and_congr_right_iff]
      intro unmarked
      simp only [Entry.noted, List.map_cons, List.count_cons, Finset.mem_insert]
      constructor
      · rintro ⟨fresh, apart⟩ direction
        have once := apart direction
        by_cases same : report.1 = direction.event
        · have absent : (direction.event : ℤ) ∉ entry.events := by
            intro member
            apply fresh
            rw [same]
            constructor
            · cases direction with
              | sending => exact .inl rfl
              | receiving => exact .inr rfl
            · exact member
          simp_all
        · have other : (direction.event : ℤ) ≠ (report.1 : ℤ) := by omega
          simpa [same, other] using once
      · intro apart
        constructor
        · rintro ⟨payload, member⟩
          have twice : ∃ direction : Direction, direction.event = report.1 := by
            rcases payload with event | event
            · exact ⟨.sending, by simp only [Direction.event]; omega⟩
            · exact ⟨.receiving, by simp only [Direction.event]; omega⟩
          obtain ⟨direction, same⟩ := twice
          have once := apart direction
          rw [same, if_pos member, beq_self_eq_true, if_pos rfl] at once
          omega
        · intro direction
          have once := apart direction
          by_cases same : report.1 = direction.event
          · rw [same, beq_self_eq_true, if_pos rfl] at once
            rw [same, if_pos (.inl rfl)]
            omega
          · have other : (direction.event : ℤ) ≠ (report.1 : ℤ) := by omega
            simpa [same, other] using once

/-- A trace hears the events of a flow from the first one on, in the order of their times and
within the life of an entry. -/
structure Heard (trace : IOS.FlowTrace.Trace) (host : String) (connectionID : UInt64)
    (reports : List (ℕ × ℤ)) : Prop where
  labelled : ∃ labAlias, LabAlias.ofHost host = some labAlias
  identified : connectionID ≠ 0
  unknown : trace.flows.lookup connectionID = none
  room : trace.flows.entries.length < IOS.FlowTrace.maxFlows
  ordered : (reports.map Prod.snd).Pairwise (· ≤ ·)
  timely : ∀ first ∈ reports.head?, ∀ report ∈ reports, report.2 ≤ first.2 + lifetime

/-- What comes before the relay of a recovered flow. -/
theorem Flow.Uses.before_of_recovered (uses : flow.Uses hosts server before)
    (recovered : 7 ∈ before) : ∃ kind family, before = kind :: (family ++ [7]) ∧
      (kind = 1 ∨ kind = 2 ∨ kind = 3) ∧ (family = [] ∨ family = [10] ∨ family = [11]) := by
  have reports := uses.reports.2
  have family : flow.emitFamily hosts server = [] ∨ flow.emitFamily hosts server = [10] ∨
      flow.emitFamily hosts server = [11] := by
    unfold Flow.emitFamily
    split
    · exact .inr (.inl (reports 10))
    · exact .inr (.inr (reports 11))
    · exact .inl rfl
  cases uses with
  | approved direct connected =>
      rw [reports] at recovered
      rcases family with none | one | one
      all_goals
        rw [‹flow.emitFamily hosts server = _›] at recovered
        exact absurd recovered (by decide)
  | recovered proxied reached refused lab named valid armed connected =>
      rename_i upstream failure name host
      rw [reports, reports]
      refine ⟨failure.kind, flow.emitFamily hosts server, rfl, ?_, family⟩
      cases failure with
      | timedOut => exact .inl rfl
      | refused => exact .inr (.inl rfl)
      | other => exact .inr (.inr rfl)

/-- The physical connection reports failures and payloads. -/
theorem mem_directSession (uses : flow.Uses hosts server before) {event : ℕ}
    (member : event ∈ (flow.directSession hosts server).events) :
    event = 5 ∨ event = 8 ∨ event = 9 := by
  obtain ⟨lab, reports⟩ := uses.reports
  have relayed (route : Route) (relay : Relay)
      (inside : event ∈ (flow.relayed hosts true route relay).events) :
      event = 8 ∨ event = 9 := by
    rw [relayed_events lab reports, List.mem_map] at inside
    obtain ⟨direction, -, same⟩ := inside
    cases direction with
    | sending => exact .inl same.symm
    | receiving => exact .inr same.symm
  by_cases ipv6 : server.family = some .ipv6
  · by_cases named : flow.domainName.isSome = true ∧ flow.port = 443
    · cases exchanged : exchangeFirstRecords flow.client server.toSocket flow.cellular with
      | error toClient =>
          rw [directSession_of_error ipv6 named exchanged, reports] at member
          exact .inl (List.mem_singleton.mp member)
      | ok exchange =>
          obtain ⟨route, relay⟩ := exchange
          rw [directSession_of_ok ipv6 named exchanged, Outcome.after_events, lab, if_pos rfl,
            reports, reports, List.mem_append] at member
          cases member with
          | inl first => exact .inr (by simpa using first)
          | inr inside => exact .inr (relayed route relay inside)
    · rw [directSession_unnamed ipv6 named] at member
      cases member
  · rw [Flow.directSession, if_neg ipv6] at member
    exact .inr (relayed _ _ member)

/-- The entry of a flow up to its recovery. -/
def recoveredEntry (labAlias : LabAlias) (first : ℕ × ℤ) (family : List (ℕ × ℤ)) (now : ℤ) :
    Entry :=
  noteAll labAlias (Entry.opened labAlias first.1 first.2) (family ++ [(7, now)])

theorem recoveredEntry_spec {first : ℕ × ℤ} {family rest : List (ℕ × ℤ)} {now : ℤ}
    (kind : first.1 = 1 ∨ first.1 = 2 ∨ first.1 = 3)
    (families : family.map Prod.fst = [] ∨ family.map Prod.fst = [10] ∨
      family.map Prod.fst = [11])
    (known : ∀ report ∈ rest, report.1 = 5 ∨ report.1 = 8 ∨ report.1 = 9)
    (ordered : ((first :: (family ++ (7, now) :: rest)).map Prod.snd).Pairwise (· ≤ ·))
    (timely : ∀ report ∈ first :: (family ++ (7, now) :: rest),
      report.2 ≤ first.2 + lifetime) :
    Follows labAlias (recoveredEntry labAlias first family now) rest ∧
      (recoveredEntry labAlias first family now).conflicted = false ∧
      ∀ direction : Direction,
        (direction.event : ℤ) ∉ (recoveredEntry labAlias first family now).events := by
  obtain ⟨event, started⟩ := first
  rcases families with none | one | one
  · obtain rfl := List.map_eq_nil_iff.mp none
    simp only [List.nil_append, List.map_cons, List.pairwise_cons, List.mem_cons,
      forall_eq_or_imp, List.mem_map, forall_exists_index, and_imp,
      forall_apply_eq_imp_iff₂] at ordered timely
    have order := not_lt.mpr ordered.1.1
    have time := not_lt.mpr timely.2.1
    refine ⟨⟨rfl, ?_, ?_, known, ?_, ordered.2.2, timely.2.2⟩, ?_, ?_⟩
    · simp [recoveredEntry, noteAll, Entry.noted]
    · rcases kind with rfl | rfl | rfl
      all_goals simp [recoveredEntry, noteAll, Entry.noted, Entry.opened]
    · intro report member
      exact max_le (ordered.1.2 report member) (ordered.2.1 report member)
    · rcases kind with rfl | rfl | rfl
      all_goals simp [recoveredEntry, noteAll, Entry.noted, Entry.opened, order, time]
    · intro direction
      rcases kind with rfl | rfl | rfl
      all_goals
        cases direction
        all_goals simp [recoveredEntry, noteAll, Entry.noted, Entry.opened, Direction.event]
  all_goals
    obtain ⟨report, others, rfl, same, none⟩ := List.map_eq_cons_iff.mp one
    obtain rfl := List.map_eq_nil_iff.mp none
    obtain ⟨other, seen⟩ := report
    obtain rfl := same
    simp only [List.cons_append, List.nil_append, List.map_cons, List.pairwise_cons,
      List.mem_cons, forall_eq_or_imp, List.mem_map, forall_exists_index, and_imp,
      forall_apply_eq_imp_iff₂] at ordered timely
    have order := not_lt.mpr ordered.1.1
    have order' := not_lt.mpr ordered.2.1.1
    have order'' := not_lt.mpr ordered.1.2.1
    have time := not_lt.mpr timely.2.1
    have time' := not_lt.mpr timely.2.2.1
    refine ⟨⟨rfl, ?_, ?_, known, ?_, ordered.2.2.2, timely.2.2.2⟩, ?_, ?_⟩
    · simp [recoveredEntry, noteAll, Entry.noted]
    · rcases kind with rfl | rfl | rfl
      all_goals simp [recoveredEntry, noteAll, Entry.noted, Entry.opened]
    · intro report member
      exact max_le (max_le (ordered.1.2.2 report member) (ordered.2.1.2 report member))
        (ordered.2.2.1 report member)
    · rcases kind with rfl | rfl | rfl
      all_goals
        simp [recoveredEntry, noteAll, Entry.noted, Entry.opened, order, order', order'', time,
          time']
    · intro direction
      rcases kind with rfl | rfl | rfl
      all_goals
        cases direction
        all_goals simp [recoveredEntry, noteAll, Entry.noted, Entry.opened, Direction.event]

theorem unique_rest (uses : flow.Uses hosts server before) :
    (∀ direction : Direction,
      (flow.directSession hosts server).events.count direction.event ≤ 1) ↔
        ¬ flow.Repeats server := by
  rw [← unique_iff uses, Unique]
  simp only [uses.outcome, Outcome.after_events, List.count_append, count_before uses,
    Nat.zero_add]

/-- What the trace keeps of a recovered flow. -/
theorem entry_of_recovered (uses : flow.Uses hosts server before) (recovered : 7 ∈ before)
    (heard : Heard trace host connectionID reports)
    (reported : reports.map Prod.fst = (handleTcpSession hosts flow).events) :
    ∃ entry, (recordFlow trace host connectionID reports).flows.lookup connectionID =
      some entry ∧ (entry.conflicted = false ↔ ¬ flow.Repeats server) := by
  obtain ⟨kind, family, rfl, kinds, families⟩ := uses.before_of_recovered recovered
  obtain ⟨labAlias, labelled⟩ := heard.labelled
  rw [uses.outcome, Outcome.after_events, List.cons_append, List.append_assoc,
    List.singleton_append] at reported
  obtain ⟨first, others, rfl, rfl, split⟩ := List.map_eq_cons_iff.mp reported
  obtain ⟨familyReports, others', rfl, rfl, split'⟩ := List.map_eq_append_iff.mp split
  obtain ⟨recovery, rest, rfl, event, restEvents⟩ := List.map_eq_cons_iff.mp split'
  obtain ⟨event', now⟩ := recovery
  obtain rfl := event
  have known : ∀ report ∈ rest, report.1 = 5 ∨ report.1 = 8 ∨ report.1 = 9 := by
    intro report member
    apply mem_directSession uses
    rw [← restEvents]
    exact List.mem_map_of_mem member
  have timely := heard.timely first rfl
  obtain ⟨follows, unmarked, fresh⟩ :=
    @recoveredEntry_spec labAlias _ _ _ _ kinds families known heard.ordered timely
  refine ⟨noteAll labAlias (recoveredEntry labAlias first familyReports now) rest, ?_, ?_⟩
  · have all : noteAll labAlias (recoveredEntry labAlias first familyReports now) rest =
        noteAll labAlias (Entry.opened labAlias first.1 first.2)
          (familyReports ++ (7, now) :: rest) := by
      simp only [recoveredEntry, noteAll, List.foldl_append, List.foldl_cons, List.foldl_nil]
    rw [all, recordFlow, List.foldl_cons, ← recordFlow]
    apply lookup_recordFlow labelled heard.identified
    · apply lookup_record_new labelled heard.identified heard.unknown heard.room
      omega
    · intro report member
      constructor
      · rcases List.mem_append.mp member with inside | inside
        · have event : report.1 ∈ familyReports.map Prod.fst := List.mem_map_of_mem inside
          rcases families with none | one | one
          · rw [none] at event
            cases event
          · rw [one, List.mem_singleton] at event
            omega
          · rw [one, List.mem_singleton] at event
            omega
        · rcases List.mem_cons.mp inside with rfl | later
          · exact Nat.le_of_ble_eq_true rfl
          · rcases known report later with event | event | event
            all_goals omega
      · exact timely report (List.mem_cons_of_mem _ member)
  · rw [noteAll_conflicted follows, ← unique_rest uses, ← restEvents]
    simp only [unmarked, fresh, if_false, Nat.add_zero, true_and]

/-- Each payload event comes at most once, and the trace does not mark a recovered flow, unless an
IPv6 session relays a payload behind its exchange of first records. -/
theorem payload_events_unique (uses : flow.Uses hosts server before) :
    (Unique (handleTcpSession hosts flow).events ↔ ¬ flow.Repeats server) ∧
    (7 ∈ before → ∀ (trace : IOS.FlowTrace.Trace) (host : String) (connectionID : UInt64)
      (reports : List (ℕ × ℤ)), flow.domainName.bind (validateExactHost hosts) = some host →
        reports.map Prod.fst = (handleTcpSession hosts flow).events →
        Heard trace host connectionID reports →
        ∃ entry, (recordFlow trace host connectionID reports).flows.lookup connectionID =
          some entry ∧ (entry.conflicted = false ↔ ¬ flow.Repeats server)) := by
  constructor
  · exact unique_iff uses
  · intro recovered trace host connectionID reports _ reported heard
    exact entry_of_recovered uses recovered heard reported

/-- A laboratory flow whose handshake is refused and that is armed. -/
def recoveredFlow (turns : List (Direction × ℕ)) : Flow :=
  { replayedFlow none turns with
    domainName := some "ipv6.l.google.com"
    synthetic := false
    upstream := some { inTime := [], later := [] }
    handshake := .error .refused }

theorem recoveredFlow_uses (turns : List (Direction × ℕ)) :
    (recoveredFlow turns).Uses sampleHosts resetServer
      ((recoveredFlow turns).emit sampleHosts 2 ++
        ((recoveredFlow turns).emitFamily sampleHosts resetServer ++
          (recoveredFlow turns).emit sampleHosts 7)) :=
  @Flow.Uses.recovered sampleHosts (recoveredFlow turns) resetServer { inTime := [], later := [] } .refused
    "ipv6.l.google.com" "ipv6.l.google.com" rfl rfl rfl rfl rfl (by decide) rfl rfl

/-- The relay passes nothing on in either direction. -/
theorem recoveredFlow_idle : ¬ (recoveredFlow []).Repeats resetServer := by
  intro repeated
  obtain ⟨-, -, route, relay, direction, -, carried⟩ := repeated
  cases direction with
  | sending => cases carried
  | receiving => cases carried

theorem recoveredFlow_events :
    (handleTcpSession sampleHosts (recoveredFlow [])).events = [2, 11, 7, 8, 9] := by
  have uses := recoveredFlow_uses []
  have reports := uses.reports.2
  have family : (recoveredFlow []).emitFamily sampleHosts resetServer = [11] := reports 11
  have exchanged : exchangeFirstRecords (recoveredFlow []).client resetServer.toSocket
      (recoveredFlow []).cellular = _ := replayedFlow_exchange []
  rw [uses.outcome, directSession_of_ok rfl (by decide) exchanged, family]
  simp only [Outcome.after_events, reports]
  rfl

/-- The trace hears of such a flow at one time. -/
theorem recoveredFlow_heard :
    Heard {} "ipv6.l.google.com" 1 [(2, 0), (11, 0), (7, 0), (8, 0), (9, 0)] where
  labelled := ⟨.ipv6Neighbor, by decide⟩
  identified := by decide
  unknown := rfl
  room := by decide
  ordered := by decide
  timely := by decide

theorem payload_events_unique_sample :
    Unique (handleTcpSession sampleHosts (recoveredFlow [])).events ∧
      ∃ entry, (recordFlow {} "ipv6.l.google.com" 1
        [(2, 0), (11, 0), (7, 0), (8, 0), (9, 0)]).flows.lookup 1 = some entry ∧
          entry.conflicted = false := by
  have settled := payload_events_unique (recoveredFlow_uses [])
  constructor
  · exact settled.1.mpr recoveredFlow_idle
  · have reports := (recoveredFlow_uses []).reports.2
    have recovered : 7 ∈ (recoveredFlow []).emit sampleHosts 2 ++
        ((recoveredFlow []).emitFamily sampleHosts resetServer ++
          (recoveredFlow []).emit sampleHosts 7) := by
      rw [reports 7]
      simp
    obtain ⟨entry, found, marked⟩ := settled.2 recovered {} "ipv6.l.google.com" 1
      [(2, 0), (11, 0), (7, 0), (8, 0), (9, 0)] (by decide) recoveredFlow_events.symm
      recoveredFlow_heard
    exact ⟨entry, found, marked.mpr recoveredFlow_idle⟩

/-- One chunk of the client is relayed behind the exchange over IPv6. -/
theorem payload_event_twice : ¬ ∀ (hosts : Hosts) (flow : Flow) (server : Server)
    (before : List ℕ), flow.Uses hosts server before →
      Unique (handleTcpSession hosts flow).events := by
  intro claimed
  have uses := recoveredFlow_uses [(.sending, 5)]
  have unique := claimed _ _ _ _ uses
  rw [unique_iff uses] at unique
  apply unique
  exact ⟨rfl, by decide, .cellular, _, .sending, replayedFlow_exchange [(.sending, 5)], rfl⟩

end ProxyLauncher.Engine
