import ProxyLauncher.IOS.FlowTrace

/-!
# What a counted flow proves

An entry tells what its flow has gone through as long as it has not been marked.  Only a flow that
keeps its entry until its last event is told in full: the deadline of an entry is enforced before
the next event is compared with it, so that the event opens another entry for the same flow.
-/

namespace ProxyLauncher.IOS.FlowTrace

open Transition

/-- A history in which nothing is ambiguous. -/
structure Clean (labAlias : LabAlias) (started last : ℤ) (calls : List Call) : Prop where
  named : ∀ call ∈ calls, call.accepted = some labAlias
  ordered : calls.Pairwise fun call later => call.now ≤ later.now
  latest : ∀ call ∈ calls, call.now ≤ last
  timely : ∀ call ∈ calls, call.now ≤ started + lifetime
  once : ∀ event : ℤ, 6 ≤ event → event ≤ 11 → (calls.countP fun call => call.event = event) ≤ 1
  prompted : ∀ before call after, calls = before ++ call :: after →
    call.event = 8 ∨ call.event = 9 → ∃ recovery ∈ before, recovery.event = 7
  announced : ∀ call ∈ calls.head?, call.event ≠ 7
  whole : ¬ ((∃ call ∈ calls, call.event = 10) ∧ ∃ call ∈ calls, call.event = 11)

/-- An entry tells what has been recorded of its flow. -/
structure Entry.Tells (entry : Entry) (calls : List Call) : Prop where
  first : ∃ call rest, calls = call :: rest ∧ call.now = entry.started
  seen : ∀ event, event ∈ entry.events ↔ ∃ call ∈ calls, call.event = event
  clean : entry.conflicted = false → Clean entry.labAlias entry.started entry.last calls

/-- The evidence for a flow that was taken over and has carried payload in both directions. -/
structure Proven (calls : List Call) : Prop where
  recovered : ∃ before recovery after, calls = before ++ recovery :: after ∧
    before ≠ [] ∧ recovery.event = 7 ∧ (∀ call ∈ before ++ after, call.event ≠ 7) ∧
    (∀ call ∈ before, call.event ≠ 8 ∧ call.event ≠ 9) ∧
    (after.countP fun call => call.event = 8) = 1 ∧ (after.countP fun call => call.event = 9) = 1
  family : (calls.countP fun call => call.event = 10 ∨ call.event = 11) = 1
  unproxied : ∀ call ∈ calls, call.event ≠ 0 ∧ call.event ≠ 5
  named : ∃ labAlias, ∀ call ∈ calls, call.accepted = some labAlias
  ordered : calls.Pairwise fun call later => call.now ≤ later.now
  timely : ∀ first ∈ calls.head?, ∀ call ∈ calls, call.now ≤ first.now + lifetime

/-- Where a call of a history with one more call is. -/
theorem append_call_split {calls before after : List Call} {call other : Call}
    (split : calls ++ [call] = before ++ other :: after) :
    (before = calls ∧ other = call) ∨ ∃ front, calls = before ++ other :: front := by
  rcases List.eq_nil_or_concat after with rfl | ⟨front, final, rfl⟩
  · obtain ⟨same, last⟩ := List.append_inj' split rfl
    exact .inl ⟨same.symm, (List.singleton_inj.mp last).symm⟩
  · rw [List.concat_eq_append, ← List.cons_append, ← List.append_assoc] at split
    exact .inr ⟨front, (List.append_inj' split rfl).1⟩

theorem Entry.tells_opened {call : Call} {labAlias : LabAlias}
    (accepted : call.accepted = some labAlias) :
    (Entry.opened labAlias call.event call.now).Tells [call] where
  first := ⟨call, [], rfl, rfl⟩
  seen event := by simp [Entry.opened, eq_comm]
  clean bare := by
    simp only [Entry.opened, Bool.or_eq_false_iff, decide_eq_false_iff_not] at bare
    obtain ⟨⟨recovery, sent⟩, answered⟩ := bare
    constructor
    · exact List.forall_mem_singleton.mpr accepted
    · exact List.pairwise_singleton _ _
    · simp [Entry.opened]
    · simp [Entry.opened, lifetime]
    · intro event _ _
      exact List.countP_le_length
    · intro before other after split payload
      rcases @append_call_split [] _ _ _ _ split with ⟨rfl, rfl⟩ | ⟨front, nothing⟩
      · exact absurd payload (by omega)
      · simp at nothing
    · simpa using recovery
    · simp
      omega

/-- What one more event must be like for the entry to stay unmarked. -/
theorem Entry.noted_unmarked {entry : Entry} {labAlias : LabAlias} {event now : ℤ}
    (unmarked : (entry.noted labAlias event now).conflicted = false) :
    entry.conflicted = false ∧ labAlias = entry.labAlias ∧ entry.last ≤ now ∧
      now ≤ entry.started + lifetime ∧
      (6 ≤ event → event ≤ 11 → event ∉ entry.events) ∧
      (event = 8 ∨ event = 9 → 7 ∈ entry.events) ∧
      ¬ (10 ∈ insert event entry.events ∧ 11 ∈ insert event entry.events) := by
  simp only [Entry.noted, Bool.or_eq_false_iff, decide_eq_false_iff_not, Bool.and_eq_false_imp,
    Bool.or_eq_true, decide_eq_true_eq, not_not, not_lt] at unmarked
  obtain ⟨⟨⟨⟨before, ⟨same, later⟩, timely⟩, repeated⟩, early⟩, torn⟩ := unmarked
  refine ⟨before, same, later, timely, ?_, early, fun both => torn both.1 both.2⟩
  intro low high
  refine repeated ?_
  simp only [Finset.mem_insert, Finset.mem_singleton]
  omega

theorem Entry.Tells.noted {entry : Entry} {calls : List Call} {call : Call}
    {labAlias : LabAlias} (tells : entry.Tells calls)
    (accepted : call.accepted = some labAlias) :
    (entry.noted labAlias call.event call.now).Tells (calls ++ [call]) where
  first := by
    obtain ⟨first, rest, rfl, same⟩ := tells.first
    exact ⟨first, rest ++ [call], rfl, same⟩
  seen event := by
    simp only [Entry.noted, Finset.mem_insert, tells.seen, List.mem_append, List.mem_singleton]
    constructor
    · rintro (rfl | ⟨other, member, same⟩)
      · exact ⟨call, .inr rfl, rfl⟩
      · exact ⟨other, .inl member, same⟩
    · rintro ⟨other, member | rfl, same⟩
      · exact .inr ⟨other, member, same⟩
      · exact .inl same.symm
  clean unmarked := by
    obtain ⟨before, rfl, later, timely, repeated, early, torn⟩ := Entry.noted_unmarked unmarked
    have clean := tells.clean before
    constructor
    · intro other member
      rcases List.mem_append.mp member with old | new
      · exact clean.named other old
      · rw [List.mem_singleton.mp new]
        exact accepted
    · rw [List.pairwise_append]
      refine ⟨clean.ordered, List.pairwise_singleton _ _, fun other member last new => ?_⟩
      rw [List.mem_singleton.mp new]
      exact (clean.latest other member).trans later
    · intro other member
      rcases List.mem_append.mp member with old | new
      · exact (clean.latest other old).trans (le_max_left _ _)
      · rw [List.mem_singleton.mp new]
        exact le_max_right _ _
    · intro other member
      rcases List.mem_append.mp member with old | new
      · exact clean.timely other old
      · rw [List.mem_singleton.mp new]
        exact timely
    · intro event low high
      rw [List.countP_append, List.countP_singleton]
      by_cases same : call.event = event
      · subst same
        have unseen : (calls.countP fun other => other.event = call.event) = 0 := by
          rw [List.countP_eq_zero]
          intro other member equal
          exact repeated low high
            ((tells.seen _).mpr ⟨other, member, of_decide_eq_true equal⟩)
        rw [unseen]
        split <;> omega
      · rw [if_neg (by simpa using same)]
        exact clean.once event low high
    · intro front other after split payload
      rcases append_call_split split with ⟨rfl, rfl⟩ | ⟨middle, inside⟩
      · exact (tells.seen 7).mp (early payload)
      · exact clean.prompted front other middle inside payload
    · intro first member
      obtain ⟨head, rest, rfl, -⟩ := tells.first
      exact clean.announced first member
    · rintro ⟨⟨four, inFour, isFour⟩, six, inSix, isSix⟩
      have holds : ∀ {other : Call}, other ∈ calls ++ [call] →
          other.event ∈ insert call.event entry.events := by
        intro other member
        rcases List.mem_append.mp member with old | new
        · exact Finset.mem_insert_of_mem ((tells.seen _).mpr ⟨other, old, rfl⟩)
        · rw [List.mem_singleton.mp new]
          exact Finset.mem_insert_self _ _
      exact torn ⟨isFour ▸ holds inFour, isSix ▸ holds inSix⟩

/-- An event that is seen at most once is not seen before or after it is seen. -/
theorem Clean.alone {labAlias : LabAlias} {started last : ℤ} {before after : List Call}
    {call : Call} (clean : Clean labAlias started last (before ++ call :: after))
    (low : 6 ≤ call.event) (high : call.event ≤ 11) :
    ∀ other ∈ before ++ after, other.event ≠ call.event := by
  have once := clean.once call.event low high
  rw [List.countP_append, List.countP_cons, if_pos (by simp)] at once
  have none : ((before ++ after).countP fun other => other.event = call.event) = 0 := by
    rw [List.countP_append]
    omega
  intro other member same
  exact List.countP_eq_zero.mp none other member (decide_eq_true same)

/-- Payload that was seen was seen once, after the recovery. -/
theorem Clean.payload {labAlias : LabAlias} {started last event : ℤ} {before after : List Call}
    {recovery : Call} (clean : Clean labAlias started last (before ++ recovery :: after))
    (recovered : recovery.event = 7) (payload : event = 8 ∨ event = 9)
    (seen : ∃ call ∈ before ++ recovery :: after, call.event = event) :
    (∀ call ∈ before, call.event ≠ event) ∧
      (after.countP fun call => call.event = event) = 1 := by
  have late : ∀ call ∈ before, call.event ≠ event := by
    intro call member same
    obtain ⟨front, middle, rfl⟩ := List.append_of_mem member
    obtain ⟨other, earlier, again⟩ := clean.prompted front call (middle ++ recovery :: after)
      (by simp) (same ▸ payload)
    exact clean.alone (by omega) (by omega) other (by simp [earlier])
      (again.trans recovered.symm)
  refine ⟨late, ?_⟩
  have once := clean.once event (by omega) (by omega)
  rw [List.countP_append, List.countP_cons] at once
  obtain ⟨call, member, same⟩ := seen
  have found : 0 < after.countP fun call => call.event = event := by
    rw [List.countP_pos_iff]
    rcases List.mem_append.mp member with early | rest
    · exact absurd same (late call early)
    · rcases List.mem_cons.mp rest with rfl | there
      · omega
      · exact ⟨call, there, decide_eq_true same⟩
  omega

/-- Exactly one family was seen, once. -/
theorem Clean.family {labAlias : LabAlias} {started last : ℤ} {calls : List Call}
    (clean : Clean labAlias started last calls)
    (seen : (∃ call ∈ calls, call.event = 10) ∨ ∃ call ∈ calls, call.event = 11) :
    (calls.countP fun call => call.event = 10 ∨ call.event = 11) = 1 := by
  have either : ∀ {event other : ℤ}, (∃ call ∈ calls, call.event = event) →
      (¬ ∃ call ∈ calls, call.event = other) → 6 ≤ event → event ≤ 11 →
      (calls.countP fun call => call.event = event ∨ call.event = other) = 1 := by
    intro event other there missing low high
    have same : (calls.countP fun call => call.event = event ∨ call.event = other) =
        calls.countP fun call => call.event = event := by
      refine List.countP_congr fun call member => ?_
      simp only [decide_eq_true_eq, or_iff_left_iff_imp]
      exact fun found => absurd ⟨call, member, found⟩ missing
    rw [same]
    obtain ⟨call, member, equal⟩ := there
    have once := clean.once event low high
    have found : 0 < calls.countP fun call => call.event = event :=
      List.countP_pos_iff.mpr ⟨call, member, decide_eq_true equal⟩
    omega
  rcases seen with first | second
  · exact either first (fun second => clean.whole ⟨first, second⟩) (by decide) (by decide)
  · have one := either second (fun first => clean.whole ⟨first, second⟩) (by decide) (by decide)
    rw [← one]
    exact List.countP_congr fun call _ => by simp [or_comm]

theorem Entry.Tells.proven {entry : Entry} {calls : List Call} (tells : entry.Tells calls)
    (counted : entry.originalRecoveredWithPayload = true) : Proven calls := by
  simp only [Entry.originalRecoveredWithPayload, Bool.and_eq_true, Bool.not_eq_true',
    decide_eq_true_eq, bne_iff_ne, ne_eq, decide_eq_decide, decide_eq_false_iff_not] at counted
  obtain ⟨⟨⟨⟨⟨⟨unmarked, recovery⟩, sent⟩, answered⟩, family⟩, accepted⟩, failed⟩ := counted
  have clean := tells.clean unmarked
  simp only [tells.seen] at recovery sent answered family accepted failed
  obtain ⟨first, rest, starts, started⟩ := tells.first
  constructor
  · obtain ⟨call, member, same⟩ := recovery
    obtain ⟨before, after, rfl⟩ := List.append_of_mem member
    obtain ⟨unsent, sentOnce⟩ := clean.payload same (.inl rfl) sent
    obtain ⟨unanswered, answeredOnce⟩ := clean.payload same (.inr rfl) answered
    refine ⟨before, call, after, rfl, ?_, same, ?_, ?_, sentOnce, answeredOnce⟩
    · rintro rfl
      exact clean.announced call rfl same
    · intro other there again
      exact clean.alone (by omega) (by omega) other there (again.trans same.symm)
    · exact fun other there => ⟨unsent other there, unanswered other there⟩
  · refine clean.family ?_
    by_contra neither
    rw [not_or] at neither
    exact family (iff_of_false neither.1 neither.2)
  · exact fun call member => ⟨fun same => accepted ⟨call, member, same⟩,
      fun same => failed ⟨call, member, same⟩⟩
  · exact ⟨_, clean.named⟩
  · exact clean.ordered
  · intro head atHead call member
    rw [starts, List.head?_cons, Option.mem_some_iff] at atHead
    rw [← atHead, started]
    exact clean.timely call member

section Runs

variable {trace : Trace} {calls : List Call} {call : Call} {labAlias : LabAlias}
  {connectionID : UInt64} {entry : Entry}

theorem history_append_self :
    history (calls ++ [call]) call.connectionID = history calls call.connectionID ++ [call] := by
  simp [history]

theorem history_append_other (other : call.connectionID ≠ connectionID) :
    history (calls ++ [call]) connectionID = history calls connectionID := by
  simp [history, other]

theorem Trace.lookup_expire {now : ℤ}
    (found : (trace.expire now).flows.lookup connectionID = some entry) :
    trace.flows.lookup connectionID = some entry := by
  rw [← Option.mem_def, AList.mem_lookup_iff] at found ⊢
  exact List.mem_of_mem_filter found

theorem Trace.length_expire_le {now : ℤ} :
    (trace.expire now).flows.entries.length ≤ trace.flows.entries.length :=
  List.length_filter_le _ _

theorem Trace.length_enter_le (bounded : trace.flows.entries.length ≤ maxFlows) :
    (trace.enter call labAlias).flows.entries.length ≤ maxFlows := by
  unfold Trace.enter
  split
  · rename_i entry found
    have member : call.connectionID ∈ trace.flows := AList.lookup_isSome.mp (by simp [found])
    obtain ⟨other, before, after, new, same, erased⟩ := List.exists_of_kerase member
    rw [AList.entries_insert, List.length_cons, erased, List.length_append]
    rw [same, List.length_append, List.length_cons] at bounded
    omega
  · split_ifs with room
    · have shorter : (trace.flows.erase call.connectionID).entries.length ≤
          trace.flows.entries.length := (List.kerase_sublist _ _).length_le
      rw [AList.entries_insert, List.length_cons]
      exact (Nat.succ_le_succ shorter).trans room
    · exact bounded

/-- The entry of the flow tells its history. -/
def Tells (connectionID : UInt64) (calls : List Call) (trace : Trace) : Prop :=
  ∀ entry, trace.flows.lookup connectionID = some entry →
    entry.Tells (history calls connectionID)

/-- An accepted call is told by the entry of its flow, if there was one or if it is the first. -/
theorem Tells.enter (tells : Tells connectionID calls trace)
    (accepted : call.accepted = some labAlias)
    (kept : call.connectionID = connectionID → history calls connectionID ≠ [] →
      connectionID ∈ trace.flows) :
    Tells connectionID (calls ++ [call]) (trace.enter call labAlias) := by
  intro entry found
  by_cases same : call.connectionID = connectionID
  · subst same
    rw [history_append_self]
    unfold Trace.enter at found
    split at found
    · rename_i before there
      rw [AList.lookup_insert, Option.some.injEq] at found
      rw [← found]
      exact (tells _ there).noted accepted
    · rename_i missing
      have fresh : history calls call.connectionID = [] := by
        by_contra known
        have member := AList.lookup_isSome.mpr (kept rfl known)
        rw [missing] at member
        exact absurd member (by simp)
      split_ifs at found
      · rw [AList.lookup_insert, Option.some.injEq] at found
        rw [← found, fresh]
        exact Entry.tells_opened accepted
      · rw [missing] at found
        exact absurd found (by simp)
  · rw [history_append_other same]
    apply tells entry
    unfold Trace.enter at found
    split at found
    · rwa [AList.lookup_insert_ne (Ne.symm same)] at found
    · split_ifs at found
      · rwa [AList.lookup_insert_ne (Ne.symm same)] at found
      · exact found

theorem tells_of_reaches (reaches : flowTrace.Reaches (Kept connectionID) calls trace) :
    Tells connectionID calls trace := by
  apply reaches.invariant
  · rintro state rfl entry found
    simp at found
  · rintro calls trace call - tells kept ⟨rfl⟩
    rcases accepted : call.accepted with _ | labAlias
    · simpa [flowTrace, accepted, Trace.record] using tells
    · have expired : Tells connectionID calls (trace.expire call.now) :=
        fun entry found => tells entry (Trace.lookup_expire found)
      simpa [flowTrace, accepted, Trace.record] using expired.enter accepted kept

def Bounded (_ : List Call) (trace : Trace) : Prop :=
  trace.flows.entries.length ≤ maxFlows

theorem bounded_of_reaches (reaches : flowTrace.Reaches Machine.Always calls trace) :
    Bounded calls trace := by
  refine reaches.invariant ?_ ?_
  · rintro state rfl
    exact Nat.zero_le _
  · rintro calls trace call - bounded - ⟨rfl⟩
    unfold Trace.record
    split
    · exact Trace.length_enter_le (Trace.length_expire_le.trans bounded)
    · exact bounded

/-- No entry is counted twice. -/
theorem Entry.counted_once (entry : Entry) :
    (entry.proxyHandshake = true → entry.originalRecoveredWithPayload = false ∧
      entry.conflicted = false) ∧
    (entry.originalRecoveredWithPayload = true → entry.conflicted = false) := by
  simp only [Entry.proxyHandshake, Entry.originalRecoveredWithPayload, Bool.and_eq_true,
    Bool.not_eq_true', decide_eq_false_iff_not]
  constructor
  · rintro ⟨⟨⟨⟨⟨unmarked, -⟩, unrecovered⟩, -⟩, -⟩, -⟩
    simp [unmarked, unrecovered]
  · rintro ⟨⟨⟨⟨⟨⟨unmarked, -⟩, -⟩, -⟩, -⟩, -⟩, -⟩
    exact unmarked

theorem counts_le (flows : List ((_ : UInt64) × Entry)) :
    (flows.countP fun flow => flow.2.proxyHandshake) +
      (flows.countP fun flow => flow.2.originalRecoveredWithPayload) +
      (flows.countP fun flow => flow.2.conflicted) ≤ flows.length := by
  induction flows with
  | nil => exact le_rfl
  | cons flow flows ih =>
      obtain ⟨proxied, direct⟩ := flow.2.counted_once
      simp only [List.countP_cons, List.length_cons]
      rcases proxy : flow.2.proxyHandshake with _ | _
      · rcases recovered : flow.2.originalRecoveredWithPayload with _ | _
        · rcases marked : flow.2.conflicted with _ | _ <;> simp <;> omega
        · simp [direct recovered]
          omega
      · simp [(proxied proxy).1, (proxied proxy).2]
        omega

/-- The flows that a summary counts as direct. -/
def Trace.directs (trace : Trace) (now : ℤ) : List ((_ : UInt64) × Entry) :=
  (trace.active now).filter fun flow => flow.2.originalRecoveredWithPayload

/-- The trace is bounded and counts no flow twice.  A flow that keeps its entry until its last
event has gone through what the count stands for when it is counted as direct. -/
theorem flow_trace_proves (calls : List Call) (trace : Trace) :
    (flowTrace.Reaches Machine.Always calls trace →
      trace.flows.entries.length ≤ 32 ∧ ∀ now, 0 ≤ (trace.summary now).inconclusive ∧
        (trace.summary now).originalDirectPayload = (trace.directs now).length ∧
        ∀ flow ∈ trace.active now,
          (flow.2.proxyHandshake = true → flow.2.originalRecoveredWithPayload = false ∧
            flow.2.conflicted = false) ∧
          (flow.2.originalRecoveredWithPayload = true → flow.2.conflicted = false)) ∧
    ∀ connectionID, flowTrace.Reaches (Kept connectionID) calls trace →
      ∀ now, ∀ flow ∈ trace.directs now, flow.1 = connectionID →
        Proven (history calls connectionID) := by
  constructor
  · intro reaches
    refine ⟨bounded_of_reaches reaches, fun now => ?_⟩
    have counts := counts_le (trace.active now)
    refine ⟨?_, List.countP_eq_length_filter, fun flow _ => flow.2.counted_once⟩
    simp only [Trace.summary]
    omega
  · rintro _ reaches now flow counted rfl
    obtain ⟨active, direct⟩ := List.mem_filter.mp counted
    have found : trace.flows.lookup flow.1 = some flow.2 := by
      rw [← Option.mem_def, AList.mem_lookup_iff]
      exact List.mem_of_mem_filter active
    exact (tells_of_reaches reaches _ found).proven direct

end Runs

instance (connectionID : UInt64) (calls : List Call) (trace : Trace) (call : Call) :
    Decidable (Kept connectionID calls trace call) := by
  unfold Kept
  infer_instance

/-- Events of flows to the primary host. -/
def callsOf (events : List (UInt64 × ℤ × ℤ)) : List Call :=
  events.map fun event => ⟨"www.apple.com", event.1, event.2.1, event.2.2⟩

/-- One flow is recovered in time, while another one loses its entry. -/
def recoveredCalls : List Call :=
  callsOf [(2, 1, 0), (1, 1, 5000), (1, 10, 6000), (1, 7, 7000), (1, 8, 8000), (2, 10, 61000),
    (1, 9, 62000)]

/-- A flow is recovered after its deadline. -/
def lateCalls : List Call :=
  callsOf [(1, 1, 0), (1, 10, 61000), (1, 7, 61000), (1, 8, 62000), (1, 9, 62000)]

theorem recorded_samples :
    (flowTrace.exec (Kept 1) recoveredCalls [] {}).map
        (fun run => (run.1, (run.2.directs 63000).map Sigma.fst)) = some (recoveredCalls, [1]) ∧
    (flowTrace.exec Machine.Always lateCalls [] {}).map
        (fun run => (run.1, (run.2.directs 63000).map Sigma.fst)) = some (lateCalls, [1]) := by
  decide +kernel

theorem flow_trace_proves_sample :
    ∃ trace, flowTrace.Reaches (Kept 1) recoveredCalls trace ∧
      (∃ flow ∈ trace.directs 63000, flow.1 = 1) ∧ Proven (history recoveredCalls 1) := by
  obtain ⟨⟨calls, trace⟩, executed, same⟩ := Option.map_eq_some_iff.mp recorded_samples.1
  obtain ⟨rfl, counted⟩ := Prod.mk.inj same
  have empty : flowTrace.Reaches (Kept 1) [] {} := .start rfl
  have reaches := empty.exec executed
  obtain ⟨flow, member, first⟩ := List.mem_map.mp (counted ▸ List.mem_singleton_self (1 : UInt64))
  exact ⟨trace, reaches, ⟨flow, member, first⟩,
    (flow_trace_proves _ trace).2 1 reaches 63000 flow member first⟩

/-- The first event of a flow that has lost its entry is not part of what is counted. -/
theorem late_flow_unproven :
    ¬ ∀ calls trace, flowTrace.Reaches Machine.Always calls trace →
      ∀ now, ∀ flow ∈ trace.directs now, Proven (history calls flow.1) := by
  intro claimed
  obtain ⟨⟨calls, trace⟩, executed, same⟩ := Option.map_eq_some_iff.mp recorded_samples.2
  obtain ⟨rfl, counted⟩ := Prod.mk.inj same
  have empty : flowTrace.Reaches Machine.Always [] {} := .start rfl
  have reaches := empty.exec executed
  obtain ⟨flow, member, first⟩ := List.mem_map.mp (counted ▸ List.mem_singleton_self (1 : UInt64))
  have proven := claimed _ _ reaches 63000 flow member
  rw [first] at proven
  have late := proven.timely ⟨"www.apple.com", 1, 1, 0⟩ rfl
    ⟨"www.apple.com", 1, 10, 61000⟩ (by decide)
  exact absurd late (by decide)

end ProxyLauncher.IOS.FlowTrace
