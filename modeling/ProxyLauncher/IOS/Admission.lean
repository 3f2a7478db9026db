import ProxyLauncher.IOS.AdaptiveRouteLearning
import ProxyLauncher.Transition.Machine

/-!
# The admission of direct hosts

The learning is called with times that do not go back.  The entry of a host stands for what the
calls so far have shown of the host.
-/

namespace ProxyLauncher.IOS.AdaptiveRouteLearning

open Transition

inductive Call where
  | proxyFailure (host connectionID : String) (type : Failure) (proxyHealthy : Bool)
      (networkID : String) (now : ℚ)
  | comparison (host : String)
      (proxyFailed directSucceeded independentlyDirect exactHostTransport : Bool)
      (networkID : String) (now : ℚ)
  | directFailure (host : String)
  | reject (host : String)
  | prune (now : ℚ) (networkID : String)
deriving DecidableEq

/-- The time of a call that reads the clock. -/
def Call.now : Call → Option ℚ
  | .proxyFailure _ _ _ _ _ now | .comparison _ _ _ _ _ _ now | .prune now _ => some now
  | .directFailure _ | .reject _ => none

/-- The learning and the time of the last call. -/
structure Clocked where
  learning : AdaptiveRouteLearning := {}
  clock : ℚ

variable (text : Text)

def perform (learning : AdaptiveRouteLearning) : Call → AdaptiveRouteLearning
  | .proxyFailure host connectionID type proxyHealthy networkID now =>
      (learning.proxyFailure text host connectionID type proxyHealthy networkID now).1
  | .comparison host proxyFailed directSucceeded independentlyDirect exactHostTransport
      networkID now =>
      (learning.comparison text host proxyFailed directSucceeded independentlyDirect
        exactHostTransport networkID now).1
  | .directFailure host => (learning.directFailure text host).1
  | .reject host => learning.reject text host
  | .prune now networkID => learning.prune now networkID

/-- The runs of the learning; every call is an event. -/
def machine : Machine Clocked Call Call where
  initial state := state.learning = {}
  next state call :=
    if state.clock ≤ call.now.getD state.clock then
      some { learning := state.learning.perform text call, clock := call.now.getD state.clock }
    else none
  event _ call := some call

/-- The call records a failed connection through a proxy that works. -/
def Call.Records (host networkID connectionID : String) (now : ℚ) (call : Call) : Prop :=
  ∃ raw type, call = .proxyFailure raw connectionID type true networkID now ∧
    validated text raw = some host ∧ type.eligible = true ∧
    connectionID ≠ "" ∧ connectionID.toList.length ≤ 80

/-- The call is a successful independent comparison. -/
def Call.Succeeds (host networkID : String) (now : ℚ) (call : Call) : Prop :=
  ∃ raw, call = .comparison raw true true true true networkID now ∧ validated text raw = some host

/-- The call is a comparison that failed. -/
def Call.Fails (host : String) (call : Call) : Prop :=
  ∃ raw proxyFailed directSucceeded independentlyDirect exactHostTransport networkID now,
    call = .comparison raw proxyFailed directSucceeded independentlyDirect exactHostTransport
      networkID now ∧
    validated text raw = some host ∧ (proxyFailed && directSucceeded && independentlyDirect) = false

/-- The call is a failure of a direct connection. -/
def Call.FailsDirectly (host : String) (call : Call) : Prop :=
  ∃ raw, call = .directFailure raw ∧ validated text raw = some host

/-- Two connections failed within the window. -/
def TwoFailures (events : List Call) (host networkID : String) : Prop :=
  ∃ id id' now now' call call', id ≠ id' ∧ |now' - now| ≤ window ∧ call ∈ events ∧ call' ∈ events ∧
    call.Records text host networkID id now ∧ call'.Records text host networkID id' now'

/-- After two failures, a comparison succeeded and nothing has failed since. -/
def Verified (events : List Call) (host networkID : String) (now : ℚ) : Prop :=
  ∃ before comparison after, events = before ++ comparison :: after ∧
    TwoFailures text before host networkID ∧ comparison.Succeeds text host networkID now ∧
    ∀ call ∈ after, ¬ call.Fails text host ∧ ¬ call.FailsDirectly text host

/-- Another comparison succeeded at least one second later and no direct connection has failed
since. -/
def Granted (events : List Call) (host networkID : String) (now : ℚ) : Prop :=
  ∃ before comparison after first, events = before ++ comparison :: after ∧
    Verified text before host networkID first ∧ comparison.Succeeds text host networkID now ∧
    1 ≤ now - first ∧ ∀ call ∈ after, ¬ call.FailsDirectly text host

variable {text : Text} {events : List Call} {host other networkID connectionID raw : String}
  {learning : AdaptiveRouteLearning} {entry : Entry} {call : Call} {now first later : ℚ}
  {type : Failure}
  {proxyHealthy proxyFailed directSucceeded independentlyDirect exactHostTransport : Bool}

theorem Verified.append (verified : Verified text events host networkID now)
    (intact : ¬ call.Fails text host) (kept : ¬ call.FailsDirectly text host) :
    Verified text (events ++ [call]) host networkID now := by
  obtain ⟨before, comparison, after, rfl, failures, succeeds, quiet⟩ := verified
  refine ⟨before, comparison, after ++ [call], by simp, failures, succeeds, ?_⟩
  intro other member
  rcases List.mem_append.mp member with there | last
  · exact quiet other there
  · rw [List.mem_singleton.mp last]
    exact ⟨intact, kept⟩

theorem Granted.append (granted : Granted text events host networkID now)
    (kept : ¬ call.FailsDirectly text host) :
    Granted text (events ++ [call]) host networkID now := by
  obtain ⟨before, comparison, after, first, rfl, verified, succeeds, apart, quiet⟩ := granted
  refine ⟨before, comparison, after ++ [call], first, by simp, verified, succeeds, apart, ?_⟩
  intro other member
  rcases List.mem_append.mp member with there | last
  · exact quiet other there
  · rw [List.mem_singleton.mp last]
    exact kept

/-- What the calls so far have shown of a host with an entry. -/
structure Explained (text : Text) (events : List Call) (host : String) (entry : Entry) :
    Prop where
  distinct : entry.sessionIDs.Nodup
  recorded : ∀ id ∈ entry.sessionIDs, ∃ now, ∃ call ∈ events,
    call.Records text host entry.networkID id now ∧
      entry.started ≤ now ∧ now - entry.started ≤ window
  enough : entry.successes ≠ 0 ∨ entry.expires ≠ none → 2 ≤ entry.sessionIDs.length
  verified : entry.successes ≠ 0 → ∃ now, entry.lastVerified = some now ∧
    Verified text events host entry.networkID now
  granted : ∀ expires, entry.expires = some expires → ∃ now, expires = now + lifetime ∧
    Granted text events host entry.networkID now

namespace Explained

theorem new (text : Text) (events : List Call) (host : String) (now : ℚ) (networkID : String) :
    Explained text events host (.new now networkID) where
  distinct := by simp [Entry.new]
  recorded := by simp [Entry.new]
  enough := by simp [Entry.new]
  verified := by simp [Entry.new]
  granted := by simp [Entry.new]

/-- A call that takes nothing back. -/
theorem append (explained : Explained text events host entry)
    (intact : entry.successes ≠ 0 → ¬ call.Fails text host ∧ ¬ call.FailsDirectly text host)
    (kept : entry.expires ≠ none → ¬ call.FailsDirectly text host) :
    Explained text (events ++ [call]) host entry where
  distinct := explained.distinct
  recorded id member := by
    obtain ⟨now, call, there, records, within⟩ := explained.recorded id member
    exact ⟨now, call, by simp [there], records, within⟩
  enough := explained.enough
  verified succeeded := by
    obtain ⟨now, last, verified⟩ := explained.verified succeeded
    exact ⟨now, last, verified.append (intact succeeded).1 (intact succeeded).2⟩
  granted expires found := by
    obtain ⟨now, same, granted⟩ := explained.granted expires found
    exact ⟨now, same, granted.append (kept (by simp [found]))⟩

/-- The two failures behind two connections. -/
theorem twoFailures (explained : Explained text events host entry)
    (enough : 2 ≤ entry.sessionIDs.length) : TwoFailures text events host entry.networkID := by
  have first : entry.sessionIDs[0] ∈ entry.sessionIDs := List.getElem_mem _
  have second : entry.sessionIDs[1] ∈ entry.sessionIDs := List.getElem_mem _
  obtain ⟨now, call, there, records, after, within⟩ := explained.recorded _ first
  obtain ⟨now', call', there', records', after', within'⟩ := explained.recorded _ second
  refine ⟨_, _, now, now', call, call', ?_, ?_, there, there', records, records'⟩
  · intro same
    exact absurd ((List.Nodup.getElem_inj_iff explained.distinct).mp same) (by simp)
  · rw [abs_le]
    constructor
    · linarith
    · linarith

/-- One more failed connection. -/
theorem failed (explained : Explained text events host entry)
    (network : entry.networkID = networkID)
    (records : call.Records text host networkID connectionID now)
    (after : entry.started ≤ now) (within : now - entry.started ≤ window)
    (requested : Option ℚ) :
    Explained text (events ++ [call]) host
      { entry.failed connectionID now with lastProbeRequested := requested } := by
  subst network
  obtain ⟨raw, type, rfl, -⟩ := id records
  have intact : ¬ (Call.proxyFailure raw connectionID type true entry.networkID now).Fails text
      host := by
    rintro ⟨_, _, _, _, _, _, _, same, -⟩
    exact absurd same (by simp)
  have kept : ¬ (Call.proxyFailure raw connectionID type true entry.networkID
      now).FailsDirectly text host := by
    rintro ⟨_, same, -⟩
    exact absurd same (by simp)
  have before := explained.append (fun _ => ⟨intact, kept⟩) (fun _ => kept)
  refine ⟨?_, ?_, ?_, before.verified, before.granted⟩
  · simp only [Entry.failed]
    split
    · exact explained.distinct
    · rename_i fresh
      exact List.nodup_append.mpr ⟨explained.distinct, List.nodup_singleton _, by
        intro id member id' last same
        rw [List.mem_singleton] at last
        exact fresh (last ▸ same ▸ member)⟩
  · intro id member
    have cases : id ∈ entry.sessionIDs ∨ id = connectionID := by
      simp only [Entry.failed] at member
      split at member
      · exact .inl member
      · simpa using member
    rcases cases with there | rfl
    · exact before.recorded id there
    · exact ⟨now, _, by simp, records, after, within⟩
  · intro progress
    refine le_trans (explained.enough progress) ?_
    simp only [Entry.failed]
    split
    · exact le_rfl
    · simp

/-- One more successful comparison. -/
theorem succeeded (explained : Explained text events host entry)
    (network : entry.networkID = networkID)
    (succeeds : call.Succeeds text host networkID now)
    (enough : 2 ≤ entry.sessionIDs.length)
    (apart : ∀ first, entry.lastVerified = some first → 1 ≤ now - first) :
    Explained text (events ++ [call]) host (entry.succeeded now) := by
  subst network
  obtain ⟨raw, rfl, valid⟩ := id succeeds
  have intact : ¬ (Call.comparison raw true true true true entry.networkID now).Fails text
      host := by
    rintro ⟨_, _, _, _, _, _, _, same, -, failed⟩
    simp only [Call.comparison.injEq] at same
    obtain ⟨-, rfl, rfl, rfl, -⟩ := same
    exact absurd failed (by simp)
  have kept : ¬ (Call.comparison raw true true true true entry.networkID now).FailsDirectly text
      host := by
    rintro ⟨_, same, -⟩
    exact absurd same (by simp)
  have before := explained.append (fun _ => ⟨intact, kept⟩) (fun _ => kept)
  refine ⟨explained.distinct, before.recorded, fun _ => enough, ?_, ?_⟩
  · intro _
    exact ⟨now, rfl, events, _, [], rfl, explained.twoFailures enough, succeeds, by simp⟩
  · intro expires found
    simp only [Entry.succeeded] at found
    split at found
    · rename_i again
      obtain ⟨first, last, verified⟩ := explained.verified (by omega)
      exact ⟨now, (Option.some.inj found).symm, events, _, [], first, rfl, verified, succeeds,
        apart first last, by simp⟩
    · exact before.granted expires found

/-- A comparison failed. -/
theorem reset (explained : Explained text events host entry)
    (kept : entry.expires ≠ none → ¬ call.FailsDirectly text host) :
    Explained text (events ++ [call]) host { entry with successes := 0, lastVerified := none } := by
  have quiet : Explained text events host { entry with successes := 0, lastVerified := none } :=
    ⟨explained.distinct, explained.recorded, fun progress => explained.enough (.inr (by simpa using
      progress)), fun some => absurd rfl some, explained.granted⟩
  exact quiet.append (fun some => absurd rfl some) kept

/-- A direct connection failed. -/
theorem reverted (explained : Explained text events host entry) :
    Explained text (events ++ [call]) host { entry with expires := none, successes := 0 } := by
  have quiet : Explained text events host { entry with expires := none, successes := 0 } :=
    ⟨explained.distinct, explained.recorded, fun progress => absurd progress (by simp),
      fun some => absurd rfl some, fun _ found => absurd found (by simp)⟩
  exact quiet.append (fun some => absurd rfl some) (fun some => absurd rfl some)

end Explained

/-- What holds of the learning between two calls. -/
structure Sound (text : Text) (events : List Call) (learning : AdaptiveRouteLearning) (clock : ℚ) :
    Prop where
  explained : ∀ host entry, learning.hosts.lookup host = some entry →
    Explained text events host entry
  rejected : ∀ host ∈ learning.rejected, learning.hosts.lookup host = none
  bounded : ∀ now, clock ≤ now → learning.activeCount now ≤ maxActive

/-- An entry that is active only if its host was does not add to the active hosts. -/
theorem activeCount_setEntry_le
    (already : entry.active now = true →
      ∃ old, learning.hosts.lookup host = some old ∧ old.active now = true) :
    (learning.setEntry host entry).activeCount now ≤ learning.activeCount now := by
  rw [activeCount, setEntry, activeCount, Dictionary.countValues_insert]
  split
  · rename_i active
    obtain ⟨old, found, alive⟩ := already active
    rw [Dictionary.countValues_erase found, if_pos alive]
  · rw [Nat.zero_add]
    exact Dictionary.countValues_erase_le

namespace Sound

variable {clock : ℚ}

theorem advance (sound : Sound text events learning clock) (forward : clock ≤ now) :
    Sound text events learning now :=
  ⟨sound.explained, sound.rejected, fun later after => sound.bounded later (forward.trans after)⟩

theorem pruned (sound : Sound text events learning clock) :
    Sound text events (learning.prune now networkID) clock where
  explained host entry found := sound.explained host entry (lookup_of_prune found).1
  rejected host member := by
    rcases shape : (learning.prune now networkID).hosts.lookup host with _ | entry
    · rfl
    · have found := (lookup_of_prune shape).1
      rw [sound.rejected host member] at found
      exact absurd found (by simp)
  bounded later after := activeCount_prune_le.trans (sound.bounded later after)

/-- A call that leaves the learning as it is. -/
theorem unchanged (sound : Sound text events learning clock)
    (intact : ∀ host entry, learning.hosts.lookup host = some entry → entry.successes ≠ 0 →
      ¬ call.Fails text host ∧ ¬ call.FailsDirectly text host)
    (kept : ∀ host entry, learning.hosts.lookup host = some entry → entry.expires ≠ none →
      ¬ call.FailsDirectly text host) :
    Sound text (events ++ [call]) learning clock where
  explained host entry found :=
    (sound.explained host entry found).append (intact host entry found) (kept host entry found)
  rejected := sound.rejected
  bounded := sound.bounded

/-- A call that sets the entry of one host. -/
theorem set (sound : Sound text events learning clock)
    (others : ∀ other, other ≠ host → ¬ call.Fails text other ∧ ¬ call.FailsDirectly text other)
    (unrejected : host ∉ learning.rejected)
    (explained : Explained text (events ++ [call]) host entry)
    (bounded : ∀ now, clock ≤ now → (learning.setEntry host entry).activeCount now ≤ maxActive) :
    Sound text (events ++ [call]) (learning.setEntry host entry) clock where
  explained other entry' found := by
    by_cases same : other = host
    · subst same
      rw [lookup_setEntry_self] at found
      exact Option.some.inj found ▸ explained
    · rw [lookup_setEntry_of_ne same] at found
      exact (sound.explained other entry' found).append (fun _ => others other same)
        (fun _ => (others other same).2)
  rejected other member := by
    have different : other ≠ host := by
      rintro rfl
      exact unrejected member
    rw [lookup_setEntry_of_ne different]
    exact sound.rejected other member
  bounded := bounded

/-- The entry that a failure belongs to. -/
theorem current (sound : Sound text events (learning.prune now networkID) clock) (host : String) :
    Explained text events host ((learning.prune now networkID).current host now networkID) ∧
      ((learning.prune now networkID).current host now networkID).networkID = networkID ∧
      ((learning.prune now networkID).current host now networkID).started ≤ now ∧
      now - ((learning.prune now networkID).current host now networkID).started ≤ window ∧
      ∀ later, ((learning.prune now networkID).current host now networkID).active later = true →
        ∃ old, (learning.prune now networkID).hosts.lookup host = some old ∧
          old.active later = true := by
  have fresh := Explained.new text events host now networkID
  have young : now - now ≤ window := by norm_num [window]
  rw [AdaptiveRouteLearning.current]
  rcases found : (learning.prune now networkID).hosts.lookup host with _ | entry
  · simp only [Option.getD_none, ite_self]
    exact ⟨fresh, rfl, le_rfl, young, fun _ active => absurd active (by simp [Entry.new,
      Entry.active])⟩
  · simp only [Option.getD_some]
    split
    · exact ⟨fresh, rfl, le_rfl, young, fun _ active => absurd active (by simp [Entry.new,
        Entry.active])⟩
    · rename_i recent
      obtain ⟨network, started⟩ := of_mem_prune found
      exact ⟨sound.explained host entry found, network, started, not_lt.mp recent,
        fun later active => ⟨entry, rfl, active⟩⟩

theorem proxyFailure (sound : Sound text events learning clock) (forward : clock ≤ now) :
    Sound text
      (events ++ [.proxyFailure raw connectionID type proxyHealthy networkID now])
      (learning.proxyFailure text raw connectionID type proxyHealthy networkID now).1 now := by
  have none (host : String) :
      ¬ (Call.proxyFailure raw connectionID type proxyHealthy networkID now).Fails text host ∧
      ¬ (Call.proxyFailure raw connectionID type proxyHealthy networkID now).FailsDirectly text
        host := by
    constructor
    · rintro ⟨_, _, _, _, _, _, _, same, -⟩
      exact absurd same (by simp)
    · rintro ⟨_, same, -⟩
      exact absurd same (by simp)
  have before : Sound text events (learning.prune now networkID) now :=
    sound.pruned.advance forward
  have unchanged := before.unchanged (fun host _ _ _ => none host) (fun host _ _ _ => (none host).2)
  rw [AdaptiveRouteLearning.proxyFailure]
  rcases valid : validated text raw with _ | host
  · exact unchanged
  simp only []
  by_cases accepted : host ∉ (learning.prune now networkID).rejected ∧ type.eligible = true ∧
    proxyHealthy = true ∧ connectionID ≠ "" ∧ connectionID.toList.length ≤ 80
  · rw [if_pos accepted]
    obtain ⟨unrejected, eligible, rfl, nonempty, short⟩ := accepted
    obtain ⟨explained, network, started, recent, already⟩ := before.current host
    have records : (Call.proxyFailure raw connectionID type true networkID now).Records text host
        networkID connectionID now := ⟨raw, type, rfl, valid, eligible, nonempty, short⟩
    have set (requested : Option ℚ) := before.set (fun other _ => none other) unrejected
      (explained.failed network records started recent requested) (by
        intro later after
        exact (activeCount_setEntry_le (already later)).trans (before.bounded later after))
    split
    · exact set (some now)
    · exact set _
  · rw [if_neg accepted]
    exact unchanged

/-- Where an active host is new, there was room for it. -/
theorem bounded_succeeded (sound : Sound text events learning now)
    (found : learning.hosts.lookup host = some entry)
    (room : ¬ (maxActive ≤ learning.activeCount now ∧ entry.active now = false))
    (after : now ≤ later) :
    (learning.setEntry host (entry.succeeded now)).activeCount later ≤ maxActive := by
  have shrinks : (Dictionary.countValues (learning.hosts.erase host) fun entry =>
      entry.active later) ≤
      Dictionary.countValues (learning.hosts.erase host) fun entry => entry.active now :=
    countValues_active_le after
  have split := @Dictionary.countValues_erase _ _ host entry (fun entry => entry.active now) found
  have whole : learning.hosts.countValues (fun entry => entry.active now) ≤ maxActive :=
    sound.bounded now le_rfl
  rw [not_and_or, not_le, activeCount] at room
  rw [activeCount, setEntry, Dictionary.countValues_insert]
  rcases alive : entry.active now with _ | _
  · simp only [alive, not_true_eq_false, or_false, Bool.false_eq_true, if_false] at room split
    split
    · omega
    · omega
  · simp only [alive, if_true] at split
    split
    · omega
    · omega

theorem comparison (sound : Sound text events learning clock) (forward : clock ≤ now) :
    Sound text
      (events ++ [.comparison raw proxyFailed directSucceeded independentlyDirect
        exactHostTransport networkID now])
      (learning.comparison text raw proxyFailed directSucceeded independentlyDirect
        exactHostTransport networkID now).1 now := by
  have kept (host : String) :
      ¬ (Call.comparison raw proxyFailed directSucceeded independentlyDirect exactHostTransport
        networkID now).FailsDirectly text host := by
    rintro ⟨_, same, -⟩
    exact absurd same (by simp)
  have fails {host : String}
      (fails : (Call.comparison raw proxyFailed directSucceeded independentlyDirect
        exactHostTransport networkID now).Fails text host) :
      validated text raw = some host ∧
        (proxyFailed && directSucceeded && independentlyDirect) = false := by
    obtain ⟨_, _, _, _, _, _, _, same, valid, failed⟩ := fails
    simp only [Call.comparison.injEq] at same
    obtain ⟨rfl, rfl, rfl, rfl, -⟩ := same
    exact ⟨valid, failed⟩
  have before : Sound text events (learning.prune now networkID) now :=
    sound.pruned.advance forward
  have unchanged (intact : ∀ host entry,
      (learning.prune now networkID).hosts.lookup host = some entry → entry.successes ≠ 0 →
      validated text raw = some host →
      (proxyFailed && directSucceeded && independentlyDirect) = true) :=
    before.unchanged (fun host entry found progress => ⟨fun failing =>
      absurd (intact host entry found progress (fails failing).1) (by simp [(fails failing).2]),
      kept host⟩) (fun host _ _ _ => kept host)
  rw [AdaptiveRouteLearning.comparison]
  rcases valid : validated text raw with _ | host
  · exact unchanged fun _ _ _ _ same => absurd (valid.symm.trans same) (by simp)
  have others (other : String) (different : other ≠ host) :
      ¬ (Call.comparison raw proxyFailed directSucceeded independentlyDirect exactHostTransport
        networkID now).Fails text other := fun failing =>
    different (Option.some.inj ((fails failing).1.symm.trans valid))
  simp only []
  rcases found : (learning.prune now networkID).hosts.lookup host with _ | entry
  · exact unchanged fun other entry there _ same => by
      obtain rfl := Option.some.inj (valid.symm.trans same)
      exact absurd (found.symm.trans there) (by simp)
  simp only []
  by_cases excluded : host ∈ (learning.prune now networkID).rejected ∨
    entry.networkID ≠ networkID ∨ entry.sessionIDs.length < 2
  · rw [if_pos excluded]
    refine unchanged fun other entry' there progress same => ?_
    obtain rfl := Option.some.inj (valid.symm.trans same)
    obtain rfl := Option.some.inj (found.symm.trans there)
    rcases excluded with rejected | foreign | few
    · exact absurd (found.symm.trans (before.rejected host rejected)) (by simp)
    · exact absurd (of_mem_prune found).1 foreign
    · exact absurd ((before.explained host entry found).enough (.inl progress)) (not_le.mpr few)
  · rw [if_neg excluded]
    rw [not_or, not_or, not_lt] at excluded
    obtain ⟨unrejected, -, enough⟩ := excluded
    have explained := before.explained host entry found
    rcases good : proxyFailed && directSucceeded && independentlyDirect with _ | _
    · rw [if_pos rfl]
      refine before.set (fun other different => ⟨others other different, kept other⟩) unrejected
        (explained.reset fun _ => kept host) ?_
      intro later after
      exact (activeCount_setEntry_le fun active => ⟨entry, found, active⟩).trans
        (before.bounded later after)
    · rw [if_neg (by simp)]
      have same := unchanged fun _ _ _ _ _ => good
      split
      · exact same
      · rename_i exactHost
        split
        · exact same
        · rename_i room
          split
          · exact same
          · rename_i late
            simp only [Bool.and_eq_true] at good
            obtain ⟨⟨rfl, rfl⟩, rfl⟩ := good
            obtain rfl : exactHostTransport = true := by simpa using exactHost
            refine before.set (fun other different => ⟨others other different, kept other⟩)
              unrejected (explained.succeeded (of_mem_prune found).1 ⟨raw, rfl, valid⟩ enough ?_)
              (fun later after => before.bounded_succeeded found room after)
            intro first last
            simpa [last] using late

theorem directFailure (sound : Sound text events learning clock) :
    Sound text (events ++ [.directFailure raw]) (learning.directFailure text raw).1 clock := by
  have none (host : String) : ¬ (Call.directFailure raw).Fails text host := by
    rintro ⟨_, _, _, _, _, _, _, same, -⟩
    exact absurd same (by simp)
  have concerns {host : String} (fails : (Call.directFailure raw).FailsDirectly text host) :
      validated text raw = some host := by
    obtain ⟨_, same, valid⟩ := fails
    rwa [Call.directFailure.inj same]
  have unchanged (intact : ∀ host entry, learning.hosts.lookup host = some entry →
      validated text raw ≠ some host) :=
    sound.unchanged (fun host entry found _ => ⟨none host, fun fails =>
      intact host entry found (concerns fails)⟩)
      (fun host entry found _ fails => intact host entry found (concerns fails))
  rw [AdaptiveRouteLearning.directFailure]
  rcases valid : validated text raw with _ | host
  · exact unchanged fun _ _ _ same => absurd (valid.symm.trans same) (by simp)
  simp only []
  rcases found : learning.hosts.lookup host with _ | entry
  · exact unchanged fun other entry there same => by
      obtain rfl := Option.some.inj (valid.symm.trans same)
      exact absurd (found.symm.trans there) (by simp)
  have unrejected : host ∉ learning.rejected := fun member =>
    absurd (found.symm.trans (sound.rejected host member)) (by simp)
  refine sound.set (fun other different => ⟨none other, fun fails => different
    (Option.some.inj ((concerns fails).symm.trans valid))⟩) unrejected
    (sound.explained host entry found).reverted ?_
  intro later after
  exact (activeCount_setEntry_le fun active => absurd active (by simp [Entry.active])).trans
    (sound.bounded later after)

theorem reject (sound : Sound text events learning clock) :
    Sound text (events ++ [.reject raw]) (learning.reject text raw) clock := by
  have none (host : String) :
      ¬ (Call.reject raw).Fails text host ∧ ¬ (Call.reject raw).FailsDirectly text host := by
    constructor
    · rintro ⟨_, _, _, _, _, _, _, same, -⟩
      exact absurd same (by simp)
    · rintro ⟨_, same, -⟩
      exact absurd same (by simp)
  have same : Sound text (events ++ [.reject raw]) learning clock :=
    sound.unchanged (fun host _ _ _ => none host) (fun host _ _ _ => (none host).2)
  rw [AdaptiveRouteLearning.reject]
  split
  · exact same
  · rename_i host valid
    split
    · refine ⟨?_, ?_, ?_⟩
      · intro other entry found
        exact same.explained other entry (Dictionary.lookup_of_erase found)
      · intro other member
        rcases Finset.mem_insert.mp member with rfl | there
        · exact AList.lookup_erase _ _
        · rcases shape : AList.lookup other (AList.erase host learning.hosts) with _ | entry
          · rfl
          · exact absurd ((sound.rejected other there).symm.trans (Dictionary.lookup_of_erase shape))
              (by simp)
      · intro later after
        exact Dictionary.countValues_erase_le.trans (sound.bounded later after)
    · exact same

theorem perform (sound : Sound text events learning clock)
    (forward : clock ≤ call.now.getD clock) :
    Sound text (events ++ [call]) (learning.perform text call) (call.now.getD clock) := by
  cases call with
  | proxyFailure host connectionID type proxyHealthy networkID now =>
      exact sound.proxyFailure forward
  | comparison host proxyFailed directSucceeded independentlyDirect exactHostTransport networkID
      now => exact sound.comparison forward
  | directFailure host => exact sound.directFailure
  | reject host => exact sound.reject
  | prune now networkID =>
      refine (sound.pruned.advance forward).unchanged ?_ ?_
      · intro host entry _ _
        constructor
        · rintro ⟨_, _, _, _, _, _, _, same, -⟩
          exact absurd same (by simp)
        · rintro ⟨_, same, -⟩
          exact absurd same (by simp)
      · rintro host entry _ _ ⟨_, same, -⟩
        exact absurd same (by simp)

end Sound

variable {state : Clocked}

theorem reaches_sound (reaches : (machine text).Reaches Machine.Always events state) :
    Sound text events state.learning state.clock := by
  induction reaches with
  | @start state initial =>
      have empty : state.learning = {} := initial
      rw [empty]
      exact ⟨fun _ _ found => absurd found (by simp), fun _ member => absurd member (by simp),
        fun _ _ => Nat.zero_le _⟩
  | @step events state state' call _ _ next sound =>
      simp only [machine] at next ⊢
      split at next
      · rename_i forward
        obtain rfl := Option.some.inj next
        exact sound.perform forward
      · exact absurd next (by simp)

/-- A host is direct only after two failures within the window and two successful comparisons
with nothing failing between them, the second less than a day ago and no direct failure since.
Not more hosts than the limit are direct at any time. -/
theorem direct_only_after_evidence
    (reaches : (machine text).Reaches Machine.Always events state) :
    (∀ networkID exactHostTransport now host,
      host ∈ state.learning.directHosts networkID exactHostTransport now →
      ∃ second, Granted text events host networkID second ∧ now - second < lifetime) ∧
    ∀ now, state.clock ≤ now → state.learning.activeCount now ≤ maxActive ∧
      ∀ networkID exactHostTransport,
        (state.learning.directHosts networkID exactHostTransport now).length ≤ maxActive := by
  have sound := reaches_sound reaches
  constructor
  · intro networkID exactHostTransport now host member
    obtain ⟨-, -, entry, found, rfl, active⟩ := mem_directHosts.mp member
    obtain ⟨expires, set, future⟩ := Entry.active_iff.mp active
    obtain ⟨second, rfl, granted⟩ := (sound.explained host entry found).granted expires set
    exact ⟨second, granted, by linarith⟩
  · intro now after
    exact ⟨sound.bounded now after, fun _ _ =>
      length_directHosts_le.trans (sound.bounded now after)⟩

/-- Two failed connections and two comparisons. -/
def admission : List Call :=
  [.proxyFailure "a.io" "x" .proxyTimeout true "wifi" 0,
    .proxyFailure "a.io" "y" .proxyRefused true "wifi" 1,
    .comparison "a.io" true true true true "wifi" 2,
    .comparison "a.io" true true true true "wifi" 4]

theorem direct_only_after_evidence_sample :
    ∃ second, Granted plainText admission "a.io" "wifi" second ∧ 5 - second < lifetime := by
  have start : (machine plainText).Reaches Machine.Always [] { clock := 0 } := .start rfl
  have failures := (start.step (.proxyFailure "a.io" "x" .proxyTimeout true "wifi" 0) trivial
    (if_pos (by decide))).step (.proxyFailure "a.io" "y" .proxyRefused true "wifi" 1) trivial
    (if_pos (by decide))
  have comparisons := (failures.step (.comparison "a.io" true true true true "wifi" 2) trivial
    (if_pos (by decide))).step (.comparison "a.io" true true true true "wifi" 4) trivial
    (if_pos (by decide))
  exact (direct_only_after_evidence comparisons).1 "wifi" true 5 "a.io" (by decide +kernel)

end ProxyLauncher.IOS.AdaptiveRouteLearning
