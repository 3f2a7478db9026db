import ProxyLauncher.IOS.ArmedHosts

/-!
# The evidence behind a direct flow

A flow leaves the tunnel only when what the collector has seen since the last change of the
network, start or stop grants it: two flows of the host failed while another host was reached
over the proxy, and then both checks of a probe succeeded.
-/

namespace ProxyLauncher.IOS

namespace AdaptiveRouteLearning

variable {text : Text} {learning learning' : AdaptiveRouteLearning}
  {host raw connectionID networkID : String} {entry entry' : Entry} {type : Failure} {now : ℚ}
  {proxyHealthy proxyFailed directSucceeded independentlyDirect exactHost : Bool}

/-- Each entry has the sessions of the entry that was there before. -/
def Inherits (learning learning' : AdaptiveRouteLearning) : Prop :=
  ∀ host entry', learning'.hosts.lookup host = some entry' →
    ∃ entry, learning.hosts.lookup host = some entry ∧ entry'.sessionIDs = entry.sessionIDs ∧
      entry'.started = entry.started ∧ entry'.networkID = entry.networkID

theorem Inherits.refl (learning : AdaptiveRouteLearning) : learning.Inherits learning :=
  fun _ entry found => ⟨entry, found, rfl, rfl, rfl⟩

theorem Inherits.trans {learning'' : AdaptiveRouteLearning} (first : learning.Inherits learning')
    (second : learning'.Inherits learning'') : learning.Inherits learning'' := by
  intro host entry'' found
  have ⟨entry', found', sessions', started', network'⟩ := second host entry'' found
  have ⟨entry, found, sessions, started, network⟩ := first host entry' found'
  exact ⟨entry, found, sessions'.trans sessions, started'.trans started, network'.trans network⟩

theorem Inherits.empty (learning : AdaptiveRouteLearning) : learning.Inherits {} := by
  intro host entry found
  cases found

theorem Inherits.prune (learning : AdaptiveRouteLearning) (now : ℚ) (networkID : String) :
    learning.Inherits (learning.prune now networkID) :=
  fun _ entry found => ⟨entry, (lookup_of_prune found).1, rfl, rfl, rfl⟩

theorem Inherits.setEntry (found : learning.hosts.lookup host = some entry)
    (sessions : entry'.sessionIDs = entry.sessionIDs) (started : entry'.started = entry.started)
    (network : entry'.networkID = entry.networkID) :
    learning.Inherits (learning.setEntry host entry') := by
  intro other last found'
  by_cases same : other = host
  · subst same
    rw [lookup_setEntry_self] at found'
    obtain rfl := Option.some.inj found'
    exact ⟨entry, found, sessions, started, network⟩
  · rw [lookup_setEntry_of_ne same] at found'
    exact ⟨last, found', rfl, rfl, rfl⟩

theorem Inherits.comparison : learning.Inherits (learning.comparison text raw proxyFailed
    directSucceeded independentlyDirect exactHost networkID now).1 := by
  have pruned := Inherits.prune learning now networkID
  unfold AdaptiveRouteLearning.comparison
  dsimp only
  split
  · exact pruned
  · split
    · exact pruned
    · rename_i found
      split_ifs <;> first | exact pruned | exact pruned.trans (.setEntry found rfl rfl rfl)

theorem Inherits.directFailure : learning.Inherits (learning.directFailure text raw).1 := by
  unfold AdaptiveRouteLearning.directFailure
  split
  · exact .refl learning
  · split
    · exact .refl learning
    · rename_i found
      exact .setEntry found rfl rfl rfl

/-- An entry behind a failure was there before or is the one that has failed once more. -/
theorem lookup_proxyFailure (found : (learning.proxyFailure text raw connectionID type proxyHealthy
    networkID now).1.hosts.lookup host = some entry) :
    (learning.prune now networkID).hosts.lookup host = some entry ∨
      validated text raw = some host ∧ ∃ requested, entry =
        { ((learning.prune now networkID).current host now networkID).failed connectionID now with
          lastProbeRequested := requested } := by
  unfold proxyFailure at found
  dsimp only at found
  split at found
  · exact .inl found
  · rename_i own valid
    by_cases same : host = own
    · subst same
      split_ifs at found
      · rw [lookup_setEntry_self] at found
        exact .inr ⟨valid, _, (Option.some.inj found).symm⟩
      · rw [lookup_setEntry_self] at found
        exact .inr ⟨valid, _, (Option.some.inj found).symm⟩
      · exact .inl found
    · split_ifs at found
      · rw [lookup_setEntry_of_ne same] at found
        exact .inl found
      · rw [lookup_setEntry_of_ne same] at found
        exact .inl found
      · exact .inl found

/-- A comparison makes a host direct when two sessions of the network have failed. -/
theorem of_temporaryDirect (granted : (learning.comparison text raw proxyFailed directSucceeded
    independentlyDirect exactHost networkID now).2 = .temporaryDirect host) :
    validated text raw = some host ∧ ∃ entry,
      (learning.prune now networkID).hosts.lookup host = some entry ∧
        entry.networkID = networkID ∧ 2 ≤ entry.sessionIDs.length := by
  unfold AdaptiveRouteLearning.comparison at granted
  dsimp only at granted
  split at granted
  · cases granted
  · rename_i own valid
    split at granted
    · cases granted
    · rename_i entry found
      split_ifs at granted with excluded
      all_goals try cases granted
      rw [not_or, not_or, not_not, not_lt] at excluded
      exact ⟨valid, entry, found, excluded.2.1, excluded.2.2⟩

end AdaptiveRouteLearning

namespace SmartFlowEventCollector

open Engine (validateExactHost setDirectExactHost isArmed)
open Transition

/-- The evidence so far is dropped. -/
def Action.resets : Action → Bool
  | .start _ _ _ _ | .stop | .revokeAllDirect _ => true
  | _ => false

/-- What has been seen since the evidence was dropped last. -/
def generation (events : List Observed) : List Observed :=
  events.rtakeWhile fun observed => !observed.action.resets

section

variable (environment : Environment)

/-- The engine reported the event of a flow of the host. -/
def Observed.Reports (host : String) (id : ℕ) (event : ℤ) (observed : Observed) : Prop :=
  ∃ name, observed.action = .accept name id event ∧
    validateExactHost environment.hosts name = some host

/-- A flow of the host failed, and less than a minute before another host was reached. -/
def FailedAt (seen : List Observed) (host : String) (id : ℕ) (date : ℚ) : Prop :=
  ∃ before failure after, seen = before ++ failure :: after ∧ failure.date = date ∧
    (failure.Reports environment host id 1 ∨ failure.Reports environment host id 2) ∧
    ∃ success ∈ before, ∃ other id', other ≠ host ∧ success.Reports environment other id' 0 ∧
      date - success.date < 60

/-- Two flows of the host failed within the window. -/
def TwoFailures (seen : List Observed) (host : String) : Prop :=
  ∃ id id' date date', id ≠ id' ∧ |date' - date| ≤ AdaptiveRouteLearning.window ∧
    FailedAt environment seen host id date ∧ FailedAt environment seen host id' date'

/-- Both checks of a probe of the generation succeeded. -/
def Observed.Confirms (host runtimeID : String) (observed : Observed) : Prop :=
  ∃ firstAt secondAt, observed.action = .probed ⟨host, runtimeID⟩ true true firstAt secondAt

/-- A direct flow of the host failed, or the time of the grant is over. -/
def Observed.Withdraws (host runtimeID : String) (observed : Observed) : Prop :=
  (∃ id, observed.Reports environment host id 5) ∨
    ∃ deadline, observed.action = .expire ⟨host, runtimeID, deadline⟩

/-- The evidence for a host was complete, and nothing has withdrawn it since. -/
def Granted (seen : List Observed) (host runtimeID : String) : Prop :=
  ∃ before probe after, seen = before ++ probe :: after ∧ TwoFailures environment before host ∧
    probe.Confirms host runtimeID ∧
    ∀ observed ∈ after, ¬ observed.Withdraws environment host runtimeID

end

variable {environment : Environment} {tunnel : Tunnel} {events seen : List Observed}
  {observed : Observed} {host other runtimeID name : String} {id : ℕ} {date : ℚ}
  {learning learning' : AdaptiveRouteLearning} {entry : AdaptiveRouteLearning.Entry}

theorem generation_append : generation (events ++ [observed]) =
    if observed.action.resets = true then [] else generation events ++ [observed] := by
  rw [generation, List.rtakeWhile_concat]
  cases observed.action.resets <;> rfl

theorem FailedAt.append (failed : FailedAt environment seen host id date) :
    FailedAt environment (seen ++ [observed]) host id date := by
  obtain ⟨before, failure, after, rfl, dated, reports, success⟩ := failed
  exact ⟨before, failure, after ++ [observed], by simp, dated, reports, success⟩

theorem Granted.append (granted : Granted environment seen host runtimeID)
    (kept : ¬ observed.Withdraws environment host runtimeID) :
    Granted environment (seen ++ [observed]) host runtimeID := by
  obtain ⟨before, probe, after, rfl, failures, confirms, quiet⟩ := granted
  refine ⟨before, probe, after ++ [observed], by simp, failures, confirms, ?_⟩
  intro later there
  rcases List.mem_append.mp there with there | last
  · exact quiet later there
  · rw [List.mem_singleton.mp last]
    exact kept

/-- A validated host of the engine is the host of its entry. -/
theorem validated_named {text : Text} {hosts : Engine.Hosts}
    (named : validateExactHost hosts host = some host)
    (valid : AdaptiveRouteLearning.validated text host = some other) : other = host := by
  have labels : (host.toList.splitOn '.').all validLabel = true := by
    unfold validateExactHost at named
    dsimp only at named
    split_ifs at named with _ labels
    rw [show Engine.isLabel = validLabel from funext Engine.isLabel_eq] at labels
    rw [← congrArg String.toList (Option.some.inj named), String.toList_ofList]
    exact labels
  have clean := List.all_eq_true.mpr (Engine.hostChar_of_labels labels)
  rw [AdaptiveRouteLearning.validated, text.lowercased_host host clean,
    SiteExclusionPolicy.trimmingCharacters_host clean] at valid
  have same := (Option.filter_eq_some_iff.mp valid).2
  simp only [Bool.and_eq_true, decide_eq_true_eq] at same
  exact same.1.1.symm

/-- The sessions of an entry are flows that failed. -/
structure Backed (environment : Environment) (seen : List Observed) (host : String)
    (entry : AdaptiveRouteLearning.Entry) : Prop where
  distinct : entry.sessionIDs.Nodup
  failed : ∀ session ∈ entry.sessionIDs, ∃ id date, toString id = session ∧
    FailedAt environment seen host id date ∧ entry.started ≤ date ∧
      date - entry.started ≤ AdaptiveRouteLearning.window

/-- The entries of a generation have their sessions from it. -/
def Founded (environment : Environment) (seen : List Observed) (runtimeID : String)
    (learning : AdaptiveRouteLearning) : Prop :=
  ∀ host entry, learning.hosts.lookup host = some entry → entry.networkID = runtimeID →
    Backed environment seen host entry

theorem Backed.append (backed : Backed environment seen host entry) :
    Backed environment (seen ++ [observed]) host entry where
  distinct := backed.distinct
  failed session there := by
    obtain ⟨id, date, named, failed, within⟩ := backed.failed session there
    exact ⟨id, date, named, failed.append, within⟩

theorem Backed.twoFailures (backed : Backed environment seen host entry)
    (enough : 2 ≤ entry.sessionIDs.length) : TwoFailures environment seen host := by
  obtain ⟨id, date, named, failed, after, within⟩ :=
    backed.failed entry.sessionIDs[0] (List.getElem_mem _)
  obtain ⟨id', date', named', failed', after', within'⟩ :=
    backed.failed entry.sessionIDs[1] (List.getElem_mem _)
  refine ⟨id, id', date, date', ?_, ?_, failed, failed'⟩
  · rintro rfl
    have same := (List.Nodup.getElem_inj_iff backed.distinct).mp (named.symm.trans named')
    exact absurd same (by simp)
  · rw [abs_le]
    constructor
    · linarith
    · linarith

theorem Founded.append (founded : Founded environment seen runtimeID learning) :
    Founded environment (seen ++ [observed]) runtimeID learning :=
  fun host entry found current => (founded host entry found current).append

theorem Founded.inherits (founded : Founded environment seen runtimeID learning)
    (inherits : learning.Inherits learning') :
    Founded environment seen runtimeID learning' := by
  intro host entry' found current
  have ⟨entry, found, sessions, started, network⟩ := inherits host entry' found
  have backed := founded host entry found (network.symm.trans current)
  constructor
  · rw [sessions]
    exact backed.distinct
  · rw [sessions, started]
    exact backed.failed

theorem Founded.load (founded : Founded environment seen runtimeID learning) :
    Founded environment seen runtimeID (load environment learning) := by
  unfold SmartFlowEventCollector.load
  split_ifs
  · exact founded
  · exact founded.inherits (.empty learning)

theorem Founded.save (before : Founded environment seen runtimeID learning)
    (after : Founded environment seen runtimeID learning') :
    Founded environment seen runtimeID (save environment learning learning') := by
  unfold SmartFlowEventCollector.save
  split_ifs
  · exact after
  · exact before

/-- One more flow that failed. -/
theorem Founded.proxyFailure {type : AdaptiveRouteLearning.Failure} {proxyHealthy : Bool}
    (founded : Founded environment seen runtimeID learning)
    (named : validateExactHost environment.hosts host = some host)
    (failed : FailedAt environment seen host id date) :
    Founded environment seen runtimeID (learning.proxyFailure environment.text host (toString id)
      type proxyHealthy runtimeID date).1 := by
  have pruned := founded.inherits (.prune learning date runtimeID)
  intro own entry found current
  rcases AdaptiveRouteLearning.lookup_proxyFailure found with found | ⟨valid, requested, rfl⟩
  · exact pruned own entry found current
  · obtain rfl := validated_named named valid
    -- The entry that the failure belongs to was started within the window.
    have before : Backed environment seen own
          ((learning.prune date runtimeID).current own date runtimeID) ∧
        ((learning.prune date runtimeID).current own date runtimeID).started ≤ date ∧
        date - ((learning.prune date runtimeID).current own date runtimeID).started ≤
          AdaptiveRouteLearning.window := by
      have new : Backed environment seen own (.new date runtimeID) ∧
          (AdaptiveRouteLearning.Entry.new date runtimeID).started ≤ date ∧
          date - (AdaptiveRouteLearning.Entry.new date runtimeID).started ≤
            AdaptiveRouteLearning.window := by
        refine ⟨⟨by simp [AdaptiveRouteLearning.Entry.new],
          by simp [AdaptiveRouteLearning.Entry.new]⟩, le_rfl, ?_⟩
        simp [AdaptiveRouteLearning.Entry.new, AdaptiveRouteLearning.window]
      unfold AdaptiveRouteLearning.current
      cases there : (learning.prune date runtimeID).hosts.lookup own with
      | none =>
          simp only [Option.getD_none, ite_self]
          exact new
      | some entry =>
          rw [Option.getD_some]
          dsimp only
          split_ifs with late
          · exact new
          · obtain ⟨network, started⟩ := AdaptiveRouteLearning.of_mem_prune there
            exact ⟨pruned own entry there network, started, not_lt.mp late⟩
    obtain ⟨backed, started, recent⟩ := before
    generalize (learning.prune date runtimeID).current own date runtimeID = entry at *
    unfold AdaptiveRouteLearning.Entry.failed
    constructor
    · dsimp only
      split_ifs with known
      · exact backed.distinct
      · exact List.nodup_append.mpr ⟨backed.distinct, List.nodup_singleton _, by
          rintro session there _ last rfl
          exact known (List.mem_singleton.mp last ▸ there)⟩
    · intro session there
      have cases : session ∈ entry.sessionIDs ∨ session = toString id := by
        dsimp only at there
        split_ifs at there with known
        · exact .inl there
        · rwa [List.mem_append, List.mem_singleton] at there
      rcases cases with there | rfl
      · exact backed.failed session there
      · exact ⟨id, date, rfl, failed, started, recent⟩

/-! ## The evidence of the collector -/

/-- What the collector has come from what has been seen in its generation. -/
structure Evident (environment : Environment) (seen : List Observed) (tunnel : Tunnel) :
    Prop where
  reached : ∀ host date, tunnel.collector.successfulHosts.lookup host = some date →
    ∃ observed ∈ seen, observed.date = date ∧ ∃ id, observed.Reports environment host id 0
  founded : Founded environment seen tunnel.collector.runtimeID tunnel.stored
  granted : ∀ host ∈ tunnel.collector.activeDirectHosts,
    Granted environment seen host tunnel.collector.runtimeID

namespace Evident

variable {probe : Probe} {expiry : Expiry} {first second : Bool} {event : ℤ}
  {firstAt secondAt : ℚ}

theorem append (evident : Evident environment seen tunnel)
    (kept : ∀ host ∈ tunnel.collector.activeDirectHosts,
      ¬ observed.Withdraws environment host tunnel.collector.runtimeID) :
    Evident environment (seen ++ [observed]) tunnel where
  reached host date found := by
    obtain ⟨earlier, there, reports⟩ := evident.reached host date found
    exact ⟨earlier, List.mem_append_left _ there, reports⟩
  founded := evident.founded.append
  granted host active := (evident.granted host active).append (kept host active)

theorem saving (evident : Evident environment seen tunnel)
    (founded : Founded environment seen tunnel.collector.runtimeID learning) :
    Evident environment seen (tunnel.saving environment learning) :=
  ⟨evident.reached, evident.founded.save founded, evident.granted⟩

theorem recent (evident : Evident environment seen tunnel) :
    Evident environment seen tunnel.recent where
  reached host date found := evident.reached host date (Dictionary.lookup_filter.mp found).1
  founded := evident.founded
  granted := evident.granted

theorem revert (evident : Evident environment seen tunnel)
    (kept : ∀ other ∈ tunnel.collector.activeDirectHosts, other ≠ host →
      ¬ observed.Withdraws environment other tunnel.collector.runtimeID) :
    Evident environment (seen ++ [observed]) (tunnel.revert environment host) := by
  apply saving
  · constructor
    · intro other date found
      obtain ⟨earlier, there, reports⟩ := evident.reached other date found
      exact ⟨earlier, List.mem_append_left _ there, reports⟩
    · exact evident.founded.append
    · intro other active
      have ⟨different, active⟩ := Finset.mem_erase.mp active
      exact (evident.granted other active).append (kept other active different)
  · exact evident.founded.append.load.inherits .directFailure

theorem launchDirectProbe (evident : Evident environment seen tunnel) :
    Evident environment seen (tunnel.launchDirectProbe host) := by
  unfold Tunnel.launchDirectProbe
  split_ifs
  · exact ⟨evident.reached, evident.founded, evident.granted⟩
  · exact evident

theorem proxyFailed {type : AdaptiveRouteLearning.Failure}
    (evident : Evident environment seen tunnel)
    (named : validateExactHost environment.hosts host = some host)
    (failed : FailedAt environment seen host id tunnel.date) :
    Evident environment seen (tunnel.proxyFailed environment host id type) := by
  have saved := @saving _ _ _ _ evident (@Founded.proxyFailure _ _ _ _ _ _ _ type true
    evident.founded.load named failed)
  unfold Tunnel.proxyFailed
  dsimp only
  split
  · split_ifs
    · exact saved.launchDirectProbe
    · exact saved
  · exact saved

/-- A success is the one of the host or was there before. -/
theorem lookup_succeeded {hosts : Dictionary ℚ} {now : ℚ}
    (found : (Tunnel.succeeded hosts host now).lookup other = some date) :
    other = host ∧ date = now ∨ hosts.lookup other = some date := by
  have inserted (found : (hosts.insert host now).lookup other = some date) :
      other = host ∧ date = now ∨ hosts.lookup other = some date := by
    by_cases same : other = host
    · subst same
      rw [AList.lookup_insert] at found
      exact .inl ⟨rfl, (Option.some.inj found).symm⟩
    · rw [AList.lookup_insert_ne same] at found
      exact .inr found
  unfold Tunnel.succeeded at found
  dsimp only at found
  split_ifs at found
  · split at found
    · exact inserted (Dictionary.lookup_of_erase found)
    · exact inserted found
  · exact inserted found

/-- A flow that fails while another host is reached is evidence. -/
theorem failedAt (evident : Evident environment seen tunnel)
    (healthy : tunnel.recent.healthy host = true) (dated : observed.date = tunnel.date)
    (reports : observed.Reports environment host id 1 ∨ observed.Reports environment host id 2) :
    FailedAt environment (seen ++ [observed]) host id tunnel.date := by
  obtain ⟨other, there, different⟩ := List.any_eq_true.mp healthy
  have present : other ∈ tunnel.recent.collector.successfulHosts := AList.mem_keys.mpr there
  obtain ⟨date, found⟩ := Option.isSome_iff_exists.mp (AList.lookup_isSome.mpr present)
  have ⟨found, within⟩ := Dictionary.lookup_filter.mp found
  obtain ⟨success, earlier, on, id', succeeded⟩ := evident.reached other date found
  refine ⟨seen, observed, [], rfl, dated, reports, success, earlier, other, id',
    of_decide_eq_true different, succeeded, ?_⟩
  rw [on]
  exact of_decide_eq_true within

theorem accept (evident : Evident environment seen tunnel)
    (direct : ∀ other ∈ tunnel.collector.activeDirectHosts,
      tunnel.collector.exactHostDirect = true)
    (accepted : validateExactHost environment.hosts name = some host)
    (enabled : tunnel.collector.enabled = true) :
    Evident environment (seen ++ [⟨.accept name id event, tunnel.date⟩])
      (tunnel.accept environment host id event) := by
  have named := validateExactHost_self accepted
  have recent := evident.recent
  -- Only a failure of the direct flow of the host takes something back.
  have withdrawn (other : String)
      (withdraws : Observed.Withdraws environment other tunnel.collector.runtimeID
        ⟨.accept name id event, tunnel.date⟩) : event = 5 ∧ other = host := by
    rcases withdraws with ⟨_, _, same, accepted'⟩ | ⟨_, same⟩
    · injection same with name' _ event'
      subst name' event'
      exact ⟨rfl, Option.some.inj (accepted'.symm.trans accepted)⟩
    · cases same
  unfold Tunnel.accept
  rw [if_pos enabled]
  dsimp only
  generalize (if event = 1 then AdaptiveRouteLearning.Failure.proxyTimeout else .proxyRefused) =
    type
  split_ifs with success failure proxy
  · subst success
    have kept := @append environment tunnel.recent seen ⟨.accept name id 0, tunnel.date⟩ recent
      fun other _ withdraws => absurd (withdrawn other withdraws).1 (by decide)
    refine ⟨?_, kept.founded, kept.granted⟩
    intro other date found
    rcases lookup_succeeded found with ⟨rfl, rfl⟩ | found
    · exact ⟨_, List.mem_append_right _ (List.mem_singleton_self _), rfl, id, name, rfl, accepted⟩
    · exact kept.reached other date found
  · exact recent.revert fun other _ different withdraws => different (withdrawn other withdraws).2
  · have appended := recent.append fun other _ withdraws => by
      have five := (withdrawn other withdraws).1
      exact absurd (five ▸ proxy.1) (by decide)
    apply appended.proxyFailed named
    apply evident.failedAt proxy.2 rfl
    rcases proxy.1 with rfl | rfl
    · exact .inl ⟨name, rfl, accepted⟩
    · exact .inr ⟨name, rfl, accepted⟩
  · exact recent.append fun other active withdraws =>
      failure ⟨(withdrawn other withdraws).1, direct other active⟩

theorem landed (evident : Evident environment seen tunnel) :
    Evident environment seen (tunnel.landed probe) :=
  ⟨evident.reached, evident.founded, evident.granted⟩

/-- A host that a probe has confirmed is granted. -/
theorem arm (evident : Evident environment seen tunnel)
    (founded : Founded environment seen tunnel.collector.runtimeID learning)
    (granted : Granted environment seen probe.host tunnel.collector.runtimeID) :
    Evident environment seen (tunnel.arm environment probe learning) := by
  unfold Tunnel.arm
  dsimp only
  split_ifs
  · apply saving
    · refine ⟨evident.reached, evident.founded, ?_⟩
      intro host active
      rcases Finset.mem_insert.mp active with rfl | active
      · exact granted
      · exact evident.granted host active
    · exact founded
  · exact evident.saving (founded.inherits .directFailure)

theorem probed (evident : Evident environment seen tunnel)
    (named : validateExactHost environment.hosts probe.host = some probe.host) :
    Evident environment (seen ++ [⟨.probed probe first second firstAt secondAt, tunnel.date⟩])
      (tunnel.probed environment probe first second firstAt secondAt) := by
  have appended : Evident environment
      (seen ++ [⟨.probed probe first second firstAt secondAt, tunnel.date⟩])
      (tunnel.landed probe) := by
    apply evident.landed.append
    intro host _ withdraws
    rcases withdraws with ⟨_, _, same, _⟩ | ⟨_, same⟩ <;> cases same
  unfold Tunnel.probed
  dsimp only
  split_ifs with current
  · have current : tunnel.collector.runtimeID = probe.runtime := current.2.2
    have founded : Founded environment
        (seen ++ [⟨.probed probe first second firstAt secondAt, tunnel.date⟩])
        tunnel.collector.runtimeID
        ((tunnel.landed probe).compared environment probe (first && second) firstAt secondAt).1 :=
      (appended.founded.load.inherits .comparison).inherits .comparison
    split
    · rename_i host action success
      apply appended.arm founded
      rw [Bool.and_eq_true] at success
      obtain ⟨rfl, rfl⟩ := success
      have ⟨valid, entry, found, network, enough⟩ :=
        AdaptiveRouteLearning.of_temporaryDirect action
      obtain rfl := validated_named named valid
      have backed := (evident.founded.load.inherits .comparison).inherits
        (.prune _ secondAt probe.runtime) probe.host entry found (network.trans current.symm)
      refine ⟨seen, _, [], rfl, backed.twoFailures enough, ?_, by simp⟩
      rw [show (tunnel.landed probe).collector.runtimeID = probe.runtime from current]
      exact ⟨firstAt, secondAt, rfl⟩
    · exact appended.saving founded
  · exact appended

theorem expire (evident : Evident environment seen tunnel)
    (enabled : tunnel.collector.enabled = true) :
    Evident environment (seen ++ [⟨.expire expiry, tunnel.date⟩])
      (tunnel.expire environment expiry) := by
  have same (other : String) (withdraws : Observed.Withdraws environment other
      tunnel.collector.runtimeID ⟨.expire expiry, tunnel.date⟩) :
      other = expiry.host ∧ tunnel.collector.runtimeID = expiry.runtime := by
    rcases withdraws with ⟨_, _, same, _⟩ | ⟨deadline, same⟩
    · cases same
    · injection same with same
      subst same
      exact ⟨rfl, rfl⟩
  have erased : Evident environment seen { tunnel with expiries := tunnel.expiries.erase expiry } :=
    ⟨evident.reached, evident.founded, evident.granted⟩
  unfold Tunnel.expire
  dsimp only
  split_ifs with due
  · exact erased.revert fun other _ different withdraws => different (same other withdraws).1
  · apply erased.append
    intro other active withdraws
    have ⟨own, current⟩ := same other withdraws
    exact due ⟨enabled, current, own ▸ active⟩

end Evident

/-- A collector that is not enabled stays so until it is started. -/
theorem disabled_next {tunnel' : Tunnel} {action : Action}
    (disabled : tunnel.collector.enabled = false)
    (step : next environment tunnel action = some tunnel') :
    action.resets = true ∨ tunnel'.collector.enabled = false := by
  have off : ¬ tunnel.collector.enabled = true := by simp [disabled]
  cases action with
  | start exactHostDirect labScopedDirect seconds runtimeID => exact .inl rfl
  | stop => exact .inl rfl
  | revokeAllDirect runtimeID => exact .inl rfl
  | beginRuntime =>
      obtain rfl := Option.some.inj step
      exact .inr disabled
  | endRuntime =>
      obtain rfl := Option.some.inj step
      exact .inr disabled
  | accept name id event =>
      obtain ⟨host, -, rfl⟩ := Option.map_eq_some_iff.mp step
      right
      unfold Tunnel.accept
      rw [if_neg off]
      exact disabled
  | probed probe first second firstAt secondAt =>
      obtain ⟨-, same⟩ := Option.ite_none_right_eq_some.mp step
      obtain rfl := Option.some.inj same
      right
      unfold Tunnel.probed
      dsimp only
      rw [if_neg fun current => off current.1]
      exact disabled
  | expire expiry =>
      obtain ⟨-, same⟩ := Option.ite_none_right_eq_some.mp step
      obtain rfl := Option.some.inj same
      right
      unfold Tunnel.expire
      dsimp only
      rw [if_neg fun due => off due.1]
      exact disabled
  | wait uptime date =>
      obtain ⟨-, same⟩ := Option.ite_none_right_eq_some.mp step
      obtain rfl := Option.some.inj same
      exact .inr disabled

/-- Nothing that is stored is of a generation that begins. -/
theorem Fresh.founded (fresh : Fresh tunnel runtimeID) (seen : List Observed) :
    Founded environment seen runtimeID tunnel.stored :=
  fun host entry found current =>
    absurd current (fresh.2.2.2 (host, entry) (Dictionary.mem_pairs.mpr found))

theorem Evident.next {tunnel' : Tunnel} {action : Action} (tracked : Tracked environment tunnel)
    (evident : tunnel.collector.enabled = true → Evident environment (generation events) tunnel)
    (step : SmartFlowEventCollector.next environment tunnel action = some tunnel')
    (enabled' : tunnel'.collector.enabled = true) :
    Evident environment (generation (events ++ [⟨action, tunnel.date⟩])) tunnel' := by
  rw [generation_append]
  dsimp only
  by_cases resets : action.resets = true
  · rw [if_pos resets]
    cases action with
    | start exactHostDirect labScopedDirect seconds runtimeID =>
        obtain ⟨⟨-, fresh⟩, same⟩ := Option.ite_none_right_eq_some.mp step
        obtain rfl := Option.some.inj same
        exact ⟨fun _ _ found => (by cases found), fresh.founded [],
          fun _ active => absurd active (Finset.notMem_empty _)⟩
    | stop =>
        obtain rfl := Option.some.inj step
        cases enabled'
    | revokeAllDirect runtimeID =>
        obtain ⟨fresh, same⟩ := Option.ite_none_right_eq_some.mp step
        obtain rfl := Option.some.inj same
        unfold Tunnel.revokeAllDirect at enabled' ⊢
        split_ifs at enabled' ⊢ with enabled
        · apply saving
          · exact ⟨fun _ _ found => (by cases found), fresh.founded [],
              fun _ active => absurd active (Finset.notMem_empty _)⟩
          · exact (fresh.founded []).load.inherits (.prune _ tunnel.date runtimeID)
        · exact absurd enabled' enabled
    | _ => cases resets
  · rw [if_neg resets]
    have enabled : tunnel.collector.enabled = true := by
      by_contra disabled
      rw [Bool.not_eq_true] at disabled
      rcases disabled_next disabled step with same | disabled'
      · exact resets same
      · exact absurd (enabled'.symm.trans disabled') (by decide)
    have evident := evident enabled
    cases action with
    | start | stop | revokeAllDirect => exact absurd rfl resets
    | beginRuntime =>
        obtain rfl := Option.some.inj step
        have kept := @append environment tunnel (generation events) ⟨.beginRuntime, tunnel.date⟩
          evident (by rintro _ _ (⟨_, _, same, _⟩ | ⟨_, same⟩) <;> cases same)
        exact ⟨kept.reached, kept.founded, kept.granted⟩
    | endRuntime =>
        obtain rfl := Option.some.inj step
        have kept := @append environment tunnel (generation events) ⟨.endRuntime, tunnel.date⟩
          evident (by rintro _ _ (⟨_, _, same, _⟩ | ⟨_, same⟩) <;> cases same)
        exact ⟨kept.reached, kept.founded, kept.granted⟩
    | accept name id event =>
        obtain ⟨host, accepted, rfl⟩ := Option.map_eq_some_iff.mp step
        exact evident.accept (fun other active => (tracked.allowed other active).2) accepted enabled
    | probed probe first second firstAt secondAt =>
        obtain ⟨there, same⟩ := Option.ite_none_right_eq_some.mp step
        obtain rfl := Option.some.inj same
        exact evident.probed (tracked.probes probe there)
    | expire expiry =>
        obtain ⟨-, same⟩ := Option.ite_none_right_eq_some.mp step
        obtain rfl := Option.some.inj same
        exact evident.expire enabled
    | wait uptime date =>
        obtain ⟨-, same⟩ := Option.ite_none_right_eq_some.mp step
        obtain rfl := Option.some.inj same
        have kept := @append environment tunnel (generation events)
          ⟨.wait uptime date, tunnel.date⟩ evident
          (by rintro _ _ (⟨_, _, same, _⟩ | ⟨_, same⟩) <;> cases same)
        exact ⟨kept.reached, kept.founded, kept.granted⟩

theorem evident_of_reaches {allowed : List Observed → Tunnel → Action → Prop}
    (reaches : (machine environment).Reaches allowed events tunnel)
    (enabled : tunnel.collector.enabled = true) :
    Evident environment (generation events) tunnel := by
  induction reaches with
  | start initial =>
      obtain ⟨stored, date, uptime, rfl⟩ := initial
      cases enabled
  | step action reaches _ next ih => exact Evident.next (tracked_of_reaches reaches) ih next enabled

/-- A flow is sent over a physical connection only while the evidence for its host is complete,
all of it from after the last start, stop or change of the network. -/
theorem direct_flow_granted (unapproved : ∀ host, environment.hosts.approved host = false)
    (reaches : (machine environment).Reaches Machine.Always events tunnel) {synthetic : Bool}
    (direct : Engine.forNewFlow (environment.hosts.arming tunnel.armed) synthetic (some name) =
      true) :
    ∃ host, validateExactHost environment.hosts name = some host ∧
      Granted environment (generation events) host tunnel.collector.runtimeID := by
  have same : validateExactHost (environment.hosts.arming tunnel.armed) name =
    validateExactHost environment.hosts name := rfl
  rw [Engine.forNewFlow, Bool.and_eq_true, Option.bind_some, same] at direct
  have routed := direct.2
  cases accepted : validateExactHost environment.hosts name with
  | none =>
      rw [accepted] at routed
      cases routed
  | some host =>
      rw [accepted] at routed
      have armed : (environment.hosts.approved host || isArmed tunnel.armed host) = true := routed
      rw [unapproved, Bool.false_or] at armed
      have tracked := tracked_of_reaches reaches
      have active : host ∈ tunnel.collector.activeDirectHosts := by
        by_contra inactive
        exact absurd (tracked.not_armed inactive) (by simp [armed])
      exact ⟨host, rfl, (evident_of_reaches reaches (tracked.allowed host active).1).granted host
        active⟩

theorem direct_flow_granted_sample : ∃ (events : List Observed) (tunnel : Tunnel),
    isArmed tunnel.armed "a.io" = true ∧
      ∃ host, validateExactHost sampleEnvironment.hosts "A.io." = some host ∧
        Granted sampleEnvironment (generation events) host tunnel.collector.runtimeID := by
  obtain ⟨⟨events, tunnel⟩, executed, armed⟩ := (Option.any_eq_true _ _).mp sample_armed
  have start : (machine sampleEnvironment).Reaches Machine.Always [] {} :=
    .start ⟨{}, 0, 0, rfl⟩
  have form : Engine.exactForm "A.io." = "a.io" := by decide
  have scannable : isScannableHost Engine.sampleText "a.io" = true := by decide
  have direct : Engine.forNewFlow (sampleEnvironment.hosts.arming tunnel.armed) true
      (some "A.io.") = true := by
    have armed : isArmed tunnel.armed "a.io" = true := armed
    rw [sampleEnvironment, Engine.forNewFlow_arming Engine.sampleParsers_parses, form, scannable,
      armed]
    rfl
  exact ⟨events, tunnel, armed,
    direct_flow_granted (fun _ => rfl) (start.exec executed) direct⟩

end SmartFlowEventCollector

end ProxyLauncher.IOS
