import ProxyLauncher.Mobile.CandidateOrder
import ProxyLauncher.Transition.Machine

/-!
# Changing the proxy when it fails

In automatic mode a task of the packet tunnel checks the proxy every ten seconds.  After two
failed checks it tries a few other profiles and starts its engine again with the first one that
answers, and it returns to the primary profile when that one answers again.  The application may
change the settings, and another task may start the engine again, while this one waits.
-/

namespace ProxyLauncher.IOS

open Transition

structure FailoverTuning where
  failureThreshold : ℕ := 2
  switchCooldown : ℚ := 20
  recentlyFailedSuppression : ℚ := 60
  backupScanInterval : ℚ := 30
  maxConnectionCandidates : ℤ := 6

namespace FailoverPolicy

variable {Id : Type} [DecidableEq Id] (tuning : FailoverTuning)

def failureConfirmed (consecutiveFailures : ℕ) : Bool :=
  decide (tuning.failureThreshold ≤ consecutiveFailures)

def cooldownElapsed (now : ℚ) (lastSwitch : Option ℚ) : Bool :=
  lastSwitch.all fun lastSwitch => decide (tuning.switchCooldown ≤ now - lastSwitch)

def recentlyFailedStillSuppressed (now : ℚ) (failedAt : Option ℚ) : Bool :=
  failedAt.any fun failedAt => decide (now - failedAt < tuning.recentlyFailedSuppression)

def connectionCandidates (profileIDs : List Id)
    (primaryID lastSuccessfulID recentlyFailedID : Option Id) (latencies : Id → Option Int) :
    List Id :=
  let ordered := orderCandidates profileIDs primaryID lastSuccessfulID recentlyFailedID latencies
  let eligible := ordered.filter fun id => decide (some id ≠ recentlyFailedID)
  eligible.take (max 1 tuning.maxConnectionCandidates).toNat

def shouldProbePrimary (now : ℚ) (lastAttempt lastSwitch : Option ℚ) : Bool :=
  cooldownElapsed tuning now lastSwitch &&
    lastAttempt.all fun lastAttempt => decide (tuning.backupScanInterval ≤ now - lastAttempt)

end FailoverPolicy

namespace PacketTunnel

open FailoverPolicy

variable {Id : Type}

/-- What the application sets, with the fresh latencies at a date. -/
structure Settings (Id : Type) where
  profiles : List Id
  automaticSelection : Bool
  selectedProfileID : Option Id := none
  primaryProfileID : Option Id := none
  returnToPrimary : Bool := false
  freshLatencies : ℚ → Id → Option Int := fun _ _ => none

/-- `ProfileStore`, as far as the choice of a profile depends on it. -/
structure Store (Id : Type) where
  settings : Settings Id
  lastAutoProfileID : Option Id := none
  recentlyFailedProfileID : Option Id := none
  recentlyFailedAt : Option ℚ := none
  lastFailoverAt : Option ℚ := none

/-- `PreparedProxy`. -/
structure Prepared (Id : Type) where
  storedProfile : Id
  automaticSelection : Bool
deriving DecidableEq

/-- Why the monitor starts the engine again. -/
inductive Reason where
  | primaryRestored
  | failover
deriving DecidableEq

/-- What the monitor waits for: the next iteration, the primary profile, the check of the current
one, the first of these candidates, or the engine with another profile. -/
inductive Monitor (Id : Type) where
  | sleeping
  | probingPrimary (current primary : Id)
  | checking (current : Id)
  | preparing (automatic : Bool) (candidates : List Id)
  | switching (target : Prepared Id) (reason : Reason)

/-- `PacketTunnelProvider`. -/
structure Provider (Id : Type) where
  store : Store Id
  active : Option (Prepared Id)
  consecutiveFailures : ℕ := 0
  lastPrimaryRecoveryProbeAt : Option ℚ := none
  switching : Bool := false
  stopping : Bool := false
  cancelled : Bool := false
  monitor : Monitor Id := .sleeping
  recycling : Option (Prepared Id) := none

/-- The profile that `selectProxy` does not choose since it has failed just now. -/
def Store.failedID (store : Store Id) (tuning : FailoverTuning) (now : ℚ) : Option Id :=
  if recentlyFailedStillSuppressed tuning now store.recentlyFailedAt = true then
    store.recentlyFailedProfileID
  else none

/-- The candidates of `selectProxy` that are prepared one after the other, and whether they are
chosen automatically.  There are none when it throws at once. -/
def Store.selection [DecidableEq Id] (store : Store Id) (tuning : FailoverTuning) (now : ℚ) :
    Bool × List Id :=
  if store.settings.automaticSelection = false then
    (false, (store.settings.selectedProfileID.filter fun id =>
      decide (id ∈ store.settings.profiles)).toList)
  else
    (true, connectionCandidates tuning store.settings.profiles store.settings.primaryProfileID
      store.lastAutoProfileID (store.failedID tuning now) (store.settings.freshLatencies now))

/-- `markRecentlyFailed` and the date of the failover. -/
def Store.markFailed (store : Store Id) (id : Id) (now : ℚ) : Store Id :=
  { store with
    recentlyFailedProfileID := some id
    recentlyFailedAt := some now
    lastFailoverAt := some now }

/-- `delete`: the profile is removed, and what is remembered of it. -/
def Store.delete [DecidableEq Id] (store : Store Id) (id : Id) : Store Id :=
  { store with
    settings := { store.settings with profiles := store.settings.profiles.erase id }
    lastAutoProfileID := store.lastAutoProfileID.filter fun last => decide (last ≠ id)
    recentlyFailedProfileID :=
      store.recentlyFailedProfileID.filter fun failed => decide (failed ≠ id)
    recentlyFailedAt :=
      if store.recentlyFailedProfileID = some id then none else store.recentlyFailedAt }

/-- The primary profile that `monitorIteration` probes. -/
def Provider.primaryToProbe [DecidableEq Id] (provider : Provider Id) (tuning : FailoverTuning)
    (current : Id) (now : ℚ) : Option Id :=
  if provider.store.settings.returnToPrimary = true then
    provider.store.settings.primaryProfileID.filter fun primary =>
      decide (primary ≠ current) && decide (primary ∈ provider.store.settings.profiles) &&
        shouldProbePrimary tuning now provider.lastPrimaryRecoveryProbeAt
          provider.store.lastFailoverAt
  else none

/-- The start of `monitorIteration`. -/
def Provider.iterate [DecidableEq Id] (provider : Provider Id) (tuning : FailoverTuning) (now : ℚ) :
    Provider Id :=
  if provider.stopping = true ∨ provider.switching = true then provider
  else
    match provider.active with
    | some current =>
        if current.automaticSelection = true then
          match provider.primaryToProbe tuning current.storedProfile now with
          | some primary =>
              { provider with
                lastPrimaryRecoveryProbeAt := some now
                monitor := .probingPrimary current.storedProfile primary }
          | none => { provider with monitor := .checking current.storedProfile }
        else provider
    | none => provider

/-- The start of `switchTo`, which gives up while the engine is started again. -/
def Provider.switchTo (provider : Provider Id) (target : Prepared Id) (reason : Reason) :
    Provider Id :=
  if provider.switching = true ∨ provider.stopping = true then
    { provider with monitor := .sleeping }
  else { provider with switching := true, monitor := .switching target reason }

/-- A failed check confirms the failure of the proxy, and the last change was not just now. -/
def Provider.failsOver (provider : Provider Id) (tuning : FailoverTuning) (now : ℚ) : Bool :=
  failureConfirmed tuning (provider.consecutiveFailures + 1) &&
    cooldownElapsed tuning now provider.store.lastFailoverAt

/-- The monitor waits for the first of some candidates. -/
def Provider.prepare (provider : Provider Id) (automatic : Bool) (candidates : List Id) :
    Provider Id :=
  { provider with
    monitor :=
      match candidates with
      | [] => .sleeping
      | _ :: _ => .preparing automatic candidates }

/-- The end of the check of the current profile. -/
def Provider.checked [DecidableEq Id] (provider : Provider Id) (tuning : FailoverTuning)
    (current : Id) (healthy : Bool) (now : ℚ) : Provider Id :=
  if provider.stopping = true then { provider with monitor := .sleeping }
  else if healthy = true then { provider with consecutiveFailures := 0, monitor := .sleeping }
  else if provider.failsOver tuning now = true then
    let store := provider.store.markFailed current now
    let selection := store.selection tuning now
    { provider with
      store := store
      consecutiveFailures := provider.consecutiveFailures + 1 }.prepare selection.1 selection.2
  else
    { provider with
      consecutiveFailures := provider.consecutiveFailures + 1
      monitor := .sleeping }

/-- The first candidate has been prepared or has failed. -/
def Provider.candidatePrepared (provider : Provider Id) (automatic : Bool) (candidate : Id)
    (candidates : List Id) (answers : Bool) : Provider Id :=
  if provider.stopping = true then { provider with monitor := .sleeping }
  else if answers = true then provider.switchTo ⟨candidate, automatic⟩ .failover
  else provider.prepare automatic candidates

/-- The end of `switchTo`. -/
def Provider.switched (provider : Provider Id) (target : Prepared Id) (reason : Reason)
    (applied : Bool) (now : ℚ) : Provider Id :=
  let provider := { provider with switching := false, monitor := .sleeping }
  if provider.stopping = true then provider
  else if applied = true then
    { provider with
      active := some target
      consecutiveFailures := 0
      store := { provider.store with
        lastAutoProfileID := some target.storedProfile
        lastFailoverAt := some now
        recentlyFailedProfileID :=
          if reason = .primaryRestored then none else provider.store.recentlyFailedProfileID
        recentlyFailedAt :=
          if reason = .primaryRestored then none else provider.store.recentlyFailedAt } }
  else { provider with cancelled := true }

/-- The end of `switchTo` for the profile that is active, after connections have piled up. -/
def Provider.recycled (provider : Provider Id) (current : Prepared Id) (applied : Bool) :
    Provider Id :=
  let provider := { provider with switching := false, recycling := none }
  if provider.stopping = true then provider
  else if applied = true then
    { provider with
      active := some current
      consecutiveFailures := 0
      store := { provider.store with lastAutoProfileID := some current.storedProfile } }
  else { provider with cancelled := true }

inductive Action (Id : Type) where
  | iterate (now : ℚ)
  | primaryProbed (answers : Bool)
  | checked (healthy : Bool) (now : ℚ)
  | prepared (answers : Bool)
  | switched (applied : Bool) (now : ℚ)
  | recycle
  | recycled (applied : Bool)
  | configure (settings : Settings Id)
  | delete (id : Id)
  | stop

variable [DecidableEq Id] (tuning : FailoverTuning)

/-- The parts of the tasks between their waits, and what the application and the system do. -/
def proceed (provider : Provider Id) : Action Id → Option (Provider Id)
  | .iterate now =>
      match provider.monitor with
      | .sleeping => some (provider.iterate tuning now)
      | _ => none
  | .primaryProbed answers =>
      match provider.monitor with
      | .probingPrimary current primary =>
          if answers = true then
            some (if provider.stopping = true then { provider with monitor := .sleeping }
              else provider.switchTo ⟨primary, true⟩ .primaryRestored)
          else some { provider with monitor := .checking current }
      | _ => none
  | .checked healthy now =>
      match provider.monitor with
      | .checking current => some (provider.checked tuning current healthy now)
      | _ => none
  | .prepared answers =>
      match provider.monitor with
      | .preparing automatic (candidate :: candidates) =>
          some (provider.candidatePrepared automatic candidate candidates answers)
      | _ => none
  | .switched applied now =>
      match provider.monitor with
      | .switching target reason => some (provider.switched target reason applied now)
      | _ => none
  | .recycle =>
      if provider.stopping = true ∨ provider.switching = true then none
      else provider.active.map fun current =>
        { provider with switching := true, recycling := some current }
  | .recycled applied => provider.recycling.map fun current => provider.recycled current applied
  | .configure settings =>
      some { provider with store := { provider.store with settings := settings } }
  | .delete id => some { provider with store := provider.store.delete id }
  | .stop => some { provider with stopping := true, active := none }

/-- After a failed switch the system ends the tunnel. -/
def next (provider : Provider Id) (action : Action Id) : Option (Provider Id) :=
  if provider.cancelled = true then none else proceed tuning provider action

/-- What the tasks do.  A failed check that the tunnel acts on has the selection that follows. -/
inductive Event (Id : Type) where
  | probed (primary : Id) (time : ℚ)
  | healthy
  | unhealthy (current : Id) (time : ℚ) (attempt : Option (Bool × List Id))
  | prepared (candidate : Id)
  | switched (target : Prepared Id) (reason : Reason) (time : ℚ)
  | recycled
deriving DecidableEq

def event (provider : Provider Id) : Action Id → Option (Event Id)
  | .iterate now =>
      match (provider.iterate tuning now).monitor with
      | .probingPrimary _ primary => some (.probed primary now)
      | _ => none
  | .checked healthy now =>
      match provider.monitor with
      | .checking current =>
          if provider.stopping = true then none
          else if healthy = true then some .healthy
          else some (.unhealthy current now
            (if provider.failsOver tuning now = true then
              some ((provider.store.markFailed current now).selection tuning now)
            else none))
      | _ => none
  | .prepared _ =>
      match provider.monitor with
      | .preparing _ (candidate :: _) => some (.prepared candidate)
      | _ => none
  | .switched applied now =>
      match provider.monitor with
      | .switching target reason =>
          if provider.stopping = false ∧ applied = true then some (.switched target reason now)
          else none
      | _ => none
  | .recycled applied =>
      if provider.stopping = false ∧ applied = true then some .recycled else none
  | .primaryProbed _ | .recycle | .configure _ | .delete _ | .stop => none

/-- A tunnel that has started, with the date of the last failover from before. -/
def machine (since : Option ℚ) : Machine (Provider Id) (Action Id) (Event Id) where
  initial provider := provider.store.lastFailoverAt = since ∧ provider.consecutiveFailures = 0 ∧
    provider.lastPrimaryRecoveryProbeAt = none ∧ provider.monitor = .sleeping
  next := next tuning
  event := event tuning

/-- The date of the last failover, attempted or done. -/
def Event.mark (last : Option ℚ) : Event Id → Option ℚ
  | .unhealthy _ time (some _) | .switched _ _ time => some time
  | .unhealthy _ _ none | .probed _ _ | .healthy | .prepared _ | .recycled => last

def lastFailover (since : Option ℚ) (events : List (Event Id)) : Option ℚ :=
  events.foldl Event.mark since

/-- The date of the last probe of the primary profile. -/
def Event.probe (last : Option ℚ) : Event Id → Option ℚ
  | .probed _ time => some time
  | .unhealthy _ _ _ | .switched _ _ _ | .healthy | .prepared _ | .recycled => last

def lastProbe (events : List (Event Id)) : Option ℚ :=
  events.foldl Event.probe none

/-- The failed checks since the last good one, or since the engine was started again. -/
def Event.count (failures : ℕ) : Event Id → ℕ
  | .unhealthy _ _ _ => failures + 1
  | .healthy | .switched _ _ _ | .recycled => 0
  | .probed _ _ | .prepared _ => failures

def failures (events : List (Event Id)) : ℕ :=
  events.foldl Event.count 0

/-- The last selection after a failed check, and the candidates that were prepared since. -/
def Event.trying (last : Option (Bool × List Id) × List Id) :
    Event Id → Option (Bool × List Id) × List Id
  | .unhealthy _ _ (some attempt) => (some attempt, [])
  | .prepared candidate => (last.1, last.2 ++ [candidate])
  | .unhealthy _ _ none | .probed _ _ | .healthy | .switched _ _ _ | .recycled => last

def tried (events : List (Event Id)) : Option (Bool × List Id) × List Id :=
  events.foldl Event.trying (none, [])

/-- What the history before an event has to be. -/
def Justified (tuning : FailoverTuning) (since : Option ℚ) (before : List (Event Id)) :
    Event Id → Prop
  | .probed _ time =>
      (∀ last, lastFailover since before = some last → tuning.switchCooldown ≤ time - last) ∧
        ∀ last, lastProbe before = some last → tuning.backupScanInterval ≤ time - last
  | .unhealthy current time (some attempt) =>
      tuning.failureThreshold ≤ failures before + 1 ∧
        (∀ last, lastFailover since before = some last → tuning.switchCooldown ≤ time - last) ∧
        attempt.2.Nodup ∧ attempt.2.length ≤ (max 1 tuning.maxConnectionCandidates).toNat ∧
        (attempt.1 = true → current ∉ attempt.2)
  | .prepared candidate =>
      ∃ attempt, (tried before).1 = some attempt ∧ (tried before).2 ++ [candidate] <+: attempt.2
  | .switched target .failover _ =>
      ∃ attempt, (tried before).1 = some attempt ∧ attempt.1 = target.automaticSelection ∧
        (tried before).2.getLast? = some target.storedProfile
  | .unhealthy _ _ none | .switched _ .primaryRestored _ | .healthy | .recycled => True

variable {tuning : FailoverTuning} {since : Option ℚ} {provider provider' : Provider Id}
  {action : Action Id} {events before after : List (Event Id)} {seen : Event Id} {now last : ℚ}

theorem cooldownElapsed_iff {lastSwitch : Option ℚ} :
    cooldownElapsed tuning now lastSwitch = true ↔
      ∀ last, lastSwitch = some last → tuning.switchCooldown ≤ now - last := by
  cases lastSwitch with
  | none => simp [cooldownElapsed]
  | some last => simp [cooldownElapsed]

theorem shouldProbePrimary_iff {lastAttempt lastSwitch : Option ℚ} :
    shouldProbePrimary tuning now lastAttempt lastSwitch = true ↔
      (∀ last, lastSwitch = some last → tuning.switchCooldown ≤ now - last) ∧
        ∀ last, lastAttempt = some last → tuning.backupScanInterval ≤ now - last := by
  rw [shouldProbePrimary, Bool.and_eq_true, cooldownElapsed_iff]
  cases lastAttempt with
  | none => simp
  | some last => simp

theorem nodup_connectionCandidates (profileIDs : List Id)
    (primaryID lastSuccessfulID recentlyFailedID : Option Id) (latencies : Id → Option Int) :
    (connectionCandidates tuning profileIDs primaryID lastSuccessfulID recentlyFailedID
      latencies).Nodup := by
  have distinct : (orderCandidates profileIDs primaryID lastSuccessfulID recentlyFailedID
      latencies).Nodup := by
    rw [Mobile.ios_orderCandidates_eq, (Mobile.demoteFailed_perm _ _).nodup_iff]
    exact Selection.nodup_distinct _
  exact (distinct.filter _).sublist (List.take_sublist _ _)

/-- After a failed check each candidate is tried once, there are few of them, and an automatic
selection does not have the profile that has failed. -/
theorem selection_markFailed (suppresses : 0 < tuning.recentlyFailedSuppression)
    (store : Store Id) (current : Id) (now : ℚ) :
    ((store.markFailed current now).selection tuning now).2.Nodup ∧
      ((store.markFailed current now).selection tuning now).2.length ≤
        (max 1 tuning.maxConnectionCandidates).toNat ∧
      (((store.markFailed current now).selection tuning now).1 = true →
        current ∉ ((store.markFailed current now).selection tuning now).2) := by
  have failed : (store.markFailed current now).failedID tuning now = some current := by
    apply if_pos
    simpa [recentlyFailedStillSuppressed, Store.markFailed] using suppresses
  unfold Store.selection
  rw [failed]
  split_ifs with manual
  · refine ⟨?_, ?_, nofun⟩
    · cases (store.markFailed current now).settings.selectedProfileID.filter fun id =>
        decide (id ∈ (store.markFailed current now).settings.profiles) with
      | none => exact List.nodup_nil
      | some id => exact List.nodup_singleton id
    · have one : 1 ≤ (max 1 tuning.maxConnectionCandidates).toNat := by omega
      cases (store.markFailed current now).settings.selectedProfileID.filter fun id =>
        decide (id ∈ (store.markFailed current now).settings.profiles) with
      | none => exact Nat.zero_le _
      | some id => exact one
  · refine ⟨nodup_connectionCandidates _ _ _ _ _, List.length_take_le _ _, ?_⟩
    intro _ there
    have eligible := List.mem_of_mem_take there
    rw [List.mem_filter, decide_eq_true_eq] at eligible
    exact eligible.2 rfl

/-! ## What the tunnel knows of the history -/

/-- The tunnel remembers the last failover, the last probe of the primary profile and the failed
checks in a row, and where it is in the last selection. -/
structure Recalls (since : Option ℚ) (events : List (Event Id)) (provider : Provider Id) :
    Prop where
  failover : provider.store.lastFailoverAt = lastFailover since events
  probe : provider.lastPrimaryRecoveryProbeAt = lastProbe events
  count : provider.consecutiveFailures = failures events
  preparing : ∀ automatic candidates, provider.monitor = .preparing automatic candidates →
    ∃ all, (tried events).1 = some (automatic, all) ∧ (tried events).2 ++ candidates = all
  switching : ∀ target, provider.monitor = .switching target .failover →
    ∃ attempt, (tried events).1 = some attempt ∧ attempt.1 = target.automaticSelection ∧
      (tried events).2.getLast? = some target.storedProfile

omit [DecidableEq Id] in
theorem lastFailover_append :
    lastFailover since (events ++ [seen]) = seen.mark (lastFailover since events) := by
  rw [lastFailover, List.foldl_append]
  rfl

omit [DecidableEq Id] in
theorem lastProbe_append : lastProbe (events ++ [seen]) = seen.probe (lastProbe events) := by
  rw [lastProbe, List.foldl_append]
  rfl

omit [DecidableEq Id] in
theorem failures_append : failures (events ++ [seen]) = seen.count (failures events) := by
  rw [failures, List.foldl_append]
  rfl

omit [DecidableEq Id] in
theorem tried_append : tried (events ++ [seen]) = seen.trying (tried events) := by
  rw [tried, List.foldl_append]
  rfl

omit [DecidableEq Id] in
/-- Without an event, and with the monitor as it was or waiting for something else. -/
theorem Recalls.silent (recalls : Recalls since events provider)
    (failover : provider'.store.lastFailoverAt = provider.store.lastFailoverAt)
    (probe : provider'.lastPrimaryRecoveryProbeAt = provider.lastPrimaryRecoveryProbeAt)
    (count : provider'.consecutiveFailures = provider.consecutiveFailures)
    (monitor : provider'.monitor = provider.monitor ∨
      (∀ automatic candidates, provider'.monitor ≠ .preparing automatic candidates) ∧
        ∀ target, provider'.monitor ≠ .switching target .failover) :
    Recalls since events provider' := by
  refine ⟨failover.trans recalls.failover, probe.trans recalls.probe, count.trans recalls.count,
    ?_, ?_⟩
  · intro automatic candidates waiting
    rcases monitor with same | ⟨other, -⟩
    · exact recalls.preparing automatic candidates (same ▸ waiting)
    · exact absurd waiting (other automatic candidates)
  · intro target waiting
    rcases monitor with same | ⟨-, other⟩
    · exact recalls.switching target (same ▸ waiting)
    · exact absurd waiting (other target)

omit [DecidableEq Id] in
/-- The monitor waits for the candidates that it is given, if there are any. -/
theorem monitor_prepare (provider : Provider Id) (automatic : Bool) (candidates : List Id) :
    (provider.prepare automatic candidates).monitor = .preparing automatic candidates ∨
      (provider.prepare automatic candidates).monitor = .sleeping := by
  cases candidates with
  | nil => exact .inr rfl
  | cons candidate candidates => exact .inl rfl

/-- The start of an iteration does nothing, checks the current profile or probes the primary
one. -/
theorem iterate_cases (provider : Provider Id) (now : ℚ) :
    provider.iterate tuning now = provider ∨
      (∃ current, provider.iterate tuning now = { provider with monitor := .checking current }) ∨
      ∃ current primary, provider.primaryToProbe tuning current now = some primary ∧
        provider.iterate tuning now = { provider with
          lastPrimaryRecoveryProbeAt := some now
          monitor := .probingPrimary current primary } := by
  unfold Provider.iterate
  split_ifs
  · exact .inl rfl
  · cases provider.active with
    | none => exact .inl rfl
    | some current =>
        dsimp only
        split_ifs
        · cases probes : provider.primaryToProbe tuning current.storedProfile now with
          | none => exact .inr (.inl ⟨_, rfl⟩)
          | some primary => exact .inr (.inr ⟨_, primary, probes, rfl⟩)
        · exact .inl rfl

theorem Recalls.iterate (recalls : Recalls since events provider)
    (sleeping : provider.monitor = .sleeping) (now : ℚ) :
    Recalls since (events ++ (event tuning provider (.iterate now)).toList)
      (provider.iterate tuning now) := by
  rw [event]
  rcases @iterate_cases _ _ tuning provider now with same | ⟨current, checks⟩ |
      ⟨current, primary, -, probes⟩
  · rw [same, sleeping]
    simpa using recalls
  · rw [checks]
    simp only [Option.toList_none, List.append_nil]
    exact recalls.silent rfl rfl rfl (.inr ⟨nofun, nofun⟩)
  · rw [probes]
    simp only [Option.toList_some]
    refine ⟨?_, ?_, ?_, nofun, nofun⟩
    · rw [lastFailover_append]
      exact recalls.failover
    · rw [lastProbe_append]
      rfl
    · rw [failures_append]
      exact recalls.count

theorem Recalls.checked (recalls : Recalls since events provider) {current : Id}
    (checking : provider.monitor = .checking current) (healthy : Bool) (now : ℚ) :
    Recalls since (events ++ (event tuning provider (.checked healthy now)).toList)
      (provider.checked tuning current healthy now) := by
  unfold event Provider.checked
  rw [checking]
  dsimp only
  split_ifs with stopping good fails
  · simp only [Option.toList_none, List.append_nil]
    exact recalls.silent rfl rfl rfl (.inr ⟨nofun, nofun⟩)
  · rw [Option.toList_some]
    refine ⟨?_, ?_, ?_, nofun, nofun⟩
    · rw [lastFailover_append]
      exact recalls.failover
    · rw [lastProbe_append]
      exact recalls.probe
    · rw [failures_append]
      rfl
  · rw [Option.toList_some]
    refine ⟨?_, ?_, ?_, ?_, ?_⟩
    · rw [lastFailover_append]
      rfl
    · rw [lastProbe_append]
      exact recalls.probe
    · rw [failures_append]
      exact congrArg (· + 1) recalls.count
    · intro automatic candidates waiting
      rw [tried_append]
      rcases monitor_prepare _ _ _ with prepares | sleeps
      · obtain ⟨rfl, rfl⟩ := Monitor.preparing.inj (prepares.symm.trans waiting)
        exact ⟨_, rfl, rfl⟩
      · cases sleeps.symm.trans waiting
    · intro target waiting
      rcases monitor_prepare _ _ _ with prepares | sleeps
      · cases prepares.symm.trans waiting
      · cases sleeps.symm.trans waiting
  · rw [Option.toList_some]
    refine ⟨?_, ?_, ?_, nofun, nofun⟩
    · rw [lastFailover_append]
      exact recalls.failover
    · rw [lastProbe_append]
      exact recalls.probe
    · rw [failures_append]
      exact congrArg (· + 1) recalls.count

omit [DecidableEq Id] in
/-- A switch begins, or the monitor gives it up. -/
theorem switchTo_cases (provider : Provider Id) (target : Prepared Id) (reason : Reason) :
    provider.switchTo target reason = { provider with monitor := .sleeping } ∨
      provider.switchTo target reason =
        { provider with switching := true, monitor := .switching target reason } := by
  unfold Provider.switchTo
  split_ifs
  · exact .inl rfl
  · exact .inr rfl

omit [DecidableEq Id] in
theorem Recalls.primaryProbed (recalls : Recalls since events provider) (primary : Id) :
    Recalls since events (provider.switchTo ⟨primary, true⟩ .primaryRestored) := by
  rcases switchTo_cases provider ⟨primary, true⟩ .primaryRestored with same | same
  · rw [same]
    exact recalls.silent rfl rfl rfl (.inr ⟨nofun, nofun⟩)
  · rw [same]
    exact recalls.silent rfl rfl rfl (.inr ⟨nofun, nofun⟩)

omit [DecidableEq Id] in
theorem Recalls.prepared (recalls : Recalls since events provider) {automatic : Bool}
    {candidate : Id} {candidates : List Id}
    (preparing : provider.monitor = .preparing automatic (candidate :: candidates))
    (answers : Bool) :
    Recalls since (events ++ [.prepared candidate])
      (provider.candidatePrepared automatic candidate candidates answers) := by
  obtain ⟨all, attempt, split⟩ := recalls.preparing _ _ preparing
  have failover : provider.store.lastFailoverAt =
      lastFailover since (events ++ [.prepared candidate]) := by
    rw [lastFailover_append]
    exact recalls.failover
  have probe : provider.lastPrimaryRecoveryProbeAt =
      lastProbe (events ++ [.prepared candidate]) := by
    rw [lastProbe_append]
    exact recalls.probe
  have count : provider.consecutiveFailures = failures (events ++ [.prepared candidate]) := by
    rw [failures_append]
    exact recalls.count
  unfold Provider.candidatePrepared
  split_ifs
  · exact ⟨failover, probe, count, nofun, nofun⟩
  · rcases switchTo_cases provider ⟨candidate, automatic⟩ .failover with same | same
    · rw [same]
      exact ⟨failover, probe, count, nofun, nofun⟩
    · rw [same]
      refine ⟨failover, probe, count, nofun, ?_⟩
      intro target switching
      obtain ⟨rfl, -⟩ := Monitor.switching.inj switching
      rw [tried_append]
      exact ⟨_, attempt, rfl, List.getLast?_concat ..⟩
  · refine ⟨failover, probe, count, ?_, ?_⟩
    · intro automatic' candidates' waiting
      rcases monitor_prepare provider automatic candidates with prepares | sleeps
      · obtain ⟨rfl, rfl⟩ := Monitor.preparing.inj (prepares.symm.trans waiting)
        rw [tried_append]
        refine ⟨all, attempt, ?_⟩
        rw [← split]
        exact List.append_assoc _ _ _
      · cases sleeps.symm.trans waiting
    · intro target waiting
      rcases monitor_prepare provider automatic candidates with prepares | sleeps
      · cases prepares.symm.trans waiting
      · cases sleeps.symm.trans waiting

theorem Recalls.switched (recalls : Recalls since events provider) {target : Prepared Id}
    {reason : Reason} (switching : provider.monitor = .switching target reason) (applied : Bool)
    (now : ℚ) :
    Recalls since (events ++ (event tuning provider (.switched applied now)).toList)
      (provider.switched target reason applied now) := by
  unfold event Provider.switched
  rw [switching]
  dsimp only
  by_cases stopping : provider.stopping = true
  · rw [if_pos stopping, if_neg (by simp [stopping])]
    simp only [Option.toList_none, List.append_nil]
    exact recalls.silent rfl rfl rfl (.inr ⟨nofun, nofun⟩)
  · rw [if_neg stopping]
    cases applied with
    | false =>
        simp only [Bool.false_eq_true, and_false, if_false, Option.toList_none, List.append_nil]
        exact recalls.silent rfl rfl rfl (.inr ⟨nofun, nofun⟩)
    | true =>
        rw [if_pos ⟨Bool.not_eq_true _ ▸ stopping, rfl⟩, if_pos rfl, Option.toList_some]
        refine ⟨?_, ?_, ?_, nofun, nofun⟩
        · rw [lastFailover_append]
          rfl
        · rw [lastProbe_append]
          exact recalls.probe
        · rw [failures_append]
          rfl

theorem Recalls.recycled (recalls : Recalls since events provider) (current : Prepared Id)
    (applied : Bool) :
    Recalls since (events ++ (event tuning provider (.recycled applied)).toList)
      (provider.recycled current applied) := by
  unfold event Provider.recycled
  dsimp only
  by_cases stopping : provider.stopping = true
  · rw [if_pos stopping, if_neg (by simp [stopping])]
    simp only [Option.toList_none, List.append_nil]
    exact recalls.silent rfl rfl rfl (.inl rfl)
  · rw [if_neg stopping]
    cases applied with
    | false =>
        simp only [Bool.false_eq_true, and_false, if_false, Option.toList_none, List.append_nil]
        exact recalls.silent rfl rfl rfl (.inl rfl)
    | true =>
        rw [if_pos ⟨Bool.not_eq_true _ ▸ stopping, rfl⟩, if_pos rfl, Option.toList_some]
        refine ⟨?_, ?_, ?_, ?_, ?_⟩
        · rw [lastFailover_append]
          exact recalls.failover
        · rw [lastProbe_append]
          exact recalls.probe
        · rw [failures_append]
          rfl
        · rw [tried_append]
          exact recalls.preparing
        · rw [tried_append]
          exact recalls.switching

theorem Recalls.next (recalls : Recalls since events provider)
    (step : PacketTunnel.next tuning provider action = some provider') :
    Recalls since (events ++ (event tuning provider action).toList) provider' := by
  obtain ⟨-, step⟩ := Option.ite_none_left_eq_some.mp step
  cases action with
  | iterate now =>
      cases monitor : provider.monitor with
      | sleeping =>
          simp only [proceed, monitor] at step
          obtain rfl := Option.some.inj step
          exact recalls.iterate monitor now
      | _ => simp [proceed, monitor] at step
  | primaryProbed answers =>
      cases monitor : provider.monitor with
      | probingPrimary current primary =>
          simp only [proceed, monitor] at step
          simp only [event, Option.toList_none, List.append_nil]
          split_ifs at step
          · obtain rfl := Option.some.inj step
            exact recalls.silent rfl rfl rfl (.inr ⟨nofun, nofun⟩)
          · obtain rfl := Option.some.inj step
            exact recalls.primaryProbed primary
          · obtain rfl := Option.some.inj step
            exact recalls.silent rfl rfl rfl (.inr ⟨nofun, nofun⟩)
      | _ => simp [proceed, monitor] at step
  | checked healthy now =>
      cases monitor : provider.monitor with
      | checking current =>
          simp only [proceed, monitor] at step
          obtain rfl := Option.some.inj step
          exact recalls.checked monitor healthy now
      | _ => simp [proceed, monitor] at step
  | prepared answers =>
      cases monitor : provider.monitor with
      | preparing automatic candidates =>
          cases candidates with
          | nil => simp [proceed, monitor] at step
          | cons candidate candidates =>
              simp only [proceed, monitor] at step
              obtain rfl := Option.some.inj step
              simp only [event, monitor, Option.toList_some]
              exact recalls.prepared monitor answers
      | _ => simp [proceed, monitor] at step
  | switched applied now =>
      cases monitor : provider.monitor with
      | switching target reason =>
          simp only [proceed, monitor] at step
          obtain rfl := Option.some.inj step
          exact recalls.switched monitor applied now
      | _ => simp [proceed, monitor] at step
  | recycle =>
      simp only [event, Option.toList_none, List.append_nil]
      obtain ⟨-, found⟩ := Option.ite_none_left_eq_some.mp step
      obtain ⟨current, -, rfl⟩ := Option.map_eq_some_iff.mp found
      exact recalls.silent rfl rfl rfl (.inl rfl)
  | recycled applied =>
      obtain ⟨current, -, rfl⟩ := Option.map_eq_some_iff.mp step
      exact recalls.recycled current applied
  | configure settings =>
      obtain rfl := Option.some.inj step
      simp only [event, Option.toList_none, List.append_nil]
      exact recalls.silent rfl rfl rfl (.inl rfl)
  | delete id =>
      obtain rfl := Option.some.inj step
      simp only [event, Option.toList_none, List.append_nil]
      exact recalls.silent rfl rfl rfl (.inl rfl)
  | stop =>
      obtain rfl := Option.some.inj step
      simp only [event, Option.toList_none, List.append_nil]
      exact recalls.silent rfl rfl rfl (.inl rfl)

theorem recalls_of_reaches
    (reaches : (machine tuning since).Reaches Machine.Always events provider) :
    Recalls since events provider := by
  induction reaches with
  | start initial =>
      obtain ⟨failover, count, probe, sleeping⟩ := initial
      exact ⟨failover, probe, count, fun _ _ waiting => (by cases sleeping.symm.trans waiting),
        fun _ waiting => (by cases sleeping.symm.trans waiting)⟩
  | step action _ _ next ih => exact ih.next next

theorem Recalls.iterate_justified (recalls : Recalls since events provider)
    (sleeping : provider.monitor = .sleeping) (now : ℚ)
    (occurs : event tuning provider (.iterate now) = some seen) :
    Justified tuning since events seen := by
  rw [event] at occurs
  rcases @iterate_cases _ _ tuning provider now with same | ⟨current, checks⟩ |
      ⟨current, primary, chosen, probes⟩
  · rw [same, sleeping] at occurs
    cases occurs
  · rw [checks] at occurs
    cases occurs
  · rw [probes] at occurs
    obtain rfl := Option.some.inj occurs
    obtain ⟨-, chosen⟩ := Option.ite_none_right_eq_some.mp chosen
    have probed := (Option.filter_eq_some_iff.mp chosen).2
    rw [Bool.and_eq_true, shouldProbePrimary_iff, recalls.failover, recalls.probe] at probed
    exact probed.2

theorem Recalls.checked_justified (recalls : Recalls since events provider)
    (suppresses : 0 < tuning.recentlyFailedSuppression) {current : Id}
    (checking : provider.monitor = .checking current) (healthy : Bool) (now : ℚ)
    (occurs : event tuning provider (.checked healthy now) = some seen) :
    Justified tuning since events seen := by
  rw [event, checking] at occurs
  dsimp only at occurs
  split_ifs at occurs with stopping good fails
  · obtain rfl := Option.some.inj occurs
    trivial
  · obtain rfl := Option.some.inj occurs
    rw [Provider.failsOver, Bool.and_eq_true, cooldownElapsed_iff, recalls.failover,
      recalls.count] at fails
    exact ⟨of_decide_eq_true fails.1, fails.2, selection_markFailed suppresses _ _ _⟩
  · obtain rfl := Option.some.inj occurs
    trivial

theorem Recalls.justified (recalls : Recalls since events provider)
    (suppresses : 0 < tuning.recentlyFailedSuppression)
    (step : PacketTunnel.next tuning provider action = some provider')
    (occurs : event tuning provider action = some seen) : Justified tuning since events seen := by
  obtain ⟨-, step⟩ := Option.ite_none_left_eq_some.mp step
  cases action with
  | iterate now =>
      cases monitor : provider.monitor with
      | sleeping => exact recalls.iterate_justified monitor now occurs
      | _ => simp [proceed, monitor] at step
  | checked healthy now =>
      cases monitor : provider.monitor with
      | checking current => exact recalls.checked_justified suppresses monitor healthy now occurs
      | _ => simp [proceed, monitor] at step
  | prepared answers =>
      cases monitor : provider.monitor with
      | preparing automatic candidates =>
          cases candidates with
          | nil => simp [proceed, monitor] at step
          | cons candidate candidates =>
              simp only [event, monitor] at occurs
              obtain rfl := Option.some.inj occurs
              obtain ⟨all, attempt, split⟩ := recalls.preparing _ _ monitor
              refine ⟨_, attempt, candidates, ?_⟩
              rw [List.append_assoc]
              exact split
      | _ => simp [proceed, monitor] at step
  | switched applied now =>
      cases monitor : provider.monitor with
      | switching target reason =>
          simp only [event, monitor] at occurs
          obtain ⟨-, occurs⟩ := Option.ite_none_right_eq_some.mp occurs
          obtain rfl := Option.some.inj occurs
          cases reason with
          | primaryRestored => trivial
          | failover => exact recalls.switching target monitor
      | _ => simp [proceed, monitor] at step
  | recycled applied =>
      obtain ⟨-, occurs⟩ := Option.ite_none_right_eq_some.mp occurs
      obtain rfl := Option.some.inj occurs
      trivial
  | primaryProbed | recycle | configure | delete | stop => cases occurs

/-- Whatever the application and the other task do between, the monitor acts on a failure only
after enough failed checks in a row, never sooner than the cooldown after the last change, and
tries each of the candidates that it has selected then at most once, in their order; an automatic
selection does not have the profile that has failed.  It switches to the candidate that it tried
last, and it probes the primary profile no sooner than both delays allow. -/
theorem failover_discipline (suppresses : 0 < tuning.recentlyFailedSuppression)
    (reaches : (machine tuning since).Reaches Machine.Always events provider) :
    ∀ before seen after, events = before ++ seen :: after →
      Justified tuning since before seen := by
  intro before seen after split
  obtain ⟨provider, action, provider', reached, -, step, occurs⟩ := reaches.at_event split
  exact (recalls_of_reaches reached).justified suppresses step occurs

/-- The first profile fails twice, the second does not answer and the third does. -/
def sampleActions : List (Action ℕ) :=
  [.iterate 10, .checked false 12, .iterate 22, .checked false 24, .prepared false,
    .prepared true, .switched true 25, .iterate 35, .checked true 36]

def sampleProvider : Provider ℕ where
  store :=
    { settings := { profiles := [1, 2, 3], automaticSelection := true, primaryProfileID := some 1 }
      lastAutoProfileID := some 1 }
  active := some ⟨1, true⟩

theorem failover_discipline_sample :
    ∃ events provider, (machine {} none).Reaches Machine.Always events provider ∧
      events.take 5 = [.unhealthy 1 12 none, .unhealthy 1 24 (some (true, [2, 3])),
        .prepared 2, .prepared 3, .switched ⟨3, true⟩ .failover 25] ∧
      ∀ before seen after, events = before ++ seen :: after →
        Justified {} none before seen := by
  have executed : ((machine {} none).exec Machine.Always sampleActions [] sampleProvider).any
      (fun result => decide (result.1.take 5 = [.unhealthy 1 12 none,
        .unhealthy 1 24 (some (true, [2, 3])), .prepared 2, .prepared 3,
        .switched ⟨3, true⟩ .failover 25])) = true := by
    decide +kernel
  obtain ⟨⟨events, provider⟩, executed, history⟩ := (Option.any_eq_true _ _).mp executed
  have start : (machine {} none).Reaches Machine.Always [] sampleProvider :=
    .start ⟨rfl, rfl, rfl, rfl⟩
  have reached := start.exec executed
  have suppresses : 0 < ({} : FailoverTuning).recentlyFailedSuppression := by
    decide +kernel
  exact ⟨events, provider, reached, of_decide_eq_true history,
    failover_discipline suppresses reached⟩

end PacketTunnel

end ProxyLauncher.IOS
