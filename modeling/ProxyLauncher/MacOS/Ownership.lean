import ProxyLauncher.Interruption.Contract
import ProxyLauncher.MacOS.Backend

/-!
# What the ownership checks decide

Each `_service_matches_…` method and each loop over them only reads.  This module
names the predicate on the settings of a service that each of them decides, so that
nothing later looks at the reads again.
-/

namespace ProxyLauncher.MacOS

open Interruption Interruption.Program Python

section

variable (py : Runtime)

/-- The state `enable` leaves behind. -/
def ownedState (snapshot : Snapshot) (applied : CanonicalConfig) (proxies : ServiceProxies) :
    Bool :=
  !proxies.auto.enabled && domainsEqual py proxies.bypass (expectedBypass snapshot) &&
    (ownedDirectProxyMatches (proxies.manual .web) applied &&
      ownedDirectProxyMatches (proxies.manual .secureWeb) applied &&
      !(proxies.manual .socks).enabled)

/-- The automatic proxy is enabled as saved, with the saved URL if it was enabled. -/
def autoProxyRestored (auto expected : AutoProxyState) : Bool :=
  auto.enabled == expected.enabled &&
    (!expected.enabled || (strip expected.url ≠ "" && auto.url = strip expected.url))

/-- The state `disable` restores. -/
def savedState (snapshot : Snapshot) (proxies : ServiceProxies) : Bool :=
  autoProxyRestored proxies.auto snapshot.autoProxy &&
    domainsEqual py proxies.bypass snapshot.bypassDomains &&
    (matchesIfSaved (proxies.manual .web) (snapshot.manualProxy .web) &&
      matchesIfSaved (proxies.manual .secureWeb) (snapshot.manualProxy .secureWeb) &&
      matchesIfSaved (proxies.manual .socks) (snapshot.manualProxy .socks))

/-- The states in between that may be restored. -/
def recoverableState (snapshot : Snapshot) (applied : CanonicalConfig)
    (proxies : ServiceProxies) : Bool :=
  (!proxies.auto.enabled || autoProxyMatchesSnapshot proxies.auto snapshot.autoProxy) &&
    (domainsEqual py proxies.bypass (expectedBypass snapshot) ||
      domainsEqual py proxies.bypass snapshot.bypassDomains) &&
    (upstreamProxyRecoverable (proxies.manual .web) (snapshot.manualProxy .web) applied &&
      upstreamProxyRecoverable (proxies.manual .secureWeb) (snapshot.manualProxy .secureWeb)
        applied &&
      socksProxyRecoverable (proxies.manual .socks) (snapshot.manualProxy .socks))

/-- The service is not in a foreign state. -/
def acceptedState (snapshot : Snapshot) (applied : CanonicalConfig)
    (proxies : ServiceProxies) : Bool :=
  ownedState py snapshot applied proxies || savedState py snapshot proxies ||
    recoverableState py snapshot applied proxies

/-- `_restore_plan` puts the service on its list. -/
def needsRestore (snapshot : Snapshot) (applied : CanonicalConfig)
    (proxies : ServiceProxies) : Bool :=
  ownedState py snapshot applied proxies || !savedState py snapshot proxies

theorem observes_autoProxyAndBypass (service : String) :
    (autoProxyAndBypass service).Observes fun world =>
      ((world.proxies service).auto, (world.proxies service).bypass) :=
  (observes_ask ..).bind fun _ => (observes_ask ..).bind fun _ => observes_pure _

theorem observes_manualProxyStates (service : String) :
    (manualProxyStates service).Observes fun world =>
      ((world.proxies service).manual .web, (world.proxies service).manual .secureWeb,
        (world.proxies service).manual .socks) :=
  (observes_ask ..).bind fun _ => (observes_ask ..).bind fun _ =>
    (observes_ask ..).bind fun _ => observes_pure _

theorem decides_manualProxiesMatchOwnedState (service : String) (applied : CanonicalConfig) :
    (manualProxiesMatchOwnedState service applied).Decides fun world =>
      ownedDirectProxyMatches ((world.proxies service).manual .web) applied &&
        ownedDirectProxyMatches ((world.proxies service).manual .secureWeb) applied &&
        !((world.proxies service).manual .socks).enabled :=
  (observes_manualProxyStates service).decides
    (fun (web, secureWeb, socks) _ => ownedDirectProxyMatches web applied &&
      ownedDirectProxyMatches secureWeb applied && !socks.enabled)
    (fun _ => rfl) fun _ => decides_pure _

theorem decides_manualProxiesMatchSnapshot (service : String) (snapshot : Snapshot) :
    (manualProxiesMatchSnapshot service snapshot).Decides fun world =>
      matchesIfSaved ((world.proxies service).manual .web) (snapshot.manualProxy .web) &&
        matchesIfSaved ((world.proxies service).manual .secureWeb)
          (snapshot.manualProxy .secureWeb) &&
        matchesIfSaved ((world.proxies service).manual .socks) (snapshot.manualProxy .socks) :=
  (observes_manualProxyStates service).decides
    (fun (web, secureWeb, socks) _ => matchesIfSaved web (snapshot.manualProxy .web) &&
      matchesIfSaved secureWeb (snapshot.manualProxy .secureWeb) &&
      matchesIfSaved socks (snapshot.manualProxy .socks))
    (fun _ => rfl) fun _ => decides_pure _

theorem decides_manualProxiesRecoverable (service : String) (snapshot : Snapshot)
    (applied : CanonicalConfig) :
    (manualProxiesRecoverable service snapshot applied).Decides fun world =>
      upstreamProxyRecoverable ((world.proxies service).manual .web)
          (snapshot.manualProxy .web) applied &&
        upstreamProxyRecoverable ((world.proxies service).manual .secureWeb)
          (snapshot.manualProxy .secureWeb) applied &&
        socksProxyRecoverable ((world.proxies service).manual .socks)
          (snapshot.manualProxy .socks) :=
  (observes_manualProxyStates service).decides
    (fun (web, secureWeb, socks) _ =>
      upstreamProxyRecoverable web (snapshot.manualProxy .web) applied &&
        upstreamProxyRecoverable secureWeb (snapshot.manualProxy .secureWeb) applied &&
        socksProxyRecoverable socks (snapshot.manualProxy .socks))
    (fun _ => rfl) fun _ => decides_pure _

theorem decides_serviceMatchesOwnedState (service : String) (snapshot : Snapshot)
    (applied : CanonicalConfig) :
    (serviceMatchesOwnedState py service snapshot applied).Decides fun world =>
      ownedState py snapshot applied (world.proxies service) := by
  refine Decides.congr ((observes_autoProxyAndBypass service).decides
    (fun (auto, bypass) world =>
      (!auto.enabled && domainsEqual py bypass (expectedBypass snapshot)) &&
        (ownedDirectProxyMatches ((world.proxies service).manual .web) applied &&
          ownedDirectProxyMatches ((world.proxies service).manual .secureWeb) applied &&
          !((world.proxies service).manual .socks).enabled))
    (fun _ => rfl) ?_) fun _ => rfl
  rintro ⟨auto, bypass⟩
  dsimp only
  split
  next own =>
    exact (decides_manualProxiesMatchOwnedState service applied).congr fun world => by
      simp [own]
  next foreign =>
    exact (decides_pure false).congr fun world => by simp [foreign]

theorem decides_serviceMatchesSnapshot (service : String) (snapshot : Snapshot) :
    (serviceMatchesSnapshot py service snapshot).Decides fun world =>
      savedState py snapshot (world.proxies service) := by
  refine Decides.congr ((observes_autoProxyAndBypass service).decides
    (fun (auto, bypass) world =>
      autoProxyRestored auto snapshot.autoProxy &&
        domainsEqual py bypass snapshot.bypassDomains &&
        (matchesIfSaved ((world.proxies service).manual .web) (snapshot.manualProxy .web) &&
          matchesIfSaved ((world.proxies service).manual .secureWeb)
            (snapshot.manualProxy .secureWeb) &&
          matchesIfSaved ((world.proxies service).manual .socks)
            (snapshot.manualProxy .socks)))
    (fun _ => rfl) ?_) fun _ => rfl
  rintro ⟨auto, bypass⟩
  dsimp only
  split
  next bit => exact (decides_pure false).congr fun world => by simp [autoProxyRestored, bit]
  next bit =>
    split
    next url =>
      obtain ⟨enabled, url | url⟩ := url <;>
        exact (decides_pure false).congr fun world => by simp [autoProxyRestored, enabled, url]
    next url =>
      have restored : autoProxyRestored auto snapshot.autoProxy = true := by
        cases enabled : snapshot.autoProxy.enabled <;>
          simp_all [autoProxyRestored]
      split
      next same =>
        exact (decides_manualProxiesMatchSnapshot service snapshot).congr fun world => by
          simp [restored, same]
      next other => exact (decides_pure false).congr fun world => by simp [other]

theorem decides_serviceMatchesRecoverableState (service : String) (snapshot : Snapshot)
    (applied : CanonicalConfig) :
    (serviceMatchesRecoverableState py service snapshot applied).Decides fun world =>
      recoverableState py snapshot applied (world.proxies service) := by
  refine Decides.congr ((observes_autoProxyAndBypass service).decides
    (fun (auto, bypass) world =>
      (!auto.enabled || autoProxyMatchesSnapshot auto snapshot.autoProxy) &&
        (domainsEqual py bypass (expectedBypass snapshot) ||
          domainsEqual py bypass snapshot.bypassDomains) &&
        (upstreamProxyRecoverable ((world.proxies service).manual .web)
            (snapshot.manualProxy .web) applied &&
          upstreamProxyRecoverable ((world.proxies service).manual .secureWeb)
            (snapshot.manualProxy .secureWeb) applied &&
          socksProxyRecoverable ((world.proxies service).manual .socks)
            (snapshot.manualProxy .socks)))
    (fun _ => rfl) ?_) fun _ => rfl
  rintro ⟨auto, bypass⟩
  dsimp only
  split
  next other =>
    rw [Bool.not_eq_true'] at other
    exact (decides_pure false).congr fun world => by rw [other]; rfl
  next auto =>
    rw [Bool.not_eq_true', Bool.not_eq_false] at auto
    split
    next other =>
      rw [Bool.not_eq_true'] at other
      exact (decides_pure false).congr fun world => by rw [auto, other]; rfl
    next bypass =>
      rw [Bool.not_eq_true', Bool.not_eq_false] at bypass
      exact (decides_manualProxiesRecoverable service snapshot applied).congr fun world => by
        rw [auto, bypass]; rfl

theorem decides_allOwned (applied : CanonicalConfig) (services : List (String × Snapshot)) :
    (allOwned py applied services).Decides fun world =>
      services.all fun entry => ownedState py entry.2 applied (world.proxies entry.1) := by
  induction services with
  | nil => exact decides_pure true
  | cons entry rest ih =>
      exact ((decides_serviceMatchesOwnedState py entry.1 entry.2 applied).and ih).congr
        fun world => rfl

theorem decides_allMatchSnapshot (services : List (String × Snapshot)) :
    (allMatchSnapshot py services).Decides fun world =>
      services.all fun entry => savedState py entry.2 (world.proxies entry.1) := by
  induction services with
  | nil => exact decides_pure true
  | cons entry rest ih =>
      exact ((decides_serviceMatchesSnapshot py entry.1 entry.2).and ih).congr fun world => rfl

/-- Every saved service is still listed. -/
def allListed (payload : Payload) (names : List String) : Bool :=
  !payload.services.any fun entry => entry.1 ∉ names

theorem allListed_iff {payload : Payload} {names : List String} :
    allListed payload names = true ↔ ∀ entry ∈ payload.services, entry.1 ∈ names := by
  simp [allListed]

/-- `_payload_is_owned`: every saved service is listed and owned. -/
def ownedPayload (payload : Payload) (world : World) : Bool :=
  allListed payload world.serviceNames &&
    payload.services.all fun entry =>
      ownedState py entry.2 payload.appliedConfig (world.proxies entry.1)

theorem decides_payloadIsOwned (payload : Payload) :
    (payloadIsOwned py payload).Decides (ownedPayload py payload) := by
  refine Decides.congr ((observes_ask _ _ _).decides
    (fun services world => allListed payload (services.map NetworkService.name) &&
      payload.services.all fun entry =>
        ownedState py entry.2 payload.appliedConfig (world.proxies entry.1))
    (fun _ => rfl) fun services => ?_) fun _ => rfl
  dsimp only
  split
  next missing => exact (decides_pure false).congr fun world => by rw [allListed, missing]; rfl
  next listed =>
    rw [Bool.not_eq_true] at listed
    exact (decides_allOwned py payload.appliedConfig payload.services).congr fun world => by
      rw [allListed, listed]; rfl

/-- The names that `_restore_plan` collects when it accepts every service. -/
def plannedNames (applied : CanonicalConfig) (services : List (String × Snapshot))
    (world : World) : List String :=
  (services.filter fun entry =>
    needsRestore py entry.2 applied (world.proxies entry.1)).map Prod.fst

/-- No saved service is in a foreign state. -/
def allAccepted (applied : CanonicalConfig) (services : List (String × Snapshot))
    (world : World) : Bool :=
  services.all fun entry => acceptedState py entry.2 applied (world.proxies entry.1)

/-- The loop has not changed the state, and a plan means that every service was
accepted. -/
def PlanSound (applied : CanonicalConfig) (services : List (String × Snapshot))
    (world : World) (outcome : Except BackendError (Option (List String))) (last : World) :
    Prop :=
  last = world ∧ ∃ plan, outcome = .ok plan ∧ ∀ names, plan = some names →
    allAccepted py applied services world = true ∧ names ⊆ services.map Prod.fst

variable {py} in
theorem PlanSound.cons {applied : CanonicalConfig} {services : List (String × Snapshot)}
    {world last : World} {plan : Option (List String)} {service : String}
    {snapshot : Snapshot} (sound : PlanSound py applied services world (.ok plan) last)
    (accepted : acceptedState py snapshot applied (world.proxies service) = true)
    {listed : Option (List String)}
    (fromPlan : listed = plan ∨ listed = plan.map (service :: ·)) :
    PlanSound py applied ((service, snapshot) :: services) world (.ok listed) last := by
  obtain ⟨rfl, _, ⟨⟩, sound⟩ := sound
  refine ⟨rfl, listed, rfl, ?_⟩
  cases plan with
  | none =>
      intro names planned
      rcases fromPlan with rfl | rfl <;> simp at planned
  | some more =>
      obtain ⟨restAccepted, subset⟩ := sound more rfl
      intro names planned
      refine ⟨by simpa [allAccepted, accepted] using restAccepted, fun name member => ?_⟩
      rcases fromPlan with rfl | rfl
      · obtain rfl : more = names := Option.some.inj planned
        exact List.mem_cons_of_mem _ (subset member)
      · obtain rfl : service :: more = names := Option.some.inj planned
        rcases List.mem_cons.mp member with rfl | later
        · exact List.mem_cons_self
        · exact List.mem_cons_of_mem _ (subset later)

theorem ensures_planServices (host : Host World Query Command) (applied : CanonicalConfig)
    (services : List (String × Snapshot)) (world : World) :
    (planServices py applied services).Ensures host (fun _ _ => False)
      (PlanSound py applied services world) world := by
  induction services with
  | nil => simp [planServices, PlanSound, allAccepted]
  | cons entry rest ih =>
      obtain ⟨service, snapshot⟩ := entry
      refine (decides_serviceMatchesOwnedState py service snapshot applied).ensures_bind ?_
      rintro (_ | _) owned
      · refine (decides_serviceMatchesSnapshot py service snapshot).ensures_bind ?_
        rintro (_ | _) saved
        · refine (decides_serviceMatchesRecoverableState py service snapshot
            applied).ensures_bind ?_
          rintro (_ | _) recoverable
          · simp [PlanSound]
          · refine ih.bind (fun plan last sound => ?_) fun error last raised => by
              obtain ⟨-, _, ⟨⟩, -⟩ := raised
            exact sound.cons (by simp [acceptedState, recoverable]) (.inr rfl)
        · refine ih.weaken_post ?_
          rintro (error | plan) last sound
          · obtain ⟨-, _, ⟨⟩, -⟩ := sound
          · exact sound.cons (by simp [acceptedState, saved]) (.inl rfl)
      · refine ih.bind (fun plan last sound => ?_) fun error last raised => by
          obtain ⟨-, _, ⟨⟩, -⟩ := raised
        exact sound.cons (by simp [acceptedState, owned]) (.inr rfl)

/-- What the loop returns when no read fails. -/
def plannedRestore (applied : CanonicalConfig) (services : List (String × Snapshot))
    (world : World) : Option (List String) :=
  if allAccepted py applied services world then
    some (plannedNames py applied services world)
  else none

theorem plannedRestore_cons (applied : CanonicalConfig) (service : String)
    (snapshot : Snapshot) (rest : List (String × Snapshot)) (world : World) :
    plannedRestore py applied ((service, snapshot) :: rest) world =
      if acceptedState py snapshot applied (world.proxies service) then
        (plannedRestore py applied rest world).map fun names =>
          if needsRestore py snapshot applied (world.proxies service) then service :: names
          else names
      else none := by
  unfold plannedRestore allAccepted plannedNames
  cases accepted : acceptedState py snapshot applied (world.proxies service) with
  | false => simp [accepted]
  | true =>
      simp only [List.all_cons, accepted, Bool.true_and, ↓reduceIte, List.filter_cons]
      split <;> split <;> simp

theorem exec_planServices (effect : Command → World → World) (applied : CanonicalConfig)
    (services : List (String × Snapshot)) (world : World) :
    (planServices py applied services).exec effect world =
      (.ok (plannedRestore py applied services world), world) := by
  induction services with
  | nil => rfl
  | cons entry rest ih =>
      obtain ⟨service, snapshot⟩ := entry
      rw [planServices, (decides_serviceMatchesOwnedState py service snapshot applied).exec_bind,
        plannedRestore_cons]
      cases owned : ownedState py snapshot applied (world.proxies service) with
      | true =>
          simp only [↓reduceIte, acceptedState, needsRestore, owned, Bool.true_or]
          rw [exec_bind_ok ih]
          rfl
      | false =>
          simp only [Bool.false_eq_true, ↓reduceIte]
          rw [(decides_serviceMatchesSnapshot py service snapshot).exec_bind]
          cases saved : savedState py snapshot (world.proxies service) with
          | true =>
              simp only [↓reduceIte, acceptedState, needsRestore, owned, saved, Bool.or_true,
                Bool.true_or, Bool.not_true, Bool.or_self, Bool.false_eq_true, Option.map_id']
              exact ih
          | false =>
              simp only [Bool.false_eq_true, ↓reduceIte]
              rw [(decides_serviceMatchesRecoverableState py service snapshot applied).exec_bind]
              cases recoverable :
                  recoverableState py snapshot applied (world.proxies service) with
              | true =>
                  simp only [↓reduceIte, acceptedState, needsRestore, owned, saved, recoverable,
                    Bool.or_true, Bool.not_false]
                  rw [exec_bind_ok ih]
                  rfl
              | false => simp [acceptedState, owned, saved, recoverable]

/-- `_restore_plan` accepts the state. -/
def restoreAccepted (payload : Payload) (world : World) : Bool :=
  allListed payload world.serviceNames &&
    allAccepted py payload.appliedConfig payload.services world

theorem ensures_restorePlan (host : Host World Query Command) (payload : Payload)
    (world : World) :
    (restorePlan py payload).Ensures host (fun _ _ => False)
      (fun outcome last => last = world ∧ ∃ plan, outcome = .ok plan ∧
        ∀ names, plan = some names →
          restoreAccepted py payload world = true ∧ names ⊆ payload.services.map Prod.fst)
      world := by
  rw [restorePlan, ensures_bind, ensures_attempt]
  refine ((observes_ask _ _ _).ensures host world).weaken_post ?_
  rintro (error | services) last ⟨rfl, answered⟩
  · simp
  · obtain rfl := answered services rfl
    rw [followedBy_ok]
    dsimp only
    split
    next missing => simp
    next listed =>
      refine (ensures_planServices py host payload.appliedConfig payload.services
        last).weaken_post ?_
      rintro outcome _ ⟨rfl, plan, rfl, sound⟩
      refine ⟨rfl, plan, rfl, fun names planned => ?_⟩
      obtain ⟨accepted, subset⟩ := sound names planned
      refine ⟨?_, subset⟩
      rw [restoreAccepted, accepted, Bool.and_true, allListed, Bool.not_eq_true',
        ← Bool.not_eq_true]
      exact listed

theorem exec_restorePlan (effect : Command → World → World) (payload : Payload)
    (world : World) :
    (restorePlan py payload).exec effect world =
      (.ok (if restoreAccepted py payload world then
        some (plannedNames py payload.appliedConfig payload.services world) else none),
        world) := by
  have returns : (listServices.attempt : Proc (Except BackendError _)).exec effect world =
      (.ok (.ok world.services.entries), world) := rfl
  rw [restorePlan, exec_bind_ok returns]
  dsimp only
  split
  next missing =>
    have : allListed payload world.serviceNames = false := by
      rw [allListed, Bool.not_eq_false']; exact missing
    simp [restoreAccepted, this]
  next listed =>
    have : allListed payload world.serviceNames = true := by
      rw [allListed, Bool.not_eq_true', ← Bool.not_eq_true]; exact listed
    rw [exec_planServices, plannedRestore, restoreAccepted, this, Bool.true_and]

theorem observes_loadBackup (world : World) {payload : Payload}
    (loads : readBackup world.store = .ok payload) (effect : Command → World → World) :
    loadBackup.exec effect world = (.ok payload, world) := by
  have returns : (ask .loadStore World.store
      (.rollbackState "macOS rollback state is unreadable") : Proc _).exec effect world =
      (.ok world.store, world) := rfl
  rw [loadBackup, exec_bind_ok returns, exec_ofExcept, loads]

/-- `_load_backup` returns only what the file holds. -/
theorem ensures_loadBackup (host : Host World Query Command) (world : World) :
    loadBackup.Ensures host (fun _ _ => False)
      (fun outcome last => last = world ∧
        ∀ payload, outcome = .ok payload → readBackup world.store = .ok payload) world := by
  simp +contextual [loadBackup]

end

end ProxyLauncher.MacOS
