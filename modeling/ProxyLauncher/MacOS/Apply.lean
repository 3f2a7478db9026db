import ProxyLauncher.MacOS.Restore

/-!
# What enable does

`enable` takes a snapshot, saves it as evidence and only then writes.  This module says
once which commands it issues and what its outcome tells about the settings, for every
pattern of failures.
-/

namespace ProxyLauncher.MacOS

open Interruption Interruption.Program Python

/-- The snapshot of a service with the given settings. -/
def snapshotOf (proxies : ServiceProxies) : Snapshot where
  autoProxy := proxies.auto
  manualProxy kind := some (proxies.manual kind)
  bypassDomains := proxies.bypass

/-- No manual proxy asks for credentials. -/
def Unauthenticated (proxies : ServiceProxies) : Prop :=
  ∀ kind, (proxies.manual kind).authenticated = false

namespace World

def enabledServices (world : World) : List String :=
  (world.services.entries.filter NetworkService.enabled).map NetworkService.name

/-- The snapshots that `enable` takes. -/
def snapshots (world : World) : List (String × Snapshot) :=
  world.enabledServices.map fun name => (name, snapshotOf (world.proxies name))

theorem enabledServices_sublist (world : World) :
    world.enabledServices.Sublist world.serviceNames :=
  List.filter_sublist.map _

theorem snapshots_names (world : World) :
    world.snapshots.map Prod.fst = world.enabledServices := by
  simp [snapshots, Function.comp_def]

theorem snapshots_distinct (world : World) : (world.snapshots.map Prod.fst).Nodup := by
  rw [snapshots_names]
  exact world.services.distinct.sublist world.enabledServices_sublist

theorem forall_mem_snapshots {world : World} {property : String × Snapshot → Prop} :
    (∀ entry ∈ world.snapshots, property entry) ↔
      ∀ name ∈ world.enabledServices, property (name, snapshotOf (world.proxies name)) :=
  List.forall_mem_map

end World

/-- The payload that `enable` saves. -/
def evidence (canonical : CanonicalConfig) (world : World) : Payload where
  schemaVersion := backupSchemaVersion
  backend := backendId
  appliedConfig := canonical
  services := world.snapshots

/-- The evidence as the file holds it, with the services in the order of their names. -/
def storedEvidence (canonical : CanonicalConfig) (world : World) : Payload :=
  { evidence canonical world with services := sortKeys world.snapshots }

theorem ensures_snapshotService (host : Host World Query Command) (service : String)
    (world : World) :
    (snapshotService service).Ensures host (fun _ _ => False)
      (fun outcome last => last = world ∧ ∀ snapshot, outcome = .ok snapshot →
        snapshot = snapshotOf (world.proxies service) ∧
          Unauthenticated (world.proxies service)) world := by
  simp only [snapshotService, getAutoProxy, getWebProxy, getSecureWebProxy, getSocksProxy,
    getManualProxy, ensures_bind, ensures_ask, followedBy_ok, followedBy_error]
  refine ⟨fun _ => ⟨fun _ => ⟨fun _ => ⟨fun _ => ?_, by simp⟩, by simp⟩, by simp⟩, by simp⟩
  split
  next => simp
  next clean =>
    simp only [Bool.or_eq_true, not_or, Bool.not_eq_true] at clean
    rw [ensures_bind]
    refine ⟨fun _ => ⟨rfl, ?_⟩, fun _ => ⟨rfl, by simp⟩⟩
    rintro snapshot ⟨⟩
    refine ⟨Snapshot.ext rfl (funext fun kind => ?_) rfl, ?_⟩
    · cases kind <;> rfl
    · rintro (_ | _ | _)
      exacts [clean.1.1, clean.1.2, clean.2]

theorem ensures_snapshotServices (host : Host World Query Command)
    (services : List NetworkService) (world : World) :
    (snapshotServices services).Ensures host (fun _ _ => False)
      (fun outcome last => last = world ∧ ∀ snapshots, outcome = .ok snapshots →
        snapshots = ((services.filter NetworkService.enabled).map NetworkService.name).map
          (fun name => (name, snapshotOf (world.proxies name))) ∧
        ∀ service ∈ services, service.enabled = true →
          Unauthenticated (world.proxies service.name)) world := by
  induction services with
  | nil => simp [snapshotServices]
  | cons service rest ih =>
      rw [snapshotServices]
      cases enabled : service.enabled with
      | false => simpa [enabled] using ih
      | true =>
          simp only [↓reduceIte]
          refine (ensures_snapshotService host service.name world).bind ?_ (by simp)
          rintro snapshot last ⟨rfl, returned⟩
          obtain ⟨rfl, clean⟩ := returned _ rfl
          refine ih.bind ?_ (by simp)
          rintro snapshots last ⟨rfl, returned⟩
          obtain ⟨rfl, restClean⟩ := returned _ rfl
          refine ⟨rfl, ?_⟩
          rintro _ ⟨⟩
          simp only [List.filter_cons, enabled, ↓reduceIte, List.map_cons, List.forall_mem_cons,
            true_and]
          exact ⟨fun _ => clean, restClean⟩

theorem ensures_snapshotEnabledServices (host : Host World Query Command) (world : World) :
    snapshotEnabledServices.Ensures host (fun _ _ => False)
      (fun outcome last => last = world ∧ ∀ snapshots, outcome = .ok snapshots →
        snapshots = world.snapshots ∧ world.snapshots ≠ [] ∧
          ∀ name ∈ world.enabledServices, Unauthenticated (world.proxies name)) world := by
  rw [snapshotEnabledServices, ensures_bind]
  refine ⟨fun _ => ensures_bind _ |>.mpr ?_, fun _ => ⟨rfl, by simp⟩⟩
  refine (ensures_snapshotServices host world.services.entries world).weaken_post ?_
  rintro (error | snapshots) last ⟨rfl, returned⟩
  · simp
  obtain ⟨rfl, clean⟩ := returned _ rfl
  rw [followedBy_ok]
  split
  next => simp
  next nonempty =>
    refine ⟨rfl, ?_⟩
    rintro _ ⟨⟩
    refine ⟨rfl, nonempty, fun name member => ?_⟩
    obtain ⟨service, kept, rfl⟩ := List.mem_map.mp member
    obtain ⟨listed, enabled⟩ := List.mem_filter.mp kept
    exact clean service listed enabled

section

variable (py : Runtime)

theorem normalizeDomainsFrom_strip (values seen : List String) :
    normalizeDomainsFrom py seen ((values.map strip).filter (· ≠ "")) =
      normalizeDomainsFrom py seen values := by
  induction values generalizing seen with
  | nil => rfl
  | cons raw rest ih =>
      rw [List.map_cons, List.filter_cons]
      by_cases blank : strip raw = ""
      · rw [if_neg (by simp [blank]), ih]
        simp only [normalizeDomainsFrom, blank, true_or, ↓reduceIte]
      · rw [if_pos (by simp [blank])]
        simp only [normalizeDomainsFrom, strip_strip]
        split
        · rw [ih]
        · rw [ih]

theorem domainsEqual_iff (first second : List String) :
    domainsEqual py first second = true ↔
      ∀ domain, domain ∈ normalizeDomains py first ↔ domain ∈ normalizeDomains py second := by
  simp only [domainsEqual, Bool.and_eq_true, List.all_eq_true, List.contains_iff_mem]
  exact ⟨fun both domain => ⟨both.1 domain, both.2 domain⟩,
    fun same => ⟨fun domain => (same domain).mp, fun domain => (same domain).mpr⟩⟩

@[simp] theorem domainsEqual_self (domains : List String) :
    domainsEqual py domains domains = true := by
  simp [domainsEqual_iff]

/-- The list that `enable` would write is the one the service has: its bypass write is
never issued. -/
@[simp] theorem domainsEqual_expectedBypass (snapshot : Snapshot) :
    domainsEqual py snapshot.bypassDomains (expectedBypass snapshot) = true := by
  rw [domainsEqual_iff]
  intro domain
  rw [normalizeDomains, normalizeDomains, expectedBypass, normalizeDomainsFrom_strip]

/-- Point HTTP and HTTPS at an endpoint and enable them. -/
def upstreamCommands (service server : String) (port : Int) (authenticated : Bool) :
    List Command :=
  [.setManualProxy .web service server port authenticated,
    .setManualProxy .secureWeb service server port authenticated,
    .setManualProxyState .web service true,
    .setManualProxyState .secureWeb service true]

/-- Point HTTP and HTTPS at the upstream proxy. -/
def ownedCommands (config : ProxyBackendConfig) (canonical : CanonicalConfig)
    (service : String) : List Command :=
  upstreamCommands service canonical.directProxyHost canonical.directProxyPort
    (config.upstreamUsername ≠ "" ∧ config.upstreamPassword ≠ "")

/-- The commands of one turn of the loop of `enable`. -/
def applyCommands (config : ProxyBackendConfig) (canonical : CanonicalConfig)
    (service : String) : List Command :=
  .setAutoProxyState service false :: .setManualProxyState .socks service false ::
    ownedCommands config canonical service

theorem sequence_applyService (config : ProxyBackendConfig) (canonical : CanonicalConfig)
    (service : String) (snapshot : Snapshot) :
    Sequence (applyCommands config canonical service) (.ok ())
      (applyService py config canonical service snapshot) := by
  have last : (if !domainsEqual py snapshot.bypassDomains (expectedBypass snapshot) then
      setBypassDomains service (expectedBypass snapshot) else pure ()) = pure () := by
    rw [domainsEqual_expectedBypass]
    rfl
  rw [applyService, last]
  exact (Sequence.perform _ _).bind <| (Sequence.perform _ _).bind <|
    (Sequence.perform _ _).bind <| (Sequence.perform _ _).bind <|
      (Sequence.perform _ _).bind <| (Sequence.perform _ _).bind <| .pure ()

theorem writesProxy_of_mem_upstreamCommands {service server : String} {port : Int}
    {authenticated : Bool} {command : Command}
    (member : command ∈ upstreamCommands service server port authenticated) :
    command.WritesProxy := by
  simp only [upstreamCommands, List.mem_cons, List.not_mem_nil, or_false] at member
  rcases member with rfl | rfl | rfl | rfl <;> trivial

theorem writesProxy_of_mem_applyCommands {config : ProxyBackendConfig}
    {canonical : CanonicalConfig} {service : String} {command : Command}
    (member : command ∈ applyCommands config canonical service) : command.WritesProxy := by
  rcases List.mem_cons.mp member with rfl | member
  · trivial
  rcases List.mem_cons.mp member with rfl | member
  · trivial
  exact writesProxy_of_mem_upstreamCommands member

/-- The proxy that `enable` puts in front of HTTP and HTTPS. -/
def ownedProxy (config : ProxyBackendConfig) (canonical : CanonicalConfig) :
    ManualProxyState where
  enabled := true
  server := canonical.directProxyHost
  port := canonical.directProxyPort
  authenticated := config.upstreamUsername ≠ "" ∧ config.upstreamPassword ≠ ""

/-- The settings of a service after its turn of the loop. -/
def applied (config : ProxyBackendConfig) (canonical : CanonicalConfig)
    (proxies : ServiceProxies) : ServiceProxies where
  auto := { proxies.auto with enabled := false }
  manual
    | .socks => { proxies.manual .socks with enabled := false }
    | _ => ownedProxy config canonical
  bypass := proxies.bypass

theorem after_applyCommands (turnsOn : Bool) (config : ProxyBackendConfig)
    (canonical : CanonicalConfig) (service : String) (world : World) :
    after (effect turnsOn) (applyCommands config canonical service) world =
      world.update service (applied config canonical) := by
  simp only [applyCommands, ownedCommands, upstreamCommands, after_cons, after_nil, effect,
    World.update_update]
  refine World.update_congr _ (ServiceProxies.ext rfl (funext fun kind => ?_) rfl)
  cases kind <;> simp [applied, ownedProxy]

theorem applied_applied (config : ProxyBackendConfig) (canonical : CanonicalConfig)
    (proxies : ServiceProxies) :
    applied config canonical (applied config canonical proxies) =
      applied config canonical proxies := by
  refine ServiceProxies.ext rfl (funext fun kind => ?_) rfl
  cases kind <;> rfl

variable {turnsOn : Bool} {config : ProxyBackendConfig} {canonical : CanonicalConfig}
  {snapshots : List (String × Snapshot)} {world : World} {invariant : World → Prop}

theorem ensures_applyServices (touched : List String)
    (keeps : ∀ entry ∈ snapshots,
      Maintains (effect turnsOn) (applyCommands config canonical entry.1) invariant)
    (holds : invariant world) :
    (applyServices py config canonical touched snapshots).Ensures (faultyHost turnsOn)
      (fun command state => command.WritesProxy ∧ invariant (effect turnsOn command state))
      (fun outcome last => invariant last ∧ ∃ result names, outcome = .ok (result, names) ∧
        (∀ name ∈ names, name ∈ touched ∨ name ∈ snapshots.map Prod.fst) ∧
        (result = .ok () →
          last = world.updateAll (snapshots.map Prod.fst) fun _ => applied config canonical))
      world := by
  induction snapshots generalizing world touched with
  | nil => exact ⟨holds, _, _, rfl, fun _ => .inl, fun _ => by simp⟩
  | cons entry rest ih =>
      obtain ⟨service, snapshot⟩ := entry
      have stages := keeps _ List.mem_cons_self world holds
      rw [applyServices, ensures_bind, ensures_attempt]
      refine ((sequence_applyService py config canonical service snapshot).ensures
        stages holds).mono ?_ ?_
      · rintro command state ⟨member, kept⟩
        exact ⟨writesProxy_of_mem_applyCommands member, kept⟩
      · rintro (error | ⟨⟩) last ⟨kept, finished⟩
        · refine ⟨kept, _, _, rfl, fun name member => ?_, by simp⟩
          rcases List.mem_append.mp member with earlier | same
          · exact .inl earlier
          · exact .inr (by simp [List.mem_singleton.mp same])
        · obtain ⟨-, rfl⟩ := finished rfl
          rw [followedBy_ok]
          refine (ih (touched ++ [service])
            (fun entry member => keeps entry (List.mem_cons_of_mem _ member))
            kept).weaken_post ?_
          rintro _ last ⟨kept, result, names, rfl, known, finished⟩
          refine ⟨kept, result, names, rfl, fun name member => ?_, fun ok => ?_⟩
          · rcases known name member with earlier | later
            · rcases List.mem_append.mp earlier with earlier | same
              · exact .inl earlier
              · exact .inr (by simp [List.mem_singleton.mp same])
            · exact .inr (List.mem_cons_of_mem _ later)
          · rw [finished ok, faultyHost_effect, after_applyCommands, List.map_cons,
              World.updateAll_cons _ _ _ (fun _ => applied config canonical)
                (applied_applied config canonical)]

/-- The loop of `enable` and its rollback: nothing is written once the evidence is gone. -/
theorem ensures_applySnapshots
    (applies : ∀ entry ∈ snapshots,
      Maintains (effect turnsOn) (applyCommands config canonical entry.1) invariant)
    (restores : ∀ name ∈ snapshots.map Prod.fst, ∀ snapshot,
      snapshots.lookup name = some snapshot →
      Maintains (effect turnsOn) (restoreCommands name snapshot) invariant)
    (holds : invariant world) :
    (applySnapshots py config canonical snapshots).Ensures (faultyHost turnsOn)
      (GuardedOrCleared turnsOn world.store invariant)
      (fun outcome last => ∃ answer, outcome = .ok answer ∧
        (answer = true →
          last = world.updateAll (snapshots.map Prod.fst) fun _ => applied config canonical) ∧
        (last.store = none ∨ last.store = world.store ∧ invariant last)) world := by
  rw [applySnapshots, ensures_bind]
  refine (ensures_applyServices py [] (fun entry member =>
    (applies entry member).and (maintains_store
      (fun _ => writesProxy_of_mem_applyCommands) world.store)) ⟨holds, rfl⟩).mono
      (fun command state writes => .inl (guarded_of_writes command state writes)) ?_
  rintro _ last ⟨⟨kept, stored⟩, result, names, rfl, known, finished⟩
  rw [followedBy_ok]
  cases result with
  | ok => exact ⟨true, rfl, fun _ => finished rfl, .inr ⟨stored, kept⟩⟩
  | error error =>
      have touched : ∀ name ∈ names.reverse, name ∈ snapshots.map Prod.fst := by
        simpa using known
      refine ensures_bind _ |>.mpr ((ensures_restoreServices (fun name member snapshot found =>
        (restores name (touched name member) snapshot found).and (maintains_store
          (fun _ => writesProxy_of_mem_restoreCommands) world.store)) ⟨kept, stored⟩).mono
            (fun command state writes => .inl (guarded_of_writes command state writes)) ?_)
      rintro _ last ⟨⟨kept, stored⟩, restored, rfl⟩
      rw [followedBy_ok]
      cases restored with
      | false => exact ⟨false, rfl, by simp, .inr ⟨stored, kept⟩⟩
      | true =>
          simp only [↓reduceIte, ensures_bind, ensures_attempt]
          exact ⟨.inr ⟨stored, rfl⟩, fun _ => ⟨false, rfl, by simp, .inl rfl⟩,
            fun _ => ⟨false, rfl, by simp, .inr ⟨stored, kept⟩⟩⟩

/-- The state once the evidence is on disk. -/
def World.saved (world : World) (canonical : CanonicalConfig) : World :=
  { world with store := some (.saved (storedEvidence canonical world)) }

/-- The state that a successful `enable` leaves behind. -/
def World.enabled (world : World) (config : ProxyBackendConfig) (canonical : CanonicalConfig) :
    World :=
  (world.saved canonical).updateAll world.enabledServices fun _ => applied config canonical

/-- `enable` saves the evidence before it writes a setting, or it changes nothing. -/
theorem ensures_prepareEnable (canonical : CanonicalConfig) (world : World) :
    (prepareEnable py canonical).Ensures (faultyHost turnsOn)
      (fun command state => state = world ∧ command = .saveStore (evidence canonical world))
      (fun outcome last =>
        (∀ snapshots, outcome = .ok (some snapshots) →
          snapshots = world.snapshots ∧ last = world.saved canonical ∧ world.snapshots ≠ [] ∧
            ∀ name ∈ world.enabledServices, Unauthenticated (world.proxies name)) ∧
        (last = world ∨ last = world.saved canonical ∧
          outcome = .ok (some world.snapshots))) world := by
  rw [prepareEnable, ensures_bind]
  refine (ensures_snapshotEnabledServices _ world).mono (fun _ _ => False.elim) ?_
  rintro (error | snapshots) last ⟨rfl, returned⟩
  · simp
  obtain ⟨rfl, nonempty, clean⟩ := returned _ rfl
  rw [followedBy_ok]
  dsimp only
  split
  next => simp
  next =>
    rw [ensures_bind]
    refine ⟨⟨rfl, rfl⟩, fun _ => ⟨?_, .inr ⟨rfl, rfl⟩⟩, fun _ => ⟨by simp, .inl rfl⟩⟩
    rintro _ ⟨⟩
    exact ⟨rfl, rfl, nonempty, clean⟩

/-- `enable` without stored evidence.  Every state after the evidence has been saved
satisfies `invariant`, if the writes for each service keep it. -/
theorem ensures_enable (canonicalizes : canonicalConfig py config = .ok (some canonical))
    (fresh : world.store = none) (saved : invariant (world.saved canonical))
    (applies : ∀ entry ∈ world.snapshots,
      Maintains (effect turnsOn) (applyCommands config canonical entry.1) invariant)
    (restores : ∀ entry ∈ world.snapshots,
      Maintains (effect turnsOn) (restoreCommands entry.1 entry.2) invariant) :
    (enable py config).Ensures (faultyHost turnsOn)
      (fun command state =>
        state = world ∧ command = .saveStore (evidence canonical world) ∨
        GuardedOrCleared turnsOn (world.saved canonical).store invariant command state)
      (fun outcome last => ∃ answer, outcome = .ok answer ∧
        (answer = true → last = world.enabled config canonical ∧ world.snapshots ≠ [] ∧
          ∀ name ∈ world.enabledServices, Unauthenticated (world.proxies name)) ∧
        (last.store = none ∨ last.store = (world.saved canonical).store ∧ invariant last))
      world := by
  rw [enable, canonicalizes]
  change (storeExists >>= fun _ => _).Ensures _ _ _ _
  refine ((ensures_storeExists world).mono (fun _ _ => False.elim)
    fun _ _ same => same).bind ?_ (by simp)
  rintro present last ⟨found, rfl⟩
  obtain rfl := Except.ok.inj found
  simp only [fresh, Option.isSome_none, Bool.false_eq_true, ↓reduceIte, ensures_bind,
    ensures_attempt]
  refine (ensures_prepareEnable py canonical last).mono (fun _ _ saving => .inl saving) ?_
  rintro outcome state ⟨prepared, untouched⟩
  rcases outcome with error | _ | snapshots
  · obtain same : state = last := by simpa using untouched
    exact ⟨false, rfl, by simp, .inl (same ▸ fresh)⟩
  · obtain same : state = last := by simpa using untouched
    exact ⟨false, rfl, by simp, .inl (same ▸ fresh)⟩
  · obtain ⟨rfl, rfl, nonempty, clean⟩ := prepared snapshots rfl
    rw [followedBy_ok]
    refine (ensures_applySnapshots py applies (fun name _ snapshot found => ?_) saved).mono
      (fun _ _ writes => .inr writes) ?_
    · exact restores (name, snapshot) (mem_of_lookup found)
    · rintro _ state ⟨answer, rfl, finished, kept⟩
      refine ⟨answer, rfl, fun ok => ⟨?_, nonempty, clean⟩, kept⟩
      rw [finished ok, World.snapshots_names]
      rfl

/-- A successful `enable` has applied the configuration to every enabled service. -/
theorem finishes_enable {last : World}
    (canonicalizes : canonicalConfig py config = .ok (some canonical))
    (fresh : world.store = none)
    (enables : (enable py config).Finishes (faultyHost turnsOn) world (.ok true) last) :
    last = world.enabled config canonical ∧ world.snapshots ≠ [] ∧
      ∀ name ∈ world.enabledServices, Unauthenticated (world.proxies name) := by
  have anything : ∀ commands, Maintains (effect turnsOn) commands fun _ => True :=
    fun _ _ _ _ _ => trivial
  obtain ⟨_, ⟨⟩, success, -⟩ := (ensures_enable py canonicalizes fresh trivial
    (fun _ _ => anything _) fun _ _ => anything _).finishes enables
  exact success rfl

end

/-- `str.lower` on ASCII and `urlsplit` on the three URLs of `sampleConfig`. -/
def sampleRuntime : Runtime where
  lower text := .ofList (text.toList.map Char.toLower)
  urlsplit url :=
    if url = "http://127.0.0.1:10809" then
      .ok { scheme := "http", hostname := some "127.0.0.1", port := .ok (some 10809), path := "" }
    else if url = "socks5://127.0.0.1:10808" then
      .ok { scheme := "socks5", hostname := some "127.0.0.1", port := .ok (some 10808), path := "" }
    else if url = "http://proxy.test:3128" then
      .ok { scheme := "http", hostname := some "proxy.test", port := .ok (some 3128), path := "" }
    else .ok { scheme := "", hostname := none, port := .ok none, path := url }

def sampleConfig : ProxyBackendConfig where
  pacUrl := "http://127.0.0.1:8080/proxy.pac"
  httpProxyUrl := "http://127.0.0.1:10809"
  socksProxyUrl := "socks5://127.0.0.1:10808"
  upstreamHttpProxyUrl := "http://proxy.test:3128"

def sampleCanonical : CanonicalConfig where
  pacUrl := "http://127.0.0.1:8080/proxy.pac"
  httpProxyUrl := "http://127.0.0.1:10809"
  httpProxyHost := "127.0.0.1"
  httpProxyPort := 10809
  socksProxyUrl := "socks5://127.0.0.1:10808"
  socksProxyHost := "127.0.0.1"
  socksProxyPort := 10808
  directProxyUrl := "http://proxy.test:3128"
  directProxyHost := "proxy.test"
  directProxyPort := 3128
  directProxyAuthenticated := false
  noProxy := []

theorem sample_canonicalizes :
    canonicalConfig sampleRuntime sampleConfig = .ok (some sampleCanonical) := by
  unfold canonicalConfig
  rfl

/-- A service without any proxy. -/
def sampleProxies : ServiceProxies where
  auto := { enabled := false, url := "" }
  manual _ := { enabled := false, server := "", port := 0 }
  bypass := ["*.local"]

/-- One enabled service with the given settings, and no evidence. -/
def sampleWorld (proxies : ServiceProxies) : World where
  services := ⟨[⟨"Wi-Fi", true⟩], by decide⟩
  proxies _ := proxies
  store := none

theorem sample_reported {auto : AutoProxyState} {manual : ManualKind → ManualProxyState}
    (url : strip auto.url = auto.url) :
    ServiceProxies.Reported { auto, manual, bypass := ["*.local"] } where
  url
  bypass domain member := by
    obtain rfl := List.mem_singleton.mp member
    decide

end ProxyLauncher.MacOS
