import ProxyLauncher.MacOS.Apply

/-!
# Enable and disable are inverse

`enable` snapshots every state without credentials, but the loader refuses some of these
snapshots and the restore cannot reproduce others.
-/

namespace ProxyLauncher.MacOS

open Interruption Interruption.Program Python

section

variable {py : Runtime} {proxies : ServiceProxies}

theorem ServiceProxies.Reported.bypass_map (reported : proxies.Reported) :
    (proxies.bypass.map strip).filter (· ≠ "") = proxies.bypass := by
  have same : proxies.bypass.map strip = proxies.bypass := by
    conv_rhs => rw [← List.map_id proxies.bypass]
    exact List.map_congr_left fun domain member => (reported.bypass domain member).1
  rw [same, List.filter_eq_self]
  exact fun domain member => decide_eq_true (reported.bypass domain member).2

/-- The list that is read back after `set_bypass_domains`. -/
theorem storedBypass_bypassArguments (reported : proxies.Reported) :
    storedBypass (bypassArguments proxies.bypass) =
      if proxies.bypass = ["Empty"] then [] else proxies.bypass := by
  simp only [bypassArguments, reported.bypass_map, storedBypass]
  by_cases none : proxies.bypass = []
  · simp [none]
  · simp [none]

theorem domainsEqual_nil_empty : domainsEqual py [] ["Empty"] = false := by
  have blank : strip "Empty" = "Empty" := by decide
  simp [domainsEqual, normalizeDomains, normalizeDomainsFrom, blank]

/-- An endpoint that the restore writes back. -/
abbrev HasEndpoint (state : ManualProxyState) : Prop :=
  state.server ≠ "" ∧ 0 < state.port

/-- A disabled proxy without an endpoint: any endpoint that is left behind matches it. -/
def Blank (state : ManualProxyState) : Prop :=
  state.server = "" ∧ state.port = 0 ∧ state.enabled = false

theorem manualProxyMatches_self (state : ManualProxyState) :
    manualProxyMatches state state = true := by
  simp [manualProxyMatches]

theorem manualProxyMatches_iff (current expected : ManualProxyState) :
    manualProxyMatches current expected = true ↔
      current.enabled = expected.enabled ∧ (Blank expected ∨
        current.server = expected.server ∧ current.port = expected.port ∧
          current.authenticated = expected.authenticated) := by
  unfold manualProxyMatches Blank
  split_ifs with bit blank
  · simp [bit]
  · simp_all
  · simp_all [and_assoc]

/-- After a restore a manual proxy is as saved, or the endpoint could not be written. -/
theorem restoredManual_matches_iff {saved current : ManualProxyState}
    (clean : saved.authenticated = false) :
    manualProxyMatches (restoredManual (some saved) current) saved = true ↔
      HasEndpoint saved ∨ Blank saved ∨
        current.server = saved.server ∧ current.port = saved.port ∧
          current.authenticated = false := by
  rw [manualProxyMatches_iff, restoredManual]
  by_cases endpoint : saved.server ≠ "" ∧ 0 < saved.port
  · simp [HasEndpoint, endpoint, clean]
  · simp [HasEndpoint, endpoint, clean]

/-- The conditions under which a snapshot can be loaded and restored from `current`. -/
structure Restorable (proxies current : ServiceProxies) : Prop where
  auto : proxies.auto.enabled = true → proxies.auto.url ≠ ""
  bypass : proxies.bypass ≠ ["Empty"]
  manual : ∀ kind, HasEndpoint (proxies.manual kind) ∨ Blank (proxies.manual kind) ∨
    (current.manual kind).server = (proxies.manual kind).server ∧
      (current.manual kind).port = (proxies.manual kind).port ∧
      (current.manual kind).authenticated = false

theorem savedState_restored_iff (reported : proxies.Reported) (clean : Unauthenticated proxies)
    (url : proxies.auto.enabled = true → proxies.auto.url ≠ "") (current : ServiceProxies) :
    savedState py (snapshotOf proxies) (restored (snapshotOf proxies) current) = true ↔
      Restorable proxies current := by
  have auto : autoProxyRestored (restoredAuto proxies.auto current.auto) proxies.auto = true := by
    cases enabled : proxies.auto.enabled with
    | false => simp [autoProxyRestored, restoredAuto, enabled]
    | true => simp [autoProxyRestored, restoredAuto, enabled, reported.url, url enabled]
  have bypass : domainsEqual py (storedBypass (bypassArguments proxies.bypass)) proxies.bypass =
      true ↔ proxies.bypass ≠ ["Empty"] := by
    rw [storedBypass_bypassArguments reported]
    split
    next cleared => simp [cleared, domainsEqual_nil_empty]
    next kept => simp [kept]
  simp only [savedState, restored, snapshotOf, auto, matchesIfSaved, Bool.true_and,
    Bool.and_eq_true, bypass, restoredManual_matches_iff (clean _)]
  constructor
  · rintro ⟨bypass, ⟨web, secureWeb⟩, socks⟩
    refine ⟨url, bypass, ?_⟩
    rintro (_ | _ | _)
    exacts [web, secureWeb, socks]
  · exact fun restorable => ⟨restorable.bypass,
      ⟨restorable.manual .web, restorable.manual .secureWeb⟩, restorable.manual .socks⟩

/-- The enable bits are as before, and so is the endpoint or URL of what is enabled. -/
structure SameSettings (before now : ServiceProxies) : Prop where
  autoEnabled : now.auto.enabled = before.auto.enabled
  autoUrl : before.auto.enabled = true → now.auto.url = before.auto.url
  manualEnabled : ∀ kind, (now.manual kind).enabled = (before.manual kind).enabled
  endpoint : ∀ kind, (before.manual kind).enabled = true →
    (now.manual kind).server = (before.manual kind).server ∧
      (now.manual kind).port = (before.manual kind).port
  bypass : now.bypass = before.bypass

theorem SameSettings.refl (proxies : ServiceProxies) : SameSettings proxies proxies :=
  ⟨rfl, fun _ => rfl, fun _ => rfl, fun _ _ => ⟨rfl, rfl⟩, rfl⟩

theorem Restorable.sameSettings {current : ServiceProxies} (reported : proxies.Reported)
    (restorable : Restorable proxies current) :
    SameSettings proxies (restored (snapshotOf proxies) current) where
  autoEnabled := by rw [restored, restoredAuto, snapshotOf]
  autoUrl enabled := by
    simp [restored, restoredAuto, snapshotOf, reported.url, restorable.auto enabled]
  manualEnabled kind := by
    simp only [restored, snapshotOf, restoredManual]
    split <;> rfl
  endpoint kind enabled := by
    simp only [restored, snapshotOf, restoredManual]
    rcases restorable.manual kind with endpoint | blank | same
    · obtain ⟨server, port⟩ := endpoint
      simp [server, port]
    · rw [blank.2.2] at enabled
      cases enabled
    · split
      · exact ⟨rfl, rfl⟩
      · exact ⟨same.1, same.2.1⟩
  bypass := by
    simp only [restored, snapshotOf, storedBypass_bypassArguments reported,
      if_neg restorable.bypass]

end

section

variable {py : Runtime} {turnsOn : Bool} {config : ProxyBackendConfig}
  {canonical : CanonicalConfig} {world : World}

/-- The evidence of `enable` can be loaded when every enabled automatic proxy has a URL. -/
theorem readBackup_saved_iff (reported : ∀ name ∈ world.enabledServices,
      (world.proxies name).Reported) (nonempty : world.snapshots ≠ []) :
    readBackup (world.saved canonical).store = .ok (storedEvidence canonical world) ↔
      ∀ name ∈ world.enabledServices,
        (world.proxies name).auto.enabled = true → (world.proxies name).auto.url ≠ "" := by
  have url : ∀ name ∈ world.enabledServices,
      strip (snapshotOf (world.proxies name)).autoProxy.url = (world.proxies name).auto.url :=
    fun name member => (reported name member).url
  have refused : ((sortKeys world.snapshots).any fun entry => entry.2.autoProxy.enabled &&
      decide (strip entry.2.autoProxy.url = "")) = false ↔
      ∀ name ∈ world.enabledServices,
        (world.proxies name).auto.enabled = true → (world.proxies name).auto.url ≠ "" := by
    rw [List.any_eq_false]
    simp only [mem_sortKeys]
    rw [World.forall_mem_snapshots]
    refine forall₂_congr fun name member => ?_
    rw [url name member]
    simp [snapshotOf]
  rw [← refused]
  simp only [World.saved, readBackup, checkPayload, storedEvidence, evidence, ne_eq,
    not_true_eq_false, ↓reduceIte, sortKeys_eq_nil, nonempty]
  constructor
  · intro loads
    split at loads
    · cases loads
    · next accepted => exact Bool.not_eq_true _ ▸ accepted
  · intro accepted
    rw [if_neg]
    simpa using accepted

theorem storedEvidence_distinct :
    ((storedEvidence canonical world).services.map Prod.fst).Nodup :=
  ((sortKeys_perm world.snapshots).map Prod.fst).nodup_iff.mpr world.snapshots_distinct

theorem mem_storedEvidence {entry : String × Snapshot} :
    entry ∈ (storedEvidence canonical world).services ↔ entry ∈ world.snapshots :=
  mem_sortKeys

theorem mem_storedEvidence_names {name : String} :
    name ∈ (storedEvidence canonical world).services.map Prod.fst ↔
      name ∈ world.enabledServices := by
  rw [← World.snapshots_names]
  exact ((sortKeys_perm world.snapshots).map Prod.fst).mem_iff

theorem enabled_proxies {name : String} (member : name ∈ world.enabledServices) :
    (world.enabled config canonical).proxies name =
      applied config canonical (world.proxies name) :=
  if_pos member

theorem enabled_proxies_of_not_mem {name : String} (member : name ∉ world.enabledServices) :
    (world.enabled config canonical).proxies name = world.proxies name :=
  if_neg member

/-- What `enable` has written is what it recognises as its own. -/
theorem ownedState_applied (proxies : ServiceProxies) :
    ownedState py (snapshotOf proxies) canonical (applied config canonical proxies) = true := by
  have bypass : domainsEqual py proxies.bypass (expectedBypass (snapshotOf proxies)) = true :=
    domainsEqual_expectedBypass py (snapshotOf proxies)
  simp [ownedState, applied, bypass, ownedDirectProxyMatches, ownedProxy]

theorem ownedPayload_enabled :
    ownedPayload py (storedEvidence canonical world) (world.enabled config canonical) = true := by
  rw [ownedPayload, Bool.and_eq_true, allListed_iff, List.all_eq_true]
  simp only [mem_storedEvidence]
  rw [World.forall_mem_snapshots, World.forall_mem_snapshots]
  refine ⟨fun name member => world.enabledServices_sublist.subset member, fun name member => ?_⟩
  rw [enabled_proxies member]
  exact ownedState_applied _

theorem restoreAccepted_of_owned {payload : Payload}
    (owned : ownedPayload py payload world = true) : restoreAccepted py payload world = true := by
  rw [ownedPayload, Bool.and_eq_true, List.all_eq_true] at owned
  rw [restoreAccepted, Bool.and_eq_true, allAccepted, List.all_eq_true]
  exact ⟨owned.1, fun entry member => by simp [acceptedState, owned.2 entry member]⟩

theorem afterRestore_enabled {name : String} (member : name ∈ world.enabledServices) :
    (afterRestore py (storedEvidence canonical world)
      (world.enabled config canonical)).proxies name =
      restored (snapshotOf (world.proxies name))
        (applied config canonical (world.proxies name)) := by
  have saved : (name, snapshotOf (world.proxies name)) ∈
      (storedEvidence canonical world).services :=
    mem_storedEvidence.mpr (List.mem_map_of_mem member)
  rw [afterRestore_proxies storedEvidence_distinct saved, enabled_proxies member, if_pos]
  rw [needsRestore, Bool.or_eq_true]
  exact .inl (ownedState_applied _)

/-- The settings of a service that `enable` and `disable` bring back. -/
structure RoundTrips (config : ProxyBackendConfig) (canonical : CanonicalConfig)
    (proxies : ServiceProxies) : Prop where
  auto : proxies.auto.enabled = true → proxies.auto.url ≠ ""
  bypass : proxies.bypass ≠ ["Empty"]
  upstream : ∀ kind, kind ≠ .socks →
    HasEndpoint (proxies.manual kind) ∨ Blank (proxies.manual kind) ∨
      canonical.directProxyHost = (proxies.manual kind).server ∧
        canonical.directProxyPort = (proxies.manual kind).port ∧
        (config.upstreamUsername = "" ∨ config.upstreamPassword = "")

theorem restorable_applied_iff {proxies : ServiceProxies} (clean : Unauthenticated proxies) :
    Restorable proxies (applied config canonical proxies) ↔
      RoundTrips config canonical proxies := by
  have upstream : ∀ kind, kind ≠ .socks →
      (applied config canonical proxies).manual kind = ownedProxy config canonical := by
    rintro (_ | _ | _) notSocks
    exacts [rfl, rfl, absurd rfl notSocks]
  have credentials : (ownedProxy config canonical).authenticated = false ↔
      config.upstreamUsername = "" ∨ config.upstreamPassword = "" := by
    simp [ownedProxy, imp_iff_not_or]
  constructor
  · rintro ⟨auto, bypass, manual⟩
    refine ⟨auto, bypass, fun kind notSocks => ?_⟩
    have saved := manual kind
    rw [upstream kind notSocks, credentials] at saved
    exact saved
  · rintro ⟨auto, bypass, manual⟩
    refine ⟨auto, bypass, fun kind => ?_⟩
    by_cases notSocks : kind = .socks
    · subst notSocks
      exact .inr (.inr ⟨rfl, rfl, clean _⟩)
    · have saved := manual kind notSocks
      rw [upstream kind notSocks, credentials]
      exact saved

/-- What `disable` verifies after `enable`. -/
theorem verified_enabled_iff (py : Runtime)
    (reported : ∀ name ∈ world.enabledServices, (world.proxies name).Reported)
    (clean : ∀ name ∈ world.enabledServices, Unauthenticated (world.proxies name))
    (urls : ∀ name ∈ world.enabledServices,
      (world.proxies name).auto.enabled = true → (world.proxies name).auto.url ≠ "") :
    ((storedEvidence canonical world).services.all fun entry =>
        savedState py entry.2 ((afterRestore py (storedEvidence canonical world)
          (world.enabled config canonical)).proxies entry.1)) = true ↔
      ∀ name ∈ world.enabledServices, RoundTrips config canonical (world.proxies name) := by
  rw [List.all_eq_true]
  simp only [mem_storedEvidence]
  rw [World.forall_mem_snapshots]
  refine forall₂_congr fun name member => ?_
  rw [afterRestore_enabled member, savedState_restored_iff (reported name member)
    (clean name member) (urls name member), restorable_applied_iff (clean name member)]

/-- `disable` without failures after `enable` returns true exactly for the settings that
round trip, and then leaves the restored settings behind. -/
theorem exec_disable_enabled_iff (nonempty : world.snapshots ≠ [])
    (reported : ∀ name ∈ world.enabledServices, (world.proxies name).Reported)
    (clean : ∀ name ∈ world.enabledServices, Unauthenticated (world.proxies name))
    (final : World) :
    (disable py).exec (effect turnsOn) (world.enabled config canonical) = (.ok true, final) ↔
      (∀ name ∈ world.enabledServices, RoundTrips config canonical (world.proxies name)) ∧
        final = { afterRestore py (storedEvidence canonical world)
          (world.enabled config canonical) with store := none } := by
  have loads : readBackup (world.enabled config canonical).store =
      .ok (storedEvidence canonical world) ↔ _ := readBackup_saved_iff reported nonempty
  by_cases urls : ∀ name ∈ world.enabledServices,
      (world.proxies name).auto.enabled = true → (world.proxies name).auto.url ≠ ""
  · rw [exec_disable (loads.mpr urls) storedEvidence_distinct,
      if_pos (restoreAccepted_of_owned ownedPayload_enabled),
      ← verified_enabled_iff py reported clean urls]
    split
    next all => simp [all, eq_comm]
    next some => simp [some]
  · constructor
    · intro returns
      cases read : readBackup (world.enabled config canonical).store with
      | error error =>
          rw [exec_disable_unreadable rfl read] at returns
          cases returns
      | ok payload =>
          have stored : some (RollbackFile.saved (storedEvidence canonical world)) =
            some (.saved payload) := (readBackup_eq_ok read).1
          obtain rfl := RollbackFile.saved.inj (Option.some.inj stored)
          exact absurd (loads.mp read) urls
    · exact fun all => absurd (fun name member => (all.1 name member).auto) urls

/-- After `enable` has returned true, a `disable` without failures brings every service
back if and only if the settings of every enabled service are of the kind that round
trips. -/
theorem enable_disable_round_trip (py : Runtime) (turnsOn : Bool) (config : ProxyBackendConfig)
    (canonical : CanonicalConfig) (world last : World)
    (canonicalizes : canonicalConfig py config = .ok (some canonical))
    (fresh : world.store = none)
    (reported : ∀ name ∈ world.enabledServices, (world.proxies name).Reported)
    (enables : (enable py config).Finishes (faultyHost turnsOn) world (.ok true) last) :
    (∃ final, (disable py).exec (effect turnsOn) last = (.ok true, final) ∧
        final.store = none ∧
        ∀ name, SameSettings (world.proxies name) (final.proxies name)) ↔
      ∀ name ∈ world.enabledServices, RoundTrips config canonical (world.proxies name) := by
  obtain ⟨rfl, nonempty, clean⟩ := finishes_enable py canonicalizes fresh enables
  simp only [exec_disable_enabled_iff nonempty reported clean]
  constructor
  · rintro ⟨final, ⟨all, -⟩, -⟩
    exact all
  · intro all
    refine ⟨_, ⟨all, rfl⟩, rfl, fun name => ?_⟩
    by_cases member : name ∈ world.enabledServices
    · change SameSettings _ ((afterRestore py _ _).proxies name)
      rw [afterRestore_enabled member]
      exact ((restorable_applied_iff (clean name member)).mpr (all name member)).sameSettings
        (reported name member)
    · change SameSettings _ ((afterRestore py _ _).proxies name)
      rw [afterRestore_of_not_mem, enabled_proxies_of_not_mem member]
      · exact .refl _
      · rwa [mem_storedEvidence_names]

theorem enable_disable_round_trip_sample :
    let world := sampleWorld sampleProxies
    let last := ((enable sampleRuntime sampleConfig).exec (effect false) world).2
    (∃ final, (disable sampleRuntime).exec (effect false) last = (.ok true, final) ∧
        final.store = none ∧
        ∀ name, SameSettings (world.proxies name) (final.proxies name)) ↔
      ∀ name ∈ world.enabledServices,
        RoundTrips sampleConfig sampleCanonical (world.proxies name) :=
  enable_disable_round_trip sampleRuntime false sampleConfig sampleCanonical _ _
    sample_canonicalizes rfl (fun _ _ => sample_reported (by decide))
    (finishes_of_exec _ _ (by decide +kernel))

/-- A service whose automatic proxy is enabled without a URL. -/
def sampleAutoProxies : ServiceProxies :=
  { sampleProxies with auto := { enabled := true, url := "" } }

/-- `enable` accepts an enabled automatic proxy without a URL; `disable` cannot load the
evidence of it. -/
theorem enable_disable_round_trip_fails :
    let world := sampleWorld sampleAutoProxies
    world.store = none ∧ (∀ name, (world.proxies name).Reported) ∧
      (∀ name, Unauthenticated (world.proxies name)) ∧
      ∃ last, (enable sampleRuntime sampleConfig).Finishes (faultyHost false) world
          (.ok true) last ∧
        ((disable sampleRuntime).exec (effect false) last).1 = .ok false :=
  ⟨rfl, fun _ => sample_reported (by decide), fun _ _ => rfl, _,
    finishes_of_exec _ _ (by decide +kernel), by decide +kernel⟩

end

end ProxyLauncher.MacOS
