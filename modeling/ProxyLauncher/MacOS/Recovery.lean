import ProxyLauncher.MacOS.Evidence
import ProxyLauncher.MacOS.RoundTrip

/-!
# Interrupted calls

The commands that write an endpoint leave the enable bit to its own command, so every
call passes through states that are neither the applied nor the saved one.  This module
finds out for which initial settings all of them can be restored.
-/

namespace ProxyLauncher.MacOS

open Interruption Interruption.Program Python

/-- The settings of a service that no interruption turns into a foreign state. -/
structure Interruptible (canonical : CanonicalConfig) (proxies : ServiceProxies) : Prop where
  auto : proxies.auto.enabled = true → proxies.auto.url ≠ ""
  bypass : proxies.bypass ≠ ["Empty"]
  upstream : ∀ kind, kind ≠ .socks →
    Blank (proxies.manual kind) ∨ HasEndpoint (proxies.manual kind) ∧
      ((proxies.manual kind).enabled = true ∨
        (proxies.manual kind).server = canonical.directProxyHost ∧
          (proxies.manual kind).port = canonical.directProxyPort ∨
        (proxies.manual kind).server = refreshFailClosedHost ∧
          (proxies.manual kind).port = refreshFailClosedPort)

/-- The HTTP or HTTPS proxy of a service at any moment of a call. -/
inductive UpstreamStage (canonical : CanonicalConfig) (before now : ManualProxyState) : Prop where
  | owned (server : now.server = canonical.directProxyHost)
      (port : now.port = canonical.directProxyPort)
  | closedPort (enabled : now.enabled = true) (server : now.server = refreshFailClosedHost)
      (port : now.port = refreshFailClosedPort)
  | blank (blank : Blank before) (disabled : now.enabled = false)
  | saved (endpoint : HasEndpoint before) (server : now.server = before.server)
      (port : now.port = before.port) (clean : now.authenticated = false)
      (enabled : now.enabled = true → before.enabled = true)

/-- The settings of a service at any moment of a call. -/
structure Intermediate (canonical : CanonicalConfig) (before now : ServiceProxies) : Prop where
  autoUrl : now.auto.url = before.auto.url
  autoEnabled : now.auto.enabled = true → before.auto.enabled = true
  socks : now.manual .socks =
    { before.manual .socks with enabled := (now.manual .socks).enabled }
  socksEnabled : (now.manual .socks).enabled = true → (before.manual .socks).enabled = true
  bypass : now.bypass = before.bypass
  upstream : ∀ kind, kind ≠ .socks →
    UpstreamStage canonical (before.manual kind) (now.manual kind)

section

variable {py : Runtime} {canonical : CanonicalConfig} {before now : ServiceProxies}

namespace Intermediate

theorem refl (interruptible : Interruptible canonical before) (clean : Unauthenticated before) :
    Intermediate canonical before before where
  autoUrl := rfl
  autoEnabled enabled := enabled
  socks := rfl
  socksEnabled enabled := enabled
  bypass := rfl
  upstream kind notSocks := by
    rcases interruptible.upstream kind notSocks with blank | ⟨endpoint, -⟩
    · exact .blank blank blank.2.2
    · exact .saved endpoint rfl rfl (clean kind) id

theorem setAutoEnabled (stage : Intermediate canonical before now) (enabled : Bool)
    (implies : enabled = true → before.auto.enabled = true) :
    Intermediate canonical before (now.setAutoEnabled enabled) :=
  { stage with autoEnabled := implies }

theorem setAutoUrl (stage : Intermediate canonical before now) {url : String}
    (same : url = before.auto.url) : Intermediate canonical before (now.setAutoUrl false url) :=
  { stage with
    autoUrl := same
    autoEnabled := fun enabled => stage.autoEnabled (by simpa using enabled) }

theorem setUpstream (stage : Intermediate canonical before now) {kind : ManualKind}
    (notSocks : kind ≠ .socks) {state : ManualProxyState}
    (upstream : UpstreamStage canonical (before.manual kind) state) :
    Intermediate canonical before (now.setManual kind state) where
  autoUrl := stage.autoUrl
  autoEnabled := stage.autoEnabled
  socks := by simpa [notSocks.symm] using stage.socks
  socksEnabled := by simpa [notSocks.symm] using stage.socksEnabled
  bypass := stage.bypass
  upstream other otherNotSocks := by
    by_cases same : other = kind
    · subst same
      simpa using upstream
    · simpa [same] using stage.upstream other otherNotSocks

theorem setSocks (stage : Intermediate canonical before now) {enabled : Bool}
    (implies : enabled = true → (before.manual .socks).enabled = true) :
    Intermediate canonical before
      (now.setManual .socks { before.manual .socks with enabled }) where
  autoUrl := stage.autoUrl
  autoEnabled := stage.autoEnabled
  socks := by simp
  socksEnabled := by simpa using implies
  bypass := stage.bypass
  upstream kind notSocks := by simpa [notSocks] using stage.upstream kind notSocks

theorem setSocksEnabled (stage : Intermediate canonical before now) (enabled : Bool)
    (implies : enabled = true → (before.manual .socks).enabled = true) :
    Intermediate canonical before (now.setEnabled .socks enabled) := by
  rw [ServiceProxies.setEnabled, stage.socks]
  exact stage.setSocks implies

theorem setOwned (stage : Intermediate canonical before now) {kind : ManualKind}
    (notSocks : kind ≠ .socks) (authenticated : Bool) :
    Intermediate canonical before (now.setEndpoint false kind canonical.directProxyHost
      canonical.directProxyPort authenticated) :=
  stage.setUpstream notSocks (.owned rfl rfl)

theorem setOwnedEnabled (stage : Intermediate canonical before now) {kind : ManualKind}
    (notSocks : kind ≠ .socks) (server : (now.manual kind).server = canonical.directProxyHost)
    (port : (now.manual kind).port = canonical.directProxyPort) (enabled : Bool) :
    Intermediate canonical before (now.setEnabled kind enabled) :=
  stage.setUpstream notSocks (.owned server port)

/-- `_restore_plan` accepts every moment of a call. -/
theorem recoverable (stage : Intermediate canonical before now) (reported : before.Reported)
    (url : before.auto.enabled = true → before.auto.url ≠ "") (clean : Unauthenticated before) :
    recoverableState py (snapshotOf before) canonical now = true := by
  have auto : (!now.auto.enabled ||
      autoProxyMatchesSnapshot now.auto (snapshotOf before).autoProxy) = true := by
    cases enabled : now.auto.enabled with
    | false => rfl
    | true =>
        have on := stage.autoEnabled enabled
        simp [autoProxyMatchesSnapshot, snapshotOf, on, enabled, reported.url, url on,
          stage.autoUrl]
  have bypass : domainsEqual py now.bypass (expectedBypass (snapshotOf before)) = true := by
    rw [stage.bypass]
    exact domainsEqual_expectedBypass py (snapshotOf before)
  have upstream : ∀ kind, kind ≠ .socks → upstreamProxyRecoverable (now.manual kind)
      ((snapshotOf before).manualProxy kind) canonical = true := by
    intro kind notSocks
    simp only [upstreamProxyRecoverable, snapshotOf, Bool.or_eq_true]
    cases stage.upstream kind notSocks with
    | owned server port =>
        cases enabled : (now.manual kind).enabled with
        | false =>
            exact .inl (.inr (by
              simp [disabledOwnedDirectProxyEndpointMatches, enabled, server, port]))
        | true =>
            exact .inl (.inl (.inl (by simp [ownedDirectProxyMatches, enabled, server, port])))
    | closedPort enabled server port =>
        exact .inl (.inl (.inr (by
          simp [refreshFailClosedProxyMatches, enabled, server, port])))
    | blank blank disabled =>
        exact .inr (.inl (manualProxyMatches_iff _ _ |>.mpr
          ⟨disabled.trans blank.2.2.symm, .inl blank⟩))
    | saved endpoint server port authenticated implies =>
        by_cases same : (now.manual kind).enabled = (before.manual kind).enabled
        · exact .inr (.inl (manualProxyMatches_iff _ _ |>.mpr
            ⟨same, .inr ⟨server, port, authenticated.trans (clean kind).symm⟩⟩))
        · have disabled : (now.manual kind).enabled = false := by
            cases enabled : (now.manual kind).enabled with
            | false => rfl
            | true => exact absurd (enabled.trans (implies enabled).symm) same
          exact .inr (.inr (by simp [disabledSnapshotProxyEndpointMatches, disabled, endpoint.1,
            endpoint.2, server, port, authenticated, clean kind]))
  have socks : socksProxyRecoverable (now.manual .socks)
      ((snapshotOf before).manualProxy .socks) = true := by
    simp only [socksProxyRecoverable, snapshotOf, Bool.or_eq_true, Bool.not_eq_true']
    cases enabled : (now.manual .socks).enabled with
    | false => exact .inl rfl
    | true =>
        have same : now.manual .socks = before.manual .socks := by
          rw [stage.socks, enabled, ← stage.socksEnabled enabled]
        exact .inr (same ▸ manualProxyMatches_self _)
  simp only [recoverableState, auto, bypass, upstream .web (by decide),
    upstream .secureWeb (by decide), socks, Bool.true_or, Bool.and_self]

end Intermediate

/-- Every service of the evidence is at a moment of a call. -/
structure Recovering (canonical : CanonicalConfig) (init now : World) : Prop where
  services : now.services = init.services
  saved : ∀ name ∈ init.enabledServices,
    Intermediate canonical (init.proxies name) (now.proxies name)

variable {init : World} {service : String}

namespace Recovering

theorem update {world : World} (recovering : Recovering canonical init world)
    {change : ServiceProxies → ServiceProxies}
    (keeps : Intermediate canonical (init.proxies service) (change (world.proxies service))) :
    Recovering canonical init (world.update service change) where
  services := recovering.services
  saved name member := by
    by_cases same : name = service
    · subst same
      rwa [World.update_proxies_self]
    · rw [World.update_proxies_of_ne _ _ same]
      exact recovering.saved name member

/-- A single command that keeps the service at a moment of a call. -/
theorem maintains_single {command : Command} {change : ServiceProxies → ServiceProxies}
    (member : service ∈ init.enabledServices)
    (changes : ∀ world, effect false command world = world.update service change)
    (keeps : ∀ now, Intermediate canonical (init.proxies service) now →
      Intermediate canonical (init.proxies service) (change now)) :
    Maintains (effect false) [command] (Recovering canonical init) :=
  .of_forall fun other same world recovering => by
    obtain rfl := List.mem_singleton.mp same
    rw [changes]
    exact recovering.update (keeps _ (recovering.saved service member))

theorem maintains_owned (member : service ∈ init.enabledServices) (authenticated : Bool) :
    Maintains (effect false) (upstreamCommands service canonical.directProxyHost
      canonical.directProxyPort authenticated) (Recovering canonical init) := by
  intro world recovering
  simp only [upstreamCommands, passes_cons, passes_nil, effect, World.update_update,
    List.forall_mem_cons, List.not_mem_nil, false_implies, implies_true, and_true]
  have start := recovering.saved service member
  have web := start.setOwned (show ManualKind.web ≠ .socks by decide) authenticated
  have secureWeb := web.setOwned (show ManualKind.secureWeb ≠ .socks by decide) authenticated
  -- The bits are set only once both endpoints are owned.
  have webOn := secureWeb.setOwnedEnabled (show ManualKind.web ≠ .socks by decide) rfl rfl true
  have secureWebOn := webOn.setOwnedEnabled (show ManualKind.secureWeb ≠ .socks by decide)
    rfl rfl true
  exact ⟨recovering.update web, recovering.update secureWeb, recovering.update webOn,
    recovering.update secureWebOn⟩

theorem maintains_applyCommands (member : service ∈ init.enabledServices)
    (config : ProxyBackendConfig) :
    Maintains (effect false) (applyCommands config canonical service)
      (Recovering canonical init) :=
  (maintains_single member (fun _ => rfl) fun _ stage => stage.setAutoEnabled false (by simp)).append <|
    (maintains_single member (fun _ => rfl) fun _ stage =>
      stage.setSocksEnabled false (by simp)).append (maintains_owned member _)

theorem maintains_restoreManualCommands (member : service ∈ init.enabledServices)
    (interruptible : Interruptible canonical (init.proxies service)) {kind : ManualKind}
    (notSocks : kind ≠ .socks) :
    Maintains (effect false)
      (restoreManualCommands kind service (some ((init.proxies service).manual kind)))
      (Recovering canonical init) := by
  rcases interruptible.upstream kind notSocks with blank | ⟨endpoint, recognised⟩
  · have single : restoreManualCommands kind service (some ((init.proxies service).manual kind)) =
        [.setManualProxyState kind service ((init.proxies service).manual kind).enabled] := by
      simp [restoreManualCommands, blank.1]
    rw [single]
    exact maintains_single member (fun _ => rfl) fun now stage =>
      stage.setUpstream notSocks (.blank blank blank.2.2)
  · have pair : restoreManualCommands kind service (some ((init.proxies service).manual kind)) =
        [.setManualProxy kind service ((init.proxies service).manual kind).server
            ((init.proxies service).manual kind).port false,
          .setManualProxyState kind service ((init.proxies service).manual kind).enabled] := by
      simp only [restoreManualCommands]
      rw [if_pos endpoint]
      rfl
    rw [pair]
    intro world recovering
    simp only [passes_cons, passes_nil, effect, World.update_update, List.forall_mem_cons,
      List.not_mem_nil, false_implies, implies_true, and_true]
    have start := recovering.saved service member
    have written : UpstreamStage canonical ((init.proxies service).manual kind)
        { enabled := ((world.proxies service).manual kind).enabled || false
          server := ((init.proxies service).manual kind).server
          port := ((init.proxies service).manual kind).port } := by
      cases enabled : ((world.proxies service).manual kind).enabled with
      | false => exact .saved endpoint rfl rfl rfl (by simp)
      | true =>
          -- The endpoint is back while the bit is still on.
          rcases recognised with on | ⟨server, port⟩ | ⟨server, port⟩
          · exact .saved endpoint rfl rfl rfl fun _ => on
          · exact .owned server port
          · exact .closedPort rfl server port
    have back := start.setUpstream notSocks written
    refine ⟨recovering.update back, recovering.update (back.setUpstream notSocks ?_)⟩
    exact .saved endpoint (by simp) (by simp) (by simp) id

theorem maintains_restoreSocksCommands (member : service ∈ init.enabledServices)
    (clean : Unauthenticated (init.proxies service)) :
    Maintains (effect false)
      (restoreManualCommands .socks service (some ((init.proxies service).manual .socks)))
      (Recovering canonical init) := by
  -- The endpoint is never changed, so writing it back changes nothing.
  have endpoint : ∀ now, Intermediate canonical (init.proxies service) now →
      Intermediate canonical (init.proxies service)
        (now.setEndpoint false .socks ((init.proxies service).manual .socks).server
          ((init.proxies service).manual .socks).port false) := by
    intro now stage
    rw [ServiceProxies.setEndpoint, Bool.or_false, ← clean .socks]
    exact stage.setSocks stage.socksEnabled
  have bit : Maintains (effect false)
      [.setManualProxyState .socks service ((init.proxies service).manual .socks).enabled]
      (Recovering canonical init) :=
    maintains_single member (fun _ => rfl) fun _ stage => stage.setSocksEnabled _ id
  simp only [restoreManualCommands]
  split
  · exact (maintains_single member (fun _ => rfl) endpoint).append bit
  · exact bit

theorem maintains_restoreAutoCommands (member : service ∈ init.enabledServices)
    (reported : (init.proxies service).Reported) :
    Maintains (effect false) (restoreAutoCommands service (init.proxies service).auto)
      (Recovering canonical init) := by
  have url : Maintains (effect false)
      [.setAutoProxyUrl service (strip (init.proxies service).auto.url)]
      (Recovering canonical init) :=
    maintains_single member (fun _ => rfl) fun _ stage => stage.setAutoUrl reported.url
  have bit : ∀ enabled, (enabled = true → (init.proxies service).auto.enabled = true) →
      Maintains (effect false) [.setAutoProxyState service enabled] (Recovering canonical init) :=
    fun enabled implies => maintains_single member (fun _ => rfl) fun _ stage =>
      stage.setAutoEnabled enabled implies
  have nothing : Maintains (effect false) [] (Recovering canonical init) := .of_forall (by simp)
  simp only [restoreAutoCommands]
  split
  · exact nothing
  · refine (Maintains.append ?_ ?_).append (bit _ id)
    · split
      exacts [url, nothing]
    · split
      exacts [bit false (by simp), nothing]

theorem maintains_restoreCommands (member : service ∈ init.enabledServices)
    (reported : (init.proxies service).Reported) (clean : Unauthenticated (init.proxies service))
    (interruptible : Interruptible canonical (init.proxies service)) :
    Maintains (effect false) (restoreCommands service (snapshotOf (init.proxies service)))
      (Recovering canonical init) := by
  have bypass : Maintains (effect false)
      [.setBypassDomains service (bypassArguments (init.proxies service).bypass)]
      (Recovering canonical init) := by
    refine maintains_single member (fun _ => rfl) fun now stage => ?_
    rw [storedBypass_bypassArguments reported, if_neg interruptible.bypass]
    exact { stage with bypass := rfl }
  exact (maintains_restoreManualCommands member interruptible (by decide)).append <|
    (maintains_restoreManualCommands member interruptible (by decide)).append <|
      (maintains_restoreSocksCommands member clean).append <|
        bypass.append (maintains_restoreAutoCommands member reported)

/-- `refresh` takes an owned state through states in between. -/
theorem of_failsClosed {world : World} (recovering : Recovering canonical init world)
    {payload : Payload} {now : World} (applied : payload.appliedConfig = canonical)
    (saves : ∀ name ∈ init.enabledServices, name ∈ payload.services.map Prod.fst)
    (closed : FailsClosed payload world now) : Recovering canonical init now where
  services := closed.services.trans recovering.services
  saved name member := by
    obtain ⟨entry, saved, rfl⟩ := List.mem_map.mp (saves name member)
    have start := recovering.saved entry.1 member
    have fail := closed.saved entry saved
    rw [applied] at fail
    refine ⟨fail.auto ▸ start.autoUrl, fail.auto ▸ start.autoEnabled, fail.socks ▸ start.socks,
      fail.socks ▸ start.socksEnabled, fail.bypass.trans start.bypass, fun kind notSocks => ?_⟩
    obtain ⟨enabled, ⟨server, port⟩ | ⟨server, port⟩⟩ := fail.upstream kind notSocks
    · exact .owned server port
    · exact .closedPort enabled server port

end Recovering

/-! ## Whole sessions -/

/-- The calls that may follow on `enable`. -/
inductive LaterCall where
  | refresh (config : ProxyBackendConfig)
  | disable

def LaterCall.program (py : Runtime) : LaterCall → Proc Bool
  | refresh config => MacOS.refresh py config
  | disable => MacOS.disable py

/-- There is no evidence, or it is that of the initial state and every service is at a
moment of a call. -/
def Stage (canonical : CanonicalConfig) (init now : World) : Prop :=
  now.store = none ∨
    now.store = (init.saved canonical).store ∧ Recovering canonical init now

theorem stage_of_guarded {command : Command} {world : World}
    (guarded : GuardedOrCleared false (init.saved canonical).store (Recovering canonical init)
      command world) : Stage canonical init (effect false command world) := by
  rcases guarded with ⟨stored, writes, recovering⟩ | ⟨-, rfl⟩
  · exact .inr ⟨(effect_store writes world).trans stored, recovering⟩
  · exact .inl rfl

/-- The initial state can be interrupted: what is assumed of every enabled service. -/
structure AllInterruptible (canonical : CanonicalConfig) (init : World) : Prop where
  nonempty : init.snapshots ≠ []
  reported : ∀ name ∈ init.enabledServices, (init.proxies name).Reported
  clean : ∀ name ∈ init.enabledServices, Unauthenticated (init.proxies name)
  interruptible : ∀ name ∈ init.enabledServices, Interruptible canonical (init.proxies name)

namespace AllInterruptible

variable {world : World} (all : AllInterruptible canonical init)

include all

theorem recovering_saved : Recovering canonical init (init.saved canonical) where
  services := rfl
  saved name member := .refl (all.interruptible name member) (all.clean name member)

theorem loads : readBackup (init.saved canonical).store = .ok (storedEvidence canonical init) :=
  (readBackup_saved_iff all.reported all.nonempty).mpr fun name member =>
    (all.interruptible name member).auto

theorem loaded_eq {payload : Payload}
    (loaded : readBackup (init.saved canonical).store = .ok payload) :
    payload = storedEvidence canonical init :=
  Except.ok.inj (loaded.symm.trans all.loads)

theorem maintains_restore {entry : String × Snapshot} (member : entry ∈ init.snapshots) :
    Maintains (effect false) (restoreCommands entry.1 entry.2) (Recovering canonical init) := by
  revert entry
  rw [World.forall_mem_snapshots]
  exact fun name member => Recovering.maintains_restoreCommands member
    (all.reported name member) (all.clean name member) (all.interruptible name member)

theorem stage_enable {config : ProxyBackendConfig}
    (canonicalizes : canonicalConfig py config = .ok (some canonical))
    (fresh : init.store = none) :
    (enable py config).Ensures (faultyHost false)
      (fun command state => Stage canonical init (effect false command state))
      (fun _ _ => True) init := by
  have applies : ∀ entry ∈ init.snapshots, Maintains (effect false)
      (applyCommands config canonical entry.1) (Recovering canonical init) := by
    rw [World.forall_mem_snapshots]
    exact fun name member => Recovering.maintains_applyCommands member config
  have contract := ensures_enable py canonicalizes fresh all.recovering_saved applies
    fun entry member => all.maintains_restore member
  refine contract.mono (fun command state issued => ?_) fun _ _ _ => trivial
  rcases issued with ⟨rfl, rfl⟩ | guarded
  · exact .inr ⟨rfl, all.recovering_saved⟩
  · exact stage_of_guarded guarded

theorem stage_disable (stage : Stage canonical init world) :
    (disable py).Ensures (faultyHost false)
      (fun command state => Stage canonical init (effect false command state))
      (fun _ _ => True) world := by
  rcases stage with absent | ⟨stored, recovering⟩
  · have contract : (disable py).Ensures (faultyHost false) _ _ world :=
      ensures_disable (fun _ _ _ _ _ _ _ _ => trivial) trivial
    refine contract.mono (fun command state issued => ?_) fun _ _ _ => trivial
    obtain ⟨⟨payload, loads, -⟩, -⟩ := issued
    rw [absent] at loads
    cases loads
  · have contract : (disable py).Ensures (faultyHost false) _ _ world := ensures_disable
      (fun payload loaded entry member => all.maintains_restore (by
        rw [stored] at loaded
        rw [all.loaded_eq loaded] at member
        exact mem_storedEvidence.mp member)) recovering
    refine contract.mono (fun command state issued => ?_) fun _ _ _ => trivial
    exact stage_of_guarded (stored ▸ issued.2)

theorem stage_refresh {config config' : ProxyBackendConfig}
    (canonicalizes : canonicalConfig py config = .ok (some canonical))
    (stage : Stage canonical init world) :
    (refresh py config').Ensures (faultyHost false)
      (fun command state => Stage canonical init (effect false command state))
      (fun _ _ => True) world := by
  by_cases plan : ∃ payload, readBackup world.store = .ok payload ∧
      ownedPayload py payload world = true
  · obtain ⟨payload, loads, owned⟩ := plan
    rcases stage with absent | ⟨stored, recovering⟩
    · rw [absent] at loads
      cases loads
    · rw [stored] at loads
      obtain rfl := all.loaded_eq loads
      have contract : (refresh py config').Ensures (faultyHost false) _ _ world :=
        ensures_refresh_owned config' (stored ▸ loads) ⟨config, canonicalizes⟩ owned
      refine contract.mono (fun command state issued => ?_) fun _ _ _ => trivial
      refine .inr ⟨(effect_store issued.2.1 state).trans (issued.1.trans stored), ?_⟩
      exact recovering.of_failsClosed rfl
        (fun name member => mem_storedEvidence_names.mpr member) issued.2.2
  · have contract : (refresh py config').Ensures (faultyHost false) _ _ world :=
      ensures_refresh (fun _ _ _ _ _ _ _ _ =>
        ⟨fun _ _ _ _ => trivial, fun _ _ _ _ => trivial⟩) trivial
    exact contract.mono (fun command state issued => absurd issued.1 plan) fun _ _ _ => trivial

/-- At every moment of a call the restore plan accepts the state. -/
theorem restoreAccepted (recovering : Recovering canonical init world) :
    restoreAccepted py (storedEvidence canonical init) world = true := by
  rw [MacOS.restoreAccepted, Bool.and_eq_true, allListed_iff, allAccepted, List.all_eq_true]
  simp only [mem_storedEvidence]
  rw [World.forall_mem_snapshots, World.forall_mem_snapshots]
  refine ⟨fun name member => ?_, fun name member => ?_⟩
  · rw [World.serviceNames, recovering.services]
    exact init.enabledServices_sublist.subset member
  · rw [acceptedState, Bool.or_eq_true]
    exact .inr ((recovering.saved name member).recoverable (all.reported name member)
      (all.interruptible name member).auto (all.clean name member))

/-- At every moment of a call a `disable` without failures restores and clears. -/
theorem exec_disable (stored : world.store = (init.saved canonical).store)
    (recovering : Recovering canonical init world) :
    ∃ last, (disable py).exec (effect false) world = (.ok true, last) ∧ last.store = none := by
  have loads : readBackup world.store = .ok (storedEvidence canonical init) :=
    stored ▸ all.loads
  rw [MacOS.exec_disable loads storedEvidence_distinct, if_pos (all.restoreAccepted recovering),
    if_pos]
  · exact ⟨_, rfl, rfl⟩
  rw [List.all_eq_true]
  simp only [mem_storedEvidence]
  rw [World.forall_mem_snapshots]
  intro name member
  have saved : (name, snapshotOf (init.proxies name)) ∈
      (storedEvidence canonical init).services :=
    mem_storedEvidence.mpr (List.mem_map_of_mem member)
  rw [afterRestore_proxies storedEvidence_distinct saved]
  split
  next =>
    have stage := recovering.saved name member
    have interruptible := all.interruptible name member
    rw [savedState_restored_iff (all.reported name member) (all.clean name member)
      interruptible.auto]
    refine ⟨interruptible.auto, interruptible.bypass, fun kind => ?_⟩
    by_cases notSocks : kind = .socks
    · subst notSocks
      rw [stage.socks]
      exact .inr (.inr ⟨rfl, rfl, all.clean name member _⟩)
    · rcases interruptible.upstream kind notSocks with blank | ⟨endpoint, -⟩
      exacts [.inr (.inl blank), .inl endpoint]
  next restored =>
    simp only [needsRestore, Bool.or_eq_true, Bool.not_eq_true', not_or, Bool.not_eq_false]
      at restored
    exact restored.2

end AllInterruptible

/-- A moment in a session that starts with `enable`, can be stopped anywhere and goes on
with calls of `refresh` and `disable`; nothing else changes the system. -/
def Moment (py : Runtime) (config : ProxyBackendConfig) (init now : World) : Prop :=
  ∃ session : BackendSession, session.state = now ∧
    Session.Reaches (faultyHost false) (LaterCall.program py) Session.Always (fun _ _ => False)
      ⟨some (enable py config), init⟩ session

theorem AllInterruptible.stage {config : ProxyBackendConfig} {now : World}
    (all : AllInterruptible canonical init)
    (canonicalizes : canonicalConfig py config = .ok (some canonical))
    (fresh : init.store = none) (moment : Moment py config init now) :
    Stage canonical init now := by
  obtain ⟨session, rfl, reaches⟩ := moment
  have safe : Session.Safe (faultyHost false)
      (fun command state => Stage canonical init (effect false command state))
      (Stage canonical init) (⟨some (enable py config), init⟩ : BackendSession) := by
    refine ⟨.inl fresh, ?_⟩
    rintro _ ⟨⟩
    exact all.stage_enable canonicalizes fresh
  refine (safe.reaches (fun call state _ stage => ?_) (fun _ _ issued _ => issued)
    (fun _ _ impossible => impossible.elim) reaches).state
  cases call with
  | refresh config' => exact all.stage_refresh canonicalizes stage
  | disable => exact all.stage_disable stage

/-- No moment is taken for a foreign change, so a `disable` without failures returns true
and clears the evidence. -/
def NeverForeign (py : Runtime) (config : ProxyBackendConfig) (init : World) : Prop :=
  ∀ now, Moment py config init now → now.store ≠ none →
    ∃ payload, readBackup now.store = .ok payload ∧
      MacOS.restoreAccepted py payload now = true ∧
      ∃ last, (disable py).exec (effect false) now = (.ok true, last) ∧ last.store = none

theorem AllInterruptible.neverForeign {config : ProxyBackendConfig}
    (all : AllInterruptible canonical init)
    (canonicalizes : canonicalConfig py config = .ok (some canonical))
    (fresh : init.store = none) : NeverForeign py config init := by
  intro now moment present
  rcases all.stage canonicalizes fresh moment with absent | ⟨stored, recovering⟩
  · exact absurd absent present
  · exact ⟨_, stored ▸ all.loads, all.restoreAccepted recovering,
      all.exec_disable stored recovering⟩

theorem matches_of_savedState {current : ServiceProxies}
    (saved : savedState py (snapshotOf before) current = true) (kind : ManualKind) :
    manualProxyMatches (current.manual kind) (before.manual kind) = true := by
  simp only [savedState, snapshotOf, matchesIfSaved, Bool.and_eq_true] at saved
  cases kind with
  | web => exact saved.2.1.1
  | secureWeb => exact saved.2.1.2
  | socks => exact saved.2.2

/-- An accepted service has recoverable HTTP and HTTPS proxies. -/
theorem upstreamProxyRecoverable_of_accepted {current : ServiceProxies}
    (accepted : acceptedState py (snapshotOf before) canonical current = true)
    {kind : ManualKind} (notSocks : kind ≠ .socks) :
    upstreamProxyRecoverable (current.manual kind) (some (before.manual kind)) canonical =
      true := by
  simp only [acceptedState, Bool.or_eq_true] at accepted
  rcases accepted with (owned | saved) | recoverable
  · simp only [ownedState, Bool.and_eq_true] at owned
    cases kind with
    | web => simp [upstreamProxyRecoverable, owned.2.1.1]
    | secureWeb => simp [upstreamProxyRecoverable, owned.2.1.2]
    | socks => exact absurd rfl notSocks
  · simp [upstreamProxyRecoverable, matches_of_savedState saved kind]
  · simp only [recoverableState, snapshotOf, Bool.and_eq_true] at recoverable
    cases kind with
    | web => exact recoverable.2.1.1
    | secureWeb => exact recoverable.2.1.2
    | socks => exact absurd rfl notSocks

/-- A disabled proxy that is enabled again with its saved endpoint is foreign, unless the
endpoint is one of the launcher's own. -/
theorem recognised_of_recoverable {saved : ManualProxyState}
    (disabled : saved.enabled = false)
    (recoverable : upstreamProxyRecoverable
      { enabled := true, server := saved.server, port := saved.port } (some saved) canonical =
        true) :
    saved.server = canonical.directProxyHost ∧ saved.port = canonical.directProxyPort ∨
      saved.server = refreshFailClosedHost ∧ saved.port = refreshFailClosedPort := by
  simpa [upstreamProxyRecoverable, ownedDirectProxyMatches, refreshFailClosedProxyMatches,
    disabledOwnedDirectProxyEndpointMatches, manualProxyMatches,
    disabledSnapshotProxyEndpointMatches, disabled] using recoverable

/-- What the closed port leaves behind can only be restored when there is an endpoint to
write or nothing to compare. -/
theorem restorable_of_pulsed {saved final : ManualProxyState}
    (clean : saved.authenticated = false) {current : ManualProxyState}
    (pulse : current.server = refreshFailClosedHost ∧ current.port = refreshFailClosedPort)
    (restores : final = restoredManual (some saved) current ∨ final = current)
    (matched : manualProxyMatches final saved = true) : HasEndpoint saved ∨ Blank saved := by
  have closed : current.server = saved.server → current.port = saved.port →
      HasEndpoint saved := by
    intro server port
    rw [HasEndpoint, ← server, ← port, pulse.1, pulse.2]
    decide
  rcases restores with rfl | rfl
  · rcases (restoredManual_matches_iff clean).mp matched with endpoint | blank | ⟨server, port, -⟩
    exacts [.inl endpoint, .inr blank, .inl (closed server port)]
  · obtain ⟨-, blank | ⟨server, port, -⟩⟩ := (manualProxyMatches_iff _ _).mp matched
    exacts [.inr blank, .inl (closed server port)]

variable {config : ProxyBackendConfig}

/-- The end of a successful `enable` is a moment. -/
theorem moment_enabled (canonicalizes : canonicalConfig py config = .ok (some canonical))
    (fresh : init.store = none)
    (accepts : ((enable py config).exec (effect false) init).1 = .ok true) :
    Moment py config init (init.enabled config canonical) ∧
      ∀ (call : LaterCall) last, (call.program py).Stops (faultyHost false)
        (init.enabled config canonical) last → Moment py config init last := by
  have finishes := finishes_of_exec (enable py config) init accepts
  obtain ⟨same, -⟩ := finishes_enable py canonicalizes fresh finishes
  rw [same] at finishes
  have reaches : Session.Reaches (faultyHost false) (LaterCall.program py) Session.Always
      (fun _ _ => False) ⟨some (enable py config), init⟩ _ := Session.reaches_of_run finishes
  refine ⟨⟨_, rfl, reaches⟩, fun call last stops => ?_⟩
  obtain ⟨left, further⟩ := Session.reaches_of_stops call Session.always stops
  exact ⟨_, rfl, reaches.trans further⟩

/-- The first moment in which a manual proxy has its saved endpoint back. -/
theorem restoreService_stops (world : World) (service : String) {kind : ManualKind}
    (notSocks : kind ≠ .socks) (endpoint : HasEndpoint (before.manual kind)) :
    ∃ last, (restoreService service (snapshotOf before)).Stops (faultyHost false) world last ∧
      last.store = world.store ∧
      (last.proxies service).manual kind =
        { enabled := ((world.proxies service).manual kind).enabled
          server := (before.manual kind).server
          port := (before.manual kind).port } := by
  have commands : restoreManualCommands kind service ((snapshotOf before).manualProxy kind) =
      [.setManualProxy kind service (before.manual kind).server (before.manual kind).port false,
        .setManualProxyState kind service (before.manual kind).enabled] := by
    simp only [snapshotOf, restoreManualCommands]
    rw [if_pos endpoint]
    rfl
  have stop : ∀ stage ∈ passes (effect false) (restoreCommands service (snapshotOf before)) world,
      (restoreService service (snapshotOf before)).Stops (faultyHost false) world stage :=
    fun stage passed => (sequence_restoreService service (snapshotOf before)).stops
      (fun _ _ => trivial) passed
  cases kind with
  | web =>
      refine ⟨effect false (.setManualProxy .web service (before.manual .web).server
        (before.manual .web).port false) world, stop _ ?_, rfl, by simp [effect]⟩
      rw [restoreCommands, commands]
      exact List.mem_cons_self
  | secureWeb =>
      refine ⟨effect false (.setManualProxy .secureWeb service (before.manual .secureWeb).server
        (before.manual .secureWeb).port false) (after (effect false)
          (restoreManualCommands .web service ((snapshotOf before).manualProxy .web)) world),
        stop _ ?_, ?_, ?_⟩
      · rw [restoreCommands, commands, passes_append, List.mem_append]
        exact .inr List.mem_cons_self
      · rw [after_restoreManualCommands]
        rfl
      · rw [after_restoreManualCommands]
        simp [effect]
  | socks => exact absurd rfl notSocks

/-- The evidence of the initial state is the only one that a moment can have. -/
theorem closure_loaded {now : World} (closed : NeverForeign py config init)
    (moment : Moment py config init now) (stored : now.store = (init.saved canonical).store) :
    readBackup now.store = .ok (storedEvidence canonical init) ∧
      MacOS.restoreAccepted py (storedEvidence canonical init) now = true ∧
      ∃ last, (disable py).exec (effect false) now = (.ok true, last) := by
  obtain ⟨payload, loads, accepted, last, returns, -⟩ :=
    closed now moment (by rw [stored]; exact Option.some_ne_none _)
  have same : some (RollbackFile.saved (storedEvidence canonical init)) =
      some (.saved payload) := stored.symm.trans (readBackup_eq_ok loads).1
  obtain rfl := RollbackFile.saved.inj (Option.some.inj same)
  exact ⟨loads, accepted, last, returns⟩

/-- With the closed port in place of every endpoint, all must still be restorable. -/
theorem restorable_of_neverForeign (closed : NeverForeign py config init)
    (canonicalizes : canonicalConfig py config = .ok (some canonical))
    (fresh : init.store = none)
    (accepts : ((enable py config).exec (effect false) init).1 = .ok true)
    (clean : ∀ name ∈ init.enabledServices, Unauthenticated (init.proxies name))
    {name : String} (member : name ∈ init.enabledServices) {kind : ManualKind}
    (notSocks : kind ≠ .socks) :
    HasEndpoint ((init.proxies name).manual kind) ∨ Blank ((init.proxies name).manual kind) := by
  obtain ⟨enabled, later⟩ := moment_enabled canonicalizes fresh accepts
  obtain ⟨loads, -, -⟩ := closure_loaded closed enabled rfl
  have pulses : (refresh py config).Stops (faultyHost false) (init.enabled config canonical) _ :=
    refresh_stops_pulsed loads canonicalizes ownedPayload_enabled
  obtain ⟨loads, -, last, returns⟩ := closure_loaded closed (later (.refresh config) _ pulses) rfl
  rw [exec_disable loads storedEvidence_distinct] at returns
  split at returns
  swap
  · cases returns
  split at returns
  swap
  · cases returns
  next verified =>
    have saved : (name, snapshotOf (init.proxies name)) ∈
        (storedEvidence canonical init).services :=
      mem_storedEvidence.mpr (List.mem_map_of_mem member)
    have named : name ∈ (storedEvidence canonical init).services.map Prod.fst :=
      mem_storedEvidence_names.mpr member
    have matched := List.all_eq_true.mp verified _ saved
    rw [afterRestore_proxies storedEvidence_distinct saved, World.updateAll_proxies,
      if_pos named] at matched
    have pulse : ∀ now, ((pulsed now).manual kind).server = refreshFailClosedHost ∧
        ((pulsed now).manual kind).port = refreshFailClosedPort := by
      cases kind with
      | web | secureWeb => exact fun _ => ⟨rfl, rfl⟩
      | socks => exact absurd rfl notSocks
    refine restorable_of_pulsed (clean name member kind)
      (pulse ((init.enabled config canonical).proxies name)) ?_
      (matches_of_savedState matched kind)
    split
    exacts [.inl rfl, .inr rfl]

/-- When `disable` writes a saved endpoint back, a disabled proxy is enabled for a moment. -/
theorem recognised_of_neverForeign (closed : NeverForeign py config init)
    (canonicalizes : canonicalConfig py config = .ok (some canonical))
    (fresh : init.store = none)
    (accepts : ((enable py config).exec (effect false) init).1 = .ok true)
    {name : String} (member : name ∈ init.enabledServices) {kind : ManualKind}
    (notSocks : kind ≠ .socks) (endpoint : HasEndpoint ((init.proxies name).manual kind))
    (disabled : ((init.proxies name).manual kind).enabled = false) :
    ((init.proxies name).manual kind).server = canonical.directProxyHost ∧
        ((init.proxies name).manual kind).port = canonical.directProxyPort ∨
      ((init.proxies name).manual kind).server = refreshFailClosedHost ∧
        ((init.proxies name).manual kind).port = refreshFailClosedPort := by
  obtain ⟨enabled, later⟩ := moment_enabled canonicalizes fresh accepts
  obtain ⟨loads, accepted, -⟩ := closure_loaded closed enabled rfl
  obtain ⟨-, -, restorable⟩ := readBackup_eq_ok loads
  have saved : (name, snapshotOf (init.proxies name)) ∈ (storedEvidence canonical init).services :=
    mem_storedEvidence.mpr (List.mem_map_of_mem member)
  have lookups : ∀ other ∈ plannedNames py canonical (storedEvidence canonical init).services
      (init.enabled config canonical),
      ((storedEvidence canonical init).services.lookup other).isSome := by
    intro other planned
    obtain ⟨entry, kept, rfl⟩ := List.mem_map.mp planned
    rw [lookup_of_mem storedEvidence_distinct (List.mem_filter.mp kept).1]
    rfl
  have planned : name ∈ (plannedNames py canonical (storedEvidence canonical init).services
      (init.enabled config canonical)).reverse := by
    rw [List.mem_reverse, mem_plannedNames storedEvidence_distinct saved, enabled_proxies member,
      needsRestore, Bool.or_eq_true]
    exact .inl (ownedState_applied _)
  obtain ⟨earlier, rest, split, unrestored⟩ := List.eq_append_cons_of_mem planned
  obtain ⟨now, stops, stored, current⟩ := restoreService_stops
    ((init.enabled config canonical).updateAll earlier
      (restoreChange (storedEvidence canonical init).services)) name notSocks endpoint
  have moment : Moment py config init now := by
    refine later .disable _ (disable_stops loads accepted ?_)
    rw [restoreTouchedServices]
    change (restoreServices _ (plannedNames py canonical _ _).reverse).Stops _ _ _
    rw [split]
    refine restoreServices_stops
      (fun other snapshot found => restorable (other, snapshot) (mem_of_lookup found))
      (fun other before => lookups other ?_) (lookup_of_mem storedEvidence_distinct saved) stops
    rw [← List.mem_reverse, split]
    exact List.mem_append_left _ before
  obtain ⟨-, accepted, -⟩ := closure_loaded closed moment stored
  rw [MacOS.restoreAccepted, Bool.and_eq_true, allAccepted, List.all_eq_true] at accepted
  have known := accepted.2 _ saved
  have recoverable := upstreamProxyRecoverable_of_accepted known notSocks
  rw [current, World.updateAll_proxies, if_neg unrestored, enabled_proxies member] at recoverable
  refine recognised_of_recoverable disabled ?_
  cases kind with
  | web | secureWeb => exact recoverable
  | socks => exact absurd rfl notSocks

/-- Every moment is restorable if and only if the settings of every enabled service are
interruptible. -/
theorem interruption_closure (py : Runtime) (config : ProxyBackendConfig)
    (canonical : CanonicalConfig) (init : World)
    (canonicalizes : canonicalConfig py config = .ok (some canonical))
    (fresh : init.store = none)
    (reported : ∀ name ∈ init.enabledServices, (init.proxies name).Reported)
    (accepts : ((enable py config).exec (effect false) init).1 = .ok true) :
    NeverForeign py config init ↔
      ∀ name ∈ init.enabledServices, Interruptible canonical (init.proxies name) := by
  obtain ⟨same, nonempty, clean⟩ :=
    finishes_enable py canonicalizes fresh (finishes_of_exec (enable py config) init accepts)
  constructor
  · intro closed name member
    obtain ⟨enabled, -⟩ := moment_enabled canonicalizes fresh accepts
    obtain ⟨-, -, last, returns⟩ := closure_loaded closed enabled rfl
    have roundTrips :=
      ((exec_disable_enabled_iff nonempty reported clean last).mp returns).1 name member
    refine ⟨roundTrips.auto, roundTrips.bypass, fun kind notSocks => ?_⟩
    rcases restorable_of_neverForeign closed canonicalizes fresh accepts clean member notSocks with
      endpoint | blank
    · refine .inr ⟨endpoint, ?_⟩
      cases bit : ((init.proxies name).manual kind).enabled with
      | true => exact .inl rfl
      | false => exact .inr (recognised_of_neverForeign closed canonicalizes fresh accepts member
          notSocks endpoint bit)
    · exact .inl blank
  · intro interruptible
    have all : AllInterruptible canonical init := ⟨nonempty, reported, clean, interruptible⟩
    exact all.neverForeign canonicalizes fresh

theorem interruption_closure_sample :
    NeverForeign sampleRuntime sampleConfig (sampleWorld sampleProxies) ↔
      ∀ name ∈ (sampleWorld sampleProxies).enabledServices,
        Interruptible sampleCanonical ((sampleWorld sampleProxies).proxies name) :=
  interruption_closure sampleRuntime sampleConfig sampleCanonical _ sample_canonicalizes rfl
    (fun _ _ => sample_reported (by decide)) (by decide +kernel)

/-- A service with a disabled HTTP proxy whose endpoint is still remembered. -/
def sampleRememberedProxies : ServiceProxies :=
  sampleProxies.setManual .web { enabled := false, server := "old.test", port := 8080 }

/-- `disable`, stopped between the two commands for HTTP, leaves the remembered endpoint
enabled, which is taken for a foreign change. -/
theorem interruption_closure_fails :
    let init := sampleWorld sampleRememberedProxies
    init.store = none ∧ (∀ name, (init.proxies name).Reported) ∧
      ((enable sampleRuntime sampleConfig).exec (effect false) init).1 = .ok true ∧
      ¬ NeverForeign sampleRuntime sampleConfig init := by
  refine ⟨rfl, fun _ => sample_reported (by decide), by decide +kernel, fun closed => ?_⟩
  have member : "Wi-Fi" ∈ (sampleWorld sampleRememberedProxies).enabledServices := by decide
  have recognised := recognised_of_neverForeign closed sample_canonicalizes rfl
    (by decide +kernel) member (show ManualKind.web ≠ .socks by decide) (by decide) rfl
  revert recognised
  decide

end

end ProxyLauncher.MacOS
