import ProxyLauncher.MacOS.Apply

/-!
# Refresh

`refresh` points every saved service at a closed port of this machine and then back at
the upstream proxy.  Each half is given up service by service when a command fails.
-/

namespace ProxyLauncher.MacOS

open Interruption Interruption.Program Python

section

variable {py : Runtime} {config : ProxyBackendConfig}

theorem canonicalConfig_direct {canonical : CanonicalConfig}
    (canonicalizes : canonicalConfig py config = .ok (some canonical)) :
    configuredEndpoint py ["http"] canonical.directProxyUrl =
      .ok (some (canonical.directProxyHost, canonical.directProxyPort)) := by
  rw [canonicalConfig] at canonicalizes
  split at canonicalizes
  · cases canonicalizes
  obtain ⟨_ | http, -, canonicalizes⟩ := bind_eq_ok.mp canonicalizes
  · cases canonicalizes
  obtain ⟨_ | socks, -, canonicalizes⟩ := bind_eq_ok.mp canonicalizes
  · cases canonicalizes
  obtain ⟨_ | direct, endpoint, canonicalizes⟩ := bind_eq_ok.mp canonicalizes
  · cases canonicalizes
  dsimp only at canonicalizes
  split at canonicalizes
  · cases canonicalizes
  · cases canonicalizes
    exact endpoint

/-- `_canonical_config` computed the applied configuration of the evidence. -/
def Written (py : Runtime) (applied : CanonicalConfig) : Prop :=
  ∃ config, canonicalConfig py config = .ok (some applied)

/-- Evidence and configuration with the same upstream URL have the same endpoint. -/
theorem Written.endpoint {applied canonical : CanonicalConfig} (written : Written py applied)
    (canonicalizes : canonicalConfig py config = .ok (some canonical))
    (sameUrl : applied.directProxyUrl = canonical.directProxyUrl) :
    canonical.directProxyHost = applied.directProxyHost ∧
      canonical.directProxyPort = applied.directProxyPort := by
  obtain ⟨_, writes⟩ := written
  have same := canonicalConfig_direct canonicalizes
  rw [← sameUrl, canonicalConfig_direct writes] at same
  simpa [eq_comm] using same

theorem payloadMatchesConfig_url {payload : Payload} {allowNoProxyChange : Bool}
    {canonical : CanonicalConfig}
    (canonicalizes : canonicalConfig py config = .ok (some canonical))
    (isMatch : payloadMatchesConfig py payload config allowNoProxyChange = .ok true) :
    payload.appliedConfig.directProxyUrl = canonical.directProxyUrl := by
  by_contra differs
  rw [payloadMatchesConfig, canonicalizes] at isMatch
  change (if _ then _ else _) = _ at isMatch
  split at isMatch
  · cases isMatch
  split at isMatch
  · cases isMatch
  split at isMatch
  · cases isMatch
  cases isMatch

end

section

variable {py : Runtime} {turnsOn : Bool} {config : ProxyBackendConfig}
  {canonical : CanonicalConfig} {invariant : World → Prop} {world : World}

/-- Point HTTP and HTTPS at the closed port. -/
def pulseCommands (service : String) : List Command :=
  upstreamCommands service refreshFailClosedHost refreshFailClosedPort false

theorem sequence_pulseService (service : String) :
    Sequence (pulseCommands service) (.ok ()) (pulseService service) :=
  (Sequence.perform _ _).bind <| (Sequence.perform _ _).bind <|
    (Sequence.perform _ _).bind <| .perform _ _

theorem sequence_restoreOwnedService (service : String) :
    Sequence (ownedCommands config canonical service) (.ok ())
      (restoreOwnedService config canonical service) :=
  (Sequence.perform _ _).bind <| (Sequence.perform _ _).bind <|
    (Sequence.perform _ _).bind <| .perform _ _

theorem ensures_pulseServices {services : List String}
    (keeps : ∀ service ∈ services,
      Maintains (effect turnsOn) (pulseCommands service) invariant)
    (holds : invariant world) :
    (services.forM pulseService).Ensures (faultyHost turnsOn)
      (fun command state => command.WritesProxy ∧ invariant (effect turnsOn command state))
      (fun _ last => invariant last) world := by
  refine ensures_forM (fun service member state holds => ?_) (fun _ holds => holds) holds
  have stages := keeps service member state holds
  refine ((sequence_pulseService service).ensures stages holds).mono ?_ ?_
  · rintro command state ⟨member, kept⟩
    exact ⟨writesProxy_of_mem_upstreamCommands member, kept⟩
  · rintro (error | ⟨⟩) last ⟨kept, -⟩
    · exact kept
    · exact kept

theorem ensures_restoreOwnedEndpoint {services : List String}
    (keeps : ∀ service ∈ services,
      Maintains (effect turnsOn) (ownedCommands config canonical service) invariant)
    (holds : invariant world) :
    (restoreOwnedEndpoint config canonical services).Ensures (faultyHost turnsOn)
      (fun command state => command.WritesProxy ∧ invariant (effect turnsOn command state))
      (fun outcome last => invariant last ∧ ∃ answer, outcome = .ok answer) world := by
  induction services generalizing world with
  | nil => exact ⟨holds, true, rfl⟩
  | cons service services ih =>
      have stages := keeps service List.mem_cons_self world holds
      rw [restoreOwnedEndpoint, ensures_bind, ensures_attempt]
      refine ((sequence_restoreOwnedService service).ensures stages holds).mono ?_ ?_
      · rintro command state ⟨member, kept⟩
        exact ⟨writesProxy_of_mem_upstreamCommands member, kept⟩
      · rintro outcome last ⟨kept, -⟩
        refine ensures_bind _ |>.mpr ((ih (fun other member =>
          keeps other (List.mem_cons_of_mem _ member)) kept).weaken_post ?_)
        rintro _ last ⟨kept, answer, rfl⟩
        exact ⟨kept, _, rfl⟩

theorem ensures_pulse {payload : Payload}
    (keeps : ∀ entry ∈ payload.services,
      Maintains (effect turnsOn) (pulseCommands entry.1) invariant ∧
        Maintains (effect turnsOn) (ownedCommands config canonical entry.1) invariant)
    (holds : invariant world) :
    (pulse py config canonical payload).Ensures (faultyHost turnsOn)
      (fun command state => command.WritesProxy ∧ invariant (effect turnsOn command state))
      (fun outcome last => invariant last ∧
        (outcome = .ok true → ownedPayload py payload last = true)) world := by
  have keepsNamed : ∀ service ∈ payload.services.map Prod.fst,
      Maintains (effect turnsOn) (pulseCommands service) invariant ∧
        Maintains (effect turnsOn) (ownedCommands config canonical service) invariant := by
    intro service member
    obtain ⟨entry, saved, rfl⟩ := List.mem_map.mp member
    exact keeps entry saved
  have back := fun last kept => @ensures_restoreOwnedEndpoint turnsOn config canonical invariant
    last _ (fun service member => (keepsNamed service member).2) kept
  rw [pulse, ensures_bind, ensures_attempt]
  refine (ensures_pulseServices (fun service member => (keepsNamed service member).1)
    holds).weaken_post ?_
  rintro (error | ⟨⟩) last kept
  · refine ensures_bind _ |>.mpr ((back last kept).weaken_post ?_)
    rintro _ last ⟨kept, answer, rfl⟩
    exact ⟨kept, by simp⟩
  · refine ensures_bind _ |>.mpr ((back last kept).weaken_post ?_)
    rintro _ last ⟨kept, answer, rfl⟩
    rw [followedBy_ok]
    cases answer with
    | false => exact ⟨kept, by simp⟩
    | true =>
        refine ((decides_payloadIsOwned py payload).ensures _ last).mono
          (fun _ _ => False.elim) ?_
        rintro _ state ⟨rfl, answer, rfl, sound⟩
        exact ⟨kept, fun yes => sound (Except.ok.inj yes)⟩

/-- What `refresh` can do: nothing unless the evidence is owned, and a success means that
it is owned again. -/
theorem ensures_refresh
    (keeps : ∀ payload canonical, readBackup world.store = .ok payload →
      canonicalConfig py config = .ok (some canonical) →
      payload.appliedConfig.directProxyUrl = canonical.directProxyUrl →
      ownedPayload py payload world = true → ∀ entry ∈ payload.services,
        Maintains (effect turnsOn) (pulseCommands entry.1) invariant ∧
          Maintains (effect turnsOn) (ownedCommands config canonical entry.1) invariant)
    (holds : invariant world) :
    (refresh py config).Ensures (faultyHost turnsOn)
      (fun command state =>
        (∃ payload, readBackup world.store = .ok payload ∧ ownedPayload py payload world = true) ∧
        Guarded turnsOn world.store invariant command state)
      (fun outcome last => invariant last ∧ last.store = world.store ∧
        (outcome = .ok true → ∃ payload, readBackup world.store = .ok payload ∧
          ownedPayload py payload last = true)) world := by
  rw [refresh, ensures_bind, ensures_ofExcept]
  cases canonicalizes : canonicalConfig py config with
  | error error => exact ⟨holds, rfl, by simp⟩
  | ok canonical =>
  cases canonical with
  | none => exact ⟨holds, rfl, by simp⟩
  | some canonical =>
      rw [followedBy_ok]
      refine ((ensures_storeExists world).mono (fun _ _ => False.elim)
        fun _ _ same => same).bind ?_ (by simp)
      rintro present last ⟨found, rfl⟩
      obtain rfl := Except.ok.inj found
      split
      next => exact ⟨holds, rfl, by simp⟩
      next =>
        rw [ensures_bind, ensures_attempt]
        refine (ensures_loadBackup _ last).mono (fun _ _ => False.elim) ?_
        rintro (error | payload) state ⟨rfl, loaded⟩
        · exact ⟨holds, rfl, by simp⟩
        have loads := loaded payload rfl
        rw [followedBy_ok]
        rw [ensures_bind, ensures_ofExcept]
        cases isMatch : payloadMatchesConfig py payload config false with
        | error error => exact ⟨holds, rfl, by simp⟩
        | ok answer =>
        cases answer with
        | false => exact ⟨holds, rfl, by simp⟩
        | true =>
            rw [followedBy_ok]
            simp only [Bool.not_true, Bool.false_eq_true, ↓reduceIte]
            refine (decides_payloadIsOwned py payload).ensures_bind ?_
            rintro (_ | _) owned
            · exact ⟨holds, rfl, by simp⟩
            have plan := (⟨payload, loads, owned rfl⟩ : ∃ payload,
              readBackup state.store = .ok payload ∧ ownedPayload py payload state = true)
            have both := keeps payload canonical loads canonicalizes
              (payloadMatchesConfig_url canonicalizes isMatch) (owned rfl)
            refine (ensures_pulse (fun entry member =>
              ⟨(both entry member).1.and (maintains_store
                  (fun _ => writesProxy_of_mem_upstreamCommands) state.store),
                (both entry member).2.and (maintains_store
                  (fun _ => writesProxy_of_mem_upstreamCommands) state.store)⟩)
              ⟨holds, rfl⟩).mono ?_ ?_
            · exact fun command state writes => ⟨plan, guarded_of_writes command state writes⟩
            · rintro outcome last ⟨⟨kept, stored⟩, success⟩
              exact ⟨kept, stored, fun yes => ⟨payload, loads, success yes⟩⟩

/-- The settings of a service that points at the closed port. -/
def pulsed (proxies : ServiceProxies) : ServiceProxies where
  auto := proxies.auto
  manual
    | .socks => proxies.manual .socks
    | _ => { enabled := true, server := refreshFailClosedHost, port := refreshFailClosedPort }
  bypass := proxies.bypass

theorem pulsed_pulsed (proxies : ServiceProxies) : pulsed (pulsed proxies) = pulsed proxies := by
  refine ServiceProxies.ext rfl (funext fun kind => ?_) rfl
  cases kind <;> rfl

theorem exec_pulseServices (services : List String) (world : World) :
    (services.forM pulseService).exec (effect turnsOn) world =
      (.ok (), world.updateAll services fun _ => pulsed) := by
  induction services generalizing world with
  | nil =>
      rw [World.updateAll_nil]
      rfl
  | cons service services ih =>
      have returns : (pulseService service).exec (effect turnsOn) world =
          (.ok (), world.update service pulsed) := by
        rw [(sequence_pulseService service).exec]
        simp only [pulseCommands, upstreamCommands, after_cons, after_nil, effect,
          World.update_update]
        refine congrArg _ (World.update_congr _ ?_)
        refine ServiceProxies.ext rfl (funext fun kind => ?_) rfl
        cases kind <;> simp [pulsed]
      change (pulseService service >>= fun _ => services.forM pulseService).exec _ _ = _
      rw [exec_bind_ok returns, ih, World.updateAll_cons _ _ _ (fun _ => pulsed) pulsed_pulsed]

theorem payloadMatchesConfig_self {payload : Payload}
    (canonicalizes : canonicalConfig py config = .ok (some payload.appliedConfig)) :
    payloadMatchesConfig py payload config false = .ok true := by
  rw [payloadMatchesConfig, canonicalizes]
  change (if _ then _ else _) = _
  simp
  rfl

/-- `refresh` can be stopped when every service points at the closed port. -/
theorem refresh_stops_pulsed {payload : Payload} (loads : readBackup world.store = .ok payload)
    (canonicalizes : canonicalConfig py config = .ok (some payload.appliedConfig))
    (owned : ownedPayload py payload world = true) :
    (refresh py config).Stops (faultyHost turnsOn) world
      (world.updateAll (payload.services.map Prod.fst) fun _ => pulsed) := by
  have present : (storeExists : Proc Bool).exec (effect turnsOn) world = (.ok true, world) := by
    change (Except.ok world.store.isSome, world) = _
    rw [(readBackup_eq_ok loads).1]
    rfl
  have loaded : (loadBackup.attempt : Proc (Except BackendError Payload)).exec
      (effect turnsOn) world = (.ok (.ok payload), world) := by
    rw [exec_attempt, observes_loadBackup world loads]
  have isMatch : (ofExcept (payloadMatchesConfig py payload config false) : Proc Bool).exec
      (effect turnsOn) world = (.ok true, world) := by
    rw [exec_ofExcept, payloadMatchesConfig_self canonicalizes]
  have own : (payloadIsOwned py payload).exec (effect turnsOn) world = (.ok true, world) := by
    rw [(decides_payloadIsOwned py payload).exec, owned]
  have pulses : ((payload.services.map Prod.fst).forM pulseService).Stops (faultyHost turnsOn)
      world (world.updateAll (payload.services.map Prod.fst) fun _ => pulsed) := by
    have returns : ((payload.services.map Prod.fst).forM pulseService).exec (effect turnsOn)
        world = (.ok (), _) := exec_pulseServices _ world
    have finishes := finishes_of_exec _ world (congrArg Prod.fst returns)
    rw [returns] at finishes
    exact finishes.stops
  rw [refresh, canonicalizes]
  refine stops_bind_of_exec (exec_ofExcept _) (stops_bind_of_exec present ?_)
  refine stops_bind_of_exec loaded (stops_bind_of_exec isMatch (stops_bind_of_exec own ?_))
  exact pulses.attempt.bind _

/-- HTTP and HTTPS are enabled and lead to the upstream proxy or to the closed port; the
other settings are as `before`. -/
structure FailClosed (applied : CanonicalConfig) (before now : ServiceProxies) : Prop where
  auto : now.auto = before.auto
  socks : now.manual .socks = before.manual .socks
  bypass : now.bypass = before.bypass
  upstream : ∀ kind, kind ≠ .socks → (now.manual kind).enabled = true ∧
    ((now.manual kind).server = applied.directProxyHost ∧
        (now.manual kind).port = applied.directProxyPort ∨
      (now.manual kind).server = refreshFailClosedHost ∧
        (now.manual kind).port = refreshFailClosedPort)

namespace FailClosed

variable {applied : CanonicalConfig} {before now : ServiceProxies} {kind : ManualKind}
  {server : String} {port : Int}

theorem setEndpoint (closed : FailClosed applied before now) (isUpstream : kind ≠ .socks)
    (endpoint : server = applied.directProxyHost ∧ port = applied.directProxyPort ∨
      server = refreshFailClosedHost ∧ port = refreshFailClosedPort) (authenticated : Bool) :
    FailClosed applied before (now.setEndpoint turnsOn kind server port authenticated) where
  auto := closed.auto
  socks := by simp [isUpstream.symm, closed.socks]
  bypass := closed.bypass
  upstream other notSocks := by
    by_cases same : other = kind
    · subst same
      simpa [(closed.upstream other notSocks).1] using endpoint
    · simpa [same] using closed.upstream other notSocks

theorem setEnabled (closed : FailClosed applied before now) (isUpstream : kind ≠ .socks) :
    FailClosed applied before (now.setEnabled kind true) where
  auto := closed.auto
  socks := by simp [isUpstream.symm, closed.socks]
  bypass := closed.bypass
  upstream other notSocks := by
    by_cases same : other = kind
    · subst same
      simpa using (closed.upstream other notSocks).2
    · simpa [same] using closed.upstream other notSocks

/-- A service that was owned stays one that may be restored. -/
theorem recoverable {snapshot : Snapshot} (closed : FailClosed applied before now)
    (owned : ownedState py snapshot applied before = true) :
    recoverableState py snapshot applied now = true := by
  simp only [ownedState, Bool.and_eq_true, Bool.not_eq_true'] at owned
  obtain ⟨⟨auto, bypass⟩, -, socks⟩ := owned
  have upstream : ∀ kind, kind ≠ .socks → ∀ expected,
      upstreamProxyRecoverable (now.manual kind) expected applied = true := by
    intro kind notSocks expected
    obtain ⟨enabled, ⟨server, port⟩ | ⟨server, port⟩⟩ := closed.upstream kind notSocks
    · simp [upstreamProxyRecoverable, ownedDirectProxyMatches, enabled, server, port]
    · simp [upstreamProxyRecoverable, refreshFailClosedProxyMatches, enabled, server, port]
  simp [recoverableState, closed.auto, auto, closed.bypass, bypass,
    upstream .web (by decide), upstream .secureWeb (by decide), socksProxyRecoverable,
    closed.socks, socks]

end FailClosed

/-- Every saved service is fail closed, and nothing but proxy settings has changed. -/
structure FailsClosed (payload : Payload) (before now : World) : Prop where
  services : now.services = before.services
  store : now.store = before.store
  saved : ∀ entry ∈ payload.services,
    FailClosed payload.appliedConfig (before.proxies entry.1) (now.proxies entry.1)

namespace FailsClosed

variable {payload : Payload} {before now : World}

theorem of_owned (owned : ownedPayload py payload before = true) :
    FailsClosed payload before before where
  services := rfl
  store := rfl
  saved entry member := by
    rw [ownedPayload, Bool.and_eq_true, List.all_eq_true] at owned
    have own := owned.2 entry member
    simp only [ownedState, ownedDirectProxyMatches, Bool.and_eq_true, decide_eq_true_eq] at own
    refine ⟨rfl, rfl, rfl, fun kind notSocks => ?_⟩
    cases kind with
    | web => exact ⟨own.2.1.1.1.1, .inl ⟨own.2.1.1.1.2, own.2.1.1.2⟩⟩
    | secureWeb => exact ⟨own.2.1.2.1.1, .inl ⟨own.2.1.2.1.2, own.2.1.2.2⟩⟩
    | socks => exact absurd rfl notSocks

theorem update (closed : FailsClosed payload before now) (service : String)
    {change : ServiceProxies → ServiceProxies}
    (keeps : ∀ before now, FailClosed payload.appliedConfig before now →
      FailClosed payload.appliedConfig before (change now)) :
    FailsClosed payload before (now.update service change) where
  services := closed.services
  store := closed.store
  saved entry member :=
    now.update_proxies_induction service entry.1 (keeps _) (closed.saved entry member)

/-- Pointing a service at one of the two endpoints keeps every service fail closed. -/
theorem maintains {server : String} {port : Int}
    (endpoint : server = payload.appliedConfig.directProxyHost ∧
        port = payload.appliedConfig.directProxyPort ∨
      server = refreshFailClosedHost ∧ port = refreshFailClosedPort)
    (service : String) (authenticated : Bool) :
    Maintains (effect turnsOn) (upstreamCommands service server port authenticated)
      (FailsClosed payload before) := by
  refine .of_forall fun command member state closed => ?_
  simp only [upstreamCommands, List.mem_cons, List.not_mem_nil, or_false] at member
  rcases member with rfl | rfl | rfl | rfl
  · exact closed.update _ fun _ _ closed => closed.setEndpoint (by decide) endpoint _
  · exact closed.update _ fun _ _ closed => closed.setEndpoint (by decide) endpoint _
  · exact closed.update _ fun _ _ closed => closed.setEnabled (by decide)
  · exact closed.update _ fun _ _ closed => closed.setEnabled (by decide)

theorem restoreAccepted (closed : FailsClosed payload before now)
    (owned : ownedPayload py payload before = true) :
    restoreAccepted py payload now = true := by
  rw [ownedPayload, Bool.and_eq_true, List.all_eq_true] at owned
  rw [MacOS.restoreAccepted, allAccepted, Bool.and_eq_true, List.all_eq_true]
  refine ⟨?_, fun entry member => ?_⟩
  · rw [World.serviceNames, closed.services]
    exact owned.1
  · rw [acceptedState, (closed.saved entry member).recoverable (owned.2 entry member),
      Bool.or_true]

end FailsClosed

/-- From an owned state `refresh` fails closed at every command. -/
theorem ensures_refresh_owned (config : ProxyBackendConfig) {payload : Payload}
    (loads : readBackup world.store = .ok payload) (written : Written py payload.appliedConfig)
    (owned : ownedPayload py payload world = true) :
    (refresh py config).Ensures (faultyHost turnsOn)
      (Guarded turnsOn world.store (FailsClosed payload world))
      (fun outcome last => outcome = .ok true → ownedPayload py payload last = true) world := by
  have keeps : ∀ stored canonical, readBackup world.store = .ok stored →
      canonicalConfig py config = .ok (some canonical) →
      stored.appliedConfig.directProxyUrl = canonical.directProxyUrl →
      ownedPayload py stored world = true → ∀ entry ∈ stored.services,
        Maintains (effect turnsOn) (pulseCommands entry.1) (FailsClosed payload world) ∧
          Maintains (effect turnsOn) (ownedCommands config canonical entry.1)
            (FailsClosed payload world) := by
    intro stored canonical loaded canonicalizes sameUrl _ entry _
    obtain rfl : payload = stored := Except.ok.inj (loads.symm.trans loaded)
    obtain ⟨host, port⟩ := written.endpoint canonicalizes sameUrl
    exact ⟨FailsClosed.maintains (.inr ⟨rfl, rfl⟩) _ _,
      FailsClosed.maintains (.inl ⟨host, congrArg _ port⟩) _ _⟩
  refine (ensures_refresh keeps (.of_owned owned)).mono (fun _ _ issued => issued.2) ?_
  rintro outcome last ⟨-, -, success⟩ yes
  obtain ⟨stored, loaded, owned⟩ := success yes
  obtain rfl : payload = stored := Except.ok.inj (loads.symm.trans loaded)
  exact owned

/-- From an owned state, wherever `refresh` is stopped and whatever fails: HTTP and HTTPS
of every saved service lead to the upstream proxy or to the closed port, nothing else has
changed and the evidence can still be restored; success means that all is owned again. -/
theorem refresh_fail_closed (py : Runtime) (turnsOn : Bool) (config : ProxyBackendConfig)
    (world : World) (payload : Payload) (loads : readBackup world.store = .ok payload)
    (written : Written py payload.appliedConfig)
    (owned : ownedPayload py payload world = true) :
    (∀ last, (refresh py config).Stops (faultyHost turnsOn) world last →
      FailsClosed payload world last ∧ restoreAccepted py payload last = true) ∧
    ∀ last, (refresh py config).Finishes (faultyHost turnsOn) world (.ok true) last →
      ownedPayload py payload last = true := by
  have contract : (refresh py config).Ensures (faultyHost turnsOn) _ _ world :=
    ensures_refresh_owned config loads written owned
  refine ⟨fun last stops => ?_, fun last finishes => contract.finishes finishes rfl⟩
  have closed : FailsClosed payload world last :=
    contract.stops (fun _ _ guaranteed _ => guaranteed.2.2) (.of_owned owned) stops
  exact ⟨closed, closed.restoreAccepted owned⟩

theorem refresh_fail_closed_sample :
    let payload := storedEvidence sampleCanonical (sampleWorld sampleProxies)
    let world := (sampleWorld sampleProxies).enabled sampleConfig sampleCanonical
    (∀ last, (refresh sampleRuntime sampleConfig).Stops (faultyHost false) world last →
      FailsClosed payload world last ∧ restoreAccepted sampleRuntime payload last = true) ∧
    ∀ last, (refresh sampleRuntime sampleConfig).Finishes (faultyHost false) world
      (.ok true) last → ownedPayload sampleRuntime payload last = true :=
  refresh_fail_closed sampleRuntime false sampleConfig _ _ rfl
    ⟨sampleConfig, sample_canonicalizes⟩ (by decide)

end

end ProxyLauncher.MacOS
