import ProxyLauncher.MacOS.State

/-!
# The macOS backend

`MacOSBackend` as programs over `World`.  A Python function that raises becomes a
program that raises; `try` becomes `attempt`; a loop with an early exit becomes a
recursion over the list.  Log messages are left out.
-/

namespace ProxyLauncher.MacOS

open Interruption Python

/-- A backend method. -/
abbrev Proc := Program World Query Command BackendError

def backupSchemaVersion : Int := 2
def backendId : String := "macos"
def refreshFailClosedHost : String := "127.0.0.1"
def refreshFailClosedPort : Int := 1

section

variable (py : Runtime)

/-- The loop of `_normalize_domains`, with the keys seen so far. -/
def normalizeDomainsFrom : List String → List String → List String
  | _, [] => []
  | seen, raw :: rest =>
      let value := strip raw
      let key := py.lower value
      if value = "" ∨ key ∈ seen then normalizeDomainsFrom seen rest
      else key :: normalizeDomainsFrom (key :: seen) rest

def normalizeDomains (values : List String) : List String :=
  normalizeDomainsFrom py [] values

/-- Equality of the two sets of normalized domains. -/
def domainsEqual (first second : List String) : Bool :=
  let left := normalizeDomains py first
  let right := normalizeDomains py second
  left.all (fun domain => right.contains domain) && right.all fun domain => left.contains domain

/-- Host and port of a URL that must have one of the given schemes. -/
def configuredEndpoint (schemes : List String) (url : String) :
    Except BackendError (Option (String × Nat)) :=
  match py.urlsplit url with
  | .error message => .error (.valueError message)
  | .ok parsed =>
      if parsed.scheme ∉ schemes then .ok none
      else
        match parsed.hostname with
        | none | some "" => .ok none
        | some host =>
            match parsed.port with
            | .error message => .error (.valueError message)
            | .ok none => .ok none
            | .ok (some port) => .ok (some (host, port))

@[irreducible]
def canonicalConfig (config : ProxyBackendConfig) :
    Except BackendError (Option CanonicalConfig) := do
  let pacUrl := strip config.pacUrl
  let httpProxyUrl := strip config.httpProxyUrl
  let socksProxyUrl := strip config.socksProxyUrl
  if pacUrl = "" ∨ httpProxyUrl = "" ∨ socksProxyUrl = "" then
    return none
  let some (httpProxyHost, httpProxyPort) ← configuredEndpoint py ["http"] httpProxyUrl
    | return none
  let some (socksProxyHost, socksProxyPort) ←
      configuredEndpoint py ["socks", "socks5"] socksProxyUrl
    | return none
  let upstreamProxyUrl := strip config.upstreamHttpProxyUrl
  let some (directProxyHost, directProxyPort) ← configuredEndpoint py ["http"] upstreamProxyUrl
    | return none
  let username := config.upstreamUsername
  let password := config.upstreamPassword
  if (username ≠ "") ≠ (password ≠ "") then
    return none
  return some {
    pacUrl, httpProxyUrl, httpProxyHost, httpProxyPort, socksProxyUrl, socksProxyHost,
    socksProxyPort, directProxyUrl := upstreamProxyUrl, directProxyHost, directProxyPort,
    directProxyAuthenticated := username ≠ "" ∧ password ≠ "",
    noProxy := normalizeDomains py config.noProxy }

/-- `_local_pac_endpoint`: host, port and path of a PAC URL on this machine. -/
def localPacEndpoint (url : String) : Option (String × Nat × String) :=
  match py.urlsplit (strip url) with
  | .error _ => none
  | .ok parsed =>
      let host := py.lower (parsed.hostname.getD "")
      if host ∉ ["127.0.0.1", "localhost", "::1"] then none
      else if parsed.scheme ∉ ["http", "https"] then none
      else
        match parsed.port with
        | .error _ => none
        | .ok port =>
            let port := match port with
              | none | some 0 => if parsed.scheme = "https" then 443 else 80
              | some port => port
            some (host, port, if parsed.path = "" then "/" else parsed.path)

def snapshotLocalPacUrls (snapshots : List (String × Snapshot)) : List (String × String) :=
  snapshots.filterMap fun (name, snapshot) =>
    if !snapshot.autoProxy.enabled then none
    else
      let url := strip snapshot.autoProxy.url
      if (localPacEndpoint py url).isSome then some (name, url) else none

end

def failed (command : String) : BackendError :=
  .networkSetup ("networksetup failed for " ++ command)

def listServices : Proc (List NetworkService) :=
  .ask .listServices (fun world => world.services.entries) (failed "-listallnetworkservices")

def getAutoProxy (service : String) : Proc AutoProxyState :=
  .ask (.getAutoProxy service) (fun world => (world.proxies service).auto)
    (failed "-getautoproxyurl")

def setAutoProxyUrl (service url : String) : Proc Unit :=
  .perform (.setAutoProxyUrl service url) (failed "-setautoproxyurl")

def setAutoProxyState (service : String) (enabled : Bool) : Proc Unit :=
  .perform (.setAutoProxyState service enabled) (failed "-setautoproxystate")

/-- `_get_manual_proxy`. -/
def getManualProxy (kind : ManualKind) (option service : String) : Proc ManualProxyState :=
  .ask (.getManualProxy kind service) (fun world => (world.proxies service).manual kind)
    (failed option)

def getWebProxy (service : String) : Proc ManualProxyState :=
  getManualProxy .web "-getwebproxy" service

def getSecureWebProxy (service : String) : Proc ManualProxyState :=
  getManualProxy .secureWeb "-getsecurewebproxy" service

def getSocksProxy (service : String) : Proc ManualProxyState :=
  getManualProxy .socks "-getsocksfirewallproxy" service

def setWebProxy (service server : String) (port : Int) (username password : String) :
    Proc Unit :=
  .perform (.setManualProxy .web service server port (username ≠ "" ∧ password ≠ ""))
    (failed "-setwebproxy")

def setWebProxyState (service : String) (enabled : Bool) : Proc Unit :=
  .perform (.setManualProxyState .web service enabled) (failed "-setwebproxystate")

def setSecureWebProxy (service server : String) (port : Int) (username password : String) :
    Proc Unit :=
  .perform (.setManualProxy .secureWeb service server port (username ≠ "" ∧ password ≠ ""))
    (failed "-setsecurewebproxy")

def setSecureWebProxyState (service : String) (enabled : Bool) : Proc Unit :=
  .perform (.setManualProxyState .secureWeb service enabled) (failed "-setsecurewebproxystate")

def setSocksProxy (service server : String) (port : Int) : Proc Unit :=
  .perform (.setManualProxy .socks service server port false) (failed "-setsocksfirewallproxy")

def setSocksProxyState (service : String) (enabled : Bool) : Proc Unit :=
  .perform (.setManualProxyState .socks service enabled) (failed "-setsocksfirewallproxystate")

def getBypassDomains (service : String) : Proc (List String) :=
  .ask (.getBypassDomains service) (fun world => (world.proxies service).bypass)
    (failed "-getproxybypassdomains")

/-- The arguments that `set_bypass_domains` passes after the service name. -/
def bypassArguments (domains : List String) : List String :=
  let values := (domains.map strip).filter (· ≠ "")
  if values = [] then ["Empty"] else values

def setBypassDomains (service : String) (domains : List String) : Proc Unit :=
  .perform (.setBypassDomains service (bypassArguments domains))
    (failed "-setproxybypassdomains")

def storeExists : Proc Bool :=
  .read .storeExists fun
    | some world => pure world.store.isSome
    | none => pure false

def saveStore (payload : Payload) : Proc Unit :=
  .perform (.saveStore payload) (.rollbackState "macOS rollback state could not be persisted")

def clearStore : Proc Unit :=
  .perform .clearStore (.rollbackState "macOS rollback state could not be cleared")

/-- The checks of `_load_backup` on the values of a well-formed file. -/
def checkPayload (payload : Payload) : Except BackendError Payload :=
  if payload.schemaVersion ≠ backupSchemaVersion then
    .error (.rollbackState "unsupported macOS rollback schema")
  else if payload.backend ≠ backendId then
    .error (.rollbackState "rollback state belongs to another backend")
  else if payload.services = [] then
    .error (.rollbackState "rollback state has no network services")
  else if payload.services.any fun (_, snapshot) =>
      snapshot.autoProxy.enabled && decide (strip snapshot.autoProxy.url = "") then
    .error (.rollbackState "enabled automatic-proxy snapshot has no URL")
  else .ok payload

/-- The value of an evidence file, or what `_load_backup` raises. -/
def readBackup : Option RollbackFile → Except BackendError Payload
  | none | some .unreadable => .error (.rollbackState "macOS rollback state is unreadable")
  | some (.malformed message) => .error (.rollbackState message)
  | some (.saved payload) => checkPayload payload

def loadBackup : Proc Payload := do
  let file ← .ask .loadStore World.store (.rollbackState "macOS rollback state is unreadable")
  .ofExcept (readBackup file)

def expectedBypass (snapshot : Snapshot) : List String :=
  (snapshot.bypassDomains.map strip).filter (· ≠ "")

/-- `_manual_proxy_matches` without its unused `enabled` argument. -/
def manualProxyMatches (current expected : ManualProxyState) : Bool :=
  if current.enabled ≠ expected.enabled then false
  else if expected.server = "" ∧ expected.port = 0 ∧ expected.enabled = false then true
  else
    current.server = expected.server && current.port = expected.port &&
      current.authenticated = expected.authenticated

def ownedDirectProxyMatches (current : ManualProxyState) (applied : CanonicalConfig) : Bool :=
  current.enabled && current.server = applied.directProxyHost &&
    current.port = applied.directProxyPort

def refreshFailClosedProxyMatches (current : ManualProxyState) : Bool :=
  current.enabled && current.server = refreshFailClosedHost &&
    current.port = refreshFailClosedPort

def disabledOwnedDirectProxyEndpointMatches (current : ManualProxyState)
    (applied : CanonicalConfig) : Bool :=
  !current.enabled && current.server = applied.directProxyHost &&
    current.port = applied.directProxyPort

def disabledSnapshotProxyEndpointMatches (current expected : ManualProxyState) : Bool :=
  !current.enabled && expected.server ≠ "" && 0 < expected.port &&
    current.server = expected.server && current.port = expected.port &&
    current.authenticated = expected.authenticated

def manualProxyStates (service : String) :
    Proc (ManualProxyState × ManualProxyState × ManualProxyState) := do
  return (← getWebProxy service, ← getSecureWebProxy service, ← getSocksProxy service)

def manualProxiesMatchOwnedState (service : String) (applied : CanonicalConfig) :
    Proc Bool := do
  match ← (manualProxyStates service).attempt with
  | .error _ => return false
  | .ok (web, secureWeb, socks) =>
      return ownedDirectProxyMatches web applied && ownedDirectProxyMatches secureWeb applied &&
        !socks.enabled

/-- A manual proxy that the snapshot does not mention matches it. -/
def matchesIfSaved (current : ManualProxyState) (expected : Option ManualProxyState) : Bool :=
  match expected with
  | none => true
  | some expected => manualProxyMatches current expected

def manualProxiesMatchSnapshot (service : String) (snapshot : Snapshot) : Proc Bool := do
  match ← (manualProxyStates service).attempt with
  | .error _ => return false
  | .ok (web, secureWeb, socks) =>
      return matchesIfSaved web (snapshot.manualProxy .web) &&
        matchesIfSaved secureWeb (snapshot.manualProxy .secureWeb) &&
        matchesIfSaved socks (snapshot.manualProxy .socks)

/-- `web_ok` and `secure_ok` of `_manual_proxies_recoverable`. -/
def upstreamProxyRecoverable (current : ManualProxyState) (expected : Option ManualProxyState)
    (applied : CanonicalConfig) : Bool :=
  ownedDirectProxyMatches current applied || refreshFailClosedProxyMatches current ||
    disabledOwnedDirectProxyEndpointMatches current applied ||
    match expected with
    | none => false
    | some expected =>
        manualProxyMatches current expected ||
          disabledSnapshotProxyEndpointMatches current expected

/-- `socks_ok` of `_manual_proxies_recoverable`. -/
def socksProxyRecoverable (current : ManualProxyState) (expected : Option ManualProxyState) :
    Bool :=
  !current.enabled ||
    match expected with
    | none => false
    | some expected => manualProxyMatches current expected

def manualProxiesRecoverable (service : String) (snapshot : Snapshot)
    (applied : CanonicalConfig) : Proc Bool := do
  match ← (manualProxyStates service).attempt with
  | .error _ => return false
  | .ok (web, secureWeb, socks) =>
      return upstreamProxyRecoverable web (snapshot.manualProxy .web) applied &&
        upstreamProxyRecoverable secureWeb (snapshot.manualProxy .secureWeb) applied &&
        socksProxyRecoverable socks (snapshot.manualProxy .socks)

def autoProxyAndBypass (service : String) : Proc (AutoProxyState × List String) := do
  return (← getAutoProxy service, ← getBypassDomains service)

section

variable (py : Runtime)

def serviceMatchesOwnedState (service : String) (snapshot : Snapshot)
    (applied : CanonicalConfig) : Proc Bool := do
  match ← (autoProxyAndBypass service).attempt with
  | .error _ => return false
  | .ok (auto, bypass) =>
      if !auto.enabled && domainsEqual py bypass (expectedBypass snapshot) then
        manualProxiesMatchOwnedState service applied
      else
        return false

def serviceMatchesSnapshot (service : String) (snapshot : Snapshot) : Proc Bool := do
  match ← (autoProxyAndBypass service).attempt with
  | .error _ => return false
  | .ok (auto, bypass) =>
      let expectedUrl := strip snapshot.autoProxy.url
      if auto.enabled ≠ snapshot.autoProxy.enabled then
        return false
      else if snapshot.autoProxy.enabled ∧ (expectedUrl = "" ∨ auto.url ≠ expectedUrl) then
        return false
      else if domainsEqual py bypass snapshot.bypassDomains then
        manualProxiesMatchSnapshot service snapshot
      else
        return false

/-- `auto_snapshot` of `_service_matches_recoverable_state`. -/
def autoProxyMatchesSnapshot (auto expected : AutoProxyState) : Bool :=
  let expectedUrl := strip expected.url
  (!expected.enabled && !auto.enabled) ||
    (expected.enabled && expectedUrl ≠ "" && auto.enabled && auto.url = expectedUrl)

def serviceMatchesRecoverableState (service : String) (snapshot : Snapshot)
    (applied : CanonicalConfig) : Proc Bool := do
  match ← (autoProxyAndBypass service).attempt with
  | .error _ => return false
  | .ok (auto, bypass) =>
      if !(!auto.enabled || autoProxyMatchesSnapshot auto snapshot.autoProxy) then
        return false
      else if !(domainsEqual py bypass (expectedBypass snapshot) ||
          domainsEqual py bypass snapshot.bypassDomains) then
        return false
      else
        manualProxiesRecoverable service snapshot applied

/-- The loop of `_restore_plan` over the saved services. -/
def planServices (applied : CanonicalConfig) :
    List (String × Snapshot) → Proc (Option (List String))
  | [] => return some []
  | (service, snapshot) :: rest => do
      if ← serviceMatchesOwnedState py service snapshot applied then
        return (← planServices applied rest).map (service :: ·)
      else if ← serviceMatchesSnapshot py service snapshot then
        planServices applied rest
      else if ← serviceMatchesRecoverableState py service snapshot applied then
        return (← planServices applied rest).map (service :: ·)
      else
        return none

/-- `_restore_plan`: the services to restore, or `none` when the restore is refused. -/
def restorePlan (payload : Payload) : Proc (Option (List String)) := do
  match ← listServices.attempt with
  | .error _ => return none
  | .ok services =>
      let currentNames := services.map NetworkService.name
      if payload.services.any fun (service, _) => service ∉ currentNames then
        return none
      else
        planServices py payload.appliedConfig payload.services

def payloadMatchesConfig (payload : Payload) (config : ProxyBackendConfig)
    (allowNoProxyChange : Bool) : Except BackendError Bool := do
  let some canonical ← canonicalConfig py config | return false
  let applied := payload.appliedConfig
  if applied.pacUrl ≠ canonical.pacUrl then return false
  if applied.httpProxyUrl ≠ canonical.httpProxyUrl then return false
  if applied.socksProxyUrl ≠ canonical.socksProxyUrl then return false
  if applied.directProxyUrl ≠ canonical.directProxyUrl then return false
  return allowNoProxyChange || domainsEqual py applied.noProxy canonical.noProxy

/-- `all(...)` over the saved services. -/
def allOwned (applied : CanonicalConfig) : List (String × Snapshot) → Proc Bool
  | [] => return true
  | (service, snapshot) :: rest => do
      if ← serviceMatchesOwnedState py service snapshot applied then
        allOwned applied rest
      else
        return false

def payloadIsOwned (payload : Payload) : Proc Bool := do
  match ← listServices.attempt with
  | .error _ => return false
  | .ok services =>
      let names := services.map NetworkService.name
      if payload.services.any fun (service, _) => service ∉ names then
        return false
      else
        allOwned py payload.appliedConfig payload.services

/-! ## Restoring -/

/-- One of the three manual proxy sections of `_restore_service`. -/
def restoreManualProxy (setProxy : String → Int → Proc Unit) (setState : Bool → Proc Unit)
    (saved : Option ManualProxyState) : Proc Unit :=
  match saved with
  | none => return ()
  | some saved => do
      if saved.server ≠ "" ∧ 0 < saved.port then
        setProxy saved.server saved.port
      setState saved.enabled

/-- The automatic-proxy section of `_restore_service`. -/
def restoreAutoProxy (service : String) (auto : AutoProxyState) : Proc Unit := do
  let url := strip auto.url
  if auto.enabled ∧ url = "" then
    .raise (.rollbackState "cannot restore enabled automatic proxy without a saved URL")
  else
    if url ≠ "" then
      setAutoProxyUrl service url
    if auto.enabled then
      setAutoProxyState service false
      setAutoProxyState service true
    else
      setAutoProxyState service false

def restoreService (service : String) (snapshot : Snapshot) : Proc Unit := do
  restoreManualProxy (fun server port => setWebProxy service server port "" "")
    (setWebProxyState service) (snapshot.manualProxy .web)
  restoreManualProxy (fun server port => setSecureWebProxy service server port "" "")
    (setSecureWebProxyState service) (snapshot.manualProxy .secureWeb)
  restoreManualProxy (setSocksProxy service) (setSocksProxyState service)
    (snapshot.manualProxy .socks)
  setBypassDomains service snapshot.bypassDomains
  restoreAutoProxy service snapshot.autoProxy

/-- The loop of `_restore_touched_services`: a service that cannot be restored does not
stop the others. -/
def restoreServices (snapshots : List (String × Snapshot)) : List String → Proc Bool
  | [] => return true
  | service :: rest => do
      let restore : Proc Unit := match snapshots.lookup service with
        | some snapshot => restoreService service snapshot
        | none => .raise (.rollbackState service)
      let outcome ← restore.attempt
      let restOk ← restoreServices snapshots rest
      return outcome.isOk && restOk

def restoreTouchedServices (snapshots : List (String × Snapshot)) (touched : List String) :
    Proc Bool :=
  restoreServices snapshots touched.reverse

def snapshotService (service : String) : Proc Snapshot := do
  let auto ← getAutoProxy service
  let web ← getWebProxy service
  let secureWeb ← getSecureWebProxy service
  let socks ← getSocksProxy service
  if web.authenticated || secureWeb.authenticated || socks.authenticated then
    .raise (.networkSetup ("authenticated proxy already configured on " ++ service))
  else
    let bypass ← getBypassDomains service
    return {
      autoProxy := auto
      manualProxy := fun
        | .web => some web
        | .secureWeb => some secureWeb
        | .socks => some socks
      bypassDomains := bypass }

/-- The loop of `_snapshot_enabled_services`. -/
def snapshotServices : List NetworkService → Proc (List (String × Snapshot))
  | [] => return []
  | service :: rest => do
      if service.enabled then
        let snapshot ← snapshotService service.name
        return (service.name, snapshot) :: (← snapshotServices rest)
      else
        snapshotServices rest

def snapshotEnabledServices : Proc (List (String × Snapshot)) := do
  let snapshots ← snapshotServices (← listServices)
  if snapshots = [] then
    .raise (.networkSetup "no enabled macOS network services found")
  else
    return snapshots

/-- The part of `enable` before the first mutation: `none` when a PAC on this machine is
in the way, else the snapshots after the evidence has been saved. -/
def prepareEnable (canonical : CanonicalConfig) :
    Proc (Option (List (String × Snapshot))) := do
  let snapshots ← snapshotEnabledServices
  if (snapshotLocalPacUrls py snapshots).any fun (_, url) => url ≠ canonical.pacUrl then
    return none
  else
    saveStore {
      schemaVersion := backupSchemaVersion
      backend := backendId
      appliedConfig := canonical
      services := snapshots }
    return some snapshots

/-- The body of the loop of `enable`. -/
def applyService (config : ProxyBackendConfig) (canonical : CanonicalConfig)
    (service : String) (snapshot : Snapshot) : Proc Unit := do
  setAutoProxyState service false
  setSocksProxyState service false
  setWebProxy service canonical.directProxyHost canonical.directProxyPort
    config.upstreamUsername config.upstreamPassword
  setSecureWebProxy service canonical.directProxyHost canonical.directProxyPort
    config.upstreamUsername config.upstreamPassword
  setWebProxyState service true
  setSecureWebProxyState service true
  if !domainsEqual py snapshot.bypassDomains (expectedBypass snapshot) then
    setBypassDomains service (expectedBypass snapshot)

/-- The loop of `enable`, with the services touched so far. -/
def applyServices (config : ProxyBackendConfig) (canonical : CanonicalConfig) :
    List String → List (String × Snapshot) → Proc (Except BackendError Unit × List String)
  | touched, [] => return (.ok (), touched)
  | touched, (service, snapshot) :: rest => do
      match ← (applyService py config canonical service snapshot).attempt with
      | .ok () => applyServices config canonical (touched ++ [service]) rest
      | .error error => return (.error error, touched ++ [service])

/-- `enable` once the evidence has been saved. -/
def applySnapshots (config : ProxyBackendConfig) (canonical : CanonicalConfig)
    (snapshots : List (String × Snapshot)) : Proc Bool := do
  let (outcome, touched) ← applyServices py config canonical [] snapshots
  match outcome with
  | .ok () => return true
  | .error _ =>
      let restored ← restoreTouchedServices snapshots touched
      if restored then
        let _ ← (clearStore.attempt : Proc (Except BackendError Unit))
      return false

def enable (config : ProxyBackendConfig) : Proc Bool := do
  let some canonical ← .ofExcept (canonicalConfig py config) | return false
  if ← storeExists then
    match ← loadBackup.attempt with
    | .error _ => return false
    | .ok payload =>
        if ← .ofExcept (payloadMatchesConfig py payload config false) then
          payloadIsOwned py payload
        else
          return false
  else
    match ← (prepareEnable py canonical).attempt with
    | .error _ | .ok none => return false
    | .ok (some snapshots) => applySnapshots py config canonical snapshots

/-- One turn of the loop of `refresh` that points a service at the closed port. -/
def pulseService (service : String) : Proc Unit := do
  setWebProxy service refreshFailClosedHost refreshFailClosedPort "" ""
  setSecureWebProxy service refreshFailClosedHost refreshFailClosedPort "" ""
  setWebProxyState service true
  setSecureWebProxyState service true

/-- One turn of `restore_owned_endpoint`. -/
def restoreOwnedService (config : ProxyBackendConfig) (canonical : CanonicalConfig)
    (service : String) : Proc Unit := do
  setWebProxy service canonical.directProxyHost canonical.directProxyPort
    config.upstreamUsername config.upstreamPassword
  setSecureWebProxy service canonical.directProxyHost canonical.directProxyPort
    config.upstreamUsername config.upstreamPassword
  setWebProxyState service true
  setSecureWebProxyState service true

def restoreOwnedEndpoint (config : ProxyBackendConfig) (canonical : CanonicalConfig) :
    List String → Proc Bool
  | [] => return true
  | service :: rest => do
      let outcome ← (restoreOwnedService config canonical service).attempt
      let restOk ← restoreOwnedEndpoint config canonical rest
      return outcome.isOk && restOk

/-- `refresh` once the live state has been found to be owned. -/
def pulse (config : ProxyBackendConfig) (canonical : CanonicalConfig) (payload : Payload) :
    Proc Bool := do
  let services := payload.services.map Prod.fst
  match ← (services.forM pulseService).attempt with
  | .ok () =>
      if ← restoreOwnedEndpoint config canonical services then
        payloadIsOwned py payload
      else
        return false
  | .error _ =>
      let _ ← restoreOwnedEndpoint config canonical services
      return false

def refresh (config : ProxyBackendConfig) : Proc Bool := do
  let some canonical ← .ofExcept (canonicalConfig py config) | return false
  if !(← storeExists) then
    return false
  else
    match ← loadBackup.attempt with
    | .error _ => return false
    | .ok payload =>
        if !(← .ofExcept (payloadMatchesConfig py payload config false)) then
          return false
        else if !(← payloadIsOwned py payload) then
          return false
        else
          pulse py config canonical payload

/-- `all(...)` over the saved services. -/
def allMatchSnapshot : List (String × Snapshot) → Proc Bool
  | [] => return true
  | (service, snapshot) :: rest => do
      if ← serviceMatchesSnapshot py service snapshot then
        allMatchSnapshot rest
      else
        return false

def disable : Proc Bool := do
  if !(← storeExists) then
    return true
  else
    match ← loadBackup.attempt with
    | .error _ => return false
    | .ok payload =>
        match ← restorePlan py payload with
        | none => return false
        | some toRestore =>
            if !(← restoreTouchedServices payload.services toRestore) then
              return false
            else if !(← allMatchSnapshot py payload.services) then
              return false
            else
              match ← clearStore.attempt with
              | .ok () => return true
              | .error _ => return false

/-- The loop of `sync_no_proxy`, with the services touched so far. -/
def syncServices : List String → List (String × Snapshot) →
    Proc (Except BackendError Unit × List String)
  | touched, [] => return (.ok (), touched)
  | touched, (service, snapshot) :: rest => do
      if domainsEqual py (expectedBypass snapshot) (expectedBypass snapshot) then
        syncServices touched rest
      else
        match ← (setBypassDomains service (expectedBypass snapshot)).attempt with
        | .ok () => syncServices (touched ++ [service]) rest
        | .error error => return (.error error, touched ++ [service])

/-- The rollback loops of `sync_no_proxy`. -/
def unsyncServices (snapshots : List (String × Snapshot)) : List String → Proc Unit
  | [] => return ()
  | service :: rest => do
      let reset : Proc Unit := match snapshots.lookup service with
        | some snapshot => setBypassDomains service (expectedBypass snapshot)
        | none => .raise (.rollbackState service)
      let _ ← (reset.attempt : Proc (Except BackendError Unit))
      unsyncServices snapshots rest

def syncNoProxy (config : ProxyBackendConfig) : Proc Bool := do
  let some canonical ← .ofExcept (canonicalConfig py config) | return false
  if !(← storeExists) then
    return false
  else
    match ← loadBackup.attempt with
    | .error _ => return false
    | .ok payload =>
        if !(← .ofExcept (payloadMatchesConfig py payload config true)) then
          return false
        else if !(← payloadIsOwned py payload) then
          return false
        else
          let (outcome, touched) ← syncServices py [] payload.services
          match outcome with
          | .error _ =>
              unsyncServices payload.services touched.reverse
              return false
          | .ok () =>
              match ← (saveStore { payload with appliedConfig := canonical }).attempt with
              | .ok () => return true
              | .error _ =>
                  unsyncServices payload.services touched.reverse
                  return false

end

end ProxyLauncher.MacOS
