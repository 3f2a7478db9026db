import ProxyLauncher.Linux.State
import ProxyLauncher.Interruption.Rollback
import ProxyLauncher.Texts.GVariant

/-!
# The Linux backend

Only the profiles that are active at `enable` are owned.  Evidence of their old state is on
disk before the first of them is changed.
-/

namespace ProxyLauncher.Linux

open Interruption Program Python Texts

/-- The library functions, the desktop client of the process and how the program of that client
reads the text of a value. -/
structure Platform where
  py : Runtime
  printable : Char → Bool
  desktop : Option DesktopBackend
  parseText : String → Option String
  lower_lower : ∀ text, py.lower (py.lower text) = py.lower text
  parses : ∀ text value, GVariant.Denotes text value → parseText text = some value

/-- `_normalize_no_proxy`. -/
def normalizeNoProxy (py : Runtime) (values : List String) : List String :=
  MacOS.normalizeDomains py values

/-- `_no_proxy_equal`. -/
def noProxyEqual (py : Runtime) (first second : List String) : Bool :=
  MacOS.domainsEqual py first second

/-- `_canonical_config`. -/
def canonicalConfig (py : Runtime) (config : ProxyBackendConfig) : Option CanonicalConfig :=
  let pacUrl := strip config.pacUrl
  let httpProxyUrl := strip config.httpProxyUrl
  if pacUrl = "" ∨ httpProxyUrl = "" then none
  else some { pacUrl, httpProxyUrl, noProxy := normalizeNoProxy py config.noProxy }

/-- `_desired_proxy_state`. -/
def desiredProxyState (applied : CanonicalConfig) : NetworkManagerProxyState where
  method := .auto
  browserOnly := false
  pacUrl := applied.pacUrl
  pacScript := ""

/-- `_desired_desktop_state`. -/
def desiredDesktopState (applied : CanonicalConfig) : DesktopProxyState where
  mode := .auto
  autoconfigUrl := applied.pacUrl

variable (platform : Platform)

/-- `connection_type.lower()`. -/
def lowerType (connection : ActiveConnection) : ActiveConnection :=
  { connection with connectionType := platform.py.lower connection.connectionType }

/-- `list_active_connections`. -/
def listActiveConnections : Proc (List ActiveConnection) :=
  ask .listActiveConnections (fun world => world.activeConnections.map (lowerType platform))
    .networkManager

/-- `list_connection_profiles`. -/
def listConnectionProfiles : Proc (String → Option String) :=
  ask .listConnectionProfiles
    (fun world uuid => (world.profileTypes uuid).map platform.py.lower) .networkManager

/-- `get_proxy`. -/
def getProxy (uuid : String) : Proc NetworkManagerProxyState := do
  match ← ask (.getProxy uuid) (fun world => (world.profiles uuid).bind Profile.proxy)
    .networkManager with
  | none => raise .networkManager
  | some proxy => pure proxy

/-- `set_proxy`. -/
def setProxy (uuid : String) (proxy : NetworkManagerProxyState) : Proc Unit :=
  perform (.setProxy uuid proxy) .networkManager

/-- `reapply`. -/
def reapply (device : String) : Proc Unit :=
  if device = "" ∨ device = "--" then raise .networkManager
  else perform (.reapply device) .networkManager

/-- `get_state`. -/
def getState : Proc DesktopProxyState := do
  let keys ← ask .desktopState World.desktop .desktopProxy
  match keys.mode with
  | none => raise .desktopProxy
  | some mode => pure { mode, autoconfigUrl := keys.autoconfigUrl }

/-- `_require_writable`; any answer but `true` counts as a failed read. -/
def requireWritable : Proc Unit :=
  ask .writable (fun _ => ()) .desktopProxy

/-- Write an address.  `gsettings` is given the `repr` of it, and fails on a text that it cannot
read. -/
def setAutoconfigUrl (url : String) : DesktopBackend → Proc Unit
  | .kde => perform (.setAutoconfigUrl url) .desktopProxy
  | .gsettings =>
      match platform.parseText (Python.repr platform.printable url) with
      | none => raise .desktopProxy
      | some text => perform (.setAutoconfigUrl text) .desktopProxy

/-- `set_state`.  KDE has no test of the two keys. -/
def setState (client : DesktopBackend) (state : DesktopProxyState) : Proc Unit := do
  if client = .gsettings then
    requireWritable
    requireWritable
  setAutoconfigUrl platform state.autoconfigUrl client
  perform (.setMode state.mode) .desktopProxy
  let current ← getState
  if current ≠ state then raise .desktopProxy

def storeExists : Proc Bool :=
  ask .storeExists (fun world => world.store.isSome) .rollbackState

/-- `_load_backup`. -/
def loadBackup : Proc Evidence := do
  match ← ask .loadStore World.store .rollbackState with
  | some (.saved evidence) =>
      if evidence.connections.isEmpty then raise .rollbackState else pure evidence
  | _ => raise .rollbackState

def clearStore : Proc Bool :=
  tell .clearStore

/-- `_payload_matches_config`. -/
def payloadMatchesConfig (py : Runtime) (payload : Evidence) (config : ProxyBackendConfig) :
    Bool :=
  match canonicalConfig py config with
  | none => false
  | some canonical =>
      decide (payload.appliedConfig.pacUrl = canonical.pacUrl) &&
        decide (payload.appliedConfig.httpProxyUrl = canonical.httpProxyUrl) &&
        noProxyEqual py payload.appliedConfig.noProxy canonical.noProxy

/-- `_profile_matches_owned_state`. -/
def profileMatchesOwnedState (uuid : String) (snapshot : Snapshot) (applied : CanonicalConfig)
    (currentProfiles : String → Option String) (allowRestored : Bool) : Proc Bool :=
  match currentProfiles uuid with
  | none => pure true
  | some connectionType =>
      if connectionType ≠ platform.py.lower snapshot.connectionType then pure false
      else do
        match ← (getProxy uuid).attempt with
        | .error _ => pure false
        | .ok current =>
            if current = desiredProxyState applied then pure true
            else pure (allowRestored && decide (current = snapshot.proxy))

/-- `_desktop_backend_matches_payload` for a saved desktop. -/
def desktopBackendMatches (saved : DesktopSnapshot) : Bool :=
  match platform.desktop with
  | none => false
  | some client => decide (client = saved.backend)

/-- The comparison in `_desktop_matches_owned_state`, field by field if `allowRestored`. -/
def desktopStateMatches (original desired current : DesktopProxyState) (allowRestored : Bool) :
    Bool :=
  decide (current = desired) ||
    allowRestored &&
      decide (current.mode = original.mode ∨ current.mode = desired.mode) &&
      decide (current.autoconfigUrl = original.autoconfigUrl ∨
        current.autoconfigUrl = desired.autoconfigUrl)

/-- `_desktop_matches_owned_state`. -/
def desktopMatchesOwnedState (payload : Evidence) (allowRestored : Bool) : Proc Bool :=
  match payload.desktopProxy with
  | none => pure true
  | some saved =>
      if desktopBackendMatches platform saved then do
        match ← getState.attempt with
        | .error _ => pure false
        | .ok current =>
            pure (desktopStateMatches saved.state (desiredDesktopState payload.appliedConfig)
              current allowRestored)
      else pure false

/-- Whether every listed profile matches; the first that does not ends the loop. -/
def profilesMatchOwnedState (applied : CanonicalConfig)
    (currentProfiles : String → Option String) (allowRestored : Bool) :
    List (String × Snapshot) → Proc Bool
  | [] => pure true
  | (uuid, snapshot) :: rest => do
      if ← profileMatchesOwnedState platform uuid snapshot applied currentProfiles allowRestored
      then profilesMatchOwnedState applied currentProfiles allowRestored rest
      else pure false

/-- `_target_connections`; the rows have no white space to strip and different uuids. -/
def targetConnections (connections : List ActiveConnection) : List ActiveConnection :=
  (connections.map (lowerType platform)).filter fun connection =>
    decide (connection.uuid ≠ "" ∧ connection.device ≠ "" ∧ connection.device ≠ "--" ∧
      connection.connectionType ≠ "vpn" ∧ connection.connectionType ≠ "loopback")

/-- The loop over the active connections in `_payload_is_owned_and_active`. -/
def activeAreOwned (payload : Evidence) : List ActiveConnection → Proc Bool
  | [] => pure true
  | connection :: rest =>
      match payload.connections.lookup connection.uuid with
      | none => pure false
      | some snapshot =>
          if platform.py.lower snapshot.connectionType ≠ connection.connectionType then pure false
          else do
            match ← (getProxy connection.uuid).attempt with
            | .error _ => pure false
            | .ok current =>
                if current = desiredProxyState payload.appliedConfig then
                  activeAreOwned payload rest
                else pure false

/-- The two lists that `_payload_is_owned_and_active` and `disable` start from. -/
def listBoth : Proc ((String → Option String) × List ActiveConnection) := do
  let profiles ← listConnectionProfiles platform
  let active ← listActiveConnections platform
  pure (profiles, active)

/-- `_payload_is_owned_and_active`. -/
def payloadIsOwnedAndActive (payload : Evidence) : Proc Bool := do
  match ← (listBoth platform).attempt with
  | .error _ => pure false
  | .ok (profiles, connections) =>
      let active := targetConnections platform connections
      if ← profilesMatchOwnedState platform payload.appliedConfig profiles false
        payload.connections then
        if ← desktopMatchesOwnedState platform payload false then
          if active.isEmpty then pure false else activeAreOwned platform payload active
        else pure false
      else pure false

/-- `_restore_desktop`. -/
def restoreDesktop (payload : Evidence) : Proc Bool :=
  match payload.desktopProxy with
  | none => pure true
  | some saved =>
      if desktopBackendMatches platform saved then do
        match ← (setState platform saved.backend saved.state).attempt with
        | .error _ => pure false
        | .ok _ => pure true
      else pure false

/-- The `try` block in the loop of `_restore_profiles`. -/
def restoreAndReapply (activeDevices : String → Option String) (entry : String × Snapshot) :
    Proc Unit := do
  setProxy entry.1 entry.2.proxy
  match activeDevices entry.1 with
  | none | some "" => pure ()
  | some device => reapply device

/-- One turn of the loop in `_restore_profiles`. -/
def restoreProfile (activeDevices : String → Option String) (entry : String × Snapshot) :
    Proc Bool := do
  let restored ← (restoreAndReapply activeDevices entry).attempt
  pure restored.isOk

/-- `_restore_profiles` of the given dictionary entries, from the last to the first. -/
def restoreProfiles (entries : List (String × Snapshot))
    (activeDevices : String → Option String) : Proc Bool :=
  every entries.reverse (restoreProfile activeDevices)

/-- `_snapshot_active_connections` of the given connections. -/
def snapshotConnections : List ActiveConnection → Proc (List (String × Snapshot))
  | [] => pure []
  | connection :: rest => do
      let proxy ← getProxy connection.uuid
      let others ← snapshotConnections rest
      pure ((connection.uuid, ⟨connection.connectionType, connection.device, proxy⟩) :: others)

/-- The desktop snapshot of `enable`. -/
def snapshotDesktop : Proc (Option DesktopSnapshot) :=
  match platform.desktop with
  | none => pure none
  | some backend => do
      let state ← getState
      pure (some { backend, state })

/-- The part of `enable` before the first change. -/
def prepare (canonical : CanonicalConfig) : Proc Evidence := do
  let active ← listActiveConnections platform
  let connections ← snapshotConnections (targetConnections platform active)
  if connections.isEmpty then raise .networkManager
  let desktopProxy ← snapshotDesktop platform
  let payload : Evidence := { appliedConfig := canonical, connections, desktopProxy }
  perform (.saveStore payload) .rollbackState
  pure payload

/-- The desktop part of the exception handler of `enable`. -/
def rollbackDesktop (payload : Evidence) (desktopTouched : Bool) : Proc Bool :=
  if desktopTouched then restoreDesktop platform payload else pure true

/-- The exception handler of `enable`. -/
def rollback (payload : Evidence) (touched : List (String × Snapshot)) (desktopTouched : Bool) :
    Proc Bool := do
  let desktopRestored ← rollbackDesktop platform payload desktopTouched
  let profilesRestored ← restoreProfiles touched fun uuid =>
    (payload.connections.lookup uuid).map Snapshot.device
  if desktopRestored && profilesRestored then
    let _ ← clearStore
  pure false

/-- One turn of the loop in `enable`. -/
def applyProfile (payload : Evidence) (entry : String × Snapshot) : Proc Unit := do
  setProxy entry.1 (desiredProxyState payload.appliedConfig)
  reapply entry.2.device

/-- The changes of `enable`: the profiles that are left, then the desktop. -/
def applyProfiles (payload : Evidence) (touched : List (String × Snapshot)) :
    List (String × Snapshot) → Proc Bool
  | [] =>
      match payload.desktopProxy with
      | none => pure true
      | some saved => do
          match ← (setState platform saved.backend
            (desiredDesktopState payload.appliedConfig)).attempt with
          | .ok _ => pure true
          | .error _ => rollback platform payload touched true
  | entry :: rest => do
      match ← (applyProfile payload entry).attempt with
      | .ok _ => applyProfiles payload (touched ++ [entry]) rest
      | .error _ => rollback platform payload (touched ++ [entry]) false

/-- `enable`. -/
def enable (config : ProxyBackendConfig) : Proc Bool :=
  match canonicalConfig platform.py config with
  | none => pure false
  | some canonical => do
      if ← storeExists then
        match ← loadBackup.attempt with
        | .error _ => pure false
        | .ok payload =>
            if payloadMatchesConfig platform.py payload config then
              payloadIsOwnedAndActive platform payload
            else pure false
      else
        match ← (prepare platform canonical).attempt with
        | .error _ => pure false
        | .ok payload => applyProfiles platform payload [] payload.connections

/-- The evidence and the two lists at the start of `disable`. -/
def loadAll : Proc (Evidence × (String → Option String) × List ActiveConnection) := do
  let payload ← loadBackup
  let both ← listBoth platform
  pure (payload, both)

/-- The devices of `disable`. -/
def activeDevices (connections : List ActiveConnection) (uuid : String) : Option String :=
  ((connections.filter fun connection =>
    decide (connection.device ≠ "" ∧ connection.device ≠ "--")).find? fun connection =>
      connection.uuid = uuid).map ActiveConnection.device

/-- `disable`. -/
def disable : Proc Bool := do
  if ← storeExists then
    match ← (loadAll platform).attempt with
    | .error _ => pure false
    | .ok (payload, profiles, connections) =>
        let existing := payload.connections.filter fun entry => (profiles entry.1).isSome
        if ← profilesMatchOwnedState platform payload.appliedConfig profiles true existing then
          if ← desktopMatchesOwnedState platform payload true then
            let desktopRestored ← restoreDesktop platform payload
            let profilesRestored ← restoreProfiles existing (activeDevices connections)
            if desktopRestored && profilesRestored then clearStore else pure false
          else pure false
        else pure false
  else pure true

end ProxyLauncher.Linux
