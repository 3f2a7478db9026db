import ProxyLauncher.Interruption.Session
import ProxyLauncher.MacOS.Backend

/-!
# NetworkManager profiles and the desktop proxy

Two resources of the user are changed on Linux: the proxy of every active NetworkManager
profile, written by one `nmcli` command, and two keys of the desktop, written one after the
other.  The state has them as the clients report them.
-/

namespace ProxyLauncher.Linux

open Interruption Python

export MacOS (ProxyBackendConfig)

inductive ProxyMethod where
  | none
  | auto
  deriving DecidableEq

structure NetworkManagerProxyState where
  method : ProxyMethod
  browserOnly : Bool
  pacUrl : String
  pacScript : String
  deriving DecidableEq

/-- A connection profile.  `get_proxy` raises when the proxy is `none`: its method or its
browser-only value is not one of the supported ones. -/
structure Profile where
  connectionType : String
  proxy : Option NetworkManagerProxyState
  deriving DecidableEq

/-- An active connection of a profile. -/
structure ActiveRow where
  uuid : String
  device : String

structure ActiveConnection where
  uuid : String
  connectionType : String
  device : String

inductive DesktopMode where
  | none
  | manual
  | auto
  deriving DecidableEq

structure DesktopProxyState where
  mode : DesktopMode
  autoconfigUrl : String
  deriving DecidableEq

/-- The two keys as the client reads them; the mode is `none` when it is not supported. -/
structure DesktopKeys where
  mode : Option DesktopMode
  autoconfigUrl : String

/-- `backend_id` of a desktop client. -/
inductive DesktopBackend where
  | gsettings
  | kde
  deriving DecidableEq

/-- The dictionary `_canonical_config` returns. -/
structure CanonicalConfig where
  pacUrl : String
  httpProxyUrl : String
  noProxy : List String
  deriving DecidableEq

/-- The saved state of a profile. -/
structure Snapshot where
  connectionType : String
  device : String
  proxy : NetworkManagerProxyState

/-- The saved state of the desktop. -/
structure DesktopSnapshot where
  backend : DesktopBackend
  state : DesktopProxyState

/-- The rollback evidence; `connections` is a dictionary by uuid. -/
structure Evidence where
  appliedConfig : CanonicalConfig
  connections : List (String × Snapshot)
  desktopProxy : Option DesktopSnapshot

/-- The file of `JsonRollbackStore`; `unreadable` is one that `_load_backup` refuses. -/
inductive EvidenceFile where
  | unreadable
  | saved (evidence : Evidence)

structure World where
  profiles : String → Option Profile
  active : List ActiveRow
  desktop : DesktopKeys
  store : Option EvidenceFile

inductive Query where
  | storeExists
  | loadStore
  | listActiveConnections
  | listConnectionProfiles
  | getProxy (uuid : String)
  | desktopState
  | writable

inductive Command where
  | setProxy (uuid : String) (proxy : NetworkManagerProxyState)
  | reapply (device : String)
  | setAutoconfigUrl (url : String)
  | setMode (mode : DesktopMode)
  | saveStore (evidence : Evidence)
  | clearStore

namespace World

/-- Change the proxy of a profile that exists. -/
def setProxy (world : World) (uuid : String) (proxy : NetworkManagerProxyState) : World :=
  { world with
    profiles := Function.update world.profiles uuid
      ((world.profiles uuid).map fun profile => { profile with proxy := some proxy }) }

def setAutoconfigUrl (world : World) (url : String) : World :=
  { world with desktop := { world.desktop with autoconfigUrl := url } }

def setMode (world : World) (mode : DesktopMode) : World :=
  { world with desktop := { world.desktop with mode := some mode } }

/-- The types of the profiles. -/
def profileTypes (world : World) (uuid : String) : Option String :=
  (world.profiles uuid).map Profile.connectionType

/-- The rows of `list_active_connections` that are not in `seen`: the first of every uuid,
with the type of its profile. -/
def activeConnectionsFrom (world : World) (seen : List String) :
    List ActiveRow → List ActiveConnection
  | [] => []
  | row :: rows =>
      match world.profiles row.uuid with
      | none => activeConnectionsFrom world seen rows
      | some profile =>
          if row.uuid = "" ∨ row.uuid ∈ seen then activeConnectionsFrom world seen rows
          else ⟨row.uuid, profile.connectionType, row.device⟩ ::
            activeConnectionsFrom world (row.uuid :: seen) rows

def activeConnections (world : World) : List ActiveConnection :=
  world.activeConnectionsFrom [] world.active

section

variable (world : World) (uuid url : String) (proxy : NetworkManagerProxyState)
  (mode : DesktopMode)

@[simp] theorem setProxy_profiles : (world.setProxy uuid proxy).profiles =
    Function.update world.profiles uuid
      ((world.profiles uuid).map fun profile => { profile with proxy := some proxy }) := rfl

@[simp] theorem setProxy_active : (world.setProxy uuid proxy).active = world.active := rfl

@[simp] theorem setProxy_desktop : (world.setProxy uuid proxy).desktop = world.desktop := rfl

@[simp] theorem setProxy_store : (world.setProxy uuid proxy).store = world.store := rfl

@[simp] theorem setAutoconfigUrl_profiles :
    (world.setAutoconfigUrl url).profiles = world.profiles := rfl

@[simp] theorem setAutoconfigUrl_desktop : (world.setAutoconfigUrl url).desktop =
    { world.desktop with autoconfigUrl := url } := rfl

@[simp] theorem setAutoconfigUrl_store : (world.setAutoconfigUrl url).store = world.store := rfl

@[simp] theorem setMode_profiles : (world.setMode mode).profiles = world.profiles := rfl

@[simp] theorem setMode_desktop :
    (world.setMode mode).desktop = { world.desktop with mode := some mode } := rfl

@[simp] theorem setMode_store : (world.setMode mode).store = world.store := rfl

end

end World

def effect : Command → World → World
  | .setProxy uuid proxy, world => world.setProxy uuid proxy
  | .reapply _, world => world
  | .setAutoconfigUrl url, world => world.setAutoconfigUrl url
  | .setMode mode, world => world.setMode mode
  | .saveStore evidence, world => { world with store := some (.saved evidence) }
  | .clearStore, world => { world with store := none }

/-- `NetworkManagerError`, `RollbackStateError` and `DesktopProxyError`. -/
inductive LinuxError where
  | networkManager
  | rollbackState
  | desktopProxy
  deriving DecidableEq

abbrev Proc := Program World Query Command LinuxError

end ProxyLauncher.Linux
