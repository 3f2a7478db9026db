import ProxyLauncher.Windows.State

/-!
# The Windows system proxy

The functions that own the WinINET values and the proxy environment.  Each resource is
backed up before the first write and is only restored while every governed value is the
saved one or the one that the launcher applies.
-/

namespace ProxyLauncher.Windows

open ProxyLauncher.Configuration Interruption Program Python

/-- `int` of a string, and the two tests of a command in the `Run` key: `owned` is the
classification as current or legacy, `removable` the test of `_disable_recovery_autostart`. -/
structure Platform extends Runtime where
  int : String → Option Int
  owned : String → Bool
  removable : String → Bool

/-- `pac_url`. -/
def pacUrl (settings : RuntimeSettings) : String :=
  let path := if settings.pacPath.text = "" then "/proxy.pac" else settings.pacPath.text
  let path := if startsWith "/" path then path else "/" ++ path
  "http://127.0.0.1:" ++ toString settings.localPacPort.value ++ path

/-- `_applied_internet_state`. -/
def appliedInternetState (saved : InternetSettings) (settings : RuntimeSettings) :
    InternetSettings
  | .autoConfigURL => some (.text (pacUrl settings))
  | .proxyEnable => some (.dword 0)
  | .autoDetect => some (.dword 0)
  | name => saved name

def defaultNoProxy : List String :=
  ["localhost", "127.0.0.1", "::1", "*.local", "10.*",
    "172.16.*", "172.17.*", "172.18.*", "172.19.*", "172.20.*", "172.21.*", "172.22.*",
    "172.23.*", "172.24.*", "172.25.*", "172.26.*", "172.27.*", "172.28.*", "172.29.*",
    "172.30.*", "172.31.*", "192.168.*", "captive.apple.com", "gsp1.apple.com"]

/-- `_combined_no_proxy`, with the result of `load_no_proxy`. -/
def combinedNoProxy (backup : ProxyEnv) (noProxy : List String) : List String :=
  let existing := (((backup .noProxy).getD "").toList.splitOn ',').map String.ofList
  (existing ++ defaultNoProxy ++ noProxy).foldl (fun direct item =>
    let item := strip item
    if item ≠ "" ∧ item ∉ direct then direct ++ [item] else direct) []

/-- `"http://127.0.0.1:%d" % port`. -/
def localProxy (port : Nat) : String :=
  "http://127.0.0.1:" ++ toString port

/-- The values that the launcher gives to the proxy variables. -/
def appliedEnv (backup : ProxyEnv) (port : Nat) (noProxy : List String) : EnvName → String
  | .noProxy => String.intercalate "," (combinedNoProxy backup noProxy)
  | _ => localProxy port

/-- `_state_item_matches`; absence is part of a value. -/
def stateItemMatches {α : Type} [DecidableEq α] (actual expected : Option α) : Bool :=
  decide (actual = expected)

/-- `_internet_state_is_owned_or_saved` of complete states. -/
def internetStateIsOwnedOrSaved (saved current : InternetSettings) (settings : RuntimeSettings) :
    Bool :=
  internetSettingsNames.all fun name =>
    stateItemMatches (current name) (saved name) ||
      stateItemMatches (current name) (appliedInternetState saved settings name)

/-- The test of one variable in `_env_state_is_owned_or_saved`. -/
def envItemIsOwnedOrSaved (backup : ProxyEnv) (port : Nat) (noProxy : List String)
    (name : EnvName) (current : Option String) : Bool :=
  stateItemMatches current (backup name) ||
    stateItemMatches current (some (appliedEnv backup port noProxy name))

def internetBackupPresent : Proc Bool :=
  ask .internetBackupPresent (fun world => world.internetBackup.isSome) .unanswered

def envBackupPresent : Proc Bool :=
  ask .envBackupPresent (fun world => world.envBackup.isSome) .unanswered

def loadSettings : Proc RuntimeSettings :=
  ask .loadSettings World.settings .unanswered

def loadNoProxy : Proc (List String) :=
  ask .loadNoProxy World.noProxy .unanswered

/-- `_read_internet_settings`. -/
def readInternetSettings : Proc (Option InternetSettings) :=
  peek .readInternetSettings World.internet

/-- The values of a backup file, if it can be read and has them. -/
def BackupFile.values {α : Type} : Option (BackupFile α) → Option α
  | some (.saved values) => some values
  | _ => none

/-- The WinINET backup, if it is there and valid. -/
def loadInternetBackup : Proc (Option InternetSettings) := do
  let backup ← peek .loadInternetBackup fun world => BackupFile.values world.internetBackup
  pure backup.join

/-- The environment backup, if it is there and valid. -/
def loadEnvBackup : Proc (Option ProxyEnv) := do
  let backup ← peek .loadEnvBackup fun world => BackupFile.values world.envBackup
  pure backup.join

/-- `_read_user_env`; a variable that cannot be read counts as absent. -/
def readUserEnv (name : EnvName) : Proc (Option String) := do
  let value ← peek (.readUserEnv name) fun world => world.texts name
  pure value.join

/-- `_save_internet_backup`. -/
def saveInternetBackup : Proc Bool := do
  if ← internetBackupPresent then
    let backup ← loadInternetBackup
    pure backup.isSome
  else
    match ← readInternetSettings with
    | none => pure false
    | some values => tell (.saveInternetBackup values)

/-- What `_restore_internet_backup` writes for a saved value; `none` is a number that does
not fit in a `REG_DWORD`. -/
def restoredValue (platform : Platform) (name : InternetSetting) (value : InternetValue) :
    Except WindowsError (Option InternetValue) :=
  match name.isFlag, value with
  | true, .dword number => .ok (some (.dword number))
  | true, .text text =>
      match platform.int text with
      | none => .error .valueError
      | some number =>
          if 0 ≤ number ∧ number < 2 ^ 32 then .ok (some (.dword (.ofNat number.toNat)))
          else .ok none
  | false, .dword number => .ok (some (.text (toString number.toNat)))
  | false, .text text => .ok (some (.text text))

/-- One turn of the loop in `_restore_internet_backup`. -/
def restoreInternetItem (platform : Platform) (saved : InternetSettings) (name : InternetSetting) :
    Proc Bool :=
  match saved name with
  | none => tell (.deleteInternet name)
  | some value => do
      match ← .ofExcept (restoredValue platform name value) with
      | some data => tell (.setInternet name data)
      | none => pure false

/-- `_restore_internet_backup`. -/
def restoreInternetBackup (platform : Platform) : Proc Bool := do
  match ← loadInternetBackup with
  | none => pure true
  | some saved =>
      match ← readInternetSettings with
      | none => pure false
      | some current =>
          let settings ← loadSettings
          if internetStateIsOwnedOrSaved saved current settings then
            if ← every internetSettingsNames (restoreInternetItem platform saved) then
              tell .removeInternetBackup
            else pure false
          else pure false

/-- The loop of `_env_state_is_owned_or_saved` over `names`. -/
def envItemsAreOwnedOrSaved (backup : ProxyEnv) (port : Nat) (noProxy : List String) :
    List EnvName → Proc Bool
  | [] => pure true
  | name :: names => do
      let current ← readUserEnv name
      if envItemIsOwnedOrSaved backup port noProxy name current then
        envItemsAreOwnedOrSaved backup port noProxy names
      else pure false

/-- `_env_state_is_owned_or_saved`. -/
def envStateIsOwnedOrSaved (backup : ProxyEnv) (port : Nat) : Proc Bool := do
  let noProxy ← loadNoProxy
  envItemsAreOwnedOrSaved backup port noProxy proxyEnvNames

/-- One turn of the loop in `_disable_client_proxy_env`. -/
def restoreEnvItem (backup : ProxyEnv) (name : EnvName) : Proc Bool :=
  match backup name with
  | some text => tell (.writeUserEnv name text)
  | none => tell (.deleteUserEnv name)

/-- `_disable_client_proxy_env`. -/
def disableClientProxyEnv : Proc Bool := do
  match ← loadEnvBackup with
  | none => pure false
  | some backup =>
      let settings ← loadSettings
      if ← envStateIsOwnedOrSaved backup settings.localHttpPort.value then
        if ← every proxyEnvNames (restoreEnvItem backup) then
          tell .removeEnvBackup
        else pure false
      else pure false

def proxyEnvOf (httpProxy httpsProxy allProxy noProxy : Option String) : ProxyEnv
  | .httpProxy => httpProxy
  | .httpsProxy => httpsProxy
  | .allProxy => allProxy
  | .noProxy => noProxy

@[simp] theorem proxyEnvOf_self (env : ProxyEnv) :
    proxyEnvOf (env .httpProxy) (env .httpsProxy) (env .allProxy) (env .noProxy) = env := by
  funext name
  cases name <;> rfl

/-- The four reads for the backup in `_enable_client_proxy_env`. -/
def readProxyEnv : Proc ProxyEnv := do
  let httpProxy ← readUserEnv .httpProxy
  let httpsProxy ← readUserEnv .httpsProxy
  let allProxy ← readUserEnv .allProxy
  let noProxy ← readUserEnv .noProxy
  pure (proxyEnvOf httpProxy httpsProxy allProxy noProxy)

/-- The backup of `_enable_client_proxy_env`: the one that is there or a new one. -/
def provideEnvBackup : Proc (Option ProxyEnv) := do
  if ← envBackupPresent then loadEnvBackup
  else
    let backup ← readProxyEnv
    if ← tell (.saveEnvBackup backup) then pure (some backup) else pure none

/-- The writes of `_enable_client_proxy_env`. -/
def applyEnv (backup : ProxyEnv) (port : Nat) : Proc Bool := do
  let proxies ← every [.httpProxy, .httpsProxy, .allProxy] fun name =>
    tell (.writeUserEnv name (localProxy port))
  let noProxy ← loadNoProxy
  let direct ← tell (.writeUserEnv .noProxy
    (String.intercalate "," (combinedNoProxy backup noProxy)))
  pure (proxies && direct)

/-- `_enable_client_proxy_env`. -/
def enableClientProxyEnv (port : Nat) : Proc Bool := do
  match ← provideEnvBackup with
  | none => pure false
  | some backup =>
      if ← applyEnv backup port then pure true
      else
        let _ ← disableClientProxyEnv
        pure false

/-- `sync_client_no_proxy`. -/
def syncClientNoProxy : Proc Bool := do
  if ← envBackupPresent then
    match ← loadEnvBackup with
    | none => pure false
    | some backup =>
        let noProxy ← loadNoProxy
        tell (.writeUserEnv .noProxy
          (String.intercalate "," (combinedNoProxy backup noProxy)))
  else pure true

/-- `_enable_recovery_autostart`. -/
def enableRecoveryAutostart (platform : Platform) : Proc Bool := do
  match ← peek .readRecoveryRun World.recoveryRun with
  | some (some command) =>
      if platform.owned command then tell .deleteRecoveryRun else pure true
  | _ => pure true

/-- `_disable_recovery_autostart`; its result is not used. -/
def disableRecoveryAutostart (platform : Platform) : Proc Unit := do
  match ← peek .readRecoveryRun World.recoveryRun with
  | some (some command) =>
      if platform.removable command then
        let _ ← tell .deleteRecoveryRun
  | _ => pure ()

/-- `str(value or "")`. -/
def InternetValue.str : InternetValue → String
  | .dword 0 => ""
  | .dword number => toString number.toNat
  | .text characters => characters

/-- `_exact_arvectum_pac_url`. -/
def exactArvectumPacUrl (platform : Platform) (value : InternetValue)
    (settings : RuntimeSettings) : Bool :=
  match platform.urlsplit value.str, platform.urlsplit (pacUrl settings) with
  | .ok actual, .ok expected =>
      match actual.port, expected.port with
      | .ok actualPort, .ok expectedPort =>
          decide (platform.lower actual.scheme = platform.lower expected.scheme ∧
            platform.lower expected.scheme = "http" ∧
            actual.hostname = expected.hostname ∧ expected.hostname = some "127.0.0.1" ∧
            actualPort = expectedPort ∧ actual.path = expected.path ∧
            actual.query = "" ∧ actual.fragment = "" ∧
            actual.username = none ∧ actual.password = none)
      | _, _ => false
  | _, _ => false

/-- `_registry_dword_equals`. -/
def registryDwordEquals (platform : Platform) (item : Option InternetValue) (expected : Int) :
    Bool :=
  match item with
  | none => false
  | some (.dword number) => decide ((number.toNat : Int) = expected)
  | some (.text text) => decide (platform.int text = some expected)

/-- The value of `system_proxy_enabled` in a state. -/
def pacIsActive (platform : Platform) (values : InternetSettings) (settings : RuntimeSettings) :
    Bool :=
  (match values .autoConfigURL with
    | none => false
    | some pac => exactArvectumPacUrl platform pac settings) &&
  registryDwordEquals platform (values .proxyEnable) 0 &&
  registryDwordEquals platform (values .autoDetect) 0

/-- `system_proxy_enabled`. -/
def systemProxyEnabled (platform : Platform) : Proc Bool := do
  let values ← readInternetSettings
  let settings ← loadSettings
  pure (pacIsActive platform (values.getD fun _ => none) settings)

/-- The writes of `enable_system_proxy` after the backup. -/
def applySystemProxy (platform : Platform) (settings : RuntimeSettings) : Proc Bool := do
  let url ← tell (.setInternet .autoConfigURL (.text (pacUrl settings)))
  let enable ← tell (.setInternet .proxyEnable (.dword 0))
  let detect ← tell (.setInternet .autoDetect (.dword 0))
  let env ← enableClientProxyEnv settings.localHttpPort.value
  let recovery ← enableRecoveryAutostart platform
  pure (url && enable && detect && env && recovery)

/-- `enable_system_proxy`. -/
def enableSystemProxy (platform : Platform) : Proc Bool := do
  let settings ← loadSettings
  if ← saveInternetBackup then
    if ← applySystemProxy platform settings then pure true
    else
      let _ ← restoreInternetBackup platform
      let _ ← disableClientProxyEnv
      disableRecoveryAutostart platform
      pure false
  else pure false

/-- `disable_system_proxy`. -/
def disableSystemProxy (platform : Platform) : Proc Bool := do
  let internet ← restoreInternetBackup platform
  let env ← disableClientProxyEnv
  let internetPending ← internetBackupPresent
  let envPending ← envBackupPresent
  let stillActive ← systemProxyEnabled platform
  if !stillActive && !internetPending && !envPending then
    disableRecoveryAutostart platform
  let stillActive ← systemProxyEnabled platform
  pure (internet && env && !internetPending && !envPending && !stillActive)

end ProxyLauncher.Windows
