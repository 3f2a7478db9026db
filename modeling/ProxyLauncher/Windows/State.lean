import ProxyLauncher.Configuration.Settings
import ProxyLauncher.Interruption.Rollback

/-!
# The proxy settings of Windows

`enable_system_proxy` changes two resources of the current user: the WinINET values in the
registry and the proxy variables of the environment.  The old state of each is kept in a
backup file of its own.  A registry value is written, or deleted, as a whole, and a backup
file is replaced or removed as a whole.
-/

namespace ProxyLauncher.Windows

open ProxyLauncher.Configuration Interruption Python

/-- `_INTERNET_SETTINGS_NAMES`. -/
inductive InternetSetting where
  | autoConfigURL
  | proxyEnable
  | proxyServer
  | proxyOverride
  | autoDetect
  deriving DecidableEq

def internetSettingsNames : List InternetSetting :=
  [.autoConfigURL, .proxyEnable, .proxyServer, .proxyOverride, .autoDetect]

@[simp] theorem mem_internetSettingsNames (name : InternetSetting) :
    name ∈ internetSettingsNames := by
  cases name <;> decide

/-- The settings that are written as `REG_DWORD`. -/
def InternetSetting.isFlag : InternetSetting → Bool
  | .proxyEnable | .autoDetect => true
  | .autoConfigURL | .proxyServer | .proxyOverride => false

/-- A registry value as `QueryValueEx` returns it; the two string types are the same here. -/
inductive InternetValue where
  | dword (value : UInt32)
  | text (value : String)
  deriving DecidableEq

abbrev InternetSettings := InternetSetting → Option InternetValue

/-- Flags are numbers, the other settings are strings. -/
def WellTyped (settings : InternetSettings) : Prop :=
  ∀ name value, settings name = some value →
    match value with
    | .dword _ => name.isFlag = true
    | .text _ => name.isFlag = false

/-- `_PROXY_ENV_NAMES`. -/
inductive EnvName where
  | httpProxy
  | httpsProxy
  | allProxy
  | noProxy
  deriving DecidableEq

def proxyEnvNames : List EnvName :=
  [.httpProxy, .httpsProxy, .allProxy, .noProxy]

@[simp] theorem mem_proxyEnvNames (name : EnvName) : name ∈ proxyEnvNames := by
  cases name <;> decide

/-- `REG_SZ` or `REG_EXPAND_SZ`. -/
inductive EnvKind where
  | sz
  | expandSz
  deriving DecidableEq

@[ext]
structure EnvValue where
  kind : EnvKind
  text : String
  deriving DecidableEq

/-- What `_read_user_env` sees of the environment. -/
abbrev ProxyEnv := EnvName → Option String

/-- The content of a backup file; `invalid` is one that does not have all the names. -/
inductive BackupFile (α : Type) where
  | invalid
  | saved (values : α)

/-- `settings` and `noProxy` are what `load_settings` and `load_no_proxy` return. -/
@[ext]
structure World where
  internet : InternetSettings
  env : EnvName → Option EnvValue
  internetBackup : Option (BackupFile InternetSettings)
  envBackup : Option (BackupFile ProxyEnv)
  recoveryRun : Option String
  settings : RuntimeSettings
  noProxy : List String

inductive Query where
  | internetBackupPresent
  | loadInternetBackup
  | readInternetSettings
  | envBackupPresent
  | loadEnvBackup
  | readUserEnv (name : EnvName)
  | readRecoveryRun
  | loadSettings
  | loadNoProxy

inductive Command where
  | setInternet (name : InternetSetting) (value : InternetValue)
  | deleteInternet (name : InternetSetting)
  | writeUserEnv (name : EnvName) (text : String)
  | deleteUserEnv (name : EnvName)
  | saveInternetBackup (values : InternetSettings)
  | removeInternetBackup
  | saveEnvBackup (values : ProxyEnv)
  | removeEnvBackup
  | deleteRecoveryRun
  | saveSettings (settings : RuntimeSettings)
  | saveNoProxy (domains : List String)

namespace World

/-- The values of the environment without their registry types. -/
def texts (world : World) : ProxyEnv :=
  fun name => (world.env name).map EnvValue.text

def setInternet (world : World) (name : InternetSetting) (value : Option InternetValue) : World :=
  { world with internet := Function.update world.internet name value }

/-- `_write_user_env` always writes `REG_SZ`. -/
def setEnv (world : World) (name : EnvName) (text : Option String) : World :=
  { world with env := Function.update world.env name (text.map (EnvValue.mk .sz)) }

section

variable (world : World) (name : InternetSetting) (value : Option InternetValue)
  (variableName : EnvName) (text : Option String)

@[simp] theorem setInternet_internet :
    (world.setInternet name value).internet = Function.update world.internet name value := rfl

@[simp] theorem setInternet_env : (world.setInternet name value).env = world.env := rfl

@[simp] theorem setInternet_texts : (world.setInternet name value).texts = world.texts := rfl

@[simp] theorem setInternet_internetBackup :
    (world.setInternet name value).internetBackup = world.internetBackup := rfl

@[simp] theorem setInternet_envBackup :
    (world.setInternet name value).envBackup = world.envBackup := rfl

@[simp] theorem setInternet_settings :
    (world.setInternet name value).settings = world.settings := rfl

@[simp] theorem setInternet_noProxy :
    (world.setInternet name value).noProxy = world.noProxy := rfl

@[simp] theorem setEnv_internet :
    (world.setEnv variableName text).internet = world.internet := rfl

@[simp] theorem setEnv_env : (world.setEnv variableName text).env =
    Function.update world.env variableName (text.map (EnvValue.mk .sz)) := rfl

@[simp] theorem setEnv_texts :
    (world.setEnv variableName text).texts = Function.update world.texts variableName text := by
  funext other
  by_cases same : other = variableName
  · subst same
    cases text <;> simp [texts, setEnv]
  · simp [texts, setEnv, same]

@[simp] theorem setEnv_internetBackup :
    (world.setEnv variableName text).internetBackup = world.internetBackup := rfl

@[simp] theorem setEnv_envBackup :
    (world.setEnv variableName text).envBackup = world.envBackup := rfl

@[simp] theorem setEnv_settings :
    (world.setEnv variableName text).settings = world.settings := rfl

@[simp] theorem setEnv_noProxy :
    (world.setEnv variableName text).noProxy = world.noProxy := rfl

end

end World

def effect : Command → World → World
  | .setInternet name value, world => world.setInternet name (some value)
  | .deleteInternet name, world => world.setInternet name none
  | .writeUserEnv name text, world => world.setEnv name (some text)
  | .deleteUserEnv name, world => world.setEnv name none
  | .saveInternetBackup values, world => { world with internetBackup := some (.saved values) }
  | .removeInternetBackup, world => { world with internetBackup := none }
  | .saveEnvBackup values, world => { world with envBackup := some (.saved values) }
  | .removeEnvBackup, world => { world with envBackup := none }
  | .deleteRecoveryRun, world => { world with recoveryRun := none }
  | .saveSettings settings, world => { world with settings }
  | .saveNoProxy domains, world => { world with noProxy := domains }

/-- A registry write, or a write or a removal of a backup file, that is about WinINET. -/
def Command.GovernsInternet : Command → Prop
  | .setInternet .. | .deleteInternet _ | .saveInternetBackup _ | .removeInternetBackup => True
  | _ => False

/-- Every registry write and every file operation that changes a file may fail. -/
def faultyWrites : Interruption.Host World Query Command :=
  .faultyCommands effect

/-- `ValueError` of `int`; the other exceptions are caught where they are raised. -/
inductive WindowsError where
  | unanswered
  | valueError
  deriving DecidableEq

abbrev Proc := Program World Query Command WindowsError

end ProxyLauncher.Windows
