import ProxyLauncher.Interruption.Interference
import ProxyLauncher.Windows.SystemProxy

/-!
# The recovery of the PAC entry

Two functions repair the entry of the PAC outside of enabling and disabling: the one writes it
again when it is missing while the launcher runs, the other deletes it when nothing of the
launcher is left.  The registry is shared, so others may write to it between any two of their
actions, also between the reads of single values.
-/

namespace ProxyLauncher.Windows

open ProxyLauncher.Configuration Interruption Program Python

/-- What the two functions look at besides the registry. -/
structure Surroundings where
  internetBackup : Option (BackupFile InternetSettings)
  settings : RuntimeSettings
  stopRequested : Bool
  migrationBlocked : Bool
  listenerActive : Bool
  running : Bool
  backupKnown : Bool
  canonicalInstall : Bool

structure Desktop where
  internet : InternetSettings
  surroundings : Surroundings

inductive RecoveryQuery where
  | setting (name : InternetSetting)
  | internetBackup
  | settings
  | stopRequested
  | migrationBlocked
  | listenerActive
  | running
  | backupKnown
  | canonicalInstall
  deriving DecidableEq

/-- `writeSnapshot` writes the file of `_write_orphaned_pac_snapshot`. -/
inductive RecoveryCommand where
  | setInternet (name : InternetSetting) (value : InternetValue)
  | deleteInternet (name : InternetSetting)
  | writeSnapshot (values : InternetSettings) (expectedPacUrl : String)

/-- The registry value that a command writes or deletes. -/
def RecoveryCommand.changes : RecoveryCommand → Option InternetSetting
  | .setInternet name _ | .deleteInternet name => some name
  | .writeSnapshot .. => none

def recoveryEffect : RecoveryCommand → Desktop → Desktop
  | .setInternet name value, desktop =>
      { desktop with internet := Function.update desktop.internet name (some value) }
  | .deleteInternet name, desktop =>
      { desktop with internet := Function.update desktop.internet name none }
  | .writeSnapshot .., desktop => desktop

/-- What others do: write or delete a registry value, or change anything else. -/
inductive ForeignAction where
  | writeInternet (name : InternetSetting) (value : Option InternetValue)
  | change (surroundings : Surroundings)

def foreignEffect : ForeignAction → Desktop → Desktop
  | .writeInternet name value, desktop =>
      { desktop with internet := Function.update desktop.internet name value }
  | .change surroundings, desktop => { desktop with surroundings }

abbrev RecoveryProc := Program Desktop RecoveryQuery RecoveryCommand WindowsError

abbrev RecoveryEvent := Event Desktop RecoveryQuery RecoveryCommand ForeignAction

/-- The loop of `_read_internet_settings`. -/
def querySettings : List InternetSetting → InternetSettings → RecoveryProc (Option InternetSettings)
  | [], values => pure (some values)
  | name :: names, values => do
      match ← peek (.setting name) fun desktop => desktop.internet name with
      | none => pure none
      | some value => querySettings names (Function.update values name value)

/-- `_read_internet_settings`, value by value. -/
def queryInternetSettings : RecoveryProc (Option InternetSettings) :=
  querySettings internetSettingsNames fun _ => none

def queryRuntimeSettings : RecoveryProc RuntimeSettings :=
  ask .settings (fun desktop => desktop.surroundings.settings) .unanswered

def stopRequested : RecoveryProc Bool :=
  ask .stopRequested (fun desktop => desktop.surroundings.stopRequested) .unanswered

/-- The item of the PAC is there and exactly the launcher's. -/
def pacIsOwned (platform : Platform) (values : InternetSettings) : RecoveryProc Bool := do
  match values .autoConfigURL with
  | none => pure false
  | some pac =>
      let settings ← queryRuntimeSettings
      pure (exactArvectumPacUrl platform pac settings)

/-- `system_proxy_enabled`. -/
def systemProxyIsEnabled (platform : Platform) : RecoveryProc Bool := do
  let values ← queryInternetSettings
  let values := values.getD fun _ => none
  let owned ← pacIsOwned platform values
  pure (owned && registryDwordEquals platform (values .proxyEnable) 0 &&
    registryDwordEquals platform (values .autoDetect) 0)

inductive SelfHeal where
  | skipped
  | noOwnership
  | foreign
  | failed
  | restored
  deriving DecidableEq

/-- `eligible`. -/
def eligible (platform : Platform) (saved : InternetSettings) (values : InternetSettings) : Bool :=
  (values .autoConfigURL).isNone &&
  registryDwordEquals platform (values .proxyEnable) 0 &&
  registryDwordEquals platform (values .autoDetect) 0 &&
  [InternetSetting.proxyServer, .proxyOverride].all fun name =>
    stateItemMatches (values name) (saved name)

/-- `eligible(core._read_internet_settings())`. -/
def queryEligible (platform : Platform) (saved : InternetSettings) : RecoveryProc Bool := do
  match ← queryInternetSettings with
  | none => pure false
  | some values => pure (eligible platform saved values)

/-- The write of `reassert_missing_owned_pac` and its verification. -/
def reassertPac (platform : Platform) : RecoveryProc SelfHeal := do
  let settings ← queryRuntimeSettings
  if ← tell (.setInternet .autoConfigURL (.text (pacUrl settings))) then
    if ← systemProxyIsEnabled platform then pure .restored else pure .failed
  else pure .failed

/-- `reassert_missing_owned_pac`. -/
def reassertMissingOwnedPac (platform : Platform) : RecoveryProc SelfHeal := do
  if ← stopRequested then pure .skipped
  else
    let backup ← peek .internetBackup fun desktop =>
      BackupFile.values desktop.surroundings.internetBackup
    match backup.join with
    | none => pure .noOwnership
    | some saved =>
        if (saved .autoConfigURL).isSome then pure .foreign
        else if !(← queryEligible platform saved) then pure .foreign
        else if ← stopRequested then pure .skipped
        else if !(← queryEligible platform saved) then pure .foreign
        else if ← stopRequested then pure .skipped
        else reassertPac platform

/-- The conditions of `orphaned_arvectum_pac` after the PAC itself. -/
def nothingElseIsLeft : RecoveryProc Bool := do
  let flag (query : RecoveryQuery) (view : Surroundings → Bool) : RecoveryProc Bool :=
    ask query (fun desktop => view desktop.surroundings) .unanswered
  if ← flag .listenerActive Surroundings.listenerActive then pure false
  else if ← flag .running Surroundings.running then pure false
  else if ← flag .backupKnown Surroundings.backupKnown then pure false
  else if ← flag .canonicalInstall Surroundings.canonicalInstall then pure false
  else pure true

/-- `orphaned_arvectum_pac`. -/
def orphanedArvectumPac (platform : Platform) : RecoveryProc Bool := do
  if ← ask .migrationBlocked (fun desktop => desktop.surroundings.migrationBlocked) .unanswered then
    pure false
  else
    let values ← queryInternetSettings
    if ← pacIsOwned platform (values.getD fun _ => none) then nothingElseIsLeft else pure false

/-- `_write_orphaned_pac_snapshot`. -/
def writeOrphanedPacSnapshot (values : InternetSettings) : RecoveryProc Bool := do
  let settings ← queryRuntimeSettings
  tell (.writeSnapshot values (pacUrl settings))

/-- `clear_orphaned_arvectum_pac`. -/
def clearOrphanedArvectumPac (platform : Platform) : RecoveryProc Bool := do
  if !(← orphanedArvectumPac platform) then pure false
  else
    let values ← queryInternetSettings
    let values := values.getD fun _ => none
    if !(← pacIsOwned platform values) then pure false
    else if !(← writeOrphanedPacSnapshot values) then pure false
    else if !(← tell (.deleteInternet .autoConfigURL)) then pure false
    else
      let enabled ← systemProxyIsEnabled platform
      pure (!enabled)

end ProxyLauncher.Windows
