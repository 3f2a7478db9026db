import ProxyLauncher.Windows.SystemProxy

/-!
# Runs without failures

What the functions of the system proxy do to a state when no registry or file operation
fails.  A resource whose state is owned is restored as a whole; a foreign value in it, or
a missing backup, leaves it alone.
-/

namespace ProxyLauncher.Windows

open ProxyLauncher.Configuration Interruption Program Python

variable {platform : Platform} {world : World} {saved : InternetSettings} {backup : ProxyEnv}

/-- Settings are recognised when each has its saved or its own value. -/
theorem internetStateIsOwnedOrSaved_iff {current : InternetSettings}
    {settings : RuntimeSettings} :
    internetStateIsOwnedOrSaved saved current settings = true ↔
      Mixed saved (appliedInternetState saved settings) current := by
  simp [internetStateIsOwnedOrSaved, stateItemMatches, Mixed]

/-- What `_env_state_is_owned_or_saved` decides about the values of all variables. -/
def envAccepted (backup : ProxyEnv) (port : Nat) (noProxy : List String) (current : ProxyEnv) :
    Bool :=
  proxyEnvNames.all fun name => envItemIsOwnedOrSaved backup port noProxy name (current name)

/-- So is an environment. -/
theorem envAccepted_iff {port : Nat} {noProxy : List String} {current : ProxyEnv} :
    envAccepted backup port noProxy current = true ↔
      Mixed backup (fun name => some (appliedEnv backup port noProxy name)) current := by
  simp [envAccepted, envItemIsOwnedOrSaved, stateItemMatches, Mixed]

theorem exec_envItemsAreOwnedOrSaved (port : Nat) (noProxy : List String)
    (names : List EnvName) :
    (envItemsAreOwnedOrSaved backup port noProxy names).exec effect world =
      (.ok (names.all fun name =>
        envItemIsOwnedOrSaved backup port noProxy name (world.texts name)), world) := by
  induction names with
  | nil => rfl
  | cons name names ih =>
      have read : (readUserEnv name).exec effect world = (.ok (world.texts name), world) := rfl
      rw [envItemsAreOwnedOrSaved, exec_bind_ok read]
      cases accepted : envItemIsOwnedOrSaved backup port noProxy name (world.texts name) with
      | true => simp [accepted, ih]
      | false => simp [accepted]

theorem exec_envStateIsOwnedOrSaved (port : Nat) :
    (envStateIsOwnedOrSaved backup port).exec effect world =
      (.ok (envAccepted backup port world.noProxy world.texts), world) :=
  exec_envItemsAreOwnedOrSaved port world.noProxy proxyEnvNames

/-- Well-typed values are written as they were saved. -/
theorem restoredValue_of_wellTyped (typed : WellTyped saved) {name : InternetSetting}
    {value : InternetValue} (found : saved name = some value) :
    restoredValue platform name value = .ok (some value) := by
  cases value with
  | dword number =>
      have flag : name.isFlag = true := typed name _ found
      simp [restoredValue, flag]
  | text text =>
      have noFlag : name.isFlag = false := typed name _ found
      simp [restoredValue, noFlag]

/-- One setting gets its saved value back. -/
theorem exec_restoreInternetItem (typed : WellTyped saved) (name : InternetSetting) :
    (restoreInternetItem platform saved name).exec effect world =
      (.ok true, world.setInternet name (saved name)) := by
  unfold restoreInternetItem
  split
  · rename_i absent
    rw [absent]
    rfl
  · rename_i value found
    rw [restoredValue_of_wellTyped typed found, found]
    rfl

/-- One variable gets its saved text back, as a plain text. -/
theorem exec_restoreEnvItem (name : EnvName) :
    (restoreEnvItem backup name).exec effect world =
      (.ok true, world.setEnv name (backup name)) := by
  unfold restoreEnvItem
  split <;> simp_all [effect]

theorem foldl_setInternet (names : List InternetSetting) (target : InternetSettings)
    (world : World) :
    names.foldl (fun world name => world.setInternet name (target name)) world =
      { world with
        internet := names.foldl
          (fun current name => Function.update current name (target name)) world.internet } := by
  induction names generalizing world with
  | nil => rfl
  | cons name names ih => rw [List.foldl_cons, ih]; rfl

theorem foldl_setEnv (names : List EnvName) (target : ProxyEnv) (world : World) :
    names.foldl (fun world name => world.setEnv name (target name)) world =
      { world with
        env := names.foldl (fun current name =>
          Function.update current name ((target name).map (EnvValue.mk .sz))) world.env } := by
  induction names generalizing world with
  | nil => rfl
  | cons name names ih => rw [List.foldl_cons, ih]; rfl

namespace World

/-- The WinINET values are the saved ones and the backup is gone. -/
def withInternet (world : World) (saved : InternetSettings) : World :=
  { world with internet := saved, internetBackup := none }

/-- The proxy variables have the saved values, as `REG_SZ`, and the backup is gone. -/
def withEnv (world : World) (backup : ProxyEnv) : World :=
  { world with env := fun name => (backup name).map (EnvValue.mk .sz), envBackup := none }

section

variable (world : World) (saved : InternetSettings) (backup : ProxyEnv)

@[simp] theorem withInternet_internet : (world.withInternet saved).internet = saved := rfl

@[simp] theorem withInternet_env : (world.withInternet saved).env = world.env := rfl

@[simp] theorem withInternet_texts : (world.withInternet saved).texts = world.texts := rfl

@[simp] theorem withInternet_internetBackup :
    (world.withInternet saved).internetBackup = none := rfl

@[simp] theorem withInternet_envBackup :
    (world.withInternet saved).envBackup = world.envBackup := rfl

@[simp] theorem withInternet_settings :
    (world.withInternet saved).settings = world.settings := rfl

@[simp] theorem withInternet_noProxy :
    (world.withInternet saved).noProxy = world.noProxy := rfl

@[simp] theorem withEnv_internet : (world.withEnv backup).internet = world.internet := rfl

@[simp] theorem withEnv_env : (world.withEnv backup).env =
    fun name => (backup name).map (EnvValue.mk .sz) := rfl

@[simp] theorem withEnv_texts : (world.withEnv backup).texts = backup := by
  funext name
  cases saved : backup name <;> simp [texts, withEnv, saved]

@[simp] theorem withEnv_internetBackup :
    (world.withEnv backup).internetBackup = world.internetBackup := rfl

@[simp] theorem withEnv_envBackup : (world.withEnv backup).envBackup = none := rfl

@[simp] theorem withEnv_settings : (world.withEnv backup).settings = world.settings := rfl

@[simp] theorem withEnv_noProxy : (world.withEnv backup).noProxy = world.noProxy := rfl

end

end World

theorem exec_loadInternetBackup (world : World) :
    loadInternetBackup.exec effect world =
      (.ok (BackupFile.values world.internetBackup), world) := rfl

theorem exec_loadEnvBackup (world : World) :
    loadEnvBackup.exec effect world = (.ok (BackupFile.values world.envBackup), world) := rfl

/-- Without a valid WinINET backup there is nothing to restore. -/
theorem exec_restoreInternetBackup_none
    (missing : BackupFile.values world.internetBackup = none) :
    (restoreInternetBackup platform).exec effect world = (.ok true, world) := by
  rw [restoreInternetBackup, exec_bind_ok (exec_loadInternetBackup world), missing]
  rfl

/-- Foreign settings are left alone. -/
theorem exec_restoreInternetBackup_foreign
    (stored : BackupFile.values world.internetBackup = some saved)
    (foreign : internetStateIsOwnedOrSaved saved world.internet world.settings = false) :
    (restoreInternetBackup platform).exec effect world = (.ok false, world) := by
  rw [restoreInternetBackup, exec_bind_ok (exec_loadInternetBackup world), stored]
  have settings : loadSettings.exec effect world = (.ok world.settings, world) := rfl
  simp only [readInternetSettings, exec_bind_ok (exec_peek ..)]
  rw [exec_bind_ok settings, foreign]
  rfl

/-- Settings that are own or saved are restored, and the backup is removed. -/
theorem exec_restoreInternetBackup_owned (typed : WellTyped saved)
    (stored : BackupFile.values world.internetBackup = some saved)
    (owned : internetStateIsOwnedOrSaved saved world.internet world.settings = true) :
    (restoreInternetBackup platform).exec effect world =
      (.ok true, world.withInternet saved) := by
  have settings : loadSettings.exec effect world = (.ok world.settings, world) := rfl
  have loop : (every internetSettingsNames (restoreInternetItem platform saved)).exec effect
      world = (.ok true, { world with internet := saved }) := by
    rw [exec_every fun name _ state => exec_restoreInternetItem typed name, foldl_setInternet,
      foldl_update]
    simp
  rw [restoreInternetBackup, exec_bind_ok (exec_loadInternetBackup world), stored]
  simp only [readInternetSettings, exec_bind_ok (exec_peek ..)]
  rw [exec_bind_ok settings, owned, if_pos rfl, exec_bind_ok loop]
  rfl

/-- Without a valid environment backup the answer is that nothing could be restored. -/
theorem exec_disableClientProxyEnv_none (missing : BackupFile.values world.envBackup = none) :
    disableClientProxyEnv.exec effect world = (.ok false, world) := by
  rw [disableClientProxyEnv, exec_bind_ok (exec_loadEnvBackup world), missing]
  rfl

/-- A foreign environment is left alone. -/
theorem exec_disableClientProxyEnv_foreign
    (stored : BackupFile.values world.envBackup = some backup)
    (foreign : envAccepted backup world.settings.localHttpPort.value world.noProxy
      world.texts = false) :
    disableClientProxyEnv.exec effect world = (.ok false, world) := by
  have settings : loadSettings.exec effect world = (.ok world.settings, world) := rfl
  rw [disableClientProxyEnv, exec_bind_ok (exec_loadEnvBackup world), stored]
  dsimp only
  rw [exec_bind_ok settings, exec_bind_ok (exec_envStateIsOwnedOrSaved _), foreign]
  rfl

/-- An environment that is own or saved is restored, and the backup is removed. -/
theorem exec_disableClientProxyEnv_owned
    (stored : BackupFile.values world.envBackup = some backup)
    (owned : envAccepted backup world.settings.localHttpPort.value world.noProxy
      world.texts = true) :
    disableClientProxyEnv.exec effect world = (.ok true, world.withEnv backup) := by
  have settings : loadSettings.exec effect world = (.ok world.settings, world) := rfl
  have loop : (every proxyEnvNames (restoreEnvItem backup)).exec effect world =
      (.ok true, { world with env := fun name => (backup name).map (EnvValue.mk .sz) }) := by
    rw [exec_every fun name _ state => exec_restoreEnvItem name, foldl_setEnv, foldl_update]
    simp
  rw [disableClientProxyEnv, exec_bind_ok (exec_loadEnvBackup world), stored]
  dsimp only
  rw [exec_bind_ok settings, exec_bind_ok (exec_envStateIsOwnedOrSaved _), owned, if_pos rfl,
    exec_bind_ok loop]
  rfl

theorem exec_systemProxyEnabled (world : World) :
    (systemProxyEnabled platform).exec effect world =
      (.ok (pacIsActive platform world.internet world.settings), world) := rfl

theorem exec_disableRecoveryAutostart (platform : Platform) (world : World) :
    ∃ run, (disableRecoveryAutostart platform).exec effect world =
      (.ok (), { world with recoveryRun := run }) := by
  rw [disableRecoveryAutostart, exec_bind_ok (exec_peek ..)]
  cases command : world.recoveryRun with
  | none => exact ⟨world.recoveryRun, rfl⟩
  | some command =>
      dsimp only
      split
      · exact ⟨none, rfl⟩
      · exact ⟨_, rfl⟩

theorem exec_enableRecoveryAutostart (platform : Platform) (world : World) :
    ∃ run, (enableRecoveryAutostart platform).exec effect world =
      (.ok true, { world with recoveryRun := run }) := by
  rw [enableRecoveryAutostart, exec_bind_ok (exec_peek ..)]
  cases command : world.recoveryRun with
  | none => exact ⟨world.recoveryRun, rfl⟩
  | some command =>
      dsimp only
      split
      · exact ⟨none, rfl⟩
      · exact ⟨_, rfl⟩

/-- `disable_system_proxy` is the two restores and a report about what is left. -/
theorem exec_disableSystemProxy {internet env : Bool} {middle last : World}
    (first : (restoreInternetBackup platform).exec effect world = (.ok internet, middle))
    (second : disableClientProxyEnv.exec effect middle = (.ok env, last)) :
    ∃ run, (disableSystemProxy platform).exec effect world =
      (.ok (internet && env && !last.internetBackup.isSome && !last.envBackup.isSome &&
        !pacIsActive platform last.internet last.settings), { last with recoveryRun := run }) := by
  have internetPending : internetBackupPresent.exec effect last =
      (.ok last.internetBackup.isSome, last) := rfl
  have envPending : envBackupPresent.exec effect last = (.ok last.envBackup.isSome, last) := rfl
  rw [disableSystemProxy, exec_bind_ok first, exec_bind_ok second, exec_bind_ok internetPending,
    exec_bind_ok envPending, exec_bind_ok (exec_systemProxyEnabled last)]
  obtain ⟨run, deleted⟩ := exec_disableRecoveryAutostart platform last
  split
  · refine ⟨run, ?_⟩
    rw [exec_bind_ok deleted, exec_bind_ok (exec_systemProxyEnabled _)]
    rfl
  · refine ⟨last.recoveryRun, ?_⟩
    exact exec_bind_ok (exec_systemProxyEnabled last)

/-- The backup that `enable_system_proxy` goes on with: the one that is there, or the
values that it finds. -/
def Provides {α : Type} (file : Option (BackupFile α)) (current backup : α) : Prop :=
  file = none ∧ backup = current ∨ file = some (.saved backup)

/-- The WinINET values are the applied ones and `saved` is backed up. -/
def World.withAppliedInternet (world : World) (saved : InternetSettings) : World :=
  { world with
    internet := appliedInternetState world.internet world.settings
    internetBackup := some (.saved saved) }

/-- The proxy variables are the applied ones and `backup` is backed up. -/
def World.withAppliedEnv (world : World) (backup : ProxyEnv) (port : Nat) : World :=
  { world with
    env := fun name => some ⟨.sz, appliedEnv backup port world.noProxy name⟩
    envBackup := some (.saved backup) }

theorem exec_saveInternetBackup (provides : Provides world.internetBackup world.internet saved) :
    saveInternetBackup.exec effect world =
      (.ok true, { world with internetBackup := some (.saved saved) }) := by
  have present : internetBackupPresent.exec effect world =
      (.ok world.internetBackup.isSome, world) := rfl
  rw [saveInternetBackup, exec_bind_ok present]
  rcases provides with ⟨missing, rfl⟩ | stored
  · rw [missing]
    rfl
  · have same : { world with internetBackup := some (.saved saved) } = world := by rw [← stored]
    rw [same, stored, Option.isSome_some, if_pos rfl,
      exec_bind_ok (exec_loadInternetBackup world), stored]
    rfl

theorem exec_readProxyEnv (world : World) :
    readProxyEnv.exec effect world = (.ok world.texts, world) :=
  Prod.ext (congrArg Except.ok (proxyEnvOf_self world.texts)) rfl

/-- The backup of the environment is the stored one or a new one. -/
theorem exec_provideEnvBackup (provides : Provides world.envBackup world.texts backup) :
    provideEnvBackup.exec effect world =
      (.ok (some backup), { world with envBackup := some (.saved backup) }) := by
  have present : envBackupPresent.exec effect world = (.ok world.envBackup.isSome, world) := rfl
  rw [provideEnvBackup, exec_bind_ok present]
  rcases provides with ⟨missing, rfl⟩ | stored
  · rw [missing, Option.isSome_none, if_neg Bool.false_ne_true,
      exec_bind_ok (exec_readProxyEnv world)]
    rfl
  · have same : { world with envBackup := some (.saved backup) } = world := by rw [← stored]
    rw [same, stored, Option.isSome_some, if_pos rfl, exec_loadEnvBackup, stored]
    rfl

theorem exec_applyEnv (backup : ProxyEnv) (port : Nat) (world : World) :
    (applyEnv backup port).exec effect world =
      (.ok true, { world with
        env := fun name => some ⟨.sz, appliedEnv backup port world.noProxy name⟩ }) := by
  refine Prod.ext rfl (World.ext rfl (funext fun name => ?_) rfl rfl rfl rfl rfl)
  cases name <;> rfl

theorem exec_enableClientProxyEnv (provides : Provides world.envBackup world.texts backup)
    (port : Nat) :
    (enableClientProxyEnv port).exec effect world =
      (.ok true, world.withAppliedEnv backup port) := by
  rw [enableClientProxyEnv, exec_bind_ok (exec_provideEnvBackup provides)]
  exact exec_bind_ok (exec_applyEnv ..)

/-- Enabling applies the settings and the environment and stores both backups. -/
theorem exec_enableSystemProxy (platform : Platform)
    (internet : Provides world.internetBackup world.internet saved)
    (env : Provides world.envBackup world.texts backup) :
    ∃ run, (enableSystemProxy platform).exec effect world =
      (.ok true, { (world.withAppliedInternet saved).withAppliedEnv backup
        world.settings.localHttpPort.value with recoveryRun := run }) := by
  have settings : loadSettings.exec effect world = (.ok world.settings, world) := rfl
  -- The three WinINET writes leave the other two values and both backups alone.
  have writes : ((({ world with internetBackup := some (.saved saved) } : World).setInternet
      .autoConfigURL (some (.text (pacUrl world.settings)))).setInternet
      .proxyEnable (some (.dword 0))).setInternet .autoDetect (some (.dword 0)) =
      world.withAppliedInternet saved := by
    refine World.ext (funext fun name => ?_) rfl rfl rfl rfl rfl rfl
    cases name <;> rfl
  have provides : Provides (world.withAppliedInternet saved).envBackup
      (world.withAppliedInternet saved).texts backup := env
  have env' := exec_enableClientProxyEnv provides world.settings.localHttpPort.value
  obtain ⟨run, recovery⟩ := exec_enableRecoveryAutostart platform
    ((world.withAppliedInternet saved).withAppliedEnv backup world.settings.localHttpPort.value)
  have apply : (applySystemProxy platform world.settings).exec effect
      { world with internetBackup := some (.saved saved) } =
      (.ok true, { (world.withAppliedInternet saved).withAppliedEnv backup
        world.settings.localHttpPort.value with recoveryRun := run }) := by
    rw [applySystemProxy, exec_bind_ok (exec_tell _), exec_bind_ok (exec_tell _),
      exec_bind_ok (exec_tell _)]
    simp only [effect, writes]
    rw [exec_bind_ok env', exec_bind_ok recovery]
    rfl
  refine ⟨run, ?_⟩
  rw [enableSystemProxy, exec_bind_ok settings, exec_bind_ok (exec_saveInternetBackup internet),
    if_pos rfl, exec_bind_ok apply]
  rfl

/-- A `disable_system_proxy` from here passes both ownership checks and brings back the
original values. -/
structure Restores (platform : Platform) (original world : World) : Prop where
  internetOwned : ∀ saved, world.internetBackup = some (.saved saved) →
    internetStateIsOwnedOrSaved saved world.internet world.settings = true
  envOwned : ∀ backup, world.envBackup = some (.saved backup) →
    ((envStateIsOwnedOrSaved backup world.settings.localHttpPort.value).exec effect world).1 =
      .ok true
  internet : ((disableSystemProxy platform).exec effect world).2.internet = original.internet
  env : ((disableSystemProxy platform).exec effect world).2.texts = original.texts

/-- `urlsplit` and `int` as they are on the values below. -/
def samplePlatform : Platform where
  lower text := .ofList (text.toList.map Char.toLower)
  urlsplit url :=
    if url = "http://127.0.0.1:8082/proxy.pac" then
      .ok { scheme := "http", hostname := some "127.0.0.1", port := .ok (some 8082),
            path := "/proxy.pac" }
    else .ok { scheme := "", hostname := none, port := .ok none, path := url }
  int _ := none
  owned _ := false
  removable _ := false

/-- A manual proxy server that is switched off, and one proxy variable. -/
def sampleWorld : World where
  internet
    | .proxyEnable => some (.dword 0)
    | .proxyServer => some (.text "old.test:8080")
    | _ => none
  env
    | .noProxy => some ⟨.sz, "intranet.test"⟩
    | _ => none
  internetBackup := none
  envBackup := none
  recoveryRun := none
  settings := defaultSettings
  noProxy := []

theorem sample_wellTyped : WellTyped sampleWorld.internet := by
  intro name value found
  cases name <;> cases found <;> rfl

end ProxyLauncher.Windows
