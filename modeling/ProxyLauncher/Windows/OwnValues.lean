import ProxyLauncher.Windows.Restore

/-!
# Does the launcher recognise its own values?

The applied values are not kept: a later check derives them again from the settings and
the exclusions of that moment.  So the check needs to know what was current when the
values were written.  Runs carry that along, next to the state.
-/

namespace ProxyLauncher.Windows

open ProxyLauncher.Configuration Interruption Program Python

/-- What the launcher does on behalf of the user.  `saveSettings` and `saveNoProxy` say
what the two loaders return from then on. -/
inductive Operation where
  | enable
  | disable
  | saveSettings (settings : RuntimeSettings)
  | saveNoProxy (domains : List String)
  | sync

def Operation.program (platform : Platform) : Operation → Proc Bool
  | .enable => enableSystemProxy platform
  | .disable => disableSystemProxy platform
  | .saveSettings settings => tell (.saveSettings settings)
  | .saveNoProxy domains => tell (.saveNoProxy domains)
  | .sync => syncClientNoProxy

/-- The settings at the last enable and the exclusions at the last enable or
synchronisation: what the values in the registry and the environment were made from. -/
structure Published where
  settings : RuntimeSettings
  noProxy : List String

/-- A state with its history. -/
structure Run where
  world : World
  published : Published

def Run.start (world : World) : Run :=
  ⟨world, world.settings, world.noProxy⟩

/-- One operation in which no read and no write fails. -/
def Run.perform (platform : Platform) (run : Run) (operation : Operation) : Run where
  world := ((operation.program platform).exec effect run.world).2
  published :=
    match operation with
    | .enable => ⟨run.world.settings, run.world.noProxy⟩
    | .sync => { run.published with noProxy := run.world.noProxy }
    | _ => run.published

/-- A sequence of operations. -/
def Run.performAll (platform : Platform) (run : Run) (operations : List Operation) : Run :=
  operations.foldl (Run.perform platform) run

/-- The values of the proxy variables that were made from `published`. -/
def publishedEnv (original : ProxyEnv) (published : Published) (name : EnvName) : String :=
  appliedEnv original published.settings.localHttpPort.value published.noProxy name

/-- Each resource has its original values and no backup, or the published values and a
backup of the original ones. -/
structure Owned (original : World) (run : Run) : Prop where
  internet : run.world.internetBackup = none ∧ run.world.internet = original.internet ∨
    run.world.internetBackup = some (.saved original.internet) ∧
      run.world.internet = appliedInternetState original.internet run.published.settings
  env : run.world.envBackup = none ∧ run.world.texts = original.texts ∨
    run.world.envBackup = some (.saved original.texts) ∧
      run.world.texts = fun name => some (publishedEnv original.texts run.published name)

variable (platform : Platform) {original : World} {run : Run}

@[simp] theorem appliedInternetState_applied (saved : InternetSettings)
    (settings settings' : RuntimeSettings) :
    appliedInternetState (appliedInternetState saved settings) settings' =
      appliedInternetState saved settings' := by
  funext name
  cases name <;> rfl

theorem Owned.start (fresh : original.internetBackup = none ∧ original.envBackup = none) :
    Owned original (.start original) :=
  ⟨.inl ⟨fresh.1, rfl⟩, .inl ⟨fresh.2, rfl⟩⟩

theorem Owned.enable (owned : Owned original run) :
    Owned original (run.perform platform .enable) := by
  have internet : Provides run.world.internetBackup run.world.internet original.internet := by
    rcases owned.internet with ⟨missing, same⟩ | ⟨stored, -⟩
    · exact .inl ⟨missing, same.symm⟩
    · exact .inr stored
  have env : Provides run.world.envBackup run.world.texts original.texts := by
    rcases owned.env with ⟨missing, same⟩ | ⟨stored, -⟩
    · exact .inl ⟨missing, same.symm⟩
    · exact .inr stored
  obtain ⟨recovery, enabled⟩ := exec_enableSystemProxy platform internet env
  have world : (run.perform platform .enable).world =
      { (run.world.withAppliedInternet original.internet).withAppliedEnv original.texts
          run.world.settings.localHttpPort.value with recoveryRun := recovery } :=
    congrArg Prod.snd enabled
  refine ⟨.inr ?_, .inr ?_⟩
  · rw [world]
    refine ⟨rfl, ?_⟩
    change appliedInternetState run.world.internet run.world.settings = _
    rcases owned.internet with ⟨-, same⟩ | ⟨-, same⟩
    · rw [same]
      rfl
    · rw [same, appliedInternetState_applied]
      rfl
  · rw [world]
    exact ⟨rfl, rfl⟩

/-- The WinINET values, with a backup, are still recognised. -/
def InternetRecognised (original : World) (run : Run) : Prop :=
  pacUrl run.published.settings = pacUrl run.world.settings ∨
    original.internet .autoConfigURL = some (.text (pacUrl run.published.settings))

/-- A proxy variable, with a backup, is still recognised. -/
def EnvRecognised (original : World) (run : Run) (name : EnvName) : Prop :=
  publishedEnv original.texts run.published name =
      publishedEnv original.texts ⟨run.world.settings, run.world.noProxy⟩ name ∨
    original.texts name = some (publishedEnv original.texts run.published name)

/-- The WinINET check with a backup of the original values. -/
theorem internetStateIsOwnedOrSaved_published
    (published : run.world.internet =
      appliedInternetState original.internet run.published.settings) :
    internetStateIsOwnedOrSaved original.internet run.world.internet run.world.settings = true ↔
      InternetRecognised original run := by
  rw [internetStateIsOwnedOrSaved_iff, published]
  constructor
  · intro mixed
    rcases mixed .autoConfigURL with saved | applied
    · exact .inr saved.symm
    · exact .inl (InternetValue.text.inj (Option.some.inj applied))
  · intro recognised name
    cases name with
    | autoConfigURL =>
        rcases recognised with same | saved
        · exact .inr (congrArg (fun url => some (InternetValue.text url)) same)
        · exact .inl saved.symm
    | proxyEnable | autoDetect => exact .inr rfl
    | proxyServer | proxyOverride => exact .inl rfl

/-- The environment check with a backup of the original values. -/
theorem envAccepted_published
    (published : run.world.texts =
      fun name => some (publishedEnv original.texts run.published name)) :
    envAccepted original.texts run.world.settings.localHttpPort.value run.world.noProxy
        run.world.texts = true ↔ ∀ name, EnvRecognised original run name := by
  rw [envAccepted_iff, published]
  refine forall_congr' fun name => ?_
  rw [or_comm, EnvRecognised]
  exact or_congr ⟨fun same => Option.some.inj same, congrArg some⟩ ⟨Eq.symm, Eq.symm⟩

/-- Nothing of WinINET is left to restore, or what is left is recognised. -/
def InternetRestorable (original : World) (run : Run) : Prop :=
  run.world.internetBackup = none ∨ InternetRecognised original run

/-- There is a backup of the environment, and every variable is recognised. -/
def EnvRestorable (original : World) (run : Run) : Prop :=
  run.world.envBackup ≠ none ∧ ∀ name, EnvRecognised original run name

theorem Owned.exec_restoreInternetBackup (owned : Owned original run)
    (typed : WellTyped original.internet) :
    ∃ answer middle,
      (restoreInternetBackup platform).exec effect run.world = (.ok answer, middle) ∧
      (InternetRestorable original run ∧ middle = run.world.withInternet original.internet ∨
        ¬ InternetRestorable original run ∧ middle = run.world) := by
  rcases owned.internet with ⟨missing, same⟩ | ⟨stored, published⟩
  · refine ⟨true, run.world, exec_restoreInternetBackup_none (by rw [missing]; rfl), .inl ?_⟩
    exact ⟨.inl missing, by rw [World.withInternet, ← same, ← missing]⟩
  · have values : BackupFile.values run.world.internetBackup = some original.internet := by
      rw [stored]; rfl
    have recognised := internetStateIsOwnedOrSaved_published published
    cases accepted : internetStateIsOwnedOrSaved original.internet run.world.internet
        run.world.settings with
    | true =>
        exact ⟨true, _, exec_restoreInternetBackup_owned typed values accepted,
          .inl ⟨.inr (recognised.mp accepted), rfl⟩⟩
    | false =>
        refine ⟨false, _, exec_restoreInternetBackup_foreign values accepted, .inr ⟨?_, rfl⟩⟩
        rintro (missing | found)
        · rw [stored] at missing
          cases missing
        · rw [recognised.mpr found] at accepted
          cases accepted

/-- The environment is restored after WinINET, in a state that has the same environment. -/
theorem Owned.exec_disableClientProxyEnv (owned : Owned original run) {middle : World}
    (texts : middle.texts = run.world.texts) (backup : middle.envBackup = run.world.envBackup)
    (settings : middle.settings = run.world.settings)
    (noProxy : middle.noProxy = run.world.noProxy) :
    ∃ answer last, disableClientProxyEnv.exec effect middle = (.ok answer, last) ∧
      (EnvRestorable original run ∧ last = middle.withEnv original.texts ∨
        ¬ EnvRestorable original run ∧ last = middle) := by
  rcases owned.env with ⟨missing, -⟩ | ⟨stored, published⟩
  · refine ⟨false, middle, exec_disableClientProxyEnv_none (by rw [backup, missing]; rfl), .inr ?_⟩
    exact ⟨fun restorable => restorable.1 missing, rfl⟩
  · have values : BackupFile.values middle.envBackup = some original.texts := by
      rw [backup, stored]; rfl
    have recognised := envAccepted_published published
    rw [← texts, ← settings, ← noProxy] at recognised
    cases accepted : envAccepted original.texts middle.settings.localHttpPort.value
        middle.noProxy middle.texts with
    | true =>
        refine ⟨true, _, exec_disableClientProxyEnv_owned values accepted, .inl ⟨⟨?_, ?_⟩, rfl⟩⟩
        · rw [stored]
          exact Option.some_ne_none _
        · exact recognised.mp accepted
    | false =>
        refine ⟨false, _, exec_disableClientProxyEnv_foreign values accepted, .inr ⟨?_, rfl⟩⟩
        intro restorable
        rw [recognised.mpr restorable.2] at accepted
        cases accepted

/-- Both resources after `disable_system_proxy`. -/
theorem Owned.exec_disable (owned : Owned original run) (typed : WellTyped original.internet) :
    ∃ last, (run.perform platform .disable).world = last ∧
      last.settings = run.world.settings ∧ last.noProxy = run.world.noProxy ∧
      (InternetRestorable original run ∧
          last.internetBackup = none ∧ last.internet = original.internet ∨
        ¬ InternetRestorable original run ∧
          last.internetBackup = run.world.internetBackup ∧
          last.internet = run.world.internet) ∧
      (EnvRestorable original run ∧ last.envBackup = none ∧ last.texts = original.texts ∨
        ¬ EnvRestorable original run ∧
          last.envBackup = run.world.envBackup ∧ last.texts = run.world.texts) := by
  obtain ⟨_, middle, restored, internet⟩ := owned.exec_restoreInternetBackup platform typed
  have same : middle.texts = run.world.texts ∧ middle.envBackup = run.world.envBackup ∧
      middle.settings = run.world.settings ∧ middle.noProxy = run.world.noProxy := by
    rcases internet with ⟨-, rfl⟩ | ⟨-, rfl⟩ <;> exact ⟨rfl, rfl, rfl, rfl⟩
  obtain ⟨texts, backup, settings, noProxy⟩ := same
  obtain ⟨_, last, disabled, env⟩ :=
    owned.exec_disableClientProxyEnv texts backup settings noProxy
  obtain ⟨recovery, result⟩ := exec_disableSystemProxy restored disabled
  have kept : last.internetBackup = middle.internetBackup ∧ last.internet = middle.internet ∧
      last.settings = middle.settings ∧ last.noProxy = middle.noProxy := by
    rcases env with ⟨-, rfl⟩ | ⟨-, rfl⟩ <;> exact ⟨rfl, rfl, rfl, rfl⟩
  obtain ⟨keptBackup, keptInternet, keptSettings, keptNoProxy⟩ := kept
  refine ⟨_, congrArg Prod.snd result, keptSettings.trans settings, keptNoProxy.trans noProxy,
    ?_, ?_⟩
  · dsimp only
    rw [keptBackup, keptInternet]
    rcases internet with ⟨restorable, rfl⟩ | ⟨foreign, rfl⟩
    · exact .inl ⟨restorable, rfl, rfl⟩
    · exact .inr ⟨foreign, rfl, rfl⟩
  · rcases env with ⟨restorable, rfl⟩ | ⟨foreign, rfl⟩
    · exact .inl ⟨restorable, rfl, World.withEnv_texts middle original.texts⟩
    · exact .inr ⟨foreign, backup, texts⟩

theorem Owned.disable (owned : Owned original run) (typed : WellTyped original.internet) :
    Owned original (run.perform platform .disable) := by
  obtain ⟨last, world, -, -, internet, env⟩ := owned.exec_disable platform typed
  refine ⟨?_, ?_⟩
  · rw [world]
    rcases internet with ⟨-, missing, same⟩ | ⟨-, stored, same⟩
    · exact .inl ⟨missing, same⟩
    · rw [stored, same]
      exact owned.internet
  · rw [world]
    rcases env with ⟨-, missing, same⟩ | ⟨-, stored, same⟩
    · exact .inl ⟨missing, same⟩
    · rw [stored, same]
      exact owned.env

theorem Owned.sync (owned : Owned original run) :
    Owned original (run.perform platform .sync) := by
  have present : envBackupPresent.exec effect run.world =
      (.ok run.world.envBackup.isSome, run.world) := rfl
  rcases owned.env with ⟨missing, same⟩ | ⟨stored, published⟩
  · have unchanged : (run.perform platform .sync).world = run.world := by
      change (syncClientNoProxy.exec effect run.world).2 = _
      rw [syncClientNoProxy, exec_bind_ok present, missing]
      rfl
    exact ⟨by rw [unchanged]; exact owned.internet, .inl (by rw [unchanged]; exact ⟨missing, same⟩)⟩
  · have written : (run.perform platform .sync).world = run.world.setEnv .noProxy
        (some (appliedEnv original.texts 0 run.world.noProxy .noProxy)) := by
      change (syncClientNoProxy.exec effect run.world).2 = _
      rw [syncClientNoProxy, exec_bind_ok present, stored, Option.isSome_some, if_pos rfl,
        exec_bind_ok (exec_loadEnvBackup run.world), stored]
      rfl
    refine ⟨by rw [written]; exact owned.internet, .inr ⟨by rw [written]; exact stored, ?_⟩⟩
    rw [written, World.setEnv_texts, published]
    funext name
    cases name <;> rfl

theorem Owned.perform (owned : Owned original run) (typed : WellTyped original.internet)
    (operation : Operation) : Owned original (run.perform platform operation) := by
  cases operation with
  | enable => exact owned.enable platform
  | disable => exact owned.disable platform typed
  | saveSettings settings => exact ⟨owned.internet, owned.env⟩
  | saveNoProxy domains => exact ⟨owned.internet, owned.env⟩
  | sync => exact owned.sync platform

theorem Owned.performAll (owned : Owned original run) (typed : WellTyped original.internet)
    (operations : List Operation) : Owned original (run.performAll platform operations) := by
  induction operations generalizing run with
  | nil => exact owned
  | cons operation operations ih => exact ih (owned.perform platform typed operation)

/-- With both backups there, a disable does its work exactly when the values that were
published are the ones that would be published now, or are the original ones. -/
theorem own_values_recognised (original : World) (operations : List Operation)
    (fresh : original.internetBackup = none ∧ original.envBackup = none)
    (typed : WellTyped original.internet)
    (backups : ((Run.start original).performAll platform operations).world.internetBackup.isSome ∧
      ((Run.start original).performAll platform operations).world.envBackup.isSome) :
    Restores platform original ((Run.start original).performAll platform operations).world ↔
      InternetRecognised original ((Run.start original).performAll platform operations) ∧
      ∀ name, EnvRecognised original ((Run.start original).performAll platform operations) name := by
  have owned := (Owned.start fresh).performAll platform typed operations
  generalize (Run.start original).performAll platform operations = run at owned backups
  obtain ⟨stored, published⟩ := owned.internet.resolve_left fun fresh => by
    simp [fresh.1] at backups
  obtain ⟨envStored, envPublished⟩ := owned.env.resolve_left fun fresh => by
    simp [fresh.1] at backups
  have internetCheck := internetStateIsOwnedOrSaved_published published
  have envCheck := envAccepted_published envPublished
  constructor
  · intro restores
    refine ⟨internetCheck.mp (restores.internetOwned _ stored), envCheck.mp ?_⟩
    have accepted := restores.envOwned _ envStored
    rw [exec_envStateIsOwnedOrSaved] at accepted
    exact Except.ok.inj accepted
  · rintro ⟨internet, env⟩
    obtain ⟨last, world, -, -, internetResult, envResult⟩ := owned.exec_disable platform typed
    have envRestorable : EnvRestorable original run := ⟨by simp [envStored], env⟩
    refine ⟨?_, ?_, ?_, ?_⟩
    · intro saved found
      obtain rfl : original.internet = saved :=
        BackupFile.saved.inj (Option.some.inj (stored.symm.trans found))
      exact internetCheck.mpr internet
    · intro backup found
      obtain rfl : original.texts = backup :=
        BackupFile.saved.inj (Option.some.inj (envStored.symm.trans found))
      rw [exec_envStateIsOwnedOrSaved, envCheck.mpr env]
    · change (run.perform platform .disable).world.internet = _
      rw [world]
      exact (internetResult.resolve_right fun foreign => foreign.1 (.inr internet)).2.2
    · change (run.perform platform .disable).world.texts = _
      rw [world]
      exact (envResult.resolve_right fun foreign => foreign.1 envRestorable).2.2

theorem own_values_recognised_sample :
    Restores samplePlatform sampleWorld
        ((Run.start sampleWorld).performAll samplePlatform [.enable]).world ↔
      InternetRecognised sampleWorld ((Run.start sampleWorld).performAll samplePlatform [.enable]) ∧
      ∀ name, EnvRecognised sampleWorld
        ((Run.start sampleWorld).performAll samplePlatform [.enable]) name :=
  own_values_recognised samplePlatform sampleWorld [.enable] ⟨rfl, rfl⟩ sample_wellTyped
    (by decide)

/-- The default settings with another PAC path. -/
def sampleSettings : RuntimeSettings :=
  { defaultSettings with pacPath := ⟨"/other.pac", by decide⟩ }

/-- A disable after the PAC path has been edited takes the old PAC URL for a foreign
value and leaves it. -/
theorem own_values_recognised_fails :
    let run := (Run.start sampleWorld).performAll samplePlatform
      [.enable, .saveSettings sampleSettings]
    run.world.internetBackup.isSome ∧ run.world.envBackup.isSome ∧
      ¬ Restores samplePlatform sampleWorld run.world := by
  refine ⟨by decide, by decide, fun restores => ?_⟩
  have removed := congrArg (fun internet => internet InternetSetting.autoConfigURL) restores.internet
  revert removed
  decide +kernel

end ProxyLauncher.Windows
