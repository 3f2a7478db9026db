import ProxyLauncher.Windows.Restore
import ProxyLauncher.Interruption.Session

/-!
# Enabling and disabling as a transaction

The original values are backed up before the first write and the backup is removed after
the last.  In between, wherever an enable or a disable is stopped and whichever of its
writes fail, every governed value is the original or the applied one, so that a later
disable accepts the state and completes the rollback.
-/

namespace ProxyLauncher.Windows

open ProxyLauncher.Configuration Interruption Program Python

/-- A state in the course of transactions that began in `original`. -/
structure Consistent (original world : World) : Prop where
  settings : world.settings = original.settings
  noProxy : world.noProxy = original.noProxy
  internet : Tracked (.saved original.internet) world.internetBackup original.internet
    (appliedInternetState original.internet original.settings) world.internet
  env : Tracked (.saved original.texts) world.envBackup original.texts
    (fun name => some (appliedEnv original.texts original.settings.localHttpPort.value
      original.noProxy name)) world.texts

variable {platform : Platform} {original world : World}

namespace Consistent

/-- Without backups the original world agrees with itself. -/
theorem start (fresh : original.internetBackup = none ∧ original.envBackup = none) :
    Consistent original original :=
  ⟨rfl, rfl, .inl ⟨fresh.1, rfl⟩, .inl ⟨fresh.2, rfl⟩⟩

/-- A setting may become the original or the applied value once the backup is stored. -/
theorem setInternet (consistent : Consistent original world)
    (stored : world.internetBackup = some (.saved original.internet)) {name : InternetSetting}
    {value : Option InternetValue}
    (either : value = original.internet name ∨
      value = appliedInternetState original.internet original.settings name) :
    Consistent original (world.setInternet name value) where
  settings := consistent.settings
  noProxy := consistent.noProxy
  internet := .inr ⟨stored, consistent.internet.mixed.update either⟩
  env := consistent.env

/-- So may a variable. -/
theorem setEnv (consistent : Consistent original world)
    (stored : world.envBackup = some (.saved original.texts)) {name : EnvName}
    {text : Option String}
    (either : text = original.texts name ∨
      text = some (appliedEnv original.texts original.settings.localHttpPort.value
        original.noProxy name)) :
    Consistent original (world.setEnv name text) where
  settings := consistent.settings
  noProxy := consistent.noProxy
  internet := consistent.internet
  env := by
    rw [World.setEnv_texts]
    exact .inr ⟨stored, consistent.env.mixed.update either⟩

/-- The backup that is saved first is that of the original settings. -/
theorem saveInternetBackup (consistent : Consistent original world)
    (missing : world.internetBackup = none) :
    world.internet = original.internet ∧
      Consistent original { world with internetBackup := some (.saved original.internet) } := by
  rcases consistent.internet with ⟨-, same⟩ | ⟨stored, -⟩
  · exact ⟨same, consistent.settings, consistent.noProxy, .inr ⟨rfl, same ▸ .refl _ _⟩,
      consistent.env⟩
  · rw [missing] at stored
    cases stored

/-- So is the backup of the environment. -/
theorem saveEnvBackup (consistent : Consistent original world)
    (missing : world.envBackup = none) :
    world.texts = original.texts ∧
      Consistent original { world with envBackup := some (.saved original.texts) } := by
  rcases consistent.env with ⟨-, same⟩ | ⟨stored, -⟩
  · exact ⟨same, consistent.settings, consistent.noProxy, consistent.internet,
      .inr ⟨rfl, same ▸ .refl _ _⟩⟩
  · rw [missing] at stored
    cases stored

/-- The backup may go once the original settings are back. -/
theorem removeInternetBackup (consistent : Consistent original world)
    (restored : world.internet = original.internet) :
    Consistent original { world with internetBackup := none } :=
  ⟨consistent.settings, consistent.noProxy, .inl ⟨rfl, restored⟩, consistent.env⟩

/-- So may the backup of the environment. -/
theorem removeEnvBackup (consistent : Consistent original world)
    (restored : world.texts = original.texts) :
    Consistent original { world with envBackup := none } :=
  ⟨consistent.settings, consistent.noProxy, consistent.internet, .inl ⟨rfl, restored⟩⟩

theorem deleteRecoveryRun (consistent : Consistent original world) :
    Consistent original { world with recoveryRun := none } :=
  ⟨consistent.settings, consistent.noProxy, consistent.internet, consistent.env⟩

/-- The settings of a consistent world are recognised as own or saved. -/
theorem internetOwned (consistent : Consistent original world) :
    internetStateIsOwnedOrSaved original.internet world.internet world.settings = true := by
  rw [internetStateIsOwnedOrSaved_iff, consistent.settings]
  exact consistent.internet.mixed

/-- So is its environment. -/
theorem envOwned (consistent : Consistent original world) :
    envAccepted original.texts world.settings.localHttpPort.value world.noProxy world.texts =
      true := by
  rw [envAccepted_iff, consistent.settings, consistent.noProxy]
  exact consistent.env.mixed

end Consistent

section Reads

variable {guarantee : Command → World → Prop}

@[simp] theorem ensures_loadInternetBackup
    {post : Except WindowsError (Option InternetSettings) → World → Prop} :
    loadInternetBackup.Ensures faultyWrites guarantee post world ↔
      post (.ok (BackupFile.values world.internetBackup)) world := by
  simp [loadInternetBackup, faultyWrites]

@[simp] theorem ensures_loadEnvBackup
    {post : Except WindowsError (Option ProxyEnv) → World → Prop} :
    loadEnvBackup.Ensures faultyWrites guarantee post world ↔
      post (.ok (BackupFile.values world.envBackup)) world := by
  simp [loadEnvBackup, faultyWrites]

@[simp] theorem ensures_internetBackupPresent
    {post : Except WindowsError Bool → World → Prop} :
    internetBackupPresent.Ensures faultyWrites guarantee post world ↔
      post (.ok world.internetBackup.isSome) world := by
  simp [internetBackupPresent, faultyWrites]

@[simp] theorem ensures_envBackupPresent {post : Except WindowsError Bool → World → Prop} :
    envBackupPresent.Ensures faultyWrites guarantee post world ↔
      post (.ok world.envBackup.isSome) world := by
  simp [envBackupPresent, faultyWrites]

@[simp] theorem ensures_loadSettings
    {post : Except WindowsError RuntimeSettings → World → Prop} :
    loadSettings.Ensures faultyWrites guarantee post world ↔
      post (.ok world.settings) world := by
  simp [loadSettings, faultyWrites]

@[simp] theorem ensures_loadNoProxy
    {post : Except WindowsError (List String) → World → Prop} :
    loadNoProxy.Ensures faultyWrites guarantee post world ↔
      post (.ok world.noProxy) world := by
  simp [loadNoProxy, faultyWrites]

@[simp] theorem ensures_readInternetSettings
    {post : Except WindowsError (Option InternetSettings) → World → Prop} :
    readInternetSettings.Ensures faultyWrites guarantee post world ↔
      post (.ok (some world.internet)) world := by
  simp [readInternetSettings, faultyWrites]

@[simp] theorem ensures_readUserEnv {post : Except WindowsError (Option String) → World → Prop}
    (name : EnvName) :
    (readUserEnv name).Ensures faultyWrites guarantee post world ↔
      post (.ok (world.texts name)) world := by
  simp [readUserEnv, faultyWrites]

@[simp] theorem ensures_systemProxyEnabled {post : Except WindowsError Bool → World → Prop} :
    (systemProxyEnabled platform).Ensures faultyWrites guarantee post world ↔
      post (.ok (pacIsActive platform world.internet world.settings)) world := by
  simp [systemProxyEnabled]

@[simp] theorem ensures_readProxyEnv {post : Except WindowsError ProxyEnv → World → Prop} :
    readProxyEnv.Ensures faultyWrites guarantee post world ↔
      post (.ok world.texts) world := by
  simp [readProxyEnv]

/-- The loop over the variables accepts exactly the ones that are own or saved. -/
theorem ensures_envItemsAreOwnedOrSaved {post : Except WindowsError Bool → World → Prop}
    (backup : ProxyEnv) (port : Nat) (noProxy : List String) (names : List EnvName) :
    (envItemsAreOwnedOrSaved backup port noProxy names).Ensures faultyWrites guarantee post
        world ↔
      post (.ok (names.all fun name =>
        envItemIsOwnedOrSaved backup port noProxy name (world.texts name))) world := by
  induction names with
  | nil => exact Iff.rfl
  | cons name names ih =>
      rw [envItemsAreOwnedOrSaved, ensures_bind, ensures_readUserEnv, followedBy_ok,
        List.all_cons]
      split
      · rename_i accepted
        rw [ih, accepted, Bool.true_and]
      · rename_i refused
        simp [refused]

@[simp] theorem ensures_envStateIsOwnedOrSaved {post : Except WindowsError Bool → World → Prop}
    (backup : ProxyEnv) (port : Nat) :
    (envStateIsOwnedOrSaved backup port).Ensures faultyWrites guarantee post world ↔
      post (.ok (envAccepted backup port world.noProxy world.texts)) world := by
  rw [envStateIsOwnedOrSaved, ensures_bind, ensures_loadNoProxy, followedBy_ok,
    ensures_envItemsAreOwnedOrSaved]
  rfl

end Reads

/-- What a program may do in a consistent state. -/
abbrev Keeps (original : World) (program : Proc Bool) (world : World) : Prop :=
  program.Ensures faultyWrites (fun command state => Consistent original (effect command state))
    (fun outcome last => Consistent original last ∧ ∃ answer, outcome = .ok answer) world

/-- After a program that keeps the state consistent, whatever it answered. -/
theorem Keeps.bind {α : Type} {program : Proc Bool} {rest : Bool → Proc α}
    {post : Except WindowsError α → World → Prop} (first : Keeps original program world)
    (second : ∀ answer last, Consistent original last → (rest answer).Ensures faultyWrites
      (fun command state => Consistent original (effect command state)) post last) :
    (program >>= rest).Ensures faultyWrites
      (fun command state => Consistent original (effect command state)) post world := by
  refine Ensures.bind first ?_ ?_
  · exact fun answer last holds => second answer last holds.1
  · rintro error last ⟨-, _, ⟨⟩⟩

theorem values_of_missing {α : Type} {file : Option (BackupFile α)} (missing : file = none) :
    BackupFile.values file = none := by
  rw [missing]
  rfl

theorem values_of_stored {α : Type} {file : Option (BackupFile α)} {values : α}
    (stored : file = some (.saved values)) : BackupFile.values file = some values := by
  rw [stored]
  rfl

/-- One command whose result is answered. -/
theorem ensures_tell_of {command : Command} {guarantee : Command → World → Prop}
    {post : Except WindowsError Bool → World → Prop}
    (guaranteed : guarantee command world) (accepted : post (.ok true) (effect command world))
    (refused : post (.ok false) world) :
    (tell command : Proc Bool).Ensures faultyWrites guarantee post world :=
  ⟨guaranteed, fun _ => accepted, fun _ => refused⟩

/-- Restoring one setting keeps the others that are restored already, and when it succeeds restores
this one. -/
theorem ensures_restoreInternetItem (typed : WellTyped original.internet)
    (consistent : Consistent original world)
    (stored : world.internetBackup = some (.saved original.internet)) (name : InternetSetting) :
    (restoreInternetItem platform original.internet name).Ensures faultyWrites
      (fun command state => Consistent original (effect command state))
      (fun outcome last =>
        (Consistent original last ∧ last.internetBackup = some (.saved original.internet)) ∧
        (∀ other, world.internet other = original.internet other →
          last.internet other = original.internet other) ∧
        ∃ answer, outcome = .ok answer ∧
          (answer = true → last.internet name = original.internet name)) world := by
  have written : Consistent original (world.setInternet name (original.internet name)) :=
    consistent.setInternet stored (.inl rfl)
  have kept : ∀ other, world.internet other = original.internet other →
      (world.setInternet name (original.internet name)).internet other =
        original.internet other := by
    intro other same
    by_cases here : other = name
    · subst here
      simp
    · simpa [here] using same
  unfold restoreInternetItem
  split
  · rename_i absent
    rw [absent] at written kept
    exact ensures_tell_of written ⟨⟨written, stored⟩, kept, true, rfl, fun _ => by simp [effect, absent]⟩
      ⟨⟨consistent, stored⟩, fun _ same => same, false, rfl, by simp⟩
  · rename_i value found
    rw [restoredValue_of_wellTyped typed found]
    rw [found] at written kept
    exact ensures_tell_of written ⟨⟨written, stored⟩, kept, true, rfl, fun _ => by simp [effect, found]⟩
      ⟨⟨consistent, stored⟩, fun _ same => same, false, rfl, by simp⟩

/-- Restoring the settings keeps the world consistent at every write. -/
theorem Consistent.restoreInternetBackup (typed : WellTyped original.internet)
    (consistent : Consistent original world) :
    Keeps original (restoreInternetBackup platform) world := by
  rw [Keeps, Windows.restoreInternetBackup, ensures_bind, ensures_loadInternetBackup, followedBy_ok]
  rcases consistent.internet with ⟨missing, -⟩ | ⟨stored, -⟩
  · rw [values_of_missing missing]
    exact ⟨consistent, true, rfl⟩
  · rw [values_of_stored stored]
    dsimp only
    rw [ensures_bind, ensures_readInternetSettings, followedBy_ok]
    dsimp only
    rw [ensures_bind, ensures_loadSettings, followedBy_ok, consistent.internetOwned, if_pos rfl]
    refine (ensures_every
      (fun state => Consistent original state ∧
        state.internetBackup = some (.saved original.internet))
      (fun name state => state.internet name = original.internet name)
      (fun name _ state holds => ?_) ⟨consistent, stored⟩).bind ?_ ?_
    · exact ensures_restoreInternetItem typed holds.1 holds.2 name
    · rintro answer last ⟨⟨holds, stored'⟩, -, _, ⟨⟩, finished⟩
      cases answer with
      | false => exact ⟨holds, false, rfl⟩
      | true =>
          have restored : last.internet = original.internet :=
            funext fun name => finished rfl name (mem_internetSettingsNames name)
          exact ensures_tell_of (holds.removeInternetBackup restored)
            ⟨holds.removeInternetBackup restored, true, rfl⟩ ⟨holds, false, rfl⟩
    · rintro error last ⟨-, -, _, ⟨⟩, -⟩

/-- Restoring one variable keeps the others that are restored already, and when it succeeds restores
this one. -/
theorem ensures_restoreEnvItem (consistent : Consistent original world)
    (stored : world.envBackup = some (.saved original.texts)) (name : EnvName) :
    (restoreEnvItem original.texts name).Ensures faultyWrites
      (fun command state => Consistent original (effect command state))
      (fun outcome last =>
        (Consistent original last ∧ last.envBackup = some (.saved original.texts)) ∧
        (∀ other, world.texts other = original.texts other →
          last.texts other = original.texts other) ∧
        ∃ answer, outcome = .ok answer ∧
          (answer = true → last.texts name = original.texts name)) world := by
  have written : Consistent original (world.setEnv name (original.texts name)) :=
    consistent.setEnv stored (.inl rfl)
  have kept : ∀ other, world.texts other = original.texts other →
      (world.setEnv name (original.texts name)).texts other = original.texts other := by
    intro other same
    rw [World.setEnv_texts]
    by_cases here : other = name
    · subst here
      simp
    · simpa [here] using same
  have done : (world.setEnv name (original.texts name)).texts name = original.texts name := by
    simp
  unfold restoreEnvItem
  split
  · rename_i text found
    rw [found] at written kept done
    exact ensures_tell_of written
      ⟨⟨written, stored⟩, kept, true, rfl, fun _ => done.trans found.symm⟩
      ⟨⟨consistent, stored⟩, fun _ same => same, false, rfl, by simp⟩
  · rename_i absent
    rw [absent] at written kept done
    exact ensures_tell_of written
      ⟨⟨written, stored⟩, kept, true, rfl, fun _ => done.trans absent.symm⟩
      ⟨⟨consistent, stored⟩, fun _ same => same, false, rfl, by simp⟩

/-- Restoring the environment keeps the world consistent at every write. -/
theorem Consistent.disableClientProxyEnv (consistent : Consistent original world) :
    Keeps original disableClientProxyEnv world := by
  rw [Keeps, Windows.disableClientProxyEnv, ensures_bind, ensures_loadEnvBackup, followedBy_ok]
  rcases consistent.env with ⟨missing, -⟩ | ⟨stored, -⟩
  · rw [values_of_missing missing]
    exact ⟨consistent, false, rfl⟩
  · rw [values_of_stored stored]
    dsimp only
    rw [ensures_bind, ensures_loadSettings, followedBy_ok, ensures_bind,
      ensures_envStateIsOwnedOrSaved, followedBy_ok, consistent.envOwned, if_pos rfl]
    refine (ensures_every
      (fun state => Consistent original state ∧ state.envBackup = some (.saved original.texts))
      (fun name state => state.texts name = original.texts name)
      (fun name _ state holds => ?_) ⟨consistent, stored⟩).bind ?_ ?_
    · exact ensures_restoreEnvItem holds.1 holds.2 name
    · rintro answer last ⟨⟨holds, stored'⟩, -, _, ⟨⟩, finished⟩
      cases answer with
      | false => exact ⟨holds, false, rfl⟩
      | true =>
          have restored : last.texts = original.texts :=
            funext fun name => finished rfl name (mem_proxyEnvNames name)
          exact ensures_tell_of (holds.removeEnvBackup restored)
            ⟨holds.removeEnvBackup restored, true, rfl⟩ ⟨holds, false, rfl⟩
    · rintro error last ⟨-, -, _, ⟨⟩, -⟩

/-- The backup that the writes rely on is the one of the original values. -/
theorem Consistent.provideEnvBackup (consistent : Consistent original world) :
    provideEnvBackup.Ensures faultyWrites
      (fun command state => Consistent original (effect command state))
      (fun outcome last => Consistent original last ∧ ∃ answer, outcome = .ok answer ∧
        ∀ backup, answer = some backup →
          backup = original.texts ∧ last.envBackup = some (.saved original.texts)) world := by
  rw [Windows.provideEnvBackup, ensures_bind, ensures_envBackupPresent, followedBy_ok]
  split
  · rename_i present
    rw [ensures_loadEnvBackup]
    rcases consistent.env with ⟨missing, -⟩ | ⟨stored, -⟩
    · rw [missing] at present
      cases present
    · rw [values_of_stored stored]
      exact ⟨consistent, _, rfl, fun backup same => ⟨(Option.some.inj same).symm, stored⟩⟩
  · rename_i absent
    have missing : world.envBackup = none := by simpa using absent
    obtain ⟨same, saved⟩ := consistent.saveEnvBackup missing
    rw [ensures_bind, ensures_readProxyEnv, followedBy_ok, same, ensures_bind]
    refine ensures_tell_of saved ?_ ?_
    · exact ⟨saved, _, rfl, fun backup same => ⟨(Option.some.inj same).symm, rfl⟩⟩
    · exact ⟨consistent, none, rfl, by simp⟩

/-- Variables are only written when the backup of the original ones is stored. -/
theorem Consistent.applyEnv (consistent : Consistent original world)
    (stored : world.envBackup = some (.saved original.texts)) :
    Keeps original (applyEnv original.texts original.settings.localHttpPort.value) world := by
  rw [Keeps, Windows.applyEnv, ensures_bind]
  refine (ensures_every
    (fun state => Consistent original state ∧ state.envBackup = some (.saved original.texts))
    (fun _ _ => True) (fun name member state holds => ?_) ⟨consistent, stored⟩).weaken_post ?_
  · have applied : localProxy original.settings.localHttpPort.value =
        appliedEnv original.texts original.settings.localHttpPort.value original.noProxy name := by
      cases name with
      | noProxy => simp at member
      | _ => rfl
    have written : Consistent original (state.setEnv name
        (some (localProxy original.settings.localHttpPort.value))) :=
      holds.1.setEnv holds.2 (.inr (congrArg some applied))
    exact ensures_tell_of written
      ⟨⟨written, holds.2⟩, fun _ _ => trivial, true, rfl, fun _ => trivial⟩
      ⟨holds, fun _ _ => trivial, false, rfl, by simp⟩
  · rintro outcome last ⟨⟨holds, stored'⟩, -, answer, rfl, -⟩
    rw [followedBy_ok, ensures_bind, ensures_loadNoProxy, followedBy_ok, ensures_bind,
      holds.noProxy]
    have written : Consistent original (last.setEnv .noProxy (some
        (String.intercalate "," (combinedNoProxy original.texts original.noProxy)))) :=
      holds.setEnv stored' (.inr rfl)
    exact ensures_tell_of written ⟨written, _, rfl⟩ ⟨holds, _, rfl⟩

/-- Enabling the environment provides the backup before it writes. -/
theorem Consistent.enableClientProxyEnv (consistent : Consistent original world) :
    Keeps original (enableClientProxyEnv original.settings.localHttpPort.value) world := by
  refine consistent.provideEnvBackup.bind ?_ ?_
  · rintro answer last ⟨holds, _, ⟨⟩, provided⟩
    cases answer with
    | none => exact ⟨holds, false, rfl⟩
    | some backup =>
        obtain ⟨rfl, stored⟩ := provided backup rfl
        refine (holds.applyEnv stored).bind fun applied last holds' => ?_
        cases applied with
        | true => exact ⟨holds', true, rfl⟩
        | false =>
            exact holds'.disableClientProxyEnv.bind fun _ last kept => ⟨kept, false, rfl⟩
  · rintro error last ⟨-, _, ⟨⟩, -⟩

/-- Writing the exclusions again keeps the world consistent. -/
theorem Consistent.syncClientNoProxy (consistent : Consistent original world) :
    Keeps original syncClientNoProxy world := by
  rw [Keeps, Windows.syncClientNoProxy, ensures_bind, ensures_envBackupPresent, followedBy_ok]
  split
  · rename_i present
    rw [ensures_bind, ensures_loadEnvBackup, followedBy_ok]
    rcases consistent.env with ⟨missing, -⟩ | ⟨stored, -⟩
    · rw [missing] at present
      cases present
    · rw [values_of_stored stored]
      dsimp only
      rw [ensures_bind, ensures_loadNoProxy, followedBy_ok, consistent.noProxy]
      have written : Consistent original (world.setEnv .noProxy (some
          (String.intercalate "," (combinedNoProxy original.texts original.noProxy)))) :=
        consistent.setEnv stored (.inr rfl)
      exact ensures_tell_of written ⟨written, true, rfl⟩ ⟨consistent, false, rfl⟩
  · exact ⟨consistent, true, rfl⟩

/-- The recovery entry is no part of the transaction. -/
theorem Consistent.enableRecoveryAutostart (consistent : Consistent original world) :
    Keeps original (enableRecoveryAutostart platform) world := by
  simp only [Keeps, Windows.enableRecoveryAutostart, ensures_bind, ensures_peek, faultyWrites,
    Host.faultyCommands_answers, forall_const, followedBy_ok]
  refine ⟨?_, by simp⟩
  split
  · split
    · exact ensures_tell_of consistent.deleteRecoveryRun
        ⟨consistent.deleteRecoveryRun, true, rfl⟩ ⟨consistent, false, rfl⟩
    · exact ⟨consistent, true, rfl⟩
  · exact ⟨consistent, true, rfl⟩

theorem Consistent.disableRecoveryAutostart (consistent : Consistent original world) :
    (disableRecoveryAutostart platform).Ensures faultyWrites
      (fun command state => Consistent original (effect command state))
      (fun outcome last => Consistent original last ∧ outcome = .ok ()) world := by
  simp only [Windows.disableRecoveryAutostart, ensures_bind, ensures_peek, faultyWrites,
    Host.faultyCommands_answers, forall_const, followedBy_ok]
  refine ⟨?_, by simp⟩
  split
  · split
    · rw [ensures_bind]
      exact ensures_tell_of consistent.deleteRecoveryRun
        ⟨consistent.deleteRecoveryRun, rfl⟩ ⟨consistent, rfl⟩
    · exact ⟨consistent, rfl⟩
  · exact ⟨consistent, rfl⟩

/-- A backup that is reported as saved is that of the original settings. -/
theorem Consistent.provideInternetBackup (consistent : Consistent original world) :
    Windows.saveInternetBackup.Ensures faultyWrites
      (fun command state => Consistent original (effect command state))
      (fun outcome last => Consistent original last ∧ ∃ answer, outcome = .ok answer ∧
        (answer = true → last.internetBackup = some (.saved original.internet))) world := by
  rw [Windows.saveInternetBackup, ensures_bind, ensures_internetBackupPresent, followedBy_ok]
  split
  · rename_i present
    rw [ensures_bind, ensures_loadInternetBackup, followedBy_ok]
    rcases consistent.internet with ⟨missing, -⟩ | ⟨stored, -⟩
    · rw [missing] at present
      cases present
    · exact ⟨consistent, _, rfl, fun _ => stored⟩
  · rename_i absent
    have missing : world.internetBackup = none := by simpa using absent
    obtain ⟨same, saved⟩ := consistent.saveInternetBackup missing
    rw [ensures_bind, ensures_readInternetSettings, followedBy_ok, same]
    exact ensures_tell_of saved ⟨saved, true, rfl, fun _ => rfl⟩ ⟨consistent, false, rfl, by simp⟩

/-- One of the three WinINET writes. -/
theorem Consistent.tellInternet (consistent : Consistent original world)
    (stored : world.internetBackup = some (.saved original.internet)) {name : InternetSetting}
    {value : InternetValue}
    (applied : some value = appliedInternetState original.internet original.settings name)
    {α : Type} {rest : Bool → Proc α} {post : Except WindowsError α → World → Prop}
    (continues : ∀ answer last, Consistent original last →
      last.internetBackup = some (.saved original.internet) → (rest answer).Ensures faultyWrites
        (fun command state => Consistent original (effect command state)) post last) :
    ((tell (.setInternet name value) : Proc Bool) >>= rest).Ensures faultyWrites
      (fun command state => Consistent original (effect command state)) post world := by
  have written : Consistent original (world.setInternet name (some value)) :=
    consistent.setInternet stored (.inr applied)
  rw [ensures_bind]
  exact ensures_tell_of written (continues true _ written stored)
    (continues false _ consistent stored)

/-- Settings are only written when the backup of the original ones is stored. -/
theorem Consistent.applySystemProxy (consistent : Consistent original world)
    (stored : world.internetBackup = some (.saved original.internet)) :
    Keeps original (applySystemProxy platform original.settings) world := by
  refine consistent.tellInternet stored rfl fun url last holds stored => ?_
  refine holds.tellInternet stored rfl fun enable last holds stored => ?_
  refine holds.tellInternet stored rfl fun detect last holds stored => ?_
  refine holds.enableClientProxyEnv.bind fun env last holds => ?_
  exact holds.enableRecoveryAutostart.bind fun recovery last holds => ⟨holds, _, rfl⟩

/-- Enabling keeps the world consistent at every write. -/
theorem Consistent.enableSystemProxy (typed : WellTyped original.internet)
    (consistent : Consistent original world) :
    Keeps original (enableSystemProxy platform) world := by
  rw [Keeps, Windows.enableSystemProxy, ensures_bind, ensures_loadSettings, followedBy_ok,
    consistent.settings]
  refine consistent.provideInternetBackup.bind ?_ ?_
  · rintro saved last ⟨holds, _, ⟨⟩, stored⟩
    cases saved with
    | false => exact ⟨holds, false, rfl⟩
    | true =>
        refine (holds.applySystemProxy (stored rfl)).bind fun applied last holds => ?_
        cases applied with
        | true => exact ⟨holds, true, rfl⟩
        | false =>
            refine (holds.restoreInternetBackup typed).bind fun _ last holds => ?_
            refine holds.disableClientProxyEnv.bind fun _ last holds => ?_
            refine holds.disableRecoveryAutostart.bind ?_ ?_
            · exact fun _ last post => ⟨post.1, false, rfl⟩
            · rintro error last ⟨-, ⟨⟩⟩
  · rintro error last ⟨-, _, ⟨⟩, -⟩

/-- So does disabling. -/
theorem Consistent.disableSystemProxy (typed : WellTyped original.internet)
    (consistent : Consistent original world) :
    Keeps original (disableSystemProxy platform) world := by
  refine (consistent.restoreInternetBackup typed).bind fun internet last holds => ?_
  refine holds.disableClientProxyEnv.bind fun env last holds => ?_
  rw [ensures_bind, ensures_internetBackupPresent, followedBy_ok, ensures_bind,
    ensures_envBackupPresent, followedBy_ok, ensures_bind, ensures_systemProxyEnabled,
    followedBy_ok]
  split
  · refine holds.disableRecoveryAutostart.bind ?_ ?_
    · rintro _ last ⟨holds, -⟩
      rw [ensures_bind, ensures_systemProxyEnabled, followedBy_ok]
      exact ⟨holds, _, rfl⟩
    · rintro error last ⟨-, ⟨⟩⟩
  · rw [ensures_bind, ensures_systemProxyEnabled, followedBy_ok]
    exact ⟨holds, _, rfl⟩

/-! ## Which commands a program issues -/

section Commands

variable {allowed : Command → Prop}

/-- What restoring the settings writes and removes. -/
theorem issuing_restoreInternetBackup (sets : ∀ name value, allowed (.setInternet name value))
    (deletes : ∀ name, allowed (.deleteInternet name)) (removes : allowed .removeInternetBackup) :
    (restoreInternetBackup platform).Issuing allowed := by
  refine .bind (.bind (.peek _ _) fun _ => .pure _) fun backup => ?_
  split
  · exact .pure _
  · refine .bind (.peek _ _) fun current => ?_
    split
    · exact .pure _
    · refine .bind (.ask _ _ _) fun settings => ?_
      split
      · refine .bind (.every fun name _ => ?_) fun restored => ?_
        · unfold restoreInternetItem
          split
          · exact .tell (deletes _)
          · refine .bind (.ofExcept _) fun data => ?_
            split
            · exact .tell (sets _ _)
            · exact .pure _
        · split
          · exact .tell removes
          · exact .pure _
      · exact .pure _

theorem issuing_envItemsAreOwnedOrSaved (backup : ProxyEnv) (port : Nat)
    (noProxy : List String) (names : List EnvName) :
    (envItemsAreOwnedOrSaved backup port noProxy names).Issuing allowed := by
  induction names with
  | nil => exact .pure _
  | cons name names ih =>
      refine .bind (.bind (.peek _ _) fun _ => .pure _) fun current => ?_
      split
      · exact ih
      · exact .pure _

/-- What restoring the environment writes and removes. -/
theorem issuing_disableClientProxyEnv (writes : ∀ name text, allowed (.writeUserEnv name text))
    (deletes : ∀ name, allowed (.deleteUserEnv name)) (removes : allowed .removeEnvBackup) :
    disableClientProxyEnv.Issuing allowed := by
  refine .bind (.bind (.peek _ _) fun _ => .pure _) fun backup => ?_
  split
  · exact .pure _
  · refine .bind (.ask _ _ _) fun settings => ?_
    refine .bind (.bind (.ask _ _ _) fun _ => issuing_envItemsAreOwnedOrSaved _ _ _ _) fun owned => ?_
    split
    · refine .bind (.every fun name _ => ?_) fun restored => ?_
      · unfold restoreEnvItem
        split
        · exact .tell (writes _ _)
        · exact .tell (deletes _)
      · split
        · exact .tell removes
        · exact .pure _
    · exact .pure _

theorem issuing_enableRecoveryAutostart (deletes : allowed .deleteRecoveryRun) :
    (enableRecoveryAutostart platform).Issuing allowed := by
  refine .bind (.peek _ _) fun command => ?_
  split
  · split
    · exact .tell deletes
    · exact .pure _
  · exact .pure _

theorem issuing_disableRecoveryAutostart (deletes : allowed .deleteRecoveryRun) :
    (disableRecoveryAutostart platform).Issuing allowed := by
  refine .bind (.peek _ _) fun command => ?_
  split
  · split
    · exact .bind (.tell deletes) fun _ => .pure _
    · exact .pure _
  · exact .pure _

theorem issuing_systemProxyEnabled : (systemProxyEnabled platform).Issuing allowed :=
  .bind (.peek _ _) fun _ => .bind (.ask _ _ _) fun _ => .pure _

end Commands

/-- The command writes a backup over an existing one. -/
def Command.Overwrites : Command → World → Prop
  | .saveInternetBackup _, world => world.internetBackup ≠ none
  | .saveEnvBackup _, world => world.envBackup ≠ none
  | _, _ => False

/-- The command writes no backup. -/
def Command.KeepsBackups : Command → Prop
  | .saveInternetBackup _ | .saveEnvBackup _ => False
  | _ => True

/-- A program that overwrites no backup. -/
abbrev Careful {α : Type} (program : Proc α) (world : World) : Prop :=
  program.Ensures faultyWrites (fun command state => ¬ command.Overwrites state)
    (fun _ _ => True) world

/-- A program that leaves the backups alone is careful. -/
theorem careful_of_issuing {α : Type} {program : Proc α}
    (issuing : program.Issuing Command.KeepsBackups) (world : World) : Careful program world := by
  refine (issuing faultyWrites world).mono (fun command state keeps overwrites => ?_)
    fun _ _ _ => trivial
  cases command <;> first | exact overwrites | exact keeps

/-- Careful programs can be run one after the other. -/
theorem Careful.bind {α β : Type} {program : Proc α} {rest : α → Proc β}
    (first : Careful program world) (second : ∀ value last, Careful (rest value) last) :
    Careful (program >>= rest) world :=
  Ensures.bind first (fun value last _ => second value last) fun _ _ _ => trivial

/-- Saving the settings does not replace a backup. -/
theorem careful_saveInternetBackup (world : World) : Careful saveInternetBackup world := by
  rw [Careful, saveInternetBackup, ensures_bind, ensures_internetBackupPresent, followedBy_ok]
  split
  · rw [ensures_bind, ensures_loadInternetBackup]
    trivial
  · rename_i absent
    have missing : world.internetBackup = none := by simpa using absent
    rw [ensures_bind, ensures_readInternetSettings, followedBy_ok]
    exact ensures_tell_of (fun overwrites => overwrites missing) trivial trivial

/-- Nor does providing the backup of the environment. -/
theorem careful_provideEnvBackup (world : World) : Careful provideEnvBackup world := by
  rw [Careful, provideEnvBackup, ensures_bind, ensures_envBackupPresent, followedBy_ok]
  split
  · rw [ensures_loadEnvBackup]
    trivial
  · rename_i absent
    have missing : world.envBackup = none := by simpa using absent
    rw [ensures_bind, ensures_readProxyEnv, followedBy_ok, ensures_bind]
    exact ensures_tell_of (fun overwrites => overwrites missing) trivial trivial

theorem careful_disableClientProxyEnv (world : World) : Careful disableClientProxyEnv world :=
  careful_of_issuing
    (issuing_disableClientProxyEnv (fun _ _ => trivial) (fun _ => trivial) trivial) world

theorem careful_restoreInternetBackup (world : World) :
    Careful (restoreInternetBackup platform) world :=
  careful_of_issuing
    (issuing_restoreInternetBackup (fun _ _ => trivial) (fun _ => trivial) trivial) world

theorem careful_enableClientProxyEnv (port : Nat) (world : World) :
    Careful (enableClientProxyEnv port) world := by
  refine (careful_provideEnvBackup world).bind fun backup last => ?_
  cases backup with
  | none => exact trivial
  | some backup =>
      have apply : Careful (applyEnv backup port) last := by
        refine careful_of_issuing (.bind (.every fun _ _ => .tell (by exact trivial))
          fun _ => ?_) last
        exact .bind (.ask _ _ _) fun _ => .bind (.tell trivial) fun _ => .pure _
      refine apply.bind fun applied last => ?_
      cases applied with
      | true => exact trivial
      | false => exact (careful_disableClientProxyEnv last).bind fun _ _ => trivial

/-- The calls that work on a state with given settings. -/
inductive Call where
  | enable
  | disable
  | sync

/-- The program of each call. -/
def Call.program (platform : Platform) : Call → Proc Bool
  | .enable => enableSystemProxy platform
  | .disable => disableSystemProxy platform
  | .sync => syncClientNoProxy

/-- Enabling never replaces a backup. -/
theorem careful_enableSystemProxy (world : World) :
    Careful (enableSystemProxy platform) world := by
  rw [Careful, enableSystemProxy, ensures_bind, ensures_loadSettings, followedBy_ok]
  refine (careful_saveInternetBackup world).bind fun saved last => ?_
  cases saved with
  | false => exact trivial
  | true =>
      have tell (command : Command) (keeps : command.KeepsBackups) (last : World) :
          Careful (tell command : Proc Bool) last := careful_of_issuing (.tell keeps) last
      have apply : Careful (applySystemProxy platform world.settings) last := by
        refine (tell _ (by exact trivial) _).bind fun _ last => ?_
        refine (tell _ (by exact trivial) _).bind fun _ last => ?_
        refine (tell _ (by exact trivial) _).bind fun _ last => ?_
        refine (careful_enableClientProxyEnv _ last).bind fun _ last => ?_
        exact careful_of_issuing
          (.bind (issuing_enableRecoveryAutostart trivial) fun _ => .pure _) last
      refine apply.bind fun applied last => ?_
      cases applied with
      | true => exact trivial
      | false =>
          refine (careful_restoreInternetBackup last).bind fun _ last => ?_
          refine (careful_disableClientProxyEnv last).bind fun _ last => ?_
          exact careful_of_issuing
            (.bind (issuing_disableRecoveryAutostart trivial) fun _ => .pure _) last

/-- With a foreign WinINET value `disable_system_proxy` leaves WinINET and its backup alone. -/
theorem ensures_disable_foreign (platform : Platform) {saved : InternetSettings}
    (stored : world.internetBackup = some (.saved saved))
    (foreign : internetStateIsOwnedOrSaved saved world.internet world.settings = false) :
    (disableSystemProxy platform).Ensures faultyWrites
      (fun command _ => ¬ command.GovernsInternet) (fun _ _ => True) world := by
  rw [disableSystemProxy, ensures_bind, restoreInternetBackup, ensures_bind,
    ensures_loadInternetBackup, followedBy_ok, values_of_stored stored]
  dsimp only
  rw [ensures_bind, ensures_readInternetSettings, followedBy_ok]
  dsimp only
  rw [ensures_bind, ensures_loadSettings, followedBy_ok, foreign, if_neg Bool.false_ne_true,
    ensures_pure, followedBy_ok]
  have rest : Issuing (fun command : Command => ¬ command.GovernsInternet)
      (systemProxyEnabled platform) := issuing_systemProxyEnabled
  refine Issuing.bind (issuing_disableClientProxyEnv (fun _ _ => id) (fun _ => id) id)
    (fun env => ?_) faultyWrites world
  refine .bind (.ask _ _ _) fun _ => .bind (.ask _ _ _) fun _ => .bind rest fun active => ?_
  split
  · exact .bind (issuing_disableRecoveryAutostart id) fun _ => .bind rest fun _ => .pure _
  · exact .bind rest fun _ => .pure _

/-- Without faults the settings are restored. -/
theorem Consistent.exec_restoreInternetBackup (platform : Platform)
    (typed : WellTyped original.internet) (consistent : Consistent original world) :
    (Windows.restoreInternetBackup platform).exec effect world =
      (.ok true, world.withInternet original.internet) := by
  rcases consistent.internet with ⟨missing, same⟩ | ⟨stored, -⟩
  · rw [exec_restoreInternetBackup_none (values_of_missing missing), World.withInternet, ← same,
      ← missing]
  · exact exec_restoreInternetBackup_owned typed (values_of_stored stored)
      consistent.internetOwned

/-- Without faults the environment is restored, and the settings stay as they are. -/
theorem Consistent.exec_disableClientProxyEnv (consistent : Consistent original world) :
    ∃ answer last, Windows.disableClientProxyEnv.exec effect world = (.ok answer, last) ∧
      last.internet = world.internet ∧ last.texts = original.texts := by
  rcases consistent.env with ⟨missing, same⟩ | ⟨stored, -⟩
  · exact ⟨false, world, exec_disableClientProxyEnv_none (values_of_missing missing), rfl, same⟩
  · exact ⟨true, _, exec_disableClientProxyEnv_owned (values_of_stored stored)
      consistent.envOwned, rfl, World.withEnv_texts world original.texts⟩

/-- A disable without failures completes the rollback from every consistent state. -/
theorem Consistent.restores (platform : Platform) (typed : WellTyped original.internet)
    (consistent : Consistent original world) : Restores platform original world := by
  have restored := consistent.exec_restoreInternetBackup platform typed
  have middle : Consistent original (world.withInternet original.internet) :=
    ⟨consistent.settings, consistent.noProxy, .inl ⟨rfl, rfl⟩, consistent.env⟩
  obtain ⟨_, last, disabled, internet, texts⟩ := middle.exec_disableClientProxyEnv
  obtain ⟨run, result⟩ := exec_disableSystemProxy restored disabled
  refine ⟨fun saved found => ?_, fun backup found => ?_, ?_, ?_⟩
  · rcases consistent.internet with ⟨missing, -⟩ | ⟨stored, -⟩
    · rw [missing] at found
      cases found
    · obtain rfl : original.internet = saved :=
        BackupFile.saved.inj (Option.some.inj (stored.symm.trans found))
      exact consistent.internetOwned
  · rcases consistent.env with ⟨missing, -⟩ | ⟨stored, -⟩
    · rw [missing] at found
      cases found
    · obtain rfl : original.texts = backup :=
        BackupFile.saved.inj (Option.some.inj (stored.symm.trans found))
      rw [exec_envStateIsOwnedOrSaved, consistent.envOwned]
  · rw [result]
    exact internet
  · rw [result]
    exact texts

/-- Any number of calls, each stopped anywhere, in which any write can fail. -/
def Reaches (platform : Platform) : Session World Query Command WindowsError Bool →
    Session World Query Command WindowsError Bool → Prop :=
  Session.Reaches faultyWrites (Call.program platform) Session.Always fun _ _ => False

/-- Every world that calls, interruptions and failing writes can reach is consistent. -/
theorem Consistent.reaches {left : Option (Proc Bool)} (typed : WellTyped original.internet)
    (consistent : Consistent original original)
    (reaches : Reaches platform ⟨none, original⟩ ⟨left, world⟩) : Consistent original world := by
  have safe : Session.Safe faultyWrites
      (fun command state => Consistent original (effect command state)) (Consistent original)
      (⟨none, original⟩ : Session World Query Command WindowsError Bool) := .idle consistent
  have calls (call : Call) (state : World) (holds : Consistent original state) :
      (call.program platform).Ensures faultyWrites
        (fun command state => Consistent original (effect command state)) (fun _ _ => True)
        state := by
    cases call with
    | enable => exact (holds.enableSystemProxy typed).weaken_post fun _ _ _ => trivial
    | disable => exact (holds.disableSystemProxy typed).weaken_post fun _ _ _ => trivial
    | sync => exact holds.syncClientNoProxy.weaken_post fun _ _ _ => trivial
  have last : Session.Safe faultyWrites _ (Consistent original) _ :=
    safe.reaches (fun call state _ => calls call state) (fun _ _ kept _ => kept)
      (fun _ _ impossible => impossible.elim) reaches
  exact last.state

/-- Wherever the calls of a session are stopped, every governed value is the original or
the applied one, and a disable accepts the state and brings the original values back; an
enable overwrites no backup; and a disable that finds a foreign WinINET value leaves all
of them and the backup alone. -/
theorem wininet_transaction (platform : Platform) (original : World)
    (fresh : original.internetBackup = none ∧ original.envBackup = none)
    (typed : WellTyped original.internet) :
    (∀ left world, Reaches platform ⟨none, original⟩ ⟨left, world⟩ →
      Mixed original.internet (appliedInternetState original.internet original.settings)
        world.internet ∧
      Mixed original.texts (fun name => some (appliedEnv original.texts
        original.settings.localHttpPort.value original.noProxy name)) world.texts ∧
      Restores platform original world) ∧
    (∀ world command last, (enableSystemProxy platform).Issues faultyWrites world command last →
      ¬ command.Overwrites last) ∧
    (∀ world saved, world.internetBackup = some (.saved saved) →
      (∃ name, world.internet name ≠ saved name ∧
        world.internet name ≠ appliedInternetState saved world.settings name) →
      (∀ command last, (disableSystemProxy platform).Issues faultyWrites world command last →
        ¬ command.GovernsInternet) ∧
      ∀ last, (disableSystemProxy platform).Stops faultyWrites world last →
        last.internet = world.internet ∧ last.internetBackup = world.internetBackup) := by
  refine ⟨fun left world reaches => ?_, fun world command last issues => ?_, ?_⟩
  · have consistent := (Consistent.start fresh).reaches typed reaches
    exact ⟨consistent.internet.mixed, consistent.env.mixed, consistent.restores platform typed⟩
  · exact (careful_enableSystemProxy world).issues issues
  · rintro world saved stored ⟨name, notSaved, notApplied⟩
    have foreign : internetStateIsOwnedOrSaved saved world.internet world.settings = false := by
      refine Bool.eq_false_iff.mpr fun owned => ?_
      exact (internetStateIsOwnedOrSaved_iff.mp owned name).elim notSaved notApplied
    have contract := ensures_disable_foreign platform stored foreign
    refine ⟨fun command last issues => contract.issues issues, fun last stops => ?_⟩
    have keeps : ∀ (command : Command) (state : World), ¬ command.GovernsInternet →
        state.internet = world.internet ∧ state.internetBackup = world.internetBackup →
        (effect command state).internet = world.internet ∧
          (effect command state).internetBackup = world.internetBackup := by
      intro command state spares kept
      cases command <;> first | exact kept | exact absurd trivial spares
    exact contract.stops keeps ⟨rfl, rfl⟩ stops

/-- An enable that is stopped after its third write. -/
theorem wininet_transaction_sample :
    Restores samplePlatform sampleWorld
      ((Call.program samplePlatform .enable).stopAfter effect 3 sampleWorld) := by
  obtain ⟨left, run⟩ := stops_stopAfter faultyWrites (fun _ => rfl) (fun _ => trivial)
    (Call.program samplePlatform .enable) 3 sampleWorld
  have reaches : Reaches samplePlatform ⟨none, sampleWorld⟩ ⟨some left, _⟩ :=
    .head (.start Call.enable sampleWorld Session.always) (Session.reaches_of_run run)
  exact ((wininet_transaction samplePlatform sampleWorld ⟨rfl, rfl⟩ sample_wellTyped).1 _ _
    reaches).2.2

end ProxyLauncher.Windows
