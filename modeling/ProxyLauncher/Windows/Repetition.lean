import ProxyLauncher.Windows.Transaction

/-!
# Can a disable be completed and repeated?

Without a WinINET backup there is nothing to restore and the answer is `True`.  Without an
environment backup the answer is `False`, although nothing is left to restore there either.
A disable that returns `True` has removed both backups, so the next one cannot succeed.
-/

namespace ProxyLauncher.Windows

open ProxyLauncher.Configuration Interruption Program

variable {platform : Platform} {original world last : World}

/-- The state after `count` calls of `disable_system_proxy`. -/
def afterDisables (platform : Platform) (world : World) : Nat → World
  | 0 => world
  | count + 1 => ((disableSystemProxy platform).exec effect (afterDisables platform world count)).2

/-- A disable returns `True`, and so does every further one, which changes nothing. -/
def Repeatable (platform : Platform) (world : World) : Prop :=
  ((disableSystemProxy platform).exec effect world).1 = .ok true ∧
    ∀ count,
      let later := afterDisables platform world (count + 1)
      let call := (disableSystemProxy platform).exec effect later
      call.1 = .ok true ∧ call.2.internet = later.internet ∧ call.2.env = later.env

/-- `_disable_client_proxy_env` never raises. -/
theorem exec_disableClientProxyEnv_ok (world : World) :
    ∃ answer last, disableClientProxyEnv.exec effect world = (.ok answer, last) := by
  cases stored : BackupFile.values world.envBackup with
  | none => exact ⟨_, _, exec_disableClientProxyEnv_none stored⟩
  | some backup =>
      cases owned : envAccepted backup world.settings.localHttpPort.value world.noProxy
        world.texts with
      | false => exact ⟨_, _, exec_disableClientProxyEnv_foreign stored owned⟩
      | true => exact ⟨_, _, exec_disableClientProxyEnv_owned stored owned⟩

/-- A disable that returns `True` leaves no backup. -/
theorem no_backup_of_exec_disableSystemProxy
    (returns : (disableSystemProxy platform).exec effect world = (.ok true, last)) :
    last.internetBackup = none ∧ last.envBackup = none := by
  cases first : (restoreInternetBackup platform).exec effect world with
  | mk outcome middle =>
      cases outcome with
      | error error =>
          rw [disableSystemProxy, exec_bind, first] at returns
          cases returns
      | ok internet =>
          obtain ⟨env, final, second⟩ := exec_disableClientProxyEnv_ok middle
          obtain ⟨run, result⟩ := exec_disableSystemProxy first second
          rw [result] at returns
          obtain ⟨answer, rfl⟩ := Prod.mk.inj returns
          simp only [Except.ok.injEq, Bool.and_eq_true, Bool.not_eq_true',
            Option.isSome_eq_false_iff, Option.isNone_iff_eq_none] at answer
          exact ⟨answer.1.1.2, answer.1.2⟩

/-- Without backups a disable changes nothing but the recovery entry and returns `False`. -/
theorem exec_disableSystemProxy_again (platform : Platform) {world : World}
    (internet : world.internetBackup = none) (env : world.envBackup = none) :
    ∃ run, (disableSystemProxy platform).exec effect world =
      (.ok false, { world with recoveryRun := run }) := by
  have first : (restoreInternetBackup platform).exec effect world = (.ok true, world) :=
    exec_restoreInternetBackup_none (values_of_missing internet)
  obtain ⟨run, result⟩ := exec_disableSystemProxy first
    (exec_disableClientProxyEnv_none (values_of_missing env))
  exact ⟨run, by simpa using result⟩

theorem afterDisables_no_backup
    (returns : (disableSystemProxy platform).exec effect world = (.ok true, last)) (count : Nat) :
    (afterDisables platform world (count + 1)).internetBackup = none ∧
      (afterDisables platform world (count + 1)).envBackup = none := by
  induction count with
  | zero =>
      rw [afterDisables, afterDisables, returns]
      exact no_backup_of_exec_disableSystemProxy returns
  | succ count ih =>
      obtain ⟨run, again⟩ := exec_disableSystemProxy_again platform ih.1 ih.2
      rw [afterDisables, again]
      exact ih

/-- After a disable that returned `True`, every further one returns `False`. -/
theorem disable_again_false
    (returns : (disableSystemProxy platform).exec effect world = (.ok true, last)) (count : Nat) :
    ((disableSystemProxy platform).exec effect
      (afterDisables platform world (count + 1))).1 = .ok false := by
  obtain ⟨internet, env⟩ := afterDisables_no_backup returns count
  obtain ⟨run, again⟩ := exec_disableSystemProxy_again platform internet env
  rw [again]

/-- From a state of a session, a disable returns `True` exactly when the environment is
backed up and the original values are not those of the launcher. -/
theorem disable_returns_true_iff (platform : Platform)
    (typed : WellTyped original.internet) (consistent : Consistent original world) :
    ((disableSystemProxy platform).exec effect world).1 = .ok true ↔
      world.envBackup ≠ none ∧
        pacIsActive platform original.internet original.settings = false := by
  have restored := consistent.exec_restoreInternetBackup platform typed
  have middle : Consistent original (world.withInternet original.internet) :=
    ⟨consistent.settings, consistent.noProxy, .inl ⟨rfl, rfl⟩, consistent.env⟩
  rcases middle.env with ⟨missing, -⟩ | ⟨stored, -⟩
  · have second := exec_disableClientProxyEnv_none (values_of_missing missing)
    obtain ⟨run, result⟩ := exec_disableSystemProxy restored second
    rw [World.withInternet_envBackup] at missing
    simp [result, missing]
  · have second := exec_disableClientProxyEnv_owned (values_of_stored stored) middle.envOwned
    obtain ⟨run, result⟩ := exec_disableSystemProxy restored second
    rw [World.withInternet_envBackup] at stored
    simp [result, stored, consistent.settings]

/-- No state can be disabled for good: a first call that returns `True` is followed by
calls that return `False`.  The first call itself needs the backup of the environment. -/
theorem disable_repetition (platform : Platform) :
    (∀ world, ¬ Repeatable platform world) ∧
    (∀ world last, (disableSystemProxy platform).exec effect world = (.ok true, last) →
      ∀ count, ((disableSystemProxy platform).exec effect
        (afterDisables platform world (count + 1))).1 = .ok false) ∧
    (∀ original left world, original.internetBackup = none ∧ original.envBackup = none →
      WellTyped original.internet → Reaches platform ⟨none, original⟩ ⟨left, world⟩ →
      (((disableSystemProxy platform).exec effect world).1 = .ok true ↔
        world.envBackup ≠ none ∧
          pacIsActive platform original.internet original.settings = false)) := by
  refine ⟨fun world repeatable => ?_, fun world last returns count => ?_, ?_⟩
  · obtain ⟨first, further⟩ := repeatable
    have again := disable_again_false (Prod.ext first rfl) 0
    rw [(further 0).1] at again
    cases again
  · exact disable_again_false returns count
  · intro original left world fresh typed reaches
    exact disable_returns_true_iff platform typed ((Consistent.start fresh).reaches typed reaches)

/-- The sample after an enable that is stopped once the WinINET values are written. -/
def beforeEnvBackup : World :=
  (enableSystemProxy samplePlatform).stopAfter effect 4 sampleWorld

def enabledSample : World :=
  ((enableSystemProxy samplePlatform).exec effect sampleWorld).2

theorem disable_repetition_sample :
    ((disableSystemProxy samplePlatform).exec effect
      (afterDisables samplePlatform enabledSample 3)).1 = .ok false := by
  have first : ((disableSystemProxy samplePlatform).exec effect enabledSample).1 = .ok true := by
    decide +kernel
  cases call : (disableSystemProxy samplePlatform).exec effect enabledSample with
  | mk outcome last =>
      rw [call] at first
      obtain rfl : outcome = .ok true := first
      exact (disable_repetition samplePlatform).2.1 enabledSample last call 2

/-- A disable returns `False` before the backup of the environment exists, and so does the
second of two disables after an enable. -/
theorem disable_repetition_fails :
    ((disableSystemProxy samplePlatform).exec effect beforeEnvBackup).1 = .ok false ∧
    ((disableSystemProxy samplePlatform).exec effect enabledSample).1 = .ok true ∧
    ((disableSystemProxy samplePlatform).exec effect
      (afterDisables samplePlatform enabledSample 1)).1 = .ok false := by
  decide +kernel

end ProxyLauncher.Windows
