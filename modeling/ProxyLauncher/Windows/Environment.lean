import ProxyLauncher.Windows.Restore

/-!
# Is the proxy environment restored exactly?

The backup of a variable is its text, or that it is absent.  It has no place for the
registry type, and none for a variable that could not be read.
-/

namespace ProxyLauncher.Windows

open ProxyLauncher.Configuration Interruption Program Python

/-- Reading a variable fails if it is one of the `failed` ones, and any write may fail. -/
def unreadableHost (failed : EnvName → Bool) : Interruption.Host World Query Command where
  effect
  answers := fun query answered =>
    match query with
    | .readUserEnv name => answered = !failed name
    | _ => answered = true
  accepts := fun _ _ => True

/-- What the backup has of the environment. -/
def readable (failed : EnvName → Bool) (env : ProxyEnv) : ProxyEnv :=
  fun name => if failed name then none else env name

variable {failed : EnvName → Bool} {world : World} {guarantee : Command → World → Prop}

@[simp] theorem ensures_readUserEnv_unreadable
    {post : Except WindowsError (Option String) → World → Prop} (name : EnvName) :
    (readUserEnv name).Ensures (unreadableHost failed) guarantee post world ↔
      post (.ok (readable failed world.texts name)) world := by
  cases unread : failed name <;> simp [readUserEnv, unreadableHost, readable, unread]

theorem ensures_readProxyEnv_unreadable
    {post : Except WindowsError ProxyEnv → World → Prop} :
    readProxyEnv.Ensures (unreadableHost failed) guarantee post world ↔
      post (.ok (readable failed world.texts)) world := by
  simp [readProxyEnv]

/-- The variables have the applied values, and `backup` is what they are made from. -/
structure Applied (backup : ProxyEnv) (port : Nat) (before last : World) : Prop where
  env : last.env = fun name => some ⟨.sz, appliedEnv backup port before.noProxy name⟩
  envBackup : last.envBackup = some (.saved backup)
  settings : last.settings = before.settings
  noProxy : last.noProxy = before.noProxy

/-- The state while the variables are written. -/
def Writing (backup : ProxyEnv) (before world : World) : Prop :=
  world.envBackup = some (.saved backup) ∧ world.settings = before.settings ∧
    world.noProxy = before.noProxy

theorem ensures_applyEnv (backup : ProxyEnv) (port : Nat) {before : World}
    (writing : Writing backup before world) :
    (applyEnv backup port).Ensures (unreadableHost failed) (fun _ _ => True)
      (fun outcome last => outcome = .ok true → Applied backup port before last) world := by
  rw [applyEnv, ensures_bind]
  refine (ensures_every (Writing backup before)
    (fun name state => state.env name = some ⟨.sz, localProxy port⟩)
    (fun name _ state holds => ?_) writing).weaken_post ?_
  · refine ⟨trivial, fun _ => ⟨holds, fun other same => ?_, true, rfl, fun _ => ?_⟩,
      fun _ => ⟨holds, fun _ same => same, false, rfl, by simp⟩⟩
    · by_cases here : other = name
      · subst here
        simp [unreadableHost, effect]
      · simpa [unreadableHost, effect, here] using same
    · simp [unreadableHost, effect]
  · rintro outcome last ⟨⟨stored, settings, noProxy⟩, -, answer, rfl, finished⟩
    rw [followedBy_ok, ensures_bind, loadNoProxy, ensures_ask]
    refine ⟨fun _ => ?_, by simp⟩
    rw [followedBy_ok, ensures_bind]
    refine ⟨trivial, fun _ same => ?_, fun _ same => ?_⟩
    · cases answer with
      | false => simp at same
      | true =>
          refine ⟨funext fun name => ?_, stored, settings, noProxy⟩
          have done := finished rfl
          cases name with
          | noProxy => simp [unreadableHost, effect, appliedEnv, noProxy]
          | httpProxy => exact done .httpProxy (by decide)
          | httpsProxy => exact done .httpsProxy (by decide)
          | allProxy => exact done .allProxy (by decide)
    · simp at same

theorem ensures_enableClientProxyEnv (fresh : world.envBackup = none) (port : Nat) :
    (enableClientProxyEnv port).Ensures (unreadableHost failed) (fun _ _ => True)
      (fun outcome last => outcome = .ok true →
        Applied (readable failed world.texts) port world last) world := by
  rw [enableClientProxyEnv, ensures_bind, provideEnvBackup, ensures_bind, envBackupPresent,
    ensures_ask]
  refine ⟨fun _ => ?_, by simp⟩
  rw [followedBy_ok, fresh, Option.isSome_none, if_neg Bool.false_ne_true, ensures_bind,
    ensures_readProxyEnv_unreadable, followedBy_ok, ensures_bind]
  refine ⟨trivial, fun _ => ?_, fun _ => by simp⟩
  have writing : Writing (readable failed world.texts) world
      (effect (.saveEnvBackup (readable failed world.texts)) world) := ⟨rfl, rfl, rfl⟩
  refine (ensures_applyEnv _ port writing).bind ?_ fun error last _ => by simp
  intro applied last post
  cases applied with
  | true => exact fun _ => post rfl
  | false =>
      refine (ensures_trivial disableClientProxyEnv last).bind ?_ fun error last _ => by simp
      exact fun _ _ _ => by simp

/-- What a disable makes of the environment after an enable has returned `True`. -/
theorem Applied.restored {backup : ProxyEnv} {before last : World}
    (applied : Applied backup before.settings.localHttpPort.value before last) :
    (disableClientProxyEnv.exec effect last).2.env =
      fun name => (backup name).map (EnvValue.mk .sz) := by
  have stored : BackupFile.values last.envBackup = some backup := by
    rw [applied.envBackup]
    rfl
  have owned : envAccepted backup last.settings.localHttpPort.value last.noProxy last.texts =
      true := by
    rw [envAccepted_iff]
    intro name
    right
    simp [World.texts, applied.env, applied.settings, applied.noProxy]
  rw [exec_disableClientProxyEnv_owned stored owned, World.withEnv_env]

/-- A restored variable is as before exactly when it was absent, or it was read and has
type `REG_SZ`. -/
theorem restored_eq_iff (original : Option EnvValue) (unread : Bool) :
    ((if unread then none else original.map EnvValue.text).map (EnvValue.mk .sz)) = original ↔
      ∀ value, original = some value → unread = false ∧ value.kind = .sz := by
  cases original with
  | none => cases unread <;> simp
  | some value =>
      obtain ⟨kind, text⟩ := value
      cases unread <;> cases kind <;> simp

/-- An enable that returns `True` and the disable after it leave every variable as it was
exactly when every variable that was there could be read and had type `REG_SZ`. -/
theorem env_exactness (original last : World) (failed : EnvName → Bool)
    (fresh : original.envBackup = none)
    (enabled : (enableClientProxyEnv original.settings.localHttpPort.value).Finishes
      (unreadableHost failed) original (.ok true) last) :
    (disableClientProxyEnv.exec effect last).2.env = original.env ↔
      ∀ name value, original.env name = some value →
        failed name = false ∧ value.kind = .sz := by
  have applied := (ensures_enableClientProxyEnv fresh _).finishes enabled rfl
  rw [applied.restored, funext_iff]
  exact forall_congr' fun name => restored_eq_iff (original.env name) (failed name)

theorem finishes_readUserEnv (name : EnvName) (world : World) :
    (readUserEnv name).Finishes (unreadableHost failed) world
      (.ok (readable failed world.texts name)) world := by
  cases unread : failed name with
  | true =>
      rw [readable, unread]
      exact .single (.unanswered (congrArg not unread).symm)
  | false =>
      rw [readable, unread]
      exact .single (.answered (congrArg not unread).symm)

theorem exists_finishes_applyEnv (failed : EnvName → Bool) (backup : ProxyEnv) (port : Nat)
    (world : World) :
    ∃ last, (applyEnv backup port).Finishes (unreadableHost failed) world (.ok true) last := by
  have write (command : Command) (state : World) : (tell command : Proc Bool).Finishes
      (unreadableHost failed) state (.ok true) (effect command state) := finishes_tell trivial state
  obtain ⟨middle, proxies⟩ : ∃ middle, (every [.httpProxy, .httpsProxy, .allProxy] fun name =>
      tell (.writeUserEnv name (localProxy port)) : Proc Bool).Finishes
      (unreadableHost failed) world (.ok true) middle :=
    exists_finishes_every (fun _ _ state => ⟨_, write _ state⟩) world
  have noProxy : loadNoProxy.Finishes (unreadableHost failed) middle (.ok middle.noProxy) middle :=
    finishes_ask rfl World.noProxy WindowsError.unanswered middle
  exact ⟨_, proxies.bind (noProxy.bind ((write _ middle).bind (finishes_pure _ true _)))⟩

theorem finishes_readProxyEnv (world : World) :
    readProxyEnv.Finishes (unreadableHost failed) world
      (.ok (readable failed world.texts)) world := by
  rw [← proxyEnvOf_self (readable failed world.texts)]
  exact (finishes_readUserEnv _ world).bind ((finishes_readUserEnv _ world).bind
    ((finishes_readUserEnv _ world).bind ((finishes_readUserEnv _ world).bind
      (finishes_pure _ _ world))))

/-- Whatever cannot be read, an enable can return `True`. -/
theorem exists_enabled (failed : EnvName → Bool) (fresh : world.envBackup = none) (port : Nat) :
    ∃ last, (enableClientProxyEnv port).Finishes (unreadableHost failed) world (.ok true) last := by
  obtain ⟨last, applied⟩ := exists_finishes_applyEnv failed (readable failed world.texts) port
    (effect (.saveEnvBackup (readable failed world.texts)) world)
  have present : envBackupPresent.Finishes (unreadableHost failed) world
      (.ok world.envBackup.isSome) world :=
    finishes_ask rfl (fun world => world.envBackup.isSome) WindowsError.unanswered world
  rw [fresh] at present
  have saved : (tell (.saveEnvBackup (readable failed world.texts)) : Proc Bool).Finishes
      (unreadableHost failed) world (.ok true) _ := finishes_tell trivial world
  have provided : provideEnvBackup.Finishes (unreadableHost failed) world
      (.ok (some (readable failed world.texts)))
      (effect (.saveEnvBackup (readable failed world.texts)) world) :=
    present.bind ((finishes_readProxyEnv world).bind (saved.bind (finishes_pure _ _ _)))
  exact ⟨last, provided.bind (applied.bind (finishes_pure _ true last))⟩

/-- Only `NO_PROXY` cannot be read. -/
def noProxyUnreadable : EnvName → Bool :=
  fun name => decide (name = .noProxy)

theorem sample_fresh : sampleWorld.envBackup = none := rfl

/-- With everything readable, the sample enables and comes back. -/
theorem env_exactness_sample :
    ∃ last, (enableClientProxyEnv sampleWorld.settings.localHttpPort.value).Finishes
        (unreadableHost fun _ => false) sampleWorld (.ok true) last ∧
      (disableClientProxyEnv.exec effect last).2.env = sampleWorld.env := by
  obtain ⟨last, enabled⟩ := exists_enabled (fun _ => false) sample_fresh
    sampleWorld.settings.localHttpPort.value
  refine ⟨last, enabled, (env_exactness sampleWorld last _ rfl enabled).mpr ?_⟩
  rintro name value found
  cases name <;> cases found
  exact ⟨rfl, rfl⟩

/-- `NO_PROXY` is there and cannot be read while the backup is taken: the enable returns
`True`, and the disable deletes the variable. -/
theorem env_exactness_fails :
    ∃ last, (enableClientProxyEnv sampleWorld.settings.localHttpPort.value).Finishes
        (unreadableHost noProxyUnreadable) sampleWorld (.ok true) last ∧
      sampleWorld.env .noProxy = some ⟨.sz, "intranet.test"⟩ ∧
      (disableClientProxyEnv.exec effect last).2.env .noProxy = none := by
  obtain ⟨last, enabled⟩ := exists_enabled noProxyUnreadable sample_fresh
    sampleWorld.settings.localHttpPort.value
  have applied := (ensures_enableClientProxyEnv rfl _).finishes enabled rfl
  refine ⟨last, enabled, rfl, ?_⟩
  rw [applied.restored]
  rfl

end ProxyLauncher.Windows
