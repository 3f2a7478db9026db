import ProxyLauncher.Linux.Backend

/-!
# What a disable accepts and restores

The evidence names the profiles and the desktop keys that are owned.  A disable accepts a
state in which each of them, if it is still there, has its saved or its applied value.
-/

namespace ProxyLauncher.Linux

open Interruption Program Python Texts

variable {platform : Platform} {evidence : Evidence} {world : World}

/-- What is left in the key when an address is written. -/
def DesktopBackend.leaves (url : String) : DesktopBackend → String
  | .kde => url
  | .gsettings => GVariant.mangle url

/-- With `gsettings`, the saved address can be written back, and writing the applied one leaves no
third one. -/
def Spelled (client : DesktopBackend) (saved applied : String) : Prop :=
  client = .gsettings →
    GVariant.Plain saved ∧ (GVariant.Plain applied ∨ GVariant.mangle applied = saved)

/-- The profiles have different uuids, and the desktop client is the one of the process. -/
structure Evidence.Valid (platform : Platform) (evidence : Evidence) : Prop where
  nonempty : evidence.connections ≠ []
  distinct : (evidence.connections.map Prod.fst).Nodup
  backend : ∀ saved, evidence.desktopProxy = some saved → platform.desktop = some saved.backend
  spelled : ∀ saved, evidence.desktopProxy = some saved →
    Spelled saved.backend saved.state.autoconfigUrl evidence.appliedConfig.pacUrl

/-- Every owned value that is there is the saved or the applied one. -/
structure Owned (platform : Platform) (evidence : Evidence) (world : World) : Prop where
  connectionType : ∀ entry ∈ evidence.connections, ∀ profile,
    world.profiles entry.1 = some profile →
      platform.py.lower profile.connectionType = platform.py.lower entry.2.connectionType
  proxy : ∀ entry ∈ evidence.connections, ∀ profile, world.profiles entry.1 = some profile →
    profile.proxy = some entry.2.proxy ∨
      profile.proxy = some (desiredProxyState evidence.appliedConfig)
  mode : ∀ saved, evidence.desktopProxy = some saved →
    world.desktop.mode = some saved.state.mode ∨ world.desktop.mode = some .auto
  autoconfigUrl : ∀ saved, evidence.desktopProxy = some saved →
    world.desktop.autoconfigUrl = saved.state.autoconfigUrl ∨
      world.desktop.autoconfigUrl = evidence.appliedConfig.pacUrl

/-- The profile is gone or has its saved proxy. -/
def ProfileRestored (entry : String × Snapshot) (world : World) : Prop :=
  ∀ profile, world.profiles entry.1 = some profile → profile.proxy = some entry.2.proxy

def DesktopRestored (evidence : Evidence) (world : World) : Prop :=
  ∀ saved, evidence.desktopProxy = some saved →
    world.desktop = ⟨some saved.state.mode, saved.state.autoconfigUrl⟩

/-- Everything that the evidence owns is gone or has its saved value. -/
structure Restored (evidence : Evidence) (world : World) : Prop where
  profiles : ∀ entry ∈ evidence.connections, ProfileRestored entry world
  desktop : DesktopRestored evidence world

theorem setAutoconfigUrl_eq (platform : Platform) (client : DesktopBackend) (url : String) :
    setAutoconfigUrl platform url client =
      perform (.setAutoconfigUrl (client.leaves url)) .desktopProxy := by
  cases client with
  | kde => rfl
  | gsettings =>
      rw [setAutoconfigUrl, platform.parses _ _ (GVariant.denotes_repr platform.printable url)]
      rfl

theorem Spelled.leaves_saved {client : DesktopBackend} {saved applied : String}
    (spelled : Spelled client saved applied) : client.leaves saved = saved := by
  cases client with
  | kde => rfl
  | gsettings => exact GVariant.mangle_of_plain (spelled rfl).1

theorem Spelled.leaves_applied {client : DesktopBackend} {saved applied : String}
    (spelled : Spelled client saved applied) :
    client.leaves applied = saved ∨ client.leaves applied = applied := by
  cases client with
  | kde => exact .inr rfl
  | gsettings =>
      rcases (spelled rfl).2 with plain | same
      · exact .inr (GVariant.mangle_of_plain plain)
      · exact .inl same

theorem exec_getProxy {uuid : String} {profile : Profile} {proxy : NetworkManagerProxyState}
    (found : world.profiles uuid = some profile) (readable : profile.proxy = some proxy) :
    (getProxy uuid).exec effect world = (.ok proxy, world) := by
  rw [getProxy, exec_bind_ok (exec_ask ..), found, Option.bind_some, readable]
  rfl

theorem exec_getState {mode : DesktopMode} (readable : world.desktop.mode = some mode) :
    getState.exec effect world = (.ok ⟨mode, world.desktop.autoconfigUrl⟩, world) := by
  rw [getState, exec_bind_ok (exec_ask ..), readable]
  rfl

/-- The types of the profiles as `list_connection_profiles` returns them. -/
def listedTypes (platform : Platform) (world : World) (uuid : String) : Option String :=
  (world.profileTypes uuid).map platform.py.lower

theorem listedTypes_isSome (platform : Platform) (world : World) (uuid : String) :
    (listedTypes platform world uuid).isSome = (world.profiles uuid).isSome := by
  simp [listedTypes, World.profileTypes]

theorem exec_profileMatchesOwnedState (owned : Owned platform evidence world)
    {entry : String × Snapshot} (member : entry ∈ evidence.connections) :
    (profileMatchesOwnedState platform entry.1 entry.2 evidence.appliedConfig
      (listedTypes platform world) true).exec effect world = (.ok true, world) := by
  cases found : world.profiles entry.1 with
  | none => simp [profileMatchesOwnedState, listedTypes, World.profileTypes, found]
  | some profile =>
      have sameType := owned.connectionType entry member profile found
      have listed : listedTypes platform world entry.1 =
          some (platform.py.lower profile.connectionType) := by
        simp [listedTypes, World.profileTypes, found]
      simp only [profileMatchesOwnedState, listed]
      rw [if_neg (not_not_intro sameType)]
      rcases owned.proxy entry member profile found with saved | applied
      · rw [exec_bind_ok (exec_attempt _), exec_getProxy found saved]
        by_cases same : entry.2.proxy = desiredProxyState evidence.appliedConfig <;> simp [same]
      · rw [exec_bind_ok (exec_attempt _), exec_getProxy found applied]
        simp

theorem exec_profilesMatchOwnedState (owned : Owned platform evidence world)
    {entries : List (String × Snapshot)} (members : ∀ entry ∈ entries,
      entry ∈ evidence.connections) :
    (profilesMatchOwnedState platform evidence.appliedConfig (listedTypes platform world) true
      entries).exec effect world = (.ok true, world) := by
  induction entries with
  | nil => rfl
  | cons entry rest ih =>
      obtain ⟨first, others⟩ := List.forall_mem_cons.mp members
      rw [profilesMatchOwnedState, exec_bind_ok (exec_profileMatchesOwnedState owned first),
        if_pos rfl]
      exact ih others

theorem exec_desktopMatchesOwnedState (valid : evidence.Valid platform)
    (owned : Owned platform evidence world) :
    (desktopMatchesOwnedState platform evidence true).exec effect world = (.ok true, world) := by
  rw [desktopMatchesOwnedState]
  cases stored : evidence.desktopProxy with
  | none => rfl
  | some saved =>
      have client : desktopBackendMatches platform saved = true := by
        simp [desktopBackendMatches, valid.backend saved stored]
      obtain ⟨mode, readable, either⟩ : ∃ mode, world.desktop.mode = some mode ∧
          (mode = saved.state.mode ∨ mode = .auto) := by
        rcases owned.mode saved stored with same | same
        · exact ⟨_, same, .inl rfl⟩
        · exact ⟨_, same, .inr rfl⟩
      have matching : desktopStateMatches saved.state
          (desiredDesktopState evidence.appliedConfig)
          ⟨mode, world.desktop.autoconfigUrl⟩ true = true := by
        have url := owned.autoconfigUrl saved stored
        simp only [desktopStateMatches, desiredDesktopState, Bool.true_and, Bool.or_eq_true,
          Bool.and_eq_true]
        exact .inr ⟨decide_eq_true either, decide_eq_true url⟩
      dsimp only
      rw [if_pos client, exec_bind_ok (exec_attempt _), exec_getState readable]
      exact congrArg (fun answer => (Except.ok answer, world)) matching

/-- The state after `_restore_desktop`. -/
def World.withDesktop (world : World) (evidence : Evidence) : World :=
  match evidence.desktopProxy with
  | none => world
  | some saved => (world.setAutoconfigUrl saved.state.autoconfigUrl).setMode saved.state.mode

@[simp] theorem World.withDesktop_profiles (world : World) (evidence : Evidence) :
    (world.withDesktop evidence).profiles = world.profiles := by
  unfold withDesktop
  split <;> rfl

@[simp] theorem World.withDesktop_store (world : World) (evidence : Evidence) :
    (world.withDesktop evidence).store = world.store := by
  unfold withDesktop
  split <;> rfl

theorem exec_setState {client : DesktopBackend} {state : DesktopProxyState}
    (kept : client.leaves state.autoconfigUrl = state.autoconfigUrl) (world : World) :
    (setState platform client state).exec effect world =
      (.ok (), (world.setAutoconfigUrl state.autoconfigUrl).setMode state.mode) := by
  have writes : (do
      setAutoconfigUrl platform state.autoconfigUrl client
      perform (.setMode state.mode) .desktopProxy
      let current ← getState
      if current ≠ state then raise .desktopProxy : Proc Unit).exec effect world =
      (.ok (), (world.setAutoconfigUrl state.autoconfigUrl).setMode state.mode) := by
    rw [setAutoconfigUrl_eq, kept, exec_bind_ok (exec_perform ..), exec_bind_ok (exec_perform ..),
      exec_bind_ok (exec_getState rfl)]
    exact congrArg (fun program : Proc Unit => program.exec effect _)
      (if_neg (not_not_intro rfl))
  cases client with
  | gsettings => exact writes
  | kde => exact writes

theorem exec_restoreDesktop (valid : evidence.Valid platform) (world : World) :
    (restoreDesktop platform evidence).exec effect world =
      (.ok true, world.withDesktop evidence) := by
  rw [restoreDesktop, World.withDesktop]
  cases stored : evidence.desktopProxy with
  | none => rfl
  | some saved =>
      have client : desktopBackendMatches platform saved = true := by
        simp [desktopBackendMatches, valid.backend saved stored]
      dsimp only
      rw [if_pos client, exec_bind_ok (exec_attempt _),
        exec_setState (valid.spelled saved stored).leaves_saved]
      rfl

theorem exec_reapply {device : String} (present : device ≠ "" ∧ device ≠ "--") (world : World) :
    (reapply device).exec effect world = (.ok (), world) := by
  rw [reapply, if_neg (by simpa using present)]
  rfl

theorem exec_restoreProfile {devices : String → Option String}
    (present : ∀ uuid device, devices uuid = some device → device ≠ "" ∧ device ≠ "--")
    (entry : String × Snapshot) (world : World) :
    (restoreProfile devices entry).exec effect world =
      (.ok true, world.setProxy entry.1 entry.2.proxy) := by
  have steps : (restoreAndReapply devices entry).exec effect world =
      (.ok (), world.setProxy entry.1 entry.2.proxy) := by
    refine (exec_bind_ok (exec_perform ..)).trans ?_
    cases found : devices entry.1 with
    | none => rfl
    | some device =>
        obtain ⟨nonempty, real⟩ := present _ _ found
        split
        · rfl
        · rfl
        · rename_i other _ same
          obtain rfl : device = other := Option.some.inj same
          exact exec_reapply ⟨nonempty, real⟩ _
  rw [restoreProfile, exec_bind_ok (exec_attempt _), steps]
  rfl

/-- The state after `_restore_profiles`. -/
def World.withProfiles (world : World) (entries : List (String × Snapshot)) : World :=
  entries.foldl (fun world entry => world.setProxy entry.1 entry.2.proxy) world

theorem exec_restoreProfiles {devices : String → Option String}
    (present : ∀ uuid device, devices uuid = some device → device ≠ "" ∧ device ≠ "--")
    (entries : List (String × Snapshot)) (world : World) :
    (restoreProfiles entries devices).exec effect world =
      (.ok true, world.withProfiles entries.reverse) :=
  exec_every (fun entry _ state => exec_restoreProfile present entry state) world

theorem World.withProfiles_other {uuid : String} {entries : List (String × Snapshot)}
    (absent : uuid ∉ entries.map Prod.fst) (world : World) :
    (world.withProfiles entries).profiles uuid = world.profiles uuid := by
  induction entries generalizing world with
  | nil => rfl
  | cons entry rest ih =>
      rw [List.map_cons, List.mem_cons, not_or] at absent
      obtain ⟨different, absent⟩ := absent
      exact (ih absent _).trans (Function.update_of_ne different _ _)

theorem World.withProfiles_member {entries : List (String × Snapshot)}
    (distinct : (entries.map Prod.fst).Nodup) {entry : String × Snapshot}
    (member : entry ∈ entries) (world : World) :
    (world.withProfiles entries).profiles entry.1 =
      (world.profiles entry.1).map fun profile => { profile with proxy := some entry.2.proxy } := by
  induction entries generalizing world with
  | nil => simp at member
  | cons head rest ih =>
      rw [List.map_cons, List.nodup_cons] at distinct
      rcases List.mem_cons.mp member with rfl | later
      · exact (withProfiles_other distinct.1 _).trans (Function.update_self ..)
      · have different : entry.1 ≠ head.1 := fun same =>
          distinct.1 (same ▸ List.mem_map_of_mem later)
        refine (ih distinct.2 later _).trans (congrArg (Option.map _) ?_)
        exact Function.update_of_ne different _ _

@[simp] theorem World.withProfiles_desktop (world : World) (entries : List (String × Snapshot)) :
    (world.withProfiles entries).desktop = world.desktop := by
  induction entries generalizing world with
  | nil => rfl
  | cons entry rest ih => exact ih _

theorem activeDevices_present {connections : List ActiveConnection} (uuid device : String)
    (found : activeDevices connections uuid = some device) : device ≠ "" ∧ device ≠ "--" := by
  obtain ⟨connection, first, rfl⟩ := Option.map_eq_some_iff.mp found
  simpa using (List.mem_filter.mp (List.mem_of_find?_eq_some first)).2

/-- `last` is `world` with every owned value that is there restored and the evidence gone. -/
structure RestoredFrom (evidence : Evidence) (world last : World) : Prop where
  store : last.store = none
  profiles : ∀ entry ∈ evidence.connections, last.profiles entry.1 =
    (world.profiles entry.1).map fun profile => { profile with proxy := some entry.2.proxy }
  others : ∀ uuid, uuid ∉ evidence.connections.map Prod.fst →
    last.profiles uuid = world.profiles uuid
  desktop : last.desktop = match evidence.desktopProxy with
    | none => world.desktop
    | some saved => ⟨some saved.state.mode, saved.state.autoconfigUrl⟩

/-- A disable without failures restores an accepted state. -/
theorem exec_disable (valid : evidence.Valid platform)
    (stored : world.store = some (.saved evidence)) (owned : Owned platform evidence world) :
    ∃ last, (disable platform).exec effect world = (.ok true, last) ∧
      RestoredFrom evidence world last := by
  have present : storeExists.exec effect world = (.ok true, world) := by
    rw [storeExists, exec_ask, stored]
    rfl
  have loads : loadBackup.exec effect world = (.ok evidence, world) := by
    rw [loadBackup, exec_bind_ok (exec_ask ..), stored]
    dsimp only
    rw [if_neg (by simpa using valid.nonempty)]
    rfl
  have lists : (loadAll platform).exec effect world = (.ok (evidence,
      listedTypes platform world, world.activeConnections.map (lowerType platform)), world) := by
    rw [loadAll, exec_bind_ok loads]
    rfl
  let existing := evidence.connections.filter fun entry =>
    (listedTypes platform world entry.1).isSome
  have members : ∀ entry ∈ existing, entry ∈ evidence.connections :=
    fun entry member => (List.mem_filter.mp member).1
  have distinct : (existing.reverse.map Prod.fst).Nodup := by
    rw [List.map_reverse, List.nodup_reverse]
    exact valid.distinct.sublist (List.filter_sublist.map _)
  let last : World := { (world.withDesktop evidence).withProfiles existing.reverse with
    store := none }
  refine ⟨last, ?_, rfl, fun entry member => ?_, fun uuid absent => ?_, ?_⟩
  · rw [disable, exec_bind_ok present, if_pos rfl, exec_bind_ok (exec_attempt _), lists]
    dsimp only
    rw [exec_bind_ok (exec_profilesMatchOwnedState owned members), if_pos rfl,
      exec_bind_ok (exec_desktopMatchesOwnedState valid owned), if_pos rfl,
      exec_bind_ok (exec_restoreDesktop valid world),
      exec_bind_ok (exec_restoreProfiles activeDevices_present _ _)]
    rfl
  · by_cases here : (world.profiles entry.1).isSome = true
    · have kept : entry ∈ existing.reverse := by
        rw [List.mem_reverse, List.mem_filter, listedTypes_isSome]
        exact ⟨member, here⟩
      rw [← World.withDesktop_profiles world evidence]
      exact World.withProfiles_member distinct kept _
    · have gone : world.profiles entry.1 = none := by simpa using here
      have absent : entry.1 ∉ existing.reverse.map Prod.fst := by
        rintro kept
        obtain ⟨other, kept, same⟩ := List.mem_map.mp kept
        have found := (List.mem_filter.mp (List.mem_reverse.mp kept)).2
        rw [listedTypes_isSome, same, gone] at found
        cases found
      rw [gone, Option.map_none, ← gone, ← World.withDesktop_profiles world evidence]
      exact World.withProfiles_other absent _
  · rw [← World.withDesktop_profiles world evidence]
    refine World.withProfiles_other (fun kept => absent ?_) _
    obtain ⟨other, kept, same⟩ := List.mem_map.mp kept
    exact List.mem_map.mpr ⟨other, members other (List.mem_reverse.mp kept), same⟩
  · refine (World.withProfiles_desktop _ _).trans ?_
    rw [World.withDesktop]
    split <;> rfl

/-- Without evidence nothing is done. -/
theorem exec_disable_none (missing : world.store = none) :
    (disable platform).exec effect world = (.ok true, world) := by
  have absent : storeExists.exec effect world = (.ok false, world) := by
    rw [storeExists, exec_ask, missing]
    rfl
  rw [disable, exec_bind_ok absent]
  rfl

end ProxyLauncher.Linux
