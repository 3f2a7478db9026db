import ProxyLauncher.Linux.Restore

/-!
# Stopping the Linux backend anywhere

Every command keeps each owned value at its saved or applied one, whichever reads and
commands fail.  Evidence is written from what is there and removed only when everything is
restored, so a disable can complete the work wherever an operation was stopped.
-/

namespace ProxyLauncher.Linux

open Interruption Program Python Texts

variable {platform : Platform} {evidence : Evidence} {world : World}

/-- The values that the commands under this evidence have. -/
def Evidence.Allows (evidence : Evidence) : Command → Prop
  | .setProxy uuid proxy => ∃ snapshot, (uuid, snapshot) ∈ evidence.connections ∧
      (proxy = snapshot.proxy ∨ proxy = desiredProxyState evidence.appliedConfig)
  | .reapply _ => True
  | .setAutoconfigUrl url => ∃ saved, evidence.desktopProxy = some saved ∧
      (url = saved.state.autoconfigUrl ∨ url = evidence.appliedConfig.pacUrl)
  | .setMode mode => ∃ saved, evidence.desktopProxy = some saved ∧
      (mode = saved.state.mode ∨ mode = .auto)
  | .saveStore _ | .clearStore => False

/-- The evidence has the values of this state. -/
structure Describes (platform : Platform) (evidence : Evidence) (world : World) : Prop where
  valid : evidence.Valid platform
  profiles : ∀ entry ∈ evidence.connections, ∃ profile, world.profiles entry.1 = some profile ∧
    platform.py.lower profile.connectionType = platform.py.lower entry.2.connectionType ∧
    profile.proxy = some entry.2.proxy
  desktop : DesktopRestored evidence world

/-- A command that the backend may issue: evidence is taken from the state and never written
over other evidence, it is removed when everything is restored, and only what it covers is
changed, to a saved or an applied value. -/
def Sound (platform : Platform) : Command → World → Prop
  | .saveStore evidence, world => world.store = none ∧ Describes platform evidence world
  | .clearStore, world => ∀ evidence, world.store = some (.saved evidence) →
      Restored evidence world
  | command, world => ∃ evidence, world.store = some (.saved evidence) ∧ evidence.Allows command

/-- There is no evidence, or there is and every value that it owns is saved or applied. -/
def Accepted (platform : Platform) (world : World) : Prop :=
  world.store = none ∨ ∃ evidence, world.store = some (.saved evidence) ∧
    evidence.Valid platform ∧ Owned platform evidence world

theorem Describes.owned (describes : Describes platform evidence world) :
    Owned platform evidence world where
  connectionType entry member profile found := by
    obtain ⟨_, found', sameType, -⟩ := describes.profiles entry member
    obtain rfl := Option.some.inj (found'.symm.trans found)
    exact sameType
  proxy entry member profile found := by
    obtain ⟨_, found', -, proxy⟩ := describes.profiles entry member
    obtain rfl := Option.some.inj (found'.symm.trans found)
    exact .inl proxy
  mode saved stored := .inl (congrArg DesktopKeys.mode (describes.desktop saved stored))
  autoconfigUrl saved stored :=
    .inl (congrArg DesktopKeys.autoconfigUrl (describes.desktop saved stored))

theorem Describes.restored (describes : Describes platform evidence world)
    {entry : String × Snapshot} (member : entry ∈ evidence.connections) :
    ProfileRestored entry world := by
  intro profile found
  obtain ⟨_, found', -, proxy⟩ := describes.profiles entry member
  obtain rfl := Option.some.inj (found'.symm.trans found)
  exact proxy

/-- The snapshot of a uuid is unique. -/
theorem Evidence.Valid.unique (valid : evidence.Valid platform) {entry entry' : String × Snapshot}
    (member : entry ∈ evidence.connections) (member' : entry' ∈ evidence.connections)
    (same : entry.1 = entry'.1) : entry = entry' := by
  have first := lookup_of_mem valid.distinct (show (entry.1, entry.2) ∈ _ from member)
  have second := lookup_of_mem valid.distinct (show (entry'.1, entry'.2) ∈ _ from member')
  rw [same, second] at first
  exact Prod.ext same (Option.some.inj first).symm

theorem World.setProxy_found {uuid uuid' : String} {proxy : NetworkManagerProxyState}
    {profile : Profile} (found : (world.setProxy uuid proxy).profiles uuid' = some profile) :
    ∃ before, world.profiles uuid' = some before ∧
      profile.connectionType = before.connectionType ∧
      (profile.proxy = before.proxy ∨ uuid' = uuid ∧ profile.proxy = some proxy) := by
  rw [World.setProxy_profiles] at found
  by_cases here : uuid' = uuid
  · rw [here, Function.update_self] at found
    obtain ⟨before, present, rfl⟩ := Option.map_eq_some_iff.mp found
    exact ⟨before, here ▸ present, rfl, .inr ⟨here, rfl⟩⟩
  · rw [Function.update_of_ne here] at found
    exact ⟨profile, found, rfl, .inl rfl⟩

theorem Owned.allows (owned : Owned platform evidence world) (valid : evidence.Valid platform)
    {command : Command} (allows : evidence.Allows command) :
    Owned platform evidence (effect command world) := by
  cases command with
  | setProxy uuid proxy =>
      obtain ⟨snapshot, member, either⟩ := allows
      refine ⟨fun entry member' profile found => ?_, fun entry member' profile found => ?_,
        owned.mode, owned.autoconfigUrl⟩
      · obtain ⟨before, found, sameType, -⟩ := World.setProxy_found found
        rw [sameType]
        exact owned.connectionType entry member' before found
      · obtain ⟨before, found, -, same | ⟨here, written⟩⟩ := World.setProxy_found found
        · rw [same]
          exact owned.proxy entry member' before found
        · obtain rfl : entry.2 = snapshot := congrArg Prod.snd (valid.unique member' member here)
          rw [written]
          exact either.imp (congrArg some) (congrArg some)
  | reapply device => exact owned
  | setAutoconfigUrl url =>
      obtain ⟨saved, stored, either⟩ := allows
      refine ⟨owned.connectionType, owned.proxy, owned.mode, fun saved' stored' => ?_⟩
      obtain rfl := Option.some.inj (stored.symm.trans stored')
      exact either
  | setMode mode =>
      obtain ⟨saved, stored, either⟩ := allows
      refine ⟨owned.connectionType, owned.proxy, fun saved' stored' => ?_, owned.autoconfigUrl⟩
      obtain rfl := Option.some.inj (stored.symm.trans stored')
      exact either.imp (congrArg some) (congrArg some)
  | saveStore evidence => exact allows.elim
  | clearStore => exact allows.elim

theorem Evidence.Allows.store {command : Command} (allows : evidence.Allows command)
    (world : World) : (effect command world).store = world.store := by
  cases command <;> first | rfl | exact allows.elim

/-- Step lemma: a sound command keeps a state accepted. -/
theorem Sound.accepted {command : Command} (sound : Sound platform command world)
    (accepted : Accepted platform world) : Accepted platform (effect command world) := by
  have governed (allowed : ∃ evidence, world.store = some (.saved evidence) ∧
      evidence.Allows command) : Accepted platform (effect command world) := by
    obtain ⟨evidence, stored, allows⟩ := allowed
    rcases accepted with missing | ⟨_, stored', valid, owned⟩
    · rw [missing] at stored
      cases stored
    · rw [stored] at stored'
      cases stored'
      exact .inr ⟨evidence, (allows.store world).trans stored, valid, owned.allows valid allows⟩
  cases command with
  | saveStore evidence =>
      obtain ⟨-, describes⟩ := sound
      refine .inr ⟨evidence, rfl, describes.valid, ?_⟩
      exact ⟨describes.owned.connectionType, describes.owned.proxy, describes.owned.mode,
        describes.owned.autoconfigUrl⟩
  | clearStore => exact .inl rfl
  | setProxy uuid proxy => exact governed sound
  | reapply device => exact governed sound
  | setAutoconfigUrl url => exact governed sound
  | setMode mode => exact governed sound

/-- A contract with sound commands, in which every read and every command may fail. -/
abbrev Contract {α : Type} (platform : Platform) (program : Proc α)
    (post : Except LinuxError α → World → Prop) (world : World) : Prop :=
  program.Ensures (.faulty effect) (Sound platform) post world

theorem contract_perform {command : Command} {error : LinuxError}
    {post : Except LinuxError Unit → World → Prop} (sound : Sound platform command world)
    (accepted : post (.ok ()) (effect command world)) (refused : post (.error error) world) :
    Contract platform (perform command error) post world :=
  ⟨sound, fun _ => accepted, fun _ => refused⟩

/-- Checks issue no command. -/
theorem contract_of_silent {α : Type} {program : Proc α}
    (silent : program.Issuing fun _ => False) (world : World) :
    Contract platform program (fun _ last => last = world) world :=
  ((silent (.faulty effect) world).unchanged).weaken_post fun _ _ post => post.2

/-- The post of a program that changes the desktop only. -/
structure DesktopOnly (world last : World) : Prop where
  profiles : last.profiles = world.profiles
  store : last.store = world.store

theorem contract_setState (stored : world.store = some (.saved evidence))
    {client : DesktopBackend} {state : DesktopProxyState}
    (url : evidence.Allows (.setAutoconfigUrl (client.leaves state.autoconfigUrl)))
    (mode : evidence.Allows (.setMode state.mode)) :
    Contract platform (setState platform client state) (fun outcome last => DesktopOnly world last ∧
      (outcome = .ok () → last.desktop = ⟨some state.mode, state.autoconfigUrl⟩)) world := by
  have writes : Contract platform (do
      setAutoconfigUrl platform state.autoconfigUrl client
      perform (.setMode state.mode) .desktopProxy
      let current ← getState
      if current ≠ state then raise .desktopProxy : Proc Unit)
      (fun outcome last => DesktopOnly world last ∧
        (outcome = .ok () → last.desktop = ⟨some state.mode, state.autoconfigUrl⟩)) world := by
    rw [Contract, setAutoconfigUrl_eq, ensures_bind]
    refine contract_perform ⟨evidence, stored, url⟩ ?_ ⟨⟨rfl, rfl⟩, by simp⟩
    rw [followedBy_ok, ensures_bind]
    refine contract_perform ⟨evidence, stored, mode⟩ ?_ ⟨⟨rfl, rfl⟩, by simp⟩
    rw [followedBy_ok, getState, ensures_bind, ensures_bind, ensures_ask]
    refine ⟨fun _ => ?_, fun _ => ⟨⟨rfl, rfl⟩, by simp⟩⟩
    change (if _ then raise .desktopProxy else pure () : Proc Unit).Ensures _ _ _ _
    split
    · exact ⟨⟨rfl, rfl⟩, by simp⟩
    · rename_i verified
      rw [not_not] at verified
      have left : client.leaves state.autoconfigUrl = state.autoconfigUrl :=
        congrArg DesktopProxyState.autoconfigUrl verified
      exact ⟨⟨rfl, rfl⟩, fun _ => congrArg (DesktopKeys.mk (some state.mode)) left⟩
  cases client with
  | kde => exact writes
  | gsettings =>
      have failed : ∀ error : LinuxError, DesktopOnly world world ∧
          ((Except.error error : Except LinuxError Unit) = .ok () →
            world.desktop = ⟨some state.mode, state.autoconfigUrl⟩) :=
        fun _ => ⟨⟨rfl, rfl⟩, by simp⟩
      exact ⟨fun _ => ⟨fun _ => writes, fun _ => failed _⟩, fun _ => failed _⟩

theorem contract_restoreDesktop (valid : evidence.Valid platform) (stored : world.store = some (.saved evidence)) :
    Contract platform (restoreDesktop platform evidence) (fun outcome last =>
      DesktopOnly world last ∧ ∃ answer, outcome = .ok answer ∧
        (answer = true → DesktopRestored evidence last)) world := by
  rw [restoreDesktop]
  cases saved : evidence.desktopProxy with
  | none => exact ⟨⟨rfl, rfl⟩, true, rfl, fun _ => by simp [DesktopRestored, saved]⟩
  | some snapshot =>
      dsimp only
      split
      · rw [Contract, ensures_bind, ensures_attempt]
        have kept := (valid.spelled snapshot saved).leaves_saved
        refine (contract_setState stored ⟨snapshot, saved, .inl kept⟩
          ⟨snapshot, saved, .inl rfl⟩).weaken_post ?_
        rintro (error | ⟨⟩) last ⟨only, restored⟩
        · exact ⟨only, false, rfl, by simp⟩
        · refine ⟨only, true, rfl, fun _ snapshot' saved' => ?_⟩
          obtain rfl := Option.some.inj (saved.symm.trans saved')
          exact restored rfl
      · exact ⟨⟨rfl, rfl⟩, false, rfl, by simp⟩

/-- The post of a program that changes owned profiles only, and only to saved values. -/
structure RestoresProfiles (evidence : Evidence) (world last : World) : Prop where
  desktop : last.desktop = world.desktop
  store : last.store = world.store
  kept : ∀ entry ∈ evidence.connections, ProfileRestored entry world → ProfileRestored entry last

theorem RestoresProfiles.refl (evidence : Evidence) (world : World) :
    RestoresProfiles evidence world world :=
  ⟨rfl, rfl, fun _ _ restored => restored⟩

theorem restoresProfiles_setProxy (world : World) (valid : evidence.Valid platform)
    {entry : String × Snapshot} (member : entry ∈ evidence.connections) :
    RestoresProfiles evidence world (world.setProxy entry.1 entry.2.proxy) ∧
      ProfileRestored entry (world.setProxy entry.1 entry.2.proxy) := by
  have written : ProfileRestored entry (world.setProxy entry.1 entry.2.proxy) := by
    intro profile found
    rw [World.setProxy_profiles, Function.update_self] at found
    obtain ⟨before, -, rfl⟩ := Option.map_eq_some_iff.mp found
    rfl
  refine ⟨⟨rfl, rfl, fun other member' restored profile found => ?_⟩, written⟩
  by_cases same : other.1 = entry.1
  · obtain rfl := valid.unique member' member same
    exact written profile found
  · rw [World.setProxy_profiles, Function.update_of_ne same] at found
    exact restored profile found

theorem contract_reapply (stored : world.store = some (.saved evidence)) (device : String) :
    Contract platform (reapply device) (fun _ last => last = world) world := by
  rw [reapply]
  split
  · rfl
  · exact contract_perform ⟨evidence, stored, trivial⟩ rfl rfl

theorem contract_restoreProfile (valid : evidence.Valid platform)
    (stored : world.store = some (.saved evidence)) (devices : String → Option String)
    {entry : String × Snapshot} (member : entry ∈ evidence.connections) :
    Contract platform (restoreProfile devices entry) (fun outcome last =>
      RestoresProfiles evidence world last ∧ ∃ answer, outcome = .ok answer ∧
        (answer = true → ProfileRestored entry last)) world := by
  have steps : Contract platform (restoreAndReapply devices entry) (fun outcome last =>
      RestoresProfiles evidence world last ∧
        (outcome = .ok () → ProfileRestored entry last)) world := by
    obtain ⟨restores, restored⟩ := restoresProfiles_setProxy world valid member
    rw [Contract, restoreAndReapply, ensures_bind, setProxy]
    refine contract_perform ⟨evidence, stored, entry.2, member, .inl rfl⟩ ?_
      ⟨.refl _ _, by simp⟩
    rw [followedBy_ok]
    split
    · exact ⟨restores, fun _ => restored⟩
    · exact ⟨restores, fun _ => restored⟩
    · have held : (effect (.setProxy entry.1 entry.2.proxy) world).store =
          some (.saved evidence) := stored
      refine (contract_reapply held _).weaken_post ?_
      rintro outcome last rfl
      exact ⟨restores, fun _ => restored⟩
  rw [Contract, restoreProfile, ensures_bind, ensures_attempt]
  refine steps.weaken_post ?_
  rintro (error | ⟨⟩) last ⟨restores, restored⟩
  · exact ⟨restores, false, rfl, by simp⟩
  · exact ⟨restores, true, rfl, fun _ => restored rfl⟩

theorem contract_restoreProfiles (valid : evidence.Valid platform)
    (stored : world.store = some (.saved evidence)) {entries : List (String × Snapshot)}
    (members : ∀ entry ∈ entries, entry ∈ evidence.connections)
    (devices : String → Option String) :
    Contract platform (restoreProfiles entries devices) (fun outcome last =>
      RestoresProfiles evidence world last ∧ ∃ answer, outcome = .ok answer ∧
        (answer = true → ∀ entry ∈ entries, ProfileRestored entry last)) world := by
  refine (ensures_every (RestoresProfiles evidence world)
    (fun entry state => entry ∈ evidence.connections → ProfileRestored entry state)
    (fun entry member state holds => ?_) (.refl evidence world)).weaken_post ?_
  · have owned := members entry (List.mem_reverse.mp member)
    refine (contract_restoreProfile valid (holds.store.trans stored) devices owned).weaken_post ?_
    rintro outcome last ⟨restores, answer, rfl, finished⟩
    refine ⟨⟨restores.desktop.trans holds.desktop, restores.store.trans holds.store,
      fun other member' before => restores.kept other member' (holds.kept other member' before)⟩,
      fun other before member' => restores.kept other member' (before member'),
      answer, rfl, fun yes _ => finished yes⟩
  · rintro outcome last ⟨restores, -, answer, rfl, finished⟩
    exact ⟨restores, answer, rfl, fun yes entry member =>
      finished yes entry (List.mem_reverse.mpr member) (members entry member)⟩

theorem contract_clearStore (stored : world.store = some (.saved evidence))
    (restored : Restored evidence world) {post : Except LinuxError Bool → World → Prop}
    (cleared : post (.ok true) (effect .clearStore world)) (refused : post (.ok false) world) :
    Contract platform clearStore post world := by
  refine ⟨fun evidence' stored' => ?_, fun _ => cleared, fun _ => refused⟩
  rw [stored] at stored'
  cases stored'
  exact restored

theorem contract_rollback (valid : evidence.Valid platform)
    (stored : world.store = some (.saved evidence)) {touched : List (String × Snapshot)}
    (members : ∀ entry ∈ touched, entry ∈ evidence.connections)
    (untouched : ∀ entry ∈ evidence.connections, entry ∉ touched → ProfileRestored entry world)
    {desktopTouched : Bool} (desktop : desktopTouched = false → DesktopRestored evidence world) :
    Contract platform (rollback platform evidence touched desktopTouched) (fun _ _ => True)
      world := by
  have first : Contract platform (rollbackDesktop platform evidence desktopTouched)
      (fun outcome last => DesktopOnly world last ∧ ∃ answer, outcome = .ok answer ∧
        (answer = true → DesktopRestored evidence last)) world := by
    cases desktopTouched with
    | true => exact contract_restoreDesktop valid stored
    | false => exact ⟨⟨rfl, rfl⟩, true, rfl, fun _ => desktop rfl⟩
  rw [Contract, rollback, ensures_bind]
  refine first.weaken_post ?_
  rintro outcome middle ⟨only, desktopRestored, rfl, desktopDone⟩
  have held : middle.store = some (.saved evidence) := only.store.trans stored
  rw [followedBy_ok, ensures_bind]
  refine (contract_restoreProfiles valid held members _).weaken_post ?_
  rintro outcome last ⟨restores, profilesRestored, rfl, profilesDone⟩
  rw [followedBy_ok]
  dsimp only
  split
  · rename_i both
    rw [Bool.and_eq_true] at both
    have restored : Restored evidence last := by
      refine ⟨fun entry member => ?_, fun saved stored => ?_⟩
      · by_cases done : entry ∈ touched
        · exact profilesDone both.2 entry done
        · refine restores.kept entry member fun profile found => ?_
          rw [only.profiles] at found
          exact untouched entry member done profile found
      · rw [restores.desktop]
        exact desktopDone both.1 saved stored
    rw [ensures_bind]
    exact contract_clearStore (restores.store.trans held) restored trivial trivial
  · trivial

theorem contract_applyProfile (stored : world.store = some (.saved evidence))
    {entry : String × Snapshot} (member : entry ∈ evidence.connections) :
    Contract platform (applyProfile evidence entry) (fun _ last =>
      last = world ∨ last = world.setProxy entry.1 (desiredProxyState evidence.appliedConfig))
      world := by
  rw [Contract, applyProfile, ensures_bind, setProxy]
  refine contract_perform ⟨evidence, stored, entry.2, member, .inr rfl⟩ ?_ (.inl rfl)
  have held : (effect (.setProxy entry.1 (desiredProxyState evidence.appliedConfig)) world).store =
      some (.saved evidence) := stored
  exact (contract_reapply held _).weaken_post fun _ _ same => .inr same

/-- Loop rule of `enable`: what is not touched yet has its saved value. -/
theorem contract_applyProfiles (valid : evidence.Valid platform)
    (stored : world.store = some (.saved evidence)) {touched rest : List (String × Snapshot)}
    (split : touched ++ rest = evidence.connections)
    (untouched : ∀ entry ∈ rest, ProfileRestored entry world)
    (desktop : DesktopRestored evidence world) :
    Contract platform (applyProfiles platform evidence touched rest) (fun _ _ => True) world := by
  induction rest generalizing touched world with
  | nil =>
      rw [List.append_nil] at split
      subst split
      rw [applyProfiles]
      cases saved : evidence.desktopProxy with
      | none => trivial
      | some snapshot =>
          dsimp only
          rw [Contract, ensures_bind, ensures_attempt]
          have left := (valid.spelled snapshot saved).leaves_applied
          refine (contract_setState stored ⟨snapshot, saved, left⟩
            ⟨snapshot, saved, .inr rfl⟩).weaken_post ?_
          rintro (error | ⟨⟩) last ⟨only, -⟩
          · exact contract_rollback valid (only.store.trans stored) (fun _ member => member)
              (fun entry member absent => absurd member absent) (by simp)
          · trivial
  | cons entry rest ih =>
      have members : ∀ other ∈ touched ++ [entry], other ∈ evidence.connections := by
        intro other member
        rw [← split]
        rcases List.mem_append.mp member with early | here
        · exact List.mem_append_left _ early
        · rw [List.mem_singleton.mp here]
          exact List.mem_append_right _ List.mem_cons_self
      have distinct := valid.distinct
      rw [← split, List.map_append, List.nodup_append] at distinct
      have later : ∀ other ∈ rest, other.1 ≠ entry.1 := by
        intro other member same
        have absent := (List.nodup_cons.mp distinct.2.1).1
        exact absent (same ▸ List.mem_map_of_mem member)
      -- The turn can change the profile of `entry` only.
      have others {last : World} (either : last = world ∨
          last = world.setProxy entry.1 (desiredProxyState evidence.appliedConfig)) :
          last.store = some (.saved evidence) ∧ DesktopRestored evidence last ∧
          ∀ other ∈ rest, ProfileRestored other last := by
        rcases either with rfl | rfl
        · exact ⟨stored, desktop, fun other member =>
            untouched other (List.mem_cons_of_mem _ member)⟩
        · refine ⟨stored, desktop, fun other member profile found => ?_⟩
          rw [World.setProxy_profiles, Function.update_of_ne (later other member)] at found
          exact untouched other (List.mem_cons_of_mem _ member) profile found
      have split' : (touched ++ [entry]) ++ rest = evidence.connections := by simpa using split
      rw [applyProfiles, Contract, ensures_bind, ensures_attempt]
      refine (contract_applyProfile stored (members entry (by simp))).weaken_post ?_
      rintro (error | ⟨⟩) last either
      · obtain ⟨held, desktop', rest'⟩ := others either
        refine contract_rollback valid held members (fun other member absent => ?_)
          fun _ => desktop'
        rw [← split', List.mem_append] at member
        exact rest' other (member.resolve_left absent)
      · obtain ⟨held, desktop', rest'⟩ := others either
        exact ih held split' rest' desktop'

/-! ## Taking the snapshot -/

theorem World.mem_activeConnectionsFrom {seen : List String} {rows : List ActiveRow}
    {connection : ActiveConnection} (member : connection ∈ world.activeConnectionsFrom seen rows) :
    connection.uuid ∉ seen ∧ ∃ profile, world.profiles connection.uuid = some profile ∧
      connection.connectionType = profile.connectionType := by
  induction rows generalizing seen with
  | nil => simp [activeConnectionsFrom] at member
  | cons row rows ih =>
      rw [activeConnectionsFrom] at member
      cases found : world.profiles row.uuid with
      | none =>
          rw [found] at member
          exact ih member
      | some profile =>
          rw [found] at member
          dsimp only at member
          split at member
          · exact ih member
          · rename_i fresh
            rw [not_or] at fresh
            rcases List.mem_cons.mp member with rfl | later
            · exact ⟨fresh.2, profile, found, rfl⟩
            · obtain ⟨unseen, rest⟩ := ih later
              exact ⟨fun before => unseen (List.mem_cons_of_mem _ before), rest⟩

theorem World.activeConnectionsFrom_distinct (world : World) (seen : List String)
    (rows : List ActiveRow) :
    ((world.activeConnectionsFrom seen rows).map ActiveConnection.uuid).Nodup := by
  induction rows generalizing seen with
  | nil => exact List.nodup_nil
  | cons row rows ih =>
      rw [activeConnectionsFrom]
      split
      · exact ih seen
      · split
        · exact ih seen
        · rw [List.map_cons, List.nodup_cons]
          refine ⟨fun again => ?_, ih _⟩
          obtain ⟨connection, member, same⟩ := List.mem_map.mp again
          exact (mem_activeConnectionsFrom member).1 (same ▸ List.mem_cons_self)

/-- The connections that `enable` takes a snapshot of. -/
def targets (platform : Platform) (world : World) : List ActiveConnection :=
  targetConnections platform (world.activeConnections.map (lowerType platform))

theorem targets_distinct (platform : Platform) (world : World) :
    ((targets platform world).map ActiveConnection.uuid).Nodup := by
  have rows : (world.activeConnections.map ActiveConnection.uuid).Nodup :=
    world.activeConnectionsFrom_distinct [] world.active
  refine List.Nodup.sublist (List.filter_sublist.map _) ?_
  simpa [List.map_map, Function.comp_def, lowerType] using rows

theorem mem_targets {connection : ActiveConnection} (member : connection ∈ targets platform world) :
    ∃ profile, world.profiles connection.uuid = some profile ∧
      platform.py.lower connection.connectionType = platform.py.lower profile.connectionType := by
  obtain ⟨lowered, listed, rfl⟩ := List.mem_map.mp (List.mem_filter.mp member).1
  obtain ⟨row, active, rfl⟩ := List.mem_map.mp listed
  obtain ⟨-, profile, found, sameType⟩ := World.mem_activeConnectionsFrom active
  refine ⟨profile, found, ?_⟩
  simp only [lowerType, platform.lower_lower, sameType]

/-- The snapshots have the uuids and types of the connections and the proxies of the state. -/
structure SnapshotsOf (world : World) (connections : List ActiveConnection)
    (entries : List (String × Snapshot)) : Prop where
  uuids : entries.map Prod.fst = connections.map ActiveConnection.uuid
  proxy : ∀ entry ∈ entries, ∃ connection ∈ connections, entry.1 = connection.uuid ∧
    entry.2.connectionType = connection.connectionType ∧
    (world.profiles entry.1).bind Profile.proxy = some entry.2.proxy

theorem ensures_snapshotConnections (connections : List ActiveConnection) (world : World) :
    (snapshotConnections connections).Ensures (.faulty effect) (fun _ _ => False)
      (fun outcome _ => ∀ entries, outcome = .ok entries → SnapshotsOf world connections entries)
      world := by
  induction connections with
  | nil =>
      rintro entries ⟨⟩
      exact ⟨rfl, by simp⟩
  | cons connection rest ih =>
      rw [snapshotConnections, ensures_bind, getProxy, ensures_bind, ensures_ask]
      refine ⟨fun _ => ?_, fun _ => by simp⟩
      rw [followedBy_ok]
      cases found : (world.profiles connection.uuid).bind Profile.proxy with
      | none => simp
      | some proxy =>
          dsimp only
          rw [ensures_pure, followedBy_ok, ensures_bind]
          refine ih.unchanged.weaken_post ?_
          rintro (error | entries) last ⟨taken, rfl⟩
          · simp
          · rw [followedBy_ok, ensures_pure]
            rintro _ ⟨⟩
            obtain ⟨uuids, proxies⟩ := taken entries rfl
            refine ⟨congrArg (connection.uuid :: ·) uuids, List.forall_mem_cons.mpr
              ⟨⟨connection, List.mem_cons_self, rfl, rfl, found⟩, fun entry member => ?_⟩⟩
            obtain ⟨other, member', rest⟩ := proxies entry member
            exact ⟨other, List.mem_cons_of_mem _ member', rest⟩

/-- The desktop part of a snapshot. -/
structure DesktopTaken (platform : Platform) (world : World) (taken : Option DesktopSnapshot) :
    Prop where
  backend : ∀ saved, taken = some saved → platform.desktop = some saved.backend
  state : ∀ saved, taken = some saved →
    world.desktop = ⟨some saved.state.mode, saved.state.autoconfigUrl⟩

theorem ensures_snapshotDesktop (platform : Platform) (world : World) :
    (snapshotDesktop platform).Ensures (.faulty effect) (fun _ _ => False)
      (fun outcome _ => ∀ taken, outcome = .ok taken → DesktopTaken platform world taken)
      world := by
  rw [snapshotDesktop]
  cases client : platform.desktop with
  | none =>
      rintro _ ⟨⟩
      exact ⟨by simp, by simp⟩
  | some backend =>
      dsimp only
      rw [ensures_bind, getState, ensures_bind, ensures_ask]
      refine ⟨fun _ => ?_, fun _ => by simp⟩
      rw [followedBy_ok]
      cases mode : world.desktop.mode with
      | none => simp
      | some supported =>
          rintro _ ⟨⟩
          refine ⟨fun saved same => ?_, fun saved same => ?_⟩
          · obtain rfl := Option.some.inj same
            exact client
          · obtain rfl := Option.some.inj same
            rw [← mode]

/-- The evidence that `enable` saves has the values of the state in which it is saved. -/
theorem contract_prepare (missing : world.store = none) (canonical : CanonicalConfig)
    (spelled : ∀ client, platform.desktop = some client →
      Spelled client world.desktop.autoconfigUrl canonical.pacUrl) :
    Contract platform (prepare platform canonical) (fun outcome last => ∀ payload,
      outcome = .ok payload → last.store = some (.saved payload) ∧
        Describes platform payload last) world := by
  rw [Contract, prepare, ensures_bind, listActiveConnections, ensures_ask]
  refine ⟨fun _ => ?_, fun _ => by simp⟩
  rw [followedBy_ok, ensures_bind]
  refine (ensures_snapshotConnections _ world).unchanged.weaken_post ?_
  rintro (error | entries) last ⟨taken, rfl⟩
  · simp
  have snapshots : SnapshotsOf last (targets platform last) entries := taken entries rfl
  rw [followedBy_ok]
  dsimp only
  split
  · simp
  rename_i filled
  rw [ensures_bind]
  refine (ensures_snapshotDesktop platform last).unchanged.weaken_post ?_
  rintro (error | desktopProxy) world' ⟨taken, rfl⟩
  · simp
  have desktop := taken desktopProxy rfl
  have describes : Describes platform
      { appliedConfig := canonical, connections := entries, desktopProxy } world' := by
    refine ⟨⟨by simpa using filled, ?_, desktop.backend, fun saved stored => ?_⟩,
      fun entry member => ?_, desktop.state⟩
    · rw [snapshots.uuids]
      exact targets_distinct platform world'
    · have found := spelled saved.backend (desktop.backend saved stored)
      rw [desktop.state saved stored] at found
      exact found
    · obtain ⟨connection, target, sameUuid, sameType, proxy⟩ := snapshots.proxy entry member
      obtain ⟨profile, found, lowered⟩ := mem_targets target
      rw [← sameUuid] at found
      rw [found, Option.bind_some] at proxy
      exact ⟨profile, found, by rw [sameType, lowered], proxy⟩
  rw [followedBy_ok, ensures_bind]
  refine contract_perform ⟨missing, describes⟩ ?_ (by simp)
  rintro _ ⟨⟩
  exact ⟨rfl, describes.valid, describes.profiles, describes.desktop⟩

section Silent

variable {forbidden : Command → Prop}

theorem silent_getProxy (uuid : String) : (getProxy uuid).Issuing forbidden := by
  refine .bind (.ask _ _ _) fun proxy => ?_
  cases proxy with
  | none => exact .raise _
  | some proxy => exact .pure proxy

theorem silent_getState : getState.Issuing forbidden := by
  refine .bind (.ask _ _ _) fun keys => ?_
  split
  · exact .raise _
  · exact .pure _

theorem silent_loadBackup : loadBackup.Issuing forbidden := by
  refine .bind (.ask _ _ _) fun file => ?_
  split
  · split
    · exact .raise _
    · exact .pure _
  · exact .raise _

theorem silent_profileMatchesOwnedState (uuid : String) (snapshot : Snapshot)
    (applied : CanonicalConfig) (currentProfiles : String → Option String)
    (allowRestored : Bool) :
    (profileMatchesOwnedState platform uuid snapshot applied currentProfiles
      allowRestored).Issuing forbidden := by
  rw [profileMatchesOwnedState]
  split
  · exact .pure _
  · split
    · exact .pure _
    · refine .bind (silent_getProxy uuid).attempt fun current => ?_
      split
      · exact .pure _
      · split
        · exact .pure _
        · exact .pure _

theorem silent_profilesMatchOwnedState (applied : CanonicalConfig)
    (currentProfiles : String → Option String) (allowRestored : Bool)
    (entries : List (String × Snapshot)) :
    (profilesMatchOwnedState platform applied currentProfiles allowRestored entries).Issuing
      forbidden := by
  induction entries with
  | nil => exact .pure _
  | cons entry rest ih =>
      refine .bind (silent_profileMatchesOwnedState _ _ _ _ _) fun answer => ?_
      split
      · exact ih
      · exact .pure _

theorem silent_desktopMatchesOwnedState (payload : Evidence) (allowRestored : Bool) :
    (desktopMatchesOwnedState platform payload allowRestored).Issuing forbidden := by
  rw [desktopMatchesOwnedState]
  split
  · exact .pure _
  · split
    · refine .bind silent_getState.attempt fun current => ?_
      split
      · exact .pure _
      · exact .pure _
    · exact .pure _

theorem silent_activeAreOwned (payload : Evidence) (connections : List ActiveConnection) :
    (activeAreOwned platform payload connections).Issuing forbidden := by
  induction connections with
  | nil => exact .pure _
  | cons connection rest ih =>
      rw [activeAreOwned]
      split
      · exact .pure _
      · split
        · exact .pure _
        · refine .bind (silent_getProxy _).attempt fun current => ?_
          split
          · exact .pure _
          · split
            · exact ih
            · exact .pure _

theorem silent_payloadIsOwnedAndActive (payload : Evidence) :
    (payloadIsOwnedAndActive platform payload).Issuing forbidden := by
  have both : (listBoth platform).Issuing forbidden :=
    .bind (.ask _ _ _) fun _ => .bind (.ask _ _ _) fun _ => .pure _
  refine .bind both.attempt fun lists => ?_
  split
  · exact .pure _
  · refine .bind (silent_profilesMatchOwnedState _ _ _ _) fun profiles => ?_
    split
    · refine .bind (silent_desktopMatchesOwnedState _ _) fun desktop => ?_
      split
      · split
        · exact .pure _
        · exact silent_activeAreOwned _ _
      · exact .pure _
    · exact .pure _

end Silent

theorem contract_enable (config : ProxyBackendConfig) (world : World)
    (spelled : world.store = none → ∀ client canonical, platform.desktop = some client →
      canonicalConfig platform.py config = some canonical →
      Spelled client world.desktop.autoconfigUrl canonical.pacUrl) :
    Contract platform (enable platform config) (fun _ _ => True) world := by
  rw [enable]
  split
  · trivial
  rename_i canonical canonicalizes
  rw [Contract, ensures_bind, storeExists, ensures_ask]
  refine ⟨fun _ => ?_, fun _ => trivial⟩
  rw [followedBy_ok]
  split
  · refine (contract_of_silent (.bind silent_loadBackup.attempt fun payload => ?_)
      world).weaken_post fun _ _ _ => trivial
    split
    · exact .pure _
    · split
      · exact silent_payloadIsOwnedAndActive _
      · exact .pure _
  · rename_i absent
    have missing : world.store = none := by simpa using absent
    rw [ensures_bind, ensures_attempt]
    refine (contract_prepare missing canonical fun client chosen =>
      spelled missing client canonical chosen canonicalizes).weaken_post ?_
    rintro (error | payload) last prepared
    · trivial
    · obtain ⟨stored, describes⟩ := prepared payload rfl
      exact contract_applyProfiles describes.valid stored (List.nil_append _)
        (fun entry member => describes.restored member) describes.desktop

theorem contract_loadAll (world : World) :
    Contract platform (loadAll platform) (fun outcome last => last = world ∧
      ∀ payload profiles connections, outcome = .ok (payload, profiles, connections) →
        world.store = some (.saved payload) ∧ profiles = listedTypes platform world) world := by
  have load : loadBackup.Ensures (.faulty effect) (fun _ _ => False)
      (fun outcome _ => ∀ payload, outcome = .ok payload → world.store = some (.saved payload))
      world := by
    rw [loadBackup, ensures_bind, ensures_ask]
    refine ⟨fun _ => ?_, fun _ => by simp⟩
    rw [followedBy_ok]
    split
    · rename_i evidence stored
      split
      · simp
      · rintro _ ⟨⟩
        exact stored
    · simp
  rw [Contract, loadAll, ensures_bind]
  refine load.unchanged.weaken_post ?_
  rintro (error | payload) last ⟨stored, rfl⟩
  · exact ⟨rfl, by simp⟩
  · rw [followedBy_ok, listBoth, ensures_bind, ensures_bind, listConnectionProfiles, ensures_ask]
    refine ⟨fun _ => ⟨fun _ => ⟨rfl, ?_⟩, fun _ => ⟨rfl, by simp⟩⟩, fun _ => ⟨rfl, by simp⟩⟩
    rintro _ _ _ ⟨⟩
    exact ⟨stored payload rfl, rfl⟩

theorem contract_disable (accepted : Accepted platform world) :
    Contract platform (disable platform) (fun _ _ => True) world := by
  rw [Contract, disable, ensures_bind, storeExists, ensures_ask]
  refine ⟨fun _ => ?_, fun _ => trivial⟩
  rw [followedBy_ok]
  split
  · rw [ensures_bind, ensures_attempt]
    refine (contract_loadAll world).weaken_post ?_
    rintro (error | ⟨payload, profiles, connections⟩) world ⟨rfl, loaded⟩
    · trivial
    obtain ⟨stored, rfl⟩ := loaded payload profiles connections rfl
    have valid : payload.Valid platform := by
      rcases accepted with missing | ⟨_, stored', valid, -⟩
      · rw [missing] at stored
        cases stored
      · rw [stored] at stored'
        cases stored'
        exact valid
    rw [followedBy_ok]
    dsimp only
    rw [ensures_bind]
    refine (contract_of_silent (silent_profilesMatchOwnedState _ _ _ _) world).weaken_post ?_
    rintro (error | matching) world rfl
    · trivial
    rw [followedBy_ok]
    split
    · rw [ensures_bind]
      refine (contract_of_silent (silent_desktopMatchesOwnedState _ _) world).weaken_post ?_
      rintro (error | desktopMatching) world rfl
      · trivial
      rw [followedBy_ok]
      split
      · rw [ensures_bind]
        refine (contract_restoreDesktop valid stored).weaken_post ?_
        rintro outcome middle ⟨only, desktopRestored, rfl, desktopDone⟩
        have held : middle.store = some (.saved payload) := only.store.trans stored
        rw [followedBy_ok, ensures_bind]
        refine (contract_restoreProfiles valid held
          (fun entry member => (List.mem_filter.mp member).1) _).weaken_post ?_
        rintro outcome last ⟨restores, profilesRestored, rfl, profilesDone⟩
        rw [followedBy_ok]
        split
        · rename_i both
          rw [Bool.and_eq_true] at both
          refine contract_clearStore (restores.store.trans held) ⟨fun entry member => ?_,
            fun saved stored => ?_⟩ trivial trivial
          · by_cases here : (world.profiles entry.1).isSome = true
            · refine profilesDone both.2 entry (List.mem_filter.mpr ⟨member, ?_⟩)
              rw [listedTypes_isSome]
              exact here
            · refine restores.kept entry member fun profile found => ?_
              rw [only.profiles] at found
              simp [found] at here
          · rw [restores.desktop]
            exact desktopDone both.1 saved stored
        · trivial
      · trivial
    · trivial
  · trivial

inductive Call where
  | enable (config : ProxyBackendConfig)
  | disable

def Call.program (platform : Platform) : Call → Proc Bool
  | .enable config => Linux.enable platform config
  | .disable => Linux.disable platform

/-- An enable that takes evidence finds and applies addresses that are spelled alike by `gsettings`
and `repr`. -/
def Call.Permitted (platform : Platform) : Call → World → Prop
  | .enable config, world => world.store = none → ∀ client canonical,
      platform.desktop = some client → canonicalConfig platform.py config = some canonical →
      Spelled client world.desktop.autoconfigUrl canonical.pacUrl
  | .disable, _ => True

/-- What others may do while no operation runs: an owned profile may be removed, and what
is not owned may change in any way. -/
structure Foreign (world world' : World) : Prop where
  store : world'.store = world.store
  profiles : ∀ evidence, world.store = some (.saved evidence) →
    ∀ entry ∈ evidence.connections,
      world'.profiles entry.1 = world.profiles entry.1 ∨ world'.profiles entry.1 = none
  desktop : ∀ evidence, world.store = some (.saved evidence) → world'.desktop = world.desktop

/-- Any number of calls, each stopped anywhere, in which any read or command can fail. -/
def Reaches (platform : Platform) (allowed : Call → World → Prop) :
    Session World Query Command LinuxError Bool →
    Session World Query Command LinuxError Bool → Prop :=
  Session.Reaches (.faulty effect) (Call.program platform) allowed Foreign

theorem Foreign.accepted {world' : World} (foreign : Foreign world world')
    (accepted : Accepted platform world) : Accepted platform world' := by
  rcases accepted with missing | ⟨evidence, stored, valid, owned⟩
  · exact .inl (foreign.store.trans missing)
  · have before {entry : String × Snapshot} {profile : Profile}
        (member : entry ∈ evidence.connections) (found : world'.profiles entry.1 = some profile) :
        world.profiles entry.1 = some profile := by
      rcases foreign.profiles evidence stored entry member with same | gone
      · exact same.symm.trans found
      · rw [gone] at found
        cases found
    have same := foreign.desktop evidence stored
    refine .inr ⟨evidence, foreign.store.trans stored, valid,
      fun entry member profile found => ?_, fun entry member profile found => ?_,
      fun saved stored => ?_, fun saved stored => ?_⟩
    · exact owned.connectionType entry member profile (before member found)
    · exact owned.proxy entry member profile (before member found)
    · rw [same]
      exact owned.mode saved stored
    · rw [same]
      exact owned.autoconfigUrl saved stored

theorem safe_reaches {original : World} (fresh : original.store = none)
    {session : Session World Query Command LinuxError Bool}
    (reaches : Reaches platform (Call.Permitted platform) ⟨none, original⟩ session) :
    Session.Safe (.faulty effect) (Sound platform) (Accepted platform) session := by
  have safe : Session.Safe (.faulty effect) (Sound platform) (Accepted platform)
      (⟨none, original⟩ : Session World Query Command LinuxError Bool) := .idle (.inl fresh)
  have calls (call : Call) (state : World) (permitted : call.Permitted platform state)
      (accepted : Accepted platform state) :
      (call.program platform).Ensures (.faulty effect) (Sound platform) (fun _ _ => True)
        state := by
    cases call with
    | enable config => exact contract_enable config state permitted
    | disable => exact contract_disable accepted
  exact safe.reaches calls (fun _ _ sound accepted => sound.accepted accepted)
    (fun _ _ foreign accepted => foreign.accepted accepted) reaches

/-- Wherever the operations of a session with permitted calls are stopped, a disable accepts the
state, restores every owned value that is still there, removes the evidence and returns `True`;
without evidence it has nothing to do.  Every command of the session is sound: evidence has the
values of the state in which it is written, and it is removed when everything is restored. -/
theorem interrupted_restore (platform : Platform) (original : World)
    (fresh : original.store = none) (left : Option (Proc Bool)) (world : World)
    (reaches : Reaches platform (Call.Permitted platform) ⟨none, original⟩ ⟨left, world⟩) :
    (world.store = none ∧ (disable platform).exec effect world = (.ok true, world) ∨
      ∃ evidence, world.store = some (.saved evidence) ∧
        ((profilesMatchOwnedState platform evidence.appliedConfig (listedTypes platform world)
          true evidence.connections).exec effect world).1 = .ok true ∧
        ((desktopMatchesOwnedState platform evidence true).exec effect world).1 = .ok true ∧
        ∃ last, (disable platform).exec effect world = (.ok true, last) ∧
          RestoredFrom evidence world last) ∧
    ∀ command next, left = some (.issue command next) → Sound platform command world := by
  have safe := safe_reaches fresh reaches
  refine ⟨?_, fun command next running => (safe.running _ running).1⟩
  rcases safe.state with missing | ⟨evidence, stored, valid, owned⟩
  · exact .inl ⟨missing, exec_disable_none missing⟩
  · refine .inr ⟨evidence, stored, ?_, ?_, exec_disable valid stored owned⟩
    · rw [exec_profilesMatchOwnedState owned fun _ member => member]
    · rw [exec_desktopMatchesOwnedState valid owned]

/-- The library functions as they are on the values below. -/
def samplePlatform : Platform where
  py := { lower := id, urlsplit := fun _ => .error "" }
  printable _ := true
  desktop := some .gsettings
  parseText := GVariant.readText
  lower_lower _ := rfl
  parses _ _ := GVariant.readText_eq

def sampleConfig : ProxyBackendConfig where
  pacUrl := "http://127.0.0.1:8082/proxy.pac"
  httpProxyUrl := "http://127.0.0.1:8080"

/-- One wired profile, and a desktop with a manual proxy. -/
def sampleWorld : World where
  profiles uuid :=
    if uuid = "wired" then some ⟨"802-3-ethernet", some ⟨.none, false, "", ""⟩⟩ else none
  active := [⟨"wired", "eth0"⟩]
  desktop := ⟨some .manual, "http://intranet.test/proxy.pac"⟩
  store := none

theorem sample_canonicalizes : canonicalConfig samplePlatform.py sampleConfig =
    some ⟨"http://127.0.0.1:8082/proxy.pac", "http://127.0.0.1:8080", []⟩ := by
  decide

/-- An enable that is stopped between the two desktop keys. -/
theorem interrupted_restore_sample :
    ∃ last, (disable samplePlatform).exec effect
      ((Call.program samplePlatform (.enable sampleConfig)).stopAfter effect 4 sampleWorld) =
        (.ok true, last) := by
  obtain ⟨left, run⟩ := stops_stopAfter (.faulty effect) (fun _ => trivial) (fun _ => trivial)
    (Call.program samplePlatform (.enable sampleConfig)) 4 sampleWorld
  have permitted : Call.Permitted samplePlatform (.enable sampleConfig) sampleWorld := by
    intro _ client canonical _ canonicalizes _
    obtain rfl := Option.some.inj (sample_canonicalizes.symm.trans canonicalizes)
    exact ⟨by decide +kernel, .inl (by decide +kernel)⟩
  have reaches : Reaches samplePlatform (Call.Permitted samplePlatform) ⟨none, sampleWorld⟩
      ⟨some left, _⟩ := .head (.start (.enable sampleConfig) sampleWorld permitted)
    (Session.reaches_of_run run)
  rcases (interrupted_restore samplePlatform sampleWorld rfl _ _ reaches).1 with
    ⟨-, result⟩ | ⟨_, -, -, -, last, result, -⟩
  · exact ⟨_, result⟩
  · exact ⟨last, result⟩

/-- A desktop whose address has a no-break space. -/
def spacedWorld : World :=
  { sampleWorld with desktop := ⟨some .manual, "http://intranet.test/proxy\u00a0.pac"⟩ }

/-- After an enable that has finished, the address cannot be written back. -/
theorem spaced_address_not_restored :
    ¬ ∀ (platform : Platform) (original : World), original.store = none →
      ∀ left world, Reaches platform Session.Always ⟨none, original⟩ ⟨left, world⟩ →
        world.store = none ∨ ∃ evidence last, world.store = some (.saved evidence) ∧
          (disable platform).exec effect world = (.ok true, last) ∧
          RestoredFrom evidence world last := by
  intro claimed
  have finishes := finishes_exec (.faulty effect) (fun _ => trivial) (fun _ => trivial)
    (Call.program samplePlatform (.enable sampleConfig)) spacedWorld
  have reaches : Reaches samplePlatform Session.Always ⟨none, spacedWorld⟩ ⟨some _, _⟩ :=
    .head (.start (Call.enable sampleConfig) spacedWorld Session.always)
      (Session.reaches_of_run finishes)
  rcases claimed samplePlatform spacedWorld rfl _ _ reaches with
    missing | ⟨evidence, last, -, returns, -⟩
  · have kept : ((enable samplePlatform sampleConfig).exec effect spacedWorld).2.store.isSome =
        true := by decide +kernel
    rw [Option.isSome_iff_ne_none] at kept
    exact kept missing
  · have refused : ((disable samplePlatform).exec effect
        ((enable samplePlatform sampleConfig).exec effect spacedWorld).2).1 = .ok false := by
      decide +kernel
    have same := (congrArg Prod.fst returns).symm.trans refused
    cases same

example : (((enable samplePlatform sampleConfig).exec effect sampleWorld).2.profiles "wired").map
    Profile.proxy = some (some ⟨.auto, false, "http://127.0.0.1:8082/proxy.pac", ""⟩) := by
  decide

end ProxyLauncher.Linux
