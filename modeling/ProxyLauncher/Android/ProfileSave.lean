import ProxyLauncher.Android.SecureProfileStore

/-!
# Interrupted saves of a profile

The password of a profile and the rest of it are written by two commits.  Between them the store
has the new password with the old profile.
-/

namespace ProxyLauncher.Android

open ProxyLauncher.Interruption

variable {keystore : Keystore} {prefs prefs' last : Preferences} {profile : ProxyProfile}
  {password : Option String} {makeActive : Bool} {id : String}

/-- `loadProfile` in a process that finds the preferences. -/
def load (keystore : Keystore) (prefs : Preferences) (id : String) :
    Except String (Option ResolvedProxyProfile) :=
  ((loadProfile keystore id).exec commit prefs).1

/-- The profile that a save is about. -/
def saved (profile : ProxyProfile) (password : Option String) : ProxyProfile :=
  { profile with passwordRef := password.map fun _ => credentialRef profile.id }

/-- A load returns what it returned before or the new profile, and does not begin to fail. -/
structure WholeLoad (before after : Except String (Option ResolvedProxyProfile))
    (new : ResolvedProxyProfile) : Prop where
  whole : ∀ loaded, after = .ok loaded → before = .ok loaded ∨ loaded = some new
  loadable : ∀ loaded, before = .ok (some loaded) → ∃ loaded', after = .ok (some loaded')

/-- Wherever the save is interrupted, the store has the whole old or the whole new profile. -/
def AtomicSave (keystore : Keystore) (prefs : Preferences) (profile : ProxyProfile)
    (password : Option String) (makeActive : Bool) : Prop :=
  ∀ last, (saveProfile keystore profile password makeActive).Stops (.faultyCommands commit)
    prefs last →
      WholeLoad (load keystore prefs profile.id) (load keystore last profile.id)
        ⟨saved profile password, password⟩

/-- The index of the profiles is there or can be made. -/
def Indexable (prefs : Preferences) : Prop :=
  prefs keyProfileIds ≠ none ∨ ∃ ids, legacyIds prefs = .ok ids

/-- The password of no other profile than the new one is replaced or cleared. -/
def SafeSave (keystore : Keystore) (prefs : Preferences) (profile : ProxyProfile) :
    Option String → Prop
  | some password => ∀ stored, loadProfileMetadata prefs profile.id = .ok (some stored) →
      stored.passwordRef = none ∨ keystore.encrypt password = none ∨
        load keystore prefs profile.id = .ok (some ⟨stored, some password⟩) ∨
          stored = saved profile (some password)
  | none => ∀ stored, loadProfileMetadata prefs profile.id = .ok (some stored) →
      stored.passwordRef = none ∨
        ∀ loaded, load keystore prefs profile.id ≠ .ok (some loaded)

theorem profileKey_inj {field field' : String} :
    profileKey id field = profileKey id field' ↔ field = field' := by
  refine ⟨fun same => ?_, congrArg _⟩
  have chars := congrArg String.toList same
  simp only [profileKey, String.toList_append, List.append_cancel_left_eq] at chars
  exact String.toList_inj.mp chars

theorem secretKey_ne_profileKey {id' field : String} : secretKey id ≠ profileKey id' field := by
  intro same
  have chars := congrArg String.toList same
  simp [secretKey, profileKey] at chars

theorem keyProfileIds_ne_profileKey {field : String} : keyProfileIds ≠ profileKey id field := by
  intro same
  have chars := congrArg String.toList same
  simp [keyProfileIds, profileKey] at chars

theorem keyProfileIds_ne_secretKey : keyProfileIds ≠ secretKey id := by
  intro same
  have chars := congrArg String.toList same
  simp [keyProfileIds, secretKey] at chars

theorem activeKeys_ne {key : String} (member : key = keyActiveId ∨ key = keyAutoSelection) :
    key ≠ secretKey id ∧ ∀ field, key ≠ profileKey id field := by
  rcases member with rfl | rfl
  · refine ⟨fun same => ?_, fun field same => ?_⟩ <;>
      simpa [keyActiveId, secretKey, profileKey] using congrArg String.toList same
  · refine ⟨fun same => ?_, fun field same => ?_⟩ <;>
      simpa [keyAutoSelection, secretKey, profileKey] using congrArg String.toList same

theorem commit_of_forall_ne {edits : List PreferenceEdit} {key : String}
    (other : ∀ edit ∈ edits, edit.key ≠ key) : commit edits prefs key = prefs key := by
  induction edits generalizing prefs with
  | nil => rfl
  | cons edit edits ih =>
      have rest := @ih (edit.apply prefs) fun edit' member =>
        other edit' (List.mem_cons_of_mem _ member)
      have first : key ≠ edit.key := (other edit List.mem_cons_self).symm
      exact rest.trans (Function.update_of_ne first _ _)

theorem commit_of_mem {edits : List PreferenceEdit} {edit : PreferenceEdit}
    (distinct : (edits.map PreferenceEdit.key).Nodup) (member : edit ∈ edits) :
    commit edits prefs edit.key = edit.value := by
  induction edits generalizing prefs with
  | nil => exact absurd member List.not_mem_nil
  | cons first edits ih =>
      obtain ⟨fresh, distinct⟩ := List.nodup_cons.mp distinct
      rcases List.mem_cons.mp member with rfl | later
      · have others : ∀ other ∈ edits, other.key ≠ edit.key := by
          intro other there same
          exact fresh (List.mem_map.mpr ⟨other, there, same⟩)
        exact (@commit_of_forall_ne (edit.apply prefs) _ _ others).trans (Function.update_self _ _ _)
      · exact ih distinct later

theorem loadProfileMetadata_congr
    (same : ∀ field, prefs' (profileKey id field) = prefs (profileKey id field)) :
    loadProfileMetadata prefs' id = loadProfileMetadata prefs id := by
  simp only [loadProfileMetadata, storedType, Preferences.getString, Preferences.getInt, same]

theorem storedPassword_congr (same : prefs' (secretKey id) = prefs (secretKey id)) :
    storedPassword keystore prefs' id profile = storedPassword keystore prefs id profile := by
  simp only [storedPassword, Preferences.getString, same]

theorem resolveProfile_congr
    (profiles : ∀ field, prefs' (profileKey id field) = prefs (profileKey id field))
    (secret : prefs' (secretKey id) = prefs (secretKey id)) :
    resolveProfile keystore prefs' id = resolveProfile keystore prefs id := by
  simp only [resolveProfile, loadProfileMetadata_congr profiles, storedPassword_congr secret]

/-- The preferences with an index, when one is there or can be made. -/
def initialised (prefs : Preferences) : Except String Preferences :=
  if (prefs keyProfileIds).isSome then .ok prefs
  else (legacyIds prefs).map fun ids => commit [.put keyProfileIds (.stringSet ids)] prefs

theorem indexable_iff : Indexable prefs ↔ ∃ indexed, initialised prefs = .ok indexed := by
  rw [Indexable, initialised]
  cases there : prefs keyProfileIds with
  | some value => simp
  | none =>
      cases ids : legacyIds prefs with
      | error thrown => simp [Except.map]
      | ok ids => simp [Except.map]

theorem initialised_apply {indexed : Preferences} {key : String}
    (done : initialised prefs = .ok indexed) (other : key ≠ keyProfileIds) :
    indexed key = prefs key := by
  unfold initialised at done
  split at done
  · rw [← Except.ok.inj done]
  · cases ids : legacyIds prefs with
    | error thrown => simp [ids, Except.map] at done
    | ok ids' =>
        rw [ids] at done
        obtain rfl := Except.ok.inj done
        exact commit_of_forall_ne (by simpa using Ne.symm other)

theorem initialised_index {indexed : Preferences} (done : initialised prefs = .ok indexed) :
    (indexed keyProfileIds).isSome = true := by
  unfold initialised at done
  split at done
  · rename_i there
    rwa [← Except.ok.inj done]
  · cases ids : legacyIds prefs with
    | error thrown => simp [ids, Except.map] at done
    | ok ids' =>
        rw [ids] at done
        obtain rfl := Except.ok.inj done
        simp [commit, PreferenceEdit.apply]

theorem exec_lookup {α : Type} (view : Preferences → Except String α) :
    (lookup view).exec commit prefs = (view prefs, prefs) := rfl

theorem exec_ensureLegacyProfileIndexed :
    ensureLegacyProfileIndexed.exec commit prefs =
      match initialised prefs with
      | .ok indexed => (.ok (), indexed)
      | .error thrown => (.error thrown, prefs) := by
  rw [ensureLegacyProfileIndexed, Program.exec_bind, exec_lookup, initialised]
  dsimp only
  split
  · rfl
  · rw [Program.exec_bind, exec_lookup]
    cases legacyIds prefs <;> rfl

theorem load_of_initialised {indexed : Preferences} (done : initialised prefs = .ok indexed) :
    load keystore prefs id = resolveProfile keystore prefs id := by
  rw [load, loadProfile, Program.exec_bind, exec_ensureLegacyProfileIndexed, done]
  dsimp only
  rw [exec_lookup]
  exact resolveProfile_congr
    (fun field => initialised_apply done keyProfileIds_ne_profileKey.symm)
    (initialised_apply done keyProfileIds_ne_secretKey.symm)

theorem load_of_indexed (there : (prefs keyProfileIds).isSome = true) :
    load keystore prefs id = resolveProfile keystore prefs id :=
  load_of_initialised (if_pos there)

/-- The edits of the first commit; there are none when the password cannot be encrypted. -/
def secretEdits (keystore : Keystore) (id : String) : Option String → Option (List PreferenceEdit)
  | some password => (keystore.encrypt password).map fun encoded =>
      [.put (secretKey id) (.string encoded)]
  | none => some [.remove (secretKey id)]

/-- The states in which a save can be interrupted. -/
inductive Between (keystore : Keystore) (prefs : Preferences) (profile : ProxyProfile)
    (password : Option String) (makeActive : Bool) : Preferences → Prop where
  | start : Between keystore prefs profile password makeActive prefs
  | indexed {indexed : Preferences} :
      initialised prefs = .ok indexed → Between keystore prefs profile password makeActive indexed
  | secret {indexed : Preferences} {edits : List PreferenceEdit} :
      initialised prefs = .ok indexed → secretEdits keystore profile.id password = some edits →
        Between keystore prefs profile password makeActive (commit edits indexed)
  | done {indexed : Preferences} {edits : List PreferenceEdit} (ids : List String) :
      initialised prefs = .ok indexed → secretEdits keystore profile.id password = some edits →
        Between keystore prefs profile password makeActive
          (commit (profileEdits profile (saved profile password).passwordRef ids makeActive)
            (commit edits indexed))

theorem ensures_lookup {α : Type} {guarantee : List PreferenceEdit → Preferences → Prop}
    {post : Except String α → Preferences → Prop} (view : Preferences → Except String α) :
    (lookup view).Ensures (.faultyCommands commit) guarantee post prefs ↔
      post (view prefs) prefs := by
  simp [lookup]

theorem ensures_ensureLegacyProfileIndexed :
    ensureLegacyProfileIndexed.Ensures (.faultyCommands commit)
      (fun edits state => initialised prefs = .ok (commit edits state))
      (fun outcome state => outcome = .ok () → initialised prefs = .ok state) prefs := by
  rw [ensureLegacyProfileIndexed, Program.ensures_bind, ensures_lookup, Program.followedBy_ok]
  split
  · rename_i there
    exact fun _ => if_pos there
  · rename_i absent
    rw [Program.ensures_bind, ensures_lookup]
    cases found : legacyIds prefs with
    | error thrown =>
        rw [Program.followedBy_error]
        exact fun impossible => absurd impossible (by simp)
    | ok ids =>
        have done : initialised prefs = .ok (commit [.put keyProfileIds (.stringSet ids)] prefs) := by
          rw [initialised, if_neg absent, found]
          rfl
        rw [Program.followedBy_ok]
        simp [done]

theorem ensures_saveSecret {indexed : Preferences} (done : initialised prefs = .ok indexed) :
    (saveSecret keystore profile.id password).Ensures (.faultyCommands commit)
      (fun edits state => Between keystore prefs profile password makeActive (commit edits state))
      (fun outcome state => ∀ passwordRef, outcome = .ok passwordRef →
        passwordRef = (saved profile password).passwordRef ∧
          ∃ edits, secretEdits keystore profile.id password = some edits ∧
            state = commit edits indexed) indexed := by
  cases password with
  | none =>
      have between := @Between.secret keystore prefs profile none makeActive _ _ done rfl
      simp only [saveSecret]
      simp [between, saved, secretEdits]
  | some password =>
      simp only [saveSecret]
      cases encrypted : keystore.encrypt password with
      | none => simp
      | some encoded =>
          have edits : secretEdits keystore profile.id (some password) =
              some [.put (secretKey profile.id) (.string encoded)] := by
            simp [secretEdits, encrypted]
          have between := @Between.secret keystore prefs profile (some password) makeActive _ _
            done edits
          simp [between, saved, edits]

/-- A save is interrupted in one of its four states. -/
theorem between_of_stops
    (stops : (saveProfile keystore profile password makeActive).Stops (.faultyCommands commit)
      prefs last) : Between keystore prefs profile password makeActive last := by
  have ensures : (saveProfile keystore profile password makeActive).Ensures
      (.faultyCommands commit) (fun edits state =>
        Between keystore prefs profile password makeActive (commit edits state))
      (fun _ _ => True) prefs := by
    rw [saveProfile]
    refine (ensures_ensureLegacyProfileIndexed.mono (fun edits state made => .indexed made)
      fun _ _ holds => holds).bind ?_ (fun _ _ _ => trivial)
    intro _ indexed made
    have done := made rfl
    refine (ensures_saveSecret done).bind ?_ (fun _ _ _ => trivial)
    intro passwordRef state written
    obtain ⟨rfl, edits, secret, rfl⟩ := written passwordRef rfl
    rw [Program.ensures_bind, ensures_lookup]
    cases profileIds (commit edits indexed) with
    | error thrown => trivial
    | ok ids =>
        rw [Program.followedBy_ok]
        simp only [Program.ensures_perform]
        exact ⟨.done ids done secret, fun _ => trivial, fun _ => trivial⟩
  exact ensures.stops_effect .start stops

/-- A save can be interrupted after its first commit. -/
theorem stops_after_secret {indexed : Preferences} {edits : List PreferenceEdit}
    (done : initialised prefs = .ok indexed)
    (secret : secretEdits keystore profile.id password = some edits) :
    (saveProfile keystore profile password makeActive).Stops (.faultyCommands commit) prefs
      (commit edits indexed) := by
  have index : ensureLegacyProfileIndexed.exec commit prefs = (.ok (), indexed) := by
    rw [exec_ensureLegacyProfileIndexed, done]
  have written : (saveSecret keystore profile.id password).exec commit indexed =
      (.ok (saved profile password).passwordRef, commit edits indexed) := by
    cases password with
    | none =>
        obtain rfl := Option.some.inj secret
        rfl
    | some password =>
        cases encrypted : keystore.encrypt password with
        | none => simp [secretEdits, encrypted] at secret
        | some encoded =>
            rw [secretEdits, encrypted] at secret
            obtain rfl := Option.some.inj secret
            rw [saveSecret, encrypted]
            rfl
  refine Program.stops_bind_of_exec (fun _ => rfl) (fun _ => trivial) index ?_
  exact Program.stops_bind_of_exec (fun _ => rfl) (fun _ => trivial) written (.refl _ _ _)

section Loads

variable {indexed : Preferences} {edits : List PreferenceEdit} {stored : ProxyProfile}

theorem commit_secretEdits {key : String}
    (secret : secretEdits keystore id password = some edits) (other : key ≠ secretKey id) :
    commit edits prefs key = prefs key := by
  refine commit_of_forall_ne ?_
  cases password with
  | none =>
      obtain rfl := Option.some.inj secret
      simpa using other.symm
  | some password =>
      obtain ⟨encoded, -, rfl⟩ := Option.map_eq_some_iff.mp secret
      simpa using other.symm

theorem resolveProfile_of_metadata
    (metadata : loadProfileMetadata prefs id = .ok (some stored)) :
    resolveProfile keystore prefs id =
      (storedPassword keystore prefs id stored).map fun password => some ⟨stored, password⟩ := by
  rw [resolveProfile, metadata]

/-- After the first commit the old profile has the new password. -/
theorem storedPassword_after_secret (faithful : keystore.Faithful)
    (secret : secretEdits keystore id password = some edits) (stored : ProxyProfile) :
    storedPassword keystore (commit edits prefs) id stored =
      if stored.passwordRef = none then .ok none
      else
        match password with
        | some password => .ok (some password)
        | none => .error "Encrypted password is missing" := by
  rw [storedPassword]
  split
  · rfl
  · cases password with
    | none =>
        obtain rfl := Option.some.inj secret
        simp [Preferences.getString, commit, PreferenceEdit.apply]
    | some password =>
        obtain ⟨encoded, encrypted, rfl⟩ := Option.map_eq_some_iff.mp secret
        simp [Preferences.getString, commit, PreferenceEdit.apply,
          faithful password encoded encrypted]

theorem load_after_secret (keystore : Keystore) (done : initialised prefs = .ok indexed)
    (secret : secretEdits keystore id password = some edits) :
    load keystore (commit edits indexed) id = resolveProfile keystore (commit edits indexed) id ∧
      loadProfileMetadata (commit edits indexed) id = loadProfileMetadata prefs id := by
  constructor
  · refine load_of_indexed ?_
    rw [commit_secretEdits secret keyProfileIds_ne_secretKey]
    exact initialised_index done
  · refine loadProfileMetadata_congr fun field => ?_
    rw [commit_secretEdits secret secretKey_ne_profileKey.symm]
    exact initialised_apply done keyProfileIds_ne_profileKey.symm

theorem nodup_profileEdits (profile : ProxyProfile) (passwordRef : Option String)
    (ids : List String) (makeActive : Bool) :
    ((profileEdits profile passwordRef ids makeActive).map PreferenceEdit.key).Nodup := by
  have active {key : String} (member : key = keyActiveId ∨ key = keyAutoSelection)
      (field : String) : profileKey profile.id field ≠ key :=
    ((@activeKeys_ne profile.id _ member).2 field).symm
  have index : keyProfileIds ≠ keyActiveId ∧ keyProfileIds ≠ keyAutoSelection ∧
      keyActiveId ≠ keyAutoSelection := by
    decide
  cases makeActive <;>
    simp [profileEdits, profileKey_inj, keyProfileIds_ne_profileKey, active,
      index]

theorem secretKey_notMem_profileEdits (profile : ProxyProfile) (passwordRef : Option String)
    (ids : List String) (makeActive : Bool) :
    secretKey profile.id ∉
      (profileEdits profile passwordRef ids makeActive).map PreferenceEdit.key := by
  have other {field : String} := @secretKey_ne_profileKey profile.id profile.id field
  have active {key : String} (member : key = keyActiveId ∨ key = keyAutoSelection) :
      secretKey profile.id ≠ key := (activeKeys_ne member).1.symm
  cases makeActive <;>
    simp [profileEdits, other, active, keyProfileIds_ne_secretKey.symm]

theorem profileEdits_apply {profile : ProxyProfile} {passwordRef : Option String}
    {ids : List String} {makeActive : Bool} {edit : PreferenceEdit}
    (member : edit ∈ profileEdits profile passwordRef ids makeActive) :
    commit (profileEdits profile passwordRef ids makeActive) prefs edit.key = edit.value :=
  commit_of_mem (nodup_profileEdits profile passwordRef ids makeActive) member

theorem getString_of_eq {key : String} {text : Option String}
    (there : prefs key = text.map .string) : prefs.getString key none = .ok text := by
  rw [Preferences.getString, there]
  cases text <;> rfl

theorem getString_of_some {key text : String} (fallback : Option String)
    (there : prefs key = some (.string text)) :
    prefs.getString key fallback = .ok (some text) := by
  rw [Preferences.getString, there]

theorem loadProfileMetadata_saved (profile : ProxyProfile) (passwordRef : Option String)
    (ids : List String) (makeActive : Bool) (prefs : Preferences) :
    loadProfileMetadata (commit (profileEdits profile passwordRef ids makeActive) prefs)
      profile.id = .ok (some { profile with passwordRef := passwordRef }) := by
  set last := commit (profileEdits profile passwordRef ids makeActive) prefs with shape
  have entry (edit : PreferenceEdit)
      (member : edit ∈ profileEdits profile passwordRef ids makeActive) :
      last edit.key = edit.value := profileEdits_apply member
  have name : last (profileKey profile.id "name") = some (.string profile.name) :=
    entry (.put (profileKey profile.id "name") (.string profile.name)) (by simp [profileEdits])
  have host : last (profileKey profile.id "host") = some (.string profile.host) :=
    entry (.put (profileKey profile.id "host") (.string profile.host)) (by simp [profileEdits])
  have port : last (profileKey profile.id "port") = some (.int profile.port) :=
    entry (.put (profileKey profile.id "port") (.int profile.port)) (by simp [profileEdits])
  have type : last (profileKey profile.id "type") = some (.string profile.type.name) :=
    entry (.put (profileKey profile.id "type") (.string profile.type.name))
      (by simp [profileEdits])
  have username : last (profileKey profile.id "username") = profile.username.map .string := by
    have there := entry (.putString (profileKey profile.id "username") profile.username)
      (by simp [profileEdits])
    rwa [PreferenceEdit.key_putString, PreferenceEdit.value_putString] at there
  have reference : last (profileKey profile.id "password_ref") = passwordRef.map .string := by
    have there := entry (.putString (profileKey profile.id "password_ref") passwordRef)
      (by simp [profileEdits])
    rwa [PreferenceEdit.key_putString, PreferenceEdit.value_putString] at there
  have number : last.getInt (profileKey profile.id "port") (-1) = .ok profile.port := by
    rw [Preferences.getInt, port]
  have kind : storedType last profile.id = profile.type := by
    rw [storedType, getString_of_some _ type]
    simp
  rw [loadProfileMetadata, getString_of_some none host, number]
  dsimp only
  rw [dif_pos profile.port_range, getString_of_some _ name, getString_of_eq username,
    getString_of_eq reference]
  simp only [bind, Except.bind, dif_pos profile.host_notBlank, kind, Option.getD_some]

theorem load_after_save (faithful : keystore.Faithful)
    (secret : secretEdits keystore profile.id password = some edits) (ids : List String) :
    load keystore (commit (profileEdits profile (saved profile password).passwordRef ids
      makeActive) (commit edits indexed)) profile.id =
        .ok (some ⟨saved profile password, password⟩) := by
  set last := commit (profileEdits profile (saved profile password).passwordRef ids makeActive)
    (commit edits indexed) with shape
  have index : (last keyProfileIds).isSome = true := by
    have there : last keyProfileIds = some (.stringSet
        (if profile.id ∈ ids then ids else ids ++ [profile.id])) :=
      profileEdits_apply (by simp [profileEdits] : (.put keyProfileIds (.stringSet
        (if profile.id ∈ ids then ids else ids ++ [profile.id]))) ∈
          profileEdits profile (saved profile password).passwordRef ids makeActive)
    rw [there]
    rfl
  have kept : last (secretKey profile.id) = commit edits indexed (secretKey profile.id) := by
    refine commit_of_forall_ne fun edit member same => ?_
    exact secretKey_notMem_profileEdits profile _ ids makeActive
      (List.mem_map.mpr ⟨edit, member, same⟩)
  have metadata : loadProfileMetadata last profile.id = .ok (some (saved profile password)) :=
    loadProfileMetadata_saved profile _ ids makeActive _
  rw [load_of_indexed index, resolveProfile_of_metadata metadata, storedPassword_congr kept,
    storedPassword_after_secret faithful secret]
  cases password with
  | none => rfl
  | some password => rfl

end Loads

theorem wholeLoad_refl (before : Except String (Option ResolvedProxyProfile))
    (new : ResolvedProxyProfile) : WholeLoad before before new :=
  ⟨fun _ returned => .inl returned, fun loaded returned => ⟨loaded, returned⟩⟩

theorem wholeLoad_new (before : Except String (Option ResolvedProxyProfile))
    (new : ResolvedProxyProfile) : WholeLoad before (.ok (some new)) new :=
  ⟨fun _ returned => .inr (Except.ok.inj returned).symm, fun _ _ => ⟨new, rfl⟩⟩

/-- The state between the two commits decides. -/
theorem atomicSave_iff_wholeLoad (faithful : keystore.Faithful) :
    AtomicSave keystore prefs profile password makeActive ↔
      ∀ indexed edits, initialised prefs = .ok indexed →
        secretEdits keystore profile.id password = some edits →
          WholeLoad (load keystore prefs profile.id)
            (load keystore (commit edits indexed) profile.id)
            ⟨saved profile password, password⟩ := by
  constructor
  · exact fun atomic indexed edits done secret => atomic _ (stops_after_secret done secret)
  · intro between last stops
    cases between_of_stops stops with
    | start => exact wholeLoad_refl _ _
    | indexed done =>
        have same : load keystore last profile.id = load keystore prefs profile.id := by
          rw [load_of_indexed (initialised_index done), load_of_initialised done]
          exact resolveProfile_congr
            (fun field => initialised_apply done keyProfileIds_ne_profileKey.symm)
            (initialised_apply done keyProfileIds_ne_secretKey.symm)
        rw [same]
        exact wholeLoad_refl _ _
    | secret done secret => exact between _ _ done secret
    | done ids done secret =>
        rw [load_after_save faithful secret ids]
        exact wholeLoad_new _ _

/-- The load between the two commits, by what is stored of the profile. -/
theorem load_between (faithful : keystore.Faithful) {indexed : Preferences}
    {edits : List PreferenceEdit} (done : initialised prefs = .ok indexed)
    (secret : secretEdits keystore profile.id password = some edits) {stored : ProxyProfile}
    (metadata : loadProfileMetadata prefs profile.id = .ok (some stored))
    (referenced : stored.passwordRef ≠ none) :
    load keystore (commit edits indexed) profile.id =
      match password with
      | some password => .ok (some ⟨stored, some password⟩)
      | none => .error "Encrypted password is missing" := by
  obtain ⟨loaded, same⟩ := load_after_secret keystore done secret
  rw [loaded, resolveProfile_of_metadata (same.trans metadata),
    storedPassword_after_secret faithful secret, if_neg referenced]
  cases password with
  | none => rfl
  | some password => rfl

/-- A load that does not depend on the password stays the same. -/
theorem load_between_of_no_reference {indexed : Preferences} {edits : List PreferenceEdit}
    (done : initialised prefs = .ok indexed)
    (secret : secretEdits keystore profile.id password = some edits)
    (none : ∀ stored, loadProfileMetadata prefs profile.id = .ok (some stored) →
      stored.passwordRef = none) :
    load keystore (commit edits indexed) profile.id = load keystore prefs profile.id := by
  obtain ⟨loaded, same⟩ := load_after_secret keystore done secret
  rw [loaded, load_of_initialised done, resolveProfile, resolveProfile, same]
  cases metadata : loadProfileMetadata prefs profile.id with
  | error thrown => rfl
  | ok found =>
      cases found with
      | none => rfl
      | some stored =>
          have unreferenced := none stored metadata
          simp only [storedPassword, if_pos unreferenced]

/-- Between the two commits the store has the new password with the old profile. -/
theorem save_atomic_iff (faithful : keystore.Faithful) :
    AtomicSave keystore prefs profile password makeActive ↔
      ¬ Indexable prefs ∨ SafeSave keystore prefs profile password := by
  rw [atomicSave_iff_wholeLoad faithful]
  by_cases indexable : Indexable prefs
  · obtain ⟨indexed, done⟩ := indexable_iff.mp indexable
    rw [or_iff_right (not_not_intro indexable)]
    by_cases none : ∀ stored, loadProfileMetadata prefs profile.id = .ok (some stored) →
        stored.passwordRef = none
    · refine iff_of_true (fun indexed edits done secret => ?_) ?_
      · rw [load_between_of_no_reference done secret none]
        exact wholeLoad_refl _ _
      · cases password with
        | none => exact fun stored metadata => .inl (none stored metadata)
        | some password => exact fun stored metadata => .inl (none stored metadata)
    · push Not at none
      obtain ⟨stored, metadata, referenced⟩ := none
      have only {other : ProxyProfile}
          (found : loadProfileMetadata prefs profile.id = .ok (some other)) : other = stored := by
        simpa using found.symm.trans metadata
      cases password with
      | none =>
          constructor
          · intro between other found
            obtain rfl := only found
            refine .inr fun loaded returned => ?_
            have cleared : secretEdits keystore profile.id none =
                some [.remove (secretKey profile.id)] := rfl
            obtain ⟨loaded', again⟩ := (between _ _ done cleared).loadable loaded returned
            rw [load_between faithful done cleared metadata referenced] at again
            exact absurd again (by simp)
          · intro safe indexed edits done secret
            have unloadable := (safe stored metadata).resolve_left referenced
            rw [load_between faithful done secret metadata referenced]
            exact ⟨fun loaded returned => absurd returned (by simp),
              fun loaded returned => absurd returned (unloadable loaded)⟩
      | some password =>
          cases encrypted : keystore.encrypt password with
          | none =>
              refine iff_of_true (fun indexed edits _ secret => ?_) ?_
              · simp [secretEdits, encrypted] at secret
              · exact fun other _ => .inr (.inl encrypted)
          | some encoded =>
              have secret : secretEdits keystore profile.id (some password) =
                  some [.put (secretKey profile.id) (.string encoded)] := by
                simp [secretEdits, encrypted]
              constructor
              · intro between other found
                obtain rfl := only found
                have whole := (between _ _ done secret).whole
                rw [load_between faithful done secret metadata referenced] at whole
                rcases whole _ rfl with old | new
                · exact .inr (.inr (.inl old))
                · exact .inr (.inr (.inr (ResolvedProxyProfile.mk.inj (Option.some.inj new)).1))
              · intro safe indexed edits done secret
                rw [load_between faithful done secret metadata referenced]
                have kept := ((safe stored metadata).resolve_left referenced).resolve_left
                  (by simp [encrypted])
                refine ⟨fun loaded returned => ?_, fun _ _ => ⟨_, rfl⟩⟩
                obtain rfl := Except.ok.inj returned
                rcases kept with old | rfl
                · exact .inl old
                · exact .inr rfl
  · refine iff_of_true (fun indexed edits done => ?_) (.inl indexable)
    exact absurd (indexable_iff.mpr ⟨indexed, done⟩) indexable

/-- A keystore that marks what it has encrypted. -/
def sampleKeystore : Keystore where
  encrypt password := some ("iv:" ++ password)
  decrypt encoded := if encoded.toList.take 3 = ['i', 'v', ':'] then
    some (.ofList (encoded.toList.drop 3)) else none

theorem sampleKeystore_faithful : sampleKeystore.Faithful := by
  intro password encoded encrypted
  obtain rfl := Option.some.inj encrypted
  simp [sampleKeystore]

def sampleProfile (host : String) (visible : isBlank host = false) : ProxyProfile where
  id := "p"
  name := "Proxy"
  host := host
  port := 8080
  type := .http
  passwordRef := some (credentialRef "p")
  host_notBlank := visible
  port_range := by decide

def oldProfile : ProxyProfile := sampleProfile "old.example" (by decide)
def newProfile : ProxyProfile := sampleProfile "new.example" (by decide)

/-- The store after the old profile has been saved with its password. -/
def oldStore : Preferences :=
  ((saveProfile sampleKeystore oldProfile (some "old") true).exec commit fun _ => none).2

theorem oldStore_values :
    (oldStore keyProfileIds).isSome = true ∧
      loadProfileMetadata oldStore "p" = .ok (some oldProfile) ∧
        load sampleKeystore oldStore "p" = .ok (some ⟨oldProfile, some "old"⟩) := by
  decide

/-- A save of another host and password is stopped, and the old host gets the new password. -/
theorem save_mixes_profiles :
    ¬ AtomicSave sampleKeystore oldStore newProfile (some "new") true ∧
      ∃ last, (saveProfile sampleKeystore newProfile (some "new") true).Stops
          (.faultyCommands commit) oldStore last ∧
        load sampleKeystore last "p" = .ok (some ⟨oldProfile, some "new"⟩) := by
  obtain ⟨indexed, metadata, loaded⟩ := oldStore_values
  have done : initialised oldStore = .ok oldStore := if_pos indexed
  have secret : secretEdits sampleKeystore newProfile.id (some "new") =
      some [.put (secretKey "p") (.string "iv:new")] := by
    decide
  have stops := @stops_after_secret sampleKeystore oldStore newProfile (some "new") true _ _ done
    secret
  have mixed := load_between sampleKeystore_faithful done secret metadata
    (by simp [oldProfile, sampleProfile])
  refine ⟨fun atomic => ?_, _, stops, mixed⟩
  rcases (atomic _ stops).whole _ mixed with old | new
  · have same := loaded.symm.trans old
    simp at same
  · exact absurd new (by decide)

/-- `save_atomic_iff` for a save of another host with the same password. -/
theorem save_atomic_sample :
    AtomicSave sampleKeystore oldStore newProfile (some "old") true := by
  obtain ⟨-, metadata, loaded⟩ := oldStore_values
  refine (save_atomic_iff sampleKeystore_faithful).mpr (.inr fun stored found => ?_)
  have same : oldProfile = stored := by simpa using metadata.symm.trans found
  exact .inr (.inr (.inl (same ▸ loaded)))

end ProxyLauncher.Android
