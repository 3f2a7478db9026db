import Mathlib

/-!
# The stored profiles

The list of the profiles is stored apart from their organization and their measurements.  A list
that cannot be decoded stops the writers of the list, but not the writers of the rest.
-/

namespace ProxyLauncher.IOS

/-- The 16 bytes of a `UUID`, in the order of its text. -/
abbrev UUID : Type := BitVec 128

inductive ProxyType where
  | auto
  | https
  | http
  | socks5
deriving DecidableEq

structure ProxyProfile where
  id : UUID
  name : String
  host : String
  port : ℤ
  type : ProxyType
  username : Option String
deriving DecidableEq

structure ProfileOrganization where
  favorites : Finset UUID := ∅
  groups : AList fun _ : UUID => String := ∅

structure ProxyLatencySample where
  latencyMs : ℤ
  checkedAt : ℚ
deriving DecidableEq

structure ProxyQualitySnapshot where
  samples : AList fun _ : UUID => ProxyLatencySample := ∅

inductive ProfileStoreError where
  | noSharedDefaults
  | encodeFailed
  | corruptProfiles
  | keychain (status : ℤ)
deriving DecidableEq

/-- `filter { ids.contains($0.key) }`. -/
def keepKeys {Value : Type} (dictionary : AList fun _ : UUID => Value) (ids : List UUID) :
    AList fun _ : UUID => Value where
  entries := dictionary.entries.filter fun entry => decide (entry.1 ∈ ids)
  nodupKeys := dictionary.nodupKeys.sublist List.filter_sublist

@[simp] theorem keepKeys_nil {Value : Type} (dictionary : AList fun _ : UUID => Value) :
    keepKeys dictionary [] = ∅ := by
  refine AList.ext (List.filter_eq_nil_iff.mpr ?_)
  intro entry _
  simp

namespace ProfileOrganization

/-- `prune(keeping:)`. -/
def prune (organization : ProfileOrganization) (ids : List UUID) : ProfileOrganization where
  favorites := organization.favorites ∩ ids.toFinset
  groups := keepKeys organization.groups ids

@[simp] theorem prune_nil (organization : ProfileOrganization) : organization.prune [] = {} := by
  simp [prune]

end ProfileOrganization

namespace ProxyQualitySnapshot

/-- `prune(keeping:)`. -/
def prune (snapshot : ProxyQualitySnapshot) (ids : List UUID) : ProxyQualitySnapshot where
  samples := keepKeys snapshot.samples ids

@[simp] theorem prune_nil (snapshot : ProxyQualitySnapshot) : snapshot.prune [] = {} := by
  simp [prune]

end ProxyQualitySnapshot

/-- `JSONEncoder` and `JSONDecoder` for the values of a type.  What is encoded decodes to the
same value. -/
structure Codec (Data Value : Type) where
  encode : Value → Option Data
  decode : Data → Option Value
  decode_encode : ∀ value data, encode value = some data → decode data = some value

def errSecSuccess : ℤ := 0
def errSecItemNotFound : ℤ := -25300

/-- What the store uses of the system: the encodings, the comparison of names and the keychain,
where each call gives a status. -/
structure Foundation (Data Keychain : Type) where
  profiles : Codec Data (List ProxyProfile)
  organization : Codec Data ProfileOrganization
  quality : Codec Data ProxyQualitySnapshot
  encodes_organization : ∃ data, organization.encode {} = some data
  encodes_quality : ∃ data, quality.encode {} = some data
  localizedCaseInsensitiveCompare : String → String → Ordering
  secItemUpdate : UUID → String → Keychain → ℤ × Keychain
  secItemAdd : UUID → String → Keychain → ℤ × Keychain
  secItemDelete : UUID → Keychain → ℤ × Keychain

/-- The values in the defaults, and the keychain.  An identifier is missing when its text is not
one. -/
structure StoredProfiles (Data Keychain : Type) where
  profiles : Option Data := none
  organization : Option Data := none
  quality : Option Data := none
  storedSelectedProfileID : Option UUID := none
  automaticSelection : Bool := false
  storedPrimaryProfileID : Option UUID := none
  lastAutoProfileID : Option UUID := none
  recentlyFailedProfileID : Option UUID := none
  recentlyFailedAt : Option ℚ := none
  keychain : Keychain

namespace StoredProfiles

variable {Data Keychain : Type} (foundation : Foundation Data Keychain)
  (store : StoredProfiles Data Keychain)

/-- The order of `listProfiles`. -/
def precedes (first second : ProxyProfile) : Bool :=
  match foundation.localizedCaseInsensitiveCompare first.name second.name with
  | .eq => decide (first.id < second.id)
  | order => decide (order = .lt)

def listProfiles : List ProxyProfile :=
  match store.profiles.bind foundation.profiles.decode with
  | some profiles => profiles.insertionSort fun first second => !precedes foundation second first
  | none => []

def profileIDs : List UUID :=
  (store.listProfiles foundation).map ProxyProfile.id

/-- The organization in the store, for all the profiles that it names. -/
def storedOrganization : ProfileOrganization :=
  (store.organization.bind foundation.organization.decode).getD {}

/-- The measurements in the store, for all the profiles that they name. -/
def storedQuality : ProxyQualitySnapshot :=
  (store.quality.bind foundation.quality.decode).getD {}

/-- The getter of `profileOrganization`. -/
def profileOrganization : ProfileOrganization :=
  (store.storedOrganization foundation).prune (store.profileIDs foundation)

/-- The getter of `proxyQuality`. -/
def proxyQuality : ProxyQualitySnapshot :=
  (store.storedQuality foundation).prune (store.profileIDs foundation)

/-- The getter of `primaryProfileID`. -/
def primaryProfileID : Option UUID :=
  store.storedPrimaryProfileID <|> (store.profileIDs foundation).head?

/-- The setter of `profileOrganization`. -/
def setProfileOrganization (value : ProfileOrganization) : StoredProfiles Data Keychain :=
  match foundation.organization.encode (value.prune (store.profileIDs foundation)) with
  | some data => { store with organization := some data }
  | none => store

/-- The setter of `proxyQuality`. -/
def setProxyQuality (value : ProxyQualitySnapshot) : StoredProfiles Data Keychain :=
  match foundation.quality.encode (value.prune (store.profileIDs foundation)) with
  | some data => { store with quality := some data }
  | none => store

def profilesForMutation : Except ProfileStoreError (List ProxyProfile) :=
  match store.profiles with
  | none => .ok []
  | some bytes =>
      match foundation.profiles.decode bytes with
      | none => .error .corruptProfiles
      | some entries => .ok entries

/-- The status as the result of a call. -/
def checkStatus (status : ℤ) (allowed : List ℤ) : Except ProfileStoreError Unit :=
  if status ∈ allowed then .ok () else .error (.keychain status)

/-- `setPassword`. -/
def setPassword (password : Option String) (id : UUID) (keychain : Keychain) :
    Except ProfileStoreError Unit × Keychain :=
  match password.filter fun password => decide (password ≠ "") with
  | none =>
      let (status, keychain) := foundation.secItemDelete id keychain
      (checkStatus status [errSecSuccess, errSecItemNotFound], keychain)
  | some password =>
      let (status, keychain) := foundation.secItemUpdate id password keychain
      if status = errSecItemNotFound then
        let (status, keychain) := foundation.secItemAdd id password keychain
        (checkStatus status [errSecSuccess], keychain)
      else (checkStatus status [errSecSuccess], keychain)

/-- The profile in its place, or behind all the others. -/
def replaceProfile (profile : ProxyProfile) (profiles : List ProxyProfile) : List ProxyProfile :=
  match profiles.findIdx? fun other => decide (other.id = profile.id) with
  | some index => profiles.set index profile
  | none => profiles ++ [profile]

/-- What `save` does after the password has been set. -/
def saved (profile : ProxyProfile) (data : Data) (makeActive : Bool) :
    StoredProfiles Data Keychain :=
  let store := { store with profiles := some data }
  let store := if makeActive then
    { store with storedSelectedProfileID := some profile.id, automaticSelection := false }
    else store
  if store.primaryProfileID foundation = none then
    { store with storedPrimaryProfileID := some profile.id }
  else store

def save (profile : ProxyProfile) (password : Option String)
    (makeActive preservePasswordIfNil : Bool) :
    Except ProfileStoreError Unit × StoredProfiles Data Keychain :=
  match store.profilesForMutation foundation with
  | .error error => (.error error, store)
  | .ok profiles =>
      match foundation.profiles.encode (replaceProfile profile profiles) with
      | none => (.error .encodeFailed, store)
      | some data =>
          if preservePasswordIfNil ∧ password = none then
            (.ok (), store.saved foundation profile data makeActive)
          else
            match setPassword foundation password profile.id store.keychain with
            | (.error error, keychain) => (.error error, { store with keychain })
            | (.ok (), keychain) =>
                (.ok (), { store with keychain }.saved foundation profile data makeActive)

/-- What `delete` does after the password has been deleted. -/
def deleted (id : UUID) (remaining : List ProxyProfile) (data : Data) :
    StoredProfiles Data Keychain :=
  let ids := remaining.map ProxyProfile.id
  let store := { store with profiles := some data }
  let store := if store.storedSelectedProfileID = some id then
    { store with storedSelectedProfileID := ids.head? } else store
  let store := if store.primaryProfileID foundation = some id then
    { store with storedPrimaryProfileID := ids.head? } else store
  let store := if store.lastAutoProfileID = some id then
    { store with lastAutoProfileID := none } else store
  let store := if store.recentlyFailedProfileID = some id then
    { store with recentlyFailedProfileID := none, recentlyFailedAt := none } else store
  let store := store.setProfileOrganization foundation
    ((store.profileOrganization foundation).prune ids)
  store.setProxyQuality foundation ((store.proxyQuality foundation).prune ids)

def delete (id : UUID) : Except ProfileStoreError Unit × StoredProfiles Data Keychain :=
  match store.profilesForMutation foundation with
  | .error error => (.error error, store)
  | .ok profiles =>
      let remaining := profiles.filter fun profile => decide (profile.id ≠ id)
      match foundation.profiles.encode remaining with
      | none => (.error .encodeFailed, store)
      | some data =>
          let (status, keychain) := foundation.secItemDelete id store.keychain
          match checkStatus status [errSecSuccess, errSecItemNotFound] with
          | .error error => (.error error, { store with keychain })
          | .ok () => (.ok (), { store with keychain }.deleted foundation id remaining data)

/-- The operations that write profiles or their data. -/
inductive Operation where
  | save (profile : ProxyProfile) (password : Option String)
      (makeActive preservePasswordIfNil : Bool)
  | delete (id : UUID)
  | setProfileOrganization (value : ProfileOrganization)
  | setProxyQuality (value : ProxyQualitySnapshot)

/-- The store after an operation, whether it throws or not. -/
def perform : Operation → StoredProfiles Data Keychain
  | .save profile password makeActive preservePasswordIfNil =>
      (store.save foundation profile password makeActive preservePasswordIfNil).2
  | .delete id => (store.delete foundation id).2
  | .setProfileOrganization value => store.setProfileOrganization foundation value
  | .setProxyQuality value => store.setProxyQuality foundation value

def Undecodable : Prop :=
  ∃ bytes, store.profiles = some bytes ∧ foundation.profiles.decode bytes = none

/-- Nothing that the store has about a profile is removed or emptied, and the list is the same. -/
structure Kept (after : StoredProfiles Data Keychain) : Prop where
  profiles : after.profiles = store.profiles
  favorites : (store.storedOrganization foundation).favorites ⊆
    (after.storedOrganization foundation).favorites
  groups : ∀ id ∈ (store.storedOrganization foundation).groups,
    id ∈ (after.storedOrganization foundation).groups
  samples : ∀ id ∈ (store.storedQuality foundation).samples,
    id ∈ (after.storedQuality foundation).samples

/-- The operation is no assignment, or there is nothing stored of the kind that is assigned. -/
def Harmless : Operation → Prop
  | .save _ _ _ _ => True
  | .delete _ => True
  | .setProfileOrganization _ => store.storedOrganization foundation = {}
  | .setProxyQuality _ => store.storedQuality foundation = {}

variable {foundation} {store}

theorem Kept.refl : store.Kept foundation store where
  profiles := rfl
  favorites := Finset.Subset.refl _
  groups _ there := there
  samples _ there := there

theorem Undecodable.profilesForMutation (undecodable : store.Undecodable foundation) :
    store.profilesForMutation foundation = .error .corruptProfiles := by
  obtain ⟨bytes, stored, broken⟩ := undecodable
  rw [StoredProfiles.profilesForMutation, stored]
  dsimp only
  rw [broken]

theorem Undecodable.save (undecodable : store.Undecodable foundation) (profile : ProxyProfile)
    (password : Option String) (makeActive preservePasswordIfNil : Bool) :
    store.save foundation profile password makeActive preservePasswordIfNil =
      (.error .corruptProfiles, store) := by
  rw [StoredProfiles.save, undecodable.profilesForMutation]

theorem Undecodable.delete (undecodable : store.Undecodable foundation) (id : UUID) :
    store.delete foundation id = (.error .corruptProfiles, store) := by
  rw [StoredProfiles.delete, undecodable.profilesForMutation]

/-- For the readers the list is empty. -/
theorem Undecodable.profileIDs (undecodable : store.Undecodable foundation) :
    store.profileIDs foundation = [] := by
  obtain ⟨bytes, stored, broken⟩ := undecodable
  rw [StoredProfiles.profileIDs, listProfiles, stored, Option.bind_some, broken]
  rfl

theorem Undecodable.setProfileOrganization (undecodable : store.Undecodable foundation)
    (value : ProfileOrganization) :
    ∃ data, foundation.organization.decode data = some {} ∧
      store.setProfileOrganization foundation value = { store with organization := some data } := by
  obtain ⟨data, encoded⟩ := foundation.encodes_organization
  refine ⟨data, foundation.organization.decode_encode _ _ encoded, ?_⟩
  rw [StoredProfiles.setProfileOrganization, undecodable.profileIDs,
    ProfileOrganization.prune_nil, encoded]

theorem Undecodable.setProxyQuality (undecodable : store.Undecodable foundation)
    (value : ProxyQualitySnapshot) :
    ∃ data, foundation.quality.decode data = some {} ∧
      store.setProxyQuality foundation value = { store with quality := some data } := by
  obtain ⟨data, encoded⟩ := foundation.encodes_quality
  refine ⟨data, foundation.quality.decode_encode _ _ encoded, ?_⟩
  rw [StoredProfiles.setProxyQuality, undecodable.profileIDs, ProxyQualitySnapshot.prune_nil,
    encoded]

theorem eq_empty_of_no_keys {Value : Type} {dictionary : AList fun _ : UUID => Value}
    (none : ∀ id ∈ dictionary, id ∈ (∅ : AList fun _ : UUID => Value)) : dictionary = ∅ := by
  refine AList.ext (List.eq_nil_iff_forall_not_mem.mpr ?_)
  intro entry member
  exact absurd (none entry.1 (List.mem_keys_of_mem member)) (by simp)

/-- When the list cannot be decoded, an operation keeps the data of all profiles exactly when it
is harmless. -/
theorem undecodable_kept_iff (undecodable : store.Undecodable foundation)
    (operation : Operation) :
    store.Kept foundation (store.perform foundation operation) ↔
      store.Harmless foundation operation := by
  cases operation with
  | save profile password makeActive preservePasswordIfNil =>
      rw [perform, undecodable.save]
      exact iff_of_true Kept.refl trivial
  | delete id =>
      rw [perform, undecodable.delete]
      exact iff_of_true Kept.refl trivial
  | setProfileOrganization value =>
      obtain ⟨data, decoded, assigned⟩ := undecodable.setProfileOrganization value
      have empty : { store with organization := some data }.storedOrganization foundation = {} := by
        rw [storedOrganization, Option.bind_some, decoded, Option.getD_some]
      rw [perform, assigned]
      constructor
      · rintro ⟨-, favorites, groups, -⟩
        rw [empty] at favorites groups
        rw [Harmless]
        generalize store.storedOrganization foundation = stored at favorites groups
        obtain ⟨marked, named⟩ := stored
        obtain rfl : marked = ∅ := Finset.subset_empty.mp favorites
        obtain rfl : named = ∅ := eq_empty_of_no_keys groups
        rfl
      · intro nothing
        rw [Harmless] at nothing
        refine ⟨rfl, ?_, ?_, fun _ there => there⟩
        · rw [nothing, empty]
        · rw [nothing, empty]
          exact fun _ there => there
  | setProxyQuality value =>
      obtain ⟨data, decoded, assigned⟩ := undecodable.setProxyQuality value
      have empty : { store with quality := some data }.storedQuality foundation = {} := by
        rw [storedQuality, Option.bind_some, decoded, Option.getD_some]
      rw [perform, assigned]
      constructor
      · rintro ⟨-, -, -, samples⟩
        rw [empty] at samples
        rw [Harmless]
        generalize store.storedQuality foundation = stored at samples
        obtain ⟨measured⟩ := stored
        obtain rfl : measured = ∅ := eq_empty_of_no_keys samples
        rfl
      · intro nothing
        rw [Harmless] at nothing
        refine ⟨rfl, Finset.Subset.refl _, fun _ there => there, ?_⟩
        rw [nothing, empty]
        exact fun _ there => there

/-! A list that is cut off, and a favorite that is stored beside it. -/

def emptyOrganizationText : String := "\x7b\"favorites\":[],\"groups\":[]\x7d"

def favoriteText : String :=
  "\x7b\"favorites\":[\"00000000-0000-0000-0000-000000000001\"],\"groups\":[]\x7d"

def emptyQualityText : String := "\x7b\"samples\":[]\x7d"

def emptyListText : String := "[]"

/-- A codec for the values that have a text in a table. -/
def tableCodec {Value : Type} (text : Value → Option String) (value : String → Option Value)
    (agree : ∀ item data, text item = some data → value data = some item) :
    Codec String Value where
  encode := text
  decode := value
  decode_encode := agree

/-- The system on the texts above. -/
def plainFoundation : Foundation String Unit where
  profiles :=
    tableCodec (fun profiles => if profiles = [] then some emptyListText else none)
      (fun text => if text = emptyListText then some [] else none) (by
        intro profiles data encoded
        split_ifs at encoded with empty
        obtain rfl := Option.some.inj encoded
        rw [empty, if_pos rfl])
  organization :=
    tableCodec
      (fun value =>
        if value.groups.entries ≠ [] then none
        else if value.favorites = ∅ then some emptyOrganizationText
        else if value.favorites = {1#128} then some favoriteText
        else none)
      (fun text =>
        if text = emptyOrganizationText then some {}
        else if text = favoriteText then some { favorites := {1#128} }
        else none) (by
        rintro ⟨favorites, groups⟩ data encoded
        dsimp only at encoded
        split_ifs at encoded with grouped empty one
        · obtain rfl := Option.some.inj encoded
          obtain rfl : groups = ∅ := AList.ext (not_not.mp grouped)
          rw [if_pos rfl, empty]
        · obtain rfl := Option.some.inj encoded
          obtain rfl : groups = ∅ := AList.ext (not_not.mp grouped)
          rw [if_neg (by decide), if_pos rfl, one])
  quality :=
    tableCodec
      (fun value => if value.samples.entries = [] then some emptyQualityText else none)
      (fun text => if text = emptyQualityText then some {} else none) (by
        rintro ⟨samples⟩ data encoded
        dsimp only at encoded
        split_ifs at encoded with empty
        obtain rfl := Option.some.inj encoded
        obtain rfl : samples = ∅ := AList.ext empty
        rw [if_pos rfl])
  encodes_organization := ⟨emptyOrganizationText, rfl⟩
  encodes_quality := ⟨emptyQualityText, rfl⟩
  localizedCaseInsensitiveCompare := compare
  secItemUpdate _ _ keychain := (errSecItemNotFound, keychain)
  secItemAdd _ _ keychain := (errSecSuccess, keychain)
  secItemDelete _ keychain := (errSecItemNotFound, keychain)

def cutOffStore : StoredProfiles String Unit where
  profiles := some "["
  organization := some favoriteText
  keychain := ()

theorem undecodable_cutOffStore : cutOffStore.Undecodable plainFoundation :=
  ⟨"[", rfl, by decide⟩

theorem undecodable_kept_sample :
    cutOffStore.Kept plainFoundation (cutOffStore.perform plainFoundation (.delete 1#128)) ↔
      cutOffStore.Harmless plainFoundation (.delete 1#128) :=
  undecodable_kept_iff undecodable_cutOffStore (.delete 1#128)

/-- Assigning the organization that has just been read removes the favorite. -/
theorem assignment_removes_favorite :
    cutOffStore.Undecodable plainFoundation ∧
      ¬ cutOffStore.Kept plainFoundation (cutOffStore.perform plainFoundation
        (.setProfileOrganization (cutOffStore.profileOrganization plainFoundation))) := by
  refine ⟨undecodable_cutOffStore, ?_⟩
  rintro ⟨-, favorites, -, -⟩
  obtain ⟨data, decoded, assigned⟩ := undecodable_cutOffStore.setProfileOrganization
    (cutOffStore.profileOrganization plainFoundation)
  have stored : (cutOffStore.storedOrganization plainFoundation).favorites = {1#128} := by
    have other : favoriteText ≠ emptyOrganizationText := by decide
    simp [storedOrganization, cutOffStore, plainFoundation, tableCodec, other]
  rw [stored, perform, assigned, storedOrganization, Option.bind_some, decoded] at favorites
  exact absurd (favorites (Finset.mem_singleton_self _)) (Finset.notMem_empty _)

end StoredProfiles

end ProxyLauncher.IOS
