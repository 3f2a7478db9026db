import ProxyLauncher.IOS.Exclusions

/-!
# The plan of the guard

Every field of a plan can be read from the hosts that are safe: the approved hosts with an address
whose addresses are not among those of the other hosts, when each of these has an address.
-/

namespace ProxyLauncher.IOS

namespace SharedIPRouteGuard

variable {canonicalAddress : String → Option String} {approved : Dictionary (List String)}
  {nonApproved before after : Dictionary (Option (List String))} {host address : String}
  {addresses : List String}

/-- A host with these addresses can be bypassed. -/
structure Safe (canonicalAddress : String → Option String)
    (nonApproved : Dictionary (Option (List String))) (addresses : List String) : Prop where
  found : addresses.filterMap canonicalAddress ≠ []
  verified : ∀ host answer, nonApproved.lookup host = some answer →
    ¬ Unknown canonicalAddress answer
  distinct : ∀ address ∈ addresses.filterMap canonicalAddress,
    ∀ host others, nonApproved.lookup host = some (some others) →
      address ∉ others.filterMap canonicalAddress

@[simp] theorem mem_canonical :
    address ∈ canonical canonicalAddress addresses ↔ address ∈ addresses.filterMap canonicalAddress := by
  rw [canonical, mem_sortedSet]

theorem unverified_iff : unverified canonicalAddress nonApproved = true ↔
    ∃ host answer, nonApproved.lookup host = some answer ∧ Unknown canonicalAddress answer := by
  constructor
  · intro unsure
    obtain ⟨addresses, member, empty⟩ := List.any_eq_true.mp unsure
    obtain ⟨⟨host, answer⟩, there, rfl⟩ := List.mem_map.mp member
    refine ⟨host, answer, Dictionary.mem_pairs.mp there, ?_⟩
    rintro addresses rfl
    simpa using empty
  · rintro ⟨host, answer, there, unknown⟩
    exact unverified_of_unknown there unknown

/-- The withheld addresses when all the other hosts have an address. -/
theorem mem_withheld (verified : unverified canonicalAddress nonApproved = false) :
    address ∈ withheld canonicalAddress approved nonApproved ↔
      (∃ host addresses, approved.lookup host = some addresses ∧
        address ∈ addresses.filterMap canonicalAddress) ∧
      ∃ host others, nonApproved.lookup host = some (some others) ∧
        address ∈ others.filterMap canonicalAddress := by
  unfold withheld
  dsimp only
  rw [if_neg (by simp [verified]), List.mem_filter, decide_eq_true_eq]
  refine and_congr ?_ ?_
  · simp only [normalizedApproved, List.map_map, List.mem_flatten, List.mem_map, Prod.exists,
      Function.comp_apply, Dictionary.mem_pairs]
    constructor
    · rintro ⟨_, ⟨host, addresses, there, rfl⟩, member⟩
      exact ⟨host, addresses, there, mem_canonical.mp member⟩
    · rintro ⟨host, addresses, there, member⟩
      exact ⟨_, ⟨host, addresses, there, rfl⟩, mem_canonical.mpr member⟩
  · constructor
    · intro denied
      obtain ⟨listed, there, member⟩ := List.mem_flatten.mp denied
      obtain ⟨answer, normalized, some⟩ := List.mem_filterMap.mp there
      obtain ⟨⟨host, found⟩, known, rfl⟩ := List.mem_map.mp normalized
      obtain ⟨others, rfl, rfl⟩ := Option.map_eq_some_iff.mp some
      exact ⟨host, others, Dictionary.mem_pairs.mp known, mem_canonical.mp member⟩
    · rintro ⟨host, others, known, member⟩
      refine List.mem_flatten.mpr ⟨_, List.mem_filterMap.mpr ⟨_, List.mem_map.mpr
        ⟨(host, some others), Dictionary.mem_pairs.mpr known, rfl⟩, rfl⟩, ?_⟩
      exact mem_canonical.mpr member

theorem mem_safeHosts {pair : String × List String} :
    pair ∈ safeHosts canonicalAddress approved nonApproved ↔
      ∃ addresses, approved.lookup pair.1 = some addresses ∧
        Safe canonicalAddress nonApproved addresses ∧
        pair.2 = canonical canonicalAddress addresses := by
  obtain ⟨host, listed⟩ := pair
  cases sure : unverified canonicalAddress nonApproved with
  | true =>
      rw [safeHosts_of_unverified sure]
      refine iff_of_false List.not_mem_nil ?_
      rintro ⟨addresses, -, safe, -⟩
      obtain ⟨other, answer, there, unknown⟩ := unverified_iff.mp sure
      exact safe.verified other answer there unknown
  | false =>
      simp only [safeHosts, normalizedApproved, List.mem_filter, List.mem_map, Prod.exists,
        Dictionary.mem_pairs, Prod.mk.injEq, Bool.and_eq_true, Bool.not_eq_true',
        List.isEmpty_eq_false_iff, List.all_eq_true, decide_eq_true_eq, mem_withheld sure]
      constructor
      · rintro ⟨⟨_, addresses, there, rfl, rfl⟩, found, free⟩
        refine ⟨addresses, there, ⟨mt canonical_eq_nil.mpr found, ?_, ?_⟩, rfl⟩
        · intro other answer known unknown
          rw [unverified_of_unknown known unknown] at sure
          cases sure
        · intro address member other others known shared
          exact free address (mem_canonical.mpr member)
            ⟨⟨_, addresses, there, member⟩, other, others, known, shared⟩
      · rintro ⟨addresses, there, safe, rfl⟩
        refine ⟨⟨host, addresses, there, rfl, rfl⟩, mt canonical_eq_nil.mp safe.found, ?_⟩
        rintro address member ⟨-, other, others, known, shared⟩
        exact safe.distinct address (mem_canonical.mp member) other others known shared

theorem mem_allowedAddresses :
    address ∈ (plan canonicalAddress approved nonApproved).allowedAddresses ↔
      ∃ host addresses, approved.lookup host = some addresses ∧
        Safe canonicalAddress nonApproved addresses ∧
        address ∈ addresses.filterMap canonicalAddress := by
  simp only [plan, mem_sortedSet, List.mem_flatten, List.mem_map, Prod.exists, mem_safeHosts]
  constructor
  · rintro ⟨_, ⟨host, _, ⟨addresses, there, safe, rfl⟩, rfl⟩, member⟩
    exact ⟨host, addresses, there, safe, mem_canonical.mp member⟩
  · rintro ⟨host, addresses, there, safe, member⟩
    exact ⟨_, ⟨host, _, ⟨addresses, there, safe, rfl⟩, rfl⟩, mem_canonical.mpr member⟩

theorem mem_dnsBypass {entry : String} :
    entry ∈ (plan canonicalAddress approved nonApproved).dnsBypass ↔
      ∃ host addresses, approved.lookup host = some addresses ∧
        Safe canonicalAddress nonApproved addresses ∧
        ∃ address ∈ addresses.filterMap canonicalAddress, entry = host ++ "=" ++ address := by
  simp only [plan, List.mem_insertionSort, List.mem_flatMap, List.mem_map, Prod.exists,
    mem_safeHosts]
  constructor
  · rintro ⟨host, _, ⟨addresses, there, safe, rfl⟩, address, member, rfl⟩
    exact ⟨host, addresses, there, safe, address, mem_canonical.mp member, rfl⟩
  · rintro ⟨host, addresses, there, safe, address, member, rfl⟩
    exact ⟨host, _, ⟨addresses, there, safe, rfl⟩, address, mem_canonical.mpr member, rfl⟩

theorem mem_blockedHosts :
    host ∈ (plan canonicalAddress approved nonApproved).blockedHosts ↔
      ∃ addresses, approved.lookup host = some addresses ∧
        ¬ Safe canonicalAddress nonApproved addresses := by
  simp only [plan, List.mem_insertionSort, List.mem_filter, decide_eq_true_eq, List.mem_map,
    Prod.exists, mem_safeHosts, not_exists, not_and]
  constructor
  · rintro ⟨key, unsafeHost⟩
    obtain ⟨addresses, there⟩ := Option.isSome_iff_exists.mp (AList.lookup_isSome.mpr key)
    exact ⟨addresses, there, fun safe => unsafeHost host _ ⟨addresses, there, safe, rfl⟩ rfl⟩
  · rintro ⟨addresses, there, blocked⟩
    refine ⟨AList.lookup_isSome.mp (by rw [there]; rfl), ?_⟩
    rintro _ _ ⟨others, known, safe, -⟩ rfl
    obtain rfl := Option.some.inj (there.symm.trans known)
    exact blocked safe

theorem dropWhile_append_sign {front back : List Char} (plain : '=' ∉ front) :
    (front ++ '=' :: back).dropWhile (fun char => decide (char ≠ '=')) = '=' :: back := by
  rw [List.dropWhile_append_of_pos]
  · simp
  · intro char member
    exact decide_eq_true fun same => plain (same ▸ member)

/-- The last `=` of an entry separates the host from an address. -/
theorem entry_inj {host' address' : String} (plain : '=' ∉ address.toList)
    (plain' : '=' ∉ address'.toList)
    (same : host ++ "=" ++ address = host' ++ "=" ++ address') : host = host' := by
  have reversed := congrArg (fun entry => entry.toList.reverse) same
  have sign : "=".toList = ['='] := rfl
  simp only [String.toList_append, sign, List.reverse_append, List.reverse_singleton,
    List.singleton_append] at reversed
  have behind : '=' ∉ address.toList.reverse := by simpa using plain
  have behind' : '=' ∉ address'.toList.reverse := by simpa using plain'
  have hosts := congrArg (List.dropWhile fun char => decide (char ≠ '=')) reversed
  rw [dropWhile_append_sign behind, dropWhile_append_sign behind'] at hosts
  exact String.toList_inj.mp (List.reverse_injective (List.cons.inj hosts).2)

/-- Hosts and addresses are added.  No host gets its first address. -/
def Adds (canonicalAddress : String → Option String)
    (before after : Dictionary (Option (List String))) : Prop :=
  ∀ host answer, before.lookup host = some answer → ∃ answer', after.lookup host = some answer' ∧
    (Unknown canonicalAddress answer → Unknown canonicalAddress answer') ∧
    ∀ addresses, answer = some addresses →
      ∃ addresses', answer' = some addresses' ∧ addresses ⊆ addresses'

theorem Safe.of_adds (safe : Safe canonicalAddress after addresses)
    (adds : Adds canonicalAddress before after) : Safe canonicalAddress before addresses where
  found := safe.found
  verified host answer there unknown := by
    obtain ⟨answer', there', unsure, -⟩ := adds host answer there
    exact safe.verified host answer' there' (unsure unknown)
  distinct address member host others there shared := by
    obtain ⟨answer', there', -, more⟩ := adds host (some others) there
    obtain ⟨others', rfl, subset⟩ := more others rfl
    obtain ⟨raw, known, spelled⟩ := List.mem_filterMap.mp shared
    exact safe.distinct address member host others' there'
      (List.mem_filterMap.mpr ⟨raw, subset known, spelled⟩)

/-- A plan lets no address of another host through, nothing at all when another host is unknown,
and each approved host whole or not at all; hosts that are added only take away. -/
theorem plan_guards (plain : ∀ raw address, canonicalAddress raw = some address →
    '=' ∉ address.toList) :
    (∀ address ∈ (plan canonicalAddress approved nonApproved).allowedAddresses,
      ∀ host others, nonApproved.lookup host = some (some others) →
        ∀ raw ∈ others, canonicalAddress raw ≠ some address) ∧
    (∀ host answer, nonApproved.lookup host = some answer → Unknown canonicalAddress answer →
      (plan canonicalAddress approved nonApproved).allowedAddresses = [] ∧
        (plan canonicalAddress approved nonApproved).dnsBypass = []) ∧
    (∀ host addresses, approved.lookup host = some addresses →
      (addresses.filterMap canonicalAddress ≠ [] ∧
        host ∉ (plan canonicalAddress approved nonApproved).blockedHosts ∧
        ∀ address ∈ addresses.filterMap canonicalAddress,
          address ∈ (plan canonicalAddress approved nonApproved).allowedAddresses ∧
          host ++ "=" ++ address ∈ (plan canonicalAddress approved nonApproved).dnsBypass) ∨
      (host ∈ (plan canonicalAddress approved nonApproved).blockedHosts ∧
        ∀ raw address, canonicalAddress raw = some address →
          host ++ "=" ++ address ∉ (plan canonicalAddress approved nonApproved).dnsBypass)) ∧
    (∀ after, Adds canonicalAddress nonApproved after →
      (plan canonicalAddress approved after).allowedAddresses ⊆
          (plan canonicalAddress approved nonApproved).allowedAddresses ∧
        (plan canonicalAddress approved after).dnsBypass ⊆
          (plan canonicalAddress approved nonApproved).dnsBypass ∧
        (plan canonicalAddress approved nonApproved).blockedHosts ⊆
          (plan canonicalAddress approved after).blockedHosts) := by
  refine ⟨?_, ?_, ?_, ?_⟩
  · intro address allowed host others there raw known spelled
    obtain ⟨_, addresses, -, safe, member⟩ := mem_allowedAddresses.mp allowed
    exact safe.distinct address member host others there
      (List.mem_filterMap.mpr ⟨raw, known, spelled⟩)
  · intro host answer there unknown
    constructor
    · rw [List.eq_nil_iff_forall_not_mem]
      intro address allowed
      obtain ⟨_, _, -, safe, -⟩ := mem_allowedAddresses.mp allowed
      exact safe.verified host answer there unknown
    · rw [List.eq_nil_iff_forall_not_mem]
      intro entry bypassed
      obtain ⟨_, _, -, safe, -⟩ := mem_dnsBypass.mp bypassed
      exact safe.verified host answer there unknown
  · intro host addresses there
    by_cases safe : Safe canonicalAddress nonApproved addresses
    · refine .inl ⟨safe.found, ?_, ?_⟩
      · intro blocked
        obtain ⟨others, there', blocked⟩ := mem_blockedHosts.mp blocked
        obtain rfl := Option.some.inj (there.symm.trans there')
        exact blocked safe
      · intro address member
        exact ⟨mem_allowedAddresses.mpr ⟨host, addresses, there, safe, member⟩,
          mem_dnsBypass.mpr ⟨host, addresses, there, safe, address, member, rfl⟩⟩
    · refine .inr ⟨mem_blockedHosts.mpr ⟨addresses, there, safe⟩, ?_⟩
      intro raw address spelled bypassed
      obtain ⟨host', others, there', safe', address', member, same⟩ := mem_dnsBypass.mp bypassed
      obtain ⟨raw', -, spelled'⟩ := List.mem_filterMap.mp member
      obtain rfl := entry_inj (plain raw address spelled) (plain raw' address' spelled') same
      obtain rfl := Option.some.inj (there.symm.trans there')
      exact safe safe'
  · intro after adds
    refine ⟨?_, ?_, ?_⟩
    · intro address allowed
      obtain ⟨host, addresses, there, safe, member⟩ := mem_allowedAddresses.mp allowed
      exact mem_allowedAddresses.mpr ⟨host, addresses, there, safe.of_adds adds, member⟩
    · intro entry bypassed
      obtain ⟨host, addresses, there, safe, rest⟩ := mem_dnsBypass.mp bypassed
      exact mem_dnsBypass.mpr ⟨host, addresses, there, safe.of_adds adds, rest⟩
    · intro host blocked
      obtain ⟨addresses, there, notSafe⟩ := mem_blockedHosts.mp blocked
      exact mem_blockedHosts.mpr ⟨addresses, there, fun safe => notSafe (safe.of_adds adds)⟩

/-- Two addresses that are written as the system writes them. -/
def plainAddress (raw : String) : Option String :=
  if raw = "10.0.0.1" ∨ raw = "10.0.0.2" then some raw else none

theorem plainAddress_plain {raw : String} (spelled : plainAddress raw = some address) :
    '=' ∉ address.toList := by
  unfold plainAddress at spelled
  split_ifs at spelled with known
  obtain rfl := Option.some.inj spelled
  rcases known with rfl | rfl
  · decide
  · decide

def approvedSite : Dictionary (List String) :=
  AList.insert "a.io" ["10.0.0.1"] ∅

/-- The answer for a host that is not approved. -/
def otherSite (answer : Option (List String)) : Dictionary (Option (List String)) :=
  AList.insert "b.io" answer ∅

theorem plan_guards_sample :
    (plan plainAddress approvedSite ∅).blockedHosts ⊆
      (plan plainAddress approvedSite (otherSite (some ["10.0.0.1"]))).blockedHosts :=
  ((plan_guards fun _ _ => plainAddress_plain).2.2.2 (otherSite (some ["10.0.0.1"]))
    fun _ _ there => by cases there).2.2

/-- The first address of a host that is not approved lets an approved host through. -/
theorem first_address_allows :
    (plan plainAddress approvedSite (otherSite (some []))).allowedAddresses = [] ∧
      (plan plainAddress approvedSite (otherSite (some []))).blockedHosts = ["a.io"] ∧
      (plan plainAddress approvedSite (otherSite (some ["10.0.0.2"]))).allowedAddresses =
        ["10.0.0.1"] ∧
      (plan plainAddress approvedSite (otherSite (some ["10.0.0.2"]))).blockedHosts = [] := by
  decide

end SharedIPRouteGuard

end ProxyLauncher.IOS
