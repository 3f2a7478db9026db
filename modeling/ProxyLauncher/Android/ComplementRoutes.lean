import ProxyLauncher.Android.SiteExclusionPolicy
import Mathlib.Data.List.Pairwise

/-!
# The complement of the excluded addresses

The routes are the maximal prefixes without an excluded address.  A prefix that Java takes for an
IPv4 address is not a route to IPv6 addresses any more.
-/

namespace ProxyLauncher.Android

open ProxyLauncher.Prefixes

variable {hostAddress : InetAddress → String} {excluded : List InetAddress} {address : Bytes}
  {addressBytes : ℕ} {routes : List IpRoute} {gap : List Bool}

/-- The addresses to which a route leads. -/
def IpRoute.Covers (route : IpRoute) (address : Bytes) : Prop :=
  address.length = route.address.address.length ∧
    ∀ depth < route.prefixLength, bitAt address depth = bitAt route.address.address depth

/-- The routes lead to the addresses that are not excluded, and cannot be fewer or shorter. -/
structure Complements (excluded : List InetAddress) (addressBytes : ℕ) (routes : List IpRoute) :
    Prop where
  sized : ∀ route ∈ routes,
    route.address.address.length = addressBytes ∧ route.prefixLength ≤ addressBytes * 8
  hostBits : ∀ route ∈ routes, ∀ depth, route.prefixLength ≤ depth →
    bitAt route.address.address depth = false
  disjoint : routes.Pairwise fun route route' =>
    ∀ address, ¬ (route.Covers address ∧ route'.Covers address)
  exact : ∀ address : Bytes, address.length = addressBytes →
    ((∃ route ∈ routes, route.Covers address) ↔ ∀ other ∈ excluded, other.address ≠ address)
  shortest : ∀ route ∈ routes, ∀ shorter < route.prefixLength,
    ∃ other ∈ excluded, ({ route with prefixLength := shorter } : IpRoute).Covers other.address
  unmergeable : ∀ route ∈ routes, ∀ route' ∈ routes, route ≠ route' → ∀ merged : IpRoute,
    ¬ ∀ address, merged.Covers address ↔ route.Covers address ∨ route'.Covers address

/-- An IPv4-mapped address. -/
def IsMapped (address : Bytes) : Prop :=
  address.length = ipv6Bytes ∧ address.take 12 = mappedPrefix

/-- An address that shares all but the last bit of its first 96 bits with the mapped ones. -/
def NearMapped (address : Bytes) : Prop :=
  IpRoute.Covers ⟨⟨mappedPrefix ++ [0, 0, 0, 0], 0⟩, 95⟩ address

/-- The route to a path when Java leaves the bytes alone. -/
def plainRoute (addressBytes : ℕ) (path : List Bool) (prefixLength : ℕ) : IpRoute :=
  ⟨⟨prefixBytes addressBytes path, 0⟩, prefixLength⟩

theorem covers_plainRoute {prefixLength : ℕ} (short : gap.length ≤ addressBytes * 8)
    (within : prefixLength ≤ gap.length) :
    (plainRoute addressBytes gap prefixLength).Covers address ↔
      address.length = addressBytes ∧ gap.take prefixLength <+: bits address := by
  simp only [IpRoute.Covers, plainRoute, length_prefixBytes]
  refine and_congr_right fun size => ?_
  rw [List.prefix_iff_eq_take, List.length_take, min_eq_left within]
  constructor
  · intro agree
    refine List.ext_getElem (by simp; omega) fun depth inside inside' => ?_
    rw [List.length_take] at inside
    rw [List.getElem_take, List.getElem_take, getElem_bits, agree depth (by omega),
      bitAt_prefixBytes short, List.getD_eq_getElem]
  · intro same depth inside
    have first : (gap.take prefixLength).getD depth false = gap.getD depth false := by
      rw [List.getD_eq_getElem _ _ (by rw [List.length_take]; omega), List.getElem_take,
        List.getD_eq_getElem]
    have second : ((bits address).take prefixLength).getD depth false = bitAt address depth := by
      rw [List.getD_eq_getElem _ _ (by rw [List.length_take, length_bits]; omega),
        List.getElem_take, getElem_bits]
    rw [bitAt_prefixBytes short, ← first, same, second]

theorem IpRoute.covers_self (route : IpRoute) : route.Covers route.address.address :=
  ⟨rfl, fun _ _ => rfl⟩

/-- Two routes with a merger would leave a shorter prefix without an excluded address. -/
theorem unmergeable_of_shortest
    (sized : ∀ route ∈ routes, route.address.address.length = addressBytes)
    (disjoint : routes.Pairwise fun route route' =>
      ∀ address, ¬ (route.Covers address ∧ route'.Covers address))
    (exact' : ∀ address : Bytes, address.length = addressBytes →
      ((∃ route ∈ routes, route.Covers address) ↔ ∀ other ∈ excluded, other.address ≠ address))
    (shortest : ∀ route ∈ routes, ∀ shorter < route.prefixLength,
      ∃ other ∈ excluded, ({ route with prefixLength := shorter } : IpRoute).Covers other.address)
    {route route' merged : IpRoute} (member : route ∈ routes) (member' : route' ∈ routes)
    (different : route ≠ route') :
    ¬ ∀ address, merged.Covers address ↔ route.Covers address ∨ route'.Covers address := by
  intro same
  have own := (same _).mpr (.inl route.covers_self)
  have own' := (same _).mpr (.inr route'.covers_self)
  rcases lt_or_ge merged.prefixLength route.prefixLength with shorter | longer
  · obtain ⟨other, there, size, agree⟩ := shortest route member _ shorter
    have covered : merged.Covers other.address :=
      ⟨size.trans own.1, fun depth inside => (agree depth inside).trans (own.2 depth inside)⟩
    have full : other.address.length = addressBytes := size.trans (sized route member)
    have some : ∃ route ∈ routes, route.Covers other.address := by
      rcases (same _).mp covered with first | second
      · exact ⟨route, member, first⟩
      · exact ⟨route', member', second⟩
    exact (exact' _ full).mp some other there rfl
  · have symmetric : Std.Symm fun route route' : IpRoute =>
        ∀ address, ¬ (route.Covers address ∧ route'.Covers address) :=
      ⟨fun _ _ never address both => never address both.symm⟩
    have apart := disjoint.forall member member' different
    refine apart route'.address.address ⟨⟨?_, fun depth inside => ?_⟩, route'.covers_self⟩
    · exact (sized route' member').trans (sized route member).symm
    · exact (own'.2 depth (by omega)).trans (own.2 depth (by omega)).symm

theorem routeOf_of_not_mapped (plain : ¬ IsMapped (prefixBytes addressBytes gap)) :
    routeOf addressBytes gap = plainRoute addressBytes gap gap.length := by
  have unchanged : getByAddress (prefixBytes addressBytes gap) =
      ⟨prefixBytes addressBytes gap, 0⟩ := if_neg plain
  rw [routeOf, unchanged, plainRoute]

section Complement

variable (faithful : ∀ other other', hostAddress other = hostAddress other' →
  other.address = other'.address)

include faithful

theorem bits_mem_familyBits (size : address.length = addressBytes) :
    bits address ∈ familyBits hostAddress excluded addressBytes ↔
      ∃ other ∈ excluded, other.address = address := by
  rw [mem_familyBits faithful]
  constructor
  · rintro ⟨other, there, size', same⟩
    exact ⟨other, there, (bits_inj (size'.trans size.symm)).mp same⟩
  · rintro ⟨other, there, rfl⟩
    exact ⟨other, there, size, rfl⟩

/-- The routes complement the excluded addresses when none of them is taken for an IPv4 one. -/
theorem complements_of_plain
    (plain : ∀ gap ∈ (trieOf (familyBits hostAddress excluded addressBytes)).gaps,
      ¬ IsMapped (prefixBytes addressBytes gap)) :
    Complements excluded addressBytes
      ((trieOf (familyBits hostAddress excluded addressBytes)).gaps.map
        (routeOf addressBytes)) := by
  set strings := familyBits hostAddress excluded addressBytes with family
  have lengths : ∀ string ∈ strings, string.length = addressBytes * 8 :=
    fun string member => length_of_mem_familyBits member
  have gapOf {gap : List Bool} (there : gap ∈ (trieOf strings).gaps) :=
    (mem_gaps_trieOf lengths).mp there
  have routes : (trieOf strings).gaps.map (routeOf addressBytes) =
      (trieOf strings).gaps.map fun gap => plainRoute addressBytes gap gap.length :=
    List.map_congr_left fun gap there => routeOf_of_not_mapped (plain gap there)
  have covers {gap : List Bool} (there : gap ∈ (trieOf strings).gaps) (address : Bytes) :
      (plainRoute addressBytes gap gap.length).Covers address ↔
        address.length = addressBytes ∧ gap <+: bits address := by
    rw [covers_plainRoute (gapOf there).1 le_rfl, List.take_length]
  have sized : ∀ route ∈ (trieOf strings).gaps.map
      fun gap => plainRoute addressBytes gap gap.length,
      route.address.address.length = addressBytes := by
    intro route member
    obtain ⟨gap, there, rfl⟩ := List.mem_map.mp member
    exact length_prefixBytes
  have disjoint : ((trieOf strings).gaps.map
      fun gap => plainRoute addressBytes gap gap.length).Pairwise fun route route' =>
        ∀ address, ¬ (route.Covers address ∧ route'.Covers address) := by
    refine List.pairwise_map.mpr (Trie.pairwise_gaps.imp_of_mem ?_)
    intro gap gap' there there' never address both
    exact never (bits address) ⟨((covers there address).mp both.1).2,
      ((covers there' address).mp both.2).2⟩
  have exact' : ∀ address : Bytes, address.length = addressBytes →
      ((∃ route ∈ (trieOf strings).gaps.map fun gap => plainRoute addressBytes gap gap.length,
        route.Covers address) ↔ ∀ other ∈ excluded, other.address ≠ address) := by
    intro address size
    have outside : (∀ other ∈ excluded, other.address ≠ address) ↔ bits address ∉ strings := by
      rw [family, bits_mem_familyBits faithful size]
      simp
    rw [outside]
    constructor
    · rintro ⟨route, member, covered⟩
      obtain ⟨gap, there, rfl⟩ := List.mem_map.mp member
      exact (gapOf there).2.free.notMem ((covers there address).mp covered).2
    · intro free
      have full : (bits address).length = addressBytes * 8 := by rw [length_bits, size]
      obtain ⟨gap, begins, maximal⟩ := (free_of_notMem lengths full free).exists_maximalFree
      have there := (mem_gaps_trieOf lengths).mpr ⟨full ▸ begins.length_le, maximal⟩
      exact ⟨_, List.mem_map_of_mem there, (covers there address).mpr ⟨size, begins⟩⟩
  have shortest : ∀ route ∈ (trieOf strings).gaps.map
      fun gap => plainRoute addressBytes gap gap.length, ∀ shorter < route.prefixLength,
        ∃ other ∈ excluded,
          ({ route with prefixLength := shorter } : IpRoute).Covers other.address := by
    intro route member shorter below
    obtain ⟨gap, there, rfl⟩ := List.mem_map.mp member
    have below' : shorter < gap.length := below
    have proper : gap.take shorter ≠ gap := by
      intro same
      have length := congrArg List.length same
      rw [List.length_take] at length
      omega
    obtain ⟨string, taken, begins⟩ := not_free_iff.mp
      ((gapOf there).2.maximal _ (List.take_prefix _ _) proper)
    obtain ⟨other, excludes, size, rfl⟩ := (mem_familyBits faithful).mp taken
    exact ⟨other, excludes, (covers_plainRoute (gapOf there).1 below'.le).mpr ⟨size, begins⟩⟩
  rw [routes]
  refine ⟨fun route member => ⟨sized route member, ?_⟩, ?_, disjoint, exact', shortest, ?_⟩
  · obtain ⟨gap, there, rfl⟩ := List.mem_map.mp member
    exact (gapOf there).1
  · intro route member depth outside
    obtain ⟨gap, there, rfl⟩ := List.mem_map.mp member
    have beyond : gap.length ≤ depth := outside
    have bit := @bitAt_prefixBytes depth gap addressBytes (gapOf there).1
    rwa [List.getD_eq_default _ _ beyond] at bit
  · intro route member route' member' different merged
    exact unmergeable_of_shortest sized disjoint exact' shortest member member' different

end Complement

/-- The first 96 bits of an IPv4-mapped address. -/
def mappedBits : List Bool := bits mappedPrefix

theorem length_mappedBits : mappedBits.length = 96 := length_bits

theorem mappedBits_last : mappedBits.getD 95 false = true := by decide

theorem prefixBytes_mappedBits : prefixBytes ipv6Bytes mappedBits = mappedPrefix ++ [0, 0, 0, 0] := by
  decide

theorem isMapped_iff (size : address.length = ipv6Bytes) :
    IsMapped address ↔ mappedBits <+: bits address := by
  rw [IsMapped, and_iff_right size, List.prefix_iff_eq_take, length_mappedBits, eq_comm]
  have cut : bits (address.take 12) = (bits address).take 96 := bits_take 12
  rw [← cut, mappedBits, bits_inj (by rw [List.length_take, size]; rfl)]

theorem isMapped_prefixBytes (short : gap.length ≤ ipv6Bytes * 8) :
    IsMapped (prefixBytes ipv6Bytes gap) ↔ mappedBits <+: gap := by
  rw [isMapped_iff length_prefixBytes, bits_prefixBytes short]
  constructor
  · intro begins
    have long : 96 ≤ gap.length := by
      by_contra small
      have last := mappedBits_last
      rw [List.prefix_iff_eq_take.mp begins, length_mappedBits,
        List.getD_eq_getElem _ _ (by simp [ipv6Bytes] at short ⊢; omega), List.getElem_take,
        List.getElem_append_right (by omega), List.getElem_replicate] at last
      exact Bool.false_ne_true last
    exact List.prefix_of_prefix_length_le begins (List.prefix_append _ _)
      (by rw [length_mappedBits]; exact long)
  · exact fun begins => begins.trans (List.prefix_append _ _)

theorem nearMapped_iff :
    NearMapped address ↔ address.length = ipv6Bytes ∧ mappedBits.dropLast <+: bits address := by
  rw [NearMapped, ← prefixBytes_mappedBits, List.dropLast_eq_take, length_mappedBits]
  exact covers_plainRoute (by rw [length_mappedBits]; decide) (by rw [length_mappedBits]; decide)

/-- When some prefix of the routes is taken for an IPv4 address. -/
theorem exists_mapped_gap_iff
    (faithful : ∀ other other', hostAddress other = hostAddress other' →
      other.address = other'.address) :
    (∃ gap ∈ (trieOf (familyBits hostAddress excluded addressBytes)).gaps,
        IsMapped (prefixBytes addressBytes gap)) ↔
      addressBytes = ipv6Bytes ∧ (∃ other ∈ excluded, NearMapped other.address) ∧
        ∃ address, IsMapped address ∧ ∀ other ∈ excluded, other.address ≠ address := by
  by_cases wide : addressBytes = ipv6Bytes
  · subst wide
    rw [and_iff_right rfl]
    have lengths : ∀ string ∈ familyBits hostAddress excluded ipv6Bytes,
        string.length = ipv6Bytes * 8 := fun string member => length_of_mem_familyBits member
    have near : (∃ other ∈ excluded, NearMapped other.address) ↔
        ¬ Free {string | string ∈ familyBits hostAddress excluded ipv6Bytes}
          mappedBits.dropLast := by
      rw [not_free_iff]
      constructor
      · rintro ⟨other, there, close⟩
        obtain ⟨size, begins⟩ := nearMapped_iff.mp close
        exact ⟨_, (mem_familyBits faithful).mpr ⟨other, there, size, rfl⟩, begins⟩
      · rintro ⟨string, member, begins⟩
        obtain ⟨other, there, size, rfl⟩ := (mem_familyBits faithful).mp member
        exact ⟨other, there, nearMapped_iff.mpr ⟨size, begins⟩⟩
    have outside : (∃ address, IsMapped address ∧ ∀ other ∈ excluded, other.address ≠ address) ↔
        ∃ whole : List Bool, whole.length = ipv6Bytes * 8 ∧ mappedBits <+: whole ∧
          whole ∉ {string | string ∈ familyBits hostAddress excluded ipv6Bytes} := by
      constructor
      · rintro ⟨address, mapped, never⟩
        refine ⟨bits address, by rw [length_bits, mapped.1], (isMapped_iff mapped.1).mp mapped, ?_⟩
        intro member
        obtain ⟨other, there, same⟩ := (bits_mem_familyBits faithful mapped.1).mp member
        exact never other there same
      · rintro ⟨whole, full, begins, never⟩
        have spelled : bits (prefixBytes ipv6Bytes whole) = whole := by
          rw [bits_prefixBytes full.le, full, Nat.sub_self, List.replicate_zero, List.append_nil]
        refine ⟨prefixBytes ipv6Bytes whole,
          (isMapped_iff length_prefixBytes).mpr (by rwa [spelled]), fun other there same => ?_⟩
        refine never ?_
        rw [← spelled]
        exact (bits_mem_familyBits faithful length_prefixBytes).mpr ⟨other, there, same⟩
    have proper : mappedBits ≠ [] := List.ne_nil_of_length_pos (by rw [length_mappedBits]; decide)
    rw [near, outside]
    refine Iff.trans ?_ (exists_maximalFree_extending false lengths proper)
    refine exists_congr fun gap => ?_
    rw [mem_gaps_trieOf lengths, and_assoc]
    refine and_congr_right fun short => and_congr_right fun _ => isMapped_prefixBytes short
  · refine iff_of_false ?_ fun mapped => wide mapped.1
    rintro ⟨gap, -, size, -⟩
    exact wide (length_prefixBytes.symm.trans size)

theorem complementRoutes_ok (returned : complementRoutes hostAddress excluded addressBytes =
    .ok routes) : routes = (trieOf (familyBits hostAddress excluded addressBytes)).gaps.map
      (routeOf addressBytes) := by
  by_cases supported : addressBytes = ipv4Bytes ∨ addressBytes = ipv6Bytes
  · rw [complementRoutes_eq supported] at returned
    split at returned
    · exact (Except.ok.inj returned).symm
    · exact absurd returned (by simp)
  · rw [complementRoutes, if_pos supported] at returned
    exact absurd returned (by simp)

/-- The returned routes are the complement of the excluded addresses unless an IPv4-mapped address
is to be covered next to an excluded one. -/
theorem complement_exact_iff
    (faithful : ∀ other other', hostAddress other = hostAddress other' →
      other.address = other'.address)
    (returned : complementRoutes hostAddress excluded addressBytes = .ok routes) :
    Complements excluded addressBytes routes ↔
      addressBytes = ipv6Bytes → (∃ other ∈ excluded, NearMapped other.address) →
        ∀ address, IsMapped address → ∃ other ∈ excluded, other.address = address := by
  obtain rfl := complementRoutes_ok returned
  have mapped := @exists_mapped_gap_iff hostAddress excluded addressBytes faithful
  constructor
  · rintro complements wide near address own
    by_contra never
    push Not at never
    obtain ⟨gap, there, taken⟩ := mapped.mpr ⟨wide, near, address, own, never⟩
    have sized := (complements.sized _ (List.mem_map_of_mem there)).1
    have converted : (routeOf addressBytes gap).address =
        ⟨(prefixBytes addressBytes gap).drop 12, 0⟩ := if_pos taken
    rw [converted, List.length_drop, length_prefixBytes, wide] at sized
    exact absurd sized (by decide)
  · intro covered
    refine complements_of_plain faithful fun gap there taken => ?_
    obtain ⟨wide, near, address, own, never⟩ := mapped.mp ⟨gap, there, taken⟩
    obtain ⟨other, excludes, same⟩ := covered wide near address own
    exact never other excludes same

/-- The address `::fffe:0:1`. -/
def neighbour : Bytes := [0, 0, 0, 0, 0, 0, 0, 0, 0, 0, 255, 254, 0, 0, 0, 1]

/-- The text of one address, and texts that no address has for the others. -/
def sampleHostAddress (known : Bytes) (text : String) (other : InetAddress) : String :=
  if other.address = known then text else .ofList ('/' :: other.address.map Char.ofUInt8)

theorem sampleHostAddress_faithful {known : Bytes} {text : String}
    (noSlash : text.toList.head? ≠ some '/') (other other' : InetAddress)
    (same : sampleHostAddress known text other = sampleHostAddress known text other') :
    other.address = other'.address := by
  have chars : Function.Injective Char.ofUInt8 := by
    intro byte byte' equal
    exact UInt8.toUInt32_inj.mp (congrArg Char.val equal)
  have slash (rest : List Char) : text ≠ .ofList ('/' :: rest) := by
    rintro rfl
    simp at noSlash
  unfold sampleHostAddress at same
  by_cases first : other.address = known <;> by_cases second : other'.address = known
  · rw [first, second]
  · rw [if_pos first, if_neg second] at same
    exact absurd same (slash _)
  · rw [if_neg first, if_pos second] at same
    exact absurd same.symm (slash _)
  · rw [if_neg first, if_neg second] at same
    exact List.map_injective_iff.mpr chars (List.cons_injective (String.ofList_inj.mp same))

/-- The routes around `::fffe:0:1`. -/
def detours : List IpRoute :=
  (trieOf [bits neighbour]).gaps.map (routeOf ipv6Bytes)

/-- The route to the mapped addresses is lost, and an impossible IPv4 route stands for it. -/
theorem mapped_route_lost :
    complementRoutes (sampleHostAddress neighbour "::fffe:0:1") [⟨neighbour, 0⟩] ipv6Bytes =
        .ok detours ∧
      ⟨⟨[0, 0, 0, 0], 0⟩, 96⟩ ∈ detours ∧ ¬ Complements [⟨neighbour, 0⟩] ipv6Bytes detours := by
  obtain ⟨few, lost⟩ : (trieOf [bits neighbour]).gaps.length ≤ maxRoutes ∧
      (⟨⟨[0, 0, 0, 0], 0⟩, 96⟩ : IpRoute) ∈ detours := by
    decide +kernel
  refine ⟨?_, lost, fun complements => ?_⟩
  · rw [complementRoutes_eq (.inr rfl)]
    exact if_pos few
  · exact absurd (complements.sized _ lost).1 (by decide)

/-- `complement_exact_iff` for one IPv4 address. -/
theorem complement_exact_sample :
    Complements [⟨[192, 0, 2, 1], 0⟩] ipv4Bytes
      ((trieOf [bits [192, 0, 2, 1]]).gaps.map (routeOf ipv4Bytes)) := by
  have returned : complementRoutes (sampleHostAddress [192, 0, 2, 1] "192.0.2.1")
      [⟨[192, 0, 2, 1], 0⟩] ipv4Bytes =
        .ok ((trieOf [bits [192, 0, 2, 1]]).gaps.map (routeOf ipv4Bytes)) := by
    rw [complementRoutes_eq (.inl rfl)]
    exact if_pos (by decide)
  exact (complement_exact_iff (sampleHostAddress_faithful (by decide)) returned).mpr
    fun wide => absurd wide (by decide)

end ProxyLauncher.Android
