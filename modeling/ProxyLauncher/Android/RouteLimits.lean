import ProxyLauncher.Android.ComplementRoutes

/-!
# The limits on exclusions and on routes

A plan has at most 128 resolved addresses; on the API levels without excluded routes it is applied
through the complement of its addresses, which has at most 4096 routes.
-/

namespace ProxyLauncher.Android

open ProxyLauncher.Prefixes

inductive TunnelDnsMode where
  | virtual
  | direct
  deriving DecidableEq, Repr

structure SiteExclusionPlan where
  enabled : Bool
  bypassAddresses : List InetAddress
  dnsServers : List InetAddress
  dnsMode : TunnelDnsMode
  deriving DecidableEq, Repr

def SiteExclusionPlan.empty : SiteExclusionPlan where
  enabled := false
  bypassAddresses := []
  dnsServers := []
  dnsMode := .virtual

structure NetworkCapabilities where
  internet : Bool
  notVpn : Bool

/-- What the service asks of the active network. `getAllByName` has no answer when it throws. -/
structure Network where
  capabilities : Option NetworkCapabilities
  linkDnsServers : Option (List InetAddress)
  getAllByName : String → Option (List InetAddress)

variable (hostAddress : InetAddress → String)

/-- `resolved[key] = address` on a linked map. -/
def linkedPut (resolved : List (String × InetAddress)) (address : InetAddress) :
    List (String × InetAddress) :=
  if hostAddress address ∈ resolved.map Prod.fst then
    resolved.map fun entry => if entry.1 = hostAddress address then (entry.1, address) else entry
  else resolved ++ [(hostAddress address, address)]

/-- The loop over the entries. -/
def resolveEntries (network : Network) : List String → List (String × InetAddress) →
    Except String (List (String × InetAddress))
  | [], resolved => .ok resolved
  | entry :: entries, resolved =>
      match network.getAllByName entry with
      | none => .error ("Не удалось разрешить исключение: " ++ entry)
      | some addresses =>
          if addresses = [] then .error ("Исключение не имеет IP-адресов: " ++ entry)
          else resolveEntries network entries (addresses.foldl (linkedPut hostAddress) resolved)

def resolveSiteExclusions (entries : List String) (activeNetwork : Option Network) :
    Except String SiteExclusionPlan :=
  if entries = [] then .ok .empty
  else
    match activeNetwork with
    | none => .error "Нет активной сети для применения исключений"
    | some network =>
        match network.capabilities with
        | some ⟨true, true⟩ =>
            let dnsServers := distinctBy hostAddress (network.linkDnsServers.getD [])
            if dnsServers = [] then
              .error "Не удалось определить системный DNS для исключений"
            else
              match resolveEntries hostAddress network entries [] with
              | .error message => .error message
              | .ok resolved =>
                  if maxResolvedAddresses < resolved.length then
                    .error "Слишком много IP-адресов в исключениях"
                  else
                    .ok { enabled := true
                          bypassAddresses :=
                            distinctBy hostAddress (resolved.map Prod.snd ++ dnsServers)
                          dnsServers := dnsServers
                          dnsMode := .direct }
        | _ => .error "Не удалось определить физическую сеть для исключений"

/-- The calls on the builder of the tunnel. -/
inductive BuilderCall where
  | addTextRoute (address : String) (prefixLength : ℕ)
  | addRoute (address : InetAddress) (prefixLength : ℕ)
  | excludeRoute (address : InetAddress) (prefixLength : ℕ)
  deriving DecidableEq, Repr

def everyRoute : List BuilderCall :=
  [.addTextRoute "0.0.0.0" 0, .addTextRoute "::" 0]

def addRoutes (routes : List IpRoute) : List BuilderCall :=
  routes.map fun route => .addRoute route.address route.prefixLength

def applySiteExclusionRoutes (sdkInt : ℕ) (plan : SiteExclusionPlan) :
    Except String (List BuilderCall) :=
  if plan.enabled = false then .ok everyRoute
  else if 33 ≤ sdkInt then
    .ok (everyRoute ++ plan.bypassAddresses.map fun address =>
      .excludeRoute address (if address.address.length = 4 then 32 else 128))
  else do
    let routes ← complementRoutes hostAddress plan.bypassAddresses ipv4Bytes
    let routes' ← complementRoutes hostAddress plan.bypassAddresses ipv6Bytes
    .ok (addRoutes routes ++ addRoutes routes')

variable {hostAddress} {addresses : List InetAddress} {addressBytes sdkInt : ℕ}
  {entries : List String} {activeNetwork : Option Network} {plan : SiteExclusionPlan}

/-- The bits of the addresses of one family. -/
def bitsOf (addresses : List InetAddress) (addressBytes : ℕ) : List (List Bool) :=
  (addresses.filter fun other => other.address.length = addressBytes).map fun other =>
    bits other.address

/-- The proper prefixes of the addresses are not too many more than the addresses. -/
def FewRoutes (addresses : List InetAddress) (addressBytes : ℕ) : Prop :=
  (properPrefixes (bitsOf addresses addressBytes)).length + 1 ≤
    maxRoutes + (bitsOf addresses addressBytes).dedup.length

theorem fewRoutes_iff
    (faithful : ∀ other other', hostAddress other = hostAddress other' →
      other.address = other'.address) :
    FewRoutes addresses addressBytes ↔
      (trieOf (familyBits hostAddress addresses addressBytes)).gaps.length ≤ maxRoutes := by
  have lengths : ∀ string ∈ familyBits hostAddress addresses addressBytes,
      string.length = addressBytes * 8 := fun string member => length_of_mem_familyBits member
  have same (string : List Bool) : string ∈ familyBits hostAddress addresses addressBytes ↔
      string ∈ bitsOf addresses addressBytes := by
    rw [mem_familyBits faithful, bitsOf, List.mem_map]
    simp only [List.mem_filter, decide_eq_true_eq, and_assoc]
  have count := length_gaps_trieOf lengths
  rw [length_dedup_congr same, length_properPrefixes_congr same] at count
  rw [FewRoutes]
  omega

theorem complementRoutes_isOk_iff
    (faithful : ∀ other other', hostAddress other = hostAddress other' →
      other.address = other'.address)
    (supported : addressBytes = ipv4Bytes ∨ addressBytes = ipv6Bytes) :
    (∃ routes, complementRoutes hostAddress addresses addressBytes = .ok routes) ↔
      FewRoutes addresses addressBytes := by
  rw [complementRoutes_eq supported, fewRoutes_iff faithful]
  split
  · rename_i few
    exact ⟨fun _ => few, fun _ => ⟨_, rfl⟩⟩
  · rename_i many
    refine ⟨?_, fun few => absurd few many⟩
    rintro ⟨routes, returned⟩
    exact absurd returned (by simp)

theorem enabled_of_resolveSiteExclusions
    (accepted : resolveSiteExclusions hostAddress entries activeNetwork = .ok plan) :
    plan.enabled = false ↔ entries = [] := by
  unfold resolveSiteExclusions at accepted
  split_ifs at accepted with none
  · obtain rfl := Except.ok.inj accepted
    exact ⟨fun _ => none, fun _ => rfl⟩
  · refine ⟨fun disabled => absurd disabled ?_, fun empty => absurd empty none⟩
    split at accepted
    · exact absurd accepted (by simp)
    · split at accepted
      · dsimp only at accepted
        split_ifs at accepted
        split at accepted
        · exact absurd accepted (by simp)
        · split_ifs at accepted
          obtain rfl := Except.ok.inj accepted
          simp
      · exact absurd accepted (by simp)

/-- Which accepted plans can be applied. -/
theorem plan_applies_iff
    (faithful : ∀ other other', hostAddress other = hostAddress other' →
      other.address = other'.address)
    (accepted : resolveSiteExclusions hostAddress entries activeNetwork = .ok plan) (sdkInt : ℕ) :
    (∃ calls, applySiteExclusionRoutes hostAddress sdkInt plan = .ok calls) ↔
      entries = [] ∨ 33 ≤ sdkInt ∨
        FewRoutes plan.bypassAddresses ipv4Bytes ∧ FewRoutes plan.bypassAddresses ipv6Bytes := by
  rw [← enabled_of_resolveSiteExclusions accepted, applySiteExclusionRoutes]
  by_cases disabled : plan.enabled = false
  · simp [disabled]
  · by_cases recent : 33 ≤ sdkInt
    · simp [disabled, recent]
    · rw [if_neg disabled, if_neg recent, or_iff_right disabled, or_iff_right recent,
        ← complementRoutes_isOk_iff faithful (.inl rfl),
        ← complementRoutes_isOk_iff faithful (.inr rfl)]
      constructor
      · rintro ⟨calls, applied⟩
        cases first : complementRoutes hostAddress plan.bypassAddresses ipv4Bytes with
        | error message => simp [first, bind, Except.bind] at applied
        | ok routes =>
            cases second : complementRoutes hostAddress plan.bypassAddresses ipv6Bytes with
            | error message => simp [first, second, bind, Except.bind] at applied
            | ok routes' => exact ⟨⟨routes, rfl⟩, routes', rfl⟩
      · rintro ⟨⟨routes, first⟩, routes', second⟩
        exact ⟨addRoutes routes ++ addRoutes routes', by rw [first, second]; rfl⟩

/-- An IPv6 address with one byte. -/
def spreadAddress (byte : UInt8) : InetAddress :=
  ⟨byte :: List.replicate 15 0, 0⟩

/-- Addresses that differ in their first six bits. -/
def spreadAddresses : List InetAddress :=
  (List.range 34).map fun index => spreadAddress (UInt8.ofNat (4 * index))

def spreadNetwork : Network where
  capabilities := some ⟨true, true⟩
  linkDnsServers := some [⟨[192, 0, 2, 1], 0⟩]
  getAllByName entry := if entry = "a.example" then some spreadAddresses else none

def spreadPlan : SiteExclusionPlan where
  enabled := true
  bypassAddresses := spreadAddresses ++ [⟨[192, 0, 2, 1], 0⟩]
  dnsServers := [⟨[192, 0, 2, 1], 0⟩]
  dnsMode := .direct

/-- The text of the IPv4 address, and of an IPv6 address with one byte. -/
def spreadHostAddress (other : InetAddress) : String :=
  if other.address = [192, 0, 2, 1] then "192.0.2.1"
  else
    match other.address with
    | byte :: rest =>
        if rest = List.replicate 15 0 then
          .ofList ((if byte = 0 then [] else Nat.toDigits 16 (byte.toNat * 256)) ++ [':', ':'])
        else .ofList ('/' :: (byte :: rest).map Char.ofUInt8)
    | [] => "/"

/-- What the service makes of the spread addresses. -/
theorem spread_values :
    resolveSiteExclusions spreadHostAddress ["a.example"] (some spreadNetwork) = .ok spreadPlan ∧
      (trieOf (familyBits spreadHostAddress spreadPlan.bypassAddresses ipv4Bytes)).gaps.length ≤
          maxRoutes ∧
        ((familyBits spreadHostAddress spreadPlan.bypassAddresses ipv6Bytes).map
            (List.take 6)).Nodup ∧
          (familyBits spreadHostAddress spreadPlan.bypassAddresses ipv6Bytes).length = 34 := by
  decide +kernel

theorem spread_many :
    ¬ (trieOf (familyBits spreadHostAddress spreadPlan.bypassAddresses ipv6Bytes)).gaps.length ≤
      maxRoutes := by
  obtain ⟨-, -, apart, count⟩ := spread_values
  have lengths : ∀ string ∈ familyBits spreadHostAddress spreadPlan.bypassAddresses ipv6Bytes,
      string.length = ipv6Bytes * 8 := fun string member => length_of_mem_familyBits member
  generalize familyBits spreadHostAddress spreadPlan.bypassAddresses ipv6Bytes = strings at *
  have gaps := length_gaps_trieOf lengths
  have prefixes := le_length_properPrefixes 6 lengths apart
  have few := (List.dedup_sublist strings).length_le
  rw [count] at prefixes few
  simp only [ipv6Bytes, maxRoutes] at prefixes gaps few ⊢
  omega

/-- The plan for the spread addresses is accepted and cannot be applied. -/
theorem spread_plan_fails :
    resolveSiteExclusions spreadHostAddress ["a.example"] (some spreadNetwork) = .ok spreadPlan ∧
      applySiteExclusionRoutes spreadHostAddress 26 spreadPlan =
        .error "Слишком много маршрутов для безопасного применения исключений" := by
  obtain ⟨accepted, few, -⟩ := spread_values
  refine ⟨accepted, ?_⟩
  have first := (@complementRoutes_eq spreadHostAddress spreadPlan.bypassAddresses ipv4Bytes
    (.inl rfl)).trans (if_pos few)
  have second := (@complementRoutes_eq spreadHostAddress spreadPlan.bypassAddresses ipv6Bytes
    (.inr rfl)).trans (if_neg spread_many)
  rw [applySiteExclusionRoutes, if_neg (by decide), if_neg (by decide), first, second]
  rfl

def sampleNetwork : Network where
  capabilities := some ⟨true, true⟩
  linkDnsServers := some [⟨[192, 0, 2, 1], 0⟩]
  getAllByName _ := some [⟨[192, 0, 2, 1], 0⟩]

/-- A plan of one address that is applied through its complement. -/
theorem plan_applies_sample :
    ∃ calls, applySiteExclusionRoutes (sampleHostAddress [192, 0, 2, 1] "192.0.2.1") 26
      { enabled := true, bypassAddresses := [⟨[192, 0, 2, 1], 0⟩],
        dnsServers := [⟨[192, 0, 2, 1], 0⟩], dnsMode := .direct } = .ok calls := by
  have accepted : resolveSiteExclusions (sampleHostAddress [192, 0, 2, 1] "192.0.2.1")
      ["a.example"] (some sampleNetwork) =
        .ok { enabled := true, bypassAddresses := [⟨[192, 0, 2, 1], 0⟩],
              dnsServers := [⟨[192, 0, 2, 1], 0⟩], dnsMode := .direct } := by
    decide
  have few : FewRoutes [⟨[192, 0, 2, 1], 0⟩] ipv4Bytes := by
    unfold FewRoutes
    decide +kernel
  have none : FewRoutes [⟨[192, 0, 2, 1], 0⟩] ipv6Bytes := by
    unfold FewRoutes
    decide +kernel
  exact (plan_applies_iff (sampleHostAddress_faithful (by decide)) accepted 26).mpr
    (.inr (.inr ⟨few, none⟩))

end ProxyLauncher.Android
