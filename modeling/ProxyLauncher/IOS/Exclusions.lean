import ProxyLauncher.IOS.Dictionary
import ProxyLauncher.IOS.SmartExclusionGraph

/-!
# Direct routes

The tunnel resolves the effective exclusions.  A host that is known and not approved guards its
addresses: an approved host with one of them gets no direct route.
-/

namespace ProxyLauncher.IOS

open SiteExclusionPolicy SmartExclusionGraph

namespace SharedIPRouteGuard

structure Plan where
  allowedAddresses : List String
  dnsBypass : List String
  withheldAddresses : List String
  blockedHosts : List String
deriving DecidableEq

variable (canonicalAddress : String → Option String)

/-- The canonical addresses of a host. -/
def canonical (addresses : List String) : List String :=
  sortedSet (addresses.filterMap canonicalAddress)

def normalizedApproved (approved : Dictionary (List String)) : List (String × List String) :=
  approved.pairs.map fun pair => (pair.1, canonical canonicalAddress pair.2)

def normalizedDenied (nonApproved : Dictionary (Option (List String))) :
    List (Option (List String)) :=
  nonApproved.pairs.map fun pair => pair.2.map (canonical canonicalAddress)

/-- A host that is not approved has no known address. -/
def unverified (nonApproved : Dictionary (Option (List String))) : Bool :=
  (normalizedDenied canonicalAddress nonApproved).any fun addresses =>
    addresses == none || addresses == some []

def withheld (approved : Dictionary (List String))
    (nonApproved : Dictionary (Option (List String))) : List String :=
  let nonApprovedIPs :=
    ((normalizedDenied canonicalAddress nonApproved).filterMap fun addresses => addresses).flatten
  let approvedIPs := ((normalizedApproved canonicalAddress approved).map Prod.snd).flatten
  if unverified canonicalAddress nonApproved then approvedIPs
  else approvedIPs.filter fun address => decide (address ∈ nonApprovedIPs)

def safeHosts (approved : Dictionary (List String))
    (nonApproved : Dictionary (Option (List String))) : List (String × List String) :=
  (normalizedApproved canonicalAddress approved).filter fun pair =>
    !pair.2.isEmpty && pair.2.all fun address =>
      decide (address ∉ withheld canonicalAddress approved nonApproved)

def plan (approved : Dictionary (List String)) (nonApproved : Dictionary (Option (List String))) :
    Plan :=
  let safe := safeHosts canonicalAddress approved nonApproved
  { allowedAddresses := sortedSet (safe.map Prod.snd).flatten
    dnsBypass := (safe.flatMap fun pair =>
      pair.2.map fun address => pair.1 ++ "=" ++ address).insertionSort (· ≤ ·)
    withheldAddresses := sortedSet (withheld canonicalAddress approved nonApproved)
    blockedHosts := (approved.keys.filter fun host =>
      decide (host ∉ safe.map Prod.fst)).insertionSort (· ≤ ·) }

variable {canonicalAddress : String → Option String} {approved : Dictionary (List String)}
  {nonApproved : Dictionary (Option (List String))}

/-- The answer for a host that proves nothing about its addresses. -/
def Unknown (canonicalAddress : String → Option String) (answer : Option (List String)) : Prop :=
  ∀ addresses, answer = some addresses → addresses.filterMap canonicalAddress = []

@[simp] theorem canonical_eq_nil {addresses : List String} :
    canonical canonicalAddress addresses = [] ↔ addresses.filterMap canonicalAddress = [] := by
  constructor
  · intro empty
    rw [List.eq_nil_iff_forall_not_mem]
    intro address member
    have there : address ∈ canonical canonicalAddress addresses := mem_sortedSet.mpr member
    exact absurd (empty ▸ there) (by simp)
  · intro empty
    rw [canonical, empty]
    rfl

theorem unverified_of_unknown {host : String} {answer : Option (List String)}
    (there : nonApproved.lookup host = some answer) (unknown : Unknown canonicalAddress answer) :
    unverified canonicalAddress nonApproved = true := by
  rw [unverified, List.any_eq_true]
  refine ⟨answer.map (canonical canonicalAddress), List.mem_map.mpr
    ⟨(host, answer), Dictionary.mem_pairs.mpr there, rfl⟩, ?_⟩
  cases answer with
  | none => rfl
  | some addresses => simp [canonical_eq_nil.mpr (unknown addresses rfl)]

/-- No host is safe when an answer is unknown. -/
theorem safeHosts_of_unverified (unsure : unverified canonicalAddress nonApproved = true) :
    safeHosts canonicalAddress approved nonApproved = [] := by
  rw [safeHosts, List.filter_eq_nil_iff]
  rintro ⟨host, addresses⟩ member safe
  simp only [Bool.and_eq_true, Bool.not_eq_true', List.isEmpty_eq_false_iff, List.all_eq_true,
    decide_eq_true_eq] at safe
  obtain ⟨address, rest, rfl⟩ := List.exists_cons_of_ne_nil safe.1
  refine safe.2 address (by simp) ?_
  rw [withheld, if_pos unsure, List.mem_flatten]
  exact ⟨_, List.mem_map.mpr ⟨_, member, rfl⟩, by simp⟩

theorem safeHosts_of_no_address
    (none : ∀ host addresses, approved.lookup host = some addresses →
      addresses.filterMap canonicalAddress = []) :
    safeHosts canonicalAddress approved nonApproved = [] := by
  rw [safeHosts, List.filter_eq_nil_iff]
  intro pair member
  obtain ⟨⟨host, addresses⟩, there, rfl⟩ := List.mem_map.mp member
  have empty := canonical_eq_nil.mpr (none host addresses (Dictionary.mem_pairs.mp there))
  simp [empty]

/-- Without other hosts every approved host that has an address is safe. -/
theorem mem_safeHosts_of_alone {host : String} {addresses : List String}
    (there : approved.lookup host = some addresses)
    (known : addresses.filterMap canonicalAddress ≠ []) :
    (host, canonical canonicalAddress addresses) ∈ safeHosts canonicalAddress approved ∅ := by
  have none : withheld canonicalAddress approved ∅ = [] := by
    simp [withheld, unverified, normalizedDenied, Dictionary.pairs]
  rw [safeHosts, List.mem_filter, none]
  refine ⟨List.mem_map.mpr ⟨(host, addresses), Dictionary.mem_pairs.mpr there, rfl⟩, ?_⟩
  simpa using mt canonical_eq_nil.mp known

end SharedIPRouteGuard

/-- What the app keeps for the tunnel. -/
structure ProfileStore where
  manualSiteExclusions : List String
  graph : SmartExclusionGraph

structure SplitDNSExclusions where
  addresses : List String
  dnsBypass : List String
deriving DecidableEq

inductive TunnelError where
  | unresolved (host : String)
  | tooManyAddresses
deriving DecidableEq

/-- The clock, and the resolver that is asked again and again.  A lookup throws or has the
addresses of the host. -/
structure Network where
  date : ℕ → ℚ
  lookup : ℕ → String → Option (List String)
  canonicalAddress : String → Option String

variable (text : Text) (network : Network)

/-- `smartGraph`, read at a date. -/
def ProfileStore.smartGraph (store : ProfileStore) (now : ℚ) : SmartExclusionGraph :=
  store.graph.pruned text now

/-- `siteExclusions`: the effective exclusions, or the list of the user when they throw. -/
def ProfileStore.siteExclusions (store : ProfileStore) (read now : ℚ) : List String :=
  ((((store.smartGraph text read).effective text store.manualSiteExclusions now).toOption).getD
    store.manualSiteExclusions)

/-- Each entry with a host to resolve for it. -/
def routingPairs (entries : List String) : List (String × String) :=
  entries.flatMap fun entry => (routingHosts text entry).map fun host => (entry, host)

/-- The loop over the entries, after some lookups. -/
def resolveApproved : List (String × String) → ℕ → Dictionary (List String) →
    Except TunnelError (Dictionary (List String) × ℕ)
  | [], lookups, approved => .ok (approved, lookups)
  | (entry, host) :: pairs, lookups, approved =>
      match network.lookup lookups host with
      | some addresses => resolveApproved pairs (lookups + 1) (approved.insert host addresses)
      | none =>
          if host = entry then .error (.unresolved host)
          else resolveApproved pairs (lookups + 1) approved

/-- The loop over the candidates. -/
def resolveDenied : List String → ℕ → Dictionary (Option (List String)) →
    Dictionary (Option (List String)) × ℕ
  | [], lookups, denied => (denied, lookups)
  | host :: hosts, lookups, denied =>
      resolveDenied hosts (lookups + 1) (denied.insert host (network.lookup lookups host))

/-- The hosts of the graph that are not approved. -/
def refused (store : ProfileStore) (read now : ℚ) : List String :=
  ((((store.smartGraph text read).pruned text now).edges.filter fun edge =>
    decide (edge.decision ≠ .approved)).map SmartDependency.host)

/-- `Set(refused).subtracting(approved.keys)`, sorted. -/
def candidates (refused : List String) (approved : Dictionary (List String)) : List String :=
  sortedSet (refused.filter fun host => decide (host ∉ approved))

/-- The answers for the candidates.  Over the cap a `nil` is assigned to a name in a dictionary
of optionals, which removes the name. -/
def deniedAnswers (candidates : List String) (lookups : ℕ) :
    Dictionary (Option (List String)) × ℕ :=
  if candidates.length > maxEntries then
    ((∅ : Dictionary (Option (List String))).erase "unverified-over-cap.example.invalid", lookups)
  else resolveDenied network candidates lookups ∅

/-- `resolveExclusions`, for a store that is there. -/
def resolveExclusions (store : ProfileStore) (upstream : String) :
    Except TunnelError SplitDNSExclusions := do
  let refused := refused text store (network.date 0) (network.date 1)
  let entries := store.siteExclusions text (network.date 2) (network.date 3)
  let (approved, lookups) ← resolveApproved network (routingPairs text entries) 0 ∅
  let (denied, lookups) := deniedAnswers network (candidates refused approved) lookups
  let guarded := SharedIPRouteGuard.plan network.canonicalAddress approved denied
  match network.lookup lookups upstream with
  | none => throw (.unresolved upstream)
  | some proxy =>
      let addresses := sortedSet (guarded.allowedAddresses ++ proxy)
      if addresses.length > maxResolvedAddresses then throw .tooManyAddresses
      return { addresses, dnsBypass := guarded.dnsBypass }

variable {text : Text} {network : Network} {store : ProfileStore} {upstream host : String}
  {approved approved' : Dictionary (List String)} {pairs : List (String × String)}
  {lookups lookups' : ℕ} {result : SplitDNSExclusions} {addresses : List String}

/-- The answer to a lookup of the host in the loop over the entries that starts after some
lookups, which no later one in it replaces. -/
def Answered (network : Network) (pairs : List (String × String)) (lookups : ℕ) (host : String)
    (addresses : List String) : Prop :=
  ∃ index entry, pairs[index]? = some (entry, host) ∧
    network.lookup (lookups + index) host = some addresses ∧
    ∀ later entry', index < later → pairs[later]? = some (entry', host) →
      network.lookup (lookups + later) host = none

/-- No lookup of the host in the loop is answered. -/
def Unanswered (network : Network) (pairs : List (String × String)) (lookups : ℕ)
    (host : String) : Prop :=
  ∀ index entry, pairs[index]? = some (entry, host) → network.lookup (lookups + index) host = none

instance (network : Network) (pairs : List (String × String)) (lookups : ℕ) (host : String) :
    Decidable (Unanswered network pairs lookups host) :=
  decidable_of_iff (∀ pair ∈ pairs.zipIdx, pair.1.2 = host →
    network.lookup (lookups + pair.2) host = none) (by
  constructor
  · intro each index entry there
    exact each ((entry, host), index) (List.mem_zipIdx_iff_getElem?.mpr there) rfl
  · rintro all ⟨⟨entry, named⟩, index⟩ member rfl
    exact all index entry (List.mem_zipIdx_iff_getElem?.mp member))

theorem unanswered_cons {pair : String × String} :
    Unanswered network (pair :: pairs) lookups host ↔
      (pair.2 = host → network.lookup lookups host = none) ∧
        Unanswered network pairs (lookups + 1) host := by
  constructor
  · intro none
    refine ⟨fun same => none 0 pair.1 (by rw [← same]; rfl), fun index entry there => ?_⟩
    rw [Nat.add_right_comm, Nat.add_assoc]
    exact none (index + 1) entry there
  · rintro ⟨first, rest⟩ index entry there
    cases index with
    | zero => exact first (by rw [Option.some.inj there])
    | succ index =>
        have none := rest index entry there
        rwa [Nat.add_right_comm, Nat.add_assoc] at none

theorem answered_cons {pair : String × String} :
    Answered network (pair :: pairs) lookups host addresses ↔
      Answered network pairs (lookups + 1) host addresses ∨
        pair.2 = host ∧ network.lookup lookups host = some addresses ∧
          Unanswered network pairs (lookups + 1) host := by
  have shift (index : ℕ) : lookups + 1 + index = lookups + (index + 1) := by omega
  constructor
  · rintro ⟨index, entry, there, answered, last⟩
    cases index with
    | zero =>
        refine .inr ⟨by rw [Option.some.inj there], answered, fun index entry' there' => ?_⟩
        rw [shift]
        exact last (index + 1) entry' (by omega) there'
    | succ index =>
        refine .inl ⟨index, entry, there, by rw [shift]; exact answered,
          fun later entry' after there' => ?_⟩
        rw [shift]
        exact last (later + 1) entry' (by omega) there'
  · rintro (⟨index, entry, there, answered, last⟩ | ⟨same, answered, rest⟩)
    · refine ⟨index + 1, entry, there, by rw [← shift]; exact answered, ?_⟩
      intro later entry' after there'
      obtain ⟨later, rfl⟩ := Nat.exists_eq_add_of_lt after
      rw [show index + 1 + later + 1 = (index + later + 1) + 1 by omega] at there' ⊢
      rw [← shift]
      exact last _ entry' (by omega) there'
    · refine ⟨0, pair.1, by rw [← same]; rfl, answered, ?_⟩
      intro later entry' after there'
      obtain ⟨later, rfl⟩ := Nat.exists_eq_succ_of_ne_zero (Nat.pos_iff_ne_zero.mp after)
      rw [Nat.succ_eq_add_one, ← shift]
      exact rest later entry' there'

/-- Each host has the answer that the loop got last. -/
theorem lookup_resolveApproved
    (resolved : resolveApproved network pairs lookups approved = .ok (approved', lookups')) :
    lookups' = lookups + pairs.length ∧ ∀ host addresses,
      approved'.lookup host = some addresses ↔
        Answered network pairs lookups host addresses ∨
          Unanswered network pairs lookups host ∧ approved.lookup host = some addresses := by
  induction pairs generalizing lookups approved with
  | nil =>
      obtain ⟨rfl, rfl⟩ := Prod.mk.inj (Except.ok.inj resolved)
      simp [Answered, Unanswered]
  | cons pair pairs ih =>
      obtain ⟨entry, named⟩ := pair
      rw [resolveApproved] at resolved
      split at resolved
      · rename_i found answer
        obtain ⟨count, each⟩ := ih resolved
        refine ⟨by rw [count, List.length_cons]; omega, fun host addresses => ?_⟩
        rw [each, answered_cons, unanswered_cons]
        by_cases same : named = host
        · subst same
          simp [answer]
          tauto
        · rw [AList.lookup_insert_ne (Ne.symm same)]
          simp [same]
      · rename_i answer
        split_ifs at resolved
        obtain ⟨count, each⟩ := ih resolved
        refine ⟨by rw [count, List.length_cons]; omega, fun host addresses => ?_⟩
        rw [each, answered_cons, unanswered_cons]
        by_cases same : named = host
        · subst same
          simp [answer]
        · simp [same]

theorem answered_or_unanswered :
    (∃ addresses, Answered network pairs lookups host addresses) ∨
      Unanswered network pairs lookups host := by
  induction pairs generalizing lookups with
  | nil => exact .inr (by simp [Unanswered])
  | cons pair pairs ih =>
      rcases @ih (lookups + 1) with ⟨addresses, answered⟩ | rest
      · exact .inl ⟨addresses, answered_cons.mpr (.inl answered)⟩
      · by_cases same : pair.2 = host
        · cases answer : network.lookup lookups host with
          | none => exact .inr (unanswered_cons.mpr ⟨fun _ => answer, rest⟩)
          | some addresses =>
              exact .inl ⟨addresses, answered_cons.mpr (.inr ⟨same, answer, rest⟩)⟩
        · exact .inr (unanswered_cons.mpr ⟨fun there => absurd there same, rest⟩)

/-- The hosts to resolve for the effective exclusions. -/
def entryPairs (text : Text) (network : Network) (store : ProfileStore) :
    List (String × String) :=
  routingPairs text (store.siteExclusions text (network.date 2) (network.date 3))

/-- The hosts of the graph that are not approved and that the loop over the entries got no answer
for, each once and in order. -/
def unapprovedHosts (text : Text) (network : Network) (store : ProfileStore) : List String :=
  sortedSet ((refused text store (network.date 0) (network.date 1)).filter fun host =>
    decide (Unanswered network (entryPairs text network store) 0 host))

/-- The loop over the entries decides which hosts are candidates. -/
theorem candidates_eq
    (resolved : resolveApproved network (entryPairs text network store) 0 ∅ =
      .ok (approved, lookups)) :
    candidates (refused text store (network.date 0) (network.date 1)) approved =
      unapprovedHosts text network store := by
  have answers := (lookup_resolveApproved resolved).2
  rw [candidates, unapprovedHosts]
  congr 2
  funext host
  rw [decide_eq_decide]
  constructor
  · intro absent
    rcases answered_or_unanswered with ⟨addresses, answered⟩ | none
    · have found := (answers host addresses).mpr (.inl answered)
      exact absurd (AList.lookup_isSome.mp (by rw [found]; rfl)) absent
    · exact none
  · intro none there
    obtain ⟨addresses, found⟩ := Option.isSome_iff_exists.mp (AList.lookup_isSome.mpr there)
    rcases (answers host addresses).mp found with ⟨index, entry, given, answered, -⟩ | ⟨-, old⟩
    · exact absurd (answered.symm.trans (none index entry given)) (by simp)
    · exact absurd old (by simp)

/-! ## The candidates and their answers -/

theorem lookup_resolveDenied_of_notMem {hosts : List String}
    {denied : Dictionary (Option (List String))} {host : String} (other : host ∉ hosts) :
    (resolveDenied network hosts lookups denied).1.lookup host = denied.lookup host := by
  induction hosts generalizing lookups denied with
  | nil => rfl
  | cons first hosts ih =>
      rw [List.mem_cons, not_or] at other
      rw [resolveDenied, ih other.2, AList.lookup_insert_ne other.1]

/-- The answer for each candidate is kept, also when there is none. -/
theorem lookup_resolveDenied {hosts : List String} (distinct : hosts.Nodup)
    {denied : Dictionary (Option (List String))} {index : ℕ} {host : String}
    (there : hosts[index]? = some host) :
    (resolveDenied network hosts lookups denied).1.lookup host =
      some (network.lookup (lookups + index) host) := by
  induction hosts generalizing lookups denied index with
  | nil => exact absurd there (by simp)
  | cons first hosts ih =>
      obtain ⟨new, distinct⟩ := List.nodup_cons.mp distinct
      rw [resolveDenied]
      cases index with
      | zero =>
          obtain rfl : first = host := by simpa using there
          rw [lookup_resolveDenied_of_notMem new, AList.lookup_insert, Nat.add_zero]
      | succ index =>
          rw [ih distinct (by simpa using there), Nat.add_right_comm, Nat.add_assoc]

theorem nodup_sortedSet (values : List String) : (sortedSet values).Nodup :=
  (List.perm_insertionSort _ _).nodup_iff.mpr values.nodup_dedup

/-- A call that returns has the addresses of the plan and those of the proxy. -/
theorem resolveExclusions_eq_ok
    (returned : resolveExclusions text network store upstream = .ok result) :
    ∃ approved, (∀ host addresses, approved.lookup host = some addresses ↔
        Answered network (entryPairs text network store) 0 host addresses) ∧
      let denied := deniedAnswers network (unapprovedHosts text network store)
        (entryPairs text network store).length
      let guarded := SharedIPRouteGuard.plan network.canonicalAddress approved denied.1
      ∃ proxy, network.lookup denied.2 upstream = some proxy ∧
        result.addresses = sortedSet (guarded.allowedAddresses ++ proxy) ∧
        result.dnsBypass = guarded.dnsBypass := by
  obtain ⟨⟨approved, lookups⟩, resolved, rest⟩ := Python.bind_eq_ok.mp returned
  obtain ⟨count, answers⟩ := lookup_resolveApproved resolved
  rw [Nat.zero_add] at count
  subst count
  refine ⟨approved, fun host addresses => by rw [answers]; simp [entryPairs], ?_⟩
  rw [← candidates_eq resolved]
  dsimp only at rest
  split at rest
  · exact absurd rest (by simp [throw, throwThe, MonadExceptOf.throw])
  · rename_i proxy answered
    split at rest
    · exact absurd rest (by simp [throw, throwThe, MonadExceptOf.throw])
    · obtain rfl := Except.ok.inj rest
      exact ⟨proxy, answered, rfl, rfl⟩

theorem resolveExclusions_of
    (resolved : resolveApproved network (routingPairs text
      (store.siteExclusions text (network.date 2) (network.date 3))) 0 ∅ = .ok (approved, lookups))
    {denied : Dictionary (Option (List String))} {asked : ℕ} {proxy : List String}
    (unapproved : deniedAnswers network (candidates
      (refused text store (network.date 0) (network.date 1)) approved) lookups = (denied, asked))
    (answered : network.lookup asked upstream = some proxy)
    (few : (sortedSet ((SharedIPRouteGuard.plan network.canonicalAddress approved
      denied).allowedAddresses ++ proxy)).length ≤ maxResolvedAddresses) :
    resolveExclusions text network store upstream = .ok
      { addresses := sortedSet ((SharedIPRouteGuard.plan network.canonicalAddress approved
          denied).allowedAddresses ++ proxy)
        dnsBypass := (SharedIPRouteGuard.plan network.canonicalAddress approved
          denied).dnsBypass } := by
  unfold resolveExclusions
  simp only [resolved, bind, Except.bind, unapproved, answered, if_neg (not_lt.mpr few)]
  rfl

/-- There are too many candidates, or the lookup of one of them fails or has no address. -/
def Unproven (network : Network) (candidates : List String) (lookups : ℕ) : Prop :=
  candidates.length > maxEntries ∨ ∃ index host, candidates[index]? = some host ∧
    SharedIPRouteGuard.Unknown network.canonicalAddress (network.lookup (lookups + index) host)

/-- The only direct route is the one to the proxy. -/
def OnlyUpstream (network : Network) (asked : ℕ) (upstream : String)
    (result : SplitDNSExclusions) : Prop :=
  result.dnsBypass = [] ∧ ∀ address ∈ result.addresses,
    ∃ proxy, network.lookup asked upstream = some proxy ∧ address ∈ proxy

theorem onlyUpstream_of_safeHosts {denied : Dictionary (Option (List String))} {asked : ℕ}
    {proxy : List String}
    (none : SharedIPRouteGuard.safeHosts network.canonicalAddress approved denied = [])
    (answered : network.lookup asked upstream = some proxy)
    (addresses : result.addresses = sortedSet
      ((SharedIPRouteGuard.plan network.canonicalAddress approved denied).allowedAddresses ++
        proxy))
    (bypass : result.dnsBypass =
      (SharedIPRouteGuard.plan network.canonicalAddress approved denied).dnsBypass) :
    OnlyUpstream network asked upstream result := by
  constructor
  · rw [bypass, SharedIPRouteGuard.plan, none]
    rfl
  · intro address member
    rw [addresses, mem_sortedSet, SharedIPRouteGuard.plan, none] at member
    exact ⟨proxy, answered, by simpa using member⟩

/-- The exclusions fail closed exactly when there are not too many candidates, or the loop over
the entries gets no address at all. -/
theorem exclusions_fail_closed_iff
    (returned : resolveExclusions text network store upstream = .ok result) :
    (Unproven network (unapprovedHosts text network store)
        (entryPairs text network store).length →
      OnlyUpstream network (deniedAnswers network (unapprovedHosts text network store)
        (entryPairs text network store).length).2 upstream result) ↔
      ((unapprovedHosts text network store).length ≤ maxEntries ∨
        ∀ host addresses, Answered network (entryPairs text network store) 0 host addresses →
          addresses.filterMap network.canonicalAddress = []) := by
  obtain ⟨approved, answers, proxy, answered, addresses, bypass⟩ :=
    resolveExclusions_eq_ok returned
  generalize (entryPairs text network store).length = lookups at *
  constructor
  · intro closed
    by_contra open'
    rw [not_or, not_le] at open'
    obtain ⟨tooMany, known⟩ := open'
    push Not at known
    obtain ⟨host, found, there, usable⟩ := known
    have alone : (deniedAnswers network (unapprovedHosts text network store) lookups).1 = ∅ := by
      rw [deniedAnswers, if_pos tooMany]
      rfl
    have safe := SharedIPRouteGuard.mem_safeHosts_of_alone ((answers host found).mpr there) usable
    have empty := (closed (.inl tooMany)).1
    obtain ⟨address, rest, shape⟩ := List.exists_cons_of_ne_nil
      (mt SharedIPRouteGuard.canonical_eq_nil.mp usable)
    have member : host ++ "=" ++ address ∈ result.dnsBypass := by
      rw [bypass, alone, SharedIPRouteGuard.plan, List.mem_insertionSort, List.mem_flatMap]
      exact ⟨_, safe, List.mem_map.mpr ⟨address, by rw [shape]; simp, rfl⟩⟩
    exact absurd (empty ▸ member) (by simp)
  · rintro (within | none) unproven
    · rcases unproven with tooMany | ⟨index, host, there, unknown⟩
      · exact absurd tooMany (not_lt.mpr within)
      · have kept : (deniedAnswers network (unapprovedHosts text network store) lookups).1.lookup
            host = some (network.lookup (lookups + index) host) := by
          rw [deniedAnswers, if_neg (not_lt.mpr within)]
          exact lookup_resolveDenied (nodup_sortedSet _) there
        exact onlyUpstream_of_safeHosts (SharedIPRouteGuard.safeHosts_of_unverified
          (SharedIPRouteGuard.unverified_of_unknown kept unknown)) answered addresses bypass
    · apply onlyUpstream_of_safeHosts (SharedIPRouteGuard.safeHosts_of_no_address ?_) answered
        addresses bypass
      intro host found there
      exact none host found ((answers host found).mp there)

/-- A host that the user has rejected for a site. -/
def rejection (parent : String) (chars : Char × Char) : SmartDependency where
  parent := parent
  host := shortChild chars
  evidence := .network
  decision := .rejected
  lastSeen := 0
  userLinked := some true

def rejectedLetters : List Char :=
  ['0', '1', '2', '3', '4', '5', '6', '7', '8', '9', 'a', 'b', 'c', 'd', 'e', 'f', 'g', 'h', 'i',
    'j', 'k', 'l', 'm', 'n']

/-- One rejected host more than the lookups that are allowed. -/
def overloaded : SmartExclusionGraph where
  edges := (rejectedLetters.map fun char => rejection "a.io" ('0', char)) ++
    (rejectedLetters.take 9).map fun char => rejection "c.io" ('1', char)
  suppressed := some []

/-- What the texts of the sample are to the checks of the graph. -/
theorem overloadedHosts :
    rejectedLetters.all shortLetter = true ∧ root plainText "a.io" = some "a.io" ∧
      root plainText "c.io" = some "c.io" ∧ normalizeAll plainText ["m.io"] = .ok ["m.io"] ∧
        routingPairs plainText ["m.io"] = [("m.io", "m.io"), ("m.io", "www.m.io")] := by
  decide

theorem rejection_admissible {parent : String} {first second : Char}
    (site : root plainText parent = some parent) (short : parent.toList.length = 4)
    (firstShort : shortLetter first = true) (secondShort : shortLetter second = true) :
    admissible plainText overloaded 1 (rejection parent (first, second)) = true := by
  have scannable := isScannableHost_shortChild firstShort secondShort
  have length : (shortChild (first, second)).toList.length = 7 := by
    rw [shortChild, String.toList_ofList]
    rfl
  have other : shortChild (first, second) ≠ parent := by
    rintro rfl
    exact absurd (length.symm.trans short) (by decide)
  have noAlias : shortChild (first, second) ≠ "www." ++ parent := by
    intro same
    have lengths := congrArg (fun name => name.toList.length) same
    rw [length, String.toList_append, List.length_append, short] at lengths
    exact absurd lengths (by decide)
  have alive : (rejection parent (first, second)).id ∉ overloaded.denials :=
    List.not_mem_nil
  have linked : (rejection parent (first, second)).userLinked = some true := rfl
  have seen : (rejection parent (first, second)).lastSeen ≤ 1 := zero_le_one
  have scannable' : isScannableHost plainText (rejection parent (first, second)).host = true :=
    scannable
  have other' : (rejection parent (first, second)).host ≠
      (rejection parent (first, second)).parent := other
  have noAlias' : (rejection parent (first, second)).host ≠
      "www." ++ (rejection parent (first, second)).parent := noAlias
  have named : root plainText (rejection parent (first, second)).parent =
      some (rejection parent (first, second)).parent := site
  rw [admissible, decide_eq_true seen, decide_eq_true linked, decide_eq_true alive, scannable',
    decide_eq_true other', decide_eq_true noAlias', decide_eq_true named]
  simp only [Bool.and_self, Bool.or_true, Bool.true_or]

theorem overloaded_edges {edge : SmartDependency} (member : edge ∈ overloaded.edges) :
    ∃ parent first second, edge = rejection parent (first, second) ∧
      (parent = "a.io" ∨ parent = "c.io") ∧ shortLetter first = true ∧
      shortLetter second = true := by
  have short := overloadedHosts.1
  rcases List.mem_append.mp member with first | second
  · obtain ⟨char, letter, rfl⟩ := List.mem_map.mp first
    exact ⟨_, _, _, rfl, .inl rfl, by decide, List.all_eq_true.mp short char letter⟩
  · obtain ⟨char, letter, rfl⟩ := List.mem_map.mp second
    exact ⟨_, _, _, rfl, .inr rfl, by decide,
      List.all_eq_true.mp short char (List.mem_of_mem_take letter)⟩

theorem overloaded_pruned : overloaded.pruned plainText 1 = overloaded := by
  have all : overloaded.edges.filter (admissible plainText overloaded 1) = overloaded.edges := by
    rw [List.filter_eq_self]
    intro edge member
    obtain ⟨parent, first, second, rfl, rfl | rfl, firstShort, secondShort⟩ :=
      overloaded_edges member
    · exact rejection_admissible overloadedHosts.2.1 (by decide) firstShort secondShort
    · exact rejection_admissible overloadedHosts.2.2.1 (by decide) firstShort secondShort
  rw [pruned, all]
  decide +kernel

theorem overloaded_approvedChildren : overloaded.approvedChildren plainText ["m.io"] 1 = [] := by
  rw [approvedChildren, overloaded_pruned, List.filter_eq_nil_iff]
  intro edge member
  obtain ⟨parent, first, second, rfl, -⟩ := overloaded_edges member
  intro approved
  rw [Bool.and_eq_true, decide_eq_true_eq] at approved
  have decision : SmartDecision.rejected = .approved := approved.1
  exact absurd decision (by decide)

theorem overloaded_effective : overloaded.effective plainText ["m.io"] 1 = .ok ["m.io"] := by
  have listed := overloadedHosts.2.2.2.1
  refine Python.bind_eq_ok.mpr ⟨["m.io"], listed, ?_⟩
  rw [overloaded_approvedChildren]
  exact listed

/-- A resolver that answers at once. -/
def stableNetwork : Network where
  date _ := 1
  lookup _ host := if host = "m.io" then some ["192.0.2.7"]
    else if host = "proxy.io" then some ["198.51.100.9"] else none
  canonicalAddress address := some address

def overloadedStore : ProfileStore where
  manualSiteExclusions := ["m.io"]
  graph := overloaded

def overloadedApproved : Dictionary (List String) :=
  (∅ : Dictionary (List String)).insert "m.io" ["192.0.2.7"]

theorem overloadedStore_smartGraph (index : ℕ) :
    overloadedStore.smartGraph plainText (stableNetwork.date index) = overloaded :=
  overloaded_pruned

theorem overloaded_pairs :
    entryPairs plainText stableNetwork overloadedStore =
      [("m.io", "m.io"), ("m.io", "www.m.io")] := by
  have effective : overloaded.effective plainText overloadedStore.manualSiteExclusions
      (stableNetwork.date 3) = .ok ["m.io"] := overloaded_effective
  rw [entryPairs, ProfileStore.siteExclusions, overloadedStore_smartGraph, effective]
  exact overloadedHosts.2.2.2.2

theorem overloaded_resolves :
    resolveApproved stableNetwork (entryPairs plainText stableNetwork overloadedStore) 0 ∅ =
      .ok (overloadedApproved, 2) := by
  rw [overloaded_pairs]
  simp [resolveApproved, stableNetwork, overloadedApproved]

theorem overloaded_many :
    (unapprovedHosts plainText stableNetwork overloadedStore).length > maxEntries := by
  have again : overloaded.pruned plainText (stableNetwork.date 1) = overloaded :=
    overloaded_pruned
  rw [← candidates_eq overloaded_resolves, refused, overloadedStore_smartGraph, again]
  decide

/-- Over the cap, what the user listed keeps its direct route. -/
theorem overloaded_returns :
    resolveExclusions plainText stableNetwork overloadedStore "proxy.io" =
      .ok { addresses := ["192.0.2.7", "198.51.100.9"], dnsBypass := ["m.io=192.0.2.7"] } := by
  have nothing : deniedAnswers stableNetwork
      (candidates (refused plainText overloadedStore (stableNetwork.date 0)
        (stableNetwork.date 1)) overloadedApproved) 2 = (∅, 2) := by
    rw [candidates_eq overloaded_resolves]
    exact if_pos overloaded_many
  have guarded : SharedIPRouteGuard.plan stableNetwork.canonicalAddress overloadedApproved ∅ =
      { allowedAddresses := ["192.0.2.7"], dnsBypass := ["m.io=192.0.2.7"],
        withheldAddresses := [], blockedHosts := [] } := by
    decide
  have answered : stableNetwork.lookup 2 "proxy.io" = some ["198.51.100.9"] := by
    decide
  have returned := resolveExclusions_of overloaded_resolves nothing answered
    (by rw [guarded]; decide)
  rw [returned, guarded]
  decide +kernel

/-- The exclusions do not fail closed over the cap. -/
theorem exclusions_fail_open :
    ∃ store result, resolveExclusions plainText stableNetwork store "proxy.io" = .ok result ∧
      Unproven stableNetwork (unapprovedHosts plainText stableNetwork store)
        (entryPairs plainText stableNetwork store).length ∧
      ¬ OnlyUpstream stableNetwork (deniedAnswers stableNetwork
        (unapprovedHosts plainText stableNetwork store)
        (entryPairs plainText stableNetwork store).length).2 "proxy.io" result := by
  refine ⟨_, _, overloaded_returns, .inl overloaded_many, ?_⟩
  rintro ⟨bypass, -⟩
  exact absurd bypass (by decide)

/-- One host that the user has rejected, and that has no address. -/
def guardedStore : ProfileStore where
  manualSiteExclusions := ["m.io"]
  graph := { edges := [rejection "a.io" ('0', '1')], suppressed := some [] }

/-- What the exclusions of that store are. -/
theorem guarded_values :
    resolveExclusions plainText stableNetwork guardedStore "proxy.io" =
        .ok { addresses := ["198.51.100.9"], dnsBypass := [] } ∧
      unapprovedHosts plainText stableNetwork guardedStore = ["01.a.io"] ∧
        entryPairs plainText stableNetwork guardedStore =
          [("m.io", "m.io"), ("m.io", "www.m.io")] := by
  decide +kernel

/-- A rejected host without an address withholds the route of what the user listed. -/
theorem exclusions_fail_closed_sample :
    Answered stableNetwork (entryPairs plainText stableNetwork guardedStore) 0 "m.io"
        ["192.0.2.7"] ∧
      OnlyUpstream stableNetwork (deniedAnswers stableNetwork
        (unapprovedHosts plainText stableNetwork guardedStore)
        (entryPairs plainText stableNetwork guardedStore).length).2 "proxy.io"
        { addresses := ["198.51.100.9"], dnsBypass := [] } := by
  obtain ⟨returned, hosts, pairs⟩ := guarded_values
  have unknown (lookups : ℕ) : stableNetwork.lookup lookups "01.a.io" = none := by
    simp [stableNetwork]
  constructor
  · rw [pairs]
    refine ⟨0, "m.io", rfl, by simp [stableNetwork], ?_⟩
    intro later entry after there
    obtain rfl : later = 1 := by
      have short := (List.getElem?_eq_some_iff.mp there).1
      rw [List.length_cons, List.length_singleton] at short
      omega
    exact absurd there (by simp)
  · apply (exclusions_fail_closed_iff returned).mpr (.inl (by rw [hosts]; decide))
    refine .inr ⟨0, "01.a.io", by rw [hosts]; rfl, ?_⟩
    intro addresses found
    rw [unknown] at found
    cases found

end ProxyLauncher.IOS
