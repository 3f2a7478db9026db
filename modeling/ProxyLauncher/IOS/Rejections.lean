import ProxyLauncher.IOS.Exclusions

/-!
# Rejected hosts

A site and its www name are routed together, and so are an approved dependency and its www
name.  A host that the user rejected can be the other name of an approved dependency.
-/

namespace ProxyLauncher.IOS

open SiteExclusionPolicy SmartExclusionGraph

inductive SmartFlowDisposition where
  | proxy
  | direct
deriving DecidableEq

inductive SmartRouteReason where
  | manualExclusion
  | approvedDependency
  | noMatchingPermission
  | unverifiedHost
deriving DecidableEq

structure SmartRouteEvaluation where
  disposition : SmartFlowDisposition
  reason : SmartRouteReason
deriving DecidableEq

structure SmartFlowRoutingPolicy where
  manualHosts : List String
  approvedDependencyHosts : List String

namespace SmartFlowRoutingPolicy

variable (text : Text)

/-- `init(manual:graph:at:)`. -/
def make (manual : List String) (graph : SmartExclusionGraph) (now : ℚ) :
    Except SiteExclusionError SmartFlowRoutingPolicy := do
  let normalizedManual ← normalizeAll text manual
  let effective ← graph.effective text manual now
  let explicit := (normalizedManual.flatMap (routingHosts text)).filter (isScannableHost text)
  let all := (effective.flatMap (routingHosts text)).filter (isScannableHost text)
  return {
    manualHosts := explicit
    approvedDependencyHosts := all.filter fun host => decide (host ∉ explicit) }

def explain (policy : SmartFlowRoutingPolicy) (host : Option String)
    (_resolvedIP : Option String) : SmartRouteEvaluation :=
  match host.map text.lowercased with
  | none => { disposition := .proxy, reason := .unverifiedHost }
  | some host =>
      if normalized text host = some host ∧ isScannableHost text host = true then
        if host ∈ policy.manualHosts then
          { disposition := .direct, reason := .manualExclusion }
        else if host ∈ policy.approvedDependencyHosts then
          { disposition := .direct, reason := .approvedDependency }
        else { disposition := .proxy, reason := .noMatchingPermission }
      else { disposition := .proxy, reason := .unverifiedHost }

variable {text : Text} {policy : SmartFlowRoutingPolicy} {name host : String}
  {resolvedIP : Option String}

/-- A name is direct exactly when its host can be scanned and the policy has it. -/
theorem explain_direct (named : text.lowercased name = host) :
    (policy.explain text (some name) resolvedIP).disposition = .direct ↔
      isScannableHost text host = true ∧
        (host ∈ policy.manualHosts ∨ host ∈ policy.approvedDependencyHosts) := by
  by_cases scannable : isScannableHost text host = true
  · have clean : normalized text host = some host := by
      rw [normalized, normalize_of_scannable scannable]
      rfl
    by_cases manual : host ∈ policy.manualHosts
    · simp [explain, named, clean, scannable, manual]
    · by_cases approved : host ∈ policy.approvedDependencyHosts
      · simp [explain, named, clean, scannable, manual, approved]
      · simp [explain, named, clean, scannable, manual, approved]
  · simp [explain, named, scannable]

end SmartFlowRoutingPolicy

variable {text : Text} {network : Network} {store : ProfileStore} {manual hosts : List String}
  {graph : SmartExclusionGraph} {now : ℚ} {host entry : String}

/-- An entry of the user, as it is or cleaned once or twice. -/
def UserEntry (text : Text) (manual : List String) (entry : String) : Prop :=
  entry ∈ manual ∨ (∃ raw ∈ manual, normalize text raw = .ok (some entry)) ∨
    Manual text manual entry

/-- The user listed the host, its other name or a site that requires it. -/
def Listed (text : Text) (manual : List String) (host : String) : Prop :=
  ∃ entry, UserEntry text manual entry ∧ host ∈ routingHosts text entry

/-- All the dependencies on the host are rejected. -/
def Rejected (graph : SmartExclusionGraph) (host : String) : Prop :=
  ∀ edge ∈ graph.edges, edge.host = host → edge.decision = .rejected

/-- No dependency on the host is approved. -/
def Unapproved (graph : SmartExclusionGraph) (host : String) : Prop :=
  ∀ edge ∈ graph.edges, edge.host = host → edge.decision ≠ .approved

/-- The exclusions are effective, and the host is the other name of an approved dependency or
required by it. -/
def Accompanies (text : Text) (graph : SmartExclusionGraph) (manual : List String) (now : ℚ)
    (host : String) : Prop :=
  (∃ hosts, graph.effective text manual now = .ok hosts) ∧
    ∃ edge, ApprovedDependency text graph manual now edge ∧ edge.host ≠ host ∧
      host ∈ routingHosts text edge.host

theorem Rejected.unapproved (rejected : Rejected graph host) : Unapproved graph host := by
  intro edge there same
  rw [rejected edge there same]
  decide

theorem Unapproved.pruned (unapproved : Unapproved graph host) :
    Unapproved (graph.pruned text now) host := by
  intro edge there same
  obtain ⟨old, before, -, keeps⟩ := keeps_of_mem_pruned there
  rcases keeps.decision with decision | pending
  · rw [decision]
    exact unapproved old before (keeps.host.symm.trans same)
  · rw [pending]
    decide

/-- The routed hosts of the effective exclusions that the user did not list. -/
theorem routed_iff (done : graph.effective text manual now = .ok hosts)
    (unapproved : Unapproved graph host) (unlisted : ¬ Listed text manual host) :
    (∃ entry ∈ hosts, host ∈ routingHosts text entry) ↔
      Accompanies text graph manual now host := by
  constructor
  · rintro ⟨entry, there, routed⟩
    rcases (mem_effective done).mp there with manual | ⟨edge, dependency, rfl⟩
    · exact absurd ⟨entry, .inr (.inr manual), routed⟩ unlisted
    · have other : edge.host ≠ host := by
        rintro rfl
        exact unapproved.pruned edge dependency.1 rfl dependency.2.1
      exact ⟨⟨hosts, done⟩, edge, dependency, other, routed⟩
  · rintro ⟨-, edge, dependency, -, routed⟩
    exact ⟨edge.host, (mem_effective done).mpr (.inr ⟨edge, dependency, rfl⟩), routed⟩

theorem of_mem_resolveApproved {pairs : List (String × String)} {lookups lookups' : ℕ}
    {approved approved' : Dictionary (List String)}
    (resolved : resolveApproved network pairs lookups approved = .ok (approved', lookups'))
    (member : host ∈ approved') : host ∈ approved ∨ ∃ entry, (entry, host) ∈ pairs := by
  induction pairs generalizing lookups approved with
  | nil =>
      obtain ⟨rfl, -⟩ := Prod.mk.inj (Except.ok.inj resolved)
      exact .inl member
  | cons pair pairs ih =>
      obtain ⟨entry, named⟩ := pair
      rw [resolveApproved] at resolved
      have later (approved : Dictionary (List String)) (lookups : ℕ)
          (rest : resolveApproved network pairs lookups approved = .ok (approved', lookups')) :
          host ∈ approved ∨ ∃ entry', (entry', host) ∈ (entry, named) :: pairs := by
        rcases ih rest with there | ⟨entry', there⟩
        · exact .inl there
        · exact .inr ⟨entry', by simp [there]⟩
      split at resolved
      · rename_i addresses _
        rcases later _ _ resolved with there | found
        · rcases (AList.mem_insert _).mp there with rfl | before
          · exact .inr ⟨entry, by simp⟩
          · exact .inl before
        · exact .inr found
      · split at resolved
        · exact absurd resolved (by simp)
        · exact later _ _ resolved

/-- With a resolver that always answers, every host is approved. -/
theorem resolveApproved_answering (answers : ∀ lookups host, (network.lookup lookups host).isSome)
    (pairs : List (String × String)) (lookups : ℕ) (approved : Dictionary (List String)) :
    ∃ approved' lookups', resolveApproved network pairs lookups approved =
        .ok (approved', lookups') ∧
      ∀ host, (host ∈ approved ∨ ∃ entry, (entry, host) ∈ pairs) → host ∈ approved' := by
  induction pairs generalizing lookups approved with
  | nil => exact ⟨approved, lookups, rfl, by simp⟩
  | cons pair pairs ih =>
      obtain ⟨entry, named⟩ := pair
      obtain ⟨addresses, answered⟩ := Option.isSome_iff_exists.mp (answers lookups named)
      obtain ⟨approved', lookups', resolved, all⟩ :=
        ih (lookups + 1) (approved.insert named addresses)
      refine ⟨approved', lookups', by rw [resolveApproved, answered]; exact resolved, ?_⟩
      rintro host (there | ⟨entry', member⟩)
      · exact all host (.inl ((AList.mem_insert _).mpr (.inr there)))
      · rcases List.mem_cons.mp member with first | later
        · obtain ⟨-, rfl⟩ := Prod.mk.inj first
          exact all host (.inl ((AList.mem_insert _).mpr (.inl rfl)))
        · exact all host (.inr ⟨entry', later⟩)

theorem mem_routingPairs {entries : List String} :
    (∃ entry, (entry, host) ∈ routingPairs text entries) ↔
      ∃ entry ∈ entries, host ∈ routingHosts text entry := by
  simp [routingPairs]

/-- The tunnel can approve the host. -/
def Approvable (text : Text) (network : Network) (store : ProfileStore) (read now : ℚ)
    (host : String) : Prop :=
  ∃ lookup approved lookups, resolveApproved { network with lookup }
      (routingPairs text (store.siteExclusions text read now)) 0 ∅ = .ok (approved, lookups) ∧
    host ∈ approved

theorem approvable_iff {read : ℚ} :
    Approvable text network store read now host ↔
      ∃ entry ∈ store.siteExclusions text read now, host ∈ routingHosts text entry := by
  rw [← mem_routingPairs]
  constructor
  · rintro ⟨lookup, approved, lookups, resolved, member⟩
    exact (of_mem_resolveApproved resolved member).resolve_left (AList.notMem_empty host)
  · intro routed
    obtain ⟨approved, lookups, resolved, all⟩ :=
      @resolveApproved_answering { network with lookup := fun _ _ => some [] } (fun _ _ => rfl)
        (routingPairs text (store.siteExclusions text read now)) 0 ∅
    exact ⟨_, approved, lookups, resolved, all host (.inr routed)⟩

theorem approvable_iff_accompanies {read : ℚ} (rejected : Rejected store.graph host)
    (unlisted : ¬ Listed text store.manualSiteExclusions host) :
    Approvable text network store read now host ↔
      Accompanies text (store.smartGraph text read) store.manualSiteExclusions now host := by
  rw [approvable_iff]
  rcases outcome : (store.smartGraph text read).effective text store.manualSiteExclusions now
    with error | hosts
  · have entries : store.siteExclusions text read now = store.manualSiteExclusions := by
      rw [ProfileStore.siteExclusions, outcome]
      rfl
    rw [entries]
    constructor
    · rintro ⟨entry, given, routed⟩
      exact absurd ⟨entry, .inl given, routed⟩ unlisted
    · rintro ⟨⟨hosts, done⟩, -⟩
      exact absurd (outcome.symm.trans done) (by simp)
  · have entries : store.siteExclusions text read now = hosts := by
      rw [ProfileStore.siteExclusions, outcome]
      rfl
    rw [entries]
    exact routed_iff outcome rejected.unapproved.pruned unlisted

/-- The policy lets a flow to the host go direct. -/
def GoesDirect (text : Text) (manual : List String) (graph : SmartExclusionGraph) (now : ℚ)
    (host : String) : Prop :=
  ∃ policy name resolvedIP, SmartFlowRoutingPolicy.make text manual graph now = .ok policy ∧
    text.lowercased name = host ∧
    (policy.explain text (some name) resolvedIP).disposition = .direct

theorem goesDirect_iff_accompanies (rejected : Rejected graph host)
    (unlisted : ¬ Listed text manual host) :
    GoesDirect text manual graph now host ↔
      isScannableHost text host = true ∧ Accompanies text graph manual now host := by
  constructor
  · rintro ⟨policy, name, resolvedIP, made, named, direct⟩
    obtain ⟨scannable, places⟩ := (SmartFlowRoutingPolicy.explain_direct named).mp direct
    obtain ⟨entries, listed, rest⟩ := Python.bind_eq_ok.mp made
    obtain ⟨hosts, done, rest⟩ := Python.bind_eq_ok.mp rest
    obtain rfl := Except.ok.inj rest
    refine ⟨scannable, (routed_iff done rejected.unapproved unlisted).mp ?_⟩
    rcases places with explicit | approved
    · obtain ⟨entry, there, routed⟩ := List.mem_flatMap.mp (List.mem_filter.mp explicit).1
      have given := (mem_normalizeAll listed).mp there
      exact absurd ⟨entry, .inr (.inl given), routed⟩ unlisted
    · have all := (List.mem_filter.mp approved).1
      exact List.mem_flatMap.mp (List.mem_filter.mp all).1
  · rintro ⟨scannable, accompanies⟩
    obtain ⟨hosts, done⟩ := accompanies.1
    obtain ⟨entries, listed, -⟩ := Python.bind_eq_ok.mp done
    have routed := (routed_iff done rejected.unapproved unlisted).mpr accompanies
    have named := text.lowercased_host host (all_hostChar_of_scannable scannable)
    refine ⟨_, host, none, Python.bind_eq_ok.mpr ⟨entries, listed,
      Python.bind_eq_ok.mpr ⟨hosts, done, rfl⟩⟩, named, ?_⟩
    rw [SmartFlowRoutingPolicy.explain_direct named]
    refine ⟨scannable, ?_⟩
    by_cases explicit : host ∈ (entries.flatMap (routingHosts text)).filter (isScannableHost text)
    · exact .inl explicit
    · refine .inr (List.mem_filter.mpr ⟨List.mem_filter.mpr ⟨?_, scannable⟩, ?_⟩)
      · exact List.mem_flatMap.mpr routed
      · exact decide_eq_true explicit

/-- A host whose dependencies are all rejected, and that the user did not list, is neither
approved by the tunnel nor direct in the policy, exactly when it accompanies no approved
dependency. -/
theorem rejected_stays_proxied_iff {read : ℚ} (rejected : Rejected store.graph host)
    (unlisted : ¬ Listed text store.manualSiteExclusions host) :
    (¬ Approvable text network store read now host ↔
      ¬ Accompanies text (store.smartGraph text read) store.manualSiteExclusions now host) ∧
    (¬ GoesDirect text store.manualSiteExclusions store.graph now host ↔
      ¬ (isScannableHost text host = true ∧
        Accompanies text store.graph store.manualSiteExclusions now host)) :=
  ⟨not_congr (approvable_iff_accompanies rejected unlisted),
    not_congr (goesDirect_iff_accompanies rejected unlisted)⟩

/-- The user approved a host and rejected its www name. -/
def contradicted : ProfileStore where
  manualSiteExclusions := ["a.io"]
  graph := {
    edges := [
      { parent := "a.io", host := "b.a.io", evidence := .both, decision := .approved,
        lastSeen := 0 },
      { parent := "a.io", host := "www.b.a.io", evidence := .both, decision := .rejected,
        lastSeen := 0, userLinked := some true }]
    suppressed := some [] }

theorem contradicted_rejected : Rejected contradicted.graph "www.b.a.io" := by
  intro edge member same
  simp only [contradicted, List.mem_cons, List.not_mem_nil, or_false] at member
  rcases member with rfl | rfl
  · exact absurd same (by decide)
  · rfl

/-- What the texts of the sample are to the checks of the graph. -/
theorem contradictedHosts :
    normalize plainText "a.io" = .ok (some "a.io") ∧
      isScannableHost plainText "www.b.a.io" = true ∧
        routingHosts plainText "a.io" = ["a.io", "www.a.io"] ∧
          "www.b.a.io" ∈ routingHosts plainText "b.a.io" ∧
            contradicted.graph.effective plainText ["a.io"] 1 = .ok ["a.io", "b.a.io"] := by
  decide +kernel

theorem userEntry_site (user : UserEntry plainText ["a.io"] entry) : entry = "a.io" := by
  have cleaned := contradictedHosts.1
  have once {raw entry : String} (given : raw = "a.io")
      (again : normalize plainText raw = .ok (some entry)) : entry = "a.io" := by
    rw [given, cleaned] at again
    simpa using again.symm
  rcases user with given | ⟨raw, given, first⟩ | ⟨raw, given, middle, first, second⟩
  · exact List.mem_singleton.mp given
  · exact once (List.mem_singleton.mp given) first
  · exact once (once (List.mem_singleton.mp given) first) second

theorem contradicted_unlisted :
    ¬ Listed plainText contradicted.manualSiteExclusions "www.b.a.io" := by
  rintro ⟨entry, user, routed⟩
  rw [userEntry_site user, contradictedHosts.2.2.1] at routed
  exact absurd routed (by decide)

theorem contradicted_accompanies :
    Accompanies plainText contradicted.graph ["a.io"] 1 "www.b.a.io" := by
  have effective := contradictedHosts.2.2.2.2
  refine ⟨⟨_, effective⟩, ?_⟩
  rcases (mem_effective effective).mp (List.mem_cons_of_mem _ (List.mem_singleton.mpr rfl)) with
    manual | ⟨edge, dependency, same⟩
  · exact absurd (userEntry_site (.inr (.inr manual))) (by decide)
  · exact ⟨edge, dependency, by rw [same]; decide, by rw [same]; exact contradictedHosts.2.2.2.1⟩

/-- The rejected www name of an approved host is direct. -/
theorem rejected_goes_direct :
    Rejected contradicted.graph "www.b.a.io" ∧
      ¬ Listed plainText contradicted.manualSiteExclusions "www.b.a.io" ∧
      GoesDirect plainText contradicted.manualSiteExclusions contradicted.graph 1
        "www.b.a.io" := by
  refine ⟨contradicted_rejected, contradicted_unlisted, ?_⟩
  rw [goesDirect_iff_accompanies contradicted_rejected contradicted_unlisted]
  exact ⟨contradictedHosts.2.1, contradicted_accompanies⟩

/-- The user rejected a dependency of a site. -/
def forbidden : ProfileStore where
  manualSiteExclusions := ["a.io"]
  graph := {
    edges := [
      { parent := "a.io", host := "b.a.io", evidence := .both, decision := .rejected,
        lastSeen := 0, userLinked := some true }]
    suppressed := some [] }

theorem forbidden_unlisted :
    ¬ Listed plainText forbidden.manualSiteExclusions "b.a.io" := by
  rintro ⟨entry, user, routed⟩
  rw [userEntry_site user, contradictedHosts.2.2.1] at routed
  exact absurd routed (by decide)

theorem forbidden_rejected : Rejected forbidden.graph "b.a.io" := by
  intro edge member _
  obtain rfl := List.mem_singleton.mp member
  rfl

/-- Nothing that is rejected accompanies a dependency without an approved one. -/
theorem not_accompanies (none : ∀ edge ∈ graph.edges, edge.decision ≠ .approved) :
    ¬ Accompanies text graph manual now host := by
  rintro ⟨-, edge, dependency, -⟩
  have unapproved : Unapproved graph edge.host := fun other there _ => none other there
  exact unapproved.pruned edge dependency.1 rfl dependency.2.1

/-- A rejected dependency of a site whose other dependencies are not approved either. -/
theorem rejected_stays_proxied_sample :
    ¬ Approvable plainText stableNetwork forbidden 1 1 "b.a.io" ∧
      ¬ GoesDirect plainText forbidden.manualSiteExclusions forbidden.graph 1 "b.a.io" := by
  obtain ⟨tunnel, policy⟩ := @rejected_stays_proxied_iff plainText stableNetwork forbidden 1
    "b.a.io" 1 forbidden_rejected forbidden_unlisted
  have decisions : ∀ edge ∈ forbidden.graph.edges, edge.decision ≠ .approved := by
    decide
  have pruned : ∀ edge ∈ (forbidden.smartGraph plainText 1).edges, edge.decision ≠ .approved := by
    decide +kernel
  constructor
  · exact tunnel.mpr (not_accompanies pruned)
  · exact policy.mpr fun accompanied => not_accompanies decisions accompanied.2

end ProxyLauncher.IOS
