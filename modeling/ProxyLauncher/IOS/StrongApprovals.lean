import ProxyLauncher.IOS.Pruning
import ProxyLauncher.Selection.Greedy

/-!
# Automatic approvals

`approveStrongFirstParty` approves the dependencies one by one while the effective exclusions can
be computed.  A dependency that pruning drops or that has unapproved duplicates costs nothing, so
that it is approved although its host does not become effective.
-/

namespace ProxyLauncher.IOS

open SiteExclusionPolicy SmartDependency Selection

namespace SmartExclusionGraph

variable (text : Text)

/-- The dependency is pending, seen in both ways and a host of the site that is no tracker. -/
def Strong (parent : String) (edge : SmartDependency) : Prop :=
  edge.parent = parent ∧ edge.decision = .pending ∧ edge.evidence = .both ∧
    validChild text edge.host parent = true ∧ eligibleForAutomaticBypass text edge.host = true

instance (parent : String) (edge : SmartDependency) : Decidable (Strong text parent edge) :=
  inferInstanceAs (Decidable (_ ∧ _))

/-- The dependency about the same. -/
def About (parent host : String) (edge : SmartDependency) : Prop :=
  edge.parent = parent ∧ edge.host = host

instance (parent host : String) (edge : SmartDependency) : Decidable (About parent host edge) :=
  inferInstanceAs (Decidable (_ ∧ _))

/-- Approving the strong dependencies of the host makes it direct: it is within the limits, and
its dependencies agree on the link and are approved or strong. -/
def Ready (graph : SmartExclusionGraph) (parent : String) (now : ℚ) (host : String) : Prop :=
  (∃ edge ∈ graph.considered text now, About parent host edge ∧
    WithinLimits (graph.considered text now) edge) ∧
  ∀ edge ∈ graph.considered text now, About parent host edge →
    (edge.decision = .approved ∨ Strong text parent edge) ∧
      ∀ other ∈ graph.considered text now, About parent host other →
        other.userLinked = edge.userLinked

instance (graph : SmartExclusionGraph) (parent : String) (now : ℚ) (host : String) :
    Decidable (Ready text graph parent now host) :=
  inferInstanceAs (Decidable (_ ∧ _))

/-- The dependency at an index after the approval of some. -/
def approvedAt (accepted : Finset ℕ) (index : ℕ) (edge : SmartDependency) : SmartDependency :=
  if index ∈ accepted then { edge with decision := .approved } else edge

/-- The graph after the approval of some dependencies. -/
def approving (graph : SmartExclusionGraph) (accepted : Finset ℕ) : SmartExclusionGraph :=
  { graph with edges := graph.edges.mapIdx (approvedAt accepted) }

section ApprovedAt

variable (accepted : Finset ℕ) (index : ℕ) (edge : SmartDependency)

@[simp] theorem approvedAt_parent : (approvedAt accepted index edge).parent = edge.parent := by
  unfold approvedAt
  split_ifs <;> rfl

@[simp] theorem approvedAt_host : (approvedAt accepted index edge).host = edge.host := by
  unfold approvedAt
  split_ifs <;> rfl

@[simp] theorem approvedAt_id : (approvedAt accepted index edge).id = edge.id := by
  unfold approvedAt
  split_ifs <;> rfl

@[simp] theorem approvedAt_userLinked :
    (approvedAt accepted index edge).userLinked = edge.userLinked := by
  unfold approvedAt
  split_ifs <;> rfl

theorem approvedAt_decision : (approvedAt accepted index edge).decision = .approved ↔
    index ∈ accepted ∨ edge.decision = .approved := by
  unfold approvedAt
  split_ifs with member <;> simp [member]

@[simp] theorem about_approvedAt {parent host : String} :
    About parent host (approvedAt accepted index edge) ↔ About parent host edge := by
  simp [About]

/-- Neither the decisions of a graph nor the one of the dependency matter. -/
@[simp] theorem admissible_approvedAt (graph : SmartExclusionGraph) (approved : Finset ℕ)
    (now : ℚ) : admissible text (graph.approving approved) now (approvedAt accepted index edge) =
      admissible text graph now edge := by
  unfold approvedAt
  split_ifs <;> rfl

end ApprovedAt

variable {text : Text} {graph : SmartExclusionGraph} {parent host raw : String} {now : ℚ}
  {edge : SmartDependency} {manual entries values hosts : List String} {accepted : Finset ℕ}
  {index : ℕ}

/-- Pruning leaves an approved dependency about this. -/
def Approves (text : Text) (graph : SmartExclusionGraph) (now : ℚ) (parent host : String) : Prop :=
  ∃ edge ∈ (graph.pruned text now).edges, edge.decision = .approved ∧ About parent host edge

/-- A host is approved when it is within the limits and all its dependencies are approved and
agree on the link. -/
theorem approves_iff : Approves text graph now parent host ↔
    (∃ edge ∈ graph.considered text now, About parent host edge ∧
      WithinLimits (graph.considered text now) edge) ∧
    ∀ edge ∈ graph.considered text now, About parent host edge → edge.decision = .approved ∧
      ∀ other ∈ graph.considered text now, About parent host other →
        other.userLinked = edge.userLinked := by
  constructor
  · rintro ⟨edge, member, direct, ⟨rfl, rfl⟩⟩
    obtain ⟨there, within⟩ := mem_pruned_iff.mp member
    obtain ⟨newest, inNewest, id, sameParent, sameHost, -⟩ := exists_considered there
    refine ⟨⟨newest, inNewest, ⟨sameParent, sameHost⟩, (withinLimits_congr sameParent id).mp within⟩,
      ?_⟩
    have grouped {other : SmartDependency} (member : other ∈ graph.considered text now)
        (about : About edge.parent edge.host other) :
        other ∈ group SmartDependency.id (graph.considered text now) edge.id :=
      mem_group.mpr ⟨member, congrArg₂ dependencyID about.1 about.2⟩
    rcases (mergedFrom_of_mem_byID there).agreed with all | ⟨pending, -⟩
    · intro other inOther about
      have own := all other (grouped inOther about)
      refine ⟨own.1.trans direct, fun third inThird about' => ?_⟩
      exact (all third (grouped inThird about')).2.trans own.2.symm
    · exact absurd (pending.symm.trans direct) (by simp)
  · rintro ⟨⟨edge, member, ⟨rfl, rfl⟩, within⟩, all⟩
    obtain ⟨entry, there, id, sameParent, sameHost⟩ := exists_byID member
    have kept : entry ∈ (graph.pruned text now).edges :=
      mem_pruned_iff.mpr ⟨there, (withinLimits_congr sameParent id).mp within⟩
    refine ⟨entry, kept, ?_, sameParent, sameHost⟩
    have about {other : SmartDependency}
        (grouped : other ∈ group SmartDependency.id (graph.considered text now) entry.id) :
        other ∈ graph.considered text now ∧ About edge.parent edge.host other := by
      obtain ⟨inOther, same⟩ := mem_group.mp grouped
      exact ⟨inOther, names_of_id (List.mem_filter.mp inOther).2 (List.mem_filter.mp member).2
        (same.trans id)⟩
    obtain ⟨⟨newest, inGroup, -⟩, -, agreed⟩ := mergedFrom_of_mem_byID there
    have newestAbout := about inGroup
    rcases agreed with same | ⟨-, -, first, inFirst, second, inSecond, disagree⟩
    · exact (same newest inGroup).1.symm.trans (all newest newestAbout.1 newestAbout.2).1
    · have one := about inFirst
      have two := about inSecond
      rcases disagree with decisions | links
      · exact absurd ((all first one.1 one.2).1.trans (all second two.1 two.2).1.symm) decisions
      · exact absurd ((all second two.1 two.2).2 first one.1 one.2) links

theorem getElem_approving : (graph.approving accepted).edges[index]? =
    graph.edges[index]?.map (approvedAt accepted index) := by
  rw [approving, List.getElem?_mapIdx]

theorem approving_empty : graph.approving ∅ = graph := by
  refine congrArg₂ SmartExclusionGraph.mk (List.ext_getElem? fun index => ?_) rfl
  rw [List.getElem?_mapIdx]
  cases graph.edges[index]? with
  | none => rfl
  | some edge => simp [approvedAt]

theorem set_approving (found : graph.edges[index]? = some edge) :
    (graph.approving accepted).edges.set index { edge with decision := .approved } =
      (graph.approving (insert index accepted)).edges := by
  refine List.ext_getElem? fun other => ?_
  rw [List.getElem?_set, getElem_approving, getElem_approving]
  have bound : index < graph.edges.length := (List.getElem?_eq_some_iff.mp found).1
  by_cases same : index = other
  · subst same
    rw [if_pos rfl, if_pos (by simpa [approving] using bound), found]
    simp [approvedAt]
  · have unchanged : approvedAt (insert index accepted) other = approvedAt accepted other := by
      funext edge
      simp [approvedAt, Ne.symm same]
    rw [if_neg same, unchanged]

theorem mem_considered_approving : edge ∈ (graph.approving accepted).considered text now ↔
    ∃ index old, graph.edges[index]? = some old ∧ old ∈ graph.considered text now ∧
      edge = approvedAt accepted index old := by
  simp only [considered, List.mem_filter]
  constructor
  · rintro ⟨member, valid⟩
    obtain ⟨index, found⟩ := List.mem_iff_getElem?.mp member
    rw [getElem_approving] at found
    obtain ⟨old, there, rfl⟩ := Option.map_eq_some_iff.mp found
    rw [admissible_approvedAt] at valid
    exact ⟨index, old, there, ⟨List.mem_of_getElem? there, valid⟩, rfl⟩
  · rintro ⟨index, old, there, ⟨-, valid⟩, rfl⟩
    refine ⟨List.mem_iff_getElem?.mpr ⟨index, ?_⟩, (admissible_approvedAt ..).trans valid⟩
    rw [getElem_approving, there, Option.map_some]

/-- A considered dependency, after the approvals. -/
theorem exists_approvedAt (member : edge ∈ graph.considered text now) :
    ∃ index, graph.edges[index]? = some edge ∧
      approvedAt accepted index edge ∈ (graph.approving accepted).considered text now := by
  obtain ⟨index, found⟩ := List.mem_iff_getElem?.mp (List.mem_filter.mp member).1
  exact ⟨index, found, mem_considered_approving.mpr ⟨index, edge, found, member, rfl⟩⟩

theorem withinLimits_approvedAt :
    WithinLimits ((graph.approving accepted).considered text now) (approvedAt accepted index edge) ↔
      WithinLimits (graph.considered text now) edge := by
  refine within_congr (by simp) (by simp) ?_ ?_
  · intro edge member
    obtain ⟨index, old, -, there, rfl⟩ := mem_considered_approving.mp member
    exact ⟨old, there, by simp, by simp⟩
  · intro old there
    obtain ⟨index, -, member⟩ := exists_approvedAt there
    exact ⟨_, member, by simp, by simp⟩

theorem considered_approving_iff :
    (∃ edge ∈ (graph.approving accepted).considered text now, About parent host edge ∧
      WithinLimits ((graph.approving accepted).considered text now) edge) ↔
    ∃ edge ∈ graph.considered text now, About parent host edge ∧
      WithinLimits (graph.considered text now) edge := by
  constructor
  · rintro ⟨edge, member, about, within⟩
    obtain ⟨index, old, -, there, rfl⟩ := mem_considered_approving.mp member
    exact ⟨old, there, (about_approvedAt ..).mp about, withinLimits_approvedAt.mp within⟩
  · rintro ⟨old, there, about, within⟩
    obtain ⟨index, -, member⟩ := exists_approvedAt there
    exact ⟨_, member, (about_approvedAt ..).mpr about, withinLimits_approvedAt.mpr within⟩

/-- The host at an index. -/
def hostAt (graph : SmartExclusionGraph) (index : ℕ) : String :=
  (graph.edges[index]?.map SmartDependency.host).getD ""

/-- The strong dependencies of the site. -/
def strongIndices (text : Text) (graph : SmartExclusionGraph) (parent : String) : Finset ℕ :=
  (Finset.range graph.edges.length).filter fun index =>
    graph.edges[index]?.any fun edge => decide (Strong text parent edge)

/-- The strong dependencies that decide whether their hosts become effective. -/
def countingIndices (text : Text) (graph : SmartExclusionGraph) (parent : String) (now : ℚ) :
    Finset ℕ :=
  (strongIndices text graph parent).filter fun index =>
    graph.edges[index]?.any fun edge =>
      admissible text graph now edge && decide (Ready text graph parent now edge.host)

theorem mem_strongIndices : index ∈ strongIndices text graph parent ↔
    ∃ edge, graph.edges[index]? = some edge ∧ Strong text parent edge := by
  simp only [strongIndices, Finset.mem_filter, Finset.mem_range, Option.any_eq_true,
    decide_eq_true_eq]
  refine and_iff_right_of_imp ?_
  rintro ⟨edge, found, -⟩
  exact (List.getElem?_eq_some_iff.mp found).1

theorem mem_countingIndices : index ∈ countingIndices text graph parent now ↔
    ∃ edge, graph.edges[index]? = some edge ∧ Strong text parent edge ∧
      edge ∈ graph.considered text now ∧ Ready text graph parent now edge.host := by
  simp only [countingIndices, Finset.mem_filter, mem_strongIndices, Option.any_eq_true,
    Bool.and_eq_true, decide_eq_true_eq, considered, List.mem_filter]
  constructor
  · rintro ⟨⟨edge, found, strong⟩, _, again, valid, ready⟩
    obtain rfl := Option.some.inj (found.symm.trans again)
    exact ⟨edge, found, strong, ⟨List.mem_of_getElem? found, valid⟩, ready⟩
  · rintro ⟨edge, found, strong, ⟨-, valid⟩, ready⟩
    exact ⟨⟨edge, found, strong⟩, edge, found, valid, ready⟩

theorem hostAt_of_found (found : graph.edges[index]? = some edge) :
    graph.hostAt index = edge.host := by
  rw [hostAt, found]
  rfl

/-- The limit of the effective exclusions, of which there are some already. -/
def approvalBudget (text : Text) (graph : SmartExclusionGraph) (parent : String) (now : ℚ)
    (hosts : List String) (affordable : hosts.toFinset.card ≤ maxEntries) : Budget String where
  subject := graph.hostAt
  candidates := strongIndices text graph parent
  counting := countingIndices text graph parent now
  counting_subset := Finset.filter_subset _ _
  base := hosts.toFinset
  limit := maxEntries
  affordable := affordable

/-- A host is approved after the approvals when it was before or all its strong dependencies are
approved. -/
theorem approves_approving {affordable : hosts.toFinset.card ≤ maxEntries} {site : String}
    (strong : accepted ⊆ strongIndices text graph parent) :
    Approves text (graph.approving accepted) now site host ↔ Approves text graph now site host ∨
      (site = parent ∧
        host ∈ (approvalBudget text graph parent now hosts affordable).completed accepted) := by
  rw [approves_iff, approves_iff, considered_approving_iff, Budget.mem_completed]
  constructor
  · rintro ⟨within, all⟩
    -- Each considered dependency of the host is approved, or strong and accepted.
    have each {index : ℕ} {edge : SmartDependency} (found : graph.edges[index]? = some edge)
        (there : edge ∈ graph.considered text now) (about : About site host edge) :
        (index ∈ accepted ∨ edge.decision = .approved) ∧
          ∀ other ∈ graph.considered text now, About site host other →
            other.userLinked = edge.userLinked := by
      have own := all (approvedAt accepted index edge)
        (mem_considered_approving.mpr ⟨index, edge, found, there, rfl⟩) (by simpa using about)
      refine ⟨(approvedAt_decision ..).mp own.1, fun other inOther about' => ?_⟩
      obtain ⟨index', -, member⟩ := exists_approvedAt inOther
      have same := own.2 _ member (by simpa using about')
      simpa using same
    by_cases new : ∃ index ∈ accepted, ∃ edge, graph.edges[index]? = some edge ∧
        edge ∈ graph.considered text now ∧ About site host edge
    · obtain ⟨index, isAccepted, edge, found, there, about⟩ := new
      have strongAt {index : ℕ} {edge : SmartDependency} (isAccepted : index ∈ accepted)
          (found : graph.edges[index]? = some edge) : Strong text parent edge := by
        obtain ⟨same, found', isStrong⟩ := mem_strongIndices.mp (strong isAccepted)
        exact Option.some.inj (found'.symm.trans found) ▸ isStrong
      obtain rfl : site = parent := about.1.symm.trans (strongAt isAccepted found).1
      have ready : Ready text graph site now host := by
        refine ⟨within, fun other inOther about' => ?_⟩
        obtain ⟨index', found'⟩ := List.mem_iff_getElem?.mp (List.mem_filter.mp inOther).1
        obtain ⟨either, links⟩ := each found' inOther about'
        exact ⟨either.elim (fun isAccepted => .inr (strongAt isAccepted found')) .inl, links⟩
      refine .inr ⟨rfl, ⟨index, mem_countingIndices.mpr
        ⟨edge, found, strongAt isAccepted found, there, about.2 ▸ ready⟩,
        (hostAt_of_found found).trans about.2⟩, ?_⟩
      intro other counts own
      obtain ⟨edge', found', isStrong, there', -⟩ := mem_countingIndices.mp counts
      have about' : About site host edge' := ⟨isStrong.1, (hostAt_of_found found').symm.trans own⟩
      refine (each found' there' about').1.resolve_right fun direct => ?_
      exact absurd (direct.symm.trans isStrong.2.1) (by simp)
    · left
      refine ⟨within, fun edge there about => ?_⟩
      obtain ⟨index, found⟩ := List.mem_iff_getElem?.mp (List.mem_filter.mp there).1
      obtain ⟨either, links⟩ := each found there about
      exact ⟨either.resolve_left fun isAccepted => new ⟨index, isAccepted, edge, found, there, about⟩,
        links⟩
  · -- What was approved or is strong and accepted is approved, with the links as they were.
    have enough (within : ∃ edge ∈ graph.considered text now, About site host edge ∧
          WithinLimits (graph.considered text now) edge)
        (each : ∀ index edge, graph.edges[index]? = some edge →
          edge ∈ graph.considered text now → About site host edge →
            (index ∈ accepted ∨ edge.decision = .approved) ∧
              ∀ other ∈ graph.considered text now, About site host other →
                other.userLinked = edge.userLinked) :
        (∃ edge ∈ graph.considered text now, About site host edge ∧
          WithinLimits (graph.considered text now) edge) ∧
        ∀ edge ∈ (graph.approving accepted).considered text now, About site host edge →
          edge.decision = .approved ∧
            ∀ other ∈ (graph.approving accepted).considered text now, About site host other →
              other.userLinked = edge.userLinked := by
      refine ⟨within, fun edge member about => ?_⟩
      obtain ⟨index, old, found, there, rfl⟩ := mem_considered_approving.mp member
      obtain ⟨either, links⟩ := each index old found there (by simpa using about)
      refine ⟨(approvedAt_decision ..).mpr either, fun other member' about' => ?_⟩
      obtain ⟨_, old', -, there', rfl⟩ := mem_considered_approving.mp member'
      simpa using links old' there' (by simpa using about')
    rintro (⟨within, all⟩ | ⟨rfl, ⟨index, counts, own⟩, complete⟩)
    · refine enough within fun index edge _ there about => ?_
      exact ⟨.inr (all edge there about).1, (all edge there about).2⟩
    · obtain ⟨first, found, -, -, ready⟩ := mem_countingIndices.mp counts
      have named : first.host = host := (hostAt_of_found found).symm.trans own
      rw [named] at ready
      refine enough ready.1 fun index edge found there about => ?_
      obtain ⟨either, links⟩ := ready.2 edge there about
      refine ⟨either.elim .inr fun isStrong => .inl ?_, links⟩
      refine complete index (mem_countingIndices.mpr ⟨edge, found, isStrong, there, ?_⟩)
        ((hostAt_of_found found).trans about.2)
      rw [about.2]
      exact ready

/-! ## The effective exclusions -/

theorem normalizeEach_append (first second : List String) :
    normalizeEach text (first ++ second) = (do
      let values ← normalizeEach text first
      let others ← normalizeEach text second
      return values ++ others) := by
  induction first with
  | nil =>
      rw [List.nil_append]
      cases other : normalizeEach text second with
      | error error => rfl
      | ok values => rfl
  | cons raw first ih =>
      rw [List.cons_append, normalizeEach, normalizeEach, ih]
      cases normalize text raw with
      | error error => rfl
      | ok value =>
          cases normalizeEach text first with
          | error error => rfl
          | ok values =>
              cases normalizeEach text second with
              | error error => rfl
              | ok others => simp [bind, Except.bind, pure, Except.pure]

theorem normalizeEach_scannable
    (scannable : ∀ host ∈ hosts, isScannableHost text host = true) :
    normalizeEach text hosts = .ok hosts := by
  induction hosts with
  | nil => rfl
  | cons host hosts ih =>
      rw [normalizeEach, normalize_of_scannable (scannable host (by simp)),
        ih fun other there => scannable other (by simp [there])]
      rfl

theorem toFinset_sortedSet (values : List String) : (sortedSet values).toFinset = values.toFinset := by
  ext value
  simp

theorem length_sortedSet (values : List String) :
    (sortedSet values).length = values.toFinset.card := by
  rw [sortedSet, List.length_insertionSort, List.card_toFinset]

/-- The hosts of the approved dependencies of the sites. -/
def children (text : Text) (graph : SmartExclusionGraph) (entries : List String) (now : ℚ) :
    List String :=
  (graph.approvedChildren text entries now).map SmartDependency.host

/-- What the user lists does not depend on the graph, and the hosts of the graph are clean. -/
theorem effective_of (listed : normalizeAll text manual = .ok entries)
    (each : normalizeEach text entries = .ok values) :
    graph.effective text manual now =
      if (values ++ graph.children text entries now).toFinset.card > maxEntries then
        .error .tooMany
      else .ok (sortedSet (values ++ graph.children text entries now)) := by
  have scannable : ∀ host ∈ graph.children text entries now, isScannableHost text host = true := by
    intro host member
    obtain ⟨edge, approved, rfl⟩ := List.mem_map.mp member
    exact scannable_of_mem_pruned (List.mem_filter.mp approved).1
  have all : normalizeEach text (entries ++ graph.children text entries now) =
      .ok (values ++ graph.children text entries now) := by
    rw [normalizeEach_append, each, normalizeEach_scannable scannable]
    rfl
  rw [effective, listed]
  change normalizeAll text (entries ++ graph.children text entries now) = _
  rw [normalizeAll, all]
  simp only [bind, Except.bind, length_sortedSet]
  split_ifs <;> rfl

/-- An effective list has been put together like this. -/
theorem exists_values (done : graph.effective text manual now = .ok hosts) :
    ∃ entries values, normalizeAll text manual = .ok entries ∧
      normalizeEach text entries = .ok values ∧
      hosts.toFinset = (values ++ graph.children text entries now).toFinset ∧
      hosts.toFinset.card ≤ maxEntries := by
  obtain ⟨entries, listed, all⟩ := Python.bind_eq_ok.mp done
  obtain ⟨found, every, -⟩ := Python.bind_eq_ok.mp all
  rw [normalizeEach_append] at every
  obtain ⟨values, each, -⟩ := Python.bind_eq_ok.mp every
  have composed : graph.effective text manual now = _ := effective_of listed each
  rw [done] at composed
  split_ifs at composed with many
  obtain rfl := Except.ok.inj composed
  rw [toFinset_sortedSet]
  exact ⟨entries, values, listed, each, rfl, not_lt.mp many⟩

theorem mem_children (listed : normalizeAll text manual = .ok entries) :
    host ∈ graph.children text entries now ↔
      ∃ site, ActiveParent text manual site ∧ Approves text graph now site host := by
  simp only [children, List.mem_map, mem_approvedChildren listed, ApprovedDependency, Approves,
    About]
  constructor
  · rintro ⟨edge, ⟨there, direct, active⟩, rfl⟩
    exact ⟨edge.parent, active, edge, there, direct, rfl, rfl⟩
  · rintro ⟨_, active, edge, there, direct, rfl, rfl⟩
    exact ⟨edge, ⟨there, direct, active⟩, rfl⟩

theorem active_iff (listed : normalizeAll text manual = .ok entries) :
    (entries.any fun entry => decide (root text entry = some parent)) = true ↔
      ActiveParent text manual parent := by
  simp only [List.any_eq_true, decide_eq_true_eq, mem_normalizeAll listed, ActiveParent]
  constructor
  · rintro ⟨entry, ⟨raw, given, cleaned⟩, site⟩
    exact ⟨raw, given, entry, cleaned, site⟩
  · rintro ⟨raw, given, entry, cleaned, site⟩
    exact ⟨entry, ⟨raw, given, cleaned⟩, site⟩

/-- After approvals the effective exclusions are what the budget covers, while it is enough. -/
theorem effective_approving (affordable : hosts.toFinset.card ≤ maxEntries)
    (done : graph.effective text manual now = .ok hosts) (active : ActiveParent text manual parent)
    (strong : accepted ⊆ strongIndices text graph parent) :
    ∃ hosts', hosts'.toFinset =
        (approvalBudget text graph parent now hosts affordable).covered accepted ∧
      (graph.approving accepted).effective text manual now =
        if ((approvalBudget text graph parent now hosts affordable).covered accepted).card >
          maxEntries then .error .tooMany else .ok hosts' := by
  obtain ⟨entries, values, listed, each, same, -⟩ := exists_values done
  have covered : (values ++ (graph.approving accepted).children text entries now).toFinset =
      (approvalBudget text graph parent now hosts affordable).covered accepted := by
    have base : (approvalBudget text graph parent now hosts affordable).base =
        (values ++ graph.children text entries now).toFinset := same
    ext host
    rw [Budget.covered, base, Finset.mem_union, List.mem_toFinset, List.mem_toFinset,
      List.mem_append, List.mem_append, mem_children listed, mem_children listed, or_assoc]
    refine or_congr_right ?_
    constructor
    · rintro ⟨site, isActive, approves⟩
      rcases (approves_approving strong).mp approves with before | ⟨-, completed⟩
      · exact .inl ⟨site, isActive, before⟩
      · exact .inr completed
    · rintro (⟨site, isActive, before⟩ | completed)
      · exact ⟨site, isActive, (@approves_approving _ _ _ _ _ _ _ affordable _ strong).mpr (.inl before)⟩
      · exact ⟨parent, active, (approves_approving strong).mpr (.inr ⟨rfl, completed⟩)⟩
  refine ⟨sortedSet (values ++ (graph.approving accepted).children text entries now), ?_, ?_⟩
  · rw [toFinset_sortedSet, covered]
  · rw [effective_of listed each, covered]

/-- One dependency, when those before have been approved or not. -/
theorem approveAt_approving {returned : List String} (found : graph.edges[index]? = some edge)
    (new : index ∉ accepted) :
    approveAt text parent manual now (graph.approving accepted, returned) index =
      if Strong text parent edge ∧ (((graph.approving (insert index accepted)).effective text manual
          now).toOption.isSome = true) then
        (graph.approving (insert index accepted), returned ++ [edge.host])
      else (graph.approving accepted, returned) := by
  have same : approvedAt accepted index edge = edge := if_neg new
  have current : (graph.approving accepted).edges[index]? = some edge := by
    rw [getElem_approving, found, Option.map_some, same]
  have proposed : { graph.approving accepted with
      edges := (graph.approving accepted).edges.set index { edge with decision := .approved } } =
        graph.approving (insert index accepted) :=
    congrArg₂ SmartExclusionGraph.mk (set_approving found) rfl
  unfold approveAt
  rw [current]
  dsimp only
  rw [proposed]
  by_cases isStrong : Strong text parent edge
  · rw [if_pos (show _ ∧ _ from isStrong)]
    by_cases done : ((graph.approving (insert index accepted)).effective text manual
        now).toOption.isSome = true
    · rw [if_pos done, if_pos ⟨isStrong, done⟩]
    · rw [if_neg done, if_neg fun both => done both.2]
  · rw [if_neg (show ¬ (_ ∧ _) from isStrong), if_neg fun both => isStrong both.1]

/-- The loop accepts what the greedy selection accepts, and returns the hosts. -/
theorem foldl_approveAt (affordable : hosts.toFinset.card ≤ maxEntries)
    (done : graph.effective text manual now = .ok hosts) (active : ActiveParent text manual parent)
    {bound : ℕ} (inside : bound ≤ graph.edges.length) :
    ((List.range bound).foldl (approveAt text parent manual now) (graph, [])).1 =
        graph.approving ((approvalBudget text graph parent now hosts affordable).greedy bound) ∧
      ∀ host, host ∈ ((List.range bound).foldl (approveAt text parent manual now) (graph, [])).2 ↔
        ∃ index ∈ (approvalBudget text graph parent now hosts affordable).greedy bound,
          graph.hostAt index = host := by
  set budget := approvalBudget text graph parent now hosts affordable
  induction bound with
  | zero => simp [Budget.greedy, approving_empty]
  | succ bound ih =>
      obtain ⟨current, returned⟩ := ih (Nat.le_of_succ_le inside)
      rw [List.range_succ, List.foldl_append, List.foldl_cons, List.foldl_nil]
      generalize (List.range bound).foldl (approveAt text parent manual now) (graph, []) = outcome
        at current returned
      obtain ⟨graph', hosts'⟩ := outcome
      dsimp only at current returned
      subst current
      have found : graph.edges[bound]? = some graph.edges[bound] :=
        List.getElem?_eq_getElem (Nat.lt_of_succ_le inside)
      have new : bound ∉ budget.greedy bound := fun member =>
        lt_irrefl bound (Finset.mem_filter.mp (Budget.greedy_subset member)).2
      have isStrong : Strong text parent graph.edges[bound] ↔ bound ∈ budget.candidates := by
        constructor
        · exact fun strong => mem_strongIndices.mpr ⟨_, found, strong⟩
        · intro member
          obtain ⟨edge, found', strong⟩ := mem_strongIndices.mp member
          exact Option.some.inj (found'.symm.trans found) ▸ strong
      have subset : budget.greedy bound ⊆ strongIndices text graph parent :=
        Budget.greedy_subset.trans (Finset.filter_subset _ _)
      have succeeds (member : bound ∈ budget.candidates) :
          ((graph.approving (insert bound (budget.greedy bound))).effective text manual
            now).toOption.isSome = true ↔
              (budget.covered (insert bound (budget.greedy bound))).card ≤ budget.limit := by
        obtain ⟨_, -, effective⟩ := effective_approving affordable done active
          (Finset.insert_subset member subset)
        rw [effective, ← not_lt]
        split_ifs with many
        · exact iff_of_false (by simp [Except.toOption]) (not_not.mpr many)
        · exact iff_of_true rfl many
      rw [approveAt_approving found new, Budget.greedy]
      by_cases accepts : bound ∈ budget.candidates ∧
          (budget.covered (insert bound (budget.greedy bound))).card ≤ budget.limit
      · rw [if_pos ⟨isStrong.mpr accepts.1, (succeeds accepts.1).mpr accepts.2⟩, if_pos accepts]
        refine ⟨rfl, fun host => ?_⟩
        simp only [List.mem_append, List.mem_singleton, returned, Finset.exists_mem_insert,
          hostAt_of_found found, eq_comm, or_comm]
      · rw [if_neg fun both => accepts
          ⟨isStrong.mp both.1, (succeeds (isStrong.mp both.1)).mp both.2⟩, if_neg accepts]
        exact ⟨rfl, returned⟩

/-- When the effective exclusions cannot be computed nothing is approved. -/
theorem foldl_approveAt_of_error {error : SiteExclusionError}
    (failed : graph.effective text manual now = .error error) (indices : List ℕ) :
    indices.foldl (approveAt text parent manual now) (graph, []) = (graph, []) := by
  induction indices with
  | nil => rfl
  | cons index indices ih =>
      rw [List.foldl_cons]
      have step : approveAt text parent manual now (graph, []) index = (graph, []) := by
        cases found : graph.edges[index]? with
        | none =>
            unfold approveAt
            rw [found]
        | some edge =>
            have one := @approveAt_approving text graph parent now edge manual ∅ index [] found
              (Finset.notMem_empty index)
            rw [approving_empty] at one
            rw [one, if_neg]
            rintro ⟨isStrong, isSome⟩
            obtain ⟨hosts, done⟩ := Option.isSome_iff_exists.mp isSome
            obtain ⟨entries, values, listed, each, same, few⟩ :=
              exists_values (Python.ok_iff_toOption.mpr done)
            have fewer : (values ++ graph.children text entries now).toFinset ⊆ hosts.toFinset := by
              intro host member
              rw [same, List.mem_toFinset, List.mem_append] 
              rw [List.mem_toFinset, List.mem_append] at member
              refine member.imp id fun child => ?_
              obtain ⟨site, active, approves⟩ := (mem_children listed).mp child
              refine (mem_children listed).mpr ⟨site, active, ?_⟩
              refine (@approves_approving text graph parent host now [] _ (Nat.zero_le _) site
                ?_).mpr (.inl approves)
              rw [insert_empty_eq, Finset.singleton_subset_iff]
              exact mem_strongIndices.mpr ⟨edge, found, isStrong⟩
            have small := (Finset.card_le_card fewer).trans few
            rw [effective_of listed each, if_neg (not_lt.mpr small)] at failed
            cases failed
      rw [step, ih]

/-- The effective exclusions stay, those that are returned are among them, and only strong
dependencies of the site change. -/
structure Conservative (text : Text) (graph : SmartExclusionGraph) (raw : String)
    (manual : List String) (now : ℚ) : Prop where
  succeeds : ∀ hosts, graph.effective text manual now = .ok hosts →
    ∃ hosts', (graph.approveStrongFirstParty text raw manual now).1.effective text manual now =
      .ok hosts' ∧ hosts ⊆ hosts'
  returned : ∀ host ∈ (graph.approveStrongFirstParty text raw manual now).2,
    ∃ hosts', (graph.approveStrongFirstParty text raw manual now).1.effective text manual now =
      .ok hosts' ∧ host ∈ hosts'
  suppressed : (graph.approveStrongFirstParty text raw manual now).1.suppressed = graph.suppressed
  others : ∀ index : ℕ, (graph.approveStrongFirstParty text raw manual now).1.edges[index]? =
      graph.edges[index]? ∨
    ∃ parent edge, root text raw = some parent ∧ graph.edges[index]? = some edge ∧
      Strong text parent edge ∧
      (graph.approveStrongFirstParty text raw manual now).1.edges[index]? =
        some { edge with decision := .approved }

/-- Every strong dependency of the site is one whose host is effective before, or the only one of
its host and pruning keeps it, or it is of a host that becomes effective within the limit. -/
def ApprovalsCount (text : Text) (graph : SmartExclusionGraph) (raw : String)
    (manual : List String) (now : ℚ) : Prop :=
  ∀ parent hosts (affordable : hosts.toFinset.card ≤ maxEntries), root text raw = some parent →
    ActiveParent text manual parent → graph.effective text manual now = .ok hosts →
      (approvalBudget text graph parent now hosts affordable).Fair

theorem Conservative.of_unchanged
    (unchanged : graph.approveStrongFirstParty text raw manual now = (graph, [])) :
    Conservative text graph raw manual now where
  succeeds hosts done := ⟨hosts, by rw [unchanged]; exact done, List.Subset.refl _⟩
  returned host member := by
    rw [unchanged] at member
    exact absurd member List.not_mem_nil
  suppressed := by rw [unchanged]
  others index := by
    rw [unchanged]
    exact .inl rfl

/-- The loop is fair exactly when what it does is conservative. -/
theorem conservative_iff_fair (affordable : hosts.toFinset.card ≤ maxEntries)
    (site : root text raw = some parent) (active : ActiveParent text manual parent)
    (done : graph.effective text manual now = .ok hosts) :
    Conservative text graph raw manual now ↔
      (approvalBudget text graph parent now hosts affordable).Fair := by
  obtain ⟨entries, values, listed, -⟩ := exists_values done
  set budget := approvalBudget text graph parent now hosts affordable
  have bounded : ∀ index ∈ budget.candidates, index < graph.edges.length := fun index member =>
    Finset.mem_range.mp (Finset.mem_filter.mp member).1
  have strong : budget.greedy graph.edges.length ⊆ strongIndices text graph parent :=
    Budget.greedy_subset.trans (Finset.filter_subset _ _)
  obtain ⟨current, returned⟩ := foldl_approveAt affordable done active (Nat.le_refl _)
  obtain ⟨hosts', covered, effective⟩ := effective_approving affordable done active strong
  have few : (budget.covered (budget.greedy graph.edges.length)).card ≤ maxEntries :=
    Budget.card_covered_greedy
  rw [if_neg (not_lt.mpr few)] at effective
  have outcome : graph.approveStrongFirstParty text raw manual now =
      (graph.approving (budget.greedy graph.edges.length),
        ((List.range graph.edges.length).foldl (approveAt text parent manual now)
          (graph, [])).2.insertionSort (· ≤ ·)) := by
    unfold approveStrongFirstParty
    rw [site, listed]
    dsimp only
    rw [if_pos ((active_iff listed).mpr active), current]
  rw [← Budget.greedy_fair_iff bounded]
  constructor
  · intro conservative index member
    have returnedHost : graph.hostAt index ∈
        (graph.approveStrongFirstParty text raw manual now).2 := by
      rw [outcome, List.mem_insertionSort]
      exact (returned _).mpr ⟨index, member, rfl⟩
    obtain ⟨found, done', there⟩ := conservative.returned _ returnedHost
    rw [outcome, effective] at done'
    obtain rfl := Except.ok.inj done'
    exact covered ▸ List.mem_toFinset.mpr there
  · intro fair
    refine ⟨?_, ?_, ?_, ?_⟩
    · intro before done'
      obtain rfl := Except.ok.inj (done.symm.trans done')
      rw [outcome]
      refine ⟨hosts', effective, fun host member => ?_⟩
      rw [← List.mem_toFinset, covered]
      exact Finset.mem_union_left _ (List.mem_toFinset.mpr member)
    · intro host member
      rw [outcome, List.mem_insertionSort] at member
      obtain ⟨index, accepted, rfl⟩ := (returned host).mp member
      rw [outcome]
      refine ⟨hosts', effective, ?_⟩
      rw [← List.mem_toFinset, covered]
      exact fair index accepted
    · rw [outcome]
      rfl
    · intro index
      rw [outcome, getElem_approving]
      by_cases accepted : index ∈ budget.greedy graph.edges.length
      · obtain ⟨edge, found, isStrong⟩ := mem_strongIndices.mp (strong accepted)
        refine .inr ⟨parent, edge, site, found, isStrong, ?_⟩
        rw [found, Option.map_some, approvedAt, if_pos accepted]
      · left
        cases graph.edges[index]? with
        | none => rfl
        | some edge => rw [Option.map_some, approvedAt, if_neg accepted]

/-- An automatic approval is conservative exactly when all approvals count. -/
theorem conservative_iff :
    Conservative text graph raw manual now ↔ ApprovalsCount text graph raw manual now := by
  -- Otherwise nothing is approved.
  have unchanged (inactive : ∀ parent hosts, root text raw = some parent →
      ActiveParent text manual parent → graph.effective text manual now ≠ .ok hosts) :
      graph.approveStrongFirstParty text raw manual now = (graph, []) := by
    unfold approveStrongFirstParty
    split
    · rename_i parent entries site listed
      split_ifs with active
      · cases done : graph.effective text manual now with
        | error error => rw [foldl_approveAt_of_error done]; rfl
        | ok hosts => exact absurd done (inactive parent hosts site ((active_iff listed).mp active))
      · rfl
    · rfl
  by_cases applies : ∃ parent hosts, root text raw = some parent ∧
      ActiveParent text manual parent ∧ graph.effective text manual now = .ok hosts
  · obtain ⟨parent, hosts, site, active, done⟩ := applies
    obtain ⟨-, -, -, -, -, affordable⟩ := exists_values done
    rw [conservative_iff_fair affordable site active done]
    constructor
    · intro fair parent' hosts' affordable' site' active' done'
      obtain rfl := Option.some.inj (site.symm.trans site')
      obtain rfl := Except.ok.inj (done.symm.trans done')
      exact fair
    · intro counts
      exact counts parent hosts affordable site active done
  · have inactive : ∀ parent hosts, root text raw = some parent →
        ActiveParent text manual parent → graph.effective text manual now ≠ .ok hosts :=
      fun parent hosts site active done => applies ⟨parent, hosts, site, active, done⟩
    refine iff_of_true (Conservative.of_unchanged (unchanged inactive)) ?_
    intro parent hosts _ site active done
    exact absurd done (inactive parent hosts site active)

/-- A host that has been seen in both ways, eight days before. -/
def staleChild : SmartExclusionGraph where
  edges := [
    { parent := "a.io", host := "b.a.io", evidence := .both, decision := .pending, lastSeen := 0 }]

/-- The host is returned although it does not become effective. -/
theorem stale_child_returned :
    ((staleChild.approveStrongFirstParty plainText "a.io" ["a.io"] 691200).2 = ["b.a.io"] ∧
      (staleChild.approveStrongFirstParty plainText "a.io" ["a.io"] 691200).1.effective plainText
        ["a.io"] 691200 = .ok ["a.io"]) ∧
      ¬ Conservative plainText staleChild "a.io" ["a.io"] 691200 := by
  have facts : (staleChild.approveStrongFirstParty plainText "a.io" ["a.io"] 691200).2 =
      ["b.a.io"] ∧ (staleChild.approveStrongFirstParty plainText "a.io" ["a.io"]
        691200).1.effective plainText ["a.io"] 691200 = .ok ["a.io"] := by
    decide +kernel
  refine ⟨facts, fun conservative => ?_⟩
  obtain ⟨hosts, done, member⟩ := conservative.returned "b.a.io" (by simp [facts.1])
  rw [facts.2] at done
  obtain rfl := Except.ok.inj done
  exact absurd member (by decide)

end SmartExclusionGraph

end ProxyLauncher.IOS
