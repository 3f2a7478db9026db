import ProxyLauncher.IOS.Removals
import ProxyLauncher.Selection.Limits
import ProxyLauncher.Selection.Merging

/-!
# What pruning keeps

The dependencies that `pruned` considers are merged by their identifiers and then selected within
the limits.  Dependencies that disagree are merged to one that is pending and not linked by the
user, so that it can be valid as an observation only.
-/

namespace ProxyLauncher.IOS

open SiteExclusionPolicy SmartDependency Selection

namespace SmartDependency

theorem id_merged (previous edge : SmartDependency) (same : previous.id = edge.id) :
    (merged previous edge).id = edge.id := by
  have either : (if edge.lastSeen > previous.lastSeen then edge else previous).id = edge.id := by
    split_ifs
    · rfl
    · exact same
  unfold merged
  dsimp only
  split_ifs <;> first | rfl | exact same

/-- Two dependencies with different decisions or links. -/
def Disagree (first second : SmartDependency) : Prop :=
  first.decision ≠ second.decision ∨ first.userLinked ≠ second.userLinked

/-- Some dependencies with the identifier disagree. -/
def Disputed (edges : List SmartDependency) (id : String) : Prop :=
  ∃ first ∈ edges, ∃ second ∈ edges, first.id = id ∧ second.id = id ∧ Disagree first second

/-- What comes of dependencies that are merged. -/
structure MergedFrom (edges : List SmartDependency) (edge : SmartDependency) : Prop where
  newest : ∃ newest ∈ edges, edge.parent = newest.parent ∧ edge.host = newest.host ∧
    edge.evidence = newest.evidence ∧ edge.lastSeen = newest.lastSeen
  latest : ∀ other ∈ edges, other.lastSeen ≤ edge.lastSeen
  agreed : (∀ other ∈ edges, other.decision = edge.decision ∧ other.userLinked = edge.userLinked) ∨
    (edge.decision = .pending ∧ edge.userLinked = none ∧
      ∃ first ∈ edges, ∃ second ∈ edges, Disagree first second)

theorem MergedFrom.merged {edges : List SmartDependency} {previous edge : SmartDependency}
    (former : MergedFrom edges previous) :
    MergedFrom (edges ++ [edge]) (merged previous edge) := by
  obtain ⟨⟨newest, there, parent, host, evidence, lastSeen⟩, latest, agreed⟩ := former
  have seen : (SmartDependency.merged previous edge).lastSeen =
      max previous.lastSeen edge.lastSeen := by
    unfold SmartDependency.merged
    dsimp only
    by_cases later : edge.lastSeen > previous.lastSeen
    · rw [if_pos later, max_eq_right (le_of_lt later)]
      split_ifs <;> rfl
    · rw [if_neg later, max_eq_left (not_lt.mp later)]
      split_ifs <;> rfl
  refine ⟨?_, ?_, ?_⟩
  · by_cases later : edge.lastSeen > previous.lastSeen
    · refine ⟨edge, by simp, ?_⟩
      unfold SmartDependency.merged
      dsimp only
      rw [if_pos later]
      split_ifs <;> exact ⟨rfl, rfl, rfl, rfl⟩
    · refine ⟨newest, by simp [there], ?_⟩
      unfold SmartDependency.merged
      dsimp only
      rw [if_neg later]
      split_ifs <;> exact ⟨parent, host, evidence, lastSeen⟩
  · intro other member
    rw [seen]
    rcases List.mem_append.mp member with before | last
    · exact le_max_of_le_left (latest other before)
    · rw [List.mem_singleton.mp last]
      exact le_max_right _ _
  · by_cases differ : edge.decision ≠ previous.decision ∨ edge.userLinked ≠ previous.userLinked
    · right
      unfold SmartDependency.merged
      dsimp only
      rw [if_pos differ]
      refine ⟨rfl, rfl, ?_⟩
      rcases agreed with all | ⟨-, -, first, inFirst, second, inSecond, disagree⟩
      · refine ⟨edge, by simp, newest, by simp [there], ?_⟩
        rw [Disagree, (all newest there).1, (all newest there).2]
        exact differ
      · exact ⟨first, by simp [inFirst], second, by simp [inSecond], disagree⟩
    · have same := differ
      rw [not_or, not_not, not_not] at same
      have fields : (SmartDependency.merged previous edge).decision = previous.decision ∧
          (SmartDependency.merged previous edge).userLinked = previous.userLinked := by
        unfold SmartDependency.merged
        dsimp only
        rw [if_neg differ]
        split_ifs
        · exact same
        · exact ⟨rfl, rfl⟩
      rw [fields.1, fields.2]
      rcases agreed with all | ⟨pending, unlinked, first, inFirst, second, inSecond, disagree⟩
      · left
        intro other member
        rcases List.mem_append.mp member with before | last
        · exact all other before
        · rw [List.mem_singleton.mp last]
          exact same
      · exact .inr ⟨pending, unlinked, first, by simp [inFirst], second, by simp [inSecond],
          disagree⟩

theorem mergedFrom_of_mergeAll {edges : List SmartDependency} {edge : SmartDependency}
    (done : mergeAll SmartDependency.merged edges = some edge) : MergedFrom edges edge := by
  induction edges using List.reverseRecOn generalizing edge with
  | nil => cases done
  | append_singleton edges last ih =>
      rw [mergeAll_append_singleton] at done
      obtain rfl := Option.some.inj done
      cases before : mergeAll SmartDependency.merged edges with
      | none =>
          obtain rfl := mergeAll_eq_none.mp before
          refine ⟨⟨last, by simp, rfl, rfl, rfl, rfl⟩, ?_, .inl ?_⟩
          · intro other member
            obtain rfl : other = last := by simpa using member
            exact le_rfl
          · intro other member
            obtain rfl : other = last := by simpa using member
            exact ⟨rfl, rfl⟩
      | some previous => exact (ih before).merged

end SmartDependency

namespace SmartExclusionGraph

variable (text : Text)

/-- The dependencies that `pruned` considers. -/
def considered (graph : SmartExclusionGraph) (now : ℚ) : List SmartDependency :=
  graph.edges.filter (admissible text graph now)

/-- The dependencies by their identifiers. -/
def byID (graph : SmartExclusionGraph) (now : ℚ) : List SmartDependency :=
  (graph.considered text now).foldl (enter SmartDependency.id SmartDependency.merged) []

variable {text : Text} {graph : SmartExclusionGraph} {now : ℚ} {edge : SmartDependency}

theorem pruned_edges : (graph.pruned text now).edges =
    select SmartDependency.parent maxEntries maxCandidates (sorted (graph.byID text now)) :=
  rfl

theorem mem_byID : edge ∈ graph.byID text now ↔
    mergeAll SmartDependency.merged (group SmartDependency.id (graph.considered text now) edge.id) =
      some edge :=
  (entries_spec id_merged (graph.considered text now)).2 edge

theorem mergedFrom_of_mem_byID (member : edge ∈ graph.byID text now) :
    MergedFrom (group SmartDependency.id (graph.considered text now) edge.id) edge :=
  mergedFrom_of_mergeAll (mem_byID.mp member)

/-- Dependencies with different identifiers are in a strict order after sorting. -/
theorem pairwise_sorted {edges : List SmartDependency}
    (distinct : (edges.map SmartDependency.id).Nodup) :
    (sorted edges).Pairwise fun first second => first.id < second.id := by
  have order : IsTrans SmartDependency fun first second => first.id ≤ second.id :=
    ⟨fun _ _ _ => le_trans⟩
  have total : Std.Total fun first second : SmartDependency => first.id ≤ second.id :=
    ⟨fun first second => le_total first.id second.id⟩
  have ordered : (sorted edges).Pairwise fun first second => first.id ≤ second.id :=
    List.pairwise_insertionSort _ edges
  have apart : ((sorted edges).map SmartDependency.id).Nodup :=
    ((List.perm_insertionSort _ edges).map SmartDependency.id).nodup_iff.mpr distinct
  exact (ordered.and (List.pairwise_map.mp apart)).imp fun both => lt_of_le_of_ne both.1 both.2

theorem pairwise_byID : (sorted (graph.byID text now)).Pairwise fun first second =>
    first.id < second.id :=
  pairwise_sorted (entries_spec id_merged (graph.considered text now)).1

/-- A dependency stands for its site and host. -/
theorem names_of_id {other : SmartDependency} (valid : admissible text graph now edge = true)
    (valid' : admissible text graph now other = true) (same : edge.id = other.id) :
    edge.parent = other.parent ∧ edge.host = other.host := by
  have clean {edge : SmartDependency} (valid : admissible text graph now edge = true) :
      '|' ∉ edge.parent.toList := by
    simp only [admissible, Bool.and_eq_true, decide_eq_true_eq] at valid
    exact bar_notMem (all_hostChar_of_root valid.2)
  exact dependencyID_inj (clean valid) (clean valid') same

/-- An admissible dependency stays admissible without decision and link exactly when it is valid
as an observation. -/
theorem admissible_iff_of_unlinked {other : SmartDependency}
    (valid : admissible text graph now other = true) (parent : edge.parent = other.parent)
    (host : edge.host = other.host) (lastSeen : edge.lastSeen = other.lastSeen)
    (unlinked : edge.userLinked = none) :
    admissible text graph now edge = true ↔
      validChild text edge.host edge.parent = true ∧ now - edge.lastSeen < ttl := by
  have id : edge.id = other.id := congrArg₂ dependencyID parent host
  simp only [admissible, Bool.and_eq_true, decide_eq_true_eq] at valid
  obtain ⟨⟨⟨⟨past, -⟩, undenied⟩, -⟩, site⟩ := valid
  simp [admissible, unlinked, parent, host, lastSeen, id, past, undenied, site, and_comm]

/-- A merged dependency is admissible exactly when those before agree, or when it is valid as an
observation. -/
theorem admissible_iff_of_mem_byID (member : edge ∈ graph.byID text now) :
    admissible text graph now edge = true ↔
      (Disputed (graph.considered text now) edge.id →
        validChild text edge.host edge.parent = true ∧ now - edge.lastSeen < ttl) := by
  obtain ⟨⟨newest, inGroup, parent, host, evidence, lastSeen⟩, -, agreed⟩ :=
    mergedFrom_of_mem_byID member
  have valid : admissible text graph now newest = true :=
    (List.mem_filter.mp (mem_group.mp inGroup).1).2
  rcases agreed with all | ⟨-, unlinked, first, inFirst, second, inSecond, disagree⟩
  · have whole : edge = newest := by
      obtain ⟨decision, userLinked⟩ := all newest inGroup
      cases edge
      cases newest
      simp_all
    refine iff_of_true (whole ▸ valid) ?_
    rintro ⟨first, inFirst, second, inSecond, sameFirst, sameSecond, disagree⟩
    have one := all first (mem_group.mpr ⟨inFirst, sameFirst⟩)
    have two := all second (mem_group.mpr ⟨inSecond, sameSecond⟩)
    rcases disagree with decisions | links
    · exact absurd (one.1.trans two.1.symm) decisions
    · exact absurd (one.2.trans two.2.symm) links
  · rw [admissible_iff_of_unlinked valid parent host lastSeen unlinked]
    refine ⟨fun both _ => both, fun imp => imp ?_⟩
    obtain ⟨inFirst, sameFirst⟩ := mem_group.mp inFirst
    obtain ⟨inSecond, sameSecond⟩ := mem_group.mp inSecond
    exact ⟨first, inFirst, second, inSecond, sameFirst, sameSecond, disagree⟩

/-- The dependency is within the limits of sites and of dependencies of its site, in the order of
the identifiers. -/
def WithinLimits (edges : List SmartDependency) (edge : SmartDependency) : Prop :=
  Within SmartDependency.parent maxEntries maxCandidates SmartDependency.id edges edge

instance (edges : List SmartDependency) (edge : SmartDependency) :
    Decidable (WithinLimits edges edge) :=
  inferInstanceAs (Decidable (Within _ _ _ _ _ _))

theorem withinLimits_congr {edges : List SmartDependency} {other : SmartDependency}
    (parent : other.parent = edge.parent) (id : other.id = edge.id) :
    WithinLimits edges edge ↔ WithinLimits edges other :=
  within_congr parent id (fun item own => ⟨item, own, rfl, rfl⟩)
    (fun item own => ⟨item, own, rfl, rfl⟩)

theorem exists_byID (member : edge ∈ graph.considered text now) :
    ∃ entry ∈ graph.byID text now, entry.id = edge.id ∧ entry.parent = edge.parent ∧
      entry.host = edge.host := by
  cases done : mergeAll SmartDependency.merged
      (group SmartDependency.id (graph.considered text now) edge.id) with
  | none =>
      have own : edge ∈ group SmartDependency.id (graph.considered text now) edge.id :=
        mem_group.mpr ⟨member, rfl⟩
      rw [mergeAll_eq_none.mp done] at own
      exact absurd own List.not_mem_nil
  | some entry =>
      have id : entry.id = edge.id :=
        key_of_mergeAll id_merged (fun other there => (mem_group.mp there).2) done
      obtain ⟨⟨newest, inGroup, parent, host, -, -⟩, -, -⟩ := mergedFrom_of_mergeAll done
      obtain ⟨there, same⟩ := mem_group.mp inGroup
      have names := names_of_id (List.mem_filter.mp there).2 (List.mem_filter.mp member).2 same
      exact ⟨entry, mem_byID.mpr (id ▸ done), id, parent.trans names.1, host.trans names.2⟩

theorem exists_considered (member : edge ∈ graph.byID text now) :
    ∃ newest ∈ graph.considered text now, newest.id = edge.id ∧ newest.parent = edge.parent ∧
      newest.host = edge.host ∧ newest.lastSeen = edge.lastSeen := by
  obtain ⟨⟨newest, inGroup, parent, host, -, lastSeen⟩, -, -⟩ := mergedFrom_of_mem_byID member
  obtain ⟨there, same⟩ := mem_group.mp inGroup
  exact ⟨newest, there, same, parent.symm, host.symm, lastSeen.symm⟩

theorem mem_pruned_iff : edge ∈ (graph.pruned text now).edges ↔
    edge ∈ graph.byID text now ∧ WithinLimits (graph.considered text now) edge := by
  have positive : 0 < maxCandidates := by decide
  have congr : WithinLimits (sorted (graph.byID text now)) edge ↔
      WithinLimits (graph.considered text now) edge := by
    refine within_congr rfl rfl ?_ ?_
    · intro entry there
      obtain ⟨newest, there', id, parent, -, -⟩ := exists_considered (mem_sorted.mp there)
      exact ⟨newest, there', parent, id⟩
    · intro other there
      obtain ⟨entry, there', id, parent, -⟩ := exists_byID there
      exact ⟨entry, mem_sorted.mpr there', parent, id⟩
  rw [pruned_edges, ← congr]
  constructor
  · intro member
    have there := (@select_sublist _ _ _ SmartDependency.parent maxEntries maxCandidates
      (sorted (graph.byID text now))).subset member
    exact ⟨mem_sorted.mp there, (mem_select_of_sorted positive pairwise_byID there).mp member⟩
  · rintro ⟨there, within⟩
    exact (mem_select_of_sorted positive pairwise_byID (mem_sorted.mpr there)).mpr within

theorem denials_pruned_subset : (graph.pruned text now).denials ⊆ graph.denials := by
  intro identifier member
  have sortedMember := List.mem_of_mem_take member
  exact (List.mem_filter.mp (mem_sortedSet.mp sortedMember)).1

theorem sortedSet_eq_self {values : List String} (ordered : values.Pairwise (· < ·)) :
    sortedSet values = values := by
  have distinct : values.Nodup := ordered.imp fun less => ne_of_lt less
  rw [sortedSet, distinct.dedup]
  exact List.Pairwise.insertionSort_eq (ordered.imp fun less => le_of_lt less)

theorem suppressed_pruned_pruned :
    ((graph.pruned text now).pruned text now).suppressed = (graph.pruned text now).suppressed := by
  set kept := (sortedSet (graph.denials.filter (validDenial text))).take maxDenials with same
  have listed : (graph.pruned text now).denials = kept := rfl
  have ordered : kept.Pairwise (· < ·) :=
    (pairwise_sortedSet _).sublist (List.take_sublist _ _)
  have valid : kept.filter (validDenial text) = kept := by
    refine List.filter_eq_self.mpr ?_
    intro identifier member
    exact (List.mem_filter.mp (mem_sortedSet.mp (List.mem_of_mem_take member))).2
  have few : kept.take maxDenials = kept :=
    List.take_of_length_le (List.length_take_le _ _)
  change some ((sortedSet ((graph.pruned text now).denials.filter (validDenial text))).take
    maxDenials) = some kept
  rw [listed, valid, sortedSet_eq_self ordered, few]

theorem edges_pruned_sorted : (graph.pruned text now).edges.Pairwise fun first second =>
    first.id < second.id :=
  pairwise_byID.sublist select_sublist

/-- Valid dependencies are pruned to themselves. -/
theorem pruned_pruned_of_valid
    (valid : ∀ edge ∈ (graph.pruned text now).edges, admissible text graph now edge = true) :
    (graph.pruned text now).pruned text now = graph.pruned text now := by
  have all : (graph.pruned text now).considered text now = (graph.pruned text now).edges := by
    refine List.filter_eq_self.mpr ?_
    intro edge member
    have own := valid edge member
    simp only [admissible, Bool.and_eq_true, decide_eq_true_eq] at own ⊢
    exact ⟨⟨⟨own.1.1.1, fun denied => own.1.1.2 (denials_pruned_subset denied)⟩, own.1.2⟩, own.2⟩
  have distinct : ((graph.pruned text now).edges.map SmartDependency.id).Nodup :=
    List.pairwise_map.mpr (edges_pruned_sorted.imp fun less => ne_of_lt less)
  have edges : ((graph.pruned text now).pruned text now).edges = (graph.pruned text now).edges := by
    have inOrder : sorted (graph.pruned text now).edges = (graph.pruned text now).edges :=
      List.Pairwise.insertionSort_eq (edges_pruned_sorted.imp fun less => le_of_lt less)
    rw [pruned_edges, byID, all, foldl_enter_of_nodup (by simpa using distinct), List.nil_append,
      inOrder, pruned_edges, select_select (by decide)]
  exact congrArg₂ SmartExclusionGraph.mk edges suppressed_pruned_pruned

/-- Disagreeing dependencies are not approved, what is kept is valid, and pruning again at the
same time changes nothing. -/
structure SoundPruning (text : Text) (graph : SmartExclusionGraph) (now : ℚ) : Prop where
  unapproved : ∀ edge ∈ (graph.pruned text now).edges,
    Disputed (graph.considered text now) edge.id → edge.decision ≠ .approved
  valid : ∀ edge ∈ (graph.pruned text now).edges, admissible text graph now edge = true
  stable : (graph.pruned text now).pruned text now = graph.pruned text now

/-- What is disputed within the limits is a host of its site that has been seen lately. -/
def DisputesObserved (text : Text) (graph : SmartExclusionGraph) (now : ℚ) : Prop :=
  ∀ edge ∈ graph.considered text now, WithinLimits (graph.considered text now) edge →
    Disputed (graph.considered text now) edge.id →
      validChild text edge.host edge.parent = true ∧
        ∃ recent ∈ graph.considered text now, recent.id = edge.id ∧ now - recent.lastSeen < ttl

theorem unapproved_of_disputed (member : edge ∈ (graph.pruned text now).edges)
    (disputed : Disputed (graph.considered text now) edge.id) : edge.decision ≠ .approved := by
  obtain ⟨first, inFirst, second, inSecond, sameFirst, sameSecond, disagree⟩ := disputed
  rcases (mergedFrom_of_mem_byID (mem_pruned_iff.mp member).1).agreed with all | ⟨pending, -⟩
  · have one := all first (mem_group.mpr ⟨inFirst, sameFirst⟩)
    have two := all second (mem_group.mpr ⟨inSecond, sameSecond⟩)
    rcases disagree with decisions | links
    · exact absurd (one.1.trans two.1.symm) decisions
    · exact absurd (one.2.trans two.2.symm) links
  · rw [pending]
    simp

/-- Pruning is sound exactly when every dispute within the limits is about a host of the site that
has been seen lately. -/
theorem soundPruning_iff : SoundPruning text graph now ↔ DisputesObserved text graph now := by
  constructor
  · intro sound edge member within disputed
    obtain ⟨entry, there, id, parent, host⟩ := exists_byID member
    have kept : entry ∈ (graph.pruned text now).edges :=
      mem_pruned_iff.mpr ⟨there, (withinLimits_congr parent id).mp within⟩
    have observed := (admissible_iff_of_mem_byID there).mp (sound.valid entry kept) (id ▸ disputed)
    obtain ⟨newest, inNewest, sameId, -, -, lastSeen⟩ := exists_considered there
    rw [host, parent] at observed
    exact ⟨observed.1, newest, inNewest, sameId.trans id, lastSeen ▸ observed.2⟩
  · intro observed
    have valid : ∀ edge ∈ (graph.pruned text now).edges, admissible text graph now edge = true := by
      intro edge member
      obtain ⟨there, within⟩ := mem_pruned_iff.mp member
      refine (admissible_iff_of_mem_byID there).mpr fun disputed => ?_
      obtain ⟨newest, inNewest, id, parent, host, -⟩ := exists_considered there
      have within' : WithinLimits (graph.considered text now) newest :=
        (withinLimits_congr parent id).mp within
      obtain ⟨child, recent, inRecent, sameId, young⟩ :=
        observed newest inNewest within' (id ▸ disputed)
      rw [host, parent] at child
      refine ⟨child, lt_of_le_of_lt (sub_le_sub_left ?_ now) young⟩
      exact (mergedFrom_of_mem_byID there).latest recent
        (mem_group.mpr ⟨inRecent, sameId.trans id⟩)
    exact ⟨fun edge => unapproved_of_disputed, valid, pruned_pruned_of_valid valid⟩

/-- A link of the user to another site, stored with two decisions. -/
def disputedLink : SmartExclusionGraph where
  edges := [
    { parent := "a.io", host := "b.io", evidence := .network, decision := .approved, lastSeen := 0,
      userLinked := some true },
    { parent := "a.io", host := "b.io", evidence := .network, decision := .rejected, lastSeen := 0,
      userLinked := some true }]

/-- Pruning keeps the link without its mark, and pruning once more removes it. -/
theorem disputed_link_vanishes :
    ((disputedLink.pruned plainText 1).edges = [
      { parent := "a.io", host := "b.io", evidence := .network, decision := .pending,
        lastSeen := 0 }] ∧
      ((disputedLink.pruned plainText 1).pruned plainText 1).edges = []) ∧
      ¬ SoundPruning plainText disputedLink 1 := by
  have facts : (disputedLink.pruned plainText 1).edges = [
      { parent := "a.io", host := "b.io", evidence := .network, decision := .pending,
        lastSeen := 0 }] ∧
      ((disputedLink.pruned plainText 1).pruned plainText 1).edges = [] := by
    decide +kernel
  refine ⟨facts, fun sound => ?_⟩
  have same := congrArg SmartExclusionGraph.edges sound.stable
  rw [facts.1, facts.2] at same
  cases same

end SmartExclusionGraph

end ProxyLauncher.IOS
