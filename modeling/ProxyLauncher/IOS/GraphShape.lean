import ProxyLauncher.IOS.Pruning

/-!
# The shape of the graph

The operations keep the dependencies of a graph apart, within the limits and valid, as long as
the sites that they are given have canonical names.
-/

namespace ProxyLauncher.IOS

open SiteExclusionPolicy SmartDependency Selection Transition

namespace SmartExclusionGraph

variable (text : Text)

/-- The host belongs to the site, or the user has linked it. -/
def validDependency (edge : SmartDependency) : Bool :=
  validChild text edge.host edge.parent ||
    (decide (edge.userLinked = some true) && isScannableHost text edge.host &&
      decide (edge.host ≠ edge.parent) && decide (edge.host ≠ "www." ++ edge.parent))

structure Shape (edges : List SmartDependency) (denials : List String) : Prop where
  unique : (edges.map SmartDependency.id).Nodup
  sites : (edges.map SmartDependency.parent).dedup.length ≤ maxEntries
  children : ∀ parent, (edges.map SmartDependency.parent).count parent ≤ maxCandidates
  undenied : ∀ edge ∈ edges, edge.id ∉ denials
  canonical : ∀ edge ∈ edges, root text edge.parent = some edge.parent
  valid : ∀ edge ∈ edges, validDependency text edge = true

variable {text : Text} {edges edges' : List SmartDependency} {denials denials' : List String}
  {edge : SmartDependency} {graph graph' : SmartExclusionGraph} {parent host raw : String}
  {now : ℚ} {operation : GraphOperation} {events : List GraphOperation}

theorem Shape.nil : Shape text [] denials where
  unique := List.nodup_nil
  sites := Nat.zero_le _
  children _ := Nat.zero_le _
  undenied _ member := absurd member List.not_mem_nil
  canonical _ member := absurd member List.not_mem_nil
  valid _ member := absurd member List.not_mem_nil

theorem Shape.of_sublist (shape : Shape text edges denials) (sublist : edges'.Sublist edges)
    (undenied : ∀ edge ∈ edges', edge.id ∉ denials') : Shape text edges' denials' where
  unique := shape.unique.sublist (sublist.map _)
  sites := (variety_le_of_subset sublist.subset).trans shape.sites
  children parent := ((sublist.map _).count_le parent).trans (shape.children parent)
  undenied := undenied
  canonical edge member := shape.canonical edge (sublist.subset member)
  valid edge member := shape.valid edge (sublist.subset member)

theorem Shape.sorted (shape : Shape text edges denials) : Shape text (sorted edges) denials := by
  have perm : (SmartDependency.sorted edges).Perm edges := List.perm_insertionSort _ edges
  refine ⟨?_, ?_, ?_, ?_, ?_, ?_⟩
  · exact (perm.map SmartDependency.id).nodup_iff.mpr shape.unique
  · rw [(perm.map SmartDependency.parent).dedup.length_eq]
    exact shape.sites
  · intro parent
    rw [(perm.map SmartDependency.parent).count_eq]
    exact shape.children parent
  · exact fun edge member => shape.undenied edge (mem_sorted.mp member)
  · exact fun edge member => shape.canonical edge (mem_sorted.mp member)
  · exact fun edge member => shape.valid edge (mem_sorted.mp member)

/-- What a dependency is about. -/
def subject (edge : SmartDependency) : String × String :=
  (edge.parent, edge.host)

theorem subjects_modifyFirst {test : SmartDependency → Bool}
    {change : SmartDependency → SmartDependency}
    (same : ∀ old, subject (change old) = subject old) :
    (modifyFirst test change edges).map subject = edges.map subject := by
  induction edges with
  | nil => rfl
  | cons first edges ih =>
      rw [modifyFirst]
      split_ifs
      · rw [List.map_cons, List.map_cons, same]
      · rw [List.map_cons, List.map_cons, ih]

theorem parents_of_subjects (same : edges'.map subject = edges.map subject) :
    edges'.map SmartDependency.parent = edges.map SmartDependency.parent := by
  have both := congrArg (List.map Prod.fst) same
  rwa [List.map_map, List.map_map] at both

/-- Dependencies about the same keep their shape when they are valid. -/
theorem Shape.of_subjects (shape : Shape text edges denials)
    (same : edges'.map subject = edges.map subject)
    (valid : ∀ edge ∈ edges', validDependency text edge = true) : Shape text edges' denials := by
  have parents := parents_of_subjects same
  have ids : edges'.map SmartDependency.id = edges.map SmartDependency.id := by
    have both := congrArg (List.map fun names => dependencyID names.1 names.2) same
    rwa [List.map_map, List.map_map] at both
  have old {edge : SmartDependency} (member : edge ∈ edges') :
      ∃ old ∈ edges, old.parent = edge.parent ∧ old.id = edge.id := by
    have there : subject edge ∈ edges.map subject := same ▸ List.mem_map_of_mem member
    obtain ⟨old, member, names⟩ := List.mem_map.mp there
    obtain ⟨parent, host⟩ := Prod.mk.inj names
    exact ⟨old, member, parent, congrArg₂ dependencyID parent host⟩
  refine ⟨ids ▸ shape.unique, parents ▸ shape.sites, parents ▸ shape.children, ?_, ?_, valid⟩
  · intro edge member
    obtain ⟨old, there, -, id⟩ := old member
    exact id ▸ shape.undenied old there
  · intro edge member
    obtain ⟨old, there, parent, -⟩ := old member
    exact parent ▸ shape.canonical old there

theorem Shape.modifyFirst (shape : Shape text edges denials) {test : SmartDependency → Bool}
    {change : SmartDependency → SmartDependency}
    (same : ∀ old, subject (change old) = subject old)
    (valid : ∀ old ∈ edges, test old = true → validDependency text (change old) = true) :
    Shape text (SmartDependency.modifyFirst test change edges) denials := by
  refine shape.of_subjects (subjects_modifyFirst same) ?_
  intro edge member
  rcases of_mem_modifyFirst member with there | ⟨old, there, passed, rfl⟩
  · exact shape.valid edge there
  · exact valid old there passed

/-- A dependency about something new. -/
theorem Shape.append (shape : Shape text edges denials)
    (new : edges.any (fun other => other.names edge.parent edge.host) = false)
    (site : root text edge.parent = some edge.parent) (valid : validDependency text edge = true)
    (undenied : edge.id ∉ denials)
    (few : (edges.map SmartDependency.parent).count edge.parent < maxCandidates)
    (sites : (edge.parent :: edges.map SmartDependency.parent).dedup.length ≤ maxEntries) :
    Shape text (edges ++ [edge]) denials := by
  have clean {parent : String} (site : root text parent = some parent) : '|' ∉ parent.toList :=
    bar_notMem (all_hostChar_of_root site)
  refine ⟨?_, ?_, ?_, ?_, ?_, ?_⟩
  · rw [List.map_append, List.map_singleton, ← List.concat_eq_append]
    refine shape.unique.concat ?_
    intro present
    obtain ⟨old, there, same⟩ := List.mem_map.mp present
    have names := dependencyID_inj (clean (shape.canonical old there)) (clean site) same
    exact absurd (names_iff.mpr names) (by simpa using List.any_eq_false.mp new old there)
  · have rotated : ((edges ++ [edge]).map SmartDependency.parent).Perm
        (edge.parent :: edges.map SmartDependency.parent) := by
      rw [List.map_append, List.map_singleton]
      exact List.perm_append_singleton _ _
    rw [rotated.dedup.length_eq]
    exact sites
  · intro parent
    rw [List.map_append, List.count_append, List.map_singleton, List.count_singleton]
    have bound := shape.children parent
    split_ifs with own
    · obtain rfl : edge.parent = parent := by simpa using own
      omega
    · omega
  · intro other member
    rcases List.mem_append.mp member with there | last
    · exact shape.undenied other there
    · exact List.mem_singleton.mp last ▸ undenied
  · intro other member
    rcases List.mem_append.mp member with there | last
    · exact shape.canonical other there
    · exact List.mem_singleton.mp last ▸ site
  · intro other member
    rcases List.mem_append.mp member with there | last
    · exact shape.valid other there
    · exact List.mem_singleton.mp last ▸ valid

theorem validDependency_of_admissible (valid : admissible text graph now edge = true) :
    validDependency text edge = true := by
  simp only [admissible, Bool.and_eq_true] at valid
  exact valid.1.2

/-- Dependencies with different identifiers have no disputes. -/
theorem not_disputed_of_unique (unique : (edges.map SmartDependency.id).Nodup) (id : String) :
    ¬ Disputed edges id := by
  rintro ⟨first, inFirst, second, inSecond, sameFirst, sameSecond, disagree⟩
  obtain rfl : first = second :=
    List.inj_on_of_nodup_map unique inFirst inSecond (sameFirst.trans sameSecond.symm)
  rcases disagree with decisions | links
  · exact decisions rfl
  · exact links rfl

/-- Pruning gives a graph its shape when the identifiers are different. -/
theorem shape_pruned (unique : (graph.edges.map SmartDependency.id).Nodup) :
    Shape text (graph.pruned text now).edges (graph.pruned text now).denials := by
  have positive : 0 < maxCandidates := by decide
  have valid : ∀ edge ∈ (graph.pruned text now).edges, admissible text graph now edge = true := by
    refine (soundPruning_iff.mpr ?_).valid
    intro edge _ _ disputed
    exact absurd disputed (not_disputed_of_unique
      (unique.sublist (List.filter_sublist.map SmartDependency.id)) edge.id)
  refine ⟨?_, variety_select_le positive, count_select_le positive, ?_, ?_, ?_⟩
  · exact List.pairwise_map.mpr (edges_pruned_sorted.imp fun less => ne_of_lt less)
  · intro edge member denied
    have own := valid edge member
    simp only [admissible, Bool.and_eq_true, decide_eq_true_eq] at own
    exact own.1.1.2 (denials_pruned_subset denied)
  · intro edge member
    have own := valid edge member
    simp only [admissible, Bool.and_eq_true, decide_eq_true_eq] at own
    exact own.2
  · exact fun edge member => validDependency_of_admissible (valid edge member)

/-- One host of an observation. -/
theorem shape_observeHost {htmlSet networkSet : List String} (shape : Shape text edges denials)
    (sites : (parent :: edges.map SmartDependency.parent).dedup.length ≤ maxEntries)
    (site : root text parent = some parent) (child : validChild text host parent = true)
    (undenied : dependencyID parent host ∉ denials)
    (observed : observeHost parent htmlSet networkSet now edges host = .ok edges') :
    Shape text edges' denials ∧
      (parent :: edges'.map SmartDependency.parent).dedup.length ≤ maxEntries := by
  unfold observeHost at observed
  dsimp only at observed
  split at observed
  · obtain rfl := Except.ok.inj observed
    refine ⟨shape.modifyFirst (fun _ => rfl) fun old there _ => shape.valid old there, ?_⟩
    refine le_of_eq_of_le (congrArg (fun parents => (parent :: parents).dedup.length)
      (parents_of_subjects (subjects_modifyFirst ?_))) sites
    exact fun _ => rfl
  · rename_i new
    split at observed
    · cases observed
    · rename_i few
      obtain rfl := Except.ok.inj observed
      refine ⟨shape.append (Bool.not_eq_true _ ▸ new) site ?_ undenied (not_le.mp few) sites, ?_⟩
      · rw [validDependency, child, Bool.true_or]
      · refine le_trans (le_of_eq ?_) sites
        rw [List.map_append, List.map_singleton, ← List.cons_append,
          (List.perm_append_singleton _ _).dedup.length_eq, List.dedup_cons_of_mem (by simp)]

theorem shape_observeHosts {htmlSet networkSet hosts : List String}
    (shape : Shape text edges denials)
    (sites : (parent :: edges.map SmartDependency.parent).dedup.length ≤ maxEntries)
    (site : root text parent = some parent)
    (children : ∀ host ∈ hosts, validChild text host parent = true ∧
      dependencyID parent host ∉ denials)
    (observed : hosts.foldlM (observeHost parent htmlSet networkSet now) edges = .ok edges') :
    Shape text edges' denials := by
  induction hosts generalizing edges with
  | nil =>
      obtain rfl := Except.ok.inj observed
      exact shape
  | cons host hosts ih =>
      rw [List.foldlM_cons] at observed
      obtain ⟨middle, first, rest⟩ := Python.bind_eq_ok.mp observed
      obtain ⟨child, undenied⟩ := children host (by simp)
      obtain ⟨shape, sites⟩ := shape_observeHost shape sites site child undenied first
      exact ih shape sites (fun host there => children host (by simp [there])) rest

theorem shape_observe {html network : List String} (shape : Shape text graph.edges graph.denials)
    (canonical : ∀ parent, root text raw = some parent → root text parent = some parent)
    (observed : (observe text raw html network now).call graph = (.ok (), graph')) :
    Shape text graph'.edges graph'.denials := by
  rcases observe_cases graph raw html network now with
    ⟨error, thrown⟩ | ⟨parent, edges, site, sites, done, returned⟩
  · cases thrown.symm.trans observed
  · obtain ⟨-, rfl⟩ := Prod.mk.inj (returned.symm.trans observed)
    apply Shape.sorted (shape_observeHosts (shape_pruned shape.unique) sites
      (canonical parent site) ?_ done)
    intro host member
    obtain ⟨listed, undenied⟩ := List.mem_filter.mp member
    constructor
    · rcases List.mem_append.mp (mem_sortedSet.mp listed) with inHtml | inNetwork
      · exact (List.mem_filter.mp inHtml).2
      · exact (List.mem_filter.mp inNetwork).2
    · intro denied
      exact of_decide_eq_true undenied (@denials_pruned_subset text graph now _ denied)

theorem shape_addUserLink {rawChild : String} (shape : Shape text graph.edges graph.denials)
    (canonical : ∀ parent, root text raw = some parent → root text parent = some parent)
    (linked : (addUserLink text raw rawChild now).call graph = (.ok (), graph')) :
    Shape text graph'.edges graph'.denials := by
  rcases addUserLink_cases graph raw rawChild now with
    ⟨error, thrown⟩ | ⟨parent, child, edges, site, -, linkable, changed, returned⟩
  · cases thrown.symm.trans linked
  · obtain ⟨-, rfl⟩ := Prod.mk.inj (returned.symm.trans linked)
    have pruned : Shape text (graph.pruned text now).edges
        ((graph.pruned text now).denials.filter fun identifier =>
          decide (identifier ≠ dependencyID parent child)) :=
      (shape_pruned shape.unique).of_sublist (List.Sublist.refl _) fun edge member denied =>
        (shape_pruned shape.unique).undenied edge member (List.mem_filter.mp denied).1
    change Shape text (SmartDependency.sorted edges)
      ((graph.pruned text now).denials.filter fun identifier =>
        decide (identifier ≠ dependencyID parent child))
    apply Shape.sorted
    rcases changed with rfl | ⟨new, few, sites, rfl⟩
    · refine pruned.modifyFirst (fun _ => rfl) ?_
      intro old _ named
      obtain ⟨rfl, rfl⟩ := names_iff.mp named
      simp [validDependency, linkable]
    · refine pruned.append new (canonical parent site) ?_ ?_ few sites
      · simp [validDependency, linkable]
      · intro denied
        simpa [SmartDependency.id] using (List.mem_filter.mp denied).2

theorem shape_set {decision : SmartDecision} {child : String}
    (shape : Shape text graph.edges graph.denials)
    (decided : (SmartExclusionGraph.set text decision raw child).call graph = (.ok (), graph')) :
    Shape text graph'.edges graph'.denials := by
  rcases set_cases graph decision raw child with ⟨error, thrown⟩ | ⟨root, returned⟩
  · cases thrown.symm.trans decided
  · obtain ⟨-, rfl⟩ := Prod.mk.inj (returned.symm.trans decided)
    refine shape.modifyFirst (fun _ => rfl) ?_
    intro old there _
    have valid := shape.valid old there
    simp only [validDependency, Bool.or_eq_true, Bool.and_eq_true, decide_eq_true_eq] at valid ⊢
    rcases valid with child | ⟨⟨⟨linked, scannable⟩, other⟩, other'⟩
    · exact .inl child
    · refine .inr ⟨⟨⟨?_, scannable⟩, other⟩, other'⟩
      split_ifs
      · rfl
      · exact linked

theorem shape_remove {child : Option String} (shape : Shape text graph.edges graph.denials) :
    Shape text (graph.remove text raw child).edges (graph.remove text raw child).denials := by
  unfold remove
  split
  · exact shape
  · rename_i site child found
    split_ifs with scannable denied
    · exact shape.of_sublist List.filter_sublist fun edge member =>
        shape.undenied edge (List.mem_filter.mp member).1
    · refine shape.of_sublist List.filter_sublist ?_
      intro edge member inDenials
      obtain ⟨there, other⟩ := List.mem_filter.mp member
      rcases List.mem_append.mp inDenials with before | last
      · exact shape.undenied edge there before
      · have names := dependencyID_inj
          (bar_notMem (all_hostChar_of_root (shape.canonical edge there)))
          (bar_notMem (all_hostChar_of_root found)) (List.mem_singleton.mp last)
        rw [names_iff.mpr names] at other
        cases other
    · exact shape
  · refine shape.of_sublist List.filter_sublist ?_
    intro edge member denied
    exact shape.undenied edge (List.mem_filter.mp member).1 (List.mem_filter.mp denied).1

theorem shape_approveAt {manual : List String} {outcome : SmartExclusionGraph × List String}
    {index : ℕ} (shape : Shape text outcome.1.edges outcome.1.denials) :
    Shape text (approveAt text parent manual now outcome index).1.edges
      (approveAt text parent manual now outcome index).1.denials := by
  unfold approveAt
  split
  · exact shape
  · rename_i edge found
    dsimp only
    split_ifs
    · refine shape.of_subjects ?_ ?_
      · obtain ⟨bound, here⟩ := List.getElem?_eq_some_iff.mp found
        have bound' : index < (outcome.1.edges.map subject).length := by simpa using bound
        have own : subject { edge with decision := .approved } =
            (outcome.1.edges.map subject)[index] := by
          rw [List.getElem_map, here]
          rfl
        rw [List.map_set, own]
        exact List.set_getElem_self bound'
      · intro other member
        rcases List.mem_or_eq_of_mem_set member with there | rfl
        · exact shape.valid other there
        · exact shape.valid edge (List.mem_of_getElem? found)
    · exact shape
    · exact shape

theorem shape_approveAll {manual : List String} {indices : List ℕ}
    {outcome : SmartExclusionGraph × List String}
    (shape : Shape text outcome.1.edges outcome.1.denials) :
    Shape text (indices.foldl (approveAt text parent manual now) outcome).1.edges
      (indices.foldl (approveAt text parent manual now) outcome).1.denials := by
  induction indices generalizing outcome with
  | nil => exact shape
  | cons index indices ih => exact ih (shape_approveAt shape)

theorem shape_approveStrongFirstParty {manual : List String}
    (shape : Shape text graph.edges graph.denials) :
    Shape text (graph.approveStrongFirstParty text raw manual now).1.edges
      (graph.approveStrongFirstParty text raw manual now).1.denials := by
  unfold approveStrongFirstParty
  split
  · rename_i parent entries _ _
    split_ifs
    · exact shape_approveAll shape
    · exact shape
  · exact shape

/-- The site has a canonical name: no `www.` is left, and it can be scanned. -/
def NamesSite (text : Text) : GraphOperation → Prop
  | .observe raw _ _ _ => ∀ parent, root text raw = some parent → root text parent = some parent
  | .addUserLink raw _ _ => ∀ parent, root text raw = some parent → root text parent = some parent
  | _ => True

theorem shape_perform (shape : Shape text graph.edges graph.denials)
    (named : NamesSite text operation) (done : graph.perform text operation = (true, graph')) :
    Shape text graph'.edges graph'.denials := by
  cases operation with
  | observe raw html network now => exact shape_observe shape named (returning_eq_true done)
  | approveStrongFirstParty raw manual now =>
      obtain ⟨-, rfl⟩ := Prod.mk.inj done
      exact shape_approveStrongFirstParty shape
  | addUserLink raw child now => exact shape_addUserLink shape named (returning_eq_true done)
  | set decision raw child => exact shape_set shape (returning_eq_true done)
  | remove raw child =>
      obtain ⟨-, rfl⟩ := Prod.mk.inj done
      exact shape_remove shape
  | prune now =>
      obtain ⟨-, rfl⟩ := Prod.mk.inj done
      exact shape_pruned shape.unique
  | saveAndLoad manual checked saved effective loaded =>
      rw [perform_saveAndLoad done]
      exact shape_pruned (shape_pruned (shape_pruned shape.unique).unique).unique

/-- In the runs whose sites have canonical names the graph keeps its shape, and an observation or
a link that throws leaves it unchanged. -/
theorem graph_shape (reaches : (machine text (· = {})).Reaches
    (fun _ _ operation => NamesSite text operation) events graph) :
    Shape text graph.edges graph.denials ∧
      (∀ raw html network now error graph',
        (observe text raw html network now).call graph = (.error error, graph') →
          graph' = graph) ∧
      (∀ raw child now error graph',
        (addUserLink text raw child now).call graph = (.error error, graph') →
          graph' = graph) := by
  refine ⟨?_, ?_, ?_⟩
  · induction reaches with
    | start empty =>
        rw [empty]
        exact Shape.nil
    | @step events graph graph' operation _ named next shape =>
        rcases step_cases next with ⟨done, -⟩ | ⟨rfl, -⟩
        · exact shape_perform shape named done
        · exact shape
  · intro raw html network now error graph' thrown
    rcases observe_cases graph raw html network now with ⟨_, same⟩ | ⟨_, _, -, -, -, returned⟩
    · exact (Prod.mk.inj (thrown.symm.trans same)).2
    · cases thrown.symm.trans returned
  · intro raw child now error graph' thrown
    rcases addUserLink_cases graph raw child now with
      ⟨_, same⟩ | ⟨_, _, _, -, -, -, -, returned⟩
    · exact (Prod.mk.inj (thrown.symm.trans same)).2
    · cases thrown.symm.trans returned

instance (raw : String) : Decidable (∀ parent, root plainText raw = some parent →
    root plainText parent = some parent) :=
  inferInstanceAs (Decidable (∀ parent ∈ root plainText raw, root plainText parent = some parent))

instance : (operation : GraphOperation) → Decidable (NamesSite plainText operation)
  | .observe raw _ _ _ | .addUserLink raw _ _ => inferInstanceAs (Decidable
      (∀ parent, root plainText raw = some parent → root plainText parent = some parent))
  | .approveStrongFirstParty .. | .set .. | .remove .. | .prune _ | .saveAndLoad .. =>
      .isTrue trivial

/-- An observation of one site, a link to another one and a removal. -/
def visits : List GraphOperation :=
  [.observe "www.a.io" ["b.a.io"] ["b.a.io", "c.a.io"] 0, .addUserLink "d.io" "e.io" 1,
    .remove "a.io" (some "c.a.io"), .set .rejected "a.io" "b.a.io", .prune 2,
    .observe "a.io" ["c.a.io"] [] 3]

/-- What the visits leave. -/
def visitedSites : SmartExclusionGraph where
  edges :=
    [{ parent := "a.io", host := "b.a.io", evidence := .both, decision := .rejected,
       lastSeen := 0, userLinked := some true },
     { parent := "d.io", host := "e.io", evidence := .network, decision := .approved,
       lastSeen := 1, userLinked := some true }]
  suppressed := some ["a.io|c.a.io"]

theorem graph_shape_sample : Shape plainText visitedSites.edges visitedSites.denials := by
  have executed : (machine plainText (· = {})).exec
      (fun _ _ operation => NamesSite plainText operation) visits [] {} =
        some (visits, visitedSites) := by
    decide +kernel
  exact (graph_shape ((Machine.Reaches.start rfl).exec executed)).1

def strayLink : SmartDependency where
  parent := "io"
  host := "b.io"
  evidence := .network
  decision := .approved
  lastSeen := 0
  userLinked := some true

/-- Linking a host to the site `www.io` enters it under `io`, which is no site. -/
theorem link_without_site : ∃ events graph,
    (machine plainText (· = {})).Reaches Machine.Always events graph ∧
      ∃ edge ∈ graph.edges, edge.parent = "io" ∧ root plainText edge.parent = none := by
  have executed : (machine plainText (· = {})).exec Machine.Always
      [.addUserLink "www.io" "b.io" 0] [] {} =
        some ([.addUserLink "www.io" "b.io" 0],
          { edges := [strayLink], suppressed := some [] }) := by
    decide
  refine ⟨_, _, Machine.Reaches.exec (.start rfl) executed, _, List.mem_singleton_self _, rfl, ?_⟩
  decide

end SmartExclusionGraph

end ProxyLauncher.IOS
