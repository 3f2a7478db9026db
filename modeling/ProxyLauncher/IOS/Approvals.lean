import ProxyLauncher.IOS.SmartExclusionGraph
import ProxyLauncher.Transition.Machine

/-!
# Approvals and removals

The operations on the graph come in any order.  What the app saves it loads again, and an
operation that throws leaves the graph as it was.
-/

namespace ProxyLauncher.IOS

open SiteExclusionPolicy SmartDependency Transition

inductive GraphOperation where
  | observe (raw : String) (html network : List String) (now : ℚ)
  | approveStrongFirstParty (raw : String) (manual : List String) (now : ℚ)
  | addUserLink (raw child : String) (now : ℚ)
  | set (decision : SmartDecision) (raw child : String)
  | remove (raw : String) (child : Option String)
  | prune (now : ℚ)
  | saveAndLoad (manual : List String) (checked saved effective loaded : ℚ)
deriving DecidableEq

namespace SmartExclusionGraph

variable (text : Text)

/-- `saveExclusions` and `saveSmartExclusions`, and then `smartGraph`. -/
def saveAndLoad (graph : SmartExclusionGraph) (raw : List String)
    (checked saved effective loaded : ℚ) : Except SiteExclusionError SmartExclusionGraph := do
  let manual ← normalizeAll text raw
  let next := graph.pruned text checked
  let _ ← next.effective text manual checked
  let manual ← normalizeAll text manual
  let current := next.pruned text saved
  let _ ← current.effective text manual effective
  return current.pruned text loaded

/-- Whether a method returns, and the graph behind the call. -/
def returning (outcome : Except SmartGraphError Unit × SmartExclusionGraph) :
    Bool × SmartExclusionGraph :=
  (outcome.1.isOk, outcome.2)

/-- Whether an operation returns, and the graph behind it. -/
def perform (graph : SmartExclusionGraph) : GraphOperation → Bool × SmartExclusionGraph
  | .observe raw html network now => returning ((observe text raw html network now).call graph)
  | .approveStrongFirstParty raw manual now =>
      (true, (graph.approveStrongFirstParty text raw manual now).1)
  | .addUserLink raw child now => returning ((addUserLink text raw child now).call graph)
  | .set decision raw child =>
      returning ((SmartExclusionGraph.set text decision raw child).call graph)
  | .remove raw child => (true, graph.remove text raw child)
  | .prune now => (true, graph.pruned text now)
  | .saveAndLoad manual checked saved effective loaded =>
      (graph.saveAndLoad text manual checked saved effective loaded).toOption.elim (false, graph)
        fun loaded => (true, loaded)

/-- The runs of the graph; the operations that did not throw are its events. -/
def machine (initial : SmartExclusionGraph → Prop) :
    Machine SmartExclusionGraph GraphOperation GraphOperation where
  initial := initial
  next graph operation := some (graph.perform text operation).2
  event graph operation := if (graph.perform text operation).1 then some operation else none

variable {text : Text} {graph graph' : SmartExclusionGraph} {events : List GraphOperation}
  {operation : GraphOperation} {edge : SmartDependency} {parent host raw : String}
  {html network manual : List String} {now : ℚ}

/-- One observation of the site had the host in both of its lists. -/
def Reported (text : Text) (events : List GraphOperation) (parent host : String) : Prop :=
  ∃ raw html network now, .observe raw html network now ∈ events ∧
    root text raw = some parent ∧ host ∈ html ∧ host ∈ network

/-- The user approved the host or linked it. -/
def UserApproved (text : Text) (events : List GraphOperation) (host : String) : Prop :=
  (∃ raw, .set .approved raw host ∈ events) ∨
    ∃ raw child now, .addUserLink raw child now ∈ events ∧ normalized text child = some host

/-- The host of a dependency is part of the site and no tracker. -/
def FirstParty (text : Text) (edge : SmartDependency) : Prop :=
  validChild text edge.host edge.parent = true ∧
    eligibleForAutomaticBypass text edge.host = true

/-- What the past of the graph says of a dependency. -/
structure Justified (text : Text) (events : List GraphOperation) (edge : SmartDependency) :
    Prop where
  reported : edge.evidence = .both → Reported text events edge.parent edge.host
  approved : edge.decision = .approved → UserApproved text events edge.host ∨
    (Reported text events edge.parent edge.host ∧ FirstParty text edge)

theorem Reported.append (reported : Reported text events parent host)
    (more : List GraphOperation) : Reported text (events ++ more) parent host := by
  obtain ⟨raw, html, network, now, member, site, lists⟩ := reported
  exact ⟨raw, html, network, now, by simp [member], site, lists⟩

theorem UserApproved.append (approved : UserApproved text events host)
    (more : List GraphOperation) : UserApproved text (events ++ more) host := by
  rcases approved with ⟨raw, member⟩ | ⟨raw, child, now, member, same⟩
  · exact .inl ⟨raw, by simp [member]⟩
  · exact .inr ⟨raw, child, now, by simp [member], same⟩

theorem Justified.append (justified : Justified text events edge) (more : List GraphOperation) :
    Justified text (events ++ more) edge where
  reported both := (justified.reported both).append more
  approved direct := by
    rcases justified.approved direct with user | ⟨reported, party⟩
    · exact .inl (user.append more)
    · exact .inr ⟨reported.append more, party⟩

theorem Justified.keeps {old : SmartDependency} (justified : Justified text events old)
    (keeps : Keeps edge old) : Justified text events edge where
  reported both := by
    rw [keeps.parent, keeps.host]
    exact justified.reported (keeps.evidence ▸ both)
  approved direct := by
    rcases keeps.decision with same | pending
    · rw [FirstParty, keeps.parent, keeps.host]
      exact justified.approved (same ▸ direct)
    · exact absurd (pending.symm.trans direct) (by simp)

/-- Every dependency of the graph is justified. -/
def AllJustified (text : Text) (events : List GraphOperation) (edges : List SmartDependency) :
    Prop :=
  ∀ edge ∈ edges, Justified text events edge

theorem AllJustified.append {edges : List SmartDependency}
    (justified : AllJustified text events edges) (more : List GraphOperation) :
    AllJustified text (events ++ more) edges :=
  fun edge member => (justified edge member).append more

theorem AllJustified.pruned (justified : AllJustified text events graph.edges) :
    AllJustified text events (graph.pruned text now).edges := by
  intro edge member
  obtain ⟨old, there, -, keeps⟩ := keeps_of_mem_pruned member
  exact (justified old there).keeps keeps

/-- The dependencies after a change of the first one of a host. -/
theorem AllJustified.modifyFirst {edges : List SmartDependency}
    (justified : AllJustified text events edges) {test : SmartDependency → Bool}
    {change : SmartDependency → SmartDependency}
    (changed : ∀ old, test old = true → Justified text events old →
      Justified text events (change old)) :
    AllJustified text events (SmartDependency.modifyFirst test change edges) := by
  intro edge member
  rcases of_mem_modifyFirst member with old | ⟨old, there, passed, rfl⟩
  · exact justified edge old
  · exact changed old passed (justified old there)

theorem names_iff : edge.names parent host = true ↔ edge.parent = parent ∧ edge.host = host := by
  simp [SmartDependency.names]

theorem AllJustified.observeHost {edges edges' : List SmartDependency}
    {htmlSet networkSet : List String}
    (justified : AllJustified text events edges)
    (reported : host ∈ htmlSet → host ∈ networkSet → Reported text events parent host)
    (observed : SmartExclusionGraph.observeHost parent htmlSet networkSet now edges host =
      .ok edges') : AllJustified text events edges' := by
  have both : (if host ∈ htmlSet ∧ host ∈ networkSet then SmartEvidence.both
      else if host ∈ htmlSet then .html else .network) = .both →
      Reported text events parent host := by
    intro evidence
    split at evidence
    · rename_i lists
      exact reported lists.1 lists.2
    · split at evidence
      · exact absurd evidence (by simp)
      · exact absurd evidence (by simp)
  simp only [SmartExclusionGraph.observeHost] at observed
  split at observed
  · obtain rfl := Except.ok.inj observed
    refine justified.modifyFirst ?_
    intro old named before
    obtain ⟨rfl, rfl⟩ := names_iff.mp named
    exact ⟨both, before.approved⟩
  · split at observed
    · exact absurd observed (by simp)
    · obtain rfl := Except.ok.inj observed
      intro edge member
      rcases List.mem_append.mp member with there | last
      · exact justified edge there
      · rw [List.mem_singleton.mp last]
        exact ⟨both, by simp⟩

theorem AllJustified.observeHosts {hosts : List String} {edges edges' : List SmartDependency}
    {htmlSet networkSet : List String}
    (justified : AllJustified text events edges)
    (reported : ∀ host ∈ htmlSet, host ∈ networkSet → Reported text events parent host)
    (observed : hosts.foldlM (SmartExclusionGraph.observeHost parent htmlSet networkSet now)
      edges = .ok edges') : AllJustified text events edges' := by
  induction hosts generalizing edges with
  | nil =>
      obtain rfl := Except.ok.inj observed
      exact justified
  | cons host hosts ih =>
      rw [List.foldlM_cons] at observed
      rcases first : SmartExclusionGraph.observeHost parent htmlSet networkSet now edges host
        with error | middle
      · simp [first, bind, Except.bind] at observed
      · rw [first] at observed
        exact ih (justified.observeHost (reported host) first) observed

theorem AllJustified.observe (justified : AllJustified text events graph.edges)
    (observed : (SmartExclusionGraph.observe text raw html network now).call graph =
      (.ok (), graph')) :
    AllJustified text (events ++ [.observe raw html network now]) graph'.edges := by
  rcases observe_cases graph raw html network now with
    ⟨error, thrown⟩ | ⟨parent, edges, site, -, outcome, returned⟩
  · cases thrown.symm.trans observed
  · obtain ⟨-, rfl⟩ := Prod.mk.inj (returned.symm.trans observed)
    intro edge member
    apply AllJustified.observeHosts (justified.pruned.append _) ?_ outcome edge
      (mem_sorted.mp member)
    intro host inHtml inNetwork
    exact ⟨raw, html, network, now, by simp, site, (List.mem_filter.mp inHtml).1,
      (List.mem_filter.mp inNetwork).1⟩

theorem AllJustified.approveAt {outcome : SmartExclusionGraph × List String} {index : ℕ}
    (justified : AllJustified text events outcome.1.edges) :
    AllJustified text events
      (SmartExclusionGraph.approveAt text parent manual now outcome index).1.edges := by
  unfold SmartExclusionGraph.approveAt
  split
  · exact justified
  · rename_i edge found
    split
    · rename_i strong
      simp only []
      split
      · obtain ⟨rfl, -, both, child, eligible⟩ := strong
        have known := justified edge (List.mem_of_getElem? found)
        intro other member
        rcases List.mem_or_eq_of_mem_set member with there | rfl
        · exact justified other there
        · exact ⟨known.reported, fun _ => .inr ⟨known.reported both, child, eligible⟩⟩
      · exact justified
    · exact justified

theorem AllJustified.approveStrongFirstParty (justified : AllJustified text events graph.edges) :
    AllJustified text events (graph.approveStrongFirstParty text raw manual now).1.edges := by
  have throughout (indices : List ℕ) : ∀ (parent : String)
      (outcome : SmartExclusionGraph × List String),
      AllJustified text events outcome.1.edges → AllJustified text events
        (indices.foldl (SmartExclusionGraph.approveAt text parent manual now)
          outcome).1.edges := by
    induction indices with
    | nil =>
        intro parent outcome start
        exact start
    | cons index indices ih =>
        intro parent outcome start
        exact ih parent _ start.approveAt
  unfold SmartExclusionGraph.approveStrongFirstParty
  split
  · split
    · exact throughout _ _ _ justified
    · exact justified
  · exact justified

theorem AllJustified.addUserLink {rawChild : String}
    (justified : AllJustified text events graph.edges)
    (linked : (SmartExclusionGraph.addUserLink text raw rawChild now).call graph =
      (.ok (), graph')) :
    AllJustified text (events ++ [.addUserLink raw rawChild now]) graph'.edges := by
  rcases addUserLink_cases graph raw rawChild now with
    ⟨error, thrown⟩ | ⟨parent, child, edges, -, named, -, changed, returned⟩
  · cases thrown.symm.trans linked
  · obtain ⟨-, rfl⟩ := Prod.mk.inj (returned.symm.trans linked)
    have user : UserApproved text (events ++ [.addUserLink raw rawChild now]) child :=
      .inr ⟨raw, rawChild, now, by simp, named⟩
    have kept : AllJustified text (events ++ [.addUserLink raw rawChild now])
        (graph.pruned text now).edges := justified.pruned.append _
    intro edge member
    rcases changed with rfl | ⟨-, -, -, rfl⟩
    · apply AllJustified.modifyFirst kept ?_ edge (mem_sorted.mp member)
      intro old passed before
      obtain ⟨-, rfl⟩ := names_iff.mp passed
      exact ⟨before.reported, fun _ => .inl user⟩
    · rcases List.mem_append.mp (mem_sorted.mp member) with there | last
      · exact kept edge there
      · rw [List.mem_singleton.mp last]
        exact ⟨by simp, fun _ => .inl user⟩

theorem AllJustified.set {decision : SmartDecision} {child : String}
    (justified : AllJustified text events graph.edges)
    (decided : (SmartExclusionGraph.set text decision raw child).call graph = (.ok (), graph')) :
    AllJustified text (events ++ [.set decision raw child]) graph'.edges := by
  rcases set_cases graph decision raw child with ⟨error, thrown⟩ | ⟨root, returned⟩
  · cases thrown.symm.trans decided
  · obtain ⟨-, rfl⟩ := Prod.mk.inj (returned.symm.trans decided)
    apply (justified.append _).modifyFirst
    intro old passed before
    obtain ⟨-, rfl⟩ := names_iff.mp passed
    refine ⟨before.reported, ?_⟩
    intro direct
    obtain rfl : decision = .approved := direct
    exact .inl (.inl ⟨raw, by simp⟩)

theorem AllJustified.remove {child : Option String}
    (justified : AllJustified text events graph.edges) :
    AllJustified text events (graph.remove text raw child).edges := by
  unfold SmartExclusionGraph.remove
  split
  · exact justified
  · split
    · exact fun edge member => justified edge (List.mem_filter.mp member).1
    · exact justified
  · exact fun edge member => justified edge (List.mem_filter.mp member).1

/-- What a save and a load leave is pruned three times. -/
theorem saveAndLoad_eq {checked saved effective loaded : ℚ}
    (done : graph.saveAndLoad text manual checked saved effective loaded = .ok graph') :
    graph' = ((graph.pruned text checked).pruned text saved).pruned text loaded := by
  unfold saveAndLoad at done
  obtain ⟨entries, -, done⟩ := Python.bind_eq_ok.mp done
  obtain ⟨_, -, done⟩ := Python.bind_eq_ok.mp done
  obtain ⟨_, -, done⟩ := Python.bind_eq_ok.mp done
  obtain ⟨_, -, done⟩ := Python.bind_eq_ok.mp done
  exact (Except.ok.inj done).symm

theorem returning_eq_true {outcome : Except SmartGraphError Unit × SmartExclusionGraph}
    (done : returning outcome = (true, graph')) : outcome = (.ok (), graph') := by
  obtain ⟨result, left⟩ := outcome
  cases result with
  | error error => cases done
  | ok value =>
      cases done
      rfl

/-- What a save and a load return is pruned three times. -/
theorem perform_saveAndLoad {checked saved effective loaded : ℚ}
    (done : graph.perform text (.saveAndLoad manual checked saved effective loaded) =
      (true, graph')) :
    graph' = ((graph.pruned text checked).pruned text saved).pruned text loaded := by
  rw [perform] at done
  cases outcome : graph.saveAndLoad text manual checked saved effective loaded with
  | error error =>
      rw [outcome] at done
      cases done
  | ok found =>
      rw [outcome] at done
      obtain rfl : found = graph' := (Prod.mk.inj done).2
      exact saveAndLoad_eq outcome

/-- An operation that throws leaves the graph as it was. -/
theorem perform_cases (graph : SmartExclusionGraph) (operation : GraphOperation) :
    (∃ graph', graph.perform text operation = (true, graph')) ∨
      graph.perform text operation = (false, graph) := by
  cases operation with
  | observe raw html network now =>
      rcases observe_cases graph raw html network now with ⟨error, thrown⟩ | ⟨_, _, -, -, -, done⟩
      · exact .inr (congrArg returning thrown)
      · exact .inl ⟨_, congrArg returning done⟩
  | addUserLink raw child now =>
      rcases addUserLink_cases graph raw child now with
        ⟨error, thrown⟩ | ⟨_, _, _, -, -, -, -, done⟩
      · exact .inr (congrArg returning thrown)
      · exact .inl ⟨_, congrArg returning done⟩
  | set decision raw child =>
      rcases set_cases graph decision raw child with ⟨error, thrown⟩ | ⟨_, done⟩
      · exact .inr (congrArg returning thrown)
      · exact .inl ⟨_, congrArg returning done⟩
  | saveAndLoad manual checked saved effective loaded =>
      rw [perform]
      cases graph.saveAndLoad text manual checked saved effective loaded with
      | error error => exact .inr rfl
      | ok found => exact .inl ⟨found, rfl⟩
  | _ => exact .inl ⟨_, rfl⟩

/-- A step is an operation that returns, or nothing changes and there is no event. -/
theorem step_cases {initial : SmartExclusionGraph → Prop}
    (next : (machine text initial).next graph operation = some graph') :
    (graph.perform text operation = (true, graph') ∧
        (machine text initial).event graph operation = some operation) ∨
      (graph' = graph ∧ (machine text initial).event graph operation = none) := by
  simp only [machine, Option.some.injEq] at next ⊢
  rcases perform_cases graph operation with ⟨graph'', done⟩ | thrown
  · rw [done] at next ⊢
    exact .inl ⟨congrArg _ next, rfl⟩
  · rw [thrown] at next ⊢
    exact .inr ⟨next.symm, rfl⟩

theorem AllJustified.perform (justified : AllJustified text events graph.edges)
    (done : graph.perform text operation = (true, graph')) :
    AllJustified text (events ++ [operation]) graph'.edges := by
  cases operation with
  | observe raw html network now => exact justified.observe (returning_eq_true done)
  | approveStrongFirstParty raw manual now =>
      obtain ⟨-, rfl⟩ := Prod.mk.inj done
      exact justified.approveStrongFirstParty.append _
  | addUserLink raw child now => exact justified.addUserLink (returning_eq_true done)
  | set decision raw child => exact justified.set (returning_eq_true done)
  | remove raw child =>
      obtain ⟨-, rfl⟩ := Prod.mk.inj done
      exact justified.remove.append _
  | prune now =>
      obtain ⟨-, rfl⟩ := Prod.mk.inj done
      exact justified.pruned.append _
  | saveAndLoad manual checked saved effective loaded =>
      rw [perform_saveAndLoad done]
      exact justified.pruned.pruned.pruned.append _

theorem reaches_allJustified {initial : SmartExclusionGraph → Prop}
    {allowed : List GraphOperation → SmartExclusionGraph → GraphOperation → Prop}
    (empty : ∀ graph, initial graph → graph = {})
    (reaches : (machine text initial).Reaches allowed events graph) :
    AllJustified text events graph.edges := by
  induction reaches with
  | @start graph start =>
      rw [empty graph start]
      exact fun edge member => absurd member (by simp)
  | @step events graph graph' operation _ _ next justified =>
      rcases step_cases next with ⟨done, observed⟩ | ⟨rfl, observed⟩
      · rw [observed]
        exact justified.perform done
      · exact justified.append _

/-- A host that is direct and that the user neither listed, approved nor linked is a subdomain
of a site of the user.  One observation of the site had it in both lists, and it is no tracker. -/
theorem approved_by_evidence {hosts : List String}
    (reaches : (machine text (· = {})).Reaches Machine.Always events graph)
    (done : graph.effective text manual now = .ok hosts) (member : host ∈ hosts)
    (unlisted : ¬ Manual text manual host) (automatic : ¬ UserApproved text events host) :
    ∃ parent, ActiveParent text manual parent ∧ validChild text host parent = true ∧
      Reported text events parent host ∧
      ∀ label ∈ labels host, String.ofList label ∉ trackingLabels := by
  obtain manual | ⟨edge, ⟨kept, direct, active⟩, rfl⟩ := (mem_effective done).mp member
  · exact absurd manual unlisted
  · obtain ⟨old, there, -, keeps⟩ := keeps_of_mem_pruned kept
    have justified := (reaches_allJustified (fun _ same => same) reaches old there).keeps keeps
    rcases justified.approved direct with user | ⟨reported, child, eligible⟩
    · exact absurd user automatic
    · refine ⟨edge.parent, active, child, reported, ?_⟩
      intro label labelled tracking
      simp only [eligibleForAutomaticBypass, Bool.and_eq_true, Bool.not_eq_true',
        List.any_eq_false, decide_eq_true_eq] at eligible
      exact eligible.2 label labelled tracking

/-- An observation and the approval that follows from it. -/
def discovery : List GraphOperation :=
  [.observe "a.io" ["b.a.io"] ["b.a.io"] 0, .approveStrongFirstParty "a.io" ["a.io"] 1]

def discovered : SmartExclusionGraph where
  edges := [{ parent := "a.io", host := "b.a.io", evidence := .both, decision := .approved,
              lastSeen := 0 }]
  suppressed := some []

theorem approved_by_evidence_sample :
    ∃ parent, ActiveParent plainText ["a.io"] parent ∧
      validChild plainText "b.a.io" parent = true ∧
      Reported plainText discovery parent "b.a.io" ∧
      ∀ label ∈ labels "b.a.io", String.ofList label ∉ trackingLabels := by
  have executed : (machine plainText (· = {})).exec Machine.Always discovery [] {} =
      some (discovery, discovered) := by
    decide +kernel
  have effective : discovered.effective plainText ["a.io"] 2 = .ok ["a.io", "b.a.io"] := by
    decide +kernel
  refine approved_by_evidence ((Machine.Reaches.start rfl).exec executed) effective
    (by decide) ?_ ?_
  · rintro ⟨raw, listed, entry, cleaned, again⟩
    obtain rfl : raw = "a.io" := by simpa using listed
    have first : normalize plainText "a.io" = .ok (some "a.io") := by decide
    obtain rfl : "a.io" = entry := by simpa [first] using cleaned
    exact absurd (first.symm.trans again) (by decide)
  · rintro (⟨raw, member⟩ | ⟨raw, child, now, member, -⟩)
    · simp [discovery] at member
    · simp [discovery] at member

end SmartExclusionGraph

end ProxyLauncher.IOS
