import ProxyLauncher.IOS.Hosts

/-!
# The graph of the smart exclusions

The hosts that a site loads are dependencies of the site.  The user or the evidence decides
which of them are direct, and what the user removes is kept as a tombstone.
-/

namespace ProxyLauncher.IOS

open SiteExclusionPolicy

inductive SmartEvidence where
  | html
  | network
  | both
deriving DecidableEq

inductive SmartDecision where
  | pending
  | approved
  | rejected
deriving DecidableEq

structure SmartDependency where
  parent : String
  host : String
  evidence : SmartEvidence
  decision : SmartDecision
  lastSeen : ℚ
  userLinked : Option Bool := none
deriving DecidableEq

/-- The identifier of the dependency of a host. -/
def dependencyID (parent host : String) : String :=
  parent ++ "|" ++ host

namespace SmartDependency

def id (edge : SmartDependency) : String :=
  dependencyID edge.parent edge.host

/-- `$0.parent == parent && $0.host == host`. -/
def names (edge : SmartDependency) (parent host : String) : Bool :=
  decide (edge.parent = parent) && decide (edge.host = host)

/-- `sort { $0.id < $1.id }`. -/
def sorted (edges : List SmartDependency) : List SmartDependency :=
  edges.insertionSort fun first second => first.id ≤ second.id

@[simp] theorem mem_sorted {edges : List SmartDependency} {edge : SmartDependency} :
    edge ∈ sorted edges ↔ edge ∈ edges := by
  simp [sorted]

/-- What `pruned` keeps of two dependencies with one identifier. -/
def merged (previous edge : SmartDependency) : SmartDependency :=
  let kept := if edge.lastSeen > previous.lastSeen then edge else previous
  if edge.decision ≠ previous.decision ∨ edge.userLinked ≠ previous.userLinked then
    { kept with decision := .pending, userLinked := none }
  else kept

/-- The dependencies by their identifiers, after one more. -/
def insert (byID : List SmartDependency) (edge : SmartDependency) : List SmartDependency :=
  if byID.any fun previous => decide (previous.id = edge.id) then
    byID.map fun previous => if previous.id = edge.id then merged previous edge else previous
  else byID ++ [edge]

/-- A dependency is taken while there is room for its parent and among its parent's. -/
def take (result : List SmartDependency) (edge : SmartDependency) : List SmartDependency :=
  let parents := result.map parent
  if edge.parent ∉ parents ∧ parents.dedup.length ≥ maxEntries then result
  else if parents.count edge.parent ≥ maxCandidates then result
  else result ++ [edge]

/-- Change the first element that passes the test. -/
def modifyFirst (test : SmartDependency → Bool) (change : SmartDependency → SmartDependency) :
    List SmartDependency → List SmartDependency
  | [] => []
  | edge :: edges =>
      if test edge then change edge :: edges else edge :: modifyFirst test change edges

theorem of_mem_modifyFirst {test : SmartDependency → Bool}
    {change : SmartDependency → SmartDependency} {edges : List SmartDependency}
    {edge : SmartDependency} (member : edge ∈ modifyFirst test change edges) :
    edge ∈ edges ∨ ∃ old ∈ edges, test old = true ∧ edge = change old := by
  induction edges with
  | nil => exact .inl member
  | cons first edges ih =>
      rw [modifyFirst] at member
      by_cases passes : test first = true
      · rw [if_pos passes, List.mem_cons] at member
        rcases member with rfl | later
        · exact .inr ⟨first, by simp, passes, rfl⟩
        · exact .inl (by simp [later])
      · rw [if_neg passes, List.mem_cons] at member
        rcases member with rfl | later
        · exact .inl (by simp)
        · rcases ih later with old | ⟨old, there, passed, changed⟩
          · exact .inl (by simp [old])
          · exact .inr ⟨old, by simp [there], passed, changed⟩

end SmartDependency

inductive SmartGraphError where
  | invalidParent
  | invalidChild
  | tooMany
deriving DecidableEq

structure SmartExclusionGraph where
  edges : List SmartDependency := []
  suppressed : Option (List String) := none
deriving DecidableEq

/-- A `mutating` method that can throw.  What it has assigned before stays assigned. -/
abbrev Mutating := ExceptT SmartGraphError (StateM SmartExclusionGraph)

/-- The result of a method and the graph behind the call. -/
def Mutating.call (method : Mutating Unit) (graph : SmartExclusionGraph) :
    Except SmartGraphError Unit × SmartExclusionGraph :=
  (method.run.run graph).run

namespace Mutating

variable {α : Type} {graph : SmartExclusionGraph} {error : SmartGraphError}

@[simp] theorem call_throw : call (throw error) graph = (.error error, graph) :=
  rfl

@[simp] theorem call_get_bind {rest : SmartExclusionGraph → Mutating Unit} :
    call (get >>= rest) graph = (rest graph).call graph :=
  rfl

@[simp] theorem call_set (assigned : SmartExclusionGraph) :
    call (set assigned) graph = (.ok (), assigned) :=
  rfl

@[simp] theorem call_modify {change : SmartExclusionGraph → SmartExclusionGraph} :
    call (modify change) graph = (.ok (), change graph) :=
  rfl

@[simp] theorem call_ofExcept_error {rest : α → Mutating Unit} :
    call (ofExcept (.error error) >>= rest) graph = (.error error, graph) :=
  rfl

@[simp] theorem call_ofExcept_ok {value : α} {rest : α → Mutating Unit} :
    call (ofExcept (.ok value : Except SmartGraphError α) >>= rest) graph =
      (rest value).call graph :=
  rfl

end Mutating

namespace SmartExclusionGraph

open SmartDependency

def ttl : ℚ := 7 * 86400

/-- `suppressed ?? []`. -/
def denials (graph : SmartExclusionGraph) : List String :=
  graph.suppressed.getD []

variable (text : Text)

def root (site : String) : Option String :=
  (normalized text site).bind fun host =>
    if isScannableHost text host = true then some (apex host) else none

def validChild (child parent : String) : Bool :=
  (root text parent).any fun root =>
    decide (normalized text child = some child) && isScannableHost text child &&
      decide (child ≠ root) && decide (child ≠ "www." ++ root) && hasSuffix child ("." ++ root)

/-- The dependencies that `pruned` considers. -/
def admissible (graph : SmartExclusionGraph) (now : ℚ) (edge : SmartDependency) : Bool :=
  decide (edge.lastSeen ≤ now) &&
    (decide (edge.userLinked = some true) || decide (now - edge.lastSeen < ttl)) &&
    decide (edge.id ∉ graph.denials) &&
    (validChild text edge.host edge.parent ||
      (decide (edge.userLinked = some true) && isScannableHost text edge.host &&
        decide (edge.host ≠ edge.parent) && decide (edge.host ≠ "www." ++ edge.parent))) &&
    decide (root text edge.parent = some edge.parent)

/-- The tombstones that `pruned` considers. -/
def validDenial (identifier : String) : Bool :=
  match identifier.toList.splitOn '|' with
  | [parent, host] =>
      decide (root text (.ofList parent) = some (.ofList parent)) &&
        isScannableHost text (.ofList host)
  | _ => false

def maxDenials : ℕ := maxEntries * maxCandidates

def pruned (graph : SmartExclusionGraph) (now : ℚ) : SmartExclusionGraph where
  edges :=
    (sorted ((graph.edges.filter (admissible text graph now)).foldl SmartDependency.insert
      [])).foldl take []
  suppressed := some ((sortedSet (graph.denials.filter (validDenial text))).take maxDenials)

/-- A dependency that `pruned` keeps, which can be set back to pending. -/
structure Keeps (edge old : SmartDependency) : Prop where
  parent : edge.parent = old.parent
  host : edge.host = old.host
  evidence : edge.evidence = old.evidence
  decision : edge.decision = old.decision ∨ edge.decision = .pending

variable {text : Text} {graph : SmartExclusionGraph} {now : ℚ} {edge : SmartDependency}

theorem Keeps.refl (edge : SmartDependency) : Keeps edge edge :=
  ⟨rfl, rfl, rfl, .inl rfl⟩

theorem keeps_merged (previous edge : SmartDependency) :
    Keeps (merged previous edge) previous ∨ Keeps (merged previous edge) edge := by
  unfold merged
  by_cases later : edge.lastSeen > previous.lastSeen
  · rw [if_pos later]
    right
    split
    · exact ⟨rfl, rfl, rfl, .inr rfl⟩
    · exact .refl edge
  · rw [if_neg later]
    left
    split
    · exact ⟨rfl, rfl, rfl, .inr rfl⟩
    · exact .refl previous

theorem Keeps.trans {edge middle old : SmartDependency} (first : Keeps edge middle)
    (second : Keeps middle old) : Keeps edge old where
  parent := first.parent.trans second.parent
  host := first.host.trans second.host
  evidence := first.evidence.trans second.evidence
  decision := by
    rcases first.decision with same | pending
    · rcases second.decision with before | pending
      · exact .inl (same.trans before)
      · exact .inr (same.trans pending)
    · exact .inr pending

theorem keeps_of_mem_insert {byID : List SmartDependency} {added : SmartDependency}
    (member : edge ∈ SmartDependency.insert byID added) :
    ∃ old, (old ∈ byID ∨ old = added) ∧ Keeps edge old := by
  rw [SmartDependency.insert] at member
  split at member
  · obtain ⟨previous, there, changed⟩ := List.mem_map.mp member
    by_cases same : previous.id = added.id
    · rw [if_pos same] at changed
      subst changed
      rcases keeps_merged previous added with kept | kept
      · exact ⟨previous, .inl there, kept⟩
      · exact ⟨added, .inr rfl, kept⟩
    · rw [if_neg same] at changed
      subst changed
      exact ⟨previous, .inl there, .refl _⟩
  · rcases List.mem_append.mp member with there | last
    · exact ⟨edge, .inl there, .refl _⟩
    · exact ⟨edge, .inr (List.mem_singleton.mp last), .refl _⟩

theorem keeps_of_mem_foldl {edges byID : List SmartDependency}
    (member : edge ∈ edges.foldl SmartDependency.insert byID) :
    ∃ old, (old ∈ byID ∨ old ∈ edges) ∧ Keeps edge old := by
  induction edges generalizing byID with
  | nil => exact ⟨edge, .inl member, .refl _⟩
  | cons first edges ih =>
      obtain ⟨middle, origin, kept⟩ := ih member
      rcases origin with inserted | later
      · obtain ⟨old, origin, before⟩ := keeps_of_mem_insert inserted
        rcases origin with there | rfl
        · exact ⟨old, .inl there, kept.trans before⟩
        · exact ⟨old, .inr (by simp), kept.trans before⟩
      · exact ⟨middle, .inr (by simp [later]), kept⟩

theorem mem_of_mem_take {edges result : List SmartDependency}
    (member : edge ∈ edges.foldl take result) : edge ∈ result ∨ edge ∈ edges := by
  induction edges generalizing result with
  | nil => exact .inl member
  | cons first edges ih =>
      rcases ih member with taken | later
      · simp only [take] at taken
        split at taken
        · exact .inl taken
        · split at taken
          · exact .inl taken
          · rcases List.mem_append.mp taken with before | last
            · exact .inl before
            · exact .inr (by simp [List.mem_singleton.mp last])
      · exact .inr (by simp [later])

/-- What `pruned` leaves comes from a dependency that it considers. -/
theorem keeps_of_mem_pruned (member : edge ∈ (graph.pruned text now).edges) :
    ∃ old ∈ graph.edges, admissible text graph now old = true ∧ Keeps edge old := by
  rcases mem_of_mem_take member with impossible | inserted
  · exact absurd impossible (by simp)
  · obtain ⟨old, origin, kept⟩ := keeps_of_mem_foldl (mem_sorted.mp inserted)
    rcases origin with impossible | considered
    · exact absurd impossible (by simp)
    · rw [List.mem_filter] at considered
      exact ⟨old, considered.1, considered.2, kept⟩

theorem scannable_of_validChild {child parent : String}
    (valid : validChild text child parent = true) : isScannableHost text child = true := by
  simp only [validChild, Option.any_eq_true, Bool.and_eq_true] at valid
  obtain ⟨_, _, ⟨⟨⟨-, scannable⟩, -⟩, -⟩, -⟩ := valid
  exact scannable

theorem scannable_of_admissible (considered : admissible text graph now edge = true) :
    isScannableHost text edge.host = true := by
  simp only [admissible, Bool.and_eq_true, Bool.or_eq_true] at considered
  rcases considered.1.2 with child | ⟨⟨⟨-, scannable⟩, -⟩, -⟩
  · exact scannable_of_validChild child
  · exact scannable

theorem scannable_of_mem_pruned (member : edge ∈ (graph.pruned text now).edges) :
    isScannableHost text edge.host = true := by
  obtain ⟨old, -, considered, keeps⟩ := keeps_of_mem_pruned member
  rw [keeps.host]
  exact scannable_of_admissible considered

variable (text)

/-- One host of an observation. -/
def observeHost (parent : String) (htmlSet networkSet : List String) (now : ℚ)
    (edges : List SmartDependency) (host : String) :
    Except SmartGraphError (List SmartDependency) :=
  let evidence : SmartEvidence :=
    if host ∈ htmlSet ∧ host ∈ networkSet then .both
    else if host ∈ htmlSet then .html else .network
  if edges.any fun edge => edge.names parent host then
    .ok (modifyFirst (fun edge => edge.names parent host)
      (fun edge => { edge with evidence, lastSeen := now }) edges)
  else if (edges.map SmartDependency.parent).count parent ≥ maxCandidates then .error .tooMany
  else .ok (edges ++ [{ parent, host, evidence, decision := .pending, lastSeen := now }])

def observe (raw : String) (html network : List String) (now : ℚ) : Mutating Unit :=
  match root text raw with
  | none => throw .invalidParent
  | some parent => do
      let graph ← get
      let htmlSet := html.filter fun host => validChild text host parent
      let networkSet := network.filter fun host => validChild text host parent
      let hosts := (sortedSet (htmlSet ++ networkSet)).filter fun host =>
        decide (dependencyID parent host ∉ graph.denials)
      if hosts.length > maxCandidates then throw .tooMany
      else
        let proposed := graph.pruned text now
        if (parent :: proposed.edges.map SmartDependency.parent).dedup.length > maxEntries then
          throw .tooMany
        else
          let edges ← ofExcept (hosts.foldlM (observeHost parent htmlSet networkSet now)
            proposed.edges)
          set { proposed with edges := sorted edges }

/-- The approved dependencies of the sites of the user. -/
def approvedChildren (graph : SmartExclusionGraph) (manual : List String) (now : ℚ) :
    List SmartDependency :=
  (graph.pruned text now).edges.filter fun edge =>
    decide (edge.decision = .approved) && decide (edge.parent ∈ manual.filterMap (root text))

def effective (graph : SmartExclusionGraph) (manual : List String) (now : ℚ) :
    Except SiteExclusionError (List String) := do
  let manual ← normalizeAll text manual
  normalizeAll text (manual ++ (graph.approvedChildren text manual now).map host)

/-- `approveStrongFirstParty` at one index. -/
def approveAt (parent : String) (manual : List String) (now : ℚ)
    (outcome : SmartExclusionGraph × List String) (index : ℕ) :
    SmartExclusionGraph × List String :=
  match outcome.1.edges[index]? with
  | none => outcome
  | some edge =>
      if edge.parent = parent ∧ edge.decision = .pending ∧ edge.evidence = .both ∧
          validChild text edge.host parent = true ∧
          eligibleForAutomaticBypass text edge.host = true then
        let proposed : SmartExclusionGraph := { outcome.1 with
          edges := outcome.1.edges.set index { edge with decision := .approved } }
        if (proposed.effective text manual now).toOption.isSome = true then
          (proposed, outcome.2 ++ [edge.host])
        else outcome
      else outcome

/-- The graph and the hosts that became direct. -/
def approveStrongFirstParty (graph : SmartExclusionGraph) (raw : String) (manual : List String)
    (now : ℚ) : SmartExclusionGraph × List String :=
  match root text raw, normalizeAll text manual with
  | some parent, .ok entries =>
      if entries.any fun entry => decide (root text entry = some parent) then
        let outcome := (List.range graph.edges.length).foldl
          (approveAt text parent manual now) (graph, [])
        (outcome.1, outcome.2.insertionSort (· ≤ ·))
      else (graph, [])
  | _, _ => (graph, [])

def addUserLink (raw rawChild : String) (now : ℚ) : Mutating Unit :=
  match root text raw, normalized text rawChild with
  | some parent, some child =>
      if isScannableHost text child = true ∧ child ≠ parent ∧ child ≠ "www." ++ parent then do
        let graph ← get
        let proposed := graph.pruned text now
        let suppressed := proposed.suppressed.map fun denials =>
          denials.filter fun identifier => decide (identifier ≠ dependencyID parent child)
        if proposed.edges.any fun edge => edge.names parent child then
          set ({
            edges := sorted (modifyFirst (fun edge => edge.names parent child)
              (fun edge =>
                { edge with decision := .approved, userLinked := some true, lastSeen := now })
              proposed.edges)
            suppressed } : SmartExclusionGraph)
        else if (proposed.edges.map SmartDependency.parent).count parent < maxCandidates ∧
            (parent :: proposed.edges.map SmartDependency.parent).dedup.length ≤ maxEntries then
          set ({
            edges := sorted (proposed.edges ++
              [{ parent, host := child, evidence := .network, decision := .approved,
                 lastSeen := now, userLinked := some true }])
            suppressed } : SmartExclusionGraph)
        else throw .tooMany
      else throw .invalidChild
  | _, _ => throw .invalidChild

def set (decision : SmartDecision) (raw child : String) : Mutating Unit :=
  match root text raw with
  | none => throw .invalidChild
  | some root => do
      let graph ← get
      match graph.edges.find? fun edge => edge.names root child with
      | none => throw .invalidChild
      | some edge =>
          if validChild text child root = true ∨
              (edge.userLinked = some true ∧ isScannableHost text child = true) then
            modify fun graph => { graph with
              edges := modifyFirst (fun edge => edge.names root child)
                (fun edge => { edge with
                  decision
                  userLinked := if decision = .rejected then some true else edge.userLinked })
                graph.edges }
          else throw .invalidChild

def remove (graph : SmartExclusionGraph) (raw : String) (child : Option String) :
    SmartExclusionGraph :=
  match root text raw, child with
  | none, _ => graph
  | some root, some child =>
      if isScannableHost text child = true then
        { edges := graph.edges.filter fun edge => !edge.names root child
          suppressed :=
            if dependencyID root child ∈ graph.denials then graph.suppressed
            else some (graph.denials ++ [dependencyID root child]) }
      else graph
  | some root, none =>
      { edges := graph.edges.filter fun edge => decide (edge.parent ≠ root)
        suppressed := some (graph.denials.filter fun identifier =>
          !hasPrefix identifier (root ++ "|")) }

variable {text} in
/-- An observation throws before it assigns, or it adds its hosts to the pruned graph. -/
theorem observe_cases (graph : SmartExclusionGraph) (raw : String) (html network : List String)
    (now : ℚ) :
    (∃ error, (observe text raw html network now).call graph = (.error error, graph)) ∨
      ∃ parent edges, root text raw = some parent ∧
        (parent :: (graph.pruned text now).edges.map SmartDependency.parent).dedup.length ≤
          maxEntries ∧
        ((sortedSet (html.filter (fun host => validChild text host parent) ++
            network.filter fun host => validChild text host parent)).filter fun host =>
              decide (dependencyID parent host ∉ graph.denials)).foldlM
          (observeHost parent (html.filter fun host => validChild text host parent)
            (network.filter fun host => validChild text host parent) now)
          (graph.pruned text now).edges = .ok edges ∧
        (observe text raw html network now).call graph =
          (.ok (), { graph.pruned text now with edges := sorted edges }) := by
  unfold observe
  cases site : root text raw with
  | none => exact .inl ⟨.invalidParent, rfl⟩
  | some parent =>
      simp only [Mutating.call_get_bind]
      split_ifs with many full
      · exact .inl ⟨.tooMany, rfl⟩
      · exact .inl ⟨.tooMany, rfl⟩
      · cases outcome : ((sortedSet (html.filter (fun host => validChild text host parent) ++
            network.filter fun host => validChild text host parent)).filter fun host =>
              decide (dependencyID parent host ∉ graph.denials)).foldlM
            (observeHost parent (html.filter fun host => validChild text host parent)
              (network.filter fun host => validChild text host parent) now)
            (graph.pruned text now).edges with
        | error error => exact .inl ⟨error, rfl⟩
        | ok edges => exact .inr ⟨parent, edges, rfl, not_lt.mp full, outcome, rfl⟩

variable {text} in
/-- A link throws before it assigns, or it is entered in the pruned graph. -/
theorem addUserLink_cases (graph : SmartExclusionGraph) (raw rawChild : String) (now : ℚ) :
    (∃ error, (addUserLink text raw rawChild now).call graph = (.error error, graph)) ∨
      ∃ parent child edges, root text raw = some parent ∧ normalized text rawChild = some child ∧
        (isScannableHost text child = true ∧ child ≠ parent ∧ child ≠ "www." ++ parent) ∧
        (edges = modifyFirst (fun edge => edge.names parent child)
            (fun edge =>
              { edge with decision := .approved, userLinked := some true, lastSeen := now })
            (graph.pruned text now).edges ∨
          ((graph.pruned text now).edges.any fun edge => edge.names parent child) = false ∧
            ((graph.pruned text now).edges.map SmartDependency.parent).count parent <
              maxCandidates ∧
            (parent :: (graph.pruned text now).edges.map SmartDependency.parent).dedup.length ≤
              maxEntries ∧
            edges = (graph.pruned text now).edges ++
              [{ parent, host := child, evidence := .network, decision := .approved,
                 lastSeen := now, userLinked := some true }]) ∧
        (addUserLink text raw rawChild now).call graph =
          (.ok (), {
            edges := sorted edges
            suppressed := (graph.pruned text now).suppressed.map fun denials =>
              denials.filter fun identifier =>
                decide (identifier ≠ dependencyID parent child) }) := by
  unfold addUserLink
  cases site : root text raw with
  | none => exact .inl ⟨.invalidChild, rfl⟩
  | some parent =>
      cases named : normalized text rawChild with
      | none => exact .inl ⟨.invalidChild, rfl⟩
      | some child =>
          dsimp only
          split_ifs with linkable
          · simp only [Mutating.call_get_bind]
            split_ifs with known room
            · exact .inr ⟨parent, child, _, rfl, rfl, linkable, .inl rfl, rfl⟩
            · exact .inr ⟨parent, child, _, rfl, rfl, linkable,
                .inr ⟨Bool.eq_false_iff.mpr known, room.1, room.2, rfl⟩, rfl⟩
            · exact .inl ⟨.tooMany, rfl⟩
          · exact .inl ⟨.invalidChild, rfl⟩

variable {text} in
/-- A decision throws before it assigns, or it changes one dependency. -/
theorem set_cases (graph : SmartExclusionGraph) (decision : SmartDecision) (raw child : String) :
    (∃ error, (SmartExclusionGraph.set text decision raw child).call graph =
        (.error error, graph)) ∨
      ∃ root, (SmartExclusionGraph.set text decision raw child).call graph =
        (.ok (), { graph with
          edges := modifyFirst (fun edge => edge.names root child)
            (fun edge => { edge with
              decision
              userLinked := if decision = .rejected then some true else edge.userLinked })
            graph.edges }) := by
  unfold SmartExclusionGraph.set
  cases root text raw with
  | none => exact .inl ⟨.invalidChild, rfl⟩
  | some root =>
      simp only [Mutating.call_get_bind]
      cases graph.edges.find? fun edge => edge.names root child with
      | none => exact .inl ⟨.invalidChild, rfl⟩
      | some edge =>
          dsimp only
          by_cases valid : validChild text child root = true ∨
              (edge.userLinked = some true ∧ isScannableHost text child = true)
          · rw [if_pos valid]
            exact .inr ⟨root, rfl⟩
          · rw [if_neg valid]
            exact .inl ⟨.invalidChild, rfl⟩

/-- The user listed the host; `effective` cleans the list of the user twice. -/
def Manual (text : Text) (manual : List String) (host : String) : Prop :=
  ∃ raw ∈ manual, ∃ entry, normalize text raw = .ok (some entry) ∧
    normalize text entry = .ok (some host)

/-- A site that the user listed. -/
def ActiveParent (text : Text) (manual : List String) (parent : String) : Prop :=
  ∃ raw ∈ manual, ∃ entry, normalize text raw = .ok (some entry) ∧
    root text entry = some parent

/-- An approved dependency of a site of the user. -/
def ApprovedDependency (text : Text) (graph : SmartExclusionGraph) (manual : List String)
    (now : ℚ) (edge : SmartDependency) : Prop :=
  edge ∈ (graph.pruned text now).edges ∧ edge.decision = .approved ∧
    ActiveParent text manual edge.parent

variable {text : Text} {graph : SmartExclusionGraph} {manual entries hosts : List String}
  {now : ℚ} {edge : SmartDependency} {host : String}

theorem mem_approvedChildren (listed : normalizeAll text manual = .ok entries) :
    edge ∈ graph.approvedChildren text entries now ↔
      ApprovedDependency text graph manual now edge := by
  simp only [approvedChildren, List.mem_filter, Bool.and_eq_true, decide_eq_true_eq,
    List.mem_filterMap, ApprovedDependency, ActiveParent, mem_normalizeAll listed]
  constructor
  · rintro ⟨there, direct, entry, ⟨raw, given, cleaned⟩, site⟩
    exact ⟨there, direct, raw, given, entry, cleaned, site⟩
  · rintro ⟨there, direct, raw, given, entry, cleaned, site⟩
    exact ⟨there, direct, entry, ⟨raw, given, cleaned⟩, site⟩

/-- An effective exclusion is in the list of the user or an approved dependency. -/
theorem mem_effective (done : graph.effective text manual now = .ok hosts) :
    host ∈ hosts ↔ Manual text manual host ∨
      ∃ edge, ApprovedDependency text graph manual now edge ∧ edge.host = host := by
  obtain ⟨entries, listed, all⟩ := Python.bind_eq_ok.mp done
  rw [mem_normalizeAll all]
  constructor
  · rintro ⟨value, there, cleaned⟩
    rcases List.mem_append.mp there with entry | child
    · obtain ⟨raw, given, first⟩ := (mem_normalizeAll listed).mp entry
      exact .inl ⟨raw, given, value, first, cleaned⟩
    · obtain ⟨edge, approved, rfl⟩ := List.mem_map.mp child
      have dependency := (mem_approvedChildren listed).mp approved
      have clean := normalize_of_scannable (scannable_of_mem_pruned dependency.1)
      exact .inr ⟨edge, dependency, by simpa using clean.symm.trans cleaned⟩
  · rintro (⟨raw, given, entry, first, cleaned⟩ | ⟨edge, dependency, rfl⟩)
    · exact ⟨entry, List.mem_append_left _ ((mem_normalizeAll listed).mpr ⟨raw, given, first⟩),
        cleaned⟩
    · have child : edge.host ∈ (graph.approvedChildren text entries now).map
          SmartDependency.host :=
        List.mem_map.mpr ⟨edge, (mem_approvedChildren listed).mpr dependency, rfl⟩
      exact ⟨edge.host, List.mem_append_right _ child,
        normalize_of_scannable (scannable_of_mem_pruned dependency.1)⟩

end SmartExclusionGraph

end ProxyLauncher.IOS
