import ProxyLauncher.IOS.Approvals

/-!
# Removals

A removal leaves a tombstone.  `pruned` keeps the first tombstones in the order of their
identifiers, so that a tombstone lasts as long as few enough are before it.
-/

namespace ProxyLauncher.IOS

open SiteExclusionPolicy SmartDependency Transition

theorem mem_take_iff {α : Type} [LinearOrder α] {values : List α}
    (sorted : values.Pairwise (· < ·)) {value : α} (member : value ∈ values) {bound : ℕ} :
    value ∈ values.take bound ↔ (values.filter (· < value)).length < bound := by
  induction values generalizing bound with
  | nil => exact absurd member (by simp)
  | cons first values ih =>
      obtain ⟨least, rest⟩ := List.pairwise_cons.mp sorted
      rcases List.mem_cons.mp member with rfl | later
      · have none : values.filter (· < value) = [] := by
          rw [List.filter_eq_nil_iff]
          intro other there
          simpa using (least other there).le
        cases bound with
        | zero => simp
        | succ bound => simp [none]
      · have before := least value later
        cases bound with
        | zero => simp
        | succ bound =>
            simp only [List.take_succ_cons, List.mem_cons, before.ne', false_or, before,
              decide_true, List.filter_cons_of_pos, List.length_cons, Nat.add_lt_add_iff_right]
            exact ih rest later

theorem pairwise_sortedSet (values : List String) : (sortedSet values).Pairwise (· < ·) := by
  have distinct : (sortedSet values).Nodup :=
    (List.perm_insertionSort _ _).nodup_iff.mpr values.nodup_dedup
  have ordered : (sortedSet values).Pairwise (· ≤ ·) := List.pairwise_insertionSort (· ≤ ·) _
  exact (ordered.and distinct).imp fun both => lt_of_le_of_ne both.1 both.2

namespace SmartExclusionGraph

variable (text : Text)

/-- The tombstones that `pruned` sorts before an identifier. -/
def before (graph : SmartExclusionGraph) (identifier : String) : List String :=
  (sortedSet (graph.denials.filter (validDenial text))).filter (· < identifier)

/-- The operation replaces the graph by a pruned one. -/
def prunes (graph : SmartExclusionGraph) (operation : GraphOperation) : Bool :=
  match operation with
  | .observe _ _ _ _ | .addUserLink _ _ _ | .prune _ | .saveAndLoad _ _ _ _ _ =>
      (graph.perform text operation).1
  | .approveStrongFirstParty _ _ _ | .set _ _ _ | .remove _ _ => false

/-- The user adds the link again or removes the whole site. -/
def Restores (parent child : String) : GraphOperation → Prop
  | .addUserLink raw rawChild _ =>
      root text raw = some parent ∧ normalized text rawChild = some child
  | .remove raw none => root text raw = some parent
  | _ => False

/-- The operations after the removal of a child, while there is room for its tombstone. -/
def Remembers (parent child : String) (_ : List GraphOperation) (graph : SmartExclusionGraph)
    (operation : GraphOperation) : Prop :=
  ¬ Restores text parent child operation ∧
    (graph.prunes text operation = true →
      (graph.before text (dependencyID parent child)).length < maxDenials)

/-- A child that can be a dependency has its tombstone. -/
def Buried (parent child : String) (graph : SmartExclusionGraph) : Prop :=
  root text parent = some parent → isScannableHost text child = true →
    dependencyID parent child ∈ graph.denials

variable {text : Text} {graph graph' : SmartExclusionGraph} {parent child raw : String}
  {operation : GraphOperation} {events : List GraphOperation} {now : ℚ}

theorem all_hostChar_of_root {site : String} (found : root text site = some parent) :
    parent.toList.all hostChar = true := by
  obtain ⟨host, -, scanned⟩ := Option.bind_eq_some_iff.mp found
  split at scanned
  · rename_i scannable
    obtain rfl := Option.some.inj scanned
    have clean := all_hostChar_of_scannable scannable
    rw [apex]
    split
    · rw [List.all_eq_true] at clean ⊢
      rw [String.toList_ofList]
      exact fun char member => clean char (List.mem_of_mem_drop member)
    · exact clean
  · exact absurd scanned (by simp)

theorem bar_notMem {name : String} (clean : name.toList.all hostChar = true) :
    '|' ∉ name.toList := by
  intro member
  exact absurd (List.all_eq_true.mp clean _ member) (by decide)

theorem splitOn_dependencyID (parentClean : '|' ∉ parent.toList)
    (childClean : '|' ∉ child.toList) :
    (dependencyID parent child).toList.splitOn '|' = [parent.toList, child.toList] := by
  have unsplit {chars : List Char} (clean : '|' ∉ chars) : chars.splitOn '|' = [chars] := by
    refine List.splitOnP_eq_singleton fun char member => ?_
    exact beq_false_of_ne fun same => clean (same ▸ member)
  have joined : (dependencyID parent child).toList = parent.toList ++ '|' :: child.toList := by
    simp [dependencyID]
  rw [joined, List.splitOn, List.splitOnP_append_cons _ _ (by simp)]
  exact congrArg₂ _ (unsplit parentClean) (unsplit childClean)

theorem validDenial_dependencyID (site : root text parent = some parent)
    (scannable : isScannableHost text child = true) :
    validDenial text (dependencyID parent child) = true := by
  rw [validDenial, splitOn_dependencyID (bar_notMem (all_hostChar_of_root site))
    (bar_notMem (all_hostChar_of_scannable scannable))]
  simp [site, scannable]

/-- Only the same child of the same site has its identifier. -/
theorem dependencyID_inj {parent' child' : String} (clean : '|' ∉ parent.toList)
    (clean' : '|' ∉ parent'.toList)
    (same : dependencyID parent child = dependencyID parent' child') :
    parent = parent' ∧ child = child' := by
  have lists : parent.toList ++ '|' :: child.toList = parent'.toList ++ '|' :: child'.toList := by
    simpa [dependencyID] using congrArg String.toList same
  have parents : parent.toList = parent'.toList := by
    have taken := congrArg (List.takeWhile (· ≠ '|')) lists
    have self {front rest : List Char} (missing : '|' ∉ front) :
        (front ++ '|' :: rest).takeWhile (· ≠ '|') = front := by
      rw [List.takeWhile_append_of_pos]
      · simp
      · intro char member
        exact decide_eq_true fun same => missing (same ▸ member)
    rwa [self clean, self clean'] at taken
  rw [parents] at lists
  exact ⟨String.toList_inj.mp parents, String.toList_inj.mp (by simpa using lists)⟩

/-- A tombstone is kept exactly when there is room for it. -/
theorem mem_pruned_denials {identifier : String} (valid : validDenial text identifier = true)
    (denied : identifier ∈ graph.denials) :
    identifier ∈ (graph.pruned text now).denials ↔
      (graph.before text identifier).length < maxDenials := by
  simp only [denials, pruned, Option.getD_some, before]
  exact mem_take_iff (pairwise_sortedSet _) (by simpa using ⟨denied, valid⟩)

theorem Buried.pruned (buried : Buried text parent child graph)
    (room : (graph.before text (dependencyID parent child)).length < maxDenials) :
    Buried text parent child (graph.pruned text now) := by
  intro site scannable
  exact (mem_pruned_denials (validDenial_dependencyID site scannable)
    (buried site scannable)).mpr room

/-- A pruned graph has room for the tombstones that it has. -/
theorem room_pruned {identifier : String} (valid : validDenial text identifier = true)
    (kept : identifier ∈ (graph.pruned text now).denials) :
    ((graph.pruned text now).before text identifier).length < maxDenials := by
  set denials := (graph.pruned text now).denials with same
  have few : denials.length ≤ maxDenials := by
    rw [same]
    simp only [SmartExclusionGraph.denials, pruned, Option.getD_some]
    exact List.length_take_le _ _
  have there : identifier ∈ sortedSet (denials.filter (validDenial text)) := by
    simpa using ⟨kept, valid⟩
  have fewer : (sortedSet (denials.filter (validDenial text))).length ≤ denials.length := by
    rw [sortedSet, List.length_insertionSort]
    exact (List.dedup_sublist _).length_le.trans (List.length_filter_le _ _)
  refine lt_of_lt_of_le ?_ (fewer.trans few)
  rw [before]
  exact List.length_filter_lt_length_iff_exists.mpr ⟨identifier, there, by simp⟩

theorem Buried.pruned_pruned {later : ℚ} (buried : Buried text parent child (graph.pruned text now)) :
    Buried text parent child ((graph.pruned text now).pruned text later) := by
  intro site scannable
  have valid := validDenial_dependencyID site scannable
  have kept := buried site scannable
  exact (mem_pruned_denials valid kept).mpr (room_pruned valid kept)

theorem Buried.of_denials (buried : Buried text parent child graph)
    (more : ∀ identifier ∈ graph.denials, identifier ∈ graph'.denials) :
    Buried text parent child graph' :=
  fun site scannable => more _ (buried site scannable)

theorem observe_suppressed {html network : List String}
    (observed : (SmartExclusionGraph.observe text raw html network now).call graph =
      (.ok (), graph')) :
    graph'.suppressed = (graph.pruned text now).suppressed := by
  rcases observe_cases graph raw html network now with ⟨error, thrown⟩ | ⟨_, _, -, -, -, returned⟩
  · cases thrown.symm.trans observed
  · obtain ⟨-, rfl⟩ := Prod.mk.inj (returned.symm.trans observed)
    rfl

theorem approveStrongFirstParty_suppressed {manual : List String} :
    (graph.approveStrongFirstParty text raw manual now).1.suppressed = graph.suppressed := by
  have step (parent : String) (outcome : SmartExclusionGraph × List String) (index : ℕ) :
      (approveAt text parent manual now outcome index).1.suppressed = outcome.1.suppressed := by
    unfold approveAt
    split
    · rfl
    · split
      · simp only []
        split
        · rfl
        · rfl
      · rfl
  have throughout (parent : String) (indices : List ℕ) :
      ∀ outcome : SmartExclusionGraph × List String,
        (indices.foldl (approveAt text parent manual now) outcome).1.suppressed =
          outcome.1.suppressed := by
    induction indices with
    | nil => exact fun _ => rfl
    | cons index indices ih => exact fun outcome => (ih _).trans (step parent outcome index)
  unfold approveStrongFirstParty
  split
  · split
    · exact throughout _ _ _
    · rfl
  · rfl

theorem Buried.addUserLink {rawChild : String}
    (buried : Buried text parent child (graph.pruned text now))
    (other : ¬ (root text raw = some parent ∧ normalized text rawChild = some child))
    (linked : (SmartExclusionGraph.addUserLink text raw rawChild now).call graph =
      (.ok (), graph')) :
    Buried text parent child graph' := by
  rcases addUserLink_cases graph raw rawChild now with
    ⟨error, thrown⟩ | ⟨site, link, edges, found, named, -, -, returned⟩
  · cases thrown.symm.trans linked
  · obtain ⟨-, rfl⟩ := Prod.mk.inj (returned.symm.trans linked)
    intro own scannable
    have denied := buried own scannable
    have different : dependencyID parent child ≠ dependencyID site link := by
      intro same
      obtain ⟨rfl, rfl⟩ := dependencyID_inj (bar_notMem (all_hostChar_of_root own))
        (bar_notMem (all_hostChar_of_root found)) same
      exact other ⟨found, named⟩
    simp only [denials, SmartExclusionGraph.pruned, Option.getD_some, Option.map_some] at denied ⊢
    exact List.mem_filter.mpr ⟨denied, by simpa using different⟩

theorem set_suppressed {decision : SmartDecision} {host : String}
    (decided : (SmartExclusionGraph.set text decision raw host).call graph = (.ok (), graph')) :
    graph'.suppressed = graph.suppressed := by
  rcases set_cases graph decision raw host with ⟨error, thrown⟩ | ⟨root, returned⟩
  · cases thrown.symm.trans decided
  · obtain ⟨-, rfl⟩ := Prod.mk.inj (returned.symm.trans decided)
    rfl

theorem Buried.remove {host : Option String} (buried : Buried text parent child graph)
    (other : host = none → root text raw ≠ some parent) :
    Buried text parent child (graph.remove text raw host) := by
  unfold SmartExclusionGraph.remove
  split
  · exact buried
  · rename_i site link found
    split
    · refine buried.of_denials fun identifier there => ?_
      by_cases known : dependencyID site link ∈ graph.denials
      · rwa [denials, if_pos known]
      · rw [denials, if_neg known, Option.getD_some]
        exact List.mem_append_left _ there
    · exact buried
  · rename_i site found
    intro own scannable
    refine List.mem_filter.mpr ⟨buried own scannable, ?_⟩
    rw [Bool.not_eq_true']
    by_contra starts
    rw [Bool.not_eq_false, hasPrefix, List.isPrefixOf_iff_prefix] at starts
    obtain ⟨rest, whole⟩ := starts
    have same : dependencyID parent child = dependencyID site (.ofList rest) := by
      apply String.toList_inj.mp
      simpa [dependencyID] using whole.symm
    obtain ⟨rfl, -⟩ := dependencyID_inj (bar_notMem (all_hostChar_of_root own))
      (bar_notMem (all_hostChar_of_root found)) same
    exact other rfl found

theorem Buried.perform (buried : Buried text parent child graph)
    (remembers : Remembers text parent child events graph operation)
    (done : graph.perform text operation = (true, graph')) :
    Buried text parent child graph' := by
  obtain ⟨other, room⟩ := remembers
  cases operation with
  | observe raw html network now =>
      have kept : Buried text parent child (graph.pruned text now) :=
        buried.pruned (room (by simp [prunes, done]))
      apply kept.of_denials
      intro identifier there
      rwa [denials, observe_suppressed (returning_eq_true done)]
  | approveStrongFirstParty raw manual now =>
      obtain ⟨-, rfl⟩ := Prod.mk.inj done
      apply buried.of_denials
      intro identifier there
      rwa [denials, approveStrongFirstParty_suppressed]
  | addUserLink raw rawChild now =>
      have kept : Buried text parent child (graph.pruned text now) :=
        buried.pruned (room (by simp [prunes, done]))
      exact kept.addUserLink other (returning_eq_true done)
  | set decision raw host =>
      apply buried.of_denials
      intro identifier there
      rwa [denials, set_suppressed (returning_eq_true done)]
  | remove raw host =>
      obtain ⟨-, rfl⟩ := Prod.mk.inj done
      apply buried.remove
      rintro rfl
      exact other
  | prune now =>
      obtain ⟨-, rfl⟩ := Prod.mk.inj done
      exact buried.pruned (room (by simp [prunes, SmartExclusionGraph.perform]))
  | saveAndLoad manual checked saved effective loaded =>
      rw [perform_saveAndLoad done]
      exact (buried.pruned (room (by simp [prunes, done]))).pruned_pruned.pruned_pruned

theorem buried_remove (site : root text raw = some parent) :
    Buried text parent child (graph.remove text raw (some child)) := by
  intro _ scannable
  unfold SmartExclusionGraph.remove
  rw [site]
  change _ ∈ denials (ite _ _ _)
  rw [if_pos scannable]
  by_cases known : dependencyID parent child ∈ graph.denials
  · rwa [denials, if_pos known]
  · rw [denials, if_neg known, Option.getD_some]
    exact List.mem_append_right _ (List.mem_singleton.mpr rfl)

theorem Buried.not_names (buried : Buried text parent child graph) {edge : SmartDependency}
    (member : edge ∈ (graph.pruned text now).edges) : edge.names parent child = false := by
  obtain ⟨old, -, considered, keeps⟩ := keeps_of_mem_pruned member
  rw [Bool.eq_false_iff]
  intro named
  obtain ⟨rfl, rfl⟩ := names_iff.mp named
  have scannable := scannable_of_admissible considered
  simp only [admissible, Bool.and_eq_true, decide_eq_true_eq] at considered
  obtain ⟨⟨⟨-, alive⟩, -⟩, site⟩ := considered
  rw [keeps.parent, keeps.host] at buried
  exact alive (buried site scannable)

/-- After the removal of a child, no approved dependency of the site is this child, in every run
that neither links it again nor removes the site, and that prunes the graph only while fewer
tombstones than fit are before the one of the child. -/
theorem removal_permanent
    (reaches : (machine text fun graph => ∃ old : SmartExclusionGraph,
      graph = old.remove text raw (some child)).Reaches (Remembers text parent child) events graph)
    (site : root text raw = some parent) (manual : List String) (now : ℚ) :
    ∀ edge ∈ graph.approvedChildren text manual now, ¬ (edge.parent = parent ∧ edge.host = child) := by
  have buried : Buried text parent child graph := by
    induction reaches with
    | start removed =>
        obtain ⟨old, rfl⟩ := removed
        exact buried_remove site
    | @step events graph graph' operation _ remembers next buried =>
        rcases step_cases next with ⟨done, -⟩ | ⟨rfl, -⟩
        · exact buried.perform remembers done
        · exact buried
  intro edge member named
  have kept := (List.mem_filter.mp member).1
  exact absurd (names_iff.mpr named) (by simp [buried.not_names kept])

/-- The first letters of the short children of a site, and the second ones. -/
def firstLetters : List Char := "0123456789abcdefghijklmn".toList
def secondLetters : List Char := "0123456789abcdefghijklmnopqrstuv".toList

def shortChildren : List String :=
  (firstLetters ×ˢ secondLetters).map shortChild

/-- The graph after the removal of all of them. -/
def crowded : SmartExclusionGraph where
  suppressed := some (shortChildren.map (dependencyID "a.io"))

theorem shortLetters :
    firstLetters.all shortLetter = true ∧ secondLetters.all shortLetter = true ∧
      firstLetters.Nodup ∧ secondLetters.Nodup ∧
        firstLetters.length * secondLetters.length = maxDenials := by
  decide

theorem shortChild_before {first second : Char} (firstShort : shortLetter first = true) :
    dependencyID "a.io" (shortChild (first, second)) < dependencyID "a.io" "z.a.io" := by
  simp only [shortLetter, Bool.and_eq_true, decide_eq_true_eq] at firstShort
  rw [String.lt_iff_toList_lt]
  simp [dependencyID, shortChild, List.cons_lt_cons_iff, firstShort.2]

theorem shortChildren_nodup : shortChildren.Nodup := by
  obtain ⟨-, -, firsts, seconds, -⟩ := shortLetters
  refine List.Nodup.map ?_ (List.Nodup.product firsts seconds)
  intro first second same
  have lists := String.ofList_inj.mp same
  simp only [List.cons.injEq] at lists
  exact Prod.ext lists.1 lists.2.1

theorem shortChildren_spec {host : String} (member : host ∈ shortChildren) :
    isScannableHost plainText host = true ∧
      dependencyID "a.io" host < dependencyID "a.io" "z.a.io" := by
  obtain ⟨⟨first, second⟩, chosen, rfl⟩ := List.mem_map.mp member
  obtain ⟨firstLetter, secondLetter⟩ := List.mem_product.mp chosen
  have firstShort := List.all_eq_true.mp shortLetters.1 first firstLetter
  have secondShort := List.all_eq_true.mp shortLetters.2.1 second secondLetter
  exact ⟨isScannableHost_shortChild firstShort secondShort, shortChild_before firstShort⟩

/-- What the texts of the sample are to the checks of the graph. -/
theorem sampleHosts :
    root plainText "a.io" = some "a.io" ∧
      isScannableHost plainText "z.a.io" = true ∧
        validChild plainText "z.a.io" "a.io" = true ∧
          eligibleForAutomaticBypass plainText "z.a.io" = true ∧
            normalizeAll plainText ["a.io"] = .ok ["a.io"] ∧
              (normalizeAll plainText ["a.io", "z.a.io"]).toOption.isSome = true ∧
                sortedSet (["z.a.io"] ++ ["z.a.io"]) = ["z.a.io"] := by
  decide

theorem root_site : root plainText "a.io" = some "a.io" := sampleHosts.1

theorem scannable_lastChild : isScannableHost plainText "z.a.io" = true := sampleHosts.2.1

theorem validChild_lastChild : validChild plainText "z.a.io" "a.io" = true := sampleHosts.2.2.1

/-- The tombstone of the last child is behind all the others. -/
theorem notMem_denials_crowded :
    dependencyID "a.io" "z.a.io" ∉
      (((crowded.remove plainText "a.io" (some "z.a.io")).pruned plainText now).denials) := by
  set graph := crowded.remove plainText "a.io" (some "z.a.io") with shape
  have scannable := scannable_lastChild
  have valid := validDenial_dependencyID root_site scannable
  have denied : dependencyID "a.io" "z.a.io" ∈ graph.denials :=
    buried_remove root_site root_site scannable
  rw [mem_pruned_denials valid denied, not_lt]
  have others : shortChildren.map (dependencyID "a.io") ⊆
      graph.before plainText (dependencyID "a.io" "z.a.io") := by
    intro identifier member
    obtain ⟨host, short, rfl⟩ := List.mem_map.mp member
    obtain ⟨scanned, earlier⟩ := shortChildren_spec short
    have buried : Buried plainText "a.io" host crowded :=
      fun _ _ => List.mem_map.mpr ⟨host, short, rfl⟩
    have kept : dependencyID "a.io" host ∈ graph.denials :=
      (buried.remove (by simp)) root_site scanned
    rw [before, List.mem_filter, mem_sortedSet, List.mem_filter]
    exact ⟨⟨kept, validDenial_dependencyID root_site scanned⟩, decide_eq_true earlier⟩
  have distinct : (shortChildren.map (dependencyID "a.io")).Nodup := by
    refine shortChildren_nodup.map fun first second same => ?_
    exact (dependencyID_inj (by decide) (by decide) same).2
  have count : (shortChildren.map (dependencyID "a.io")).length = maxDenials := by
    rw [List.length_map, shortChildren, List.length_map, List.length_product]
    exact shortLetters.2.2.2.2
  exact count ▸ (distinct.subperm others).length_le

/-- The dependency of the last child that an observation adds. -/
def lastChild (decision : SmartDecision) : SmartDependency where
  parent := "a.io"
  host := "z.a.io"
  evidence := .both
  decision := decision
  lastSeen := 1

/-- A graph without the tombstone of the last child. -/
def forgetful (edges : List SmartDependency) (denials : List String) : SmartExclusionGraph where
  edges := edges
  suppressed := some denials

theorem pruned_of_edges_nil (none : graph.edges = []) :
    graph.pruned text now = forgetful [] (graph.pruned text now).denials := by
  simp [pruned, forgetful, denials, none, sorted]

theorem edges_crowded : (crowded.remove plainText "a.io" (some "z.a.io")).edges = [] := by
  unfold SmartExclusionGraph.remove
  rw [root_site]
  change (ite _ _ _ : SmartExclusionGraph).edges = []
  rw [if_pos scannable_lastChild]
  rfl

theorem lastChild_sorted :
    (sorted ([lastChild .pending].foldl SmartDependency.insert [])).foldl take [] =
        [lastChild .pending] ∧
      (sorted ([lastChild .approved].foldl SmartDependency.insert [])).foldl take [] =
          [lastChild .approved] ∧
        (sorted ([lastChild .rejected].foldl SmartDependency.insert [])).foldl take [] =
            [lastChild .rejected] := by
  decide

theorem pruned_forgetful {denials : List String}
    (missing : dependencyID "a.io" "z.a.io" ∉ denials) (decision : SmartDecision)
    (seen : 1 ≤ now) (recent : now - 1 < ttl) :
    ((forgetful [lastChild decision] denials).pruned plainText now).edges =
      [lastChild decision] := by
  have child : validChild plainText (lastChild decision).host (lastChild decision).parent =
      true := validChild_lastChild
  have seen' : (lastChild decision).lastSeen ≤ now := seen
  have recent' : now - (lastChild decision).lastSeen < ttl := recent
  have alive : (lastChild decision).id ∉ (forgetful [lastChild decision] denials).denials :=
    missing
  have site : root plainText (lastChild decision).parent = some (lastChild decision).parent :=
    root_site
  have considered :
      admissible plainText (forgetful [lastChild decision] denials) now (lastChild decision) =
        true := by
    simp only [admissible, decide_eq_true seen', decide_eq_true recent', decide_eq_true alive,
      child, decide_eq_true site, Bool.or_true, Bool.true_or, Bool.and_self]
  have filtered : (forgetful [lastChild decision] denials).edges.filter
      (admissible plainText (forgetful [lastChild decision] denials) now) =
        [lastChild decision] :=
    List.filter_cons_of_pos considered
  rw [pruned, filtered]
  change (sorted ([lastChild decision].foldl SmartDependency.insert [])).foldl take [] = _
  cases decision with
  | pending => exact lastChild_sorted.1
  | approved => exact lastChild_sorted.2.1
  | rejected => exact lastChild_sorted.2.2

theorem normalizeAll_site : normalizeAll plainText ["a.io"] = .ok ["a.io"] :=
  sampleHosts.2.2.2.2.1

theorem approvedChildren_forgetful {denials : List String}
    (missing : dependencyID "a.io" "z.a.io" ∉ denials) (seen : 1 ≤ now)
    (recent : now - 1 < ttl) :
    (forgetful [lastChild .approved] denials).approvedChildren plainText ["a.io"] now =
      [lastChild .approved] := by
  rw [approvedChildren, pruned_forgetful missing .approved seen recent]
  simp [lastChild, root_site]

/-- The next observation brings the child back as a pending dependency. -/
theorem observe_forgetful {denials : List String}
    (missing : dependencyID "a.io" "z.a.io" ∉ denials) :
    ∃ fewer, dependencyID "a.io" "z.a.io" ∉ fewer ∧
      (observe plainText "a.io" ["z.a.io"] ["z.a.io"] 1).call (forgetful [] denials) =
        (.ok (), forgetful [lastChild .pending] fewer) := by
  refine ⟨((forgetful [] denials).pruned plainText 1).denials, ?_, ?_⟩
  · intro kept
    simp only [SmartExclusionGraph.denials, pruned, Option.getD_some] at kept
    have member := (mem_sortedSet.mp (List.mem_of_mem_take kept))
    exact missing (List.mem_filter.mp member).1
  · have child : (["z.a.io"].filter fun host => validChild plainText host "a.io") = ["z.a.io"] :=
      List.filter_cons_of_pos validChild_lastChild
    have alive : dependencyID "a.io" "z.a.io" ∉ (forgetful [] denials).denials := missing
    have hosts : ((sortedSet (["z.a.io"] ++ ["z.a.io"])).filter fun host =>
        decide (dependencyID "a.io" host ∉ (forgetful [] denials).denials)) = ["z.a.io"] := by
      rw [sampleHosts.2.2.2.2.2.2]
      exact List.filter_cons_of_pos (decide_eq_true alive)
    unfold observe
    rw [root_site]
    simp only [Mutating.call_get_bind, child, hosts]
    rfl

/-- The child becomes direct by itself. -/
theorem approve_forgetful {denials : List String}
    (missing : dependencyID "a.io" "z.a.io" ∉ denials) :
    ((forgetful [lastChild .pending] denials).approveStrongFirstParty plainText "a.io" ["a.io"]
      2).1 = forgetful [lastChild .approved] denials := by
  have strong : (lastChild .pending).parent = "a.io" ∧ (lastChild .pending).decision = .pending ∧
      (lastChild .pending).evidence = .both ∧
      validChild plainText (lastChild .pending).host "a.io" = true ∧
      eligibleForAutomaticBypass plainText (lastChild .pending).host = true :=
    ⟨rfl, rfl, rfl, validChild_lastChild, sampleHosts.2.2.2.1⟩
  have effective : ((forgetful [lastChild .approved] denials).effective plainText ["a.io"]
      2).toOption.isSome = true := by
    rw [SmartExclusionGraph.effective, normalizeAll_site]
    simp only [bind, Except.bind]
    rw [approvedChildren_forgetful missing (by norm_num) (by norm_num [ttl])]
    exact sampleHosts.2.2.2.2.2.1
  have listed : (["a.io"].any fun entry => decide (root plainText entry = some "a.io")) =
      true := by
    simp [root_site]
  unfold approveStrongFirstParty
  rw [root_site, normalizeAll_site]
  simp only [listed, if_true]
  change (approveAt plainText "a.io" ["a.io"] 2 (forgetful [lastChild .pending] denials, [])
    0).1 = _
  unfold approveAt
  change (ite _ _ _ : SmartExclusionGraph × List String).1 = _
  rw [if_pos strong]
  change (ite ((forgetful [lastChild .approved] denials).effective plainText ["a.io"]
    2).toOption.isSome _ _ : SmartExclusionGraph × List String).1 = _
  rw [if_pos effective]
  rfl

/-- The runs after the removal of the last child, which the user does not undo. -/
def AfterRemoval (events : List GraphOperation) (graph : SmartExclusionGraph) : Prop :=
  (machine plainText fun graph => graph =
    crowded.remove plainText "a.io" (some "z.a.io")).Reaches
      (fun _ _ operation => ¬ Restores plainText "a.io" "z.a.io" operation) events graph

/-- The child returns after its removal, when the site had as many removed children as fit. -/
theorem removal_forgotten :
    ∃ events graph, AfterRemoval events graph ∧
      ∃ edge ∈ graph.approvedChildren plainText ["a.io"] 3,
        edge.parent = "a.io" ∧ edge.host = "z.a.io" := by
  have first := @pruned_of_edges_nil plainText _ 0 edges_crowded
  obtain ⟨denials, missing, observed⟩ := observe_forgetful (@notMem_denials_crowded 0)
  have start : AfterRemoval [] (crowded.remove plainText "a.io" (some "z.a.io")) := .start rfl
  have pruned : AfterRemoval [.prune 0]
      (forgetful [] ((crowded.remove plainText "a.io" (some "z.a.io")).pruned plainText
        0).denials) := by
    refine start.step (.prune 0) (by simp [Restores]) ?_
    exact congrArg some first
  obtain ⟨observations, back⟩ :
      ∃ events, AfterRemoval events (forgetful [lastChild .pending] denials) := by
    refine ⟨_, pruned.step (.observe "a.io" ["z.a.io"] ["z.a.io"] 1) (by simp [Restores]) ?_⟩
    simp only [machine, perform, observed]
    rfl
  obtain ⟨approvals, direct⟩ :
      ∃ events, AfterRemoval events (forgetful [lastChild .approved] denials) := by
    refine ⟨_, back.step (.approveStrongFirstParty "a.io" ["a.io"] 2) (by simp [Restores]) ?_⟩
    simp only [machine, perform, approve_forgetful missing]
  refine ⟨_, _, direct, lastChild .approved, ?_, rfl, rfl⟩
  rw [approvedChildren_forgetful missing (by norm_num) (by norm_num [ttl])]
  exact List.mem_singleton.mpr rfl

instance (parent child : String) (operation : GraphOperation) :
    Decidable (Restores plainText parent child operation) := by
  cases operation with
  | addUserLink raw rawChild now => exact inferInstanceAs (Decidable (_ ∧ _))
  | remove raw host =>
      cases host with
      | none => exact inferInstanceAs (Decidable (_ = _))
      | some host => exact .isFalse id
  | _ => exact .isFalse id

instance (parent child : String) (events : List GraphOperation) (graph : SmartExclusionGraph)
    (operation : GraphOperation) :
    Decidable (Remembers plainText parent child events graph operation) :=
  inferInstanceAs (Decidable (_ ∧ _))

/-- A site with two children, one of which is approved. -/
def visited : SmartExclusionGraph where
  edges := [{ parent := "a.io", host := "b.a.io", evidence := .both, decision := .pending,
              lastSeen := 0 }, { lastChild .approved with lastSeen := 0 }]
  suppressed := some ["a.io|c.a.io"]

/-- The children are seen again, and the graph is pruned, saved and loaded. -/
def rescans : List GraphOperation :=
  [.observe "a.io" ["b.a.io", "z.a.io"] ["b.a.io", "z.a.io"] 1, .prune 2,
    .approveStrongFirstParty "a.io" ["a.io"] 2, .remove "a.io" (some "d.a.io"),
    .saveAndLoad ["a.io"] 3 3 3 4]

/-- The other child has become direct. -/
def rescanned : SmartExclusionGraph where
  edges := [{ parent := "a.io", host := "b.a.io", evidence := .both, decision := .approved,
              lastSeen := 1 }]
  suppressed := some ["a.io|c.a.io", "a.io|d.a.io", "a.io|z.a.io"]

theorem removal_permanent_sample : ∃ graph,
    (machine plainText fun graph => ∃ old : SmartExclusionGraph,
      graph = old.remove plainText "a.io" (some "z.a.io")).Reaches
        (Remembers plainText "a.io" "z.a.io") rescans graph ∧
      (graph.approvedChildren plainText ["a.io"] 5).map SmartDependency.host = ["b.a.io"] ∧
      ∀ edge ∈ graph.approvedChildren plainText ["a.io"] 5,
        ¬ (edge.parent = "a.io" ∧ edge.host = "z.a.io") := by
  have start : (machine plainText fun graph => ∃ old : SmartExclusionGraph,
      graph = old.remove plainText "a.io" (some "z.a.io")).Reaches
        (Remembers plainText "a.io" "z.a.io") []
        (visited.remove plainText "a.io" (some "z.a.io")) := .start ⟨visited, rfl⟩
  have executed : (machine plainText fun graph => ∃ old : SmartExclusionGraph,
      graph = old.remove plainText "a.io" (some "z.a.io")).exec
        (Remembers plainText "a.io" "z.a.io") rescans []
        (visited.remove plainText "a.io" (some "z.a.io")) = some (rescans, rescanned) := by
    decide +kernel
  have reaches := start.exec executed
  exact ⟨rescanned, reaches, by decide +kernel, removal_permanent reaches root_site ["a.io"] 5⟩

end SmartExclusionGraph

end ProxyLauncher.IOS
