import ProxyLauncher.Selection.Distinct

/-!
# The order of failover candidates

The two mobile applications rank the profiles to connect with by policies of their own.  The one
for iOS also knows latencies.  The identifiers are texts on Android and UUIDs on iOS.
-/

namespace ProxyLauncher.Mobile

variable {Id : Type} [DecidableEq Id]

/-- Put an element that is there at the end. -/
def demote (ids : List Id) (id : Id) : List Id :=
  if id ∈ ids then ids.erase id ++ [id] else ids

end ProxyLauncher.Mobile

namespace ProxyLauncher.Android.FailoverPolicy

open Mobile (demote)
open Selection (distinct)

variable {Id : Type} [DecidableEq Id]

/-- `orderCandidates`. -/
def orderCandidates (profileIds : List Id) (primaryId lastSuccessfulId recentlyFailedId : Option Id) :
    List Id :=
  if profileIds = [] then []
  else
    let available := distinct profileIds
    let preferred := distinct
      ((primaryId.filter (· ∈ available)).toList ++
        (lastSuccessfulId.filter (· ∈ available)).toList ++ available)
    match recentlyFailedId with
    | some recentlyFailedId => demote preferred recentlyFailedId
    | none => preferred

end ProxyLauncher.Android.FailoverPolicy

namespace ProxyLauncher.IOS.FailoverPolicy

open Mobile (demote)
open Selection (distinct)

variable {Id : Type} [DecidableEq Id]

/-- The comparison of two backups with their positions. -/
def precedes (latencies : Id → Option Int) (left right : Id × Nat) : Bool :=
  match latencies left.1, latencies right.1 with
  | some _, none => true
  | none, some _ => false
  | some lhs, some rhs => if lhs ≠ rhs then decide (lhs < rhs) else decide (left.2 < right.2)
  | none, none => decide (left.2 < right.2)

/-- The profiles by latency. -/
def backups (profileIDs : List Id) (latencies : Id → Option Int) : List Id :=
  (profileIDs.zipIdx.insertionSort fun left right => precedes latencies right left = false).map
    Prod.fst

/-- The loop of `orderCandidates` over the candidates. -/
def appendAvailable (profileIDs result : List Id) (id : Id) : List Id :=
  if id ∈ profileIDs ∧ id ∉ result then result ++ [id] else result

/-- `orderCandidates`. -/
def orderCandidates (profileIDs : List Id) (primaryID lastSuccessfulID recentlyFailedID : Option Id)
    (latencies : Id → Option Int) : List Id :=
  let result := ([primaryID, lastSuccessfulID].reduceOption ++ backups profileIDs latencies).foldl
    (appendAvailable profileIDs) []
  match recentlyFailedID with
  | some recentlyFailedID => demote result recentlyFailedID
  | none => result

end ProxyLauncher.IOS.FailoverPolicy

namespace ProxyLauncher.Mobile

open Selection
open IOS.FailoverPolicy (backups precedes appendAvailable)

variable {Id : Type} [DecidableEq Id] {profileIDs : List Id}
  {primaryID lastSuccessfulID recentlyFailedID : Option Id} {latencies : Id → Option Int}

omit [DecidableEq Id] in
theorem mem_backups {id : Id} : id ∈ backups profileIDs latencies ↔ id ∈ profileIDs := by
  have perm := List.perm_insertionSort
    (fun left right => precedes latencies right left = false) profileIDs.zipIdx
  rw [backups, (perm.map Prod.fst).mem_iff, List.zipIdx_map_fst]

omit [DecidableEq Id] in
/-- Without latencies the backups stay in their order. -/
theorem backups_none (profileIDs : List Id) : backups profileIDs (fun _ => none) = profileIDs := by
  have ascending : profileIDs.zipIdx.Pairwise fun left right =>
      precedes (fun _ => none) right left = false := by
    rw [List.pairwise_iff_getElem]
    intro first second _ _ ordered
    simp [precedes]
    omega
  rw [backups, ascending.insertionSort_eq, List.zipIdx_map_fst]

/-- The loop keeps the candidates that are profiles, each once. -/
theorem foldl_appendAvailable (candidates result : List Id) :
    candidates.foldl (appendAvailable profileIDs) result =
      appendAll result (candidates.filter (· ∈ profileIDs)) := by
  induction candidates generalizing result with
  | nil => rfl
  | cons head candidates ih =>
      rw [List.foldl_cons, ih, List.filter_cons, appendAvailable]
      by_cases available : head ∈ profileIDs
      · rw [if_pos (decide_eq_true available), appendAll_cons, appendNew]
        by_cases there : head ∈ result
        · rw [if_neg (by simp [there]), if_pos there]
        · rw [if_pos ⟨available, there⟩, if_neg there]
      · rw [if_neg (by simp [available]), if_neg (by simp [available])]

/-- The profiles that come first: the primary one and the last successful one. -/
def preferred (profileIDs : List Id) (primaryID lastSuccessfulID : Option Id) : List Id :=
  [primaryID, lastSuccessfulID].reduceOption.filter (· ∈ profileIDs)

/-- The order before the failed profile is put at the end. -/
def ranked (profileIDs : List Id) (primaryID lastSuccessfulID : Option Id)
    (latencies : Id → Option Int) : List Id :=
  distinct (preferred profileIDs primaryID lastSuccessfulID ++ backups profileIDs latencies)

/-- Put the failed profile, if there is one, at the end. -/
def demoteFailed (ids : List Id) : Option Id → List Id
  | some id => demote ids id
  | none => ids

theorem ios_orderCandidates_eq :
    IOS.FailoverPolicy.orderCandidates profileIDs primaryID lastSuccessfulID recentlyFailedID
        latencies =
      demoteFailed (ranked profileIDs primaryID lastSuccessfulID latencies) recentlyFailedID := by
  have every : (backups profileIDs latencies).filter (· ∈ profileIDs) =
      backups profileIDs latencies :=
    List.filter_eq_self.mpr fun id member => decide_eq_true (mem_backups.mp member)
  have same : ([primaryID, lastSuccessfulID].reduceOption ++ backups profileIDs latencies).foldl
      (appendAvailable profileIDs) [] = ranked profileIDs primaryID lastSuccessfulID latencies := by
    rw [foldl_appendAvailable, List.filter_append, every]
    rfl
  unfold IOS.FailoverPolicy.orderCandidates
  dsimp only
  rw [same]
  cases recentlyFailedID <;> rfl

theorem android_orderCandidates_eq :
    Android.FailoverPolicy.orderCandidates profileIDs primaryID lastSuccessfulID recentlyFailedID =
      demoteFailed (ranked profileIDs primaryID lastSuccessfulID fun _ => none)
        recentlyFailedID := by
  have same : distinct
      ((primaryID.filter (· ∈ distinct profileIDs)).toList ++
        (lastSuccessfulID.filter (· ∈ distinct profileIDs)).toList ++ distinct profileIDs) =
      ranked profileIDs primaryID lastSuccessfulID fun _ => none := by
    rw [distinct_append_distinct, ranked, backups_none]
    refine congrArg (fun first => distinct (first ++ profileIDs)) ?_
    cases primaryID <;> cases lastSuccessfulID <;>
      simp [preferred, List.reduceOption, Option.filter, List.filter_cons] <;> split_ifs <;> rfl
  unfold Android.FailoverPolicy.orderCandidates
  split_ifs with empty
  · subst empty
    have none : ranked [] primaryID lastSuccessfulID (fun _ => Option.none) = [] := by
      rw [ranked, backups_none, preferred, List.append_nil, List.filter_eq_nil_iff.mpr (by simp)]
      rfl
    rw [none]
    cases recentlyFailedID <;> rfl
  · dsimp only
    rw [same]
    cases recentlyFailedID <;> rfl

theorem mem_ranked {id : Id} :
    id ∈ ranked profileIDs primaryID lastSuccessfulID latencies ↔ id ∈ profileIDs := by
  rw [ranked, mem_distinct, List.mem_append, mem_backups, or_iff_right_iff_imp]
  intro member
  exact of_decide_eq_true (List.mem_filter.mp member).2

theorem demote_perm (ids : List Id) (id : Id) : (demote ids id).Perm ids := by
  unfold demote
  split_ifs with there
  · exact (List.perm_append_singleton id _).trans (List.perm_cons_erase there).symm
  · exact .refl _

theorem demoteFailed_perm (ids : List Id) (failed : Option Id) :
    (demoteFailed ids failed).Perm ids := by
  cases failed with
  | none => exact .refl _
  | some id => exact demote_perm ids id

/-- The others keep their order. -/
theorem prefix_demoteFailed {ids first : List Id} {failed : Option Id} (nodup : ids.Nodup)
    (before : first <+: ids) :
    first.filter (fun id => decide (some id ≠ failed)) <+: demoteFailed ids failed := by
  cases failed with
  | none =>
      rw [List.filter_eq_self.mpr (by simp)]
      exact before
  | some id =>
      have kept : first.filter (fun other => decide (some other ≠ some id)) <+: ids.erase id := by
        rw [nodup.erase_eq_filter]
        have same : (fun other => decide (some other ≠ some id)) = fun other => other != id := by
          funext other
          simp [bne, Option.some.injEq, beq_eq_decide]
        rw [same]
        exact before.filter _
      rw [demoteFailed, demote]
      split_ifs with there
      · exact kept.trans (List.prefix_append _ _)
      · rwa [List.erase_of_not_mem there] at kept

/-- Both applications rank profiles alike without latencies.  With any latencies the ranking has
every profile once; the primary one and the last successful one come first, and the one that has
failed recently is last. -/
theorem candidate_order (profileIDs : List Id)
    (primaryID lastSuccessfulID recentlyFailedID : Option Id) :
    Android.FailoverPolicy.orderCandidates profileIDs primaryID lastSuccessfulID
        recentlyFailedID =
      IOS.FailoverPolicy.orderCandidates profileIDs primaryID lastSuccessfulID recentlyFailedID
        (fun _ => none) ∧
    ∀ latencies : Id → Option Int,
      (IOS.FailoverPolicy.orderCandidates profileIDs primaryID lastSuccessfulID recentlyFailedID
          latencies).Perm profileIDs.dedup ∧
      (distinct (preferred profileIDs primaryID lastSuccessfulID)).filter
          (fun id => decide (some id ≠ recentlyFailedID)) <+:
        IOS.FailoverPolicy.orderCandidates profileIDs primaryID lastSuccessfulID recentlyFailedID
          latencies ∧
      ∀ id ∈ profileIDs, recentlyFailedID = some id →
        (IOS.FailoverPolicy.orderCandidates profileIDs primaryID lastSuccessfulID recentlyFailedID
          latencies).getLast? = some id := by
  refine ⟨by rw [android_orderCandidates_eq, ios_orderCandidates_eq], fun latencies => ?_⟩
  have nodup : (ranked profileIDs primaryID lastSuccessfulID latencies).Nodup := nodup_distinct _
  rw [ios_orderCandidates_eq]
  refine ⟨?_, prefix_demoteFailed nodup (prefix_distinct _ _), ?_⟩
  · refine (demoteFailed_perm _ _).trans ((List.perm_ext_iff_of_nodup nodup
      (List.nodup_dedup _)).mpr fun id => ?_)
    rw [mem_ranked, List.mem_dedup]
  · rintro id there rfl
    rw [demoteFailed, demote, if_pos (mem_ranked.mpr there), List.getLast?_concat]

example : IOS.FailoverPolicy.orderCandidates [1, 2, 3, 2, 4] (some 3) (some 9) (some 1)
    (fun id => if id = 4 then some 20 else none) = [3, 4, 2, 1] := by
  decide

end ProxyLauncher.Mobile
