import Mathlib

/-!
# The circuit breaker of the upstreams

An upstream that fails three times in a row is left out for half a minute.  The counters and
the retry times are a function of the history of marks: an upstream is a candidate exactly
when no third failure of it, since its last success, is younger than the cooldown.
-/

namespace ProxyLauncher.Transport

/-- `UPSTREAM_FAILURE_LIMIT`. -/
def upstreamFailureLimit : Nat := 3

/-- `UPSTREAM_COOLDOWN_SECONDS`, in nanoseconds of the monotonic clock. -/
def upstreamCooldown : Nat := 30 * 10 ^ 9

/-- `_failures` and `_retry_after`. -/
@[ext]
structure Breaker (count : Nat) where
  failures : Fin count → Nat
  retryAfter : Fin count → Nat

variable {count : Nat}

namespace Breaker

/-- The breaker of a new `ProxyCore`. -/
def initial (count : Nat) : Breaker count where
  failures _ := 0
  retryAfter _ := 0

/-- `_candidates`. -/
def candidates (breaker : Breaker count) (now : Nat) : List (Fin count) :=
  (List.finRange count).filter fun index => breaker.retryAfter index ≤ now

/-- `_mark_upstream_success`. -/
def markUpstreamSuccess (breaker : Breaker count) (index : Fin count) : Breaker count where
  failures := Function.update breaker.failures index 0
  retryAfter := Function.update breaker.retryAfter index 0

/-- `_mark_upstream_failure`. -/
def markUpstreamFailure (breaker : Breaker count) (index : Fin count) (now : Nat) :
    Breaker count :=
  if upstreamFailureLimit ≤ breaker.failures index + 1 then
    { failures := Function.update breaker.failures index 0
      retryAfter := Function.update breaker.retryAfter index (now + upstreamCooldown) }
  else { breaker with
         failures := Function.update breaker.failures index (breaker.failures index + 1) }

@[simp] theorem mem_candidates {breaker : Breaker count} {index : Fin count} {now : Nat} :
    index ∈ breaker.candidates now ↔ breaker.retryAfter index ≤ now := by
  simp [candidates]

end Breaker

/-- One mark, with the time on the monotonic clock. -/
structure Mark (count : Nat) where
  index : Fin count
  success : Bool
  time : Nat

def Breaker.mark (breaker : Breaker count) (mark : Mark count) : Breaker count :=
  if mark.success then breaker.markUpstreamSuccess mark.index
  else breaker.markUpstreamFailure mark.index mark.time

/-- The breaker after a history of marks, the oldest first. -/
def Breaker.after (history : List (Mark count)) : Breaker count :=
  history.foldl Breaker.mark (.initial count)

/-- The failures of an upstream since its last success. -/
def failuresSinceSuccess (index : Fin count) (history : List (Mark count)) : Nat :=
  ((history.filter fun mark => mark.index = index).reverse.takeWhile fun mark =>
    !mark.success).length

/-- The mark is a failure with which a count of failures reaches the limit.  The count starts
again with every success and with every such failure. -/
def LimitReaching (index : Fin count) (earlier : List (Mark count)) (mark : Mark count) : Prop :=
  mark.index = index ∧ mark.success = false ∧
    upstreamFailureLimit ∣ failuresSinceSuccess index (earlier ++ [mark])

/-- Some limit-reaching failure is younger than the cooldown, and no success followed it. -/
def Quarantined (index : Fin count) (history : List (Mark count)) (now : Nat) : Prop :=
  ∃ earlier mark later, history = earlier ++ mark :: later ∧ LimitReaching index earlier mark ∧
    now < mark.time + upstreamCooldown ∧
    ∀ other ∈ later, other.index = index → other.success = false

namespace Breaker

variable {breaker : Breaker count} {index other : Fin count} {mark : Mark count} {now : Nat}

theorem markUpstreamFailure_of_ne (different : other ≠ index) :
    (breaker.markUpstreamFailure index now).failures other = breaker.failures other ∧
      (breaker.markUpstreamFailure index now).retryAfter other = breaker.retryAfter other := by
  rw [markUpstreamFailure]
  split
  · simp [different]
  · simp [different]

theorem markUpstreamFailure_self :
    (breaker.markUpstreamFailure index now).failures index =
        (if upstreamFailureLimit ≤ breaker.failures index + 1 then 0
        else breaker.failures index + 1) ∧
      (breaker.markUpstreamFailure index now).retryAfter index =
        (if upstreamFailureLimit ≤ breaker.failures index + 1 then now + upstreamCooldown
        else breaker.retryAfter index) := by
  rw [markUpstreamFailure]
  split
  · simp
  · simp

/-- A mark of one upstream changes no other. -/
theorem mark_of_ne (different : mark.index ≠ index) :
    (breaker.mark mark).failures index = breaker.failures index ∧
      (breaker.mark mark).retryAfter index = breaker.retryAfter index := by
  rw [Breaker.mark]
  split
  · simp [markUpstreamSuccess, different.symm]
  · exact markUpstreamFailure_of_ne different.symm

@[simp] theorem after_nil : after ([] : List (Mark count)) = initial count := rfl

@[simp] theorem after_append (history : List (Mark count)) (mark : Mark count) :
    after (history ++ [mark]) = (after history).mark mark := by
  simp [after]

end Breaker

section History

variable {index : Fin count} {history : List (Mark count)} {mark : Mark count} {now : Nat}

theorem failuresSinceSuccess_append : failuresSinceSuccess index (history ++ [mark]) =
    if mark.index = index then
      if mark.success then 0 else failuresSinceSuccess index history + 1
    else failuresSinceSuccess index history := by
  simp only [failuresSinceSuccess, List.filter_append, List.reverse_append]
  by_cases same : mark.index = index
  · cases success : mark.success with
    | true => simp [same, success]
    | false => simp [same, success]
  · simp [same]

/-- A quarantine goes back to the last mark or was there before it. -/
theorem quarantined_append : Quarantined index (history ++ [mark]) now ↔
    (LimitReaching index history mark ∧ now < mark.time + upstreamCooldown) ∨
      (Quarantined index history now ∧ (mark.index = index → mark.success = false)) := by
  constructor
  · rintro ⟨earlier, reached, later, split, limit, recent, failed⟩
    rcases later.eq_nil_or_concat with rfl | ⟨later, last, rfl⟩
    · obtain ⟨rfl, same⟩ := List.append_inj' split rfl
      obtain rfl := List.head_eq_of_cons_eq same
      exact .inl ⟨limit, recent⟩
    · rw [List.concat_eq_append, ← List.cons_append, ← List.append_assoc] at split
      obtain ⟨rfl, same⟩ := List.append_inj' split rfl
      obtain rfl := List.head_eq_of_cons_eq same
      refine .inr ⟨⟨earlier, reached, later, rfl, limit, recent, ?_⟩, failed mark (by simp)⟩
      exact fun other member => failed other (by simp [member])
  · rintro (⟨limit, recent⟩ | ⟨⟨earlier, reached, later, rfl, limit, recent, failed⟩, failure⟩)
    · exact ⟨history, mark, [], rfl, limit, recent, by simp⟩
    · refine ⟨earlier, reached, later ++ [mark], by simp, limit, recent, ?_⟩
      intro other member same
      rcases List.mem_append.mp member with early | last
      · exact failed other early same
      · obtain rfl := List.mem_singleton.mp last
        exact failure same

theorem not_quarantined_nil : ¬ Quarantined index [] now := by
  rintro ⟨earlier, reached, later, split, -⟩
  exact absurd split (by simp)

/-- The counter is the number of failures since the last success, modulo the limit. -/
theorem failures_after (index : Fin count) (history : List (Mark count)) :
    (Breaker.after history).failures index =
      failuresSinceSuccess index history % upstreamFailureLimit := by
  induction history using List.reverseRecOn with
  | nil => rfl
  | append_singleton history mark ih =>
      rw [Breaker.after_append, failuresSinceSuccess_append]
      by_cases same : mark.index = index
      · subst same
        rw [if_pos rfl, Breaker.mark]
        cases mark.success with
        | true => simp [Breaker.markUpstreamSuccess]
        | false =>
            simp only [Bool.false_eq_true, if_false]
            rw [Breaker.markUpstreamFailure_self.1, ih, upstreamFailureLimit]
            split <;> omega
      · rw [if_neg same, (Breaker.mark_of_ne same).1, ih]

theorem limitReaching_iff (failure : mark.success = false) (same : mark.index = index) :
    LimitReaching index history mark ↔
      upstreamFailureLimit ≤ (Breaker.after history).failures index + 1 := by
  rw [LimitReaching, failuresSinceSuccess_append, if_pos same, failure, failures_after,
    upstreamFailureLimit]
  simp only [same, Bool.false_eq_true, if_false, true_and]
  omega

/-- An upstream is a candidate unless it is quarantined. -/
theorem retryAfter_after (ordered : history.Pairwise fun mark mark' => mark.time ≤ mark'.time) :
    (Breaker.after history).retryAfter index ≤ now ↔ ¬ Quarantined index history now := by
  induction history using List.reverseRecOn with
  | nil => exact iff_of_true (Nat.zero_le _) not_quarantined_nil
  | append_singleton history mark ih =>
      rw [List.pairwise_append] at ordered
      have ih := ih ordered.1
      rw [Breaker.after_append, quarantined_append]
      by_cases same : mark.index = index
      · subst same
        rw [Breaker.mark]
        cases success : mark.success with
        | true => simp [Breaker.markUpstreamSuccess, LimitReaching, success]
        | false =>
            rw [limitReaching_iff success rfl]
            simp only [Bool.false_eq_true, if_false, implies_true, and_true]
            rw [Breaker.markUpstreamFailure_self.2]
            split
            · -- An earlier quarantine ends no later than the one that starts here.
              have earlier (still : Quarantined mark.index history now) :
                  now < mark.time + upstreamCooldown := by
                obtain ⟨front, reached, later, rfl, -, recent, -⟩ := still
                have before := ordered.2.2 reached (by simp) mark (by simp)
                omega
              rename_i limit
              simp only [limit, true_and]
              constructor
              · rintro elapsed (recent | still)
                · omega
                · exact absurd (earlier still) (by omega)
              · intro neither
                exact Nat.le_of_not_lt fun recent => neither (.inl recent)
            · rename_i below
              simpa [below] using ih
      · simp only [(Breaker.mark_of_ne same).2, LimitReaching, same, false_and, false_or,
          false_implies, and_true]
        exact ih

/-- The breaker is a function of its history. -/
theorem breaker_refines_history (history : List (Mark count))
    (ordered : history.Pairwise fun mark mark' => mark.time ≤ mark'.time) (index : Fin count)
    (now : Nat) :
    (Breaker.after history).failures index < upstreamFailureLimit ∧
      (index ∈ (Breaker.after history).candidates now ↔ ¬ Quarantined index history now) ∧
      ∀ (breaker : Breaker count) (mark : Mark count), mark.index ≠ index →
        (breaker.mark mark).failures index = breaker.failures index ∧
          (breaker.mark mark).retryAfter index = breaker.retryAfter index := by
  refine ⟨?_, ?_, fun breaker mark different => Breaker.mark_of_ne different⟩
  · rw [failures_after]
    exact Nat.mod_lt _ (by decide)
  · rw [Breaker.mem_candidates]
    exact retryAfter_after ordered

/-- Three failures in a row of the first of two upstreams. -/
def sampleHistory : List (Mark 2) :=
  [⟨0, false, 1⟩, ⟨1, false, 2⟩, ⟨0, false, 3⟩, ⟨0, false, 4⟩]

theorem breaker_refines_history_sample :
    (0 ∉ (Breaker.after sampleHistory).candidates 5) ∧ Quarantined 0 sampleHistory 5 := by
  have refines := breaker_refines_history sampleHistory (by decide) 0 5
  have left : 0 ∉ (Breaker.after sampleHistory).candidates 5 := by decide
  exact ⟨left, by_contra fun free => left (refines.2.1.mpr free)⟩

end History

end ProxyLauncher.Transport
