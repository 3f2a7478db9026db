import Mathlib

/-!
# How often something happens

A limiter accepts a time when fewer than a number of the times that it has accepted before are
near.  A window whose times are near each other then has at most that number of accepted times.
-/

namespace ProxyLauncher.Timing

variable {Time : Type} {near : Time → Time → Prop} [DecidableRel near] {number : ℕ}
  {times : List Time}

/-- Each time was accepted when fewer than `number` of the earlier ones were near. -/
inductive Limited (near : Time → Time → Prop) [DecidableRel near] (number : ℕ) :
    List Time → Prop where
  | nil : Limited near number []
  | append {times : List Time} {now : Time} (limited : Limited near number times)
      (room : (times.filter fun time => decide (near time now)).length < number) :
      Limited near number (times ++ [now])

/-- At most `number` accepted times are in one window. -/
theorem Limited.length_filter_le (limited : Limited near number times) {inside : Time → Bool}
    (close : ∀ time now, inside time = true → inside now = true → near time now) :
    (times.filter inside).length ≤ number := by
  induction limited with
  | nil => exact Nat.zero_le number
  | @append times now limited room ih =>
      rw [List.filter_append, List.length_append]
      by_cases last : inside now = true
      · have subset : (times.filter inside).length ≤
            (times.filter fun time => decide (near time now)).length := by
          rw [← List.countP_eq_length_filter, ← List.countP_eq_length_filter]
          apply List.countP_mono_left
          intro time _ there
          exact decide_eq_true (close time now there last)
        rw [List.filter_singleton, last, cond_true, List.length_singleton]
        exact Nat.succ_le_of_lt (subset.trans_lt room)
      · rw [Bool.not_eq_true] at last
        rw [List.filter_singleton, last, cond_false, List.length_nil]
        exact ih

/-- Times that a limiter has forgotten earlier are not near now. -/
theorem filter_filter_near {earlier now : Time}
    (later : ∀ time ∈ times, near time now → near time earlier) :
    ((times.filter fun time => decide (near time earlier)).filter fun time =>
      decide (near time now)) = times.filter fun time => decide (near time now) := by
  rw [List.filter_filter]
  apply List.filter_congr
  intro time there
  rw [← Bool.decide_and, decide_eq_decide]
  exact ⟨fun both => both.1, fun close => ⟨close, later time there close⟩⟩

end ProxyLauncher.Timing
