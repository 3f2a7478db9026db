import ProxyLauncher.Timing.Limited

/-!
# Connections that pile up

The packet tunnel samples its sockets and starts its engine again when there are too many.  The
policy keeps a count and a time; what it decides is a matter of the samples so far.
-/

namespace ProxyLauncher.IOS

structure ConnectionPressurePolicy where
  consecutivePressureSamples : ℤ := 0
  lastRecoveryAt : Option ℚ := none
  softSocketLimit : ℤ := 90
  softCloseWaitLimit : ℤ := 25
  hardSocketLimit : ℤ := 150
  hardCloseWaitLimit : ℤ := 55
  requiredConsecutiveSamples : ℤ := 2
  minimumRecoveryInterval : ℚ := 120

namespace ConnectionPressurePolicy

structure Sample where
  upstreamSockets : ℤ
  closeWaitSockets : ℤ

variable (policy : ConnectionPressurePolicy)

/-- There are many sockets. -/
def soft (sample : Sample) : Bool :=
  decide (policy.softSocketLimit ≤ sample.upstreamSockets) ||
    decide (policy.softCloseWaitLimit ≤ sample.closeWaitSockets)

/-- There are so many sockets that the policy does not wait for another sample. -/
def hard (sample : Sample) : Bool :=
  decide (policy.hardSocketLimit ≤ sample.upstreamSockets) ||
    decide (policy.hardCloseWaitLimit ≤ sample.closeWaitSockets)

/-- The two times are within the interval, in either order. -/
def Near (interval : ℚ) (last now : ℚ) : Prop :=
  -interval ≤ now - last ∧ now - last < interval

instance (interval : ℚ) : DecidableRel (Near interval) :=
  fun _ _ => inferInstanceAs (Decidable (_ ∧ _))

/-- The policy that has counted the sample. -/
def counting (sample : Sample) : ConnectionPressurePolicy :=
  { policy with
    consecutivePressureSamples :=
      if policy.soft sample = true then policy.consecutivePressureSamples + 1 else 0 }

def shouldRecover (sample : Sample) (now : ℚ) (tunnelIsSwitching : Bool) :
    ConnectionPressurePolicy × Bool :=
  if tunnelIsSwitching = true then ({ policy with consecutivePressureSamples := 0 }, false)
  else
    let policy := policy.counting sample
    if policy.hard sample = true ∨
        policy.requiredConsecutiveSamples ≤ policy.consecutivePressureSamples then
      if (policy.lastRecoveryAt.any fun last =>
          decide (Near policy.minimumRecoveryInterval last now)) = true then (policy, false)
      else ({ policy with lastRecoveryAt := some now, consecutivePressureSamples := 0 }, true)
    else (policy, false)

/-- What one call is given. -/
structure Reading where
  sample : Sample
  now : ℚ
  tunnelIsSwitching : Bool

/-- A call and what it answered. -/
structure Answered where
  reading : Reading
  recovered : Bool

/-- The policy after the calls, and the calls with their answers. -/
def run : List Reading → ConnectionPressurePolicy × List Answered
  | readings => readings.foldl (fun state reading =>
      let answer := state.1.shouldRecover reading.sample reading.now reading.tunnelIsSwitching
      (answer.1, state.2 ++ [⟨reading, answer.2⟩])) (policy, [])

/-- A call that counts towards the required number. -/
def Answered.presses (answered : Answered) : Bool :=
  policy.soft answered.reading.sample && !answered.reading.tunnelIsSwitching &&
    !answered.recovered

/-- The times of the recoveries. -/
def recoveries (history : List Answered) : List ℚ :=
  (history.filter Answered.recovered).map fun answered => answered.reading.now

/-- The number of the last calls, without a break, that count. -/
def pressure (history : List Answered) : ℕ :=
  (history.rtakeWhile (Answered.presses policy)).length

/-- The decision that the calls so far call for: the tunnel is not switching, the sample is over
the hard limit or the last of enough that are over the soft limit since the last recovery, and
the last recovery is not near. -/
def Due (history : List Answered) (reading : Reading) : Prop :=
  reading.tunnelIsSwitching = false ∧
    (policy.hard reading.sample = true ∨ policy.requiredConsecutiveSamples ≤
      if policy.soft reading.sample = true then (policy.pressure history : ℤ) + 1 else 0) ∧
    ∀ last, (recoveries history).getLast? = some last →
      ¬ Near policy.minimumRecoveryInterval last reading.now

variable {policy : ConnectionPressurePolicy} {readings : List Reading} {reading : Reading}
  {history : List Answered} {answered : Answered}

theorem run_append : policy.run (readings ++ [reading]) =
    (((policy.run readings).1.shouldRecover reading.sample reading.now
        reading.tunnelIsSwitching).1,
      (policy.run readings).2 ++ [⟨reading, ((policy.run readings).1.shouldRecover reading.sample
        reading.now reading.tunnelIsSwitching).2⟩]) := by
  rw [run, List.foldl_append]
  rfl

theorem pressure_append : policy.pressure (history ++ [answered]) =
    if answered.presses policy = true then policy.pressure history + 1 else 0 := by
  rw [pressure, List.rtakeWhile_concat]
  split_ifs
  · rw [List.length_append, List.length_singleton, pressure]
  · rfl

theorem recoveries_append : recoveries (history ++ [answered]) =
    recoveries history ++ if answered.recovered = true then [answered.reading.now] else [] := by
  rw [recoveries, recoveries, List.filter_append, List.map_append, List.filter_singleton]
  cases answered.recovered <;> rfl

/-- The policy that remembers these calls. -/
def remembering (policy : ConnectionPressurePolicy) (history : List Answered) :
    ConnectionPressurePolicy :=
  { policy with
    consecutivePressureSamples := policy.pressure history
    lastRecoveryAt := (recoveries history).getLast? }

/-- The answer of a policy that remembers the calls. -/
theorem shouldRecover_remembering (history : List Answered) (reading : Reading) :
    ((policy.remembering history).shouldRecover reading.sample reading.now
        reading.tunnelIsSwitching).2 = true ↔ policy.Due history reading := by
  have near : ((recoveries history).getLast?.any fun last =>
      decide (Near policy.minimumRecoveryInterval last reading.now)) = false ↔
      ∀ last, (recoveries history).getLast? = some last →
        ¬ Near policy.minimumRecoveryInterval last reading.now := by
    rw [Option.any_eq_false]
    simp
  rw [Due, ← near]
  unfold shouldRecover
  cases reading.tunnelIsSwitching with
  | true => simp
  | false =>
      rw [if_neg Bool.false_ne_true, eq_self_iff_true, true_and]
      dsimp only
      split
      · rename_i enough
        split
        · rename_i close
          exact iff_of_false Bool.false_ne_true fun due =>
            absurd (close.symm.trans due.2) (by decide)
        · rename_i far
          exact iff_of_true rfl ⟨enough, (Bool.not_eq_true _).mp far⟩
      · rename_i few
        exact iff_of_false Bool.false_ne_true fun due => few due.1

/-- A policy that remembers the calls remembers one more. -/
theorem remembering_append (answer : Bool) : policy.remembering (history ++ [⟨reading, answer⟩]) =
    { policy with
      consecutivePressureSamples :=
        if policy.soft reading.sample = true ∧ reading.tunnelIsSwitching = false ∧ answer = false
          then (policy.pressure history : ℤ) + 1 else 0
      lastRecoveryAt :=
        if answer = true then some reading.now else (recoveries history).getLast? } := by
  have presses : Answered.presses policy ⟨reading, answer⟩ = true ↔
      policy.soft reading.sample = true ∧ reading.tunnelIsSwitching = false ∧ answer = false := by
    simp only [Answered.presses, Bool.and_eq_true, Bool.not_eq_true', and_assoc]
  rw [remembering, pressure_append, recoveries_append]
  simp only [presses]
  cases answer with
  | true => simp
  | false =>
      simp only [Bool.false_eq_true, if_false, List.append_nil, and_true]
      split_ifs <;> rfl

theorem shouldRecover_fst {answer : Bool} (answered : ((policy.remembering history).shouldRecover
      reading.sample reading.now reading.tunnelIsSwitching).2 = answer) :
    ((policy.remembering history).shouldRecover reading.sample reading.now
        reading.tunnelIsSwitching).1 = policy.remembering (history ++ [⟨reading, answer⟩]) := by
  rw [remembering_append]
  unfold shouldRecover at answered ⊢
  cases switching : reading.tunnelIsSwitching with
  | true =>
      rw [switching, if_pos rfl] at answered
      subst answered
      simp [remembering]
  | false =>
      have counted : (policy.remembering history).counting reading.sample =
          { policy with
            consecutivePressureSamples :=
              if policy.soft reading.sample = true then (policy.pressure history : ℤ) + 1 else 0
            lastRecoveryAt := (recoveries history).getLast? } := rfl
      rw [switching, if_neg Bool.false_ne_true] at answered
      rw [if_neg Bool.false_ne_true]
      dsimp only at answered ⊢
      split at answered
      · rename_i enough
        rw [if_pos enough]
        split at answered
        · rename_i close
          rw [if_pos close, counted]
          subst answered
          simp
        · rename_i close
          rw [if_neg close, counted]
          subst answered
          simp
      · rename_i enough
        rw [if_neg enough, counted]
        subst answered
        simp

/-- The policy after the calls remembers them. -/
theorem run_eq (counted : policy.consecutivePressureSamples = 0)
    (unused : policy.lastRecoveryAt = none) :
    (policy.run readings).1 = policy.remembering (policy.run readings).2 := by
  induction readings using List.reverseRecOn with
  | nil =>
      rw [run, List.foldl_nil, remembering]
      cases policy
      subst counted unused
      rfl
  | append_singleton readings reading ih =>
      rw [run_append, ih]
      exact shouldRecover_fst rfl

theorem map_reading_run : (policy.run readings).2.map Answered.reading = readings := by
  induction readings using List.reverseRecOn with
  | nil => rfl
  | append_singleton readings reading ih => rw [run_append, List.map_append, ih]; rfl

/-- The recoveries are at times of calls, in their order. -/
theorem recoveries_sublist :
    (recoveries (policy.run readings).2).Sublist (readings.map Reading.now) := by
  have sublist := (@List.filter_sublist _ Answered.recovered (policy.run readings).2).map fun answered => answered.reading.now
  have times : (policy.run readings).2.map (fun answered => answered.reading.now) =
      readings.map Reading.now := by
    conv_rhs => rw [← @map_reading_run policy readings]
    rw [List.map_map]
    rfl
  rwa [times] at sublist

theorem getLast?_eq_of_ordered {times : List ℚ} (ordered : times.Pairwise (· ≤ ·)) {time : ℚ}
    (there : time ∈ times) : ∃ last, times.getLast? = some last ∧ time ≤ last := by
  rcases List.eq_nil_or_concat times with rfl | ⟨front, last, rfl⟩
  · cases there
  · rw [List.concat_eq_append] at ordered there ⊢
    refine ⟨last, List.getLast?_append_of_ne_nil _ (List.cons_ne_nil _ _), ?_⟩
    rcases List.mem_append.mp there with there | same
    · exact (List.pairwise_append.mp ordered).2.2 time there last (List.mem_singleton_self _)
    · exact (List.mem_singleton.mp same).le

/-- On a clock that does not go back, no recovery is near an earlier one. -/
theorem limited_recoveries (counted : policy.consecutivePressureSamples = 0)
    (unused : policy.lastRecoveryAt = none)
    (ordered : (readings.map Reading.now).Pairwise (· ≤ ·)) :
    Timing.Limited (Near policy.minimumRecoveryInterval) 1
      (recoveries (policy.run readings).2) := by
  induction readings using List.reverseRecOn with
  | nil => exact .nil
  | append_singleton readings reading ih =>
      rw [List.map_append, List.pairwise_append] at ordered
      have limited := ih ordered.1
      rw [run_append, recoveries_append, run_eq counted unused]
      generalize found : (policy.run readings).2 = history at limited
      split_ifs with recovered
      · apply Timing.Limited.append limited
        rw [Nat.lt_one_iff, List.length_eq_zero_iff, List.filter_eq_nil_iff]
        intro time there near
        have due := (shouldRecover_remembering history reading).mp recovered
        have sublist := @recoveries_sublist policy readings
        rw [found] at sublist
        obtain ⟨last, final, before⟩ :=
          getLast?_eq_of_ordered (ordered.1.sublist sublist) there
        have after : last ≤ reading.now :=
          ordered.2.2 last (sublist.subset (List.mem_of_getLast? final)) _
            (List.mem_singleton_self _)
        have within := of_decide_eq_true near
        -- The last recovery is not earlier than this one.
        apply due.2.2 last final
        constructor
        · linarith [within.1, within.2]
        · linarith [within.1, within.2]
      · rw [List.append_nil]
        exact limited

/-- The tunnel recovers exactly when the calls so far call for it, and on a clock that does not
go back every window of the minimal interval has one recovery at most. -/
theorem recovery_policy (counted : policy.consecutivePressureSamples = 0)
    (unused : policy.lastRecoveryAt = none) :
    (∀ readings reading, ((policy.run readings).1.shouldRecover reading.sample reading.now
        reading.tunnelIsSwitching).2 = true ↔ policy.Due (policy.run readings).2 reading) ∧
    ∀ readings, (readings.map Reading.now).Pairwise (· ≤ ·) → ∀ start,
      ((recoveries (policy.run readings).2).filter fun time =>
        decide (start ≤ time ∧ time < start + policy.minimumRecoveryInterval)).length ≤ 1 := by
  constructor
  · intro readings reading
    rw [run_eq counted unused]
    exact shouldRecover_remembering _ reading
  · intro readings ordered start
    apply (limited_recoveries counted unused ordered).length_filter_le
    intro time now there there'
    have first := of_decide_eq_true there
    have second := of_decide_eq_true there'
    constructor
    · linarith [first.1, first.2, second.1, second.2]
    · linarith [first.1, first.2, second.1, second.2]

/-- A burst over the soft limit recovers with the second sample and not again with the third. -/
theorem recovery_policy_sample :
    let policy : ConnectionPressurePolicy := {}
    let burst (now : ℚ) : Reading := ⟨⟨105, 40⟩, now, false⟩
    (policy.Due (policy.run [burst 0]).2 (burst 10) ∧
      ¬ policy.Due (policy.run [burst 0, burst 10]).2 (burst 20)) ∧
    ((recoveries (policy.run [burst 0, burst 10, burst 20, burst 151]).2).filter fun time =>
      decide (10 ≤ time ∧ time < 10 + policy.minimumRecoveryInterval)).length ≤ 1 := by
  intro policy burst
  have decided := @recovery_policy policy rfl rfl
  refine ⟨⟨?_, ?_⟩, decided.2 _ ?_ 10⟩
  · exact (decided.1 [burst 0] (burst 10)).mp (by decide)
  · intro due
    exact absurd ((decided.1 [burst 0, burst 10] (burst 20)).mpr due) (by decide)
  · decide

end ConnectionPressurePolicy

end ProxyLauncher.IOS
