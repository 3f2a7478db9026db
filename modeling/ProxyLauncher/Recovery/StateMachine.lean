import ProxyLauncher.Python.Runtime

/-!
# The states of a recovery

A machine follows one change of the network from the state without it to the state without it.
It goes on only when its caller reports that a step is done, and a report at the wrong time raises.
-/

namespace ProxyLauncher.Recovery

inductive RecoveryState where
  | off
  | saveOriginal
  | apply
  | verify
  | active
  | restore
deriving DecidableEq

inductive VerificationTarget where
  | active
  | off
deriving DecidableEq

def RecoveryState.value : RecoveryState → String
  | .off => "OFF"
  | .saveOriginal => "SAVE_ORIGINAL"
  | .apply => "APPLY"
  | .verify => "VERIFY"
  | .active => "ACTIVE"
  | .restore => "RESTORE"

def VerificationTarget.value : VerificationTarget → String
  | .active => "ACTIVE"
  | .off => "OFF"

structure RecoveryTransition where
  previous : RecoveryState
  current : RecoveryState
  verificationTarget : Option VerificationTarget
deriving DecidableEq

structure RecoveryStateMachine where
  state : RecoveryState := .off
  verificationTarget : Option VerificationTarget := none
  history : List RecoveryTransition := []
deriving DecidableEq

namespace RecoveryStateMachine

variable (machine : RecoveryStateMachine)

def isActive : Bool := machine.state = .active

def isSafeOff : Bool := machine.state = .off

def recoveryRequired : Bool :=
  machine.state ∈ [RecoveryState.apply, .verify, .active, .restore]

/-- `_move`. -/
def move (target : RecoveryState) (verificationTarget : Option VerificationTarget) :
    RecoveryStateMachine where
  state := target
  verificationTarget := verificationTarget
  history := machine.history ++ [⟨machine.state, target, verificationTarget⟩]

/-- `_require`; the error has the message of the exception. -/
def require (expected : RecoveryState) (message : String) : Except String Unit :=
  if machine.state = expected then .ok ()
  else .error (message ++ " (current=" ++ machine.state.value ++ ", expected=" ++ expected.value ++
    ")")

/-- `_require_verification_target`. -/
def requireVerificationTarget (target : VerificationTarget) : Except String Unit :=
  if machine.state = .verify then
    if machine.verificationTarget = some target then .ok ()
    else .error ("verification target mismatch (current=" ++
      (machine.verificationTarget.elim "NONE" VerificationTarget.value) ++ ", expected=" ++
      target.value ++ ")")
  else .error ("verification result requires VERIFY (current=" ++ machine.state.value ++ ")")

/-- A method that checks the state and moves. -/
def moving (check : Except String Unit) (target : RecoveryState)
    (verificationTarget : Option VerificationTarget) : Except String RecoveryStateMachine :=
  check.map fun _ => machine.move target verificationTarget

def beginActivation : Except String RecoveryStateMachine :=
  machine.moving (machine.require .off "activation can begin only from OFF") .saveOriginal none

def originalSaved : Except String RecoveryStateMachine :=
  machine.moving (machine.require .saveOriginal "original settings must be saved before APPLY")
    .apply none

def abortBeforeApply : Except String RecoveryStateMachine :=
  machine.moving (machine.require .saveOriginal
    "pre-apply abort is valid only while saving original state") .off none

def applyCompleted : Except String RecoveryStateMachine :=
  machine.moving (machine.require .apply "APPLY must precede active verification") .verify
    (some .active)

def applyFailed : Except String RecoveryStateMachine :=
  machine.moving (machine.require .apply "apply failure is valid only in APPLY") .restore none

def activeVerified : Except String RecoveryStateMachine :=
  machine.moving (machine.requireVerificationTarget .active) .active none

def activeVerificationFailed : Except String RecoveryStateMachine :=
  machine.moving (machine.requireVerificationTarget .active) .restore none

def beginRestore : Except String RecoveryStateMachine :=
  machine.moving (machine.require .active "normal restore can begin only from ACTIVE") .restore none

def restoreCompleted : Except String RecoveryStateMachine :=
  machine.moving (machine.require .restore "RESTORE must precede off verification") .verify
    (some .off)

def offVerified : Except String RecoveryStateMachine :=
  machine.moving (machine.requireVerificationTarget .off) .off none

def offVerificationFailed : Except String RecoveryStateMachine :=
  machine.moving (machine.requireVerificationTarget .off) .restore none

inductive Call where
  | beginActivation
  | originalSaved
  | abortBeforeApply
  | applyCompleted
  | applyFailed
  | activeVerified
  | activeVerificationFailed
  | beginRestore
  | restoreCompleted
  | offVerified
  | offVerificationFailed
deriving DecidableEq

def perform : Call → Except String RecoveryStateMachine
  | .beginActivation => machine.beginActivation
  | .originalSaved => machine.originalSaved
  | .abortBeforeApply => machine.abortBeforeApply
  | .applyCompleted => machine.applyCompleted
  | .applyFailed => machine.applyFailed
  | .activeVerified => machine.activeVerified
  | .activeVerificationFailed => machine.activeVerificationFailed
  | .beginRestore => machine.beginRestore
  | .restoreCompleted => machine.restoreCompleted
  | .offVerified => machine.offVerified
  | .offVerificationFailed => machine.offVerificationFailed

/-- The machine after the calls, of which some may raise, and the calls that did not. -/
def attempt (calls : List Call) : RecoveryStateMachine × List Call :=
  calls.foldl (fun state call =>
    match state.1.perform call with
    | .ok machine => (machine, state.2 ++ [call])
    | .error _ => state) (machine, [])

/-- The end of a cycle: what has been applied is restored until it is verified to be off. -/
inductive Restored : List Call → Prop where
  | verified : Restored [.restoreCompleted, .offVerified]
  | again {rest : List Call} (restored : Restored rest) :
      Restored (.restoreCompleted :: .offVerificationFailed :: rest)

/-- One change of the network from its beginning to its end. -/
inductive Cycle : List Call → Prop where
  | aborted : Cycle [.beginActivation, .abortBeforeApply]
  | notApplied {rest : List Call} (restored : Restored rest) :
      Cycle (.beginActivation :: .originalSaved :: .applyFailed :: rest)
  | notVerified {rest : List Call} (restored : Restored rest) :
      Cycle (.beginActivation :: .originalSaved :: .applyCompleted :: .activeVerificationFailed ::
        rest)
  | activated {rest : List Call} (restored : Restored rest) :
      Cycle (.beginActivation :: .originalSaved :: .applyCompleted :: .activeVerified ::
        .beginRestore :: rest)

/-- One change after another. -/
inductive Cycles : List Call → Prop where
  | nil : Cycles []
  | append {first rest : List Call} (cycle : Cycle first) (cycles : Cycles rest) :
      Cycles (first ++ rest)

/-- A state with what is verified in it. -/
inductive Phase where
  | off
  | saving
  | applying
  | verifyingActive
  | active
  | restoring
  | verifyingOff
deriving DecidableEq

namespace Phase

def state : Phase → RecoveryState
  | .off => .off
  | .saving => .saveOriginal
  | .applying => .apply
  | .verifyingActive | .verifyingOff => .verify
  | .active => .active
  | .restoring => .restore

def target : Phase → Option VerificationTarget
  | .verifyingActive => some .active
  | .verifyingOff => some .off
  | .off | .saving | .applying | .active | .restoring => none

def next : Phase → Call → Option Phase
  | .off, .beginActivation => some .saving
  | .saving, .originalSaved => some .applying
  | .saving, .abortBeforeApply => some .off
  | .applying, .applyCompleted => some .verifyingActive
  | .applying, .applyFailed => some .restoring
  | .verifyingActive, .activeVerified => some .active
  | .verifyingActive, .activeVerificationFailed => some .restoring
  | .active, .beginRestore => some .restoring
  | .restoring, .restoreCompleted => some .verifyingOff
  | .verifyingOff, .offVerified => some .off
  | .verifyingOff, .offVerificationFailed => some .restoring
  | _, _ => none

/-- Something has been applied and is not yet known to be off. -/
def applied : Phase → Bool
  | .off | .saving => false
  | .applying | .verifyingActive | .active | .restoring | .verifyingOff => true

end Phase

variable {machine machine' : RecoveryStateMachine} {phase phase' : Phase} {call : Call}
  {calls first rest : List Call}

/-- The machine is in the phase. -/
def In (machine : RecoveryStateMachine) (phase : Phase) : Prop :=
  machine.state = phase.state ∧ machine.verificationTarget = phase.target

theorem require_eq {expected : RecoveryState} {message : String} :
    (machine.require expected message).toOption =
      if machine.state = expected then some () else none := by
  unfold require
  split_ifs <;> rfl

theorem requireVerificationTarget_eq {target : VerificationTarget} :
    (machine.requireVerificationTarget target).toOption =
      if machine.state = .verify ∧ machine.verificationTarget = some target then some ()
      else none := by
  unfold requireVerificationTarget
  split_ifs <;> simp_all [Except.toOption]

theorem moving_eq {check : Except String Unit} {target : RecoveryState}
    {verificationTarget : Option VerificationTarget} :
    (machine.moving check target verificationTarget).toOption =
      check.toOption.map fun _ => machine.move target verificationTarget := by
  unfold moving
  cases check <;> rfl

/-- A call moves the machine as it moves the phase. -/
theorem perform_eq (inside : machine.In phase) : (machine.perform call).toOption =
    (phase.next call).map fun phase' => machine.move phase'.state phase'.target := by
  obtain ⟨state, target⟩ := inside
  cases call <;>
    simp only [perform, beginActivation, originalSaved, abortBeforeApply, applyCompleted,
      applyFailed, activeVerified, activeVerificationFailed, beginRestore, restoreCompleted,
      offVerified, offVerificationFailed, moving_eq, require_eq, requireVerificationTarget_eq,
      state, target] <;>
    cases phase <;> rfl

theorem follow_restored (restored : Restored rest) :
    rest.foldlM Phase.next .restoring = some .off := by
  induction restored with
  | verified => rfl
  | again _ ih => exact ih

theorem follow_cycle (cycle : Cycle first) : first.foldlM Phase.next .off = some .off := by
  cases cycle with
  | aborted => rfl
  | notApplied restored | notVerified restored | activated restored =>
      exact follow_restored restored

theorem follow_cycles (cycles : Cycles calls) : calls.foldlM Phase.next .off = some .off := by
  induction cycles with
  | nil => rfl
  | append cycle _ ih =>
      rw [List.foldlM_append, follow_cycle cycle]
      exact ih

/-- The first call of a sequence that leads on from a phase. -/
theorem exists_next (different : phase ≠ phase')
    (led : calls.foldlM Phase.next phase = some phase') :
    ∃ call rest middle, calls = call :: rest ∧ phase.next call = some middle ∧
      rest.foldlM Phase.next middle = some phase' := by
  cases calls with
  | nil => exact absurd (Option.some.inj led) different
  | cons call rest =>
      rw [List.foldlM_cons] at led
      obtain ⟨middle, moved, led⟩ := Option.bind_eq_some_iff.mp led
      exact ⟨call, rest, middle, rfl, moved, led⟩

/-- Calls from one phase to another are cut where the machine is off for the first time. -/
def Ends (calls : List Call) : Prop :=
  ∃ first rest, calls = first ++ rest ∧ Restored first ∧ Cycles rest

theorem cycles_of_follow (number : ℕ) : ∀ calls : List Call, calls.length ≤ number →
    (calls.foldlM Phase.next .off = some .off → Cycles calls) ∧
      (calls.foldlM Phase.next .restoring = some .off → Ends calls) := by
  induction number with
  | zero =>
      intro calls short
      obtain rfl := List.length_eq_zero_iff.mp (Nat.le_zero.mp short)
      exact ⟨fun _ => .nil, fun led => by cases led⟩
  | succ number ih =>
      intro calls short
      have ends {rest : List Call} (shorter : rest.length < calls.length)
          (led : rest.foldlM Phase.next .restoring = some .off) : Ends rest :=
        (ih rest (by omega)).2 led
      constructor
      · intro led
        cases calls with
        | nil => exact .nil
        | cons call calls =>
            rw [List.foldlM_cons] at led
            obtain ⟨middle, moved, led⟩ := Option.bind_eq_some_iff.mp led
            cases call <;> cases moved
            obtain ⟨call, calls, middle, rfl, moved, led⟩ := exists_next (by decide) led
            cases call <;> cases moved
            · obtain ⟨call, calls, middle, rfl, moved, led⟩ := exists_next (by decide) led
              cases call <;> cases moved
              · obtain ⟨call, calls, middle, rfl, moved, led⟩ := exists_next (by decide) led
                cases call <;> cases moved
                · obtain ⟨call, calls, middle, rfl, moved, led⟩ := exists_next (by decide) led
                  cases call <;> cases moved
                  obtain ⟨first, rest, rfl, restored, cycles⟩ := ends (by simp; omega) led
                  exact .append (.activated restored) cycles
                · obtain ⟨first, rest, rfl, restored, cycles⟩ := ends (by simp; omega) led
                  exact .append (.notVerified restored) cycles
              · obtain ⟨first, rest, rfl, restored, cycles⟩ := ends (by simp; omega) led
                exact .append (.notApplied restored) cycles
            · exact .append .aborted ((ih calls (by simp at short; omega)).1 led)
      · intro led
        obtain ⟨call, calls, middle, rfl, moved, led⟩ := exists_next (by decide) led
        cases call <;> cases moved
        obtain ⟨call, calls, middle, rfl, moved, led⟩ := exists_next (by decide) led
        cases call <;> cases moved
        · exact ⟨[.restoreCompleted, .offVerified], calls, rfl, .verified,
            (ih calls (by simp at short; omega)).1 led⟩
        · obtain ⟨first, rest, rfl, restored, cycles⟩ := ends (by simp) led
          exact ⟨_, rest, rfl, .again restored, cycles⟩

theorem follow_off_iff : calls.foldlM Phase.next .off = some .off ↔ Cycles calls :=
  ⟨(cycles_of_follow calls.length calls le_rfl).1, follow_cycles⟩

/-- The history is a chain of moves from the state without a change to the state now. -/
structure Chained (machine : RecoveryStateMachine) : Prop where
  linked : machine.history.IsChain fun earlier later => later.previous = earlier.current
  start : ∀ transition ∈ machine.history.head?, transition.previous = .off
  last : (machine.history.getLast?.elim .off RecoveryTransition.current) = machine.state

theorem Chained.move (chained : machine.Chained) (target : RecoveryState)
    (verificationTarget : Option VerificationTarget) :
    (machine.move target verificationTarget).Chained where
  linked := by
    rw [RecoveryStateMachine.move, List.isChain_append]
    refine ⟨chained.linked, List.isChain_singleton _, ?_⟩
    intro earlier final later first
    obtain rfl : ⟨machine.state, target, verificationTarget⟩ = later := by simpa using first
    have last := chained.last
    rw [Option.mem_def.mp final] at last
    exact last.symm
  start transition first := by
    rw [RecoveryStateMachine.move] at first
    dsimp only at first
    have last := chained.last
    cases before : machine.history with
    | nil =>
        rw [before] at first last
        obtain rfl : ⟨machine.state, target, verificationTarget⟩ = transition := by
          simpa using first
        exact last.symm
    | cons transition' history =>
        rw [before] at first
        apply chained.start
        rw [before]
        simpa using first
  last := by
    rw [RecoveryStateMachine.move]
    simp

/-- The original settings were saved, and nothing was verified to be off since. -/
def Pending (succeeded : List Call) : Prop :=
  ∃ before after, succeeded = before ++ .originalSaved :: after ∧ .offVerified ∉ after

theorem pending_append : Pending (calls ++ [call]) ↔
    call = .originalSaved ∨ call ≠ .offVerified ∧ Pending calls := by
  constructor
  · intro ⟨before, after, split, absent⟩
    rcases List.eq_nil_or_concat after with rfl | ⟨front, last, rfl⟩
    · obtain ⟨-, same⟩ := List.append_inj' split rfl
      exact .inl (List.cons.inj same).1
    · rw [List.concat_eq_append, ← List.cons_append, ← List.append_assoc] at split
      obtain ⟨rfl, same⟩ := List.append_inj' split rfl
      obtain rfl := (List.cons.inj same).1
      rw [List.concat_eq_append, List.mem_append, not_or, List.mem_singleton] at absent
      exact .inr ⟨fun off => absent.2 off.symm, before, front, rfl, absent.1⟩
  · rintro (rfl | ⟨other, before, after, rfl, absent⟩)
    · exact ⟨calls, [], rfl, List.not_mem_nil⟩
    · refine ⟨before, after ++ [call], by simp, ?_⟩
      rw [List.mem_append, not_or, List.mem_singleton]
      exact ⟨absent, fun off => other off.symm⟩

/-- What the calls that did not raise lead to. -/
structure Follows (succeeded : List Call) (machine : RecoveryStateMachine) (phase : Phase) :
    Prop where
  inside : machine.In phase
  led : succeeded.foldlM Phase.next .off = some phase
  length : machine.history.length = succeeded.length
  chained : machine.Chained
  applied : phase.applied = true ↔ Pending succeeded

theorem applied_next (moved : phase.next call = some phase') :
    phase'.applied = true ↔
      call = .originalSaved ∨ call ≠ .offVerified ∧ phase.applied = true := by
  cases phase <;> cases call <;> cases moved <;> decide

theorem Follows.next (follows : Follows calls machine phase)
    (moved : phase.next call = some phase') :
    Follows (calls ++ [call]) (machine.move phase'.state phase'.target) phase' where
  inside := ⟨rfl, rfl⟩
  led := by
    rw [List.foldlM_append, follows.led]
    exact congrArg (· >>= pure) moved
  length := by
    rw [move, List.length_append, List.length_append, follows.length]
    rfl
  chained := follows.chained.move _ _
  applied := by
    rw [applied_next moved, pending_append, follows.applied]

/-- A call that raises is as if it had not been made. -/
theorem follows_attempt (calls : List Call) :
    ∃ phase, Follows (attempt {} calls).2 (attempt {} calls).1 phase := by
  induction calls using List.reverseRecOn with
  | nil =>
      refine ⟨.off, ⟨rfl, rfl⟩, rfl, rfl, ⟨List.isChain_nil, by simp [attempt], rfl⟩, ?_⟩
      apply iff_of_false Bool.false_ne_true
      intro ⟨before, after, split, _⟩
      simp [attempt] at split
  | append_singleton calls call ih =>
      obtain ⟨phase, follows⟩ := ih
      have step : attempt {} (calls ++ [call]) =
          match (attempt {} calls).1.perform call with
          | .ok machine => (machine, (attempt {} calls).2 ++ [call])
          | .error _ => attempt {} calls := List.foldl_append
      have performed := @perform_eq _ _ call follows.inside
      rw [step]
      cases result : (attempt {} calls).1.perform call with
      | error message => exact ⟨phase, follows⟩
      | ok machine =>
          rw [result] at performed
          obtain ⟨phase', moved, rfl⟩ := Option.map_eq_some_iff.mp performed.symm
          exact ⟨phase', follows.next moved⟩

/-- Whatever is called, the calls that do not raise are whole changes of the network exactly when
the machine is off, a recovery is required from the saving of the original settings until the
network is verified to be off, and the history links one recorded move to the next. -/
theorem safe_off_iff (calls : List Call) :
    ((attempt {} calls).1.isSafeOff = true ↔ Cycles (attempt {} calls).2) ∧
    ((attempt {} calls).1.recoveryRequired = true ↔ Pending (attempt {} calls).2) ∧
    (attempt {} calls).1.history.length = (attempt {} calls).2.length ∧
    (attempt {} calls).1.Chained := by
  obtain ⟨phase, follows⟩ := follows_attempt calls
  refine ⟨?_, ?_, follows.length, follows.chained⟩
  · rw [← follow_off_iff, follows.led, isSafeOff, decide_eq_true_eq, follows.inside.1]
    cases phase <;> simp [Phase.state]
  · rw [← follows.applied, recoveryRequired, decide_eq_true_eq, follows.inside.1]
    cases phase <;> decide

end RecoveryStateMachine

end ProxyLauncher.Recovery
