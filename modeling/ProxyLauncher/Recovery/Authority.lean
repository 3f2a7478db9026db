import ProxyLauncher.Recovery.Ownership

/-!
# The authority of a recovery guard

What a guard authorises is settled by the calls before: by the first evidence that could be
admitted and by the claims that succeeded.
-/

namespace ProxyLauncher.Recovery

open Python Transition

theorem RecoveryEvidence.identity_injective : Function.Injective RecoveryEvidence.identity := by
  intro first second same
  cases first
  cases second
  simpa only [RecoveryEvidence.identity, Prod.mk.injEq, RecoveryEvidence.mk.injEq] using same

namespace RecoveryOwnershipGuard

variable (guard : RecoveryOwnershipGuard) (evidence : RecoveryEvidence)

/-- The guard once the evidence is pinned. -/
def pin : RecoveryOwnershipGuard :=
  { guard with admittedIdentity := some evidence.identity }

@[simp] theorem pin_actorId : (guard.pin evidence).actorId = guard.actorId := rfl

@[simp] theorem pin_expectedScope : (guard.pin evidence).expectedScope = guard.expectedScope := rfl

@[simp] theorem pin_claim : (guard.pin evidence).claim = guard.claim := rfl

/-- The evidence can be admitted, and no other evidence is pinned. -/
structure Admits : Prop where
  admissible : evidence.Admissible guard.expectedScope
  unpinned : guard.admittedIdentity = none ∨ guard.admittedIdentity = some evidence.identity

/-- The effect of a call: it is rejected, or it raises behind the admission of its evidence, or it
succeeds. -/
inductive Effect : Call → RecoveryOwnershipGuard → Except Raised Answer → Prop where
  | rejected {call : Call} {raised : Raised}
      (pinned : call.evidence.Admissible guard.expectedScope → guard.admittedIdentity ≠ none) :
      Effect call guard (.error raised)
  | raised {call : Call} {raised : Raised} (admits : guard.Admits call.evidence) :
      Effect call (guard.pin call.evidence) (.error raised)
  | admitted {evidence : RecoveryEvidence} (admits : guard.Admits evidence) :
      Effect (.admitEvidence evidence) (guard.pin evidence) (.ok (.evidence evidence))
  | claimed {evidence : RecoveryEvidence} {reason : Option String} {claim : RecoveryClaim}
      (admits : guard.Admits evidence) (exact : claim.evidenceIdentity = evidence.identity) :
      Effect (.claimOrphaned evidence reason) { guard.pin evidence with claim := some claim }
        (.ok (.claim claim))
  | applied {evidence : RecoveryEvidence} {purpose : String} (named : purpose = "APPLY")
      (admits : guard.Admits evidence) (owner : evidence.ownerId = some guard.actorId) :
      Effect (.authorize evidence purpose) (guard.pin evidence) (.ok (.authorized true))
  | restored {evidence : RecoveryEvidence} {purpose : String} (named : purpose = "RESTORE")
      (admits : guard.Admits evidence)
      (successor : evidence.ownerId = some guard.actorId ∨
        ∃ claim, guard.claim = some claim ∧ claim.evidenceIdentity = evidence.identity) :
      Effect (.authorize evidence purpose) (guard.pin evidence) (.ok (.authorized true))

variable {guard evidence}

theorem admit_cases :
    (∃ raised, guard.admitEvidence evidence = (guard, .error raised) ∧
      (evidence.Admissible guard.expectedScope → guard.admittedIdentity ≠ none)) ∨
    guard.Admits evidence ∧ guard.admitEvidence evidence = (guard.pin evidence, .ok evidence) := by
  unfold admitEvidence
  cases valid : evidence.validate with
  | error raised =>
      left
      refine ⟨raised, rfl, fun admissible => ?_⟩
      rw [admissible.1] at valid
      cases valid
  | ok =>
      by_cases scope : evidence.resourceScope = some guard.expectedScope
      · cases pinned : guard.admittedIdentity with
        | none => exact .inr ⟨⟨⟨valid, scope⟩, .inl pinned⟩, by simp [scope, pin]⟩
        | some identity =>
            by_cases same : identity = evidence.identity
            · subst same
              refine .inr ⟨⟨⟨valid, scope⟩, .inr pinned⟩, ?_⟩
              simp [scope, pin, ← pinned]
            · left
              refine ⟨.recoveryOwnershipError
                "recovery evidence substitution is forbidden after admission", ?_, ?_⟩
              · simp [scope, same]
              · exact fun _ => Option.some_ne_none identity
      · left
        refine ⟨guard.scopeMismatch evidence, ?_, fun admissible => absurd admissible.2 scope⟩
        simp [scope]

theorem ownershipPurpose_eq_ok {purpose : String} {meant : OwnershipPurpose}
    (known : ownershipPurpose purpose = .ok meant) :
    purpose = "APPLY" ∧ meant = .apply ∨ purpose = "RESTORE" ∧ meant = .restore := by
  unfold ownershipPurpose at known
  split at known
  · exact .inl ⟨rfl, (Except.ok.inj known).symm⟩
  · exact .inr ⟨rfl, (Except.ok.inj known).symm⟩
  · cases known

theorem decideFor_apply {answer : Bool}
    (decided : guard.decideFor evidence .apply = .ok answer) :
    answer = true ∧ evidence.ownerId = some guard.actorId := by
  unfold decideFor at decided
  dsimp only at decided
  split at decided
  · cases decided
  · rename_i owner
    exact ⟨(Except.ok.inj decided).symm, (not_not.mp owner).symm⟩

theorem decideFor_restore {answer : Bool}
    (decided : guard.decideFor evidence .restore = .ok answer) :
    answer = true ∧ (evidence.ownerId = some guard.actorId ∨
      ∃ claim, guard.claim = some claim ∧ claim.evidenceIdentity = evidence.identity) := by
  unfold decideFor at decided
  dsimp only at decided
  split at decided
  · rename_i owner
    exact ⟨(Except.ok.inj decided).symm, .inl owner.symm⟩
  · split at decided
    · cases decided
    · rename_i claim found
      split at decided
      · cases decided
      · split at decided
        · cases decided
        · rename_i exact
          exact ⟨(Except.ok.inj decided).symm, .inr ⟨claim, found, not_not.mp exact⟩⟩

theorem step_effect (guard : RecoveryOwnershipGuard) (call : Call) :
    guard.Effect call (guard.step call).1 (guard.step call).2 := by
  cases call with
  | admitEvidence evidence =>
      rcases @admit_cases guard evidence with ⟨raised, refused, pinned⟩ | ⟨admits, done⟩
      · rw [step, refused]
        exact .rejected pinned
      · rw [step, done]
        exact .admitted admits
  | claimOrphaned evidence reason =>
      rw [step, claimOrphaned]
      rcases @admit_cases guard evidence with ⟨raised, refused, pinned⟩ | ⟨admits, done⟩
      · rw [refused]
        exact .rejected pinned
      · rw [done]
        dsimp only
        split
        · exact .raised admits
        · split
          · exact .raised admits
          · exact .claimed admits rfl
  | authorize evidence purpose =>
      rw [step, authorize]
      rcases @admit_cases guard evidence with ⟨raised, refused, pinned⟩ | ⟨admits, done⟩
      · rw [refused]
        exact .rejected pinned
      · rw [done]
        dsimp only
        cases known : ownershipPurpose purpose with
        | error raised => exact .raised admits
        | ok meant =>
            rw [Except.bind]
            cases decided : (guard.pin evidence).decideFor evidence meant with
            | error raised => exact .raised admits
            | ok answer =>
                rcases ownershipPurpose_eq_ok known with ⟨rfl, rfl⟩ | ⟨rfl, rfl⟩
                · obtain ⟨rfl, owner⟩ := decideFor_apply decided
                  exact .applied rfl admits owner
                · obtain ⟨rfl, successor⟩ := decideFor_restore decided
                  exact .restored rfl admits successor

end RecoveryOwnershipGuard

theorem firstAdmitted_append (expectedScope : String) (events : List Event) (event : Event) :
    firstAdmitted expectedScope (events ++ [event]) =
      (firstAdmitted expectedScope events).or
        (if event.call.evidence.Admissible expectedScope then some event.call.evidence
          else none) := by
  rw [firstAdmitted, List.map_append, List.find?_append, ← firstAdmitted]
  simp [List.find?_singleton]

/-- The state of a guard tells what its calls have been. -/
structure Faithful (actorId expectedScope : String) (events : List Event)
    (guard : RecoveryOwnershipGuard) : Prop where
  actor : guard.actorId = actorId
  scope : guard.expectedScope = expectedScope
  pinned : guard.admittedIdentity =
    (firstAdmitted expectedScope events).map RecoveryEvidence.identity
  claimed : ∀ claim, guard.claim = some claim → ∃ evidence reason,
    ⟨.claimOrphaned evidence reason, .ok (.claim claim)⟩ ∈ events ∧
      claim.evidenceIdentity = evidence.identity

variable {actorId expectedScope : String} {events : List Event} {guard : RecoveryOwnershipGuard}
  {evidence : RecoveryEvidence} {event : Event}

/-- Evidence that can be admitted is the first such evidence. -/
theorem Faithful.firstAdmitted (faithful : Faithful actorId expectedScope events guard)
    (admits : guard.Admits event.call.evidence) :
    firstAdmitted expectedScope (events ++ [event]) = some event.call.evidence := by
  have admissible := admits.admissible
  rw [faithful.scope] at admissible
  rw [firstAdmitted_append, if_pos admissible]
  cases first : Recovery.firstAdmitted expectedScope events with
  | none => rfl
  | some found =>
      have pinned := faithful.pinned
      rw [first, Option.map_some] at pinned
      cases admits.unpinned with
      | inl unpinned =>
          rw [pinned] at unpinned
          cases unpinned
      | inr same =>
          rw [pinned, Option.some.injEq] at same
          rw [RecoveryEvidence.identity_injective same]
          rfl

theorem Faithful.of_create
    (created : RecoveryOwnershipGuard.create actorId expectedScope = .ok guard) :
    Faithful actorId expectedScope [] guard := by
  unfold RecoveryOwnershipGuard.create at created
  split_ifs at created
  obtain rfl := Except.ok.inj created
  constructor
  · rfl
  · rfl
  · rfl
  · intro claim found
    cases found

/-- A claim of the past stays one. -/
theorem Faithful.claimed_append (faithful : Faithful actorId expectedScope events guard)
    {claim : RecoveryClaim} (found : guard.claim = some claim) :
    ∃ evidence reason,
      ⟨.claimOrphaned evidence reason, .ok (.claim claim)⟩ ∈ events ++ [event] ∧
        claim.evidenceIdentity = evidence.identity := by
  obtain ⟨evidence, reason, member, same⟩ := faithful.claimed claim found
  exact ⟨evidence, reason, List.mem_append_left _ member, same⟩

theorem Faithful.pinned_append (faithful : Faithful actorId expectedScope events guard)
    {call : Call} (admits : guard.Admits call.evidence) (result : Except Raised Answer) :
    (guard.pin call.evidence).admittedIdentity =
      (Recovery.firstAdmitted expectedScope (events ++ [⟨call, result⟩])).map
        RecoveryEvidence.identity := by
  rw [@Faithful.firstAdmitted _ _ _ _ ⟨call, result⟩ faithful admits]
  rfl

theorem Faithful.step (faithful : Faithful actorId expectedScope events guard) (call : Call) :
    Faithful actorId expectedScope (events ++ [⟨call, (guard.step call).2⟩])
      (guard.step call).1 := by
  have effect := guard.step_effect call
  generalize (guard.step call).1 = next, (guard.step call).2 = result at effect ⊢
  cases effect with
  | rejected pinned =>
      refine ⟨faithful.actor, faithful.scope, ?_, fun claim found =>
        faithful.claimed_append found⟩
      rw [firstAdmitted_append, faithful.pinned]
      cases first : Recovery.firstAdmitted expectedScope events with
      | some evidence => rfl
      | none =>
          rw [if_neg]
          · rfl
          · intro admissible
            rw [← faithful.scope] at admissible
            apply pinned admissible
            rw [faithful.pinned, first]
            rfl
  | raised admits =>
      exact ⟨faithful.actor, faithful.scope, faithful.pinned_append admits _, fun claim found =>
        faithful.claimed_append found⟩
  | admitted admits =>
      exact ⟨faithful.actor, faithful.scope,
        @Faithful.pinned_append _ _ _ _ faithful (.admitEvidence _) admits _, fun claim found =>
        faithful.claimed_append found⟩
  | claimed admits same =>
      rename_i evidence reason claim
      refine ⟨faithful.actor, faithful.scope,
        @Faithful.pinned_append _ _ _ _ faithful (.claimOrphaned evidence reason) admits _, ?_⟩
      intro found new
      obtain rfl := Option.some.inj new
      exact ⟨evidence, reason, List.mem_append_right _ List.mem_cons_self, same⟩
  | applied named admits owner =>
      exact ⟨faithful.actor, faithful.scope,
        @Faithful.pinned_append _ _ _ _ faithful (.authorize _ _) admits _,
        fun claim found => faithful.claimed_append found⟩
  | restored named admits successor =>
      exact ⟨faithful.actor, faithful.scope,
        @Faithful.pinned_append _ _ _ _ faithful (.authorize _ _) admits _,
        fun claim found => faithful.claimed_append found⟩

theorem faithful_of_reaches
    (reaches : (guardian actorId expectedScope).Reaches Machine.Always events guard) :
    Faithful actorId expectedScope events guard := by
  apply reaches.invariant
  · intro guard created
    exact .of_create created
  · intro events guard call next faithful _ stepped
    obtain rfl := Option.some.inj stepped
    exact faithful.step call

/-- The state of a guard before a call, and what the call does. -/
theorem effect_of_split {before after : List Event}
    (reaches : (guardian actorId expectedScope).Reaches Machine.Always events guard)
    (split : events = before ++ event :: after) :
    ∃ earlier next, Faithful actorId expectedScope before earlier ∧
      earlier.Effect event.call next event.result := by
  obtain ⟨earlier, call, next, reached, -, -, observed⟩ := reaches.at_event split
  obtain rfl := Option.some.inj observed
  exact ⟨earlier, _, faithful_of_reaches reached, earlier.step_effect call⟩

theorem admits_of_succeeds {next : RecoveryOwnershipGuard} (succeeds : event.Succeeds)
    (effect : guard.Effect event.call next event.result) : guard.Admits event.call.evidence := by
  obtain ⟨call, result⟩ := event
  obtain ⟨answer, rfl⟩ := succeeds
  cases effect with
  | admitted admits => exact admits
  | claimed admits same => exact admits
  | applied named admits owner => exact admits
  | restored named admits successor => exact admits

theorem firstAdmitted_append_of_some {rest : List Event}
    (first : firstAdmitted expectedScope events = some evidence) :
    firstAdmitted expectedScope (events ++ rest) = some evidence := by
  rw [firstAdmitted, List.map_append, List.find?_append, ← firstAdmitted, first]
  rfl

/-- A guard acts on the first evidence that it could admit and on no other.  To apply is the right
of the owner, to restore that of the owner or of an actor with an earlier claim.  A call that
raises leaves the claim and the pinned evidence alone. -/
theorem recovery_authority
    (reaches : (guardian actorId expectedScope).Reaches Machine.Always events guard) :
    (∀ event ∈ events, event.Succeeds →
      firstAdmitted expectedScope events = some event.call.evidence) ∧
    (∀ evidence answer, ⟨.authorize evidence "APPLY", .ok answer⟩ ∈ events →
      evidence.ownerId = some actorId) ∧
    (∀ before evidence answer after,
      events = before ++ ⟨.authorize evidence "RESTORE", .ok answer⟩ :: after →
      evidence.ownerId = some actorId ∨ ∃ reason claim,
        ⟨.claimOrphaned evidence reason, .ok (.claim claim)⟩ ∈ before) ∧
    ∀ call raised, (guard.step call).2 = .error raised →
      (guard.step call).1.claim = guard.claim ∧
        ∀ identity ∈ guard.admittedIdentity,
          (guard.step call).1.admittedIdentity = some identity := by
  refine ⟨?_, ?_, ?_, ?_⟩
  · intro event member succeeds
    obtain ⟨before, after, split⟩ := List.append_of_mem member
    obtain ⟨earlier, next, faithful, effect⟩ := effect_of_split reaches split
    have first := faithful.firstAdmitted (admits_of_succeeds succeeds effect)
    rw [split, List.append_cons]
    exact firstAdmitted_append_of_some first
  · intro evidence answer member
    obtain ⟨before, after, split⟩ := List.append_of_mem member
    obtain ⟨earlier, next, faithful, effect⟩ := effect_of_split reaches split
    cases effect with
    | applied named admits owner => rw [owner, faithful.actor]
    | restored named => exact absurd named (by decide)
  · intro before evidence answer after split
    obtain ⟨earlier, next, faithful, effect⟩ := effect_of_split reaches split
    cases effect with
    | applied named => exact absurd named (by decide)
    | restored named admits successor =>
        cases successor with
        | inl owner =>
            left
            rw [owner, faithful.actor]
        | inr claimed =>
            right
            obtain ⟨claim, found, same⟩ := claimed
            obtain ⟨other, reason, member, exact⟩ := faithful.claimed claim found
            obtain rfl := RecoveryEvidence.identity_injective (same.symm.trans exact)
            exact ⟨reason, claim, member⟩
  · intro call raised refused
    have effect := guard.step_effect call
    rw [refused] at effect
    generalize (guard.step call).1 = next at effect ⊢
    cases effect with
    | rejected pinned => exact ⟨rfl, fun identity member => member⟩
    | raised admits =>
        refine ⟨rfl, fun identity member => ?_⟩
        cases admits.unpinned with
        | inl unpinned =>
            rw [unpinned] at member
            cases member
        | inr same => exact same.symm.trans member

/-- Evidence whose owner is gone. -/
def orphan : RecoveryEvidence where
  ownerId := some "a"
  operationId := some "o"
  snapshotId := some "s"
  resourceScope := some "net"
  originalStateSha256 := some (.ofList (.replicate 64 '0'))

def orphanClaim : RecoveryClaim where
  successorOwnerId := "b"
  evidenceIdentity := orphan.identity
  reason := "gone"

/-- A successor claims the evidence and restores by it. -/
def successorEvents : List Event :=
  [⟨.claimOrphaned orphan (some "gone"), .ok (.claim orphanClaim)⟩,
    ⟨.authorize orphan "RESTORE", .ok (.authorized true)⟩]

theorem successorEvents_reached :
    (guardian "b" "net").Reaches Machine.Always successorEvents
      ⟨"b", "net", some orphan.identity, some orphanClaim⟩ := by
  have created : RecoveryOwnershipGuard.create "b" "net" = .ok ⟨"b", "net", none, none⟩ := rfl
  have start : (guardian "b" "net").Reaches Machine.Always [] ⟨"b", "net", none, none⟩ :=
    .start created
  have executed : (guardian "b" "net").exec Machine.Always
      [.claimOrphaned orphan (some "gone"), .authorize orphan "RESTORE"] []
        ⟨"b", "net", none, none⟩ =
      some (successorEvents, ⟨"b", "net", some orphan.identity, some orphanClaim⟩) := rfl
  exact start.exec executed

theorem recovery_authority_sample : ∃ reason claim,
    ⟨.claimOrphaned orphan reason, .ok (.claim claim)⟩ ∈
      [Event.mk (.claimOrphaned orphan (some "gone")) (.ok (.claim orphanClaim))] := by
  have restored := (recovery_authority successorEvents_reached).2.2.1
    [⟨.claimOrphaned orphan (some "gone"), .ok (.claim orphanClaim)⟩] orphan (.authorized true)
    [] rfl
  exact restored.resolve_left (by decide)

end ProxyLauncher.Recovery
