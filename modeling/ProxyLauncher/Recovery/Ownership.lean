import ProxyLauncher.Python.Runtime
import ProxyLauncher.Transition.Machine

/-!
# The ownership of recovery evidence

A guard pins the first evidence that it admits.  It authorises an actor to change the system or to
restore it by that evidence, and keeps its state when a call raises.
-/

namespace ProxyLauncher.Recovery

open Python Transition

inductive Raised where
  | recoveryOwnershipError (message : String)
  | valueError
deriving DecidableEq

inductive OwnershipPurpose where
  | apply
  | restore
deriving DecidableEq

/-- `OwnershipPurpose(value)`. -/
def ownershipPurpose : String → Except Raised OwnershipPurpose
  | "APPLY" => .ok .apply
  | "RESTORE" => .ok .restore
  | _ => .error .valueError

/-- A field that is not a text is `none`. -/
structure RecoveryEvidence where
  ownerId : Option String
  operationId : Option String
  snapshotId : Option String
  resourceScope : Option String
  originalStateSha256 : Option String
deriving DecidableEq

/-- The fields of a record, as a tuple. -/
abbrev Identity := Option String × Option String × Option String × Option String × Option String

namespace RecoveryEvidence

variable (evidence : RecoveryEvidence)

def fields : List (String × Option String) :=
  [("owner_id", evidence.ownerId), ("operation_id", evidence.operationId),
    ("snapshot_id", evidence.snapshotId), ("resource_scope", evidence.resourceScope),
    ("original_state_sha256", evidence.originalStateSha256)]

def identity : Identity :=
  (evidence.ownerId, evidence.operationId, evidence.snapshotId, evidence.resourceScope,
    evidence.originalStateSha256)

end RecoveryEvidence

/-- `not value.strip()`, or not a text at all. -/
def blank (value : Option String) : Bool :=
  value.all fun text => strip text = ""

/-- `_SHA256_RE.fullmatch`. -/
def isSha256 (value : Option String) : Bool :=
  value.any fun text => text.toList.length = 64 &&
    text.toList.all fun char => char.isDigit || ('a' ≤ char && char ≤ 'f')

/-- `RecoveryEvidence.validate`. -/
def RecoveryEvidence.validate (evidence : RecoveryEvidence) : Except Raised Unit :=
  match evidence.fields.find? fun field => blank field.2 with
  | some (name, _) => .error (.recoveryOwnershipError (name ++ " must be non-empty"))
  | none =>
      if isSha256 evidence.originalStateSha256 then .ok ()
      else .error (.recoveryOwnershipError
        "original_state_sha256 must be a lowercase SHA-256 digest")

structure RecoveryClaim where
  successorOwnerId : String
  evidenceIdentity : Identity
  reason : String
deriving DecidableEq

structure RecoveryOwnershipGuard where
  actorId : String
  expectedScope : String
  admittedIdentity : Option Identity := none
  claim : Option RecoveryClaim := none
deriving DecidableEq

namespace RecoveryOwnershipGuard

/-- `RecoveryOwnershipGuard(actor_id=..., expected_scope=...)`. -/
def create (actorId expectedScope : String) : Except Raised RecoveryOwnershipGuard :=
  if strip actorId = "" then .error (.recoveryOwnershipError "actor_id must be non-empty")
  else if strip expectedScope = "" then
    .error (.recoveryOwnershipError "expected_scope must be non-empty")
  else .ok { actorId, expectedScope }

variable (guard : RecoveryOwnershipGuard) (evidence : RecoveryEvidence)

def scopeMismatch : Raised :=
  .recoveryOwnershipError ("recovery evidence scope mismatch (actual=" ++
    evidence.resourceScope.getD "" ++ ", expected=" ++ guard.expectedScope ++ ")")

def admitEvidence : RecoveryOwnershipGuard × Except Raised RecoveryEvidence :=
  match evidence.validate with
  | .error raised => (guard, .error raised)
  | .ok () =>
      if evidence.resourceScope ≠ some guard.expectedScope then
        (guard, .error (guard.scopeMismatch evidence))
      else
        match guard.admittedIdentity with
        | none => ({ guard with admittedIdentity := some evidence.identity }, .ok evidence)
        | some identity =>
            if identity ≠ evidence.identity then
              (guard, .error (.recoveryOwnershipError
                "recovery evidence substitution is forbidden after admission"))
            else (guard, .ok evidence)

def claimOrphaned (reason : Option String) :
    RecoveryOwnershipGuard × Except Raised RecoveryClaim :=
  match guard.admitEvidence evidence with
  | (guard, .error raised) => (guard, .error raised)
  | (guard, .ok _) =>
      if some guard.actorId = evidence.ownerId then
        (guard, .error (.recoveryOwnershipError
          "original owner does not need a successor recovery claim"))
      else if blank reason then
        (guard, .error (.recoveryOwnershipError "recovery claim reason must be non-empty"))
      else
        let claim := {
          successorOwnerId := guard.actorId
          evidenceIdentity := evidence.identity
          reason := strip (reason.getD "") }
        ({ guard with claim := some claim }, .ok claim)

/-- What `authorize` decides for evidence that is admitted. -/
def decideFor : OwnershipPurpose → Except Raised Bool
  | .apply =>
      if some guard.actorId ≠ evidence.ownerId then
        .error (.recoveryOwnershipError
          "APPLY requires the owner that captured the original state")
      else .ok true
  | .restore =>
      if some guard.actorId = evidence.ownerId then .ok true
      else
        match guard.claim with
        | none => .error (.recoveryOwnershipError
            "RESTORE by a successor requires an explicit orphaned recovery claim")
        | some claim =>
            if claim.successorOwnerId ≠ guard.actorId then
              .error (.recoveryOwnershipError "recovery claim belongs to another successor")
            else if claim.evidenceIdentity ≠ evidence.identity then
              .error (.recoveryOwnershipError
                "recovery claim does not match admitted evidence")
            else .ok true

def authorize (purpose : String) : RecoveryOwnershipGuard × Except Raised Bool :=
  match guard.admitEvidence evidence with
  | (guard, .error raised) => (guard, .error raised)
  | (guard, .ok _) => (guard, (ownershipPurpose purpose).bind (guard.decideFor evidence))

end RecoveryOwnershipGuard

inductive Call where
  | admitEvidence (evidence : RecoveryEvidence)
  | claimOrphaned (evidence : RecoveryEvidence) (reason : Option String)
  | authorize (evidence : RecoveryEvidence) (purpose : String)
deriving DecidableEq

/-- What a call returns. -/
inductive Answer where
  | evidence (evidence : RecoveryEvidence)
  | claim (claim : RecoveryClaim)
  | authorized (answer : Bool)
deriving DecidableEq

/-- A call and what it returns or raises. -/
structure Event where
  call : Call
  result : Except Raised Answer

def Call.evidence : Call → RecoveryEvidence
  | .admitEvidence evidence => evidence
  | .claimOrphaned evidence _ => evidence
  | .authorize evidence _ => evidence

def Event.Succeeds (event : Event) : Prop := ∃ answer, event.result = .ok answer

def RecoveryOwnershipGuard.step (guard : RecoveryOwnershipGuard) :
    Call → RecoveryOwnershipGuard × Except Raised Answer
  | .admitEvidence evidence => ((guard.admitEvidence evidence).1, (guard.admitEvidence evidence).2.map .evidence)
  | .claimOrphaned evidence reason =>
      ((guard.claimOrphaned evidence reason).1,
        (guard.claimOrphaned evidence reason).2.map .claim)
  | .authorize evidence purpose =>
      ((guard.authorize evidence purpose).1,
        (guard.authorize evidence purpose).2.map .authorized)

/-- Any sequence of calls on a new guard. -/
def guardian (actorId expectedScope : String) : Machine RecoveryOwnershipGuard Call Event where
  initial guard := RecoveryOwnershipGuard.create actorId expectedScope = .ok guard
  next guard call := some (guard.step call).1
  event guard call := some ⟨call, (guard.step call).2⟩

/-- Evidence that is complete and about the scope of a guard. -/
def RecoveryEvidence.Admissible (evidence : RecoveryEvidence) (expectedScope : String) : Prop :=
  evidence.validate = .ok () ∧ evidence.resourceScope = some expectedScope

instance (evidence : RecoveryEvidence) (expectedScope : String) :
    Decidable (evidence.Admissible expectedScope) :=
  inferInstanceAs (Decidable (_ ∧ _))

/-- The first evidence of some calls that can be admitted. -/
def firstAdmitted (expectedScope : String) (events : List Event) : Option RecoveryEvidence :=
  (events.map fun event => event.call.evidence).find? fun evidence =>
    evidence.Admissible expectedScope

end ProxyLauncher.Recovery
