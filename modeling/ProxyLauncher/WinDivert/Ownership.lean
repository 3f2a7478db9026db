import ProxyLauncher.Python.Runtime
import ProxyLauncher.WinDivert.Service

/-!
# The ownership journal and its controller

The launcher records a routing session in a journal before it asks the service for it, and
removes the journal when the service has verified that the session is gone.  Between the two
stands the contract of the requests and responses.
-/

namespace ProxyLauncher.WinDivert

inductive Phase where
  | prepared
  | applied
  | restoring
deriving DecidableEq

/-- The place of a phase in their order. -/
def Phase.rank : Phase → Nat
  | .prepared => 0
  | .applied => 1
  | .restoring => 2

structure OwnedRoutingResource where
  resourceType : String
  resourceId : String
deriving DecidableEq

structure RoutingOwnershipState where
  sessionId : String
  platform : String
  planDigest : String
  phase : Phase
  resources : List OwnedRoutingResource
  createdAtUtc : String
deriving DecidableEq

/-- `OWNED_RESOURCES`. -/
def ownedResources : List OwnedRoutingResource :=
  [⟨"windivert_session", "Arvectum.ProxyLauncher.WinDivert.SocketTracker"⟩,
    ⟨"windivert_session", "Arvectum.ProxyLauncher.WinDivert.NetworkTranslator"⟩]

/-- `_resource_ids`. -/
def resourceIds : List String := ownedResources.map (·.resourceId)

/-- A SHA-256 in lower-case hexadecimal digits. -/
def isDigest (text : String) : Bool :=
  text.toList.length == 64 && text.toList.all fun char => "0123456789abcdef".toList.contains char

/-- The library functions of the contract: `uuid` is `str(uuid.UUID(value))`, and `hexdigest`
is that of SHA-256. -/
structure ContractLibrary where
  uuid : String → Option String
  hexdigest : String → String
  lower : String → String
  hexdigest_digest : ∀ text, isDigest (hexdigest text) = true
  lower_digest : ∀ text, isDigest text = true → lower text = text

namespace RoutingOwnershipStore

/-- `RoutingOwnershipStore.load`, of a file that `_save` wrote or of none. -/
def load (journal : Option RoutingOwnershipState) : Except String RoutingOwnershipState :=
  match journal with
  | none => .error "routing ownership state is unreadable"
  | some state =>
      if !isDigest state.planDigest then .error "invalid routing plan digest"
      else if state.resources = [] then .error "routing ownership state has no resources"
      else .ok state

/-- `RoutingOwnershipStore.prepare`: the state that it saves.  `sessionId` is what `uuid4`
returned, and `now` is the time. -/
def prepare (library : ContractLibrary) (journal : Option RoutingOwnershipState)
    (platform canonicalPlanJson : String) (resources : List OwnedRoutingResource)
    (sessionId now : String) : Except String RoutingOwnershipState :=
  if journal.isSome then
    .error "pending routing ownership state must be recovered before a new session"
  else
    let platform := library.lower (Python.strip platform)
    if platform ∉ ["windows", "linux", "macos"] ∨ resources = [] then
      .error "invalid routing ownership preparation"
    else
      .ok
        { sessionId
          platform
          planDigest := library.hexdigest canonicalPlanJson
          phase := .prepared
          resources
          createdAtUtc := now }

/-- The transitions that `RoutingOwnershipStore.transition` allows. -/
def allowedTransition : Phase → Phase → Bool
  | .prepared, .applied => true
  | .prepared, .restoring => true
  | .applied, .restoring => true
  | _, _ => false

/-- `RoutingOwnershipStore.transition`: the state that it saves. -/
def transition (journal : Option RoutingOwnershipState) (target : Phase) :
    Except String RoutingOwnershipState := do
  let state ← load journal
  if allowedTransition state.phase target then .ok { state with phase := target }
  else .error "unsafe routing ownership phase transition"

/-- `RoutingOwnershipStore.clear_after_verified_restore`: whether the file is removed. -/
def clearAfterVerifiedRestore (journal : Option RoutingOwnershipState) (verified : Bool) :
    Except String Unit := do
  let state ← load journal
  if !verified || state.phase ≠ .restoring then
    .error "routing ownership evidence cannot be cleared before verified restoration"
  else .ok ()

end RoutingOwnershipStore

variable (library : ContractLibrary)

/-- `_validate_session_id`. -/
def validateSessionId (value : String) : Except String String :=
  match library.uuid value with
  | some text => .ok text
  | none => .error "invalid WinDivert routing session id"

/-- `_validate_digest`. -/
def validateDigest (value : String) : Except String String :=
  if isDigest (library.lower value) then .ok (library.lower value)
  else .error "invalid WinDivert routing plan digest"

/-- The arguments of `activate`, with the applications of the canonical plan. -/
structure Activation where
  canonicalPlanJson : String
  applications : List ApplicationSpec
  proxyPid : Nat
  directListenerPort : Nat
deriving DecidableEq

/-- `build_apply_request`. -/
def buildApplyRequest (activation : Activation) (sessionId planDigest : String) :
    Except String ServiceRequest := do
  if activation.directListenerPort = 0 ∨ 65535 < activation.directListenerPort then
    .error "direct listener port is out of range"
  else if (activation.applications.map fun application =>
      application.localProxyPort.toNat).head? = some activation.directListenerPort then
    .error "direct listener port must differ from local proxy port"
  else
    let sessionId ← validateSessionId library sessionId
    let planDigest ← validateDigest library planDigest
    if activation.proxyPid = 0 ∨ 0xFFFFFFFF < activation.proxyPid then
      .error "proxy pid is out of range"
    else
      .ok
        { command := .applyPlan
          sessionId
          planDigest
          proxyPid := .ofNat activation.proxyPid
          directListenerPort := .ofNat activation.directListenerPort
          applications := activation.applications }

/-- `build_restore_request`. -/
def buildRestoreRequest (sessionId planDigest : String) : Except String ServiceRequest := do
  let sessionId ← validateSessionId library sessionId
  let planDigest ← validateDigest library planDigest
  .ok { command := .restore, sessionId, planDigest }

/-- What `BuildServiceResponse` writes; the command of an invalid request is `none`, and a list
that is left out is empty. -/
structure ServiceResponse where
  command : Option ServiceCommand
  sessionId : String := ""
  planDigest : String := ""
  ok : Bool
  error : String := ""
  appliedResources : List String := []
  removedResources : List String := []
  remainingOwnedResources : List String := []
deriving DecidableEq

/-- `BuildServiceResponse`. -/
def buildServiceResponse (request : ServiceRequest) (ok : Bool) (error : String)
    (restore resourcesVerified : Bool) : ServiceResponse where
  command := some (if restore then .restore else .applyPlan)
  sessionId := request.sessionId
  planDigest := request.planDigest
  ok
  error := if ok then "" else error
  appliedResources := if ok && !restore then resourceIds else []
  removedResources := if ok && restore && resourcesVerified then resourceIds else []
  remainingOwnedResources := if ok && restore && !resourcesVerified then resourceIds else []

/-- `validate_service_response`. -/
def validateServiceResponse (response : ServiceResponse) (command : ServiceCommand)
    (sessionId planDigest : String) : Except String Unit := do
  if response.command ≠ some command then .error "WinDivert routing service command mismatch"
  else
    let sessionId ← validateSessionId library sessionId
    if response.sessionId ≠ sessionId then .error "WinDivert routing service session mismatch"
    else
      let planDigest ← validateDigest library planDigest
      if response.planDigest ≠ planDigest then
        .error "WinDivert routing service plan digest mismatch"
      else if !response.ok then
        .error ("WinDivert routing service rejected request: " ++ response.error)
      else .ok ()

/-- What happens to a request that the service has read: whether it parses, what the query of
the SID of the client answers, and what the system answers to the call. -/
structure Handling where
  parsed : Bool
  callerSid : Except String String
  answers : Answers
  closes : Closes

/-- `HandleClient`, from the parsing of a request to its response. -/
def handleClient (native : Native) (request : ServiceRequest) (handling : Handling) :
    ServiceResponse × Native :=
  if !handling.parsed then
    ({ command := none, ok := false, error := "invalid request" }, native)
  else
    match handling.callerSid with
    | .error error => (buildServiceResponse request false error false false, native)
    | .ok callerSid =>
        match request.command with
        | .restore =>
            let (restored, native) :=
              native.restoreForCaller request (some callerSid) handling.closes
            (buildServiceResponse request restored.ok restored.error true
              restored.resourcesVerified, native)
        | .applyPlan =>
            let (result, native) := native.apply request (some callerSid) handling.answers
            match result with
            | .ok () => (buildServiceResponse request true "" false false, native)
            | .error error => (buildServiceResponse request false error false false, native)

/-- `set(...) == _resource_ids()`. -/
def sameResources (resources : List String) : Bool :=
  resources.all (resourceIds.contains ·) && resourceIds.all (resources.contains ·)

/-- `activate` accepts a response. -/
def confirmsApply (state : RoutingOwnershipState) (response : ServiceResponse) :
    Except String Unit := do
  validateServiceResponse library response .applyPlan state.sessionId state.planDigest
  if sameResources response.appliedResources then .ok ()
  else .error "WinDivert routing service did not confirm the exact owned resource set"

/-- `restore` accepts a response. -/
def confirmsRestore (state : RoutingOwnershipState) (response : ServiceResponse) :
    Except String Unit := do
  validateServiceResponse library response .restore state.sessionId state.planDigest
  if sameResources response.removedResources && response.remainingOwnedResources.isEmpty then
    .ok ()
  else .error "WinDivert routing service did not verify complete restoration"

/-- The start of `restore`: the state that it goes on with, which is in the journal. -/
def beginRestore (journal : Option RoutingOwnershipState) :
    Except String RoutingOwnershipState := do
  let state ← RoutingOwnershipStore.load journal
  if state.platform ≠ "windows" then
    .error "WinDivert routing ownership state is not Windows"
  else if state.phase ≠ .restoring then RoutingOwnershipStore.transition journal .restoring
  else .ok state

namespace RoutingOwnershipStore

variable {library} {journal : Option RoutingOwnershipState} {state state' : RoutingOwnershipState}

theorem load_eq_ok (loaded : load journal = .ok state) :
    journal = some state ∧ isDigest state.planDigest = true := by
  cases journal with
  | none => exact absurd loaded (by simp [load])
  | some saved =>
      simp only [load] at loaded
      split at loaded
      · exact absurd loaded (by simp)
      · rename_i digest
        split at loaded
        · exact absurd loaded (by simp)
        · obtain rfl := Except.ok.inj loaded
          exact ⟨rfl, by simpa using digest⟩

theorem prepare_eq_ok {platform canonicalPlanJson sessionId now : String}
    {resources : List OwnedRoutingResource}
    (prepared : prepare library journal platform canonicalPlanJson resources sessionId now =
      .ok state) :
    journal = none ∧ state.sessionId = sessionId ∧
      state.planDigest = library.hexdigest canonicalPlanJson ∧ state.phase = .prepared := by
  cases journal with
  | some saved => exact absurd prepared (by simp [prepare])
  | none =>
      simp only [prepare] at prepared
      split at prepared
      · exact absurd prepared (by simp)
      · split at prepared
        · exact absurd prepared (by simp)
        · obtain rfl := Except.ok.inj prepared
          exact ⟨rfl, rfl, rfl, rfl⟩

/-- A transition changes the phase of the journal and nothing else. -/
theorem transition_eq_ok {target : Phase} (moved : transition journal target = .ok state') :
    ∃ state, journal = some state ∧ state' = { state with phase := target } ∧
      allowedTransition state.phase target = true := by
  obtain ⟨state, loaded, rest⟩ := Python.bind_eq_ok.mp moved
  split at rest
  · rename_i permitted
    exact ⟨state, (load_eq_ok loaded).1, (Except.ok.inj rest).symm, permitted⟩
  · exact absurd rest (by simp)

theorem clear_eq_ok {verified : Bool}
    (cleared : clearAfterVerifiedRestore journal verified = .ok ()) :
    ∃ state, journal = some state ∧ verified = true ∧ state.phase = .restoring := by
  obtain ⟨state, loaded, rest⟩ := Python.bind_eq_ok.mp cleared
  split at rest
  · exact absurd rest (by simp)
  · rename_i passed
    simp only [Bool.or_eq_true, Bool.not_eq_true', decide_eq_true_eq, not_or, Bool.not_eq_false,
      ne_eq, not_not] at passed
    exact ⟨state, (load_eq_ok loaded).1, passed.1, passed.2⟩

theorem rank_le_of_allowed {phase target : Phase} (permitted : allowedTransition phase target) :
    phase.rank ≤ target.rank := by
  cases phase <;> cases target <;> first | decide | exact absurd permitted (by decide)

end RoutingOwnershipStore

theorem beginRestore_eq_ok {journal : Option RoutingOwnershipState}
    {state' : RoutingOwnershipState} (begun : beginRestore journal = .ok state') :
    ∃ state, journal = some state ∧ state' = { state with phase := .restoring } := by
  obtain ⟨state, loaded, rest⟩ := Python.bind_eq_ok.mp begun
  split at rest
  · exact absurd rest (by simp)
  · split at rest
    · obtain ⟨saved, present, moved, -⟩ := RoutingOwnershipStore.transition_eq_ok rest
      exact ⟨saved, present, moved⟩
    · rename_i restoring
      obtain rfl := Except.ok.inj rest
      exact ⟨state, (RoutingOwnershipStore.load_eq_ok loaded).1,
        by rw [← not_not.mp restoring]⟩

variable {library} {state : RoutingOwnershipState} {request : ServiceRequest}
  {response : ServiceResponse}

/-- The texts of a journal are those that the contract makes of them. -/
def RoutingOwnershipState.Valid (library : ContractLibrary) (state : RoutingOwnershipState) :
    Prop :=
  library.uuid state.sessionId = some state.sessionId ∧ isDigest state.planDigest = true

/-- A request is for the session of a state. -/
def RoutingOwnershipState.Requests (state : RoutingOwnershipState) (command : ServiceCommand)
    (request : ServiceRequest) : Prop :=
  request.command = command ∧ request.sessionId = state.sessionId ∧
    request.planDigest = state.planDigest

theorem RoutingOwnershipState.Valid.sessionId (valid : state.Valid library) :
    validateSessionId library state.sessionId = .ok state.sessionId := by
  simp [validateSessionId, valid.1]

theorem RoutingOwnershipState.Valid.planDigest (valid : state.Valid library) :
    validateDigest library state.planDigest = .ok state.planDigest := by
  rw [validateDigest, library.lower_digest _ valid.2, if_pos valid.2]

theorem buildApplyRequest_eq_ok {activation : Activation} (valid : state.Valid library)
    (built : buildApplyRequest library activation state.sessionId state.planDigest =
      .ok request) : state.Requests .applyPlan request := by
  unfold buildApplyRequest at built
  rw [valid.sessionId, valid.planDigest] at built
  split at built
  · exact absurd built (by simp)
  · split at built
    · exact absurd built (by simp)
    · simp only [Python.bind_eq_ok, Except.ok.injEq, exists_eq_left'] at built
      split at built
      · exact absurd built (by simp)
      · obtain rfl := Except.ok.inj built
        exact ⟨rfl, rfl, rfl⟩

theorem buildRestoreRequest_eq_ok (valid : state.Valid library)
    (built : buildRestoreRequest library state.sessionId state.planDigest = .ok request) :
    state.Requests .restore request := by
  unfold buildRestoreRequest at built
  rw [valid.sessionId, valid.planDigest] at built
  simp only [Python.bind_eq_ok, Except.ok.injEq, exists_eq_left'] at built
  obtain rfl := built
  exact ⟨rfl, rfl, rfl⟩

/-- An accepted response to a restore says so and leaves no resource. -/
theorem confirmsRestore_eq_ok (confirmed : confirmsRestore library state response = .ok ()) :
    response.command = some .restore ∧ response.ok = true ∧
      sameResources response.removedResources = true ∧
      response.remainingOwnedResources = [] := by
  obtain ⟨_, validated, rest⟩ := Python.bind_eq_ok.mp confirmed
  have complete : sameResources response.removedResources = true ∧
      response.remainingOwnedResources = [] := by
    split at rest
    · rename_i complete
      simpa using complete
    · exact absurd rest (by simp)
  unfold validateServiceResponse at validated
  split at validated
  · exact absurd validated (by simp)
  · rename_i command
    obtain ⟨_, _, validated⟩ := Python.bind_eq_ok.mp validated
    split at validated
    · exact absurd validated (by simp)
    · obtain ⟨_, _, validated⟩ := Python.bind_eq_ok.mp validated
      split at validated
      · exact absurd validated (by simp)
      · split at validated
        · exact absurd validated (by simp)
        · rename_i ok
          exact ⟨not_not.mp command, by simpa using ok, complete⟩

theorem active_of_session {native native' : Native} (same : native'.session = native.session)
    (active : native'.active = true) : native.active = true := by
  simpa [Native.active, same] using active

/-- What `Apply` leaves active is the session that it found or the one of the request. -/
theorem apply_active {native : Native} {callerSid : Option String} {answers : Answers}
    (active : (native.apply request callerSid answers).2.active = true) :
    (native.apply request callerSid answers).2.session = native.session ∨
      (native.apply request callerSid answers).2.session.sessionId = request.sessionId ∧
      (native.apply request callerSid answers).2.session.planDigest = request.planDigest := by
  revert active
  unfold Native.apply
  split
  · exact fun _ => .inl rfl
  · simp only [Native.applyOpen, Driver.openHandle]
    split
    · exact fun _ => .inl rfl
    · split
      · exact fun _ => .inl rfl
      · split
        · exact fun _ => .inl rfl
        · split
          · exact fun _ => .inr ⟨rfl, rfl⟩
          · intro active
            exact absurd active (by simp [Native.stopLocked, Native.active])

/-- A restore leaves the session as it found it, or inactive; and inactive if it reports the
resources verified. -/
theorem restoreForCaller_session (native : Native) (request : ServiceRequest)
    (callerSid : Option String) (closes : Closes) :
    ((native.restoreForCaller request callerSid closes).2.session = native.session ∨
      (native.restoreForCaller request callerSid closes).2.active = false) ∧
    ((native.restoreForCaller request callerSid closes).1.resourcesVerified = true →
      (native.restoreForCaller request callerSid closes).2.active = false) := by
  unfold Native.restoreForCaller
  split
  · rename_i inactive
    exact ⟨.inl rfl, fun _ => by simpa using inactive⟩
  · split
    · exact ⟨.inl rfl, by simp⟩
    · split
      · exact ⟨.inl rfl, by simp⟩
      · exact ⟨.inr rfl, fun _ => rfl⟩

/-- What a client leaves active is the session that was there or the one it asked for. -/
theorem handleClient_active {native : Native} {handling : Handling}
    (active : (handleClient native request handling).2.active = true) :
    (handleClient native request handling).2.session = native.session ∨
      request.command = .applyPlan ∧
      (handleClient native request handling).2.session.sessionId = request.sessionId ∧
      (handleClient native request handling).2.session.planDigest = request.planDigest := by
  revert active
  unfold handleClient
  split
  · exact fun _ => .inl rfl
  · split
    · exact fun _ => .inl rfl
    · rename_i callerSid _
      split
      · intro active
        rcases (restoreForCaller_session native request (some callerSid) handling.closes).1 with
          same | inactive
        · exact .inl same
        · exact absurd (inactive.symm.trans active) Bool.false_ne_true
      · rename_i command
        intro active
        have applied := @apply_active request native (some callerSid) handling.answers
        rcases outcome : native.apply request (some callerSid) handling.answers with
          ⟨result, after⟩
        rw [outcome] at applied
        simp only [outcome] at active ⊢
        cases result with
        | ok _ =>
            rcases applied active with same | ids
            · exact .inl same
            · exact .inr ⟨command, ids⟩
        | error _ =>
            rcases applied active with same | ids
            · exact .inl same
            · exact .inr ⟨command, ids⟩

/-- After a response that a restore accepts, the session is not active. -/
theorem handleClient_restored {native : Native} {handling : Handling}
    (confirmed : confirmsRestore library state (handleClient native request handling).1 =
      .ok ()) : (handleClient native request handling).2.active = false := by
  obtain ⟨command, ok, removed, remaining⟩ := confirmsRestore_eq_ok confirmed
  revert command ok removed
  unfold handleClient
  split
  · simp
  · split
    · simp [buildServiceResponse]
    · rename_i callerSid _
      split
      · have verified := (restoreForCaller_session native request (some callerSid) handling.closes).2
        intro _ ok removed
        rcases outcome : native.restoreForCaller request (some callerSid) handling.closes with
          ⟨restored, after⟩
        rw [outcome] at verified
        simp only [outcome] at ok removed ⊢
        refine verified ?_
        by_contra unverified
        simp [buildServiceResponse, unverified, sameResources, resourceIds, ownedResources]
          at removed
      · intro command
        split at command
        split at command
        · simp [buildServiceResponse] at command
        · simp [buildServiceResponse] at command

end ProxyLauncher.WinDivert
