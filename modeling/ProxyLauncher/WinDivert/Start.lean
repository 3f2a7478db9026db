import ProxyLauncher.WinDivert.Protocol

/-!
# A second start

The start command restores what an earlier launcher left behind, and only then looks whether a
worker is running.  The journal and the session of a running worker look the same as those that
were left behind.
-/

namespace ProxyLauncher.WinDivert

/-- What the restore of another process can see and change. -/
structure Routing where
  journal : Option RoutingOwnershipState
  native : Native
deriving DecidableEq

/-- What becomes of a request to the service: the pipe cannot be opened, the reply is lost, or
it is received. -/
inductive Exchange where
  | unreachable
  | lost (handling : Handling)
  | answered (handling : Handling)

/-- What happens during a restore.  `saved` tells whether the journal can be written. -/
structure Attempt where
  saved : Bool
  exchange : Exchange

/-- `client.request`. -/
def Exchange.request (exchange : Exchange) (native : Native) (request : ServiceRequest) :
    Except String ServiceResponse × Native :=
  match exchange with
  | .unreachable => (.error "WinDivert routing service is unavailable", native)
  | .lost handling =>
      (.error "WinDivert routing service returned a short frame",
        (handleClient native request handling).2)
  | .answered handling =>
      (.ok (handleClient native request handling).1, (handleClient native request handling).2)

variable (library : ContractLibrary)

/-- The rest of `WindowsWinDivertController.restore`, from the building of the request on. -/
def Routing.request (routing : Routing) (state : RoutingOwnershipState) (exchange : Exchange) :
    Except String Unit × Routing :=
  match buildRestoreRequest library state.sessionId state.planDigest with
  | .error error => (.error error, routing)
  | .ok request =>
      let (reply, native) := exchange.request routing.native request
      match reply with
      | .error error => (.error error, { routing with native })
      | .ok response =>
          match confirmsRestore library state response with
          | .error error => (.error error, { routing with native })
          | .ok () =>
              match RoutingOwnershipStore.clearAfterVerifiedRestore routing.journal true with
              | .error error => (.error error, { routing with native })
              | .ok () => (.ok (), { journal := none, native })

/-- `WindowsWinDivertController.restore`. -/
def Routing.restore (routing : Routing) (attempt : Attempt) : Except String Unit × Routing :=
  match beginRestore routing.journal with
  | .error error => (.error error, routing)
  | .ok state =>
      -- A journal that is already restoring is not written again.
      if routing.journal = some state then routing.request library state attempt.exchange
      else if attempt.saved then
        { routing with journal := some state }.request library state attempt.exchange
      else (.error "routing ownership state cannot be saved", routing)

/-- `_restore_windows_application_routing` on Windows. -/
def restoreWindowsApplicationRouting (routing : Routing) (attempt : Attempt) : Bool × Routing :=
  if routing.journal.isNone then (true, routing)
  else ((routing.restore library attempt).1.toBool, (routing.restore library attempt).2)

/-- What `_cmd_start` finds: the settings, the exclusions, the capability of the backend,
whether a worker is running, and whether the system proxy can be enabled. -/
structure Start (ι : Type) where
  configured : Bool
  exclusions : Except String (List ι)
  liveEnforcement : Bool
  running : Bool
  systemProxyEnabled : Bool
  attempt : Attempt

structure Outcome where
  code : Nat
  printed : Option String := none
deriving DecidableEq

/-- `_cmd_start` on Windows.  `startWorker` is its part after a worker was found missing. -/
def cmdStart {ι : Type} (startWorker : List ι → Routing → Outcome × Routing) (start : Start ι)
    (routing : Routing) : Outcome × Routing :=
  if !start.configured then (⟨2, some "upstream proxy is not configured"⟩, routing)
  else
    match start.exclusions with
    | .error _ => (⟨1, some "application exclusions state is invalid"⟩, routing)
    | .ok exclusions =>
        let (restored, routing) :=
          restoreWindowsApplicationRouting library routing start.attempt
        if !restored then
          (⟨1, some "previous Windows application routing could not be restored"⟩, routing)
        else if !exclusions.isEmpty && !start.liveEnforcement then
          (⟨1, some "Windows application exclusions are not live-enabled"⟩, routing)
        else if start.running then
          (⟨if start.systemProxyEnabled then 0 else 1, none⟩, routing)
        else startWorker exclusions routing

variable {library} {routing : Routing} {state : RoutingOwnershipState} {request : ServiceRequest}
  {handling : Handling} {exchange : Exchange} {attempt : Attempt}

/-- A worker is running with a session that is active and has the journal. -/
structure Running (library : ContractLibrary) (routing : Routing) (state : RoutingOwnershipState) :
    Prop where
  journal : routing.journal = some state
  valid : state.Valid library
  platform : state.platform = "windows"
  resources : state.resources ≠ []
  active : routing.native.active = true
  callerSid : routing.native.session.callerSid.isSome = true
  sessionId : routing.native.session.sessionId = state.sessionId
  planDigest : routing.native.session.planDigest = state.planDigest

/-- The service calls the session for its own caller. -/
def Handling.Reaches (handling : Handling) (native : Native) : Prop :=
  handling.parsed = true ∧ ∃ callerSid, handling.callerSid = .ok callerSid ∧
    native.session.callerSid = some callerSid

/-- The request of a restore reaches the session. -/
def Exchange.Reaches (native : Native) : Exchange → Prop
  | .unreachable => False
  | .lost handling => handling.Reaches native
  | .answered handling => handling.Reaches native

/-- The restore leaves everything as it is: the journal is not restoring and cannot be saved, or
it is restoring and the request does not reach the session. -/
def Attempt.Quiet (attempt : Attempt) (native : Native) (state : RoutingOwnershipState) : Prop :=
  (state.phase ≠ .restoring ∧ attempt.saved = false) ∨
    (state.phase = .restoring ∧ ¬ attempt.exchange.Reaches native)

theorem Running.buildRestoreRequest (running : Running library routing state) :
    ∃ request, buildRestoreRequest library state.sessionId state.planDigest = .ok request ∧
      state.Requests .restore request := by
  refine ⟨⟨.restore, state.sessionId, state.planDigest, 0, 0, []⟩, ?_, rfl, rfl, rfl⟩
  rw [ProxyLauncher.WinDivert.buildRestoreRequest, running.valid.sessionId,
    running.valid.planDigest]
  rfl

theorem session_ne_empty {native : Native} (active : native.active = true) :
    native.session ≠ {} := by
  intro empty
  simp [Native.active, empty] at active

/-- A restore that reaches the session stops it. -/
theorem handleClient_of_reaches (running : Running library routing state)
    (own : state.Requests .restore request) (reaches : handling.Reaches routing.native) :
    (handleClient routing.native request handling).2.session = {} := by
  obtain ⟨parsed, callerSid, asked, stored⟩ := reaches
  obtain ⟨command, session, digest⟩ := own
  simp [handleClient, parsed, asked, command, Native.restoreForCaller, running.active,
    Native.storedSidEquals, stored, session, digest, running.sessionId, running.planDigest,
    Native.stopLocked]

/-- A restore that does not reach the session leaves it. -/
theorem handleClient_of_not_reaches (running : Running library routing state)
    (own : state.Requests .restore request) (misses : ¬ handling.Reaches routing.native) :
    (handleClient routing.native request handling).2 = routing.native := by
  unfold handleClient
  split
  · rfl
  · rename_i parsed
    split
    · rfl
    · rename_i callerSid asked
      rw [own.1]
      have foreign : Native.storedSidEquals routing.native.session.callerSid
          (some callerSid) = false := by
        by_contra equal
        simp only [Native.storedSidEquals, Bool.not_eq_false, Bool.and_eq_true, beq_iff_eq]
          at equal
        exact misses ⟨by simpa using parsed, callerSid, asked, equal.2⟩
      simp [Native.restoreForCaller, running.active, foreign]

/-- The journal and the session of the worker are as they were. -/
def Routing.Undisturbed (routing routing' : Routing) : Prop :=
  routing'.journal = routing.journal ∧ routing'.native.session = routing.native.session

theorem Exchange.session_iff (running : Running library routing state)
    (own : state.Requests .restore request) :
    (exchange.request routing.native request).2.session = routing.native.session ↔
      ¬ exchange.Reaches routing.native := by
  have stopped {handling : Handling} (reaches : handling.Reaches routing.native) :
      (handleClient routing.native request handling).2.session ≠ routing.native.session := by
    rw [handleClient_of_reaches running own reaches]
    exact (session_ne_empty running.active).symm
  have left {handling : Handling} (misses : ¬ handling.Reaches routing.native) :
      (handleClient routing.native request handling).2.session = routing.native.session := by
    rw [handleClient_of_not_reaches running own misses]
  cases exchange with
  | unreachable => exact iff_of_true rfl id
  | lost handling =>
      by_cases reaches : handling.Reaches routing.native
      · exact iff_of_false (stopped reaches) (not_not_intro reaches)
      · exact iff_of_true (left reaches) reaches
  | answered handling =>
      by_cases reaches : handling.Reaches routing.native
      · exact iff_of_false (stopped reaches) (not_not_intro reaches)
      · exact iff_of_true (left reaches) reaches

/-- A request leaves the journal, or the service has confirmed the restore and it is removed. -/
theorem Routing.request_cases (built : buildRestoreRequest library state.sessionId
    state.planDigest = .ok request) :
    (routing.request library state exchange).2.native =
        (exchange.request routing.native request).2 ∧
      ((routing.request library state exchange).2.journal = routing.journal ∨
        (routing.request library state exchange).2.journal = none ∧
          (exchange.request routing.native request).2.active = false) := by
  simp only [Routing.request, built]
  cases exchange with
  | unreachable => exact ⟨rfl, .inl rfl⟩
  | lost handling => exact ⟨rfl, .inl rfl⟩
  | answered handling =>
      simp only [Exchange.request]
      cases confirmed : confirmsRestore library state
          (handleClient routing.native request handling).1 with
      | error _ => exact ⟨rfl, .inl rfl⟩
      | ok _ =>
          have inactive := handleClient_restored confirmed
          cases RoutingOwnershipStore.clearAfterVerifiedRestore routing.journal true with
          | error _ => exact ⟨rfl, .inl rfl⟩
          | ok _ => exact ⟨rfl, .inr ⟨rfl, inactive⟩⟩

theorem Routing.request_undisturbed_iff (running : Running library routing state) :
    routing.Undisturbed (routing.request library state exchange).2 ↔
      ¬ exchange.Reaches routing.native := by
  obtain ⟨request, built, own⟩ := running.buildRestoreRequest
  obtain ⟨native, journal⟩ := @Routing.request_cases _ routing _ _ _ built
  rw [Routing.Undisturbed, native, Exchange.session_iff running own]
  refine ⟨And.right, fun misses => ⟨?_, misses⟩⟩
  rcases journal with same | ⟨removed, inactive⟩
  · exact same
  · have same := (Exchange.session_iff running own).mpr misses
    have active := active_of_session same.symm running.active
    exact absurd (inactive.symm.trans active) Bool.false_ne_true

theorem Running.beginRestore (running : Running library routing state) :
    beginRestore routing.journal = .ok { state with phase := .restoring } := by
  have loaded : RoutingOwnershipStore.load routing.journal = .ok state := by
    simp [RoutingOwnershipStore.load, running.journal, running.valid.2, running.resources]
  rw [ProxyLauncher.WinDivert.beginRestore, loaded]
  by_cases restoring : state.phase = .restoring
  · have same : { state with phase := .restoring } = state := by rw [← restoring]
    rw [same]
    simp [bind, Except.bind, running.platform, restoring]
  · have allowed : RoutingOwnershipStore.allowedTransition state.phase .restoring = true := by
      cases phase : state.phase with
      | prepared => rfl
      | applied => rfl
      | restoring => exact absurd phase restoring
    have moved : RoutingOwnershipStore.transition routing.journal .restoring =
        .ok { state with phase := .restoring } := by
      rw [RoutingOwnershipStore.transition, loaded]
      simp [bind, Except.bind, allowed]
    simp [bind, Except.bind, running.platform, restoring, moved]

theorem Routing.restore_undisturbed_iff (running : Running library routing state) :
    routing.Undisturbed (routing.restore library attempt).2 ↔
      attempt.Quiet routing.native state := by
  rw [Routing.restore, running.beginRestore, running.journal]
  by_cases restoring : state.phase = .restoring
  · have same : { state with phase := .restoring } = state := by rw [← restoring]
    simp only [same, if_true]
    rw [Routing.request_undisturbed_iff running]
    simp [Attempt.Quiet, restoring]
  · have changed : state ≠ { state with phase := .restoring } := by
      intro same
      exact restoring (congrArg RoutingOwnershipState.phase same)
    dsimp only
    rw [if_neg (by simpa using changed)]
    by_cases saved : attempt.saved = true
    · rw [if_pos saved]
      refine iff_of_false ?_ (by simp [Attempt.Quiet, restoring, saved])
      rintro ⟨journal, -⟩
      obtain ⟨request, built, own⟩ := running.buildRestoreRequest
      rw [running.journal] at journal
      have cases := (@Routing.request_cases library
        { routing with journal := some { state with phase := .restoring } }
        { state with phase := .restoring } request attempt.exchange built).2
      rcases cases with kept | ⟨removed, -⟩
      · exact changed (Option.some.inj (journal.symm.trans kept))
      · exact absurd (removed.symm.trans journal).symm (Option.some_ne_none _)
    · rw [if_neg saved]
      exact iff_of_true ⟨rfl, rfl⟩ (.inl ⟨restoring, by simpa using saved⟩)

theorem cmdStart_undisturbed_iff {ι : Type}
    (startWorker : List ι → Routing → Outcome × Routing) (start : Start ι)
    (worker : start.running = true) {exclusions : List ι} (configured : start.configured = true)
    (loaded : start.exclusions = .ok exclusions) :
    (cmdStart library startWorker start routing).2 =
      (restoreWindowsApplicationRouting library routing start.attempt).2 := by
  simp only [cmdStart, configured, loaded]
  rcases restoreWindowsApplicationRouting library routing start.attempt with ⟨restored, after⟩
  cases restored with
  | false => rfl
  | true =>
      simp only [worker, Bool.not_true, Bool.false_eq_true, if_false, if_true]
      split <;> rfl

/-- While a worker is running with its session active, another start leaves its journal, the
phase and the session as they were exactly if it is refused before the restore, or the restore
cannot do anything. -/
theorem second_start_iff (library : ContractLibrary) {ι : Type}
    (startWorker : List ι → Routing → Outcome × Routing) (start : Start ι) {routing : Routing}
    {state : RoutingOwnershipState} (running : Running library routing state)
    (worker : start.running = true) :
    routing.Undisturbed (cmdStart library startWorker start routing).2 ↔
      start.configured = false ∨ (∃ error, start.exclusions = .error error) ∨
        start.attempt.Quiet routing.native state := by
  cases configured : start.configured with
  | false => exact iff_of_true (by simp [cmdStart, configured, Routing.Undisturbed]) (.inl rfl)
  | true =>
      cases loaded : start.exclusions with
      | error error =>
          exact iff_of_true (by simp [cmdStart, configured, loaded, Routing.Undisturbed])
            (.inr (.inl ⟨error, rfl⟩))
      | ok exclusions =>
          rw [cmdStart_undisturbed_iff startWorker start worker configured loaded]
          have restore : (restoreWindowsApplicationRouting library routing start.attempt).2 =
              (routing.restore library start.attempt).2 := by
            simp [restoreWindowsApplicationRouting, running.journal]
          rw [restore, Routing.restore_undisturbed_iff running]
          simp

def sampleState : RoutingOwnershipState where
  sessionId := "6f1c"
  platform := "windows"
  planDigest := "0123456789abcdef0123456789abcdef0123456789abcdef0123456789abcdef"
  phase := .applied
  resources := ownedResources
  createdAtUtc := "now"

/-- A worker is running with this journal and session. -/
def sampleRouting : Routing where
  journal := some sampleState
  native :=
    { session :=
        { socketHandle := some 0
          networkHandle := some 1
          proxyProcess := some 42
          applicationHashes := [sampleState.planDigest]
          callerSid := some "user"
          sessionId := sampleState.sessionId
          planDigest := sampleState.planDigest
          proxyPort := 8080
          directPort := 9090 }
      driver := { opened := 2 } }

def sampleStart : Start Unit where
  configured := true
  exclusions := .ok []
  liveEnforcement := true
  running := true
  systemProxyEnabled := true
  attempt := ⟨true, .answered System.sampleHandling⟩

theorem sampleRouting_running : Running System.sampleLibrary sampleRouting sampleState where
  journal := rfl
  valid := ⟨by decide, by decide⟩
  platform := rfl
  resources := by decide
  active := rfl
  callerSid := rfl
  sessionId := rfl
  planDigest := rfl

theorem second_start_iff_sample :
    sampleRouting.Undisturbed
        (cmdStart System.sampleLibrary (fun _ routing => (⟨0, none⟩, routing)) sampleStart
          sampleRouting).2 ↔
      sampleStart.configured = false ∨ (∃ error, sampleStart.exclusions = .error error) ∨
        sampleStart.attempt.Quiet sampleRouting.native sampleState :=
  second_start_iff System.sampleLibrary _ sampleStart sampleRouting_running rfl

/-- A second start, without exclusions of its own, removes the journal of the worker that is
running and stops its session. -/
theorem second_start_fails :
    Running System.sampleLibrary sampleRouting sampleState ∧ sampleStart.running = true ∧
    (cmdStart System.sampleLibrary (fun _ routing => (⟨0, none⟩, routing)) sampleStart
      sampleRouting).2.journal = none ∧
    (cmdStart System.sampleLibrary (fun _ routing => (⟨0, none⟩, routing)) sampleStart
      sampleRouting).2.native.active = false := by
  refine ⟨sampleRouting_running, rfl, ?_, ?_⟩
  · decide
  · decide

end ProxyLauncher.WinDivert
