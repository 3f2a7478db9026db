import ProxyLauncher.WinDivert.Ownership
import ProxyLauncher.WinDivert.Restoration

/-!
# The ownership protocol

The journal, the controller of the launcher and the service take steps in any order.  The
service answers one client of its pipe after the other, and a client that has gone leaves its
request in the pipe.  Each party can stop anywhere, and replies can be lost.
-/

namespace ProxyLauncher.WinDivert

open Transition

/-- The only instance of the pipe: a client is connected from its request on. -/
inductive Pipe where
  | idle
  | requested (request : ServiceRequest)
  | replied (response : ServiceResponse)
deriving DecidableEq

/-- Where the launcher is in `activate` or `restore`. -/
inductive Controller where
  | idle
  | activating (activation : Activation) (state : RoutingOwnershipState)
  | applying (state : RoutingOwnershipState) (request : ServiceRequest)
  | awaitingApply (state : RoutingOwnershipState)
  | confirming
  | failing
  | restoring (state : RoutingOwnershipState)
  | requesting (state : RoutingOwnershipState) (request : ServiceRequest)
  | awaitingRestore (state : RoutingOwnershipState)
  | clearing
deriving DecidableEq

structure System where
  journal : Option RoutingOwnershipState := none
  native : Native := {}
  pipe : Pipe := .idle
  controller : Controller := .idle
deriving DecidableEq

inductive Move where
  | activate (activation : Activation) (sessionId now : String)
  | buildApply
  | connect
  | connectFails
  | receive
  | receiveFails
  | confirm
  | saveFails
  | fail
  | restore
  | buildRestore
  | clear
  | crash
  | serve (handling : Handling)
  | disconnect
  | proxyExited (closes : Closes)
  | serviceCrash

/-- What the service reports, and what `prepare` does. -/
inductive Notice where
  | prepared (state : RoutingOwnershipState)
  | restoreReported (sessionId planDigest : String)
deriving DecidableEq

namespace System

variable (library : ContractLibrary)

/-- A step of the launcher, of the pipe or of the service. -/
def next (system : System) (move : Move) : Option System :=
  match move, system.controller, system.pipe with
  | .activate activation sessionId now, .idle, _ =>
      -- What `uuid4` returns is its own text.
      if library.uuid sessionId = some sessionId then
        match RoutingOwnershipStore.prepare library system.journal "windows"
          activation.canonicalPlanJson ownedResources sessionId now with
        | .error _ => some system
        | .ok state =>
            some { system with journal := some state, controller := .activating activation state }
      else none
  | .buildApply, .activating activation state, _ =>
      -- The request is built outside the `try` block.
      match buildApplyRequest library activation state.sessionId state.planDigest with
      | .error _ => some { system with controller := .idle }
      | .ok request => some { system with controller := .applying state request }
  | .connect, .applying state request, .idle =>
      some { system with pipe := .requested request, controller := .awaitingApply state }
  | .connect, .requesting state request, .idle =>
      some { system with pipe := .requested request, controller := .awaitingRestore state }
  | .connectFails, .applying _ _, _ => some { system with controller := .failing }
  | .connectFails, .requesting _ _, _ => some { system with controller := .idle }
  | .receive, .awaitingApply state, .replied response =>
      match confirmsApply library state response with
      | .error _ => some { system with pipe := .idle, controller := .failing }
      | .ok () => some { system with pipe := .idle, controller := .confirming }
  | .receive, .awaitingRestore state, .replied response =>
      match confirmsRestore library state response with
      | .error _ => some { system with pipe := .idle, controller := .idle }
      | .ok () => some { system with pipe := .idle, controller := .clearing }
  | .receiveFails, .awaitingApply _, _ => some { system with controller := .failing }
  | .receiveFails, .awaitingRestore _, _ => some { system with controller := .idle }
  | .confirm, .confirming, _ =>
      match RoutingOwnershipStore.transition system.journal .applied with
      | .error _ => some { system with controller := .failing }
      | .ok state => some { system with journal := some state, controller := .idle }
  | .saveFails, .confirming, _ => some { system with controller := .failing }
  | .fail, .failing, _ =>
      match RoutingOwnershipStore.transition system.journal .restoring with
      | .error _ => some { system with controller := .idle }
      | .ok state => some { system with journal := some state, controller := .idle }
  | .restore, .idle, _ =>
      match beginRestore system.journal with
      | .error _ => some system
      | .ok state => some { system with journal := some state, controller := .restoring state }
  | .buildRestore, .restoring state, _ =>
      match buildRestoreRequest library state.sessionId state.planDigest with
      | .error _ => some { system with controller := .idle }
      | .ok request => some { system with controller := .requesting state request }
  | .clear, .clearing, _ =>
      match RoutingOwnershipStore.clearAfterVerifiedRestore system.journal true with
      | .error _ => some { system with controller := .idle }
      | .ok () => some { system with journal := none, controller := .idle }
  | .crash, _, _ => some { system with controller := .idle }
  | .serve handling, _, .requested request =>
      some { system with
        native := (handleClient system.native request handling).2
        pipe := .replied (handleClient system.native request handling).1 }
  | .disconnect, _, _ => some { system with pipe := .idle }
  | .proxyExited closes, _, .idle => some { system with native := (system.native.restore closes).2 }
  | .serviceCrash, _, _ =>
      some { system with native := { system.native with session := {} }, pipe := .idle }
  | _, _, _ => none

/-- What a step shows: a new journal, and the report of a complete restore. -/
def notice (system : System) (move : Move) : Option Notice :=
  match move, system.controller, system.pipe with
  | .activate activation sessionId now, .idle, _ =>
      (RoutingOwnershipStore.prepare library system.journal "windows"
        activation.canonicalPlanJson ownedResources sessionId now).toOption.map .prepared
  | .serve handling, _, .requested request =>
      let response := (handleClient system.native request handling).1
      if response.command = some .restore ∧ response.ok = true ∧
          response.remainingOwnedResources = [] then
        some (.restoreReported request.sessionId request.planDigest)
      else none
  | _, _, _ => none

def machine : Machine System Move Notice where
  initial system := system = {}
  next := next library
  event := notice library

variable {library : ContractLibrary} {system system' : System} {move : Move}
  {events : List Notice}

/-- The journal is there and has this session and plan. -/
def Owns (journal : Option RoutingOwnershipState) (sessionId planDigest : String) : Prop :=
  ∃ state, journal = some state ∧ state.sessionId = sessionId ∧ state.planDigest = planDigest

/-- Since the journal was prepared, the service has reported its session restored. -/
def Reported (state : RoutingOwnershipState) (events : List Notice) : Prop :=
  ∃ before after, events = before ++ .restoreReported state.sessionId state.planDigest :: after ∧
    ∀ other, .prepared other ∉ after

/-- What the launcher relies on at each place. -/
def Relies (library : ContractLibrary) (events : List Notice) (system : System) :
    Controller → Prop
  | .idle | .confirming | .failing => True
  | .activating _ state => system.journal = some state
  | .applying state request => system.journal = some state ∧ state.Requests .applyPlan request
  | .awaitingApply _ => True
  | .restoring state => system.journal = some state
  | .requesting state request => system.journal = some state ∧ state.Requests .restore request
  | .awaitingRestore state => system.journal = some state ∧
      (∀ request, system.pipe = .requested request → state.Requests .restore request) ∧
      ∀ response, system.pipe = .replied response →
        confirmsRestore library state response = .ok () →
        system.native.active = false ∧ Reported state events
  | .clearing => system.native.active = false ∧ system.pipe = .idle ∧
      ∀ state, system.journal = some state → Reported state events

/-- An active session, and a request for one that is on its way, have the journal. -/
structure Owned (library : ContractLibrary) (events : List Notice) (system : System) : Prop where
  valid : ∀ state, system.journal = some state → state.Valid library
  active : system.native.active = true →
    Owns system.journal system.native.session.sessionId system.native.session.planDigest
  requested : ∀ request, system.pipe = .requested request → request.command = .applyPlan →
    Owns system.journal request.sessionId request.planDigest
  relies : Relies library events system system.controller

/-- A change of the phase leaves what the journal owns. -/
theorem Owns.transition {state : RoutingOwnershipState} {sessionId planDigest : String}
    (owns : Owns system.journal sessionId planDigest) (present : system.journal = some state)
    (target : Phase) :
    Owns (some { state with phase := target }) sessionId planDigest := by
  obtain ⟨saved, there, session, digest⟩ := owns
  obtain rfl : saved = state := Option.some.inj (there.symm.trans present)
  exact ⟨_, rfl, session, digest⟩

theorem owned_start : Owned library [] {} where
  valid _ present := absurd present.symm (Option.some_ne_none _)
  active activity := by simp [Native.active] at activity
  requested _ pending := absurd pending (by simp)
  relies := trivial

/-- The launcher goes to a place that relies on nothing, and the rest stays. -/
theorem Owned.goto (owned : Owned library events system) {controller : Controller}
    (relies : Relies library events { system with controller } controller) :
    Owned library events { system with controller } :=
  ⟨owned.valid, owned.active, owned.requested, relies⟩

/-- A new phase of the journal. -/
theorem Owned.rephase (owned : Owned library events system) {state : RoutingOwnershipState}
    (present : system.journal = some state) (target : Phase) {controller : Controller}
    (relies : Relies library events
      { system with journal := some { state with phase := target }, controller } controller) :
    Owned library events
      { system with journal := some { state with phase := target }, controller } where
  valid _ there := by
    obtain rfl := Option.some.inj there
    exact owned.valid state present
  active activity := (owned.active activity).transition present target
  requested request pending command :=
    (owned.requested request pending command).transition present target
  relies := relies

theorem Owned.prepare (owned : Owned library events system) (missing : system.journal = none)
    {state : RoutingOwnershipState} (valid : state.Valid library) (activation : Activation) :
    Owned library (events ++ [.prepared state])
      { system with journal := some state, controller := .activating activation state } where
  valid _ there := by
    obtain rfl := Option.some.inj there
    exact valid
  active activity := by
    obtain ⟨saved, there, -⟩ := owned.active activity
    exact absurd (missing.symm.trans there).symm (Option.some_ne_none _)
  requested request pending command := by
    obtain ⟨saved, there, -⟩ := owned.requested request pending command
    exact absurd (missing.symm.trans there).symm (Option.some_ne_none _)
  relies := rfl

theorem Owned.clear (inactive : system.native.active = false) (quiet : system.pipe = .idle) :
    Owned library events { system with journal := none, controller := .idle } where
  valid _ there := absurd there.symm (Option.some_ne_none _)
  active activity := absurd (inactive.symm.trans activity) Bool.false_ne_true
  requested request pending _ := absurd (quiet.symm.trans pending) (by simp)
  relies := trivial

/-- The pipe is free again, and the service has the session that it had, or none. -/
theorem Owned.idle (owned : Owned library events system) {native : Native}
    (unchanged : native.session = system.native.session ∨ native.active = false) :
    Owned library events { system with native, pipe := .idle } where
  valid := owned.valid
  active activity := by
    rcases unchanged with same | inactive
    · have owns := owned.active (active_of_session same activity)
      rw [← same] at owns
      exact owns
    · exact absurd (inactive.symm.trans activity) Bool.false_ne_true
  requested request pending _ := absurd pending (by simp)
  relies := by
    have relies := owned.relies
    cases place : system.controller with
    | idle => trivial
    | confirming => trivial
    | failing => trivial
    | awaitingApply state => trivial
    | activating activation state =>
        rw [place] at relies
        exact relies
    | applying state request =>
        rw [place] at relies
        exact relies
    | restoring state =>
        rw [place] at relies
        exact relies
    | requesting state request =>
        rw [place] at relies
        exact relies
    | awaitingRestore state =>
        rw [place] at relies
        exact ⟨relies.1, by simp, by simp⟩
    | clearing =>
        rw [place] at relies
        refine ⟨?_, rfl, relies.2.2⟩
        rcases unchanged with same | inactive
        · by_contra active
          have activity := active_of_session same (Bool.not_eq_false _ ▸ active)
          exact absurd (relies.1.symm.trans activity) Bool.false_ne_true
        · exact inactive

/-- The service answers the request in the pipe. -/
theorem Owned.serve (owned : Owned library events system) {request : ServiceRequest}
    (pending : system.pipe = .requested request) (handling : Handling) {seen : Option Notice}
    (reports : ∀ state, state.Requests .restore request →
      confirmsRestore library state (handleClient system.native request handling).1 = .ok () →
      seen = some (.restoreReported state.sessionId state.planDigest)) :
    Owned library (events ++ seen.toList)
      { system with
        native := (handleClient system.native request handling).2
        pipe := .replied (handleClient system.native request handling).1 } where
  valid := owned.valid
  active activity := by
    rcases handleClient_active activity with same | ⟨command, session, digest⟩
    · have owns := owned.active (active_of_session same activity)
      rw [← same] at owns
      exact owns
    · have owns := owned.requested request pending command
      rw [← session, ← digest] at owns
      exact owns
  requested _ impossible _ := absurd impossible (by simp)
  relies := by
    have relies := owned.relies
    cases place : system.controller with
    | idle => trivial
    | confirming => trivial
    | failing => trivial
    | awaitingApply state => trivial
    | activating activation state =>
        rw [place] at relies
        exact relies
    | applying state request =>
        rw [place] at relies
        exact relies
    | restoring state =>
        rw [place] at relies
        exact relies
    | requesting state request =>
        rw [place] at relies
        exact relies
    | awaitingRestore state =>
        rw [place] at relies
        obtain ⟨present, own, -⟩ := relies
        refine ⟨present, by simp, ?_⟩
        intro response reply confirmed
        obtain rfl := Pipe.replied.inj reply
        refine ⟨handleClient_restored confirmed, events, [], ?_, by simp⟩
        rw [reports state (own request pending) confirmed, Option.toList_some]
    | clearing =>
        rw [place] at relies
        exact absurd (relies.2.1.symm.trans pending) (by simp)

theorem Owned.silent (owned : Owned library events system')
    (quiet : notice library system move = none) :
    Owned library (events ++ (notice library system move).toList) system' := by
  rw [quiet, Option.toList_none, List.append_nil]
  exact owned

theorem Owned.activate (owned : Owned library events system) {activation : Activation}
    {sessionId now : String} (place : system.controller = .idle)
    (own : library.uuid sessionId = some sessionId)
    (next : next library system (.activate activation sessionId now) = some system') :
    Owned library (events ++ (notice library system (.activate activation sessionId now)).toList)
      system' := by
  simp only [System.next, notice, place, own, if_true] at next ⊢
  cases outcome : RoutingOwnershipStore.prepare library system.journal "windows"
      activation.canonicalPlanJson ownedResources sessionId now with
  | error _ =>
      simp only [outcome] at next
      obtain rfl := Option.some.inj next
      simpa [Except.toOption] using owned
  | ok state =>
      simp only [outcome] at next
      obtain rfl := Option.some.inj next
      obtain ⟨missing, session, digest, -⟩ := RoutingOwnershipStore.prepare_eq_ok outcome
      have valid : state.Valid library :=
        ⟨by rw [session, own], by rw [digest]; exact library.hexdigest_digest _⟩
      exact owned.prepare missing valid activation

theorem Owned.handle (owned : Owned library events system) {request : ServiceRequest}
    {handling : Handling} (pending : system.pipe = .requested request)
    (next : next library system (.serve handling) = some system') :
    Owned library (events ++ (notice library system (.serve handling)).toList) system' := by
  simp only [System.next, pending] at next
  obtain rfl := Option.some.inj next
  refine owned.serve pending handling ?_
  intro state own confirmed
  obtain ⟨command, ok, -, remaining⟩ := confirmsRestore_eq_ok confirmed
  simp [notice, pending, command, ok, remaining, own.2.1, own.2.2]

theorem Owned.step (owned : Owned library events system)
    (next : next library system move = some system') :
    Owned library (events ++ (notice library system move).toList) system' := by
  have relies := owned.relies
  have taken := next
  unfold System.next at next
  split at next
  case h_1 place =>
      split at next
      · exact owned.activate place ‹_› taken
      · exact absurd next.symm (Option.some_ne_none _)
  case h_2 activation state place =>
      rw [place] at relies
      refine Owned.silent ?_ rfl
      split at next
      · obtain rfl := Option.some.inj next
        exact owned.goto trivial
      · rename_i request built
        obtain rfl := Option.some.inj next
        exact owned.goto ⟨relies, buildApplyRequest_eq_ok (owned.valid state relies) built⟩
  case h_3 state request place quiet =>
      rw [place] at relies
      obtain rfl := Option.some.inj next
      refine Owned.silent ⟨owned.valid, owned.active, ?_, trivial⟩ rfl
      rintro _ ⟨⟩ -
      exact ⟨state, relies.1, relies.2.2.1.symm, relies.2.2.2.symm⟩
  case h_4 state request place quiet =>
      rw [place] at relies
      obtain rfl := Option.some.inj next
      refine Owned.silent ⟨owned.valid, owned.active, ?_, relies.1, ?_, by simp⟩ rfl
      · rintro _ ⟨⟩ command
        exact absurd (relies.2.1.symm.trans command) (by simp)
      · rintro _ ⟨⟩
        exact relies.2
  case h_5 =>
      obtain rfl := Option.some.inj next
      exact Owned.silent (owned.goto trivial) rfl
  case h_6 =>
      obtain rfl := Option.some.inj next
      exact Owned.silent (owned.goto trivial) rfl
  case h_7 state response place reply =>
      have idle := owned.idle (.inl rfl)
      refine Owned.silent ?_ rfl
      split at next
      · obtain rfl := Option.some.inj next
        exact idle.goto trivial
      · obtain rfl := Option.some.inj next
        exact idle.goto trivial
  case h_8 state response place reply =>
      rw [place] at relies
      have idle := owned.idle (.inl rfl)
      refine Owned.silent ?_ rfl
      split at next
      · obtain rfl := Option.some.inj next
        exact idle.goto trivial
      · rename_i confirmed
        obtain rfl := Option.some.inj next
        obtain ⟨inactive, reported⟩ := relies.2.2 response reply confirmed
        refine idle.goto ⟨inactive, rfl, ?_⟩
        intro other present
        obtain rfl : state = other := Option.some.inj (relies.1.symm.trans present)
        exact reported
  case h_9 =>
      obtain rfl := Option.some.inj next
      exact Owned.silent (owned.goto trivial) rfl
  case h_10 =>
      obtain rfl := Option.some.inj next
      exact Owned.silent (owned.goto trivial) rfl
  case h_11 =>
      refine Owned.silent ?_ rfl
      split at next
      · obtain rfl := Option.some.inj next
        exact owned.goto trivial
      · rename_i moved
        obtain rfl := Option.some.inj next
        obtain ⟨state, present, rfl, -⟩ := RoutingOwnershipStore.transition_eq_ok moved
        exact owned.rephase present .applied trivial
  case h_12 =>
      obtain rfl := Option.some.inj next
      exact Owned.silent (owned.goto trivial) rfl
  case h_13 =>
      refine Owned.silent ?_ rfl
      split at next
      · obtain rfl := Option.some.inj next
        exact owned.goto trivial
      · rename_i moved
        obtain rfl := Option.some.inj next
        obtain ⟨state, present, rfl, -⟩ := RoutingOwnershipStore.transition_eq_ok moved
        exact owned.rephase present .restoring trivial
  case h_14 =>
      refine Owned.silent ?_ rfl
      split at next
      · obtain rfl := Option.some.inj next
        exact owned
      · rename_i begun
        obtain rfl := Option.some.inj next
        obtain ⟨state, present, rfl⟩ := beginRestore_eq_ok begun
        exact owned.rephase present .restoring rfl
  case h_15 state place =>
      rw [place] at relies
      refine Owned.silent ?_ rfl
      split at next
      · obtain rfl := Option.some.inj next
        exact owned.goto trivial
      · rename_i built
        obtain rfl := Option.some.inj next
        exact owned.goto ⟨relies, buildRestoreRequest_eq_ok (owned.valid state relies) built⟩
  case h_16 place =>
      rw [place] at relies
      refine Owned.silent ?_ rfl
      split at next
      · obtain rfl := Option.some.inj next
        exact owned.goto trivial
      · obtain rfl := Option.some.inj next
        exact Owned.clear relies.1 relies.2.1
  case h_17 =>
      obtain rfl := Option.some.inj next
      exact Owned.silent (owned.goto trivial) rfl
  case h_18 handling request pending => exact owned.handle pending taken
  case h_19 =>
      obtain rfl := Option.some.inj next
      exact Owned.silent (owned.idle (.inl rfl)) rfl
  case h_20 closes quiet =>
      obtain rfl := Option.some.inj next
      have stopped : (system.native.restore closes).2.active = false := rfl
      have idle := owned.idle (.inr stopped)
      rw [← quiet] at idle
      exact Owned.silent idle rfl
  case h_21 =>
      obtain rfl := Option.some.inj next
      exact Owned.silent (owned.idle (.inr rfl)) rfl
  case h_22 => exact absurd next.symm (Option.some_ne_none _)

theorem owned_of_reaches (reaches : (machine library).Reaches Machine.Always events system) :
    Owned library events system := by
  refine reaches.invariant ?_ ?_
  · rintro _ rfl
    exact owned_start
  · intro events system move system' owned _ next
    exact owned.step next

/-- The journal of a session after a step: the session stays and the phase does not go back, or
the journal is removed at the end of a restore. -/
theorem next_journal {state : RoutingOwnershipState}
    (next : next library system move = some system') (present : system.journal = some state) :
    (∃ phase, state.phase.rank ≤ phase.rank ∧
      system'.journal = some { state with phase }) ∨
    state.phase = .restoring ∧ system'.journal = none ∧ system.controller = .clearing := by
  have stays (same : system'.journal = system.journal) :
      ∃ phase, state.phase.rank ≤ phase.rank ∧ system'.journal = some { state with phase } :=
    ⟨state.phase, le_rfl, same.trans present⟩
  have moves {target : Phase} {moved : RoutingOwnershipState}
      (done : RoutingOwnershipStore.transition system.journal target = .ok moved)
      (saved : system'.journal = some moved) :
      ∃ phase, state.phase.rank ≤ phase.rank ∧ system'.journal = some { state with phase } := by
    obtain ⟨found, there, rfl, permitted⟩ := RoutingOwnershipStore.transition_eq_ok done
    obtain rfl : found = state := Option.some.inj (there.symm.trans present)
    exact ⟨target, RoutingOwnershipStore.rank_le_of_allowed permitted, saved⟩
  unfold System.next at next
  split at next
  case h_1 =>
      split at next
      · split at next
        · obtain rfl := Option.some.inj next
          exact .inl (stays rfl)
        · rename_i prepared
          have missing := (RoutingOwnershipStore.prepare_eq_ok prepared).1
          exact absurd (missing.symm.trans present).symm (Option.some_ne_none _)
      · exact absurd next.symm (Option.some_ne_none _)
  case h_11 =>
      split at next
      · obtain rfl := Option.some.inj next
        exact .inl (stays rfl)
      · rename_i done
        obtain rfl := Option.some.inj next
        exact .inl (moves done rfl)
  case h_13 =>
      split at next
      · obtain rfl := Option.some.inj next
        exact .inl (stays rfl)
      · rename_i done
        obtain rfl := Option.some.inj next
        exact .inl (moves done rfl)
  case h_14 =>
      split at next
      · obtain rfl := Option.some.inj next
        exact .inl (stays rfl)
      · rename_i begun
        obtain rfl := Option.some.inj next
        obtain ⟨found, there, rfl⟩ := beginRestore_eq_ok begun
        obtain rfl : found = state := Option.some.inj (there.symm.trans present)
        refine .inl ⟨.restoring, ?_, rfl⟩
        cases found.phase <;> decide
  case h_16 place =>
      split at next
      · obtain rfl := Option.some.inj next
        exact .inl (stays rfl)
      · rename_i cleared
        obtain rfl := Option.some.inj next
        obtain ⟨found, there, -, restoring⟩ := RoutingOwnershipStore.clear_eq_ok cleared
        obtain rfl : found = state := Option.some.inj (there.symm.trans present)
        exact .inr ⟨restoring, rfl, place⟩
  case h_22 => exact absurd next.symm (Option.some_ne_none _)
  all_goals
    first
    | obtain rfl := Option.some.inj next
      exact .inl (stays rfl)
    | split at next <;>
      · obtain rfl := Option.some.inj next
        exact .inl (stays rfl)

theorem not_prepared {state : RoutingOwnershipState} (present : system.journal = some state)
    (new : RoutingOwnershipState) : notice library system move ≠ some (.prepared new) := by
  unfold notice
  split
  case h_1 activation sessionId now place =>
    cases outcome : RoutingOwnershipStore.prepare library system.journal "windows"
        activation.canonicalPlanJson ownedResources sessionId now with
    | error _ => simp [Except.toOption]
    | ok prepared =>
        have missing := (RoutingOwnershipStore.prepare_eq_ok outcome).1
        exact absurd (missing.symm.trans present).symm (Option.some_ne_none _)
  case h_2 =>
    dsimp only
    split <;> simp
  case h_3 => simp

/-- In every order of steps, replies that are lost and parties that stop: an active session has
the journal with its session and plan.  While there is a journal, none is prepared, and the
journal keeps its session, does not go back in the phases, and is removed only after the service
has reported the session restored. -/
theorem ownership_protocol (library : ContractLibrary) {events : List Notice} {system : System}
    (reaches : (machine library).Reaches Machine.Always events system) :
    (system.native.active = true →
      Owns system.journal system.native.session.sessionId system.native.session.planDigest) ∧
    ∀ state move system', system.journal = some state →
      next library system move = some system' →
      (∀ new, notice library system move ≠ some (.prepared new)) ∧
      ((∃ phase, state.phase.rank ≤ phase.rank ∧
          system'.journal = some { state with phase }) ∨
        state.phase = .restoring ∧ system'.journal = none ∧ Reported state events) := by
  have owned := owned_of_reaches reaches
  refine ⟨owned.active, ?_⟩
  intro state move system' present next
  constructor
  · exact fun new => not_prepared present new
  · rcases next_journal next present with moved | ⟨restoring, removed, clearing⟩
    · exact .inl moved
    · have relies := owned.relies
      rw [clearing] at relies
      exact .inr ⟨restoring, removed, relies.2.2 state present⟩

def sampleLibrary : ContractLibrary where
  uuid text := if text = "6f1c" then some text else none
  hexdigest _ := String.ofList (List.replicate 64 'a')
  lower text := .ofList (text.toList.map Char.toLower)
  hexdigest_digest _ := by simp [isDigest]
  lower_digest text digest := by
    have fixed : ∀ char ∈ text.toList, char.toLower = char := by
      intro char member
      have hex : ∀ char ∈ "0123456789abcdef".toList, char.toLower = char := by simp
      simp only [isDigest, Bool.and_eq_true, List.all_eq_true, List.contains_iff_mem] at digest
      exact hex char (digest.2 char member)
    rw [List.map_congr_left fixed]
    simp

def sampleActivation : Activation where
  canonicalPlanJson := "plan"
  applications := Lifecycle.sampleRequest.applications
  proxyPid := 42
  directListenerPort := 9090

def sampleHandling : Handling where
  parsed := true
  callerSid := .ok "user"
  answers := Lifecycle.sampleAnswers
  closes := ⟨true, true⟩

def sampleMoves : List Move :=
  [.activate sampleActivation "6f1c" "now", .buildApply, .connect, .serve sampleHandling]

/-- While the session that a launcher asked for is active, its journal is there. -/
theorem ownership_protocol_sample : ∃ system : System, system.native.active = true ∧
    Owns system.journal system.native.session.sessionId
      system.native.session.planDigest := by
  have executed : (((machine sampleLibrary).exec Machine.Always sampleMoves [] {}).map
      fun outcome => outcome.2.native.active) = some true := by decide
  obtain ⟨⟨events, system⟩, found, active⟩ := Option.map_eq_some_iff.mp executed
  have reaches : (machine sampleLibrary).Reaches Machine.Always events system :=
    (Machine.Reaches.start rfl).exec found
  exact ⟨system, active, (ownership_protocol sampleLibrary reaches).1 active⟩

end System

end ProxyLauncher.WinDivert
