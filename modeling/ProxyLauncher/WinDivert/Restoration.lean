import ProxyLauncher.WinDivert.Service

/-!
# The report of a restore

A restore reports that the resources are verified.  After a close that failed the session
forgets its handles, and the next restore finds it inactive and reports the same.
-/

namespace ProxyLauncher.WinDivert

open Transition

/-- The session with the handles of the session that was applied last. -/
structure Lifecycle where
  native : Native := {}
  lastApplied : Option (Nat × Nat) := none
deriving DecidableEq

inductive Call where
  | apply (request : ServiceRequest) (callerSid : Option String) (answers : Answers)
  | restoreForCaller (request : ServiceRequest) (callerSid : Option String) (closes : Closes)
  | restore (closes : Closes)
deriving DecidableEq

namespace Lifecycle

variable {state state' : Lifecycle} {handle socket network : Nat}

/-- The handles that `Apply` leaves in the session. -/
def handles (native : Native) : Option (Nat × Nat) :=
  native.session.socketHandle.bind fun socket =>
    native.session.networkHandle.map fun network => (socket, network)

def call (state : Lifecycle) : Call → Lifecycle
  | .apply request callerSid answers =>
      let (result, native) := state.native.apply request callerSid answers
      { native, lastApplied := if result.isOk then handles native else state.lastApplied }
  | .restoreForCaller request callerSid closes =>
      { state with native := (state.native.restoreForCaller request callerSid closes).2 }
  | .restore closes => { state with native := (state.native.restore closes).2 }

/-- What the caller of `RestoreForCaller` is told. -/
def report (state : Lifecycle) : Call → Option Native.Restored
  | .restoreForCaller request callerSid closes =>
      some (state.native.restoreForCaller request callerSid closes).1
  | _ => none

def machine : Machine Lifecycle Call Native.Restored where
  initial state := state = {}
  next state action := some (state.call action)
  event := report

/-- `WinDivertClose` was called for the handle once. -/
def Settled (driver : Driver) (handle : Nat) : Prop :=
  handle ∈ driver.closed ↔ handle ∉ driver.failed

/-- `WinDivertClose` was not called for the handle. -/
def Untouched (driver : Driver) (handle : Nat) : Prop :=
  handle < driver.opened ∧ handle ∉ driver.closed ∧ handle ∉ driver.failed

def Bounded (driver : Driver) : Prop :=
  ∀ handle, handle ∈ driver.closed ∨ handle ∈ driver.failed → handle < driver.opened

/-- An active session has the handles that were applied last, and they have not been closed;
otherwise the handles that were applied last have been through `WinDivertClose`. -/
structure Accounted (state : Lifecycle) : Prop where
  bounded : Bounded state.native.driver
  current : state.native.active = true → ∃ socket network,
    state.lastApplied = some (socket, network) ∧ socket ≠ network ∧
    state.native.session.socketHandle = some socket ∧
    state.native.session.networkHandle = some network ∧
    Untouched state.native.driver socket ∧ Untouched state.native.driver network
  stopped : state.native.active = false → ∀ socket network,
    state.lastApplied = some (socket, network) →
    Settled state.native.driver socket ∧ Settled state.native.driver network

theorem Settled.lt_opened {driver : Driver} (bounded : Bounded driver)
    (settled : Settled driver handle) : handle < driver.opened := by
  by_cases failed : handle ∈ driver.failed
  · exact bounded handle (.inr failed)
  · exact bounded handle (.inl (settled.mpr failed))

theorem Untouched.settled_close {driver : Driver} (untouched : Untouched driver handle)
    (succeeds : Bool) : Settled (driver.close handle succeeds) handle := by
  obtain ⟨-, notClosed, notFailed⟩ := untouched
  cases succeeds <;> simp [Settled, Driver.close, notClosed, notFailed]

theorem Settled.close_of_ne {driver : Driver} (settled : Settled driver handle) {other : Nat}
    (different : handle ≠ other) (succeeds : Bool) :
    Settled (driver.close other succeeds) handle := by
  cases succeeds <;> simpa [Settled, Driver.close, different] using settled

theorem Untouched.close_of_ne {driver : Driver} (untouched : Untouched driver handle)
    {other : Nat} (different : handle ≠ other) (succeeds : Bool) :
    Untouched (driver.close other succeeds) handle := by
  cases succeeds <;> simpa [Untouched, Driver.close, different] using untouched

theorem Bounded.close {driver : Driver} (bounded : Bounded driver)
    (opened : handle < driver.opened) (succeeds : Bool) :
    Bounded (driver.close handle succeeds) := by
  intro other touched
  cases succeeds <;> simp only [Driver.close, Bool.false_eq_true, if_true, if_false,
    List.mem_cons] at touched ⊢
  · rcases touched with closed | rfl | failed
    · exact bounded other (.inl closed)
    · exact opened
    · exact bounded other (.inr failed)
  · rcases touched with (rfl | closed) | failed
    · exact opened
    · exact bounded other (.inl closed)
    · exact bounded other (.inr failed)

theorem Bounded.openHandle {driver : Driver} (bounded : Bounded driver) :
    Bounded driver.openHandle.2 := by
  intro other touched
  exact (bounded other touched).trans (Nat.lt_succ_self _)

theorem Bounded.untouched_opened {driver : Driver} (bounded : Bounded driver) :
    Untouched driver.openHandle.2 driver.openHandle.1 := by
  refine ⟨Nat.lt_succ_self _, ?_, ?_⟩
  · intro closed
    exact absurd (bounded _ (.inl closed)) (Nat.lt_irrefl _)
  · intro failed
    exact absurd (bounded _ (.inr failed)) (Nat.lt_irrefl _)

theorem inactive_handles {native : Native} (inactive : native.active = false) :
    native.session.socketHandle = none ∧ native.session.networkHandle = none := by
  simp only [Native.active, Bool.or_eq_false_iff, Option.isSome_eq_false_iff,
    Option.isNone_iff_eq_none] at inactive
  exact inactive.1

@[simp] theorem stopLocked_inactive (native : Native) (closes : Closes) :
    (native.stopLocked closes).2.active = false := rfl

/-- Stopping an active session closes both of its handles. -/
theorem stopLocked_driver {native : Native} (closes : Closes)
    (socketHandle : native.session.socketHandle = some socket)
    (networkHandle : native.session.networkHandle = some network) :
    native.stopLocked closes =
      (⟨closes.network && closes.socket, closes.network && closes.socket,
          if closes.network && closes.socket then ""
          else "WinDivert handles did not close cleanly"⟩,
        { session := {}, driver := (native.driver.close socket closes.socket).close network
            closes.network }) := by
  simp [Native.stopLocked, Driver.closeValid, socketHandle, networkHandle]

theorem stopLocked_of_inactive {native : Native} (closes : Closes)
    (inactive : native.active = false) :
    native.stopLocked closes = (⟨true, true, ""⟩, { session := {}, driver := native.driver }) := by
  obtain ⟨socketHandle, networkHandle⟩ := inactive_handles inactive
  simp [Native.stopLocked, Driver.closeValid, socketHandle, networkHandle]

theorem Accounted.stop (accounted : Accounted state) (closes : Closes) :
    Accounted { state with native := (state.native.stopLocked closes).2 } := by
  cases activity : state.native.active with
  | false =>
      rw [stopLocked_of_inactive closes activity]
      exact ⟨accounted.bounded, by simp [Native.active], fun _ => accounted.stopped activity⟩
  | true =>
      obtain ⟨socket, network, last, different, socketHandle, networkHandle, socketUntouched,
        networkUntouched⟩ := accounted.current activity
      rw [stopLocked_driver closes socketHandle networkHandle]
      refine ⟨?_, by simp [Native.active], ?_⟩
      · refine (accounted.bounded.close socketUntouched.1 _).close ?_ _
        exact (networkUntouched.close_of_ne different.symm closes.socket).1
      · intro _ socket' network' last'
        obtain ⟨rfl, rfl⟩ : socket = socket' ∧ network = network' := by
          simpa [last] using last'
        constructor
        · exact (socketUntouched.settled_close _).close_of_ne different _
        · exact (networkUntouched.close_of_ne different.symm _).settled_close _

theorem inactive_of_applyChecks {native : Native} {request : ServiceRequest}
    {callerSid : Option String} {answers : Answers} {proxyPort : UInt16}
    (passed : native.applyChecks request callerSid answers = .ok proxyPort) :
    native.active = false := by
  unfold Native.applyChecks at passed
  split at passed
  · exact absurd passed (by simp)
  · rename_i inactive
    exact Bool.not_eq_true _ ▸ inactive

/-- An inactive session with handles opened meanwhile that were closed again. -/
theorem Accounted.of_inactive (accounted : Accounted state) {native : Native}
    (before : state.native.active = false) (inactive : native.active = false)
    (bounded : Bounded native.driver)
    (settled : ∀ handle, Settled state.native.driver handle → Settled native.driver handle) :
    Accounted { state with native } := by
  refine ⟨bounded, ?_, ?_⟩
  · intro activity
    exact absurd (inactive.symm.trans activity) Bool.false_ne_true
  · intro _ socket network last
    obtain ⟨first, second⟩ := accounted.stopped before socket network last
    exact ⟨settled _ first, settled _ second⟩

theorem Accounted.applied {native : Native} (bounded : Bounded native.driver)
    (socketHandle : native.session.socketHandle = some socket)
    (networkHandle : native.session.networkHandle = some network) (different : socket ≠ network)
    (socketUntouched : Untouched native.driver socket)
    (networkUntouched : Untouched native.driver network) :
    Accounted { native, lastApplied := handles native } := by
  refine ⟨bounded, ?_, ?_⟩
  · intro _
    exact ⟨socket, network, by simp [handles, socketHandle, networkHandle], different,
      socketHandle, networkHandle, socketUntouched, networkUntouched⟩
  · intro inactive
    exact absurd (inactive_handles inactive).1 (by simp [socketHandle])

theorem Accounted.applyOpen (accounted : Accounted state) (inactive : state.native.active = false)
    (request : ServiceRequest) (callerSid : Option String) (answers : Answers)
    (proxyPort : UInt16) :
    Accounted
      { native := (state.native.applyOpen request callerSid answers proxyPort).2
        lastApplied :=
          if (state.native.applyOpen request callerSid answers proxyPort).1.isOk then
            handles (state.native.applyOpen request callerSid answers proxyPort).2
          else state.lastApplied } := by
  have bounded := accounted.bounded
  have opened : Bounded state.native.driver.openHandle.2 := bounded.openHandle
  have socket := bounded.untouched_opened
  have network := opened.untouched_opened
  have different : state.native.driver.openHandle.1 ≠
      state.native.driver.openHandle.2.openHandle.1 := Nat.ne_of_lt (Nat.lt_succ_self _)
  have socket' : Untouched state.native.driver.openHandle.2.openHandle.2
      state.native.driver.openHandle.1 :=
    ⟨Nat.lt_succ_of_lt socket.1, socket.2⟩
  have old (handle : Nat) (settled : Settled state.native.driver handle) :
      Settled state.native.driver.openHandle.2.openHandle.2 handle ∧
        handle ≠ state.native.driver.openHandle.1 ∧
        handle ≠ state.native.driver.openHandle.2.openHandle.1 := by
    have earlier := settled.lt_opened bounded
    exact ⟨settled, Nat.ne_of_lt earlier, Nat.ne_of_lt (Nat.lt_succ_of_lt earlier)⟩
  unfold Native.applyOpen
  by_cases socketOpened : answers.socketOpened = true
  · by_cases networkOpened : answers.networkOpened = true
    · by_cases sidCopied : answers.sidCopied = true
      · by_cases threadsStarted : answers.threadsStarted = true
        · simp only [socketOpened, networkOpened, sidCopied, threadsStarted]
          exact Accounted.applied opened.openHandle rfl rfl different socket' network
        · simp only [socketOpened, networkOpened, sidCopied, threadsStarted]
          refine accounted.of_inactive inactive rfl ?_ ?_
          · exact (opened.openHandle.close socket'.1 _).close
              (network.close_of_ne different.symm answers.closes.socket).1 _
          · intro handle settled
            exact ((old handle settled).1.close_of_ne (old handle settled).2.1 _).close_of_ne
              (old handle settled).2.2 _
      · simp only [socketOpened, networkOpened, sidCopied]
        refine accounted.of_inactive inactive inactive ?_ ?_
        · exact (opened.openHandle.close network.1 _).close
            (socket'.close_of_ne different answers.closes.network).1 _
        · intro handle settled
          exact ((old handle settled).1.close_of_ne (old handle settled).2.2 _).close_of_ne
            (old handle settled).2.1 _
    · simp only [socketOpened, networkOpened]
      refine accounted.of_inactive inactive inactive ?_ ?_
      · exact opened.close socket.1 _
      · intro handle settled
        have once : Settled state.native.driver.openHandle.2 handle := settled
        exact once.close_of_ne (old handle settled).2.1 _
  · simp only [socketOpened]
    exact accounted

theorem Accounted.apply (accounted : Accounted state) (request : ServiceRequest)
    (callerSid : Option String) (answers : Answers) :
    Accounted (state.call (.apply request callerSid answers)) := by
  cases checks : state.native.applyChecks request callerSid answers with
  | error error =>
      have refused : state.native.apply request callerSid answers =
          (.error error, state.native) := by simp only [Native.apply, checks]
      simp only [Lifecycle.call, refused]
      exact accounted
  | ok proxyPort =>
      have opening : state.native.apply request callerSid answers =
          state.native.applyOpen request callerSid answers proxyPort := by
        simp only [Native.apply, checks]
      simp only [Lifecycle.call, opening]
      exact accounted.applyOpen (inactive_of_applyChecks checks) request callerSid answers
        proxyPort

theorem Accounted.restoreForCaller (accounted : Accounted state) (request : ServiceRequest)
    (callerSid : Option String) (closes : Closes) :
    Accounted { state with native := (state.native.restoreForCaller request callerSid closes).2 }
    := by
  unfold Native.restoreForCaller
  split
  · exact accounted
  · split
    · exact accounted
    · split
      · exact accounted
      · exact accounted.stop closes

theorem Accounted.call (accounted : Accounted state) (action : Call) :
    Accounted (state.call action) := by
  cases action with
  | apply request callerSid answers => exact accounted.apply request callerSid answers
  | restoreForCaller request callerSid closes =>
      exact accounted.restoreForCaller request callerSid closes
  | restore closes => exact accounted.stop closes

theorem accounted_of_reaches {events : List Native.Restored}
    (reaches : machine.Reaches Machine.Always events state) : Accounted state := by
  induction reaches with
  | start initial =>
      obtain rfl := initial
      exact ⟨by simp [Bounded], by simp [Native.active], by simp⟩
  | step action _ _ next ih =>
      obtain rfl := Option.some.inj next
      exact ih.call action

/-- Both handles of the session that was applied last have been closed. -/
def Closed (state : Lifecycle) : Prop :=
  ∀ socket network, state.lastApplied = some (socket, network) →
    socket ∈ state.native.driver.closed ∧ network ∈ state.native.driver.closed

/-- Neither handle of the session that was applied last failed to close. -/
def Unfailed (state : Lifecycle) : Prop :=
  ∀ socket network, state.lastApplied = some (socket, network) →
    socket ∉ state.native.driver.failed ∧ network ∉ state.native.driver.failed

/-- In every run, a restore that reports its resources verified has left both handles of the
session that was applied last closed exactly if neither of them had failed to close before. -/
theorem restore_verified_iff {events : List Native.Restored}
    (reaches : machine.Reaches Machine.Always events state) (request : ServiceRequest)
    (callerSid : Option String) (closes : Closes) (restored : Native.Restored)
    (reported : state.report (.restoreForCaller request callerSid closes) = some restored)
    (verified : restored.resourcesVerified = true) :
    Closed (state.call (.restoreForCaller request callerSid closes)) ↔ Unfailed state := by
  obtain rfl := Option.some.inj reported
  have accounted := accounted_of_reaches reaches
  cases activity : state.native.active with
  | false =>
      have unchanged : state.call (.restoreForCaller request callerSid closes) = state := by
        simp [Lifecycle.call, Native.restoreForCaller, activity]
      rw [unchanged]
      constructor
      · intro closed socket network last
        obtain ⟨first, second⟩ := accounted.stopped activity socket network last
        exact ⟨first.mp (closed socket network last).1, second.mp (closed socket network last).2⟩
      · intro unfailed socket network last
        obtain ⟨first, second⟩ := accounted.stopped activity socket network last
        exact ⟨first.mpr (unfailed socket network last).1,
          second.mpr (unfailed socket network last).2⟩
  | true =>
      obtain ⟨socket, network, last, different, socketHandle, networkHandle, socketUntouched,
        networkUntouched⟩ := accounted.current activity
      have stopped : state.native.restoreForCaller request callerSid closes =
          state.native.stopLocked closes := by
        revert verified
        unfold Native.restoreForCaller
        split
        · rename_i inactive
          simp [activity] at inactive
        · split
          · simp
          · split
            · simp
            · simp
      rw [stopped, stopLocked_driver closes socketHandle networkHandle] at verified
      obtain ⟨networkClosed, socketClosed⟩ : closes.network = true ∧ closes.socket = true := by
        simpa using verified
      refine iff_of_true ?_ ?_
      · intro socket' network' last'
        obtain ⟨rfl, rfl⟩ : socket = socket' ∧ network = network' := by
          simpa [Lifecycle.call, last] using last'
        simp [Lifecycle.call, stopped, stopLocked_driver closes socketHandle networkHandle,
          Driver.close, networkClosed, socketClosed]
      · intro socket' network' last'
        obtain ⟨rfl, rfl⟩ : socket = socket' ∧ network = network' := by simpa [last] using last'
        exact ⟨socketUntouched.2.2, networkUntouched.2.2⟩

def sampleRequest : ServiceRequest where
  command := .applyPlan
  sessionId := "session"
  planDigest := "digest"
  proxyPid := 42
  directListenerPort := 9090
  applications := [⟨"rule",
    "0123456789abcdef0123456789abcdef0123456789abcdef0123456789abcdef", 8080⟩]

def sampleAnswers : Answers where
  processOpened := true
  ownedByCaller := true
  mutexCreated := true
  mutexAcquired := true
  socketOpened := true
  networkOpened := true
  sidCopied := true
  threadsStarted := true
  closes := ⟨true, true⟩

def sampleApply : Call := .apply sampleRequest (some "user") sampleAnswers

def sampleApplied : Lifecycle := Lifecycle.call {} sampleApply

theorem sampleApplied_reaches : machine.Reaches Machine.Always [] sampleApplied :=
  .step sampleApply (.start rfl) trivial rfl

theorem restore_verified_iff_sample :
    Closed (sampleApplied.call (.restoreForCaller sampleRequest (some "user") ⟨true, true⟩)) ↔
      Unfailed sampleApplied :=
  restore_verified_iff sampleApplied_reaches sampleRequest (some "user") ⟨true, true⟩
    ⟨true, true, ""⟩ (by decide) rfl

/-- The network handle does not close, and the restore is repeated: it reports the resources
verified. -/
theorem restore_verified_fails : ∃ events state, machine.Reaches Machine.Always events state ∧
    state.report (.restoreForCaller sampleRequest (some "user") ⟨true, true⟩) =
      some ⟨true, true, ""⟩ ∧
    ¬ Closed (state.call (.restoreForCaller sampleRequest (some "user") ⟨true, true⟩)) := by
  refine ⟨_, sampleApplied.call (.restoreForCaller sampleRequest (some "user") ⟨true, false⟩),
    .step (Call.restoreForCaller sampleRequest (some "user") ⟨true, false⟩) sampleApplied_reaches
      trivial rfl, by decide, ?_⟩
  intro closed
  have network := (closed 0 1 (by decide)).2
  exact absurd network (by decide)

end Lifecycle

end ProxyLauncher.WinDivert
