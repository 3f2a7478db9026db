import ProxyLauncher.WinDivert.Session

/-!
# The routing session of the service

`RoutingSession` owns the two driver handles, the handle of the proxy process and the identity
of the session.  Each of its calls runs under the state mutex and is one action here.  What the
system answers to a call is an argument.
-/

namespace ProxyLauncher.WinDivert

open Transition

structure ApplicationSpec where
  ruleId : String
  applicationPathSha256 : String
  localProxyPort : UInt16
deriving DecidableEq

inductive ServiceCommand where
  | applyPlan
  | restore
deriving DecidableEq

structure ServiceRequest where
  command : ServiceCommand
  sessionId : String
  planDigest : String
  proxyPid : UInt32 := 0
  directListenerPort : UInt16 := 0
  applications : List ApplicationSpec := []
deriving DecidableEq

/-- The driver handles that were opened so far, and the results of `WinDivertClose`. -/
structure Driver where
  opened : Nat := 0
  closed : List Nat := []
  failed : List Nat := []
deriving DecidableEq

/-- The fields of `RoutingSession`.  An invalid handle and an empty SID are `none`. -/
structure RoutingSession where
  socketHandle : Option Nat := none
  networkHandle : Option Nat := none
  proxyProcess : Option UInt32 := none
  applicationHashes : List String := []
  callerSid : Option String := none
  sessionId : String := ""
  planDigest : String := ""
  proxyPort : UInt16 := 0
  directPort : UInt16 := 0
deriving DecidableEq

structure Native where
  session : RoutingSession := {}
  driver : Driver := {}
deriving DecidableEq

/-- The results of `WinDivertClose` for the two handles. -/
structure Closes where
  socket : Bool
  network : Bool
deriving DecidableEq

/-- What the system answers during `Apply`. -/
structure Answers where
  processOpened : Bool
  ownedByCaller : Bool
  mutexCreated : Bool
  mutexAcquired : Bool
  socketOpened : Bool
  networkOpened : Bool
  sidCopied : Bool
  threadsStarted : Bool
  closes : Closes
deriving DecidableEq

namespace Driver

/-- `WinDivertOpen`, when it succeeds. -/
def openHandle (driver : Driver) : Nat × Driver :=
  (driver.opened, { driver with opened := driver.opened + 1 })

/-- `WinDivertClose`. -/
def close (driver : Driver) (handle : Nat) (succeeds : Bool) : Driver :=
  if succeeds then { driver with closed := handle :: driver.closed }
  else { driver with failed := handle :: driver.failed }

/-- Closing a handle unless it is invalid, with what becomes of `ok`. -/
def closeValid (driver : Driver) (handle : Option Nat) (succeeds : Bool) : Bool × Driver :=
  match handle with
  | none => (true, driver)
  | some handle => (succeeds, driver.close handle succeeds)

end Driver

namespace Native

/-- The session has a driver handle or a proxy process. -/
def active (native : Native) : Bool :=
  native.session.socketHandle.isSome || native.session.networkHandle.isSome ||
    native.session.proxyProcess.isSome

structure Restored where
  ok : Bool
  resourcesVerified : Bool
  error : String
deriving DecidableEq

/-- `StopLocked`. -/
def stopLocked (native : Native) (closes : Closes) : Restored × Native :=
  let (socketOk, driver) := native.driver.closeValid native.session.socketHandle closes.socket
  let (networkOk, driver) := driver.closeValid native.session.networkHandle closes.network
  let ok := networkOk && socketOk
  ({ ok, resourcesVerified := ok,
     error := if ok then "" else "WinDivert handles did not close cleanly" },
   { session := {}, driver })

/-- `StoredSidEquals`; a SID that is not valid is `none`. -/
def storedSidEquals (stored candidate : Option String) : Bool :=
  stored.isSome && stored == candidate

/-- `RestoreForCaller`. -/
def restoreForCaller (native : Native) (request : ServiceRequest) (callerSid : Option String)
    (closes : Closes) : Restored × Native :=
  if !native.active then ({ ok := true, resourcesVerified := true, error := "" }, native)
  else if !storedSidEquals native.session.callerSid callerSid then
    ({ ok := false, resourcesVerified := false,
       error := "WinDivert restore caller does not own session" }, native)
  else if request.sessionId ≠ native.session.sessionId ∨
      request.planDigest ≠ native.session.planDigest then
    ({ ok := false, resourcesVerified := false,
       error := "WinDivert restore session does not match" }, native)
  else native.stopLocked closes

/-- `Restore`. -/
def restore (native : Native) (closes : Closes) : Restored × Native :=
  native.stopLocked closes

/-- The loop over the applications accepts them all. -/
def planValid (applications : List ApplicationSpec) (proxyPort : UInt16) : Bool :=
  applications.all fun application =>
    application.localProxyPort == proxyPort && application.applicationPathSha256.utf8ByteSize == 64

/-- What `Apply` checks before it opens the driver handles. -/
def applyChecks (native : Native) (request : ServiceRequest) (callerSid : Option String)
    (answers : Answers) : Except String UInt16 :=
  if native.active then .error "WinDivert routing session already active"
  else
    match request.applications with
    | [] => .error "WinDivert routing request is incomplete"
    | first :: _ =>
        if callerSid.isNone then .error "WinDivert routing request is incomplete"
        else if !answers.processOpened then .error "proxy process cannot be opened"
        else if !answers.ownedByCaller then .error "proxy process owner does not match caller"
        else if !planValid request.applications first.localProxyPort then
          .error "WinDivert application plan is invalid"
        else if !answers.mutexCreated then .error "WinDivert driver-open mutex failed"
        else if !answers.mutexAcquired then .error "WinDivert driver-open mutex timed out"
        else .ok first.localProxyPort

/-- `Apply` from the first `WinDivertOpen` on. -/
def applyOpen (native : Native) (request : ServiceRequest) (callerSid : Option String)
    (answers : Answers) (proxyPort : UInt16) : Except String Unit × Native :=
  if !answers.socketOpened then (.error "WinDivert socket-layer open failed", native)
  else
    let (socket, driver) := native.driver.openHandle
    if !answers.networkOpened then
      (.error "WinDivert network-layer open failed",
        { native with driver := driver.close socket answers.closes.socket })
    else
      let (network, driver) := driver.openHandle
      if !answers.sidCopied then
        (.error "caller SID could not be retained",
          { native with
            driver := (driver.close network answers.closes.network).close socket
              answers.closes.socket })
      else
        let applied : Native :=
          { session :=
              { socketHandle := some socket
                networkHandle := some network
                proxyProcess := some request.proxyPid
                applicationHashes := request.applications.map (·.applicationPathSha256)
                callerSid
                sessionId := request.sessionId
                planDigest := request.planDigest
                proxyPort
                directPort := request.directListenerPort }
            driver }
        if answers.threadsStarted then (.ok (), applied)
        else
          let (stopped, native) := applied.stopLocked answers.closes
          (.error (if stopped.error = "" then "WinDivert worker startup failed"
            else stopped.error), native)

/-- `Apply`. -/
def apply (native : Native) (request : ServiceRequest) (callerSid : Option String)
    (answers : Answers) : Except String Unit × Native :=
  match native.applyChecks request callerSid answers with
  | .error error => (.error error, native)
  | .ok proxyPort => native.applyOpen request callerSid answers proxyPort

end Native

end ProxyLauncher.WinDivert
