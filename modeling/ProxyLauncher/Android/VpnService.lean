import ProxyLauncher.Transition.Machine

/-!
# The service of the tunnel

The service runs in a process of its own.  Commands and posted messages run on its main thread one
at a time.  The threads that probe a proxy, run an engine and watch the health of a proxy, the
network and the system do their parts in between.  Every message carries the generation of its
session.  The states that are shown to the user are left out.
-/

namespace ProxyLauncher.Android.Tunnel

open Transition

/-- `PreparedProxy`, as far as a session depends on it. -/
structure PreparedProxy where
  autoSelection : Bool
deriving DecidableEq

/-- `ProxyVpnService`.  Threads and tunnels are numbers; `interfaces` are the tunnels that were
established and have not been closed. -/
structure Service where
  tunFd : Option ℕ := none
  worker : Option ℕ := none
  preflightWorker : Option ℕ := none
  monitorWorker : Option ℕ := none
  activePrepared : Option PreparedProxy := none
  networkCallback : Bool := false
  underlyingNetwork : Option ℕ := none
  sessionGeneration : ℕ := 0
  stopping : Bool := false
  failoverHandoff : Bool := false
  interfaces : List ℕ := []
deriving DecidableEq

/-- A thread, with the service that started it and the generation that it captured. -/
structure Thread where
  service : ℕ
  generation : ℕ
  thread : ℕ
deriving DecidableEq

/-- What is posted to the main thread. -/
inductive Message where
  | continueStartAfterPreflight (service generation : ℕ) (prepared : PreparedProxy)
  | failStartForSession (service generation : ℕ)
  | confirm (service generation thread : ℕ) (prepared : PreparedProxy)
  | requestAutoHandoff (service generation : ℕ)
  | reconcilePhysicalNetwork (service : ℕ)
  | killProcess
deriving DecidableEq

/-- The process of the service, and the flag that outlives it.  `exits` are the messages that the
threads of engines are about to post. -/
structure World where
  restartPending : Bool
  services : ℕ → Service := fun _ => {}
  created : ℕ := 0
  current : Option ℕ := none
  messages : List Message := []
  exits : List Message := []
  preflights : List Thread := []
  engines : List Thread := []
  monitors : List Thread := []
  alive : List ℕ := []
  fresh : ℕ := 0

/-- The action of an intent. -/
inductive Command where
  | connect
  | disconnect
  | reconcile
  | other
deriving DecidableEq

/-- What the system answers while a message runs. -/
structure Answer where
  established : Bool := true
  network : Option ℕ := none
  registered : Bool := true
deriving DecidableEq

inductive Action where
  | command (command : Command)
  | restart
  | revoke
  | destroy
  | preflight (thread : Thread) (prepared : Option PreparedProxy)
  | engineExit (thread : Thread)
  | engineReports (message : Message)
  | monitorReports (thread : Thread)
  | networkChanged (service : ℕ)
  | message (message : Message) (answer : Answer)
  | ends (thread : ℕ)
  | die
deriving DecidableEq

/-- A command is observed with whether the process was about to kill itself, and that kill with
whether it will be restarted. -/
inductive Event where
  | commanded (command : Command) (dying : Bool)
  | engineStarted
  | startFailed
  | revoked
  | exited
  | killed (restartPending : Bool)
deriving DecidableEq

namespace Service

variable (service : Service)

/-- The fields that `stopAutoMonitor` clears. -/
def withoutMonitor : Service :=
  { service with monitorWorker := none, networkCallback := false, underlyingNetwork := none }

/-- `tunFd?.close(); tunFd = null; worker = null`. -/
def closed : Service :=
  { service with
    interfaces := service.interfaces.filter fun tun => service.tunFd ≠ some tun
    tunFd := none
    worker := none }

/-- A session ends: what its callbacks captured is out of date. -/
def ended : Service :=
  { service with
    stopping := true
    sessionGeneration := service.sessionGeneration + 1
    preflightWorker := none }

end Service

namespace World

variable (world : World) (service generation : ℕ)

def modify (change : Service → Service) : World :=
  { world with services := Function.update world.services service (change (world.services service)) }

def post (message : Message) : World :=
  { world with messages := world.messages ++ [message] }

/-- The thread of an engine is about to post the message. -/
def announce (message : Message) : World :=
  { world with exits := world.exits ++ [message] }

/-- What is posted or about to be posted. -/
def pending : List Message :=
  world.messages ++ world.exits

/-- `thread?.isAlive == true`. -/
def isAlive (thread : Option ℕ) : Bool :=
  thread.any fun thread => thread ∈ world.alive

/-- The process that is left when it has been killed: its flag, on disk. -/
def killed : World :=
  { restartPending := world.restartPending, fresh := world.fresh }

/-- `stopAutoMonitor`. -/
def stopAutoMonitor : World :=
  { world.modify service Service.withoutMonitor with
    messages := world.messages.filter fun message =>
      message ≠ .reconcilePhysicalNetwork service }

/-- `terminateVpnProcess`. -/
def terminateVpnProcess : World :=
  world.post .killProcess

/-- `startTunnel`. -/
def startTunnel : World :=
  let found := world.services service
  if world.isAlive found.worker || world.isAlive found.preflightWorker || found.tunFd.isSome then
    world
  else
    let generation := found.sessionGeneration + 1
    { world.modify service fun found =>
        { found with
          stopping := false
          failoverHandoff := false
          activePrepared := none
          sessionGeneration := generation
          preflightWorker := some world.fresh } with
      preflights := ⟨service, generation, world.fresh⟩ :: world.preflights
      alive := world.fresh :: world.alive
      fresh := world.fresh + 1 }

/-- `failStart`. -/
def failStart : World :=
  { world with restartPending := false }.terminateVpnProcess

/-- `failStartForSession`. -/
def failStartForSession : World × Option Event :=
  let found := world.services service
  if generation ≠ found.sessionGeneration ∨ found.stopping = true then (world, none)
  else ((world.modify service fun found => { found with preflightWorker := none }).failStart,
    some .startFailed)

/-- `continueStartAfterPreflight`.  Nothing else changes the generation on the main thread, so its
later tests of the generation have the result of the first. -/
def continueStartAfterPreflight (prepared : PreparedProxy) (established : Bool) :
    World × Option Event :=
  let found := world.services service
  if generation ≠ found.sessionGeneration ∨ found.stopping = true then (world, none)
  else
    let ready := world.modify service fun found => { found with preflightWorker := none }
    if established = false then ready.failStartForSession service generation
    else
      let tun := world.fresh
      let thread := world.fresh + 1
      ({ ready.modify service fun found =>
          { found with
            tunFd := some tun
            worker := some thread
            interfaces := tun :: found.interfaces } with
        messages := world.messages ++ [.confirm service generation thread prepared]
        engines := ⟨service, generation, thread⟩ :: world.engines
        alive := thread :: world.alive
        fresh := world.fresh + 2 }, some .engineStarted)

/-- `registerNetworkCallback`. -/
def registerNetworkCallback (answer : Answer) : World :=
  if (world.services service).networkCallback = true then world
  else world.modify service fun found =>
    { found with
      underlyingNetwork := answer.network <|> found.underlyingNetwork
      networkCallback := answer.registered }

/-- `startAutoMonitor`. -/
def startAutoMonitor (answer : Answer) : World :=
  let ready := (world.stopAutoMonitor service).registerNetworkCallback service answer
  { ready.modify service fun found => { found with monitorWorker := some world.fresh } with
    monitors := ⟨service, generation, world.fresh⟩ :: world.monitors
    fresh := world.fresh + 1 }

/-- The delayed confirmation of a connection, and `completeConnectedSession`. -/
def confirm (thread : ℕ) (prepared : PreparedProxy) (answer : Answer) : World :=
  let found := world.services service
  if generation = found.sessionGeneration ∧ found.worker = some thread ∧
      thread ∈ world.alive ∧ found.stopping = false then
    let ready := world.modify service fun found => { found with activePrepared := some prepared }
    if prepared.autoSelection = true then ready.startAutoMonitor service generation answer
    else ready.registerNetworkCallback service answer
  else world

/-- What the two requests for a handoff do once they proceed. -/
def handOff : World :=
  let ready := (world.modify service fun found =>
    { found.ended with failoverHandoff := true, activePrepared := none }).stopAutoMonitor service
  { ready.modify service Service.closed with restartPending := true }.terminateVpnProcess

/-- `requestNetworkHandoff`. -/
def requestNetworkHandoff : World :=
  let found := world.services service
  if generation ≠ found.sessionGeneration ∨ found.stopping = true ∨
      found.failoverHandoff = true ∨ world.isAlive found.worker = false then world
  else world.handOff service

/-- `requestAutoHandoff`. -/
def requestAutoHandoff : World :=
  let found := world.services service
  if generation ≠ found.sessionGeneration ∨ found.stopping = true ∨
      found.failoverHandoff = true then world
  else world.handOff service

/-- `reconcilePhysicalNetwork`, with the network that `selectPhysicalNetwork` selects. -/
def reconcilePhysicalNetwork (network : Option ℕ) : World :=
  let found := world.services service
  if found.stopping = true ∨ found.failoverHandoff = true then world
  else match network with
    | none => world
    | some next =>
        let noted := world.modify service fun found => { found with underlyingNetwork := some next }
        match found.underlyingNetwork with
        | none => noted
        | some previous =>
            if previous = next then world
            else if noted.isAlive found.worker then
              noted.requestNetworkHandoff service found.sessionGeneration
            else noted

/-- `schedulePhysicalNetworkReconcile`. -/
def schedulePhysicalNetworkReconcile : World :=
  { world with
    messages := (world.messages.filter fun message =>
      message ≠ .reconcilePhysicalNetwork service) ++ [.reconcilePhysicalNetwork service] }

/-- The synchronized part of `onEngineExit`.  Its thread posts what follows from it later, and the
main thread may run in between. -/
def onEngineExit (thread : Thread) : World × Option Event :=
  let found := world.services thread.service
  if thread.generation = found.sessionGeneration ∧ found.worker = some thread.thread then
    let done := world.modify thread.service Service.closed
    if found.stopping = true then (done, none)
    else if found.activePrepared.any PreparedProxy.autoSelection then
      (done.announce (.requestAutoHandoff thread.service thread.generation), none)
    else (done.announce .killProcess, some .exited)
  else (world, none)

/-- `stopTunnel`. -/
def stopTunnel : World :=
  let ready := { world with restartPending := false }.stopAutoMonitor service
  (ready.modify service fun found =>
    { found.ended.closed with activePrepared := none }).terminateVpnProcess

/-- `onDestroy`. -/
def onDestroy : World :=
  let ready := world.stopAutoMonitor service
  { ready.modify service fun found =>
      if found.stopping = true then found else found.ended.closed with
    current := none }

/-- `TunnelServiceReconcilePolicy.decide` answers `START_TUNNEL`. -/
def decidesToStart : Bool :=
  let found := world.services service
  !(found.stopping || found.failoverHandoff) &&
    !(world.isAlive found.worker && found.activePrepared.isSome) &&
    !(world.isAlive found.worker || world.isAlive found.preflightWorker || found.tunFd.isSome)

/-- `reconcileTunnelAfterForegroundResume`. -/
def reconcileTunnelAfterForegroundResume : World :=
  if world.decidesToStart service = true then world.startTunnel service else world

/-- The instance that receives an intent, and the process with it. -/
def receiver : ℕ × World :=
  match world.current with
  | some service => (service, world)
  | none => (world.created,
      { world.modify world.created fun _ => {} with
        created := world.created + 1
        current := some world.created })

/-- `onStartCommand` with an action. -/
def onStartCommand : Command → World
  | .disconnect => { world with restartPending := false }.stopTunnel service
  | .reconcile => world.reconcileTunnelAfterForegroundResume service
  | .connect => { world with restartPending := false }.startTunnel service
  | .other => world

/-- `onStartCommand` without an intent. -/
def onRestart : World :=
  if world.restartPending = true then { world with restartPending := false }.startTunnel service
  else world

/-- A message runs on the main thread. -/
def run (answer : Answer) : Message → World × Option Event
  | .continueStartAfterPreflight service generation prepared =>
      world.continueStartAfterPreflight service generation prepared answer.established
  | .failStartForSession service generation => world.failStartForSession service generation
  | .confirm service generation thread prepared =>
      (world.confirm service generation thread prepared answer, none)
  | .requestAutoHandoff service generation => (world.requestAutoHandoff service generation, none)
  | .reconcilePhysicalNetwork service =>
      (world.reconcilePhysicalNetwork service answer.network, none)
  | .killProcess => (world.killed, some (.killed world.restartPending))

/-- The message that a probe posts. -/
def posted (thread : Thread) : Option PreparedProxy → Message
  | some prepared => .continueStartAfterPreflight thread.service thread.generation prepared
  | none => .failStartForSession thread.service thread.generation

/-- One action, with what is observed of it.  The service is only restarted without an intent when
there is no process, so that there are neither instances nor messages. -/
def react : Action → Option (World × Option Event)
  | .command command =>
      let (service, ready) := world.receiver
      some (ready.onStartCommand service command,
        some (.commanded command (decide (.killProcess ∈ world.pending))))
  | .restart =>
      if world.created = 0 ∧ world.pending = [] then
        let (service, ready) := world.receiver
        some (ready.onRestart service, none)
      else none
  | .revoke => world.current.map fun service =>
      ({ world with restartPending := false }.stopTunnel service, some .revoked)
  | .destroy => world.current.map fun service => (world.onDestroy service, none)
  | .preflight thread prepared =>
      if thread ∈ world.preflights then
        some ({ world with preflights := world.preflights.erase thread }.post
          (posted thread prepared), none)
      else none
  | .engineExit thread =>
      if thread ∈ world.engines then
        some ({ world with engines := world.engines.erase thread }.onEngineExit thread)
      else none
  | .engineReports message =>
      if message ∈ world.exits then
        some ({ world with exits := world.exits.erase message }.post message, none)
      else none
  | .monitorReports thread =>
      if thread ∈ world.monitors then
        some ({ world with monitors := world.monitors.erase thread }.post
          (.requestAutoHandoff thread.service thread.generation), none)
      else none
  | .networkChanged service =>
      if service < world.created then
        some (world.schedulePhysicalNetworkReconcile service, none)
      else none
  | .message message answer =>
      if message ∈ world.messages then
        some ({ world with messages := world.messages.erase message }.run answer message)
      else none
  | .ends thread =>
      if thread ∈ (world.preflights ++ world.engines).map Thread.thread then none
      else some ({ world with alive := world.alive.erase thread }, none)
  | .die => some (world.killed, none)

end World

/-- The service from its installation on. -/
def vpnService : Machine World Action Event where
  initial world := ∃ pending, world = { restartPending := pending }
  next world action := (world.react action).map Prod.fst
  event world action := (world.react action).bind Prod.snd

end ProxyLauncher.Android.Tunnel
