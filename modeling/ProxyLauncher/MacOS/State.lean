import ProxyLauncher.Interruption.Program
import ProxyLauncher.Python.Runtime

/-!
# The macOS network settings and the rollback evidence

The state is what the launcher's `networksetup` client reports for every network
service, together with the file that holds the rollback evidence.  Commands are
the `-set…` invocations and the two operations that change the file.
-/

namespace ProxyLauncher.MacOS

open Interruption Python

/-- `ProxyBackendConfig`. -/
structure ProxyBackendConfig where
  pacUrl : String
  httpProxyUrl : String
  noProxy : List String := []
  socksProxyUrl : String := ""
  upstreamHttpProxyUrl : String := ""
  upstreamUsername : String := ""
  upstreamPassword : String := ""

/-- The dictionary `_canonical_config` returns. -/
structure CanonicalConfig where
  pacUrl : String
  httpProxyUrl : String
  httpProxyHost : String
  httpProxyPort : Nat
  socksProxyUrl : String
  socksProxyHost : String
  socksProxyPort : Nat
  directProxyUrl : String
  directProxyHost : String
  directProxyPort : Nat
  directProxyAuthenticated : Bool
  noProxy : List String
  deriving DecidableEq

structure NetworkService where
  name : String
  enabled : Bool
  deriving DecidableEq

structure AutoProxyState where
  enabled : Bool
  url : String
  deriving DecidableEq

structure ManualProxyState where
  enabled : Bool
  server : String
  port : Int
  authenticated : Bool := false
  deriving DecidableEq

/-- The three manual proxies of a service. -/
inductive ManualKind where
  | web
  | secureWeb
  | socks
  deriving DecidableEq

/-- Everything the client reads of one service. -/
@[ext]
structure ServiceProxies where
  auto : AutoProxyState
  manual : ManualKind → ManualProxyState
  bypass : List String

namespace ServiceProxies

def setAutoUrl (turnsOn : Bool) (url : String) (proxies : ServiceProxies) : ServiceProxies :=
  { proxies with auto := { enabled := proxies.auto.enabled || turnsOn, url } }

def setAutoEnabled (enabled : Bool) (proxies : ServiceProxies) : ServiceProxies :=
  { proxies with auto := { proxies.auto with enabled } }

def setManual (kind : ManualKind) (state : ManualProxyState) (proxies : ServiceProxies) :
    ServiceProxies :=
  { proxies with manual := Function.update proxies.manual kind state }

/-- Write an endpoint and leave the enable bit to its own command, unless `turnsOn`. -/
def setEndpoint (turnsOn : Bool) (kind : ManualKind) (server : String) (port : Int)
    (authenticated : Bool) (proxies : ServiceProxies) : ServiceProxies :=
  proxies.setManual kind
    { enabled := (proxies.manual kind).enabled || turnsOn, server, port, authenticated }

def setEnabled (kind : ManualKind) (enabled : Bool) (proxies : ServiceProxies) :
    ServiceProxies :=
  proxies.setManual kind { proxies.manual kind with enabled }

def setBypass (bypass : List String) (proxies : ServiceProxies) : ServiceProxies :=
  { proxies with bypass }

section

variable (proxies : ServiceProxies) (turnsOn enabled authenticated : Bool) (url server : String)
  (port : Int) (kind : ManualKind) (state : ManualProxyState) (bypass : List String)

@[simp] theorem setAutoUrl_auto : (proxies.setAutoUrl turnsOn url).auto =
    { enabled := proxies.auto.enabled || turnsOn, url } := rfl

@[simp] theorem setAutoUrl_manual :
    (proxies.setAutoUrl turnsOn url).manual = proxies.manual := rfl

@[simp] theorem setAutoUrl_bypass :
    (proxies.setAutoUrl turnsOn url).bypass = proxies.bypass := rfl

@[simp] theorem setAutoEnabled_auto :
    (proxies.setAutoEnabled enabled).auto = { proxies.auto with enabled } := rfl

@[simp] theorem setAutoEnabled_manual :
    (proxies.setAutoEnabled enabled).manual = proxies.manual := rfl

@[simp] theorem setAutoEnabled_bypass :
    (proxies.setAutoEnabled enabled).bypass = proxies.bypass := rfl

@[simp] theorem setManual_auto : (proxies.setManual kind state).auto = proxies.auto := rfl

@[simp] theorem setManual_manual :
    (proxies.setManual kind state).manual = Function.update proxies.manual kind state := rfl

@[simp] theorem setManual_bypass : (proxies.setManual kind state).bypass = proxies.bypass := rfl

@[simp] theorem setEndpoint_auto :
    (proxies.setEndpoint turnsOn kind server port authenticated).auto = proxies.auto := rfl

@[simp] theorem setEndpoint_manual :
    (proxies.setEndpoint turnsOn kind server port authenticated).manual =
      Function.update proxies.manual kind
        { enabled := (proxies.manual kind).enabled || turnsOn, server, port, authenticated } :=
  rfl

@[simp] theorem setEndpoint_bypass :
    (proxies.setEndpoint turnsOn kind server port authenticated).bypass = proxies.bypass := rfl

@[simp] theorem setEnabled_auto : (proxies.setEnabled kind enabled).auto = proxies.auto := rfl

@[simp] theorem setEnabled_manual : (proxies.setEnabled kind enabled).manual =
    Function.update proxies.manual kind { proxies.manual kind with enabled } := rfl

@[simp] theorem setEnabled_bypass :
    (proxies.setEnabled kind enabled).bypass = proxies.bypass := rfl

@[simp] theorem setBypass_auto : (proxies.setBypass bypass).auto = proxies.auto := rfl

@[simp] theorem setBypass_manual : (proxies.setBypass bypass).manual = proxies.manual := rfl

@[simp] theorem setBypass_bypass : (proxies.setBypass bypass).bypass = bypass := rfl

end

/-- The client strips what it reads, so a reported URL has no white space around it
and a reported bypass entry is neither blank nor padded. -/
structure Reported (proxies : ServiceProxies) : Prop where
  url : strip proxies.auto.url = proxies.auto.url
  bypass : ∀ domain ∈ proxies.bypass, strip domain = domain ∧ domain ≠ ""

end ServiceProxies

/-- The saved state of one service.  Evidence written by `enable` has all three
manual proxies; the loader also takes entries without them. -/
@[ext]
structure Snapshot where
  autoProxy : AutoProxyState
  manualProxy : ManualKind → Option ManualProxyState
  bypassDomains : List String

/-- The evidence; `services` is a dictionary, kept in the order of the file. -/
structure Payload where
  schemaVersion : Int
  backend : String
  appliedConfig : CanonicalConfig
  services : List (String × Snapshot)

/-- The content of the evidence file.  A JSON value of the wrong shape is kept as the
message that reading it raises. -/
inductive RollbackFile where
  | unreadable
  | malformed (message : String)
  | saved (payload : Payload)

/-- `NetworkSetupError`, `RollbackStateError` and the `ValueError` of a bad URL. -/
inductive BackendError where
  | networkSetup (message : String)
  | rollbackState (message : String)
  | valueError (message : String)
  deriving DecidableEq

/-- The services that `-listallnetworkservices` lists; the client drops repeated names. -/
structure ServiceList where
  entries : List NetworkService
  distinct : (entries.map NetworkService.name).Nodup

@[ext]
structure World where
  services : ServiceList
  proxies : String → ServiceProxies
  store : Option RollbackFile

inductive Query where
  | storeExists
  | loadStore
  | listServices
  | getAutoProxy (service : String)
  | getManualProxy (kind : ManualKind) (service : String)
  | getBypassDomains (service : String)

inductive Command where
  | setAutoProxyUrl (service url : String)
  | setAutoProxyState (service : String) (enabled : Bool)
  | setManualProxy (kind : ManualKind) (service server : String) (port : Int)
      (authenticated : Bool)
  | setManualProxyState (kind : ManualKind) (service : String) (enabled : Bool)
  | setBypassDomains (service : String) (arguments : List String)
  | saveStore (payload : Payload)
  | clearStore

namespace Command

/-- The command is a `networksetup` invocation that writes a proxy setting. -/
def WritesProxy : Command → Prop
  | saveStore _ | clearStore => False
  | _ => True

end Command

namespace World

/-- Change the settings of one service. -/
def update (world : World) (service : String) (change : ServiceProxies → ServiceProxies) :
    World :=
  { world with proxies := Function.update world.proxies service (change (world.proxies service)) }

@[simp] theorem update_services (world : World) (service : String)
    (change : ServiceProxies → ServiceProxies) :
    (world.update service change).services = world.services := rfl

@[simp] theorem update_store (world : World) (service : String)
    (change : ServiceProxies → ServiceProxies) :
    (world.update service change).store = world.store := rfl

@[simp] theorem update_proxies_self (world : World) (service : String)
    (change : ServiceProxies → ServiceProxies) :
    (world.update service change).proxies service = change (world.proxies service) := by
  simp [update]

theorem update_proxies_of_ne (world : World) {service other : String}
    (change : ServiceProxies → ServiceProxies) (different : other ≠ service) :
    (world.update service change).proxies other = world.proxies other := by
  simp [update, different]

theorem update_update (world : World) (service : String)
    (first second : ServiceProxies → ServiceProxies) :
    (world.update service first).update service second =
      world.update service fun proxies => second (first proxies) := by
  simp [update]

theorem update_congr (world : World) {service : String}
    {first second : ServiceProxies → ServiceProxies}
    (same : first (world.proxies service) = second (world.proxies service)) :
    world.update service first = world.update service second := by
  rw [update, update, same]

theorem update_id (world : World) (service : String) : world.update service id = world := by
  simp [update]

/-- A property of the settings of one service survives a change that keeps it. -/
theorem update_proxies_induction {property : ServiceProxies → Prop} (world : World)
    (service name : String) {change : ServiceProxies → ServiceProxies}
    (keeps : ∀ proxies, property proxies → property (change proxies))
    (holds : property (world.proxies name)) :
    property ((world.update service change).proxies name) := by
  by_cases same : name = service
  · subst same
    rw [update_proxies_self]
    exact keeps _ holds
  · rw [update_proxies_of_ne _ _ same]
    exact holds

/-- Change the settings of several services, each in its own way. -/
def updateAll (world : World) (names : List String)
    (change : String → ServiceProxies → ServiceProxies) : World :=
  { world with
    proxies := fun name =>
      if name ∈ names then change name (world.proxies name) else world.proxies name }

@[simp] theorem updateAll_services (world : World) (names : List String)
    (change : String → ServiceProxies → ServiceProxies) :
    (world.updateAll names change).services = world.services := rfl

@[simp] theorem updateAll_store (world : World) (names : List String)
    (change : String → ServiceProxies → ServiceProxies) :
    (world.updateAll names change).store = world.store := rfl

theorem updateAll_proxies (world : World) (names : List String)
    (change : String → ServiceProxies → ServiceProxies) (name : String) :
    (world.updateAll names change).proxies name =
      if name ∈ names then change name (world.proxies name) else world.proxies name := rfl

@[simp] theorem updateAll_nil (world : World)
    (change : String → ServiceProxies → ServiceProxies) : world.updateAll [] change = world := by
  simp [updateAll]

/-- One service after the other; a service named twice is changed twice. -/
theorem updateAll_cons (world : World) (name : String) (names : List String)
    (change : String → ServiceProxies → ServiceProxies)
    (idempotent : ∀ proxies, change name (change name proxies) = change name proxies) :
    world.updateAll (name :: names) change =
      (world.update name (change name)).updateAll names change := by
  refine World.ext rfl (funext fun other => ?_) rfl
  by_cases same : other = name
  · subst same
    simp only [updateAll, List.mem_cons, true_or, ↓reduceIte, update_proxies_self]
    split
    · rw [idempotent]
    · rfl
  · simp [updateAll, same, update_proxies_of_ne _ _ same]

/-- The names `-listallnetworkservices` lists. -/
def serviceNames (world : World) : List String :=
  world.services.entries.map NetworkService.name

@[simp] theorem update_serviceNames (world : World) (service : String)
    (change : ServiceProxies → ServiceProxies) :
    (world.update service change).serviceNames = world.serviceNames := rfl

end World

/-- The list that `-setproxybypassdomains` stores: the single argument `Empty` clears it. -/
def storedBypass (arguments : List String) : List String :=
  if arguments = ["Empty"] then [] else arguments

/-- What a command does.  `turnsOn` says whether the commands that write an endpoint
or a URL also set the enable bit; the bit has its own command in any case. -/
def effect (turnsOn : Bool) : Command → World → World
  | .setAutoProxyUrl service url, world => world.update service (.setAutoUrl turnsOn url)
  | .setAutoProxyState service enabled, world => world.update service (.setAutoEnabled enabled)
  | .setManualProxy kind service server port authenticated, world =>
      world.update service (.setEndpoint turnsOn kind server port authenticated)
  | .setManualProxyState kind service enabled, world =>
      world.update service (.setEnabled kind enabled)
  | .setBypassDomains service arguments, world =>
      world.update service (.setBypass (storedBypass arguments))
  | .saveStore payload, world =>
      { world with
        store := some (.saved { payload with services := sortKeys payload.services }) }
  | .clearStore, world => { world with store := none }

theorem effect_store {turnsOn : Bool} {command : Command} (writes : command.WritesProxy)
    (world : World) : (effect turnsOn command world).store = world.store := by
  cases command with
  | saveStore | clearStore => exact writes.elim
  | _ => rfl

/-- The command writes a setting while the evidence is `file`, and `invariant` holds
afterwards. -/
def Guarded (turnsOn : Bool) (file : Option RollbackFile) (invariant : World → Prop)
    (command : Command) (state : World) : Prop :=
  state.store = file ∧ command.WritesProxy ∧ invariant (effect turnsOn command state)

theorem guarded_of_writes {turnsOn : Bool} {file : Option RollbackFile}
    {invariant : World → Prop} (command : Command) (state : World)
    (writes : command.WritesProxy ∧ invariant (effect turnsOn command state) ∧
      (effect turnsOn command state).store = file) :
    Guarded turnsOn file invariant command state := by
  obtain ⟨writes, kept, stored⟩ := writes
  rw [effect_store writes] at stored
  exact ⟨stored, writes, kept⟩

/-- The command writes a setting or clears the evidence while the evidence is `file`. -/
def GuardedOrCleared (turnsOn : Bool) (file : Option RollbackFile) (invariant : World → Prop)
    (command : Command) (state : World) : Prop :=
  Guarded turnsOn file invariant command state ∨ state.store = file ∧ command = .clearStore

/-- A host on which every `networksetup` invocation and every file operation may
fail.  `os.path.exists` does not fail. -/
def faultyHost (turnsOn : Bool) : Host World Query Command where
  effect := effect turnsOn
  answers := fun query answered => answered = true ∨ query ≠ .storeExists
  accepts := fun _ _ => True

@[simp] theorem faultyHost_effect (turnsOn : Bool) :
    (faultyHost turnsOn).effect = effect turnsOn := rfl

theorem faultyHost_answers (turnsOn : Bool) (query : Query) :
    (faultyHost turnsOn).answers query true := .inl rfl

/-- The run without failures is one of the runs on a faulty host. -/
theorem finishes_of_exec {turnsOn : Bool} {ε α : Type} {outcome : Except ε α}
    (program : Program World Query Command ε α) (world : World)
    (returns : (program.exec (effect turnsOn) world).1 = outcome) :
    program.Finishes (faultyHost turnsOn) world outcome
      (program.exec (effect turnsOn) world).2 :=
  returns ▸ Program.finishes_exec (faultyHost turnsOn) (fun _ => .inl rfl) (fun _ => trivial)
    program world

/-- A faulty host can stop a whole after its first program has run without failures. -/
theorem stops_bind_of_exec {turnsOn : Bool} {ε α β : Type} {value : α}
    {program : Program World Query Command ε α} {rest : α → Program World Query Command ε β}
    {world middle last : World}
    (returns : program.exec (effect turnsOn) world = (.ok value, middle))
    (stops : (rest value).Stops (faultyHost turnsOn) middle last) :
    (program >>= rest).Stops (faultyHost turnsOn) world last :=
  Program.stops_bind_of_exec (faultyHost_answers turnsOn) (fun _ => trivial) returns stops

end ProxyLauncher.MacOS
