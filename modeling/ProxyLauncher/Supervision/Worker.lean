import ProxyLauncher.Interruption.Program

/-!
# The supervision of the worker

The worker leaves a record of itself in a file.  A command that stops the worker reads the
record, probes the process with the recorded id and kills it.  Between any two of these actions
other processes may start and end.
-/

namespace ProxyLauncher.Supervision

open Interruption Interruption.Program

inductive Platform where
  | windows
  | macOS
  | other
deriving DecidableEq

/-- A process.  An id is reused, but not by a process of the same creation time. -/
structure Process where
  pid : ℕ
  created : ℤ
deriving DecidableEq

/-- What `_read_pid` returns. -/
structure Record where
  pid : ℕ
  created : Option ℤ := none
  exePath : Option String := none
  identity : Option String := none
deriving DecidableEq

/-- A record in the file, with the worker that it was written for. -/
structure Stored where
  record : Record
  worker : Process
  same_pid : record.pid = worker.pid
  same_created : ∀ created, record.created = some created → created = worker.created
deriving DecidableEq

/-- The machine that the commands run on. -/
structure Host where
  platform : Platform
  frozen : Bool
  ports : Option (List ℕ)
  sysExecutable : String
  installDir : String
  executable : Process → String
  realpath : String → String
  normcase : String → String

/-- What the commands read of the machine. -/
structure World where
  holder : ℕ → Option Process
  file : Option Stored := none
  listeners : ℕ → List Process
  pacHealthy : Bool
  disablePreflight : Bool
  routingRestored : Bool
  networkRestored : Bool
  restorePending : Bool

inductive Query where
  | pacHealthy
  | record
  | creationTime (pid : ℕ)
  | executablePath (pid : ℕ)
  | listeners (port : ℕ)
  | disablePreflight
  | restoreRouting
  | disableSystemProxy
  | restorePending
deriving DecidableEq

inductive Command where
  | write (stored : Stored)
  | remove
  | kill (stored : Stored)
deriving DecidableEq

/-- A part of a command.  No exception leaves it. -/
abbrev Supervised := Program World Query Command Empty

variable (host : Host)

/-- A probe of the machine that fails is answered like a `False`. -/
def probe (query : Query) (view : World → Bool) : Supervised Bool := do
  return (← peek query view).getD false

/-- `proxy_listener_active`. -/
def proxyListenerActive : Supervised Bool :=
  probe .pacHealthy World.pacHealthy

/-- `_windows_process_creation_time`. -/
def windowsProcessCreationTime (pid : ℕ) : Supervised (Option ℤ) :=
  if host.platform = .windows then do
    return (← peek (.creationTime pid) fun world => (world.holder pid).map Process.created).join
  else pure none

/-- `_windows_process_executable_path`. -/
def windowsProcessExecutablePath (pid : ℕ) : Supervised (Option String) :=
  if host.platform = .windows then do
    return (← peek (.executablePath pid) fun world => (world.holder pid).map fun process =>
      host.realpath (host.executable process)).join
  else pure none

/-- `_macos_process_executable_path`. -/
def macosProcessExecutablePath (pid : ℕ) : Supervised (Option String) :=
  if host.platform = .macOS then do
    return (← peek (.executablePath pid) fun world => (world.holder pid).map fun process =>
      host.realpath (host.executable process)).join
  else pure none

/-- The loop over the ports in `_macos_listener_owner_pid`: one process listens on all of them. -/
def listenerOwner : List ℕ → Option Process → Supervised (Option Process)
  | [], owner => pure owner
  | port :: ports, owner => do
      match ← peek (.listeners port) fun world => world.listeners port with
      | some (current :: others) =>
          if others.any (fun other => other.pid ≠ current.pid) = true then return none
          else if (owner.any fun owner => owner.pid ≠ current.pid) = true then return none
          else listenerOwner ports (owner <|> some current)
      | _ => return none

/-- `_macos_listener_owner_pid`. -/
def macosListenerOwner : Supervised (Option Process) :=
  if host.platform ≠ .macOS ∨ host.frozen = false then pure none
  else
    match host.ports with
    | none => pure none
    | some ports => do
        match ← listenerOwner ports none with
        | none => return none
        | some owner =>
            let actual := (← macosProcessExecutablePath host owner.pid).getD ""
            if actual = "" ∨ host.realpath actual ≠ host.realpath host.sysExecutable then
              return none
            else return some owner

/-- `_read_pid`. -/
def readPid : Supervised (Option Stored) := do
  return (← peek .record World.file).join

/-- The record that `_write_pid_record` writes for a process. -/
def recordOf (process : Process) (created : Option ℤ) (exePath : String) : Record where
  pid := process.pid
  created
  exePath := some (host.realpath exePath)
  identity := some (host.normcase (host.realpath host.installDir))

/-- `_write_pid_record` on a platform without creation times. -/
def writePidRecord (process : Process) (exePath : String) : Supervised Bool :=
  tell (.write ⟨recordOf host process none exePath, process, rfl, by simp [recordOf]⟩)

/-- `_remove_pid` without an expected id. -/
def removePid : Supervised Bool :=
  tell .remove

/-- The part of `is_running` for Windows. -/
def isRunningWindows : Supervised Bool := do
  if ← proxyListenerActive then
    match ← readPid with
    | none => return false
    | some stored =>
        if stored.record.pid = 0 ∨ stored.record.created = none then return false
        else if (← windowsProcessCreationTime host stored.record.pid) ≠ stored.record.created then
          return false
        else
          let recorded := stored.record.exePath.getD ""
          let actual := (← windowsProcessExecutablePath host stored.record.pid).getD ""
          return decide (recorded ≠ "" ∧ actual ≠ "" ∧
            host.normcase (host.realpath recorded) = host.normcase (host.realpath actual))
  else return false

/-- The record names the owner of the listeners. -/
def namesOwner (stored : Option Stored) (owner : Process) (actual : String) : Bool :=
  stored.any fun stored =>
    decide (stored.record.pid ≠ 0 ∧ stored.record.pid = owner.pid ∧
      stored.record.exePath.getD "" ≠ "" ∧
      host.realpath (stored.record.exePath.getD "") = host.realpath actual)

/-- The part of `is_running` for macOS.  A missing record is written again. -/
def isRunningMacOS : Supervised Bool := do
  match ← macosListenerOwner host with
  | none => return false
  | some owner =>
      let actual := (← macosProcessExecutablePath host owner.pid).getD ""
      if actual = "" then return false
      else if namesOwner host (← readPid) owner actual = true then return true
      else writePidRecord host owner actual

/-- `is_running`. -/
def isRunning : Supervised Bool :=
  match host.platform with
  | .windows => isRunningWindows host
  | .macOS => isRunningMacOS host
  | .other => proxyListenerActive

/-- `_kill_pid`. -/
def killPid : Option Stored → Supervised Bool
  | none => pure false
  | some stored =>
      match host.platform with
      | .windows => do
          let actual ← windowsProcessCreationTime host stored.record.pid
          if stored.record.created = none ∨ actual = none ∨ stored.record.created ≠ actual then
            return false
          else tell (.kill stored)
      | .macOS =>
          if stored.record.exePath.getD "" = "" then pure false
          else do
            let actual := (← macosProcessExecutablePath host stored.record.pid).getD ""
            if actual = "" ∨ host.realpath (stored.record.exePath.getD "") ≠ host.realpath actual
            then return false
            else tell (.kill stored)
      | .other => tell (.kill stored)

/-- What a command prints last, and its exit code. -/
structure Outcome where
  message : String
  code : ℕ
deriving DecidableEq

/-- The messages in which the two commands differ. -/
structure Messages where
  refused : String
  stillRunning : String
  incomplete : String
  finished : String

/-- The record that the worker is killed by. -/
def chosenRecord : Supervised (Option Stored) := do
  let record ← readPid
  if ← isRunning host then return (← readPid) <|> record else return record

/-- What a command does after the kill. -/
def restoreNetwork (messages : Messages) : Supervised Outcome := do
  let routingOk ← probe .restoreRouting World.routingRestored
  let networkOk ← probe .disableSystemProxy World.networkRestored
  let stillRunning ← isRunning host
  let pending ← probe .restorePending World.restorePending
  if stillRunning = true then return ⟨messages.stillRunning, 1⟩
  else if routingOk = false ∨ networkOk = false ∨ pending = true then
    return ⟨messages.incomplete, 1⟩
  else return ⟨messages.finished, 0⟩

/-- `_cmd_stop` and `_cmd_rollback`. -/
def supervise (messages : Messages) : Supervised Outcome := do
  if ← probe .disablePreflight World.disablePreflight then
    let killed ← killPid host (← chosenRecord host)
    let stillRunning ← isRunning host
    if killed = true ∨ stillRunning = false then
      let _ ← removePid
      restoreNetwork host messages
    else restoreNetwork host messages
  else return ⟨messages.refused, 1⟩

/-- `_cmd_stop`. -/
def cmdStop : Supervised Outcome :=
  supervise host {
    refused := "proxy stop refused: saved network state depends on an unavailable local PAC " ++
      "service; restore that service and retry"
    stillRunning :=
      "proxy process is still running; network proxy was disabled where possible"
    incomplete :=
      "proxy stopped, but routing/network restore is incomplete; retry --rollback"
    finished := "proxy stopped; network settings restored" }

/-- `_cmd_rollback`. -/
def cmdRollback : Supervised Outcome :=
  supervise host {
    refused := "rollback refused: saved network state depends on an unavailable local PAC " ++
      "service; restore that service and retry"
    stillRunning :=
      "network proxy was disabled where possible, but proxy process is still running"
    incomplete :=
      "routing/network restore is incomplete; recovery files were kept for retry"
    finished := "network settings restored" }

end ProxyLauncher.Supervision
