import ProxyLauncher.Supervision.Worker
import ProxyLauncher.Transition.Machine

/-!
# What a command kills

Processes start and end, and workers write and remove records, between any two actions of a
command.  The process that a command kills is the worker of the record unless the id has been
given to another process, which the command tells from the worker by its creation time, by its
executable or not at all.
-/

namespace ProxyLauncher.Supervision

open Interruption Interruption.Program Transition

/-- The machine, what a command still does on it and the records that the command has read. -/
structure System where
  world : World
  command : Supervised Outcome
  records : List Stored := []

inductive Action where
  | start (process : Process)
  | exit (pid : ℕ)
  | listen (port : ℕ) (processes : List Process)
  | writePid (worker : Process) (probed : Bool)
  | deleteRecord
  | answers (pacHealthy disablePreflight routingRestored networkRestored restorePending : Bool)
  | call (rollback : Bool)
  | step (success : Bool)
deriving DecidableEq

/-- A process was killed by the record of a worker. -/
inductive Event where
  | killed (process worker : Process)
deriving DecidableEq

namespace World

variable (world : World)

def setHolder (pid : ℕ) (process : Option Process) : World :=
  { world with holder := Function.update world.holder pid process }

@[simp] theorem holder_setHolder_self {pid : ℕ} {process : Option Process} :
    (world.setHolder pid process).holder pid = process :=
  Function.update_self _ _ _

theorem holder_setHolder_of_ne {pid other : ℕ} {process : Option Process}
    (different : other ≠ pid) :
    (world.setHolder pid process).holder other = world.holder other :=
  Function.update_of_ne different _ _

/-- What a command does to the machine. -/
def perform : Command → World
  | .write stored => { world with file := some stored }
  | .remove => { world with file := none }
  | .kill stored => world.setHolder stored.record.pid none

end World

/-- The process that the next action of a command kills. -/
def decided {α : Type} : Supervised α → Option Stored
  | .issue (.kill stored) _ => some stored
  | _ => none

/-- A command can only kill a process that runs. -/
def carriesOut (world : World) : Command → Bool
  | .kill stored => (world.holder stored.record.pid).isSome
  | _ => true

/-- The records that a command has read after one more query. -/
def gather (query : Query) (world : World) (success : Bool) (records : List Stored) :
    List Stored :=
  if query = .record ∧ success = true then world.file.toList ++ records else records

/-- The next action of the command. -/
def System.step (system : System) (success : Bool) : Option System :=
  match system.command with
  | .done _ => none
  | .read query next =>
      some { system with
        command := next (if success = true then some system.world else none)
        records := gather query system.world success system.records }
  | .issue command next =>
      if success = false then some { system with command := next false }
      else if carriesOut system.world command = true then
        some { system with world := system.world.perform command, command := next true }
      else none

variable (host : Host)

/-- The record that a worker writes of itself. -/
def ownRecord (worker : Process) (probed : Bool) : Stored where
  record := recordOf host worker
    (if host.platform = .windows ∧ probed = true then some worker.created else none)
    (host.executable worker)
  worker
  same_pid := rfl
  same_created created found := by
    simp only [recordOf] at found
    split at found
    · exact (Option.some.inj found).symm
    · exact absurd found (by simp)

/-- A process holds its own id. -/
def Proper (world : World) : Prop :=
  ∀ pid process, world.holder pid = some process → process.pid = pid

/-- The runs of the machine, from any state in which no command runs. -/
def machine : Machine System Action Event where
  initial system := (∃ outcome, system.command = .done outcome) ∧ Proper system.world
  next system
    | .start process =>
        if system.world.holder process.pid = none then
          some { system with world := system.world.setHolder process.pid (some process) }
        else none
    | .exit pid => some { system with world := system.world.setHolder pid none }
    | .listen port processes =>
        some { system with world := { system.world with
          listeners := Function.update system.world.listeners port processes } }
    | .writePid worker probed =>
        if system.world.holder worker.pid = some worker then
          some { system with world := { system.world with
            file := some (ownRecord host worker probed) } }
        else none
    | .deleteRecord => some { system with world := { system.world with file := none } }
    | .answers pacHealthy disablePreflight routingRestored networkRestored restorePending =>
        some { system with world := { system.world with
          pacHealthy, disablePreflight, routingRestored, networkRestored, restorePending } }
    | .call rollback =>
        match system.command with
        | .done _ =>
            some { system with
              command := if rollback = true then cmdRollback host else cmdStop host
              records := [] }
        | _ => none
    | .step success => system.step success
  event system
    | .step true =>
        match decided system.command with
        | none => none
        | some stored => (system.world.holder stored.record.pid).map fun process =>
            .killed process stored.worker
    | _ => none

/-- The process runs the executable of the record. -/
def SameExecutable (stored : Stored) (process : Process) : Prop :=
  host.realpath (stored.record.exePath.getD "") =
    host.realpath (host.realpath (host.executable process))

/-- A process that the platform does not tell from the worker of the record. -/
def Impostor (stored : Stored) (process : Process) : Prop :=
  process ≠ stored.worker ∧
    (host.platform = .other ∨ (host.platform = .macOS ∧ SameExecutable host stored process))

/-- No impostor has the id of a record that is in the file or that the command has read. -/
def Genuine (world : World) (records : List Stored) : Prop :=
  ∀ stored ∈ world.file.toList ++ records, ∀ process ∈ world.holder stored.record.pid,
    ¬ Impostor host stored process

/-- The id of a record does not pass to an impostor, and no process gets it between the decision
to kill and the kill. -/
def NotReused : List Event → System → Action → Prop := fun _ system action =>
  match action with
  | .start process => ∀ stored ∈ decided system.command, process.pid ≠ stored.record.pid
  | .step _ => Genuine host system.world system.records
  | _ => True

instance (stored : Stored) (process : Process) : Decidable (SameExecutable host stored process) :=
  inferInstanceAs (Decidable (_ = _))

instance (stored : Stored) (process : Process) : Decidable (Impostor host stored process) :=
  inferInstanceAs (Decidable (_ ∧ _))

instance (world : World) (records : List Stored) : Decidable (Genuine host world records) :=
  inferInstanceAs (Decidable (∀ stored ∈ _, ∀ process ∈ _, ¬ _))

instance (events : List Event) (system : System) (action : Action) :
    Decidable (NotReused host events system action) :=
  match action with
  | .start _ => inferInstanceAs (Decidable (∀ stored ∈ _, _ ≠ _))
  | .step _ => inferInstanceAs (Decidable (Genuine _ _ _))
  | .exit _ | .listen _ _ | .writePid _ _ | .deleteRecord | .answers _ _ _ _ _ | .call _ =>
      inferInstanceAs (Decidable True)

section Guarded

variable {α β : Type}

/-- The process holding the id is the worker. -/
def Held (world : World) (stored : Stored) : Prop :=
  ∀ process, world.holder stored.record.pid = some process → process = stored.worker

/-- A program kills only right after a read in whose world the worker or nothing holds the id.
`seen` is the world of the last action if that was a read, and the postcondition is about it and
the records read so far. -/
def Guarded (post : List Stored → Option World → α → Prop) :
    List Stored → Option World → Supervised α → Prop
  | records, seen, .done (.ok value) => post records seen value
  | records, _, .read query next => ∀ (world : World) (success : Bool), Proper world →
      Genuine host world records → Guarded post (gather query world success records) (some world)
        (next (if success = true then some world else none))
  | records, seen, .issue command next =>
      (∀ stored, command = .kill stored → ∃ world, seen = some world ∧ Held world stored) ∧
        ∀ result, Guarded post records none (next result)

variable {host : Host} {post post' : List Stored → Option World → α → Prop}
  {records : List Stored} {seen : Option World}

theorem Guarded.held {program : Supervised α} {stored : Stored}
    (guarded : Guarded host post records seen program)
    (decision : decided program = some stored) : ∃ world, seen = some world ∧ Held world stored := by
  cases program with
  | done outcome => cases decision
  | read query next => cases decision
  | issue command next =>
      cases command with
      | write written => cases decision
      | remove => cases decision
      | kill killed =>
          obtain rfl := Option.some.inj decision
          exact guarded.1 killed rfl

theorem Guarded.weaken {program : Supervised α} (guarded : Guarded host post records seen program)
    (weaker : ∀ records seen value, post records seen value → post' records seen value) :
    Guarded host post' records seen program := by
  induction program generalizing records seen with
  | done outcome =>
      cases outcome with
      | ok value => exact weaker _ _ _ guarded
      | error error => exact error.elim
  | read query next ih =>
      intro world success proper genuine
      exact ih _ (guarded world success proper genuine)
  | issue command next ih =>
      constructor
      · exact guarded.1
      · exact fun result => ih result (guarded.2 result)

theorem Guarded.bind {first : Supervised α} {rest : α → Supervised β}
    {after : List Stored → Option World → β → Prop}
    (guarded : Guarded host (fun records seen value => Guarded host after records seen (rest value))
      records seen first) : Guarded host after records seen (first >>= rest) := by
  induction first generalizing records seen with
  | done outcome =>
      cases outcome with
      | ok value => exact guarded
      | error error => exact error.elim
  | read query next ih =>
      intro world success proper genuine
      exact ih _ (guarded world success proper genuine)
  | issue command next ih =>
      constructor
      · exact guarded.1
      · exact fun result => ih result (guarded.2 result)

/-- A program without a kill. -/
def Harmless : Supervised α → Prop
  | .done _ => True
  | .read _ next => ∀ answer, Harmless (next answer)
  | .issue command next => (∀ stored, command ≠ .kill stored) ∧ ∀ result, Harmless (next result)

namespace Harmless

theorem pure (value : α) : Harmless (Pure.pure value : Supervised α) :=
  trivial

theorem bind {first : Supervised α} {rest : α → Supervised β} (harmless : Harmless first)
    (continues : ∀ value, Harmless (rest value)) : Harmless (first >>= rest) := by
  induction first with
  | done outcome =>
      cases outcome with
      | ok value => exact continues value
      | error error => exact error.elim
  | read query next ih => exact fun answer => ih answer (harmless answer)
  | issue command next ih => exact ⟨harmless.1, fun result => ih result (harmless.2 result)⟩

theorem peek (query : Query) (view : World → α) :
    Harmless (Program.peek query view : Supervised (Option α)) :=
  fun _ => trivial

theorem tell {command : Command} (other : ∀ stored, command ≠ .kill stored) :
    Harmless (Program.tell command : Supervised Bool) :=
  ⟨other, fun _ => trivial⟩

theorem probe (query : Query) (view : World → Bool) : Harmless (Supervision.probe query view) :=
  (peek query view).bind fun _ => .pure _

theorem readPid : Harmless Supervision.readPid :=
  (peek _ _).bind fun _ => .pure _

theorem removePid : Harmless Supervision.removePid :=
  tell (by simp)

theorem windowsProcessCreationTime (pid : ℕ) :
    Harmless (Supervision.windowsProcessCreationTime host pid) := by
  rw [Supervision.windowsProcessCreationTime]
  split_ifs
  · exact (peek _ _).bind fun _ => .pure _
  · exact .pure _

theorem windowsProcessExecutablePath (pid : ℕ) :
    Harmless (Supervision.windowsProcessExecutablePath host pid) := by
  rw [Supervision.windowsProcessExecutablePath]
  split_ifs
  · exact (peek _ _).bind fun _ => .pure _
  · exact .pure _

theorem macosProcessExecutablePath (pid : ℕ) :
    Harmless (Supervision.macosProcessExecutablePath host pid) := by
  rw [Supervision.macosProcessExecutablePath]
  split_ifs
  · exact (peek _ _).bind fun _ => .pure _
  · exact .pure _

theorem listenerOwner (ports : List ℕ) (owner : Option Process) :
    Harmless (Supervision.listenerOwner ports owner) := by
  induction ports generalizing owner with
  | nil => exact .pure _
  | cons port ports ih =>
      apply (peek _ _).bind
      intro listeners
      rcases listeners with _ | _ | ⟨current, others⟩
      · exact .pure _
      · exact .pure _
      · dsimp only
        split_ifs
        · exact .pure _
        · exact .pure _
        · exact ih _

theorem macosListenerOwner : Harmless (Supervision.macosListenerOwner host) := by
  rw [Supervision.macosListenerOwner]
  split_ifs
  · exact .pure _
  · cases host.ports with
    | none => exact .pure _
    | some ports =>
        apply (listenerOwner _ _).bind
        intro owner
        cases owner with
        | none => exact .pure _
        | some owner =>
            apply (macosProcessExecutablePath _).bind
            intro actual
            dsimp only
            split_ifs
            · exact .pure _
            · exact .pure _

theorem isRunning : Harmless (Supervision.isRunning host) := by
  rw [Supervision.isRunning]
  cases host.platform with
  | windows =>
      apply (probe _ _).bind
      intro active
      split_ifs
      · apply readPid.bind
        intro found
        cases found with
        | none => exact .pure _
        | some stored =>
            dsimp only
            split_ifs
            · exact .pure _
            · apply (windowsProcessCreationTime _).bind
              intro actual
              split_ifs
              · exact .pure _
              · exact (windowsProcessExecutablePath _).bind fun _ => .pure _
      · exact .pure _
  | macOS =>
      apply macosListenerOwner.bind
      intro owner
      cases owner with
      | none => exact .pure _
      | some owner =>
          apply (macosProcessExecutablePath _).bind
          intro actual
          dsimp only
          split_ifs
          · exact .pure _
          · apply readPid.bind
            intro found
            split_ifs
            · exact .pure _
            · exact tell (by simp)
  | other => exact probe _ _

theorem restoreNetwork (messages : Messages) :
    Harmless (Supervision.restoreNetwork host messages) := by
  apply (probe _ _).bind
  intro routingOk
  apply (probe _ _).bind
  intro networkOk
  apply isRunning.bind
  intro running
  apply (probe _ _).bind
  intro pending
  split_ifs
  · exact .pure _
  · exact .pure _
  · exact .pure _

/-- A program without a kill forgets none of the records. -/
theorem guarded {program : Supervised α} (harmless : Harmless program) {known : List Stored}
    (grown : known ⊆ records) :
    Guarded host (fun records _ _ => known ⊆ records) records seen program := by
  induction program generalizing records seen with
  | done outcome =>
      cases outcome with
      | ok value => exact grown
      | error error => exact error.elim
  | read query next ih =>
      intro world success _ _
      apply ih _ (harmless _)
      rw [gather]
      split_ifs
      · exact fun stored member => List.mem_append_right _ (grown member)
      · exact grown
  | issue command next ih =>
      constructor
      · exact fun stored same => absurd same (harmless.1 stored)
      · exact fun result => ih result (harmless.2 result) grown

end Harmless

/-! ## The kill -/

/-- The record of a kill has been read, and where the kill follows at once, no impostor had its
id when something was read last. -/
def Chosen (host : Host) (records : List Stored) (seen : Option World) (found : Option Stored) :
    Prop :=
  (∀ stored ∈ found, stored ∈ records) ∧
    (host.platform = .other → ∃ world, seen = some world ∧ Genuine host world records)

theorem Genuine.gather {world : World} {query : Query} {success : Bool}
    (genuine : Genuine host world records) :
    Genuine host world (gather query world success records) := by
  rw [Supervision.gather]
  split_ifs
  · intro stored member
    apply genuine stored
    rcases List.mem_append.mp member with there | known
    · exact List.mem_append_left _ there
    · exact known
  · exact genuine

theorem guarded_readPid :
    Guarded host (fun records' seen found => records ⊆ records' ∧ Chosen host records' seen found)
      records seen Supervision.readPid := by
  intro world success _ genuine
  refine ⟨?_, ?_, fun _ => ⟨world, rfl, genuine.gather⟩⟩
  · rw [gather]
    split_ifs
    · exact List.subset_append_right _ _
    · exact List.Subset.refl _
  · cases success with
    | false => exact fun stored member => by cases member
    | true =>
        intro stored member
        exact List.mem_append_left _ (Option.mem_toList.mpr member)

/-- A read of the machine that is answered or not. -/
theorem guarded_peek {query : Query} {view : World → α} (other : query ≠ .record) :
    Guarded host (fun records' seen found => records' = records ∧ ∃ world, seen = some world ∧
      Proper world ∧ Genuine host world records ∧ ∀ value ∈ found, value = view world)
      records seen (Program.peek query view) := by
  intro world success proper genuine
  have same : gather query world success records = records := by
    rw [gather, if_neg fun both => other both.1]
  refine ⟨same, world, rfl, proper, genuine, ?_⟩
  cases success with
  | false => exact fun value member => by cases member
  | true => exact fun value member => (Option.some.inj member).symm

theorem guarded_chosenRecord :
    Guarded host (Chosen host) records seen (Supervision.chosenRecord host) := by
  apply Guarded.bind
  apply guarded_readPid.weaken
  intro records seen record ⟨_, chosen⟩
  have running : Guarded host (fun records' seen _ => records ⊆ records' ∧
      (host.platform = .other → ∃ world, seen = some world ∧ Genuine host world records'))
      records seen (Supervision.isRunning host) := by
    by_cases other : host.platform = .other
    · rw [Supervision.isRunning, other]
      apply Guarded.bind
      apply (guarded_peek (by simp)).weaken
      intro records' seen _ ⟨same, world, last, _, genuine, _⟩
      subst same
      exact ⟨List.Subset.refl _, fun _ => ⟨world, last, genuine⟩⟩
    · apply (Harmless.isRunning.guarded (List.Subset.refl _)).weaken
      exact fun records' seen _ grown => ⟨grown, fun same => absurd same other⟩
  apply Guarded.bind
  apply running.weaken
  intro records' seen running ⟨grown, last⟩
  have kept : ∀ stored ∈ record, stored ∈ records' := fun stored member =>
    grown (chosen.1 stored member)
  split_ifs
  · apply Guarded.bind
    apply guarded_readPid.weaken
    intro records'' seen again ⟨grown, chosen⟩
    refine ⟨?_, chosen.2⟩
    intro stored member
    cases again with
    | none => exact grown (kept stored member)
    | some found => exact chosen.1 stored member
  · exact ⟨kept, last⟩

theorem guarded_kill {stored : Stored} {world : World} (held : Held world stored) :
    Guarded host (fun _ _ _ => True) records (some world)
      (Program.tell (.kill stored) : Supervised Bool) := by
  refine ⟨?_, fun _ => trivial⟩
  intro killed same
  obtain rfl := Command.kill.inj same
  exact ⟨world, rfl, held⟩

/-- The creation time of the process is the recorded one, so the process is the worker. -/
theorem guarded_killPid_windows (platform : host.platform = .windows) {stored : Stored} :
    Guarded host (fun _ _ _ => True) records seen (Supervision.killPid host (some stored)) := by
  rw [Supervision.killPid, platform]
  simp only [windowsProcessCreationTime, platform, if_true]
  apply Guarded.bind
  apply Guarded.bind
  apply (guarded_peek (by simp)).weaken
  intro records' seen answer ⟨same, world, last, proper, _, answered⟩
  subst same last
  change Guarded host _ _ _ (ite _ _ _)
  split_ifs with refused
  · trivial
  · apply guarded_kill
    intro process holds
    simp only [not_or, not_not] at refused
    obtain ⟨-, probed, recorded⟩ := refused
    obtain ⟨created, shape⟩ := Option.ne_none_iff_exists'.mp probed
    obtain ⟨value, found, join⟩ : ∃ value ∈ answer, value = some created := by
      simpa [Option.join_eq_some_iff] using shape
    have own : process.created = created := by
      have view := (answered value found).symm.trans join
      rwa [holds, Option.map_some, Option.some.injEq] at view
    rw [Process.mk.injEq, proper _ _ holds, stored.same_pid, own]
    exact ⟨rfl, stored.same_created created (recorded.trans shape)⟩

/-- The executable of the process is the recorded one, so an impostor would share it. -/
theorem guarded_killPid_macOS (platform : host.platform = .macOS) {stored : Stored}
    (known : stored ∈ records) :
    Guarded host (fun _ _ _ => True) records seen (Supervision.killPid host (some stored)) := by
  rw [Supervision.killPid, platform]
  dsimp only
  split_ifs with unnamed
  · trivial
  · simp only [macosProcessExecutablePath, platform, if_true]
    apply Guarded.bind
    apply Guarded.bind
    apply (guarded_peek (by simp)).weaken
    intro records' seen answer ⟨same, world, last, _, genuine, answered⟩
    subst same last
    change Guarded host _ _ _ (ite _ _ _)
    split_ifs with refused
    · trivial
    · apply guarded_kill
      intro process holds
      obtain ⟨probed, executable⟩ := not_or.mp refused
      rw [not_not] at executable
      by_contra other
      apply genuine stored (List.mem_append_right _ known) process holds
      have own : answer.join = some (host.realpath (host.executable process)) := by
        cases answer with
        | none => exact absurd rfl probed
        | some value =>
            rw [Option.join_some, answered value rfl, holds]
            rfl
      rw [own] at executable
      exact ⟨other, .inr ⟨platform, executable⟩⟩

/-- The kill of a record that has been read hits the worker. -/
theorem guarded_killPid {found : Option Stored} (chosen : Chosen host records seen found) :
    Guarded host (fun _ _ _ => True) records seen (Supervision.killPid host found) := by
  cases found with
  | none => trivial
  | some stored =>
      have known : stored ∈ records := chosen.1 stored rfl
      cases platform : host.platform with
      | windows => exact guarded_killPid_windows platform
      | macOS => exact guarded_killPid_macOS platform known
      | other =>
          obtain ⟨world, last, genuine⟩ := chosen.2 platform
          subst last
          rw [Supervision.killPid, platform]
          apply guarded_kill
          intro process holds
          by_contra other
          exact genuine stored (List.mem_append_right _ known) process holds
            ⟨other, .inl platform⟩

theorem guarded_supervise {messages : Messages} :
    Guarded host (fun _ _ _ => True) records seen (Supervision.supervise host messages) := by
  have quiet {program : Supervised Outcome} (harmless : Harmless program)
      {records : List Stored} {seen : Option World} :
      Guarded host (fun _ _ _ => True) records seen program :=
    (harmless.guarded (List.nil_subset _)).weaken fun _ _ _ _ => trivial
  apply Guarded.bind
  apply ((Harmless.probe _ _).guarded (List.nil_subset _)).weaken
  intro records seen allowed _
  split_ifs
  · apply Guarded.bind
    apply guarded_chosenRecord.weaken
    intro records seen found chosen
    apply Guarded.bind
    apply (guarded_killPid chosen).weaken
    intro records seen killed _
    apply quiet
    apply Harmless.isRunning.bind
    intro running
    split_ifs
    · exact Harmless.removePid.bind fun _ => .restoreNetwork messages
    · exact .restoreNetwork messages
  · trivial

end Guarded

variable {host : Host} {events : List Event} {system system' : System} {process worker : Process}

/-- What holds between two actions. -/
structure Safe (host : Host) (events : List Event) (system : System) : Prop where
  proper : Proper system.world
  guarded : ∃ seen, Guarded host (fun _ _ _ => True) system.records seen system.command
  held : ∀ stored, decided system.command = some stored → Held system.world stored
  killed : ∀ process worker, .killed process worker ∈ events → process = worker

theorem Proper.setHolder {world : World} (proper : Proper world) :
    Proper (world.setHolder process.pid (some process)) := by
  intro pid other holds
  by_cases same : pid = process.pid
  · subst same
    rw [World.holder_setHolder_self] at holds
    exact congrArg Process.pid (Option.some.inj holds).symm
  · rw [World.holder_setHolder_of_ne _ same] at holds
    exact proper pid other holds

theorem Proper.release {world : World} (proper : Proper world) (freed : ℕ) :
    Proper (world.setHolder freed none) := by
  intro pid other holds
  by_cases same : pid = freed
  · rw [same, World.holder_setHolder_self] at holds
    exact absurd holds (by simp)
  · rw [World.holder_setHolder_of_ne _ same] at holds
    exact proper pid other holds

theorem Held.release {world : World} {stored : Stored} (held : Held world stored) (freed : ℕ) :
    Held (world.setHolder freed none) stored := by
  intro process holds
  by_cases same : stored.record.pid = freed
  · rw [same, World.holder_setHolder_self] at holds
    exact absurd holds (by simp)
  · rw [World.holder_setHolder_of_ne _ same] at holds
    exact held process holds

/-- An action of the surroundings that leaves the processes as they are. -/
theorem Safe.sameHolder (safe : Safe host events system) {world : World}
    (same : world.holder = system.world.holder) : Safe host events { system with world } where
  proper := by
    rw [Proper, same]
    exact safe.proper
  guarded := safe.guarded
  held stored decision := by
    rw [Held, same]
    exact safe.held stored decision
  killed := safe.killed

theorem decided_supervise {messages : Messages} : decided (supervise host messages) = none :=
  rfl

theorem exists_supervise (host : Host) (rollback : Bool) : ∃ messages,
    (if rollback = true then cmdRollback host else cmdStop host) = supervise host messages := by
  cases rollback with
  | false => exact ⟨_, rfl⟩
  | true => exact ⟨_, rfl⟩

/-- The next action of the command. -/
theorem Safe.step (safe : Safe host events system) {success : Bool}
    (next : system.step success = some system')
    (genuine : Genuine host system.world system.records) :
    Proper system'.world ∧
      (∃ seen, Guarded host (fun _ _ _ => True) system'.records seen system'.command) ∧
      ∀ stored, decided system'.command = some stored → Held system'.world stored := by
  obtain ⟨world, command, records⟩ := system
  obtain ⟨seen, guarded⟩ := safe.guarded
  cases command with
  | done outcome => cases next
  | read query rest =>
      obtain rfl := Option.some.inj next
      have later := guarded world success safe.proper genuine
      refine ⟨safe.proper, ⟨_, later⟩, ?_⟩
      intro stored decision
      obtain ⟨_, last, held⟩ := later.held decision
      cases last
      exact held
  | issue command rest =>
      have quiet {world : World} (result : Bool) :
          ∀ stored, decided (rest result) = some stored → Held world stored := by
        intro stored decision
        obtain ⟨_, last, -⟩ := (guarded.2 result).held decision
        cases last
      simp only [System.step] at next
      split_ifs at next
      · obtain rfl := Option.some.inj next
        exact ⟨safe.proper, ⟨none, guarded.2 false⟩, quiet false⟩
      · obtain rfl := Option.some.inj next
        refine ⟨?_, ⟨none, guarded.2 true⟩, quiet true⟩
        cases command with
        | write stored => exact safe.proper
        | remove => exact safe.proper
        | kill stored => exact safe.proper.release _

/-- What is killed is the worker of a record. -/
theorem Safe.event (safe : Safe host events system) {action : Action}
    (killed : (machine host).event system action = some (.killed process worker)) :
    process = worker := by
  cases action with
  | step success =>
      cases success with
      | false => cases killed
      | true =>
          simp only [machine] at killed
          rcases decision : decided system.command with _ | stored
          · exact absurd killed (by simp [decision])
          · simp only [decision, Option.map_eq_some_iff] at killed
            obtain ⟨found, holds, same⟩ := killed
            obtain ⟨rfl, rfl⟩ := Event.killed.inj same
            exact safe.held stored decision found holds
  | _ => cases killed

theorem Safe.next (safe : Safe host events system) {action : Action}
    (permitted : NotReused host events system action)
    (next : (machine host).next system action = some system') : Safe host events system' := by
  cases action with
  | start process =>
      simp only [machine] at next
      split at next
      · obtain rfl := Option.some.inj next
        refine ⟨safe.proper.setHolder, safe.guarded, ?_, safe.killed⟩
        intro stored decision other holds
        have different : process.pid ≠ stored.record.pid := permitted stored decision
        rw [World.holder_setHolder_of_ne _ different.symm] at holds
        exact safe.held stored decision other holds
      · cases next
  | exit pid =>
      obtain rfl := Option.some.inj next
      exact ⟨safe.proper.release pid, safe.guarded, fun stored decision =>
        (safe.held stored decision).release pid, safe.killed⟩
  | listen port processes =>
      obtain rfl := Option.some.inj next
      exact safe.sameHolder rfl
  | writePid worker probed =>
      simp only [machine] at next
      split at next
      · obtain rfl := Option.some.inj next
        exact safe.sameHolder rfl
      · cases next
  | deleteRecord =>
      obtain rfl := Option.some.inj next
      exact safe.sameHolder rfl
  | answers pacHealthy disablePreflight routingRestored networkRestored restorePending =>
      obtain rfl := Option.some.inj next
      exact safe.sameHolder rfl
  | call rollback =>
      simp only [machine] at next
      split at next
      · obtain rfl := Option.some.inj next
        obtain ⟨messages, command⟩ := exists_supervise host rollback
        rw [command]
        refine ⟨safe.proper, ⟨none, guarded_supervise⟩, ?_, safe.killed⟩
        intro stored decision
        exact absurd (decided_supervise.symm.trans decision) (by simp)
      · cases next
  | step success =>
      obtain ⟨proper, guarded, held⟩ := safe.step next permitted
      exact ⟨proper, guarded, held, safe.killed⟩

theorem reaches_safe (reaches : (machine host).Reaches (NotReused host) events system) :
    Safe host events system := by
  induction reaches with
  | @start system initial =>
      obtain ⟨⟨outcome, done⟩, proper⟩ := initial
      refine ⟨proper, ⟨none, ?_⟩, ?_, fun _ _ member => absurd member (by simp)⟩
      · rw [done]
        cases outcome with
        | ok value => trivial
        | error error => exact error.elim
      · intro stored decision
        rw [done] at decision
        exact absurd decision (by simp [decided])
  | step _ _ permitted next safe =>
      obtain ⟨proper, guarded, held, _⟩ := safe.next permitted next
      refine ⟨proper, guarded, held, ?_⟩
      intro process worker member
      rcases List.mem_append.mp member with before | last
      · exact safe.killed process worker before
      · exact safe.event (Option.mem_toList.mp last)

/-- A command kills the worker of the record. -/
theorem kills_worker (reaches : (machine host).Reaches (NotReused host) events system) :
    ∀ process worker, .killed process worker ∈ events → process = worker :=
  (reaches_safe reaches).killed

/-- A host on which all processes but those of one time have the executable of the launcher. -/
def sampleHost (platform : Platform) : Host where
  platform
  frozen := true
  ports := some [8080, 1080, 8082]
  sysExecutable := "/app"
  installDir := "/"
  executable process := if process.created = 3 then "/other" else "/app"
  realpath path := path
  normcase path := path

/-- No process runs and the PAC endpoint does not answer. -/
def sampleSystem : System where
  world := {
    holder := fun _ => none
    listeners := fun _ => []
    pacHealthy := false
    disablePreflight := true
    routingRestored := true
    networkRestored := true
    restorePending := false }
  command := .done (.ok ⟨"", 0⟩)

/-- The worker writes its record. -/
def recorded : List Action :=
  [.start ⟨7, 1⟩, .writePid ⟨7, 1⟩ true]

/-- The worker ends and another process gets its id. -/
def reused : List Action :=
  [.exit 7, .start ⟨7, 2⟩]

/-- The command is called and takes so many actions. -/
def called (count : ℕ) : List Action :=
  .call false :: .replicate count (.step true)

/-- The actions are a run that has the event. -/
theorem reaches_of_exec {platform : Platform} {allowed : List Event → System → Action → Prop}
    [∀ events system action, Decidable (allowed events system action)] {actions : List Action}
    (executed : ((machine (sampleHost platform)).exec allowed actions [] sampleSystem).map
      Prod.fst = some events) :
    ∃ system, (machine (sampleHost platform)).Reaches allowed events system := by
  obtain ⟨⟨_, system⟩, run, rfl⟩ := Option.map_eq_some_iff.mp executed
  have start : (machine (sampleHost platform)).Reaches allowed [] sampleSystem :=
    .start ⟨⟨_, rfl⟩, fun _ _ holds => absurd holds (by simp [sampleSystem])⟩
  exact ⟨system, start.exec run⟩

/-- A process of another executable that got the id is spared, and then a new worker is killed. -/
def spared : List Action :=
  recorded ++ [.exit 7, .start ⟨7, 3⟩] ++ called 10 ++
    [.exit 7, .start ⟨7, 4⟩, .writePid ⟨7, 4⟩ true] ++ called 5

theorem kills_worker_sample :
    ∃ events : List Event, .killed ⟨7, 4⟩ ⟨7, 4⟩ ∈ events ∧
      ∀ process worker, .killed process worker ∈ events → process = worker := by
  obtain ⟨system, reaches⟩ := @reaches_of_exec [.killed ⟨7, 4⟩ ⟨7, 4⟩] .macOS
    (NotReused (sampleHost .macOS)) _ spared (by decide +kernel)
  exact ⟨_, by simp, kills_worker reaches⟩

/-- On macOS a process of the same executable is killed when it got the id before the command,
on a platform without any check every process, and on Windows a process that got the id right
after the check. -/
theorem kills_other :
    (∃ system, (machine (sampleHost .macOS)).Reaches Machine.Always [.killed ⟨7, 2⟩ ⟨7, 1⟩]
      system) ∧
    (∃ system, (machine (sampleHost .other)).Reaches Machine.Always [.killed ⟨7, 2⟩ ⟨7, 1⟩]
      system) ∧
    ∃ system, (machine (sampleHost .windows)).Reaches Machine.Always [.killed ⟨7, 2⟩ ⟨7, 1⟩]
      system := by
  refine ⟨@reaches_of_exec _ _ Machine.Always _ (recorded ++ reused ++ called 5) ?_,
    @reaches_of_exec _ _ Machine.Always _ (recorded ++ reused ++ called 4) ?_,
    @reaches_of_exec _ _ Machine.Always _ (recorded ++ called 4 ++ reused ++ [.step true]) ?_⟩
  · decide
  · decide
  · decide

end ProxyLauncher.Supervision
