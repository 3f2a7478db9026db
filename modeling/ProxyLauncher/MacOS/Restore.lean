import ProxyLauncher.Interruption.Sequence
import ProxyLauncher.MacOS.Ownership

/-!
# What a restore without failures does

`_restore_service` is a sequence of commands on one service.  Run without failures it
amounts to one change of the settings of that service, and `disable` amounts to that
change on every service of the restore plan.
-/

namespace ProxyLauncher.MacOS

open Interruption Interruption.Program Python

/-- The commands of one manual proxy section of `_restore_service`. -/
def restoreManualCommands (kind : ManualKind) (service : String) :
    Option ManualProxyState → List Command
  | none => []
  | some saved =>
      (if saved.server ≠ "" ∧ 0 < saved.port then
        [.setManualProxy kind service saved.server saved.port false] else []) ++
      [.setManualProxyState kind service saved.enabled]

/-- The commands of the automatic-proxy section: none when there is no URL to restore. -/
def restoreAutoCommands (service : String) (auto : AutoProxyState) : List Command :=
  let url := strip auto.url
  if auto.enabled ∧ url = "" then []
  else
    (if url ≠ "" then [.setAutoProxyUrl service url] else []) ++
    (if auto.enabled then [.setAutoProxyState service false] else []) ++
    [.setAutoProxyState service auto.enabled]

/-- How the automatic-proxy section ends when no command fails. -/
def restoreAutoOutcome (auto : AutoProxyState) : Except BackendError Unit :=
  if auto.enabled ∧ strip auto.url = "" then
    .error (.rollbackState "cannot restore enabled automatic proxy without a saved URL")
  else .ok ()

/-- The commands of `_restore_service`. -/
def restoreCommands (service : String) (snapshot : Snapshot) : List Command :=
  restoreManualCommands .web service (snapshot.manualProxy .web) ++
    (restoreManualCommands .secureWeb service (snapshot.manualProxy .secureWeb) ++
      (restoreManualCommands .socks service (snapshot.manualProxy .socks) ++
        ([.setBypassDomains service (bypassArguments snapshot.bypassDomains)] ++
          restoreAutoCommands service snapshot.autoProxy)))

theorem sequence_restoreManualProxy {setProxy : String → Int → Proc Unit}
    {setState : Bool → Proc Unit} {kind : ManualKind} {service : String}
    {endpointError bitError : BackendError}
    (issuesEndpoint : ∀ server port, setProxy server port =
      perform (.setManualProxy kind service server port false) endpointError)
    (issuesBit : ∀ enabled, setState enabled =
      perform (.setManualProxyState kind service enabled) bitError)
    (saved : Option ManualProxyState) :
    Sequence (restoreManualCommands kind service saved) (.ok ())
      (restoreManualProxy setProxy setState saved) := by
  cases saved with
  | none => exact .pure ()
  | some saved =>
      simp only [restoreManualProxy, restoreManualCommands, issuesEndpoint, issuesBit]
      split
      · exact (Sequence.perform _ _).bind (.perform _ _)
      · exact .perform _ _

theorem sequence_restoreAutoProxy (service : String) (auto : AutoProxyState) :
    Sequence (restoreAutoCommands service auto) (restoreAutoOutcome auto)
      (restoreAutoProxy service auto) := by
  simp only [restoreAutoProxy, restoreAutoCommands, restoreAutoOutcome]
  split
  · exact .raise _
  · have bits : Sequence
        ((if auto.enabled then [.setAutoProxyState service false] else []) ++
          [.setAutoProxyState service auto.enabled]) (.ok ())
        (if auto.enabled then do
            setAutoProxyState service false
            setAutoProxyState service true
          else setAutoProxyState service false) := by
      cases auto.enabled with
      | true => exact (Sequence.perform _ _).bind (.perform _ _)
      | false => exact .perform _ _
    rw [List.append_assoc]
    split
    · exact (Sequence.perform _ _).bind bits
    · exact bits

/-- `_restore_service` is a sequence of commands. -/
theorem sequence_restoreService (service : String) (snapshot : Snapshot) :
    Sequence (restoreCommands service snapshot) (restoreAutoOutcome snapshot.autoProxy)
      (restoreService service snapshot) :=
  (sequence_restoreManualProxy (fun _ _ => rfl) (fun _ => rfl) _).bind <|
    (sequence_restoreManualProxy (fun _ _ => rfl) (fun _ => rfl) _).bind <|
      (sequence_restoreManualProxy (fun _ _ => rfl) (fun _ => rfl) _).bind <|
        (Sequence.perform _ _).bind (sequence_restoreAutoProxy ..)

theorem writesProxy_of_mem_restoreManualCommands {kind : ManualKind} {service : String}
    {saved : Option ManualProxyState} {command : Command}
    (member : command ∈ restoreManualCommands kind service saved) : command.WritesProxy := by
  cases saved with
  | none => simp [restoreManualCommands] at member
  | some saved =>
      simp only [restoreManualCommands, List.mem_append, List.mem_ite_nil_right,
        List.mem_singleton] at member
      rcases member with ⟨-, rfl⟩ | rfl <;> trivial

theorem writesProxy_of_mem_restoreCommands {service : String} {snapshot : Snapshot}
    {command : Command} (member : command ∈ restoreCommands service snapshot) :
    command.WritesProxy := by
  simp only [restoreCommands, List.mem_append, List.mem_singleton] at member
  rcases member with web | secureWeb | socks | rfl | auto
  · exact writesProxy_of_mem_restoreManualCommands web
  · exact writesProxy_of_mem_restoreManualCommands secureWeb
  · exact writesProxy_of_mem_restoreManualCommands socks
  · trivial
  · simp only [restoreAutoCommands, List.mem_ite_nil_left, List.mem_append,
      List.mem_ite_nil_right, List.mem_singleton] at auto
    rcases auto with ⟨-, (⟨-, rfl⟩ | ⟨-, rfl⟩) | rfl⟩ <;> trivial

/-- The endpoint is written back only when there is one; the enable bit always is. -/
def restoredManual (saved : Option ManualProxyState) (current : ManualProxyState) :
    ManualProxyState :=
  match saved with
  | none => current
  | some saved =>
      if saved.server ≠ "" ∧ 0 < saved.port then { saved with authenticated := false }
      else { current with enabled := saved.enabled }

def restoredAuto (saved current : AutoProxyState) : AutoProxyState where
  enabled := saved.enabled
  url := if strip saved.url ≠ "" then strip saved.url else current.url

/-- The settings of a service after `_restore_service`. -/
def restored (snapshot : Snapshot) (proxies : ServiceProxies) : ServiceProxies where
  auto := restoredAuto snapshot.autoProxy proxies.auto
  manual kind := restoredManual (snapshot.manualProxy kind) (proxies.manual kind)
  bypass := storedBypass (bypassArguments snapshot.bypassDomains)

theorem restored_restored (snapshot : Snapshot) (proxies : ServiceProxies) :
    restored snapshot (restored snapshot proxies) = restored snapshot proxies := by
  simp only [restored, restoredAuto, ServiceProxies.mk.injEq, AutoProxyState.mk.injEq, true_and,
    and_true]
  constructor
  · split <;> simp_all
  · funext kind
    cases saved : snapshot.manualProxy kind with
    | none => rfl
    | some saved =>
        simp only [restoredManual]
        split <;> simp_all

section

variable {turnsOn : Bool}

theorem after_restoreManualCommands (kind : ManualKind) (service : String)
    (saved : Option ManualProxyState) (world : World) :
    after (effect turnsOn) (restoreManualCommands kind service saved) world =
      world.update service fun proxies =>
        proxies.setManual kind (restoredManual saved (proxies.manual kind)) := by
  cases saved with
  | none =>
      have unchanged : (fun proxies : ServiceProxies =>
          proxies.setManual kind (proxies.manual kind)) = id := by
        funext proxies
        simp [ServiceProxies.setManual]
      simp only [restoreManualCommands, restoredManual, unchanged, World.update_id, after_nil]
  | some saved =>
      simp only [restoreManualCommands, restoredManual]
      split
      · simp only [List.cons_append, List.nil_append, after_cons, after_nil, effect,
          World.update_update]
        exact World.update_congr _ (by
          simp [ServiceProxies.setManual, ServiceProxies.setEnabled, ServiceProxies.setEndpoint])
      · rfl

theorem after_restoreAutoCommands (service : String) (auto : AutoProxyState) (world : World)
    (restorable : auto.enabled = true → strip auto.url ≠ "") :
    after (effect turnsOn) (restoreAutoCommands service auto) world =
      world.update service fun proxies =>
        { proxies with auto := restoredAuto auto proxies.auto } := by
  have raises : ¬ (auto.enabled = true ∧ strip auto.url = "") := fun both =>
    restorable both.1 both.2
  simp only [restoreAutoCommands, if_neg raises, restoredAuto]
  by_cases url : strip auto.url ≠ "" <;> cases auto.enabled <;>
    simp [url, effect, World.update, ServiceProxies.setAutoUrl, ServiceProxies.setAutoEnabled]

/-- `_restore_service` without failures. -/
theorem exec_restoreService (service : String) (snapshot : Snapshot) (world : World)
    (restorable : snapshot.autoProxy.enabled = true → strip snapshot.autoProxy.url ≠ "") :
    (restoreService service snapshot).exec (effect turnsOn) world =
      (.ok (), world.update service (restored snapshot)) := by
  have returns : restoreAutoOutcome snapshot.autoProxy = .ok () :=
    if_neg fun both => restorable both.1 both.2
  rw [(sequence_restoreService service snapshot).exec, returns, restoreCommands]
  simp only [after_append, after_restoreManualCommands, after_cons, after_nil,
    after_restoreAutoCommands _ _ _ restorable, effect, World.update_update]
  congr 1
  refine World.update_congr _ ?_
  refine ServiceProxies.ext rfl (funext fun kind => ?_) rfl
  cases kind <;> simp [restored]

theorem maintains_store {commands : List Command}
    (writes : ∀ command ∈ commands, command.WritesProxy) (file : Option RollbackFile) :
    Maintains (effect turnsOn) commands fun state => state.store = file :=
  .of_forall fun command member state holds => by
    rw [effect_store (writes command member), holds]

/-- What restoring does to each service; a service without a snapshot is left alone. -/
def restoreChange (snapshots : List (String × Snapshot)) (name : String) :
    ServiceProxies → ServiceProxies :=
  match snapshots.lookup name with
  | some snapshot => restored snapshot
  | none => id

theorem restoreChange_of_mem {snapshots : List (String × Snapshot)}
    (distinct : (snapshots.map Prod.fst).Nodup) {name : String} {snapshot : Snapshot}
    (member : (name, snapshot) ∈ snapshots) :
    restoreChange snapshots name = restored snapshot := by
  rw [restoreChange, lookup_of_mem distinct member]

theorem restoreChange_idempotent (snapshots : List (String × Snapshot)) (name : String)
    (proxies : ServiceProxies) :
    restoreChange snapshots name (restoreChange snapshots name proxies) =
      restoreChange snapshots name proxies := by
  unfold restoreChange
  cases snapshots.lookup name with
  | none => rfl
  | some snapshot => exact restored_restored ..

theorem exec_restoreServices {snapshots : List (String × Snapshot)}
    (restorable : ∀ name snapshot, snapshots.lookup name = some snapshot →
      snapshot.autoProxy.enabled = true → strip snapshot.autoProxy.url ≠ "")
    (names : List String) (known : ∀ name ∈ names, (snapshots.lookup name).isSome)
    (world : World) :
    (restoreServices snapshots names).exec (effect turnsOn) world =
      (.ok true, world.updateAll names (restoreChange snapshots)) := by
  induction names generalizing world with
  | nil => simp [restoreServices]
  | cons name names ih =>
      obtain ⟨snapshot, found⟩ := Option.isSome_iff_exists.mp (known name List.mem_cons_self)
      have returns : (restoreService name snapshot).exec (effect turnsOn) world = _ :=
        exec_restoreService name snapshot world (restorable name snapshot found)
      simp only [restoreServices, found]
      rw [exec_bind, exec_attempt, returns]
      dsimp only
      rw [exec_bind_ok (ih (fun other member => known other (List.mem_cons_of_mem _ member)) _),
        World.updateAll_cons _ _ _ _ (restoreChange_idempotent snapshots name), restoreChange, found]
      rfl

/-- The restoring loop can be stopped in every service, after all those before it. -/
theorem restoreServices_stops {snapshots : List (String × Snapshot)}
    (restorable : ∀ name snapshot, snapshots.lookup name = some snapshot →
      snapshot.autoProxy.enabled = true → strip snapshot.autoProxy.url ≠ "")
    {before after : List String} {name : String} {snapshot : Snapshot}
    (known : ∀ name ∈ before, (snapshots.lookup name).isSome)
    (found : snapshots.lookup name = some snapshot) {world last : World}
    (stops : (restoreService name snapshot).Stops (faultyHost turnsOn)
      (world.updateAll before (restoreChange snapshots)) last) :
    (restoreServices snapshots (before ++ name :: after)).Stops (faultyHost turnsOn)
      world last := by
  induction before generalizing world with
  | nil =>
      rw [World.updateAll_nil] at stops
      rw [List.nil_append, restoreServices, found]
      exact stops.attempt.bind _
  | cons first before ih =>
      obtain ⟨saved, lookup⟩ := Option.isSome_iff_exists.mp (known first List.mem_cons_self)
      rw [World.updateAll_cons _ _ _ _ (restoreChange_idempotent snapshots first)] at stops
      have returns : ((restoreService first saved).attempt : Proc (Except BackendError Unit)).exec
          (effect turnsOn) world = (.ok (.ok ()), world.update first (restored saved)) := by
        rw [exec_attempt, exec_restoreService first saved world (restorable first saved lookup)]
      rw [List.cons_append, restoreServices, lookup]
      refine stops_bind_of_exec returns (Stops.bind (ih (fun other member =>
        known other (List.mem_cons_of_mem _ member)) ?_) _)
      rwa [restoreChange, lookup] at stops

/-- The restoring loop keeps every invariant that the commands for each service keep. -/
theorem ensures_restoreServices {invariant : World → Prop}
    {snapshots : List (String × Snapshot)} {names : List String} {world : World}
    (keeps : ∀ name ∈ names, ∀ snapshot, snapshots.lookup name = some snapshot →
      Maintains (effect turnsOn) (restoreCommands name snapshot) invariant)
    (holds : invariant world) :
    (restoreServices snapshots names).Ensures (faultyHost turnsOn)
      (fun command state => command.WritesProxy ∧ invariant (effect turnsOn command state))
      (fun outcome last => invariant last ∧ ∃ answer, outcome = .ok answer) world := by
  induction names generalizing world with
  | nil => exact ⟨holds, true, rfl⟩
  | cons name names ih =>
      have others := fun last kept => @ih last
        (fun other member => keeps other (List.mem_cons_of_mem _ member)) kept
      rw [restoreServices, ensures_bind, ensures_attempt]
      cases found : snapshots.lookup name with
      | none =>
          refine ensures_bind _ |>.mpr ((others world holds).weaken_post ?_)
          rintro _ last ⟨kept, answer, rfl⟩
          exact ⟨kept, _, rfl⟩
      | some snapshot =>
          have stages := keeps name List.mem_cons_self snapshot found world holds
          refine ((sequence_restoreService name snapshot).ensures stages holds).mono ?_ ?_
          · rintro command state ⟨member, kept⟩
            exact ⟨writesProxy_of_mem_restoreCommands member, kept⟩
          · rintro outcome last ⟨kept, -⟩
            refine ensures_bind _ |>.mpr ((others last kept).weaken_post ?_)
            rintro _ last ⟨kept, answer, rfl⟩
            exact ⟨kept, _, rfl⟩

variable {py : Runtime}

theorem readBackup_eq_ok {file : Option RollbackFile} {payload : Payload}
    (loads : readBackup file = .ok payload) :
    file = some (.saved payload) ∧ payload.services ≠ [] ∧
      ∀ entry ∈ payload.services,
        entry.2.autoProxy.enabled = true → strip entry.2.autoProxy.url ≠ "" := by
  match file, loads with
  | some (.saved stored), loads =>
      simp only [readBackup, checkPayload] at loads
      split_ifs at loads with schema backend none blank
      obtain rfl := Except.ok.inj loads
      refine ⟨rfl, none, fun entry member enabled url => blank ?_⟩
      exact List.any_eq_true.mpr ⟨entry, member, by simp [enabled, url]⟩

/-- The world in which `disable` verifies its work. -/
def afterRestore (py : Runtime) (payload : Payload) (world : World) : World :=
  world.updateAll (plannedNames py payload.appliedConfig payload.services world)
    (restoreChange payload.services)

theorem mem_plannedNames {applied : CanonicalConfig} {services : List (String × Snapshot)}
    (distinct : (services.map Prod.fst).Nodup) {name : String} {snapshot : Snapshot}
    (member : (name, snapshot) ∈ services) (world : World) :
    name ∈ plannedNames py applied services world ↔
      needsRestore py snapshot applied (world.proxies name) = true := by
  simp only [plannedNames, List.mem_map, List.mem_filter]
  constructor
  · rintro ⟨⟨_, other⟩, ⟨saved, needs⟩, rfl⟩
    have same := (lookup_of_mem distinct saved).symm.trans (lookup_of_mem distinct member)
    obtain rfl := Option.some.inj same
    exact needs
  · exact fun needs => ⟨_, ⟨member, needs⟩, rfl⟩

theorem afterRestore_proxies {payload : Payload}
    (distinct : (payload.services.map Prod.fst).Nodup) {name : String} {snapshot : Snapshot}
    (member : (name, snapshot) ∈ payload.services) (world : World) :
    (afterRestore py payload world).proxies name =
      if needsRestore py snapshot payload.appliedConfig (world.proxies name) then
        restored snapshot (world.proxies name)
      else world.proxies name := by
  rw [afterRestore, World.updateAll_proxies, restoreChange_of_mem distinct member]
  simp only [mem_plannedNames distinct member]

theorem afterRestore_of_not_mem {payload : Payload} {name : String}
    (unsaved : name ∉ payload.services.map Prod.fst) (world : World) :
    (afterRestore py payload world).proxies name = world.proxies name := by
  rw [afterRestore, World.updateAll_proxies, if_neg]
  intro planned
  obtain ⟨entry, member, rfl⟩ := List.mem_map.mp planned
  exact unsaved (List.mem_map_of_mem (List.mem_filter.mp member).1)

/-- `disable` without failures, on evidence that cannot be read. -/
theorem exec_disable_unreadable {world : World} {error : BackendError}
    (present : world.store.isSome = true) (fails : readBackup world.store = .error error) :
    (disable py).exec (effect turnsOn) world = (.ok false, world) := by
  have found : (storeExists : Proc Bool).exec (effect turnsOn) world = (.ok true, world) := by
    change (Except.ok world.store.isSome, world) = _
    rw [present]
  have loaded : loadBackup.exec (effect turnsOn) world = (.error error, world) := by
    have returns : (ask .loadStore World.store
        (.rollbackState "macOS rollback state is unreadable") : Proc _).exec
          (effect turnsOn) world = (.ok world.store, world) := rfl
    rw [loadBackup, exec_bind_ok returns, exec_ofExcept, fails]
  rw [disable, exec_bind_ok found]
  simp only [Bool.not_true, Bool.false_eq_true, ↓reduceIte]
  rw [exec_bind, exec_attempt, loaded]
  rfl

/-- `disable` without failures, on evidence that can be read. -/
theorem exec_disable {world : World} {payload : Payload}
    (loads : readBackup world.store = .ok payload)
    (distinct : (payload.services.map Prod.fst).Nodup) :
    (disable py).exec (effect turnsOn) world =
      if restoreAccepted py payload world then
        if payload.services.all fun entry =>
            savedState py entry.2 ((afterRestore py payload world).proxies entry.1) then
          (.ok true, { afterRestore py payload world with store := none })
        else (.ok false, afterRestore py payload world)
      else (.ok false, world) := by
  obtain ⟨stored, -, restorable⟩ := readBackup_eq_ok loads
  have present : (storeExists : Proc Bool).exec (effect turnsOn) world = (.ok true, world) := by
    change (Except.ok world.store.isSome, world) = _
    rw [stored]; rfl
  have loaded : (loadBackup.attempt : Proc (Except BackendError Payload)).exec
      (effect turnsOn) world = (.ok (.ok payload), world) := by
    rw [exec_attempt, observes_loadBackup world loads]
  rw [disable, exec_bind_ok present]
  simp only [Bool.not_true, Bool.false_eq_true, ↓reduceIte]
  rw [exec_bind_ok loaded]
  dsimp only
  rw [exec_bind_ok (exec_restorePlan ..)]
  by_cases accepted : restoreAccepted py payload world = true
  · simp only [accepted, ↓reduceIte]
    have restores : (restoreTouchedServices payload.services
        (plannedNames py payload.appliedConfig payload.services world)).exec
          (effect turnsOn) world = (.ok true, afterRestore py payload world) := by
      rw [restoreTouchedServices, exec_restoreServices]
      · simp [afterRestore, World.updateAll]
      · intro name snapshot found
        exact restorable (name, snapshot) (mem_of_lookup found)
      · intro name planned
        obtain ⟨⟨_, snapshot⟩, member, rfl⟩ := List.mem_map.mp (List.mem_reverse.mp planned)
        rw [lookup_of_mem distinct (List.mem_filter.mp member).1]
        rfl
    rw [exec_bind_ok restores]
    simp only [Bool.not_true, Bool.false_eq_true, ↓reduceIte]
    rw [(decides_allMatchSnapshot py payload.services).exec_bind]
    cases verified : payload.services.all fun entry =>
        savedState py entry.2 ((afterRestore py payload world).proxies entry.1) with
    | false => simp
    | true =>
        simp only [Bool.not_true, Bool.false_eq_true, ↓reduceIte]
        rfl
  · simp only [accepted, Bool.false_eq_true, ↓reduceIte, exec_pure]

/-- `disable` can be stopped wherever its restoring loop can. -/
theorem disable_stops {world last : World} {payload : Payload}
    (loads : readBackup world.store = .ok payload)
    (accepted : restoreAccepted py payload world = true)
    (stops : (restoreTouchedServices payload.services
      (plannedNames py payload.appliedConfig payload.services world)).Stops
        (faultyHost turnsOn) world last) :
    (disable py).Stops (faultyHost turnsOn) world last := by
  have present : (storeExists : Proc Bool).exec (effect turnsOn) world = (.ok true, world) := by
    change (Except.ok world.store.isSome, world) = _
    rw [(readBackup_eq_ok loads).1]
    rfl
  have loaded : (loadBackup.attempt : Proc (Except BackendError Payload)).exec
      (effect turnsOn) world = (.ok (.ok payload), world) := by
    rw [exec_attempt, observes_loadBackup world loads]
  have plans := exec_restorePlan py (effect turnsOn) payload world
  rw [if_pos accepted] at plans
  exact stops_bind_of_exec present (stops_bind_of_exec loaded
    (stops_bind_of_exec plans (stops.bind _)))

/-- The evidence file exists or not; asking does not fail. -/
theorem ensures_storeExists (world : World) :
    (storeExists : Proc Bool).Ensures (faultyHost turnsOn) (fun _ _ => False)
      (fun outcome last => outcome = .ok world.store.isSome ∧ last = world) world :=
  ⟨fun _ => ⟨rfl, rfl⟩, fun impossible => by simp [faultyHost] at impossible⟩

/-- What `disable` can do: nothing unless the restore plan accepts the state, and nothing
once the evidence is gone. -/
theorem ensures_disable {invariant : World → Prop} {world : World}
    (restores : ∀ payload, readBackup world.store = .ok payload →
      ∀ entry ∈ payload.services,
        Maintains (effect turnsOn) (restoreCommands entry.1 entry.2) invariant)
    (holds : invariant world) :
    (disable py).Ensures (faultyHost turnsOn)
      (fun command state =>
        (∃ payload, readBackup world.store = .ok payload ∧
          restoreAccepted py payload world = true) ∧
        GuardedOrCleared turnsOn world.store invariant command state)
      (fun outcome last => ∃ answer, outcome = .ok answer ∧
        (answer = true → last.store = none) ∧
        (last.store = none ∨ last.store = world.store ∧ invariant last)) world := by
  rw [disable]
  refine ((ensures_storeExists world).mono (fun _ _ => False.elim)
    fun _ _ same => same).bind ?_ (by simp)
  rintro present last ⟨found, rfl⟩
  obtain rfl := Except.ok.inj found
  cases file : last.store with
  | none => exact ⟨true, rfl, fun _ => file, .inl file⟩
  | some content =>
      simp only [Option.isSome_some, Bool.not_true, Bool.false_eq_true, ↓reduceIte, ensures_bind,
        ensures_attempt]
      rw [← file]
      refine (ensures_loadBackup _ last).mono (fun _ _ => False.elim) ?_
      rintro (error | payload) state ⟨rfl, loaded⟩
      · exact ⟨false, rfl, by simp, .inr ⟨rfl, holds⟩⟩
      have loads := loaded payload rfl
      rw [followedBy_ok]
      refine ensures_bind _ |>.mpr ((ensures_restorePlan py _ payload state).mono
        (fun _ _ => False.elim) ?_)
      rintro _ state ⟨rfl, plan, rfl, sound⟩
      rw [followedBy_ok]
      cases plan with
      | none => exact ⟨false, rfl, by simp, .inr ⟨rfl, holds⟩⟩
      | some names =>
          have plan := (⟨payload, loads, (sound names rfl).1⟩ : ∃ payload,
            readBackup state.store = .ok payload ∧ restoreAccepted py payload state = true)
          refine ensures_bind _ |>.mpr ((ensures_restoreServices fun name _ snapshot found =>
            (restores payload loads _ (mem_of_lookup found)).and (maintains_store
              (fun _ => writesProxy_of_mem_restoreCommands) state.store)) ⟨holds, rfl⟩ |>.mono
                (fun command state writes =>
                  ⟨plan, .inl (guarded_of_writes command state writes)⟩) ?_)
          rintro _ last ⟨⟨kept, stored⟩, restored, rfl⟩
          rw [followedBy_ok]
          cases restored with
          | false => exact ⟨false, rfl, by simp, .inr ⟨stored, kept⟩⟩
          | true =>
              simp only [Bool.not_true, Bool.false_eq_true, ↓reduceIte]
              refine (decides_allMatchSnapshot py payload.services).ensures_bind ?_
              rintro (_ | _) -
              · exact ⟨false, rfl, by simp, .inr ⟨stored, kept⟩⟩
              · simp only [Bool.not_true, Bool.false_eq_true, ↓reduceIte, ensures_bind,
                  ensures_attempt]
                exact ⟨⟨plan, .inr ⟨stored, rfl⟩⟩, fun _ => ⟨true, rfl, fun _ => rfl, .inl rfl⟩,
                  fun _ => ⟨false, rfl, by simp, .inr ⟨stored, kept⟩⟩⟩

end

end ProxyLauncher.MacOS
