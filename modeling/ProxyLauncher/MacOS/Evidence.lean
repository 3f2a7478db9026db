import ProxyLauncher.Interruption.Session
import ProxyLauncher.MacOS.Refresh

/-!
# The evidence over whole sessions

Sessions of all four operations, interrupted anywhere and with arbitrary failures, while
other programs change the settings and the list of services in between.
-/

namespace ProxyLauncher.MacOS

open Interruption Interruption.Program Python

inductive Call where
  | enable (config : ProxyBackendConfig)
  | disable
  | refresh (config : ProxyBackendConfig)
  | syncNoProxy (config : ProxyBackendConfig)

def Call.program (py : Runtime) : Call → Proc Bool
  | enable config => MacOS.enable py config
  | disable => MacOS.disable py
  | refresh config => MacOS.refresh py config
  | syncNoProxy config => MacOS.syncNoProxy py config

/-- Other programs change anything but the evidence. -/
def ForeignChange (before after : World) : Prop :=
  after.store = before.store

/-- A state of the machine together with the call that is in progress. -/
abbrev BackendSession := Session World Query Command BackendError Bool

/-- The steps of sessions of backend calls. -/
abbrev SessionStep (py : Runtime) (turnsOn : Bool) :
    BackendSession → BackendSession → Prop :=
  Session.Step (faultyHost turnsOn) (Call.program py) Session.Always ForeignChange

section

variable {py : Runtime} {turnsOn : Bool} {config : ProxyBackendConfig} {world : World}

/-- The loop of `sync_no_proxy` compares every list with itself. -/
theorem syncServices_eq (touched : List String) (services : List (String × Snapshot)) :
    syncServices py touched services = pure (.ok (), touched) := by
  induction services with
  | nil => rfl
  | cons entry rest ih => rw [syncServices, domainsEqual_self, if_pos rfl, ih]

theorem ensures_syncNoProxy :
    (syncNoProxy py config).Ensures (faultyHost turnsOn)
      (fun command state => ∃ payload canonical, readBackup state.store = .ok payload ∧
        canonicalConfig py config = .ok (some canonical) ∧
        command = .saveStore { payload with appliedConfig := canonical })
      (fun _ _ => True) world := by
  rw [syncNoProxy, ensures_bind, ensures_ofExcept]
  cases canonicalizes : canonicalConfig py config with
  | error error => trivial
  | ok canonical =>
  cases canonical with
  | none => trivial
  | some canonical =>
      rw [followedBy_ok]
      refine ((ensures_storeExists world).mono (fun _ _ => False.elim)
        fun _ _ same => same).bind ?_ (by simp)
      rintro present last ⟨-, rfl⟩
      split
      next => trivial
      next =>
        rw [ensures_bind, ensures_attempt]
        refine (ensures_loadBackup _ last).mono (fun _ _ => False.elim) ?_
        rintro (error | payload) state ⟨rfl, loaded⟩
        · trivial
        have loads := loaded payload rfl
        rw [followedBy_ok]
        rw [ensures_bind, ensures_ofExcept]
        cases payloadMatchesConfig py payload config true with
        | error error => trivial
        | ok answer =>
            rw [followedBy_ok]
            split
            next => trivial
            next =>
              refine (decides_payloadIsOwned py payload).ensures_bind fun owned _ => ?_
              split
              next => trivial
              next =>
                -- No bypass list is written, so there is none to reset when the save fails.
                rw [syncServices_eq]
                exact ⟨⟨payload, canonical, loads, rfl, rfl⟩, fun _ => trivial, fun _ => trivial⟩

/-- With evidence on disk, `enable` only looks at it. -/
theorem ensures_enable_present (present : world.store.isSome = true) :
    (enable py config).Ensures (faultyHost turnsOn) (fun _ _ => False)
      (fun _ last => last = world) world := by
  rw [enable, ensures_bind, ensures_ofExcept]
  cases canonicalConfig py config with
  | error error => rfl
  | ok canonical =>
  cases canonical with
  | none => rfl
  | some canonical =>
      rw [followedBy_ok]
      refine ((ensures_storeExists world).mono (fun _ _ => False.elim)
        fun _ _ same => same).bind ?_ (by simp)
      rintro _ last ⟨found, rfl⟩
      obtain rfl := Except.ok.inj found
      rw [present, if_pos rfl, ensures_bind, ensures_attempt]
      refine (ensures_loadBackup _ last).mono (fun _ _ => False.elim) ?_
      rintro (error | payload) state ⟨rfl, -⟩
      · rfl
      rw [followedBy_ok, ensures_bind, ensures_ofExcept]
      cases payloadMatchesConfig py payload config false with
      | error error => rfl
      | ok answer =>
          rw [followedBy_ok]
          split
          next =>
            refine ((decides_payloadIsOwned py payload).ensures _ state).mono
              (fun _ _ => False.elim) ?_
            exact fun _ _ same => same.1
          next => rfl

/-- A setting is written only while there is evidence, and evidence is only replaced by
evidence with the same snapshots. -/
def KeepsEvidence (command : Command) (state : World) : Prop :=
  (command.WritesProxy → state.store ≠ none) ∧
    ∀ saved, command = .saveStore saved → ∀ payload,
      state.store = some (.saved payload) → saved.services.Perm payload.services

theorem keepsEvidence_of_guarded {invariant : World → Prop} {file : RollbackFile}
    {command : Command} {state : World}
    (guarded : GuardedOrCleared turnsOn (some file) invariant command state) :
    KeepsEvidence command state := by
  rcases guarded with ⟨stored, writes, -⟩ | ⟨stored, rfl⟩
  · refine ⟨fun _ => by simp [stored], ?_⟩
    rintro saved rfl
    exact writes.elim
  · exact ⟨False.elim, by simp⟩

/-- Any commands maintain the trivial invariant. -/
theorem maintains_true (commands : List Command) :
    Maintains (effect turnsOn) commands fun _ => True :=
  fun _ _ _ _ => trivial

theorem keepsEvidence_enable : (enable py config).Ensures (faultyHost turnsOn) KeepsEvidence
    (fun _ _ => True) world := by
  cases file : world.store with
  | some file =>
      have contract : (enable py config).Ensures (faultyHost turnsOn) (fun _ _ => False)
          (fun _ last => last = world) world := ensures_enable_present (by rw [file]; rfl)
      exact contract.mono (fun _ _ => False.elim) fun _ _ _ => trivial
  | none =>
      cases canonicalizes : canonicalConfig py config with
      | error error =>
          rw [enable, canonicalizes]
          trivial
      | ok canonical =>
      cases canonical with
      | none =>
          rw [enable, canonicalizes]
          trivial
      | some canonical =>
          have contract : (enable py config).Ensures (faultyHost turnsOn) _ _ world :=
            ensures_enable py canonicalizes file trivial (fun _ _ => maintains_true _)
              fun _ _ => maintains_true _
          refine contract.mono (fun command state issued => ?_) fun _ _ _ => trivial
          rcases issued with ⟨rfl, rfl⟩ | guarded
          · refine ⟨False.elim, fun _ _ payload stored => ?_⟩
            rw [file] at stored
            cases stored
          · exact keepsEvidence_of_guarded guarded

theorem keepsEvidence_disable : (disable py).Ensures (faultyHost turnsOn) KeepsEvidence
    (fun _ _ => True) world := by
  have contract : (disable py).Ensures (faultyHost turnsOn) _ _ world :=
    ensures_disable (fun _ _ _ _ => maintains_true _) trivial
  refine contract.mono (fun command state issued => ?_) fun _ _ _ => trivial
  obtain ⟨⟨payload, loads, -⟩, guarded⟩ := issued
  rw [(readBackup_eq_ok loads).1] at guarded
  exact keepsEvidence_of_guarded guarded

theorem keepsEvidence_refresh : (refresh py config).Ensures (faultyHost turnsOn) KeepsEvidence
    (fun _ _ => True) world := by
  have contract : (refresh py config).Ensures (faultyHost turnsOn) _ _ world :=
    ensures_refresh (fun _ _ _ _ _ _ _ _ => ⟨maintains_true _, maintains_true _⟩) trivial
  refine contract.mono (fun command state issued => ?_) fun _ _ _ => trivial
  obtain ⟨⟨payload, loads, -⟩, guarded⟩ := issued
  rw [(readBackup_eq_ok loads).1] at guarded
  exact keepsEvidence_of_guarded (.inl guarded)

theorem keepsEvidence_syncNoProxy : (syncNoProxy py config).Ensures (faultyHost turnsOn)
    KeepsEvidence (fun _ _ => True) world := by
  refine ensures_syncNoProxy.mono (fun command state issued => ?_) fun _ _ _ => trivial
  obtain ⟨payload, canonical, loads, -, rfl⟩ := issued
  refine ⟨False.elim, fun saved isSave stored same => ?_⟩
  obtain rfl := Command.saveStore.inj isSave
  obtain ⟨loaded, -⟩ := readBackup_eq_ok loads
  obtain rfl := RollbackFile.saved.inj (Option.some.inj (loaded.symm.trans same))
  exact .refl _

theorem ensures_call (call : Call) (world : World) :
    (call.program py).Ensures (faultyHost turnsOn) KeepsEvidence (fun _ _ => True) world := by
  cases call with
  | enable config => exact keepsEvidence_enable
  | disable => exact keepsEvidence_disable
  | refresh config => exact keepsEvidence_refresh
  | syncNoProxy config => exact keepsEvidence_syncNoProxy

/-- The evidence after a command, if there still is one. -/
theorem KeepsEvidence.services {command : Command} {state : World} {payload : Payload}
    (keeps : KeepsEvidence command state) (stored : state.store = some (.saved payload))
    (present : (effect turnsOn command state).store ≠ none) :
    ∃ later, (effect turnsOn command state).store = some (.saved later) ∧
      later.services.Perm payload.services := by
  cases command with
  | saveStore saved =>
      exact ⟨_, rfl, (sortKeys_perm _).trans (keeps.2 saved rfl payload stored)⟩
  | clearStore => exact absurd rfl present
  | _ => exact ⟨payload, stored, .refl _⟩

/-- The running call keeps the evidence. -/
abbrev SafeSession (turnsOn : Bool) : BackendSession → Prop :=
  Session.Safe (faultyHost turnsOn) KeepsEvidence fun _ => True

theorem safeSession_reaches {session session' : BackendSession}
    (safe : SafeSession turnsOn session)
    (reaches : Relation.ReflTransGen (SessionStep py turnsOn) session session') :
    SafeSession turnsOn session' :=
  safe.reaches (fun call state _ _ => ensures_call call state) (fun _ _ _ _ => trivial)
    (fun _ _ _ _ => trivial) reaches

/-- One step of a session after which there is still evidence. -/
def StepWithEvidence (py : Runtime) (turnsOn : Bool) (session session' : BackendSession) : Prop :=
  SessionStep py turnsOn session session' ∧ session'.state.store ≠ none

theorem StepWithEvidence.services {session session' : BackendSession} {payload : Payload}
    (step : StepWithEvidence py turnsOn session session') (safe : SafeSession turnsOn session)
    (stored : session.state.store = some (.saved payload)) :
    ∃ later, session'.state.store = some (.saved later) ∧
      later.services.Perm payload.services := by
  obtain ⟨step, present⟩ := step
  cases step with
  | start | stop => exact ⟨payload, stored, .refl _⟩
  | foreign change => exact ⟨payload, change.trans stored, .refl _⟩
  | run step =>
      cases step with
      | answered | unanswered | refused => exact ⟨payload, stored, .refl _⟩
      | accepted => exact (safe.running _ rfl).1.services stored present

/-- From the save that created them to the clear that removes them, the saved services
are the same dictionary. -/
theorem services_of_evidence {session later : BackendSession} {payload : Payload}
    (safe : SafeSession turnsOn session) (stored : session.state.store = some (.saved payload))
    (reaches : Relation.ReflTransGen (StepWithEvidence py turnsOn) session later) :
    ∃ kept, later.state.store = some (.saved kept) ∧
      kept.services.Perm payload.services := by
  suffices both : SafeSession turnsOn later ∧ ∃ kept, later.state.store = some (.saved kept) ∧
      kept.services.Perm payload.services from both.2
  induction reaches with
  | refl => exact ⟨safe, payload, stored, .refl _⟩
  | tail _ step ih =>
      obtain ⟨safe, kept, stored, same⟩ := ih
      obtain ⟨later, stored, same'⟩ := step.services safe stored
      exact ⟨safeSession_reaches safe (.single step.1), later, stored, same'.trans same⟩

/-- `disable` issues no command when a saved service is in a foreign state. -/
theorem disable_refuses {payload : Payload} (stored : world.store = some (.saved payload))
    (foreign : ∃ entry ∈ payload.services,
      acceptedState py entry.2 payload.appliedConfig (world.proxies entry.1) = false)
    (command : Command) (state : World) :
    ¬ (disable py).Issues (faultyHost turnsOn) world command state := by
  intro issues
  have contract : (disable py).Ensures (faultyHost turnsOn) _ _ world :=
    ensures_disable (fun _ _ _ _ => maintains_true _) trivial
  obtain ⟨⟨loaded, loads, accepted⟩, -⟩ := contract.issues issues
  obtain rfl := RollbackFile.saved.inj
    (Option.some.inj (stored.symm.trans (readBackup_eq_ok loads).1))
  obtain ⟨entry, member, foreign⟩ := foreign
  rw [restoreAccepted, Bool.and_eq_true, allAccepted, List.all_eq_true] at accepted
  rw [accepted.2 entry member] at foreign
  cases foreign

/-- In every session, whatever fails and wherever calls are stopped: settings are written
only while there is evidence, the saved services do not change while it exists, and
`disable` does nothing when one of them is in a foreign state. -/
theorem evidence_invariant (py : Runtime) (turnsOn : Bool) (start : World)
    (session : BackendSession)
    (reached : Relation.ReflTransGen (SessionStep py turnsOn) ⟨none, start⟩ session) :
    (∀ command next, session.running = some (.issue command next) → command.WritesProxy →
      session.state.store ≠ none) ∧
    (∀ payload later, session.state.store = some (.saved payload) →
      Relation.ReflTransGen (StepWithEvidence py turnsOn) session later →
      ∃ kept, later.state.store = some (.saved kept) ∧
        kept.services.Perm payload.services) ∧
    ∀ payload, session.state.store = some (.saved payload) →
      (∃ entry ∈ payload.services, acceptedState py entry.2 payload.appliedConfig
        (session.state.proxies entry.1) = false) →
      (∀ command state,
        ¬ (disable py).Issues (faultyHost turnsOn) session.state command state) ∧
      ∀ last, (disable py).Stops (faultyHost turnsOn) session.state last →
        last = session.state := by
  have safe : SafeSession turnsOn session := safeSession_reaches (.idle trivial) reached
  refine ⟨fun command next running => ?_, fun payload later stored => ?_,
    fun payload stored foreign => ⟨disable_refuses stored foreign, fun last stops => ?_⟩⟩
  · exact (safe.running _ running).1.1
  · exact services_of_evidence safe stored
  · exact stops.eq_of_not_issues (disable_refuses stored foreign)

/-- The proxy that somebody else has set up meanwhile. -/
def foreignProxies : ServiceProxies :=
  { sampleProxies with auto := { enabled := true, url := "http://other.test/proxy.pac" } }

/-- An enable runs to its end, and then the service gets another automatic proxy. -/
theorem evidence_invariant_sample :
    let world := { (sampleWorld sampleProxies).enabled sampleConfig sampleCanonical with
      proxies := fun _ => foreignProxies }
    let payload := storedEvidence sampleCanonical (sampleWorld sampleProxies)
    (∀ later, Relation.ReflTransGen (StepWithEvidence sampleRuntime false) ⟨none, world⟩ later →
      ∃ kept, later.state.store = some (.saved kept) ∧
        kept.services.Perm payload.services) ∧
    (∀ command state, ¬ (disable sampleRuntime).Issues (faultyHost false) world command state) ∧
    ∀ last, (disable sampleRuntime).Stops (faultyHost false) world last → last = world := by
  intro world payload
  have finishes := @finishes_of_exec false _ _ (.ok true) (enable sampleRuntime sampleConfig)
    (sampleWorld sampleProxies) (by decide +kernel)
  obtain ⟨same, -⟩ := finishes_enable sampleRuntime sample_canonicalizes rfl finishes
  rw [same] at finishes
  have reached : Relation.ReflTransGen (SessionStep sampleRuntime false)
      ⟨none, sampleWorld sampleProxies⟩ ⟨none, world⟩ :=
    .tail (.tail (.head (.start (Call.enable sampleConfig) _ Session.always)
      (Session.reaches_of_run finishes)) (.stop _ _)) (.foreign rfl)
  obtain ⟨-, kept, refuses⟩ :=
    evidence_invariant sampleRuntime false (sampleWorld sampleProxies) ⟨none, world⟩ reached
  refine ⟨fun later further => kept payload later rfl further, refuses payload rfl ?_⟩
  exact ⟨_, List.mem_cons_self, by decide⟩

end

end ProxyLauncher.MacOS
