import ProxyLauncher.Windows.PacRecovery
import ProxyLauncher.Windows.Restore

/-!
# Recovery writes the PAC only

Beside any other writers, both recovery functions change the entry of the PAC and no other
registry value, and self-healing writes only after reads that showed an eligible state.  Whether
the repaired state is one that disabling accepts depends on how the two flags are stored.
-/

namespace ProxyLauncher.Windows

open ProxyLauncher.Configuration Interruption Program Python

/-- What a function has read last of the backup, of the settings and of each registry value, and
whether it has issued a command. -/
structure Knowledge where
  backup : Option InternetSettings := none
  settings : Option RuntimeSettings := none
  seen : InternetSetting → Option (Option InternetValue) := fun _ => none
  issued : Bool := false

def Knowledge.learn (known : Knowledge) : RecoveryEvent → Knowledge
  | .answered (.setting name) desktop =>
      { known with seen := Function.update known.seen name (some (desktop.internet name)) }
  | .answered .internetBackup desktop =>
      { known with backup := BackupFile.values desktop.surroundings.internetBackup }
  | .answered .settings desktop => { known with settings := some desktop.surroundings.settings }
  | .issued .. => { known with issued := true }
  | _ => known

def knowledge (events : List RecoveryEvent) : Knowledge :=
  events.foldl Knowledge.learn {}

@[simp] theorem knowledge_concat (events : List RecoveryEvent) (event : RecoveryEvent) :
    knowledge (events ++ [event]) = (knowledge events).learn event := by
  simp [knowledge]

@[simp] theorem knowledge_own (events : List RecoveryEvent) :
    knowledge (events.filter Event.isOwn) = knowledge events := by
  unfold knowledge
  generalize ({} : Knowledge) = known
  induction events generalizing known with
  | nil => rfl
  | cons event events ih =>
      cases event with
      | answered | unanswered | issued => exact ih _
      | foreign action => exact ih known

/-- Others have not written a registry value since it was read. -/
def Undisturbed (name : InternetSetting) (events : List RecoveryEvent) : Prop :=
  ∃ before desktop after, events = before ++ .answered (.setting name) desktop :: after ∧
    ∀ value, .foreign (.writeInternet name value) ∉ after

variable {platform : Platform} {events past : List RecoveryEvent} {start last : Desktop}
  {name : InternetSetting} {α : Type} {program rest : RecoveryProc α}

theorem learn_issued (known : Knowledge) (event : RecoveryEvent) (issued : known.issued = true) :
    (known.learn event).issued = true := by
  unfold Knowledge.learn
  split <;> simp [issued]

theorem foldl_learn_issued (known : Knowledge) (issued : known.issued = true) :
    (events.foldl Knowledge.learn known).issued = true := by
  induction events generalizing known with
  | nil => exact issued
  | cons event events ih => exact ih _ (learn_issued known event issued)

/-- A value that others leave alone stays as it was read. -/
theorem seen_of_runs {known : Knowledge}
    (runs : Runs (.faulty recoveryEffect) foreignEffect program start events rest last)
    (silent : (events.foldl Knowledge.learn known).issued = false)
    (alone : ∀ value, .foreign (.writeInternet name value) ∉ events)
    (accurate : known.seen name = some (start.internet name)) :
    (events.foldl Knowledge.learn known).seen name = some (last.internet name) := by
  induction runs generalizing known with
  | refl => exact accurate
  | @answered query next state last events rest answers runs ih =>
      refine ih silent (fun value member => alone value (List.mem_cons_of_mem _ member)) ?_
      cases query with
      | setting other =>
          by_cases same : other = name
          · subst same
            simp [Knowledge.learn]
          · simp [Knowledge.learn, Ne.symm same, accurate]
      | _ => exact accurate
  | unanswered answers runs ih =>
      exact ih silent (fun value member => alone value (List.mem_cons_of_mem _ member)) accurate
  | accepted accepts runs ih =>
      rw [List.foldl_cons, foldl_learn_issued _ rfl] at silent
      cases silent
  | refused accepts runs ih =>
      rw [List.foldl_cons, foldl_learn_issued _ rfl] at silent
      cases silent
  | @interfered program action state last events rest runs ih =>
      refine ih silent (fun value member => alone value (List.mem_cons_of_mem _ member)) ?_
      cases action with
      | change surroundings => exact accurate
      | writeInternet other value =>
          have different : name ≠ other := by
            rintro rfl
            exact alone value List.mem_cons_self
          change known.seen name = some (Function.update state.internet other value name)
          rw [Function.update_of_ne different, accurate]

/-- A registry value that was read and left alone since is the one that was read last. -/
theorem seen_of_undisturbed
    (runs : Runs (.faulty recoveryEffect) foreignEffect program start events rest last)
    (silent : (knowledge events).issued = false) (undisturbed : Undisturbed name events) :
    (knowledge events).seen name = some (last.internet name) := by
  obtain ⟨before, desktop, after, rfl, alone⟩ := undisturbed
  obtain ⟨between, middle, -, runs⟩ := runs.split
  rw [knowledge, List.foldl_append, List.foldl_cons] at silent ⊢
  cases runs with
  | answered answers runs =>
      exact seen_of_runs runs silent alone (Function.update_self ..)

variable {guarantee : List RecoveryEvent → RecoveryCommand → Prop}

/-- What reading the registry teaches: the values that it returns, and nothing else. -/
def Observed (past : List RecoveryEvent) (outcome : Except WindowsError (Option InternetSettings))
    (after : List RecoveryEvent) : Prop :=
  (∃ seen, knowledge after = { knowledge past with seen }) ∧
    ∀ values, outcome = .ok (some values) → ∀ name, (knowledge after).seen name = some (values name)

theorem withstands_querySettings (names : List InternetSetting) (values : InternetSettings)
    (earlier : ∀ name, name ∉ names → (knowledge past).seen name = some (values name)) :
    (querySettings names values).Withstands guarantee (Observed past) past := by
  induction names generalizing values past with
  | nil =>
      refine ⟨⟨_, rfl⟩, ?_⟩
      rintro found same name
      obtain rfl := Option.some.inj (Except.ok.inj same)
      exact earlier name List.not_mem_nil
  | cons head names ih =>
      refine ⟨fun desktop => ?_, ?_⟩
      · have later := @ih (past ++ [.answered (.setting head) desktop])
          (Function.update values head (desktop.internet head)) ?_
        · refine later.mono (fun _ _ guaranteed => guaranteed) ?_
          rintro outcome after ⟨⟨seen, same⟩, found⟩
          exact ⟨⟨seen, by rw [same, knowledge_concat]; rfl⟩, found⟩
        · intro name absent
          rw [knowledge_concat]
          by_cases same : name = head
          · subst same
            simp [Knowledge.learn]
          · simp [Knowledge.learn, same, earlier name (by simp [same, absent])]
      · refine ⟨⟨(knowledge past).seen, ?_⟩, ?_⟩
        · rw [knowledge_concat]
          rfl
        · rintro found same
          cases Except.ok.inj same

theorem withstands_queryInternetSettings :
    queryInternetSettings.Withstands guarantee (Observed past) past :=
  withstands_querySettings _ _ fun name absent => absurd (mem_internetSettingsNames name) absent

/-- A program that issues no command withstands every guarantee. -/
theorem withstands_queryEligible (saved : InternetSettings) :
    (queryEligible platform saved).Withstands guarantee (fun outcome after =>
      (∃ seen, knowledge after = { knowledge past with seen }) ∧
        (outcome = .ok true → ∃ values, eligible platform saved values = true ∧
          ∀ name, (knowledge after).seen name = some (values name))) past := by
  refine withstands_queryInternetSettings.bind ?_ ?_
  · rintro answer after ⟨same, found⟩
    cases answer with
    | none => exact ⟨same, by simp⟩
    | some values =>
        refine ⟨same, fun accepted => ⟨values, ?_, found values rfl⟩⟩
        exact Except.ok.inj accepted
  · rintro error after ⟨same, -⟩
    exact ⟨same, by simp⟩

/-- A program that reads only. -/
def Silent (program : RecoveryProc α) : Prop :=
  ∀ guarantee post past, (∀ outcome after, post outcome after) →
    program.Withstands (guarantee : List RecoveryEvent → RecoveryCommand → Prop) post past

theorem Silent.bind {β : Type} {rest : α → RecoveryProc β} (first : Silent program)
    (second : ∀ value, Silent (rest value)) : Silent (program >>= rest) := by
  intro guarantee post past holds
  exact (first guarantee (fun _ _ => True) past (fun _ _ => trivial)).bind
    (fun value past _ => second value guarantee post past holds) (fun error past _ => holds _ _)

theorem silent_pure (value : α) : Silent (pure value) := fun _ _ _ holds => holds _ _

theorem silent_ask (query : RecoveryQuery) (view : Desktop → α) (error : WindowsError) :
    Silent (ask query view error) := fun _ _ _ holds => ⟨fun _ => holds _ _, holds _ _⟩

theorem silent_queryInternetSettings : Silent queryInternetSettings := by
  intro guarantee post past holds
  exact withstands_queryInternetSettings.mono (fun _ _ guaranteed => guaranteed)
    fun outcome after _ => holds outcome after

theorem silent_pacIsOwned (values : InternetSettings) : Silent (pacIsOwned platform values) := by
  unfold pacIsOwned
  split
  · exact silent_pure _
  · exact (silent_ask _ _ _).bind fun _ => silent_pure _

theorem silent_systemProxyIsEnabled : Silent (systemProxyIsEnabled platform) :=
  silent_queryInternetSettings.bind fun _ => (silent_pacIsOwned _).bind fun _ => silent_pure _

/-- Nothing was issued, and the backup and the last read of every value allow the repair. -/
structure Repairable (platform : Platform) (saved : InternetSettings) (known : Knowledge) :
    Prop where
  issued : known.issued = false
  backup : known.backup = some saved
  eligible : ∃ values, eligible platform saved values = true ∧
    ∀ name, known.seen name = some (values name)

/-- The one write of self-healing, after what has been read. -/
def Justified (platform : Platform) (past : List RecoveryEvent) (command : RecoveryCommand) :
    Prop :=
  ∃ saved settings, Repairable platform saved (knowledge past) ∧
    (knowledge past).settings = some settings ∧
    command = .setInternet .autoConfigURL (.text (pacUrl settings))

theorem withstands_stopRequested :
    stopRequested.Withstands guarantee (fun _ after => knowledge after = knowledge past) past :=
  ⟨fun desktop => knowledge_concat past (.answered .stopRequested desktop),
    knowledge_concat past (.unanswered .stopRequested)⟩

theorem withstands_reassertPac {saved : InternetSettings}
    (repairable : Repairable platform saved (knowledge past)) :
    (reassertPac platform).Withstands (Justified platform) (fun _ _ => True) past := by
  refine ⟨fun desktop => ?_, trivial⟩
  refine ⟨⟨saved, desktop.surroundings.settings, ?_, ?_, rfl⟩, fun done => ?_⟩
  · rw [knowledge_concat]
    exact ⟨repairable.issued, repairable.backup, repairable.eligible⟩
  · rw [knowledge_concat]
    rfl
  · cases done with
    | false => trivial
    | true =>
        have silent := @silent_systemProxyIsEnabled platform
        refine (silent _ (fun _ _ => True) _ fun _ _ => trivial).bind (fun restored after _ => ?_)
          fun _ _ _ => trivial
        cases restored <;> trivial

/-- One check of the state and the question whether to stop. -/
theorem withstands_check {saved : InternetSettings} {continuation : RecoveryProc SelfHeal}
    (fresh : ∃ seen, knowledge past = { backup := some saved, seen })
    (continues : ∀ after, (∃ seen, knowledge after = { backup := some saved, seen }) →
      Repairable platform saved (knowledge after) →
      continuation.Withstands (Justified platform) (fun _ _ => True) after) :
    (do
      if !(← queryEligible platform saved) then pure .foreign
      else if ← stopRequested then pure .skipped
      else continuation : RecoveryProc SelfHeal).Withstands (Justified platform) (fun _ _ => True)
        past := by
  obtain ⟨seen, fresh⟩ := fresh
  refine (withstands_queryEligible saved).bind ?_ fun _ _ _ => trivial
  rintro accepted after ⟨⟨now, same⟩, shown⟩
  cases accepted with
  | false => trivial
  | true =>
      have state : knowledge after = { backup := some saved, seen := now } := by rw [same, fresh]
      refine withstands_stopRequested.bind ?_ fun _ _ _ => trivial
      intro stop later unchanged
      cases stop with
      | true => trivial
      | false =>
          rw [state] at unchanged
          refine continues later ⟨now, unchanged⟩ ⟨by rw [unchanged], by rw [unchanged], ?_⟩
          rw [unchanged, ← state]
          exact shown rfl

theorem withstands_reassertMissingOwnedPac :
    (reassertMissingOwnedPac platform).Withstands (Justified platform) (fun _ _ => True) [] := by
  refine withstands_stopRequested.bind ?_ fun _ _ _ => trivial
  intro stop past unread
  cases stop with
  | true => trivial
  | false =>
      refine ⟨fun desktop => ?_, trivial⟩
      have read := knowledge_concat past (.answered .internetBackup desktop)
      rw [unread] at read
      rw [withstands_pure_bind, Option.map_some]
      cases backup : BackupFile.values desktop.surroundings.internetBackup with
      | none => trivial
      | some saved =>
          dsimp only [Option.join_some]
          split
          · trivial
          · have fresh : knowledge (past ++ [.answered .internetBackup desktop]) =
                { backup := some saved } := by
              rw [read, Knowledge.learn, backup]
              rfl
            refine withstands_check ⟨_, fresh⟩ fun after fresh _ => ?_
            exact withstands_check fresh fun later _ repairable =>
              withstands_reassertPac repairable

/-- A command that leaves every registry value but the PAC alone. -/
def ConfinedToPac (_past : List RecoveryEvent) (command : RecoveryCommand) : Prop :=
  ∀ name, command.changes = some name → name = .autoConfigURL

theorem silent_nothingElseIsLeft : Silent nothingElseIsLeft := by
  unfold nothingElseIsLeft
  dsimp only
  refine (silent_ask _ _ _).bind fun active => ?_
  split
  · exact silent_pure _
  · refine (silent_ask _ _ _).bind fun running => ?_
    split
    · exact silent_pure _
    · refine (silent_ask _ _ _).bind fun known => ?_
      split
      · exact silent_pure _
      · refine (silent_ask _ _ _).bind fun canonical => ?_
        split
        · exact silent_pure _
        · exact silent_pure _

theorem silent_orphanedArvectumPac : Silent (orphanedArvectumPac platform) := by
  refine (silent_ask _ _ _).bind fun blocked => ?_
  split
  · exact silent_pure _
  · refine silent_queryInternetSettings.bind fun values => (silent_pacIsOwned _).bind fun owned => ?_
    split
    · exact silent_nothingElseIsLeft
    · exact silent_pure _

theorem Silent.then_confined {β : Type} {rest : α → RecoveryProc β} (silent : Silent program)
    (confined : ∀ value past, (rest value).Withstands ConfinedToPac (fun _ _ => True) past) :
    (program >>= rest).Withstands ConfinedToPac (fun _ _ => True) past :=
  (silent _ (fun _ _ => True) past fun _ _ => trivial).bind
    (fun value past _ => confined value past) fun _ _ _ => trivial

theorem withstands_writeOrphanedPacSnapshot (values : InternetSettings) :
    (writeOrphanedPacSnapshot values).Withstands ConfinedToPac (fun _ _ => True) past := by
  refine (silent_ask _ _ _).then_confined fun settings after => ⟨?_, fun _ => trivial⟩
  rintro name ⟨⟩

theorem withstands_clearOrphanedArvectumPac :
    (clearOrphanedArvectumPac platform).Withstands ConfinedToPac (fun _ _ => True) past := by
  refine silent_orphanedArvectumPac.then_confined fun orphaned past => ?_
  split
  · trivial
  · refine silent_queryInternetSettings.then_confined fun values past => ?_
    refine (silent_pacIsOwned _).then_confined fun owned past => ?_
    split
    · trivial
    · refine (withstands_writeOrphanedPacSnapshot _).bind (fun written past _ => ?_)
        fun _ _ _ => trivial
      split
      · trivial
      · refine ⟨?_, fun done => ?_⟩
        · rintro name ⟨⟩
          rfl
        · cases done with
          | false => trivial
          | true =>
              exact silent_systemProxyIsEnabled.then_confined fun _ _ => trivial

/-- A flag that disabling accepts. -/
def FlagAccepted (saved current : InternetSettings) (name : InternetSetting) : Prop :=
  current name = some (.dword 0) ∨ current name = saved name

theorem accepted_iff {saved : InternetSettings} {settings : RuntimeSettings}
    (shown : ∃ values, eligible platform saved values = true ∧
      ∀ name, some (last.internet name) = some (values name)) :
    internetStateIsOwnedOrSaved saved (recoveryEffect
        (.setInternet .autoConfigURL (.text (pacUrl settings))) last).internet settings = true ↔
      FlagAccepted saved last.internet .proxyEnable ∧
        FlagAccepted saved last.internet .autoDetect := by
  obtain ⟨values, accepted, same⟩ := shown
  obtain rfl : last.internet = values := funext fun name => Option.some.inj (same name)
  simp only [eligible, List.all_cons, List.all_nil, stateItemMatches, Bool.and_eq_true,
    decide_eq_true_eq] at accepted
  simp [internetStateIsOwnedOrSaved, internetSettingsNames, stateItemMatches, recoveryEffect,
    appliedInternetState, FlagAccepted, Function.update, accepted.2.1, accepted.2.2.1, or_comm]

/-- Recovery changes the PAC entry only, beside any other writers.  Self-healing writes it when
the last reads showed no PAC, both flags as zero and the saved server and exceptions; if nobody
has written to the registry since, the repaired state is one that disabling accepts exactly when
each flag is stored as the number zero or as the saved value. -/
theorem pac_recovery_confined_iff (platform : Platform) :
    (∀ start events command next last,
      Runs (.faulty recoveryEffect) foreignEffect (clearOrphanedArvectumPac platform) start events
        (.issue command next) last →
      ∀ name, command.changes = some name → name = .autoConfigURL) ∧
    ∀ start events command next last,
      Runs (.faulty recoveryEffect) foreignEffect (reassertMissingOwnedPac platform) start events
        (.issue command next) last →
      ∃ saved settings, ∃ values : InternetSettings, (knowledge events).backup = some saved ∧
        (knowledge events).settings = some settings ∧
        command = .setInternet .autoConfigURL (.text (pacUrl settings)) ∧
        (∀ name, (knowledge events).seen name = some (values name)) ∧
        (values .autoConfigURL = none ∧
          registryDwordEquals platform (values .proxyEnable) 0 = true ∧
          registryDwordEquals platform (values .autoDetect) 0 = true ∧
          values .proxyServer = saved .proxyServer ∧
          values .proxyOverride = saved .proxyOverride) ∧
        ((∀ name, Undisturbed name events) →
          (internetStateIsOwnedOrSaved saved (recoveryEffect command last).internet settings =
              true ↔
            FlagAccepted saved last.internet .proxyEnable ∧
              FlagAccepted saved last.internet .autoDetect)) := by
  constructor
  · intro start events command next last runs
    exact withstands_clearOrphanedArvectumPac.command runs
  · intro start events command next last runs
    obtain ⟨saved, settings, ⟨silent, backup, values, accepted, seen⟩, loaded, rfl⟩ :=
      withstands_reassertMissingOwnedPac.command runs
    rw [knowledge_own] at silent backup seen loaded
    refine ⟨saved, settings, values, backup, loaded, rfl, seen, ?_, fun undisturbed => ?_⟩
    · simpa [eligible, stateItemMatches, and_assoc] using accepted
    · refine accepted_iff ⟨values, accepted, fun name => ?_⟩
      rw [← seen_of_undisturbed runs silent (undisturbed name), seen name]

/-- A machine where `int` knows one text. -/
def flagPlatform : Platform :=
  { samplePlatform with int := fun text => if text = "0" then some 0 else none }

def savedFlags : InternetSettings
  | .proxyEnable => some (.dword 1)
  | .proxyServer => some (.text "old.test:8080")
  | _ => none

/-- The PAC is gone, and a flag was written as the text of zero. -/
def flagDesktop : Desktop where
  internet
    | .proxyEnable => some (.text "0")
    | .proxyServer => some (.text "old.test:8080")
    | .autoDetect => some (.dword 0)
    | _ => none
  surroundings :=
    { internetBackup := some (.saved savedFlags)
      settings := defaultSettings
      stopRequested := false
      migrationBlocked := false
      listenerActive := true
      running := true
      backupKnown := true
      canonicalInstall := false }

theorem firstCommand_flagDesktop :
    (reassertMissingOwnedPac flagPlatform).firstCommand flagDesktop =
      some (.setInternet .autoConfigURL (.text (pacUrl defaultSettings))) := rfl

/-- Nobody else acts, and the repaired state is refused. -/
theorem repaired_state_refused :
    ∃ events command next,
      Runs (.faulty recoveryEffect) foreignEffect (reassertMissingOwnedPac flagPlatform) flagDesktop
        events (.issue command next) flagDesktop ∧
      (∀ action, .foreign action ∉ events) ∧
      command = .setInternet .autoConfigURL (.text (pacUrl defaultSettings)) ∧
      internetStateIsOwnedOrSaved savedFlags (recoveryEffect command flagDesktop).internet
        defaultSettings = false := by
  obtain ⟨events, next, runs, own⟩ := exists_runs_of_firstCommand foreignEffect
    (@Host.faulty_answers _ _ _ recoveryEffect · true) firstCommand_flagDesktop
  refine ⟨events, _, next, runs, fun action member => ?_, rfl, ?_⟩
  · exact absurd (own _ member) (by simp [Event.isOwn])
  · rfl

end ProxyLauncher.Windows
