import ProxyLauncher.Configuration.Storage
import ProxyLauncher.Interruption.Session

/-!
# What a stop or a failed write can cost

A valid settings file stays valid through every run of `save_settings` and
`load_settings`, wherever it is stopped and whatever fails in it: only a file that did not
validate is ever moved away.  The loader, however, looks at the last-known-good file only
when the primary file is there and corrupt.
-/

namespace ProxyLauncher.Configuration

open Interruption Python Program

variable {α β : Type} {slot other : Slot} {files : Files}

/-- The file is there and validates. -/
def Valid (slot : Slot) (files : Files) : Prop :=
  ∃ disk, readDisk (files.content slot) = .ok disk

/-- Reading the file raises a `ValueError`. -/
def Corrupt (slot : Slot) (files : Files) : Prop :=
  ∃ error, readDisk (files.content slot) = .error (.valueError error)

/-- A command that leaves the file in its place. -/
def Leaves (slot : Slot) (command : Command) (_ : Files) : Prop :=
  command ≠ .quarantine slot

@[simp] theorem readDisk_toJson (settings : DiskSettings) :
    readDisk (some (.json (settings.toJson DiskUpstream.toJson))) = .ok settings := by
  simp [readDisk, checked, Except.mapError]

@[simp] theorem runtimeSettingsFromDisk_eq (platform : Platform) (disk : DiskSettings) :
    runtimeSettingsFromDisk platform disk = .ok (decodeUpstreamSecrets platform disk) :=
  validateRuntimeSettings_toJson _

/-- Every file that is written is valid. -/
theorem Valid.effect {command : Command} (valid : Valid slot files)
    (leaves : Leaves slot command files) : Valid slot (effect command files) := by
  cases command with
  | write written settings =>
      by_cases same : slot = written
      · subst same
        exact ⟨settings, by simp [Configuration.effect, Files.write]⟩
      · simpa [Configuration.effect, Files.write, Valid, Function.update, same] using valid
  | quarantine moved =>
      have different : slot ≠ moved := fun same => leaves (same ▸ rfl)
      cases found : files.content moved with
      | none => simpa [Configuration.effect, found] using valid
      | some content =>
          simpa [Configuration.effect, found, Files.write, Valid, Function.update, different]
            using valid
  | writeMetadata reason =>
      cases moved : files.quarantine with
      | nil | cons =>
          simp only [Configuration.effect, moved]
          exact valid
  | removeLegacyTmp | makeDataDir | writeRecovery => exact valid

/-- A valid file stays valid through the program, and the program does not report it as
corrupt when `sound`. -/
def Keeps (slot : Slot) (sound : Bool) (program : Store α) : Prop :=
  ∀ files, Valid slot files → program.Ensures faultyHost (Leaves slot)
    (fun outcome last => Valid slot last ∧
      (sound = true → ∀ error, outcome ≠ .error (.valueError error))) files

namespace Keeps

variable {sound : Bool} {program : Store α}

theorem pure (value : α) : Keeps slot sound (pure value : Store α) :=
  fun _ valid => ⟨valid, fun _ => by simp⟩

theorem raise (error : ConfigError) : Keeps slot false (.raise error : Store α) :=
  fun _ valid => ⟨valid, by simp⟩

theorem ofExcept {outcome : Except ConfigError α}
    (other : sound = true → ∀ error, outcome ≠ .error (.valueError error)) :
    Keeps slot sound (.ofExcept outcome : Store α) :=
  fun _ valid => ⟨valid, other⟩

theorem ask (query : Query) (view : Files → α) :
    Keeps slot sound (Program.ask query view .osError : Store α) :=
  fun _ valid => ⟨fun _ => ⟨valid, fun _ => by simp⟩, fun _ => ⟨valid, fun _ => by simp⟩⟩

theorem tell {command : Command} (leaves : command ≠ .quarantine slot) :
    Keeps slot sound (Program.tell command : Store Bool) :=
  fun _ valid => ⟨leaves, fun _ => ⟨valid.effect leaves, fun _ => by simp⟩,
    fun _ => ⟨valid, fun _ => by simp⟩⟩

theorem perform {command : Command} (leaves : command ≠ .quarantine slot) :
    Keeps slot sound (Program.perform command .osError : Store Unit) :=
  fun _ valid => ⟨leaves, fun _ => ⟨valid.effect leaves, fun _ => by simp⟩,
    fun _ => ⟨valid, fun _ => by simp⟩⟩

theorem bind {rest : α → Store β} (first : Keeps slot sound program)
    (second : ∀ value, Keeps slot sound (rest value)) : Keeps slot sound (program >>= rest) := by
  refine fun files valid => (first files valid).bind ?_ ?_
  · exact fun value last post => second value last post.1
  · refine fun error last post => ⟨post.1, fun yes error' same => ?_⟩
    exact post.2 yes error' (congrArg Except.error (Except.error.inj same))

/-- After a sound attempt there is no corruption to report. -/
theorem attempt_bind {rest : Except ConfigError α → Store β} (first : Keeps slot true program)
    (second : ∀ outcome, (∀ error, outcome ≠ .error (.valueError error)) →
      Keeps slot sound (rest outcome)) : Keeps slot sound (program.attempt >>= rest) := by
  intro files valid
  rw [ensures_bind, ensures_attempt]
  exact (first files valid).weaken_post fun outcome last post =>
    second outcome (post.2 rfl) last post.1

theorem attempt (first : Keeps slot false program) :
    Keeps slot sound (program.attempt : Store (Except ConfigError α)) := by
  intro files valid
  rw [ensures_attempt]
  exact (first files valid).weaken_post fun _ _ post => ⟨post.1, fun _ => by simp⟩

end Keeps

variable {sound : Bool} (platform : Platform)

theorem keeps_loadSerializedSettings (slot : Slot) :
    Keeps slot true (loadSerializedSettings slot) := by
  rintro files ⟨disk, valid⟩
  rw [loadSerializedSettings, ensures_bind, ensures_ask]
  refine ⟨fun _ => ?_, fun _ => ⟨⟨disk, valid⟩, fun _ => by simp⟩⟩
  rw [followedBy_ok, ensures_ofExcept, valid]
  exact ⟨⟨disk, valid⟩, fun _ => by simp⟩

theorem keeps_load (slot read : Slot) : Keeps slot false (loadSerializedSettings read) :=
  .bind (.ask _ _) fun _ => .ofExcept (by simp)

theorem keeps_present (slot read : Slot) : Keeps slot sound (present read) := .ask _ _

theorem keeps_quarantineCorruptFile (different : other ≠ slot) (reason : String) :
    Keeps slot sound (quarantineCorruptFile other reason) := by
  refine .bind (keeps_present _ _) fun there => ?_
  split
  · refine .bind (.attempt (.ask _ _)) fun outcome => ?_
    cases outcome with
    | error => exact .pure _
    | ok =>
        refine .bind (.tell ?_) fun moved => ?_
        · exact fun same => different (Command.quarantine.inj same)
        · split
          · exact .bind (.tell (by simp)) fun _ => .pure _
          · exact .pure _
  · exact .pure _

theorem keeps_recordConfigurationRecovery (reason : String) (quarantined : Bool)
    (recoveredFrom : String) :
    Keeps slot sound (recordConfigurationRecovery reason quarantined recoveredFrom) :=
  .bind (.tell (by simp)) fun _ => .pure _

/-- Encryption fails with a `RuntimeError`. -/
theorem encodeUpstreams_error {upstream : List Upstream} {error : ConfigError}
    (raised : encodeUpstreams platform upstream = .error error) :
    ∃ message, error = .runtimeError message := by
  induction upstream with
  | nil => cases raised
  | cons head rest ih =>
      rw [encodeUpstreams] at raised
      cases encoded : encodeUpstream platform head with
      | error error' =>
          rw [encoded] at raised
          obtain rfl := Except.error.inj raised
          unfold encodeUpstream at encoded
          grind
      | ok =>
          cases others : encodeUpstreams platform rest with
          | error error' =>
              rw [encoded, others] at raised
              obtain rfl := Except.error.inj raised
              exact ih others
          | ok =>
              rw [encoded, others] at raised
              cases raised

theorem encodeSettingsForDisk_error {settings : RuntimeSettings} {error : ConfigError}
    (raised : encodeSettingsForDisk platform settings = .error error) :
    ∃ message, error = .runtimeError message := by
  unfold encodeSettingsForDisk at raised
  split at raised
  · cases raised
  · rename_i error' raised'
    obtain rfl := Except.error.inj raised
    exact encodeUpstreams_error platform raised'

theorem restoreDisk_eq (disk : DiskSettings) (runtime : RuntimeSettings) :
    restoreDisk platform disk runtime =
      if platform.isWindows && diskContainsPlaintextCredentials disk then
        encodeSettingsForDisk platform runtime
      else .ok disk := by
  unfold restoreDisk
  split
  · cases encodeSettingsForDisk platform runtime with
    | error => rfl
    | ok encoded =>
        change checked (validateSerializedSettings _) = _
        rw [validateSerializedSettings_toJson]
        rfl
  · rfl

theorem restoreDisk_error {disk : DiskSettings} {runtime : RuntimeSettings}
    {error : ConfigError} (raised : restoreDisk platform disk runtime = .error error) :
    ∃ message, error = .runtimeError message := by
  rw [restoreDisk_eq] at raised
  split at raised
  · exact encodeSettingsForDisk_error platform raised
  · cases raised

/-- A recovery from a valid file does not find it corrupt. -/
theorem keeps_restoreLastGood (reason : String) (quarantined : Bool) :
    Keeps .lastGood true (restoreLastGood platform reason quarantined) := by
  refine .bind (keeps_loadSerializedSettings _) fun disk => ?_
  rw [runtimeSettingsFromDisk_eq]
  refine .bind (.ofExcept fun _ _ => by simp [checked, Except.mapError]) fun runtime => ?_
  refine .bind (.ofExcept fun _ error raised => ?_) fun restored => ?_
  · obtain ⟨message, impossible⟩ := restoreDisk_error platform raised
    cases impossible
  refine .bind (.perform (by simp)) fun _ => ?_
  exact .bind (keeps_recordConfigurationRecovery _ _ _) fun _ => .pure _

theorem keeps_recoverCorruptSettings (reason : String) :
    Keeps .lastGood false (recoverCorruptSettings platform reason) := by
  refine .bind (keeps_quarantineCorruptFile (by decide) _) fun quarantined => ?_
  refine .bind (keeps_present _ _) fun kept => ?_
  split
  · exact .bind (keeps_recordConfigurationRecovery _ _ _) fun _ => .pure _
  · refine .bind (keeps_present _ _) fun there => ?_
    split
    · refine .attempt_bind (keeps_restoreLastGood platform _ _) fun outcome notCorrupt => ?_
      match outcome, notCorrupt with
      | .ok runtime, _ => exact .pure _
      | .error (.runtimeError message), _ => exact .raise _
      | .error (.valueError error), notCorrupt => exact absurd rfl (notCorrupt error)
      | .error .osError, _ =>
          exact .bind (keeps_recordConfigurationRecovery _ _ _) fun _ => .pure _
    · exact .bind (keeps_recordConfigurationRecovery _ _ _) fun _ => .pure _

theorem keeps_removeLegacyTmp : Keeps slot sound removeLegacyTmp := by
  refine .bind (.ask _ _) fun there => ?_
  split
  · exact .bind (.tell (by simp)) fun _ => .pure _
  · exact .pure _

theorem keeps_keepPrevious : Keeps slot false (keepPrevious platform) := by
  refine .bind (keeps_present _ _) fun there => ?_
  split
  · -- A valid primary file is not reported as corrupt; the other file is not touched here.
    have corrupt (error : ValueError) (different : Slot.primary ≠ slot) :
        Keeps slot false (do
          let quarantined ← quarantineCorruptFile .primary error.message
          let kept ← present .primary
          if !quarantined && kept then
            .raise (.runtimeError "existing corrupted settings could not be quarantined")) := by
      refine .bind (keeps_quarantineCorruptFile different _) fun quarantined => ?_
      refine .bind (keeps_present _ _) fun kept => ?_
      split
      · exact .raise _
      · exact .pure _
    have previous (disk : DiskSettings) : Keeps slot false (do
        if !(platform.isWindows && diskContainsPlaintextCredentials disk) then
          Program.perform (.write .lastGood disk) .osError) := by
      split
      · exact .perform (by simp)
      · exact .pure _
    cases slot with
    | primary =>
        refine .attempt_bind (keeps_loadSerializedSettings _) fun outcome notCorrupt => ?_
        match outcome, notCorrupt with
        | .ok disk, _ => exact previous disk
        | .error (.valueError error), notCorrupt => exact absurd rfl (notCorrupt error)
        | .error .osError, _ => exact .raise _
        | .error (.runtimeError _), _ => exact .raise _
    | lastGood =>
        refine .bind (.attempt (keeps_load _ _)) fun outcome => ?_
        match outcome with
        | .ok disk => exact previous disk
        | .error (.valueError error) => exact corrupt error (by decide)
        | .error .osError => exact .raise _
        | .error (.runtimeError _) => exact .raise _
  · exact .pure _

theorem keeps_saveSettings (settings : Json) : Keeps slot sound (saveSettings platform settings) := by
  have body : Keeps slot false (storeSettings platform settings) := by
    refine .bind keeps_removeLegacyTmp fun _ => ?_
    refine .bind (.ofExcept (by simp)) fun runtime => ?_
    refine .bind (.ofExcept (by simp)) fun encoded => ?_
    refine .bind (.ofExcept (by simp)) fun disk => ?_
    refine .bind (.perform (by simp)) fun _ => ?_
    exact .bind (keeps_keepPrevious platform) fun _ => .perform (by simp)
  refine .bind (.attempt body) fun outcome => ?_
  cases outcome with
  | ok => exact .pure _
  | error => exact .bind keeps_removeLegacyTmp fun _ => .pure _

theorem keeps_loadSettings (migrateLegacy recoverCorrupt : Bool) :
    Keeps slot false (loadSettings platform migrateLegacy recoverCorrupt) := by
  refine .bind (keeps_present _ _) fun there => ?_
  split
  · have loaded (disk : DiskSettings) (runtime : RuntimeSettings) : Keeps slot false (do
        if diskContainsPlaintextCredentials disk && platform.isWindows && migrateLegacy then
          let _ ← saveSettings platform (runtime.toJson Upstream.toJson)
        pure runtime) := by
      split
      · exact .bind (keeps_saveSettings platform _) fun _ => .pure _
      · exact .pure _
    cases slot with
    | primary =>
        refine .attempt_bind (.bind (keeps_loadSerializedSettings _) fun disk => ?_)
          fun outcome notCorrupt => ?_
        · rw [runtimeSettingsFromDisk_eq]
          exact .bind (.ofExcept fun _ _ => by simp [checked, Except.mapError]) fun _ => .pure _
        · match outcome, notCorrupt with
          | .ok (disk, runtime), _ => exact loaded disk runtime
          | .error (.valueError error), notCorrupt => exact absurd rfl (notCorrupt error)
          | .error .osError, _ => exact .pure _
          | .error (.runtimeError _), _ => exact .pure _
    | lastGood =>
        refine .bind (.attempt (.bind (keeps_load _ _) fun disk =>
          .bind (.ofExcept (by simp)) fun _ => .pure _)) fun outcome => ?_
        match outcome with
        | .ok (disk, runtime) => exact loaded disk runtime
        | .error (.valueError error) =>
            change Keeps _ _ (if recoverCorrupt = true then _ else _)
            split
            · exact keeps_recoverCorruptSettings platform _
            · exact .pure _
        | .error .osError => exact .pure _
        | .error (.runtimeError _) => exact .pure _
  · exact .pure _

/-! ## Loading without failures -/

theorem exec_present (slot : Slot) (files : Files) :
    (present slot).exec effect files = (.ok (files.content slot).isSome, files) := rfl

theorem exec_loadSerializedSettings (slot : Slot) (files : Files) :
    (loadSerializedSettings slot).exec effect files =
      (readDisk (files.content slot), files) := rfl

/-- A file that does not validate is corrupt, unless its text is nested too deep. -/
theorem corrupt_of_not_valid {content : FileContent} (there : files.content slot = some content)
    (broken : ¬ Valid slot files) (flat : ∀ message, content ≠ .nested message) :
    Corrupt slot files := by
  rw [Valid, there] at broken
  rw [Corrupt, there]
  cases content with
  | undecodable message => exact ⟨_, rfl⟩
  | nested message => exact absurd rfl (flat message)
  | json value =>
      cases outcome : validateSerializedSettings value with
      | error error => exact ⟨error, congrArg checked outcome⟩
      | ok disk => exact absurd ⟨disk, congrArg checked outcome⟩ broken

theorem exec_quarantineCorruptFile {content : FileContent}
    (found : files.content slot = some content) (reason : String) :
    ∃ last, (quarantineCorruptFile slot reason).exec effect files = (.ok true, last) ∧
      last.content = Function.update files.content slot none := by
  refine ⟨effect (.writeMetadata (safeRecoveryReason reason)) (effect (.quarantine slot) files),
    ?_, ?_⟩
  · rw [quarantineCorruptFile, exec_bind_ok (exec_present slot files), found]
    rfl
  · simp [effect, found, Files.write]

theorem exec_removeLegacyTmp (files : Files) :
    ∃ last, removeLegacyTmp.exec effect files = (.ok (), last) ∧ last.content = files.content := by
  rw [removeLegacyTmp, exec_bind_ok (exec_ask ..)]
  split
  · exact ⟨_, rfl, rfl⟩
  · exact ⟨_, rfl, rfl⟩

theorem exec_saveSettings (settings : Json) (files : Files) :
    ∃ answer last, (saveSettings platform settings).exec effect files = (.ok answer, last) := by
  rw [saveSettings, exec_bind, exec_attempt]
  cases ((storeSettings platform settings).exec effect files).1 with
  | ok => exact ⟨_, _, rfl⟩
  | error =>
      obtain ⟨last, removed, -⟩ := exec_removeLegacyTmp
        ((storeSettings platform settings).exec effect files).2
      exact ⟨false, last, exec_bind_ok removed⟩

/-- The loader does not look beyond a missing primary file. -/
theorem exec_loadSettings_missing (missing : files.content .primary = none)
    (migrateLegacy recoverCorrupt : Bool) :
    (loadSettings platform migrateLegacy recoverCorrupt).exec effect files =
      (.ok defaultSettings, files) := by
  rw [loadSettings, exec_bind_ok (exec_present ..), missing]
  rfl

theorem exec_loadSettings_valid {disk : DiskSettings}
    (valid : readDisk (files.content .primary) = .ok disk) (migrateLegacy recoverCorrupt : Bool) :
    ((loadSettings platform migrateLegacy recoverCorrupt).exec effect files).1 =
      .ok (decodeUpstreamSecrets platform disk) := by
  have there : (files.content .primary).isSome = true := by
    cases found : files.content .primary with
    | none => rw [found] at valid; cases valid
    | some => rfl
  rw [loadSettings, exec_bind_ok (exec_present ..), there, if_pos rfl]
  dsimp only
  rw [exec_bind, exec_attempt, exec_bind, exec_loadSerializedSettings, valid]
  dsimp only
  rw [exec_bind, exec_ofExcept, runtimeSettingsFromDisk_eq]
  simp only [checked, Except.mapError, exec_pure]
  split
  · obtain ⟨answer, last, saved⟩ := exec_saveSettings platform
      ((decodeUpstreamSecrets platform disk).toJson Upstream.toJson) files
    rw [exec_bind_ok saved, exec_pure]
  · rw [exec_pure]

/-- What a recovery from a valid last-known-good file returns. -/
def recovered (disk : DiskSettings) : Except ConfigError RuntimeSettings :=
  (restoreDisk platform disk (decodeUpstreamSecrets platform disk)).map fun _ =>
    decodeUpstreamSecrets platform disk

theorem exec_restoreLastGood {disk : DiskSettings}
    (valid : readDisk (files.content .lastGood) = .ok disk) (reason : String)
    (quarantined : Bool) :
    ((restoreLastGood platform reason quarantined).exec effect files).1 =
      recovered platform disk := by
  rw [restoreLastGood, exec_bind, exec_loadSerializedSettings, valid]
  dsimp only
  rw [exec_bind, exec_ofExcept, runtimeSettingsFromDisk_eq]
  simp only [checked, Except.mapError]
  rw [exec_bind, exec_ofExcept, recovered]
  cases restoreDisk platform disk (decodeUpstreamSecrets platform disk) with
  | error => rfl
  | ok restored => rfl

theorem exec_recoverCorruptSettings {content : FileContent} {disk : DiskSettings}
    (there : files.content .primary = some content)
    (valid : readDisk (files.content .lastGood) = .ok disk) (reason : String) :
    ((recoverCorruptSettings platform reason).exec effect files).1 =
      recovered platform disk := by
  obtain ⟨moved, quarantined, content'⟩ := exec_quarantineCorruptFile there reason
  have primary : moved.content .primary = none := by simp [content']
  have lastGood : moved.content .lastGood = files.content .lastGood := by simp [content']
  have there' : (moved.content .lastGood).isSome = true := by
    rw [lastGood]
    cases found : files.content .lastGood with
    | none => rw [found] at valid; cases valid
    | some => rfl
  rw [recoverCorruptSettings, exec_bind_ok quarantined, exec_bind_ok (exec_present ..), primary]
  simp only [Option.isSome_none, Bool.and_false, Bool.false_eq_true, ↓reduceIte]
  rw [exec_bind_ok (exec_present ..), there', if_pos rfl, exec_bind, exec_attempt,
    exec_restoreLastGood platform (lastGood ▸ valid)]
  cases outcome : recovered platform disk with
  | ok runtime => rfl
  | error error =>
      have raised : ∃ message, error = .runtimeError message := by
        rw [recovered] at outcome
        cases restored : restoreDisk platform disk (decodeUpstreamSecrets platform disk) with
        | error error' =>
            rw [restored] at outcome
            obtain rfl := Except.error.inj outcome
            exact restoreDisk_error platform restored
        | ok => rw [restored] at outcome; cases outcome
      obtain ⟨message, rfl⟩ := raised
      rfl

theorem exec_loadSettings_corrupt {content : FileContent} {disk : DiskSettings}
    (there : files.content .primary = some content) (corrupt : Corrupt .primary files)
    (valid : readDisk (files.content .lastGood) = .ok disk) (migrateLegacy : Bool) :
    ((loadSettings platform migrateLegacy true).exec effect files).1 =
      recovered platform disk := by
  obtain ⟨error, outcome⟩ := corrupt
  rw [loadSettings, exec_bind_ok (exec_present ..), there, Option.isSome_some, if_pos rfl]
  dsimp only
  rw [exec_bind, exec_attempt, exec_bind, exec_loadSerializedSettings, outcome]
  exact exec_recoverCorruptSettings platform there valid error.message

/-- The loader does not look beyond a primary file that is nested too deep either. -/
theorem exec_loadSettings_nested {message : String}
    (there : files.content .primary = some (.nested message))
    (migrateLegacy recoverCorrupt : Bool) :
    (loadSettings platform migrateLegacy recoverCorrupt).exec effect files =
      (.ok defaultSettings, files) := by
  rw [loadSettings, exec_bind_ok (exec_present ..), there, Option.isSome_some, if_pos rfl]
  dsimp only
  rw [exec_bind, exec_attempt, exec_bind, exec_loadSerializedSettings, there]
  rfl

/-- The calls of the store, with their results dropped. -/
inductive Call where
  | save (settings : Json)
  | load (migrateLegacy recoverCorrupt : Bool)

def Call.program : Call → Store Unit
  | .save settings => do
      let _ ← saveSettings platform settings
  | .load migrateLegacy recoverCorrupt => do
      let _ ← loadSettings platform migrateLegacy recoverCorrupt

/-- Any number of calls, each stopped anywhere, in which any file operation can fail. -/
def Reaches : Session Files Query Command ConfigError Unit →
    Session Files Query Command ConfigError Unit → Prop :=
  Session.Reaches faultyHost (Call.program platform) Session.Always fun _ _ => False

/-- The settings in a file, if it is valid. -/
def Files.settings (files : Files) (slot : Slot) : Option RuntimeSettings :=
  (readDisk (files.content slot)).toOption.map (decodeUpstreamSecrets platform)

/-- `load_settings()`, without failures, returns the settings of one of the two files. -/
def Kept (files : Files) : Prop :=
  ∃ settings, ((loadSettings platform true true).exec effect files).1 = .ok settings ∧
    (files.settings platform .primary = some settings ∨
      files.settings platform .lastGood = some settings)

/-- The primary file is valid, or the loader will go on to the last-known-good file and
can write it back, or there is nothing to lose. -/
def Loadable (disk : DiskSettings) (files : Files) : Prop :=
  match files.content .primary with
  | none | some (.nested _) => decodeUpstreamSecrets platform disk = defaultSettings
  | some _ => Valid .primary files ∨
      (restoreDisk platform disk (decodeUpstreamSecrets platform disk)).isOk = true

/-- Validity of a file is an invariant of sessions. -/
theorem Valid.reaches {left : Option (Store Unit)} {files' : Files}
    (valid : Valid slot files) (reaches : Reaches platform ⟨none, files⟩ ⟨left, files'⟩) :
    Valid slot files' := by
  have safe : Session.Safe faultyHost (Leaves slot) (Valid slot)
      (⟨none, files⟩ : Session Files Query Command ConfigError Unit) := .idle valid
  refine (safe.reaches ?_ ?_ (by simp) reaches).state
  · rintro (settings | ⟨migrateLegacy, recoverCorrupt⟩) state - holds
    · exact ((Keeps.bind (keeps_saveSettings platform settings) fun _ => .pure _ :
        Keeps slot false _) state holds).weaken_post fun _ _ _ => trivial
    · exact ((Keeps.bind (keeps_loadSettings platform migrateLegacy recoverCorrupt) fun _ =>
        .pure _ : Keeps slot false _) state holds).weaken_post fun _ _ _ => trivial
  · exact fun command state leaves holds => holds.effect leaves

theorem settings_of_readDisk {disk : DiskSettings}
    (valid : readDisk (files.content slot) = .ok disk) :
    files.settings platform slot = some (decodeUpstreamSecrets platform disk) := by
  simp [Files.settings, valid, Except.toOption]

/-- A loader that returns the defaults keeps the settings of the last-known-good file when
they are the defaults. -/
theorem kept_defaults_iff {disk : DiskSettings}
    (valid : readDisk (files.content .lastGood) = .ok disk)
    (missing : files.settings platform .primary = none)
    (defaults : (loadSettings platform true true).exec effect files = (.ok defaultSettings, files)) :
    Kept platform files ↔ decodeUpstreamSecrets platform disk = defaultSettings := by
  rw [Kept, defaults, missing, settings_of_readDisk platform valid]
  constructor
  · intro ⟨settings, returned, found⟩
    rcases found with found | found
    · cases found
    · rw [Option.some.inj found]
      exact (Except.ok.inj returned).symm
  · intro same
    exact ⟨defaultSettings, rfl, .inr (congrArg some same)⟩

/-- With a valid last-known-good file the settings are kept exactly where the loader finds
them. -/
theorem kept_iff {disk : DiskSettings} (valid : readDisk (files.content .lastGood) = .ok disk) :
    Kept platform files ↔ Loadable platform disk files := by
  have lastGood := settings_of_readDisk platform valid
  have flat {content : FileContent} (there : files.content .primary = some content)
      (shallow : ∀ message, content ≠ .nested message) :
      Kept platform files ↔ Valid .primary files ∨
        (restoreDisk platform disk (decodeUpstreamSecrets platform disk)).isOk = true := by
    by_cases primary : Valid .primary files
    · obtain ⟨disk', found⟩ := primary
      apply iff_of_true
      · exact ⟨_, exec_loadSettings_valid platform found true true,
          .inl (settings_of_readDisk platform found)⟩
      · exact .inl ⟨disk', found⟩
    · simp only [Kept, exec_loadSettings_corrupt platform there
        (corrupt_of_not_valid there primary shallow) valid true, recovered, primary, false_or]
      cases restoreDisk platform disk (decodeUpstreamSecrets platform disk) with
      | error error =>
          exact iff_of_false (by simp [Except.map]) (by simp [Except.isOk, Except.toBool])
      | ok restored => exact iff_of_true ⟨_, rfl, .inr lastGood⟩ rfl
  cases there : files.content .primary with
  | none =>
      simp only [Loadable, there]
      apply kept_defaults_iff platform valid
      · simp [Files.settings, there, readDisk, Except.toOption]
      · exact exec_loadSettings_missing platform there true true
  | some content =>
      cases content with
      | nested message =>
          simp only [Loadable, there]
          apply kept_defaults_iff platform valid
          · simp [Files.settings, there, readDisk, Except.toOption]
          · exact exec_loadSettings_nested platform there true true
      | undecodable message =>
          simp only [Loadable, there]
          exact flat there (by simp)
      | json value =>
          simp only [Loadable, there]
          exact flat there (by simp)

/-- Not Windows, so credentials are stored as they are. -/
def samplePlatform : Platform where
  isWindows := false
  protect _ := none
  unprotect _ := none
  dumpAuth username password := username ++ password
  parseAuth _ := none

end ProxyLauncher.Configuration
