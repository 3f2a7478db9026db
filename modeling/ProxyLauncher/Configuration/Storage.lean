import ProxyLauncher.Configuration.Settings
import ProxyLauncher.Interruption.Contract

/-!
# The configuration store

Settings are kept in a primary file and, as they were before the last save, in a
last-known-good file.  A file that does not validate is moved to the quarantine directory,
and the reason of a recovery is written to a record of its own.  Every file is written to
a temporary name and then renamed, so a write takes effect as a whole.

The store is a program over these files.  What it relies on outside them, the credential
encryption of Windows and the JSON text of an encrypted payload, is a parameter.
-/

namespace ProxyLauncher.Configuration

open Interruption Python

inductive Slot where
  | primary
  | lastGood
  deriving DecidableEq

/-- The content of a settings file.  One that cannot be read as JSON is kept as the message of
the exception, a `ValueError` or, when the text is nested too deep, a `RecursionError`. -/
inductive FileContent where
  | undecodable (message : String)
  | nested (message : String)
  | json (value : Json)

/-- A quarantined file and, once its metadata is written, the reason. -/
structure Quarantined where
  source : Slot
  content : FileContent
  reason : Option String

structure RecoveryRecord where
  reason : String
  quarantined : Bool
  recoveredFrom : String

@[ext]
structure Files where
  content : Slot → Option FileContent
  legacyTmp : Bool
  quarantine : List Quarantined
  recovery : Option RecoveryRecord

inductive Query where
  | present (slot : Slot)
  | load (slot : Slot)
  | legacyTmpPresent

inductive Command where
  | removeLegacyTmp
  | makeDataDir
  | write (slot : Slot) (settings : DiskSettings)
  | quarantine (slot : Slot)
  | writeMetadata (reason : String)
  | writeRecovery (record : RecoveryRecord)

/-- The exceptions that the store tells apart; every `ValueError` counts as corruption, and a
`RecursionError` is a `RuntimeError`. -/
inductive ConfigError where
  | valueError (error : ValueError)
  | osError
  | runtimeError (message : String)
  deriving DecidableEq

def Files.write (files : Files) (slot : Slot) (content : Option FileContent) : Files :=
  { files with content := Function.update files.content slot content }

def effect : Command → Files → Files
  | .removeLegacyTmp, files => { files with legacyTmp := false }
  | .makeDataDir, files => files
  | .write slot settings, files =>
      files.write slot (some (.json (settings.toJson DiskUpstream.toJson)))
  | .quarantine slot, files =>
      match files.content slot with
      | none => files
      | some content =>
          { files.write slot none with quarantine := ⟨slot, content, none⟩ :: files.quarantine }
  | .writeMetadata reason, files =>
      match files.quarantine with
      | [] => files
      | entry :: others =>
          { files with quarantine := { entry with reason := some reason } :: others }
  | .writeRecovery record, files => { files with recovery := some record }

/-- A host on which every file operation may fail.  `os.path.exists` does not fail. -/
def faultyHost : Interruption.Host Files Query Command where
  effect
  answers := fun query answered =>
    answered = true ∨ ∃ slot, query = .load slot
  accepts := fun _ _ => True

abbrev Store := Program Files Query Command ConfigError

/-- DPAPI and the JSON text of an encrypted payload.  `parseAuth` is `none` when the
payload is not the text of a dictionary. -/
structure Platform where
  isWindows : Bool
  protect : String → Option String
  unprotect : String → Option String
  dumpAuth : String → String → String
  parseAuth : String → Option (String × String)

variable (platform : Platform)

/-- `_dpapi_protect_text`. -/
def dpapiProtectText (text : String) : Option String :=
  if text = "" then some ""
  else if platform.isWindows then platform.protect text
  else none

/-- `_dpapi_unprotect_text`. -/
def dpapiUnprotectText (text : String) : Option String :=
  if text = "" then some ""
  else if platform.isWindows then platform.unprotect text
  else none

/-- The credentials of one upstream in `_decode_upstream_secrets`. -/
def decodeCredentials (upstream : DiskUpstream) : String × String :=
  if truthy upstream.credentialsDpapi then
    ((dpapiUnprotectText platform (upstream.credentialsDpapi.getD "")).bind
      platform.parseAuth).getD ("", "")
  else if truthy upstream.passwordDpapi then
    (upstream.username.getD "",
      (dpapiUnprotectText platform (upstream.passwordDpapi.getD "")).getD "")
  else (upstream.username.getD "", upstream.password.getD "")

/-- `_decode_upstream_secrets`. -/
def decodeUpstreamSecrets (settings : DiskSettings) : RuntimeSettings :=
  { settings with
    upstream := settings.upstream.map fun upstream =>
      { host := upstream.host, port := upstream.port,
        username := (decodeCredentials platform upstream).1,
        password := (decodeCredentials platform upstream).2 }
    few := by simpa using settings.few }

/-- `_runtime_settings_from_disk`. -/
def runtimeSettingsFromDisk (settings : DiskSettings) : Except ValueError RuntimeSettings :=
  validateRuntimeSettings ((decodeUpstreamSecrets platform settings).toJson Upstream.toJson)

/-- One upstream in `_encode_settings_for_disk`. -/
def encodeUpstream (upstream : Upstream) : Except ConfigError DiskUpstream :=
  let host := upstream.host
  let port := upstream.port
  if platform.isWindows then
    if upstream.username ≠ "" ∨ upstream.password ≠ "" then
      match dpapiProtectText platform
          (platform.dumpAuth upstream.username upstream.password) with
      | some blob =>
          .ok ⟨host, port, none, none, some blob, none, fun _ => ⟨rfl, rfl, rfl⟩, .inl rfl⟩
      | none => .error (.runtimeError "Windows DPAPI could not protect upstream credentials")
    else .ok ⟨host, port, none, none, none, none, fun _ => ⟨rfl, rfl, rfl⟩, .inl rfl⟩
  else
    .ok ⟨host, port, some upstream.username, some upstream.password, none, none, nofun, .inr rfl⟩

def encodeUpstreams : List Upstream → Except ConfigError (List DiskUpstream)
  | [] => .ok []
  | upstream :: rest => do
      let encoded ← encodeUpstream platform upstream
      let others ← encodeUpstreams rest
      pure (encoded :: others)

theorem encodeUpstreams_length {upstream : List Upstream} {encoded : List DiskUpstream}
    (returned : encodeUpstreams platform upstream = .ok encoded) :
    encoded.length = upstream.length := by
  induction upstream generalizing encoded with
  | nil => cases returned; rfl
  | cons head rest ih =>
      obtain ⟨first, -, returned⟩ := bind_eq_ok.mp returned
      obtain ⟨others, tail, whole⟩ := bind_eq_ok.mp returned
      obtain rfl := Except.ok.inj whole
      simp [ih tail]

/-- `_encode_settings_for_disk`, of settings that are validated already. -/
def encodeSettingsForDisk (settings : RuntimeSettings) : Except ConfigError DiskSettings :=
  match returned : encodeUpstreams platform settings.upstream with
  | .ok upstream =>
      .ok { settings with
            upstream, few := encodeUpstreams_length platform returned ▸ settings.few }
  | .error error => .error error

/-- `_disk_contains_plaintext_credentials`. -/
def diskContainsPlaintextCredentials (settings : DiskSettings) : Bool :=
  settings.upstream.any fun upstream => truthy upstream.username || truthy upstream.password

/-- Validation that raises in the store. -/
def checked {α : Type} (outcome : Except ValueError α) : Except ConfigError α :=
  outcome.mapError .valueError

/-- What `_load_serialized_settings` makes of a file. -/
def readDisk : Option FileContent → Except ConfigError DiskSettings
  | none => .error .osError
  | some (.undecodable message) => .error (.valueError ⟨message⟩)
  | some (.nested message) => .error (.runtimeError message)
  | some (.json value) => checked (validateSerializedSettings value)

/-- `_load_serialized_settings`. -/
def loadSerializedSettings (slot : Slot) : Store DiskSettings := do
  let content ← Program.ask (.load slot) (fun files => files.content slot) .osError
  .ofExcept (readDisk content)

def present (slot : Slot) : Store Bool :=
  Program.ask (.present slot) (fun files => (files.content slot).isSome) .osError

/-- `_safe_recovery_reason`. -/
def safeRecoveryReason (message : String) : String :=
  .ofList ((message.toList.map fun char =>
    if char = '\r' ∨ char = '\n' then ' ' else char).take 500)

/-- `_quarantine_corrupt_file`; the result tells whether the file was moved. -/
def quarantineCorruptFile (slot : Slot) (reason : String) : Store Bool := do
  if ← present slot then
    match ← (Program.ask (.load slot) (fun _ => ()) .osError : Store Unit).attempt with
    | .error _ => pure false
    | .ok _ =>
        if ← Program.tell (.quarantine slot) then
          let _ ← Program.tell (.writeMetadata (safeRecoveryReason reason))
          pure true
        else pure false
  else pure false

/-- `_record_configuration_recovery`. -/
def recordConfigurationRecovery (reason : String) (quarantined : Bool) (recoveredFrom : String) :
    Store Unit := do
  let _ ← Program.tell (.writeRecovery
    { reason := safeRecoveryReason reason, quarantined, recoveredFrom })

/-- The settings that a recovery writes back: plain text credentials are encrypted first. -/
def restoreDisk (disk : DiskSettings) (runtime : RuntimeSettings) :
    Except ConfigError DiskSettings :=
  if platform.isWindows && diskContainsPlaintextCredentials disk then do
    let encoded ← encodeSettingsForDisk platform runtime
    checked (validateSerializedSettings (encoded.toJson DiskUpstream.toJson))
  else .ok disk

/-- The `try` block of `_recover_corrupt_settings`. -/
def restoreLastGood (reason : String) (quarantined : Bool) : Store RuntimeSettings := do
  let disk ← loadSerializedSettings .lastGood
  let runtime ← .ofExcept (checked (runtimeSettingsFromDisk platform disk))
  let restored ← .ofExcept (restoreDisk platform disk runtime)
  Program.perform (.write .primary restored) .osError
  recordConfigurationRecovery reason quarantined "lastgood"
  pure runtime

/-- `_recover_corrupt_settings`. -/
def recoverCorruptSettings (reason : String) : Store RuntimeSettings := do
  let quarantined ← quarantineCorruptFile .primary reason
  let kept ← present .primary
  if !quarantined && kept then
    recordConfigurationRecovery reason false "defaults_preserved_primary"
    pure defaultSettings
  else if ← present .lastGood then
    match ← (restoreLastGood platform reason quarantined).attempt with
    | .ok runtime => pure runtime
    | .error (.runtimeError message) => .raise (.runtimeError message)
    | .error error =>
        match error with
        | .valueError backupError =>
            let _ ← quarantineCorruptFile .lastGood backupError.message
        | _ => pure ()
        recordConfigurationRecovery reason quarantined "programmatic_defaults"
        pure defaultSettings
  else
    recordConfigurationRecovery reason quarantined "programmatic_defaults"
    pure defaultSettings

/-- The cleanup of the temporary file of older versions. -/
def removeLegacyTmp : Store Unit := do
  if ← Program.ask .legacyTmpPresent Files.legacyTmp .osError then
    let _ ← Program.tell .removeLegacyTmp

/-- The previous settings become the last known good ones; a corrupt file is moved away. -/
def keepPrevious : Store Unit := do
  if ← present .primary then
    match ← (loadSerializedSettings .primary).attempt with
    | .error (.valueError error) =>
        let quarantined ← quarantineCorruptFile .primary error.message
        let kept ← present .primary
        if !quarantined && kept then
          .raise (.runtimeError "existing corrupted settings could not be quarantined")
    | .error error => .raise error
    | .ok previous =>
        if !(platform.isWindows && diskContainsPlaintextCredentials previous) then
          Program.perform (.write .lastGood previous) .osError

/-- The `try` block of `save_settings`. -/
def storeSettings (settings : Json) : Store Unit := do
  removeLegacyTmp
  let runtime ← .ofExcept (checked (validateRuntimeSettings settings))
  let encoded ← .ofExcept (encodeSettingsForDisk platform runtime)
  let disk ← .ofExcept
    (checked (validateSerializedSettings (encoded.toJson DiskUpstream.toJson)))
  Program.perform .makeDataDir .osError
  keepPrevious platform
  Program.perform (.write .primary disk) .osError

/-- `save_settings`. -/
def saveSettings (settings : Json) : Store Bool := do
  match ← (storeSettings platform settings).attempt with
  | .ok _ => pure true
  | .error _ =>
      removeLegacyTmp
      pure false

/-- `load_settings`. -/
def loadSettings (migrateLegacy recoverCorrupt : Bool) : Store RuntimeSettings := do
  if ← present .primary then
    let load : Store (DiskSettings × RuntimeSettings) := do
      let loaded ← loadSerializedSettings .primary
      let runtime ← .ofExcept (checked (runtimeSettingsFromDisk platform loaded))
      pure (loaded, runtime)
    match ← load.attempt with
    | .error (.valueError error) =>
        if recoverCorrupt then recoverCorruptSettings platform error.message
        else pure defaultSettings
    | .error _ => pure defaultSettings
    | .ok (loaded, runtime) =>
        if diskContainsPlaintextCredentials loaded && platform.isWindows && migrateLegacy then
          let _ ← saveSettings platform (runtime.toJson Upstream.toJson)
        pure runtime
  else pure defaultSettings

end ProxyLauncher.Configuration
