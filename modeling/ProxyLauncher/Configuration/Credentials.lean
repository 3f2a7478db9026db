import ProxyLauncher.Configuration.CrashSafety
import ProxyLauncher.Python.JsonText

/-!
# The credentials of the upstreams

On Windows no settings file is written with the credentials of an upstream in plain text.
-/

namespace ProxyLauncher.Configuration

open Interruption Python Program

/-- The settings of a file have no user name and no password in plain text. -/
def NoPlaintext (settings : DiskSettings) : Prop :=
  ∀ upstream ∈ settings.upstream,
    upstream.username.getD "" = "" ∧ upstream.password.getD "" = ""

/-- A command that writes no plain text to a settings file. -/
def Secret : Command → Prop
  | .write _ settings => NoPlaintext settings
  | _ => True

variable {α β : Type} {platform : Platform} {settings disk : DiskSettings} {files last : Files}

theorem noPlaintext_iff : NoPlaintext settings ↔
    diskContainsPlaintextCredentials settings = false := by
  simp [NoPlaintext, diskContainsPlaintextCredentials, truthy]

theorem noPlaintext_encodeUpstream (windows : platform.isWindows = true) {upstream : Upstream}
    {encoded : DiskUpstream} (returned : encodeUpstream platform upstream = .ok encoded) :
    encoded.username = none ∧ encoded.password = none := by
  simp only [encodeUpstream, windows, if_true] at returned
  split at returned
  · split at returned
    · obtain rfl := Except.ok.inj returned
      exact ⟨rfl, rfl⟩
    · exact absurd returned (by simp)
  · obtain rfl := Except.ok.inj returned
    exact ⟨rfl, rfl⟩

theorem noPlaintext_encodeUpstreams (windows : platform.isWindows = true)
    {upstream : List Upstream} {encoded : List DiskUpstream}
    (returned : encodeUpstreams platform upstream = .ok encoded) :
    ∀ entry ∈ encoded, entry.username = none ∧ entry.password = none := by
  induction upstream generalizing encoded with
  | nil =>
      obtain rfl := Except.ok.inj returned
      simp
  | cons head rest ih =>
      obtain ⟨first, one, returned⟩ := bind_eq_ok.mp returned
      obtain ⟨others, tail, whole⟩ := bind_eq_ok.mp returned
      obtain rfl := Except.ok.inj whole
      intro entry member
      rcases List.mem_cons.mp member with rfl | later
      · exact noPlaintext_encodeUpstream windows one
      · exact ih tail entry later

theorem encodeUpstreams_of_ok {runtime : RuntimeSettings}
    (returned : encodeSettingsForDisk platform runtime = .ok disk) :
    encodeUpstreams platform runtime.upstream = .ok disk.upstream ∧
      disk = { runtime with upstream := disk.upstream, few := disk.few } := by
  unfold encodeSettingsForDisk at returned
  split at returned
  · rename_i upstream encoded
    obtain rfl := Except.ok.inj returned
    exact ⟨encoded, rfl⟩
  · exact absurd returned (by simp)

/-- What is encoded on Windows has no plain text. -/
theorem noPlaintext_encode (windows : platform.isWindows = true) {runtime : RuntimeSettings}
    (returned : encodeSettingsForDisk platform runtime = .ok disk) : NoPlaintext disk := by
  intro upstream member
  obtain ⟨username, password⟩ :=
    noPlaintext_encodeUpstreams windows (encodeUpstreams_of_ok returned).1 upstream member
  rw [username, password]
  exact ⟨rfl, rfl⟩

theorem noPlaintext_restoreDisk (windows : platform.isWindows = true) {runtime : RuntimeSettings}
    {restored : DiskSettings} (returned : restoreDisk platform disk runtime = .ok restored) :
    NoPlaintext restored := by
  rw [restoreDisk_eq, windows, Bool.true_and] at returned
  split at returned
  · exact noPlaintext_encode windows returned
  · rename_i plain
    obtain rfl := Except.ok.inj returned
    exact noPlaintext_iff.mpr (by simpa using plain)

theorem issuing_ofExcept_bind {allowed : Command → Prop} {outcome : Except ConfigError α}
    {rest : α → Store β} (continues : ∀ value, outcome = .ok value → Issuing allowed (rest value)) :
    Issuing allowed (.ofExcept outcome >>= rest) := by
  cases outcome with
  | ok value => exact continues value rfl
  | error error => exact .raise error

theorem issuing_perform {allowed : Command → Prop} {command : Command} {error : ConfigError}
    (member : allowed command) : Issuing allowed (Program.perform command error : Store Unit) :=
  fun _ _ => ⟨member, fun _ => trivial, fun _ => trivial⟩

theorem secret_load (slot : Slot) : Issuing Secret (loadSerializedSettings slot) :=
  .bind (.ask _ _ _) fun _ => .ofExcept _

theorem secret_present (slot : Slot) : Issuing Secret (present slot) :=
  .ask _ _ _

theorem secret_quarantineCorruptFile (slot : Slot) (reason : String) :
    Issuing Secret (quarantineCorruptFile slot reason) := by
  refine .bind (secret_present _) fun there => ?_
  split
  · refine .bind (.attempt (.ask _ _ _)) fun outcome => ?_
    cases outcome with
    | error error => exact .pure _
    | ok value =>
        refine .bind (.tell trivial) fun moved => ?_
        split
        · exact .bind (.tell trivial) fun _ => .pure _
        · exact .pure _
  · exact .pure _

theorem secret_recordConfigurationRecovery (reason : String) (quarantined : Bool)
    (recoveredFrom : String) :
    Issuing Secret (recordConfigurationRecovery reason quarantined recoveredFrom) :=
  .bind (.tell trivial) fun _ => .pure _

theorem secret_removeLegacyTmp : Issuing Secret removeLegacyTmp := by
  refine .bind (.ask _ _ _) fun there => ?_
  split
  · exact .bind (.tell trivial) fun _ => .pure _
  · exact .pure _

theorem secret_restoreLastGood (windows : platform.isWindows = true) (reason : String)
    (quarantined : Bool) : Issuing Secret (restoreLastGood platform reason quarantined) := by
  refine .bind (secret_load _) fun disk => ?_
  refine issuing_ofExcept_bind fun runtime _ => ?_
  refine issuing_ofExcept_bind fun restored returned => ?_
  refine .bind (issuing_perform (noPlaintext_restoreDisk windows returned)) fun _ => ?_
  exact .bind (secret_recordConfigurationRecovery _ _ _) fun _ => .pure _

theorem secret_recoverCorruptSettings (windows : platform.isWindows = true) (reason : String) :
    Issuing Secret (recoverCorruptSettings platform reason) := by
  have defaults (quarantined : Bool) (from' : String) : Issuing Secret (do
      recordConfigurationRecovery reason quarantined from'
      pure defaultSettings) :=
    .bind (secret_recordConfigurationRecovery _ _ _) fun _ => .pure _
  refine .bind (secret_quarantineCorruptFile _ _) fun quarantined => ?_
  refine .bind (secret_present _) fun kept => ?_
  split
  · exact defaults _ _
  · refine .bind (secret_present _) fun there => ?_
    split
    · refine .bind (.attempt (secret_restoreLastGood windows _ _)) fun outcome => ?_
      cases outcome with
      | ok runtime => exact .pure _
      | error error =>
          cases error with
          | valueError backupError =>
              exact .bind (secret_quarantineCorruptFile _ _) fun _ => defaults _ _
          | osError => exact defaults _ _
          | runtimeError message => exact .raise _
    · exact defaults _ _

theorem secret_keepPrevious (windows : platform.isWindows = true) :
    Issuing Secret (keepPrevious platform) := by
  refine .bind (secret_present _) fun there => ?_
  split
  · refine .bind (.attempt (secret_load _)) fun outcome => ?_
    cases outcome with
    | ok previous =>
        simp only [windows, Bool.true_and]
        split
        · rename_i plain
          exact issuing_perform (noPlaintext_iff.mpr (by simpa using plain))
        · exact .pure _
    | error error =>
        cases error with
        | valueError error =>
            refine .bind (secret_quarantineCorruptFile _ _) fun quarantined => ?_
            refine .bind (secret_present _) fun kept => ?_
            split
            · exact .raise _
            · exact .pure _
        | osError => exact .raise _
        | runtimeError message => exact .raise _
  · exact .pure _

theorem secret_saveSettings (windows : platform.isWindows = true) (settings : Json) :
    Issuing Secret (saveSettings platform settings) := by
  have body : Issuing Secret (storeSettings platform settings) := by
    refine .bind secret_removeLegacyTmp fun _ => ?_
    refine issuing_ofExcept_bind fun runtime _ => ?_
    refine issuing_ofExcept_bind fun encoded returned => ?_
    refine issuing_ofExcept_bind fun disk checked => ?_
    rw [validateSerializedSettings_toJson] at checked
    obtain rfl := Except.ok.inj checked
    refine .bind (issuing_perform trivial) fun _ => ?_
    exact .bind (secret_keepPrevious windows) fun _ =>
      issuing_perform (noPlaintext_encode windows returned)
  refine .bind (.attempt body) fun outcome => ?_
  cases outcome with
  | ok value => exact .pure _
  | error error => exact .bind secret_removeLegacyTmp fun _ => .pure _

theorem secret_loadSettings (windows : platform.isWindows = true)
    (migrateLegacy recoverCorrupt : Bool) :
    Issuing Secret (loadSettings platform migrateLegacy recoverCorrupt) := by
  refine .bind (secret_present _) fun there => ?_
  split
  · refine .bind (.attempt (.bind (secret_load _) fun loaded =>
      issuing_ofExcept_bind fun runtime _ => .pure _)) fun outcome => ?_
    cases outcome with
    | ok pair =>
        simp only []
        split
        · exact .bind (secret_saveSettings windows _) fun _ => .pure _
        · exact .pure _
    | error error =>
        cases error with
        | valueError error =>
            simp only []
            split
            · exact secret_recoverCorruptSettings windows _
            · exact .pure _
        | osError => exact .pure _
        | runtimeError message => exact .pure _
  · exact .pure _

/-- On Windows no run of the store writes credentials in plain text to a settings file,
whatever is in the files and wherever the run fails or is stopped. -/
theorem no_plaintext_written (windows : platform.isWindows = true) (files last : Files)
    (slot : Slot) (disk : DiskSettings) :
    (∀ settings, (saveSettings platform settings).Issues faultyHost files (.write slot disk) last →
      NoPlaintext disk) ∧
    (∀ migrateLegacy recoverCorrupt,
      (loadSettings platform migrateLegacy recoverCorrupt).Issues faultyHost files
        (.write slot disk) last → NoPlaintext disk) ∧
    ∀ reason, (recoverCorruptSettings platform reason).Issues faultyHost files
      (.write slot disk) last → NoPlaintext disk :=
  ⟨fun settings issues => (secret_saveSettings windows settings faultyHost files).issues issues,
    fun migrateLegacy recoverCorrupt issues =>
      (secret_loadSettings windows migrateLegacy recoverCorrupt faultyHost files).issues issues,
    fun reason issues =>
      (secret_recoverCorruptSettings windows reason faultyHost files).issues issues⟩

def usernameKey : List Char := "\x7b\"username\":".toList

def passwordKey : List Char := ",\"password\":".toList

/-- The payload that is encrypted:
`json.dumps(..., ensure_ascii=False, separators=(",", ":"))`. -/
def payloadText (username password : String) : String :=
  .ofList (usernameKey ++ (quote false username ++ (passwordKey ++
    (quote false password ++ ['\x7d']))))

/-- A payload in exactly this form. -/
def readPayload (text : String) : Option (String × String) := do
  let rest ← expectText usernameKey text.toList
  let (username, rest) ← readString rest
  let rest ← expectText passwordKey rest
  let (password, rest) ← readString rest
  if rest = ['\x7d'] then some (username, password) else none

theorem readPayload_payloadText (username password : String) :
    readPayload (payloadText username password) = some (username, password) := by
  simp only [readPayload, payloadText, String.toList_ofList, expectText_append,
    readString_quote, Option.bind_eq_bind, Option.bind_some, if_true]

/-- Encryption with a key that reverses a text. -/
def windowsPlatform : Platform where
  isWindows := true
  protect text := some (.ofList text.toList.reverse)
  unprotect blob := some (.ofList blob.toList.reverse)
  dumpAuth := payloadText
  parseAuth := readPayload

/-- The defaults, with credentials. -/
def sampleRuntime : RuntimeSettings where
  localHttpPort := defaultSettings.localHttpPort
  localSocksPort := defaultSettings.localSocksPort
  localPacPort := defaultSettings.localPacPort
  pacPath := defaultSettings.pacPath
  upstream := defaultSettings.upstream.map fun upstream =>
    { upstream with username := "user", password := "secret" }
  distinct := defaultSettings.distinct
  few := by simp [defaultSettings, maxUpstreams]

def noFiles : Files where
  content _ := none
  legacyTmp := false
  quarantine := []
  recovery := none

theorem issues_saveSettings {runtime : RuntimeSettings}
    (encoded : encodeSettingsForDisk platform runtime = .ok disk) :
    (saveSettings platform (runtime.toJson Upstream.toJson)).Issues faultyHost noFiles
      (.write .primary disk) noFiles := by
  have answers (query : Query) : faultyHost.answers query true := .inl rfl
  suffices stored : (storeSettings platform (runtime.toJson Upstream.toJson)).Issues faultyHost
      noFiles (.write .primary disk) noFiles by
    obtain ⟨next, reaches⟩ := stored
    exact ⟨_, reaches.attempt.bind _⟩
  have removed : removeLegacyTmp.Finishes faultyHost noFiles (.ok ()) noFiles :=
    (finishes_ask (answers _) _ _ _).bind .refl
  have kept : (keepPrevious platform).Finishes faultyHost noFiles (.ok ()) noFiles :=
    (finishes_ask (answers _) _ _ _).bind .refl
  have made : (Program.perform .makeDataDir .osError : Store Unit).Finishes faultyHost noFiles
      (.ok ()) noFiles := .single (.accepted trivial)
  rw [storeSettings, validateRuntimeSettings_toJson]
  refine removed.issues_bind (Finishes.issues_bind .refl ?_)
  rw [encoded]
  refine Finishes.issues_bind .refl ?_
  rw [validateSerializedSettings_toJson]
  exact Finishes.issues_bind .refl (made.issues_bind (kept.issues_bind ⟨_, .refl⟩))

/-- The first save of the sample writes its credentials encrypted. -/
theorem no_plaintext_written_sample :
    ∃ disk, (saveSettings windowsPlatform (sampleRuntime.toJson Upstream.toJson)).Issues faultyHost
      noFiles (.write .primary disk) noFiles ∧ NoPlaintext disk := by
  obtain ⟨disk, encoded⟩ :
      ∃ disk, encodeSettingsForDisk windowsPlatform sampleRuntime = .ok disk := ⟨_, rfl⟩
  have issues := issues_saveSettings encoded
  exact ⟨disk, issues, (no_plaintext_written rfl noFiles noFiles .primary disk).1 _ issues⟩

end ProxyLauncher.Configuration
