import ProxyLauncher.Configuration.Credentials

/-!
# Saving and loading

What a save has accepted is what the next load returns, with the credentials of every
upstream.  Encryption is assumed to be inverted by decryption.
-/

namespace ProxyLauncher.Configuration

open Interruption Python Program

/-- Decryption and the parser of payloads undo encryption and the text of a payload. -/
structure Lossless (platform : Platform) : Prop where
  unprotects : ∀ text blob, dpapiProtectText platform text = some blob →
    dpapiUnprotectText platform blob = some text
  parses : ∀ username password,
    platform.parseAuth (platform.dumpAuth username password) = some (username, password)
  nonempty : ∀ username password, platform.dumpAuth username password ≠ ""

variable {platform : Platform} {disk : DiskSettings} {runtime : RuntimeSettings}
  {files last : Files}

theorem encodeUpstream_endpoint {upstream : Upstream} {encoded : DiskUpstream}
    (returned : encodeUpstream platform upstream = .ok encoded) :
    encoded.host = upstream.host ∧ encoded.port = upstream.port := by
  simp only [encodeUpstream] at returned
  split_ifs at returned with windows credentials
  · split at returned
    · obtain rfl := Except.ok.inj returned
      exact ⟨rfl, rfl⟩
    · exact absurd returned (by simp)
  · obtain rfl := Except.ok.inj returned
    exact ⟨rfl, rfl⟩
  · obtain rfl := Except.ok.inj returned
    exact ⟨rfl, rfl⟩

/-- An encrypted payload is not the empty text, which stands for no payload. -/
theorem Lossless.blob_ne_empty (lossless : Lossless platform) {text blob : String}
    (nonempty : text ≠ "") (protected' : dpapiProtectText platform text = some blob) :
    blob ≠ "" := by
  rintro rfl
  have decrypted := lossless.unprotects text "" protected'
  rw [dpapiUnprotectText, if_pos rfl] at decrypted
  exact nonempty (Option.some.inj decrypted).symm

theorem decodeCredentials_encodeUpstream (lossless : Lossless platform) {upstream : Upstream}
    {encoded : DiskUpstream} (returned : encodeUpstream platform upstream = .ok encoded) :
    decodeCredentials platform encoded = (upstream.username, upstream.password) := by
  simp only [encodeUpstream] at returned
  split_ifs at returned with windows credentials
  · split at returned
    · rename_i blob encrypted
      obtain rfl := Except.ok.inj returned
      have nonempty := lossless.blob_ne_empty (lossless.nonempty _ _) encrypted
      simp [decodeCredentials, truthy, nonempty, lossless.unprotects _ _ encrypted,
        lossless.parses]
    · exact absurd returned (by simp)
  · obtain rfl := Except.ok.inj returned
    obtain ⟨username, password⟩ := not_or.mp credentials
    rw [not_not.mp username, not_not.mp password]
    rfl
  · obtain rfl := Except.ok.inj returned
    rfl

theorem decode_encodeUpstreams (lossless : Lossless platform) {upstream : List Upstream}
    {encoded : List DiskUpstream} (returned : encodeUpstreams platform upstream = .ok encoded) :
    (encoded.map fun entry =>
      ({ host := entry.host, port := entry.port,
         username := (decodeCredentials platform entry).1,
         password := (decodeCredentials platform entry).2 } : Upstream)) = upstream := by
  induction upstream generalizing encoded with
  | nil =>
      obtain rfl := Except.ok.inj returned
      rfl
  | cons head rest ih =>
      obtain ⟨first, one, returned⟩ := bind_eq_ok.mp returned
      obtain ⟨others, tail, whole⟩ := bind_eq_ok.mp returned
      obtain rfl := Except.ok.inj whole
      obtain ⟨host, port⟩ := encodeUpstream_endpoint one
      rw [List.map_cons, ih tail, decodeCredentials_encodeUpstream lossless one, host, port]

/-- Decoding undoes encoding. -/
theorem decodeUpstreamSecrets_encode (lossless : Lossless platform)
    (returned : encodeSettingsForDisk platform runtime = .ok disk) :
    decodeUpstreamSecrets platform disk = runtime := by
  obtain ⟨encoded, whole⟩ := encodeUpstreams_of_ok returned
  rw [whole]
  exact Settings.ext rfl rfl rfl rfl (decode_encodeUpstreams lossless encoded)

/-- After a save that returned `True` the primary file holds the settings, validated and
encoded. -/
def Saved (platform : Platform) (settings : Json) (outcome : Except ConfigError Bool)
    (files : Files) : Prop :=
  outcome = .ok true → ∃ runtime disk, validateRuntimeSettings settings = .ok runtime ∧
    encodeSettingsForDisk platform runtime = .ok disk ∧
    files.content .primary = some (.json (disk.toJson DiskUpstream.toJson))

theorem ensures_storeSettings (settings : Json) (files : Files) :
    (storeSettings platform settings).Ensures faultyHost (fun _ _ => True)
      (fun outcome last => outcome = .ok () → Saved platform settings (.ok true) last) files := by
  have raised {ε : ConfigError} {last : Files} : (.error ε : Except ConfigError Unit) = .ok () →
      Saved platform settings (.ok true) last := by simp
  refine (ensures_trivial removeLegacyTmp files).bind ?_ fun _ _ _ => raised
  intro _ files _
  rw [ensures_bind, ensures_ofExcept]
  cases validated : validateRuntimeSettings settings with
  | error error => exact raised
  | ok runtime =>
      simp only [checked, Except.mapError, followedBy_ok]
      rw [ensures_bind, ensures_ofExcept]
      cases returned : encodeSettingsForDisk platform runtime with
      | error error => exact raised
      | ok disk =>
          rw [followedBy_ok, validateSerializedSettings_toJson, ensures_bind, ensures_ofExcept,
            followedBy_ok]
          refine (ensures_trivial _ _).bind (fun _ _ _ => ?_) fun _ _ _ => raised
          refine (ensures_trivial _ _).bind (fun _ files' _ => ?_) fun _ _ _ => raised
          refine ⟨trivial, fun _ _ _ => ⟨runtime, disk, validated, returned, ?_⟩, fun _ => raised⟩
          simp [faultyHost, effect, Files.write]

theorem ensures_saveSettings (settings : Json) (files : Files) :
    (saveSettings platform settings).Ensures faultyHost (fun _ _ => True)
      (Saved platform settings) files := by
  rw [saveSettings, ensures_bind, ensures_attempt]
  refine (ensures_storeSettings settings files).weaken_post fun outcome last stored => ?_
  cases outcome with
  | ok value => exact fun _ => stored rfl rfl
  | error error =>
      refine (ensures_trivial _ _).bind (fun _ _ _ => ?_) fun _ _ _ => ?_
      · exact fun answer => absurd answer (by simp)
      · exact fun answer => absurd answer (by simp)

theorem exec_keepPrevious (sound : files.content .primary = none ∨ Valid .primary files) :
    ∃ last, (keepPrevious platform).exec effect files = (.ok (), last) := by
  rw [keepPrevious, exec_bind_ok (exec_present ..)]
  rcases sound with missing | ⟨disk, valid⟩
  · rw [missing]
    exact ⟨_, rfl⟩
  · split
    · rw [exec_bind, exec_attempt, exec_loadSerializedSettings, valid]
      dsimp only
      split
      · exact ⟨_, rfl⟩
      · exact ⟨_, rfl⟩
    · exact ⟨_, rfl⟩

/-- Settings that can be encoded are saved unless the primary file is corrupt. -/
theorem exec_saveSettings_true (encoded : encodeSettingsForDisk platform runtime = .ok disk)
    (sound : files.content .primary = none ∨ Valid .primary files) :
    ((saveSettings platform (runtime.toJson Upstream.toJson)).exec effect files).1 = .ok true := by
  obtain ⟨clean, removed, content⟩ := exec_removeLegacyTmp files
  have sound' : clean.content .primary = none ∨ Valid .primary clean := by
    rwa [Valid, content]
  obtain ⟨last, kept⟩ := @exec_keepPrevious platform clean sound'
  have stored : ∃ last, (storeSettings platform (runtime.toJson Upstream.toJson)).exec effect
      files = (.ok (), last) := by
    rw [storeSettings, exec_bind_ok removed, validateRuntimeSettings_toJson]
    simp only [checked, Except.mapError]
    rw [exec_bind_ok (exec_ofExcept ..), encoded, exec_bind_ok (exec_ofExcept ..),
      validateSerializedSettings_toJson, exec_bind_ok (exec_ofExcept ..),
      exec_bind_ok (exec_perform ..)]
    simp only [effect]
    rw [exec_bind_ok kept]
    exact ⟨_, rfl⟩
  obtain ⟨last, stored⟩ := stored
  rw [saveSettings, exec_bind, exec_attempt, stored]
  rfl

theorem exec_loadSettings_saved (lossless : Lossless platform)
    (encoded : encodeSettingsForDisk platform runtime = .ok disk)
    (written : files.content .primary = some (.json (disk.toJson DiskUpstream.toJson)))
    (migrateLegacy recoverCorrupt : Bool) :
    ((loadSettings platform migrateLegacy recoverCorrupt).exec effect files).1 = .ok runtime := by
  have valid : readDisk (files.content .primary) = .ok disk := by rw [written, readDisk_toJson]
  rw [exec_loadSettings_valid platform valid, decodeUpstreamSecrets_encode lossless encoded]

/-- Whatever is in the files and wherever the save fails: if it returns `True`, the next
load returns the settings as they were validated.  Saving these succeeds, and every save of
them that succeeds leaves the primary file and what is loaded from it as they are. -/
theorem save_load_round_trip (lossless : Lossless platform) (settings : Json) (files last : Files)
    (saves : (saveSettings platform settings).Finishes faultyHost files (.ok true) last) :
    ∃ runtime, validateRuntimeSettings settings = .ok runtime ∧
      (∀ migrateLegacy recoverCorrupt,
        ((loadSettings platform migrateLegacy recoverCorrupt).exec effect last).1 =
          .ok runtime) ∧
      ((saveSettings platform (runtime.toJson Upstream.toJson)).exec effect last).1 = .ok true ∧
      ∀ again, (saveSettings platform (runtime.toJson Upstream.toJson)).Finishes faultyHost last
        (.ok true) again →
        again.content .primary = last.content .primary ∧
        ∀ migrateLegacy recoverCorrupt,
          ((loadSettings platform migrateLegacy recoverCorrupt).exec effect again).1 =
            .ok runtime := by
  obtain ⟨runtime, disk, validated, encoded, written⟩ :=
    (ensures_saveSettings settings files).finishes saves rfl
  have loads := exec_loadSettings_saved lossless encoded written
  have valid : readDisk (last.content .primary) = .ok disk := by rw [written, readDisk_toJson]
  refine ⟨runtime, validated, loads, exec_saveSettings_true encoded (.inr ⟨disk, valid⟩), ?_⟩
  intro again savesAgain
  obtain ⟨runtime', disk', validated', encoded', written'⟩ :=
    (ensures_saveSettings _ last).finishes savesAgain rfl
  rw [validateRuntimeSettings_toJson] at validated'
  obtain rfl := Except.ok.inj validated'
  obtain rfl := Except.ok.inj (encoded'.symm.trans encoded)
  exact ⟨written'.trans written.symm, exec_loadSettings_saved lossless encoded written'⟩

theorem windowsPlatform_lossless : Lossless windowsPlatform where
  unprotects text blob := by
    intro encrypted
    by_cases empty : text = ""
    · rw [dpapiProtectText, if_pos empty] at encrypted
      obtain rfl := Option.some.inj encrypted
      rw [empty]
      rfl
    · have windows : windowsPlatform.isWindows = true := rfl
      rw [dpapiProtectText, if_neg empty, if_pos windows] at encrypted
      obtain rfl := Option.some.inj encrypted
      have nonempty : String.ofList text.toList.reverse ≠ "" := by
        intro none
        have reversed := congrArg String.toList none
        rw [String.toList_ofList, String.toList_empty, List.reverse_eq_nil_iff] at reversed
        exact empty (String.toList_eq_nil_iff.mp reversed)
      rw [dpapiUnprotectText, if_neg nonempty, if_pos windows]
      simp [windowsPlatform]
  parses := readPayload_payloadText
  nonempty username password := by
    intro none
    have parsed := readPayload_payloadText username password
    rw [show payloadText username password = "" from none,
      show readPayload "" = Option.none from rfl] at parsed
    cases parsed

theorem save_load_round_trip_sample :
    ∃ last, (saveSettings windowsPlatform (sampleRuntime.toJson Upstream.toJson)).Finishes
      faultyHost noFiles (.ok true) last ∧
      ((loadSettings windowsPlatform true true).exec effect last).1 = .ok sampleRuntime := by
  obtain ⟨disk, encoded⟩ :
      ∃ disk, encodeSettingsForDisk windowsPlatform sampleRuntime = .ok disk := ⟨_, rfl⟩
  have saves := finishes_exec faultyHost (fun _ => .inl rfl) (fun _ => trivial)
    (saveSettings windowsPlatform (sampleRuntime.toJson Upstream.toJson)) noFiles
  rw [show faultyHost.effect = effect from rfl,
    exec_saveSettings_true encoded (.inl rfl)] at saves
  obtain ⟨runtime, validated, loads, -⟩ := save_load_round_trip windowsPlatform_lossless _ _ _ saves
  rw [validateRuntimeSettings_toJson] at validated
  obtain rfl := Except.ok.inj validated
  exact ⟨_, saves, loads true true⟩

end ProxyLauncher.Configuration
