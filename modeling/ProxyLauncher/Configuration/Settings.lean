import ProxyLauncher.Python.Json

/-!
# Settings and their validation

A settings object that passed validation has the keys and the ranges that the validator
checks, and nothing else; the structures below carry these facts.  There are two kinds of
settings, which differ in the credentials of an upstream: in memory they are plain text,
on disk they can be encrypted.
-/

namespace ProxyLauncher.Configuration

open Python

/-- The exception of every check. -/
structure ValueError where
  message : String
  deriving DecidableEq

@[ext]
structure Port where
  value : Nat
  positive : 1 ≤ value
  bounded : value ≤ 65535
  deriving DecidableEq

/-- `_validate_port`; `bool` is not an `int` here. -/
def validatePort (value : Json) (field : String) : Except ValueError Port :=
  match value with
  | .int number =>
      if inRange : 1 ≤ number ∧ number ≤ 65535 then
        .ok ⟨number.toNat, by omega, by omega⟩
      else .error ⟨field ++ " must be an integer from 1 to 65535"⟩
  | _ => .error ⟨field ++ " must be an integer from 1 to 65535"⟩

/-- What `_validate_host` finds wrong with a stripped host. -/
def hostProblem (text : String) : Option String :=
  if text.length > 512 then some " is too long"
  else if text.toList.any fun char => decide (char.toNat < 32) || isSpace char then
    some " contains whitespace/control characters"
  else if ["://", "/", "\\", "@"].any fun part => isIn part text then
    some " must be a host/address, not a URL"
  else none

@[ext]
structure Host where
  text : String
  stripped : strip text = text
  accepted : hostProblem text = none
  deriving DecidableEq

/-- `_validate_host`. -/
def validateHost (value : Json) (field : String) : Except ValueError Host :=
  match value with
  | .string raw =>
      if accepted : hostProblem (strip raw) = none then
        .ok ⟨strip raw, strip_strip raw, accepted⟩
      else .error ⟨field ++ (hostProblem (strip raw)).getD ""⟩
  | _ => .error ⟨field ++ " must be a string"⟩

/-- What `_validate_pac_path` finds wrong with a string. -/
def pacPathProblem (text : String) : Option String :=
  if startsWith "/" text = false ∨ text.length > 256 then
    some "pac_path must be an absolute local path up to 256 characters"
  else if (text.toList.any fun char => decide (char.toNat < 32) || isSpace char) ∨
      isIn "?" text ∨ isIn "#" text then
    some "pac_path contains unsafe characters"
  else none

@[ext]
structure PacPath where
  text : String
  accepted : pacPathProblem text = none
  deriving DecidableEq

/-- `_validate_pac_path`. -/
def validatePacPath (value : Json) : Except ValueError PacPath :=
  match value with
  | .string text =>
      if accepted : pacPathProblem text = none then .ok ⟨text, accepted⟩
      else .error ⟨(pacPathProblem text).getD ""⟩
  | _ => .error ⟨"pac_path must be a string"⟩

def configVersion : Int := 1

/-- `_validate_config_version`, of `settings.get("config_version")`. -/
def validateConfigVersion (value : Option Json) : Except ValueError Int :=
  match value with
  | none | some .null => .ok 0
  | some (.int version) =>
      if version < 0 then
        .error ⟨"config_version must be a non-negative integer"⟩
      else if version > configVersion then
        .error ⟨"unsupported future config_version " ++ toString version⟩
      else .ok version
  | some _ => .error ⟨"config_version must be a non-negative integer"⟩

@[simp] theorem validatePort_int (port : Port) (field : String) :
    validatePort (.int port.value) field = .ok port := by
  have low := port.positive
  have high := port.bounded
  have inRange : 1 ≤ (port.value : Int) ∧ (port.value : Int) ≤ 65535 := by omega
  simp [validatePort, inRange]

@[simp] theorem validateHost_string (host : Host) (field : String) :
    validateHost (.string host.text) field = .ok host := by
  have accepted : hostProblem (strip host.text) = none := by rw [host.stripped, host.accepted]
  rw [validateHost, dif_pos accepted]
  exact congrArg Except.ok (Host.ext_iff.mpr host.stripped)

@[simp] theorem validatePacPath_string (path : PacPath) :
    validatePacPath (.string path.text) = .ok path := by
  rw [validatePacPath, dif_pos path.accepted]

@[simp] theorem validateConfigVersion_current :
    validateConfigVersion (some (.int configVersion)) = .ok configVersion := rfl

/-- An upstream in memory. -/
@[ext]
structure Upstream where
  host : Host
  port : Port
  username : String
  password : String
  deriving DecidableEq

/-- A string of an upstream on disk that is there and not empty. -/
def truthy (text : Option String) : Bool :=
  decide (text.getD "" ≠ "")

/-- An upstream on disk, where every credential key is optional and encrypted credentials
exclude the others. -/
@[ext]
structure DiskUpstream where
  host : Host
  port : Port
  username : Option String
  password : Option String
  credentialsDpapi : Option String
  passwordDpapi : Option String
  unmixed : truthy credentialsDpapi = true →
    username = none ∧ password = none ∧ passwordDpapi = none
  onePassword : password = none ∨ passwordDpapi = none
  deriving DecidableEq

def runtimeUpstreamKeys : List String := ["host", "port", "username", "password"]

def diskUpstreamKeys : List String :=
  ["host", "port", "username", "password", "credentials_dpapi", "password_dpapi"]

/-- The field path of an entry of `upstream`. -/
def upstreamField (index : Nat) (key : String) : String :=
  "upstream[" ++ toString index ++ "]" ++ key

/-- The part of an entry that both kinds of settings have. -/
def validateEndpoint (allowed : List String) (index : Nat) (raw : Json) :
    Except ValueError (List (String × Json) × Host × Port) :=
  match raw with
  | .object entries => do
      if unknownKeys allowed entries ≠ [] then
        .error ⟨upstreamField index " contains unknown keys: " ++
          String.intercalate ", " (unknownKeys allowed entries)⟩
      let host ← validateHost ((entries.lookup "host").getD (.string ""))
        (upstreamField index ".host")
      let port ← validatePort ((entries.lookup "port").getD (.int 8000))
        (upstreamField index ".port")
      pure (entries, host, port)
  | _ => .error ⟨upstreamField index " must be an object"⟩

/-- An entry in memory: `_validate_upstream_list` with `storage=False`. -/
def validateRuntimeUpstream (index : Nat) (raw : Json) : Except ValueError Upstream := do
  let (entries, host, port) ← validateEndpoint runtimeUpstreamKeys index raw
  match (entries.lookup "username").getD (.string ""),
      (entries.lookup "password").getD (.string "") with
  | .string username, .string password => pure { host, port, username, password }
  | _, _ => .error ⟨"runtime upstream credentials must be strings"⟩

/-- An optional string of an entry on disk. -/
def optionalString (index : Nat) (entries : List (String × Json)) (key : String) :
    Except ValueError (Option String) :=
  match entries.lookup key with
  | none => .ok none
  | some (.string text) => .ok (some text)
  | some _ => .error ⟨upstreamField index ("." ++ key ++ " must be a string")⟩

/-- An entry on disk: `_validate_upstream_list` with `storage=True`. -/
def validateDiskUpstream (index : Nat) (raw : Json) : Except ValueError DiskUpstream := do
  let (entries, host, port) ← validateEndpoint diskUpstreamKeys index raw
  let username ← optionalString index entries "username"
  let password ← optionalString index entries "password"
  let credentialsDpapi ← optionalString index entries "credentials_dpapi"
  let passwordDpapi ← optionalString index entries "password_dpapi"
  if unmixed : truthy credentialsDpapi = true →
      username = none ∧ password = none ∧ passwordDpapi = none then
    if onePassword : password = none ∨ passwordDpapi = none then
      pure { host, port, username, password, credentialsDpapi, passwordDpapi, unmixed,
             onePassword }
    else .error ⟨"password and password_dpapi cannot coexist"⟩
  else
    .error ⟨"credentials_dpapi cannot be mixed with legacy/plaintext credentials"⟩

/-- The entries of a list from `index` on. -/
def validateEntries {υ : Type} (validate : Nat → Json → Except ValueError υ) :
    Nat → List Json → Except ValueError (List υ)
  | _, [] => .ok []
  | index, raw :: rest => do
      let upstream ← validate index raw
      let others ← validateEntries validate (index + 1) rest
      pure (upstream :: others)

def maxUpstreams : Nat := 16

/-- Validated settings with upstreams of one kind. -/
@[ext]
structure Settings (υ : Type) where
  localHttpPort : Port
  localSocksPort : Port
  localPacPort : Port
  pacPath : PacPath
  upstream : List υ
  distinct : localHttpPort ≠ localSocksPort ∧ localHttpPort ≠ localPacPort ∧
    localSocksPort ≠ localPacPort
  few : upstream.length ≤ maxUpstreams
  deriving DecidableEq

/-- Settings in memory. -/
abbrev RuntimeSettings := Settings Upstream

/-- Settings as a file has them. -/
abbrev DiskSettings := Settings DiskUpstream

def configAllowedTopLevel : List String :=
  ["config_version", "local_http_port", "local_socks_port", "local_pac_port", "pac_path",
    "upstream"]

theorem validateEntries_length {υ : Type} {validate : Nat → Json → Except ValueError υ}
    {index : Nat} {values : List Json} {upstream : List υ}
    (returned : validateEntries validate index values = .ok upstream) :
    upstream.length = values.length := by
  induction values generalizing index upstream with
  | nil => cases returned; rfl
  | cons raw rest ih =>
      obtain ⟨head, -, rest'⟩ := bind_eq_ok.mp returned
      obtain ⟨others, tail, whole⟩ := bind_eq_ok.mp rest'
      obtain rfl := Except.ok.inj whole
      simp [ih tail]

/-- `_validate_upstream_list` with the check of one kind of entry. -/
def validateUpstreamList {υ : Type} (validate : Nat → Json → Except ValueError υ)
    (value : Json) : Except ValueError { upstream : List υ // upstream.length ≤ maxUpstreams } :=
  match value with
  | .array values =>
      if few : values.length ≤ maxUpstreams then
        match returned : validateEntries validate 0 values with
        | .ok upstream => .ok ⟨upstream, validateEntries_length returned ▸ few⟩
        | .error error => .error error
      else
        .error ⟨"upstream contains more than " ++ toString maxUpstreams ++ " entries"⟩
  | _ => .error ⟨"upstream must be a list"⟩

/-- `_validate_settings_model`, with the check and the default that belong to `storage`. -/
def validateSettingsModel {υ : Type} (validate : Nat → Json → Except ValueError υ)
    (upstreamDefault settings : Json) : Except ValueError (Settings υ) :=
  match settings with
  | .object entries => do
      if unknownKeys configAllowedTopLevel entries ≠ [] then
        .error ⟨"settings contain unknown keys: " ++
          String.intercalate ", " (unknownKeys configAllowedTopLevel entries)⟩
      let _ ← validateConfigVersion (entries.lookup "config_version")
      let localHttpPort ← validatePort
        ((entries.lookup "local_http_port").getD (.int 8080)) "local_http_port"
      let localSocksPort ← validatePort
        ((entries.lookup "local_socks_port").getD (.int 1080)) "local_socks_port"
      let localPacPort ← validatePort
        ((entries.lookup "local_pac_port").getD (.int 8082)) "local_pac_port"
      let pacPath ← validatePacPath ((entries.lookup "pac_path").getD (.string "/proxy.pac"))
      if distinct : localHttpPort ≠ localSocksPort ∧ localHttpPort ≠ localPacPort ∧
          localSocksPort ≠ localPacPort then
        let upstream ← validateUpstreamList validate
          ((entries.lookup "upstream").getD upstreamDefault)
        pure { localHttpPort, localSocksPort, localPacPort, pacPath, upstream := upstream.1,
               distinct, few := upstream.2 }
      else .error ⟨"local HTTP, SOCKS5 and PAC ports must be distinct"⟩
  | _ => .error ⟨"settings must be an object"⟩

/-- `DEFAULT_SETTINGS["upstream"]`. -/
def defaultUpstream : Json :=
  .array [.object [("host", .string ""), ("port", .int 8000), ("username", .string ""),
    ("password", .string "")]]

/-- `_validate_runtime_settings`. -/
def validateRuntimeSettings (settings : Json) : Except ValueError RuntimeSettings :=
  validateSettingsModel validateRuntimeUpstream defaultUpstream settings

/-- `_validate_serialized_settings`. -/
def validateSerializedSettings (settings : Json) : Except ValueError DiskSettings :=
  validateSettingsModel validateDiskUpstream
    (.array [.object [("host", .string ""), ("port", .int 8000)]]) settings

/-- `DEFAULT_SETTINGS`. -/
def defaultSettings : RuntimeSettings where
  localHttpPort := ⟨8080, by decide, by decide⟩
  localSocksPort := ⟨1080, by decide, by decide⟩
  localPacPort := ⟨8082, by decide, by decide⟩
  pacPath := ⟨"/proxy.pac", by decide⟩
  upstream := [⟨⟨"", strip_empty, by decide⟩, ⟨8000, by decide, by decide⟩, "", ""⟩]
  distinct := by simp
  few := by simp [maxUpstreams]

def Upstream.toJson (upstream : Upstream) : Json :=
  .object [("host", .string upstream.host.text), ("port", .int upstream.port.value),
    ("username", .string upstream.username), ("password", .string upstream.password)]

/-- An optional entry of a dictionary. -/
def optionalEntry (key : String) (text : Option String) : List (String × Json) :=
  (text.map fun text => (key, Json.string text)).toList

def DiskUpstream.toJson (upstream : DiskUpstream) : Json :=
  .object (("host", .string upstream.host.text) :: ("port", .int upstream.port.value) ::
    (optionalEntry "username" upstream.username ++
      (optionalEntry "password" upstream.password ++
        (optionalEntry "credentials_dpapi" upstream.credentialsDpapi ++
          optionalEntry "password_dpapi" upstream.passwordDpapi))))

def Settings.toJson {υ : Type} (upstreamJson : υ → Json) (settings : Settings υ) : Json :=
  .object [("config_version", .int configVersion),
    ("local_http_port", .int settings.localHttpPort.value),
    ("local_socks_port", .int settings.localSocksPort.value),
    ("local_pac_port", .int settings.localPacPort.value),
    ("pac_path", .string settings.pacPath.text),
    ("upstream", .array (settings.upstream.map upstreamJson))]

/-- Validation of validated entries changes nothing. -/
theorem validateEntries_map {υ : Type} {validate : Nat → Json → Except ValueError υ}
    {toJson : υ → Json} (valid : ∀ index upstream, validate index (toJson upstream) = .ok upstream)
    (index : Nat) (upstream : List υ) :
    validateEntries validate index (upstream.map toJson) = .ok upstream := by
  induction upstream generalizing index with
  | nil => rfl
  | cons head rest ih => simp [validateEntries, valid, ih, bind, Except.bind, pure, Except.pure]

theorem validateUpstreamList_map {υ : Type} {validate : Nat → Json → Except ValueError υ}
    {toJson : υ → Json} (valid : ∀ index upstream, validate index (toJson upstream) = .ok upstream)
    (upstream : List υ) (few : upstream.length ≤ maxUpstreams) :
    validateUpstreamList validate (.array (upstream.map toJson)) = .ok ⟨upstream, few⟩ := by
  have few' : (upstream.map toJson).length ≤ maxUpstreams := by simpa using few
  unfold validateUpstreamList
  simp only [few', ↓reduceDIte]
  split
  · rename_i upstream' returned
    rw [validateEntries_map valid] at returned
    obtain rfl := Except.ok.inj returned
    rfl
  · rename_i error raised
    rw [validateEntries_map valid] at raised
    cases raised

/-- Validation of validated settings changes nothing. -/
theorem validateSettingsModel_toJson {υ : Type} {validate : Nat → Json → Except ValueError υ}
    {toJson : υ → Json} (valid : ∀ index upstream, validate index (toJson upstream) = .ok upstream)
    (upstreamDefault : Json) (settings : Settings υ) :
    validateSettingsModel validate upstreamDefault (settings.toJson toJson) = .ok settings := by
  have known : ∀ entry ∈ ([("config_version", .int configVersion),
      ("local_http_port", .int settings.localHttpPort.value),
      ("local_socks_port", .int settings.localSocksPort.value),
      ("local_pac_port", .int settings.localPacPort.value),
      ("pac_path", .string settings.pacPath.text),
      ("upstream", .array (settings.upstream.map toJson))] : List (String × Json)),
      entry.1 ∈ configAllowedTopLevel := by
    simp [configAllowedTopLevel]
  have upstream := validateUpstreamList_map valid settings.upstream settings.few
  simp only [validateSettingsModel, Settings.toJson, unknownKeys_eq_nil known]
  simp [List.lookup, upstream, settings.distinct, bind, Except.bind, pure, Except.pure]

theorem validateEndpoint_object {allowed : List String} (index : Nat) (host : Host) (port : Port)
    {rest : List (String × Json)}
    (known : ∀ key ∈ "host" :: "port" :: rest.map Prod.fst, key ∈ allowed) :
    validateEndpoint allowed index
        (.object (("host", .string host.text) :: ("port", .int port.value) :: rest)) =
      .ok (("host", .string host.text) :: ("port", .int port.value) :: rest, host, port) := by
  have known' : unknownKeys allowed
      (("host", .string host.text) :: ("port", .int port.value) :: rest) = [] :=
    unknownKeys_eq_nil fun entry member => known entry.1 (by
      have key := List.mem_map.mpr ⟨entry, member, (rfl : Prod.fst entry = entry.1)⟩
      simpa using key)
  simp only [validateEndpoint, known']
  simp [List.lookup, bind, Except.bind, pure, Except.pure]

@[simp] theorem validateRuntimeUpstream_toJson (index : Nat) (upstream : Upstream) :
    validateRuntimeUpstream index upstream.toJson = .ok upstream := by
  rw [validateRuntimeUpstream, Upstream.toJson,
    validateEndpoint_object index _ _ (by simp [runtimeUpstreamKeys])]
  simp [List.lookup, bind, Except.bind, pure, Except.pure]

theorem mem_optionalEntry {key : String} {text : Option String} {entry : String × Json}
    (member : entry ∈ optionalEntry key text) : entry.1 = key := by
  obtain ⟨value, -, rfl⟩ := by simpa [optionalEntry] using member
  rfl

theorem lookup_optionalEntry_of_ne {key other : String} (text : Option String)
    (rest : List (String × Json)) (different : key ≠ other) :
    (optionalEntry other text ++ rest).lookup key = rest.lookup key := by
  cases text with
  | none => rfl
  | some text => simp [optionalEntry, List.lookup_cons, beq_false_of_ne different]

theorem lookup_optionalEntry {key : String} (text : Option String) (rest : List (String × Json)) :
    (optionalEntry key text ++ rest).lookup key =
      (text.map Json.string).or (rest.lookup key) := by
  cases text with
  | none => rfl
  | some text => simp [optionalEntry]

theorem optionalString_of_lookup {index : Nat} {entries : List (String × Json)} {key : String}
    (text : Option String) (found : entries.lookup key = text.map Json.string) :
    optionalString index entries key = .ok text := by
  cases text <;> simp [optionalString, found]

@[simp] theorem validateDiskUpstream_toJson (index : Nat) (upstream : DiskUpstream) :
    validateDiskUpstream index upstream.toJson = .ok upstream := by
  obtain ⟨host, port, username, password, credentials, legacy, unmixed, onePassword⟩ := upstream
  have known : ∀ key ∈ "host" :: "port" ::
      (optionalEntry "username" username ++ (optionalEntry "password" password ++
        (optionalEntry "credentials_dpapi" credentials ++
          optionalEntry "password_dpapi" legacy))).map Prod.fst, key ∈ diskUpstreamKeys := by
    simp only [List.mem_cons, List.mem_map, List.mem_append]
    rintro key (rfl | rfl | ⟨entry, member | member | member | member, rfl⟩)
    · simp [diskUpstreamKeys]
    · simp [diskUpstreamKeys]
    all_goals simp [mem_optionalEntry member, diskUpstreamKeys]
  have last : (optionalEntry "password_dpapi" legacy).lookup "password_dpapi" =
      legacy.map Json.string := by
    simpa using lookup_optionalEntry legacy []
  have other (key : String) (different : key ≠ "password_dpapi") :
      (optionalEntry "password_dpapi" legacy).lookup key = none := by
    simpa using lookup_optionalEntry_of_ne legacy [] different
  rw [validateDiskUpstream, DiskUpstream.toJson, validateEndpoint_object index _ _ known]
  simp only [bind, Except.bind]
  rw [optionalString_of_lookup username, optionalString_of_lookup password,
    optionalString_of_lookup credentials, optionalString_of_lookup legacy]
  · exact (dif_pos unmixed).trans (dif_pos onePassword)
  all_goals simp [List.lookup_cons, lookup_optionalEntry, lookup_optionalEntry_of_ne, last, other]

@[simp] theorem validateRuntimeSettings_toJson (settings : RuntimeSettings) :
    validateRuntimeSettings (settings.toJson Upstream.toJson) = .ok settings :=
  validateSettingsModel_toJson validateRuntimeUpstream_toJson _ settings

@[simp] theorem validateSerializedSettings_toJson (settings : DiskSettings) :
    validateSerializedSettings (settings.toJson DiskUpstream.toJson) = .ok settings :=
  validateSettingsModel_toJson validateDiskUpstream_toJson _ settings

end ProxyLauncher.Configuration
