import ProxyLauncher.Encoding.Base64
import ProxyLauncher.Python.Json

/-!
# The sessions of the free gateway

A client asks for a session of a location and gets a user name and a password that the relay
checks without storing anything.
-/

namespace ProxyLauncher.Gateway

open Python Encoding

inductive Raised where
  | valueError (message : String)
  | decodeError
  | keyError (key : String)
  | typeError
  | attributeError
  | recursionError
deriving DecidableEq

/-- The library functions whose text is not modelled. -/
structure Library where
  loads : String → Except Raised Json
  str : Json → String
  upper : String → String
  lower : String → String
  bool : Json → Bool
  int : Json → Except Raised ℤ
  digest : List UInt8 → List UInt8 → List UInt8
  int_str : ∀ number : ℤ, int (.string (toString number)) = .ok number
  lower_ascii : ∀ text : String, (∀ char ∈ text.toList, char.toNat < 128) →
    (lower text).toList = text.toList.map Char.toLower

def utf8 (text : String) : List UInt8 :=
  text.toUTF8.data.toList

/-- `bytes.decode("utf-8")`. -/
def fromUtf8 (bytes : List UInt8) : Option String :=
  String.fromUTF8? ⟨bytes.toArray⟩

/-- `item[key]`. -/
def subscript (key : String) : Json → Except Raised Json
  | .object entries => (entries.lookup key).elim (.error (.keyError key)) .ok
  | _ => .error .typeError

/-- `item.get(key, default)`. -/
def get (key : String) (default : Json) : Json → Except Raised Json
  | .object entries => .ok ((entries.lookup key).getD default)
  | _ => .error .attributeError

/-- `for item in items`. -/
def elements : Json → Except Raised (List Json)
  | .array values => .ok values
  | .object entries => .ok (entries.map fun entry => .string entry.1)
  | .string value => .ok (value.toList.map fun char => .string (.singleton char))
  | _ => .error .typeError

/-- `dictionary.update(new)`. -/
def update (entries new : List (String × Json)) : List (String × Json) :=
  new.foldl (fun entries entry =>
    if entry.1 ∈ entries.map Prod.fst then
      entries.map fun old => if old.1 = entry.1 then entry else old
    else entries ++ [entry]) entries

structure UpstreamProxy where
  locationId : String
  label : String
  countryCode : String
  host : String
  port : ℤ
  username : String := ""
  password : String := ""
  tls : Bool := false
deriving DecidableEq

structure GatewayConfig where
  publicHost : String
  apiPort : ℤ
  proxyPort : ℤ
  publicProxyPort : ℤ
  publicProxyType : String
  tokenSecret : String
  sessionTtlSeconds : ℤ
  upstreams : List (String × UpstreamProxy)
deriving DecidableEq

variable (library : Library)

/-- The `UpstreamProxy` of an item. -/
def upstreamProxy (item : Json) : Except Raised UpstreamProxy := do
  let locationId ← subscript "id" item
  let label ← subscript "label" item
  let countryCode ← subscript "country_code" item
  let host ← subscript "host" item
  let port ← library.int (← subscript "port" item)
  let username ← get "username" (.string "") item
  let password ← get "password" (.string "") item
  let tls ← get "tls" (.bool false) item
  return {
    locationId := library.str locationId
    label := library.str label
    countryCode := library.upper (library.str countryCode)
    host := library.str host
    port
    username := library.str username
    password := library.str password
    tls := library.bool tls }

/-- One round of the loop over the items. -/
def addUpstream (upstreams : List (String × UpstreamProxy)) (item : Json) :
    Except Raised (List (String × UpstreamProxy)) := do
  let proxy ← upstreamProxy library item
  if proxy.locationId = "" ∨ proxy.host = "" ∨ ¬ (1 ≤ proxy.port ∧ proxy.port < 65536) then
    throw (.valueError "invalid upstream proxy entry")
  else if (upstreams.lookup proxy.locationId).isSome then
    throw (.valueError "duplicate free proxy id")
  else return upstreams ++ [(proxy.locationId, proxy)]

/-- The proxies of `APL_FREE_PROXIES_JSON`. -/
def loadUpstreams (raw : String) : Except Raised (List (String × UpstreamProxy)) := do
  let items ← elements (← library.loads raw)
  let upstreams ← items.foldlM (addUpstream library) []
  if upstreams = [] then throw (.valueError "at least one free proxy is required")
  else return upstreams

/-- `GatewayConfig.from_env`. -/
def fromEnv (environ : String → Option String) : Except Raised GatewayConfig :=
  let tokenSecret := (environ "APL_GATEWAY_TOKEN_SECRET").getD ""
  let raw := (environ "APL_FREE_PROXIES_JSON").getD ""
  if tokenSecret.length < 32 then
    throw (.valueError "APL_GATEWAY_TOKEN_SECRET must contain at least 32 characters")
  else if raw = "" then throw (.valueError "APL_FREE_PROXIES_JSON is required")
  else do
    let upstreams ← loadUpstreams library raw
    let apiPort ← library.int (.string ((environ "APL_GATEWAY_API_PORT").getD "8787"))
    let proxyPort ← library.int (.string ((environ "APL_GATEWAY_PROXY_PORT").getD "8788"))
    let publicProxyPort ← library.int (.string ((environ "APL_GATEWAY_PUBLIC_PROXY_PORT").getD
      ((environ "APL_GATEWAY_PROXY_PORT").getD "8788")))
    let ttl ← library.int (.string ((environ "APL_GATEWAY_SESSION_TTL").getD "600"))
    return {
      publicHost := (environ "APL_GATEWAY_PUBLIC_HOST").getD "127.0.0.1"
      apiPort
      proxyPort
      publicProxyPort
      publicProxyType := library.upper ((environ "APL_GATEWAY_PUBLIC_PROXY_TYPE").getD "HTTP")
      tokenSecret
      sessionTtlSeconds := min ttl 3600
      upstreams }

/-- What `public_locations` shows of a proxy. -/
def UpstreamProxy.publicLocation (proxy : UpstreamProxy) : List (String × Json) :=
  [("id", .string proxy.locationId), ("label", .string proxy.label),
    ("country_code", .string proxy.countryCode)]

structure SessionTokenManager where
  secret : List UInt8
  ttl : ℤ
deriving DecidableEq

/-- `SessionTokenManager(secret, ttl_seconds)`. -/
def SessionTokenManager.init (secret : String) (ttlSeconds : ℤ) :
    Except Raised SessionTokenManager :=
  if secret.length < 32 then .error (.valueError "token secret is too short")
  else .ok { secret := utf8 secret, ttl := min ttlSeconds 3600 }

/-- `int(clock())`. -/
def seconds (clock : ℚ) : ℤ :=
  if 0 ≤ clock then ⌊clock⌋ else ⌈clock⌉

/-- `_b64`. -/
def b64 (data : List UInt8) : String :=
  .ofList (Alphabet.unpadded (urlsafe.encode data))

def payload (locationId : String) (expires : ℤ) : List UInt8 :=
  utf8 (locationId ++ ":" ++ toString expires)

/-- `hmac.compare_digest` of two strings. -/
def compareDigest (supplied expected : String) : Except Raised Bool :=
  if (supplied.toList ++ expected.toList).all (fun char => decide (char.toNat < 128)) = true then
    .ok (decide (supplied = expected))
  else .error .typeError

namespace SessionTokenManager

variable (manager : SessionTokenManager)

def signature (locationId : String) (expires : ℤ) : String :=
  b64 (library.digest manager.secret (payload locationId expires))

def issue (locationId : String) (clock : ℚ) : String × ℤ :=
  let expires := seconds clock + manager.ttl
  (toString expires ++ "." ++ manager.signature library locationId expires, expires)

def verify (locationId token : String) (clock : ℚ) : Except Raised Bool :=
  match splitOnce '.' token with
  | none => .ok false
  | some (expiresText, supplied) =>
      match library.int (.string expiresText) with
      | .error _ => .ok false
      | .ok expires =>
          if expires < seconds clock ∨ seconds clock + 3600 < expires then .ok false
          else compareDigest supplied (manager.signature library locationId expires)

end SessionTokenManager

structure Response where
  status : ℕ
  payload : Json

structure GatewayApi where
  config : GatewayConfig
  healthMonitor : Option (String → List (String × Json))
  tokens : SessionTokenManager

/-- `GatewayApi(config, health_monitor)`. -/
def GatewayApi.init (config : GatewayConfig)
    (healthMonitor : Option (String → List (String × Json))) : Except Raised GatewayApi := do
  let tokens ← SessionTokenManager.init config.tokenSecret config.sessionTtlSeconds
  return { config, healthMonitor, tokens }

/-- `GatewayApi.public_locations`. -/
def GatewayApi.publicLocations (api : GatewayApi) : List Json :=
  api.config.upstreams.map fun upstream =>
    .object (api.healthMonitor.elim upstream.2.publicLocation fun snapshot =>
      update upstream.2.publicLocation (snapshot upstream.2.locationId))

/-- The response to a request for a session. -/
def GatewayApi.session (api : GatewayApi) (locationId : String) (clock : ℚ) : Response :=
  if api.config.upstreams.lookup locationId = none then
    ⟨404, .object [("error", .string "unknown_location")]⟩
  else
    let issued := api.tokens.issue library locationId clock
    ⟨201, .object [
      ("proxy", .object [
        ("host", .string api.config.publicHost),
        ("port", .int api.config.publicProxyPort),
        ("type", .string api.config.publicProxyType),
        ("username", .string locationId),
        ("password", .string issued.1)]),
      ("expires_at", .int issued.2)]⟩

def GatewayApi.responseFor (api : GatewayApi) (method target : String) (body : List UInt8)
    (clock : ℚ) : Except Raised Response :=
  if method = "GET" ∧ target = "/v1/free/locations" then
    .ok ⟨200, .object [("locations", .array api.publicLocations)]⟩
  else if method = "POST" ∧ target = "/v1/free/session" then do
    let text ← (fromUtf8 body).elim (.error .decodeError) .ok
    let request ← library.loads (if text = "" then "\x7b\x7d" else text)
    let locationId ← get "location_id" (.string "") request
    return api.session library (library.str locationId) clock
  else .ok ⟨404, .object [("error", .string "not_found")]⟩

def parseBasicAuth (value : Option String) : Option (String × String) :=
  match value with
  | none => none
  | some value =>
      if value = "" ∨ startsWith "basic " (library.lower value) = false then none
      else
        (standard.decode (strip (.ofList (value.toList.drop 6))).toList).bind fun bytes =>
          (fromUtf8 bytes).bind fun decoded => splitOnce ':' decoded

structure ConnectRelay where
  config : GatewayConfig
  tokens : SessionTokenManager

/-- `ConnectRelay(config)`. -/
def ConnectRelay.init (config : GatewayConfig) : Except Raised ConnectRelay := do
  let tokens ← SessionTokenManager.init config.tokenSecret config.sessionTtlSeconds
  return { config, tokens }

/-- The location that a CONNECT request is relayed to, unless it is rejected. -/
def ConnectRelay.authenticated (relay : ConnectRelay) (proxyAuthorization : Option String)
    (clock : ℚ) : Except Raised (Option String) :=
  match parseBasicAuth library proxyAuthorization with
  | none => .ok none
  | some (locationId, token) =>
      match relay.config.upstreams.lookup locationId with
      | none => .ok none
      | some _ => do
          if ← relay.tokens.verify library locationId token clock then return some locationId
          else return none

/-- The credentials of HTTP Basic. -/
def basicCredentials (username password : String) : String :=
  .ofList ("Basic ".toList ++ standard.encode (utf8 (username ++ ":" ++ password)))

structure Session where
  username : String
  password : String
  expiresAt : ℤ
deriving DecidableEq

/-- `payload[key]`, if there is one. -/
def member (key : String) : Json → Option Json
  | .object entries => entries.lookup key
  | _ => none

def textOf : Json → Option String
  | .string value => some value
  | _ => none

def numberOf : Json → Option ℤ
  | .int value => some value
  | _ => none

/-- The session in the payload of a response. -/
def Response.session (response : Response) : Option Session := do
  let proxy ← member "proxy" response.payload
  let username ← textOf (← member "username" proxy)
  let password ← textOf (← member "password" proxy)
  let expiresAt ← numberOf (← member "expires_at" response.payload)
  return { username, password, expiresAt }

end ProxyLauncher.Gateway
