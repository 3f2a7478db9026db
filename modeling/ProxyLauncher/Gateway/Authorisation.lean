import ProxyLauncher.Gateway.Sessions
import ProxyLauncher.Texts.Joining

/-!
# What a session authorises

The user name of a session is a location, and its password names the time until which the
session holds.  Both pass through the credentials of HTTP Basic.
-/

namespace ProxyLauncher.Gateway

open Python Encoding

@[simp] theorem fromUtf8_utf8 (text : String) : fromUtf8 (utf8 text) = some text := by
  rw [fromUtf8, utf8]
  exact dif_pos text.isValidUTF8

theorem utf8_injective : Function.Injective utf8 := by
  intro text text' same
  exact Option.some.inj ((congrArg fromUtf8 same ▸ fromUtf8_utf8 text).symm.trans
    (fromUtf8_utf8 text'))

theorem payload_injective {location other : String} {expires : ℤ}
    (same : payload location expires = payload other expires) : location = other := by
  have texts := congrArg String.toList (utf8_injective same)
  exact String.toList_injective (by simpa [String.toList_append] using texts)

theorem dot_notMem_toString (number : ℤ) : '.' ∉ (toString number).toList :=
  Texts.notMem_toString (by decide) (by decide) number

variable {library : Library} {manager : SessionTokenManager} {location other token : String}
  {username password : String} {expires : ℤ} {now issuedAt : ℚ}

/-- The relay reads what the client wrote, up to the first colon of the user name. -/
theorem parseBasicAuth_basicCredentials :
    parseBasicAuth library (some (basicCredentials username password)) =
      splitOnce ':' (username ++ ":" ++ password) := by
  have encoded : ∀ char ∈ standard.encode (utf8 (username ++ ":" ++ password)),
      32 < char.toNat ∧ char.toNat < 127 := fun char => Alphabet.ascii_of_mem_encode
  have scheme : "Basic ".toList = ['B', 'a', 's', 'i', 'c', ' '] := by simp
  have chars : (basicCredentials username password).toList =
      ['B', 'a', 's', 'i', 'c', ' '] ++ standard.encode (utf8 (username ++ ":" ++ password)) := by
    rw [← scheme]
    exact String.toList_ofList
  have ascii : ∀ char ∈ (basicCredentials username password).toList, char.toNat < 128 := by
    intro char member
    rw [chars, List.mem_append] at member
    rcases member with start | later
    · have small : ∀ char ∈ ['B', 'a', 's', 'i', 'c', ' '], char.toNat < 128 := by simp
      exact small char start
    · exact (encoded char later).2.trans (by simp)
  have nonempty : basicCredentials username password ≠ "" := by
    intro empty
    rw [empty] at chars
    exact absurd (congrArg List.length chars) (by simp)
  have starts : startsWith "basic " (library.lower (basicCredentials username password)) =
      true := by
    rw [startsWith, library.lower_ascii _ ascii, chars, List.map_append, List.isPrefixOf_iff_prefix,
      show "basic ".toList = ['B', 'a', 's', 'i', 'c', ' '].map Char.toLower by rfl]
    exact List.prefix_append _ _
  have rest : (basicCredentials username password).toList.drop 6 =
      standard.encode (utf8 (username ++ ":" ++ password)) := by
    rw [chars]
    exact List.drop_left' (by decide)
  have solid : ∀ char ∈ (String.ofList (standard.encode (utf8 (username ++ ":" ++
      password)))).toList, isSpace char = false := by
    intro char member
    rw [String.toList_ofList] at member
    obtain ⟨visible, small⟩ := encoded char member
    simp only [isSpace, Bool.or_eq_false_iff, Bool.and_eq_false_iff, decide_eq_false_iff_not,
      beq_eq_false_iff_ne]
    omega
  simp only [parseBasicAuth, nonempty, starts, rest, strip_of_not_isSpace solid,
    String.toList_ofList, Alphabet.decode_encode, false_or, Bool.true_eq_false, if_false,
    Option.bind_some, fromUtf8_utf8]

theorem b64_ascii {data : List UInt8} : ∀ char ∈ (b64 data).toList, char.toNat < 128 := by
  intro char member
  rw [b64, String.toList_ofList] at member
  have symbol := (List.rdropWhile_prefix _ _).subset member
  exact (Alphabet.ascii_of_mem_encode symbol).2.trans (by simp)

theorem b64_injective : Function.Injective b64 := by
  intro data data' same
  exact Alphabet.unpadded_encode_injective (String.ofList_injective same)

theorem compareDigest_b64 {data data' : List UInt8} :
    compareDigest (b64 data) (b64 data') = .ok (decide (data = data')) := by
  have ascii : ((b64 data).toList ++ (b64 data').toList).all
      (fun char => decide (char.toNat < 128)) = true := by
    rw [List.all_append, Bool.and_eq_true, List.all_eq_true, List.all_eq_true]
    exact ⟨fun char member => decide_eq_true (b64_ascii char member),
      fun char member => decide_eq_true (b64_ascii char member)⟩
  rw [compareDigest, if_pos ascii]
  simp only [b64_injective.eq_iff]

/-- A token is good for a location at the times within its lifetime, if its signature is the one
of the location. -/
theorem verify_issue :
    manager.verify library other (manager.issue library location issuedAt).1 now =
      .ok (decide (seconds now ≤ seconds issuedAt + manager.ttl ∧
        seconds issuedAt + manager.ttl ≤ seconds now + 3600 ∧
        library.digest manager.secret (payload location (seconds issuedAt + manager.ttl)) =
          library.digest manager.secret (payload other (seconds issuedAt + manager.ttl)))) := by
  have dot : splitOnce '.' (manager.issue library location issuedAt).1 =
      some (toString (seconds issuedAt + manager.ttl),
        manager.signature library location (seconds issuedAt + manager.ttl)) :=
    splitOnce_append (dot_notMem_toString _)
  simp only [SessionTokenManager.verify, dot, library.int_str, SessionTokenManager.signature,
    compareDigest_b64]
  split
  · rename_i outside
    rw [decide_eq_false]
    rintro ⟨late, early, -⟩
    omega
  · rename_i inside
    rw [not_or, not_lt, not_lt] at inside
    simp [inside.1, inside.2]

/-- A configuration that is accepted has a secret for the tokens. -/
theorem init_of_fromEnv {environ : String → Option String} {config : GatewayConfig}
    (accepted : fromEnv library environ = .ok config) :
    SessionTokenManager.init config.tokenSecret config.sessionTtlSeconds =
      .ok { secret := utf8 config.tokenSecret, ttl := min config.sessionTtlSeconds 3600 } := by
  unfold fromEnv at accepted
  simp only [] at accepted
  split at accepted
  · exact absurd accepted (by simp [throw, throwThe, MonadExceptOf.throw])
  · rename_i long
    split at accepted
    · exact absurd accepted (by simp [throw, throwThe, MonadExceptOf.throw])
    · obtain ⟨upstreams, -, accepted⟩ := bind_eq_ok.mp accepted
      obtain ⟨apiPort, -, accepted⟩ := bind_eq_ok.mp accepted
      obtain ⟨proxyPort, -, accepted⟩ := bind_eq_ok.mp accepted
      obtain ⟨publicProxyPort, -, accepted⟩ := bind_eq_ok.mp accepted
      obtain ⟨ttl, -, accepted⟩ := bind_eq_ok.mp accepted
      obtain rfl := Except.ok.inj accepted
      exact if_neg long

variable {config : GatewayConfig} {api : GatewayApi} {relay : ConnectRelay} {body : List UInt8}
  {response : Response} {session : Session} {method target : String}

theorem session_session (configured : api.config.upstreams.lookup location ≠ none) :
    (api.session library location issuedAt).session =
      some {
        username := location
        password := (api.tokens.issue library location issuedAt).1
        expiresAt := (api.tokens.issue library location issuedAt).2 } := by
  unfold GatewayApi.session
  rw [if_neg configured]
  simp only [Response.session, member, List.lookup_cons]
  rfl

/-- A session is of a configured location and has the token that was issued for it. -/
theorem session_of_responseFor
    (returned : api.responseFor library method target body issuedAt = .ok response)
    (issued : response.session = some session) :
    (api.config.upstreams.lookup session.username).isSome ∧
      (session.password, session.expiresAt) =
        api.tokens.issue library session.username issuedAt := by
  have missing (key : String) (value : Json) (different : ("proxy" == key) = false) (status : ℕ) :
      (Response.mk status (.object [(key, value)])).session = none := by
    simp [Response.session, member, List.lookup_cons, different]
  unfold GatewayApi.responseFor at returned
  split at returned
  · obtain rfl := Except.ok.inj returned
    exact absurd (issued.symm.trans (missing _ _ (by simp) _)) (by simp)
  · split at returned
    · obtain ⟨text, -, returned⟩ := bind_eq_ok.mp returned
      obtain ⟨request, -, returned⟩ := bind_eq_ok.mp returned
      obtain ⟨value, -, returned⟩ := bind_eq_ok.mp returned
      obtain rfl := Except.ok.inj returned
      by_cases configured : api.config.upstreams.lookup (library.str value) = none
      · unfold GatewayApi.session at issued
        rw [if_pos configured] at issued
        exact absurd (issued.symm.trans (missing _ _ (by simp) _)) (by simp)
      · obtain rfl := Option.some.inj ((session_session configured).symm.trans issued)
        exact ⟨Option.isSome_iff_ne_none.mpr configured, rfl⟩
    · obtain rfl := Except.ok.inj returned
      exact absurd (issued.symm.trans (missing _ _ (by simp) _)) (by simp)

/-- The credentials of a session authorise its location until the session expires, and nothing
else. -/
structure AuthorisesExactly (library : Library) (relay : ConnectRelay) (session : Session)
    (issuedAt : ℚ) : Prop where
  here : ∀ now, issuedAt ≤ now → ∀ location,
    relay.authenticated library (some (basicCredentials session.username session.password)) now =
      .ok (some location) ↔ location = session.username ∧ seconds now ≤ session.expiresAt
  elsewhere : ∀ now, ∀ location ∈ relay.config.upstreams.map Prod.fst,
    location ≠ session.username →
    relay.tokens.verify library location session.password now = .ok false

theorem seconds_mono (forward : issuedAt ≤ now) : seconds issuedAt ≤ seconds now := by
  rw [seconds, seconds]
  split
  · rename_i positive
    rw [if_pos (positive.trans forward)]
    exact Int.floor_le_floor forward
  · rename_i negative
    split
    · rename_i positive
      refine le_trans ?_ (Int.floor_nonneg.mpr positive)
      rw [Int.ceil_le]
      simpa using le_of_lt (not_le.mp negative)
    · exact Int.ceil_le_ceil forward

/-- The relay sees the user name up to its first colon. -/
theorem authenticated_basicCredentials :
    relay.authenticated library (some (basicCredentials username password)) now =
      .ok (some location) ↔
      ∃ token, splitOnce ':' (username ++ ":" ++ password) = some (location, token) ∧
        (relay.config.upstreams.lookup location).isSome ∧
        relay.tokens.verify library location token now = .ok true := by
  rw [ConnectRelay.authenticated, parseBasicAuth_basicCredentials]
  rcases split : splitOnce ':' (username ++ ":" ++ password) with _ | ⟨user, token⟩
  · simp
  · simp only [Option.some.injEq, Prod.mk.injEq]
    rcases found : relay.config.upstreams.lookup user with _ | proxy
    · simp only []
      constructor
      · intro none
        exact absurd none (by simp)
      · rintro ⟨_, ⟨rfl, rfl⟩, configured, -⟩
        rw [found] at configured
        exact absurd configured (by simp)
    · simp only []
      constructor
      · intro accepted
        obtain ⟨verified, good, accepted⟩ := bind_eq_ok.mp accepted
        cases verified with
        | false => exact absurd accepted (by simp [pure, Except.pure])
        | true =>
            obtain rfl : user = location := by simpa [pure, Except.pure] using accepted
            exact ⟨token, ⟨rfl, rfl⟩, by simp [found], good⟩
      · rintro ⟨_, ⟨rfl, rfl⟩, -, good⟩
        exact bind_eq_ok.mpr ⟨true, good, rfl⟩

/-- The relay and the interface have the same secret, and a session that was issued is good for
its location exactly if the relay finds the whole location before the first colon. -/
theorem authorisesExactly_iff (lifetime : 0 ≤ manager.ttl) (short : manager.ttl ≤ 3600)
    (tokens : relay.tokens = manager)
    (configured : (relay.config.upstreams.lookup session.username).isSome)
    (issued : (session.password, session.expiresAt) =
      manager.issue library session.username issuedAt)
    (distinct : ∀ location ∈ relay.config.upstreams.map Prod.fst,
      payload location session.expiresAt ≠ payload session.username session.expiresAt →
      library.digest manager.secret (payload location session.expiresAt) ≠
        library.digest manager.secret (payload session.username session.expiresAt)) :
    AuthorisesExactly library relay session issuedAt ↔ ':' ∉ session.username.toList := by
  have password : session.password = (manager.issue library session.username issuedAt).1 :=
    congrArg Prod.fst issued
  have expires : session.expiresAt = seconds issuedAt + manager.ttl := congrArg Prod.snd issued
  constructor
  · intro authorises colon
    have fresh : seconds issuedAt ≤ session.expiresAt := by omega
    obtain ⟨token, split, -⟩ := authenticated_basicCredentials.mp
      ((authorises.here issuedAt le_rfl session.username).mpr ⟨rfl, fresh⟩)
    exact notMem_of_splitOnce split colon
  · intro missing
    have split : splitOnce ':' (session.username ++ ":" ++ session.password) =
        some (session.username, session.password) := splitOnce_append missing
    constructor
    · intro now forward location
      have later := seconds_mono forward
      rw [authenticated_basicCredentials, split, tokens]
      simp only [Option.some.injEq, Prod.mk.injEq]
      constructor
      · rintro ⟨_, ⟨rfl, rfl⟩, -, verified⟩
        rw [password, verify_issue, Except.ok.injEq, decide_eq_true_eq] at verified
        exact ⟨rfl, expires ▸ verified.1⟩
      · rintro ⟨rfl, before⟩
        refine ⟨_, ⟨rfl, rfl⟩, configured, ?_⟩
        rw [password, verify_issue, Except.ok.injEq, decide_eq_true_eq]
        exact ⟨expires ▸ before, by omega, rfl⟩
    · intro now location member different
      rw [tokens, password, verify_issue, Except.ok.injEq, decide_eq_false_iff_not]
      rintro ⟨-, -, same⟩
      rw [← expires] at same
      exact distinct location member (fun payloads => different (payload_injective payloads))
        same.symm

/-- Every session of an accepted configuration authorises exactly its location and its lifetime,
if and only if there is no colon in the location. -/
theorem session_authorises_iff {environ : String → Option String}
    {healthMonitor : Option (String → List (String × Json))}
    (accepted : fromEnv library environ = .ok config) (lifetime : 0 ≤ config.sessionTtlSeconds) :
    ∃ api relay, GatewayApi.init config healthMonitor = .ok api ∧
      ConnectRelay.init config = .ok relay ∧
      ∀ body issuedAt response session,
        api.responseFor library "POST" "/v1/free/session" body issuedAt = .ok response →
        response.session = some session →
        (∀ location ∈ config.upstreams.map Prod.fst,
          payload location session.expiresAt ≠ payload session.username session.expiresAt →
          library.digest (utf8 config.tokenSecret) (payload location session.expiresAt) ≠
            library.digest (utf8 config.tokenSecret)
              (payload session.username session.expiresAt)) →
        (AuthorisesExactly library relay session issuedAt ↔ ':' ∉ session.username.toList) := by
  have manager := init_of_fromEnv accepted
  refine ⟨_, _, bind_eq_ok.mpr ⟨_, manager, rfl⟩, bind_eq_ok.mpr ⟨_, manager, rfl⟩, ?_⟩
  intro body issuedAt response session returned issued distinct
  obtain ⟨configured, issue⟩ := session_of_responseFor returned issued
  refine authorisesExactly_iff ?_ ?_ rfl configured issue distinct
  · exact le_min lifetime (by simp)
  · exact min_le_right _ _

/-- The digests of three payloads, as of the secret of the sample. -/
def sampleDigest (_ message : List UInt8) : List UInt8 :=
  if message = payload "de-free" 1600 then
    [233, 151, 247, 84, 2, 40, 250, 207, 121, 175, 101, 227, 91, 152, 159, 141, 122, 189, 80, 138,
      50, 182, 198, 121, 212, 143, 77, 152, 169, 65, 181, 112]
  else if message = payload "us-free" 1600 then
    [181, 194, 162, 81, 203, 112, 141, 70, 34, 119, 102, 30, 158, 44, 192, 85, 138, 34, 155, 81,
      228, 15, 188, 133, 4, 147, 184, 76, 116, 81, 129, 12]
  else if message = payload "a:b" 1600 then
    [6, 93, 121, 96, 136, 130, 10, 244, 160, 248, 18, 98, 170, 156, 106, 30, 96, 22, 29, 104, 203,
      246, 244, 252, 11, 212, 39, 99, 195, 117, 189, 123]
  else []

theorem sampleDigest_ne (different : payload "us-free" 1600 ≠ payload "de-free" 1600)
    (key : List UInt8) :
    sampleDigest key (payload "us-free" 1600) ≠ sampleDigest key (payload "de-free" 1600) := by
  rw [sampleDigest, sampleDigest, if_pos rfl, if_neg different, if_pos rfl]
  decide

def sampleProxy (id : String) : String :=
  "\x7b\"id\":\"" ++ id ++ "\",\"label\":\"\",\"country_code\":\"\",\"host\":\"p\",\"port\":80\x7d"

def sampleProxies (id : String) : String :=
  "[" ++ sampleProxy id ++ "," ++ sampleProxy "us-free" ++ "]"

def sampleRequest (id : String) : String :=
  "\x7b\"location_id\":\"" ++ id ++ "\"\x7d"

def sampleItem (id : String) : Json :=
  .object [("id", .string id), ("label", .string ""), ("country_code", .string ""),
    ("host", .string "p"), ("port", .int 80)]

/-- The library on the texts of the sample. -/
def sampleLibrary (id : String) : Library where
  loads text :=
    if text = sampleProxies id then .ok (.array [sampleItem id, sampleItem "us-free"])
    else if text = sampleRequest id then .ok (.object [("location_id", .string id)])
    else .error (.valueError "")
  str value := (textOf value).getD ""
  upper text := .ofList (text.toList.map Char.toUpper)
  lower text := .ofList (text.toList.map Char.toLower)
  bool value := match value with
    | .bool value => value
    | _ => false
  int value := match value with
    | .string text => text.toInt?.elim (.error (.valueError "")) .ok
    | .int number => .ok number
    | _ => .error .typeError
  digest := sampleDigest
  int_str number := by
    have read : (toString number).toInt? = some number := Int.toInt?_repr number
    simp only [read, Option.elim_some]
  lower_ascii _ _ := String.toList_ofList

def sampleEnviron (id : String) (name : String) : Option String :=
  if name = "APL_GATEWAY_TOKEN_SECRET" then some "0123456789abcdef0123456789abcdef"
  else if name = "APL_FREE_PROXIES_JSON" then some (sampleProxies id)
  else none

def sampleUpstream (id : String) : UpstreamProxy where
  locationId := id
  label := ""
  countryCode := ""
  host := "p"
  port := 80

def sampleConfig (id : String) : GatewayConfig where
  publicHost := "127.0.0.1"
  apiPort := 8787
  proxyPort := 8788
  publicProxyPort := 8788
  publicProxyType := "HTTP"
  tokenSecret := "0123456789abcdef0123456789abcdef"
  sessionTtlSeconds := 600
  upstreams := [(id, sampleUpstream id), ("us-free", sampleUpstream "us-free")]

theorem sample_accepted {id : String} (nonempty : id ≠ "") (new : id ≠ "us-free") :
    fromEnv (sampleLibrary id) (sampleEnviron id) = .ok (sampleConfig id) := by
  have number (number : ℤ) (text : String) (same : toString number = text) :
      (sampleLibrary id).int (.string text) = .ok number :=
    same ▸ (sampleLibrary id).int_str number
  have proxy (location : String) :
      upstreamProxy (sampleLibrary id) (sampleItem location) = .ok (sampleUpstream location) := by
    simp [upstreamProxy, sampleItem, subscript, get, List.lookup_cons, sampleLibrary, textOf,
      sampleUpstream, bind, Except.bind, pure, Except.pure]
  have loaded : (sampleLibrary id).loads (sampleProxies id) =
      .ok (.array [sampleItem id, sampleItem "us-free"]) := if_pos rfl
  have first : addUpstream (sampleLibrary id) [] (sampleItem id) =
      .ok [(id, sampleUpstream id)] := by
    refine bind_eq_ok.mpr ⟨_, proxy id, ?_⟩
    simp [sampleUpstream, nonempty, pure, Except.pure]
  have second : addUpstream (sampleLibrary id) [(id, sampleUpstream id)] (sampleItem "us-free") =
      .ok (sampleConfig id).upstreams := by
    refine bind_eq_ok.mpr ⟨_, proxy "us-free", ?_⟩
    simp [sampleUpstream, List.lookup_cons, beq_false_of_ne new.symm, pure, Except.pure,
      sampleConfig]
  have upstreams : loadUpstreams (sampleLibrary id) (sampleProxies id) =
      .ok (sampleConfig id).upstreams := by
    refine bind_eq_ok.mpr ⟨_, loaded, bind_eq_ok.mpr ⟨_, rfl,
      bind_eq_ok.mpr ⟨(sampleConfig id).upstreams, ?_, ?_⟩⟩⟩
    · exact bind_eq_ok.mpr ⟨_, first, bind_eq_ok.mpr ⟨_, second, rfl⟩⟩
    · exact if_neg (by simp [sampleConfig])
  have long : ¬ "0123456789abcdef0123456789abcdef".length < 32 := by decide
  have nonempty : sampleProxies id ≠ "" := by
    simp [sampleProxies]
  unfold fromEnv
  simp only [sampleEnviron, if_true, Option.getD_some, long, String.reduceEq, if_false, nonempty,
    Option.getD_none, bind_pure_comp]
  refine bind_eq_ok.mpr ⟨_, upstreams, bind_eq_ok.mpr ⟨_, number 8787 _ rfl,
    bind_eq_ok.mpr ⟨_, number 8788 _ rfl, bind_eq_ok.mpr ⟨_, number 8788 _ rfl,
      bind_eq_ok.mpr ⟨_, number 600 _ rfl, ?_⟩⟩⟩⟩⟩
  simp [sampleConfig, sampleLibrary]

/-- The secret and the lifetime of the sample. -/
def sampleManager : SessionTokenManager where
  secret := utf8 "0123456789abcdef0123456789abcdef"
  ttl := 600

/-- The session for a location at the time 1000. -/
def sampleSession (id : String) : Session where
  username := id
  password := (sampleManager.issue (sampleLibrary id) id 1000).1
  expiresAt := 1600

theorem sample_init (id : String) :
    SessionTokenManager.init (sampleConfig id).tokenSecret (sampleConfig id).sessionTtlSeconds =
      .ok sampleManager :=
  if_neg (show ¬ "0123456789abcdef0123456789abcdef".length < 32 by decide)

theorem sample_api (id : String) : GatewayApi.init (sampleConfig id) none =
    .ok ⟨sampleConfig id, none, sampleManager⟩ :=
  bind_eq_ok.mpr ⟨_, sample_init id, rfl⟩

theorem sample_relay (id : String) : ConnectRelay.init (sampleConfig id) =
    .ok ⟨sampleConfig id, sampleManager⟩ :=
  bind_eq_ok.mpr ⟨_, sample_init id, rfl⟩

theorem sample_expires (id : String) :
    (sampleManager.issue (sampleLibrary id) id 1000).2 = 1600 := by
  rw [SessionTokenManager.issue]
  norm_num [seconds, sampleManager]

theorem sample_returned {id : String} (new : sampleRequest id ≠ sampleProxies id) :
    ∃ response, GatewayApi.responseFor (sampleLibrary id) ⟨sampleConfig id, none, sampleManager⟩
        "POST" "/v1/free/session" (utf8 (sampleRequest id)) 1000 = .ok response ∧
      response.session = some (sampleSession id) := by
  have nonempty : sampleRequest id ≠ "" := by
    intro empty
    exact absurd (String.append_eq_empty_iff.mp empty).2 (by decide)
  have other : ¬ ("POST" = "GET" ∧ "/v1/free/session" = "/v1/free/locations") := by
    rintro ⟨method, -⟩
    exact absurd method (by decide)
  have loaded : (sampleLibrary id).loads (if sampleRequest id = "" then "\x7b\x7d"
      else sampleRequest id) = .ok (.object [("location_id", .string id)]) := by
    rw [if_neg nonempty]
    simp only [sampleLibrary, new, if_false, if_true]
  have configured : (sampleConfig id).upstreams.lookup id ≠ none := by
    simp [sampleConfig]
  refine ⟨GatewayApi.session (sampleLibrary id) ⟨sampleConfig id, none, sampleManager⟩ id 1000,
    ?_, ?_⟩
  · unfold GatewayApi.responseFor
    rw [if_neg other, if_pos ⟨rfl, rfl⟩]
    refine bind_eq_ok.mpr ⟨sampleRequest id, ?_, bind_eq_ok.mpr ⟨_, loaded,
      bind_eq_ok.mpr ⟨.string id, rfl, rfl⟩⟩⟩
    rw [fromUtf8_utf8]
    rfl
  · rw [session_session configured]
    exact congrArg (fun expires => some { sampleSession id with expiresAt := expires })
      (sample_expires id)

/-- A session for a location with a colon is rejected at once. -/
theorem colon_rejected :
    fromEnv (sampleLibrary "a:b") (sampleEnviron "a:b") = .ok (sampleConfig "a:b") ∧
      ∃ api relay response, GatewayApi.init (sampleConfig "a:b") none = .ok api ∧
        ConnectRelay.init (sampleConfig "a:b") = .ok relay ∧
        api.responseFor (sampleLibrary "a:b") "POST" "/v1/free/session"
          (utf8 (sampleRequest "a:b")) 1000 = .ok response ∧
        response.session = some (sampleSession "a:b") ∧
        relay.authenticated (sampleLibrary "a:b") (some (basicCredentials
          (sampleSession "a:b").username (sampleSession "a:b").password)) 1000 = .ok none := by
  have new : sampleRequest "a:b" ≠ sampleProxies "a:b" := by
    decide
  obtain ⟨response, returned, session⟩ := sample_returned new
  refine ⟨sample_accepted (by decide) (by decide), _, _, response, sample_api _, sample_relay _,
    returned, session, ?_⟩
  have split : splitOnce ':' ((sampleSession "a:b").username ++ ":" ++
      (sampleSession "a:b").password) = some ("a", "b:" ++ (sampleSession "a:b").password) := by
    have front : ':' ∉ "a".toList := by simp
    have texts : (sampleSession "a:b").username ++ ":" ++ (sampleSession "a:b").password =
        "a" ++ .singleton ':' ++ ("b:" ++ (sampleSession "a:b").password) :=
      String.toList_injective (by simp [sampleSession])
    rw [texts]
    exact splitOnce_append front
  rw [ConnectRelay.authenticated, parseBasicAuth_basicCredentials, split]
  simp [sampleConfig, List.lookup_cons]

theorem session_authorises_iff_sample :
    AuthorisesExactly (sampleLibrary "de-free") ⟨sampleConfig "de-free", sampleManager⟩
      (sampleSession "de-free") 1000 := by
  have new : sampleRequest "de-free" ≠ sampleProxies "de-free" := by
    decide +kernel
  obtain ⟨response, returned, session⟩ := sample_returned new
  obtain ⟨api, relay, apiInit, relayInit, authorises⟩ := @session_authorises_iff
    (sampleLibrary "de-free") (sampleConfig "de-free") (sampleEnviron "de-free") none
    (sample_accepted (by decide) (by decide)) (by decide)
  obtain rfl : ⟨sampleConfig "de-free", none, sampleManager⟩ = api :=
    Except.ok.inj ((sample_api _).symm.trans apiInit)
  obtain rfl : ⟨sampleConfig "de-free", sampleManager⟩ = relay :=
    Except.ok.inj ((sample_relay _).symm.trans relayInit)
  refine (authorises _ 1000 response _ returned session ?_).mpr (by simp [sampleSession])
  intro location configured different
  have other : location = "us-free" := by
    rcases List.mem_cons.mp configured with same | last
    · exact absurd (congrArg (fun location => payload location 1600) same) different
    · simpa [sampleConfig] using last
  subst other
  exact sampleDigest_ne different []

end ProxyLauncher.Gateway
