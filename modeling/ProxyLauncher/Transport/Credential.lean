import ProxyLauncher.Transport.Lines
import ProxyLauncher.Transport.Quarantine

/-!
# Credentials of the upstreams

A tunnel request carries the credentials of its upstream in place of those of the client.  A
plain request carries them in front of whatever the client has sent.
-/

namespace ProxyLauncher.Transport

open Python

variable {library : Library} {count : Nat} {index other : Fin count} {data token : Bytes}

theorem eq_of_sent_mem_attempt {peer : Peer} {request : Except RequestError Bytes}
    (sent : .sent index data ∈ (attempt other peer request).events) :
    index = other ∧ request = .ok data := by
  rcases attempt_events other peer request with ⟨-, events⟩ | ⟨-, events⟩ |
    ⟨data', -, rfl, events⟩
  · simp [events] at sent
  · simp [events] at sent
  · obtain ⟨rfl, rfl⟩ : index = other ∧ data = data' := by simpa [events] using sent
    exact ⟨rfl, rfl⟩

/-- Each candidate is sent the request that is made for it. -/
theorem request_of_sent_mem {peers : Fin count → Peer}
    {requests : Fin count → Except RequestError Bytes} {clock : Fin count → Nat}
    {candidates : List (Fin count)} {breaker : Breaker count}
    (sent : .sent index data ∈ (tryCandidates peers requests clock candidates breaker).events) :
    requests index = .ok data := by
  induction candidates generalizing breaker with
  | nil => simp [tryCandidates] at sent
  | cons head rest ih =>
      have first (tried : .sent index data ∈ (attempt head (peers head) (requests head)).events) :
          requests index = .ok data := by
        obtain ⟨rfl, request⟩ := eq_of_sent_mem_attempt tried
        exact request
      rw [tryCandidates] at sent
      dsimp only at sent
      split at sent
      · rcases List.mem_append.mp sent with tried | marked
        · exact first tried
        · simp at marked
      · rcases List.mem_append.mp sent with tried | later
        · rcases List.mem_append.mp tried with tried | closed
          · exact first tried
          · unfold closing at closed
            split at closed <;> simp at closed
        · exact ih later

theorem request_of_sent_mem_tryUpstreams {peers : Fin count → Peer} {request : Fin count → Bytes}
    {candidates : List (Fin count)}
    (sent : .sent index data ∈ (tryUpstreams peers request candidates).2) :
    data = request index := by
  induction candidates with
  | nil => simp [tryUpstreams] at sent
  | cons head rest ih =>
      simp only [tryUpstreams] at sent
      split_ifs at sent
      · exact ih sent
      · exact ih (by simpa using sent)
      · rcases List.mem_append.mp sent with tried | later
        · obtain ⟨rfl, rfl⟩ : index = head ∧ data = request head := by simpa using tried
          rfl
        · exact ih later
      · obtain ⟨rfl, rfl⟩ : index = head ∧ data = request head := by simpa using sent
        rfl

theorem isProxyAuthorization_authorizationLine (token : Bytes) :
    isProxyAuthorization (authorizationLine token) = true := by
  have lower : (ascii "Proxy-Authorization: Basic ").map lowerByte =
      ascii "proxy-authorization:" ++ ascii " basic " := by decide
  rw [isProxyAuthorization, authorizationLine, List.map_append, lower, List.append_assoc,
    List.isPrefixOf_iff_prefix]
  exact List.prefix_append _ _

/-- The line with the credentials is a header line. -/
theorem Upstream.isLine (upstream : Upstream) :
    IsLine (authorizationLine upstream.token) ∧ authorizationLine upstream.token ≠ [] := by
  refine ⟨fun inside => ?_, by simp [authorizationLine, ascii]⟩
  have member : (13 : UInt8) ∈ authorizationLine upstream.token := inside.subset (by simp [crlf])
  rcases List.mem_append.mp member with text | token
  · exact absurd text (by decide +kernel)
  · exact absurd (upstream.printable 13 token).1 (by decide)

theorem cut_crlf_line {line : Bytes} (isLine : IsLine line) (rest : Bytes) :
    cut crlf (line ++ crlf ++ rest) = some (line, rest) := by
  induction line with
  | nil => simp [crlf, cut]
  | cons byte line ih =>
      have not : ¬ crlf.isPrefixOf (byte :: (line ++ crlf ++ rest)) = true := fun start =>
        isLine.not_prefix (by simp) rest (List.isPrefixOf_iff_prefix.mp start)
      rw [List.cons_append, List.cons_append, cut, if_neg not, ih isLine.of_cons]
      rfl

/-- A header line is put behind the first line. -/
theorem proxiedRequest_bytes {message : Message} (isLine : IsLine message.first)
    (token : Bytes) :
    proxiedRequest token message.bytes =
      { message with headers := authorizationLine token :: message.headers }.bytes := by
  have found (rest : Bytes) := cut_crlf_line isLine rest
  cases shape : message.headers with
  | nil =>
      have whole : message.bytes = message.first ++ crlf ++ (crlf ++ message.body) := by
        simp [Message.bytes, Message.header, shape, joinCrlf, marker_eq]
      rw [whole, proxiedRequest, found]
      simp [Message.bytes, Message.header, joinCrlf, marker_eq]
  | cons line lines =>
      have whole : message.bytes = message.first ++ crlf ++
          (joinCrlf (line :: lines) ++ marker ++ message.body) := by
        simp [Message.bytes, Message.header, shape, joinCrlf_cons_cons]
      rw [whole, proxiedRequest, found]
      simp [Message.bytes, Message.header, joinCrlf_cons_cons]

/-- The header lines with credentials are replaced by one. -/
theorem connectRequestWithAuth_bytes {host : String} {port : Int} {message : Message}
    (wellFormed : message.WellFormed)
    (encoded : connectRequestWithAuth library host port token
      (some (message.header ++ marker)) = .ok data) (more : Bytes) :
    data ++ more =
      { message with
        headers := authorizationLine token ::
          message.headers.filter fun line => line ≠ [] ∧ isProxyAuthorization line = false
        body := more : Message }.bytes := by
  have isLine : ∀ line ∈ message.first :: message.headers, IsLine line :=
    List.forall_mem_cons.mpr
      ⟨wellFormed.first, fun line member => (wellFormed.headers line member).1⟩
  have found := cut_marker_joinCrlf wellFormed.first wellFormed.headers []
  rw [List.append_nil] at found
  unfold connectRequestWithAuth at encoded
  split at encoded
  · cases encoded
  · simp only [Message.header, found, Option.map_some, Option.getD_some,
      splitCrlf_joinCrlf isLine] at encoded
    split at encoded
    · obtain rfl := Except.ok.inj encoded
      rfl
    · cases encoded

/-- The header lines that the client has sent. -/
def clientHeaders (client : Stream) : List Bytes :=
  ((parseMessage client.flatten).map Message.headers).getD []

/-- The message that is passed on has one header line with credentials, those of the upstream;
its first line, its other header lines and its body are those of the client. -/
def OneCredential (token client sent : Bytes) : Prop :=
  ∃ message message', parseMessage client = some message ∧ parseMessage sent = some message' ∧
    message'.first = message.first ∧
    message'.headers.filter isProxyAuthorization = [authorizationLine token] ∧
    (message'.headers.filter fun line => isProxyAuthorization line = false) =
      message.headers.filter (fun line => isProxyAuthorization line = false) ∧
    message'.body = message.body

theorem oneCredential_iff {message : Message} {others : List Bytes}
    (wellFormed : message.WellFormed)
    (authorization : IsLine (authorizationLine token) ∧ authorizationLine token ≠ [])
    (kept : ∀ line ∈ others, line ∈ message.headers) :
    OneCredential token message.bytes
        { message with headers := authorizationLine token :: others }.bytes ↔
      (∀ line ∈ others, isProxyAuthorization line = false) ∧
        (others.filter fun line => isProxyAuthorization line = false) =
          message.headers.filter fun line => isProxyAuthorization line = false := by
  have credential := isProxyAuthorization_authorizationLine token
  have parsed : parseMessage message.bytes = some message :=
    parseMessage_eq_some_iff.mpr ⟨rfl, wellFormed⟩
  have parsed' : parseMessage
      { message with headers := authorizationLine token :: others : Message }.bytes =
      some { message with headers := authorizationLine token :: others } :=
    parseMessage_eq_some_iff.mpr ⟨rfl, wellFormed.first, List.forall_mem_cons.mpr
      ⟨authorization, fun line member => wellFormed.headers line (kept line member)⟩⟩
  rw [OneCredential, parsed, parsed']
  simp only [Option.some.injEq, exists_and_left, exists_eq_left', true_and, and_true]
  simp [credential]

/-- Whether a request is for a tunnel is seen in its first line. -/
theorem isConnect_of_parseFirst {first : Bytes} :
    (∀ host port, parseFirst library first = .connect host port →
        (ascii "CONNECT").isPrefixOf first = true) ∧
      ∀ method host port path, parseFirst library first = .plain method host port path →
        (ascii "CONNECT").isPrefixOf first = false := by
  unfold parseFirst
  split
  · rename_i connect
    refine ⟨fun _ _ _ => connect, fun method host port path parsed => ?_⟩
    split at parsed <;> cases parsed
  · rename_i plain
    refine ⟨fun host port parsed => ?_, fun _ _ _ _ _ => Bool.eq_false_iff.mpr plain⟩
    split at parsed
    · split at parsed <;> cases parsed
    · cases parsed

theorem sent_notMem_connectDirect {world : World count} {breaker : Breaker count} {host : String}
    {port : Int} {failure : String} {replies opening surplus : Bytes} {client : Stream} :
    .sent index data ∉ (connectDirect world breaker host port failure replies opening surplus
      client).events := by
  unfold connectDirect
  split
  · exact List.not_mem_nil
  · exact List.not_mem_nil

theorem sent_mem_proxyConnect {world : World count} {breaker : Breaker count} {host : String}
    {port : Int} {header surplus : Bytes} {client : Stream}
    (sent : .sent index data ∈
      (proxyConnect library world breaker host port header surplus client).events) :
    connectRequestWithAuth library host port (world.upstreams index).token (some header) =
      .ok data := by
  unfold proxyConnect at sent
  dsimp only at sent
  split at sent
  · exact request_of_sent_mem sent
  · exact request_of_sent_mem sent

theorem sent_mem_proxyPlain {world : World count} {breaker : Breaker count} {plain : Bytes}
    {client : Stream}
    (sent : .sent index data ∈ (proxyPlain world breaker plain client).events) :
    data = proxiedRequest (world.upstreams index).token plain := by
  rw [events_proxyPlain] at sent
  exact request_of_sent_mem_tryUpstreams sent

/-- What the proxy listener sends to an upstream. -/
theorem handleHttp_sent_cases {world : World count} {breaker : Breaker count} {client : Stream}
    {request : Request} {rest : Stream} (read : readRequest client = some (request, rest))
    (sent : .sent index data ∈ (handleHttp library world breaker client).events) :
    (request.isConnect = true ∧ ∃ host port, connectRequestWithAuth library host port
        (world.upstreams index).token (some request.header) = .ok data) ∨
      (request.isConnect = false ∧
        data = proxiedRequest (world.upstreams index).token request.data) := by
  rw [handleHttp, read] at sent
  dsimp only at sent
  cases parsed : parseFirst library request.first with
  | badConnect => exact absurd sent (by simp [parsed, rejected])
  | badRequest => exact absurd sent (by simp [parsed, rejected])
  | undecodable => exact absurd sent (by simp [parsed, rejected])
  | connect host port =>
      rw [parsed] at sent
      dsimp only at sent
      split at sent
      · exact absurd sent sent_notMem_connectDirect
      · exact .inl ⟨isConnect_of_parseFirst.1 host port parsed, host, port,
          sent_mem_proxyConnect sent⟩
  | plain method host port path =>
      rw [parsed] at sent
      dsimp only at sent
      split at sent
      · exact absurd sent sent_notMem_connectDirect
      · exact .inr ⟨isConnect_of_parseFirst.2 method host port path parsed,
          sent_mem_proxyPlain sent⟩

/-- The request that an upstream is sent, with what follows it, has one credential exactly when
it is a tunnel request or the client has sent none. -/
theorem one_credential_iff (library : Library) (world : World count) (breaker : Breaker count)
    (client : Stream) (chunked : client.Chunked) (request : Request) (rest : Stream)
    (read : readRequest client = some (request, rest)) (index : Fin count) (data : Bytes)
    (sent : .sent index data ∈ (handleHttp library world breaker client).events) :
    OneCredential (world.upstreams index).token client.flatten
        (data ++ ((if request.isConnect then request.surplus else []) ++ rest.flatten)) ↔
      request.isConnect = true ∨
        ∀ line ∈ clientHeaders client, isProxyAuthorization line = false := by
  have spec := readRequest_spec chunked
  split at spec
  · obtain ⟨head, after, found, surplus, rest', whole, -, read'⟩ := spec
    obtain ⟨rfl, rfl⟩ := Prod.mk.inj (Option.some.inj (read.symm.trans read'))
    obtain ⟨message, parsed⟩ : ∃ message, parseMessage client.flatten = some message :=
      ⟨_, congrArg (Option.map _) found⟩
    obtain ⟨bytes, wellFormed⟩ := parseMessage_eq_some_iff.mp parsed
    have ended := cut_marker_joinCrlf wellFormed.first wellFormed.headers message.body
    rw [bytes] at found
    obtain ⟨rfl, rfl⟩ := Prod.mk.inj (Option.some.inj (ended.symm.trans found))
    have headers : clientHeaders client = message.headers := by
      rw [clientHeaders, parsed]
      rfl
    have authorization := (world.upstreams index).isLine
    rw [headers, bytes]
    rcases handleHttp_sent_cases read' sent with ⟨connect, host, port, encoded⟩ | ⟨plain, rfl⟩
    · have sent' := connectRequestWithAuth_bytes wellFormed encoded (surplus ++ rest.flatten)
      rw [if_pos connect, sent', whole, oneCredential_iff wellFormed authorization]
      · refine iff_of_true ⟨?_, ?_⟩ (.inl connect)
        · intro line member
          exact (of_decide_eq_true (List.mem_filter.mp member).2).2
        · rw [List.filter_filter]
          refine List.filter_congr fun line member => ?_
          simp [(wellFormed.headers line member).2]
      · exact fun line member => (List.mem_filter.mp member).1
    · have passed : proxiedRequest (world.upstreams index).token
            (joinCrlf (message.first :: message.headers) ++ marker ++ surplus) ++ rest.flatten =
          { message with
            headers := authorizationLine (world.upstreams index).token :: message.headers }.bytes := by
        have inserted := @proxiedRequest_bytes { message with body := surplus } wellFormed.first
          (world.upstreams index).token
        rw [Message.bytes, Message.header] at inserted
        rw [inserted, Message.bytes, List.append_assoc, whole]
        rfl
      rw [plain, if_neg Bool.false_ne_true, List.nil_append, passed,
        oneCredential_iff wellFormed authorization (fun line member => member)]
      simp
  · cases read.symm.trans spec

/-- A tunnel request with credentials of the client. -/
def ownTunnel : Bytes :=
  ascii "CONNECT h:1 HTTP/1.1\r\nproxy-authorization: x\r\n\r\n"

/-- The tunnel request with the credentials of the upstream. -/
def upstreamTunnel : Bytes :=
  ascii "CONNECT h:1 HTTP/1.1\r\nProxy-Authorization: Basic dTpw\r\n\r\n"

/-- The host of the samples goes through an upstream. -/
theorem host_proxied : Routing.hostBypassesProxy sampleLibrary.characters sampleWorld.noProxy "h" =
    false :=
  sample_proxied (by simp [sampleHosts])

/-- The request as it is read and parsed. -/
theorem ownTunnel_parsed :
    readRequest [ownTunnel] = some (⟨ownTunnel, ownTunnel, []⟩, []) ∧
      parseFirst sampleLibrary (Request.first ⟨ownTunnel, ownTunnel, []⟩) = .connect "h" 1 := by
  decide

theorem upstreamTunnel_sent : .sent 0 upstreamTunnel ∈
    (handleHttp sampleLibrary sampleWorld (.initial 2) [ownTunnel]).events := by
  rw [handleHttp_connect ownTunnel_parsed.1 ownTunnel_parsed.2 host_proxied]
  decide

theorem one_credential_iff_sample :
    OneCredential (sampleWorld.upstreams 0).token ownTunnel upstreamTunnel := by
  have chunked : Stream.Chunked [ownTunnel] := by decide
  have read := ownTunnel_parsed.1
  have connect : Request.isConnect ⟨ownTunnel, ownTunnel, []⟩ = true := by decide
  have one := (one_credential_iff sampleLibrary sampleWorld (.initial 2) [ownTunnel] chunked
    ⟨ownTunnel, ownTunnel, []⟩ [] read 0 upstreamTunnel upstreamTunnel_sent).mpr (.inl connect)
  rw [if_pos connect] at one
  simp only [List.flatten_nil, List.append_nil, List.flatten_cons] at one
  exact one

/-- A plain request with credentials of the client. -/
def ownPlain : Bytes :=
  ascii "GET http://h/ HTTP/1.1\r\nproxy-authorization: x\r\n\r\n"

/-- The credentials of the client are passed on behind those of the upstream. -/
theorem two_credentials :
    ∃ data, .sent 0 data ∈ (handleHttp sampleLibrary sampleWorld (.initial 2) [ownPlain]).events ∧
      ¬ OneCredential (sampleWorld.upstreams 0).token ownPlain data := by
  refine ⟨proxiedRequest (sampleWorld.upstreams 0).token ownPlain, ?_, ?_⟩
  · have read : readRequest [ownPlain] = some (⟨ownPlain, ownPlain, []⟩, []) ∧
        parseFirst sampleLibrary (Request.first ⟨ownPlain, ownPlain, []⟩) =
          .plain (ascii "GET") "h" 80 "/" := by
      decide +kernel
    rw [handleHttp_plain read.1 read.2 host_proxied]
    decide +kernel
  rintro ⟨message, message', -, parsed, -, one, -⟩
  have both : (parseMessage (proxiedRequest (sampleWorld.upstreams 0).token ownPlain)).map
      (fun message => (message.headers.filter isProxyAuthorization).length) = some 2 := by
    decide +kernel
  rw [parsed, Option.map_some, one] at both
  simp at both

end ProxyLauncher.Transport
