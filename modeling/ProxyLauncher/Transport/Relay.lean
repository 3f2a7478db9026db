import ProxyLauncher.Transport.Credential

/-!
# The relay

`select` reports which of the two sides can be read; whatever is read goes to the other side.
The relay itself loses nothing, so a tunnel loses only what its handler has dropped before.
-/

namespace ProxyLauncher.Transport

open Python

inductive Side where
  | upstream
  | client
  deriving DecidableEq

/-- Why a relay ends before it is stopped. -/
inductive Ending where
  | idleTimeout
  | eof (side : Side)
  deriving DecidableEq

/-- What the two sides are still to send, and what has been sent to them. -/
structure Relaying where
  upstream : Stream
  client : Stream
  toClient : Bytes
  toUpstream : Bytes
  ended : Option Ending
  deriving DecidableEq

/-- What `select` reports. -/
structure Ready where
  upstream : Bool
  client : Bool

/-- `stream.recv(65536)` for a side that is ready. -/
def Relaying.read (state : Relaying) : Side → Relaying
  | .upstream =>
      match recv 65536 state.upstream with
      | ([], _) => { state with ended := some (.eof .upstream) }
      | (data, rest) => { state with upstream := rest, toClient := state.toClient ++ data }
  | .client =>
      match recv 65536 state.client with
      | ([], _) => { state with ended := some (.eof .client) }
      | (data, rest) => { state with client := rest, toUpstream := state.toUpstream ++ data }

/-- One turn of the loop of `_relay`; the upstream is the first of the ready sides. -/
def Relaying.turn (state : Relaying) (ready : Ready) : Relaying :=
  if state.ended ≠ none then state
  else if ready.upstream = false ∧ ready.client = false then
    { state with ended := some .idleTimeout }
  else
    let state := if ready.upstream then state.read .upstream else state
    if ready.client ∧ state.ended = none then state.read .client else state

/-- `_relay` until it is stopped after some turns. -/
def Relaying.run (state : Relaying) (turns : List Ready) : Relaying :=
  turns.foldl Relaying.turn state

variable {state : Relaying} {fromUpstream fromClient : Bytes}

/-- The bytes of each side are those that have reached the other one and those that are still
to be read.  The end of a side comes behind all its bytes. -/
structure Relaying.Lossless (state : Relaying) (fromUpstream fromClient : Bytes) : Prop where
  toClient : state.toClient ++ state.upstream.flatten = fromUpstream
  toUpstream : state.toUpstream ++ state.client.flatten = fromClient
  upstreamEnded : state.ended = some (.eof .upstream) → state.upstream = []
  clientEnded : state.ended = some (.eof .client) → state.client = []

/-- A relay between two sides that send chunks. -/
structure Relaying.Running (state : Relaying) (fromUpstream fromClient : Bytes) : Prop where
  lossless : state.Lossless fromUpstream fromClient
  upstream : state.upstream.Chunked
  client : state.client.Chunked

/-- Nothing is left to be read. -/
def Relaying.Drained (state : Relaying) : Prop :=
  state.upstream.flatten = [] ∧ state.client.flatten = []

theorem Relaying.Running.read (running : state.Running fromUpstream fromClient)
    (open' : state.ended = none) (side : Side) :
    (state.read side).Running fromUpstream fromClient := by
  obtain ⟨⟨toClient, toUpstream, -, -⟩, upstream, client⟩ := running
  cases side with
  | upstream =>
      obtain ⟨data, rest, received, whole, -, chunked, all⟩ := exists_of_recv upstream 65536
      rw [Relaying.read, received]
      cases data with
      | nil =>
          have none : state.upstream = [] := by
            by_contra nonempty
            exact absurd (all rfl nonempty) (by decide)
          exact ⟨⟨toClient, toUpstream, fun _ => none, by simp⟩, upstream, client⟩
      | cons byte data =>
          refine ⟨⟨?_, toUpstream, by simp [open'], by simp [open']⟩, chunked, client⟩
          rw [← toClient, ← whole, List.append_assoc]
  | client =>
      obtain ⟨data, rest, received, whole, -, chunked, all⟩ := exists_of_recv client 65536
      rw [Relaying.read, received]
      cases data with
      | nil =>
          have none : state.client = [] := by
            by_contra nonempty
            exact absurd (all rfl nonempty) (by decide)
          exact ⟨⟨toClient, toUpstream, by simp, fun _ => none⟩, upstream, client⟩
      | cons byte data =>
          refine ⟨⟨toClient, ?_, by simp [open'], by simp [open']⟩, upstream, chunked⟩
          rw [← toUpstream, ← whole, List.append_assoc]

theorem Relaying.Running.turn (running : state.Running fromUpstream fromClient) (ready : Ready) :
    (state.turn ready).Running fromUpstream fromClient := by
  unfold Relaying.turn
  split
  · exact running
  · rename_i open'
    rw [not_not] at open'
    split
    · exact ⟨⟨running.lossless.toClient, running.lossless.toUpstream, by simp, by simp⟩,
        running.upstream, running.client⟩
    · have first : (if ready.upstream then state.read .upstream else state).Running
          fromUpstream fromClient := by
        split
        · exact running.read open' .upstream
        · exact running
      dsimp only
      generalize (if ready.upstream then state.read .upstream else state) = middle at first ⊢
      split
      · rename_i both
        exact first.read both.2 .client
      · exact first

theorem Relaying.Running.run (running : state.Running fromUpstream fromClient)
    (turns : List Ready) : (state.run turns).Running fromUpstream fromClient := by
  induction turns generalizing state with
  | nil => exact running
  | cons ready turns ih => exact ih (running.turn ready)

/-- Every byte has reached the other side exactly when none is left to be read. -/
theorem Relaying.Lossless.drained_iff (lossless : state.Lossless fromUpstream fromClient) :
    state.Drained ↔ state.toClient = fromUpstream ∧ state.toUpstream = fromClient := by
  rw [← lossless.toClient, ← lossless.toUpstream, Relaying.Drained]
  simp

variable {library : Library} {count : Nat} {index : Fin count} {world : World count}
  {breaker : Breaker count} {client : Stream} {host : String} {port : Int}

theorem readProxyResponse_of_stream {upstreams : Fin count → Upstream} {network : Network count}
    {clientRequest : Option Bytes} {left : Stream}
    (found : (openUpstreamTunnel library upstreams network breaker host port
      clientRequest).stream = some (index, left)) :
    ∃ status, readProxyResponse (network.peers index).sends = .ok (status,
      (openUpstreamTunnel library upstreams network breaker host port clientRequest).response,
      left) := by
  unfold openUpstreamTunnel at found ⊢
  rcases tryCandidates_cases network.peers
      (fun index => connectRequestWithAuth library host port (upstreams index).token clientRequest)
      network.clock (breaker.candidates network.now) breaker with
    ⟨before, winner, after, response, left', -, -, won, whole⟩ | ⟨-, whole⟩
  · rw [whole] at found ⊢
    obtain ⟨rfl, rfl⟩ := Prod.mk.inj (Option.some.inj found)
    obtain ⟨-, -, -, -, status, answered, -⟩ := won_eq_some_iff.mp won
    exact ⟨status, answered⟩
  · rw [whole] at found
    cases found

/-- A response ends somewhere in what has been read of the stream. -/
theorem readProxyResponse_eq_ok {stream rest : Stream} {status : Int} {response : Bytes}
    (chunked : stream.Chunked)
    (read : readProxyResponse stream = .ok (status, response, rest)) :
    ∃ header surplus, cut marker response = some (header, surplus) ∧
      response ++ rest.flatten = stream.flatten ∧ rest.Chunked := by
  have spec := @readUntilMarker_spec 4096 65536 65537 stream [] (by decide) chunked (by decide)
    (by decide)
  unfold readProxyResponse at read
  split at spec
  · obtain ⟨response', rest', returned, whole, -, inside, chunked'⟩ := spec
    obtain ⟨⟨header, surplus⟩, found⟩ := Option.isSome_iff_exists.mp (cut_isSome_iff.mpr inside)
    simp only [returned] at read
    split at read
    · split at read
      · obtain ⟨-, rfl, rfl⟩ : _ ∧ response' = response ∧ rest' = rest := by simpa using read
        exact ⟨header, surplus, found, whole, chunked'⟩
      · cases read
    · cases read
  · simp [spec] at read

/-- What the read that ends the header of a response brings behind it. -/
def responseSurplus (stream : Stream) : Bytes :=
  match readProxyResponse stream with
  | .error _ => []
  | .ok (_, response, _) => ((cut marker response).map Prod.snd).getD []

/-- The relay with which a handler goes on. -/
def Handled.relaying (handled : Handled count) (relay : Relay count) : Relaying where
  upstream := relay.answers
  client := relay.client
  toClient := handled.replies
  toUpstream := relay.opening ++ relay.surplus
  ended := none

/-- The client asks for a tunnel. -/
def IsTunnel (listener : Listener) (client : Stream) : Prop :=
  listener = .socks ∨ listener = .http ∧
    ∃ request rest, readRequest client = some (request, rest) ∧ request.isConnect = true

/-- What the client sends after its request. -/
def AfterRequest (library : Library) (listener : Listener) (client after : Bytes) : Prop :=
  if listener = .socks then ∃ host port, Fields library client host port after
  else ∃ header, cut marker client = some (header, after)

/-- What the client is told of the tunnel: the header of the response, or the replies of
SOCKS. -/
def tunnelReply (listener : Listener) (header : Bytes) : Bytes :=
  if listener = .socks then [5, 0] ++ socksReply 0 else header ++ marker

variable {relay : Relay count} {request : Request} {rest : Stream}

theorem relay_of_connect (read : readRequest client = some (request, rest))
    (connect : request.isConnect = true)
    (opened : (handleHttp library world breaker client).relay = some relay)
    (target : relay.target = .upstream index) :
    ∃ status, readProxyResponse (world.network.peers index).sends = .ok (status,
        (handleHttp library world breaker client).replies, relay.answers) ∧
      relay.surplus = request.surplus ∧ relay.client = rest := by
  rw [handleHttp, read] at opened ⊢
  dsimp only at opened ⊢
  cases parsed : parseFirst library request.first with
  | badConnect => simp [parsed, rejected] at opened
  | badRequest => simp [parsed, rejected] at opened
  | undecodable => simp [parsed, rejected] at opened
  | plain method host port path =>
      have plain := isConnect_of_parseFirst.2 method host port path parsed
      cases connect.symm.trans plain
  | connect host port =>
      rw [parsed] at opened
      dsimp only at opened ⊢
      split at opened
      · unfold connectDirect at opened
        split at opened
        · cases opened
        · obtain rfl := Option.some.inj opened
          cases target
      · rename_i bypass
        rw [if_neg bypass]
        unfold proxyConnect at opened ⊢
        dsimp only at opened ⊢
        split at opened
        · cases opened
        · rename_i winner answers found
          obtain rfl := Option.some.inj opened
          obtain rfl : winner = index := by simpa using target
          obtain ⟨status, answered⟩ := readProxyResponse_of_stream found
          exact ⟨status, answered, rfl, rfl⟩

theorem relay_of_socks
    (opened : (handleSocks library world breaker client).relay = some relay)
    (target : relay.target = .upstream index) :
    ∃ host port status response,
      (socksHandshake library client).accepted = some (host, port, relay.client) ∧
      readProxyResponse (world.network.peers index).sends =
        .ok (status, response, relay.answers) ∧
      (handleSocks library world breaker client).replies = [5, 0] ++ socksReply 0 ∧
      relay.surplus = [] := by
  unfold handleSocks at opened ⊢
  dsimp only at opened ⊢
  split at opened
  · cases opened
  · rename_i host port rest accepted
    have replies : (socksHandshake library client).replies = [5, 0] := by
      unfold socksHandshake at accepted ⊢
      split at accepted
      · cases accepted
      · rfl
    rw [accepted]
    split at opened
    · split at opened
      · cases opened
      · obtain rfl := Option.some.inj opened
        cases target
    · rename_i bypass
      rw [if_neg bypass]
      split at opened
      · cases opened
      · rename_i winner answers found
        obtain rfl := Option.some.inj opened
        obtain rfl : winner = index := by simpa using target
        obtain ⟨status, answered⟩ := readProxyResponse_of_stream found
        exact ⟨host, port, status, _, rfl, answered, by rw [replies], rfl⟩

theorem responseSurplus_eq {stream left : Stream} {status : Int}
    {response header surplus : Bytes}
    (answered : readProxyResponse stream = .ok (status, response, left))
    (found : cut marker response = some (header, surplus)) : responseSurplus stream = surplus := by
  rw [responseSurplus, answered]
  simp only [found, Option.map_some, Option.getD_some]

theorem relaying_running {handled : Handled count} {after : Bytes}
    (replies : handled.replies ++ relay.answers.flatten = fromUpstream)
    (surplus : relay.surplus ++ relay.client.flatten = after)
    (answers : relay.answers.Chunked) (client : relay.client.Chunked) :
    (handled.relaying relay).Running fromUpstream (relay.opening ++ after) := by
  refine ⟨⟨replies, ?_, by simp [Handled.relaying], by simp [Handled.relaying]⟩, answers, client⟩
  rw [← surplus]
  exact List.append_assoc _ _ _

/-- The relay starts with the bytes behind the request of the client and behind the header of
the response.  Only on SOCKS are those dropped that were read together with that header. -/
theorem running_of_tunnel {listener : Listener} (clientChunked : client.Chunked)
    (peerChunked : (world.network.peers index).sends.Chunked) (tunnel : IsTunnel listener client)
    (opened : (handle library world breaker listener client).relay = some relay)
    (target : relay.target = .upstream index) :
    ∃ header payload after left,
      cut marker (world.network.peers index).sends.flatten = some (header, payload) ∧
      AfterRequest library listener client.flatten after ∧
      payload =
        (if listener = .http then [] else responseSurplus (world.network.peers index).sends) ++
          left ∧
      ((handle library world breaker listener client).relaying relay).Running
        (tunnelReply listener header ++ left) (relay.opening ++ after) := by
  rcases tunnel with rfl | ⟨rfl, request, rest, read, connect⟩
  · obtain ⟨host, port, status, response, accepted, answered, replies, surplus⟩ :=
      relay_of_socks opened target
    obtain ⟨fields, clientChunked'⟩ := fields_of_accepted clientChunked accepted
    obtain ⟨header, surplus', found, whole, answersChunked⟩ :=
      readProxyResponse_eq_ok peerChunked answered
    have split := cut_append found relay.answers.flatten
    rw [whole] at split
    refine ⟨header, surplus' ++ relay.answers.flatten, relay.client.flatten,
      relay.answers.flatten, split, ?_, ?_, ?_⟩
    · rw [AfterRequest, if_pos rfl]
      exact ⟨host, port, fields⟩
    · rw [if_neg (by decide), responseSurplus_eq answered found]
    · refine relaying_running ?_ (by rw [surplus, List.nil_append]) answersChunked clientChunked'
      rw [tunnelReply, if_pos rfl, handle, replies]
  · obtain ⟨status, answered, surplus, rfl⟩ := relay_of_connect read connect opened target
    obtain ⟨header, surplus', found, whole, answersChunked⟩ :=
      readProxyResponse_eq_ok peerChunked answered
    have split := cut_append found relay.answers.flatten
    rw [whole] at split
    have spec := readRequest_spec clientChunked
    split at spec
    · obtain ⟨head, after, found', surplus'', rest', whole', clientChunked', read'⟩ := spec
      obtain ⟨rfl, rfl⟩ := Prod.mk.inj (Option.some.inj (read.symm.trans read'))
      refine ⟨header, surplus' ++ relay.answers.flatten, after, surplus' ++ relay.answers.flatten,
        split, ?_, ?_, ?_⟩
      · rw [AfterRequest, if_neg (by decide)]
        exact ⟨head, found'⟩
      · rw [if_pos rfl, List.nil_append]
      · refine relaying_running ?_ (by rw [surplus, whole']) answersChunked clientChunked'
        have response := eq_append_of_cut found
        rw [handle, response, tunnelReply, if_neg (by decide)]
        simp only [List.append_assoc]
    · cases read.symm.trans spec

/-- After any turns of the relay nothing is lost exactly on HTTP, or when no payload came with
the header of the response.  Then everything has arrived when nothing is left to be read. -/
theorem tunnel_lossless_iff (library : Library) (world : World count) (breaker : Breaker count)
    (listener : Listener) (client : Stream) (clientChunked : client.Chunked)
    (tunnel : IsTunnel listener client) (relay : Relay count)
    (opened : (handle library world breaker listener client).relay = some relay)
    (index : Fin count) (target : relay.target = .upstream index)
    (peerChunked : (world.network.peers index).sends.Chunked) :
    ∃ header payload after,
      cut marker (world.network.peers index).sends.flatten = some (header, payload) ∧
      AfterRequest library listener client.flatten after ∧ ∀ turns,
        let final := ((handle library world breaker listener client).relaying relay).run turns
        (final.Lossless (tunnelReply listener header ++ payload) (relay.opening ++ after) ↔
          listener = .http ∨ responseSurplus (world.network.peers index).sends = []) ∧
        (final.toClient = tunnelReply listener header ++ payload ∧
            final.toUpstream = relay.opening ++ after ↔
          (listener = .http ∨ responseSurplus (world.network.peers index).sends = []) ∧
            final.Drained) := by
  obtain ⟨header, payload, after, left, found, request, whole, running⟩ :=
    running_of_tunnel clientChunked peerChunked tunnel opened target
  refine ⟨header, payload, after, found, request, fun turns => ?_⟩
  have lossless := (running.run turns).lossless
  generalize ((handle library world breaker listener client).relaying relay).run turns = final
    at lossless
  have kept_iff : payload = left ↔
      listener = .http ∨ responseSurplus (world.network.peers index).sends = [] := by
    rw [whole, List.append_left_eq_self]
    split
    · simp [*]
    · simp [*]
  rw [← kept_iff]
  refine ⟨⟨fun kept => ?_, ?_⟩, ⟨fun arrived => ?_, ?_⟩⟩
  · exact List.append_cancel_left (kept.toClient.symm.trans lossless.toClient)
  · rintro rfl
    exact lossless
  · have bytes := lossless.toClient
    rw [arrived.1, List.append_assoc, List.append_cancel_left_eq] at bytes
    have length := congrArg List.length bytes
    have longer := congrArg List.length whole
    rw [List.length_append] at length longer
    have none : final.upstream.flatten = [] := List.eq_nil_of_length_eq_zero (by omega)
    have same : payload = left := by rwa [none, List.append_nil] at bytes
    subst same
    exact ⟨rfl, lossless.drained_iff.mpr arrived⟩
  · rintro ⟨rfl, drained⟩
    exact lossless.drained_iff.mp drained

/-- Upstreams that send payload together with the header of their response. -/
def eagerWorld : World 2 where
  upstreams := sampleUpstreams
  network :=
    { willingNetwork with
      peers _ := { willingPeer with
        sends := [ascii "HTTP/1.1 200 OK\r\n\r\nSSH", ascii "-2.0"] } }
  noProxy := []
  direct _ _ := none

def eagerConnect : Stream := [ascii "CONNECT h:1 HTTP/1.1\r\n\r\nhe", ascii "llo"]

/-- The relay with which the proxy listener goes on. -/
def eagerRelay : Relay 2 where
  target := .upstream ⟨0, Nat.zero_lt_two⟩
  opening := ascii "CONNECT h:1 HTTP/1.1\r\nProxy-Authorization: Basic dTpw\r\n\r\n"
  surplus := ascii "he"
  client := [ascii "llo"]
  answers := [ascii "-2.0"]

/-- The hosts of the requests go through an upstream. -/
theorem eagerHost_proxied {host : String} (member : host ∈ sampleHosts) :
    Routing.hostBypassesProxy sampleLibrary.characters eagerWorld.noProxy host = false :=
  sample_proxied member

theorem tunnel_lossless_iff_sample :
    ∃ header payload after, ∀ turns,
      (((handle sampleLibrary eagerWorld (.initial 2) .http eagerConnect).relaying
        eagerRelay).run turns).Lossless (tunnelReply .http header ++ payload)
          (eagerRelay.opening ++ after) := by
  have read : readRequest eagerConnect = some (⟨ascii "CONNECT h:1 HTTP/1.1\r\n\r\nhe",
      ascii "CONNECT h:1 HTTP/1.1\r\n\r\n", ascii "he"⟩, [ascii "llo"]) ∧
      parseFirst sampleLibrary (Request.first ⟨ascii "CONNECT h:1 HTTP/1.1\r\n\r\nhe",
        ascii "CONNECT h:1 HTTP/1.1\r\n\r\n", ascii "he"⟩) = .connect "h" 1 := by
    decide
  have opened : (handleHttp sampleLibrary eagerWorld (.initial 2) eagerConnect).relay =
      some eagerRelay := by
    rw [handleHttp_connect read.1 read.2 (eagerHost_proxied (by simp [sampleHosts]))]
    decide
  have chunked : eagerConnect.Chunked ∧ (eagerWorld.network.peers 0).sends.Chunked := by
    decide +kernel
  have tunnel : IsTunnel .http eagerConnect := .inr ⟨rfl, _, _, read.1, by decide +kernel⟩
  obtain ⟨header, payload, after, -, -, run⟩ := tunnel_lossless_iff sampleLibrary eagerWorld
    (.initial 2) .http eagerConnect chunked.1 tunnel eagerRelay opened 0 rfl chunked.2
  exact ⟨header, payload, after, fun turns => (run turns).1.mpr (.inl rfl)⟩

/-- A SOCKS request for port 80 of 1.2.3.4. -/
def eagerSocks : Stream := [greeting, [5, 1, 0, 1, 1, 2, 3, 4, 0, 80]]

/-- The relay with which the SOCKS listener goes on. -/
def eagerSocksRelay : Relay 2 where
  target := .upstream ⟨0, Nat.zero_lt_two⟩
  opening :=
    ascii "CONNECT 1.2.3.4:80 HTTP/1.1\r\nHost: 1.2.3.4:80\r\nProxy-Authorization: Basic dTpw\r\n\r\n"
  surplus := []
  client := []
  answers := [ascii "-2.0"]

theorem eagerSocks_handled :
    (handleSocks sampleLibrary eagerWorld (.initial 2) eagerSocks).relay = some eagerSocksRelay ∧
      (handleSocks sampleLibrary eagerWorld (.initial 2) eagerSocks).replies =
        tunnelReply .socks [] := by
  have host : "1.2.3.4" ∈ sampleHosts := by simp [sampleHosts]
  have handshake : (socksHandshake sampleLibrary eagerSocks).accepted = some ("1.2.3.4", 80, []) ∧
      (socksHandshake sampleLibrary eagerSocks).replies = [5, 0] := by
    decide
  have normalized := (sample_names "1.2.3.4" (List.mem_append_right _ host)).normalizeHost_eq
  simp only [handleSocks, handshake, normalized, eagerHost_proxied host, Bool.false_eq_true, if_false]
  decide +kernel

/-- On SOCKS the client does not get the payload that came with the header, although the upstream
has been read to its end. -/
theorem socks_drops_payload :
    let handled := handle sampleLibrary eagerWorld (.initial 2) .socks eagerSocks
    let final := (handled.relaying eagerSocksRelay).run [⟨true, false⟩, ⟨true, false⟩]
    handled.relay = some eagerSocksRelay ∧
      cut marker (eagerWorld.network.peers 0).sends.flatten =
        some (ascii "HTTP/1.1 200 OK", ascii "SSH-2.0") ∧
      final.ended = some (.eof .upstream) ∧
      ∀ fromClient, ¬ final.Lossless
        (tunnelReply .socks (ascii "HTTP/1.1 200 OK") ++ ascii "SSH-2.0") fromClient := by
  intro handled final
  obtain ⟨opened, replies⟩ := eagerSocks_handled
  have relaying : handled.relaying eagerSocksRelay = ⟨eagerSocksRelay.answers, [],
      tunnelReply .socks [], eagerSocksRelay.opening ++ [], none⟩ := by
    rw [Handled.relaying, show handled.replies = _ from replies]
    rfl
  have run : final = Relaying.run ⟨eagerSocksRelay.answers, [], tunnelReply .socks [],
      eagerSocksRelay.opening ++ [], none⟩ [⟨true, false⟩, ⟨true, false⟩] := by
    rw [← relaying]
  have arrived : cut marker (eagerWorld.network.peers 0).sends.flatten =
        some (ascii "HTTP/1.1 200 OK", ascii "SSH-2.0") ∧
      final.ended = some (.eof .upstream) ∧ final.toClient ++ final.upstream.flatten ≠
        tunnelReply .socks (ascii "HTTP/1.1 200 OK") ++ ascii "SSH-2.0" := by
    rw [run]
    decide +kernel
  exact ⟨opened, arrived.1, arrived.2.1, fun fromClient lossless => arrived.2.2 lossless.toClient⟩

end ProxyLauncher.Transport
