import ProxyLauncher.Transport.Tunnel

/-!
# The HTTP listeners

Both HTTP listeners read the header of a request, take the target from the first line and
connect to it.  The proxy listener goes through an upstream unless the target bypasses the
proxy; the direct listener never does.  What follows the header, and whatever the client sends
later, goes to the target through the relay.
-/

namespace ProxyLauncher.Transport

open Python

variable (library : Library) {count : Nat}

/-- `text.rsplit(separator, 1)` for a text that contains the separator. -/
def rsplitOnce (separator : Char) (text : String) : Option (String × String) :=
  if separator ∈ text.toList then
    some (.ofList (text.toList.rdropWhile fun char => char ≠ separator).dropLast,
      .ofList (text.toList.rtakeWhile fun char => char ≠ separator))
  else none

/-- The host and the port of `host:port` in a URL; a port that is no number is 80. -/
def splitHostport (hostport : String) : String × Int :=
  match rsplitOnce ':' hostport with
  | some (host, port) => (host, (parseInt library.decimal port).getD 80)
  | none => (hostport, 80)

/-- `url[7:]` after `http://` and `url[8:]` after `https://`. -/
def withoutScheme (url : List Char) : List Char :=
  if "http://".toList.isPrefixOf url then url.drop 7
  else if "https://".toList.isPrefixOf url then url.drop 8
  else url

/-- The host, the port and the path of a URL. -/
def splitUrl (url : String) : String × Int × String :=
  let url := withoutScheme url.toList
  let (host, port) := splitHostport library (.ofList (url.takeWhile fun char => char ≠ '/'))
  (host, port, if '/' ∈ url then .ofList (url.dropWhile fun char => char ≠ '/') else "/")

/-- `host:port` of a CONNECT request; every exception is a bad request. -/
def connectTarget (first : Bytes) : Option (String × Int) := do
  let dest ← (first.splitOn 32)[1]?
  let dest ← decodeUtf8 dest
  let (host, port) ← rsplitOnce ':' dest
  let port ← parseInt library.decimal port
  pure (host, port)

inductive Parsed where
  | connect (host : String) (port : Int)
  | badConnect
  | plain (method : Bytes) (host : String) (port : Int) (path : String)
  | badRequest
  | undecodable
  deriving DecidableEq

/-- The first line of a request, as `_handle_http` and `_handle_direct_http` read it. -/
def parseFirst (first : Bytes) : Parsed :=
  if (ascii "CONNECT").isPrefixOf first then
    match connectTarget library first with
    | some (host, port) => .connect (Routing.normalizeHost library.characters host) port
    | none => .badConnect
  else
    match first.splitOn 32 with
    | method :: target :: _ =>
        match decodeUtf8 target with
        | some url =>
            let (host, port, path) := splitUrl library url
            .plain method (Routing.normalizeHost library.characters host) port path
        | none => .undecodable
    | _ => .badRequest

/-- `_send_error`. -/
def errorReply (code reason text : String) : Bytes :=
  ascii ("HTTP/1.1 " ++ code ++ " " ++ reason ++
    "\r\nContent-Type: text/plain; charset=utf-8\r\nContent-Length: " ++
    toString text.utf8ByteSize ++ "\r\nConnection: close\r\n\r\n" ++ text)

def badRequest (text : String) : Bytes := errorReply "400" "Bad Request" text

def badGateway (text : String) : Bytes := errorReply "502" "Bad Gateway" text

def established : Bytes := ascii "HTTP/1.1 200 Connection Established\r\n\r\n"

inductive Target (count : Nat) where
  | direct (host : String) (port : Int)
  | upstream (index : Fin count)
  deriving DecidableEq

/-- The relay with which a handler ends: what the target got before it, first to open the
connection and then of what the client had already sent, and what the two sides are still to
send. -/
structure Relay (count : Nat) where
  target : Target count
  opening : Bytes
  surplus : Bytes
  client : Stream
  answers : Stream
  deriving DecidableEq

structure Handled (count : Nat) where
  replies : Bytes
  relay : Option (Relay count)
  breaker : Breaker count
  events : List (Event count)

/-- The rest of the world for one request: the upstreams, the exclusions of the user and what
`socket.create_connection` leads to. -/
structure World (count : Nat) where
  upstreams : Fin count → Upstream
  network : Network count
  noProxy : List String
  direct : String → Int → Option Stream

/-- The handler answers and closes the connection. -/
def rejected (breaker : Breaker count) (replies : Bytes)
    (events : List (Event count)) : Handled count :=
  { replies, relay := none, breaker, events }

/-- A connection that does not go through an upstream. -/
def connectDirect (world : World count) (breaker : Breaker count) (host : String) (port : Int)
    (failure : String) (replies opening surplus : Bytes) (client : Stream) : Handled count :=
  match world.direct host port with
  | none => rejected breaker (badGateway failure) []
  | some answers =>
      { replies, relay := some { target := .direct host port, opening, surplus, client, answers },
        breaker, events := [] }

/-- The request of a direct plain connection. -/
def directRequest (method : Bytes) (path : String) (data : Bytes) : Bytes :=
  method ++ ascii " " ++ encodeUtf8 path ++ ascii " HTTP/1.1\r\n" ++
    ((cut crlf data).map Prod.snd).getD []

/-- The request of a plain connection through an upstream. -/
def proxiedRequest (token data : Bytes) : Bytes :=
  match cut crlf data with
  | some (first, rest) => first ++ crlf ++ authorizationLine token ++ crlf ++ rest
  | none => data

/-- The loop over all upstreams of a plain request. -/
def tryUpstreams (peers : Fin count → Peer) (request : Fin count → Bytes) :
    List (Fin count) → Option (Fin count) × List (Event count)
  | [] => (none, [])
  | index :: rest =>
      let next := tryUpstreams peers request rest
      if (peers index).opens = false then next
      else if (peers index).connects = false then
        (next.1, [.opened index, .contacted index, .closed index] ++ next.2)
      else if (peers index).accepts = false then
        (next.1, [.opened index, .contacted index, .sent index (request index), .closed index] ++
          next.2)
      else (some index, [.opened index, .contacted index, .sent index (request index)])

/-- A plain request through an upstream. -/
def proxyPlain (world : World count) (breaker : Breaker count) (data : Bytes) (client : Stream) :
    Handled count :=
  let request index := proxiedRequest (world.upstreams index).token data
  match tryUpstreams world.network.peers request (List.finRange count) with
  | (none, events) => rejected breaker (badGateway "All external proxies unreachable") events
  | (some index, events) =>
      { replies := []
        relay := some { target := .upstream index, opening := request index, surplus := [],
                        client, answers := (world.network.peers index).sends }
        breaker, events }

/-- A CONNECT request through an upstream. -/
def proxyConnect (world : World count) (breaker : Breaker count) (host : String) (port : Int)
    (header surplus : Bytes) (client : Stream) : Handled count :=
  let tunnel := openUpstreamTunnel library world.upstreams world.network breaker host port
    (some header)
  match tunnel.stream with
  | none => rejected tunnel.breaker (badGateway "All external proxies unreachable") tunnel.events
  | some (index, answers) =>
      { replies := tunnel.response
        relay := some
          { target := .upstream index
            opening := ((connectRequestWithAuth library host port (world.upstreams index).token
              (some header)).toOption).getD []
            surplus, client, answers }
        breaker := tunnel.breaker, events := tunnel.events }

/-- `_read_client_request`. -/
def readClientRequest (client : Stream) : Except OsError (Bytes × Stream) :=
  readUntilMarker 8192 65536 65537 [] client

/-- A request that has been read: all its bytes, the header and what came after it. -/
structure Request where
  data : Bytes
  header : Bytes
  surplus : Bytes
  deriving DecidableEq

def Request.first (request : Request) : Bytes :=
  ((cut crlf request.header).map Prod.fst).getD request.header

def Request.isConnect (request : Request) : Bool := (ascii "CONNECT").isPrefixOf request.first

/-- The request and the rest of the stream. -/
def readRequest (client : Stream) : Option (Request × Stream) :=
  match readClientRequest client with
  | .error _ => none
  | .ok (data, rest) =>
      (cut marker data).map fun found =>
        ({ data, header := found.1 ++ marker, surplus := found.2 }, rest)

/-- `_handle_http`. -/
def handleHttp (world : World count) (breaker : Breaker count) (client : Stream) :
    Handled count :=
  match readRequest client with
  | none => rejected breaker (badGateway "Proxy error") []
  | some (request, rest) =>
      match parseFirst library request.first with
      | .badConnect => rejected breaker (badRequest "Bad CONNECT") []
      | .badRequest => rejected breaker (badRequest "Bad request") []
      | .undecodable => rejected breaker [] []
      | .connect host port =>
          if Routing.hostBypassesProxy library.characters world.noProxy host then
            connectDirect world breaker host port "Localhost connection failed" established []
              request.surplus rest
          else proxyConnect library world breaker host port request.header request.surplus rest
      | .plain method host port path =>
          if Routing.hostBypassesProxy library.characters world.noProxy host then
            connectDirect world breaker host port "Localhost connection failed" []
              (directRequest method path request.data) [] rest
          else proxyPlain world breaker request.data rest

section Proxied

variable {library : Library} {world : World count} {breaker : Breaker count} {client rest : Stream}
  {request : Request} {host : String} {port : Int}

theorem handleHttp_connect (read : readRequest client = some (request, rest))
    (parsed : parseFirst library request.first = .connect host port)
    (proxied : Routing.hostBypassesProxy library.characters world.noProxy host = false) :
    handleHttp library world breaker client =
      proxyConnect library world breaker host port request.header request.surplus rest := by
  simp [handleHttp, read, parsed, proxied]

theorem handleHttp_plain {method : Bytes} {path : String}
    (read : readRequest client = some (request, rest))
    (parsed : parseFirst library request.first = .plain method host port path)
    (proxied : Routing.hostBypassesProxy library.characters world.noProxy host = false) :
    handleHttp library world breaker client = proxyPlain world breaker request.data rest := by
  simp [handleHttp, read, parsed, proxied]

end Proxied

/-- `_handle_direct_http`. -/
def handleDirectHttp (world : World count) (breaker : Breaker count) (client : Stream) :
    Handled count :=
  match readRequest client with
  | none => rejected breaker (badGateway "Proxy error") []
  | some (request, rest) =>
      match parseFirst library request.first with
      | .badConnect => rejected breaker (badRequest "Bad CONNECT") []
      | .badRequest => rejected breaker (badRequest "Bad request") []
      | .undecodable => rejected breaker [] []
      | .connect host port =>
          connectDirect world breaker host port "Direct connection failed" established []
            request.surplus rest
      | .plain method host port path =>
          connectDirect world breaker host port "Direct connection failed" []
            (directRequest method path request.data) [] rest

end ProxyLauncher.Transport
