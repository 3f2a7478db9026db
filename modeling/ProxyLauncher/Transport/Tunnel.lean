import ProxyLauncher.Encoding.Base64
import ProxyLauncher.Routing.Policy
import ProxyLauncher.Transport.Breaker
import ProxyLauncher.Transport.Stream

/-!
# Opening a tunnel through an upstream

The candidates are tried in order.  For each one the loop connects, sends a CONNECT request
with the credentials of that upstream and reads the response header; a status of the 200s
ends the search.  What the network does for each upstream is an argument.
-/

namespace ProxyLauncher.Transport

open Python

/-- The functions of the Python library with Unicode tables, and the text of an IPv6 address.
`decimal` and `idna` are asked about texts outside ASCII only; `none` of `idna` is a
`UnicodeError`. -/
structure Library where
  characters : Routing.Characters
  decimal : Char → Option Nat
  idna : String → Option Bytes
  inetNtop6 : Bytes → String

/-- An entry of `_upstreams`.  The token is Base64, so its bytes are printable. -/
structure Upstream where
  host : String
  port : Int
  token : Bytes
  printable : ∀ byte ∈ token, 32 < byte.toNat ∧ byte.toNat < 127

/-- The entry that `_build_upstreams` makes for a host. -/
def buildUpstream (host : String) (port : Int) (username password : String) : Upstream where
  host := host
  port := port
  token := (Encoding.standard.encode (encodeUtf8 (username ++ ":" ++ password))).map fun char =>
    UInt8.ofNat char.toNat
  printable := by
    intro byte member
    obtain ⟨char, symbol, rfl⟩ := List.mem_map.mp member
    have printable := Encoding.Alphabet.ascii_of_mem_encode symbol
    rw [UInt8.toNat_ofNat_of_lt' (by show char.toNat < 256; omega)]
    exact printable

/-- What the network does for one upstream: whether `socket`, `connect` and `sendall`
succeed, and what is received afterwards. -/
structure Peer where
  opens : Bool
  connects : Bool
  accepts : Bool
  sends : Stream

inductive RequestError where
  | unicodeError
  | invalidRequest
  deriving DecidableEq

variable (library : Library)

/-- `text.encode("idna")`. -/
def encodeIdna (text : String) : Option Bytes :=
  if text.toList.all fun char => char.toNat < 128 then
    let labels := (ascii text).splitOn 46
    if text = "" ∨
        (labels.dropLast.all fun label => 0 < label.length && label.length < 64) = true ∧
          (labels.getLastD []).length < 64 then
      some (ascii text)
    else none
  else library.idna text

/-- `line.lower().startswith(b"proxy-authorization:")`. -/
def isProxyAuthorization (line : Bytes) : Bool :=
  (ascii "proxy-authorization:").isPrefixOf (line.map lowerByte)

/-- The header line with the credentials of an upstream. -/
def authorizationLine (token : Bytes) : Bytes :=
  ascii "Proxy-Authorization: Basic " ++ token

/-- `_connect_request_with_auth`. -/
def connectRequestWithAuth (host : String) (port : Int) (token : Bytes)
    (clientRequest : Option Bytes) : Except RequestError Bytes :=
  match encodeIdna library (host ++ ":" ++ toString port) with
  | none => .error .unicodeError
  | some target =>
      match clientRequest with
      | none =>
          .ok (ascii "CONNECT " ++ target ++ ascii " HTTP/1.1\r\n" ++ ascii "Host: " ++ target ++
            crlf ++ authorizationLine token ++ marker)
      | some request =>
          match splitCrlf (((cut marker request).map Prod.fst).getD request) with
          | [] => .error .invalidRequest
          | first :: others =>
              if (ascii "CONNECT ").isPrefixOf first then
                .ok (joinCrlf (first :: authorizationLine token ::
                  others.filter fun line => line ≠ [] ∧ isProxyAuthorization line = false) ++
                  marker)
              else .error .invalidRequest

inductive Failure where
  | noSocket
  | refused
  | request (error : RequestError)
  | notSent
  | response
  deriving DecidableEq

/-- What happens to the sockets and the marks of the upstreams. -/
inductive Event (count : Nat) where
  | opened (index : Fin count)
  | contacted (index : Fin count)
  | sent (index : Fin count) (data : Bytes)
  | closed (index : Fin count)
  | succeeded (index : Fin count)
  | failed (index : Fin count)
  deriving DecidableEq

/-- `_read_proxy_response`: the status, the bytes read and what is still to come. -/
def readProxyResponse (stream : Stream) : Except Failure (Int × Bytes × Stream) :=
  match readUntilMarker 4096 65536 65537 [] stream with
  | .error _ => .error .response
  | .ok (response, rest) =>
      match splitWhitespace (((cut crlf response).map Prod.fst).getD response) with
      | _ :: status :: _ =>
          match parseIntBytes status with
          | some status => .ok (status, response, rest)
          | none => .error .response
      | _ => .error .response

/-- An attempt with one candidate. -/
structure Attempt (count : Nat) where
  events : List (Event count)
  outcome : Except Failure (Int × Bytes × Stream)

variable {count : Nat}

/-- The `try` block of `_open_upstream_tunnel`, up to the status. -/
def attempt (index : Fin count) (peer : Peer) (request : Except RequestError Bytes) :
    Attempt count :=
  if peer.opens = false then ⟨[], .error .noSocket⟩
  else if peer.connects = false then
    ⟨[.opened index, .contacted index], .error .refused⟩
  else
    match request with
    | .error error => ⟨[.opened index, .contacted index], .error (.request error)⟩
    | .ok data =>
        if peer.accepts = false then
          ⟨[.opened index, .contacted index, .sent index data], .error .notSent⟩
        else
          ⟨[.opened index, .contacted index, .sent index data], readProxyResponse peer.sends⟩

/-- `200 <= status < 300`, with the response and what is still to come. -/
def Attempt.won (attempt : Attempt count) : Option (Bytes × Stream) :=
  match attempt.outcome with
  | .error _ => none
  | .ok (status, response, rest) =>
      if 200 ≤ status ∧ status < 300 then some (response, rest) else none

structure Tunnel (count : Nat) where
  stream : Option (Fin count × Stream)
  response : Bytes
  breaker : Breaker count
  events : List (Event count)

/-- The socket of a failed attempt is closed, if there is one. -/
def closing (index : Fin count) (peer : Peer) : List (Event count) :=
  if peer.opens then [.closed index] else []

/-- The loop of `_open_upstream_tunnel`.  `clock` has the time at which each candidate is
marked. -/
def tryCandidates (peers : Fin count → Peer) (request : Fin count → Except RequestError Bytes)
    (clock : Fin count → Nat) : List (Fin count) → Breaker count → Tunnel count
  | [], breaker => { stream := none, response := [], breaker, events := [] }
  | index :: rest, breaker =>
      let tried := attempt index (peers index) (request index)
      match tried.won with
      | some (response, left) =>
          { stream := some (index, left), response,
            breaker := breaker.markUpstreamSuccess index,
            events := tried.events ++ [.succeeded index] }
      | none =>
          let next := tryCandidates peers request clock rest
            (breaker.markUpstreamFailure index (clock index))
          { next with
            events := tried.events ++ (.failed index :: closing index (peers index)) ++
              next.events }

/-- The network and the clock during one request. -/
structure Network (count : Nat) where
  now : Nat
  clock : Fin count → Nat
  peers : Fin count → Peer

/-- `_open_upstream_tunnel`. -/
def openUpstreamTunnel (upstreams : Fin count → Upstream) (network : Network count)
    (breaker : Breaker count) (host : String) (port : Int) (clientRequest : Option Bytes) :
    Tunnel count :=
  tryCandidates network.peers
    (fun index => connectRequestWithAuth library host port (upstreams index).token clientRequest)
    network.clock (breaker.candidates network.now) breaker

end ProxyLauncher.Transport
