import ProxyLauncher.Gateway.Authorisation
import ProxyLauncher.Python.Bytes

/-!
# The handlers of the free gateway

A client sends a request and closes its writing side; the handlers of `GatewayApi` and
`ConnectRelay` answer it.  What the client is sent reaches it.  The handlers catch the exceptions
of their lists, and all others escape.
-/

namespace ProxyLauncher.Gateway

open Python

/-- What can be raised while a request is handled. -/
inductive Fault where
  | raised (error : Raised)
  | incompleteRead
  | limitOverrun
  | osError
deriving DecidableEq

def Fault.valueError : Fault := .raised (.valueError "")

/-- The limit of an `asyncio.StreamReader`. -/
def readerLimit : ℕ := 65536

def headEnd : Bytes := [13, 10, 13, 10]

/-- `reader.readuntil(b"\r\n\r\n")` on all the bytes that arrive, and the rest of them. -/
def readuntil (stream : Bytes) : Except Fault (Bytes × Bytes) :=
  match cut headEnd stream with
  | some (front, rest) =>
      if readerLimit < front.length then .error .limitOverrun
      else .ok (front ++ headEnd, rest)
  | none => .error (if readerLimit + 3 < stream.length then .limitOverrun else .incompleteRead)

/-- `reader.readexactly(length)`. -/
def readexactly (length : ℤ) (stream : Bytes) : Except Fault Bytes :=
  if length < 0 then .error .valueError
  else if (stream.length : ℤ) < length then .error .incompleteRead
  else .ok (stream.take length.toNat)

/-- `data.decode("iso-8859-1")`. -/
def latin1 (data : Bytes) : String :=
  .ofList (data.map fun byte => Char.ofNat byte.toNat)

/-- A request; of the headers of one name, the last one comes first. -/
structure Request where
  method : String
  target : String
  headers : List (String × String)
  body : Bytes
deriving DecidableEq

/-- `lines[0].split(" ", 2)`, which has to have three parts. -/
def requestLine (line : String) : Except Fault (String × String) :=
  match splitOnce ' ' line with
  | none => .error .valueError
  | some (method, rest) =>
      match splitOnce ' ' rest with
      | none => .error .valueError
      | some (target, _) => .ok (method, target)

variable (library : Library)

/-- One round of the loop over the header lines. -/
def addHeader (headers : List (String × String)) (line : String) :
    Except Fault (List (String × String)) :=
  if line = "" then .ok headers
  else
    match splitOnce ':' line with
    | none => .error .valueError
    | some (name, value) => .ok ((strip (library.lower name), strip value) :: headers)

/-- `int(headers.get("content-length", "0"))`. -/
def contentLength (headers : List (String × String)) : Except Fault ℤ :=
  match library.int (.string ((headers.lookup "content-length").getD "0")) with
  | .error _ => .error .valueError
  | .ok length => .ok length

def maxHeader : ℕ := 16384

/-- `read_request`. -/
def readRequest (stream : Bytes) : Except Fault Request := do
  let (data, rest) ← readuntil stream
  if maxHeader < data.length then .error .valueError
  else
    let lines := (splitCrlf data).map latin1
    let (method, target) ← requestLine (lines.headD "")
    let headers ← lines.tail.foldlM (addHeader library) []
    let length ← contentLength library headers
    let body ← if length = 0 then .ok [] else readexactly length rest
    return { method, target, headers, body }

def reason (status : ℕ) : String :=
  ([(200, "OK"), (201, "Created"), (400, "Bad Request"), (401, "Unauthorized"), (404, "Not Found"),
    (405, "Method Not Allowed"), (502, "Bad Gateway")].lookup status).getD "Error"

/-- `response(status, payload)`: the text of the bytes. -/
def Response.text (dumps : Json → String) (response : Response) : String :=
  let body := dumps response.payload
  "HTTP/1.1 " ++ toString response.status ++ " " ++ reason response.status ++
    "\r\nContent-Type: application/json; charset=utf-8\r\nContent-Length: " ++
    toString (utf8 body).length ++ "\r\nCache-Control: no-store\r\nConnection: close\r\n\r\n" ++ body

def badRequest : Response := ⟨400, .object [("error", .string "bad_request")]⟩

/-- What `_reject(writer, 407, "Proxy Authentication Required")` writes. -/
def rejection : String :=
  "HTTP/1.1 407 Proxy Authentication Required\r\n" ++
    "Proxy-Authenticate: Basic realm=\"Arvectum Free Gateway\"\r\nConnection: close\r\n\r\n"

def established : String := "HTTP/1.1 200 Connection Established\r\n\r\n"

def badGateway : String := "HTTP/1.1 502 Bad Gateway\r\nConnection: close\r\n\r\n"

/-- What a handler does to its connections. -/
inductive Action where
  | write (text : String)
  | openUpstream
  | closeUpstream
  | tunnel
  | closeClient
deriving DecidableEq

/-- What comes of an attempt to reach an upstream proxy: there is no connection, as of an `OSError`
or since the host cannot be encoded, the connection breaks, or the proxy sends these bytes. -/
inductive Attempt where
  | unreachable
  | unencodable
  | broken
  | answered (stream : Bytes)

/-- `_connect_status_code`. -/
def connectStatusCode (head : Bytes) : ℕ :=
  let parts := ((splitCrlf head).headD []).splitOn 32
  let code := parts.getD 1 []
  if code ≠ [] ∧ code.all (fun byte => 48 ≤ byte && byte ≤ 57) = true then
    code.foldl (fun value byte => 10 * value + (byte.toNat - 48)) 0
  else 0

/-- An open connection, or an exception. -/
inductive Opened where
  | opened
  | rejected (status : ℕ)
  | failed (fault : Fault)

/-- `_open_upstream_once`. -/
def Attempt.once : Attempt → List Action × Opened
  | .unreachable => ([], .failed .osError)
  | .unencodable => ([], .failed .valueError)
  | .broken => ([.openUpstream, .closeUpstream], .failed .osError)
  | .answered stream =>
      match readuntil stream with
      | .error fault => ([.openUpstream, .closeUpstream], .failed fault)
      | .ok (head, _) =>
          if connectStatusCode head = 200 then ([.openUpstream], .opened)
          else ([.openUpstream, .closeUpstream], .rejected (connectStatusCode head))

def retryableStatuses : List ℕ := [408, 429, 500, 502, 503, 504]

/-- The exceptions after which the loop tries again. -/
def Opened.retryable : Opened → Bool
  | .opened => false
  | .rejected status => status ∈ retryableStatuses
  | .failed .osError => true
  | .failed .incompleteRead => true
  | .failed _ => false

def Opened.result : Opened → Except Fault Unit
  | .opened => .ok ()
  | .rejected _ => .error .valueError
  | .failed fault => .error fault

/-- `open_upstream_tunnel` from an attempt on, with so many more to make. -/
def openUpstreamTunnel (attempts : ℕ → Attempt) : ℕ → ℕ → List Action × Except Fault Unit
  | 0, number => ((attempts number).once.1, (attempts number).once.2.result)
  | more + 1, number =>
      if (attempts number).once.2.retryable then
        let later := openUpstreamTunnel attempts more (number + 1)
        ((attempts number).once.1 ++ later.1, later.2)
      else ((attempts number).once.1, (attempts number).once.2.result)

/-- `ValueError` and its subclasses. -/
def Raised.isValueError : Raised → Bool
  | .valueError _ => true
  | .decodeError => true
  | _ => false

/-- What the connections see of a handler, and the exception that leaves it. -/
structure Handled where
  actions : List Action
  escaped : Option Fault

/-- The list of exceptions in `GatewayApi.handle`. -/
def GatewayApi.catches : Fault → Bool
  | .raised error => error.isValueError
  | .incompleteRead => true
  | _ => false

/-- The list of exceptions in `ConnectRelay.handle`. -/
def ConnectRelay.catches : Fault → Bool
  | .raised error => error.isValueError
  | .incompleteRead => true
  | .osError => true
  | .limitOverrun => false

variable (dumps : Json → String) (api : GatewayApi) (relay : ConnectRelay)
  (attempts : ℕ → Attempt) (tunnelFails : Bool) (clock : ℚ) (stream : Bytes)

/-- The body of the `try` statement in `GatewayApi.handle`. -/
def GatewayApi.answer : Except Fault Response := do
  let request ← readRequest library stream
  (api.responseFor library request.method request.target request.body clock).mapError .raised

def GatewayApi.handle : Handled :=
  match api.answer library clock stream with
  | .ok response => ⟨[.write (response.text dumps), .closeClient], none⟩
  | .error fault =>
      if GatewayApi.catches fault then ⟨[.write (badRequest.text dumps), .closeClient], none⟩
      else ⟨[], some fault⟩

/-- The body of the `try` statement in `ConnectRelay.handle`: what it does, its exception, and
whether there is a tunnel to an upstream proxy. -/
structure Run where
  actions : List Action
  fault : Option Fault
  tunnelled : Bool

/-- The response to a request that is not for a tunnel. -/
def Run.ofResponse : Except Raised Response → Run
  | .ok response => ⟨[.write (response.text dumps)], none, false⟩
  | .error error => ⟨[], some (.raised error), false⟩

/-- The rest of a CONNECT request whose upstream proxy has been tried; in the tunnel, only the
connections fail. -/
def Run.ofTunnel : List Action × Except Fault Unit → Run
  | (actions, .ok _) =>
      ⟨actions ++ [.write established, .tunnel], if tunnelFails then some .osError else none, true⟩
  | (actions, .error fault) => ⟨actions, some fault, false⟩

def ConnectRelay.connect (request : Request) : Run :=
  match relay.authenticated library (request.headers.lookup "proxy-authorization") clock with
  | .error error => ⟨[], some (.raised error), false⟩
  | .ok none => ⟨[.write rejection], none, false⟩
  | .ok (some _) => Run.ofTunnel tunnelFails (openUpstreamTunnel attempts 2 0)

def ConnectRelay.run : Run :=
  match readRequest library stream with
  | .error fault => ⟨[], some fault, false⟩
  | .ok request =>
      if request.method ≠ "CONNECT" then
        Run.ofResponse dumps
          (api.responseFor library request.method request.target request.body clock)
      else relay.connect library attempts tunnelFails clock request

/-- The `except` and `finally` clauses of `ConnectRelay.handle`. -/
def Run.handled (run : Run) : Handled where
  actions := run.actions ++
    (if run.fault.any ConnectRelay.catches && !run.tunnelled then [.write badGateway] else []) ++
    (if run.tunnelled then [.closeUpstream] else []) ++ [.closeClient]
  escaped := run.fault.filter fun fault => !ConnectRelay.catches fault

def ConnectRelay.handle : Handled :=
  (relay.run library dumps api attempts tunnelFails clock stream).handled

/-- The text is a response with a complete head. -/
def IsResponse (text : String) : Prop :=
  startsWith "HTTP/1.1 " text = true ∧ isIn "\r\n\r\n" text = true

end ProxyLauncher.Gateway
