import ProxyLauncher.Transport.Failover
import ProxyLauncher.Transport.Http

/-!
# The SOCKS listener

The handshake reads fields of fixed length with one `recv` each, and `recv` may return less
than it is asked for.  So a request is accepted or rejected according to how its bytes arrive:
every stream that some chunking gets accepted is rejected byte by byte.
-/

namespace ProxyLauncher.Transport

open Python

variable (library : Library) {count : Nat}

/-- `socket.inet_ntoa`; `none` is an `OSError`. -/
def inetNtoa : Bytes → Option String
  | [first, second, third, fourth] =>
      some (toString first.toNat ++ "." ++ toString second.toNat ++ "." ++
        toString third.toNat ++ "." ++ toString fourth.toNat)
  | _ => none

/-- `socket.inet_ntop(AF_INET6, data)`. -/
def inetNtop (data : Bytes) : Option String :=
  if data.length = 16 then some (library.inetNtop6 data) else none

/-- The version and the methods. -/
def readMethods (client : Stream) : Option Stream :=
  let (version, client) := recv 1 client
  if version ≠ [5] then none
  else
    let (number, client) := recv 1 client
    match number with
    | [] => none
    | number :: _ => some (recv number.toNat client).2

/-- The host of a request with the given address type. -/
def readHost (atype : UInt8) (client : Stream) : Option (String × Stream) :=
  if atype = 1 then
    let (data, client) := recv 4 client
    (inetNtoa data).map fun host => (host, client)
  else if atype = 3 then
    let (length, client) := recv 1 client
    match length with
    | [] => none
    | length :: _ =>
        let (data, client) := recv length.toNat client
        (decodeUtf8 data).map fun host => (host, client)
  else if atype = 4 then
    let (data, client) := recv 16 client
    (inetNtop library data).map fun host => (host, client)
  else none

/-- `struct.unpack(">H", client.recv(2))`. -/
def readPort (client : Stream) : Option (Nat × Stream) :=
  match recv 2 client with
  | ([high, low], client) => some (high.toNat * 256 + low.toNat, client)
  | _ => none

/-- The request after the methods. -/
def readTarget (client : Stream) : Option (String × Nat × Stream) :=
  match recv 4 client with
  | ([version, _, _, atype], client) => do
      if version ≠ 5 then none else
        let (host, client) ← readHost library atype client
        let (port, client) ← readPort client
        some (host, port, client)
  | _ => none

/-- The replies during the handshake and, unless it is rejected, the target as the client
named it and the rest of the stream. -/
structure Handshake where
  replies : Bytes
  accepted : Option (String × Nat × Stream)

def socksHandshake (client : Stream) : Handshake :=
  match readMethods client with
  | none => { replies := [], accepted := none }
  | some client => { replies := [5, 0], accepted := readTarget library client }

/-- The reply to the request, with the address that `SOCKS5_REPLY_BIND_ADDR` has. -/
def socksReply (code : UInt8) : Bytes := [5, code, 0, 1, 0, 0, 0, 0, 0, 0]

/-- `_handle_socks`. -/
def handleSocks (world : World count) (breaker : Breaker count) (client : Stream) :
    Handled count :=
  let handshake := socksHandshake library client
  match handshake.accepted with
  | none => rejected breaker handshake.replies []
  | some (host, port, rest) =>
      let host := Routing.normalizeHost library.characters host
      if Routing.hostBypassesProxy library.characters world.noProxy host then
        match world.direct host port with
        | none => rejected breaker (handshake.replies ++ socksReply 3) []
        | some answers =>
            { replies := handshake.replies ++ socksReply 0
              relay := some { target := .direct host port, opening := [], surplus := [],
                              client := rest, answers }
              breaker, events := [] }
      else
        let tunnel := openUpstreamTunnel library world.upstreams world.network breaker host port
          none
        match tunnel.stream with
        | none => rejected tunnel.breaker (handshake.replies ++ socksReply 3) tunnel.events
        | some (index, answers) =>
            { replies := handshake.replies ++ socksReply 0
              relay := some
                { target := .upstream index
                  opening := ((connectRequestWithAuth library host port
                    (world.upstreams index).token none).toOption).getD []
                  surplus := [], client := rest, answers }
              breaker := tunnel.breaker, events := tunnel.events }

/-- The decision of the handshake: the replies, the target and the bytes left for the relay. -/
def Handshake.decision (handshake : Handshake) : Bytes × Option (String × Nat × Bytes) :=
  (handshake.replies, handshake.accepted.map fun found =>
    (found.1, found.2.1, found.2.2.flatten))

/-- The bytes of a host, without its length. -/
def IsHost (atype : UInt8) (data : List Bytes) (host : String) : Prop :=
  (atype = 1 ∧ ∃ address, data = [address] ∧ inetNtoa address = some host) ∨
    (atype = 3 ∧ ∃ length name, data = [[length], name] ∧ name.length ≤ length.toNat ∧
      (name = [] → length = 0) ∧ decodeUtf8 name = some host) ∨
    (atype = 4 ∧ ∃ address, data = [address] ∧ inetNtop library address = some host)

/-- The fields of a request that some chunking can make of the stream: a receive may return
some of the announced methods and some of the announced name. -/
def Fields (bytes : Bytes) (host : String) (port : Nat) (rest : Bytes) : Prop :=
  ∃ (number : UInt8) (methods : Bytes) (first second atype : UInt8) (name : List Bytes)
    (high low : UInt8),
    bytes = 5 :: number :: methods ++ ([5, first, second, atype] ++ (name.flatten ++
      ([high, low] ++ rest))) ∧
    methods.length ≤ number.toNat ∧ (methods = [] → number = 0) ∧
    IsHost library atype name host ∧ port = high.toNat * 256 + low.toNat

/-- Some chunking gets the stream accepted. -/
def Acceptable (bytes : Bytes) : Prop :=
  ∃ host port rest, Fields library bytes host port rest

variable {library} {limit : Nat} {client : Stream} {host : String} {port : Nat}

/-- One receive takes a part of the stream. -/
theorem exists_of_recv (chunked : client.Chunked) (limit : Nat) :
    ∃ data rest, recv limit client = (data, rest) ∧ data ++ rest.flatten = client.flatten ∧
      data.length ≤ limit ∧ rest.Chunked ∧ (data = [] → client ≠ [] → limit = 0) := by
  refine ⟨_, _, rfl, recv_append limit client, recv_length_le limit client,
    recv_chunked chunked limit, fun none nonempty => ?_⟩
  by_contra positive
  exact nonempty ((recv_eq_nil_iff chunked (by omega)).mp none)

theorem readMethods_eq_some {rest : Stream} (chunked : client.Chunked)
    (read : readMethods client = some rest) :
    ∃ (number : UInt8) (methods : Bytes),
      client.flatten = 5 :: number :: methods ++ rest.flatten ∧ methods.length ≤ number.toNat ∧
        (methods = [] → rest ≠ [] → number = 0) ∧ rest.Chunked := by
  obtain ⟨version, one, received, whole, -, chunked, -⟩ := exists_of_recv chunked 1
  simp only [readMethods, received] at read
  split at read
  · cases read
  · rename_i five
    obtain rfl := not_not.mp five
    obtain ⟨number, two, received', whole', short, chunked', -⟩ := exists_of_recv chunked 1
    simp only [received'] at read
    cases number with
    | nil => cases read
    | cons number others =>
        obtain rfl : others = [] := List.eq_nil_of_length_eq_zero (by simpa using short)
        obtain ⟨methods, three, received'', whole'', few, chunked'', all⟩ :=
          exists_of_recv chunked' number.toNat
        simp only [received''] at read
        obtain rfl := Option.some.inj read
        refine ⟨number, methods, ?_, few, ?_, chunked''⟩
        · rw [← whole, ← whole', ← whole'']
          simp
        · rintro rfl left
          have nonempty : two ≠ [] := by
            rintro rfl
            exact left ((flatten_eq_nil_iff chunked'').mp (by simpa using whole''))
          exact UInt8.toNat_inj.mp (all rfl nonempty)

theorem readHost_eq_some {atype : UInt8} {rest : Stream} (chunked : client.Chunked)
    (read : readHost library atype client = some (host, rest)) (left : rest ≠ []) :
    ∃ data, IsHost library atype data host ∧ client.flatten = data.flatten ++ rest.flatten ∧
      rest.Chunked := by
  unfold readHost at read
  split at read
  · rename_i atype1
    obtain ⟨address, one, received, whole, -, chunked, -⟩ := exists_of_recv chunked 4
    simp only [received] at read
    obtain ⟨host, text, same⟩ := Option.map_eq_some_iff.mp read
    obtain ⟨rfl, rfl⟩ := Prod.mk.inj same
    exact ⟨[address], .inl ⟨atype1, address, rfl, text⟩, by simp [whole], chunked⟩
  · split at read
    · rename_i atype3
      obtain ⟨length, one, received, whole, short, chunked, -⟩ := exists_of_recv chunked 1
      simp only [received] at read
      cases length with
      | nil => cases read
      | cons length others =>
          obtain rfl : others = [] := List.eq_nil_of_length_eq_zero (by simpa using short)
          obtain ⟨name, two, received', whole', few, chunked', all⟩ :=
            exists_of_recv chunked length.toNat
          simp only [received'] at read
          obtain ⟨host, text, same⟩ := Option.map_eq_some_iff.mp read
          obtain ⟨rfl, rfl⟩ := Prod.mk.inj same
          have nonempty : one ≠ [] := by
            rintro rfl
            exact left ((flatten_eq_nil_iff chunked').mp
              (List.append_eq_nil_iff.mp (whole'.trans List.flatten_nil)).2)
          refine ⟨[[length], name], .inr (.inl ⟨atype3, length, name, rfl, few, ?_, text⟩), ?_,
            chunked'⟩
          · exact fun none => UInt8.toNat_inj.mp (all none nonempty)
          · rw [← whole, ← whole']
            simp
    · split at read
      · rename_i atype4
        obtain ⟨address, one, received, whole, -, chunked, -⟩ := exists_of_recv chunked 16
        simp only [received] at read
        obtain ⟨host, text, same⟩ := Option.map_eq_some_iff.mp read
        obtain ⟨rfl, rfl⟩ := Prod.mk.inj same
        exact ⟨[address], .inr (.inr ⟨atype4, address, rfl, text⟩), by simp [whole], chunked⟩
      · cases read

theorem readPort_eq_some {rest : Stream} (chunked : client.Chunked)
    (read : readPort client = some (port, rest)) :
    ∃ high low : UInt8, client.flatten = [high, low] ++ rest.flatten ∧
      port = high.toNat * 256 + low.toNat ∧ rest.Chunked := by
  obtain ⟨data, one, received, whole, -, chunked', -⟩ := exists_of_recv chunked 2
  rw [readPort, received] at read
  split at read
  · rename_i high low left same
    obtain ⟨rfl, rfl⟩ := Prod.mk.inj same
    obtain ⟨rfl, rfl⟩ := Prod.mk.inj (Option.some.inj read)
    exact ⟨high, low, whole.symm, rfl, chunked'⟩
  · cases read

theorem readTarget_eq_some {rest : Stream} (chunked : client.Chunked)
    (read : readTarget library client = some (host, port, rest)) :
    ∃ (first second atype : UInt8) (name : List Bytes) (high low : UInt8),
      client.flatten = [5, first, second, atype] ++ (name.flatten ++
        ([high, low] ++ rest.flatten)) ∧
      IsHost library atype name host ∧ port = high.toNat * 256 + low.toNat ∧ rest.Chunked := by
  obtain ⟨data, one, received, whole, -, chunked, -⟩ := exists_of_recv chunked 4
  rw [readTarget, received] at read
  split at read
  · rename_i version first second atype left same
    obtain ⟨rfl, rfl⟩ := Prod.mk.inj same
    split at read
    · cases read
    · rename_i five
      obtain rfl := not_not.mp five
      obtain ⟨⟨host', two⟩, readsHost, read⟩ := Option.bind_eq_some_iff.mp read
      obtain ⟨⟨port', three⟩, readsPort, read⟩ := Option.bind_eq_some_iff.mp read
      obtain ⟨rfl, rfl, rfl⟩ : host' = host ∧ port' = port ∧ three = rest := by
        simpa using read
      have nonempty : two ≠ [] := by
        rintro rfl
        cases readsPort
      obtain ⟨name, isHost, whole', chunked'⟩ := readHost_eq_some chunked readsHost nonempty
      obtain ⟨high, low, whole'', value, left⟩ := readPort_eq_some chunked' readsPort
      refine ⟨first, second, atype, name, high, low, ?_, isHost, value, left⟩
      rw [← whole, whole', whole'']
  · cases read

/-- What is accepted has the fields of a request. -/
theorem fields_of_accepted {rest : Stream} (chunked : client.Chunked)
    (accepted : (socksHandshake library client).accepted = some (host, port, rest)) :
    Fields library client.flatten host port rest.flatten ∧ rest.Chunked := by
  unfold socksHandshake at accepted
  split at accepted
  · cases accepted
  · rename_i one read
    obtain ⟨number, methods, whole, few, all, chunked'⟩ := readMethods_eq_some chunked read
    obtain ⟨first, second, atype, name, high, low, whole', isHost, value, left⟩ :=
      readTarget_eq_some chunked' accepted
    refine ⟨⟨number, methods, first, second, atype, name, high, low, ?_, few, ?_, isHost, value⟩,
      left⟩
    · rw [whole, whole']
    · refine fun none => all none ?_
      rintro rfl
      cases accepted

/-- The chunks of some fields, without the empty ones. -/
def chunks (fields : List Bytes) : Stream := fields.filter fun field => field ≠ []

theorem chunks_chunked (fields : List Bytes) : (chunks fields).Chunked := by
  intro chunk member
  simpa using (List.mem_filter.mp member).2

theorem flatten_chunks (fields : List Bytes) : (chunks fields).flatten = fields.flatten := by
  induction fields with
  | nil => rfl
  | cons field fields ih =>
      rw [chunks] at ih ⊢
      by_cases empty : field = []
      · simpa [empty] using ih
      · simpa [empty] using ih

/-- A field is received as a whole. -/
theorem recv_chunks {field : Bytes} (fields : List Bytes) (fits : field.length ≤ limit)
    (all : field = [] → limit = 0) :
    recv limit (chunks (field :: fields)) = (field, chunks fields) := by
  by_cases empty : field = []
  · obtain rfl := empty
    obtain rfl := all rfl
    have same : chunks ([] :: fields) = chunks fields := rfl
    rw [same]
    cases shape : chunks fields with
    | nil => rfl
    | cons chunk rest =>
        have nonempty : chunk ≠ [] := chunks_chunked fields chunk (by simp [shape])
        rw [recv, if_neg]
        · rfl
        · simpa using nonempty
  · have same : chunks (field :: fields) = field :: chunks fields := by simp [chunks, empty]
    rw [same, recv, if_pos fits]

theorem readHost_chunks {atype : UInt8} {name : List Bytes}
    (isHost : IsHost library atype name host) (fields : List Bytes) :
    readHost library atype (chunks (name ++ fields)) = some (host, chunks fields) := by
  rcases isHost with ⟨rfl, address, rfl, text⟩ | ⟨rfl, length, data, rfl, few, all, text⟩ |
    ⟨rfl, address, rfl, text⟩
  · have four : address.length = 4 := by
      unfold inetNtoa at text
      split at text
      · rfl
      · cases text
    have received := @recv_chunks 4 address fields four.le
      (fun none => by simp [none] at four)
    simp [readHost, received, text]
  · have received := @recv_chunks 1 [length] (data :: fields) (by simp) (by simp)
    have received' := @recv_chunks length.toNat data fields few
      (fun none => by simp [all none])
    simp [readHost, received, received', text]
  · have sixteen : address.length = 16 := by
      unfold inetNtop at text
      split at text
      · assumption
      · cases text
    have received := @recv_chunks 16 address fields sixteen.le
      (fun none => by simp [none] at sixteen)
    simp [readHost, received, text]

/-- The chunking that cuts at the fields gets the request accepted. -/
theorem exists_accepted {bytes rest : Bytes} (fields : Fields library bytes host port rest) :
    ∃ client : Stream, client.Chunked ∧ client.flatten = bytes ∧
      ∃ left, (socksHandshake library client).accepted = some (host, port, left) := by
  obtain ⟨number, methods, first, second, atype, name, high, low, rfl, few, all, isHost, rfl⟩ :=
    fields
  refine ⟨chunks ([[5], [number], methods, [5, first, second, atype]] ++ (name ++
    [[high, low], rest])), chunks_chunked _, ?_, chunks [rest], ?_⟩
  · rw [flatten_chunks]
    simp
  · have received := @recv_chunks 1 [5]
      ([[number], methods, [5, first, second, atype]] ++ (name ++ [[high, low], rest]))
      (by simp) (by simp)
    have received' := @recv_chunks 1 [number]
      ([methods, [5, first, second, atype]] ++ (name ++ [[high, low], rest])) (by simp) (by simp)
    have received'' := @recv_chunks number.toNat methods
      ([[5, first, second, atype]] ++ (name ++ [[high, low], rest])) few
      (fun none => by simp [all none])
    have request := @recv_chunks 4 [5, first, second, atype] (name ++ [[high, low], rest])
      (by simp) (by simp)
    have received''' := @recv_chunks 2 [high, low] [rest] (by simp) (by simp)
    have target := readHost_chunks isHost [[high, low], rest]
    simp only [List.cons_append, List.nil_append] at received received' received'' request ⊢
    simp [socksHandshake, readMethods, received, received', received'', readTarget, request,
      target, readPort, received''']

/-- Every byte comes alone. -/
def bytewise (bytes : Bytes) : Stream := bytes.map fun byte => [byte]

theorem bytewise_chunked (bytes : Bytes) : (bytewise bytes).Chunked := by
  intro chunk member
  obtain ⟨byte, -, rfl⟩ := List.mem_map.mp member
  simp

theorem flatten_bytewise (bytes : Bytes) : (bytewise bytes).flatten = bytes := by
  induction bytes with
  | nil => rfl
  | cons byte rest ih => simpa [bytewise] using ih

/-- At most one byte is received. -/
theorem recv_bytewise (limit : Nat) (bytes : Bytes) :
    ∃ data rest, recv limit (bytewise bytes) = (data, bytewise rest) ∧ data.length ≤ 1 := by
  cases bytes with
  | nil => exact ⟨[], [], rfl, by simp⟩
  | cons byte rest =>
      cases limit with
      | zero => exact ⟨[], byte :: rest, rfl, by simp⟩
      | succ limit => exact ⟨[byte], rest, by simp [bytewise, recv], by simp⟩

theorem readMethods_bytewise {bytes : Bytes} {rest : Stream}
    (read : readMethods (bytewise bytes) = some rest) : ∃ left, rest = bytewise left := by
  obtain ⟨version, one, received, -⟩ := recv_bytewise 1 bytes
  obtain ⟨number, two, received', -⟩ := recv_bytewise 1 one
  simp only [readMethods, received, received'] at read
  split at read
  · cases read
  · cases number with
    | nil => cases read
    | cons number others =>
        obtain ⟨methods, three, received'', -⟩ := recv_bytewise number.toNat two
        simp only [received''] at read
        exact ⟨three, (Option.some.inj read).symm⟩

/-- The four bytes that start a request never come at once. -/
theorem rejected_bytewise (library : Library) (bytes : Bytes) :
    (socksHandshake library (bytewise bytes)).accepted = none := by
  unfold socksHandshake
  split
  · rfl
  · rename_i rest read
    obtain ⟨left, rfl⟩ := readMethods_bytewise read
    obtain ⟨data, more, received, short⟩ := recv_bytewise 4 left
    dsimp only
    rw [readTarget, received]
    split
    · rename_i same
      obtain ⟨rfl, -⟩ := Prod.mk.inj same
      exact absurd short (by simp)
    · rfl

theorem recv_one {byte : UInt8} {rest : Bytes} (chunked : client.Chunked)
    (whole : client.flatten = byte :: rest) :
    ∃ left, recv 1 client = ([byte], left) ∧ left.flatten = rest ∧ left.Chunked := by
  obtain ⟨data, left, received, split, short, chunked', all⟩ := exists_of_recv chunked 1
  have nonempty : client ≠ [] := by
    rintro rfl
    cases whole
  cases data with
  | nil => exact absurd (all rfl nonempty) (by simp)
  | cons head others =>
      obtain rfl : others = [] := List.eq_nil_of_length_eq_zero (by simpa using short)
      rw [whole] at split
      obtain ⟨rfl, rfl⟩ := List.cons.inj split
      exact ⟨left, received, rfl, chunked'⟩

/-- The method is chosen when the first two bytes have come, whatever their chunks. -/
theorem readMethods_isSome_iff (chunked : client.Chunked) :
    (readMethods client).isSome = true ↔
      ∃ (number : UInt8) (rest : Bytes), client.flatten = 5 :: number :: rest := by
  constructor
  · intro read
    obtain ⟨rest, read⟩ := Option.isSome_iff_exists.mp read
    obtain ⟨number, methods, whole, -⟩ := readMethods_eq_some chunked read
    exact ⟨number, methods ++ rest.flatten, by simpa using whole⟩
  · rintro ⟨number, rest, whole⟩
    obtain ⟨one, received, whole', chunked'⟩ := recv_one chunked whole
    obtain ⟨two, received', -⟩ := recv_one chunked' whole'
    simp [readMethods, received, received']

theorem replies_eq {client' : Stream} (chunked : client.Chunked) (chunked' : client'.Chunked)
    (same : client.flatten = client'.flatten) :
    (socksHandshake library client).replies = (socksHandshake library client').replies := by
  have together : (readMethods client).isSome = (readMethods client').isSome := by
    rw [Bool.eq_iff_iff, readMethods_isSome_iff chunked, readMethods_isSome_iff chunked', same]
  unfold socksHandshake
  cases first : readMethods client with
  | none =>
      cases second : readMethods client' with
      | none => rfl
      | some rest' => simp [first, second] at together
  | some rest =>
      cases second : readMethods client' with
      | none => simp [first, second] at together
      | some rest' => rfl

/-- All chunkings of a stream lead to the same decision exactly when none of them gets a
request accepted. -/
theorem handshake_invariant_iff (library : Library) (bytes : Bytes) :
    (∀ client client' : Stream, client.Chunked → client'.Chunked → client.flatten = bytes →
      client'.flatten = bytes →
      (socksHandshake library client).decision = (socksHandshake library client').decision) ↔
      ¬ Acceptable library bytes := by
  constructor
  · rintro invariant ⟨host, port, rest, fields⟩
    obtain ⟨client, chunked, whole, left, accepted⟩ := exists_accepted fields
    have same := congrArg Prod.snd (invariant client (bytewise bytes) chunked
      (bytewise_chunked bytes) whole (flatten_bytewise bytes))
    simp [Handshake.decision, accepted, rejected_bytewise] at same
  · intro never client client' chunked chunked' whole whole'
    have rejected {client : Stream} (chunked : client.Chunked) (whole : client.flatten = bytes) :
        (socksHandshake library client).accepted = none := by
      cases found : (socksHandshake library client).accepted with
      | none => rfl
      | some target =>
          obtain ⟨host, port, rest⟩ := target
          exact absurd ⟨host, port, rest.flatten, whole ▸ (fields_of_accepted chunked found).1⟩ never
    rw [Handshake.decision, Handshake.decision, rejected chunked whole, rejected chunked' whole',
      replies_eq chunked chunked' (whole.trans whole'.symm)]

def greeting : Bytes := [5, 1, 0]

/-- A request for port 80 of 127.0.0.1. -/
def sampleRequest : Bytes := [5, 1, 0, 1, 127, 0, 0, 1, 0, 80]

/-- The request is accepted when it comes in one piece and rejected when its first two bytes
come alone. -/
theorem handshake_depends_on_chunks :
    (socksHandshake sampleLibrary [greeting, sampleRequest]).decision =
        ([5, 0], some ("127.0.0.1", 80, [])) ∧
      (socksHandshake sampleLibrary
        [greeting, sampleRequest.take 2, sampleRequest.drop 2]).decision = ([5, 0], none) := by
  constructor
  · have host : inetNtoa [127, 0, 0, 1] = some "127.0.0.1" := by decide
    simp [socksHandshake, readMethods, readTarget, readHost, readPort, recv, greeting,
      sampleRequest, host, Handshake.decision]
  · simp [socksHandshake, readMethods, readTarget, recv, greeting, sampleRequest,
      Handshake.decision]

end ProxyLauncher.Transport
