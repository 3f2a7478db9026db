import Mathlib.Data.List.Infix

/-!
# First records and the relay

`first_tls_record`, `verify_ipv6_tls_first_record` and `copy_and_record_traffic` of the engine.
What a peer sends arrives in chunks, and the deadline for a first record separates the chunks
that arrive in time from the later ones.
-/

namespace ProxyLauncher.Engine

abbrev Bytes := List UInt8

/-- A connection: the chunks that can be read before the deadline for a first record and those
that can be read afterwards, and the number of bytes that it takes before a write fails. -/
structure Socket where
  inTime : List Bytes
  later : List Bytes
  room : Option ℕ := none

/-- The bytes that the peer sends. -/
def Socket.sent (socket : Socket) : Bytes := socket.inTime.flatten ++ socket.later.flatten

/-- Whether `write_all` gets all the bytes through. -/
def takes (room : Option ℕ) (data : Bytes) : Bool := room.all fun room => data.length ≤ room

/-- The bytes that `write_all` gets through. -/
def accepted (room : Option ℕ) (data : Bytes) : Bytes :=
  match room with
  | none => data
  | some room => data.take room

/-- The room that is left. -/
def roomAfter (room : Option ℕ) (data : Bytes) : Option ℕ := room.map (· - data.length)

/-- `read_exact`: the bytes and the chunks that are left. -/
def readExact : ℕ → List Bytes → Option (Bytes × List Bytes)
  | 0, chunks => some ([], chunks)
  | _ + 1, [] => none
  | count + 1, chunk :: chunks =>
      if chunk.length ≤ count then
        (readExact (count + 1 - chunk.length) chunks).map fun found => (chunk ++ found.1, found.2)
      else some (chunk.take (count + 1), chunk.drop (count + 1) :: chunks)

/-- The length that the header of a bounded handshake record names. -/
def recordLength : Bytes → Option ℕ
  | [kind, major, minor, high, low] =>
      let length := high.toNat * 256 + low.toNat
      if kind = 0x16 ∧ major = 0x03 ∧ minor ≤ 0x04 ∧ 1 ≤ length ∧ length ≤ 16384 then some length
      else none
  | _ => none

/-- `first_tls_record`, of the chunks that arrive in time. -/
def firstTlsRecord (chunks : List Bytes) : Option (Bytes × List Bytes) := do
  let (header, chunks) ← readExact 5 chunks
  let length ← recordLength header
  let (body, chunks) ← readExact length chunks
  pure (header ++ body, chunks)

/-- `verify_ipv6_tls_first_record`. -/
def verifyIpv6TlsFirstRecord (server : Socket) (hello : Bytes) : Option (Bytes × List Bytes) :=
  if takes server.room hello then firstTlsRecord server.inTime else none

theorem readExact_flatten {count : ℕ} {chunks rest : List Bytes} {bytes : Bytes}
    (read : readExact count chunks = some (bytes, rest)) :
    bytes ++ rest.flatten = chunks.flatten := by
  induction chunks generalizing count bytes with
  | nil =>
      cases count with
      | zero =>
          obtain ⟨rfl, rfl⟩ := Prod.mk.inj (Option.some.inj read)
          rfl
      | succ count => cases read
  | cons chunk chunks ih =>
      cases count with
      | zero =>
          obtain ⟨rfl, rfl⟩ := Prod.mk.inj (Option.some.inj read)
          rfl
      | succ count =>
          rw [readExact] at read
          split at read
          · obtain ⟨found, more, same⟩ := Option.map_eq_some_iff.mp read
            obtain ⟨rfl, rfl⟩ := Prod.mk.inj same
            rw [List.append_assoc, ih more, List.flatten_cons]
          · obtain ⟨rfl, rfl⟩ := Prod.mk.inj (Option.some.inj read)
            rw [List.flatten_cons, ← List.append_assoc, List.take_append_drop, List.flatten_cons]

theorem firstTlsRecord_flatten {chunks rest : List Bytes} {record : Bytes}
    (read : firstTlsRecord chunks = some (record, rest)) :
    record ++ rest.flatten = chunks.flatten := by
  simp only [firstTlsRecord, Option.bind_eq_bind, Option.bind_eq_some_iff, Option.pure_def,
    Option.some.injEq, Prod.mk.injEq] at read
  obtain ⟨⟨header, middle⟩, first, length, -, ⟨body, left⟩, second, rfl, rfl⟩ := read
  rw [List.append_assoc, readExact_flatten second, readExact_flatten first]

/-- `copy_and_record_traffic` in one direction: the bytes that its reader has still to get, the
room of its writer, the bytes that it has counted and those that have been written. -/
structure Half where
  left : Bytes
  room : Option ℕ
  total : ℕ := 0
  written : Bytes := []
  stopped : Bool := false

/-- One turn of its loop with a buffer of some size: what it has then, and whether this was the
first payload. -/
def Half.copy (half : Half) (size : ℕ) : Half × Bool :=
  let chunk := half.left.take size
  if half.stopped = true ∨ chunk = [] then (half, false)
  else
    let total := half.total + chunk.length
    let copied : Half :=
      { left := half.left.drop size
        room := roomAfter half.room chunk
        total
        written := half.written ++ accepted half.room chunk
        stopped := !takes half.room chunk }
    (copied, takes half.room chunk && total == chunk.length)

inductive Direction where
  | sending
  | receiving
deriving DecidableEq

/-- Both directions of a session: to the server and to the client. -/
structure Relay where
  sending : Half
  receiving : Half

def Relay.half (relay : Relay) : Direction → Half
  | .sending => relay.sending
  | .receiving => relay.receiving

def Relay.step (relay : Relay) (direction : Direction) (size : ℕ) : Relay × List Direction :=
  match direction with
  | .sending =>
      let turn := relay.sending.copy size
      ({ relay with sending := turn.1 }, if turn.2 then [.sending] else [])
  | .receiving =>
      let turn := relay.receiving.copy size
      ({ relay with receiving := turn.1 }, if turn.2 then [.receiving] else [])

/-- Any interleaving of turns: what the relay has then, and the directions in the order of their
first payloads. -/
def Relay.run (relay : Relay) : List (Direction × ℕ) → Relay × List Direction
  | [] => (relay, [])
  | (direction, size) :: turns =>
      let turn := relay.step direction size
      let rest := turn.1.run turns
      (rest.1, turn.2 ++ rest.2)

/-- The relay of a session in which nothing has been read yet. -/
def Relay.between (client server : Socket) : Relay where
  sending := { left := client.sent, room := server.room }
  receiving := { left := server.sent, room := client.room }

/-- What has been written comes from the start of the source, and nothing is missing unless a
write has failed. -/
structure Half.Intact (half : Half) (source : Bytes) : Prop where
  written : half.written <+: source
  whole : half.stopped = false → half.written ++ half.left = source

theorem accepted_isPrefix (room : Option ℕ) (data : Bytes) : accepted room data <+: data := by
  cases room with
  | none => exact List.prefix_refl data
  | some room => exact List.take_prefix room data

theorem accepted_of_takes {room : Option ℕ} {data : Bytes} (fits : takes room data = true) :
    accepted room data = data := by
  cases room with
  | none => rfl
  | some room => exact List.take_of_length_le (by simpa [takes] using fits)

theorem Half.Intact.copy {half : Half} {source : Bytes} (intact : half.Intact source) (size : ℕ) :
    (half.copy size).1.Intact source := by
  unfold Half.copy
  dsimp only
  split_ifs with idle
  · exact intact
  · rw [not_or, Bool.not_eq_true] at idle
    have whole := intact.whole idle.1
    have source_eq : half.written ++ half.left.take size ++ half.left.drop size = source := by
      rw [List.append_assoc, List.take_append_drop, whole]
    constructor
    · have wrote : half.written ++ accepted half.room (half.left.take size) <+:
          half.written ++ half.left.take size :=
        (List.prefix_append_right_inj _).mpr (accepted_isPrefix _ _)
      exact wrote.trans ⟨_, source_eq⟩
    · intro going
      rw [Bool.not_eq_false'] at going
      rw [accepted_of_takes going]
      exact source_eq

theorem Relay.intact_run {relay : Relay} {source answers : Bytes}
    (sending : relay.sending.Intact source) (receiving : relay.receiving.Intact answers)
    (turns : List (Direction × ℕ)) :
    (relay.run turns).1.sending.Intact source ∧ (relay.run turns).1.receiving.Intact answers := by
  induction turns generalizing relay with
  | nil => exact ⟨sending, receiving⟩
  | cons turn turns ih =>
      obtain ⟨direction, size⟩ := turn
      cases direction with
      | sending =>
          apply ih
          · exact sending.copy size
          · exact receiving
      | receiving =>
          apply ih
          · exact sending
          · exact receiving.copy size

/-- The first turn that reads something gets it through. -/
def Half.carries (half : Half) (sizes : List ℕ) : Bool :=
  match sizes.find? (0 < ·) with
  | none => false
  | some size => half.left ≠ [] && takes half.room (half.left.take size)

/-- The sizes of the turns in one direction. -/
def sizesOf (direction : Direction) (turns : List (Direction × ℕ)) : List ℕ :=
  (turns.filter fun turn => turn.1 = direction).map Prod.snd

variable {half : Half} {relay : Relay} {direction other : Direction} {size : ℕ}

theorem Half.carries_nil (empty : half.left = []) (sizes : List ℕ) : half.carries sizes = false := by
  unfold Half.carries
  split
  · rfl
  · simp [empty]

@[simp] theorem Half.carries_zero (sizes : List ℕ) :
    half.carries (0 :: sizes) = half.carries sizes := by
  simp [Half.carries]

@[simp] theorem Half.carries_succ (size : ℕ) (sizes : List ℕ) :
    half.carries ((size + 1) :: sizes) =
      (half.left ≠ [] && takes half.room (half.left.take (size + 1))) := by
  simp [Half.carries]

/-- A direction that has stopped or has counted a payload reports no first one. -/
def Half.Silent (half : Half) : Prop := half.stopped = true ∨ 0 < half.total

theorem Half.Silent.copy (silent : half.Silent) (size : ℕ) :
    (half.copy size).1.Silent ∧ (half.copy size).2 = false := by
  unfold Half.copy
  dsimp only
  split_ifs with idle
  · exact ⟨silent, rfl⟩
  · rw [not_or, Bool.not_eq_true] at idle
    have counted : 0 < half.total := by
      rcases silent with stopped | counted
      · rw [idle.1] at stopped
        cases stopped
      · exact counted
    constructor
    · exact .inr (Nat.add_pos_left counted _)
    · simp [Nat.ne_of_gt counted]

@[simp] theorem Relay.half_step_self (size : ℕ) :
    (relay.step direction size).1.half direction = ((relay.half direction).copy size).1 := by
  cases direction <;> rfl

theorem Relay.half_step_of_ne (different : direction ≠ other) (size : ℕ) :
    (relay.step other size).1.half direction = relay.half direction := by
  cases direction with
  | sending =>
      cases other with
      | sending => exact absurd rfl different
      | receiving => rfl
  | receiving =>
      cases other with
      | sending => rfl
      | receiving => exact absurd rfl different

@[simp] theorem Relay.step_snd (size : ℕ) :
    (relay.step direction size).2 =
      if ((relay.half direction).copy size).2 then [direction] else [] := by
  cases direction <;> rfl

theorem Half.copy_of_nil (nothing : half.left.take size = []) : half.copy size = (half, false) := by
  unfold Half.copy
  simp [nothing]

theorem Half.copy_of_payload (started : half.total = 0) (going : half.stopped = false)
    (payload : half.left.take size ≠ []) :
    (half.copy size).2 = takes half.room (half.left.take size) ∧ (half.copy size).1.Silent := by
  unfold Half.copy
  dsimp only
  rw [if_neg (by simp [going, payload]), started]
  constructor
  · simp
  · right
    exact Nat.add_pos_right 0 (List.length_pos_iff.mpr payload)

theorem Relay.count_run_of_silent (silent : (relay.half direction).Silent)
    (turns : List (Direction × ℕ)) : (relay.run turns).2.count direction = 0 := by
  induction turns generalizing relay with
  | nil => rfl
  | cons turn turns ih =>
      obtain ⟨other, size⟩ := turn
      rw [Relay.run, List.count_append, Nat.add_eq_zero_iff]
      rcases eq_or_ne direction other with rfl | different
      · have quiet := silent.copy size
        rw [Relay.step_snd, quiet.2]
        refine ⟨rfl, ih ?_⟩
        rw [Relay.half_step_self]
        exact quiet.1
      · constructor
        · rw [Relay.step_snd]
          split
          · exact List.count_singleton.trans (if_neg (by simpa using different.symm))
          · rfl
        · apply ih
          rw [Relay.half_step_of_ne different]
          exact silent

/-- A direction that starts the relay reports one first payload, when it carries any. -/
theorem Relay.count_run (started : (relay.half direction).total = 0)
    (going : (relay.half direction).stopped = false) (turns : List (Direction × ℕ)) :
    (relay.run turns).2.count direction =
      if (relay.half direction).carries (sizesOf direction turns) then 1 else 0 := by
  induction turns generalizing relay with
  | nil => rfl
  | cons turn turns ih =>
      obtain ⟨other, size⟩ := turn
      rw [Relay.run, List.count_append]
      rcases eq_or_ne direction other with rfl | different
      · have sizes : sizesOf direction ((direction, size) :: turns) =
            size :: sizesOf direction turns := by
          simp [sizesOf]
        have self := @Relay.half_step_self relay direction size
        rw [sizes, Relay.step_snd]
        by_cases payload : (relay.half direction).left.take size = []
        · rw [Half.copy_of_nil payload] at self ⊢
          have none : (relay.half direction).carries (size :: sizesOf direction turns) =
              (relay.half direction).carries (sizesOf direction turns) := by
            cases size with
            | zero => exact Half.carries_zero _
            | succ size =>
                have empty : (relay.half direction).left = [] := by simpa using payload
                rw [Half.carries_nil empty, Half.carries_nil empty]
          rw [ih (by rw [self, started]) (by rw [self, going]), self, none]
          simp
        · obtain ⟨first, silent⟩ := Half.copy_of_payload started going payload
          rw [← self] at silent
          rw [Relay.count_run_of_silent silent, first]
          cases size with
          | zero => exact absurd rfl payload
          | succ size =>
              have some : (relay.half direction).left ≠ [] := by
                intro empty
                exact payload (by rw [empty, List.take_nil])
              simp only [Half.carries_succ, some, ne_eq, not_false_eq_true, decide_true,
                Bool.true_and]
              split <;> simp
      · have sizes : sizesOf direction ((other, size) :: turns) = sizesOf direction turns := by
          simp [sizesOf, different.symm]
        have kept := @Relay.half_step_of_ne relay direction other different size
        rw [sizes, ih (by rw [kept, started]) (by rw [kept, going]), kept, Relay.step_snd]
        split
        · simp [different.symm]
        · simp

/-- The connections that a session can go on with. -/
inductive Route where
  | proxy
  | physical
  | cellular
deriving DecidableEq

/-- The server whose first record is verified, its record and the chunks that are left. -/
def firstAnswer (physical : Socket) (cellular : Option Socket) (hello : Bytes) :
    Option (Route × Socket × Bytes × List Bytes) :=
  match verifyIpv6TlsFirstRecord physical hello with
  | some (record, rest) => some (.physical, physical, record, rest)
  | none => do
      let cellular ← cellular
      let (record, rest) ← verifyIpv6TlsFirstRecord cellular hello
      pure (.cellular, cellular, record, rest)

/-- The handshake of an IPv6 session: the relay that follows it, or what the client has received
when it fails. -/
def exchangeFirstRecords (client physical : Socket) (cellular : Option Socket) :
    Except Bytes (Route × Relay) :=
  match firstTlsRecord client.inTime with
  | none => .error []
  | some (hello, unread) =>
      match firstAnswer physical cellular hello with
      | none => .error []
      | some (route, server, record, unanswered) =>
          if takes client.room record then
            .ok (route,
              { sending :=
                  { left := unread.flatten ++ client.later.flatten
                    room := roomAfter server.room hello
                    written := hello }
                receiving :=
                  { left := unanswered.flatten ++ server.later.flatten
                    room := roomAfter client.room record
                    written := record } })
          else .error (accepted client.room record)

/-- The socket of a route of the exchange. -/
def Route.IsServer (route : Route) (physical : Socket) (cellular : Option Socket)
    (server : Socket) : Prop :=
  route = .physical ∧ server = physical ∨ route = .cellular ∧ cellular = some server

variable {client physical server : Socket} {cellular : Option Socket} {hello record : Bytes}
  {route : Route} {rest : List Bytes}

theorem firstAnswer_spec (found : firstAnswer physical cellular hello =
      some (route, server, record, rest)) :
    route.IsServer physical cellular server ∧
      verifyIpv6TlsFirstRecord server hello = some (record, rest) := by
  unfold firstAnswer at found
  split at found
  · rename_i verified
    obtain ⟨rfl, rfl, rfl, rfl⟩ := by simpa using found
    exact ⟨.inl ⟨rfl, rfl⟩, verified⟩
  · simp only [Option.bind_eq_bind, Option.bind_eq_some_iff, Option.pure_def, Option.some.injEq,
      Prod.mk.injEq] at found
    obtain ⟨socket, connected, ⟨_, _⟩, verified, rfl, rfl, rfl, rfl⟩ := found
    exact ⟨.inr ⟨rfl, connected⟩, verified⟩

theorem verified_intact (verified : verifyIpv6TlsFirstRecord server hello = some (record, rest)) :
    record ++ (rest.flatten ++ server.later.flatten) = server.sent := by
  unfold verifyIpv6TlsFirstRecord at verified
  split at verified
  · rw [← List.append_assoc, firstTlsRecord_flatten verified, Socket.sent]
  · cases verified

/-- The relay that follows the exchange starts from what the two records have taken. -/
theorem exchangeFirstRecords_ok {relay : Relay}
    (exchanged : exchangeFirstRecords client physical cellular = .ok (route, relay)) :
    ∃ server, route.IsServer physical cellular server ∧ relay.sending.Intact client.sent ∧
      relay.receiving.Intact server.sent := by
  unfold exchangeFirstRecords at exchanged
  split at exchanged
  · cases exchanged
  · rename_i hello unread greeted
    split at exchanged
    · cases exchanged
    · rename_i route' server record unanswered answered
      split at exchanged
      · obtain ⟨isServer, verified⟩ := firstAnswer_spec answered
        obtain ⟨rfl, rfl⟩ := Prod.mk.inj (Except.ok.inj exchanged)
        have sent : hello ++ (unread.flatten ++ client.later.flatten) = client.sent := by
          rw [← List.append_assoc, firstTlsRecord_flatten greeted, Socket.sent]
        have answers := verified_intact verified
        exact ⟨server, isServer, ⟨⟨_, sent⟩, fun _ => sent⟩, ⟨⟨_, answers⟩, fun _ => answers⟩⟩
      · cases exchanged

/-- When the exchange fails, the client has received nothing, unless it is its own connection that
fails under the verified record. -/
theorem exchangeFirstRecords_error {toClient : Bytes}
    (exchanged : exchangeFirstRecords client physical cellular = .error toClient) :
    toClient = [] ∨ ∃ route server hello record rest, Route.IsServer route physical cellular server ∧
      verifyIpv6TlsFirstRecord server hello = some (record, rest) ∧
      takes client.room record = false ∧ toClient <+: record := by
  unfold exchangeFirstRecords at exchanged
  split at exchanged
  · exact .inl (Except.error.inj exchanged).symm
  · rename_i hello unread greeted
    split at exchanged
    · exact .inl (Except.error.inj exchanged).symm
    · rename_i route' server record unanswered answered
      split at exchanged
      · cases exchanged
      · rename_i refused
        obtain ⟨isServer, verified⟩ := firstAnswer_spec answered
        obtain rfl := Except.error.inj exchanged
        exact .inr ⟨route', server, hello, record, unanswered, isServer, verified,
          Bool.not_eq_true _ ▸ refused, accepted_isPrefix _ _⟩

theorem exchangeFirstRecords_fresh {relay : Relay} {direction : Direction}
    (exchanged : exchangeFirstRecords client physical cellular = .ok (route, relay)) :
    (relay.half direction).total = 0 ∧ (relay.half direction).stopped = false := by
  unfold exchangeFirstRecords at exchanged
  split at exchanged
  · cases exchanged
  · split at exchanged
    · cases exchanged
    · split at exchanged
      · obtain ⟨rfl, rfl⟩ := Prod.mk.inj (Except.ok.inj exchanged)
        cases direction <;> exact ⟨rfl, rfl⟩
      · cases exchanged

end ProxyLauncher.Engine
