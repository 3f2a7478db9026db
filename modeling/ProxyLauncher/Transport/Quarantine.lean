import ProxyLauncher.Transport.Chunking
import ProxyLauncher.Transport.Socks

/-!
# Which upstreams are tried

CONNECT and SOCKS requests try candidates only and mark every one they try.  A plain request
tries all upstreams in turn and marks none.
-/

namespace ProxyLauncher.Transport

open Python

variable {library : Library} {count : Nat} {index : Fin count}

inductive Listener where
  | http
  | directHttp
  | socks
  deriving DecidableEq

/-- The handler of a listener. -/
def handle (library : Library) (world : World count) (breaker : Breaker count)
    (listener : Listener) (client : Stream) : Handled count :=
  match listener with
  | .http => handleHttp library world breaker client
  | .directHttp => handleDirectHttp library world breaker client
  | .socks => handleSocks library world breaker client

/-- The marks among some events, in their order. -/
def replay (clock : Fin count → Nat) (events : List (Event count)) (breaker : Breaker count) :
    Breaker count :=
  events.foldl (fun breaker event =>
    match event with
    | .succeeded index => breaker.markUpstreamSuccess index
    | .failed index => breaker.markUpstreamFailure index (clock index)
    | _ => breaker) breaker

/-- Every upstream that was contacted had a retry time in the past, and its outcome is
recorded: a success if the relay goes to it, else a failure. -/
def Respects (breaker : Breaker count) (now : Nat) (handled : Handled count) : Prop :=
  ∀ index, .contacted index ∈ handled.events → breaker.retryAfter index ≤ now ∧
    if handled.relay.map Relay.target = some (.upstream index) then
      .succeeded index ∈ handled.events
    else .failed index ∈ handled.events

/-- The client sends a plain request for a host that does not bypass the proxy. -/
def PlainThroughUpstream (library : Library) (world : World count) (client : Stream) : Prop :=
  ∃ request rest method host port path, readRequest client = some (request, rest) ∧
    parseFirst library request.first = .plain method host port path ∧
    Routing.hostBypassesProxy library.characters world.noProxy host = false

@[simp] theorem replay_append (clock : Fin count → Nat) (events events' : List (Event count))
    (breaker : Breaker count) :
    replay clock (events ++ events') breaker =
      replay clock events' (replay clock events breaker) := by
  simp [replay]

@[simp] theorem replay_nil (clock : Fin count → Nat) (breaker : Breaker count) :
    replay clock [] breaker = breaker := rfl

@[simp] theorem replay_attempt (clock : Fin count → Nat) (index : Fin count) (peer : Peer)
    (request : Except RequestError Bytes) (breaker : Breaker count) :
    replay clock (attempt index peer request).events breaker = breaker := by
  rcases attempt_events index peer request with ⟨-, events⟩ | ⟨-, events⟩ | ⟨data, -, -, events⟩
  · rw [events]; rfl
  · rw [events]; rfl
  · rw [events]; rfl

/-- The breaker after the loop is the one that the marks among its events make. -/
theorem breaker_tryCandidates (peers : Fin count → Peer)
    (requests : Fin count → Except RequestError Bytes) (clock : Fin count → Nat)
    (candidates : List (Fin count)) (breaker : Breaker count) :
    (tryCandidates peers requests clock candidates breaker).breaker =
      replay clock (tryCandidates peers requests clock candidates breaker).events breaker := by
  induction candidates generalizing breaker with
  | nil => rfl
  | cons index rest ih =>
      rw [tryCandidates]
      dsimp only
      split
      · rw [replay_append, replay_attempt]
        rfl
      · have closed (breaker : Breaker count) :
            replay clock (.failed index :: closing index (peers index)) breaker =
              breaker.markUpstreamFailure index (clock index) := by
          unfold closing
          split <;> rfl
        rw [ih, replay_append, replay_append, replay_attempt, closed]

theorem mem_candidates_of_tunnel {upstreams : Fin count → Upstream} {network : Network count}
    {breaker : Breaker count} {host : String} {port : Int} {clientRequest : Option Bytes}
    (contacted : .contacted index ∈
      (openUpstreamTunnel library upstreams network breaker host port clientRequest).events) :
    breaker.retryAfter index ≤ network.now ∧
      if (openUpstreamTunnel library upstreams network breaker host port
          clientRequest).stream.map Prod.fst = some index then
        .succeeded index ∈
          (openUpstreamTunnel library upstreams network breaker host port clientRequest).events
      else .failed index ∈
        (openUpstreamTunnel library upstreams network breaker host port clientRequest).events := by
  have among {candidates : List (Fin count)} {requests : Fin count → Except RequestError Bytes}
      (member : .contacted index ∈ candidates.flatMap (lost network.peers requests)) :
      index ∈ candidates := by
    obtain ⟨other, other_mem, member⟩ := List.mem_flatMap.mp member
    have same : index = other := upstream_of_mem_lost member
    exact same ▸ other_mem
  have failed {candidates : List (Fin count)}
      {requests : Fin count → Except RequestError Bytes} (member : index ∈ candidates) :
      .failed index ∈ candidates.flatMap (lost network.peers requests) :=
    List.mem_flatMap.mpr ⟨index, member, by simp [lost]⟩
  have distinct := nodup_candidates breaker network.now
  unfold openUpstreamTunnel at contacted ⊢
  rcases tryCandidates_cases network.peers
      (fun index => connectRequestWithAuth library host port (upstreams index).token clientRequest)
      network.clock (breaker.candidates network.now) breaker with
    ⟨before, winner, after, response, left, split, -, -, whole⟩ | ⟨-, whole⟩
  · rw [whole] at contacted ⊢
    rw [split, List.nodup_append] at distinct
    have candidate (member : index ∈ before ++ winner :: after) :
        breaker.retryAfter index ≤ network.now := Breaker.mem_candidates.mp (split ▸ member)
    rcases List.mem_append.mp contacted with early | late
    · have member := among early
      have different : winner ≠ index := fun same =>
        distinct.2.2 index member winner (by simp) same.symm
      refine ⟨candidate (by simp [member]), ?_⟩
      rw [if_neg (by simpa using different)]
      exact List.mem_append_left _ (failed member)
    · have same : winner = index := by
        rcases List.mem_append.mp late with tried | marked
        · exact (upstream_of_mem_attempt tried).symm
        · simp at marked
      subst same
      exact ⟨candidate (by simp), by simp⟩
  · rw [whole] at contacted ⊢
    have member := among contacted
    exact ⟨Breaker.mem_candidates.mp member, by simpa using failed member⟩

/-- The loop over all upstreams marks none of them. -/
theorem tryUpstreams_unmarked (peers : Fin count → Peer) (request : Fin count → Bytes)
    (upstreams : List (Fin count)) (index : Fin count) :
    .succeeded index ∉ (tryUpstreams peers request upstreams).2 ∧
      .failed index ∉ (tryUpstreams peers request upstreams).2 := by
  induction upstreams with
  | nil => simp [tryUpstreams]
  | cons head rest ih =>
      simp only [tryUpstreams]
      split_ifs
      · exact ih
      · simpa using ih
      · simpa using ih
      · simp

theorem replay_tryUpstreams (clock : Fin count → Nat) (peers : Fin count → Peer)
    (request : Fin count → Bytes) (upstreams : List (Fin count)) (breaker : Breaker count) :
    replay clock (tryUpstreams peers request upstreams).2 breaker = breaker := by
  induction upstreams with
  | nil => rfl
  | cons head rest ih =>
      simp only [tryUpstreams]
      split_ifs
      · exact ih
      · rw [replay_append]
        exact ih
      · rw [replay_append]
        exact ih
      · rfl

/-- It contacts one of them as soon as there is a socket. -/
theorem tryUpstreams_contacted_iff (peers : Fin count → Peer) (request : Fin count → Bytes)
    (upstreams : List (Fin count)) :
    (∃ index, .contacted index ∈ (tryUpstreams peers request upstreams).2) ↔
      ∃ index ∈ upstreams, (peers index).opens = true := by
  induction upstreams with
  | nil => simp [tryUpstreams]
  | cons head rest ih =>
      simp only [tryUpstreams]
      split_ifs with closed refused dropped
      · rw [ih]
        simp [closed]
      · exact iff_of_true ⟨head, by simp⟩ ⟨head, by simp, by simpa using closed⟩
      · exact iff_of_true ⟨head, by simp⟩ ⟨head, by simp, by simpa using closed⟩
      · exact iff_of_true ⟨head, by simp⟩ ⟨head, by simp, by simpa using closed⟩

section Handlers

variable {world : World count} {breaker : Breaker count} {client : Stream} {host : String}
  {port : Int}

/-- A handler whose breaker is made by its marks, and which tries candidates only. -/
def Sound (world : World count) (breaker : Breaker count) (handled : Handled count) : Prop :=
  handled.breaker = replay world.network.clock handled.events breaker ∧
    Respects breaker world.network.now handled

theorem sound_rejected (replies : Bytes) : Sound world breaker (rejected breaker replies []) :=
  ⟨rfl, fun _ contacted => absurd contacted (by simp [rejected])⟩

theorem sound_connectDirect (failure : String) (replies opening surplus : Bytes) :
    Sound world breaker
      (connectDirect world breaker host port failure replies opening surplus client) := by
  unfold connectDirect
  split
  · exact sound_rejected _
  · exact ⟨rfl, fun _ contacted => absurd contacted (by simp)⟩

/-- What a tunnel is used for does not matter. -/
theorem sound_tunnel {clientRequest : Option Bytes} {handled : Handled count}
    (events : handled.events = (openUpstreamTunnel library world.upstreams world.network breaker
      host port clientRequest).events)
    (state : handled.breaker = (openUpstreamTunnel library world.upstreams world.network breaker
      host port clientRequest).breaker)
    (target : ∀ index, handled.relay.map Relay.target = some (.upstream index) ↔
      (openUpstreamTunnel library world.upstreams world.network breaker host port
        clientRequest).stream.map Prod.fst = some index) :
    Sound world breaker handled := by
  refine ⟨?_, fun index contacted => ?_⟩
  · rw [state, events]
    exact breaker_tryCandidates _ _ _ _ _
  · rw [events] at contacted ⊢
    simp only [target]
    exact mem_candidates_of_tunnel contacted

theorem sound_proxyConnect (header surplus : Bytes) :
    Sound world breaker
      (proxyConnect library world breaker host port header surplus client) := by
  unfold proxyConnect
  dsimp only
  split
  · rename_i none
    exact sound_tunnel rfl rfl fun index => by simp [rejected, none]
  · rename_i winner answers found
    exact sound_tunnel rfl rfl fun index => by simp [found]

theorem sound_handleSocks (client : Stream) :
    Sound world breaker (handleSocks library world breaker client) := by
  unfold handleSocks
  dsimp only
  split
  · exact sound_rejected _
  · split
    · split
      · exact sound_rejected _
      · exact ⟨rfl, fun _ contacted => absurd contacted (by simp)⟩
    · split
      · rename_i none
        exact sound_tunnel rfl rfl fun index => by simp [rejected, none]
      · rename_i winner answers found
        exact sound_tunnel rfl rfl fun index => by simp [found]

theorem sound_handleDirectHttp (client : Stream) :
    Sound world breaker (handleDirectHttp library world breaker client) := by
  unfold handleDirectHttp
  split
  · exact sound_rejected _
  · split
    · exact sound_rejected _
    · exact sound_rejected _
    · exact sound_rejected _
    · exact sound_connectDirect _ _ _ _
    · exact sound_connectDirect _ _ _ _

theorem events_proxyPlain (data : Bytes) :
    (proxyPlain world breaker data client).events =
      (tryUpstreams world.network.peers
        (fun index => proxiedRequest (world.upstreams index).token data)
        (List.finRange count)).2 := by
  unfold proxyPlain
  dsimp only
  split
  · rename_i found
    rw [found]
    rfl
  · rename_i found
    rw [found]

/-- Plain requests leave the breaker alone, so they respect it only if no socket is opened. -/
theorem proxyPlain_respects_iff (data : Bytes) :
    (proxyPlain world breaker data client).breaker =
        replay world.network.clock (proxyPlain world breaker data client).events breaker ∧
      (Respects breaker world.network.now (proxyPlain world breaker data client) ↔
        ∀ index, (world.network.peers index).opens = false) := by
  have events := @events_proxyPlain count world breaker client data
  have state : (proxyPlain world breaker data client).breaker = breaker := by
    unfold proxyPlain
    dsimp only
    split <;> rfl
  have contacted := tryUpstreams_contacted_iff world.network.peers
    (fun index => proxiedRequest (world.upstreams index).token data) (List.finRange count)
  refine ⟨by rw [events, state, replay_tryUpstreams], fun respects index => ?_, fun closed => ?_⟩
  · by_contra opens
    obtain ⟨other, member⟩ := contacted.mpr ⟨index, by simp, by simpa using opens⟩
    have unmarked := tryUpstreams_unmarked world.network.peers
      (fun index => proxiedRequest (world.upstreams index).token data) (List.finRange count) other
    have recorded := (respects other (events ▸ member)).2
    rw [events] at recorded
    split at recorded
    · exact unmarked.1 recorded
    · exact unmarked.2 recorded
  · intro index member
    rw [events] at member
    obtain ⟨other, -, opens⟩ := contacted.mp ⟨index, member⟩
    rw [closed other] at opens
    cases opens

/-- The proxy listener is sound unless it tries the upstreams for a plain request. -/
theorem handleHttp_respects_iff (client : Stream) :
    (handleHttp library world breaker client).breaker = replay world.network.clock
        (handleHttp library world breaker client).events breaker ∧
      (Respects breaker world.network.now (handleHttp library world breaker client) ↔
        ¬ (PlainThroughUpstream library world client ∧
          ∃ index, (world.network.peers index).opens = true)) := by
  have other {handled : Handled count} (sound : Sound world breaker handled)
      (not : ¬ PlainThroughUpstream library world client) :
      handled.breaker = replay world.network.clock handled.events breaker ∧
        (Respects breaker world.network.now handled ↔
          ¬ (PlainThroughUpstream library world client ∧
            ∃ index, (world.network.peers index).opens = true)) :=
    ⟨sound.1, iff_of_true sound.2 fun both => not both.1⟩
  cases read : readRequest client with
  | none =>
      rw [handleHttp, read]
      refine other (sound_rejected _) ?_
      rintro ⟨request, rest, -, -, -, -, impossible, -⟩
      cases read.symm.trans impossible
  | some found =>
      obtain ⟨request, rest⟩ := found
      have plain_iff : PlainThroughUpstream library world client ↔ ∃ method host port path,
          parseFirst library request.first = .plain method host port path ∧
            Routing.hostBypassesProxy library.characters world.noProxy host = false := by
        constructor
        · rintro ⟨request', rest', method, host, port, path, read', parsed, bypass⟩
          obtain ⟨rfl, rfl⟩ := Prod.mk.inj (Option.some.inj (read.symm.trans read'))
          exact ⟨method, host, port, path, parsed, bypass⟩
        · rintro ⟨method, host, port, path, parsed, bypass⟩
          exact ⟨request, rest, method, host, port, path, read, parsed, bypass⟩
      rw [handleHttp, read]
      dsimp only
      cases parsed : parseFirst library request.first with
      | badConnect => exact other (sound_rejected _) (by simp [plain_iff, parsed])
      | badRequest => exact other (sound_rejected _) (by simp [plain_iff, parsed])
      | undecodable => exact other (sound_rejected _) (by simp [plain_iff, parsed])
      | connect host port =>
          have not : ¬ PlainThroughUpstream library world client := by simp [plain_iff, parsed]
          dsimp only
          split
          · exact other (sound_connectDirect _ _ _ _) not
          · exact other (sound_proxyConnect _ _) not
      | plain method host port path =>
          dsimp only
          split
          · rename_i bypass
            refine other (sound_connectDirect _ _ _ _) ?_
            simp [plain_iff, parsed, bypass]
          · rename_i bypass
            rw [Bool.not_eq_true] at bypass
            have through : PlainThroughUpstream library world client :=
              plain_iff.mpr ⟨method, host, port, path, parsed, bypass⟩
            obtain ⟨state, respects⟩ := @proxyPlain_respects_iff count world breaker rest request.data
            refine ⟨state, respects.trans ?_⟩
            simp [through]

end Handlers

/-- On every listener the breaker is made by the marks of the handler.  Only candidates are
tried, and each outcome is marked, except where the proxy listener takes a plain request to the
upstreams. -/
theorem quarantine_respected_iff (library : Library) (world : World count)
    (breaker : Breaker count) (listener : Listener) (client : Stream) :
    (handle library world breaker listener client).breaker = replay world.network.clock
        (handle library world breaker listener client).events breaker ∧
      (Respects breaker world.network.now (handle library world breaker listener client) ↔
        ¬ (listener = .http ∧ PlainThroughUpstream library world client ∧
          ∃ index, (world.network.peers index).opens = true)) := by
  cases listener with
  | http => simpa [handle] using handleHttp_respects_iff client
  | directHttp =>
      obtain ⟨state, respects⟩ := @sound_handleDirectHttp library count world breaker client
      exact ⟨state, iff_of_true respects (by simp)⟩
  | socks =>
      obtain ⟨state, respects⟩ := @sound_handleSocks library count world breaker client
      exact ⟨state, iff_of_true respects (by simp)⟩

/-- Both upstreams are quarantined until 100. -/
def blocked : Breaker 2 where
  failures _ := 0
  retryAfter _ := 100

/-- A plain request tries an upstream that is quarantined and marks nothing. -/
theorem plain_request_ignores_quarantine :
    let handled := handle sampleLibrary sampleWorld blocked .http
      [ascii "GET http://host/ HTTP/1.1\r\n\r\n"]
    .contacted 0 ∈ handled.events ∧ sampleWorld.network.now < blocked.retryAfter 0 ∧
      .succeeded 0 ∉ handled.events ∧ .failed 0 ∉ handled.events := by
  decide +kernel

end ProxyLauncher.Transport
