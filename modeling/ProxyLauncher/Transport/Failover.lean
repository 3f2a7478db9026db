import ProxyLauncher.Routing.Agreement
import ProxyLauncher.Transport.Tunnel

/-!
# Failover

The tunnel goes to the first candidate that answers with a status of the 200s; those before
it are marked failed and their sockets are closed, those after it are left alone.  A request
of the client that cannot be encoded is held against every candidate.
-/

namespace ProxyLauncher.Transport

open Python

variable {library : Library} {count : Nat} {index other : Fin count} {peer : Peer}
  {request : Except RequestError Bytes} {peers : Fin count → Peer}
  {requests : Fin count → Except RequestError Bytes} {clock : Fin count → Nat}
  {candidates : List (Fin count)} {breaker : Breaker count}

/-- The upstream is reached, takes the request and answers with a status of the 200s. -/
def Wins (peer : Peer) (request : Except RequestError Bytes) : Prop :=
  peer.opens = true ∧ peer.connects = true ∧ (∃ data, request = .ok data) ∧
    peer.accepts = true ∧ ∃ status response rest,
      readProxyResponse peer.sends = .ok (status, response, rest) ∧ 200 ≤ status ∧ status < 300

def Event.upstream : Event count → Fin count
  | .opened index => index
  | .contacted index => index
  | .sent index _ => index
  | .closed index => index
  | .succeeded index => index
  | .failed index => index

theorem attempt_events (index : Fin count) (peer : Peer) (request : Except RequestError Bytes) :
    (peer.opens = false ∧ (attempt index peer request).events = []) ∨
      (peer.opens = true ∧
        (attempt index peer request).events = [.opened index, .contacted index]) ∨
      ∃ data, peer.opens = true ∧ request = .ok data ∧
        (attempt index peer request).events =
          [.opened index, .contacted index, .sent index data] := by
  unfold attempt
  split
  · exact .inl ⟨‹_›, rfl⟩
  · rename_i opens
    rw [Bool.not_eq_false] at opens
    refine .inr ?_
    split
    · exact .inl ⟨opens, rfl⟩
    · cases request with
      | error error => exact .inl ⟨opens, rfl⟩
      | ok data =>
          refine .inr ⟨data, opens, rfl, ?_⟩
          dsimp only
          split
          · rfl
          · rfl

theorem won_eq_some_iff {response : Bytes} {left : Stream} :
    (attempt index peer request).won = some (response, left) ↔
      peer.opens = true ∧ peer.connects = true ∧ (∃ data, request = .ok data) ∧
        peer.accepts = true ∧ ∃ status, readProxyResponse peer.sends = .ok (status, response, left) ∧
          200 ≤ status ∧ status < 300 := by
  unfold attempt
  split
  · simp [Attempt.won, *]
  · split
    · simp [Attempt.won, *]
    · cases request with
      | error error => simp [Attempt.won]
      | ok data =>
          dsimp only
          split
          · simp [Attempt.won, *]
          · rename_i opens connects accepts
            rw [Bool.not_eq_false] at opens connects accepts
            rw [Attempt.won]
            cases answered : readProxyResponse peer.sends with
            | error failure => simp
            | ok answer =>
                obtain ⟨status, response', left'⟩ := answer
                simp only [opens, connects, accepts, Except.ok.injEq, Prod.mk.injEq,
                  exists_eq', true_and]
                split
                · rename_i good
                  simp only [Option.some.injEq, Prod.mk.injEq]
                  constructor
                  · rintro ⟨rfl, rfl⟩
                    exact ⟨status, ⟨rfl, rfl, rfl⟩, good⟩
                  · rintro ⟨_, ⟨-, rfl, rfl⟩, -⟩
                    exact ⟨rfl, rfl⟩
                · rename_i bad
                  refine iff_of_false (by simp) ?_
                  rintro ⟨_, ⟨rfl, -, -⟩, good⟩
                  exact bad good

theorem won_eq_none_iff :
    (attempt index peer request).won = none ↔ ¬ Wins peer request := by
  rw [← Option.not_isSome_iff_eq_none, Option.isSome_iff_exists, not_iff_not]
  constructor
  · rintro ⟨⟨response, left⟩, won⟩
    obtain ⟨opens, connects, encoded, accepts, status, answered, good⟩ := won_eq_some_iff.mp won
    exact ⟨opens, connects, encoded, accepts, status, response, left, answered, good⟩
  · rintro ⟨opens, connects, encoded, accepts, status, response, left, answered, good⟩
    exact ⟨(response, left),
      won_eq_some_iff.mpr ⟨opens, connects, encoded, accepts, status, answered, good⟩⟩

/-- The events of an attempt that does not win. -/
def lost (peers : Fin count → Peer) (requests : Fin count → Except RequestError Bytes)
    (index : Fin count) : List (Event count) :=
  (attempt index (peers index) (requests index)).events ++
    .failed index :: closing index (peers index)

/-- The breaker after the failures of some candidates. -/
def failures (clock : Fin count → Nat) (candidates : List (Fin count)) (breaker : Breaker count) :
    Breaker count :=
  candidates.foldl (fun breaker index => breaker.markUpstreamFailure index (clock index)) breaker

/-- What the loop does: it ends at the first candidate that wins, or all of them fail. -/
theorem tryCandidates_cases (peers : Fin count → Peer)
    (requests : Fin count → Except RequestError Bytes) (clock : Fin count → Nat)
    (candidates : List (Fin count)) (breaker : Breaker count) :
    (∃ before winner after response left, candidates = before ++ winner :: after ∧
      (∀ index ∈ before, ¬ Wins (peers index) (requests index)) ∧
      (attempt winner (peers winner) (requests winner)).won = some (response, left) ∧
      tryCandidates peers requests clock candidates breaker =
        { stream := some (winner, left), response
          breaker := (failures clock before breaker).markUpstreamSuccess winner
          events := before.flatMap (lost peers requests) ++
            ((attempt winner (peers winner) (requests winner)).events ++
              [.succeeded winner]) }) ∨
      ((∀ index ∈ candidates, ¬ Wins (peers index) (requests index)) ∧
        tryCandidates peers requests clock candidates breaker =
          { stream := none, response := [], breaker := failures clock candidates breaker
            events := candidates.flatMap (lost peers requests) }) := by
  induction candidates generalizing breaker with
  | nil => exact .inr ⟨by simp, rfl⟩
  | cons index rest ih =>
      cases won : (attempt index (peers index) (requests index)).won with
      | some found =>
          obtain ⟨response, left⟩ := found
          refine .inl ⟨[], index, rest, response, left, rfl, by simp, won, ?_⟩
          simp [tryCandidates, won, failures]
      | none =>
          have loses := won_eq_none_iff.mp won
          rcases ih (breaker.markUpstreamFailure index (clock index)) with
            ⟨before, winner, after, response, left, rfl, earlier, wins, whole⟩ | ⟨none', whole⟩
          · refine .inl ⟨index :: before, winner, after, response, left, rfl, ?_, wins, ?_⟩
            · exact List.forall_mem_cons.mpr ⟨loses, earlier⟩
            · simp [tryCandidates, won, whole, failures, lost]
          · refine .inr ⟨List.forall_mem_cons.mpr ⟨loses, none'⟩, ?_⟩
            simp [tryCandidates, won, whole, failures, lost]

theorem upstream_of_mem_attempt {event : Event count}
    (member : event ∈ (attempt index peer request).events) : event.upstream = index := by
  rcases attempt_events index peer request with ⟨-, events⟩ | ⟨-, events⟩ | ⟨data, -, -, events⟩
  · simp [events] at member
  · rw [events] at member
    rcases List.mem_pair.mp member with rfl | rfl <;> rfl
  · rw [events] at member
    simp only [List.mem_cons, List.not_mem_nil, or_false] at member
    rcases member with rfl | rfl | rfl <;> rfl

theorem upstream_of_mem_lost {event : Event count} (member : event ∈ lost peers requests index) :
    event.upstream = index := by
  rcases List.mem_append.mp member with tried | later
  · exact upstream_of_mem_attempt tried
  · rcases List.mem_cons.mp later with rfl | close
    · rfl
    · rw [closing] at close
      split at close
      · rw [List.mem_singleton.mp close]
        rfl
      · simp at close

/-- An attempt opens at most one socket, closes none and marks nothing. -/
theorem count_attempt (index other : Fin count) (peer : Peer)
    (request : Except RequestError Bytes) :
    (attempt index peer request).events.count (.failed other) = 0 ∧
      (attempt index peer request).events.count (.succeeded other) = 0 ∧
      (attempt index peer request).events.count (.closed other) = 0 ∧
      (attempt index peer request).events.count (.opened other) =
        if index = other ∧ peer.opens = true then 1 else 0 := by
  rcases attempt_events index peer request with
    ⟨opens, events⟩ | ⟨opens, events⟩ | ⟨data, opens, -, events⟩
  · simp [events, opens]
  · simp [events, opens, List.count_cons]
  · simp [events, opens, List.count_cons]

theorem count_lost (peers : Fin count → Peer) (requests : Fin count → Except RequestError Bytes)
    (index other : Fin count) :
    (lost peers requests index).count (.failed other) = (if index = other then 1 else 0) ∧
      (lost peers requests index).count (.succeeded other) = 0 ∧
      (lost peers requests index).count (.opened other) =
        (lost peers requests index).count (.closed other) := by
  obtain ⟨failed, succeeded, closed, opened⟩ :=
    count_attempt index other (peers index) (requests index)
  simp only [lost, List.count_append, failed, succeeded, closed, opened, List.count_cons, closing]
  cases (peers index).opens with
  | true => simp [List.count_cons]
  | false => simp

/-- Every candidate that does not win is marked failed once, and its socket is closed. -/
theorem count_flatMap_lost (candidates : List (Fin count)) (other : Fin count) :
    (candidates.flatMap (lost peers requests)).count (.failed other) = candidates.count other ∧
      (candidates.flatMap (lost peers requests)).count (.succeeded other) = 0 ∧
      (candidates.flatMap (lost peers requests)).count (.opened other) =
        (candidates.flatMap (lost peers requests)).count (.closed other) := by
  induction candidates with
  | nil => simp
  | cons index rest ih =>
      obtain ⟨failed, succeeded, opened⟩ := count_lost peers requests index other
      simp only [List.flatMap_cons, List.count_append, failed, succeeded, opened, ih,
        List.count_cons, beq_iff_eq]
      refine ⟨?_, trivial, trivial⟩
      omega

theorem failures_of_notMem (absent : index ∉ candidates) :
    (failures clock candidates breaker).failures index = breaker.failures index ∧
      (failures clock candidates breaker).retryAfter index = breaker.retryAfter index := by
  induction candidates generalizing breaker with
  | nil => exact ⟨rfl, rfl⟩
  | cons head rest ih =>
      obtain ⟨different, absent⟩ := not_or.mp (List.mem_cons.not.mp absent)
      obtain ⟨failed, retry⟩ := @ih (breaker.markUpstreamFailure head (clock head)) absent
      obtain ⟨failed', retry'⟩ :=
        @Breaker.markUpstreamFailure_of_ne _ breaker _ _ (clock head) different
      exact ⟨failed.trans failed', retry.trans retry'⟩

theorem nodup_candidates (breaker : Breaker count) (now : Nat) :
    (breaker.candidates now).Nodup :=
  (List.nodup_finRange count).filter _

variable (library) in
/-- The first candidate in order that answers with a status of the 200s gets the tunnel and is
marked successful; those before it are marked failed once and their sockets are closed; those
after it are left alone. -/
theorem failover_order (upstreams : Fin count → Upstream) (network : Network count)
    (breaker : Breaker count) (host : String) (port : Int) (clientRequest : Option Bytes) :
    let tunnel := openUpstreamTunnel library upstreams network breaker host port clientRequest
    let candidates := breaker.candidates network.now
    let request index :=
      connectRequestWithAuth library host port (upstreams index).token clientRequest
    let wins index := Wins (network.peers index) (request index)
    (tunnel.stream = none ↔ ∀ index ∈ candidates, ¬ wins index) ∧
      (tunnel.stream = none → tunnel.response = [] ∧
        tunnel.breaker = failures network.clock candidates breaker ∧
        ∀ index, tunnel.events.count (.failed index) = candidates.count index ∧
          tunnel.events.count (.succeeded index) = 0 ∧
          tunnel.events.count (.opened index) = tunnel.events.count (.closed index)) ∧
      ∀ winner left, tunnel.stream = some (winner, left) →
        ∃ before after, candidates = before ++ winner :: after ∧ wins winner ∧
          (∃ status, readProxyResponse (network.peers winner).sends =
            .ok (status, tunnel.response, left)) ∧
          tunnel.breaker = (failures network.clock before breaker).markUpstreamSuccess winner ∧
          (∀ index ∈ before, ¬ wins index ∧ tunnel.events.count (.failed index) = 1 ∧
            tunnel.events.count (.succeeded index) = 0 ∧
            tunnel.events.count (.opened index) = tunnel.events.count (.closed index)) ∧
          (∀ index ∈ after, (∀ event ∈ tunnel.events, event.upstream ≠ index) ∧
            tunnel.breaker.failures index = breaker.failures index ∧
            tunnel.breaker.retryAfter index = breaker.retryAfter index) ∧
          tunnel.events.count (.succeeded winner) = 1 ∧
          tunnel.events.count (.failed winner) = 0 ∧
          tunnel.events.count (.opened winner) = 1 ∧
          tunnel.events.count (.closed winner) = 0 := by
  intro tunnel candidates request wins
  have distinct : candidates.Nodup := nodup_candidates breaker network.now
  rcases tryCandidates_cases network.peers request network.clock candidates breaker with
    ⟨before, winner, after, response, left, split, loses, won, whole⟩ | ⟨loses, whole⟩
  · have whole : tunnel = _ := whole
    have won' := won_eq_some_iff.mp won
    have opens : (network.peers winner).opens = true := won'.1
    have winning : wins winner := by
      by_contra loses'
      rw [won_eq_none_iff.mpr loses'] at won
      cases won
    obtain ⟨status, answered, -⟩ := won'.2.2.2.2
    rw [split, List.nodup_append, List.nodup_cons] at distinct
    obtain ⟨nodup, ⟨winnerAfter, -⟩, apart⟩ := distinct
    have winnerBefore : winner ∉ before := fun member => apart winner member winner (by simp) rfl
    have unmarked (index : Fin count) := count_attempt winner index (network.peers winner)
      (request winner)
    have earlier (index : Fin count) := @count_flatMap_lost _ network.peers request before index
    refine ⟨?_, ?_, ?_⟩
    · rw [whole]
      refine iff_of_false (by simp) fun none' => none' winner ?_ winning
      rw [split]
      simp
    · rw [whole]
      exact fun impossible => absurd impossible (by simp)
    · rintro winner' left' stream
      rw [whole] at stream ⊢
      obtain ⟨rfl, rfl⟩ := Prod.mk.inj (Option.some.inj stream)
      refine ⟨before, after, split, winning, ⟨status, answered⟩, rfl, ?_, ?_, ?_⟩
      · intro index member
        have different : winner ≠ index := by
          rintro rfl
          exact winnerBefore member
        refine ⟨loses index member, ?_⟩
        simp only [List.count_append, unmarked, earlier, different, List.count_cons,
          List.count_eq_one_of_mem nodup member]
        simp [different]
      · intro index member
        have different : winner ≠ index := by
          rintro rfl
          exact winnerAfter member
        have absent : index ∉ before := fun early =>
          apart index early index (List.mem_cons_of_mem _ member) rfl
        refine ⟨?_, ?_⟩
        · intro event mem same
          rcases List.mem_append.mp mem with early | late
          · obtain ⟨other, early, mem⟩ := List.mem_flatMap.mp early
            rw [upstream_of_mem_lost mem] at same
            exact absent (same ▸ early)
          · rcases List.mem_append.mp late with tried | marked
            · exact different ((upstream_of_mem_attempt tried).symm.trans same)
            · rw [List.mem_singleton.mp marked] at same
              exact different same
        · simp only [Breaker.markUpstreamSuccess, Function.update_of_ne different.symm]
          exact failures_of_notMem absent
      · have zero : before.count winner = 0 := List.count_eq_zero.mpr winnerBefore
        have unopened : (before.flatMap (lost network.peers request)).count (.closed winner) =
            0 := by
          refine List.count_eq_zero.mpr fun mem => ?_
          obtain ⟨other, early, mem⟩ := List.mem_flatMap.mp mem
          have same : winner = other := upstream_of_mem_lost mem
          exact winnerBefore (same ▸ early)
        simp only [List.count_append, unmarked, earlier, zero, unopened, opens]
        simp
  · have whole : tunnel = _ := whole
    rw [whole]
    refine ⟨iff_of_true rfl loses, fun _ => ⟨rfl, rfl, fun index => ?_⟩, ?_⟩
    · exact count_flatMap_lost candidates index
    · rintro winner left impossible
      cases impossible

/-- The library on texts in ASCII. -/
def sampleLibrary : Library where
  characters :=
    { lower := fun text => .ofList (text.toList.map Char.toLower)
      isDigit := Char.isDigit
      sameCase := fun char char' => char.toLower == char'.toLower
      sameCase_self := fun _ => beq_self_eq_true _ }
  decimal _ := none
  idna _ := none
  inetNtop6 _ := "::1"

/-- The hosts of the samples. -/
def sampleHosts : List String := ["h", "host", "1.2.3.4"]

theorem sample_names : ∀ text ∈ Routing.defaultNoProxy ++ sampleHosts,
    Routing.HostName sampleLibrary.characters text := by
  have settled : ((Routing.defaultNoProxy ++ sampleHosts).all fun text =>
      !text.toList.isEmpty && (text.toList.getLast? != some '.' && text.toList.head? != some '[') &&
      text.toList.all fun char => !Python.isSpace char && char.toLower == char) = true := by
    unfold Routing.defaultNoProxy sampleHosts
    simp only [List.cons_append, List.nil_append, List.all_cons, List.all_nil]
    repeat rw [String.toList_ofList]
    decide
  intro text member
  have settled := List.all_eq_true.mp settled text member
  simp only [Bool.and_eq_true, List.all_eq_true, Bool.not_eq_true', bne_iff_ne,
    beq_iff_eq] at settled
  obtain ⟨⟨nonempty, last, head⟩, chars⟩ := settled
  refine ⟨?_, fun char member => (chars char member).1, ?_, last, fun both => head both.1⟩
  · rintro rfl
    exact absurd nonempty (by decide)
  · change String.ofList (text.toList.map Char.toLower) = text
    have kept : text.toList.map Char.toLower = text.toList.map id :=
      List.map_congr_left fun char member => (chars char member).2
    rw [kept, List.map_id, String.ofList_toList]

/-- No default entry is for one of them. -/
theorem sample_proxied {host : String} (member : host ∈ sampleHosts) :
    Routing.hostBypassesProxy sampleLibrary.characters [] host = false := by
  have passed : (Routing.defaultNoProxy.all fun entry => sampleHosts.all fun host =>
      entry.toList.head? != some '.' && !(if '*' ∈ entry.toList ∨ '?' ∈ entry.toList then
        Routing.engineGlob sampleLibrary.characters entry.toList host.toList
      else decide (host.toList = entry.toList) ||
        ('.' :: entry.toList).isSuffixOf host.toList)) = true := by
    unfold Routing.defaultNoProxy sampleHosts
    simp only [List.all_cons, List.all_nil]
    repeat rw [String.toList_ofList]
    decide +kernel
  rw [← Bool.not_eq_true,
    Routing.hostBypassesProxy_iff (sample_names host (List.mem_append_right _ member))]
  rintro ⟨entry, known, covers⟩
  have name := sample_names entry (List.mem_append_left _ known)
  have missed := List.all_eq_true.mp (List.all_eq_true.mp passed entry known) host member
  rw [Bool.and_eq_true, bne_iff_ne, Bool.not_eq_true'] at missed
  rw [Routing.engineMatches, Routing.enginePattern, name.normalizeHost_eq, if_neg missed.1,
    if_neg name.nonempty, missed.2] at covers
  exact Bool.false_ne_true covers

def sampleUpstreams (index : Fin 2) : Upstream :=
  buildUpstream (if index.val = 0 then "first" else "second") 8000 "u" "p"

/-- An upstream that opens every tunnel. -/
def willingPeer : Peer where
  opens := true
  connects := true
  accepts := true
  sends := [ascii "HTTP/1.1 200 OK\r\n\r\n"]

/-- The first upstream refuses the connection, the second opens the tunnel. -/
def sampleNetwork : Network 2 where
  now := 5
  clock _ := 6
  peers index := { willingPeer with connects := decide (index.val ≠ 0) }

theorem failover_order_sample :
    let tunnel := openUpstreamTunnel sampleLibrary sampleUpstreams sampleNetwork (.initial 2)
      "host" 443 none
    tunnel.stream = some (1, []) ∧ ∃ before after, Breaker.candidates (.initial 2) 5 =
      before ++ 1 :: after ∧ ∀ index ∈ before, tunnel.events.count (.failed index) = 1 := by
  intro tunnel
  have stream : tunnel.stream = some (1, []) := by decide
  obtain ⟨before, after, split, -, -, -, earlier, -⟩ :=
    (failover_order sampleLibrary sampleUpstreams sampleNetwork (.initial 2) "host" 443
      none).2.2 1 [] stream
  exact ⟨stream, before, after, split, fun index member => (earlier index member).2.1⟩

/-- The target is a text for the network, and a request line that is passed on is one of
CONNECT. -/
def Encodable (library : Library) (host : String) (port : Int) (clientRequest : Option Bytes) :
    Prop :=
  (encodeIdna library (host ++ ":" ++ toString port)).isSome = true ∧
    ∀ request, clientRequest = some request → ∃ first others,
      splitCrlf (((cut marker request).map Prod.fst).getD request) = first :: others ∧
        (ascii "CONNECT ").isPrefixOf first = true

/-- The connection to the upstream is made. -/
def Reached (peer : Peer) : Prop :=
  peer.opens = true ∧ peer.connects = true

/-- The attempt fails because the request of the client cannot be encoded. -/
def FailedInEncoding (index : Fin count) (peer : Peer) (request : Except RequestError Bytes) :
    Prop :=
  ∃ error, (attempt index peer request).outcome = .error (.request error)

theorem encodable_iff {host : String} {port : Int} {token : Bytes}
    {clientRequest : Option Bytes} :
    (∃ data, connectRequestWithAuth library host port token clientRequest = .ok data) ↔
      Encodable library host port clientRequest := by
  unfold connectRequestWithAuth Encodable
  cases encodeIdna library (host ++ ":" ++ toString port) with
  | none => simp
  | some target =>
      cases clientRequest with
      | none => simp
      | some request =>
          dsimp only
          cases lines : splitCrlf (((cut marker request).map Prod.fst).getD request) with
          | nil => simp [lines]
          | cons first others =>
              dsimp only
              split
              · rename_i connect
                simp only [Except.ok.injEq, exists_eq', Option.isSome_some, true_and, true_iff]
                rintro _ ⟨⟩
                exact ⟨first, others, lines, connect⟩
              · rename_i other
                refine iff_of_false (by simp) ?_
                rintro ⟨-, every⟩
                obtain ⟨first', others', lines', connect⟩ := every request rfl
                obtain ⟨rfl, -⟩ := List.cons.inj (lines.symm.trans lines')
                exact other connect

theorem readProxyResponse_error {stream : Stream} {failure : Failure}
    (raised : readProxyResponse stream = .error failure) : failure = .response := by
  unfold readProxyResponse at raised
  split at raised
  · exact (Except.error.inj raised).symm
  · split at raised
    · split at raised
      · cases raised
      · exact (Except.error.inj raised).symm
    · exact (Except.error.inj raised).symm

theorem failedInEncoding_iff : FailedInEncoding index peer request ↔
    Reached peer ∧ ¬ ∃ data, request = .ok data := by
  unfold FailedInEncoding attempt Reached
  split
  · simp [*]
  · split
    · simp [*]
    · rename_i opens connects
      rw [Bool.not_eq_false] at opens connects
      cases request with
      | error error => simp [opens, connects]
      | ok data =>
          refine iff_of_false ?_ (by simp)
          rintro ⟨error, raised⟩
          dsimp only at raised
          split at raised
          · cases raised
          · cases readProxyResponse_error raised

theorem Breaker.markUpstreamFailure_ne (breaker : Breaker count) (index : Fin count) (now : Nat) :
    (breaker.markUpstreamFailure index now).failures index ≠ breaker.failures index := by
  rw [Breaker.markUpstreamFailure_self.1, upstreamFailureLimit]
  split <;> omega

/-- A candidate that is marked failed once has another count of failures than before. -/
theorem failures_ne (distinct : candidates.Nodup) (member : index ∈ candidates) :
    (failures clock candidates breaker).failures index ≠ breaker.failures index := by
  induction candidates generalizing breaker with
  | nil => simp at member
  | cons head rest ih =>
      obtain ⟨absent, distinct⟩ := List.nodup_cons.mp distinct
      rcases List.mem_cons.mp member with rfl | later
      · have last := @failures_of_notMem _ _ clock _
          (breaker.markUpstreamFailure index (clock index)) absent
        intro same
        exact breaker.markUpstreamFailure_ne index (clock index) (last.1.symm.trans same)
      · have different : index ≠ head := fun same => absent (same ▸ later)
        have kept := @Breaker.markUpstreamFailure_of_ne _ breaker _ _ (clock head) different
        rw [← kept.1]
        exact ih distinct later

/-- A request that cannot be encoded loses at every candidate, so all of them are marked. -/
theorem breaker_of_not_encodable {upstreams : Fin count → Upstream} {network : Network count}
    {host : String} {port : Int} {clientRequest : Option Bytes}
    (not : ¬ Encodable library host port clientRequest) :
    (openUpstreamTunnel library upstreams network breaker host port clientRequest).breaker =
      failures network.clock (breaker.candidates network.now) breaker := by
  rcases tryCandidates_cases network.peers
      (fun index => connectRequestWithAuth library host port (upstreams index).token clientRequest)
      network.clock (breaker.candidates network.now) breaker with
    ⟨before, winner, after, response, left, -, -, won, -⟩ | ⟨-, whole⟩
  · exact absurd (encodable_iff.mp (won_eq_some_iff.mp won).2.2.1) not
  · exact congrArg Tunnel.breaker whole

variable (library) in
/-- A failure that is caused by encoding leaves the breaker alone only where there is none:
where the request can be encoded or some connection is not made.  Upstream by upstream, a
candidate is not charged for such a failure only if the request can be encoded or no candidate
is reached. -/
theorem encoding_failure_uncharged_iff (upstreams : Fin count → Upstream)
    (network : Network count) (breaker : Breaker count) (host : String) (port : Int)
    (clientRequest : Option Bytes) :
    let tunnel := openUpstreamTunnel library upstreams network breaker host port clientRequest
    let candidates := breaker.candidates network.now
    let failed index := FailedInEncoding index (network.peers index)
      (connectRequestWithAuth library host port (upstreams index).token clientRequest)
    ((candidates ≠ [] → (∀ index ∈ candidates, failed index) → tunnel.breaker = breaker) ↔
        Encodable library host port clientRequest ∨ candidates = [] ∨
          ∃ index ∈ candidates, ¬ Reached (network.peers index)) ∧
      ((∀ index ∈ candidates, failed index →
          tunnel.breaker.failures index = breaker.failures index ∧
            tunnel.breaker.retryAfter index = breaker.retryAfter index) ↔
        Encodable library host port clientRequest ∨
          ∀ index ∈ candidates, ¬ Reached (network.peers index)) := by
  intro tunnel candidates failed
  have failed_iff (index : Fin count) : failed index ↔ Reached (network.peers index) ∧
      ¬ Encodable library host port clientRequest :=
    failedInEncoding_iff.trans (and_congr_right fun _ => not_congr encodable_iff)
  have charged (not : ¬ Encodable library host port clientRequest) (index : Fin count)
      (member : index ∈ candidates) : tunnel.breaker.failures index ≠ breaker.failures index := by
    have whole : tunnel.breaker = _ := breaker_of_not_encodable not
    rw [whole]
    exact failures_ne (nodup_candidates breaker network.now) member
  constructor
  · constructor
    · intro unchanged
      by_contra neither
      simp only [not_or, not_exists, not_and, not_not] at neither
      obtain ⟨not, nonempty, reached⟩ := neither
      obtain ⟨index, member⟩ := List.exists_mem_of_ne_nil _ nonempty
      have same := unchanged nonempty fun index member =>
        (failed_iff index).mpr ⟨reached index member, not⟩
      exact charged not index member (congrArg (fun breaker => breaker.failures index) same)
    · rintro condition nonempty all
      obtain ⟨index, member⟩ := List.exists_mem_of_ne_nil _ nonempty
      rcases condition with encodable | empty | ⟨other, other_mem, unreached⟩
      · exact absurd encodable ((failed_iff index).mp (all index member)).2
      · exact absurd empty nonempty
      · exact absurd ((failed_iff other).mp (all other other_mem)).1 unreached
  · constructor
    · intro uncharged
      by_contra neither
      simp only [not_or, not_forall, not_not] at neither
      obtain ⟨not, index, member, reached⟩ := neither
      exact charged not index member (uncharged index member
        ((failed_iff index).mpr ⟨reached, not⟩)).1
    · rintro condition index member failure
      obtain ⟨reached, not⟩ := (failed_iff index).mp failure
      rcases condition with encodable | unreached
      · exact absurd encodable not
      · exact absurd reached (unreached index member)

/-- A label of 64 characters; a label of a host name has at most 63. -/
def longHost : String := .ofList (List.replicate 64 'a')

def longRequest : Bytes := ascii "CONNECT " ++ ascii longHost ++ ascii ":443 HTTP/1.1" ++ marker

def willingNetwork : Network 2 where
  now := 5
  clock _ := 6
  peers _ := willingPeer

/-- One request for a host with such a label counts as a failure of both upstreams, although
both take the connection. -/
theorem encoding_failure_charged :
    (∀ index ∈ Breaker.candidates (.initial 2) 5, FailedInEncoding index willingPeer
      (connectRequestWithAuth sampleLibrary longHost 443 (sampleUpstreams index).token
        (some longRequest))) ∧
      ∀ index, (openUpstreamTunnel sampleLibrary sampleUpstreams willingNetwork (.initial 2)
        longHost 443 (some longRequest)).breaker.failures index = 1 := by
  have not : ¬ Encodable sampleLibrary longHost 443 (some longRequest) := by
    rintro ⟨encoded, -⟩
    exact absurd encoded (by decide +kernel)
  refine ⟨fun index _ => ?_, fun index => ?_⟩
  · exact failedInEncoding_iff.mpr ⟨⟨rfl, rfl⟩, encodable_iff.not.mpr not⟩
  · rw [breaker_of_not_encodable not]
    revert index
    decide

end ProxyLauncher.Transport
