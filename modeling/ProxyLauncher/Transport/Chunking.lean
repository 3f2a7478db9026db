import ProxyLauncher.Transport.Failover
import ProxyLauncher.Transport.Http

/-!
# Requests do not depend on their chunks

A request is accepted exactly when its header ends within 65536 bytes.  What the handlers
derive from it and what the target receives of it, before and during the relay, are functions
of the bytes and not of the chunks in which they arrive.
-/

namespace ProxyLauncher.Transport

open Python

variable {library : Library} {count : Nat} {client client' : Stream}

/-- What reading a request leaves: the header is a function of the stream, and the surplus and
the rest are the bytes after it. -/
theorem readRequest_spec (chunked : client.Chunked) :
    if Headed 65536 client.flatten then
      ∃ head after, cut marker client.flatten = some (head, after) ∧
        ∃ surplus rest, surplus ++ rest.flatten = after ∧ rest.Chunked ∧
          readRequest client = some
            ({ data := head ++ marker ++ surplus, header := head ++ marker, surplus }, rest)
    else readRequest client = none := by
  have read := @readUntilMarker_spec 8192 65536 65537 client [] (by decide) chunked (by decide)
    (by decide)
  rw [List.nil_append] at read
  split at read
  · rename_i headed
    rw [if_pos headed]
    obtain ⟨data, rest, returned, whole, -, inside, chunked'⟩ := read
    obtain ⟨⟨head, surplus⟩, found⟩ := Option.isSome_iff_exists.mp (cut_isSome_iff.mpr inside)
    have later := cut_append found rest.flatten
    rw [whole] at later
    refine ⟨head, surplus ++ rest.flatten, later, surplus, rest, rfl, chunked', ?_⟩
    rw [readRequest, readClientRequest, returned]
    simp only [found, Option.map_some]
    rw [eq_append_of_cut found, List.append_assoc]
  · rename_i headed
    rw [if_neg headed, readRequest, readClientRequest, read]

/-- The first line ends in the header. -/
theorem cut_crlf_header (head : Bytes) :
    ∃ first rest, cut crlf (head ++ marker) = some (first, rest) := by
  have inside : crlf <:+: head ++ marker := ⟨head, crlf, by simp [crlf, marker]⟩
  obtain ⟨⟨first, rest⟩, found⟩ := Option.isSome_iff_exists.mp (cut_isSome_iff.mpr inside)
  exact ⟨first, rest, found⟩

/-- What a handler shows to the outside: its answers to the client, the breaker and, if there
is a relay, its target, everything that the target receives and everything it answers. -/
def Handled.outside (handled : Handled count) :
    Bytes × Breaker count × Option (Target count × Bytes × Stream) :=
  (handled.replies, handled.breaker, handled.relay.map fun relay =>
    (relay.target, relay.opening ++ relay.surplus ++ relay.client.flatten, relay.answers))

theorem outside_connectDirect {world : World count} {breaker : Breaker count} {host : String}
    {port : Int} {failure : String} {replies opening opening' surplus surplus' : Bytes}
    (same : opening ++ surplus ++ client.flatten = opening' ++ surplus' ++ client'.flatten) :
    (connectDirect world breaker host port failure replies opening surplus client).outside =
      (connectDirect world breaker host port failure replies opening' surplus' client').outside := by
  unfold connectDirect
  split
  · rfl
  · simp only [Handled.outside, Option.map_some, same]

theorem tryUpstreams_fst (peers : Fin count → Peer) (request request' : Fin count → Bytes)
    (candidates : List (Fin count)) :
    (tryUpstreams peers request candidates).1 = (tryUpstreams peers request' candidates).1 := by
  induction candidates with
  | nil => rfl
  | cons index rest ih =>
      simp only [tryUpstreams]
      split_ifs
      · exact ih
      · exact ih
      · exact ih
      · rfl

theorem outside_proxyPlain {world : World count} {breaker : Breaker count} {data data' : Bytes}
    (same : ∀ token, proxiedRequest token data ++ client.flatten =
      proxiedRequest token data' ++ client'.flatten) :
    (proxyPlain world breaker data client).outside =
      (proxyPlain world breaker data' client').outside := by
  have winner := tryUpstreams_fst world.network.peers
    (fun index => proxiedRequest (world.upstreams index).token data)
    (fun index => proxiedRequest (world.upstreams index).token data') (List.finRange count)
  unfold proxyPlain
  dsimp only
  generalize tryUpstreams world.network.peers
    (fun index => proxiedRequest (world.upstreams index).token data) _ = found at winner ⊢
  generalize tryUpstreams world.network.peers
    (fun index => proxiedRequest (world.upstreams index).token data') _ = found' at winner ⊢
  obtain ⟨index, events⟩ := found
  obtain ⟨index', events'⟩ := found'
  obtain rfl : index = index' := winner
  cases index with
  | none => rfl
  | some index => simp only [Handled.outside, Option.map_some, List.append_nil, same]

theorem outside_proxyConnect {world : World count} {breaker : Breaker count} {host : String}
    {port : Int} {header surplus surplus' : Bytes}
    (same : surplus ++ client.flatten = surplus' ++ client'.flatten) :
    (proxyConnect library world breaker host port header surplus client).outside =
      (proxyConnect library world breaker host port header surplus' client').outside := by
  unfold proxyConnect
  dsimp only
  split
  · rfl
  · simp [Handled.outside, same]

section Handlers

variable {head surplus surplus' : Bytes} (world : World count) (breaker : Breaker count)
  (same : surplus ++ client.flatten = surplus' ++ client'.flatten)

include same

theorem directRequest_append (method : Bytes) (path : String) :
    directRequest method path (head ++ marker ++ surplus) ++ client.flatten =
      directRequest method path (head ++ marker ++ surplus') ++ client'.flatten := by
  obtain ⟨first, rest, found⟩ := cut_crlf_header head
  rw [directRequest, directRequest, cut_append found, cut_append found]
  simp only [Option.map_some, Option.getD_some, List.append_assoc, same]

theorem proxiedRequest_append (token : Bytes) :
    proxiedRequest token (head ++ marker ++ surplus) ++ client.flatten =
      proxiedRequest token (head ++ marker ++ surplus') ++ client'.flatten := by
  obtain ⟨first, rest, found⟩ := cut_crlf_header head
  rw [proxiedRequest, proxiedRequest, cut_append found, cut_append found]
  simp only [List.append_assoc, same]

end Handlers

/-- Two chunkings of one stream are accepted alike, give the same header and first line, and
have the same effect on the client, the breaker and the target. -/
theorem request_chunking_invariant (library : Library) (world : World count)
    (breaker : Breaker count) (client client' : Stream) (chunked : client.Chunked)
    (chunked' : client'.Chunked) (same : client.flatten = client'.flatten) :
    ((readRequest client).isSome = true ↔ Headed 65536 client.flatten) ∧
      ((readRequest client).map fun found =>
          (found.1.header, parseFirst library found.1.first)) =
        ((readRequest client').map fun found =>
          (found.1.header, parseFirst library found.1.first)) ∧
      (handleHttp library world breaker client).outside =
        (handleHttp library world breaker client').outside ∧
      (handleDirectHttp library world breaker client).outside =
        (handleDirectHttp library world breaker client').outside := by
  have read := readRequest_spec chunked
  have read' := readRequest_spec chunked'
  rw [← same] at read'
  by_cases headed : Headed 65536 client.flatten
  · rw [if_pos headed] at read read'
    obtain ⟨head, after, found, surplus, rest, whole, -, returned⟩ := read
    obtain ⟨head', after', found', surplus', rest', whole', -, returned'⟩ := read'
    obtain ⟨rfl, rfl⟩ := Prod.mk.inj (Option.some.inj (found.symm.trans found'))
    have bytes : surplus ++ rest.flatten = surplus' ++ rest'.flatten := whole.trans whole'.symm
    have direct (method : Bytes) (path : String) := @directRequest_append rest rest' head surplus
      surplus' bytes method path
    have proxied (token : Bytes) := @proxiedRequest_append rest rest' head surplus surplus' bytes
      token
    refine ⟨iff_of_true (by rw [returned]; rfl) headed, by rw [returned, returned']; rfl, ?_, ?_⟩
    · simp only [handleHttp, returned, returned', Request.first]
      split
      · rfl
      · rfl
      · rfl
      · split
        · exact outside_connectDirect (by simpa using bytes)
        · exact outside_proxyConnect bytes
      · split
        · exact outside_connectDirect (by simpa using direct _ _)
        · exact outside_proxyPlain proxied
    · simp only [handleDirectHttp, returned, returned', Request.first]
      split
      · rfl
      · rfl
      · rfl
      · exact outside_connectDirect (by simpa using bytes)
      · exact outside_connectDirect (by simpa using direct _ _)
  · rw [if_neg headed] at read read'
    refine ⟨iff_of_false (by rw [read]; simp) headed, by rw [read, read'], ?_, ?_⟩
    · rw [handleHttp, handleHttp, read, read']
    · rw [handleDirectHttp, handleDirectHttp, read, read']

/-- Two upstreams that open every tunnel; every direct connection is made. -/
def sampleWorld : World 2 where
  upstreams := sampleUpstreams
  network := willingNetwork
  noProxy := []
  direct _ _ := some []

theorem request_chunking_invariant_sample :
    let first := ascii "GET http://host/ HTTP/1.1\r\n\r"
    let second := ascii "\nbody"
    (handleHttp sampleLibrary sampleWorld (.initial 2) [first, second]).outside =
        (handleHttp sampleLibrary sampleWorld (.initial 2) [first ++ second]).outside ∧
      (readRequest [first, second]).isSome = true := by
  intro first second
  have chunked : Stream.Chunked [first, second] := by decide
  have chunked' : Stream.Chunked [first ++ second] := by decide
  obtain ⟨accepted, -, same, -⟩ := request_chunking_invariant sampleLibrary sampleWorld (.initial 2)
    [first, second] [first ++ second] chunked chunked' (by simp)
  exact ⟨same, accepted.mpr (by decide)⟩

end ProxyLauncher.Transport
