import ProxyLauncher.Python.Bytes

/-!
# Byte streams in chunks

What a peer sends arrives in chunks; `recv` returns at most one of them, or a part of it.
The two header readers of the transport collect chunks until an empty line has come.
-/

namespace ProxyLauncher.Transport

open Python

/-- The chunks that are still to be received; after them the stream has ended. -/
abbrev Stream := List Bytes

/-- No chunk is empty: `recv` returns an empty one only at the end. -/
def Stream.Chunked (stream : Stream) : Prop :=
  ∀ chunk ∈ stream, chunk ≠ []

instance (stream : Stream) : Decidable stream.Chunked :=
  inferInstanceAs (Decidable (∀ chunk ∈ stream, chunk ≠ []))

/-- `recv(limit)`. -/
def recv (limit : Nat) : Stream → Bytes × Stream
  | [] => ([], [])
  | chunk :: rest =>
      if chunk.length ≤ limit then (chunk, rest)
      else (chunk.take limit, chunk.drop limit :: rest)

/-- `b"\r\n\r\n"`. -/
def marker : Bytes := [13, 10, 13, 10]

inductive OsError where
  | tooLarge
  | closed
  deriving DecidableEq

/-- `while marker not in data`: chunks of at most `size` bytes, `limit` bytes in all.  The
fuel bounds the number of turns. -/
def readUntilMarker (size limit : Nat) : Nat → Bytes → Stream → Except OsError (Bytes × Stream)
  | 0, _, _ => .error .tooLarge
  | fuel + 1, data, stream =>
      if (cut marker data).isSome then .ok (data, stream)
      else if limit ≤ data.length then .error .tooLarge
      else
        match recv (min size (limit - data.length)) stream with
        | ([], _) => .error .closed
        | (chunk, rest) => readUntilMarker size limit fuel (data ++ chunk) rest

variable {size limit fuel : Nat} {stream rest : Stream} {data chunk : Bytes}

theorem recv_append (limit : Nat) (stream : Stream) :
    (recv limit stream).1 ++ (recv limit stream).2.flatten = stream.flatten := by
  cases stream with
  | nil => rfl
  | cons chunk rest =>
      rw [recv]
      split
      · rfl
      · simp [← List.append_assoc]

theorem recv_length_le (limit : Nat) (stream : Stream) : (recv limit stream).1.length ≤ limit := by
  cases stream with
  | nil => exact Nat.zero_le _
  | cons chunk rest =>
      rw [recv]
      split
      · assumption
      · simp

theorem recv_chunked (chunked : stream.Chunked) (limit : Nat) : (recv limit stream).2.Chunked := by
  cases stream with
  | nil => exact chunked
  | cons chunk rest =>
      rw [recv]
      split
      · exact fun other member => chunked other (List.mem_cons_of_mem _ member)
      · rename_i long
        intro other member
        rcases List.mem_cons.mp member with rfl | later
        · intro none
          exact long (List.drop_eq_nil_iff.mp none)
        · exact chunked other (List.mem_cons_of_mem _ later)

/-- Nothing is received only at the end of the stream. -/
theorem recv_eq_nil_iff (chunked : stream.Chunked) (positive : 0 < limit) :
    (recv limit stream).1 = [] ↔ stream = [] := by
  cases stream with
  | nil => simp [recv]
  | cons chunk rest =>
      have nonempty := chunked chunk (by simp)
      rw [recv]
      split
      · simp [nonempty]
      · simp [nonempty]
        omega

theorem flatten_eq_nil_iff (chunked : stream.Chunked) : stream.flatten = [] ↔ stream = [] := by
  cases stream with
  | nil => simp
  | cons chunk rest => simp [chunked chunk (by simp)]

/-- The marker is in the first `limit` bytes. -/
def Headed (limit : Nat) (bytes : Bytes) : Prop :=
  marker <:+: bytes.take limit

instance : Decidable (Headed limit data) :=
  inferInstanceAs (Decidable (marker <:+: data.take limit))

theorem readUntilMarker_succ (size limit fuel : Nat) (data : Bytes) (stream : Stream) :
    readUntilMarker size limit (fuel + 1) data stream =
      if (cut marker data).isSome then .ok (data, stream)
      else if limit ≤ data.length then .error .tooLarge
      else if (recv (min size (limit - data.length)) stream).1 = [] then .error .closed
      else readUntilMarker size limit fuel
        (data ++ (recv (min size (limit - data.length)) stream).1)
        (recv (min size (limit - data.length)) stream).2 := by
  rw [readUntilMarker]
  split
  · rfl
  · split
    · rfl
    · rcases recv (min size (limit - data.length)) stream with ⟨chunk, rest⟩
      cases chunk with
      | nil => rfl
      | cons byte chunk => rfl

/-- The reader returns exactly when the marker ends within the limit, and then it has read a
part of the stream that contains it.  The error tells whether the stream ended before. -/
theorem readUntilMarker_spec (positive : 0 < size) (chunked : stream.Chunked)
    (fits : data.length ≤ limit) (enough : limit < fuel + data.length) :
    if Headed limit (data ++ stream.flatten) then
      ∃ read rest, readUntilMarker size limit fuel data stream = .ok (read, rest) ∧
        read ++ rest.flatten = data ++ stream.flatten ∧ read.length ≤ limit ∧
        marker <:+: read ∧ rest.Chunked
    else
      readUntilMarker size limit fuel data stream =
        .error (if (data ++ stream.flatten).length < limit then .closed else .tooLarge) := by
  induction fuel generalizing data stream with
  | zero => omega
  | succ fuel ih =>
      rw [readUntilMarker_succ]
      by_cases here : (cut marker data).isSome = true
      · have inside := cut_isSome_iff.mp here
        have headed : Headed limit (data ++ stream.flatten) := by
          rw [Headed, List.take_append]
          rw [List.take_of_length_le fits]
          exact inside.trans (List.prefix_append _ _).isInfix
        rw [if_pos headed, if_pos here]
        exact ⟨data, stream, rfl, rfl, fits, inside, chunked⟩
      · rw [if_neg here]
        by_cases full : limit ≤ data.length
        · have exact' : (data ++ stream.flatten).take limit = data := by
            rw [List.take_append_of_le_length full, List.take_of_length_le fits]
          have headed : ¬ Headed limit (data ++ stream.flatten) := by
            rw [Headed, exact', ← cut_isSome_iff]
            exact here
          rw [if_neg headed, if_pos full, if_neg]
          simp
          omega
        · rw [if_neg full]
          have room : 0 < min size (limit - data.length) := by omega
          by_cases ended : stream = []
          · subst ended
            have headed : ¬ Headed limit (data ++ ([] : Stream).flatten) := by
              rw [Headed, List.flatten_nil, List.append_nil, List.take_of_length_le fits,
                ← cut_isSome_iff]
              exact here
            have nothing : (recv (min size (limit - data.length)) []).1 = [] := rfl
            rw [if_neg headed, if_pos nothing, if_pos]
            simpa using full
          · have received := (recv_eq_nil_iff chunked room).not.mpr ended
            rw [if_neg received]
            have some := List.length_pos_iff.mpr received
            have few := recv_length_le (min size (limit - data.length)) stream
            have next := @ih _ (data ++ (recv (min size (limit - data.length)) stream).1)
              (recv_chunked chunked (min size (limit - data.length)))
              (by rw [List.length_append]; omega) (by rw [List.length_append]; omega)
            rwa [List.append_assoc, recv_append] at next

end ProxyLauncher.Transport
