import ProxyLauncher.Transport.Stream

/-!
# Messages of lines

A message has a first line, header lines and a body.  The first empty line ends the header, so
a message is put together and taken apart without loss.
-/

namespace ProxyLauncher.Transport

open Python

structure Message where
  first : Bytes
  headers : List Bytes
  body : Bytes
  deriving DecidableEq

/-- The message in some bytes; there is none while its header does not end. -/
def parseMessage (data : Bytes) : Option Message :=
  (cut marker data).map fun found =>
    { first := (splitCrlf found.1).headD [], headers := (splitCrlf found.1).tail,
      body := found.2 }

/-- A line has no end of line in it. -/
def IsLine (line : Bytes) : Prop := ¬ crlf <:+: line

instance (line : Bytes) : Decidable (IsLine line) :=
  inferInstanceAs (Decidable (¬ crlf <:+: line))

/-- The lines of a message; an empty header line would end the header. -/
structure Message.WellFormed (message : Message) : Prop where
  first : IsLine message.first
  headers : ∀ line ∈ message.headers, IsLine line ∧ line ≠ []

def Message.header (message : Message) : Bytes :=
  joinCrlf (message.first :: message.headers)

def Message.bytes (message : Message) : Bytes :=
  message.header ++ marker ++ message.body

variable {line rest body : Bytes} {lines : List Bytes} {byte : UInt8}

theorem IsLine.of_cons (isLine : IsLine (byte :: line)) : IsLine line :=
  fun inside => isLine (List.infix_cons_iff.mpr (.inr inside))

/-- The first end of line after a line is the one that ends it. -/
theorem IsLine.not_prefix (isLine : IsLine line) (nonempty : line ≠ []) (rest : Bytes) :
    ¬ crlf <+: line ++ crlf ++ rest := by
  intro start
  cases line with
  | nil => exact nonempty rfl
  | cons byte line =>
      cases line with
      | nil => simp [crlf] at start
      | cons next line =>
          refine isLine (List.IsPrefix.isInfix ?_)
          simpa [crlf] using start

theorem splitCrlf_cons (not : ¬ crlf <+: byte :: rest) (split : splitCrlf rest = line :: lines) :
    splitCrlf (byte :: rest) = (byte :: line) :: lines := by
  rw [splitCrlf, split]
  rintro rest' rfl rfl
  exact not ⟨rest', rfl⟩

theorem joinCrlf_cons_cons (line next : Bytes) (lines : List Bytes) :
    joinCrlf (line :: next :: lines) = line ++ crlf ++ joinCrlf (next :: lines) :=
  List.intercalate_cons_cons

/-- The lines of some bytes, joined, are the bytes again. -/
theorem splitCrlf_spec (data : Bytes) :
    ∃ line lines, splitCrlf data = line :: lines ∧ joinCrlf (line :: lines) = data ∧
      ∀ other ∈ line :: lines, IsLine other := by
  induction data using splitCrlf.induct with
  | case1 => exact ⟨[], [], rfl, rfl, by decide⟩
  | case2 rest ih =>
      obtain ⟨line, lines, split, joined, isLine⟩ := ih
      refine ⟨[], line :: lines, by rw [splitCrlf, split], ?_, ?_⟩
      · rw [joinCrlf_cons_cons, joined]
        rfl
      · exact List.forall_mem_cons.mpr ⟨by decide, isLine⟩
  | case3 byte rest not empty ih =>
      obtain ⟨line, lines, split, -⟩ := ih
      cases empty.symm.trans split
  | case4 byte rest not line' lines' split' ih =>
      obtain ⟨line, lines, split, rfl, isLine⟩ := ih
      have start : ¬ crlf <+: byte :: joinCrlf (line :: lines) := by
        rintro ⟨rest', same⟩
        obtain ⟨rfl, tail⟩ := List.cons.inj same
        exact not rest' rfl tail.symm
      refine ⟨byte :: line, lines, splitCrlf_cons start split, ?_, ?_⟩
      · exact List.intercalate_cons_cons_left
      · obtain ⟨isLine, others⟩ := List.forall_mem_cons.mp isLine
        refine List.forall_mem_cons.mpr ⟨fun inside => ?_, others⟩
        rcases List.infix_cons_iff.mp inside with here | later
        · refine start (here.trans (List.cons_prefix_cons.mpr ⟨rfl, ?_⟩))
          cases lines with
          | nil => simp [joinCrlf]
          | cons next lines => simp [joinCrlf_cons_cons]
        · exact isLine later

/-- What follows a line does not change it. -/
theorem splitCrlf_append (isLine : IsLine line) (rest : Bytes) :
    splitCrlf (line ++ crlf ++ rest) = line :: splitCrlf rest := by
  induction line with
  | nil => rfl
  | cons byte line ih =>
      exact splitCrlf_cons (isLine.not_prefix (by simp) rest) (ih isLine.of_cons)

theorem splitCrlf_line (isLine : IsLine line) : splitCrlf line = [line] := by
  induction line with
  | nil => rfl
  | cons byte line ih =>
      exact splitCrlf_cons (fun start => isLine start.isInfix) (ih isLine.of_cons)

theorem splitCrlf_joinCrlf (isLine : ∀ other ∈ line :: lines, IsLine other) :
    splitCrlf (joinCrlf (line :: lines)) = line :: lines := by
  obtain ⟨first, others⟩ := List.forall_mem_cons.mp isLine
  induction lines generalizing line with
  | nil => simpa [joinCrlf] using splitCrlf_line first
  | cons next lines ih =>
      have rest := ih others (others next (by simp)) fun other member => others other (by simp [member])
      rw [joinCrlf_cons_cons, splitCrlf_append first, rest]

theorem marker_eq : marker = crlf ++ crlf := rfl

/-- After a line comes the end of the header, or it is in what follows. -/
theorem cut_marker_line (isLine : IsLine line) (rest : Bytes) :
    cut marker (line ++ crlf ++ rest) =
      if crlf <+: rest then some (line, rest.drop 2)
      else (cut marker rest).map fun found => (line ++ crlf ++ found.1, found.2) := by
  induction line with
  | nil =>
      have here : (marker.isPrefixOf (13 :: 10 :: rest)) = true ↔ crlf <+: rest := by
        rw [List.isPrefixOf_iff_prefix]
        simp [marker, crlf]
      have next : (marker.isPrefixOf (10 :: rest)) = false := rfl
      show cut marker (13 :: 10 :: rest) = _
      rw [cut, cut, next]
      simp only [here]
      split
      · rfl
      · simp [Function.comp_def, crlf]
  | cons byte line ih =>
      have not : ¬ marker.isPrefixOf (byte :: (line ++ crlf ++ rest)) = true := by
        intro start
        refine isLine.not_prefix (by simp) rest (List.IsPrefix.trans ?_
          (List.isPrefixOf_iff_prefix.mp start))
        exact List.prefix_append crlf crlf
      rw [List.cons_append, List.cons_append, cut, if_neg not, ih isLine.of_cons]
      split
      · rfl
      · simp [Function.comp_def]

/-- The end of the header of well-formed lines. -/
theorem cut_marker_joinCrlf (first : IsLine line)
    (headers : ∀ other ∈ lines, IsLine other ∧ other ≠ []) (body : Bytes) :
    cut marker (joinCrlf (line :: lines) ++ marker ++ body) =
      some (joinCrlf (line :: lines), body) := by
  induction lines generalizing line with
  | nil =>
      have found := cut_marker_line first (crlf ++ body)
      rw [if_pos (List.prefix_append _ _)] at found
      simpa [joinCrlf, marker_eq, crlf] using found
  | cons next lines ih =>
      obtain ⟨⟨isLine, nonempty⟩, others⟩ := List.forall_mem_cons.mp headers
      have found := cut_marker_line first (joinCrlf (next :: lines) ++ marker ++ body)
      have not : ¬ crlf <+: joinCrlf (next :: lines) ++ marker ++ body := by
        cases lines with
        | nil => simpa [joinCrlf, marker_eq] using isLine.not_prefix nonempty (crlf ++ body)
        | cons other lines =>
            simpa [joinCrlf_cons_cons] using
              isLine.not_prefix nonempty (joinCrlf (other :: lines) ++ marker ++ body)
      rw [if_neg not, ih isLine others] at found
      simpa [joinCrlf_cons_cons] using found

/-- No header line before the end of the header is empty. -/
theorem ne_nil_of_cut_marker (isLine : ∀ other ∈ line :: lines, IsLine other)
    (found : cut marker (joinCrlf (line :: lines) ++ marker ++ body) =
      some (joinCrlf (line :: lines), body)) : ∀ other ∈ lines, other ≠ [] := by
  obtain ⟨first, others⟩ := List.forall_mem_cons.mp isLine
  induction lines generalizing line with
  | nil => simp
  | cons next lines ih =>
      have step := cut_marker_line first (joinCrlf (next :: lines) ++ marker ++ body)
      have whole : joinCrlf (line :: next :: lines) ++ marker ++ body =
          line ++ crlf ++ (joinCrlf (next :: lines) ++ marker ++ body) := by
        simp [joinCrlf_cons_cons]
      rw [whole, step] at found
      split at found
      · have length := congrArg List.length (congrArg Prod.fst (Option.some.inj found))
        simp [joinCrlf_cons_cons, crlf] at length
      · rename_i not
        obtain ⟨⟨front, rest⟩, inner, same⟩ := Option.map_eq_some_iff.mp found
        obtain ⟨front_eq, rfl⟩ := Prod.mk.inj same
        rw [joinCrlf_cons_cons, List.append_cancel_left_eq] at front_eq
        subst front_eq
        refine List.forall_mem_cons.mpr ⟨?_, ?_⟩
        · rintro rfl
          refine not ?_
          cases lines with
          | nil => exact ⟨crlf ++ rest, by simp [joinCrlf, marker_eq]⟩
          | cons other lines =>
              exact ⟨joinCrlf (other :: lines) ++ marker ++ rest, by simp [joinCrlf_cons_cons]⟩
        · exact ih others inner (others next (by simp))
            fun other member => others other (by simp [member])

/-- Bytes have a message exactly when they are the bytes of one. -/
theorem parseMessage_eq_some_iff {data : Bytes} {message : Message} :
    parseMessage data = some message ↔ data = message.bytes ∧ message.WellFormed := by
  constructor
  · intro parsed
    obtain ⟨⟨front, body⟩, found, rfl⟩ := Option.map_eq_some_iff.mp parsed
    obtain ⟨line, lines, split, rfl, isLine⟩ := splitCrlf_spec front
    have whole := eq_append_of_cut found
    rw [← List.append_assoc] at whole
    subst whole
    simp only [split, List.headD_cons, List.tail_cons]
    refine ⟨rfl, isLine line (by simp), fun other member => ⟨isLine other (by simp [member]), ?_⟩⟩
    exact ne_nil_of_cut_marker isLine found other member
  · rintro ⟨rfl, first, headers⟩
    have isLine : ∀ other ∈ message.first :: message.headers, IsLine other :=
      List.forall_mem_cons.mpr ⟨first, fun other member => (headers other member).1⟩
    rw [parseMessage, Message.bytes, Message.header, cut_marker_joinCrlf first headers,
      Option.map_some, splitCrlf_joinCrlf isLine]
    rfl

end ProxyLauncher.Transport
