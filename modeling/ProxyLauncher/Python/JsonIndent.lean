import ProxyLauncher.Python.JsonRead

/-!
# Indented JSON texts

`json.dumps` with `ensure_ascii=False`, `sort_keys=True` and `indent=2`, and how `json.loads` reads
such a text: every part of a list or of a dictionary stands on a line of its own.
-/

namespace ProxyLauncher.Python

/-- A new line at a level of indentation. -/
def newline (level : Nat) : List Char := '\n' :: .replicate (2 * level) ' '

/-- Texts on lines of their own, one level further in. -/
def block (level : Nat) (texts : List (List Char)) : List Char :=
  newline (level + 1) ++ ((',' :: newline (level + 1)).intercalate texts ++ newline level)

/-- An entry of a dictionary on its line. -/
def indentedEntry (entry : String × List Char) : List Char :=
  quote false entry.1 ++ ':' :: ' ' :: entry.2

mutual

/-- `json.dumps(value, ensure_ascii=False, sort_keys=True, indent=2)`, inside of a value. -/
def dumpsIndented (level : Nat) : Json → List Char
  | .null => "null".toList
  | .bool true => "true".toList
  | .bool false => "false".toList
  | .int value => intText value
  | .float text => text.toList
  | .string value => quote false value
  | .array [] => ['[', ']']
  | .array (value :: values) =>
      '[' :: (block level (dumpsIndentedAll (level + 1) (value :: values)) ++ [']'])
  | .object [] => ['\x7b', '\x7d']
  | .object (entry :: entries) =>
      '\x7b' :: (block level ((sortKeys
        (dumpsIndentedEntries (level + 1) (entry :: entries))).map indentedEntry) ++ ['\x7d'])

def dumpsIndentedAll (level : Nat) : List Json → List (List Char)
  | [] => []
  | value :: values => dumpsIndented level value :: dumpsIndentedAll level values

def dumpsIndentedEntries (level : Nat) : List (String × Json) → List (String × List Char)
  | [] => []
  | (key, value) :: entries =>
      (key, dumpsIndented level value) :: dumpsIndentedEntries level entries

end

/-- What may follow a value in an indented text. -/
def EndsLine (rest : List Char) : Prop :=
  ∀ head ∈ rest.head?, head = ',' ∨ head = '\n'

/-- The indented text of a value, which is read whatever follows it on the next lines. -/
structure Written (text : List Char) (value : Json) : Prop where
  start : ∃ head tail, text = head :: tail ∧ isJsonSpace head = false ∧ head ≠ ']'
  read : ∀ fuel rest, text.length < fuel → EndsLine rest →
    readValue fuel (text ++ rest) = some (value, rest)

variable {text rest : List Char} {value : Json} {level : Nat}

theorem skipSpace_newline (level : Nat) (rest : List Char) :
    skipSpace (newline level ++ rest) = skipSpace rest := by
  apply List.dropWhile_append_of_pos
  intro char member
  cases member with
  | head => decide
  | tail _ inside =>
      rw [List.eq_of_mem_replicate inside]
      decide

theorem Written.skipSpace_append (written : Written text value) (rest : List Char) :
    skipSpace (text ++ rest) = text ++ rest := by
  obtain ⟨head, tail, rfl, solid, -⟩ := written.start
  exact skipSpace_of_not_space solid

theorem endsLine_newline (level : Nat) (rest : List Char) : EndsLine (newline level ++ rest) := by
  intro head first
  exact .inr (Option.some.inj first).symm

theorem endsLine_comma (rest : List Char) : EndsLine (',' :: rest) := by
  intro head first
  exact .inl (Option.some.inj first).symm

theorem written_string (text : String) : Written (quote false text) (.string text) where
  start := ⟨'"', _, rfl, by decide, by decide⟩
  read := by
    intro fuel rest enough _
    cases fuel with
    | zero => exact absurd enough (Nat.not_lt_zero _)
    | succ fuel =>
        have read := readString_quote text rest
        have shape : quote false text ++ rest =
            '"' :: (text.toList.flatMap (escapeChar false) ++ '"' :: rest) := by
          simp [quote]
        rw [shape, readString, Option.map_eq_some_iff] at read
        obtain ⟨found, scanned, same⟩ := read
        rw [shape, readValue, scanned, Option.map_some]
        obtain ⟨chars, later⟩ := Prod.mk.inj same
        rw [chars, later]

theorem written_one : Written ['1'] (.int 1) where
  start := ⟨'1', [], rfl, by decide, by decide⟩
  read := by
    intro fuel rest enough ends
    cases fuel with
    | zero => exact absurd enough (Nat.not_lt_zero _)
    | succ fuel =>
        cases rest with
        | nil => rfl
        | cons head rest =>
            rcases ends head rfl with rfl | rfl
            · rfl
            · rfl

/-- The separator between the parts of a block. -/
theorem intercalate_lines (text next : List Char) (texts : List (List Char)) :
    (',' :: newline level).intercalate (text :: next :: texts) =
      text ++ ',' :: (newline level ++ (',' :: newline level).intercalate (next :: texts)) := by
  rw [List.intercalate_cons_cons, List.append_assoc]
  rfl

/-- A block starts with the first of its texts. -/
theorem exists_intercalate_lines (text : List Char) (texts : List (List Char)) :
    ∃ more, (',' :: newline level).intercalate (text :: texts) = text ++ more := by
  cases texts with
  | nil => exact ⟨[], by simp [List.intercalate]⟩
  | cons next texts => exact ⟨_, intercalate_lines text next texts⟩

theorem readElements_block {items : List (List Char × Json)}
    (written : ∀ item ∈ items, Written item.1 item.2) (nonempty : items ≠ []) (fuel : Nat)
    (values : List Json) (rest : List Char)
    (enough : ((',' :: newline (level + 1)).intercalate (items.map Prod.fst)).length + 1 < fuel) :
    readElements fuel values ((',' :: newline (level + 1)).intercalate (items.map Prod.fst) ++
        (newline level ++ ']' :: rest)) =
      some (.array (values ++ items.map Prod.snd), rest) := by
  induction items generalizing fuel values with
  | nil => exact absurd rfl nonempty
  | cons item items ih =>
      obtain ⟨first, others⟩ := List.forall_mem_cons.mp written
      cases fuel with
      | zero => exact absurd enough (Nat.not_lt_zero _)
      | succ fuel =>
          cases items with
          | nil =>
              have alone : (',' :: newline (level + 1)).intercalate [item.1] = item.1 := by
                simp [List.intercalate]
              rw [List.map_singleton, alone] at enough ⊢
              have read := first.read fuel (newline level ++ ']' :: rest) (by omega)
                (endsLine_newline _ _)
              have bracket : skipSpace (']' :: rest) = ']' :: rest := rfl
              rw [readElements, read]
              simp only [Option.bind_eq_bind, Option.bind_some, skipSpace_newline, bracket]
              rfl
          | cons next items =>
              rw [List.map_cons, List.map_cons, intercalate_lines] at enough ⊢
              rw [List.length_append, List.length_cons, List.length_append] at enough
              obtain ⟨more, starts⟩ :=
                @exists_intercalate_lines (level + 1) next.1 (items.map Prod.fst)
              have later := ih others (by simp) fuel (values ++ [item.2]) (by
                rw [List.map_cons]
                omega)
              rw [List.map_cons, starts] at later
              rw [starts, List.append_assoc, List.cons_append, List.append_assoc]
              have read := first.read fuel
                (',' :: (newline (level + 1) ++ (next.1 ++ more ++
                  (newline level ++ ']' :: rest)))) (by omega) (endsLine_comma _)
              have comma (cursor : List Char) : skipSpace (',' :: cursor) = ',' :: cursor := rfl
              have solid : skipSpace (next.1 ++ more ++ (newline level ++ ']' :: rest)) =
                  next.1 ++ more ++ (newline level ++ ']' :: rest) := by
                rw [List.append_assoc]
                exact (others next List.mem_cons_self).skipSpace_append _
              rw [readElements, read]
              simp only [Option.bind_eq_bind, Option.bind_some, comma, skipSpace_newline, solid,
                later]
              simp

theorem written_array {items : List (List Char × Json)}
    (written : ∀ item ∈ items, Written item.1 item.2) (nonempty : items ≠ []) :
    Written ('[' :: (block level (items.map Prod.fst) ++ [']']))
      (.array (items.map Prod.snd)) where
  start := ⟨'[', _, rfl, by decide, by decide⟩
  read := by
    intro fuel rest enough _
    cases fuel with
    | zero => exact absurd enough (Nat.not_lt_zero _)
    | succ fuel =>
        rw [block, List.length_cons, List.length_append, List.length_append, List.length_append,
          newline, List.length_cons] at enough
        have read := @readElements_block level items written nonempty fuel [] rest (by
          rw [newline]
          omega)
        cases items with
        | nil => exact absurd rfl nonempty
        | cons item items =>
            obtain ⟨more, starts⟩ :=
              @exists_intercalate_lines (level + 1) item.1 (items.map Prod.fst)
            obtain ⟨head, tail, shape, solid, bracket⟩ := (written item List.mem_cons_self).start
            rw [List.map_cons, starts, shape] at read
            rw [block, List.map_cons, starts, shape]
            simp only [List.cons_append, List.append_assoc, List.nil_append] at read ⊢
            rw [readValue, skipSpace_newline, skipSpace_of_not_space solid]
            split
            · rename_i same
              exact absurd (List.cons.inj same).1 bracket
            · exact read

/-- An entry of a dictionary with the text of its value. -/
structure IndentedMember where
  key : String
  text : List Char
  value : Json

def IndentedMember.source (member : IndentedMember) : List Char :=
  indentedEntry (member.key, member.text)

def IndentedMember.entry (member : IndentedMember) : String × Json := (member.key, member.value)

/-- The members behind an entry. -/
def membersAfter (fuel : Nat) (entries : List (String × Json)) :
    List Char → Option (Json × List Char)
  | ',' :: rest => readMembers fuel entries (skipSpace rest)
  | '\x7d' :: rest => some (.object entries, rest)
  | _ => none

/-- One entry is read, up to what follows it. -/
theorem readMembers_source {member : IndentedMember} (written : Written member.text member.value)
    {fuel : Nat} {entries : List (String × Json)} (absent : member.key ∉ entries.map Prod.fst)
    (enough : member.text.length < fuel) (ends : EndsLine rest) :
    readMembers (fuel + 1) entries (member.source ++ rest) =
      membersAfter fuel (entries ++ [member.entry]) (skipSpace rest) := by
  have key := readString_quote member.key (':' :: ' ' :: (member.text ++ rest))
  have colon : skipSpace (':' :: ' ' :: (member.text ++ rest)) =
      ':' :: ' ' :: (member.text ++ rest) := rfl
  have blank : skipSpace (' ' :: (member.text ++ rest)) = member.text ++ rest := by
    have skipped : skipSpace (' ' :: (member.text ++ rest)) = skipSpace (member.text ++ rest) :=
      rfl
    rw [skipped, written.skipSpace_append]
  have value := written.read fuel rest enough ends
  rw [readMembers, IndentedMember.source, indentedEntry, List.append_assoc, List.cons_append,
    List.cons_append, key]
  simp only [Option.bind_eq_bind, Option.bind_some, colon, blank, value]
  rw [show setEntry entries member.key member.value = entries ++ [member.entry] from
    setEntry_of_notMem absent member.value]
  rfl

theorem readMembers_block {members : List IndentedMember}
    (written : ∀ member ∈ members, Written member.text member.value) (nonempty : members ≠ [])
    (fuel : Nat) (entries : List (String × Json)) (rest : List Char)
    (distinct : ((entries ++ members.map IndentedMember.entry).map Prod.fst).Nodup)
    (enough : ((',' :: newline (level + 1)).intercalate
      (members.map IndentedMember.source)).length + 1 < fuel) :
    readMembers fuel entries ((',' :: newline (level + 1)).intercalate
        (members.map IndentedMember.source) ++ (newline level ++ '\x7d' :: rest)) =
      some (.object (entries ++ members.map IndentedMember.entry), rest) := by
  induction members generalizing fuel entries with
  | nil => exact absurd rfl nonempty
  | cons member members ih =>
      obtain ⟨first, others⟩ := List.forall_mem_cons.mp written
      have absent : member.key ∉ entries.map Prod.fst := by
        intro old
        rw [List.map_append, List.nodup_append] at distinct
        exact distinct.2.2 _ old _ (by simp [IndentedMember.entry]) rfl
      have shorter : member.text.length < member.source.length := by
        rw [IndentedMember.source, indentedEntry, List.length_append, List.length_cons,
          List.length_cons]
        exact Nat.lt_add_left _ (Nat.lt_add_of_pos_right (Nat.succ_pos 1))
      have solid (other : IndentedMember) (more : List Char) :
          skipSpace (other.source ++ more) = other.source ++ more := rfl
      cases fuel with
      | zero => exact absurd enough (Nat.not_lt_zero _)
      | succ fuel =>
          cases members with
          | nil =>
              have alone : (',' :: newline (level + 1)).intercalate [member.source] =
                  member.source := by
                simp [List.intercalate]
              have brace : skipSpace ('\x7d' :: rest) = '\x7d' :: rest := rfl
              rw [List.map_singleton, alone] at enough ⊢
              rw [readMembers_source first absent (by omega) (endsLine_newline _ _),
                skipSpace_newline, brace]
              rfl
          | cons next members =>
              rw [List.map_cons, List.map_cons, intercalate_lines] at enough ⊢
              rw [List.length_append, List.length_cons, List.length_append] at enough
              obtain ⟨more, starts⟩ :=
                @exists_intercalate_lines (level + 1) next.source
                  (members.map IndentedMember.source)
              have later := ih others (by simp) fuel (entries ++ [member.entry])
                (by simpa using distinct) (by
                  rw [List.map_cons]
                  omega)
              rw [List.map_cons, starts] at later
              have comma (cursor : List Char) : skipSpace (',' :: cursor) = ',' :: cursor := rfl
              rw [starts, List.append_assoc, List.cons_append, List.append_assoc,
                readMembers_source first absent (by omega) (endsLine_comma _), comma]
              simp only [membersAfter, skipSpace_newline, List.append_assoc, solid]
              rw [← List.append_assoc, later]
              simp

/-- A dictionary whose keys are distinct. -/
theorem written_object {members : List IndentedMember}
    (written : ∀ member ∈ members, Written member.text member.value) (nonempty : members ≠ [])
    (distinct : (members.map IndentedMember.key).Nodup) :
    Written ('\x7b' :: (block level (members.map IndentedMember.source) ++ ['\x7d']))
      (.object (members.map IndentedMember.entry)) where
  start := ⟨'\x7b', _, rfl, by decide, by decide⟩
  read := by
    intro fuel rest enough _
    cases fuel with
    | zero => exact absurd enough (Nat.not_lt_zero _)
    | succ fuel =>
        rw [block, List.length_cons, List.length_append, List.length_append, List.length_append,
          newline, List.length_cons] at enough
        have keys : (members.map IndentedMember.entry).map Prod.fst =
            members.map IndentedMember.key := List.map_map
        have read := @readMembers_block level members written nonempty fuel [] rest
          (by rwa [List.nil_append, keys]) (by
            rw [newline]
            omega)
        cases members with
        | nil => exact absurd rfl nonempty
        | cons member members =>
            obtain ⟨more, starts⟩ :=
              @exists_intercalate_lines (level + 1) member.source
                (members.map IndentedMember.source)
            have solid (more : List Char) :
                skipSpace (member.source ++ more) = member.source ++ more := rfl
            rw [List.map_cons, starts] at read
            rw [block, List.map_cons, starts]
            simp only [List.cons_append, List.append_assoc, List.nil_append] at read ⊢
            rw [readValue, skipSpace_newline, solid]
            exact read

/-- The text of a file with one value and a newline at its end. -/
theorem Written.loads (written : Written text value) :
    Python.loads (.ofList (text ++ ['\n'])) = some value := by
  have solid := written.skipSpace_append ['\n']
  have read := written.read (text.length + 1 + 1) ['\n'] (by omega) (by
    intro head first
    exact .inr (Option.some.inj first).symm)
  rw [Python.loads, String.toList_ofList, solid, List.length_append, List.length_singleton, read]
  rfl

theorem digitChar_ne_carriage : ∀ digit < 16, Nat.digitChar digit ≠ '\r' := by decide

theorem carriage_notMem_escapeChar (char : Char) : '\r' ∉ escapeChar false char := by
  have digit (number : Nat) : '\r' ≠ Nat.digitChar (number % 16) :=
    (digitChar_ne_carriage _ (Nat.mod_lt _ (by decide))).symm
  unfold escapeChar
  simp only [Bool.false_eq_true, false_and, if_false]
  split_ifs with quotation backslash feed carriage
  all_goals try decide
  · simp [unicodeEscape, digit]
  · exact fun member => carriage (List.mem_singleton.mp member).symm

/-- Carriage returns are escaped. -/
theorem carriage_notMem_quote (text : String) : '\r' ∉ quote false text := by
  intro member
  rw [quote, List.mem_append, List.mem_cons, List.mem_flatMap, List.mem_singleton] at member
  rcases member with (opening | ⟨char, _, escaped⟩) | closing
  · exact absurd opening (by decide)
  · exact carriage_notMem_escapeChar char escaped
  · exact absurd closing (by decide)

theorem carriage_notMem_newline (level : Nat) : '\r' ∉ newline level := by
  rw [newline, List.mem_cons, not_or]
  constructor
  · decide
  · intro member
    exact absurd (List.eq_of_mem_replicate member) (by decide)

theorem carriage_notMem_block {texts : List (List Char)} (bare : ∀ text ∈ texts, '\r' ∉ text) :
    '\r' ∉ block level texts := by
  have joined : '\r' ∉ (',' :: newline (level + 1)).intercalate texts := by
    induction texts with
    | nil => exact List.not_mem_nil
    | cons text texts ih =>
        obtain ⟨first, others⟩ := List.forall_mem_cons.mp bare
        cases texts with
        | nil => simpa [List.intercalate] using first
        | cons next texts =>
            rw [intercalate_lines, List.mem_append, List.mem_cons, List.mem_append]
            rintro (here | comma | line | later)
            · exact first here
            · exact absurd comma (by decide)
            · exact carriage_notMem_newline _ line
            · exact ih others later
  rw [block, List.mem_append, List.mem_append]
  rintro (line | inside | line)
  · exact carriage_notMem_newline _ line
  · exact joined inside
  · exact carriage_notMem_newline _ line

theorem carriage_notMem_source {member : IndentedMember} (bare : '\r' ∉ member.text) :
    '\r' ∉ member.source := by
  rw [IndentedMember.source, indentedEntry, List.mem_append, List.mem_cons, List.mem_cons]
  rintro (key | colon | blank | text)
  · exact carriage_notMem_quote _ key
  · exact absurd colon (by decide)
  · exact absurd blank (by decide)
  · exact bare text

end ProxyLauncher.Python
