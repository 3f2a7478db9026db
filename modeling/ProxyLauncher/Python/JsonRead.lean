import ProxyLauncher.Python.JsonText

/-!
# Reading JSON values

`json.loads`.  A compact text is read back part by part: what a part is read as does not depend
on what follows it.
-/

namespace ProxyLauncher.Python

def isJsonSpace (char : Char) : Bool :=
  char == ' ' || char == '\t' || char == '\n' || char == '\r'

def skipSpace (cursor : List Char) : List Char := cursor.dropWhile isJsonSpace

/-- The digits before a point; a leading zero stands alone. -/
def integerPart : List Char → List Char
  | '0' :: _ => ['0']
  | cursor => cursor.takeWhile Char.isDigit

def fractionPart : List Char → List Char
  | '.' :: cursor =>
      if cursor.takeWhile Char.isDigit = [] then [] else '.' :: cursor.takeWhile Char.isDigit
  | _ => []

def exponentPart : List Char → List Char
  | [] => []
  | mark :: cursor =>
      let sign := if cursor.head? = some '+' ∨ cursor.head? = some '-' then cursor.take 1 else []
      let digits := (cursor.drop sign.length).takeWhile Char.isDigit
      if (mark = 'e' ∨ mark = 'E') ∧ digits ≠ [] then mark :: sign ++ digits else []

/-- A number; with a fraction or an exponent it is a floating point number.  An integer with too many
digits is not converted. -/
def readNumber (cursor : List Char) : Option (Json × List Char) :=
  let sign := if cursor.head? = some '-' then ['-'] else []
  let cursor := cursor.drop sign.length
  let whole := integerPart cursor
  let cursor := cursor.drop whole.length
  let fraction := fractionPart cursor
  let cursor := cursor.drop fraction.length
  let exponent := exponentPart cursor
  let value : Int := Nat.ofDigitChars 10 whole 0
  if whole = [] then none
  else if fraction = [] ∧ exponent = [] then
    if maxStrDigits < whole.length then none
    else some (.int (if sign = [] then value else -value), cursor)
  else some (.float (.ofList (sign ++ whole ++ fraction ++ exponent)), cursor.drop exponent.length)

/-- A value that is one word, or a number. -/
def readWord (cursor : List Char) : Option (Json × List Char) :=
  let word (text : String) (value : Json) :=
    (expectText text.toList cursor).map fun rest => (value, rest)
  word "null" .null <|> word "true" (.bool true) <|> word "false" (.bool false) <|>
    word "NaN" (.float "NaN") <|> word "Infinity" (.float "Infinity") <|>
    word "-Infinity" (.float "-Infinity") <|> readNumber cursor

/-- `dictionary[key] = value`. -/
def setEntry (entries : List (String × Json)) (key : String) (value : Json) :
    List (String × Json) :=
  if key ∈ entries.map Prod.fst then
    entries.map fun entry => if entry.1 = key then (key, value) else entry
  else entries ++ [(key, value)]

mutual

/-- A value at the start of the text.  The fuel bounds the number of steps. -/
def readValue : Nat → List Char → Option (Json × List Char)
  | 0, _ => none
  | fuel + 1, cursor =>
      match cursor with
      | '"' :: rest => (scanString rest).map fun found => (.string (.ofList found.1), found.2)
      | '[' :: rest =>
          match skipSpace rest with
          | ']' :: rest => some (.array [], rest)
          | rest => readElements fuel [] rest
      | '\x7b' :: rest =>
          match skipSpace rest with
          | '\x7d' :: rest => some (.object [], rest)
          | rest => readMembers fuel [] rest
      | cursor => readWord cursor

/-- The elements of an array after those that were read. -/
def readElements : Nat → List Json → List Char → Option (Json × List Char)
  | 0, _, _ => none
  | fuel + 1, values, cursor => do
      let (value, rest) ← readValue fuel cursor
      match skipSpace rest with
      | ',' :: rest => readElements fuel (values ++ [value]) (skipSpace rest)
      | ']' :: rest => some (.array (values ++ [value]), rest)
      | _ => none

/-- The entries of an object after those that were read. -/
def readMembers : Nat → List (String × Json) → List Char → Option (Json × List Char)
  | 0, _, _ => none
  | fuel + 1, entries, cursor => do
      let (key, rest) ← readString cursor
      match skipSpace rest with
      | ':' :: rest => do
          let (value, rest) ← readValue fuel (skipSpace rest)
          match skipSpace rest with
          | ',' :: rest => readMembers fuel (setEntry entries key value) (skipSpace rest)
          | '\x7d' :: rest => some (.object (setEntry entries key value), rest)
          | _ => none
      | _ => none

end

/-- `json.loads(text)`; `none` is a `ValueError`. -/
def loads (text : String) : Option Json :=
  match readValue (text.toList.length + 1) (skipSpace text.toList) with
  | some (value, rest) => if skipSpace rest = [] then some value else none
  | none => none

/-- How deep the arrays and objects of a text are nested, and whether the text starts in a string. -/
def nesting (quoted : Bool) (depth : Nat) : List Char → Nat
  | [] => depth
  | '\\' :: _ :: rest => nesting quoted depth rest
  | char :: rest =>
      if char = '"' then nesting (!quoted) depth rest
      else if quoted then nesting true depth rest
      else if char = '[' ∨ char = '\x7b' then max (depth + 1) (nesting false (depth + 1) rest)
      else if char = ']' ∨ char = '\x7d' then nesting false (depth - 1) rest
      else nesting false depth rest

/-- `json.loads(text)` when so many nested calls of the decoder are left; `none` is a `ValueError` or
a `RecursionError`. -/
def loadsWithin (limit : Nat) (text : String) : Option Json :=
  if limit < nesting false 0 text.toList then none else loads text

example : nesting false 0 "[\x7b\"[\": [[1]]\x7d]".toList = 4 := by decide

/-- What may follow a value in a compact text. -/
def Follows (rest : List Char) : Prop :=
  ∀ head ∈ rest.head?, head = ',' ∨ head = ']' ∨ head = '\x7d'

/-- The text of a value, which is read whatever follows it. -/
structure Reads (text : List Char) (value : Json) : Prop where
  start : ∃ head tail, text = head :: tail ∧ isJsonSpace head = false ∧ head ≠ ']'
  read : ∀ fuel rest, text.length < fuel → Follows rest →
    readValue fuel (text ++ rest) = some (value, rest)

/-- The characters of a string that need no escape. -/
def PlainText (chars : List Char) : Prop :=
  ∀ char ∈ chars, 32 ≤ char.toNat ∧ char ≠ '"' ∧ char ≠ '\\'

instance (chars : List Char) : Decidable (PlainText chars) :=
  decidable_of_iff
    ((chars.all fun char => 32 ≤ char.toNat && char != '"' && char != '\\') = true)
    (by simp [PlainText, and_assoc])

/-- A string without escapes. -/
def plainQuote (chars : List Char) : List Char := '"' :: chars ++ ['"']

variable {chars text rest : List Char} {value : Json}

theorem skipSpace_of_not_space {char : Char} (solid : isJsonSpace char = false) :
    skipSpace (char :: rest) = char :: rest :=
  List.dropWhile_cons_of_neg (by simp [solid])

theorem scanString_plainText (plain : PlainText chars) (rest : List Char) :
    scanString (chars ++ '"' :: rest) = some (chars, rest) := by
  induction chars with
  | nil => rfl
  | cons char chars ih =>
      obtain ⟨⟨printable, quotation, backslash⟩, others⟩ := List.forall_mem_cons.mp plain
      rw [List.cons_append, scanString_plain _ quotation backslash printable, ih others]
      rfl

theorem reads_string (plain : PlainText chars) :
    Reads (plainQuote chars) (.string (.ofList chars)) where
  start := ⟨'"', chars ++ ['"'], rfl, by decide, by decide⟩
  read := by
    intro fuel rest enough _
    cases fuel with
    | zero => exact absurd enough (Nat.not_lt_zero _)
    | succ fuel =>
        have scanned := scanString_plainText plain rest
        simp only [plainQuote, List.cons_append, List.append_assoc, List.nil_append, readValue,
          scanned, Option.map_some]

theorem isDigit_of_mem_natText {number : Nat} {char : Char} (member : char ∈ natText number) :
    char.isDigit = true :=
  Nat.isDigit_of_mem_toDigits (by decide) (by decide) member

theorem takeWhile_natText (number : Nat) (follows : Follows rest) :
    (natText number ++ rest).takeWhile Char.isDigit = natText number := by
  rw [List.takeWhile_append_of_pos fun char member => isDigit_of_mem_natText member]
  cases rest with
  | nil => simp
  | cons head rest =>
      have noDigit : ¬ head.isDigit = true := by
        rcases follows head rfl with rfl | rfl | rfl <;> decide
      rw [List.takeWhile_cons_of_neg noDigit, List.append_nil]

/-- Only zero starts with a zero. -/
theorem head_natText {number : Nat} (positive : 0 < number) :
    (natText number).head? ≠ some '0' := by
  induction number using Nat.strongRecOn with
  | ind number ih =>
      rw [natText]
      rcases Nat.lt_or_ge number 10 with small | large
      · rw [Nat.toDigits_of_lt_base small]
        simp
        omega
      · have first := ih (number / 10) (by omega) (by omega)
        rw [Nat.toDigits_of_base_le (by decide) large, List.head?_append_of_ne_nil _
          Nat.toDigits_ne_nil]
        exact first

theorem integerPart_natText (number : Nat) (follows : Follows rest) :
    integerPart (natText number ++ rest) = natText number := by
  rcases Nat.eq_zero_or_pos number with rfl | positive
  · rfl
  · have first := head_natText positive
    have digits := takeWhile_natText number follows
    unfold integerPart
    split
    · rename_i same
      cases shape : natText number with
      | nil => exact absurd shape Nat.toDigits_ne_nil
      | cons head tail =>
          rw [shape, List.cons_append] at same
          obtain ⟨rfl, -⟩ := List.cons.inj same
          exact absurd (by rw [shape]; rfl) first
    · exact digits

/-- A text that starts with a digit is a number. -/
theorem readValue_digit {head : Char} {tail : List Char} (digit : head.isDigit = true)
    (fuel : Nat) : readValue (fuel + 1) (head :: tail) = readNumber (head :: tail) := by
  have different (char : Char) (noDigit : char.isDigit = false) : head ≠ char := by
    rintro rfl
    cases digit.symm.trans noDigit
  have word : readWord (head :: tail) = readNumber (head :: tail) := by
    have none {first : Char} {others : List Char} (noDigit : first.isDigit = false) :
        expectText (first :: others) (head :: tail) = none :=
      if_neg (different first noDigit)
    unfold readWord
    have shapes : "null".toList = 'n' :: "ull".toList ∧ "true".toList = 't' :: "rue".toList ∧
        "false".toList = 'f' :: "alse".toList ∧ "NaN".toList = 'N' :: "aN".toList ∧
        "Infinity".toList = 'I' :: "nfinity".toList ∧
        "-Infinity".toList = '-' :: "Infinity".toList := by decide
    obtain ⟨null, true', false', nan, infinity, negative⟩ := shapes
    simp only [null, true', false', nan, infinity, negative]
    rw [none (by decide), none (by decide), none (by decide), none (by decide), none (by decide),
      none (by decide)]
    rfl
  rw [readValue]
  · exact word
  · exact fun rest same => different '"' (by decide) (List.cons.inj same).1
  · exact fun rest same => different '[' (by decide) (List.cons.inj same).1
  · exact fun rest same => different '\x7b' (by decide) (List.cons.inj same).1

theorem reads_nat (number : Nat) (short : (natText number).length ≤ maxStrDigits) :
    Reads (natText number) (.int number) := by
  obtain ⟨head, tail, shape⟩ := List.exists_cons_of_ne_nil
    (show natText number ≠ [] from Nat.toDigits_ne_nil)
  have digit : head.isDigit = true := isDigit_of_mem_natText (by rw [shape]; exact List.mem_cons_self)
  refine ⟨⟨head, tail, shape, ?_, ?_⟩, fun fuel rest enough follows => ?_⟩
  · have noSpace (char : Char) (noDigit : char.isDigit = false) : (head == char) = false := by
      rw [beq_eq_false_iff_ne]
      rintro rfl
      cases digit.symm.trans noDigit
    simp only [isJsonSpace, noSpace ' ' (by decide), noSpace '\t' (by decide),
      noSpace '\n' (by decide), noSpace '\r' (by decide), Bool.or_false]
  · rintro rfl
    cases digit
  · cases fuel with
    | zero => exact absurd enough (Nat.not_lt_zero _)
    | succ fuel =>
        have whole := integerPart_natText number follows
        have value : Nat.ofDigitChars 10 (natText number) 0 = number :=
          Nat.ofDigitChars_toDigits (by decide) (by decide)
        have read := @readValue_digit head (tail ++ rest) digit fuel
        rw [← List.cons_append, ← shape] at read
        have sign : (natText number ++ rest).head? ≠ some '-' := by
          rw [shape]
          rintro same
          obtain rfl := Option.some.inj same
          cases digit
        have fraction : fractionPart rest = [] := by
          cases rest with
          | nil => rfl
          | cons next rest => rcases follows next rfl with rfl | rfl | rfl <;> rfl
        have exponent : exponentPart rest = [] := by
          cases rest with
          | nil => rfl
          | cons next rest =>
              rcases follows next rfl with rfl | rfl | rfl <;> simp [exponentPart]
        have nonempty : natText number ≠ [] := by simp [shape]
        rw [read, readNumber, if_neg sign]
        simp only [List.length_nil, List.drop_zero, whole, List.drop_left, fraction, exponent,
          value, nonempty, if_false, and_self, if_true, if_neg (not_lt.mpr short)]

theorem commaSeparated_cons_cons (text next : List Char) (texts : List (List Char)) :
    commaSeparated (text :: next :: texts) = text ++ ',' :: commaSeparated (next :: texts) := by
  rw [commaSeparated, List.intercalate_cons_cons, List.append_assoc]
  rfl

theorem Reads.skipSpace_append (reads : Reads text value) (rest : List Char) :
    skipSpace (text ++ rest) = text ++ rest := by
  obtain ⟨head, tail, rfl, solid, -⟩ := reads.start
  exact skipSpace_of_not_space solid

/-- A list of texts starts with the first of them. -/
theorem exists_commaSeparated (text : List Char) (texts : List (List Char)) :
    ∃ more, commaSeparated (text :: texts) = text ++ more := by
  cases texts with
  | nil => exact ⟨[], by simp [commaSeparated]⟩
  | cons next texts => exact ⟨_, commaSeparated_cons_cons text next texts⟩

theorem readElements_items {items : List (List Char × Json)}
    (reads : ∀ item ∈ items, Reads item.1 item.2) (nonempty : items ≠ []) (fuel : Nat)
    (values : List Json) (rest : List Char)
    (enough : (commaSeparated (items.map Prod.fst)).length + 1 < fuel) :
    readElements fuel values (commaSeparated (items.map Prod.fst) ++ ']' :: rest) =
      some (.array (values ++ items.map Prod.snd), rest) := by
  induction items generalizing fuel values with
  | nil => exact absurd rfl nonempty
  | cons item items ih =>
      obtain ⟨first, others⟩ := List.forall_mem_cons.mp reads
      cases fuel with
      | zero => exact absurd enough (Nat.not_lt_zero _)
      | succ fuel =>
          cases items with
          | nil =>
              have alone : commaSeparated [item.1] = item.1 := by simp [commaSeparated]
              rw [List.map_singleton, alone] at enough ⊢
              have read := first.read fuel (']' :: rest) (by omega) (by simp [Follows])
              rw [readElements, read]
              rfl
          | cons next items =>
              rw [List.map_cons, List.map_cons, commaSeparated_cons_cons] at enough ⊢
              rw [List.length_append, List.length_cons] at enough
              have read := first.read fuel
                (',' :: (commaSeparated ((next :: items).map Prod.fst) ++ ']' :: rest))
                (by omega) (by simp [Follows])
              obtain ⟨more, starts⟩ := exists_commaSeparated next.1 (items.map Prod.fst)
              have solid : skipSpace (commaSeparated ((next :: items).map Prod.fst) ++ ']' :: rest) =
                  commaSeparated ((next :: items).map Prod.fst) ++ ']' :: rest := by
                rw [List.map_cons, starts, List.append_assoc]
                exact (others next List.mem_cons_self).skipSpace_append _
              have later := ih others (by simp) fuel (values ++ [item.2]) (by
                rw [List.map_cons]
                omega)
              have comma : skipSpace
                  (',' :: (commaSeparated ((next :: items).map Prod.fst) ++ ']' :: rest)) =
                  ',' :: (commaSeparated ((next :: items).map Prod.fst) ++ ']' :: rest) := rfl
              rw [readElements, List.append_assoc, List.cons_append]
              rw [List.map_cons] at read comma solid later
              simp only [read, Option.bind_eq_bind, Option.bind_some, comma, solid, later]
              simp

theorem reads_array {items : List (List Char × Json)}
    (reads : ∀ item ∈ items, Reads item.1 item.2) :
    Reads ('[' :: commaSeparated (items.map Prod.fst) ++ [']'])
      (.array (items.map Prod.snd)) where
  start := ⟨'[', _, rfl, by decide, by decide⟩
  read := by
    intro fuel rest enough _
    cases fuel with
    | zero => exact absurd enough (Nat.not_lt_zero _)
    | succ fuel =>
        cases items with
        | nil => rfl
        | cons item items =>
            have read := readElements_items reads (by simp) fuel [] rest (by
              rw [List.length_append, List.length_cons, List.length_singleton] at enough
              omega)
            obtain ⟨more, starts⟩ := exists_commaSeparated item.1 (items.map Prod.fst)
            obtain ⟨head, tail, shape, solid, bracket⟩ := (reads item List.mem_cons_self).start
            rw [List.cons_append, List.cons_append, List.append_assoc, List.singleton_append, readValue]
            rw [List.map_cons, starts, shape] at read ⊢
            simp only [List.cons_append] at read ⊢
            rw [skipSpace_of_not_space solid]
            split
            · rename_i same
              exact absurd (List.cons.inj same).1 bracket
            · exact read

/-- An entry of an object with the text of its value. -/
structure Member where
  key : List Char
  text : List Char
  value : Json

def Member.source (member : Member) : List Char :=
  plainQuote member.key ++ ':' :: member.text

def Member.entry (member : Member) : String × Json := (.ofList member.key, member.value)

/-- The key needs no escape, and the text is that of the value. -/
def Member.Readable (member : Member) : Prop :=
  PlainText member.key ∧ Reads member.text member.value

theorem setEntry_of_notMem {entries : List (String × Json)} {key : String}
    (absent : key ∉ entries.map Prod.fst) (value : Json) :
    setEntry entries key value = entries ++ [(key, value)] := if_neg absent

theorem readString_plainQuote (plain : PlainText chars) (rest : List Char) :
    readString (plainQuote chars ++ rest) = some (.ofList chars, rest) := by
  have scanned := scanString_plainText plain rest
  simp only [plainQuote, List.cons_append, List.append_assoc, List.nil_append, readString,
    scanned, Option.map_some]

/-- One entry is read, up to the character that follows it. -/
theorem readMembers_succ {member : Member} (readable : member.Readable) {fuel : Nat}
    {entries : List (String × Json)} (absent : member.entry.1 ∉ entries.map Prod.fst)
    (enough : member.text.length < fuel) (follows : Follows rest) :
    readMembers (fuel + 1) entries (member.source ++ rest) =
      match skipSpace rest with
      | ',' :: rest => readMembers fuel (entries ++ [member.entry]) (skipSpace rest)
      | '\x7d' :: rest => some (.object (entries ++ [member.entry]), rest)
      | _ => none := by
  have key := readString_plainQuote readable.1 (':' :: (member.text ++ rest))
  have colon : skipSpace (':' :: (member.text ++ rest)) = ':' :: (member.text ++ rest) := rfl
  have value := readable.2.read fuel rest enough follows
  rw [readMembers, Member.source, List.append_assoc, List.cons_append, key]
  simp only [Option.bind_eq_bind, Option.bind_some, colon, readable.2.skipSpace_append, value]
  rw [show setEntry entries (.ofList member.key) member.value = entries ++ [member.entry] from
    setEntry_of_notMem absent member.value]

theorem readMembers_members {members : List Member}
    (readable : ∀ member ∈ members, member.Readable) (nonempty : members ≠ []) (fuel : Nat)
    (entries : List (String × Json)) (rest : List Char)
    (distinct : ((entries ++ members.map Member.entry).map Prod.fst).Nodup)
    (enough : (commaSeparated (members.map Member.source)).length + 1 < fuel) :
    readMembers fuel entries (commaSeparated (members.map Member.source) ++ '\x7d' :: rest) =
      some (.object (entries ++ members.map Member.entry), rest) := by
  induction members generalizing fuel entries with
  | nil => exact absurd rfl nonempty
  | cons member members ih =>
      obtain ⟨first, others⟩ := List.forall_mem_cons.mp readable
      have absent : member.entry.1 ∉ entries.map Prod.fst := by
        intro old
        rw [List.map_append, List.nodup_append] at distinct
        exact distinct.2.2 _ old _ (by simp) rfl
      have shorter : member.text.length < member.source.length := by
        rw [Member.source, List.length_append, List.length_cons]
        omega
      cases fuel with
      | zero => exact absurd enough (Nat.not_lt_zero _)
      | succ fuel =>
          cases members with
          | nil =>
              have alone : commaSeparated [member.source] = member.source := by
                simp [commaSeparated]
              rw [List.map_singleton, alone] at enough ⊢
              rw [readMembers_succ first absent (by omega) (by simp [Follows])]
              rfl
          | cons next members =>
              rw [List.map_cons, List.map_cons, commaSeparated_cons_cons] at enough ⊢
              rw [List.length_append, List.length_cons] at enough
              have later := ih others (by simp) fuel (entries ++ [member.entry])
                (by simpa using distinct) (by
                  rw [List.map_cons]
                  omega)
              obtain ⟨more, starts⟩ := exists_commaSeparated next.source (members.map Member.source)
              have solid : skipSpace (commaSeparated (next.source :: members.map Member.source) ++
                  '\x7d' :: rest) =
                  commaSeparated (next.source :: members.map Member.source) ++ '\x7d' :: rest := by
                rw [starts]
                rfl
              have comma : skipSpace
                  (',' :: (commaSeparated (next.source :: members.map Member.source) ++
                    '\x7d' :: rest)) =
                  ',' :: (commaSeparated (next.source :: members.map Member.source) ++
                    '\x7d' :: rest) := rfl
              rw [List.append_assoc, List.cons_append,
                readMembers_succ first absent (by omega) (by simp [Follows]), comma]
              simp only [solid]
              rw [List.map_cons] at later
              rw [later]
              simp

/-- An object whose keys are distinct. -/
theorem reads_object {members : List Member} (readable : ∀ member ∈ members, member.Readable)
    (distinct : (members.map fun member => member.entry.1).Nodup) :
    Reads ('\x7b' :: commaSeparated (members.map Member.source) ++ ['\x7d'])
      (.object (members.map Member.entry)) where
  start := ⟨'\x7b', _, rfl, by decide, by decide⟩
  read := by
    intro fuel rest enough _
    cases fuel with
    | zero => exact absurd enough (Nat.not_lt_zero _)
    | succ fuel =>
        cases members with
        | nil => rfl
        | cons member members =>
            have read := readMembers_members readable (by simp) fuel [] rest
              (by rwa [List.nil_append, List.map_map]) (by
                rw [List.length_append, List.length_cons, List.length_singleton] at enough
                omega)
            obtain ⟨more, starts⟩ :=
              exists_commaSeparated member.source (members.map Member.source)
            rw [List.cons_append, List.cons_append, List.append_assoc, List.singleton_append, readValue]
            rw [List.map_cons, starts] at read ⊢
            exact read

/-- A text that is read whatever follows it is a document. -/
theorem Reads.loads (reads : Reads text value) : loads (.ofList text) = some value := by
  have solid := reads.skipSpace_append []
  have read := reads.read (text.length + 1) [] (Nat.lt_succ_self _) (by simp [Follows])
  rw [List.append_nil] at solid read
  rw [Python.loads, String.toList_ofList, solid, read]
  rfl

end ProxyLauncher.Python
