import ProxyLauncher.Texts.Graphemes

/-!
# Tables of proxies

`csvRows` reads the rows of a table from the `Character`s of a text.  A text is the list of its
scalars here.
-/

namespace ProxyLauncher.IOS

open Texts (Properties)

inductive ProxyImportError where
  | unsupported
  | invalid
  | tooLarge
  | empty
deriving DecidableEq

abbrev Row := List (List Char)

/-- The variables of the loop. -/
structure CsvReader where
  rows : List Row := []
  row : Row := []
  cell : List Char := []
  quoted : Bool := false
  closed : Bool := false
  atStart : Bool := true

/-- `char == separator`; the Greek question mark is canonically equivalent to a semicolon. -/
def isSeparator (separator : Char) (char : List Char) : Bool :=
  char = [separator] || (separator = ';' && char = ['\u037e'])

namespace CsvReader

def append (reader : CsvReader) (char : List Char) : CsvReader :=
  { reader with cell := reader.cell ++ char }

/-- The end of a cell, which is one of the row unless it is at a separator. -/
def endCell (reader : CsvReader) (endsRow : Bool) : CsvReader :=
  let row := reader.row ++ [reader.cell]
  { rows := if endsRow then reader.rows ++ [row] else reader.rows
    row := if endsRow then [] else row
    quoted := reader.quoted }

/-- The rows behind the loop. -/
def finish (reader : CsvReader) : Except ProxyImportError (List Row) :=
  if reader.quoted then .error .invalid
  else if reader.row ≠ [] ∨ reader.cell ≠ [] then .ok (reader.rows ++ [reader.row ++ [reader.cell]])
  else .ok reader.rows

/-- The loop of `csvRows`. -/
def loop (separator : Char) (reader : CsvReader) :
    List (List Char) → Except ProxyImportError (List Row)
  | [] => reader.finish
  | char :: chars =>
      if reader.quoted then
        if char = ['"'] then
          match chars with
          | [] => loop separator { reader with quoted := false, closed := true } []
          | next :: later =>
              if next = ['"'] then loop separator (reader.append ['"']) later
              else loop separator { reader with quoted := false, closed := true } (next :: later)
        else loop separator (reader.append char) chars
      else if char = ['"'] then
        if reader.atStart then loop separator { reader with quoted := true } chars
        else .error .invalid
      else if isSeparator separator char || char = ['\n'] || char = ['\r'] then
        let next := reader.endCell (!isSeparator separator char)
        if 201 < next.rows.length then .error .tooLarge
        else
          match chars with
          | [] => loop separator next []
          | following :: later =>
              if char = ['\r'] ∧ ¬ isSeparator separator char ∧ following = ['\n'] then
                loop separator next later
              else loop separator next (following :: later)
      else if reader.closed then .error .invalid
      else loop separator { reader.append char with atStart := false } chars

end CsvReader

/-- `csvRows`. -/
def csvRows (properties : Properties) (separator : Char) (input : List Char) :
    Except ProxyImportError (List Row) :=
  CsvReader.loop separator {} (properties.characters input)

/-- The characters that `csvDelimiter` chooses from. -/
inductive Separator where
  | comma
  | semicolon
  | tab

def Separator.char : Separator → Char
  | .comma => ','
  | .semicolon => ';'
  | .tab => '\t'

/-- A table that is imported as a whole. -/
structure Table where
  rows : List Row
  short : rows.length ≤ 200
  wide : ∀ row ∈ rows, 2 ≤ row.length

/-- The quotes of a cell are doubled. -/
def escape (cell : List Char) : List Char :=
  cell.flatMap fun char => if char = '"' then ['"', '"'] else [char]

def quotedCell (cell : List Char) : List Char :=
  '"' :: (escape cell ++ ['"'])

/-- Quoted cells and the end of their row. -/
def cellsText (separator : Separator) : Row → List Char
  | [] => ['\n']
  | [cell] => quotedCell cell ++ ['\n']
  | cell :: next :: cells => quotedCell cell ++ separator.char :: cellsText separator (next :: cells)

def rowsText (separator : Separator) (rows : List Row) : List Char :=
  rows.flatMap (cellsText separator)

/-- The quote of a pair of scalars in a written cell is part of a larger character. -/
def attached (properties : Properties) (first next : Char) : Bool :=
  (first = '"' && properties.isExtending next) || (next = '"' && properties.isPrepending first)

/-- Between its quotes, the cell does not change what the quotes are. -/
def Clean (properties : Properties) (cell : List Char) : Prop :=
  ('"' :: (cell ++ ['"'])).IsChain fun first next => attached properties first next = false

variable {properties : Properties} {separator : Separator} {char : Char} {run cell rest : List Char}

@[simp] theorem isExtending_quote : properties.isExtending '"' = false :=
  Properties.isExtending_ascii (by decide) (by decide)

@[simp] theorem isPrepending_quote : properties.isPrepending '"' = false :=
  Properties.isPrepending_ascii (by decide) (by decide)

@[simp] theorem isExtending_lf : properties.isExtending '\n' = false := by
  rw [Properties.isExtending, (properties.breakClass_lf _).mpr rfl]
  rfl

@[simp] theorem isExtending_separator : properties.isExtending separator.char = false := by
  cases separator with
  | comma => exact Properties.isExtending_ascii (by decide) (by decide)
  | semicolon => exact Properties.isExtending_ascii (by decide) (by decide)
  | tab =>
      rw [Properties.isExtending, Separator.char, properties.breakClass_tab]
      rfl

@[simp] theorem isPrepending_separator : properties.isPrepending separator.char = false := by
  cases separator with
  | comma => exact Properties.isPrepending_ascii (by decide) (by decide)
  | semicolon => exact Properties.isPrepending_ascii (by decide) (by decide)
  | tab =>
      rw [Properties.isPrepending, Separator.char, properties.breakClass_tab]
      rfl

@[simp] theorem separator_ne_quote : separator.char ≠ '"' := by
  cases separator <;> decide

@[simp] theorem separator_ne_lf : separator.char ≠ '\n' := by
  cases separator <;> decide

theorem characters_quote (free : ∀ char ∈ rest.head?, properties.isExtending char = false) :
    properties.characters ('"' :: rest) = ['"'] :: properties.characters rest :=
  Properties.characters_cons_ascii (by decide) (by decide) free

/-- A quote behind a text that does not end in a prepended scalar is the start of a character. -/
theorem characters_append_quote (free : ∀ char ∈ run.getLast?, properties.isPrepending char = false) :
    properties.characters (run ++ '"' :: rest) =
      properties.characters run ++ properties.characters ('"' :: rest) := by
  apply Properties.characters_append_of_last
  intro other ends
  cases last : other.getLast? with
  | none => simp [Properties.joins, last]
  | some char =>
      rw [Properties.joins_ascii (by decide) (by decide) last]
      exact free char (ends.symm.trans last)

theorem clean_append : Clean properties (run ++ '"' :: cell) ↔
    Clean properties run ∧ Clean properties cell := by
  rw [Clean, List.append_assoc, List.cons_append, ← List.cons_append, List.isChain_split]
  rfl

@[simp] theorem attached_of_quote : attached properties '"' char = properties.isExtending char := by
  simp [attached]

@[simp] theorem attached_quote : attached properties char '"' = properties.isPrepending char := by
  simp [attached]

theorem isChain_plain (plain : '"' ∉ run) :
    run.IsChain fun first next => attached properties first next = false := by
  induction run with
  | nil => exact .nil
  | cons first run ih =>
      rw [List.mem_cons, not_or] at plain
      rw [List.isChain_cons]
      refine ⟨fun next member => ?_, ih plain.2⟩
      have other : next ≠ '"' := fun same => plain.2 (same ▸ List.mem_of_mem_head? member)
      simp [attached, Ne.symm plain.1, other]

/-- A cell without quotes is clean when its first scalar does not extend the quote before it, and
the quote after it is not prepended by its last one. -/
theorem clean_plain (plain : '"' ∉ run) : Clean properties run ↔
    (∀ char ∈ run.head?, properties.isExtending char = false) ∧
      ∀ char ∈ run.getLast?, properties.isPrepending char = false := by
  have inside := @isChain_plain properties run plain
  rw [Clean, List.isChain_cons, List.isChain_append]
  simp only [attached_of_quote, List.isChain_singleton, inside, List.head?_cons, Option.mem_some,
    true_and, forall_eq', attached_quote]
  cases run with
  | nil => simp
  | cons first run => simp

/-- The induction over the quotes in a text. -/
@[elab_as_elim]
theorem quoteInduction {motive : List Char → Prop} (plain : ∀ run, '"' ∉ run → motive run)
    (quote : ∀ run cell, '"' ∉ run → motive cell → motive (run ++ '"' :: cell))
    (cell : List Char) : motive cell := by
  induction length : cell.length using Nat.strong_induction_on generalizing cell with
  | _ size ih =>
      by_cases member : '"' ∈ cell
      · obtain ⟨run, rest, rfl, missing⟩ := List.eq_append_cons_of_mem member
        apply quote run rest missing
        apply ih rest.length _ rest rfl
        rw [← length, List.length_append, List.length_cons]
        omega
      · exact plain cell member

theorem escape_plain (plain : '"' ∉ run) : escape run = run := by
  rw [escape]
  induction run with
  | nil => rfl
  | cons first run ih =>
      rw [List.mem_cons, not_or] at plain
      rw [List.flatMap_cons, if_neg (Ne.symm plain.1), ih plain.2, List.singleton_append]

theorem escape_quote (plain : '"' ∉ run) :
    escape (run ++ '"' :: cell) = run ++ '"' :: '"' :: escape cell := by
  have front := escape_plain plain
  rw [escape] at front ⊢
  rw [List.flatMap_append, front, List.flatMap_cons, if_pos rfl]
  rfl

/-- The first scalar of an escaped text is the one of the text. -/
theorem head?_escape (cell : List Char) : (escape cell).head? = cell.head? := by
  cases cell with
  | nil => rfl
  | cons first cell =>
      rw [escape, List.flatMap_cons]
      split_ifs with quote
      · rw [quote]
        rfl
      · rfl

namespace CsvReader

variable {reader : CsvReader} {char : List Char} {chars later : List (List Char)}
  {delimiter : Char}

/-- The reader behind the closing quote of a cell. -/
def close (reader : CsvReader) : CsvReader :=
  { reader with quoted := false, closed := true }

/-- A step inside of quotes. -/
theorem loop_quoted (inside : reader.quoted = true) :
    loop delimiter reader (char :: chars) =
      if char = ['"'] then
        if chars.head? = some ['"'] then loop delimiter (reader.append ['"']) chars.tail
        else loop delimiter reader.close chars
      else loop delimiter (reader.append char) chars := by
  cases chars with
  | nil =>
      conv_lhs => rw [loop]
      simp [inside, close, loop]
  | cons next chars =>
      conv_lhs => rw [loop]
      simp [inside, close]

/-- A step outside of quotes. -/
theorem loop_unquoted (outside : reader.quoted = false) :
    loop delimiter reader (char :: chars) =
      if char = ['"'] then
        if reader.atStart then loop delimiter { reader with quoted := true } chars
        else .error .invalid
      else if isSeparator delimiter char || char = ['\n'] || char = ['\r'] then
        let next := reader.endCell (!isSeparator delimiter char)
        if 201 < next.rows.length then .error .tooLarge
        else if char = ['\r'] ∧ ¬ isSeparator delimiter char ∧ chars.head? = some ['\n'] then
          loop delimiter next chars.tail
        else loop delimiter next chars
      else if reader.closed then .error .invalid
      else loop delimiter { reader.append char with atStart := false } chars := by
  cases chars with
  | nil =>
      conv_lhs => rw [loop]
      simp [outside, loop]
  | cons next chars =>
      conv_lhs => rw [loop]
      simp [outside]

theorem loop_append (inside : reader.quoted = true) (other : ∀ char ∈ chars, char ≠ ['"']) :
    loop delimiter reader (chars ++ later) =
      loop delimiter (reader.append chars.flatten) later := by
  induction chars generalizing reader with
  | nil =>
      rw [List.flatten_nil, append, List.append_nil, List.nil_append]
  | cons char chars ih =>
      rw [List.forall_mem_cons] at other
      rw [List.cons_append, loop_quoted inside, if_neg other.1,
        ih (show (reader.append char).quoted = true from inside) other.2]
      simp [append]

/-- The scalars behind a quote leave it alone, and none of them is a quote. -/
def Loose (properties : Properties) (rest : List Char) : Prop :=
  ∀ char ∈ rest.head?, properties.isExtending char = false ∧ char ≠ '"'

theorem head?_characters (loose : Loose properties rest) :
    (properties.characters rest).head? ≠ some ['"'] := by
  cases rest with
  | nil => simp [Properties.characters]
  | cons first rest =>
      obtain ⟨more, later, shape⟩ := @Properties.charactersFrom_eq_cons properties [first] rest
      rw [Properties.characters, shape, List.head?_cons, List.singleton_append]
      intro quote
      exact (loose first rfl).2 (List.cons.inj (Option.some.inj quote)).1

theorem quote_notMem_characters (plain : '"' ∉ run) :
    ∀ char ∈ properties.characters run, char ≠ ['"'] := by
  rintro char member rfl
  apply plain
  rw [← @Properties.flatten_characters properties run]
  exact List.mem_flatten.mpr ⟨_, member, List.mem_singleton_self _⟩

theorem head?_of_clean (clean : Clean properties cell) :
    ∀ char ∈ cell.head?, properties.isExtending char = false := by
  intro char member
  have first := (List.isChain_cons.mp clean).1
  rw [← attached_of_quote]
  cases cell with
  | nil => cases member
  | cons head cell => exact first char member

theorem characters_quote_body (free : ∀ char ∈ cell.head?, properties.isExtending char = false) :
    properties.characters ('"' :: (escape cell ++ '"' :: rest)) =
      ['"'] :: properties.characters (escape cell ++ '"' :: rest) := by
  apply characters_quote
  intro char member
  cases cell with
  | nil =>
      obtain rfl : '"' = char := Option.some.inj member
      exact isExtending_quote
  | cons first cell =>
      apply free
      rw [← head?_escape]
      rwa [List.head?_append_of_ne_nil] at member
      intro empty
      have head := head?_escape (first :: cell)
      rw [empty] at head
      cases head

/-- The reader takes a clean cell up to its closing quote. -/
theorem loop_body (inside : reader.quoted = true) (clean : Clean properties cell)
    (loose : Loose properties rest) :
    loop delimiter reader (properties.characters (escape cell ++ '"' :: rest)) =
      loop delimiter (reader.append cell).close (properties.characters rest) := by
  have closing : properties.characters ('"' :: rest) = ['"'] :: properties.characters rest :=
    characters_quote fun char member => (loose char member).1
  induction cell using quoteInduction generalizing reader with
  | plain run plain =>
      have last := ((clean_plain plain).mp clean).2
      rw [escape_plain plain, characters_append_quote last, closing,
        loop_append inside (quote_notMem_characters plain), Properties.flatten_characters,
        loop_quoted (show (reader.append run).quoted = true from inside), if_pos rfl,
        if_neg (head?_characters loose)]
  | quote run cell plain ih =>
      obtain ⟨front, clean⟩ := clean_append.mp clean
      have last := ((clean_plain plain).mp front).2
      have second := @characters_quote_body properties cell rest (head?_of_clean clean)
      have first : properties.characters ('"' :: '"' :: (escape cell ++ '"' :: rest)) =
          ['"'] :: properties.characters ('"' :: (escape cell ++ '"' :: rest)) := by
        apply characters_quote
        rintro char ⟨⟩
        exact isExtending_quote
      rw [escape_quote plain, List.append_assoc, List.cons_append, List.cons_append,
        characters_append_quote last, first, second,
        loop_append inside (quote_notMem_characters plain), Properties.flatten_characters,
        loop_quoted (show (reader.append run).quoted = true from inside), if_pos rfl,
        List.head?_cons, if_pos rfl, List.tail_cons,
        ih (show ((reader.append run).append ['"']).quoted = true from inside) clean]
      simp [append]

variable {rows : List Row} {row : Row}

theorem loop_cell (clean : Clean properties cell) (loose : Loose properties rest) :
    loop delimiter { rows, row } (properties.characters (quotedCell cell ++ rest)) =
      loop delimiter { rows, row, cell, closed := true } (properties.characters rest) := by
  have text : quotedCell cell ++ rest = '"' :: (escape cell ++ '"' :: rest) := by
    simp [quotedCell]
  rw [text, characters_quote_body (head?_of_clean clean), loop_unquoted rfl, if_pos rfl, if_pos rfl,
    loop_body rfl clean loose]
  rfl

theorem isSeparator_char (separator : Separator) :
    isSeparator separator.char [separator.char] = true := by
  simp [isSeparator]

theorem isSeparator_eq_false {char : List Char} (different : char ≠ [separator.char])
    (mark : char ≠ ['\u037e']) : isSeparator separator.char char = false := by
  simp [isSeparator, different, mark]

theorem loop_separator (small : rows.length ≤ 201) (quote : rest.head? = some '"') :
    loop separator.char { rows, row, cell, closed := true }
        (properties.characters (separator.char :: rest)) =
      loop separator.char { rows, row := row ++ [cell] } (properties.characters rest) := by
  cases rest with
  | nil => cases quote
  | cons first rest =>
      obtain rfl : first = '"' := Option.some.inj quote
      have split : properties.characters (separator.char :: '"' :: rest) =
          [separator.char] :: properties.characters ('"' :: rest) := by
        apply @Properties.characters_append_of_last properties [separator.char] rest '"'
        intro other ends
        have last : other.getLast? = some separator.char := ends
        rw [Properties.joins_ascii (by decide) (by decide) last, isPrepending_separator]
      have own : [separator.char] ≠ ['"'] := by simp
      have small' : ¬ 201 < rows.length := not_lt.mpr small
      rw [split, loop_unquoted rfl, if_neg own]
      simp [isSeparator_char, endCell, small']

theorem loop_lf (small : rows.length < 201) :
    loop separator.char { rows, row, cell, closed := true }
        (properties.characters ('\n' :: rest)) =
      loop separator.char { rows := rows ++ [row ++ [cell]] } (properties.characters rest) := by
  have split : properties.characters ('\n' :: rest) = ['\n'] :: properties.characters rest := by
    cases rest with
    | nil => rfl
    | cons first rest =>
        apply @Properties.characters_append_of_last properties ['\n'] rest first
        intro other ends
        exact Properties.joins_of_lf ends
  have other : isSeparator separator.char ['\n'] = false :=
    isSeparator_eq_false (by simp [Ne.symm]) (by decide)
  have small' : ¬ 201 < rows.length + 1 := by omega
  rw [split, loop_unquoted rfl, if_neg (by decide)]
  simp [other, endCell, small']

/-- The reader can still come to these rows. -/
def Reaches (result : List Row) (reader : CsvReader) : Prop :=
  (∃ more cells later, result = reader.rows ++ (reader.row ++ (reader.cell ++ more) :: cells) :: later) ∨
    reader.row = [] ∧ reader.cell = [] ∧ result = reader.rows

theorem reaches_of_append {result : List Row} {text : List Char}
    (reaches : Reaches result (reader.append text)) : Reaches result reader := by
  rcases reaches with ⟨more, cells, later, same⟩ | ⟨row, cell, same⟩
  · exact .inl ⟨text ++ more, cells, later, by simpa [append] using same⟩
  · exact .inr ⟨row, (List.append_eq_nil_iff.mp cell).1, same⟩

theorem reaches_of_endCell {result : List Row} {endsRow : Bool}
    (reaches : Reaches result (reader.endCell endsRow)) : Reaches result reader := by
  cases endsRow with
  | true =>
      rcases reaches with ⟨more, cells, later, same⟩ | ⟨-, -, same⟩
      · exact .inl ⟨[], [], _, by simpa [endCell] using same⟩
      · exact .inl ⟨[], [], [], by simpa [endCell] using same⟩
  | false =>
      rcases reaches with ⟨more, cells, later, same⟩ | ⟨empty, -, -⟩
      · exact .inl ⟨[], _, later, by simpa [endCell] using same⟩
      · cases (List.append_eq_nil_iff.mp empty).2

theorem reaches_of_finish {result : List Row} (done : reader.finish = .ok result) :
    Reaches result reader := by
  rw [finish] at done
  split_ifs at done with inside started
  · obtain rfl := Except.ok.inj done
    exact .inl ⟨[], [], [], by simp⟩
  · obtain rfl := Except.ok.inj done
    rw [not_or, not_not, not_not] at started
    exact .inr ⟨started.1, started.2, rfl⟩

/-- What has been read stays in the result. -/
theorem reaches_of_loop {result : List Row} (done : loop delimiter reader chars = .ok result) :
    Reaches result reader := by
  induction total : chars.length using Nat.strong_induction_on generalizing reader chars with
  | _ size ih =>
      cases chars with
      | nil => exact reaches_of_finish done
      | cons char chars =>
          have shorter : chars.length < size := by rw [← total]; exact Nat.lt_succ_self _
          have tail : chars.tail.length < size :=
            lt_of_le_of_lt (by rw [List.length_tail]; exact Nat.sub_le _ _) shorter
          cases inside : reader.quoted with
          | true =>
              rw [loop_quoted inside] at done
              split_ifs at done
              · exact reaches_of_append (ih _ tail done rfl)
              · exact (ih _ shorter done rfl :)
              · exact reaches_of_append (ih _ shorter done rfl)
          | false =>
              rw [loop_unquoted inside] at done
              dsimp only at done
              split_ifs at done
              · exact (ih _ shorter done rfl :)
              · exact reaches_of_endCell (ih _ tail done rfl)
              · exact reaches_of_endCell (ih _ shorter done rfl)
              · have reached := ih _ shorter done rfl
                exact reaches_of_append (show Reaches result (reader.append char) from reached)

/-! ## Reading another cell -/

variable {result : List Row} {cells : Row} {later' : List Row}

/-- The cell that is being read is the start of the one in the result. -/
theorem prefix_of_reaches (reached : Reaches result reader)
    (expected : result = reader.rows ++ (reader.row ++ cell :: cells) :: later') :
    reader.cell <+: cell := by
  rcases reached with ⟨more, others, rest, same⟩ | ⟨-, empty, -⟩
  · rw [expected, List.append_cancel_left_eq, List.cons.injEq, List.append_cancel_left_eq,
      List.cons.injEq] at same
    exact ⟨more, same.1.1.symm⟩
  · exact empty ▸ List.nil_prefix

/-- The cell that ends is the one in the result. -/
theorem cell_of_reaches {endsRow : Bool} (reached : Reaches result (reader.endCell endsRow))
    (expected : result = reader.rows ++ (reader.row ++ cell :: cells) :: later') :
    reader.cell = cell := by
  cases endsRow with
  | true =>
      rcases reached with ⟨more, others, rest, same⟩ | ⟨-, -, same⟩
      · exact (by simpa [expected, endCell] using same : (cell = reader.cell ∧ _) ∧ _).1.1.symm
      · exact (by simpa [expected, endCell] using same : (cell = reader.cell ∧ _) ∧ _).1.1.symm
  | false =>
      rcases reached with ⟨more, others, rest, same⟩ | ⟨empty, -, -⟩
      · exact (by simpa [expected, endCell] using same : (cell = reader.cell ∧ _) ∧ _).1.1.symm
      · cases (List.append_eq_nil_iff.mp empty).2

/-- The reader has closed the cell too early, and the next character is no quote. -/
theorem loop_closed_early {char : List Char} (closed : reader.closed = true)
    (outside : reader.quoted = false) (other : char ≠ ['"']) (missed : reader.cell ≠ cell)
    (expected : result = reader.rows ++ (reader.row ++ cell :: cells) :: later') :
    loop delimiter reader (char :: chars) ≠ .ok result := by
  rw [loop_unquoted outside, if_neg other]
  dsimp only
  split_ifs
  · intro done
    cases done
  · exact fun done => missed (cell_of_reaches (reaches_of_loop done) expected)
  · exact fun done => missed (cell_of_reaches (reaches_of_loop done) expected)
  · intro done
    cases done

/-- The reader is inside of a cell, and there is one quote too many. -/
theorem loop_extra_quote (inside : reader.quoted = true) (loose : Loose properties rest)
    (expected : result = reader.rows ++ (reader.row ++ (reader.cell ++ cell) :: cells) :: later') :
    loop delimiter reader (properties.characters ('"' :: (escape cell ++ '"' :: rest))) ≠
      .ok result := by
  induction cell generalizing reader with
  | nil =>
      have closing : properties.characters ('"' :: rest) = ['"'] :: properties.characters rest :=
        characters_quote fun char member => (loose char member).1
      have extra : properties.characters ('"' :: (escape [] ++ '"' :: rest)) =
          ['"'] :: ['"'] :: properties.characters rest := by
        rw [← closing]
        apply characters_quote
        rintro char ⟨⟩
        exact isExtending_quote
      rw [extra, loop_quoted inside, if_pos rfl, List.head?_cons, if_pos rfl]
      intro done
      have long := (prefix_of_reaches (reaches_of_loop done) expected).length_le
      simp only [append, List.append_nil, List.length_append, List.length_singleton] at long
      omega
  | cons char cell ih =>
      by_cases quote : char = '"'
      · subst quote
        have text : '"' :: (escape ('"' :: cell) ++ '"' :: rest) =
            '"' :: '"' :: '"' :: (escape cell ++ '"' :: rest) := by
          simp [escape]
        have pair : properties.characters ('"' :: '"' :: '"' :: (escape cell ++ '"' :: rest)) =
            ['"'] :: ['"'] :: properties.characters ('"' :: (escape cell ++ '"' :: rest)) := by
          rw [characters_quote, characters_quote]
          · rintro char ⟨⟩
            exact isExtending_quote
          · rintro char ⟨⟩
            exact isExtending_quote
        rw [text, pair, loop_quoted inside, if_pos rfl, List.head?_cons, if_pos rfl]
        apply ih (show (reader.append ['"']).quoted = true from inside)
        simpa [append] using expected
      · have text : '"' :: (escape (char :: cell) ++ '"' :: rest) =
            '"' :: char :: (escape cell ++ '"' :: rest) := by
          simp [escape, quote]
        rw [text]
        cases extending : properties.isExtending char with
        | true =>
            have joined : properties.joins ['"'] char = true := by
              rw [Properties.joins_of_ascii (by decide) (by decide) rfl, extending]
            obtain ⟨more, chars, shape⟩ := @Properties.characters_cons_joined properties
              (escape cell ++ '"' :: rest) char '"' joined
            rw [shape, loop_quoted inside, if_neg (by simp)]
            intro done
            have start := prefix_of_reaches (reaches_of_loop done) expected
            have inner := (List.prefix_append_right_inj reader.cell).mp start
            exact quote (List.cons_prefix_cons.mp inner).1.symm
        | false =>
            have split : properties.characters ('"' :: char :: (escape cell ++ '"' :: rest)) =
                ['"'] :: properties.characters (char :: (escape cell ++ '"' :: rest)) := by
              apply characters_quote
              rintro other ⟨⟩
              exact extending
            obtain ⟨more, chars, shape⟩ := @Properties.characters_cons properties char
              (escape cell ++ '"' :: rest)
            rw [split, shape, loop_quoted inside, if_pos rfl, List.head?_cons,
              if_neg (by simp [quote])]
            refine loop_closed_early rfl rfl (by simp [quote]) ?_ expected
            simp [close]

/-- A quote behind a prepended scalar is no character of its own. -/
theorem characters_joined_quote {last : Char} (plain : '"' ∉ run) (ends : run.getLast? = some last)
    (prepending : properties.isPrepending last = true) :
    ∀ char ∈ properties.characters (run ++ ['"']), char ≠ ['"'] := by
  cases run with
  | nil => cases ends
  | cons first run =>
      have joined : ∀ cluster ∈ (properties.charactersFrom [first] run).getLast?,
          properties.joins cluster '"' = true := by
        intro cluster member
        obtain ⟨other, found, same⟩ := @Properties.getLast?_charactersFrom properties [first] run
          (List.cons_ne_nil first [])
        obtain rfl : other = cluster := Option.some.inj (found.symm.trans member)
        rw [Properties.joins_ascii (by decide) (by decide) (same.trans ends), prepending]
      obtain ⟨clusters, cluster, before, after⟩ := Properties.charactersFrom_joined joined
      have others := @quote_notMem_characters properties _ plain
      rw [Properties.characters, before] at others
      rw [List.cons_append, Properties.characters, after]
      intro char member
      rcases List.mem_append.mp member with early | final
      · exact others char (List.mem_append_left _ early)
      · obtain rfl := List.mem_singleton.mp final
        have segmentation := @Properties.isSegmentation_characters properties (first :: run)
        rw [Properties.characters, before] at segmentation
        have nonempty := Properties.ne_nil_of_whole
          (segmentation.whole cluster (List.mem_append_right _ (List.mem_singleton_self cluster)))
        intro same
        exact nonempty (List.append_cancel_right (same.trans (List.nil_append ['"']).symm))

/-- Behind a quote there is a break when the next scalar does not extend it. -/
theorem characters_behind_quote (run : List Char)
    (free : ∀ char ∈ rest.head?, properties.isExtending char = false) :
    properties.characters (run ++ '"' :: rest) =
      properties.characters (run ++ ['"']) ++ properties.characters rest := by
  cases rest with
  | nil => rw [Properties.characters, List.append_nil]
  | cons first rest =>
      rw [List.append_cons]
      apply Properties.characters_append_of_last
      intro other ends
      rw [List.getLast?_concat] at ends
      rw [Properties.joins_of_ascii (by decide) (by decide) ends, free first rfl]

/-- The reader does not come to a cell that changes what the quotes behind its start are. -/
theorem loop_dirty (inside : reader.quoted = true) (dirty : ¬ Clean properties cell)
    (free : ∀ char ∈ cell.head?, properties.isExtending char = false)
    (loose : Loose properties rest)
    (expected : result = reader.rows ++ (reader.row ++ (reader.cell ++ cell) :: cells) :: later') :
    loop delimiter reader (properties.characters (escape cell ++ '"' :: rest)) ≠ .ok result := by
  induction cell using quoteInduction generalizing reader with
  | plain run plain =>
      rw [clean_plain plain, not_and, not_forall] at dirty
      obtain ⟨last, prepended⟩ := dirty free
      rw [Classical.not_imp, Bool.not_eq_false] at prepended
      rw [escape_plain plain, characters_behind_quote run fun char member => (loose char member).1,
        loop_append inside (characters_joined_quote plain prepended.1 prepended.2),
        Properties.flatten_characters]
      intro done
      have long := (prefix_of_reaches (reaches_of_loop done) expected).length_le
      simp only [append, List.length_append, List.length_singleton] at long
      omega
  | quote run cell plain ih =>
      have pair : ∀ char ∈ ('"' :: (escape cell ++ '"' :: rest)).head?,
          properties.isExtending char = false := by
        rintro char ⟨⟩
        exact isExtending_quote
      have head : ∀ char ∈ run.head?, properties.isExtending char = false := by
        intro char member
        apply free
        rw [List.head?_append, member]
        rfl
      rw [escape_quote plain, List.append_assoc, List.cons_append, List.cons_append]
      by_cases prepended : ∀ char ∈ run.getLast?, properties.isPrepending char = false
      · have front : Clean properties run := (clean_plain plain).mpr ⟨head, prepended⟩
        have unclean : ¬ Clean properties cell := fun clean => dirty (clean_append.mpr ⟨front, clean⟩)
        rw [characters_append_quote prepended, characters_quote pair,
          loop_append inside (quote_notMem_characters plain), Properties.flatten_characters,
          loop_quoted (show (reader.append run).quoted = true from inside), if_pos rfl]
        by_cases extended : ∀ char ∈ cell.head?, properties.isExtending char = false
        · rw [characters_quote_body extended, List.head?_cons, if_pos rfl, List.tail_cons]
          apply ih (show ((reader.append run).append ['"']).quoted = true from inside) unclean extended
          simpa [append] using expected
        · simp only [not_forall, Bool.not_eq_false] at extended
          obtain ⟨first, member, extending⟩ := extended
          obtain ⟨body, rfl⟩ := List.head?_eq_some_iff.mp member
          have joined : properties.joins ['"'] first = true := by
            rw [Properties.joins_of_ascii (by decide) (by decide) rfl, extending]
          have other : first ≠ '"' := by
            rintro rfl
            simp at extending
          have text : '"' :: (escape (first :: body) ++ '"' :: rest) =
              '"' :: first :: (escape body ++ '"' :: rest) := by
            simp [escape, other]
          obtain ⟨more, chars, shape⟩ := @Properties.characters_cons_joined properties
            (escape body ++ '"' :: rest) first '"' joined
          rw [text, shape, List.head?_cons, if_neg (by simp)]
          have missed : (reader.append run).close.cell ≠ reader.cell ++ (run ++ '"' :: first :: body) := by
            simp [close, append]
          exact loop_closed_early (rfl : (reader.append run).close.closed = true) rfl (by simp) missed
            expected
      · simp only [not_forall, Bool.not_eq_false] at prepended
        obtain ⟨last, ends, prepending⟩ := prepended
        rw [characters_behind_quote run pair,
          loop_append inside (characters_joined_quote plain ends prepending),
          Properties.flatten_characters]
        apply @loop_extra_quote properties cell rest (reader.append (run ++ ['"'])) delimiter result
          cells later' inside loose
        simpa [append] using expected

theorem loop_cell_dirty (dirty : ¬ Clean properties cell) (loose : Loose properties rest)
    (expected : result = rows ++ (row ++ cell :: cells) :: later') :
    loop separator.char { rows, row } (properties.characters (quotedCell cell ++ rest)) ≠
      .ok result := by
  have text : quotedCell cell ++ rest = '"' :: (escape cell ++ '"' :: rest) := by
    simp [quotedCell]
  rw [text]
  by_cases extended : ∀ char ∈ cell.head?, properties.isExtending char = false
  · rw [characters_quote_body extended, loop_unquoted rfl, if_pos rfl, if_pos rfl]
    apply loop_dirty rfl dirty extended loose
    simpa using expected
  · simp only [not_forall, Bool.not_eq_false] at extended
    obtain ⟨first, member, extending⟩ := extended
    obtain ⟨body, rfl⟩ := List.head?_eq_some_iff.mp member
    have joined : properties.joins ['"'] first = true := by
      rw [Properties.joins_of_ascii (by decide) (by decide) rfl, extending]
    have other : first ≠ '"' := by
      rintro rfl
      simp at extending
    have written : '"' :: (escape (first :: body) ++ '"' :: rest) =
        '"' :: first :: (escape body ++ '"' :: rest) := by
      simp [escape, other]
    obtain ⟨more, chars, shape⟩ := @Properties.characters_cons_joined properties
      (escape body ++ '"' :: rest) first '"' joined
    rw [written, shape, loop_unquoted rfl, if_neg (by simp), if_neg (by simp [isSeparator])]
    intro done
    have start := prefix_of_reaches (reaches_of_loop done) expected
    exact other (List.cons_prefix_cons.mp start).1.symm

variable {table : List Row}

theorem loose_lf (rest : List Char) : Loose properties ('\n' :: rest) := by
  rintro char ⟨⟩
  exact ⟨isExtending_lf, by decide⟩

theorem loose_separator (rest : List Char) : Loose properties (separator.char :: rest) := by
  rintro char ⟨⟩
  exact ⟨isExtending_separator, separator_ne_quote⟩

theorem head?_cellsText (nonempty : cells ≠ []) (rest : List Char) :
    (cellsText separator cells ++ rest).head? = some '"' := by
  cases cells with
  | nil => exact absurd rfl nonempty
  | cons cell cells =>
      cases cells with
      | nil => rfl
      | cons next cells => rfl

theorem loop_cells (small : rows.length < 201) (nonempty : cells ≠ [])
    (clean : ∀ cell ∈ cells, Clean properties cell) :
    loop separator.char { rows, row } (properties.characters (cellsText separator cells ++ rest)) =
      loop separator.char { rows := rows ++ [row ++ cells] } (properties.characters rest) := by
  induction cells generalizing row with
  | nil => exact absurd rfl nonempty
  | cons cell cells ih =>
      rw [List.forall_mem_cons] at clean
      cases cells with
      | nil =>
          rw [cellsText, List.append_assoc, List.singleton_append, loop_cell clean.1 (loose_lf rest),
            loop_lf small]
      | cons next cells =>
          have later := List.cons_ne_nil next cells
          rw [cellsText, List.append_assoc, List.cons_append, loop_cell clean.1 (loose_separator _),
            loop_separator small.le (head?_cellsText later rest), ih later clean.2,
            List.append_assoc, List.singleton_append]

theorem loop_cells_dirty (small : rows.length < 201)
    (dirty : ¬ ∀ cell ∈ cells, Clean properties cell)
    (expected : result = rows ++ (row ++ cells) :: later') :
    loop separator.char { rows, row } (properties.characters (cellsText separator cells ++ rest)) ≠
      .ok result := by
  induction cells generalizing row with
  | nil => exact absurd (List.forall_mem_nil _) dirty
  | cons cell cells ih =>
      rw [List.forall_mem_cons] at dirty
      cases cells with
      | nil =>
          have first : ¬ Clean properties cell := fun clean => dirty ⟨clean, List.forall_mem_nil _⟩
          rw [cellsText, List.append_assoc]
          exact loop_cell_dirty first (loose_lf rest) expected
      | cons next cells =>
          rw [cellsText, List.append_assoc, List.cons_append]
          by_cases first : Clean properties cell
          · have later := List.cons_ne_nil next cells
            rw [loop_cell first (loose_separator _),
              loop_separator small.le (head?_cellsText later rest)]
            apply ih fun clean => dirty ⟨first, clean⟩
            rw [expected, List.append_assoc, List.singleton_append]
          · exact loop_cell_dirty first (loose_separator _) expected

/-- The rows of a written table come back if and only if all its cells are clean. -/
theorem loop_rows (small : rows.length + table.length ≤ 200) (wide : ∀ row ∈ table, row ≠ []) :
    loop separator.char { rows } (properties.characters (rowsText separator table)) =
        .ok (rows ++ table) ↔
      ∀ row ∈ table, ∀ cell ∈ row, Clean properties cell := by
  induction table generalizing rows with
  | nil =>
      simp [rowsText, Properties.characters, loop, finish]
  | cons row table ih =>
      rw [List.length_cons] at small
      rw [List.forall_mem_cons] at wide ⊢
      have fits : rows.length < 201 := by omega
      have text : rowsText separator (row :: table) =
          cellsText separator row ++ rowsText separator table := List.flatMap_cons
      rw [text]
      by_cases clean : ∀ cell ∈ row, Clean properties cell
      · have rest := @ih (rows ++ [row]) (by rw [List.length_append, List.length_singleton]; omega)
          wide.2
        rw [List.append_assoc, List.singleton_append] at rest
        rw [loop_cells fits wide.1 clean, List.nil_append, rest]
        exact (and_iff_right clean).symm
      · have lost := @loop_cells_dirty properties separator (rowsText separator table) rows []
          (rows ++ row :: table) row table fits clean rfl
        exact iff_of_false lost fun all => clean all.1

end CsvReader

/-- A line feed becomes a carriage return and a line feed. -/
def ended (char : List Char) : List Char :=
  if char = ['\n'] then ['\r', '\n'] else char

/-- The text with every LF row end replaced by CR LF. -/
def crlfEnds (properties : Properties) (text : List Char) : List Char :=
  ((properties.characters text).map ended).flatten

def lineBreaks : List (List Char) := [['\n'], ['\r'], ['\r', '\n']]

/-- No character inside of quotes is a line break. -/
def Unbroken (quoted : Bool) : List (List Char) → Prop
  | [] => True
  | char :: chars =>
      if char = ['"'] then Unbroken (!quoted) chars
      else (quoted = true → char ∉ lineBreaks) ∧ Unbroken quoted chars

theorem ended_of_ne {char : List Char} (other : char ≠ ['\n']) : ended char = char :=
  if_neg other

theorem ended_eq_quote {char : List Char} : ended char = ['"'] ↔ char = ['"'] := by
  rw [ended]
  split_ifs with lf
  · simp [lf]
  · rfl

theorem ended_ne_lf (char : List Char) : ended char ≠ ['\n'] := by
  rw [ended]
  split_ifs with lf
  · decide
  · exact lf

theorem map_ended {chars : List (List Char)} (free : ['\n'] ∉ chars) : chars.map ended = chars := by
  induction chars with
  | nil => rfl
  | cons char chars ih =>
      rw [List.mem_cons, not_or] at free
      rw [List.map_cons, ended_of_ne (Ne.symm free.1), ih free.2]

/-- A carriage return is in the character of the line feed behind it. -/
theorem characters_apart (text : List Char) :
    (properties.characters text).IsChain fun char next => char = ['\r'] → next ≠ ['\n'] := by
  apply (Properties.isSegmentation_characters text).breaks.imp
  rintro char next breaks rfl rfl
  have split := breaks '\n' rfl
  rw [@Properties.joins_lf properties ['\r'] '\r' rfl] at split
  cases split

/-- The characters of the text with other row ends. -/
theorem characters_crlfEnds (text : List Char) :
    properties.characters (crlfEnds properties text) = (properties.characters text).map ended := by
  have segmentation := @Properties.isSegmentation_characters properties text
  apply Properties.characters_flatten
  constructor
  · rw [List.forall_mem_map]
    intro char member
    rw [ended]
    split_ifs
    · have joined := @Properties.joins_lf properties ['\r'] '\r' rfl
      rw [Properties.characters, Properties.charactersFrom, joined]
      rfl
    · exact segmentation.whole char member
  · rw [List.isChain_map]
    apply segmentation.breaks.imp
    intro char next breaks first member
    by_cases after : next = ['\n']
    · rw [after] at member
      obtain rfl : '\r' = first := Option.some.inj member
      exact Properties.joins_cr _
    · rw [ended_of_ne after] at member
      by_cases before : char = ['\n']
      · rw [before]
        exact Properties.joins_of_lf rfl
      · rw [ended_of_ne before]
        exact breaks first member

namespace CsvReader

variable {old new reader : CsvReader} {char : List Char} {chars : List (List Char)}
  {result others : List Row}

/-- The text of all the cells. -/
def taken (reader : CsvReader) : List Char :=
  (reader.rows ++ [reader.row ++ [reader.cell]]).flatten.flatten

theorem taken_append : (reader.append char).taken = reader.taken ++ char := by
  simp [taken, append]

theorem taken_endCell (endsRow : Bool) : (reader.endCell endsRow).taken = reader.taken := by
  cases endsRow with
  | true => simp [taken, endCell]
  | false => simp [taken, endCell]

theorem taken_of_finish (done : reader.finish = .ok result) :
    result.flatten.flatten = reader.taken := by
  rw [finish] at done
  split_ifs at done with inside started
  · obtain rfl := Except.ok.inj done
    rfl
  · obtain rfl := Except.ok.inj done
    rw [not_or, not_not, not_not] at started
    simp [taken, started]

theorem head?_map_ended : (chars.map ended).head? = some ['"'] ↔ chars.head? = some ['"'] := by
  cases chars with
  | nil => rfl
  | cons char chars => simp [ended_eq_quote]

theorem isSeparator_lf : isSeparator separator.char ['\n'] = false :=
  isSeparator_eq_false (by simp [Ne.symm]) (by decide)

theorem isSeparator_crlf : isSeparator separator.char ['\r', '\n'] = false :=
  isSeparator_eq_false (by simp) (by decide)

@[simp] theorem count_quote : (['"'] :: chars).count ['\n'] = chars.count ['\n'] :=
  List.count_cons_of_ne (by decide)

/-- Two readers, of a text and of the one with other row ends, which come to rows. -/
structure Paired (separator : Separator) (result others : List Row) (old new : CsvReader)
    (chars : List (List Char)) : Prop where
  quoted : new.quoted = old.quoted
  closed : new.closed = old.closed
  unbroken : Unbroken old.quoted chars
  apart : chars.IsChain fun char next => char = ['\r'] → next ≠ ['\n']
  done : loop separator.char old chars = .ok result
  again : loop separator.char new (chars.map ended) = .ok others

/-- The pair goes on, with two more scalars in a cell for every line feed it leaves behind. -/
def Continues (separator : Separator) (result others : List Row) (old new : CsvReader)
    (char : List Char) (chars : List (List Char)) : Prop :=
  ∃ old' new' later, Paired separator result others old' new' later ∧ later.length ≤ chars.length ∧
    new'.taken.length + 2 * later.count ['\n'] + old.taken.length =
      new.taken.length + 2 * (char :: chars).count ['\n'] + old'.taken.length

/-- A step inside of quotes. -/
theorem Paired.continues_quoted (pair : Paired separator result others old new (char :: chars))
    (inside : old.quoted = true) : Continues separator result others old new char chars := by
  obtain ⟨same, both, unbroken, apart, done, again⟩ := pair
  have inside' := same.trans inside
  rw [Unbroken, inside] at unbroken
  rw [loop_quoted inside] at done
  rw [List.map_cons, loop_quoted inside'] at again
  by_cases quote : char = ['"']
  · subst quote
    rw [if_pos rfl] at unbroken done
    rw [if_pos (ended_eq_quote.mpr rfl)] at again
    by_cases second : chars.head? = some ['"']
    · rw [if_pos second] at done
      rw [if_pos (head?_map_ended.mpr second)] at again
      obtain ⟨chars, rfl⟩ := List.head?_eq_some_iff.mp second
      have next : Unbroken (old.append ['"']).quoted chars :=
        (congrArg (Unbroken · chars) inside).mpr unbroken
      have onward : Paired separator result others (old.append ['"']) (new.append ['"']) chars :=
        ⟨same, both, next, apart.tail.tail, done, again⟩
      refine ⟨_, _, chars, onward, Nat.le_succ _, ?_⟩
      rw [taken_append, taken_append, List.length_append, List.length_append, count_quote, count_quote]
      omega
    · rw [if_neg second] at done
      rw [if_neg (mt head?_map_ended.mp second)] at again
      have onward : Paired separator result others old.close new.close chars :=
        ⟨rfl, rfl, unbroken, apart.tail, done, again⟩
      refine ⟨_, _, chars, onward, le_rfl, ?_⟩
      rw [count_quote]
      rfl
  · rw [if_neg quote] at unbroken done
    rw [if_neg (mt ended_eq_quote.mp quote)] at again
    have other : char ≠ ['\n'] := by
      rintro rfl
      exact unbroken.1 rfl (by decide)
    rw [ended_of_ne other] at again
    have next : Unbroken (old.append char).quoted chars :=
      (congrArg (Unbroken · chars) inside).mpr unbroken.2
    have onward : Paired separator result others (old.append char) (new.append char) chars :=
      ⟨same, both, next, apart.tail, done, again⟩
    refine ⟨_, _, chars, onward, le_rfl, ?_⟩
    rw [taken_append, taken_append, List.length_append, List.length_append,
      List.count_cons_of_ne other]
    omega

/-- The reader behind another character of a cell without quotes. -/
def plain (reader : CsvReader) (char : List Char) : CsvReader :=
  { reader.append char with atStart := false }

theorem taken_plain : (reader.plain char).taken = reader.taken ++ char := by
  simp [taken, plain, append]

/-- A step at a line feed, which ends a row of the text only. -/
theorem Paired.continues_lf (pair : Paired separator result others old new (['\n'] :: chars))
    (outside : old.quoted = false) : Continues separator result others old new ['\n'] chars := by
  obtain ⟨same, both, unbroken, apart, done, again⟩ := pair
  have crlf : ended ['\n'] = ['\r', '\n'] := rfl
  rw [Unbroken, if_neg (by decide)] at unbroken
  rw [loop_unquoted outside, if_neg (by decide), isSeparator_lf, if_pos (by decide)] at done
  rw [List.map_cons, crlf, loop_unquoted (same.trans outside), if_neg (by decide), isSeparator_crlf,
    if_neg (by decide)] at again
  dsimp only at done
  rw [if_neg (fun skip => by cases skip.1 : ¬ (['\n'] = ['\r'] ∧ _))] at done
  split_ifs at done again with _ started
  have onward : Paired separator result others (old.endCell true) (new.plain ['\r', '\n']) chars :=
    ⟨same, Bool.eq_false_iff.mpr started, unbroken.2, apart.tail, done, again⟩
  refine ⟨_, _, chars, onward, le_rfl, ?_⟩
  rw [taken_endCell, taken_plain, List.length_append, List.count_cons_self]
  simp only [List.length_cons, List.length_nil]
  omega

/-- A step at a separator or at a carriage return. -/
theorem Paired.continues_mark (pair : Paired separator result others old new (char :: chars))
    (outside : old.quoted = false) (quote : char ≠ ['"']) (other : char ≠ ['\n'])
    (mark : isSeparator separator.char char || char = ['\n'] || char = ['\r']) :
    Continues separator result others old new char chars := by
  obtain ⟨same, both, unbroken, apart, done, again⟩ := pair
  rw [Unbroken, if_neg quote] at unbroken
  rw [loop_unquoted outside, if_neg quote, if_pos mark] at done
  rw [List.map_cons, ended_of_ne other, loop_unquoted (same.trans outside), if_neg quote,
    if_pos mark] at again
  dsimp only at done again
  have skip : ¬ (char = ['\r'] ∧ ¬ isSeparator separator.char char = true ∧
      chars.head? = some ['\n']) := by
    rintro ⟨cr, -, next⟩
    obtain ⟨chars, rfl⟩ := List.head?_eq_some_iff.mp next
    exact (List.isChain_cons_cons.mp apart).1 cr rfl
  have skip' : ¬ (char = ['\r'] ∧ ¬ isSeparator separator.char char = true ∧
      (chars.map ended).head? = some ['\n']) := by
    rintro ⟨-, -, next⟩
    rw [List.head?_map, Option.map_eq_some_iff] at next
    obtain ⟨char, -, ending⟩ := next
    exact ended_ne_lf char ending
  rw [if_neg skip] at done
  rw [if_neg skip'] at again
  split_ifs at done again
  have onward : Paired separator result others (old.endCell (!isSeparator separator.char char))
      (new.endCell (!isSeparator separator.char char)) chars :=
    ⟨same, rfl, unbroken.2, apart.tail, done, again⟩
  refine ⟨_, _, chars, onward, le_rfl, ?_⟩
  rw [taken_endCell, taken_endCell, List.count_cons_of_ne other]

/-- A step outside of quotes. -/
theorem Paired.continues_unquoted (pair : Paired separator result others old new (char :: chars))
    (outside : old.quoted = false) : Continues separator result others old new char chars := by
  by_cases lf : char = ['\n']
  · subst lf
    exact pair.continues_lf outside
  by_cases quote : char = ['"']
  · obtain ⟨same, both, unbroken, apart, done, again⟩ := pair
    subst quote
    rw [Unbroken, if_pos rfl, outside] at unbroken
    rw [loop_unquoted outside, if_pos rfl] at done
    rw [List.map_cons, ended_of_ne lf, loop_unquoted (same.trans outside), if_pos rfl] at again
    split_ifs at done again
    have onward : Paired separator result others { old with quoted := true }
        { new with quoted := true } chars :=
      ⟨rfl, both, unbroken, apart.tail, done, again⟩
    refine ⟨_, _, chars, onward, le_rfl, ?_⟩
    rw [count_quote]
    rfl
  by_cases mark : isSeparator separator.char char || char = ['\n'] || char = ['\r']
  · exact pair.continues_mark outside quote lf mark
  · obtain ⟨same, both, unbroken, apart, done, again⟩ := pair
    rw [Unbroken, if_neg quote] at unbroken
    rw [loop_unquoted outside, if_neg quote, if_neg mark] at done
    rw [List.map_cons, ended_of_ne lf, loop_unquoted (same.trans outside), if_neg quote,
      if_neg mark] at again
    split_ifs at done again
    have onward : Paired separator result others (old.plain char) (new.plain char) chars :=
      ⟨same, both, unbroken.2, apart.tail, done, again⟩
    refine ⟨_, _, chars, onward, le_rfl, ?_⟩
    rw [taken_plain, taken_plain, List.length_append, List.length_append, List.count_cons_of_ne lf]
    omega

/-- Every line feed leaves two more scalars in the rows. -/
theorem Paired.length_eq (pair : Paired separator result others old new chars) :
    others.flatten.flatten.length + old.taken.length =
      result.flatten.flatten.length + new.taken.length + 2 * chars.count ['\n'] := by
  induction total : chars.length using Nat.strong_induction_on generalizing old new chars with
  | _ size ih =>
      cases chars with
      | nil =>
          rw [taken_of_finish pair.done, taken_of_finish pair.again, List.count_nil]
          exact Nat.add_comm _ _
      | cons char chars =>
          have step : Continues separator result others old new char chars := by
            cases inside : old.quoted with
            | true => exact pair.continues_quoted inside
            | false => exact pair.continues_unquoted inside
          obtain ⟨old', new', later, onward, short, weight⟩ := step
          rw [List.length_cons] at total
          have rest := ih later.length (by omega) onward rfl
          omega

end CsvReader

/-- A written table comes back if and only if the quotes of its text are characters of their own,
and a text keeps its rows with CR LF row ends if and only if no LF ends a row. -/
theorem csv_import_iff (properties : Properties) (separator : Separator) :
    (∀ table : Table,
      csvRows properties separator.char (rowsText separator table.rows) = .ok table.rows ↔
        ∀ row ∈ table.rows, ∀ cell ∈ row, Clean properties cell) ∧
    ∀ text rows, Unbroken false (properties.characters text) →
      csvRows properties separator.char text = .ok rows →
      (csvRows properties separator.char (crlfEnds properties text) = .ok rows ↔
        ['\n'] ∉ properties.characters text) := by
  constructor
  · intro table
    apply CsvReader.loop_rows
    · simpa using table.short
    · intro row member empty
      have wide := table.wide row member
      rw [empty] at wide
      cases wide
  · intro text rows unbroken done
    constructor
    · intro again member
      rw [csvRows, characters_crlfEnds] at again
      have pair : CsvReader.Paired separator rows rows {} {} (properties.characters text) :=
        ⟨rfl, rfl, unbroken, characters_apart text, done, again⟩
      have lengths := pair.length_eq
      have some := List.count_pos_iff.mpr member
      omega
    · intro free
      rw [crlfEnds, map_ended free, Properties.flatten_characters]
      exact done

/-- The tables of Unicode for ASCII and the combining acute accent. -/
def accentTables : Properties where
  breakClass char :=
    if char = '\r' then .cr
    else if char = '\n' then .lf
    else if char = '\t' then .control
    else if char = '\u0301' then .extend
    else .other
  pictographic _ := false
  conjunct _ := .none
  breakClass_cr char := by
    split_ifs <;> simp_all
  breakClass_lf char := by
    split_ifs <;> simp_all
  breakClass_tab := rfl
  breakClass_ascii char := by
    intro printable ascii
    split_ifs with cr lf tab accent
    · rw [cr] at printable
      exact absurd printable (by decide)
    · rw [lf] at printable
      exact absurd printable (by decide)
    · rw [tab] at printable
      exact absurd printable (by decide)
    · rw [accent] at ascii
      exact absurd ascii (by decide)
    · rfl
  pictographic_ascii _ _ _ := rfl
  conjunct_ascii _ _ _ := rfl

theorem csv_import_sample :
    (csvRows accentTables ',' (rowsText .comma [[['a', '"'], [',', '\n']]]) =
        .ok [[['a', '"'], [',', '\n']]] ↔
      ∀ row ∈ [[['a', '"'], [',', '\n']]], ∀ cell ∈ row, Clean accentTables cell) ∧
    (csvRows accentTables ',' (crlfEnds accentTables ['a', ',', 'b']) = .ok [[['a'], ['b']]] ↔
      ['\n'] ∉ accentTables.characters ['a', ',', 'b']) := by
  constructor
  · exact (csv_import_iff accentTables .comma).1 ⟨[[['a', '"'], [',', '\n']]], by decide, by decide⟩
  · have unbroken : Unbroken false [['a'], [','], ['b']] := by simp [Unbroken]
    exact (csv_import_iff accentTables .comma).2 ['a', ',', 'b'] [[['a'], ['b']]] unbroken rfl

/-- A quoted accent loses the quotes around it, and CR LF does not end a row. -/
theorem crlf_is_in_the_cell :
    csvRows accentTables ',' (rowsText .comma [[['\u0301'], ['b']]]) = .error .invalid ∧
    Unbroken false (accentTables.characters ['a', ',', 'b', '\n']) ∧
    csvRows accentTables ',' ['a', ',', 'b', '\n'] = .ok [[['a'], ['b']]] ∧
    csvRows accentTables ',' (crlfEnds accentTables ['a', ',', 'b', '\n']) =
      .ok [[['a'], ['b', '\r', '\n']]] := by
  have unbroken : Unbroken false [['a'], [','], ['b'], ['\n']] := by simp [Unbroken]
  exact ⟨rfl, unbroken, rfl, rfl⟩

end ProxyLauncher.IOS
