import ProxyLauncher.Routing.Agreement

/-!
# The text of the PAC script

`build_pac` writes the entries of the user into string literals in the middle of a program.
A reader of the language has to find the same program around an array of the same entries,
whatever the file of the user holds: no entry may end its literal or the array.
-/

namespace ProxyLauncher.Routing

open Python

/-- The script up to the elements of the array. -/
def pacHead : String :=
  "function FindProxyForURL(url, host) \x7b\n" ++
  "    // Исключения no_proxy — синтезируется автоматически " ++
  "(localhost и внутренние сети всегда в обход)\n" ++
  "    var direct = [\n"

/-- The line of an entry. -/
def pacLine (entry : String) : String :=
  "        \"" ++ .ofList (quoted entry) ++ "\","

/-- The script behind the array up to the text that it returns at last. -/
def pacLoop : String :=
  ";\n" ++
  "    for (var i = 0; i < direct.length; i++) \x7b\n" ++
  "        var d = direct[i];\n" ++
  "        if (d.indexOf('*') !== -1) \x7b\n" ++
  "            if (shExpMatch(host, d)) return 'DIRECT';\n" ++
  "        \x7d else if (host === d || shExpMatch(host, '*.' + d)\n" ++
  "                   || (host.indexOf(':') !== -1 && host === '[' + d + ']')) \x7b\n" ++
  "            return 'DIRECT';\n" ++
  "        \x7d\n" ++
  "    \x7d\n" ++
  "    return '"

/-- The script behind the text that it returns at last. -/
def pacEnd : String := "';\n\x7d\n"

/-- The text that `build_pac` returns. -/
def pacScript (stored : List String) (port : Nat) : String :=
  pacHead ++ (String.intercalate "\n" ((bypassEntries stored).map pacLine) ++ "\n") ++ "    ]" ++
    pacLoop ++ ("PROXY 127.0.0.1:" ++ toString port) ++ pacEnd

/-- The editions of the language differ in the characters that may not stand in a literal. -/
inductive Edition where
  | es5
  | es2019
  deriving DecidableEq

/-- The line terminators that end a literal before its quotation mark, which is an error. -/
def Edition.endsLine : Edition → Char → Bool
  | .es5, char => char = '\n' || char = '\r' || char = '\u2028' || char = '\u2029'
  | .es2019, char => char = '\n' || char = '\r'

/-- The white space of ASCII. -/
def isBlank (char : Char) : Bool :=
  char ∈ [' ', '\t', '\n', '\r', '\u000b', '\u000c']

/-- The character that a backslash and this one stand for.  Escapes by number and continued
lines are not read. -/
def escapeValue (edition : Edition) (char : Char) : Option Char :=
  if char = 'b' then some '\u0008'
  else if char = 't' then some '\t'
  else if char = 'n' then some '\n'
  else if char = 'v' then some '\u000b'
  else if char = 'f' then some '\u000c'
  else if char = 'r' then some '\r'
  else if char.isDigit || char = 'x' || char = 'u' || edition.endsLine char then none
  else some char

/-- Where the reader of an array of literals stands. -/
inductive Place where
  | element
  | literal (read : List Char)
  | escape (read : List Char)
  | separator

/-- The literals of an array and what follows it.  A comma may stand behind the last one. -/
def readArray (edition : Edition) :
    Place → List (List Char) → List Char → Option (List (List Char) × List Char)
  | _, _, [] => none
  | .element, done, char :: rest =>
      if isBlank char then readArray edition .element done rest
      else if char = '"' then readArray edition (.literal []) done rest
      else if char = ']' then some (done, rest)
      else none
  | .literal read, done, char :: rest =>
      if char = '"' then readArray edition .separator (done ++ [read]) rest
      else if char = '\\' then readArray edition (.escape read) done rest
      else if edition.endsLine char then none
      else readArray edition (.literal (read ++ [char])) done rest
  | .escape read, done, char :: rest =>
      (escapeValue edition char).bind fun value =>
        readArray edition (.literal (read ++ [value])) done rest
  | .separator, done, char :: rest =>
      if isBlank char then readArray edition .separator done rest
      else if char = ',' then readArray edition .element done rest
      else if char = ']' then some (done, rest)
      else none

/-- What is fixed at the front of a text is taken away. -/
def expect (fixed text : List Char) : Option (List Char) :=
  if fixed.isPrefixOf text then some (text.drop fixed.length) else none

/-- What a script of this form says: the values in the array and the last answer. -/
structure ReadScript where
  direct : List (List Char)
  answer : List Char
  deriving DecidableEq

/-- Reading a text that is this program around an array of literals. -/
def readScript (edition : Edition) (script : String) : Option ReadScript :=
  (expect pacHead.toList script.toList).bind fun elements =>
    (readArray edition .element [] elements).bind fun (direct, program) =>
      (expect pacLoop.toList program).bind fun last =>
        let answer := last.takeWhile fun char => char ≠ '\''
        if last.drop answer.length = pacEnd.toList then some ⟨direct, answer⟩ else none

/-- `FindProxyForURL` of the program with these values. -/
def ReadScript.findProxyForUrl (reading : ReadScript) (host : String) : String :=
  if reading.direct.any fun entry => pacMatches entry host.toList then "DIRECT"
  else .ofList reading.answer

/-- What the script has to say. -/
def intended (stored : List String) (port : Nat) : ReadScript where
  direct := (bypassEntries stored).map String.toList
  answer := ("PROXY 127.0.0.1:" ++ toString port).toList

/-- The entry has no character that ends a line. -/
def Edition.Fits (edition : Edition) (entry : String) : Prop :=
  ∀ char ∈ entry.toList, edition.endsLine char = false

instance (edition : Edition) (entry : String) : Decidable (edition.Fits entry) :=
  inferInstanceAs (Decidable (∀ char ∈ entry.toList, edition.endsLine char = false))

variable {edition : Edition} {done : List (List Char)} {read rest : List Char}

theorem endsLine_quote : edition.endsLine '"' = false := by
  cases edition with
  | es5 => rfl
  | es2019 => rfl

theorem endsLine_backslash : edition.endsLine '\\' = false := by
  cases edition with
  | es5 => rfl
  | es2019 => rfl

theorem escapeValue_quote : escapeValue edition '"' = some '"' := by
  cases edition with
  | es5 => rfl
  | es2019 => rfl

theorem escapeValue_backslash : escapeValue edition '\\' = some '\\' := by
  cases edition with
  | es5 => rfl
  | es2019 => rfl

/-- A character as it stands between quotation marks. -/
def quotedChar (char : Char) : List Char :=
  if char = '\\' then ['\\', '\\'] else if char = '"' then ['\\', '"'] else [char]

theorem quoted_eq (entry : String) : quoted entry = entry.toList.flatMap quotedChar := by
  unfold quoted replaceChar
  induction entry.toList with
  | nil => rfl
  | cons char chars ih =>
      rw [List.flatMap_cons, List.flatMap_append, ih, List.flatMap_cons]
      unfold quotedChar
      by_cases backslash : char = '\\'
      · simp [backslash]
      · simp [backslash]

/-- Inside a literal, a quoted character is read, unless it ends the line. -/
theorem readArray_char (char : Char) :
    readArray edition (.literal read) done (quotedChar char ++ rest) =
      if edition.endsLine char = true then none
      else readArray edition (.literal (read ++ [char])) done rest := by
  unfold quotedChar
  by_cases backslash : char = '\\'
  · subst backslash
    rw [if_pos rfl, endsLine_backslash, if_neg Bool.false_ne_true, List.cons_append, readArray,
      if_neg (by decide), if_pos rfl, List.cons_append, readArray, escapeValue_backslash]
    rfl
  · by_cases quote : char = '"'
    · subst quote
      rw [if_neg backslash, if_pos rfl, endsLine_quote, if_neg Bool.false_ne_true,
        List.cons_append, readArray, if_neg (by decide), if_pos rfl, List.cons_append, readArray,
        escapeValue_quote]
      rfl
    · rw [if_neg backslash, if_neg quote, List.singleton_append, readArray, if_neg quote,
        if_neg backslash]

/-- Inside a literal, a quoted text is read to its quotation mark, unless it has the end of a
line. -/
theorem readArray_literal (chars : List Char) :
    readArray edition (.literal read) done (chars.flatMap quotedChar ++ '"' :: rest) =
      if ∀ char ∈ chars, edition.endsLine char = false then
        readArray edition .separator (done ++ [read ++ chars]) rest
      else none := by
  induction chars generalizing read with
  | nil => simp [readArray]
  | cons char chars ih =>
      rw [List.flatMap_cons, List.append_assoc, readArray_char]
      cases ends : edition.endsLine char with
      | true => simp [ends]
      | false => simp [ends, ih]

theorem readArray_blank (blanks : List Char) (blank : ∀ char ∈ blanks, isBlank char = true) :
    readArray edition .element done (blanks ++ rest) =
      readArray edition .element done rest := by
  induction blanks with
  | nil => rfl
  | cons char blanks ih =>
      rw [List.cons_append, readArray, if_pos (blank char List.mem_cons_self)]
      exact ih fun other member => blank other (List.mem_cons_of_mem _ member)

theorem readArray_line (entry : String) :
    readArray edition .element done ((pacLine entry).toList ++ '\n' :: rest) =
      if edition.Fits entry then readArray edition .element (done ++ [entry.toList]) rest
      else none := by
  have shape : (pacLine entry).toList ++ '\n' :: rest = List.replicate 8 ' ' ++
      '"' :: (quoted entry ++ '"' :: ',' :: '\n' :: rest) := by
    simp [pacLine, List.replicate]
  rw [shape, readArray_blank _ (by simp [isBlank]), readArray, quoted_eq]
  simp only [show isBlank '"' = false from rfl, Bool.false_eq_true, if_false, if_true]
  rw [readArray_literal, List.nil_append]
  split_ifs with fits plain plain
  · simp [readArray, isBlank]
  · exact absurd fits plain
  · exact absurd plain fits
  · rfl

theorem readArray_lines (entries : List String) :
    readArray edition .element done ((entries.map pacLine).flatMap
        (fun line => line.toList ++ ['\n']) ++ rest) =
      if ∀ entry ∈ entries, edition.Fits entry then
        readArray edition .element (done ++ entries.map String.toList) rest
      else none := by
  induction entries generalizing done with
  | nil => simp
  | cons entry entries ih =>
      rw [List.map_cons, List.flatMap_cons, List.append_assoc, List.append_assoc,
        List.singleton_append, readArray_line, ih]
      by_cases fits : edition.Fits entry
      · simp [fits]
      · simp [fits]

theorem expect_append (fixed text : List Char) : expect fixed (fixed ++ text) = some text := by
  simp [expect]

theorem answer_no_quote (port : Nat) :
    ∀ char ∈ ("PROXY 127.0.0.1:" ++ toString port).toList, char ≠ '\'' := by
  intro char member same
  subst same
  rw [String.toList_append, List.mem_append] at member
  rcases member with member | member
  · revert member
    rw [String.toList_ofList]
    decide
  · have digit := Nat.isDigit_of_mem_toDigits (by decide) (by decide)
      (Nat.toList_repr ▸ member : '\'' ∈ Nat.toDigits 10 port)
    exact absurd digit (by decide)

/-- The script is read as intended when all the entries fit, and else it is not read. -/
theorem readScript_pacScript (edition : Edition) (stored : List String) (port : Nat) :
    readScript edition (pacScript stored port) =
      if ∀ entry ∈ bypassEntries stored, edition.Fits entry then some (intended stored port)
      else none := by
  have nonempty : (bypassEntries stored).map pacLine ≠ [] := by
    have known : "localhost" ∈ bypassEntries stored := Selection.mem_appendAll.mpr (.inl List.mem_cons_self)
    intro none
    rw [List.map_eq_nil_iff.mp none] at known
    exact List.not_mem_nil known
  have script : (pacScript stored port).toList = pacHead.toList ++
      (((bypassEntries stored).map pacLine).flatMap (fun line => line.toList ++ ['\n']) ++
        (List.replicate 4 ' ' ++ ']' :: (pacLoop.toList ++
          (("PROXY 127.0.0.1:" ++ toString port).toList ++ pacEnd.toList)))) := by
    unfold pacScript
    generalize "PROXY 127.0.0.1:" ++ toString port = answer
    rw [String.toList_append, String.toList_append, String.toList_append, String.toList_append,
      String.toList_append, toList_joined nonempty]
    simp [List.replicate]
  unfold readScript
  rw [script, expect_append, Option.bind_some, readArray_lines]
  split_ifs with fit
  · have last : readArray edition .element ([] ++ (bypassEntries stored).map String.toList)
        (List.replicate 4 ' ' ++ ']' :: (pacLoop.toList ++
          (("PROXY 127.0.0.1:" ++ toString port).toList ++ pacEnd.toList))) =
        some ((bypassEntries stored).map String.toList, pacLoop.toList ++
          (("PROXY 127.0.0.1:" ++ toString port).toList ++ pacEnd.toList)) := by
      rw [readArray_blank _ (by simp [isBlank]), readArray]
      rfl
    have answer : (("PROXY 127.0.0.1:" ++ toString port).toList ++ pacEnd.toList).takeWhile
        (fun char => char ≠ '\'') = ("PROXY 127.0.0.1:" ++ toString port).toList := by
      rw [List.takeWhile_append_of_pos fun char member =>
        decide_eq_true (answer_no_quote port char member)]
      have stop : pacEnd.toList.takeWhile (fun char => char ≠ '\'') = [] := by
        unfold pacEnd
        rw [String.toList_ofList]
        rfl
      rw [stop, List.append_nil]
    rw [last, Option.bind_some]
    dsimp only
    rw [expect_append, Option.bind_some]
    rw [answer, List.drop_left, if_pos rfl]
    rfl
  · rfl

theorem universalLines_plain (chars : List Char) :
    ∀ line ∈ universalLines chars, '\n' ∉ line ∧ '\r' ∉ line := by
  have behind {lines : List (List Char)} (plain : ∀ line ∈ lines, '\n' ∉ line ∧ '\r' ∉ line) :
      ∀ line ∈ [] :: lines, '\n' ∉ line ∧ '\r' ∉ line := by
    simpa using plain
  induction chars using universalLines.induct with
  | case1 => simp [universalLines]
  | case2 rest ih => exact behind ih
  | case3 rest other ih =>
      rw [universalLines.eq_3 _ other]
      exact behind ih
  | case4 rest ih => exact behind ih
  | case5 char rest noPair noReturn noLineFeed none ih =>
      rw [universalLines.eq_5 _ _ noPair noReturn noLineFeed, none]
      simp only [List.mem_singleton, forall_eq]
      exact ⟨fun same => noLineFeed same.symm, fun same => noReturn same.symm⟩
  | case6 char rest noPair noReturn noLineFeed line lines shape ih =>
      rw [universalLines.eq_5 _ _ noPair noReturn noLineFeed, shape]
      rw [shape] at ih
      obtain ⟨plainLine, plainLines⟩ := List.forall_mem_cons.mp ih
      dsimp only
      refine List.forall_mem_cons.mpr ⟨?_, plainLines⟩
      constructor
      · exact List.not_mem_cons_of_ne_of_not_mem (fun same => noLineFeed same.symm) plainLine.1
      · exact List.not_mem_cons_of_ne_of_not_mem (fun same => noReturn same.symm) plainLine.2

theorem mem_of_mem_strip {text : String} {char : Char} (member : char ∈ (strip text).toList) :
    char ∈ text.toList := by
  rw [strip, String.toList_ofList] at member
  exact (List.dropWhile_sublist _).subset ((List.rdropWhile_prefix _ _).subset member)

/-- The entries of a file have no line feed and no carriage return. -/
theorem plainLine_of_mem_loadNoProxy {content entry : String}
    (member : entry ∈ loadNoProxy content) : PlainLine entry := by
  rw [loadNoProxy, List.mem_filter, List.mem_map] at member
  obtain ⟨⟨line, there, rfl⟩, -⟩ := member
  have plain := universalLines_plain _ line there
  constructor
  · intro stripped
    have raw := mem_of_mem_strip stripped
    rw [String.toList_ofList] at raw
    exact plain.1 raw
  · intro stripped
    have raw := mem_of_mem_strip stripped
    rw [String.toList_ofList] at raw
    exact plain.2 raw

theorem endsLine_iff {char : Char} (lineFeed : char ≠ '\n') (carriageReturn : char ≠ '\r') :
    edition.endsLine char = true ↔
      edition = .es5 ∧ (char = '\u2028' ∨ char = '\u2029') := by
  cases edition with
  | es5 => simp [Edition.endsLine, lineFeed, carriageReturn]
  | es2019 => simp [Edition.endsLine, lineFeed, carriageReturn]

/-- The default entries fit in either edition. -/
theorem defaultNoProxy_fits : ∀ entry ∈ defaultNoProxy, edition.Fits entry := by
  have checked : defaultNoProxy.all (fun entry => entry.toList.all fun char =>
      !Edition.endsLine .es5 char) = true := by decide
  intro entry known char there
  have older := List.all_eq_true.mp (List.all_eq_true.mp checked entry known) char there
  cases edition with
  | es5 => exact Bool.not_eq_true' _ ▸ older
  | es2019 =>
      simp only [Edition.endsLine, Bool.not_or, Bool.and_eq_true, Bool.not_eq_true'] at older
      simp only [Edition.endsLine, older, Bool.or_self]

/-- The text of the script is read as the intended program, whatever the file of the user has:
its array holds the entries character for character and nothing else, and what follows it is
the fixed program.  Before the edition that allows the two separators of Unicode in a literal,
that is so exactly when no entry has one of them, and else the script is not read.  The
intended program decides as the one whose array has the values of the quoted entries. -/
theorem script_reads_back (content : String) (port : Nat) :
    readScript .es2019 (pacScript (loadNoProxy content) port) =
        some (intended (loadNoProxy content) port) ∧
      readScript .es5 (pacScript (loadNoProxy content) port) =
        (if ∀ entry ∈ loadNoProxy content, '\u2028' ∉ entry.toList ∧ '\u2029' ∉ entry.toList then
          some (intended (loadNoProxy content) port)
        else none) ∧
      ∀ host, (intended (loadNoProxy content) port).findProxyForUrl host =
        (buildPac (loadNoProxy content) port).findProxyForUrl host := by
  have fits (edition : Edition) : (∀ entry ∈ bypassEntries (loadNoProxy content),
      edition.Fits entry) ↔ (edition = .es5 → ∀ entry ∈ loadNoProxy content,
        '\u2028' ∉ entry.toList ∧ '\u2029' ∉ entry.toList) := by
    constructor
    · intro all older entry stored
      subst older
      have fit := all entry (mem_bypassEntries stored)
      constructor
      · intro there
        exact absurd (fit _ there) (by decide)
      · intro there
        exact absurd (fit _ there) (by decide)
    · intro separators entry known
      rcases Selection.mem_appendAll.mp known with known | stored
      · exact defaultNoProxy_fits entry known
      · intro char there
        by_contra ends
        have plain := plainLine_of_mem_loadNoProxy stored
        have lineFeed : char ≠ '\n' := fun same => plain.1 (same ▸ there)
        have carriageReturn : char ≠ '\r' := fun same => plain.2 (same ▸ there)
        have separator := (endsLine_iff lineFeed carriageReturn).mp (by simpa using ends)
        obtain ⟨noLine, noParagraph⟩ := separators separator.1 entry stored
        rcases separator.2 with rfl | rfl
        · exact noLine there
        · exact noParagraph there
  constructor
  · rw [readScript_pacScript, if_pos ((fits .es2019).mpr nofun)]
  constructor
  · rw [readScript_pacScript]
    exact if_congr ((fits .es5).trans (by simp)) rfl rfl
  · intro host
    unfold ReadScript.findProxyForUrl Pac.findProxyForUrl intended buildPac
    simp only [List.any_map, Function.comp_def, literalValue_quoted, String.ofList_toList]

end ProxyLauncher.Routing
