import ProxyLauncher.Routing.Policy

/-!
# Do the PAC script and the engine agree?

The engine normalizes an entry and the script does not, the engine takes a question mark for
a wildcard wherever it stands and the script only next to a star, and a regular expression
that ignores case knows more equal characters than equality.  For every other entry the two
tests have the same result.
-/

namespace ProxyLauncher.Routing

open Glob Python

variable {characters : Characters} {entry host : String}

/-- A lower-case host name without trailing dot and without brackets. -/
structure HostName (characters : Characters) (host : String) : Prop where
  nonempty : host ≠ ""
  solid : ∀ char ∈ host.toList, isSpace char = false
  lower : characters.lower host = host
  noTrailingDot : host.toList.getLast? ≠ some '.'
  unbracketed : ¬ (host.toList.head? = some '[' ∧ host.toList.getLast? = some ']')

/-- Normalizing does not change the entry, it has no leading dot, a question mark only next
to a star, and if it has a star, no character that another one of the host is equal to but
for the case. -/
structure Regular (characters : Characters) (entry host : String) : Prop where
  nonempty : entry ≠ ""
  normalized : normalizeHost characters entry = entry
  noLeadingDot : entry.toList.head? ≠ some '.'
  question : '?' ∈ entry.toList → '*' ∈ entry.toList
  case : '*' ∈ entry.toList → ∀ char ∈ entry.toList, ∀ other ∈ host.toList,
    characters.sameCase char other = true → other = char

/-- The host is the text or a subdomain of it; a question mark of the text stands for any
character of a subdomain. -/
def Subdomain (text host : List Char) : Prop :=
  host = text ∨ ∃ front back, host = front ++ '.' :: back ∧
    List.Forall₂ (fun char other => char = '?' ∨ other = char) text back

/-- The entry names the host as it is written. -/
def NamesWritten (entry host : String) : Prop :=
  ('*' ∈ entry.toList ∧
    Instance '*' '?' (fun char other => other = char) entry.toList host.toList) ∨
  ('*' ∉ entry.toList ∧ Subdomain entry.toList host.toList)

/-- The entry names the host after it has been normalized and a leading dot been dropped, with
capital and small letters alike in a pattern. -/
def NamesNormalized (characters : Characters) (entry host : String) : Prop :=
  let text := enginePattern characters entry
  normalizeHost characters entry ≠ "" ∧
    ((('*' ∈ text ∨ '?' ∈ text) ∧
      Instance '*' '?' (fun char other => characters.sameCase char other = true) text
        host.toList) ∨
    ('*' ∉ text ∧ '?' ∉ text ∧ Subdomain text host.toList))

theorem strip_of_solid {text : String} (solid : ∀ char ∈ text.toList, isSpace char = false) :
    strip text = text := by
  have front : text.toList.dropWhile isSpace = text.toList := by
    cases chars : text.toList with
    | nil => rfl
    | cons char rest =>
        have head := solid char (by rw [chars]; exact List.mem_cons_self)
        simp [head]
  have back : text.toList.rdropWhile isSpace = text.toList := by
    rw [List.rdropWhile_eq_self_iff]
    intro nonempty
    simp [solid _ (List.getLast_mem nonempty)]
  rw [strip, front, back, String.ofList_toList]

theorem rstripChar_eq_self {char : Char} {text : String}
    (other : text.toList.getLast? ≠ some char) : rstripChar char text = text := by
  have kept : text.toList.rdropWhile (fun other => other = char) = text.toList := by
    rw [List.rdropWhile_eq_self_iff]
    intro nonempty
    rw [List.getLast?_eq_some_getLast nonempty] at other
    simpa using other
  rw [rstripChar, kept, String.ofList_toList]

theorem HostName.normalizeHost_eq (name : HostName characters host) :
    normalizeHost characters host = host := by
  rw [normalizeHost, strip_of_solid name.solid, name.lower,
    rstripChar_eq_self name.noTrailingDot]
  exact if_neg name.unbracketed

theorem HostName.no_lineFeed (name : HostName characters host) :
    ∀ char ∈ host.toList, char ≠ '\n' := by
  rintro char member rfl
  have space := name.solid '\n' member
  exact absurd space (by decide)

@[simp] theorem literalValue_cons {char : Char} (plain : char ≠ '\\') (rest : List Char) :
    literalValue (char :: rest) = char :: literalValue rest := by
  cases rest with
  | nil => simp [literalValue]
  | cons next rest => simp [literalValue, plain]

/-- Reading a quoted entry gives the entry. -/
theorem literalValue_quoted (entry : String) : literalValue (quoted entry) = entry.toList := by
  unfold quoted replaceChar
  induction entry.toList with
  | nil => rfl
  | cons char chars ih =>
      by_cases backslash : char = '\\'
      · subst backslash
        simpa [literalValue] using ih
      · by_cases quote : char = '"'
        · subst quote
          simpa [literalValue] using ih
        · simpa [backslash, quote] using ih

/-- A text without question marks is the only one that agrees with it. -/
theorem forall₂_literal {text back : List Char} (literal : '?' ∉ text) :
    List.Forall₂ (fun char other => char = '?' ∨ other = char) text back ↔ back = text := by
  induction text generalizing back with
  | nil => exact List.forall₂_nil_left_iff
  | cons char text ih =>
      obtain ⟨different, others⟩ := not_or.mp (mt List.mem_cons.mpr literal)
      rw [List.forall₂_cons_left_iff]
      constructor
      · intro ⟨other, rest, fits, agrees, shape⟩
        rw [shape, (ih others).mp agrees, fits.resolve_left fun same => different same.symm]
      · intro same
        exact ⟨char, text, .inr rfl, (ih others).mpr rfl, same⟩

theorem subdomain_iff {text host : List Char} (literal : '?' ∉ text) :
    Subdomain text host ↔ host = text ∨ '.' :: text <:+ host := by
  apply or_congr Iff.rfl
  constructor
  · intro ⟨front, back, split, agrees⟩
    rw [split, (forall₂_literal literal).mp agrees]
    exact List.suffix_append front _
  · intro ⟨front, split⟩
    exact ⟨front, text, split.symm, (forall₂_literal literal).mpr rfl⟩

theorem engineGlob_iff (name : HostName characters host) (pattern : List Char) :
    engineGlob characters pattern host.toList = true ↔
      Instance '*' '?' (fun char other => characters.sameCase char other = true) pattern
        host.toList := by
  have last : host.toList.getLast? ≠ some '\n' := by
    intro ends
    exact name.no_lineFeed '\n' (List.mem_of_getLast? ends) rfl
  have solid : ∀ char ∈ host.toList, decide (char ≠ '\n') = true := by
    intro char member
    exact decide_eq_true (name.no_lineFeed char member)
  rw [engineGlob, decide_eq_false last, Bool.false_and, Bool.or_false]
  exact globMatch_compile_iff (by decide) solid

theorem shExpMatch_iff {text pattern : List Char} :
    shExpMatch text pattern = true ↔
      Instance '*' '?' (fun char other => other = char) pattern text := by
  rw [shExpMatch, globMatch_compile_iff (by decide) fun _ _ => rfl]
  simp only [decide_eq_true_eq]

theorem shExpMatch_subdomain {text pattern : List Char} (noStar : '*' ∉ pattern) :
    shExpMatch text ('*' :: '.' :: pattern) = true ↔
      ∃ front back, text = front ++ '.' :: back ∧
        List.Forall₂ (fun char other => char = '?' ∨ other = char) pattern back := by
  have dot : ('.' : Char) ≠ '*' ∧ ('.' : Char) ≠ '?' := by decide
  rw [shExpMatch_iff]
  constructor
  · intro found
    cases found with
    | star front rest =>
        rcases instance_cons_iff.mp rest with ⟨same, -⟩ | ⟨same, -⟩ | ⟨-, -, _, back, rfl, rfl, found⟩
        · exact absurd same dot.1
        · exact absurd same dot.2
        · exact ⟨front, back, rfl, (instance_iff_forall₂ noStar).mp found⟩
    | char other => exact absurd rfl other
  · intro ⟨front, back, split, agrees⟩
    subst split
    exact .star front (.char dot.1 dot.2 rfl ((instance_iff_forall₂ noStar).mpr agrees))

/-- The engine bypasses the proxy for the hosts that an entry names normalized. -/
theorem engineMatches_iff (name : HostName characters host) :
    engineMatches characters entry host = true ↔ NamesNormalized characters entry host := by
  rw [engineMatches, NamesNormalized]
  by_cases empty : normalizeHost characters entry = ""
  · simp [empty]
  · rw [if_neg empty]
    by_cases wild : '*' ∈ enginePattern characters entry ∨ '?' ∈ enginePattern characters entry
    · have notLiteral : ¬ ('*' ∉ enginePattern characters entry ∧
          '?' ∉ enginePattern characters entry) := by
        rw [← not_or, not_not]
        exact wild
      rw [if_pos wild, engineGlob_iff name]
      simp only [empty, wild, ne_eq, not_false_eq_true, true_and, ← and_assoc, notLiteral,
        false_and, or_false]
    · rw [if_neg wild, Bool.or_eq_true, decide_eq_true_eq, List.isSuffixOf_iff_suffix]
      obtain ⟨noStar, noQuestion⟩ := not_or.mp wild
      simp only [empty, noStar, noQuestion, subdomain_iff noQuestion, ne_eq, or_self,
        not_false_eq_true, true_and, false_and, false_or]

/-- The script bypasses the proxy for the hosts that an entry names as it is written. -/
theorem pacMatches_iff (name : HostName characters host) :
    pacMatches entry.toList host.toList = true ↔ NamesWritten entry host := by
  rw [pacMatches, NamesWritten]
  by_cases star : '*' ∈ entry.toList
  · rw [if_pos star, shExpMatch_iff]
    simp only [star, not_true_eq_false, false_and, or_false, true_and]
  · have brackets : decide (host.toList = '[' :: entry.toList ++ [']']) = false := by
      apply decide_eq_false
      intro same
      apply name.unbracketed
      rw [same]
      exact ⟨rfl, List.getLast?_concat ..⟩
    rw [if_neg star, brackets, Bool.and_false, Bool.or_false, Bool.or_eq_true, decide_eq_true_eq,
      shExpMatch_subdomain star]
    simp only [star, Subdomain, false_and, false_or, not_false_eq_true, true_and]

theorem Regular.enginePattern_eq (regular : Regular characters entry host) :
    enginePattern characters entry = entry.toList := by
  rw [enginePattern, regular.normalized]
  exact if_neg regular.noLeadingDot

/-- A regular entry names the same hosts in both readings. -/
theorem Regular.names_iff (regular : Regular characters entry host) :
    NamesNormalized characters entry host ↔ NamesWritten entry host := by
  rw [NamesNormalized, NamesWritten, regular.enginePattern_eq, regular.normalized]
  by_cases star : '*' ∈ entry.toList
  · simp only [regular.nonempty, star, true_or, true_and, ne_eq, not_false_eq_true,
      not_true_eq_false, false_and, or_false]
    constructor
    · intro found
      exact found.imp (regular.case star)
    · intro found
      apply found.imp
      intro char _ other _ same
      rw [same]
      exact characters.sameCase_self char
  · have noQuestion : '?' ∉ entry.toList := fun question => star (regular.question question)
    simp only [regular.nonempty, star, noQuestion, or_self, false_and, false_or, ne_eq,
      not_false_eq_true, true_and]

/-- A regular entry names the host, or no other entry does so in either of its forms, or there
are entries of both kinds: one that names it as written and one that names it normalized. -/
def Decided (characters : Characters) (entries : List String) (host : String) : Prop :=
  (∃ entry ∈ entries, Regular characters entry host ∧ NamesWritten entry host) ∨
  (∀ entry ∈ entries, ¬ Regular characters entry host →
    ¬ NamesWritten entry host ∧ ¬ NamesNormalized characters entry host) ∨
  (∃ entry ∈ entries, ¬ Regular characters entry host ∧ NamesWritten entry host) ∧
    ∃ entry ∈ entries, ¬ Regular characters entry host ∧ NamesNormalized characters entry host

theorem hostBypassesProxy_iff (name : HostName characters host) (stored : List String) :
    hostBypassesProxy characters stored host = true ↔
      ∃ entry ∈ bypassEntries stored, engineMatches characters entry host = true := by
  rw [hostBypassesProxy, name.normalizeHost_eq]
  simp only [if_neg name.nonempty, List.any_eq_true]

theorem proxy_ne_direct (port : Nat) : "PROXY 127.0.0.1:" ++ toString port ≠ "DIRECT" := by
  intro same
  have chars := congrArg String.toList same
  rw [String.toList_append] at chars
  exact absurd (List.cons.inj chars).1 (by decide)

theorem findProxyForUrl_iff (stored : List String) (port : Nat) (host : String) :
    (buildPac stored port).findProxyForUrl host = "DIRECT" ↔
      ∃ entry ∈ bypassEntries stored, pacMatches entry.toList host.toList = true := by
  have direct : (buildPac stored port).direct.any (fun literal =>
      pacMatches (literalValue literal) host.toList) = true ↔
      ∃ entry ∈ bypassEntries stored, pacMatches entry.toList host.toList = true := by
    simp [buildPac, List.any_map, literalValue_quoted]
  rw [← direct, Pac.findProxyForUrl]
  split
  · rename_i covered
    exact iff_of_true rfl covered
  · rename_i uncovered
    exact iff_of_false (proxy_ne_direct _) uncovered

/-- Splitting a search into the regular entries and the others. -/
theorem exists_split (characters : Characters) (property : String → Prop) (entries : List String) (host : String) :
    (∃ entry ∈ entries, property entry) ↔
      (∃ entry ∈ entries, Regular characters entry host ∧ property entry) ∨
        ∃ entry ∈ entries, ¬ Regular characters entry host ∧ property entry := by
  constructor
  · rintro ⟨entry, member, holds⟩
    by_cases regular : Regular characters entry host
    · exact .inl ⟨entry, member, regular, holds⟩
    · exact .inr ⟨entry, member, regular, holds⟩
  · rintro (⟨entry, member, -, holds⟩ | ⟨entry, member, -, holds⟩)
    · exact ⟨entry, member, holds⟩
    · exact ⟨entry, member, holds⟩

theorem or_iff_or_iff {shared left right : Prop} :
    (shared ∨ left ↔ shared ∨ right) ↔ shared ∨ (¬ left ∧ ¬ right) ∨ (left ∧ right) := by
  by_cases holds : shared
  · simp [holds]
  · simp only [holds, false_or]
    exact iff_iff_and_or_not_and_not.trans or_comm

theorem forall_not_iff {entries : List String} {irregular written normalized : String → Prop} :
    (∀ entry ∈ entries, irregular entry → ¬ written entry ∧ ¬ normalized entry) ↔
      (¬ ∃ entry ∈ entries, irregular entry ∧ written entry) ∧
        ¬ ∃ entry ∈ entries, irregular entry ∧ normalized entry := by
  constructor
  · intro none
    constructor
    · intro ⟨entry, member, odd, holds⟩
      exact (none entry member odd).1 holds
    · intro ⟨entry, member, odd, holds⟩
      exact (none entry member odd).2 holds
  · intro ⟨noWritten, noNormalized⟩ entry member odd
    exact ⟨fun holds => noWritten ⟨entry, member, odd, holds⟩,
      fun holds => noNormalized ⟨entry, member, odd, holds⟩⟩

theorem agree_iff_decided (name : HostName characters host) (stored : List String)
    (port : Nat) :
    ((buildPac stored port).findProxyForUrl host = "DIRECT" ↔
      hostBypassesProxy characters stored host = true) ↔
      Decided characters (bypassEntries stored) host := by
  have regular : (∃ entry ∈ bypassEntries stored, Regular characters entry host ∧
      NamesNormalized characters entry host) ↔
      ∃ entry ∈ bypassEntries stored, Regular characters entry host ∧ NamesWritten entry host :=
    exists_congr fun entry => and_congr_right fun _ => and_congr_right fun regular =>
      regular.names_iff
  rw [findProxyForUrl_iff, hostBypassesProxy_iff name, Decided, forall_not_iff]
  simp only [pacMatches_iff name, engineMatches_iff name]
  rw [exists_split characters (NamesWritten · host) _ host,
    exists_split characters (NamesNormalized characters · host) _ host, regular]
  exact or_iff_or_iff

/-- A host is decided when every entry is regular. -/
theorem decided_of_regular {entries : List String}
    (all : ∀ entry ∈ entries, Regular characters entry host) :
    Decided characters entries host :=
  .inr (.inl fun entry member irregular => absurd (all entry member) irregular)

/-- The script and the engine agree on a host exactly when it is decided by the entries, in
particular when all the entries are regular. -/
theorem pac_agrees_iff (characters : Characters) (domains : List String) (port : Nat)
    (host : String) (name : HostName characters host) :
    let stored := loadNoProxy (saveNoProxy characters domains)
    (((buildPac stored port).findProxyForUrl host = "DIRECT" ↔
        hostBypassesProxy characters stored host = true) ↔
      Decided characters (bypassEntries stored) host) ∧
    ((∀ entry ∈ bypassEntries stored, Regular characters entry host) →
      ((buildPac stored port).findProxyForUrl host = "DIRECT" ↔
        hostBypassesProxy characters stored host = true)) :=
  ⟨agree_iff_decided name _ port,
    fun all => (agree_iff_decided name _ port).mpr (decided_of_regular all)⟩

/-- A line without line ends of its own. -/
def PlainLine (line : String) : Prop :=
  '\n' ∉ line.toList ∧ '\r' ∉ line.toList

instance (line : String) : Decidable (PlainLine line) := inferInstanceAs (Decidable (_ ∧ _))

theorem universalLines_line {line : List Char} (noLineFeed : '\n' ∉ line)
    (noReturn : '\r' ∉ line) (rest : List Char) :
    universalLines (line ++ '\n' :: rest) = line :: universalLines rest := by
  induction line with
  | nil => simp [universalLines]
  | cons char chars ih =>
      simp only [List.mem_cons, not_or] at noLineFeed noReturn
      rw [List.cons_append, universalLines.eq_5 char _ (by grind) (by grind) (by grind),
        ih noLineFeed.2 noReturn.2]

theorem universalLines_joined {lines : List String} (plain : ∀ line ∈ lines, PlainLine line) :
    universalLines (lines.flatMap fun line => line.toList ++ ['\n']) =
      lines.map String.toList := by
  induction lines with
  | nil => rfl
  | cons line lines ih =>
      have plainLine := plain line List.mem_cons_self
      rw [List.flatMap_cons, List.append_assoc, List.singleton_append,
        universalLines_line plainLine.1 plainLine.2,
        ih fun line member => plain line (List.mem_cons_of_mem _ member), List.map_cons]

theorem toList_joined {lines : List String} (nonempty : lines ≠ []) :
    (String.intercalate "\n" lines ++ "\n").toList =
      lines.flatMap fun line => line.toList ++ ['\n'] := by
  induction lines with
  | nil => exact absurd rfl nonempty
  | cons line lines ih =>
      cases lines with
      | nil => simp
      | cons next lines =>
          have tail := ih (List.cons_ne_nil _ _)
          rw [List.flatMap_cons, ← tail, String.intercalate_cons_cons]
          simp

/-- Reading a file of plain lines. -/
theorem loadNoProxy_joined {lines : List String} (nonempty : lines ≠ [])
    (plain : ∀ line ∈ lines, PlainLine line) :
    loadNoProxy (String.intercalate "\n" lines ++ "\n") =
      (lines.map strip).filter fun line => line ≠ "" ∧ line.toList.head? ≠ some '#' := by
  rw [loadNoProxy, toList_joined nonempty, universalLines_joined plain, List.map_map]
  simp only [Function.comp_def, String.ofList_toList]

theorem head?_strip {text : String} {char : Char} (first : text.toList.head? = some char)
    (solid : isSpace char = false) : (strip text).toList.head? = some char := by
  obtain ⟨rest, shape⟩ : ∃ rest, text.toList = char :: rest := List.head?_eq_some_iff.mp first
  have front : (char :: rest).dropWhile isSpace = char :: rest := by simp [solid]
  rw [strip, String.toList_ofList, shape, front]
  cases trimmed : (char :: rest).rdropWhile isSpace with
  | nil =>
      have spaces := List.rdropWhile_eq_nil_iff.mp trimmed char List.mem_cons_self
      rw [solid] at spaces
      exact absurd spaces Bool.false_ne_true
  | cons head tail =>
      have isPrefix : (head :: tail) <+: char :: rest := trimmed ▸ List.rdropWhile_prefix ..
      rw [List.head?_cons, (List.cons_prefix_cons.mp isPrefix).1]

theorem noProxyHeader_plain : ∀ line ∈ noProxyHeader, PlainLine line := by
  unfold noProxyHeader PlainLine
  simp only [List.forall_mem_cons]
  repeat rw [String.toList_ofList]
  simp

/-- The comment lines are skipped. -/
theorem noProxyHeader_skipped :
    (noProxyHeader.map strip).filter
      (fun line => line ≠ "" ∧ line.toList.head? ≠ some '#') = [] := by
  have comments : ∀ line ∈ noProxyHeader, line = "" ∨ line.toList.head? = some '#' := by
    unfold noProxyHeader
    simp only [List.forall_mem_cons]
    repeat rw [String.toList_ofList]
    simp
  rw [List.filter_eq_nil_iff]
  simp only [List.mem_map, decide_eq_true_eq, not_and, not_not]
  rintro line ⟨comment, member, rfl⟩ nonempty
  rcases comments comment member with rfl | first
  · exact absurd strip_empty nonempty
  · exact head?_strip first (by decide)

/-- What the programs read is what the cleaned exclusions are, in the order they were saved. -/
theorem loadNoProxy_saveNoProxy {domains saved : List String}
    (normalized : Selection.distinct ((domains.map (cleanDomain characters)).filter (· ≠ "")) = saved)
    (plain : ∀ domain ∈ saved, PlainLine domain) :
    loadNoProxy (saveNoProxy characters domains) =
      (saved.map strip).filter fun line => line ≠ "" ∧ line.toList.head? ≠ some '#' := by
  have lines : ∀ line ∈ noProxyHeader ++ saved, PlainLine line := by
    intro line member
    rcases List.mem_append.mp member with member | member
    · exact noProxyHeader_plain line member
    · exact plain line member
  rw [saveNoProxy, normalized, loadNoProxy_joined (by simp [noProxyHeader]) lines,
    List.map_append, List.filter_append, noProxyHeader_skipped, List.nil_append]

theorem mem_bypassEntries {stored : List String} {entry : String} (member : entry ∈ stored) :
    entry ∈ bypassEntries stored :=
  Selection.mem_appendAll.mpr (.inr member)

/-- The functions of the library on ASCII texts. -/
def asciiCharacters : Characters where
  lower text := .ofList (text.toList.map Char.toLower)
  isDigit := Char.isDigit
  sameCase char other := decide (char.toLower = other.toLower)
  sameCase_self _ := decide_eq_true rfl

theorem sample_name : HostName asciiCharacters "corp.example" where
  nonempty := by decide
  solid := by simp [isSpace]
  lower := by decide
  noTrailingDot := by decide
  unbracketed := by decide

/-- What is stored of the sample entry, without and with a leading dot. -/
theorem sample_values :
    (Selection.distinct ((["corp.example"].map (cleanDomain asciiCharacters)).filter (· ≠ "")) =
        ["corp.example"] ∧
      ((["corp.example"].map strip).filter fun line =>
        line ≠ "" ∧ line.toList.head? ≠ some '#') = ["corp.example"]) ∧
    (Selection.distinct (([".corp.example"].map (cleanDomain asciiCharacters)).filter (· ≠ "")) =
        [".corp.example"] ∧
      (([".corp.example"].map strip).filter fun line =>
        line ≠ "" ∧ line.toList.head? ≠ some '#') = [".corp.example"]) := by
  unfold cleanDomain strip asciiCharacters
  simp only [List.map_cons, List.map_nil]
  repeat rw [String.toList_ofList]
  decide

theorem sample_regular : Regular asciiCharacters "corp.example" "corp.example" where
  nonempty := by decide
  normalized := sample_name.normalizeHost_eq
  noLeadingDot := by decide
  question := by decide
  case := by decide

theorem sample_stored : loadNoProxy (saveNoProxy asciiCharacters ["corp.example"]) =
    ["corp.example"] := by
  obtain ⟨saved, loaded⟩ := sample_values.1
  rw [loadNoProxy_saveNoProxy saved (by decide), loaded]

theorem sample_stored_dotted : loadNoProxy (saveNoProxy asciiCharacters [".corp.example"]) =
    [".corp.example"] := by
  obtain ⟨saved, loaded⟩ := sample_values.2
  rw [loadNoProxy_saveNoProxy saved (by decide), loaded]

theorem pac_agrees_iff_sample :
    (buildPac (loadNoProxy (saveNoProxy asciiCharacters ["corp.example"])) 8080).findProxyForUrl
        "corp.example" = "DIRECT" ↔
      hostBypassesProxy asciiCharacters
        (loadNoProxy (saveNoProxy asciiCharacters ["corp.example"])) "corp.example" = true := by
  refine (pac_agrees_iff asciiCharacters ["corp.example"] 8080 "corp.example"
    sample_name).1.mpr (.inl ⟨"corp.example", ?_, sample_regular, ?_⟩)
  · rw [sample_stored]
    exact mem_bypassEntries (List.mem_singleton.mpr rfl)
  · exact .inr ⟨by decide, .inl rfl⟩

/-- An entry with a leading dot: the engine bypasses the proxy for the domain, and the script
uses it. -/
theorem pac_agrees_fails :
    HostName asciiCharacters "corp.example" ∧
    hostBypassesProxy asciiCharacters
      (loadNoProxy (saveNoProxy asciiCharacters [".corp.example"])) "corp.example" = true ∧
    (buildPac (loadNoProxy (saveNoProxy asciiCharacters [".corp.example"])) 8080).findProxyForUrl
      "corp.example" = "PROXY 127.0.0.1:8080" := by
  rw [sample_stored_dotted]
  refine ⟨sample_name, ?_, ?_⟩
  · refine (hostBypassesProxy_iff sample_name _).mpr
      ⟨".corp.example", mem_bypassEntries (List.mem_singleton.mpr rfl), ?_⟩
    unfold engineMatches enginePattern normalizeHost rstripChar strip asciiCharacters
    repeat rw [String.toList_ofList]
    decide
  · have passed : ∀ entry ∈ defaultNoProxy ++ [".corp.example"],
        pacMatches entry.toList "corp.example".toList = false := by
      unfold defaultNoProxy
      simp only [List.cons_append, List.nil_append, List.forall_mem_cons]
      repeat rw [String.toList_ofList]
      decide
    rw [Pac.findProxyForUrl, if_neg]
    · rfl
    · rw [List.any_eq_true]
      intro found
      obtain ⟨literal, member, covers⟩ := found
      obtain ⟨entry, known, rfl⟩ := List.mem_map.mp member
      rw [bypassEntries, Selection.mem_appendAll, ← List.mem_append] at known
      rw [literalValue_quoted, passed entry known] at covers
      exact absurd covers Bool.false_ne_true

end ProxyLauncher.Routing
