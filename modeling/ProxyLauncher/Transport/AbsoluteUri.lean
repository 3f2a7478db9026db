import ProxyLauncher.Transport.Chunking

/-!
# Absolute URIs

A plain request names its target with an absolute URI.  Both listeners cut the host, the port
and the path out of its text by hand.
-/

namespace ProxyLauncher.Transport

open Python

def isHexDigit (char : Char) : Prop :=
  ('0' ≤ char ∧ char ≤ '9') ∨ ('a' ≤ char ∧ char ≤ 'f') ∨ ('A' ≤ char ∧ char ≤ 'F')

/-- A registered name, which may be an IPv4 address, or an IPv6 address in brackets. -/
inductive UriHost where
  | name (chars : List Char)
  | ipv6 (chars : List Char)

/-- The characters of a host: the delimiters of a URI are not in a name. -/
def UriHost.Valid : UriHost → Prop
  | .name chars => ∀ char ∈ chars, 32 < char.toNat ∧ char.toNat < 127 ∧
      char ∉ [':', '/', '?', '#', '[', ']', '@']
  | .ipv6 chars => ':' ∈ chars ∧ ∀ char ∈ chars, isHexDigit char ∨ char = ':' ∨ char = '.'

/-- An absolute http URI without user information.  Its scheme has any letter case. -/
structure AbsoluteUri where
  scheme : List Char
  host : UriHost
  port : Option (List Char)
  path : List Char
  query : Option (List Char)
  scheme_http : scheme.map Char.toLower = ['h', 't', 't', 'p']
  host_valid : host.Valid
  port_digits : ∀ digits ∈ port, ∀ char ∈ digits, '0' ≤ char ∧ char ≤ '9'
  path_absolute : path ≠ [] → path.head? = some '/'
  path_plain : ∀ char ∈ path, char ≠ '?' ∧ char ≠ '#'
  query_plain : ∀ chars ∈ query, '#' ∉ chars

def UriHost.chars : UriHost → List Char
  | .name chars => chars
  | .ipv6 chars => '[' :: chars ++ [']']

namespace AbsoluteUri

variable (uri : AbsoluteUri)

/-- The host with the port. -/
def authority : List Char :=
  uri.host.chars ++ (uri.port.map fun digits => ':' :: digits).getD []

def queryPart : List Char := (uri.query.map fun chars => '?' :: chars).getD []

def text : String :=
  .ofList (uri.scheme ++ [':', '/', '/'] ++ uri.authority ++ uri.path ++ uri.queryPart)

/-- The host in lower case, a name without the dots at its end. -/
def hostName : String :=
  match uri.host with
  | .name chars => .ofList ((chars.map Char.toLower).rdropWhile fun char => char = '.')
  | .ipv6 chars => .ofList (chars.map Char.toLower)

/-- The value of the port; it is 80 if there is none, or no digit of one. -/
def portNumber : Int :=
  match uri.port with
  | none | some [] => 80
  | some digits => (digits.foldl (fun value char => value * 10 + (char.toNat - '0'.toNat)) 0 : Nat)

/-- The path, which is not empty in a request, and the query. -/
def target : String :=
  .ofList ((if uri.path = [] then ['/'] else uri.path) ++ uri.queryPart)

/-- The scheme is in lower case, an IPv6 address has a port (which may be empty), a port has few
enough digits to be converted (unless it is 80), and a query has a path. -/
structure Supported : Prop where
  scheme : uri.scheme = ['h', 't', 't', 'p']
  port : (∃ chars, uri.host = .ipv6 chars) → uri.port ≠ none
  digits : ∀ digits ∈ uri.port, digits.length ≤ maxStrDigits ∨ uri.portNumber = 80
  path : uri.query ≠ none → uri.path ≠ []

end AbsoluteUri

/-- `text.lower()` changes the capital letters of an ASCII text and nothing else. -/
def LowersAscii (characters : Routing.Characters) : Prop :=
  ∀ text : String, (∀ char ∈ text.toList, char.toNat < 128) →
    characters.lower text = .ofList (text.toList.map Char.toLower)

variable {library : Library} {separator : Char} {front rest chars : List Char}

theorem rsplitOnce_append (absent : separator ∉ rest) :
    rsplitOnce separator (.ofList (front ++ separator :: rest)) =
      some (.ofList front, .ofList rest) := by
  have keep : ∀ char ∈ rest.reverse, decide (char ≠ separator) = true := by
    intro char member
    simp only [decide_eq_true_eq]
    rintro rfl
    exact absent (List.mem_reverse.mp member)
  have last : (rest.reverse ++ separator :: front.reverse).takeWhile
      (fun char => decide (char ≠ separator)) = rest.reverse := by
    rw [List.takeWhile_append_of_pos keep, List.takeWhile_cons_of_neg (by simp), List.append_nil]
  have first : (rest.reverse ++ separator :: front.reverse).dropWhile
      (fun char => decide (char ≠ separator)) = separator :: front.reverse := by
    rw [List.dropWhile_append_of_pos keep, List.dropWhile_cons_of_neg (by simp)]
  rw [rsplitOnce, if_pos (by simp)]
  simp only [String.toList_ofList, List.rtakeWhile, List.rdropWhile, List.reverse_append,
    List.reverse_cons, List.append_assoc, List.singleton_append, last, first]
  simp

theorem rsplitOnce_of_notMem {text : String} (absent : separator ∉ text.toList) :
    rsplitOnce separator text = none := if_neg absent

section Ports

variable (decimal : Char → Option Nat)

theorem digitsFrom_eq {value : Nat} (digit : ∀ char ∈ chars, '0' ≤ char ∧ char ≤ '9') :
    digitsFrom decimal value chars =
      some (chars.foldl (fun value char => value * 10 + (char.toNat - '0'.toNat)) value) := by
  induction chars generalizing value with
  | nil => rfl
  | cons char chars ih =>
      obtain ⟨here, later⟩ := List.forall_mem_cons.mp digit
      have noUnderscore : char ≠ '_' := by
        rintro rfl
        exact absurd here (by decide)
      rw [digitsFrom]
      · simp only [Python.digit, if_pos here, Option.bind_eq_bind, Option.bind_some, ih later]
        rfl
      · rintro next rest rfl
        exact absurd rfl noUnderscore

/-- A text of digits is a number unless it has none or too many. -/
theorem parseInt_digits (digit : ∀ char ∈ chars, '0' ≤ char ∧ char ≤ '9') :
    parseInt decimal (.ofList chars) =
      if chars = [] ∨ maxStrDigits < chars.length then none
      else some ((chars.foldl (fun value char => value * 10 + (char.toNat - '0'.toNat)) 0 : Nat) :
        Int) := by
  have solid : ∀ char ∈ (String.ofList chars).toList, isSpace char = false := by
    intro char member
    rw [String.toList_ofList] at member
    have range := digit char member
    simp only [Char.le_def, UInt32.le_iff_toNat_le] at range
    have low : 48 ≤ char.toNat := range.1
    have high : char.toNat ≤ 57 := range.2
    simp [isSpace]
    omega
  have counted : chars.filter (fun char => char ≠ '_') = chars := by
    apply List.filter_eq_self.mpr
    intro char member
    apply decide_eq_true
    rintro rfl
    exact absurd (digit _ member) (by decide)
  rw [parseInt, stripNumber_of_not_isSpace solid, String.toList_ofList]
  cases chars with
  | nil => rfl
  | cons char chars =>
      obtain ⟨here, later⟩ := List.forall_mem_cons.mp digit
      have value : numeral decimal (char :: chars) = if maxStrDigits < (char :: chars).length
          then none else some ((char :: chars).foldl
            (fun value char => value * 10 + (char.toNat - '0'.toNat)) 0) := by
        rw [numeral, counted]
        simp only [Python.digits, Python.digit, if_pos here, Option.bind_eq_bind, Option.bind_some,
          digitsFrom_eq decimal later, List.foldl_cons, Nat.zero_mul, Nat.zero_add]
      rw [signed]
      · rw [value]
        by_cases many : maxStrDigits < (char :: chars).length
        · rw [if_pos many, if_pos (.inr many)]
          rfl
        · rw [if_neg many, if_neg (not_or_intro (List.cons_ne_nil _ _) many)]
          rfl
      · rintro rest same
        obtain ⟨rfl, -⟩ := List.cons.inj same
        exact absurd here (by decide)
      · rintro rest same
        obtain ⟨rfl, -⟩ := List.cons.inj same
        exact absurd here (by decide)

end Ports

theorem toNat_toLower (char : Char) :
    char.toLower.toNat = if 65 ≤ char.toNat ∧ char.toNat ≤ 90 then char.toNat + 32
      else char.toNat := by
  have capital : (char.val ≥ 'A'.val ∧ char.val ≤ 'Z'.val) ↔
      65 ≤ char.toNat ∧ char.toNat ≤ 90 := by
    simp only [ge_iff_le, UInt32.le_iff_toNat_le]
    rfl
  unfold Char.toLower
  split
  · rename_i inside
    have range := capital.mp inside
    rw [if_pos range]
    show (char.val + ('a'.val - 'A'.val)).toNat = char.toNat + 32
    rw [UInt32.toNat_add]
    show (char.toNat + 32) % 2 ^ 32 = char.toNat + 32
    omega
  · rename_i outside
    rw [if_neg (capital.not.mp outside)]

/-- A character that is no letter is not made by lower case. -/
theorem toLower_ne {char other : Char} (different : char ≠ other)
    (noLetter : other.toNat < 97 ∨ 122 < other.toNat) : char.toLower ≠ other := by
  intro same
  have code := toNat_toLower char
  rw [same] at code
  split at code
  · omega
  · exact different (Char.toNat_inj.mp code.symm)

theorem notMem_lower {char : Char} (noLetter : char.toNat < 97 ∨ 122 < char.toNat)
    (absent : char ∉ chars) : char ∉ chars.map Char.toLower := by
  intro member
  obtain ⟨other, member', same⟩ := List.mem_map.mp member
  refine toLower_ne ?_ noLetter same
  rintro rfl
  exact absent member'

theorem notMem_brackets {char : Char} (hex : isHexDigit char ∨ char = ':' ∨ char = '.') :
    32 < char.toNat ∧ char.toNat < 127 ∧ char ≠ '[' ∧ char ≠ ']' ∧ char ≠ '/' := by
  have codes : 32 < char.toNat ∧ char.toNat < 127 ∧ char.toNat ≠ 91 ∧ char.toNat ≠ 93 ∧
      char.toNat ≠ 47 := by
    rcases hex with (⟨low, high⟩ | ⟨low, high⟩ | ⟨low, high⟩) | rfl | rfl
    · simp only [Char.le_def, UInt32.le_iff_toNat_le] at low high
      have low : 48 ≤ char.toNat := low
      have high : char.toNat ≤ 57 := high
      omega
    · simp only [Char.le_def, UInt32.le_iff_toNat_le] at low high
      have low : 97 ≤ char.toNat := low
      have high : char.toNat ≤ 102 := high
      omega
    · simp only [Char.le_def, UInt32.le_iff_toNat_le] at low high
      have low : 65 ≤ char.toNat := low
      have high : char.toNat ≤ 70 := high
      omega
    · decide
    · decide
  obtain ⟨low, high, left, right, slash⟩ := codes
  refine ⟨low, high, ?_, ?_, ?_⟩
  · rintro rfl
    exact left rfl
  · rintro rfl
    exact right rfl
  · rintro rfl
    exact slash rfl

theorem isSpace_eq_false {char : Char} (low : 32 < char.toNat) (high : char.toNat < 127) :
    isSpace char = false := by
  simp [isSpace]
  omega

section Hosts

variable {characters : Routing.Characters} (lower : LowersAscii characters)

include lower

/-- A text of printable characters in lower case, without the dots at its end. -/
theorem normalizeHost_eq (printable : ∀ char ∈ chars, 32 < char.toNat ∧ char.toNat < 127) :
    Routing.normalizeHost characters (.ofList chars) =
      let host := (chars.map Char.toLower).rdropWhile fun char => char = '.'
      if host.head? = some '[' ∧ host.getLast? = some ']' then .ofList host.tail.dropLast
      else .ofList host := by
  have solid : ∀ char ∈ (String.ofList chars).toList, isSpace char = false := by
    intro char member
    rw [String.toList_ofList] at member
    exact isSpace_eq_false (printable char member).1 (printable char member).2
  have small : ∀ char ∈ (String.ofList chars).toList, char.toNat < 128 := by
    intro char member
    rw [String.toList_ofList] at member
    have := (printable char member).2
    omega
  rw [Routing.normalizeHost, strip_of_not_isSpace solid, lower _ small, Routing.rstripChar]
  simp only [String.toList_ofList]

theorem normalizeHost_name (valid : UriHost.Valid (.name chars)) :
    Routing.normalizeHost characters (.ofList chars) =
      .ofList ((chars.map Char.toLower).rdropWhile fun char => char = '.') := by
  rw [normalizeHost_eq lower fun char member => ⟨(valid char member).1, (valid char member).2.1⟩]
  dsimp only
  rw [if_neg]
  rintro ⟨bracket, -⟩
  have inside := (List.rdropWhile_prefix _ _).subset (List.mem_of_head? bracket)
  refine notMem_lower (by decide) ?_ inside
  intro member
  simpa using (valid _ member).2.2

theorem normalizeHost_ipv6 (valid : UriHost.Valid (.ipv6 chars)) :
    Routing.normalizeHost characters (.ofList ('[' :: chars ++ [']'])) =
      .ofList (chars.map Char.toLower) := by
  have printable : ∀ char ∈ '[' :: chars ++ [']'], 32 < char.toNat ∧ char.toNat < 127 := by
    intro char member
    rcases List.mem_append.mp member with front | last
    · rcases List.mem_cons.mp front with rfl | inside
      · decide
      · have spec := notMem_brackets (valid.2 char inside)
        exact ⟨spec.1, spec.2.1⟩
    · rw [List.mem_singleton.mp last]
      decide
  have lowered : ('[' :: chars ++ [']']).map Char.toLower =
      '[' :: chars.map Char.toLower ++ [']'] := by
    rw [List.map_append]
    rfl
  rw [normalizeHost_eq lower printable, lowered, List.rdropWhile_concat_neg _ _ _ (by decide)]
  dsimp only
  rw [if_pos ⟨rfl, List.getLast?_concat⟩, List.cons_append, List.tail_cons, List.dropLast_concat]

/-- Without its end a bracket stays. -/
theorem normalizeHost_open
    (hex : ∀ char ∈ chars, isHexDigit char ∨ char = ':' ∨ char = '.') :
    '[' ∈ (Routing.normalizeHost characters (.ofList ('[' :: chars))).toList := by
  have printable : ∀ char ∈ '[' :: chars, 32 < char.toNat ∧ char.toNat < 127 := by
    refine List.forall_mem_cons.mpr ⟨by decide, fun char member => ?_⟩
    have spec := notMem_brackets (hex char member)
    exact ⟨spec.1, spec.2.1⟩
  have bracket : '[' ∈ ('[' :: chars).map Char.toLower := List.mem_cons_self
  rw [← @List.rdropWhile_append_rtakeWhile _ (fun char => decide (char = '.'))
    (('[' :: chars).map Char.toLower)] at bracket
  rw [normalizeHost_eq lower printable]
  dsimp only
  rw [if_neg]
  · rw [String.toList_ofList]
    rcases List.mem_append.mp bracket with kept | dropped
    · exact kept
    · exact absurd (List.mem_rtakeWhile_imp dropped) (by decide)
  · rintro ⟨-, last⟩
    have inside := (List.rdropWhile_prefix _ _).subset (List.mem_of_getLast? last)
    refine notMem_lower (by decide) ?_ inside
    intro member
    rcases List.mem_cons.mp member with same | later
    · exact absurd same (by decide)
    · exact (notMem_brackets (hex _ later)).2.2.2.1 rfl

end Hosts

/-! ## The authority -/

namespace AbsoluteUri

variable (uri : AbsoluteUri)

theorem slash_notMem_authority : '/' ∉ uri.authority := by
  intro member
  rcases List.mem_append.mp member with host | port
  · have valid := uri.host_valid
    cases shape : uri.host with
    | name chars =>
        rw [shape] at host valid
        simpa using (valid _ host).2.2
    | ipv6 chars =>
        rw [shape] at host valid
        rcases List.mem_append.mp host with front | last
        · rcases List.mem_cons.mp front with same | inside
          · exact absurd same (by decide)
          · exact (notMem_brackets (valid.2 _ inside)).2.2.2.2 rfl
        · exact absurd last (by decide)
  · cases shape : uri.port with
    | none => simp [shape] at port
    | some digits =>
        rw [shape] at port
        rcases List.mem_cons.mp port with same | inside
        · exact absurd same (by decide)
        · exact absurd (uri.port_digits digits (by simp [shape]) _ inside) (by decide)

theorem normalizeHost_chars (lower : LowersAscii library.characters) :
    Routing.normalizeHost library.characters (.ofList uri.host.chars) = uri.hostName := by
  have valid := uri.host_valid
  rw [hostName]
  cases shape : uri.host with
  | name chars => exact normalizeHost_name lower (shape ▸ valid)
  | ipv6 chars => exact normalizeHost_ipv6 lower (shape ▸ valid)

/-- With a port the text is split before it.  The digits are read unless there are too many. -/
theorem splitHostport_port {digits : List Char} (shape : uri.port = some digits) :
    (splitHostport library (.ofList uri.authority)).1 = .ofList uri.host.chars ∧
      ((splitHostport library (.ofList uri.authority)).2 = uri.portNumber ↔
        digits.length ≤ maxStrDigits ∨ uri.portNumber = 80) := by
  have inside := uri.port_digits digits (by simp [shape])
  have noColon : ':' ∉ digits := fun member => absurd (inside _ member) (by decide)
  rw [authority, shape, Option.map_some, Option.getD_some, splitHostport,
    rsplitOnce_append noColon]
  refine ⟨rfl, ?_⟩
  dsimp only
  rw [parseInt_digits library.decimal inside, portNumber, shape]
  by_cases many : maxStrDigits < digits.length
  · rw [if_pos (.inr many)]
    simp [Nat.not_le.mpr many, eq_comm]
  · rw [or_iff_left_of_imp fun _ => Nat.not_lt.mp many]
    refine iff_of_true ?_ (Nat.not_lt.mp many)
    cases digits with
    | nil => rfl
    | cons digit digits =>
        rw [if_neg (not_or_intro (List.cons_ne_nil _ _) many)]
        rfl

theorem authority_of_port_eq_none (shape : uri.port = none) : uri.authority = uri.host.chars := by
  rw [authority, shape]
  exact List.append_nil _

theorem splitHostport_name {chars : List Char} (named : uri.host = .name chars)
    (shape : uri.port = none) :
    splitHostport library (.ofList uri.authority) = (.ofList uri.host.chars, uri.portNumber) := by
  have valid := uri.host_valid
  rw [named] at valid
  have noColon : ':' ∉ (String.ofList chars).toList := by
    intro member
    rw [String.toList_ofList] at member
    simpa using (valid _ member).2.2
  rw [authority_of_port_eq_none uri shape, named, UriHost.chars, splitHostport,
    rsplitOnce_of_notMem noColon, portNumber, shape]

/-- Without a port the text is split at the last colon of an IPv6 address. -/
theorem splitHostport_ipv6 (lower : LowersAscii library.characters) {chars : List Char}
    (address : uri.host = .ipv6 chars) (shape : uri.port = none) :
    Routing.normalizeHost library.characters
      (splitHostport library (.ofList uri.authority)).1 ≠ uri.hostName := by
  have valid := uri.host_valid
  rw [address] at valid
  obtain ⟨back, front, split, noColon⟩ :=
    List.eq_append_cons_of_mem (List.mem_reverse.mpr valid.1)
  have chars_eq : chars = front.reverse ++ ':' :: back.reverse := by
    rw [← List.reverse_reverse chars, split]
    simp
  have absent : ':' ∉ back.reverse ++ [']'] := by simp [noColon]
  have bracketed : UriHost.chars (.ipv6 chars) =
      ('[' :: front.reverse) ++ ':' :: (back.reverse ++ [']']) := by
    simp [UriHost.chars, chars_eq]
  rw [authority_of_port_eq_none uri shape, address, bracketed, splitHostport,
    rsplitOnce_append absent]
  intro same
  have kept := normalizeHost_open lower fun char member => valid.2 char
    (by rw [chars_eq]; exact List.mem_append_left _ member)
  rw [same, hostName, address, String.toList_ofList] at kept
  refine notMem_lower (by decide) ?_ kept
  exact fun member => (notMem_brackets (valid.2 _ member)).2.2.1 rfl

/-- The authority is taken apart as its URI says, unless an IPv6 address has no port or a port has
too many digits. -/
theorem splitHostport_authority (lower : LowersAscii library.characters) :
    (Routing.normalizeHost library.characters
          (splitHostport library (.ofList uri.authority)).1 = uri.hostName ∧
        (splitHostport library (.ofList uri.authority)).2 = uri.portNumber) ↔
      ((∃ chars, uri.host = .ipv6 chars) → uri.port ≠ none) ∧
        ∀ digits ∈ uri.port, digits.length ≤ maxStrDigits ∨ uri.portNumber = 80 := by
  cases shape : uri.port with
  | some digits =>
      obtain ⟨host, port⟩ := @splitHostport_port library uri digits shape
      rw [host, port]
      simp [normalizeHost_chars uri lower]
  | none =>
      cases shape' : uri.host with
      | name chars =>
          refine iff_of_true ?_ (by simp)
          rw [splitHostport_name uri shape' shape]
          exact ⟨normalizeHost_chars uri lower, rfl⟩
      | ipv6 chars =>
          refine iff_of_false ?_ (by simp)
          rintro ⟨same, -⟩
          exact splitHostport_ipv6 uri lower shape' shape same

theorem withoutScheme_text :
    withoutScheme uri.text.toList =
      if uri.scheme = ['h', 't', 't', 'p'] then uri.authority ++ (uri.path ++ uri.queryPart)
      else uri.text.toList := by
  have length : uri.scheme.length = 4 := by
    simpa using congrArg List.length uri.scheme_http
  have whole : uri.text.toList =
      uri.scheme ++ ([':', '/', '/'] ++ (uri.authority ++ (uri.path ++ uri.queryPart))) := by
    rw [text, String.toList_ofList]
    simp only [List.append_assoc]
  have http : "http://".toList.isPrefixOf uri.text.toList = true ↔
      uri.scheme = ['h', 't', 't', 'p'] := by
    rw [List.isPrefixOf_iff_prefix, whole]
    constructor
    · rintro ⟨rest, same⟩
      have first : ['h', 't', 't', 'p'] ++ ([':', '/', '/'] ++ rest) = uri.scheme ++
          ([':', '/', '/'] ++ (uri.authority ++ (uri.path ++ uri.queryPart))) := same
      exact (List.append_inj_left first length.symm).symm
    · intro scheme
      rw [scheme]
      exact ⟨uri.authority ++ (uri.path ++ uri.queryPart), rfl⟩
  have https : ¬ "https://".toList.isPrefixOf uri.text.toList = true := by
    rw [List.isPrefixOf_iff_prefix, whole]
    rintro ⟨rest, same⟩
    have first : ['h', 't', 't', 'p'] ++ (['s', ':', '/', '/'] ++ rest) = uri.scheme ++
        ([':', '/', '/'] ++ (uri.authority ++ (uri.path ++ uri.queryPart))) := same
    have later := List.append_inj_right first length.symm
    exact absurd (List.cons.inj later).1 (by decide)
  unfold withoutScheme
  by_cases scheme : uri.scheme = ['h', 't', 't', 'p']
  · rw [if_pos (http.mpr scheme), if_pos scheme, whole, scheme]
    rfl
  · rw [if_neg (http.not.mpr scheme), if_neg https, if_neg scheme]

theorem keep_authority : ∀ char ∈ uri.authority, decide (char ≠ '/') = true := by
  intro char member
  simp only [decide_eq_true_eq]
  rintro rfl
  exact uri.slash_notMem_authority member

/-- The authority ends where a path starts. -/
theorem cut_authority {rest : List Char} (start : rest ≠ [] → rest.head? = some '/') :
    (uri.authority ++ rest).takeWhile (fun char => char ≠ '/') = uri.authority ∧
      (uri.authority ++ rest).dropWhile (fun char => char ≠ '/') = rest ∧
      ('/' ∈ uri.authority ++ rest ↔ rest ≠ []) := by
  rw [List.takeWhile_append_of_pos uri.keep_authority,
    List.dropWhile_append_of_pos uri.keep_authority, List.mem_append]
  cases rest with
  | nil => simp [uri.slash_notMem_authority]
  | cons char rest =>
      obtain rfl : char = '/' := by simpa using start
      simp

/-- A URI in lower case is taken apart at the end of its authority. -/
theorem splitUrl_http (scheme : uri.scheme = ['h', 't', 't', 'p'])
    (path : uri.query ≠ none → uri.path ≠ []) :
    splitUrl library uri.text = ((splitHostport library (.ofList uri.authority)).1,
      (splitHostport library (.ofList uri.authority)).2, uri.target) := by
  have noQuery (empty : uri.path = []) : uri.query = none :=
    not_not.mp fun query => path query empty
  have start : uri.path ++ uri.queryPart ≠ [] →
      (uri.path ++ uri.queryPart).head? = some '/' := by
    intro nonempty
    by_cases empty : uri.path = []
    · simp [empty, queryPart, noQuery empty] at nonempty
    · rw [List.head?_append, uri.path_absolute empty]
      rfl
  obtain ⟨front, back, slash⟩ := uri.cut_authority start
  have target : (if '/' ∈ uri.authority ++ (uri.path ++ uri.queryPart)
      then String.ofList (uri.path ++ uri.queryPart) else "/") = uri.target := by
    rw [AbsoluteUri.target]
    by_cases empty : uri.path = []
    · have none : uri.path ++ uri.queryPart = [] := by simp [empty, queryPart, noQuery empty]
      rw [if_neg (slash.not.mpr (not_not.mpr none)), if_pos empty, queryPart, noQuery empty]
      rfl
    · have some : uri.path ++ uri.queryPart ≠ [] := by simp [empty]
      rw [if_pos (slash.mpr some), if_neg empty]
  simp only [splitUrl, withoutScheme_text]
  rw [if_pos scheme, front, back, target]

/-- A query right after the authority loses its start. -/
theorem splitUrl_bareQuery (scheme : uri.scheme = ['h', 't', 't', 'p'])
    (query : uri.query ≠ none) (empty : uri.path = []) :
    (splitUrl library uri.text).2.2 ≠ uri.target := by
  obtain ⟨chars, shape⟩ := Option.ne_none_iff_exists'.mp query
  have part : uri.queryPart = '?' :: chars := by
    rw [queryPart, shape]
    rfl
  simp only [splitUrl, withoutScheme_text]
  rw [if_pos scheme, target, if_pos empty, empty, part, List.nil_append]
  intro same
  have lists := congrArg String.toList same
  split at lists
  · -- What is left starts at a slash of the query.
    rw [List.dropWhile_append_of_pos uri.keep_authority,
      List.dropWhile_cons_of_pos (by simp)] at lists
    simp only [String.toList_ofList] at lists
    have short := (chars.dropWhile_suffix fun char => decide (char ≠ '/')).length_le
    have length := congrArg List.length lists
    simp only [List.length_append, List.length_cons, List.length_nil] at length
    omega
  · simp at lists

/-- A scheme that is not in lower case stays in the text, which is then cut at its slashes. -/
theorem splitUrl_otherScheme (scheme : uri.scheme ≠ ['h', 't', 't', 'p']) :
    (splitUrl library uri.text).2.2 ≠ uri.target := by
  have keep : ∀ char ∈ uri.scheme ++ [':'], decide (char ≠ '/') = true := by
    intro char member
    simp only [decide_eq_true_eq]
    rintro rfl
    rcases List.mem_append.mp member with inside | colon
    · have lowered := List.mem_map_of_mem (f := Char.toLower) inside
      rw [uri.scheme_http] at lowered
      exact absurd lowered (by decide)
    · exact absurd colon (by decide)
  have whole : uri.text.toList = (uri.scheme ++ [':']) ++
      '/' :: '/' :: (uri.authority ++ (uri.path ++ uri.queryPart)) := by
    rw [text, String.toList_ofList]
    simp
  simp only [splitUrl, withoutScheme_text]
  rw [if_neg scheme, whole, if_pos (by simp), List.dropWhile_append_of_pos keep,
    List.dropWhile_cons_of_neg (by simp), target]
  intro same
  have length := congrArg (fun text => text.toList.length) same
  simp only [String.toList_ofList, List.length_append, List.length_cons] at length
  split at length
  · simp only [List.length_cons, List.length_nil] at length
    omega
  · omega

/-- What the listeners make of the text of a URI is what it stands for exactly when they support
it. -/
theorem splitUrl_eq_iff (lower : LowersAscii library.characters) :
    (Routing.normalizeHost library.characters (splitUrl library uri.text).1 = uri.hostName ∧
        (splitUrl library uri.text).2.1 = uri.portNumber ∧
        (splitUrl library uri.text).2.2 = uri.target) ↔ uri.Supported := by
  by_cases scheme : uri.scheme = ['h', 't', 't', 'p']
  · by_cases path : uri.query ≠ none → uri.path ≠ []
    · rw [splitUrl_http uri scheme path, ← and_assoc, and_iff_left rfl,
        uri.splitHostport_authority lower]
      constructor
      · rintro ⟨port, digits⟩
        exact ⟨scheme, port, digits, path⟩
      · intro supported
        exact ⟨supported.port, supported.digits⟩
    · obtain ⟨query, empty⟩ := Classical.not_imp.mp path
      refine iff_of_false ?_ fun supported => path supported.path
      rintro ⟨-, -, same⟩
      exact splitUrl_bareQuery uri scheme query (not_not.mp empty) same
  · refine iff_of_false ?_ fun supported => scheme supported.scheme
    rintro ⟨-, -, same⟩
    exact splitUrl_otherScheme uri scheme same

end AbsoluteUri

section Listeners

variable (library) {count : Nat} (world : World count) (breaker : Breaker count)
  (request : Request) (client : Stream) (method : Bytes) (host : String) (port : Int)
  (path : String)

/-- The proxy listener applies the bypass policy to the host.  It connects to the host and the
port with the path, or the request goes to an upstream as it is. -/
def proxyServes : Handled count :=
  if Routing.hostBypassesProxy library.characters world.noProxy host then
    connectDirect world breaker host port "Localhost connection failed" []
      (directRequest method path request.data) [] client
  else proxyPlain world breaker request.data client

/-- The direct listener connects to the host and the port with the path. -/
def directServes : Handled count :=
  connectDirect world breaker host port "Direct connection failed" []
    (directRequest method path request.data) [] client

end Listeners

theorem directRequest_injective {method data : Bytes} {path path' : String}
    (same : directRequest method path data = directRequest method path' data) : path = path' := by
  simp only [directRequest, List.append_assoc, List.append_cancel_left_eq] at same
  exact encodeUtf8_injective (List.append_cancel_right same)

/-- Both listeners serve exactly the target of an absolute URI if and only if it is one of those
they support. -/
theorem absolute_uri_exact_iff (library : Library) (lower : LowersAscii library.characters)
    (client : Stream) (request : Request) (rest : Stream)
    (read : readRequest client = some (request, rest)) (plain : request.isConnect = false)
    (method : Bytes) (uri : AbsoluteUri) (more : List Bytes)
    (line : request.first.splitOn 32 = method :: encodeUtf8 uri.text :: more) :
    (∀ (count : Nat) (world : World count) (breaker : Breaker count),
      handleHttp library world breaker client =
          proxyServes library world breaker request rest method uri.hostName uri.portNumber
            uri.target ∧
        handleDirectHttp library world breaker client =
          directServes world breaker request rest method uri.hostName uri.portNumber uri.target) ↔
      uri.Supported := by
  have parsed : parseFirst library request.first = .plain method
      (Routing.normalizeHost library.characters (splitUrl library uri.text).1)
      (splitUrl library uri.text).2.1 (splitUrl library uri.text).2.2 := by
    have noConnect : ¬ (ascii "CONNECT").isPrefixOf request.first = true :=
      Bool.eq_false_iff.mp plain
    rw [parseFirst, if_neg noConnect, line]
    simp only [decodeUtf8_encodeUtf8]
  rw [← uri.splitUrl_eq_iff lower]
  constructor
  · intro serves
    have direct := (serves 2 sampleWorld (.initial 2)).2
    rw [handleDirectHttp, read] at direct
    simp only [parsed, directServes] at direct
    have relay := congrArg (fun handled => handled.relay.map fun relay =>
      (relay.target, relay.opening)) direct
    obtain ⟨target, opening⟩ := Prod.mk.inj (Option.some.inj relay)
    obtain ⟨host, port⟩ := Target.direct.inj target
    exact ⟨host, port, directRequest_injective opening⟩
  · rintro ⟨host, port, path⟩ count world breaker
    rw [host, port, path] at parsed
    constructor
    · rw [handleHttp, read]
      simp only [parsed]
      rfl
    · rw [handleDirectHttp, read]
      simp only [parsed]
      rfl

/-- A URI of a name with a port, a path and a query. -/
def sampleUri : AbsoluteUri where
  scheme := ['h', 't', 't', 'p']
  host := .name ['H']
  port := some ['8', '1']
  path := ['/', ':']
  query := some ['/']
  scheme_http := by decide
  host_valid := by simp [UriHost.Valid]
  port_digits := by simp
  path_absolute := by simp
  path_plain := by simp
  query_plain := by simp

def sampleGet : Bytes := ascii "GET http://H:81/:?/ HTTP/1.1\r\n\r\n"

theorem absolute_uri_exact_iff_sample :
    handleDirectHttp sampleLibrary sampleWorld (.initial 2) [sampleGet] =
      directServes sampleWorld (.initial 2) ⟨sampleGet, sampleGet, []⟩ [] (ascii "GET") "h" 81
        "/:?/" := by
  have read : readRequest [sampleGet] = some (⟨sampleGet, sampleGet, []⟩, []) := by decide +kernel
  have plain : Request.isConnect ⟨sampleGet, sampleGet, []⟩ = false := by decide
  have line : (Request.first ⟨sampleGet, sampleGet, []⟩).splitOn 32 =
      [ascii "GET", encodeUtf8 sampleUri.text, ascii "HTTP/1.1"] := by decide
  have supported : sampleUri.Supported :=
    ⟨rfl, by simp [sampleUri], by simp [sampleUri, maxStrDigits], by simp [sampleUri]⟩
  have served := ((absolute_uri_exact_iff sampleLibrary (fun _ _ => rfl) [sampleGet]
    ⟨sampleGet, sampleGet, []⟩ [] read plain (ascii "GET") sampleUri [ascii "HTTP/1.1"] line).mpr
    supported 2 sampleWorld (.initial 2)).2
  have host : sampleUri.hostName = "h" := by decide
  have target : sampleUri.target = "/:?/" := by decide +kernel
  rwa [host, target] at served

/-- A URI of an IPv6 address without a port. -/
def bracketUri : AbsoluteUri where
  scheme := ['h', 't', 't', 'p']
  host := .ipv6 [':', ':', '1']
  port := none
  path := ['/']
  query := none
  scheme_http := by decide
  host_valid := by simp [UriHost.Valid, isHexDigit]
  port_digits := by simp
  path_absolute := by simp
  path_plain := by simp
  query_plain := by simp

/-- The direct listener connects to `[:` instead of `::1`. -/
theorem bracket_cut :
    bracketUri.text = "http://[::1]/" ∧ bracketUri.hostName = "::1" ∧
      (handleDirectHttp sampleLibrary sampleWorld (.initial 2)
        [ascii "GET http://[::1]/ HTTP/1.1\r\n\r\n"]).relay.map Relay.target =
          some (.direct "[:" 80) := by
  decide +kernel

end ProxyLauncher.Transport
