import ProxyLauncher.IOS.ProxyImport
import ProxyLauncher.Texts.Joining

/-!
# Supplier notation

A line `host:port:user:password` that is imported alone, and when the import comes to what the
line says.
-/

namespace ProxyLauncher.IOS

open Texts (Properties trim trim_of_forall_not trim_of_solid)

/-- A line of a supplier. -/
structure SupplierLine (platform : Platform) where
  host : List Char
  port : ℕ
  username : List Char
  password : List Char
  validHost : ValidHost host
  low : 1 ≤ port
  high : port ≤ 65535
  colonFree : ':' ∉ username
  single : ∀ char ∈ username ++ ':' :: password, isNewline char = false
  tidy : ∀ char ∈ password.getLast?, platform.blank char = false

namespace SupplierLine

variable {platform : Platform}

/-- The user name, the password and the colons before them. -/
def credentials (line : SupplierLine platform) : List Char :=
  ':' :: (line.username ++ ':' :: line.password)

def text (line : SupplierLine platform) : List Char :=
  line.host ++ ':' :: (decimal line.port ++ line.credentials)

/-- The two colons around the user name are characters of their own. -/
structure Apart (line : SupplierLine platform) : Prop where
  username_head : ∀ char ∈ line.username.head?, platform.properties.isExtending char = false
  username_last : ∀ char ∈ line.username.getLast?, platform.properties.isPrepending char = false
  password_head : ∀ char ∈ line.password.head?, platform.properties.isExtending char = false

/-- The cells of the line, cut at every separator of one kind. -/
def cells (line : SupplierLine platform) (separator : Char) : List (List Char) :=
  roughCells platform separator (platform.properties.characters line.text)

/-- Some separator cuts the line in cells of which the second is a number, or of which one is a
column of hosts and one a column of ports. -/
def Tabular (line : SupplierLine platform) : Prop :=
  ∃ separator ∈ [',', ';', '\t'],
    (∃ char ∈ platform.properties.characters line.text, isSeparator separator char = true) ∧
      ((∃ cell, (line.cells separator)[1]? = some cell ∧ (parseInt cell).isSome = true) ∨
        (∃ cell ∈ line.cells separator, key platform cell = "host".toList) ∧
          ∃ cell ∈ line.cells separator, key platform cell = "port".toList)

end SupplierLine

variable {platform : Platform} {char : Char} {host username password chars : List Char}
  {number : ℕ}

/-- A character of ASCII that is neither white space nor a control. -/
def Visible (char : Char) : Prop :=
  33 ≤ char.toNat ∧ char.toNat < 127

instance (char : Char) : Decidable (Visible char) :=
  inferInstanceAs (Decidable (33 ≤ char.toNat ∧ char.toNat < 127))

theorem visible_of_isAlphanum (alphanumeric : char.isAlphanum = true) : Visible char := by
  simp only [Char.isAlphanum, Char.isAlpha, Char.isUpper, Char.isLower, Char.isDigit,
    Bool.or_eq_true, Bool.and_eq_true, decide_eq_true_eq, ge_iff_le, UInt32.le_iff_toNat_le] at alphanumeric
  have value : char.toNat = char.val.toNat := rfl
  rw [Visible, value]
  rcases alphanumeric with (upper | lower) | digit
  · exact ⟨le_trans (by decide) upper.1, lt_of_le_of_lt upper.2 (by decide)⟩
  · exact ⟨le_trans (by decide) lower.1, lt_of_le_of_lt lower.2 (by decide)⟩
  · exact ⟨le_trans (by decide) digit.1, lt_of_le_of_lt digit.2 (by decide)⟩

theorem visible_of_nameChar (name : nameChar char = true) : Visible char := by
  simp only [nameChar, Bool.or_eq_true, decide_eq_true_eq] at name
  rcases name with (alphanumeric | rfl) | rfl
  · exact visible_of_isAlphanum alphanumeric
  · decide
  · decide

theorem visible_of_hexChar (hex : hexChar char = true) : Visible char := by
  simp only [hexChar, Char.isDigit, Bool.or_eq_true, Bool.and_eq_true, decide_eq_true_eq, ge_iff_le,
    UInt32.le_iff_toNat_le, Char.le_def] at hex
  have value : char.toNat = char.val.toNat := rfl
  rw [Visible, value]
  rcases hex with (digit | lower) | upper
  · exact ⟨le_trans (by decide) digit.1, lt_of_le_of_lt digit.2 (by decide)⟩
  · exact ⟨le_trans (by decide) lower.1, lt_of_le_of_lt lower.2 (by decide)⟩
  · exact ⟨le_trans (by decide) upper.1, lt_of_le_of_lt upper.2 (by decide)⟩

/-- A character of an address in brackets. -/
theorem addressChar_cases {address : List Char} (valid : isIpv6 address = true)
    (member : char ∈ address) : hexChar char = true ∨ char = ':' ∨ char = '.' := by
  rw [isIpv6, Bool.and_eq_true] at valid
  have each := List.all_eq_true.mp valid.1 char member
  simpa only [Bool.or_eq_true, decide_eq_true_eq, or_assoc] using each

theorem visible_host (valid : ValidHost host) (member : char ∈ host) : Visible char := by
  rcases valid with ⟨-, name⟩ | ⟨address, valid, rfl⟩
  · exact visible_of_nameChar (List.all_eq_true.mp name char member)
  · rw [List.mem_cons, List.mem_append, List.mem_singleton] at member
    rcases member with rfl | inside | rfl
    · decide
    · rcases addressChar_cases valid inside with hex | rfl | rfl
      · exact visible_of_hexChar hex
      · decide
      · decide
    · decide

/-- What a host does not contain. -/
theorem notMem_host {mark : Char} (valid : ValidHost host)
    (other : (nameChar mark || hexChar mark || mark ∈ [':', '[', ']']) = false) : mark ∉ host := by
  simp only [Bool.or_eq_false_iff, decide_eq_false_iff_not, List.mem_cons, List.not_mem_nil,
    or_false, not_or] at other
  obtain ⟨⟨name, hex⟩, colon, front, back⟩ := other
  intro member
  rcases valid with ⟨-, all⟩ | ⟨address, valid, rfl⟩
  · have named := List.all_eq_true.mp all mark member
    rw [name] at named
    cases named
  · rw [List.mem_cons, List.mem_append, List.mem_singleton] at member
    rcases member with same | inside | same
    · exact front same
    · rcases addressChar_cases valid inside with hexadecimal | same | rfl
      · rw [hex] at hexadecimal
        cases hexadecimal
      · exact colon same
      · exact absurd name (by decide)
    · exact back same

theorem isDigit_decimal (member : char ∈ decimal number) : char.isDigit = true :=
  Nat.isDigit_of_mem_toDigits (by decide) (by decide) member

theorem visible_decimal (member : char ∈ decimal number) : Visible char :=
  visible_of_isAlphanum (by rw [Char.isAlphanum, isDigit_decimal member, Bool.or_true])

theorem characters_visible {front rest : List Char} (visible : ∀ char ∈ front, Visible char)
    (free : ∀ char ∈ rest.head?, platform.properties.isExtending char = false) :
    platform.properties.characters (front ++ rest) =
      front.map (fun char => [char]) ++ platform.properties.characters rest :=
  Properties.characters_append_ascii
    (fun char member => ⟨le_trans (by decide) (visible char member).1, (visible char member).2⟩) free

theorem characters_of_visible (visible : ∀ char ∈ chars, Visible char) :
    platform.properties.characters chars = chars.map fun char => [char] := by
  have all := @characters_visible platform chars [] visible (by simp)
  rwa [List.append_nil, Properties.characters, List.append_nil] at all

theorem trim_of_visible (visible : ∀ char ∈ chars, Visible char) : trim platform.blank chars = chars :=
  trim_of_forall_not fun char member =>
    platform.blank_ascii char (visible char member).1 (visible char member).2

theorem parseInt_decimal (high : number ≤ 65535) : parseInt (decimal number) = some (number : ℤ) := by
  have digits : (decimal number).all Char.isDigit = true :=
    List.all_eq_true.mpr fun char member => isDigit_decimal member
  have value : Nat.ofDigitChars 10 (decimal number) 0 = number :=
    Nat.ofDigitChars_toDigits (by decide) (by decide)
  have nonempty : decimal number ≠ [] := Nat.toDigits_ne_nil
  cases shape : decimal number with
  | nil => exact absurd shape nonempty
  | cons first rest =>
      rw [shape] at digits value
      have digit := (List.all_eq_true.mp digits) first List.mem_cons_self
      have minus : first ≠ '-' := by
        rintro rfl
        cases digit
      have plus : first ≠ '+' := by
        rintro rfl
        cases digit
      have small : number < 2 ^ 63 := lt_of_le_of_lt high (by decide)
      simpa [parseInt, minus, plus, digits, value] using small

/-- A number has digits and a sign only. -/
theorem parseInt_eq_none {text : List Char} (member : char ∈ text) (digit : char.isDigit = false)
    (minus : char ≠ '-') (plus : char ≠ '+') : parseInt text = none := by
  have rejected (digits : List Char) (inside : char ∈ digits) :
      ¬ (digits ≠ [] ∧ digits.all Char.isDigit = true) := by
    intro number
    have digit' := List.all_eq_true.mp number.2 char inside
    rw [digit] at digit'
    cases digit'
  unfold parseInt
  dsimp only
  split
  · rename_i digits
    rw [if_neg (rejected digits (List.mem_of_ne_of_mem minus member))]
    rfl
  · rename_i digits
    rw [if_neg (rejected digits (List.mem_of_ne_of_mem plus member))]
    rfl
  · rw [if_neg (rejected text member)]
    rfl

theorem authority_host (valid : ValidHost host) : authority platform host = host := by
  rw [authority, characters_of_visible fun char => visible_host valid]
  apply if_neg
  rintro ⟨colon, bracket⟩
  rcases valid with ⟨-, name⟩ | ⟨address, -, rfl⟩
  · obtain ⟨char, member, same⟩ := List.mem_map.mp colon
    obtain rfl := (List.cons.inj same).1
    have named := List.all_eq_true.mp name ':' member
    revert named
    decide
  · exact bracket rfl

/-- A host, a port and credentials make a proxy. -/
theorem item_eq_ok {type : ProxyType} (valid : ValidHost host) (low : 1 ≤ number)
    (high : number ≤ 65535) (chosen : type ≠ .auto) :
    item platform host (decimal number) username password type [] =
      .ok { name := host ++ ':' :: decimal number, host, port := number, type, username, password } := by
  have target : trim platform.blank host = host := trim_of_visible fun char => visible_host valid
  have port : trim platform.blank (decimal number) = decimal number :=
    trim_of_visible fun char => visible_decimal
  have absent (mark : Char)
      (other : (nameChar mark || hexChar mark || mark ∈ [':', '[', ']']) = false) :
      [mark] ∉ host.map fun char => [char] := by
    intro member
    obtain ⟨char, inside, same⟩ := List.mem_map.mp member
    obtain rfl := (List.cons.inj same).1
    exact notMem_host valid other inside
  have nonempty : host ≠ [] := by
    rcases valid with ⟨nonempty, -⟩ | ⟨address, -, rfl⟩
    · exact nonempty
    · exact List.cons_ne_nil _ _
  have solid : (host.map fun char => [char]).any platform.isWhitespaceOrNewline = false := by
    rw [List.any_eq_false]
    intro cluster member
    obtain ⟨char, inside, rfl⟩ := List.mem_map.mp member
    have visible := visible_host valid inside
    rw [platform.isWhitespaceOrNewline_ascii char visible.1 visible.2]
    exact Bool.false_ne_true
  have accepted : ¬ ((number : ℤ) < 1 ∨ 65535 < (number : ℤ) ∨ host = [] ∨
      (host.map fun char => [char]).any platform.isWhitespaceOrNewline = true ∨
      ['/'] ∈ (host.map fun char => [char]) ∨ ['@'] ∈ (host.map fun char => [char]) ∨
      ['?'] ∈ (host.map fun char => [char]) ∨ ['#'] ∈ (host.map fun char => [char]) ∨
      type = .auto) := by
    simp only [not_or, solid]
    exact ⟨by omega, by omega, nonempty, Bool.false_ne_true, absent '/' (by decide),
      absent '@' (by decide), absent '?' (by decide), absent '#' (by decide), chosen⟩
  have parts := platform.urlComponents_origin host number valid low high
  have whole : ((number : ℤ)).toNat = number := Int.toNat_natCast number
  simp only [item, port, parseInt_decimal high, target,
    characters_of_visible fun char => visible_host valid, if_neg accepted, authority_host valid, whole,
    parts]
  rw [if_neg (by simp [nonempty]), if_pos (by rfl)]
  rfl

/-- What a proxy is made of. -/
theorem item_spec {port name : List Char} {type : ProxyType} {proxy : ImportedProxy}
    (done : item platform host port username password type name = .ok proxy) :
    (parseInt (trim platform.blank port)).isSome = true ∧ proxy.username = username ∧
      proxy.password = password := by
  cases parsed : parseInt (trim platform.blank port) with
  | none =>
      simp only [item, parsed] at done
      cases done
  | some value =>
      simp only [item, parsed] at done
      split at done
      · cases done
      split at done
      · cases done
      split at done
      · cases done
      · obtain rfl := Except.ok.inj done
        exact ⟨rfl, rfl, rfl⟩

section Line

variable {line : SupplierLine platform} {type : ProxyType} {proxy : ImportedProxy}

/-- Before `://` in a line there is more than a scheme. -/
theorem not_scheme_prefix (line : SupplierLine platform) {scheme : List Char} (nonempty : scheme ≠ [])
    (letters : scheme.all isSchemeChar = true) : ¬ scheme ++ "://".toList <+: line.text := by
  rw [String.toList_ofList]
  rintro ⟨rest, same⟩
  have bare : ':' ∉ scheme := by
    intro member
    have letter := List.all_eq_true.mp letters ':' member
    revert letter
    decide
  rw [List.append_assoc, List.cons_append, SupplierLine.text] at same
  rcases line.validHost with ⟨-, name⟩ | ⟨address, -, bracketed⟩
  · have named : ':' ∉ line.host := by
      intro member
      have letter := List.all_eq_true.mp name ':' member
      revert letter
      decide
    have rests := (Texts.append_cons_inj bare named same).2
    cases digits : decimal line.port with
    | nil => exact Nat.toDigits_ne_nil digits
    | cons first later =>
        have digit : first.isDigit = true :=
          isDigit_decimal (digits ▸ List.mem_cons_self : first ∈ decimal line.port)
        rw [digits] at rests
        rw [← (List.cons.inj rests).1] at digit
        revert digit
        decide
  · obtain ⟨first, scheme, rfl⟩ := List.exists_cons_of_ne_nil nonempty
    rw [bracketed, List.cons_append, List.cons_append] at same
    have letter := List.all_eq_true.mp letters first List.mem_cons_self
    rw [(List.cons.inj same).1] at letter
    revert letter
    decide

/-- A line is no URL with a host. -/
theorem parseUrl_ne_ok (line : SupplierLine platform) :
    parseUrl platform line.text type ≠ .ok proxy := by
  intro done
  rw [parseUrl] at done
  split at done
  · cases done
  rename_i parts found
  split at done
  · cases done
  rename_i scheme named
  cases kind : specifiedType platform (some scheme) type with
  | error error =>
      rw [kind] at done
      cases done
  | ok kind' =>
      simp only [kind, bind, Except.bind] at done
      split at done
      · rename_i host port hosted _
        obtain ⟨nonempty, letters, start⟩ :=
          platform.urlComponents_host line.text parts scheme host found named hosted
        exact not_scheme_prefix line nonempty letters start
      · cases done

theorem characters_text (line : SupplierLine platform) :
    platform.properties.characters line.text =
      line.host.map (fun char => [char]) ++ [':'] ::
        ((decimal line.port).map (fun char => [char]) ++
          platform.properties.characters line.credentials) := by
  have text : line.text = (line.host ++ ':' :: decimal line.port) ++ line.credentials := by
    rw [SupplierLine.text, List.append_assoc, List.cons_append]
  rw [text, characters_visible]
  · simp
  · intro char member
    rw [List.mem_append, List.mem_cons] at member
    rcases member with host | rfl | port
    · exact visible_host line.validHost host
    · decide
    · exact visible_decimal port
  · rintro char ⟨⟩
    exact Properties.isExtending_ascii (by decide) (by decide)

theorem dropWhile_until {front later : List (List Char)} {mark : List Char}
    (free : ∀ char ∈ front, char ≠ mark) :
    (front ++ mark :: later).dropWhile (fun char => char ≠ mark) = mark :: later := by
  rw [List.dropWhile_append_of_pos (by simpa using free), List.dropWhile_cons_of_neg (by simp)]

theorem takeWhile_until {front later : List (List Char)} {mark : List Char}
    (free : ∀ char ∈ front, char ≠ mark) :
    (front ++ mark :: later).takeWhile (fun char => char ≠ mark) = front := by
  rw [List.takeWhile_append_of_pos (by simpa using free), List.takeWhile_cons_of_neg (by simp),
    List.append_nil]

theorem single_ne {mark : Char} (missing : mark ∉ chars) :
    ∀ cluster ∈ chars.map fun char => [char], cluster ≠ [mark] := by
  intro cluster member same
  obtain ⟨char, inside, rfl⟩ := List.mem_map.mp member
  exact missing ((List.cons.inj same).1 ▸ inside)

@[simp] theorem flatten_singles (chars : List Char) :
    (chars.map fun char => [char]).flatten = chars := by
  rw [← List.flatMap_def, List.flatMap_singleton']

theorem hostPart_name {later : List (List Char)} (name : host.all nameChar = true) :
    hostPart (host.map (fun char => [char]) ++ [':'] :: later) = some (host, later) := by
  have colon : ':' ∉ host := by
    intro member
    have letter := List.all_eq_true.mp name ':' member
    revert letter
    decide
  have bracket : (host.map (fun char => [char]) ++ [':'] :: later).head? ≠ some ['['] := by
    cases host with
    | nil => simp
    | cons first host =>
        intro same
        obtain rfl := (List.cons.inj (Option.some.inj same)).1
        have letter := List.all_eq_true.mp name '[' List.mem_cons_self
        revert letter
        decide
  rw [hostPart, if_neg bracket, dropWhile_until (single_ne colon), takeWhile_until (single_ne colon)]
  simp

theorem hostPart_address {address : List Char} {later : List (List Char)}
    (valid : isIpv6 address = true) :
    hostPart (('[' :: (address ++ [']'])).map (fun char => [char]) ++ [':'] :: later) =
      some ('[' :: (address ++ [']']), later) := by
  have bracket : ']' ∉ '[' :: address := by
    intro member
    rw [List.mem_cons] at member
    rcases member with same | inside
    · revert same
      decide
    · have letter := addressChar_cases valid inside
      revert letter
      decide
  have chars : ('[' :: (address ++ [']'])).map (fun char => [char]) ++ [':'] :: later =
      ('[' :: address).map (fun char => [char]) ++ [']'] :: [':'] :: later := by
    simp
  rw [hostPart, chars, dropWhile_until (single_ne bracket), takeWhile_until (single_ne bracket)]
  simp

/-- The host of a line, and what is behind it. -/
theorem hostPart_text (line : SupplierLine platform) :
    hostPart (platform.properties.characters line.text) =
      some (line.host, (decimal line.port).map (fun char => [char]) ++
        platform.properties.characters line.credentials) := by
  rw [characters_text]
  rcases line.validHost with ⟨-, name⟩ | ⟨address, valid, bracketed⟩
  · exact hostPart_name name
  · rw [bracketed]
    exact hostPart_address valid

theorem split_cons {front later : List (List Char)} {mark : List Char} {count : ℕ}
    (free : ∀ char ∈ front, char ≠ mark) :
    split (fun char => char = mark) (count + 1) (front ++ mark :: later) =
      front :: split (fun char => char = mark) count later := by
  have drop := @dropWhile_until front later mark free
  have take := @takeWhile_until front later mark free
  simp only [decide_not] at drop take
  rw [split, drop, take]

theorem split_of_free {front : List (List Char)} {mark : List Char} (count : ℕ)
    (free : ∀ char ∈ front, char ≠ mark) :
    split (fun char => char = mark) count front = [front] := by
  cases count with
  | zero => rfl
  | succ count =>
      have drop : front.dropWhile (fun char => !decide (char = mark)) = [] := by
        rw [List.dropWhile_eq_nil_iff]
        simpa using free
      rw [split, drop]

theorem split_head (mark : List Char) (count : ℕ) (chars : List (List Char)) :
    ∃ parts, split (fun char => char = mark) (count + 1) chars =
      (chars.takeWhile fun char => char ≠ mark) :: parts := by
  simp only [decide_not]
  cases found : chars.dropWhile fun char => !decide (char = mark) with
  | nil =>
      have whole := List.takeWhile_append_dropWhile (p := fun char => !decide (char = mark)) (l := chars)
      refine ⟨[], ?_⟩
      rw [found, List.append_nil] at whole
      rw [split, found, whole]
  | cons char later =>
      refine ⟨split (fun char => char = mark) count later, ?_⟩
      rw [split, found]

/-! ## The two colons -/

/-- The proxy that a line tells of. -/
structure SupplierLine.Tells (line : SupplierLine platform) (proxy : ImportedProxy) : Prop where
  host : proxy.host = line.host
  port : proxy.port = line.port
  username : proxy.username = line.username
  password : proxy.password = line.password

/-- The text behind the colon behind the port. -/
theorem characters_credentials
    (free : ∀ char ∈ line.username.head?, platform.properties.isExtending char = false) :
    platform.properties.characters line.credentials =
      [':'] :: platform.properties.characters (line.username ++ ':' :: line.password) := by
  apply Properties.characters_cons_ascii (by decide) (by decide)
  cases name : line.username with
  | nil =>
      rintro char ⟨⟩
      exact Properties.isExtending_ascii (by decide) (by decide)
  | cons first rest =>
      rintro char ⟨⟩
      exact free first (by rw [name]; rfl)

theorem characters_of_apart (apart : line.Apart) :
    platform.properties.characters (line.username ++ ':' :: line.password) =
      platform.properties.characters line.username ++
        [':'] :: platform.properties.characters line.password := by
  rw [← Properties.characters_cons_ascii (by decide) (by decide) apart.password_head]
  apply Properties.characters_append_of_last
  intro other ends
  cases last : other.getLast? with
  | none => simp [Properties.joins, last]
  | some char =>
      rw [Properties.joins_ascii (by decide) (by decide) last]
      exact apart.username_last char (ends.symm.trans last)

theorem decimal_ne_colon (number : ℕ) :
    ∀ cluster ∈ (decimal number).map fun char => [char], cluster ≠ [':'] := by
  apply single_ne
  intro member
  have digit := isDigit_decimal member
  revert digit
  decide

/-- The colon behind the user name is a character of its own if and only if the texts on both sides
of it leave it alone. -/
theorem apart_iff {before behind : List (List Char)}
    (free : ∀ char ∈ line.username.head?, platform.properties.isExtending char = false)
    (chars : platform.properties.characters (line.username ++ ':' :: line.password) =
      before ++ [':'] :: behind) (first : [':'] ∉ before) :
    before.flatten = line.username ∧ behind.flatten = line.password ↔ line.Apart := by
  have segmentation := @Properties.isSegmentation_characters platform.properties
    (line.username ++ ':' :: line.password)
  rw [chars] at segmentation
  constructor
  · rintro ⟨front, back⟩
    have breaks := List.isChain_append.mp segmentation.breaks
    refine ⟨free, ?_, ?_⟩
    · intro last member
      rw [← front] at member
      cases before using List.reverseRecOn with
      | nil => cases member
      | append_singleton before cluster =>
          have nonempty := Properties.ne_nil_of_whole (segmentation.whole cluster (by simp))
          rw [List.flatten_concat, List.getLast?_append_of_ne_nil _ nonempty] at member
          have split := breaks.2.2 cluster (by simp) [':'] rfl ':' rfl
          rwa [Properties.joins_ascii (by decide) (by decide) member] at split
    · intro char member
      rw [← back] at member
      cases behind with
      | nil => cases member
      | cons cluster behind =>
          have nonempty := Properties.ne_nil_of_whole (segmentation.whole cluster (by simp))
          rw [List.flatten_cons, List.head?_append_of_ne_nil _ nonempty] at member
          have split := (List.isChain_cons_cons.mp breaks.2.1).1 char member
          rwa [Properties.joins_of_ascii (by decide) (by decide) rfl] at split
  · intro apart
    have colonFree : [':'] ∉ platform.properties.characters line.username := by
      intro member
      apply line.colonFree
      rw [← @Properties.flatten_characters platform.properties line.username]
      exact List.mem_flatten.mpr ⟨_, member, List.mem_singleton_self _⟩
    obtain ⟨front, back⟩ := Texts.append_cons_inj first colonFree (chars.symm.trans (characters_of_apart apart))
    rw [← front, back]
    exact ⟨Properties.flatten_characters _, Properties.flatten_characters _⟩

/-- A port with a colon in it is no number. -/
theorem item_colon {port name : List Char} (member : ':' ∈ port) :
    item platform host port username password type name ≠ .ok proxy := by
  intro done
  have inside : ':' ∈ trim platform.blank port :=
    Texts.mem_trim_of_mem member (platform.blank_ascii ':' (by decide) (by decide))
  have number := (item_spec done).1
  rw [parseInt_eq_none inside (by decide) (by decide) (by decide)] at number
  cases number

/-- The first scalar of the user name is in the character of the colon before it. -/
theorem parseLine_joined (separate : containsAuthority platform line.text = false)
    (joined : ¬ ∀ char ∈ line.username.head?, platform.properties.isExtending char = false) :
    parseLine platform line.text type ≠ .ok proxy := by
  simp only [not_forall, Bool.not_eq_false] at joined
  obtain ⟨first, member, extending⟩ := joined
  obtain ⟨rest, name⟩ := List.head?_eq_some_iff.mp member
  have join : platform.properties.joins [':'] first = true := by
    rw [Properties.joins_of_ascii (by decide) (by decide) rfl, extending]
  obtain ⟨more, later, shape⟩ := @Properties.characters_cons_joined platform.properties
    (rest ++ ':' :: line.password) first ':' join
  have credentials : platform.properties.characters line.credentials =
      (':' :: first :: more) :: later := by
    rw [SupplierLine.credentials, name, List.cons_append, shape]
  obtain ⟨parts, found⟩ := split_head [':'] 1 ((decimal line.port).map (fun char => [char]) ++
    platform.properties.characters line.credentials)
  have colon : ':' ∈ (((decimal line.port).map (fun char => [char]) ++
      platform.properties.characters line.credentials).takeWhile fun char => char ≠ [':']).flatten := by
    rw [credentials, List.takeWhile_append_of_pos, List.takeWhile_cons_of_pos (by simp)]
    · simp
    · have digits := decimal_ne_colon line.port
      simpa using digits
  rw [parseLine, separate, if_neg Bool.false_ne_true, hostPart_text]
  dsimp only
  rw [found, List.map_cons]
  split
  · rename_i same
    rw [(List.cons.inj same).1] at colon
    exact item_colon colon
  · rename_i same
    rw [(List.cons.inj same).1] at colon
    exact item_colon colon
  · intro done
    cases done

theorem parseLine_iff (line : SupplierLine platform) (chosen : type ≠ .auto) :
    (∃ proxy, parseLine platform line.text type = .ok proxy ∧ line.Tells proxy) ↔
      containsAuthority platform line.text = false ∧ line.Apart := by
  cases separate : containsAuthority platform line.text with
  | true =>
      have branch : parseLine platform line.text type = parseUrl platform line.text type := by
        rw [parseLine, separate, if_pos rfl]
      rw [branch]
      constructor
      · rintro ⟨proxy, done, -⟩
        exact absurd done (parseUrl_ne_ok line)
      · rintro ⟨wrong, -⟩
        cases wrong
  | false =>
      by_cases free : ∀ char ∈ line.username.head?, platform.properties.isExtending char = false
      · have chars := characters_credentials free
        rw [parseLine, separate, if_neg Bool.false_ne_true, hostPart_text]
        dsimp only
        rw [chars, split_cons (decimal_ne_colon line.port)]
        by_cases colon : [':'] ∈ platform.properties.characters (line.username ++ ':' :: line.password)
        · obtain ⟨before, behind, shape, first⟩ := List.eq_append_cons_of_mem colon
          have apart := apart_iff free shape first
          have front : ∀ char ∈ before, char ≠ [':'] := by
            rintro char member rfl
            exact first member
          rw [shape, split_cons front, split]
          simp only [List.map_cons, List.map_nil]
          rw [flatten_singles, item_eq_ok line.validHost line.low line.high chosen, ← apart]
          constructor
          · rintro ⟨proxy, done, told⟩
            obtain rfl := Except.ok.inj done
            exact ⟨trivial, told.username, told.password⟩
          · rintro ⟨-, user, pass⟩
            exact ⟨_, rfl, rfl, rfl, user, pass⟩
        · have front : ∀ char ∈ platform.properties.characters (line.username ++ ':' :: line.password),
              char ≠ [':'] := by
            rintro char member rfl
            exact colon member
          rw [split_of_free 1 front]
          constructor
          · rintro ⟨proxy, done, -⟩
            cases done
          · rintro ⟨-, apart⟩
            rw [characters_of_apart apart] at colon
            exact absurd (List.mem_append_right _ List.mem_cons_self) colon
      · constructor
        · rintro ⟨proxy, done, -⟩
          exact absurd done (parseLine_joined separate free)
        · rintro ⟨-, apart⟩
          exact absurd apart.username_head free

end Line

/-- The scalars and the cells of the rows. -/
def weight (rows : List Row) : ℕ :=
  rows.flatten.flatten.length + rows.flatten.length

theorem weight_cons (row : Row) (rows : List Row) :
    weight (row :: rows) = row.flatten.length + row.length + weight rows := by
  simp only [weight, List.flatten_cons, List.flatten_append, List.length_append]
  omega

theorem weight_of_mem {row : Row} {rows : List Row} (member : row ∈ rows) :
    row.flatten.length + row.length ≤ weight rows := by
  induction rows with
  | nil => cases member
  | cons other rows ih =>
      rw [weight_cons]
      rcases List.mem_cons.mp member with rfl | inside
      · exact Nat.le_add_right _ _
      · exact le_trans (ih inside) (Nat.le_add_left _ _)

namespace CsvReader

variable {reader : CsvReader} {char : List Char} {chars : List (List Char)} {delimiter : Char}
  {result : List Row}

/-- What has been read. -/
def readSoFar (reader : CsvReader) : List Row :=
  reader.rows ++ [reader.row ++ [reader.cell]]

theorem weight_append : weight (reader.append char).readSoFar = weight reader.readSoFar + char.length := by
  simp [weight, readSoFar, append]
  omega

theorem weight_endCell (endsRow : Bool) :
    weight (reader.endCell endsRow).readSoFar = weight reader.readSoFar + 1 := by
  cases endsRow with
  | true =>
      simp [weight, readSoFar, endCell]
      omega
  | false =>
      simp [weight, readSoFar, endCell]
      omega

theorem weight_of_finish (done : reader.finish = .ok result) :
    weight result ≤ weight reader.readSoFar := by
  rw [finish] at done
  split_ifs at done
  · obtain rfl := Except.ok.inj done
    exact le_rfl
  · obtain rfl := Except.ok.inj done
    simp [weight, readSoFar]
    omega

/-- The rows are no more than the text. -/
theorem weight_of_loop (nonempty : ∀ char ∈ chars, char ≠ [])
    (done : loop delimiter reader chars = .ok result) :
    weight result ≤ weight reader.readSoFar + chars.flatten.length := by
  induction total : chars.length using Nat.strong_induction_on generalizing reader chars with
  | _ size ih =>
      cases chars with
      | nil => exact weight_of_finish done
      | cons char chars =>
          rw [List.forall_mem_cons] at nonempty
          have shorter : chars.length < size := by rw [← total]; exact Nat.lt_succ_self _
          have tail : chars.tail.length < size :=
            lt_of_le_of_lt (by rw [List.length_tail]; exact Nat.sub_le _ _) shorter
          have rest : ∀ char ∈ chars.tail, char ≠ [] := fun char member =>
            nonempty.2 char (List.mem_of_mem_tail member)
          have fewer : chars.tail.flatten.length ≤ chars.flatten.length := by
            cases chars with
            | nil => exact le_rfl
            | cons next chars => simp
          have positive : 0 < char.length := List.length_pos_of_ne_nil nonempty.1
          rw [List.flatten_cons, List.length_append]
          cases inside : reader.quoted with
          | true =>
              rw [loop_quoted inside] at done
              split_ifs at done with quote
              · have step := ih _ tail rest done rfl
                rw [weight_append] at step
                rw [quote]
                omega
              · have step := ih _ shorter nonempty.2 done rfl
                have same : weight reader.close.readSoFar = weight reader.readSoFar := rfl
                omega
              · have step := ih _ shorter nonempty.2 done rfl
                rw [weight_append] at step
                omega
          | false =>
              rw [loop_unquoted inside] at done
              dsimp only at done
              split_ifs at done
              · have step := ih _ shorter nonempty.2 done rfl
                have same : weight (readSoFar { reader with quoted := true }) =
                    weight reader.readSoFar := rfl
                omega
              · have step := ih _ tail rest done rfl
                rw [weight_endCell] at step
                omega
              · have step := ih _ shorter nonempty.2 done rfl
                rw [weight_endCell] at step
                omega
              · have step := @ih _ shorter (reader.plain char) chars nonempty.2 done rfl
                have same : weight (reader.plain char).readSoFar =
                    weight reader.readSoFar + char.length := @weight_append reader char
                omega

/-- A character that is part of a cell. -/
def Ordinary (delimiter : Char) (char : List Char) : Prop :=
  char ≠ ['"'] ∧ isSeparator delimiter char = false ∧ char ≠ ['\n'] ∧ char ≠ ['\r']

/-- A run of characters outside of quotes stays in the cell. -/
theorem reaches_of_run {run later : List (List Char)} (outside : reader.quoted = false)
    (unclosed : reader.closed = false) (ordinary : ∀ char ∈ run, Ordinary delimiter char)
    (done : loop delimiter reader (run ++ later) = .ok result) :
    Reaches result (reader.append run.flatten) := by
  induction run generalizing reader with
  | nil =>
      have reached := reaches_of_loop done
      rwa [List.flatten_nil, append, List.append_nil]
  | cons char run ih =>
      rw [List.forall_mem_cons] at ordinary
      obtain ⟨quote, separator, lf, cr⟩ := ordinary.1
      rw [List.cons_append, loop_unquoted outside, if_neg quote,
        if_neg (by simp [separator, lf, cr]), unclosed, if_neg Bool.false_ne_true] at done
      have reached := @ih (reader.plain char) outside unclosed ordinary.2 done
      simpa [Reaches, plain, append] using reached

end CsvReader

section Table

variable {line : SupplierLine platform} {type : ProxyType} {proxy : ImportedProxy}
  {columns : List (List Char)} {fields : Row}

/-- The characters that mean something between the cells. -/
def marks : List Char := ['"', ',', ';', '\t', '\n', '\r', '\u037e']

theorem ordinary_of_first {first : Char} {more : List Char} {separator : Separator}
    (other : first ∉ marks) : CsvReader.Ordinary separator.char (first :: more) := by
  simp only [marks, List.mem_cons, List.not_mem_nil, or_false, not_or] at other
  obtain ⟨quote, comma, semicolon, tab, lf, cr, mark⟩ := other
  have different : first ≠ separator.char := by
    cases separator with
    | comma => exact comma
    | semicolon => exact semicolon
    | tab => exact tab
  refine ⟨by simp [quote], ?_, by simp [lf], by simp [cr]⟩
  exact CsvReader.isSeparator_eq_false (by simp [different]) (by simp [mark])

theorem ordinary_host {separator : Separator} (valid : ValidHost host) :
    ∀ cluster ∈ host.map fun char => [char], CsvReader.Ordinary separator.char cluster := by
  intro cluster member
  obtain ⟨char, inside, rfl⟩ := List.mem_map.mp member
  have strange : marks.all (fun char =>
      !(nameChar char || hexChar char || char ∈ [':', '[', ']'])) = true := rfl
  apply ordinary_of_first
  intro special
  have other := List.all_eq_true.mp strange char special
  rw [Bool.not_eq_true'] at other
  exact notMem_host valid other inside

theorem ordinary_decimal {separator : Separator} (number : ℕ) :
    ∀ cluster ∈ (decimal number).map fun char => [char],
      CsvReader.Ordinary separator.char cluster := by
  intro cluster member
  obtain ⟨char, inside, rfl⟩ := List.mem_map.mp member
  have strange : marks.all (fun char => !char.isDigit) = true := rfl
  apply ordinary_of_first
  intro special
  have other := List.all_eq_true.mp strange char special
  rw [isDigit_decimal inside] at other
  cases other

/-- The first cell of a line has the host and the port in it. -/
theorem csvRows_text {separator : Separator} {rows : List Row}
    (done : csvRows platform.properties separator.char line.text = .ok rows) :
    ∃ more cells later, rows =
      ((line.host ++ ':' :: (decimal line.port ++ ':' :: more)) :: cells) :: later := by
  obtain ⟨rest, later, shape⟩ := @Properties.characters_cons platform.properties ':'
    (line.username ++ ':' :: line.password)
  have chars : platform.properties.characters line.text =
      (line.host.map (fun char => [char]) ++ [':'] :: (decimal line.port).map (fun char => [char]) ++
        [':' :: rest]) ++ later := by
    rw [characters_text, SupplierLine.credentials, shape]
    simp
  rw [csvRows, chars] at done
  have ordinary : ∀ char ∈ line.host.map (fun char => [char]) ++
      [':'] :: (decimal line.port).map (fun char => [char]) ++ [':' :: rest],
      CsvReader.Ordinary separator.char char := by
    intro char member
    rw [List.mem_append, List.mem_append, List.mem_cons, List.mem_singleton] at member
    rcases member with (host | rfl | port) | rfl
    · exact ordinary_host line.validHost char host
    · exact ordinary_of_first (by decide)
    · exact ordinary_decimal line.port char port
    · exact ordinary_of_first (by decide)
  have reached := CsvReader.reaches_of_run rfl rfl ordinary done
  rcases reached with ⟨more, cells, later, same⟩ | ⟨-, empty, -⟩
  · exact ⟨rest ++ more, cells, later, by simpa [CsvReader.append] using same⟩
  · simp [CsvReader.append] at empty

theorem lookup_le (column : List Char) (columns : List (List Char)) (fields : Row) :
    (((columns.zip fields).lookup column).getD []).length ≤ fields.flatten.length := by
  induction columns generalizing fields with
  | nil => exact Nat.zero_le _
  | cons other columns ih =>
      cases fields with
      | nil => exact Nat.zero_le _
      | cons field fields =>
          rw [List.zip_cons_cons, List.lookup_cons, List.flatten_cons, List.length_append]
          split
          · exact Nat.le_add_right _ _
          · exact le_trans (ih fields) (Nat.le_add_left _ _)

/-- The values of two columns are in different cells. -/
theorem lookup_add_le {first second : List Char} (different : first ≠ second)
    (columns : List (List Char)) (fields : Row) :
    (((columns.zip fields).lookup first).getD []).length +
      (((columns.zip fields).lookup second).getD []).length ≤ fields.flatten.length := by
  induction columns generalizing fields with
  | nil => exact Nat.zero_le _
  | cons column columns ih =>
      cases fields with
      | nil => exact Nat.zero_le _
      | cons field fields =>
          have rest := ih fields
          have one := lookup_le first columns fields
          have other := lookup_le second columns fields
          rw [List.zip_cons_cons, List.lookup_cons, List.lookup_cons, List.flatten_cons,
            List.length_append]
          by_cases here : first = column
          · have not : (second == column) = false := by
              simpa using fun same => different (here.trans same.symm)
            simp only [not, here, beq_self_eq_true, Option.getD_some]
            omega
          · have not : (first == column) = false := by simpa using here
            simp only [not]
            split
            · rw [Option.getD_some]
              omega
            · omega

theorem mapM_cons_eq_ok {records : List Row} {read : Row → Except ProxyImportError ImportedProxy}
    {proxies : List ImportedProxy} (done : (fields :: records).mapM read = .ok proxies) :
    ∃ proxy later, proxies = proxy :: later ∧ read fields = .ok proxy ∧
      records.mapM read = .ok later := by
  rw [List.mapM_cons] at done
  cases first : read fields with
  | error error =>
      rw [first] at done
      cases done
  | ok found =>
      cases rest : records.mapM read with
      | error error =>
          rw [first, rest] at done
          cases done
      | ok later =>
          rw [first, rest] at done
          exact ⟨found, later, (Except.ok.inj done).symm, rfl, rfl⟩

theorem mapM_eq_singleton {records : List Row} {read : Row → Except ProxyImportError ImportedProxy}
    (done : records.mapM read = .ok [proxy]) : ∃ fields, records = [fields] ∧ read fields = .ok proxy := by
  cases records with
  | nil => cases done
  | cons fields records =>
      obtain ⟨first, later, same, one, rest⟩ := mapM_cons_eq_ok done
      obtain ⟨rfl, rfl⟩ := List.cons.inj same
      cases records with
      | nil => exact ⟨fields, rfl, one⟩
      | cons next records =>
          obtain ⟨_, _, wrong, -, -⟩ := mapM_cons_eq_ok rest
          cases wrong

/-- The value of a column. -/
def valueOf (columns : List (List Char)) (fields : Row) (column : String) : List Char :=
  ((columns.zip fields).lookup column.toList).getD []

theorem csvRecord_spec (done : csvRecord platform columns type fields = .ok proxy) :
    valueOf columns fields "port" ≠ [] ∧ proxy.username = valueOf columns fields "username" ∧
      proxy.password = valueOf columns fields "password" := by
  rw [csvRecord] at done
  split_ifs at done
  cases kind : specifiedType platform ((columns.zip fields).lookup "type".toList) type with
  | error error =>
      simp only [kind, bind, Except.bind] at done
      cases done
  | ok kind' =>
      simp only [kind, bind, Except.bind] at done
      obtain ⟨number, username, password⟩ := item_spec done
      refine ⟨?_, username, password⟩
      intro empty
      rw [valueOf] at empty
      rw [empty] at number
      cases number

theorem lengths_le (columns : List (List Char)) (fields : Row) :
    (valueOf columns fields "username").length + (valueOf columns fields "password").length ≤
      fields.flatten.length := by
  apply lookup_add_le
  repeat rw [String.toList_ofList]
  decide

theorem valueOf_cons (name column : String) (columns : List (List Char)) (field : List Char)
    (fields : Row) : valueOf (name.toList :: columns) (field :: fields) column =
      if column = name then field else valueOf columns fields column := by
  rw [valueOf, List.zip_cons_cons, List.lookup_cons]
  split_ifs with same
  · rw [same, beq_self_eq_true]
    rfl
  · have other : (column.toList == name.toList) = false := by
      simpa [String.toList_inj] using same
    rw [other]
    rfl

/-- The values of a record without names of columns. -/
theorem lengths_default (port : valueOf defaultColumns fields "port" ≠ []) :
    ∃ host number later, fields = host :: number :: later ∧ number ≠ [] ∧
      (valueOf defaultColumns fields "username").length +
        (valueOf defaultColumns fields "password").length ≤ later.flatten.length := by
  cases fields with
  | nil => exact absurd rfl port
  | cons host fields =>
      rw [defaultColumns, valueOf_cons, if_neg (by decide)] at port
      cases fields with
      | nil => exact absurd rfl port
      | cons number later =>
          rw [valueOf_cons, if_pos rfl] at port
          refine ⟨host, number, later, rfl, port, ?_⟩
          rw [defaultColumns, valueOf_cons, valueOf_cons, valueOf_cons, valueOf_cons,
            if_neg (by decide), if_neg (by decide), if_neg (by decide), if_neg (by decide)]
          exact lengths_le _ later

theorem length_text (line : SupplierLine platform) : line.text.length =
    line.host.length + (decimal line.port).length + line.username.length + line.password.length + 3 := by
  simp only [SupplierLine.text, SupplierLine.credentials, List.length_append, List.length_cons]
  omega

/-- The rows of a line: the first cell is long, and there is not much behind it. -/
theorem csvRows_spec {separator : Separator} {rows : List Row}
    (done : csvRows platform.properties separator.char line.text = .ok rows) :
    ∃ start cells later, rows = (start :: cells) :: later ∧ ':' ∈ start ∧
      line.host.length + (decimal line.port).length + 2 ≤ start.length ∧
      weight rows ≤ line.text.length + 1 := by
  obtain ⟨more, cells, later, shape⟩ := csvRows_text done
  refine ⟨_, cells, later, shape, by simp, ?_, ?_⟩
  · simp only [List.length_append, List.length_cons]
    omega
  · have nonempty : ∀ char ∈ platform.properties.characters line.text, char ≠ [] := fun char member =>
      Properties.ne_nil_of_whole ((Properties.isSegmentation_characters line.text).whole char member)
    have bound := CsvReader.weight_of_loop nonempty done
    rw [Properties.flatten_characters] at bound
    have start : weight (CsvReader.readSoFar {}) = 1 := rfl
    omega

theorem filledRows_cons {start : List Char} {cells : Row} {later : List Row} (colon : ':' ∈ start) :
    filledRows platform ((start :: cells) :: later) = (start :: cells) :: filledRows platform later := by
  have solid : trim platform.blank start ≠ [] := by
    intro empty
    have blank := Texts.trim_eq_nil.mp empty ':' colon
    rw [platform.blank_ascii ':' (by decide) (by decide)] at blank
    cases blank
  rw [filledRows, List.filter_cons_of_pos]
  · rfl
  · simp [solid]

/-- The names of two columns are in two cells. -/
theorem two_columns {normalized : List (List Char)} (host : "host".toList ∈ normalized)
    (port : "port".toList ∈ normalized) : 2 ≤ normalized.length := by
  match normalized with
  | [] => cases host
  | [only] =>
      rw [List.mem_singleton] at host port
      have same := String.toList_inj.mp (host.trans port.symm)
      exact absurd same (by decide)
  | _ :: _ :: _ => simp

/-- A line that is read as a table does not become its proxy. -/
theorem csv_ne_ok (told : line.Tells proxy) : csv platform line.text type ≠ .ok [proxy] := by
  intro done
  rw [csv] at done
  cases read : csvRows platform.properties (csvDelimiter platform (firstLine line.text)).char line.text with
  | error error =>
      simp only [read, bind, Except.bind] at done
      cases done
  | ok rows =>
      simp only [read, bind, Except.bind] at done
      obtain ⟨start, cells, later, rfl, colon, long, bound⟩ := csvRows_spec read
      rw [length_text, weight_cons, List.flatten_cons, List.length_append, List.length_cons] at bound
      rw [filledRows_cons colon] at done
      dsimp only at done
      by_cases header : "host".toList ∈ (start :: cells).map (key platform) ∧
          "port".toList ∈ (start :: cells).map (key platform)
      · rw [decide_eq_true header, if_pos rfl, if_pos rfl] at done
        have columns := two_columns header.1 header.2
        rw [List.length_map, List.length_cons] at columns
        split_ifs at done
        obtain ⟨fields, records, one⟩ := mapM_eq_singleton done
        obtain ⟨port, username, password⟩ := csvRecord_spec one
        have member : fields ∈ later := by
          apply List.mem_of_mem_filter
          rw [← filledRows, records]
          exact List.mem_singleton_self _
        have record := weight_of_mem member
        have values := lengths_le ((start :: cells).map (key platform)) fields
        rw [← username, ← password, told.username, told.password] at values
        have positive : fields ≠ [] := by
          rintro rfl
          rw [valueOf, List.zip_nil_right] at port
          exact port rfl
        have some := List.length_pos_of_ne_nil positive
        omega
      · rw [decide_eq_false header, if_neg Bool.false_ne_true, if_neg Bool.false_ne_true,
          if_neg (List.cons_ne_nil _ _)] at done
        split_ifs at done
        obtain ⟨fields, records, one⟩ := mapM_eq_singleton done
        obtain ⟨rfl, -⟩ := List.cons.inj records
        obtain ⟨port, username, password⟩ := csvRecord_spec one
        obtain ⟨_, number, others, shape, nonempty, values⟩ := lengths_default port
        obtain ⟨rfl, rfl⟩ := List.cons.inj shape
        rw [← username, ← password, told.username, told.password] at values
        have some := List.length_pos_of_ne_nil nonempty
        rw [List.flatten_cons, List.length_append, List.length_cons] at bound
        omega

end Table

/-! ## The format of a line -/

section Format

variable {line : SupplierLine platform} {structured : Structured}

theorem host_ne_nil (valid : ValidHost host) : host ≠ [] := by
  rcases valid with ⟨nonempty, -⟩ | ⟨address, -, rfl⟩
  · exact nonempty
  · exact List.cons_ne_nil _ _

theorem isNewline_of_visible (visible : Visible char) : isNewline char = false := by
  rw [Visible] at visible
  rw [Bool.eq_false_iff]
  intro newline
  simp only [isNewline, Bool.or_eq_true, Bool.and_eq_true, decide_eq_true_eq, Char.le_def,
    UInt32.le_iff_toNat_le] at newline
  rcases newline with ((⟨-, high⟩ | rfl) | rfl) | rfl
  · have value : char.toNat = char.val.toNat := rfl
    have bound : '\r'.val.toNat = 13 := rfl
    omega
  · exact absurd visible (by decide)
  · exact absurd visible (by decide)
  · exact absurd visible (by decide)

theorem head?_characters_text (line : SupplierLine platform) :
    ∃ first ∈ line.host, (platform.properties.characters line.text).head? = some [first] := by
  rw [characters_text]
  cases host : line.host with
  | nil => exact absurd host (host_ne_nil line.validHost)
  | cons first rest => exact ⟨first, List.mem_cons_self, rfl⟩

/-- What a line does not begin with. -/
theorem head?_ne {mark : Char}
    (other : (nameChar mark || hexChar mark || mark ∈ [':', '[', ']']) = false) :
    (platform.properties.characters line.text).head? ≠ some [mark] := by
  obtain ⟨first, member, head⟩ := head?_characters_text line
  rw [head]
  intro same
  have equal : first = mark := (List.cons.inj (Option.some.inj same)).1
  exact notMem_host line.validHost other (equal ▸ member)

theorem text_ne_nil (line : SupplierLine platform) : line.text ≠ [] := by
  rw [SupplierLine.text]
  exact List.append_ne_nil_of_right_ne_nil _ (List.cons_ne_nil _ _)

theorem trim_text (line : SupplierLine platform) : trim platform.blank line.text = line.text := by
  apply trim_of_solid
  · intro char member
    rw [SupplierLine.text, List.head?_append_of_ne_nil _ (host_ne_nil line.validHost)] at member
    have visible := visible_host line.validHost (List.mem_of_mem_head? member)
    exact platform.blank_ascii char visible.1 visible.2
  · intro char member
    have text : line.text = (line.host ++ ':' :: (decimal line.port ++ ':' :: line.username)) ++
        ':' :: line.password := by
      simp [SupplierLine.text, SupplierLine.credentials]
    rw [text, List.getLast?_append_of_ne_nil _ (List.cons_ne_nil _ _)] at member
    cases word : line.password with
    | nil =>
        rw [word] at member
        obtain rfl : ':' = char := Option.some.inj member
        exact platform.blank_ascii ':' (by decide) (by decide)
    | cons first rest =>
        apply line.tidy
        rwa [word, List.getLast?_cons_cons, ← word] at member

theorem cleaned_text (line : SupplierLine platform) : cleaned platform line.text = line.text := by
  simp only [cleaned, trim_text]
  rw [if_neg (head?_ne (by rfl)), trim_text]

theorem isNewline_text (line : SupplierLine platform) :
    ∀ char ∈ line.text, isNewline char = false := by
  intro char member
  rw [SupplierLine.text, SupplierLine.credentials, List.mem_append, List.mem_cons, List.mem_append,
    List.mem_cons] at member
  rcases member with host | rfl | port | rfl | rest
  · exact isNewline_of_visible (visible_host line.validHost host)
  · rfl
  · exact isNewline_of_visible (visible_decimal port)
  · rfl
  · exact line.single char rest

theorem looksLikeCSV_text_iff (line : SupplierLine platform) :
    looksLikeCSV platform line.text = true ↔ line.Tabular := by
  have whole : firstLine line.text = line.text := by
    rw [firstLine, List.takeWhile_eq_self_iff]
    intro char member
    rw [isNewline_text line char member, Bool.not_false]
  have second {cells : List (List Char)} {cell : List Char} (found : cells[1]? = some cell) :
      2 ≤ cells.length := (List.getElem?_eq_some_iff.mp found).1
  have columns {cells : List (List Char)} {host port : List Char} (first : host ∈ cells)
      (other : port ∈ cells) (named : key platform host = "host".toList)
      (numbered : key platform port = "port".toList) : 2 ≤ cells.length := by
    have different : host ≠ port := by
      rintro rfl
      exact absurd (named.symm.trans numbered) (by decide)
    rcases cells with _ | ⟨cell, _ | ⟨next, rest⟩⟩
    · simp at first
    · exact absurd ((List.mem_singleton.mp first).trans (List.mem_singleton.mp other).symm)
        different
    · exact Nat.le_add_left 2 _
  simp only [looksLikeCSV, whole, SupplierLine.Tabular, SupplierLine.cells, List.any_eq_true,
    Bool.and_eq_true, Bool.or_eq_true, decide_eq_true_eq, Option.any_eq_true]
  refine exists_congr fun separator => and_congr_right fun _ => ?_
  constructor
  · rintro ⟨⟨there, -⟩, named | numbered⟩
    · exact ⟨there, .inr named⟩
    · exact ⟨there, .inl numbered⟩
  · rintro ⟨there, ⟨cell, found, number⟩ | named⟩
    · exact ⟨⟨there, second found⟩, .inr ⟨cell, found, number⟩⟩
    · obtain ⟨⟨host, first, same⟩, port, other, same'⟩ := named
      exact ⟨⟨there, columns first other same same'⟩, .inl ⟨⟨host, first, same⟩, port, other, same'⟩⟩

theorem importLines_text (line : SupplierLine platform) :
    importLines platform line.text = [line.text] := by
  have kept : (line.text ≠ [] && (platform.properties.characters line.text).head? ≠ some ['#']) =
      true := by
    rw [Bool.and_eq_true, decide_eq_true_eq, decide_eq_true_eq]
    exact ⟨text_ne_nil line, head?_ne (by rfl)⟩
  rw [importLines, List.splitOnP_eq_singleton (isNewline_text line), List.map_singleton, trim_text,
    List.filter_cons, if_pos kept, List.filter_nil]

/-- An address in brackets is no array. -/
theorem looksLikeJSONArray_text (line : SupplierLine platform) :
    looksLikeJSONArray platform line.text = false := by
  rcases line.validHost with ⟨-, name⟩ | ⟨address, valid, bracketed⟩
  · have head : (platform.properties.characters line.text).head? ≠ some ['['] := by
      obtain ⟨first, member, head⟩ := head?_characters_text line
      rw [head]
      intro same
      have bracket : first = '[' := (List.cons.inj (Option.some.inj same)).1
      have letter := List.all_eq_true.mp name first member
      rw [bracket] at letter
      revert letter
      decide
    simp only [looksLikeJSONArray, decide_eq_false head, Bool.false_and]
  · cases shape : address with
    | nil =>
        have empty : isIpv6 [] = false := by decide
        rw [shape, empty] at valid
        cases valid
    | cons first rest =>
        have kind := addressChar_cases valid (shape ▸ List.mem_cons_self : first ∈ address)
        have visible : Visible first := by
          rcases kind with hex | rfl | rfl
          · exact visible_of_hexChar hex
          · decide
          · decide
        have solid := platform.isWhitespaceOrNewline_ascii first visible.1 visible.2
        have found : (platform.properties.characters line.text).tail.find? (fun char =>
            !platform.isWhitespaceOrNewline char) = some [first] := by
          rw [characters_text, bracketed, shape]
          simp [solid]
        have brace : first ≠ '\x7b' := by
          rintro rfl
          revert kind
          decide
        have quote : first ≠ '"' := by
          rintro rfl
          revert kind
          decide
        have bracket : first ≠ ']' := by
          rintro rfl
          revert kind
          decide
        simp [looksLikeJSONArray, found, brace, quote, bracket]

/-- What a line is read as. -/
theorem parseClean_text (line : SupplierLine platform) (structured : Structured)
    (fallback : ProxyType) :
    parseClean platform structured line.text fallback =
      if looksLikeCSV platform line.text then csv platform line.text fallback
      else [line.text].mapM fun text => parseLine platform text fallback := by
  have xml : (platform.properties.characters line.text).head? ≠ some ['<'] := head?_ne (by rfl)
  have object : (platform.properties.characters line.text).head? ≠ some ['\x7b'] := head?_ne (by rfl)
  rw [parseClean]
  simp only [if_neg xml, decide_eq_false object, looksLikeJSONArray_text, importLines_text,
    Bool.or_false, if_neg Bool.false_ne_true]
  rfl

theorem parse_text (line : SupplierLine platform) (structured : Structured) (type : ProxyType)
    (small : (line.text.map Char.utf8Size).sum ≤ 256000) (proxy : ImportedProxy) :
    parse platform structured line.text type = .ok [proxy] ↔
      parseClean platform structured line.text (if type = .auto then .http else type) =
        .ok [proxy] := by
  rw [parse, cleaned_text, if_neg (not_lt.mpr small), if_neg (text_ne_nil line)]
  cases read : parseClean platform structured line.text (if type = .auto then .http else type) with
  | error error => simp [bind, Except.bind]
  | ok result =>
      simp only [bind, Except.bind]
      constructor
      · intro done
        split_ifs at done
        exact done
      · intro done
        obtain rfl := Except.ok.inj done
        rfl

end Format

/-- A line becomes the proxy it tells of if and only if it is not taken for a URL or a table, and
the colons around the user name are characters of their own. -/
theorem supplier_import_iff (line : SupplierLine platform) (structured : Structured)
    (type : ProxyType) (small : (line.text.map Char.utf8Size).sum ≤ 256000) :
    (∃ proxy, parse platform structured line.text type = .ok [proxy] ∧ line.Tells proxy) ↔
      containsAuthority platform line.text = false ∧ ¬ line.Tabular ∧ line.Apart := by
  have chosen : (if type = .auto then ProxyType.http else type) ≠ .auto := by
    split_ifs with auto
    · decide
    · exact auto
  simp only [parse_text line structured type small, parseClean_text, ← looksLikeCSV_text_iff,
    Bool.not_eq_true]
  cases table : looksLikeCSV platform line.text with
  | true =>
      rw [if_pos rfl]
      constructor
      · rintro ⟨proxy, done, told⟩
        exact absurd done (csv_ne_ok told)
      · rintro ⟨-, wrong, -⟩
        cases wrong
  | false =>
      have one (proxy : ImportedProxy) :
          [line.text].mapM (fun text => parseLine platform text (if type = .auto then .http else type)) =
            .ok [proxy] ↔
          parseLine platform line.text (if type = .auto then .http else type) = .ok proxy := by
        rw [List.mapM_cons, List.mapM_nil]
        cases read : parseLine platform line.text (if type = .auto then .http else type) with
        | error error => simp [bind, Except.bind]
        | ok found => simp [bind, Except.bind, pure, Except.pure]
      simp only [if_neg Bool.false_ne_true, one]
      rw [parseLine_iff line chosen]
      exact and_congr_right fun _ => by rw [true_and]

def isValidHost (host : List Char) : Bool :=
  (host ≠ [] && host.all nameChar) ||
    (host.head? = some '[' && host.getLast? = some ']' && isIpv6 host.tail.dropLast)

theorem isValidHost_of_valid (valid : ValidHost host) : isValidHost host = true := by
  rw [isValidHost, Bool.or_eq_true]
  rcases valid with ⟨nonempty, name⟩ | ⟨address, valid, rfl⟩
  · exact .inl (by simp [nonempty, name])
  · exact .inr (by simp [valid, List.getLast?_cons])

/-- The parts of an origin; no other text has parts. -/
def originParts (text : List Char) : Option UrlParts :=
  let rest := (text.drop 7).reverse
  let host := (rest.dropWhile fun char => char ≠ ':').tail.reverse
  let port := parseInt (rest.takeWhile fun char => char ≠ ':').reverse
  if "http://".toList <+: text ∧ isValidHost host = true ∧ port ≠ none then
    some { scheme := some "http".toList, host := some host, port }
  else none

theorem originParts_origin (valid : ValidHost host) (high : number ≤ 65535) :
    originParts ("http://".toList ++ host ++ ':' :: decimal number) =
      some { scheme := some "http".toList, host := some host, port := some number } := by
  have rest : (("http://".toList ++ host ++ ':' :: decimal number).drop 7).reverse =
      (decimal number).reverse ++ ':' :: host.reverse := by
    rw [List.append_assoc, List.drop_left' (by rw [String.toList_ofList]; rfl)]
    simp
  have digits : ∀ char ∈ (decimal number).reverse, decide (char ≠ ':') = true := by
    intro char member
    rw [decide_eq_true_eq]
    rintro rfl
    have digit := isDigit_decimal (List.mem_reverse.mp member)
    revert digit
    decide
  simp only [originParts, rest]
  rw [List.takeWhile_append_of_pos digits, List.dropWhile_append_of_pos digits,
    List.takeWhile_cons_of_neg (by simp), List.dropWhile_cons_of_neg (by simp), List.append_nil,
    List.reverse_reverse, List.tail_cons, List.reverse_reverse, parseInt_decimal high, if_pos]
  exact ⟨by rw [List.append_assoc]; exact List.prefix_append _ _, isValidHost_of_valid valid, by simp⟩

/-- White space of ASCII. -/
def asciiBlank (char : Char) : Bool :=
  char = ' ' || ('\t' ≤ char && char ≤ '\r')

theorem asciiBlank_of_visible (visible : Visible char) : asciiBlank char = false := by
  rw [Visible] at visible
  have value : char.toNat = char.val.toNat := rfl
  have bound : '\r'.val.toNat = 13 := rfl
  rw [Bool.eq_false_iff]
  intro blank
  simp only [asciiBlank, Bool.or_eq_true, Bool.and_eq_true, decide_eq_true_eq, Char.le_def,
    UInt32.le_iff_toNat_le] at blank
  rcases blank with rfl | ⟨-, high⟩
  · exact absurd visible (by decide)
  · omega

def samplePlatform : Platform where
  properties := accentTables
  blank := asciiBlank
  isWhitespaceOrNewline char := char.head?.any asciiBlank
  lowercased := List.map Char.toLower
  urlComponents := originParts
  blank_ascii _ printable ascii := asciiBlank_of_visible ⟨printable, ascii⟩
  isWhitespaceOrNewline_ascii _ printable ascii := asciiBlank_of_visible ⟨printable, ascii⟩
  urlComponents_origin host number valid low high := originParts_origin valid high
  urlComponents_host text parts scheme host := by
    intro found named hosted
    simp only [originParts] at found
    split_ifs at found with origin
    obtain rfl := Option.some.inj found
    obtain rfl := Option.some.inj named
    rw [String.toList_ofList, String.toList_ofList]
    rw [String.toList_ofList] at origin
    exact ⟨by decide, by decide, origin.1⟩

def sampleStructured : Structured where
  xml _ _ := .error .invalid
  json _ _ := .error .invalid

/-- The line `h:80:u:a,1`. -/
def commaLine : SupplierLine samplePlatform where
  host := ['h']
  port := 80
  username := ['u']
  password := ['a', ',', '1']
  validHost := .inl ⟨by decide, by decide⟩
  low := by decide
  high := by decide
  colonFree := by decide
  single := by
    simp only [List.cons_append, List.nil_append, List.forall_mem_cons]
    exact ⟨rfl, rfl, rfl, rfl, rfl, List.forall_mem_nil _⟩
  tidy := by
    rintro char ⟨⟩
    rfl

/-- The line `h:80:u:a`. -/
def plainLine : SupplierLine samplePlatform where
  host := ['h']
  port := 80
  username := ['u']
  password := ['a']
  validHost := .inl ⟨by decide, by decide⟩
  low := by decide
  high := by decide
  colonFree := by decide
  single := by
    simp only [List.cons_append, List.nil_append, List.forall_mem_cons]
    exact ⟨rfl, rfl, rfl, List.forall_mem_nil _⟩
  tidy := by
    rintro char ⟨⟩
    rfl

theorem supplier_import_sample :
    (∃ proxy, parse samplePlatform sampleStructured plainLine.text .https = .ok [proxy] ∧
      plainLine.Tells proxy) ∧
    ((∃ proxy, parse samplePlatform sampleStructured commaLine.text .https = .ok [proxy] ∧
      commaLine.Tells proxy) ↔ containsAuthority samplePlatform commaLine.text = false ∧
        ¬ commaLine.Tabular ∧ commaLine.Apart) := by
  refine ⟨?_, supplier_import_iff commaLine sampleStructured .https (by decide)⟩
  have clusters : samplePlatform.properties.characters plainLine.text =
      [['h'], [':'], ['8'], ['0'], [':'], ['u'], [':'], ['a']] := by decide
  refine (supplier_import_iff plainLine sampleStructured .https (by decide)).mpr
    ⟨?_, ?_, ⟨?_, ?_, ?_⟩⟩
  · rw [containsAuthority, decide_eq_false_iff_not, clusters]
    intro found
    exact absurd (found.subset (show ['/'] ∈ _ by simp)) (by decide)
  · rintro ⟨separator, listed, ⟨char, there, cut⟩, -⟩
    rw [clusters] at there
    fin_cases listed <;> fin_cases there <;> cases cut
  · rintro char ⟨⟩
    decide
  · rintro char ⟨⟩
    decide
  · rintro char ⟨⟩
    decide

/-- The second cell of the line is a number. -/
theorem comma_password_is_a_table : ¬ ∃ proxy,
    parse samplePlatform sampleStructured commaLine.text .http = .ok [proxy] ∧
      commaLine.Tells proxy := by
  have small : (commaLine.text.map Char.utf8Size).sum ≤ 256000 := by decide
  have table : looksLikeCSV samplePlatform commaLine.text = true := by
    rw [looksLikeCSV, List.any_eq_true]
    refine ⟨',', by decide, ?_⟩
    dsimp only
    rw [Bool.and_eq_true, Bool.or_eq_true]
    exact ⟨by decide, .inr (by decide)⟩
  rintro ⟨proxy, done, told⟩
  rw [parse_text commaLine sampleStructured .http small, parseClean_text, if_pos table] at done
  exact csv_ne_ok told done

end ProxyLauncher.IOS
