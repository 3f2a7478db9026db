import ProxyLauncher.Python.Json

/-!
# The text of JSON values

`json.dumps` with `separators=(",", ":")` and `sort_keys=True`, and the strings of
`json.loads`.  A text is the list of its characters.
-/

namespace ProxyLauncher.Python

/-- What follows a given text. -/
def expectText : List Char → List Char → Option (List Char)
  | [], cursor => some cursor
  | _ :: _, [] => none
  | char :: text, head :: cursor => if head = char then expectText text cursor else none

@[simp] theorem expectText_append (text rest : List Char) :
    expectText text (text ++ rest) = some rest := by
  induction text with
  | nil => rfl
  | cons char text ih => simpa [expectText] using ih

/-- `\uXXXX` for a UTF-16 code unit. -/
def unicodeEscape (unit : Nat) : List Char :=
  ['\\', 'u', Nat.digitChar (unit / 4096 % 16), Nat.digitChar (unit / 256 % 16),
    Nat.digitChar (unit / 16 % 16), Nat.digitChar (unit % 16)]

/-- A character of a string, with the value of `ensure_ascii`. -/
def escapeChar (ensureAscii : Bool) (char : Char) : List Char :=
  let code := char.toNat
  if char = '"' then ['\\', '"']
  else if char = '\\' then ['\\', '\\']
  else if char = '\n' then ['\\', 'n']
  else if char = '\r' then ['\\', 'r']
  else if char = '\t' then ['\\', 't']
  else if code = 8 then ['\\', 'b']
  else if code = 12 then ['\\', 'f']
  else if code < 32 then unicodeEscape code
  else if ensureAscii = true ∧ 126 < code then
    if code < 0x10000 then unicodeEscape code
    else unicodeEscape (0xd800 + (code - 0x10000) / 1024) ++
      unicodeEscape (0xdc00 + (code - 0x10000) % 1024)
  else [char]

/-- A string with its quotation marks. -/
def quote (ensureAscii : Bool) (text : String) : List Char :=
  '"' :: text.toList.flatMap (escapeChar ensureAscii) ++ ['"']

/-- The value of a hexadecimal digit. -/
def hexValue (char : Char) : Option Nat :=
  if '0'.toNat ≤ char.toNat ∧ char.toNat ≤ '9'.toNat then some (char.toNat - '0'.toNat)
  else if 'a'.toNat ≤ char.toNat ∧ char.toNat ≤ 'f'.toNat then some (char.toNat - 'a'.toNat + 10)
  else if 'A'.toNat ≤ char.toNat ∧ char.toNat ≤ 'F'.toNat then some (char.toNat - 'A'.toNat + 10)
  else none

/-- The code unit of four hexadecimal digits. -/
def hexUnit (first second third fourth : Char) : Option Nat := do
  let first ← hexValue first
  let second ← hexValue second
  let third ← hexValue third
  let fourth ← hexValue fourth
  pure (first * 4096 + second * 256 + third * 16 + fourth)

/-- The character after a backslash. -/
def unescape (char : Char) : Option Char :=
  if char = '"' ∨ char = '\\' ∨ char = '/' then some char
  else if char = 'b' then some (.ofNat 8)
  else if char = 'f' then some (.ofNat 12)
  else if char = 'n' then some '\n'
  else if char = 'r' then some '\r'
  else if char = 't' then some '\t'
  else none

/-- The codes of the rest of a string after its opening quotation mark, up to the closing one, with
the text that follows. -/
def scanCodes : List Char → Option (List Nat × List Char)
  | [] => none
  | '"' :: rest => some ([], rest)
  | '\\' :: 'u' :: first :: second :: third :: fourth :: rest => do
      let unit ← hexUnit first second third fourth
      let (codes, rest) ← scanCodes rest
      some (unit :: codes, rest)
  | '\\' :: char :: rest => do
      let char ← unescape char
      let (codes, rest) ← scanCodes rest
      some (char.toNat :: codes, rest)
  | char :: rest => do
      let (codes, rest) ← scanCodes rest
      if char.toNat < 32 then none else some (char.toNat :: codes, rest)

/-- The character of a code, or the replacement character for a surrogate. -/
def charOf (code : Nat) : Char :=
  if 0xd800 ≤ code ∧ code ≤ 0xdfff then .ofNat 0xfffd else .ofNat code

/-- The characters of some codes; a high surrogate and a low one after it are one character. -/
def joinSurrogates : List Nat → List Char
  | [] => []
  | [code] => [charOf code]
  | high :: low :: rest =>
      if (0xd800 ≤ high ∧ high ≤ 0xdbff) ∧ 0xdc00 ≤ low ∧ low ≤ 0xdfff then
        .ofNat (0x10000 + (high - 0xd800) * 1024 + (low - 0xdc00)) :: joinSurrogates rest
      else charOf high :: joinSurrogates (low :: rest)

/-- The rest of a string after its opening quotation mark, with the text that follows. -/
def scanString (text : List Char) : Option (List Char × List Char) :=
  (scanCodes text).map fun found => (joinSurrogates found.1, found.2)

/-- A string with its quotation marks, and the text that follows. -/
def readString : List Char → Option (String × List Char)
  | '"' :: rest => (scanString rest).map fun found => (.ofList found.1, found.2)
  | _ => none

theorem hexValue_digitChar {digit : Nat} (small : digit < 16) :
    hexValue (Nat.digitChar digit) = some digit := by
  have every : ∀ digit : Fin 16, hexValue (Nat.digitChar digit) = some digit.val := by decide
  exact every ⟨digit, small⟩

theorem hexUnit_digitChar {unit : Nat} (small : unit < 65536) :
    hexUnit (Nat.digitChar (unit / 4096 % 16)) (Nat.digitChar (unit / 256 % 16))
      (Nat.digitChar (unit / 16 % 16)) (Nat.digitChar (unit % 16)) = some unit := by
  rw [hexUnit, hexValue_digitChar (by omega), hexValue_digitChar (by omega),
    hexValue_digitChar (by omega), hexValue_digitChar (by omega)]
  refine congrArg some ?_
  omega

/-- A code that is no surrogate is a character of its own. -/
theorem joinSurrogates_cons {code : Nat} (scalar : code < 0xd800 ∨ 0xdfff < code)
    (rest : List Nat) : joinSurrogates (code :: rest) = .ofNat code :: joinSurrogates rest := by
  have single : charOf code = .ofNat code := if_neg (by omega)
  cases rest with
  | nil => exact congrArg (fun char => [char]) single
  | cons low rest => rw [joinSurrogates, if_neg (by omega), single]

theorem joinSurrogates_toNat_cons (char : Char) (rest : List Nat) :
    joinSurrogates (char.toNat :: rest) = char :: joinSurrogates rest := by
  have scalar : char.toNat < 0xd800 ∨ 0xdfff < char.toNat := char.valid.imp id And.left
  rw [joinSurrogates_cons scalar, Char.ofNat_toNat]

theorem scanString_pair {char value : Char} (rest : List Char) (plain : char ≠ 'u')
    (known : unescape char = some value) :
    scanString ('\\' :: char :: rest) =
      (scanString rest).map fun found => (value :: found.1, found.2) := by
  unfold scanString
  rw [scanCodes.eq_4 _ _ (by rintro first second third fourth rest rfl; exact absurd rfl plain),
    known]
  cases scanCodes rest with
  | none => rfl
  | some found => exact congrArg (fun chars => some (chars, found.2)) (joinSurrogates_toNat_cons ..)

example : scanString "\\ud83d\\ude00\\ud83d\"".toList = some (['😀', '\ufffd'], []) := by
  decide

theorem scanString_unicodeEscape {unit : Nat} (rest : List Char) (small : unit < 0xd800) :
    scanString (unicodeEscape unit ++ rest) =
      (scanString rest).map fun found => (.ofNat unit :: found.1, found.2) := by
  simp only [unicodeEscape, List.cons_append, List.nil_append, scanString, scanCodes]
  rw [hexUnit_digitChar (by omega)]
  cases scanCodes rest with
  | none => rfl
  | some found =>
      exact congrArg (fun chars => some (chars, found.2)) (joinSurrogates_cons (.inl small) _)

theorem scanString_plain {char : Char} (rest : List Char) (quotation : char ≠ '"')
    (backslash : char ≠ '\\') (printable : 32 ≤ char.toNat) :
    scanString (char :: rest) =
      (scanString rest).map fun found => (char :: found.1, found.2) := by
  unfold scanString
  rw [scanCodes.eq_5 _ _ quotation (by rintro _ _ _ _ _ rfl; exact absurd rfl backslash)
    (by rintro _ _ rfl; exact absurd rfl backslash)]
  cases scanCodes rest with
  | none => rfl
  | some found =>
      have allowed : ¬ char.toNat < 32 := by omega
      simp only [Option.bind_eq_bind, Option.bind_some, if_neg allowed, Option.map_some,
        joinSurrogates_toNat_cons]

/-- A character is read back, without `ensure_ascii`. -/
theorem scanString_escapeChar (char : Char) (rest : List Char) :
    scanString (escapeChar false char ++ rest) =
      (scanString rest).map fun found => (char :: found.1, found.2) := by
  have same {code : Nat} (known : char.toNat = code) : Char.ofNat code = char := by
    rw [← known, Char.ofNat_toNat]
  have pair (char value : Char) := @scanString_pair char value rest
  simp only [escapeChar, Bool.false_eq_true, false_and, if_false]
  split_ifs with quotation backslash newline return' tab back feed control
  · exact quotation ▸ pair '"' '"' (by decide) rfl
  · exact backslash ▸ pair '\\' '\\' (by decide) rfl
  · exact newline ▸ pair 'n' '\n' (by decide) rfl
  · exact return' ▸ pair 'r' '\r' (by decide) rfl
  · exact tab ▸ pair 't' '\t' (by decide) rfl
  · exact same back ▸ pair 'b' (.ofNat 8) (by decide) rfl
  · exact same feed ▸ pair 'f' (.ofNat 12) (by decide) rfl
  · have read := scanString_unicodeEscape rest (show char.toNat < 0xd800 by omega)
    rwa [Char.ofNat_toNat] at read
  · exact scanString_plain rest quotation backslash (by omega)

theorem scanString_flatMap (chars rest : List Char) :
    scanString (chars.flatMap (escapeChar false) ++ '"' :: rest) = some (chars, rest) := by
  induction chars with
  | nil => rfl
  | cons char chars ih =>
      rw [List.flatMap_cons, List.append_assoc, scanString_escapeChar, ih]
      rfl

/-- A string is read back, whatever follows it. -/
theorem readString_quote (text : String) (rest : List Char) :
    readString (quote false text ++ rest) = some (text, rest) := by
  simp only [quote, List.cons_append, List.append_assoc, List.nil_append, readString]
  rw [scanString_flatMap, Option.map_some, String.ofList_toList]

/-- The digits of a number. -/
def natText (value : Nat) : List Char := Nat.toDigits 10 value

def intText : Int → List Char
  | .ofNat value => natText value
  | .negSucc value => '-' :: natText (value + 1)

/-- `",".join(texts)`. -/
def commaSeparated (texts : List (List Char)) : List Char :=
  List.intercalate [','] texts

/-- An entry of an object. -/
def entryText (entry : String × List Char) : List Char :=
  quote true entry.1 ++ ':' :: entry.2

mutual

/-- `json.dumps(value, sort_keys=True, separators=(",", ":"))`. -/
def dumps : Json → List Char
  | .null => "null".toList
  | .bool true => "true".toList
  | .bool false => "false".toList
  | .int value => intText value
  | .float text => text.toList
  | .string value => quote true value
  | .array values => '[' :: commaSeparated (dumpsAll values) ++ [']']
  | .object entries =>
      '\x7b' :: commaSeparated ((sortKeys (dumpsEntries entries)).map entryText) ++ ['\x7d']

def dumpsAll : List Json → List (List Char)
  | [] => []
  | value :: rest => dumps value :: dumpsAll rest

def dumpsEntries : List (String × Json) → List (String × List Char)
  | [] => []
  | (key, value) :: rest => (key, dumps value) :: dumpsEntries rest

end

end ProxyLauncher.Python
