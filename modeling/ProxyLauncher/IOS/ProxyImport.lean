import Mathlib
import ProxyLauncher.IOS.CsvImport
import ProxyLauncher.IOS.ProfileStorage
import ProxyLauncher.Texts.Ipv4
import ProxyLauncher.Texts.Trimming

/-!
# Import of proxies

`ProxyImport.parse` chooses the format of a text by what the text looks like.  What the readers
of JSON and XML make of it stays a parameter, as does what only the system knows.
-/

namespace ProxyLauncher.IOS

open Texts (Properties trim)

structure ImportedProxy where
  name : List Char
  host : List Char
  port : ℤ
  type : ProxyType
  username : List Char
  password : List Char
deriving DecidableEq

/-- A character of a host name. -/
def nameChar (char : Char) : Bool :=
  char.isAlphanum || char = '-' || char = '.'

def hexChar (char : Char) : Bool :=
  char.isDigit || ('a' ≤ char && char ≤ 'f') || ('A' ≤ char && char ≤ 'F')

/-- A group of an IPv6 address. -/
def isGroup (group : List Char) : Bool :=
  1 ≤ group.length && group.length ≤ 4 && group.all hexChar

/-- The number of groups; an IPv4 address at the end counts twice. -/
def groupCount : List (List Char) → Option ℕ
  | [] => some 0
  | [last] => if isGroup last then some 1 else if Texts.Ipv4.isIpv4 last then some 2 else none
  | group :: next :: groups =>
      if isGroup group then (groupCount (next :: groups)).map (· + 1) else none

/-- The groups on one side of `::`. -/
def sideCount (side : List Char) : Option ℕ :=
  if side = [] then some 0 else groupCount (side.splitOn ':')

/-- The `IPv6address` of a URL. -/
def isIpv6 (address : List Char) : Bool :=
  address.all (fun char => hexChar char || char = ':' || char = '.') &&
    (groupCount (address.splitOn ':') = some 8 ||
      (List.range address.length).any fun index =>
        (address.drop index).take 2 = [':', ':'] && '.' ∉ address.take index &&
          (sideCount (address.take index)).any fun left =>
            (sideCount (address.drop (index + 2))).any fun right => left + right ≤ 7)

/-- A host name or an IPv6 address in brackets. -/
def ValidHost (host : List Char) : Prop :=
  (host ≠ [] ∧ host.all nameChar = true) ∨
    ∃ address, isIpv6 address = true ∧ host = '[' :: (address ++ [']'])

/-- The digits of a number. -/
def decimal (number : ℕ) : List Char := Nat.toDigits 10 number

structure UrlParts where
  scheme : Option (List Char) := none
  user : Option (List Char) := none
  password : Option (List Char) := none
  host : Option (List Char) := none
  port : Option ℤ := none
  path : List Char := []
  query : Option (List Char) := none
  fragment : Option (List Char) := none

def isSchemeChar (char : Char) : Bool :=
  char.isAlphanum || char = '+' || char = '-' || char = '.'

/-- What the system knows: Unicode, white space and the parts of a URL. -/
structure Platform where
  properties : Properties
  blank : Char → Bool
  isWhitespaceOrNewline : List Char → Bool
  lowercased : List Char → List Char
  urlComponents : List Char → Option UrlParts
  blank_ascii : ∀ char : Char, 33 ≤ char.toNat → char.toNat < 127 → blank char = false
  isWhitespaceOrNewline_ascii : ∀ char : Char, 33 ≤ char.toNat → char.toNat < 127 →
    isWhitespaceOrNewline [char] = false
  /-- The parts of an origin are read back. -/
  urlComponents_origin : ∀ host number, ValidHost host → 1 ≤ number → number ≤ 65535 →
    urlComponents ("http://".toList ++ host ++ ':' :: decimal number) =
      some { scheme := some "http".toList, host := some host, port := some number }
  /-- A scheme and a host stand with `://` between them. -/
  urlComponents_host : ∀ text parts scheme host, urlComponents text = some parts →
    parts.scheme = some scheme → parts.host = some host →
    scheme ≠ [] ∧ scheme.all isSchemeChar = true ∧ scheme ++ "://".toList <+: text

/-- `CharacterSet.newlines`. -/
def isNewline (char : Char) : Bool :=
  ('\n' ≤ char && char ≤ '\r') || char = '\u0085' || char = '\u2028' || char = '\u2029'

/-- `Int(text)`. -/
def parseInt (text : List Char) : Option ℤ :=
  let number (digits : List Char) : Option ℤ :=
    if digits ≠ [] ∧ digits.all Char.isDigit then some (Nat.ofDigitChars 10 digits 0) else none
  let value :=
    match text with
    | '-' :: digits => (number digits).map Neg.neg
    | '+' :: digits => number digits
    | digits => number digits
  value.filter fun value => -2 ^ 63 ≤ value && value < 2 ^ 63

/-- `split(separator:, maxSplits:, omittingEmptySubsequences: false)`. -/
def split (isMark : List Char → Bool) : ℕ → List (List Char) → List (List (List Char))
  | 0, chars => [chars]
  | count + 1, chars =>
      match chars.dropWhile fun char => !isMark char with
      | [] => [chars]
      | _ :: later => (chars.takeWhile fun char => !isMark char) :: split isMark count later

variable (platform : Platform)

/-- `specifiedType`. -/
def specifiedType (value : Option (List Char)) (defaultType : ProxyType) :
    Except ProxyImportError ProxyType :=
  let raw := platform.lowercased (trim platform.blank (value.getD []))
  if raw = [] then .ok defaultType
  else if raw = "http".toList then .ok .http
  else if raw = "https".toList then .ok .https
  else if raw = "socks5".toList ∨ raw = "socks5h".toList ∨ raw = "socks".toList then .ok .socks5
  else .error .unsupported

/-- `target.contains(":") && !target.hasPrefix("[") ? "[\(target)]" : target`. -/
def authority (target : List Char) : List Char :=
  if [':'] ∈ platform.properties.characters target ∧
      (platform.properties.characters target).head? ≠ some ['['] then '[' :: (target ++ [']'])
  else target

/-- `item`. -/
def item (host port username password : List Char) (type : ProxyType) (name : List Char) :
    Except ProxyImportError ImportedProxy :=
  let target := trim platform.blank host
  let chars := platform.properties.characters target
  match parseInt (trim platform.blank port) with
  | none => .error .invalid
  | some number =>
      if number < 1 ∨ 65535 < number ∨ target = [] ∨ chars.any platform.isWhitespaceOrNewline ∨
          ['/'] ∈ chars ∨ ['@'] ∈ chars ∨ ['?'] ∈ chars ∨ ['#'] ∈ chars ∨ type = .auto then
        .error .invalid
      else
        let url := "http://".toList ++ authority platform target ++ ':' :: decimal number.toNat
        match platform.urlComponents url with
        | none => .error .invalid
        | some components =>
            let parsedHost := components.host.getD []
            if parsedHost = [] ∨ components.port ≠ some number ∨ components.user ≠ none ∨
                components.password ≠ none ∨ components.query ≠ none ∨ components.path ≠ [] then
              .error .invalid
            else
              let caption := trim platform.blank name
              .ok { name := if caption = [] then parsedHost ++ ':' :: decimal number.toNat else caption
                    host := parsedHost
                    port := number
                    type
                    username
                    password }

/-- The branch of `parseLine` on `://`. -/
def parseUrl (text : List Char) (defaultType : ProxyType) :
    Except ProxyImportError ImportedProxy :=
  match platform.urlComponents text with
  | none => .error .invalid
  | some url =>
      match url.scheme with
      | none => .error .invalid
      | some scheme => do
          let type ← specifiedType platform (some scheme) defaultType
          match url.host, url.port with
          | some host, some port =>
              if (url.path = [] ∨ url.path = ['/']) ∧ url.query = none then
                item platform host (toString port).toList (url.user.getD []) (url.password.getD [])
                  type (url.fragment.getD [])
              else .error .invalid
          | _, _ => .error .invalid

/-- The host of a line, and what is behind the colon behind it. -/
def hostPart (chars : List (List Char)) : Option (List Char × List (List Char)) :=
  let plain : Option (List Char × List (List Char)) :=
    match chars.dropWhile fun char => char ≠ [':'] with
    | [] => none
    | _ :: remainder => some ((chars.takeWhile fun char => char ≠ [':']).flatten, remainder)
  if chars.head? = some ['['] then
    match chars.dropWhile fun char => char ≠ [']'] with
    | _ :: colon :: remainder =>
        if colon = [':'] then
          some ((chars.takeWhile fun char => char ≠ [']']).flatten ++ [']'], remainder)
        else plain
    | _ => plain
  else plain

/-- `text.contains("://")`. -/
def containsAuthority (text : List Char) : Bool :=
  decide ([[':'], ['/'], ['/']] <:+: platform.properties.characters text)

/-- `parseLine`. -/
def parseLine (text : List Char) (defaultType : ProxyType) :
    Except ProxyImportError ImportedProxy :=
  if containsAuthority platform text then parseUrl platform text defaultType
  else
    match hostPart (platform.properties.characters text) with
    | none => .error .invalid
    | some (host, remainder) =>
        match (split (fun char => char = [':']) 2 remainder).map List.flatten with
        | [port] => item platform host port [] [] defaultType []
        | [port, username, password] =>
            item platform host port username password defaultType []
        | _ => .error .invalid

def aliases : List (String × List String) :=
  [("host", ["host", "hostname", "ip", "ipaddress", "server", "address", "адрес", "сервер"]),
    ("port", ["port", "порт"]),
    ("username", ["username", "user", "login", "логин", "пользователь"]),
    ("password", ["password", "pass", "passwd", "pwd", "пароль"]),
    ("type", ["type", "protocol", "scheme", "протокол", "тип"]),
    ("name", ["name", "label", "title", "название", "имя"])]

/-- `key`. -/
def key (input : List Char) : List Char :=
  let lower := platform.lowercased (trim platform.blank input)
  let normalized := ((platform.properties.characters lower).filter fun char =>
    char ≠ ['_'] && char ≠ ['-'] && char ≠ [' ']).flatten
  ((aliases.find? fun entry => String.ofList normalized ∈ entry.2).map fun entry =>
    entry.1.toList).getD normalized

/-- The text before the first line break. -/
def firstLine (input : List Char) : List Char :=
  input.takeWhile fun char => !isNewline char

/-- The cells of a line, without white space and quotes around them. -/
def roughCells (separator : Char) (chars : List (List Char)) : List (List Char) :=
  (split (isSeparator separator) chars.length chars).map fun cell =>
    trim (fun char => char = '"') (trim platform.blank cell.flatten)

/-- `looksLikeCSV`. -/
def looksLikeCSV (input : List Char) : Bool :=
  let chars := platform.properties.characters (firstLine input)
  [',', ';', '\t'].any fun separator =>
    let cells := roughCells platform separator chars
    chars.any (isSeparator separator) && decide (2 ≤ cells.length) &&
      ((cells.any (fun cell => key platform cell = "host".toList) &&
          cells.any fun cell => key platform cell = "port".toList) ||
        (cells[1]?.any fun cell => (parseInt cell).isSome))

/-- How often a separator is outside of quotes. -/
def separatorCount (separator : Char) (quoted : Bool) : List (List Char) → ℕ
  | [] => 0
  | char :: chars =>
      if char = ['"'] then separatorCount separator (!quoted) chars
      else if !quoted && isSeparator separator char then separatorCount separator quoted chars + 1
      else separatorCount separator quoted chars

/-- `csvDelimiter`: the first one that is the most frequent. -/
def csvDelimiter (line : List Char) : Separator :=
  let count (separator : Separator) : ℕ :=
    separatorCount separator.char false (platform.properties.characters line)
  let first := if count .comma < count .semicolon then Separator.semicolon else .comma
  if count first < count .tab then .tab else first

def defaultColumns : List (List Char) :=
  ["host".toList, "port".toList, "username".toList, "password".toList, "type".toList,
    "name".toList]

/-- A record of the table. -/
def csvRecord (columns : List (List Char)) (defaultType : ProxyType) (fields : Row) :
    Except ProxyImportError ImportedProxy := do
  if columns.length < fields.length then .error .invalid
  else
    let value (column : String) : Option (List Char) := (columns.zip fields).lookup column.toList
    let type ← specifiedType platform (value "type") defaultType
    item platform ((value "host").getD []) ((value "port").getD []) ((value "username").getD [])
      ((value "password").getD []) type ((value "name").getD [])

/-- The rows that have more than white space. -/
def filledRows (rows : List Row) : List Row :=
  rows.filter fun row => !row.all fun cell => trim platform.blank cell = []

/-- `csv`. -/
def csv (input : List Char) (defaultType : ProxyType) :
    Except ProxyImportError (List ImportedProxy) := do
  let separator := csvDelimiter platform (firstLine input)
  let rows ← csvRows platform.properties separator.char input
  match filledRows platform rows with
  | [] => .error .empty
  | first :: later =>
      let normalized := first.map (key platform)
      let hasHeader := decide ("host".toList ∈ normalized ∧ "port".toList ∈ normalized)
      let columns := if hasHeader then normalized else defaultColumns
      let records := if hasHeader then later else first :: later
      if records = [] then .error .empty
      else if 200 < records.length then .error .tooLarge
      else if ¬ ("host".toList ∈ columns ∧ "port".toList ∈ columns) ∨ ¬ columns.Nodup then
        .error .invalid
      else records.mapM (csvRecord platform columns defaultType)

/-- `looksLikeJSONArray`. -/
def looksLikeJSONArray (input : List Char) : Bool :=
  let chars := platform.properties.characters input
  let firstValue := chars.tail.find? fun char => !platform.isWhitespaceOrNewline char
  chars.head? = some ['['] &&
    (firstValue = some ['\x7b'] || firstValue = some ['"'] || firstValue = some [']'])

/-- The readers of structured texts. -/
structure Structured where
  xml : List Char → ProxyType → Except ProxyImportError (List ImportedProxy)
  json : List Char → ProxyType → Except ProxyImportError (List ImportedProxy)

variable (structured : Structured)

/-- The input without the white space and the byte order mark around it. -/
def cleaned (input : List Char) : List Char :=
  let trimmed := trim platform.blank input
  let chars := platform.properties.characters trimmed
  trim platform.blank (if chars.head? = some ['\ufeff'] then chars.tail.flatten else trimmed)

/-- The lines that are not empty and no comments. -/
def importLines (clean : List Char) : List (List Char) :=
  ((clean.splitOnP isNewline).map (trim platform.blank)).filter fun line =>
    line ≠ [] && (platform.properties.characters line).head? ≠ some ['#']

/-- The proxies of a text that has been cleaned. -/
def parseClean (clean : List Char) (fallback : ProxyType) :
    Except ProxyImportError (List ImportedProxy) :=
  let first := (platform.properties.characters clean).head?
  if first = some ['<'] then structured.xml clean fallback
  else if first = some ['\x7b'] || looksLikeJSONArray platform clean then
    structured.json clean fallback
  else if looksLikeCSV platform clean then csv platform clean fallback
  else
    let lines := importLines platform clean
    if lines = [] then .error .empty
    else if 200 < lines.length then .error .tooLarge
    else lines.mapM fun line => parseLine platform line fallback

/-- `parse`. -/
def parse (input : List Char) (defaultType : ProxyType) :
    Except ProxyImportError (List ImportedProxy) := do
  let clean := cleaned platform input
  if 256000 < (input.map Char.utf8Size).sum then .error .tooLarge
  else if clean = [] then .error .empty
  else
    let result ← parseClean platform structured clean
      (if defaultType = .auto then .http else defaultType)
    if result = [] then .error .empty
    else if 200 < result.length then .error .tooLarge
    else .ok result

end ProxyLauncher.IOS
