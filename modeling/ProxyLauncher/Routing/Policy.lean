import ProxyLauncher.Python.Runtime
import ProxyLauncher.Routing.Glob
import ProxyLauncher.Selection.Distinct
import ProxyLauncher.Texts.Trimming

/-!
# The no-proxy policy

The exclusions of the user are cleaned and stored one a line.  Two programs read them: the
local engine, which matches the normalized host against each normalized entry, and the PAC
script, which has the entries as they are stored.
-/

namespace ProxyLauncher.Routing

open Glob Python
open Selection (appendAll distinct)
open Texts (textBefore textAfter)

/-- The functions of the library that depend on the Unicode tables.  `sameCase` tells whether
two characters match under `re.IGNORECASE`. -/
structure Characters where
  lower : String → String
  isDigit : Char → Bool
  sameCase : Char → Char → Bool
  sameCase_self : ∀ char, sameCase char char = true

variable (characters : Characters)

/-- `DEFAULT_NO_PROXY`. -/
def defaultNoProxy : List String :=
  ["localhost", "127.0.0.1", "::1", "*.local", "10.*",
    "172.16.*", "172.17.*", "172.18.*", "172.19.*", "172.20.*", "172.21.*", "172.22.*",
    "172.23.*", "172.24.*", "172.25.*", "172.26.*", "172.27.*", "172.28.*", "172.29.*",
    "172.30.*", "172.31.*", "192.168.*", "captive.apple.com", "gsp1.apple.com"]

/-- `text.rstrip(char)`. -/
def rstripChar (char : Char) (text : String) : String :=
  .ofList (text.toList.rdropWhile fun other => other = char)

/-- The lines of a file that is read with universal newlines. -/
def universalLines : List Char → List (List Char)
  | [] => []
  | '\r' :: '\n' :: rest => [] :: universalLines rest
  | '\r' :: rest => [] :: universalLines rest
  | '\n' :: rest => [] :: universalLines rest
  | char :: rest =>
      match universalLines rest with
      | [] => [[char]]
      | line :: lines => (char :: line) :: lines

/-- The host of `host:port`, for a text with one colon. -/
def withoutPort (domain : String) : String :=
  let host := domain.toList.takeWhile fun char => char ≠ ':'
  let port := domain.toList.drop (host.length + 1)
  if port ≠ [] ∧ port.all characters.isDigit = true then .ofList host else domain

/-- `clean_domain`. -/
def cleanDomain (value : String) : String :=
  let domain := strip (textBefore '#' (characters.lower (strip value)))
  let domain := textAfter "://".toList domain
  let domain := strip (textBefore '/' domain)
  if domain = "" then ""
  else if domain.toList.head? = some '[' then
    textBefore ']' (.ofList (domain.toList.dropWhile fun char => char = '['))
  else if domain.toList.count ':' = 1 then withoutPort characters domain
  else domain

/-- The comment lines at the start of the file. -/
def noProxyHeader : List String :=
  ["# Список исключений (no_proxy). По одному домену на строку.",
    "# Сайты из списка открываются напрямую, минуя прокси.",
    "# Строки, начинающиеся с #, игнорируются.",
    "# Изменения применяются сразу, перезапуск не нужен.",
    ""]

/-- The file that `save_no_proxy` writes. -/
def saveNoProxy (domains : List String) : String :=
  let normalized := distinct ((domains.map (cleanDomain characters)).filter (· ≠ ""))
  String.intercalate "\n" (noProxyHeader ++ normalized) ++ "\n"

/-- `load_no_proxy` of a file with this content. -/
def loadNoProxy (content : String) : List String :=
  ((universalLines content.toList).map fun line => strip (.ofList line)).filter fun line =>
    line ≠ "" ∧ line.toList.head? ≠ some '#'

/-- The default entries and then the stored ones. -/
def bypassEntries (stored : List String) : List String :=
  appendAll defaultNoProxy stored

/-- `_normalize_host`. -/
def normalizeHost (host : String) : String :=
  let host := rstripChar '.' (characters.lower (strip host))
  if host.toList.head? = some '[' ∧ host.toList.getLast? = some ']' then
    .ofList host.toList.tail.dropLast
  else host

/-- The pattern that `host_bypasses_proxy` makes of an entry. -/
def enginePattern (entry : String) : List Char :=
  let pattern := (normalizeHost characters entry).toList
  if pattern.head? = some '.' then pattern.tail else pattern

/-- `re.match` of a pattern with wildcards.  A dot does not take a line feed, and the dollar
sign at the end also matches in front of a last line feed. -/
def engineGlob (pattern text : List Char) : Bool :=
  let pieces := compile '*' '?' (fun char => decide (char ≠ '\n')) characters.sameCase pattern
  globMatch pieces text ||
    (decide (text.getLast? = some '\n') && globMatch pieces text.dropLast)

/-- The test of one entry in `host_bypasses_proxy`. -/
def engineMatches (entry : String) (host : String) : Bool :=
  let pattern := enginePattern characters entry
  if normalizeHost characters entry = "" then false
  else if '*' ∈ pattern ∨ '?' ∈ pattern then engineGlob characters pattern host.toList
  else decide (host.toList = pattern) || ('.' :: pattern).isSuffixOf host.toList

/-- `host_bypasses_proxy`. -/
def hostBypassesProxy (stored : List String) (host : String) : Bool :=
  let host := normalizeHost characters host
  if host = "" then false
  else (bypassEntries stored).any fun entry => engineMatches characters entry host

def replaceChar (char : Char) (replacement text : List Char) : List Char :=
  text.flatMap fun other => if other = char then replacement else [other]

/-- An entry as it stands between quotation marks in the script. -/
def quoted (entry : String) : List Char :=
  replaceChar '"' ['\\', '"'] (replaceChar '\\' ['\\', '\\'] entry.toList)

/-- The value of a string literal of the script. -/
def literalValue : List Char → List Char
  | [] => []
  | '\\' :: char :: rest => char :: literalValue rest
  | char :: rest => char :: literalValue rest

/-- The parts of the script that are not fixed. -/
structure Pac where
  direct : List (List Char)
  port : Nat

/-- `build_pac`. -/
def buildPac (stored : List String) (port : Nat) : Pac where
  direct := (bypassEntries stored).map quoted
  port

/-- `shExpMatch`. -/
def shExpMatch (text pattern : List Char) : Bool :=
  globMatch (compile '*' '?' (fun _ => true) (fun char other => decide (other = char)) pattern) text

/-- The test of one element of `direct` in the script. -/
def pacMatches (entry host : List Char) : Bool :=
  if '*' ∈ entry then shExpMatch host entry
  else decide (host = entry) || shExpMatch host ('*' :: '.' :: entry) ||
    (decide (':' ∈ host) && decide (host = '[' :: entry ++ [']']))

/-- `FindProxyForURL`. -/
def Pac.findProxyForUrl (pac : Pac) (host : String) : String :=
  if pac.direct.any fun literal => pacMatches (literalValue literal) host.toList then "DIRECT"
  else "PROXY 127.0.0.1:" ++ toString pac.port

end ProxyLauncher.Routing
