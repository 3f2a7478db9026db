import ProxyLauncher.Routing.Identities
import ProxyLauncher.Routing.Policy

/-!
# Routing rules

A rule sends an application, or all of them, to some destinations directly or over the proxy.  Its
dictionary is stored and read again.
-/

namespace ProxyLauncher.Routing

open Python

inductive RoutingAction where
  | proxy
  | direct
deriving DecidableEq

inductive DestinationKind where
  | all
  | domain
  | cidr
deriving DecidableEq

def RoutingAction.value : RoutingAction → String
  | .proxy => "proxy"
  | .direct => "direct"

def DestinationKind.value : DestinationKind → String
  | .all => "all"
  | .domain => "domain"
  | .cidr => "cidr"

/-- `RoutingAction(value)`. -/
def routingAction : Json → Except Raised RoutingAction
  | .string "proxy" => .ok .proxy
  | .string "direct" => .ok .direct
  | _ => .error (.valueError "not a valid RoutingAction")

/-- `DestinationKind(value)`. -/
def destinationKind : Json → Except Raised DestinationKind
  | .string "all" => .ok .all
  | .string "domain" => .ok .domain
  | .string "cidr" => .ok .cidr
  | _ => .error (.valueError "not a valid DestinationKind")

def isAscii (text : String) : Bool :=
  text.toList.all fun char => char.toNat < 128

/-- The functions of the library.  `toAscii` is the `idna` codec on a text that is not ASCII, and
`ipNetwork` prints `ip_network(text, strict=False)`. -/
structure RuleLibrary where
  casing : Casing
  reading : Reading
  int : Json → Except Raised ℤ
  toAscii : String → Option String
  ipNetwork : String → Option String
  dumps : Json → String
  int_int : ∀ value, int (.int value) = .ok value
  lower_ascii : ∀ text, isAscii text = true → casing.lower text = asciiLower text
  toAscii_ascii : ∀ text name, toAscii text = some name → isAscii name = true
  toAscii_lower : ∀ text name, toAscii (casing.lower text) = some name → asciiLower name = name
  ipNetwork_self : ∀ text network, ipNetwork text = some network → ipNetwork network = some network
  ipNetwork_unpadded : ∀ text network, ipNetwork text = some network → strip network = network

variable (library : RuleLibrary)

/-- `name.split(".")`. -/
def domainLabels (name : String) : List (List Char) :=
  name.toList.splitOn '.'

/-- `name.encode("idna").decode("ascii")`. -/
def encodeIdna (name : String) : Except Raised String :=
  if name = "" then .ok ""
  else if isAscii name then
    if (domainLabels name).dropLast.all (fun label => 0 < label.length && label.length < 64) &&
        (domainLabels name).getLast?.all (fun label => label.length < 64) then .ok name
    else .error .unicodeError
  else (library.toAscii name).elim (.error .unicodeError) .ok

/-- The value of a domain selector. -/
def domainValue (raw : String) : Except Raised String := do
  let normalized ← encodeIdna library (library.casing.lower (rstripChar '.' raw))
  if normalized = "" ∨ normalized = "*" then throw (.valueError "invalid domain selector")
  else if (domainLabels normalized).any fun label => label = [] || 63 < label.length then
    throw (.valueError "invalid domain selector")
  else return normalized

/-- The value that a selector gets. -/
def selectorValue (kind : DestinationKind) (raw : String) : Except Raised String :=
  match kind with
  | .all => .ok "*"
  | .domain => domainValue library (strip raw)
  | .cidr =>
      (library.ipNetwork (strip raw)).elim (.error (.valueError "not an IPv4 or IPv6 network")) .ok

/-- A selector, whose value has been made of some text. -/
structure DestinationSelector where
  kind : DestinationKind
  value : String
  made : ∃ raw, selectorValue library kind raw = .ok value

/-- `DestinationSelector(kind, value)`. -/
def DestinationSelector.create (kind : DestinationKind) (raw : String) :
    Except Raised (DestinationSelector library) :=
  match made : selectorValue library kind raw with
  | .ok value => .ok ⟨kind, value, raw, made⟩
  | .error raised => .error raised

/-- `_RULE_ID.match`. -/
def isRuleId (text : String) : Bool :=
  let chars :=
    if text.toList.getLast? = some '\n' then text.toList.dropLast else text.toList
  chars.head?.any Char.isAlphanum && chars.length ≤ 64 &&
    chars.all fun char => char.isAlphanum || char = '.' || char = '_' || char = '-'

structure RoutingRule where
  ruleId : String
  action : RoutingAction
  destinations : List (DestinationSelector library)
  application : Option (ApplicationIdentity library.casing)
  priority : ℤ
  enabled : Bool
  description : String
  ruleId_valid : strip ruleId = ruleId ∧ isRuleId ruleId = true
  destinations_some : destinations ≠ []
  destinations_alone : (∃ selector ∈ destinations, selector.kind = .all) → destinations.length = 1
  priority_bounded : 0 ≤ priority ∧ priority ≤ 10000
  description_stripped : strip description = description

namespace RoutingRule

/-- `RoutingRule(...)`, of an action and selectors. -/
def create (ruleId : Json) (action : RoutingAction)
    (destinations : List (DestinationSelector library))
    (application : Option (ApplicationIdentity library.casing)) (priority enabled description : Json) :
    Except Raised (RoutingRule library) :=
  if ruleId_valid : isRuleId (strip (library.reading.strOrEmpty ruleId)) = true then
    if destinations_some : destinations ≠ [] then
      if destinations_alone : (∃ selector ∈ destinations, selector.kind = .all) →
          destinations.length = 1 then
        match library.int priority with
        | .error raised => .error raised
        | .ok priority =>
            if priority_bounded : 0 ≤ priority ∧ priority ≤ 10000 then
              .ok {
                ruleId := strip (library.reading.strOrEmpty ruleId)
                action
                destinations
                application
                priority
                enabled := library.reading.bool enabled
                description := strip (library.reading.strOrEmpty description)
                ruleId_valid := ⟨strip_strip _, ruleId_valid⟩
                destinations_some
                destinations_alone
                priority_bounded
                description_stripped := strip_strip _ }
            else .error (.valueError "routing rule priority out of range")
      else .error (.valueError "all destination cannot be combined with narrower selectors")
    else .error (.valueError "routing rule requires at least one destination")
  else .error (.valueError "invalid routing rule id")

variable {library} (rule : RoutingRule library)

def destinationDict (selector : DestinationSelector library) : Json :=
  .object [("kind", .string selector.kind.value), ("value", .string selector.value)]

def toDict : List (String × Json) :=
  [("schema_version", .int 1), ("rule_id", .string rule.ruleId),
    ("action", .string rule.action.value),
    ("destinations", .array (rule.destinations.map destinationDict)),
    ("application", (rule.application.map identityDict).getD .null),
    ("priority", .int rule.priority), ("enabled", .bool rule.enabled),
    ("description", .string rule.description)]

def canonicalJson : String :=
  library.dumps (.object rule.toDict)

variable (library)

def fromDestination : Json → Except Raised (DestinationSelector library)
  | .object entries => do
      let kind ← (entries.lookup "kind").elim (.error (.keyError "kind")) destinationKind
      let value := (entries.lookup "value").getD (.string "")
      DestinationSelector.create library kind (library.reading.strOrEmpty value)
  | _ => .error .typeError

def fromDestinationList : List Json → Except Raised (List (DestinationSelector library))
  | [] => .ok []
  | item :: items => do
      return (← fromDestination library item) :: (← fromDestinationList items)

/-- The selectors of `payload.get("destinations", ())`; the items of a text and of a dictionary are
no dictionaries. -/
def fromDestinations : Option Json → Except Raised (List (DestinationSelector library))
  | none => .ok []
  | some (.array items) => fromDestinationList library items
  | some (.object []) => .ok []
  | some (.string "") => .ok []
  | some _ => .error .typeError

/-- The application of a payload. -/
def fromApplication : Option Json →
    Except Raised (Option (ApplicationIdentity library.casing))
  | some (.object entries) =>
      (fromItem library.casing library.reading (.object entries)).map some
  | _ => .ok none

/-- `RoutingRule.from_dict`. -/
def fromDict (payload : List (String × Json)) : Except Raised (RoutingRule library) := do
  let version ← library.int ((payload.lookup "schema_version").getD (.int 0))
  if version ≠ 1 then throw (.valueError "unsupported routing rule schema")
  let application ← fromApplication library (payload.lookup "application")
  let destinations ← fromDestinations library (payload.lookup "destinations")
  let action ← routingAction ((payload.lookup "action").getD (.string ""))
  create library ((payload.lookup "rule_id").getD (.string "")) action destinations application
    ((payload.lookup "priority").getD (.int 100)) ((payload.lookup "enabled").getD (.bool true))
    ((payload.lookup "description").getD (.string ""))

end RoutingRule

end ProxyLauncher.Routing
