import ProxyLauncher.Python.JsonValues
import ProxyLauncher.Python.Lowering

/-!
# Redacted diagnostic values

The values of sensitive keys are not written to the diagnostic data.  A key is cut to 128
characters before it is tested.  `str.lower` and `redact_text` stay parameters.
-/

namespace ProxyLauncher.Redaction

open Python
open Texts (trim)

def redacted : String := "[REDACTED]"
def maxDepthMarker : String := "[MAX_DEPTH]"
def truncatedMarker : String := "[TRUNCATED]"

def sensitiveKeys : List String :=
  ["password", "passwd", "pwd", "passphrase", "secret", "secret_key", "client_secret", "token",
    "access_token", "refresh_token", "id_token", "session_token", "authorization",
    "proxy_authorization", "proxy_auth", "auth_token", "cookie", "set_cookie", "session",
    "session_id", "credential", "credentials", "credential_blob", "credentials_blob",
    "credentials_dpapi", "password_dpapi", "dpapi_blob", "pin", "private_key", "private_key_data",
    "api_key", "apikey", "x_api_key", "x_auth_token"]

def sensitiveSuffixes : List String :=
  ["password", "passwd", "passphrase", "secret", "secret_key", "token", "authorization", "cookie",
    "credential", "credentials", "pin", "private_key", "api_key", "apikey"]

/-- `[a-z0-9]`. -/
def keyChar (char : Char) : Bool :=
  char.isLower || char.isDigit

/-- `re.sub(r"([a-z0-9])([A-Z])", r"\1_\2", text)`. -/
def splitWords : List Char → List Char
  | [] => []
  | char :: chars =>
      if keyChar char && chars.head?.any Char.isUpper then char :: '_' :: splitWords chars
      else char :: splitWords chars

/-- `re.sub(r"[^a-z0-9]+", "_", text)`; the text is inside of a match or not. -/
def joinWords (inside : Bool) : List Char → List Char
  | [] => []
  | char :: chars =>
      if keyChar char then char :: joinWords false chars
      else if inside then joinWords true chars
      else '_' :: joinWords true chars

variable (lower : String → String)

/-- `_normalize_key`. -/
def normalizeKey (key : String) : String :=
  let text := lower (.ofList (splitWords key.toList))
  .ofList (trim (fun char => char = '_') (joinWords false text.toList))

/-- `is_sensitive_key`. -/
def isSensitiveKey (key : String) : Bool :=
  let normalized := normalizeKey lower key
  decide (normalized ∈ sensitiveKeys) || sensitiveSuffixes.any fun suffix =>
    ("_" ++ suffix).toList.isSuffixOf normalized.toList

/-- `_safe_text(key)[:128]`. -/
def keyText (key : String) : String :=
  .ofList (key.toList.take 128)

/-- The bounds of a traversal. -/
structure Limits where
  maxDepth : ℕ := 4
  maxItems : ℕ := 50

variable (redactText : String → String) (limits : Limits)

mutual

/-- `redact_value`. -/
def redactValue (depth : ℕ) (value : Json) : Json :=
  if limits.maxDepth ≤ depth then .string maxDepthMarker
  else
    match value with
    | .string text => .string (redactText text)
    | .object entries => .object (assigned [] (redactEntries depth limits.maxItems entries))
    | .array items => .array (redactItems depth limits.maxItems items)
    | value => value

/-- The assignments to `out` in the loop over a dictionary, with room for so many entries. -/
def redactEntries (depth : ℕ) : ℕ → List (String × Json) → List (String × Json)
  | _, [] => []
  | 0, _ :: _ => [("__truncated__", .bool true)]
  | room + 1, (key, item) :: entries =>
      (keyText key,
          if isSensitiveKey lower (keyText key) then .string redacted
          else redactValue (depth + 1) item) ::
        redactEntries depth room entries

/-- The items of a list, with room for so many. -/
def redactItems (depth : ℕ) : ℕ → List Json → List Json
  | _, [] => []
  | 0, _ :: _ => [.string truncatedMarker]
  | room + 1, item :: items => redactValue (depth + 1) item :: redactItems depth room items

end

mutual

/-- The values differ in what is stored under sensitive keys only. -/
def Alike : Json → Json → Prop
  | .object entries, .object others => AlikeEntries entries others
  | .array items, .array others => AlikeItems items others
  | value, other => value = other

def AlikeEntries : List (String × Json) → List (String × Json) → Prop
  | [], [] => True
  | (key, item) :: entries, (key', item') :: others =>
      key = key' ∧ (isSensitiveKey lower key = true ∨ Alike item item') ∧
        AlikeEntries entries others
  | _, _ => False

def AlikeItems : List Json → List Json → Prop
  | [], [] => True
  | item :: items, item' :: others => Alike item item' ∧ AlikeItems items others
  | _, _ => False

end

/-- The keys that are written in the loop over a dictionary. -/
def writtenKeys : ℕ → List (String × Json) → List String
  | _, [] => []
  | 0, _ :: _ => ["__truncated__"]
  | room + 1, entry :: entries => keyText entry.1 :: writtenKeys room entries

mutual

/-- The traversal reaches an entry with a sensitive key that it cuts to one that is not, above the
last level, and no later entry is written in its place. -/
def Exposed (depth : ℕ) : Json → Prop
  | .object entries => depth < limits.maxDepth ∧ ExposedEntries depth limits.maxItems entries
  | .array items => depth < limits.maxDepth ∧ ExposedItems depth limits.maxItems items
  | _ => False

def ExposedEntries (depth : ℕ) : ℕ → List (String × Json) → Prop
  | room + 1, (key, item) :: entries =>
      (keyText key ∉ writtenKeys room entries ∧ isSensitiveKey lower (keyText key) = false ∧
          (isSensitiveKey lower key = true ∧ depth + 1 < limits.maxDepth ∨
            Exposed (depth + 1) item)) ∨
        ExposedEntries depth room entries
  | _, _ => False

def ExposedItems (depth : ℕ) : ℕ → List Json → Prop
  | room + 1, item :: items => Exposed (depth + 1) item ∨ ExposedItems depth room items
  | _, _ => False

end

variable {lower : String → String} {redactText : String → String} {limits : Limits}
variable {depth room : ℕ} {entries others : List (String × Json)} {items otherItems : List Json}
variable {value other : Json}

theorem map_fst_redactEntries :
    (redactEntries lower redactText limits depth room entries).map Prod.fst =
      writtenKeys room entries := by
  induction entries generalizing room with
  | nil =>
      rw [redactEntries, writtenKeys]
      rfl
  | cons entry entries ih =>
      cases room with
      | zero => rfl
      | succ room =>
          rw [redactEntries, writtenKeys, List.map_cons, ih]

theorem writtenKeys_of_alike (alike : AlikeEntries lower entries others) :
    writtenKeys room entries = writtenKeys room others := by
  induction entries generalizing others room with
  | nil =>
      cases others with
      | nil => rfl
      | cons other others => cases alike
  | cons entry entries ih =>
      cases others with
      | nil => cases alike
      | cons other others =>
          cases room with
          | zero => rfl
          | succ room =>
              rw [AlikeEntries] at alike
              rw [writtenKeys, writtenKeys, alike.1, ih alike.2.2]

/-- The value of an entry in the redacted dictionary. -/
theorem redactEntries_cons (entry : String × Json) :
    redactEntries lower redactText limits depth (room + 1) (entry :: entries) =
      (keyText entry.1,
          if isSensitiveKey lower (keyText entry.1) = true then .string redacted
          else redactValue lower redactText limits (depth + 1) entry.2) ::
        redactEntries lower redactText limits depth room entries := by
  rw [redactEntries]

section Hidden

variable (redactText)

/-- The redaction of a value does not depend on its secrets. -/
def Hides (limits : Limits) (lower : String → String) (value : Json) : Prop :=
  ∀ depth other, ¬ Exposed lower limits depth value → Alike lower value other →
    redactValue lower redactText limits depth value =
      redactValue lower redactText limits depth other

variable {redactText}

/-- Below the last level nothing of a value is left. -/
theorem redactValue_of_le (deep : limits.maxDepth ≤ depth) (value : Json) :
    redactValue lower redactText limits depth value = .string maxDepthMarker := by
  cases value <;> exact if_pos deep

/-- An entry that is not exposed has the same value after a change of secrets. -/
theorem redactItem_of_hides {key : String} (hides : Hides redactText limits lower value)
    (cut : isSensitiveKey lower key = true → limits.maxDepth ≤ depth)
    (hidden : ¬ Exposed lower limits depth value)
    (alike : isSensitiveKey lower key = true ∨ Alike lower value other) :
    redactValue lower redactText limits depth value =
      redactValue lower redactText limits depth other := by
  rcases alike with sensitive | alike
  · rw [redactValue_of_le (cut sensitive), redactValue_of_le (cut sensitive)]
  · exact hides depth other hidden alike

theorem lastWrite_of_hides (each : ∀ entry ∈ entries, Hides redactText limits lower entry.2)
    (hidden : ¬ ExposedEntries lower limits depth room entries)
    (alike : AlikeEntries lower entries others) (key : String) :
    lastWrite key (redactEntries lower redactText limits depth room entries) =
      lastWrite key (redactEntries lower redactText limits depth room others) := by
  induction entries generalizing others room with
  | nil =>
      cases others with
      | nil => rfl
      | cons other others => cases alike
  | cons entry entries ih =>
      cases others with
      | nil => cases alike
      | cons other others =>
          cases room with
          | zero => rfl
          | succ room =>
              rw [List.forall_mem_cons] at each
              rw [AlikeEntries] at alike
              rw [ExposedEntries, not_or] at hidden
              have later := ih each.2 hidden.2 alike.2.2
              rw [redactEntries_cons, redactEntries_cons, lastWrite, lastWrite, later, ← alike.1]
              by_cases own : keyText entry.1 = key
              · rw [if_pos own, if_pos own]
                by_cases again : key ∈ writtenKeys room others
                · rw [← @map_fst_redactEntries lower redactText limits depth] at again
                  obtain ⟨value, found⟩ := Option.isSome_iff_exists.mp (isSome_lastWrite.mpr again)
                  rw [found, Option.some_or, Option.some_or]
                · cases cut : isSensitiveKey lower (keyText entry.1) with
                  | true => rfl
                  | false =>
                      rw [← own, ← writtenKeys_of_alike alike.2.2] at again
                      have unexposed := not_or.mp fun exposed => hidden.1 ⟨again, cut, exposed⟩
                      rw [not_and, not_lt] at unexposed
                      rw [redactItem_of_hides each.1 unexposed.1 unexposed.2 alike.2.1]
              · rw [if_neg own, if_neg own]

theorem redactItems_of_hides (each : ∀ item ∈ items, Hides redactText limits lower item)
    (hidden : ¬ ExposedItems lower limits depth room items)
    (alike : AlikeItems lower items otherItems) :
    redactItems lower redactText limits depth room items =
      redactItems lower redactText limits depth room otherItems := by
  induction items generalizing otherItems room with
  | nil =>
      cases otherItems with
      | nil => rfl
      | cons other others => cases alike
  | cons item items ih =>
      cases otherItems with
      | nil => cases alike
      | cons other others =>
          cases room with
          | zero => rfl
          | succ room =>
              rw [List.forall_mem_cons] at each
              rw [AlikeItems] at alike
              rw [ExposedItems, not_or] at hidden
              rw [redactItems, redactItems, each.1 _ _ hidden.1 alike.1, ih each.2 hidden.2 alike.2]

/-- A value that does not expose its secrets hides them. -/
theorem hides (value : Json) : Hides redactText limits lower value := by
  induction value using Json.induct with
  | null => exact fun depth other _ alike => congrArg _ alike
  | bool value => exact fun depth other _ alike => congrArg _ alike
  | int value => exact fun depth other _ alike => congrArg _ alike
  | float text => exact fun depth other _ alike => congrArg _ alike
  | string text => exact fun depth other _ alike => congrArg _ alike
  | array items each =>
      intro depth other hidden alike
      cases other with
      | array others =>
          rw [Alike] at alike
          rw [Exposed, not_and] at hidden
          by_cases deep : limits.maxDepth ≤ depth
          · rw [redactValue_of_le deep, redactValue_of_le deep]
          · rw [redactValue, redactValue, if_neg deep, if_neg deep,
              redactItems_of_hides each (hidden (not_le.mp deep)) alike]
      | _ => cases alike
  | object entries each =>
      intro depth other hidden alike
      cases other with
      | object others =>
          rw [Alike] at alike
          rw [Exposed, not_and] at hidden
          by_cases deep : limits.maxDepth ≤ depth
          · rw [redactValue_of_le deep, redactValue_of_le deep]
          · have keys : (redactEntries lower redactText limits depth limits.maxItems entries).map
                Prod.fst = (redactEntries lower redactText limits depth limits.maxItems
                  others).map Prod.fst := by
              rw [map_fst_redactEntries, map_fst_redactEntries, writtenKeys_of_alike alike]
            rw [redactValue, redactValue, if_neg deep, if_neg deep, (assigned_eq_iff keys).mpr
              (lastWrite_of_hides each (hidden (not_le.mp deep)) alike)]
      | _ => cases alike

end Hidden

section Revealed

variable (redactText)

variable {redactText}

end Revealed

end ProxyLauncher.Redaction
