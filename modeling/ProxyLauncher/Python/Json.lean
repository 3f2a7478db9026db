import ProxyLauncher.Python.Runtime

/-!
# JSON values

What `json.load` returns: Python numbers, strings, lists and dictionaries.  A dictionary is
the list of its entries, each key once.  A floating point number is its text.  A surrogate that is
not part of a pair is no character here: a string has the replacement character in its place.
-/

namespace ProxyLauncher.Python

inductive Json where
  | null
  | bool (value : Bool)
  | int (value : Int)
  | float (text : String)
  | string (value : String)
  | array (values : List Json)
  | object (entries : List (String × Json))

/-- `part in text` for two strings. -/
def isIn (part text : String) : Bool :=
  decide (part.toList <:+: text.toList)

/-- `text.startswith(start)`. -/
def startsWith (start text : String) : Bool :=
  start.toList.isPrefixOf text.toList

/-- `", ".join(sorted(set(entries) - allowed))`, the keys that a dictionary should not have. -/
def unknownKeys (allowed : List String) (entries : List (String × Json)) : List String :=
  ((entries.map Prod.fst).filter fun key => decide (key ∉ allowed)).insertionSort (· ≤ ·)

theorem unknownKeys_eq_nil {allowed : List String} {entries : List (String × Json)}
    (known : ∀ entry ∈ entries, entry.1 ∈ allowed) : unknownKeys allowed entries = [] := by
  have none : (entries.map Prod.fst).filter (fun key => decide (key ∉ allowed)) = [] := by
    simp only [List.filter_eq_nil_iff, List.mem_map, decide_eq_true_eq, not_not]
    rintro key ⟨entry, member, rfl⟩
    exact known entry member
  rw [unknownKeys, none]
  rfl

end ProxyLauncher.Python
