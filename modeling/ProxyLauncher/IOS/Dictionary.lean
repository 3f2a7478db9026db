import Mathlib

/-!
# Dictionaries

A dictionary with keys of text.  Its elements are listed in some order, each key once.
-/

namespace ProxyLauncher.IOS

/-- `[String: Value]`. -/
abbrev Dictionary (Value : Type) : Type := AList fun _ : String => Value

namespace Dictionary

variable {Value : Type} {dictionary : Dictionary Value} {key other : String} {value : Value}

/-- The elements, in some order. -/
def pairs (dictionary : Dictionary Value) : List (String × Value) :=
  dictionary.entries.map fun entry => (entry.1, entry.2)

def count (dictionary : Dictionary Value) : ℕ :=
  dictionary.entries.length

/-- `filter { key, value in … }`. -/
def filter (dictionary : Dictionary Value) (test : String → Value → Bool) : Dictionary Value where
  entries := dictionary.entries.filter fun entry => test entry.1 entry.2
  nodupKeys := dictionary.nodupKeys.sublist List.filter_sublist

/-- The number of values that pass the test. -/
def countValues (dictionary : Dictionary Value) (test : Value → Bool) : ℕ :=
  dictionary.entries.countP fun entry => test entry.2

theorem mem_pairs : (key, value) ∈ dictionary.pairs ↔ dictionary.lookup key = some value := by
  rw [← Option.mem_def, AList.mem_lookup_iff, pairs, List.mem_map]
  constructor
  · rintro ⟨⟨_, _⟩, there, same⟩
    obtain ⟨rfl, rfl⟩ := Prod.mk.inj same
    exact there
  · intro there
    exact ⟨_, there, rfl⟩

theorem lookup_filter {test : String → Value → Bool} :
    (dictionary.filter test).lookup key = some value ↔
      dictionary.lookup key = some value ∧ test key value = true := by
  rw [← Option.mem_def, ← Option.mem_def, AList.mem_lookup_iff, AList.mem_lookup_iff, filter,
    List.mem_filter]

theorem countValues_filter_le {test : String → Value → Bool} {counted : Value → Bool} :
    countValues (dictionary.filter test) counted ≤ dictionary.countValues counted :=
  List.filter_sublist.countP_le

theorem countValues_erase_le {counted : Value → Bool} :
    countValues (dictionary.erase key) counted ≤ dictionary.countValues counted :=
  (List.kerase_sublist key dictionary.entries).countP_le

theorem lookup_of_erase (found : (dictionary.erase key).lookup other = some value) :
    dictionary.lookup other = some value := by
  by_cases same : other = key
  · rw [same, AList.lookup_erase] at found
    exact absurd found (by simp)
  · rwa [AList.lookup_erase_ne same] at found

theorem countValues_insert {counted : Value → Bool} :
    countValues (dictionary.insert key value) counted =
      (if counted value = true then 1 else 0) + countValues (dictionary.erase key) counted := by
  rw [countValues, AList.entries_insert, List.countP_cons, Nat.add_comm]
  rfl

/-- Without an element, there is one less of its kind. -/
theorem countValues_erase {counted : Value → Bool}
    (found : dictionary.lookup key = some value) :
    dictionary.countValues counted =
      (if counted value = true then 1 else 0) + countValues (dictionary.erase key) counted := by
  have member := AList.mem_lookup_iff.mp (Option.mem_def.mpr found)
  obtain ⟨other, before, after, new, split, rest⟩ :=
    List.exists_of_kerase (List.mem_keys_of_mem member)
  have same : other = value := by
    have found' : dictionary.lookup key = some other := by
      rw [← Option.mem_def, AList.mem_lookup_iff, split]
      simp
    exact Option.some.inj (found'.symm.trans found)
  have erased : (AList.erase key dictionary).entries = before ++ after := rest
  rw [countValues, countValues, erased, split, List.countP_append, List.countP_cons,
    List.countP_append, same]
  simp only []
  omega

end Dictionary

end ProxyLauncher.IOS
