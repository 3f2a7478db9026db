import Mathlib

/-!
# The part of the Python library that the launcher relies on

White space and `str.strip` are written out.  `str.lower` and `urlsplit` are kept
as parameters: nothing the launcher promises depends on how they treat particular
characters, so every result holds for the real functions.
-/

namespace ProxyLauncher.Python

/-- `str.isspace` for one character. -/
def isSpace (char : Char) : Bool :=
  let code := char.toNat
  (9 ≤ code && code ≤ 13) || (28 ≤ code && code ≤ 32) || code == 0x85 || code == 0xa0 ||
    code == 0x1680 || (0x2000 ≤ code && code ≤ 0x200a) || code == 0x2028 ||
    code == 0x2029 || code == 0x202f || code == 0x205f || code == 0x3000

/-- `str.strip` without arguments. -/
def strip (text : String) : String :=
  .ofList ((text.toList.dropWhile isSpace).rdropWhile isSpace)

/-- `text.split(separator, 1)` for a text that contains the separator. -/
def splitOnce (separator : Char) (text : String) : Option (String × String) :=
  if separator ∈ text.toList then
    some (.ofList (text.toList.takeWhile fun char => char ≠ separator),
      .ofList (text.toList.dropWhile fun char => char ≠ separator).tail)
  else none

/-- `sys.get_int_max_str_digits()`. -/
def maxStrDigits : Nat := 4300

/-- The values of a `urlsplit` result that the launcher reads.  The port is computed
on access and raises `ValueError` when it is not a port number. -/
structure SplitResult where
  scheme : String
  hostname : Option String
  port : Except String (Option Nat)
  path : String
  query : String := ""
  fragment : String := ""
  username : Option String := none
  password : Option String := none
  deriving DecidableEq

/-- The library functions whose text is not modelled. -/
structure Runtime where
  lower : String → String
  urlsplit : String → Except String SplitResult

/-- A computation that may raise returns only if its first part does. -/
theorem bind_eq_ok {ε α β : Type} {first : Except ε α} {rest : α → Except ε β} {value : β} :
    (first >>= rest) = .ok value ↔ ∃ middle, first = .ok middle ∧ rest middle = .ok value := by
  cases first with
  | error error => simp [bind, Except.bind]
  | ok middle => simp [bind, Except.bind]

theorem ok_iff_toOption {ε α : Type} {result : Except ε α} {value : α} :
    result = .ok value ↔ result.toOption = some value := by
  cases result with
  | error error => simp [Except.toOption]
  | ok found => simp [Except.toOption]

theorem strip_strip (text : String) : strip (strip text) = strip text := by
  have front : ((text.toList.dropWhile isSpace).rdropWhile isSpace).dropWhile isSpace =
      (text.toList.dropWhile isSpace).rdropWhile isSpace := by
    cases shape : (text.toList.dropWhile isSpace).rdropWhile isSpace with
    | nil => rfl
    | cons head tail =>
        -- Trimming the end leaves the first character, which is not white space.
        have isPrefix : (head :: tail) <+: text.toList.dropWhile isSpace :=
          shape ▸ List.rdropWhile_prefix ..
        obtain ⟨rest, split⟩ := isPrefix
        have headEq : (text.toList.dropWhile isSpace).head? = some head := by
          rw [← split]; rfl
        have notSpace : ¬ isSpace head := by
          have := List.head?_dropWhile_not isSpace text.toList
          rw [headEq] at this
          simpa using this
        simp [notSpace]
  unfold strip
  rw [String.toList_ofList, front]
  congr 1
  exact List.rdropWhile_idempotent ..

/-- A text without white space stays as it is. -/
theorem strip_of_not_isSpace {text : String} (solid : ∀ char ∈ text.toList, isSpace char = false) :
    strip text = text := by
  have front : text.toList.dropWhile isSpace = text.toList := by
    rw [List.dropWhile_eq_self_iff]
    intro nonempty
    simp [solid _ (List.getElem_mem nonempty)]
  rw [strip, front, List.rdropWhile_eq_self_iff.mpr, String.ofList_toList]
  intro nonempty
  simp [solid _ (List.getLast_mem nonempty)]

@[simp] theorem strip_empty : strip "" = "" := by decide

/-- A text is split at its first separator. -/
theorem splitOnce_append {separator : Char} {front rest : String}
    (missing : separator ∉ front.toList) :
    splitOnce separator (front ++ .singleton separator ++ rest) = some (front, rest) := by
  have keep : ∀ char ∈ front.toList, decide (char ≠ separator) = true := by
    intro char member
    exact decide_eq_true fun same => missing (same ▸ member)
  have stop : decide (separator ≠ separator) = false := by simp
  rw [splitOnce]
  simp only [String.toList_append, String.toList_singleton, List.append_assoc,
    List.singleton_append]
  rw [if_pos (by simp), List.takeWhile_append_of_pos keep, List.dropWhile_append_of_pos keep,
    List.takeWhile_cons_of_neg (by simp), List.dropWhile_cons_of_neg (by simp), List.append_nil,
    List.tail_cons, String.ofList_toList, String.ofList_toList]

theorem notMem_of_splitOnce {separator : Char} {text front rest : String}
    (split : splitOnce separator text = some (front, rest)) : separator ∉ front.toList := by
  rw [splitOnce] at split
  split at split
  · obtain ⟨rfl, -⟩ := Prod.mk.inj (Option.some.inj split)
    rw [String.toList_ofList]
    intro member
    simpa using List.mem_takeWhile_imp member
  · exact absurd split (by simp)

/-- `json.dump(..., sort_keys=True)`: the entries of a dictionary by ascending key. -/
def sortKeys {α : Type} (entries : List (String × α)) : List (String × α) :=
  entries.insertionSort fun left right => left.1 ≤ right.1

theorem sortKeys_perm {α : Type} (entries : List (String × α)) :
    (sortKeys entries).Perm entries :=
  List.perm_insertionSort _ _

@[simp] theorem mem_sortKeys {α : Type} {entries : List (String × α)} {entry : String × α} :
    entry ∈ sortKeys entries ↔ entry ∈ entries :=
  (sortKeys_perm entries).mem_iff

@[simp] theorem sortKeys_eq_nil {α : Type} {entries : List (String × α)} :
    sortKeys entries = [] ↔ entries = [] := by
  rw [← List.length_eq_zero_iff, (sortKeys_perm entries).length_eq, List.length_eq_zero_iff]

/-- Looking a key up in a dictionary finds its only entry. -/
theorem lookup_of_mem {α : Type} {entries : List (String × α)} {key : String} {value : α}
    (distinct : (entries.map Prod.fst).Nodup) (member : (key, value) ∈ entries) :
    entries.lookup key = some value := by
  induction entries with
  | nil => simp at member
  | cons entry rest ih =>
      obtain ⟨head, first⟩ := entry
      rw [List.map_cons, List.nodup_cons] at distinct
      rcases List.mem_cons.mp member with same | later
      · obtain ⟨rfl, rfl⟩ := Prod.mk.inj same
        simp
      · have different : key ≠ head := by
          rintro rfl
          exact distinct.1 (List.mem_map.mpr ⟨_, later, rfl⟩)
        rw [List.lookup_cons, beq_false_of_ne different]
        exact ih distinct.2 later

theorem mem_of_lookup {α : Type} {entries : List (String × α)} {key : String} {value : α}
    (found : entries.lookup key = some value) : (key, value) ∈ entries := by
  obtain ⟨before, after, split, -⟩ := List.lookup_eq_some_iff.mp found
  simp [split]

end ProxyLauncher.Python
