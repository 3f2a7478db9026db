import ProxyLauncher.Python.Bytes
import ProxyLauncher.Python.JsonText

/-!
# Universally unique identifiers

`str(uuid.UUID(value))`, with the hexadecimal numbers that it reads and writes.  A text that
was written once is written again as it is.
-/

namespace ProxyLauncher.Python

/-- The value of a digit; `decimal` has the decimal digits outside ASCII. -/
def hexDigit (decimal : Char → Option Nat) (char : Char) : Option Nat :=
  if char.toNat < 128 then hexValue char else decimal char

/-- Digits after a first one, with single underscores between them. -/
def hexDigitsFrom (decimal : Char → Option Nat) (value : Nat) : List Char → Option Nat
  | [] => some value
  | '_' :: char :: rest => do
      let next ← hexDigit decimal char
      hexDigitsFrom decimal (value * 16 + next) rest
  | char :: rest => do
      let next ← hexDigit decimal char
      hexDigitsFrom decimal (value * 16 + next) rest

def hexDigits (decimal : Char → Option Nat) : List Char → Option Nat
  | [] => none
  | char :: rest => do
      let first ← hexDigit decimal char
      hexDigitsFrom decimal first rest

/-- Digits with an optional `0x`, which an underscore may follow. -/
def hexPrefixed (decimal : Char → Option Nat) : List Char → Option Nat
  | '0' :: 'x' :: '_' :: rest => hexDigits decimal rest
  | '0' :: 'X' :: '_' :: rest => hexDigits decimal rest
  | '0' :: 'x' :: rest => hexDigits decimal rest
  | '0' :: 'X' :: rest => hexDigits decimal rest
  | chars => hexDigits decimal chars

/-- `int(text, 16)`; `none` is a `ValueError`. -/
def parseHex (decimal : Char → Option Nat) (text : String) : Option Int :=
  match stripNumber text with
  | '-' :: rest => (hexPrefixed decimal rest).map fun value => -(value : Int)
  | '+' :: rest => (hexPrefixed decimal rest).map fun value => (value : Int)
  | chars => (hexPrefixed decimal chars).map fun value => (value : Int)

/-- The last digits of a number, most significant first. -/
def hexText : Nat → Nat → List Char
  | 0, _ => []
  | width + 1, value => hexText width (value / 16) ++ [Nat.digitChar (value % 16)]

/-- `text.replace(part, "")` for a part that is not empty. -/
def removeAll (part : List Char) : List Char → List Char
  | [] => []
  | char :: rest =>
      if part.isPrefixOf (char :: rest) then removeAll part (rest.drop (part.length - 1))
      else char :: removeAll part rest
termination_by text => text.length

/-- The digits that `uuid.UUID` finds in a text. -/
def uuidDigits (text : String) : List Char :=
  let plain := removeAll "uuid:".toList (removeAll "urn:".toList text.toList)
  let isBrace (char : Char) := char == '\x7b' || char == '\x7d'
  ((plain.dropWhile isBrace).rdropWhile isBrace).filter fun char => char ≠ '-'

/-- `UUID.__str__`. -/
def formatUuid (value : Nat) : String :=
  let hex := hexText 32 value
  .ofList (hex.take 8 ++ '-' :: (hex.drop 8).take 4 ++ '-' :: (hex.drop 12).take 4 ++
    '-' :: (hex.drop 16).take 4 ++ '-' :: hex.drop 20)

/-- `str(uuid.UUID(text))`; `none` is a `ValueError`. -/
def uuidText (decimal : Char → Option Nat) (text : String) : Option String :=
  let digits := uuidDigits text
  if digits.length ≠ 32 then none
  else
    match parseHex decimal (.ofList digits) with
    | none => none
    | some value => if value < 0 ∨ 2 ^ 128 ≤ value then none else some (formatUuid value.toNat)

/-- A hexadecimal digit in lower case. -/
def isLowerHex (char : Char) : Bool :=
  ('0'.toNat ≤ char.toNat && char.toNat ≤ '9'.toNat) ||
    ('a'.toNat ≤ char.toNat && char.toNat ≤ 'f'.toNat)

variable {decimal : Char → Option Nat} {digits : List Nat} {chars : List Char} {char : Char}

theorem isLowerHex_digitChar {digit : Nat} (small : digit < 16) :
    isLowerHex (Nat.digitChar digit) = true := by
  have every : ∀ digit : Fin 16, isLowerHex (Nat.digitChar digit) = true := by decide
  exact every ⟨digit, small⟩

theorem exists_digitChar (lower : isLowerHex char = true) :
    ∃ digit < 16, Nat.digitChar digit = char := by
  have bounds : 48 ≤ char.toNat ∧ char.toNat ≤ 57 ∨ 97 ≤ char.toNat ∧ char.toNat ≤ 102 := by
    simpa [isLowerHex] using lower
  have code : ∀ digit : Fin 16, (Nat.digitChar digit).toNat =
      if digit.val < 10 then 48 + digit.val else 87 + digit.val := by decide
  rcases bounds with ⟨least, most⟩ | ⟨least, most⟩
  · have known := code ⟨char.toNat - 48, by omega⟩
    rw [if_pos (by simp; omega)] at known
    exact ⟨char.toNat - 48, by omega, Char.toNat_inj.mp (by simp at known ⊢; omega)⟩
  · have known := code ⟨char.toNat - 87, by omega⟩
    rw [if_neg (by simp; omega)] at known
    exact ⟨char.toNat - 87, by omega, Char.toNat_inj.mp (by simp at known ⊢; omega)⟩

/-- Digits in lower case are those of some numbers. -/
theorem exists_map_digitChar (lower : ∀ char ∈ chars, isLowerHex char = true) :
    ∃ digits : List Nat, (∀ digit ∈ digits, digit < 16) ∧ digits.map Nat.digitChar = chars := by
  induction chars with
  | nil => exact ⟨[], by simp, rfl⟩
  | cons char chars ih =>
      obtain ⟨first, others⟩ := List.forall_mem_cons.mp lower
      obtain ⟨digit, small, rfl⟩ := exists_digitChar first
      obtain ⟨digits, every, rfl⟩ := ih others
      exact ⟨digit :: digits, List.forall_mem_cons.mpr ⟨small, every⟩, rfl⟩

/-- The number with the given digits, after those that were read. -/
def fromDigits (value : Nat) (digits : List Nat) : Nat :=
  digits.foldl (fun value digit => value * 16 + digit) value

theorem fromDigits_lt (small : ∀ digit ∈ digits, digit < 16) (value : Nat) :
    fromDigits value digits < (value + 1) * 16 ^ digits.length := by
  induction digits generalizing value with
  | nil => simp [fromDigits]
  | cons digit digits ih =>
      obtain ⟨first, others⟩ := List.forall_mem_cons.mp small
      calc fromDigits value (digit :: digits) = fromDigits (value * 16 + digit) digits := rfl
        _ < (value * 16 + digit + 1) * 16 ^ digits.length := ih others _
        _ ≤ ((value + 1) * 16) * 16 ^ digits.length := by gcongr; omega
        _ = (value + 1) * 16 ^ (digit :: digits).length := by
          rw [List.length_cons, pow_succ]
          ring

theorem hexText_fromDigits (small : ∀ digit ∈ digits, digit < 16) :
    hexText digits.length (fromDigits 0 digits) = digits.map Nat.digitChar := by
  induction digits using List.reverseRecOn with
  | nil => rfl
  | append_singleton digits digit ih =>
      have last : digit < 16 := small digit (by simp)
      have value : fromDigits 0 (digits ++ [digit]) = fromDigits 0 digits * 16 + digit := by
        simp [fromDigits]
      have front : (fromDigits 0 digits * 16 + digit) / 16 = fromDigits 0 digits := by omega
      have back : (fromDigits 0 digits * 16 + digit) % 16 = digit := by omega
      rw [List.length_append, List.length_singleton, hexText, value, front, back,
        ih fun digit member => small digit (by simp [member]), List.map_append]
      rfl

/-- Characters that are no digits are different from digits. -/
theorem ne_of_isLowerHex {other : Char} (lower : isLowerHex char = true)
    (different : isLowerHex other = false) : char ≠ other := by
  rintro rfl
  cases lower.symm.trans different

theorem hexDigit_digitChar {digit : Nat} (small : digit < 16) :
    hexDigit decimal (Nat.digitChar digit) = some digit := by
  have ascii : ∀ digit : Fin 16, (Nat.digitChar digit).toNat < 128 := by decide
  rw [hexDigit, if_pos (ascii ⟨digit, small⟩), hexValue_digitChar small]

theorem hexDigitsFrom_cons {rest : List Char} (number : char ≠ '_') (value : Nat) :
    hexDigitsFrom decimal value (char :: rest) =
      (hexDigit decimal char).bind fun next => hexDigitsFrom decimal (value * 16 + next) rest := by
  rw [hexDigitsFrom]
  · rfl
  · rintro _ _ rfl
    exact absurd rfl number

theorem hexDigitsFrom_digits (small : ∀ digit ∈ digits, digit < 16) (value : Nat) :
    hexDigitsFrom decimal value (digits.map Nat.digitChar) = some (fromDigits value digits) := by
  induction digits generalizing value with
  | nil => rfl
  | cons digit digits ih =>
      obtain ⟨first, others⟩ := List.forall_mem_cons.mp small
      rw [List.map_cons, hexDigitsFrom_cons (ne_of_isLowerHex (isLowerHex_digitChar first) (by decide)),
        hexDigit_digitChar first, Option.bind_some, ih others]
      rfl

theorem parseHex_digits (small : ∀ digit ∈ digits, digit < 16) (nonempty : digits ≠ []) :
    parseHex decimal (.ofList (digits.map Nat.digitChar)) = some (fromDigits 0 digits : Int) := by
  obtain ⟨digit, digits, rfl⟩ := List.exists_cons_of_ne_nil nonempty
  obtain ⟨first, others⟩ := List.forall_mem_cons.mp small
  have lower : ∀ char ∈ (digit :: digits).map Nat.digitChar, isLowerHex char = true := by
    intro char member
    obtain ⟨number, known, rfl⟩ := List.mem_map.mp member
    exact isLowerHex_digitChar (small number known)
  have solid : ∀ char ∈ (String.ofList ((digit :: digits).map Nat.digitChar)).toList,
      isSpace char = false := by
    intro char member
    rw [String.toList_ofList] at member
    obtain ⟨number, bound, rfl⟩ := exists_digitChar (lower char member)
    have every : ∀ digit : Fin 16, isSpace (Nat.digitChar digit) = false := by decide
    exact every ⟨number, bound⟩
  have read : hexDigits decimal ((digit :: digits).map Nat.digitChar) =
      some (fromDigits 0 (digit :: digits)) := by
    rw [List.map_cons, hexDigits, hexDigit_digitChar first, Option.bind_eq_bind, Option.bind_some,
      hexDigitsFrom_digits others]
    simp [fromDigits]
  have plain : hexPrefixed decimal ((digit :: digits).map Nat.digitChar) =
      some (fromDigits 0 (digit :: digits)) := by
    have second (other : Char) (different : isLowerHex other = false) (rest : List Char) :
        (digit :: digits).map Nat.digitChar ≠ '0' :: other :: rest := by
      intro same
      exact ne_of_isLowerHex (lower other (by rw [same]; simp)) different rfl
    rw [hexPrefixed, read]
    · exact fun rest => second 'x' (by decide) _
    · exact fun rest => second 'X' (by decide) _
    · exact fun rest => second 'x' (by decide) _
    · exact fun rest => second 'X' (by decide) _
  have head {other : Char} (different : isLowerHex other = false) :
      Nat.digitChar digit ≠ other := ne_of_isLowerHex (isLowerHex_digitChar first) different
  rw [parseHex, stripNumber_of_not_isSpace solid, String.toList_ofList]
  split
  · rename_i same
    exact absurd (List.cons.inj same).1 (head (by decide))
  · rename_i same
    exact absurd (List.cons.inj same).1 (head (by decide))
  · rw [plain]
    rfl

/-- Five groups of digits in lower case, with hyphens between them. -/
structure IsUuidText (text : String) : Prop where
  groups : ∃ first second third fourth fifth,
    text.toList = first ++ '-' :: second ++ '-' :: third ++ '-' :: fourth ++ '-' :: fifth ∧
    (first.length = 8 ∧ second.length = 4 ∧ third.length = 4 ∧ fourth.length = 4 ∧
      fifth.length = 12) ∧
    ∀ char ∈ first ++ second ++ third ++ fourth ++ fifth, isLowerHex char = true

theorem removeAll_of_notMem {part : List Char} (within : char ∈ part) (missing : char ∉ chars) :
    removeAll part chars = chars := by
  induction chars with
  | nil => rw [removeAll]
  | cons head chars ih =>
      rw [removeAll, if_neg, ih fun member => missing (List.mem_cons_of_mem _ member)]
      intro found
      exact missing ((List.isPrefixOf_iff_prefix.mp found).subset within)

theorem uuidText_of_isUuidText {text : String} (shape : IsUuidText text) :
    uuidText decimal text = some text := by
  obtain ⟨first, second, third, fourth, fifth, whole, lengths, lower⟩ := shape.groups
  have members : ∀ char ∈ text.toList, char = '-' ∨ isLowerHex char = true := by
    intro char member
    rw [whole] at member
    simp only [List.mem_append, List.mem_cons] at member lower
    have := lower char
    tauto
  have missing {other : Char} (hyphen : '-' ≠ other) (different : isLowerHex other = false) :
      other ∉ text.toList := by
    intro member
    rcases members other member with same | digit
    · exact hyphen same.symm
    · cases digit.symm.trans different
  have keep {group : List Char} (within : ∀ char ∈ group, isLowerHex char = true) :
      group.filter (fun char => char ≠ '-') = group := by
    rw [List.filter_eq_self]
    intro char member
    exact decide_eq_true (ne_of_isLowerHex (within char member) (by decide))
  have found : uuidDigits text = first ++ second ++ third ++ fourth ++ fifth := by
    have noColon : ':' ∉ text.toList := missing (by decide) (by decide)
    have unchanged (part : List Char) (within : ':' ∈ part) :
        removeAll part text.toList = text.toList := removeAll_of_notMem within noColon
    have noBrace : ∀ char ∈ text.toList,
        ¬ (char == '\x7b' || char == '\x7d') = true := by
      intro char member brace
      simp only [Bool.or_eq_true, beq_iff_eq] at brace
      rcases brace with rfl | rfl
      · exact missing (by decide) (by decide) member
      · exact missing (by decide) (by decide) member
    rw [uuidDigits, unchanged _ (by decide), unchanged _ (by decide), List.dropWhile_eq_self_iff.mpr
        (fun nonempty => noBrace _ (List.getElem_mem nonempty)), List.rdropWhile_eq_self_iff.mpr
        (fun nonempty => noBrace _ (List.getLast_mem nonempty)), whole]
    have drop (rest : List Char) :
        ('-' :: rest).filter (fun char => char ≠ '-') = rest.filter fun char => char ≠ '-' := rfl
    simp only [List.mem_append] at lower
    simp only [List.append_assoc, List.cons_append, List.filter_append, drop]
    rw [keep fun char member => lower char (by tauto), keep fun char member => lower char (by tauto),
      keep fun char member => lower char (by tauto), keep fun char member => lower char (by tauto),
      keep fun char member => lower char (by tauto)]
  obtain ⟨numbers, small, same⟩ := exists_map_digitChar lower
  have count : numbers.length = 32 := by
    have total := congrArg List.length same
    simp only [List.length_map, List.length_append] at total
    omega
  have read := @parseHex_digits decimal numbers small (by rintro rfl; cases count)
  have bound := fromDigits_lt small 0
  have text' := hexText_fromDigits small
  rw [count] at bound text'
  rw [uuidText, found, ← same]
  rw [List.length_map, count, if_neg (by simp), read]
  dsimp only
  rw [if_neg (by omega), Int.toNat_natCast, formatUuid, text', same]
  rw [← @String.ofList_toList text, whole]
  obtain ⟨eight, four, four', four'', -⟩ := lengths
  simp (disch := omega) [List.drop_append, List.drop_eq_nil_of_le, eight, four, four']

end ProxyLauncher.Python
