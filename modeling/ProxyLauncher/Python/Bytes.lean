import ProxyLauncher.Python.Runtime

/-!
# Byte strings

The methods of `bytes` and the numbers of `int` that a protocol handler relies on.
-/

namespace ProxyLauncher.Python

abbrev Bytes := List UInt8

/-- A `bytes` literal. -/
def ascii (text : String) : Bytes :=
  text.toList.map fun char => UInt8.ofNat char.toNat

/-- `text.encode()`. -/
def encodeUtf8 (text : String) : Bytes := text.toUTF8.data.toList

/-- `data.decode()`; `none` is a `UnicodeDecodeError`. -/
def decodeUtf8 (data : Bytes) : Option String := String.fromUTF8? ⟨data.toArray⟩

/-- `byte.lower()` for one byte. -/
def lowerByte (byte : UInt8) : UInt8 :=
  if 65 ≤ byte ∧ byte ≤ 90 then byte + 32 else byte

def crlf : Bytes := [13, 10]

/-- The data before and after the first occurrence of `separator`. -/
def cut (separator : Bytes) : Bytes → Option (Bytes × Bytes)
  | [] => if separator = [] then some ([], []) else none
  | byte :: rest =>
      if separator.isPrefixOf (byte :: rest) then
        some ([], (byte :: rest).drop separator.length)
      else (cut separator rest).map fun found => (byte :: found.1, found.2)

/-- `data.split(b"\r\n")`. -/
def splitCrlf : Bytes → List Bytes
  | [] => [[]]
  | 13 :: 10 :: rest => [] :: splitCrlf rest
  | byte :: rest =>
      match splitCrlf rest with
      | [] => [[byte]]
      | line :: lines => (byte :: line) :: lines

/-- `b"\r\n".join(lines)`. -/
def joinCrlf (lines : List Bytes) : Bytes := List.intercalate crlf lines

/-- `data.split()`. -/
def splitWhitespace (data : Bytes) : List Bytes :=
  (data.splitOnP fun byte => byte == 32 || (9 ≤ byte && byte ≤ 13)).filter fun part =>
    part ≠ []

theorem decodeUtf8_encodeUtf8 (text : String) : decodeUtf8 (encodeUtf8 text) = some text :=
  dif_pos text.isValidUTF8

theorem encodeUtf8_injective : Function.Injective encodeUtf8 := by
  intro text text' same
  exact Option.some.inj ((congrArg decodeUtf8 same ▸ decodeUtf8_encodeUtf8 text).symm.trans
    (decodeUtf8_encodeUtf8 text'))

variable {separator data front rest more : Bytes}

theorem eq_append_of_cut (found : cut separator data = some (front, rest)) :
    data = front ++ (separator ++ rest) := by
  induction data generalizing front with
  | nil =>
      rw [cut] at found
      split at found
      · obtain ⟨rfl, rfl⟩ := Prod.mk.inj (Option.some.inj found)
        simp_all
      · cases found
  | cons byte tail ih =>
      rw [cut] at found
      split at found
      · rename_i matched
        obtain ⟨rfl, rfl⟩ := Prod.mk.inj (Option.some.inj found)
        obtain ⟨after, whole⟩ := List.isPrefixOf_iff_prefix.mp matched
        rw [List.nil_append, ← whole, List.drop_left]
      · obtain ⟨⟨front', rest'⟩, inner, same⟩ := Option.map_eq_some_iff.mp found
        obtain ⟨rfl, rfl⟩ := Prod.mk.inj same
        rw [ih inner]
        rfl

theorem cut_isSome_iff : (cut separator data).isSome = true ↔ separator <:+: data := by
  induction data with
  | nil =>
      rw [cut]
      split
      · simp_all
      · simp_all
  | cons byte tail ih =>
      rw [cut]
      split
      · rename_i matched
        simpa using (List.isPrefixOf_iff_prefix.mp matched).isInfix
      · rename_i unmatched
        rw [Option.isSome_map, ih, List.infix_cons_iff, ← List.isPrefixOf_iff_prefix]
        simp [unmatched]

/-- What follows does not move the first occurrence. -/
theorem cut_append (found : cut separator data = some (front, rest)) (more : Bytes) :
    cut separator (data ++ more) = some (front, rest ++ more) := by
  induction data generalizing front with
  | nil =>
      rw [cut] at found
      split at found
      · rename_i empty
        obtain ⟨rfl, rfl⟩ := Prod.mk.inj (Option.some.inj found)
        subst empty
        cases more with
        | nil => rfl
        | cons => rfl
      · cases found
  | cons byte tail ih =>
      rw [cut] at found
      rw [List.cons_append, cut]
      split at found
      · rename_i matched
        obtain ⟨rfl, rfl⟩ := Prod.mk.inj (Option.some.inj found)
        have long := List.isPrefixOf_iff_prefix.mp matched
        rw [if_pos, ← List.cons_append, List.drop_append_of_le_length long.length_le]
        exact List.isPrefixOf_iff_prefix.mpr (long.trans (List.prefix_append _ more))
      · rename_i unmatched
        obtain ⟨⟨front', rest'⟩, inner, same⟩ := Option.map_eq_some_iff.mp found
        obtain ⟨rfl, rfl⟩ := Prod.mk.inj same
        have fits : separator.length ≤ (byte :: tail).length := by
          rw [eq_append_of_cut inner]
          simp
          omega
        rw [if_neg, ih inner]
        · rfl
        · intro matched
          refine unmatched (List.isPrefixOf_iff_prefix.mpr ?_)
          exact List.prefix_of_prefix_length_le (List.isPrefixOf_iff_prefix.mp matched)
            (List.prefix_append (byte :: tail) more) fits

/-- The value of a decimal digit; `decimal` has the digits outside ASCII. -/
def digit (decimal : Char → Option Nat) (char : Char) : Option Nat :=
  if '0' ≤ char ∧ char ≤ '9' then some (char.toNat - '0'.toNat)
  else if char.toNat < 128 then none
  else decimal char

/-- Digits after a first one, with single underscores between them. -/
def digitsFrom (decimal : Char → Option Nat) (value : Nat) : List Char → Option Nat
  | [] => some value
  | '_' :: char :: rest => do
      let next ← digit decimal char
      digitsFrom decimal (value * 10 + next) rest
  | char :: rest => do
      let next ← digit decimal char
      digitsFrom decimal (value * 10 + next) rest

def digits (decimal : Char → Option Nat) : List Char → Option Nat
  | [] => none
  | char :: rest => do
      let first ← digit decimal char
      digitsFrom decimal first rest

/-- Digits that are not too many to be converted. -/
def numeral (decimal : Char → Option Nat) (chars : List Char) : Option Nat :=
  if maxStrDigits < (chars.filter fun char => char ≠ '_').length then none
  else digits decimal chars

/-- Digits with an optional sign. -/
def signed (decimal : Char → Option Nat) : List Char → Option Int
  | '-' :: rest => (numeral decimal rest).map fun value => -(value : Int)
  | '+' :: rest => (numeral decimal rest).map fun value => (value : Int)
  | chars => (numeral decimal chars).map fun value => (value : Int)

/-- The white space that `int` takes off: the information separators are none of it. -/
def isIntSpace (char : Char) : Bool :=
  isSpace char && !(28 ≤ char.toNat && char.toNat ≤ 31)

/-- A text without the white space around its number. -/
def stripNumber (text : String) : List Char :=
  (text.toList.dropWhile isIntSpace).rdropWhile isIntSpace

/-- `int(text)`; `none` is a `ValueError`. -/
def parseInt (decimal : Char → Option Nat) (text : String) : Option Int :=
  signed decimal (stripNumber text)

/-- `int(data)` for bytes without white space. -/
def parseIntBytes (data : Bytes) : Option Int :=
  signed (fun _ => none) (data.map fun byte => Char.ofNat byte.toNat)

theorem stripNumber_of_not_isSpace {text : String}
    (solid : ∀ char ∈ text.toList, isSpace char = false) : stripNumber text = text.toList := by
  have other : ∀ char ∈ text.toList, ¬ isIntSpace char = true := by
    intro char member
    simp [isIntSpace, solid char member]
  rw [stripNumber, List.dropWhile_eq_self_iff.mpr, List.rdropWhile_eq_self_iff]
  · exact fun nonempty => other _ (List.getLast_mem nonempty)
  · exact fun nonempty => other _ (List.getElem_mem nonempty)

end ProxyLauncher.Python
