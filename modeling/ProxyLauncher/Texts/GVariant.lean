import ProxyLauncher.Python.Repr

/-!
# Strings in the text format of GVariant

A string is between two quotation marks of one kind.  The format has the escapes of C, but those by
number in octal and hexadecimal: a backslash before any other character stands for that character.
-/

namespace ProxyLauncher.Texts.GVariant

open Python

/-- The control character that a letter stands for after a backslash. -/
def control (letter : Char) : Option Char :=
  if letter = 'a' then some (.ofNat 7)
  else if letter = 'b' then some (.ofNat 8)
  else if letter = 'f' then some (.ofNat 12)
  else if letter = 'n' then some '\n'
  else if letter = 'r' then some '\r'
  else if letter = 't' then some '\t'
  else if letter = 'v' then some (.ofNat 11)
  else none

/-- The character stands for itself after a backslash. -/
def Literal (char : Char) : Prop :=
  control char = none ∧ char ≠ 'u' ∧ char ≠ 'U' ∧ char ≠ '\n'

instance (char : Char) : Decidable (Literal char) :=
  inferInstanceAs (Decidable (_ ∧ _))

/-- What is between two quotation marks, and what it stands for. -/
inductive Spells (quotation : Char) : List Char → List Char → Prop where
  | nil : Spells quotation [] []
  | plain {char : Char} {text value : List Char} (mark : char ≠ quotation)
      (backslash : char ≠ '\\') (rest : Spells quotation text value) :
      Spells quotation (char :: text) (char :: value)
  | control {letter char : Char} {text value : List Char} (known : control letter = some char)
      (rest : Spells quotation text value) :
      Spells quotation ('\\' :: letter :: text) (char :: value)
  | literal {char : Char} {text value : List Char} (literal : Literal char)
      (rest : Spells quotation text value) :
      Spells quotation ('\\' :: char :: text) (char :: value)
  | short {char : Char} {text value : List Char} (small : char.toNat < 0x10000)
      (positive : 0 < char.toNat) (rest : Spells quotation text value) :
      Spells quotation (unicodeEscape char.toNat ++ text) (char :: value)
  | long {char : Char} {text value : List Char} (positive : 0 < char.toNat)
      (rest : Spells quotation text value) :
      Spells quotation (longEscape char.toNat ++ text) (char :: value)

/-- The text is a string with the given value. -/
def Denotes (text value : String) : Prop :=
  ∃ quotation body, (quotation = '\'' ∨ quotation = '"') ∧
    text.toList = quotation :: body ++ [quotation] ∧ Spells quotation body value.toList

/-- A character that is written as `\xXX` is read as that escape without its backslash. -/
def mangleChar (char : Char) : List Char :=
  if HexEscaped char then (hexEscape char.toNat).drop 1 else [char]

def mangle (text : String) : String :=
  .ofList (text.toList.flatMap mangleChar)

/-- No character of the text is written as `\xXX`. -/
def Plain (text : String) : Prop :=
  ∀ char ∈ text.toList, ¬ HexEscaped char

instance (text : String) : Decidable (Plain text) :=
  decidable_of_iff ((text.toList.all fun char => !decide (HexEscaped char)) = true)
    (by simp [Plain])

theorem flatMap_mangleChar_of_plain {chars : List Char}
    (plain : ∀ char ∈ chars, ¬ HexEscaped char) : chars.flatMap mangleChar = chars := by
  induction chars with
  | nil => rfl
  | cons char rest ih =>
      obtain ⟨first, others⟩ := List.forall_mem_cons.mp plain
      rw [List.flatMap_cons, mangleChar, if_neg first, ih others, List.singleton_append]

theorem mangle_of_plain {text : String} (plain : Plain text) : mangle text = text := by
  rw [mangle, flatMap_mangleChar_of_plain plain, String.ofList_toList]

theorem digitChar_ordinary {digit : Nat} (small : digit < 16) :
    Nat.digitChar digit ≠ '\'' ∧ Nat.digitChar digit ≠ '"' ∧ Nat.digitChar digit ≠ '\\' := by
  have every : ∀ digit : Fin 16, Nat.digitChar digit ≠ '\'' ∧ Nat.digitChar digit ≠ '"' ∧
      Nat.digitChar digit ≠ '\\' := by decide
  exact every ⟨digit, small⟩

section Reading

variable {printable : Char → Bool} {quotation char : Char} {text value : List Char}

theorem Spells.hexEscape (known : quotation = '\'' ∨ quotation = '"') (code : Nat)
    (rest : Spells quotation text value) :
    Spells quotation (hexEscape code ++ text) ((Python.hexEscape code).drop 1 ++ value) := by
  have digit {digit : Nat} (small : digit < 16) :
      Nat.digitChar digit ≠ quotation ∧ Nat.digitChar digit ≠ '\\' := by
    obtain ⟨apostrophe, mark, backslash⟩ := digitChar_ordinary small
    rcases known with rfl | rfl
    · exact ⟨apostrophe, backslash⟩
    · exact ⟨mark, backslash⟩
  have first := digit (Nat.mod_lt (code / 16) (by decide : 0 < 16))
  have second := digit (Nat.mod_lt code (by decide : 0 < 16))
  exact .literal (by decide) (.plain first.1 first.2 (.plain second.1 second.2 rest))

/-- A character of a literal of Python is read as its mangled form. -/
theorem Spells.reprChar (known : quotation = '\'' ∨ quotation = '"')
    (rest : Spells quotation text value) :
    Spells quotation (reprChar printable quotation char ++ text) (mangleChar char ++ value) := by
  have kept (other : ¬ HexEscaped char) : mangleChar char = [char] := if_neg other
  unfold Python.reprChar
  dsimp only
  split_ifs with escaped tab newline return' plain latin small
  · have itself : Literal char ∧ ¬ HexEscaped char := by
      rcases escaped with rfl | rfl
      · rcases known with rfl | rfl <;> decide
      · decide
    rw [kept itself.2]
    exact .literal itself.1 rest
  · obtain rfl := tab
    exact .control (show GVariant.control 't' = some '\t' by decide) rest
  · obtain rfl := newline
    exact .control (show GVariant.control 'n' = some '\n' by decide) rest
  · obtain rfl := return'
    exact .control (show GVariant.control 'r' = some '\r' by decide) rest
  · have other : ¬ HexEscaped char := by
      rintro ⟨hidden, -⟩
      by_cases latin : char.toNat < 0x100
      · rw [isPrintable_eq latin, hidden] at plain
        cases plain
      · rw [isPrintable_of_le (not_lt.mp latin)] at hidden
        cases hidden
    rw [not_or] at escaped
    rw [kept other]
    exact .plain escaped.1 escaped.2 rest
  · have hidden : HexEscaped char := by
      rw [isPrintable_eq latin, Bool.not_eq_true] at plain
      exact ⟨plain, tab, newline, return'⟩
    rw [mangleChar, if_pos hidden]
    exact .hexEscape known char.toNat rest
  · rw [kept fun hidden => absurd (isPrintable_of_le (not_lt.mp latin)) (by simp [hidden.1])]
    exact .short small (by omega) rest
  · rw [kept fun hidden => absurd (isPrintable_of_le (not_lt.mp latin)) (by simp [hidden.1])]
    exact .long (by omega) rest

/-- What is read of `repr`. -/
theorem denotes_repr (printable : Char → Bool) (text : String) :
    Denotes (repr printable text) (mangle text) := by
  have known := quotationOf_eq text.toList
  refine ⟨quotationOf text.toList, _, known, String.toList_ofList, ?_⟩
  rw [mangle, String.toList_ofList]
  generalize quotationOf text.toList = quotation at known ⊢
  induction text.toList with
  | nil => exact .nil
  | cons char rest ih => exact .reprChar known ih

end Reading

/-- A character that is not NUL. -/
def readCode (code : Nat) : Option Char :=
  if code = 0 then none else some (.ofNat code)

/-- A reader of what is between the quotation marks. -/
def readBody (quotation : Char) : List Char → Option (List Char)
  | [] => some []
  | '\\' :: 'u' :: first :: second :: third :: fourth :: rest => do
      let char ← readCode (← hexUnit first second third fourth)
      return char :: (← readBody quotation rest)
  | '\\' :: 'U' :: first :: second :: third :: fourth :: fifth :: sixth :: seventh :: eighth ::
      rest => do
      let high ← hexUnit first second third fourth
      let low ← hexUnit fifth sixth seventh eighth
      let char ← readCode (high * 65536 + low)
      return char :: (← readBody quotation rest)
  | '\\' :: '\n' :: rest => readBody quotation rest
  | '\\' :: char :: rest =>
      if char = 'u' ∨ char = 'U' then none
      else do return (control char).getD char :: (← readBody quotation rest)
  | char :: rest =>
      if char = quotation ∨ char = '\\' then none
      else do return char :: (← readBody quotation rest)

/-- A reader of the format. -/
def readText (text : String) : Option String :=
  match text.toList with
  | quotation :: rest =>
      if (quotation = '\'' ∨ quotation = '"') ∧ rest.getLast? = some quotation then
        (readBody quotation rest.dropLast).map String.ofList
      else none
  | [] => none

theorem readBody_escape {quotation letter : Char} {text : List Char} (other : letter ≠ 'u')
    (long : letter ≠ 'U') (newline : letter ≠ '\n') :
    readBody quotation ('\\' :: letter :: text) =
      (readBody quotation text).map ((control letter).getD letter :: ·) := by
  rw [readBody.eq_5 _ _ _ (by rintro _ _ _ _ _ rfl; exact absurd rfl other)
    (by rintro _ _ _ _ _ _ _ _ _ rfl; exact absurd rfl long) newline, if_neg (by simp [other, long])]
  cases readBody quotation text <;> rfl

theorem readCode_toNat {char : Char} (positive : 0 < char.toNat) :
    readCode char.toNat = some char := by
  rw [readCode, if_neg (by omega), Char.ofNat_toNat]

theorem readBody_eq {quotation : Char} {text value : List Char}
    (spells : Spells quotation text value) : readBody quotation text = some value := by
  induction spells with
  | nil => rfl
  | @plain char text value mark backslash rest ih =>
      rw [readBody.eq_6 _ _ _ (by rintro _ _ _ _ _ rfl; exact absurd rfl backslash)
        (by rintro _ _ _ _ _ _ _ _ _ rfl; exact absurd rfl backslash)
        (by rintro _ rfl; exact absurd rfl backslash)
        (by rintro _ _ rfl; exact absurd rfl backslash), if_neg (by simp [mark, backslash]), ih]
      rfl
  | @control letter char text value known rest ih =>
      have other : letter ≠ 'u' ∧ letter ≠ 'U' ∧ letter ≠ '\n' := by
        refine ⟨?_, ?_, ?_⟩ <;> rintro rfl <;> cases known
      rw [readBody_escape other.1 other.2.1 other.2.2, known, ih]
      rfl
  | @literal char text value literal rest ih =>
      obtain ⟨unknown, short, long, newline⟩ := literal
      rw [readBody_escape short long newline, unknown, ih]
      rfl
  | @short char text value small positive rest ih =>
      simp only [unicodeEscape, List.cons_append, List.nil_append, readBody]
      rw [hexUnit_digitChar small, ih]
      change (readCode char.toNat >>= fun found => some (found :: value)) = _
      rw [readCode_toNat positive]
      rfl
  | @long char text value positive rest ih =>
      have high : char.toNat / 65536 < 65536 := by
        rcases char.valid with below | ⟨-, below⟩
        · exact (Nat.div_le_self _ _).trans_lt (below.trans (by decide))
        · exact Nat.div_lt_of_lt_mul (below.trans (by decide))
      simp only [longEscape, unicodeEscape, List.drop, List.cons_append, List.nil_append, readBody]
      rw [hexUnit_digitChar high, hexUnit_digitChar (Nat.mod_lt _ (by decide)), ih]
      change (readCode (char.toNat / 65536 * 65536 + char.toNat % 65536) >>= fun found =>
        some (found :: value)) = _
      rw [Nat.div_add_mod', readCode_toNat positive]
      rfl

theorem readText_eq {text value : String} (denotes : Denotes text value) :
    readText text = some value := by
  obtain ⟨quotation, body, known, split, spells⟩ := denotes
  rw [readText, split]
  dsimp only [List.cons_append]
  rw [if_pos ⟨known, List.getLast?_concat ..⟩, List.dropLast_concat, readBody_eq spells,
    Option.map_some, String.ofList_toList]

end ProxyLauncher.Texts.GVariant
