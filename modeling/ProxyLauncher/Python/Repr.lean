import ProxyLauncher.Python.JsonText

/-!
# The literal of a string

`repr` of a string.  Which characters beyond Latin-1 are printable is in a table, a parameter here.
-/

namespace ProxyLauncher.Python

/-- `str.isprintable` of a character. -/
def isPrintable (printable : Char → Bool) (char : Char) : Bool :=
  let code := char.toNat
  if code < 0x7f then decide (0x20 ≤ code)
  else if code < 0x100 then decide (0xa1 ≤ code ∧ code ≠ 0xad)
  else printable char

/-- `\xXX` for a character of Latin-1. -/
def hexEscape (code : Nat) : List Char :=
  ['\\', 'x', Nat.digitChar (code / 16 % 16), Nat.digitChar (code % 16)]

/-- `\UXXXXXXXX`. -/
def longEscape (code : Nat) : List Char :=
  ['\\', 'U'] ++ (unicodeEscape (code / 65536)).drop 2 ++ (unicodeEscape (code % 65536)).drop 2

/-- A character between the quotes. -/
def reprChar (printable : Char → Bool) (quotation char : Char) : List Char :=
  let code := char.toNat
  if char = quotation ∨ char = '\\' then ['\\', char]
  else if char = '\t' then ['\\', 't']
  else if char = '\n' then ['\\', 'n']
  else if char = '\r' then ['\\', 'r']
  else if isPrintable printable char then [char]
  else if code < 0x100 then hexEscape code
  else if code < 0x10000 then unicodeEscape code
  else longEscape code

/-- The apostrophe is the quotation mark of a text unless it is in the text and the other is not. -/
def quotationOf (text : List Char) : Char :=
  if '\'' ∈ text ∧ '"' ∉ text then '"' else '\''

/-- `repr`. -/
def repr (printable : Char → Bool) (text : String) : String :=
  let quotation := quotationOf text.toList
  .ofList (quotation :: text.toList.flatMap (reprChar printable quotation) ++ [quotation])

/-- The character is written as `\xXX`. -/
def HexEscaped (char : Char) : Prop :=
  isPrintable (fun _ => true) char = false ∧ char ≠ '\t' ∧ char ≠ '\n' ∧ char ≠ '\r'

instance (char : Char) : Decidable (HexEscaped char) :=
  inferInstanceAs (Decidable (_ ∧ _))

theorem quotationOf_eq (text : List Char) : quotationOf text = '\'' ∨ quotationOf text = '"' := by
  unfold quotationOf
  split_ifs
  · exact .inr rfl
  · exact .inl rfl

theorem isPrintable_eq {printable : Char → Bool} {char : Char} (latin : char.toNat < 0x100) :
    isPrintable printable char = isPrintable (fun _ => true) char := by
  simp only [isPrintable, latin, if_true]

theorem isPrintable_of_le {char : Char} (beyond : 0x100 ≤ char.toNat) :
    isPrintable (fun _ => true) char = true := by
  simp only [isPrintable, if_neg (show ¬ char.toNat < 0x7f by omega),
    if_neg (show ¬ char.toNat < 0x100 by omega)]

example : repr (fun _ => true) "a'\n\u00a0" = "\"a'\\n\\xa0\"" := by
  decide

end ProxyLauncher.Python
