import ProxyLauncher.Android.SecureProfileStore
import ProxyLauncher.Texts.Trimming

/-!
# Entries of site exclusions on Android

What the user types is cleaned to the name or the address of a host.  A Kotlin `Char` is one
`Char` here, so the length of a text is counted in UTF-16 units.
-/

namespace ProxyLauncher.Android

open ProxyLauncher.Texts

/-- The functions of Kotlin that know Unicode.  On printable ASCII they are what they say. -/
structure KotlinText where
  lowercase : String → String
  isDigit : Char → Bool
  lowercase_printable : ∀ value, (∀ char ∈ value.toList, Printable char) →
    lowercase value = .ofList (value.toList.map Char.toLower)
  isDigit_printable : ∀ char, Printable char → isDigit char = char.isDigit

/-- `require`. -/
def require (condition : Prop) [Decidable condition] (message : String) : Except String Unit :=
  if condition then .ok () else .error message

theorem isWhitespace_of_printable {char : Char} (printable : Printable char) :
    isWhitespace char = decide (char = ' ') := by
  have space : char = ' ' ↔ char.toNat = 32 := by
    rw [← Char.toNat_inj]
    rfl
  unfold Printable at printable
  refine decide_eq_decide.mpr ?_
  rw [space]
  omega

theorem toOption_require {α : Type} {condition : Prop} [Decidable condition] {message : String}
    {rest : Unit → Except String α} :
    (require condition message >>= rest).toOption =
      if condition then (rest ()).toOption else none := by
  unfold require
  split_ifs <;> rfl

/-- `substringBefore`. -/
def substringBefore (delimiter : Char) (value : String) : String :=
  textBefore delimiter value

/-- `substringAfter`. -/
def substringAfter (delimiter : List Char) (value : String) : String :=
  textAfter delimiter value

/-- `substringBeforeLast`. -/
def substringBeforeLast (delimiter : Char) (value : String) : String :=
  if delimiter ∈ value.toList then
    .ofList (value.toList.rdropWhile fun char => char ≠ delimiter).dropLast
  else value

/-- `substringAfterLast`. -/
def substringAfterLast (delimiter : Char) (value : String) : String :=
  .ofList (value.toList.rtakeWhile fun char => char ≠ delimiter)

/-- `String.length`, in UTF-16 units. -/
def utf16Length (value : String) : ℕ :=
  (value.toList.map fun char => if char.toNat < 0x10000 then 1 else 2).sum

/-- `String.trim`. -/
def trimWhitespace (value : String) : String :=
  .ofList (trim isWhitespace value.toList)

namespace SiteExclusionPolicy

/-- The address between brackets, or the host of `host:port`. -/
def withoutPort (kotlin : KotlinText) (value : String) : Except String String :=
  if value.toList.head? = some '[' then do
    let close := value.toList.idxOf ']'
    require (']' ∈ value.toList ∧ close > 1) "Некорректный IPv6-адрес"
    return .ofList ((value.toList.take close).drop 1)
  else if value.toList.count ':' = 1 then
    let host := substringBeforeLast ':' value
    let port := substringAfterLast ':' value
    if port ≠ "" ∧ port.toList.all kotlin.isDigit = true then .ok host else .ok value
  else .ok value

/-- The last tests of `normalize`. -/
def checked (value : String) : Except String (Option String) := do
  require (isBlank value = false) "Введите домен или IP-адрес"
  require ('*' ∉ value.toList ∧ '?' ∉ value.toList ∧ value.toList.head? ≠ some '.')
    "Маски и суффиксные правила пока не поддерживаются на Android; добавьте конкретный хост"
  require (value.toList.all (fun char => !isWhitespace char) = true)
    "Адрес не должен содержать пробелы"
  require ('@' ∉ value.toList ∧ '[' ∉ value.toList ∧ ']' ∉ value.toList) "Некорректный адрес"
  require (utf16Length value ≤ 253) "Слишком длинный адрес"
  return some value

/-- `normalize`. -/
def normalize (kotlin : KotlinText) (raw : String) : Except String (Option String) :=
  let value := kotlin.lowercase (trimWhitespace raw)
  if isBlank value = true then .ok none
  else
    let value := trimWhitespace (substringBefore '#' value)
    let value := substringAfter "://".toList value
    let value := trimWhitespace (substringBefore '/' value)
    if isBlank value = true then .ok none
    else do checked (trimWhitespace (← withoutPort kotlin value))

end SiteExclusionPolicy

end ProxyLauncher.Android
