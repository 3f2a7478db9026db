import ProxyLauncher.Python.Runtime
import ProxyLauncher.Texts.Trimming

/-!
# Texts in lower case

`str.lower` stays a parameter.  What is relied on is that it has no effect on its own results, and
that white space is not cased.
-/

namespace ProxyLauncher.Python

open Texts

structure Lowering (lower : String → String) : Prop where
  lower_lower : ∀ text, lower (lower text) = lower text
  strip_lower : ∀ text, strip (lower text) = lower (strip text)

/-- `str.lower` on a text of ASCII characters. -/
def asciiLower (text : String) : String :=
  .ofList (text.toList.map Char.toLower)

theorem not_isSpace_of_isAlpha {char : Char} (letter : char.isAlpha = true) :
    isSpace char = false := by
  simp only [Char.isAlpha, Char.isUpper, Char.isLower, UInt32.le_iff_toNat_le, Bool.or_eq_true,
    Bool.and_eq_true, decide_eq_true_eq, ge_iff_le] at letter
  change (65 ≤ char.toNat ∧ char.toNat ≤ 90) ∨ (97 ≤ char.toNat ∧ char.toNat ≤ 122) at letter
  simp only [isSpace, Bool.or_eq_false_iff, Bool.and_eq_false_iff, decide_eq_false_iff_not,
    beq_eq_false_iff_ne]
  omega

theorem isSpace_toLower (char : Char) : isSpace char.toLower = isSpace char := by
  cases letter : char.isAlpha with
  | false => rw [toLower_of_not_isAlpha letter]
  | true =>
      rw [not_isSpace_of_isAlpha letter, not_isSpace_of_isAlpha]
      rw [Char.isAlpha_toLower_eq_isAlpha, letter]

theorem lowering_asciiLower : Lowering asciiLower where
  lower_lower text := by
    rw [asciiLower, asciiLower, String.toList_ofList, List.map_map]
    congr 2
    funext char
    exact Char.toLower_toLower_eq_toLower char
  strip_lower text := by
    have trimmed : trim isSpace (text.toList.map Char.toLower) =
        (trim isSpace text.toList).map Char.toLower := trim_map isSpace_toLower
    rw [asciiLower, asciiLower, strip, strip, String.toList_ofList, String.toList_ofList]
    exact congrArg String.ofList trimmed

end ProxyLauncher.Python
