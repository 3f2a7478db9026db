import Mathlib.Data.List.TakeWhile
import Mathlib.Tactic.Linarith

/-!
# Addresses in dotted decimals

Two parsers of IPv4 addresses.  The one of Rust reads a number of at most three digits and then
what is behind it; `inet_pton` keeps the value of the octet that it is in.  They accept the same
texts.
-/

namespace ProxyLauncher.Texts.Ipv4

/-- `read_number(10, Some(3), false)` of an octet: its value and the rest. -/
def readNumber (chars : List Char) : Option (ℕ × List Char) :=
  let digits := chars.takeWhile Char.isDigit
  let value := Nat.ofDigitChars 10 digits 0
  if digits = [] ∨ 3 < digits.length ∨ (digits.head? = some '0' ∧ 1 < digits.length) ∨
      255 < value then none
  else some (value, chars.dropWhile Char.isDigit)

/-- The rest of a text behind this many numbers, each of them behind a point. -/
def readGroups : ℕ → List Char → Option (List Char)
  | 0, chars => some chars
  | count + 1, chars =>
      if chars.head? = some '.' then
        (readNumber chars.tail).bind fun number => readGroups count number.2
      else none

/-- The text is an `Ipv4Addr`. -/
def isIpv4 (chars : List Char) : Bool :=
  (readNumber chars).bind (fun number => readGroups 3 number.2) = some []

/-- `inet_pton4` inside a text: the octets that have begun, and the value of the current one when
it has a digit. -/
def pton (octets : ℕ) (current : Option ℕ) : List Char → Bool
  | [] => 4 ≤ octets
  | char :: chars =>
      if char.isDigit then
        let value := 10 * current.getD 0 + (char.toNat - '0'.toNat)
        if current = some 0 ∨ 255 < value ∨ (current = none ∧ 4 < octets + 1) then false
        else pton (if current = none then octets + 1 else octets) (some value) chars
      else if char = '.' ∧ current ≠ none ∧ octets ≠ 4 then pton octets none chars
      else false

/-- `inet_pton4`. -/
def inetPton (chars : List Char) : Bool :=
  pton 0 none chars

variable {octets value : ℕ} {digits chars rest : List Char} {char : Char}

theorem pton_some_cons_digit (digit : char.isDigit = true) (nonzero : value ≠ 0) :
    pton octets (some value) (char :: chars) =
      if 255 < 10 * value + (char.toNat - '0'.toNat) then false
      else pton octets (some (10 * value + (char.toNat - '0'.toNat))) chars := by
  rw [pton, if_pos digit]
  simp [nonzero]

theorem le_ofDigitChars (digits : List Char) (value : ℕ) :
    10 ^ digits.length * value ≤ Nat.ofDigitChars 10 digits value := by
  rw [Nat.ofDigitChars_eq_ofDigitChars_zero]
  exact Nat.le_add_right _ _

/-- Behind a digit that is not a zero, the value of an octet is all that counts. -/
theorem pton_append_digits (digit : ∀ char ∈ digits, char.isDigit = true) (nonzero : value ≠ 0)
    (small : value ≤ 255) :
    pton octets (some value) (digits ++ rest) =
      if 255 < Nat.ofDigitChars 10 digits value then false
      else pton octets (some (Nat.ofDigitChars 10 digits value)) rest := by
  induction digits generalizing value with
  | nil =>
      rw [Nat.ofDigitChars_nil, if_neg (not_lt.mpr small), List.nil_append]
  | cons char digits ih =>
      rw [List.forall_mem_cons] at digit
      rw [List.cons_append, pton_some_cons_digit digit.1 nonzero, Nat.ofDigitChars_cons]
      by_cases large : 255 < 10 * value + (char.toNat - '0'.toNat)
      · have larger := le_ofDigitChars digits (10 * value + (char.toNat - '0'.toNat))
        have power : 1 ≤ 10 ^ digits.length := Nat.one_le_pow _ _ (by decide)
        rw [if_pos large, if_pos]
        nlinarith
      · rw [if_neg large, ih digit.2 (by omega) (by omega)]

theorem digit_le (digit : char.isDigit = true) : char.toNat - '0'.toNat ≤ 9 := by
  simp only [Char.isDigit, Bool.and_eq_true, decide_eq_true_eq] at digit
  have upper : char.toNat ≤ 57 := digit.2
  change char.toNat - 48 ≤ 9
  omega

theorem digit_ne_zero (digit : char.isDigit = true) (other : char ≠ '0') :
    char.toNat - '0'.toNat ≠ 0 := by
  intro zero
  apply other
  simp only [Char.isDigit, Bool.and_eq_true, decide_eq_true_eq] at digit
  have lower : 48 ≤ char.toNat := digit.1
  have upper : char.toNat - 48 = 0 := zero
  exact Char.toNat_inj.mp (show char.toNat = 48 by omega)

/-- The first digit of an octet. -/
theorem pton_none_cons_digit (digit : char.isDigit = true) (room : octets < 4) :
    pton octets none (char :: chars) =
      pton (octets + 1) (some (char.toNat - '0'.toNat)) chars := by
  have small := digit_le digit
  have value : 10 * (none : Option ℕ).getD 0 + (char.toNat - '0'.toNat) =
      char.toNat - '0'.toNat := Nat.zero_add _
  rw [pton, if_pos digit]
  dsimp only
  rw [value, if_neg, if_pos rfl]
  rintro (zero | large | full)
  · cases zero
  · omega
  · omega

/-- No digit is behind a zero in front. -/
theorem pton_zero_cons_digit (digit : char.isDigit = true) :
    pton octets (some 0) (char :: chars) = false := by
  rw [pton, if_pos digit]
  exact if_pos (.inl rfl)

/-- Both parsers read the same octet. -/
theorem pton_eq_readNumber (room : octets < 4) :
    pton octets none chars =
      (readNumber chars).elim false fun number =>
        pton (octets + 1) (some number.1) number.2 := by
  cases chars with
  | nil =>
      rw [pton, decide_eq_false (not_le.mpr room)]
      rfl
  | cons char chars =>
      by_cases digit : char.isDigit = true
      · have front := List.takeWhile_cons_of_pos (l := chars) digit
        have later := List.dropWhile_cons_of_pos (l := chars) digit
        have split := List.takeWhile_append_dropWhile (p := Char.isDigit) (l := chars)
        have inside : ∀ other ∈ chars.takeWhile Char.isDigit, other.isDigit = true :=
          fun _ member => List.mem_takeWhile_imp member
        rw [pton_none_cons_digit digit room, readNumber, front, later]
        generalize chars.takeWhile Char.isDigit = digits at split inside ⊢
        generalize chars.dropWhile Char.isDigit = rest at split ⊢
        subst split
        clear front later
        by_cases zero : char = '0'
        · subst zero
          cases digits with
          | nil => rfl
          | cons other digits =>
              have zeros := inside other List.mem_cons_self
              rw [Nat.sub_self, List.cons_append, pton_zero_cons_digit zeros]
              rw [if_pos (.inr (.inr (.inl ⟨rfl, by simp⟩)))]
              rfl
        · have nonzero := digit_ne_zero digit zero
          have small := digit_le digit
          have value : Nat.ofDigitChars 10 (char :: digits) 0 =
              Nat.ofDigitChars 10 digits (char.toNat - '0'.toNat) := by
            rw [Nat.ofDigitChars_cons, Nat.mul_zero, Nat.zero_add]
          rw [pton_append_digits inside nonzero (by omega), value]
          by_cases large : 255 < Nat.ofDigitChars 10 digits (char.toNat - '0'.toNat)
          · rw [if_pos large, if_pos (.inr (.inr (.inr large)))]
            rfl
          · have length : ¬ 3 < (char :: digits).length := by
              intro long
              have least := le_ofDigitChars digits (char.toNat - '0'.toNat)
              have power : 10 ^ 3 ≤ 10 ^ digits.length :=
                Nat.pow_le_pow_right (by decide) (Nat.lt_succ_iff.mp long)
              nlinarith [Nat.pos_of_ne_zero nonzero]
            have unled : ¬ ((char :: digits).head? = some '0' ∧ 1 < (char :: digits).length) :=
              fun leading => zero (Option.some.inj leading.1)
            rw [if_neg large, if_neg (not_or.mpr ⟨List.cons_ne_nil _ _, not_or.mpr ⟨length,
              not_or.mpr ⟨unled, large⟩⟩⟩)]
            rfl
      · rw [readNumber, List.takeWhile_cons_of_neg digit, pton, if_neg digit, if_neg]
        · rfl
        · simp

theorem readNumber_rest {number : ℕ × List Char} (read : readNumber chars = some number) :
    ∀ char ∈ number.2.head?, char.isDigit = false := by
  unfold readNumber at read
  dsimp only at read
  split_ifs at read with invalid
  obtain rfl := Option.some.inj read
  intro char first
  have stopped := List.head?_dropWhile_not Char.isDigit chars
  rw [Option.mem_def.mp first] at stopped
  simpa using stopped

/-- Behind an octet, the C library wants the octets that Rust reads. -/
theorem pton_eq_readGroups {count : ℕ} (all : octets + count = 4)
    (behind : ∀ char ∈ rest.head?, char.isDigit = false) :
    pton octets (some value) rest = decide (readGroups count rest = some []) := by
  induction count generalizing octets value rest with
  | zero =>
      obtain rfl : octets = 4 := all
      cases rest with
      | nil => rfl
      | cons char rest =>
          have other := behind char rfl
          simp [pton, readGroups, other]
  | succ count ih =>
      have room : octets < 4 := by omega
      cases rest with
      | nil =>
          rw [pton, decide_eq_false (not_le.mpr room), readGroups, if_neg (by simp)]
          rfl
      | cons char rest =>
          rw [pton, if_neg (by rw [behind char rfl]; exact Bool.false_ne_true), readGroups,
            List.head?_cons]
          by_cases point : char = '.'
          · rw [if_pos ⟨point, by simp, room.ne⟩, if_pos (congrArg some point),
              pton_eq_readNumber room, List.tail_cons]
            cases read : readNumber rest with
            | none => rfl
            | some number => exact ih (by omega) (readNumber_rest read)
          · rw [if_neg fun pointed => point pointed.1, if_neg fun pointed =>
              point (Option.some.inj pointed)]
            rfl

/-- The two parsers accept the same texts. -/
theorem inetPton_eq_isIpv4 (chars : List Char) : inetPton chars = isIpv4 chars := by
  rw [inetPton, pton_eq_readNumber (by decide), isIpv4]
  cases read : readNumber chars with
  | none => rfl
  | some number => exact pton_eq_readGroups rfl (readNumber_rest read)

example : isIpv4 "10.0.0.255".toList = true ∧ isIpv4 "10.0.00.2".toList = false := by
  repeat rw [String.toList_ofList]
  decide

end ProxyLauncher.Texts.Ipv4
