import Mathlib

/-!
# Base64

Bytes as characters of an alphabet with sixty-four symbols.  Padding fills the last group of
four characters.  A decoder that ignores the bits behind the last byte gives the bytes back.
-/

namespace ProxyLauncher.Encoding

/-- An alphabet of Base64 and its inverse.  The padding is no symbol. -/
structure Alphabet where
  symbol : Fin 64 → Char
  value : Char → Option (Fin 64)
  value_symbol : ∀ index, value (symbol index) = some index
  symbol_ne_pad : ∀ index, symbol index ≠ '='
  symbol_ascii : ∀ index, 32 < (symbol index).toNat ∧ (symbol index).toNat < 127

/-- The letters and the digits of both alphabets, with the two symbols that differ. -/
def symbolOf (first second : Char) (index : Fin 64) : Char :=
  if index.val < 26 then Char.ofNat (index.val + 65)
  else if index.val < 52 then Char.ofNat (index.val + 71)
  else if index.val < 62 then Char.ofNat (index.val - 4)
  else if index.val = 62 then first
  else second

/-- The index of a symbol. -/
def valueOf (first second : Char) (char : Char) : Option (Fin 64) :=
  (List.finRange 64).find? fun index => symbolOf first second index = char

/-- The alphabet of `b64encode`. -/
def standard : Alphabet where
  symbol := symbolOf '+' '/'
  value := valueOf '+' '/'
  value_symbol := by decide
  symbol_ne_pad := by decide
  symbol_ascii := by decide

/-- The alphabet of `urlsafe_b64encode`. -/
def urlsafe : Alphabet where
  symbol := symbolOf '-' '_'
  value := valueOf '-' '_'
  value_symbol := by decide
  symbol_ne_pad := by decide
  symbol_ascii := by decide

namespace Alphabet

variable (alphabet : Alphabet)

/-- The symbol of the last six bits of a number. -/
def symbolFor (bits : ℕ) : Char :=
  alphabet.symbol (Fin.ofNat 64 bits)

/-- The characters of the bytes, without padding. -/
def body : List UInt8 → List Char
  | [] => []
  | [first] => [alphabet.symbolFor (first.toNat / 4), alphabet.symbolFor (first.toNat % 4 * 16)]
  | [first, second] =>
      [alphabet.symbolFor (first.toNat / 4),
        alphabet.symbolFor (first.toNat % 4 * 16 + second.toNat / 16),
        alphabet.symbolFor (second.toNat % 16 * 4)]
  | first :: second :: third :: bytes =>
      alphabet.symbolFor (first.toNat / 4) ::
        alphabet.symbolFor (first.toNat % 4 * 16 + second.toNat / 16) ::
        alphabet.symbolFor (second.toNat % 16 * 4 + third.toNat / 64) ::
        alphabet.symbolFor (third.toNat % 64) :: body bytes

/-- The padding after so many characters. -/
def padding (count : ℕ) : List Char :=
  .replicate ((4 - count % 4) % 4) '='

def encode (bytes : List UInt8) : List Char :=
  alphabet.body bytes ++ padding (alphabet.body bytes).length

/-- The byte of the last eight bits of a number. -/
def byteOf (bits : ℕ) : UInt8 :=
  .ofNat bits

/-- The bytes of characters without padding. -/
def bytesOf : List Char → Option (List UInt8)
  | [] => some []
  | [_] => none
  | [first, second] => do
      let first ← alphabet.value first
      let second ← alphabet.value second
      return [byteOf (first.val * 4 + second.val / 16)]
  | [first, second, third] => do
      let first ← alphabet.value first
      let second ← alphabet.value second
      let third ← alphabet.value third
      return [byteOf (first.val * 4 + second.val / 16),
        byteOf (second.val % 16 * 16 + third.val / 4)]
  | first :: second :: third :: fourth :: chars => do
      let first ← alphabet.value first
      let second ← alphabet.value second
      let third ← alphabet.value third
      let fourth ← alphabet.value fourth
      let bytes ← bytesOf chars
      return byteOf (first.val * 4 + second.val / 16) ::
        byteOf (second.val % 16 * 16 + third.val / 4) ::
        byteOf (third.val % 4 * 64 + fourth.val) :: bytes

/-- The characters without the padding at their end. -/
def unpadded (chars : List Char) : List Char :=
  chars.rdropWhile (· = '=')

/-- The strict decoder.  Behind a full group it does not count the padding. -/
def decode (chars : List Char) : Option (List UInt8) :=
  let symbols := unpadded chars
  if chars.length = symbols.length + (padding symbols.length).length ∨
      symbols.length % 4 = 0 ∧ symbols ≠ [] then
    alphabet.bytesOf symbols
  else none

variable {alphabet : Alphabet} {bytes : List UInt8} {char : Char} {bits : ℕ}

theorem value_symbolFor : alphabet.value (alphabet.symbolFor bits) = some (Fin.ofNat 64 bits) :=
  alphabet.value_symbol _

theorem byteOf_eq {byte : UInt8} (same : bits = byte.toNat) : byteOf bits = byte := by
  rw [byteOf, same, UInt8.ofNat_toNat]

theorem bytesOf_body : alphabet.bytesOf (alphabet.body bytes) = some bytes := by
  induction bytes using body.induct with
  | case1 => rfl
  | case2 first =>
      have small := first.toNat_lt
      simp only [body, bytesOf, value_symbolFor, Option.bind_eq_bind, Option.bind_some,
        Option.pure_def, Fin.ofNat]
      rw [@byteOf_eq _ first (by omega)]
  | case3 first second =>
      have small := first.toNat_lt
      have small' := second.toNat_lt
      simp only [body, bytesOf, value_symbolFor, Option.bind_eq_bind, Option.bind_some,
        Option.pure_def, Fin.ofNat]
      rw [@byteOf_eq _ first (by omega), @byteOf_eq _ second (by omega)]
  | case4 first second third bytes ih =>
      have small := first.toNat_lt
      have small' := second.toNat_lt
      have small'' := third.toNat_lt
      simp only [body, bytesOf, value_symbolFor, Option.bind_eq_bind, Option.bind_some,
        Option.pure_def, Fin.ofNat, ih]
      rw [@byteOf_eq _ first (by omega), @byteOf_eq _ second (by omega),
        @byteOf_eq _ third (by omega)]

theorem mem_body (member : char ∈ alphabet.body bytes) :
    ∃ index, char = alphabet.symbol index := by
  induction bytes using body.induct with
  | case1 => exact absurd member (by simp [body])
  | case2 first =>
      simp only [body, List.mem_cons, List.not_mem_nil, or_false] at member
      rcases member with rfl | rfl
      · exact ⟨_, rfl⟩
      · exact ⟨_, rfl⟩
  | case3 first second =>
      simp only [body, List.mem_cons, List.not_mem_nil, or_false] at member
      rcases member with rfl | rfl | rfl
      · exact ⟨_, rfl⟩
      · exact ⟨_, rfl⟩
      · exact ⟨_, rfl⟩
  | case4 first second third bytes ih =>
      simp only [body, List.mem_cons] at member
      rcases member with rfl | rfl | rfl | rfl | later
      · exact ⟨_, rfl⟩
      · exact ⟨_, rfl⟩
      · exact ⟨_, rfl⟩
      · exact ⟨_, rfl⟩
      · exact ih later

/-- Without the padding, the characters are those of the bytes. -/
theorem unpadded_encode : unpadded (alphabet.encode bytes) = alphabet.body bytes := by
  have ended : unpadded (alphabet.body bytes) = alphabet.body bytes := by
    rw [unpadded, List.rdropWhile_eq_self_iff]
    intro nonempty pad
    obtain ⟨index, same⟩ := mem_body (List.getLast_mem nonempty)
    exact alphabet.symbol_ne_pad index (same ▸ of_decide_eq_true pad)
  have padded (count : ℕ) :
      unpadded (alphabet.body bytes ++ List.replicate count '=') = alphabet.body bytes := by
    induction count with
    | zero => simpa using ended
    | succ count ih =>
        rw [List.replicate_succ', ← List.append_assoc, unpadded,
          List.rdropWhile_concat_pos _ _ _ (by simp)]
        exact ih
  exact padded _

theorem decode_encode : alphabet.decode (alphabet.encode bytes) = some bytes := by
  have length : (alphabet.encode bytes).length =
      (alphabet.body bytes).length + (padding (alphabet.body bytes).length).length := by
    rw [encode, List.length_append]
  rw [decode, unpadded_encode]
  exact (if_pos (.inl length)).trans bytesOf_body

/-- More padding than a full group needs is accepted, and none too little. -/
example : [standard.decode "eDp4=".toList, standard.decode "eDp4".toList,
    standard.decode "eDo=".toList, standard.decode "eDo==".toList, standard.decode "=".toList] =
    [some [120, 58, 120], some [120, 58, 120], some [120, 58], none, none] := by
  repeat rw [String.toList_ofList]
  decide

/-- Different bytes have different characters, also without padding. -/
theorem unpadded_encode_injective :
    Function.Injective fun bytes => unpadded (alphabet.encode bytes) := by
  intro bytes bytes' same
  simp only [unpadded_encode] at same
  exact Option.some.inj ((congrArg alphabet.bytesOf same ▸ bytesOf_body).symm.trans bytesOf_body)

/-- The characters are printable, and so they are ASCII and no white space. -/
theorem ascii_of_mem_encode (member : char ∈ alphabet.encode bytes) :
    32 < char.toNat ∧ char.toNat < 127 := by
  rcases List.mem_append.mp member with symbol | pad
  · obtain ⟨index, rfl⟩ := mem_body symbol
    exact alphabet.symbol_ascii index
  · rw [List.eq_of_mem_replicate pad]
    decide

end Alphabet

end ProxyLauncher.Encoding
