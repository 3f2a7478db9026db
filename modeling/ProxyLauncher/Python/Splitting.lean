import ProxyLauncher.Python.Runtime
import ProxyLauncher.Texts.Trimming

/-!
# Splitting texts

`str.splitlines` and `str.split` with a separator and a number of cuts, on the characters of a
text.
-/

namespace ProxyLauncher.Python

/-- The characters that end a line for `str.splitlines`. -/
def isLineBreak (char : Char) : Bool :=
  let code := char.toNat
  (10 ≤ code && code ≤ 13) || (28 ≤ code && code ≤ 30) || code == 0x85 || code == 0x2028 ||
    code == 0x2029

/-- `str.splitlines` behind the start of a line. -/
def splitlinesFrom (line : List Char) : List Char → List (List Char)
  | [] => if line = [] then [] else [line]
  | '\r' :: '\n' :: chars => line :: splitlinesFrom [] chars
  | char :: chars =>
      if isLineBreak char then line :: splitlinesFrom [] chars
      else splitlinesFrom (line ++ [char]) chars

def splitlines (chars : List Char) : List (List Char) := splitlinesFrom [] chars

/-- A text that is read from a file, with its newlines translated. -/
def universalNewlines : List Char → List Char
  | [] => []
  | '\r' :: '\n' :: chars => '\n' :: universalNewlines chars
  | '\r' :: chars => '\n' :: universalNewlines chars
  | char :: chars => char :: universalNewlines chars

/-- `text.split(separator, times)`. -/
def split (separator : Char) : ℕ → List Char → List (List Char)
  | 0, chars => [chars]
  | times + 1, chars =>
      if separator ∈ chars then
        chars.takeWhile (fun char => char ≠ separator) ::
          split separator times (chars.dropWhile fun char => char ≠ separator).tail
      else [chars]

variable {separator : Char} {line chars rest : List Char} {lines : List (List Char)}

theorem isSpace_of_isLineBreak {char : Char} (breaks : isLineBreak char = true) :
    isSpace char = true := by
  simp only [isLineBreak, isSpace, Bool.or_eq_true, Bool.and_eq_true, decide_eq_true_eq,
    beq_iff_eq] at breaks ⊢
  omega

theorem splitlinesFrom_append (unbroken : ∀ char ∈ chars, isLineBreak char = false) :
    splitlinesFrom line (chars ++ rest) = splitlinesFrom (line ++ chars) rest := by
  induction chars generalizing line with
  | nil => rw [List.nil_append, List.append_nil]
  | cons char chars ih =>
      have first := unbroken char List.mem_cons_self
      rw [List.cons_append, splitlinesFrom, first, if_neg Bool.false_ne_true, ih,
        List.append_assoc, List.singleton_append]
      · intro other member
        exact unbroken other (List.mem_cons_of_mem _ member)
      · intro _ carriage _
        rw [carriage] at first
        cases first

theorem splitlinesFrom_newline :
    splitlinesFrom line ('\n' :: rest) = line :: splitlinesFrom [] rest := by
  rw [splitlinesFrom]
  · rfl
  · intro _ carriage
    cases carriage

/-- Lines that end in a newline, and a last one that does not. -/
theorem splitlines_lines (unbroken : ∀ line ∈ lines, ∀ char ∈ line, isLineBreak char = false)
    (last : ∀ char ∈ line, isLineBreak char = false) (nonempty : line ≠ []) :
    splitlines (lines.flatMap (· ++ ['\n']) ++ line) = lines ++ [line] := by
  unfold splitlines
  induction lines with
  | nil =>
      have whole := @splitlinesFrom_append [] line [] last
      rw [List.append_nil, List.nil_append] at whole
      rw [List.flatMap_nil, List.nil_append, whole, splitlinesFrom, if_neg nonempty]
      rfl
  | cons first lines ih =>
      obtain ⟨here, there⟩ := List.forall_mem_cons.mp unbroken
      rw [List.flatMap_cons, List.append_assoc, List.append_assoc, splitlinesFrom_append here,
        List.singleton_append, splitlinesFrom_newline, ih there]
      rfl

theorem universalNewlines_of_notMem (bare : '\r' ∉ chars) : universalNewlines chars = chars := by
  induction chars with
  | nil => rfl
  | cons char chars ih =>
      rw [List.mem_cons, not_or] at bare
      rw [universalNewlines, ih bare.2]
      · intro _ carriage
        exact absurd carriage.symm bare.1
      · intro carriage
        exact absurd carriage.symm bare.1

/-- A text is cut behind a part without the separator. -/
theorem split_append (bare : separator ∉ chars) (times : ℕ) :
    split separator (times + 1) (chars ++ separator :: rest) =
      chars :: split separator times rest := by
  have keep : ∀ char ∈ chars, decide (char ≠ separator) = true := by
    intro char member
    exact decide_eq_true fun same => bare (same ▸ member)
  rw [split, if_pos (by simp), List.takeWhile_append_of_pos keep,
    List.dropWhile_append_of_pos keep, List.takeWhile_cons_of_neg (by simp),
    List.dropWhile_cons_of_neg (by simp), List.append_nil, List.tail_cons]

end ProxyLauncher.Python
