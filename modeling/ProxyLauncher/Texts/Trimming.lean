import Mathlib

/-!
# Trimming and cutting texts

A text is trimmed of the padding on its two sides, and is cut before and after its first
separator.  The texts are lists over any type.
-/

namespace ProxyLauncher.Texts

variable {α β : Type*}

section Padding

variable {padding other : α → Bool} {front chars back : List α}

/-- A text without the padding on its two sides. -/
def trim (padding : α → Bool) (chars : List α) : List α :=
  (chars.dropWhile padding).rdropWhile padding

/-- A text is what trimming leaves, with padding on both sides. -/
theorem exists_padding (padding : α → Bool) (chars : List α) :
    ∃ front back, chars = front ++ (trim padding chars ++ back) ∧
      (∀ char ∈ front, padding char = true) ∧ ∀ char ∈ back, padding char = true := by
  refine ⟨chars.takeWhile padding, (chars.dropWhile padding).rtakeWhile padding, ?_,
    fun char => List.mem_takeWhile_imp, fun char => List.mem_rtakeWhile_imp⟩
  rw [trim, List.rdropWhile_append_rtakeWhile, List.takeWhile_append_dropWhile]

theorem mem_of_mem_trim {char : α} (member : char ∈ trim padding chars) : char ∈ chars :=
  (List.dropWhile_suffix _).subset ((List.rdropWhile_prefix _ _).subset member)

theorem mem_trim_of_mem {char : α} (member : char ∈ chars) (solid : padding char = false) :
    char ∈ trim padding chars := by
  obtain ⟨front, back, whole, frontPadded, backPadded⟩ := exists_padding padding chars
  rw [whole, List.mem_append, List.mem_append] at member
  rcases member with inFront | there | inBack
  · exact absurd (frontPadded char inFront) (by simp [solid])
  · exact there
  · exact absurd (backPadded char inBack) (by simp [solid])

/-- Only padding is trimmed to nothing. -/
theorem trim_eq_nil : trim padding chars = [] ↔ ∀ char ∈ chars, padding char = true := by
  obtain ⟨front, back, whole, frontPadded, backPadded⟩ := exists_padding padding chars
  constructor
  · intro empty
    rw [empty, List.nil_append] at whole
    rw [whole]
    exact fun char member => (List.mem_append.mp member).elim (frontPadded char) (backPadded char)
  · intro padded
    rw [trim, List.dropWhile_eq_nil_iff.mpr padded, List.rdropWhile_nil]

/-- Padding in front is trimmed. -/
theorem trim_append_left (padded : ∀ char ∈ front, padding char = true) :
    trim padding (front ++ chars) = trim padding chars := by
  rw [trim, List.dropWhile_append_of_pos padded, trim]

theorem rdropWhile_append_of_pos (padded : ∀ char ∈ back, padding char = true) :
    (chars ++ back).rdropWhile padding = chars.rdropWhile padding := by
  have reversed : ∀ char ∈ back.reverse, padding char = true := by simpa using padded
  rw [List.rdropWhile, List.reverse_append, List.dropWhile_append_of_pos reversed, List.rdropWhile]

/-- Padding behind is trimmed. -/
theorem trim_append_right (padded : ∀ char ∈ back, padding char = true) :
    trim padding (chars ++ back) = trim padding chars := by
  rw [trim, List.dropWhile_append]
  split_ifs with empty
  · rw [List.isEmpty_iff] at empty
    rw [List.dropWhile_eq_nil_iff.mpr padded, trim, empty]
  · rw [rdropWhile_append_of_pos padded, trim]

/-- What does not begin or end with padding stays as it is. -/
theorem trim_of_solid (head : ∀ char ∈ chars.head?, padding char = false)
    (last : ∀ char ∈ chars.getLast?, padding char = false) : trim padding chars = chars := by
  have front : chars.dropWhile padding = chars := by
    cases chars with
    | nil => rfl
    | cons char rest => exact List.dropWhile_cons_of_neg (by simp [head char rfl])
  rw [trim, front, List.rdropWhile_eq_self_iff]
  intro nonempty
  simp [last _ (List.getLast?_eq_some_getLast nonempty)]

/-- A text without padding stays as it is. -/
theorem trim_of_forall_not (solid : ∀ char ∈ chars, padding char = false) :
    trim padding chars = chars :=
  trim_of_solid (fun char first => solid char (List.mem_of_head? first))
    fun char last => solid char (List.mem_of_getLast? last)

theorem not_padding_of_head? {char : α} (first : (trim padding chars).head? = some char) :
    padding char = false := by
  have whole := List.head?_dropWhile_not padding chars
  obtain ⟨rest, split⟩ := List.rdropWhile_prefix padding (chars.dropWhile padding)
  rw [← split, List.head?_append, ← trim, first] at whole
  simpa using whole

theorem not_padding_of_getLast? {char : α} (last : (trim padding chars).getLast? = some char) :
    padding char = false := by
  have nonempty : trim padding chars ≠ [] := by
    rintro empty
    simp [empty] at last
  have found := List.rdropWhile_last_not padding (chars.dropWhile padding) nonempty
  rw [List.getLast?_eq_some_getLast nonempty] at last
  obtain rfl := Option.some.inj last
  simpa [trim] using found

@[simp] theorem trim_trim : trim padding (trim padding chars) = trim padding chars :=
  trim_of_solid (fun _ => not_padding_of_head?) fun _ => not_padding_of_getLast?

theorem trim_rdropWhile : trim padding (chars.rdropWhile padding) = trim padding chars :=
  calc trim padding (chars.rdropWhile padding)
      = trim padding (chars.rdropWhile padding ++ chars.rtakeWhile padding) :=
        (trim_append_right fun _ => List.mem_rtakeWhile_imp).symm
    _ = trim padding chars := by rw [List.rdropWhile_append_rtakeWhile]

/-- The padding at the end of a text that does not end inside its front. -/
theorem rdropWhile_append_of_solid (solid : ∃ char ∈ chars, padding char = false) :
    (front ++ chars).rdropWhile padding = front ++ chars.rdropWhile padding := by
  obtain ⟨char, member, kept⟩ := solid
  rw [List.rdropWhile, List.reverse_append, List.dropWhile_append, if_neg, List.reverse_append,
    List.reverse_reverse, List.rdropWhile]
  rw [List.isEmpty_iff, List.dropWhile_eq_nil_iff]
  intro padded
  have dropped := padded char (List.mem_reverse.mpr member)
  rw [kept] at dropped
  cases dropped

theorem rdropWhile_cons_of_solid {char : α} (solid : padding char = false) :
    (char :: chars).rdropWhile padding = char :: chars.rdropWhile padding := by
  rw [List.rdropWhile, List.reverse_cons, List.dropWhile_append]
  split_ifs with empty
  · rw [List.dropWhile_cons_of_neg (by simp [solid]), List.rdropWhile, List.isEmpty_iff.mp empty]
    rfl
  · rw [List.reverse_append, List.rdropWhile]
    rfl

/-- Only the characters of the text matter to the padding. -/
theorem trim_congr (same : ∀ char ∈ chars, padding char = other char) :
    trim padding chars = trim other chars := by
  obtain ⟨front, back, whole, frontPadded, backPadded⟩ := exists_padding other chars
  have inFront : ∀ char ∈ front, padding char = true := fun char member => by
    rw [same char (whole ▸ List.mem_append_left _ member), frontPadded char member]
  have inBack : ∀ char ∈ back, padding char = true := fun char member => by
    rw [same char (whole ▸ List.mem_append_right _ (List.mem_append_right _ member)),
      backPadded char member]
  have solid (char : α) (there : char ∈ trim other chars) (not : other char = false) :
      padding char = false := by
    rw [same char (mem_of_mem_trim there), not]
  calc trim padding chars
      = trim padding (front ++ (trim other chars ++ back)) := by rw [← whole]
    _ = trim padding (trim other chars) := by
        rw [trim_append_left inFront, trim_append_right inBack]
    _ = trim other chars := by
        refine trim_of_solid (fun char first => ?_) fun char last => ?_
        · exact solid char (List.mem_of_head? first) (not_padding_of_head? first)
        · exact solid char (List.mem_of_getLast? last) (not_padding_of_getLast? last)

/-- Characters can be changed before or after they are trimmed when the padding is the same. -/
theorem trim_map {padding : β → Bool} {change : α → β}
    (same : ∀ char, padding (change char) = other char) :
    trim padding (chars.map change) = (trim other chars).map change := by
  have composed : padding ∘ change = other := funext same
  rw [trim, List.dropWhile_map, List.rdropWhile, ← List.map_reverse, List.dropWhile_map,
    ← List.map_reverse, composed, trim, List.rdropWhile]

end Padding

section Separators

variable [DecidableEq α] {separator : α} {front chars back : List α}

/-- What is before the first separator, or all of the text. -/
def before (separator : α) (chars : List α) : List α :=
  chars.takeWhile fun char => char ≠ separator

/-- What is after the first occurrence of a text. -/
def after (separator : List α) : List α → Option (List α)
  | [] => none
  | char :: chars =>
      if separator <+: char :: chars then some ((char :: chars).drop separator.length)
      else after separator chars

theorem notMem_before : separator ∉ before separator chars := by
  intro member
  simpa using List.mem_takeWhile_imp member

theorem mem_of_mem_before {char : α} (member : char ∈ before separator chars) : char ∈ chars :=
  (List.takeWhile_prefix _).subset member

theorem before_of_notMem (missing : separator ∉ chars) : before separator chars = chars := by
  rw [before, List.takeWhile_eq_self_iff]
  intro char member
  exact decide_eq_true fun same => missing (same ▸ member)

theorem before_append_of_notMem (missing : separator ∉ front) :
    before separator (front ++ chars) = front ++ before separator chars := by
  rw [before, List.takeWhile_append_of_pos, before]
  intro char member
  exact decide_eq_true fun same => missing (same ▸ member)

/-- A text without the separator is what is before it. -/
theorem before_append_separator (missing : separator ∉ front) :
    before separator (front ++ separator :: chars) = front := by
  rw [before_append_of_notMem missing, before, List.takeWhile_cons_of_neg (by simp),
    List.append_nil]

theorem before_append_of_mem (member : separator ∈ front) :
    before separator (front ++ chars) = before separator front := by
  obtain ⟨first, rest, rfl, missing⟩ := List.eq_append_cons_of_mem member
  rw [List.append_assoc, List.cons_append, before_append_separator missing,
    before_append_separator missing]

/-- What is after a separator is a part of the text. -/
theorem mem_of_mem_after {separator rest : List α} {char : α}
    (found : after separator chars = some rest) (member : char ∈ rest) : char ∈ chars := by
  induction chars with
  | nil => exact absurd found (by simp [after])
  | cons head chars ih =>
      rw [after] at found
      split_ifs at found with starts
      · obtain rfl := Option.some.inj found
        exact (List.drop_suffix _ _).subset member
      · exact List.mem_cons_of_mem _ (ih found)

theorem mem_of_mem_after_getD {separator : List α} {char : α}
    (member : char ∈ (after separator chars).getD chars) : char ∈ chars := by
  cases found : after separator chars with
  | none => rwa [found] at member
  | some rest => exact mem_of_mem_after found (by rwa [found] at member)

/-- A separator with a character that is missing does not occur. -/
theorem after_eq_none {separator : List α} {char : α} (there : char ∈ separator)
    (missing : char ∉ chars) : after separator chars = none := by
  induction chars with
  | nil => rfl
  | cons head chars ih =>
      rw [after, if_neg fun starts => missing (starts.subset there)]
      exact ih fun member => missing (List.mem_cons_of_mem _ member)

/-- Trimming a text before it is cut does not change what is trimmed afterwards. -/
theorem trim_before_trim {padding : α → Bool} (solid : padding separator = false) :
    trim padding (before separator (trim padding chars)) =
      trim padding (before separator chars) := by
  obtain ⟨front, back, whole, frontPadded, backPadded⟩ := exists_padding padding chars
  have missing {padded : List α} (all : ∀ char ∈ padded, padding char = true) :
      separator ∉ padded := fun member => by simpa [solid] using all _ member
  have back' : trim padding (before separator (trim padding chars ++ back)) =
      trim padding (before separator (trim padding chars)) := by
    by_cases there : separator ∈ trim padding chars
    · rw [before_append_of_mem there]
    · rw [before_append_of_notMem there, before_of_notMem there,
        before_of_notMem (missing backPadded), trim_append_right backPadded]
  calc trim padding (before separator (trim padding chars))
      = trim padding (front ++ before separator (trim padding chars ++ back)) := by
        rw [trim_append_left frontPadded, back']
    _ = trim padding (before separator chars) := by
        rw [← before_append_of_notMem (missing frontPadded), ← whole]

end Separators

section Strings

variable {separator char : Char} {mark : List Char} {text : String}

/-- The text before the first separator, or all of it. -/
def textBefore (separator : Char) (text : String) : String :=
  .ofList (before separator text.toList)

/-- The text after the first occurrence of a mark, or all of it. -/
def textAfter (mark : List Char) (text : String) : String :=
  ((after mark text.toList).map String.ofList).getD text

@[simp] theorem textBefore_ofList (chars : List Char) :
    textBefore separator (.ofList chars) = .ofList (before separator chars) := by
  rw [textBefore, String.toList_ofList]

@[simp] theorem textAfter_ofList (chars : List Char) :
    textAfter mark (.ofList chars) = .ofList ((after mark chars).getD chars) := by
  rw [textAfter, String.toList_ofList]
  cases after mark chars <;> rfl

theorem notMem_textBefore : separator ∉ (textBefore separator text).toList := by
  rw [textBefore, String.toList_ofList]
  exact notMem_before

theorem mem_of_mem_textBefore (member : char ∈ (textBefore separator text).toList) :
    char ∈ text.toList := by
  rw [textBefore, String.toList_ofList] at member
  exact mem_of_mem_before member

theorem mem_of_mem_textAfter (member : char ∈ (textAfter mark text).toList) :
    char ∈ text.toList := by
  rw [← String.ofList_toList (s := text), textAfter_ofList, String.toList_ofList] at member
  exact mem_of_mem_after_getD member

theorem textBefore_of_notMem (missing : separator ∉ text.toList) :
    textBefore separator text = text := by
  rw [textBefore, before_of_notMem missing, String.ofList_toList]

theorem textAfter_of_notMem (there : char ∈ mark) (missing : char ∉ text.toList) :
    textAfter mark text = text := by
  rw [textAfter, after_eq_none there missing]
  rfl

end Strings

/-- The characters from the space to the tilde. -/
def Printable (char : Char) : Prop :=
  32 ≤ char.toNat ∧ char.toNat ≤ 126

instance (char : Char) : Decidable (Printable char) :=
  inferInstanceAs (Decidable (32 ≤ char.toNat ∧ char.toNat ≤ 126))

theorem toLower_of_not_isAlpha {char : Char} (unlettered : char.isAlpha = false) :
    char.toLower = char := by
  rw [Char.isAlpha, Bool.or_eq_false_iff] at unlettered
  exact Char.toLower_eq_of_not_isUpper (by simp [unlettered.1])

/-- Only letters become letters in lower case. -/
theorem toLower_eq_iff {char other : Char} (unlettered : other.isAlpha = false) :
    char.toLower = other ↔ char = other := by
  constructor
  · rintro rfl
    rw [Char.isAlpha_toLower_eq_isAlpha] at unlettered
    exact (toLower_of_not_isAlpha unlettered).symm
  · rintro rfl
    exact toLower_of_not_isAlpha unlettered

/-- Lower case stays printable. -/
theorem printable_toLower {char : Char} (printable : Printable char) : Printable char.toLower := by
  cases letter : char.isAlpha with
  | false => rwa [toLower_of_not_isAlpha letter]
  | true =>
      rw [← Char.isLower_toLower_eq_isAlpha] at letter
      simp only [Char.isLower, UInt32.le_iff_toNat_le, Bool.and_eq_true, decide_eq_true_eq,
        ge_iff_le] at letter
      exact ⟨le_trans (by decide) letter.1, le_trans letter.2 (by decide)⟩

end ProxyLauncher.Texts
