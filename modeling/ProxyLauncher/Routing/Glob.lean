import Mathlib

/-!
# Wildcard patterns

A pattern is a list of pieces: one character of a class, or any number of characters of a
class.  The pieces are compiled from a text in which two characters stand for the wildcards;
what the other characters accept is left open, so that the same pattern can be read with and
without regard to case.  The matcher decides which texts are instances of the pattern.
-/

namespace ProxyLauncher.Glob

variable {α : Type}

inductive Piece (α : Type) where
  | one (accepts : α → Bool)
  | many (accepts : α → Bool)

/-- `accepts` holds for some number of characters, and `rest` for what follows them. -/
def skips (accepts : α → Bool) (rest : List α → Bool) : List α → Bool
  | [] => rest []
  | char :: chars => rest (char :: chars) || (accepts char && skips accepts rest chars)

/-- The whole text is an instance of the pattern. -/
def globMatch : List (Piece α) → List α → Bool
  | [], text => text.isEmpty
  | .one _ :: _, [] => false
  | .one accepts :: pieces, char :: chars => accepts char && globMatch pieces chars
  | .many accepts :: pieces, text => skips accepts (globMatch pieces) text

theorem skips_iff {accepts : α → Bool} {rest : List α → Bool} {text : List α} :
    skips accepts rest text = true ↔
      ∃ before after, text = before ++ after ∧ (∀ char ∈ before, accepts char = true) ∧
        rest after = true := by
  induction text with
  | nil =>
      constructor
      · intro holds
        exact ⟨[], [], rfl, by simp, holds⟩
      · rintro ⟨before, after, split, -, holds⟩
        obtain ⟨rfl, rfl⟩ := List.append_eq_nil_iff.mp split.symm
        exact holds
  | cons char chars ih =>
      rw [skips, Bool.or_eq_true, Bool.and_eq_true, ih]
      constructor
      · rintro (holds | ⟨accepted, before, after, rfl, all, holds⟩)
        · exact ⟨[], char :: chars, rfl, by simp, holds⟩
        · exact ⟨char :: before, after, rfl, List.forall_mem_cons.mpr ⟨accepted, all⟩, holds⟩
      · rintro ⟨before, after, split, all, holds⟩
        cases before with
        | nil =>
            left
            rw [split]
            exact holds
        | cons head before =>
            obtain ⟨rfl, rfl⟩ := List.cons.inj split
            obtain ⟨accepted, all⟩ := List.forall_mem_cons.mp all
            exact .inr ⟨accepted, before, after, rfl, all, holds⟩

variable {star question : α}

/-- The text is an instance of the pattern: a star stands for any characters, a question mark
for one, and every other character for one that is the same. -/
inductive Instance (star question : α) (same : α → α → Prop) : List α → List α → Prop
  | nil : Instance star question same [] []
  | star (skipped : List α) {pattern text : List α} (rest : Instance star question same pattern text) :
      Instance star question same (star :: pattern) (skipped ++ text)
  | question (char : α) {pattern text : List α} (rest : Instance star question same pattern text) :
      Instance star question same (question :: pattern) (char :: text)
  | char {char other : α} {pattern text : List α} (noStar : char ≠ star)
      (noQuestion : char ≠ question) (equal : same char other)
      (rest : Instance star question same pattern text) :
      Instance star question same (char :: pattern) (other :: text)

theorem instance_cons_iff {equal : α → α → Prop} {head : α} {pattern text : List α} :
    Instance star question equal (head :: pattern) text ↔
      (head = star ∧ ∃ skipped rest, text = skipped ++ rest ∧
        Instance star question equal pattern rest) ∨
      (head = question ∧ ∃ char rest, text = char :: rest ∧
        Instance star question equal pattern rest) ∨
      head ≠ star ∧ head ≠ question ∧ ∃ other rest, text = other :: rest ∧ equal head other ∧
        Instance star question equal pattern rest := by
  constructor
  · intro found
    cases found with
    | star skipped rest => exact .inl ⟨rfl, skipped, _, rfl, rest⟩
    | question char rest => exact .inr (.inl ⟨rfl, char, _, rfl, rest⟩)
    | char noStar noQuestion same rest =>
        exact .inr (.inr ⟨noStar, noQuestion, _, _, rfl, same, rest⟩)
  · rintro (⟨rfl, skipped, rest, rfl, found⟩ | ⟨rfl, char, rest, rfl, found⟩ |
      ⟨noStar, noQuestion, other, rest, rfl, same, found⟩)
    · exact .star skipped found
    · exact .question char found
    · exact .char noStar noQuestion same found

theorem Instance.imp {equal equal' : α → α → Prop} {pattern text : List α}
    (found : Instance star question equal pattern text)
    (weaker : ∀ char ∈ pattern, ∀ other ∈ text, equal char other → equal' char other) :
    Instance star question equal' pattern text := by
  induction found with
  | nil => exact .nil
  | star skipped rest ih =>
      apply Instance.star skipped (ih _)
      intro char member other member'
      exact weaker char (List.mem_cons_of_mem _ member) other (List.mem_append_right _ member')
  | question char rest ih =>
      apply Instance.question char (ih _)
      intro char member other member'
      exact weaker char (List.mem_cons_of_mem _ member) other (List.mem_cons_of_mem _ member')
  | char noStar noQuestion equal rest ih =>
      apply Instance.char noStar noQuestion _ (ih _)
      · exact weaker _ List.mem_cons_self _ List.mem_cons_self equal
      · intro char member other member'
        exact weaker char (List.mem_cons_of_mem _ member) other (List.mem_cons_of_mem _ member')

/-- Without stars an instance agrees with the pattern character by character. -/
theorem instance_iff_forall₂ {equal : α → α → Prop} {pattern text : List α}
    (noStar : star ∉ pattern) :
    Instance star question equal pattern text ↔
      List.Forall₂ (fun char other => char = question ∨ equal char other) pattern text := by
  induction pattern generalizing text with
  | nil =>
      rw [List.forall₂_nil_left_iff]
      constructor
      · intro found
        cases found
        rfl
      · rintro rfl
        exact .nil
  | cons head pattern ih =>
      obtain ⟨different, others⟩ := not_or.mp (mt List.mem_cons.mpr noStar)
      rw [instance_cons_iff, List.forall₂_cons_left_iff]
      constructor
      · rintro (⟨same, -⟩ | ⟨same, char, rest, rfl, found⟩ | ⟨-, -, other, rest, rfl, same, found⟩)
        · exact absurd same.symm different
        · exact ⟨char, rest, .inl same, (ih others).mp found, rfl⟩
        · exact ⟨other, rest, .inr same, (ih others).mp found, rfl⟩
      · rintro ⟨other, rest, fits, found, rfl⟩
        by_cases isQuestion : head = question
        · exact .inr (.inl ⟨isQuestion, other, rest, rfl, (ih others).mpr found⟩)
        · exact .inr (.inr ⟨fun same => different same.symm, isQuestion, other, rest, rfl,
            fits.resolve_left isQuestion, (ih others).mpr found⟩)

variable [DecidableEq α]

/-- `star` stands for any number of characters, `question` for one; the wildcards take the
characters that are `plain`, and another character takes those that are the `same`. -/
def compile (star question : α) (plain : α → Bool) (same : α → α → Bool) (pattern : List α) :
    List (Piece α) :=
  pattern.map fun char =>
    if char = star then .many plain else if char = question then .one plain else .one (same char)

variable {plain : α → Bool} {same : α → α → Bool}

theorem compile_cons {head : α} {pattern : List α} :
    compile star question plain same (head :: pattern) =
      (if head = star then .many plain
        else if head = question then .one plain else .one (same head)) ::
        compile star question plain same pattern :=
  rfl

/-- The matcher finds the instances among the texts whose characters are all plain. -/
theorem globMatch_compile_iff (distinct : question ≠ star) {pattern text : List α}
    (solid : ∀ char ∈ text, plain char = true) :
    globMatch (compile star question plain same pattern) text = true ↔
      Instance star question (fun char other => same char other = true) pattern text := by
  induction pattern generalizing text with
  | nil =>
      rw [compile, List.map_nil, globMatch, List.isEmpty_iff]
      constructor
      · rintro rfl
        exact .nil
      · intro empty
        cases empty
        rfl
  | cons head pattern ih =>
      rw [instance_cons_iff, compile_cons]
      by_cases isStar : head = star
      · subst isStar
        simp only [distinct.symm, ne_eq, not_true_eq_false, false_and, or_false, true_and, if_true,
          globMatch, skips_iff]
        refine exists_congr fun skipped => exists_congr fun rest => ?_
        constructor
        · intro ⟨split, _, matched⟩
          subst split
          exact ⟨rfl, (ih fun char member => solid char (List.mem_append_right _ member)).mp matched⟩
        · intro ⟨split, found⟩
          subst split
          exact ⟨rfl, fun char member => solid char (List.mem_append_left _ member),
            (ih fun char member => solid char (List.mem_append_right _ member)).mpr found⟩
      · by_cases isQuestion : head = question
        · subst isQuestion
          simp only [isStar, ne_eq, not_true_eq_false, false_and, and_false, or_false, false_or,
            true_and, if_false, if_true]
          cases text with
          | nil => simp [globMatch]
          | cons char chars =>
              obtain ⟨here, later⟩ := List.forall_mem_cons.mp solid
              rw [globMatch, here, Bool.true_and, ih later]
              simp
        · simp only [isStar, isQuestion, ne_eq, not_false_eq_true, false_and, false_or, true_and,
            if_false]
          cases text with
          | nil => simp [globMatch]
          | cons char chars =>
              rw [globMatch, Bool.and_eq_true, ih (List.forall_mem_cons.mp solid).2]
              simp

end ProxyLauncher.Glob
