import Mathlib

/-!
# Texts joined by a separator

Where a text is put together from parts with a separator between them, the first separator ends the
first part only if that part does not contain the separator itself.
-/

namespace ProxyLauncher.Texts

variable {α : Type} {separator : α} {first first' rest rest' : List α}

/-- Of two ways to cut a text at a separator, one cuts behind the other unless they are the same. -/
theorem append_cons_eq_append_cons_iff :
    first ++ separator :: rest = first' ++ separator :: rest' ↔
      (first' = first ∧ rest = rest') ∨
      (∃ middle, first' = first ++ separator :: middle ∧ rest = middle ++ separator :: rest') ∨
      ∃ middle, first = first' ++ separator :: middle ∧ rest' = middle ++ separator :: rest := by
  constructor
  · intro same
    rcases List.append_eq_append_iff.mp same with ⟨more, rfl, split⟩ | ⟨more, rfl, split⟩
    · cases more with
      | nil =>
          obtain ⟨-, rfl⟩ := List.cons.inj split
          exact .inl ⟨List.append_nil _, rfl⟩
      | cons head middle =>
          obtain ⟨rfl, rfl⟩ := List.cons.inj split
          exact .inr (.inl ⟨middle, rfl, rfl⟩)
    · cases more with
      | nil =>
          obtain ⟨-, rfl⟩ := List.cons.inj split
          exact .inl ⟨(List.append_nil _).symm, rfl⟩
      | cons head middle =>
          obtain ⟨rfl, rfl⟩ := List.cons.inj split
          exact .inr (.inr ⟨middle, rfl, rfl⟩)
  · rintro (⟨rfl, rfl⟩ | ⟨middle, rfl, rfl⟩ | ⟨middle, rfl, rfl⟩)
    · rfl
    · simp
    · simp

/-- A first part without the separator is either the whole of another first part, or the other one
goes on behind the separator. -/
theorem append_cons_eq_iff_of_notMem (bare : separator ∉ first) :
    first ++ separator :: rest = first' ++ separator :: rest' ↔
      (first' = first ∧ rest = rest') ∨
        ∃ middle, first' = first ++ separator :: middle ∧ rest = middle ++ separator :: rest' := by
  rw [append_cons_eq_append_cons_iff]
  refine or_congr_right (or_iff_left ?_)
  rintro ⟨middle, rfl, -⟩
  exact bare (List.mem_append_right _ List.mem_cons_self)

/-- The first part can be read off where no first part contains the separator. -/
theorem append_cons_inj (bare : separator ∉ first) (bare' : separator ∉ first')
    (same : first ++ separator :: rest = first' ++ separator :: rest') :
    first' = first ∧ rest = rest' := by
  rcases (append_cons_eq_iff_of_notMem bare).mp same with whole | ⟨middle, rfl, -⟩
  · exact whole
  · exact absurd (List.mem_append_right _ List.mem_cons_self) bare'

/-- The decimal text of a number has digits and a sign. -/
theorem notMem_toString {char : Char} (other : char.isDigit = false) (unsigned : char ≠ '-')
    (number : ℤ) : char ∉ (toString number).toList := by
  have digits (value : ℕ) : char ∉ value.repr.toList := by
    rw [Nat.toList_repr]
    intro there
    have digit := Nat.isDigit_of_mem_toDigits (by simp) (by simp) there
    rw [other] at digit
    exact absurd digit (by simp)
  cases number with
  | ofNat value => exact digits value
  | negSucc value =>
      intro there
      have split : char ∈ ("-" ++ (value + 1).repr).toList := there
      rw [String.toList_append, List.mem_append] at split
      rcases split with sign | number
      · exact unsigned (List.mem_singleton.mp sign)
      · exact digits _ number

end ProxyLauncher.Texts
