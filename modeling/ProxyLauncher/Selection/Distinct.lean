import Mathlib

/-!
# Lists without repetitions

An item is appended to a list unless it is there already.  Appending all the items of a list to
nothing keeps the first occurrence of each.
-/

namespace ProxyLauncher.Selection

variable {α : Type} [DecidableEq α] {items newItems before : List α} {item other : α}

/-- Append an item that is not there yet. -/
def appendNew (items : List α) (item : α) : List α :=
  if item ∈ items then items else items ++ [item]

/-- Append the items that are not there yet. -/
def appendAll (items newItems : List α) : List α :=
  newItems.foldl appendNew items

/-- The items in the order of their first occurrences. -/
def distinct (items : List α) : List α :=
  appendAll [] items

@[simp] theorem mem_appendNew : other ∈ appendNew items item ↔ other ∈ items ∨ other = item := by
  unfold appendNew
  split_ifs with there
  · constructor
    · exact .inl
    · rintro (known | rfl)
      · exact known
      · exact there
  · simp

theorem nodup_appendNew (nodup : items.Nodup) : (appendNew items item).Nodup := by
  unfold appendNew
  split_ifs with there
  · exact nodup
  · rw [← List.concat_eq_append]
    exact nodup.concat there

theorem prefix_appendNew : items <+: appendNew items item := by
  unfold appendNew
  split_ifs
  · exact List.prefix_rfl
  · exact List.prefix_append _ _

@[simp] theorem appendAll_nil (items : List α) : appendAll items [] = items := rfl

@[simp] theorem appendAll_cons (items : List α) (item : α) (newItems : List α) :
    appendAll items (item :: newItems) = appendAll (appendNew items item) newItems := rfl

theorem appendAll_append (items newItems later : List α) :
    appendAll items (newItems ++ later) = appendAll (appendAll items newItems) later :=
  List.foldl_append

@[simp] theorem mem_appendAll :
    item ∈ appendAll items newItems ↔ item ∈ items ∨ item ∈ newItems := by
  induction newItems generalizing items with
  | nil => simp
  | cons head newItems ih => rw [appendAll_cons, ih, mem_appendNew, List.mem_cons, or_assoc]

theorem nodup_appendAll (nodup : items.Nodup) : (appendAll items newItems).Nodup := by
  induction newItems generalizing items with
  | nil => exact nodup
  | cons head newItems ih => exact ih (nodup_appendNew nodup)

theorem prefix_appendAll (items newItems : List α) : items <+: appendAll items newItems := by
  induction newItems generalizing items with
  | nil => exact List.prefix_rfl
  | cons head newItems ih => exact prefix_appendNew.trans (ih _)

/-- Items that are there already are not appended. -/
theorem appendAll_of_subset (there : ∀ item ∈ newItems, item ∈ items) :
    appendAll items newItems = items := by
  induction newItems with
  | nil => rfl
  | cons head newItems ih =>
      obtain ⟨first, others⟩ := List.forall_mem_cons.mp there
      rw [appendAll_cons, appendNew, if_pos first, ih others]

/-- Items that are new and differ from each other are all appended. -/
theorem appendAll_of_nodup (nodup : (items ++ newItems).Nodup) :
    appendAll items newItems = items ++ newItems := by
  induction newItems generalizing items with
  | nil => exact (List.append_nil _).symm
  | cons head newItems ih =>
      have new : head ∉ items := by
        intro known
        exact (List.nodup_append.mp nodup).2.2 head known head List.mem_cons_self rfl
      rw [appendAll_cons, appendNew, if_neg new, ih (by simpa using nodup), List.append_assoc,
        List.singleton_append]

/-- All the items are new, or some are left out. -/
theorem appendAll_all_or_fewer (items newItems : List α) :
    appendAll items newItems = items ++ newItems ∨
      (appendAll items newItems).length < items.length + newItems.length := by
  induction newItems generalizing items with
  | nil => exact .inl (List.append_nil _).symm
  | cons head newItems ih =>
      rw [appendAll_cons, appendNew, List.length_cons]
      split_ifs with known
      · right
        rcases ih items with all | fewer
        · rw [all, List.length_append]
          omega
        · omega
      · rcases ih (items ++ [head]) with all | fewer
        · left
          rw [all, List.append_assoc, List.singleton_append]
        · right
          rw [List.length_append, List.length_singleton] at fewer
          omega

/-- Items that are left out in between would be left out at the end as well. -/
theorem appendAll_appendAll (known : ∀ item ∈ before, item ∈ items) (newItems : List α) :
    appendAll items (appendAll before newItems) = appendAll items newItems := by
  induction newItems using List.reverseRecOn with
  | nil => exact appendAll_of_subset known
  | append_singleton newItems last ih =>
      rw [appendAll_append, appendAll_append, ← ih, appendAll_cons, appendAll_cons, appendAll_nil,
        appendAll_nil]
      by_cases there : last ∈ appendAll before newItems
      · rw [appendNew, if_pos there, appendNew, if_pos (mem_appendAll.mpr (.inr there))]
      · rw [appendNew, if_neg there, appendAll_append, appendAll_cons, appendAll_nil]

@[simp] theorem mem_distinct : item ∈ distinct items ↔ item ∈ items := by
  simp [distinct]

theorem nodup_distinct (items : List α) : (distinct items).Nodup :=
  nodup_appendAll List.nodup_nil

/-- What comes later does not change the order of what came first. -/
theorem prefix_distinct (first later : List α) : distinct first <+: distinct (first ++ later) := by
  rw [distinct, distinct, appendAll_append]
  exact prefix_appendAll _ _

/-- Taking the later items without repetitions first makes no difference. -/
theorem distinct_append_distinct (first later : List α) :
    distinct (first ++ distinct later) = distinct (first ++ later) := by
  unfold distinct
  rw [appendAll_append, appendAll_append]
  exact appendAll_appendAll (by simp) later

/-- A list without repetitions stays as it is. -/
theorem distinct_of_nodup (nodup : items.Nodup) : distinct items = items :=
  appendAll_of_nodup nodup

end ProxyLauncher.Selection
