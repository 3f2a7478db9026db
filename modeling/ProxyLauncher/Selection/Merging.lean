import Mathlib

/-!
# Merging by a key

The items of a list are entered one by one.  An item whose key is there already is merged with
what is there.
-/

namespace ProxyLauncher.Selection

variable {α κ : Type} [DecidableEq κ] (key : α → κ) (merge : α → α → α)

/-- The entries after one more item. -/
def enter (entries : List α) (item : α) : List α :=
  if entries.any fun previous => decide (key previous = key item) then
    entries.map fun previous => if key previous = key item then merge previous item else previous
  else entries ++ [item]

/-- The items with a key. -/
def group (items : List α) (id : κ) : List α :=
  items.filter fun item => decide (key item = id)

/-- The items merged from the first one on. -/
def mergeAll : List α → Option α
  | [] => none
  | item :: items => some (items.foldl merge item)

variable {key merge}
variable {items entries : List α} {item : α} {id : κ}

@[simp] theorem mem_group : item ∈ group key items id ↔ item ∈ items ∧ key item = id := by
  simp [group]

theorem group_append_singleton (items : List α) (item : α) (id : κ) :
    group key (items ++ [item]) id =
      if key item = id then group key items id ++ [item] else group key items id := by
  rw [group, List.filter_append]
  by_cases same : key item = id
  · simp [same, group]
  · simp [same, group]

theorem mergeAll_append_singleton (items : List α) (item : α) :
    mergeAll merge (items ++ [item]) =
      some ((mergeAll merge items).elim item fun merged => merge merged item) := by
  cases items with
  | nil => rfl
  | cons first items => simp [mergeAll]

theorem mergeAll_eq_none : mergeAll merge items = none ↔ items = [] := by
  cases items with
  | nil => simp [mergeAll]
  | cons first items => simp [mergeAll]

omit [DecidableEq κ] in
/-- The key of a merged item is the one of its group. -/
theorem key_of_mergeAll
    (keeps : ∀ previous item, key previous = key item → key (merge previous item) = key item)
    (all : ∀ item ∈ items, key item = id) (merged : mergeAll merge items = some item) :
    key item = id := by
  induction items using List.reverseRecOn generalizing item with
  | nil => cases merged
  | append_singleton items last ih =>
      rw [mergeAll_append_singleton] at merged
      obtain rfl := Option.some.inj merged
      have lastKey := all last (by simp)
      cases before : mergeAll merge items with
      | none => exact lastKey
      | some previous =>
          have previousKey := ih (fun item there => all item (by simp [there])) before
          exact (keeps previous last (previousKey.trans lastKey.symm)).trans lastKey

theorem keys_enter
    (keeps : ∀ previous item, key previous = key item → key (merge previous item) = key item)
    (entries : List α) (item : α) :
    (enter key merge entries item).map key =
      if key item ∈ entries.map key then entries.map key else entries.map key ++ [key item] := by
  have there : (entries.any fun previous => decide (key previous = key item)) = true ↔
      key item ∈ entries.map key := by
    simp
  rw [enter]
  by_cases present : key item ∈ entries.map key
  · rw [if_pos (there.mpr present), if_pos present, List.map_map]
    refine List.map_congr_left ?_
    intro previous _
    rw [Function.comp_apply]
    split_ifs with same
    · exact (keeps previous item same).trans same.symm
    · rfl
  · rw [if_neg (mt there.mp present), if_neg present]
    simp

/-- The entries have different keys, and each is the merged group of its key. -/
theorem entries_spec
    (keeps : ∀ previous item, key previous = key item → key (merge previous item) = key item)
    (items : List α) :
    ((items.foldl (enter key merge) []).map key).Nodup ∧
      ∀ entry, entry ∈ items.foldl (enter key merge) [] ↔
        mergeAll merge (group key items (key entry)) = some entry := by
  induction items using List.reverseRecOn with
  | nil => simp [group, mergeAll]
  | append_singleton items item ih =>
      obtain ⟨distinct, spec⟩ := ih
      rw [List.foldl_append, List.foldl_cons, List.foldl_nil]
      generalize items.foldl (enter key merge) [] = entries at distinct spec
      constructor
      · rw [keys_enter keeps]
        split_ifs with present
        · exact distinct
        · rw [← List.concat_eq_append]
          exact distinct.concat present
      · intro entry
        rw [group_append_singleton]
        by_cases present : key item ∈ entries.map key
        · obtain ⟨old, there, sameKey⟩ := List.mem_map.mp present
          have former : mergeAll merge (group key items (key item)) = some old :=
            sameKey ▸ (spec old).mp there
          have any : (entries.any fun previous => decide (key previous = key item)) = true :=
            List.any_eq_true.mpr ⟨old, there, decide_eq_true sameKey⟩
          rw [enter, if_pos any, List.mem_map]
          by_cases own : key item = key entry
          · rw [if_pos own, ← own, mergeAll_append_singleton, former, Option.elim_some,
              Option.some.injEq]
            constructor
            · rintro ⟨previous, member, changed⟩
              by_cases same : key previous = key item
              · have again := (spec previous).mp member
                rw [same, former] at again
                rw [if_pos same, ← Option.some.inj again] at changed
                exact changed
              · rw [if_neg same] at changed
                exact absurd (changed ▸ own.symm) same
            · rintro rfl
              exact ⟨old, there, if_pos sameKey⟩
          · rw [if_neg own, ← spec entry]
            constructor
            · rintro ⟨previous, member, changed⟩
              by_cases same : key previous = key item
              · rw [if_pos same] at changed
                exact absurd (changed ▸ (keeps previous item same)).symm own
              · rw [if_neg same] at changed
                exact changed ▸ member
            · intro member
              exact ⟨entry, member, if_neg fun same => own same.symm⟩
        · have nothing : mergeAll merge (group key items (key item)) = none := by
            cases former : mergeAll merge (group key items (key item)) with
            | none => rfl
            | some old =>
                have sameKey : key old = key item :=
                  key_of_mergeAll keeps (fun other member => (mem_group.mp member).2) former
                exact absurd (List.mem_map.mpr ⟨old, (spec old).mpr (sameKey ▸ former), sameKey⟩)
                  present
          have none : ¬ (entries.any fun previous => decide (key previous = key item)) = true := by
            simpa using present
          rw [enter, if_neg none, List.mem_append, List.mem_singleton]
          by_cases own : key item = key entry
          · rw [if_pos own, ← own, mergeAll_append_singleton, nothing, Option.elim_none,
              Option.some.injEq]
            constructor
            · rintro (member | rfl)
              · exact absurd (List.mem_map.mpr ⟨entry, member, own.symm⟩) present
              · rfl
            · rintro rfl
              exact .inr rfl
          · rw [if_neg own, ← spec entry]
            constructor
            · rintro (member | rfl)
              · exact member
              · exact absurd rfl own
            · exact .inl

/-- Items with different keys are their own entries. -/
theorem foldl_enter_of_nodup (distinct : ((entries ++ items).map key).Nodup) :
    items.foldl (enter key merge) entries = entries ++ items := by
  induction items generalizing entries with
  | nil => simp
  | cons item items ih =>
      have absent : ¬ (entries.any fun previous => decide (key previous = key item)) = true := by
        intro present
        obtain ⟨previous, there, same⟩ := List.any_eq_true.mp present
        rw [List.map_append, List.nodup_append] at distinct
        exact distinct.2.2 (key previous) (List.mem_map_of_mem there) (key item) (by simp)
          (of_decide_eq_true same)
      have step : enter key merge entries item = entries ++ [item] := by
        rw [enter, if_neg absent]
      have split : entries ++ item :: items = entries ++ [item] ++ items := by simp
      rw [List.foldl_cons, step, split]
      exact ih (split ▸ distinct)

end ProxyLauncher.Selection
