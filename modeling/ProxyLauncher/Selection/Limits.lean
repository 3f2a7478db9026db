import Mathlib

/-!
# Selecting within limits

The items of a list are taken from the front while there is room: for their kind among the kinds,
and for one more of their kind.
-/

namespace ProxyLauncher.Selection

variable {α β : Type} [DecidableEq β] (kind : α → β) (kinds each : ℕ)

/-- The selection after one more item. -/
def takeItem (result : List α) (item : α) : List α :=
  let chosen := result.map kind
  if kind item ∉ chosen ∧ chosen.dedup.length ≥ kinds then result
  else if chosen.count (kind item) ≥ each then result
  else result ++ [item]

def select (items : List α) : List α :=
  items.foldl (takeItem kind kinds each) []

/-- The number of kinds. -/
def variety (items : List α) : ℕ :=
  (items.map kind).dedup.length

/-- The items before the first one of a kind. -/
def ahead (items : List α) (wanted : β) : List α :=
  items.takeWhile fun item => decide (kind item ≠ wanted)

/-- There is room for an item behind the others. -/
def Room (items : List α) (item : α) : Prop :=
  variety kind (ahead kind items (kind item)) < kinds ∧
    (items.map kind).count (kind item) < each

instance (items : List α) (item : α) : Decidable (Room kind kinds each items item) :=
  inferInstanceAs (Decidable (_ ∧ _))

variable {kind kinds each}
variable {items result before after : List α} {item : α} {wanted : β}

theorem select_append_singleton (items : List α) (item : α) :
    select kind kinds each (items ++ [item]) =
      takeItem kind kinds each (select kind kinds each items) item := by
  rw [select, List.foldl_append]
  rfl

theorem variety_append_singleton (items : List α) (item : α) :
    variety kind (items ++ [item]) =
      variety kind items + if kind item ∈ items.map kind then 0 else 1 := by
  simp only [variety, ← List.card_toFinset, List.map_append, List.toFinset_append, List.map_cons,
    List.map_nil]
  have single : [kind item].toFinset = {kind item} := rfl
  rw [single, Finset.union_comm, ← Finset.insert_eq]
  split_ifs with present
  · rw [Finset.insert_eq_of_mem (List.mem_toFinset.mpr present), Nat.add_zero]
  · rw [Finset.card_insert_of_notMem (mt List.mem_toFinset.mp present)]

theorem variety_le_of_subset {others : List α} (subset : items ⊆ others) :
    variety kind items ≤ variety kind others := by
  rw [variety, variety, ← List.card_toFinset, ← List.card_toFinset]
  refine Finset.card_le_card ?_
  intro found member
  rw [List.mem_toFinset] at member ⊢
  exact List.map_subset kind subset member

theorem variety_congr {α' : Type} {kind' : α' → β} {others : List α'}
    (same : ∀ wanted, (∃ item ∈ items, kind item = wanted) ↔ ∃ item ∈ others, kind' item = wanted) :
    variety kind items = variety kind' others := by
  rw [variety, variety, ← List.card_toFinset, ← List.card_toFinset]
  refine congrArg Finset.card (Finset.ext fun wanted => ?_)
  rw [List.mem_toFinset, List.mem_toFinset, List.mem_map, List.mem_map]
  exact same wanted

theorem ahead_of_absent (absent : wanted ∉ items.map kind) : ahead kind items wanted = items := by
  refine List.takeWhile_eq_self_iff.mpr ?_
  intro item member
  exact decide_eq_true fun same => absent (same ▸ List.mem_map_of_mem member)

theorem ahead_append_singleton (items : List α) (item : α) (wanted : β) :
    ahead kind (items ++ [item]) wanted =
      if wanted ∈ items.map kind ∨ kind item = wanted then ahead kind items wanted
      else items ++ [item] := by
  by_cases present : wanted ∈ items.map kind
  · rw [if_pos (.inl present), ahead, List.takeWhile_append, if_neg]
    · rfl
    · intro whole
      have same := (List.takeWhile_prefix _).eq_of_length whole
      obtain ⟨first, member, rfl⟩ := List.mem_map.mp present
      exact of_decide_eq_true (List.takeWhile_eq_self_iff.mp same first member) rfl
  · have none := ahead_of_absent present
    by_cases own : kind item = wanted
    · rw [if_pos (.inr own), ahead, List.takeWhile_append_of_pos]
      · simp [own, none]
      · intro other member
        exact decide_eq_true fun same => present (same ▸ List.mem_map_of_mem member)
    · rw [if_neg (by simp [present, own])]
      exact ahead_of_absent (by simp [present, Ne.symm own])

theorem ahead_subset : ahead kind items wanted ⊆ items :=
  (List.takeWhile_sublist _).subset

theorem takeItem_eq_append (result : List α) (item : α) :
    takeItem kind kinds each result item = result ++
      if (0 < (result.map kind).count (kind item) ∨ variety kind result < kinds) ∧
        (result.map kind).count (kind item) < each then [item] else [] := by
  have chosen : kind item ∈ result.map kind ↔ 0 < (result.map kind).count (kind item) :=
    List.count_pos_iff.symm
  unfold takeItem variety
  dsimp only
  simp only [chosen]
  split_ifs <;> first | omega | simp

/-- An item is taken when there is room for it behind all the items before. -/
theorem takeItem_eq (positive : 0 < each)
    (counts : (result.map kind).count (kind item) =
      if variety kind (ahead kind items (kind item)) < kinds then
        min each ((items.map kind).count (kind item))
      else 0)
    (number : variety kind result = min kinds (variety kind items)) :
    takeItem kind kinds each result item =
      result ++ if Room kind kinds each items item then [item] else [] := by
  rw [takeItem_eq_append]
  congr 1
  refine if_congr ?_ rfl rfl
  rw [counts, number, Room]
  by_cases present : kind item ∈ items.map kind
  · have some : 0 < (items.map kind).count (kind item) := List.count_pos_iff.mpr present
    have fewer : variety kind (ahead kind items (kind item)) ≤ variety kind items :=
      variety_le_of_subset ahead_subset
    split_ifs <;> omega
  · have none : (items.map kind).count (kind item) = 0 := List.count_eq_zero.mpr present
    rw [ahead_of_absent present, none]
    split_ifs <;> omega

/-- How many items of each kind and how many kinds have been selected. -/
theorem select_spec (positive : 0 < each) (items : List α) :
    (∀ wanted, ((select kind kinds each items).map kind).count wanted =
      if variety kind (ahead kind items wanted) < kinds then
        min each ((items.map kind).count wanted)
      else 0) ∧
    variety kind (select kind kinds each items) = min kinds (variety kind items) := by
  induction items using List.reverseRecOn with
  | nil => simp [select, variety]
  | append_singleton items item ih =>
      obtain ⟨counts, number⟩ := ih
      rw [select_append_singleton]
      generalize select kind kinds each items = result at counts number
      rw [takeItem_eq positive (counts (kind item)) number]
      constructor
      · intro wanted
        rw [List.map_append, List.count_append, counts wanted, List.map_append,
          List.count_append]
        by_cases own : kind item = wanted
        · subst own
          rw [ahead_append_singleton, if_pos (Or.inr rfl), List.map_singleton,
            List.count_singleton_self]
          by_cases room : Room kind kinds each items item
          · have less := room.2
            rw [if_pos room, if_pos room.1, if_pos room.1, List.map_singleton,
              List.count_singleton_self]
            omega
          · rw [if_neg room, List.map_nil, List.count_nil, Nat.add_zero]
            rw [Room, not_and, not_lt] at room
            split_ifs with admitted
            · have full := room admitted
              omega
            · rfl
        · have other : ([item].map kind).count wanted = 0 :=
            List.count_eq_zero.mpr (by simpa using Ne.symm own)
          have nothing : ((if Room kind kinds each items item then [item] else []).map kind).count
              wanted = 0 := by
            split_ifs
            · exact other
            · rfl
          rw [other, nothing, Nat.add_zero, Nat.add_zero]
          by_cases present : wanted ∈ items.map kind
          · rw [ahead_append_singleton, if_pos (Or.inl present)]
          · rw [List.count_eq_zero.mpr present]
            simp
      · have fewer : variety kind (ahead kind items (kind item)) ≤ variety kind items :=
          variety_le_of_subset ahead_subset
        have chosen : kind item ∈ result.map kind ↔ 0 < (result.map kind).count (kind item) :=
          List.count_pos_iff.symm
        rw [variety_append_singleton]
        by_cases present : kind item ∈ items.map kind
        · have some : 0 < (items.map kind).count (kind item) := List.count_pos_iff.mpr present
          rw [if_pos present]
          by_cases room : Room kind kinds each items item
          · have again : kind item ∈ result.map kind := by
              rw [chosen, counts, if_pos room.1]
              omega
            rw [if_pos room, variety_append_singleton, number, if_pos again]
            rfl
          · rw [if_neg room, List.append_nil, number]
            rfl
        · have none : (items.map kind).count (kind item) = 0 := List.count_eq_zero.mpr present
          have room : Room kind kinds each items item ↔ variety kind items < kinds := by
            rw [Room, ahead_of_absent present, none]
            exact and_iff_left positive
          have unchosen : kind item ∉ result.map kind := by
            rw [chosen, counts, none]
            simp
          rw [if_neg present]
          split_ifs with free
          · rw [variety_append_singleton, number, if_neg unchosen]
            have less := room.mp free
            omega
          · rw [List.append_nil, number]
            have full := mt room.mpr free
            omega

theorem select_sublist : (select kind kinds each items).Sublist items := by
  induction items using List.reverseRecOn with
  | nil => exact List.Sublist.refl _
  | append_singleton items item ih =>
      rw [select_append_singleton, takeItem_eq_append]
      refine ih.append ?_
      split_ifs
      · exact List.Sublist.refl _
      · exact List.nil_sublist _

theorem variety_select_le (positive : 0 < each) :
    variety kind (select kind kinds each items) ≤ kinds := by
  rw [(select_spec positive items).2]
  exact min_le_left _ _

theorem count_select_le (positive : 0 < each) (wanted : β) :
    ((select kind kinds each items).map kind).count wanted ≤ each := by
  rw [(select_spec positive items).1]
  split_ifs
  · exact min_le_left _ _
  · exact Nat.zero_le _

/-- An item is selected when there is room for it behind the items before it. -/
theorem mem_select_iff (positive : 0 < each) (distinct : (before ++ item :: after).Nodup) :
    item ∈ select kind kinds each (before ++ item :: after) ↔ Room kind kinds each before item := by
  obtain ⟨-, new, apart⟩ := List.nodup_append.mp distinct
  have later : item ∉ after := (List.nodup_cons.mp new).1
  have earlier : item ∉ select kind kinds each before := fun member =>
    apart item (select_sublist.subset member) item (by simp) rfl
  have rest (items result : List α) (outside : item ∉ items) :
      item ∈ items.foldl (takeItem kind kinds each) result ↔ item ∈ result := by
    induction items generalizing result with
    | nil => rfl
    | cons first items ih =>
        rw [List.mem_cons, not_or] at outside
        rw [List.foldl_cons, ih _ outside.2, takeItem_eq_append]
        split_ifs
        · simp [outside.1]
        · simp
  rw [select, List.foldl_append, List.foldl_cons, rest _ _ later]
  obtain ⟨counts, number⟩ := @select_spec _ _ _ kind kinds each positive before
  change item ∈ takeItem kind kinds each (select kind kinds each before) item ↔ _
  rw [takeItem_eq positive (counts (kind item)) number]
  split_ifs with room
  · simp [room]
  · simpa [room] using earlier

/-- A list within the limits is selected whole. -/
theorem select_eq_self (few : variety kind items ≤ kinds)
    (bounded : ∀ wanted, (items.map kind).count wanted ≤ each) :
    select kind kinds each items = items := by
  induction items using List.reverseRecOn with
  | nil => rfl
  | append_singleton items item ih =>
      have less := @variety_append_singleton _ _ _ kind items item
      have own := bounded (kind item)
      rw [List.map_append, List.count_append] at own
      simp only [List.map_cons, List.map_nil, List.count_singleton_self] at own
      rw [select_append_singleton, ih (by omega)]
      · rw [takeItem_eq_append, if_pos]
        refine ⟨?_, by omega⟩
        rw [List.count_pos_iff]
        by_cases present : kind item ∈ items.map kind
        · exact .inl present
        · rw [if_neg present] at less
          exact .inr (by omega)
      · intro wanted
        refine le_trans ?_ (bounded wanted)
        rw [List.map_append, List.count_append]
        exact Nat.le_add_right _ _

theorem select_select (positive : 0 < each) :
    select kind kinds each (select kind kinds each items) = select kind kinds each items :=
  select_eq_self (variety_select_le positive) (count_select_le positive)

section Sorted

variable {κ : Type} [LinearOrder κ] {key : α → κ}

/-- Few kinds are before the first item of the kind, and few items of the kind before the item. -/
def Within (kind : α → β) (kinds each : ℕ) (key : α → κ) (items : List α) (item : α) : Prop :=
  variety kind (items.filter fun other => decide (∀ same ∈ items, kind same = kind item →
    key other < key same)) < kinds ∧
  variety key (items.filter fun other => decide (kind other = kind item ∧ key other < key item)) <
    each

instance (items : List α) (item : α) : Decidable (Within kind kinds each key items item) :=
  inferInstanceAs (Decidable (_ ∧ _))

theorem mem_ahead (sorted : items.Pairwise fun first second => key first < key second) :
    item ∈ ahead kind items wanted ↔
      item ∈ items ∧ ∀ same ∈ items, kind same = wanted → key item < key same := by
  induction items with
  | nil => simp [ahead]
  | cons first items ih =>
      obtain ⟨least, sorted⟩ := List.pairwise_cons.mp sorted
      have tail := ih sorted
      rw [ahead] at tail ⊢
      by_cases own : kind first = wanted
      · rw [List.takeWhile_cons_of_neg (by simpa using own)]
        refine iff_of_false List.not_mem_nil ?_
        rintro ⟨member, before⟩
        have less := before first (by simp) own
        rcases List.mem_cons.mp member with rfl | later
        · exact lt_irrefl _ less
        · exact lt_asymm less (least item later)
      · rw [List.takeWhile_cons_of_pos (by simpa using own), List.mem_cons, List.mem_cons, tail]
        constructor
        · rintro (rfl | ⟨member, before⟩)
          · refine ⟨.inl rfl, ?_⟩
            intro same there sameKind
            rcases List.mem_cons.mp there with rfl | later
            · exact absurd sameKind own
            · exact least same later
          · refine ⟨.inr member, ?_⟩
            intro same there sameKind
            rcases List.mem_cons.mp there with rfl | later
            · exact absurd sameKind own
            · exact before same later sameKind
        · rintro ⟨rfl | member, before⟩
          · exact .inl rfl
          · exact .inr ⟨member, fun same later => before same (List.mem_cons_of_mem _ later)⟩

theorem count_eq_variety (sorted : items.Pairwise fun first second => key first < key second)
    (wanted : β) : (items.map kind).count wanted =
      variety key (items.filter fun item => decide (kind item = wanted)) := by
  have distinct : ((items.filter fun item => decide (kind item = wanted)).map key).Nodup := by
    refine List.pairwise_map.mpr ((sorted.sublist List.filter_sublist).imp ?_)
    exact fun less => ne_of_lt less
  rw [variety, distinct.dedup, List.length_map, List.count_eq_length_filter, List.filter_map,
    List.length_map]
  rfl

/-- In the order of their keys the items are selected that are within the limits. -/
theorem mem_select_of_sorted (positive : 0 < each)
    (sorted : items.Pairwise fun first second => key first < key second) (member : item ∈ items) :
    item ∈ select kind kinds each items ↔ Within kind kinds each key items item := by
  obtain ⟨before, after, rfl⟩ := List.append_of_mem member
  have distinct : (before ++ item :: after).Nodup := by
    refine sorted.imp ?_
    rintro first _ less rfl
    exact lt_irrefl _ less
  obtain ⟨front, back, apart⟩ := List.pairwise_append.mp sorted
  have behind := (List.pairwise_cons.mp back).1
  have less {other : α} (there : other ∈ before ++ item :: after) :
      key other < key item ↔ other ∈ before := by
    rcases List.mem_append.mp there with earlier | later
    · exact iff_of_true (apart other earlier item (by simp)) earlier
    · rcases List.mem_cons.mp later with rfl | later
      · refine iff_of_false (lt_irrefl _) fun earlier => ?_
        exact lt_irrefl _ (apart other earlier other (by simp))
      · refine iff_of_false (lt_asymm (behind other later)) fun earlier => ?_
        exact lt_asymm (behind other later) (apart other earlier item (by simp))
  have start : ahead kind (before ++ item :: after) (kind item) =
      ahead kind before (kind item) := by
    rw [ahead, List.takeWhile_append]
    split_ifs with whole
    · have same := (List.takeWhile_prefix _).eq_of_length whole
      rw [List.takeWhile_cons_of_neg (by simp), List.append_nil, ahead, same]
    · rfl
  rw [mem_select_iff positive distinct, Room, Within, ← start, count_eq_variety front]
  refine and_congr (Eq.to_iff (congrArg (· < kinds) (variety_congr ?_)))
    (Eq.to_iff (congrArg (· < each) (variety_congr ?_)))
  · intro wanted
    simp only [mem_ahead sorted, List.mem_filter, decide_eq_true_eq]
  · intro id
    simp only [List.mem_filter, decide_eq_true_eq]
    constructor
    · rintro ⟨other, ⟨earlier, sameKind⟩, same⟩
      have there : other ∈ before ++ item :: after := List.mem_append_left _ earlier
      exact ⟨other, ⟨there, sameKind, (less there).mpr earlier⟩, same⟩
    · rintro ⟨other, ⟨there, sameKind, smaller⟩, same⟩
      exact ⟨other, ⟨(less there).mp smaller, sameKind⟩, same⟩

/-- Being within the limits is about the keys and the kinds of the items. -/
theorem within_congr {others : List α} {other : α} (sameKind : kind other = kind item)
    (sameKey : key other = key item)
    (forth : ∀ item ∈ items, ∃ other ∈ others, kind other = kind item ∧ key other = key item)
    (back : ∀ other ∈ others, ∃ item ∈ items, kind item = kind other ∧ key item = key other) :
    Within kind kinds each key items item ↔ Within kind kinds each key others other := by
  have least {first first' : α} (sameKey : key first' = key first) :
      (∀ same ∈ items, kind same = kind item → key first < key same) ↔
        ∀ same ∈ others, kind same = kind other → key first' < key same := by
    rw [sameKind, sameKey]
    constructor
    · intro every same there ofKind
      obtain ⟨same', there', kinds, keys⟩ := back same there
      exact keys ▸ every same' there' (kinds.trans ofKind)
    · intro every same there ofKind
      obtain ⟨same', there', kinds, keys⟩ := forth same there
      exact keys ▸ every same' there' (kinds.trans ofKind)
  refine and_congr (Eq.to_iff (congrArg (· < kinds) (variety_congr ?_)))
    (Eq.to_iff (congrArg (· < each) (variety_congr ?_)))
  · intro wanted
    simp only [List.mem_filter, decide_eq_true_eq]
    constructor
    · rintro ⟨first, ⟨there, every⟩, rfl⟩
      obtain ⟨first', there', kinds, keys⟩ := forth first there
      exact ⟨first', ⟨there', (least keys).mp every⟩, kinds⟩
    · rintro ⟨first, ⟨there, every⟩, rfl⟩
      obtain ⟨first', there', kinds, keys⟩ := back first there
      exact ⟨first', ⟨there', (least keys.symm).mpr every⟩, kinds⟩
  · intro id
    simp only [List.mem_filter, decide_eq_true_eq, sameKind, sameKey]
    constructor
    · rintro ⟨first, ⟨there, ofKind, smaller⟩, rfl⟩
      obtain ⟨first', there', kinds, keys⟩ := forth first there
      exact ⟨first', ⟨there', kinds.trans ofKind, keys ▸ smaller⟩, keys⟩
    · rintro ⟨first, ⟨there, ofKind, smaller⟩, rfl⟩
      obtain ⟨first', there', kinds, keys⟩ := back first there
      exact ⟨first', ⟨there', kinds.trans ofKind, keys ▸ smaller⟩, keys⟩

end Sorted

end ProxyLauncher.Selection
