import ProxyLauncher.Python.JsonRead

/-!
# Values inside of values

The induction over JSON values, and dictionaries that are filled by assignments.
-/

namespace ProxyLauncher.Python

/-- A property of the values of a list or dictionary passes to the whole. -/
@[elab_as_elim]
theorem Json.induct {motive : Json → Prop} (null : motive .null)
    (bool : ∀ value, motive (.bool value)) (int : ∀ value, motive (.int value))
    (float : ∀ text, motive (.float text)) (string : ∀ text, motive (.string text))
    (array : ∀ values, (∀ value ∈ values, motive value) → motive (.array values))
    (object : ∀ entries, (∀ entry ∈ entries, motive entry.2) → motive (.object entries))
    (value : Json) : motive value := by
  refine @Json.rec motive (fun values => ∀ value ∈ values, motive value)
    (fun entries => ∀ entry ∈ entries, motive entry.2) (fun entry => motive entry.2) null bool int
    float string array object ?_ ?_ ?_ ?_ ?_ value
  · intro value member
    exact absurd member List.not_mem_nil
  · intro head tail first rest
    exact List.forall_mem_cons.mpr ⟨first, rest⟩
  · intro value member
    exact absurd member List.not_mem_nil
  · intro head tail first rest
    exact List.forall_mem_cons.mpr ⟨first, rest⟩
  · intro key value whole
    exact whole

variable {key : String} {value : Json} {entries others writes out : List (String × Json)}

/-- The dictionary after these assignments. -/
def assigned (out writes : List (String × Json)) : List (String × Json) :=
  writes.foldl (fun out write => setEntry out write.1 write.2) out

/-- The value of the last assignment to a key. -/
def lastWrite (key : String) : List (String × Json) → Option Json
  | [] => none
  | write :: writes => (lastWrite key writes).or (if write.1 = key then some write.2 else none)

@[simp] theorem assigned_nil : assigned out [] = out := rfl

@[simp] theorem assigned_cons (write : String × Json) :
    assigned out (write :: writes) = assigned (setEntry out write.1 write.2) writes := rfl

theorem map_fst_setEntry :
    (setEntry entries key value).map Prod.fst =
      if key ∈ entries.map Prod.fst then entries.map Prod.fst else entries.map Prod.fst ++ [key] := by
  rw [setEntry]
  split_ifs with there
  · rw [List.map_map]
    apply List.map_congr_left
    intro entry member
    rw [Function.comp_apply]
    split_ifs with same
    · exact same.symm
    · rfl
  · rw [List.map_append, List.map_singleton]

theorem nodup_setEntry (nodup : (entries.map Prod.fst).Nodup) :
    ((setEntry entries key value).map Prod.fst).Nodup := by
  rw [map_fst_setEntry]
  split_ifs with there
  · exact nodup
  · exact List.nodup_append.mpr ⟨nodup, List.nodup_singleton key, fun other member last single same =>
      there (List.mem_singleton.mp single ▸ same ▸ member)⟩

theorem lookup_of_notMem (missing : key ∉ entries.map Prod.fst) : entries.lookup key = none := by
  rw [List.lookup_eq_none_iff]
  intro entry member
  rw [bne_iff_ne]
  exact fun named => missing (named ▸ List.mem_map_of_mem member)

theorem lookup_replaced (other : String) :
    (entries.map fun entry => if entry.1 = key then (key, value) else entry).lookup other =
      if other = key then (entries.lookup key).map fun _ => value else entries.lookup other := by
  induction entries with
  | nil => exact (ite_self none).symm
  | cons entry entries ih =>
      obtain ⟨first, old⟩ := entry
      rw [List.map_cons]
      by_cases written : first = key
      · subst written
        rw [if_pos rfl, List.lookup_cons, ih, List.lookup_cons, List.lookup_cons, beq_self_eq_true]
        by_cases same : other = first
        · simp only [same, beq_self_eq_true, if_true]
          rfl
        · rw [beq_false_of_ne same, if_neg same, if_neg same]
      · rw [if_neg written, List.lookup_cons, ih, List.lookup_cons, List.lookup_cons,
          beq_false_of_ne (Ne.symm written)]
        by_cases same : other = key
        · rw [same, beq_false_of_ne (Ne.symm written), if_pos rfl]
        · rw [if_neg same, if_neg same]

theorem lookup_setEntry (other : String) :
    (setEntry entries key value).lookup other =
      if other = key then some value else entries.lookup other := by
  rw [setEntry]
  split_ifs with there same same
  · obtain ⟨entry, member, rfl⟩ := List.mem_map.mp there
    rw [lookup_replaced, if_pos same]
    cases found : entries.lookup entry.1 with
    | none => exact absurd (List.lookup_eq_none_iff.mp found entry member) (by simp)
    | some old => rfl
  · rw [lookup_replaced, if_neg same]
  · rw [List.lookup_append, same, lookup_of_notMem there, Option.none_or, List.lookup_cons,
      beq_self_eq_true]
  · rw [List.lookup_append, List.lookup_cons, beq_false_of_ne same]
    exact Option.or_none

theorem lookup_assigned :
    (assigned out writes).lookup key = (lastWrite key writes).or (out.lookup key) := by
  induction writes generalizing out with
  | nil => rfl
  | cons write writes ih =>
      rw [assigned_cons, ih, lookup_setEntry, lastWrite, Option.or_assoc]
      congr 1
      by_cases same : write.1 = key
      · rw [if_pos same, if_pos same.symm, Option.some_or]
      · rw [if_neg same, if_neg (Ne.symm same), Option.none_or]

theorem isSome_lastWrite : (lastWrite key writes).isSome ↔ key ∈ writes.map Prod.fst := by
  induction writes with
  | nil => simp [lastWrite]
  | cons write writes ih =>
      rw [lastWrite, Option.isSome_or, Bool.or_eq_true, ih, List.map_cons, List.mem_cons, or_comm]
      by_cases same : write.1 = key
      · simp [same]
      · simp [same, Ne.symm same]

/-- Dictionaries with the same keys in the same order are equal when they agree on each key. -/
theorem eq_of_lookup_eq (keys : entries.map Prod.fst = others.map Prod.fst)
    (nodup : (entries.map Prod.fst).Nodup)
    (same : ∀ key, entries.lookup key = others.lookup key) : entries = others := by
  induction entries generalizing others with
  | nil => exact (List.map_eq_nil_iff.mp keys.symm).symm
  | cons entry entries ih =>
      cases others with
      | nil => cases keys
      | cons other others =>
          obtain ⟨key, value⟩ := entry
          obtain ⟨key', value'⟩ := other
          obtain ⟨rfl, rest⟩ := List.cons.inj keys
          have fresh := (List.nodup_cons.mp nodup).1
          have first := same key
          rw [List.lookup_cons, List.lookup_cons, beq_self_eq_true] at first
          obtain rfl := Option.some.inj first
          congr 1
          apply ih rest (List.nodup_cons.mp nodup).2
          intro other
          have later := same other
          rw [List.lookup_cons, List.lookup_cons] at later
          by_cases own : other = key
          · rw [own, lookup_of_notMem fresh, lookup_of_notMem (rest ▸ fresh)]
          · rwa [beq_false_of_ne own] at later

theorem map_fst_assigned (keys : writes.map Prod.fst = others.map Prod.fst)
    (same : out.map Prod.fst = entries.map Prod.fst) :
    (assigned out writes).map Prod.fst = (assigned entries others).map Prod.fst := by
  induction writes generalizing others out entries with
  | nil =>
      obtain rfl := List.map_eq_nil_iff.mp keys.symm
      exact same
  | cons write writes ih =>
      cases others with
      | nil => cases keys
      | cons other others =>
          obtain ⟨first, rest⟩ := List.cons.inj keys
          apply ih rest
          rw [map_fst_setEntry, map_fst_setEntry, same, first]

theorem nodup_assigned (nodup : (out.map Prod.fst).Nodup) :
    ((assigned out writes).map Prod.fst).Nodup := by
  induction writes generalizing out with
  | nil => exact nodup
  | cons write writes ih => exact ih (nodup_setEntry nodup)

/-- Assignments to the same keys make the same dictionary when their last values agree. -/
theorem assigned_eq_iff (keys : writes.map Prod.fst = others.map Prod.fst) :
    assigned [] writes = assigned [] others ↔
      ∀ key, lastWrite key writes = lastWrite key others := by
  constructor
  · intro same key
    have found := congrArg (List.lookup key) same
    rwa [lookup_assigned, lookup_assigned, List.lookup_nil, Option.or_none, Option.or_none] at found
  · intro same
    apply eq_of_lookup_eq (map_fst_assigned keys rfl) (@nodup_assigned _ [] List.nodup_nil)
    intro key
    rw [lookup_assigned, lookup_assigned, same]

end ProxyLauncher.Python
