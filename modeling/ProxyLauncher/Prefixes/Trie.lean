import Mathlib.Data.List.Infix
import Mathlib.Data.List.Dedup
import Mathlib.Data.List.Perm.Subperm
import Mathlib.Data.Nat.Find

/-!
# Free prefixes and binary tries

A prefix is free of a set of strings when no string of the set begins with it.  The maximal
free prefixes split the strings outside the set.  A binary trie of strings of one length finds
them by a walk over its nodes.
-/

namespace ProxyLauncher.Prefixes

section Free

variable {α : Type*} {strings : Set (List α)} {start start' whole : List α}

/-- No string begins with the prefix. -/
def Free (strings : Set (List α)) (start : List α) : Prop :=
  ∀ rest, start ++ rest ∉ strings

/-- A free prefix with no free prefix of its own. -/
structure MaximalFree (strings : Set (List α)) (start : List α) : Prop where
  free : Free strings start
  maximal : ∀ shorter, shorter <+: start → shorter ≠ start → ¬ Free strings shorter

theorem Free.of_prefix (free : Free strings start) (longer : start <+: whole) :
    Free strings whole := by
  obtain ⟨rest, rfl⟩ := longer
  intro further
  rw [List.append_assoc]
  exact free (rest ++ further)

theorem Free.notMem (free : Free strings start) (begins : start <+: whole) : whole ∉ strings := by
  obtain ⟨rest, rfl⟩ := begins
  exact free rest

theorem not_free_iff : ¬ Free strings start ↔ ∃ string ∈ strings, start <+: string := by
  constructor
  · intro taken
    obtain ⟨rest, member⟩ := not_forall_not.mp taken
    exact ⟨_, member, List.prefix_append _ _⟩
  · rintro ⟨string, member, begins⟩ free
    exact free.notMem begins member

/-- A string outside the set that is not the beginning of one of its strings begins with a maximal
free prefix. -/
theorem Free.exists_maximalFree (free : Free strings whole) :
    ∃ start, start <+: whole ∧ MaximalFree strings start := by
  have lengths : ∃ length, Free strings (whole.take length) := ⟨whole.length, by simpa using free⟩
  classical
  refine ⟨whole.take (Nat.find lengths), List.take_prefix _ _, Nat.find_spec lengths, ?_⟩
  intro shorter begins different free'
  have proper : shorter.length < (whole.take (Nat.find lengths)).length :=
    lt_of_le_of_ne begins.length_le fun same => different (begins.eq_of_length same)
  have cut : whole.take shorter.length = shorter :=
    (List.prefix_iff_eq_take.mp (begins.trans (List.take_prefix _ _))).symm
  have least : shorter.length < Nat.find lengths :=
    lt_of_lt_of_le proper (List.length_take_le _ _)
  exact Nat.find_min lengths least (by rwa [cut])

/-- A string of the common length is free when it is not in the set. -/
theorem free_of_notMem {n : ℕ} (lengths : ∀ string ∈ strings, string.length = n)
    (full : whole.length = n) (outside : whole ∉ strings) : Free strings whole := by
  intro rest member
  have length := lengths _ member
  rw [List.length_append, full] at length
  rw [List.eq_nil_of_length_eq_zero (by omega : rest.length = 0), List.append_nil] at member
  exact outside member

/-- Which prefixes have a maximal free prefix among their extensions. -/
theorem exists_maximalFree_extending {n : ℕ} (filler : α)
    (lengths : ∀ string ∈ strings, string.length = n) (proper : start ≠ []) :
    (∃ gap, gap.length ≤ n ∧ MaximalFree strings gap ∧ start <+: gap) ↔
      ¬ Free strings start.dropLast ∧
        ∃ whole, whole.length = n ∧ start <+: whole ∧ whole ∉ strings := by
  constructor
  · rintro ⟨gap, short, maximal, begins⟩
    have shorter : start.dropLast.length < start.length := by
      rw [List.length_dropLast]
      exact Nat.sub_one_lt (mt List.eq_nil_of_length_eq_zero proper)
    refine ⟨maximal.maximal _ ((List.dropLast_prefix start).trans begins) ?_,
      gap ++ List.replicate (n - gap.length) filler, ?_, begins.trans (List.prefix_append _ _),
      maximal.free.notMem (List.prefix_append _ _)⟩
    · rintro same
      exact absurd (same ▸ begins.length_le) (not_le.mpr shorter)
    · rw [List.length_append, List.length_replicate]
      omega
  · rintro ⟨taken, whole, full, begins, outside⟩
    obtain ⟨gap, below, maximal⟩ := (free_of_notMem lengths full outside).exists_maximalFree
    refine ⟨gap, full ▸ below.length_le, maximal, ?_⟩
    rcases List.prefix_or_prefix_of_prefix begins below with longer | shorter
    · exact longer
    · by_contra different
      have proper' : gap ≠ start := by
        rintro rfl
        exact different List.prefix_rfl
      obtain ⟨rest, shape⟩ := shorter
      have nonempty : rest ≠ [] := by
        rintro rfl
        exact proper' (by simpa using shape)
      refine taken (maximal.free.of_prefix ?_)
      rw [← shape, List.dropLast_append_of_ne_nil nonempty]
      exact List.prefix_append _ _

end Free

/-- A binary trie. A marked node ends a string, and an absent one has none below it. -/
inductive Trie where
  | absent
  | node (zero one : Trie) (marked : Bool)
  deriving DecidableEq, Repr

namespace Trie

variable {trie : Trie} {path key gap : List Bool} {bit bit' : Bool} {n : ℕ}

def child (bit : Bool) : Trie → Trie
  | absent => absent
  | node zero one _ => if bit then one else zero

def isMarked : Trie → Bool
  | absent => false
  | node _ _ marked => marked

/-- The trie with its node there, and marked. -/
def mark (trie : Trie) : Trie :=
  node (trie.child false) (trie.child true) true

/-- The trie with its node there, and with another child. -/
def setChild (trie : Trie) (bit : Bool) (below : Trie) : Trie :=
  if bit then node (trie.child false) below trie.isMarked
  else node below (trie.child true) trie.isMarked

def insert : List Bool → Trie → Trie
  | [], trie => trie.mark
  | bit :: path, trie => trie.setChild bit (insert path (trie.child bit))

def find : List Bool → Trie → Bool
  | [], trie => trie.isMarked
  | bit :: path, trie => find path (trie.child bit)

/-- The strings of a trie. -/
def strings (trie : Trie) : Set (List Bool) :=
  {key | trie.find key = true}

@[simp] theorem mem_strings : key ∈ trie.strings ↔ trie.find key = true := Iff.rfl

@[simp] theorem child_absent : absent.child bit = absent := rfl

@[simp] theorem isMarked_absent : absent.isMarked = false := rfl

@[simp] theorem child_node {zero one : Trie} {marked : Bool} :
    (node zero one marked).child bit = if bit then one else zero := rfl

@[simp] theorem isMarked_node {zero one : Trie} {marked : Bool} :
    (node zero one marked).isMarked = marked := rfl

@[simp] theorem child_mark : trie.mark.child bit = trie.child bit := by
  cases bit <;> rfl

@[simp] theorem isMarked_mark : trie.mark.isMarked = true := rfl

@[simp] theorem child_setChild {below : Trie} :
    (trie.setChild bit below).child bit' = if bit' = bit then below else trie.child bit' := by
  cases bit <;> cases bit' <;> rfl

@[simp] theorem isMarked_setChild {below : Trie} :
    (trie.setChild bit below).isMarked = trie.isMarked := by
  cases bit <;> rfl

@[simp] theorem find_absent : absent.find key = false := by
  induction key with
  | nil => rfl
  | cons bit key ih => exact ih

@[simp] theorem find_insert :
    (insert path trie).find key = (decide (key = path) || trie.find key) := by
  induction path generalizing trie key with
  | nil =>
      cases key with
      | nil => simp [insert, find]
      | cons bit key => simp [insert, find]
  | cons bit path ih =>
      cases key with
      | nil => simp [insert, find]
      | cons bit' key =>
          simp only [insert, find, child_setChild, List.cons.injEq]
          by_cases same : bit' = bit
          · subst same
            simp [ih]
          · simp [same]

/-- A node without strings is as good as none. -/
theorem insert_empty : insert path (node absent absent false) = insert path absent := by
  cases path with
  | nil => rfl
  | cons bit path => cases bit <;> rfl

def insertAll (paths : List (List Bool)) (trie : Trie) : Trie :=
  paths.foldl (fun trie path => insert path trie) trie

theorem find_insertAll {paths : List (List Bool)} :
    (insertAll paths trie).find key = true ↔ key ∈ paths ∨ trie.find key = true := by
  induction paths generalizing trie with
  | nil => simp [insertAll]
  | cons path paths ih =>
      rw [insertAll, List.foldl_cons, ← insertAll, ih]
      simp only [find_insert, Bool.or_eq_true, decide_eq_true_eq, List.mem_cons]
      tauto

/-- All the strings have the same length, and every node is the beginning of one. -/
def Spans : ℕ → Trie → Prop
  | _, absent => True
  | 0, node zero one marked => zero = absent ∧ one = absent ∧ marked = true
  | n + 1, node zero one marked =>
      marked = false ∧ Spans n zero ∧ Spans n one ∧ (zero ≠ absent ∨ one ≠ absent)

theorem setChild_ne_absent {below : Trie} : trie.setChild bit below ≠ absent := by
  cases bit <;> simp [setChild]

theorem insert_ne_absent : insert path trie ≠ absent := by
  cases path with
  | nil => simp [insert, mark]
  | cons bit path => exact setChild_ne_absent

@[simp] theorem spans_absent : Spans n absent := by
  cases n <;> trivial

theorem Spans.child (spans : Spans (n + 1) trie) (bit : Bool) : Spans n (trie.child bit) := by
  cases trie with
  | absent => exact spans_absent
  | node zero one marked =>
      obtain ⟨-, left, right, -⟩ := spans
      cases bit
      · exact left
      · exact right

theorem Spans.not_marked (spans : Spans (n + 1) trie) : trie.isMarked = false := by
  cases trie with
  | absent => rfl
  | node zero one marked => exact spans.1

theorem Spans.insert (spans : Spans n trie) (length : path.length = n) :
    Spans n (insert path trie) := by
  induction path generalizing trie n with
  | nil =>
      subst length
      cases trie with
      | absent => exact ⟨rfl, rfl, rfl⟩
      | node zero one marked =>
          obtain ⟨rfl, rfl, -⟩ := spans
          exact ⟨rfl, rfl, rfl⟩
  | cons bit path ih =>
      obtain ⟨n, rfl⟩ : ∃ smaller, n = smaller + 1 := ⟨path.length, length.symm⟩
      have below := ih (spans.child bit) (by simpa using length)
      have there : Trie.insert path (trie.child bit) ≠ absent := insert_ne_absent
      cases bit with
      | false => exact ⟨spans.not_marked, below, spans.child true, .inl there⟩
      | true => exact ⟨spans.not_marked, spans.child false, below, .inr there⟩

theorem Spans.insertAll {paths : List (List Bool)} (spans : Spans n trie)
    (lengths : ∀ path ∈ paths, path.length = n) : Spans n (insertAll paths trie) := by
  induction paths generalizing trie with
  | nil => exact spans
  | cons path paths ih =>
      exact ih (spans.insert (lengths path List.mem_cons_self))
        fun path' member => lengths path' (List.mem_cons_of_mem _ member)

theorem Spans.exists_string (spans : Spans n trie) (there : trie ≠ absent) :
    ∃ key, trie.find key = true := by
  induction trie generalizing n with
  | absent => exact absurd rfl there
  | node zero one marked left right =>
      cases n with
      | zero => exact ⟨[], spans.2.2⟩
      | succ n =>
          obtain ⟨-, spansZero, spansOne, zeroThere | oneThere⟩ := spans
          · obtain ⟨key, found⟩ := left spansZero zeroThere
            exact ⟨false :: key, found⟩
          · obtain ⟨key, found⟩ := right spansOne oneThere
            exact ⟨true :: key, found⟩

/-- The prefixes at which a walk finds no node. -/
def gaps : Trie → List (List Bool)
  | absent => [[]]
  | node zero one marked =>
      if marked then [] else zero.gaps.map (false :: ·) ++ one.gaps.map (true :: ·)

theorem cons_mem_gaps {zero one : Trie} :
    bit :: gap ∈ (node zero one false).gaps ↔ gap ∈ ((node zero one false).child bit).gaps := by
  cases bit <;> simp [gaps]

theorem free_cons : Free trie.strings (bit :: path) ↔ Free (trie.child bit).strings path :=
  Iff.rfl

theorem Spans.not_free_nil (spans : Spans n trie) (there : trie ≠ absent) :
    ¬ Free trie.strings [] := by
  obtain ⟨key, found⟩ := spans.exists_string there
  exact not_free_iff.mpr ⟨key, found, List.nil_prefix⟩

theorem maximalFree_cons (taken : ¬ Free trie.strings []) :
    MaximalFree trie.strings (bit :: gap) ↔ MaximalFree (trie.child bit).strings gap := by
  constructor
  · rintro ⟨free, maximal⟩
    refine ⟨free, fun shorter begins different free' => ?_⟩
    exact maximal (bit :: shorter) (List.cons_prefix_cons.mpr ⟨rfl, begins⟩)
      (by simpa using different) free'
  · rintro ⟨free, maximal⟩
    refine ⟨free, fun shorter begins different free' => ?_⟩
    cases shorter with
    | nil => exact taken free'
    | cons first shorter =>
        obtain ⟨rfl, begins'⟩ := List.cons_prefix_cons.mp begins
        exact maximal shorter begins' (by simpa using different) free'

/-- The gaps are the maximal free prefixes of the strings. -/
theorem mem_gaps (spans : Spans n trie) :
    gap ∈ trie.gaps ↔ gap.length ≤ n ∧ MaximalFree trie.strings gap := by
  induction trie generalizing n gap with
  | absent =>
      have free (start : List Bool) : Free absent.strings start := by simp [Free]
      rw [gaps, List.mem_singleton]
      constructor
      · rintro rfl
        refine ⟨Nat.zero_le n, free [], fun shorter begins different => ?_⟩
        exact absurd (List.prefix_nil.mp begins) different
      · rintro ⟨-, maximal⟩
        by_contra nonempty
        exact maximal.maximal [] List.nil_prefix (Ne.symm nonempty) (free [])
  | node zero one marked left right =>
      have taken := spans.not_free_nil (by simp)
      cases n with
      | zero =>
          obtain ⟨-, -, rfl⟩ := spans
          rw [gaps, if_pos rfl]
          constructor
          · exact fun none => absurd none (List.not_mem_nil)
          · rintro ⟨short, maximal⟩
            obtain rfl := List.eq_nil_of_length_eq_zero (Nat.le_zero.mp short)
            exact absurd maximal.free taken
      | succ n =>
          have below := spans.child
          obtain ⟨rfl, -⟩ := spans
          cases gap with
          | nil =>
              constructor
              · simp [gaps]
              · exact fun maximal => absurd maximal.2.free taken
          | cons bit gap =>
              rw [cons_mem_gaps, maximalFree_cons taken, List.length_cons, Nat.add_le_add_iff_right]
              cases bit with
              | false => exact left (below false)
              | true => exact right (below true)

/-- No gap begins another one. -/
theorem pairwise_gaps :
    trie.gaps.Pairwise fun gap gap' => ∀ whole, ¬ (gap <+: whole ∧ gap' <+: whole) := by
  induction trie with
  | absent => exact List.pairwise_singleton _ _
  | node zero one marked left right =>
      rw [gaps]
      split
      · exact .nil
      · have below {gaps : List (List Bool)} (bit : Bool)
            (apart : gaps.Pairwise fun gap gap' => ∀ whole, ¬ (gap <+: whole ∧ gap' <+: whole)) :
            (gaps.map (bit :: ·)).Pairwise fun gap gap' =>
              ∀ whole, ¬ (gap <+: whole ∧ gap' <+: whole) := by
          refine List.pairwise_map.mpr (apart.imp fun {gap gap'} never whole => ?_)
          rintro ⟨begins, begins'⟩
          cases whole with
          | nil => simp at begins
          | cons first whole =>
              exact never whole ⟨(List.cons_prefix_cons.mp begins).2,
                (List.cons_prefix_cons.mp begins').2⟩
        refine List.pairwise_append.mpr ⟨below false left, below true right, ?_⟩
        intro gap first gap' second whole
        obtain ⟨gap, -, rfl⟩ := List.mem_map.mp first
        obtain ⟨gap', -, rfl⟩ := List.mem_map.mp second
        rintro ⟨begins, begins'⟩
        cases whole with
        | nil => simp at begins
        | cons bit whole =>
            exact absurd ((List.cons_prefix_cons.mp begins).1.trans
              (List.cons_prefix_cons.mp begins').1.symm) (by simp)

/-- The strings at the marked nodes. -/
def ends : Trie → List (List Bool)
  | absent => []
  | node zero one marked =>
      if marked then [[]] else zero.ends.map (false :: ·) ++ one.ends.map (true :: ·)

/-- The strings at the nodes that are not marked. -/
def forks : Trie → List (List Bool)
  | absent => []
  | node zero one marked =>
      if marked then [] else [] :: (zero.forks.map (false :: ·) ++ one.forks.map (true :: ·))

/-- A walk leaves each fork in two ways. -/
theorem length_gaps_add_length_ends :
    trie.gaps.length + trie.ends.length = trie.forks.length + 1 := by
  induction trie with
  | absent => rfl
  | node zero one marked left right =>
      cases marked with
      | true => rfl
      | false =>
          simp only [gaps, ends, forks, Bool.false_eq_true, if_false, List.length_append,
            List.length_map, List.length_cons]
          omega

theorem mem_branches {zero one : List (List Bool)} :
    path ∈ zero.map (false :: ·) ++ one.map (true :: ·) ↔
      ∃ bit rest, path = bit :: rest ∧ rest ∈ if bit then one else zero := by
  constructor
  · intro member
    rcases List.mem_append.mp member with first | second
    · obtain ⟨rest, there, rfl⟩ := List.mem_map.mp first
      exact ⟨false, rest, rfl, there⟩
    · obtain ⟨rest, there, rfl⟩ := List.mem_map.mp second
      exact ⟨true, rest, rfl, there⟩
  · rintro ⟨bit, rest, rfl, there⟩
    cases bit with
    | false => exact List.mem_append_left _ (List.mem_map_of_mem there)
    | true => exact List.mem_append_right _ (List.mem_map_of_mem there)

theorem nodup_branches {zero one : List (List Bool)} (left : zero.Nodup) (right : one.Nodup) :
    (zero.map (false :: ·) ++ one.map (true :: ·)).Nodup := by
  refine List.Nodup.append (left.map (List.cons_injective)) (right.map (List.cons_injective)) ?_
  intro path first second
  obtain ⟨rest, -, rfl⟩ := List.mem_map.mp first
  obtain ⟨rest', -, same⟩ := List.mem_map.mp second
  simp at same

theorem nodup_ends : trie.ends.Nodup := by
  induction trie with
  | absent => exact List.nodup_nil
  | node zero one marked left right =>
      cases marked with
      | true => exact List.nodup_singleton _
      | false => exact nodup_branches left right

theorem nodup_forks : trie.forks.Nodup := by
  induction trie with
  | absent => exact List.nodup_nil
  | node zero one marked left right =>
      cases marked with
      | true => exact List.nodup_nil
      | false =>
          refine List.nodup_cons.mpr ⟨?_, nodup_branches left right⟩
          rw [mem_branches]
          simp

theorem mem_ends (spans : Spans n trie) : key ∈ trie.ends ↔ trie.find key = true := by
  induction trie generalizing n key with
  | absent => simp [ends]
  | node zero one marked left right =>
      cases n with
      | zero =>
          obtain ⟨rfl, rfl, rfl⟩ := spans
          cases key <;> simp [ends, find]
      | succ n =>
          have below := spans.child
          obtain ⟨rfl, -⟩ := spans
          cases key with
          | nil => simp [ends, find]
          | cons bit key =>
              rw [ends, if_neg Bool.false_ne_true, mem_branches]
              cases bit with
              | false => simpa [find] using left (below false)
              | true => simpa [find] using right (below true)

theorem mem_forks (spans : Spans n trie) :
    path ∈ trie.forks ↔ path.length < n ∧ ¬ Free trie.strings path := by
  induction trie generalizing n path with
  | absent => simp [forks, Free]
  | node zero one marked left right =>
      have taken := spans.not_free_nil (by simp)
      cases n with
      | zero =>
          obtain ⟨rfl, rfl, rfl⟩ := spans
          simp [forks]
      | succ n =>
          have below := spans.child
          obtain ⟨rfl, -⟩ := spans
          cases path with
          | nil => simpa [forks] using taken
          | cons bit path =>
              rw [forks, if_neg Bool.false_ne_true, free_cons, List.length_cons,
                Nat.add_lt_add_iff_right, List.mem_cons, mem_branches]
              cases bit with
              | false => simpa using left (below false)
              | true => simpa using right (below true)

end Trie

section List

variable {strings : List (List Bool)} {path : List Bool} {n : ℕ}

/-- The beginnings of the strings that are shorter than they are. -/
def properPrefixes (strings : List (List Bool)) : List (List Bool) :=
  (strings.flatMap fun string => (List.range string.length).map string.take).dedup

theorem mem_properPrefixes (lengths : ∀ string ∈ strings, string.length = n) :
    path ∈ properPrefixes strings ↔
      path.length < n ∧ ¬ Free {string | string ∈ strings} path := by
  rw [properPrefixes, List.mem_dedup, List.mem_flatMap, not_free_iff]
  constructor
  · rintro ⟨string, member, cut⟩
    obtain ⟨length, short, rfl⟩ := List.mem_map.mp cut
    rw [List.mem_range, lengths string member] at short
    exact ⟨lt_of_le_of_lt (List.length_take_le _ _) short, string, member, List.take_prefix _ _⟩
  · rintro ⟨short, string, member, begins⟩
    refine ⟨string, member, List.mem_map.mpr ⟨path.length, ?_, ?_⟩⟩
    · rwa [List.mem_range, lengths string member]
    · exact (List.prefix_iff_eq_take.mp begins).symm

theorem length_dedup_congr {α : Type*} [DecidableEq α] {elements elements' : List α}
    (same : ∀ element, element ∈ elements ↔ element ∈ elements') :
    elements.dedup.length = elements'.dedup.length := by
  refine List.Perm.length_eq ((List.perm_ext_iff_of_nodup (List.nodup_dedup _)
    (List.nodup_dedup _)).mpr fun element => ?_)
  rw [List.mem_dedup, List.mem_dedup, same]

/-- The proper prefixes depend on the set of the strings only. -/
theorem length_properPrefixes_congr {strings' : List (List Bool)}
    (same : ∀ string, string ∈ strings ↔ string ∈ strings') :
    (properPrefixes strings).length = (properPrefixes strings').length := by
  refine length_dedup_congr fun path => ?_
  simp only [List.mem_flatMap, same]

def trieOf (strings : List (List Bool)) : Trie :=
  .insertAll strings .absent

theorem strings_trieOf : (trieOf strings).strings = {string | string ∈ strings} := by
  ext string
  rw [Trie.mem_strings, trieOf, Trie.find_insertAll, Trie.find_absent]
  exact or_iff_left Bool.false_ne_true

theorem spans_trieOf (lengths : ∀ string ∈ strings, string.length = n) :
    (trieOf strings).Spans n :=
  Trie.spans_absent.insertAll lengths

theorem mem_gaps_trieOf {gap : List Bool} (lengths : ∀ string ∈ strings, string.length = n) :
    gap ∈ (trieOf strings).gaps ↔
      gap.length ≤ n ∧ MaximalFree {string | string ∈ strings} gap := by
  rw [Trie.mem_gaps (spans_trieOf lengths), strings_trieOf]

/-- There is one gap more than there are proper prefixes in excess of the strings. -/
theorem length_gaps_trieOf (lengths : ∀ string ∈ strings, string.length = n) :
    (trieOf strings).gaps.length + strings.dedup.length = (properPrefixes strings).length + 1 := by
  have spans := spans_trieOf lengths
  have ends : (trieOf strings).ends.Perm strings.dedup := by
    refine (List.perm_ext_iff_of_nodup Trie.nodup_ends strings.nodup_dedup).mpr fun string => ?_
    rw [Trie.mem_ends spans, ← Trie.mem_strings, strings_trieOf, List.mem_dedup]
    rfl
  have forks : (trieOf strings).forks.Perm (properPrefixes strings) := by
    refine (List.perm_ext_iff_of_nodup Trie.nodup_forks (List.nodup_dedup _)).mpr fun path => ?_
    rw [Trie.mem_forks spans, strings_trieOf]
    exact (mem_properPrefixes lengths).symm
  rw [← ends.length_eq, ← forks.length_eq]
  exact Trie.length_gaps_add_length_ends

/-- Strings that part early share few prefixes. -/
theorem le_length_properPrefixes (early : ℕ) (lengths : ∀ string ∈ strings, string.length = n)
    (apart : (strings.map (List.take early)).Nodup) :
    strings.length * (n - early) ≤ (properPrefixes strings).length := by
  have late : (strings.flatMap fun string =>
      (List.range' early (n - early)).map string.take).Nodup := by
    refine List.nodup_flatMap.mpr ⟨fun string member => ?_, ?_⟩
    · refine List.Nodup.map_on ?_ List.nodup_range'
      intro length within length' within' same
      have first := congrArg List.length same
      rw [List.mem_range'_1] at within within'
      rw [List.length_take, List.length_take, lengths string member] at first
      omega
    · refine (List.pairwise_map.mp apart).imp ?_
      intro string string' different path first second
      obtain ⟨length, within, rfl⟩ := List.mem_map.mp first
      obtain ⟨length', within', same⟩ := List.mem_map.mp second
      have cut := congrArg (List.take early) same
      rw [List.mem_range'_1] at within within'
      rw [List.take_take, List.take_take, min_eq_left within.1, min_eq_left within'.1] at cut
      exact different cut.symm
  have count : (strings.flatMap fun string =>
      (List.range' early (n - early)).map string.take).length = strings.length * (n - early) := by
    simp [List.length_flatMap]
  rw [← count]
  refine (late.subperm fun path member => ?_).length_le
  obtain ⟨string, there, cut⟩ := List.mem_flatMap.mp member
  obtain ⟨length, within, rfl⟩ := List.mem_map.mp cut
  rw [List.mem_range'_1] at within
  refine (mem_properPrefixes lengths).mpr
    ⟨?_, not_free_iff.mpr ⟨string, there, List.take_prefix _ _⟩⟩
  refine lt_of_le_of_lt (List.length_take_le _ _) ?_
  omega

end List

end ProxyLauncher.Prefixes
