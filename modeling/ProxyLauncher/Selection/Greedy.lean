import Mathlib

/-!
# Accepting within a budget

Candidates are accepted in their order when the budget allows it.  A subject counts for the
budget once all its candidates that count are accepted; other candidates cost nothing.
-/

namespace ProxyLauncher.Selection

structure Budget (α : Type) [DecidableEq α] where
  subject : ℕ → α
  candidates : Finset ℕ
  counting : Finset ℕ
  counting_subset : counting ⊆ candidates
  base : Finset α
  limit : ℕ
  affordable : base.card ≤ limit

namespace Budget

variable {α : Type} [DecidableEq α] (budget : Budget α)

/-- The subjects all of whose counting candidates are accepted. -/
def completed (accepted : Finset ℕ) : Finset α :=
  (budget.counting.image budget.subject).filter fun subject =>
    ∀ index ∈ budget.counting, budget.subject index = subject → index ∈ accepted

/-- What is paid for. -/
def covered (accepted : Finset ℕ) : Finset α :=
  budget.base ∪ budget.completed accepted

/-- The candidates that are accepted before an index. -/
def greedy : ℕ → Finset ℕ
  | 0 => ∅
  | index + 1 =>
      if index ∈ budget.candidates ∧
          (budget.covered (insert index (greedy index))).card ≤ budget.limit then
        insert index (greedy index)
      else greedy index

/-- All candidates before an index. -/
def before (index : ℕ) : Finset ℕ :=
  budget.candidates.filter fun other => other < index

/-- Each candidate is of the base, or it is the only one of its subject and counts, or the budget
is enough for all the candidates up to the last one of its subject. -/
def Fair : Prop :=
  ∀ index ∈ budget.candidates, budget.subject index ∈ budget.base ∨
    (index ∈ budget.counting ∧ ∀ other ∈ budget.candidates,
      budget.subject other = budget.subject index → other = index) ∨
    ∃ last, budget.subject index ∈ budget.completed (budget.before last) ∧
      (budget.covered (budget.before last)).card ≤ budget.limit

variable {budget} {accepted accepted' : Finset ℕ} {index bound : ℕ} {subject : α}

theorem mem_completed : subject ∈ budget.completed accepted ↔
    (∃ index ∈ budget.counting, budget.subject index = subject) ∧
      ∀ index ∈ budget.counting, budget.subject index = subject → index ∈ accepted := by
  simp [completed]

theorem completed_mono (subset : accepted ⊆ accepted') :
    budget.completed accepted ⊆ budget.completed accepted' := by
  intro subject member
  rw [mem_completed] at member ⊢
  exact ⟨member.1, fun index counts own => subset (member.2 index counts own)⟩

theorem covered_mono (subset : accepted ⊆ accepted') :
    budget.covered accepted ⊆ budget.covered accepted' :=
  Finset.union_subset_union_right (completed_mono subset)

/-- One more candidate can complete its own subject only. -/
theorem eq_of_mem_completed_insert (new : subject ∈ budget.completed (insert index accepted))
    (old : subject ∉ budget.completed accepted) :
    index ∈ budget.counting ∧ budget.subject index = subject := by
  rw [mem_completed] at new old
  by_contra other
  refine old ⟨new.1, fun found counts own => ?_⟩
  rcases Finset.mem_insert.mp (new.2 found counts own) with rfl | there
  · exact absurd ⟨counts, own⟩ other
  · exact there

theorem greedy_mono (less : index ≤ bound) : budget.greedy index ⊆ budget.greedy bound := by
  induction bound, less using Nat.le_induction with
  | base => exact Finset.Subset.refl _
  | succ bound _ ih =>
      refine ih.trans ?_
      rw [greedy]
      split_ifs
      · exact Finset.subset_insert _ _
      · exact Finset.Subset.refl _

theorem greedy_subset : budget.greedy bound ⊆ budget.before bound := by
  induction bound with
  | zero => exact Finset.empty_subset _
  | succ bound ih =>
      have step : budget.greedy bound ⊆ budget.before (bound + 1) := by
        intro index member
        obtain ⟨candidate, less⟩ := Finset.mem_filter.mp (ih member)
        exact Finset.mem_filter.mpr ⟨candidate, Nat.lt_succ_of_lt less⟩
      rw [greedy]
      split_ifs with accepts
      · refine Finset.insert_subset ?_ step
        exact Finset.mem_filter.mpr ⟨accepts.1, Nat.lt_succ_self bound⟩
      · exact step

/-- The budget is kept. -/
theorem card_covered_greedy : (budget.covered (budget.greedy bound)).card ≤ budget.limit := by
  induction bound with
  | zero =>
      have nothing : budget.completed ∅ = ∅ := by
        rw [Finset.eq_empty_iff_forall_notMem]
        intro subject member
        obtain ⟨⟨index, counts, own⟩, all⟩ := mem_completed.mp member
        exact absurd (all index counts own) (Finset.notMem_empty _)
      rw [greedy, covered, nothing, Finset.union_empty]
      exact budget.affordable
  | succ bound ih =>
      rw [greedy]
      split_ifs with accepts
      · exact accepts.2
      · exact ih

theorem mem_greedy_succ (candidate : index ∈ budget.candidates) :
    index ∈ budget.greedy (index + 1) ↔
      (budget.covered (insert index (budget.greedy index))).card ≤ budget.limit := by
  have new : index ∉ budget.greedy index := fun member =>
    lt_irrefl index (Finset.mem_filter.mp (greedy_subset member)).2
  rw [greedy]
  split_ifs with accepts
  · simp [accepts.2]
  · rw [not_and] at accepts
    simp [new, accepts candidate]

/-- A candidate is accepted at its turn or never. -/
theorem mem_greedy_iff (less : index < bound) :
    index ∈ budget.greedy bound ↔ index ∈ budget.greedy (index + 1) := by
  induction bound, less using Nat.le_induction with
  | base => rfl
  | succ bound less ih =>
      rw [← ih, greedy]
      split_ifs
      · simp [Nat.ne_of_lt less]
      · rfl

/-- While the budget is enough for all, all are accepted. -/
theorem before_subset_greedy
    (enough : (budget.covered (budget.before bound)).card ≤ budget.limit) :
    budget.before bound ⊆ budget.greedy bound := by
  intro index member
  obtain ⟨candidate, less⟩ := Finset.mem_filter.mp member
  rw [mem_greedy_iff less, mem_greedy_succ candidate]
  refine (Finset.card_le_card (covered_mono ?_)).trans enough
  refine Finset.insert_subset member (greedy_subset.trans ?_)
  intro other there
  obtain ⟨candidate, earlier⟩ := Finset.mem_filter.mp there
  exact Finset.mem_filter.mpr ⟨candidate, earlier.trans less⟩

/-- A candidate that is not accepted would have completed its subject. -/
theorem completes_of_rejected (candidate : index ∈ budget.candidates) (less : index < bound)
    (rejected : index ∉ budget.greedy bound) :
    index ∈ budget.counting ∧
      budget.subject index ∈ budget.completed (insert index (budget.greedy index)) ∧
      budget.subject index ∉ budget.covered (budget.greedy index) ∧
      budget.limit ≤ (budget.covered (budget.greedy index)).card := by
  rw [mem_greedy_iff less, mem_greedy_succ candidate, not_le] at rejected
  have gained : ¬ budget.covered (insert index (budget.greedy index)) ⊆
      budget.covered (budget.greedy index) := fun subset =>
    absurd (Finset.card_le_card subset) (not_le.mpr (card_covered_greedy.trans_lt rejected))
  obtain ⟨subject, new, old⟩ := Finset.not_subset.mp gained
  have completes : subject ∈ budget.completed (insert index (budget.greedy index)) := by
    rcases Finset.mem_union.mp new with base | done
    · exact absurd (Finset.mem_union_left _ base) old
    · exact done
  obtain ⟨counts, rfl⟩ := eq_of_mem_completed_insert completes fun done =>
    old (Finset.mem_union_right _ done)
  refine ⟨counts, completes, old, ?_⟩
  have only : budget.covered (insert index (budget.greedy index)) ⊆
      insert (budget.subject index) (budget.covered (budget.greedy index)) := by
    intro other member
    by_cases before : other ∈ budget.covered (budget.greedy index)
    · exact Finset.mem_insert_of_mem before
    · rcases Finset.mem_union.mp member with base | done
      · exact absurd (Finset.mem_union_left _ base) before
      · have own := eq_of_mem_completed_insert done fun done =>
          before (Finset.mem_union_right _ done)
        exact own.2 ▸ Finset.mem_insert_self _ _
  have more := (Finset.card_le_card only).trans (Finset.card_insert_le _ _)
  omega

/-- Once a candidate is not accepted nothing new is covered. -/
theorem covered_of_rejected {other : ℕ} (candidate : index ∈ budget.candidates)
    (less : index < bound) (rejected : index ∉ budget.greedy bound)
    (later : index ≤ other) :
    budget.covered (budget.greedy other) = budget.covered (budget.greedy index) := by
  have full := (completes_of_rejected candidate less rejected).2.2.2
  exact (Finset.eq_of_subset_of_card_le (covered_mono (greedy_mono later))
    (card_covered_greedy.trans full)).symm

/-- Up to the last candidate of a subject that is covered in the end, all were accepted. -/
theorem before_of_covered (bounded : ∀ index ∈ budget.candidates, index < bound)
    (unpaid : subject ∉ budget.base) (covered : subject ∈ budget.covered (budget.greedy bound)) :
    ∃ last, subject ∈ budget.completed (budget.before last) ∧
      (budget.covered (budget.before last)).card ≤ budget.limit := by
  have completes : subject ∈ budget.completed (budget.greedy bound) :=
    (Finset.mem_union.mp covered).resolve_left unpaid
  obtain ⟨⟨first, counts, own⟩, all⟩ := mem_completed.mp completes
  set own' := budget.counting.filter fun index => budget.subject index = subject
  have nonempty : own'.Nonempty := ⟨first, Finset.mem_filter.mpr ⟨counts, own⟩⟩
  set last := own'.max' nonempty
  obtain ⟨lastCounts, lastOwn⟩ := Finset.mem_filter.mp (own'.max'_mem nonempty)
  have most {index : ℕ} (counts : index ∈ budget.counting)
      (own : budget.subject index = subject) : index ≤ last :=
    own'.le_max' index (Finset.mem_filter.mpr ⟨counts, own⟩)
  have candidate {index : ℕ} (counts : index ∈ budget.counting) : index ∈ budget.candidates :=
    budget.counting_subset counts
  have atLast : subject ∈ budget.completed (budget.greedy (last + 1)) := by
    refine mem_completed.mpr ⟨⟨first, counts, own⟩, fun index counts own => ?_⟩
    have there := all index counts own
    rw [mem_greedy_iff (bounded index (candidate counts))] at there
    exact greedy_mono (Nat.succ_le_succ (most counts own)) there
  have accepted : budget.before (last + 1) ⊆ budget.greedy (last + 1) := by
    intro index member
    obtain ⟨among, less⟩ := Finset.mem_filter.mp member
    by_contra rejected
    -- After a rejection the subject of the last candidate would not be covered.
    have rejected' : index ∉ budget.greedy bound := by
      rwa [mem_greedy_iff (bounded index among), ← mem_greedy_iff less]
    have same := (covered_of_rejected among (bounded index among) rejected'
      (Nat.le_of_lt less)).trans
        (covered_of_rejected among (bounded index among) rejected' (Nat.lt_succ_iff.mp less)).symm
    have early : subject ∈ budget.covered (budget.greedy last) :=
      same ▸ Finset.mem_union_right _ atLast
    have there := (mem_completed.mp ((Finset.mem_union.mp early).resolve_left unpaid)).2 last
      lastCounts lastOwn
    exact lt_irrefl last (Finset.mem_filter.mp (greedy_subset there)).2
  refine ⟨last + 1, mem_completed.mpr ⟨⟨first, counts, own⟩, fun index counts own => ?_⟩, ?_⟩
  · exact Finset.mem_filter.mpr ⟨candidate counts, Nat.lt_succ_of_le (most counts own)⟩
  · exact (Finset.card_le_card (covered_mono accepted)).trans card_covered_greedy

/-- The accepted candidates are all covered in the end exactly when the budget is fair. -/
theorem greedy_fair_iff (bounded : ∀ index ∈ budget.candidates, index < bound) :
    (∀ index ∈ budget.greedy bound, budget.subject index ∈
      budget.covered (budget.greedy bound)) ↔ budget.Fair := by
  constructor
  · intro fair index candidate
    by_cases paid : budget.subject index ∈ budget.base
    · exact .inl paid
    · by_cases covered : budget.subject index ∈ budget.covered (budget.greedy bound)
      · exact .inr (.inr (before_of_covered bounded paid covered))
      · -- No candidate of the subject was accepted.
        have rejected {other : ℕ} (same : budget.subject other = budget.subject index) :
            other ∉ budget.greedy bound := fun accepted => covered (same ▸ fair other accepted)
        have own := completes_of_rejected candidate (bounded index candidate) (rejected rfl)
        refine .inr (.inl ⟨own.1, fun other candidate' same => ?_⟩)
        have completes := (completes_of_rejected candidate' (bounded other candidate')
          (rejected same)).2.1
        rcases Finset.mem_insert.mp ((mem_completed.mp completes).2 index own.1 same.symm) with
          rfl | earlier
        · rfl
        · exact absurd (greedy_mono (Nat.le_of_lt (bounded other candidate')) earlier)
            (rejected rfl)
  · intro each index accepted
    have candidate := (Finset.mem_filter.mp (greedy_subset accepted)).1
    rcases each index candidate with paid | ⟨counts, only⟩ | ⟨last, completes, enough⟩
    · exact Finset.mem_union_left _ paid
    · refine Finset.mem_union_right _ (mem_completed.mpr ⟨⟨index, counts, rfl⟩, ?_⟩)
      intro other counts' same
      exact only other (budget.counting_subset counts') same ▸ accepted
    · refine Finset.mem_union_right _ (completed_mono ?_ completes)
      intro other member
      obtain ⟨candidate, less⟩ := Finset.mem_filter.mp member
      have there := before_subset_greedy enough member
      rwa [mem_greedy_iff less, ← mem_greedy_iff (bounded other candidate)] at there

end Budget

end ProxyLauncher.Selection
