import ProxyLauncher.Interruption.Contract

/-!
# Field by field

A transaction over many fields saves the old values first and then writes the fields one
by one; a rollback writes the saved values back one by one.  Wherever either of them is
stopped, every field has its saved or its applied value, and a rollback that is completed
later ends in the saved state.
-/

namespace ProxyLauncher.Interruption

variable {σ ρ κ ε α β ι : Type}

/-- Every field has its saved or its applied value. -/
def Mixed (saved applied current : ι → α) : Prop :=
  ∀ field, current field = saved field ∨ current field = applied field

namespace Mixed

variable {saved applied current : ι → α}

theorem refl (saved applied : ι → α) : Mixed saved applied saved :=
  fun _ => .inl rfl

theorem update [DecidableEq ι] (mixed : Mixed saved applied current) {field : ι} {value : α}
    (either : value = saved field ∨ value = applied field) :
    Mixed saved applied (Function.update current field value) := by
  intro other
  by_cases same : other = field
  · subst same
    simpa using either
  · simpa [same] using mixed other

end Mixed

/-- The evidence and the state of a transaction: there is no evidence and nothing has
changed, or the evidence is `file` and every field has its saved or applied value. -/
def Tracked (file : β) (evidence : Option β) (saved applied current : ι → α) : Prop :=
  evidence = none ∧ current = saved ∨ evidence = some file ∧ Mixed saved applied current

theorem Tracked.mixed {file : β} {evidence : Option β} {saved applied current : ι → α}
    (tracked : Tracked file evidence saved applied current) : Mixed saved applied current := by
  rcases tracked with ⟨-, rfl⟩ | ⟨-, mixed⟩
  · exact .refl _ _
  · exact mixed

namespace Program

/-- Go through all `items`, whatever happens, and return whether `body` answered `true` for
each. -/
def every (items : List ι) (body : ι → Program σ ρ κ ε Bool) : Program σ ρ κ ε Bool :=
  match items with
  | [] => pure true
  | item :: items => do
      let answer ← body item
      let others ← every items body
      pure (answer && others)

/-- Loop rule: every turn keeps `invariant` and what is `done`, and a turn that answers
`true` adds its item. -/
theorem ensures_every {host : Host σ ρ κ} {guarantee : κ → σ → Prop} {items : List ι}
    {body : ι → Program σ ρ κ ε Bool} (invariant : σ → Prop) (done : ι → σ → Prop) {state : σ}
    (turn : ∀ item ∈ items, ∀ state, invariant state →
      (body item).Ensures host guarantee (fun outcome last =>
        invariant last ∧ (∀ other, done other state → done other last) ∧
        ∃ answer, outcome = .ok answer ∧ (answer = true → done item last)) state)
    (holds : invariant state) :
    (every items body).Ensures host guarantee (fun outcome last =>
      invariant last ∧ (∀ other, done other state → done other last) ∧
      ∃ answer, outcome = .ok answer ∧ (answer = true → ∀ item ∈ items, done item last)) state := by
  induction items generalizing state with
  | nil => exact ⟨holds, fun _ kept => kept, true, rfl, fun _ => by simp⟩
  | cons item items ih =>
      refine (turn item List.mem_cons_self state holds).bind ?_ ?_
      · rintro answer middle ⟨holds', kept, _, ⟨⟩, finished⟩
        refine (ih (fun other member => turn other (List.mem_cons_of_mem _ member)) holds').bind
          ?_ ?_
        · rintro others last ⟨holds'', kept', _, ⟨⟩, finished'⟩
          refine ⟨holds'', fun other before => kept' other (kept other before), _, rfl, ?_⟩
          intro both
          rw [Bool.and_eq_true] at both
          exact List.forall_mem_cons.mpr ⟨kept' item (finished both.1), finished' both.2⟩
        · rintro error last ⟨-, -, _, ⟨⟩, -⟩
      · rintro error last ⟨-, -, _, ⟨⟩, -⟩

theorem Issuing.every {allowed : κ → Prop} {items : List ι} {body : ι → Program σ ρ κ ε Bool}
    (turn : ∀ item ∈ items, Issuing allowed (body item)) :
    Issuing allowed (Program.every items body) := by
  induction items with
  | nil => exact .pure true
  | cons item items ih =>
      exact .bind (turn item List.mem_cons_self) fun _ =>
        .bind (ih fun other member => turn other (List.mem_cons_of_mem _ member)) fun _ => .pure _

/-- A loop can answer `true` if every turn can. -/
theorem exists_finishes_every {host : Host σ ρ κ} {items : List ι}
    {body : ι → Program σ ρ κ ε Bool}
    (turn : ∀ item ∈ items, ∀ state, ∃ last, (body item).Finishes host state (.ok true) last)
    (state : σ) : ∃ last, (every items body).Finishes host state (.ok true) last := by
  induction items generalizing state with
  | nil => exact ⟨state, finishes_pure host true state⟩
  | cons item items ih =>
      obtain ⟨middle, first⟩ := turn item List.mem_cons_self state
      obtain ⟨last, others⟩ := ih (fun other member => turn other (List.mem_cons_of_mem _ member))
        middle
      exact ⟨last, first.bind (others.bind (finishes_pure host true last))⟩

/-- A loop all of whose turns answer `true`. -/
theorem exec_every {effect : κ → σ → σ} {items : List ι} {body : ι → Program σ ρ κ ε Bool}
    {write : ι → σ → σ}
    (turn : ∀ item ∈ items, ∀ state, (body item).exec effect state = (.ok true, write item state))
    (state : σ) :
    (every items body).exec effect state =
      (.ok true, items.foldl (fun state item => write item state) state) := by
  induction items generalizing state with
  | nil => rfl
  | cons item items ih =>
      rw [every, exec_bind_ok (turn item List.mem_cons_self state),
        exec_bind_ok (ih (fun other member => turn other (List.mem_cons_of_mem _ member)) _)]
      rfl

end Program

/-- Writing every listed field of a function leaves `target` there. -/
theorem foldl_update [DecidableEq ι] (items : List ι) (target current : ι → α) :
    items.foldl (fun current item => Function.update current item (target item)) current =
      fun item => if item ∈ items then target item else current item := by
  induction items generalizing current with
  | nil => simp
  | cons head items ih =>
      rw [List.foldl_cons, ih]
      funext item
      by_cases same : item = head
      · subst same
        by_cases later : item ∈ items <;> simp [later]
      · simp [same]

end ProxyLauncher.Interruption
