import ProxyLauncher.Interruption.Program

/-!
# Contracts of interruptible programs

A contract has two halves.  The guarantee is a condition on every command in the
state in which it is issued; it speaks about the states in which a program can be
stopped, because the state changes by commands only.  The postcondition is a
condition on every outcome.  Both are stated for all results that the host allows
its reads and commands to have.
-/

namespace ProxyLauncher.Interruption

variable {σ ρ κ ε ε' α β ι : Type}

namespace Program

/-- Every command that `program` issues, started in the given state, satisfies
`guarantee`, and every outcome satisfies `post`. -/
def Ensures (host : Host σ ρ κ) (guarantee : κ → σ → Prop)
    (post : Except ε α → σ → Prop) : Program σ ρ κ ε α → σ → Prop
  | .done outcome, state => post outcome state
  | .read query next, state =>
      (host.answers query true → (next (some state)).Ensures host guarantee post state) ∧
      (host.answers query false → (next none).Ensures host guarantee post state)
  | .issue command next, state =>
      guarantee command state ∧
      (host.accepts command true →
        (next true).Ensures host guarantee post (host.effect command state)) ∧
      (host.accepts command false → (next false).Ensures host guarantee post state)

variable {host : Host σ ρ κ} {guarantee guarantee' : κ → σ → Prop}

theorem Ensures.step {post : Except ε α → σ → Prop}
    {first second : Program σ ρ κ ε α × σ}
    (ensures : first.1.Ensures host guarantee post first.2)
    (step : Step host first second) : second.1.Ensures host guarantee post second.2 := by
  cases step with
  | answered answers => exact ensures.1 answers
  | unanswered answers => exact ensures.2 answers
  | accepted accepts => exact ensures.2.1 accepts
  | refused accepts => exact ensures.2.2 accepts

variable {program rest : Program σ ρ κ ε α} {state last : σ} {post : Except ε α → σ → Prop}

theorem Ensures.reaches (ensures : program.Ensures host guarantee post state)
    (reaches : Reaches host (program, state) (rest, last)) :
    rest.Ensures host guarantee post last := by
  suffices every : ∀ second : Program σ ρ κ ε α × σ, Reaches host (program, state) second →
      second.1.Ensures host guarantee post second.2 from every _ reaches
  intro second reaches
  induction reaches with
  | refl => exact ensures
  | tail _ step ih => exact ih.step step

theorem Ensures.finishes (ensures : program.Ensures host guarantee post state)
    {outcome : Except ε α} (finishes : program.Finishes host state outcome last) :
    post outcome last :=
  ensures.reaches finishes

theorem Ensures.issues (ensures : program.Ensures host guarantee post state)
    {command : κ} (issues : program.Issues host state command last) :
    guarantee command last := by
  obtain ⟨next, reaches⟩ := issues
  exact (ensures.reaches reaches).1

/-- A guarantee that keeps `invariant` keeps it wherever the program is stopped. -/
theorem Ensures.stops {invariant : σ → Prop}
    (ensures : program.Ensures host guarantee post state)
    (keeps : ∀ command state, guarantee command state → invariant state →
      invariant (host.effect command state))
    (holds : invariant state) (stops : program.Stops host state last) :
    invariant last := by
  obtain ⟨rest, reaches⟩ := stops
  -- The contract of what is left of the program travels with the invariant.
  suffices both : ∀ second : Program σ ρ κ ε α × σ, Reaches host (program, state) second →
      second.1.Ensures host guarantee post second.2 ∧ invariant second.2 from
    (both _ reaches).2
  intro second reaches
  induction reaches with
  | refl => exact ⟨ensures, holds⟩
  | tail _ step ih =>
      refine ⟨ih.1.step step, ?_⟩
      cases step with
      | answered | unanswered | refused => exact ih.2
      | accepted => exact keeps _ _ ih.1.1 ih.2

/-- The common case of `Ensures.stops`: the guarantee is the invariant of the state
that the command leaves behind. -/
theorem Ensures.stops_effect {invariant : σ → Prop}
    (ensures : program.Ensures host
      (fun command state => invariant (host.effect command state)) post state)
    (holds : invariant state) (stops : program.Stops host state last) :
    invariant last :=
  ensures.stops (fun _ _ guaranteed _ => guaranteed) holds stops

theorem Ensures.mono {post post' : Except ε α → σ → Prop}
    (ensures : program.Ensures host guarantee post state)
    (weaken : ∀ command state, guarantee command state → guarantee' command state)
    (implies : ∀ outcome state, post outcome state → post' outcome state) :
    program.Ensures host guarantee' post' state := by
  induction program generalizing state with
  | done outcome => exact implies _ _ ensures
  | read query next ih =>
      exact ⟨fun answers => ih _ (ensures.1 answers), fun answers => ih _ (ensures.2 answers)⟩
  | issue command next ih =>
      exact ⟨weaken _ _ ensures.1, fun accepts => ih _ (ensures.2.1 accepts),
        fun accepts => ih _ (ensures.2.2 accepts)⟩

theorem Ensures.weaken_post {post post' : Except ε α → σ → Prop}
    (ensures : program.Ensures host guarantee post state)
    (implies : ∀ outcome state, post outcome state → post' outcome state) :
    program.Ensures host guarantee post' state :=
  ensures.mono (fun _ _ guaranteed => guaranteed) implies

theorem ensures_trivial (program : Program σ ρ κ ε α) (state : σ) :
    program.Ensures host (fun _ _ => True) (fun _ _ => True) state := by
  induction program generalizing state with
  | done outcome => trivial
  | read query next ih => exact ⟨fun _ => ih _ _, fun _ => ih _ _⟩
  | issue command next ih => exact ⟨trivial, fun _ => ih _ _, fun _ => ih _ _⟩

@[simp] theorem ensures_pure (value : α) :
    (pure value : Program σ ρ κ ε α).Ensures host guarantee post state ↔
      post (.ok value) state := Iff.rfl

@[simp] theorem ensures_raise (error : ε) :
    (raise error : Program σ ρ κ ε α).Ensures host guarantee post state ↔
      post (.error error) state := Iff.rfl

@[simp] theorem ensures_ofExcept (outcome : Except ε α) :
    (ofExcept outcome : Program σ ρ κ ε α).Ensures host guarantee post state ↔
      post outcome state := Iff.rfl

@[simp] theorem ensures_ask (query : ρ) (view : σ → α) (error : ε) :
    (ask query view error : Program σ ρ κ ε α).Ensures host guarantee post state ↔
      (host.answers query true → post (.ok (view state)) state) ∧
      (host.answers query false → post (.error error) state) := Iff.rfl

@[simp] theorem ensures_peek {post : Except ε (Option α) → σ → Prop} (query : ρ) (view : σ → α) :
    (peek query view : Program σ ρ κ ε (Option α)).Ensures host guarantee post state ↔
      (host.answers query true → post (.ok (some (view state))) state) ∧
      (host.answers query false → post (.ok none) state) := Iff.rfl

@[simp] theorem ensures_perform {post : Except ε Unit → σ → Prop} (command : κ) (error : ε) :
    (perform command error : Program σ ρ κ ε Unit).Ensures host guarantee post state ↔
      guarantee command state ∧
      (host.accepts command true → post (.ok ()) (host.effect command state)) ∧
      (host.accepts command false → post (.error error) state) := Iff.rfl

@[simp] theorem ensures_tell {post : Except ε Bool → σ → Prop} (command : κ) :
    (tell command : Program σ ρ κ ε Bool).Ensures host guarantee post state ↔
      guarantee command state ∧
      (host.accepts command true → post (.ok true) (host.effect command state)) ∧
      (host.accepts command false → post (.ok false) state) := Iff.rfl

/-- The postcondition under which a first program may be followed by `rest`. -/
def followedBy (host : Host σ ρ κ) (guarantee : κ → σ → Prop)
    (post : Except ε β → σ → Prop) (rest : α → Program σ ρ κ ε β) :
    Except ε α → σ → Prop
  | .ok value, state => (rest value).Ensures host guarantee post state
  | .error error, state => post (.error error) state

@[simp] theorem followedBy_ok (post : Except ε β → σ → Prop)
    (rest : α → Program σ ρ κ ε β) (value : α) :
    followedBy host guarantee post rest (.ok value) state ↔
      (rest value).Ensures host guarantee post state := Iff.rfl

@[simp] theorem followedBy_error (post : Except ε β → σ → Prop)
    (rest : α → Program σ ρ κ ε β) (error : ε) :
    followedBy host guarantee post rest (.error error) state ↔
      post (.error error) state := Iff.rfl

@[simp] theorem ensures_bind {post : Except ε β → σ → Prop}
    (rest : α → Program σ ρ κ ε β) :
    (program >>= rest).Ensures host guarantee post state ↔
      program.Ensures host guarantee (followedBy host guarantee post rest) state := by
  change (program.bind rest).Ensures host guarantee post state ↔ _
  induction program generalizing state with
  | done outcome => cases outcome <;> exact Iff.rfl
  | read query next ih =>
      exact and_congr (imp_congr_right fun _ => ih _) (imp_congr_right fun _ => ih _)
  | issue command next ih =>
      exact and_congr_right fun _ =>
        and_congr (imp_congr_right fun _ => ih _) (imp_congr_right fun _ => ih _)

@[simp] theorem ensures_attempt {post : Except ε' (Except ε α) → σ → Prop} :
    (program.attempt : Program σ ρ κ ε' (Except ε α)).Ensures host guarantee post state ↔
      program.Ensures host guarantee (fun outcome => post (.ok outcome)) state := by
  induction program generalizing state with
  | done outcome => exact Iff.rfl
  | read query next ih =>
      exact and_congr (imp_congr_right fun _ => ih _) (imp_congr_right fun _ => ih _)
  | issue command next ih =>
      exact and_congr_right fun _ =>
        and_congr (imp_congr_right fun _ => ih _) (imp_congr_right fun _ => ih _)

/-- Sequencing with an intermediate assertion. -/
theorem Ensures.bind {post : Except ε β → σ → Prop} {middle : Except ε α → σ → Prop}
    {rest : α → Program σ ρ κ ε β}
    (first : program.Ensures host guarantee middle state)
    (returns : ∀ value state, middle (.ok value) state →
      (rest value).Ensures host guarantee post state)
    (raises : ∀ error state, middle (.error error) state → post (.error error) state) :
    (program >>= rest).Ensures host guarantee post state := by
  refine ensures_bind rest |>.mpr (first.weaken_post fun outcome last holds => ?_)
  cases outcome with
  | ok value => exact returns value last holds
  | error error => exact raises error last holds

/-- A program that issues no command leaves the state as it is. -/
theorem Ensures.unchanged {post : Except ε α → σ → Prop}
    (silent : program.Ensures host (fun _ _ => False) post state) :
    program.Ensures host guarantee (fun outcome last => post outcome last ∧ last = state) state := by
  induction program with
  | done outcome => exact ⟨silent, rfl⟩
  | read query next ih =>
      exact ⟨fun answers => ih _ (silent.1 answers), fun answers => ih _ (silent.2 answers)⟩
  | issue command next ih => exact silent.1.elim

/-- Loop rule: when every turn of a loop keeps `invariant` or raises an error that
`post` admits, so does the loop. -/
theorem ensures_forM {items : List ι} {body : ι → Program σ ρ κ ε Unit}
    {invariant : σ → Prop} {post : Except ε Unit → σ → Prop}
    (turn : ∀ item ∈ items, ∀ state, invariant state →
      (body item).Ensures host guarantee
        (fun outcome last => match outcome with
          | .ok _ => invariant last
          | .error error => post (.error error) last) state)
    (ends : ∀ state, invariant state → post (.ok ()) state)
    (holds : invariant state) :
    (items.forM body).Ensures host guarantee post state := by
  induction items generalizing state with
  | nil => exact ends _ holds
  | cons item items ih =>
      change (body item >>= fun _ => items.forM body).Ensures host guarantee post state
      refine (turn item List.mem_cons_self state holds).bind ?_ fun _ _ raised => raised
      intro _ last kept
      exact ih (fun item member => turn item (List.mem_cons_of_mem _ member)) kept

/-- Every command of the program, in every run on every host, is one of the `allowed`. -/
def Issuing (allowed : κ → Prop) (program : Program σ ρ κ ε α) : Prop :=
  ∀ (host : Host σ ρ κ) (state : σ),
    program.Ensures host (fun command _ => allowed command) (fun _ _ => True) state

namespace Issuing

variable {allowed allowed' : κ → Prop} {program : Program σ ρ κ ε α}

theorem pure (value : α) : Issuing allowed (Pure.pure value : Program σ ρ κ ε α) :=
  fun _ _ => trivial

theorem ofExcept (outcome : Except ε α) :
    Issuing allowed (.ofExcept outcome : Program σ ρ κ ε α) :=
  fun _ _ => trivial

theorem ask (query : ρ) (view : σ → α) (error : ε) :
    Issuing allowed (.ask query view error : Program σ ρ κ ε α) :=
  fun _ _ => ⟨fun _ => trivial, fun _ => trivial⟩

theorem peek (query : ρ) (view : σ → α) :
    Issuing allowed (.peek query view : Program σ ρ κ ε (Option α)) :=
  fun _ _ => ⟨fun _ => trivial, fun _ => trivial⟩

theorem tell {command : κ} (member : allowed command) :
    Issuing allowed (.tell command : Program σ ρ κ ε Bool) :=
  fun _ _ => ⟨member, fun _ => trivial, fun _ => trivial⟩

theorem raise (error : ε) : Issuing allowed (.raise error : Program σ ρ κ ε α) :=
  fun _ _ => trivial

theorem attempt (issuing : Issuing allowed program) :
    Issuing allowed (program.attempt : Program σ ρ κ ε' (Except ε α)) :=
  fun host state => ensures_attempt.mpr (issuing host state)

theorem bind {rest : α → Program σ ρ κ ε β} (first : Issuing allowed program)
    (second : ∀ value, Issuing allowed (rest value)) : Issuing allowed (program >>= rest) :=
  fun host state => (first host state).bind (fun value last _ => second value host last)
    fun _ _ _ => trivial

end Issuing

/-- `program` issues no command, and what it returns, if it returns, is `view` of the
state; when no read fails it does return. -/
structure Observes (program : Program σ ρ κ ε α) (view : σ → α) : Prop where
  ensures : ∀ (host : Host σ ρ κ) state, program.Ensures host (fun _ _ => False)
    (fun outcome last => last = state ∧ ∀ value, outcome = .ok value → value = view state) state
  exec : ∀ (effect : κ → σ → σ) state, program.exec effect state = (.ok (view state), state)

/-- `program` issues no command and always returns; it returns `true` only where `check`
holds, and when no read fails it returns `check`. -/
structure Decides (program : Program σ ρ κ ε Bool) (check : σ → Bool) : Prop where
  ensures : ∀ (host : Host σ ρ κ) state, program.Ensures host (fun _ _ => False)
    (fun outcome last => last = state ∧
      ∃ answer, outcome = .ok answer ∧ (answer = true → check state = true)) state
  exec : ∀ (effect : κ → σ → σ) state, program.exec effect state = (.ok (check state), state)

theorem observes_pure (value : α) :
    (pure value : Program σ ρ κ ε α).Observes fun _ => value where
  ensures _ state := by simp
  exec _ _ := rfl

theorem observes_ask (query : ρ) (view : σ → α) (error : ε) :
    (ask query view error : Program σ ρ κ ε α).Observes view where
  ensures _ state := by simp
  exec _ _ := rfl

theorem Observes.bind {first : Program σ ρ κ ε α} {view : σ → α}
    {rest : α → Program σ ρ κ ε β} {view' : α → σ → β} (observes : first.Observes view)
    (restObserves : ∀ value, (rest value).Observes (view' value)) :
    (first >>= rest).Observes fun state => view' (view state) state where
  ensures host state := by
    refine (observes.ensures host state).bind ?_ ?_
    · rintro value last ⟨rfl, returned⟩
      obtain rfl := returned value rfl
      exact (restObserves _).ensures host _
    · rintro error last ⟨rfl, -⟩
      simp
  exec effect state := by
    rw [exec_bind_ok (observes.exec effect state), (restObserves _).exec]

theorem decides_pure (answer : Bool) :
    (pure answer : Program σ ρ κ ε Bool).Decides fun _ => answer where
  ensures _ state := by simp
  exec _ _ := rfl

/-- A check that answers `false` when its reads fail. -/
theorem Observes.decides {first : Program σ ρ κ ε α} {view : σ → α}
    {rest : Except ε α → Program σ ρ κ ε' Bool} (observes : first.Observes view)
    (check : α → σ → Bool)
    (onError : ∀ error, rest (.error error) = pure false)
    (onOk : ∀ value, (rest (.ok value)).Decides (check value)) :
    (first.attempt >>= rest).Decides fun state => check (view state) state where
  ensures host state := by
    rw [ensures_bind, ensures_attempt]
    refine (observes.ensures host state).weaken_post ?_
    rintro (error | value) last ⟨rfl, returned⟩
    · simp [onError]
    · obtain rfl := returned value rfl
      exact (onOk _).ensures host _
  exec effect state := by
    rw [exec_bind, exec_attempt, observes.exec]
    exact (onOk _).exec effect state

/-- `if ← first then second else return false`. -/
theorem Decides.and {first second : Program σ ρ κ ε Bool} {check check' : σ → Bool}
    (decides : first.Decides check) (decides' : second.Decides check') :
    (first >>= fun answer => if answer = true then second else pure false).Decides
      fun state => check state && check' state where
  ensures host state := by
    refine (decides.ensures host state).bind ?_ ?_
    · rintro answer last ⟨rfl, _, ⟨⟩, sound⟩
      cases answer with
      | false => simp
      | true =>
          refine (decides'.ensures host last).weaken_post ?_
          rintro outcome _ ⟨rfl, answer', rfl, sound'⟩
          exact ⟨rfl, answer', rfl, fun yes => by simp [sound rfl, sound' yes]⟩
    · rintro error last ⟨rfl, _, ⟨⟩, -⟩
  exec effect state := by
    rw [exec_bind_ok (decides.exec effect state)]
    cases check state <;> simp [decides'.exec]

theorem Decides.congr {first : Program σ ρ κ ε Bool} {check check' : σ → Bool}
    (decides : first.Decides check) (same : ∀ state, check state = check' state) :
    first.Decides check' :=
  funext same ▸ decides

/-- Continue after a check: both answers have to be considered, but `true` can be
trusted. -/
theorem Decides.ensures_bind {check : σ → Bool} {first : Program σ ρ κ ε Bool}
    {rest : Bool → Program σ ρ κ ε β} {post : Except ε β → σ → Prop}
    (decides : first.Decides check)
    (continues : ∀ answer, (answer = true → check state = true) →
      (rest answer).Ensures host guarantee post state) :
    (first >>= rest).Ensures host guarantee post state := by
  refine ((decides.ensures host state).mono (fun _ _ impossible => impossible.elim)
    fun _ _ holds => holds).bind ?_ ?_
  · rintro answer last ⟨rfl, _, ⟨⟩, sound⟩
    exact continues answer sound
  · rintro error last ⟨-, _, ⟨⟩, -⟩

theorem Decides.exec_bind {check : σ → Bool} {first : Program σ ρ κ ε Bool}
    (decides : first.Decides check) (rest : Bool → Program σ ρ κ ε β)
    (effect : κ → σ → σ) (state : σ) :
    (first >>= rest).exec effect state = (rest (check state)).exec effect state :=
  exec_bind_ok (decides.exec effect state)

end Program

end ProxyLauncher.Interruption
