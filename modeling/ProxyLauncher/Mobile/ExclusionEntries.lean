import ProxyLauncher.Android.ExclusionEntries
import ProxyLauncher.IOS.Hosts

/-!
# Entries of site exclusions on both platforms

The two mobile applications clean an entry with functions of their own.  On printable ASCII both
read the part between the scheme and the path; only the one for Android trims it first.
-/

namespace ProxyLauncher.Mobile

open ProxyLauncher.Texts

/-- A text without the spaces on its two sides. -/
abbrev trimmed (chars : List Char) : List Char :=
  trim (fun char => decide (char = ' ')) chars

/-- The part of an entry in lower case between its scheme and its path. -/
def authority (entry : List Char) : List Char :=
  let value := trimmed (before '#' entry)
  before '/' ((after "://".toList value).getD value)

/-- A host with a port of digits behind it. -/
def Numbered (value : List Char) : Prop :=
  ∃ host port, value = host ++ ':' :: port ∧ ':' ∉ host ∧ port ≠ [] ∧
    ∀ char ∈ port, char.isDigit = true

/-- Brackets around an address, with anything behind them. -/
def Enclosed (inside value : List Char) : Prop :=
  ∃ rest, value = '[' :: (inside ++ ']' :: rest) ∧ ']' ∉ inside

/-- The last tests of a host. -/
structure Acceptable (host : List Char) : Prop where
  nonempty : host ≠ []
  unmasked : '*' ∉ host ∧ '?' ∉ host ∧ host.head? ≠ some '.'
  unspaced : ' ' ∉ host
  plain : '@' ∉ host ∧ '[' ∉ host ∧ ']' ∉ host
  short : host.length ≤ 253

open Classical in
/-- The address between brackets, or the host before a port. -/
noncomputable def inner (value : List Char) : Option (List Char) :=
  if value.head? = some '[' then
    if ']' ∈ value then some (before ']' value).tail else none
  else if Numbered value then some (before ':' value)
  else some value

open Classical in
/-- An entry is rejected, or ignored, or names a host. -/
noncomputable def accepted (host : List Char) : Option (Option (List Char)) :=
  if Acceptable host then some (some host) else none

/-- The outcome of an entry with this authority. -/
noncomputable def outcome (value : List Char) : Option (Option (List Char)) :=
  if value = [] then some none else (inner value).bind fun host => accepted (trimmed host)

/-- The authorities that the two platforms read differently, or that name a host which does not
name itself. -/
inductive Misread (value : List Char) : Prop where
  | blank : value ≠ [] → trimmed value = [] → Misread value
  | paddedBrackets (inside : List Char) : value.head? = some ' ' →
      Enclosed inside (trimmed value) → Acceptable (trimmed inside) → Misread value
  | portInBrackets (inside : List Char) : Enclosed inside (trimmed value) →
      Acceptable (trimmed inside) → Numbered (trimmed inside) → Misread value
  | paddedPort : value.getLast? = some ' ' → (trimmed value).head? ≠ some '[' →
      Numbered (trimmed value) →
      Acceptable (trimmed (before ':' (trimmed value))) ∨ Acceptable (trimmed value) →
      Misread value

/-- Trimming does not change the outcome, and a host that is named names itself again. -/
def Consistent (value : List Char) : Prop :=
  outcome (trimmed value) = outcome value ∧
    ∀ host, outcome (trimmed value) = some (some host) → ¬ Numbered host

section Shapes

variable {inside value host port front back : List Char}

theorem trimmed_trimmed : trimmed (trimmed value) = trimmed value :=
  trim_trim

theorem trimmed_of_notMem (unspaced : ' ' ∉ value) : trimmed value = value :=
  trim_of_forall_not fun _ member => decide_eq_false fun space => unspaced (space ▸ member)

theorem mem_before_of_mem_authority {char : Char} (member : char ∈ authority value) :
    char ∈ before '#' value :=
  mem_of_mem_trim (mem_of_mem_after_getD (mem_of_mem_before member))

theorem mem_authority {char : Char} (member : char ∈ authority value) : char ∈ value :=
  mem_of_mem_before (mem_before_of_mem_authority member)

theorem notMem_authority : '#' ∉ authority value ∧ '/' ∉ authority value :=
  ⟨fun member => notMem_before (mem_before_of_mem_authority member), notMem_before⟩

theorem numbered_split_iff (missing : ':' ∉ host) :
    Numbered (host ++ ':' :: port) ↔ port ≠ [] ∧ ∀ char ∈ port, char.isDigit = true := by
  constructor
  · rintro ⟨host', port', same, missing', numbered⟩
    have hosts := congrArg (before ':') same
    rw [before_append_separator missing, before_append_separator missing'] at hosts
    rw [hosts, List.append_cancel_left_eq, List.cons.injEq] at same
    rwa [same.2]
  · intro numbered
    exact ⟨host, port, rfl, missing, numbered⟩

theorem notMem_of_digits (digits : ∀ char ∈ port, char.isDigit = true) : ':' ∉ port := by
  intro member
  exact absurd (digits ':' member) (by decide)

theorem count_of_numbered (numbered : Numbered value) : value.count ':' = 1 := by
  obtain ⟨host, port, rfl, missing, -, digits⟩ := numbered
  rw [List.count_append, List.count_cons_self, List.count_eq_zero_of_not_mem missing,
    List.count_eq_zero_of_not_mem (notMem_of_digits digits)]

theorem exists_split_of_count (one : value.count ':' = 1) :
    ∃ host port, value = host ++ ':' :: port ∧ ':' ∉ host ∧ ':' ∉ port := by
  have member : ':' ∈ value := List.one_le_count_iff.mp one.ge
  obtain ⟨host, port, rfl, missing⟩ := List.eq_append_cons_of_mem member
  refine ⟨host, port, rfl, missing, ?_⟩
  rw [List.count_append, List.count_cons_self, List.count_eq_zero_of_not_mem missing] at one
  exact List.count_eq_zero.mp (by omega)

/-- Spaces before a host do not matter to its port. -/
theorem numbered_append_left (spaces : ∀ char ∈ front, char = ' ') :
    Numbered (front ++ value) ↔ Numbered value := by
  have missing : ':' ∉ front := fun member => absurd (spaces ':' member) (by decide)
  constructor
  · rintro ⟨host, port, same, missing', numbered⟩
    have split : before ':' (front ++ value) = host := by
      rw [same, before_append_separator missing']
    rw [before_append_of_notMem missing] at split
    refine ⟨before ':' value, port, ?_, notMem_before, numbered⟩
    rw [← split, List.append_assoc, List.append_cancel_left_eq] at same
    exact same
  · rintro ⟨host, port, rfl, missing', numbered⟩
    exact ⟨front ++ host, port, by simp, by simp [missing, missing'], numbered⟩

/-- Spaces behind a port hide it. -/
theorem numbered_append_right (spaces : ∀ char ∈ back, char = ' ') :
    Numbered (value ++ back) ↔ back = [] ∧ Numbered value := by
  constructor
  · intro numbered
    have empty : back = [] := by
      by_contra nonempty
      obtain ⟨host, port, same, -, some, digits⟩ := numbered
      have last := congrArg List.getLast? same
      rw [List.getLast?_append_of_ne_nil _ nonempty, List.getLast?_append_of_ne_nil _ (by simp),
        List.getLast?_cons_of_ne_nil some, List.getLast?_eq_some_getLast nonempty,
        List.getLast?_eq_some_getLast some, spaces _ (List.getLast_mem nonempty)] at last
      exact absurd (digits _ (Option.some.inj last ▸ List.getLast_mem some)) (by decide)
    rw [empty, List.append_nil] at numbered
    exact ⟨empty, numbered⟩
  · rintro ⟨rfl, numbered⟩
    rwa [List.append_nil]

theorem not_numbered_of_notMem (missing : ':' ∉ value) : ¬ Numbered value := by
  rintro ⟨host, port, rfl, -⟩
  simp at missing

/-- The spaces around what is left of a text. -/
theorem exists_spaces (nonempty : trimmed value ≠ []) :
    ∃ front back, value = front ++ (trimmed value ++ back) ∧ (∀ char ∈ front, char = ' ') ∧
      (∀ char ∈ back, char = ' ') ∧ (value.head? = some ' ' ↔ front ≠ []) ∧
      (value.getLast? = some ' ' ↔ back ≠ []) := by
  obtain ⟨front, back, whole, frontSpaces, backSpaces⟩ :=
    exists_padding (fun char => decide (char = ' ')) value
  simp only [decide_eq_true_eq] at frontSpaces backSpaces
  refine ⟨front, back, whole, frontSpaces, backSpaces, ?_, ?_⟩
  · cases front with
    | nil =>
        simp only [ne_eq, not_true_eq_false, iff_false]
        intro space
        rw [whole, List.nil_append, List.head?_append_of_ne_nil _ nonempty] at space
        simpa using not_padding_of_head? space
    | cons char front =>
        rw [whole]
        simp [frontSpaces char List.mem_cons_self]
  · rw [whole, ← List.append_assoc]
    rcases List.eq_nil_or_concat back with rfl | ⟨back, char, rfl⟩
    · simp only [ne_eq, not_true_eq_false, iff_false, List.append_nil]
      rw [List.getLast?_append_of_ne_nil _ nonempty]
      intro space
      simpa using not_padding_of_getLast? space
    · simp [backSpaces char (by simp)]

end Shapes

section Outcomes

variable {inside value host : List Char}

theorem enclosed_append (enclosed : Enclosed inside value) (back : List Char) :
    Enclosed inside (value ++ back) := by
  obtain ⟨rest, rfl, missing⟩ := enclosed
  exact ⟨rest ++ back, by simp, missing⟩

theorem head?_of_enclosed (enclosed : Enclosed inside value) : value.head? = some '[' := by
  obtain ⟨rest, rfl, -⟩ := enclosed
  rfl

theorem exists_enclosed (bracket : value.head? = some '[') (closed : ']' ∈ value) :
    ∃ inside, Enclosed inside value := by
  cases value with
  | nil => exact absurd bracket (by simp)
  | cons char chars =>
      obtain rfl : char = '[' := by simpa using bracket
      obtain ⟨inside, rest, rfl, missing⟩ := List.eq_append_cons_of_mem
        ((List.mem_cons.mp closed).resolve_left (by decide))
      exact ⟨inside, rest, rfl, missing⟩

theorem inner_of_enclosed (enclosed : Enclosed inside value) : inner value = some inside := by
  rw [inner, if_pos (head?_of_enclosed enclosed)]
  obtain ⟨rest, rfl, missing⟩ := enclosed
  rw [if_pos (by simp), ← List.cons_append, before_append_separator (by simp [missing])]
  rfl

theorem inner_of_notMem (bracket : value.head? = some '[') (missing : ']' ∉ value) :
    inner value = none := by
  rw [inner, if_pos bracket, if_neg missing]

theorem inner_of_numbered (unbracketed : value.head? ≠ some '[') (numbered : Numbered value) :
    inner value = some (before ':' value) := by
  rw [inner, if_neg unbracketed, if_pos numbered]

theorem inner_of_not_numbered (unbracketed : value.head? ≠ some '[')
    (unnumbered : ¬ Numbered value) : inner value = some value := by
  rw [inner, if_neg unbracketed, if_neg unnumbered]

theorem accepted_eq_some {found : Option (List Char)} :
    accepted host = some found ↔ Acceptable host ∧ found = some host := by
  unfold accepted
  split_ifs with acceptable
  · simp [acceptable, eq_comm]
  · simp [acceptable]

theorem accepted_of_not (rejected : ¬ Acceptable host) : accepted host = none := by
  rw [accepted, if_neg rejected]

theorem outcome_of_inner (nonempty : value ≠ []) (found : inner value = some inside) :
    outcome value = accepted (trimmed inside) := by
  rw [outcome, if_neg nonempty, found, Option.bind_some]

theorem ne_nil_of_trimmed (nonempty : trimmed value ≠ []) : value ≠ [] := by
  rintro rfl
  exact nonempty rfl

/-- An address in brackets is not found behind spaces. -/
theorem outcome_of_padded_bracket (space : value.head? = some ' ')
    (bracket : (trimmed value).head? = some '[') : outcome value = none := by
  have nonempty : trimmed value ≠ [] := by
    rintro empty
    simp [empty] at bracket
  have unbracketed : value.head? ≠ some '[' := by simp [space]
  have rejected (part : List Char) (there : '[' ∈ part) : accepted (trimmed part) = none :=
    accepted_of_not fun acceptable => acceptable.plain.2.1 (mem_trim_of_mem there (by decide))
  obtain ⟨front, back, whole, frontSpaces, -, -, -⟩ := exists_spaces nonempty
  obtain ⟨rest, shape⟩ := List.head?_eq_some_iff.mp bracket
  rw [shape, List.cons_append] at whole
  by_cases numbered : Numbered value
  · rw [outcome_of_inner (ne_nil_of_trimmed nonempty) (inner_of_numbered unbracketed numbered)]
    refine rejected _ ?_
    have missing : ':' ∉ front := fun member => absurd (frontSpaces ':' member) (by decide)
    have bracketed : (front ++ ['[']) ++ (rest ++ back) = value := by simp [whole]
    rw [← bracketed, before_append_of_notMem (by simp [missing])]
    simp
  · rw [outcome_of_inner (ne_nil_of_trimmed nonempty) (inner_of_not_numbered unbracketed numbered)]
    exact rejected _ (by simp [whole])

/-- What stands behind the brackets does not matter. -/
theorem outcome_of_unpadded_bracket (unspaced : value.head? ≠ some ' ')
    (bracket : (trimmed value).head? = some '[') : outcome value = outcome (trimmed value) := by
  have nonempty : trimmed value ≠ [] := by
    rintro empty
    simp [empty] at bracket
  obtain ⟨front, back, whole, -, backSpaces, head, -⟩ := exists_spaces nonempty
  obtain rfl : front = [] := by
    by_contra padded
    exact unspaced (head.mpr padded)
  rw [List.nil_append] at whole
  have inners : inner value = inner (trimmed value) := by
    by_cases closed : ']' ∈ trimmed value
    · obtain ⟨inside, enclosed⟩ := exists_enclosed bracket closed
      rw [inner_of_enclosed enclosed, whole, inner_of_enclosed (enclosed_append enclosed back)]
    · have bracket' : value.head? = some '[' := by
        rw [whole, List.head?_append_of_ne_nil _ nonempty, bracket]
      have missing : ']' ∉ value := by
        rw [whole, List.mem_append, not_or]
        exact ⟨closed, fun member => absurd (backSpaces ']' member) (by decide)⟩
      rw [inner_of_notMem bracket closed, inner_of_notMem bracket' missing]
  rw [outcome, outcome, if_neg (ne_nil_of_trimmed nonempty), if_neg nonempty, inners]

theorem head?_ne_bracket (unbracketed : (trimmed value).head? ≠ some '[')
    (nonempty : trimmed value ≠ []) : value.head? ≠ some '[' := by
  obtain ⟨front, back, whole, frontSpaces, -, -, -⟩ := exists_spaces nonempty
  rw [whole]
  cases front with
  | nil => rwa [List.nil_append, List.head?_append_of_ne_nil _ nonempty]
  | cons char front => simp [frontSpaces char List.mem_cons_self]

/-- Spaces around a host without a port do not matter. -/
theorem outcome_of_unnumbered (nonempty : trimmed value ≠ [])
    (unbracketed : (trimmed value).head? ≠ some '[') (unnumbered : ¬ Numbered value) :
    outcome value = accepted (trimmed value) := by
  have bare := head?_ne_bracket unbracketed nonempty
  rw [outcome_of_inner (ne_nil_of_trimmed nonempty) (inner_of_not_numbered bare unnumbered)]

/-- A port is cut off when no space stands behind it. -/
theorem outcome_of_numbered (nonempty : trimmed value ≠ [])
    (unbracketed : (trimmed value).head? ≠ some '[') (numbered : Numbered value) :
    outcome value = accepted (trimmed (before ':' (trimmed value))) := by
  have bare := head?_ne_bracket unbracketed nonempty
  obtain ⟨front, back, whole, frontSpaces, backSpaces, -, -⟩ := exists_spaces nonempty
  have missing : ':' ∉ front := fun member => absurd (frontSpaces ':' member) (by decide)
  have colon : ':' ∈ trimmed value := by
    obtain ⟨host, port, shape, -⟩ := numbered
    refine mem_trim_of_mem ?_ (by decide)
    rw [shape]
    simp
  rw [outcome_of_inner (ne_nil_of_trimmed nonempty) (inner_of_numbered bare numbered)]
  congr 1
  calc trimmed (before ':' value)
      = trimmed (before ':' (front ++ (trimmed value ++ back))) := by rw [← whole]
    _ = trimmed (front ++ before ':' (trimmed value)) := by
        rw [before_append_of_notMem missing, before_append_of_mem colon]
    _ = trimmed (before ':' (trimmed value)) :=
        trim_append_left fun char member => decide_eq_true (frontSpaces char member)

/-- A port counts for a text if it counts without the spaces, and none is behind it. -/
theorem numbered_iff_trimmed (nonempty : trimmed value ≠ []) :
    Numbered value ↔ value.getLast? ≠ some ' ' ∧ Numbered (trimmed value) := by
  obtain ⟨front, back, whole, frontSpaces, backSpaces, -, last⟩ := exists_spaces nonempty
  rw [ne_eq, last, not_not]
  calc Numbered value
      ↔ Numbered (front ++ (trimmed value ++ back)) := by rw [← whole]
    _ ↔ back = [] ∧ Numbered (trimmed value) := by
        rw [numbered_append_left frontSpaces, numbered_append_right backSpaces]

end Outcomes

section Agreement

variable {value host : List Char}

/-- A host that a platform accepted names itself again unless it ends with a port. -/
theorem outcome_of_acceptable (acceptable : Acceptable host) :
    outcome host = some (some host) ↔ ¬ Numbered host := by
  have solid := trimmed_of_notMem acceptable.unspaced
  have nonempty : trimmed host ≠ [] := by
    rw [solid]
    exact acceptable.nonempty
  have unbracketed : (trimmed host).head? ≠ some '[' := fun bracket =>
    acceptable.plain.2.1 (mem_of_mem_trim (List.mem_of_head? bracket))
  constructor
  · intro same numbered
    rw [outcome_of_numbered nonempty unbracketed numbered, accepted_eq_some, solid] at same
    have colon : ':' ∈ host := by
      obtain ⟨name, port, shape, -⟩ := numbered
      simp [shape]
    rw [Option.some.inj same.2] at colon
    exact notMem_before (mem_of_mem_trim colon)
  · intro unnumbered
    rw [outcome_of_unnumbered nonempty unbracketed unnumbered, solid, accepted_eq_some]
    exact ⟨acceptable, rfl⟩

theorem outcome_of_blank (nonempty : value ≠ []) (blank : trimmed value = []) :
    outcome value = none := by
  have spaces : ∀ char ∈ value, char = ' ' := by simpa using trim_eq_nil.mp blank
  have unbracketed : value.head? ≠ some '[' := fun bracket =>
    absurd (spaces _ (List.mem_of_head? bracket)) (by decide)
  have missing : ':' ∉ value := fun member => absurd (spaces _ member) (by decide)
  rw [outcome_of_inner nonempty (inner_of_not_numbered unbracketed
    (not_numbered_of_notMem missing)), blank]
  exact accepted_of_not fun acceptable => acceptable.nonempty rfl

theorem outcome_of_enclosed {inside : List Char} (enclosed : Enclosed inside value) :
    outcome value = accepted (trimmed inside) := by
  refine outcome_of_inner ?_ (inner_of_enclosed enclosed)
  rintro rfl
  simpa using head?_of_enclosed enclosed

theorem not_misread_of_consistent (consistent : Consistent value) : ¬ Misread value := by
  intro misread
  obtain ⟨same, stable⟩ := consistent
  cases misread with
  | blank nonempty blank =>
      rw [outcome_of_blank nonempty blank, blank] at same
      simp [outcome] at same
  | paddedBrackets inside space enclosed acceptable =>
      rw [outcome_of_enclosed enclosed, outcome_of_padded_bracket space
        (head?_of_enclosed enclosed), accepted, if_pos acceptable] at same
      simp at same
  | portInBrackets inside enclosed acceptable numbered =>
      refine stable _ ?_ numbered
      rw [outcome_of_enclosed enclosed, accepted_eq_some]
      exact ⟨acceptable, rfl⟩
  | paddedPort space unbracketed numbered either =>
      have colon : ':' ∈ trimmed value := by
        obtain ⟨name, port, shape, -⟩ := numbered
        simp [shape]
      have nonempty : trimmed value ≠ [] := List.ne_nil_of_mem colon
      have unnumbered : ¬ Numbered value := fun padded =>
        ((numbered_iff_trimmed nonempty).mp padded).1 space
      rw [outcome_of_unnumbered nonempty unbracketed unnumbered, outcome_of_numbered
        (by rwa [trimmed_trimmed]) (by rwa [trimmed_trimmed]) numbered, trimmed_trimmed] at same
      have hosts : trimmed (before ':' (trimmed value)) = trimmed value := by
        rcases either with short | whole
        · rw [accepted, if_pos short, eq_comm, accepted_eq_some] at same
          exact Option.some.inj same.2
        · rw [eq_comm, accepted, if_pos whole, eq_comm, accepted_eq_some] at same
          exact (Option.some.inj same.2).symm
      rw [← hosts] at colon
      exact notMem_before (mem_of_mem_trim colon)

theorem consistent_of_bracket (fine : ¬ Misread value)
    (bracket : (trimmed value).head? = some '[') : Consistent value := by
  by_cases closed : ']' ∈ trimmed value
  · obtain ⟨inside, enclosed⟩ := exists_enclosed bracket closed
    by_cases acceptable : Acceptable (trimmed inside)
    · have unspaced : value.head? ≠ some ' ' := fun space =>
        fine (.paddedBrackets inside space enclosed acceptable)
      refine ⟨(outcome_of_unpadded_bracket unspaced bracket).symm, ?_⟩
      intro host found
      rw [outcome_of_enclosed enclosed, accepted_eq_some] at found
      rw [Option.some.inj found.2]
      exact fun numbered => fine (.portInBrackets inside enclosed acceptable numbered)
    · have rejected : outcome (trimmed value) = none := by
        rw [outcome_of_enclosed enclosed, accepted_of_not acceptable]
      refine ⟨?_, by simp [rejected]⟩
      by_cases space : value.head? = some ' '
      · rw [rejected, outcome_of_padded_bracket space bracket]
      · rw [outcome_of_unpadded_bracket space bracket]
  · have nonempty : trimmed value ≠ [] := by
      rintro empty
      simp [empty] at bracket
    have rejected : outcome (trimmed value) = none := by
      rw [outcome, if_neg nonempty, inner_of_notMem bracket closed, Option.bind_none]
    refine ⟨?_, by simp [rejected]⟩
    by_cases space : value.head? = some ' '
    · rw [rejected, outcome_of_padded_bracket space bracket]
    · rw [outcome_of_unpadded_bracket space bracket]

theorem consistent_of_no_bracket (fine : ¬ Misread value) (nonempty : trimmed value ≠ [])
    (unbracketed : (trimmed value).head? ≠ some '[') : Consistent value := by
  have nonempty' : trimmed (trimmed value) ≠ [] := by rwa [trimmed_trimmed]
  have unbracketed' : (trimmed (trimmed value)).head? ≠ some '[' := by rwa [trimmed_trimmed]
  by_cases numbered : Numbered (trimmed value)
  · have short := outcome_of_numbered nonempty' unbracketed' numbered
    rw [trimmed_trimmed] at short
    by_cases space : value.getLast? = some ' '
    · have unnumbered : ¬ Numbered value := fun padded =>
        ((numbered_iff_trimmed nonempty).mp padded).1 space
      have neither := not_or.mp fun either => fine (.paddedPort space unbracketed numbered either)
      rw [accepted_of_not neither.1] at short
      refine ⟨?_, by simp [short]⟩
      rw [short, outcome_of_unnumbered nonempty unbracketed unnumbered, accepted_of_not neither.2]
    · have padded := (numbered_iff_trimmed nonempty).mpr ⟨space, numbered⟩
      refine ⟨by rw [short, outcome_of_numbered nonempty unbracketed padded], ?_⟩
      intro host found
      rw [short, accepted_eq_some] at found
      rw [Option.some.inj found.2]
      exact not_numbered_of_notMem fun colon => notMem_before (mem_of_mem_trim colon)
  · have unnumbered : ¬ Numbered value := fun padded =>
      numbered ((numbered_iff_trimmed nonempty).mp padded).2
    have whole := outcome_of_unnumbered nonempty' unbracketed' numbered
    rw [trimmed_trimmed] at whole
    refine ⟨by rw [whole, outcome_of_unnumbered nonempty unbracketed unnumbered], ?_⟩
    intro host found
    rw [whole, accepted_eq_some] at found
    rwa [Option.some.inj found.2]

theorem consistent_iff : Consistent value ↔ ¬ Misread value := by
  refine ⟨not_misread_of_consistent, fun fine => ?_⟩
  by_cases blank : trimmed value = []
  · obtain rfl : value = [] := by
      by_contra nonempty
      exact fine (.blank nonempty blank)
    exact ⟨by rw [blank], by simp [blank, outcome]⟩
  · by_cases bracket : (trimmed value).head? = some '['
    · exact consistent_of_bracket fine bracket
    · exact consistent_of_no_bracket fine blank bracket

end Agreement

end ProxyLauncher.Mobile
