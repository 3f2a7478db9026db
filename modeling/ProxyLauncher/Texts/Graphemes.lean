import Mathlib.Data.List.Chain

/-!
# Extended grapheme clusters

A Swift `Character` is an extended grapheme cluster.  The rules of segmentation are those of
Unicode; the tables of properties stay a parameter, of which the ASCII part is known.
-/

namespace ProxyLauncher.Texts

/-- `Grapheme_Cluster_Break`. -/
inductive BreakClass where
  | cr
  | lf
  | control
  | extend
  | zwj
  | regionalIndicator
  | prepend
  | spacingMark
  | l
  | v
  | t
  | lv
  | lvt
  | other
deriving DecidableEq

/-- `Indic_Conjunct_Break`. -/
inductive ConjunctClass where
  | none
  | consonant
  | extend
  | linker
deriving DecidableEq

/-- The tables of Unicode. -/
structure Properties where
  breakClass : Char → BreakClass
  pictographic : Char → Bool
  conjunct : Char → ConjunctClass
  breakClass_cr : ∀ char, breakClass char = .cr ↔ char = '\r'
  breakClass_lf : ∀ char, breakClass char = .lf ↔ char = '\n'
  breakClass_tab : breakClass '\t' = .control
  breakClass_ascii : ∀ char, 32 ≤ char.toNat → char.toNat < 127 → breakClass char = .other
  pictographic_ascii : ∀ char, 32 ≤ char.toNat → char.toNat < 127 → pictographic char = false
  conjunct_ascii : ∀ char, 32 ≤ char.toNat → char.toNat < 127 → conjunct char = .none

variable (properties : Properties)

namespace BreakClass

/-- The classes of GB4 and GB5, before and after which there is a break. -/
def isControl : BreakClass → Bool
  | .cr => true
  | .lf => true
  | .control => true
  | _ => false

/-- GB6, GB7 and GB8: the parts of a Hangul syllable. -/
def isSyllable : BreakClass → BreakClass → Bool
  | .l, right => right = .l || right = .v || right = .lv || right = .lvt
  | .lv, right => right = .v || right = .t
  | .v, right => right = .v || right = .t
  | .lvt, right => right = .t
  | .t, right => right = .t
  | _, _ => false

/-- GB9 and GB9a: what joins the cluster before it. -/
def isExtending : BreakClass → Bool
  | .extend => true
  | .zwj => true
  | .spacingMark => true
  | _ => false

end BreakClass

namespace Properties

/-- GB9c: a consonant behind another one, with a linker between them. -/
def joinsConsonant (cluster : List Char) (next : Char) : Bool :=
  let isMark (char : Char) : Bool :=
    properties.conjunct char = .extend || properties.conjunct char = .linker
  let marks := cluster.reverse.takeWhile isMark
  properties.conjunct next = .consonant && marks.any (fun char => properties.conjunct char = .linker) &&
    (cluster.reverse.dropWhile isMark).head?.any fun char => properties.conjunct char = .consonant

/-- GB11: a pictograph behind a zero width joiner. -/
def joinsPictograph (cluster : List Char) (next : Char) : Bool :=
  properties.pictographic next &&
    cluster.getLast?.any (fun char => properties.breakClass char = .zwj) &&
    (cluster.reverse.tail.dropWhile fun char => properties.breakClass char = .extend).head?.any
      properties.pictographic

/-- GB12 and GB13: the second of two regional indicators. -/
def joinsIndicator (cluster : List Char) (next : Char) : Bool :=
  properties.breakClass next = .regionalIndicator &&
    (cluster.reverse.takeWhile fun char =>
      properties.breakClass char = .regionalIndicator).length % 2 = 1

/-- The next scalar belongs to the cluster before it. -/
def joins (cluster : List Char) (next : Char) : Bool :=
  cluster.getLast?.any fun last =>
    let left := properties.breakClass last
    let right := properties.breakClass next
    if left = .cr ∧ right = .lf then true
    else if left.isControl || right.isControl then false
    else left.isSyllable right || right.isExtending || left = .prepend ||
      properties.joinsConsonant cluster next || properties.joinsPictograph cluster next ||
      properties.joinsIndicator cluster next

/-- The clusters of a text behind the start of one. -/
def charactersFrom (cluster : List Char) : List Char → List (List Char)
  | [] => [cluster]
  | next :: text =>
      if properties.joins cluster next then charactersFrom (cluster ++ [next]) text
      else cluster :: charactersFrom [next] text

/-- `Array(text)`: the `Character`s of a text. -/
def characters : List Char → List (List Char)
  | [] => []
  | first :: text => properties.charactersFrom [first] text

def isExtending (char : Char) : Bool := (properties.breakClass char).isExtending

def isPrepending (char : Char) : Bool := properties.breakClass char = .prepend

variable {properties} {cluster front text : List Char} {last next : Char}

/-- A printable character of ASCII joins what is prepended to it. -/
theorem joins_ascii (printable : 32 ≤ next.toNat) (ascii : next.toNat < 127)
    (ends : cluster.getLast? = some last) :
    properties.joins cluster next = properties.isPrepending last := by
  have right := properties.breakClass_ascii next printable ascii
  have pictographic := properties.pictographic_ascii next printable ascii
  have conjunct := properties.conjunct_ascii next printable ascii
  simp only [joins, ends, Option.any_some, right, joinsConsonant, conjunct, joinsPictograph,
    pictographic, joinsIndicator, isPrepending]
  cases properties.breakClass last <;> simp [BreakClass.isControl, BreakClass.isSyllable,
    BreakClass.isExtending]

/-- What joins a printable character of ASCII. -/
theorem joins_of_ascii (printable : 32 ≤ last.toNat) (ascii : last.toNat < 127)
    (ends : cluster.getLast? = some last) :
    properties.joins cluster next = properties.isExtending next := by
  have left := properties.breakClass_ascii last printable ascii
  have conjunct := properties.conjunct_ascii last printable ascii
  obtain ⟨front, rfl⟩ := List.getLast?_eq_some_iff.mp ends
  simp only [joins, ends, Option.any_some, left, joinsConsonant, conjunct, joinsPictograph,
    joinsIndicator, isExtending, List.reverse_append, List.reverse_singleton, List.singleton_append,
    List.takeWhile_cons]
  cases properties.breakClass next <;> simp [BreakClass.isControl, BreakClass.isSyllable,
    BreakClass.isExtending]

/-- There is a break before a line feed, but for the one behind a carriage return. -/
theorem joins_lf (ends : cluster.getLast? = some last) :
    properties.joins cluster '\n' = decide (last = '\r') := by
  have right := (properties.breakClass_lf '\n').mpr rfl
  simp only [joins, ends, Option.any_some, right, ← properties.breakClass_cr]
  cases properties.breakClass last <;> simp [BreakClass.isControl]

theorem joins_cr (cluster : List Char) : properties.joins cluster '\r' = false := by
  have right := (properties.breakClass_cr '\r').mpr rfl
  rw [joins, Option.any_eq_false]
  simp [right, BreakClass.isControl]

/-- There is a break behind a line feed. -/
theorem joins_of_lf (ends : cluster.getLast? = some '\n') : properties.joins cluster next = false := by
  have left := (properties.breakClass_lf '\n').mpr rfl
  simp [joins, ends, left, BreakClass.isControl]

theorem flatten_charactersFrom : (properties.charactersFrom cluster text).flatten = cluster ++ text := by
  induction text generalizing cluster with
  | nil => simp [charactersFrom]
  | cons next text ih =>
      rw [charactersFrom]
      split_ifs
      · rw [ih, List.append_assoc, List.singleton_append]
      · rw [List.flatten_cons, ih, List.singleton_append]

@[simp] theorem flatten_characters (text : List Char) :
    (properties.characters text).flatten = text := by
  cases text with
  | nil => rfl
  | cons first text => exact flatten_charactersFrom

/-- The first cluster begins with the first scalar. -/
theorem charactersFrom_eq_cons (cluster text : List Char) :
    ∃ more later, properties.charactersFrom cluster text = (cluster ++ more) :: later := by
  induction text generalizing cluster with
  | nil => exact ⟨[], [], by simp [charactersFrom]⟩
  | cons next text ih =>
      rw [charactersFrom]
      split_ifs
      · obtain ⟨more, later, shape⟩ := ih (cluster ++ [next])
        exact ⟨next :: more, later, by simp [shape]⟩
      · exact ⟨[], properties.charactersFrom [next] text, by simp⟩

/-- A break behind the last cluster splits the segmentation of a text. -/
theorem charactersFrom_append
    (breaks : ∀ last ∈ (properties.charactersFrom cluster front).getLast?,
      properties.joins last next = false) :
    properties.charactersFrom cluster (front ++ next :: text) =
      properties.charactersFrom cluster front ++ properties.characters (next :: text) := by
  induction front generalizing cluster with
  | nil =>
      have split := breaks cluster rfl
      rw [List.nil_append, charactersFrom.eq_2, split, if_neg Bool.false_ne_true]
      rfl
  | cons char front ih =>
      rw [charactersFrom] at breaks
      rw [List.cons_append, charactersFrom, charactersFrom]
      split_ifs at breaks ⊢
      · exact ih breaks
      · rw [List.cons_append, ih]
        intro last member
        apply breaks last
        obtain ⟨more, later, shape⟩ := @charactersFrom_eq_cons properties [char] front
        rw [shape] at member ⊢
        rwa [List.getLast?_cons_cons]

theorem characters_append
    (breaks : ∀ last ∈ (properties.characters front).getLast?, properties.joins last next = false) :
    properties.characters (front ++ next :: text) =
      properties.characters front ++ properties.characters (next :: text) := by
  cases front with
  | nil => rfl
  | cons first front => exact charactersFrom_append breaks

/-- The last scalar of a text is the last one of its last cluster. -/
theorem getLast?_charactersFrom (nonempty : cluster ≠ []) :
    ∃ other ∈ (properties.charactersFrom cluster text).getLast?,
      other.getLast? = (cluster ++ text).getLast? := by
  induction text generalizing cluster with
  | nil => exact ⟨cluster, rfl, by rw [List.append_nil]⟩
  | cons next text ih =>
      rw [charactersFrom]
      split_ifs
      · obtain ⟨other, member, same⟩ := ih (List.append_ne_nil_of_left_ne_nil nonempty [next])
        exact ⟨other, member, by rw [same, List.append_assoc, List.singleton_append]⟩
      · obtain ⟨other, member, same⟩ := ih (List.cons_ne_nil next [])
        obtain ⟨more, later, shape⟩ := @charactersFrom_eq_cons properties [next] text
        refine ⟨other, ?_, ?_⟩
        · rw [shape] at member ⊢
          rwa [List.getLast?_cons_cons]
        · rw [same, List.singleton_append,
            List.getLast?_append_of_ne_nil _ (List.cons_ne_nil next text)]

/-- A break that only the scalars on both sides decide. -/
theorem characters_append_of_last
    (breaks : ∀ other, other.getLast? = front.getLast? → properties.joins other next = false) :
    properties.characters (front ++ next :: text) =
      properties.characters front ++ properties.characters (next :: text) := by
  apply characters_append
  intro last member
  cases front with
  | nil => cases member
  | cons first front =>
      obtain ⟨other, found, same⟩ := @getLast?_charactersFrom properties [first] front
        (List.cons_ne_nil first [])
      obtain rfl : other = last := Option.some.inj (found.symm.trans member)
      exact breaks other same

theorem characters_cons (first : Char) (text : List Char) :
    ∃ more later, properties.characters (first :: text) = (first :: more) :: later :=
  charactersFrom_eq_cons [first] text

/-- A scalar that joins the first one is in its cluster. -/
theorem characters_cons_joined {first : Char} (joined : properties.joins [first] next = true) :
    ∃ more later, properties.characters (first :: next :: text) = (first :: next :: more) :: later := by
  rw [characters, charactersFrom, if_pos joined]
  exact charactersFrom_eq_cons [first, next] text

theorem isExtending_ascii (printable : 32 ≤ next.toNat) (ascii : next.toNat < 127) :
    properties.isExtending next = false := by
  rw [isExtending, properties.breakClass_ascii next printable ascii]
  rfl

theorem isPrepending_ascii (printable : 32 ≤ next.toNat) (ascii : next.toNat < 127) :
    properties.isPrepending next = false := by
  rw [isPrepending, properties.breakClass_ascii next printable ascii]
  rfl

/-- A printable character of ASCII is a cluster of its own unless the next scalar extends it. -/
theorem characters_cons_ascii {first : Char} (printable : 32 ≤ first.toNat)
    (ascii : first.toNat < 127) (free : ∀ char ∈ text.head?, properties.isExtending char = false) :
    properties.characters (first :: text) = [first] :: properties.characters text := by
  cases text with
  | nil => rfl
  | cons char text =>
      apply @characters_append_of_last properties [first] text char
      intro other ends
      rw [joins_of_ascii printable ascii ends, free char rfl]

theorem characters_append_ascii (ascii : ∀ char ∈ front, 32 ≤ char.toNat ∧ char.toNat < 127)
    (free : ∀ char ∈ text.head?, properties.isExtending char = false) :
    properties.characters (front ++ text) =
      front.map (fun char => [char]) ++ properties.characters text := by
  induction front with
  | nil => rfl
  | cons first front ih =>
      rw [List.forall_mem_cons] at ascii
      rw [List.cons_append, characters_cons_ascii ascii.1.1 ascii.1.2, ih ascii.2]
      · rfl
      · cases front with
        | nil => exact free
        | cons next front =>
            have second := ascii.2 next List.mem_cons_self
            rintro char ⟨⟩
            exact isExtending_ascii second.1 second.2

/-- A scalar that joins the last cluster is added to it. -/
theorem charactersFrom_joined
    (joined : ∀ last ∈ (properties.charactersFrom cluster front).getLast?,
      properties.joins last next = true) :
    ∃ clusters last, properties.charactersFrom cluster front = clusters ++ [last] ∧
      properties.charactersFrom cluster (front ++ [next]) = clusters ++ [last ++ [next]] := by
  induction front generalizing cluster with
  | nil =>
      refine ⟨[], cluster, rfl, ?_⟩
      rw [List.nil_append, charactersFrom, if_pos (joined cluster rfl), charactersFrom]
      rfl
  | cons char front ih =>
      rw [charactersFrom] at joined
      rw [List.cons_append, charactersFrom, charactersFrom]
      split_ifs at joined ⊢
      · exact ih joined
      · obtain ⟨more, later, shape⟩ := @charactersFrom_eq_cons properties [char] front
        have inner : ∀ last ∈ (properties.charactersFrom [char] front).getLast?,
            properties.joins last next = true := by
          intro last member
          apply joined last
          rw [shape] at member ⊢
          rwa [List.getLast?_cons_cons]
        obtain ⟨clusters, last, before, after⟩ := ih inner
        exact ⟨cluster :: clusters, last, by rw [before]; rfl, by rw [after]; rfl⟩

variable (properties) in
/-- Each of the texts is a cluster, and there is a break behind it. -/
structure IsSegmentation (clusters : List (List Char)) : Prop where
  whole : ∀ cluster ∈ clusters, properties.characters cluster = [cluster]
  breaks : clusters.IsChain fun cluster next =>
    ∀ first ∈ next.head?, properties.joins cluster first = false

theorem ne_nil_of_whole (whole : properties.characters cluster = [cluster]) : cluster ≠ [] := by
  rintro rfl
  cases whole

theorem charactersFrom_concat {whole : List Char}
    (one : properties.charactersFrom cluster front = [whole])
    (joined : properties.joins whole next = true) :
    properties.charactersFrom cluster (front ++ [next]) = [whole ++ [next]] := by
  induction front generalizing cluster with
  | nil =>
      obtain rfl : cluster = whole := (List.cons.inj one).1
      rw [List.nil_append, charactersFrom.eq_2, if_pos joined, charactersFrom]
  | cons char front ih =>
      rw [charactersFrom] at one
      rw [List.cons_append, charactersFrom]
      split_ifs at one ⊢
      · exact ih one
      · obtain ⟨more, later, shape⟩ := @charactersFrom_eq_cons properties [char] front
        rw [shape] at one
        cases (List.cons.inj one).2

theorem isSegmentation_charactersFrom (whole : properties.characters cluster = [cluster]) :
    properties.IsSegmentation (properties.charactersFrom cluster text) := by
  induction text generalizing cluster with
  | nil => exact ⟨fun other member => List.mem_singleton.mp member ▸ whole, List.isChain_singleton _⟩
  | cons next text ih =>
      rw [charactersFrom]
      split_ifs with joined
      · apply ih
        cases cluster with
        | nil => cases whole
        | cons first cluster => exact charactersFrom_concat whole joined
      · have later := @ih [next] rfl
        constructor
        · exact List.forall_mem_cons.mpr ⟨whole, later.whole⟩
        · obtain ⟨more, rest, shape⟩ := @charactersFrom_eq_cons properties [next] text
          have chain := later.breaks
          rw [shape] at chain ⊢
          refine List.isChain_cons_cons.mpr ⟨?_, chain⟩
          intro first member
          rw [← Option.some.inj member]
          exact Bool.eq_false_iff.mpr joined

theorem isSegmentation_characters (text : List Char) :
    properties.IsSegmentation (properties.characters text) := by
  cases text with
  | nil => exact ⟨fun other member => absurd member List.not_mem_nil, List.isChain_nil⟩
  | cons first text => exact isSegmentation_charactersFrom rfl

theorem characters_flatten {clusters : List (List Char)}
    (segmentation : properties.IsSegmentation clusters) :
    properties.characters clusters.flatten = clusters := by
  induction clusters with
  | nil => rfl
  | cons cluster clusters ih =>
      have whole := List.forall_mem_cons.mp segmentation.whole
      have rest := ih ⟨whole.2, segmentation.breaks.tail⟩
      rw [List.flatten_cons]
      cases clusters with
      | nil => rw [List.flatten_nil, List.append_nil, whole.1]
      | cons next clusters =>
          have nonempty := ne_nil_of_whole (List.forall_mem_cons.mp whole.2).1
          obtain ⟨first, tail, rfl⟩ := List.exists_cons_of_ne_nil nonempty
          have breaks := (List.isChain_cons_cons.mp segmentation.breaks).1 first rfl
          rw [List.flatten_cons, List.cons_append] at rest ⊢
          rw [characters_append, whole.1, rest]
          · rfl
          · intro last member
            rw [whole.1] at member
            rw [← Option.some.inj member]
            exact breaks

end Properties

end ProxyLauncher.Texts
