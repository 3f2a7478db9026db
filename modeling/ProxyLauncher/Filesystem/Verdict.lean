import ProxyLauncher.Filesystem.Migration

/-!
# The verdict of the migration

A migration that completes leaves nothing to import, so later ones complete too.  Only the first
call of a process looks at the files, and only the later ones look at the marker.
-/

namespace ProxyLauncher.Filesystem

open Python Transition

variable {host : Host} {files files' : StateFiles} {name : String} {names : List String}
  {outcome : Migration} {session : Session} {events : List Verdict}

/-- Two sources of a recovery backup that is not there differ. -/
def Conflicting (host : Host) (files : StateFiles) (name : String) : Prop :=
  name ∈ recoveryBackups ∧ files.current name = .absent ∧ Differ host files name

/-- A state file is there, has no source, or can be copied from one without a conflict. -/
def Importable (host : Host) (files : StateFiles) (name : String) : Prop :=
  files.current name ≠ .absent ∨
    ∀ source ∈ (sources host files name).head?,
      ¬ (name ∈ recoveryBackups ∧ Differ host files name) ∧ host.writes name = true ∧
        files.legacy source name ≠ .unreadable

/-- Nothing is in the way of the migration. -/
def Completes (host : Host) (files : StateFiles) : Prop :=
  host.makesTarget = true ∧ ∀ name ∈ stateFiles, Importable host files name

/-- The files are handled with care in all the states that are reached. -/
structure Preserves (host : Host) (files files' : StateFiles) : Prop where
  kept : ∀ name, files.current name ≠ .absent → files'.current name = files.current name
  notImported : ∀ name, Conflicting host files name → files'.current name = .absent

/-- A verdict that counts: `True`, or a conflict that has been reported. -/
def Verdict.Decided (verdict : Verdict) : Prop :=
  verdict.returned = true ∨ verdict.reported = true

/-- All calls after one with a verdict return the same. -/
def Agrees (events : List Verdict) : Prop :=
  ∀ before verdict after, events = before ++ verdict :: after → verdict.Decided →
    ∀ later ∈ after, later.returned = verdict.returned

/-- The claim about all the calls of a process and of later ones. -/
def Stable (host : Host) (files : StateFiles) : Prop :=
  ∀ events session, (machine host files).Reaches Machine.Always events session →
    Agrees events ∧ Preserves host files session.files

/-- The migration changes what is in the data directory only. -/
structure Extends (host : Host) (files files' : StateFiles) : Prop extends
    Preserves host files files' where
  legacy : files'.legacy = files.legacy
  importable : ∀ name, Importable host files' name ↔ Importable host files name

theorem sources_congr (same : files'.legacy = files.legacy) :
    sources host files' name = sources host files name := by
  rw [sources, sources, same]

theorem differ_congr (same : files'.legacy = files.legacy) :
    Differ host files' name ↔ Differ host files name := by
  rw [Differ, Differ, sources_congr same, same]

theorem Extends.refl (host : Host) (files : StateFiles) : Extends host files files where
  kept _ _ := rfl
  notImported _ conflicting := conflicting.2.1
  legacy := rfl
  importable _ := Iff.rfl

theorem Extends.trans {files'' : StateFiles} (first : Extends host files files')
    (second : Extends host files' files'') : Extends host files files'' where
  kept name there := by
    have between := first.kept name there
    rw [second.kept name (between ▸ there), between]
  notImported name conflicting := by
    refine second.notImported name ⟨conflicting.1, first.notImported name conflicting, ?_⟩
    exact (differ_congr first.legacy).mpr conflicting.2.2
  legacy := second.legacy.trans first.legacy
  importable name := (second.importable name).trans (first.importable name)

theorem extends_marker (host : Host) (files : StateFiles) (marker : Entry) :
    Extends host files { files with marker } where
  kept _ _ := rfl
  notImported _ conflicting := conflicting.2.1
  legacy := rfl
  importable _ := Iff.rfl

/-- A file that can be copied is copied. -/
theorem extends_copied {source : String} {others : List String}
    (found : sources host files name = source :: others) (absent : files.current name = .absent)
    (agreed : ¬ (name ∈ recoveryBackups ∧ Differ host files name))
    (writes : host.writes name = true) (readable : files.legacy source name ≠ .unreadable) :
    Extends host files (files.copied name source) where
  kept name' there := by
    refine Function.update_of_ne ?_ _ _
    rintro rfl
    exact there absent
  notImported name' conflicting := by
    refine (Function.update_of_ne ?_ _ _).trans conflicting.2.1
    rintro rfl
    exact agreed ⟨conflicting.1, conflicting.2.2⟩
  legacy := rfl
  importable name' := by
    by_cases same : name' = name
    · subst same
      refine iff_of_true (.inl ?_) (.inr ?_)
      · have member : source ∈ sources host files name' := found ▸ List.mem_cons_self
        have valid := (List.mem_filter.mp member).2
        intro gone
        have source_absent : files.legacy source name' = .absent := by
          simpa [StateFiles.copied] using gone
        rw [source_absent] at valid
        simp [validStateFile] at valid
      · rw [found]
        rintro _ ⟨⟩
        exact ⟨agreed, writes, readable⟩
    · have current : (files.copied name source).current name' = files.current name' :=
        Function.update_of_ne same _ _
      rw [Importable, current]
      rfl

theorem extends_importStates (imported : importStates host names files = (outcome, files')) :
    Extends host files files' := by
  induction names generalizing files with
  | nil =>
      obtain ⟨-, rfl⟩ := Prod.mk.inj imported
      exact .refl _ _
  | cons name names ih =>
      rw [importStates] at imported
      split at imported
      · exact ih imported
      · rename_i source others found
        split_ifs at imported with there conflicting marks
        · exact ih imported
        · obtain ⟨-, rfl⟩ := Prod.mk.inj imported
          exact extends_marker _ _ _
        · obtain ⟨-, rfl⟩ := Prod.mk.inj imported
          exact .refl _ _
        · rw [copyStateAtomically] at imported
          split_ifs at imported with copies
          · exact (extends_copied found (not_not.mp there) conflicting copies.1 copies.2).trans
              (ih imported)
          · obtain ⟨-, rfl⟩ := Prod.mk.inj imported
            exact .refl _ _

/-- The migration completes exactly when all its files can be imported. -/
theorem importStates_ready_iff :
    (importStates host names files).1 = .ready ↔ ∀ name ∈ names, Importable host files name := by
  induction names generalizing files with
  | nil => simp [importStates]
  | cons name names ih =>
      rw [importStates, List.forall_mem_cons]
      split
      · rename_i none
        rw [ih, and_iff_right]
        exact .inr (by simp [none])
      · rename_i source others found
        split_ifs with there conflicting marks
        · rw [ih, and_iff_right (.inl there)]
        · refine iff_of_false (by simp) fun importable => ?_
          exact (importable.1.resolve_left there source (by simp [found])).1 conflicting
        · refine iff_of_false (by simp) fun importable => ?_
          exact (importable.1.resolve_left there source (by simp [found])).1 conflicting
        · rw [copyStateAtomically]
          split_ifs with copies
          · have extended := extends_copied found (not_not.mp there) conflicting copies.1 copies.2
            rw [ih, and_iff_right]
            · exact forall₂_congr fun name' _ => extended.importable name'
            · refine .inr ?_
              rw [found]
              rintro _ ⟨⟩
              exact ⟨conflicting, copies⟩
          · refine iff_of_false (by simp) fun importable => ?_
            exact copies (importable.1.resolve_left there source (by simp [found])).2

/-- Only a conflict makes a marker. -/
theorem importStates_marker (imported : importStates host names files = (.ready, files')) :
    files'.marker = files.marker := by
  induction names generalizing files with
  | nil =>
      obtain ⟨-, rfl⟩ := Prod.mk.inj imported
      rfl
  | cons name names ih =>
      rw [importStates] at imported
      split at imported
      · exact ih imported
      · rename_i source others found
        split_ifs at imported with there conflicting marks
        · exact ih imported
        · simp at imported
        · simp at imported
        · rw [copyStateAtomically] at imported
          split_ifs at imported with copies
          · have rest : importStates host names (files.copied name source) = (.ready, files') :=
              imported
            have kept := ih rest
            exact kept
          · simp at imported

theorem importStates_conflict (imported : importStates host names files = (.conflict, files')) :
    files'.blocked = true := by
  induction names generalizing files with
  | nil => simp [importStates] at imported
  | cons name names ih =>
      rw [importStates] at imported
      split at imported
      · exact ih imported
      · rename_i source others found
        split_ifs at imported with there conflicting marks
        · exact ih imported
        · obtain ⟨-, rfl⟩ := Prod.mk.inj imported
          exact decide_eq_true (by simp)
        · simp at imported
        · rw [copyStateAtomically] at imported
          split_ifs at imported with copies
          · have rest : importStates host names (files.copied name source) = (.conflict, files') :=
              imported
            exact ih rest
          · simp at imported

theorem completes_congr (extended : Extends host files files') :
    Completes host files' ↔ Completes host files :=
  and_congr_right fun _ => forall₂_congr fun name _ => extended.importable name

theorem extends_call (host : Host) (session : Session) :
    Extends host session.files (ensureStateReady host session).2.files := by
  rw [ensureStateReady]
  split
  · exact .refl _ _
  · split
    · split <;> rename_i files imported <;> exact extends_importStates imported
    · exact .refl _ _

theorem extends_of_reaches
    (reaches : (machine host files).Reaches Machine.Always events session) :
    Extends host files session.files := by
  induction reaches with
  | start initial =>
      obtain rfl : _ = (⟨files, false⟩ : Session) := initial
      exact .refl _ _
  | step action _ _ next ih =>
      cases action with
      | call =>
          obtain rfl := Option.some.inj next
          exact ih.trans (extends_call host _)
      | restart =>
          obtain rfl := Option.some.inj next
          exact ih

theorem agrees_of_constant {verdict : Bool}
    (constant : ∀ event ∈ events, event.returned = verdict) : Agrees events := by
  rintro before event after rfl - later member
  rw [constant later (by simp [member]), constant event (by simp)]

/-- The first call of a process, when nothing is in the way. -/
theorem ensureStateReady_completes (completes : Completes host session.files)
    (first : session.stateReady = false) :
    ∃ files', ensureStateReady host session = (⟨true, false⟩, ⟨files', true⟩) ∧
      files'.marker = session.files.marker := by
  rw [ensureStateReady, if_neg (by simp [first]), if_pos completes.1]
  have ready := importStates_ready_iff.mpr completes.2
  cases imported : importStates host stateFiles session.files with
  | mk outcome files' =>
      rw [imported] at ready
      obtain rfl : outcome = .ready := ready
      exact ⟨files', rfl, importStates_marker imported⟩

/-- A call when something is in the way. -/
theorem ensureStateReady_blocked (blocked : ¬ Completes host session.files)
    (marked : session.stateReady = true → session.files.blocked = true) :
    (ensureStateReady host session).1.returned = false ∧
      ((ensureStateReady host session).2.stateReady = true →
        (ensureStateReady host session).2.files.blocked = true) := by
  rw [ensureStateReady]
  split
  · rename_i ready
    exact ⟨by simp [marked ready], marked⟩
  · rename_i unready
    split
    · rename_i makes
      split
      · rename_i files imported
        have ready := importStates_ready_iff.mp (congrArg Prod.fst imported)
        exact absurd ⟨makes, ready⟩ blocked
      · rename_i files imported
        exact ⟨rfl, fun _ => importStates_conflict imported⟩
      · exact ⟨rfl, fun impossible => absurd impossible (by simp)⟩
    · exact ⟨rfl, fun ready => absurd ready unready⟩

/-- The calls when something is in the way: none returns `True`. -/
theorem false_of_reaches (blocked : ¬ Completes host files)
    (reaches : (machine host files).Reaches Machine.Always events session) :
    (∀ event ∈ events, event.returned = false) ∧
      (session.stateReady = true → session.files.blocked = true) := by
  induction reaches with
  | start initial =>
      obtain rfl : _ = (⟨files, false⟩ : Session) := initial
      exact ⟨by simp, by simp⟩
  | step action reaches _ next ih =>
      obtain ⟨before, marked⟩ := ih
      cases action with
      | call =>
          obtain rfl := Option.some.inj next
          have still := mt (completes_congr (extends_of_reaches reaches)).mp blocked
          obtain ⟨returned, marked'⟩ := ensureStateReady_blocked still marked
          refine ⟨fun event member => ?_, marked'⟩
          rcases List.mem_append.mp member with earlier | last
          · exact before event earlier
          · obtain rfl := List.mem_singleton.mp last
            exact returned
      | restart =>
          obtain rfl := Option.some.inj next
          exact ⟨by simpa [machine] using before, by simp⟩

/-- The calls when nothing is in the way, and no marker is there: all return `True`. -/
theorem true_of_reaches (completes : Completes host files) (unmarked : files.marker = .absent)
    (reaches : (machine host files).Reaches Machine.Always events session) :
    (∀ event ∈ events, event.returned = true) ∧ session.files.marker = .absent := by
  induction reaches with
  | start initial =>
      obtain rfl : _ = (⟨files, false⟩ : Session) := initial
      exact ⟨by simp, unmarked⟩
  | @step events session _ action reaches _ next ih =>
      obtain ⟨before, unmarked⟩ := ih
      cases action with
      | call =>
          obtain rfl := Option.some.inj next
          have call : (ensureStateReady host session).1.returned = true ∧
              (ensureStateReady host session).2.files.marker = .absent := by
            cases ready : session.stateReady with
            | true => simp [ensureStateReady, ready, StateFiles.blocked, unmarked]
            | false =>
                have still := (completes_congr (extends_of_reaches reaches)).mpr completes
                obtain ⟨files', called, kept⟩ := ensureStateReady_completes still ready
                rw [called]
                exact ⟨rfl, kept.trans unmarked⟩
          refine ⟨fun event member => ?_, call.2⟩
          rcases List.mem_append.mp member with earlier | last
          · exact before event earlier
          · obtain rfl := List.mem_singleton.mp last
            exact call.1
      | restart =>
          obtain rfl := Option.some.inj next
          exact ⟨by simpa [machine] using before, unmarked⟩

theorem reaches_call {verdict : Verdict} {session' : Session}
    (reaches : (machine host files).Reaches Machine.Always events session)
    (called : ensureStateReady host session = (verdict, session')) :
    (machine host files).Reaches Machine.Always (events ++ [verdict]) session' := by
  have next : (machine host files).next session .call = some session' := by
    simp [machine, called]
  have step := reaches.step .call trivial next
  have event : (machine host files).event session .call = some verdict := by
    simp [machine, called]
  rwa [event] at step

/-- A marker of an earlier run changes the verdict between the first call and the second. -/
theorem second_call_differs (completes : Completes host files) (marked : files.marker ≠ .absent) :
    ∃ session, (machine host files).Reaches Machine.Always [⟨true, false⟩, ⟨false, false⟩]
      session := by
  obtain ⟨files', first, kept⟩ := @ensureStateReady_completes host ⟨files, false⟩ completes rfl
  have second : ensureStateReady host ⟨files', true⟩ = (⟨false, false⟩, ⟨files', true⟩) := by
    have blocked : files'.marker ≠ .absent := by rwa [kept]
    simp [ensureStateReady, StateFiles.blocked, blocked]
  have start : (machine host files).Reaches Machine.Always [] ⟨files, false⟩ := .start rfl
  exact ⟨_, reaches_call (reaches_call start first) second⟩

/-- The calls return one verdict unless a marker of an earlier run outlives its conflict. -/
theorem verdict_stable_iff (host : Host) (files : StateFiles) :
    Stable host files ↔ files.marker = .absent ∨ ¬ Completes host files := by
  constructor
  · intro stable
    by_contra neither
    obtain ⟨marked, completes⟩ := not_or.mp neither
    obtain ⟨session, reaches⟩ := second_call_differs (not_not.mp completes) marked
    have agrees := (stable _ _ reaches).1 [] ⟨true, false⟩ [⟨false, false⟩] rfl (.inl rfl)
    exact absurd (agrees ⟨false, false⟩ (List.mem_singleton.mpr rfl)) (by simp)
  · intro condition events session reaches
    refine ⟨?_, (extends_of_reaches reaches).toPreserves⟩
    by_cases completes : Completes host files
    · have unmarked := condition.resolve_right (not_not_intro completes)
      exact agrees_of_constant (true_of_reaches completes unmarked reaches).1
    · exact agrees_of_constant (false_of_reaches completes reaches).1

/-- A computer without legacy files. -/
def sampleHost : Host where
  folders := []
  join folder name := folder ++ "/" ++ name
  samePath _ _ := false
  makesTarget := true
  writes _ := true
  writesMarker := true
  isZero _ := false
  nesting := 1000

/-- A marker, after the user has removed what was in conflict. -/
def markedFiles : StateFiles where
  legacy _ _ := .absent
  current _ := .absent
  marker := .file (conflictRecord "proxy_env_backup.json" ["a/proxy_env_backup.json",
    "b/proxy_env_backup.json"])

/-- The first call returns `True` and the second one `False`. -/
theorem marker_outlives_conflict :
    (∃ session, (machine sampleHost markedFiles).Reaches Machine.Always
        [⟨true, false⟩, ⟨false, false⟩] session) ∧
      ¬ Stable sampleHost markedFiles := by
  have completes : Completes sampleHost markedFiles := by
    refine ⟨rfl, fun name _ => .inr ?_⟩
    simp [sources, sampleHost]
  obtain ⟨session, reaches⟩ := second_call_differs completes (by simp [markedFiles])
  refine ⟨⟨session, reaches⟩, fun stable => ?_⟩
  have agrees := (stable _ _ reaches).1 [] ⟨true, false⟩ [⟨false, false⟩] rfl (.inl rfl)
  exact absurd (agrees ⟨false, false⟩ (List.mem_singleton.mpr rfl)) (by simp)

end ProxyLauncher.Filesystem
