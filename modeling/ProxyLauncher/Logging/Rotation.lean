import ProxyLauncher.Interruption.Session

/-!
# Rotation of the structured log

`StructuredLogger.log` appends one line to the log and first moves a log that would grow too long
out of the way.  An error of any file operation ends the call and is swallowed, and the process may
die between two of them.  The log and its backups hold records of this logger only, so that
`_prepare_path` has nothing to move.
-/

namespace ProxyLauncher.Logging

open Interruption Program

/-- A record as it is encoded, with its line end. -/
abbrev Record := List UInt8

/-- The bytes of some records. -/
def size (records : List Record) : ℕ :=
  (records.map List.length).sum

/-- The log `path` is file 0 and its backup `path.i` is file `i`.  `appended` is everything that
was ever written to the log. -/
structure Disk where
  file : ℕ → Option (List Record) := fun _ => none
  appended : List Record := []

def Disk.content (disk : Disk) (index : ℕ) : List Record :=
  (disk.file index).getD []

/-- The files from `index` down to 0, one after the other. -/
def concatenated (content : ℕ → List Record) : ℕ → List Record
  | 0 => content 0
  | index + 1 => content (index + 1) ++ concatenated content index

/-- What is left of the log: `path.backups`, …, `path.1`, `path`. -/
def Disk.kept (disk : Disk) (backups : ℕ) : List Record :=
  concatenated disk.content backups

inductive Query where
  | present (index : ℕ)
  | getsize (index : ℕ)

inductive Command where
  | remove (index : ℕ)
  | replace (source target : ℕ)
  | truncate (index : ℕ)
  | append (record : Record)

inductive Error where
  | os

def effect : Command → Disk → Disk
  | .remove index, disk => { disk with file := Function.update disk.file index none }
  | .replace source target, disk =>
      { disk with
        file := Function.update (Function.update disk.file target (disk.file source)) source none }
  | .truncate index, disk => { disk with file := Function.update disk.file index (some []) }
  | .append record, disk =>
      { file := Function.update disk.file 0 (some (disk.content 0 ++ [record]))
        appended := disk.appended ++ [record] }

/-- The settings of a `StructuredLogger`. -/
structure Logger where
  maxBytes : ℕ
  backups : ℕ

/-- `StructuredLogger.__init__`. -/
def Logger.ofSettings (maxBytes backups : ℤ) : Logger where
  maxBytes := (max 256 maxBytes).toNat
  backups := (max 0 backups).toNat

/-- `os.path.exists`. -/
def present (index : ℕ) : Program Disk Query Command Error Bool :=
  ask (.present index) (fun disk => (disk.file index).isSome) .os

/-- A command on a file, if the file exists. -/
def whenPresent (index : ℕ) (command : Command) : Program Disk Query Command Error Unit := do
  if ← present index then
    perform command .os

/-- The loop of `_rotate_if_needed`, from `index` down to 1. -/
def shift : ℕ → Program Disk Query Command Error Unit
  | 0 => pure ()
  | index + 1 => do
      whenPresent (index + 1) (.replace (index + 1) (index + 2))
      shift index

/-- The part of `_rotate_if_needed` that makes room for another backup. -/
def rotate (backups : ℕ) : Program Disk Query Command Error Unit := do
  whenPresent backups (.remove backups)
  shift (backups - 1)
  perform (.replace 0 1) .os

/-- `_rotate_if_needed`. -/
def Logger.rotateIfNeeded (logger : Logger) (incoming : ℕ) :
    Program Disk Query Command Error Unit := do
  if ← present 0 then
    let current ← ask (.getsize 0) (fun disk => size (disk.content 0)) .os
    if current + incoming ≤ logger.maxBytes then
      pure ()
    else if logger.backups = 0 then
      perform (.truncate 0) .os
    else
      rotate logger.backups

/-- `log`, with the record that it has made. -/
def Logger.log (logger : Logger) (record : Record) : Program Disk Query Command Error Unit := do
  logger.rotateIfNeeded record.length
  perform (.append record) .os

section Concatenations

variable {content content' : ℕ → List Record} {index last : ℕ}

theorem concatenated_congr (same : ∀ index ≤ last, content index = content' index) :
    concatenated content last = concatenated content' last := by
  induction last with
  | zero => exact same 0 le_rfl
  | succ last ih =>
      rw [concatenated, concatenated, same _ le_rfl,
        ih fun index below => same index (Nat.le_succ_of_le below)]

/-- Moving a file to the next number, where there is none, keeps the concatenation. -/
theorem concatenated_move (vacant : content (index + 1) = []) (within : index + 1 ≤ last) :
    concatenated (Function.update (Function.update content (index + 1) (content index)) index [])
      last = concatenated content last := by
  induction last, within using Nat.le_induction with
  | base =>
      cases index with
      | zero => simp [concatenated, vacant]
      | succ index =>
          have below : concatenated (Function.update (Function.update content (index + 1 + 1)
              (content (index + 1))) (index + 1) []) index = concatenated content index := by
            refine concatenated_congr fun other small => ?_
            rw [Function.update_of_ne (by omega), Function.update_of_ne (by omega)]
          simp [concatenated, vacant, below]
  | succ last within ih =>
      rw [concatenated, concatenated, ih, Function.update_of_ne (by omega),
        Function.update_of_ne (by omega)]

theorem concatenated_append (record : Record) :
    concatenated (Function.update content 0 (content 0 ++ [record])) last =
      concatenated content last ++ [record] := by
  induction last with
  | zero => simp [concatenated]
  | succ last ih =>
      rw [concatenated, concatenated, ih, Function.update_of_ne (by omega), List.append_assoc]

theorem concatenated_remove :
    concatenated (Function.update content last []) last <:+ concatenated content last := by
  cases last with
  | zero => simp [concatenated]
  | succ last =>
      have below : concatenated (Function.update content (last + 1) []) last =
          concatenated content last :=
        concatenated_congr fun other small => Function.update_of_ne (by omega) _ _
      rw [concatenated, concatenated, below, Function.update_self]
      exact List.suffix_append _ _

end Concatenations

section Commands

variable {logger : Logger} {disk : Disk}

theorem content_remove (index : ℕ) :
    (effect (.remove index) disk).content = Function.update disk.content index [] :=
  Function.comp_update (fun file : Option (List Record) => file.getD []) _ _ _

theorem content_truncate (index : ℕ) :
    (effect (.truncate index) disk).content = Function.update disk.content index [] :=
  Function.comp_update (fun file : Option (List Record) => file.getD []) _ _ _

theorem content_append (record : Record) :
    (effect (.append record) disk).content =
      Function.update disk.content 0 (disk.content 0 ++ [record]) :=
  Function.comp_update (fun file : Option (List Record) => file.getD []) _ _ _

theorem content_replace (source target : ℕ) :
    (effect (.replace source target) disk).content =
      Function.update (Function.update disk.content target (disk.content source)) source [] := by
  have targeted : (fun file : Option (List Record) => file.getD []) ∘
      Function.update disk.file target (disk.file source) =
      Function.update disk.content target (disk.content source) :=
    Function.comp_update _ _ _ _
  rw [← targeted]
  exact Function.comp_update (fun file : Option (List Record) => file.getD []) _ _ _

theorem file_replace_self (source target : ℕ) :
    (effect (.replace source target) disk).file source = none :=
  Function.update_self ..

/-- A file is short enough, or it is a single record that has been logged. -/
def Fits (logger : Logger) (appended content : List Record) : Prop :=
  size content ≤ logger.maxBytes ∨ ∃ record ∈ appended, content = [record]

/-- What holds of the disk between any two operations. -/
structure Rotated (logger : Logger) (disk : Disk) : Prop where
  kept : disk.kept logger.backups <:+ disk.appended
  fits : ∀ index content, disk.file index = some content → Fits logger disk.appended content
  numbered : ∀ index, logger.backups < index → disk.file index = none

/-- The states in which the logger issues its commands. -/
def Permitted (logger : Logger) : Command → Disk → Prop
  | .remove index, _ => index = logger.backups
  | .replace source target, disk =>
      target = source + 1 ∧ target ≤ logger.backups ∧ disk.file target = none
  | .truncate index, _ => index = 0 ∧ logger.backups = 0
  | .append record, disk =>
      disk.content 0 = [] ∨ size (disk.content 0) + record.length ≤ logger.maxBytes

theorem Rotated.empty : Rotated logger {} where
  kept := by
    have nothing : ∀ last, concatenated (Disk.content {}) last = [] := by
      intro last
      induction last with
      | zero => rfl
      | succ last ih => exact ih
    rw [Disk.kept, nothing]
  fits index content there := by simp at there
  numbered _ _ := rfl

/-- A file that is kept or deleted fits as before. -/
theorem Rotated.fits_update (rotated : Rotated logger disk) {changed : ℕ}
    {file : Option (List Record)}
    (fits : ∀ content, file = some content → Fits logger disk.appended content)
    {index : ℕ} {content : List Record}
    (there : Function.update disk.file changed file index = some content) :
    Fits logger disk.appended content := by
  by_cases same : index = changed
  · subst same
    rw [Function.update_self] at there
    exact fits content there
  · rw [Function.update_of_ne same] at there
    exact rotated.fits index content there

theorem Rotated.remove (rotated : Rotated logger disk) :
    Rotated logger (effect (.remove logger.backups) disk) where
  kept := by
    rw [Disk.kept, content_remove]
    exact concatenated_remove.trans rotated.kept
  fits _ _ there := rotated.fits_update (by simp) there
  numbered index above :=
    (Function.update_of_ne (Nat.ne_of_gt above) _ _).trans (rotated.numbered index above)

theorem Rotated.truncate (rotated : Rotated logger disk) (none : logger.backups = 0) :
    Rotated logger (effect (.truncate 0) disk) where
  kept := by
    rw [Disk.kept, content_truncate, none]
    simp [concatenated]
  fits _ _ there := by
    refine rotated.fits_update ?_ there
    rintro content ⟨rfl⟩
    exact .inl (Nat.zero_le _)
  numbered index above := by
    have positive : index ≠ 0 := by omega
    exact (Function.update_of_ne positive _ _).trans (rotated.numbered index above)

theorem Rotated.replace (rotated : Rotated logger disk) {source : ℕ}
    (within : source + 1 ≤ logger.backups) (vacant : disk.file (source + 1) = none) :
    Rotated logger (effect (.replace source (source + 1)) disk) where
  kept := by
    have empty : disk.content (source + 1) = [] := by
      rw [Disk.content, vacant, Option.getD_none]
    rw [Disk.kept, content_replace, concatenated_move empty within]
    exact rotated.kept
  fits index content there := by
    change Function.update (Function.update disk.file (source + 1) (disk.file source)) source
      none index = some content at there
    by_cases same : index = source
    · rw [same, Function.update_self] at there
      exact absurd there (by simp)
    · rw [Function.update_of_ne same] at there
      exact rotated.fits_update (rotated.fits source) there
  numbered index above := by
    have other : index ≠ source := by omega
    have next : index ≠ source + 1 := by omega
    exact (Function.update_of_ne other _ _).trans
      ((Function.update_of_ne next _ _).trans (rotated.numbered index above))

theorem Rotated.append (rotated : Rotated logger disk) {record : Record}
    (room : disk.content 0 = [] ∨ size (disk.content 0) + record.length ≤ logger.maxBytes) :
    Rotated logger (effect (.append record) disk) where
  kept := by
    obtain ⟨lost, same⟩ := rotated.kept
    rw [Disk.kept, content_append, concatenated_append]
    exact ⟨lost, by rw [← List.append_assoc, ← Disk.kept, same]; rfl⟩
  fits index content there := by
    have logged : record ∈ disk.appended ++ [record] :=
      List.mem_append_right _ (List.mem_singleton_self record)
    by_cases same : index = 0
    · subst same
      change Function.update disk.file 0 (some (disk.content 0 ++ [record])) 0 = some content
        at there
      rw [Function.update_self, Option.some.injEq] at there
      rw [← there]
      rcases room with empty | short
      · rw [empty]
        exact .inr ⟨record, logged, rfl⟩
      · exact .inl (by simpa [size] using short)
    · have before : disk.file index = some content := (Function.update_of_ne same _ _).symm.trans there
      rcases rotated.fits index content before with short | ⟨single, member, alone⟩
      · exact .inl short
      · exact .inr ⟨single, List.mem_append_left _ member, alone⟩
  numbered index above := by
    have positive : index ≠ 0 := by omega
    exact (Function.update_of_ne positive _ _).trans (rotated.numbered index above)

theorem Rotated.keeps (command : Command) (disk : Disk) (permitted : Permitted logger command disk)
    (rotated : Rotated logger disk) : Rotated logger (effect command disk) := by
  cases command with
  | remove index =>
      obtain rfl := permitted
      exact rotated.remove
  | replace source target =>
      obtain ⟨rfl, within, vacant⟩ := permitted
      exact rotated.replace within vacant
  | truncate index =>
      obtain ⟨rfl, none⟩ := permitted
      exact rotated.truncate none
  | append record => exact rotated.append permitted

end Commands

section Programs

/-- Every operation may fail, or the process dies before it. -/
def host : Host Disk Query Command :=
  .faultyCommands effect

variable {logger : Logger} {disk : Disk} {record : Record}

theorem present_ensures {index : ℕ} {post : Except Error Bool → Disk → Prop}
    (holds : post (.ok (disk.file index).isSome) disk) :
    (present index).Ensures host (Permitted logger) post disk :=
  ⟨fun _ => holds, fun answers => absurd answers (by simp [host])⟩

/-- After a command that takes a file away from its place, there is nothing in that place. -/
theorem whenPresent_ensures {index : ℕ} {command : Command}
    (permitted : Permitted logger command disk)
    (takes : (effect command disk).file index = none) :
    (whenPresent index command).Ensures host (Permitted logger)
      (fun outcome last => outcome = .ok () → last.file index = none) disk := by
  rw [whenPresent, ensures_bind]
  refine present_ensures ?_
  rw [followedBy_ok]
  split
  · rw [ensures_perform]
    exact ⟨permitted, fun _ _ => takes, fun _ failed => absurd failed (by simp)⟩
  · rename_i missing
    rw [ensures_pure]
    intro _
    simpa using missing

/-- The loop leaves a gap above the files that it has not moved yet. -/
theorem shift_ensures {index : ℕ} (within : index + 1 ≤ logger.backups)
    (vacant : disk.file (index + 1) = none) :
    (shift index).Ensures host (Permitted logger)
      (fun outcome last => outcome = .ok () → last.file 1 = none) disk := by
  induction index generalizing disk with
  | zero =>
      rw [shift, ensures_pure]
      exact fun _ => vacant
  | succ index ih =>
      rw [shift]
      have permitted : Permitted logger (.replace (index + 1) (index + 2)) disk :=
        ⟨rfl, within, vacant⟩
      refine (whenPresent_ensures permitted (file_replace_self _ _)).bind ?_ ?_
      · intro _ last moved
        exact ih (by omega) (moved rfl)
      · intro _ _ _ failed
        exact absurd failed (by simp)

theorem rotate_ensures (positive : logger.backups ≠ 0) :
    (rotate logger.backups).Ensures host (Permitted logger)
      (fun outcome last => outcome = .ok () → last.file 0 = none) disk := by
  have permitted : Permitted logger (.remove logger.backups) disk := rfl
  rw [rotate]
  refine (whenPresent_ensures permitted (Function.update_self ..)).bind ?_ ?_
  · intro _ removed deleted
    have last : logger.backups - 1 + 1 = logger.backups := by omega
    refine (shift_ensures (by omega) (by rw [last]; exact deleted rfl)).bind ?_ ?_
    · intro _ shifted gap
      rw [ensures_perform]
      exact ⟨⟨rfl, by omega, gap rfl⟩, fun _ _ => file_replace_self _ _, fun _ failed =>
        absurd failed (by simp)⟩
    · intro _ _ _ failed
      exact absurd failed (by simp)
  · intro _ _ _ failed
    exact absurd failed (by simp)

/-- There is room for the record after `_rotate_if_needed`. -/
theorem rotateIfNeeded_ensures :
    (logger.rotateIfNeeded record.length).Ensures host (Permitted logger)
      (fun outcome last => outcome = .ok () → Permitted logger (.append record) last) disk := by
  rw [Logger.rotateIfNeeded, ensures_bind]
  refine present_ensures ?_
  rw [followedBy_ok]
  split
  · rw [ensures_bind, ensures_ask]
    refine ⟨fun _ => ?_, fun answers => absurd answers (by simp [host])⟩
    rw [followedBy_ok]
    split_ifs with short unbacked
    · rw [ensures_pure]
      exact fun _ => .inr short
    · rw [ensures_perform]
      refine ⟨⟨rfl, unbacked⟩, fun _ _ => .inl ?_, fun _ failed => absurd failed (by simp)⟩
      exact (congrFun (content_truncate 0) 0).trans (Function.update_self ..)
    · refine (rotate_ensures unbacked).weaken_post fun outcome last moved returned => .inl ?_
      rw [Disk.content, moved returned, Option.getD_none]
  · rename_i missing
    rw [ensures_pure]
    intro _
    rw [Option.not_isSome_iff_eq_none] at missing
    exact .inl (by rw [Disk.content, missing, Option.getD_none])

theorem log_ensures : (logger.log record).Ensures host (Permitted logger) (fun _ _ => True) disk := by
  rw [Logger.log]
  refine rotateIfNeeded_ensures.bind ?_ ?_
  · intro _ last room
    rw [ensures_perform]
    exact ⟨room rfl, fun _ => trivial, fun _ => trivial⟩
  · exact fun _ _ _ => trivial

/-- The files of the log are what was logged last, in order, whatever runs of the logger were
stopped or failed, and each of them has the size that it may have. -/
theorem rotation_keeps_suffix (maxBytes backups : ℤ) {session : Session Disk Query Command Error Unit}
    (reaches : Session.Reaches host (Logger.ofSettings maxBytes backups).log Session.Always
      (fun _ _ => False) ⟨none, {}⟩ session) :
    session.state.kept (Logger.ofSettings maxBytes backups).backups <:+ session.state.appended ∧
      (∀ index, (Logger.ofSettings maxBytes backups).backups < index →
        session.state.file index = none) ∧
      ∀ index content, session.state.file index = some content →
        size content ≤ (Logger.ofSettings maxBytes backups).maxBytes ∨
          ∃ record ∈ session.state.appended, content = [record] := by
  have safe := (Session.Safe.idle Rotated.empty).reaches (fun _ _ _ _ => log_ensures)
    Rotated.keeps (fun _ _ impossible => impossible.elim) reaches
  exact ⟨safe.state.kept, safe.state.numbered, safe.state.fits⟩

/-- The disk after calls that are each stopped after some operations. -/
def Logger.stopped (logger : Logger) (calls : List (Record × ℕ)) : Disk :=
  calls.foldl (fun disk call => (logger.log call.1).stopAfter effect call.2 disk) {}

theorem reaches_stopped (calls : List (Record × ℕ)) :
    ∃ running, Session.Reaches host logger.log Session.Always (fun _ _ => False) ⟨none, {}⟩
      ⟨running, logger.stopped calls⟩ := by
  induction calls using List.reverseRecOn with
  | nil => exact ⟨none, .refl⟩
  | append_singleton calls call ih =>
      obtain ⟨running, before⟩ := ih
      have idle : Session.Reaches host logger.log Session.Always (fun _ _ => False) ⟨none, {}⟩
          ⟨none, logger.stopped calls⟩ := by
        cases running with
        | none => exact before
        | some left => exact before.tail (.stop left _)
      obtain ⟨left, run⟩ := stops_stopAfter host (fun _ => rfl) (fun _ => trivial)
        (logger.log call.1) call.2 (logger.stopped calls)
      have same : logger.stopped (calls ++ [call]) =
          (logger.log call.1).stopAfter effect call.2 (logger.stopped calls) :=
        List.foldl_concat ..
      rw [same]
      exact ⟨some left, (idle.tail (.start call.1 _ Session.always)).trans (Session.reaches_of_run run)⟩

/-- Four records, of which the third is lost in a crash between two renames. -/
def crashing : List (Record × ℕ) :=
  [(List.replicate 200 1, 9), (List.replicate 200 2, 9), (List.replicate 200 3, 1),
    (List.replicate 200 4, 9)]

theorem crashing_disk :
    ((Logger.ofSettings 0 2).stopped crashing).appended.map List.head? = [some 1, some 2, some 4] ∧
    (((Logger.ofSettings 0 2).stopped crashing).kept 2).map List.head? = [some 2, some 4] := by
  decide +kernel

theorem rotation_keeps_suffix_sample :
    ((Logger.ofSettings 0 2).stopped crashing).kept 2 <:+
        ((Logger.ofSettings 0 2).stopped crashing).appended ∧
      ((Logger.ofSettings 0 2).stopped crashing).appended.map List.head? =
        [some 1, some 2, some 4] ∧
      (((Logger.ofSettings 0 2).stopped crashing).kept 2).map List.head? = [some 2, some 4] := by
  obtain ⟨running, reaches⟩ := @reaches_stopped (Logger.ofSettings 0 2) crashing
  have suffix := (rotation_keeps_suffix 0 2 reaches).1
  have two : (Logger.ofSettings 0 2).backups = 2 := rfl
  rw [two] at suffix
  dsimp only at suffix
  exact ⟨suffix, crashing_disk⟩

end Programs

end ProxyLauncher.Logging
