import ProxyLauncher.Linux.State
import ProxyLauncher.Python.Lowering
import ProxyLauncher.Python.Splitting

/-!
# The rows of the active connections

The backend reads the escaped output of `nmcli`, and the preflight reads the one without escapes.
The fields of a row are lists of characters until they are stripped.
-/

namespace ProxyLauncher.Linux.ActiveRows

open Python Texts

/-- A field of a terse row with its escapes. -/
def escapeField (field : List Char) : List Char :=
  field.flatMap fun char => if char = ':' ∨ char = '\\' then ['\\', char] else [char]

def terseRow (fields : List (List Char)) : List Char :=
  [':'].intercalate (fields.map escapeField)

def fieldsOf (row : ActiveConnection) : List (List Char) :=
  [row.uuid.toList, row.connectionType.toList, row.device.toList]

/-- `--terse --escape yes --fields UUID,TYPE,DEVICE`. -/
def escapedOutput (rows : List ActiveConnection) : List Char :=
  rows.flatMap fun row => terseRow (fieldsOf row) ++ ['\n']

/-- A row of `--terse --escape no --fields UUID,TYPE,DEVICE`. -/
def plainRow (row : ActiveConnection) : List Char :=
  row.uuid.toList ++ ':' :: (row.connectionType.toList ++ ':' :: row.device.toList)

def plainOutput (rows : List ActiveConnection) : List Char :=
  rows.flatMap fun row => plainRow row ++ ['\n']

/-- The variables of `_split_nmcli_terse`. -/
structure TerseState where
  fields : List (List Char) := []
  current : List Char := []
  escaped : Bool := false

def TerseState.next (state : TerseState) (char : Char) : TerseState :=
  if state.escaped then { state with current := state.current ++ [char], escaped := false }
  else if char = '\\' then { state with escaped := true }
  else if char = ':' then { state with fields := state.fields ++ [state.current], current := [] }
  else { state with current := state.current ++ [char] }

/-- `_split_nmcli_terse`. -/
def splitNmcliTerse (line : List Char) : List (List Char) :=
  let state := line.foldl TerseState.next {}
  state.fields ++ [if state.escaped then state.current ++ ['\\'] else state.current]

def stripped (field : List Char) : String :=
  .ofList (trim isSpace field)

def ignoredActiveTypes : List String := ["vpn", "loopback"]

variable (lower : String → String)

/-- The loop of `list_active_connections`, which fails on a row without three fields. -/
def listFrom (seen : List String) : List (List Char) → Option (List ActiveConnection)
  | [] => some []
  | line :: lines =>
      if trim isSpace line = [] then listFrom seen lines
      else
        match (splitNmcliTerse line).map stripped with
        | [uuid, connectionType, device] =>
            if uuid = "" ∨ uuid ∈ seen then listFrom seen lines
            else
              (listFrom (uuid :: seen) lines).map
                (⟨uuid, lower connectionType, device⟩ :: ·)
        | _ => none

/-- `list_active_connections` on the output of a command that succeeds. -/
def listActiveConnections (output : List Char) : Option (List ActiveConnection) :=
  listFrom lower [] (splitlines (output.rdropWhile fun char => char = '\n'))

/-- The loop of `_target_connections`. -/
def targetsFrom (seen : List String) : List ActiveConnection → List ActiveConnection
  | [] => []
  | connection :: connections =>
      let uuid := strip connection.uuid
      let connectionType := lower (strip connection.connectionType)
      let device := strip connection.device
      if uuid = "" ∨ uuid ∈ seen ∨ device = "" ∨ device = "--" ∨
          connectionType ∈ ignoredActiveTypes then
        targetsFrom seen connections
      else ⟨uuid, connectionType, device⟩ :: targetsFrom (uuid :: seen) connections

/-- `_target_connections`. -/
def targetConnections (connections : List ActiveConnection) : List ActiveConnection :=
  targetsFrom lower [] connections

/-- The loop of `_parse_active_connections`. -/
def parseFrom (seen : List String) : List (List Char) → List ActiveConnection
  | [] => []
  | rawLine :: lines =>
      let line := trim isSpace rawLine
      if line = [] then parseFrom seen lines
      else
        match (split ':' 2 line).map stripped with
        | [uuid, connectionType, device] =>
            if uuid = "" ∨ uuid ∈ seen then parseFrom seen lines
            else ⟨uuid, lower connectionType, device⟩ :: parseFrom (uuid :: seen) lines
        | _ => parseFrom seen lines

/-- `_parse_active_connections`. -/
def parseActiveConnections (text : List Char) : List ActiveConnection :=
  parseFrom lower [] (splitlines text)

/-- `supported_rows`, on the standard output of the command. -/
def supportedRows (output : List Char) : List ActiveConnection :=
  (parseActiveConnections lower (trim isSpace output)).filter fun row =>
    decide (row.connectionType ∉ ignoredActiveTypes ∧ row.device ≠ "" ∧ row.device ≠ "--")

/-- A connection as NetworkManager has it. -/
structure Plain (row : ActiveConnection) : Prop where
  uuid : ∀ char ∈ row.uuid.toList, char ≠ ':' ∧ char ≠ '\\' ∧ isSpace char = false
  connectionType : ∀ char ∈ row.connectionType.toList,
    char ≠ ':' ∧ char ≠ '\\' ∧ isSpace char = false
  device : ∀ char ∈ row.device.toList, isLineBreak char = false

/-- The rows with the uuids that are new, as both readers keep them. -/
def distinctRows (seen : List String) : List ActiveConnection → List ActiveConnection
  | [] => []
  | row :: rows =>
      if row.uuid = "" ∨ row.uuid ∈ seen then distinctRows seen rows
      else
        ⟨row.uuid, lower row.connectionType, strip row.device⟩ ::
          distinctRows (row.uuid :: seen) rows

variable {lower} {row : ActiveConnection} {rows connections : List ActiveConnection}
  {seen : List String} {field chars line : List Char} {lines : List (List Char)}

theorem foldl_escapeField (fields : List (List Char)) (current : List Char) :
    (escapeField field).foldl TerseState.next ⟨fields, current, false⟩ =
      ⟨fields, current ++ field, false⟩ := by
  induction field generalizing current with
  | nil => rw [List.append_nil]; rfl
  | cons char field ih =>
      rw [escapeField, List.flatMap_cons, List.foldl_append, ← escapeField]
      by_cases special : char = ':' ∨ char = '\\'
      · rw [if_pos special]
        have escaped : ['\\', char].foldl TerseState.next ⟨fields, current, false⟩ =
            ⟨fields, current ++ [char], false⟩ := rfl
        rw [escaped, ih, List.append_assoc, List.singleton_append]
      · rw [not_or] at special
        have plain : [char].foldl TerseState.next ⟨fields, current, false⟩ =
            ⟨fields, current ++ [char], false⟩ := by
          simp [TerseState.next, special.1, special.2]
        rw [if_neg (not_or.mpr special), plain, ih, List.append_assoc, List.singleton_append]

theorem foldl_terseRow (before : List (List Char)) (fields : List (List Char)) :
    (terseRow (field :: fields)).foldl TerseState.next ⟨before, [], false⟩ =
      ⟨before ++ (field :: fields).dropLast, (field :: fields).getLast (List.cons_ne_nil _ _),
        false⟩ := by
  induction fields generalizing before field with
  | nil => 
      simp [terseRow, List.intercalate, foldl_escapeField]
  | cons next fields ih =>
      have split : terseRow (field :: next :: fields) =
          escapeField field ++ ':' :: terseRow (next :: fields) := by
        simp [terseRow, List.intercalate]
      have cut : TerseState.next ⟨before, field, false⟩ ':' = ⟨before ++ [field], [], false⟩ := rfl
      rw [split, List.foldl_append, foldl_escapeField, List.nil_append, List.foldl_cons, cut, ih]
      simp

/-- Splitting undoes the escapes of a row. -/
theorem splitNmcliTerse_terseRow {fields : List (List Char)} (nonempty : fields ≠ []) :
    splitNmcliTerse (terseRow fields) = fields := by
  cases fields with
  | nil => exact absurd rfl nonempty
  | cons field fields =>
      rw [splitNmcliTerse, foldl_terseRow]
      simp [List.dropLast_append_getLast]

theorem stripped_toList (text : String) : stripped text.toList = strip text := rfl

theorem stripped_eq (solid : ∀ char ∈ field, isSpace char = false) :
    stripped field = .ofList field := by
  rw [stripped, trim_of_forall_not solid]

theorem Plain.stripped_uuid (plain : Plain row) : stripped row.uuid.toList = row.uuid := by
  rw [stripped_eq fun char member => (plain.uuid char member).2.2, String.ofList_toList]

theorem Plain.stripped_connectionType (plain : Plain row) :
    stripped row.connectionType.toList = row.connectionType := by
  rw [stripped_eq fun char member => (plain.connectionType char member).2.2,
    String.ofList_toList]

theorem Plain.fields (plain : Plain row) :
    (fieldsOf row).map stripped = [row.uuid, row.connectionType, strip row.device] := by
  simp only [fieldsOf, List.map_cons, List.map_nil, plain.stripped_uuid,
    plain.stripped_connectionType, stripped_toList]

/-- A row is cut at its first two colons. -/
theorem Plain.split_plainRow (plain : Plain row) (device : List Char) :
    split ':' 2 (row.uuid.toList ++ ':' :: (row.connectionType.toList ++ ':' :: device)) =
      [row.uuid.toList, row.connectionType.toList, device] := by
  rw [split_append, split_append, split]
  · intro member
    exact (plain.connectionType _ member).1 rfl
  · intro member
    exact (plain.uuid _ member).1 rfl

theorem colon_mem_plainRow (row : ActiveConnection) : ':' ∈ plainRow row :=
  List.mem_append_right _ List.mem_cons_self

theorem trim_ne_nil (member : ':' ∈ chars) : trim isSpace chars ≠ [] := by
  intro empty
  have space := trim_eq_nil.mp empty ':' member
  exact absurd space (by decide)

/-- A row begins with a character that is not white space. -/
theorem Plain.dropWhile_plainRow (plain : Plain row) (rest : List Char) :
    (plainRow row ++ rest).dropWhile isSpace = plainRow row ++ rest := by
  unfold plainRow
  cases shape : row.uuid.toList with
  | nil => rfl
  | cons char chars =>
      have solid := (plain.uuid char (shape ▸ List.mem_cons_self)).2.2
      rw [List.cons_append, List.cons_append, List.dropWhile_cons_of_neg (by simp [solid])]

theorem Plain.trim_plainRow (plain : Plain row) :
    trim isSpace (plainRow row) = row.uuid.toList ++ ':' ::
      (row.connectionType.toList ++ ':' :: row.device.toList.rdropWhile isSpace) := by
  have front := plain.dropWhile_plainRow []
  have colon : isSpace ':' = false := by decide
  rw [List.append_nil] at front
  rw [trim, front, plainRow, rdropWhile_append_of_solid ⟨':', List.mem_cons_self, colon⟩,
    rdropWhile_cons_of_solid colon, rdropWhile_append_of_solid ⟨':', List.mem_cons_self, colon⟩,
    rdropWhile_cons_of_solid colon]

theorem Plain.fields_trim (plain : Plain row) :
    (split ':' 2 (trim isSpace (plainRow row))).map stripped =
      [row.uuid, row.connectionType, strip row.device] := by
  have device : stripped (row.device.toList.rdropWhile isSpace) = strip row.device := by
    rw [← stripped_toList, stripped, stripped, trim_rdropWhile]
  rw [plain.trim_plainRow, plain.split_plainRow]
  simp only [List.map_cons, List.map_nil, plain.stripped_uuid, plain.stripped_connectionType,
    device]

theorem not_isLineBreak {char : Char} (solid : isSpace char = false) :
    isLineBreak char = false := by
  by_contra breaks
  rw [isSpace_of_isLineBreak (Bool.eq_true_of_not_eq_false breaks)] at solid
  cases solid

theorem Plain.unbroken_plainRow (plain : Plain row) :
    ∀ char ∈ plainRow row, isLineBreak char = false := by
  intro char member
  simp only [plainRow, List.mem_append, List.mem_cons] at member
  rcases member with uuid | rfl | connectionType | rfl | device
  · exact not_isLineBreak (plain.uuid char uuid).2.2
  · decide
  · exact not_isLineBreak (plain.connectionType char connectionType).2.2
  · decide
  · exact plain.device char device

theorem unbroken_escapeField (unbroken : ∀ char ∈ field, isLineBreak char = false) :
    ∀ char ∈ escapeField field, isLineBreak char = false := by
  intro char member
  obtain ⟨original, inside, shown⟩ := List.mem_flatMap.mp member
  split at shown
  · rw [List.mem_cons, List.mem_singleton] at shown
    cases shown with
    | inl escape => rw [escape]; decide
    | inr same => rw [same]; exact unbroken original inside
  · rw [List.mem_singleton.mp shown]
    exact unbroken original inside

theorem Plain.unbroken_terseRow (plain : Plain row) :
    ∀ char ∈ terseRow (fieldsOf row), isLineBreak char = false := by
  intro char member
  simp only [terseRow, fieldsOf, List.intercalate, List.map_cons, List.map_nil,
    List.intersperse_cons_cons, List.intersperse_singleton, List.flatten_cons, List.flatten_nil,
    List.append_nil, List.mem_append, List.mem_singleton] at member
  rcases member with uuid | rfl | connectionType | rfl | device
  · apply unbroken_escapeField _ char uuid
    exact fun char member => not_isLineBreak (plain.uuid char member).2.2
  · decide
  · apply unbroken_escapeField _ char connectionType
    exact fun char member => not_isLineBreak (plain.connectionType char member).2.2
  · decide
  · exact unbroken_escapeField plain.device char device

theorem colon_mem_terseRow (row : ActiveConnection) : ':' ∈ terseRow (fieldsOf row) := by
  simp [terseRow, fieldsOf, List.intercalate]

theorem flatMap_lines {line : ActiveConnection → List Char} (rows : List ActiveConnection) :
    rows.flatMap (fun row => line row ++ ['\n']) = (rows.map line).flatMap (· ++ ['\n']) := by
  rw [List.flatMap_map]

/-- The lines that the backend reads. -/
theorem splitlines_escapedOutput (plain : ∀ row ∈ rows, Plain row) :
    splitlines ((escapedOutput rows).rdropWhile fun char => char = '\n') =
      rows.map fun row => terseRow (fieldsOf row) := by
  rcases List.eq_nil_or_concat rows with rfl | ⟨front, last, rfl⟩
  · rfl
  · rw [List.concat_eq_append] at plain ⊢
    have lastPlain := plain last (List.mem_append_right _ List.mem_cons_self)
    have unbroken : ∀ line ∈ front.map fun row => terseRow (fieldsOf row), ∀ char ∈ line,
        isLineBreak char = false := by
      intro line member
      obtain ⟨row, inside, rfl⟩ := List.mem_map.mp member
      exact (plain row (List.mem_append_left _ inside)).unbroken_terseRow
    have solid : ∀ char ∈ terseRow (fieldsOf last), decide (char = '\n') = false := by
      intro char member
      apply decide_eq_false
      intro newline
      have none := lastPlain.unbroken_terseRow char member
      rw [newline] at none
      cases none
    rw [escapedOutput, List.flatMap_append, flatMap_lines, List.flatMap_singleton,
      ← List.append_assoc, rdropWhile_append_of_pos (by simp),
      rdropWhile_append_of_solid ⟨':', colon_mem_terseRow last, by decide⟩]
    rw [List.rdropWhile_eq_self_iff.mpr, splitlines_lines unbroken lastPlain.unbroken_terseRow,
      List.map_append, List.map_singleton]
    · exact List.ne_nil_of_mem (colon_mem_terseRow last)
    · intro nonempty
      simp [solid _ (List.getLast_mem nonempty)]

/-- The lines that the preflight reads, without their white space. -/
theorem splitlines_plainOutput (plain : ∀ row ∈ rows, Plain row) :
    (splitlines (trim isSpace (plainOutput rows))).map (trim isSpace) =
      rows.map fun row => trim isSpace (plainRow row) := by
  rcases List.eq_nil_or_concat rows with rfl | ⟨front, last, rfl⟩
  · rfl
  · rw [List.concat_eq_append] at plain ⊢
    have lastPlain := plain last (List.mem_append_right _ List.mem_cons_self)
    have unbroken : ∀ line ∈ front.map plainRow, ∀ char ∈ line, isLineBreak char = false := by
      intro line member
      obtain ⟨row, inside, rfl⟩ := List.mem_map.mp member
      exact (plain row (List.mem_append_left _ inside)).unbroken_plainRow
    have begins : (plainOutput (front ++ [last])).dropWhile isSpace =
        plainOutput (front ++ [last]) := by
      unfold plainOutput
      cases front with
      | nil =>
          rw [List.nil_append, List.flatMap_singleton]
          exact lastPlain.dropWhile_plainRow _
      | cons first front =>
          have firstPlain := plain first List.mem_cons_self
          rw [List.cons_append, List.flatMap_cons, List.append_assoc]
          exact firstPlain.dropWhile_plainRow _
    have ended : ∃ char ∈ plainRow last, isSpace char = false :=
      ⟨':', colon_mem_plainRow last, by decide⟩
    have remaining : ∀ char ∈ (plainRow last).rdropWhile isSpace, isLineBreak char = false := by
      intro char member
      exact lastPlain.unbroken_plainRow char ((List.rdropWhile_prefix _ _).subset member)
    have stays : (plainRow last).rdropWhile isSpace ≠ [] := by
      have whole := lastPlain.dropWhile_plainRow []
      rw [List.append_nil] at whole
      have trimmed := trim_ne_nil (colon_mem_plainRow last)
      rwa [trim, whole] at trimmed
    rw [trim, begins, plainOutput, List.flatMap_append, flatMap_lines, List.flatMap_singleton,
      ← List.append_assoc, rdropWhile_append_of_pos (by simp [isSpace]), rdropWhile_append_of_solid ended,
      splitlines_lines unbroken remaining stays, List.map_append, List.map_append, List.map_map]
    congr 1
    rw [List.map_singleton, List.map_singleton, trim_rdropWhile]

/-- A row that is read keeps its uuid when it is new. -/
theorem listFrom_cons (plain : Plain row) (others : listFrom lower (row.uuid :: seen) lines =
      some connections) (same : listFrom lower seen lines = some rows) :
    listFrom lower seen (terseRow (fieldsOf row) :: lines) =
      some (if row.uuid = "" ∨ row.uuid ∈ seen then rows
        else ⟨row.uuid, lower row.connectionType, strip row.device⟩ :: connections) := by
  rw [listFrom, if_neg (trim_ne_nil (colon_mem_terseRow row)),
    splitNmcliTerse_terseRow (show fieldsOf row ≠ [] from List.cons_ne_nil _ _), plain.fields]
  dsimp only
  split
  · exact same
  · rw [others]
    rfl

theorem listFrom_rows (plain : ∀ row ∈ rows, Plain row) :
    listFrom lower seen (rows.map fun row => terseRow (fieldsOf row)) =
      some (distinctRows lower seen rows) := by
  induction rows generalizing seen with
  | nil => rfl
  | cons row rows ih =>
      obtain ⟨first, others⟩ := List.forall_mem_cons.mp plain
      rw [List.map_cons, listFrom_cons first (ih others) (ih others), distinctRows]

theorem parseFrom_trim (lines : List (List Char)) :
    parseFrom lower seen (lines.map (trim isSpace)) = parseFrom lower seen lines := by
  induction lines generalizing seen with
  | nil => rfl
  | cons line lines ih =>
      rw [List.map_cons, parseFrom, parseFrom, trim_trim]
      simp only [ih]

theorem parseFrom_rows (plain : ∀ row ∈ rows, Plain row) :
    parseFrom lower seen (rows.map fun row => trim isSpace (plainRow row)) =
      distinctRows lower seen rows := by
  induction rows generalizing seen with
  | nil => rfl
  | cons row rows ih =>
      obtain ⟨first, others⟩ := List.forall_mem_cons.mp plain
      rw [List.map_cons, parseFrom, trim_trim, if_neg (trim_ne_nil (colon_mem_plainRow row)),
        first.fields_trim, distinctRows]
      simp only [ih others]

/-- The targets among distinct rows are the supported rows. -/
theorem targetsFrom_distinctRows (lowering : Lowering lower) (plain : ∀ row ∈ rows, Plain row)
    {known : List String} (older : ∀ uuid ∈ known, uuid ∈ seen) :
    targetsFrom lower known (distinctRows lower seen rows) =
      (distinctRows lower seen rows).filter fun row =>
        decide (row.connectionType ∉ ignoredActiveTypes ∧ row.device ≠ "" ∧
          row.device ≠ "--") := by
  induction rows generalizing seen known with
  | nil => rfl
  | cons row rows ih =>
      obtain ⟨first, others⟩ := List.forall_mem_cons.mp plain
      rw [distinctRows]
      split
      · exact ih others older
      · rename_i new
        rw [not_or] at new
        have uuid : strip row.uuid = row.uuid :=
          strip_of_not_isSpace fun char member => (first.uuid char member).2.2
        have connectionType : lower (strip (lower row.connectionType)) =
            lower row.connectionType := by
          rw [lowering.strip_lower, strip_of_not_isSpace fun char member =>
            (first.connectionType char member).2.2, lowering.lower_lower]
        have unknown : row.uuid ∉ known := fun member => new.2 (older _ member)
        rw [targetsFrom]
        simp only [uuid, connectionType, strip_strip, new.1, unknown, false_or]
        rw [List.filter_cons]
        by_cases supported : lower row.connectionType ∉ ignoredActiveTypes ∧
            strip row.device ≠ "" ∧ strip row.device ≠ "--"
        · have refused : ¬ (strip row.device = "" ∨ strip row.device = "--" ∨
              lower row.connectionType ∈ ignoredActiveTypes) := fun refused =>
            refused.elim supported.2.1 fun other => other.elim supported.2.2 supported.1
          rw [if_neg refused, if_pos (decide_eq_true supported), ih others]
          intro uuid member
          cases member with
          | head => exact List.mem_cons_self
          | tail _ old => exact List.mem_cons_of_mem _ (older uuid old)
        · have refused : strip row.device = "" ∨ strip row.device = "--" ∨
              lower row.connectionType ∈ ignoredActiveTypes := by
            by_contra accepted
            rw [not_or, not_or] at accepted
            exact supported ⟨accepted.2.2, accepted.1, accepted.2.1⟩
          rw [if_pos refused, if_neg (by simpa using supported), ih others]
          intro uuid old
          exact List.mem_cons_of_mem _ (older uuid old)

/-- Escapes are undone for the rows with a field, and both readers of the active connections agree
on those that the launcher changes. -/
theorem active_rows_agree (lowering : Lowering lower) :
    (∀ fields : List (List Char), fields ≠ [] → splitNmcliTerse (terseRow fields) = fields) ∧
    ∀ rows : List ActiveConnection, (∀ row ∈ rows, Plain row) →
      (listActiveConnections lower (escapedOutput rows)).map (targetConnections lower) =
        some (supportedRows lower (plainOutput rows)) := by
  constructor
  · intro fields nonempty
    exact splitNmcliTerse_terseRow nonempty
  · intro rows plain
    have none : ∀ uuid ∈ ([] : List String), uuid ∈ ([] : List String) := fun _ member => member
    rw [listActiveConnections, splitlines_escapedOutput plain, listFrom_rows plain,
      Option.map_some, targetConnections, targetsFrom_distinctRows lowering plain none,
      supportedRows, parseActiveConnections, ← parseFrom_trim, splitlines_plainOutput plain,
      parseFrom_rows plain]

/-- A row without a field cannot be told from a row with an empty field. -/
theorem terse_row_without_fields :
    ¬ ∀ fields : List (List Char), splitNmcliTerse (terseRow fields) = fields := by
  intro claimed
  have none := claimed []
  cases none

/-- A VPN, and a connection whose device has a colon. -/
def sampleRows : List ActiveConnection :=
  [⟨"1", "vpn", "t"⟩, ⟨"2", "Lan", "a:b "⟩]

theorem active_rows_agree_sample :
    (listActiveConnections asciiLower (escapedOutput sampleRows)).map
        (targetConnections asciiLower) =
      some (supportedRows asciiLower (plainOutput sampleRows)) ∧
    (listActiveConnections asciiLower (escapedOutput sampleRows)).map
        (targetConnections asciiLower) = some [⟨"2", "lan", "a:b"⟩] := by
  have plain : ∀ row ∈ sampleRows, Plain row := by
    simp only [sampleRows, List.forall_mem_cons]
    refine ⟨?_, ?_, by simp⟩
    all_goals
      constructor
      all_goals simp [isSpace, isLineBreak]
  exact ⟨(active_rows_agree lowering_asciiLower).2 sampleRows plain, rfl⟩

end ProxyLauncher.Linux.ActiveRows
