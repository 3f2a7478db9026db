import ProxyLauncher.Python.Bytes
import ProxyLauncher.Python.JsonIndent
import ProxyLauncher.Python.Splitting
import ProxyLauncher.Routing.Identities

/-!
# The exclusions of applications

The identities are stored in the order of their stable ids, each id once.  The file is refused when
it is not what could have been stored.
-/

namespace ProxyLauncher.Routing

open Python

namespace ApplicationExclusions

def schemaVersion : ℤ := 1
def maxAppExclusions : ℕ := 128

variable {casing : Casing} (reading : Reading)

/-- `dictionary.setdefault(key, value)`. -/
def setDefault {α : Type} (entries : List (String × α)) (key : String) (value : α) :
    List (String × α) :=
  if key ∈ entries.map Prod.fst then entries else entries ++ [(key, value)]

/-- The dictionary of the first identities by their stable ids. -/
def unique (identities : List (ApplicationIdentity casing)) :
    List (String × ApplicationIdentity casing) :=
  identities.foldl (fun entries identity => setDefault entries identity.stableId identity) []

/-- `_dedupe_identities`. -/
def dedupeIdentities (identities : List (ApplicationIdentity casing)) :
    Except Raised (List (ApplicationIdentity casing)) :=
  let result := (sortKeys (unique identities)).map Prod.snd
  if result.length > maxAppExclusions then
    .error (.applicationExclusionError "too many application exclusions: maximum is 128")
  else .ok result

/-- The payload of some identities. -/
def payload (identities : List (ApplicationIdentity casing)) : Json :=
  .object [("schema_version", .int schemaVersion),
    ("applications", .array (identities.map identityDict))]

def encoded (identities : List (ApplicationIdentity casing)) : Bytes :=
  encodeUtf8 (.ofList (dumpsIndented 0 (payload identities) ++ ['\n']))

/-- `save_application_exclusions`, with the contents of the file.  A write that fails leaves the
file alone. -/
def saveApplicationExclusions (file : Option Bytes) (written : Bool)
    (identities : List (ApplicationIdentity casing)) : Except Raised (Bool × Option Bytes) := do
  let canonical ← dedupeIdentities identities
  return if written then (true, some (encoded canonical)) else (false, file)

/-- `tuple(ApplicationIdentity(**item) for item in raw_apps)`. -/
def fromItems : List Json → Except Raised (List (ApplicationIdentity casing))
  | [] => .ok []
  | item :: items => do return (← fromItem casing reading item) :: (← fromItems items)

/-- `payload.get("schema_version") == SCHEMA_VERSION`. -/
def isSupported : Option Json → Bool
  | some (.int value) => value = schemaVersion
  | some (.bool value) => value
  | some (.float text) => reading.floatIsOne text
  | _ => false

/-- The value of a file, if it is a JSON document. -/
def fileValue (file : Bytes) : Option Json :=
  (decodeUtf8 file).bind fun text => loads (.ofList (universalNewlines text.toList))

/-- The identities of a list of applications. -/
def loadItems (items : List Json) : Except Raised (List (ApplicationIdentity casing)) :=
  match fromItems reading items with
  | .error _ => .error (.applicationExclusionError "invalid application exclusion identity")
  | .ok identities => do
      let canonical ← dedupeIdentities identities
      if canonical.length ≠ identities.length then
        throw (.applicationExclusionError "application exclusion state contains duplicates")
      return canonical

/-- `load_application_exclusions`. -/
def loadApplicationExclusions : Option Bytes → Except Raised (List (ApplicationIdentity casing))
  | none => .ok []
  | some file =>
      match fileValue file with
      | none => .error (.applicationExclusionError "application exclusion state is unreadable")
      | some (.object entries) =>
          if isSupported reading (entries.lookup "schema_version") then
            match (entries.lookup "applications").getD (.array []) with
            | .array items => loadItems reading items
            | _ => .error (.applicationExclusionError "application exclusions must be a list")
          else .error (.applicationExclusionError "unsupported application exclusion state")
      | some _ => .error (.applicationExclusionError "unsupported application exclusion state")

variable {reading} {identities others : List (ApplicationIdentity casing)}
  {identity : ApplicationIdentity casing} {key : String}

/-- The identities that are stored, in their order. -/
def canonical (identities : List (ApplicationIdentity casing)) :
    List (ApplicationIdentity casing) :=
  (sortKeys (unique identities)).map Prod.snd

theorem unique_append (identities : List (ApplicationIdentity casing))
    (identity : ApplicationIdentity casing) :
    unique (identities ++ [identity]) = setDefault (unique identities) identity.stableId identity := by
  rw [unique, List.foldl_append]
  rfl

/-- The keys are the stable ids of the values, each once. -/
theorem unique_keys (identities : List (ApplicationIdentity casing)) :
    ((unique identities).map Prod.fst).Nodup ∧
      ∀ entry ∈ unique identities, entry.1 = entry.2.stableId := by
  induction identities using List.reverseRecOn with
  | nil => exact ⟨List.nodup_nil, fun entry member => absurd member List.not_mem_nil⟩
  | append_singleton identities identity ih =>
      rw [unique_append, setDefault]
      split
      · exact ih
      · rename_i absent
        constructor
        · rw [List.map_append, List.nodup_append]
          refine ⟨ih.1, List.nodup_singleton _, ?_⟩
          intro first old second new same
          rw [same, List.mem_singleton.mp new] at old
          exact absent old
        · intro entry member
          cases List.mem_append.mp member with
          | inl old => exact ih.2 entry old
          | inr new => rw [List.mem_singleton.mp new]

/-- The value of a stable id is the first identity that has it. -/
theorem mem_unique (identities : List (ApplicationIdentity casing)) :
    (key, identity) ∈ unique identities ↔
      identities.find? (fun other => other.stableId = key) = some identity := by
  induction identities using List.reverseRecOn generalizing identity key with
  | nil => simp [unique]
  | append_singleton identities last ih =>
      have known : key ∈ (unique identities).map Prod.fst ↔
          ∃ found, identities.find? (fun other => other.stableId = key) = some found := by
        rw [List.mem_map]
        constructor
        · intro entry
          obtain ⟨⟨_, found⟩, member, rfl⟩ := entry
          exact ⟨found, ih.mp member⟩
        · intro entry
          obtain ⟨found, first⟩ := entry
          exact ⟨(key, found), ih.mpr first, rfl⟩
      have old : (key, identity) ∈ unique identities ↔
          identities.find? (fun other => other.stableId = key) = some identity := ih
      rw [unique_append, setDefault, List.find?_append, List.find?_singleton]
      cases first : identities.find? (fun other => other.stableId = key) with
      | some found =>
          rw [first] at old
          rw [Option.some_or]
          split
          · exact old
          · rename_i absent
            rw [List.mem_append, List.mem_singleton, Prod.mk.injEq, ← old]
            apply or_iff_left
            intro new
            apply absent
            rw [← new.1]
            exact known.mpr ⟨found, first⟩
      | none =>
          rw [first] at old
          have absent : key ∉ (unique identities).map Prod.fst := by
            intro member
            obtain ⟨found, there⟩ := known.mp member
            rw [first] at there
            cases there
          rw [Option.none_or]
          by_cases same : last.stableId = key
          · rw [same, if_neg absent, if_pos (decide_eq_true rfl), List.mem_append,
              List.mem_singleton, Prod.mk.injEq, old]
            simp [eq_comm]
          · have other : (key, identity) ≠ (last.stableId, last) := by
              intro equal
              exact same (Prod.mk.inj equal).1.symm
            have unmatched : (if decide (last.stableId = key) = true then some last else none) =
                none := if_neg (by simpa using same)
            rw [unmatched]
            split
            · exact old
            · rw [List.mem_append, List.mem_singleton, or_iff_left other]
              exact old

theorem find_stableId {identity : ApplicationIdentity casing}
    (found : identities.find? (fun other => other.stableId = key) = some identity) :
    identity.stableId = key := by
  simpa using List.find?_some found

theorem mem_canonical : identity ∈ canonical identities ↔
    identities.find? (fun other => other.stableId = identity.stableId) = some identity := by
  rw [canonical, List.mem_map]
  constructor
  · intro entry
    obtain ⟨⟨key, found⟩, member, rfl⟩ := entry
    have first := (mem_unique identities).mp (mem_sortKeys.mp member)
    rwa [find_stableId first]
  · intro first
    exact ⟨(identity.stableId, identity), mem_sortKeys.mpr ((mem_unique identities).mpr first), rfl⟩

theorem map_stableId (entries : List (String × ApplicationIdentity casing))
    (keyed : ∀ entry ∈ entries, entry.1 = entry.2.stableId) :
    (entries.map Prod.snd).map ApplicationIdentity.stableId = entries.map Prod.fst := by
  rw [List.map_map]
  exact List.map_congr_left fun entry member => (keyed entry member).symm

/-- The stored identities are in the order of their stable ids. -/
theorem canonical_ascending (identities : List (ApplicationIdentity casing)) :
    ((canonical identities).map ApplicationIdentity.stableId).Pairwise (· < ·) := by
  obtain ⟨distinct, keyed⟩ := unique_keys identities
  have perm := sortKeys_perm (unique identities)
  rw [canonical, map_stableId _ fun entry member => keyed entry (mem_sortKeys.mp member)]
  have sorted : ((sortKeys (unique identities)).map Prod.fst).Pairwise (· ≤ ·) := by
    rw [List.pairwise_map]
    exact List.pairwise_insertionSort _ _
  have once : ((sortKeys (unique identities)).map Prod.fst).Pairwise (· ≠ ·) :=
    (perm.map Prod.fst).nodup_iff.mpr distinct
  exact (sorted.and once).imp fun both => lt_of_le_of_ne both.1 both.2

/-- Lists in the order of their stable ids are the same if they have the same members. -/
theorem eq_of_ascending
    (ascending : (identities.map ApplicationIdentity.stableId).Pairwise (· < ·))
    (ascending' : (others.map ApplicationIdentity.stableId).Pairwise (· < ·))
    (same : ∀ identity, identity ∈ identities ↔ identity ∈ others) : identities = others := by
  rw [List.pairwise_map] at ascending ascending'
  have distinct {list : List (ApplicationIdentity casing)}
      (order : list.Pairwise fun first second => first.stableId < second.stableId) :
      list.Nodup := by
    apply order.imp
    intro first second less equal
    rw [equal] at less
    exact lt_irrefl _ less
  have perm : identities.Perm others :=
    (List.perm_ext_iff_of_nodup (distinct ascending) (distinct ascending')).mpr same
  apply perm.eq_of_pairwise _ ascending ascending'
  intro first second _ _ less greater
  exact absurd (less.trans greater) (lt_irrefl _)

theorem find_of_nodup (distinct : (identities.map ApplicationIdentity.stableId).Nodup) :
    identities.find? (fun other => other.stableId = identity.stableId) = some identity ↔
      identity ∈ identities := by
  constructor
  · intro found
    exact List.mem_of_find?_eq_some found
  · intro member
    cases found : identities.find? (fun other => other.stableId = identity.stableId) with
    | none =>
        rw [List.find?_eq_none] at found
        exact absurd (decide_eq_true rfl) (found identity member)
    | some other =>
        rw [List.inj_on_of_nodup_map distinct (List.mem_of_find?_eq_some found) member
          (find_stableId found)]

/-- What is stored does not change when it is stored again. -/
theorem canonical_canonical (identities : List (ApplicationIdentity casing)) :
    canonical (canonical identities) = canonical identities := by
  have ascending := canonical_ascending identities
  apply eq_of_ascending (canonical_ascending _) ascending
  intro identity
  rw [mem_canonical]
  exact find_of_nodup (ascending.imp fun less => ne_of_lt less)

theorem canonical_perm (distinct : (identities.map ApplicationIdentity.stableId).Nodup)
    (perm : others.Perm identities) : canonical others = canonical identities := by
  have distinct' : (others.map ApplicationIdentity.stableId).Nodup :=
    (perm.map _).nodup_iff.mpr distinct
  apply eq_of_ascending (canonical_ascending _) (canonical_ascending _)
  intro identity
  rw [mem_canonical, mem_canonical, find_of_nodup distinct, find_of_nodup distinct', perm.mem_iff]

/-- The keys of an identity and those of the payload, in their order. -/
theorem ascending_keys :
    ["bundle_id", "display_name", "executable_path", "package_id", "platform"].Pairwise
      (fun left right => left ≤ right ∧ ¬ right ≤ left) ∧
    ["applications", "schema_version"].Pairwise (fun left right => left ≤ right ∧ ¬ right ≤ left) := by
  simp only [List.pairwise_cons, List.Pairwise.nil, List.forall_mem_cons, List.not_mem_nil,
    false_imp_iff, implies_true, ← String.not_lt, String.lt_iff, -String.reduceLT]
  repeat rw [String.toList_ofList]
  and_intros <;> decide

/-- An entry with a text as its value. -/
def textMember (key value : String) : IndentedMember where
  key
  text := quote false value
  value := .string value

/-- The entries of an identity in the order of their keys. -/
def members (identity : ApplicationIdentity casing) : List IndentedMember :=
  [textMember "bundle_id" identity.bundleId, textMember "display_name" identity.displayName,
    textMember "executable_path" identity.executablePath,
    textMember "package_id" identity.packageId, textMember "platform" identity.platform]

/-- What is read for an identity. -/
def sortedDict (identity : ApplicationIdentity casing) : Json :=
  .object ((members identity).map IndentedMember.entry)

theorem dumpsIndented_identityDict (level : ℕ) (identity : ApplicationIdentity casing) :
    dumpsIndented level (identityDict identity) =
      '\x7b' :: (block level ((members identity).map IndentedMember.source) ++ ['\x7d']) := by
  have ascending := ascending_keys.1
  simp only [List.pairwise_cons, List.forall_mem_cons] at ascending
  simp only [identityDict, dumpsIndented, dumpsIndentedEntries, sortKeys, List.insertionSort,
    List.foldr, List.orderedInsert, ascending, if_true, if_false, -String.reduceLE]
  rfl

theorem written_identityDict (level : ℕ) (identity : ApplicationIdentity casing) :
    Written (dumpsIndented level (identityDict identity)) (sortedDict identity) := by
  rw [dumpsIndented_identityDict]
  apply written_object
  · simp only [members, List.forall_mem_cons]
    exact ⟨written_string _, written_string _, written_string _, written_string _,
      written_string _, fun _ member => absurd member List.not_mem_nil⟩
  · exact List.cons_ne_nil _ _
  · simp only [members, textMember, List.map_cons, List.map_nil]
    decide

theorem dumpsIndentedAll_eq_map (level : ℕ) (values : List Json) :
    dumpsIndentedAll level values = values.map (dumpsIndented level) := by
  induction values with
  | nil => rfl
  | cons value values ih => rw [dumpsIndentedAll, ih, List.map_cons]

theorem written_applications (level : ℕ) (identities : List (ApplicationIdentity casing)) :
    Written (dumpsIndented level (.array (identities.map identityDict)))
      (.array (identities.map sortedDict)) := by
  cases identities with
  | nil =>
      refine ⟨⟨'[', [']'], rfl, by decide, by decide⟩, ?_⟩
      intro fuel rest enough _
      cases fuel with
      | zero => exact absurd enough (Nat.not_lt_zero _)
      | succ fuel => rfl
  | cons first identities =>
      have written := @written_array level ((first :: identities).map fun identity =>
        (dumpsIndented (level + 1) (identityDict identity), sortedDict identity)) (by
          intro item member
          obtain ⟨identity, _, rfl⟩ := List.mem_map.mp member
          exact written_identityDict _ identity) (List.cons_ne_nil _ _)
      rw [List.map_map, List.map_map] at written
      rw [List.map_cons, dumpsIndented, dumpsIndentedAll_eq_map, ← List.map_cons, List.map_map]
      exact written

theorem dumpsIndented_payload (identities : List (ApplicationIdentity casing)) :
    dumpsIndented 0 (payload identities) =
      '\x7b' :: (block 0 ([⟨"applications",
        dumpsIndented 1 (.array (identities.map identityDict)),
        .array (identities.map sortedDict)⟩,
        ⟨"schema_version", ['1'], .int 1⟩].map IndentedMember.source) ++ ['\x7d']) := by
  have ascending := ascending_keys.2
  simp only [List.pairwise_cons, List.forall_mem_cons] at ascending
  rw [payload, dumpsIndented, dumpsIndentedEntries, dumpsIndentedEntries, dumpsIndentedEntries]
  simp only [sortKeys, List.insertionSort, List.foldr, List.orderedInsert, ascending, if_false,
    -String.reduceLE]
  rfl

/-- The file is read back as the identities in it. -/
theorem written_payload (identities : List (ApplicationIdentity casing)) :
    Written (dumpsIndented 0 (payload identities))
      (.object [("applications", .array (identities.map sortedDict)),
        ("schema_version", .int 1)]) := by
  rw [dumpsIndented_payload]
  apply written_object
  · simp only [List.forall_mem_cons]
    exact ⟨written_applications 1 identities, written_one,
      fun _ member => absurd member List.not_mem_nil⟩
  · exact List.cons_ne_nil _ _
  · simp only [List.map_cons, List.map_nil]
    decide

theorem carriage_notMem_identityDict (level : ℕ) (identity : ApplicationIdentity casing) :
    '\r' ∉ dumpsIndented level (identityDict identity) := by
  rw [dumpsIndented_identityDict, List.mem_cons, List.mem_append, List.mem_singleton]
  rintro (opening | inside | closing)
  · exact absurd opening (by decide)
  · refine carriage_notMem_block ?_ inside
    simp only [members, List.map_cons, List.map_nil, List.forall_mem_cons]
    have text (key value : String) : '\r' ∉ (textMember key value).source :=
      carriage_notMem_source (carriage_notMem_quote value)
    exact ⟨text _ _, text _ _, text _ _, text _ _, text _ _,
      fun _ member => absurd member List.not_mem_nil⟩
  · exact absurd closing (by decide)

theorem carriage_notMem_applications (level : ℕ)
    (identities : List (ApplicationIdentity casing)) :
    '\r' ∉ dumpsIndented level (.array (identities.map identityDict)) := by
  cases identities with
  | nil =>
      have brackets : '\r' ∉ ['[', ']'] := by decide
      exact brackets
  | cons first identities =>
      rw [List.map_cons, dumpsIndented, dumpsIndentedAll_eq_map, ← List.map_cons, List.map_map,
        List.mem_cons, List.mem_append, List.mem_singleton]
      rintro (opening | inside | closing)
      · exact absurd opening (by decide)
      · refine carriage_notMem_block ?_ inside
        intro text member
        obtain ⟨identity, _, rfl⟩ := List.mem_map.mp member
        exact carriage_notMem_identityDict _ identity
      · exact absurd closing (by decide)

theorem carriage_notMem_payload (identities : List (ApplicationIdentity casing)) :
    '\r' ∉ dumpsIndented 0 (payload identities) ++ ['\n'] := by
  rw [dumpsIndented_payload, List.mem_append, List.mem_cons, List.mem_append,
    List.mem_singleton, List.mem_singleton]
  rintro ((opening | inside | closing) | feed)
  · exact absurd opening (by decide)
  · refine carriage_notMem_block ?_ inside
    simp only [List.map_cons, List.map_nil, List.forall_mem_cons]
    refine ⟨carriage_notMem_source (carriage_notMem_applications 1 identities),
      carriage_notMem_source ?_, fun _ member => absurd member List.not_mem_nil⟩
    decide
  · exact absurd closing (by decide)
  · exact absurd feed (by decide)

/-- The value of the file that stores some identities. -/
theorem fileValue_encoded (identities : List (ApplicationIdentity casing)) :
    fileValue (encoded identities) =
      some (.object [("applications", .array (identities.map sortedDict)),
        ("schema_version", .int 1)]) := by
  rw [fileValue, encoded, decodeUtf8_encodeUtf8, Option.bind_some, String.toList_ofList,
    universalNewlines_of_notMem (carriage_notMem_payload identities)]
  exact (written_payload identities).loads

theorem fromItem_sortedDict (identity : ApplicationIdentity casing) :
    fromItem casing reading (sortedDict identity) = .ok identity := by
  have known : (((members identity).map IndentedMember.entry).map Prod.fst).all
      (fun key => decide (key ∈ fieldNames)) = true := by
    simp only [members, textMember, IndentedMember.entry, List.map_cons, List.map_nil]
    decide
  rw [sortedDict, fromItem, if_pos known]
  exact identity.create_self

theorem fromItems_sortedDict (identities : List (ApplicationIdentity casing)) :
    fromItems reading (identities.map sortedDict) = .ok identities := by
  induction identities with
  | nil => rfl
  | cons identity identities ih =>
      rw [List.map_cons, fromItems, fromItem_sortedDict, ih]
      rfl

theorem dedupeIdentities_eq_ok {result : List (ApplicationIdentity casing)} :
    dedupeIdentities identities = .ok result ↔
      canonical identities = result ∧ result.length ≤ maxAppExclusions := by
  unfold dedupeIdentities
  dsimp only
  rw [← canonical]
  split_ifs with many
  · simp only [false_iff, not_and]
    intro same
    rw [← same]
    exact not_le.mpr many
  · rw [Except.ok.injEq]
    refine ⟨fun same => ⟨same, ?_⟩, fun both => both.1⟩
    rw [← same]
    exact not_lt.mp many

/-- What is saved is loaded again. -/
theorem load_encoded (few : (canonical identities).length ≤ maxAppExclusions) :
    loadApplicationExclusions reading (some (encoded (canonical identities))) =
      .ok (canonical identities) := by
  have deduped : dedupeIdentities (canonical identities) = .ok (canonical identities) :=
    dedupeIdentities_eq_ok.mpr ⟨canonical_canonical identities, few⟩
  rw [loadApplicationExclusions, fileValue_encoded]
  have supported : isSupported reading
      ([("applications", Json.array ((canonical identities).map sortedDict)),
        ("schema_version", .int 1)].lookup "schema_version") = true := rfl
  have applications : ([("applications", Json.array ((canonical identities).map sortedDict)),
      ("schema_version", .int 1)].lookup "applications").getD (.array []) =
      .array ((canonical identities).map sortedDict) := rfl
  dsimp only
  rw [if_pos supported, applications]
  dsimp only
  rw [loadItems, fromItems_sortedDict]
  dsimp only
  rw [deduped]
  simp [bind, Except.bind, pure, Except.pure]

theorem save_eq_ok {file stored : Option Bytes} {written : Bool} :
    saveApplicationExclusions file written identities = .ok (true, stored) ↔
      (canonical identities).length ≤ maxAppExclusions ∧ written = true ∧
        stored = some (encoded (canonical identities)) := by
  unfold saveApplicationExclusions
  rw [bind_eq_ok]
  constructor
  · intro saved
    obtain ⟨result, deduped, answer⟩ := saved
    obtain ⟨rfl, few⟩ := dedupeIdentities_eq_ok.mp deduped
    cases written with
    | false => cases answer
    | true =>
        obtain ⟨-, same⟩ := Prod.mk.inj (Except.ok.inj answer)
        exact ⟨few, rfl, same.symm⟩
  · intro all
    obtain ⟨few, rfl, rfl⟩ := all
    exact ⟨_, dedupeIdentities_eq_ok.mpr ⟨rfl, few⟩, rfl⟩

/-- What has been saved is loaded as the first identity of each stable id in their order, is saved
again as it is, and does not depend on the order of identities with different stable ids. -/
theorem exclusions_persist {file stored : Option Bytes} {written : Bool}
    (saved : saveApplicationExclusions file written identities = .ok (true, stored)) :
    (∃ loaded, loadApplicationExclusions reading stored = .ok loaded ∧
      (loaded.map ApplicationIdentity.stableId).Pairwise (· < ·) ∧
      (∀ identity, identity ∈ loaded ↔
        identities.find? (fun other => other.stableId = identity.stableId) = some identity) ∧
      ∀ file, saveApplicationExclusions file true loaded = .ok (true, stored)) ∧
    ((identities.map ApplicationIdentity.stableId).Nodup → ∀ others, others.Perm identities →
      ∀ file, saveApplicationExclusions file true others = .ok (true, stored)) := by
  obtain ⟨few, -, rfl⟩ := save_eq_ok.mp saved
  constructor
  · refine ⟨canonical identities, load_encoded few, canonical_ascending identities,
      fun identity => mem_canonical, fun file => ?_⟩
    rw [save_eq_ok, canonical_canonical]
    exact ⟨few, rfl, rfl⟩
  · intro distinct others perm file
    rw [save_eq_ok, canonical_perm distinct perm]
    exact ⟨few, rfl, rfl⟩

def asciiCasing : Casing where
  lower := asciiLower
  lowering := lowering_asciiLower

/-- An executable, under a name that is shown. -/
def sampleIdentity (displayName : String) (stripped : strip displayName = displayName) :
    ApplicationIdentity asciiCasing where
  platform := "linux"
  executablePath := "/b"
  bundleId := ""
  packageId := ""
  displayName
  platform_known := by decide
  platform_normal := rfl
  executable_stripped := rfl
  bundle_normal := rfl
  package_normal := rfl
  display_stripped := stripped
  identified := .inl (by decide)

def sampleReading : Reading where
  str _ := ""
  floatOrEmpty text := text
  floatIsOne _ := false

/-- Of two names of one executable the first is kept. -/
theorem exclusions_persist_sample : ∃ stored,
    saveApplicationExclusions none true [sampleIdentity "B" rfl, sampleIdentity "C" rfl] =
      .ok (true, stored) ∧
    loadApplicationExclusions sampleReading stored = .ok [sampleIdentity "B" rfl] := by
  have kept : canonical [sampleIdentity "B" rfl, sampleIdentity "C" rfl] =
      [sampleIdentity "B" rfl] := rfl
  have saved : saveApplicationExclusions none true
      [sampleIdentity "B" rfl, sampleIdentity "C" rfl] =
        .ok (true, some (encoded (canonical [sampleIdentity "B" rfl, sampleIdentity "C" rfl]))) := by
    rw [save_eq_ok, kept]
    exact ⟨by decide, rfl, rfl⟩
  obtain ⟨loaded, loads, ascending, members, -⟩ :=
    (@exclusions_persist _ sampleReading _ _ _ _ saved).1
  have same : loaded = canonical [sampleIdentity "B" rfl, sampleIdentity "C" rfl] := by
    apply eq_of_ascending ascending (canonical_ascending _)
    intro identity
    rw [members, mem_canonical]
  exact ⟨_, saved, loads.trans (congrArg Except.ok (same.trans kept))⟩

end ApplicationExclusions

end ProxyLauncher.Routing
