import ProxyLauncher.Python.JsonRead
import ProxyLauncher.WinDivert.Protocol
import ProxyLauncher.WinDivert.ServiceProtocol

/-!
# Agreement on the responses

The service writes a response as text and the controller reads it as JSON.  The text is one
object whatever the result and its error text are, and the controller takes it as success exactly
when the service reported it.
-/

namespace ProxyLauncher.WinDivert

open Python (Bytes Json Member plainQuote PlainText)

/-- What Python makes of JSON values: whether a floating point number equals one, and `str`. -/
structure JsonRuntime where
  floatIsOne : String → Bool
  str : Json → String

variable (library : ContractLibrary) (runtime : JsonRuntime)

/-- The end of `NamedPipeWindowsWinDivertClient.request`, from the body of the frame on. -/
def receiveResponse (body : Bytes) : Except String Json :=
  match (Python.decodeUtf8 body).bind Python.loads with
  | none => .error "WinDivert routing service returned invalid JSON"
  | some (.object entries) => .ok (.object entries)
  | some _ => .error "WinDivert routing service response is not an object"

/-- `value == PROTOCOL_VERSION`, of a value that may be missing. -/
def isProtocolVersion : Option Json → Bool
  | some (.int value) => value == 1
  | some (.bool value) => value
  | some (.float text) => runtime.floatIsOne text
  | _ => false

/-- `value == text`, of a value that may be missing. -/
def isText (text : String) : Option Json → Bool
  | some (.string value) => value == text
  | _ => false

/-- `validate_service_response`: the entries of the response. -/
def validateResponse (response : Json) (command sessionId planDigest : String) :
    Except String (List (String × Json)) :=
  match response with
  | .object entries =>
      if !isProtocolVersion runtime (entries.lookup "protocol_version") then
        .error "WinDivert routing service protocol mismatch"
      else if !isText command (entries.lookup "command") then
        .error "WinDivert routing service command mismatch"
      else do
        let sessionId ← validateSessionId library sessionId
        if !isText sessionId (entries.lookup "session_id") then
          .error "WinDivert routing service session mismatch"
        else
          let planDigest ← validateDigest library planDigest
          if !isText planDigest (entries.lookup "plan_digest") then
            .error "WinDivert routing service plan digest mismatch"
          else if !isText "ok" (entries.lookup "status") then
            .error ("WinDivert routing service rejected request: " ++
              match entries.lookup "error" with
              | some value => runtime.str value
              | none => "unknown error")
          else .ok entries
  | _ => .error "WinDivert routing service response is not an object"

/-- An element of a set; one that is no text is `none`. -/
def setElement : Json → Except String (Option String)
  | .string value => .ok (some value)
  | .array _ => .error "unhashable type: 'list'"
  | .object _ => .error "unhashable type: 'dict'"
  | _ => .ok none

/-- `set(response.get(key, ()))`, as the list of its elements. -/
def setOf : Option Json → Except String (List (Option String))
  | none => .ok []
  | some (.array values) => values.mapM setElement
  | some (.object entries) => .ok (entries.map fun entry => some entry.1)
  | some (.string text) => .ok (text.toList.map fun char => some (.singleton char))
  | some _ => .error "object is not iterable"

/-- `elements == _resource_ids()`. -/
def isResourceSet (elements : List (Option String)) : Bool :=
  elements.all (fun element => resourceIds.any fun resource => element == some resource) &&
    resourceIds.all fun resource => elements.contains (some resource)

/-- The end of `activate`, from the response of the service on. -/
def finishActivate (journal : Option RoutingOwnershipState) (state : RoutingOwnershipState)
    (body : Bytes) : Except String RoutingOwnershipState := do
  let response ← receiveResponse body
  let entries ←
    validateResponse library runtime response "apply_plan" state.sessionId state.planDigest
  let applied ← setOf (entries.lookup "applied_resources")
  if !isResourceSet applied then
    .error "WinDivert routing service did not confirm the exact owned resource set"
  else RoutingOwnershipStore.transition journal .applied

/-- The end of `restore`, from the response of the service on. -/
def finishRestore (journal : Option RoutingOwnershipState) (state : RoutingOwnershipState)
    (body : Bytes) : Except String Unit := do
  let response ← receiveResponse body
  let entries ←
    validateResponse library runtime response "restore" state.sessionId state.planDigest
  let removed ← setOf (entries.lookup "removed_resources")
  let remaining ← setOf (entries.lookup "remaining_owned_resources")
  if !isResourceSet removed || !remaining.isEmpty then
    .error "WinDivert routing service did not verify complete restoration"
  else RoutingOwnershipStore.clearAfterVerifiedRestore journal true

/-- An entry whose value is a text. -/
def stringMember (key : String) (value : List Char) : Member :=
  ⟨key.toList, plainQuote value, .string (.ofList value)⟩

/-- An entry with the owned resources or none. -/
def resourcesMember (key : String) (present : Bool) : Member :=
  ⟨key.toList, if present then appendResources else "[]".toList,
    .array (if present then kOwnedResources.map .string else [])⟩

/-- The entries of a response. -/
def responseMembers (request : ServiceRequest) (ok : Bool) (error : Option Bytes)
    (restore resourcesVerified : Bool) : List Member :=
  (if ok && !restore then [resourcesMember "applied_resources" true] else []) ++
  [stringMember "command" (if restore then "restore" else "apply_plan").toList,
    stringMember "plan_digest" request.planDigest.toList,
    ⟨"protocol_version".toList, Python.natText kProtocolVersion, .int kProtocolVersion⟩] ++
  (if ok && restore then
    [resourcesMember "remaining_owned_resources" !resourcesVerified,
      resourcesMember "removed_resources" resourcesVerified]
  else []) ++
  [stringMember "session_id" request.sessionId.toList,
    stringMember "status" (if ok then "ok" else "error").toList] ++
  (if ok then [] else [stringMember "error" (safeError error)])

/-- The entries that a client reads. -/
def responseEntries (request : ServiceRequest) (ok : Bool) (error : Option Bytes)
    (restore resourcesVerified : Bool) : List (String × Json) :=
  (responseMembers request ok error restore resourcesVerified).map Member.entry

variable {library} {runtime} {request : ServiceRequest} {ok restore resourcesVerified : Bool}
  {error : Option Bytes} {state : RoutingOwnershipState}

theorem serviceResponseText_eq : serviceResponseText request ok error restore resourcesVerified =
    '\x7b' :: Python.commaSeparated
      ((responseMembers request ok error restore resourcesVerified).map Member.source) ++
      ['\x7d'] := by
  unfold serviceResponseText responseMembers stringMember resourcesMember
  repeat rw [String.toList_ofList]
  cases ok with
  | false =>
      cases restore <;> simp [Member.source, plainQuote, Python.commaSeparated, List.intercalate]
  | true =>
      cases restore with
      | false => simp [Member.source, plainQuote, Python.commaSeparated, List.intercalate]
      | true =>
          cases resourcesVerified <;>
            simp [Member.source, plainQuote, Python.commaSeparated, List.intercalate]

theorem distinct_responseMembers :
    ((responseMembers request ok error restore resourcesVerified).map fun member =>
      member.entry.1).Nodup := by
  cases ok <;> cases restore <;>
    simp [responseMembers, stringMember, resourcesMember, Member.entry]

theorem plainText_safeError (error : Option Bytes) : PlainText (safeError error) := by
  have default : PlainText "WinDivert routing failure".toList := by decide
  unfold safeError
  dsimp only
  split_ifs
  · exact default
  · intro char member
    have printable := List.of_mem_filter (List.mem_of_mem_take member)
    simp only [Bool.and_eq_true, decide_eq_true_eq] at printable
    exact ⟨printable.1.1.1, printable.1.2, printable.2⟩

theorem ascii_safeError (error : Option Bytes) :
    (safeError error).all (fun char => char.toNat < 128) = true := by
  unfold safeError
  dsimp only
  split_ifs
  · decide
  · rw [List.all_eq_true]
    intro char member
    have printable := List.of_mem_filter (List.mem_of_mem_take member)
    simp only [Bool.and_eq_true, decide_eq_true_eq] at printable ⊢
    omega

theorem readable_stringMember {key : String} {value : List Char} (plainKey : PlainText key.toList)
    (plain : PlainText value) : (stringMember key value).Readable :=
  ⟨plainKey, Python.reads_string plain⟩

theorem reads_appendResources :
    Python.Reads appendResources (.array (kOwnedResources.map .string)) := by
  have quoted : ∀ item ∈ kOwnedResources.map fun resource =>
      (plainQuote resource.toList, Json.string resource), Python.Reads item.1 item.2 := by
    intro item member
    obtain ⟨resource, owned, rfl⟩ := List.mem_map.mp member
    have plain : ∀ resource ∈ kOwnedResources, PlainText resource.toList := by decide
    have read := Python.reads_string (plain resource owned)
    rwa [String.ofList_toList] at read
  have read := Python.reads_array quoted
  rw [List.map_map, List.map_map] at read
  exact read

theorem readable_resourcesMember {key : String} (plainKey : PlainText key.toList)
    (present : Bool) : (resourcesMember key present).Readable := by
  refine ⟨plainKey, ?_⟩
  cases present with
  | false => exact @Python.reads_array [] (by simp)
  | true => exact reads_appendResources

theorem readable_responseMembers (identified : request.Identified) :
    ∀ member ∈ responseMembers request ok error restore resourcesVerified, member.Readable := by
  have plain := identified.plain
  have digest : PlainText request.planDigest.toList := fun char member =>
    (plain char (List.mem_append_left _ member)).1
  have session : PlainText request.sessionId.toList := fun char member =>
    (plain char (List.mem_append_right _ member)).1
  have command : PlainText (if restore then "restore" else "apply_plan").toList := by
    cases restore <;> decide
  have status : PlainText (if ok then "ok" else "error").toList := by cases ok <;> decide
  have version : (⟨"protocol_version".toList, Python.natText kProtocolVersion,
      .int kProtocolVersion⟩ : Member).Readable := ⟨by decide, Python.reads_nat kProtocolVersion (by decide)⟩
  have ids : (stringMember "command" (if restore then "restore" else "apply_plan").toList).Readable ∧
      (stringMember "plan_digest" request.planDigest.toList).Readable ∧
      (stringMember "session_id" request.sessionId.toList).Readable ∧
      (stringMember "status" (if ok then "ok" else "error").toList).Readable :=
    ⟨readable_stringMember (by decide) command, readable_stringMember (by decide) digest,
      readable_stringMember (by decide) session, readable_stringMember (by decide) status⟩
  have applied := @readable_resourcesMember "applied_resources" (by decide) true
  have remaining := @readable_resourcesMember "remaining_owned_resources" (by decide)
    !resourcesVerified
  have removed := @readable_resourcesMember "removed_resources" (by decide) resourcesVerified
  have failure := @readable_stringMember "error" _ (by decide) (plainText_safeError error)
  unfold responseMembers
  simp only [List.forall_mem_append, List.forall_mem_cons]
  cases ok <;> cases restore <;> simp_all

theorem ascii_serviceResponseText (identified : request.Identified) :
    ∀ char ∈ serviceResponseText request ok error restore resourcesVerified,
      char.toNat < 128 := by
  have plain := identified.plain
  have digest : request.planDigest.toList.all (fun char => char.toNat < 128) = true := by
    simpa using fun char member => (plain char (List.mem_append_left _ member)).2
  have session : request.sessionId.toList.all (fun char => char.toNat < 128) = true := by
    simpa using fun char member => (plain char (List.mem_append_right _ member)).2
  have failure := ascii_safeError error
  have resources : appendResources.all (fun char => char.toNat < 128) = true := by
    simpa using fun char member => (plain_appendResources char member).1
  have version : (Python.natText kProtocolVersion).all (fun char => char.toNat < 128) = true := by
    decide
  have every : (serviceResponseText request ok error restore resourcesVerified).all
      (fun char => char.toNat < 128) = true := by
    unfold serviceResponseText
    simp only [List.all_append, digest, session, version]
    cases ok <;> cases restore <;> cases resourcesVerified <;>
      simp [List.all_append, failure, resources]
  simpa using every

theorem loads_serviceResponseText (identified : request.Identified) :
    Python.loads
        (.ofList (serviceResponseText request ok error restore resourcesVerified)) =
      some (.object (responseEntries request ok error restore resourcesVerified)) := by
  have read := (Python.reads_object (readable_responseMembers identified)
    (@distinct_responseMembers request ok restore resourcesVerified error)).loads
  rwa [← serviceResponseText_eq] at read

/-- The client reads the entries that the service wrote. -/
theorem receiveResponse_serviceResponseText (identified : request.Identified) :
    receiveResponse (toBytes (serviceResponseText request ok error restore resourcesVerified)) =
      .ok (.object (responseEntries request ok error restore resourcesVerified)) := by
  rw [receiveResponse, decodeUtf8_toBytes (ascii_serviceResponseText identified),
    Option.bind_some, loads_serviceResponseText identified]

theorem lookup_command : (responseEntries request ok error restore resourcesVerified).lookup
    "command" = some (.string (if restore then "restore" else "apply_plan")) := by
  cases ok <;> cases restore <;>
    simp [responseEntries, responseMembers, stringMember, resourcesMember, Member.entry, List.lookup]

theorem lookup_identity :
    (responseEntries request ok error restore resourcesVerified).lookup "protocol_version" =
      some (.int 1) ∧
    (responseEntries request ok error restore resourcesVerified).lookup "session_id" =
      some (.string request.sessionId) ∧
    (responseEntries request ok error restore resourcesVerified).lookup "plan_digest" =
      some (.string request.planDigest) ∧
    (responseEntries request ok error restore resourcesVerified).lookup "status" =
      some (.string (if ok then "ok" else "error")) := by
  cases ok <;> cases restore <;>
    simp [responseEntries, responseMembers, stringMember, resourcesMember, Member.entry,
      List.lookup, kProtocolVersion]

/-- The client accepts the answer to its own request when the service reports success. -/
theorem validateResponse_iff (valid : state.Valid library)
    (session : state.sessionId = request.sessionId) (digest : state.planDigest = request.planDigest)
    (command : String) {entries : List (String × Json)} :
    validateResponse library runtime
        (.object (responseEntries request ok error restore resourcesVerified)) command
        state.sessionId state.planDigest = .ok entries ↔
      (ok = true ∧ command = if restore then "restore" else "apply_plan") ∧
        entries = responseEntries request ok error restore resourcesVerified := by
  obtain ⟨version, ids, plan, status⟩ :=
    @lookup_identity request ok restore resourcesVerified error
  rw [validateResponse, version, lookup_command, ids, plan, status, valid.sessionId,
    valid.planDigest, session, digest]
  have first : isProtocolVersion runtime (some (.int 1)) = true := rfl
  have text (expected value : String) : isText expected (some (.string value)) = (value == expected) :=
    rfl
  generalize (if restore then "restore" else "apply_plan") = own
  simp only [first, text, Bool.not_true, Bool.false_eq_true, if_false]
  rcases eq_or_ne own command with rfl | different
  · cases ok with
    | false => simp [bind, Except.bind]
    | true => simp [bind, Except.bind, eq_comm]
  · simp [different, different.symm]

/-- The journal during an operation that a request asks for. -/
def journalOf (request : ServiceRequest) (phase : Phase) (now : String) :
    RoutingOwnershipState where
  sessionId := request.sessionId
  platform := "windows"
  planDigest := request.planDigest
  phase
  resources := ownedResources
  createdAtUtc := now

variable {now : String} {decimal : Char → Option Nat}

theorem ServiceRequest.Identified.valid (identified : request.Identified)
    (uuid : library.uuid = Python.uuidText decimal) (phase : Phase) :
    (journalOf request phase now).Valid library := by
  obtain ⟨digest, session⟩ := identified
  have shape := isUuidText_of_isSessionId session
  have lower := isDigest_of_isLowerHex digest
  rw [String.ofList_toList] at shape lower
  refine ⟨?_, lower⟩
  rw [uuid]
  exact Python.uuidText_of_isUuidText shape

theorem setOf_resources (present : Bool) :
    setOf (some (.array (if present then kOwnedResources.map .string else []))) =
      .ok (if present then kOwnedResources.map some else []) := by
  cases present <;> rfl

theorem isResourceSet_resources (present : Bool) :
    isResourceSet (if present then kOwnedResources.map some else []) = present := by
  cases present <;> decide

theorem lookup_applied : (responseEntries request true error false resourcesVerified).lookup
    "applied_resources" = some (.array (if true then kOwnedResources.map .string else [])) := by
  simp [responseEntries, responseMembers, stringMember, resourcesMember, Member.entry]

theorem lookup_removed :
    (responseEntries request true error true resourcesVerified).lookup "removed_resources" =
      some (.array (if resourcesVerified then kOwnedResources.map .string else [])) ∧
    (responseEntries request true error true resourcesVerified).lookup
      "remaining_owned_resources" =
      some (.array (if !resourcesVerified then kOwnedResources.map .string else [])) := by
  simp [responseEntries, responseMembers, stringMember, resourcesMember, Member.entry, List.lookup]

theorem load_journalOf {phase : Phase} (valid : (journalOf request phase now).Valid library) :
    RoutingOwnershipStore.load (some (journalOf request phase now)) =
      .ok (journalOf request phase now) := by
  have digest : isDigest request.planDigest = true := valid.2
  simp [RoutingOwnershipStore.load, digest, journalOf, ownedResources]

/-- `activate` succeeds on what the service writes when it applied the plan. -/
theorem finishActivate_iff (identified : request.Identified)
    (uuid : library.uuid = Python.uuidText decimal) :
    (∃ applied, finishActivate library runtime (some (journalOf request .prepared now))
      (journalOf request .prepared now)
      (toBytes (serviceResponseText request ok error restore resourcesVerified)) = .ok applied) ↔
      ok = true ∧ restore = false := by
  have valid : (journalOf request .prepared now).Valid library := identified.valid uuid .prepared
  simp only [finishActivate, Python.bind_eq_ok, receiveResponse_serviceResponseText identified,
    Except.ok.injEq, exists_eq_left', validateResponse_iff valid rfl rfl]
  constructor
  · rintro ⟨_, _, ⟨⟨rfl, own⟩, -⟩, -⟩
    exact ⟨rfl, by cases restore <;> simp_all⟩
  · rintro ⟨rfl, rfl⟩
    refine ⟨{ journalOf request .prepared now with phase := .applied }, _,
      ⟨⟨rfl, by simp⟩, rfl⟩, ?_⟩
    rw [lookup_applied]
    refine ⟨_, setOf_resources true, ?_⟩
    rw [isResourceSet_resources]
    exact Python.bind_eq_ok.mpr ⟨_, load_journalOf valid, rfl⟩

/-- `restore` succeeds on what the service writes when it verified that nothing is left. -/
theorem finishRestore_iff (identified : request.Identified)
    (uuid : library.uuid = Python.uuidText decimal) :
    finishRestore library runtime (some (journalOf request .restoring now))
      (journalOf request .restoring now)
      (toBytes (serviceResponseText request ok error restore resourcesVerified)) = .ok () ↔
      ok = true ∧ restore = true ∧ resourcesVerified = true := by
  have valid : (journalOf request .restoring now).Valid library := identified.valid uuid .restoring
  simp only [finishRestore, Python.bind_eq_ok, receiveResponse_serviceResponseText identified,
    Except.ok.injEq, exists_eq_left', validateResponse_iff valid rfl rfl]
  have cleared : RoutingOwnershipStore.clearAfterVerifiedRestore
      (some (journalOf request .restoring now)) true = .ok () :=
    Python.bind_eq_ok.mpr ⟨_, load_journalOf valid, rfl⟩
  constructor
  · rintro ⟨entries, ⟨⟨rfl, own⟩, rfl⟩, removed, known, remaining, others, complete⟩
    obtain rfl : restore = true := by cases restore <;> simp_all
    rw [lookup_removed.1, setOf_resources] at known
    obtain rfl := Except.ok.inj known
    rw [isResourceSet_resources] at complete
    cases resourcesVerified with
    | false => cases complete
    | true => exact ⟨rfl, rfl, rfl⟩
  · rintro ⟨rfl, rfl, rfl⟩
    refine ⟨_, ⟨⟨rfl, by simp⟩, rfl⟩, ?_⟩
    rw [lookup_removed.1, lookup_removed.2]
    refine ⟨_, setOf_resources true, _, setOf_resources false, ?_⟩
    rw [isResourceSet_resources]
    exact cleared

/-- The record of a response is accepted as its text is. -/
theorem validateServiceResponse_iff (valid : state.Valid library)
    (session : state.sessionId = request.sessionId) (digest : state.planDigest = request.planDigest)
    (command : ServiceCommand) (message : String) :
    validateServiceResponse library
        (buildServiceResponse request ok message restore resourcesVerified) command
        state.sessionId state.planDigest = .ok () ↔
      ok = true ∧ command = if restore then .restore else .applyPlan := by
  rw [validateServiceResponse, valid.sessionId, valid.planDigest, session, digest]
  simp only [buildServiceResponse]
  cases command <;> cases restore <;> cases ok <;> simp [bind, Except.bind]

/-- `activate` decides on the text of a response as on its record. -/
theorem finishActivate_iff_confirmsApply (identified : request.Identified)
    (uuid : library.uuid = Python.uuidText decimal) (message : String) :
    (∃ applied, finishActivate library runtime (some (journalOf request .prepared now))
      (journalOf request .prepared now)
      (toBytes (serviceResponseText request ok error restore resourcesVerified)) = .ok applied) ↔
    confirmsApply library (journalOf request .prepared now)
      (buildServiceResponse request ok message restore resourcesVerified) = .ok () := by
  have valid : (journalOf request .prepared now).Valid library := identified.valid uuid .prepared
  rw [finishActivate_iff identified uuid, confirmsApply, Python.bind_eq_ok]
  simp only [validateServiceResponse_iff valid rfl rfl]
  cases ok <;> cases restore <;> simp [buildServiceResponse]
  decide

/-- `restore` decides on the text of a response as on its record. -/
theorem finishRestore_iff_confirmsRestore (identified : request.Identified)
    (uuid : library.uuid = Python.uuidText decimal) (message : String) :
    finishRestore library runtime (some (journalOf request .restoring now))
      (journalOf request .restoring now)
      (toBytes (serviceResponseText request ok error restore resourcesVerified)) = .ok () ↔
    confirmsRestore library (journalOf request .restoring now)
      (buildServiceResponse request ok message restore resourcesVerified) = .ok () := by
  have valid : (journalOf request .restoring now).Valid library := identified.valid uuid .restoring
  rw [finishRestore_iff identified uuid, confirmsRestore, Python.bind_eq_ok]
  simp only [validateServiceResponse_iff valid rfl rfl]
  cases ok <;> cases restore <;> cases resourcesVerified <;> simp [buildServiceResponse] <;> decide

/-- The operation that a request asks for succeeds on the response with the given body. -/
def Succeeds (library : ContractLibrary) (runtime : JsonRuntime) (request : ServiceRequest)
    (now : String) (body : Bytes) : Prop :=
  match request.command with
  | .applyPlan =>
      ∃ applied, finishActivate library runtime (some (journalOf request .prepared now))
        (journalOf request .prepared now) body = .ok applied
  | .restore =>
      finishRestore library runtime (some (journalOf request .restoring now))
        (journalOf request .restoring now) body = .ok ()

theorem succeeds_iff (identified : request.Identified)
    (uuid : library.uuid = Python.uuidText decimal) :
    Succeeds library runtime request now
        (toBytes (serviceResponseText request ok error restore resourcesVerified)) ↔
      ok = true ∧ restore = decide (request.command = .restore) ∧
        (request.command = .restore → resourcesVerified = true) := by
  rcases known : request.command with _ | _
  · rw [Succeeds, known]
    simpa using finishActivate_iff identified uuid
  · rw [Succeeds, known]
    simpa using finishRestore_iff identified uuid

/-- Whatever the result of a request and its error text are, the response is one JSON object, and
the controller takes it as success exactly when the operation was; a response of a failure is
never taken as one. -/
theorem response_agreement (runtime : JsonRuntime)
    (uuid : library.uuid = Python.uuidText decimal) {data : Bytes}
    (accepted : parseServiceRequest data = .ok request) (ok resourcesVerified : Bool)
    (error : Option Bytes) (now : String) :
    (∀ restore, ∃ text entries,
      Python.decodeUtf8
          (toBytes (serviceResponseText request ok error restore resourcesVerified)) =
        some text ∧ Python.loads text = some (.object entries)) ∧
    (Succeeds library runtime request now
        (toBytes (serviceResponseText request ok error (request.command = .restore)
          resourcesVerified)) ↔
      ok = true ∧ (request.command = .restore → resourcesVerified = true)) ∧
    ∀ restore, ¬ Succeeds library runtime request now
      (toBytes (serviceResponseText request false error restore resourcesVerified)) := by
  have identified := identified_of_parseServiceRequest accepted
  refine ⟨fun restore => ?_, ?_, fun restore => ?_⟩
  · refine ⟨_, _, decodeUtf8_toBytes (ascii_serviceResponseText identified),
      loads_serviceResponseText identified⟩
  · rw [succeeds_iff identified uuid]
    simp
  · rw [succeeds_iff identified uuid]
    simp

def sampleRestore : ServiceRequest where
  command := .restore
  sessionId := "11111111-1111-4111-8111-111111111111"
  planDigest := .ofList (List.replicate 64 'b')

def sampleRestoreText : List Char :=
  "\x7b\"command\":\"restore\",\"owned_resources\":".toList ++ appendResources ++
    ",\"plan_digest\":\"".toList ++ List.replicate 64 'b' ++
    "\",\"protocol_version\":1,\"session_id\":\"".toList ++ sampleRestore.sessionId.toList ++
    "\"\x7d".toList

def identifiedLibrary : ContractLibrary :=
  { System.sampleLibrary with uuid := Python.uuidText fun _ => none }

set_option maxRecDepth 4096 in
theorem parseServiceRequest_sampleRestore :
    parseServiceRequest (toBytes sampleRestoreText) = .ok sampleRestore := by
  have parsed := @parseRestore_text (List.replicate 64 'b') ['1'] sampleRestore.sessionId.toList
    (by decide) (by
      unfold sampleRestore
      rw [String.toList_ofList]
      decide) fun rest => rfl
  rw [String.ofList_toList] at parsed
  refine parseServiceRequest_of_parseRestore ?_ ?_ ?_ (.trans (congrArg parseRestore ?_) parsed)
  all_goals
    unfold sampleRestoreText sampleRestore appendResources kOwnedResources
    repeat rw [String.toList_ofList]
  · rfl
  · decide
  · decide
  · rfl

/-- A restore that the service verified succeeds, and one that failed with a quotation mark in its
error does not. -/
theorem response_agreement_sample :
    Succeeds identifiedLibrary ⟨fun _ => false, fun _ => ""⟩ sampleRestore "now"
      (toBytes (serviceResponseText sampleRestore true none (sampleRestore.command = .restore)
        true)) ∧
    ¬ Succeeds identifiedLibrary ⟨fun _ => false, fun _ => ""⟩ sampleRestore "now"
      (toBytes (serviceResponseText sampleRestore false (some [34, 120]) true true)) := by
  have uuid : identifiedLibrary.uuid = Python.uuidText fun _ => none := rfl
  have verified := @response_agreement identifiedLibrary sampleRestore _
    ⟨fun _ => false, fun _ => ""⟩ uuid _ parseServiceRequest_sampleRestore true true none "now"
  have failed := @response_agreement identifiedLibrary sampleRestore _
    ⟨fun _ => false, fun _ => ""⟩ uuid _ parseServiceRequest_sampleRestore false true
    (some [34, 120]) "now"
  exact ⟨verified.2.1.mpr ⟨rfl, fun _ => rfl⟩, failed.2.2 true⟩

end ProxyLauncher.WinDivert
