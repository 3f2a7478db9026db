import ProxyLauncher.Python.Uuid
import ProxyLauncher.WinDivert.Ownership

/-!
# The text of the service protocol

The parser of the requests and the writer of the responses in the service.  A `std::string` is
the list of its characters, and a byte is the character with its code.
-/

namespace ProxyLauncher.WinDivert

open Python (Bytes expectText)

/-- The bytes of a `std::string`. -/
def toBytes (text : List Char) : Bytes := text.map fun char => UInt8.ofNat char.toNat

/-- The `std::string` of some bytes. -/
def ofBytes (data : Bytes) : List Char := data.map fun byte => Char.ofNat byte.toNat

def kMaxApplications : Nat := 128

def kProtocolVersion : Nat := 1

def kOwnedResources : List String :=
  ["Arvectum.ProxyLauncher.WinDivert.SocketTracker",
    "Arvectum.ProxyLauncher.WinDivert.NetworkTranslator"]

namespace Cursor

/-- The loop of `Cursor::ReadString`, with the number of characters that may still come. -/
def readChars : Nat → List Char → Option (List Char × List Char)
  | _, [] => none
  | _, '"' :: rest => some ([], rest)
  | 0, _ :: _ => none
  | room + 1, char :: rest =>
      if char.toNat < 0x20 ∨ 0x7e < char.toNat ∨ char = '\\' then none
      else (readChars room rest).map fun found => (char :: found.1, found.2)

/-- `Cursor::ReadString`. -/
def readString (maxLength : Nat) : List Char → Option (List Char × List Char)
  | '"' :: rest => readChars maxLength rest
  | _ => none

/-- The loop of `Cursor::ReadUInt`. -/
def readDigits (value : Nat) : List Char → Option (Nat × List Char)
  | [] => some (value, [])
  | char :: rest =>
      if char.isDigit then
        let value := value * 10 + (char.toNat - '0'.toNat)
        if 0xffffffff < value then none else readDigits value rest
      else some (value, char :: rest)

/-- `Cursor::ReadUInt`. -/
def readUInt : List Char → Option (Nat × List Char)
  | [] => none
  | char :: rest => if char.isDigit then readDigits 0 (char :: rest) else none

end Cursor

/-- `IsLowerHex`. -/
def isLowerHex (value : List Char) (exactLength : Nat) : Bool :=
  value.length == exactLength && value.all Python.isLowerHex

/-- `IsRuleId`. -/
def isRuleId (value : List Char) : Bool :=
  match value with
  | [] => false
  | first :: _ =>
      value.length ≤ 64 && first.isAlphanum &&
        value.all fun char => char.isAlphanum || char == '.' || char == '_' || char == '-'

/-- `IsSessionId` from an index on. -/
def isSessionIdFrom (index : Nat) : List Char → Bool
  | [] => true
  | char :: rest =>
      (if index = 8 ∨ index = 13 ∨ index = 18 ∨ index = 23 then char == '-'
        else Python.isLowerHex char) && isSessionIdFrom (index + 1) rest

/-- `IsSessionId`. -/
def isSessionId (value : List Char) : Bool :=
  value.length == 36 && isSessionIdFrom 0 value

/-- `ParseApplication`. -/
def parseApplication (cursor : List Char) : Option (ApplicationSpec × List Char) := do
  let cursor ← expectText "\x7b\"application_path_sha256\":".toList cursor
  let (pathHash, cursor) ← Cursor.readString 64 cursor
  guard (isLowerHex pathHash 64)
  let cursor ← expectText ",\"local_proxy_port\":".toList cursor
  let (port, cursor) ← Cursor.readUInt cursor
  guard (port ≠ 0 ∧ port ≤ 65535)
  let cursor ← expectText ",\"rule_id\":".toList cursor
  let (ruleId, cursor) ← Cursor.readString 64 cursor
  guard (isRuleId ruleId)
  let cursor ← expectText ['\x7d'] cursor
  pure
    ({ ruleId := .ofList ruleId
       applicationPathSha256 := .ofList pathHash
       localProxyPort := .ofNat port }, cursor)

/-- The loop of `ParseApplications`, with the number of applications that may still come. -/
def parseApplicationsFrom : Nat → List ApplicationSpec → UInt16 → List Char →
    Option (List ApplicationSpec × UInt16 × List Char)
  | 0, _, _, _ => none
  | room + 1, applications, proxyPort, cursor => do
      let (application, cursor) ← parseApplication cursor
      guard (proxyPort = 0 ∨ proxyPort = application.localProxyPort)
      let applications := applications ++ [application]
      match cursor with
      | ']' :: cursor => pure (applications, application.localProxyPort, cursor)
      | ',' :: cursor =>
          parseApplicationsFrom room applications application.localProxyPort cursor
      | _ => none

/-- `ParseApplications`. -/
def parseApplications (cursor : List Char) :
    Option (List ApplicationSpec × UInt16 × List Char) := do
  let cursor ← expectText ['['] cursor
  guard (cursor.head? ≠ some ']')
  parseApplicationsFrom kMaxApplications [] 0 cursor

/-- The loop of `ParseOwnedResources`. -/
def parseResources : List String → List Char → Option (List Char)
  | [], cursor => some cursor
  | resource :: resources, cursor => do
      let (value, cursor) ← Cursor.readString 64 cursor
      guard (.ofList value = resource)
      let cursor ← if resources = [] then some cursor else expectText [','] cursor
      parseResources resources cursor

/-- `ParseOwnedResources`. -/
def parseOwnedResources (cursor : List Char) : Option (List Char) := do
  let cursor ← expectText ['['] cursor
  let cursor ← parseResources kOwnedResources cursor
  expectText [']'] cursor

/-- The plan digest and the protocol version, as both kinds of requests have them. -/
def parseDigestAndVersion (cursor : List Char) : Option (List Char × List Char) := do
  let cursor ← expectText ",\"plan_digest\":".toList cursor
  let (planDigest, cursor) ← Cursor.readString 64 cursor
  guard (isLowerHex planDigest 64)
  let cursor ← expectText ",\"protocol_version\":".toList cursor
  let (version, cursor) ← Cursor.readUInt cursor
  guard (version = kProtocolVersion)
  pure (planDigest, cursor)

/-- The session at the end of a request. -/
def parseSession (cursor : List Char) : Option (List Char) := do
  let (sessionId, cursor) ← Cursor.readString 36 cursor
  guard (isSessionId sessionId)
  let cursor ← expectText ['\x7d'] cursor
  guard (cursor = [])
  pure sessionId

/-- `ParseApply`. -/
def parseApply (cursor : List Char) : Option ServiceRequest := do
  let cursor ← expectText "\x7b\"applications\":".toList cursor
  let (applications, proxyPort, cursor) ← parseApplications cursor
  let cursor ← expectText ",\"command\":\"apply_plan\",\"owned_resources\":".toList cursor
  let cursor ← parseOwnedResources cursor
  let (planDigest, cursor) ← parseDigestAndVersion cursor
  let cursor ← expectText ",\"proxy\":\x7b\"direct_listener_port\":".toList cursor
  let (directPort, cursor) ← Cursor.readUInt cursor
  guard (directPort ≠ 0 ∧ directPort ≤ 65535 ∧ directPort ≠ proxyPort.toNat)
  let cursor ← expectText ",\"pid\":".toList cursor
  let (pid, cursor) ← Cursor.readUInt cursor
  guard (pid ≠ 0)
  let cursor ← expectText "\x7d,\"session_id\":".toList cursor
  let sessionId ← parseSession cursor
  pure
    { command := .applyPlan
      sessionId := .ofList sessionId
      planDigest := .ofList planDigest
      proxyPid := .ofNat pid
      directListenerPort := .ofNat directPort
      applications }

/-- `ParseProtocolAndSession`. -/
def parseProtocolAndSession (cursor : List Char) : Option (List Char × List Char) := do
  let (planDigest, cursor) ← parseDigestAndVersion cursor
  let cursor ← expectText ",\"session_id\":".toList cursor
  let sessionId ← parseSession cursor
  pure (planDigest, sessionId)

/-- `ParseRestore`. -/
def parseRestore (cursor : List Char) : Option ServiceRequest := do
  let cursor ← expectText "\x7b\"command\":\"restore\",\"owned_resources\":".toList cursor
  let cursor ← parseOwnedResources cursor
  let (planDigest, sessionId) ← parseProtocolAndSession cursor
  pure { command := .restore, sessionId := .ofList sessionId, planDigest := .ofList planDigest }

/-- `ParseServiceRequest`. -/
def parseServiceRequest (data : Bytes) : Except String ServiceRequest :=
  let text := ofBytes data
  if data = [] ∨ 1024 * 1024 < data.length then .error "invalid request frame"
  else if 20 < data.length ∧ "\x7b\"applications\":".toList <+: text then
    match parseApply text with
    | some request => .ok request
    | none => .error "invalid apply request"
  else
    match parseRestore text with
    | some request => .ok request
    | none => .error "invalid restore request"

/-- The text that `AppendResources` appends. -/
def appendResources : List Char :=
  let quoted (resource : String) := '"' :: resource.toList ++ ['"']
  '[' :: Python.commaSeparated (kOwnedResources.map quoted) ++ [']']

theorem forall_mem_commaSeparated {holds : Char → Prop} (comma : holds ',')
    {texts : List (List Char)} (every : ∀ text ∈ texts, ∀ char ∈ text, holds char) :
    ∀ char ∈ Python.commaSeparated texts, holds char := by
  induction texts with
  | nil => simp [Python.commaSeparated]
  | cons text texts ih =>
      rw [List.forall_mem_cons] at every
      cases texts with
      | nil => simpa [Python.commaSeparated] using every.1
      | cons next texts =>
          rw [Python.commaSeparated, List.intercalate_cons_cons, List.append_assoc]
          simp only [List.forall_mem_append, List.forall_mem_singleton]
          exact ⟨every.1, comma, ih every.2⟩

/-- The names of the resources are ASCII without colons. -/
theorem plain_appendResources : ∀ char ∈ appendResources, char.toNat < 128 ∧ char ≠ ':' := by
  have all : (kOwnedResources.all fun resource => resource.toList.all fun char =>
      char.toNat < 128 && char ≠ ':') = true := by
    unfold kOwnedResources
    simp only [List.all_cons, List.all_nil]
    repeat rw [String.toList_ofList]
    decide
  have quoted : ∀ text ∈ kOwnedResources.map fun resource => '"' :: resource.toList ++ ['"'],
      ∀ char ∈ text, char.toNat < 128 ∧ char ≠ ':' := by
    intro text member
    obtain ⟨resource, owned, rfl⟩ := List.mem_map.mp member
    simp only [List.forall_mem_append, List.forall_mem_cons]
    refine ⟨⟨by decide, fun char there => ?_⟩, by decide, by simp⟩
    simpa using List.all_eq_true.mp (List.all_eq_true.mp all resource owned) char there
  simp only [appendResources, List.forall_mem_append, List.forall_mem_cons]
  exact ⟨⟨by decide, forall_mem_commaSeparated (by decide) quoted⟩, by decide, by simp⟩

/-- `SafeError`; a null pointer is `none`, and the bytes end at the first zero. -/
def safeError (error : Option Bytes) : List Char :=
  let cursor : List Char := match error with
    | none => "WinDivert routing failure".toList
    | some error => ofBytes (error.takeWhile fun byte => byte ≠ 0)
  let result := (cursor.filter fun char =>
    0x20 ≤ char.toNat && char.toNat ≤ 0x7e && char ≠ '"' && char ≠ '\\').take 256
  if result.isEmpty then "WinDivert routing failure".toList else result

/-- `BuildServiceResponse`. -/
def serviceResponseText (request : ServiceRequest) (ok : Bool) (error : Option Bytes)
    (restore resourcesVerified : Bool) : List Char :=
  ['\x7b'] ++
  (if ok && !restore then
    "\"applied_resources\":".toList ++ appendResources ++ [',']
  else []) ++
  "\"command\":\"".toList ++ (if restore then "restore" else "apply_plan").toList ++
  "\",\"plan_digest\":\"".toList ++ request.planDigest.toList ++
  "\",\"protocol_version\":".toList ++ Python.natText kProtocolVersion ++ [','] ++
  (if ok && restore then
    "\"remaining_owned_resources\":".toList ++
    (if resourcesVerified then "[]".toList else appendResources) ++
    ",\"removed_resources\":".toList ++
    (if resourcesVerified then appendResources else "[]".toList) ++ [',']
  else []) ++
  "\"session_id\":\"".toList ++ request.sessionId.toList ++
  "\",\"status\":\"".toList ++ (if ok then "ok" else "error").toList ++ ['"'] ++
  (if !ok then ",\"error\":\"".toList ++ safeError error ++ ['"'] else []) ++
  ['\x7d']

variable {data : Bytes} {request : ServiceRequest} {text : List Char}

theorem encodeUtf8_ofList (ascii : ∀ char ∈ text, char.toNat < 128) :
    Python.encodeUtf8 (.ofList text) = toBytes text := by
  induction text with
  | nil => rfl
  | cons char text ih =>
      obtain ⟨first, others⟩ := List.forall_mem_cons.mp ascii
      have one : char.utf8Size = 1 := by
        rw [Char.utf8Size_eq_one_iff, UInt32.le_iff_toNat_le]
        exact Nat.le_of_lt_succ first
      have whole : Python.encodeUtf8 (.ofList (char :: text)) =
          String.utf8EncodeChar char ++ Python.encodeUtf8 (.ofList text) := by
        simp only [Python.encodeUtf8, String.toUTF8, String.toByteArray_ofList]
        rw [List.utf8Encode_cons, List.utf8Encode_singleton]
        simp
      rw [whole, String.utf8EncodeChar_eq_singleton one, ih others]
      rfl

/-- A client decodes the text that was sent. -/
theorem decodeUtf8_toBytes (ascii : ∀ char ∈ text, char.toNat < 128) :
    Python.decodeUtf8 (toBytes text) = some (.ofList text) := by
  rw [← encodeUtf8_ofList ascii, Python.decodeUtf8_encodeUtf8]

theorem ofBytes_toBytes (ascii : ∀ char ∈ text, char.toNat < 128) :
    ofBytes (toBytes text) = text := by
  induction text with
  | nil => rfl
  | cons char text ih =>
      obtain ⟨first, others⟩ := List.forall_mem_cons.mp ascii
      have one : Char.ofNat (UInt8.ofNat char.toNat).toNat = char := by
        rw [UInt8.toNat_ofNat', Nat.mod_eq_of_lt (by omega), Char.ofNat_toNat]
      rw [toBytes, List.map_cons, ofBytes, List.map_cons, one]
      exact congrArg (char :: ·) (ih others)

theorem isSessionIdFrom_group {index count : Nat} (long : count ≤ text.length)
    (digits : ∀ position, index ≤ position → position < index + count →
      ¬ (position = 8 ∨ position = 13 ∨ position = 18 ∨ position = 23))
    (valid : isSessionIdFrom index text = true) :
    (∀ char ∈ text.take count, Python.isLowerHex char = true) ∧
      isSessionIdFrom (index + count) (text.drop count) = true := by
  induction count generalizing index text with
  | zero => exact ⟨by simp, valid⟩
  | succ count ih =>
      cases text with
      | nil => exact absurd long (by simp)
      | cons char text =>
          rw [isSessionIdFrom, if_neg (digits index le_rfl (by omega)), Bool.and_eq_true] at valid
          have rest := ih (Nat.le_of_succ_le_succ long)
            (fun position least most => digits position (by omega) (by omega)) valid.2
          refine ⟨List.forall_mem_cons.mpr ⟨valid.1, rest.1⟩, ?_⟩
          rw [List.drop_succ_cons, show index + (count + 1) = index + 1 + count by omega]
          exact rest.2

/-- A group of digits and the hyphen that ends it. -/
theorem exists_group {index : Nat} (count : Nat) (long : count < text.length)
    (digits : ∀ position, index ≤ position → position < index + count →
      ¬ (position = 8 ∨ position = 13 ∨ position = 18 ∨ position = 23))
    (hyphen : index + count = 8 ∨ index + count = 13 ∨ index + count = 18 ∨ index + count = 23)
    (valid : isSessionIdFrom index text = true) :
    ∃ group rest, text = group ++ '-' :: rest ∧ group.length = count ∧
      (∀ char ∈ group, Python.isLowerHex char = true) ∧
      isSessionIdFrom (index + count + 1) rest = true := by
  obtain ⟨lower, after⟩ := isSessionIdFrom_group long.le digits valid
  obtain ⟨char, rest, shape⟩ := List.exists_cons_of_ne_nil
    (show text.drop count ≠ [] by simpa using long)
  rw [shape, isSessionIdFrom, if_pos hyphen, Bool.and_eq_true, beq_iff_eq] at after
  obtain ⟨rfl, after⟩ := after
  exact ⟨text.take count, rest, by rw [← shape, List.take_append_drop], by simp; omega, lower, after⟩

/-- The session ids of the service are the identifiers as Python writes them. -/
theorem isUuidText_of_isSessionId (valid : isSessionId text = true) :
    Python.IsUuidText (.ofList text) := by
  rw [isSessionId, Bool.and_eq_true, beq_iff_eq] at valid
  obtain ⟨long, valid⟩ := valid
  obtain ⟨first, rest, rfl, eight, lowerFirst, valid⟩ :=
    exists_group 8 (by omega) (by omega) (by omega) valid
  simp only [List.length_append, List.length_cons, eight] at long
  obtain ⟨second, rest, rfl, four, lowerSecond, valid⟩ :=
    exists_group 4 (by omega) (by omega) (by omega) valid
  simp only [List.length_append, List.length_cons, four] at long
  obtain ⟨third, rest, rfl, four', lowerThird, valid⟩ :=
    exists_group 4 (by omega) (by omega) (by omega) valid
  simp only [List.length_append, List.length_cons, four'] at long
  obtain ⟨fourth, rest, rfl, four'', lowerFourth, valid⟩ :=
    exists_group 4 (by omega) (by omega) (by omega) valid
  simp only [List.length_append, List.length_cons, four''] at long
  have lowerFifth := (@isSessionIdFrom_group rest _ rest.length le_rfl (by omega) valid).1
  rw [List.take_length] at lowerFifth
  refine ⟨first, second, third, fourth, rest, by simp, ⟨eight, four, four', four'', by omega⟩, ?_⟩
  intro char member
  simp only [List.mem_append] at member
  rcases member with (((member | member) | member) | member) | member
  · exact lowerFirst char member
  · exact lowerSecond char member
  · exact lowerThird char member
  · exact lowerFourth char member
  · exact lowerFifth char member

theorem isDigest_of_isLowerHex (valid : isLowerHex text 64 = true) :
    isDigest (.ofList text) = true := by
  rw [isLowerHex, Bool.and_eq_true, List.all_eq_true] at valid
  rw [isDigest, String.toList_ofList, Bool.and_eq_true, List.all_eq_true]
  refine ⟨valid.1, fun char member => ?_⟩
  obtain ⟨digit, small, rfl⟩ := Python.exists_digitChar (valid.2 char member)
  have every : ∀ digit : Fin 16,
      "0123456789abcdef".toList.contains (Nat.digitChar digit) = true := by decide
  exact every ⟨digit, small⟩

/-- The digest and the session id that an accepted request has. -/
def ServiceRequest.Identified (request : ServiceRequest) : Prop :=
  isLowerHex request.planDigest.toList 64 = true ∧ isSessionId request.sessionId.toList = true

theorem isLowerHex_of_parseDigestAndVersion {planDigest rest : List Char}
    (parsed : parseDigestAndVersion text = some (planDigest, rest)) :
    isLowerHex planDigest 64 = true := by
  simp only [parseDigestAndVersion, Option.bind_eq_bind, Option.bind_eq_some_iff,
    Option.guard_eq_some', Option.pure_def, Option.some.injEq, Prod.mk.injEq] at parsed
  obtain ⟨_, _, ⟨digest, _⟩, _, _, valid, _, _, _, _, _, _, rfl, _⟩ := parsed
  exact valid

theorem isSessionId_of_parseSession {sessionId : List Char}
    (parsed : parseSession text = some sessionId) : isSessionId sessionId = true := by
  simp only [parseSession, Option.bind_eq_bind, Option.bind_eq_some_iff,
    Option.guard_eq_some', Option.pure_def, Option.some.injEq] at parsed
  obtain ⟨⟨session, _⟩, _, _, valid, _, _, _, _, rfl⟩ := parsed
  exact valid

theorem identified_of_parseApply (parsed : parseApply text = some request) :
    request.Identified := by
  simp only [parseApply, Option.bind_eq_bind, Option.bind_eq_some_iff, Option.guard_eq_some',
    Option.pure_def, Option.some.injEq] at parsed
  obtain ⟨_, _, ⟨applications, proxyPort, _⟩, _, _, _, _, _, ⟨digest, _⟩, digestRead, _, _, ⟨port, _⟩, _, _, _,
    _, _, ⟨pid, _⟩, _, _, _, _, _, session, sessionRead, rfl⟩ := parsed
  exact ⟨by simpa using isLowerHex_of_parseDigestAndVersion digestRead,
    by simpa using isSessionId_of_parseSession sessionRead⟩

theorem identified_of_parseRestore (parsed : parseRestore text = some request) :
    request.Identified := by
  simp only [parseRestore, parseProtocolAndSession, Option.bind_eq_bind, Option.bind_eq_some_iff,
    Option.pure_def, Option.some.injEq] at parsed
  obtain ⟨_, _, _, _, _, ⟨⟨digest, _⟩, digestRead, _, _, session, sessionRead, rfl⟩, rfl⟩ := parsed
  exact ⟨by simpa using isLowerHex_of_parseDigestAndVersion digestRead,
    by simpa using isSessionId_of_parseSession sessionRead⟩

theorem identified_of_parseServiceRequest (accepted : parseServiceRequest data = .ok request) :
    request.Identified := by
  unfold parseServiceRequest at accepted
  dsimp only at accepted
  split at accepted
  · cases accepted
  · split at accepted
    · split at accepted
      · rename_i parsed
        exact Except.ok.inj accepted ▸ identified_of_parseApply parsed
      · cases accepted
    · split at accepted
      · rename_i parsed
        exact Except.ok.inj accepted ▸ identified_of_parseRestore parsed
      · cases accepted

theorem plain_of_isLowerHex {char : Char} (lower : Python.isLowerHex char = true) :
    (32 ≤ char.toNat ∧ char ≠ '"' ∧ char ≠ '\\') ∧ char.toNat < 128 := by
  have bounds : 48 ≤ char.toNat ∧ char.toNat ≤ 57 ∨ 97 ≤ char.toNat ∧ char.toNat ≤ 102 := by
    simpa [Python.isLowerHex] using lower
  exact ⟨⟨by omega, Python.ne_of_isLowerHex lower (by decide),
    Python.ne_of_isLowerHex lower (by decide)⟩, by omega⟩

theorem mem_of_isSessionIdFrom {index : Nat} {text : List Char} {char : Char}
    (valid : isSessionIdFrom index text = true) (member : char ∈ text) :
    char = '-' ∨ Python.isLowerHex char = true := by
  induction text generalizing index with
  | nil => cases member
  | cons head text ih =>
      rw [isSessionIdFrom, Bool.and_eq_true] at valid
      rcases List.mem_cons.mp member with rfl | member
      · split at valid
        · exact .inl (beq_iff_eq.mp valid.1)
        · exact .inr valid.1
      · exact ih valid.2 member

theorem ServiceRequest.Identified.plain (identified : request.Identified) :
    ∀ char ∈ request.planDigest.toList ++ request.sessionId.toList,
      (32 ≤ char.toNat ∧ char ≠ '"' ∧ char ≠ '\\') ∧ char.toNat < 128 := by
  obtain ⟨digest, session⟩ := identified
  rw [isLowerHex, Bool.and_eq_true, List.all_eq_true] at digest
  rw [isSessionId, Bool.and_eq_true] at session
  intro char member
  rcases List.mem_append.mp member with member | member
  · exact plain_of_isLowerHex (digest.2 char member)
  · rcases mem_of_isSessionIdFrom session.2 member with rfl | lower
    · decide
    · exact plain_of_isLowerHex lower

theorem readChars_append {room : Nat} {value rest : List Char} (short : value.length ≤ room)
    (plain : ∀ char ∈ value, 0x20 ≤ char.toNat ∧ char.toNat ≤ 0x7e ∧ char ≠ '"' ∧ char ≠ '\\') :
    Cursor.readChars room (value ++ '"' :: rest) = some (value, rest) := by
  induction value generalizing room with
  | nil => cases room <;> rfl
  | cons char value ih =>
      obtain ⟨⟨least, most, quotation, backslash⟩, others⟩ := List.forall_mem_cons.mp plain
      cases room with
      | zero => exact absurd short (by simp)
      | succ room =>
          have refused : ¬ (char.toNat < 0x20 ∨ 0x7e < char.toNat ∨ char = '\\') := by
            simp only [not_or, not_lt]
            exact ⟨least, most, backslash⟩
          rw [List.cons_append, Cursor.readChars, if_neg refused,
            ih (Nat.le_of_succ_le_succ short) others]
          · rfl
          · exact fun same => quotation same

/-- A text that the cursor reads as a string. -/
def Quotable (value : List Char) : Prop :=
  value.length ≤ 64 ∧
    ∀ char ∈ value, 0x20 ≤ char.toNat ∧ char.toNat ≤ 0x7e ∧ char ≠ '"' ∧ char ≠ '\\'

theorem Quotable.readString {value rest : List Char} (quotable : Quotable value) :
    Cursor.readString 64 ('"' :: (value ++ '"' :: rest)) = some (value, rest) :=
  readChars_append quotable.1 quotable.2

theorem parseResources_commaSeparated {resources : List String}
    (quotable : ∀ resource ∈ resources, Quotable resource.toList) (rest : List Char) :
    parseResources resources
        (Python.commaSeparated (resources.map fun resource => '"' :: resource.toList ++ ['"']) ++
          rest) = some rest := by
  induction resources with
  | nil => rfl
  | cons resource resources ih =>
      obtain ⟨first, others⟩ := List.forall_mem_cons.mp quotable
      rw [parseResources]
      cases resources with
      | nil =>
          simp [Python.commaSeparated, first.readString, parseResources]
      | cons next resources =>
          have again := ih others
          rw [List.map_cons, List.map_cons, Python.commaSeparated, List.intercalate_cons_cons]
          simp only [List.cons_append, List.append_assoc, List.nil_append, first.readString]
          simpa [Python.expectText, Python.commaSeparated] using again

theorem quotable_resources : ∀ resource ∈ kOwnedResources, Quotable resource.toList := by
  have all : (kOwnedResources.all fun resource => resource.toList.length ≤ 64 &&
      resource.toList.all fun char =>
        0x20 ≤ char.toNat && char.toNat ≤ 0x7e && char ≠ '"' && char ≠ '\\') = true := by
    unfold kOwnedResources
    simp only [List.all_cons, List.all_nil]
    repeat rw [String.toList_ofList]
    decide
  intro resource owned
  have checked := List.all_eq_true.mp all resource owned
  simp only [Bool.and_eq_true, List.all_eq_true, decide_eq_true_eq] at checked
  exact ⟨checked.1, fun char member => by simpa [and_assoc] using checked.2 char member⟩

theorem parseOwnedResources_appendResources (rest : List Char) :
    parseOwnedResources (appendResources ++ rest) = some rest := by
  have read := parseResources_commaSeparated quotable_resources (']' :: rest)
  simp only [parseOwnedResources, appendResources, List.cons_append, List.append_assoc,
    List.nil_append] at read ⊢
  simp [Python.expectText, read]

/-- The service reads a request to restore, with any spelling of the protocol version. -/
theorem parseRestore_text {digest version session : List Char}
    (lower : isLowerHex digest 64 = true) (valid : isSessionId session = true)
    (spelled : ∀ rest, Cursor.readUInt (version ++ ',' :: rest) = some (1, ',' :: rest)) :
    parseRestore ("\x7b\"command\":\"restore\",\"owned_resources\":".toList ++ (appendResources ++
      (",\"plan_digest\":".toList ++ '"' :: (digest ++ '"' ::
        (",\"protocol_version\":".toList ++ (version ++ (",\"session_id\":".toList ++
          '"' :: (session ++ ['"', '\x7d'])))))))) =
      some { command := .restore, sessionId := .ofList session, planDigest := .ofList digest } := by
  have hexadecimal {char : Char} (lower : Python.isLowerHex char = true) :
      0x20 ≤ char.toNat ∧ char.toNat ≤ 0x7e ∧ char ≠ '"' ∧ char ≠ '\\' := by
    obtain ⟨⟨least, quotation, backslash⟩, -⟩ := plain_of_isLowerHex lower
    have bounds : 48 ≤ char.toNat ∧ char.toNat ≤ 57 ∨ 97 ≤ char.toNat ∧ char.toNat ≤ 102 := by
      simpa [Python.isLowerHex] using lower
    exact ⟨least, by omega, quotation, backslash⟩
  have quotableDigest : Quotable digest := by
    rw [isLowerHex, Bool.and_eq_true, List.all_eq_true, beq_iff_eq] at lower
    exact ⟨lower.1.le, fun char member => hexadecimal (lower.2 char member)⟩
  have sessionRead : Cursor.readString 36 ('"' :: (session ++ ['"', '\x7d'])) =
      some (session, ['\x7d']) := by
    rw [isSessionId, Bool.and_eq_true, beq_iff_eq] at valid
    refine readChars_append valid.1.le fun char member => ?_
    rcases mem_of_isSessionIdFrom valid.2 member with rfl | lower
    · decide
    · exact hexadecimal lower
  have versionRead (rest : List Char) :
      Cursor.readUInt (version ++ (",\"session_id\":".toList ++ rest)) =
        some (1, ",\"session_id\":".toList ++ rest) := by
    rw [String.toList_ofList]
    exact spelled _
  simp [parseRestore, parseProtocolAndSession, parseDigestAndVersion, parseSession,
    parseOwnedResources_appendResources, quotableDigest.readString, lower, valid, versionRead,
    sessionRead, kProtocolVersion, Python.expectText, -String.reduceToList]

theorem parseServiceRequest_of_parseRestore
    (ascii : text.all (fun char => char.toNat < 128) = true)
    (length : 0 < text.length ∧ text.length ≤ 1024 * 1024)
    (command : ¬ "\x7b\"applications\":".toList <+: text)
    (parsed : parseRestore text = some request) :
    parseServiceRequest (toBytes text) = .ok request := by
  have frame : ¬ (toBytes text = [] ∨ 1024 * 1024 < (toBytes text).length) := by
    rw [← List.length_eq_zero_iff, toBytes, List.length_map]
    omega
  have known : ∀ char ∈ text, char.toNat < 128 := by simpa using ascii
  rw [parseServiceRequest, if_neg frame, ofBytes_toBytes known, if_neg fun apply => command apply.2,
    parsed]

end ProxyLauncher.WinDivert
