import ProxyLauncher.WinDivert.Spelling

/-!
# Canonical requests

The service parses a request field by field and compares no spelling.  A request that it accepts
is spelled as the launcher spells it, unless a number starts with a zero.
-/

namespace ProxyLauncher.WinDivert

open Python (Bytes natText commaSeparated)

variable {data : Bytes} {request : ServiceRequest} {text rest : List Char}
  {application : ApplicationSpec}

/-- The characters of digests, sessions and rules. -/
def Bare (text : List Char) : Prop :=
  ∀ char ∈ text, char.isAlphanum = true ∨ char = '.' ∨ char = '_' ∨ char = '-'

theorem Bare.plain (bare : Bare text) : Plain text ∧ ':' ∉ text := by
  have alphanumeric {char : Char} (valid : char.isAlphanum = true) :
      (32 ≤ char.toNat ∧ char.toNat ≤ 126 ∧ char ≠ '"' ∧ char ≠ '\\') ∧ char ≠ ':' := by
    refine ⟨⟨?_, ?_, ?_, ?_⟩, ?_⟩
    · simp [Char.isAlphanum, Char.isAlpha, Char.isUpper, Char.isLower, Char.isDigit, UInt32.le_iff_toNat_le] at valid; omega
    · simp [Char.isAlphanum, Char.isAlpha, Char.isUpper, Char.isLower, Char.isDigit, UInt32.le_iff_toNat_le] at valid; omega
    all_goals
      rintro rfl
      exact absurd valid (by decide)
  constructor
  · intro char member
    rcases bare char member with valid | rfl | rfl | rfl
    · exact (alphanumeric valid).1
    all_goals decide
  · intro member
    rcases bare ':' member with valid | same | same | same
    · exact (alphanumeric valid).2 rfl
    all_goals exact absurd same (by decide)

theorem isAlphanum_of_isLowerHex {char : Char} (lower : Python.isLowerHex char = true) :
    char.isAlphanum = true := by
  obtain ⟨digit, small, rfl⟩ := Python.exists_digitChar lower
  have every : ∀ digit : Fin 16, (Nat.digitChar digit).isAlphanum = true := by decide
  exact every ⟨digit, small⟩

theorem bare_of_isLowerHex {length : Nat} (valid : isLowerHex text length = true) : Bare text := by
  rw [isLowerHex, Bool.and_eq_true, List.all_eq_true] at valid
  exact fun char member => .inl (isAlphanum_of_isLowerHex (valid.2 char member))

theorem bare_of_isSessionIdFrom {index : Nat} (valid : isSessionIdFrom index text = true) :
    Bare text := by
  induction text generalizing index with
  | nil => exact fun _ member => absurd member List.not_mem_nil
  | cons head text ih =>
      rw [isSessionIdFrom, Bool.and_eq_true] at valid
      refine List.forall_mem_cons.mpr ⟨?_, ih valid.2⟩
      have first := valid.1
      split at first
      · exact .inr (.inr (.inr (beq_iff_eq.mp first)))
      · exact .inl (isAlphanum_of_isLowerHex first)

theorem bare_of_isRuleId (valid : isRuleId text = true) : Bare text := by
  unfold isRuleId at valid
  split at valid
  · cases valid
  · simp only [Bool.and_eq_true, List.all_eq_true, Bool.or_eq_true, beq_iff_eq] at valid
    intro char member
    rcases valid.2 char member with ((letter | dot) | line) | hyphen
    · exact .inl letter
    · exact .inr (.inl dot)
    · exact .inr (.inr (.inl line))
    · exact .inr (.inr (.inr hyphen))

/-- The strings and numbers of an application that was accepted. -/
structure ApplicationSpec.Accepted (application : ApplicationSpec) : Prop where
  path : Bare application.applicationPathSha256.toList
  port : 0 < application.localProxyPort.toNat
  rule : Bare application.ruleId.toList

/-- The strings and numbers of a request that was accepted. -/
structure ServiceRequest.Accepted (request : ServiceRequest) : Prop where
  digest : Bare request.planDigest.toList
  session : Bare request.sessionId.toList
  applications : ∀ application ∈ request.applications, application.Accepted
  ports : request.command = .applyPlan →
    0 < request.directListenerPort.toNat ∧ 0 < request.proxyPid.toNat

theorem accepted_of_parseApplication (parsed : parseApplication text = some (application, rest)) :
    application.Accepted := by
  simp only [parseApplication, Option.bind_eq_bind, Option.bind_eq_some_iff,
    Option.guard_eq_some', Option.pure_def, Option.some.injEq, Prod.mk.injEq,
    -String.reduceToList] at parsed
  obtain ⟨_, _, ⟨path, _⟩, _, _, lower, _, _, ⟨port, _⟩, _, _, ⟨positive, most⟩, _, _, ⟨rule, _⟩, _,
    _, valid, _, _, rfl, rfl⟩ := parsed
  exact ⟨by simpa using bare_of_isLowerHex lower, by simp; omega,
    by simpa using bare_of_isRuleId valid⟩

theorem accepted_of_parseApplicationsFrom {room : Nat} {before applications : List ApplicationSpec}
    {proxyPort foundPort : UInt16}
    (parsed : parseApplicationsFrom room before proxyPort text =
      some (applications, foundPort, rest))
    (known : ∀ application ∈ before, application.Accepted) :
    ∀ application ∈ applications, application.Accepted := by
  induction room generalizing before proxyPort text with
  | zero => cases parsed
  | succ room ih =>
      simp only [parseApplicationsFrom, Option.bind_eq_bind, Option.bind_eq_some_iff,
        Option.guard_eq_some', Option.pure_def] at parsed
      obtain ⟨⟨application, cursor⟩, first, _, agree, parsed⟩ := parsed
      have more : ∀ other ∈ before ++ [application], other.Accepted := by
        rw [List.forall_mem_append]
        exact ⟨known, List.forall_mem_singleton.mpr (accepted_of_parseApplication first)⟩
      dsimp only at parsed
      split at parsed
      · simp only [Option.some.injEq, Prod.mk.injEq] at parsed
        obtain ⟨rfl, rfl, rfl⟩ := parsed
        exact more
      · exact ih parsed more
      · cases parsed

theorem accepted_of_parseApply (parsed : parseApply text = some request) : request.Accepted := by
  have identified := identified_of_parseApply parsed
  simp only [parseApply, Option.bind_eq_bind, Option.bind_eq_some_iff, Option.guard_eq_some',
    Option.pure_def, Option.some.injEq, -String.reduceToList] at parsed
  obtain ⟨_, first, ⟨applications, proxyPort, _⟩, second, _, third, _, fourth, ⟨digest, _⟩, fifth,
    _, sixth, ⟨port, _⟩, seventh, _, portValid, _, eighth, ⟨pid, _⟩, ninth, _, pidValid, _, tenth,
    session, eleventh, rfl⟩ := parsed
  simp only [parseApplications, Option.bind_eq_bind, Option.bind_eq_some_iff,
    Option.guard_eq_some'] at second
  obtain ⟨cursor, opened, _, _, second⟩ := second
  have most := le_of_readUInt ninth
  refine ⟨bare_of_isLowerHex identified.1, bare_of_isSessionIdFrom
    (Bool.and_eq_true_iff.mp identified.2).2,
    accepted_of_parseApplicationsFrom second (by simp), fun _ => ⟨?_, ?_⟩⟩
  · simp
    omega
  · simp
    omega

theorem accepted_of_parseRestore (parsed : parseRestore text = some request) :
    request.Accepted := by
  have identified := identified_of_parseRestore parsed
  simp only [parseRestore, Option.bind_eq_bind, Option.bind_eq_some_iff,
    Option.pure_def, Option.some.injEq, -String.reduceToList] at parsed
  obtain ⟨_, _, _, _, ⟨digest, session⟩, _, rfl⟩ := parsed
  exact ⟨bare_of_isLowerHex identified.1, bare_of_isSessionIdFrom
    (Bool.and_eq_true_iff.mp identified.2).2, by simp, by simp⟩

theorem leadingZero_append_of_last {front : List Char} (last : front.getLast? ≠ some ':')
    (clean : leadingZero front = false) (after : leadingZero rest = false) :
    leadingZero (front ++ rest) = false := by
  induction front with
  | nil => exact after
  | cons char front ih =>
      rw [leadingZero, Bool.or_eq_false_iff] at clean
      rw [List.cons_append, leadingZero, Bool.or_eq_false_iff]
      cases front with
      | nil =>
          have other : char ≠ ':' := by simpa using last
          exact ⟨by rw [beq_false_of_ne other]; rfl, after⟩
      | cons next front => exact ⟨clean.1, ih (by simpa using last) clean.2⟩

/-- A piece of a text in ASCII that no zero starts, no colon ends, and no number with a leading
zero is in. -/
structure Tidy (text : List Char) : Prop where
  head : text.head? ≠ some '0'
  last : text.getLast? ≠ some ':'
  clean : leadingZero text = false
  ascii : ∀ char ∈ text, char.toNat < 128

theorem Tidy.append {front : List Char} (first : Tidy front) (second : Tidy rest) :
    Tidy (front ++ rest) := by
  refine ⟨?_, ?_, ?_, List.forall_mem_append.mpr ⟨first.ascii, second.ascii⟩⟩
  · cases front with
    | nil => exact second.head
    | cons char front => exact first.head
  · rcases List.eq_nil_or_concat rest with rfl | ⟨others, final, rfl⟩
    · rw [List.append_nil]
      exact first.last
    · rw [List.getLast?_append_of_ne_nil _ (by simp)]
      exact second.last
  · exact leadingZero_append_of_last first.last first.clean second.clean

theorem tidy_of_colonless (colon : ':' ∉ text) (head : text.head? ≠ some '0')
    (ascii : ∀ char ∈ text, char.toNat < 128) : Tidy text := by
  refine ⟨head, ?_, ?_, ascii⟩
  · intro last
    exact colon (List.mem_of_getLast? last)
  · have clean := @leadingZero_append text [] colon
    rw [List.append_nil] at clean
    rw [clean]
    rfl

theorem tidy_stringText {value : String} (plain : Plain value.toList) (colon : ':' ∉ value.toList) :
    Tidy (stringText value) := by
  refine tidy_of_colonless ?_ (by simp [stringText]) ?_
  · simpa [stringText] using colon
  · simp only [stringText, List.forall_mem_cons, List.forall_mem_append]
    exact ⟨by simp, fun char member => Nat.lt_of_le_of_lt (plain char member).2.1 (by decide),
      by simp⟩

theorem tidy_natText {number : Nat} (positive : 0 < number) : Tidy (natText number) := by
  refine tidy_of_colonless ?_ (Python.head_natText positive) ?_
  · intro member
    exact absurd (Python.isDigit_of_mem_natText member) (by decide)
  · intro char member
    obtain ⟨value, small, rfl, -⟩ := exists_digit (Python.isDigit_of_mem_natText member)
    have every : ∀ value : Fin 10, (Nat.digitChar value).toNat < 128 := by decide
    exact every ⟨value, small⟩

theorem tidy_memberText {key : String} {value : List Char} (tidyKey : Tidy (stringText key))
    (tidy : Tidy value) (some : value ≠ []) : Tidy (memberText key value) := by
  refine tidyKey.append ⟨by simp, ?_, ?_, List.forall_mem_cons.mpr ⟨by simp, tidy.ascii⟩⟩
  · rw [List.getLast?_cons_of_ne_nil some]
    exact tidy.last
  · rw [leadingZero_colon, tidy.clean, beq_false_of_ne tidy.head]
    rfl

theorem tidy_commaSeparated {texts : List (List Char)} (every : ∀ text ∈ texts, Tidy text) :
    Tidy (commaSeparated texts) := by
  have comma : Tidy [','] := tidy_of_colonless (by decide) (by decide) (by simp)
  induction texts with
  | nil => exact @tidy_of_colonless [] (by simp) (by simp) (by simp)
  | cons text texts ih =>
      obtain ⟨first, others⟩ := List.forall_mem_cons.mp every
      by_cases more : texts = []
      · rw [more, commaSeparated, List.intercalate_singleton]
        exact first
      · rw [commaSeparated_cons more]
        exact first.append (comma.append (ih others))

theorem tidy_objectText {members : List (List Char)} (every : ∀ text ∈ members, Tidy text) :
    Tidy (objectText members) := by
  have brace : Tidy ['\x7b'] ∧ Tidy ['\x7d'] :=
    ⟨tidy_of_colonless (by decide) (by decide) (by simp),
      tidy_of_colonless (by decide) (by decide) (by simp)⟩
  exact brace.1.append ((tidy_commaSeparated every).append brace.2)

theorem tidy_appendResources : Tidy appendResources := by
  refine tidy_of_colonless ?_ ?_ fun char member => (plain_appendResources char member).1
  · exact fun member => (plain_appendResources ':' member).2 rfl
  · rw [appendResources]
    simp

/-- The keys and the commands have no colon. -/
theorem colonless_keys :
    ∀ text ∈ ["application_path_sha256", "local_proxy_port", "rule_id", "applications", "command",
      "direct_listener_port", "owned_resources", "pid", "plan_digest", "protocol_version", "proxy",
      "session_id", "apply_plan", "restore"], isPlain text = true ∧ ':' ∉ text.toList := by
  simp only [List.forall_mem_cons, isPlain]
  repeat rw [String.toList_ofList]
  decide

theorem tidy_key {key : String} (known : key ∈ ["application_path_sha256", "local_proxy_port",
      "rule_id", "applications", "command", "direct_listener_port", "owned_resources", "pid",
      "plan_digest", "protocol_version", "proxy", "session_id", "apply_plan", "restore"]) :
    Tidy (stringText key) := by
  obtain ⟨plain, colon⟩ := colonless_keys key known
  exact tidy_stringText (plain_of_isPlain plain) colon

theorem Bare.tidy {value : String} (bare : Bare value.toList) : Tidy (stringText value) :=
  tidy_stringText bare.plain.1 bare.plain.2

theorem stringText_ne_nil (value : String) : stringText value ≠ [] := by simp [stringText]

theorem objectText_ne_nil (members : List (List Char)) : objectText members ≠ [] := by
  simp [objectText]

theorem ApplicationSpec.Accepted.tidy (accepted : application.Accepted) :
    Tidy application.text := by
  refine tidy_objectText ?_
  simp only [List.forall_mem_cons]
  exact ⟨tidy_memberText (tidy_key (by simp)) accepted.path.tidy (stringText_ne_nil _),
    tidy_memberText (tidy_key (by simp)) (tidy_natText accepted.port) Nat.toDigits_ne_nil,
    tidy_memberText (tidy_key (by simp)) accepted.rule.tidy (stringText_ne_nil _), by simp⟩

/-- The launcher writes no number with a leading zero. -/
theorem ServiceRequest.Accepted.tidy (accepted : request.Accepted) : Tidy request.text := by
  have member {key : String} {value : List Char} (known : key ∈ ["application_path_sha256",
        "local_proxy_port", "rule_id", "applications", "command", "direct_listener_port",
        "owned_resources", "pid", "plan_digest", "protocol_version", "proxy", "session_id",
        "apply_plan", "restore"]) (tidy : Tidy value) (some : value ≠ []) :
      Tidy (memberText key value) := tidy_memberText (tidy_key known) tidy some
  have resources : Tidy (memberText "owned_resources" appendResources) :=
    member (by simp) tidy_appendResources (by simp [appendResources])
  have digest : Tidy (memberText "plan_digest" (stringText request.planDigest)) :=
    member (by simp) accepted.digest.tidy (stringText_ne_nil _)
  have version : Tidy (memberText "protocol_version" (natText kProtocolVersion)) :=
    member (by simp) (tidy_natText (by decide)) Nat.toDigits_ne_nil
  have session : Tidy (memberText "session_id" (stringText request.sessionId)) :=
    member (by simp) accepted.session.tidy (stringText_ne_nil _)
  unfold ServiceRequest.text
  cases shape : request.command with
  | restore =>
      refine tidy_objectText ?_
      simp only [List.forall_mem_cons]
      exact ⟨member (by simp) (tidy_key (by simp)) (stringText_ne_nil _), resources, digest,
        version, session, by simp⟩
  | applyPlan =>
      obtain ⟨port, pid⟩ := accepted.ports shape
      have bracket : Tidy ['['] ∧ Tidy [']'] :=
        ⟨tidy_of_colonless (by decide) (by decide) (by simp),
          tidy_of_colonless (by decide) (by decide) (by simp)⟩
      have applications : Tidy
          ('[' :: (commaSeparated (request.applications.map ApplicationSpec.text) ++ [']'])) := by
        refine bracket.1.append (Tidy.append (tidy_commaSeparated ?_) bracket.2)
        rw [List.forall_mem_map]
        exact fun application member => (accepted.applications application member).tidy
      have proxy : Tidy (objectText
          [memberText "direct_listener_port" (natText request.directListenerPort.toNat),
            memberText "pid" (natText request.proxyPid.toNat)]) := by
        refine tidy_objectText ?_
        simp only [List.forall_mem_cons]
        exact ⟨member (by simp) (tidy_natText port) Nat.toDigits_ne_nil,
          member (by simp) (tidy_natText pid) Nat.toDigits_ne_nil, by simp⟩
      refine tidy_objectText ?_
      simp only [List.forall_mem_cons]
      exact ⟨member (by simp) applications (by simp),
        member (by simp) (tidy_key (by simp)) (stringText_ne_nil _), resources, digest, version,
        member (by simp) proxy (objectText_ne_nil _), session, by simp⟩

theorem ServiceRequest.Accepted.plainStrings (accepted : request.Accepted) :
    request.PlainStrings :=
  ⟨accepted.session.plain.1, accepted.digest.plain.1, fun application member =>
    ⟨(accepted.applications application member).rule.plain.1,
      (accepted.applications application member).path.plain.1⟩⟩

theorem ServiceRequest.Accepted.encoded_eq (accepted : request.Accepted) :
    request.encoded = toBytes request.text := by
  rw [ServiceRequest.encoded, dumps_payload accepted.plainStrings,
    encodeUtf8_ofList accepted.tidy.ascii]

theorem toBytes_ofBytes (data : Bytes) : toBytes (ofBytes data) = data := by
  induction data with
  | nil => rfl
  | cons byte data ih =>
      have valid : byte.toNat.isValidChar := .inl (byte.toNat_lt.trans (by decide))
      have one : UInt8.ofNat (Char.ofNat byte.toNat).toNat = byte := by
        rw [Char.ofNat, dif_pos valid]
        exact UInt8.ofNat_toNat
      rw [ofBytes, List.map_cons, toBytes, List.map_cons, one]
      exact congrArg (byte :: ·) ih

/-- An accepted request is one of the two kinds. -/
theorem parsed_of_parseServiceRequest (accepted : parseServiceRequest data = .ok request) :
    parseApply (ofBytes data) = some request ∨ parseRestore (ofBytes data) = some request := by
  unfold parseServiceRequest at accepted
  dsimp only at accepted
  split at accepted
  · cases accepted
  · split at accepted
    · split at accepted
      · rename_i parsed
        exact .inl (Except.ok.inj accepted ▸ parsed)
      · cases accepted
    · split at accepted
      · rename_i parsed
        exact .inr (Except.ok.inj accepted ▸ parsed)
      · cases accepted

/-- Encoding an accepted request gives back its bytes exactly when no number of them starts with
a zero. -/
theorem encoded_eq_iff (accepted : parseServiceRequest data = .ok request) :
    request.encoded = data ↔ leadingZero (ofBytes data) = false := by
  have parsed := parsed_of_parseServiceRequest accepted
  have known : request.Accepted := by
    rcases parsed with parsed | parsed
    · exact accepted_of_parseApply parsed
    · exact accepted_of_parseRestore parsed
  rw [known.encoded_eq]
  constructor
  · intro same
    rw [← same, ofBytes_toBytes known.tidy.ascii]
    exact known.tidy.clean
  · intro clean
    have spelled : ofBytes data = request.text := by
      rcases parsed with parsed | parsed
      · exact eq_of_parseApply clean parsed
      · exact eq_of_parseRestore clean parsed
    rw [← spelled, toBytes_ofBytes]

/-- A request that is accepted is encoded as its bytes exactly when they have no number with a
leading zero, and no other such bytes are the same request. -/
theorem request_canonical_iff (accepted : parseServiceRequest data = .ok request) :
    (request.encoded = data ∧ ∀ other, parseServiceRequest other = .ok request →
      ¬ [':', '0'] <:+: ofBytes other → other = data) ↔ ¬ [':', '0'] <:+: ofBytes data := by
  rw [← leadingZero_iff, Bool.not_eq_true, ← encoded_eq_iff accepted]
  refine ⟨And.left, fun same => ⟨same, fun other again clean => ?_⟩⟩
  rw [← leadingZero_iff, Bool.not_eq_true, ← encoded_eq_iff again] at clean
  rw [← clean, same]

def versionRequest : ServiceRequest :=
  { command := .restore
    sessionId := "00000000-0000-0000-0000-000000000000"
    planDigest := "0000000000000000000000000000000000000000000000000000000000000000" }

/-- The text of the sample with a spelling of the version. -/
def restoreText (version : List Char) : List Char :=
  "\x7b\"command\":\"restore\",\"owned_resources\":".toList ++ appendResources ++
  ",\"plan_digest\":\"".toList ++ List.replicate 64 '0' ++
  "\",\"protocol_version\":".toList ++ version ++
  ",\"session_id\":\"00000000-0000-0000-0000-000000000000\"\x7d".toList

set_option maxRecDepth 4096 in
theorem accepted_restoreText : ∀ version ∈ [['1'], ['0', '1'], ['0', '0', '1']],
    parseServiceRequest (toBytes (restoreText version)) = .ok versionRequest := by
  intro version spelling
  have parsed := @parseRestore_text (List.replicate 64 '0') version
    "00000000-0000-0000-0000-000000000000".toList (by decide) (by
      rw [String.toList_ofList]
      decide) (by
      intro rest
      fin_cases spelling <;> rfl)
  rw [String.ofList_toList] at parsed
  refine parseServiceRequest_of_parseRestore ?_ ?_ ?_ (.trans (congrArg parseRestore ?_) parsed)
  all_goals
    unfold restoreText appendResources kOwnedResources
    repeat rw [String.toList_ofList]
    fin_cases spelling
  all_goals first | rfl | decide

theorem request_canonical_sample :
    (versionRequest.encoded = toBytes (restoreText ['1']) ∧
      ∀ other, parseServiceRequest other = .ok versionRequest →
        ¬ [':', '0'] <:+: ofBytes other → other = toBytes (restoreText ['1'])) ↔
      ¬ [':', '0'] <:+: ofBytes (toBytes (restoreText ['1'])) :=
  request_canonical_iff (accepted_restoreText ['1'] (by simp))

/-- Three spellings of the version are one request, and two of them are not the launcher's. -/
theorem version_spelled_with_zeros :
    ¬ ((∀ data request, parseServiceRequest data = .ok request → request.encoded = data) ∨
      ∀ first second request, parseServiceRequest first = .ok request →
        parseServiceRequest second = .ok request → first = second) := by
  have different : toBytes (restoreText ['0', '1']) ≠ toBytes (restoreText ['0', '0', '1']) := by
    unfold toBytes restoreText
    simp only [List.map_append, ne_eq, List.append_left_inj, List.append_right_inj]
    decide
  have one := accepted_restoreText ['0', '1'] (by simp)
  have two := accepted_restoreText ['0', '0', '1'] (by simp)
  rintro (canonical | unique)
  · exact different ((canonical _ _ one).symm.trans (canonical _ _ two))
  · exact different (unique _ _ _ one two)

end ProxyLauncher.WinDivert
