import ProxyLauncher.Python.JsonRead
import ProxyLauncher.WinDivert.ServiceProtocol

/-!
# The spelling of requests

How the launcher spells a request, and what the parts of a request are that the service reads.
-/

namespace ProxyLauncher.WinDivert

open Python (Bytes Json dumps natText expectText commaSeparated)

/-- `ServiceApplication.to_dict`. -/
def ApplicationSpec.toDict (application : ApplicationSpec) : Json :=
  .object
    [("rule_id", .string application.ruleId),
      ("application_path_sha256", .string application.applicationPathSha256),
      ("local_proxy_port", .int application.localProxyPort.toNat)]

/-- The payload that `build_apply_request` or `build_restore_request` returns. -/
def ServiceRequest.payload (request : ServiceRequest) : Json :=
  match request.command with
  | .applyPlan =>
      .object
        [("protocol_version", .int kProtocolVersion), ("command", .string "apply_plan"),
          ("session_id", .string request.sessionId), ("plan_digest", .string request.planDigest),
          ("proxy", .object
            [("pid", .int request.proxyPid.toNat),
              ("direct_listener_port", .int request.directListenerPort.toNat)]),
          ("owned_resources", .array (resourceIds.map .string)),
          ("applications", .array (request.applications.map ApplicationSpec.toDict))]
  | .restore =>
      .object
        [("protocol_version", .int kProtocolVersion), ("command", .string "restore"),
          ("session_id", .string request.sessionId), ("plan_digest", .string request.planDigest),
          ("owned_resources", .array (resourceIds.map .string))]

/-- The bytes that `NamedPipeWindowsWinDivertClient.request` sends. -/
def ServiceRequest.encoded (request : ServiceRequest) : Bytes :=
  Python.encodeUtf8 (.ofList (dumps request.payload))

/-- The characters that stand for themselves in a string of a request. -/
def Plain (text : List Char) : Prop :=
  ∀ char ∈ text, 32 ≤ char.toNat ∧ char.toNat ≤ 126 ∧ char ≠ '"' ∧ char ≠ '\\'

/-- A string of a request. -/
def stringText (text : String) : List Char := '"' :: (text.toList ++ ['"'])

theorem quote_of_plain {text : String} (plain : Plain text.toList) :
    Python.quote true text = stringText text := by
  have same : text.toList.flatMap (Python.escapeChar true) = text.toList := by
    generalize text.toList = chars at plain
    induction chars with
    | nil => rfl
    | cons char chars ih =>
        obtain ⟨⟨least, most, quotation, backslash⟩, others⟩ := List.forall_mem_cons.mp plain
        have itself : Python.escapeChar true char = [char] := by
          unfold Python.escapeChar
          rw [if_neg quotation, if_neg backslash,
            if_neg (by rintro rfl; exact absurd least (by decide)),
            if_neg (by rintro rfl; exact absurd least (by decide)),
            if_neg (by rintro rfl; exact absurd least (by decide)),
            if_neg (by omega), if_neg (by omega), if_neg (by omega), if_neg (by omega)]
        rw [List.flatMap_cons, itself, ih others, List.singleton_append]
  rw [Python.quote, same]
  rfl

/-- A member of an object. -/
def memberText (key : String) (value : List Char) : List Char := stringText key ++ ':' :: value

/-- An object with its members. -/
def objectText (members : List (List Char)) : List Char :=
  '\x7b' :: (commaSeparated members ++ ['\x7d'])

/-- The text of an application. -/
def ApplicationSpec.text (application : ApplicationSpec) : List Char :=
  objectText
    [memberText "application_path_sha256" (stringText application.applicationPathSha256),
      memberText "local_proxy_port" (natText application.localProxyPort.toNat),
      memberText "rule_id" (stringText application.ruleId)]

/-- The text of a request. -/
def ServiceRequest.text (request : ServiceRequest) : List Char :=
  let digest := memberText "plan_digest" (stringText request.planDigest)
  let version := memberText "protocol_version" (natText kProtocolVersion)
  let session := memberText "session_id" (stringText request.sessionId)
  let resources := memberText "owned_resources" appendResources
  match request.command with
  | .applyPlan =>
      objectText
        [memberText "applications"
            ('[' :: (commaSeparated (request.applications.map ApplicationSpec.text) ++ [']'])),
          memberText "command" (stringText "apply_plan"), resources, digest, version,
          memberText "proxy" (objectText
            [memberText "direct_listener_port" (natText request.directListenerPort.toNat),
              memberText "pid" (natText request.proxyPid.toNat)]),
          session]
  | .restore =>
      objectText [memberText "command" (stringText "restore"), resources, digest, version, session]

/-- The strings of a request are plain. -/
structure ServiceRequest.PlainStrings (request : ServiceRequest) : Prop where
  session : Plain request.sessionId.toList
  digest : Plain request.planDigest.toList
  applications : ∀ application ∈ request.applications,
    Plain application.ruleId.toList ∧ Plain application.applicationPathSha256.toList

theorem dumpsAll_eq_map (values : List Json) : Python.dumpsAll values = values.map dumps := by
  induction values with
  | nil => rfl
  | cons value values ih => rw [Python.dumpsAll, ih, List.map_cons]

/-- A text without control characters, quotation marks and backslashes. -/
def isPlain (text : String) : Bool :=
  text.toList.all fun char =>
    32 ≤ char.toNat && char.toNat ≤ 126 && char ≠ '"' && char ≠ '\\'

theorem plain_of_isPlain {text : String} (plain : isPlain text = true) : Plain text.toList := by
  intro char member
  have printable := List.all_eq_true.mp plain char member
  simp only [Bool.and_eq_true, decide_eq_true_eq] at printable
  exact ⟨printable.1.1.1, printable.1.1.2, printable.1.2, printable.2⟩

theorem map_entryText {entries : List (String × List Char)}
    (plain : (entries.map Prod.fst).all isPlain = true) :
    entries.map Python.entryText = entries.map fun entry => memberText entry.1 entry.2 := by
  refine List.map_congr_left fun entry member => ?_
  rw [Python.entryText, quote_of_plain (plain_of_isPlain (List.all_eq_true.mp plain _
    (List.mem_map_of_mem member)))]
  rfl

/-- The keys of an application, and of a request with those of its proxy, in their order. -/
theorem ascending_keys :
    ["application_path_sha256", "local_proxy_port", "rule_id"].Pairwise
      (fun left right => left ≤ right ∧ ¬ right ≤ left) ∧
    ["applications", "command", "direct_listener_port", "owned_resources", "pid", "plan_digest",
      "protocol_version", "proxy", "session_id"].Pairwise
      (fun left right => left ≤ right ∧ ¬ right ≤ left) := by
  simp only [List.pairwise_cons, List.Pairwise.nil, List.forall_mem_cons, List.not_mem_nil,
    false_imp_iff, implies_true, ← String.not_lt, String.lt_iff, -String.reduceLT]
  repeat rw [String.toList_ofList]
  and_intros <;> decide

/-- The keys and the constant strings are plain. -/
theorem plain_keys :
    ["application_path_sha256", "local_proxy_port", "rule_id"].all isPlain = true ∧
    ["direct_listener_port", "pid"].all isPlain = true ∧
    ["command", "owned_resources", "plan_digest", "protocol_version", "session_id"].all isPlain =
      true ∧
    ["applications", "command", "owned_resources", "plan_digest", "protocol_version", "proxy",
      "session_id"].all isPlain = true ∧
    isPlain "apply_plan" = true ∧ isPlain "restore" = true ∧ resourceIds.all isPlain = true := by
  simp only [resourceIds, List.all_cons, List.all_nil, isPlain]
  repeat rw [String.toList_ofList]
  decide

theorem dumps_toDict {application : ApplicationSpec} (rule : Plain application.ruleId.toList)
    (path : Plain application.applicationPathSha256.toList) :
    dumps application.toDict = application.text := by
  have ascending := ascending_keys.1
  simp only [List.pairwise_cons, List.forall_mem_cons] at ascending
  simp only [ApplicationSpec.toDict, dumps, Python.dumpsEntries, Python.intText, Python.sortKeys,
    List.insertionSort, List.foldr, List.orderedInsert, ascending, if_true, if_false,
    -String.reduceLE]
  rw [map_entryText]
  · simp [commaSeparated, List.intercalate, quote_of_plain rule, quote_of_plain path,
      ApplicationSpec.text, objectText]
  · exact plain_keys.1

theorem dumps_resources : dumps (.array (resourceIds.map .string)) = appendResources := by
  have quoted : Python.dumpsAll (resourceIds.map .string) = resourceIds.map stringText := by
    rw [dumpsAll_eq_map, List.map_map]
    refine List.map_congr_left fun resource member => ?_
    have plain := List.all_eq_true.mp plain_keys.2.2.2.2.2.2 resource member
    rw [Function.comp_apply, dumps, quote_of_plain (plain_of_isPlain plain)]
  rw [dumps, quoted]
  rfl

/-- The launcher's spelling of a request. -/
theorem dumps_payload {request : ServiceRequest} (plain : request.PlainStrings) :
    dumps request.payload = request.text := by
  have ascending := ascending_keys.2
  simp only [List.pairwise_cons, List.forall_mem_cons] at ascending
  have proxy : dumps (.object [("pid", .int request.proxyPid.toNat),
        ("direct_listener_port", .int request.directListenerPort.toNat)]) =
      objectText [memberText "direct_listener_port" (natText request.directListenerPort.toNat),
        memberText "pid" (natText request.proxyPid.toNat)] := by
    simp only [dumps, Python.dumpsEntries, Python.intText, Python.sortKeys, List.insertionSort,
      List.foldr, List.orderedInsert, ascending, if_false, -String.reduceLE]
    rw [map_entryText]
    · rfl
    · exact plain_keys.2.1
  have applications : dumps (.array (request.applications.map ApplicationSpec.toDict)) =
      '[' :: (commaSeparated (request.applications.map ApplicationSpec.text) ++ [']']) := by
    rw [dumps, dumpsAll_eq_map, List.map_map, List.cons_append]
    refine congrArg (fun texts => '[' :: (commaSeparated texts ++ [']'])) ?_
    refine List.map_congr_left fun application member => ?_
    obtain ⟨rule, path⟩ := plain.applications application member
    exact dumps_toDict rule path
  have text {value : String} (known : Plain value.toList) :
      dumps (.string value) = stringText value := by
    rw [dumps, quote_of_plain known]
  have version : dumps (.int kProtocolVersion) = natText kProtocolVersion := by rw [dumps]; rfl
  unfold ServiceRequest.payload ServiceRequest.text
  cases request.command with
  | applyPlan =>
      rw [dumps]
      simp only [Python.dumpsEntries, proxy, dumps_resources, text plain.session,
        text plain.digest, text (plain_of_isPlain plain_keys.2.2.2.2.1), applications, version,
        Python.sortKeys, List.insertionSort, List.foldr, List.orderedInsert, ascending, if_true,
        if_false, -String.reduceLE]
      rw [map_entryText]
      · rfl
      · exact plain_keys.2.2.2.1
  | restore =>
      rw [dumps]
      simp only [Python.dumpsEntries, dumps_resources, text plain.session,
        text plain.digest, text (plain_of_isPlain plain_keys.2.2.2.2.2.1), version,
        Python.sortKeys, List.insertionSort, List.foldr, List.orderedInsert, ascending, if_true,
        if_false, -String.reduceLE]
      rw [map_entryText]
      · rfl
      · exact plain_keys.2.2.1

/-- A number of the text starts with a zero. -/
def leadingZero : List Char → Bool
  | [] => false
  | char :: rest => (char == ':' && rest.head? == some '0') || leadingZero rest

theorem leadingZero_iff {text : List Char} :
    leadingZero text = true ↔ [':', '0'] <:+: text := by
  induction text with
  | nil => simp [leadingZero]
  | cons char text ih =>
      rw [leadingZero, Bool.or_eq_true, ih, List.infix_cons_iff, List.cons_prefix_cons,
        Bool.and_eq_true, beq_iff_eq, beq_iff_eq, @eq_comm Char char]
      cases text with
      | nil => simp only [List.head?_nil, reduceCtorEq, List.prefix_nil, and_false]
      | cons head text =>
          simp only [List.head?_cons, Option.some.injEq, List.cons_prefix_cons, List.nil_prefix,
            and_true, @eq_comm Char head]

theorem leadingZero_append {front rest : List Char} (colon : ':' ∉ front) :
    leadingZero (front ++ rest) = leadingZero rest := by
  induction front with
  | nil => rfl
  | cons char front ih =>
      obtain ⟨other, others⟩ := List.ne_and_not_mem_of_not_mem_cons colon
      rw [List.cons_append, leadingZero, ih others, beq_false_of_ne (Ne.symm other)]
      rfl

theorem leadingZero_colon (rest : List Char) :
    leadingZero (':' :: rest) = (rest.head? == some '0' || leadingZero rest) := rfl

theorem leadingZero_of_append {front rest : List Char} (clean : leadingZero (front ++ rest) = false) :
    leadingZero rest = false := by
  induction front with
  | nil => exact clean
  | cons char front ih =>
      rw [List.cons_append, leadingZero, Bool.or_eq_false_iff] at clean
      exact ih clean.2

/-- What stands after a colon is no zero. -/
theorem head_of_clean {front rest : List Char}
    (clean : leadingZero (front ++ ':' :: rest) = false) : rest.head? ≠ some '0' := by
  have after := leadingZero_of_append clean
  rw [leadingZero_colon, Bool.or_eq_false_iff] at after
  exact beq_eq_false_iff_ne.mp after.1

theorem eq_of_expectText {word text rest : List Char} (found : expectText word text = some rest) :
    text = word ++ rest := by
  induction word generalizing text with
  | nil => exact Option.some.inj found
  | cons char word ih =>
      cases text with
      | nil => cases found
      | cons head text =>
          rw [expectText] at found
          split at found
          · rename_i same
            rw [same, ih found, List.cons_append]
          · cases found

theorem eq_of_readChars {room : Nat} {text value rest : List Char}
    (read : Cursor.readChars room text = some (value, rest)) :
    text = value ++ '"' :: rest ∧ Plain value := by
  fun_induction Cursor.readChars room text generalizing value with
  | case1 => cases read
  | case2 room remaining =>
      obtain ⟨rfl, rfl⟩ := Prod.mk.inj (Option.some.inj read)
      exact ⟨rfl, by simp [Plain]⟩
  | case3 => cases read
  | case4 => cases read
  | case5 room char remaining quotation printable ih =>
      obtain ⟨⟨chars, after⟩, found, same⟩ := Option.map_eq_some_iff.mp read
      obtain ⟨rfl, rfl⟩ := Prod.mk.inj same
      obtain ⟨shape, plain⟩ := ih found
      push Not at printable
      exact ⟨by rw [shape, List.cons_append],
        List.forall_mem_cons.mpr ⟨⟨printable.1, printable.2.1, quotation, printable.2.2⟩, plain⟩⟩

theorem eq_of_readString {limit : Nat} {text value rest : List Char}
    (read : Cursor.readString limit text = some (value, rest)) :
    text = '"' :: (value ++ '"' :: rest) ∧ Plain value := by
  unfold Cursor.readString at read
  split at read
  · rename_i text
    obtain ⟨shape, plain⟩ := eq_of_readChars read
    exact ⟨by rw [← shape], plain⟩
  · cases read

theorem exists_digit {char : Char} (digit : char.isDigit = true) :
    ∃ value < 10, char = Nat.digitChar value ∧ char.toNat - '0'.toNat = value := by
  have bounds : 48 ≤ char.toNat ∧ char.toNat ≤ 57 := by
    simpa [Char.isDigit, UInt32.le_iff_toNat_le] using digit
  have every : ∀ value : Fin 10, Char.ofNat (48 + value) = Nat.digitChar value := by decide
  refine ⟨char.toNat - 48, by omega, ?_, rfl⟩
  have same := every ⟨char.toNat - 48, by omega⟩
  rw [← same, show 48 + (char.toNat - 48) = char.toNat by omega, Char.ofNat_toNat]

/-- Digits without a leading zero are the text of their number. -/
theorem natText_ofDigitChars {digits : List Char} (nonempty : digits ≠ [])
    (digit : ∀ char ∈ digits, char.isDigit = true) (head : digits.head? ≠ some '0') :
    natText (Nat.ofDigitChars 10 digits 0) = digits := by
  induction digits using List.reverseRecOn with
  | nil => exact absurd rfl nonempty
  | append_singleton digits last ih =>
      obtain ⟨value, small, rfl, known⟩ := exists_digit (digit last (by simp))
      rw [Nat.ofDigitChars_append, Nat.ofDigitChars_cons, Nat.ofDigitChars_nil, known, natText]
      cases digits with
      | nil => rw [Nat.ofDigitChars_nil, Nat.mul_zero, Nat.zero_add,
          Nat.toDigits_of_lt_base small, List.nil_append]
      | cons first digits =>
          have front := ih (by simp) (fun char member => digit char (List.mem_append_left _ member)) head
          have positive : 0 < Nat.ofDigitChars 10 (first :: digits) 0 := by
            refine Nat.pos_of_ne_zero fun zero => ?_
            rw [zero] at front
            exact head (by rw [← front]; rfl)
          rw [← Nat.toDigits_append_toDigits (by decide) positive small,
            Nat.toDigits_of_lt_base small]
          exact congrArg (· ++ [Nat.digitChar value]) front

theorem eq_of_readDigits {value number : Nat} {text rest : List Char}
    (read : Cursor.readDigits value text = some (number, rest)) :
    ∃ digits, text = digits ++ rest ∧ (∀ char ∈ digits, char.isDigit = true) ∧
      number = Nat.ofDigitChars 10 digits value := by
  induction text generalizing value with
  | nil =>
      obtain ⟨rfl, rfl⟩ := Prod.mk.inj (Option.some.inj read)
      exact ⟨[], rfl, by simp, rfl⟩
  | cons char text ih =>
      rw [Cursor.readDigits] at read
      dsimp only at read
      split at read
      · rename_i digit
        split at read
        · cases read
        · obtain ⟨digits, rfl, every, rfl⟩ := ih read
          refine ⟨char :: digits, rfl, List.forall_mem_cons.mpr ⟨digit, every⟩, ?_⟩
          rw [Nat.ofDigitChars_cons, Nat.mul_comm]
      · obtain ⟨rfl, rfl⟩ := Prod.mk.inj (Option.some.inj read)
        exact ⟨[], rfl, by simp, rfl⟩

theorem le_of_readDigits {value number : Nat} {text rest : List Char}
    (read : Cursor.readDigits value text = some (number, rest)) (bound : value ≤ 0xffffffff) :
    number ≤ 0xffffffff := by
  induction text generalizing value with
  | nil =>
      obtain ⟨rfl, rfl⟩ := Prod.mk.inj (Option.some.inj read)
      exact bound
  | cons char text ih =>
      rw [Cursor.readDigits] at read
      dsimp only at read
      split at read
      · split at read
        · cases read
        · rename_i small
          exact ih read (Nat.le_of_not_lt small)
      · obtain ⟨rfl, rfl⟩ := Prod.mk.inj (Option.some.inj read)
        exact bound

theorem le_of_readUInt {number : Nat} {text rest : List Char}
    (read : Cursor.readUInt text = some (number, rest)) : number ≤ 0xffffffff := by
  cases text with
  | nil => cases read
  | cons char text =>
      unfold Cursor.readUInt at read
      dsimp only at read
      split at read
      · exact le_of_readDigits read (by decide)
      · cases read

/-- A number that starts with no zero is spelled as the launcher spells it. -/
theorem eq_of_readUInt {number : Nat} {text rest : List Char}
    (read : Cursor.readUInt text = some (number, rest)) (head : text.head? ≠ some '0') :
    text = natText number ++ rest := by
  cases text with
  | nil => cases read
  | cons char text =>
      unfold Cursor.readUInt at read
      dsimp only at read
      split at read
      · rename_i digit
        rw [Cursor.readDigits, if_pos digit] at read
        dsimp only at read
        split at read
        · cases read
        · obtain ⟨digits, rfl, every, rfl⟩ := eq_of_readDigits read
          have spelled := natText_ofDigitChars (List.cons_ne_nil char digits)
            (List.forall_mem_cons.mpr ⟨digit, every⟩) head
          rw [Nat.ofDigitChars_cons, Nat.mul_comm] at spelled
          rw [spelled, List.cons_append]
      · cases read

variable {data : Bytes} {request : ServiceRequest} {text rest : List Char}
  {application : ApplicationSpec}

/-- The texts that the parsers expect, up to the colon that ends each. -/
theorem literals :
    "\x7b\"application_path_sha256\":".toList =
      ('\x7b' :: stringText "application_path_sha256") ++ [':'] ∧
    ",\"local_proxy_port\":".toList = (',' :: stringText "local_proxy_port") ++ [':'] ∧
    ",\"rule_id\":".toList = (',' :: stringText "rule_id") ++ [':'] ∧
    "\x7b\"applications\":".toList = ('\x7b' :: stringText "applications") ++ [':'] ∧
    ",\"command\":\"apply_plan\",\"owned_resources\":".toList =
      (',' :: memberText "command" (stringText "apply_plan") ++
        ',' :: stringText "owned_resources") ++ [':'] ∧
    ",\"plan_digest\":".toList = (',' :: stringText "plan_digest") ++ [':'] ∧
    ",\"protocol_version\":".toList = (',' :: stringText "protocol_version") ++ [':'] ∧
    ",\"proxy\":\x7b\"direct_listener_port\":".toList =
      (',' :: memberText "proxy" ('\x7b' :: stringText "direct_listener_port")) ++ [':'] ∧
    ",\"pid\":".toList = (',' :: stringText "pid") ++ [':'] ∧
    "\x7d,\"session_id\":".toList = ('\x7d' :: ',' :: stringText "session_id") ++ [':'] ∧
    ",\"session_id\":".toList = (',' :: stringText "session_id") ++ [':'] ∧
    "\x7b\"command\":\"restore\",\"owned_resources\":".toList =
      ('\x7b' :: memberText "command" (stringText "restore") ++
        ',' :: stringText "owned_resources") ++ [':'] := by
  unfold memberText stringText
  repeat rw [String.toList_ofList]
  and_intros <;> rfl

/-- A text that ends with a colon, in front of a value. -/
theorem eq_of_expectText_colon {front : List Char} (clean : leadingZero text = false)
    (found : expectText (front ++ [':']) text = some rest) :
    text = front ++ ':' :: rest ∧ rest.head? ≠ some '0' ∧ leadingZero rest = false := by
  have shape := eq_of_expectText found
  rw [List.append_assoc, List.singleton_append] at shape
  rw [shape] at clean
  have after := leadingZero_of_append clean
  rw [leadingZero_colon, Bool.or_eq_false_iff] at after
  exact ⟨shape, head_of_clean clean, after.2⟩

theorem eq_of_readString_clean {limit : Nat} {value : List Char}
    (clean : leadingZero text = false) (read : Cursor.readString limit text = some (value, rest)) :
    text = stringText (.ofList value) ++ rest ∧ leadingZero rest = false := by
  have shape : text = stringText (.ofList value) ++ rest := by
    rw [(eq_of_readString read).1, stringText, String.toList_ofList]
    simp
  rw [shape] at clean
  exact ⟨shape, leadingZero_of_append clean⟩

theorem eq_of_readUInt_clean {number : Nat} (head : text.head? ≠ some '0')
    (clean : leadingZero text = false) (read : Cursor.readUInt text = some (number, rest)) :
    text = natText number ++ rest ∧ leadingZero rest = false := by
  have shape := eq_of_readUInt read head
  rw [shape] at clean
  exact ⟨shape, leadingZero_of_append clean⟩

theorem eq_of_parseApplication (clean : leadingZero text = false)
    (parsed : parseApplication text = some (application, rest)) :
    text = application.text ++ rest ∧ leadingZero rest = false := by
  simp only [parseApplication, Option.bind_eq_bind, Option.bind_eq_some_iff,
    Option.guard_eq_some', Option.pure_def, Option.some.injEq, Prod.mk.injEq, literals,
    -String.reduceToList] at parsed
  obtain ⟨_, first, ⟨path, _⟩, second, _, lower, _, third, ⟨port, _⟩, fourth, _, ⟨positive, most⟩,
    _, fifth, ⟨rule, _⟩, sixth, _, valid, last, seventh, rfl, rfl⟩ := parsed
  dsimp only at third fifth seventh
  obtain ⟨one, -, clean⟩ := eq_of_expectText_colon clean first
  obtain ⟨two, clean⟩ := eq_of_readString_clean clean second
  obtain ⟨three, head, clean⟩ := eq_of_expectText_colon clean third
  obtain ⟨four, clean⟩ := eq_of_readUInt_clean head clean fourth
  obtain ⟨five, -, clean⟩ := eq_of_expectText_colon clean fifth
  obtain ⟨six, clean⟩ := eq_of_readString_clean clean sixth
  have seven := eq_of_expectText seventh
  have small : (UInt16.ofNat port).toNat = port := by simp; omega
  refine ⟨?_, leadingZero_of_append (seven ▸ clean)⟩
  rw [one, two, three, four, five, six, seven]
  simp [ApplicationSpec.text, objectText, memberText, commaSeparated, List.intercalate, small,
    -String.reduceToList]

theorem commaSeparated_cons {first : List Char} {others : List (List Char)} (more : others ≠ []) :
    commaSeparated (first :: others) = first ++ ',' :: commaSeparated others := by
  obtain ⟨second, others, rfl⟩ := List.exists_cons_of_ne_nil more
  simp [commaSeparated, List.intercalate]

/-- The text that has been read, after some applications. -/
theorem eq_of_parseApplicationsFrom {room : Nat} {before applications : List ApplicationSpec}
    {proxyPort foundPort : UInt16} (clean : leadingZero text = false)
    (parsed : parseApplicationsFrom room before proxyPort text =
      some (applications, foundPort, rest)) :
    ∃ more, more ≠ [] ∧ applications = before ++ more ∧ leadingZero rest = false ∧
      text = commaSeparated (more.map ApplicationSpec.text) ++ ']' :: rest := by
  induction room generalizing before proxyPort text with
  | zero => cases parsed
  | succ room ih =>
      simp only [parseApplicationsFrom, Option.bind_eq_bind, Option.bind_eq_some_iff,
        Option.guard_eq_some', Option.pure_def] at parsed
      obtain ⟨⟨application, cursor⟩, first, _, agree, parsed⟩ := parsed
      obtain ⟨shape, clean⟩ := eq_of_parseApplication clean first
      dsimp only at parsed
      split at parsed
      · simp only [Option.some.injEq, Prod.mk.injEq] at parsed
        obtain ⟨rfl, rfl, rfl⟩ := parsed
        refine ⟨[application], by simp, rfl, @leadingZero_of_append [']'] _ clean, ?_⟩
        rw [shape, List.map_singleton, commaSeparated, List.intercalate_singleton]
      · rename_i cursor
        obtain ⟨more, some, rfl, clean, tail⟩ := ih (@leadingZero_of_append [','] _ clean) parsed
        refine ⟨application :: more, by simp, by simp, clean, ?_⟩
        rw [shape, tail, List.map_cons, commaSeparated_cons (by simpa using some)]
        simp
      · cases parsed

theorem eq_of_parseApplications {applications : List ApplicationSpec} {proxyPort : UInt16}
    (clean : leadingZero text = false)
    (parsed : parseApplications text = some (applications, proxyPort, rest)) :
    text = '[' :: (commaSeparated (applications.map ApplicationSpec.text) ++ ']' :: rest) ∧
      leadingZero rest = false := by
  simp only [parseApplications, Option.bind_eq_bind, Option.bind_eq_some_iff,
    Option.guard_eq_some'] at parsed
  obtain ⟨cursor, opened, _, _, parsed⟩ := parsed
  have shape := eq_of_expectText opened
  rw [shape] at clean
  obtain ⟨more, _, rfl, clean, tail⟩ :=
    eq_of_parseApplicationsFrom (leadingZero_of_append clean) parsed
  exact ⟨by rw [shape, tail]; rfl, clean⟩

theorem eq_of_parseResources {resources : List String}
    (parsed : parseResources resources text = some rest) :
    text = commaSeparated (resources.map stringText) ++ rest := by
  induction resources generalizing text with
  | nil =>
      rw [Option.some.inj parsed]
      rfl
  | cons resource resources ih =>
      simp only [parseResources, Option.bind_eq_bind, Option.bind_eq_some_iff,
        Option.guard_eq_some'] at parsed
      obtain ⟨⟨value, cursor⟩, read, _, same, parsed⟩ := parsed
      have shape : text = stringText resource ++ cursor := by
        rw [(eq_of_readString read).1, ← same, stringText, String.toList_ofList]
        simp
      rw [shape, List.map_cons]
      split at parsed
      · rename_i none
        have tail := ih parsed
        rw [none, List.map_nil] at tail
        rw [none, List.map_nil, commaSeparated, List.intercalate_singleton]
        exact congrArg (stringText resource ++ ·) tail
      · rename_i more
        obtain ⟨next, separated, parsed⟩ := Option.bind_eq_some_iff.mp parsed
        have tail := ih parsed
        have comma : cursor = [','] ++ next := eq_of_expectText separated
        rw [commaSeparated_cons (by simpa using more), comma, tail]
        simp

theorem eq_of_parseOwnedResources (clean : leadingZero text = false)
    (parsed : parseOwnedResources text = some rest) :
    text = appendResources ++ rest ∧ leadingZero rest = false := by
  simp only [parseOwnedResources, Option.bind_eq_bind, Option.bind_eq_some_iff] at parsed
  obtain ⟨cursor, first, next, second, last⟩ := parsed
  have shape : text = appendResources ++ rest := by
    rw [eq_of_expectText first, eq_of_parseResources second, eq_of_expectText last]
    simp only [appendResources, List.cons_append, List.nil_append, List.append_assoc]
    rfl
  exact ⟨shape, leadingZero_of_append (shape ▸ clean)⟩

theorem eq_of_parseDigestAndVersion {planDigest : List Char} (clean : leadingZero text = false)
    (parsed : parseDigestAndVersion text = some (planDigest, rest)) :
    text = ',' :: memberText "plan_digest" (stringText (.ofList planDigest)) ++
        ',' :: memberText "protocol_version" (natText kProtocolVersion) ++ rest ∧
      leadingZero rest = false := by
  simp only [parseDigestAndVersion, Option.bind_eq_bind, Option.bind_eq_some_iff,
    Option.guard_eq_some', Option.pure_def, Option.some.injEq, Prod.mk.injEq, literals,
    -String.reduceToList] at parsed
  obtain ⟨_, first, ⟨digest, _⟩, second, _, lower, _, third, ⟨version, _⟩, fourth, _, current,
    rfl, rfl⟩ := parsed
  dsimp only at third fourth current
  obtain ⟨one, -, clean⟩ := eq_of_expectText_colon clean first
  obtain ⟨two, clean⟩ := eq_of_readString_clean clean second
  obtain ⟨three, head, clean⟩ := eq_of_expectText_colon clean third
  obtain ⟨four, clean⟩ := eq_of_readUInt_clean head clean fourth
  refine ⟨?_, clean⟩
  rw [one, two, three, four, current]
  simp [memberText, -String.reduceToList]

theorem eq_of_parseSession {sessionId : List Char} (clean : leadingZero text = false)
    (parsed : parseSession text = some sessionId) :
    text = stringText (.ofList sessionId) ++ ['\x7d'] := by
  simp only [parseSession, Option.bind_eq_bind, Option.bind_eq_some_iff,
    Option.guard_eq_some', Option.pure_def, Option.some.injEq] at parsed
  obtain ⟨⟨session, _⟩, first, _, _, _, second, _, ended, rfl⟩ := parsed
  dsimp only at second
  rw [(eq_of_readString_clean clean first).1, eq_of_expectText second, ended, List.append_nil]

/-- Without leading zeros an apply request is spelled as the launcher spells it. -/
theorem eq_of_parseApply (clean : leadingZero text = false)
    (parsed : parseApply text = some request) : text = request.text := by
  simp only [parseApply, Option.bind_eq_bind, Option.bind_eq_some_iff, Option.guard_eq_some',
    Option.pure_def, Option.some.injEq, literals, -String.reduceToList] at parsed
  obtain ⟨_, first, ⟨applications, proxyPort, _⟩, second, _, third, _, fourth, ⟨digest, _⟩, fifth,
    _, sixth, ⟨port, _⟩, seventh, _, portValid, _, eighth, ⟨pid, _⟩, ninth, _, pidValid, _, tenth,
    session, eleventh, rfl⟩ := parsed
  dsimp only at third fourth fifth sixth seventh eighth ninth tenth eleventh
  obtain ⟨one, -, clean⟩ := eq_of_expectText_colon clean first
  obtain ⟨two, clean⟩ := eq_of_parseApplications clean second
  obtain ⟨three, -, clean⟩ := eq_of_expectText_colon clean third
  obtain ⟨four, clean⟩ := eq_of_parseOwnedResources clean fourth
  obtain ⟨five, clean⟩ := eq_of_parseDigestAndVersion clean fifth
  obtain ⟨six, head, clean⟩ := eq_of_expectText_colon clean sixth
  obtain ⟨seven, clean⟩ := eq_of_readUInt_clean head clean seventh
  obtain ⟨eight, head, clean⟩ := eq_of_expectText_colon clean eighth
  obtain ⟨nine, clean⟩ := eq_of_readUInt_clean head clean ninth
  obtain ⟨ten, -, clean⟩ := eq_of_expectText_colon clean tenth
  have eleven := eq_of_parseSession clean eleventh
  have portSmall : (UInt16.ofNat port).toNat = port := by simp; omega
  have pidSmall : (UInt32.ofNat pid).toNat = pid := by
    have most := le_of_readUInt ninth
    simp
    omega
  rw [one, two, three, four, five, six, seven, eight, nine, ten, eleven]
  simp [ServiceRequest.text, objectText, memberText, commaSeparated, List.intercalate, portSmall,
    pidSmall, -String.reduceToList]

/-- Without leading zeros a restore request is spelled as the launcher spells it. -/
theorem eq_of_parseRestore (clean : leadingZero text = false)
    (parsed : parseRestore text = some request) : text = request.text := by
  simp only [parseRestore, parseProtocolAndSession, Option.bind_eq_bind, Option.bind_eq_some_iff,
    Option.pure_def, Option.some.injEq, literals, -String.reduceToList] at parsed
  obtain ⟨_, first, _, second, _, ⟨⟨digest, _⟩, third, _, fourth, session, fifth, rfl⟩, rfl⟩ := parsed
  dsimp only at fourth fifth
  obtain ⟨one, -, clean⟩ := eq_of_expectText_colon clean first
  obtain ⟨two, clean⟩ := eq_of_parseOwnedResources clean second
  obtain ⟨three, clean⟩ := eq_of_parseDigestAndVersion clean third
  obtain ⟨four, -, clean⟩ := eq_of_expectText_colon clean fourth
  rw [one, two, three, four, eq_of_parseSession clean fifth]
  simp [ServiceRequest.text, objectText, memberText, commaSeparated, List.intercalate,
    -String.reduceToList]

end ProxyLauncher.WinDivert
