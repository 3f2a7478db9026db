import ProxyLauncher.Routing.Rules

/-!
# Reloading a rule

A rule that is read again is the same unless a domain of it has kept white space at its ends: the
white space is trimmed before the trailing dots, and not again behind them.
-/

namespace ProxyLauncher.Routing

open Python

variable {library : RuleLibrary} {raw value name : String}

theorem isAscii_of_subset {text other : String} (ascii : isAscii text = true)
    (inside : ∀ char ∈ other.toList, char ∈ text.toList) : isAscii other = true := by
  rw [isAscii, List.all_eq_true] at ascii ⊢
  intro char member
  exact ascii char (inside char member)

/-- The result of the codec is in lower case. -/
theorem encodeIdna_eq_ok (encoded : encodeIdna library (library.casing.lower raw) = .ok name) :
    isAscii name = true ∧ asciiLower name = name := by
  unfold encodeIdna at encoded
  split_ifs at encoded with empty ascii short
  · obtain rfl := Except.ok.inj encoded
    exact ⟨rfl, rfl⟩
  · obtain rfl := Except.ok.inj encoded
    refine ⟨ascii, ?_⟩
    rw [← library.lower_ascii _ ascii, library.casing.lowering.lower_lower]
  · cases found : library.toAscii (library.casing.lower raw) with
    | none =>
        rw [found] at encoded
        cases encoded
    | some other =>
        rw [found] at encoded
        obtain rfl := Except.ok.inj encoded
        exact ⟨library.toAscii_ascii _ _ found, library.toAscii_lower _ _ found⟩

/-- The value of a domain selector. -/
structure DomainName (name : String) : Prop where
  ascii : isAscii name = true
  lower : asciiLower name = name
  named : name ≠ "" ∧ name ≠ "*"
  labelled : ∀ label ∈ domainLabels name, label ≠ [] ∧ label.length ≤ 63

theorem domainValue_eq_ok (made : domainValue library raw = .ok value) : DomainName value := by
  unfold domainValue at made
  obtain ⟨name, encoded, checked⟩ := bind_eq_ok.mp made
  obtain ⟨ascii, lower⟩ := encodeIdna_eq_ok encoded
  split_ifs at checked with unnamed unlabelled
  obtain rfl := Except.ok.inj checked
  rw [not_or] at unnamed
  refine ⟨ascii, lower, unnamed, fun label member => ?_⟩
  simp only [List.any_eq_true, not_exists, not_and, Bool.or_eq_true, decide_eq_true_eq, not_or,
    not_lt] at unlabelled
  exact unlabelled label member

/-- A domain that ends in a dot has an empty label. -/
theorem nil_mem_splitOn {chars : List Char} (last : chars.getLast? = some '.') :
    [] ∈ chars.splitOn '.' := by
  obtain ⟨front, rfl⟩ := List.getLast?_eq_some_iff.mp last
  rw [List.splitOn_append_cons_self, List.splitOn_nil]
  exact List.mem_append_right _ List.mem_cons_self

theorem DomainName.rstripChar (domain : DomainName value) :
    Routing.rstripChar '.' value = value := by
  rw [Routing.rstripChar, List.rdropWhile_eq_self_iff.mpr, String.ofList_toList]
  intro nonempty dot
  rw [decide_eq_true_eq] at dot
  have last : value.toList.getLast? = some '.' := by
    rw [List.getLast?_eq_some_getLast nonempty, dot]
  exact (domain.labelled [] (nil_mem_splitOn last)).1 rfl

/-- A part of the domain is in lower case. -/
theorem DomainName.lower_of_subset (domain : DomainName value) {text : String}
    (inside : ∀ char ∈ text.toList, char ∈ value.toList) :
    library.casing.lower text = text := by
  have fixed : ∀ char ∈ value.toList, char.toLower = char := by
    have whole := congrArg String.toList domain.lower
    rw [asciiLower, String.toList_ofList] at whole
    exact List.map_inj_left.mp (whole.trans (List.map_id' _).symm)
  rw [library.lower_ascii _ (isAscii_of_subset domain.ascii inside), asciiLower,
    List.map_congr_left fun char member => fixed char (inside char member), List.map_id',
    String.ofList_toList]

theorem DomainName.encodeIdna (domain : DomainName value) :
    Routing.encodeIdna library value = .ok value := by
  have sizes : ((domainLabels value).dropLast.all
      (fun label => 0 < label.length && label.length < 64) &&
      (domainLabels value).getLast?.all fun label => label.length < 64) = true := by
    have size (label : List Char) (member : label ∈ domainLabels value) :
        0 < label.length ∧ label.length < 64 := by
      obtain ⟨nonempty, short⟩ := domain.labelled label member
      exact ⟨List.length_pos_iff.mpr nonempty, Nat.lt_succ_of_le short⟩
    rw [Bool.and_eq_true, List.all_eq_true]
    constructor
    · intro label member
      simpa using size label (List.mem_of_mem_dropLast member)
    · cases last : (domainLabels value).getLast? with
      | none => rfl
      | some label => simpa using (size label (List.mem_of_getLast? last)).2
  rw [Routing.encodeIdna, if_neg domain.named.1, if_pos domain.ascii, if_pos sizes]

/-- The ASCII text that the codec leaves as it is. -/
theorem eq_of_encodeIdna (ascii : isAscii name = true)
    (encoded : encodeIdna library name = .ok value) : value = name := by
  unfold encodeIdna at encoded
  split_ifs at encoded with empty
  · rw [empty]
    exact (Except.ok.inj encoded).symm
  · exact (Except.ok.inj encoded).symm

/-- A domain is reloaded as it is when it is stripped, and only then. -/
theorem domainValue_self (domain : DomainName value) :
    domainValue library (strip value) = .ok value ↔ strip value = value := by
  have trimmed : (strip value).toList.Sublist value.toList := by
    rw [strip, String.toList_ofList]
    exact (List.rdropWhile_prefix _ _).sublist.trans (List.dropWhile_suffix _).sublist
  have bare : (rstripChar '.' (strip value)).toList.Sublist (strip value).toList := by
    rw [rstripChar, String.toList_ofList]
    exact (List.rdropWhile_prefix _ _).sublist
  constructor
  · intro made
    obtain ⟨name, encoded, checked⟩ := bind_eq_ok.mp made
    split_ifs at checked
    obtain rfl := Except.ok.inj checked
    have inside : ∀ char ∈ (rstripChar '.' (strip name)).toList, char ∈ name.toList := by
      intro char member
      exact trimmed.subset (bare.subset member)
    rw [domain.lower_of_subset inside] at encoded
    have same := eq_of_encodeIdna (isAscii_of_subset domain.ascii inside) encoded
    rw [← same] at bare
    exact String.toList_injective (trimmed.eq_of_length_le bare.length_le)
  · intro stripped
    rw [stripped, domainValue, domain.rstripChar, domain.lower_of_subset fun char member => member,
      domain.encodeIdna]
    have named : ¬ (value = "" ∨ value = "*") := not_or.mpr domain.named
    have labelled : ¬ (domainLabels value).any
        (fun label => label = [] || 63 < label.length) = true := by
      simp only [List.any_eq_true, not_exists, not_and, Bool.or_eq_true, decide_eq_true_eq, not_or,
        not_lt]
      exact domain.labelled
    simp only [bind, Except.bind, if_neg named, if_neg labelled]
    rfl

namespace DestinationSelector

variable {selector : DestinationSelector library}

theorem ext {other : DestinationSelector library} (kind : selector.kind = other.kind)
    (value : selector.value = other.value) : selector = other := by
  cases selector
  cases other
  simp_all

theorem create_eq_ok {kind : DestinationKind} :
    create library kind raw = .ok selector ↔
      selector.kind = kind ∧ selectorValue library kind raw = .ok selector.value := by
  unfold create
  split
  · rename_i value made
    have named : selectorValue library kind raw = .ok selector.value ↔ value = selector.value := by
      rw [made, Except.ok.injEq]
    rw [Except.ok.injEq, named]
    constructor
    · intro same
      rw [← same]
      exact ⟨rfl, rfl⟩
    · intro both
      exact ext both.1.symm both.2
  · rename_i raised made
    rw [made]
    simp

/-- A selector that a reload leaves as it is. -/
def Stable (selector : DestinationSelector library) : Prop :=
  selector.kind = .domain → strip selector.value = selector.value

theorem create_self :
    create library selector.kind selector.value = .ok selector ↔ selector.Stable := by
  rw [create_eq_ok, Stable]
  obtain ⟨kind, value, raw, made⟩ := selector
  dsimp only
  cases kind with
  | all =>
      obtain rfl := Except.ok.inj made
      simp [selectorValue]
  | domain =>
      have domain := domainValue_eq_ok made
      simp only [selectorValue, true_and, forall_const]
      exact domainValue_self domain
  | cidr =>
      unfold selectorValue at made ⊢
      dsimp only at made ⊢
      cases found : library.ipNetwork (strip raw) with
      | none =>
          rw [found] at made
          cases made
      | some network =>
          rw [found] at made
          obtain rfl := Except.ok.inj made
          rw [library.ipNetwork_unpadded _ _ found, library.ipNetwork_self _ _ found]
          simp

end DestinationSelector

namespace RoutingRule

theorem fromDestination_destinationDict (selector : DestinationSelector library) :
    fromDestination library (destinationDict selector) =
      DestinationSelector.create library selector.kind selector.value := by
  have kind : destinationKind (.string selector.kind.value) = .ok selector.kind := by
    cases selector.kind with
    | all => rfl
    | domain => rfl
    | cidr => rfl
  have found : ([("kind", Json.string selector.kind.value),
      ("value", Json.string selector.value)].lookup "kind").elim (.error (.keyError "kind"))
        destinationKind = .ok selector.kind := kind
  rw [destinationDict, fromDestination, found]
  rfl

/-- The selectors of a rule are reloaded as they are when each of them is. -/
theorem fromDestinationList_map (selectors : List (DestinationSelector library)) :
    fromDestinationList library (selectors.map destinationDict) = .ok selectors ↔
      ∀ selector ∈ selectors, selector.Stable := by
  induction selectors with
  | nil => exact iff_of_true rfl fun selector member => absurd member List.not_mem_nil
  | cons selector selectors ih =>
      rw [List.map_cons, fromDestinationList, fromDestination_destinationDict,
        List.forall_mem_cons, ← DestinationSelector.create_self, ← ih]
      constructor
      · intro loaded
        obtain ⟨first, created, later⟩ := bind_eq_ok.mp loaded
        obtain ⟨others, listed, same⟩ := bind_eq_ok.mp later
        obtain ⟨rfl, rfl⟩ := List.cons.inj (Except.ok.inj same)
        exact ⟨created, listed⟩
      · intro both
        rw [both.1, both.2]
        rfl

theorem fromApplication_map (application : Option (ApplicationIdentity library.casing)) :
    fromApplication library (some ((application.map identityDict).getD .null)) =
      .ok application := by
  cases application with
  | none => rfl
  | some identity =>
      have loaded := fromItem_identityDict library.reading identity
      rw [identityDict] at loaded
      rw [Option.map_some, Option.getD_some, identityDict, fromApplication, loaded]
      rfl

theorem routingAction_value (action : RoutingAction) :
    routingAction (.string action.value) = .ok action := by
  cases action with
  | proxy => rfl
  | direct => rfl

variable {rule : RoutingRule library}

theorem destinations_of_create {ruleId priority enabled description : Json}
    {action : RoutingAction} {destinations : List (DestinationSelector library)}
    {application : Option (ApplicationIdentity library.casing)}
    (created : create library ruleId action destinations application priority enabled
      description = .ok rule) : rule.destinations = destinations := by
  unfold create at created
  split_ifs at created
  split at created
  · cases created
  · split_ifs at created
    obtain rfl := Except.ok.inj created
    rfl

/-- A rule is what its own fields make. -/
theorem create_self (rule : RoutingRule library) :
    create library (.string rule.ruleId) rule.action rule.destinations rule.application
      (.int rule.priority) (.bool rule.enabled) (.string rule.description) = .ok rule := by
  have ruleId : strip (library.reading.strOrEmpty (.string rule.ruleId)) = rule.ruleId :=
    rule.ruleId_valid.1
  have description : strip (library.reading.strOrEmpty (.string rule.description)) =
      rule.description := rule.description_stripped
  have valid : isRuleId (strip (library.reading.strOrEmpty (.string rule.ruleId))) = true := by
    rw [ruleId]
    exact rule.ruleId_valid.2
  unfold create
  rw [dif_pos valid, dif_pos rule.destinations_some, dif_pos rule.destinations_alone,
    library.int_int]
  dsimp only
  rw [dif_pos rule.priority_bounded]
  simp only [ruleId, description]
  rfl

/-- The dictionary of a rule, read as far as its selectors. -/
theorem fromDict_toDict (rule : RoutingRule library) :
    fromDict library rule.toDict =
      fromDestinationList library (rule.destinations.map destinationDict) >>= fun destinations =>
        create library (.string rule.ruleId) rule.action destinations rule.application
          (.int rule.priority) (.bool rule.enabled) (.string rule.description) := by
  have version : library.int ((rule.toDict.lookup "schema_version").getD (.int 0)) = .ok 1 :=
    library.int_int 1
  have application : fromApplication library (rule.toDict.lookup "application") =
      .ok rule.application := fromApplication_map rule.application
  have action : routingAction ((rule.toDict.lookup "action").getD (.string "")) =
      .ok rule.action := routingAction_value rule.action
  have destinations : fromDestinations library (rule.toDict.lookup "destinations") =
      fromDestinationList library (rule.destinations.map destinationDict) := rfl
  have ruleId : (rule.toDict.lookup "rule_id").getD (.string "") = .string rule.ruleId := rfl
  have priority : (rule.toDict.lookup "priority").getD (.int 100) = .int rule.priority := rfl
  have enabled : (rule.toDict.lookup "enabled").getD (.bool true) = .bool rule.enabled := rfl
  have description : (rule.toDict.lookup "description").getD (.string "") =
      .string rule.description := rfl
  have supported : ¬ (1 : ℤ) ≠ 1 := not_not.mpr rfl
  rw [fromDict, version, application, action, destinations, ruleId, priority, enabled, description]
  simp only [bind, Except.bind, if_neg supported]

theorem fromDict_toDict_self (rule : RoutingRule library) :
    fromDict library rule.toDict = .ok rule ↔
      ∀ selector ∈ rule.destinations, selector.Stable := by
  rw [fromDict_toDict, ← fromDestinationList_map]
  constructor
  · intro loaded
    obtain ⟨destinations, listed, created⟩ := bind_eq_ok.mp loaded
    rw [← destinations_of_create created] at listed
    exact listed
  · intro listed
    rw [listed]
    simp only [bind, Except.bind]
    exact rule.create_self

/-- A rule is reloaded as it is, with the same canonical text, when none of its domains has kept
white space at its ends. -/
theorem rule_reloads (rule : RoutingRule library) :
    (fromDict library rule.toDict = .ok rule ∧
      ∀ reloaded, fromDict library rule.toDict = .ok reloaded →
        reloaded.canonicalJson = rule.canonicalJson) ↔
      ∀ selector ∈ rule.destinations, selector.kind = .domain →
        strip selector.value = selector.value := by
  rw [fromDict_toDict_self]
  apply and_iff_left_of_imp
  intro stable reloaded loaded
  rw [(fromDict_toDict_self rule).mpr stable] at loaded
  rw [Except.ok.inj loaded]

/-- `int(value)` for the numbers of a dictionary. -/
def plainInt : Json → Except Raised ℤ
  | .int value => .ok value
  | _ => .error .typeError

/-- A library whose codec knows ASCII texts only. -/
def asciiLibrary : RuleLibrary where
  casing := ⟨asciiLower, lowering_asciiLower⟩
  reading := ⟨fun _ => "", id, fun _ => false⟩
  int := plainInt
  toAscii _ := none
  ipNetwork _ := none
  dumps _ := ""
  int_int _ := rfl
  lower_ascii _ _ := rfl
  toAscii_ascii _ _ found := by cases found
  toAscii_lower _ _ found := by cases found
  ipNetwork_self _ _ found := by cases found
  ipNetwork_unpadded _ _ found := by cases found

/-- The dot behind the blank is trimmed, and the blank stays. -/
def paddedSelector : DestinationSelector asciiLibrary where
  kind := .domain
  value := "a.b "
  made := ⟨"a.b .", rfl⟩

def paddedRule : RoutingRule asciiLibrary where
  ruleId := "r"
  action := .direct
  destinations := [paddedSelector]
  application := none
  priority := 100
  enabled := true
  description := ""
  ruleId_valid := by decide
  destinations_some := List.cons_ne_nil _ _
  destinations_alone _ := rfl
  priority_bounded := by decide
  description_stripped := rfl

theorem padded_domain_not_reloaded : ¬ ∀ (library : RuleLibrary) (rule : RoutingRule library),
    fromDict library rule.toDict = .ok rule := by
  intro claimed
  have stable := (fromDict_toDict_self paddedRule).mp (claimed asciiLibrary paddedRule)
  have stripped : strip "a.b " = "a.b " := stable paddedSelector List.mem_cons_self rfl
  exact absurd stripped (by decide)

end RoutingRule

end ProxyLauncher.Routing
