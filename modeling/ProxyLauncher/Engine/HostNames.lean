import Mathlib.Data.String.Basic
import ProxyLauncher.Engine.Session
import ProxyLauncher.IOS.Hosts
import ProxyLauncher.Texts.Ipv4
import ProxyLauncher.Texts.Trimming

/-!
# The names of hosts on both sides of the engine

The Swift code arms hosts that can be scanned, and the engine compares the validated name of a
flow with the armed hosts.
-/

namespace ProxyLauncher.Engine

open IOS (Text isScannableHost validLabel labelChar)
open Texts (Ipv4.isIpv4 Ipv4.inetPton)

/-- The parsers of addresses.  The one of Rust accepts an IPv4 address, or an IPv6 address, which
has a colon; a text without a NUL is an address for the C library when `inet_pton4` accepts it. -/
structure ParsesAddresses (hosts : Hosts) (text : Text) : Prop where
  ip : ∃ isIpv6 : String → Bool, (∀ name, isIpv6 name = true → ':' ∈ name.toList) ∧
    ∀ name, hosts.isIpAddress name = (Ipv4.isIpv4 name.toList || isIpv6 name)
  pton : ∀ name, '\x00' ∉ name.toList → text.inetPton4 name = Ipv4.inetPton name.toList

/-- A name in lower case without the points behind it. -/
def exactForm (input : String) : String :=
  .ofList ((input.toList.rdropWhile fun char => char = '.').map Char.toLower)

/-- `is_armed`; the set exists while an engine runs. -/
def isArmed (armed : Option (Finset String)) (host : String) : Bool :=
  armed.any fun approved => host ∈ approved

/-- `tun2proxy_set_direct_exact_host`. -/
def setDirectExactHost (hosts : Hosts) (armed : Option (Finset String)) (host : String)
    (enable : Bool) : ℤ × Option (Finset String) :=
  match validateExactHost hosts host, armed with
  | some host, some approved =>
      if enable = true ∧ 12 ≤ approved.card ∧ host ∉ approved then (-2, armed)
      else (0, some (if enable then insert host approved else approved.erase host))
  | _, _ => (-1, armed)

/-- The decisions of the engine with these armed hosts. -/
def Hosts.arming (hosts : Hosts) (armed : Option (Finset String)) : Hosts where
  isIpAddress := hosts.isIpAddress
  approved host := hosts.approved host || isArmed armed host
  armed := isArmed armed

variable {hosts : Hosts} {text : Text} {input name : String} {chars : List Char}

theorem labelChar_eq (char : Char) :
    labelChar char = (char.isLower || char.isDigit || char == '-') := by
  simp only [labelChar, Char.isLower, Char.isDigit, Char.le_def, beq_eq_decide, ge_iff_le]

theorem isLabel_eq (label : List Char) : isLabel label = validLabel label := by
  simp only [isLabel, validLabel, ← labelChar_eq]

theorem utf8ByteSize_ofList (chars : List Char) :
    (String.ofList chars).utf8ByteSize = (chars.map Char.utf8Size).sum := by
  rw [String.utf8ByteSize_ofList]
  induction chars with
  | nil => rfl
  | cons char chars ih => rw [String.utf8Len_cons, ih, List.map_cons, List.sum_cons, add_comm]

/-- The characters of valid labels and the points between them. -/
theorem hostChar_of_labels (valid : (chars.splitOn '.').all validLabel = true) :
    ∀ char ∈ chars, IOS.hostChar char = true := by
  intro char member
  rw [IOS.hostChar, Bool.or_eq_true]
  rcases @IOS.SiteExclusionPolicy.mem_splitOn char '.' _ member with point | ⟨label, there, inside⟩
  · exact .inr (decide_eq_true point)
  · have checked := List.all_eq_true.mp valid label there
    simp only [validLabel, Bool.and_eq_true, List.all_eq_true] at checked
    exact .inl (checked.2 char inside)

theorem ascii_of_hostChar {char : Char} (clean : IOS.hostChar char = true) :
    char.toNat < 128 := by
  simp only [IOS.hostChar, labelChar, Bool.or_eq_true, Bool.and_eq_true, decide_eq_true_eq,
    Char.le_def, UInt32.le_iff_toNat_le] at clean
  rcases clean with ((lower | digit) | rfl) | rfl
  · exact lt_of_le_of_lt lower.2 (by decide)
  · exact lt_of_le_of_lt digit.2 (by decide)
  · decide
  · decide

/-- The first label is not empty. -/
theorem head?_of_labels (valid : (chars.splitOn '.').all validLabel = true) :
    chars.head? ≠ some '.' := by
  cases chars with
  | nil => exact Option.some_ne_none _ ∘ Eq.symm
  | cons char chars =>
      intro first
      obtain rfl : char = '.' := Option.some.inj first
      rw [List.splitOn, List.splitOnP_cons_eq_if_modifyHead, if_pos (beq_self_eq_true _)] at valid
      exact absurd valid (by simp [validLabel])

theorem getLast?_exactForm (input : String) : (exactForm input).toList.getLast? ≠ some '.' := by
  rw [exactForm, String.toList_ofList, List.getLast?_map]
  intro last
  obtain ⟨char, found, lowered⟩ := Option.map_eq_some_iff.mp last
  obtain rfl := (Texts.toLower_eq_iff (by decide)).mp lowered
  obtain ⟨nonempty, point⟩ := List.mem_getLast?_eq_getLast found
  exact List.rdropWhile_last_not _ _ nonempty (decide_eq_true point.symm)

/-- On names of valid labels, the parsers of addresses agree. -/
theorem ParsesAddresses.agree (parsers : ParsesAddresses hosts text)
    (clean : ∀ char ∈ name.toList, IOS.hostChar char = true) :
    hosts.isIpAddress name = text.inetPton4 name := by
  have absent (char : Char) (other : IOS.hostChar char = false) : char ∉ name.toList := by
    intro member
    exact absurd ((clean char member).symm.trans other) (by simp)
  obtain ⟨isIpv6, colon, parsed⟩ := parsers.ip
  have short : isIpv6 name = false := by
    rw [Bool.eq_false_iff]
    exact fun long => absent ':' (by decide) (colon name long)
  rw [parsers.pton name (absent _ (by decide)), Texts.Ipv4.inetPton_eq_isIpv4, parsed, short,
    Bool.or_false]

/-- The engine accepts a name when its exact form can be scanned. -/
theorem validateExactHost_eq (parsers : ParsesAddresses hosts text) (input : String) :
    validateExactHost hosts input =
      if isScannableHost text (exactForm input) = true then some (exactForm input) else none := by
  have last := getLast?_exactForm input
  have form : (exactForm input).toList =
      (input.toList.rdropWhile fun char => char = '.').map Char.toLower := String.toList_ofList
  rw [validateExactHost, ← exactForm, ← form, isScannableHost, IOS.labels]
  rw [show isLabel = validLabel from funext isLabel_eq]
  generalize exactForm input = name at last
  by_cases valid : (name.toList.splitOn '.').all validLabel = true
  · have clean := hostChar_of_labels valid
    have ascii : name.toList.all (fun char => decide (char.toNat < 128)) = true := by
      rw [List.all_eq_true]
      exact fun char member => decide_eq_true (ascii_of_hostChar (clean char member))
    have colon : ':' ∉ name.toList := fun member =>
      absurd (clean _ member) (by decide)
    have size : name.utf8ByteSize = (name.toList.map Char.utf8Size).sum := by
      rw [← utf8ByteSize_ofList, String.ofList_toList]
    rw [parsers.agree clean, valid, ascii, size, if_pos rfl, ← ite_not]
    apply if_congr _ rfl rfl
    simp only [not_or, not_lt, not_not, Bool.and_eq_true, Bool.not_eq_true', decide_eq_true_eq,
      Bool.not_eq_true, and_true, true_and]
    constructor
    · intro accepted
      exact ⟨⟨⟨⟨⟨accepted.2.2.2, head?_of_labels valid⟩, last⟩, accepted.1⟩, colon⟩,
        accepted.2.2.1⟩
    · intro scannable
      have dotted := scannable.1.1.1.1.1
      exact ⟨scannable.1.1.2, List.ne_nil_of_mem dotted, scannable.2, dotted⟩
  · rw [Bool.not_eq_true] at valid
    rw [valid, Bool.and_false, if_neg Bool.false_ne_true, ite_self]

/-- A character of the name of a host is in lower case. -/
theorem toLower_of_hostChar {char : Char} (clean : IOS.hostChar char = true) :
    char.toLower = char := by
  simp only [IOS.hostChar, labelChar, Bool.or_eq_true, Bool.and_eq_true, decide_eq_true_eq,
    Char.le_def, UInt32.le_iff_toNat_le] at clean
  apply Char.toLower_eq_of_not_isUpper
  simp only [Char.isUpper, ge_iff_le, UInt32.le_iff_toNat_le, decide_eq_true_eq, not_and,
    not_le]
  intro least
  rcases clean with ((lower | digit) | rfl) | rfl
  · exact lt_of_lt_of_le (by decide) lower.1
  · exact absurd (le_trans least digit.2) (by decide)
  · exact absurd least (by decide)
  · exact absurd least (by decide)

theorem exactForm_of_scannable (scannable : isScannableHost text name = true) :
    exactForm name = name := by
  have clean := List.all_eq_true.mp
    (IOS.SiteExclusionPolicy.all_hostChar_of_scannable scannable)
  simp only [isScannableHost, Bool.and_eq_true, decide_eq_true_eq] at scannable
  have last := scannable.1.1.1.1.1.2
  have kept : name.toList.rdropWhile (fun char => char = '.') = name.toList := by
    rw [List.rdropWhile_eq_self_iff]
    intro nonempty point
    exact last (List.getLast?_eq_some_getLast nonempty ▸ congrArg some (of_decide_eq_true point))
  rw [exactForm, kept, List.map_congr_left fun char member => toLower_of_hostChar (clean char member),
    List.map_id', String.ofList_toList]

theorem validateExactHost_of_scannable (parsers : ParsesAddresses hosts text)
    (scannable : isScannableHost text name = true) :
    validateExactHost hosts name = some name := by
  have form := exactForm_of_scannable scannable
  rw [validateExactHost_eq parsers, form, if_pos scannable]

theorem validateExactHost_eq_some (parsers : ParsesAddresses hosts text) :
    validateExactHost hosts input = some name ↔
      isScannableHost text name = true ∧ exactForm input = name := by
  rw [validateExactHost_eq parsers, Option.ite_none_right_eq_some, Option.some.injEq]
  constructor
  · intro accepted
    exact ⟨accepted.2 ▸ accepted.1, accepted.2⟩
  · intro accepted
    exact ⟨accepted.2.symm ▸ accepted.1, accepted.2⟩

/-- Arming a host adds its name to the armed ones. -/
theorem isArmed_of_set {armed armed' : Option (Finset String)} {host : String}
    (parsers : ParsesAddresses hosts text) (scannable : isScannableHost text name = true)
    (set : setDirectExactHost hosts armed name true = (0, armed')) :
    isArmed armed' host = (decide (host = name) || isArmed armed host) := by
  unfold setDirectExactHost at set
  rw [validateExactHost_of_scannable parsers scannable] at set
  cases armed with
  | none => cases set
  | some approved =>
      dsimp only at set
      rw [if_pos rfl] at set
      split_ifs at set with full
      · cases set
      · obtain rfl := (Prod.mk.inj set).2
        simp [isArmed, Finset.mem_insert, Bool.decide_or]

/-- A flow to a synthetic address goes by the exact form of its name. -/
theorem forNewFlow_arming (parsers : ParsesAddresses hosts text)
    (armed : Option (Finset String)) (input : String) :
    forNewFlow (hosts.arming armed) true (some input) =
      (isScannableHost text (exactForm input) &&
        (hosts.approved (exactForm input) || isArmed armed (exactForm input))) := by
  have valid : validateExactHost (hosts.arming armed) input = validateExactHost hosts input := rfl
  rw [forNewFlow, Option.bind_some, valid, validateExactHost_eq parsers, Bool.true_and]
  cases isScannableHost text (exactForm input) with
  | false => rfl
  | true => rfl

/-- Both sides agree on the names of hosts: a host that is armed is the host of the flows that go
over a physical connection. -/
theorem host_names_agree (parsers : ParsesAddresses hosts text) (input : String) :
    validateExactHost hosts input =
        (if isScannableHost text (exactForm input) = true then some (exactForm input) else none) ∧
      (∀ name, validateExactHost hosts input = some name →
        validateExactHost hosts name = some name) ∧
      ∀ name armed armed', isScannableHost text name = true →
        setDirectExactHost hosts armed name true = (0, armed') →
        forNewFlow (hosts.arming armed') true (some input) =
          (decide (exactForm input = name) ||
            forNewFlow (hosts.arming armed) true (some input)) := by
  refine ⟨validateExactHost_eq parsers input, ?_, ?_⟩
  · intro name accepted
    exact validateExactHost_of_scannable parsers
      ((validateExactHost_eq_some parsers).mp accepted).1
  · intro name armed armed' scannable set
    rw [forNewFlow_arming parsers, forNewFlow_arming parsers, isArmed_of_set parsers scannable set]
    by_cases same : exactForm input = name
    · rw [same, scannable]
      simp
    · rw [decide_eq_false same, Bool.false_or, Bool.false_or]

/-- The parsers on names without a colon. -/
def sampleParsers : Hosts where
  isIpAddress name := Texts.Ipv4.isIpv4 name.toList
  approved _ := false
  armed _ := false

def sampleText : Text :=
  { IOS.plainText with inetPton4 := fun name => Texts.Ipv4.inetPton name.toList }

theorem sampleParsers_parses : ParsesAddresses sampleParsers sampleText where
  ip := ⟨fun _ => false, fun _ long => absurd long Bool.false_ne_true,
    fun _ => (Bool.or_false _).symm⟩
  pton _ _ := rfl

/-- The host of a flow is armed in its exact form, and no other host is. -/
theorem host_names_agree_sample :
    validateExactHost sampleParsers "API.site.test." = some "api.site.test" ∧
      validateExactHost sampleParsers "10.0.0.1" = none ∧
      ∃ armed, setDirectExactHost sampleParsers (some ∅) "api.site.test" true = (0, armed) ∧
        forNewFlow (sampleParsers.arming armed) true (some "API.site.test.") = true ∧
        forNewFlow (sampleParsers.arming armed) true (some "site.test") = false := by
  have form : exactForm "API.site.test." = "api.site.test" := by decide
  have other : exactForm "site.test" = "site.test" := by decide
  have address : exactForm "10.0.0.1" = "10.0.0.1" := by decide
  have scannable : isScannableHost sampleText "api.site.test" = true := by decide
  have refused : isScannableHost sampleText "10.0.0.1" = false := by decide
  have first := host_names_agree sampleParsers_parses "API.site.test."
  have second := host_names_agree sampleParsers_parses "10.0.0.1"
  have third := host_names_agree sampleParsers_parses "site.test"
  have set : setDirectExactHost sampleParsers (some ∅) "api.site.test" true =
      (0, some (insert "api.site.test" ∅)) := by
    unfold setDirectExactHost
    rw [validateExactHost_of_scannable sampleParsers_parses scannable]
    rfl
  rw [form, if_pos scannable] at first
  rw [address, refused, if_neg Bool.false_ne_true] at second
  refine ⟨first.1, second.1, _, set, ?_, ?_⟩
  · rw [first.2.2 _ _ _ scannable set]
    rfl
  · rw [third.2.2 _ _ _ scannable set, other]
    decide

end ProxyLauncher.Engine
