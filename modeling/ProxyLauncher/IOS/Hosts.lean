import ProxyLauncher.Python.Runtime
import ProxyLauncher.Texts.Trimming

/-!
# The names of hosts

The exclusions of the user are cleaned to the names or addresses of hosts.  A host can be
scanned when its name is a domain name in lower case.  A Swift `Character` is one `Char` here.
-/

namespace ProxyLauncher.IOS

open Texts (textBefore textAfter)

/-- A character of a label. -/
def labelChar (char : Char) : Bool :=
  ('a' ≤ char && char ≤ 'z') || ('0' ≤ char && char ≤ '9') || char = '-'

/-- A character of the name of a host. -/
def hostChar (char : Char) : Bool :=
  labelChar char || char = '.'

/-- The functions of the system that know Unicode or addresses. -/
structure Text where
  inetPton4 : String → Bool
  inetPton6 : String → Bool
  lowercased : String → String
  isWhitespaceOrNewline : Char → Bool
  isNumber : Char → Bool
  lowercased_host : ∀ value, value.toList.all hostChar = true → lowercased value = value
  host_not_whitespace : ∀ char, hostChar char = true → isWhitespaceOrNewline char = false

/-- `split(separator: ".", omittingEmptySubsequences: false)`. -/
def labels (name : String) : List (List Char) :=
  name.toList.splitOn '.'

/-- The tests of a label in `isScannableHost`. -/
def validLabel (label : List Char) : Bool :=
  decide (label ≠ []) && decide (label.length ≤ 63) && decide (label.head? ≠ some '-') &&
    decide (label.getLast? ≠ some '-') && label.all labelChar

/-- `hasPrefix`. -/
def hasPrefix (value start : String) : Bool :=
  start.toList.isPrefixOf value.toList

/-- `hasSuffix`. -/
def hasSuffix (value ending : String) : Bool :=
  ending.toList.isSuffixOf value.toList

/-- `Array(Set(values)).sorted()`. -/
def sortedSet (values : List String) : List String :=
  values.dedup.insertionSort (· ≤ ·)

@[simp] theorem mem_sortedSet {values : List String} {value : String} :
    value ∈ sortedSet values ↔ value ∈ values := by
  simp [sortedSet]

variable (text : Text)

/-- `trimmingCharacters(in: .whitespacesAndNewlines)`. -/
def trimmingCharacters (value : String) : String :=
  .ofList ((value.toList.dropWhile text.isWhitespaceOrNewline).rdropWhile
    text.isWhitespaceOrNewline)

/-- `SiteDependencyDiscovery.isScannableHost`. -/
def isScannableHost (host : String) : Bool :=
  decide ('.' ∈ host.toList) && decide (host.toList.head? ≠ some '.') &&
    decide (host.toList.getLast? ≠ some '.') && decide ((host.toList.map Char.utf8Size).sum ≤ 253) &&
    decide (':' ∉ host.toList) && host.toList.all (fun char => decide (char.toNat < 128)) &&
    !text.inetPton4 host && (labels host).all validLabel

def trackingLabels : List String :=
  ["ads", "ad", "advertising", "analytics", "tracking", "tracker", "metrics", "telemetry",
    "pixel", "beacon", "collect", "stats"]

/-- `SiteDependencyDiscovery.eligibleForAutomaticBypass`. -/
def eligibleForAutomaticBypass (host : String) : Bool :=
  isScannableHost text host && !(labels host).any fun label =>
    decide (String.ofList label ∈ trackingLabels)

/-- `SiteDependencyDiscovery.maxCandidates`. -/
def maxCandidates : ℕ := 24

inductive SiteExclusionError where
  | malformedIPv6
  | unsupportedMask
  | whitespace
  | malformed
  | tooLong
  | tooMany
deriving DecidableEq

namespace SiteExclusionPolicy

def maxEntries : ℕ := 32
def maxResolvedAddresses : ℕ := 128

/-- The address between brackets, or the host of `host:port`. -/
def withoutPort (value : String) : Except SiteExclusionError String :=
  if value.toList.head? = some '[' then
    if ']' ∈ value.toList then .ok (.ofList (textBefore ']' value).toList.tail)
    else .error .malformedIPv6
  else if value.toList.count ':' = 1 then
    let port := (value.toList.dropWhile fun char => char ≠ ':').tail
    if port ≠ [] ∧ port.all text.isNumber = true then .ok (textBefore ':' value) else .ok value
  else .ok value

/-- The last tests of `normalize`. -/
def checked (value : String) : Except SiteExclusionError (Option String) :=
  if value = "" then .error .malformed
  else if '*' ∈ value.toList ∨ '?' ∈ value.toList ∨ hasPrefix value "." = true then
    .error .unsupportedMask
  else if value.toList.any text.isWhitespaceOrNewline = true then .error .whitespace
  else if '@' ∈ value.toList ∨ '[' ∈ value.toList ∨ ']' ∈ value.toList then .error .malformed
  else if value.toList.length > 253 then .error .tooLong
  else .ok (some value)

/-- `normalize`. -/
def normalize (raw : String) : Except SiteExclusionError (Option String) :=
  let value := text.lowercased (trimmingCharacters text raw)
  if value = "" then .ok none
  else
    let value := if '#' ∈ value.toList then trimmingCharacters text (textBefore '#' value) else value
    let value := textAfter "://".toList value
    let value := textBefore '/' value
    if value = "" then .ok none
    else do checked text (trimmingCharacters text (← withoutPort text value))

/-- `try? normalize(raw)`. -/
def normalized (raw : String) : Option String :=
  (normalize text raw).toOption.join

/-- The values of all the entries, in their order. -/
def normalizeEach : List String → Except SiteExclusionError (List String)
  | [] => .ok []
  | raw :: entries => do
      let value ← normalize text raw
      let values ← normalizeEach entries
      return value.toList ++ values

/-- `normalizeAll`. -/
def normalizeAll (entries : List String) : Except SiteExclusionError (List String) := do
  let unique := sortedSet (← normalizeEach text entries)
  if unique.length > maxEntries then throw .tooMany
  return unique

/-- `requiredSiteHosts`. -/
def requiredSiteHosts (apex : String) : List String :=
  if apex = "gosuslugi.ru" then ["gu-st.ru"] else []

/-- The other one of an apex domain and its www name. -/
def wwwAlias (host : String) : String :=
  if hasPrefix host "www." then .ofList (host.toList.drop 4) else "www." ++ host

/-- The domain without a www label. -/
def apex (host : String) : String :=
  if hasPrefix host "www." then .ofList (host.toList.drop 4) else host

/-- `routingHosts`. -/
def routingHosts (host : String) : List String :=
  if text.inetPton4 host = true ∨ text.inetPton6 host = true ∨ '.' ∉ host.toList then [host]
  else if wwwAlias host = "" ∨ wwwAlias host = host then [host]
  else sortedSet ([host, wwwAlias host] ++ requiredSiteHosts (apex host))

variable {text : Text} {raw value : String} {entries values : List String}

theorem mem_normalizeEach (each : normalizeEach text entries = .ok values) :
    value ∈ values ↔ ∃ raw ∈ entries, normalize text raw = .ok (some value) := by
  induction entries generalizing values with
  | nil =>
      obtain rfl := Except.ok.inj each
      simp
  | cons raw entries ih =>
      rw [normalizeEach] at each
      rcases first : normalize text raw with error | found
      · simp [first, bind, Except.bind] at each
      · rcases rest : normalizeEach text entries with error | others
        · simp [first, rest, bind, Except.bind] at each
        · obtain rfl : found.toList ++ others = values := by
            simpa [first, rest, bind, Except.bind, pure, Except.pure] using each
          simp [ih rest, first, eq_comm]

/-- The entries of a clean list are the cleaned entries. -/
theorem mem_normalizeAll (all : normalizeAll text entries = .ok values) :
    value ∈ values ↔ ∃ raw ∈ entries, normalize text raw = .ok (some value) := by
  rw [normalizeAll] at all
  rcases each : normalizeEach text entries with error | found
  · simp [each, bind, Except.bind] at all
  · by_cases tooMany : (sortedSet found).length > maxEntries
    · simp [each, tooMany, bind, Except.bind, throw, throwThe, MonadExceptOf.throw] at all
    · obtain rfl : sortedSet found = values := by
        simpa [each, tooMany, bind, Except.bind, pure, Except.pure] using all
      rw [mem_sortedSet]
      exact mem_normalizeEach each

theorem mem_splitOn {char separator : Char} {chars : List Char} (member : char ∈ chars) :
    char = separator ∨ ∃ part ∈ chars.splitOn separator, char ∈ part := by
  induction chars with
  | nil => exact absurd member (by simp)
  | cons head chars ih =>
      rw [List.splitOn, List.splitOnP_cons_eq_if_modifyHead]
      by_cases separates : (head == separator) = true
      · rw [if_pos separates]
        rcases List.mem_cons.mp member with rfl | later
        · exact .inl (by simpa using separates)
        · rcases ih later with same | ⟨part, there, inside⟩
          · exact .inl same
          · exact .inr ⟨part, by simpa [List.splitOn] using .inr there, inside⟩
      · rw [if_neg separates]
        rcases shape : chars.splitOnP (· == separator) with _ | ⟨first, parts⟩
        · exact absurd shape (List.splitOnP_ne_nil _ _)
        · rw [List.modifyHead_cons]
          rcases List.mem_cons.mp member with rfl | later
          · exact .inr ⟨char :: first, by simp, by simp⟩
          · rcases ih later with same | ⟨part, there, inside⟩
            · exact .inl same
            · rw [List.splitOn, shape] at there
              rcases List.mem_cons.mp there with rfl | other
              · exact .inr ⟨head :: part, by simp, by simp [inside]⟩
              · exact .inr ⟨part, by simp [other], inside⟩

theorem all_hostChar_of_scannable {host : String} (scannable : isScannableHost text host = true) :
    host.toList.all hostChar = true := by
  simp only [isScannableHost, Bool.and_eq_true] at scannable
  have valid := scannable.2
  rw [List.all_eq_true] at valid ⊢
  intro char member
  rcases @mem_splitOn char '.' _ member with dot | ⟨part, label, inside⟩
  · simp [hostChar, dot]
  · have checked := valid part label
    simp only [validLabel, Bool.and_eq_true, List.all_eq_true] at checked
    simp [hostChar, checked.2 char inside]

theorem trimmingCharacters_host {host : String} (clean : host.toList.all hostChar = true) :
    trimmingCharacters text host = host := by
  rw [List.all_eq_true] at clean
  have front : host.toList.dropWhile text.isWhitespaceOrNewline = host.toList := by
    rw [List.dropWhile_eq_self_iff]
    intro nonempty
    simp [text.host_not_whitespace _ (clean _ (List.getElem_mem nonempty))]
  rw [trimmingCharacters, front, List.rdropWhile_eq_self_iff.mpr, String.ofList_toList]
  intro nonempty
  simp [text.host_not_whitespace _ (clean _ (List.getLast_mem nonempty))]

/-- A host that can be scanned is clean. -/
theorem normalize_of_scannable {host : String} (scannable : isScannableHost text host = true) :
    normalize text host = .ok (some host) := by
  have clean := all_hostChar_of_scannable scannable
  have absent (char : Char) (other : hostChar char = false) : char ∉ host.toList := by
    intro member
    exact absurd ((List.all_eq_true.mp clean char member).symm.trans other) (by simp)
  have unspaced : host.toList.any text.isWhitespaceOrNewline = false := by
    rw [List.any_eq_false]
    intro char member
    simp [text.host_not_whitespace char (List.all_eq_true.mp clean char member)]
  simp only [isScannableHost, Bool.and_eq_true, decide_eq_true_eq] at scannable
  obtain ⟨⟨⟨⟨⟨⟨⟨dotted, undotted⟩, -⟩, short⟩, -⟩, -⟩, -⟩, -⟩ := scannable
  have nonempty : host ≠ "" := by
    rintro rfl
    simp at dotted
  have bounded : host.toList.length ≤ 253 := by
    refine le_trans ?_ short
    rw [← List.length_map (f := Char.utf8Size)]
    refine List.length_le_sum_of_one_le _ ?_
    intro size member
    obtain ⟨char, -, rfl⟩ := List.mem_map.mp member
    exact char.utf8Size_pos
  have portless : withoutPort text host = .ok host := by
    have unbracketed : host.toList.head? ≠ some '[' := fun bracket =>
      absent '[' (by decide) (List.mem_of_mem_head? bracket)
    have colons : host.toList.count ':' ≠ 1 := by
      rw [List.count_eq_zero_of_not_mem (absent ':' (by decide))]
      simp
    rw [withoutPort, if_neg unbracketed, if_neg colons]
  have stripped : textAfter "://".toList host = host :=
    Texts.textAfter_of_notMem (show ':' ∈ "://".toList by decide) (absent ':' (by decide))
  have unprefixed : hasPrefix host "." = false := by
    rw [hasPrefix]
    cases shape : host.toList with
    | nil => rfl
    | cons head tail =>
        rw [shape] at undotted
        simpa [List.isPrefixOf] using Ne.symm (by simpa using undotted)
  rw [normalize]
  simp only [trimmingCharacters_host clean, text.lowercased_host host clean, nonempty,
    absent '#' (by decide), stripped,
    Texts.textBefore_of_notMem (absent '/' (by decide)), portless, if_false]
  simp only [bind, Except.bind, trimmingCharacters_host clean, checked, nonempty,
    absent '*' (by decide), absent '?' (by decide), unprefixed, unspaced,
    absent '@' (by decide), absent '[' (by decide), absent ']' (by decide), if_false, or_self,
    Bool.false_eq_true, gt_iff_lt, not_lt.mpr bounded]

end SiteExclusionPolicy

/-- The functions of the system on names in lower case. -/
def plainText : Text where
  inetPton4 _ := false
  inetPton6 _ := false
  lowercased value := value
  isWhitespaceOrNewline char := char = ' ' || char = '\n'
  isNumber := Char.isDigit
  lowercased_host _ _ := rfl
  host_not_whitespace char clean := by
    rw [Bool.or_eq_false_iff, decide_eq_false_iff_not, decide_eq_false_iff_not]
    constructor
    · rintro rfl
      exact absurd clean (by decide)
    · rintro rfl
      exact absurd clean (by decide)

/-- The children of a site that have two letters. -/
def shortChild (chars : Char × Char) : String :=
  .ofList [chars.1, chars.2, '.', 'a', '.', 'i', 'o']

def shortLetter (char : Char) : Bool :=
  labelChar char && decide (char ≠ '-') && decide (char ≠ ':') && decide (char ≠ '.') &&
    decide (char.toNat < 128) && decide (char.utf8Size = 1) && decide (char < 'z')

theorem labels_shortChild {first second : Char} (firstShort : shortLetter first = true)
    (secondShort : shortLetter second = true) :
    labels (shortChild (first, second)) = [[first, second], ['a'], ['i', 'o']] := by
  simp only [shortLetter, Bool.and_eq_true, decide_eq_true_eq] at firstShort secondShort
  have dot : first ≠ '.' := firstShort.1.1.1.2
  have dot' : second ≠ '.' := secondShort.1.1.1.2
  simp [labels, shortChild, List.splitOn, List.splitOnP_cons_eq_if_modifyHead, dot, dot']

theorem isScannableHost_shortChild {first second : Char} (firstShort : shortLetter first = true)
    (secondShort : shortLetter second = true) :
    isScannableHost plainText (shortChild (first, second)) = true := by
  have parts := labels_shortChild firstShort secondShort
  simp only [shortLetter, Bool.and_eq_true, decide_eq_true_eq] at firstShort secondShort
  obtain ⟨⟨⟨⟨⟨⟨label, dash⟩, colon⟩, dot⟩, ascii⟩, size⟩, -⟩ := firstShort
  obtain ⟨⟨⟨⟨⟨⟨label', dash'⟩, colon'⟩, dot'⟩, ascii'⟩, size'⟩, -⟩ := secondShort
  have letters : labelChar 'a' = true ∧ labelChar 'i' = true ∧ labelChar 'o' = true := by decide
  have chars : (shortChild (first, second)).toList = [first, second, '.', 'a', '.', 'i', 'o'] :=
    String.toList_ofList
  have sizes : Char.utf8Size '.' = 1 ∧ Char.utf8Size 'a' = 1 ∧ Char.utf8Size 'i' = 1 ∧
      Char.utf8Size 'o' = 1 := by decide
  simp [isScannableHost, parts, validLabel, label, label', dash, dash', letters, chars, dot,
    colon.symm, colon'.symm, ascii, ascii', size, size', sizes, plainText]

end ProxyLauncher.IOS
