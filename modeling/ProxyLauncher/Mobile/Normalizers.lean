import ProxyLauncher.Mobile.ExclusionEntries

/-!
# The cleaners of the two platforms

Both cleaners give the outcome of the authority of an entry, the one for Android after trimming
it.  They agree, and an accepted host names itself again, unless the authority is misread.
-/

namespace ProxyLauncher.Mobile

open ProxyLauncher.Texts

/-- The functions of Swift that know Unicode.  On printable ASCII they are what they say. -/
structure SwiftText extends IOS.Text where
  lowercased_printable : ∀ value, (∀ char ∈ value.toList, Printable char) →
    lowercased value = .ofList (value.toList.map Char.toLower)
  isWhitespaceOrNewline_printable : ∀ char, Printable char →
    isWhitespaceOrNewline char = decide (char = ' ')
  isNumber_printable : ∀ char, Printable char → isNumber char = char.isDigit

/-- An outcome with a text for the host. -/
def textual (result : Option (Option (List Char))) : Option (Option String) :=
  result.map (Option.map String.ofList)

theorem textual_bind {found : Option (List Char)}
    {rest : List Char → Option (Option (List Char))} :
    textual (found.bind rest) = found.bind fun host => textual (rest host) := by
  cases found <;> rfl

theorem toOption_bind {ε α β : Type} {first : Except ε α} {rest : α → Except ε β} :
    (first >>= rest).toOption = first.toOption.bind fun value => (rest value).toOption := by
  cases first <;> rfl

/-- The host of an authority is made of its characters. -/
theorem mem_inner {value host : List Char} {char : Char} (found : inner value = some host)
    (member : char ∈ host) : char ∈ value := by
  unfold inner at found
  split_ifs at found
  · obtain rfl := Option.some.inj found
    exact mem_of_mem_before (List.mem_of_mem_tail member)
  · obtain rfl := Option.some.inj found
    exact mem_of_mem_before member
  · exact Option.some.inj found ▸ member

/-- Trimming commutes with lower case. -/
theorem trimmed_lower {chars : List Char} :
    trimmed (chars.map Char.toLower) = (trimmed chars).map Char.toLower :=
  trim_map fun _ => decide_eq_decide.mpr (toLower_eq_iff (by decide))

/-- Trimming before a cut does not change what is trimmed after it. -/
theorem trimmed_before {separator : Char} {chars : List Char} (solid : separator ≠ ' ') :
    trimmed (before separator (trimmed chars)) = trimmed (before separator chars) :=
  trim_before_trim (decide_eq_false solid)

theorem authority_trimmed {entry : List Char} : authority (trimmed entry) = authority entry := by
  rw [authority, trimmed_before (by decide), authority]

theorem authority_of_trimmed_nil {entry : List Char} (blank : trimmed entry = []) :
    authority entry = [] := by
  rw [← authority_trimmed, blank]
  rfl

section Android

open Android

variable {kotlin : KotlinText} {value : List Char}

/-- On printable ASCII, Kotlin trims spaces. -/
theorem trimWhitespace_ofList (printable : ∀ char ∈ value, Printable char) :
    trimWhitespace (.ofList value) = .ofList (trimmed value) := by
  rw [trimWhitespace, String.toList_ofList]
  congr 1
  exact trim_congr fun char member => isWhitespace_of_printable (printable char member)

theorem isBlank_ofList (printable : ∀ char ∈ value, Printable char) :
    isBlank (.ofList value) = true ↔ trimmed value = [] := by
  rw [trim_eq_nil, isBlank, String.toList_ofList, List.all_eq_true]
  exact forall₂_congr fun char member => by rw [isWhitespace_of_printable (printable char member)]

/-- On printable ASCII, every character is one unit. -/
theorem utf16Length_ofList (printable : ∀ char ∈ value, Printable char) :
    utf16Length (.ofList value) = value.length := by
  rw [utf16Length, String.toList_ofList]
  calc (value.map fun char => if char.toNat < 0x10000 then 1 else 2).sum
      = (value.map fun _ => 1).sum := by
        refine congrArg List.sum (List.map_congr_left fun char member => if_pos ?_)
        exact lt_of_le_of_lt (printable char member).2 (by decide)
    _ = value.length := by simp

/-- The last tests on Android accept what is acceptable. -/
theorem checked_android (printable : ∀ char ∈ value, Printable char) :
    (SiteExclusionPolicy.checked (.ofList value)).toOption = textual (accepted value) := by
  have solid : value.all (fun char => !isWhitespace char) = true ↔ ' ' ∉ value := by
    rw [List.all_eq_true]
    constructor
    · intro all member
      exact absurd (all ' ' member) (by decide)
    · intro missing char member
      rw [isWhitespace_of_printable (printable char member), Bool.not_eq_true',
        decide_eq_false_iff_not]
      rintro rfl
      exact missing member
  have blank : isBlank (.ofList value) = false ↔ trimmed value ≠ [] := by
    rw [← Bool.not_eq_true, isBlank_ofList printable]
  simp only [SiteExclusionPolicy.checked, toOption_require, String.toList_ofList, blank,
    utf16Length_ofList printable]
  by_cases acceptable : Acceptable value
  · have unblank : trimmed value ≠ [] := by
      rw [trimmed_of_notMem acceptable.unspaced]
      exact acceptable.nonempty
    rw [if_pos unblank, if_pos acceptable.unmasked, if_pos (solid.mpr acceptable.unspaced),
      if_pos acceptable.plain, if_pos acceptable.short, accepted, if_pos acceptable]
    rfl
  · rw [accepted_of_not acceptable]
    split_ifs with unblank unmasked unspaced plain short
    · exact absurd ⟨ne_nil_of_trimmed unblank, unmasked, solid.mp unspaced, plain, short⟩
        acceptable
    all_goals rfl

theorem substringBeforeLast_ofList {delimiter : Char} {host port : List Char}
    (missing : delimiter ∉ port) :
    substringBeforeLast delimiter (.ofList (host ++ delimiter :: port)) = .ofList host := by
  have behind : ∀ char ∈ port, decide (char ≠ delimiter) = true := by
    intro char member
    exact decide_eq_true fun same => missing (same ▸ member)
  rw [substringBeforeLast, String.toList_ofList, if_pos (by simp), List.append_cons,
    rdropWhile_append_of_pos behind, List.rdropWhile_concat_neg _ _ _ (by simp),
    List.dropLast_concat]

theorem substringAfterLast_ofList {delimiter : Char} {host port : List Char}
    (missing : delimiter ∉ port) :
    substringAfterLast delimiter (.ofList (host ++ delimiter :: port)) = .ofList port := by
  have behind : ∀ char ∈ port.reverse, decide (char ≠ delimiter) = true := by
    intro char member
    exact decide_eq_true fun same => missing (same ▸ List.mem_reverse.mp member)
  rw [substringAfterLast, String.toList_ofList, List.rtakeWhile, List.reverse_append,
    List.reverse_cons, List.append_assoc, List.takeWhile_append_of_pos behind]
  simp

/-- Android takes a port off like the common model when there are no brackets. -/
theorem withoutPort_android_unbracketed (printable : ∀ char ∈ value, Printable char)
    (unbracketed : value.head? ≠ some '[') :
    (SiteExclusionPolicy.withoutPort kotlin (.ofList value)).toOption =
      (inner value).map String.ofList := by
  rw [SiteExclusionPolicy.withoutPort, String.toList_ofList, if_neg unbracketed]
  by_cases one : value.count ':' = 1
  · obtain ⟨host, port, rfl, missing, missing'⟩ := exists_split_of_count one
    have digits : port.all kotlin.isDigit = true ↔ ∀ char ∈ port, char.isDigit = true := by
      rw [List.all_eq_true]
      exact forall₂_congr fun char member => by
        rw [kotlin.isDigit_printable char (printable char (by simp [member]))]
    have numbered : substringAfterLast ':' (.ofList (host ++ ':' :: port)) ≠ "" ∧
        (substringAfterLast ':' (.ofList (host ++ ':' :: port))).toList.all kotlin.isDigit = true ↔
          Numbered (host ++ ':' :: port) := by
      rw [substringAfterLast_ofList missing', String.toList_ofList, digits,
        numbered_split_iff missing, ne_eq, ← String.toList_inj, String.toList_ofList]
      rfl
    rw [if_pos one]
    dsimp only
    rw [substringBeforeLast_ofList missing']
    by_cases port' : Numbered (host ++ ':' :: port)
    · rw [if_pos (numbered.mpr port'), inner_of_numbered unbracketed port',
        before_append_separator missing]
      rfl
    · rw [if_neg (numbered.not.mpr port'), inner_of_not_numbered unbracketed port']
      rfl
  · have unnumbered : ¬ Numbered value := fun numbered => one (count_of_numbered numbered)
    rw [if_neg one, inner_of_not_numbered unbracketed unnumbered]
    rfl

/-- Between brackets Android takes what is inside and refuses nothing but the empty text. -/
theorem withoutPort_android_of_enclosed {inside : List Char} (enclosed : Enclosed inside value) :
    (SiteExclusionPolicy.withoutPort kotlin (.ofList value)).toOption =
      if inside = [] then none else some (.ofList inside) := by
  have bracket := head?_of_enclosed enclosed
  obtain ⟨rest, rfl, missing⟩ := enclosed
  have close : ('[' :: (inside ++ ']' :: rest)).idxOf ']' = inside.length + 1 := by
    rw [← List.cons_append, List.idxOf_append_of_notMem (by simp [missing])]
    simp
  rw [SiteExclusionPolicy.withoutPort, String.toList_ofList, if_pos bracket]
  dsimp only
  rw [toOption_require, close]
  cases inside with
  | nil => simp
  | cons char inside =>
      rw [if_pos ⟨by simp, by simp⟩, if_neg (by simp)]
      simp [pure, Except.pure, Except.toOption]

/-- What the cleaner for Android does with a trimmed authority. -/
theorem cleaned_android (printable : ∀ char ∈ value, Printable char) :
    (SiteExclusionPolicy.withoutPort kotlin (.ofList value) >>= fun host =>
      SiteExclusionPolicy.checked (trimWhitespace host)).toOption =
        textual ((inner value).bind fun host => accepted (trimmed host)) := by
  have tested {host : List Char} (inside : ∀ char ∈ host, char ∈ value) :
      (SiteExclusionPolicy.checked (trimWhitespace (.ofList host))).toOption =
        textual (accepted (trimmed host)) := by
    have printable' : ∀ char ∈ host, Printable char := fun char member =>
      printable char (inside char member)
    rw [trimWhitespace_ofList printable',
      checked_android fun char member => printable' char (mem_of_mem_trim member)]
  rw [toOption_bind, textual_bind]
  by_cases bracket : value.head? = some '['
  · by_cases closed : ']' ∈ value
    · obtain ⟨inside, enclosed⟩ := exists_enclosed bracket closed
      have found := inner_of_enclosed enclosed
      have nowhere : accepted (trimmed []) = none :=
        accepted_of_not fun acceptable => acceptable.nonempty rfl
      rw [withoutPort_android_of_enclosed enclosed, found, Option.bind_some]
      by_cases empty : inside = []
      · rw [if_pos empty, empty, nowhere]
        rfl
      · rw [if_neg empty, Option.bind_some]
        exact tested fun char => mem_inner found
    · have failed : (SiteExclusionPolicy.withoutPort kotlin (.ofList value)).toOption = none := by
        rw [SiteExclusionPolicy.withoutPort, String.toList_ofList, if_pos bracket]
        dsimp only
        rw [toOption_require, if_neg (fun both => closed both.1)]
      rw [failed, inner_of_notMem bracket closed]
      rfl
  · rw [withoutPort_android_unbracketed printable bracket]
    cases found : inner value with
    | none => rfl
    | some host =>
        rw [Option.map_some, Option.bind_some, Option.bind_some]
        exact tested fun char => mem_inner found

/-- Android normalizes an entry to the outcome of its trimmed authority. -/
theorem normalize_android {raw : String} (printable : ∀ char ∈ raw.toList, Printable char) :
    (SiteExclusionPolicy.normalize kotlin raw).toOption =
      textual (outcome (trimmed (authority (raw.toList.map Char.toLower)))) := by
  set entry := raw.toList.map Char.toLower with entry_eq
  have lower : ∀ char ∈ entry, Printable char := by
    intro char member
    obtain ⟨original, there, rfl⟩ := List.mem_map.mp member
    exact printable_toLower (printable original there)
  have lowered : kotlin.lowercase (trimWhitespace raw) = .ofList (trimmed entry) := by
    rw [← String.ofList_toList (s := raw), trimWhitespace_ofList printable,
      kotlin.lowercase_printable _ ?_, String.toList_ofList, entry_eq, trimmed_lower]
    intro char member
    rw [String.toList_ofList] at member
    exact printable char (mem_of_mem_trim member)
  have unhashed : trimWhitespace (substringBefore '#' (.ofList (trimmed entry))) =
      .ofList (trimmed (before '#' entry)) := by
    rw [substringBefore, textBefore_ofList, trimWhitespace_ofList, trimmed_before (by decide)]
    exact fun char member => lower char (mem_of_mem_trim (mem_of_mem_before member))
  have there : ∀ char ∈ authority entry, Printable char := fun char member =>
    lower char (mem_authority member)
  have cut : trimWhitespace (substringBefore '/' (substringAfter "://".toList
      (.ofList (trimmed (before '#' entry))))) = .ofList (trimmed (authority entry)) := by
    rw [substringAfter, textAfter_ofList, substringBefore, textBefore_ofList]
    exact trimWhitespace_ofList there
  have there' : ∀ char ∈ trimmed (authority entry), Printable char := fun char member =>
    there char (mem_of_mem_trim member)
  have lower' : ∀ char ∈ trimmed entry, Printable char := fun char member =>
    lower char (mem_of_mem_trim member)
  rw [SiteExclusionPolicy.normalize]
  simp only [lowered, unhashed, cut]
  by_cases blank : trimmed entry = []
  · rw [if_pos ((isBlank_ofList lower').mpr (by rw [trimmed_trimmed, blank])),
      authority_of_trimmed_nil blank]
    rfl
  · rw [if_neg ((isBlank_ofList lower').not.mpr (by rwa [trimmed_trimmed]))]
    by_cases nothing : trimmed (authority entry) = []
    · rw [if_pos ((isBlank_ofList there').mpr (by rw [trimmed_trimmed, nothing])), nothing]
      rfl
    · rw [if_neg ((isBlank_ofList there').not.mpr (by rwa [trimmed_trimmed])), outcome,
        if_neg nothing]
      exact cleaned_android there'

end Android

section IOS

open IOS

variable {swift : SwiftText} {value : List Char}

/-- On printable ASCII, Swift trims spaces. -/
theorem trimmingCharacters_ofList (printable : ∀ char ∈ value, Printable char) :
    trimmingCharacters swift.toText (.ofList value) = .ofList (trimmed value) := by
  rw [trimmingCharacters, String.toList_ofList]
  congr 1
  exact trim_congr fun char member =>
    swift.isWhitespaceOrNewline_printable char (printable char member)

theorem ofList_eq_empty : String.ofList value = "" ↔ value = [] := by
  rw [← String.toList_inj, String.toList_ofList]
  rfl

/-- The last tests on iOS accept what is acceptable. -/
theorem checked_ios (printable : ∀ char ∈ value, Printable char) :
    (SiteExclusionPolicy.checked swift.toText (.ofList value)).toOption =
      textual (accepted value) := by
  have spaced : value.any swift.isWhitespaceOrNewline = true ↔ ' ' ∈ value := by
    rw [List.any_eq_true]
    constructor
    · rintro ⟨char, member, space⟩
      rw [swift.isWhitespaceOrNewline_printable char (printable char member),
        decide_eq_true_eq] at space
      exact space ▸ member
    · intro member
      refine ⟨' ', member, ?_⟩
      rw [swift.isWhitespaceOrNewline_printable ' ' (printable ' ' member), decide_eq_true_eq]
  have dotted : hasPrefix (.ofList value) "." = true ↔ value.head? = some '.' := by
    have dot : ".".toList = ['.'] := rfl
    rw [hasPrefix, dot, String.toList_ofList, List.isPrefixOf_iff_prefix]
    cases value with
    | nil => simp
    | cons char chars => simp [List.cons_prefix_cons, eq_comm]
  simp only [SiteExclusionPolicy.checked, ofList_eq_empty, String.toList_ofList, dotted, spaced]
  by_cases acceptable : Acceptable value
  · obtain ⟨nonempty, unmasked, unspaced, plain, short⟩ := id acceptable
    rw [if_neg nonempty, if_neg (by tauto), if_neg unspaced, if_neg (by tauto),
      if_neg (not_lt.mpr short), accepted, if_pos acceptable]
    rfl
  · rw [accepted_of_not acceptable]
    split_ifs with empty masked space odd long
    all_goals try rfl
    exact absurd ⟨empty, by tauto, space, by tauto, not_lt.mp long⟩ acceptable

/-- iOS takes a port off like the common model. -/
theorem withoutPort_ios (printable : ∀ char ∈ value, Printable char) :
    (SiteExclusionPolicy.withoutPort swift.toText (.ofList value)).toOption =
      (inner value).map String.ofList := by
  rw [SiteExclusionPolicy.withoutPort, textBefore_ofList, textBefore_ofList, String.toList_ofList,
    String.toList_ofList]
  by_cases bracket : value.head? = some '['
  · rw [if_pos bracket]
    by_cases closed : ']' ∈ value
    · rw [if_pos closed, inner, if_pos bracket, if_pos closed]
      rfl
    · rw [if_neg closed, inner_of_notMem bracket closed]
      rfl
  · rw [if_neg bracket]
    by_cases one : value.count ':' = 1
    · obtain ⟨host, port, rfl, missing, missing'⟩ := exists_split_of_count one
      have behind : ((host ++ ':' :: port).dropWhile fun char => decide (char ≠ ':')).tail =
          port := by
        rw [List.dropWhile_append_of_pos, List.dropWhile_cons_of_neg (by simp), List.tail_cons]
        exact fun char member => decide_eq_true fun same => missing (same ▸ member)
      have numbered : port ≠ [] ∧ port.all swift.isNumber = true ↔
          Numbered (host ++ ':' :: port) := by
        rw [numbered_split_iff missing, List.all_eq_true]
        refine and_congr_right fun _ => forall₂_congr fun char member => ?_
        rw [swift.isNumber_printable char (printable char (by simp [member]))]
      rw [if_pos one]
      dsimp only
      rw [behind, before_append_separator missing]
      by_cases port' : Numbered (host ++ ':' :: port)
      · rw [if_pos (numbered.mpr port'), inner_of_numbered bracket port',
          before_append_separator missing]
        rfl
      · rw [if_neg (numbered.not.mpr port'), inner_of_not_numbered bracket port']
        rfl
    · have unnumbered : ¬ Numbered value := fun numbered => one (count_of_numbered numbered)
      rw [if_neg one, inner_of_not_numbered bracket unnumbered]
      rfl

/-- iOS normalizes an entry to the outcome of its authority as it is. -/
theorem normalize_ios {raw : String} (printable : ∀ char ∈ raw.toList, Printable char) :
    (SiteExclusionPolicy.normalize swift.toText raw).toOption =
      textual (outcome (authority (raw.toList.map Char.toLower))) := by
  set entry := raw.toList.map Char.toLower with entry_eq
  have lower : ∀ char ∈ entry, Printable char := by
    intro char member
    obtain ⟨original, there, rfl⟩ := List.mem_map.mp member
    exact printable_toLower (printable original there)
  have lowered : swift.lowercased (trimmingCharacters swift.toText raw) =
      .ofList (trimmed entry) := by
    rw [← String.ofList_toList (s := raw), trimmingCharacters_ofList printable,
      swift.lowercased_printable _ ?_, String.toList_ofList, entry_eq, trimmed_lower]
    intro char member
    rw [String.toList_ofList] at member
    exact printable char (mem_of_mem_trim member)
  have unhashed : (if '#' ∈ trimmed entry then
      trimmingCharacters swift.toText (textBefore '#' (.ofList (trimmed entry)))
        else .ofList (trimmed entry)) = .ofList (trimmed (before '#' entry)) := by
    rw [← trimmed_before (by decide)]
    by_cases hash : '#' ∈ trimmed entry
    · rw [if_pos hash, textBefore_ofList]
      exact trimmingCharacters_ofList fun char member =>
        lower char (mem_of_mem_trim (mem_of_mem_before member))
    · rw [if_neg hash, before_of_notMem hash, trimmed_trimmed]
  have cut : textBefore '/' (textAfter "://".toList (.ofList (trimmed (before '#' entry)))) =
      .ofList (authority entry) := by
    rw [textAfter_ofList, textBefore_ofList]
    rfl
  have there : ∀ char ∈ authority entry, Printable char := fun char member =>
    lower char (mem_authority member)
  rw [SiteExclusionPolicy.normalize]
  simp only [lowered, String.toList_ofList, unhashed, cut, ofList_eq_empty]
  by_cases blank : trimmed entry = []
  · rw [if_pos blank, authority_of_trimmed_nil blank]
    rfl
  · rw [if_neg blank, outcome]
    by_cases nothing : authority entry = []
    · rw [if_pos nothing, if_pos nothing]
      rfl
    · rw [if_neg nothing, if_neg nothing, toOption_bind, withoutPort_ios there, textual_bind]
      cases found : inner (authority entry) with
      | none => rfl
      | some host =>
          have inside : ∀ char ∈ host, Printable char := fun char member =>
            there char (mem_inner found member)
          rw [Option.map_some, Option.bind_some, Option.bind_some,
            trimmingCharacters_ofList inside,
            checked_ios fun char member => inside char (mem_of_mem_trim member)]

end IOS

section Agreement

variable {chars value host : List Char}

/-- Texts and lists of characters tell the same outcomes apart. -/
theorem textual_injective : Function.Injective textual := by
  have texts : Function.Injective String.ofList := fun first second same => by
    rw [← String.toList_ofList (l := first), same, String.toList_ofList]
  exact Option.map_injective (Option.map_injective texts)

theorem textual_some_some : textual (some (some host)) = some (some (.ofList host)) :=
  rfl

/-- An outcome with a name comes from an outcome with a host. -/
theorem exists_of_textual {name : String} {result : Option (Option (List Char))}
    (named : textual result = some (some name)) :
    ∃ host, name = .ofList host ∧ result = some (some host) := by
  refine ⟨name.toList, String.ofList_toList.symm, textual_injective ?_⟩
  rw [named, textual_some_some, String.ofList_toList]

/-- A host that is named is acceptable and made of the characters of the authority. -/
theorem acceptable_of_outcome (named : outcome value = some (some host)) :
    Acceptable host ∧ ∀ char ∈ host, char ∈ value := by
  unfold outcome at named
  split_ifs at named
  · exact absurd named (by simp)
  · obtain ⟨inside, found, accepted⟩ := Option.bind_eq_some_iff.mp named
    obtain ⟨acceptable, same⟩ := accepted_eq_some.mp accepted
    obtain rfl := Option.some.inj same
    exact ⟨acceptable, fun char member => mem_inner found (mem_of_mem_trim member)⟩

/-- A host out of an authority is its own authority. -/
theorem authority_of_named (acceptable : Acceptable host)
    (inside : ∀ char ∈ host, char ∈ authority (chars.map Char.toLower)) :
    authority (host.map Char.toLower) = host := by
  have lower : host.map Char.toLower = host := by
    calc host.map Char.toLower
        = host.map id := by
          refine List.map_congr_left fun char member => ?_
          obtain ⟨original, -, same⟩ := List.mem_map.mp (mem_authority (inside char member))
          rw [← same, Char.toLower_toLower_eq_toLower, id]
      _ = host := List.map_id host
  have bare := @notMem_authority (chars.map Char.toLower)
  have unhashed : '#' ∉ host := fun member => bare.1 (inside _ member)
  have unslashed : '/' ∉ host := fun member => bare.2 (inside _ member)
  have schemeless : after "://".toList host = none :=
    after_eq_none (by decide) unslashed
  rw [lower, authority, before_of_notMem unhashed, trimmed_of_notMem acceptable.unspaced,
    schemeless, Option.getD_none, before_of_notMem unslashed]

/-- A cleaner that reads the outcome of an authority names a host again exactly if the host does
not end with a port. -/
theorem idempotent_iff {ε : Type} {normalize : String → Except ε (Option String)}
    {read : List Char → List Char}
    (reads : ∀ raw : String, (∀ char ∈ raw.toList, Printable char) →
      (normalize raw).toOption = textual (outcome (read (authority (raw.toList.map Char.toLower)))))
    (inside : ∀ chars, ∀ char ∈ read chars, char ∈ chars)
    (solid : ∀ host, ' ' ∉ host → read host = host) {raw : String}
    (printable : ∀ char ∈ raw.toList, Printable char) :
    (∀ host, normalize raw = .ok (some host) → normalize host = .ok (some host)) ↔
      ∀ host, outcome (read (authority (raw.toList.map Char.toLower))) = some (some host) →
        ¬ Numbered host := by
  have again {host : List Char}
      (named : outcome (read (authority (raw.toList.map Char.toLower))) = some (some host)) :
      normalize (.ofList host) = .ok (some (.ofList host)) ↔ ¬ Numbered host := by
    obtain ⟨acceptable, member⟩ := acceptable_of_outcome named
    have source : ∀ char ∈ host, char ∈ authority (raw.toList.map Char.toLower) :=
      fun char there => inside _ char (member char there)
    have printable' : ∀ char ∈ (String.ofList host).toList, Printable char := by
      intro char there
      rw [String.toList_ofList] at there
      obtain ⟨original, there', rfl⟩ := List.mem_map.mp (mem_authority (source char there))
      exact printable_toLower (printable original there')
    rw [Python.ok_iff_toOption, reads _ printable', String.toList_ofList,
      authority_of_named acceptable source, solid host acceptable.unspaced, ← textual_some_some,
      textual_injective.eq_iff]
    exact outcome_of_acceptable acceptable
  have named (name : String) : normalize raw = .ok (some name) ↔ ∃ host, name = .ofList host ∧
      outcome (read (authority (raw.toList.map Char.toLower))) = some (some host) := by
    rw [Python.ok_iff_toOption, reads raw printable]
    constructor
    · exact exists_of_textual
    · rintro ⟨host, rfl, found⟩
      rw [found, textual_some_some]
  constructor
  · intro idempotent host found
    exact (again found).mp (idempotent _ ((named _).mpr ⟨host, rfl, found⟩))
  · intro stable name done
    obtain ⟨host, rfl, found⟩ := (named name).mp done
    exact (again found).mpr (stable host found)

end Agreement

section Claim

variable (kotlin : Android.KotlinText) (swift : SwiftText)

/-- The platforms agree on an entry of printable ASCII, and what each of them accepts names itself
again, exactly if its authority is not misread. -/
theorem normalizers_consistent_iff (raw : String)
    (printable : ∀ char ∈ raw.toList, Printable char) :
    ((Android.SiteExclusionPolicy.normalize kotlin raw).toOption =
        (IOS.SiteExclusionPolicy.normalize swift.toText raw).toOption ∧
      (∀ host, Android.SiteExclusionPolicy.normalize kotlin raw = .ok (some host) →
        Android.SiteExclusionPolicy.normalize kotlin host = .ok (some host)) ∧
      ∀ host, IOS.SiteExclusionPolicy.normalize swift.toText raw = .ok (some host) →
        IOS.SiteExclusionPolicy.normalize swift.toText host = .ok (some host)) ↔
      ¬ Misread (authority (raw.toList.map Char.toLower)) := by
  rw [idempotent_iff (fun raw => @normalize_android kotlin raw) (fun _ _ => mem_of_mem_trim)
      (fun _ => trimmed_of_notMem) printable,
    @idempotent_iff _ _ id (fun raw => @normalize_ios swift raw) (fun _ _ => id) (fun _ _ => rfl)
      _ printable,
    normalize_android printable, normalize_ios printable, textual_injective.eq_iff,
    ← consistent_iff]
  constructor
  · rintro ⟨same, stable, -⟩
    exact ⟨same, stable⟩
  · rintro ⟨same, stable⟩
    exact ⟨same, stable, fun host found => stable host (same.trans found)⟩

end Claim

/-- The functions of Kotlin on ASCII. -/
def asciiKotlin : Android.KotlinText where
  lowercase value := .ofList (value.toList.map Char.toLower)
  isDigit := Char.isDigit
  lowercase_printable _ _ := rfl
  isDigit_printable _ _ := rfl

/-- The characters of a host are in lower case. -/
theorem toLower_of_hostChar {char : Char} (clean : IOS.hostChar char = true) :
    char.toLower = char := by
  refine Char.toLower_eq_of_not_isUpper fun upper => ?_
  simp only [Char.isUpper, decide_eq_true_eq, UInt32.le_iff_toNat_le] at upper
  simp only [IOS.hostChar, IOS.labelChar, Bool.or_eq_true, Bool.and_eq_true, decide_eq_true_eq,
    Char.le_def, UInt32.le_iff_toNat_le] at clean
  rcases clean with ((letter | digit) | rfl) | rfl
  · have := le_trans letter.1 upper.2
    exact absurd this (by decide)
  · have := le_trans upper.1 digit.2
    exact absurd this (by decide)
  · exact absurd upper.1 (by decide)
  · exact absurd upper.1 (by decide)

/-- The functions of Swift on ASCII. -/
def asciiSwift : SwiftText where
  inetPton4 _ := false
  inetPton6 _ := false
  lowercased value := .ofList (value.toList.map Char.toLower)
  isWhitespaceOrNewline char := decide (char = ' ')
  isNumber := Char.isDigit
  lowercased_host value clean := by
    rw [List.all_eq_true] at clean
    calc String.ofList (value.toList.map Char.toLower)
        = .ofList (value.toList.map id) := by
          rw [List.map_congr_left fun char member => toLower_of_hostChar (clean char member)]
          rfl
      _ = value := by rw [List.map_id, String.ofList_toList]
  host_not_whitespace char clean := by
    rw [decide_eq_false_iff_not]
    rintro rfl
    exact absurd clean (by decide)
  lowercased_printable _ _ := rfl
  isWhitespaceOrNewline_printable _ _ := rfl
  isNumber_printable _ _ := rfl

/-- What the two platforms make of a port with a space behind it. -/
theorem padded_port_runs :
    ("example.com:443 /path".toList.all fun char => decide (Printable char)) = true ∧
      (Android.SiteExclusionPolicy.normalize asciiKotlin "example.com:443 /path").toOption =
        some (some "example.com") ∧
      (IOS.SiteExclusionPolicy.normalize asciiSwift.toText "example.com:443 /path").toOption =
        some (some "example.com:443") := by
  decide

theorem printable_of_all {raw : String}
    (all : (raw.toList.all fun char => decide (Printable char)) = true) :
    ∀ char ∈ raw.toList, Printable char :=
  fun char member => of_decide_eq_true (List.all_eq_true.mp all char member)

/-- An authority without spaces and brackets is not misread. -/
theorem not_misread {value : List Char} (unspaced : ' ' ∉ value)
    (unbracketed : value.head? ≠ some '[') : ¬ Misread value := by
  have same := trimmed_of_notMem unspaced
  have enclosed {inside : List Char} : ¬ Enclosed inside (trimmed value) := by
    rintro ⟨rest, shape, -⟩
    rw [same] at shape
    exact unbracketed (by rw [shape]; rfl)
  intro misread
  cases misread with
  | blank nonempty empty => exact nonempty (same ▸ empty)
  | paddedBrackets inside padded brackets acceptable => exact enclosed brackets
  | portInBrackets inside brackets acceptable numbered => exact enclosed brackets
  | paddedPort padded bracket numbered acceptable =>
      exact unspaced (List.mem_of_getLast? padded)

/-- An address with a scheme, capital letters, a port and a path. -/
theorem normalizers_consistent_sample :
    (Android.SiteExclusionPolicy.normalize asciiKotlin "https://Example.COM:443/path").toOption =
        (IOS.SiteExclusionPolicy.normalize asciiSwift.toText
          "https://Example.COM:443/path").toOption ∧
      (∀ host, Android.SiteExclusionPolicy.normalize asciiKotlin "https://Example.COM:443/path" =
          .ok (some host) →
        Android.SiteExclusionPolicy.normalize asciiKotlin host = .ok (some host)) ∧
      ∀ host, IOS.SiteExclusionPolicy.normalize asciiSwift.toText "https://Example.COM:443/path" =
          .ok (some host) →
        IOS.SiteExclusionPolicy.normalize asciiSwift.toText host = .ok (some host) :=
  (normalizers_consistent_iff asciiKotlin asciiSwift "https://Example.COM:443/path"
    (printable_of_all (by decide))).mpr (not_misread (by decide) (by decide))

/-- iOS keeps the port of a host when a space stands behind it. -/
theorem padded_port_differs :
    (∀ char ∈ "example.com:443 /path".toList, Printable char) ∧
      (Android.SiteExclusionPolicy.normalize asciiKotlin "example.com:443 /path").toOption ≠
        (IOS.SiteExclusionPolicy.normalize asciiSwift.toText "example.com:443 /path").toOption := by
  obtain ⟨printable, android, ios⟩ := padded_port_runs
  refine ⟨printable_of_all printable, ?_⟩
  rw [android, ios]
  decide

end ProxyLauncher.Mobile
