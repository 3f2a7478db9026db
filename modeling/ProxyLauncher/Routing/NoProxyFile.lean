import ProxyLauncher.Routing.PacScript

/-!
# Saving and loading the exclusions

`save_no_proxy` cleans the exclusions and writes each on a line, and `load_no_proxy` strips
the lines.  What is loaded is what was saved for entries of one stripped line, and saving it
again changes the file unless cleaning an entry a second time does.
-/

namespace ProxyLauncher.Routing

open Python Selection Texts

variable {characters : Characters}

/-- The entries that `save_no_proxy` writes. -/
def cleaned (characters : Characters) (domains : List String) : List String :=
  distinct ((domains.map (cleanDomain characters)).filter (· ≠ ""))

/-- The new items are the images of the same items in order only when no image differs. -/
theorem map_eq_of_distinct {items : List String} {image : String → String}
    (same : distinct ((items.map image).filter (· ≠ "")) = items) :
    ∀ item ∈ items, image item = item := by
  have kept : ((items.map image).filter (· ≠ "")).length ≤ items.length := by
    have fewer := List.length_filter_le (fun item => decide (item ≠ "")) (items.map image)
    rwa [List.length_map] at fewer
  rcases appendAll_all_or_fewer [] ((items.map image).filter (· ≠ "")) with all | fewer
  · rw [← distinct, same, List.nil_append] at all
    have whole : (items.map image).filter (· ≠ "") = items.map image := by
      apply List.filter_sublist.eq_of_length
      rw [← all, List.length_map]
    rw [whole] at all
    have images : items.map image = items.map id := by
      rw [← all, List.map_id]
    exact List.map_inj_left.mp images
  · rw [← distinct, same, List.length_nil, Nat.zero_add] at fewer
    omega

theorem mem_of_mem_withoutPort {char : Char} {domain : String}
    (member : char ∈ (withoutPort characters domain).toList) : char ∈ domain.toList := by
  unfold withoutPort at member
  dsimp only at member
  split_ifs at member
  · rw [String.toList_ofList] at member
    exact (List.takeWhile_sublist _).subset member
  · exact member

/-- Cleaning only takes characters away from the text in lower case up to its number sign. -/
theorem mem_of_mem_cleanDomain {value : String} {char : Char}
    (member : char ∈ (cleanDomain characters value).toList) :
    char ∈ (textBefore '#' (characters.lower (strip value))).toList := by
  unfold cleanDomain at member
  dsimp only at member
  have first (there : char ∈ (strip (textBefore '#' (characters.lower (strip value)))).toList) :
      char ∈ (textBefore '#' (characters.lower (strip value))).toList := mem_of_mem_strip there
  generalize strip (textBefore '#' (characters.lower (strip value))) = domain at first member
  have second (there : char ∈ (textAfter "://".toList domain).toList) : char ∈ domain.toList :=
    mem_of_mem_textAfter there
  generalize textAfter "://".toList domain = rest at second member
  have third (there : char ∈ (strip (textBefore '/' rest)).toList) : char ∈ rest.toList :=
    mem_of_mem_textBefore (mem_of_mem_strip there)
  generalize strip (textBefore '/' rest) = host at third member
  apply first
  apply second
  apply third
  split_ifs at member
  · exact absurd member List.not_mem_nil
  · have inside := mem_of_mem_textBefore member
    rw [String.toList_ofList] at inside
    exact (List.dropWhile_sublist _).subset inside
  · exact mem_of_mem_withoutPort member
  · exact member

/-- No entry is taken for a comment. -/
theorem numberSign_notMem_cleanDomain (value : String) :
    '#' ∉ (cleanDomain characters value).toList :=
  fun member => notMem_textBefore (mem_of_mem_cleanDomain member)

theorem plainLine_cleanDomain
    (lowerPlain : ∀ value, PlainLine value → PlainLine (characters.lower value)) {value : String}
    (plain : PlainLine value) : PlainLine (cleanDomain characters value) := by
  have stripped : PlainLine (strip value) := by
    constructor
    · exact fun member => plain.1 (mem_of_mem_strip member)
    · exact fun member => plain.2 (mem_of_mem_strip member)
  have lowered := lowerPlain _ stripped
  constructor
  · exact fun member => lowered.1 (mem_of_mem_textBefore (mem_of_mem_cleanDomain member))
  · exact fun member => lowered.2 (mem_of_mem_textBefore (mem_of_mem_cleanDomain member))

theorem mem_cleaned {domains : List String} {entry : String} :
    entry ∈ cleaned characters domains ↔
      entry ≠ "" ∧ ∃ domain ∈ domains, cleanDomain characters domain = entry := by
  rw [cleaned, mem_distinct, List.mem_filter, List.mem_map, decide_eq_true_eq]
  exact and_comm

/-- An entry that is loaded as it was saved. -/
def OneStrippedLine (entry : String) : Prop :=
  PlainLine entry ∧ strip entry = entry

instance (entry : String) : Decidable (OneStrippedLine entry) :=
  inferInstanceAs (Decidable (_ ∧ _))

theorem oneStrippedLine_of_mem_loadNoProxy {content entry : String}
    (member : entry ∈ loadNoProxy content) : OneStrippedLine entry := by
  constructor
  · exact plainLine_of_mem_loadNoProxy member
  · rw [loadNoProxy, List.mem_filter, List.mem_map] at member
    obtain ⟨⟨line, -, rfl⟩, -⟩ := member
    exact strip_strip _

/-- What was saved is loaded exactly when each entry is one stripped line. -/
theorem loadNoProxy_saveNoProxy_iff (characters : Characters) (domains : List String) :
    loadNoProxy (saveNoProxy characters domains) = cleaned characters domains ↔
      ∀ entry ∈ cleaned characters domains, OneStrippedLine entry := by
  constructor
  · intro same entry member
    rw [← same] at member
    exact oneStrippedLine_of_mem_loadNoProxy member
  · intro lines
    have loaded := loadNoProxy_saveNoProxy (rfl : _ = cleaned characters domains)
      fun entry member => (lines entry member).1
    have stripped : (cleaned characters domains).map strip = cleaned characters domains := by
      have own : ∀ entry ∈ cleaned characters domains, strip entry = id entry :=
        fun entry member => (lines entry member).2
      rw [List.map_inj_left.mpr own, List.map_id]
    rw [loaded, stripped, List.filter_eq_self]
    intro entry member
    obtain ⟨nonempty, domain, -, rfl⟩ := mem_cleaned.mp member
    apply decide_eq_true
    constructor
    · exact nonempty
    · intro first
      exact numberSign_notMem_cleanDomain domain (List.mem_of_head? first)

/-- Files of plain entries are the same only when the entries are. -/
theorem cleaned_inj {domains others : List String}
    (plain : ∀ entry ∈ cleaned characters domains, PlainLine entry)
    (otherPlain : ∀ entry ∈ cleaned characters others, PlainLine entry)
    (same : saveNoProxy characters domains = saveNoProxy characters others) :
    cleaned characters domains = cleaned characters others := by
  have whole {entries : List String} (plain : ∀ entry ∈ entries, PlainLine entry) :
      ∀ line ∈ noProxyHeader ++ entries, PlainLine line := by
    intro line member
    rcases List.mem_append.mp member with member | member
    · exact noProxyHeader_plain line member
    · exact plain line member
  have nonempty (entries : List String) : noProxyHeader ++ entries ≠ [] := by
    simp [noProxyHeader]
  have chars := congrArg String.toList same
  rw [saveNoProxy, saveNoProxy] at chars
  rw [← cleaned, ← cleaned, toList_joined (nonempty _), toList_joined (nonempty _)] at chars
  have lines := congrArg universalLines chars
  rw [universalLines_joined (whole plain), universalLines_joined (whole otherPlain)] at lines
  exact List.append_cancel_left
    (List.map_injective_iff.mpr (fun _ _ => String.toList_injective) lines)

/-- Loading gives what was saved exactly when each entry is one stripped line.  Saving what was
loaded then writes the same file exactly when cleaning keeps each entry. -/
theorem save_load_fixpoint (characters : Characters) (domains : List String)
    (lowerPlain : ∀ value, PlainLine value → PlainLine (characters.lower value)) :
    (loadNoProxy (saveNoProxy characters domains) = cleaned characters domains ↔
      ∀ entry ∈ cleaned characters domains, OneStrippedLine entry) ∧
    (loadNoProxy (saveNoProxy characters domains) = cleaned characters domains ∧
        saveNoProxy characters (loadNoProxy (saveNoProxy characters domains)) =
          saveNoProxy characters domains ↔
      ∀ entry ∈ cleaned characters domains,
        OneStrippedLine entry ∧ cleanDomain characters entry = entry) := by
  have loaded := loadNoProxy_saveNoProxy_iff characters domains
  refine ⟨loaded, ?_⟩
  constructor
  · intro ⟨same, again⟩ entry member
    have lines := loaded.mp same
    rw [same] at again
    have others : ∀ other ∈ cleaned characters (cleaned characters domains), PlainLine other := by
      intro other there
      obtain ⟨-, domain, saved, rfl⟩ := mem_cleaned.mp there
      exact plainLine_cleanDomain lowerPlain (lines domain saved).1
    have fixed := cleaned_inj others (fun other there => (lines other there).1) again
    exact ⟨lines entry member, map_eq_of_distinct fixed entry member⟩
  · intro kept
    have same := loaded.mpr fun entry member => (kept entry member).1
    refine ⟨same, ?_⟩
    have images : (cleaned characters domains).map (cleanDomain characters) =
        cleaned characters domains := by
      have own : ∀ entry ∈ cleaned characters domains, cleanDomain characters entry = id entry :=
        fun entry member => (kept entry member).2
      rw [List.map_inj_left.mpr own, List.map_id]
    have nonempty : (cleaned characters domains).filter (· ≠ "") =
        cleaned characters domains :=
      List.filter_eq_self.mpr fun entry member => decide_eq_true (mem_cleaned.mp member).1
    have fixed : cleaned characters (cleaned characters domains) =
        cleaned characters domains := by
      conv_lhs => rw [cleaned, images, nonempty]
      exact distinct_of_nodup (nodup_distinct _)
    rw [same, saveNoProxy, saveNoProxy, ← cleaned, ← cleaned, fixed]

theorem asciiCharacters_plain (value : String) (plain : PlainLine value) :
    PlainLine (asciiCharacters.lower value) := by
  have kept {char : Char} (unlettered : char.isAlpha = false)
      (member : char ∈ (asciiCharacters.lower value).toList) : char ∈ value.toList := by
    rw [asciiCharacters, String.toList_ofList, List.mem_map] at member
    obtain ⟨source, there, lowered⟩ := member
    exact (Texts.toLower_eq_iff unlettered).mp lowered ▸ there
  exact ⟨fun member => plain.1 (kept (by decide) member),
    fun member => plain.2 (kept (by decide) member)⟩

/-- Entries as a user writes them. -/
def sampleDomains : List String :=
  ["https://Corp.Example:8080/x", "", " 10.0.0.1 # office", "corp.example"]

theorem sample_cleaned : cleaned asciiCharacters sampleDomains = ["corp.example", "10.0.0.1"] := by
  decide +kernel

theorem sample_kept : ∀ entry ∈ ["corp.example", "10.0.0.1"],
    OneStrippedLine entry ∧ cleanDomain asciiCharacters entry = entry := by
  unfold OneStrippedLine PlainLine
  decide +kernel

theorem save_load_fixpoint_sample :
    loadNoProxy (saveNoProxy asciiCharacters sampleDomains) = ["corp.example", "10.0.0.1"] ∧
      saveNoProxy asciiCharacters (loadNoProxy (saveNoProxy asciiCharacters sampleDomains)) =
        saveNoProxy asciiCharacters sampleDomains := by
  obtain ⟨loaded, saved⟩ := (save_load_fixpoint asciiCharacters sampleDomains
    asciiCharacters_plain).2.mpr (by rw [sample_cleaned]; exact sample_kept)
  exact ⟨loaded.trans sample_cleaned, saved⟩

/-- A value in brackets is a host with a port the second time. -/
example : cleanDomain asciiCharacters "[proxy:80]" = "proxy:80" ∧
    cleanDomain asciiCharacters "proxy:80" = "proxy" := by
  unfold cleanDomain strip asciiCharacters
  repeat rw [String.toList_ofList]
  decide

end ProxyLauncher.Routing
