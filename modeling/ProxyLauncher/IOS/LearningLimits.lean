import ProxyLauncher.IOS.Admission

/-!
# The limits of the learning

Every call with a time prunes the learning first.  Pruning looks at all entries, and the numbers
of entries and of rejected hosts are limited where something is added, so a call can have effects
on hosts that it is not about.
-/

namespace ProxyLauncher.IOS

namespace Dictionary

variable {Value : Type} {dictionary : Dictionary Value} {key other : String} {value : Value}

theorem count_insert_of_lookup (found : dictionary.lookup key = some value) (value' : Value) :
    count (dictionary.insert key value') = dictionary.count := by
  have all := @countValues_insert Value dictionary key value' fun _ => true
  have erased := @countValues_erase Value dictionary key value (fun _ => true) found
  simp only [countValues, List.countP_true, if_true] at all erased
  exact all.trans erased.symm

theorem count_insert_of_not_lookup (absent : dictionary.lookup key = none) (value : Value) :
    count (dictionary.insert key value) = dictionary.count + 1 := by
  have missing : key ∉ dictionary := AList.lookup_eq_none.mp absent
  rw [count, AList.entries_insert_of_notMem missing]
  rfl

theorem count_filter_eq {test : String → Value → Bool} :
    count (dictionary.filter test) = dictionary.count ↔
      ∀ key value, dictionary.lookup key = some value → test key value = true := by
  rw [count, count, filter, List.length_filter_eq_length_iff]
  constructor
  · intro every key value found
    exact every ⟨key, value⟩ (AList.mem_lookup_iff.mp (Option.mem_def.mpr found))
  · rintro every ⟨key, value⟩ member
    exact every key value (Option.mem_def.mp (AList.mem_lookup_iff.mpr member))

theorem count_filter_le {test : String → Value → Bool} :
    count (dictionary.filter test) ≤ dictionary.count :=
  List.length_filter_le _ _

end Dictionary

namespace AdaptiveRouteLearning

variable {text : Text} {learning : AdaptiveRouteLearning} {host other networkID raw : String}
  {entry : Entry} {now clock : ℚ} {call : Call}

theorem lookup_without {hosts : Dictionary Entry} {keys : List String} :
    (without hosts keys).lookup other = if other ∈ keys then none else hosts.lookup other := by
  induction keys generalizing hosts with
  | nil => rfl
  | cons key keys ih =>
      have step : without hosts (key :: keys) = without (hosts.erase key) keys := rfl
      rw [step, ih]
      by_cases same : other = key
      · subst same
        simp
      · simp [same, AList.lookup_erase_ne same]

/-- The hosts beyond the limit that `prune` removes: those of the oldest failures among the
entries that it keeps. -/
def surplus (learning : AdaptiveRouteLearning) (now : ℚ) (networkID : String) : List String :=
  let hosts := learning.hosts.filter fun _ entry => entry.kept now networkID
  oldest hosts (hosts.count - maxHosts)

theorem lookup_prune : (learning.prune now networkID).hosts.lookup other = some entry ↔
    learning.hosts.lookup other = some entry ∧ entry.kept now networkID = true ∧
      other ∉ learning.surplus now networkID := by
  unfold prune surplus
  dsimp only
  split_ifs with full
  · rw [lookup_without]
    split_ifs with listed
    · simp [listed]
    · simp [listed, Dictionary.lookup_filter]
  · rw [Nat.sub_eq_zero_of_le (Nat.le_of_not_lt full)]
    simp [oldest, Dictionary.lookup_filter]

/-- A comparison touches its own host only, after it has pruned. -/
theorem lookup_comparison {proxyFailed directSucceeded independentlyDirect exactHost : Bool}
    (different : validated text raw ≠ some other) :
    (learning.comparison text raw proxyFailed directSucceeded independentlyDirect exactHost
        networkID now).1.hosts.lookup other =
      (learning.prune now networkID).hosts.lookup other := by
  unfold comparison
  dsimp only
  split
  · rfl
  · rename_i host valid
    have ne : other ≠ host := by
      rintro rfl
      exact different valid
    split
    · rfl
    · split_ifs <;> first | rfl | exact lookup_setEntry_of_ne ne

/-- At a time that is not later than the call, an entry that has not expired at the call is kept
unless it is of another network or younger than the time. -/
theorem kept_iff (unexpired : entry.active clock = true ∨ clock - entry.last ≤ window)
    (captured : now ≤ clock) :
    entry.kept now networkID = true ↔ entry.networkID = networkID ∧ entry.started ≤ now := by
  have current : (entry.active now || decide (now - entry.last ≤ window)) = true := by
    rw [Bool.or_eq_true, decide_eq_true_eq]
    rcases unexpired with active | recent
    · exact .inl (Entry.active_of_le captured active)
    · exact .inr (by linarith)
  rw [Entry.kept, current, Bool.and_true, Bool.and_eq_true, decide_eq_true_eq, decide_eq_true_eq]

/-- A comparison leaves the entry of another host that has not expired alone exactly when the
entry is of its network, was started by the time of the comparison and is not among the oldest
beyond the limit. -/
theorem comparison_frame_iff {proxyFailed directSucceeded independentlyDirect exactHost : Bool}
    (found : learning.hosts.lookup other = some entry)
    (different : validated text raw ≠ some other)
    (unexpired : entry.active clock = true ∨ clock - entry.last ≤ window)
    (captured : now ≤ clock) :
    (learning.comparison text raw proxyFailed directSucceeded independentlyDirect exactHost
        networkID now).1.hosts.lookup other = some entry ↔
      entry.networkID = networkID ∧ entry.started ≤ now ∧
        other ∉ learning.surplus now networkID := by
  rw [lookup_comparison different, lookup_prune, kept_iff unexpired captured, and_assoc]
  exact and_iff_right found

/-- Two failures of one host, and later one of another. -/
def youngerFailure : AdaptiveRouteLearning :=
  [Call.proxyFailure "a.io" "1" .proxyTimeout true "wifi" 0,
    .proxyFailure "a.io" "2" .proxyTimeout true "wifi" 5,
    .proxyFailure "b.io" "3" .proxyTimeout true "wifi" 11].foldl (perform plainText) {}

/-- The entry of the younger failure. -/
def youngerEntry : Entry := (Entry.new 11 "wifi").failed "3" 11

theorem youngerFailure_facts :
    youngerFailure.hosts.lookup "b.io" = some youngerEntry ∧
    validated plainText "a.io" = some "a.io" ∧
    (youngerFailure.comparison plainText "a.io" true true true true "wifi" 10).1.hosts.lookup
      "b.io" = none := by
  decide +kernel

theorem comparison_frame_sample :
    (youngerFailure.comparison plainText "a.io" true true true true "wifi" 12).1.hosts.lookup
        "b.io" = some youngerEntry ↔
      youngerEntry.networkID = "wifi" ∧ youngerEntry.started ≤ 12 ∧
        "b.io" ∉ youngerFailure.surplus 12 "wifi" :=
  @comparison_frame_iff plainText youngerFailure "b.io" "wifi" "a.io" youngerEntry 12 12 true true
    true true youngerFailure_facts.1 (by rw [youngerFailure_facts.2.1]; decide)
    (.inr (by simp only [youngerEntry, Entry.failed, Entry.new, window]; norm_num)) le_rfl

/-- A probe that has ended before the other host failed removes the entry of that host. -/
theorem comparison_removes_younger :
    ∃ entry, youngerFailure.hosts.lookup "b.io" = some entry ∧ 12 - entry.last ≤ window ∧
      (youngerFailure.comparison plainText "a.io" true true true true "wifi" 10).1.hosts.lookup
        "b.io" = none := by
  refine ⟨youngerEntry, youngerFailure_facts.1, ?_, youngerFailure_facts.2.2⟩
  simp only [youngerEntry, Entry.failed, Entry.new, window]
  norm_num

/-- The limits that the setter of `ProfileStore.adaptiveRouteLearning` checks. -/
def Storable (learning : AdaptiveRouteLearning) : Prop :=
  learning.hosts.count ≤ maxHosts ∧ learning.rejected.card ≤ maxRejected

/-- The failure of a new host when every place is taken by an entry that is kept. -/
def Overflows (text : Text) (learning : AdaptiveRouteLearning) : Call → Prop
  | .proxyFailure raw connectionID type proxyHealthy networkID now =>
      learning.hosts.count = maxHosts ∧
        (∀ other entry, learning.hosts.lookup other = some entry →
          entry.kept now networkID = true) ∧
        ∃ host, validated text raw = some host ∧ learning.hosts.lookup host = none ∧
          host ∉ learning.rejected ∧ type.eligible = true ∧ proxyHealthy = true ∧
          connectionID ≠ "" ∧ connectionID.toList.length ≤ 80
  | _ => False

theorem hosts_prune (few : learning.hosts.count ≤ maxHosts) :
    (learning.prune now networkID).hosts =
      learning.hosts.filter fun _ entry => entry.kept now networkID := by
  unfold prune
  dsimp only
  rw [if_neg (not_lt.mpr (Dictionary.count_filter_le.trans few))]

theorem Storable.prune (storable : learning.Storable) :
    (learning.prune now networkID).Storable := by
  refine ⟨?_, storable.2⟩
  rw [hosts_prune storable.1]
  exact Dictionary.count_filter_le.trans storable.1

/-- Replacing an entry keeps the limits. -/
theorem Storable.setEntry (storable : learning.Storable)
    (found : learning.hosts.lookup host = some entry) (entry' : Entry) :
    (learning.setEntry host entry').Storable := by
  refine ⟨?_, storable.2⟩
  change Dictionary.count (learning.hosts.insert host entry') ≤ maxHosts
  rw [Dictionary.count_insert_of_lookup found]
  exact storable.1

theorem Storable.comparison {proxyFailed directSucceeded independentlyDirect exactHost : Bool}
    (storable : learning.Storable) :
    (learning.comparison text raw proxyFailed directSucceeded independentlyDirect exactHost
      networkID now).1.Storable := by
  have pruned : (learning.prune now networkID).Storable := storable.prune
  unfold AdaptiveRouteLearning.comparison
  dsimp only
  split
  · exact pruned
  · split
    · exact pruned
    · rename_i found
      split_ifs <;> first | exact pruned | exact pruned.setEntry found _

theorem Storable.directFailure (storable : learning.Storable) :
    (learning.directFailure text raw).1.Storable := by
  unfold AdaptiveRouteLearning.directFailure
  split
  · exact storable
  · split
    · exact storable
    · rename_i found
      exact storable.setEntry found _

theorem Storable.reject (storable : learning.Storable) : (learning.reject text raw).Storable := by
  unfold AdaptiveRouteLearning.reject
  split
  · exact storable
  · rename_i host valid
    split_ifs with room
    · refine ⟨?_, ?_⟩
      · refine le_trans ?_ storable.1
        exact (List.kerase_sublist host learning.hosts.entries).length_le
      · rcases room with room | there
        · exact (Finset.card_insert_le _ _).trans room
        · rw [Finset.insert_eq_of_mem there]
          exact storable.2
    · exact storable

/-- Whether a failure is recorded does not depend on the other entries. -/
theorem proxyFailure_fst (raw connectionID : String) (type : Failure) (proxyHealthy : Bool) :
    (learning.proxyFailure text raw connectionID type proxyHealthy networkID now).1 =
        learning.prune now networkID ∧
      (¬ ∃ host, validated text raw = some host ∧ host ∉ learning.rejected ∧
        type.eligible = true ∧ proxyHealthy = true ∧ connectionID ≠ "" ∧
        connectionID.toList.length ≤ 80) ∨
    ∃ host entry, validated text raw = some host ∧ host ∉ learning.rejected ∧
      type.eligible = true ∧ proxyHealthy = true ∧ connectionID ≠ "" ∧
      connectionID.toList.length ≤ 80 ∧
      (learning.proxyFailure text raw connectionID type proxyHealthy networkID now).1 =
        (learning.prune now networkID).setEntry host entry := by
  unfold proxyFailure
  dsimp only
  split
  · rename_i invalid
    exact .inl ⟨rfl, by simp [invalid]⟩
  · rename_i host valid
    rw [rejected_prune]
    split_ifs with recorded probe
    · exact .inr ⟨host, _, valid, recorded.1, recorded.2.1, recorded.2.2.1, recorded.2.2.2.1,
        recorded.2.2.2.2, rfl⟩
    · exact .inr ⟨host, _, valid, recorded.1, recorded.2.1, recorded.2.2.1, recorded.2.2.2.1,
        recorded.2.2.2.2, rfl⟩
    · refine .inl ⟨rfl, ?_⟩
      rintro ⟨other, same, rest⟩
      obtain rfl := Option.some.inj (valid.symm.trans same)
      exact recorded rest

/-- The entry of a host that is recorded takes a new place unless pruning has left it one. -/
theorem storable_setEntry_prune_iff (storable : learning.Storable) (entry : Entry) :
    ((learning.prune now networkID).setEntry host entry).Storable ↔
      ¬ (learning.hosts.count = maxHosts ∧
        (∀ other entry, learning.hosts.lookup other = some entry →
          entry.kept now networkID = true) ∧ learning.hosts.lookup host = none) := by
  have pruned := @Storable.prune learning networkID now storable
  have hosts := @hosts_prune learning networkID now storable.1
  cases found : (learning.prune now networkID).hosts.lookup host with
  | some old =>
      have there := (lookup_of_prune found).1
      exact iff_of_true (pruned.setEntry found entry) (by simp [there])
  | none =>
      have counted : ((learning.prune now networkID).setEntry host entry).hosts.count =
          (learning.prune now networkID).hosts.count + 1 :=
        Dictionary.count_insert_of_not_lookup found entry
      rw [Storable, counted, hosts, rejected_setEntry, rejected_prune, and_iff_left storable.2]
      constructor
      · rintro room ⟨full, kept, -⟩
        rw [Dictionary.count_filter_eq.mpr kept, full] at room
        exact absurd room (by simp)
      · intro free
        by_contra more
        have least : maxHosts ≤ Dictionary.count
            (learning.hosts.filter fun _ entry => entry.kept now networkID) := by omega
        have most := storable.1
        have fewer := @Dictionary.count_filter_le _ learning.hosts
          fun _ entry => entry.kept now networkID
        have kept := Dictionary.count_filter_eq.mp (le_antisymm fewer (most.trans least))
        refine free ⟨by omega, kept, ?_⟩
        cases there : learning.hosts.lookup host with
        | none => rfl
        | some old =>
            rw [hosts, Dictionary.lookup_filter.mpr ⟨there, kept host old there⟩] at found
            cases found

def performAll (text : Text) (learning : AdaptiveRouteLearning) (calls : List Call) :
    AdaptiveRouteLearning :=
  calls.foldl (perform text) learning

/-- A failure that is recorded. -/
theorem perform_proxyFailure {id : String} (valid : validated text raw = some host)
    (allowed : host ∉ learning.rejected) (named : id ≠ "") (short : id.toList.length ≤ 80) :
    ∃ requested, learning.perform text (.proxyFailure raw id .proxyTimeout true networkID now) =
      (learning.prune now networkID).setEntry host
        { ((learning.prune now networkID).current host now networkID).failed id now with
          lastProbeRequested := requested } := by
  rw [perform]
  unfold proxyFailure
  dsimp only
  rw [valid]
  dsimp only
  rw [if_pos ⟨allowed, rfl, rfl, named, short⟩]
  split_ifs
  · exact ⟨_, rfl⟩
  · exact ⟨_, rfl⟩

theorem validated_of_eligible (eligible : eligibleForAutomaticBypass text host = true) :
    validated text host = some host := by
  have scannable : isScannableHost text host = true := by
    rw [eligibleForAutomaticBypass, Bool.and_eq_true] at eligible
    exact eligible.1
  have clean := SiteExclusionPolicy.all_hostChar_of_scannable scannable
  have named : SiteExclusionPolicy.normalized text host = some host := by
    rw [SiteExclusionPolicy.normalized, SiteExclusionPolicy.normalize_of_scannable scannable]
    rfl
  rw [validated, text.lowercased_host host clean,
    SiteExclusionPolicy.trimmingCharacters_host clean]
  simp [named, scannable, eligible]

/-! Hosts of two letters that are not tracking labels. -/

def manyLetters : List Char := ['b', 'c', 'd', 'f', 'g', 'h', 'j', 'k', 'l', 'm', 'n', 'p']

/-- More hosts than any limit. -/
def manyHosts : List String :=
  (manyLetters.product manyLetters).map shortChild

theorem manyLetters_facts :
    manyLetters.all shortLetter = true ∧ 'a' ∉ manyLetters ∧ manyLetters.Nodup ∧
    String.ofList ['a'] ∉ trackingLabels ∧ String.ofList ['i', 'o'] ∉ trackingLabels ∧
    (∀ label ∈ trackingLabels, label.toList.length = 2 → label.toList.head? = some 'a') ∧
    validated plainText "b.io" = some "b.io" ∧ "b.io".toList.length = 4 := by
  decide

theorem validated_of_mem_manyHosts (member : host ∈ manyHosts) :
    validated plainText host = some host := by
  obtain ⟨letters, outside, -, one, two, tracking, -, -⟩ := manyLetters_facts
  obtain ⟨⟨first, second⟩, pair, rfl⟩ := List.mem_map.mp member
  have firstLetter := (List.mem_product.mp pair).1
  have secondLetter := (List.mem_product.mp pair).2
  have firstShort := List.all_eq_true.mp letters first firstLetter
  have secondShort := List.all_eq_true.mp letters second secondLetter
  refine validated_of_eligible ?_
  have untracked : String.ofList [first, second] ∉ trackingLabels := by
    intro there
    have start := tracking _ there (by rw [String.toList_ofList]; rfl)
    rw [String.toList_ofList] at start
    obtain rfl : first = 'a' := by simpa using start
    exact outside firstLetter
  rw [eligibleForAutomaticBypass, isScannableHost_shortChild firstShort secondShort,
    labels_shortChild firstShort secondShort]
  simp only [List.any_cons, List.any_nil, decide_eq_false untracked, decide_eq_false one,
    decide_eq_false two, Bool.or_self, Bool.not_false, Bool.and_self]

theorem nodup_manyHosts : manyHosts.Nodup := by
  refine (manyLetters_facts.2.2.1.product manyLetters_facts.2.2.1).map ?_
  rintro ⟨first, second⟩ ⟨first', second'⟩ same
  have chars := congrArg String.toList same
  simp only [shortChild, String.toList_ofList, List.cons.injEq, and_true] at chars
  rw [chars.1, chars.2]

theorem not_mem_manyHosts : "b.io" ∉ manyHosts := by
  intro member
  obtain ⟨pair, -, same⟩ := List.mem_map.mp member
  have length := congrArg (fun host => host.toList.length) same
  simp only [shortChild, String.toList_ofList] at length
  exact absurd (length.trans manyLetters_facts.2.2.2.2.2.2.2) (by simp)

/-- The failure of one connection. -/
def failureOf (host : String) : Call :=
  .proxyFailure host "1" .proxyTimeout true "wifi" 0

/-- Failures of distinct hosts fill the places. -/
theorem performAll_failures {hosts : List String} (distinct : hosts.Nodup)
    (valid : ∀ host ∈ hosts, validated text host = some host) (few : hosts.length ≤ maxHosts) :
    (performAll text {} (hosts.map failureOf)).hosts.count = hosts.length ∧
      (∀ other entry, (performAll text {} (hosts.map failureOf)).hosts.lookup other = some entry →
        entry.kept 0 "wifi" = true ∧ other ∈ hosts) ∧
      (performAll text {} (hosts.map failureOf)).rejected = ∅ := by
  induction hosts using List.reverseRecOn with
  | nil =>
      refine ⟨rfl, ?_, rfl⟩
      intro other entry found
      cases found
  | append_singleton hosts host ih =>
      rw [List.length_append, List.length_singleton] at few
      obtain ⟨earlier, -, outside⟩ := List.nodup_append.mp distinct
      obtain ⟨count, each, rejected⟩ := ih earlier
        (fun other there => valid other (by simp [there])) (by omega)
      have step : performAll text {} ((hosts ++ [host]).map failureOf) =
          (performAll text {} (hosts.map failureOf)).perform text (failureOf host) := by
        simp [performAll]
      rw [step]
      generalize performAll text {} (hosts.map failureOf) = learning at count each rejected
      have same : (learning.prune 0 "wifi").hosts = learning.hosts := by
        rw [hosts_prune (by omega)]
        refine AList.ext (List.filter_eq_self.mpr ?_)
        rintro ⟨other, entry⟩ member
        exact (each other entry (Option.mem_def.mp (AList.mem_lookup_iff.mpr member))).1
      have absent : learning.hosts.lookup host = none := by
        cases found : learning.hosts.lookup host with
        | none => rfl
        | some entry => exact absurd rfl (outside host (each host entry found).2 host (by simp))
      obtain ⟨requested, performed⟩ := @perform_proxyFailure text learning host "wifi" host 0 "1"
        (valid host (by simp)) (by simp [rejected]) (by decide) (by decide)
      rw [failureOf, performed]
      refine ⟨?_, ?_, ?_⟩
      · change Dictionary.count ((learning.prune 0 "wifi").hosts.insert host _) = _
        rw [same, Dictionary.count_insert_of_not_lookup absent, count, List.length_append,
          List.length_singleton]
      · intro other entry found
        by_cases own : other = host
        · subst own
          rw [lookup_setEntry_self] at found
          obtain rfl := Option.some.inj found
          refine ⟨?_, by simp⟩
          simp [current, same, absent, Entry.kept, Entry.failed, Entry.new, window]
        · rw [lookup_setEntry_of_ne own, same] at found
          exact ⟨(each other entry found).1, by simp [(each other entry found).2]⟩
      · rw [rejected_setEntry, rejected_prune, rejected]

theorem storable_proxyFailure_iff (storable : learning.Storable) (raw connectionID : String)
    (type : Failure) (proxyHealthy : Bool) :
    (learning.proxyFailure text raw connectionID type proxyHealthy networkID now).1.Storable ↔
      ¬ Overflows text learning (.proxyFailure raw connectionID type proxyHealthy networkID now) := by
  rcases @proxyFailure_fst text learning networkID now raw connectionID type proxyHealthy with
    ⟨same, ignored⟩ | ⟨host, entry, valid, allowed, eligible, healthy, named, short, same⟩
  · rw [same]
    refine iff_of_true storable.prune ?_
    rintro ⟨-, -, host, valid, -, recorded⟩
    exact ignored ⟨host, valid, recorded⟩
  · rw [same, storable_setEntry_prune_iff storable entry, not_iff_not]
    constructor
    · rintro ⟨full, kept, absent⟩
      exact ⟨full, kept, host, valid, absent, allowed, eligible, healthy, named, short⟩
    · rintro ⟨full, kept, other, valid', absent, -⟩
      obtain rfl := Option.some.inj (valid.symm.trans valid')
      exact ⟨full, kept, absent⟩

theorem failures_manyHosts {few : Nat} (places : few ≤ maxHosts) :
    let learning := performAll plainText {} ((manyHosts.take few).map failureOf)
    learning.Storable ∧ learning.hosts.count = few ∧ learning.rejected = ∅ ∧
      ∀ other entry, learning.hosts.lookup other = some entry →
        entry.kept 0 "wifi" = true ∧ other ∈ manyHosts := by
  have length : (manyHosts.take few).length = few := by
    have enough : manyHosts.length = 144 := by decide +kernel
    rw [List.length_take, enough]
    exact min_eq_left (places.trans (by decide))
  obtain ⟨count, each, rejected⟩ := @performAll_failures plainText (manyHosts.take few)
    (nodup_manyHosts.sublist (List.take_sublist few manyHosts))
    (fun host there => validated_of_mem_manyHosts (List.mem_of_mem_take there))
    (length.trans_le places)
  rw [length] at count
  refine ⟨⟨count.trans_le places, ?_⟩, count, rejected, fun other entry found =>
    ⟨(each other entry found).1, List.mem_of_mem_take (each other entry found).2⟩⟩
  rw [rejected]
  exact Nat.zero_le _

/-- After a call on a learning within the limits it is within them again, unless the call is the
failure of a new host while every place is taken. -/
theorem storable_perform_iff (storable : learning.Storable) :
    (learning.perform text call).Storable ↔ ¬ Overflows text learning call := by
  cases call with
  | proxyFailure raw connectionID type proxyHealthy networkID now =>
      exact storable_proxyFailure_iff storable raw connectionID type proxyHealthy
  | comparison raw proxyFailed directSucceeded independentlyDirect exactHost networkID now =>
      exact iff_of_true storable.comparison id
  | directFailure raw => exact iff_of_true storable.directFailure id
  | reject raw => exact iff_of_true storable.reject id
  | prune now networkID => exact iff_of_true storable.prune id

/-- A failure of one more host after failures that leave one place. -/
theorem storable_perform_sample :
    (performAll plainText {} ((manyHosts.take 63).map failureOf)).hosts.count = 63 ∧
      ((performAll plainText {} ((manyHosts.take 63).map failureOf)).perform plainText
        (failureOf "b.io")).Storable := by
  obtain ⟨storable, count, -, -⟩ := @failures_manyHosts 63 (by decide)
  refine ⟨count, (storable_perform_iff storable).mpr ?_⟩
  intro ⟨full, _⟩
  rw [count] at full
  exact absurd full (by decide)

/-- After the failures of as many hosts as there are places, the failure of one more host is
recorded as well, and the store drops the result. -/
theorem failure_overflows :
    (performAll plainText {} ((manyHosts.take 64).map failureOf)).Storable ∧
      ¬ ((performAll plainText {} ((manyHosts.take 64).map failureOf)).perform plainText
        (failureOf "b.io")).Storable := by
  obtain ⟨storable, count, rejected, each⟩ := @failures_manyHosts 64 (by decide)
  refine ⟨storable, ?_⟩
  rw [failureOf, perform, storable_proxyFailure_iff storable, not_not]
  refine ⟨count, fun other entry found => (each other entry found).1, "b.io",
    manyLetters_facts.2.2.2.2.2.2.1, ?_, by rw [rejected]; exact Finset.notMem_empty _,
    rfl, rfl, by decide, by decide⟩
  cases found : AList.lookup "b.io"
      (performAll plainText {} ((manyHosts.take 64).map failureOf)).hosts with
  | none => rfl
  | some entry => exact absurd (each _ _ found).2 not_mem_manyHosts

/-! ## Rejections -/

/-- The host is neither direct nor suggested at any time. -/
def Withheld (learning : AdaptiveRouteLearning) (host : String) : Prop :=
  ∀ now, host ∉ learning.diagnosticCandidates now ∧
    ∀ networkID exactHostTransport, host ∉ learning.directHosts networkID exactHostTransport now

theorem mem_diagnosticCandidates : host ∈ learning.diagnosticCandidates now ↔
    ∃ entry, learning.hosts.lookup host = some entry ∧ 2 ≤ entry.sessionIDs.length ∧
      entry.last ≤ now ∧ now - entry.last ≤ window ∧ host ∉ learning.rejected := by
  simp only [diagnosticCandidates, List.mem_insertionSort, List.mem_map, List.mem_filter,
    Bool.and_eq_true, decide_eq_true_eq, Prod.exists, Dictionary.mem_pairs, and_assoc]
  constructor
  · rintro ⟨_, entry, found, enough, past, recent, allowed, rfl⟩
    exact ⟨entry, found, enough, past, recent, allowed⟩
  · rintro ⟨entry, found, enough, past, recent, allowed⟩
    exact ⟨host, entry, found, enough, past, recent, allowed, rfl⟩

theorem withheld_of_rejected (rejected : host ∈ learning.rejected) : learning.Withheld host := by
  intro now
  refine ⟨fun member => ?_, fun networkID exactHost member => ?_⟩
  · obtain ⟨_, _, _, _, _, allowed⟩ := mem_diagnosticCandidates.mp member
    exact allowed rejected
  · exact (mem_directHosts.mp member).2.1 rejected

/-- No call takes a rejection back. -/
theorem rejected_subset_perform : learning.rejected ⊆ (learning.perform text call).rejected := by
  cases call with
  | proxyFailure raw connectionID type proxyHealthy networkID now =>
      rcases @proxyFailure_fst text learning networkID now raw connectionID type proxyHealthy with
        ⟨same, -⟩ | ⟨host, entry, -, -, -, -, -, -, same⟩
      · rw [perform, same, rejected_prune]
      · rw [perform, same, rejected_setEntry, rejected_prune]
  | comparison raw proxyFailed directSucceeded independentlyDirect exactHost networkID now =>
      rw [perform]
      unfold comparison
      dsimp only
      split
      · rfl
      · split
        · rfl
        · split_ifs <;> rfl
  | directFailure raw =>
      rw [perform]
      unfold directFailure
      split
      · rfl
      · split <;> rfl
  | reject raw =>
      rw [perform]
      unfold reject
      split
      · rfl
      · split_ifs
        · exact Finset.subset_insert _ _
        · rfl
  | prune now networkID => rfl

theorem rejected_subset_performAll (calls : List Call) :
    learning.rejected ⊆ (learning.performAll text calls).rejected := by
  induction calls generalizing learning with
  | nil => rfl
  | cons call calls ih => exact rejected_subset_perform.trans ih

theorem exists_fresh_network (hosts : Dictionary Entry) :
    ∃ networkID, ∀ other entry, hosts.lookup other = some entry → entry.networkID ≠ networkID := by
  have infinite : Infinite String :=
    Infinite.of_injective String.ofList fun first second same => by
      rw [← String.toList_ofList (l := first), same, String.toList_ofList]
  obtain ⟨networkID, fresh⟩ := infinite.exists_notMem_finset
    (hosts.entries.map fun entry => entry.2.networkID).toFinset
  refine ⟨networkID, ?_⟩
  rintro other entry found rfl
  refine fresh (List.mem_toFinset.mpr (List.mem_map.mpr ⟨⟨other, entry⟩, ?_, rfl⟩))
  exact AList.mem_lookup_iff.mp (Option.mem_def.mpr found)

/-- Nothing is left when the network is new. -/
theorem hosts_prune_of_fresh (fresh : ∀ other entry, learning.hosts.lookup other = some entry →
    entry.networkID ≠ networkID) : (learning.prune now networkID).hosts = ∅ := by
  have empty : (learning.hosts.filter fun _ entry => entry.kept now networkID) = ∅ := by
    refine AList.ext (List.filter_eq_nil_iff.mpr ?_)
    rintro ⟨other, entry⟩ member kept
    have found := Option.mem_def.mp (AList.mem_lookup_iff.mpr member)
    simp only [Entry.kept, Bool.and_eq_true, decide_eq_true_eq] at kept
    exact fresh other entry found kept.1.1
  unfold prune
  dsimp only
  rw [empty]
  rfl

/-- Two failures of a host in one network. -/
def twoFailures (raw networkID : String) : List Call :=
  [.proxyFailure raw "1" .proxyTimeout true networkID 0,
    .proxyFailure raw "2" .proxyTimeout true networkID 0]

/-- A host that is not rejected is suggested after two failures in a new network. -/
theorem suggested_of_fresh (valid : validated text raw = some host)
    (allowed : host ∉ learning.rejected)
    (fresh : ∀ other entry, learning.hosts.lookup other = some entry →
      entry.networkID ≠ networkID) :
    host ∈ (learning.performAll text (twoFailures raw networkID)).diagnosticCandidates 0 := by
  obtain ⟨requested, first⟩ := @perform_proxyFailure text learning host networkID raw 0 "1" valid
    allowed (by decide) (by decide)
  have none : (learning.prune 0 networkID).hosts = ∅ := hosts_prune_of_fresh fresh
  have new : (learning.prune 0 networkID).current host 0 networkID = .new 0 networkID := by
    simp [current, none, Entry.new, window]
  rw [new] at first
  -- The first entry is the only one, so pruning leaves it.
  generalize entered : ({ (Entry.new 0 networkID).failed "1" 0 with
    lastProbeRequested := requested } : Entry) = entry at first
  generalize after : learning.perform text
    (.proxyFailure raw "1" .proxyTimeout true networkID 0) = middle at first
  have rejected : middle.rejected = learning.rejected := by rw [first]; rfl
  have found : middle.hosts.lookup host = some entry := by rw [first]; simp
  have count : middle.hosts.count = 1 := by
    rw [first]
    change Dictionary.count ((learning.prune 0 networkID).hosts.insert host entry) = 1
    rw [none]
    rfl
  have kept : (middle.prune 0 networkID).hosts.lookup host = some entry := by
    rw [hosts_prune (by rw [count]; decide), Dictionary.lookup_filter]
    refine ⟨found, ?_⟩
    rw [← entered]
    simp [Entry.kept, Entry.failed, Entry.new, window]
  have same : (middle.prune 0 networkID).current host 0 networkID = entry := by
    rw [current, kept, ← entered]
    simp [Entry.failed, Entry.new, window]
  obtain ⟨requested', second⟩ := @perform_proxyFailure text middle host networkID raw 0 "2" valid
    (rejected ▸ allowed) (by decide) (by decide)
  rw [same] at second
  have whole : learning.performAll text (twoFailures raw networkID) =
      middle.perform text (.proxyFailure raw "2" .proxyTimeout true networkID 0) := by
    rw [← after]
    rfl
  rw [whole, second, mem_diagnosticCandidates]
  refine ⟨_, lookup_setEntry_self, ?_, le_rfl, ?_, ?_⟩
  · rw [← entered]
    simp [Entry.failed, Entry.new]
  · simp [Entry.failed, window]
  · rw [rejected_setEntry, rejected_prune, rejected]
    exact allowed

theorem reject_eq (valid : validated text raw = some host) : learning.reject text raw =
    if learning.rejected.card < maxRejected ∨ host ∈ learning.rejected then
      { hosts := learning.hosts.erase host, rejected := insert host learning.rejected }
    else learning := by
  rw [reject, valid]

/-- A rejection is permanent, whatever has happened before and happens later, exactly when there
was room for it or it was there already. -/
theorem rejection_permanent_iff (valid : validated text raw = some host) :
    (∀ calls, ((learning.reject text raw).performAll text calls).Withheld host) ↔
      learning.rejected.card < maxRejected ∨ host ∈ learning.rejected := by
  constructor
  · intro permanent
    by_contra full
    obtain ⟨networkID, fresh⟩ := exists_fresh_network learning.hosts
    have withheld := (permanent (twoFailures raw networkID) 0).1
    rw [reject_eq valid, if_neg full] at withheld
    exact withheld (suggested_of_fresh valid (fun there => full (.inr there)) fresh)
  · intro room calls
    refine withheld_of_rejected (rejected_subset_performAll calls ?_)
    rw [reject_eq valid, if_pos room]
    exact Finset.mem_insert_self _ _

/-- A learning with an entry and a rejected host. -/
def learned : AdaptiveRouteLearning :=
  performAll plainText {} [.reject "c.io", failureOf "b.io"]

theorem rejection_permanent_sample :
    (learned.hosts.lookup "b.io").isSome ∧ learned.rejected = {"c.io"} ∧
      ∀ calls, ((learned.reject plainText "b.io").performAll plainText calls).Withheld "b.io" := by
  have rejected : learned.rejected = {"c.io"} := by decide +kernel
  refine ⟨by decide +kernel, rejected,
    (rejection_permanent_iff manyLetters_facts.2.2.2.2.2.2.1).mpr ?_⟩
  rw [rejected]
  exact .inl (by decide)

/-- Rejections of distinct hosts take up the room. -/
theorem performAll_rejections {hosts : List String}
    (valid : ∀ host ∈ hosts, validated text host = some host) (few : hosts.length ≤ maxRejected) :
    performAll text {} (hosts.map .reject) = { hosts := ∅, rejected := hosts.toFinset } := by
  induction hosts using List.reverseRecOn with
  | nil => rfl
  | append_singleton hosts host ih =>
      rw [List.length_append, List.length_singleton] at few
      have step : performAll text {} ((hosts ++ [host]).map .reject) =
          (performAll text {} (hosts.map .reject)).reject text host := by
        simp [performAll, perform]
      have card := List.toFinset_card_le hosts
      rw [step, ih (fun other there => valid other (by simp [there])) (by omega),
        reject_eq (valid host (by simp)), if_pos (.inl (by dsimp only; omega))]
      rw [List.toFinset_append, Finset.union_comm]
      rfl

/-- When there is no more room, a host is suggested although it has been rejected. -/
theorem rejection_forgotten : ∃ calls, "b.io" ∈ (((performAll plainText {}
    ((manyHosts.take 128).map .reject)).reject plainText "b.io").performAll plainText
      calls).diagnosticCandidates 0 := by
  have length : (manyHosts.take 128).length = 128 := by
    rw [List.length_take]
    decide +kernel
  have outside : "b.io" ∉ manyHosts.take 128 := fun there =>
    not_mem_manyHosts (List.mem_of_mem_take there)
  have distinct : (manyHosts.take 128).Nodup :=
    nodup_manyHosts.sublist (List.take_sublist 128 manyHosts)
  have valid : validated plainText "b.io" = some "b.io" := manyLetters_facts.2.2.2.2.2.2.1
  rw [performAll_rejections
    (fun host there => validated_of_mem_manyHosts (List.mem_of_mem_take there)) length.le,
    reject_eq valid, if_neg]
  · refine ⟨twoFailures "b.io" "wifi", suggested_of_fresh valid ?_ ?_⟩
    · simpa using outside
    · intro other entry found
      cases found
  · rintro (room | there)
    · rw [List.toFinset_card_of_nodup distinct, length] at room
      exact absurd room (by decide)
    · exact outside (List.mem_toFinset.mp there)

end AdaptiveRouteLearning

end ProxyLauncher.IOS
