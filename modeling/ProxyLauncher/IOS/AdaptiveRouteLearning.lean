import ProxyLauncher.IOS.Dictionary
import ProxyLauncher.IOS.Hosts

/-!
# Adaptive routes

Failed connections through the proxy and comparisons with a direct connection are the evidence
that a host is direct for a while.
-/

namespace ProxyLauncher.IOS

namespace AdaptiveRouteLearning

inductive Failure where
  | proxyTimeout
  | proxyRefused
  | proxyAuthentication
  | tlsApplication
  | pageTimeout
  | offline
deriving DecidableEq

def Failure.eligible (failure : Failure) : Bool :=
  failure = .proxyTimeout || failure = .proxyRefused

inductive Action where
  | keepProxy
  | verifyDirect (host : String)
  | unsupportedDirect (host : String)
  | temporaryDirect (host : String)
  | revert (host : String)
deriving DecidableEq

structure Entry where
  sessionIDs : List String := []
  started : ℚ
  last : ℚ
  successes : ℕ := 0
  lastVerified : Option ℚ := none
  lastProbeRequested : Option ℚ := none
  expires : Option ℚ := none
  networkID : String
deriving DecidableEq

def window : ℚ := 120
def lifetime : ℚ := 86400
def maxHosts : ℕ := 64
def maxActive : ℕ := 12
def maxRejected : ℕ := 128

namespace Entry

variable (entry : Entry)

/-- An entry without evidence. -/
def new (now : ℚ) (networkID : String) : Entry where
  started := now
  last := now
  networkID := networkID

/-- `(expires ?? .distantPast) > now`. -/
def active (now : ℚ) : Bool :=
  entry.expires.any fun expires => decide (now < expires)

/-- The entry is kept by `prune`. -/
def kept (now : ℚ) (networkID : String) : Bool :=
  decide (entry.networkID = networkID) && decide (entry.started ≤ now) &&
    (entry.active now || decide (now - entry.last ≤ window))

/-- The entry with one more failed connection. -/
def failed (connectionID : String) (now : ℚ) : Entry :=
  { entry with
    sessionIDs := if connectionID ∈ entry.sessionIDs then entry.sessionIDs
      else entry.sessionIDs ++ [connectionID]
    last := now }

def shouldProbe (now : ℚ) : Bool :=
  decide (2 ≤ entry.sessionIDs.length) &&
    entry.lastProbeRequested.all fun requested => decide (60 ≤ now - requested)

/-- The entry with one more successful comparison. -/
def succeeded (now : ℚ) : Entry :=
  { entry with
    successes := entry.successes + 1
    lastVerified := some now
    expires := if 2 ≤ entry.successes + 1 then some (now + lifetime) else entry.expires }

end Entry

end AdaptiveRouteLearning

structure AdaptiveRouteLearning where
  hosts : Dictionary AdaptiveRouteLearning.Entry := ∅
  rejected : Finset String := ∅

namespace AdaptiveRouteLearning

variable (text : Text)

def validated (host : String) : Option String :=
  let value := trimmingCharacters text (text.lowercased host)
  (SiteExclusionPolicy.normalized text value).filter fun normalized =>
    decide (value = normalized) && isScannableHost text value &&
      eligibleForAutomaticBypass text value

/-- The entries with the oldest failures. -/
def oldest (hosts : Dictionary Entry) (number : ℕ) : List String :=
  ((hosts.pairs.insertionSort fun first second => first.2.last ≤ second.2.last).take number).map
    Prod.fst

/-- `removeValue(forKey:)` for each of the keys. -/
def without (hosts : Dictionary Entry) (keys : List String) : Dictionary Entry :=
  keys.foldl (fun hosts key => hosts.erase key) hosts

variable (learning : AdaptiveRouteLearning)

def setEntry (host : String) (entry : Entry) : AdaptiveRouteLearning :=
  { learning with hosts := learning.hosts.insert host entry }

def prune (now : ℚ) (networkID : String) : AdaptiveRouteLearning :=
  let hosts := learning.hosts.filter fun _ entry => entry.kept now networkID
  { learning with
    hosts := if hosts.count > maxHosts then without hosts (oldest hosts (hosts.count - maxHosts))
      else hosts }

/-- The entry that a failure belongs to. -/
def current (host : String) (now : ℚ) (networkID : String) : Entry :=
  let entry := (learning.hosts.lookup host).getD (.new now networkID)
  if now - entry.started > window then .new now networkID else entry

def proxyFailure (host connectionID : String) (type : Failure) (proxyHealthy : Bool)
    (networkID : String) (now : ℚ) : AdaptiveRouteLearning × Action :=
  let learning := learning.prune now networkID
  match validated text host with
  | none => (learning, .keepProxy)
  | some host =>
      if host ∉ learning.rejected ∧ type.eligible = true ∧ proxyHealthy = true ∧
          connectionID ≠ "" ∧ connectionID.toList.length ≤ 80 then
        let entry := (learning.current host now networkID).failed connectionID now
        if entry.shouldProbe now = true then
          (learning.setEntry host { entry with lastProbeRequested := some now },
            .verifyDirect host)
        else (learning.setEntry host entry, .keepProxy)
      else (learning, .keepProxy)

/-- The number of the hosts that are direct. -/
def activeCount (now : ℚ) : ℕ :=
  learning.hosts.countValues fun entry => entry.active now

def comparison (host : String)
    (proxyFailed directSucceeded independentlyDirect exactHostTransport : Bool)
    (networkID : String) (now : ℚ) : AdaptiveRouteLearning × Action :=
  let learning := learning.prune now networkID
  match validated text host with
  | none => (learning, .keepProxy)
  | some host =>
      match learning.hosts.lookup host with
      | none => (learning, .keepProxy)
      | some entry =>
          if host ∈ learning.rejected ∨ entry.networkID ≠ networkID ∨
              entry.sessionIDs.length < 2 then (learning, .keepProxy)
          else if (proxyFailed && directSucceeded && independentlyDirect) = false then
            (learning.setEntry host { entry with successes := 0, lastVerified := none },
              .keepProxy)
          else if exactHostTransport = false then (learning, .unsupportedDirect host)
          else if maxActive ≤ learning.activeCount now ∧ entry.active now = false then
            (learning, .keepProxy)
          else if (entry.lastVerified.any fun previous => decide (now - previous < 1)) = true then
            (learning, .keepProxy)
          else
            (learning.setEntry host (entry.succeeded now),
              if (entry.succeeded now).expires = none then .verifyDirect host
              else .temporaryDirect host)

def diagnosticCandidates (now : ℚ) : List String :=
  ((learning.hosts.pairs.filter fun pair =>
    decide (2 ≤ pair.2.sessionIDs.length) && decide (pair.2.last ≤ now) &&
      decide (now - pair.2.last ≤ window) && decide (pair.1 ∉ learning.rejected)).map
    Prod.fst).insertionSort (· ≤ ·)

def directHosts (networkID : String) (exactHostTransport : Bool) (now : ℚ) : List String :=
  if exactHostTransport = true then
    ((learning.hosts.pairs.filter fun pair =>
      decide (pair.2.networkID = networkID) && pair.2.active now &&
        decide (pair.1 ∉ learning.rejected)).map Prod.fst).insertionSort (· ≤ ·)
  else []

def directFailure (host : String) : AdaptiveRouteLearning × Action :=
  match validated text host with
  | none => (learning, .keepProxy)
  | some host =>
      match learning.hosts.lookup host with
      | none => (learning, .keepProxy)
      | some entry =>
          (learning.setEntry host { entry with expires := none, successes := 0 }, .revert host)

def reject (host : String) : AdaptiveRouteLearning :=
  match validated text host with
  | none => learning
  | some host =>
      if learning.rejected.card < maxRejected ∨ host ∈ learning.rejected then
        { hosts := learning.hosts.erase host, rejected := insert host learning.rejected }
      else learning

variable {text : Text} {learning : AdaptiveRouteLearning} {host other networkID : String}
  {entry : Entry} {now later : ℚ}

theorem Entry.active_iff : entry.active now = true ↔ ∃ expires, entry.expires = some expires ∧
    now < expires := by
  rcases shape : entry.expires with _ | expires
  · simp [Entry.active, shape]
  · simp [Entry.active, shape]

theorem Entry.active_of_le (later_le : now ≤ later) (active : entry.active later = true) :
    entry.active now = true := by
  obtain ⟨expires, shape, future⟩ := Entry.active_iff.mp active
  exact Entry.active_iff.mpr ⟨expires, shape, lt_of_le_of_lt later_le future⟩

@[simp] theorem lookup_setEntry_self :
    (learning.setEntry host entry).hosts.lookup host = some entry :=
  AList.lookup_insert _

theorem lookup_setEntry_of_ne (different : other ≠ host) :
    (learning.setEntry host entry).hosts.lookup other = learning.hosts.lookup other :=
  AList.lookup_insert_ne different

@[simp] theorem rejected_setEntry : (learning.setEntry host entry).rejected = learning.rejected :=
  rfl

@[simp] theorem rejected_prune : (learning.prune now networkID).rejected = learning.rejected :=
  rfl

theorem lookup_of_without {hosts : Dictionary Entry} {keys : List String}
    (found : (without hosts keys).lookup host = some entry) :
    hosts.lookup host = some entry := by
  induction keys generalizing hosts with
  | nil => exact found
  | cons key keys ih => exact Dictionary.lookup_of_erase (ih found)

theorem countValues_without_le {hosts : Dictionary Entry} {keys : List String}
    {counted : Entry → Bool} :
    (without hosts keys).countValues counted ≤ hosts.countValues counted := by
  induction keys generalizing hosts with
  | nil => exact le_rfl
  | cons key keys ih => exact le_trans ih Dictionary.countValues_erase_le

/-- An entry that is left by `prune` was there and is of the network. -/
theorem lookup_of_prune (found : (learning.prune now networkID).hosts.lookup host = some entry) :
    learning.hosts.lookup host = some entry ∧ entry.kept now networkID = true := by
  rw [prune] at found
  simp only [] at found
  split at found
  · exact Dictionary.lookup_filter.mp (lookup_of_without found)
  · exact Dictionary.lookup_filter.mp found

theorem of_mem_prune
    (found : (learning.prune now networkID).hosts.lookup host = some entry) :
    entry.networkID = networkID ∧ entry.started ≤ now := by
  have kept := (lookup_of_prune found).2
  simp only [Entry.kept, Bool.and_eq_true, decide_eq_true_eq] at kept
  exact kept.1

theorem activeCount_prune_le :
    (learning.prune now networkID).activeCount later ≤ learning.activeCount later := by
  rw [activeCount, prune]
  simp only []
  split
  · exact le_trans countValues_without_le Dictionary.countValues_filter_le
  · exact Dictionary.countValues_filter_le

theorem countValues_active_le {hosts : Dictionary Entry} (later_le : now ≤ later) :
    (hosts.countValues fun entry => entry.active later) ≤
      hosts.countValues fun entry => entry.active now :=
  List.countP_mono_left fun _ _ active => Entry.active_of_le later_le active

/-- A host that is direct has an entry that has not expired. -/
theorem mem_directHosts {exactHostTransport : Bool} :
    host ∈ learning.directHosts networkID exactHostTransport now ↔
      exactHostTransport = true ∧ host ∉ learning.rejected ∧
        ∃ entry, learning.hosts.lookup host = some entry ∧ entry.networkID = networkID ∧
          entry.active now = true := by
  rw [directHosts]
  split
  · rename_i exactHost
    simp only [List.mem_insertionSort, List.mem_map, List.mem_filter, Bool.and_eq_true,
      decide_eq_true_eq, Prod.exists, exists_and_right, exists_eq_right, Dictionary.mem_pairs,
      exactHost, true_and]
    constructor
    · rintro ⟨entry, found, ⟨network, active⟩, unrejected⟩
      exact ⟨unrejected, entry, found, network, active⟩
    · rintro ⟨unrejected, entry, found, network, active⟩
      exact ⟨entry, found, ⟨network, active⟩, unrejected⟩
  · rename_i inexact
    simp [inexact]

theorem length_directHosts_le {exactHostTransport : Bool} :
    (learning.directHosts networkID exactHostTransport now).length ≤ learning.activeCount now := by
  rw [directHosts]
  split
  · rw [List.length_insertionSort, List.length_map, ← List.countP_eq_length_filter,
      Dictionary.pairs, List.countP_map, activeCount, Dictionary.countValues]
    refine List.countP_mono_left ?_
    intro pair _ passed
    simp only [Function.comp_apply, Bool.and_eq_true] at passed
    exact passed.1.2
  · exact Nat.zero_le _

end AdaptiveRouteLearning

end ProxyLauncher.IOS
