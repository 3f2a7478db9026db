import ProxyLauncher.IOS.RouteGuard
import ProxyLauncher.Python.Runtime
import ProxyLauncher.Texts.Trimming

/-!
# Split DNS

The plan of the guard leaves the app in two ways.  Its addresses become excluded routes of the
tunnel, and its hosts become flags of the engine, whose virtual DNS answers them with real
addresses and every other name with a synthetic one.  The two must agree: a real address without
a route is not reached, and a synthetic one for an excluded host goes to the proxy.
-/

namespace ProxyLauncher.IOS.SplitDns

open Python SharedIPRouteGuard

/-- The excluded routes of `networkSettings`, each for one address. -/
structure ExcludedRoutes where
  ipv4 : List String
  ipv6 : List String

/-- `networkSettings`. -/
def networkSettings (excludedAddresses : List String) : ExcludedRoutes where
  ipv4 := excludedAddresses.filter fun address => decide ('.' ∈ address.toList)
  ipv6 := excludedAddresses.filter fun address => decide (':' ∈ address.toList)

/-- The addresses of the engine, their texts and the white space of its language.  The dotted
texts are the addresses of the old family. -/
structure Addresses (Address : Type) where
  parse : String → Option Address
  display : Address → String
  isIpv4 : Address → Bool
  isWhitespace : Char → Bool
  parse_display : ∀ ip, parse (display ip) = some ip
  parse_plain : ∀ text ip, parse text = some ip → '=' ∉ text.toList
  parse_family : ∀ text ip, parse text = some ip →
    if isIpv4 ip = true then '.' ∈ text.toList else ':' ∈ text.toList

variable {Address : Type} (addresses : Addresses Address)

/-- A name without the dots at its end, in lower case. -/
def canonicalName (name : String) : String :=
  .ofList ((name.toList.rdropWhile fun char => char = '.').map Char.toLower)

/-- `validate_dns_bypass`. -/
def validateDnsBypass (value : String) : Option String :=
  (splitOnce '=' value).bind fun (domain, ip) =>
    let domain := canonicalName domain
    if domain = "" ∨ domain.toList.any (fun char => addresses.isWhitespace char || char = '=') then
      none
    else (addresses.parse ip).map fun addr => domain ++ "=" ++ addresses.display addr

/-- A flag as the engine takes it apart again; it panics without a value. -/
def mapping (entry : String) : Option (String × Address) :=
  (splitOnce '=' entry).bind fun (host, address) =>
    (addresses.parse address).map fun ip => (host, ip)

structure VirtualDns (Address : Type) where
  bypass : Dictionary (List Address)

/-- One more address of a host. -/
def push (bypass : Dictionary (List Address)) (mapping : String × Address) :
    Dictionary (List Address) :=
  bypass.insert (canonicalName mapping.1)
    ((bypass.lookup (canonicalName mapping.1)).getD [] ++ [mapping.2])

/-- `with_bypass`.  The addresses of a host are sorted when they are read. -/
def withBypass (mappings : List (String × Address)) : VirtualDns Address where
  bypass := mappings.foldl push ∅

/-- The engine with these flags.  It does not start with a flag that is refused.  The app joins the
flags to one text of arguments, which the engine's interface takes apart before it reads them: that
text is left out, and each flag is passed on whole. -/
def start (flags : List String) : Option (VirtualDns Address) :=
  (flags.mapM (validateDnsBypass addresses)).bind fun dnsBypass =>
    (dnsBypass.mapM (mapping addresses)).map withBypass

inductive RecordType where
  | a
  | aaaa
  | other
  deriving DecidableEq

/-- What is answered to a query: a real address, no address, or an address of the pool that
stands for the name. -/
inductive Answer (Address : Type) where
  | real (ip : Address)
  | empty
  | virtual (name : String)
  deriving DecidableEq

/-- The address is of the family that a query asks for. -/
def asked (type : Option RecordType) (ip : Address) : Bool :=
  match type with
  | some .a => addresses.isIpv4 ip
  | some .aaaa => !addresses.isIpv4 ip
  | _ => false

/-- `generate_query`, for the name and the type of the query. -/
def VirtualDns.generateQuery [LinearOrder Address] (dns : VirtualDns Address) (name : String)
    (type : Option RecordType) : Answer Address :=
  match dns.bypass.lookup (canonicalName name) with
  | some ips =>
      match ((ips.insertionSort (· ≤ ·)).dedup).find? (asked addresses type) with
      | some ip => .real ip
      | none => .empty
  | none => .virtual name

variable {addresses : Addresses Address} {host text name : String}

theorem canonicalName_canonicalName (name : String) :
    canonicalName (canonicalName name) = canonicalName name := by
  have kept : ((name.toList.rdropWhile fun char => char = '.').map Char.toLower).rdropWhile
      (fun char => char = '.') =
      (name.toList.rdropWhile fun char => char = '.').map Char.toLower := by
    rw [List.rdropWhile_eq_self_iff]
    intro nonempty
    rw [List.getLast_map, decide_eq_true_eq, Texts.toLower_eq_iff (by decide)]
    have last := List.rdropWhile_last_not (fun char => decide (char = '.')) name.toList
      (mt List.map_eq_nil_iff.mpr nonempty)
    simpa using last
  unfold canonicalName
  rw [String.toList_ofList, kept, List.map_map]
  congr 2
  funext char
  exact Char.toLower_toLower_eq_toLower char

theorem equalSign_mem_canonicalName : '=' ∈ (canonicalName name).toList ↔ '=' ∈ name.toList := by
  unfold canonicalName
  rw [String.toList_ofList, List.mem_map]
  constructor
  · intro ⟨char, there, lowered⟩
    obtain rfl := (Texts.toLower_eq_iff (by decide)).mp lowered
    exact (List.rdropWhile_prefix _ _).subset there
  · intro there
    have parts : name.toList.rdropWhile (fun char => decide (char = '.')) ++
        name.toList.rtakeWhile (fun char => decide (char = '.')) = name.toList :=
      List.rdropWhile_append_rtakeWhile
    rw [← parts, List.mem_append] at there
    rcases there with there | dot
    · exact ⟨'=', there, rfl⟩
    · exact absurd (List.mem_rtakeWhile_imp dot) (by decide)

/-- A host that can stand in a flag. -/
def Nameable (addresses : Addresses Address) (host : String) : Prop :=
  '=' ∉ host.toList ∧ canonicalName host ≠ "" ∧
    ∀ char ∈ (canonicalName host).toList, addresses.isWhitespace char = false

theorem splitOnce_entry {back : String} (plain : '=' ∉ host.toList) :
    splitOnce '=' (host ++ "=" ++ back) = some (host, back) :=
  splitOnce_append plain

/-- A flag with a sign in its host is refused, since what follows it is no address. -/
theorem validateDnsBypass_of_equalSign (sign : '=' ∈ host.toList) :
    validateDnsBypass addresses (host ++ "=" ++ text) = none := by
  obtain ⟨front, back, shape, plain⟩ := List.eq_append_cons_of_mem sign
  have value : host ++ "=" ++ text = .ofList front ++ "=" ++ (.ofList back ++ "=" ++ text) := by
    apply String.toList_injective
    simp [shape]
  have inside : '=' ∈ (String.ofList back ++ "=" ++ text).toList := by
    simp
  have unparsed : addresses.parse (.ofList back ++ "=" ++ text) = none := by
    cases read : addresses.parse (.ofList back ++ "=" ++ text) with
    | none => rfl
    | some ip => exact absurd inside (addresses.parse_plain _ _ read)
  rw [value, validateDnsBypass, splitOnce_entry (by simpa using plain), Option.bind_some]
  dsimp only
  rw [unparsed, Option.map_none, ite_self]

theorem validateDnsBypass_entry {ip : Address} (parsed : addresses.parse text = some ip)
    (nameable : Nameable addresses host) :
    validateDnsBypass addresses (host ++ "=" ++ text) =
      some (canonicalName host ++ "=" ++ addresses.display ip) := by
  obtain ⟨plain, nonempty, solid⟩ := nameable
  have clean : ((canonicalName host).toList.any fun char =>
      addresses.isWhitespace char || char = '=') = false := by
    rw [List.any_eq_false]
    intro char there
    have noSign : char ≠ '=' := by
      intro same
      exact plain (equalSign_mem_canonicalName.mp (same ▸ there))
    simp [solid char there, noSign]
  rw [validateDnsBypass, splitOnce_entry plain, Option.bind_some]
  dsimp only
  rw [if_neg (by simp [nonempty, clean]), parsed, Option.map_some]

theorem mapping_entry (ip : Address) (plain : '=' ∉ host.toList) :
    mapping addresses (canonicalName host ++ "=" ++ addresses.display ip) =
      some (canonicalName host, ip) := by
  rw [mapping, splitOnce_entry (mt equalSign_mem_canonicalName.mp plain), Option.bind_some]
  dsimp only
  rw [addresses.parse_display, Option.map_some]

theorem nameable_of_validateDnsBypass
    (accepted : (validateDnsBypass addresses (host ++ "=" ++ text)).isSome = true) :
    Nameable addresses host := by
  by_cases sign : '=' ∈ host.toList
  · rw [validateDnsBypass_of_equalSign sign] at accepted
    cases accepted
  · rw [validateDnsBypass, splitOnce_entry sign, Option.bind_some] at accepted
    dsimp only at accepted
    split_ifs at accepted with refused
    · cases accepted
    rw [not_or, Bool.not_eq_true, List.any_eq_false] at refused
    refine ⟨sign, refused.1, ?_⟩
    intro char there
    have clean := refused.2 char there
    rw [Bool.not_eq_true, Bool.or_eq_false_iff] at clean
    exact clean.1

theorem isSome_mapM {α β : Type} {read : α → Option β} {items : List α} :
    (items.mapM read).isSome = true ↔ ∀ item ∈ items, (read item).isSome = true := by
  induction items with
  | nil => simp
  | cons item items ih =>
      rw [List.mapM_cons, List.forall_mem_cons, ← ih]
      cases read item with
      | none => simp
      | some value =>
          cases items.mapM read with
          | none => simp
          | some values => simp

theorem mem_of_mapM {α β : Type} {read : α → Option β} {items : List α} {values : List β}
    {value : β} (all : items.mapM read = some values) :
    value ∈ values ↔ ∃ item ∈ items, read item = some value := by
  induction items generalizing values with
  | nil =>
      obtain rfl : [] = values := by simpa using all
      simp
  | cons item items ih =>
      rw [List.mapM_cons] at all
      obtain ⟨first, found, all⟩ := Option.bind_eq_some_iff.mp all
      obtain ⟨rest, others, same⟩ := Option.bind_eq_some_iff.mp all
      obtain rfl := Option.some.inj same
      rw [List.mem_cons, ih others, List.exists_mem_cons_iff, found, Option.some.injEq]
      exact or_congr_left eq_comm

/-- The addresses of a name in canonical form, in the order of their flags. -/
def addressesOf (mappings : List (String × Address)) (name : String) : List Address :=
  (mappings.filter fun mapping => canonicalName mapping.1 = name).map Prod.snd

theorem addressesOf_append_singleton (mappings : List (String × Address))
    (mapping : String × Address) (name : String) :
    addressesOf (mappings ++ [mapping]) name =
      if canonicalName mapping.1 = name then addressesOf mappings name ++ [mapping.2]
      else addressesOf mappings name := by
  unfold addressesOf
  rw [List.filter_append]
  split_ifs with same
  · simp [same]
  · simp [same]

theorem lookup_foldl_push (mappings : List (String × Address)) (name : String) :
    (mappings.foldl push ∅).lookup name =
      if addressesOf mappings name = [] then none else some (addressesOf mappings name) := by
  induction mappings using List.reverseRecOn with
  | nil => rfl
  | append_singleton mappings mapping ih =>
      rw [List.foldl_append, List.foldl_cons, List.foldl_nil, push, addressesOf_append_singleton]
      by_cases same : canonicalName mapping.1 = name
      · subst same
        rw [AList.lookup_insert, ih, if_pos rfl, if_neg (List.append_ne_nil_of_right_ne_nil _
          (List.cons_ne_nil _ _))]
        split_ifs with first
        · rw [first]
          rfl
        · rfl
      · rw [AList.lookup_insert_ne (Ne.symm same), ih, if_neg same]

/-- An address that a name is mapped to. -/
def MapsTo (mappings : List (String × Address)) (name : String) (ip : Address) : Prop :=
  ∃ host, (host, ip) ∈ mappings ∧ canonicalName host = canonicalName name

theorem mem_addressesOf {mappings : List (String × Address)} {ip : Address} :
    ip ∈ addressesOf mappings (canonicalName name) ↔ MapsTo mappings name ip := by
  simp [addressesOf, MapsTo]

section Query

variable [LinearOrder Address] {type : Option RecordType}

/-- A name without addresses is answered with one of the pool, and one with addresses is
answered with one of these of the family that is asked for, when there is one. -/
theorem generateQuery_withBypass (mappings : List (String × Address)) (name : String)
    (type : Option RecordType) :
    ((withBypass mappings).generateQuery addresses name type = .virtual name ↔
      ∀ ip, ¬ MapsTo mappings name ip) ∧
    ((∃ ip, (withBypass mappings).generateQuery addresses name type = .real ip) ↔
      ∃ ip, MapsTo mappings name ip ∧ asked addresses type ip = true) ∧
    ∀ ip, (withBypass mappings).generateQuery addresses name type = .real ip →
      MapsTo mappings name ip ∧ asked addresses type ip = true := by
  unfold VirtualDns.generateQuery withBypass
  rw [lookup_foldl_push]
  by_cases none : addressesOf mappings (canonicalName name) = []
  · have nothing (ip : Address) : ¬ MapsTo mappings name ip := by
      intro mapped
      exact List.not_mem_nil (none ▸ mem_addressesOf.mpr mapped)
    rw [if_pos none]
    refine ⟨iff_of_true rfl nothing, ?_, nofun⟩
    apply iff_of_false
    · intro ⟨ip, answered⟩
      cases answered
    · intro ⟨ip, mapped, _⟩
      exact nothing ip mapped
  · obtain ⟨some, there⟩ := List.exists_mem_of_ne_nil _ none
    have listed {ip : Address} :
        ip ∈ ((addressesOf mappings (canonicalName name)).insertionSort (· ≤ ·)).dedup ↔
          MapsTo mappings name ip := by
      rw [List.mem_dedup, List.mem_insertionSort, mem_addressesOf]
    rw [if_neg none]
    dsimp only
    cases found : (((addressesOf mappings (canonicalName name)).insertionSort
        (· ≤ ·)).dedup).find? (asked addresses type) with
    | none =>
        rw [List.find?_eq_none] at found
        refine ⟨iff_of_false nofun fun nothing => nothing some (mem_addressesOf.mp there), ?_,
          nofun⟩
        apply iff_of_false
        · intro ⟨ip, answered⟩
          cases answered
        · intro ⟨ip, mapped, family⟩
          exact found ip (listed.mpr mapped) family
    | some ip =>
        have own := listed.mp (List.mem_of_find?_eq_some found)
        have family := List.find?_some found
        refine ⟨iff_of_false nofun fun nothing => nothing ip own,
          iff_of_true ⟨ip, rfl⟩ ⟨ip, own, family⟩, ?_⟩
        intro answer same
        obtain rfl : ip = answer := by simpa using same
        exact ⟨own, family⟩

end Query

/-- The plan lets an approved host use an address without the proxy. -/
def Bypassed (canonicalAddress : String → Option String) (approved : Dictionary (List String))
    (nonApproved : Dictionary (Option (List String))) (host address : String) : Prop :=
  ∃ found, approved.lookup host = some found ∧ Safe canonicalAddress nonApproved found ∧
    address ∈ found.filterMap canonicalAddress

variable {canonicalAddress : String → Option String} {approved : Dictionary (List String)}
  {nonApproved : Dictionary (Option (List String))}

theorem mem_flags {flag : String} :
    flag ∈ (plan canonicalAddress approved nonApproved).dnsBypass ↔
      ∃ host address, Bypassed canonicalAddress approved nonApproved host address ∧
        flag = host ++ "=" ++ address := by
  rw [mem_dnsBypass]
  constructor
  · intro ⟨host, found, there, safe, address, member, same⟩
    exact ⟨host, address, ⟨found, there, safe, member⟩, same⟩
  · intro ⟨host, address, ⟨found, there, safe, member⟩, same⟩
    exact ⟨host, found, there, safe, address, member, same⟩

theorem Bypassed.parsed {address : String}
    (written : ∀ raw text, canonicalAddress raw = some text →
      (addresses.parse text).isSome = true)
    (bypassed : Bypassed canonicalAddress approved nonApproved host address) :
    ∃ ip, addresses.parse address = some ip := by
  obtain ⟨found, -, -, member⟩ := bypassed
  obtain ⟨raw, -, spelled⟩ := List.mem_filterMap.mp member
  exact Option.isSome_iff_exists.mp (written raw address spelled)

/-- The flags of the plan, as the engine maps them. -/
theorem mem_mappings {validated : List String} {mappings : List (String × Address)} {host : String}
    {ip : Address}
    (written : ∀ raw text, canonicalAddress raw = some text →
      (addresses.parse text).isSome = true)
    (accepted : (plan canonicalAddress approved nonApproved).dnsBypass.mapM
      (validateDnsBypass addresses) = some validated)
    (mapped : validated.mapM (mapping addresses) = some mappings) :
    (host, ip) ∈ mappings ↔ ∃ name address,
      Bypassed canonicalAddress approved nonApproved name address ∧
        canonicalName name = host ∧ addresses.parse address = some ip := by
  have nameable {name address : String}
      (bypassed : Bypassed canonicalAddress approved nonApproved name address) :
      Nameable addresses name := by
    have all := isSome_mapM.mp (Option.isSome_of_eq_some accepted)
    exact nameable_of_validateDnsBypass (all _ (mem_flags.mpr ⟨name, address, bypassed, rfl⟩))
  rw [mem_of_mapM mapped]
  constructor
  · intro ⟨entry, there, taken⟩
    obtain ⟨flag, listed, valid⟩ := (mem_of_mapM accepted).mp there
    obtain ⟨name, address, bypassed, rfl⟩ := mem_flags.mp listed
    obtain ⟨other, parsed⟩ := bypassed.parsed written
    rw [validateDnsBypass_entry parsed (nameable bypassed)] at valid
    obtain rfl := Option.some.inj valid
    rw [mapping_entry other (nameable bypassed).1] at taken
    obtain ⟨rfl, rfl⟩ := Prod.mk.inj (Option.some.inj taken)
    exact ⟨name, address, bypassed, rfl, parsed⟩
  · intro ⟨name, address, bypassed, same, parsed⟩
    subst same
    exact ⟨_, (mem_of_mapM accepted).mpr ⟨_, mem_flags.mpr ⟨name, address, bypassed, rfl⟩,
      validateDnsBypass_entry parsed (nameable bypassed)⟩,
      mapping_entry ip (nameable bypassed).1⟩

theorem isSome_start_iff
    (written : ∀ raw text, canonicalAddress raw = some text →
      (addresses.parse text).isSome = true) :
    (start addresses (plan canonicalAddress approved nonApproved).dnsBypass).isSome = true ↔
      ∀ host address, Bypassed canonicalAddress approved nonApproved host address →
        Nameable addresses host := by
  unfold start
  constructor
  · intro started host address bypassed
    obtain ⟨dns, started⟩ := Option.isSome_iff_exists.mp started
    obtain ⟨validated, accepted, -⟩ := Option.bind_eq_some_iff.mp started
    have all := isSome_mapM.mp (Option.isSome_of_eq_some accepted)
    exact nameable_of_validateDnsBypass (all _ (mem_flags.mpr ⟨host, address, bypassed, rfl⟩))
  · intro nameable
    have accepted : ((plan canonicalAddress approved nonApproved).dnsBypass.mapM
        (validateDnsBypass addresses)).isSome = true := by
      rw [isSome_mapM]
      intro flag listed
      obtain ⟨host, address, bypassed, rfl⟩ := mem_flags.mp listed
      obtain ⟨ip, parsed⟩ := bypassed.parsed written
      rw [validateDnsBypass_entry parsed (nameable host address bypassed)]
      rfl
    obtain ⟨validated, accepted⟩ := Option.isSome_iff_exists.mp accepted
    have mapped : (validated.mapM (mapping addresses)).isSome = true := by
      rw [isSome_mapM]
      intro entry there
      obtain ⟨flag, listed, valid⟩ := (mem_of_mapM accepted).mp there
      obtain ⟨host, address, bypassed, rfl⟩ := mem_flags.mp listed
      obtain ⟨ip, parsed⟩ := bypassed.parsed written
      rw [validateDnsBypass_entry parsed (nameable host address bypassed)] at valid
      obtain rfl := Option.some.inj valid
      rw [mapping_entry ip (nameable host address bypassed).1]
      rfl
    rw [accepted, Option.bind_some, Option.isSome_map]
    exact mapped

/-- The excluded route of the family of an address. -/
def ExcludedRoutes.routes (addresses : Addresses Address) (routes : ExcludedRoutes)
    (ip : Address) : List String :=
  if addresses.isIpv4 ip = true then routes.ipv4 else routes.ipv6

/-- The engine starts exactly when each bypassed host can stand in a flag.  It then answers a
name with an address of the pool exactly when no bypassed host has this name, and with a real
address exactly when such a host has one of the family that is asked for.  A real address always
has an excluded route. -/
theorem split_dns_agrees [LinearOrder Address] (canonicalAddress : String → Option String)
    (addresses : Addresses Address) (approved : Dictionary (List String))
    (nonApproved : Dictionary (Option (List String))) (upstream : List String)
    (written : ∀ raw text, canonicalAddress raw = some text →
      (addresses.parse text).isSome = true) :
    let guarded := plan canonicalAddress approved nonApproved
    let settings := networkSettings (sortedSet (guarded.allowedAddresses ++ upstream))
    ((start addresses guarded.dnsBypass).isSome = true ↔ ∀ host address,
      Bypassed canonicalAddress approved nonApproved host address → Nameable addresses host) ∧
    ∀ dns, start addresses guarded.dnsBypass = some dns → ∀ name type,
      (dns.generateQuery addresses name type = .virtual name ↔ ∀ host address,
        Bypassed canonicalAddress approved nonApproved host address →
          canonicalName host ≠ canonicalName name) ∧
      ((∃ ip, dns.generateQuery addresses name type = .real ip) ↔ ∃ host address ip,
        Bypassed canonicalAddress approved nonApproved host address ∧
          canonicalName host = canonicalName name ∧ addresses.parse address = some ip ∧
          asked addresses type ip = true) ∧
      ∀ ip, dns.generateQuery addresses name type = .real ip →
        asked addresses type ip = true ∧
        ∃ address ∈ settings.routes addresses ip, addresses.parse address = some ip := by
  intro guarded settings
  refine ⟨isSome_start_iff written, ?_⟩
  intro dns started name type
  obtain ⟨validated, accepted, started⟩ := Option.bind_eq_some_iff.mp started
  obtain ⟨mappings, mapped, rfl⟩ := Option.map_eq_some_iff.mp started
  have maps {ip : Address} : MapsTo mappings name ip ↔ ∃ host address,
      Bypassed canonicalAddress approved nonApproved host address ∧
        canonicalName host = canonicalName name ∧ addresses.parse address = some ip := by
    unfold MapsTo
    simp only [mem_mappings written accepted mapped]
    constructor
    · intro ⟨_, ⟨host, address, bypassed, same, parsed⟩, canonical⟩
      subst same
      rw [canonicalName_canonicalName] at canonical
      exact ⟨host, address, bypassed, canonical, parsed⟩
    · intro ⟨host, address, bypassed, same, parsed⟩
      exact ⟨_, ⟨host, address, bypassed, rfl, parsed⟩,
        (canonicalName_canonicalName host).trans same⟩
  obtain ⟨synthetic, real, own⟩ :=
    @generateQuery_withBypass _ addresses _ mappings name type
  refine ⟨?_, ?_, ?_⟩
  · rw [synthetic]
    constructor
    · intro nothing host address bypassed same
      obtain ⟨ip, parsed⟩ := bypassed.parsed written
      exact nothing ip (maps.mpr ⟨host, address, bypassed, same, parsed⟩)
    · intro others ip mapped
      obtain ⟨host, address, bypassed, same, -⟩ := maps.mp mapped
      exact others host address bypassed same
  · rw [real]
    constructor
    · intro ⟨ip, mapped, family⟩
      obtain ⟨host, address, bypassed, same, parsed⟩ := maps.mp mapped
      exact ⟨host, address, ip, bypassed, same, parsed, family⟩
    · intro ⟨host, address, ip, bypassed, same, parsed, family⟩
      exact ⟨ip, maps.mpr ⟨host, address, bypassed, same, parsed⟩, family⟩
  · intro ip answered
    obtain ⟨mapped, family⟩ := own ip answered
    obtain ⟨host, address, bypassed, same, parsed⟩ := maps.mp mapped
    refine ⟨family, address, ?_, parsed⟩
    have allowed : address ∈ sortedSet (guarded.allowedAddresses ++ upstream) := by
      obtain ⟨found, there, safe, member⟩ := bypassed
      rw [mem_sortedSet, List.mem_append]
      exact .inl (mem_allowedAddresses.mpr ⟨host, found, there, safe, member⟩)
    have spelled := addresses.parse_family address ip parsed
    unfold ExcludedRoutes.routes
    split_ifs at spelled ⊢
    · exact List.mem_filter.mpr ⟨allowed, decide_eq_true spelled⟩
    · exact List.mem_filter.mpr ⟨allowed, decide_eq_true spelled⟩

/-- The two addresses that `plainAddress` knows. -/
def twoAddresses : Addresses Bool where
  parse text :=
    if text = "10.0.0.1" then some false else if text = "10.0.0.2" then some true else none
  display ip := if ip then "10.0.0.2" else "10.0.0.1"
  isIpv4 _ := true
  isWhitespace char := char = ' '
  parse_display ip := by
    cases ip with
    | false => rfl
    | true => rfl
  parse_plain text ip parsed := by
    split_ifs at parsed with first second
    · subst first
      decide
    · subst second
      decide
  parse_family text ip parsed := by
    split_ifs at parsed with first second
    · subst first
      decide
    · subst second
      decide

theorem plainAddress_parsed (raw text : String) (spelled : plainAddress raw = some text) :
    (twoAddresses.parse text).isSome = true := by
  unfold plainAddress at spelled
  split_ifs at spelled with known
  obtain rfl := Option.some.inj spelled
  rcases known with rfl | rfl
  · rfl
  · rfl

theorem split_dns_agrees_sample :
    (start twoAddresses (plan plainAddress approvedSite ∅).dnsBypass).isSome = true := by
  apply (split_dns_agrees plainAddress twoAddresses approvedSite ∅ [] plainAddress_parsed).1.mpr
  intro host address bypassed
  obtain ⟨found, there, -⟩ := bypassed
  have known : host = "a.io" := by
    by_contra other
    rw [approvedSite, AList.lookup_insert_ne other] at there
    cases there
  subst known
  have name : (canonicalName "a.io").toList = ['a', '.', 'i', 'o'] := by decide
  refine ⟨by decide, by decide, ?_⟩
  rw [name]
  simp [twoAddresses]

/-- A query in other letters and with a dot at its end is one for the host. -/
example : (start twoAddresses (plan plainAddress approvedSite ∅).dnsBypass).map (fun dns =>
    (dns.generateQuery twoAddresses "A.io." (some .a),
      dns.generateQuery twoAddresses "b.io" (some .a))) =
    some (.real false, .virtual "b.io") := by
  decide

end ProxyLauncher.IOS.SplitDns
