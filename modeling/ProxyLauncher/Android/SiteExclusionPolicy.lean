import ProxyLauncher.Prefixes.Trie
import Mathlib.Data.List.GetD

/-!
# Site exclusions on Android

The routes that a tunnel takes around the excluded addresses.  A trie of the addresses is walked
with the prefix of each node as the bytes of an address.
-/

namespace ProxyLauncher.Android

open ProxyLauncher.Prefixes

abbrev Bytes := List UInt8

/-- An `InetAddress`: its bytes, and the scope of an address of a link. -/
structure InetAddress where
  address : Bytes
  scopeId : ℕ
  deriving DecidableEq, Repr

/-- What the first bytes of an IPv4-mapped address are. -/
def mappedPrefix : Bytes :=
  [0, 0, 0, 0, 0, 0, 0, 0, 0, 0, 255, 255]

/-- `InetAddress.getByAddress`, which takes an IPv4-mapped address for an IPv4 address. -/
def getByAddress (bytes : Bytes) : InetAddress :=
  if bytes.length = 16 ∧ bytes.take 12 = mappedPrefix then ⟨bytes.drop 12, 0⟩ else ⟨bytes, 0⟩

structure IpRoute where
  address : InetAddress
  prefixLength : ℕ
  deriving DecidableEq, Repr

def maxResolvedAddresses : ℕ := 128
def maxRoutes : ℕ := 4096

def ipv4Bytes : ℕ := 4
def ipv6Bytes : ℕ := 16

/-- The bit of an address at a depth of the trie. -/
def bitAt (bytes : Bytes) (depth : ℕ) : Bool :=
  let shift := 7 - depth % 8
  (bytes.getD (depth / 8) 0 >>> UInt8.ofNat shift) &&& 1 == 1

/-- An address with one bit set or cleared. -/
def setBit (bytes : Bytes) (depth : ℕ) (one : Bool) : Bytes :=
  let shift := 7 - depth % 8
  let mask : UInt8 := 1 <<< UInt8.ofNat shift
  let current := bytes.getD (depth / 8) 0
  bytes.set (depth / 8) (if one then current ||| mask else current &&& ~~~mask)

abbrev TrieNode := Trie

/-- The loop of `addExcluded` from a depth on. -/
def addExcludedFrom (bytes : Bytes) : ℕ → ℕ → TrieNode → TrieNode
  | 0, _, node => node.mark
  | steps + 1, depth, node =>
      let one := bitAt bytes depth
      node.setChild one (addExcludedFrom bytes steps (depth + 1) (node.child one))

def addExcluded (root : TrieNode) (bytes : Bytes) : TrieNode :=
  addExcludedFrom bytes (bytes.length * 8) 0 root

def collectAllowed : TrieNode → ℕ → Bytes → List IpRoute
  | .absent, depth, pre => [⟨getByAddress pre, depth⟩]
  | .node zero one excluded, depth, pre =>
      if excluded = true ∨ depth = pre.length * 8 then []
      else
        collectAllowed zero (depth + 1) (setBit pre depth false) ++
          collectAllowed one (depth + 1) (setBit pre depth true)

/-- `distinctBy`: the first element of every key. -/
def distinctBy {α κ : Type*} [DecidableEq κ] (key : α → κ) : List α → List α
  | [] => []
  | first :: rest => first :: (distinctBy key rest).filter fun other => key other ≠ key first

/-- The addresses of one family, without repetitions. -/
def familyOf (hostAddress : InetAddress → String) (excluded : List InetAddress)
    (addressBytes : ℕ) : List InetAddress :=
  distinctBy hostAddress (excluded.filter fun other => other.address.length = addressBytes)

/-- `complementRoutes`: the routes of one family around the excluded addresses. -/
def complementRoutes (hostAddress : InetAddress → String) (excluded : List InetAddress)
    (addressBytes : ℕ) : Except String (List IpRoute) :=
  if ¬ (addressBytes = ipv4Bytes ∨ addressBytes = ipv6Bytes) then .error "Failed requirement."
  else
    let family := familyOf hostAddress excluded addressBytes
    if family = [] then .ok [⟨getByAddress (List.replicate addressBytes 0), 0⟩]
    else
      let root := family.foldl (fun root other => addExcluded root other.address)
        (.node .absent .absent false)
      let routes := collectAllowed root 0 (List.replicate addressBytes 0)
      if routes.length ≤ maxRoutes then .ok routes
      else .error "Слишком много маршрутов для безопасного применения исключений"

section Bytes

variable {byte byte' : UInt8} {shift index : ℕ}

theorem toNat_shift (small : shift < 8) : (UInt8.ofNat shift).toNat % 8 = shift := by
  rw [UInt8.toNat_ofNat']
  omega

theorem shiftRight_eq_testBit (small : shift < 8) :
    ((byte >>> UInt8.ofNat shift) &&& 1 == 1) = byte.toNat.testBit shift := by
  rw [Bool.eq_iff_iff, beq_iff_eq, ← UInt8.toNat_inj, UInt8.toNat_and, UInt8.toNat_shiftRight,
    toNat_shift small, UInt8.toNat_one, Nat.and_one_is_mod, Nat.testBit_eq_decide_div_mod_eq,
    Nat.shiftRight_eq_div_pow, decide_eq_true_eq]

theorem testBit_mask (small : shift < 8) (within : index < 8) :
    ((1 : UInt8) <<< UInt8.ofNat shift).toNat.testBit index = decide (index = shift) := by
  rw [UInt8.toNat_shiftLeft, toNat_shift small, Nat.testBit_mod_two_pow, UInt8.toNat_one,
    Nat.one_shiftLeft, Nat.testBit_two_pow, decide_eq_true within, Bool.true_and]
  exact decide_eq_decide.mpr eq_comm

theorem testBit_or_mask (small : shift < 8) (within : index < 8) :
    (byte ||| 1 <<< UInt8.ofNat shift).toNat.testBit index =
      if index = shift then true else byte.toNat.testBit index := by
  rw [UInt8.toNat_or, Nat.testBit_or, testBit_mask small within]
  by_cases same : index = shift <;> simp [same]

theorem testBit_and_not_mask (small : shift < 8) (within : index < 8) :
    (byte &&& ~~~(1 <<< UInt8.ofNat shift)).toNat.testBit index =
      if index = shift then false else byte.toNat.testBit index := by
  have flipped : (~~~((1 : UInt8) <<< UInt8.ofNat shift)).toNat.testBit index =
      !((1 : UInt8) <<< UInt8.ofNat shift).toNat.testBit index := by
    have bits := @BitVec.getLsbD_not 8 index ((1 : UInt8) <<< UInt8.ofNat shift).toBitVec
    rw [decide_eq_true within, Bool.true_and] at bits
    exact bits
  rw [UInt8.toNat_and, Nat.testBit_and, flipped, testBit_mask small within]
  by_cases same : index = shift <;> simp [same]

theorem byte_ext (bits : ∀ index < 8, byte.toNat.testBit index = byte'.toNat.testBit index) :
    byte = byte' := by
  refine UInt8.toNat_inj.mp (Nat.eq_of_testBit_eq fun index => ?_)
  by_cases within : index < 8
  · exact bits index within
  · have large : 2 ^ 8 ≤ 2 ^ index := Nat.pow_le_pow_right (by decide) (not_lt.mp within)
    rw [Nat.testBit_lt_two_pow (lt_of_lt_of_le byte.toNat_lt large),
      Nat.testBit_lt_two_pow (lt_of_lt_of_le byte'.toNat_lt large)]

end Bytes

section Bits

variable {bytes bytes' : Bytes} {depth depth' : ℕ} {one : Bool} {path : List Bool}

/-- The bit at a depth is counted from the highest one of its byte. -/
theorem bitAt_eq_testBit :
    bitAt bytes depth = (bytes.getD (depth / 8) 0).toNat.testBit (7 - depth % 8) :=
  shiftRight_eq_testBit (by omega)

@[simp] theorem length_setBit : (setBit bytes depth one).length = bytes.length := by
  simp [setBit]

/-- Setting a bit changes this bit only. -/
theorem bitAt_setBit (within : depth < bytes.length * 8) :
    bitAt (setBit bytes depth one) depth' = if depth' = depth then one else bitAt bytes depth' := by
  rw [bitAt_eq_testBit, setBit]
  by_cases sameByte : depth' / 8 = depth / 8
  · rw [sameByte, List.getD_eq_getElem _ _ (by rw [List.length_set]; omega), List.getElem_set_self]
    have sameBit : 7 - depth' % 8 = 7 - depth % 8 ↔ depth' = depth := by omega
    cases one with
    | false =>
        rw [if_neg Bool.false_ne_true, testBit_and_not_mask (by omega) (by omega),
          bitAt_eq_testBit, sameByte]
        simp only [sameBit]
    | true =>
        rw [if_pos rfl, testBit_or_mask (by omega) (by omega), bitAt_eq_testBit, sameByte]
        simp only [sameBit]
  · have different : depth' ≠ depth := by
      rintro rfl
      exact sameByte rfl
    rw [if_neg different, bitAt_eq_testBit]
    rw [List.getD_eq_getElem?_getD, List.getElem?_set_ne (Ne.symm sameByte),
      ← List.getD_eq_getElem?_getD]

/-- All the bits, the first bit of the first byte first. -/
def bits (bytes : Bytes) : List Bool :=
  (List.range (bytes.length * 8)).map (bitAt bytes)

@[simp] theorem length_bits : (bits bytes).length = bytes.length * 8 := by
  simp [bits]

theorem getElem_bits (within : depth < (bits bytes).length) :
    (bits bytes)[depth] = bitAt bytes depth := by
  simp [bits]

/-- Addresses with the same bits are the same. -/
theorem eq_of_bitAt (same : bytes.length = bytes'.length)
    (all : ∀ depth < bytes.length * 8, bitAt bytes depth = bitAt bytes' depth) :
    bytes = bytes' := by
  refine List.ext_getElem same fun position within within' => byte_ext fun index small => ?_
  have bit := all (position * 8 + (7 - index)) (by omega)
  have byte : (position * 8 + (7 - index)) / 8 = position := by omega
  have offset : 7 - (position * 8 + (7 - index)) % 8 = index := by omega
  rwa [bitAt_eq_testBit, bitAt_eq_testBit, byte, offset, List.getD_eq_getElem _ _ within,
    List.getD_eq_getElem _ _ within'] at bit

theorem bits_inj (same : bytes.length = bytes'.length) :
    bits bytes = bits bytes' ↔ bytes = bytes' := by
  refine ⟨fun equal => eq_of_bitAt same fun depth within => ?_, congrArg bits⟩
  have within' : depth < (bits bytes).length := by rwa [length_bits]
  rw [← getElem_bits within', ← getElem_bits (by rwa [← equal]), getElem_congr_coll equal]

theorem bits_take (count : ℕ) : bits (bytes.take count) = (bits bytes).take (count * 8) := by
  refine List.ext_getElem (by simp) fun depth within within' => ?_
  have inside : depth < (bytes.take count).length * 8 := by simpa using within
  rw [List.length_take] at inside
  rw [getElem_bits, List.getElem_take, getElem_bits, bitAt_eq_testBit, bitAt_eq_testBit,
    List.getD_eq_getElem _ _ (by rw [List.length_take]; omega), List.getElem_take,
    List.getD_eq_getElem _ _ (by omega)]

/-- The bytes with the bits of a path set from a depth on. -/
def setBits : Bytes → ℕ → List Bool → Bytes
  | bytes, _, [] => bytes
  | bytes, depth, one :: path => setBits (setBit bytes depth one) (depth + 1) path

@[simp] theorem length_setBits : (setBits bytes depth path).length = bytes.length := by
  induction path generalizing bytes depth with
  | nil => rfl
  | cons one path ih => rw [setBits, ih, length_setBit]

/-- Setting a path of bits changes these bits only. -/
theorem bitAt_setBits (within : depth + path.length ≤ bytes.length * 8) :
    bitAt (setBits bytes depth path) depth' =
      if depth ≤ depth' then path.getD (depth' - depth) (bitAt bytes depth')
      else bitAt bytes depth' := by
  induction path generalizing bytes depth with
  | nil => simp [setBits]
  | cons one path ih =>
      rw [List.length_cons] at within
      rw [setBits, ih (by rw [length_setBit]; omega), bitAt_setBit (by omega)]
      rcases lt_trichotomy depth' depth with before | rfl | after
      · rw [if_neg (by omega), if_neg (by omega), if_neg (by omega)]
      · rw [if_neg (by omega), if_pos rfl, if_pos le_rfl, Nat.sub_self, List.getD_cons_zero]
      · obtain ⟨later, rfl⟩ := Nat.exists_eq_add_of_lt after
        rw [if_pos (by omega), if_neg (by omega), if_pos (by omega)]
        have shift : depth + later + 1 - depth = (depth + later + 1 - (depth + 1)) + 1 := by omega
        rw [shift, List.getD_cons_succ]

/-- The bytes of an address that begins with a path and has no other bits. -/
def prefixBytes (count : ℕ) (path : List Bool) : Bytes :=
  setBits (List.replicate count 0) 0 path

@[simp] theorem length_prefixBytes {count : ℕ} : (prefixBytes count path).length = count := by
  simp [prefixBytes]

theorem bitAt_replicate {count : ℕ} : bitAt (List.replicate count 0) depth = false := by
  rw [bitAt_eq_testBit]
  by_cases within : depth / 8 < count
  · simp [within]
  · rw [List.getD_eq_default _ _ (by simpa using within)]
    exact Nat.zero_testBit _

theorem bitAt_prefixBytes {count : ℕ} (short : path.length ≤ count * 8) :
    bitAt (prefixBytes count path) depth = path.getD depth false := by
  rw [prefixBytes, bitAt_setBits (by simpa using short), if_pos (Nat.zero_le _), Nat.sub_zero,
    bitAt_replicate]

/-- The address of a prefix goes on with zeros. -/
theorem bits_prefixBytes {count : ℕ} (short : path.length ≤ count * 8) :
    bits (prefixBytes count path) = path ++ List.replicate (count * 8 - path.length) false := by
  refine List.ext_getElem (by simp; omega) fun depth within within' => ?_
  rw [getElem_bits, bitAt_prefixBytes short]
  by_cases inside : depth < path.length
  · rw [List.getElem_append_left inside, List.getD_eq_getElem _ _ inside]
  · rw [List.getElem_append_right (not_lt.mp inside), List.getElem_replicate,
      List.getD_eq_default _ _ (not_lt.mp inside)]

end Bits

section Walk

variable {hostAddress : InetAddress → String} {excluded : List InetAddress} {bytes : Bytes}
  {node : TrieNode} {depth steps addressBytes : ℕ} {path : List Bool}

theorem addExcludedFrom_eq_insert :
    addExcludedFrom bytes steps depth node =
      node.insert ((List.range' depth steps).map (bitAt bytes)) := by
  induction steps generalizing depth node with
  | zero => rfl
  | succ steps ih =>
      rw [addExcludedFrom, List.range'_succ, List.map_cons, Trie.insert, ih]

/-- Excluding an address inserts its bits into the trie. -/
theorem addExcluded_eq_insert : addExcluded node bytes = node.insert (bits bytes) := by
  rw [addExcluded, addExcludedFrom_eq_insert, bits, List.range_eq_range']

/-- The route to the addresses that begin with a path. -/
def routeOf (addressBytes : ℕ) (path : List Bool) : IpRoute :=
  ⟨getByAddress (prefixBytes addressBytes path), path.length⟩

/-- The allowed routes are the gaps of the trie. -/
theorem collectAllowed_eq_map (spans : node.Spans (bytes.length * 8 - depth))
    (within : depth ≤ bytes.length * 8) :
    collectAllowed node depth bytes =
      node.gaps.map fun path => ⟨getByAddress (setBits bytes depth path), depth + path.length⟩ := by
  induction node generalizing depth bytes with
  | absent => rfl
  | node zero one excluded left right =>
      rw [collectAllowed, Trie.gaps]
      by_cases deepest : depth = bytes.length * 8
      · rw [deepest, Nat.sub_self] at spans
        obtain ⟨-, -, rfl⟩ := spans
        rw [if_pos (.inl rfl), if_pos rfl, List.map_nil]
      · obtain ⟨below, height⟩ : ∃ below, bytes.length * 8 - depth = below + 1 :=
          ⟨bytes.length * 8 - depth - 1, by omega⟩
        rw [height] at spans
        obtain ⟨rfl, spansZero, spansOne, -⟩ := spans
        have lower (bit : Bool) : (setBit bytes depth bit).length * 8 - (depth + 1) = below := by
          rw [length_setBit]
          omega
        have within' (bit : Bool) : depth + 1 ≤ (setBit bytes depth bit).length * 8 := by
          rw [length_setBit]
          omega
        rw [if_neg (by simp [deepest]), if_neg Bool.false_ne_true,
          left (by rwa [lower]) (within' false), right (by rwa [lower]) (within' true),
          List.map_append, List.map_map, List.map_map]
        congr 1 <;> refine List.map_congr_left fun path _ => ?_ <;>
          simp only [Function.comp, setBits, List.length_cons] <;> congr 1 <;> omega

/-- The bits of the addresses of one family. -/
def familyBits (hostAddress : InetAddress → String) (excluded : List InetAddress)
    (addressBytes : ℕ) : List (List Bool) :=
  (familyOf hostAddress excluded addressBytes).map fun other => bits other.address

theorem mem_distinctBy {α κ : Type*} [DecidableEq κ] {key : α → κ} {elements : List α}
    {element : α} (kept : element ∈ distinctBy key elements) : element ∈ elements := by
  induction elements with
  | nil => exact kept
  | cons first rest ih =>
      rcases List.mem_cons.mp kept with rfl | later
      · exact List.mem_cons_self
      · exact List.mem_cons_of_mem _ (ih (List.mem_filter.mp later).1)

theorem exists_mem_distinctBy {α κ : Type*} [DecidableEq κ] {key : α → κ} {elements : List α}
    {element : α} (member : element ∈ elements) :
    ∃ kept ∈ distinctBy key elements, key kept = key element := by
  induction elements with
  | nil => exact absurd member List.not_mem_nil
  | cons first rest ih =>
      by_cases same : key element = key first
      · exact ⟨first, List.mem_cons_self, same.symm⟩
      · rcases List.mem_cons.mp member with rfl | later
        · exact absurd rfl same
        · obtain ⟨kept, there, equal⟩ := ih later
          refine ⟨kept, List.mem_cons_of_mem _ (List.mem_filter.mpr ⟨there, ?_⟩), equal⟩
          simpa [equal] using same

/-- The bits that are excluded for a family are those of its addresses. -/
theorem mem_familyBits
    (faithful : ∀ other other', hostAddress other = hostAddress other' →
      other.address = other'.address) :
    path ∈ familyBits hostAddress excluded addressBytes ↔
      ∃ other ∈ excluded, other.address.length = addressBytes ∧ bits other.address = path := by
  simp only [familyBits, familyOf, List.mem_map]
  constructor
  · rintro ⟨other, kept, rfl⟩
    obtain ⟨member, size⟩ := List.mem_filter.mp (mem_distinctBy kept)
    exact ⟨other, member, of_decide_eq_true size, rfl⟩
  · rintro ⟨other, member, size, rfl⟩
    have sized : other ∈ excluded.filter fun other => other.address.length = addressBytes :=
      List.mem_filter.mpr ⟨member, decide_eq_true size⟩
    obtain ⟨kept, there, equal⟩ := @exists_mem_distinctBy _ _ _ hostAddress _ _ sized
    exact ⟨kept, there, congrArg bits (faithful _ _ equal)⟩

theorem length_of_mem_familyBits (member : path ∈ familyBits hostAddress excluded addressBytes) :
    path.length = addressBytes * 8 := by
  obtain ⟨other, kept, rfl⟩ := List.mem_map.mp member
  rw [length_bits, of_decide_eq_true (List.mem_filter.mp (mem_distinctBy kept)).2]

/-- The routes are those to the gaps of the trie, when there are not too many. -/
theorem complementRoutes_eq (supported : addressBytes = ipv4Bytes ∨ addressBytes = ipv6Bytes) :
    complementRoutes hostAddress excluded addressBytes =
      if (trieOf (familyBits hostAddress excluded addressBytes)).gaps.length ≤ maxRoutes then
        .ok ((trieOf (familyBits hostAddress excluded addressBytes)).gaps.map
          (routeOf addressBytes))
      else .error "Слишком много маршрутов для безопасного применения исключений" := by
  rw [complementRoutes, if_neg (not_not_intro supported)]
  dsimp only
  by_cases nothing : familyOf hostAddress excluded addressBytes = []
  · rw [if_pos nothing, familyBits, nothing]
    rfl
  · have inserted (nodes : TrieNode) (family : List InetAddress) :
        family.foldl (fun root other => addExcluded root other.address) nodes =
          nodes.insertAll (family.map fun other => bits other.address) := by
      simp only [Trie.insertAll, List.foldl_map, addExcluded_eq_insert]
    have root : (familyOf hostAddress excluded addressBytes).foldl
        (fun root other => addExcluded root other.address) (.node .absent .absent false) =
          trieOf (familyBits hostAddress excluded addressBytes) := by
      rw [inserted, trieOf, familyBits]
      obtain ⟨first, rest, shape⟩ := List.exists_cons_of_ne_nil nothing
      rw [shape, List.map_cons, Trie.insertAll, Trie.insertAll, List.foldl_cons, List.foldl_cons,
        Trie.insert_empty]
    have spans : (trieOf (familyBits hostAddress excluded addressBytes)).Spans
        ((List.replicate addressBytes (0 : UInt8)).length * 8 - 0) := by
      rw [List.length_replicate, Nat.sub_zero]
      exact spans_trieOf fun path member => length_of_mem_familyBits member
    rw [if_neg nothing, root, collectAllowed_eq_map spans (Nat.zero_le _), List.length_map]
    simp only [Nat.zero_add]
    rfl

end Walk

end ProxyLauncher.Android
