import HeaderRecovery.Proofs.BuiltTrees
import HeaderRecovery.Proofs.DescribedEntries
import HeaderRecovery.Proofs.EntryOffsets

/-!
The keys of a loaded tree. An entry is known by the family of its unit and its offset in its
section. The family tells type units from the others, not one section from the other; so keys
identify the entries of one section, and those of both where no two of one family stand at the
same offset.
-/
namespace HeaderRecovery

namespace Debug.EntryTree

variable {t : EntryTree}

/-- The keys of all entries in order. -/
def keys (t : EntryTree) : List EntryKey := (List.range t.size).map t.key

lemma keys_addEntry (unit : UnitId) (key : EntryKey) (tag : Tag) (parent : Option NodeId) :
    (t.addEntry unit key tag parent).1.keys = t.keys ++ [key] := by
  have hold : ∀ n ∈ List.range t.size, (t.addEntry unit key tag parent).1.key n = t.key n :=
    fun n hn => (entry_addEntry n).1.trans (if_neg (Nat.ne_of_lt (List.mem_range.mp hn)))
  have hnew : (t.addEntry unit key tag parent).1.key t.size = key :=
    (entry_addEntry t.size).1.trans (if_pos rfl)
  rw [keys, size_addEntry, List.range_succ, List.map_append, List.map_congr_left hold]
  simp [keys, hnew]

lemma keys_addAttribute (node : NodeId) (attr : Attribute) (value : Value) :
    (t.addAttribute node attr value).keys = t.keys := by
  rw [keys, size_addAttribute]
  exact List.map_congr_left fun n _ => (entry_addAttribute n attr value).1

lemma distinctKeys_iff : t.DistinctKeys ↔ t.keys.Nodup := by
  rw [keys, List.nodup_map_iff_inj_on List.nodup_range]
  simp only [List.mem_range]
  rfl

/-- Every entry is found under its key where keys identify entries, and only there. -/
lemma Built.node?_key_iff (h : t.Built) :
    (∀ n < t.size, t.node? (t.key n) = some n) ↔ t.DistinctKeys := by
  constructor
  · intro hfound n hn m hm hkey
    have hm' := hfound m hm
    rw [← hkey, hfound n hn] at hm'
    exact Option.some.inj hm'
  · intro hdistinct n hn
    rw [h.leadsToLast]
    exact ⟨hn, rfl, fun m hm hkey => (hdistinct m hm n hn hkey).le⟩

end Debug.EntryTree

namespace Dwarf
open Debug

/-! The tree of what was read -/

section
variable {t : EntryTree}

lemma keys_addAttributes (node : NodeId) (attributes : List (Attribute × Value)) :
    (addAttributes t node attributes).keys = t.keys := by
  induction attributes generalizing t with
  | nil => rfl
  | cons a rest ih => exact ih.trans (EntryTree.keys_addAttribute node a.1 a.2)

lemma built_addAttributes (h : t.Built) (node : NodeId) (attributes : List (Attribute × Value)) :
    (addAttributes t node attributes).Built := by
  induction attributes generalizing t with
  | nil => exact h
  | cons a rest ih => exact ih (h.addAttribute node a.1 a.2)

lemma keys_addBelow (unit : UnitId) (keyAt : Nat → EntryKey) (opened : List NodeId)
    (entries : List (EntryRecord Value)) :
    (addBelow unit keyAt t opened entries).keys =
      t.keys ++ entries.map fun entry => keyAt entry.offset := by
  induction entries generalizing t opened with
  | nil => simp [addBelow]
  | cons entry rest ih =>
    rw [addBelow]
    dsimp only
    rw [ih, keys_addAttributes, EntryTree.keys_addEntry, List.map_cons, List.append_assoc]
    rfl

lemma built_addBelow (h : t.Built) (unit : UnitId) (keyAt : Nat → EntryKey) (opened : List NodeId)
    (entries : List (EntryRecord Value)) : (addBelow unit keyAt t opened entries).Built := by
  induction entries generalizing t opened with
  | nil => exact h
  | cons entry rest ih => exact ih (built_addAttributes (h.addEntry unit _ _ _) _ _) _

/-- A unit adds the keys of its entries behind those that are there. -/
lemma keys_addContents (u : UnitContents) : (addContents t u).keys =
    t.keys ++ u.offsets.map fun offset => u.keyAt (UInt64.ofNat offset) := by
  have hroot : ∀ signature, (t.addUnit u.part (u.keyAt (UInt64.ofNat u.root.offset)) u.root.tag
      signature).1.keys = t.keys ++ [u.keyAt (UInt64.ofNat u.root.offset)] := by
    intro signature
    rw [EntryTree.addUnit_eq, EntryTree.keys_addEntry]
    rfl
  rw [addContents]
  dsimp only
  rw [keys_addBelow, keys_addAttributes, UnitContents.offsets, List.map_cons, List.map_cons,
    List.map_map, List.append_cons]
  cases u.typeLink with
  | none => exact congrArg (· ++ _) (hroot none)
  | some link => exact congrArg (· ++ _) (hroot (some link.signature))

lemma built_addContents (h : t.Built) (u : UnitContents) : (addContents t u).Built := by
  have hunit := h.addUnit u.part (u.keyAt (UInt64.ofNat u.root.offset)) u.root.tag
  rw [addContents]
  dsimp only
  apply built_addBelow
  apply built_addAttributes
  cases u.typeLink with
  | none => exact hunit none
  | some link => exact (hunit (some link.signature)).mapSignature _ _

end

/-! Places -/

/-- Where the entries of a unit stand in its section, each with the family of the unit. -/
def unitPlaces (s : Sections) (u : UnitBlock) : List (Section × Nat) :=
  match UnitContents.ofBlock? s u with
  | some contents => contents.offsets.map fun offset => (u.part, u.offset + offset)
  | none => []

/-- Where the entries of `.debug_types`, or else of `.debug_info`, stand. -/
def entryPlaces (s : Sections) (inTypes : Bool) : List (Section × Nat) :=
  match (UnitBlock.readAll inTypes).at? (s.cursor (if inTypes then s.types else s.info)) with
  | some units => units.flatMap (unitPlaces s)
  | none => []

/-- The key of an entry that stands there. -/
def keyOf (place : Section × Nat) : EntryKey := ⟨place.1, UInt64.ofNat place.2⟩

variable {s : Sections}

lemma mem_unitPlaces {u : UnitBlock} {place : Section × Nat} (h : place ∈ unitPlaces s u) :
    ∃ offset < u.bytes.size, place = (u.part, u.offset + offset) := by
  unfold unitPlaces at h
  split at h
  · rename_i contents hcontents
    obtain ⟨-, -, -, hwithin⟩ := UnitContents.ofBlock?_offsets hcontents
    obtain ⟨offset, hoffset, rfl⟩ := List.mem_map.mp h
    exact ⟨offset, hwithin offset hoffset, rfl⟩
  · cases h

/-- The places of a section ascend, and none is behind its end. -/
lemma entryPlaces_ascend (s : Sections) (inTypes : Bool) :
    (entryPlaces s inTypes).Pairwise (fun p q => p.2 < q.2) ∧
      ∀ p ∈ entryPlaces s inTypes, p.2 < (if inTypes then s.types else s.info).size := by
  unfold entryPlaces
  split
  · rename_i units hunits
    obtain ⟨⟨_, c⟩, hread, rfl⟩ := Option.map_eq_some_iff.mp hunits
    obtain ⟨hapart, hwithin⟩ := UnitBlock.readAll_apart hread
    constructor
    · rw [List.pairwise_flatMap]
      constructor
      · intro u _
        unfold unitPlaces
        split
        · rename_i contents hcontents
          obtain ⟨-, -, hascending, -⟩ := UnitContents.ofBlock?_offsets hcontents
          rw [List.pairwise_map]
          exact hascending.imp fun hlt => Nat.add_lt_add_left hlt u.offset
        · exact .nil
      · refine hapart.imp ?_
        intro u v huv p hp q hq
        obtain ⟨i, hi, rfl⟩ := mem_unitPlaces hp
        obtain ⟨j, hj, rfl⟩ := mem_unitPlaces hq
        dsimp only
        omega
    · intro p hp
      obtain ⟨u, hu, hp⟩ := List.mem_flatMap.mp hp
      obtain ⟨offset, hoffset, rfl⟩ := mem_unitPlaces hp
      exact hwithin u hu offset hoffset
  · exact ⟨.nil, fun p hp => by cases hp⟩

lemma entryPlaces_nodup (s : Sections) (inTypes : Bool) : (entryPlaces s inTypes).Nodup := by
  refine List.Pairwise.imp ?_ (entryPlaces_ascend s inTypes).1
  rintro p q hlt rfl
  exact Nat.lt_irrefl _ hlt

lemma keys_of_block {u : UnitBlock} {contents : UnitContents}
    (h : UnitContents.ofBlock? s u = some contents) :
    (contents.offsets.map fun offset => contents.keyAt (UInt64.ofNat offset)) =
      (unitPlaces s u).map keyOf := by
  obtain ⟨hpart, hbase, -, -⟩ := UnitContents.ofBlock?_offsets h
  rw [unitPlaces, h]
  simp [keyOf, UnitContents.keyAt, hpart, hbase, UInt64.ofNat_add]

lemma keys_of_units (units : List UnitBlock) (t : EntryTree) :
    ((units.filterMap (UnitContents.ofBlock? s)).foldl addContents t).keys =
      t.keys ++ (units.flatMap (unitPlaces s)).map keyOf := by
  induction units generalizing t with
  | nil => simp
  | cons u rest ih =>
    rw [List.flatMap_cons, List.map_append, ← List.append_assoc]
    cases hcontents : UnitContents.ofBlock? s u with
    | none =>
      have hnone : unitPlaces s u = [] := by rw [unitPlaces, hcontents]
      rw [List.filterMap_cons_none hcontents, ih, hnone, List.map_nil, List.append_nil]
    | some contents =>
      rw [List.filterMap_cons_some hcontents, List.foldl_cons, ih, keys_addContents,
        keys_of_block hcontents]

lemma built_of_units (contents : List UnitContents) {t : EntryTree} (h : t.Built) :
    (contents.foldl addContents t).Built := by
  induction contents generalizing t with
  | nil => exact h
  | cons u rest ih => exact ih (built_addContents h u)

/-- A loaded tree was built, and its keys are those of the places of both sections. -/
lemma load?_keys {t : EntryTree} (h : load? s = some t) :
    t.Built ∧ t.keys = (entryPlaces s true ++ entryPlaces s false).map keyOf := by
  obtain ⟨units, hunits, rfl⟩ := Option.map_eq_some_iff.mp h
  refine ⟨built_of_units _ .empty, ?_⟩
  obtain ⟨types, htypes, hrest⟩ := Option.bind_eq_some_iff.mp hunits
  obtain ⟨info, hinfo, heq⟩ := Option.bind_eq_some_iff.mp hrest
  cases heq
  have hplaces : entryPlaces s true = types.flatMap (unitPlaces s) := by
    simp only [entryPlaces, if_true, htypes]
  have hplaces' : entryPlaces s false = info.flatMap (unitPlaces s) := by
    simp only [entryPlaces, Bool.false_eq_true, if_false, hinfo]
  rw [keys_of_units, hplaces, hplaces', List.flatMap_append]
  rfl

/-- Every entry of a loaded tree is found under its key if and only if no entry of one section
stands where an entry of the other does that is of the same family. -/
theorem load?_node?_key_iff {t : EntryTree} (h : load? s = some t)
    (htypes : s.types.size < UInt64.size) (hinfo : s.info.size < UInt64.size) :
    (∀ n < t.size, t.node? (t.key n) = some n) ↔
      (entryPlaces s true).Disjoint (entryPlaces s false) := by
  obtain ⟨hbuilt, hkeys⟩ := load?_keys h
  have hbound : ∀ p ∈ entryPlaces s true ++ entryPlaces s false, p.2 < UInt64.size := by
    intro p hp
    rcases List.mem_append.mp hp with hp | hp
    · exact Nat.lt_trans ((entryPlaces_ascend s true).2 p hp) htypes
    · exact Nat.lt_trans ((entryPlaces_ascend s false).2 p hp) hinfo
  have hinjective : ∀ p ∈ entryPlaces s true ++ entryPlaces s false,
      ∀ q ∈ entryPlaces s true ++ entryPlaces s false, keyOf p = keyOf q → p = q := by
    intro p hp q hq hpq
    obtain ⟨hpart, hoffset⟩ := EntryKey.mk.inj hpq
    have hoffset' := congrArg UInt64.toNat hoffset
    rw [UInt64.toNat_ofNat_of_lt' (hbound p hp), UInt64.toNat_ofNat_of_lt' (hbound q hq)]
      at hoffset'
    exact Prod.ext hpart hoffset'
  rw [hbuilt.node?_key_iff, EntryTree.distinctKeys_iff, hkeys]
  constructor
  · intro hnodup
    exact (List.nodup_append'.mp (List.Nodup.of_map keyOf hnodup)).2.2
  · intro hdisjoint
    refine List.Nodup.map_on hinjective (List.nodup_append'.mpr ⟨?_, ?_, hdisjoint⟩)
    · exact entryPlaces_nodup s true
    · exact entryPlaces_nodup s false

/-- A type unit of version 4 in `.debug_types`, and one of version 5 in `.debug_info` behind what
stands in front of it. The first defines `A` at offset 25, the second `B` at offset 25 from its
start. -/
def twoTypes (front : List UInt8) : Sections :=
  { abbreviations := #[1, 0x41, 1, 0, 0, 2, 0x13, 0, 3, 8, 0, 0, 3, 0x11, 0, 0, 0,
      4, 0x3b, 0, 0, 0, 0]
    types := #[25, 0, 0, 0, 4, 0, 0, 0, 0, 0, 8, 1, 0, 0, 0, 0, 0, 0, 0, 25, 0, 0, 0,
      1, 4, 2, 0x41, 0, 0]
    info := front.toArray ++ #[25, 0, 0, 0, 5, 0, 2, 8, 0, 0, 0, 0, 2, 0, 0, 0, 0, 0, 0, 0,
      25, 0, 0, 0, 1, 2, 0x42, 0, 0]
    addresses := #[]
    lines := #[]
    lineStrings := #[]
    strings := #[]
    stringOffsets := #[]
    bigEndian := false }

/-- A compile unit of version 5 with nothing below its root. -/
def emptyUnit : List UInt8 := [9, 0, 0, 0, 5, 0, 1, 8, 0, 0, 0, 0, 3]

/-- With a compile unit in front the two structures have keys of their own. -/
theorem twoTypes_apart :
    ∃ t, load? (twoTypes emptyUnit) = some t ∧ t.size = 6 ∧
      ∀ n < 6, t.node? (t.key n) = some n := by
  have hsize : (load? (twoTypes emptyUnit)).map (·.size) = some 6 := by decide +kernel
  have htypes : entryPlaces (twoTypes emptyUnit) true =
      [(.type, 23), (.type, 24), (.type, 25)] := by decide +kernel
  have hinfo : entryPlaces (twoTypes emptyUnit) false =
      [(.info, 12), (.type, 37), (.type, 38)] := by decide +kernel
  obtain ⟨t, ht, hsize⟩ := Option.map_eq_some_iff.mp hsize
  have hfound := (load?_node?_key_iff ht (by decide) (by decide)).mpr (by
    rw [htypes, hinfo]
    simp [List.Disjoint])
  rw [hsize] at hfound
  exact ⟨t, ht, hsize, hfound⟩

/-- Without it both structures have the key of offset 25 in the family of types, which leads to
`B`. -/
theorem twoTypes_collide :
    ∃ t, load? (twoTypes []) = some t ∧ 2 < t.size ∧ t.node? (t.key 2) = some 4 ∧
      t.attr? 2 .name = some (.string "A") ∧ t.attr? 4 .name = some (.string "B") := by
  have hload : (load? (twoTypes [])).map (fun t =>
      (t.size, t.node? (t.key 2), t.attr? 2 .name, t.attr? 4 .name)) =
        some (5, some 4, some (.string "A"), some (.string "B")) := by cbv
  obtain ⟨t, ht, heq⟩ := Option.map_eq_some_iff.mp hload
  simp only [Prod.mk.injEq] at heq
  obtain ⟨hsize, hnode, hfirst, hsecond⟩ := heq
  exact ⟨t, ht, by omega, hnode, hfirst, hsecond⟩

end Dwarf
end HeaderRecovery
