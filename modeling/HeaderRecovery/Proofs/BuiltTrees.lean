import Mathlib
import HeaderRecovery.Debug.Builder

/-!
Trees that were built: from an empty one, by the operations that add a unit, an entry or an
attribute. In such a tree the root of a unit leads back to the unit, and a key to the entry that
was added last under it.
-/
namespace HeaderRecovery.Debug

namespace EntryTree

/-- The trees that the operations make. -/
inductive Built : EntryTree → Prop
  | empty : Built .empty
  | addUnit {t : EntryTree} (h : Built t) (part : Section) (key : EntryKey) (tag : Tag)
      (signature : Option UInt64) : Built (t.addUnit part key tag signature).1
  | addEntry {t : EntryTree} (h : Built t) (unit : UnitId) (key : EntryKey) (tag : Tag)
      (parent : Option NodeId) : Built (t.addEntry unit key tag parent).1
  | addAttribute {t : EntryTree} (h : Built t) (node : NodeId) (attr : Attribute)
      (value : Value) : Built (t.addAttribute node attr value)
  | mapSignature {t : EntryTree} (h : Built t) (signature : UInt64) (key : EntryKey) :
      Built (t.mapSignature signature key)

variable {t : EntryTree} {node n : NodeId} {unit : UnitId} {key k : EntryKey} {tag : Tag}
  {parent : Option NodeId} {part : Section} {signature : Option UInt64}

/-! What the operations leave as it is -/

/-- What an entry is apart from its attributes and children. -/
lemma entry_addEntry (n : NodeId) :
    ((t.addEntry unit key tag parent).1.entry n).key = (if n = t.size then key else t.key n) ∧
    ((t.addEntry unit key tag parent).1.entry n).unit =
      (if n = t.size then unit else (t.entry n).unit) := by
  have hpush : ((t.entries.push ⟨key, unit, tag, parent, #[], #[]⟩).getD n default).key =
        (if n = t.size then key else t.key n) ∧
      ((t.entries.push ⟨key, unit, tag, parent, #[], #[]⟩).getD n default).unit =
        (if n = t.size then unit else (t.entry n).unit) := by
    simp only [Array.getD_eq_getD_getElem?, Array.getElem?_push, EntryTree.key, entry, size]
    split <;> exact ⟨rfl, rfl⟩
  cases parent with
  | none => exact hpush
  | some p =>
    simp only [addEntry, entry, Array.getD_eq_getD_getElem?, Array.getElem?_modify] at hpush ⊢
    split
    · cases h : (t.entries.push ⟨key, unit, tag, some p, #[], #[]⟩)[n]? <;> simpa [h] using hpush
    · exact hpush

@[simp] lemma size_addEntry : (t.addEntry unit key tag parent).1.size = t.size + 1 := by
  cases parent <;> simp [addEntry, size]

/-- The root of a unit is an entry without a parent. -/
lemma addUnit_eq : (t.addUnit part key tag signature).1 =
    (EntryTree.addEntry
      { t with units := t.units.push ⟨part, t.size, none, none, signature⟩ }
      t.units.size key tag none).1 :=
  rfl

@[simp] lemma size_addUnit : (t.addUnit part key tag signature).1.size = t.size + 1 := by
  rw [addUnit_eq, size_addEntry]
  rfl

lemma entry_addAttribute (n : NodeId) (attr : Attribute) (value : Value) :
    ((t.addAttribute node attr value).entry n).key = t.key n ∧
    ((t.addAttribute node attr value).entry n).unit = (t.entry n).unit := by
  simp only [addAttribute, EntryTree.key, entry, Array.getD_eq_getD_getElem?,
    Array.getElem?_modify]
  split
  · cases h : t.entries[n]? <;> simp
  · exact ⟨rfl, rfl⟩

@[simp] lemma size_addAttribute (attr : Attribute) (value : Value) :
    (t.addAttribute node attr value).size = t.size := by
  simp [addAttribute, size]

lemma node?_addEntry : (t.addEntry unit key tag parent).1.node? k =
    if key = k then some t.size else t.node? k := by
  simp only [addEntry, node?, Std.HashMap.getElem?_insert, beq_iff_eq, size]

/-! What holds in every tree that was built -/

/-- The root of a unit is an entry of it. -/
def RootsKnown (t : EntryTree) : Prop :=
  ∀ (unit : UnitId) (u : UnitInfo), t.units[unit]? = some u →
    u.root < t.size ∧ (t.entry u.root).unit = unit

lemma RootsKnown.addEntry (h : RootsKnown t) : RootsKnown (t.addEntry unit key tag parent).1 := by
  intro i u hu
  obtain ⟨hroot, hunit⟩ := h i u hu
  refine ⟨size_addEntry ▸ Nat.lt_succ_of_lt hroot, ?_⟩
  rw [(entry_addEntry _).2, if_neg (Nat.ne_of_lt hroot), hunit]

lemma RootsKnown.addUnit (h : RootsKnown t) :
    RootsKnown (t.addUnit part key tag signature).1 := by
  intro i u hu
  replace hu : (t.units.push ⟨part, t.size, none, none, signature⟩)[i]? = some u := hu
  rw [Array.getElem?_push] at hu
  rw [size_addUnit, addUnit_eq, (entry_addEntry _).2]
  split at hu
  · rename_i hi
    cases hu
    exact ⟨Nat.lt_succ_self _, (if_pos rfl).trans hi.symm⟩
  · obtain ⟨hroot, hunit⟩ := h i u hu
    exact ⟨Nat.lt_succ_of_lt hroot, (if_neg (Nat.ne_of_lt hroot)).trans hunit⟩

lemma RootsKnown.addAttribute (h : RootsKnown t) (attr : Attribute) (value : Value) :
    RootsKnown (t.addAttribute node attr value) := by
  intro i u hu
  rw [size_addAttribute, (entry_addAttribute _ attr value).2]
  simp only [EntryTree.addAttribute, Array.getElem?_modify] at hu
  split at hu
  · obtain ⟨u', hu', rfl⟩ := Option.map_eq_some_iff.mp hu
    have hroot : (if u'.root = node then u'.note attr value else u').root = u'.root := by
      split
      · cases attr <;> rfl
      · rfl
    rw [hroot]
    exact h i u' hu'
  · exact h i u hu

lemma Built.rootsKnown (h : Built t) : RootsKnown t := by
  induction h with
  | empty => exact fun unit u hu => by simp [EntryTree.empty] at hu
  | addUnit h part key tag signature ih => exact ih.addUnit
  | addEntry h unit key tag parent ih => exact ih.addEntry
  | addAttribute h node attr value ih => exact ih.addAttribute attr value
  | mapSignature h signature key ih => exact ih

/-- The root of a unit leads back to the unit. -/
lemma Built.unitOf_root (h : Built t) {u : UnitInfo} (hu : u ∈ t.units) :
    t.unitOf u.root = u := by
  obtain ⟨i, hi⟩ := Array.getElem?_of_mem hu
  have hunit := (h.rootsKnown i u hi).2
  rw [unitOf, hunit, Array.getD_eq_getD_getElem?, hi, Option.getD_some]

/-- A key leads to the entry that was added last under it. -/
def LeadsToLast (t : EntryTree) : Prop :=
  ∀ k n, t.node? k = some n ↔ n < t.size ∧ t.key n = k ∧ ∀ m < t.size, t.key m = k → m ≤ n

lemma LeadsToLast.addEntry (h : LeadsToLast t) :
    LeadsToLast (t.addEntry unit key tag parent).1 := by
  have hkey : ∀ n, (t.addEntry unit key tag parent).1.key n =
      if n = t.size then key else t.key n := fun n => (entry_addEntry n).1
  intro k n
  rw [node?_addEntry, size_addEntry, hkey]
  by_cases hk : key = k
  · rw [if_pos hk, Option.some.injEq]
    constructor
    · rintro rfl
      refine ⟨Nat.lt_succ_self _, (if_pos rfl).trans hk, fun m hm _ => Nat.le_of_lt_succ hm⟩
    · rintro ⟨hn, -, hlast⟩
      refine Nat.le_antisymm (hlast t.size (Nat.lt_succ_self _) ?_) (Nat.le_of_lt_succ hn)
      rw [hkey, if_pos rfl, hk]
  · rw [if_neg hk, h k n]
    constructor
    · rintro ⟨hn, hnk, hlast⟩
      refine ⟨Nat.lt_succ_of_lt hn, (if_neg (Nat.ne_of_lt hn)).trans hnk, fun m hm hmk => ?_⟩
      rw [hkey] at hmk
      split at hmk
      · exact (hk hmk).elim
      · rename_i hne
        exact hlast m (Nat.lt_of_le_of_ne (Nat.le_of_lt_succ hm) hne) hmk
    · rintro ⟨hn, hnk, hlast⟩
      split at hnk
      · exact (hk hnk).elim
      · rename_i hne
        refine ⟨Nat.lt_of_le_of_ne (Nat.le_of_lt_succ hn) hne, hnk, fun m hm hmk => ?_⟩
        refine hlast m (Nat.lt_succ_of_lt hm) ?_
        rw [hkey, if_neg (Nat.ne_of_lt hm), hmk]

lemma LeadsToLast.addAttribute (h : LeadsToLast t) (attr : Attribute) (value : Value) :
    LeadsToLast (t.addAttribute node attr value) := by
  have hkey : ∀ n, (t.addAttribute node attr value).key n = t.key n :=
    fun n => (entry_addAttribute n attr value).1
  intro k n
  simp only [size_addAttribute, hkey]
  exact h k n

lemma Built.leadsToLast (h : Built t) : LeadsToLast t := by
  induction h with
  | empty => exact fun k n => by simp [node?, EntryTree.empty, size]
  | addUnit h part key tag signature ih =>
    rw [addUnit_eq]
    exact LeadsToLast.addEntry ih
  | addEntry h unit key tag parent ih => exact ih.addEntry
  | addAttribute h node attr value ih => exact ih.addAttribute attr value
  | mapSignature h signature key ih => exact ih

end EntryTree

namespace TreeBuilder

variable {b : TreeBuilder}

lemma built_addAttr (h : b.tree.Built) (node : NodeId) (attr : Attribute) (value : Value) :
    (b.addAttr node attr value).tree.Built :=
  h.addAttribute node attr value

lemma built_compileUnit (h : b.tree.Built) (name directory : String) :
    (b.compileUnit name directory).1.tree.Built :=
  built_addAttr (built_addAttr (h.addUnit _ _ _ _) _ _ _) _ _ _

lemma built_child (h : b.tree.Built) (parent : NodeId) (tag : Tag) :
    (b.child parent tag).1.tree.Built := by
  unfold child
  cases (b.tree.unitOf parent).part
  · exact h.addEntry (b.tree.entry parent).unit ⟨.info, b.nextInfo⟩ tag (some parent)
  · exact h.addEntry (b.tree.entry parent).unit ⟨.type, b.nextType⟩ tag (some parent)

end TreeBuilder
end HeaderRecovery.Debug
