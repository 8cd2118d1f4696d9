import HeaderRecovery.Proofs.UnitIsolation

/-!
A tree that a builder makes is a forest with one tree for each unit. The links to parents and the
lists of children say the same, a child is younger than its parent and belongs to the same unit,
and only the root of a unit has no parent. So every entry is below the root of its unit and below
no other one, and going through all units in preorder meets each entry once.
-/
namespace HeaderRecovery.Debug

namespace EntryTree

variable {t : EntryTree} {node n m p c : NodeId} {unit : UnitId} {key : EntryKey} {tag : Tag}
  {parent : Option NodeId} {part : Section} {signature : Option UInt64}

/-! How the operations change links and roots -/

lemma parent?_addEntry (n : NodeId) :
    (t.addEntry unit key tag parent).1.parent? n =
      if n = t.size then parent else t.parent? n := by
  have hpush : ((t.entries.push ⟨key, unit, tag, parent, #[], #[]⟩).getD n default).parent =
      if n = t.size then parent else t.parent? n := by
    simp only [Array.getD_eq_getD_getElem?, Array.getElem?_push, parent?, entry, size]
    split <;> rfl
  cases parent with
  | none => exact hpush
  | some p =>
    simp only [addEntry, parent?, entry, Array.getD_eq_getD_getElem?,
      Array.getElem?_modify] at hpush ⊢
    split
    · cases h : (t.entries.push ⟨key, unit, tag, some p, #[], #[]⟩)[n]? <;>
        simpa [h] using hpush
    · exact hpush

lemma parent?_addAttribute (n : NodeId) (attr : Attribute) (value : Value) :
    (t.addAttribute node attr value).parent? n = t.parent? n := by
  simp only [addAttribute, parent?, entry, Array.getD_eq_getD_getElem?, Array.getElem?_modify]
  split
  · cases h : t.entries[n]? <;> simp
  · rfl

/-- Entries that do not exist have no parent. -/
lemma lt_size_of_parent? (h : t.parent? n = some p) : n < t.size := by
  refine Nat.lt_of_not_le fun hn => ?_
  rw [parent?, entry, Array.getD_eq_getD_getElem?, Array.getElem?_eq_none hn] at h
  cases h

lemma roots_unit (h : (t.entry n).unit < t.roots.length) :
    t.roots[(t.entry n).unit]? = some (t.unitOf n).root := by
  rw [roots, List.length_map, Array.length_toList] at h
  simp [roots, unitOf, h]

/-- What is left of a tree and what is new when one entry is added, a root if it has no parent. -/
structure Adds (t : EntryTree) (unit : UnitId) (parent : Option NodeId) (t' : EntryTree) :
    Prop where
  size : t'.size = t.size + 1
  roots : t'.roots = t.roots ++ if parent = none then [t.size] else []
  unit : ∀ n, (t'.entry n).unit = if n = t.size then unit else (t.entry n).unit
  parent? : ∀ n, t'.parent? n = if n = t.size then parent else t.parent? n
  children : ∀ n, t'.children n = t.children n ++ if parent = some n then [t.size] else []

namespace Adds

variable {t' : EntryTree} (h : Adds t unit parent t')
include h

lemma lt_or_eq (hn : n < t'.size) : n < t.size ∨ n = t.size := by
  rw [h.size] at hn
  exact Nat.lt_succ_iff_lt_or_eq.mp hn

lemma unit_old (hn : n < t.size) : (t'.entry n).unit = (t.entry n).unit := by
  rw [h.unit, if_neg (Nat.ne_of_lt hn)]

lemma unit_new : (t'.entry t.size).unit = unit := by rw [h.unit, if_pos rfl]

lemma parent?_old (hn : n < t.size) : t'.parent? n = t.parent? n := by
  rw [h.parent?, if_neg (Nat.ne_of_lt hn)]

lemma parent?_new : t'.parent? t.size = parent := by rw [h.parent?, if_pos rfl]

/-- A link to a parent is the new one or an old one. -/
lemma link (hc : t'.parent? c = some p) :
    c = t.size ∧ parent = some p ∨ c < t.size ∧ t.parent? c = some p := by
  rcases h.lt_or_eq (lt_size_of_parent? hc) with hlt | rfl
  · exact Or.inr ⟨hlt, h.parent?_old hlt ▸ hc⟩
  · exact Or.inl ⟨rfl, h.parent?_new ▸ hc⟩

/-- A root is an old one, or the new entry with the next number. -/
lemma root {i : UnitId} (hn : t'.roots[i]? = some n) :
    t.roots[i]? = some n ∨ parent = none ∧ i = t.roots.length ∧ n = t.size := by
  rw [h.roots, List.getElem?_append] at hn
  split at hn
  · exact Or.inl hn
  · rename_i hi
    cases parent with
    | none =>
      obtain ⟨hzero, hn⟩ : i - t.roots.length = 0 ∧ t.size = n := by
        simpa [List.getElem?_singleton] using hn
      have hle : i ≤ t.roots.length := Nat.sub_eq_zero_iff_le.mp hzero
      exact Or.inr ⟨rfl, Nat.le_antisymm hle (Nat.le_of_not_lt hi), hn.symm⟩
    | some p => simp at hn

lemma root_old {i : UnitId} (hi : i < t.roots.length) : t'.roots[i]? = t.roots[i]? := by
  rw [h.roots, List.getElem?_append_left hi]

lemma roots_le : t.roots.length ≤ t'.roots.length := by
  rw [h.roots, List.length_append]
  exact Nat.le_add_right _ _

lemma roots_new (hnone : parent = none) : t'.roots = t.roots ++ [t.size] := by
  rw [h.roots, if_pos hnone]

/-- A child is an old one, or the new entry below its parent. -/
lemma mem_children : c ∈ t'.children p ↔ c ∈ t.children p ∨ parent = some p ∧ c = t.size := by
  rw [h.children, List.mem_append]
  split <;> simp_all

end Adds

lemma adds_addEntry (hp : p < t.size) (key : EntryKey) (tag : Tag) :
    Adds t unit (some p) (t.addEntry unit key tag (some p)).1 where
  size := size_addEntry
  roots := by simp [roots, addEntry]
  unit n := (entry_addEntry n).2
  parent? := parent?_addEntry
  children := children_addEntry (by simpa using hp)

lemma adds_addUnit (part : Section) (key : EntryKey) (tag : Tag) (signature : Option UInt64) :
    Adds t t.roots.length none (t.addUnit part key tag signature).1 where
  size := size_addUnit
  roots := by simp [roots, addUnit, addEntry, EntryTree.size]
  unit n := by
    rw [addUnit_eq, (entry_addEntry n).2, roots, List.length_map, Array.length_toList]
    rfl
  parent? n := by
    rw [addUnit_eq, parent?_addEntry]
    rfl
  children n := by
    rw [addUnit_eq, children_addEntry (by simp)]
    rfl

/-- An entry is below another one if its parents lead there. -/
def Below (t : EntryTree) : NodeId → NodeId → Prop :=
  Relation.ReflTransGen fun c p => t.parent? c = some p

/-- The entries listed in preorder, without their depths. -/
def subtree (t : EntryTree) (fuel depth : Nat) (node : NodeId) : List NodeId :=
  (t.preorderFrom fuel depth node).map (·.2)

lemma subtree_succ (fuel depth : Nat) (node : NodeId) :
    t.subtree (fuel + 1) depth node =
      node :: (t.children node).flatMap (t.subtree fuel (depth + 1)) := by
  simp [subtree, preorderFrom, List.map_flatMap]
  rfl

/-! The invariant -/

/-- Links and lists of children agree, and each entry hangs together with its unit. -/
structure IsForest (t : EntryTree) : Prop where
  /-- The root of a unit is an entry of it. -/
  rootKnown : ∀ {unit n}, t.roots[unit]? = some n → n < t.size ∧ (t.entry n).unit = unit
  unitKnown : ∀ {n}, n < t.size → (t.entry n).unit < t.roots.length
  orphan_iff : ∀ {n}, n < t.size →
    (t.parent? n = none ↔ t.roots[(t.entry n).unit]? = some n)
  mem_children : ∀ {p c}, c ∈ t.children p ↔ t.parent? c = some p
  nodup : ∀ p, (t.children p).Nodup
  older : ∀ {p c}, t.parent? c = some p → p < c
  sameUnit : ∀ {p c}, t.parent? c = some p → (t.entry c).unit = (t.entry p).unit

lemma empty_isForest : IsForest .empty where
  rootKnown h := by simp [roots, empty] at h
  unitKnown h := absurd h (Nat.not_lt_zero _)
  orphan_iff h := absurd h (Nat.not_lt_zero _)
  mem_children {p c} := by simp [children, parent?, entry, empty, default]
  nodup p := by simp [children, entry, empty, default]
  older {p c} h := by simp [parent?, entry, empty, default] at h
  sameUnit {p c} h := by simp [parent?, entry, empty, default] at h

namespace IsForest

lemma addAttribute (h : t.IsForest) (node : NodeId) (attr : Attribute) (value : Value) :
    (t.addAttribute node attr value).IsForest where
  rootKnown {unit n} hn := by
    rw [roots_addAttribute] at hn
    rw [size_addAttribute, (entry_addAttribute n attr value).2]
    exact h.rootKnown hn
  unitKnown {n} hn := by
    rw [size_addAttribute] at hn
    rw [(entry_addAttribute n attr value).2, roots_addAttribute]
    exact h.unitKnown hn
  orphan_iff {n} hn := by
    rw [size_addAttribute] at hn
    rw [parent?_addAttribute, (entry_addAttribute n attr value).2, roots_addAttribute]
    exact h.orphan_iff hn
  mem_children {p c} := by
    rw [children_addAttribute, parent?_addAttribute]
    exact h.mem_children
  nodup p := by
    rw [children_addAttribute]
    exact h.nodup p
  older {p c} hc := by
    rw [parent?_addAttribute] at hc
    exact h.older hc
  sameUnit {p c} hc := by
    rw [parent?_addAttribute] at hc
    rw [(entry_addAttribute c attr value).2, (entry_addAttribute p attr value).2]
    exact h.sameUnit hc

/-- A new entry keeps the invariant: the child of an entry in that one's unit, or the root of a new
unit. -/
lemma adds (h : t.IsForest) {t' : EntryTree} (hnew : Adds t unit parent t')
    (hparent : ∀ p ∈ parent, p < t.size ∧ unit = (t.entry p).unit)
    (hroot : parent = none → unit = t.roots.length) : t'.IsForest := by
  -- No entry has the new number as a child so far.
  have hfresh : ∀ p, t.size ∉ t.children p := fun p hmem =>
    Nat.lt_irrefl _ (lt_size_of_parent? (h.mem_children.mp hmem))
  refine ⟨?rootKnown, ?unitKnown, ?orphan_iff, ?mem_children, ?nodup, ?older, ?sameUnit⟩
  case rootKnown =>
    intro i n hn
    rw [hnew.size]
    rcases hnew.root hn with hold | ⟨hnone, rfl, rfl⟩
    · obtain ⟨hlt, hi⟩ := h.rootKnown hold
      exact ⟨Nat.lt_succ_of_lt hlt, (hnew.unit_old hlt).trans hi⟩
    · exact ⟨Nat.lt_succ_self _, hnew.unit_new.trans (hroot hnone)⟩
  case unitKnown =>
    intro n hn
    rcases hnew.lt_or_eq hn with hlt | rfl
    · exact hnew.unit_old hlt ▸ (h.unitKnown hlt).trans_le hnew.roots_le
    · rw [hnew.unit_new]
      cases parent with
      | none => simp [hroot rfl, hnew.roots_new rfl]
      | some p =>
        obtain ⟨hp, rfl⟩ := hparent p rfl
        exact (h.unitKnown hp).trans_le hnew.roots_le
  case orphan_iff =>
    intro n hn
    rcases hnew.lt_or_eq hn with hlt | rfl
    · rw [hnew.parent?_old hlt, hnew.unit_old hlt, hnew.root_old (h.unitKnown hlt)]
      exact h.orphan_iff hlt
    · rw [hnew.parent?_new, hnew.unit_new]
      cases parent with
      | none => simp [hroot rfl, hnew.roots_new rfl]
      | some p =>
        obtain ⟨hp, rfl⟩ := hparent p rfl
        rw [hnew.root_old (h.unitKnown hp)]
        have hno : t.roots[(t.entry p).unit]? ≠ some t.size := fun hroots =>
          Nat.lt_irrefl _ (h.rootKnown hroots).1
        simpa using hno
  case mem_children =>
    intro p c
    rw [hnew.mem_children, h.mem_children, hnew.parent?]
    split
    · subst c
      simp [← h.mem_children, hfresh p]
    · simp [*]
  case nodup =>
    intro p
    rw [hnew.children]
    split
    · exact List.nodup_append_comm.mp (List.nodup_cons.mpr ⟨hfresh p, h.nodup p⟩)
    · rw [List.append_nil]
      exact h.nodup p
  case older =>
    intro p c hc
    rcases hnew.link hc with ⟨rfl, hp⟩ | ⟨-, hc⟩
    · exact (hparent p hp).1
    · exact h.older hc
  case sameUnit =>
    intro p c hc
    rcases hnew.link hc with ⟨rfl, hp⟩ | ⟨hlt, hc⟩
    · obtain ⟨hsize, hsame⟩ := hparent p hp
      rw [hnew.unit_new, hnew.unit_old hsize, hsame]
    · rw [hnew.unit_old hlt, hnew.unit_old ((h.older hc).trans hlt), h.sameUnit hc]

/-- A new child comes behind all entries, in the unit of its parent. -/
lemma addEntry (h : t.IsForest) (hp : p < t.size) (key : EntryKey) (tag : Tag) :
    (t.addEntry (t.entry p).unit key tag (some p)).1.IsForest :=
  h.adds (adds_addEntry hp key tag) (by simpa using hp) (by simp)

lemma addUnit (h : t.IsForest) (part : Section) (key : EntryKey) (tag : Tag)
    (signature : Option UInt64) : (t.addUnit part key tag signature).1.IsForest :=
  h.adds (adds_addUnit part key tag signature) (by simp) fun _ => rfl

lemma mapSignature (h : t.IsForest) (signature : UInt64) (key : EntryKey) :
    (t.mapSignature signature key).IsForest :=
  ⟨h.rootKnown, h.unitKnown, h.orphan_iff, h.mem_children, h.nodup, h.older, h.sameUnit⟩

/-! What follows from the invariant -/

lemma mem_roots_iff (h : t.IsForest) : n ∈ t.roots ↔ n < t.size ∧ t.parent? n = none := by
  constructor
  · intro hn
    obtain ⟨unit, hunit⟩ := List.mem_iff_getElem?.mp hn
    obtain ⟨hlt, hsame⟩ := h.rootKnown hunit
    exact ⟨hlt, (h.orphan_iff hlt).mpr (hsame ▸ hunit)⟩
  · rintro ⟨hlt, hnone⟩
    exact List.mem_of_getElem? ((h.orphan_iff hlt).mp hnone)

lemma roots_nodup (h : t.IsForest) : t.roots.Nodup := by
  refine List.nodup_iff_getElem?_ne_getElem?.mpr fun i j hij hj heq => ?_
  obtain ⟨n, hn⟩ : ∃ n, t.roots[j]? = some n := ⟨_, List.getElem?_eq_getElem hj⟩
  have hi := (h.rootKnown (heq.trans hn)).2
  exact Nat.ne_of_lt hij (hi.symm.trans (h.rootKnown hn).2)

lemma root_of_orphan (h : t.IsForest) (hn : n < t.size) (hnone : t.parent? n = none) :
    (t.unitOf n).root = n := by
  have hroot := (h.orphan_iff hn).mp hnone
  rw [roots_unit (h.unitKnown hn)] at hroot
  exact Option.some.inj hroot

lemma unitOf_parent (h : t.IsForest) (hp : t.parent? n = some p) : t.unitOf n = t.unitOf p := by
  rw [unitOf, unitOf, h.sameUnit hp]

/-- Whoever follows the parents far enough comes to the root of the unit. -/
lemma ancestorsFrom_getLast? (h : t.IsForest) {fuel : Nat} (hn : n < t.size) (hfuel : n < fuel) :
    (n :: t.ancestorsFrom fuel n).getLast? = some (t.unitOf n).root := by
  induction fuel generalizing n with
  | zero => exact absurd hfuel (Nat.not_lt_zero n)
  | succ fuel ih =>
    rw [ancestorsFrom]
    cases hp : t.parent? n with
    | none => simp [h.root_of_orphan hn hp]
    | some p =>
      have hlt := h.older hp
      dsimp only
      rw [List.getLast?_cons_cons, ih (hlt.trans hn) (hlt.trans_le (Nat.le_of_lt_succ hfuel)),
        h.unitOf_parent hp]

lemma unitOf_below (h : t.IsForest) (hbelow : t.Below n m) : t.unitOf n = t.unitOf m := by
  induction hbelow with
  | refl => rfl
  | tail _ hp ih => exact ih.trans (h.unitOf_parent hp)

lemma below_root (h : t.IsForest) (hn : n < t.size) : t.Below n (t.unitOf n).root := by
  induction n using Nat.strong_induction_on with
  | _ n ih =>
    cases hp : t.parent? n with
    | none => rw [h.root_of_orphan hn hp]; exact .refl
    | some p =>
      have hlt := h.older hp
      rw [h.unitOf_parent hp]
      exact .head hp (ih p hlt (hlt.trans hn))

lemma le_of_below (h : t.IsForest) (hbelow : t.Below n m) : m ≤ n := by
  induction hbelow with
  | refl => exact le_rfl
  | tail _ hp ih => exact (h.older hp).le.trans ih

lemma lt_size_of_below (hm : m < t.size) (hbelow : t.Below n m) : n < t.size := by
  rcases Relation.ReflTransGen.cases_head hbelow with rfl | ⟨p, hp, -⟩
  · exact hm
  · exact lt_size_of_parent? hp

/-- A child is not below another child of its parent. -/
lemma eq_of_below_sibling (h : t.IsForest) {c c' : NodeId} (hc : t.parent? c = some p)
    (hc' : t.parent? c' = some p) (hbelow : t.Below c c') : c = c' := by
  rcases Relation.ReflTransGen.cases_head hbelow with heq | ⟨q, hq, hup⟩
  · exact heq
  · obtain rfl : p = q := Option.some.inj (hc.symm.trans hq)
    exact absurd (h.le_of_below hup) (Nat.not_le_of_lt (h.older hc'))

/-- No entry is below two children of one entry. -/
lemma eq_of_below_children (h : t.IsForest) {c c' : NodeId} (hc : t.parent? c = some p)
    (hc' : t.parent? c' = some p) (hn : t.Below n c) (hn' : t.Below n c') : c = c' := by
  have hunique : Relator.RightUnique fun c p => t.parent? c = some p := fun _ _ _ hp hq =>
    Option.some.inj (hp.symm.trans hq)
  rcases Relation.ReflTransGen.total_of_right_unique hunique hn hn' with hup | hup
  · exact h.eq_of_below_sibling hc hc' hup
  · exact (h.eq_of_below_sibling hc' hc hup).symm

/-- A child needs less fuel than its parent, as it stands behind it. -/
lemma child_bounds (h : t.IsForest) {fuel : Nat} (hfuel : t.size ≤ m + (fuel + 1))
    (hc : c ∈ t.children m) : c < t.size ∧ t.size ≤ c + fuel := by
  have hparent := h.mem_children.mp hc
  refine ⟨lt_size_of_parent? hparent, ?_⟩
  calc t.size ≤ m + 1 + fuel := by rwa [Nat.add_right_comm]
    _ ≤ c + fuel := Nat.add_le_add_right (h.older hparent) fuel

lemma mem_subtree_iff (h : t.IsForest) {fuel : Nat} (depth : Nat) (hm : m < t.size)
    (hfuel : t.size ≤ m + fuel) : n ∈ t.subtree fuel depth m ↔ t.Below n m := by
  induction fuel generalizing depth m with
  | zero => exact absurd hfuel (Nat.not_le_of_lt hm)
  | succ fuel ih =>
    rw [subtree_succ, List.mem_cons, List.mem_flatMap, Below,
      Relation.ReflTransGen.cases_tail_iff, eq_comm (a := n)]
    refine or_congr_right (exists_congr fun c => ?_)
    rw [h.mem_children, and_comm]
    refine and_congr_left fun hc => ?_
    obtain ⟨hlt, hless⟩ := h.child_bounds hfuel (h.mem_children.mpr hc)
    exact ih (depth + 1) hlt hless

lemma subtree_nodup (h : t.IsForest) {fuel : Nat} (depth : Nat) (hm : m < t.size)
    (hfuel : t.size ≤ m + fuel) : (t.subtree fuel depth m).Nodup := by
  induction fuel generalizing depth m with
  | zero => exact absurd hfuel (Nat.not_le_of_lt hm)
  | succ fuel ih =>
    have hbelow : ∀ {c n}, c ∈ t.children m → n ∈ t.subtree fuel (depth + 1) c → t.Below n c :=
      fun hc hn =>
        have ⟨hlt, hless⟩ := h.child_bounds hfuel hc
        (h.mem_subtree_iff _ hlt hless).mp hn
    rw [subtree_succ, List.nodup_cons, List.nodup_flatMap]
    refine ⟨fun hm => ?_, fun c hc => ?_, ?_⟩
    · obtain ⟨c, hc, hm⟩ := List.mem_flatMap.mp hm
      exact absurd (h.le_of_below (hbelow hc hm))
        (Nat.not_le_of_lt (h.older (h.mem_children.mp hc)))
    · obtain ⟨hlt, hless⟩ := h.child_bounds hfuel hc
      exact ih (depth + 1) hlt hless
    · refine (h.nodup m).imp_of_mem fun {c c'} hc hc' hne n hn hn' => hne ?_
      exact h.eq_of_below_children (h.mem_children.mp hc) (h.mem_children.mp hc')
        (hbelow hc hn) (hbelow hc' hn')

/-- Going through the units one after the other meets every entry, and meets it once. -/
lemma preorder_perm (h : t.IsForest) :
    (t.roots.flatMap fun root => (t.preorder root).map (·.2)).Perm (List.range t.size) := by
  have hmem : ∀ {root n}, root ∈ t.roots →
      (n ∈ t.subtree t.size 0 root ↔ t.Below n root) := fun hroot =>
    h.mem_subtree_iff 0 (h.mem_roots_iff.mp hroot).1 (Nat.le_add_left _ _)
  have hroot : ∀ {root n}, root ∈ t.roots → t.Below n root → (t.unitOf n).root = root :=
    fun hroot hn => by
      obtain ⟨hlt, hnone⟩ := h.mem_roots_iff.mp hroot
      rw [h.unitOf_below hn, h.root_of_orphan hlt hnone]
  change (t.roots.flatMap (t.subtree t.size 0)).Perm _
  refine (List.perm_ext_iff_of_nodup ?_ List.nodup_range).mpr fun n => ?_
  · refine List.nodup_flatMap.mpr ⟨fun root hr => ?_, ?_⟩
    · exact h.subtree_nodup 0 (h.mem_roots_iff.mp hr).1 (Nat.le_add_left _ _)
    · refine h.roots_nodup.imp_of_mem fun {a b} ha hb hne n hn hn' => hne ?_
      rw [← hroot ha ((hmem ha).mp hn), hroot hb ((hmem hb).mp hn')]
  · rw [List.mem_range, List.mem_flatMap]
    constructor
    · rintro ⟨root, hr, hn⟩
      exact lt_size_of_below (h.mem_roots_iff.mp hr).1 ((hmem hr).mp hn)
    · intro hn
      have hr : (t.unitOf n).root ∈ t.roots :=
        List.mem_of_getElem? (roots_unit (h.unitKnown hn))
      exact ⟨_, hr, (hmem hr).mpr (h.below_root hn)⟩

end IsForest

end EntryTree

namespace TreeBuilder

/-- The operations of a builder. A new entry needs a parent that exists and joins its unit. -/
inductive Step (b : TreeBuilder) : TreeBuilder → Prop
  | beginUnit (part : Section) (key : EntryKey) (tag : Tag) (signature : Option UInt64) :
      Step b (b.beginUnit part key tag signature).1
  | push {parent : NodeId} (exist : parent < b.tree.size) (key : EntryKey) (tag : Tag) :
      Step b (b.push (b.tree.entry parent).unit key tag parent).1
  | child {parent : NodeId} (exist : parent < b.tree.size) (tag : Tag) :
      Step b (b.child parent tag).1
  | addAttr (node : NodeId) (attr : Attribute) (value : Value) : Step b (b.addAttr node attr value)
  | mapSignature (signature : UInt64) (key : EntryKey) : Step b (b.mapSignature signature key)
  | compileUnit (name directory : String) : Step b (b.compileUnit name directory).1
  | typeUnit (signature : UInt64) (tag : Tag) : Step b (b.typeUnit signature tag).1
  | name (node : NodeId) (text : String) : Step b (b.name node text)
  | declaredAt (node : NodeId) (file : String) (line : UInt64) :
      Step b (b.declaredAt node file line)
  | flag (node : NodeId) (attr : Attribute) : Step b (b.flag node attr)
  | unsigned (node : NodeId) (attr : Attribute) (value : UInt64) :
      Step b (b.unsigned node attr value)
  | reference (node : NodeId) (attr : Attribute) (target : NodeId) :
      Step b (b.reference node attr target)
  | typeRef (node target : NodeId) : Step b (b.typeRef node target)
  | signature (node : NodeId) (value : UInt64) : Step b (b.signature node value)
  | baseType {parent : NodeId} (exist : parent < b.tree.size) (text : String)
      (size encoding : UInt64) : Step b (b.baseType parent text size encoding).1
  | modifier {parent : NodeId} (exist : parent < b.tree.size) (tag : Tag)
      (target : Option NodeId) : Step b (b.modifier parent tag target).1

variable {b b' : TreeBuilder}

lemma isForest_child (h : b.tree.IsForest) {parent : NodeId} (hparent : parent < b.tree.size)
    (tag : Tag) : (b.child parent tag).1.tree.IsForest := by
  unfold child
  cases (b.tree.unitOf parent).part <;> exact h.addEntry hparent _ tag

lemma isForest_typeUnit (h : b.tree.IsForest) (signature : UInt64) (tag : Tag) :
    (b.typeUnit signature tag).1.tree.IsForest := by
  have hunit := h.addUnit .type ⟨.type, b.nextType⟩ .typeUnit (some signature)
  have hroot : b.tree.size <
      (b.tree.addUnit .type ⟨.type, b.nextType⟩ .typeUnit (some signature)).1.size := by
    rw [EntryTree.size_addUnit]
    exact Nat.lt_succ_self _
  exact (isForest_child (b := ⟨_, b.nextInfo, b.nextType + 1⟩) hunit hroot tag).mapSignature _ _

/-- Every operation keeps the invariant. -/
lemma Step.isForest (step : Step b b') (h : b.tree.IsForest) : b'.tree.IsForest := by
  cases step with
  | beginUnit part key tag signature => exact h.addUnit part key tag signature
  | push exist key tag => exact h.addEntry exist key tag
  | child exist tag => exact isForest_child h exist tag
  | addAttr node attr value => exact h.addAttribute node attr value
  | mapSignature signature key => exact h.mapSignature signature key
  | compileUnit name directory =>
    exact ((h.addUnit _ _ _ _).addAttribute _ _ _).addAttribute _ _ _
  | typeUnit signature tag => exact isForest_typeUnit h signature tag
  | declaredAt node file line => exact (h.addAttribute _ _ _).addAttribute _ _ _
  | name | flag | unsigned | reference | typeRef | signature => exact h.addAttribute _ _ _
  | baseType exist text size encoding =>
    exact (((isForest_child h exist _).addAttribute _ _ _).addAttribute _ _ _).addAttribute _ _ _
  | modifier exist tag target =>
    cases target with
    | none => exact isForest_child h exist tag
    | some target => exact (isForest_child h exist tag).addAttribute _ _ _

/-- Everything that a builder makes, by any operations one after the other, is a forest. -/
lemma isForest_run (run : Relation.ReflTransGen Step .start b) : b.tree.IsForest := by
  induction run with
  | refl => exact EntryTree.empty_isForest
  | tail _ step ih => exact step.isForest ih

/-- After any operations: the lists of children are the links to the parents read backwards, each
child is listed once and is younger than its parent, the roots of the units are the entries without
a parent, the parents of an entry lead to the root of its unit, and the preorders of the units
together list every entry once. -/
theorem run_forest (run : Relation.ReflTransGen Step .start b) :
    (∀ p c, c ∈ b.tree.children p ↔ b.tree.parent? c = some p) ∧
      (∀ p c, b.tree.parent? c = some p → (b.tree.children p).count c = 1 ∧ p < c) ∧
      (∀ n, n ∈ b.tree.units.toList.map (·.root) ↔ n < b.tree.size ∧ b.tree.parent? n = none) ∧
      (∀ n < b.tree.size, (n :: b.tree.ancestors n).getLast? = some (b.tree.unitOf n).root) ∧
      (b.tree.units.toList.flatMap fun u => (b.tree.preorder u.root).map (·.2)).Perm
        (List.range b.tree.size) := by
  have h := isForest_run run
  refine ⟨fun _ _ => h.mem_children, fun p c hc => ⟨?_, h.older hc⟩,
    fun _ => h.mem_roots_iff, fun n hn => h.ancestorsFrom_getLast? hn hn, ?_⟩
  · exact List.count_eq_one_of_mem (h.nodup p) (h.mem_children.mpr hc)
  · have hperm := h.preorder_perm
    rwa [EntryTree.roots, List.flatMap_map] at hperm

/-- A compile unit that goes on after a type unit was begun. -/
def interleaved : TreeBuilder :=
  let opened := start.compileUnit "a.cpp" "/src"
  let scope := opened.1.child opened.2 .namespaceScope
  ((scope.1.typeUnit 7 .structureType).1.baseType scope.2 "int" 4 5).1

/-- The base type is the last entry and comes third in preorder. -/
theorem interleaved_forest :
    Relation.ReflTransGen Step .start interleaved ∧
      (interleaved.tree.units.toList.flatMap fun u =>
        (interleaved.tree.preorder u.root).map (·.2)) = [0, 1, 4, 2, 3] ∧
      [0, 1, 4, 2, 3].Perm (List.range 5) ∧
      (4 :: interleaved.tree.ancestors 4).getLast? = some (interleaved.tree.unitOf 4).root ∧
      (4 ∈ interleaved.tree.children 1 ↔ interleaved.tree.parent? 4 = some 1) ∧
      (interleaved.tree.children 1).count 4 = 1 ∧
      ((2 : NodeId) ∈ interleaved.tree.units.toList.map (·.root) ↔
        2 < interleaved.tree.size ∧ interleaved.tree.parent? 2 = none) := by
  have hrun : Relation.ReflTransGen Step .start interleaved := by
    refine .tail (.tail (.tail (.single (.compileUnit "a.cpp" "/src")) ?scope)
      (.typeUnit 7 .structureType)) (.baseType ?type "int" 4 5)
    case scope => exact .child (by cbv) .namespaceScope
    case type => cbv
  have hsize : interleaved.tree.size = 5 := by cbv
  have hlisting : (interleaved.tree.units.toList.flatMap fun u =>
      (interleaved.tree.preorder u.root).map (·.2)) = [0, 1, 4, 2, 3] := by cbv
  obtain ⟨hchildren, honce, hroots, hancestors, hperm⟩ := run_forest hrun
  rw [hlisting, hsize] at hperm
  exact ⟨hrun, hlisting, hperm, hancestors 4 (by rw [hsize]; decide), hchildren 1 4,
    (honce 1 4 (by cbv)).1, hroots 2⟩

end TreeBuilder

end HeaderRecovery.Debug
