import Mathlib
import HeaderRecovery.Debug.Lookup

/-!
Searching along declaration links. An entry may complete a declaration, its specification or its
abstract origin, which may complete another one in turn; these links may meet, lead back to where
they started or lead nowhere. The search keeps a stack of entries to look at and may push one
several times. Main statement: it ends, and it lists what a recursive depth-first search lists, in
the same order, so an attribute has the value of the first entry in that order that carries it.
-/
namespace HeaderRecovery.Debug.EntryTree
open Relation

variable {t : EntryTree} {n : NodeId} {met met' : Set NodeId}
variable {nodes rest order order' seen : List NodeId}

/-- An entry completes a declaration. -/
def LinksTo (t : EntryTree) (a b : NodeId) : Prop :=
  t.reference? a .specification = some b ∨ t.reference? a .abstractOrigin = some b

/-- Recursive search of entries one after the other. One that was met before is passed over. Any
other is listed, then what the search of its links finds, the specification first; the entries
behind it are searched with all of this met. -/
inductive DepthFirst (t : EntryTree) : Set NodeId → List NodeId → List NodeId → Prop
  | nil {met : Set NodeId} : DepthFirst t met [] []
  | passed {met : Set NodeId} {n : NodeId} {rest order : List NodeId} (old : n ∈ met)
      (behind : DepthFirst t met rest order) : DepthFirst t met (n :: rest) order
  | visited {met : Set NodeId} {n : NodeId} {rest below order : List NodeId} (new : n ∉ met)
      (links : DepthFirst t (insert n met)
        ((t.reference? n .specification).toList ++ (t.reference? n .abstractOrigin).toList) below)
      (behind : DepthFirst t (insert n met ∪ {m | m ∈ below}) rest order) :
      DepthFirst t met (n :: rest) (n :: (below ++ order))

lemma linked_eq (n : NodeId) :
    t.linked n =
      (t.reference? n .specification).toList ++ (t.reference? n .abstractOrigin).toList := by
  cases hs : t.reference? n .specification <;> cases ho : t.reference? n .abstractOrigin <;>
    simp [linked, hs, ho]

lemma mem_linked_iff {a b : NodeId} : b ∈ t.linked a ↔ t.LinksTo a b := by
  simp [linked_eq, LinksTo, Option.mem_toList]

/-! ### What a recursive search finds -/

namespace DepthFirst

/-- A search of two lists is a search of the first and then one of the second. -/
lemma split (h : t.DepthFirst met (nodes ++ rest) order) :
    ∃ first second, order = first ++ second ∧ t.DepthFirst met nodes first ∧
      t.DepthFirst (met ∪ {m | m ∈ first}) rest second := by
  induction nodes generalizing met order with
  | nil => exact ⟨[], order, rfl, .nil, by simpa using h⟩
  | cons n nodes ih =>
    cases h with
    | passed old behind =>
      obtain ⟨first, second, rfl, hfirst, hsecond⟩ := ih behind
      exact ⟨first, second, rfl, .passed old hfirst, hsecond⟩
    | @visited _ _ _ below _ new links behind =>
      obtain ⟨first, second, rfl, hfirst, hsecond⟩ := ih behind
      refine ⟨n :: (below ++ first), second, by simp, .visited new links hfirst, ?_⟩
      have hmet : met ∪ {m | m ∈ n :: (below ++ first)} =
          insert n met ∪ {m | m ∈ below} ∪ {m | m ∈ first} := by
        ext m
        simp
        tauto
      rwa [hmet]

/-- There is one result at most. -/
lemma unique (h : t.DepthFirst met nodes order) (h' : t.DepthFirst met nodes order') :
    order = order' := by
  induction h generalizing order' with
  | nil =>
    cases h'
    rfl
  | passed old _ ih =>
    cases h' with
    | passed _ behind => exact ih behind
    | visited new => exact absurd old new
  | visited new _ _ ihlinks ihbehind =>
    cases h' with
    | passed old => exact absurd old new
    | visited _ links behind =>
      obtain rfl := ihlinks links
      rw [ihbehind behind]

/-- No entry is listed twice, and none that was met before. -/
lemma nodup (h : t.DepthFirst met nodes order) : order.Nodup ∧ ∀ m ∈ order, m ∉ met := by
  induction h with
  | nil => simp
  | passed _ _ ih => exact ih
  | @visited met n rest below order new _ _ ihlinks ihbehind =>
    obtain ⟨hbelow, hbelowNew⟩ := ihlinks
    obtain ⟨horder, horderNew⟩ := ihbehind
    have hn : n ∉ below ++ order := by
      intro hmem
      rcases List.mem_append.mp hmem with hmem | hmem
      · exact hbelowNew n hmem (Set.mem_insert n met)
      · exact horderNew n hmem (Or.inl (Set.mem_insert n met))
    have hdisjoint : below.Disjoint order := fun m hm hm' => horderNew m hm' (Or.inr hm)
    refine ⟨List.nodup_cons.mpr ⟨hn, hbelow.append horder hdisjoint⟩, ?_⟩
    intro m hm hmet
    rcases List.mem_cons.mp hm with rfl | hm
    · exact new hmet
    · rcases List.mem_append.mp hm with hm | hm
      · exact hbelowNew m hm (Set.mem_insert_of_mem n hmet)
      · exact horderNew m hm (Or.inl (Set.mem_insert_of_mem n hmet))

/-- What is listed is reachable from an entry that is searched. -/
lemma reachable (h : t.DepthFirst met nodes order) :
    ∀ m ∈ order, ∃ n ∈ nodes, ReflTransGen t.LinksTo n m := by
  induction h with
  | nil => simp
  | passed _ _ ih =>
    intro m hm
    obtain ⟨n, hn, hreach⟩ := ih m hm
    exact ⟨n, List.mem_cons_of_mem _ hn, hreach⟩
  | @visited met n rest below order _ _ _ ihlinks ihbehind =>
    intro m hm
    rcases List.mem_cons.mp hm with rfl | hm
    · exact ⟨m, List.mem_cons_self, .refl⟩
    · rcases List.mem_append.mp hm with hm | hm
      · obtain ⟨next, hnext, hreach⟩ := ihlinks m hm
        rw [← linked_eq, mem_linked_iff] at hnext
        exact ⟨n, List.mem_cons_self, .head hnext hreach⟩
      · obtain ⟨n', hn', hreach⟩ := ihbehind m hm
        exact ⟨n', List.mem_cons_of_mem _ hn', hreach⟩

/-- Afterwards all that was searched, and all that a listed entry links to, has been met. -/
lemma closed (h : t.DepthFirst met nodes order) :
    (∀ n ∈ nodes, n ∈ met ∨ n ∈ order) ∧
      ∀ m ∈ order, ∀ b, t.LinksTo m b → b ∈ met ∨ b ∈ order := by
  induction h with
  | nil => simp
  | passed old _ ih =>
    refine ⟨?_, ih.2⟩
    intro m hm
    rcases List.mem_cons.mp hm with rfl | hm
    · exact Or.inl old
    · exact ih.1 m hm
  | @visited met n rest below order _ _ _ ihlinks ihbehind =>
    obtain ⟨hlinks, hbelow⟩ := ihlinks
    obtain ⟨hrest, horder⟩ := ihbehind
    -- What the inner search has met is `n`, met before it, or listed below `n`.
    have hinner : ∀ b, b ∈ insert n met ∨ b ∈ below → b ∈ met ∨ b ∈ n :: (below ++ order) := by
      intro b hb
      simp only [Set.mem_insert_iff] at hb
      simp only [List.mem_cons, List.mem_append]
      tauto
    have houter : ∀ b, b ∈ insert n met ∪ {m | m ∈ below} ∨ b ∈ order →
        b ∈ met ∨ b ∈ n :: (below ++ order) := by
      rintro b ((hb | hb) | hb)
      · exact hinner b (Or.inl hb)
      · exact hinner b (Or.inr hb)
      · exact Or.inr (List.mem_cons_of_mem n (List.mem_append_right below hb))
    constructor
    · intro m hm
      rcases List.mem_cons.mp hm with rfl | hm
      · exact Or.inr List.mem_cons_self
      · exact houter m (hrest m hm)
    · intro m hm b hlink
      rcases List.mem_cons.mp hm with rfl | hm
      · rw [← mem_linked_iff, linked_eq] at hlink
        exact hinner b (hlinks b hlink)
      · rcases List.mem_append.mp hm with hm | hm
        · exact hinner b (hbelow m hm b hlink)
        · exact houter b (horder m hm b hlink)

/-- A search that has met nothing before lists exactly what can be reached. -/
lemma mem_iff (h : t.DepthFirst ∅ [n] order) (m : NodeId) :
    m ∈ order ↔ ReflTransGen t.LinksTo n m := by
  constructor
  · intro hm
    obtain ⟨start, hstart, hreach⟩ := h.reachable m hm
    rwa [List.mem_singleton.mp hstart] at hreach
  · intro hreach
    induction hreach with
    | refl => exact (h.closed.1 n List.mem_cons_self).resolve_left (Set.notMem_empty n)
    | tail _ hlink ih => exact (h.closed.2 _ ih _ hlink).resolve_left (Set.notMem_empty _)

end DepthFirst

/-! ### The search with a stack -/

/-- How many entries of the tree have not been listed. -/
def unseen (t : EntryTree) (seen : List NodeId) : Nat :=
  ((Finset.range t.size).filter (· ∉ seen)).card

lemma unseen_nil : t.unseen [] = t.size := by simp [unseen]

lemma unseen_cons (hn : n < t.size) (new : n ∉ seen) :
    t.unseen (n :: seen) + 1 = t.unseen seen := by
  have herase : (Finset.range t.size).filter (· ∉ n :: seen) =
      ((Finset.range t.size).filter (· ∉ seen)).erase n := by
    ext m
    simp
    tauto
  have hmem : n ∈ (Finset.range t.size).filter (· ∉ seen) := by simp [hn, new]
  rw [unseen, unseen, herase]
  exact Finset.card_erase_add_one hmem

lemma unseen_cons_le (n : NodeId) (seen : List NodeId) : t.unseen (n :: seen) ≤ t.unseen seen := by
  refine Finset.card_le_card fun m hm => ?_
  simp only [Finset.mem_filter, List.mem_cons, not_or] at hm ⊢
  exact ⟨hm.1, hm.2.2⟩

lemma length_linked_le (n : NodeId) : (t.linked n).length ≤ 2 := List.length_filterMap_le _ _

/-- Beyond the tree nothing has an attribute, nor a link. -/
lemma linked_of_size_le (hn : t.size ≤ n) : t.linked n = [] := by
  have hentry : t.entry n = default := by
    simp [entry, Array.getD_eq_getD_getElem?, Array.getElem?_eq_none hn]
  have hattr : ∀ attr, t.attr? n attr = none := by
    intro attr
    rw [attr?, hentry]
    rfl
  simp [linked, reference?, hattr]

/-- Listing an entry pays for the two links that it pushes at most. -/
lemma push_lt {stack : List NodeId} {fuel : Nat} (new : n ∉ seen)
    (enough : (n :: stack).length + 2 * t.unseen seen < fuel + 1) :
    (t.linked n ++ stack).length + 2 * t.unseen (n :: seen) < fuel := by
  rw [List.length_cons] at enough
  rw [List.length_append]
  rcases Nat.lt_or_ge n t.size with hn | hn
  · have hcount := unseen_cons hn new
    have hlinked := length_linked_le (t := t) n
    omega
  · have hcount := unseen_cons_le (t := t) n seen
    rw [linked_of_size_le hn, List.length_nil]
    omega

/-- With enough steps left the search with a stack lists what the recursive search lists. -/
lemma depthFirst_chainFrom {fuel : Nat} {stack : List NodeId}
    (enough : stack.length + 2 * t.unseen seen < fuel) :
    t.DepthFirst {m | m ∈ seen} stack (t.chainFrom fuel seen stack) := by
  induction fuel generalizing seen stack with
  | zero => exact absurd enough (Nat.not_lt_zero _)
  | succ fuel ih =>
    cases stack with
    | nil => exact .nil
    | cons n stack =>
      rw [chainFrom]
      split
      · rename_i old
        refine .passed old (ih ?_)
        rw [List.length_cons] at enough
        omega
      · rename_i new
        have hseen : {m | m ∈ n :: seen} = insert n {m | m ∈ seen} := by
          ext m
          simp
        -- What `n` links to is pushed on the stack: one search of it all splits into the two that
        -- the rule asks for.
        have hpushed := ih (push_lt new enough)
        rw [hseen] at hpushed
        obtain ⟨below, behind, hsplit, hlinks, hbehind⟩ := hpushed.split
        rw [linked_eq] at hlinks
        rw [hsplit]
        exact .visited new hlinks hbehind

/-- The bound of the search is enough, and so is every greater one. -/
lemma depthFirst_of_le {fuel : Nat} (hfuel : 2 * t.size + 2 ≤ fuel) (node : NodeId) :
    t.DepthFirst ∅ [node] (t.chainFrom fuel [] [node]) := by
  have hnone : {m : NodeId | m ∈ ([] : List NodeId)} = ∅ := by
    ext m
    simp
  have enough : [node].length + 2 * t.unseen [] < fuel := by
    rw [unseen_nil, List.length_singleton]
    omega
  have hsearch := depthFirst_chainFrom enough
  rwa [hnone] at hsearch

/-- Looking an attribute up along declaration links ends, whatever the links are like, and gives
what the first entry that has it carries, in the order of the recursive search from `node`. That
search has one result, which lists every reachable entry once; so nothing is found exactly if no
reachable entry has the attribute. -/
theorem attrRecursive?_depthFirst (t : EntryTree) (node : NodeId) (attr : Attribute) :
    ∃ order, (∀ order', t.DepthFirst ∅ [node] order' ↔ order' = order) ∧
      order.Nodup ∧ (∀ m, m ∈ order ↔ ReflTransGen t.LinksTo node m) ∧
      (∀ fuel, 2 * t.size + 2 ≤ fuel → t.chainFrom fuel [] [node] = order) ∧
      (∀ value, t.attrRecursive? node attr = some value ↔
        ∃ before first behind, order = before ++ first :: behind ∧
          t.attr? first attr = some value ∧ ∀ m ∈ before, t.attr? m attr = none) ∧
      (t.attrRecursive? node attr = none ↔
        ∀ m, ReflTransGen t.LinksTo node m → t.attr? m attr = none) := by
  have hsearch := depthFirst_of_le (t := t) (Nat.le_refl _) node
  have hlookup : t.attrRecursive? node attr =
      (t.chainFrom (2 * t.size + 2) [] [node]).findSome? (t.attr? · attr) := rfl
  refine ⟨_, fun order' => ⟨fun h => h.unique hsearch, fun h => h ▸ hsearch⟩, hsearch.nodup.1,
    hsearch.mem_iff, fun fuel hfuel => (depthFirst_of_le hfuel node).unique hsearch, ?_, ?_⟩
  · intro value
    rw [hlookup, List.findSome?_eq_some_iff]
  · rw [hlookup, List.findSome?_eq_none_iff]
    exact forall_congr' fun m => by rw [hsearch.mem_iff]

end HeaderRecovery.Debug.EntryTree
