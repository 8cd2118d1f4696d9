import HeaderRecovery.Proofs.LoadedKeys

/-!
Units are loaded in isolation. What a unit adds to a tree is the tree that it makes alone, moved
behind the entries that are there; later units leave it as it is. So what is found below its root
is the same next to any other units, and whatever becomes of those.
-/
namespace HeaderRecovery

namespace Debug

/-- An entry of a tree that stands behind `first` others in a larger one, as part of another
unit. -/
def Entry.moved (first : Nat) (unit : UnitId) (e : Entry) : Entry :=
  { e with unit, parent := e.parent.map (first + ·), children := e.children.map (first + ·) }

namespace EntryTree

variable {front : Array Entry} {unit : UnitId} {alone t : EntryTree}

lemma modify_append_map {α β : Type} {xs : Array α} {ys : Array β} {place : β → α} {f : α → α}
    {g : β → β} (h : ∀ y, f (place y) = place (g y)) (i : Nat) :
    (xs ++ ys.map place).modify (xs.size + i) f = xs ++ (ys.modify i g).map place := by
  apply Array.ext_getElem?
  intro j
  rw [Array.getElem?_modify, Array.getElem?_append, Array.getElem?_append]
  by_cases hj : j < xs.size
  · have hne : xs.size + i ≠ j := by omega
    rw [if_pos hj, if_neg hne, if_pos hj]
  · rw [if_neg hj, if_neg hj, Array.getElem?_map, Array.getElem?_map, Array.getElem?_modify]
    by_cases hi : i = j - xs.size
    · have heq : xs.size + i = j := by omega
      rw [if_pos heq, if_pos hi]
      cases ys[j - xs.size]? with
      | none => rfl
      | some y => exact congrArg some (h y)
    · have hne : xs.size + i ≠ j := by omega
      rw [if_neg hne, if_neg hi]

/-- The entries of a tree are those in front, and behind them those of another tree as entries of
one unit. -/
def Continues (front : Array Entry) (unit : UnitId) (alone t : EntryTree) : Prop :=
  t.entries = front ++ alone.entries.map (Entry.moved front.size unit)

namespace Continues

lemma size (h : Continues front unit alone t) : t.size = front.size + alone.size := by
  rw [EntryTree.size, h, Array.size_append, Array.size_map, EntryTree.size]

lemma addEntry (h : Continues front unit alone t) (other : UnitId) (key : EntryKey) (tag : Tag)
    (parent : Option NodeId) :
    Continues front unit (alone.addEntry other key tag parent).1
      (t.addEntry unit key tag (parent.map (front.size + ·))).1 := by
  have hpush : t.entries.push ⟨key, unit, tag, parent.map (front.size + ·), #[], #[]⟩ =
      front ++ (alone.entries.push ⟨key, other, tag, parent, #[], #[]⟩).map
        (Entry.moved front.size unit) := by
    rw [h, Array.map_push, Array.append_push]
    simp [Entry.moved]
  cases parent with
  | none => exact hpush
  | some p =>
    have hid := h.size
    simp only [EntryTree.size] at hid
    unfold Continues EntryTree.addEntry
    dsimp only [Option.map_some] at hpush ⊢
    rw [hpush]
    apply modify_append_map
    intro e
    simp [Entry.moved, hid]

lemma addAttribute (h : Continues front unit alone t) (node : NodeId) (attr : Attribute)
    (value : Value) :
    Continues front unit (alone.addAttribute node attr value)
      (t.addAttribute (front.size + node) attr value) := by
  unfold Continues EntryTree.addAttribute
  dsimp only
  rw [h]
  apply modify_append_map
  intro e
  rfl

end Continues

/-! What is found below an entry -/

/-- Children are younger than their parent. -/
def Grown (t : EntryTree) : Prop := ∀ n, ∀ c ∈ t.children n, n < c ∧ c < t.size

lemma children_addEntry {other : UnitId} {key : EntryKey} {tag : Tag} {parent : Option NodeId}
    (hparent : ∀ p ∈ parent, p < t.size) (n : NodeId) :
    (t.addEntry other key tag parent).1.children n =
      t.children n ++ if parent = some n then [t.size] else [] := by
  have hpush : ((t.entries.push ⟨key, other, tag, parent, #[], #[]⟩).getD n default).children =
      (t.entry n).children := by
    simp only [Array.getD_eq_getD_getElem?, Array.getElem?_push, entry]
    split
    · rename_i hn
      rw [hn, Array.getElem?_eq_none (Nat.le_refl _)]
      rfl
    · rfl
  cases parent with
  | none => simpa [children, entry, addEntry] using congrArg Array.toList hpush
  | some p =>
    have hp : p < t.entries.size + 1 := Nat.lt_succ_of_lt (hparent p rfl)
    simp only [children, entry, addEntry, Array.getD_eq_getD_getElem?,
      Array.getElem?_modify] at hpush ⊢
    by_cases hn : p = n
    · subst hn
      rw [if_pos rfl, if_pos rfl, ← Array.toList_push, ← hpush]
      rw [Array.getElem?_eq_getElem (by simpa using hp)]
      rfl
    · simp [hn, hpush]

lemma Grown.addEntry (h : Grown t) {other : UnitId} {key : EntryKey} {tag : Tag}
    {parent : Option NodeId} (hparent : ∀ p ∈ parent, p < t.size) :
    Grown (t.addEntry other key tag parent).1 := by
  intro n c hc
  rw [children_addEntry hparent] at hc
  rw [size_addEntry]
  rcases List.mem_append.mp hc with hc | hc
  · obtain ⟨hlt, hsize⟩ := h n c hc
    exact ⟨hlt, Nat.lt_succ_of_lt hsize⟩
  · split at hc
    · rename_i hn
      rw [List.mem_singleton.mp hc]
      exact ⟨hparent n hn, Nat.lt_succ_self t.size⟩
    · cases hc

lemma children_addAttribute (node n : NodeId) (attr : Attribute) (value : Value) :
    (t.addAttribute node attr value).children n = t.children n := by
  simp only [EntryTree.addAttribute, children, entry, Array.getD_eq_getD_getElem?,
    Array.getElem?_modify]
  split
  · cases h : t.entries[n]? <;> simp
  · rfl

lemma Grown.addAttribute (h : Grown t) (node : NodeId) (attr : Attribute) (value : Value) :
    Grown (t.addAttribute node attr value) := by
  intro n c hc
  rw [children_addAttribute] at hc
  rw [size_addAttribute]
  exact h n c hc

/-- An entry with its depth as its key, its tag and its attributes. -/
def record (t : EntryTree) (place : Nat × NodeId) :
    Nat × EntryKey × Tag × List (Attribute × Value) :=
  (place.1, t.key place.2, t.tag place.2, (t.entry place.2).attributes.toList)

/-- An entry and all below it, each before its children. -/
def listing (t : EntryTree) (node : NodeId) :
    List (Nat × EntryKey × Tag × List (Attribute × Value)) :=
  (t.preorder node).map t.record

/-- The roots of the units in order. -/
def roots (t : EntryTree) : List NodeId := t.units.toList.map (·.root)

lemma roots_addAttribute (node : NodeId) (attr : Attribute) (value : Value) :
    (t.addAttribute node attr value).roots = t.roots := by
  have hnote : ∀ u : UnitInfo, (if u.root = node then u.note attr value else u).root = u.root := by
    intro u
    split
    · cases attr <;> rfl
    · rfl
  apply List.ext_getElem?
  intro i
  simp only [roots, EntryTree.addAttribute, List.getElem?_map, Array.getElem?_toList,
    Array.getElem?_modify]
  split
  · rw [Option.map_map]
    exact congrArg (Option.map · _) (funext hnote)
  · rfl

section
variable {back : Array Entry}

lemma entry_of_continues
    (h : t.entries = front ++ alone.entries.map (Entry.moved front.size unit) ++ back)
    {m : Nat} (hm : m < alone.size) :
    t.entry (front.size + m) = (alone.entry m).moved front.size unit := by
  have hplace :
      front.size + m < (front ++ alone.entries.map (Entry.moved front.size unit)).size := by
    rw [Array.size_append, Array.size_map]
    exact Nat.add_lt_add_left hm _
  have hm' : alone.entries[m]? = some (alone.entry m) := by
    rw [entry, Array.getD_eq_getD_getElem?, Array.getElem?_eq_getElem hm]
    rfl
  rw [entry, Array.getD_eq_getD_getElem?, h, Array.getElem?_append_left hplace,
    Array.getElem?_append_right (Nat.le_add_right _ _), Nat.add_sub_cancel_left,
    Array.getElem?_map, hm']
  rfl

lemma records_of_continues (hgrown : Grown alone)
    (h : t.entries = front ++ alone.entries.map (Entry.moved front.size unit) ++ back)
    {fuel fuel' : Nat} (depth : Nat) {m : Nat} (hm : m < alone.size)
    (hfuel : alone.size ≤ m + fuel) (hfuel' : alone.size ≤ m + fuel') :
    (t.preorderFrom fuel depth (front.size + m)).map t.record =
      (alone.preorderFrom fuel' depth m).map alone.record := by
  induction fuel generalizing fuel' depth m with
  | zero => omega
  | succ fuel ih =>
    cases fuel' with
    | zero => omega
    | succ fuel' =>
      have hentry := entry_of_continues h hm
      have hrecord : t.record (depth, front.size + m) = alone.record (depth, m) := by
        simp [record, key, tag, hentry, Entry.moved]
      have hchildren : t.children (front.size + m) =
          (alone.children m).map (front.size + ·) := by
        simp [children, hentry, Entry.moved]
      rw [preorderFrom, preorderFrom, List.map_cons, List.map_cons, hrecord, hchildren,
        List.flatMap_map, List.map_flatMap, List.map_flatMap]
      refine congrArg _ (List.flatMap_congr fun c hc => ?_)
      obtain ⟨hlt, hsize⟩ := hgrown m c hc
      -- Children come behind their parent, so either bound leaves enough for them.
      have hless {fuel : Nat} (h : alone.size ≤ m + (fuel + 1)) : alone.size ≤ c + fuel := by
        rw [Nat.add_comm fuel 1, ← Nat.add_assoc] at h
        exact h.trans (Nat.add_le_add_right hlt fuel)
      exact ih (depth + 1) hsize (hless hfuel) (hless hfuel')

/-- What stands below an entry of a unit is the same behind other entries and in front of more. -/
lemma listing_of_continues (hgrown : Grown alone)
    (h : t.entries = front ++ alone.entries.map (Entry.moved front.size unit) ++ back)
    {m : Nat} (hm : m < alone.size) : t.listing (front.size + m) = alone.listing m := by
  have hsize : alone.size ≤ t.size := by
    rw [EntryTree.size, EntryTree.size, h]
    simp
    omega
  exact records_of_continues hgrown h 0 hm (by omega) (by omega)

end

end EntryTree
end Debug

namespace Dwarf
open Debug EntryTree

variable {front : Array Entry} {unit : UnitId} {alone t : EntryTree}

lemma continues_addAttributes (h : Continues front unit alone t) (node : NodeId)
    (attributes : List (Attribute × Value)) :
    Continues front unit (addAttributes alone node attributes)
      (addAttributes t (front.size + node) attributes) := by
  induction attributes generalizing alone t with
  | nil => exact h
  | cons a rest ih => exact ih (h.addAttribute node a.1 a.2)

lemma continues_addBelow (h : Continues front unit alone t) (other : UnitId)
    (keyAt : Nat → EntryKey) (opened : List NodeId) (entries : List (EntryRecord Value)) :
    Continues front unit (addBelow other keyAt alone opened entries)
      (addBelow unit keyAt t (opened.map (front.size + ·)) entries) := by
  induction entries generalizing alone t opened with
  | nil => exact h
  | cons entry rest ih =>
    have habove : (opened.map (front.size + ·)).drop ((opened.map (front.size + ·)).length -
        entry.depth) = (opened.drop (opened.length - entry.depth)).map (front.size + ·) := by
      rw [List.length_map, List.map_drop]
    have hnode := h.size
    rw [addBelow, addBelow]
    dsimp only
    rw [habove, List.head?_map]
    have hentry := h.addEntry other (keyAt entry.offset) entry.tag
      (opened.drop (opened.length - entry.depth)).head?
    have hmore := ih (continues_addAttributes hentry alone.size entry.attributes)
      (alone.size :: opened.drop (opened.length - entry.depth))
    rw [← hnode] at hmore
    rw [List.map_cons, ← hnode] at hmore
    exact hmore

/-- A unit adds what it makes alone. -/
lemma continues_addContents (t : EntryTree) (u : UnitContents) :
    Continues t.entries t.units.size (addContents .empty u) (addContents t u) := by
  have hroot (signature : Option UInt64) : Continues t.entries t.units.size
      (EntryTree.empty.addUnit u.part (u.keyAt (UInt64.ofNat u.root.offset)) u.root.tag signature).1
      (t.addUnit u.part (u.keyAt (UInt64.ofNat u.root.offset)) u.root.tag signature).1 := by
    rw [addUnit_eq, addUnit_eq]
    refine Continues.addEntry ?_ _ _ _ none
    simp [Continues, EntryTree.empty]
  refine continues_addBelow (continues_addAttributes ?_ 0 u.root.attributes) 0 _ [0] u.below
  cases u.typeLink with
  | none => exact hroot none
  | some link => exact hroot (some link.signature)

/-! What a unit makes alone -/

lemma grown_addAttributes (h : Grown t) (node : NodeId) (attributes : List (Attribute × Value)) :
    Grown (addAttributes t node attributes) := by
  induction attributes generalizing t with
  | nil => exact h
  | cons a rest ih => exact ih (h.addAttribute node a.1 a.2)

lemma size_addAttributes (node : NodeId) (attributes : List (Attribute × Value)) :
    (addAttributes t node attributes).size = t.size := by
  induction attributes generalizing t with
  | nil => rfl
  | cons a rest ih => exact ih.trans (size_addAttribute a.1 a.2)

lemma grown_addBelow (h : Grown t) (unit : UnitId) (keyAt : Nat → EntryKey)
    {opened : List NodeId} (hopened : ∀ n ∈ opened, n < t.size)
    (entries : List (EntryRecord Value)) : Grown (addBelow unit keyAt t opened entries) := by
  induction entries generalizing t opened with
  | nil => exact h
  | cons entry rest ih =>
    have habove : ∀ n ∈ opened.drop (opened.length - entry.depth), n < t.size :=
      fun n hn => hopened n (List.mem_of_mem_drop hn)
    rw [addBelow]
    refine ih (grown_addAttributes (h.addEntry fun p hp => ?_) _ _) fun n hn => ?_
    · exact habove p (List.mem_of_mem_head? hp)
    · rw [size_addAttributes, size_addEntry]
      rcases List.mem_cons.mp hn with rfl | hn
      · exact Nat.lt_succ_self t.size
      · exact Nat.lt_succ_of_lt (habove n hn)

lemma grown_alone (u : UnitContents) : Grown (addContents .empty u) := by
  have hroot (signature : Option UInt64) : Grown (EntryTree.empty.addUnit u.part
      (u.keyAt (UInt64.ofNat u.root.offset)) u.root.tag signature).1 := by
    rw [addUnit_eq]
    exact Grown.addEntry (fun n c hc => by cases hc) fun p hp => by cases hp
  rw [addContents]
  refine grown_addBelow (grown_addAttributes ?_ _ _) _ _ (fun n hn => ?_) _
  · cases u.typeLink with
    | none => exact hroot none
    | some link => exact hroot (some link.signature)
  · rw [List.mem_singleton.mp hn, size_addAttributes]
    cases u.typeLink <;> exact Nat.lt_succ_self 0

/-! Units in a row -/

lemma roots_addAttributes (node : NodeId) (attributes : List (Attribute × Value)) :
    (addAttributes t node attributes).roots = t.roots := by
  induction attributes generalizing t with
  | nil => rfl
  | cons a rest ih => exact ih.trans (EntryTree.roots_addAttribute node a.1 a.2)

lemma roots_addBelow (unit : UnitId) (keyAt : Nat → EntryKey) (opened : List NodeId)
    (entries : List (EntryRecord Value)) :
    (addBelow unit keyAt t opened entries).roots = t.roots := by
  induction entries generalizing t opened with
  | nil => rfl
  | cons entry rest ih => exact (ih _).trans (roots_addAttributes _ _)

lemma roots_addContents (t : EntryTree) (u : UnitContents) :
    (addContents t u).roots = t.roots ++ [t.size] := by
  have hroot (signature : Option UInt64) : (t.addUnit u.part
      (u.keyAt (UInt64.ofNat u.root.offset)) u.root.tag signature).1.roots =
        t.roots ++ [t.size] := by
    simp [addUnit_eq, EntryTree.addEntry, EntryTree.roots]
  rw [addContents]
  dsimp only
  rw [roots_addBelow, roots_addAttributes]
  cases u.typeLink with
  | none => exact hroot none
  | some link => exact hroot (some link.signature)

/-- What a unit with these contents lists when it is the only one. -/
def listingAlone (u : UnitContents) : List (Nat × EntryKey × Tag × List (Attribute × Value)) :=
  (addContents .empty u).listing 0

/-- Units that are added list what each lists alone, also when more follow. -/
lemma foldl_addContents (contents : List UnitContents) (t : EntryTree) :
    ∃ roots more, (contents.foldl addContents t).roots = t.roots ++ roots ∧
      (contents.foldl addContents t).entries = t.entries ++ more ∧
      ∀ (t' : EntryTree) (back : Array Entry), t'.entries = t.entries ++ more ++ back →
        roots.map t'.listing = contents.map listingAlone := by
  induction contents generalizing t with
  | nil => exact ⟨[], #[], by simp, by simp, fun t' back _ => rfl⟩
  | cons u rest ih =>
    obtain ⟨roots, more, hroots, hentries, hlistings⟩ := ih (addContents t u)
    have hunit := continues_addContents t u
    refine ⟨t.size :: roots, (addContents .empty u).entries.map
      (Entry.moved t.entries.size t.units.size) ++ more, ?_, ?_, ?_⟩
    · rw [List.foldl_cons, hroots, roots_addContents, List.append_assoc, List.singleton_append]
    · rw [List.foldl_cons, hentries, hunit, Array.append_assoc]
    · intro t' back ht'
      rw [← Array.append_assoc, ← hunit] at ht'
      rw [List.map_cons, List.map_cons, hlistings t' back ht']
      rw [hunit, Array.append_assoc] at ht'
      have hkeys := congrArg List.length (keys_addContents (t := .empty) u)
      have hfirst := listing_of_continues (m := 0) (grown_alone u) ht' (by
        simp [EntryTree.keys, UnitContents.offsets] at hkeys
        omega)
      exact congrArg (· :: _) hfirst

/-- A loaded tree lists, for each unit that can be read at all, what this unit lists alone. -/
theorem load?_listings {s : Sections} {units : List UnitBlock} (h : load? s = some t)
    (hunits : UnitBlock.ofSections? s = some units) :
    t.roots.map t.listing = (units.filterMap (UnitContents.ofBlock? s)).map listingAlone := by
  rw [load?, hunits, Option.map_some, Option.some.injEq] at h
  obtain ⟨roots, more, hroots, hentries, hlistings⟩ :=
    foldl_addContents (units.filterMap (UnitContents.ofBlock? s)) .empty
  rw [h] at hroots hentries
  rw [hroots]
  exact hlistings t #[] (by rw [hentries, Array.append_empty])

/-! Two loads next to each other -/

/-- The same sections but for those that hold the units. -/
def Sections.SharesWith (s s' : Sections) : Prop :=
  s' = { s with info := s'.info, types := s'.types }

/-- Where a unit stands, its header, its length and where its entries start. -/
def UnitBlock.outline (u : UnitBlock) : Nat × UnitHeader × Nat × Nat :=
  (u.offset, u.header, u.bytes.size, u.start)

/-- What the tree lists for the unit with the `i`-th header; `none` when this one cannot be read.
The tree has a root for each of those before it that can. -/
def entriesAt? (s : Sections) (t : EntryTree) (units : List UnitBlock) (i : Nat) :
    Option (List (Nat × EntryKey × Tag × List (Attribute × Value))) :=
  match units[i]?.bind (UnitContents.ofBlock? s) with
  | some _ =>
    t.roots[((units.take i).filterMap (UnitContents.ofBlock? s)).length]?.map t.listing
  | none => none

variable {s s' : Sections} {t' : EntryTree} {units units' : List UnitBlock} {i : Nat}

lemma entriesAt?_eq (h : load? s = some t) (hunits : UnitBlock.ofSections? s = some units) :
    entriesAt? s t units i = (units[i]?.bind (UnitContents.ofBlock? s)).map listingAlone := by
  unfold entriesAt?
  split
  · rename_i u hu
    obtain ⟨block, hblock, hcontents⟩ := Option.bind_eq_some_iff.mp hu
    obtain ⟨hi, rfl⟩ := List.getElem?_eq_some_iff.mp hblock
    have hsplit : units.filterMap (UnitContents.ofBlock? s) =
        (units.take i).filterMap (UnitContents.ofBlock? s) ++
          u :: (units.drop (i + 1)).filterMap (UnitContents.ofBlock? s) := by
      conv_lhs => rw [← List.take_append_drop i units, List.drop_eq_getElem_cons hi]
      rw [List.filterMap_append, List.filterMap_cons_some hcontents]
    rw [← List.getElem?_map, load?_listings h hunits, hsplit]
    simp [hu]
  · rename_i hnone
    rw [hnone, Option.map_none]

lemma ofBlock?_shared (shared : s.SharesWith s') (block : UnitBlock) :
    UnitContents.ofBlock? s' block = UnitContents.ofBlock? s block := by
  rw [shared]
  rfl

/-- Two programs whose units have the same headers and lengths and that share all other sections:
where the bytes of one unit are the same, its entries are, whatever the other units hold. -/
theorem load?_isolates (shared : s.SharesWith s') (h : load? s = some t)
    (h' : load? s' = some t') (hunits : UnitBlock.ofSections? s = some units)
    (hunits' : UnitBlock.ofSections? s' = some units')
    (headers : units.map UnitBlock.outline = units'.map UnitBlock.outline)
    (bytes : units[i]?.map (·.bytes) = units'[i]?.map (·.bytes)) :
    entriesAt? s t units i = entriesAt? s' t' units' i := by
  have hblock : units[i]? = units'[i]? := by
    have houtline : units[i]?.map UnitBlock.outline = units'[i]?.map UnitBlock.outline := by
      rw [← List.getElem?_map, headers, List.getElem?_map]
    cases hu : units[i]? with
    | none =>
      rw [hu] at bytes
      exact (Option.map_eq_none_iff.mp bytes.symm).symm
    | some u =>
      rw [hu] at houtline bytes
      obtain ⟨u', hu', heq⟩ := Option.map_eq_some_iff.mp houtline.symm
      rw [hu'] at bytes ⊢
      obtain ⟨offset, header, content, start⟩ := u
      obtain ⟨offset', header', content', start'⟩ := u'
      simp_all [UnitBlock.outline]
  rw [entriesAt?_eq h hunits, entriesAt?_eq h' hunits', hblock]
  exact congrArg (fun f => (units'[i]?.bind f).map listingAlone)
    (funext fun block => (ofBlock?_shared shared block).symm)

/-- Two compile units. The first holds the given six bytes, the second a structure `C` with a
structure `D` in it. -/
def neighbours (first : List UInt8) : Sections :=
  { abbreviations := #[1, 0x11, 1, 0, 0, 2, 0x13, 1, 3, 8, 0, 0, 0]
    info := ([14, 0, 0, 0, 5, 0, 1, 8, 0, 0, 0, 0] ++ first ++
      [18, 0, 0, 0, 5, 0, 1, 8, 0, 0, 0, 0, 1, 2, 0x43, 0, 2, 0x44, 0, 0, 0, 0]).toArray
    types := #[]
    addresses := #[]
    lines := #[]
    lineStrings := #[]
    strings := #[]
    stringOffsets := #[]
    bigEndian := false }

/-- Its units. -/
def neighbourUnits (first : List UInt8) : List UnitBlock :=
  [⟨0, ⟨⟨false, 5, 8⟩, 0, none⟩, ([14, 0, 0, 0, 5, 0, 1, 8, 0, 0, 0, 0] ++ first).toArray, 12⟩,
    ⟨18, ⟨⟨false, 5, 8⟩, 0, none⟩,
      #[18, 0, 0, 0, 5, 0, 1, 8, 0, 0, 0, 0, 1, 2, 0x43, 0, 2, 0x44, 0, 0, 0, 0], 12⟩]

/-- A first unit that breaks off in the name of a structure within a structure, and one that does
not: the second is the same next to both. -/
theorem brokenNeighbour_isolated :
    ∃ t t', load? (neighbours [1, 2, 0x41, 0, 0, 0]) = some t ∧ t.size = 5 ∧
      load? (neighbours [1, 2, 0x41, 0, 2, 0x42]) = some t' ∧ t'.size = 6 ∧
      entriesAt? (neighbours [1, 2, 0x41, 0, 2, 0x42]) t' (neighbourUnits [1, 2, 0x41, 0, 2, 0x42]) 1 =
        some [(0, ⟨.info, 30⟩, .compileUnit, []),
          (1, ⟨.info, 31⟩, .structureType, [(.name, .string "C")]),
          (2, ⟨.info, 34⟩, .structureType, [(.name, .string "D")])] := by
  have hwhole : (load? (neighbours [1, 2, 0x41, 0, 0, 0])).map (fun t => (t.size,
      entriesAt? (neighbours [1, 2, 0x41, 0, 0, 0]) t (neighbourUnits [1, 2, 0x41, 0, 0, 0]) 1)) =
      some (5, some [(0, ⟨.info, 30⟩, .compileUnit, []),
        (1, ⟨.info, 31⟩, .structureType, [(.name, .string "C")]),
        (2, ⟨.info, 34⟩, .structureType, [(.name, .string "D")])]) := by cbv
  have hbroken : (load? (neighbours [1, 2, 0x41, 0, 2, 0x42])).map (·.size) = some 6 := by
    decide +kernel
  have hunits : UnitBlock.ofSections? (neighbours [1, 2, 0x41, 0, 0, 0]) =
      some (neighbourUnits [1, 2, 0x41, 0, 0, 0]) := by cbv
  have hunits' : UnitBlock.ofSections? (neighbours [1, 2, 0x41, 0, 2, 0x42]) =
      some (neighbourUnits [1, 2, 0x41, 0, 2, 0x42]) := by cbv
  have hshared : (neighbours [1, 2, 0x41, 0, 0, 0]).SharesWith
      (neighbours [1, 2, 0x41, 0, 2, 0x42]) := rfl
  obtain ⟨t, ht, hlisted⟩ := Option.map_eq_some_iff.mp hwhole
  obtain ⟨t', ht', hsize'⟩ := Option.map_eq_some_iff.mp hbroken
  obtain ⟨hsize, hlisted⟩ := Prod.mk.inj hlisted
  have hsame := load?_isolates (i := 1) hshared ht ht' hunits hunits' rfl rfl
  exact ⟨t, t', ht, hsize, ht', hsize', hsame.symm.trans hlisted⟩

end Dwarf
end HeaderRecovery
