import Mathlib
import HeaderRecovery.Debug.Lookup
import HeaderRecovery.Dwarf.Loading

/-!
The two ways from a declaration to the type that it stands for: looking its signature up as a link,
and resolving it. A signature is written as the number of a type unit, as a reference to an entry,
or as an offset in a section that also holds type units. Main statement: both ways lead to the same
entry but for an offset at which only an entry of a type unit stands, which resolving leaves alone.
-/
namespace HeaderRecovery

namespace Debug.EntryTree

variable {t : EntryTree} {n m : NodeId} {key : EntryKey} {value : Value}

/-- The entry that a value refers to, by the form of the value. -/
inductive RefersTo (t : EntryTree) : Value → NodeId → Prop
  | signature {s : UInt64} {key : EntryKey} {m : NodeId} (maps : t.signatures[s]? = some key)
      (stands : t.node? key = some m) : RefersTo t (.signature s) m
  | entry {key : EntryKey} {m : NodeId} (stands : t.node? key = some m) : RefersTo t (.ref key) m
  | offset {offset : UInt64} {m : NodeId} (vacant : t.node? ⟨.info, offset⟩ = none)
      (stands : t.node? ⟨.type, offset⟩ = some m) : RefersTo t (.ref ⟨.info, offset⟩) m

/-- The signature of an entry is an offset at which nothing of a compile unit stands, but `m` of a
type unit. -/
def LinksByOffset (t : EntryTree) (n m : NodeId) : Prop :=
  ∃ offset, t.attr? n .signature = some (.ref ⟨.info, offset⟩) ∧
    t.node? ⟨.info, offset⟩ = none ∧ t.node? ⟨.type, offset⟩ = some m

lemma signatureTarget?_eq_some_iff {s : UInt64} :
    t.signatureTarget? s = some m ↔ t.RefersTo (.signature s) m := by
  rw [signatureTarget?, Option.bind_eq_some_iff]
  constructor
  · rintro ⟨key, maps, stands⟩
    exact .signature maps stands
  · rintro ⟨maps, stands⟩
    exact ⟨_, maps, stands⟩

/-- A value is followed to what it refers to. -/
lemma follow_eq_some_iff : t.follow value = some m ↔ t.RefersTo value m := by
  cases value with
  | ref key =>
    obtain ⟨part, offset⟩ := key
    rw [follow]
    cases hnode : t.node? ⟨part, offset⟩ with
    | some entry =>
      constructor
      · rintro ⟨⟩
        exact .entry hnode
      · rintro (_ | stands | ⟨vacant, -⟩)
        · exact hnode.symm.trans stands
        · cases hnode.symm.trans vacant
    | none =>
      cases part with
      | info =>
        constructor
        · intro stands
          exact .offset hnode stands
        · rintro (_ | stands | ⟨-, stands⟩)
          · cases hnode.symm.trans stands
          · exact stands
      | type =>
        constructor
        · rintro ⟨⟩
        · rintro (_ | stands)
          cases hnode.symm.trans stands
  | signature s => exact signatureTarget?_eq_some_iff
  | _ => constructor <;> rintro ⟨⟩

lemma reference?_eq_some_iff {attr : Attribute} :
    t.reference? n attr = some m ↔ ∃ value, t.attr? n attr = some value ∧ t.RefersTo value m := by
  rw [reference?, Option.bind_eq_some_iff]
  exact exists_congr fun value => and_congr_right fun _ => follow_eq_some_iff

/-- An entry whose signature refers to nothing stands for itself. -/
lemma resolve_of_reference?_eq_none (h : t.reference? n .signature = none) : t.resolve n = n := by
  have hnothing : ∀ value m, t.attr? n .signature = some value → ¬ t.RefersTo value m := by
    intro value m hattr hrefers
    cases h.symm.trans (reference?_eq_some_iff.mpr ⟨value, hattr, hrefers⟩)
  rw [resolve]
  cases hattr : t.attr? n .signature with
  | none => rfl
  | some value =>
    cases value with
    | ref key =>
      have hnode : t.node? key = none :=
        Option.eq_none_iff_forall_ne_some.mpr fun m hm => hnothing _ m hattr (.entry hm)
      simp [hnode]
    | signature s =>
      have htarget : t.signatureTarget? s = none :=
        Option.eq_none_iff_forall_ne_some.mpr fun m hm =>
          hnothing _ m hattr (signatureTarget?_eq_some_iff.mp hm)
      simp [htarget]
    | _ => rfl

/-- A signature that is no such offset is resolved to what it refers to. -/
lemma resolve_eq_of_not_linksByOffset (h : ∀ m, ¬ t.LinksByOffset n m) :
    t.resolve n = (t.reference? n .signature).getD n := by
  cases hreference : t.reference? n .signature with
  | none => exact resolve_of_reference?_eq_none hreference
  | some m =>
    obtain ⟨value, hattr, hrefers⟩ := reference?_eq_some_iff.mp hreference
    rw [resolve, hattr, Option.getD_some]
    cases hrefers with
    | signature maps stands =>
      simp [signatureTarget?_eq_some_iff.mpr (.signature maps stands)]
    | entry stands => simp [stands]
    | offset vacant stands => exact absurd ⟨_, hattr, vacant, stands⟩ (h m)

/-- Resolving leaves an offset alone that looking up follows. -/
lemma LinksByOffset.resolve (h : t.LinksByOffset n m) :
    t.reference? n .signature = some m ∧ t.resolve n = n := by
  obtain ⟨offset, hattr, hvacant, hstands⟩ := h
  constructor
  · exact reference?_eq_some_iff.mpr ⟨_, hattr, .offset hvacant hstands⟩
  · rw [EntryTree.resolve, hattr]
    simp [hvacant]

/-- Looking a signature up leads to what it refers to in its form. Resolving the entry leads there
as well and leaves an entry as it is whose signature refers to nothing, if and only if the
signature is no offset at which only another entry, of a type unit, stands. It never leads anywhere
else than looking up does. -/
theorem resolve_eq_reference?_iff (t : EntryTree) (n : NodeId) :
    (∀ m, t.reference? n .signature = some m ↔
      ∃ value, t.attr? n .signature = some value ∧ t.RefersTo value m) ∧
    (t.resolve n = (t.reference? n .signature).getD n ↔ ∀ m, t.LinksByOffset n m → m = n) ∧
    (t.resolve n = n ∨ t.reference? n .signature = some (t.resolve n)) := by
  refine ⟨fun m => reference?_eq_some_iff, ?_⟩
  by_cases hoffset : ∃ m, t.LinksByOffset n m
  · obtain ⟨m, hm⟩ := hoffset
    obtain ⟨hreference, hresolve⟩ := hm.resolve
    rw [hresolve, hreference, Option.getD_some]
    refine ⟨⟨fun hsame m' hm' => ?_, fun h => (h m hm).symm⟩, .inl rfl⟩
    have hunique := hm'.resolve.1.symm.trans hreference
    rw [Option.some.inj hunique, hsame]
  · have hnone : ∀ m, ¬ t.LinksByOffset n m := not_exists.mp hoffset
    have hresolve := resolve_eq_of_not_linksByOffset hnone
    refine ⟨⟨fun _ m hm => absurd hm (hnone m), fun _ => hresolve⟩, ?_⟩
    cases hreference : t.reference? n .signature with
    | none =>
      rw [hreference] at hresolve
      exact .inl hresolve
    | some m =>
      rw [hreference] at hresolve
      exact .inr (by rw [hresolve, Option.getD_some])

end Debug.EntryTree

namespace Dwarf

/-- A type unit of version 5 in `.debug_info`, whose structure stands at offset 25, and behind it a
compile unit with a declaration that gives this offset as its signature. -/
def offsetSignature : Sections :=
  { abbreviations := #[1, 0x41, 1, 0, 0, 2, 0x13, 0, 3, 8, 0, 0, 3, 0x11, 1, 0, 0,
      4, 0x13, 0, 0x69, 0x10, 0x3c, 0x19, 0, 0, 0]
    types := #[]
    info := #[25, 0, 0, 0, 5, 0, 2, 8, 0, 0, 0, 0, 7, 0, 0, 0, 0, 0, 0, 0, 25, 0, 0, 0,
      1, 2, 0x4e, 0, 0, 15, 0, 0, 0, 5, 0, 1, 8, 0, 0, 0, 0, 3, 4, 25, 0, 0, 0, 0]
    addresses := #[]
    lines := #[]
    lineStrings := #[]
    strings := #[]
    stringOffsets := #[]
    bigEndian := false }

/-- The lookup finds the structure, and the declaration is resolved to itself. -/
theorem offsetSignature_unresolved :
    ∃ t, load? offsetSignature = some t ∧ t.key 1 = ⟨.type, 25⟩ ∧
      t.attr? 3 .signature = some (.ref ⟨.info, 25⟩) ∧ t.reference? 3 .signature = some 1 ∧
      t.resolve 3 = 3 ∧ t.resolve 3 ≠ (t.reference? 3 .signature).getD 3 := by
  have hload : (load? offsetSignature).map (fun t =>
      (t.key 1, t.attr? 3 .signature, t.reference? 3 .signature, t.resolve 3)) =
        some (⟨.type, 25⟩, some (.ref ⟨.info, 25⟩), some 1, 3) := by cbv
  obtain ⟨t, ht, heq⟩ := Option.map_eq_some_iff.mp hload
  simp only [Prod.mk.injEq] at heq
  obtain ⟨hkey, hattr, hreference, hresolve⟩ := heq
  refine ⟨t, ht, hkey, hattr, hreference, hresolve, ?_⟩
  rw [hresolve, hreference]
  decide

end Dwarf
end HeaderRecovery
