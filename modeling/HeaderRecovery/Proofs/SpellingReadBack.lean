import HeaderRecovery.Debug.Builder
import HeaderRecovery.Proofs.DeclaratorParsing

/-!
When a spelled type is read back as the type its entries describe. The spelling looks at one
entry at a time; it loses a level exactly where a qualifier is between a mark and the array or
function it must group, where a qualifier must pass another level to reach its own, and where
`&` touches another `&`.
-/
namespace HeaderRecovery.Debug.Chain
open Cpp

/-- The chain behind its outermost qualifiers. -/
def unqualified : Chain → Chain
  | qualified _ inner => inner.unqualified
  | c => c

/-- Nothing but qualifiers and arrays around a name. -/
def isOnBase : Chain → Bool
  | named _ => true
  | qualified _ inner => inner.isOnBase
  | array _ element => element.isOnBase
  | _ => false

def isReference : Mark → Bool
  | .reference | .rvalueReference => true
  | _ => false

def isLvalueReference : Chain → Bool
  | indirect .reference _ => true
  | _ => false

mutual

/-- The levels that one entry and the next decide rightly: a mark has no qualified array or
function and, if it is a reference, no `&` behind it; a qualifier qualifies a mark directly, or
the named base type. -/
def isFaithful : Chain → Bool
  | named _ => true
  | indirect mark target =>
    target.isFaithful && (target.isSuffixed || !target.unqualified.isSuffixed) &&
      !(isReference mark && target.isLvalueReference)
  | qualified _ inner => inner.isFaithful && (inner.isIndirect || inner.isOnBase)
  | array _ element => element.isFaithful
  | function parameters result => areFaithful parameters && result.isFaithful

def areFaithful : List (Option Chain) → Bool
  | [] => true
  | none :: rest => areFaithful rest
  | some c :: rest => c.isFaithful && areFaithful rest

end

end HeaderRecovery.Debug.Chain

namespace HeaderRecovery.Cpp

namespace Ty

/-- A qualifier on the named base type, whatever is around it. -/
def qualifyBase (q : Qualifier) : Ty → Ty
  | named qs name => named (q ::ₘ qs) name
  | indirect qs mark target => indirect qs mark (target.qualifyBase q)
  | array bound element => array bound (element.qualifyBase q)
  | function qs parameters result => function qs parameters (result.qualifyBase q)

def baseQualifiers : Ty → Multiset Qualifier
  | named qs _ => qs
  | indirect _ _ target => target.baseQualifiers
  | array _ element => element.baseQualifiers
  | function _ _ result => result.baseQualifiers

lemma baseQualifiers_qualifyBase (q : Qualifier) :
    ∀ type : Ty, (type.qualifyBase q).baseQualifiers = q ::ₘ type.baseQualifiers
  | named _ _ => rfl
  | indirect _ _ target => baseQualifiers_qualifyBase q target
  | array _ element => baseQualifiers_qualifyBase q element
  | function _ _ result => baseQualifiers_qualifyBase q result

lemma baseQualifiers_qualify_le (q : Qualifier) :
    ∀ type : Ty, (type.qualify q).baseQualifiers ≤ q ::ₘ type.baseQualifiers
  | named _ _ => le_rfl
  | indirect _ _ _ => Multiset.le_cons_self _ _
  | array _ element => baseQualifiers_qualify_le q element
  | function _ _ _ => Multiset.le_cons_self _ _

/-- Nothing but arrays around the named base type. -/
def isOnBase : Ty → Bool
  | named .. => true
  | array _ element => element.isOnBase
  | _ => false

lemma isOnBase_qualify (q : Qualifier) : ∀ type : Ty, (type.qualify q).isOnBase = type.isOnBase
  | named _ _ => rfl
  | indirect _ _ _ => rfl
  | array _ element => isOnBase_qualify q element
  | function _ _ _ => rfl

lemma qualify_of_isOnBase (q : Qualifier) :
    ∀ type : Ty, type.isOnBase → type.qualify q = type.qualifyBase q
  | named _ _, _ => rfl
  | array bound element, h => congrArg (array bound) (qualify_of_isOnBase q element h)
  | indirect .., h => by cases h
  | function .., h => by cases h

lemma baseQualifiers_qualify (q : Qualifier) :
    ∀ type : Ty, type.isOnBase = false → (type.qualify q).baseQualifiers = type.baseQualifiers
  | named _ _, h => by cases h
  | indirect .., _ => rfl
  | array _ element, h => baseQualifiers_qualify q element h
  | function .., _ => rfl

lemma qualifyBase_injective (q : Qualifier) :
    ∀ a b : Ty, a.qualifyBase q = b.qualifyBase q → a = b
  | named _ _, b, h => by
    cases b <;> simp_all [qualifyBase]
  | indirect _ _ target, b, h => by
    cases b <;> simp_all [qualifyBase]
    exact qualifyBase_injective q target _ h.2.2
  | array _ element, b, h => by
    cases b <;> simp_all [qualifyBase]
    exact qualifyBase_injective q element _ h.2
  | function _ _ result, b, h => by
    cases b <;> simp_all [qualifyBase]
    exact qualifyBase_injective q result _ h.2.2

lemma qualify_injective (q : Qualifier) : ∀ a b : Ty, a.qualify q = b.qualify q → a = b
  | named _ _, b, h => by cases b <;> simp_all [qualify]
  | indirect _ _ _, b, h => by cases b <;> simp_all [qualify]
  | array _ element, b, h => by
    cases b <;> simp_all [qualify]
    exact qualify_injective q element _ h.2
  | function _ _ _, b, h => by cases b <;> simp_all [qualify]

end Ty

/-! ### What each step of a layout means -/

namespace Layout

variable {l : Layout}

lemma type_suffix (s : Suffix) (l : Layout) : (l.suffix s).type = s.layer.around l.type := rfl

lemma type_group (m : Mark) (l : Layout) : (l.group m).type = .indirect 0 m l.type := rfl

lemma foldr_qualifyBase (q : Qualifier) (layers : List Layer) (base : Ty) :
    layers.foldr Layer.around (base.qualifyBase q) =
      (layers.foldr Layer.around base).qualifyBase q := by
  induction layers with
  | nil => rfl
  | cons layer layers ih =>
    rw [List.foldr_cons, List.foldr_cons, ih]
    cases layer <;> rfl

lemma type_precede (q : Qualifier) (l : Layout) :
    (l.precede q).type = l.type.qualifyBase q := 
  foldr_qualifyBase q l.layers (.named l.lead l.base)

/-- The leading qualifiers are those of the base type. -/
lemma baseQualifiers_type (l : Layout) : l.type.baseQualifiers = l.lead := by
  unfold type
  induction l.layers with
  | nil => rfl
  | cons layer layers ih => cases layer <;> exact ih

/-- With suffixes next to the name, a suffix is the outermost layer. -/
lemma type_of_suffixes {s : Suffix} {rest : List Suffix} (h : l.inner.suffixes = s :: rest) :
    ∃ inner, l.type = s.layer.around inner := by
  refine ⟨(rest.map Suffix.layer ++ l.inner.prefixes.map Prefix.layer ++
    l.outer.flatMap Segment.layers).foldr Layer.around (.named l.lead l.base), ?_⟩
  simp [type, layers, Segment.layers, h]

/-- Without, it is the last mark in front of the name. -/
lemma type_of_prefixes (hs : l.inner.suffixes = []) {p : Prefix} {rest : List Prefix}
    (h : l.inner.prefixes = p :: rest) :
    l.type = .indirect p.qualifiers p.mark
      ({ l with inner := { l.inner with prefixes := rest } } : Layout).type := by
  simp [type, layers, Segment.layers, hs, h, Prefix.layer, Layer.around]

lemma type_mark (hs : l.inner.suffixes = []) {m : Mark}
    (h : addMark m l.inner.prefixes = ⟨m, []⟩ :: l.inner.prefixes) :
    (l.mark m).type = .indirect 0 m l.type := by
  have hprefixes : (l.mark m).inner.prefixes = ⟨m, []⟩ :: l.inner.prefixes := h
  rw [type_of_prefixes (show (l.mark m).inner.suffixes = [] from hs) hprefixes]
  rfl

lemma type_qualify (hs : l.inner.suffixes = []) {p : Prefix} {rest : List Prefix}
    (h : l.inner.prefixes = p :: rest) (q : Qualifier) :
    (l.qualify q).type = l.type.qualify q := by
  have hprefixes : (l.qualify q).inner.prefixes =
      { p with qualifiers := p.qualifiers ++ [q] } :: rest := by
    simp [Layout.qualify, addQualifier, h]
  rw [type_of_prefixes (show (l.qualify q).inner.suffixes = [] from hs) hprefixes,
    type_of_prefixes hs h]
  have hqualifiers : ((p.qualifiers ++ [q] : List Qualifier) : Multiset Qualifier) =
      q ::ₘ (p.qualifiers : Multiset Qualifier) :=
    Multiset.coe_eq_coe.mpr (List.perm_append_singleton q p.qualifiers)
  simp only [Ty.qualify, hqualifiers]
  rfl

end Layout

end HeaderRecovery.Cpp

namespace HeaderRecovery.Debug.Chain
open Cpp

/-! ### The layout of a faithful chain -/

/-- Something stands behind the name without a mark that groups it. -/
def hasOpenSuffix : Chain → Bool
  | named _ => false
  | indirect _ target => !target.isSuffixed && target.hasOpenSuffix
  | qualified _ inner => inner.hasOpenSuffix
  | array .. | function .. => true

lemma layout_suffixes (c : Chain) :
    c.layout.inner.suffixes = [] ↔ c.hasOpenSuffix = false := by
  cases c with
  | named _ => simp [layout, hasOpenSuffix]
  | indirect mark target =>
    have htarget := layout_suffixes target
    rw [layout, hasOpenSuffix]
    cases hsuffixed : target.isSuffixed with
    | true => simp [Layout.group]
    | false => simpa [Layout.mark] using htarget
  | qualified q inner =>
    have hinner := layout_suffixes inner
    rw [layout, hasOpenSuffix]
    split <;> exact hinner
  | array bound element => simp [layout, hasOpenSuffix, Layout.suffix]
  | function parameters result => simp [layout, hasOpenSuffix, Layout.suffix]

/-- A faithful chain leaves a suffix open only if it begins with one, qualifiers aside. -/
lemma hasOpenSuffix_iff : ∀ {c : Chain}, c.isFaithful →
    (c.hasOpenSuffix ↔ c.unqualified.isSuffixed)
  | named _, _ => by simp [hasOpenSuffix, unqualified, isSuffixed]
  | indirect mark target, h => by
    simp only [isFaithful, Bool.and_eq_true] at h
    have htarget := hasOpenSuffix_iff h.1.1
    cases hsuffixed : target.isSuffixed <;>
      simp_all [hasOpenSuffix, unqualified, isSuffixed]
  | qualified _ inner, h => by
    simp only [isFaithful, Bool.and_eq_true] at h
    have hinner := hasOpenSuffix_iff h.1
    simpa [hasOpenSuffix, unqualified] using hinner
  | array .., _ => by simp [hasOpenSuffix, unqualified, isSuffixed]
  | function .., _ => by simp [hasOpenSuffix, unqualified, isSuffixed]

lemma isOnBase_prefixes : ∀ {c : Chain}, c.isOnBase → c.layout.inner.prefixes = []
  | named _, _ => by simp [layout]
  | qualified _ inner, h => by
    have hinner := isOnBase_prefixes (c := inner) h
    rw [layout]
    split
    · simp [Layout.qualify, Layout.addQualifier, hinner]
    · exact hinner
  | array _ element, h => isOnBase_prefixes (c := element) h
  | indirect .., h => by cases h
  | function .., h => by cases h

/-- Next to the name of a faithful chain stands its own mark, and an `&` only for an lvalue
reference. -/
lemma layout_prefixes : ∀ {c : Chain}, c.isFaithful →
    (∀ mark target, c = indirect mark target →
      ∃ rest, c.layout.inner.prefixes = ⟨mark, []⟩ :: rest) ∧
    (c.hasOpenSuffix = false → ∀ rest, c.layout.inner.prefixes = ⟨.reference, []⟩ :: rest →
      c.isLvalueReference)
  | named _, _ => ⟨by simp, by simp [layout]⟩
  | indirect mark target, h => by
    have hfirst : ∃ rest, (indirect mark target).layout.inner.prefixes = ⟨mark, []⟩ :: rest := by
      simp only [isFaithful, Bool.and_eq_true, Bool.or_eq_true, Bool.not_eq_true'] at h
      obtain ⟨⟨htarget, hgrouped⟩, hreference⟩ := h
      rw [layout]
      split
      · exact ⟨[], rfl⟩
      · rename_i hsuffixed
        have hopen : target.hasOpenSuffix = false := by
          rw [← Bool.not_eq_true, hasOpenSuffix_iff htarget, Bool.not_eq_true]
          exact hgrouped.resolve_left hsuffixed
        refine ⟨target.layout.inner.prefixes, ?_⟩
        by_cases hamp : ∃ rest, target.layout.inner.prefixes = ⟨.reference, []⟩ :: rest
        · obtain ⟨rest, hrest⟩ := hamp
          have hlvalue := (layout_prefixes htarget).2 hopen rest hrest
          cases mark <;> simp_all [Layout.mark, Layout.addMark, isReference]
        · exact Layout.addMark_of_plain fun rest heq => hamp ⟨rest, heq⟩
    refine ⟨?_, ?_⟩
    · rintro m t ⟨⟩
      exact hfirst
    · intro _ rest hrest
      obtain ⟨rest', hrest'⟩ := hfirst
      rw [hrest'] at hrest
      cases hrest
      rfl
  | qualified q inner, h => by
    refine ⟨by simp, ?_⟩
    intro _ rest hrest
    simp only [isFaithful, Bool.and_eq_true, Bool.or_eq_true] at h
    rw [layout] at hrest
    split at hrest
    · rename_i hindirect
      cases hprefixes : inner.layout.inner.prefixes <;>
        simp [Layout.qualify, Layout.addQualifier, hprefixes] at hrest
    · rename_i hindirect
      have hnone := isOnBase_prefixes (h.2.resolve_left hindirect)
      simp [Layout.precede, hnone] at hrest
  | array .., _ => ⟨by simp, by simp [hasOpenSuffix]⟩
  | function .., _ => ⟨by simp, by simp [hasOpenSuffix]⟩

/-! ### Faithful spellings and no others keep the type -/

lemma isOnBase_type (c : Chain) : c.type.isOnBase = c.isOnBase := by
  cases c with
  | named _ => rfl
  | indirect mark target => rfl
  | qualified q inner => rw [type, Ty.isOnBase_qualify, isOnBase_type inner, isOnBase]
  | array _ element => exact isOnBase_type element
  | function parameters result => rfl

/-- Every qualifier that belongs to the base type is spelled in front. -/
lemma baseQualifiers_type_le (c : Chain) : c.type.baseQualifiers ≤ c.layout.lead := by
  cases c with
  | named _ => exact Multiset.zero_le _
  | indirect mark target =>
    have htarget := baseQualifiers_type_le target
    rw [layout]
    split <;> exact htarget
  | qualified q inner =>
    have hinner := baseQualifiers_type_le inner
    rw [layout]
    split
    · rename_i hindirect
      cases inner with
      | indirect mark target => exact hinner
      | _ => cases hindirect
    · exact (Ty.baseQualifiers_qualify_le q _).trans (Multiset.cons_le_cons q hinner)
  | array _ element => exact baseQualifiers_type_le element
  | function _ result => exact baseQualifiers_type_le result

/-- With a suffix next to the name, no mark is the outermost layer. -/
lemma type_ne_indirect {l : Layout} (h : l.Valid) (hs : l.inner.suffixes ≠ [])
    (qs : Multiset Qualifier) (m : Mark) (target : Ty) : l.type ≠ .indirect qs m target := by
  obtain ⟨s, rest, hsuffixes⟩ := List.exists_cons_of_ne_nil hs
  obtain ⟨inner, htype⟩ := Layout.type_of_suffixes hsuffixes
  have hbehind := (h.inner s (by simp [hsuffixes])).behind
  rw [htype]
  cases hlayer : s.layer with
  | indirect qs m => exact absurd hlayer (hbehind qs m)
  | _ => simp [Layer.around]

lemma addMark_cases (m : Mark) (prefixes : List Prefix) :
    Layout.addMark m prefixes = ⟨m, []⟩ :: prefixes ∨
      ∃ last rest, Layout.addMark m prefixes = ⟨last, []⟩ :: rest ∧ last ≠ m := by
  unfold Layout.addMark
  split
  · cases m with
    | reference => exact Or.inr ⟨_, _, rfl, by simp⟩
    | rvalueReference => exact Or.inr ⟨_, _, rfl, by simp⟩
    | _ => exact Or.inl rfl
  · exact Or.inl rfl

/-- An open suffix of the target is read before a mark next to the name. -/
lemma layout_type_mark_open (mark : Mark) {target : Chain} (hsuffixed : target.isSuffixed = false)
    (hopen : target.hasOpenSuffix = true) :
    (indirect mark target).layout.type ≠ (indirect mark target).type ∧
      ¬ (indirect mark target).isFaithful := by
  constructor
  · have hvalid := (indirect mark target).layout_valid
    have hlayout : (indirect mark target).layout = target.layout.mark mark := by
      rw [layout, if_neg (by simp [hsuffixed])]
    rw [hlayout] at hvalid ⊢
    have hs : (target.layout.mark mark).inner.suffixes ≠ [] := by
      intro hnil
      rw [(layout_suffixes target).mp hnil] at hopen
      cases hopen
    exact type_ne_indirect hvalid hs 0 mark _
  · intro h
    simp only [isFaithful, Bool.and_eq_true] at h
    rw [hasOpenSuffix_iff h.1.1] at hopen
    simp [hsuffixed, hopen] at h

/-- A mark that does not run together with the next one is as faithful as its target. -/
lemma isFaithful_mark_iff {mark : Mark} {target : Chain} (hopen : target.hasOpenSuffix = false)
    (hplain : Layout.addMark mark target.layout.inner.prefixes =
      ⟨mark, []⟩ :: target.layout.inner.prefixes) :
    (indirect mark target).isFaithful ↔ target.isFaithful := by
  constructor
  · intro h
    simp only [isFaithful, Bool.and_eq_true] at h
    exact h.1.1
  · intro h
    have hunqualified : target.unqualified.isSuffixed = false := by
      rw [← Bool.not_eq_true, ← hasOpenSuffix_iff h, hopen]
      decide
    have hlvalue : (isReference mark && target.isLvalueReference) = false := by
      by_contra hboth
      simp only [Bool.not_eq_false, Bool.and_eq_true] at hboth
      obtain ⟨hreference, hlvalue⟩ := hboth
      cases target with
      | indirect m inner =>
        cases m <;> simp [isLvalueReference] at hlvalue
        obtain ⟨rest, hrest⟩ := (layout_prefixes h).1 _ _ rfl
        rw [hrest] at hplain
        cases mark <;> simp [isReference, Layout.addMark] at hreference hplain
      | _ => cases hlvalue
    simp [isFaithful, h, hunqualified, hlvalue]

lemma layout_type_indirect (mark : Mark) {target : Chain}
    (htarget : target.layout.type = target.type ↔ target.isFaithful) :
    (indirect mark target).layout.type = (indirect mark target).type ↔
      (indirect mark target).isFaithful := by
  cases hsuffixed : target.isSuffixed with
  | true =>
    have hlvalue : target.isLvalueReference = false := by
      cases target <;> simp_all [isSuffixed, isLvalueReference]
    rw [layout, if_pos hsuffixed, Layout.type_group, type]
    simp [isFaithful, hsuffixed, hlvalue, htarget]
  | false =>
    cases hopen : target.hasOpenSuffix with
    | true =>
      obtain ⟨htype, hfaithful⟩ := layout_type_mark_open mark hsuffixed hopen
      exact iff_of_false htype hfaithful
    | false =>
      have hs := (layout_suffixes target).mpr hopen
      have hlayout : (indirect mark target).layout = target.layout.mark mark := by
        rw [layout, if_neg (by simp [hsuffixed])]
      rcases addMark_cases mark target.layout.inner.prefixes with
        hplain | ⟨last, rest, hglued, hne⟩
      · rw [hlayout, Layout.type_mark hs hplain, type, isFaithful_mark_iff hopen hplain, ← htarget,
          Ty.indirect.injEq]
        simp
      · have htype := Layout.type_of_prefixes
          (show (target.layout.mark mark).inner.suffixes = [] from hs) hglued
        refine iff_of_false ?_ ?_
        · rw [hlayout, htype, type]
          simp [hne]
        · intro h
          obtain ⟨rest', hrest'⟩ := (layout_prefixes h).1 mark target rfl
          rw [hlayout] at hrest'
          cases hglued.symm.trans hrest'
          exact hne rfl

lemma layout_type_qualified (q : Qualifier) {inner : Chain}
    (hinner : inner.layout.type = inner.type ↔ inner.isFaithful) :
    (qualified q inner).layout.type = (qualified q inner).type ↔
      (qualified q inner).isFaithful := by
  cases hindirect : inner.isIndirect with
  | true =>
    have hvalid := (qualified q inner).layout_valid
    have hlayout : (qualified q inner).layout = inner.layout.qualify q := by
      rw [layout, if_pos hindirect]
    have hfaithful : (qualified q inner).isFaithful = inner.isFaithful := by
      simp [isFaithful, hindirect]
    rw [hlayout] at hvalid ⊢
    rw [hfaithful]
    cases hopen : inner.hasOpenSuffix with
    | true =>
      have hs : (inner.layout.qualify q).inner.suffixes ≠ [] := by
        intro hnil
        rw [(layout_suffixes inner).mp hnil] at hopen
        cases hopen
      cases inner with
      | indirect mark target =>
        refine iff_of_false (type_ne_indirect hvalid hs _ mark _) ?_
        intro h
        rw [hasOpenSuffix_iff h] at hopen
        cases hopen
      | _ => cases hindirect
    | false =>
      have hs := (layout_suffixes inner).mpr hopen
      have hends := layout_endsInMark hindirect
      unfold Layout.endsInMark at hends
      split at hends
      · rename_i m rest hprefixes
        rw [Layout.type_qualify hs hprefixes, type, ← hinner]
        exact ⟨Ty.qualify_injective q _ _, congrArg _⟩
      · cases hends
  | false =>
    rw [layout, if_neg (by simp [hindirect]), Layout.type_precede, type]
    cases hbase : inner.isOnBase with
    | true =>
      rw [Ty.qualify_of_isOnBase q _ (by rw [isOnBase_type, hbase])]
      simp only [isFaithful, hindirect, hbase, Bool.or_true, Bool.and_true]
      rw [← hinner]
      exact ⟨Ty.qualifyBase_injective q _ _, congrArg _⟩
    | false =>
      -- The base type gains a qualifier that belongs elsewhere.
      refine iff_of_false ?_ (by simp [isFaithful, hindirect, hbase])
      intro heq
      have hcount := congrArg Ty.baseQualifiers heq
      rw [Ty.baseQualifiers_qualifyBase, Layout.baseQualifiers_type,
        Ty.baseQualifiers_qualify q _ (by rw [isOnBase_type, hbase])] at hcount
      have hle := Multiset.card_le_card (baseQualifiers_type_le inner)
      rw [← hcount, Multiset.card_cons] at hle
      omega

mutual

/-- The layout of a chain gives it the type described exactly if it is faithful. -/
lemma layout_type_iff : ∀ c : Chain, c.layout.type = c.type ↔ c.isFaithful
  | named _ => by simp [layout, type, isFaithful, Layout.type, Layout.layers, Segment.layers]
  | indirect mark target => layout_type_indirect mark (layout_type_iff target)
  | qualified q inner => layout_type_qualified q (layout_type_iff inner)
  | array bound element => by
    have helement := layout_type_iff element
    have haround : (boundSuffix bound).layer.around element.layout.type =
        .array bound element.layout.type := by cases bound <;> rfl
    rw [layout, Layout.type_suffix, haround, type, isFaithful, Ty.array.injEq]
    simpa using helement
  | function parameters result => by
    have hparameters := layouts_type_iff parameters
    have hresult := layout_type_iff result
    rw [layout, Layout.type_suffix, type, isFaithful, parametersSuffix]
    simp only [Layer.around, Ty.function.injEq, true_and, Bool.and_eq_true]
    rw [hparameters, hresult]

lemma layouts_type_iff : ∀ parameters : List (Option Chain),
    (layouts parameters).map (Option.map Layout.type) = types parameters ↔
      areFaithful parameters
  | [] => by simp [layouts, types, areFaithful]
  | none :: rest => by
    have hrest := layouts_type_iff rest
    simpa [layouts, types, areFaithful] using hrest
  | some c :: rest => by
    have hc := layout_type_iff c
    have hrest := layouts_type_iff rest
    simp only [layouts, types, areFaithful, List.map_cons, Option.map_some, List.cons.injEq,
      Option.some.injEq, Bool.and_eq_true]
    rw [hc, hrest]

end

end HeaderRecovery.Debug.Chain

namespace HeaderRecovery.Debug.EntryTree
open Cpp

/-- For every type made of marks, qualifiers, arrays and functions around plain names, nested no
deeper than the spelling follows it: the spelling, declaring a name, is read as a declaration of
that name, and of the type that the entries describe exactly if their chain is faithful. -/
theorem spelling_read_back (t : EntryTree) (depth : Nat) (type : Option NodeId) (c : Chain)
    (x : Identifier) (h : t.chain? depth type = some c) :
    ∃ read, readBack ((t.spellFrom depth [] type).declare x.text) = some (x, read) ∧
      (read = c.type ↔ c.isFaithful) := by
  refine ⟨c.layout.type, ?_, c.layout_type_iff⟩
  rw [spellFrom_eq h (Nat.le_refl _) (by simp)]
  exact c.readBack_declare x

/-- A constant array of pointers, and a pointer to a constant array. -/
def constArrays : EntryTree :=
  let (b, root) := TreeBuilder.start.compileUnit "a.cpp" "/src"
  let (b, int) := b.baseType root "int" 4 5
  let array := fun (b : TreeBuilder) (element : NodeId) =>
    let (b, array) := b.child root .arrayType
    let (b, range) := (b.typeRef array element).child array .subrangeType
    (b.unsigned range .count 3, array)
  let (b, pointer) := b.modifier root .pointerType (some int)
  let (b, pointers) := array b pointer
  let (b, _) := b.modifier root .constType (some pointers)
  let (b, ints) := array b int
  let (b, constInts) := b.modifier root .constType (some ints)
  (b.modifier root .pointerType (some constInts)).1.tree

def intName : Name := ⟨[], ⟨"int", by decide⟩⟩

/-- The pointer in between is read as what it is. -/
theorem pointer_read_back : ∃ (c : Chain) (read : Ty),
    constArrays.chain? defaultDepth (some 2) = some c ∧
      readBack ((constArrays.spellFrom defaultDepth [] (some 2)).declare "x") =
        some (⟨"x", by decide⟩, read) ∧ read = c.type := by
  have hchain : constArrays.chain? defaultDepth (some 2) =
      some (.indirect .pointer (.named intName)) := by cbv
  obtain ⟨read, hread, hfaithful⟩ :=
    spelling_read_back constArrays defaultDepth (some 2) _ ⟨"x", by decide⟩ hchain
  exact ⟨_, read, hchain, hread, hfaithful.mpr rfl⟩

/-- The two types differ and have one spelling, which cannot be read as both. -/
theorem constArrays_misspelled : ∃ array pointer : Chain,
    constArrays.chain? defaultDepth (some 5) = some array ∧
      constArrays.chain? defaultDepth (some 9) = some pointer ∧ array.type ≠ pointer.type ∧
      (constArrays.spell (some 5)).declare "x" = "const int *x[3]" ∧
      (constArrays.spell (some 9)).declare "x" = "const int *x[3]" := by
  have harray : constArrays.chain? defaultDepth (some 5) =
      some (.qualified .const (.array (some 3) (.indirect .pointer (.named intName)))) := by cbv
  have hpointer : constArrays.chain? defaultDepth (some 9) =
      some (.indirect .pointer (.qualified .const (.array (some 3) (.named intName)))) := by cbv
  refine ⟨_, _, harray, hpointer, by simp [Chain.type, Ty.qualify], ?_, ?_⟩
  · rw [spell, spellFrom_eq harray (Nat.le_refl _) (by simp)]
    rfl
  · rw [spell, spellFrom_eq hpointer (Nat.le_refl _) (by simp)]
    rfl

end HeaderRecovery.Debug.EntryTree
