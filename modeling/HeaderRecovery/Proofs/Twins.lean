import Mathlib
import HeaderRecovery.Debug.TypeSpelling
import HeaderRecovery.Text.Find

/-!
Entries that say the same. Twins agree on everything but their keys: what one refers to, stands
in or contains is the twin of what the other does. Looking up an attribute and spelling a type
cannot tell twins apart, and a search that remembers where it was cannot either, since no entry
has two twins.
-/
namespace HeaderRecovery.Debug

/-- Values that say the same if what they refer to does. -/
def Value.Matches (t : EntryTree) (twin : NodeId → NodeId → Prop) : Value → Value → Prop
  | .ref k, .ref l =>
    Option.Rel twin (t.node? k) (t.node? l) ∧
      Option.Rel twin (t.follow (.ref k)) (t.follow (.ref l))
  | .signature s, .signature s' =>
    Option.Rel twin (t.signatureTarget? s) (t.signatureTarget? s')
  | v, w => v = w

namespace EntryTree

/-- Directly in a unit, and not named like the unit. -/
def Outermost (t : EntryTree) (node : NodeId) : Prop :=
  ∀ {owner}, t.parent? node = some owner → isScope (t.tag owner) = false ∧
    ∀ {name}, t.shortName? owner = some name →
      Text.upTo '<' name ≠ Text.upTo '<' ((t.shortName? node).getD "")

/-- Entries with their twins. -/
structure Twins (t : EntryTree) (twin : NodeId → NodeId → Prop) : Prop where
  unique : Relator.BiUnique twin
  tag : ∀ {n m}, twin n m → t.tag n = t.tag m
  parent : ∀ {n m}, twin n m →
    Option.Rel twin (t.parent? n) (t.parent? m) ∨ t.Outermost n ∧ t.Outermost m
  children : ∀ {n m}, twin n m → List.Forall₂ twin (t.children n) (t.children m)
  attributes : ∀ {n m}, twin n m →
    List.Forall₂ (fun a b => a.1 = b.1 ∧ a.2.Matches t twin b.2)
      (t.entry n).attributes.toList (t.entry m).attributes.toList

end EntryTree

section Lists
variable {α β : Type} {R : α → α → Prop}

lemma map_eq_of_rel {f : α → β} {l l' : List α} (h : List.Forall₂ R l l')
    (hf : ∀ {a b}, R a b → f a = f b) : l.map f = l'.map f := by
  induction h with
  | nil => rfl
  | cons hab _ ih => rw [List.map_cons, List.map_cons, hf hab, ih]

lemma filterMap_eq_of_rel {f g : α → Option β} {l l' : List α} (h : List.Forall₂ R l l')
    (hf : ∀ {a b}, R a b → f a = g b) : l.filterMap f = l'.filterMap g := by
  induction h with
  | nil => rfl
  | cons hab _ ih => rw [List.filterMap_cons, List.filterMap_cons, hf hab, ih]

lemma filter_rel {p q : α → Bool} {l l' : List α} (h : List.Forall₂ R l l')
    (hp : ∀ {a b}, R a b → p a = q b) : List.Forall₂ R (l.filter p) (l'.filter q) :=
  List.rel_filter (fun _ _ hab => Bool.eq_iff_iff.mp (hp hab)) h

lemma find?_rel {p : α → Bool} {l l' : List α} (h : List.Forall₂ R l l')
    (hp : ∀ {a b}, R a b → p a = p b) : Option.Rel R (l.find? p) (l'.find? p) := by
  induction h with
  | nil => exact .none
  | @cons a b _ _ hab _ ih =>
    rw [List.find?_cons, List.find?_cons, hp hab]
    cases p b with
    | true => exact .some hab
    | false => exact ih

end Lists

section Options
variable {α β γ δ : Type} {R : α → β → Prop} {S : γ → δ → Prop}

lemma rel_cases {a : Option α} {b : Option β} (h : Option.Rel R a b) :
    a = none ∧ b = none ∨ ∃ x y, a = some x ∧ b = some y ∧ R x y := by
  cases h with
  | none => exact Or.inl ⟨rfl, rfl⟩
  | some hxy => exact Or.inr ⟨_, _, rfl, rfl, hxy⟩

lemma bind_rel {f : α → Option γ} {g : β → Option δ} {a : Option α} {b : Option β}
    (h : Option.Rel R a b) (hf : ∀ {a b}, R a b → Option.Rel S (f a) (g b)) :
    Option.Rel S (a.bind f) (b.bind g) := by
  cases h with
  | none => exact .none
  | some hab => exact hf hab

lemma map_rel {f : α → γ} {g : β → δ} {a : Option α} {b : Option β} (h : Option.Rel R a b)
    (hf : ∀ {a b}, R a b → S (f a) (g b)) : Option.Rel S (a.map f) (b.map g) := by
  cases h with
  | none => exact .none
  | some hab => exact .some (hf hab)

lemma filter_option_rel {p : α → Bool} {q : β → Bool} {a : Option α} {b : Option β}
    (h : Option.Rel R a b) (hp : ∀ {a b}, R a b → p a = q b) :
    Option.Rel R (a.filter p) (b.filter q) := by
  cases h with
  | none => exact .none
  | @some a b hab =>
    rw [Option.filter_some, Option.filter_some, hp hab]
    split
    · exact .some hab
    · exact .none

lemma bind_eq_of_rel {f : α → Option γ} {g : β → Option γ} {a : Option α} {b : Option β}
    (h : Option.Rel R a b) (hf : ∀ {a b}, R a b → f a = g b) : a.bind f = b.bind g := by
  cases h with
  | none => rfl
  | some hab => exact hf hab

lemma map_option_eq_of_rel {f : α → γ} {g : β → γ} {a : Option α} {b : Option β}
    (h : Option.Rel R a b) (hf : ∀ {a b}, R a b → f a = g b) : a.map f = b.map g := by
  cases h with
  | none => rfl
  | some hab => exact congrArg some (hf hab)

lemma isSome_eq_of_rel {a : Option α} {b : Option β} (h : Option.Rel R a b) :
    a.isSome = b.isSome := by
  cases h <;> rfl

lemma foldlM_rel {α' : Type} {Q : α → α' → Prop} {f : γ → α → Option γ} {g : δ → α' → Option δ}
    {l : List α} {l' : List α'} (h : List.Forall₂ Q l l')
    (step : ∀ {c d a b}, S c d → Q a b → Option.Rel S (f c a) (g d b)) {c : γ} {d : δ}
    (hcd : S c d) : Option.Rel S (l.foldlM f c) (l'.foldlM g d) := by
  induction h generalizing c d with
  | nil => exact .some hcd
  | @cons a b _ _ hab _ ih =>
    rw [List.foldlM_cons, List.foldlM_cons]
    rcases rel_cases (step hcd hab) with ⟨hf, hg⟩ | ⟨c', d', hf, hg, hcd'⟩
    · rw [hf, hg]
      exact .none
    · rw [hf, hg]
      exact ih hcd'

end Options

namespace Value

variable {t : EntryTree} {twin : NodeId → NodeId → Prop} {v w : Value}

lemma Matches.follow (h : v.Matches t twin w) : Option.Rel twin (t.follow v) (t.follow w) := by
  cases v <;> cases w <;> simp only [Matches, reduceCtorEq] at h
  case ref.ref => exact h.2
  case signature.signature => exact h
  all_goals exact .none

lemma Matches.string? (h : v.Matches t twin w) : v.string? = w.string? := by
  cases v <;> cases w <;> simp only [Matches, reduceCtorEq] at h <;> first | rfl | rw [h]

lemma Matches.unsigned? (h : v.Matches t twin w) : v.unsigned? = w.unsigned? := by
  cases v <;> cases w <;> simp only [Matches, reduceCtorEq] at h <;> first | rfl | rw [h]

end Value

namespace EntryTree.Twins

variable {t : EntryTree} {twin : NodeId → NodeId → Prop} {n m : NodeId}

lemma attr? (h : t.Twins twin) (hnm : twin n m) (attr : Attribute) :
    Option.Rel (Value.Matches t twin) (t.attr? n attr) (t.attr? m attr) := by
  unfold EntryTree.attr?
  have hfound := find?_rel (h.attributes hnm) (p := fun a => a.1 = attr)
    (by intro a b hab; rw [hab.1])
  exact map_rel hfound fun hab => hab.2

lemma hasAttr (h : t.Twins twin) (hnm : twin n m) (attr : Attribute) :
    t.hasAttr n attr = t.hasAttr m attr := isSome_eq_of_rel (h.attr? hnm attr)

lemma unsigned? (h : t.Twins twin) (hnm : twin n m) (attr : Attribute) :
    t.unsigned? n attr = t.unsigned? m attr :=
  bind_eq_of_rel (h.attr? hnm attr) fun hvw => hvw.unsigned?

lemma flag (h : t.Twins twin) (hnm : twin n m) (attr : Attribute) :
    t.flag n attr = t.flag m attr := by
  unfold EntryTree.flag
  rcases rel_cases (h.attr? hnm attr) with ⟨hn, hm⟩ | ⟨v, w, hn, hm, hvw⟩
  · rw [hn, hm]
  · rw [hn, hm]
    cases v <;> cases w <;> simp only [Value.Matches, reduceCtorEq] at hvw <;>
      first | rfl | rw [hvw]

lemma reference? (h : t.Twins twin) (hnm : twin n m) (attr : Attribute) :
    Option.Rel twin (t.reference? n attr) (t.reference? m attr) :=
  bind_rel (h.attr? hnm attr) fun hvw => hvw.follow

/-- What twins stand for are twins. -/
lemma resolve (h : t.Twins twin) (hnm : twin n m) : twin (t.resolve n) (t.resolve m) := by
  have hor : ∀ {a b : Option NodeId}, Option.Rel twin a b → twin (a.getD n) (b.getD m) := by
    intro a b hab
    cases hab with
    | none => exact hnm
    | some hab => exact hab
  unfold EntryTree.resolve
  rcases rel_cases (h.attr? hnm .signature) with ⟨hn, hm⟩ | ⟨v, w, hn, hm, hvw⟩
  · rw [hn, hm]
    exact hnm
  · rw [hn, hm]
    cases v <;> cases w <;> simp only [Value.Matches, reduceCtorEq] at hvw
    case ref.ref => exact hor hvw.1
    case signature.signature => exact hor hvw
    all_goals exact hnm

lemma target? (h : t.Twins twin) (hnm : twin n m) (attr : Attribute) :
    Option.Rel twin (t.target? n attr) (t.target? m attr) :=
  map_rel (h.reference? hnm attr) h.resolve

lemma linked (h : t.Twins twin) (hnm : twin n m) :
    List.Forall₂ twin (t.linked n) (t.linked m) := by
  unfold EntryTree.linked
  refine List.rel_filterMap (R := Eq) ?_ (List.forall₂_same.mpr fun _ _ => rfl)
  rintro attr - rfl
  exact h.reference? hnm attr

/-- The search passes over the same places, since an entry was met exactly if its twin was. -/
lemma chainFrom (h : t.Twins twin) (fuel : Nat) {seen seen' stack stack' : List NodeId}
    (hseen : List.Forall₂ twin seen seen') (hstack : List.Forall₂ twin stack stack') :
    List.Forall₂ twin (t.chainFrom fuel seen stack) (t.chainFrom fuel seen' stack') := by
  induction fuel generalizing seen seen' stack stack' with
  | zero => simp [EntryTree.chainFrom]
  | succ fuel ih =>
    cases hstack with
    | nil => simp [EntryTree.chainFrom]
    | @cons n m rest rest' hnm hrest =>
      have hmem : n ∈ seen ↔ m ∈ seen' := List.rel_mem h.unique hnm hseen
      simp only [EntryTree.chainFrom, hmem]
      split
      · exact ih hseen hrest
      · exact .cons hnm (ih (.cons hnm hseen) (List.rel_append (h.linked hnm) hrest))

lemma declarationChain (h : t.Twins twin) (hnm : twin n m) :
    List.Forall₂ twin (t.declarationChain n) (t.declarationChain m) :=
  h.chainFrom _ .nil (.cons hnm .nil)

lemma attrRecursive? (h : t.Twins twin) (hnm : twin n m) (attr : Attribute) :
    Option.Rel (Value.Matches t twin) (t.attrRecursive? n attr) (t.attrRecursive? m attr) := by
  unfold EntryTree.attrRecursive?
  have hchain := h.declarationChain hnm
  generalize t.declarationChain n = chain, t.declarationChain m = chain' at hchain
  induction hchain with
  | nil => exact .none
  | cons hab _ ih =>
    rw [List.findSome?_cons, List.findSome?_cons]
    rcases rel_cases (h.attr? hab attr) with ⟨hn, hm⟩ | ⟨v, w, hn, hm, hvw⟩
    · rw [hn, hm]
      exact ih
    · rw [hn, hm]
      exact .some hvw

lemma shortName? (h : t.Twins twin) (hnm : twin n m) : t.shortName? n = t.shortName? m :=
  bind_eq_of_rel (h.attrRecursive? hnm .name) fun hvw => hvw.string?

lemma linkageName? (h : t.Twins twin) (hnm : twin n m) :
    t.linkageName? n = t.linkageName? m := by
  have hvendor := h.attrRecursive? hnm .vendorLinkageName
  have hname : Option.Rel (Value.Matches t twin)
      ((t.attrRecursive? n .linkageName).or (t.attrRecursive? n .vendorLinkageName))
      ((t.attrRecursive? m .linkageName).or (t.attrRecursive? m .vendorLinkageName)) := by
    rcases rel_cases (h.attrRecursive? hnm .linkageName) with ⟨hn, hm⟩ | ⟨v, w, hn, hm, hvw⟩
    · rw [hn, hm]
      exact hvendor
    · rw [hn, hm]
      exact .some hvw
  exact bind_eq_of_rel hname fun hvw => hvw.string?

lemma declaredFile? (h : t.Twins twin) (hnm : twin n m) :
    t.declaredFile? n = t.declaredFile? m :=
  bind_eq_of_rel (h.attrRecursive? hnm .declaredFile) fun hvw => hvw.string?

lemma declaredLine? (h : t.Twins twin) (hnm : twin n m) :
    t.declaredLine? n = t.declaredLine? m :=
  bind_eq_of_rel (h.attrRecursive? hnm .declaredLine) fun hvw => hvw.unsigned?

lemma referenceRecursive? (h : t.Twins twin) (hnm : twin n m) (attr : Attribute) :
    Option.Rel twin (t.referenceRecursive? n attr) (t.referenceRecursive? m attr) :=
  bind_rel (h.attrRecursive? hnm attr) fun hvw => hvw.follow

/-! Spelling -/

lemma scopes_outermost (h : t.Outermost n) (fuel : Nat) :
    (t.ancestorsFrom fuel n).takeWhile (fun p => isScope (t.tag p)) = [] := by
  cases fuel with
  | zero => rfl
  | succ fuel =>
    rw [EntryTree.ancestorsFrom]
    cases hparent : t.parent? n with
    | none => rfl
    | some owner => simp [(h hparent).1]

/-- The scopes around twins are twins. -/
lemma scopes (h : t.Twins twin) (fuel : Nat) (hnm : twin n m) :
    List.Forall₂ twin ((t.ancestorsFrom fuel n).takeWhile fun p => isScope (t.tag p))
      ((t.ancestorsFrom fuel m).takeWhile fun p => isScope (t.tag p)) := by
  induction fuel generalizing n m with
  | zero => exact .nil
  | succ fuel ih =>
    rcases h.parent hnm with hrel | ⟨hn, hm⟩
    · rw [EntryTree.ancestorsFrom, EntryTree.ancestorsFrom]
      rcases rel_cases hrel with ⟨hn, hm⟩ | ⟨p, q, hn, hm, hparent⟩
      · rw [hn, hm]
        exact .nil
      · rw [hn, hm, List.takeWhile_cons, List.takeWhile_cons, h.tag hparent]
        split
        · exact .cons hparent (ih hparent)
        · exact .nil
    · rw [scopes_outermost hn, scopes_outermost hm]
      exact .nil

lemma localName (h : t.Twins twin) (hnm : twin n m) : t.localName n = t.localName m := by
  rw [EntryTree.localName, EntryTree.localName, h.shortName? hnm, h.tag hnm]

lemma qualifiedName (h : t.Twins twin) (hnm : twin n m) :
    t.qualifiedName n = t.qualifiedName m := by
  have hresolved := h.resolve hnm
  have hscopes := h.scopes t.size hresolved
  have hnames := map_eq_of_rel (List.rel_reverse (.cons hresolved hscopes)) h.localName
  exact congrArg ("::".intercalate ·) hnames

lemma targetIs (h : t.Twins twin) (hnm : twin n m) (p : Tag → Bool) :
    t.targetIs n p = t.targetIs m p := by
  unfold EntryTree.targetIs
  rcases rel_cases (h.target? hnm .type) with ⟨hn, hm⟩ | ⟨a, b, hn, hm, htype⟩
  · rw [hn, hm]
  · simp only [hn, hm, h.tag htype]

lemma elementCount? (h : t.Twins twin) (hnm : twin n m) :
    t.elementCount? n = t.elementCount? m := by
  unfold EntryTree.elementCount?
  rw [h.unsigned? hnm]
  split
  · rfl
  · rcases rel_cases (h.attr? hnm .upperBound) with ⟨hn, hm⟩ | ⟨v, w, hn, hm, hvw⟩
    · rw [hn, hm]
    · rw [hn, hm]
      cases v <;> cases w <;> simp only [Value.Matches, reduceCtorEq] at hvw <;>
        first | rfl | rw [hvw]

lemma dimensions (h : t.Twins twin) (hnm : twin n m) : t.dimensions n = t.dimensions m := by
  have hranges := filter_rel (h.children hnm) (p := fun c => t.tag c = .subrangeType)
    (by intro a b hab; rw [h.tag hab])
  have htexts := map_eq_of_rel hranges (f := t.dimension) (by
    intro a b hab
    rw [EntryTree.dimension, EntryTree.dimension, h.elementCount? hab])
  unfold EntryTree.dimensions
  generalize (t.children n).filter _ = ranges, (t.children m).filter _ = ranges' at hranges htexts
  cases hranges with
  | nil => rfl
  | cons => exact congrArg String.join htexts

section Level
variable {spell spell' : Option NodeId → Declarator}

lemma parameterList (h : t.Twins twin) (hnm : twin n m)
    (hspell : ∀ {a b}, Option.Rel twin a b → spell a = spell' b) :
    t.parameterList spell n = t.parameterList spell' m := by
  unfold EntryTree.parameterList
  congr 1
  refine filterMap_eq_of_rel (h.children hnm) ?_
  intro a b hab
  rw [h.tag hab, h.flag hab, hspell (h.reference? hab .type)]

/-- One level of the spelling, if the levels inside are spelled alike. -/
lemma spellLevel (h : t.Twins twin) (hnm : twin n m)
    (hspell : ∀ {a b}, Option.Rel twin a b → spell a = spell' b) :
    t.spellLevel spell n = t.spellLevel spell' m := by
  have hinner := hspell (h.reference? hnm .type)
  have howner := map_option_eq_of_rel (h.reference? hnm .containingType) h.qualifiedName
  simp only [EntryTree.spellLevel, EntryTree.pointerTo, EntryTree.qualified, hinner, howner,
    h.tag hnm, h.targetIs hnm, h.dimensions hnm, h.parameterList hnm hspell, h.shortName? hnm,
    h.qualifiedName hnm]

end Level

lemma spellFrom (h : t.Twins twin) (depth : Nat) {path path' : List NodeId}
    (hpath : List.Forall₂ twin path path') {a b : Option NodeId} (hab : Option.Rel twin a b) :
    t.spellFrom depth path a = t.spellFrom depth path' b := by
  induction depth generalizing path path' a b with
  | zero =>
    cases hab with
    | none => rfl
    | some hab => simp only [EntryTree.spellFrom, h.localName (h.resolve hab)]
  | succ depth ih =>
    cases hab with
    | none => rfl
    | @some n m hnm =>
      have hresolved := h.resolve hnm
      have hmem : t.resolve n ∈ path ↔ t.resolve m ∈ path' :=
        List.rel_mem h.unique hresolved hpath
      have hlevel := h.spellLevel hresolved (ih (.cons hresolved hpath))
      simp only [EntryTree.spellFrom, hmem, h.localName hresolved, hlevel]

lemma spell (h : t.Twins twin) {a b : Option NodeId} (hab : Option.Rel twin a b) :
    t.spell a = t.spell b := h.spellFrom _ .nil hab

lemma spellTypeOf (h : t.Twins twin) (hnm : twin n m) : t.spellTypeOf n = t.spellTypeOf m :=
  h.spell (h.reference? hnm .type)

end EntryTree.Twins
end HeaderRecovery.Debug
