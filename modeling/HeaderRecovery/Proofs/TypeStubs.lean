import HeaderRecovery.Debug.Builder
import HeaderRecovery.Proofs.Twins
import HeaderRecovery.Declaration.Reading

/-!
Types that are reached through a stub. A compile unit may refer to a type of a type unit directly
or to a declaration of its own that bears the type's signature. Whatever reads a reference to a
type looks at what the stub stands for; so it makes no difference which way a reference goes, to
any spelling of a type and to any declaration that is read.
-/
namespace HeaderRecovery.Debug

/-- The attributes that lead to a type or to what is imported. -/
def Attribute.isTypeLink : Attribute → Bool
  | .type | .containingType | .importTarget => true
  | _ => false

namespace EntryTree

/-- An entry that stands for another, which itself stands for no further one. -/
structure IsStubFor (t : EntryTree) (stub node : NodeId) : Prop where
  resolve : t.resolve stub = node
  unsigned : t.hasAttr node .signature = false

/-- The same value, or a link to a stub in place of a link to what the stub stands for. -/
def SameLink (t : EntryTree) (attr : Attribute) (v w : Value) : Prop :=
  v = w ∨ attr.isTypeLink = true ∧ ∃ node stub, t.follow v = some node ∧ t.follow w = some stub ∧
    t.IsStubFor stub node

/-- The same entry, apart from links that lead through stubs. -/
structure SameEntry (t : EntryTree) (e e' : Entry) : Prop where
  key : e'.key = e.key
  unit : e'.unit = e.unit
  tag : e'.tag = e.tag
  parent : e'.parent = e.parent
  children : e'.children = e.children
  attributes : List.Forall₂ (fun a b => a.1 = b.1 ∧ t.SameLink a.1 a.2 b.2)
    e.attributes.toList e'.attributes.toList

lemma SameEntry.refl (t : EntryTree) (e : Entry) : t.SameEntry e e :=
  ⟨rfl, rfl, rfl, rfl, rfl, List.forall₂_same.mpr fun _ _ => ⟨rfl, Or.inl rfl⟩⟩

/-- Two trees that differ in nothing but links, some of which lead through stubs in the second. -/
structure Redirected (t t' : EntryTree) : Prop where
  units : t'.units = t.units
  byKey : t'.byKey = t.byKey
  signatures : t'.signatures = t.signatures
  entries : List.Forall₂ t.SameEntry t.entries.toList t'.entries.toList

namespace Redirected

variable {t t' : EntryTree}

/-! What both trees have -/

lemma size (h : t.Redirected t') : t'.size = t.size := h.entries.length_eq.symm

lemma entry (h : t.Redirected t') (n : NodeId) : t.SameEntry (t.entry n) (t'.entry n) := by
  unfold EntryTree.entry
  rw [Array.getD_eq_getD_getElem?, Array.getD_eq_getD_getElem?, ← Array.getElem?_toList,
    ← Array.getElem?_toList]
  have hentries := h.entries
  generalize t.entries.toList = l, t'.entries.toList = l' at hentries
  induction hentries generalizing n with
  | nil => exact .refl t _
  | cons hab _ ih =>
    cases n with
    | zero => exact hab
    | succ n => exact ih n

lemma key (h : t.Redirected t') : t'.key = t.key := funext fun n => (h.entry n).key

lemma tag (h : t.Redirected t') : t'.tag = t.tag := funext fun n => (h.entry n).tag

lemma parent? (h : t.Redirected t') : t'.parent? = t.parent? := funext fun n => (h.entry n).parent

lemma children (h : t.Redirected t') : t'.children = t.children :=
  funext fun n => congrArg Array.toList (h.entry n).children

lemma node? (h : t.Redirected t') : t'.node? = t.node? := by
  unfold EntryTree.node?
  rw [h.byKey]

lemma signatureTarget? (h : t.Redirected t') : t'.signatureTarget? = t.signatureTarget? := by
  unfold EntryTree.signatureTarget?
  rw [h.signatures, h.node?]

lemma follow (h : t.Redirected t') : t'.follow = t.follow := by
  unfold EntryTree.follow
  rw [h.node?, h.signatureTarget?]

/-- The first value of an attribute is the same or leads through a stub. -/
lemma attr?_rel (h : t.Redirected t') (n : NodeId) (attr : Attribute) :
    Option.Rel (t.SameLink attr) (t.attr? n attr) (t'.attr? n attr) := by
  have hattributes := (h.entry n).attributes
  unfold EntryTree.attr?
  generalize (t.entry n).attributes.toList = l, (t'.entry n).attributes.toList = l'
    at hattributes
  induction hattributes with
  | nil => exact .none
  | @cons a b _ _ hab _ ih =>
    rw [List.find?_cons, List.find?_cons, ← hab.1]
    by_cases hattr : a.1 = attr
    · subst hattr
      simpa using Option.Rel.some hab.2
    · simpa [hattr] using ih

variable {attr : Attribute}

lemma attr? (h : t.Redirected t') (n : NodeId) (hattr : attr.isTypeLink = false) :
    t'.attr? n attr = t.attr? n attr := by
  have hrel := h.attr?_rel n attr
  rcases rel_cases hrel with ⟨hn, hn'⟩ | ⟨v, w, hn, hn', hlink⟩
  · rw [hn, hn']
  · rcases hlink with rfl | ⟨hlink, -⟩
    · rw [hn, hn']
    · rw [hattr] at hlink
      cases hlink

lemma hasAttr (h : t.Redirected t') (n : NodeId) (attr : Attribute) :
    t'.hasAttr n attr = t.hasAttr n attr :=
  (isSome_eq_of_rel (h.attr?_rel n attr)).symm

lemma unsigned? (h : t.Redirected t') (n : NodeId) (hattr : attr.isTypeLink = false) :
    t'.unsigned? n attr = t.unsigned? n attr := by
  rw [EntryTree.unsigned?, EntryTree.unsigned?, h.attr? n hattr]

lemma flag (h : t.Redirected t') (n : NodeId) (hattr : attr.isTypeLink = false) :
    t'.flag n attr = t.flag n attr := by
  rw [EntryTree.flag, EntryTree.flag, h.attr? n hattr]

lemma resolve (h : t.Redirected t') : t'.resolve = t.resolve := by
  funext n
  rw [EntryTree.resolve, EntryTree.resolve, h.attr? n rfl, h.signatureTarget?, h.node?]

/-! Names and places of declarations -/

lemma declarationChain (h : t.Redirected t') : t'.declarationChain = t.declarationChain := by
  have hlinked : t'.linked = t.linked := by
    funext n
    refine List.filterMap_congr fun attr hattr => ?_
    have hplain : attr.isTypeLink = false := by
      rcases List.mem_pair.mp hattr with rfl | rfl <;> rfl
    rw [EntryTree.reference?, EntryTree.reference?, h.follow, h.attr? n hplain]
  have hchain : t'.chainFrom = t.chainFrom := by
    funext fuel seen stack
    induction fuel generalizing seen stack with
    | zero => rfl
    | succ fuel ih =>
      cases stack with
      | nil => rfl
      | cons n rest => simp only [EntryTree.chainFrom, hlinked, ih]
  unfold EntryTree.declarationChain
  rw [hchain, h.size]

lemma attrRecursive? (h : t.Redirected t') (n : NodeId) (hattr : attr.isTypeLink = false) :
    t'.attrRecursive? n attr = t.attrRecursive? n attr := by
  have hown : (t'.attr? · attr) = (t.attr? · attr) := funext fun m => h.attr? m hattr
  rw [EntryTree.attrRecursive?, EntryTree.attrRecursive?, h.declarationChain, hown]

lemma shortName? (h : t.Redirected t') : t'.shortName? = t.shortName? :=
  funext fun n => congrArg (·.bind Value.string?) (h.attrRecursive? n rfl)

lemma linkageName? (h : t.Redirected t') : t'.linkageName? = t.linkageName? := by
  funext n
  rw [EntryTree.linkageName?, EntryTree.linkageName?, h.attrRecursive? n rfl,
    h.attrRecursive? n rfl]

lemma declaredFile? (h : t.Redirected t') : t'.declaredFile? = t.declaredFile? :=
  funext fun n => congrArg (·.bind Value.string?) (h.attrRecursive? n rfl)

lemma declaredLine? (h : t.Redirected t') : t'.declaredLine? = t.declaredLine? :=
  funext fun n => congrArg (·.bind Value.unsigned?) (h.attrRecursive? n rfl)

/-! References to types -/

/-- References that stand for one entry. -/
def SameTarget (t : EntryTree) (a b : NodeId) : Prop := t.resolve a = t.resolve b

lemma follow_rel {v w : Value} (hlink : t.SameLink attr v w) :
    Option.Rel (SameTarget t) (t.follow v) (t.follow w) := by
  rcases hlink with rfl | ⟨-, node, stub, hnode, hstub, hstands⟩
  · cases t.follow v with
    | none => exact .none
    | some n => exact .some rfl
  · have hself : t.resolve node = node := by
      have hnone : t.attr? node .signature = none := by
        simpa [EntryTree.hasAttr] using hstands.unsigned
      rw [EntryTree.resolve, hnone]
    rw [hnode, hstub]
    exact .some (hself.trans hstands.resolve.symm)

lemma reference? (h : t.Redirected t') (n : NodeId) (attr : Attribute) :
    Option.Rel (SameTarget t) (t.reference? n attr) (t'.reference? n attr) := by
  unfold EntryTree.reference?
  rw [h.follow]
  exact bind_rel (h.attr?_rel n attr) follow_rel

lemma target? (h : t.Redirected t') : t'.target? = t.target? := by
  funext n attr
  rw [EntryTree.target?, EntryTree.target?, h.resolve]
  exact (map_option_eq_of_rel (h.reference? n attr) id).symm

lemma referenceRecursive? (h : t.Redirected t') (n : NodeId) (attr : Attribute) :
    Option.Rel (SameTarget t) (t.referenceRecursive? n attr) (t'.referenceRecursive? n attr) := by
  unfold EntryTree.referenceRecursive? EntryTree.attrRecursive?
  rw [h.follow, h.declarationChain]
  generalize t.declarationChain n = chain
  induction chain with
  | nil => exact .none
  | cons m rest ih =>
    rw [List.findSome?_cons, List.findSome?_cons]
    rcases rel_cases (h.attr?_rel m attr) with ⟨hm, hm'⟩ | ⟨v, w, hm, hm', hlink⟩
    · rw [hm, hm']
      exact ih
    · rw [hm, hm']
      exact follow_rel hlink

/-! Spelling -/

lemma localName (h : t.Redirected t') : t'.localName = t.localName := by
  unfold EntryTree.localName
  rw [h.shortName?, h.tag]

lemma ancestors (h : t.Redirected t') : t'.ancestors = t.ancestors := by
  have hfrom : t'.ancestorsFrom = t.ancestorsFrom := by
    funext fuel n
    induction fuel generalizing n with
    | zero => rfl
    | succ fuel ih => simp only [EntryTree.ancestorsFrom, h.parent?, ih]
  unfold EntryTree.ancestors
  rw [hfrom, h.size]

lemma qualifiedName (h : t.Redirected t') : t'.qualifiedName = t.qualifiedName := by
  unfold EntryTree.qualifiedName
  rw [h.resolve, h.ancestors, h.tag, h.localName]

lemma targetIs (h : t.Redirected t') : t'.targetIs = t.targetIs := by
  unfold EntryTree.targetIs
  rw [h.target?, h.tag]

lemma dimensions (h : t.Redirected t') : t'.dimensions = t.dimensions := by
  have hcount : t'.elementCount? = t.elementCount? := by
    funext n
    rw [EntryTree.elementCount?, EntryTree.elementCount?, h.unsigned? n rfl, h.attr? n rfl]
  have hdimension : t'.dimension = t.dimension := by
    unfold EntryTree.dimension
    rw [hcount]
  unfold EntryTree.dimensions
  rw [h.children, h.tag, hdimension]

section Level
variable {spell spell' : Option NodeId → Declarator}

lemma parameterList (h : t.Redirected t')
    (hspell : ∀ {a b}, Option.Rel (SameTarget t) a b → spell a = spell' b) (n : NodeId) :
    t'.parameterList spell' n = t.parameterList spell n := by
  unfold EntryTree.parameterList
  rw [h.children]
  congr 2
  funext c
  rw [h.tag, h.flag c rfl, hspell (h.reference? c .type)]

/-- The class of a member pointer is spelled by the name of its definition. -/
lemma owner (h : t.Redirected t') (n : NodeId) :
    (t'.reference? n .containingType).map t.qualifiedName =
      (t.reference? n .containingType).map t.qualifiedName := by
  refine (map_option_eq_of_rel (h.reference? n .containingType) ?_).symm
  intro a b hab
  unfold SameTarget at hab
  rw [EntryTree.qualifiedName, EntryTree.qualifiedName, hab]

/-- One level of the spelling, if the levels inside do not tell stubs and definitions apart. -/
lemma spellLevel (h : t.Redirected t')
    (hspell : ∀ {a b}, Option.Rel (SameTarget t) a b → spell a = spell' b) (n : NodeId) :
    t'.spellLevel spell' n = t.spellLevel spell n := by
  have hpointerTo : t'.pointerTo = t.pointerTo := by
    unfold EntryTree.pointerTo
    rw [h.targetIs]
  have hqualified : t'.qualified = t.qualified := by
    unfold EntryTree.qualified
    rw [h.targetIs]
  have hinner := (hspell (h.reference? n .type)).symm
  simp only [EntryTree.spellLevel, h.tag, hinner, h.owner, hpointerTo, hqualified, h.dimensions,
    h.parameterList hspell, h.shortName?, h.qualifiedName]

end Level

/-- Types are spelled the same, whichever way they are reached. -/
lemma spellFrom (h : t.Redirected t') (depth : Nat) (path : List NodeId) {a b : Option NodeId}
    (hab : Option.Rel (SameTarget t) a b) :
    t.spellFrom depth path a = t'.spellFrom depth path b := by
  induction depth generalizing path a b with
  | zero =>
    cases hab with
    | none => rfl
    | some hab =>
      unfold SameTarget at hab
      rw [EntryTree.spellFrom, EntryTree.spellFrom, h.resolve, h.localName, hab]
  | succ depth ih =>
    cases hab with
    | none => rfl
    | some hab =>
      unfold SameTarget at hab
      rw [EntryTree.spellFrom, EntryTree.spellFrom, h.resolve, h.localName, hab]
      split
      · rfl
      · exact (h.spellLevel (fun hab => ih _ hab) _).symm

lemma spell (h : t.Redirected t') : t'.spell = t.spell := by
  funext type
  refine (h.spellFrom _ _ ?_).symm
  cases type with
  | none => exact .none
  | some n => exact .some rfl

lemma spellTypeOf (h : t.Redirected t') : t'.spellTypeOf = t.spellTypeOf :=
  funext fun n => (h.spellFrom _ _ (h.reference? n .type)).symm

/-! Reading declarations -/

lemma nameOf (h : t.Redirected t') : HeaderRecovery.nameOf t' = HeaderRecovery.nameOf t := by
  unfold HeaderRecovery.nameOf
  rw [h.shortName?]

lemma placement (h : t.Redirected t') : Placement.ofEntry t' = Placement.ofEntry t := by
  funext n
  rw [Placement.ofEntry, Placement.ofEntry, h.unsigned? n rfl]

lemma clause? (h : t.Redirected t') : Template.clause? t' = Template.clause? t := by
  have hparameter : Template.parameter? t' = Template.parameter? t := by
    unfold Template.parameter?
    rw [h.nameOf, h.tag, h.spellTypeOf]
  unfold Template.clause?
  rw [h.children, hparameter]

lemma parameter (h : t.Redirected t') : Parameter.ofEntry t' = Parameter.ofEntry t := by
  unfold Parameter.ofEntry
  rw [h.tag, h.placement, h.nameOf, h.spellTypeOf]

lemma enumeration (h : t.Redirected t') : Enumeration.ofEntry t' = Enumeration.ofEntry t := by
  funext n
  have henumerator : Enumeration.enumerator? t' = Enumeration.enumerator? t := by
    funext c
    rw [Enumeration.enumerator?, Enumeration.enumerator?, h.tag, h.attr? c rfl, h.nameOf]
  have hbase : (t'.reference? n .type).map (fun type => (t'.spell (some type)).joined) =
      (t.reference? n .type).map fun type => (t.spell (some type)).joined := by
    refine (map_option_eq_of_rel (h.reference? n .type) fun hab => ?_).symm
    exact congrArg Declarator.joined (h.spellFrom _ _ (.some hab))
  simp +decide only [Enumeration.ofEntry, h.placement, h.nameOf, hbase, h.children, henumerator,
    h.flag]

lemma field (h : t.Redirected t') : Field.ofEntry t' = Field.ofEntry t := by
  funext definition n
  have hlocation : Field.location? t' n = Field.location? t n := by
    rw [Field.location?, Field.location?, h.unsigned? n rfl, h.hasAttr, h.unsigned? n rfl]
  simp +decide only [Field.ofEntry, h.placement, h.nameOf, h.spellTypeOf, hlocation, h.unsigned?,
    h.attr?, h.tag, h.flag]

lemma scopeVariable (h : t.Redirected t') : Field.ofVariable t' = Field.ofVariable t := by
  funext definition n
  simp +decide only [Field.ofVariable, h.field, h.flag]

lemma pointsToConst (h : t.Redirected t') :
    Function.pointsToConst t' = Function.pointsToConst t := by
  unfold Function.pointsToConst
  rw [h.target?, h.tag]

lemma this? (h : t.Redirected t') : Function.this? t' = Function.this? t := by
  funext n
  simp +decide only [Function.this?, h.children, h.tag, h.flag]

lemma function (h : t.Redirected t') : Function.ofEntry t' = Function.ofEntry t := by
  funext isMember n
  have hparameter : Function.parameter? t' = Function.parameter? t := by
    funext c
    rw [Function.parameter?, Function.parameter?, h.tag, h.flag c rfl, h.parameter]
  have hstructor : Function.isStructor t' = Function.isStructor t := by
    unfold Function.isStructor
    rw [h.parent?, h.shortName?]
  have hreturn : t'.spell (t'.referenceRecursive? n .type) =
      t.spell (t.referenceRecursive? n .type) :=
    (h.spellFrom _ _ (h.referenceRecursive? n .type)).symm
  have hdefaulted : Function.defaulted t' n = Function.defaulted t n := by
    rw [Function.defaulted, Function.defaulted, h.attr? n rfl]
  have hinline : Function.declaredInline t' n = Function.declaredInline t n := by
    rw [Function.declaredInline, Function.declaredInline, h.unsigned? n rfl]
  simp +decide only [Function.ofEntry, h.placement, h.nameOf, h.linkageName?, hreturn, h.children,
    hparameter, h.clause?, h.this?, h.pointsToConst, h.flag, hdefaulted, h.unsigned?, hinline,
    hstructor]

lemma nameImport (h : t.Redirected t') : NameImport.ofEntry t' = NameImport.ofEntry t := by
  have hname : NameImport.targetName? t' = NameImport.targetName? t := by
    unfold NameImport.targetName?
    rw [h.shortName?, h.qualifiedName]
  unfold NameImport.ofEntry
  rw [h.target?, h.tag, h.placement, h.shortName?, hname]

end Redirected
end EntryTree
end HeaderRecovery.Debug

namespace HeaderRecovery.Declaration
open Debug

variable {t t' : EntryTree}

lemma isUnnamedType_redirected (h : t.Redirected t') : isUnnamedType t' = isUnnamedType t := by
  unfold isUnnamedType
  rw [h.tag, h.shortName?]

lemma inlinedTypes_redirected (h : t.Redirected t') : inlinedTypes t' = inlinedTypes t := by
  unfold inlinedTypes
  rw [h.children, h.resolve, h.tag, h.target?, isUnnamedType_redirected h]

lemma localChildren_redirected (h : t.Redirected t') : localChildren t' = localChildren t := by
  have hforeign : isForeign t' = isForeign t := by
    unfold isForeign
    rw [h.declaredFile?]
  unfold localChildren
  rw [h.children, h.resolve, hforeign]

lemma baseClasses_redirected (h : t.Redirected t') : baseClasses t' = baseClasses t := by
  have hbase : BaseClass.ofEntry t' = BaseClass.ofEntry t := by
    funext kind n
    simp +decide only [BaseClass.ofEntry, h.unsigned?, h.spellTypeOf]
  unfold baseClasses
  rw [localChildren_redirected h, h.tag, hbase]

lemma memberEntries_redirected (h : t.Redirected t') : memberEntries t' = memberEntries t := by
  have hkind : memberKind? t' = memberKind? t := by
    unfold memberKind?
    rw [h.tag]
  unfold memberEntries
  rw [inlinedTypes_redirected h, localChildren_redirected h, hkind, h.declaredLine?]

lemma readAggregate_redirected (h : t.Redirected t') : readAggregate t' = readAggregate t := by
  funext options read kind n
  simp +decide only [readAggregate, memberEntries_redirected h, h.placement, h.nameOf,
    h.unsigned?, baseClasses_redirected h, h.clause?]

lemma definition?_redirected (h : t.Redirected t') : definition? t' = definition? t := by
  unfold definition?
  rw [h.target?, isUnnamedType_redirected h, h.tag]

lemma readWithin_redirected (h : t.Redirected t') (options : Options) :
    readWithin t' options = readWithin t options := by
  have htypedef : Typedef.ofEntry t' = Typedef.ofEntry t := by
    unfold Typedef.ofEntry
    rw [h.shortName?, h.placement, h.key, h.spellTypeOf]
  funext fuel depth kind n
  induction fuel generalizing depth kind n with
  | zero => rfl
  | succ fuel ih =>
    have hinner : ∀ depth, readWithin t' options fuel depth = readWithin t options fuel depth :=
      fun depth => funext fun kind => funext fun n => ih depth kind n
    cases kind <;>
      simp only [readWithin, definition?_redirected h, hinner, htypedef, h.parameter, h.function,
        h.enumeration, h.field, h.scopeVariable, h.nameImport, readAggregate_redirected h]

/-- Whether a type, the class of a member pointer or an import is referred to directly or through
a stub makes no difference: types are spelled the same and declarations are read the same, as far
as reading them ends at all. -/
theorem redirected_unnoticed (h : t.Redirected t') :
    (∀ type, t'.spell type = t.spell type) ∧
    ∀ options kind node, ofEntry? t' options kind node = ofEntry? t options kind node := by
  refine ⟨fun type => congrFun h.spell type, fun options kind node => ?_⟩
  have hbound : nestingBound t' options = nestingBound t options := by
    rw [nestingBound, nestingBound, h.size]
  rw [Declaration.ofEntry?, Declaration.ofEntry?, hbound, readWithin_redirected h]

/-- A variable of a type from a type unit; it refers to the type itself or, through a signature, by
a declaration in its own unit. -/
def origin (byStub : Bool) : EntryTree :=
  let (b, unit) := TreeBuilder.start.compileUnit "a.cpp" "/src"
  let (b, stub) := b.child unit .structureType
  let (b, _, point) := (b.signature stub 7).typeUnit 7 .structureType
  let (b, node) := (b.name point "Point").child unit .dataVariable
  ((b.name node "origin").typeRef node (if byStub then stub else point)).tree

/-- Referred to through the declaration, the type is spelled the same. -/
theorem origin_unnoticed :
    (origin true).reference? 4 .type = some 1 ∧ (origin false).reference? 4 .type = some 3 ∧
      (Declaration.ofEntry? (origin true) {} .scopeVariable 4).map source =
        some "static Point origin;" := by
  have hdirect : (origin false).reference? 4 .type = some 3 := by cbv
  have hthrough : (origin true).reference? 4 .type = some 1 := by cbv
  have hstub : (origin false).IsStubFor 1 3 := ⟨by cbv, by cbv⟩
  have hlink : (origin false).SameLink .type (.ref ⟨.type, 0x18⟩) (.ref ⟨.info, 0xc⟩) :=
    Or.inr ⟨rfl, 3, 1, by cbv, by cbv, hstub⟩
  have hvariable : (origin false).SameEntry ((origin false).entry 4) ((origin true).entry 4) :=
    ⟨rfl, rfl, rfl, rfl, rfl, .cons ⟨rfl, Or.inl rfl⟩ (.cons ⟨rfl, hlink⟩ .nil)⟩
  have hredirected : (origin false).Redirected (origin true) := by
    constructor
    · rfl
    · rfl
    · rfl
    · exact .cons (.refl _ _) (.cons (.refl _ _) (.cons (.refl _ _) (.cons (.refl _ _)
        (.cons hvariable .nil))))
  have hread : (Declaration.ofEntry? (origin false) {} .scopeVariable 4).map source =
      some "static Point origin;" := by cbv
  refine ⟨hthrough, hdirect, ?_⟩
  rw [(redirected_unnoticed hredirected).2, hread]

end HeaderRecovery.Declaration
