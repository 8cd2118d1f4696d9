import HeaderRecovery.Declaration.Reading
import HeaderRecovery.Proofs.SortedMap
import HeaderRecovery.Proofs.Twins

/-!
Declarations read from twins. They have the same text, and differ in nothing but the identity of
the unnamed types that aliases spell out.
-/
namespace HeaderRecovery.Debug.EntryTree.Twins

variable {t : EntryTree} {twin : NodeId → NodeId → Prop} {n m : NodeId}

lemma nameOf (h : t.Twins twin) (hnm : twin n m) : nameOf t n = nameOf t m := by
  rw [HeaderRecovery.nameOf, HeaderRecovery.nameOf, h.shortName? hnm]

lemma placement (h : t.Twins twin) (hnm : twin n m) :
    Placement.ofEntry t n = Placement.ofEntry t m := by
  rw [Placement.ofEntry, Placement.ofEntry, h.unsigned? hnm]

lemma scope (h : t.Twins twin) (hnm : twin n m) : Scope.ofEntry t n = Scope.ofEntry t m := by
  rw [Scope.ofEntry, Scope.ofEntry, h.shortName? hnm, h.flag hnm]

lemma constant (h : t.Twins twin) (hnm : twin n m) (attr : Attribute) :
    (t.attr? n attr).bind Constant.ofValue? = (t.attr? m attr).bind Constant.ofValue? := by
  refine bind_eq_of_rel (h.attr? hnm attr) ?_
  intro v w hvw
  cases v <;> cases w <;> simp only [Value.Matches, reduceCtorEq] at hvw <;> first | rfl | rw [hvw]

lemma clause? (h : t.Twins twin) (hnm : twin n m) :
    Template.clause? t n = Template.clause? t m := by
  have hparameters : (t.children n).filterMap (Template.parameter? t) =
      (t.children m).filterMap (Template.parameter? t) := by
    refine filterMap_eq_of_rel (h.children hnm) ?_
    intro a b hab
    rw [Template.parameter?, Template.parameter?, h.nameOf hab, h.tag hab, h.spellTypeOf hab]
  rw [Template.clause?, Template.clause?, hparameters]

lemma enumeration (h : t.Twins twin) (hnm : twin n m) :
    Enumeration.ofEntry t n = Enumeration.ofEntry t m := by
  have henumerators : (t.children n).filterMap (Enumeration.enumerator? t) =
      (t.children m).filterMap (Enumeration.enumerator? t) := by
    refine filterMap_eq_of_rel (h.children hnm) ?_
    intro a b hab
    rw [Enumeration.enumerator?, Enumeration.enumerator?, h.tag hab, h.constant hab, h.nameOf hab]
  have hbase : (t.reference? n .type).map (fun type => (t.spell (some type)).joined) =
      (t.reference? m .type).map (fun type => (t.spell (some type)).joined) :=
    map_option_eq_of_rel (h.reference? hnm .type) fun hab => by rw [h.spell (.some hab)]
  rw [Enumeration.ofEntry, Enumeration.ofEntry, henumerators, hbase, h.placement hnm, h.nameOf hnm,
    h.flag hnm]

lemma field (h : t.Twins twin) (hnm : twin n m) (definition : Option String) :
    Field.ofEntry t definition n = Field.ofEntry t definition m := by
  have hlocation : Field.location? t n = Field.location? t m := by
    rw [Field.location?, Field.location?, h.unsigned? hnm, h.hasAttr hnm, h.unsigned? hnm]
  simp only [Field.ofEntry, hlocation, h.placement hnm, h.nameOf hnm, h.spellTypeOf hnm,
    h.unsigned? hnm, h.constant hnm, h.tag hnm, h.flag hnm]

lemma scopeVariable (h : t.Twins twin) (hnm : twin n m) (definition : Option String) :
    Field.ofVariable t definition n = Field.ofVariable t definition m := by
  rw [Field.ofVariable, Field.ofVariable, h.field hnm, h.flag hnm]

lemma parameter (h : t.Twins twin) (hnm : twin n m) :
    Parameter.ofEntry t n = Parameter.ofEntry t m := by
  rw [Parameter.ofEntry, Parameter.ofEntry, h.tag hnm, h.placement hnm, h.nameOf hnm,
    h.spellTypeOf hnm]

lemma parameters (h : t.Twins twin) (hnm : twin n m) :
    (t.children n).filterMap (Function.parameter? t) =
      (t.children m).filterMap (Function.parameter? t) := by
  refine filterMap_eq_of_rel (h.children hnm) ?_
  intro a b hab
  rw [Function.parameter?, Function.parameter?, h.tag hab, h.flag hab, h.parameter hab]

lemma pointsToConst (h : t.Twins twin) (hnm : twin n m) :
    Function.pointsToConst t n = Function.pointsToConst t m := by
  unfold Function.pointsToConst
  rcases rel_cases (h.target? hnm .type) with ⟨hn, hm⟩ | ⟨a, b, hn, hm, hpointer⟩
  · rw [hn, hm]
  · simp only [hn, hm, h.tag hpointer]
    rcases rel_cases (h.target? hpointer .type) with ⟨ha, hb⟩ | ⟨c, d, ha, hb, hpointee⟩
    · rw [ha, hb]
    · simp only [ha, hb, h.tag hpointee]

lemma this? (h : t.Twins twin) (hnm : twin n m) :
    Option.Rel twin (Function.this? t n) (Function.this? t m) := by
  unfold Function.this?
  refine filter_option_rel (find?_rel (h.children hnm) ?_) ?_
  · intro a b hab
    rw [h.tag hab]
  · intro a b hab
    exact h.flag hab _

/-- What stands directly in a unit is a destructor by its own name or none at all. -/
lemma isStructor_outermost (h : t.Outermost n) :
    Function.isStructor t n (HeaderRecovery.nameOf t n) =
      Text.startsWith "~" (HeaderRecovery.nameOf t n) := by
  unfold Function.isStructor
  cases hparent : t.parent? n with
  | none => simp
  | some owner =>
    cases hname : t.shortName? owner with
    | none => simp [hname]
    | some name =>
      have hne := (h hparent).2 hname
      simp only [Option.bind_some, hname]
      simp [HeaderRecovery.nameOf, hne]

lemma isStructor (h : t.Twins twin) (hnm : twin n m) :
    Function.isStructor t n (HeaderRecovery.nameOf t n) =
      Function.isStructor t m (HeaderRecovery.nameOf t m) := by
  rcases h.parent hnm with hparent | ⟨hn, hm⟩
  · have howner : (t.parent? n).bind t.shortName? = (t.parent? m).bind t.shortName? :=
      bind_eq_of_rel hparent h.shortName?
    rw [Function.isStructor, Function.isStructor, howner, h.nameOf hnm]
  · rw [isStructor_outermost hn, isStructor_outermost hm, h.nameOf hnm]

lemma defaulted (h : t.Twins twin) (hnm : twin n m) :
    Function.defaulted t n = Function.defaulted t m := by
  unfold Function.defaulted
  rcases rel_cases (h.attr? hnm .defaulted) with ⟨hn, hm⟩ | ⟨v, w, hn, hm, hvw⟩
  · rw [hn, hm]
  · simp only [hn, hm, hvw.unsigned?]

lemma function (h : t.Twins twin) (hnm : twin n m) (isMember : Bool) :
    Function.ofEntry t isMember n = Function.ofEntry t isMember m := by
  have hthis : Option.Rel twin (if isMember then Function.this? t n else none)
      (if isMember then Function.this? t m else none) := by
    cases isMember with
    | false => exact .none
    | true => exact h.this? hnm
  have hconst := rel_cases hthis
  have hstructor := h.isStructor hnm
  rw [h.nameOf hnm] at hstructor
  have hinline : Function.declaredInline t n = Function.declaredInline t m := by
    rw [Function.declaredInline, Function.declaredInline, h.unsigned? hnm]
  simp only [Function.ofEntry, h.placement hnm, h.nameOf hnm, h.linkageName? hnm,
    h.spell (h.referenceRecursive? hnm .type), h.parameters hnm, h.clause? hnm,
    h.flag hnm, h.defaulted hnm, h.unsigned? hnm, hinline, hstructor]
  rcases hconst with ⟨hn, hm⟩ | ⟨a, b, hn, hm, hab⟩
  · rw [hn, hm]
  · simp only [hn, hm, h.pointsToConst hab, Option.isSome_some]

lemma nameImport (h : t.Twins twin) (hnm : twin n m) :
    NameImport.ofEntry t n = NameImport.ofEntry t m := by
  have htarget := h.target? hnm .importTarget
  have hname : (t.target? n .importTarget).bind (NameImport.targetName? t) =
      (t.target? m .importTarget).bind (NameImport.targetName? t) := by
    refine bind_eq_of_rel htarget ?_
    intro a b hab
    rw [NameImport.targetName?, NameImport.targetName?, h.shortName? hab, h.qualifiedName hab]
  simp only [NameImport.ofEntry, hname, h.placement hnm, h.tag hnm, h.shortName? hnm]
  rcases rel_cases htarget with ⟨hn, hm⟩ | ⟨a, b, hn, hm, hab⟩
  · rw [hn, hm]
  · simp only [hn, hm, h.tag hab]

end HeaderRecovery.Debug.EntryTree.Twins

namespace HeaderRecovery.Declaration
open Debug

/-- The properties of a declaration without what stands on its member lines and without the
identity of a type that it spells out. -/
def outline : Declaration → Declaration
  | typedef d => typedef { d with inlined := d.inlined.map fun _ => ⟨.info, 0⟩ }
  | aggregate d => aggregate { d with members := d.members.map fun _ => [] }
  | d => d

/-- What readings of twins have in common. -/
structure Alike (a b : Declaration) : Prop where
  source : a.source = b.source
  outline : a.outline = b.outline

lemma Alike.refl (d : Declaration) : d.Alike d := ⟨rfl, rfl⟩

lemma access_outline (d : Declaration) : d.outline.access = d.access := by cases d <;> rfl

lemma Alike.access {a b : Declaration} (h : a.Alike b) : a.access = b.access := by
  rw [← access_outline a, h.outline, access_outline]

/-- The groups of two aggregates stand on the same lines and are alike one by one. -/
def GroupsAlike (a b : List (UInt64 × List Declaration)) : Prop :=
  List.Forall₂ (fun x y => x.1 = y.1 ∧ List.Forall₂ Alike x.2 y.2) a b

lemma memberTexts_eq {a b : List Declaration} (h : List.Forall₂ Alike a b) :
    memberTexts a = memberTexts b := by
  induction h with
  | nil => rfl
  | cons hab _ ih => rw [memberTexts, memberTexts, hab.source, hab.access, ih]

lemma groupTexts_eq {a b : List (UInt64 × List Declaration)} (h : GroupsAlike a b) :
    groupTexts a = groupTexts b := by
  induction h with
  | nil => rfl
  | cons hab _ ih => rw [groupTexts, groupTexts, memberTexts_eq hab.2, ih]

lemma lines_eq {a b : List (UInt64 × List Declaration)} (h : GroupsAlike a b) :
    a.map (fun e => (e.1, ([] : List Declaration))) = b.map fun e => (e.1, []) :=
  map_eq_of_rel h fun hab => by rw [hab.1]

/-- Aggregates that differ in their groups only are alike if the groups are. -/
lemma alike_aggregate (a : Aggregate Declaration)
    {groups groups' : SortedMap UInt64 (List Declaration)}
    (h : GroupsAlike groups.entries groups'.entries) :
    (aggregate { a with members := groups }).Alike (aggregate { a with members := groups' }) where
  source := by
    obtain ⟨groups⟩ := groups
    obtain ⟨groups'⟩ := groups'
    simp only [Declaration.source, groupTexts_eq h]
    rfl
  outline := by simp only [Declaration.outline, SortedMap.map, lines_eq h]

lemma dropRepeatsOf_alike (last : String) {a b : List Declaration} (h : List.Forall₂ Alike a b) :
    List.Forall₂ Alike (dropRepeatsOf last a) (dropRepeatsOf last b) := by
  induction h generalizing last with
  | nil => exact .nil
  | cons hab _ ih =>
    simp only [dropRepeatsOf, hab.source]
    split
    · exact ih last
    · exact .cons hab (ih _)

lemma dropRepeats_alike {a b : List Declaration} (h : List.Forall₂ Alike a b) :
    List.Forall₂ Alike (dropRepeats a) (dropRepeats b) := by
  cases h with
  | nil => exact .nil
  | cons hab hrest =>
    rw [dropRepeats, dropRepeats, hab.source]
    exact .cons hab (dropRepeatsOf_alike _ hrest)

lemma find?_alike {a b : SortedMap UInt64 (List Declaration)} (h : GroupsAlike a.entries b.entries)
    (line : UInt64) : Option.Rel (List.Forall₂ Alike) (a.find? line) (b.find? line) := by
  obtain ⟨entries⟩ := a
  obtain ⟨entries'⟩ := b
  simp only [SortedMap.find?] at h ⊢
  induction h with
  | nil => exact .none
  | @cons x y _ _ hxy _ ih =>
    obtain ⟨k, g⟩ := x
    obtain ⟨l, g'⟩ := y
    obtain ⟨rfl, hg⟩ : k = l ∧ List.Forall₂ Alike g g' := hxy
    rw [SortedMap.lookup_cons, SortedMap.lookup_cons]
    split
    · exact .some hg
    · exact ih

lemma alter_alike {a b : List (UInt64 × List Declaration)} (h : GroupsAlike a b) (line : UInt64)
    {f g : Option (List Declaration) → List Declaration}
    (hfg : ∀ {x y}, Option.Rel (List.Forall₂ Alike) x y → List.Forall₂ Alike (f x) (g y)) :
    GroupsAlike (SortedMap.alterEntries line f a) (SortedMap.alterEntries line g b) := by
  induction h with
  | nil => exact .cons ⟨rfl, hfg .none⟩ .nil
  | @cons x y rest rest' hxy hrest ih =>
    obtain ⟨k, group⟩ := x
    obtain ⟨l, group'⟩ := y
    obtain ⟨rfl, hgroup⟩ : k = l ∧ List.Forall₂ Alike group group' := hxy
    simp only [SortedMap.alterEntries]
    split
    · exact .cons ⟨rfl, hfg .none⟩ (.cons ⟨rfl, hgroup⟩ hrest)
    · split
      · exact .cons ⟨rfl, hfg (.some hgroup)⟩ hrest
      · exact .cons ⟨rfl, hgroup⟩ ih

lemma getD_alike {x y : Option (List Declaration)} (h : Option.Rel (List.Forall₂ Alike) x y) :
    List.Forall₂ Alike (x.getD []) (y.getD []) := by
  cases h with
  | none => exact .nil
  | some hxy => exact hxy

section Reading
variable {t : EntryTree} {twin : NodeId → NodeId → Prop} {n m : NodeId}

lemma isUnnamedType_twin (h : t.Twins twin) (hnm : twin n m) :
    isUnnamedType t n = isUnnamedType t m := by
  rw [isUnnamedType, isUnnamedType, h.tag hnm, h.shortName? hnm]

lemma inlinedTypes_twin (h : t.Twins twin) (hnm : twin n m) :
    List.Forall₂ twin (inlinedTypes t n) (inlinedTypes t m) := by
  have hchildren := List.rel_map (R := twin) (P := twin) (fun _ _ hab => h.resolve hab)
    (h.children hnm)
  refine List.rel_filterMap ?_ (filter_rel hchildren ?_)
  · intro a b hab
    exact filter_option_rel (h.target? hab .type) fun htype => isUnnamedType_twin h htype
  · intro a b hab
    rw [h.tag hab]

lemma memberKind?_twin (h : t.Twins twin) {inlined inlined' : List NodeId}
    (hinlined : List.Forall₂ twin inlined inlined') (hnm : twin n m) :
    memberKind? t inlined n = memberKind? t inlined' m := by
  have hmem : n ∈ inlined ↔ m ∈ inlined' := List.rel_mem h.unique hnm hinlined
  simp only [memberKind?, h.tag hnm, hmem]

lemma isForeign_twin (h : t.Twins twin) {a b : NodeId} (hnm : twin n m) (hab : twin a b) :
    isForeign t n a = isForeign t m b := by
  rw [isForeign, isForeign, h.declaredFile? hnm, h.declaredFile? hab]

lemma localChildren_twin (h : t.Twins twin) (hnm : twin n m) :
    List.Forall₂ twin (localChildren t n) (localChildren t m) := by
  have hchildren := List.rel_map (R := twin) (P := twin) (fun _ _ hab => h.resolve hab)
    (h.children hnm)
  refine filter_rel hchildren ?_
  intro a b hab
  rw [isForeign_twin h hnm hab]

lemma baseClasses_twin (h : t.Twins twin) (kind : AggregateKind) (hnm : twin n m) :
    baseClasses t kind n = baseClasses t kind m := by
  refine map_eq_of_rel (filter_rel (localChildren_twin h hnm) ?_) ?_
  · intro a b hab
    rw [h.tag hab]
  · intro a b hab
    rw [BaseClass.ofEntry, BaseClass.ofEntry, h.unsigned? hab, h.unsigned? hab, h.spellTypeOf hab]

/-- What a member line has for twins: the same line and kind, and twins. -/
def MembersTwin (twin : NodeId → NodeId → Prop) (x y : UInt64 × DeclarationKind × NodeId) : Prop :=
  x.1 = y.1 ∧ x.2.1 = y.2.1 ∧ twin x.2.2 y.2.2

lemma memberEntries_twin (h : t.Twins twin) (hnm : twin n m) :
    List.Forall₂ (MembersTwin twin) (memberEntries t n) (memberEntries t m) := by
  refine List.rel_filterMap (R := twin) ?_ (localChildren_twin h hnm)
  intro a b hab
  simp only [memberKind?_twin h (inlinedTypes_twin h hnm) hab, h.declaredLine? hab]
  split
  · split
    · exact .some ⟨rfl, rfl, hab⟩
    · exact .none
  · exact .none

variable {read read' : DeclarationKind → NodeId → Option Declaration}

lemma placeMember_alike (cap : Nat)
    (hread : ∀ kind {a b}, twin a b → Option.Rel Alike (read kind a) (read' kind b))
    {groups groups' : SortedMap UInt64 (List Declaration)}
    (hgroups : GroupsAlike groups.entries groups'.entries)
    {x y : UInt64 × DeclarationKind × NodeId} (hxy : MembersTwin twin x y) :
    Option.Rel (fun g g' => GroupsAlike g.entries g'.entries)
      (placeMember cap read groups x) (placeMember cap read' groups' y) := by
  obtain ⟨line, kind, a⟩ := x
  obtain ⟨line', kind', b⟩ := y
  obtain ⟨rfl, rfl, hab⟩ : line = line' ∧ kind = kind' ∧ twin a b := hxy
  have hlength := (getD_alike (find?_alike hgroups line)).length_eq
  simp only [placeMember, hlength]
  split
  · exact .some (alter_alike hgroups line getD_alike)
  · refine map_rel (hread kind hab) fun hd => ?_
    exact alter_alike hgroups line fun hgroup =>
      List.rel_append (getD_alike hgroup) (.cons hd .nil)

lemma readAggregate_alike (h : t.Twins twin) (options : Options)
    (hread : ∀ kind {a b}, twin a b → Option.Rel Alike (read kind a) (read' kind b))
    (kind : AggregateKind) (hnm : twin n m) :
    Option.Rel Alike ((readAggregate t options read kind n).map aggregate)
      ((readAggregate t options read' kind m).map aggregate) := by
  have hfold := foldlM_rel
    (S := fun g g' : SortedMap UInt64 (List Declaration) => GroupsAlike g.entries g'.entries)
    (memberEntries_twin h hnm)
    (fun hgroups hxy => placeMember_alike options.maxEntriesPerLine hread hgroups hxy)
    (show GroupsAlike SortedMap.empty.entries SortedMap.empty.entries from .nil)
  unfold readAggregate
  rcases rel_cases hfold with ⟨hn, hm⟩ | ⟨groups, groups', hn, hm, hgroups⟩
  · rw [hn, hm]
    exact .none
  · rw [hn, hm, h.placement hnm, h.nameOf hnm, h.unsigned? hnm, baseClasses_twin h kind hnm,
      h.clause? hnm]
    have hdropped :
        GroupsAlike (groups.map dropRepeats).entries (groups'.map dropRepeats).entries :=
      List.rel_map (fun _ _ hxy => ⟨hxy.1, dropRepeats_alike hxy.2⟩) hgroups
    exact .some (alike_aggregate
      { placement := .ofEntry t m, kind, name := HeaderRecovery.nameOf t m,
        byteSize := t.unsigned? m .byteSize, bases := baseClasses t kind m,
        template := Template.clause? t m } hdropped)

/-- The definitions that twins spell out are of twins, and one text. -/
lemma definition?_twin (h : t.Twins twin) (options : Options) (depth : Nat)
    (hread : ∀ kind {a b}, twin a b → Option.Rel Alike (read kind a) (read' kind b))
    (hnm : twin n m) :
    Option.Rel (Option.Rel fun x y => twin x.1 y.1 ∧ x.2 = y.2)
      (definition? t options depth read n) (definition? t options depth read' m) := by
  have htype : Option.Rel twin ((t.target? n .type).filter (isUnnamedType t))
      ((t.target? m .type).filter (isUnnamedType t)) :=
    filter_option_rel (h.target? hnm .type) fun hab => isUnnamedType_twin h hab
  unfold definition?
  rcases rel_cases htype with ⟨hn, hm⟩ | ⟨a, b, hn, hm, hab⟩
  · rw [hn, hm]
    exact .some .none
  · simp only [hn, hm, h.tag hab]
    split
    · exact .some .none
    · split
      · exact .some .none
      · refine map_rel (hread _ hab) fun hd => ?_
        exact .some ⟨hab, by rw [hd.source]⟩

lemma typedef_alike (h : t.Twins twin) (hnm : twin n m) {x y : Option (NodeId × String)}
    (hxy : Option.Rel (fun x y => twin x.1 y.1 ∧ x.2 = y.2) x y) :
    (typedef (.ofEntry t x n)).Alike (typedef (.ofEntry t y m)) := by
  cases hxy with
  | none =>
    simp only [Typedef.ofEntry, h.placement hnm, h.shortName? hnm, h.spellTypeOf hnm]
    exact .refl _
  | @some x y hxy =>
    obtain ⟨a, text⟩ := x
    obtain ⟨b, text'⟩ := y
    obtain ⟨hab, rfl⟩ : twin a b ∧ text = text' := hxy
    simp only [Typedef.ofEntry, h.placement hnm, h.shortName? hnm]
    exact ⟨rfl, rfl⟩

/-- Reading twins as the same kind gives declarations that are alike, or none for both. -/
lemma readWithin_alike (h : t.Twins twin) (options : Options) (fuel depth : Nat)
    (kind : DeclarationKind) (hnm : twin n m) :
    Option.Rel Alike (readWithin t options fuel depth kind n)
      (readWithin t options fuel depth kind m) := by
  -- On the bound, for all twins at once: a member is read at the depth of its aggregate, a type
  -- that is spelled out one deeper.
  induction fuel generalizing depth kind n m with
  | zero => exact .none
  | succ fuel ih =>
    have hdefinition :=
      definition?_twin h options depth (fun kind _ _ hab => ih (depth + 1) kind hab) hnm
    cases kind with
    | typedef =>
      simp only [readWithin]
      exact map_rel hdefinition fun hxy => typedef_alike h hnm hxy
    | parameter =>
      simp only [readWithin, h.parameter hnm]
      exact .some (.refl _)
    | function isMember =>
      simp only [readWithin, h.function hnm]
      exact .some (.refl _)
    | enumeration =>
      simp only [readWithin, h.enumeration hnm]
      exact .some (.refl _)
    | field =>
      simp only [readWithin]
      refine map_rel hdefinition fun hxy => ?_
      rw [map_option_eq_of_rel hxy fun hab => hab.2, h.field hnm]
      exact .refl _
    | scopeVariable =>
      simp only [readWithin]
      refine map_rel hdefinition fun hxy => ?_
      rw [map_option_eq_of_rel hxy fun hab => hab.2, h.scopeVariable hnm]
      exact .refl _
    | nameImport =>
      simp only [readWithin, h.nameImport hnm]
      exact .some (.refl _)
    | aggregate kind =>
      exact readAggregate_alike h options (fun kind _ _ hab => ih depth kind hab) kind hnm

lemma ofEntry?_alike (h : t.Twins twin) (options : Options) (kind : DeclarationKind)
    (hnm : twin n m) :
    Option.Rel Alike ( ofEntry? t options kind n) ( ofEntry? t options kind m) :=
  readWithin_alike h options _ _ kind hnm

end Reading
end HeaderRecovery.Declaration
