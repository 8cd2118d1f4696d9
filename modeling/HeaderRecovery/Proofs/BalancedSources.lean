import HeaderRecovery.Proofs.Braces
import HeaderRecovery.Proofs.ProperReadings

/-!
The texts of declarations are balanced if no name in the debugging information has a brace or a
quote in it. Spelled types have neither; braces come in with definitions that are spelled out in
place of a type, and each of these closes what it opens. So does an aggregate around its members,
as the lines of a member keep what they read when they are moved to the right.
-/
namespace HeaderRecovery
open Debug Text

/-! Spelled types -/

namespace Debug

/-- Whether a value is anything but a string with a brace or a single quote in it. -/
def Value.isBraceFree : Value → Bool
  | .string text => Plain text
  | _ => true

namespace EntryTree

/-- No string attribute has a brace or a single quote in it. -/
def BraceFree (t : EntryTree) : Prop :=
  t.entries.all fun entry => entry.attributes.all fun a => a.2.isBraceFree

instance (t : EntryTree) : Decidable t.BraceFree :=
  inferInstanceAs (Decidable (t.entries.all _ = true))

variable {t : EntryTree} {node : NodeId}

namespace BraceFree

lemma attr? (h : t.BraceFree) {attr : Attribute} {text : String}
    (ha : t.attr? node attr = some (.string text)) : Plain text := by
  obtain ⟨⟨found, value⟩, hfind, rfl⟩ := Option.map_eq_some_iff.mp ha
  have hmem := Array.mem_toList_iff.mp (List.mem_of_find?_eq_some hfind)
  by_cases hnode : node < t.entries.size
  · have hentry : t.entry node ∈ t.entries := by
      simp [entry, Array.getD, hnode]
    have hattributes := Array.all_eq_true'.mp h _ hentry
    simpa [Value.isBraceFree] using Array.all_eq_true'.mp hattributes _ hmem
  · rw [entry_of_size_le (Nat.not_lt.mp hnode)] at hfind
    cases hfind

lemma shortName? (h : t.BraceFree) {name : String} (hname : t.shortName? node = some name) :
    Plain name := by
  obtain ⟨value, hvalue, hstring⟩ := Option.bind_eq_some_iff.mp hname
  obtain ⟨m, -, hm⟩ := List.exists_of_findSome?_eq_some hvalue
  cases value with
  | string text =>
    cases hstring
    exact h.attr? hm
  | _ => cases hstring

lemma shortName_getD (h : t.BraceFree) (node : NodeId) {instead : String}
    (hinstead : Plain instead) :
    Plain ((t.shortName? node).getD instead) := by
  cases hname : t.shortName? node with
  | none => exact hinstead
  | some name => exact h.shortName? hname

lemma nameOf (h : t.BraceFree) (node : NodeId) : Plain (nameOf t node) :=
  h.shortName_getD node rfl

lemma localName (h : t.BraceFree) (node : NodeId) : Plain (t.localName node) := by
  refine h.shortName_getD node ?_
  unfold anonymousName
  split <;> decide

lemma qualifiedName (h : t.BraceFree) (node : NodeId) : Plain (t.qualifiedName node) := by
  refine plain_composes.intercalate (by decide) fun x hx => ?_
  obtain ⟨n, -, rfl⟩ := List.mem_map.mp hx
  exact h.localName n

end BraceFree

end EntryTree

end Debug

namespace Declarator

/-- Neither in front of the name nor behind it there is a brace or a quote. -/
structure IsPlain (d : Declarator) : Prop where
  before : Plain d.before
  after : Plain d.after

/-- What stands in front of the name and behind it closes the braces that it opens. -/
structure IsNeutral (d : Declarator) : Prop where
  before : Neutral d.before
  after : Neutral d.after

lemma IsPlain.neutral {d : Declarator} (h : d.IsPlain) : d.IsNeutral :=
  ⟨h.before.neutral, h.after.neutral⟩

lemma IsPlain.joined {d : Declarator} (h : d.IsPlain) : Plain d.joined := h.before.append h.after

lemma composed_declare {P : String → Prop} (hP : Composes P) (hspace : P " ") {d : Declarator}
    (hbefore : P d.before) (hafter : P d.after) {name : String} (hname : P name) :
    P (d.declare name) := by
  unfold declare
  split
  · exact hP.append hbefore hafter
  split
  · exact hP.append (hP.append hbefore hname) hafter
  · exact hP.append (hP.append (hP.append hbefore hspace) hname) hafter

lemma IsNeutral.declare {d : Declarator} (h : d.IsNeutral) {name : String} (hname : Neutral name) :
    Neutral (d.declare name) :=
  composed_declare neutral_composes (Plain.neutral (by decide)) h.before h.after hname

lemma IsPlain.declare {d : Declarator} (h : d.IsPlain) {name : String} (hname : Plain name) :
    Plain (d.declare name) :=
  composed_declare plain_composes (by decide) h.before h.after hname

lemma plain_isPlain {text : String} (h : Plain text) : (Declarator.plain text).IsPlain := ⟨h, rfl⟩

end Declarator

namespace Debug.EntryTree
open Declarator

variable {t : EntryTree} {node : NodeId} {inner : Declarator}

lemma plain_attach {before mark : String} (hb : Plain before) (hm : Plain mark) :
    Plain (attach before mark) := by
  unfold attach
  split
  · exact hb.append hm
  · exact (hb.append (b := " ") rfl).append hm

lemma isPlain_pointerTo (h : inner.IsPlain) (node : NodeId) {mark : String} (hmark : Plain mark) :
    (t.pointerTo inner node mark).IsPlain := by
  unfold pointerTo
  split
  · exact ⟨(h.before.append (b := " (") rfl).append hmark, Plain.append (a := ")") rfl h.after⟩
  · exact ⟨plain_attach h.before hmark, h.after⟩

lemma isPlain_qualified (h : inner.IsPlain) (node : NodeId) {qualifier : String}
    (hq : Plain qualifier) : (t.qualified inner node qualifier).IsPlain := by
  unfold qualified
  split
  · exact ⟨plain_attach h.before hq, h.after⟩
  · exact ⟨(hq.append (b := " ") rfl).append h.before, h.after⟩

lemma plain_dimensions (t : EntryTree) (node : NodeId) : Plain (t.dimensions node) := by
  have hdimension : ∀ range, Plain (t.dimension range) := fun range => by
    unfold dimension
    split
    · exact (Plain.append (a := "[") rfl (plain_toString _)).append rfl
    · rfl
  unfold dimensions
  split
  · rfl
  · refine plain_composes.join fun x hx => ?_
    obtain ⟨range, -, rfl⟩ := List.mem_map.mp hx
    exact hdimension range

section
variable {spell : Option NodeId → Declarator}

lemma plain_parameterList (h : ∀ type, (spell type).IsPlain) (node : NodeId) :
    Plain (t.parameterList spell node) := by
  refine plain_composes.intercalate (by decide) fun x hx => ?_
  obtain ⟨c, -, hc⟩ := List.mem_filterMap.mp hx
  split at hc
  · split at hc
    · cases hc
    · cases hc
      exact (h _).joined
  · cases hc
    rfl
  · cases hc

lemma BraceFree.spellLevel (h : t.BraceFree) (hspell : ∀ type, (spell type).IsPlain)
    (node : NodeId) : (t.spellLevel spell node).IsPlain := by
  have hinner := hspell (t.reference? node .type)
  unfold EntryTree.spellLevel
  dsimp only
  split
  case h_1 => exact isPlain_pointerTo hinner node rfl
  case h_2 => exact isPlain_pointerTo hinner node rfl
  case h_3 => exact isPlain_pointerTo hinner node rfl
  case h_4 =>
    refine isPlain_pointerTo hinner node (Plain.append ?_ rfl)
    cases t.reference? node .containingType with
    | none => rfl
    | some owner => exact h.qualifiedName owner
  case h_5 => exact isPlain_qualified hinner node (by decide)
  case h_6 => exact isPlain_qualified hinner node (by decide)
  case h_7 => exact isPlain_qualified hinner node (by decide)
  case h_8 => exact plain_isPlain ((Plain.append (by decide) hinner.joined).append rfl)
  case h_9 => exact ⟨hinner.before, (plain_dimensions t node).append hinner.after⟩
  case h_10 =>
    exact ⟨hinner.before, ((Plain.append (a := "(") rfl (plain_parameterList hspell node)).append
      (b := ")") rfl).append hinner.after⟩
  case h_11 => exact plain_isPlain (h.shortName_getD node (by decide))
  case h_12 => exact plain_isPlain (h.qualifiedName node)

end

lemma BraceFree.spellFrom (h : t.BraceFree) (depth : Nat) (path : List NodeId)
    (type : Option NodeId) : (t.spellFrom depth path type).IsPlain := by
  have hvoid : (Declarator.plain "void").IsPlain := plain_isPlain (by decide)
  induction depth generalizing path type with
  | zero =>
    cases type with
    | none => exact hvoid
    | some node => exact plain_isPlain (h.localName _)
  | succ depth ih =>
    cases type with
    | none => exact hvoid
    | some node =>
      rw [EntryTree.spellFrom]
      split
      · exact plain_isPlain (h.localName _)
      · exact h.spellLevel (ih _) _

lemma BraceFree.spell (h : t.BraceFree) (type : Option NodeId) : (t.spell type).IsPlain :=
  h.spellFrom _ _ _

lemma BraceFree.spellTypeOf (h : t.BraceFree) (node : NodeId) : (t.spellTypeOf node).IsPlain :=
  h.spell _

end Debug.EntryTree

/-! Sources -/

lemma neutral_ite {p : Prop} [Decidable p] {a b : String} (ha : Neutral a) (hb : Neutral b) :
    Neutral (if p then a else b) := by
  split
  · exact ha
  · exact hb

/-- A word that may be left out. -/
lemma neutral_word (p : Prop) [Decidable p] {word : String} (h : Plain word) :
    Neutral (if p then word else "") := neutral_ite h.neutral neutral_empty

/-- A constant text in front of a neutral one. -/
lemma Text.Plain.before {front text : String} (hfront : Plain front) (h : Neutral text) :
    Neutral (front ++ text) := hfront.neutral.append h

/-- A constant text behind a neutral one. -/
lemma Text.Neutral.behind {text back : String} (h : Neutral text) (hback : Plain back) :
    Neutral (text ++ back) := h.append hback.neutral

structure Parameter.IsNeutral (p : Parameter) : Prop where
  name : Neutral p.name
  type : p.type.IsNeutral

lemma Parameter.IsNeutral.source {p : Parameter} (h : p.IsNeutral) : Neutral p.source :=
  h.type.declare h.name

structure Typedef.IsNeutral (d : Typedef) : Prop where
  names : ∀ name ∈ d.names, Neutral name
  target : Neutral d.target

lemma Typedef.IsNeutral.source {d : Typedef} (h : d.IsNeutral) : Neutral d.source := by
  have hfirst : Neutral (d.names.headD "") := by
    cases hnames : d.names with
    | nil => exact neutral_empty
    | cons name rest => exact h.names name (by simp [hnames])
  unfold Typedef.source
  refine neutral_ite ?_ ?_
  · exact (((Plain.before (by decide) h.target).behind (by decide)).append
      (neutral_composes.intercalate (Plain.neutral (by decide)) h.names)).behind (by decide)
  · exact (((Plain.before (by decide) hfirst).behind (by decide)).append h.target).behind
      (by decide)

structure NameImport.IsNeutral (i : NameImport) : Prop where
  form : ∀ name, i.form = .alias name → Neutral name
  target : Neutral i.target

lemma NameImport.IsNeutral.source {i : NameImport} (h : i.IsNeutral) : Neutral i.source := by
  unfold NameImport.source
  split
  · exact (Plain.before (by decide) h.target).behind (by decide)
  · refine neutral_ite ?_ ?_ <;> exact (Plain.before (by decide) h.target).behind (by decide)
  · rename_i name hform
    exact (((Plain.before (by decide) (h.form name hform)).behind (by decide)).append
      h.target).behind (by decide)

structure Enumeration.IsNeutral (e : Enumeration) : Prop where
  name : Neutral e.name
  baseType : ∀ base ∈ e.baseType, Neutral base
  enumerators : ∀ x ∈ e.enumerators, Neutral x.name

/-- A block of lines in braces, behind what it belongs to. -/
lemma neutral_block {head body : String} (hhead : Neutral head) (hbody : Neutral body) :
    Neutral (head ++ " \x7b\n" ++ body ++ "\x7d;") := by
  have hopen : Reads 0 1 " \x7b\n" := fun _ => rfl
  have hclose : Reads 1 0 "\x7d;" := fun _ => rfl
  exact ((Reads.append hhead hopen).append (hbody.at 1)).append hclose

lemma Enumeration.IsNeutral.source {e : Enumeration} (h : e.IsNeutral) : Neutral e.source := by
  have hscoped : Neutral (if e.isScoped then " class" else "") := neutral_word _ (by decide)
  have hname : Neutral (if e.name = "" then "" else " " ++ e.name) :=
    neutral_ite neutral_empty (Plain.before (by decide) h.name)
  refine neutral_block (((Plain.before (by decide) hscoped).append hname).append ?base)
    (neutral_composes.join fun line hline => ?_)
  case base =>
    split
    · rename_i base hb
      exact Plain.before (by decide) (h.baseType base hb)
    · exact neutral_empty
  obtain ⟨x, hx, rfl⟩ := List.mem_map.mp hline
  exact (((Plain.before (by decide) (h.enumerators x hx)).behind (by decide)).append
    (plain_decimal x.value).neutral).behind (by decide)

structure Field.IsNeutral (f : Field) : Prop where
  name : Neutral f.name
  type : f.type.IsNeutral

lemma Field.IsNeutral.source {f : Field} (h : f.IsNeutral) : Neutral f.source := by
  have hlinkage :
      Neutral (if f.isExternal then "extern " else if f.isStatic then "static " else "") :=
    neutral_ite (Plain.neutral (by decide)) (neutral_word _ (by decide))
  have hmutable : Neutral (if f.isMutable then "mutable " else "") := neutral_word _ (by decide)
  refine (((((hlinkage.append hmutable).append (h.type.declare h.name)).append ?bits).append
    ?value).behind (by decide)).append ?offset
  case bits =>
    split
    · exact Plain.before (by decide) (plain_toString _).neutral
    · exact neutral_empty
  case value =>
    split
    · exact Plain.before (by decide) (neutral_initializer _ _)
    · exact neutral_empty
  case offset =>
    split
    · exact Plain.before (by decide) (plain_toString _).neutral
    · exact neutral_empty

structure Function.IsNeutral (f : Function) : Prop where
  name : Neutral f.name
  returnType : f.returnType.IsNeutral
  parameters : ∀ p ∈ f.parameters, p.IsNeutral
  template : ∀ clause ∈ f.template, Neutral clause

lemma neutral_comment {template : Option String} (h : ∀ clause ∈ template, Neutral clause) :
    Neutral (Template.comment template) := by
  cases template with
  | none => exact neutral_empty
  | some clause => exact (Plain.before (by decide) (h clause rfl)).behind (by decide)

lemma Function.IsNeutral.signature {f : Function} (h : f.IsNeutral) : Neutral f.signature := by
  have hexplicit : Neutral (if f.isExplicit then "explicit " else "") :=
    neutral_word _ (by decide)
  have hconst : Neutral (if f.isConst then " const" else "") := neutral_word _ (by decide)
  have hparameters : Neutral (", ".intercalate (f.parameters.map Parameter.source)) := by
    refine neutral_composes.intercalate (Plain.neutral (by decide)) fun x hx => ?_
    obtain ⟨p, hp, rfl⟩ := List.mem_map.mp hx
    exact (h.parameters p hp).source
  exact ((((hexplicit.append h.name).behind (by decide)).append hparameters).behind
    (by decide)).append hconst

lemma Function.IsNeutral.source {f : Function} (h : f.IsNeutral) : Neutral f.source := by
  have hresult : (if f.returnType.before = "" then Declarator.plain "void"
      else f.returnType).IsNeutral := by
    split
    · exact (Declarator.plain_isPlain (by decide)).neutral
    · exact h.returnType
  have hdeclared : Neutral (if f.omitsReturnType then f.signature
      else (if f.returnType.before = "" then Declarator.plain "void"
        else f.returnType).declare f.signature) :=
    neutral_ite h.signature (hresult.declare h.signature)
  have hvirtual : Neutral (if f.virtuality = .none then "" else "virtual ") :=
    neutral_ite neutral_empty (Plain.neutral (by decide))
  exact (((((((((neutral_comment h.template).append (neutral_word _ (by decide))).append
    (neutral_word _ (by decide))).append (neutral_word _ (by decide))).append hvirtual).append
    hdeclared).append (neutral_word _ (by decide))).append (neutral_word _ (by decide))).append
    (neutral_word _ (by decide))).behind (by decide)

/-! Aggregates -/

namespace Aggregate

/-- What the members are read as does not matter, as long as their texts close their braces. -/
structure IsNeutral (a : Aggregate Declaration) : Prop where
  name : Neutral a.name
  bases : ∀ base ∈ a.bases, Neutral base.type
  members : ∀ group ∈ a.members.entries, ∀ d ∈ group.2, Neutral d.source
  template : ∀ clause ∈ a.template, Neutral clause

variable {a : Aggregate Declaration}

lemma neutral_keyword (access : Access) : Neutral access.keyword := by
  cases access <;> exact Plain.neutral (by decide)

lemma IsNeutral.head (h : a.IsNeutral) : Neutral a.head := by
  have hkind : Neutral a.kind.keyword := by
    cases a.kind <;> exact Plain.neutral (by decide)
  have hbase : ∀ base ∈ a.bases, Neutral (base.source a.kind) := fun base hb =>
    ((neutral_ite neutral_empty ((neutral_keyword _).behind (by decide))).append
      (neutral_word _ (by decide))).append (h.bases base hb)
  refine (hkind.append (neutral_ite neutral_empty (Plain.before (by decide) h.name))).append
    (neutral_ite neutral_empty (Plain.before (by decide) ?_))
  refine neutral_composes.intercalate (Plain.neutral (by decide)) fun x hx => ?_
  obtain ⟨base, hb, rfl⟩ := List.mem_map.mp hx
  exact hbase base hb

lemma IsNeutral.sizeCheck (h : a.IsNeutral) : Neutral a.sizeCheck := by
  unfold Aggregate.sizeCheck
  split
  · exact neutral_ite neutral_empty ((((Plain.before (by decide) h.name).behind
      (by decide)).append (plain_toString _).neutral).behind (by decide))
  · exact neutral_empty

lemma neutral_label (isFirst : Bool) (access : Access) :
    Neutral (ofLines (label isFirst access)) := by
  cases isFirst <;> cases access <;> exact Plain.neutral (by decide)

/-- The lines of a member close the braces that the member's text closes. -/
lemma neutral_groupLines {default current : Access} {isFirst : Bool} {members : List MemberText}
    (h : ∀ m ∈ members, Neutral m.text) :
    Neutral (ofLines (groupLines default isFirst current members).1) := by
  induction members generalizing current with
  | nil => exact neutral_empty
  | cons m rest ih =>
    have hlabel : ∀ access, Neutral (ofLines (if access = current then []
        else label isFirst access)) := fun access => by
      split
      · exact neutral_empty
      · exact neutral_label isFirst access
    rw [groupLines]
    dsimp only
    rw [ofLines_append, ofLines_append]
    exact ((hlabel _).append (h m List.mem_cons_self).lines).append
      (ih fun x hx => h x (List.mem_cons_of_mem m hx))

lemma neutral_bodyLines {default current : Access} {isFirst : Bool}
    {groups : List (List MemberText)} (h : ∀ group ∈ groups, ∀ m ∈ group, Neutral m.text) :
    Neutral (ofLines (bodyLines default isFirst current groups)) := by
  induction groups generalizing current isFirst with
  | nil => exact neutral_empty
  | cons group rest ih =>
    rw [bodyLines]
    dsimp only
    rw [ofLines_append]
    exact (neutral_groupLines (h group List.mem_cons_self)).append
      (ih fun x hx => h x (List.mem_cons_of_mem group hx))

lemma IsNeutral.layout (h : a.IsNeutral) {groups : List (List MemberText)}
    (hgroups : ∀ group ∈ groups, ∀ m ∈ group, Neutral m.text) : Neutral (a.layout groups) :=
  (neutral_block ((neutral_comment h.template).append h.head)
    (neutral_bodyLines hgroups)).append h.sizeCheck

end Aggregate

namespace Declaration

/-- The names and types of a declaration close the braces that they open, and if it is an aggregate,
the texts of its members do. -/
def IsNeutral : Declaration → Prop
  | typedef d => d.IsNeutral
  | parameter d => d.IsNeutral
  | function d => d.IsNeutral
  | enumeration d => d.IsNeutral
  | field d => d.IsNeutral
  | nameImport d => d.IsNeutral
  | aggregate d => d.IsNeutral

lemma mem_memberTexts {members : List Declaration} {m : MemberText}
    (h : m ∈ memberTexts members) : ∃ d ∈ members, m.text = d.source := by
  induction members with
  | nil => cases h
  | cons d rest ih =>
    rw [memberTexts] at h
    rcases List.mem_cons.mp h with rfl | h
    · exact ⟨d, List.mem_cons_self, rfl⟩
    · obtain ⟨d', hd', htext⟩ := ih h
      exact ⟨d', List.mem_cons_of_mem d hd', htext⟩

lemma mem_groupTexts {groups : List (UInt64 × List Declaration)} {texts : List MemberText}
    (h : texts ∈ groupTexts groups) : ∃ group ∈ groups, texts = memberTexts group.2 := by
  induction groups with
  | nil => cases h
  | cons group rest ih =>
    rw [groupTexts] at h
    rcases List.mem_cons.mp h with rfl | h
    · exact ⟨group, List.mem_cons_self, rfl⟩
    · obtain ⟨group', hgroup, htexts⟩ := ih h
      exact ⟨group', List.mem_cons_of_mem group hgroup, htexts⟩

/-- A declaration whose parts are neutral has a neutral text. -/
lemma IsNeutral.source {d : Declaration} (h : d.IsNeutral) : Neutral d.source := by
  cases d with
  | typedef d => rw [Declaration.source]; exact Typedef.IsNeutral.source h
  | parameter d => rw [Declaration.source]; exact Parameter.IsNeutral.source h
  | function d => rw [Declaration.source]; exact Function.IsNeutral.source h
  | enumeration d => rw [Declaration.source]; exact Enumeration.IsNeutral.source h
  | field d => rw [Declaration.source]; exact Field.IsNeutral.source h
  | nameImport d => rw [Declaration.source]; exact NameImport.IsNeutral.source h
  | aggregate d =>
    obtain ⟨placement, kind, name, size, bases, ⟨groups⟩, template⟩ := d
    rw [Declaration.source]
    refine Aggregate.IsNeutral.layout h fun texts htexts m hm => ?_
    obtain ⟨group, hgroup, rfl⟩ := mem_groupTexts htexts
    obtain ⟨d, hd, htext⟩ := mem_memberTexts hm
    rw [htext]
    exact Aggregate.IsNeutral.members h group hgroup d hd

end Declaration

/-! Readings -/

namespace Debug.EntryTree.BraceFree

variable {t : EntryTree} {options : Options} (h : t.BraceFree)
include h

lemma parameter (node : NodeId) : (Parameter.ofEntry t node).IsNeutral := by
  unfold Parameter.ofEntry
  split
  · exact ⟨neutral_empty, (Declarator.plain_isPlain (by decide)).neutral⟩
  · exact ⟨(h.nameOf node).neutral, (h.spellTypeOf node).neutral⟩

/-- The definition that an alias spells out may have braces of its own. -/
lemma typedef {definition : Option (NodeId × String)} (hd : ∀ d ∈ definition, Neutral d.2)
    (node : NodeId) : (Typedef.ofEntry t definition node).IsNeutral := by
  have hnames : ∀ name ∈ (t.shortName? node).toList, Neutral name := fun name hname =>
    (h.shortName? (Option.mem_toList.mp hname)).neutral
  cases definition with
  | none => exact ⟨hnames, (h.spellTypeOf node).joined.neutral⟩
  | some d => exact ⟨hnames, hd d rfl⟩

lemma nameImport (node : NodeId) : (NameImport.ofEntry t node).IsNeutral where
  form name hform := by
    simp only [NameImport.ofEntry] at hform
    split at hform
    · cases hform
    · split at hform
      · rename_i found hname
        have halias : ∀ b : Bool, (if b = true then ImportForm.alias found else .declaration) =
            .alias name → found = name := by
          rintro (_ | _) hb <;> cases hb
          rfl
        obtain rfl := halias _ hform
        exact (h.shortName? hname).neutral
      · cases hform
  target := by
    simp only [NameImport.ofEntry]
    cases htarget : (t.target? node .importTarget).bind (NameImport.targetName? t) with
    | none => exact neutral_empty
    | some name =>
      obtain ⟨imported, -, hname⟩ := Option.bind_eq_some_iff.mp htarget
      unfold NameImport.targetName? at hname
      split at hname
      · cases hname
      · cases hname
        exact (h.qualifiedName imported).neutral

lemma enumeration (node : NodeId) : (Enumeration.ofEntry t node).IsNeutral where
  name := (h.nameOf node).neutral
  baseType base hbase := by
    obtain ⟨type, -, rfl⟩ := Option.map_eq_some_iff.mp hbase
    exact (h.spell _).joined.neutral
  enumerators x hx := by
    obtain ⟨c, -, hc⟩ := List.mem_filterMap.mp hx
    unfold Enumeration.enumerator? at hc
    split at hc
    · obtain ⟨value, -, rfl⟩ := Option.map_eq_some_iff.mp hc
      exact (h.nameOf c).neutral
    · cases hc

lemma field {definition : Option String} (hd : ∀ text ∈ definition, Neutral text)
    (node : NodeId) : (Field.ofEntry t definition node).IsNeutral where
  name := (h.nameOf node).neutral
  type := by
    cases definition with
    | none => exact (h.spellTypeOf node).neutral
    | some text => exact ⟨hd text rfl, neutral_empty⟩

lemma scopeVariable {definition : Option String} (hd : ∀ text ∈ definition, Neutral text)
    (node : NodeId) : (Field.ofVariable t definition node).IsNeutral :=
  ⟨(h.field hd node).name, (h.field hd node).type⟩

/-- A template clause is trimmed, which takes no brace away as there is none. -/
lemma clause {node : NodeId} {clause : String} (hclause : Template.clause? t node = some clause) :
    Plain clause := by
  have hparameter : ∀ c text, Template.parameter? t c = some text → Plain text := by
    intro c text htext
    obtain ⟨raw, hraw, rfl⟩ := Option.map_eq_some_iff.mp htext
    have hname := h.nameOf c
    refine Plain.trimmedEnd ?_
    split at hraw <;> cases hraw
    · exact Plain.append (by decide) hname
    · exact (h.spellTypeOf c).declare hname
    · exact Plain.append (by decide) hname
    · exact Plain.append (by decide) hname
  unfold Template.clause? at hclause
  split at hclause
  · cases hclause
  · rename_i params hparams
    cases hclause
    refine (Plain.append (by decide) (plain_composes.intercalate (by decide) fun x hx => ?_)).append
      (by decide)
    obtain ⟨c, -, hc⟩ := List.mem_filterMap.mp hx
    exact hparameter c x hc

lemma function (isMember : Bool) (node : NodeId) :
    (Function.ofEntry t isMember node).IsNeutral where
  name := (h.nameOf node).neutral
  returnType := (h.spell _).neutral
  parameters p hp := by
    obtain ⟨c, -, hc⟩ := List.mem_filterMap.mp hp
    unfold Function.parameter? at hc
    split at hc
    · split at hc
      · cases hc
      · cases hc
        exact h.parameter c
    · cases hc
      exact ⟨neutral_empty, (Declarator.plain_isPlain (by decide)).neutral⟩
    · cases hc
  template clause hclause := (h.clause hclause).neutral

end Debug.EntryTree.BraceFree

namespace SortedMap

variable {κ α : Type} [LT κ] [DecidableLT κ] [DecidableEq κ] {Q : α → Prop} {m : SortedMap κ α}

/-- Every value has a property. -/
def Forall (Q : α → Prop) (m : SortedMap κ α) : Prop := ∀ e ∈ m.entries, Q e.2

/-- What every value has, every value has after an alteration if the altered one gets it. -/
lemma Forall.alter (h : m.Forall Q) {key : κ} {f : Option α → α}
    (hf : ∀ present : Option α, (∀ a ∈ present, Q a) → Q (f present)) :
    (m.alter key f).Forall Q := by
  obtain ⟨entries⟩ := m
  simp only [Forall, SortedMap.alter] at h ⊢
  induction entries with
  | nil =>
    intro e he
    rw [List.mem_singleton.mp he]
    exact hf none (by simp)
  | cons first rest ih =>
    have hrest : ∀ e ∈ rest, Q e.2 := fun e he => h e (List.mem_cons_of_mem first he)
    intro e he
    simp only [alterEntries] at he
    split at he
    · rcases List.mem_cons.mp he with rfl | he
      · exact hf none (by simp)
      · exact h e he
    · split at he
      · rcases List.mem_cons.mp he with rfl | he
        · exact hf _ fun a ha => Option.mem_some.mp ha ▸ h first List.mem_cons_self
        · exact hrest e he
      · rcases List.mem_cons.mp he with rfl | he
        · exact h _ List.mem_cons_self
        · exact ih hrest e he

end SortedMap

namespace Declaration

variable {t : EntryTree} {options : Options}
  {read : DeclarationKind → NodeId → Option Declaration}

/-- A group that does not exist holds nothing. -/
lemma forall_getD {P : Declaration → Prop} {present : Option (List Declaration)}
    (h : ∀ group ∈ present, ∀ d ∈ group, P d) : ∀ d ∈ present.getD [], P d := by
  cases present with
  | none => exact fun d hd => absurd hd List.not_mem_nil
  | some group => exact h group rfl

/-- Every declaration of a group closes the braces that it opens. -/
def GroupNeutral (group : List Declaration) : Prop := ∀ d ∈ group, Neutral d.source

lemma placeMember_neutral (hread : ∀ {kind node d}, read kind node = some d → Neutral d.source)
    {cap : Nat} {groups groups' : SortedMap UInt64 (List Declaration)}
    {entry : UInt64 × DeclarationKind × NodeId} (h : groups.Forall GroupNeutral)
    (hplace : placeMember cap read groups entry = some groups') :
    groups'.Forall GroupNeutral := by
  unfold placeMember at hplace
  split at hplace
  · cases hplace
    exact h.alter fun _ => forall_getD
  · obtain ⟨d, hd, rfl⟩ := Option.map_eq_some_iff.mp hplace
    refine h.alter fun present hgroup x hx => ?_
    rcases List.mem_append.mp hx with hx | hx
    · exact forall_getD hgroup x hx
    · rw [List.mem_singleton.mp hx]
      exact hread hd

lemma placeMembers_neutral (hread : ∀ {kind node d}, read kind node = some d → Neutral d.source)
    {cap : Nat} {entries : List (UInt64 × DeclarationKind × NodeId)}
    {groups groups' : SortedMap UInt64 (List Declaration)} (h : groups.Forall GroupNeutral)
    (hplace : entries.foldlM (placeMember cap read) groups = some groups') :
    groups'.Forall GroupNeutral := by
  induction entries generalizing groups with
  | nil =>
    cases hplace
    exact h
  | cons entry rest ih =>
    rw [List.foldlM_cons] at hplace
    obtain ⟨next, hfirst, hrest⟩ := Option.bind_eq_some_iff.mp hplace
    exact ih (placeMember_neutral hread h hfirst) hrest

lemma mem_dropRepeatsOf {last : String} {members : List Declaration} {d : Declaration}
    (h : d ∈ dropRepeatsOf last members) : d ∈ members := by
  induction members generalizing last with
  | nil => exact h
  | cons first rest ih =>
    rw [dropRepeatsOf] at h
    split at h
    · exact List.mem_cons_of_mem first (ih h)
    · rcases List.mem_cons.mp h with rfl | h
      · exact List.mem_cons_self
      · exact List.mem_cons_of_mem first (ih h)

lemma mem_dropRepeats {members : List Declaration} {d : Declaration}
    (h : d ∈ dropRepeats members) : d ∈ members := by
  cases members with
  | nil => exact h
  | cons first rest =>
    rcases List.mem_cons.mp h with rfl | h
    · exact List.mem_cons_self
    · exact List.mem_cons_of_mem first (mem_dropRepeatsOf h)

lemma readAggregate_neutral (h : t.BraceFree)
    (hread : ∀ {kind node d}, read kind node = some d → Neutral d.source)
    {kind : AggregateKind} {node : NodeId} {a : Aggregate Declaration}
    (ha : readAggregate t options read kind node = some a) : a.IsNeutral := by
  obtain ⟨groups, hgroups, rfl⟩ := Option.map_eq_some_iff.mp ha
  have hmembers : groups.Forall GroupNeutral :=
    placeMembers_neutral hread (fun _ hgroup => absurd hgroup List.not_mem_nil) hgroups
  refine ⟨(h.nameOf node).neutral, fun base hbase => ?_, fun group hgroup d hd => ?_,
    fun clause hclause => (h.clause hclause).neutral⟩
  · obtain ⟨c, -, rfl⟩ := List.mem_map.mp hbase
    exact (h.spellTypeOf c).joined.neutral
  · obtain ⟨whole, hwhole, rfl⟩ := List.mem_map.mp hgroup
    exact hmembers whole hwhole d (mem_dropRepeats hd)

/-- A definition loses its semicolon where it stands for a type, and no brace. -/
lemma definition?_neutral (hread : ∀ {kind node d}, read kind node = some d → Neutral d.source)
    {depth : Nat} {node : NodeId} {definition : Option (NodeId × String)}
    (h : definition? t options depth read node = some definition) :
    ∀ d ∈ definition, Neutral d.2 := by
  rintro d rfl
  unfold definition? at h
  split at h
  · cases h
  · split at h
    · cases h
    · split at h
      · cases h
      · obtain ⟨inner, hinner, heq⟩ := Option.map_eq_some_iff.mp h
        cases heq
        exact (hread hinner).dropSemicolon

/-- Whatever is read, at whatever depth of definitions in definitions, is neutral. -/
lemma readWithin_neutral (h : t.BraceFree) {fuel depth : Nat} {kind : DeclarationKind}
    {node : NodeId} {d : Declaration} (hread : readWithin t options fuel depth kind node = some d) :
    d.IsNeutral := by
  induction fuel generalizing depth kind node d with
  | zero => cases hread
  | succ fuel ih =>
    -- What a declaration spells out, or has as a member, is read with a smaller bound.
    have hinner : ∀ {depth kind node d}, readWithin t options fuel depth kind node = some d →
        Neutral d.source := fun hd => (ih hd).source
    cases kind <;> simp only [readWithin, Option.map_eq_some_iff, Option.some.injEq] at hread
    case typedef =>
      obtain ⟨definition, hdefinition, rfl⟩ := hread
      exact h.typedef (definition?_neutral hinner hdefinition) node
    case parameter =>
      obtain rfl := hread
      exact h.parameter node
    case function isMember =>
      obtain rfl := hread
      exact h.function isMember node
    case enumeration =>
      obtain rfl := hread
      exact h.enumeration node
    case field =>
      obtain ⟨definition, hdefinition, rfl⟩ := hread
      refine h.field (fun text htext => ?_) node
      obtain ⟨d, hd, rfl⟩ := Option.map_eq_some_iff.mp htext
      exact definition?_neutral hinner hdefinition d hd
    case scopeVariable =>
      obtain ⟨definition, hdefinition, rfl⟩ := hread
      refine h.scopeVariable (fun text htext => ?_) node
      obtain ⟨d, hd, rfl⟩ := Option.map_eq_some_iff.mp htext
      exact definition?_neutral hinner hdefinition d hd
    case nameImport =>
      obtain rfl := hread
      exact h.nameImport node
    case aggregate kind =>
      obtain ⟨a, ha, rfl⟩ := hread
      exact readAggregate_neutral h hinner ha

lemma ofEntry?_neutral (h : t.BraceFree) {kind : DeclarationKind} {node : NodeId}
    {d : Declaration} (hread : ofEntry? t options kind node = some d) : d.IsNeutral :=
  readWithin_neutral h hread

end Declaration

end HeaderRecovery
