import HeaderRecovery.Proofs.MemberCollection
import HeaderRecovery.Proofs.Nesting

/-!
What becomes of the unnamed types among the children of an aggregate. One that is the type of a
data member is not a nested definition; it is spelled out at its members instead. Main statement:
any other one is on its line, and a member that finds room on its own line has the definition as
its type, unless too many definitions are already being spelled out around it. Nothing spells out
a type if the members that have it are left out.
-/
namespace HeaderRecovery.Declaration
open Debug

variable {t : EntryTree} {options : Options} {depth : Nat} {aggregate : AggregateKind}
variable {node child type member : NodeId} {line : UInt64} {a : Aggregate Declaration}

/-! ### Definitions of unnamed types -/

/-- Inside `depth` definitions that are being spelled out, the entry of a type is read as `d`. -/
def DefinedAs (t : EntryTree) (options : Options) (depth : Nat) (type : NodeId)
    (d : Declaration) : Prop :=
  ∃ kind, DeclarationKind.ofTag? (t.tag type) = some kind ∧ ReadAs t options depth kind type d

lemma DefinedAs.unique {d d' : Declaration} (h : DefinedAs t options depth type d)
    (h' : DefinedAs t options depth type d') : d = d' := by
  obtain ⟨kind, hkind, hread⟩ := h
  obtain ⟨kind', hkind', hread'⟩ := h'
  rw [hkind, Option.some.injEq] at hkind'
  subst hkind'
  exact hread.unique hread'

lemma exists_kind_of_unnamed (unnamed : isUnnamedType t type) :
    ∃ kind, DeclarationKind.ofTag? (t.tag type) = some kind := by
  simp only [isUnnamedType, Bool.and_eq_true, Bool.or_eq_true, decide_eq_true_eq] at unnamed
  cases htag : t.tag type <;>
    simp_all [DeclarationKind.ofTag?, AggregateKind.ofTag?]

/-- A member with an unnamed type has the definition of the type in place of its name, as far as
the options allow that to nest. -/
lemma ReadAs.field_of_unnamed {d : Declaration} (h : ReadAs t options depth .field member d)
    (htarget : t.target? member .type = some type) (unnamed : isUnnamedType t type) :
    (depth < options.maxInlineDepth →
      ∃ definition, DefinedAs t options (depth + 1) type definition ∧
        d = field (.ofEntry t (some (dropSemicolon definition.source)) member)) ∧
    (options.maxInlineDepth ≤ depth → d = field (.ofEntry t none member)) := by
  obtain ⟨fuel, h⟩ := h
  cases fuel with
  | zero => cases h
  | succ fuel =>
    obtain ⟨definition, hread, rfl⟩ := Option.map_eq_some_iff.mp h
    obtain ⟨kind, hkind⟩ := exists_kind_of_unnamed unnamed
    simp only [definition?, htarget, Option.filter_some, unnamed, if_true, hkind] at hread
    constructor
    · intro hshallow
      rw [if_neg (Nat.not_le_of_lt hshallow)] at hread
      obtain ⟨d, hd, rfl⟩ := Option.map_eq_some_iff.mp hread
      exact ⟨d, ⟨kind, hkind, fuel, hd⟩, rfl⟩
    · intro hdeep
      rw [if_pos hdeep] at hread
      cases hread
      rfl

/-! ### Room on a line -/

/-- A child that is declared on this line of its aggregate, with fewer children before it that
can be members there than a line may hold. -/
structure HasRoom (t : EntryTree) (options : Options) (node : NodeId) (line : UInt64)
    (child : NodeId) : Prop where
  native : ¬ isForeign t node child
  declared : t.declaredLine? child = some line
  positive : 0 < line
  place : ∃ before after, (t.children node).map t.resolve = before ++ child :: after ∧
    (before.filter (Eligible t node line)).length < options.maxEntriesPerLine

/-- A line of the aggregate has this declaration, or its text from another one. -/
def HasText (a : Aggregate Declaration) (line : UInt64) (d : Declaration) : Prop :=
  ∃ group, a.members.find? line = some group ∧ ∃ e ∈ group, e.source = d.source

lemma HasRoom.mem_take (h : HasRoom t options node line child)
    (eligible : Eligible t node line child) :
    child ∈ (eligibleChildren t node line).take options.maxEntriesPerLine := by
  obtain ⟨before, after, hchildren, hroom⟩ := h.place
  have heligible : eligibleChildren t node line =
      (before.filter (Eligible t node line) ++ [child]) ++
        after.filter (Eligible t node line) := by
    rw [eligibleChildren, hchildren, List.filter_append,
      List.filter_cons_of_pos (by simpa using eligible), List.append_assoc,
      List.singleton_append]
  rw [heligible, List.take_append, List.take_of_length_le (by simpa using hroom)]
  simp

lemma exists_of_mem_forall₂ {α β : Type} {R : α → β → Prop} {xs : List α} {ys : List β}
    (h : List.Forall₂ R xs ys) {x : α} (hx : x ∈ xs) : ∃ y ∈ ys, R x y := by
  induction h with
  | nil => cases hx
  | cons hxy _ ih =>
    rcases List.mem_cons.mp hx with rfl | hx
    · exact ⟨_, List.mem_cons_self, hxy⟩
    · obtain ⟨y, hy, hR⟩ := ih hx
      exact ⟨y, List.mem_cons_of_mem _ hy, hR⟩

lemma Runs.exists_head {readings : List Declaration}
    {runs : List (Declaration × List Declaration)} (h : Runs readings runs) {d : Declaration}
    (hd : d ∈ readings) : ∃ e ∈ runs.map (·.1), e.source = d.source := by
  rw [h.all] at hd
  obtain ⟨run, hrun, hd⟩ := List.mem_flatMap.mp hd
  refine ⟨run.1, List.mem_map_of_mem hrun, ?_⟩
  rcases List.mem_cons.mp hd with rfl | hd
  · rfl
  · exact (h.repeated run hrun d hd).symm

/-- An eligible child that finds room on its line is read, and the line has its text. -/
lemma ReadAs.keeps (h : ReadAs t options depth (.aggregate aggregate) node (.aggregate a))
    (eligible : Eligible t node line child) (room : HasRoom t options node line child) :
    ∃ kind d, memberKind? t [] child = some kind ∧ ReadAs t options depth kind child d ∧
      HasText a line d := by
  obtain ⟨readings, runs, hreadings, hruns, hfind⟩ := h.collected line
  have hmem := room.mem_take eligible
  obtain ⟨d, hd, kind, hkind, hread⟩ := exists_of_mem_forall₂ hreadings hmem
  refine ⟨kind, d, hkind, hread, runs.map (·.1), ?_, hruns.exists_head hd⟩
  rw [hfind, if_neg (List.ne_nil_of_mem (List.mem_of_mem_take hmem))]

/-- An unnamed type that no data member has is a nested definition on its line. -/
lemma ReadAs.keeps_unnamed
    (h : ReadAs t options depth (.aggregate aggregate) node (.aggregate a))
    (unnamed : isUnnamedType t type) (nested : ¬ SpelledAtMember t node type)
    (room : HasRoom t options node line type) :
    ∃ d, DefinedAs t options depth type d ∧ HasText a line d := by
  obtain ⟨kind, hkind⟩ := exists_kind_of_unnamed unnamed
  have hmember := memberKind?_of_unnamed unnamed hkind
  have eligible : Eligible t node line type :=
    ⟨by simp [hmember], nested, room.native, room.declared, room.positive⟩
  obtain ⟨kind', d, hkind', hread, htext⟩ := h.keeps eligible room
  rw [hmember, Option.some.injEq] at hkind'
  subst hkind'
  exact ⟨d, ⟨kind, hkind, hread⟩, htext⟩

/-- A data member is read as a field. -/
lemma ReadAs.keeps_dataMember
    (h : ReadAs t options depth (.aggregate aggregate) node (.aggregate a))
    (data : isDataMember (t.tag member)) (room : HasRoom t options node line member) :
    ∃ d, ReadAs t options depth .field member d ∧ HasText a line d := by
  have hmember : memberKind? t [] member = some .field := by
    unfold memberKind?
    cases htag : t.tag member <;> simp_all [isDataMember]
  have nested : ¬ SpelledAtMember t node member := by
    rintro ⟨unnamed, -⟩
    obtain ⟨kind, hkind⟩ := exists_kind_of_unnamed unnamed
    rw [memberKind?_of_unnamed unnamed hkind, Option.some.injEq] at hmember
    subst hmember
    cases htag : t.tag member <;> simp_all [DeclarationKind.ofTag?, AggregateKind.ofTag?]
  obtain ⟨kind, d, hkind, hread, htext⟩ :=
    h.keeps ⟨by simp [hmember], nested, room.native, room.declared, room.positive⟩ room
  rw [hmember, Option.some.injEq] at hkind
  subst hkind
  exact ⟨d, hread, htext⟩

/-- Where an aggregate can be read, an unnamed type that none of its data members has is defined
on its line. Of the members that have it, each that finds room on its own line has the definition
as its type while fewer definitions than the options allow are being spelled out around it, and
else the spelling that stands for the name. -/
theorem unnamedType_kept
    (h : ReadAs t options depth (.aggregate aggregate) node (.aggregate a))
    (unnamed : isUnnamedType t type) :
    (¬ SpelledAtMember t node type → ∀ line, HasRoom t options node line type →
      ∃ d, DefinedAs t options depth type d ∧ HasText a line d) ∧
    ∀ member line, isDataMember (t.tag member) → t.target? member .type = some type →
      HasRoom t options node line member →
      (depth < options.maxInlineDepth → ∃ d, DefinedAs t options (depth + 1) type d ∧
        HasText a line (field (.ofEntry t (some (dropSemicolon d.source)) member))) ∧
      (options.maxInlineDepth ≤ depth → HasText a line (field (.ofEntry t none member))) := by
  refine ⟨fun nested line room => h.keeps_unnamed unnamed nested room, ?_⟩
  intro member line data htarget room
  obtain ⟨d, hread, htext⟩ := h.keeps_dataMember data room
  obtain ⟨hshallow, hdeep⟩ := hread.field_of_unnamed htarget unnamed
  constructor
  · intro hdepth
    obtain ⟨definition, hdefinition, rfl⟩ := hshallow hdepth
    exact ⟨definition, hdefinition, htext⟩
  · intro hdepth
    rwa [← hdeep hdepth]

/-- The type `int` and a structure without members. -/
def emptyShape : TreeBuilder × NodeId × NodeId :=
  let (b, root) := TreeBuilder.start.compileUnit "s.cpp" "/src"
  let (b, int) := b.baseType root "int" 4 5
  let (b, struct) := b.child root .structureType
  ((b.name struct "Shape").declaredAt struct "/src/s.h" 1, int, struct)

/-- Adds an unnamed type with the one member `x` to an entry. -/
def addUnnamed (b : TreeBuilder) (parent int : NodeId) (tag : Tag) (line : UInt64) :
    TreeBuilder × NodeId :=
  let (b, type) := b.child parent tag
  let (b, member) := (b.declaredAt type "/src/s.h" line).child type .member
  (((b.name member "x").typeRef member int).declaredAt member "/src/s.h" (line + 1), type)

/-- A structure that consists of an unnamed structure and the member, without a name of its own,
that has it as its type. -/
def unnamedMember (memberLine : UInt64) : EntryTree :=
  let (b, int, struct) := emptyShape
  let (b, point) := addUnnamed b struct int .structureType 2
  let (b, member) := b.child struct .member
  ((b.typeRef member point).declaredAt member "/src/s.h" memberLine).tree

/-- The definition stands where the member without a name would have the name of its type. -/
theorem unnamedMember_kept :
    ∃ a, ReadAs (unnamedMember 4) {} 0 (.aggregate .structKind) 2 (.aggregate a) ∧
      isUnnamedType (unnamedMember 4) 3 ∧ HasRoom (unnamedMember 4) {} 2 4 5 ∧
      ∃ d, DefinedAs (unnamedMember 4) {} 1 3 d ∧ d.source = "struct \x7b\n    int x;\n\x7d;" ∧
        HasText a 4 (field (.ofEntry (unnamedMember 4) (some (dropSemicolon d.source)) 5)) := by
  have hinner : (readWithin (unnamedMember 4) {} 3 1 (.aggregate .structKind) 3).map source =
      some "struct \x7b\n    int x;\n\x7d;" := by cbv
  have hkind : DeclarationKind.ofTag? ((unnamedMember 4).tag 3) =
      some (.aggregate .structKind) := rfl
  have htarget : (unnamedMember 4).target? 5 .type = some 3 := by cbv
  have unnamed : isUnnamedType (unnamedMember 4) 3 := rfl
  have hentries : memberEntries (unnamedMember 4) 2 = [(4, .field, 5)] := by cbv
  have room : HasRoom (unnamedMember 4) {} 2 4 5 :=
    ⟨by decide +kernel, by decide +kernel, by decide, [3], [], by decide +kernel, by cbv⟩
  -- Reading the definition gives the one member, and the one member gives the aggregate.
  obtain ⟨d, hd, hsource⟩ := Option.map_eq_some_iff.mp hinner
  have hdefinition : definition? (unnamedMember 4) {} 0 (readWithin (unnamedMember 4) {} 3 1) 5 =
      some (some (3, dropSemicolon d.source)) := by
    simp [definition?, htarget, Option.filter_some, unnamed, hkind, hd]
  have hfield : readWithin (unnamedMember 4) {} 4 0 .field 5 =
      some (field (.ofEntry (unnamedMember 4) (some (dropSemicolon d.source)) 5)) :=
    Option.map_eq_some_iff.mpr ⟨_, hdefinition, rfl⟩
  obtain ⟨a, ha⟩ : ∃ a, readWithin (unnamedMember 4) {} 5 0 (.aggregate .structKind) 2 =
      some (.aggregate a) := by
    rw [readWithin, readAggregate, hentries]
    simp [placeMember, hfield]
  obtain ⟨-, hmembers⟩ := unnamedType_kept ⟨5, ha⟩ unnamed
  obtain ⟨hshallow, -⟩ := hmembers 5 4 rfl htarget room
  obtain ⟨d', hd', htext⟩ := hshallow (by decide)
  have hsame : d' = d := hd'.unique ⟨_, hkind, 3, hd⟩
  subst hsame
  exact ⟨a, ⟨5, ha⟩, unnamed, room, d', hd', hsource, htext⟩

/-! ### Definitions that are missing -/

/-- The definition of an unnamed type is an entry of its line, or the type of a field on any. -/
def HasDefinition (t : EntryTree) (options : Options) (depth : Nat) (a : Aggregate Declaration)
    (line : UInt64) (type : NodeId) : Prop :=
  (∃ d group, DefinedAs t options depth type d ∧ a.members.find? line = some group ∧ d ∈ group) ∨
  ∃ d fieldLine group f, DefinedAs t options (depth + 1) type d ∧
    a.members.find? fieldLine = some group ∧ field f ∈ group ∧
    f.type = .plain (dropSemicolon d.source)

/-- The size of an aggregate, or the type of a field. -/
def sizeAndType : Declaration → Option UInt64 × Option Declarator
  | .aggregate a => (a.byteSize, none)
  | .field f => (none, some f.type)
  | _ => (none, none)

/-- A definition that an aggregate has is seen in what is seen of its members. -/
lemma HasDefinition.seen {views : List (UInt64 × List (Option UInt64 × Option Declarator))}
    (h : HasDefinition t options depth a line type)
    (hviews : (a.members.entries.map fun e => (e.1, e.2.map sizeAndType)) = views) :
    (∃ d, DefinedAs t options depth type d ∧ ∃ e ∈ views, e.1 = line ∧ sizeAndType d ∈ e.2) ∨
    ∃ d, DefinedAs t options (depth + 1) type d ∧
      ∃ e ∈ views, (none, some (.plain (dropSemicolon d.source))) ∈ e.2 := by
  have hgroup : ∀ {line group}, a.members.find? line = some group →
      (line, group.map sizeAndType) ∈ views := by
    intro line group hfind
    obtain ⟨earlier, later, hentries, -⟩ := List.lookup_eq_some_iff.mp hfind
    rw [← hviews, hentries]
    simp
  rcases h with ⟨d, group, hd, hfind, hmem⟩ | ⟨d, fieldLine, group, f, hd, hfind, hmem, htype⟩
  · exact Or.inl ⟨d, hd, _, hgroup hfind, rfl, List.mem_map_of_mem hmem⟩
  · have hseen : sizeAndType (field f) = (none, some (.plain (dropSemicolon d.source))) := by
      rw [sizeAndType, htype]
    exact Or.inr ⟨d, hd, _, hgroup hfind, hseen ▸ List.mem_map_of_mem hmem⟩

/-- Where the views of the members show neither the one nor the other reading of an unnamed type,
its definition is missing. -/
lemma not_hasDefinition {kind : DeclarationKind} {fuel : Nat}
    {views : List (UInt64 × List (Option UInt64 × Option Declarator))}
    {view : Option UInt64 × Option Declarator} {text : String}
    (hviews : (a.members.entries.map fun e => (e.1, e.2.map sizeAndType)) = views)
    (hkind : DeclarationKind.ofTag? (t.tag type) = some kind)
    (houter : (readWithin t options fuel depth kind type).map sizeAndType = some view)
    (hinner : (readWithin t options fuel (depth + 1) kind type).map source = some text)
    (own : ∀ e ∈ views, e.1 = line → view ∉ e.2)
    (fields : ∀ e ∈ views, (none, some (.plain (dropSemicolon text))) ∉ e.2) :
    ¬ HasDefinition t options depth a line type := by
  obtain ⟨d, hd, rfl⟩ := Option.map_eq_some_iff.mp houter
  obtain ⟨d', hd', rfl⟩ := Option.map_eq_some_iff.mp hinner
  have hdefined : DefinedAs t options depth type d := ⟨kind, hkind, fuel, hd⟩
  have hdefined' : DefinedAs t options (depth + 1) type d' := ⟨kind, hkind, fuel, hd'⟩
  intro h
  rcases h.seen hviews with ⟨e, he, shown, hshown, hline, hmem⟩ | ⟨e, he, shown, hshown, hmem⟩
  · rw [he.unique hdefined] at hmem
    exact own shown hshown hline hmem
  · rw [he.unique hdefined'] at hmem
    exact fields shown hshown hmem

/-- An unnamed type among the children of an aggregate finds room on its line, and yet the
aggregate does not have its definition. -/
def LacksDefinition (t : EntryTree) (options : Options) (aggregate : AggregateKind)
    (node : NodeId) (line : UInt64) (type : NodeId) : Prop :=
  ∃ a, ReadAs t options 0 (.aggregate aggregate) node (.aggregate a) ∧ isUnnamedType t type ∧
    HasRoom t options node line type ∧ ¬ HasDefinition t options 0 a line type

lemma unnamedMember_tooDeep :
    LacksDefinition (unnamedMember 4) { maxInlineDepth := 0 } .structKind 2 2 3 := by
  have hread : ( ofEntry? (unnamedMember 4) { maxInlineDepth := 0 }
      (.aggregate .structKind) 2).bind (memberViews? sizeAndType) =
        some [(4, [(none, some ⟨"Shape::(anonymous struct)", ""⟩)])] := by cbv
  have houter : (readWithin (unnamedMember 4) { maxInlineDepth := 0 } 3 0
      (.aggregate .structKind) 3).map sizeAndType = some (none, none) := by cbv
  have hinner : (readWithin (unnamedMember 4) { maxInlineDepth := 0 } 3 1
      (.aggregate .structKind) 3).map source = some "struct \x7b\n    int x;\n\x7d;" := by cbv
  obtain ⟨a, ha, hviews⟩ := exists_aggregate hread
  refine ⟨a, ⟨_, ha⟩, rfl, ⟨by decide +kernel, by decide +kernel, by decide, [], [5],
    by decide +kernel, by decide⟩, ?_⟩
  exact not_hasDefinition hviews rfl houter hinner (by simp) (by decide)

lemma unnamedMember_leftOut : LacksDefinition (unnamedMember 0) {} .structKind 2 2 3 := by
  have hread : ( ofEntry? (unnamedMember 0) {} (.aggregate .structKind) 2).bind
      (memberViews? sizeAndType) = some [] := by cbv
  obtain ⟨a, ha, hviews⟩ := exists_aggregate hread
  refine ⟨a, ⟨_, ha⟩, rfl, ⟨by decide +kernel, by decide +kernel, by decide, [], [5],
    by decide +kernel, by decide⟩, ?_⟩
  intro h
  simpa using h.seen hviews

/-- A structure with two unnamed unions on one line, the second of which has a size. -/
def unnamedTwins : EntryTree :=
  let (b, int, struct) := emptyShape
  let (b, _) := addUnnamed b struct int .unionType 2
  let (b, sized) := addUnnamed b struct int .unionType 2
  (b.unsigned sized .byteSize 4).tree

lemma unnamedTwins_once : LacksDefinition unnamedTwins {} .structKind 2 2 5 := by
  have hread : ( ofEntry? unnamedTwins {} (.aggregate .structKind) 2).bind
      (memberViews? sizeAndType) = some [(2, [(none, none)])] := by cbv
  have houter : (readWithin unnamedTwins {} 3 0 (.aggregate .unionKind) 5).map sizeAndType =
      some (some 4, none) := by cbv
  have hinner : (readWithin unnamedTwins {} 3 1 (.aggregate .unionKind) 5).map source =
      some "union \x7b\n    int x;\n\x7d;" := by cbv
  obtain ⟨a, ha, hviews⟩ := exists_aggregate hread
  refine ⟨a, ⟨_, ha⟩, rfl, ⟨by decide +kernel, by decide +kernel, by decide, [3], [],
    by decide +kernel, by cbv⟩, ?_⟩
  exact not_hasDefinition hviews rfl houter hinner (by simp) (by simp)

/-- The definition is missing where it nests too deep at its member, where its member is left out
for want of a line, and where the neighbour before it has the same text. -/
theorem unnamedTypes_missing :
    LacksDefinition (unnamedMember 4) { maxInlineDepth := 0 } .structKind 2 2 3 ∧
      LacksDefinition (unnamedMember 0) {} .structKind 2 2 3 ∧
      LacksDefinition unnamedTwins {} .structKind 2 2 5 :=
  ⟨unnamedMember_tooDeep, unnamedMember_leftOut, unnamedTwins_once⟩

end HeaderRecovery.Declaration
