import HeaderRecovery.Proofs.Buckets
import HeaderRecovery.Proofs.Marks
import HeaderRecovery.Proofs.MergeLaws

/-!
Sightings that do not contradict each other. Whichever of two is merged into the other, the result
is the same, unless both have a type with nothing in front of the name: such a type counts as none,
and what stands behind the name is lost or kept as the order has it.
-/
namespace HeaderRecovery
open Debug

/-- Two values of a property contradict each other only if both of them say something. -/
def Agree {α : Type} (blank a b : α) : Prop := a ≠ blank → b ≠ blank → a = b

namespace Agree

variable {α : Type}

lemma choice_comm {blank a b : α} (h : Agree blank a b) [Decidable (a = blank)]
    [Decidable (b = blank)] : (if a = blank then b else a) = if b = blank then a else b := by
  by_cases ha : a = blank
  · by_cases hb : b = blank <;> simp [ha, hb]
  · by_cases hb : b = blank
    · simp [ha, hb]
    · simp [h ha hb]

lemma or_comm {a b : Option α} (h : Agree none a b) : a.or b = b.or a := by
  cases a with
  | none => simp
  | some a =>
    cases b with
    | none => simp
    | some b => exact h (Option.some_ne_none a) (Option.some_ne_none b)

end Agree

/-- What stands behind the name is all that one of two different types has. -/
def LosesSuffix (a b : Declarator) : Prop := a ≠ b ∧ a.before = "" ∧ b.before = ""

lemma firstType_comm_iff {a b : Declarator} (h : Agree ⟨"", ""⟩ a b) :
    firstType a b = firstType b a ↔ ¬ LosesSuffix a b := by
  by_cases ha : a.before = "" <;> by_cases hb : b.before = ""
  · simp [firstType, LosesSuffix, ha, hb, eq_comm]
  · simp [firstType, LosesSuffix, ha, hb]
  · simp [firstType, LosesSuffix, ha, hb]
  · have hne : ∀ d : Declarator, d.before ≠ "" → d ≠ ⟨"", ""⟩ := by
      rintro d hd rfl
      exact hd rfl
    simp [firstType, LosesSuffix, h (hne a ha) (hne b hb)]

structure Placement.Compatible (a b : Placement) : Prop where
  scopes : Agree [] a.scopes b.scopes
  access : Agree none a.access b.access

lemma Placement.Compatible.merge_comm {a b : Placement} (h : a.Compatible b) :
    a.merge b = b.merge a := congrArg₂ Placement.mk h.scopes.choice_comm h.access.or_comm

structure Enumeration.Compatible (a b : Enumeration) : Prop where
  placement : a.placement.Compatible b.placement
  name : Agree "" a.name b.name
  baseType : Agree none a.baseType b.baseType
  enumerators : Agree [] a.enumerators b.enumerators

lemma Enumeration.Compatible.merge_comm {a b : Enumeration} (h : a.Compatible b) :
    a.merge b = b.merge a := by
  rw [merge, merge, Enumeration.mk.injEq]
  exact ⟨h.placement.merge_comm, h.name.choice_comm, h.baseType.or_comm,
    h.enumerators.choice_comm, Bool.or_comm _ _⟩

/-- A member line that both aggregates have holds the same members in both. -/
structure Aggregate.Compatible {Member : Type} (a b : Aggregate Member) : Prop where
  placement : a.placement.Compatible b.placement
  kind : a.kind = b.kind
  name : Agree "" a.name b.name
  byteSize : Agree none a.byteSize b.byteSize
  bases : Agree [] a.bases b.bases
  lines : ∀ line, Agree none (a.members.find? line) (b.members.find? line)
  template : Agree none a.template b.template

/-- A map that is filled up from another one is the union of both, whichever comes first. -/
lemma SortedMap.foldl_insertNew_comm {κ α : Type} [LT κ] [DecidableLT κ] [DecidableEq κ] [LE κ]
    [Std.IsLinearOrder κ] [Std.LawfulOrderLT κ] {a b : SortedMap κ α} (ha : a.Ascending)
    (hb : b.Ascending) (h : ∀ key, Agree none (a.find? key) (b.find? key)) :
    b.entries.foldl (fun m e => m.insertNew e.1 e.2) a =
      a.entries.foldl (fun m e => m.insertNew e.1 e.2) b := by
  refine ext (ascending_foldl_insertNew ha _) (ascending_foldl_insertNew hb _) fun key => ?_
  rw [find?_foldl_insertNew ha, find?_foldl_insertNew hb]
  exact (h key).or_comm

lemma Aggregate.Compatible.merge_comm {Member : Type} {a b : Aggregate Member}
    (h : a.Compatible b) (ha : a.members.Ascending) (hb : b.members.Ascending) :
    a.merge b = b.merge a := by
  rw [merge, merge, Aggregate.mk.injEq]
  exact ⟨h.placement.merge_comm, h.kind, h.name.choice_comm, h.byteSize.or_comm,
    h.bases.choice_comm, SortedMap.foldl_insertNew_comm ha hb h.lines, h.template.or_comm⟩

structure Function.Compatible (a b : Function) : Prop where
  placement : a.placement.Compatible b.placement
  name : Agree "" a.name b.name
  linkageName : Agree none a.linkageName b.linkageName
  returnType : Agree ⟨"", ""⟩ a.returnType b.returnType
  parameters : Agree [] a.parameters b.parameters
  template : Agree none a.template b.template
  virtuality : Agree .none a.virtuality b.virtuality

lemma Function.Compatible.merge_comm_iff {a b : Function} (h : a.Compatible b) :
    a.merge b = b.merge a ↔ ¬ LosesSuffix a.returnType b.returnType := by
  rw [← firstType_comm_iff h.returnType]
  refine ⟨congrArg Function.returnType, fun htype => ?_⟩
  rw [merge, merge, Function.mk.injEq]
  exact ⟨h.placement.merge_comm, h.name.choice_comm, h.linkageName.or_comm, htype,
    h.parameters.choice_comm, h.template.or_comm, Bool.or_comm _ _, Bool.or_comm _ _,
    Bool.or_comm _ _, Bool.or_comm _ _, Bool.or_comm _ _, Bool.or_comm _ _,
    h.virtuality.choice_comm, Bool.or_comm _ _, Bool.or_comm _ _, Bool.or_comm _ _⟩

structure Field.Compatible (a b : Field) : Prop where
  placement : a.placement.Compatible b.placement
  name : Agree "" a.name b.name
  type : Agree ⟨"", ""⟩ a.type b.type
  location : Agree none a.location b.location
  bitSize : Agree none a.bitSize b.bitSize
  defaultValue : Agree none a.defaultValue b.defaultValue

lemma Field.Compatible.merge_comm_iff {a b : Field} (h : a.Compatible b) :
    a.merge b = b.merge a ↔ ¬ LosesSuffix a.type b.type := by
  rw [← firstType_comm_iff h.type]
  refine ⟨congrArg Field.type, fun htype => ?_⟩
  have hlinkage : (!(a.isExternal || b.isExternal) && (a.isStatic || b.isStatic)) =
      (!(b.isExternal || a.isExternal) && (b.isStatic || a.isStatic)) := by
    rw [Bool.or_comm a.isExternal, Bool.or_comm a.isStatic]
  rw [merge, merge, Field.mk.injEq]
  exact ⟨h.placement.merge_comm, h.name.choice_comm, htype, h.location.or_comm,
    h.bitSize.or_comm, h.defaultValue.or_comm, hlinkage, Bool.or_comm _ _, Bool.or_comm _ _,
    Bool.or_comm _ _⟩

namespace Declaration

/-- Two sightings of one kind that do not contradict each other; the lines of aggregates are in
order, as of all that are read. -/
inductive Compatible : Declaration → Declaration → Prop
  | aggregate {a b : Aggregate Declaration} (ha : a.members.Ascending)
      (hb : b.members.Ascending) (h : a.Compatible b) : Compatible (aggregate a) (aggregate b)
  | enumeration {a b : Enumeration} (h : a.Compatible b) :
      Compatible (enumeration a) (enumeration b)
  | function {a b : Function} (h : a.Compatible b) : Compatible (function a) (function b)
  | field {a b : Field} (h : a.Compatible b) : Compatible (field a) (field b)

/-- The type of a field or the return type of a function. -/
def spelledType? : Declaration → Option Declarator
  | function d => some d.returnType
  | field d => some d.type
  | _ => none

/-- The types of two sightings differ in what stands behind the name alone. -/
def DependsOnOrder (a b : Declaration) : Prop :=
  ∃ x ∈ a.spelledType?, ∃ y ∈ b.spelledType?, LosesSuffix x y

variable {a b : Declaration}

lemma Compatible.merge_comm_iff (h : a.Compatible b) :
    a.merge b = b.merge a ↔ ¬ a.DependsOnOrder b := by
  cases h with
  | aggregate ha hb h =>
    exact iff_of_true (congrArg Declaration.aggregate (h.merge_comm ha hb))
      (by simp [DependsOnOrder, spelledType?])
  | enumeration h =>
    exact iff_of_true (congrArg Declaration.enumeration h.merge_comm)
      (by simp [DependsOnOrder, spelledType?])
  | function h => simpa [DependsOnOrder, spelledType?, merge] using h.merge_comm_iff
  | field h => simpa [DependsOnOrder, spelledType?, merge] using h.merge_comm_iff

end Declaration

namespace SortedMap

variable {κ α : Type} [LT κ] [DecidableLT κ] [DecidableEq κ] [LE κ] [Std.IsLinearOrder κ]
  [Std.LawfulOrderLT κ]

lemma alter_alter {m : SortedMap κ α} (h : m.Ascending) (key : κ) (f g : Option α → α) :
    (m.alter key f).alter key g = m.alter key fun present => g (some (f present)) := by
  refine ext ((h.alter _ _).alter _ _) (h.alter _ _) fun other => ?_
  rw [find?_alter (h.alter _ _), find?_alter h, find?_alter h, find?_alter h, if_pos rfl]
  split <;> rfl

/-- Only what an alteration makes of the present value counts. -/
lemma alter_congr {m : SortedMap κ α} (h : m.Ascending) {key : κ} {f g : Option α → α}
    (hfg : f (m.find? key) = g (m.find? key)) : m.alter key f = m.alter key g :=
  ext (h.alter _ _) (h.alter _ _) fun other => by rw [find?_alter h, find?_alter h, hfg]

end SortedMap

namespace SourceFile

variable {f : SourceFile} {line : UInt64} {a b : Declaration}

lemma findSame?_add (h : f.lines.Ascending) (hb : f.findSame? line b = none)
    (hsame : a.sameAs b) :
    (f.add line a).1.findSame? line b =
      if f.maxEntriesPerLine ≤ (f.line line).length then none else some (f.line line).length := by
  unfold findSame? at hb ⊢
  by_cases full : f.maxEntriesPerLine ≤ (f.line line).length
  · rw [line_add_full h full, hb, if_pos full]
  · rw [line_add_room h full, if_pos rfl, List.findIdx?_append, hb]
    simp [full, hsame, List.findIdx?_cons]

/-- A declaration that was added and then completed might as well have been complete before. -/
lemma modify_add (h : f.lines.Ascending) (room : ¬ f.maxEntriesPerLine ≤ (f.line line).length)
    (g : Declaration → Declaration) :
    (f.add line a).1.modify line (f.line line).length g = (f.add line (g a)).1 := by
  have hpresent : ((f.add line a).1.get? line (f.line line).length).isSome := by
    rw [get?, line_add_room h room, if_pos rfl]
    simp
  have hlast : ((f.line line ++ [a]).modify (f.line line).length g) = f.line line ++ [g a] :=
    List.modifyTailIdx_add (List.modifyHead g) 0 (f.line line) [a]
  have halter : (f.lines.alter line fun group =>
      (group.getD [] ++ [a]).modify (f.line line).length g) =
        f.lines.alter line fun group => group.getD [] ++ [g a] := SortedMap.alter_congr h hlast
  rw [modify, if_pos hpresent]
  simp only [add, if_neg room, SortedMap.alter_alter h, Option.getD_some, halter]

/-- A full line drops a declaration, whatever it dropped before. -/
lemma add_full (h : f.lines.Ascending) (full : f.maxEntriesPerLine ≤ (f.line line).length) :
    (f.add line a).1.add line b = f.add line b := by
  have hfull : f.maxEntriesPerLine ≤ ((f.add line a).1.line line).length := by
    rwa [line_add_full h full]
  rw [add, add_cap, if_pos hfull]
  simp only [add, if_pos full, SortedMap.alter_alter h, Option.getD_some]

end SourceFile

namespace Registry

variable {r : Registry} {file : String} {line : UInt64} {a b d : Declaration}

lemma store_unknown (h : (r.fileFor file).findSame? line d = none) :
    r.store file line d = (r.setFile file ((r.fileFor file).add line d).1,
      ((r.fileFor file).add line d).2.map fun i => ⟨file, line, i⟩) := by
  rw [fileFor] at h
  simp only [store, h]
  rfl

lemma store_known {index : Nat} (h : (r.fileFor file).findSame? line d = some index) :
    r.store file line d =
      (r.setFile file ((r.fileFor file).modify line index fun present => present.merge d),
        some ⟨file, line, index⟩) := by
  rw [fileFor] at h
  simp only [store, h]
  rfl

lemma fileFor_setFile (h : r.Ordered) (f : SourceFile) : (r.setFile file f).fileFor file = f := by
  simp [fileFor, setFile, SortedMap.find?_alter h.files]

lemma setFile_setFile (h : r.Ordered) (f g : SourceFile) :
    (r.setFile file f).setFile file g = r.setFile file g := by
  simp [setFile, SortedMap.alter_alter h.files]

/-- Two sightings of one thing that is new on its line are stored as what they merge to. -/
lemma store_store (h : r.Ordered) (hsame : a.sameAs b)
    (ha : r.recognise? file line a = none) (hb : r.recognise? file line b = none) :
    (r.store file line a).1.store file line b =
      (r.setFile file ((r.fileFor file).add line (a.merge b)).1,
        ((r.fileFor file).add line (a.merge b)).2.map fun i => ⟨file, line, i⟩) := by
  have hnew : ∀ {d}, r.recognise? file line d = none →
      (r.fileFor file).findSame? line d = none := fun hd => by
    rwa [SourceFile.findSame?, line_fileFor]
  have hlines := h.fileFor_ascending file
  have hagain := SourceFile.findSame?_add hlines (hnew hb) hsame
  rw [store_unknown (hnew ha)]
  by_cases full : (r.fileFor file).maxEntriesPerLine ≤ ((r.fileFor file).line line).length
  · rw [if_pos full] at hagain
    rw [store_unknown (by rwa [fileFor_setFile h]), fileFor_setFile h, setFile_setFile h,
      SourceFile.add_full hlines full]
    simp only [SourceFile.add, if_pos full]
  · rw [if_neg full] at hagain
    rw [store_known (by rwa [fileFor_setFile h]), fileFor_setFile h, setFile_setFile h,
      SourceFile.modify_add hlines full fun present => present.merge b]
    simp only [SourceFile.add, if_neg full, Option.map_some]

/-- Sightings that do not contradict each other merge to one declaration in either order, and so
to one text, unless their types differ behind the name only; a line that knows neither of the two
then gets the same declaration whichever is stored first. -/
theorem compatible_commute_iff (hab : a.Compatible b) :
    (a.merge b = b.merge a ↔ ¬ a.DependsOnOrder b) ∧
      (¬ a.DependsOnOrder b → (a.merge b).source = (b.merge a).source ∧
        ∀ (r : Registry) file line, r.Ordered → a.sameAs b →
          r.recognise? file line a = none → r.recognise? file line b = none →
          (r.store file line a).1.store file line b =
            (r.store file line b).1.store file line a) := by
  refine ⟨hab.merge_comm_iff, fun horder => ?_⟩
  have hmerge := hab.merge_comm_iff.mpr horder
  refine ⟨by rw [hmerge], fun r file line h hsame ha hb => ?_⟩
  rw [store_store h hsame ha hb,
    store_store h ((Declaration.sameAs_comm a b).mp hsame) hb ha, hmerge]

/-- A unit that declares a structure and one that defines it, on the same line. -/
def declaredAndDefined : EntryTree :=
  let point := fun (b : TreeBuilder) (unit : String) =>
    let (b, root) := b.compileUnit unit "/src"
    let (b, int) := b.baseType root "int" 4 5
    let (b, point) := b.child root .structureType
    ((b.name point "Point").declaredAt point "/src/point.h" 3, int, point)
  let (b, _, _) := point .start "a.cpp"
  let (b, int, defined) := point b "b.cpp"
  let (b, x) := (b.unsigned defined .byteSize 4).child defined .member
  (((b.name x "x").typeRef x int).declaredAt x "/src/point.h" 4).tree

/-- What the first unit says of the structure, and what the second one says. -/
def declaredPoint : Aggregate Declaration := { name := "Point" }

def definedPoint : Aggregate Declaration :=
  { name := "Point", byteSize := some 4, members :=
    ⟨[(4, [.field { name := "x", type := .plain "int" }])]⟩ }

/-- The definition fills in what the declaration lacks, or was there before it. -/
theorem declaredAndDefined_commute :
    ∃ a b, Declaration.ofEntry? declaredAndDefined {} (.aggregate .structKind) 2 = some a ∧
      Declaration.ofEntry? declaredAndDefined {} (.aggregate .structKind) 5 = some b ∧
      a.Compatible b ∧ a.merge b = b.merge a ∧
      (a.merge b).source =
        "struct Point \x7b\n    int x;\n\x7d;\nstatic_assert(sizeof(Point) == 4);" ∧
      ((empty {}).store "/src/point.h" 3 a).1.store "/src/point.h" 3 b =
        ((empty {}).store "/src/point.h" 3 b).1.store "/src/point.h" 3 a := by
  have hdeclared : Declaration.ofEntry? declaredAndDefined {} (.aggregate .structKind) 2 =
      some (.aggregate declaredPoint) := by cbv
  have hdefined : Declaration.ofEntry? declaredAndDefined {} (.aggregate .structKind) 5 =
      some (.aggregate definedPoint) := by cbv
  have hplacement : declaredPoint.placement.Compatible definedPoint.placement :=
    ⟨fun h => (h rfl).elim, fun h => (h rfl).elim⟩
  have hcompatible : declaredPoint.Compatible definedPoint :=
    ⟨hplacement, rfl, fun _ _ => rfl, fun h => (h rfl).elim, fun h => (h rfl).elim,
      fun _ h => (h rfl).elim, fun h => (h rfl).elim⟩
  have hab : Declaration.Compatible (.aggregate declaredPoint) (.aggregate definedPoint) :=
    .aggregate SortedMap.empty_ascending (List.pairwise_singleton _ _) hcompatible
  obtain ⟨hmerge, hstore⟩ := compatible_commute_iff hab
  have horder :
      ¬ Declaration.DependsOnOrder (.aggregate declaredPoint) (.aggregate definedPoint) := by
    simp [Declaration.DependsOnOrder, Declaration.spelledType?]
  exact ⟨_, _, hdeclared, hdefined, hab, hmerge.mpr horder, by cbv,
    (hstore horder).2 (empty {}) _ 3 (empty_ordered {}) rfl rfl rfl⟩

/-- Two members of one name, an array of a type whose name is blank and that type itself. -/
def blankElement : EntryTree :=
  let (b, root) := TreeBuilder.start.compileUnit "a.cpp" "/src"
  let (b, element) := b.baseType root "" 4 5
  let (b, array) := b.child root .arrayType
  let (b, range) := (b.typeRef array element).child array .subrangeType
  let (b, record) := (b.unsigned range .count 3).child root .structureType
  let (b, first) := b.child record .member
  let (b, second) := ((b.name first "x").typeRef first array).child record .member
  ((b.name second "x").typeRef second element).tree

/-- What the two members are read as. -/
def arrayMember : Field := { name := "x", type := ⟨"", "[3]"⟩ }

def elementMember : Field := { name := "x", type := ⟨"", ""⟩ }

/-- The type of the second member is blank, so that nothing contradicts the three elements of the
first one; merged into the first, the second takes them away all the same. -/
theorem blankElement_depends_on_order :
    ∃ a b, Declaration.ofEntry? blankElement {} .field 5 = some a ∧
      Declaration.ofEntry? blankElement {} .field 6 = some b ∧ a.Compatible b ∧
      b.spelledType? = some ⟨"", ""⟩ ∧ (b.merge a).spelledType? = some ⟨"", "[3]"⟩ ∧
      (a.merge b).spelledType? = some ⟨"", ""⟩ ∧ a.merge b ≠ b.merge a := by
  have harray : Declaration.ofEntry? blankElement {} .field 5 = some (.field arrayMember) := by cbv
  have helement : Declaration.ofEntry? blankElement {} .field 6 =
      some (.field elementMember) := by cbv
  have hab : arrayMember.Compatible elementMember :=
    ⟨⟨fun h => (h rfl).elim, fun h => (h rfl).elim⟩, fun _ _ => rfl, fun _ h => (h rfl).elim,
      fun h => (h rfl).elim, fun h => (h rfl).elim, fun h => (h rfl).elim⟩
  have hne : arrayMember.merge elementMember ≠ elementMember.merge arrayMember := by decide
  exact ⟨_, _, harray, helement, .field hab, rfl, rfl, rfl, fun h =>
    hne (Declaration.field.inj h)⟩

end Registry
end HeaderRecovery
