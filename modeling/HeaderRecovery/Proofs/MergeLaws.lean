import HeaderRecovery.Proofs.Replay

/-!
Merging as an operation on the declarations of one form. It is associative, so a declaration
depends on the sightings and their order but not on how they were put together; a reading merged
into itself changes nothing, nor does one that was taken in before.
-/
namespace HeaderRecovery

/-! The properties of each kind -/

/-- The first of three values that is not the blank one. -/
lemma choice_assoc {α : Type} (blank a b c : α) [Decidable (b = blank)]
    {_ : Decidable (a = blank)} {_ : Decidable ((if a = blank then b else a) = blank)} :
    (if (if a = blank then b else a) = blank then c else if a = blank then b else a) =
      if a = blank then (if b = blank then c else b) else a := by
  by_cases ha : a = blank <;> simp [ha]

lemma firstName_assoc (a b c : String) :
    firstName (firstName a b) c = firstName a (firstName b c) := choice_assoc "" a b c

lemma firstType_assoc (a b c : Declarator) :
    firstType (firstType a b) c = firstType a (firstType b c) := by
  unfold firstType
  by_cases ha : a.before = "" <;> simp [ha]

lemma Placement.merge_assoc (a b c : Placement) :
    (a.merge b).merge c = a.merge (b.merge c) :=
  congrArg₂ mk (choice_assoc [] _ _ _) Option.or_assoc

namespace Typedef

/-- A name goes behind the names of two lists or, if it is new there, first into the second. -/
lemma addNames_addNames (a b c : List String) :
    addNames (addNames a b) c = addNames a (addNames b c) := by
  induction c generalizing b with
  | nil => rfl
  | cons m c ih =>
    have hstep : ∀ names, addNames names (m :: c) =
        addNames (if m ∈ names then names else names ++ [m]) c := fun _ => rfl
    rw [hstep, hstep, ← ih]
    by_cases hm : m ∈ b
    · rw [if_pos hm, if_pos (mem_addNames.mpr (Or.inr hm))]
    · have hlast : addNames a (b ++ [m]) =
          if m ∈ addNames a b then addNames a b else addNames a b ++ [m] := List.foldl_append
      rw [if_neg hm, hlast]

lemma merge_assoc (a b c : Typedef) : (a.merge b).merge c = a.merge (b.merge c) := by
  simp only [merge, Placement.merge_assoc, addNames_addNames, mk.injEq, true_and]
  by_cases ha : a.target = "" <;> simp [ha]

end Typedef

lemma Parameter.merge_assoc (a b c : Parameter) :
    (a.merge b).merge c = a.merge (b.merge c) := by
  simp only [merge, Placement.merge_assoc, firstName_assoc, firstType_assoc]

lemma Parameter.fills : Fills (fun p : Parameter => p.type.before ≠ "") Parameter.merge := by
  have htype : Fills (fun d : Declarator => d.before ≠ "") firstType := .complete firstType_eq
  have h : Fills _ Parameter.merge := Fills.of_fields (f := fun p => (p.placement, p.name, p.type))
    (fun p q hpq => by cases p; cases q; simpa using hpq) (fun _ _ => rfl)
    (Placement.fills.prod <| (Fills.choice "").prod htype)
  exact h.mono fun _ hp => ⟨trivial, trivial, hp⟩

lemma Function.merge_assoc (a b c : Function) : (a.merge b).merge c = a.merge (b.merge c) := by
  rw [merge, merge, merge, merge, mk.injEq]
  exact ⟨Placement.merge_assoc _ _ _, firstName_assoc _ _ _, Option.or_assoc,
    firstType_assoc _ _ _, choice_assoc _ _ _ _, Option.or_assoc, Bool.or_assoc _ _ _,
    Bool.or_assoc _ _ _, Bool.or_assoc _ _ _, Bool.or_assoc _ _ _, Bool.or_assoc _ _ _,
    Bool.or_assoc _ _ _, choice_assoc _ _ _ _, Bool.or_assoc _ _ _, Bool.or_assoc _ _ _,
    Bool.or_assoc _ _ _⟩

lemma Enumeration.merge_assoc (a b c : Enumeration) :
    (a.merge b).merge c = a.merge (b.merge c) := by
  rw [merge, merge, merge, merge, mk.injEq]
  exact ⟨Placement.merge_assoc _ _ _, firstName_assoc _ _ _, Option.or_assoc,
    choice_assoc _ _ _ _, Bool.or_assoc _ _ _⟩

/-- One `extern` among three sightings takes away each `static`, wherever it comes. -/
lemma Field.linkage_assoc (s s' s'' e e' e'' : Bool) :
    (!((e || e') || e'') && ((!(e || e') && (s || s')) || s'')) =
      (!(e || (e' || e'')) && (s || (!(e' || e'') && (s' || s'')))) := by
  revert s s' s'' e e' e''
  decide

lemma Field.merge_assoc (a b c : Field) : (a.merge b).merge c = a.merge (b.merge c) := by
  rw [merge, merge, merge, merge, mk.injEq]
  exact ⟨Placement.merge_assoc _ _ _, firstName_assoc _ _ _, firstType_assoc _ _ _,
    Option.or_assoc, Option.or_assoc, Option.or_assoc, linkage_assoc _ _ _ _ _ _,
    Bool.or_assoc _ _ _, Bool.or_assoc _ _ _, Bool.or_assoc _ _ _⟩

lemma NameImport.merge_assoc (a b c : NameImport) :
    (a.merge b).merge c = a.merge (b.merge c) := by
  simp only [merge, Placement.merge_assoc, firstName_assoc, mk.injEq, true_and, and_true]
  by_cases ha : a.target = "" <;> simp [ha, firstName]

namespace SortedMap

variable {κ α : Type} [LT κ] [DecidableLT κ] [DecidableEq κ] [LE κ] [Std.IsLinearOrder κ]
  [Std.LawfulOrderLT κ]

/-- A key that a map does not have is looked up in the entries that are added. -/
lemma find?_foldl_insertNew {m : SortedMap κ α} (h : m.Ascending) (entries : List (κ × α))
    (key : κ) : (entries.foldl (fun m e => m.insertNew e.1 e.2) m).find? key =
      (m.find? key).or (entries.lookup key) := by
  induction entries generalizing m with
  | nil => simp
  | cons e rest ih =>
    have hinsert : (m.insertNew e.1 e.2).Ascending := h.alter _ _
    rw [List.foldl_cons, ih hinsert, insertNew, find?_alter h, lookup_cons]
    by_cases hkey : key = e.1
    · subst hkey
      cases m.find? e.1 <;> simp
    · simp [hkey]

lemma foldl_insertNew_assoc {a b : SortedMap κ α} (ha : a.Ascending) (hb : b.Ascending)
    (c : SortedMap κ α) :
    c.entries.foldl (fun m e => m.insertNew e.1 e.2)
        (b.entries.foldl (fun m e => m.insertNew e.1 e.2) a) =
      (c.entries.foldl (fun m e => m.insertNew e.1 e.2) b).entries.foldl
        (fun m e => m.insertNew e.1 e.2) a := by
  have hab := ascending_foldl_insertNew ha b.entries
  refine ext (ascending_foldl_insertNew hab _) (ascending_foldl_insertNew ha _) fun key => ?_
  have hbc := find?_foldl_insertNew hb c.entries key
  rw [find?] at hbc
  rw [find?_foldl_insertNew hab, find?_foldl_insertNew ha, find?_foldl_insertNew ha, hbc,
    Option.or_assoc]
  rfl

end SortedMap

lemma Aggregate.merge_assoc {Member : Type} {a b : Aggregate Member} (ha : a.members.Ascending)
    (hb : b.members.Ascending) (c : Aggregate Member) :
    (a.merge b).merge c = a.merge (b.merge c) := by
  rw [merge, merge, merge, merge, mk.injEq]
  exact ⟨Placement.merge_assoc _ _ _, rfl, firstName_assoc _ _ _, Option.or_assoc,
    choice_assoc _ _ _ _, SortedMap.foldl_insertNew_assoc ha hb _, Option.or_assoc⟩

/-- A complete value has nothing more to give to what it began. -/
lemma Fills.returns {α : Type} {P : α → Prop} {op : α → α → α} (h : Fills P op) {b : α}
    (hb : P b) (c : α) : op (op b c) b = op b c := h.covers c hb (h.self hb)

namespace Declaration
open Debug

/-- Some entry of some tree is read as this declaration. -/
def IsReading (d : Declaration) : Prop :=
  ∃ t options kind node, ofEntry? t options kind node = some d

/-- The type, the target or what is imported is spelled as some text, if the form has one. -/
def IsSpelled : Declaration → Prop
  | typedef d => d.target ≠ ""
  | parameter d => d.type.before ≠ ""
  | function d => d.returnType.before ≠ ""
  | field d => d.type.before ≠ ""
  | nameImport d => d.target ≠ ""
  | enumeration _ | aggregate _ => True

variable {a b c : Declaration}

lemma IsReading.wellRead (h : a.IsReading) : a.WellRead := by
  obtain ⟨t, options, kind, node, h⟩ := h
  exact ofEntry?_wellRead h

lemma WellRead.merge_self (h : a.WellRead) : a.merge a = a :=
  merge_again h fun _ hy => absurd hy List.not_mem_nil

lemma WellRead.merge_assoc (ha : a.WellRead) (hb : b.WellRead) (hab : a.SameForm b)
    (hbc : b.SameForm c) : (a.merge b).merge c = a.merge (b.merge c) := by
  cases hab with
  | typedef a b => cases hbc; exact congrArg Declaration.typedef (Typedef.merge_assoc _ _ _)
  | parameter a b => cases hbc; exact congrArg Declaration.parameter (Parameter.merge_assoc _ _ _)
  | function a b => cases hbc; exact congrArg Declaration.function (Function.merge_assoc _ _ _)
  | enumeration a b =>
    cases hbc; exact congrArg Declaration.enumeration (Enumeration.merge_assoc _ _ _)
  | field a b => cases hbc; exact congrArg Declaration.field (Field.merge_assoc _ _ _)
  | nameImport a b =>
    cases hbc; exact congrArg Declaration.nameImport (NameImport.merge_assoc _ _ _)
  | aggregate a b =>
    cases hbc; exact congrArg Declaration.aggregate (Aggregate.merge_assoc ha hb _)

/-- What a spelled sighting was completed to does not change when the sighting comes again. -/
lemma WellRead.merge_return (hb : b.WellRead) (hspelled : b.IsSpelled) (hbc : b.SameForm c) :
    (b.merge c).merge b = b.merge c := by
  cases hbc with
  | typedef b c => exact congrArg Declaration.typedef (Typedef.fills.returns hspelled c)
  | parameter b c => exact congrArg Declaration.parameter (Parameter.fills.returns hspelled c)
  | function b c => exact congrArg Declaration.function (Function.fills.returns hspelled c)
  | enumeration b c =>
    exact congrArg Declaration.enumeration (Enumeration.fills.returns trivial c)
  | field b c => exact congrArg Declaration.field (Field.fills.returns ⟨hspelled, hb⟩ c)
  | nameImport b c => exact congrArg Declaration.nameImport (NameImport.fills.returns hspelled c)
  | aggregate b c => exact congrArg Declaration.aggregate (Aggregate.fills.returns hb c)

lemma WellRead.merge (hb : b.WellRead) (hbc : b.SameForm c) : (b.merge c).WellRead := by
  cases hbc with
  | field b c =>
    intro hexternal
    have hboth : (b.isExternal || c.isExternal) = true := hexternal
    exact congrArg (fun e => !e && (b.isStatic || c.isStatic)) hboth
  | aggregate b c => exact SortedMap.ascending_foldl_insertNew hb _
  | _ => trivial

lemma SameForm.merge (hab : a.SameForm b) (hbc : b.SameForm c) : a.SameForm (b.merge c) := by
  cases hab <;> cases hbc <;> constructor

/-- On the readings of one form merging is a left regular band: associative, idempotent, and blind
to a sighting that was taken in before, at once or after any other if that sighting is spelled. -/
theorem merge_leftRegularBand (ha : a.IsReading) (hb : b.IsReading) (hab : a.SameForm b)
    (hbc : b.SameForm c) :
    (a.merge b).merge c = a.merge (b.merge c) ∧ a.merge a = a ∧
      (a.merge b).merge b = a.merge b ∧
      (b.IsSpelled → ((a.merge b).merge c).merge b = (a.merge b).merge c) := by
  have hbb : b.SameForm b := .refl b
  have hassoc := ha.wellRead.merge_assoc hb.wellRead hab hbc
  refine ⟨hassoc, ha.wellRead.merge_self, ?_, fun hspelled => ?_⟩
  · calc (a.merge b).merge b
        = a.merge (b.merge b) := ha.wellRead.merge_assoc hb.wellRead hab hbb
      _ = a.merge b := by rw [hb.wellRead.merge_self]
  · have hback : (b.merge c).SameForm b := by cases hbc <;> constructor
    calc ((a.merge b).merge c).merge b
        = (a.merge (b.merge c)).merge b := by rw [hassoc]
      _ = a.merge ((b.merge c).merge b) :=
          ha.wellRead.merge_assoc (hb.wellRead.merge hbc) (hab.merge hbc) hback
      _ = a.merge (b.merge c) := by rw [hb.wellRead.merge_return hspelled hbc]
      _ = (a.merge b).merge c := hassoc.symm

/-- Three units that declare a counter on one line: the first one knows no linkage, the second one
that it is external, and the third one only what it starts with. -/
def counters : EntryTree :=
  let declare := fun (b : TreeBuilder) (unit : String) =>
    let (b, root) := b.compileUnit unit "/src"
    let (b, int) := b.baseType root "int" 4 5
    let (b, counter) := b.child root .dataVariable
    ((b.typeRef counter int).declaredAt counter "/src/counter.h" 3, counter)
  let (b, _) := declare .start "a.cpp"
  let (b, second) := declare b "b.cpp"
  let (b, third) := declare ((b.name second "counter").flag second .external) "c.cpp"
  ((b.name third "count").unsigned third .constantValue 7).tree

/-- What type a field has that an entry is read as. -/
def fieldType? : Declaration → Option Declarator
  | field d => some d.type
  | _ => none

lemma eq_field_of_fieldType? {d? : Option Declaration} (type : Declarator)
    (h : d?.bind fieldType? = some type) : ∃ f, d? = some (field f) ∧ f.type = type := by
  obtain ⟨d, rfl, hd⟩ := Option.bind_eq_some_iff.mp h
  cases d with
  | field f => exact ⟨f, rfl, Option.some.inj hd⟩
  | _ => cases hd

/-- The second counter comes again without effect; it keeps its name and stays external. -/
theorem counters_leftRegularBand :
    ∃ a b c, ofEntry? counters {} .scopeVariable 2 = some a ∧
      ofEntry? counters {} .scopeVariable 5 = some b ∧
      ofEntry? counters {} .scopeVariable 8 = some c ∧ a.SameForm b ∧ b.SameForm c ∧
      b.IsSpelled ∧ ((a.merge b).merge c).source = "extern int counter = 7;" ∧
      (a.merge b).merge c = a.merge (b.merge c) ∧ a.merge a = a ∧
      (a.merge b).merge b = a.merge b ∧ ((a.merge b).merge c).merge b = (a.merge b).merge c := by
  have hfield : ∀ n ∈ [2, 5, 8],
      ( ofEntry? counters {} .scopeVariable n).bind fieldType? = some ⟨"int", ""⟩ := by
    intro n hn
    obtain rfl | rfl | rfl := by simpa using hn
    all_goals cbv
  obtain ⟨a, ha, -⟩ := eq_field_of_fieldType? _ (hfield 2 (by simp))
  obtain ⟨b, hb, htype⟩ := eq_field_of_fieldType? _ (hfield 5 (by simp))
  obtain ⟨c, hc, -⟩ := eq_field_of_fieldType? _ (hfield 8 (by simp))
  have hread : (( ofEntry? counters {} .scopeVariable 2).bind fun a =>
      ( ofEntry? counters {} .scopeVariable 5).bind fun b =>
        ( ofEntry? counters {} .scopeVariable 8).map fun c => ((a.merge b).merge c).source) =
      some "extern int counter = 7;" := by cbv
  rw [ha, hb, hc] at hread
  have hspelled : (field b).IsSpelled := by simp [IsSpelled, htype]
  obtain ⟨hassoc, hself, hnext, hlater⟩ :=
    merge_leftRegularBand ⟨_, _, _, _, ha⟩ ⟨_, _, _, _, hb⟩ (.field a b) (.field b c)
  exact ⟨_, _, _, ha, hb, hc, .field a b, .field b c, hspelled, Option.some.inj hread,
    hassoc, hself, hnext, hlater hspelled⟩

end Declaration
end HeaderRecovery
