import HeaderRecovery.Proofs.Sightings
import HeaderRecovery.Proofs.SortedMap

/-!
Merging fills in what is missing. What was merged once changes nothing when it comes again, now
or after any other merge. Each property of a declaration is filled in on its own, so the laws
are proved for one property at a time and combined.
-/
namespace HeaderRecovery

/-- An operation that adds to a value, as long as it is a proper one, what another has. -/
structure Fills {α : Type} (Proper : α → Prop) (op : α → α → α) : Prop where
  self : ∀ {a}, Proper a → op a a = a
  again : ∀ {a} b, Proper a → op (op a b) b = op a b
  covers : ∀ {a x} y, Proper a → op a x = a → op (op a y) x = op a y

namespace Fills

variable {α β : Type} {P : α → Prop} {Q : β → Prop} {op : α → α → α} {op' : β → β → β}

lemma prod (h : Fills P op) (h' : Fills Q op') :
    Fills (fun p : α × β => P p.1 ∧ Q p.2) fun p q => (op p.1 q.1, op' p.2 q.2) where
  self hp := Prod.ext (h.self hp.1) (h'.self hp.2)
  again b hp := Prod.ext (h.again b.1 hp.1) (h'.again b.2 hp.2)
  covers y hp hx := Prod.ext (h.covers y.1 hp.1 (congrArg Prod.fst hx))
    (h'.covers y.2 hp.2 (congrArg Prod.snd hx))

/-- A record is filled in if its properties are. -/
lemma of_fields {f : α → β} (hf : f.Injective) (hop : ∀ a b, f (op a b) = op' (f a) (f b))
    (h : Fills Q op') : Fills (fun a => Q (f a)) op where
  self ha := hf (by rw [hop, h.self ha])
  again b ha := hf (by rw [hop, hop, h.again (f b) ha])
  covers {a x} y ha hx := by
    have hfx : op' (f a) (f x) = f a := by rw [← hop, hx]
    exact hf (by rw [hop, hop, h.covers (f y) ha hfx])

lemma mono {P' : α → Prop} (h : Fills P op) (hP : ∀ a, P' a → P a) : Fills P' op where
  self ha := h.self (hP _ ha)
  again b ha := h.again b (hP _ ha)
  covers y ha hx := h.covers y (hP _ ha) hx

lemma left : Fills (fun _ : α => True) fun a _ => a where
  self _ := rfl
  again _ _ := rfl
  covers _ _ _ := rfl

/-- The first of two values that is not the blank one. -/
lemma choice [DecidableEq α] (blank : α) :
    Fills (fun _ : α => True) fun a b => if a = blank then b else a where
  self {a} _ := by simp
  again {a} b _ := by by_cases ha : a = blank <;> simp [ha]
  covers {a x} y _ hx := by
    by_cases ha : a = blank
    · have hblank : x = blank := by simpa [ha] using hx
      by_cases hy : y = blank <;> simp [ha, hy, hblank]
    · simp [ha]

lemma or : Fills (fun _ : Option α => True) Option.or where
  self {a} _ := by cases a <;> rfl
  again {a} b _ := by cases a <;> simp
  covers {a x} y _ hx := by
    cases a with
    | none =>
      rw [Option.none_or] at hx
      simp [hx]
    | some a => rfl

lemma bool : Fills (fun _ : Bool => True) Bool.or where
  self {a} _ := Bool.or_self a
  again {a} b _ := by cases a <;> cases b <;> rfl
  covers {a x} y _ hx := by revert a x y; decide

/-- A proper value is complete from the start. -/
lemma complete (h : ∀ {a} b, P a → op a b = a) : Fills P op where
  self {a} ha := h a ha
  again {a} b ha := by rw [h b ha, h b ha]
  covers {a x} y ha hx := by rw [h y ha, hx]

end Fills

lemma firstType_eq {a : Declarator} (b : Declarator) (h : a.before ≠ "") : firstType a b = a :=
  if_neg h

lemma Placement.fills : Fills (fun _ : Placement => True) Placement.merge := by
  have h : Fills _ Placement.merge := Fills.of_fields (f := fun p => (p.scopes, p.access))
    (fun p q hpq => by cases p; cases q; simpa using hpq) (fun _ _ => rfl)
    ((Fills.choice []).prod Fills.or)
  exact h.mono fun _ _ => ⟨trivial, trivial⟩

namespace Typedef

lemma mem_addNames {names more : List String} {n : String} :
    n ∈ addNames names more ↔ n ∈ names ∨ n ∈ more := by
  unfold addNames
  induction more generalizing names with
  | nil => simp
  | cons m more ih =>
    rw [List.foldl_cons, ih]
    by_cases hm : m ∈ names
    · rw [if_pos hm, List.mem_cons]
      constructor
      · rintro (h | h)
        · exact Or.inl h
        · exact Or.inr (Or.inr h)
      · rintro (h | rfl | h)
        · exact Or.inl h
        · exact Or.inl hm
        · exact Or.inr h
    · rw [if_neg hm, List.mem_append, List.mem_singleton, List.mem_cons, or_assoc]

lemma addNames_eq {names more : List String} (h : ∀ n ∈ more, n ∈ names) :
    addNames names more = names := by
  unfold addNames
  induction more with
  | nil => rfl
  | cons m more ih =>
    rw [List.foldl_cons, if_pos (h m List.mem_cons_self)]
    exact ih fun n hn => h n (List.mem_cons_of_mem m hn)

lemma head?_addNames {names : List String} (more : List String) (h : names ≠ []) :
    (addNames names more).head? = names.head? := by
  unfold addNames
  induction more generalizing names with
  | nil => rfl
  | cons m more ih =>
    rw [List.foldl_cons]
    split
    · exact ih h
    · obtain ⟨first, rest, rfl⟩ := List.exists_cons_of_ne_nil h
      rw [ih (by simp), List.cons_append, List.head?_cons, List.head?_cons]

lemma fills_names : Fills (fun _ : List String => True) addNames where
  self _ := addNames_eq fun _ hn => hn
  again _ _ := addNames_eq fun _ hn => mem_addNames.mpr (Or.inr hn)
  covers {a x} y _ hx := by
    refine addNames_eq fun n hn => mem_addNames.mpr (Or.inl ?_)
    rw [← hx]
    exact mem_addNames.mpr (Or.inr hn)

lemma fills : Fills (fun d : Typedef => d.target ≠ "") merge := by
  have htarget : Fills (fun p : String × Option Debug.EntryKey => p.1 ≠ "") fun p q =>
      (if p.1 = "" then q.1 else p.1, if p.1 = "" then q.2 else p.2) :=
    Fills.complete fun b ha => by simp [ha]
  have h : Fills _ merge := Fills.of_fields
    (f := fun d => (d.placement, d.names, d.target, d.inlined))
    (fun d e hde => by cases d; cases e; simpa using hde) (fun _ _ => rfl)
    (Placement.fills.prod (fills_names.prod htarget))
  exact h.mono fun _ hd => ⟨trivial, trivial, hd⟩

end Typedef

lemma Function.fills : Fills (fun f : Function => f.returnType.before ≠ "") Function.merge := by
  have hreturn : Fills (fun d : Declarator => d.before ≠ "") firstType := .complete firstType_eq
  have h : Fills _ Function.merge := Fills.of_fields
    (f := fun f => (f.placement, f.name, f.linkageName, f.returnType, f.parameters, f.template,
      f.isMember, f.hasThis, f.isConst, f.isExplicit, f.isDefaulted, f.isDeleted, f.virtuality,
      f.isInline, f.isNoReturn, f.omitsReturnType))
    (fun f g hfg => by cases f; cases g; simpa using hfg) (fun _ _ => rfl)
    (Placement.fills.prod <| (Fills.choice "").prod <| Fills.or.prod <| hreturn.prod <|
      (Fills.choice []).prod <| Fills.or.prod <| Fills.bool.prod <| Fills.bool.prod <|
      Fills.bool.prod <| Fills.bool.prod <| Fills.bool.prod <| Fills.bool.prod <|
      (Fills.choice Virtuality.none).prod <| Fills.bool.prod <| Fills.bool.prod Fills.bool)
  exact h.mono fun _ hf => by simpa using hf

lemma Enumeration.fills : Fills (fun _ : Enumeration => True) Enumeration.merge := by
  have h : Fills _ Enumeration.merge := Fills.of_fields
    (f := fun e => (e.placement, e.name, e.baseType, e.enumerators, e.isScoped))
    (fun d e hde => by cases d; cases e; simpa using hde) (fun _ _ => rfl)
    (Placement.fills.prod <| (Fills.choice "").prod <| Fills.or.prod <|
      (Fills.choice []).prod Fills.bool)
  exact h.mono fun _ _ => by simp

/-- `static` gives way to `extern`, whichever comes first. -/
lemma Field.fills_linkage : Fills (fun p : Bool × Bool => p.2 → p.1 = false) fun p q =>
    (!(p.2 || q.2) && (p.1 || q.1), p.2 || q.2) where
  self {a} ha := by
    obtain ⟨isStatic, isExternal⟩ := a
    cases isStatic <;> cases isExternal <;> simp_all
  again {a} b ha := by
    obtain ⟨isStatic, isExternal⟩ := b
    cases isStatic <;> cases isExternal <;> simp
  covers {a x} y ha hx := by
    obtain ⟨isStatic, isExternal⟩ := a
    obtain ⟨isStatic', isExternal'⟩ := x
    cases isStatic <;> cases isExternal <;> cases isStatic' <;> cases isExternal' <;> simp_all

lemma Field.fills :
    Fills (fun f : Field => f.type.before ≠ "" ∧ (f.isExternal → f.isStatic = false))
      Field.merge := by
  have htype : Fills (fun d : Declarator => d.before ≠ "") firstType := .complete firstType_eq
  have h : Fills _ Field.merge := Fills.of_fields
    (f := fun f => (f.placement, f.name, f.type, f.location, f.bitSize, f.defaultValue,
      (f.isStatic, f.isExternal), f.isMutable, f.isVariable))
    (fun f g hfg => by cases f; cases g; simp_all) (fun _ _ => rfl)
    (Placement.fills.prod <| (Fills.choice "").prod <| htype.prod <| Fills.or.prod <|
      Fills.or.prod <| Fills.or.prod <| Field.fills_linkage.prod <| Fills.bool.prod Fills.bool)
  exact h.mono fun _ hf => by simpa using hf

lemma NameImport.fills : Fills (fun i : NameImport => i.target ≠ "") NameImport.merge := by
  have htarget : Fills (fun p : ImportForm × String => p.2 ≠ "") fun p q =>
      (if p.2 = "" then q.1 else p.1, if p.2 = "" then q.2 else p.2) :=
    Fills.complete fun b ha => by simp [ha]
  have h : Fills _ NameImport.merge := Fills.of_fields
    (f := fun i => (i.placement, i.form, i.target))
    (fun i j hij => by cases i; cases j; simpa using hij) (fun _ _ => rfl)
    (Placement.fills.prod htarget)
  exact h.mono fun _ hi => ⟨trivial, hi⟩

namespace SortedMap

variable {κ α : Type} [LT κ] [DecidableLT κ] [DecidableEq κ] [LE κ] [Std.IsLinearOrder κ]
  [Std.LawfulOrderLT κ]

/-- Adding the entries of a list whose keys are all there. -/
lemma foldl_insertNew_eq {m : SortedMap κ α} (h : m.Ascending) {entries : List (κ × α)}
    (hkeys : ∀ e ∈ entries, (m.find? e.1).isSome) :
    entries.foldl (fun m e => m.insertNew e.1 e.2) m = m := by
  induction entries with
  | nil => rfl
  | cons e rest ih =>
    obtain ⟨a, ha⟩ := Option.isSome_iff_exists.mp (hkeys e List.mem_cons_self)
    have hfirst : m.insertNew e.1 e.2 = m := alter_eq_self h ha rfl
    rw [List.foldl_cons, hfirst]
    exact ih fun e' he' => hkeys e' (List.mem_cons_of_mem e he')

lemma ascending_foldl_insertNew {m : SortedMap κ α} (h : m.Ascending) (entries : List (κ × α)) :
    (entries.foldl (fun m e => m.insertNew e.1 e.2) m).Ascending := by
  induction entries generalizing m with
  | nil => exact h
  | cons e rest ih => exact ih (h.alter _ _)

lemma isSome_find?_foldl_insertNew {m : SortedMap κ α} (h : m.Ascending)
    (entries : List (κ × α)) (key : κ) :
    ((entries.foldl (fun m e => m.insertNew e.1 e.2) m).find? key).isSome ↔
      (m.find? key).isSome ∨ ∃ e ∈ entries, e.1 = key := by
  induction entries generalizing m with
  | nil => simp
  | cons e rest ih =>
    have hinsert : (m.insertNew e.1 e.2).Ascending := h.alter _ _
    rw [List.foldl_cons, ih hinsert, insertNew, find?_alter h]
    by_cases hkey : key = e.1
    · simp [hkey]
    · simp [hkey, Ne.symm hkey]

/-- Lines that are there keep what they have. -/
lemma fills_insertNew : Fills (fun m : SortedMap κ α => m.Ascending) fun a b =>
    b.entries.foldl (fun m e => m.insertNew e.1 e.2) a where
  self {a} ha := foldl_insertNew_eq ha fun e he => by
    rw [(mem_entries_iff ha).mp (show (e.1, e.2) ∈ a.entries from he)]
    rfl
  again {a} b ha := foldl_insertNew_eq (ascending_foldl_insertNew ha _) fun e he =>
    (isSome_find?_foldl_insertNew ha _ _).mpr (Or.inr ⟨e, he, rfl⟩)
  covers {a x} y ha hx := by
    refine foldl_insertNew_eq (ascending_foldl_insertNew ha _) fun e he => ?_
    have hold : (a.find? e.1).isSome := by
      rw [← hx, isSome_find?_foldl_insertNew ha]
      exact Or.inr ⟨e, he, rfl⟩
    exact (isSome_find?_foldl_insertNew ha _ _).mpr (Or.inl hold)

end SortedMap

lemma Aggregate.fills {Member : Type} :
    Fills (fun a : Aggregate Member => a.members.Ascending) Aggregate.merge := by
  have h : Fills _ (@Aggregate.merge Member) := Fills.of_fields
    (f := fun a => (a.placement, a.kind, a.name, a.byteSize, a.bases, a.members, a.template))
    (fun a b hab => by cases a; cases b; simpa using hab) (fun _ _ => rfl)
    (Placement.fills.prod <| Fills.left.prod <| (Fills.choice "").prod <| Fills.or.prod <|
      (Fills.choice []).prod <| SortedMap.fills_insertNew.prod Fills.or)
  exact h.mono fun _ ha => by simpa using ha

namespace Declaration

/-- What every declaration that a registry stores is like: it has a name where it needs one, its
type has been spelled, and its members are ordered. -/
def Proper : Declaration → Prop
  | typedef d => d.names ≠ [] ∧ d.target ≠ ""
  | parameter _ => False
  | function d => d.isMember = false ∧ d.returnType.before ≠ ""
  | enumeration d => d.name ≠ ""
  | field d => d.isVariable ∧ d.name ≠ "" ∧ d.type.before ≠ "" ∧ (d.isExternal → d.isStatic = false)
  | nameImport d => d.target ≠ ""
  | aggregate d => d.name ≠ "" ∧ d.members.Ascending

/-- A merge at the level of declarations fills in, whatever the kinds are. -/
lemma fills : Fills Proper merge where
  self {a} ha := by
    cases a with
    | typedef d => exact congrArg typedef (Typedef.fills.self ha.2)
    | parameter d => exact ha.elim
    | function d => exact congrArg function (Function.fills.self ha.2)
    | enumeration d => exact congrArg enumeration (Enumeration.fills.self trivial)
    | field d => exact congrArg field (Field.fills.self ha.2.2)
    | nameImport d => exact congrArg nameImport (NameImport.fills.self ha)
    | aggregate d => exact congrArg aggregate (Aggregate.fills.self ha.2)
  again {a} b ha := by
    rcases sameForm_or_merge_eq a b with hab | heq
    · cases hab with
      | typedef a b => exact congrArg typedef (Typedef.fills.again b ha.2)
      | parameter a b => exact ha.elim
      | function a b => exact congrArg function (Function.fills.again b ha.2)
      | enumeration a b => exact congrArg enumeration (Enumeration.fills.again b trivial)
      | field a b => exact congrArg field (Field.fills.again b ha.2.2)
      | nameImport a b => exact congrArg nameImport (NameImport.fills.again b ha)
      | aggregate a b => exact congrArg aggregate (Aggregate.fills.again b ha.2)
    · rw [heq, heq]
  covers {a x} y ha hx := by
    rcases sameForm_or_merge_eq (a.merge y) x with hyx | heq
    · rcases sameForm_or_merge_eq a y with hay | heq
      · cases hay with
        | typedef a y =>
          cases hyx with
          | typedef _ x =>
            exact congrArg typedef (Typedef.fills.covers y ha.2 (typedef.inj hx))
        | parameter a y => exact ha.elim
        | function a y =>
          cases hyx with
          | function _ x =>
            exact congrArg function (Function.fills.covers y ha.2 (function.inj hx))
        | enumeration a y =>
          cases hyx with
          | enumeration _ x =>
            exact congrArg enumeration (Enumeration.fills.covers y trivial (enumeration.inj hx))
        | field a y =>
          cases hyx with
          | field _ x => exact congrArg field (Field.fills.covers y ha.2.2 (field.inj hx))
        | nameImport a y =>
          cases hyx with
          | nameImport _ x =>
            exact congrArg nameImport (NameImport.fills.covers y ha (nameImport.inj hx))
        | aggregate a y =>
          cases hyx with
          | aggregate _ x =>
            exact congrArg aggregate (Aggregate.fills.covers y ha.2 (aggregate.inj hx))
      · rw [heq, hx]
    · exact heq

end Declaration
end HeaderRecovery
