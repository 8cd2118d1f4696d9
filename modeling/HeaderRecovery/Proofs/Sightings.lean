import Mathlib
import HeaderRecovery.Declaration.Reading

/-!
What reading and merging do to the kind and the namespaces of a declaration. A reading has the
kind it was asked for and no namespaces; merging a sighting of the same kind keeps both.
-/
namespace HeaderRecovery

namespace DeclarationKind

/-- A kind that some entry has at file or namespace scope. -/
def StandsAlone (kind : DeclarationKind) : Prop := ∃ tag, ofTag? tag = some kind

lemma StandsAlone.not_member {kind : DeclarationKind} (h : kind.StandsAlone) :
    kind ≠ .function true ∧ kind ≠ .field := by
  obtain ⟨tag, h⟩ := h
  constructor <;> rintro rfl <;> cases tag <;> simp [ofTag?, AggregateKind.ofTag?] at h

lemma tag_of_function {tag : Debug.Tag} (h : ofTag? tag = some (.function false)) :
    tag = .subprogram := by
  cases tag <;> simp [ofTag?, AggregateKind.ofTag?] at h ⊢

lemma tag_of_typedef {tag : Debug.Tag} (h : ofTag? tag = some .typedef) : tag = .typedef := by
  cases tag <;> simp [ofTag?, AggregateKind.ofTag?] at h ⊢

end DeclarationKind

namespace Declaration
open Debug

@[simp] lemma kind_setPlacement (p : Placement) (d : Declaration) :
    (d.setPlacement p).kind = d.kind := by cases d <;> rfl

@[simp] lemma kind_setScopes (scopes : List Scope) (d : Declaration) :
    (d.setScopes scopes).kind = d.kind := kind_setPlacement _ _

@[simp] lemma placement_setPlacement (p : Placement) (d : Declaration) :
    (d.setPlacement p).placement = p := by cases d <;> rfl

@[simp] lemma scopes_setScopes (scopes : List Scope) (d : Declaration) :
    (d.setScopes scopes).scopes = scopes := by simp [setScopes, Declaration.scopes]

/-- Two declarations of one form, whatever aggregate or function they are. -/
inductive SameForm : Declaration → Declaration → Prop
  | typedef (a b : Typedef) : SameForm (typedef a) (typedef b)
  | parameter (a b : Parameter) : SameForm (parameter a) (parameter b)
  | function (a b : Function) : SameForm (function a) (function b)
  | enumeration (a b : Enumeration) : SameForm (enumeration a) (enumeration b)
  | field (a b : Field) : SameForm (field a) (field b)
  | nameImport (a b : NameImport) : SameForm (nameImport a) (nameImport b)
  | aggregate (a b : Aggregate Declaration) : SameForm (aggregate a) (aggregate b)

lemma SameForm.refl (a : Declaration) : a.SameForm a := by cases a <;> constructor

/-- Sightings of different forms leave the first one as it is. -/
lemma sameForm_or_merge_eq (a b : Declaration) : a.SameForm b ∨ a.merge b = a := by
  cases a <;> cases b <;> first | exact Or.inr rfl | exact Or.inl (by constructor)

lemma sameForm_of_sameAs {a b : Declaration} (h : a.sameAs b) : a.SameForm b := by
  simp only [sameAs, Bool.and_eq_true] at h
  cases a <;> cases b <;> first | constructor | exact absurd h.2 Bool.false_ne_true

lemma kind_merge {a b : Declaration} (h : b.kind = a.kind) : (a.merge b).kind = a.kind := by
  rcases sameForm_or_merge_eq a b with hab | heq
  · cases hab with
    | function a b =>
      have hmember : b.isMember = a.isMember := by simpa [kind] using h
      simp [merge, kind, Function.merge, hmember]
    | field a b =>
      have hvariable : b.isVariable = a.isVariable := by
        by_cases hb : b.isVariable <;> by_cases ha : a.isVariable <;> simp_all [kind]
      simp [merge, kind, Field.merge, hvariable]
    | _ => rfl
  · rw [heq]

/-- A merge keeps the placement, or takes the merged one. -/
lemma placement_merge (a b : Declaration) :
    (a.merge b).placement = a.placement ∨
      (a.merge b).placement = a.placement.merge b.placement := by
  cases a <;> cases b <;> first | exact Or.inr rfl | exact Or.inl rfl

lemma scopes_merge {a b : Declaration} (h : b.scopes = [] ∨ b.scopes = a.scopes) :
    (a.merge b).scopes = a.scopes := by
  unfold scopes at h ⊢
  rcases placement_merge a b with heq | heq
  · rw [heq]
  · rw [heq]
    by_cases ha : a.placement.scopes = []
    · rcases h with h | h <;> simp [Placement.merge, ha, h]
    · simp [Placement.merge, ha]

/-- A declaration takes in a sighting from its own namespaces as if that had none. -/
lemma merge_setScopes {a d : Declaration} {scopes : List Scope} (ha : a.scopes = scopes)
    (hd : d.scopes = []) : a.merge (d.setScopes scopes) = a.merge d := by
  have hplacement : a.placement.merge { d.placement with scopes } =
      a.placement.merge d.placement := by
    unfold Declaration.scopes at ha hd
    simp only [Placement.merge, hd, ← ha, ite_self]
    split <;> simp_all
  cases a <;> cases d <;> first | rfl | skip
  all_goals
    simp only [Declaration.placement] at hplacement
    simp only [setScopes, setPlacement, merge, Declaration.placement]
    congr 1
    first
    | simp only [Typedef.merge, hplacement]
    | simp only [Parameter.merge, hplacement]
    | simp only [Function.merge, hplacement]
    | simp only [Enumeration.merge, hplacement]
    | simp only [Field.merge, hplacement]
    | simp only [NameImport.merge, hplacement]
    | simp only [Aggregate.merge, hplacement]

lemma scopes_of_sameAs {a b : Declaration} (h : a.sameAs b) : a.scopes = b.scopes := by
  simp only [sameAs, Bool.and_eq_true, decide_eq_true_eq] at h
  exact h.1

/-- A declaration that recognises a reading in some namespaces is in these, and so takes it in as
if it had none. -/
lemma merge_recognised {a d : Declaration} {scopes : List Scope}
    (h : a.sameAs (d.setScopes scopes)) (hd : d.scopes = []) :
    a.merge (d.setScopes scopes) = a.merge d := by
  have hscopes : a.scopes = scopes := by rw [scopes_of_sameAs h, scopes_setScopes]
  exact merge_setScopes hscopes hd

/-- Declarations of the same thing are of one kind, members of aggregates aside. -/
lemma kind_of_sameAs {a b : Declaration} (h : a.sameAs b) (ha : a.kind.StandsAlone)
    (hb : b.kind.StandsAlone) : b.kind = a.kind := by
  have ha' := ha.not_member
  have hb' := hb.not_member
  simp only [sameAs, Bool.and_eq_true] at h
  cases a <;> cases b <;> simp_all [kind]

variable {t : EntryTree} {options : Options}

lemma readWithin_kind {fuel depth : Nat} {kind : DeclarationKind} {node : NodeId}
    {d : Declaration} (h : readWithin t options fuel depth kind node = some d) :
    d.kind = kind ∧ d.scopes = [] := by
  cases fuel with
  | zero => simp [readWithin] at h
  | succ fuel =>
    cases kind <;> simp only [readWithin, Option.map_eq_some_iff, Option.some.injEq] at h
    case typedef =>
      obtain ⟨definition, -, rfl⟩ := h
      refine ⟨rfl, ?_⟩
      cases definition <;> rfl
    case parameter =>
      subst h
      refine ⟨rfl, ?_⟩
      unfold Parameter.ofEntry
      split <;> rfl
    case field => obtain ⟨definition, -, rfl⟩ := h; exact ⟨rfl, rfl⟩
    case scopeVariable => obtain ⟨definition, -, rfl⟩ := h; exact ⟨rfl, rfl⟩
    case aggregate kind =>
      obtain ⟨a, h, rfl⟩ := h
      obtain ⟨groups, -, rfl⟩ := Option.map_eq_some_iff.mp h
      exact ⟨rfl, rfl⟩
    all_goals subst h; exact ⟨rfl, rfl⟩

lemma ofEntry?_kind {kind : DeclarationKind} {node : NodeId} {d : Declaration}
    (h : ofEntry? t options kind node = some d) : d.kind = kind := (readWithin_kind h).1

lemma ofEntry?_scopes {kind : DeclarationKind} {node : NodeId} {d : Declaration}
    (h : ofEntry? t options kind node = some d) : d.scopes = [] := (readWithin_kind h).2

end Declaration
end HeaderRecovery
