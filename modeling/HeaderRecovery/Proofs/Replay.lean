import HeaderRecovery.Proofs.Merging
import HeaderRecovery.Proofs.ProperReadings

/-!
Sightings merged a second time. A declaration that was put together from sightings is the same
after all of them were merged once more in the same order. It need not be the same in between: a
property that all sightings leave blank is the last one's, so it changes with each of them and
ends where it was.
-/
namespace HeaderRecovery

/-- A value made of a proper one and others behind it, each taken in by the operation, does not
change when all of them are taken in again. -/
structure Replays {α : Type} (Proper : α → Prop) (op : α → α → α) : Prop where
  again : ∀ {x : α} (rest : List α), Proper x →
    (x :: rest).foldl op (rest.foldl op x) = rest.foldl op x

namespace Replays

variable {α β : Type} {P : α → Prop} {Q : β → Prop} {op : α → α → α} {op' : β → β → β}

lemma foldl_absorbed {s : α} {l : List α} (h : ∀ y ∈ l, op s y = s) : l.foldl op s = s := by
  induction l with
  | nil => rfl
  | cons y rest ih =>
    rw [List.foldl_cons, h y List.mem_cons_self]
    exact ih fun z hz => h z (List.mem_cons_of_mem y hz)

/-- What an operation fills in covers each of its parts. -/
lemma of_fills (h : Fills P op) (hP : ∀ {a} b, P a → P (op a b)) : Replays P op := by
  constructor
  intro x rest hx
  have habsorbed : P (rest.foldl op x) ∧ ∀ y ∈ x :: rest,
      op (rest.foldl op x) y = rest.foldl op x := by
    induction rest using List.reverseRecOn with
    | nil =>
      refine ⟨hx, fun y hy => ?_⟩
      rw [List.mem_singleton.mp hy]
      exact h.self hx
    | append_singleton rest b ih =>
      obtain ⟨hproper, hcovered⟩ := ih
      rw [List.foldl_append, List.foldl_cons, List.foldl_nil]
      refine ⟨hP b hproper, fun y hy => ?_⟩
      rcases List.mem_append.mp ((List.cons_append ▸ hy : y ∈ (x :: rest) ++ [b])) with hy | hy
      · exact h.covers b hproper (hcovered y hy)
      · rw [List.mem_singleton.mp hy]
        exact h.again b hproper
  exact foldl_absorbed habsorbed.2

/-- The first value that is not blank, or else the last. -/
lemma choose (blank : α → Prop) [DecidablePred blank] :
    Replays (fun _ : α => True) fun a b => if blank a then b else a := by
  constructor
  intro x rest _
  by_cases hblank : blank (rest.foldl (fun a b => if blank a then b else a) x)
  · rw [List.foldl_cons, if_pos hblank]
  · exact foldl_absorbed fun y _ => if_neg hblank

lemma or : Replays (fun _ : Option α => True) Option.or := by
  classical
  have hop : (Option.or : Option α → Option α → Option α) =
      fun a b => if a = none then b else a := by
    funext a b
    cases a <;> rfl
  rw [hop]
  exact choose (· = none)

lemma bool : Replays (fun _ : Bool => True) Bool.or := by
  have hop : Bool.or = fun a b => if a = false then b else a := by
    funext a b
    cases a <;> rfl
  rw [hop]
  exact choose (· = false)

lemma prod (h : Replays P op) (h' : Replays Q op') :
    Replays (fun p : α × β => P p.1 ∧ Q p.2) fun p q => (op p.1 q.1, op' p.2 q.2) := by
  have hfold : ∀ (l : List (α × β)) (p : α × β),
      l.foldl (fun p q => (op p.1 q.1, op' p.2 q.2)) p =
        ((l.map Prod.fst).foldl op p.1, (l.map Prod.snd).foldl op' p.2) := by
    intro l
    induction l with
    | nil => exact fun p => rfl
    | cons q rest ih => exact fun p => ih _
  constructor
  intro x rest hx
  rw [hfold, hfold]
  exact Prod.ext (h.again _ hx.1) (h'.again _ hx.2)

/-- A record may be replayed if its properties may. -/
lemma of_fields {f : α → β} (hf : f.Injective) (hop : ∀ a b, f (op a b) = op' (f a) (f b))
    (h : Replays Q op') : Replays (fun a => Q (f a)) op := by
  have hfold : ∀ (l : List α) (a : α), f (l.foldl op a) = (l.map f).foldl op' (f a) := by
    intro l
    induction l with
    | nil => exact fun a => rfl
    | cons b rest ih =>
      intro a
      rw [List.foldl_cons, ih, hop]
      rfl
  constructor
  intro x rest hx
  apply hf
  rw [hfold, hfold]
  exact h.again _ hx

lemma mono {P' : α → Prop} (h : Replays P op) (hP : ∀ a, P' a → P a) : Replays P' op :=
  ⟨fun rest hx => h.again rest (hP _ hx)⟩

end Replays

/-! The properties of each kind -/

lemma Placement.replays : Replays (fun _ : Placement => True) Placement.merge :=
  .of_fills Placement.fills fun _ _ => trivial

lemma replays_firstName : Replays (fun _ : String => True) firstName := .choose (· = "")

lemma replays_firstType : Replays (fun _ : Declarator => True) firstType :=
  .choose fun d : Declarator => d.before = ""

lemma Typedef.replays : Replays (fun _ : Typedef => True) Typedef.merge := by
  have htarget := Replays.choose fun p : String × Option Debug.EntryKey => p.1 = ""
  have h : Replays _ Typedef.merge := .of_fields
    (f := fun d => (d.placement, d.names, (d.target, d.inlined)))
    (fun d e hde => by cases d; cases e; simpa using hde)
    (fun a b => by by_cases ha : a.target = "" <;> simp [Typedef.merge, ha])
    (Placement.replays.prod <|
      (Replays.of_fills Typedef.fills_names fun _ _ => trivial).prod htarget)
  exact h.mono fun _ _ => ⟨trivial, trivial, trivial⟩

lemma Parameter.replays : Replays (fun _ : Parameter => True) Parameter.merge := by
  have h : Replays _ Parameter.merge := .of_fields (f := fun p => (p.placement, p.name, p.type))
    (fun p q hpq => by cases p; cases q; simpa using hpq) (fun _ _ => rfl)
    (Placement.replays.prod <| replays_firstName.prod replays_firstType)
  exact h.mono fun _ _ => ⟨trivial, trivial, trivial⟩

lemma Function.replays : Replays (fun _ : Function => True) Function.merge := by
  have h : Replays _ Function.merge := .of_fields
    (f := fun f => (f.placement, f.name, f.linkageName, f.returnType, f.parameters, f.template,
      f.isMember, f.hasThis, f.isConst, f.isExplicit, f.isDefaulted, f.isDeleted, f.virtuality,
      f.isInline, f.isNoReturn, f.omitsReturnType))
    (fun f g hfg => by cases f; cases g; simpa using hfg) (fun _ _ => rfl)
    (Placement.replays.prod <| replays_firstName.prod <| Replays.or.prod <|
      replays_firstType.prod <| (Replays.choose (· = [])).prod <| Replays.or.prod <|
      Replays.bool.prod <| Replays.bool.prod <| Replays.bool.prod <| Replays.bool.prod <|
      Replays.bool.prod <| Replays.bool.prod <| (Replays.choose (· = .none)).prod <|
      Replays.bool.prod <| Replays.bool.prod Replays.bool)
  exact h.mono fun _ _ => by simp

lemma Enumeration.replays : Replays (fun _ : Enumeration => True) Enumeration.merge :=
  .of_fills Enumeration.fills fun _ _ => trivial

/-- Written `extern`, a field is not written `static`, too. -/
def Field.LinkedOnce (f : Field) : Prop := f.isExternal → f.isStatic = false

lemma Field.replays : Replays Field.LinkedOnce Field.merge := by
  have hlinkage : Replays (fun p : Bool × Bool => p.2 → p.1 = false) fun p q =>
      (!(p.2 || q.2) && (p.1 || q.1), p.2 || q.2) :=
    .of_fills Field.fills_linkage fun _ _ hexternal => by
      dsimp only at hexternal ⊢
      rw [hexternal]
      rfl
  have h : Replays _ Field.merge := .of_fields
    (f := fun f => (f.placement, f.name, f.type, f.location, f.bitSize, f.defaultValue,
      (f.isStatic, f.isExternal), f.isMutable, f.isVariable))
    (fun f g hfg => by cases f; cases g; simp_all) (fun _ _ => rfl)
    (Placement.replays.prod <| replays_firstName.prod <| replays_firstType.prod <|
      Replays.or.prod <| Replays.or.prod <| Replays.or.prod <| hlinkage.prod <|
      Replays.bool.prod Replays.bool)
  exact h.mono fun _ hf => by simpa [LinkedOnce] using hf

lemma NameImport.replays : Replays (fun _ : NameImport => True) NameImport.merge := by
  have htarget := Replays.choose fun p : ImportForm × String => p.2 = ""
  have h : Replays _ NameImport.merge := .of_fields
    (f := fun i => (i.placement, (i.form, i.target)))
    (fun i j hij => by cases i; cases j; simpa using hij)
    (fun a b => by by_cases ha : a.target = "" <;> simp [NameImport.merge, firstName, ha])
    (Placement.replays.prod htarget)
  exact h.mono fun _ _ => ⟨trivial, trivial⟩

lemma Aggregate.replays {Member : Type} :
    Replays (fun a : Aggregate Member => a.members.Ascending) Aggregate.merge :=
  .of_fills Aggregate.fills fun b ha => SortedMap.ascending_foldl_insertNew ha b.members.entries

namespace Declaration
open Debug

/-- What holds of every reading: one linkage, and members in order. -/
def WellRead : Declaration → Prop
  | field d => d.LinkedOnce
  | aggregate d => d.members.Ascending
  | _ => True

lemma WellRead.setScopes {d : Declaration} (h : d.WellRead) (scopes : List Scope) :
    (d.setScopes scopes).WellRead := by
  cases d <;> exact h

lemma ofEntry?_wellRead {t : EntryTree} {options : Options} {kind : DeclarationKind}
    {node : NodeId} {d : Declaration} (h : ofEntry? t options kind node = some d) : d.WellRead := by
  rw [Declaration.ofEntry?, nestingBound] at h
  cases kind <;> simp only [readWithin, Option.map_eq_some_iff, Option.some.injEq] at h
  case field =>
    obtain ⟨definition, -, rfl⟩ := h
    intro hexternal
    cases hexternal
  case scopeVariable =>
    obtain ⟨definition, -, rfl⟩ := h
    exact fun hexternal => congrArg (!·) hexternal
  case aggregate kind =>
    obtain ⟨a, hread, rfl⟩ := h
    exact readAggregate_ascending hread
  case typedef =>
    obtain ⟨definition, -, rfl⟩ := h
    trivial
  all_goals
    subst h
    trivial

/-- Sightings of one form may be replayed. -/
lemma replays {α : Type} {P : α → Prop} {op : α → α → α} (h : Replays P op) (f : α → Declaration)
    (hf : ∀ a b, (f a).merge (f b) = f (op a b)) {x : α}
    (hform : ∀ y : Declaration, y.kind = (f x).kind → ∃ b, y = f b) (hx : P x)
    {rest : List Declaration} (hkind : ∀ y ∈ rest, y.kind = (f x).kind) :
    (f x :: rest).foldl merge (rest.foldl merge (f x)) = rest.foldl merge (f x) := by
  obtain ⟨rest, rfl⟩ : ∃ bs : List α, rest = bs.map f := by
    induction rest with
    | nil => exact ⟨[], rfl⟩
    | cons y rest ih =>
      obtain ⟨b, rfl⟩ := hform y (hkind y List.mem_cons_self)
      obtain ⟨bs, rfl⟩ := ih fun z hz => hkind z (List.mem_cons_of_mem _ hz)
      exact ⟨b :: bs, rfl⟩
  have hfold : ∀ (bs : List α) (a : α), (bs.map f).foldl merge (f a) = f (bs.foldl op a) := by
    intro bs
    induction bs with
    | nil => exact fun a => rfl
    | cons b bs ih =>
      intro a
      rw [List.map_cons, List.foldl_cons, hf, ih, List.foldl_cons]
  rw [hfold, ← List.map_cons, hfold, h.again rest hx]

/-- A declaration that was put together from sightings of one kind takes them in again without
any change. -/
theorem merge_again {x : Declaration} (hx : x.WellRead) {rest : List Declaration}
    (hkind : ∀ y ∈ rest, y.kind = x.kind) :
    (x :: rest).foldl merge (rest.foldl merge x) = rest.foldl merge x := by
  cases x with
  | typedef d =>
    exact replays Typedef.replays typedef (fun _ _ => rfl)
      (fun y hy => by cases y <;> grind [kind]) trivial hkind
  | parameter d =>
    exact replays Parameter.replays parameter (fun _ _ => rfl)
      (fun y hy => by cases y <;> grind [kind]) trivial hkind
  | function d =>
    exact replays Function.replays function (fun _ _ => rfl)
      (fun y hy => by cases y <;> grind [kind]) trivial hkind
  | enumeration d =>
    exact replays Enumeration.replays enumeration (fun _ _ => rfl)
      (fun y hy => by cases y <;> grind [kind]) trivial hkind
  | field d =>
    exact replays Field.replays field (fun _ _ => rfl)
      (fun y hy => by cases y <;> grind [kind]) hx hkind
  | nameImport d =>
    exact replays NameImport.replays nameImport (fun _ _ => rfl)
      (fun y hy => by cases y <;> grind [kind]) trivial hkind
  | aggregate d =>
    exact replays Aggregate.replays aggregate (fun _ _ => rfl)
      (fun y hy => by cases y <;> grind [kind]) hx hkind

/-- The same for a declaration that stands in namespaces, of which the sightings say nothing. -/
lemma merge_again_scopes {x : Declaration} (hx : x.WellRead) {rest : List Declaration}
    (hkind : ∀ y ∈ rest, y.kind = x.kind) (hscopes : ∀ y ∈ x :: rest, y.scopes = [])
    (scopes : List Scope) :
    (x :: rest).foldl merge (rest.foldl merge (x.setScopes scopes)) =
      rest.foldl merge (x.setScopes scopes) := by
  have hfold : ∀ (l : List Declaration) (a : Declaration), (∀ y ∈ l, y.scopes = []) →
      (l.foldl merge a).scopes = a.scopes := by
    intro l
    induction l with
    | nil => exact fun a _ => rfl
    | cons y l ih =>
      intro a hl
      rw [List.foldl_cons, ih _ fun z hz => hl z (List.mem_cons_of_mem y hz),
        scopes_merge (Or.inl (hl y List.mem_cons_self))]
  have hkept : (rest.foldl merge (x.setScopes scopes)).scopes = scopes := by
    rw [hfold rest _ fun y hy => hscopes y (List.mem_cons_of_mem x hy), scopes_setScopes]
  have hagain := merge_again (hx.setScopes scopes) fun y hy =>
    (hkind y hy).trans (kind_setScopes scopes x).symm
  rw [List.foldl_cons, merge_setScopes hkept (hscopes x List.mem_cons_self)] at hagain
  rw [List.foldl_cons, hagain]

end Declaration
end HeaderRecovery
