import HeaderRecovery.Proofs.DescribedEntries
import HeaderRecovery.Proofs.Replay

/-!
Nothing that was captured is lost. Whatever a declaration says stays said while further sightings
are merged into it, over any run: values that are set keep their value, lists that are filled keep
their contents, aliases are only added at the end, and yes-or-no properties only become true. The
one exception is a variable that is `static` until a sighting says that it is `extern`.
-/
namespace HeaderRecovery

/-- A value that is set is still there; one that is not may be anything. -/
def Kept {α : Type} (isSet : α → Prop) (a b : α) : Prop := isSet a → b = a

namespace Kept

variable {α : Type} {isSet : α → Prop} {a b c : α}

lemma refl (isSet : α → Prop) (a : α) : Kept isSet a a := fun _ => rfl

lemma trans (h : Kept isSet a b) (h' : Kept isSet b c) : Kept isSet a c := fun ha => by
  have hb : b = a := h ha
  subst hb
  exact h' ha

/-- The first of two values, unless it is the blank one. -/
lemma filled [DecidableEq α] (blank : α) (a b : α) :
    Kept (· ≠ blank) a (if a = blank then b else a) := fun ha => if_neg ha

lemma firstType (a b : Declarator) : Kept (·.before ≠ "") a (firstType a b) := firstType_eq b

lemma or (a b : Option α) : Kept (·.isSome) a (a.or b) := fun ha => by
  obtain ⟨value, rfl⟩ := Option.isSome_iff_exists.mp ha
  rfl

lemma bool (a b : Bool) : Kept (· = true) a (a || b) := fun ha => by rw [ha, Bool.true_or]

end Kept

/-! What each kind of declaration retains -/

structure Placement.Retains (a b : Placement) : Prop where
  scopes : Kept (· ≠ []) a.scopes b.scopes
  access : Kept (·.isSome) a.access b.access

structure Typedef.Retains (a b : Typedef) : Prop where
  placement : a.placement.Retains b.placement
  names : a.names <+: b.names
  target : Kept (· ≠ "") a.target b.target
  inlined : Kept (·.isSome) a.inlined b.inlined

structure Parameter.Retains (a b : Parameter) : Prop where
  placement : a.placement.Retains b.placement
  name : Kept (· ≠ "") a.name b.name
  type : Kept (·.before ≠ "") a.type b.type

structure Function.Retains (a b : Function) : Prop where
  placement : a.placement.Retains b.placement
  name : Kept (· ≠ "") a.name b.name
  linkageName : Kept (·.isSome) a.linkageName b.linkageName
  returnType : Kept (·.before ≠ "") a.returnType b.returnType
  parameters : Kept (· ≠ []) a.parameters b.parameters
  template : Kept (·.isSome) a.template b.template
  isMember : Kept (· = true) a.isMember b.isMember
  hasThis : Kept (· = true) a.hasThis b.hasThis
  isConst : Kept (· = true) a.isConst b.isConst
  isExplicit : Kept (· = true) a.isExplicit b.isExplicit
  isDefaulted : Kept (· = true) a.isDefaulted b.isDefaulted
  isDeleted : Kept (· = true) a.isDeleted b.isDeleted
  virtuality : Kept (· ≠ .none) a.virtuality b.virtuality
  isInline : Kept (· = true) a.isInline b.isInline
  isNoReturn : Kept (· = true) a.isNoReturn b.isNoReturn
  omitsReturnType : Kept (· = true) a.omitsReturnType b.omitsReturnType

structure Enumeration.Retains (a b : Enumeration) : Prop where
  placement : a.placement.Retains b.placement
  name : Kept (· ≠ "") a.name b.name
  baseType : Kept (·.isSome) a.baseType b.baseType
  enumerators : Kept (· ≠ []) a.enumerators b.enumerators
  isScoped : Kept (· = true) a.isScoped b.isScoped

structure Field.Retains (a b : Field) : Prop where
  placement : a.placement.Retains b.placement
  name : Kept (· ≠ "") a.name b.name
  type : Kept (·.before ≠ "") a.type b.type
  location : Kept (·.isSome) a.location b.location
  bitSize : Kept (·.isSome) a.bitSize b.bitSize
  defaultValue : Kept (·.isSome) a.defaultValue b.defaultValue
  isMutable : Kept (· = true) a.isMutable b.isMutable
  isVariable : Kept (· = true) a.isVariable b.isVariable
  isExternal : Kept (· = true) a.isExternal b.isExternal
  /-- Only `extern` takes the place of `static`. -/
  isStatic : a.isStatic = true → b.isStatic = true ∨ b.isVariable = true ∧ b.isExternal = true
  linkedOnce : b.LinkedOnce

structure NameImport.Retains (a b : NameImport) : Prop where
  placement : a.placement.Retains b.placement
  target : Kept (· ≠ "") a.target b.target
  form : a.target ≠ "" → b.form = a.form

structure Aggregate.Retains {Member : Type} (a b : Aggregate Member) : Prop where
  placement : a.placement.Retains b.placement
  kind : b.kind = a.kind
  name : Kept (· ≠ "") a.name b.name
  byteSize : Kept (·.isSome) a.byteSize b.byteSize
  bases : Kept (· ≠ []) a.bases b.bases
  template : Kept (·.isSome) a.template b.template
  /-- A line of members that is there has the same members. -/
  members : ∀ line, Kept (·.isSome) (a.members.find? line) (b.members.find? line)

/-- The second declaration still says all that the first does. -/
inductive Declaration.Retains : Declaration → Declaration → Prop
  | typedef {a b : Typedef} (h : a.Retains b) : Retains (.typedef a) (.typedef b)
  | parameter {a b : Parameter} (h : a.Retains b) : Retains (.parameter a) (.parameter b)
  | function {a b : Function} (h : a.Retains b) : Retains (.function a) (.function b)
  | enumeration {a b : Enumeration} (h : a.Retains b) : Retains (.enumeration a) (.enumeration b)
  | field {a b : Field} (h : a.Retains b) : Retains (.field a) (.field b)
  | nameImport {a b : NameImport} (h : a.Retains b) : Retains (.nameImport a) (.nameImport b)
  | aggregate {a b : Aggregate Declaration} (h : a.Retains b) :
      Retains (.aggregate a) (.aggregate b)

/-! Later sightings retain -/

lemma Placement.Retains.trans {a b c : Placement} (h : a.Retains b) (h' : b.Retains c) :
    a.Retains c :=
  ⟨h.scopes.trans h'.scopes, h.access.trans h'.access⟩

lemma Placement.retains_merge (a b : Placement) : a.Retains (a.merge b) :=
  ⟨.filled _ _ _, .or _ _⟩

namespace Typedef

lemma prefix_addNames (names more : List String) : names <+: addNames names more := by
  unfold addNames
  induction more generalizing names with
  | nil => exact List.prefix_rfl
  | cons n more ih =>
    rw [List.foldl_cons]
    split
    · exact ih names
    · exact (List.prefix_append names [n]).trans (ih _)

lemma Retains.trans {a b c : Typedef} (h : a.Retains b) (h' : b.Retains c) : a.Retains c :=
  ⟨h.placement.trans h'.placement, h.names.trans h'.names, h.target.trans h'.target,
    h.inlined.trans h'.inlined⟩

/-- A definition that is spelled out has some text, so it is not filled in. -/
lemma retains_merge {a : Typedef} (ha : a.inlined.isSome → a.target ≠ "") (b : Typedef) :
    a.Retains (a.merge b) where
  placement := Placement.retains_merge _ _
  names := prefix_addNames _ _
  target := .filled _ _ _
  inlined hinlined := if_neg (ha hinlined)

end Typedef

namespace Parameter

lemma Retains.trans {a b c : Parameter} (h : a.Retains b) (h' : b.Retains c) : a.Retains c :=
  ⟨h.placement.trans h'.placement, h.name.trans h'.name, h.type.trans h'.type⟩

lemma retains_merge (a b : Parameter) : a.Retains (a.merge b) where
  placement := Placement.retains_merge _ _
  name := .filled _ _ _
  type := .firstType _ _

end Parameter

namespace Function

lemma Retains.trans {a b c : Function} (h : a.Retains b) (h' : b.Retains c) : a.Retains c where
  placement := h.placement.trans h'.placement
  name := h.name.trans h'.name
  linkageName := h.linkageName.trans h'.linkageName
  returnType := h.returnType.trans h'.returnType
  parameters := h.parameters.trans h'.parameters
  template := h.template.trans h'.template
  isMember := h.isMember.trans h'.isMember
  hasThis := h.hasThis.trans h'.hasThis
  isConst := h.isConst.trans h'.isConst
  isExplicit := h.isExplicit.trans h'.isExplicit
  isDefaulted := h.isDefaulted.trans h'.isDefaulted
  isDeleted := h.isDeleted.trans h'.isDeleted
  virtuality := h.virtuality.trans h'.virtuality
  isInline := h.isInline.trans h'.isInline
  isNoReturn := h.isNoReturn.trans h'.isNoReturn
  omitsReturnType := h.omitsReturnType.trans h'.omitsReturnType

lemma retains_merge (a b : Function) : a.Retains (a.merge b) where
  placement := Placement.retains_merge _ _
  name := .filled _ _ _
  linkageName := .or _ _
  returnType := .firstType _ _
  parameters := .filled _ _ _
  template := .or _ _
  isMember := .bool _ _
  hasThis := .bool _ _
  isConst := .bool _ _
  isExplicit := .bool _ _
  isDefaulted := .bool _ _
  isDeleted := .bool _ _
  virtuality := .filled _ _ _
  isInline := .bool _ _
  isNoReturn := .bool _ _
  omitsReturnType := .bool _ _

end Function

namespace Enumeration

lemma Retains.trans {a b c : Enumeration} (h : a.Retains b) (h' : b.Retains c) : a.Retains c :=
  ⟨h.placement.trans h'.placement, h.name.trans h'.name, h.baseType.trans h'.baseType,
    h.enumerators.trans h'.enumerators, h.isScoped.trans h'.isScoped⟩

lemma retains_merge (a b : Enumeration) : a.Retains (a.merge b) where
  placement := Placement.retains_merge _ _
  name := .filled _ _ _
  baseType := .or _ _
  enumerators := .filled _ _ _
  isScoped := .bool _ _

end Enumeration

namespace Field

lemma Retains.trans {a b c : Field} (h : a.Retains b) (h' : b.Retains c) : a.Retains c where
  placement := h.placement.trans h'.placement
  name := h.name.trans h'.name
  type := h.type.trans h'.type
  location := h.location.trans h'.location
  bitSize := h.bitSize.trans h'.bitSize
  defaultValue := h.defaultValue.trans h'.defaultValue
  isMutable := h.isMutable.trans h'.isMutable
  isVariable := h.isVariable.trans h'.isVariable
  isExternal := h.isExternal.trans h'.isExternal
  isStatic ha := by
    rcases h.isStatic ha with hstatic | ⟨hvariable, hexternal⟩
    · exact h'.isStatic hstatic
    · exact Or.inr ⟨(h'.isVariable hvariable).trans hvariable,
        (h'.isExternal hexternal).trans hexternal⟩
  linkedOnce := h'.linkedOnce

lemma retains_merge {a : Field} (ha : a.isVariable = true) (b : Field) :
    a.Retains (a.merge b) where
  placement := Placement.retains_merge _ _
  name := .filled _ _ _
  type := .firstType _ _
  location := .or _ _
  bitSize := .or _ _
  defaultValue := .or _ _
  isMutable := .bool _ _
  isVariable := .bool _ _
  isExternal := .bool _ _
  isStatic hstatic := by
    cases hexternal : a.isExternal || b.isExternal with
    | true => exact Or.inr ⟨by simp [merge, ha], hexternal⟩
    | false => exact Or.inl (by simp [merge, hexternal, hstatic])
  linkedOnce := fun hexternal => by
    have hexternal' : (a.isExternal || b.isExternal) = true := hexternal
    simp [merge, hexternal']

end Field

namespace NameImport

lemma Retains.trans {a b c : NameImport} (h : a.Retains b) (h' : b.Retains c) : a.Retains c where
  placement := h.placement.trans h'.placement
  target := h.target.trans h'.target
  form ha := (h'.form (h.target ha ▸ ha)).trans (h.form ha)

lemma retains_merge (a b : NameImport) : a.Retains (a.merge b) where
  placement := Placement.retains_merge _ _
  target := .filled _ _ _
  form ha := if_neg ha

end NameImport

namespace SortedMap

variable {κ α : Type} [LT κ] [DecidableLT κ] [DecidableEq κ] [LE κ] [Std.IsLinearOrder κ]
  [Std.LawfulOrderLT κ]

/-- Entries that are added under new keys leave the others alone. -/
lemma kept_foldl_insertNew {m : SortedMap κ α} (h : m.Ascending) (entries : List (κ × α))
    (key : κ) : Kept (·.isSome) (m.find? key)
      ((entries.foldl (fun m e => m.insertNew e.1 e.2) m).find? key) := by
  induction entries generalizing m with
  | nil => exact .refl _ _
  | cons e rest ih =>
    have hfirst : Kept (·.isSome) (m.find? key) ((m.insertNew e.1 e.2).find? key) := by
      intro hsome
      rw [insertNew, find?_alter h]
      split
      · rename_i hkey
        subst hkey
        obtain ⟨a, ha⟩ := Option.isSome_iff_exists.mp hsome
        rw [ha, Option.getD_some]
      · rfl
    exact hfirst.trans (ih (h.alter _ _))

end SortedMap

namespace Aggregate

variable {Member : Type} {a b c : Aggregate Member}

lemma Retains.trans (h : a.Retains b) (h' : b.Retains c) : a.Retains c where
  placement := h.placement.trans h'.placement
  kind := h'.kind.trans h.kind
  name := h.name.trans h'.name
  byteSize := h.byteSize.trans h'.byteSize
  bases := h.bases.trans h'.bases
  template := h.template.trans h'.template
  members line := (h.members line).trans (h'.members line)

lemma retains_merge (ha : a.members.Ascending) (b : Aggregate Member) : a.Retains (a.merge b) where
  placement := Placement.retains_merge _ _
  kind := rfl
  name := .filled _ _ _
  byteSize := .or _ _
  bases := .filled _ _ _
  template := .or _ _
  members line := SortedMap.kept_foldl_insertNew ha _ line

end Aggregate

namespace Declaration
open Debug

variable {a b c d : Declaration}

/-- What holds of every reading at file or namespace scope and of all that is made of them: a
definition that is spelled out has some text, a field is a variable with one linkage, and members
are in order. -/
def Whole : Declaration → Prop
  | typedef d => d.inlined.isSome → d.target ≠ ""
  | field d => d.isVariable = true ∧ d.LinkedOnce
  | aggregate d => d.members.Ascending
  | _ => True

lemma Whole.setScopes (h : d.Whole) (scopes : List Scope) : (d.setScopes scopes).Whole := by
  cases d <;> exact h

lemma ofEntry?_whole {t : EntryTree} {options : Options} {kind : DeclarationKind} {node : NodeId}
    (h : ofEntry? t options kind node = some d) (alone : kind.StandsAlone) : d.Whole := by
  have hread := ofEntry?_wellRead h
  have hkind := ofEntry?_kind h
  cases d with
  | typedef d =>
    subst hkind
    obtain ⟨definition, hdefinition, heq⟩ := Option.map_eq_some_iff.mp h
    cases heq
    intro hinlined
    cases definition with
    | none => cases hinlined
    | some definition =>
      exact definition?_ne (fun h => (readWithin_kind h).1) hdefinition
  | field d =>
    refine ⟨?_, hread⟩
    by_contra hmember
    have hfield : (field d).kind = .field := if_neg hmember
    exact alone.not_member.2 (hkind.symm.trans hfield)
  | aggregate d => exact hread
  | _ => trivial

lemma Retains.trans (h : a.Retains b) (h' : b.Retains c) : a.Retains c := by
  cases h with
  | typedef h => cases h' with | typedef h' => exact .typedef (h.trans h')
  | parameter h => cases h' with | parameter h' => exact .parameter (h.trans h')
  | function h => cases h' with | function h' => exact .function (h.trans h')
  | enumeration h => cases h' with | enumeration h' => exact .enumeration (h.trans h')
  | field h => cases h' with | field h' => exact .field (h.trans h')
  | nameImport h => cases h' with | nameImport h' => exact .nameImport (h.trans h')
  | aggregate h => cases h' with | aggregate h' => exact .aggregate (h.trans h')

lemma Whole.merge_self (h : d.Whole) : d.merge d = d := by
  have hread : d.WellRead := by
    cases d with
    | field d => exact h.2
    | _ => first | exact h | trivial
  have hkinds : ∀ y ∈ ([] : List Declaration), y.kind = d.kind := fun y hy => by cases hy
  exact merge_again hread hkinds

/-- A sighting of the same form is merged; one of another form changes nothing. -/
lemma Whole.merge (ha : a.Whole) (hb : b.Whole) : (a.merge b).Whole := by
  rcases sameForm_or_merge_eq a b with hab | heq
  · cases hab with
    | typedef a b =>
      intro hinlined
      by_cases htarget : a.target = ""
      · simp only [Typedef.merge, htarget, if_true] at hinlined ⊢
        exact hb hinlined
      · rwa [(Typedef.retains_merge ha b).target htarget]
    | field a b => exact ⟨by simp [Field.merge, ha.1], (Field.retains_merge ha.1 b).linkedOnce⟩
    | aggregate a b => exact SortedMap.ascending_foldl_insertNew ha _
    | _ => trivial
  · rwa [heq]

lemma Whole.retains_of_sameForm (h : a.Whole) (hab : a.SameForm b) : a.Retains (a.merge b) := by
  cases hab with
  | typedef a b => exact .typedef (Typedef.retains_merge h b)
  | parameter a b => exact .parameter (Parameter.retains_merge a b)
  | function a b => exact .function (Function.retains_merge a b)
  | enumeration a b => exact .enumeration (Enumeration.retains_merge a b)
  | field a b => exact .field (Field.retains_merge h.1 b)
  | nameImport a b => exact .nameImport (NameImport.retains_merge a b)
  | aggregate a b => exact .aggregate (Aggregate.retains_merge h b)

lemma Whole.retains_self (h : d.Whole) : d.Retains d := by
  have hself : d.Retains (d.merge d) := h.retains_of_sameForm (.refl d)
  rwa [h.merge_self] at hself

/-- A merge retains all that was there. -/
lemma Whole.retains_merge (h : a.Whole) (b : Declaration) : a.Retains (a.merge b) := by
  rcases sameForm_or_merge_eq a b with hab | heq
  · exact h.retains_of_sameForm hab
  · rw [heq]
    exact h.retains_self

end Declaration

namespace Registry
open Debug

variable {t : EntryTree} {r r' : Registry}

/-- All that is stored is whole. -/
def Whole (r : Registry) : Prop := ∀ {l d}, r.get? l = some d → d.Whole

/-- Whatever is stored stays stored, and retains all that it says. -/
def Retains (r r' : Registry) : Prop :=
  ∀ {l d}, r.get? l = some d → ∃ d', r'.get? l = some d' ∧ d.Retains d'

lemma empty_whole (options : Options) : (empty options).Whole := by
  intro l d hd
  simp [get?_eq_bucket, bucket_empty] at hd

lemma Whole.retains_self (h : r.Whole) : r.Retains r := fun hd => ⟨_, hd, (h hd).retains_self⟩

/-- A change of one declaration that makes it a whole one which retains the other. -/
lemma Whole.change (h : r.Whole) {l : Location} {b : Declaration}
    (hget : ∀ other, other ≠ l → r'.get? other = r.get? other) (hl : r'.get? l = some b)
    (hb : b.Whole) (hretains : ∀ {a}, r.get? l = some a → a.Retains b) :
    r'.Whole ∧ r.Retains r' := by
  constructor
  · intro other d hd
    by_cases hother : other = l
    · subst hother
      cases hl.symm.trans hd
      exact hb
    · exact h ((hget other hother).symm.trans hd)
  · intro other d hd
    by_cases hother : other = l
    · subst hother
      exact ⟨b, hl, hretains hd⟩
    · exact ⟨d, (hget other hother).trans hd, (h hd).retains_self⟩

/-- The step: whatever a move does, it retains. -/
lemma Move.retains (hconsistent : r.Consistent) (h : r.Whole) (move : Move t r r') :
    r'.Whole ∧ r.Retains r' := by
  cases move with
  | narrow baseDir => exact ⟨h, h.retains_self⟩
  | @merge owner node l present again known stands stored reading =>
    have hpresent := h stored
    have hagain := Declaration.ofEntry?_whole reading (hconsistent.standsAlone stored)
    have hget := get?_modify hconsistent.ordered l fun d => d.merge again
    refine h.change (fun other hother => by rw [hget, if_neg hother])
      (by rw [hget, if_pos rfl, stored]; rfl) (hpresent.merge hagain) fun ha => ?_
    cases stored.symm.trans ha
    exact hpresent.retains_merge again
  | @store node kind file line d scopes r₁ l? new place reading renderable store =>
    have hd : (d.setScopes scopes).Whole :=
      (Declaration.ofEntry?_whole reading (standsAlone_of_place place)).setScopes scopes
    cases l? with
    | none =>
      have hsame := get?_store_none hconsistent store
      refine ⟨fun hd => h ((hsame _).symm.trans hd), fun hd => ⟨_, (hsame _).trans hd, ?_⟩⟩
      exact (h hd).retains_self
    | some l =>
      obtain ⟨⟨a, ha, hstored⟩, hothers⟩ := get?_store hconsistent store
      have hwhole : a.Whole ∧ ∀ {before}, r.get? l = some before → before.Retains a := by
        rcases hstored with ⟨rfl, hfree⟩ | ⟨present, hpresent, -, rfl⟩
        · exact ⟨hd, fun hbefore => by cases hfree.symm.trans hbefore⟩
        · refine ⟨(h hpresent).merge hd, fun hbefore => ?_⟩
          cases hpresent.symm.trans hbefore
          exact (h hpresent).retains_merge _
      exact h.change hothers ha hwhole.1 hwhole.2

/-- From the step, by induction, the run. -/
lemma Moves.retains (hconsistent : r.Consistent) (h : r.Whole) (moves : Moves t r r') :
    r'.Whole ∧ r.Retains r' := by
  induction moves with
  | refl => exact ⟨h, h.retains_self⟩
  | tail moves move ih =>
    obtain ⟨hwhole, hretains⟩ := ih
    obtain ⟨hwhole', hretains'⟩ := move.retains (Moves.keeps hconsistent moves).1 hwhole
    refine ⟨hwhole', fun hd => ?_⟩
    obtain ⟨d₁, hd₁, h₁⟩ := hretains hd
    obtain ⟨d₂, hd₂, h₂⟩ := hretains' hd₁
    exact ⟨d₂, hd₂, h₁.trans h₂⟩

/-- After any calls on an empty registry: whatever is registered by then stays registered over any
further calls, and retains all that it says. -/
theorem run_retains (options : Options) (run : Run t (empty options) r) (later : Run t r r')
    {key : EntryKey} {d : Declaration} (known : r.lookup? key = some d) :
    ∃ d', r'.lookup? key = some d' ∧ d.Retains d' := by
  obtain ⟨hconsistent, -⟩ := Moves.keeps (empty_consistent options) run.moves
  obtain ⟨hwhole, -⟩ := Moves.retains (empty_consistent options) (empty_whole options) run.moves
  obtain ⟨l, hl, hd⟩ := Option.bind_eq_some_iff.mp known
  obtain ⟨d', hd', hretains⟩ := (Moves.retains hconsistent hwhole later.moves).2 hd
  have hl' := (Moves.keeps hconsistent later.moves).2.location hl
  exact ⟨d', by rw [lookup?, hl', Option.bind_some, hd'], hretains⟩

/-- Two units that declare a counter on line 3 of one header. To the first it is its own. -/
def counterUnits : EntryTree :=
  let declare := fun (b : TreeBuilder) (unit : String) =>
    let (b, root) := b.compileUnit unit "/src"
    let (b, counter) := b.child root .dataVariable
    ((b.name counter "count").declaredAt counter "/src/count.h" 3, counter)
  let (b, _) := declare .start "a.cpp"
  let (b, counter) := declare b "b.cpp"
  ((b.flag counter .external).addAttr counter .constantValue (.unsigned 7)).tree

/-- `static` gives way to `extern` and a value is added; the rest is as it was. -/
theorem counterUnits_retains : ∃ r r' d d',
    (empty {}).update counterUnits 0 = some r ∧ r.update counterUnits 2 = some r' ∧
    r.lookup? ⟨.info, 12⟩ = some d ∧ d.source = "static void count;" ∧
    r'.lookup? ⟨.info, 12⟩ = some d' ∧ d'.source = "extern void count = 7;" ∧ d.Retains d' := by
  have hfirst : ((empty {}).update counterUnits 0).bind (fun r =>
      (r.lookup? ⟨.info, 12⟩).map Declaration.source) = some "static void count;" := by cbv
  have hboth : (((empty {}).update counterUnits 0).bind fun r =>
      (r.update counterUnits 2).bind fun r' =>
        (r'.lookup? ⟨.info, 12⟩).map Declaration.source) = some "extern void count = 7;" := by cbv
  obtain ⟨r, hr, hd⟩ := Option.bind_eq_some_iff.mp hfirst
  obtain ⟨d, hd, hsource⟩ := Option.map_eq_some_iff.mp hd
  rw [hr, Option.bind_some] at hboth
  obtain ⟨r', hr', hd'⟩ := Option.bind_eq_some_iff.mp hboth
  obtain ⟨d', hd', hsource'⟩ := Option.map_eq_some_iff.mp hd'
  obtain ⟨later, hlater, hretains⟩ :=
    run_retains {} (.single (.update hr)) (.single (.update hr')) hd
  cases hd'.symm.trans hlater
  exact ⟨r, r', d, d', hr, hr', hd, hsource, hd', hsource', hretains⟩

end Registry
end HeaderRecovery
