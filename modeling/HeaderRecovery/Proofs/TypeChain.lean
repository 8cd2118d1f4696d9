import HeaderRecovery.Debug.TypeSpelling
import HeaderRecovery.Proofs.DeclaratorReading

/-!
The type that a chain of type entries describes. A chain is read off the tree as far as it is
made of marks, qualifiers, arrays and functions around names; its spelling depends on the chain
alone, not on where in the tree it stands.
-/
namespace HeaderRecovery.Debug
open Cpp

/-- The levels of a type as its entries have them, the named type innermost. -/
inductive Chain where
  | named (name : Name)
  | indirect (mark : Mark) (target : Chain)
  | qualified (qualifier : Qualifier) (inner : Chain)
  | array (bound : Option Nat) (element : Chain)
  | function (parameters : List (Option Chain)) (result : Chain)

/-- The text of a mark. -/
def markText : Mark → String
  | .pointer => "*"
  | .reference => "&"
  | .rvalueReference => "&&"
  | .member owner => owner.text ++ "::*"

/-- The text of an array bound. -/
def boundText : Option Nat → String
  | some n => "[" ++ toString n ++ "]"
  | none => "[]"

namespace Chain

mutual

/-- The type described: every qualifier on the level it is around. -/
def type : Chain → Ty
  | named name => .named 0 name
  | indirect mark target => .indirect 0 mark target.type
  | qualified q inner => inner.type.qualify q
  | array bound element => .array bound element.type
  | function parameters result => .function 0 (types parameters) result.type

def types : List (Option Chain) → List (Option Ty)
  | [] => []
  | none :: rest => none :: types rest
  | some c :: rest => some c.type :: types rest

end

/-- Spelled behind the name. -/
def isSuffixed : Chain → Bool
  | array .. | function .. => true
  | _ => false

def isIndirect : Chain → Bool
  | indirect .. => true
  | _ => false

mutual

/-- The spelling of a chain. -/
def spell : Chain → Declarator
  | named name => .plain name.text
  | indirect mark target =>
    if target.isSuffixed then
      ⟨target.spell.before ++ " (" ++ markText mark, ")" ++ target.spell.after⟩
    else ⟨EntryTree.attach target.spell.before (markText mark), target.spell.after⟩
  | qualified q inner =>
    if inner.isIndirect then ⟨EntryTree.attach inner.spell.before q.keyword, inner.spell.after⟩
    else ⟨q.keyword ++ " " ++ inner.spell.before, inner.spell.after⟩
  | array bound element =>
    ⟨element.spell.before, boundText bound ++ element.spell.after⟩
  | function parameters result =>
    ⟨result.spell.before,
      "(" ++ ", ".intercalate (spellParameters parameters) ++ ")" ++ result.spell.after⟩

def spellParameters : List (Option Chain) → List String
  | [] => []
  | none :: rest => "..." :: spellParameters rest
  | some c :: rest => c.spell.joined :: spellParameters rest

end

end Chain

namespace EntryTree

variable (t : EntryTree)

def voidName : Name := ⟨[], ⟨"void", by decide⟩⟩

/-- The name made of these parts, if they are identifiers. -/
def nameOf? : List String → Option Name
  | [] => none
  | [part] => (Identifier.ofWord? part).map fun last => ⟨[], last⟩
  | part :: rest => do
    let scope ← Identifier.ofWord? part
    let name ← nameOf? rest
    some (name.under scope)

/-- The parts of a qualified name. -/
def qualifiedParts (node : NodeId) : List String :=
  let node := t.resolve node
  let scopes := (t.ancestors node).takeWhile fun p => isScope (t.tag p)
  (node :: scopes).reverse.map t.localName

def typeName? (node : NodeId) : Option Name := nameOf? (t.qualifiedParts node)

def mark? (node : NodeId) : Option Mark :=
  match t.tag node with
  | .pointerType => some .pointer
  | .referenceType => some .reference
  | .rvalueReferenceType => some .rvalueReference
  | .memberPointerType =>
    ((t.reference? node .containingType).bind t.typeName?).map Mark.member
  | _ => none

def qualifier? : Tag → Option Qualifier
  | .constType => some .const
  | .volatileType => some .volatile
  | .restrictType => some .restrict
  | _ => none

/-- The bounds of an array, the outermost first; one without any has one unknown bound. -/
def bounds (node : NodeId) : List (Option Nat) :=
  match (t.children node).filter fun c => t.tag c = .subrangeType with
  | [] => [none]
  | ranges => ranges.map t.elementCount?

/-- The entries of the parameters that a function type has in C++, `...` included. -/
def writtenParameters (node : NodeId) : List NodeId :=
  (t.children node).filter fun c =>
    t.tag c = .unspecifiedParameters || (t.tag c = .formalParameter && !t.flag c .artificial)

def parameterChain? (read : Option NodeId → Option Chain) (node : NodeId) :
    Option (Option Chain) :=
  if t.tag node = .unspecifiedParameters then some none
  else (read (t.reference? node .type)).map some

/-- One level of a chain, given how those inside are read. -/
def chainLevel? (read : Option NodeId → Option Chain) (node : NodeId) : Option Chain :=
  let inner := read (t.reference? node .type)
  match t.tag node with
  | .pointerType | .referenceType | .rvalueReferenceType | .memberPointerType => do
    let mark ← t.mark? node
    let target ← inner
    some (.indirect mark target)
  | .constType | .volatileType | .restrictType => do
    let q ← qualifier? (t.tag node)
    let inner ← inner
    some (.qualified q inner)
  | .arrayType => do
    let element ← inner
    some ((t.bounds node).foldr .array element)
  | .subroutineType => do
    let parameters ← (t.writtenParameters node).mapM (t.parameterChain? read)
    let result ← inner
    some (.function parameters result)
  | .atomicType => none
  | .unspecifiedType => (nameOf? [(t.shortName? node).getD "void"]).map .named
  | _ => (t.typeName? node).map .named

/-- The chain of a type that ends within `depth` levels; no type at all is `void`. There is none
for types that go round in a circle, nor for names that are no identifiers. -/
def chain? : Nat → Option NodeId → Option Chain
  | _, none => some (.named voidName)
  | 0, some _ => none
  | depth + 1, some node => t.chainLevel? (chain? depth) (t.resolve node)

/-! ### Chains read with more levels are the same -/

section Mono

variable {t : EntryTree} {read read' : Option NodeId → Option Chain}

lemma parameterChain?_mono (h : ∀ type c, read type = some c → read' type = some c)
    {node : NodeId} {p : Option Chain} (hp : t.parameterChain? read node = some p) :
    t.parameterChain? read' node = some p := by
  unfold parameterChain? at hp ⊢
  split at hp
  · rwa [if_pos ‹_›]
  · obtain ⟨c, hc, rfl⟩ := Option.map_eq_some_iff.mp hp
    rw [if_neg ‹_›, h _ _ hc]
    rfl

lemma mapM_mono {α β : Type} {f g : α → Option β} (h : ∀ a b, f a = some b → g a = some b)
    {as : List α} {bs : List β} (hbs : as.mapM f = some bs) : as.mapM g = some bs := by
  induction as generalizing bs with
  | nil => simpa using hbs
  | cons a as ih =>
    simp only [List.mapM_cons, Option.bind_eq_bind, Option.bind_eq_some_iff] at hbs ⊢
    obtain ⟨b, hb, bs', hbs', heq⟩ := hbs
    exact ⟨b, h _ _ hb, bs', ih hbs', heq⟩

lemma chainLevel?_mono (h : ∀ type c, read type = some c → read' type = some c)
    {node : NodeId} {c : Chain} (hc : t.chainLevel? read node = some c) :
    t.chainLevel? read' node = some c := by
  unfold chainLevel? at hc ⊢
  split at hc <;> simp only [Option.bind_eq_bind, Option.bind_eq_some_iff] at hc ⊢
  case h_1 | h_2 | h_3 | h_4 =>
    obtain ⟨mark, hmark, target, htarget, heq⟩ := hc
    exact ⟨mark, hmark, target, h _ _ htarget, heq⟩
  case h_5 | h_6 | h_7 =>
    obtain ⟨q, hq, inner, hinner, heq⟩ := hc
    exact ⟨q, hq, inner, h _ _ hinner, heq⟩
  case h_8 =>
    obtain ⟨element, helement, heq⟩ := hc
    exact ⟨element, h _ _ helement, heq⟩
  case h_9 =>
    obtain ⟨parameters, hparameters, result, hresult, heq⟩ := hc
    exact ⟨parameters, mapM_mono (fun _ _ => parameterChain?_mono h) hparameters, result,
      h _ _ hresult, heq⟩
  all_goals exact hc

end Mono

/-! ### The spelling of an entry is that of its chain -/

section Spelled

variable {t : EntryTree} {node : NodeId} {c : Chain}

lemma nameOf?_text {parts : List String} {name : Name} (h : nameOf? parts = some name) :
    "::".intercalate parts = name.text := by
  have hparts : parts = (name.scopes ++ [name.last]).map Identifier.text := by
    induction parts generalizing name with
    | nil => cases h
    | cons part rest ih =>
      have hpart : ∀ {i : Identifier}, Identifier.ofWord? part = some i → i.text = part := by
        intro i hi
        unfold Identifier.ofWord? at hi
        split at hi <;> cases hi
        rfl
      cases rest with
      | nil =>
        obtain ⟨last, hlast, rfl⟩ := Option.map_eq_some_iff.mp h
        simp [hpart hlast]
      | cons next rest =>
        simp only [nameOf?, Option.bind_eq_bind, Option.bind_eq_some_iff] at h
        obtain ⟨scope, hscope, inner, hinner, heq⟩ := h
        cases heq
        simp [Name.under, hpart hscope, ih hinner]
  rw [hparts, Name.text]

lemma typeName?_text {name : Name} (h : t.typeName? node = some name) :
    t.qualifiedName node = name.text := nameOf?_text h

lemma dimensions_eq : t.dimensions node = String.join ((t.bounds node).map boundText) := by
  have hdimension : t.dimension = boundText ∘ t.elementCount? := by
    funext range
    unfold dimension boundText Function.comp
    cases t.elementCount? range <;> rfl
  unfold dimensions bounds
  cases (t.children node).filter fun c => t.tag c = .subrangeType with
  | nil => rfl
  | cons range ranges => rw [hdimension, List.map_map]

/-- An array has a bound, known or not. -/
lemma bounds_ne_nil (t : EntryTree) (node : NodeId) : t.bounds node ≠ [] := by
  unfold bounds
  cases (t.children node).filter fun c => t.tag c = .subrangeType <;> simp

lemma spell_arrays (bounds : List (Option Nat)) (element : Chain) :
    (bounds.foldr Chain.array element).spell =
      ⟨element.spell.before, String.join (bounds.map boundText) ++ element.spell.after⟩ := by
  induction bounds with
  | nil => simp
  | cons bound bounds ih =>
    rw [List.foldr_cons, Chain.spell, ih]
    simp [String.append_assoc]

lemma markText_of_member {owner : NodeId} {name : Name}
    (howner : t.reference? node .containingType = some owner)
    (hname : t.typeName? owner = some name) :
    ((t.reference? node .containingType).map t.qualifiedName).getD "" ++ "::*" =
      markText (.member name) := by
  rw [howner, Option.map_some, Option.getD_some, typeName?_text hname]
  rfl

lemma parameterList_eq {spell : Option NodeId → Declarator} {read : Option NodeId → Option Chain}
    (h : ∀ type c, read type = some c → spell type = c.spell) {parameters : List (Option Chain)}
    (hp : (t.writtenParameters node).mapM (t.parameterChain? read) = some parameters) :
    t.parameterList spell node = ", ".intercalate (Chain.spellParameters parameters) := by
  unfold parameterList writtenParameters at *
  congr 1
  generalize t.children node = children at hp
  induction children generalizing parameters with
  | nil =>
    cases hp
    rfl
  | cons child rest ih =>
    rw [List.filterMap_cons]
    by_cases hdots : t.tag child = .unspecifiedParameters
    · simp only [List.filter_cons, hdots, decide_true, Bool.true_or, if_true, List.mapM_cons,
        Option.bind_eq_bind, Option.bind_eq_some_iff, parameterChain?] at hp
      obtain ⟨p, hfirst, ps, hps, heq⟩ := hp
      cases hfirst
      cases heq
      simp [hdots, Chain.spellParameters, ih hps]
    -- Artificial parameters and other children are in neither list.
    · by_cases hformal : t.tag child = .formalParameter
      · by_cases hartificial : t.flag child .artificial
        · simp only [List.filter_cons, hformal, hartificial] at hp
          simpa [hformal, hartificial] using ih hp
        · simp only [List.filter_cons, hformal, hartificial, Bool.not_false, decide_true,
            Bool.and_true, Bool.or_true, if_true, List.mapM_cons, Option.bind_eq_bind,
            Option.bind_eq_some_iff, parameterChain?] at hp
          obtain ⟨p, hfirst, ps, hps, heq⟩ := hp
          obtain ⟨c, hc, rfl⟩ := Option.map_eq_some_iff.mp (by simpa using hfirst)
          cases heq
          simp [hformal, hartificial, Chain.spellParameters, ih hps, h _ _ hc]
      · simp only [List.filter_cons, hdots, hformal] at hp
        simp only [decide_false, Bool.false_and, Bool.or_false, Bool.false_eq_true, if_false] at hp
        split
        · exact ih hp
        · simp_all

/-- Where a chain begins with a suffix or an indirection is seen from the entry alone. -/
lemma chainLevel?_shape {read : Option NodeId → Option Chain}
    (h : t.chainLevel? read node = some c) :
    c.isSuffixed = EntryTree.isSuffixed (t.tag node) ∧
      c.isIndirect = EntryTree.isIndirect (t.tag node) := by
  unfold chainLevel? at h
  cases htag : t.tag node <;> simp only [htag, Option.bind_eq_bind, Option.bind_eq_some_iff,
    Option.map_eq_some_iff] at h
  case pointerType | referenceType | rvalueReferenceType | memberPointerType =>
    obtain ⟨mark, -, target, -, heq⟩ := h
    cases heq
    exact ⟨rfl, rfl⟩
  case constType | volatileType | restrictType =>
    obtain ⟨q, -, inner, -, heq⟩ := h
    cases heq
    exact ⟨rfl, rfl⟩
  case arrayType =>
    obtain ⟨element, -, heq⟩ := h
    cases heq
    obtain ⟨bound, bounds, hbounds⟩ := List.exists_cons_of_ne_nil (bounds_ne_nil t node)
    rw [hbounds]
    exact ⟨rfl, rfl⟩
  case subroutineType =>
    obtain ⟨parameters, -, result, -, heq⟩ := h
    cases heq
    exact ⟨rfl, rfl⟩
  case atomicType => cases h
  all_goals
    obtain ⟨name, -, rfl⟩ := h
    exact ⟨rfl, rfl⟩

lemma targetIs_of_chain? {depth : Nat} (h : t.chain? depth (t.reference? node .type) = some c) :
    t.targetIs node EntryTree.isSuffixed = c.isSuffixed ∧
      t.targetIs node EntryTree.isIndirect = c.isIndirect := by
  unfold targetIs target?
  cases htype : t.reference? node .type with
  | none =>
    rw [htype] at h
    cases depth <;> cases h <;> exact ⟨rfl, rfl⟩
  | some type =>
    rw [htype] at h
    cases depth with
    | zero => cases h
    | succ depth =>
      obtain ⟨hsuffixed, hindirect⟩ := chainLevel?_shape h
      exact ⟨hsuffixed.symm, hindirect.symm⟩

lemma spellLevel_eq {depth : Nat} {spell : Option NodeId → Declarator}
    (hspell : ∀ type c, t.chain? depth type = some c → spell type = c.spell)
    (h : t.chainLevel? (t.chain? depth) node = some c) : t.spellLevel spell node = c.spell := by
  have hpointer : ∀ mark {target}, t.chain? depth (t.reference? node .type) = some target →
      t.pointerTo (spell (t.reference? node .type)) node (markText mark) =
        (Chain.indirect mark target).spell := by
    intro mark target htarget
    rw [pointerTo, (targetIs_of_chain? htarget).1, hspell _ _ htarget, Chain.spell]
  have hqualified : ∀ q {inner}, t.chain? depth (t.reference? node .type) = some inner →
      t.qualified (spell (t.reference? node .type)) node q.keyword =
        (Chain.qualified q inner).spell := by
    intro q inner hinner
    rw [EntryTree.qualified, (targetIs_of_chain? hinner).2, hspell _ _ hinner, Chain.spell]
  unfold chainLevel? at h
  unfold spellLevel
  cases htag : t.tag node <;> simp only [htag, mark?, qualifier?, Option.bind_eq_bind,
    Option.bind_eq_some_iff, Option.map_eq_some_iff, Option.some.injEq] at h ⊢
  case pointerType =>
    obtain ⟨mark, rfl, target, htarget, rfl⟩ := h
    exact hpointer .pointer htarget
  case referenceType =>
    obtain ⟨mark, rfl, target, htarget, rfl⟩ := h
    exact hpointer .reference htarget
  case rvalueReferenceType =>
    obtain ⟨mark, rfl, target, htarget, rfl⟩ := h
    exact hpointer .rvalueReference htarget
  case memberPointerType =>
    obtain ⟨mark, ⟨name, ⟨owner, howner, hname⟩, rfl⟩, target, htarget, rfl⟩ := h
    rw [markText_of_member howner hname]
    exact hpointer (.member name) htarget
  case constType =>
    obtain ⟨q, rfl, inner, hinner, rfl⟩ := h
    exact hqualified .const hinner
  case volatileType =>
    obtain ⟨q, rfl, inner, hinner, rfl⟩ := h
    exact hqualified .volatile hinner
  case restrictType =>
    obtain ⟨q, rfl, inner, hinner, rfl⟩ := h
    exact hqualified .restrict hinner
  case arrayType =>
    obtain ⟨element, helement, rfl⟩ := h
    rw [hspell _ _ helement, dimensions_eq, spell_arrays]
  case subroutineType =>
    obtain ⟨parameters, hparameters, result, hresult, rfl⟩ := h
    rw [hspell _ _ hresult, parameterList_eq hspell hparameters, Chain.spell]
  case unspecifiedType =>
    obtain ⟨name, hname, rfl⟩ := h
    rw [Chain.spell, ← nameOf?_text hname]
    simp
  case atomicType => cases h
  all_goals
    obtain ⟨name, hname, rfl⟩ := h
    rw [typeName?_text hname, Chain.spell]

lemma chain?_mono {depth : Nat} {type : Option NodeId} (h : t.chain? depth type = some c) :
    ∀ more, t.chain? (depth + more) type = some c := by
  have hsucc : ∀ {depth type c}, t.chain? depth type = some c →
      t.chain? (depth + 1) type = some c := by
    intro depth
    induction depth with
    | zero =>
      intro type c h
      cases type with
      | none => exact h
      | some node => cases h
    | succ depth ih =>
      intro type c h
      cases type with
      | none => exact h
      | some node => exact chainLevel?_mono (fun _ _ => ih) h
  intro more
  induction more with
  | zero => exact h
  | succ more ih => exact hsucc ih

/-- A type that has a chain is spelled like it: no entry is met again on the way down, as the
chain would go on for ever. -/
lemma spellFrom_eq {levels depth : Nat} {path : List NodeId} {type : Option NodeId}
    (h : t.chain? levels type = some c) (enough : levels ≤ depth)
    (fresh : ∀ p ∈ path, ∀ k < levels, t.chainLevel? (t.chain? k) p = none) :
    t.spellFrom depth path type = c.spell := by
  induction levels using Nat.strong_induction_on generalizing depth path type c with
  | _ levels ih =>
    cases type with
    | none =>
      have hc : c = .named voidName := by cases levels <;> cases h <;> rfl
      subst hc
      cases depth <;> rfl
    | some node =>
      cases levels with
      | zero => cases h
      | succ levels =>
        cases depth with
        | zero => cases enough
        | succ depth =>
          have hlevel : t.chainLevel? (t.chain? levels) (t.resolve node) = some c := h
          have hnot : t.resolve node ∉ path := by
            intro hmem
            rw [fresh _ hmem levels (Nat.lt_succ_self _)] at hlevel
            cases hlevel
          -- If fewer levels give a chain, it is this one; else the entry is new to the path.
          by_cases hless : ∃ k < levels, ∃ c', t.chainLevel? (t.chain? k) (t.resolve node) = some c'
          · obtain ⟨k, hk, c', hc'⟩ := hless
            have hchain : t.chain? (k + 1) (some node) = some c' := hc'
            have hsame := chain?_mono hchain (levels - k)
            rw [show k + 1 + (levels - k) = levels + 1 by omega, h] at hsame
            cases hsame
            exact ih (k + 1) (by omega) hchain (by omega)
              fun p hp j hj => fresh p hp j (by omega)
          · rw [spellFrom, if_neg hnot]
            apply spellLevel_eq _ hlevel
            intro inner c' hinner
            refine ih levels (Nat.lt_succ_self _) hinner (by omega) ?_
            intro p hp k hk
            rcases List.mem_cons.mp hp with rfl | hp
            · cases hnone : t.chainLevel? (t.chain? k) (t.resolve node) with
              | none => rfl
              | some c' => exact absurd ⟨k, hk, c', hnone⟩ hless
            · exact fresh p hp k (by omega)

end Spelled

end EntryTree
end HeaderRecovery.Debug
