import Mathlib
import HeaderRecovery.Debug.TypeSpelling

/-!
Spelling types with one set for all that are being spelled. A printer enters a type into its set
before it spells what the type is made of and takes it out of there afterwards. Main statement:
whatever a printer is asked for, its set is left as it was found; in between it holds the types of
one path, each once and no more of them than the depth allows; so the answers are those of new
printers, which are the spellings along paths.
-/
namespace HeaderRecovery.Debug

/-! ### Printers -/

/-- What a printer does with a type. -/
inductive PrintStep where
  | enter (node : NodeId)
  | leave (node : NodeId)
  deriving DecidableEq, Repr

def PrintStep.change (found : Finset NodeId) : PrintStep → Finset NodeId
  | .enter node => insert node found
  | .leave node => found.erase node

structure Printer where
  /-- The types that are being spelled. -/
  inProgress : Finset NodeId
  /-- All changes of that set so far. -/
  steps : List PrintStep

def Printer.fresh : Printer := ⟨∅, []⟩

def Printer.take (p : Printer) (step : PrintStep) : Printer :=
  ⟨step.change p.inProgress, p.steps ++ [step]⟩

abbrev Print := StateM Printer

namespace EntryTree

variable (t : EntryTree)

/-- The parameters of a function type in order, given how a printer spells types. -/
def printParameters (print : Option NodeId → Print Declarator) (node : NodeId) : Print String := do
  let spelled ← (t.children node).filterMapM fun c =>
    match t.tag c with
    | .formalParameter =>
      if t.flag c .artificial then pure none
      else do return some (← print (t.reference? c .type)).joined
    | .unspecifiedParameters => pure (some "...")
    | _ => pure none
  return ", ".intercalate spelled

/-- One level of a type; a function's result is spelled before its parameters. -/
def printLevel (print : Option NodeId → Print Declarator) (node : NodeId) : Print Declarator :=
  let inner := fun _ : Unit => print (t.reference? node .type)
  match t.tag node with
  | .pointerType => do return t.pointerTo (← inner ()) node "*"
  | .referenceType => do return t.pointerTo (← inner ()) node "&"
  | .rvalueReferenceType => do return t.pointerTo (← inner ()) node "&&"
  | .memberPointerType => do
    let owner := ((t.reference? node .containingType).map t.qualifiedName).getD ""
    return t.pointerTo (← inner ()) node (owner ++ "::*")
  | .constType => do return t.qualified (← inner ()) node "const"
  | .volatileType => do return t.qualified (← inner ()) node "volatile"
  | .restrictType => do return t.qualified (← inner ()) node "__restrict"
  | .atomicType => do return .plain ("_Atomic(" ++ (← inner ()).joined ++ ")")
  | .arrayType => do
    let element ← inner ()
    return ⟨element.before, t.dimensions node ++ element.after⟩
  | .subroutineType => do
    let result ← inner ()
    let parameters ← t.printParameters print node
    return ⟨result.before, "(" ++ parameters ++ ")" ++ result.after⟩
  | .unspecifiedType => pure (.plain ((t.shortName? node).getD "void"))
  | _ => pure (.plain (t.qualifiedName node))

/-- Spells a type within further levels. One that is in progress already is given by its name, and
the set is left alone. -/
def print : Nat → Option NodeId → Print Declarator
  | _, none => pure (.plain "void")
  | 0, some node => pure (.plain (t.localName (t.resolve node)))
  | levels + 1, some node => do
    let node := t.resolve node
    if node ∈ (← get).inProgress then return .plain (t.localName node)
    modify (·.take (.enter node))
    let spelled ← t.printLevel (print levels) node
    modify (·.take (.leave node))
    return spelled

end EntryTree

/-- What a printer can be asked for. -/
inductive PrintCall where
  /-- The spelling of a type around the place of a name. -/
  | split (type : Option NodeId)
  /-- The spelling of a type on its own. -/
  | typeName (type : Option NodeId)

namespace PrintCall

/-- The answer of a printer to a call. -/
def answer (t : EntryTree) (maxDepth : Nat) : PrintCall → Print (Declarator ⊕ String)
  | split type => do return .inl (← t.print maxDepth type)
  | typeName type => do return .inr (← t.print maxDepth type).joined

/-- The answer without a printer. -/
def spelled (t : EntryTree) (maxDepth : Nat) : PrintCall → Declarator ⊕ String
  | split type => .inl (t.spellFrom maxDepth [] type)
  | typeName type => .inr (t.spellFrom maxDepth [] type).joined

end PrintCall

/-! ### Steps there and back -/

variable {bound : Nat} {path : List NodeId} {steps : List PrintStep}

/-- The types in progress after steps. -/
def inProgressAfter (steps : List PrintStep) (found : Finset NodeId) : Finset NodeId :=
  steps.foldl PrintStep.change found

/-- The types that have been entered and not left, the innermost first, after steps from a path.
No type but the innermost can be left. -/
def pathAfter : List PrintStep → List NodeId → Option (List NodeId)
  | [], path => some path
  | .enter node :: rest, path => pathAfter rest (node :: path)
  | .leave node :: rest, innermost :: path =>
    if node = innermost then pathAfter rest path else none
  | .leave _ :: _, [] => none

/-- At every moment of the steps the types in progress are those of a path, on which no type stands
twice and which is not longer than the bound. -/
def Orderly (bound : Nat) (path : List NodeId) (steps : List PrintStep) : Prop :=
  ∀ moment, moment <+: steps → ∃ current, pathAfter moment path = some current ∧
    current.Nodup ∧ current.length ≤ bound ∧
    inProgressAfter moment path.toFinset = current.toFinset

/-- Steps that come back to the path that they start on. -/
inductive Tour (bound : Nat) : List NodeId → List PrintStep → Prop
  | stay {path : List NodeId} : Tour bound path []
  | visit {path : List NodeId} {node : NodeId} {inner rest : List PrintStep} :
    node ∉ path → path.length < bound → Tour bound (node :: path) inner → Tour bound path rest →
    Tour bound path (.enter node :: (inner ++ .leave node :: rest))

lemma inProgressAfter_enter (node : NodeId) (later : List PrintStep) :
    inProgressAfter (.enter node :: later) path.toFinset =
      inProgressAfter later (node :: path).toFinset := by
  rw [List.toFinset_cons]
  rfl

lemma inProgressAfter_leave {node : NodeId} (h : node ∉ path) (later : List PrintStep) :
    inProgressAfter (.leave node :: later) (node :: path).toFinset =
      inProgressAfter later path.toFinset := by
  rw [inProgressAfter, List.foldl_cons, PrintStep.change, List.toFinset_cons,
    Finset.erase_insert (mt List.mem_toFinset.mp h), inProgressAfter]

namespace Tour

lemma append {later : List PrintStep} (h : Tour bound path steps) (hlater : Tour bound path later) :
    Tour bound path (steps ++ later) := by
  induction h with
  | stay => exact hlater
  | @visit path node inner rest hnew hroom hinner _ _ ihrest =>
    have hboth := Tour.visit hnew hroom hinner (ihrest hlater)
    rwa [List.cons_append, List.append_assoc]

lemma pathAfter_append (h : Tour bound path steps) (later : List PrintStep) :
    pathAfter (steps ++ later) path = pathAfter later path := by
  induction h generalizing later with
  | stay => rfl
  | @visit path node inner rest hnew hroom hinner hrest ihinner ihrest =>
    rw [List.cons_append, List.append_assoc, pathAfter, ihinner, List.cons_append, pathAfter,
      if_pos rfl, ihrest]

lemma inProgressAfter_append (h : Tour bound path steps) (later : List PrintStep) :
    inProgressAfter (steps ++ later) path.toFinset = inProgressAfter later path.toFinset := by
  induction h generalizing later with
  | stay => rfl
  | @visit path node inner rest hnew hroom hinner hrest ihinner ihrest =>
    rw [List.cons_append, List.append_assoc, inProgressAfter_enter, ihinner, List.cons_append,
      inProgressAfter_leave hnew, ihrest]

/-- A tour of a path without repetitions is orderly. -/
lemma orderly (h : Tour bound path steps) (hpath : path.Nodup) (hlength : path.length ≤ bound) :
    Orderly bound path steps := by
  induction h with
  | stay =>
    intro moment hmoment
    obtain rfl := List.prefix_nil.mp hmoment
    exact ⟨_, rfl, hpath, hlength, rfl⟩
  | @visit path node inner rest hnew hroom hinner hrest ihinner ihrest =>
    intro moment hmoment
    rcases List.prefix_cons_iff.mp hmoment with rfl | ⟨moment, rfl, hbehind⟩
    · exact ⟨path, rfl, hpath, hlength, rfl⟩
    rw [inProgressAfter_enter, pathAfter]
    have hthere := ihinner (List.nodup_cons.mpr ⟨hnew, hpath⟩) hroom
    -- The moment lies before the inner tour is over, or the type is about to be left or has been.
    rcases List.prefix_or_prefix_of_prefix hbehind (List.prefix_append inner _) with
      hearly | ⟨late, rfl⟩
    · exact hthere moment hearly
    · rw [hinner.pathAfter_append, hinner.inProgressAfter_append]
      rcases List.prefix_cons_iff.mp ((List.prefix_append_right_inj inner).mp hbehind) with
        rfl | ⟨later, rfl, hlater⟩
      · exact hthere [] (List.nil_prefix)
      · rw [inProgressAfter_leave hnew, pathAfter, if_pos rfl]
        exact ihrest hpath hlength later hlater

end Tour

/-! ### What printers give -/

section Gives

variable {α β : Type}

/-- On a path the computation has this result, and takes the printer on a tour from there. -/
def Gives (bound : Nat) (path : List NodeId) (x : Print α) (value : α) : Prop :=
  ∀ p : Printer, p.inProgress = path.toFinset →
    ∃ steps, Tour bound path steps ∧ x p = (value, ⟨p.inProgress, p.steps ++ steps⟩)

namespace Gives

lemma pure (value : α) : Gives bound path (pure value) value := by
  intro p _
  exact ⟨[], .stay, by rw [List.append_nil]; rfl⟩

lemma bind {x : Print α} {value : α} {f : α → Print β} {result : β}
    (hx : Gives bound path x value) (hf : Gives bound path (f value) result) :
    Gives bound path (x >>= f) result := by
  intro p hp
  obtain ⟨steps, htour, hresult⟩ := hx p hp
  obtain ⟨later, hlater, hresult'⟩ := hf ⟨p.inProgress, p.steps ++ steps⟩ hp
  refine ⟨steps ++ later, htour.append hlater, ?_⟩
  change f (x p).1 (x p).2 = _
  rw [hresult, hresult', List.append_assoc]

lemma map {x : Print α} {value : α} (hx : Gives bound path x value) (f : α → β) :
    Gives bound path (do return f (← x)) (f value) :=
  hx.bind (.pure _)

lemma mapM {f : α → Print β} {g : α → β} (h : ∀ a, Gives bound path (f a) (g a)) (as : List α) :
    Gives bound path (as.mapM f) (as.map g) := by
  induction as with
  | nil =>
    rw [List.mapM_nil]
    exact .pure _
  | cons a rest ih =>
    rw [List.mapM_cons]
    exact (h a).bind (ih.map _)

lemma filterMapM {f : α → Print (Option β)} {g : α → Option β}
    (h : ∀ a, Gives bound path (f a) (g a)) (as : List α) :
    Gives bound path (as.filterMapM f) (as.filterMap g) := by
  induction as with
  | nil =>
    rw [List.filterMapM_nil]
    exact .pure _
  | cons a rest ih =>
    rw [List.filterMapM_cons, List.filterMap_cons]
    refine (h a).bind ?_
    cases g a with
    | none => exact ih
    | some b => exact ih.map _

end Gives
end Gives

namespace EntryTree

variable {t : EntryTree} {print : Option NodeId → Print Declarator}
variable {spell : Option NodeId → Declarator}

lemma gives_printParameters (h : ∀ type, Gives bound path (print type) (spell type))
    (node : NodeId) :
    Gives bound path (t.printParameters print node) (t.parameterList spell node) := by
  refine (Gives.filterMapM (fun c => ?_) _).map _
  cases t.tag c with
  | formalParameter =>
    cases t.flag c .artificial with
    | true => exact .pure none
    | false => exact (h _).map fun spelled => some spelled.joined
  | unspecifiedParameters => exact .pure (some "...")
  | _ => exact .pure none

lemma gives_printLevel (h : ∀ type, Gives bound path (print type) (spell type)) (node : NodeId) :
    Gives bound path (t.printLevel print node) (t.spellLevel spell node) := by
  have hinner := h (t.reference? node .type)
  simp only [printLevel, spellLevel]
  cases t.tag node with
  | subroutineType => exact hinner.bind ((gives_printParameters h node).map _)
  | unspecifiedType => exact .pure _
  | pointerType | referenceType | rvalueReferenceType | memberPointerType | constType
  | volatileType | restrictType | atomicType | arrayType => exact hinner.map _
  | _ => exact .pure _

lemma print_of_mem {node : NodeId} {p : Printer} (levels : Nat)
    (h : t.resolve node ∈ p.inProgress) :
    t.print (levels + 1) (some node) p = (.plain (t.localName (t.resolve node)), p) := by
  rw [EntryTree.print]
  change (ite _ _ _ : Print Declarator) p = _
  rw [if_pos h]
  rfl

lemma print_of_notMem {node : NodeId} {p : Printer} (levels : Nat)
    (h : t.resolve node ∉ p.inProgress) :
    t.print (levels + 1) (some node) p =
      ((t.printLevel (t.print levels) (t.resolve node) (p.take (.enter (t.resolve node)))).1,
        (t.printLevel (t.print levels) (t.resolve node)
          (p.take (.enter (t.resolve node)))).2.take (.leave (t.resolve node))) := by
  rw [EntryTree.print]
  change (ite _ _ _ : Print Declarator) p = _
  rw [if_neg h]
  rfl

/-- A printer gives the spelling along the path of the types in progress. -/
lemma gives_print (t : EntryTree) (levels : Nat) (type : Option NodeId) :
    path.length + levels ≤ bound →
      Gives bound path (t.print levels type) (t.spellFrom levels path type) := by
  induction levels generalizing path type with
  | zero =>
    intro _
    cases type <;> exact .pure _
  | succ levels ih =>
    intro hbound
    cases type with
    | none => exact .pure _
    | some node =>
      intro p hp
      have hset : t.resolve node ∈ p.inProgress ↔ t.resolve node ∈ path := by
        rw [hp, List.mem_toFinset]
      rw [spellFrom]
      by_cases hnew : t.resolve node ∈ path
      · refine ⟨[], .stay, ?_⟩
        rw [print_of_mem levels (hset.mpr hnew), if_pos hnew, List.append_nil]
      · have hroom : path.length < bound := by omega
        -- Inside, the type is in progress as well, and the bound leaves room for it.
        have hinner : ∀ type, Gives bound (t.resolve node :: path) (t.print levels type)
            (t.spellFrom levels (t.resolve node :: path) type) :=
          fun type => ih type (by rw [List.length_cons]; omega)
        have hentered : (p.take (.enter (t.resolve node))).inProgress =
            (t.resolve node :: path).toFinset := by
          rw [List.toFinset_cons, ← hp]
          rfl
        obtain ⟨inner, htour, hresult⟩ := gives_printLevel hinner (t.resolve node) _ hentered
        refine ⟨_, .visit hnew hroom htour .stay, ?_⟩
        have hleft : (insert (t.resolve node) p.inProgress).erase (t.resolve node) =
            p.inProgress := Finset.erase_insert (mt hset.mp hnew)
        rw [print_of_notMem levels (mt hset.mp hnew), if_neg hnew, hresult]
        simp [Printer.take, PrintStep.change, hleft]

end EntryTree

namespace PrintCall

variable (t : EntryTree) (maxDepth : Nat)

lemma gives_answer (call : PrintCall) :
    Gives maxDepth [] (call.answer t maxDepth) (call.spelled t maxDepth) := by
  have hprint : ∀ type, Gives maxDepth [] (t.print maxDepth type) (t.spellFrom maxDepth [] type) :=
    fun type => EntryTree.gives_print t maxDepth type (Nat.le_of_eq (Nat.zero_add maxDepth))
  cases call with
  | split type => exact (hprint type).map _
  | typeName type => exact (hprint type).map _

/-- A printer finds its set again as it was, whatever that held, and has added the types of one
path to it meanwhile, each once and no more of them than the depth. A printer that is asked for any
number of spellings has nothing in progress in the end; it answers as new printers do, each of
which is asked for one of them, and its answers are the spellings along paths. -/
theorem printer_leaves_no_trace :
    (∀ (p : Printer) type, ∃ steps,
      (t.print maxDepth type p).2 = ⟨p.inProgress, p.steps ++ steps⟩ ∧
      Orderly (p.inProgress.card + maxDepth) p.inProgress.toList steps) ∧
    ∀ calls : List PrintCall, ∃ steps,
      calls.mapM (answer t maxDepth) .fresh = (calls.map (spelled t maxDepth), ⟨∅, steps⟩) ∧
      calls.map (spelled t maxDepth) = calls.map (fun call => (answer t maxDepth call .fresh).1) ∧
      Orderly maxDepth [] steps := by
  constructor
  · intro p type
    have hfound : p.inProgress = p.inProgress.toList.toFinset := (Finset.toList_toFinset _).symm
    have hlength : p.inProgress.toList.length = p.inProgress.card := Finset.length_toList _
    obtain ⟨steps, htour, hresult⟩ := EntryTree.gives_print t maxDepth type
      (Nat.le_of_eq (congrArg (· + maxDepth) hlength)) p hfound
    refine ⟨steps, congrArg Prod.snd hresult, htour.orderly (Finset.nodup_toList _) ?_⟩
    omega
  · intro calls
    obtain ⟨steps, htour, hresult⟩ :=
      Gives.mapM (gives_answer t maxDepth) calls .fresh (Eq.refl ∅)
    refine ⟨steps, hresult, ?_, htour.orderly List.nodup_nil (Nat.zero_le _)⟩
    refine List.map_congr_left fun call _ => ?_
    obtain ⟨_, -, hanswer⟩ := gives_answer t maxDepth call .fresh rfl
    rw [hanswer]

end PrintCall
end HeaderRecovery.Debug
