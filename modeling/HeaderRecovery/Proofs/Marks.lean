import HeaderRecovery.Proofs.Retention

/-!
What declarations are recognised by. The mark of a declaration is all that is compared when a
sighting is looked up on its line. Merges fill in marks, the first value of a property first; a
merge with what is recognised leaves a mark alone, or makes it that of the sighting, or gives a
nameless alias its first name.
-/
namespace HeaderRecovery
open Debug

/-- What is compared of a declaration, its namespaces apart. -/
inductive Mark where
  | typedef (name : Option String) (target : String) (inlined : Option EntryKey)
  | parameter (name : String)
  | function (name : String) (linkageName : Option String) (parameterTypes : List Declarator)
  | enumeration (name : String)
  | field (isVariable : Bool) (name : String)
  | nameImport (form : ImportForm) (target : String)
  | aggregate (kind : AggregateKind) (name : String)
  deriving DecidableEq

namespace Mark

/-- The mark of what takes in a declaration with the second mark. -/
def fill : Mark → Mark → Mark
  | typedef name target inlined, typedef name' target' inlined' =>
    typedef (name.or name') (if target = "" then target' else target)
      (if target = "" then inlined' else inlined)
  | parameter name, parameter name' => parameter (firstName name name')
  | function name linker types, function name' linker' types' =>
    function (firstName name name') (linker.or linker') (if types = [] then types' else types)
  | enumeration name, enumeration name' => enumeration (firstName name name')
  | field isVariable name, field isVariable' name' =>
    field (isVariable || isVariable') (firstName name name')
  | nameImport form target, nameImport form' target' =>
    nameImport (if target = "" then form' else form) (firstName target target')
  | aggregate kind name, aggregate _ name' => aggregate kind (firstName name name')
  | m, _ => m

/-- Whether declarations with these marks are the same if their namespaces are. -/
def same : Mark → Mark → Bool
  | typedef name target inlined, typedef name' target' inlined' =>
    match inlined, inlined' with
    | some k, some l => k = l
    | _, _ => name = name' && target = target'
  | function name linker types, function name' linker' types' =>
    name = name' &&
      match linker, linker' with
      | some x, some y => x = y
      | _, _ => types = types'
  | aggregate kind name, aggregate kind' name' => kind = kind' && name ≠ "" && name = name'
  | enumeration name, enumeration name' => name ≠ "" && name = name'
  | field isVariable name, field isVariable' name' =>
    isVariable = isVariable' && name ≠ "" && name = name'
  | nameImport form target, nameImport form' target' => form = form' && target = target'
  | parameter name, parameter name' => name = name'
  | _, _ => false

/-- Marks of one form. -/
inductive Alike : Mark → Mark → Prop
  | typedef {n n' t t' i i'} : Alike (typedef n t i) (typedef n' t' i')
  | parameter {n n'} : Alike (parameter n) (parameter n')
  | function {n n' l l' p p'} : Alike (function n l p) (function n' l' p')
  | enumeration {n n'} : Alike (enumeration n) (enumeration n')
  | field {v v' n n'} : Alike (field v n) (field v' n')
  | nameImport {f f' t t'} : Alike (nameImport f t) (nameImport f' t')
  | aggregate {k k' n n'} : Alike (aggregate k n) (aggregate k' n')

/-- The definition that an alias spells out has some text. -/
def Whole : Mark → Prop
  | typedef _ target inlined => inlined.isSome → target ≠ ""
  | _ => True

variable {m d e x y : Mark}

lemma same_typedef {n n' : Option String} {t t' : String} {i i' : Option EntryKey} :
    (typedef n t i).same (typedef n' t' i') ↔
      (∃ k, i = some k ∧ i' = some k) ∨ (i = none ∨ i' = none) ∧ n = n' ∧ t = t' := by
  cases i <;> cases i' <;> simp only [same] <;> grind

lemma same_function {n n' : String} {l l' : Option String} {p p' : List Declarator} :
    (function n l p).same (function n' l' p') ↔
      n = n' ∧ ((∃ L, l = some L ∧ l' = some L) ∨ (l = none ∨ l' = none) ∧ p = p') := by
  cases l <;> cases l' <;> simp only [same] <;> grind

lemma alike_of_same (h : m.same d) : m.Alike d := by
  cases m <;> cases d <;> first | constructor | cases h

lemma same_comm (m d : Mark) : m.same d ↔ d.same m := by
  have hcomm {m d : Mark} (h : m.same d) : d.same m := by
    cases alike_of_same h with
    | typedef =>
      rw [same_typedef] at h ⊢
      grind
    | function =>
      rw [same_function] at h ⊢
      grind
    | _ => grind [same]
  exact ⟨hcomm, hcomm⟩

lemma fill_self (m : Mark) : m.fill m = m := by
  cases m <;> simp [fill, firstName]

lemma fill_again (m d : Mark) : (m.fill d).fill d = m.fill d := by
  cases m <;> cases d <;> simp only [fill, firstName] <;> grind

/-- What adds nothing to a mark that has been taken in adds nothing. -/
lemma fill_of_fill (hmd : m.Alike d) (hde : d.Alike e) (h : m.fill d = m) (h' : d.fill e = d) :
    m.fill e = m := by
  cases hmd <;> cases hde <;> simp only [fill, firstName] at h h' ⊢ <;> grind

/-- A mark that takes in what it recognises stays as it is, or becomes that of a function which
is the same, or is that of an alias which gets its first name. -/
lemma fill_of_same (hm : m.Whole) (he : e.Whole) (hsame : m.same e) : m.fill e = m ∨
    (∃ n l p, m.fill e = e ∧ e = function n l p) ∨
    (∃ t i n, m = typedef none t (some i) ∧ m.fill e = typedef (some n) t (some i)) := by
  cases alike_of_same hsame with
  | @typedef n n' t t' i i' =>
    -- Without a target neither alias spells anything out.
    have htarget : t ≠ "" ∨ t = "" ∧ t' = "" ∧ i' = i := by
      by_cases ht : t = ""
      · have hi : i = none := Option.not_isSome_iff_eq_none.mp fun hi => hm hi ht
        rcases same_typedef.mp hsame with ⟨k, hk, -⟩ | ⟨-, -, rfl⟩
        · cases hi.symm.trans hk
        · have hi' : i' = none := Option.not_isSome_iff_eq_none.mp fun hi => he hi ht
          exact Or.inr ⟨ht, ht, hi'.trans hi.symm⟩
      · exact Or.inl ht
    have hfill : (typedef n t i).fill (typedef n' t' i') = typedef (n.or n') t i := by
      rcases htarget with ht | ⟨rfl, rfl, rfl⟩
      · rw [fill, if_neg ht, if_neg ht]
      · rfl
    rw [hfill]
    cases n with
    | some n => exact Or.inl rfl
    | none =>
      cases n' with
      | none => exact Or.inl rfl
      | some n' =>
        rcases same_typedef.mp hsame with ⟨k, rfl, -⟩ | ⟨-, hname, -⟩
        · exact Or.inr (Or.inr ⟨t, k, n', rfl, rfl⟩)
        · cases hname
  | function =>
    rw [same_function] at hsame
    simp only [fill, firstName]
    grind
  | _ =>
    left
    simp only [same, Bool.and_eq_true, decide_eq_true_eq] at hsame
    simp only [fill, firstName]
    grind

/-- What has been taken in stays taken in when something is that is recognised. -/
lemma fill_keeps (hm : m.Whole) (he : e.Whole) (hsame : m.same e) (h : m.fill d = m) :
    (m.fill e).fill d = m.fill e := by
  rcases fill_of_same hm he hsame with hfill | ⟨n, l, p, hfill, rfl⟩ | ⟨t, i, n, rfl, hfill⟩
  · rw [hfill, h]
  · cases alike_of_same hsame
    rw [hfill]
    cases d with
    | function =>
      simp only [fill, firstName, Mark.function.injEq] at h hfill ⊢
      have hlinker {a b c : Option String} (h : a.or c = a) (h' : a.or b = b) : b.or c = b := by
        cases a <;> cases b <;> simp_all
      refine ⟨?_, hlinker h.2.1 hfill.2.1, ?_⟩ <;> grind
    | _ => rfl
  · rw [hfill]
    cases d with
    | typedef =>
      simp only [fill, Mark.typedef.injEq] at h ⊢
      exact ⟨rfl, h.2⟩
    | _ => rfl

/-- A mark on a line is that of a sighting, or that of an alias which has got its first name. -/
def MadeOf (S : Mark → Prop) (m : Mark) : Prop := S m ∨ ∃ n t i, m = typedef (some n) t (some i)

variable {S T : Mark → Prop}

lemma MadeOf.mono (h : m.MadeOf S) (hST : ∀ m, S m → T m) : m.MadeOf T := h.imp_left (hST m)

lemma MadeOf.fill (h : m.MadeOf S) (hm : m.Whole) (he : e.Whole) (hsame : m.same e) (hS : S e) :
    (m.fill e).MadeOf S := by
  rcases fill_of_same hm he hsame with hfill | ⟨n, l, p, hfill, -⟩ | ⟨t, i, n, -, hfill⟩
  · rwa [hfill]
  · rw [hfill]
    exact Or.inl hS
  · exact Or.inr ⟨n, t, i, hfill⟩

/-- Where two marks become the same because one takes in what it recognises, both are those of
sightings. -/
lemma MadeOf.of_meet (h : m.MadeOf S) (hx : x.MadeOf T) (hm : m.Whole) (he : e.Whole)
    (hsame : m.same e) (hapart : ¬ m.same x) (hmeet : (m.fill e).same x) : S m ∧ T x := by
  rcases fill_of_same hm he hsame with hfill | ⟨n, l, p, hfill, rfl⟩ | ⟨t, i, n, rfl, hfill⟩
  · rw [hfill] at hmeet
    exact absurd hmeet hapart
  · rw [hfill] at hmeet
    refine ⟨h.resolve_right ?_, hx.resolve_right ?_⟩
    · rintro ⟨_, _, _, rfl⟩
      cases hsame
    · rintro ⟨_, _, _, rfl⟩
      cases hmeet
  · rw [hfill] at hmeet
    refine ⟨h.resolve_right ?_, hx.resolve_right ?_⟩
    · rintro ⟨_, _, _, heq⟩
      cases heq
    · -- Of aliases that both spell a definition out, only the definitions are compared.
      rintro ⟨_, _, _, rfl⟩
      exact hapart hmeet

end Mark

/-- The first name of an alias that takes in another one. -/
lemma Typedef.head?_names_merge (a b : Typedef) :
    (a.merge b).names.head? = a.names.head?.or b.names.head? := by
  have hmerged : (a.merge b).names = addNames a.names b.names := rfl
  rw [hmerged]
  cases hnames : a.names with
  | cons n rest => rw [head?_addNames _ (List.cons_ne_nil n rest), List.head?_cons, Option.some_or]
  | nil =>
    cases b.names with
    | nil => rfl
    | cons n rest =>
      have hfirst : addNames [] (n :: rest) = addNames [n] rest := rfl
      rw [hfirst, head?_addNames _ (List.cons_ne_nil n []), List.head?_nil, Option.none_or,
        List.head?_cons, List.head?_cons]

lemma Function.parameterTypes_merge_eq (a b : Function) : (a.merge b).parameterTypes =
    if a.parameterTypes = [] then b.parameterTypes else a.parameterTypes := by
  simp only [parameterTypes, merge, List.map_eq_nil_iff]
  split <;> rfl

namespace Declaration

/-- What is compared of a declaration. -/
def mark : Declaration → Mark
  | typedef d => .typedef d.names.head? d.target d.inlined
  | parameter d => .parameter d.name
  | function d => .function d.name d.linkageName d.parameterTypes
  | enumeration d => .enumeration d.name
  | field d => .field d.isVariable d.name
  | nameImport d => .nameImport d.form d.target
  | aggregate d => .aggregate d.kind d.name

variable {a b c d : Declaration}

lemma sameAs_iff {a b : Declaration} :
    a.sameAs b ↔ a.scopes = b.scopes ∧ a.mark.same b.mark := by
  have heq : a.sameAs b = (a.scopes = b.scopes && a.mark.same b.mark) := by
    cases a <;> cases b <;> rfl
  rw [heq, Bool.and_eq_true, decide_eq_true_eq]

lemma mark_merge (a b : Declaration) : (a.merge b).mark = a.mark.fill b.mark := by
  cases a with
  | typedef a =>
    cases b with
    | typedef b =>
      exact congrArg (fun name => Mark.typedef name _ _) (Typedef.head?_names_merge a b)
    | _ => rfl
  | function a =>
    cases b with
    | function b =>
      exact congrArg (Mark.function _ _) (Function.parameterTypes_merge_eq a b)
    | _ => rfl
  | _ => cases b <;> rfl

lemma mark_alike (h : a.kind = b.kind) : a.mark.Alike b.mark := by
  cases a <;> cases b <;> first | constructor | grind [kind]

lemma Whole.mark (h : d.Whole) : d.mark.Whole := by
  cases d with
  | typedef d => exact h
  | _ => trivial

lemma sameAs_comm (a b : Declaration) : a.sameAs b ↔ b.sameAs a := by
  rw [sameAs_iff, sameAs_iff, Mark.same_comm, eq_comm]

/-- All that is compared of a proper declaration is there from the start, a function's linker name
and parameters apart. -/
lemma Proper.mark_fill (h : d.Proper) (hkind : d.kind ≠ .function false) (m : Mark) :
    d.mark.fill m = d.mark := by
  cases d with
  | typedef d =>
    obtain ⟨n, rest, hnames⟩ := List.exists_cons_of_ne_nil h.1
    cases m <;> simp [mark, Mark.fill, hnames, h.2]
  | parameter d => exact h.elim
  | function d => exact absurd (congrArg DeclarationKind.function h.1) hkind
  | enumeration d =>
    have hname : d.name ≠ "" := h
    cases m <;> simp [mark, Mark.fill, firstName, hname]
  | field d => cases m <;> simp [mark, Mark.fill, firstName, h.1, h.2.1]
  | nameImport d =>
    have htarget : d.target ≠ "" := h
    cases m <;> simp [mark, Mark.fill, firstName, htarget]
  | aggregate d => cases m <;> simp [mark, Mark.fill, firstName, h.1]

@[simp] lemma mark_setScopes (scopes : List Scope) (d : Declaration) :
    (d.setScopes scopes).mark = d.mark := by
  cases d <;> rfl

/-- All that decides what recognises a declaration and what is read to be merged into it. -/
def face (d : Declaration) : DeclarationKind × List Scope × Mark := (d.kind, d.scopes, d.mark)

lemma sameAs_congr (ha : a.face = c.face) (hb : b.face = d.face) : a.sameAs b ↔ c.sameAs d := by
  simp only [face, Prod.mk.injEq] at ha hb
  rw [sameAs_iff, sameAs_iff, ha.2.1, ha.2.2, hb.2.1, hb.2.2]

end Declaration
end HeaderRecovery
