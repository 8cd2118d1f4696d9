import HeaderRecovery.Proofs.Merging

/-!
Which declaration of a line a sighting is recognised as. Merges make a declaration recognise
nothing that it did not recognise before, and it goes on recognising what it has taken in; so the
first declaration to recognise a sighting stays the first. Functions need a condition for that:
among the sightings on one line, a name and a linker name fix the parameter types.
-/
namespace HeaderRecovery

/-- What tells functions apart that share a name. -/
def Function.parameterTypes (f : Function) : List Declarator := f.parameters.map (·.type)

namespace Declaration

lemma Proper.standsAlone {d : Declaration} (h : d.Proper) : d.kind.StandsAlone := by
  cases d with
  | typedef d => exact ⟨.typedef, rfl⟩
  | parameter d => exact h.elim
  | function d => exact ⟨.subprogram, by simp [kind, h.1, DeclarationKind.ofTag?]⟩
  | enumeration d => exact ⟨.enumerationType, rfl⟩
  | field d => exact ⟨.dataVariable, by simp [kind, h.1, DeclarationKind.ofTag?]⟩
  | nameImport d => exact ⟨.importedModule, rfl⟩
  | aggregate d =>
    cases hkind : d.kind with
    | classKind =>
      exact ⟨.classType, by simp [kind, hkind, DeclarationKind.ofTag?, AggregateKind.ofTag?]⟩
    | structKind =>
      exact ⟨.structureType, by simp [kind, hkind, DeclarationKind.ofTag?, AggregateKind.ofTag?]⟩
    | unionKind =>
      exact ⟨.unionType, by simp [kind, hkind, DeclarationKind.ofTag?, AggregateKind.ofTag?]⟩

lemma firstName_eq {a : String} (b : String) (h : a ≠ "") : firstName a b = a := if_neg h

lemma Proper.merge {a b : Declaration} (ha : a.Proper) (hkind : b.kind = a.kind) :
    (a.merge b).Proper := by
  rcases sameForm_or_merge_eq a b with hab | heq
  · cases hab with
    | typedef a b =>
      refine ⟨?_, by simp [Typedef.merge, ha.2]⟩
      obtain ⟨n, hn⟩ := List.exists_mem_of_ne_nil _ ha.1
      exact List.ne_nil_of_mem (Typedef.mem_addNames.mpr (Or.inl hn))
    | parameter a b => exact ha.elim
    | function a b =>
      have hmember : b.isMember = a.isMember := by simpa [kind] using hkind
      refine ⟨by simp [Function.merge, hmember, ha.1], ?_⟩
      simpa only [Function.merge, firstType_eq _ ha.2] using ha.2
    | enumeration a b =>
      simpa only [Declaration.merge, Proper, Enumeration.merge, firstName_eq _ ha] using ha
    | field a b =>
      obtain ⟨hvariable, hname, htype, hstatic⟩ := ha
      refine ⟨by simp [Field.merge, hvariable], ?_, ?_, ?_⟩
      · simpa only [Field.merge, firstName_eq _ hname] using hname
      · simpa only [Field.merge, firstType_eq _ htype] using htype
      · intro hexternal
        have hexternal' : (a.isExternal || b.isExternal) = true := hexternal
        simp [Field.merge, hexternal']
    | nameImport a b =>
      simpa only [Declaration.merge, Proper, NameImport.merge, firstName_eq _ ha] using ha
    | aggregate a b =>
      refine ⟨?_, SortedMap.ascending_foldl_insertNew ha.2 _⟩
      simpa only [Aggregate.merge, firstName_eq _ ha.1] using ha.1
  · rwa [heq]

/-- Everything but a function recognises the same sightings for ever. -/
lemma sameAs_merge {a b : Declaration} (ha : a.Proper)
    (hscopes : b.scopes = [] ∨ b.scopes = a.scopes) (hfunction : a.kind ≠ .function false)
    (d : Declaration) : (a.merge b).sameAs d = a.sameAs d := by
  have hmerged : (a.merge b).scopes = a.scopes := scopes_merge hscopes
  rcases sameForm_or_merge_eq a b with hab | heq
  · cases hab with
    | typedef a b =>
      cases d with
      | typedef d =>
        simp only [sameAs, hmerged]
        simp only [Declaration.merge, Typedef.sameAs, Typedef.merge, ha.2, if_false,
          Typedef.head?_addNames b.names ha.1]
      | _ =>
        simp only [sameAs, hmerged]
        simp only [Declaration.merge]
    | parameter a b => exact ha.elim
    | function a b => exact (hfunction (by simp [kind, ha.1])).elim
    | enumeration a b =>
      cases d <;> simp only [sameAs, hmerged] <;>
        simp only [Declaration.merge, Enumeration.merge, firstName_eq _ ha]
    | field a b =>
      cases d <;> simp only [sameAs, hmerged] <;>
        simp only [Declaration.merge, Field.merge, firstName_eq _ ha.2.1, ha.1, Bool.true_or]
    | nameImport a b =>
      have htarget : a.target ≠ "" := ha
      cases d <;> simp only [sameAs, hmerged] <;>
        simp only [Declaration.merge, NameImport.merge, firstName_eq _ htarget, if_neg htarget]
    | aggregate a b =>
      cases d <;> simp only [sameAs, hmerged] <;>
        simp only [Declaration.merge, Aggregate.merge, firstName_eq _ ha.1]
  · rw [heq]

lemma sameAs_function {f g : Function} :
    (function f).sameAs (function g) ↔ f.placement.scopes = g.placement.scopes ∧ f.name = g.name ∧
      ((∃ L, f.linkageName = some L ∧ g.linkageName = some L) ∨
        (f.linkageName = none ∨ g.linkageName = none) ∧ f.parameterTypes = g.parameterTypes) := by
  change (decide (f.placement.scopes = g.placement.scopes) && f.sameAs g) = true ↔ _
  simp only [Function.sameAs, Function.parameterTypes, Bool.and_eq_true, decide_eq_true_eq]
  refine and_congr_right fun _ => and_congr_right fun _ => ?_
  cases f.linkageName <;> cases g.linkageName <;> simp [eq_comm]

/-- A predicate on declarations that holds of the sightings on one line. -/
structure Distinct (P : Declaration → Prop) : Prop where
  proper : ∀ {d}, P d → d.Proper
  overload : ∀ {f g L}, P (function f) → P (function g) → f.name = g.name →
    f.linkageName = some L → g.linkageName = some L → f.parameterTypes = g.parameterTypes

/-- A stored declaration, made of sightings: what it has as a linker name, one of them had, and
with the same parameter types. -/
structure Grounded (P : Declaration → Prop) (a : Declaration) : Prop where
  proper : a.Proper
  linkage : ∀ {f L}, a = function f → f.linkageName = some L →
    ∃ g, P (function g) ∧ g.name = f.name ∧ g.linkageName = some L ∧
      g.parameterTypes = f.parameterTypes

/-- How a declaration may change: it recognises nothing new, and what it covers it goes on
covering and recognising. -/
structure Succeeds (P : Declaration → Prop) (a b : Declaration) : Prop where
  old : ∀ {d}, P d → b.sameAs d → a.sameAs d
  kept : ∀ {d}, P d → a.merge d = a → a.sameAs d → b.sameAs d
  covers : ∀ {x}, a.merge x = a → b.merge x = b

variable {P : Declaration → Prop} {a b c d : Declaration}

lemma Succeeds.refl (P : Declaration → Prop) (a : Declaration) : Succeeds P a a :=
  ⟨fun _ h => h, fun _ _ h => h, fun h => h⟩

lemma Succeeds.trans (h : Succeeds P a b) (h' : Succeeds P b c) : Succeeds P a c where
  old hd hc := h.old hd (h'.old hd hc)
  kept hd hcovers hsame := h'.kept hd (h.covers hcovers) (h.kept hd hcovers hsame)
  covers hx := h'.covers (h.covers hx)

/-- The declaration as it was seen first. -/
lemma Distinct.grounded (hP : Distinct P) (hd : P d) : Grounded P d where
  proper := hP.proper hd
  linkage {f _} heq hL := ⟨f, heq ▸ hd, rfl, hL, rfl⟩

lemma Distinct.sameAs_self (hP : Distinct P) (hd : P d) : d.sameAs d := by
  have hproper := hP.proper hd
  cases d with
  | typedef d =>
    simp only [sameAs, Typedef.sameAs, decide_true, Bool.true_and, Bool.and_self]
    cases d.inlined <;> simp
  | parameter d => exact hproper.elim
  | function f =>
    refine sameAs_function.mpr ⟨rfl, rfl, ?_⟩
    cases f.linkageName <;> simp
  | enumeration d =>
    have hname : d.name ≠ "" := hproper
    simp [sameAs, hname]
  | field d => simp [sameAs, hproper.2.1]
  | nameImport d => simp [sameAs]
  | aggregate d => simp [sameAs, hproper.1]

lemma kind_eq_of_sameAs (ha : a.Proper) (hb : b.Proper) (h : a.sameAs b) : b.kind = a.kind :=
  kind_of_sameAs h ha.standsAlone hb.standsAlone

section Functions
variable {f g : Function}

/-- Only functions are taken for functions. -/
lemma exists_functions (hkind : a.kind = .function false) (hsame : a.sameAs d) :
    ∃ f g, a = function f ∧ d = function g := by
  cases sameForm_of_sameAs hsame with
  | function f g => exact ⟨f, g, rfl, rfl⟩
  | field a b =>
    simp only [kind] at hkind
    split at hkind <;> cases hkind
  | _ => cases hkind

/-- A function and a sighting that it recognises have the same parameter types. -/
lemma Grounded.agree (hP : Distinct P) (hf : Grounded P (function f)) (hg : P (function g))
    (hsame : (function f).sameAs (function g)) : f.parameterTypes = g.parameterTypes := by
  obtain ⟨-, hname, ⟨L, hfL, hgL⟩ | ⟨-, htypes⟩⟩ := sameAs_function.mp hsame
  · obtain ⟨source, hsource, hsourceName, hsourceL, hsourceTypes⟩ := hf.linkage rfl hfL
    rw [← hsourceTypes]
    exact hP.overload hsource hg (hsourceName.trans hname) hsourceL hgL
  · exact htypes

lemma parameterTypes_merge (h : f.parameterTypes = g.parameterTypes) :
    (f.merge g).parameterTypes = f.parameterTypes := by
  unfold Function.parameterTypes at h ⊢
  by_cases hnil : f.parameters = []
  · simp only [Function.merge, hnil, if_true]
    rw [hnil] at h
    exact h.symm
  · simp only [Function.merge, hnil, if_false]

lemma name_merge (h : f.name = g.name) : (f.merge g).name = f.name := by
  simp only [Function.merge, firstName, h, ite_self]

/-- A sighting that a function recognises changes nothing that is compared but the linker name. -/
lemma sameAs_function_merge (hP : Distinct P) (hf : Grounded P (function f)) (hg : P (function g))
    (hsame : (function f).sameAs (function g)) {d : Function} :
    (function (f.merge g)).sameAs (function d) ↔
      f.placement.scopes = d.placement.scopes ∧ f.name = d.name ∧
        ((∃ L, f.linkageName.or g.linkageName = some L ∧ d.linkageName = some L) ∨
          (f.linkageName.or g.linkageName = none ∨ d.linkageName = none) ∧
            f.parameterTypes = d.parameterTypes) := by
  obtain ⟨hscopes, hname, -⟩ := sameAs_function.mp hsame
  have hmerged : (f.merge g).placement.scopes = f.placement.scopes :=
    scopes_merge (a := function f) (b := function g) (Or.inr hscopes.symm)
  rw [sameAs_function, hmerged, name_merge hname, parameterTypes_merge (hf.agree hP hg hsame)]
  exact Iff.rfl

/-- What a function recognises with a linker name that came with a sighting has the parameter
types of the sighting, so it was recognised before. -/
lemma sameAs_of_sameAs_merge (hP : Distinct P) (hf : Grounded P (function f))
    (hg : P (function g)) (hsame : (function f).sameAs (function g)) {d : Function}
    (hd : P (function d)) (hnew : (function (f.merge g)).sameAs (function d)) :
    (function f).sameAs (function d) := by
  obtain ⟨hscopes, hname, hlinkage⟩ := (sameAs_function_merge hP hf hg hsame).mp hnew
  refine sameAs_function.mpr ⟨hscopes, hname, ?_⟩
  rcases hlinkage with ⟨L, hL, hdL⟩ | ⟨hnone, htypes⟩
  · cases hfL : f.linkageName with
    | some M =>
      rw [hfL, Option.some_or] at hL
      exact Or.inl ⟨L, hL, hdL⟩
    | none =>
      rw [hfL, Option.none_or] at hL
      have hgname : g.name = d.name := (sameAs_function.mp hsame).2.1.symm.trans hname
      exact Or.inr ⟨Or.inl rfl, (hf.agree hP hg hsame).trans (hP.overload hg hd hgname hL hdL)⟩
  · exact Or.inr ⟨hnone.imp_left fun hor => (Option.or_eq_none_iff.mp hor).1, htypes⟩

/-- What a function covers has no linker name but that of the function, so another linker name
does not come between the two. -/
lemma sameAs_merge_of_covered (hP : Distinct P) (hf : Grounded P (function f))
    (hg : P (function g)) (hsame : (function f).sameAs (function g)) {d : Function}
    (hcovers : f.merge d = f) (hold : (function f).sameAs (function d)) :
    (function (f.merge g)).sameAs (function d) := by
  obtain ⟨hscopes, hname, hlinkage⟩ := sameAs_function.mp hold
  refine (sameAs_function_merge hP hf hg hsame).mpr ⟨hscopes, hname, ?_⟩
  rcases hlinkage with ⟨L, hL, hdL⟩ | ⟨hnone, htypes⟩
  · exact Or.inl ⟨L, by rw [hL, Option.some_or], hdL⟩
  · have hcovered : f.linkageName.or d.linkageName = f.linkageName :=
      congrArg Function.linkageName hcovers
    refine Or.inr ⟨Or.inr ?_, htypes⟩
    rcases hnone with hnone | hnone
    · rwa [hnone, Option.none_or] at hcovered
    · exact hnone

/-- A function that takes in a sighting it recognises. -/
lemma succeeds_function (hP : Distinct P) (hf : Grounded P (function f)) (hg : P (function g))
    (hsame : (function f).sameAs (function g)) :
    Succeeds P (function f) (function (f.merge g)) where
  old hd hnew := by
    cases sameForm_of_sameAs hnew with
    | function _ d => exact sameAs_of_sameAs_merge hP hf hg hsame hd hnew
  kept hd hcovers hold := by
    cases sameForm_of_sameAs hold with
    | function _ d =>
      exact sameAs_merge_of_covered hP hf hg hsame (function.inj hcovers) hold
  covers hx := fills.covers (function g) hf.proper hx

/-- The linker name of the two was seen with the parameter types that both have. -/
lemma grounded_function (hP : Distinct P) (hf : Grounded P (function f)) (hg : P (function g))
    (hsame : (function f).sameAs (function g)) : Grounded P (function (f.merge g)) where
  proper := hf.proper.merge (kind_eq_of_sameAs hf.proper (hP.proper hg) hsame)
  linkage {f' L} heq hL := by
    cases heq
    have hname : f.name = g.name := (sameAs_function.mp hsame).2.1
    have hagree := hf.agree hP hg hsame
    rw [name_merge hname, parameterTypes_merge hagree]
    have hor : f.linkageName.or g.linkageName = some L := hL
    cases hfL : f.linkageName with
    | some M =>
      rw [hfL, Option.some_or] at hor
      exact hf.linkage rfl (hfL.trans hor)
    | none =>
      rw [hfL, Option.none_or] at hor
      exact ⟨g, hg, hname.symm, hor, hagree.symm⟩

/-- A function that has taken in a sighting recognises it. -/
lemma sameAs_merged_function (hP : Distinct P) (hf : Grounded P (function f))
    (hg : P (function g)) (hsame : (function f).sameAs (function g)) :
    (function (f.merge g)).sameAs (function g) := by
  obtain ⟨hscopes, hname, hlinkage⟩ := sameAs_function.mp hsame
  refine (sameAs_function_merge hP hf hg hsame).mpr ⟨hscopes, hname, ?_⟩
  rcases hlinkage with ⟨L, hL, hgL⟩ | ⟨hnone, htypes⟩
  · exact Or.inl ⟨L, by rw [hL, Option.some_or], hgL⟩
  · cases hgL : g.linkageName with
    | none => exact Or.inr ⟨Or.inr rfl, htypes⟩
    | some L =>
      have hfL : f.linkageName = none := hnone.resolve_right (by simp [hgL])
      exact Or.inl ⟨L, by rw [hfL, Option.none_or], rfl⟩

end Functions

/-- A merge that leaves alone what is recognised. -/
lemma Grounded.merge_other (ha : Grounded P a) (hkind : b.kind = a.kind)
    (hscopes : b.scopes = [] ∨ b.scopes = a.scopes) (hfunction : a.kind ≠ .function false) :
    Grounded P (a.merge b) ∧ Succeeds P a (a.merge b) := by
  have hsame := sameAs_merge ha.proper hscopes hfunction
  refine ⟨⟨ha.proper.merge hkind, ?_⟩, ⟨fun _ h => ?_, fun _ _ h => ?_,
    fun hx => fills.covers b ha.proper hx⟩⟩
  · intro f L heq _
    have hmerged := kind_merge hkind
    rw [heq] at hmerged
    have hmember := (ha.proper.merge hkind).standsAlone.not_member.1
    rw [heq] at hmember
    cases hf : f.isMember with
    | true => exact (hmember (by simp [kind, hf])).elim
    | false => exact (hfunction (by rw [← hmerged]; simp [kind, hf])).elim
  · rwa [hsame] at h
  · rwa [hsame]

/-- A declaration that takes in a sighting it recognises. -/
lemma Grounded.merge_sighting (hP : Distinct P) (ha : Grounded P a) (hd : P d)
    (hsame : a.sameAs d) : Grounded P (a.merge d) ∧ Succeeds P a (a.merge d) := by
  by_cases hfunction : a.kind = .function false
  · obtain ⟨f, g, rfl, rfl⟩ := exists_functions hfunction hsame
    exact ⟨grounded_function hP ha hd hsame, succeeds_function hP ha hd hsame⟩
  · exact ha.merge_other (kind_eq_of_sameAs ha.proper (hP.proper hd) hsame)
      (Or.inr (scopes_of_sameAs hsame).symm) hfunction

/-- What has taken in a sighting recognises it. -/
lemma Grounded.sameAs_merge_self (hP : Distinct P) (ha : Grounded P a) (hd : P d)
    (hsame : a.sameAs d) : (a.merge d).sameAs d := by
  by_cases hfunction : a.kind = .function false
  · obtain ⟨f, g, rfl, rfl⟩ := exists_functions hfunction hsame
    exact sameAs_merged_function hP ha hd hsame
  · rwa [sameAs_merge ha.proper (Or.inr (scopes_of_sameAs hsame).symm) hfunction]

/-! Lines of declarations -/

/-- How a line may change: no declaration leaves its slot, and a full line stays as long as it
is. -/
structure Follows (P : Declaration → Prop) (cap : Nat) (group group' : List Declaration) :
    Prop where
  length : group.length ≤ group'.length
  full : cap ≤ group.length → group'.length = group.length
  slot : ∀ {i : Nat} {a : Declaration}, group[i]? = some a →
    ∃ b, group'[i]? = some b ∧ Succeeds P a b

/-- The first declaration to recognise `d` is at index `i` and covers it. -/
structure FoundAt (group : List Declaration) (d : Declaration) (i : Nat) : Prop where
  present : ∃ a, group[i]? = some a ∧ a.sameAs d ∧ a.merge d = a
  first : ∀ {j : Nat} {b : Declaration}, j < i → group[j]? = some b → ¬ b.sameAs d

/-- The line is full and none of its declarations recognises `d`. -/
structure Refused (cap : Nat) (group : List Declaration) (d : Declaration) : Prop where
  full : cap ≤ group.length
  unknown : ∀ {j : Nat} {b : Declaration}, group[j]? = some b → ¬ b.sameAs d

variable {cap i : Nat} {group group' group'' : List Declaration}

lemma Follows.refl (P : Declaration → Prop) (cap : Nat) (group : List Declaration) :
    Follows P cap group group := ⟨Nat.le_refl _, fun _ => rfl, fun h => ⟨_, h, .refl P _⟩⟩

lemma Follows.trans (h : Follows P cap group group') (h' : Follows P cap group' group'') :
    Follows P cap group group'' where
  length := Nat.le_trans h.length h'.length
  full hfull := (h'.full (Nat.le_trans hfull h.length)).trans (h.full hfull)
  slot ha := by
    obtain ⟨b, hb, hab⟩ := h.slot ha
    obtain ⟨c, hc, hbc⟩ := h'.slot hb
    exact ⟨c, hc, hab.trans hbc⟩

lemma Follows.modify {f : Declaration → Declaration}
    (hf : ∀ a, group[i]? = some a → Succeeds P a (f a)) :
    Follows P cap group (group.modify i f) where
  length := by simp
  full _ := by simp
  slot {j a} ha := by
    rw [List.getElem?_modify, ha]
    by_cases hij : i = j
    · subst hij
      exact ⟨f a, by simp, hf a ha⟩
    · exact ⟨a, by simp [hij], .refl P a⟩

lemma Follows.append (room : group.length < cap) (d : Declaration) :
    Follows P cap group (group ++ [d]) where
  length := by simp
  full hfull := absurd room (Nat.not_lt.mpr hfull)
  slot {j a} ha := by
    obtain ⟨hlt, -⟩ := List.getElem?_eq_some_iff.mp ha
    exact ⟨a, by rwa [List.getElem?_append_left hlt], .refl P a⟩

/-- The first declaration to recognise a sighting stays the first. -/
lemma FoundAt.follows (h : FoundAt group d i) (hd : P d) (hline : Follows P cap group group') :
    FoundAt group' d i where
  present := by
    obtain ⟨a, ha, hsame, hcovers⟩ := h.present
    obtain ⟨b, hb, hab⟩ := hline.slot ha
    exact ⟨b, hb, hab.kept hd hcovers hsame, hab.covers hcovers⟩
  first {j b} hj hb hsame := by
    obtain ⟨a, ha, -⟩ := h.present
    have hlt : j < group.length := Nat.lt_trans hj (List.getElem?_eq_some_iff.mp ha).1
    obtain ⟨b', hb', hsucceeds⟩ := hline.slot (List.getElem?_eq_getElem hlt)
    cases hb.symm.trans hb'
    exact h.first hj (List.getElem?_eq_getElem hlt) (hsucceeds.old hd hsame)

/-- What a full line refuses it goes on refusing. -/
lemma Refused.follows (h : Refused cap group d) (hd : P d) (hline : Follows P cap group group') :
    Refused cap group' d where
  full := Nat.le_trans h.full hline.length
  unknown {j b} hb hsame := by
    have hlt : j < group.length := by
      rw [← hline.full h.full]
      exact (List.getElem?_eq_some_iff.mp hb).1
    obtain ⟨b', hb', hsucceeds⟩ := hline.slot (List.getElem?_eq_getElem hlt)
    cases hb.symm.trans hb'
    exact h.unknown (List.getElem?_eq_getElem hlt) (hsucceeds.old hd hsame)

lemma FoundAt.findIdx? (h : FoundAt group d i) :
    group.findIdx? (fun present => present.sameAs d) = some i := by
  obtain ⟨a, ha, hsame, -⟩ := h.present
  obtain ⟨hlt, rfl⟩ := List.getElem?_eq_some_iff.mp ha
  refine List.findIdx?_eq_some_iff_getElem.mpr ⟨hlt, hsame, fun j hj => ?_⟩
  exact h.first hj (List.getElem?_eq_getElem (Nat.lt_trans hj hlt))

lemma Refused.findIdx? (h : Refused cap group d) :
    group.findIdx? (fun present => present.sameAs d) = none := by
  refine List.findIdx?_eq_none_iff.mpr fun b hb => ?_
  obtain ⟨j, hj⟩ := List.getElem?_of_mem hb
  simpa using h.unknown hj

lemma not_sameAs_of_findIdx? (h : group.findIdx? (fun present => present.sameAs d) = none) {j : Nat}
    (hb : group[j]? = some b) : ¬ b.sameAs d := by
  simpa using List.findIdx?_eq_none_iff.mp h b (List.mem_of_getElem? hb)

/-- A line in which the first declaration to recognise a sighting has taken it in. -/
lemma FoundAt.merged (hP : Distinct P) (hd : P d) (hline : ∀ a ∈ group, Grounded P a)
    (h : group.findIdx? (fun present => present.sameAs d) = some i) :
    FoundAt (group.modify i fun present => present.merge d) d i := by
  obtain ⟨hlt, hsame, hfirst⟩ := List.findIdx?_eq_some_iff_getElem.mp h
  have hgrounded := hline _ (List.getElem_mem hlt)
  refine ⟨⟨group[i].merge d, by simp [hlt], hgrounded.sameAs_merge_self hP hd hsame,
    fills.again d hgrounded.proper⟩, ?_⟩
  intro j b hj hb
  have hjlt := Nat.lt_trans hj hlt
  rw [List.getElem?_modify, List.getElem?_eq_getElem hjlt] at hb
  simp only [Nat.ne_of_gt hj, if_false, Option.map_eq_map, Option.map_some, Option.some.injEq] at hb
  rw [← hb]
  exact hfirst j hj

/-- A line to which an unknown sighting has been added. -/
lemma FoundAt.appended (hP : Distinct P) (hd : P d)
    (h : group.findIdx? (fun present => present.sameAs d) = none) :
    FoundAt (group ++ [d]) d group.length where
  present := ⟨d, by simp, hP.sameAs_self hd, fills.self (hP.proper hd)⟩
  first {j b} hj hb := by
    rw [List.getElem?_append_left hj] at hb
    exact not_sameAs_of_findIdx? h hb

end Declaration
end HeaderRecovery
