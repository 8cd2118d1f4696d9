import HeaderRecovery.Proofs.ArgumentLists

/-!
What leaving out default arguments does to a text. The scan goes from one container to the next;
a container ends it whose bracket is not closed on its line. Main statement: the result differs
from the text in containers only that stand side by side and lose arguments that are the defaults,
and the scan misses no such container before it ends.
-/
namespace HeaderRecovery.Cleanup

variable {before : Option Char} {text tail tail' inner rest out : List Char} {c : Char}
variable {container container' : Container} {kept : List String} {fuel fuel' : Nat}

/-! ### Where containers start -/

/-- A first bracket is in one place only. -/
lemma first_bracket {start start' : List Char} (h : '<' ∉ start) (h' : '<' ∉ start')
    (heq : start ++ '<' :: tail = start' ++ '<' :: tail') : start = start' ∧ tail = tail' := by
  rcases List.append_eq_append_iff.mp heq with ⟨more, rfl, hmore⟩ | ⟨more, rfl, hmore⟩
  · cases more with
    | nil => exact ⟨by simp, List.tail_eq_of_cons_eq hmore⟩
    | cons d more =>
      obtain ⟨rfl, -⟩ := List.cons.inj hmore
      simp at h'
  · cases more with
    | nil => exact ⟨by simp, (List.tail_eq_of_cons_eq hmore).symm⟩
    | cons d more =>
      obtain ⟨rfl, -⟩ := List.cons.inj hmore
      simp at h

namespace Container

/-- The name of a container with its namespace. -/
def stem (container : Container) : List Char := ("std::" ++ container.name).toList

lemma opening_eq (container : Container) : container.opening = container.stem ++ ['<'] := by
  rw [opening, stem, String.toList_append]
  rfl

lemma bracket_notMem_stem (container : Container) : '<' ∉ container.stem := by
  cases container <;> decide

lemma opening_ne_nil (container : Container) : container.opening ≠ [] := by
  simp [opening_eq]

lemma exists_stem_cons (container : Container) : ∃ c start, container.stem = c :: start ∧
    start <:+ container.stem ∧ start.length < container.stem.length := by
  have hne : container.stem ≠ [] := by cases container <;> decide
  obtain ⟨c, start, hstem⟩ := List.exists_cons_of_ne_nil hne
  refine ⟨c, start, hstem, ?_, ?_⟩
  · rw [hstem]
    exact List.suffix_cons c start
  · rw [hstem]
    exact Nat.lt_succ_self _

lemma stem_suffix : container.stem <:+ container'.stem → container = container' := by
  cases container <;> cases container' <;> decide

/-- No container starts inside of the name of another one. -/
lemma opening_of_suffix {start : List Char} (hstart : start <:+ container.stem)
    (heq : start ++ '<' :: tail = container'.opening ++ tail') :
    container' = container ∧ start = container.stem ∧ tail = tail' := by
  have hbracket : '<' ∉ start := fun hmem => container.bracket_notMem_stem (hstart.mem hmem)
  rw [opening_eq, List.append_assoc] at heq
  obtain ⟨rfl, rfl⟩ := first_bracket hbracket container'.bracket_notMem_stem heq
  obtain rfl := stem_suffix hstart
  exact ⟨rfl, rfl, rfl⟩

lemma opening_inj (heq : container.opening ++ tail = container'.opening ++ tail') :
    container = container' ∧ tail = tail' := by
  rw [opening_eq container, List.append_assoc] at heq
  obtain ⟨rfl, -, rfl⟩ := opening_of_suffix (List.suffix_refl _) heq
  exact ⟨rfl, rfl⟩

end Container

lemma Container.mem_all (container : Container) : container ∈ Container.all := by
  cases container <;> decide

lemma containerAt?_eq_some {length : Nat} (h : containerAt? text = some (container, length)) :
    length = container.opening.length ∧ ∃ tail, text = container.opening ++ tail := by
  obtain ⟨found, -, hfound⟩ := List.exists_of_findSome?_eq_some h
  simp only [Option.ite_none_right_eq_some, Option.some.injEq, Prod.mk.injEq] at hfound
  obtain ⟨hstart, rfl, rfl⟩ := hfound
  obtain ⟨tail, rfl⟩ := List.isPrefixOf_iff_prefix.mp hstart
  exact ⟨rfl, tail, rfl⟩

lemma containerAt?_opening (container : Container) (tail : List Char) :
    containerAt? (container.opening ++ tail) = some (container, container.opening.length) := by
  have hsome : (containerAt? (container.opening ++ tail)).isSome := by
    rw [containerAt?, List.isSome_findSome?, List.any_eq_true]
    refine ⟨container, container.mem_all, ?_⟩
    have hstart : container.opening.isPrefixOf (container.opening ++ tail) = true :=
      List.isPrefixOf_iff_prefix.mpr (List.prefix_append _ _)
    rw [Container.opening] at hstart ⊢
    simp only [hstart, if_true, Option.isSome_some]
  obtain ⟨⟨found, length⟩, hfound⟩ := Option.isSome_iff_exists.mp hsome
  obtain ⟨rfl, tail', heq⟩ := containerAt?_eq_some hfound
  obtain ⟨rfl, -⟩ := Container.opening_inj heq
  exact hfound

/-- The search for the bracket that closes the one of a container. -/
lemma matchingAngle?_opening (container : Container) (tail : List Char) :
    matchingAngle? (container.opening ++ tail) (container.opening.length - 1) =
      (closingAngle? 1 tail).map (container.opening.length + ·) := by
  have hlength : container.opening.length = container.stem.length + 1 := by
    rw [Container.opening_eq, List.length_append, List.length_singleton]
  have hdrop : (container.opening ++ tail).drop container.stem.length = '<' :: tail := by
    rw [Container.opening_eq, List.append_assoc, List.drop_left]
    rfl
  rw [matchingAngle?, hlength, Nat.add_sub_cancel, hdrop, closingAngle?, if_pos rfl,
    Option.map_map]
  refine congrArg (Option.map · (closingAngle? 1 tail)) (funext fun place => ?_)
  simp only [Function.comp_apply]
  omega

/-! ### Texts without default arguments -/

/-- A container stands at the start of a text, behind the character `before`. -/
def Opens (before : Option Char) (text : List Char) (container : Container) (tail : List Char) :
    Prop :=
  startsName before = true ∧ text = container.opening ++ tail

/-- At the start of a text there is no container that is left open on its line, and none with
default arguments. -/
def IsPlainAt (before : Option Char) (text : List Char) : Prop :=
  ∀ container tail, Opens before text container tail → ¬ IsUnclosed tail ∧
    ∀ inner rest kept, tail = inner ++ '>' :: rest → ¬ IsDefaulted container inner kept

/-- A text and the same text without default arguments. Containers that lose theirs stand side by
side, each other character is copied; from a container on that is left open on its line, everything
is. -/
inductive OmitsDefaults : Option Char → List Char → List Char → Prop
  | done {before : Option Char} : OmitsDefaults before [] []
  | omitted {before : Option Char} {container : Container} {text inner rest out : List Char}
      {kept : List String} (opens : Opens before text container (inner ++ '>' :: rest))
      (defaulted : IsDefaulted container inner kept)
      (behind : OmitsDefaults (some '>') rest out) :
      OmitsDefaults before text
        (container.opening ++ ((", ".intercalate kept).toList ++ '>' :: out))
  | unclosed {before : Option Char} {container : Container} {text tail : List Char}
      (opens : Opens before text container tail) (unclosed : IsUnclosed tail) :
      OmitsDefaults before text text
  | copied {before : Option Char} {c : Char} {rest out : List Char}
      (plain : IsPlainAt before (c :: rest)) (behind : OmitsDefaults (some c) rest out) :
      OmitsDefaults before (c :: rest) (c :: out)

lemma Opens.ne_nil (h : Opens before text container tail) : text ≠ [] := by
  rw [h.2]
  simp [container.opening_ne_nil]

/-- In the end of a container's name no other one starts. -/
lemma not_opens_stem_end {start : List Char} (hstart : start <:+ container.stem)
    (hlt : start.length < container.stem.length) :
    ¬ Opens before (start ++ '<' :: tail) container' tail' := by
  rintro ⟨-, heq⟩
  obtain ⟨-, rfl, -⟩ := Container.opening_of_suffix hstart heq
  exact Nat.lt_irrefl _ hlt

lemma Opens.unique (h : Opens before text container tail)
    (h' : Opens before text container' tail') : container = container' ∧ tail = tail' :=
  Container.opening_inj (h.2.symm.trans h'.2)

namespace OmitsDefaults

variable {out' : List Char}

/-- There is one result at most. -/
lemma unique (h : OmitsDefaults before text out) (h' : OmitsDefaults before text out') :
    out = out' := by
  -- Whatever rule comes first, the conditions of the others are against its own.
  induction h generalizing out' with
  | done =>
    cases h' with
    | done => rfl
    | omitted opens => exact absurd rfl opens.ne_nil
    | unclosed => rfl
  | omitted opens defaulted _ ih =>
    cases h' with
    | done => exact absurd rfl opens.ne_nil
    | omitted opens' defaulted' behind' =>
      obtain ⟨rfl, htail⟩ := opens.unique opens'
      obtain ⟨rfl, rfl⟩ := defaulted.enclosed.unique defaulted'.enclosed htail
      rw [defaulted.unique defaulted', ih behind']
    | unclosed opens' unclosed =>
      obtain ⟨rfl, rfl⟩ := opens.unique opens'
      exact absurd defaulted.enclosed (unclosed _ _ rfl)
    | copied plain _ => exact absurd defaulted ((plain _ _ opens).2 _ _ _ rfl)
  | unclosed opens unclosed =>
    cases h' with
    | done => rfl
    | omitted opens' defaulted _ =>
      obtain ⟨rfl, rfl⟩ := opens.unique opens'
      exact absurd defaulted.enclosed (unclosed _ _ rfl)
    | unclosed => rfl
    | copied plain _ => exact absurd unclosed (plain _ _ opens).1
  | copied plain _ ih =>
    cases h' with
    | omitted opens' defaulted _ => exact absurd defaulted ((plain _ _ opens').2 _ _ _ rfl)
    | unclosed opens' unclosed => exact absurd unclosed (plain _ _ opens').1
    | copied _ behind' => rw [ih behind']

/-- Of what stands before a text it only matters whether a name may start there. -/
lemma congr {before' : Option Char} (hstarts : startsName before = startsName before')
    (h : OmitsDefaults before text out) : OmitsDefaults before' text out := by
  have hopens : ∀ {text container tail}, Opens before text container tail ↔
      Opens before' text container tail := by
    intro text container tail
    rw [Opens, Opens, hstarts]
  cases h with
  | done => exact .done
  | omitted opens defaulted behind => exact .omitted (hopens.mp opens) defaulted behind
  | unclosed opens unclosed => exact .unclosed (hopens.mp opens) unclosed
  | copied plain behind =>
    exact .copied (fun container tail opens => plain container tail (hopens.mpr opens)) behind

/-- A text without default arguments is the same text or a shorter one. -/
lemma eq_or_lt (h : OmitsDefaults before text out) : out = text ∨ out.length < text.length := by
  induction h with
  | done => exact Or.inl rfl
  | @omitted before container text inner rest out kept opens defaulted _ ih =>
    have hinner := defaulted.length_lt
    have hrest : out.length ≤ rest.length := by
      rcases ih with rfl | hlt
      · exact Nat.le_refl _
      · exact Nat.le_of_lt hlt
    refine Or.inr ?_
    rw [opens.2]
    simp only [List.length_append, List.length_cons]
    omega
  | unclosed => exact Or.inl rfl
  | copied _ _ ih =>
    rcases ih with rfl | hlt
    · exact Or.inl rfl
    · exact Or.inr (Nat.succ_lt_succ hlt)

/-- The end of a container's name is copied. -/
lemma stem_end {start : List Char} (hstart : start <:+ container.stem)
    (hlt : start.length < container.stem.length) (behind : OmitsDefaults (some '<') tail out) :
    OmitsDefaults before (start ++ '<' :: tail) (start ++ '<' :: out) := by
  have hplain : IsPlainAt before (start ++ '<' :: tail) := fun container' tail' opens =>
    absurd opens (not_opens_stem_end hstart hlt)
  induction start generalizing before with
  | nil => exact .copied hplain behind
  | cons c start ih =>
    have hrest : start <:+ container.stem := (List.suffix_cons c start).trans hstart
    have hltRest : start.length < container.stem.length := Nat.lt_of_succ_lt hlt
    exact .copied hplain (ih hrest hltRest fun container' tail' opens =>
      absurd opens (not_opens_stem_end hrest hltRest))

/-- The name of a container is copied together with its bracket. -/
lemma opening (plain : IsPlainAt before (container.opening ++ tail))
    (behind : OmitsDefaults (some '<') tail out) :
    OmitsDefaults before (container.opening ++ tail) (container.opening ++ out) := by
  obtain ⟨c, start, hstem, hstart, hlt⟩ := container.exists_stem_cons
  rw [Container.opening_eq, hstem, List.append_assoc] at plain ⊢
  rw [List.append_assoc]
  exact .copied plain (stem_end hstart hlt behind)

end OmitsDefaults

/-! ### The scan step by step -/

/-- What one step of the scan depends on. -/
lemma place_cases (before : Option Char) (text : List Char) :
    (∃ container inner rest kept, Opens before text container (inner ++ '>' :: rest) ∧
        IsDefaulted container inner kept) ∨
      (∃ container tail, Opens before text container tail ∧ IsUnclosed tail) ∨
      IsPlainAt before text := by
  by_cases hdefaulted : ∃ container inner rest kept,
      Opens before text container (inner ++ '>' :: rest) ∧ IsDefaulted container inner kept
  · exact Or.inl hdefaulted
  by_cases hunclosed : ∃ container tail, Opens before text container tail ∧ IsUnclosed tail
  · exact Or.inr (Or.inl hunclosed)
  · refine Or.inr (Or.inr fun container tail hopens => ⟨fun h => ?_, ?_⟩)
    · exact hunclosed ⟨container, tail, hopens, h⟩
    · rintro inner rest kept rfl h
      exact hdefaulted ⟨container, inner, rest, kept, hopens, h⟩

/-- The container that the scan finds at a place. -/
def found? (before : Option Char) (text : List Char) : Option (Container × Nat) :=
  if startsName before then containerAt? text else none

lemma found?_of_opens (h : Opens before text container tail) :
    found? before text = some (container, container.opening.length) := by
  obtain ⟨hstarts, rfl⟩ := h
  rw [found?, if_pos hstarts, containerAt?_opening]

lemma opens_of_found? {length : Nat} (h : found? before text = some (container, length)) :
    ∃ tail, Opens before text container tail := by
  rw [found?, Option.ite_none_right_eq_some] at h
  obtain ⟨-, tail, htext⟩ := containerAt?_eq_some h.2
  exact ⟨tail, h.1, htext⟩

lemma stripFrom_cons (fuel : Nat) (before : Option Char) (c : Char) (rest : List Char) :
    stripFrom (fuel + 1) before (c :: rest) =
      match found? before (c :: rest) with
      | none => c :: stripFrom fuel (some c) rest
      | some (container, length) =>
        match matchingAngle? (c :: rest) (length - 1) with
        | none => c :: rest
        | some close =>
          match shortened? container
              ((splitArguments (((c :: rest).take close).drop length)).map String.ofList) with
          | some kept =>
            (c :: rest).take length ++ (", ".intercalate kept).toList ++
              '>' :: stripFrom fuel (some '>') ((c :: rest).drop (close + 1))
          | none =>
            (c :: rest).take length ++ stripFrom fuel (some '<') ((c :: rest).drop length) := rfl

/-- Where no container starts, a character is copied. -/
lemma stripFrom_other (h : ∀ container tail, ¬ Opens before (c :: rest) container tail) :
    stripFrom (fuel + 1) before (c :: rest) = c :: stripFrom fuel (some c) rest := by
  have hfound : found? before (c :: rest) = none := by
    cases hfound : found? before (c :: rest) with
    | none => rfl
    | some found =>
      obtain ⟨tail, hopens⟩ := opens_of_found? hfound
      exact absurd hopens (h found.1 tail)
  rw [stripFrom_cons, hfound]

/-- At an open container the scan ends. -/
lemma stripFrom_unclosed (h : Opens before text container tail) (hunclosed : IsUnclosed tail) :
    stripFrom fuel before text = text := by
  cases fuel with
  | zero => rfl
  | succ fuel =>
    cases text with
    | nil => rfl
    | cons c rest =>
      rw [stripFrom_cons, found?_of_opens h]
      simp only [h.2, matchingAngle?_opening, closingAngle?_eq_none_iff.mpr hunclosed,
        Option.map_none]

/-- At a container that is closed on its line, the arguments decide. -/
lemma stripFrom_closed (h : Opens before text container (inner ++ '>' :: rest))
    (hinner : Encloses 0 inner) :
    stripFrom (fuel + 1) before text =
      match shortened? container ((splitArguments inner).map String.ofList) with
      | some kept =>
        container.opening ++
          ((", ".intercalate kept).toList ++ '>' :: stripFrom fuel (some '>') rest)
      | none => container.opening ++ stripFrom fuel (some '<') (inner ++ '>' :: rest) := by
  obtain ⟨c, text, rfl⟩ := List.exists_cons_of_ne_nil h.ne_nil
  have hinside : ((container.opening ++ (inner ++ '>' :: rest)).take
      (container.opening.length + inner.length)).drop container.opening.length = inner := by
    rw [List.drop_take]
    simp
  have hbehind : (container.opening ++ (inner ++ '>' :: rest)).drop
      (container.opening.length + inner.length + 1) = rest := by
    rw [Nat.add_assoc, ← List.drop_drop, List.drop_left]
    simp
  rw [stripFrom_cons, found?_of_opens h]
  simp only [h.2, matchingAngle?_opening, closingAngle?_append hinner, Option.map_some, hinside,
    hbehind, List.take_left, List.drop_left, List.append_assoc]

/-- The scan leaves default arguments out. -/
lemma omitsDefaults_stripFrom (h : text.length ≤ fuel) :
    OmitsDefaults before text (stripFrom fuel before text) := by
  induction fuel generalizing before text with
  | zero =>
    obtain rfl := List.length_eq_zero_iff.mp (Nat.le_zero.mp h)
    exact .done
  | succ fuel ih =>
    cases text with
    | nil => exact .done
    | cons c rest =>
      rcases place_cases before (c :: rest) with
        ⟨container, inner, behind, kept, hopens, hdefaulted⟩ | ⟨container, tail, hopens, hunclosed⟩ |
          hplain
      · have hlength := congrArg List.length hopens.2
        simp only [List.length_append, List.length_cons] at hlength h
        rw [stripFrom_closed hopens hdefaulted.enclosed,
          (shortened?_iff hdefaulted.enclosed).mpr hdefaulted]
        exact .omitted hopens hdefaulted (ih (by omega))
      · rw [stripFrom_unclosed hopens hunclosed]
        exact .unclosed hopens hunclosed
      -- The scan copies an opening at once where the rules copy its characters one by one.
      by_cases hcontainer : ∃ container tail, Opens before (c :: rest) container tail
      · obtain ⟨container, tail, hopens⟩ := hcontainer
        obtain ⟨hclosed, hother⟩ := hplain container tail hopens
        obtain ⟨inner, behind, rfl, hinner⟩ := enclosed_of_closed hclosed
        have hkept : shortened? container ((splitArguments inner).map String.ofList) = none := by
          cases hkept : shortened? container ((splitArguments inner).map String.ofList) with
          | none => rfl
          | some kept => exact absurd ((shortened?_iff hinner).mp hkept) (hother _ _ kept rfl)
        have hlength := congrArg List.length hopens.2
        have hopening := List.length_pos_iff.mpr container.opening_ne_nil
        rw [List.length_append] at hlength
        rw [stripFrom_closed hopens hinner, hkept]
        rw [hopens.2] at hplain ⊢
        exact .opening hplain (ih (by omega))
      · rw [stripFrom_other fun container tail hopens => hcontainer ⟨container, tail, hopens⟩]
        exact .copied hplain (ih (Nat.le_of_succ_le_succ h))

/-- Leaving out default arguments gives the one text that omits them. -/
lemma omitsDefaults_iff {text out : String} :
    OmitsDefaults none text.toList out.toList ↔ stripDefaultArguments text = out := by
  have hscan : OmitsDefaults none text.toList (stripDefaultArguments text).toList := by
    rw [stripDefaultArguments, String.toList_ofList]
    exact omitsDefaults_stripFrom (Nat.le_of_eq String.length_toList)
  constructor
  · intro h
    exact String.toList_inj.mp (hscan.unique h)
  · rintro rfl
    exact hscan

/-! ### What the result has in common with the text -/

/-- A stretch of a text: a character that stays as it is, or a container that keeps some of the
arguments which its bracket encloses. -/
inductive Stretch where
  | copied (c : Char)
  | shortened (container : Container) (inner : List Char) (kept : List String)

namespace Stretch

/-- How a stretch reads in the text. -/
def source : Stretch → List Char
  | copied c => [c]
  | shortened container inner _ => container.opening ++ inner ++ ['>']

/-- How a stretch reads in the result. -/
def result : Stretch → List Char
  | copied c => [c]
  | shortened container _ kept => container.opening ++ (", ".intercalate kept).toList ++ ['>']

end Stretch

lemma OmitsDefaults.stretches (h : OmitsDefaults before text out) :
    ∃ stretches : List Stretch, text = stretches.flatMap Stretch.source ∧
      out = stretches.flatMap Stretch.result ∧
      ∀ container inner kept, .shortened container inner kept ∈ stretches →
        IsDefaulted container inner kept := by
  induction h with
  | done => exact ⟨[], rfl, rfl, by simp⟩
  | @omitted before container text inner rest out kept opens defaulted _ ih =>
    obtain ⟨stretches, rfl, rfl, hstretches⟩ := ih
    refine ⟨.shortened container inner kept :: stretches, ?_, ?_, ?_⟩
    · simp [opens.2, Stretch.source]
    · simp [Stretch.result]
    · intro container' inner' kept' hmem
      rcases List.mem_cons.mp hmem with heq | hmem
      · cases heq
        exact defaulted
      · exact hstretches container' inner' kept' hmem
  | @unclosed before container text tail _ _ =>
    -- Behind an opening that nothing closes all is copied.
    refine ⟨text.map .copied, ?_, ?_, by simp⟩
    · simp [List.flatMap_map, Stretch.source]
    · simp [List.flatMap_map, Stretch.result]
  | @copied before c rest out _ _ ih =>
    obtain ⟨stretches, rfl, rfl, hstretches⟩ := ih
    refine ⟨.copied c :: stretches, rfl, rfl, ?_⟩
    intro container inner kept hmem
    exact hstretches container inner kept (by simpa using hmem)

/-- Leaving out default arguments changes a text in nothing but containers of the library that
stand side by side. The bracket of each is closed on its line. What stays of its arguments are the
required ones, trimmed and joined anew; what goes is, up to blanks, one of the lists of defaults
for them, and there is nothing else. No such container is missed before the scan ends. -/
theorem omissions_sound (text : String) :
    (∃ stretches : List Stretch, text.toList = stretches.flatMap Stretch.source ∧
      (stripDefaultArguments text).toList = stretches.flatMap Stretch.result ∧
      ∀ container inner kept, .shortened container inner kept ∈ stretches →
        IsDefaulted container inner kept ∧ kept.length = container.required ∧
          ∃ defaults ∈ container.defaults kept,
            solid inner = dense (", ".intercalate (kept ++ defaults))) ∧
      ∀ out : String, OmitsDefaults none text.toList out.toList ↔
        stripDefaultArguments text = out := by
  refine ⟨?_, fun out => omitsDefaults_iff⟩
  obtain ⟨stretches, hsource, hresult, hstretches⟩ := (omitsDefaults_iff.mpr rfl).stretches
  refine ⟨stretches, hsource, hresult, fun container inner kept hmem => ?_⟩
  have hdefaulted := hstretches container inner kept hmem
  exact ⟨hdefaulted, hdefaulted.length_kept, hdefaulted.spelled⟩

/-- Only the second of three containers has default arguments. -/
example : stripDefaultArguments
    "std::set<a, Order, std::allocator<a>> x; std::list<b*,std::allocator<b *> > y; std::map<c" =
    "std::set<a, Order, std::allocator<a>> x; std::list<b*> y; std::map<c" := by
  decide +kernel

end HeaderRecovery.Cleanup
