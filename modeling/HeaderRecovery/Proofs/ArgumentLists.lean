import Mathlib
import HeaderRecovery.Cleanup.DefaultArguments

/-!
Argument lists of templates. Brackets are said to enclose a text by counting, and the arguments of
a text are what stands between the commas that no bracket encloses. Main statements: the search
for a closing bracket finds what is enclosed, arguments are cut exactly there, and a container is
shortened exactly if what follows its required arguments is one of the lists of defaults.
-/
namespace HeaderRecovery.Cleanup

variable {depth : Nat} {inner rest : List Char} {c : Char}

/-! ### What angle brackets enclose -/

/-- Characters that end the search for a closing bracket. -/
def lineEnds : List Char := ['\n', ';', '\x7b', '\x7d']

/-- A text between an opening angle bracket and the one that closes it, where `depth` further
brackets have been opened before the text and are closed in it. -/
structure Encloses (depth : Nat) (inner : List Char) : Prop where
  sameLine : ∀ c ∈ inner, c ∉ lineEnds
  balanced : inner.count '>' = inner.count '<' + depth
  inside : ∀ start, start <+: inner → start.count '>' ≤ start.count '<' + depth

namespace Encloses

lemma nil : Encloses 0 [] :=
  ⟨by simp, rfl, fun start h => by rw [List.prefix_nil.mp h]; exact Nat.le_refl 0⟩

/-- A first character that opens or closes a bracket changes how many are to be closed behind it. -/
lemma cons_iff {behind : Nat} (hc : c ∉ lineEnds)
    (hdepth : [c].count '<' + depth = [c].count '>' + behind) :
    Encloses depth (c :: inner) ↔ Encloses behind inner := by
  have hcount : ∀ (bracket : Char) (cs : List Char),
      (c :: cs).count bracket = [c].count bracket + cs.count bracket :=
    fun bracket cs => by rw [← List.singleton_append, List.count_append]
  constructor
  · rintro ⟨hline, hbalanced, hinside⟩
    refine ⟨fun d hd => hline d (List.mem_cons_of_mem c hd), ?_, fun start hstart => ?_⟩
    · have hopen := hcount '<' inner
      have hclose := hcount '>' inner
      omega
    · have h := hinside (c :: start) (List.cons_prefix_cons.mpr ⟨rfl, hstart⟩)
      have hopen := hcount '<' start
      have hclose := hcount '>' start
      omega
  · rintro ⟨hline, hbalanced, hinside⟩
    refine ⟨List.forall_mem_cons.mpr ⟨hc, hline⟩, ?_, fun start hstart => ?_⟩
    · have hopen := hcount '<' inner
      have hclose := hcount '>' inner
      omega
    · rcases List.prefix_cons_iff.mp hstart with rfl | ⟨more, rfl, hmore⟩
      · exact Nat.zero_le _
      · have h := hinside more hmore
        have hopen := hcount '<' more
        have hclose := hcount '>' more
        omega

lemma cons_open_iff : Encloses depth ('<' :: inner) ↔ Encloses (depth + 1) inner :=
  cons_iff (by decide) (Nat.add_comm 1 depth |>.trans (Nat.zero_add _).symm)

lemma cons_close_iff : Encloses (depth + 1) ('>' :: inner) ↔ Encloses depth inner :=
  cons_iff (by decide) ((Nat.zero_add _).trans (Nat.add_comm depth 1))

lemma not_cons_close : ¬ Encloses 0 ('>' :: inner) := by
  rintro ⟨-, -, hinside⟩
  have h := hinside ['>'] (List.cons_prefix_cons.mpr ⟨rfl, List.nil_prefix⟩)
  simp at h

lemma cons_other_iff (hopen : c ≠ '<') (hclose : c ≠ '>') (hline : c ∉ lineEnds) :
    Encloses depth (c :: inner) ↔ Encloses depth inner := by
  refine cons_iff hline ?_
  simp [hopen, hclose]

lemma newline_notMem (h : Encloses depth inner) : '\n' ∉ inner :=
  fun hmem => h.sameLine '\n' hmem (by decide)

/-- Behind a start of an enclosed text, what is left closes the brackets that are open there. -/
lemma of_append {start : List Char} (h : Encloses depth (start ++ inner)) :
    Encloses (depth + start.count '<' - start.count '>') inner := by
  have hstart := h.inside start (List.prefix_append start inner)
  refine ⟨fun c hc => h.sameLine c (List.mem_append_right start hc), ?_, fun more hmore => ?_⟩
  · have hbalanced := h.balanced
    simp only [List.count_append] at hbalanced
    omega
  · have hinside := h.inside (start ++ more) ((List.prefix_append_right_inj start).mpr hmore)
    simp only [List.count_append] at hinside
    omega

end Encloses

/-- The search ends at the bracket behind what is enclosed. -/
lemma closingAngle?_append (h : Encloses depth inner) (rest : List Char) :
    closingAngle? (depth + 1) (inner ++ '>' :: rest) = some inner.length := by
  induction inner generalizing depth with
  | nil =>
    have hdepth : depth = 0 := by simpa using h.balanced.symm
    rw [hdepth]
    rfl
  | cons c inner ih =>
    have hline : c ∉ lineEnds := h.sameLine c List.mem_cons_self
    by_cases hopen : c = '<'
    · subst hopen
      have hrest := ih (Encloses.cons_open_iff.mp h)
      simp [closingAngle?, hrest]
    by_cases hclose : c = '>'
    · subst hclose
      cases depth with
      | zero => exact absurd h Encloses.not_cons_close
      | succ depth =>
        have hrest := ih (Encloses.cons_close_iff.mp h)
        simp [closingAngle?, hrest]
    · have hrest := ih ((Encloses.cons_other_iff hopen hclose hline).mp h)
      simp [lineEnds] at hline
      simp [closingAngle?, hopen, hclose, hline, hrest]

/-- What stands before the end of the search is enclosed. -/
lemma encloses_of_closingAngle? {cs : List Char} {place : Nat}
    (h : closingAngle? (depth + 1) cs = some place) :
    ∃ inner rest, cs = inner ++ '>' :: rest ∧ place = inner.length ∧ Encloses depth inner := by
  induction cs generalizing depth place with
  | nil => cases h
  | cons c cs ih =>
    rw [closingAngle?] at h
    by_cases hopen : c = '<'
    · subst hopen
      obtain ⟨place, hplace, rfl⟩ := Option.map_eq_some_iff.mp h
      obtain ⟨inner, rest, rfl, rfl, hinner⟩ := ih hplace
      exact ⟨'<' :: inner, rest, rfl, rfl, Encloses.cons_open_iff.mpr hinner⟩
    rw [if_neg hopen] at h
    by_cases hclose : c = '>'
    · subst hclose
      cases depth with
      | zero =>
        obtain rfl : 0 = place := by simpa using h
        exact ⟨[], cs, rfl, rfl, .nil⟩
      | succ depth =>
        obtain ⟨place, hplace, rfl⟩ := Option.map_eq_some_iff.mp (by simpa using h)
        obtain ⟨inner, rest, rfl, rfl, hinner⟩ := ih hplace
        exact ⟨'>' :: inner, rest, rfl, rfl, Encloses.cons_close_iff.mpr hinner⟩
    rw [if_neg hclose] at h
    by_cases hline : c ∈ lineEnds
    · rw [if_pos (by simpa [lineEnds] using hline)] at h
      cases h
    · rw [if_neg (by simpa [lineEnds] using hline)] at h
      obtain ⟨place, hplace, rfl⟩ := Option.map_eq_some_iff.mp h
      obtain ⟨inner, rest, rfl, rfl, hinner⟩ := ih hplace
      exact ⟨c :: inner, rest, rfl, rfl, (Encloses.cons_other_iff hopen hclose hline).mpr hinner⟩

/-- A text behind an opening bracket that nothing closes on its line. -/
def IsUnclosed (tail : List Char) : Prop :=
  ∀ inner rest, tail = inner ++ '>' :: rest → ¬ Encloses 0 inner

/-- The search from an opening bracket finds nothing exactly if the bracket is not closed. -/
lemma closingAngle?_eq_none_iff {tail : List Char} :
    closingAngle? 1 tail = none ↔ IsUnclosed tail := by
  constructor
  · rintro hnone inner rest rfl h
    rw [closingAngle?_append h rest] at hnone
    cases hnone
  · intro h
    cases hplace : closingAngle? 1 tail with
    | none => rfl
    | some place =>
      obtain ⟨inner, rest, htail, -, hinner⟩ := encloses_of_closingAngle? hplace
      exact absurd hinner (h inner rest htail)

lemma enclosed_of_closed {tail : List Char} (h : ¬ IsUnclosed tail) :
    ∃ inner rest, tail = inner ++ '>' :: rest ∧ Encloses 0 inner := by
  simpa [IsUnclosed] using h

/-- What a bracket encloses is where its search ends, so it is enclosed in one way only. -/
lemma Encloses.unique {inner' rest' : List Char} (h : Encloses 0 inner) (h' : Encloses 0 inner')
    (heq : inner ++ '>' :: rest = inner' ++ '>' :: rest') : inner = inner' ∧ rest = rest' := by
  have hplace : some inner.length = some inner'.length := by
    rw [← closingAngle?_append h rest, heq, closingAngle?_append h' rest']
  obtain ⟨hinner, hrest⟩ := List.append_inj heq (Option.some.inj hplace)
  exact ⟨hinner, List.tail_eq_of_cons_eq hrest⟩

/-- With one open bracket less the search ends no later. -/
lemma isSome_closingAngle?_pred {cs : List Char} (h : (closingAngle? (depth + 2) cs).isSome) :
    (closingAngle? (depth + 1) cs).isSome := by
  induction cs generalizing depth with
  | nil => cases h
  | cons c cs ih =>
    rw [closingAngle?] at h ⊢
    by_cases hopen : c = '<'
    · simp only [if_pos hopen, Option.isSome_map] at h ⊢
      exact ih h
    rw [if_neg hopen] at h ⊢
    by_cases hclose : c = '>'
    · cases depth with
      | zero => simp [hclose]
      | succ depth =>
        simp only [if_pos hclose] at h ⊢
        rw [if_neg (by omega), Option.isSome_map] at h ⊢
        exact ih h
    rw [if_neg hclose] at h ⊢
    split_ifs at h ⊢
    · cases h
    · rw [Option.isSome_map] at h ⊢
      exact ih h

/-- A bracket inside of others is closed where they are all closed. -/
lemma closed_of_deeper (h : Encloses depth inner) : ¬ IsUnclosed (inner ++ '>' :: rest) := by
  have hsome : (closingAngle? (depth + 1) (inner ++ '>' :: rest)).isSome := by
    rw [closingAngle?_append h rest]
    rfl
  clear h
  rw [← closingAngle?_eq_none_iff]
  induction depth with
  | zero => exact Option.isSome_iff_ne_none.mp hsome
  | succ depth ih => exact ih (isSome_closingAngle?_pred hsome)

/-! ### Arguments -/

variable {pieces : List (List Char)} {piece : List Char}

/-- How many more brackets a text opens than it closes. -/
def nesting (cs : List Char) : Int := (cs.map depthChange).sum

/-- No comma of a text stands outside of brackets, where the depth at its start is given. -/
def IsUncut (depth : Int) (piece : List Char) : Prop :=
  ∀ start rest, piece = start ++ ',' :: rest → depth + nesting start ≠ 0

/-- The arguments that a text consists of: stretches between commas, all but the last of which
close what they open, and none of which has a comma outside of its own brackets. -/
structure AreArguments (text : List Char) (pieces : List (List Char)) : Prop where
  joined : text = [','].intercalate pieces
  ne_nil : pieces ≠ []
  uncut : ∀ piece ∈ pieces, IsUncut 0 piece
  closed : ∀ piece ∈ pieces.dropLast, nesting piece = 0

@[simp] lemma nesting_nil : nesting [] = 0 := rfl

@[simp] lemma nesting_cons (c : Char) (cs : List Char) :
    nesting (c :: cs) = depthChange c + nesting cs := List.sum_cons

lemma isUncut_nil (depth : Int) : IsUncut depth [] := by
  rintro start rest h
  simp at h

lemma isUncut_cons_iff {depth : Int} :
    IsUncut depth (c :: piece) ↔
      ¬ (c = ',' ∧ depth = 0) ∧ IsUncut (depth + depthChange c) piece := by
  constructor
  · intro h
    refine ⟨?_, ?_⟩
    · rintro ⟨rfl, rfl⟩
      exact h [] piece rfl (by simp)
    · rintro start rest rfl
      have hstart := h (c :: start) rest rfl
      rwa [nesting_cons, ← add_assoc] at hstart
  · rintro ⟨hc, h⟩ start rest heq
    cases start with
    | nil =>
      obtain ⟨rfl, rfl⟩ := List.cons.inj heq
      simpa using hc
    | cons d start =>
      obtain ⟨rfl, rfl⟩ := List.cons.inj heq
      rw [nesting_cons, ← add_assoc]
      exact h start rest rfl

/-- A stretch without a comma outside of brackets is not cut. -/
lemma stretches_uncut {depth : Int} (h : IsUncut depth piece) : stretches depth piece = [piece] := by
  induction piece generalizing depth with
  | nil => rfl
  | cons c piece ih =>
    obtain ⟨hc, hpiece⟩ := isUncut_cons_iff.mp h
    rw [stretches, if_neg hc, ih hpiece]

/-- A comma behind such a stretch that closes what is open is where the text is cut. -/
lemma stretches_append {depth : Int} (h : IsUncut depth piece) (hclosed : depth + nesting piece = 0)
    (rest : List Char) :
    stretches depth (piece ++ ',' :: rest) = piece :: stretches 0 rest := by
  induction piece generalizing depth with
  | nil =>
    have hdepth : depth = 0 := by simpa using hclosed
    rw [hdepth, List.nil_append, stretches, if_pos ⟨rfl, rfl⟩]
  | cons c piece ih =>
    obtain ⟨hc, hpiece⟩ := isUncut_cons_iff.mp h
    rw [nesting_cons, ← add_assoc] at hclosed
    rw [List.cons_append, stretches, if_neg hc, ih hpiece hclosed]

/-- A text has a first comma outside of brackets or none. -/
lemma isUncut_or_cut (depth : Int) (cs : List Char) :
    IsUncut depth cs ∨ ∃ piece rest, cs = piece ++ ',' :: rest ∧ IsUncut depth piece ∧
      depth + nesting piece = 0 := by
  induction cs generalizing depth with
  | nil => exact Or.inl (isUncut_nil depth)
  | cons c cs ih =>
    by_cases hc : c = ',' ∧ depth = 0
    · obtain ⟨rfl, rfl⟩ := hc
      exact Or.inr ⟨[], cs, rfl, isUncut_nil 0, rfl⟩
    rcases ih (depth + depthChange c) with h | ⟨piece, rest, rfl, h, hclosed⟩
    · exact Or.inl (isUncut_cons_iff.mpr ⟨hc, h⟩)
    · rw [add_assoc, ← nesting_cons] at hclosed
      exact Or.inr ⟨c :: piece, rest, rfl, isUncut_cons_iff.mpr ⟨hc, h⟩, hclosed⟩

namespace AreArguments

lemma singleton (h : IsUncut 0 piece) : AreArguments piece [piece] :=
  ⟨List.intercalate_singleton.symm, by simp, by simpa using h, by simp⟩

lemma cons (h : IsUncut 0 piece) (hclosed : nesting piece = 0) (hrest : AreArguments rest pieces) :
    AreArguments (piece ++ ',' :: rest) (piece :: pieces) := by
  obtain ⟨next, others, rfl⟩ := List.exists_cons_of_ne_nil hrest.ne_nil
  refine ⟨?_, by simp, List.forall_mem_cons.mpr ⟨h, hrest.uncut⟩, ?_⟩
  · rw [List.intercalate_cons_cons, ← hrest.joined]
    simp
  · rw [List.dropLast_cons_of_ne_nil hrest.ne_nil]
    exact List.forall_mem_cons.mpr ⟨hclosed, hrest.closed⟩

end AreArguments

lemma areArguments_stretches (text : List Char) : AreArguments text (stretches 0 text) := by
  induction hlength : text.length using Nat.strong_induction_on generalizing text with
  | h length ih =>
    subst hlength
    rcases isUncut_or_cut 0 text with h | ⟨piece, rest, rfl, h, hclosed⟩
    · rw [stretches_uncut h]
      exact .singleton h
    · rw [stretches_append h hclosed]
      have hshorter : rest.length < (piece ++ ',' :: rest).length := by
        rw [List.length_append, List.length_cons]
        omega
      exact .cons h (by simpa using hclosed) (ih rest.length hshorter rest rfl)

/-- Cutting a text gives its arguments, and a text has them in one way only. -/
lemma areArguments_iff {text : List Char} :
    AreArguments text pieces ↔ stretches 0 text = pieces := by
  constructor
  · intro h
    induction pieces generalizing text with
    | nil => exact absurd rfl h.ne_nil
    | cons piece pieces ih =>
      have hpiece := h.uncut piece List.mem_cons_self
      cases pieces with
      | nil =>
        rw [h.joined, List.intercalate_singleton, stretches_uncut hpiece]
      | cons next others =>
        have hclosed : nesting piece = 0 := h.closed piece (by simp)
        have hrest : AreArguments ([','].intercalate (next :: others)) (next :: others) :=
          ⟨rfl, by simp, fun p hp => h.uncut p (List.mem_cons_of_mem piece hp),
            fun p hp => h.closed p (by simpa using Or.inr hp)⟩
        have htext : text = piece ++ ',' :: [','].intercalate (next :: others) := by
          rw [h.joined, List.intercalate_cons_cons, List.append_assoc, List.singleton_append]
        rw [htext, stretches_append hpiece (by simpa using hclosed), ih hrest]
  · rintro rfl
    exact areArguments_stretches text

/-! ### Default arguments -/

/-- A text without its blanks. -/
def solid (cs : List Char) : List Char := cs.filter fun c => !Text.isBlank c

lemma dense_eq (spelling : String) : dense spelling = solid spelling.toList := rfl

@[simp] lemma solid_append (cs ds : List Char) : solid (cs ++ ds) = solid cs ++ solid ds :=
  List.filter_append cs ds

lemma solid_dropWhile (cs : List Char) : solid (cs.dropWhile Text.isBlank) = solid cs := by
  induction cs with
  | nil => rfl
  | cons c cs ih =>
    by_cases hc : Text.isBlank c = true
    · rw [List.dropWhile_cons_of_pos hc, ih]
      simp [solid, hc]
    · rw [List.dropWhile_cons_of_neg hc]

lemma solid_reverse (cs : List Char) : solid cs.reverse = (solid cs).reverse :=
  List.filter_reverse

@[simp] lemma solid_trim (cs : List Char) : solid (Text.trim cs) = solid cs := by
  rw [Text.trim, Text.trimEnd, Text.dropEndWhile, solid_reverse, solid_dropWhile, solid_reverse,
    List.reverse_reverse, solid_dropWhile]

lemma solid_intercalate (separator : List Char) (pieces : List (List Char)) :
    solid (separator.intercalate pieces) = (solid separator).intercalate (pieces.map solid) := by
  induction pieces with
  | nil => rfl
  | cons piece pieces ih =>
    cases pieces with
    | nil => simp
    | cons next others =>
      rw [List.intercalate_cons_cons, solid_append, solid_append, ih]
      simp [List.intercalate_cons_cons]

/-- Arguments as they are written behind one another again, without the blanks. -/
lemma dense_intercalate (arguments : List String) :
    dense (", ".intercalate arguments) = [','].intercalate (arguments.map dense) := by
  have hseparator : solid ", ".toList = [','] := by decide
  rw [dense_eq, String.toList_intercalate, solid_intercalate, hseparator, List.map_map]
  rfl

lemma length_trim_le (cs : List Char) : (Text.trim cs).length ≤ cs.length := by
  rw [Text.trim, Text.trimEnd, Text.dropEndWhile, List.length_reverse]
  calc ((cs.dropWhile Text.isBlank).reverse.dropWhile Text.isBlank).length
      ≤ (cs.dropWhile Text.isBlank).reverse.length := List.length_dropWhile_le _ _
    _ = (cs.dropWhile Text.isBlank).length := List.length_reverse
    _ ≤ cs.length := List.length_dropWhile_le _ _

lemma length_intercalate (separator : List Char) {pieces : List (List Char)} (h : pieces ≠ []) :
    (separator.intercalate pieces).length + separator.length =
      (pieces.map List.length).sum + pieces.length * separator.length := by
  induction pieces with
  | nil => exact absurd rfl h
  | cons piece pieces ih =>
    cases pieces with
    | nil => simp
    | cons next others =>
      have hrest := ih (List.cons_ne_nil next others)
      rw [List.intercalate_cons_cons, List.map_cons, List.sum_cons, List.length_append,
        List.length_append, List.length_cons, Nat.add_mul]
      omega

/-- What the comparison of given arguments with one list of defaults says. -/
lemma sameSpellings_iff {defaults given : List String} :
    (defaults.length = given.length ∧
      ((defaults.zip given).all fun (a, b) => sameSpelling a b) = true) ↔
        given.map dense = defaults.map dense := by
  induction defaults generalizing given with
  | nil => cases given <;> simp
  | cons a defaults ih =>
    cases given with
    | nil => simp
    | cons b given =>
      rw [List.map_cons, List.map_cons, List.cons.injEq, ← ih]
      simp only [List.length_cons, List.zip_cons_cons, List.all_cons, sameSpelling,
        Bool.and_eq_true, decide_eq_true_eq, Nat.add_right_cancel_iff, @eq_comm _ (dense b)]
      tauto

namespace Container

/-- How a container starts: with its name and the opening bracket behind it. -/
def opening (container : Container) : List Char := ("std::" ++ container.name ++ "<").toList

lemma required_bounds (container : Container) :
    1 ≤ container.required ∧ container.required ≤ 2 := by
  cases container <;> decide

/-- Defaults are computed from the required arguments, there is at least one, and each is a
template of the library. -/
lemma of_mem_defaults {container : Container} {kept defaults : List String}
    (h : defaults ∈ container.defaults kept) :
    kept.length = container.required ∧ defaults ≠ [] ∧
      ∀ x ∈ defaults, ∃ template arguments, x = standard template arguments := by
  have hstandard : ∀ template arguments, ∃ t a, standard template arguments = standard t a :=
    fun template arguments => ⟨template, arguments, rfl⟩
  rw [Container.defaults.eq_def] at h
  split at h <;>
    simp only [entryAllocators, allocator, List.map_cons, List.map_nil, List.mem_cons,
      List.not_mem_nil, or_false] at h
  all_goals
    rcases h with rfl | rfl <;>
      exact ⟨rfl, List.cons_ne_nil _ _, by simp [hstandard]⟩

end Container

lemma dense_standard_ne_nil (template arguments : String) :
    dense (Container.standard template arguments) ≠ [] := by
  have hstart : ∀ rest : List Char, solid ('s' :: rest) = 's' :: solid rest := fun rest => rfl
  rw [dense_eq, Container.standard]
  simp [hstart]

/-- Arguments that are the required ones and then a list of defaults, in whatever spelling of
blanks; `kept` are the required ones. -/
structure IsDefaulted (container : Container) (inner : List Char) (kept : List String) : Prop where
  enclosed : Encloses 0 inner
  defaulted : ∃ pieces defaults, AreArguments inner pieces ∧ defaults ∈ container.defaults kept ∧
    kept = (pieces.take container.required).map (fun piece => String.ofList (Text.trim piece)) ∧
    (pieces.drop container.required).map solid = defaults.map dense

lemma shortened?_eq_some_iff {container : Container} {arguments kept : List String} :
    shortened? container arguments = some kept ↔
      kept = arguments.take container.required ∧ ∃ defaults ∈ container.defaults kept,
        (arguments.drop container.required).map dense = defaults.map dense := by
  simp only [shortened?, Option.ite_none_right_eq_some, Bool.and_eq_true, decide_eq_true_eq,
    List.any_eq_true, sameSpellings_iff, Option.some.injEq]
  constructor
  · rintro ⟨⟨-, defaults, hdefaults, hsame⟩, rfl⟩
    exact ⟨rfl, defaults, hdefaults, hsame⟩
  · rintro ⟨rfl, defaults, hdefaults, hsame⟩
    refine ⟨⟨?_, defaults, hdefaults, hsame⟩, rfl⟩
    rintro hnone
    rw [hnone] at hsame
    exact (Container.of_mem_defaults hdefaults).2.1 (List.map_eq_nil_iff.mp hsame.symm)

/-- A container is shortened exactly if what its bracket encloses ends in defaults. -/
lemma shortened?_iff {container : Container} {kept : List String} (h : Encloses 0 inner) :
    shortened? container ((splitArguments inner).map String.ofList) = some kept ↔
      IsDefaulted container inner kept := by
  have hdense : (dense ∘ String.ofList) ∘ Text.trim = solid := by
    funext piece
    simp [dense_eq]
  rw [shortened?_eq_some_iff, splitArguments, ← List.map_take, ← List.map_take, ← List.map_drop,
    ← List.map_drop, List.map_map, List.map_map, List.map_map, hdense]
  constructor
  · rintro ⟨hkept, defaults, hdefaults, hsame⟩
    exact ⟨h, _, defaults, areArguments_stretches inner, hdefaults, hkept, hsame⟩
  · rintro ⟨-, pieces, defaults, hpieces, hdefaults, hkept, hsame⟩
    rw [areArguments_iff.mp hpieces]
    exact ⟨hkept, defaults, hdefaults, hsame⟩

namespace IsDefaulted

variable {container : Container} {kept kept' : List String}

lemma unique (h : IsDefaulted container inner kept) (h' : IsDefaulted container inner kept') :
    kept = kept' := by
  have henclosed := h.enclosed
  rw [← shortened?_iff henclosed] at h h'
  exact Option.some.inj (h.symm.trans h')

/-- But for blanks, the arguments are spelled as those that are kept with defaults behind them. -/
lemma spelled (h : IsDefaulted container inner kept) :
    ∃ defaults ∈ container.defaults kept,
      solid inner = dense (", ".intercalate (kept ++ defaults)) := by
  obtain ⟨pieces, defaults, hpieces, hdefaults, hkept, hsame⟩ := h.defaulted
  refine ⟨defaults, hdefaults, ?_⟩
  have htaken : kept.map dense = (pieces.take container.required).map solid := by
    rw [hkept, List.map_map]
    refine List.map_congr_left fun piece _ => ?_
    simp [dense_eq]
  have hcomma : solid [','] = [','] := by decide
  rw [dense_intercalate, List.map_append, htaken, ← hsame, ← List.map_append,
    List.take_append_drop, hpieces.joined, solid_intercalate, hcomma]

lemma length_kept (h : IsDefaulted container inner kept) : kept.length = container.required := by
  obtain ⟨pieces, defaults, -, hdefaults, -⟩ := h.defaulted
  exact (Container.of_mem_defaults hdefaults).1

/-- Arguments get shorter without the defaults, also when those that stay are joined anew: the
blank that is put in counts less than the comma and the default that are left out. -/
lemma length_lt (h : IsDefaulted container inner kept) :
    (", ".intercalate kept).toList.length < inner.length := by
  obtain ⟨pieces, defaults, hpieces, hdefaults, hkept, hsame⟩ := h.defaulted
  obtain ⟨hcount, hsome, htemplates⟩ := Container.of_mem_defaults hdefaults
  have hrequired := container.required_bounds
  have hkeptNe : kept.map String.toList ≠ [] := by
    rw [Ne, List.map_eq_nil_iff]
    exact List.ne_nil_of_length_pos (by omega)
  have hjoined := length_intercalate ", ".toList hkeptNe
  have hinner := length_intercalate [','] hpieces.ne_nil
  rw [← hpieces.joined] at hinner
  -- What is kept is no longer than before, and what is left out is not empty.
  have htaken : ((kept.map String.toList).map List.length).sum ≤
      ((pieces.take container.required).map List.length).sum := by
    rw [hkept, List.map_map, List.map_map]
    refine List.sum_le_sum fun piece _ => ?_
    simpa using length_trim_le piece
  obtain ⟨first, others, rfl⟩ := List.exists_cons_of_ne_nil hsome
  obtain ⟨piece, rest, hdrop, hpiece, -⟩ := List.map_eq_cons_iff.mp hsame
  obtain ⟨template, arguments, rfl⟩ := htemplates first List.mem_cons_self
  have hpieceNe : 0 < piece.length := by
    rw [List.length_pos_iff]
    rintro rfl
    exact dense_standard_ne_nil template arguments hpiece.symm
  have hsplit : pieces = pieces.take container.required ++ piece :: rest := by
    rw [← hdrop, List.take_append_drop]
  have hlength := congrArg List.length hsplit
  have hsum := congrArg (fun pieces => (pieces.map List.length).sum) hsplit
  have htake := congrArg List.length hkept
  rw [List.length_map, hcount] at htake
  simp only [List.map_append, List.map_cons, List.sum_append, List.sum_cons] at hsum
  rw [List.length_append, List.length_cons, ← htake] at hlength
  rw [String.toList_intercalate]
  have hcomma : ", ".toList.length = 2 := rfl
  rw [hcomma, List.length_map, hcount] at hjoined
  rw [List.length_singleton] at hinner
  omega

end IsDefaulted

end HeaderRecovery.Cleanup
