import HeaderRecovery.Proofs.NormalPaths

/-!
Resolution by rules. A path is resolved component by component onto a stack of names; the rules
say what each component does to it, without an order in which they are tried. Normal texts stand
for stacks: two paths have the same one if and only if the rules lead both to the same stack.
-/
namespace HeaderRecovery.Path

variable {absolute : Bool} {steps names : List String} {path : String}

/-- What is written between the separators of a path, behind the root of an absolute one. -/
def written (path : String) : List String :=
  if isAbsolute path then (pieces path).tail else pieces path

/-- The components read so far have led to a stack of names. A name is put on it and `.` does
nothing; `..` takes back the last name, is dropped at the root, and is kept at the start of a
relative path. -/
inductive Resolves (absolute : Bool) : List String → List String → Prop
  | start : Resolves absolute [] []
  | stay {steps names : List String} (h : Resolves absolute steps names) :
      Resolves absolute (steps ++ ["."]) names
  | enter {steps names : List String} {s : String} (h : Resolves absolute steps names)
      (ne_dot : s ≠ ".") (ne_up : s ≠ "..") : Resolves absolute (steps ++ [s]) (names ++ [s])
  | leave {steps names : List String} {last : String}
      (h : Resolves absolute steps (names ++ [last]))
      (ne_up : last ≠ "..") : Resolves absolute (steps ++ [".."]) names
  | root {steps : List String} (h : Resolves absolute steps []) (rooted : absolute = true) :
      Resolves absolute (steps ++ [".."]) []
  | climb {steps names : List String} (h : Resolves absolute steps names)
      (unrooted : absolute = false) (start : ∀ n ∈ names, n = "..") :
      Resolves absolute (steps ++ [".."]) (names ++ [".."])

namespace Resolves

/-- The rules leave no choice: what they lead to is what is computed. -/
lemma foldl_step (h : Resolves absolute steps names) (hsteps : "" ∉ steps) :
    steps.foldl (step absolute) [] = names.reverse := by
  have hfront : ∀ {before : List String} {s : String}, "" ∉ before ++ [s] → "" ∉ before :=
    fun hmem hbefore => hmem (List.mem_append_left _ hbefore)
  induction h with
  | start => rfl
  | stay _ ih =>
    rw [List.foldl_append, ih (hfront hsteps)]
    rfl
  | @enter before _ s _ hdot hup ih =>
    have hs : s ≠ "" := fun heq => hsteps (by simp [heq])
    rw [List.foldl_append, ih (hfront hsteps)]
    simp [step, hs, hdot, hup]
  | leave _ hup ih =>
    rw [List.foldl_append, ih (hfront hsteps)]
    simp [step, hup]
  | root _ hrooted ih =>
    rw [List.foldl_append, ih (hfront hsteps)]
    simp [step, hrooted]
  | @climb _ names _ hunrooted hstart ih =>
    rw [List.foldl_append, ih (hfront hsteps), List.reverse_append]
    cases hrev : names.reverse with
    | nil => simp [step, hunrooted]
    | cons last rest =>
      -- All names so far are `..`, and no step takes such a name back.
      have hlast : last = ".." := hstart last (List.mem_reverse.mp (hrev ▸ List.mem_cons_self))
      simp [step, hunrooted, hlast]

/-- One more component: some rule applies to it. -/
lemma step {stack : List String} (h : Resolves absolute steps stack.reverse)
    (hcanonical : Canonical absolute stack.reverse) {s : String} (hs : s ≠ "") :
    Resolves absolute (steps ++ [s]) (step absolute stack s).reverse := by
  by_cases hdot : s = "."
  · subst hdot
    exact h.stay
  · by_cases hup : s = ".."
    · subst hup
      cases stack with
      | nil =>
        cases absolute with
        | true => exact h.root rfl
        | false => exact h.climb rfl (by simp)
      | cons last rest =>
        rw [List.reverse_cons] at h hcanonical
        by_cases hlast : last = ".."
        · subst hlast
          -- A name `..` is kept only where there is no root to stop at.
          have hunrooted : absolute = false := by
            simpa using fun habs => hcanonical.rooted habs (by simp)
          have hstart : ∀ n ∈ rest.reverse ++ [".."], n = ".." := by
            intro n hn
            rcases List.mem_append.mp hn with hn | hn
            · exact hcanonical.all_up n hn
            · exact List.mem_singleton.mp hn
          simpa [Path.step, hunrooted] using h.climb hunrooted hstart
        · simpa [Path.step, hlast] using h.leave hlast
    · simpa [Path.step, hs, hdot, hup] using h.enter hdot hup

end Resolves

/-- The nonempty stretches decide alone. -/
lemma foldl_segments (absolute : Bool) (path : String) (stack : List String) :
    (segments path).foldl (step absolute) stack = (pieces path).foldl (step absolute) stack := by
  rw [segments, List.foldl_filter]
  congr 1
  funext names s
  by_cases hs : s = "" <;> simp [step, hs]

lemma mem_segments_slashed {s : String} (h : s ∈ segments (slashed path)) :
    s ≠ "" ∧ '/' ∉ s.toList ∧ '\\' ∉ s.toList := by
  obtain ⟨hs, hne⟩ := List.mem_filter.mp h
  exact ⟨by simpa using hne, mem_pieces_slashed hs⟩

/-- The rules lead every path to one stack, that of its names. -/
lemma resolves_segments_iff :
    Resolves (isAbsolute (slashed path)) (segments (slashed path)) names ↔
      names = (resolve path).names := by
  have hall : ∀ steps, (∀ s ∈ steps, s ≠ "" ∧ '/' ∉ s.toList ∧ '\\' ∉ s.toList) →
      Canonical (isAbsolute (slashed path))
          (steps.foldl (step (isAbsolute (slashed path))) []).reverse ∧
        Resolves (isAbsolute (slashed path)) steps
          (steps.foldl (step (isAbsolute (slashed path))) []).reverse := by
    intro steps
    induction steps using List.reverseRecOn with
    | nil => exact fun _ => ⟨.nil _, .start⟩
    | append_singleton steps s ih =>
      intro hsteps
      obtain ⟨hcanonical, hresolves⟩ := ih fun m hm => hsteps m (List.mem_append_left _ hm)
      obtain ⟨hs, hslash, hbackslash⟩ := hsteps s (by simp)
      rw [List.foldl_append]
      exact ⟨hcanonical.step hslash hbackslash, hresolves.step hcanonical hs⟩
  have hnames : (resolve path).names =
      ((segments (slashed path)).foldl (step (isAbsolute (slashed path))) []).reverse := by
    rw [foldl_segments, resolve]
  constructor
  · intro h
    rw [hnames, h.foldl_step fun hmem => (mem_segments_slashed hmem).1 rfl, List.reverse_reverse]
  · intro h
    rw [h, hnames]
    exact (hall _ fun _ hs => mem_segments_slashed hs).2

/-! The text of a stack -/

/-- What is kept of `..` stands in front. -/
lemma Canonical.exists_ups (h : Canonical absolute names) :
    ∃ ups rest, names = List.replicate ups ".." ++ rest ∧ ".." ∉ rest ∧
      (absolute → ups = 0) := by
  induction names with
  | nil => exact ⟨0, [], rfl, by simp, fun _ => rfl⟩
  | cons n names ih =>
    by_cases hn : n = ".."
    · subst hn
      obtain ⟨ups, rest, rfl, hrest, -⟩ := ih (h.sublist (List.sublist_cons_self _ _))
      exact ⟨ups + 1, rest, by simp [List.replicate_succ], hrest,
        fun habs => (h.rooted habs List.mem_cons_self).elim⟩
    · refine ⟨0, n :: names, rfl, fun hmem => ?_, fun _ => rfl⟩
      rcases List.mem_cons.mp hmem with heq | hmem
      · exact hn heq.symm
      · exact hn ((List.pairwise_cons.mp h.up).1 ".." hmem rfl)

/-- What a normal text shows is its stack, but for a path without any names. -/
lemma written_render {p : Resolved} (h : Canonical p.absolute p.names) :
    written p.render =
      if p.names = [] then (if p.absolute then [""] else ["."]) else p.names := by
  rw [written, Resolved.isAbsolute_render h, Resolved.render]
  cases habs : p.absolute with
  | true =>
    rw [if_pos rfl, if_pos rfl, pieces_slash, List.tail_cons]
    split
    · rename_i hnil
      rw [hnil]
      decide
    · rename_i hne
      exact pieces_intercalate hne fun n hn => (h.segment n hn).slash
  | false =>
    rw [if_neg Bool.false_ne_true, if_neg Bool.false_ne_true]
    split
    · decide
    · rename_i hne
      exact pieces_intercalate hne fun n hn => (h.segment n hn).slash

lemma backslash_notMem_normalize (path : String) : '\\' ∉ (normalize path).toList := by
  by_cases hpath : path = ""
  · subst hpath
    decide
  · rw [normalize_of_ne hpath, ← Resolved.slashed_render (resolve_canonical path)]
    exact backslash_notMem_slashed _

/-- Components of a normal text are those of its stack; the texts without any stand apart. -/
lemma written_normalize (path : String) :
    written (normalize path) = (resolve path).names ∨
      (normalize path ∈ ["", "/", "."] ∧ written (normalize path) ∈ [[""], ["."]]) := by
  by_cases hpath : path = ""
  · subst hpath
    exact Or.inr (by decide)
  · have hwritten := written_render (resolve_canonical path)
    rw [normalize_of_ne hpath, hwritten]
    by_cases hnil : (resolve path).names = []
    · rw [if_pos hnil, Resolved.render, hnil]
      cases (resolve path).absolute with
      | true => exact Or.inr (by decide)
      | false => exact Or.inr (by decide)
    · exact Or.inl (if_neg hnil)

/-- Paths with one normal text are those that start at the same place and have the same stack. -/
lemma normalize_eq_iff {p q : String} :
    normalize p = normalize q ↔
      (p = "" ↔ q = "") ∧ isAbsolute (slashed p) = isAbsolute (slashed q) ∧
        (resolve p).names = (resolve q).names := by
  constructor
  · intro h
    refine ⟨by rw [← normalize_eq_empty_iff, h, normalize_eq_empty_iff], ?_, ?_⟩
    · have habs := congrArg isAbsolute h
      rwa [isAbsolute_normalize, isAbsolute_normalize] at habs
    · rw [← names_normalize, h, names_normalize]
  · rintro ⟨hempty, habs, hnames⟩
    by_cases hp : p = ""
    · rw [hp, hempty.mp hp]
    · have hstart : isAbsolute (normalize p) = isAbsolute (normalize q) := by
        rw [isAbsolute_normalize, isAbsolute_normalize, resolve, resolve, habs]
      rw [← names_normalize p, ← names_normalize q] at hnames
      exact normalize_inj hp (mt hempty.mpr hp) hstart hnames

/-- The normal text of a path is its canonical form. It is normal itself, holds plain components
only, with `..` at the start of a relative path and nowhere else. The rules lead each path to one
stack, and two paths have one normal text if and only if they start at the same place and have the
same stack. -/
theorem normalize_canonical (p : String) :
    normalize (normalize p) = normalize p ∧
    '\\' ∉ (normalize p).toList ∧
    (normalize p ∈ ["", "/", "."] ∨ ∀ s ∈ written (normalize p), s ≠ "" ∧ s ≠ ".") ∧
    (∃ ups rest, written (normalize p) = List.replicate ups ".." ++ rest ∧ ".." ∉ rest ∧
      (isAbsolute (normalize p) → ups = 0)) ∧
    isAbsolute (normalize p) = isAbsolute (slashed p) ∧
    (∃! stack, Resolves (isAbsolute (slashed p)) (segments (slashed p)) stack) ∧
    ∀ q, normalize p = normalize q ↔
      (p = "" ↔ q = "") ∧ isAbsolute (slashed p) = isAbsolute (slashed q) ∧
      ∃ stack, Resolves (isAbsolute (slashed p)) (segments (slashed p)) stack ∧
        Resolves (isAbsolute (slashed q)) (segments (slashed q)) stack := by
  have hcanonical := resolve_canonical p
  refine ⟨normalize_normalize p, backslash_notMem_normalize p, ?_, ?_, isAbsolute_normalize p,
    ?_, ?_⟩
  · rcases written_normalize p with hwritten | ⟨hspecial, -⟩
    · refine Or.inr fun s hs => ?_
      rw [hwritten] at hs
      exact ⟨(hcanonical.segment s hs).ne_empty, hcanonical.not_dot s hs⟩
    · exact Or.inl hspecial
  · rcases written_normalize p with hwritten | ⟨-, hwritten⟩
    · rw [hwritten, isAbsolute_normalize]
      exact hcanonical.exists_ups
    · refine ⟨0, written (normalize p), rfl, fun hup => ?_, fun _ => rfl⟩
      rcases List.mem_pair.mp hwritten with heq | heq
      · rw [heq] at hup
        exact absurd hup (by decide)
      · rw [heq] at hup
        exact absurd hup (by decide)
  · simp only [resolves_segments_iff, existsUnique_eq]
  · intro q
    rw [normalize_eq_iff]
    refine and_congr_right fun _ => and_congr_right fun _ => ?_
    simp only [resolves_segments_iff, exists_eq_left]

/-- `..` takes back a name, but no other `..`. -/
example : normalize "..\\a/.././/../b/c/" = "../../b/c" := by decide

end HeaderRecovery.Path
