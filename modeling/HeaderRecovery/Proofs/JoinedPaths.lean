import HeaderRecovery.Proofs.ListedPaths
import HeaderRecovery.Proofs.ResolutionRules

/-!
Joined paths and how their parts are spelled. To follow a path is to follow what is left of it
after resolution, so a joined path does not change when either part is resolved before. The root
is looked for in the text as it stands, though: where it is written with a backslash, the right
part is followed from the left one, and what becomes of it depends on how far it goes up.
-/
namespace HeaderRecovery.Path

variable {absolute : Bool} {stack steps : List String} {l r l' r' path : String}

/-! Following what is left after resolution -/

/-- The names to which a path leads from an unnamed start. A root is passed over like any other
empty stretch. -/
def trail (path : String) : List String := (Resolved.follow ⟨false, []⟩ path).names

/-- How many directories a path leaves before it enters one that it does not leave. -/
def climb (path : String) : Nat := (trail path).count ".."

lemma resolve_below (path : String) : resolve ("." ++ "/" ++ path) = ⟨false, trail path⟩ := by
  have hdot : resolve "." = ⟨false, []⟩ := by decide
  rw [resolve_append (by decide), hdot]
  rfl

lemma canonical_trail (path : String) : Canonical false (trail path) := by
  have hcanonical := resolve_canonical ("." ++ "/" ++ path)
  rwa [resolve_below] at hcanonical

/-- What a step cancels need not be followed. -/
lemma foldl_step_cons (hstack : Canonical false stack.reverse) (absolute : Bool)
    (names : List String) (s : String) :
    (step false stack s).reverse.foldl (step absolute) names =
      step absolute (stack.reverse.foldl (step absolute) names) s := by
  by_cases hblank : s = "" ∨ s = "."
  · simp [step, hblank]
  · by_cases hup : s = ".."
    · subst hup
      cases stack with
      | nil => rfl
      | cons last rest =>
        by_cases hlast : last = ".."
        · simp [step, hlast]
        · have hmem : last ∈ (last :: rest).reverse := by simp
          have hstay : ¬ (last = "" ∨ last = ".") :=
            not_or.mpr ⟨(hstack.segment last hmem).ne_empty, hstack.not_dot last hmem⟩
          simp [step, hlast, hstay]
    · simp [step, hblank, hup]

lemma foldl_step_trail (absolute : Bool) (names : List String) (path : String) :
    (pieces (slashed path)).foldl (step absolute) names =
      (trail path).foldl (step absolute) names := by
  have hall : ∀ steps : List String, (∀ s ∈ steps, '/' ∉ s.toList ∧ '\\' ∉ s.toList) →
      Canonical false (steps.foldl (step false) []).reverse ∧
        steps.foldl (step absolute) names =
          (steps.foldl (step false) []).reverse.foldl (step absolute) names := by
    intro steps
    induction steps using List.reverseRecOn with
    | nil => exact fun _ => ⟨.nil false, rfl⟩
    | append_singleton steps s ih =>
      intro hsteps
      obtain ⟨hcanonical, hfollowed⟩ := ih fun m hm => hsteps m (List.mem_append_left _ hm)
      obtain ⟨hslash, hbackslash⟩ := hsteps s (by simp)
      simp only [List.foldl_append, List.foldl_cons, List.foldl_nil]
      exact ⟨hcanonical.step hslash hbackslash,
        by rw [foldl_step_cons hcanonical, hfollowed]⟩
  exact (hall _ fun _ hs => mem_pieces_slashed hs).2

/-- A path may be resolved before it is followed, or not. -/
lemma follow_eq_foldl (p : Resolved) (path : String) :
    p.follow path =
      { p with names := ((trail path).foldl (step p.absolute) p.names.reverse).reverse } := by
  rw [Resolved.follow, foldl_step_trail]

lemma trail_normalize (hrelative : isAbsolute (slashed path) = false) :
    trail (normalize path) = trail path := by
  have htrail : ∀ q, isAbsolute (slashed q) = false → trail q = (resolve q).names := by
    intro q hq
    simp [trail, Resolved.follow, resolve, hq]
  by_cases hpath : path = ""
  · rw [hpath, normalize_empty]
  · have habs : isAbsolute (slashed (normalize path)) = false := by
      rw [slashed_eq_self (backslash_notMem_normalize path), isAbsolute_normalize]
      exact hrelative
    rw [htrail _ habs, htrail path hrelative, normalize_of_ne hpath,
      Resolved.resolve_render (resolve_canonical path)]

/-- Where both parts are resolved before they are joined, and the right one has no root. -/
lemma normalize_append_both (hl : l ≠ "") (hrelative : isAbsolute (slashed r) = false) :
    normalize (normalize l ++ "/" ++ normalize r) = normalize (l ++ "/" ++ r) := by
  rw [normalize_append_normalize hl, normalize_of_ne (append_separator_ne_empty l r),
    normalize_of_ne (append_separator_ne_empty l _), resolve_append hl, resolve_append hl,
    follow_eq_foldl, follow_eq_foldl, trail_normalize hrelative]

/-! A root that is followed -/

lemma foldl_step_entered (h : Canonical false steps) (hup : ".." ∉ steps) :
    steps.foldl (step absolute) stack = steps.reverse ++ stack := by
  induction steps generalizing stack with
  | nil => rfl
  | cons s rest ih =>
    have hs : ¬ (s = "" ∨ s = ".") :=
      not_or.mpr ⟨(h.segment s (by simp)).ne_empty, h.not_dot s (by simp)⟩
    have hne : s ≠ ".." := fun heq => hup (by simp [heq])
    have hrest : rest.foldl (step absolute) (s :: stack) = rest.reverse ++ s :: stack :=
      ih (h.sublist (List.sublist_cons_self s rest)) fun hmem => hup (List.mem_cons_of_mem s hmem)
    simpa [step, hs, hne] using hrest

/-- Followed below the root, a path keeps what it does not climb out of. -/
lemma foldl_trail_below (hstack : ".." ∉ stack) (path : String) :
    ∃ entered, (trail path).foldl (step true) stack = entered ++ stack.drop (climb path) ∧
      (trail path).foldl (step true) [] = entered := by
  obtain ⟨ups, entered, hsplit, hentered, -⟩ := (canonical_trail path).exists_ups
  have hclimb : climb path = ups := by
    rw [climb, hsplit, List.count_append, List.count_replicate_self,
      List.count_eq_zero.mpr hentered, Nat.add_zero]
  have hcanonical : Canonical false entered :=
    (canonical_trail path).sublist (hsplit ▸ List.sublist_append_right _ entered)
  have hleft : ".." ∉ stack.take ups := fun hmem => hstack (List.mem_of_mem_take hmem)
  refine ⟨entered.reverse, ?_, ?_⟩
  · rw [hsplit, hclimb, List.foldl_append, foldl_step_ups hleft,
      foldl_step_entered hcanonical hentered]
  · rw [hsplit, List.foldl_append, foldl_step_ups (by simp), List.drop_nil,
      foldl_step_entered hcanonical hentered, List.append_nil]

lemma resolve_eq_foldl (habs : isAbsolute (slashed r) = true) :
    resolve r = ⟨true, ((trail r).foldl (step true) []).reverse⟩ := by
  simp only [resolve, habs, foldl_step_trail]

/-- A path from the root leads to the same place when it is followed from a directory, if and only
if it climbs out of all of it. -/
lemma follow_eq_resolve_iff (habs : isAbsolute (slashed r) = true) :
    (resolve l).follow r = resolve r ↔
      isAbsolute (slashed l) = true ∧ (resolve l).names.length ≤ climb r := by
  have hcanonical := resolve_canonical l
  have hstart : (resolve l).absolute = isAbsolute (slashed l) := rfl
  rw [follow_eq_foldl, resolve_eq_foldl habs, Resolved.mk.injEq, hstart]
  refine and_congr_right fun hl => ?_
  have hup : ".." ∉ (resolve l).names.reverse := by
    rw [List.mem_reverse]
    exact hcanonical.rooted hl
  obtain ⟨entered, hfrom, hroot⟩ := foldl_trail_below hup r
  rw [hl, hfrom, hroot, List.reverse_inj, List.append_right_eq_self, List.drop_eq_nil_iff,
    List.length_reverse]

/-! Joining -/

lemma isAbsolute_slashed (h : isAbsolute path = true) : isAbsolute (slashed path) = true := by
  simp_all [isAbsolute, slashed]

lemma join_absolute (l : String) (h : isAbsolute r = true) : join l r = normalize r := by
  simp [join, h]

lemma join_empty (r : String) : join "" r = normalize r := by simp [join]

lemma join_normalize_right_absolute (l : String) (h : isAbsolute (slashed r) = true) :
    join l (normalize r) = normalize r := by
  rw [join_absolute l ((isAbsolute_normalize r).trans h), normalize_normalize]

lemma normalize_inj_iff (hl : l ≠ "") (hr : r ≠ "") :
    normalize l = normalize r ↔ resolve l = resolve r := by
  rw [normalize_of_ne hl, normalize_of_ne hr]
  refine ⟨fun h => ?_, fun h => by rw [h]⟩
  rw [← Resolved.resolve_render (resolve_canonical l), h,
    Resolved.resolve_render (resolve_canonical r)]

/-- Where a root is not recognised in the right part. -/
lemma join_hidden_root (hl : l ≠ "") (hr : isAbsolute r = false)
    (habs : isAbsolute (slashed r) = true) :
    join l r = normalize r ↔
      isAbsolute (slashed l) = true ∧ (resolve l).names.length ≤ climb r := by
  have hne : r ≠ "" := by
    rintro rfl
    revert habs
    decide
  rw [join_eq_normalize hl hr, normalize_inj_iff (append_separator_ne_empty l r) hne,
    resolve_append hl, follow_eq_resolve_iff habs]

lemma join_normalize_left (l r : String) : join (normalize l) r = join l r := by
  by_cases hl : l = ""
  · rw [hl, normalize_empty]
  · cases hr : isAbsolute r with
    | true => rw [join_absolute _ hr, join_absolute _ hr]
    | false =>
      rw [join_eq_normalize (mt normalize_eq_empty_iff.mp hl) hr, join_eq_normalize hl hr,
        normalize_append_normalize hl]

/-- Where the root of the right part is recognised, or there is none. -/
lemma join_normalize_of_plain (l : String) (h : isAbsolute r = isAbsolute (slashed r)) :
    join (normalize l) (normalize r) = join l r := by
  rw [join_normalize_left]
  by_cases hl : l = ""
  · rw [hl, join_empty, join_empty, normalize_normalize]
  · cases hr : isAbsolute r with
    | true => rw [join_normalize_right_absolute l (isAbsolute_slashed hr), join_absolute l hr]
    | false =>
      have habs : isAbsolute (normalize r) = false := by
        rw [isAbsolute_normalize]
        exact h.symm.trans hr
      rw [join_eq_normalize hl habs, join_eq_normalize hl hr,
        ← normalize_append_normalize hl, normalize_append_both hl (h.symm.trans hr)]

/-- The root of a path is missed exactly if it is written with a backslash. -/
lemma head?_eq_backslash_iff (path : String) :
    path.toList.head? = some '\\' ↔ isAbsolute path = false ∧ isAbsolute (slashed path) = true := by
  cases hpath : path.toList with
  | nil => simp [isAbsolute, slashed, hpath]
  | cons c rest =>
    by_cases hc : c = '\\'
    · simp [isAbsolute, slashed, hpath, hc]
    · simp [isAbsolute, slashed, hpath, hc]

lemma isAbsolute_eq_slashed (h : path.toList.head? ≠ some '\\') :
    isAbsolute path = isAbsolute (slashed path) := by
  rw [ne_eq, head?_eq_backslash_iff, not_and, Bool.not_eq_true] at h
  cases hpath : isAbsolute path with
  | true => exact (isAbsolute_slashed hpath).symm
  | false => exact (h hpath).symm

/-- A joined path is that of its normal parts, if and only if the right part does not start with a
backslash, or the left part is empty, or else the left part is absolute and the right one climbs
out of all of it. The left part may always be resolved before, and right parts that do not start
with a backslash may be spelled in any way. -/
theorem join_normalize_iff (l r : String) :
    (join l r = join (normalize l) (normalize r) ↔
      (r.toList.head? = some '\\' → l = "" ∨
        (isAbsolute (slashed l) = true ∧ (resolve l).names.length ≤ climb r))) ∧
    join l r = join (normalize l) r ∧
    ∀ l' r', normalize l' = normalize l → normalize r' = normalize r →
      r.toList.head? ≠ some '\\' → r'.toList.head? ≠ some '\\' → join l' r' = join l r := by
  refine ⟨?_, (join_normalize_left l r).symm, ?_⟩
  · by_cases hhead : r.toList.head? = some '\\'
    · obtain ⟨hr, habs⟩ := (head?_eq_backslash_iff r).mp hhead
      rw [join_normalize_right_absolute _ habs]
      by_cases hl : l = ""
      · simp [hl, join_empty]
      · rw [join_hidden_root hl hr habs]
        simp [hhead, hl]
    · exact iff_of_true (join_normalize_of_plain l (isAbsolute_eq_slashed hhead)).symm
        fun h => (hhead h).elim
  · intro l' r' hl hr hhead hhead'
    rw [← join_normalize_of_plain l' (isAbsolute_eq_slashed hhead'),
      ← join_normalize_of_plain l (isAbsolute_eq_slashed hhead), hl, hr]

/-- A root written with a backslash is followed from the left part, and its normal spelling is
not. -/
theorem backslashRoot_followed :
    join "a" "\\x" = "a/x" ∧ join (normalize "a") (normalize "\\x") = "/x" := by
  decide

end HeaderRecovery.Path
