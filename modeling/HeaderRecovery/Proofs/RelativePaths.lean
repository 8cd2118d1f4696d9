import HeaderRecovery.Proofs.CommonPaths
import HeaderRecovery.Proofs.ListedPaths
import HeaderRecovery.Proofs.PlannedFiles

/-!
Relative paths as the way from one directory to another. Out of an absolute directory lead as many
`..` as it has names that the path does not share, and then the names of the path behind the shared
ones; followed from the directory, that is the path again.
-/
namespace HeaderRecovery.Path

variable {path base : String} {up down shared : List String}

/-- The text of steps to be followed; no steps at all are written `.`. -/
def spelled (parts : List String) : String := if parts = [] then "." else "/".intercalate parts

/-- The steps out of `up` and into `down`. -/
def way (up down : List String) : List String := List.replicate up.length ".." ++ down

/-- Behind the names that path and base share, every other name of the base is left and every other
name of the path entered. -/
lemma relativeTo_eq (h : isAbsolute (normalize path) = isAbsolute (normalize base)) :
    ∃ shared up down, names (normalize base) = shared ++ up ∧
      names (normalize path) = shared ++ down ∧
      shared = sharedStart (names (normalize path)) (names (normalize base)) ∧
      relativeTo path base = some (spelled (way up down)) := by
  generalize hshared : sharedStart (names (normalize path)) (names (normalize base)) = shared
  obtain ⟨down, hdown⟩ : shared <+: names (normalize path) := hshared ▸ sharedStart_left _ _
  obtain ⟨up, hup⟩ : shared <+: names (normalize base) := hshared ▸ sharedStart_right _ _
  refine ⟨shared, up, down, hup.symm, hdown.symm, rfl, ?_⟩
  rw [← hup, ← hdown] at hshared
  simp [relativeTo, spelled, way, h, hshared, ← hup, ← hdown]

/-- Nothing is left to be left exactly if the base lies on the way to the path. -/
lemma up_eq_nil_iff (hbase : names (normalize base) = shared ++ up)
    (hshared : shared = sharedStart (names (normalize path)) (names (normalize base))) :
    up = [] ↔ names (normalize base) <+: names (normalize path) := by
  constructor
  · rintro rfl
    rw [hbase, List.append_nil, hshared]
    exact sharedStart_left _ _
  · intro h
    have hle := (prefix_sharedStart h (List.prefix_refl _)).length_le
    rw [← hshared, hbase, List.length_append] at hle
    exact List.eq_nil_of_length_eq_zero (by omega)

/-! Following the way -/

/-- Going up takes back as many names as there are steps. -/
lemma foldl_step_up (hup : ".." ∉ up) :
    (List.replicate up.length "..").foldl (step true) (shared ++ up).reverse = shared.reverse := by
  have hlast : ".." ∉ (shared ++ up).reverse.take up.length := by simpa using hup
  rw [foldl_step_ups hlast]
  simp

/-- Going down adds the names. -/
lemma foldl_step_down (h : Canonical true (shared ++ down)) :
    down.foldl (step true) shared.reverse = (shared ++ down).reverse := by
  rw [← h.foldl_step, List.foldl_append,
    (h.sublist (List.sublist_append_left shared down)).foldl_step]

lemma foldl_step_spelled {parts : List String} (absolute : Bool) (stack : List String)
    (h : ∀ s ∈ parts, '/' ∉ s.toList ∧ '\\' ∉ s.toList) :
    (pieces (slashed (spelled parts))).foldl (step absolute) stack =
      parts.foldl (step absolute) stack := by
  by_cases hnil : parts = []
  · have hdot : pieces (slashed ".") = ["."] := by decide
    rw [spelled, if_pos hnil, hdot, hnil]
    rfl
  · have hslashed : slashed ("/".intercalate parts) = "/".intercalate parts := by
      refine slashed_eq_self fun hmem => ?_
      obtain heq | ⟨s, hs, hc⟩ := mem_intercalate hmem
      · cases heq
      · exact (h s hs).2 hc
    rw [spelled, if_neg hnil, hslashed, pieces_intercalate hnil fun s hs => (h s hs).1]

/-- A relative path written from plain steps is none from the root. -/
lemma isAbsolute_spelled {parts : List String} (h : ∀ s ∈ parts, IsSegment s) :
    isAbsolute (spelled parts) = false := by
  unfold spelled
  split
  · decide
  · exact isAbsolute_intercalate h

lemma spelled_eq_dot_iff {parts : List String} (h : ∀ s ∈ parts, '/' ∉ s.toList ∧ s ≠ ".") :
    spelled parts = "." ↔ parts = [] := by
  refine ⟨fun hdot => ?_, fun hnil => if_pos hnil⟩
  by_contra hnil
  have hpieces := pieces_intercalate hnil fun s hs => (h s hs).1
  have halone : pieces "." = ["."] := by decide
  rw [spelled, if_neg hnil] at hdot
  rw [hdot, halone] at hpieces
  exact (h "." (hpieces ▸ List.mem_cons_self)).2 rfl

/-! The way between two places below the root -/

lemma way_eq_nil_iff : way up down = [] ↔ up = [] ∧ down = [] := by simp [way]

lemma way_plain (h : Canonical true (shared ++ down)) {s : String} (hs : s ∈ way up down) :
    IsSegment s ∧ '\\' ∉ s.toList ∧ s ≠ "." := by
  rcases List.mem_append.mp hs with hs | hs
  · rw [List.eq_of_mem_replicate hs]
    exact ⟨⟨by decide, by decide⟩, by decide, by decide⟩
  · have hmem := List.mem_append_right shared hs
    exact ⟨h.segment s hmem, h.backslash s hmem, h.not_dot s hmem⟩

lemma foldl_step_way (hbase : Canonical true (shared ++ up))
    (hpath : Canonical true (shared ++ down)) :
    (way up down).foldl (step true) (shared ++ up).reverse = (shared ++ down).reverse := by
  have hup : ".." ∉ up := fun hmem => hbase.rooted rfl (List.mem_append_right _ hmem)
  rw [way, List.foldl_append, foldl_step_up hup, foldl_step_down hpath]

/-- Below the root, only steps out lead out. -/
lemma escapesBase_way (h : Canonical true (shared ++ down)) :
    escapesBase (spelled (way up down)) = true ↔ up ≠ [] := by
  cases hsteps : way up down with
  | nil => exact iff_of_false (by decide) fun hleft => hleft (way_eq_nil_iff.mp hsteps).1
  | cons s rest =>
    rw [spelled, if_neg (List.cons_ne_nil s rest),
      escapesBase_intercalate fun m hm => (way_plain h (hsteps ▸ hm)).1]
    cases up with
    | nil =>
      have hdown : down = s :: rest := by simpa [way] using hsteps
      refine iff_of_false (fun heq => h.rooted rfl ?_) fun hleft => hleft rfl
      simp [hdown, heq]
    | cons last up =>
      rw [way, List.length_cons, List.replicate_succ, List.cons_append, List.cons.injEq] at hsteps
      exact iff_of_true hsteps.1.symm (List.cons_ne_nil last up)

lemma ne_empty_of_absolute (h : isAbsolute (normalize path) = true) : path ≠ "" := by
  rintro rfl
  simp [isAbsolute] at h

/-- The way followed from its start ends at its end. -/
lemma join_way (hbase : isAbsolute (normalize base) = true)
    (hpath : isAbsolute (normalize path) = true) (hup : names (normalize base) = shared ++ up)
    (hdown : names (normalize path) = shared ++ down) :
    join base (spelled (way up down)) = normalize path := by
  have hcanonicalBase := canonical_names base
  have hcanonical := canonical_names path
  rw [hbase, hup] at hcanonicalBase
  rw [hpath, hdown] at hcanonical
  have hplain : ∀ s ∈ way up down, IsSegment s ∧ '\\' ∉ s.toList ∧ s ≠ "." :=
    fun _ hs => way_plain hcanonical hs
  have hneBase := ne_empty_of_absolute hbase
  have hnePath := ne_empty_of_absolute hpath
  rw [isAbsolute_normalize] at hbase hpath
  rw [names_normalize] at hup hdown
  have hfollowed : (resolve base).follow (spelled (way up down)) = resolve path := by
    rw [Resolved.follow, hbase, hup,
      foldl_step_spelled _ _ fun s hs => ⟨(hplain s hs).1.slash, (hplain s hs).2.1⟩,
      foldl_step_way hcanonicalBase hcanonical, List.reverse_reverse, ← hdown]
    cases hresolved : resolve path
    simp_all
  rw [join_eq_normalize hneBase (isAbsolute_spelled fun s hs => (hplain s hs).1),
    normalize_of_ne (append_separator_ne_empty _ _), resolve_append hneBase, hfollowed,
    normalize_of_ne hnePath]

/-- Components of an absolute normal path are its names. -/
lemma segments_normalize (h : isAbsolute (normalize path) = true) :
    segments (normalize path) = names (normalize path) := by
  have hne := ne_empty_of_absolute h
  rw [isAbsolute_normalize] at h
  rw [names_normalize, normalize_of_ne hne, Resolved.segments_render (resolve_canonical path)]
  simp [h]

/-- The way from an absolute directory to an absolute path, followed, ends at the path. It is `.`
exactly between the same places, and starts by leaving the directory exactly if that does not lie
on the way to the path. -/
theorem relativeTo_followed (hpath : isAbsolute (normalize path) = true)
    (hbase : isAbsolute (normalize base) = true) :
    ∃ r, relativeTo path base = some r ∧ join base r = normalize path ∧
      (r = "." ↔ normalize path = normalize base) ∧
      (escapesBase r = true ↔ ¬ segments (normalize base) <+: segments (normalize path)) := by
  have habs := hpath.trans hbase.symm
  obtain ⟨shared, up, down, hup, hdown, hshared, hrelative⟩ := relativeTo_eq habs
  have hcanonical := canonical_names path
  rw [hpath, hdown] at hcanonical
  refine ⟨_, hrelative, join_way hbase hpath hup hdown, ?_, ?_⟩
  · rw [spelled_eq_dot_iff fun s hs => ⟨(way_plain hcanonical hs).1.slash,
      (way_plain hcanonical hs).2.2⟩, way_eq_nil_iff]
    constructor
    · rintro ⟨rfl, rfl⟩
      exact normalize_inj (ne_empty_of_absolute hpath) (ne_empty_of_absolute hbase) habs
        (hdown.trans hup.symm)
    · intro hsame
      have hbelow := (up_eq_nil_iff hup hshared).mpr (by rw [hsame])
      rw [hsame, hup, hbelow, List.append_cancel_left_eq] at hdown
      exact ⟨hbelow, hdown.symm⟩
  · rw [segments_normalize hpath, segments_normalize hbase, ← up_eq_nil_iff hup hshared]
    exact escapesBase_way hcanonical

/-- A way up and down again, where a name that only starts with `..` is entered. -/
theorem sibling_followed :
    isAbsolute (normalize "\\src/./..x/a.h") = true ∧ isAbsolute (normalize "/src//lib/") = true ∧
    relativeTo "\\src/./..x/a.h" "/src//lib/" = some "../..x/a.h" ∧
    join "/src//lib/" "../..x/a.h" = normalize "\\src/./..x/a.h" ∧
    escapesBase "../..x/a.h" = true := by
  have hpath : isAbsolute (normalize "\\src/./..x/a.h") = true := by decide +kernel
  have hbase : isAbsolute (normalize "/src//lib/") = true := by decide +kernel
  have hrelative : relativeTo "\\src/./..x/a.h" "/src//lib/" = some "../..x/a.h" := by
    decide +kernel
  have hout : ¬ segments (normalize "/src//lib/") <+: segments (normalize "\\src/./..x/a.h") := by
    decide +kernel
  obtain ⟨r, hr, hjoin, -, hescapes⟩ := relativeTo_followed hpath hbase
  cases hrelative.symm.trans hr
  exact ⟨hpath, hbase, hrelative, hjoin, hescapes.mpr hout⟩

end HeaderRecovery.Path
