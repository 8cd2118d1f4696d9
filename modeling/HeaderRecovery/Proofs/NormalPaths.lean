import Mathlib
import HeaderRecovery.Path.Lexical

/-!
Normal paths. What is left of a path after resolution are plain names, and `..` only in front of
them in a relative one; its text is read back as the same names. So a path is normal after one
round of normalization, and normal paths can be compared by their names.
-/
namespace HeaderRecovery.Path

variable {names : List String} {path : String}

/-! Texts and the stretches between their separators -/

lemma mem_splitOn {x : Char} {cs part : List Char} (h : part ∈ cs.splitOn x) :
    x ∉ part ∧ ∀ c ∈ part, c ∈ cs := by
  induction cs generalizing part with
  | nil => simp_all
  | cons d cs ih =>
    rw [List.splitOn_cons_eq_if_modifyHead] at h
    split at h
    · rcases List.mem_cons.mp h with rfl | h
      · simp
      · exact ⟨(ih h).1, fun c hc => List.mem_cons_of_mem d ((ih h).2 c hc)⟩
    · rename_i hd
      obtain ⟨first, rest, hsplit⟩ := List.exists_cons_of_ne_nil (List.splitOn_ne_nil x cs)
      rw [hsplit, List.modifyHead_cons] at h
      rcases List.mem_cons.mp h with rfl | h
      · obtain ⟨hfirst, hmem⟩ := ih (hsplit ▸ List.mem_cons_self)
        have hne : x ≠ d := fun heq => hd (by simp [heq])
        refine ⟨by simp [hne, hfirst], fun c hc => ?_⟩
        rcases List.mem_cons.mp hc with rfl | hc
        · exact List.mem_cons_self
        · exact List.mem_cons_of_mem d (hmem c hc)
      · obtain ⟨hrest, hmem⟩ := ih (hsplit ▸ List.mem_cons_of_mem first h)
        exact ⟨hrest, fun c hc => List.mem_cons_of_mem d (hmem c hc)⟩

/-- A nonempty stretch between separators. -/
structure IsSegment (s : String) : Prop where
  ne_empty : s ≠ ""
  slash : '/' ∉ s.toList

lemma pieces_slash (path : String) : pieces ("/" ++ path) = "" :: pieces path := by
  simp [pieces, List.splitOn_cons_eq_if_modifyHead]

lemma segments_slash (path : String) : segments ("/" ++ path) = segments path := by
  simp [segments, pieces_slash]

lemma isAbsolute_slash (path : String) : isAbsolute ("/" ++ path) = true := by
  simp [isAbsolute]

lemma pieces_intercalate (hne : names ≠ []) (h : ∀ n ∈ names, '/' ∉ n.toList) :
    pieces ("/".intercalate names) = names := by
  have hslash : "/".toList = ['/'] := by decide
  rw [pieces, String.toList_intercalate, hslash, List.splitOn_intercalate]
  · simp
  · simpa using h
  · simpa using hne

lemma segments_intercalate (h : ∀ n ∈ names, IsSegment n) :
    segments ("/".intercalate names) = names := by
  cases names with
  | nil => decide
  | cons n rest =>
    rw [segments, pieces_intercalate (List.cons_ne_nil n rest) fun m hm => (h m hm).slash]
    exact List.filter_eq_self.mpr fun m hm => by simpa using (h m hm).ne_empty

lemma isAbsolute_intercalate (h : ∀ n ∈ names, IsSegment n) :
    isAbsolute ("/".intercalate names) = false := by
  cases names with
  | nil => decide
  | cons n rest =>
    obtain ⟨hne, hslash⟩ := h n List.mem_cons_self
    obtain ⟨c, cs, hn⟩ :=
      List.exists_cons_of_ne_nil fun heq => hne (String.toList_eq_nil_iff.mp heq)
    have hc : c ≠ '/' := fun heq => hslash (by simp [hn, heq])
    cases rest with
    | nil => simp [isAbsolute, hn, hc]
    | cons m rest => simp [isAbsolute, String.intercalate_cons_cons, hn, hc]

lemma mem_intercalate {c : Char} (h : c ∈ ("/".intercalate names).toList) :
    c = '/' ∨ ∃ n ∈ names, c ∈ n.toList := by
  induction names with
  | nil => simp at h
  | cons n rest ih =>
    cases rest with
    | nil => exact Or.inr ⟨n, List.mem_cons_self, by simpa using h⟩
    | cons m rest =>
      rw [String.intercalate_cons_cons, String.toList_append, String.toList_append,
        List.mem_append, List.mem_append] at h
      rcases h with (h | h) | h
      · exact Or.inr ⟨n, List.mem_cons_self, h⟩
      · exact Or.inl (by simpa using h)
      · obtain heq | ⟨k, hk, hc⟩ := ih h
        · exact Or.inl heq
        · exact Or.inr ⟨k, List.mem_cons_of_mem n hk, hc⟩

/-! Names after resolution -/

/-- The names of a resolved path: no separators, no `.`, and `..` only at the start of a relative
path. -/
structure Canonical (absolute : Bool) (names : List String) : Prop where
  segment : ∀ n ∈ names, IsSegment n
  backslash : ∀ n ∈ names, '\\' ∉ n.toList
  not_dot : ∀ n ∈ names, n ≠ "."
  up : names.Pairwise fun a b => b = ".." → a = ".."
  rooted : absolute → ".." ∉ names

namespace Canonical

variable {absolute : Bool}

lemma nil (absolute : Bool) : Canonical absolute [] := ⟨by simp, by simp, by simp, by simp, by simp⟩

lemma sublist {fewer : List String} (h : Canonical absolute names) (hsub : fewer.Sublist names) :
    Canonical absolute fewer where
  segment n hn := h.segment n (hsub.subset hn)
  backslash n hn := h.backslash n (hsub.subset hn)
  not_dot n hn := h.not_dot n (hsub.subset hn)
  up := h.up.sublist hsub
  rooted habs hup := h.rooted habs (hsub.subset hup)

lemma concat {n : String} (h : Canonical absolute names) (hsegment : IsSegment n)
    (hbackslash : '\\' ∉ n.toList) (hdot : n ≠ ".")
    (hup : n = ".." → absolute = false ∧ ∀ m ∈ names, m = "..") :
    Canonical absolute (names ++ [n]) where
  segment m hm := by
    rcases List.mem_append.mp hm with hm | hm
    · exact h.segment m hm
    · rwa [List.mem_singleton.mp hm]
  backslash m hm := by
    rcases List.mem_append.mp hm with hm | hm
    · exact h.backslash m hm
    · rwa [List.mem_singleton.mp hm]
  not_dot m hm := by
    rcases List.mem_append.mp hm with hm | hm
    · exact h.not_dot m hm
    · rwa [List.mem_singleton.mp hm]
  up := by
    refine List.pairwise_append.mpr ⟨h.up, List.pairwise_singleton _ _, ?_⟩
    intro a ha b hb heq
    rw [List.mem_singleton.mp hb] at heq
    exact (hup heq).2 a ha
  rooted habs hmem := by
    rcases List.mem_append.mp hmem with hmem | hmem
    · exact h.rooted habs hmem
    · rw [(hup (List.mem_singleton.mp hmem).symm).1] at habs
      cases habs

/-- In front of `..` stands nothing else. -/
lemma all_up (h : Canonical absolute (names ++ [".."])) : ∀ n ∈ names, n = ".." :=
  fun n hn => (List.pairwise_append.mp h.up).2.2 n hn ".." List.mem_cons_self rfl

/-- One more segment resolved. -/
lemma step {stack : List String} (h : Canonical absolute stack.reverse) {s : String}
    (hslash : '/' ∉ s.toList) (hbackslash : '\\' ∉ s.toList) :
    Canonical absolute (step absolute stack s).reverse := by
  unfold Path.step
  split
  · exact h
  · rename_i hs
    rw [not_or] at hs
    have hsegment : IsSegment s := ⟨hs.1, hslash⟩
    split
    · rename_i hup
      subst hup
      split
      · split
        · exact nil _
        · exact (nil _).concat hsegment hbackslash hs.2 fun _ => ⟨by simp_all, by simp⟩
      · rename_i last rest
        rw [List.reverse_cons] at h
        split
        · exact h.sublist (List.sublist_append_left _ _)
        · rename_i hlast
          have heq : last = ".." := Decidable.not_not.mp hlast
          subst heq
          split
          · rwa [List.reverse_cons]
          · rw [List.reverse_cons, List.reverse_cons]
            refine h.concat hsegment hbackslash hs.2 fun _ => ⟨by simp_all, fun m hm => ?_⟩
            rcases List.mem_append.mp hm with hm | hm
            · exact h.all_up m hm
            · exact List.mem_singleton.mp hm
    · rename_i hup
      rw [List.reverse_cons]
      exact h.concat hsegment hbackslash hs.2 fun heq => (hup heq).elim

/-- Canonical names stand for themselves. -/
lemma foldl_step (h : Canonical absolute names) :
    names.foldl (Path.step absolute) [] = names.reverse := by
  induction names using List.reverseRecOn with
  | nil => rfl
  | append_singleton names n ih =>
    have hmem : n ∈ names ++ [n] := by simp
    have hblank : ¬ (n = "" ∨ n = ".") := not_or.mpr ⟨(h.segment n hmem).ne_empty, h.not_dot n hmem⟩
    rw [List.foldl_append, ih (h.sublist (List.sublist_append_left _ _)), List.foldl_cons,
      List.foldl_nil, Path.step.eq_def, if_neg hblank, List.reverse_append, List.reverse_singleton,
      List.singleton_append]
    by_cases hup : n = ".."
    · subst hup
      have habs : absolute = false := by simpa using fun habs => h.rooted habs hmem
      have hall : ∀ last rest, names.reverse = last :: rest → last = ".." := fun last rest hrev =>
        h.all_up last (List.mem_reverse.mp (hrev ▸ List.mem_cons_self))
      rw [if_pos rfl]
      cases hrev : names.reverse with
      | nil => simp [habs]
      | cons last rest => simp [habs, hall last rest hrev]
    · rw [if_neg hup]

end Canonical

/-- Below the root, each step up takes back a name as long as there is one. -/
lemma foldl_step_ups {stack : List String} {n : Nat} (hup : ".." ∉ stack.take n) :
    (List.replicate n "..").foldl (step true) stack = stack.drop n := by
  induction n generalizing stack with
  | zero => rfl
  | succ n ih =>
    cases stack with
    | nil => simpa [List.replicate_succ, step] using @ih [] (by simp)
    | cons last rest =>
      obtain ⟨hlast, hrest⟩ : last ≠ ".." ∧ ".." ∉ rest.take n := by
        simpa [eq_comm] using hup
      simpa [List.replicate_succ, step, hlast] using ih hrest

lemma backslash_notMem_slashed (path : String) : '\\' ∉ (slashed path).toList := by
  intro hmem
  rw [slashed, String.toList_ofList] at hmem
  obtain ⟨c, -, hc⟩ := List.mem_map.mp hmem
  split at hc
  · cases hc
  · exact absurd hc (by assumption)

lemma mem_pieces_slashed {s : String} (h : s ∈ pieces (slashed path)) :
    '/' ∉ s.toList ∧ '\\' ∉ s.toList := by
  obtain ⟨part, hpart, rfl⟩ := List.mem_map.mp h
  obtain ⟨hslash, hmem⟩ := mem_splitOn hpart
  refine ⟨by simpa using hslash, fun hbackslash => ?_⟩
  exact backslash_notMem_slashed path (hmem '\\' (by simpa using hbackslash))

lemma resolve_canonical (path : String) :
    Canonical (resolve path).absolute (resolve path).names := by
  have hfold : ∀ (absolute : Bool) (parts stack : List String),
      (∀ s ∈ parts, '/' ∉ s.toList ∧ '\\' ∉ s.toList) → Canonical absolute stack.reverse →
      Canonical absolute (parts.foldl (step absolute) stack).reverse := by
    intro absolute parts
    induction parts with
    | nil => exact fun stack _ h => h
    | cons s parts ih =>
      intro stack hparts h
      obtain ⟨hslash, hbackslash⟩ := hparts s List.mem_cons_self
      exact ih _ (fun m hm => hparts m (List.mem_cons_of_mem s hm)) (h.step hslash hbackslash)
  have hpieces : ∀ s ∈ pieces (slashed path), '/' ∉ s.toList ∧ '\\' ∉ s.toList :=
    fun _ hs => mem_pieces_slashed hs
  dsimp only [resolve]
  exact hfold _ _ [] hpieces (.nil _)

lemma slashed_eq_self (h : '\\' ∉ path.toList) : slashed path = path := by
  have hmap : path.toList.map (fun c => if c = '\\' then '/' else c) = path.toList := by
    conv_rhs => rw [← List.map_id path.toList]
    refine List.map_congr_left fun c hc => if_neg ?_
    rintro rfl
    exact h hc
  rw [slashed, hmap, String.ofList_toList]

namespace Resolved

variable {p : Resolved}

lemma slashed_render (h : Canonical p.absolute p.names) : slashed p.render = p.render := by
  have hjoined : '\\' ∉ ("/".intercalate p.names).toList := fun hmem => by
    obtain heq | ⟨n, hn, hc⟩ := mem_intercalate hmem
    · cases heq
    · exact h.backslash n hn hc
  apply slashed_eq_self
  unfold render
  split
  · simpa using hjoined
  · split
    · decide
    · exact hjoined

lemma isAbsolute_render (h : Canonical p.absolute p.names) : isAbsolute p.render = p.absolute := by
  unfold render
  split
  · rename_i habs
    rw [isAbsolute_slash, habs]
  · rename_i habs
    rw [Bool.not_eq_true] at habs
    rw [habs]
    split
    · decide
    · exact isAbsolute_intercalate h.segment

lemma render_ne_empty (h : Canonical p.absolute p.names) : p.render ≠ "" := by
  intro heq
  have hpieces : pieces p.render = [""] := by rw [heq]; decide
  unfold render at hpieces
  split at hpieces
  · rw [pieces_slash, List.cons.injEq] at hpieces
    exact absurd hpieces.2 (by simp [pieces])
  · split at hpieces
    · exact absurd hpieces (by decide)
    · rename_i hne
      rw [pieces_intercalate hne fun n hn => (h.segment n hn).slash] at hpieces
      exact (h.segment "" (by simp [hpieces])).ne_empty rfl

lemma names_render (h : Canonical p.absolute p.names) : Path.names p.render = p.names := by
  have hnames : p.names.filter (· ≠ ".") = p.names :=
    List.filter_eq_self.mpr fun n hn => by simpa using h.not_dot n hn
  unfold Path.names render
  split
  · rw [segments_slash, segments_intercalate h.segment, hnames]
  · split
    · rename_i hnil
      rw [hnil]
      decide
    · rw [segments_intercalate h.segment, hnames]

/-- The text of a resolved path is read back as the same path. -/
lemma resolve_render (h : Canonical p.absolute p.names) : resolve p.render = p := by
  have hfold : (pieces p.render).foldl (step p.absolute) [] = p.names.reverse := by
    have hstart : step p.absolute [] "" = [] := rfl
    unfold render
    split
    · rw [pieces_slash, List.foldl_cons, hstart]
      cases hnames : p.names with
      | nil => rfl
      | cons n rest =>
        rw [← hnames, pieces_intercalate (by simp [hnames]) fun m hm => (h.segment m hm).slash,
          h.foldl_step]
    · split
      · rename_i hnil
        rw [hnil]
        rfl
      · rename_i hne
        rw [pieces_intercalate hne fun m hm => (h.segment m hm).slash, h.foldl_step]
  simp only [resolve, slashed_render h, isAbsolute_render h, hfold, List.reverse_reverse]

end Resolved

/-! Normal paths -/

lemma normalize_of_ne (h : path ≠ "") : normalize path = (resolve path).render := if_neg h

@[simp] lemma normalize_empty : normalize "" = "" := if_pos rfl

lemma normalize_render {p : Resolved} (h : Canonical p.absolute p.names) :
    normalize p.render = p.render := by
  rw [normalize_of_ne (Resolved.render_ne_empty h), Resolved.resolve_render h]

/-- One round of normalization is enough. -/
@[simp] theorem normalize_normalize (path : String) :
    normalize (normalize path) = normalize path := by
  by_cases h : path = ""
  · rw [h, normalize_empty, normalize_empty]
  · rw [normalize_of_ne h, normalize_render (resolve_canonical path)]

lemma isAbsolute_normalize (path : String) :
    isAbsolute (normalize path) = (resolve path).absolute := by
  by_cases h : path = ""
  · subst h
    decide
  · rw [normalize_of_ne h, Resolved.isAbsolute_render (resolve_canonical path)]

lemma names_normalize (path : String) : Path.names (normalize path) = (resolve path).names := by
  by_cases h : path = ""
  · subst h
    decide
  · rw [normalize_of_ne h, Resolved.names_render (resolve_canonical path)]

/-- The names of a normal path are canonical. -/
lemma canonical_names (path : String) :
    Canonical (isAbsolute (normalize path)) (Path.names (normalize path)) := by
  rw [isAbsolute_normalize, names_normalize]
  exact resolve_canonical path

/-- Normal paths with the same names from the same start are the same; one without any names may
be empty. -/
lemma normalize_inj {a b : String} (ha : a ≠ "") (hb : b ≠ "")
    (habs : isAbsolute (normalize a) = isAbsolute (normalize b))
    (hnames : Path.names (normalize a) = Path.names (normalize b)) : normalize a = normalize b := by
  have hresolved : resolve a = resolve b := by
    rw [isAbsolute_normalize, isAbsolute_normalize] at habs
    rw [names_normalize, names_normalize] at hnames
    cases hra : resolve a
    cases hrb : resolve b
    simp_all
  rw [normalize_of_ne ha, normalize_of_ne hb, hresolved]

lemma normalize_eq_empty_iff : normalize path = "" ↔ path = "" := by
  constructor
  · intro h
    by_contra hpath
    rw [normalize_of_ne hpath] at h
    exact Resolved.render_ne_empty (resolve_canonical path) h
  · rintro rfl
    exact normalize_empty

/-! What two lists share -/

section Shared
variable {α : Type} [DecidableEq α]

lemma sharedStart_left (a b : List α) : sharedStart a b <+: a := by
  induction a generalizing b with
  | nil => simp [sharedStart]
  | cons x a ih =>
    cases b with
    | nil => simp [sharedStart]
    | cons y b =>
      rw [sharedStart]
      split
      · exact (List.cons_prefix_cons.mpr ⟨rfl, ih b⟩)
      · exact List.nil_prefix

lemma sharedStart_right (a b : List α) : sharedStart a b <+: b := by
  induction a generalizing b with
  | nil => simp [sharedStart]
  | cons x a ih =>
    cases b with
    | nil => simp [sharedStart]
    | cons y b =>
      rw [sharedStart]
      split
      · rename_i heq
        exact (List.cons_prefix_cons.mpr ⟨heq, ih b⟩)
      · exact List.nil_prefix

/-- Nothing longer is shared. -/
lemma prefix_sharedStart {a b start : List α} (ha : start <+: a) (hb : start <+: b) :
    start <+: sharedStart a b := by
  induction start generalizing a b with
  | nil => exact List.nil_prefix
  | cons x start ih =>
    obtain ⟨a', rfl⟩ := ha
    obtain ⟨b', rfl⟩ := hb
    rw [List.cons_append, List.cons_append, sharedStart, if_pos rfl]
    exact List.cons_prefix_cons.mpr ⟨rfl, ih (List.prefix_append _ _) (List.prefix_append _ _)⟩

end Shared

end HeaderRecovery.Path
