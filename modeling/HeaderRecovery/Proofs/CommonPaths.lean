import HeaderRecovery.Proofs.NormalPaths

/-!
What two paths have in common. A path is the list of steps that it takes, the one to the root
included; the common path takes the longest common start of two such lists. It is their greatest
lower bound among normal paths, with the empty path at the bottom, so it does not depend on the
order or grouping in which several paths are put together.
-/
namespace HeaderRecovery.Path

variable {path left right : String}

/-- The steps that a path takes, the first of an absolute one to the root. -/
def components (path : String) : List String :=
  if isAbsolute path then "/" :: segments path else segments path

/-- The path that takes the given steps. -/
def ofComponents : List String → String
  | "/" :: rest => "/" ++ "/".intercalate rest
  | steps => "/".intercalate steps

lemma isSegment_of_mem {s : String} (h : s ∈ segments path) : IsSegment s := by
  obtain ⟨hs, hne⟩ := List.mem_filter.mp h
  obtain ⟨part, hpart, rfl⟩ := List.mem_map.mp hs
  exact ⟨by simpa using hne, by simpa using (mem_splitOn hpart).1⟩

lemma IsSegment.ne_root {s : String} (h : IsSegment s) : s ≠ "/" := by
  rintro rfl
  exact h.slash (by decide)

lemma ofComponents_segments {steps : List String} (h : ∀ s ∈ steps, IsSegment s) :
    ofComponents steps = "/".intercalate steps := by
  unfold ofComponents
  split
  · exact ((h "/" List.mem_cons_self).ne_root rfl).elim
  · rfl

lemma components_root (path : String) : components ("/" ++ path) = "/" :: segments path := by
  rw [components, isAbsolute_slash, if_pos rfl, segments_slash]

lemma components_intercalate {steps : List String} (h : ∀ s ∈ steps, IsSegment s) :
    components ("/".intercalate steps) = steps := by
  rw [components, isAbsolute_intercalate h, segments_intercalate h]
  simp

/-- An absolute path and a relative one take no step together. -/
lemma sharedStart_root (path : String) (rest : List String) :
    sharedStart ("/" :: rest) (segments path) = [] ∧
      sharedStart (segments path) ("/" :: rest) = [] := by
  cases h : segments path with
  | nil => exact ⟨rfl, rfl⟩
  | cons s steps =>
    have hs : s ≠ "/" := (isSegment_of_mem (h ▸ List.mem_cons_self)).ne_root
    simp [sharedStart, hs, Ne.symm hs]

/-- What two paths share are their common first steps. -/
lemma components_common (left right : String) :
    components (common left right) =
      sharedStart (components (normalize left)) (components (normalize right)) := by
  have hnone : components "" = [] := by decide
  generalize hleft : normalize left = l
  generalize hright : normalize right = r
  have hshared : ∀ s ∈ sharedStart (segments l) (segments r), IsSegment s := fun s hs =>
    isSegment_of_mem ((sharedStart_left _ _).subset hs)
  simp only [common, hleft, hright]
  split
  · rename_i hnot
    rw [hnone]
    rcases hnot with rfl | rfl | habs
    · rfl
    · rw [hnone]
      cases components l <;> rfl
    · cases hl : isAbsolute l <;> cases hr : isAbsolute r <;>
        simp_all [components, sharedStart_root]
  · rename_i hsame
    simp only [not_or, Decidable.not_not] at hsame
    cases hl : isAbsolute l with
    | true =>
      have hr : isAbsolute r = true := hsame.2.2 ▸ hl
      rw [if_pos rfl, components_root, segments_intercalate hshared]
      simp [components, hl, hr, sharedStart]
    | false =>
      have hr : isAbsolute r = false := hsame.2.2 ▸ hl
      rw [if_neg Bool.false_ne_true, components_intercalate hshared]
      simp [components, hl, hr]

lemma Resolved.segments_render {p : Resolved} (h : Canonical p.absolute p.names) :
    segments p.render = if p.absolute = false ∧ p.names = [] then ["."] else p.names := by
  unfold render
  split
  · rename_i habs
    simp [segments_slash, segments_intercalate h.segment, habs]
  · rename_i habs
    split
    · rename_i hnil
      simp only [habs, hnil]
      decide
    · rename_i hne
      simp [segments_intercalate h.segment, hne]

/-- What two paths share is a normal path. -/
lemma normalize_common (left right : String) :
    normalize (common left right) = common left right := by
  unfold common
  dsimp only
  split
  · exact normalize_empty
  · rename_i hsame
    simp only [not_or, Decidable.not_not] at hsame
    obtain ⟨hleft, -, habs⟩ := hsame
    have hne : left ≠ "" := fun heq => hleft (by rw [heq, normalize_empty])
    have hcanonical := resolve_canonical left
    have hrender := normalize_of_ne hne
    have hsegments := Resolved.segments_render hcanonical
    generalize hshared :
      sharedStart (segments (normalize left)) (segments (normalize right)) = shared
    have hfront : shared <+: segments (normalize left) := hshared ▸ sharedStart_left _ _
    rw [isAbsolute_normalize]
    rw [hrender, hsegments] at hfront
    cases hroot : (resolve left).absolute with
    | true =>
      have hnames : shared <+: (resolve left).names := by simpa [hroot] using hfront
      have hresolved : Canonical true shared := (hroot ▸ hcanonical).sublist hnames.sublist
      exact normalize_render (p := ⟨true, shared⟩) hresolved
    | false =>
      cases hempty : shared with
      | nil => exact normalize_empty
      | cons s rest =>
        rw [hempty] at hfront
        by_cases hnil : (resolve left).names = []
        · have hdot : s :: rest <+: ["."] := by simpa [hroot, hnil] using hfront
          obtain ⟨rfl, hrest⟩ := List.cons_prefix_cons.mp hdot
          rw [List.prefix_nil.mp hrest]
          decide
        · have hnames : s :: rest <+: (resolve left).names := by simpa [hroot, hnil] using hfront
          have hresolved : Canonical false (s :: rest) :=
            (hroot ▸ hcanonical).sublist hnames.sublist
          simpa [Resolved.render] using normalize_render (p := ⟨false, s :: rest⟩) hresolved

/-- A normal path is made of its steps. -/
lemma ofComponents_components (h : normalize path = path) :
    ofComponents (components path) = path := by
  by_cases hne : path = ""
  · subst hne
    decide
  · have hcanonical := resolve_canonical path
    have hrender : path = (resolve path).render := h.symm.trans (normalize_of_ne hne)
    have hsegments := Resolved.segments_render hcanonical
    have habs := Resolved.isAbsolute_render hcanonical
    rw [← hrender] at hsegments habs
    rw [components, habs, hsegments]
    cases hroot : (resolve path).absolute with
    | true =>
      conv_rhs => rw [hrender, Resolved.render, hroot]
      rfl
    | false =>
      conv_rhs => rw [hrender, Resolved.render, hroot]
      by_cases hnil : (resolve path).names = []
      · simp only [hnil]
        decide
      · simp [hnil, ofComponents_segments hcanonical.segment]

lemma components_inj (hleft : normalize left = left) (hright : normalize right = right)
    (h : components left = components right) : left = right := by
  rw [← ofComponents_components hleft, h, ofComponents_components hright]

lemma components_eq_nil_iff (h : normalize path = path) : components path = [] ↔ path = "" := by
  constructor
  · intro hnil
    have hempty : components "" = [] := by decide
    exact components_inj h normalize_empty (hnil.trans hempty.symm)
  · rintro rfl
    decide

/-! The greatest lower bound -/

/-- A start of what is shared is one of both. -/
lemma prefix_sharedStart_iff {α : Type} [DecidableEq α] {start a b : List α} :
    start <+: sharedStart a b ↔ start <+: a ∧ start <+: b :=
  ⟨fun h => ⟨h.trans (sharedStart_left a b), h.trans (sharedStart_right a b)⟩,
    fun h => prefix_sharedStart h.1 h.2⟩

lemma prefix_common_iff {start : List String} :
    start <+: components (common left right) ↔
      start <+: components (normalize left) ∧ start <+: components (normalize right) := by
  rw [components_common, prefix_sharedStart_iff]

/-- Normal paths with the same starts are the same. -/
lemma eq_of_starts (hleft : normalize left = left) (hright : normalize right = right)
    (h : ∀ start, start <+: components left ↔ start <+: components right) : left = right := by
  have hle := (h _).mp (List.prefix_refl _)
  have hge := (h _).mpr (List.prefix_refl _)
  exact components_inj hleft hright (hle.eq_of_length_le hge.length_le)

lemma common_self (path : String) : common path path = normalize path := by
  refine eq_of_starts (normalize_common _ _) (normalize_normalize _) fun start => ?_
  rw [prefix_common_iff, and_self]

lemma common_comm (left right : String) : common left right = common right left := by
  refine eq_of_starts (normalize_common _ _) (normalize_common _ _) fun start => ?_
  rw [prefix_common_iff, prefix_common_iff, and_comm]

lemma common_assoc (a b c : String) : common (common a b) c = common a (common b c) := by
  refine eq_of_starts (normalize_common _ _) (normalize_common _ _) fun start => ?_
  rw [prefix_common_iff, prefix_common_iff, normalize_common, normalize_common, prefix_common_iff,
    prefix_common_iff, and_assoc]

/-- Behind the step to the root, which only an absolute path takes, come its stretches. -/
lemma prefix_segments_iff {start : List String} :
    start <+: segments path ↔
      (if isAbsolute path then "/" :: start else start) <+: components path := by
  unfold components
  split
  · simp
  · rfl

lemma ne_root_of_prefix {first : String} {rest : List String}
    (h : first :: rest <+: segments path) : first ≠ "/" :=
  (isSegment_of_mem (h.subset List.mem_cons_self)).ne_root

/-- Two paths take a first step together if they start at the same place, and share a stretch if
that is not the root. -/
lemma exists_first_iff :
    (∃ first, [first] <+: components left ∧ [first] <+: components right) ↔
      isAbsolute left = isAbsolute right ∧ (isAbsolute left = true ∨
        ∃ first, [first] <+: segments left ∧ [first] <+: segments right) := by
  unfold components
  cases isAbsolute left <;> cases isAbsolute right
  · simp
  · refine iff_of_false ?_ (by simp)
    rintro ⟨first, hleft, hright⟩
    exact ne_root_of_prefix hleft (List.cons_prefix_cons.mp hright).1
  · refine iff_of_false ?_ (by simp)
    rintro ⟨first, hleft, hright⟩
    exact ne_root_of_prefix hright (List.cons_prefix_cons.mp hleft).1
  · exact iff_of_true ⟨"/", by simp, by simp⟩ ⟨rfl, Or.inl rfl⟩

/-- One path is on the way to another if it starts at the same place and its stretches come
first. -/
lemma components_prefix_iff (hne : components left ≠ []) :
    components left <+: components right ↔
      isAbsolute left = isAbsolute right ∧ segments left <+: segments right := by
  obtain ⟨first, rest, hfirst⟩ := List.exists_cons_of_ne_nil hne
  have hlead : [first] <+: components left := ⟨rest, by rw [hfirst, List.singleton_append]⟩
  constructor
  · intro h
    have habs := (exists_first_iff.mp ⟨first, hlead, hlead.trans h⟩).1
    refine ⟨habs, prefix_segments_iff.mpr ?_⟩
    rwa [← habs]
  · rintro ⟨habs, h⟩
    rw [prefix_segments_iff, ← habs] at h
    exact h

/-- Paths have nothing in common if they do not even take the first step together. -/
lemma common_eq_empty_iff :
    common left right = "" ↔ ¬ ∃ first, [first] <+: components (normalize left) ∧
      [first] <+: components (normalize right) := by
  have hnone : ∀ steps : List String, steps = [] ↔ ¬ ∃ first, [first] <+: steps := by
    intro steps
    cases steps <;> simp [List.cons_prefix_cons]
  rw [← components_eq_nil_iff (normalize_common left right), hnone]
  simp only [prefix_common_iff]

/-- The common path is the greatest lower bound of two paths: normal, on the way to both, and all
that both share. It is empty only if one of them is, if one of them alone is absolute, or if both
are relative and do not even share a first component. -/
theorem common_greatest (a b : String) :
    normalize (common a b) = common a b ∧
    (common a b ≠ "" →
      isAbsolute (common a b) = isAbsolute (normalize a) ∧
      isAbsolute (common a b) = isAbsolute (normalize b) ∧
      segments (common a b) <+: segments (normalize a) ∧
      segments (common a b) <+: segments (normalize b) ∧
      ∀ start, start <+: segments (normalize a) → start <+: segments (normalize b) →
        start <+: segments (common a b)) ∧
    (common a b = "" ↔ a = "" ∨ b = "" ∨ isAbsolute (normalize a) ≠ isAbsolute (normalize b) ∨
      (isAbsolute (normalize a) = false ∧ isAbsolute (normalize b) = false ∧
        ¬ ∃ first, [first] <+: segments (normalize a) ∧ [first] <+: segments (normalize b))) ∧
    common a b = common b a ∧
    (∀ c, common (common a b) c = common a (common b c)) ∧
    common a a = normalize a := by
  refine ⟨normalize_common a b, ?_, ?_, common_comm a b, common_assoc a b, common_self a⟩
  · intro hne
    have hsteps := mt (components_eq_nil_iff (normalize_common a b)).mp hne
    obtain ⟨hleft, hright⟩ := prefix_common_iff.mp (List.prefix_refl (components (common a b)))
    obtain ⟨habsl, hleft⟩ := (components_prefix_iff hsteps).mp hleft
    obtain ⟨habsr, hright⟩ := (components_prefix_iff hsteps).mp hright
    refine ⟨habsl, habsr, hleft, hright, fun start hstartl hstartr => ?_⟩
    rw [prefix_segments_iff, ← habsl] at hstartl
    rw [prefix_segments_iff, ← habsr] at hstartr
    exact prefix_segments_iff.mpr (prefix_common_iff.mpr ⟨hstartl, hstartr⟩)
  · rw [common_eq_empty_iff, exists_first_iff]
    -- An empty path is relative and has no stretches.
    have hempty : isAbsolute "" = false ∧ segments "" = [] := by decide
    by_cases ha : a = ""
    · subst ha
      simp [hempty]
    by_cases hb : b = ""
    · subst hb
      simp [hempty]
    simp only [ha, hb, false_or]
    cases isAbsolute (normalize a) <;> cases isAbsolute (normalize b) <;> simp

/-- The first steps of a path are the same when it is written with detours. -/
example : common "/src/./lib\\a.c" "//src/x/../lib" = "/src/lib" := by decide +kernel

end HeaderRecovery.Path
