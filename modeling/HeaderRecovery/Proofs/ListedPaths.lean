import HeaderRecovery.Dwarf.FileName
import HeaderRecovery.Proofs.NormalPaths

/-!
Paths of the files in a line table. However a file is listed, its path is one resolution of the
text that leads from the directory of the compilation over the listed one to the name. Tables of
version 4 and 5 that list the same files agree on all of them except those in entry 0: version 5
lists the directory of the compilation there, and a relative one is taken as seen from itself.
-/
namespace HeaderRecovery

namespace Path

variable {a b : String}

/-- The text that leads to a path from a base, nothing of it resolved. -/
def beneath (base path : String) : String :=
  if path = "" then base
  else if isAbsolute path || base = "" then path
  else base ++ "/" ++ path

lemma beneath_of_relative (ha : a ≠ "") (hb : b ≠ "") (habs : isAbsolute b = false) :
    beneath a b = a ++ "/" ++ b := by
  simp [beneath, ha, hb, habs]

/-- A path followed further from one that is resolved. -/
def Resolved.follow (p : Resolved) (path : String) : Resolved :=
  { p with names := ((pieces (slashed path)).foldl (step p.absolute) p.names.reverse).reverse }

lemma slashed_append (a b : String) : slashed (a ++ "/" ++ b) = slashed a ++ "/" ++ slashed b := by
  apply String.toList_injective
  simp [slashed]

lemma pieces_append (a b : String) : pieces (a ++ "/" ++ b) = pieces a ++ pieces b := by
  simp [pieces, List.splitOn_append_cons_self]

lemma isAbsolute_append (ha : a ≠ "") (b : String) : isAbsolute (a ++ b) = isAbsolute a := by
  obtain ⟨c, cs, hcs⟩ :=
    List.exists_cons_of_ne_nil fun heq => ha (String.toList_eq_nil_iff.mp heq)
  simp [isAbsolute, hcs]

lemma slashed_ne_empty (ha : a ≠ "") : slashed a ≠ "" := by
  intro heq
  have hnil := congrArg String.toList heq
  rw [slashed, String.toList_ofList, String.toList_empty, List.map_eq_nil_iff] at hnil
  exact ha (String.toList_eq_nil_iff.mp hnil)

lemma append_separator_ne_empty (a b : String) : a ++ "/" ++ b ≠ "" := by
  intro heq
  have hnil := congrArg String.toList heq
  simp at hnil

/-- What stands behind a separator is followed from what stands before it. -/
lemma resolve_append (ha : a ≠ "") (b : String) :
    resolve (a ++ "/" ++ b) = (resolve a).follow b := by
  have habs : isAbsolute (slashed a ++ "/" ++ slashed b) = isAbsolute (slashed a) := by
    rw [String.append_assoc, isAbsolute_append (slashed_ne_empty ha)]
  simp only [resolve, Resolved.follow, slashed_append, habs, pieces_append, List.foldl_append,
    List.reverse_reverse]

lemma slashed_slash (a : String) : slashed ("/" ++ a) = "/" ++ slashed a := by
  apply String.toList_injective
  simp [slashed]

/-- A separator more makes no difference. -/
lemma resolve_separator (a b : String) :
    resolve (a ++ "/" ++ "/" ++ b) = resolve (a ++ "/" ++ b) := by
  have hblank (absolute : Bool) (names : List String) : step absolute names "" = names := rfl
  have hassoc : a ++ "/" ++ "/" ++ b = a ++ "/" ++ ("/" ++ b) := String.append_assoc
  rw [hassoc]
  by_cases ha : a = ""
  · subst ha
    simp only [resolve, String.empty_append, slashed_slash, isAbsolute_slash, pieces_slash,
      List.foldl_cons, hblank]
  · simp only [resolve_append ha, Resolved.follow, slashed_slash, pieces_slash, List.foldl_cons,
      hblank]

lemma resolve_dropTrailingSeparators (a b : String) :
    resolve (dropTrailingSeparators a ++ "/" ++ b) = resolve (a ++ "/" ++ b) := by
  obtain ⟨cs, rfl⟩ : ∃ cs, a = String.ofList cs := ⟨a.toList, String.ofList_toList.symm⟩
  induction cs using List.reverseRecOn with
  | nil => rfl
  | append_singleton cs c ih =>
    by_cases hc : c = '/'
    · subst hc
      have hdrop : dropTrailingSeparators (String.ofList (cs ++ ['/'])) =
          dropTrailingSeparators (String.ofList cs) := by simp [dropTrailingSeparators]
      have hcs : String.ofList (cs ++ ['/']) = String.ofList cs ++ "/" := by
        apply String.toList_injective
        simp
      rw [hdrop, hcs, resolve_separator, ih]
    · have hdrop : dropTrailingSeparators (String.ofList (cs ++ [c])) =
          String.ofList (cs ++ [c]) := by simp [dropTrailingSeparators, hc]
      rw [hdrop]

lemma join_eq_normalize (ha : a ≠ "") (hb : isAbsolute b = false) :
    join a b = normalize (a ++ "/" ++ b) := by
  rw [join, hb, Bool.false_or, if_neg (by simpa using ha),
    normalize_of_ne (append_separator_ne_empty _ b),
    normalize_of_ne (append_separator_ne_empty a b), resolve_dropTrailingSeparators]

/-- A directory may be resolved before a path is followed from it, or not. -/
lemma normalize_append_normalize (ha : a ≠ "") (b : String) :
    normalize (normalize a ++ "/" ++ b) = normalize (a ++ "/" ++ b) := by
  have hne := mt normalize_eq_empty_iff.mp ha
  rw [normalize_of_ne (append_separator_ne_empty _ b),
    normalize_of_ne (append_separator_ne_empty a b), resolve_append hne, resolve_append ha,
    normalize_of_ne ha, Resolved.resolve_render (resolve_canonical a)]

lemma normalize_beneath (a f : String) :
    normalize (beneath (normalize a) f) = normalize (beneath a f) := by
  by_cases ha : a = ""
  · rw [ha, normalize_empty]
  · by_cases hf : f = ""
    · subst hf
      exact normalize_normalize a
    · cases habs : isAbsolute f with
      | true => simp [beneath, hf, habs]
      | false =>
        rw [beneath_of_relative (mt normalize_eq_empty_iff.mp ha) hf habs, beneath_of_relative ha hf habs,
          normalize_append_normalize ha]

lemma follow_name (p : Resolved) : p.follow "x" = { p with names := p.names ++ ["x"] } := by
  have hpieces : pieces (slashed "x") = ["x"] := by decide
  simp [Resolved.follow, hpieces, step]

/-- Directories in which the same name is the same file are the same. -/
lemma normalize_inj_of_append (ha : a ≠ "") (hb : b ≠ "")
    (h : normalize (a ++ "/" ++ "x") = normalize (b ++ "/" ++ "x")) :
    normalize a = normalize b := by
  rw [normalize_of_ne (append_separator_ne_empty a "x"),
    normalize_of_ne (append_separator_ne_empty b "x")] at h
  have hresolved := congrArg resolve h
  rw [Resolved.resolve_render (resolve_canonical _), Resolved.resolve_render (resolve_canonical _),
    resolve_append ha, resolve_append hb, follow_name, follow_name, Resolved.mk.injEq] at hresolved
  obtain ⟨habs, hnames⟩ := hresolved
  have heq : resolve a = resolve b := by
    cases hra : resolve a
    cases hrb : resolve b
    simp_all
  rw [normalize_of_ne ha, normalize_of_ne hb, heq]

end Path

namespace Dwarf.FileName
open HeaderRecovery.Path

variable {c f : String}

/-- The directory that a table lists under an index. Where it lists none, that of the compilation
is meant, which an empty text stands for. -/
def listedAt (version : Nat) (directories : List String) (index : Nat) : String :=
  (if version ≥ 5 then directories[index]?
    else if index = 0 then none else directories[index - 1]?).getD ""

/-- A listed directory is the text that leads to it, which may have been resolved. -/
lemma directory_cases (hc : Text.trimmed c = c) (listed : String) :
    directory c listed = beneath c listed ∨
      directory c listed = normalize (beneath c listed) := by
  unfold directory beneath
  rw [hc]
  dsimp only
  split
  · exact Or.inl rfl
  · split
    · exact Or.inl rfl
    · rename_i hrelative
      obtain ⟨habs, hne⟩ : isAbsolute listed = false ∧ c ≠ "" := by simpa using hrelative
      exact Or.inr (join_eq_normalize hne habs)

lemma directoryAt_eq (hc : Text.trimmed c = c) (version : Nat) (D : List String) (i : Nat) :
    directoryAt version c D i = directory c (listedAt version D i) := by
  unfold directoryAt listedAt
  dsimp only
  split
  · rename_i listed h
    rw [h, Option.getD_some]
  · rename_i h
    rw [h, Option.getD_none, directory, if_pos rfl, hc]

lemma resolve_eq_beneath (version : Nat) (c : String) (D : List String) (i : Nat) (hf : f ≠ "") :
    resolve version c D i f = normalize (beneath (directoryAt version c D i) f) := by
  unfold resolve
  rw [if_neg hf]
  dsimp only
  cases habs : isAbsolute f with
  | true => simp [beneath, hf, habs]
  | false =>
    rw [if_neg Bool.false_ne_true]
    split
    · rename_i hnone
      simp [beneath, hf, hnone]
    · rename_i hsome
      rw [join_eq_normalize hsome habs, beneath_of_relative hsome hf habs]

/-- The path of a file is resolved in one go from the text that leads to it. -/
lemma resolve_eq_normalize (hc : Text.trimmed c = c) (version : Nat) (D : List String) (i : Nat)
    (hf : f ≠ "") :
    resolve version c D i f = normalize (beneath (beneath c (listedAt version D i)) f) := by
  rw [resolve_eq_beneath version c D i hf, directoryAt_eq hc]
  rcases directory_cases hc (listedAt version D i) with hdir | hdir
  · rw [hdir]
  · rw [hdir, normalize_beneath]

/-- Where entry 0 of version 5 names the same directory as index 0 of version 4. -/
lemma beneath_self_iff (c : String) :
    (∀ f ≠ "", normalize (beneath c f) = normalize (beneath (beneath c c) f)) ↔
      c = "" ∨ isAbsolute c ∨ join c c = normalize c := by
  by_cases hc : c = ""
  · subst hc
    exact iff_of_true (fun f _ => rfl) (Or.inl rfl)
  · cases habs : isAbsolute c with
    | true =>
      have hsame : beneath c c = c := by simp [beneath, hc, habs]
      exact iff_of_true (fun f _ => by rw [hsame]) (Or.inr (Or.inl rfl))
    | false =>
      rw [join_eq_normalize hc habs, beneath_of_relative hc hc habs]
      have htwice : c ++ "/" ++ c ≠ "" := append_separator_ne_empty c c
      constructor
      · intro h
        have hx := h "x" (by decide)
        rw [beneath_of_relative hc (by decide) (by decide),
          beneath_of_relative htwice (by decide) (by decide)] at hx
        exact Or.inr (Or.inr (normalize_inj_of_append hc htwice hx).symm)
      · rintro (hempty | htrue | hsame) f -
        · exact (hc hempty).elim
        · cases htrue
        · rw [← normalize_beneath c f, ← normalize_beneath (c ++ "/" ++ c) f, hsame]

/-- In version 4 the path of a file is the resolution of its name against the listed directory,
itself resolved against that of the compilation. A table of version 5 for the same directories
gives all files the same paths, unless the index is that of the directory of the compilation and
this is a relative path that leads elsewhere when it is followed from itself. -/
theorem resolve_versions (hc : Text.trimmed c = c) (D : List String) (i : Nat) :
    (∀ f ≠ "", resolve 4 c D i f =
      normalize (beneath (beneath c (if i = 0 then "" else D[i - 1]?.getD "")) f)) ∧
    ((∀ f ≠ "", resolve 4 c D i f = resolve 5 c (c :: D) i f) ↔
      (i = 0 → c = "" ∨ isAbsolute c ∨ join c c = normalize c)) := by
  have hlisted : listedAt 4 D i = if i = 0 then "" else D[i - 1]?.getD "" := by
    by_cases hi : i = 0 <;> simp [listedAt, hi]
  refine ⟨fun f hf => by rw [resolve_eq_normalize hc 4 D i hf, hlisted], ?_⟩
  cases i with
  | succ i =>
    have hsame : listedAt 5 (c :: D) (i + 1) = listedAt 4 D (i + 1) := by simp [listedAt]
    refine iff_of_true (fun f hf => ?_) fun hi => by cases hi
    rw [resolve_eq_normalize hc 4 D _ hf, resolve_eq_normalize hc 5 _ _ hf, hsame]
  | zero =>
    have hfour : ∀ f ≠ "", resolve 4 c D 0 f = normalize (beneath c f) :=
      fun f hf => resolve_eq_normalize hc 4 D 0 hf
    have hfive : ∀ f ≠ "", resolve 5 c (c :: D) 0 f = normalize (beneath (beneath c c) f) :=
      fun f hf => resolve_eq_normalize hc 5 (c :: D) 0 hf
    have hagree : (∀ f ≠ "", resolve 4 c D 0 f = resolve 5 c (c :: D) 0 f) ↔
        ∀ f ≠ "", normalize (beneath c f) = normalize (beneath (beneath c c) f) :=
      forall₂_congr fun f hf => by rw [hfour f hf, hfive f hf]
    rw [hagree, beneath_self_iff]
    exact ⟨fun h _ => h, fun h => h rfl⟩

/-- In an absolute directory the two versions agree, here on the file of entry 0 and on one that
is reached through a listed directory. -/
theorem absoluteDirectory_versions :
    resolve 4 "/src" ["lib"] 0 "a.h" = resolve 5 "/src" ["/src", "lib"] 0 "a.h" ∧
    resolve 4 "/src" ["lib"] 1 "../b.h" = normalize "/src/lib/../b.h" := by
  have htrimmed : Text.trimmed "/src" = "/src" := by decide
  constructor
  · exact ((resolve_versions htrimmed ["lib"] 0).2.mpr fun _ => Or.inr (Or.inl (by decide))) "a.h"
      (by decide)
  · exact (resolve_versions htrimmed ["lib"] 1).1 "../b.h" (by decide)

/-- In a relative one they do not: version 5 enters the directory twice. -/
theorem relativeDirectory_entered_twice :
    Text.trimmed "build" = "build" ∧ resolve 4 "build" [] 0 "a.h" = "build/a.h" ∧
      resolve 5 "build" ["build"] 0 "a.h" = "build/build/a.h" := by
  decide

end Dwarf.FileName
end HeaderRecovery
