import HeaderRecovery.Proofs.CommonPaths
import HeaderRecovery.Proofs.RegistryInvariant
import HeaderRecovery.Proofs.Visits

/-!
The build root as the deepest directory that holds the directories of all units. An empty root
stands both for no unit at all and for units that share nothing; so the root that is found is the
common one as long as no unit with a directory comes after units that share nothing, and only so
long. Units that all share a first step have one root, in whichever order they come.
-/
namespace HeaderRecovery

namespace Path

/-- The deepest path that lies on the way to all of the given ones. -/
structure IsCommonRoot (dirs : List String) (root : String) : Prop where
  normal : normalize root = root
  above : ∀ dir ∈ dirs, components root <+: components dir
  deepest : ∀ start, (∀ dir ∈ dirs, start <+: components dir) → start <+: components root

namespace IsCommonRoot

variable {dirs : List String} {root dir : String}

/-- There is one, and it does not depend on the order. -/
lemma unique {dirs' : List String} {root' : String} (h : IsCommonRoot dirs root)
    (h' : IsCommonRoot dirs' root') (hsame : ∀ d, d ∈ dirs ↔ d ∈ dirs') : root = root' := by
  refine components_inj h.normal h'.normal ?_
  have hle := h'.deepest _ fun d hd => h.above d ((hsame d).mpr hd)
  have hge := h.deepest _ fun d hd => h'.above d ((hsame d).mp hd)
  exact hle.eq_of_length_le hge.length_le

lemma singleton (h : normalize dir = dir) : IsCommonRoot [dir] dir where
  normal := h
  above _ hd := List.mem_singleton.mp hd ▸ List.prefix_refl _
  deepest _ hstart := hstart dir List.mem_cons_self

/-- The root narrows with every directory. -/
lemma concat (h : IsCommonRoot dirs root) (hdir : normalize dir = dir) :
    IsCommonRoot (dirs ++ [dir]) (common root dir) where
  normal := normalize_common _ _
  above d hd := by
    rw [components_common, h.normal, hdir]
    rcases List.mem_append.mp hd with hd | hd
    · exact (sharedStart_left _ _).trans (h.above d hd)
    · rw [List.mem_singleton.mp hd]
      exact sharedStart_right _ _
  deepest start hstart := by
    rw [components_common, h.normal, hdir]
    exact prefix_sharedStart (h.deepest start fun d hd => hstart d (List.mem_append_left _ hd))
      (hstart dir (by simp))

/-- No root at all is the root of directories that do not even share the first step. -/
lemma eq_empty_iff (h : IsCommonRoot dirs root) :
    root = "" ↔ ¬ ∃ first, ∀ dir ∈ dirs, [first] <+: components dir := by
  rw [← components_eq_nil_iff h.normal]
  constructor
  · rintro hnil ⟨first, hfirst⟩
    have hfront := h.deepest _ hfirst
    rw [hnil] at hfront
    simp at hfront
  · intro hnone
    cases hcomponents : components root with
    | nil => rfl
    | cons first rest =>
      refine (hnone ⟨first, fun dir hdir => ?_⟩).elim
      exact List.IsPrefix.trans ⟨rest, by simp [hcomponents]⟩ (h.above dir hdir)

end IsCommonRoot
end Path

namespace Registry
open Debug HeaderRecovery.Path

variable {t : EntryTree} {r r' : Registry} {dirs : List String} {dir : String}

/-! The root over a list of directories -/

/-- The step: the root stays the common one, or starts anew with a directory that comes after
directories that share nothing. -/
lemma narrow_root {root : String} (h : IsCommonRoot dirs root)
    (hdir : normalize dir = dir) :
    IsCommonRoot (dirs ++ [dir]) (narrow root dir) ↔ (root = "" → dir = "") := by
  by_cases hroot : root = ""
  · subst hroot
    have hshare := h.eq_empty_iff.mp rfl
    rw [narrow, if_pos rfl, common_self, hdir]
    constructor
    · intro hcommon _
      refine hcommon.eq_empty_iff.mpr ?_
      rintro ⟨first, hfirst⟩
      exact hshare ⟨first, fun d hd => hfirst d (List.mem_append_left _ hd)⟩
    · intro hempty
      have hcommon := h.concat hdir
      rw [hempty rfl] at hcommon ⊢
      exact hcommon
  · rw [narrow, if_neg hroot]
    exact iff_of_true (h.concat hdir) fun heq => (hroot heq).elim

lemma narrow_start (h : normalize dir = dir) : narrow "" dir = dir := by
  rw [narrow, if_pos rfl, common_self, h]

/-- From the step, by induction, the run over the directories. -/
lemma foldl_narrow_root (hdirs : ∀ dir ∈ dirs, normalize dir = dir) :
    (∀ before, before <+: dirs → before ≠ [] → IsCommonRoot before (before.foldl narrow "")) ↔
      ∀ before dir, before ++ [dir] <+: dirs → before ≠ [] → dir ≠ "" →
        ∃ first, ∀ d ∈ before, [first] <+: components d := by
  constructor
  · intro h before dir hfront hne hdir
    have hroot := h before ((List.prefix_append _ _).trans hfront) hne
    have hnext := h (before ++ [dir]) hfront (by simp)
    rw [List.foldl_append, List.foldl_cons, List.foldl_nil, narrow_root hroot
      (hdirs dir (hfront.subset (by simp)))] at hnext
    by_contra hnone
    exact hdir (hnext (hroot.eq_empty_iff.mpr hnone))
  · intro h before hfront hne
    induction before using List.reverseRecOn with
    | nil => exact (hne rfl).elim
    | append_singleton before dir ih =>
      have hdir : normalize dir = dir := hdirs dir (hfront.subset (by simp))
      rw [List.foldl_append, List.foldl_cons, List.foldl_nil]
      -- Only for the first directory does the empty root stand for no directory at all.
      by_cases hnil : before = []
      · subst hnil
        rw [List.foldl_nil, narrow_start hdir]
        exact .singleton hdir
      · have hroot := ih ((List.prefix_append _ _).trans hfront) hnil
        refine (narrow_root hroot hdir).mpr fun hempty => ?_
        by_contra hdirectory
        exact hroot.eq_empty_iff.mp hempty (h before dir hfront hnil hdirectory)

/-! The root of a registry -/

/-- The directory that a unit adds to the build root, if the unit is collected. -/
def directory? (t : EntryTree) (root : NodeId) : Option String :=
  if t.isUnitRoot root then
    match (t.unitOf root).name, (t.unitOf root).directory with
    | some name, some directory => some (unitDirectory name directory)
    | _, _ => none
  else none

def directories (t : EntryTree) (roots : List NodeId) : List String :=
  roots.filterMap (directory? t)

lemma directory?_of_collected {root : NodeId} {name directory : String} (hroot : t.isUnitRoot root)
    (hname : (t.unitOf root).name = some name)
    (hdirectory : (t.unitOf root).directory = some directory) :
    directory? t root = some (unitDirectory name directory) := by
  rw [directory?, if_pos hroot, hname, hdirectory]

lemma directory?_of_not_collected {root : NodeId} (h : ¬ Collected t root) :
    directory? t root = none := by
  unfold directory?
  split
  · rename_i hroot
    split
    · rename_i name directory hname hdirectory
      exact (h ⟨hroot, by simp [hname], by simp [hdirectory]⟩).elim
    · rfl
  · rfl

lemma normalize_of_directories {roots : List NodeId} (h : dir ∈ directories t roots) :
    normalize dir = dir := by
  obtain ⟨root, -, hroot⟩ := List.mem_filterMap.mp h
  unfold directory? at hroot
  split at hroot
  · split at hroot
    · cases hroot
      exact normalize_common _ _
    · cases hroot
  · cases hroot

lemma getOrCreate_baseDir {node : NodeId} {scopes : List Scope} {l? : Option Location}
    (h : r.getOrCreate t node scopes = some (r', l?)) : r'.baseDir = r.baseDir := by
  rcases getOrCreate_cases h with ⟨l, -, -, hmerge⟩ | ⟨-, ⟨-, rfl, -⟩ | h⟩
  · rw [mergeReading_files hmerge]
  · rfl
  · obtain ⟨kind, file, line, d, -, -, ⟨-, rfl, -⟩ | ⟨-, r₁, hstore, rfl⟩⟩ := h
    · rfl
    · have hstored : r₁.baseDir = r.baseDir := by rw [store_files hstore]
      cases l? <;> exact hstored

lemma visit_baseDir {scopes : List Scope} {child : NodeId}
    (h : visit t scopes r child = some r') : r'.baseDir = r.baseDir := by
  obtain ⟨r₁, l?, hget, ⟨-, rfl⟩ | ⟨l, -, ⟨-, rfl⟩ | ⟨-, hmerge⟩⟩⟩ := visit_cases h
  · exact getOrCreate_baseDir hget
  · exact getOrCreate_baseDir hget
  · have hmerged : r'.baseDir = r₁.baseDir := by rw [mergeReading_files hmerge]
    exact hmerged.trans (getOrCreate_baseDir hget)

lemma visits_baseDir {vs : List (List Scope × NodeId)}
    (h : vs.foldlM (fun r v => visit t v.1 r v.2) r = some r') : r'.baseDir = r.baseDir :=
  foldlM_chain (R := fun r r' => r'.baseDir = r.baseDir) (fun _ => rfl)
    (fun hfirst hrest => hrest.trans hfirst) visit_baseDir h

lemma update_baseDir {root : NodeId} (h : r.update t root = some r') :
    r'.baseDir = (directory? t root).elim r.baseDir (narrow r.baseDir) := by
  by_cases hcollected : Collected t root
  · obtain ⟨name, hname⟩ := Option.isSome_iff_exists.mp hcollected.name
    obtain ⟨directory, hdirectory⟩ := Option.isSome_iff_exists.mp hcollected.directory
    rw [update_eq_foldlM hcollected.isRoot hname hdirectory] at h
    rw [directory?_of_collected hcollected.isRoot hname hdirectory, Option.elim_some]
    exact visits_baseDir h
  · rw [update_of_not_collected hcollected, Option.some.injEq] at h
    rw [directory?_of_not_collected hcollected, Option.elim_none, h]

/-- Only the directories of the units count. -/
lemma updateAll_baseDir {roots : List NodeId} (h : r.updateAll t roots = some r') :
    r'.baseDir = (directories t roots).foldl narrow r.baseDir := by
  induction roots generalizing r with
  | nil =>
    cases h
    rfl
  | cons root rest ih =>
    rw [updateAll, List.foldlM_cons] at h
    obtain ⟨r₁, hfirst, hrest⟩ := Option.bind_eq_some_iff.mp h
    rw [ih hrest, update_baseDir hfirst, directories, directories]
    cases hdir : directory? t root with
    | none => rw [List.filterMap_cons_none hdir, Option.elim_none]
    | some dir => rw [List.filterMap_cons_some hdir, Option.elim_some, List.foldl_cons]

/-- What was collected so far, of units that can all be collected. -/
lemma updateAll_prefix {before roots : List NodeId} (hfront : before <+: roots)
    (h : r.updateAll t roots = some r') : ∃ r₁, r.updateAll t before = some r₁ := by
  obtain ⟨after, rfl⟩ := hfront
  rw [updateAll, List.foldlM_append] at h
  obtain ⟨r₁, hbefore, -⟩ := Option.bind_eq_some_iff.mp h
  exact ⟨r₁, hbefore⟩

/-- The build root is the common one at every time if and only if each unit with a directory
comes first or after units that share something. Where all units share something, the order in
which they come does not matter. -/
theorem baseDir_common_iff {options : Options} {roots : List NodeId}
    (h : (empty options).updateAll t roots = some r) :
    ((∀ before, before <+: roots → directories t before ≠ [] →
        ∃ r', (empty options).updateAll t before = some r' ∧
          IsCommonRoot (directories t before) r'.baseDir) ↔
      ∀ before dir, before ++ [dir] <+: directories t roots → before ≠ [] → dir ≠ "" →
        ∃ first, ∀ d ∈ before, [first] <+: components d) ∧
    ((∃ first, ∀ d ∈ directories t roots, [first] <+: components d) →
      ∀ {roots' r'}, roots'.Perm roots → (empty options).updateAll t roots' = some r' →
        r'.baseDir = r.baseDir) := by
  have hnormal : ∀ {roots}, ∀ dir ∈ directories t roots, normalize dir = dir :=
    fun _ hdir => normalize_of_directories hdir
  constructor
  · rw [← foldl_narrow_root hnormal]
    constructor
    · intro hroots dirs hfront hne
      obtain ⟨after, hafter⟩ := hfront
      obtain ⟨before, rest, rfl, rfl, -⟩ := List.filterMap_eq_append_iff.mp hafter.symm
      obtain ⟨r', hr', hcommon⟩ := hroots before (List.prefix_append _ _) hne
      rwa [updateAll_baseDir hr'] at hcommon
    · intro hdirs before hfront hne
      obtain ⟨r', hr'⟩ := updateAll_prefix hfront h
      refine ⟨r', hr', ?_⟩
      rw [updateAll_baseDir hr']
      exact hdirs _ (hfront.filterMap _) hne
  · rintro ⟨first, hfirst⟩ roots' r' hperm hr'
    have hdirs : (directories t roots').Perm (directories t roots) := hperm.filterMap _
    have hcommon : ∀ {roots}, (∀ d ∈ directories t roots, [first] <+: components d) →
        directories t roots ≠ [] →
        IsCommonRoot (directories t roots) ((directories t roots).foldl narrow "") :=
      fun hshared hne => (foldl_narrow_root hnormal).mpr
        (fun before dir hfront _ _ => ⟨first, fun d hd =>
          hshared d (hfront.subset (List.mem_append_left _ hd))⟩) _ (List.prefix_refl _) hne
    rw [updateAll_baseDir h, updateAll_baseDir hr']
    by_cases hnil : directories t roots = []
    · rw [hnil] at hdirs ⊢
      rw [List.Perm.eq_nil hdirs]
    · have hnil' : directories t roots' ≠ [] :=
        fun heq => hnil (List.Perm.eq_nil (heq ▸ hdirs.symm))
      exact (hcommon (fun d hd => hfirst d (hdirs.subset hd)) hnil').unique (hcommon hfirst hnil)
        fun d => hdirs.mem_iff

/-- A tree of empty units with these names and directories. -/
def unitsIn (units : List (String × String)) : EntryTree :=
  (units.foldl (fun b (name, directory) => (b.compileUnit name directory).1) TreeBuilder.start).tree

def sourceTree : EntryTree :=
  unitsIn [("a.cpp", "/work/app"), ("../main.cpp", "/work/app/src"), ("c.cpp", "/work/./lib")]

/-- Three directories of one source tree: the root is theirs after each unit and in each order. -/
theorem sourceTree_common_root :
    ∃ r, (empty {}).updateAll sourceTree [0, 1, 2] = some r ∧
      IsCommonRoot (directories sourceTree [0, 1, 2]) r.baseDir ∧
      ∃ r', (empty {}).updateAll sourceTree [2, 1, 0] = some r' ∧ r'.baseDir = r.baseDir := by
  have hdirs : directories sourceTree [0, 1, 2] = ["/work/app", "/work/app", "/work/lib"] := by
    decide +kernel
  have hshared : ∀ d ∈ directories sourceTree [0, 1, 2], ["/"] <+: components d := by
    rw [hdirs]
    decide +kernel
  have hall : ((empty {}).updateAll sourceTree [0, 1, 2]).isSome := by decide +kernel
  have hall' : ((empty {}).updateAll sourceTree [2, 1, 0]).isSome := by decide +kernel
  obtain ⟨r, hr⟩ := Option.isSome_iff_exists.mp hall
  obtain ⟨r', hr'⟩ := Option.isSome_iff_exists.mp hall'
  obtain ⟨hiff, horder⟩ := baseDir_common_iff hr
  obtain ⟨r₁, hr₁, hcommon⟩ := hiff.mpr (fun before dir hfront _ _ => ⟨"/", fun d hd =>
    hshared d (hfront.subset (List.mem_append_left _ hd))⟩) [0, 1, 2] (List.prefix_refl _)
    (by rw [hdirs]; simp)
  cases hr.symm.trans hr₁
  exact ⟨r, hr, hcommon, r', hr', horder ⟨"/", hshared⟩ (by decide) hr'⟩

def detour : EntryTree :=
  unitsIn [("a.cpp", "/work/app"), ("b.cpp", "build"), ("c.cpp", "/work/app/src")]

/-- A unit in a relative directory leaves no root, and the next unit brings back its own
directory, off the first unit's; in another order there is none in the end. -/
theorem detour_restarts_root :
    ∃ r, (empty {}).updateAll detour [0, 1, 2] = some r ∧ r.baseDir = "/work/app/src" ∧
      ¬ IsCommonRoot (directories detour [0, 1, 2]) r.baseDir ∧
      ∃ r', (empty {}).updateAll detour [0, 2, 1] = some r' ∧ r'.baseDir = "" := by
  have hdirs : directories detour [0, 1, 2] = ["/work/app", "build", "/work/app/src"] := by
    decide +kernel
  have hroot : ((empty {}).updateAll detour [0, 1, 2]).map baseDir = some "/work/app/src" := by
    decide +kernel
  have hroot' : ((empty {}).updateAll detour [0, 2, 1]).map baseDir = some "" := by decide +kernel
  obtain ⟨r, hr, hbase⟩ := Option.map_eq_some_iff.mp hroot
  obtain ⟨r', hr', hbase'⟩ := Option.map_eq_some_iff.mp hroot'
  refine ⟨r, hr, hbase, fun hcommon => ?_, r', hr', hbase'⟩
  have habove := hcommon.above "/work/app" (by simp [hdirs])
  rw [hbase] at habove
  revert habove
  decide +kernel

end Registry
end HeaderRecovery
