import HeaderRecovery.Command
import HeaderRecovery.Proofs.BuildRoot
import HeaderRecovery.Proofs.BuiltTrees
import HeaderRecovery.Proofs.PlannedFiles

/-!
A build root that is given instead of found. The root that is found lies above the directories of
all units, in the sense in which a unit counts under a root; so giving it leaves no unit out, and
the same headers are planned.
-/
namespace HeaderRecovery

namespace Path

variable {path base name directory : String}

/-- A path leads from the root if its text starts with a separator of either kind. -/
lemma isAbsolute_normalize_iff :
    isAbsolute (normalize path) = true ↔
      path.toList.head? = some '/' ∨ path.toList.head? = some '\\' := by
  have hresolve : (resolve path).absolute = isAbsolute (slashed path) := rfl
  rw [isAbsolute_normalize, hresolve, isAbsolute, slashed, String.toList_ofList, List.head?_map,
    decide_eq_true_eq]
  cases path.toList.head? with
  | none => simp
  | some c =>
    by_cases hc : c = '\\'
    · simp [hc]
    · simp [hc]

/-- The file of a unit in an absolute directory is absolute, too. -/
lemma isAbsolute_join (h : isAbsolute (normalize directory) = true) :
    isAbsolute (normalize (join directory name)) = true := by
  have hdirectory := isAbsolute_normalize_iff.mp h
  unfold join
  split
  · rename_i hname
    rw [Bool.or_eq_true, decide_eq_true_eq] at hname
    rw [normalize_normalize, isAbsolute_normalize_iff]
    rcases hname with hname | hempty
    · exact Or.inl (by simpa [isAbsolute] using hname)
    · simp [hempty] at hdirectory
  · rw [normalize_normalize, isAbsolute_normalize_iff]
    have hfront : (dropTrailingSeparators directory).toList <+: directory.toList := by
      have hback :=
        List.dropWhile_suffix (fun c => decide (c = '/')) (l := directory.toList.reverse)
      simpa [dropTrailingSeparators] using List.reverse_prefix.mpr hback
    obtain ⟨rest, hrest⟩ := hfront
    cases hkept : (dropTrailingSeparators directory).toList with
    | nil => exact Or.inl (by simp [hkept])
    | cons c kept =>
      rw [← hrest, hkept] at hdirectory
      simpa [hkept] using hdirectory

/-- A path is under another if all steps of that one lead to it. -/
lemma isUnder_of_components (hpath : isAbsolute (normalize path) = true)
    (hbase : isAbsolute (normalize base) = true)
    (h : components (normalize base) <+: components (normalize path)) :
    isUnder path base = true := by
  rw [components, components, if_pos hpath, if_pos hbase, List.cons_prefix_cons] at h
  obtain ⟨rest, hrest⟩ : names (normalize base) <+: names (normalize path) := h.2.filter _
  have hcanonical := canonical_names path
  rw [hpath, ← hrest] at hcanonical
  rw [isUnder, Layout.relativeTo_below (hpath.trans hbase.symm) hrest.symm]
  cases rest with
  | nil => decide
  | cons n rest =>
    have hsegments : ∀ m ∈ n :: rest, IsSegment m := fun m hm =>
      hcanonical.segment m (List.mem_append_right _ hm)
    have hn : n ≠ ".." := by
      rintro rfl
      exact hcanonical.rooted rfl (List.mem_append_right _ List.mem_cons_self)
    simp [Bool.eq_false_iff.mpr (mt (escapesBase_intercalate hsegments).mp hn)]

end Path

namespace Registry
open Debug HeaderRecovery.Path

variable {t : EntryTree} {r : Registry}

/-- The directory that a unit adds lies above the one it was compiled in. -/
lemma components_unitDirectory (name directory : String) :
    components (unitDirectory name directory) <+: components (normalize directory) := by
  rw [unitDirectory, components_common]
  exact sharedStart_right _ _

lemma root_of_unitDirectory {directory : String} (name : String)
    (h : isAbsolute (normalize directory) = true) :
    ["/"] <+: components (unitDirectory name directory) := by
  rw [unitDirectory, components_common, components, components, if_pos (isAbsolute_join h),
    if_pos h, sharedStart, if_pos rfl]
  exact List.cons_prefix_cons.mpr ⟨rfl, List.nil_prefix⟩

/-- Units that are not collected anyway may be left out. -/
lemma updateAll_filter {units : List UnitInfo} {wanted : UnitInfo → Bool} (r : Registry)
    (h : ∀ u ∈ units, wanted u = false → ¬ Collected t u.root) :
    r.updateAll t ((units.filter wanted).map (·.root)) = r.updateAll t (units.map (·.root)) := by
  induction units generalizing r with
  | nil => rfl
  | cons u rest ih =>
    have hrest := fun r => ih r fun v hv => h v (List.mem_cons_of_mem u hv)
    by_cases hu : wanted u = true
    · rw [List.filter_cons_of_pos hu, List.map_cons, List.map_cons]
      simp only [updateAll, List.foldlM_cons] at hrest ⊢
      exact bind_congr hrest
    · have hskip := update_of_not_collected (h u List.mem_cons_self (by simpa using hu)) r
      rw [List.filter_cons_of_neg hu, hrest, List.map_cons]
      simp only [updateAll, List.foldlM_cons, hskip]
      rfl

/-- The directories that the compile units of a tree add. -/
lemma mem_directories_compileUnits (hbuilt : t.Built) {dir : String} :
    dir ∈ directories t (t.compileUnits.map (·.root)) ↔
      ∃ u ∈ t.compileUnits, ∃ name directory, u.name = some name ∧
        u.directory = some directory ∧ dir = unitDirectory name directory := by
  have hroot : ∀ u ∈ t.compileUnits, t.unitOf u.root = u := fun u hu =>
    hbuilt.unitOf_root (Array.mem_toList_iff.mp (List.mem_filter.mp hu).1)
  simp only [directories, List.mem_filterMap, List.mem_map, exists_exists_and_eq_and]
  refine exists_congr fun u => and_congr_right fun hu => ?_
  rw [directory?, if_pos (by simp [EntryTree.isUnitRoot, hroot u hu]), hroot u hu]
  cases u.name with
  | none => simp
  | some name =>
    cases u.directory with
    | none => simp
    | some directory => simp [eq_comm]

/-- Directories that lie below the root of the file system share it, so that the build root over
them lies above each. -/
lemma isCommonRoot_of_absolute {roots : List NodeId} {options : Options}
    (hroots : ∀ dir ∈ directories t roots, ["/"] <+: components dir)
    (hne : directories t roots ≠ []) (h : (empty options).updateAll t roots = some r) :
    IsCommonRoot (directories t roots) r.baseDir := by
  rw [updateAll_baseDir h]
  refine (foldl_narrow_root fun dir => normalize_of_directories).mpr ?_ _ (List.prefix_refl _) hne
  intro before dir hfront _ _
  exact ⟨"/", fun d hd => hroots d (hfront.subset (List.mem_append_left _ hd))⟩

end Registry

open Debug HeaderRecovery.Path

variable {t : EntryTree} {options : Options} {r : Registry}

/-- Units may be left out if they are not collected anyway. -/
lemma reconstruct_eq {baseDir : Option String}
    (h : ∀ u ∈ t.compileUnits, isWanted baseDir u = false → ¬ Registry.Collected t u.root) :
    reconstruct t options baseDir =
      (Registry.empty options).updateAll t (t.compileUnits.map (·.root)) :=
  Registry.updateAll_filter _ h

lemma reconstruct_none :
    reconstruct t options none =
      (Registry.empty options).updateAll t (t.compileUnits.map (·.root)) := by
  refine reconstruct_eq fun u _ hunwanted => ?_
  cases hd : u.directory <;> cases hunwanted

/-- The build root that is found lies above every unit that is collected. -/
lemma isUnder_found_root (hbuilt : t.Built)
    (habsolute : ∀ u ∈ t.compileUnits, ∀ name directory, u.name = some name →
      u.directory = some directory → isAbsolute (normalize directory) = true)
    (h : reconstruct t options none = some r) {u : UnitInfo} (hu : u ∈ t.compileUnits)
    {name directory : String} (hname : u.name = some name)
    (hdirectory : u.directory = some directory) : isUnder directory r.baseDir = true := by
  rw [reconstruct_none] at h
  have hmem := (Registry.mem_directories_compileUnits hbuilt).mpr
    ⟨u, hu, name, directory, hname, hdirectory, rfl⟩
  have hroots : ∀ dir ∈ Registry.directories t (t.compileUnits.map (·.root)),
      ["/"] <+: components dir := by
    intro dir hdir
    obtain ⟨v, hv, name, directory, hname, hdirectory, rfl⟩ :=
      (Registry.mem_directories_compileUnits hbuilt).mp hdir
    exact Registry.root_of_unitDirectory name (habsolute v hv name directory hname hdirectory)
  have hcommon := Registry.isCommonRoot_of_absolute hroots (List.ne_nil_of_mem hmem) h
  apply isUnder_of_components (habsolute u hu name directory hname hdirectory)
  · have hfirst := hcommon.deepest _ hroots
    rw [hcommon.normal]
    by_contra hrelative
    rw [components, if_neg hrelative] at hfirst
    exact (isSegment_of_mem (hfirst.subset List.mem_cons_self)).ne_root rfl
  · rw [hcommon.normal]
    exact (hcommon.above _ hmem).trans (Registry.components_unitDirectory name directory)

/-- Where all units were compiled in absolute directories, a run that is given the build root that
it would find collects the same declarations and plans the same headers. -/
theorem reconstruct_given_root (hbuilt : t.Built)
    (habsolute : ∀ u ∈ t.compileUnits, ∀ name directory, u.name = some name →
      u.directory = some directory → isAbsolute (normalize directory) = true)
    {job : Job} (hjob : job.baseDir = none) (h : reconstruct t job.limits job.baseDir = some r) :
    reconstruct t job.limits (some r.baseDir) = some r ∧
      Command.plan { job with baseDir := some r.baseDir } r = Command.plan job r := by
  rw [hjob] at h
  constructor
  · rw [reconstruct_eq, ← reconstruct_none, h]
    intro u hu hunwanted hcollected
    have hroot : t.unitOf u.root = u :=
      hbuilt.unitOf_root (Array.mem_toList_iff.mp (List.mem_filter.mp hu).1)
    obtain ⟨name, hname⟩ := Option.isSome_iff_exists.mp hcollected.name
    obtain ⟨directory, hdirectory⟩ := Option.isSome_iff_exists.mp hcollected.directory
    rw [hroot] at hname hdirectory
    have hunder := isUnder_found_root hbuilt habsolute h hu hname hdirectory
    simp [isWanted, hdirectory, hunder] at hunwanted
  · rw [Command.plan, Command.plan, hjob]
    rfl

/-- Two units of one source tree, the second in a directory written another way. -/
def twoDirectories : TreeBuilder :=
  let (b, lib) := TreeBuilder.start.compileUnit "a.cpp" "/app/lib"
  let (b, point) := b.child lib .structureType
  let b := (b.name point "Point").declaredAt point "/app/lib/point.h" 3
  (b.compileUnit "../main.cpp" "\\app\\src").1

/-- A run over two units that is given their root `/app`. -/
theorem twoDirectories_given_root :
    ∃ r, reconstruct twoDirectories.tree {} none = some r ∧ r.baseDir = "/app" ∧
      (r.get? ⟨"/app/lib/point.h", 3, 0⟩).isSome ∧
      reconstruct twoDirectories.tree {} (some "/app") = some r := by
  have hbuilt : twoDirectories.tree.Built := by
    have hlib := TreeBuilder.built_compileUnit (b := .start) .empty "a.cpp" "/app/lib"
    have hpoint := TreeBuilder.built_child hlib 0 .structureType
    have hnamed := TreeBuilder.built_addAttr hpoint 1 .name (.string "Point")
    have hfile := TreeBuilder.built_addAttr hnamed 1 .declaredFile (.string "/app/lib/point.h")
    have hline := TreeBuilder.built_addAttr hfile 1 .declaredLine (.unsigned 3)
    exact TreeBuilder.built_compileUnit hline "../main.cpp" "\\app\\src"
  have habsolute : ∀ u ∈ twoDirectories.tree.compileUnits, ∀ name directory,
      u.name = some name → u.directory = some directory →
        isAbsolute (normalize directory) = true := by
    have hall : ∀ u ∈ twoDirectories.tree.compileUnits,
        u.directory.all fun directory => isAbsolute (normalize directory) := by decide +kernel
    intro u hu name directory _ hdirectory
    simpa [hdirectory] using hall u hu
  have hroots : twoDirectories.tree.compileUnits.map (·.root) = [0, 2] := by decide +kernel
  have hfirst : ((Registry.empty {}).update twoDirectories.tree 0).bind
      (fun r => (r.get? ⟨"/app/lib/point.h", 3, 0⟩).map fun d => d.name) = some "Point" := by cbv
  have hbase : (Registry.directories twoDirectories.tree [0, 2]).foldl Registry.narrow "" =
      "/app" := by decide +kernel
  have hvisits : Registry.unitVisits twoDirectories.tree 2 = [] := by decide +kernel
  have hroot : twoDirectories.tree.isUnitRoot 2 := by decide +kernel
  obtain ⟨r, hr, hpoint⟩ := Option.bind_eq_some_iff.mp hfirst
  have hname : (twoDirectories.tree.unitOf 2).name = some "../main.cpp" := by decide +kernel
  have hdirectory : (twoDirectories.tree.unitOf 2).directory = some "\\app\\src" := by
    decide +kernel
  have hsecond := Registry.update_eq_foldlM hroot hname hdirectory r
  rw [hvisits, List.foldlM_nil] at hsecond
  generalize hr' : { r with baseDir := _ } = r' at hsecond
  have hall : (Registry.empty {}).updateAll twoDirectories.tree [0, 2] = some r' := by
    simp only [Registry.updateAll, List.foldlM_cons, List.foldlM_nil, hr, Option.bind_eq_bind,
      Option.bind_some, hsecond]
    rfl
  have hfound : r'.baseDir = "/app" := by
    rw [Registry.updateAll_baseDir hall]
    exact hbase
  have hnone : reconstruct twoDirectories.tree {} none = some r' := by
    rw [reconstruct_none, hroots, hall]
  have hjob : (Job.of { input := "app.o" } none {}).baseDir = none := rfl
  have hgiven := reconstruct_given_root hbuilt habsolute hjob hnone
  rw [hfound] at hgiven
  refine ⟨r', hnone, hfound, ?_, hgiven.1⟩
  obtain ⟨d, hd, -⟩ := Option.map_eq_some_iff.mp hpoint
  rw [← hr']
  exact Option.isSome_iff_exists.mpr ⟨d, hd⟩

end HeaderRecovery
