import HeaderRecovery.Layout
import HeaderRecovery.Proofs.NormalPaths
import HeaderRecovery.Proofs.RegistryInvariant

/-!
Where headers are written. A source below the build root keeps the names that lead to it from
there; the others are left out. So every header stays inside the output directory, and no two
sources get the same one.
-/
namespace HeaderRecovery

namespace Path

variable {names : List String} {n : String}

lemma segments_extend (dir : String) (h : IsSegment n) :
    segments (extend dir n) = segments dir ++ [n] := by
  have halone : segments n = [n] := by
    have hone : ∀ m ∈ [n], IsSegment m := by simpa using h
    simpa using segments_intercalate hone
  have hsplit : n.toList.splitOn '/' = [n.toList] := List.splitOn_eq_singleton h.slash
  have hn : n ≠ "" := h.ne_empty
  unfold extend
  split
  · rename_i hdir
    have hempty : segments "" = [] := by decide
    rw [halone, hdir, hempty, List.nil_append]
  · split
    · rename_i hlast
      obtain ⟨cs, hcs⟩ := List.getLast?_eq_some_iff.mp hlast
      simp [segments, pieces, hcs, List.splitOn_append_cons_self, hsplit, hn]
    · simp [segments, pieces, List.splitOn_append_cons_self, hsplit, hn]

lemma segments_foldl_extend (dir : String) (h : ∀ n ∈ names, IsSegment n) :
    segments (names.foldl extend dir) = segments dir ++ names := by
  induction names generalizing dir with
  | nil => simp
  | cons n rest ih =>
    rw [List.foldl_cons, ih _ fun m hm => h m (List.mem_cons_of_mem n hm),
      segments_extend dir (h n List.mem_cons_self), List.append_assoc, List.singleton_append]

/-- A name that leads one step down. -/
structure IsOrdinary (n : String) : Prop extends IsSegment n where
  not_dot : n ≠ "."
  not_up : n ≠ ".."

lemma underRoot_intercalate (root : String) (hne : names ≠ []) (h : ∀ n ∈ names, IsOrdinary n) :
    underRoot root ("/".intercalate names) = names.foldl extend root := by
  have hkept : names.filter (fun s => s ≠ "" && s ≠ "." && s ≠ "..") = names :=
    List.filter_eq_self.mpr fun n hn => by
      simp [(h n hn).ne_empty, (h n hn).not_dot, (h n hn).not_up]
  rw [underRoot, pieces_intercalate hne fun n hn => (h n hn).slash, hkept]

lemma startsWith_up {text : String} (h : Text.startsWith "../" text) :
    ∃ rest, pieces text = ".." :: rest := by
  obtain ⟨tail, htail⟩ := List.isPrefixOf_iff_prefix.mp h
  have hsplit : text.toList.splitOn '/' = ['.', '.'] :: tail.splitOn '/' := by
    have hdots : '/' ∉ ['.', '.'] := by decide
    rw [← htail]
    exact List.splitOn_append_cons_self_of_not_mem hdots tail
  exact ⟨(tail.splitOn '/').map String.ofList, by rw [pieces, hsplit]; rfl⟩

/-- A path leaves its base if its first name does. -/
lemma escapesBase_intercalate {rest : List String} (h : ∀ m ∈ n :: rest, IsSegment m) :
    escapesBase ("/".intercalate (n :: rest)) = true ↔ n = ".." := by
  have hpieces : pieces ("/".intercalate (n :: rest)) = n :: rest :=
    pieces_intercalate (List.cons_ne_nil n rest) fun m hm => (h m hm).slash
  constructor
  · intro hescapes
    rw [escapesBase, Bool.or_eq_true, decide_eq_true_eq] at hescapes
    rcases hescapes with hup | hup
    · rw [hup] at hpieces
      exact (List.cons.inj hpieces).1.symm
    · obtain ⟨tail, htail⟩ := startsWith_up hup
      rw [hpieces] at htail
      exact (List.cons.inj htail).1
  · rintro rfl
    cases rest with
    | nil => decide
    | cons m rest =>
      rw [escapesBase, Bool.or_eq_true]
      refine Or.inr (List.isPrefixOf_iff_prefix.mpr ?_)
      rw [String.intercalate_cons_cons, String.toList_append]
      exact List.prefix_append _ _

end Path

namespace Layout
open HeaderRecovery.Path

section Place
variable {source baseDir : String}

lemma relativeTo_below {rest : List String}
    (habs : isAbsolute (normalize source) = isAbsolute (normalize baseDir))
    (hnames : names (normalize source) = names (normalize baseDir) ++ rest) :
    relativeTo source baseDir = some (if rest = [] then "." else "/".intercalate rest) := by
  generalize hbase : names (normalize baseDir) = base at hnames
  have hshared : sharedStart (base ++ rest) base = base :=
    (sharedStart_right _ _).eq_of_length_le
      (prefix_sharedStart (List.prefix_append base rest) (List.prefix_refl base)).length_le
  simp [relativeTo, habs, hnames, hbase, hshared]

/-- The build root itself has no place. -/
lemma relative?_same (habs : isAbsolute (normalize source) = isAbsolute (normalize baseDir))
    (hnames : names (normalize source) = names (normalize baseDir)) :
    relative? source baseDir = none := by
  have hrelative := relativeTo_below habs (hnames.trans (List.append_nil _).symm)
  simp [relative?, hrelative]

lemma relative?_below {n : String} {rest : List String}
    (habs : isAbsolute (normalize source) = isAbsolute (normalize baseDir))
    (hnames : names (normalize source) = names (normalize baseDir) ++ n :: rest) :
    relative? source baseDir = if n = ".." then none else some ("/".intercalate (n :: rest)) := by
  have hrest : Canonical (isAbsolute (normalize source)) (n :: rest) :=
    (hnames ▸ canonical_names source).sublist (List.sublist_append_right _ _)
  have hdot : "/".intercalate (n :: rest) ≠ "." := fun heq => by
    have hsegments := segments_intercalate hrest.segment
    rw [heq] at hsegments
    exact hrest.not_dot n List.mem_cons_self (List.cons.inj hsegments).1.symm
  have hescapes := escapesBase_intercalate hrest.segment
  rw [relative?, relativeTo_below habs hnames, if_neg (List.cons_ne_nil n rest), Option.filter_some]
  by_cases hup : n = ".."
  · rw [if_pos hup, hescapes.mpr hup]
    simp
  · rw [if_neg hup, Bool.eq_false_iff.mpr fun h => hup (hescapes.mp h)]
    simp [hdot]

/-- What is not below the build root can only be reached by leaving it. -/
lemma relative?_outside (habs : isAbsolute (normalize source) = isAbsolute (normalize baseDir))
    (hout : ¬ names (normalize baseDir) <+: names (normalize source)) :
    relative? source baseDir = none := by
  have hcanonical := canonical_names source
  generalize hpath : names (normalize source) = path at hout hcanonical
  generalize hbase : names (normalize baseDir) = base at hout
  generalize hshared : sharedStart path base = shared
  have hshort : shared.length < base.length := by
    subst hshared
    refine Nat.lt_of_not_le fun hle => hout ?_
    rw [← (sharedStart_right path base).eq_of_length_le hle]
    exact sharedStart_left path base
  -- At least one name of the root is left over, so the path starts by going up.
  obtain ⟨k, hk⟩ := Nat.exists_eq_add_of_lt hshort
  have hleft : base.length - shared.length = k + 1 := by omega
  have hsegments :
      ∀ m ∈ ".." :: (List.replicate k ".." ++ path.drop shared.length), IsSegment m := by
    have hup : IsSegment ".." := ⟨by decide, by decide⟩
    intro m hm
    rcases List.mem_cons.mp hm with rfl | hm
    · exact hup
    · rcases List.mem_append.mp hm with hm | hm
      · rwa [List.eq_of_mem_replicate hm]
      · exact hcanonical.segment m (List.mem_of_mem_drop hm)
  have hescapes := (escapesBase_intercalate hsegments).mpr rfl
  simp [relative?, relativeTo, habs, hpath, hbase, hshared, hleft, List.replicate_succ, hescapes]

/-- A source has a place below the build root if it lies strictly below it: the place is what is
left of its names. -/
lemma relative?_eq_some_iff {relative : String} :
    relative? source baseDir = some relative ↔
      isAbsolute (normalize source) = isAbsolute (normalize baseDir) ∧
      ∃ n rest, names (normalize source) = names (normalize baseDir) ++ n :: rest ∧ n ≠ ".." ∧
        relative = "/".intercalate (n :: rest) := by
  constructor
  · intro hplace
    have habs : isAbsolute (normalize source) = isAbsolute (normalize baseDir) := by
      by_contra habs
      simp [relative?, relativeTo, habs] at hplace
    refine ⟨habs, ?_⟩
    by_cases hbelow : names (normalize baseDir) <+: names (normalize source)
    · obtain ⟨parts, hparts⟩ := hbelow
      cases parts with
      | nil =>
        rw [relative?_same habs (by rw [← hparts, List.append_nil])] at hplace
        cases hplace
      | cons n rest =>
        rw [relative?_below habs hparts.symm] at hplace
        split at hplace
        · cases hplace
        · rename_i hup
          exact ⟨n, rest, hparts.symm, hup, (Option.some.inj hplace).symm⟩
    · rw [relative?_outside habs hbelow] at hplace
      cases hplace
  · rintro ⟨habs, n, rest, hnames, hup, rfl⟩
    rw [relative?_below habs hnames, if_neg hup]

end Place

lemma mem_plan {r : Registry} (h : r.files.Ascending) {baseDir outputDir : String}
    {p : PlannedFile} :
    p ∈ plan r baseDir outputDir ↔ ∃ file, r.files.find? p.source = some file ∧
      file.isEmpty = false ∧ relative? p.source baseDir = some p.relative ∧
      p.destination = underRoot outputDir p.relative := by
  obtain ⟨source, relative, destination⟩ := p
  simp only [plan, List.mem_filterMap, Prod.exists, SortedMap.mem_entries_iff h]
  constructor
  · rintro ⟨path, file, hfile, hplanned⟩
    split at hplanned
    · cases hplanned
    · rename_i hempty
      obtain ⟨place, hplace, heq⟩ := Option.map_eq_some_iff.mp hplanned
      cases heq
      exact ⟨file, hfile, by simpa using hempty, hplace, rfl⟩
  · rintro ⟨file, hfile, hempty, hplace, rfl⟩
    exact ⟨source, file, hfile, by simp [hempty, hplace]⟩

/-- A planned file is placed below the output directory by ordinary names, those that lead to its
source from the build root. -/
lemma mem_plan_destination {r : Registry} (h : r.files.Ascending) {baseDir outputDir : String}
    {p : PlannedFile} (hp : p ∈ plan r baseDir outputDir) :
    ∃ parts, parts ≠ [] ∧ (∀ n ∈ parts, IsOrdinary n) ∧
      isAbsolute (normalize p.source) = isAbsolute (normalize baseDir) ∧
      names (normalize p.source) = names (normalize baseDir) ++ parts ∧
      p.destination = parts.foldl extend outputDir := by
  obtain ⟨file, -, -, hplace, hdestination⟩ := (mem_plan h).mp hp
  obtain ⟨habs, n, rest, hnames, hup, hrelative⟩ := relative?_eq_some_iff.mp hplace
  have hcanonical : Canonical (isAbsolute (normalize p.source)) (n :: rest) :=
    (hnames ▸ canonical_names p.source).sublist (List.sublist_append_right _ _)
  have hordinary : ∀ m ∈ n :: rest, IsOrdinary m := fun m hm =>
    { hcanonical.segment m hm with
      not_dot := hcanonical.not_dot m hm
      not_up := by
        rcases List.mem_cons.mp hm with rfl | hm
        · exact hup
        · exact fun heq => hup ((List.pairwise_cons.mp hcanonical.up).1 m hm heq) }
  refine ⟨n :: rest, List.cons_ne_nil n rest, hordinary, habs, hnames, ?_⟩
  rw [hdestination, hrelative, underRoot_intercalate outputDir (List.cons_ne_nil n rest) hordinary]

end Layout

lemma SourceFile.isEmpty_iff {f : SourceFile} (h : f.lines.Ascending) :
    f.isEmpty = false ↔ ∃ line index, (f.get? line index).isSome := by
  have hsize : f.isEmpty = false ↔ ∃ group ∈ f.lines.values, group ≠ [] := by
    simp [isEmpty, size, -List.length_flatten, List.flatten_eq_nil_iff]
  rw [hsize]
  constructor
  · rintro ⟨group, hgroup, hne⟩
    obtain ⟨⟨line, _⟩, hmem, rfl⟩ := List.mem_map.mp hgroup
    refine ⟨line, 0, ?_⟩
    rw [get?, SourceFile.line, (SortedMap.mem_entries_iff h).mp hmem, Option.getD_some]
    simpa using List.length_pos_iff.mpr hne
  · rintro ⟨line, index, hsome⟩
    unfold get? SourceFile.line at hsome
    cases hgroup : f.lines.find? line with
    | none => simp [hgroup] at hsome
    | some group =>
      refine ⟨group, List.mem_map.mpr
        ⟨(line, group), (SortedMap.mem_entries_iff h).mpr hgroup, rfl⟩, ?_⟩
      rintro rfl
      simp [hgroup] at hsome

namespace Registry
open Debug

variable {r r' : Registry}

/-- Files are kept under normal paths. -/
def NormalFiles (r : Registry) : Prop :=
  ∀ path, (r.files.find? path).isSome → Path.normalize path = path

lemma NormalFiles.setFile (h : NormalFiles r) (hordered : r.Ordered) {file : String}
    (hfile : Path.normalize file = file) (f : SourceFile) : NormalFiles (r.setFile file f) := by
  intro path hpath
  rw [Registry.setFile, SortedMap.find?_alter hordered.files] at hpath
  split at hpath
  · rename_i heq
    rwa [heq]
  · exact h path hpath

lemma NormalFiles.modify (h : NormalFiles r) (hordered : r.Ordered) (l : Location)
    (g : Declaration → Declaration) : NormalFiles (r.modify l g) := by
  cases hfile : r.files.find? l.file with
  | none => simpa [Registry.modify, hfile] using h
  | some f =>
    have hnormal := h l.file (by simp [hfile])
    rcases modify_eq_setFile r l g with ⟨heq, -⟩ | heq
    · rwa [heq]
    · rw [heq]
      exact h.setFile hordered hnormal _

lemma normalize_of_place {t : EntryTree} {node : NodeId} {kind : DeclarationKind} {file : String}
    {line : UInt64} (h : place? t node = some (kind, file, line)) : Path.normalize file = file := by
  unfold place? at h
  split at h
  · split at h
    · cases h
    · cases h
      exact Path.normalize_normalize _
  · cases h

lemma Move.normalFiles {t : EntryTree} (h : NormalFiles r) (hordered : r.Ordered)
    (move : Move t r r') : NormalFiles r' := by
  cases move with
  | narrow baseDir => exact h
  | merge => exact h.modify hordered _ _
  | @store node kind file line d scopes r₁ l? new place reading renderable store =>
    have hnormal := normalize_of_place place
    have hstored := stored hordered file line (d.setScopes scopes)
    rw [store] at hstored
    cases hstored with
    | found => exact h.modify hordered _ _
    | added => exact h.setFile hordered hnormal _
    | dropped => exact h.setFile hordered hnormal _

lemma Moves.normalFiles {t : EntryTree} (hconsistent : r.Consistent) (h : NormalFiles r)
    (moves : Moves t r r') : r'.Consistent ∧ NormalFiles r' := by
  induction moves with
  | refl => exact ⟨hconsistent, h⟩
  | tail _ move ih => exact ⟨(move.keeps ih.1).1, move.normalFiles ih.2 ih.1.ordered⟩

/-- What any calls make of an empty registry, each on a tree of its own. -/
abbrev Reached (options : Options) : Registry → Prop :=
  Relation.ReflTransGen (fun r r' => ∃ t, Call t r r') (empty options)

lemma Reached.consistent {options : Options} (h : Reached options r) :
    r.Consistent ∧ NormalFiles r := by
  induction h with
  | refl => exact ⟨empty_consistent options, fun path hpath => by simp [empty] at hpath⟩
  | @tail r r' _ hcall ih =>
    obtain ⟨t, hcall⟩ := hcall
    exact Moves.normalFiles ih.1 ih.2 (Run.moves (.single hcall))

end Registry

namespace Layout
open HeaderRecovery.Path

/-- Headers are written below the output directory, each source has one of its own, and planned
are exactly the sources with declarations that lie below the build root. -/
theorem plan_below_root {options : Options} {r : Registry} (h : Registry.Reached options r)
    (baseDir outputDir : String) :
    (∀ p ∈ plan r baseDir outputDir, ∃ parts, parts ≠ [] ∧ (∀ n ∈ parts, IsOrdinary n) ∧
      p.destination = parts.foldl extend outputDir) ∧
    (∀ p ∈ plan r baseDir outputDir, ∀ q ∈ plan r baseDir outputDir, p.source ≠ q.source →
      segments p.destination ≠ segments q.destination) ∧
    ∀ source, (∃ p ∈ plan r baseDir outputDir, p.source = source) ↔
      (∃ line index, (r.get? ⟨source, line, index⟩).isSome) ∧
      isAbsolute (normalize source) = isAbsolute (normalize baseDir) ∧
      ∃ n rest, names (normalize source) = names (normalize baseDir) ++ n :: rest ∧ n ≠ ".." := by
  obtain ⟨hconsistent, hnormal⟩ := h.consistent
  have hordered := hconsistent.ordered
  refine ⟨?_, ?_, ?_⟩
  · intro p hp
    obtain ⟨parts, hne, hordinary, -, -, hdestination⟩ := mem_plan_destination hordered.files hp
    exact ⟨parts, hne, hordinary, hdestination⟩
  · -- The destination shows the names below the root; with the root, they make up the source.
    intro p hp q hq hsources hdestinations
    obtain ⟨parts, hne, hparts, habs, hnames, hp'⟩ := mem_plan_destination hordered.files hp
    obtain ⟨parts', hne', hparts', habs', hnames', hq'⟩ := mem_plan_destination hordered.files hq
    rw [hp', hq', segments_foldl_extend _ fun n hn => (hparts n hn).toIsSegment,
      segments_foldl_extend _ fun n hn => (hparts' n hn).toIsSegment] at hdestinations
    have hsame : parts = parts' := List.append_cancel_left hdestinations
    have hnonempty : ∀ {source extra},
        names (normalize source) = names (normalize baseDir) ++ extra →
        extra ≠ [] → source ≠ "" := by
      rintro source extra heq hextra rfl
      have hnil : names (normalize "") = [] := by decide
      rw [hnil] at heq
      exact hextra (List.append_eq_nil_iff.mp heq.symm).2
    have heq := normalize_inj (hnonempty hnames hne) (hnonempty hnames' hne')
      (habs.trans habs'.symm) (by rw [hnames, hnames', hsame])
    obtain ⟨file, hfile, -⟩ := (mem_plan hordered.files).mp hp
    obtain ⟨file', hfile', -⟩ := (mem_plan hordered.files).mp hq
    rw [hnormal _ (by simp [hfile]), hnormal _ (by simp [hfile'])] at heq
    exact hsources heq
  · intro source
    constructor
    · rintro ⟨p, hp, rfl⟩
      obtain ⟨file, hfile, hempty, hplace, -⟩ := (mem_plan hordered.files).mp hp
      obtain ⟨line, index, hsome⟩ := (SourceFile.isEmpty_iff (hordered.lines hfile)).mp hempty
      obtain ⟨habs, n, rest, hnames, hup, -⟩ := relative?_eq_some_iff.mp hplace
      exact ⟨⟨line, index, by simpa [Registry.get?, hfile] using hsome⟩, habs, n, rest, hnames, hup⟩
    · rintro ⟨⟨line, index, hsome⟩, habs, n, rest, hnames, hup⟩
      cases hfile : r.files.find? source with
      | none => simp [Registry.get?, hfile] at hsome
      | some file =>
        have hempty : file.isEmpty = false := (SourceFile.isEmpty_iff (hordered.lines hfile)).mpr
          ⟨line, index, by simpa [Registry.get?, hfile] using hsome⟩
        have hplace := relative?_eq_some_iff.mpr ⟨habs, n, rest, hnames, hup, rfl⟩
        exact ⟨⟨source, _, underRoot outputDir _⟩,
          (mem_plan hordered.files).mpr ⟨file, hfile, hempty, hplace, rfl⟩, rfl⟩

/-- The header of two units is planned below a root that is their directory in other words, and
not below a root that starts elsewhere. -/
theorem twoUnits_planned :
    ∃ r, (Registry.empty {}).update Registry.twoUnits 0 = some r ∧
      (∃ p ∈ plan r "//src/gen/../." "out", p.source = "/src/point.h" ∧
        ∃ parts, parts ≠ [] ∧ (∀ n ∈ parts, IsOrdinary n) ∧
          p.destination = parts.foldl extend "out") ∧
      ¬ ∃ p ∈ plan r "src" "out", p.source = "/src/point.h" := by
  have hstored : ((Registry.empty {}).update Registry.twoUnits 0).bind
      (fun r => (r.get? ⟨"/src/point.h", 3, 0⟩).map fun d => d.name) = some "Point" := by cbv
  obtain ⟨r, hr, hget⟩ := Option.bind_eq_some_iff.mp hstored
  have hreached : Registry.Reached {} r := .single ⟨_, .update hr⟩
  have hpresent : (r.get? ⟨"/src/point.h", 3, 0⟩).isSome := by
    obtain ⟨d, hd, -⟩ := Option.map_eq_some_iff.mp hget
    simp [hd]
  have hbelow : names (normalize "/src/point.h") =
      names (normalize "//src/gen/../.") ++ ["point.h"] := by
    decide +kernel
  have habs : isAbsolute (normalize "/src/point.h") = isAbsolute (normalize "//src/gen/../.") := by
    decide +kernel
  have hrelative : isAbsolute (normalize "/src/point.h") ≠ isAbsolute (normalize "src") := by
    decide +kernel
  obtain ⟨hplaces, -, hplanned⟩ := plan_below_root hreached "//src/gen/../." "out"
  obtain ⟨p, hp, hsource⟩ := (hplanned "/src/point.h").mpr
    ⟨⟨3, 0, hpresent⟩, habs, "point.h", [], hbelow, by decide⟩
  refine ⟨r, hr, ⟨p, hp, hsource, hplaces p hp⟩, fun hother => ?_⟩
  exact hrelative (((plan_below_root hreached "src" "out").2.2 "/src/point.h").mp hother).2.1

end Layout
end HeaderRecovery
