import HeaderRecovery.Proofs.ProperReadings

/-!
What the units of a tree declare, in the order in which a walk meets it, and when these
sightings can be told apart: keys and names identify entries, an entry stands in the same
namespaces wherever it is seen, and functions of one linker name agree on their parameters.
-/
namespace HeaderRecovery.Registry
open Debug

/-- The children that a walk visits, each with the namespaces around it. -/
def visits (t : EntryTree) : Nat → List Scope → NodeId → List (List Scope × NodeId)
  | 0, _, _ => []
  | fuel + 1, scopes, node =>
    (t.children node).flatMap fun child =>
      if t.tag child = .namespaceScope then
        visits t fuel (scopes ++ [Scope.ofEntry t child]) child
      else [(scopes, child)]

/-- What the unit with a root declares. -/
def unitVisits (t : EntryTree) (root : NodeId) : List (List Scope × NodeId) :=
  visits t t.size [] root

variable {t : EntryTree} {options : Options}

/-- A walk is its visits, one after the other. -/
lemma walk_eq_foldlM (fuel : Nat) (scopes : List Scope) (node : NodeId) (r : Registry) :
    walk t fuel scopes node r =
      (visits t fuel scopes node).foldlM (fun r v => visit t v.1 r v.2) r := by
  induction fuel generalizing scopes node r with
  | zero => rfl
  | succ fuel ih =>
    rw [walk, visits]
    generalize t.children node = children
    induction children generalizing r with
    | nil => rfl
    | cons child rest ihrest =>
      rw [List.foldlM_cons, List.flatMap_cons, List.foldlM_append]
      congr 1
      · split
        · exact ih _ _ _
        · exact (bind_pure _).symm
      · funext r'
        exact ihrest r'

/-- A unit that is collected: it has a root, a name and a directory. -/
structure Collected (t : EntryTree) (root : NodeId) : Prop where
  isRoot : t.isUnitRoot root
  name : (t.unitOf root).name.isSome
  directory : (t.unitOf root).directory.isSome

/-- A collected unit narrows the build root; its visits follow. -/
lemma update_eq_foldlM {root : NodeId} {name directory : String} (hroot : t.isUnitRoot root)
    (hname : (t.unitOf root).name = some name)
    (hdirectory : (t.unitOf root).directory = some directory) (r : Registry) :
    r.update t root = (unitVisits t root).foldlM (fun r v => visit t v.1 r v.2)
      { r with baseDir := narrow r.baseDir (unitDirectory name directory) } := by
  simp only [update, hroot, if_true, hname, hdirectory]
  exact walk_eq_foldlM _ _ _ _

lemma update_of_collected {root : NodeId} (h : Collected t root) (r : Registry) :
    ∃ baseDir, r.update t root =
      (unitVisits t root).foldlM (fun r v => visit t v.1 r v.2) { r with baseDir } := by
  obtain ⟨name, hname⟩ := Option.isSome_iff_exists.mp h.name
  obtain ⟨directory, hdirectory⟩ := Option.isSome_iff_exists.mp h.directory
  exact ⟨_, update_eq_foldlM h.isRoot hname hdirectory r⟩

lemma update_of_not_collected {root : NodeId} (h : ¬ Collected t root) (r : Registry) :
    r.update t root = some r := by
  unfold update
  split
  · rename_i hroot
    split
    · rename_i name directory hname hdirectory
      exact (h ⟨hroot, by simp [hname], by simp [hdirectory]⟩).elim
    · rfl
  · rfl

/-- Some collected unit has a child in these namespaces that stands for the entry. -/
def Sighting (t : EntryTree) (scopes : List Scope) (node : NodeId) : Prop :=
  ∃ root child, Collected t root ∧ (scopes, child) ∈ unitVisits t root ∧ t.resolve child = node

/-- The conditions under which sightings can be told apart. -/
structure Coherent (t : EntryTree) : Prop where
  named : t.Named
  /-- Keys identify entries. -/
  key : ∀ {scopes scopes' n m}, Sighting t scopes n → Sighting t scopes' m →
    t.key n = t.key m → n = m
  /-- All that stands for an entry stands in the same namespaces. -/
  scopes : ∀ {scopes scopes' n}, Sighting t scopes n → Sighting t scopes' n → scopes = scopes'
  /-- Functions that share line, name and linker name share their parameter types. -/
  overload : ∀ {scopes scopes' n m file line L}, Sighting t scopes n → Sighting t scopes' m →
    place? t n = some (.function false, file, line) →
    place? t m = some (.function false, file, line) → nameOf t n = nameOf t m →
    t.linkageName? n = some L → t.linkageName? m = some L →
    (Function.ofEntry t false n).parameterTypes = (Function.ofEntry t false m).parameterTypes
  /-- No function stands for another. -/
  definition : ∀ {scopes root child}, Collected t root → (scopes, child) ∈ unitVisits t root →
    t.resolve child ≠ child → t.tag (t.resolve child) ≠ .subprogram

/-- What is stored for sightings on one line of a file. -/
def Seen (t : EntryTree) (options : Options) (file : String) (line : UInt64) (d : Declaration) :
    Prop :=
  ∃ scopes node kind reading, Sighting t scopes node ∧ place? t node = some (kind, file, line) ∧
    Declaration.ofEntry? t options kind node = some reading ∧ reading.isRenderable ∧
    d = reading.setScopes scopes

/-- A function that was seen, and the entry it was read from. -/
lemma Seen.function {file : String} {line : UInt64} {f : Function}
    (h : Seen t options file line (.function f)) :
    ∃ scopes node, Sighting t scopes node ∧ place? t node = some (.function false, file, line) ∧
      f = { Function.ofEntry t false node with placement := f.placement } := by
  obtain ⟨scopes, node, kind, reading, hsighting, hplace, hread, -, heq⟩ := h
  have halone := standsAlone_of_place hplace
  have hkind := Declaration.ofEntry?_kind hread
  cases reading with
  | function g =>
    obtain rfl : kind = .function g.isMember := hkind.symm
    cases hmember : g.isMember with
    | true =>
      rw [hmember] at halone
      exact (halone.not_member.1 rfl).elim
    | false =>
      rw [hmember] at hplace hread
      cases hread
      cases heq
      exact ⟨scopes, node, hsighting, hplace, rfl⟩
  | _ => cases heq

lemma Coherent.distinct (h : Coherent t) (options : Options) (file : String) (line : UInt64) :
    Declaration.Distinct (Seen t options file line) where
  proper {d} hd := by
    obtain ⟨scopes, node, kind, reading, -, hplace, hread, hrenderable, rfl⟩ := hd
    exact (Declaration.proper_of_place? h.named hplace hread hrenderable).setScopes scopes
  overload {f g L} hf hg hname hfL hgL := by
    obtain ⟨scopes, n, hn, hnplace, hfn⟩ := hf.function
    obtain ⟨scopes', m, hm, hmplace, hgm⟩ := hg.function
    rw [hfn, hgm] at hname ⊢
    rw [hfn] at hfL
    rw [hgm] at hgL
    exact h.overload hn hm hnplace hmplace hname hfL hgL

end HeaderRecovery.Registry
