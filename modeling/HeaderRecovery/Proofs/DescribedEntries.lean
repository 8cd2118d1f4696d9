import HeaderRecovery.Debug.Builder
import HeaderRecovery.Proofs.Merging
import HeaderRecovery.Proofs.RegistryInvariant
import HeaderRecovery.Proofs.Visits

/-!
Declarations and the entries that they stand for. Many entries may share one declaration, and it
changes with every sighting; still it says what each of them says itself, since what is recognised
says so already, or takes it over, and later sightings only add.
-/
namespace HeaderRecovery

/-- No two entries have one key. -/
def Debug.EntryTree.DistinctKeys (t : EntryTree) : Prop :=
  ∀ n < t.size, ∀ m < t.size, t.key n = t.key m → n = m

namespace Declaration
open Debug

variable {t : EntryTree} {n : NodeId}

/-- A name that the entry has, if it has one of its own that is no empty text. -/
def IsNameOf (t : EntryTree) (n : NodeId) (name : String) : Prop :=
  ∀ text, t.attr? n .name = some (.string text) → text ≠ "" → name = text

/-- What an entry says of itself its declaration says, too. -/
def States (t : EntryTree) (n : NodeId) : Declaration → Prop
  | typedef d => ∀ text, t.attr? n .name = some (.string text) → text ∈ d.names
  | function d => IsNameOf t n d.name ∧
      ∀ linker, t.linkageName? n = some linker → d.linkageName = some linker
  | nameImport d => d.target ≠ "" ∧ d.form = (NameImport.ofEntry t n).form ∧
      d.target = (NameImport.ofEntry t n).target
  | d => IsNameOf t n d.name

structure Describes (t : EntryTree) (n : NodeId) (d : Declaration) : Prop where
  kind : DeclarationKind.ofTag? (t.tag n) = some d.kind
  content : d.States t n

lemma shortName?_of_own {text : String} (h : t.attr? n .name = some (.string text)) :
    t.shortName? n = some text := by
  obtain ⟨rest, hrest⟩ : ∃ rest, t.declarationChain n = n :: rest := ⟨_, rfl⟩
  rw [EntryTree.shortName?, EntryTree.attrRecursive?, hrest, List.findSome?_cons, h]
  rfl

lemma isNameOf_nameOf (t : EntryTree) (n : NodeId) : IsNameOf t n (nameOf t n) := by
  intro text htext _
  rw [nameOf, shortName?_of_own htext, Option.getD_some]

/-- A name is not given up. -/
lemma IsNameOf.merge {name : String} (h : IsNameOf t n name) (other : String) :
    IsNameOf t n (firstName name other) := by
  intro text htext hne
  have heq := h text htext hne
  rw [firstName, if_neg (heq ▸ hne), heq]

lemma states_setScopes (scopes : List Scope) (d : Declaration) :
    (d.setScopes scopes).States t n ↔ d.States t n := by
  cases d <;> exact Iff.rfl

/-- Later sightings add to what a declaration says. -/
lemma States.merge {a : Declaration} (h : a.States t n) (b : Declaration) :
    (a.merge b).States t n := by
  rcases sameForm_or_merge_eq a b with hab | heq
  · cases hab with
    | typedef a b => exact fun text htext => Typedef.mem_addNames.mpr (Or.inl (h text htext))
    | function a b =>
      refine ⟨IsNameOf.merge h.1 b.name, fun linker hlinker => ?_⟩
      have hlinkage : (a.merge b).linkageName = a.linkageName.or b.linkageName := rfl
      rw [hlinkage, h.2 linker hlinker, Option.some_or]
    | nameImport a b =>
      obtain ⟨htarget, hform, hsame⟩ := h
      have hform' : (a.merge b).form = a.form := if_neg htarget
      have htarget' : (a.merge b).target = a.target := if_neg htarget
      exact ⟨htarget' ▸ htarget, hform' ▸ hform, htarget' ▸ hsame⟩
    | parameter a b | enumeration a b | field a b | aggregate a b =>
      exact IsNameOf.merge h b.name
  · rwa [heq]

/-- What recognises a declaration says what that one says once it has taken it in. -/
lemma States.of_sameAs {a b : Declaration} (h : a.sameAs b) (hb : b.States t n) :
    (a.merge b).States t n := by
  have hnamed : ∀ {name other}, name = other → IsNameOf t n other →
      IsNameOf t n (firstName name other) :=
    fun heq hother => IsNameOf.merge (heq.symm ▸ hother) _
  have hform := sameForm_of_sameAs h
  simp only [sameAs, Bool.and_eq_true, decide_eq_true_eq] at h
  cases hform with
  | typedef a b => exact fun text htext => Typedef.mem_addNames.mpr (Or.inr (hb text htext))
  | function a b =>
    simp only [Function.sameAs, Bool.and_eq_true, decide_eq_true_eq] at h
    refine ⟨hnamed h.2.1 hb.1, fun linker hlinker => ?_⟩
    have hlinkage : (a.merge b).linkageName = a.linkageName.or b.linkageName := rfl
    -- Two linker names must be one; a missing one is filled in.
    have hlinks := h.2.2
    rw [hlinkage]
    rw [hb.2 linker hlinker] at hlinks ⊢
    cases ha : a.linkageName with
    | none => rfl
    | some linker' =>
      rw [ha] at hlinks
      rw [Option.some_or, show linker' = linker by simpa using hlinks]
  | nameImport a b =>
    simp only [Bool.and_eq_true, decide_eq_true_eq] at h
    have ha : (nameImport a).States t n := ⟨h.2.2 ▸ hb.1, h.2.1 ▸ hb.2.1, h.2.2 ▸ hb.2.2⟩
    exact ha.merge (nameImport b)
  | parameter a b => exact hnamed (of_decide_eq_true h.2) hb
  | enumeration a b | field a b | aggregate a b =>
    simp only [Bool.and_eq_true, decide_eq_true_eq] at h
    exact hnamed h.2.2 hb

/-- A reading says what its entry says. -/
lemma ofEntry?_states {options : Options} {kind : DeclarationKind} {d : Declaration}
    (h : ofEntry? t options kind n = some d) (hrenderable : d.isRenderable)
    (hkind : kind.StandsAlone) :
    d.States t n := by
  obtain ⟨fuel, hfuel⟩ : ∃ fuel, nestingBound t options = fuel + 1 := ⟨_, rfl⟩
  rw [ ofEntry?, hfuel] at h
  cases kind <;> simp only [readWithin, Option.map_eq_some_iff, Option.some.injEq] at h
  case typedef =>
    obtain ⟨definition, -, rfl⟩ := h
    intro text htext
    have hnames : (Typedef.ofEntry t definition n).names = (t.shortName? n).toList := by
      cases definition <;> rfl
    rw [hnames, shortName?_of_own htext]
    exact List.mem_singleton.mpr rfl
  case function isMember =>
    subst h
    exact ⟨isNameOf_nameOf t n, fun _ hlinker => hlinker⟩
  case nameImport =>
    subst h
    exact ⟨by simpa [isRenderable] using hrenderable, rfl, rfl⟩
  case parameter =>
    obtain ⟨tag, htag⟩ := hkind
    cases tag <;> simp [DeclarationKind.ofTag?, AggregateKind.ofTag?] at htag
  case enumeration =>
    subst h
    exact isNameOf_nameOf t n
  case field =>
    obtain ⟨definition, -, rfl⟩ := h
    exact isNameOf_nameOf t n
  case scopeVariable =>
    obtain ⟨definition, -, rfl⟩ := h
    exact isNameOf_nameOf t n
  case aggregate =>
    obtain ⟨a, h, rfl⟩ := h
    obtain ⟨groups, -, rfl⟩ := Option.map_eq_some_iff.mp h
    exact isNameOf_nameOf t n

lemma Describes.merge {a b : Declaration} (h : Describes t n a) (hkind : b.kind = a.kind) :
    Describes t n (a.merge b) :=
  ⟨by rw [kind_merge hkind, h.kind], h.content.merge b⟩

lemma Describes.of_sameAs {a b : Declaration} (h : Describes t n b) (hsame : a.sameAs b)
    (hkind : b.kind = a.kind) : Describes t n (a.merge b) :=
  ⟨by rw [kind_merge hkind, h.kind, hkind], h.content.of_sameAs hsame⟩

end Declaration

namespace Registry
open Debug Declaration

variable {t : EntryTree} {r r' : Registry} {n : NodeId}

/-! What is stored -/

/-- Behind the returned location is the declaration itself, or what recognised it and has taken
it in; whatever else is stored stays as it is. -/
lemma get?_store (h : r.Consistent) {file : String} {line : UInt64} {d : Declaration} {l : Location}
    (hstore : r.store file line d = (r', some l)) :
    (∃ a, r'.get? l = some a ∧ (a = d ∧ r.get? l = none ∨
      ∃ present, r.get? l = some present ∧ present.sameAs d ∧ a = present.merge d)) ∧
    ∀ other, other ≠ l → r'.get? other = r.get? other := by
  have hstored := stored h.ordered file line d
  rw [hstore] at hstored
  cases hstored with
  | @found index known =>
    obtain ⟨present, hpresent, hsame⟩ := get?_of_recognise? known
    refine ⟨⟨_, ?_, Or.inr ⟨_, hpresent, hsame, rfl⟩⟩, fun other hother => ?_⟩
    · rw [get?_modify h.ordered, if_pos rfl, hpresent, Option.map_some]
    · rw [get?_modify h.ordered, if_neg hother]
  | added unknown room =>
    have hfree : r.get? ⟨file, line, (r.bucket file line).length⟩ = none := by simp [get?_eq_bucket]
    refine ⟨⟨d, ?_, Or.inl ⟨rfl, hfree⟩⟩, fun other hother => ?_⟩
    · rw [get?_add h.ordered room, if_pos rfl]
    · rw [get?_add h.ordered room, if_neg hother]

lemma get?_store_none (h : r.Consistent) {file : String} {line : UInt64} {d : Declaration}
    (hstore : r.store file line d = (r', none)) (l : Location) : r'.get? l = r.get? l := by
  have hstored := stored h.ordered file line d
  rw [hstore] at hstored
  cases hstored with
  | dropped unknown full => exact get?_add_full h.ordered full l

/-! Every registered entry is described -/

/-- The invariant: whoever is registered is described at its location. -/
def Described (t : EntryTree) (r : Registry) : Prop :=
  ∀ {n l}, n < t.size → r.locations[t.key n]? = some l → ∃ d, r.get? l = some d ∧ Describes t n d

lemma lt_size_of_place {kind : DeclarationKind} {file : String} {line : UInt64}
    (h : place? t n = some (kind, file, line)) : n < t.size := by
  by_contra hn
  have hentry : t.entry n = default := EntryTree.entry_of_size_le (Nat.not_lt.mp hn)
  have htag : t.tag n = .other 0 := by rw [EntryTree.tag, hentry]; rfl
  have hkind := kind_of_place h
  rw [htag] at hkind
  cases hkind

lemma describes_reading {kind : DeclarationKind} {file : String} {line : UInt64} {d : Declaration}
    {scopes : List Scope} (hplace : place? t n = some (kind, file, line))
    (hread : ofEntry? t r.options kind n = some d) (hrenderable : d.isRenderable) :
    Describes t n (d.setScopes scopes) where
  kind := by rw [kind_of_place hplace, kind_setScopes, ofEntry?_kind hread]
  content := (states_setScopes scopes d).mpr
    (ofEntry?_states hread hrenderable (standsAlone_of_place hplace))

lemma Described.merged (hordered : r.Ordered) (h : Described t r) {l : Location}
    {present again : Declaration} (stored : r.get? l = some present)
    (hkind : again.kind = present.kind) : Described t (r.modify l fun d => d.merge again) := by
  intro n l' hn hl'
  rw [modify_locations] at hl'
  obtain ⟨d, hd, hdescribes⟩ := h hn hl'
  rw [get?_modify hordered]
  by_cases hsame : l' = l
  · subst hsame
    cases stored.symm.trans hd
    exact ⟨_, by rw [if_pos rfl, hd]; rfl, hdescribes.merge hkind⟩
  · exact ⟨d, by rw [if_neg hsame, hd], hdescribes⟩

/-- The new key leads to what describes its entry; what the others lead to has at most taken that
in. -/
lemma Described.stored (hkeys : t.DistinctKeys) (hconsistent : r.Consistent) (h : Described t r)
    {node : NodeId} (hnode : node < t.size) {d : Declaration} (hd : Describes t node d)
    {file : String} {line : UInt64} {r₁ : Registry} {l : Location}
    (store : r.store file line d = (r₁, some l)) :
    Described t (r₁.remember (t.key node) (some l)) := by
  have hlocations : r₁.locations = r.locations := by rw [store_files store]
  have hkind : ∀ {l present}, r.get? l = some present → present.sameAs d → d.kind = present.kind :=
    fun hpresent hsame => kind_of_sameAs hsame (hconsistent.standsAlone hpresent) ⟨_, hd.kind⟩
  obtain ⟨⟨a, ha, hstored⟩, hothers⟩ := get?_store hconsistent store
  intro n l' hn hl'
  change ∃ d, r₁.get? l' = some d ∧ Describes t n d
  rw [remember_locations, hlocations] at hl'
  by_cases hkey : t.key node = t.key n
  · rw [if_pos hkey, Option.some.injEq] at hl'
    subst hl'
    obtain rfl : node = n := hkeys node hnode n hn hkey
    refine ⟨a, ha, ?_⟩
    obtain ⟨rfl, -⟩ | ⟨present, hpresent, hsame, rfl⟩ := hstored
    · exact hd
    · exact hd.of_sameAs hsame (hkind hpresent hsame)
  · rw [if_neg hkey] at hl'
    obtain ⟨before, hbefore, hdescribes⟩ := h hn hl'
    by_cases hsame : l' = l
    · subst hsame
      refine ⟨a, ha, ?_⟩
      obtain ⟨-, hfree⟩ | ⟨present, hpresent, hsame, rfl⟩ := hstored
      · cases hfree.symm.trans hbefore
      · cases hpresent.symm.trans hbefore
        exact hdescribes.merge (hkind hpresent hsame)
    · exact ⟨before, (hothers l' hsame).trans hbefore, hdescribes⟩

/-- The step of the invariant. -/
lemma Move.described (hkeys : t.DistinctKeys) (hconsistent : r.Consistent) (h : Described t r)
    (move : Move t r r') : Described t r' := by
  cases move with
  | narrow baseDir => exact h
  | merge known stands stored reading =>
    exact h.merged hconsistent.ordered stored (ofEntry?_kind reading)
  | @store node kind file line d scopes r₁ l? new place reading renderable store =>
    have hd : Describes t node (d.setScopes scopes) := describes_reading place reading renderable
    intro n l' hn hl'
    cases l? with
    | none =>
      rw [remember, store_files store] at hl'
      obtain ⟨before, hbefore, hdescribes⟩ := h hn hl'
      exact ⟨before, (get?_store_none hconsistent store l').trans hbefore, hdescribes⟩
    | some l =>
      exact Described.stored hkeys hconsistent h (lt_size_of_place place) hd store hn hl'

lemma Moves.described (hkeys : t.DistinctKeys) (hconsistent : r.Consistent) (h : Described t r)
    (moves : Moves t r r') : Described t r' := by
  induction moves with
  | refl => exact h
  | tail moves move ih => exact move.described hkeys (Moves.keeps hconsistent moves).1 ih

/-! The first sighting under a key -/

/-- The visit that makes the key of an entry known when the units with these roots are collected,
and the namespaces in which the walk then stands. -/
inductive FirstSeen (t : EntryTree) (r : Registry) : List NodeId → NodeId → List Scope → Prop
  | intro {before after : List NodeId} {root child : NodeId} {name directory : String}
      {seen rest : List (List Scope × NodeId)} {scopes : List Scope} {r₀ r₁ r₂ : Registry}
      (earlier : r.updateAll t before = some r₀)
      (isRoot : t.isUnitRoot root)
      (named : (t.unitOf root).name = some name)
      (located : (t.unitOf root).directory = some directory)
      (visits : unitVisits t root = seen ++ (scopes, child) :: rest)
      (walked : seen.foldlM (fun r v => visit t v.1 r v.2)
        { r₀ with baseDir := narrow r₀.baseDir (unitDirectory name directory) } = some r₁)
      (visited : visit t scopes r₁ child = some r₂)
      (new : r₁.locations[t.key (t.resolve child)]? = none)
      (known : (r₂.locations[t.key (t.resolve child)]?).isSome) :
      FirstSeen t r (before ++ root :: after) (t.resolve child) scopes

lemma visits_moves {vs : List (List Scope × NodeId)}
    (h : vs.foldlM (fun r v => visit t v.1 r v.2) r = some r') : Moves t r r' :=
  foldlM_chain (fun _ => .refl) Relation.ReflTransGen.trans visit_moves h

/-- A look at an entry makes no key known but its own, and then its declaration is in the
namespaces of the call. -/
lemma getOrCreate_registers (hconsistent : r.Consistent) {node : NodeId} {scopes : List Scope}
    {l? : Option Location} (h : r.getOrCreate t node scopes = some (r', l?)) {key : EntryKey}
    (new : r.locations[key]? = none) (known : (r'.locations[key]?).isSome) :
    key = t.key node ∧ (place? t node).isSome ∧
      ∃ d, r'.lookup? key = some d ∧ d.scopes = scopes := by
  have hchanged : r'.locations ≠ r.locations := fun heq => by
    rw [heq, new] at known
    cases known
  rcases getOrCreate_cases h with ⟨l, -, -, hmerge⟩ | ⟨-, ⟨-, rfl, -⟩ | hplaced⟩
  · exact (hchanged (by rw [mergeReading_files hmerge])).elim
  · exact (hchanged rfl).elim
  obtain ⟨kind, file, line, d, hplace, hread, ⟨-, rfl, -⟩ | ⟨-, r₁, hstore, rfl⟩⟩ := hplaced
  · exact (hchanged rfl).elim
  have hlocations : r₁.locations = r.locations := by rw [store_files hstore]
  cases l? with
  | none => exact (hchanged hlocations).elim
  | some l =>
    have hkey : t.key node = key := by
      by_contra hne
      rw [remember_locations, if_neg hne, hlocations, new] at known
      cases known
    obtain ⟨⟨a, ha, hstored⟩, -⟩ := get?_store hconsistent hstore
    have hget : (r₁.remember (t.key node) (some l)).get? l = some a := ha
    refine ⟨hkey.symm, by rw [hplace]; rfl, a, ?_, ?_⟩
    · rw [lookup?, remember_locations, if_pos hkey, Option.bind_some, hget]
    · obtain ⟨rfl, -⟩ | ⟨present, -, hsame, rfl⟩ := hstored
      · exact scopes_setScopes scopes d
      · have hscopes := scopes_of_sameAs hsame
        rw [scopes_merge (Or.inr hscopes.symm), hscopes, scopes_setScopes]

/-- What is looked up stays in its namespaces. -/
lemma Keeps.lookup? (h : r.Keeps r') {key : EntryKey} {d : Declaration}
    (hd : r.lookup? key = some d) :
    ∃ d', r'.lookup? key = some d' ∧ d'.scopes = d.scopes := by
  obtain ⟨l, hl, hget⟩ := Option.bind_eq_some_iff.mp hd
  obtain ⟨d', hd', -, hscopes⟩ := h.declaration hget
  exact ⟨d', by rw [Registry.lookup?, h.location hl, Option.bind_some, hd'], hscopes⟩

lemma visit_registers (hconsistent : r.Consistent) {scopes : List Scope} {child : NodeId}
    (h : visit t scopes r child = some r') {key : EntryKey} (new : r.locations[key]? = none)
    (known : (r'.locations[key]?).isSome) :
    key = t.key (t.resolve child) ∧ (place? t (t.resolve child)).isSome ∧
      ∃ d, r'.lookup? key = some d ∧ d.scopes = scopes := by
  obtain ⟨r₁, l?, hget, ⟨-, rfl⟩ | ⟨l, rfl, ⟨-, rfl⟩ | ⟨-, hmerge⟩⟩⟩ := visit_cases h
  · exact getOrCreate_registers hconsistent hget new known
  · exact getOrCreate_registers hconsistent hget new known
  · rw [mergeReading_files hmerge] at known
    obtain ⟨hkey, hplace, d, hd, hscopes⟩ := getOrCreate_registers hconsistent hget new known
    have hconsistent' := (Moves.keeps hconsistent (getOrCreate_moves hget)).1
    have hmoves := mergeReading_moves (getOrCreate_known hget) (Or.inr rfl) hmerge
    obtain ⟨d', hd', hscopes'⟩ := (Moves.keeps hconsistent' hmoves).2.lookup? hd
    exact ⟨hkey, hplace, d', hd', hscopes'.trans hscopes⟩

/-- Among visits that make a key known there is one that does. -/
lemma exists_registering_visit {vs : List (List Scope × NodeId)}
    (h : vs.foldlM (fun r v => visit t v.1 r v.2) r = some r') {key : EntryKey}
    (new : r.locations[key]? = none) (known : (r'.locations[key]?).isSome) :
    ∃ seen scopes child rest r₁ r₂, vs = seen ++ (scopes, child) :: rest ∧
      seen.foldlM (fun r v => visit t v.1 r v.2) r = some r₁ ∧ visit t scopes r₁ child = some r₂ ∧
      r₁.locations[key]? = none ∧ (r₂.locations[key]?).isSome := by
  induction vs generalizing r with
  | nil =>
    cases h
    rw [new] at known
    cases known
  | cons v vs ih =>
    rw [List.foldlM_cons] at h
    obtain ⟨r₁, hfirst, hrest⟩ := Option.bind_eq_some_iff.mp h
    cases hkey : r₁.locations[key]? with
    | some l => exact ⟨[], v.1, v.2, vs, r, r₁, rfl, rfl, hfirst, new, by rw [hkey]; rfl⟩
    | none =>
      obtain ⟨seen, scopes, child, rest, r₂, r₃, rfl, hseen, hvisit, hnew, hknown⟩ := ih hrest hkey
      refine ⟨v :: seen, scopes, child, rest, r₂, r₃, rfl, ?_, hvisit, hnew, hknown⟩
      rw [List.foldlM_cons, hfirst]
      exact hseen

lemma update_firstSeen (hkeys : t.DistinctKeys) (hconsistent : r.Consistent) {root : NodeId}
    (h : r.update t root = some r') (hn : n < t.size) (new : r.locations[t.key n]? = none)
    (known : (r'.locations[t.key n]?).isSome) (after : List NodeId) :
    ∃ scopes, FirstSeen t r (root :: after) n scopes := by
  have hchanged : r' ≠ r := by
    rintro rfl
    rw [new] at known
    cases known
  have hcollected : Collected t root := by
    by_contra hnot
    rw [update_of_not_collected hnot, Option.some.injEq] at h
    exact hchanged h.symm
  obtain ⟨name, hname⟩ := Option.isSome_iff_exists.mp hcollected.name
  obtain ⟨directory, hdirectory⟩ := Option.isSome_iff_exists.mp hcollected.directory
  rw [update_eq_foldlM hcollected.isRoot hname hdirectory] at h
  obtain ⟨seen, scopes, child, rest, r₁, r₂, hvisits, hseen, hvisit, hnew, hknown⟩ :=
    exists_registering_visit h new known
  have hnarrowed : Moves t r
      { r with baseDir := narrow r.baseDir (unitDirectory name directory) } := .single (.narrow _)
  have hconsistent' := (Moves.keeps hconsistent (hnarrowed.trans (visits_moves hseen))).1
  obtain ⟨hkey, hplace, -⟩ := visit_registers hconsistent' hvisit hnew hknown
  obtain ⟨⟨kind, file, line⟩, hplace⟩ := Option.isSome_iff_exists.mp hplace
  obtain rfl : n = t.resolve child := hkeys n hn _ (lt_size_of_place hplace) hkey
  have hfirst : FirstSeen t r ([] ++ root :: after) (t.resolve child) scopes :=
    .intro rfl hcollected.isRoot hname hdirectory hvisits hseen hvisit hnew hknown
  exact ⟨scopes, hfirst⟩

lemma FirstSeen.cons {root : NodeId} {roots : List NodeId} {scopes : List Scope}
    (hfirst : r.update t root = some r') (hseen : FirstSeen t r' roots n scopes) :
    FirstSeen t r (root :: roots) n scopes := by
  cases hseen with
  | @intro before after _ _ _ _ _ _ _ r₀ _ _ earlier isRoot named located visits walked visited new
      known =>
    have hearlier : r.updateAll t (root :: before) = some r₀ := by
      rw [updateAll, List.foldlM_cons, hfirst]
      exact earlier
    rw [← List.cons_append]
    exact .intro hearlier isRoot named located visits walked visited new known

/-- Every registered entry was registered by a visit. -/
lemma exists_firstSeen (hkeys : t.DistinctKeys) (hconsistent : r.Consistent) {roots : List NodeId}
    (h : r.updateAll t roots = some r') (hn : n < t.size) (new : r.locations[t.key n]? = none)
    (known : (r'.locations[t.key n]?).isSome) : ∃ scopes, FirstSeen t r roots n scopes := by
  induction roots generalizing r with
  | nil =>
    cases h
    rw [new] at known
    cases known
  | cons root rest ih =>
    rw [updateAll, List.foldlM_cons] at h
    obtain ⟨r₁, hfirst, hrest⟩ := Option.bind_eq_some_iff.mp h
    cases hkey : r₁.locations[t.key n]? with
    | some l => exact update_firstSeen hkeys hconsistent hfirst hn new (by rw [hkey]; rfl) rest
    | none =>
      have hconsistent' := (Moves.keeps hconsistent (update_moves hfirst)).1
      obtain ⟨scopes, hseen⟩ := ih hconsistent' hrest hkey
      exact ⟨scopes, hseen.cons hfirst⟩

/-- The namespaces of the first sighting are those of the declaration ever after. -/
lemma FirstSeen.scopes (hconsistent : r.Consistent) {roots : List NodeId} {scopes : List Scope}
    (hseen : FirstSeen t r roots n scopes) (h : r.updateAll t roots = some r') :
    ∃ d, r'.lookup? (t.key n) = some d ∧ d.scopes = scopes := by
  cases hseen with
  | @intro before after root child name directory seen rest scopes r₀ r₁ r₂ earlier isRoot named
      located visits walked visited new known =>
    have hupdate : r₀.update t root = rest.foldlM (fun r v => visit t v.1 r v.2) r₂ := by
      rw [update_eq_foldlM isRoot named located, visits, List.foldlM_append, walked,
        Option.bind_eq_bind, Option.bind_some, List.foldlM_cons, visited, Option.bind_eq_bind,
        Option.bind_some]
    rw [updateAll, List.foldlM_append] at h
    obtain ⟨r₃, hbefore, h⟩ := Option.bind_eq_some_iff.mp h
    cases earlier.symm.trans hbefore
    rw [List.foldlM_cons, hupdate] at h
    obtain ⟨r₄, hrest, hafter⟩ := Option.bind_eq_some_iff.mp h
    have hnarrowed : Moves t r₀
        { r₀ with baseDir := narrow r₀.baseDir (unitDirectory name directory) } :=
          .single (.narrow _)
    have hmoves : Moves t r r₁ :=
      (updateAll_moves earlier).trans (hnarrowed.trans (visits_moves walked))
    have hconsistent' := (Moves.keeps hconsistent hmoves).1
    obtain ⟨-, -, d, hd, hscopes⟩ := visit_registers hconsistent' visited new known
    have hlater : Moves t r₂ r' := (visits_moves hrest).trans (updateAll_moves hafter)
    have hconsistent'' := (Moves.keeps hconsistent' (visit_moves visited)).1
    obtain ⟨d', hd', hscopes'⟩ := (Moves.keeps hconsistent'' hlater).2.lookup? hd
    exact ⟨d', hd', hscopes'.trans hscopes⟩

/-- After any units, whoever is registered is described by the declaration that its key leads to:
in kind, name, linker name, alias or import, and in the namespaces of its first sighting. So no
two functions with different linker names share a declaration. -/
theorem lookup_describes (hkeys : t.DistinctKeys) {options : Options} {roots : List NodeId}
    (h : (empty options).updateAll t roots = some r) (hn : n < t.size)
    (known : (r.locations[t.key n]?).isSome) :
    (∃ d, r.lookup? (t.key n) = some d ∧ Describes t n d ∧
      (∃ scopes, FirstSeen t (empty options) roots n scopes) ∧
      ∀ scopes, FirstSeen t (empty options) roots n scopes → d.scopes = scopes) ∧
    ∀ m linker linker', m < t.size → r.locations[t.key m]? = r.locations[t.key n]? →
      t.tag n = .subprogram → t.linkageName? n = some linker → t.linkageName? m = some linker' →
      linker = linker' := by
  have hconsistent := empty_consistent options
  have hdescribed : Described t r :=
    Moves.described hkeys hconsistent (fun _ hl => by simp [empty] at hl) (updateAll_moves h)
  obtain ⟨l, hl⟩ := Option.isSome_iff_exists.mp known
  obtain ⟨d, hd, hdescribes⟩ := hdescribed hn hl
  have hlookup : r.lookup? (t.key n) = some d := by rw [lookup?, hl, Option.bind_some, hd]
  refine ⟨⟨d, hlookup, hdescribes, ?_, ?_⟩, ?_⟩
  · exact exists_firstSeen hkeys hconsistent h hn (by simp [empty]) known
  · intro scopes hseen
    obtain ⟨d', hd', hscopes⟩ := hseen.scopes hconsistent h
    cases hlookup.symm.trans hd'
    exact hscopes
  · intro m linker linker' hm hshared htag hlinker hlinker'
    obtain ⟨d', hd', hother⟩ := hdescribed hm (hshared.trans hl)
    cases hd.symm.trans hd'
    have hkind := hdescribes.kind
    rw [htag] at hkind
    cases d with
    | function f =>
      have hstated := hdescribes.content.2 linker hlinker
      exact Option.some.inj (hstated.symm.trans (hother.content.2 linker' hlinker'))
    | field f => by_cases hf : f.isVariable <;> simp [DeclarationKind.ofTag?, kind, hf] at hkind
    | _ => cases hkind

/-- One unit declares a function of a namespace without a linker name; another one declares two of
that name on the same line and tells them apart. -/
def overloads : EntryTree :=
  let declare := fun (b : TreeBuilder) (unit : String) (linkers : List (Option String)) =>
    let (b, root) := b.compileUnit unit "/src"
    let (b, lib) := b.child root .namespaceScope
    linkers.foldl (fun b linker =>
      let (b, f) := b.child lib .subprogram
      let b := (b.name f "f").declaredAt f "/src/lib.h" 5
      match linker with
      | some linker => b.addAttr f .linkageName (.string linker)
      | none => b) (b.name lib "lib")
  (declare (declare .start "a.cpp" [none]) "b.cpp" [some "_ZN3lib1fEv", some "_ZN3lib1fEi"]).tree

/-- The first of the two shares the declaration of the other unit, which then has its linker
name; the second one does not. -/
theorem overloads_described :
    ∃ r, (empty {}).updateAll overloads [0, 3] = some r ∧
      r.locations[overloads.key 2]? = r.locations[overloads.key 5]? ∧
      r.locations[overloads.key 5]? ≠ r.locations[overloads.key 6]? ∧
      ∃ d scopes, r.lookup? (overloads.key 5) = some d ∧ Describes overloads 5 d ∧
        FirstSeen overloads (empty {}) [0, 3] 5 scopes ∧ d.scopes = scopes := by
  have hkeys : overloads.DistinctKeys := by
    unfold EntryTree.DistinctKeys
    decide +kernel
  have hlinkers : overloads.tag 5 = .subprogram ∧ overloads.linkageName? 5 = some "_ZN3lib1fEv" ∧
      overloads.linkageName? 6 = some "_ZN3lib1fEi" := by decide +kernel
  have hrun : ((empty {}).updateAll overloads [0, 3]).map (fun r =>
      (r.locations[overloads.key 2]?, r.locations[overloads.key 5]?)) =
        some (some ⟨"/src/lib.h", 5, 0⟩, some ⟨"/src/lib.h", 5, 0⟩) := by cbv
  obtain ⟨r, hr, hlocations⟩ := Option.map_eq_some_iff.mp hrun
  obtain ⟨hfirst, hsecond⟩ := Prod.mk.inj hlocations
  have hknown : (r.locations[overloads.key 5]?).isSome := by rw [hsecond]; rfl
  obtain ⟨⟨d, hd, hdescribes, ⟨scopes, hseen⟩, hscopes⟩, happart⟩ :=
    lookup_describes hkeys hr (by decide +kernel) hknown
  refine ⟨r, hr, hfirst.trans hsecond.symm, fun hshared => ?_, d, scopes, hd, hdescribes, hseen,
    hscopes scopes hseen⟩
  have hsame := happart 6 _ _ (by decide +kernel) hshared.symm hlinkers.1 hlinkers.2.1 hlinkers.2.2
  exact absurd hsame (by decide)

end Registry
end HeaderRecovery
