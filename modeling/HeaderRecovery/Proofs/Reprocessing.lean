import HeaderRecovery.Proofs.DescribedEntries
import HeaderRecovery.Proofs.RepeatedUnits
import HeaderRecovery.Proofs.Replay

/-!
Units that are collected a second time. Each stored declaration was put together from readings
of the entries that lead to it, in the order of the visits. A second round takes in the same
readings in the same order, and so it ends with the same files, as long as keys tell the visited
entries apart. Two entries under one key are one to the registry: what was passed over in the
first round is merged in the second.
-/
namespace HeaderRecovery.Registry
open Debug Declaration

variable {t : EntryTree} {r r' R : Registry}

/-- One reading: the entry by whose key a declaration is known, and the entry that is read. -/
structure Look where
  owner : NodeId
  node : NodeId

/-- What a visit reads: the entry that the child stands for, then the child if it is another. -/
def looksAt (t : EntryTree) (child : NodeId) : List Look :=
  ⟨t.resolve child, t.resolve child⟩ ::
    if t.resolve child = child then [] else [⟨t.resolve child, child⟩]

/-- What a look says of the declaration at a location. -/
def reading? (t : EntryTree) (r : Registry) (kind : DeclarationKind) (l : Location) (s : Look) :
    Option Declaration :=
  if r.locations[t.key s.owner]? = some l then ofEntry? t r.options kind s.node else none

/-- What all looks together say of it. -/
def told (t : EntryTree) (r : Registry) (kind : DeclarationKind) (l : Location)
    (looks : List Look) : List Declaration :=
  looks.filterMap (reading? t r kind l)

/-- An entry that is passed over whenever it is visited. -/
def Passed (t : EntryTree) (options : Options) (n : NodeId) : Prop :=
  place? t n = none ∨ ∃ kind file line d, place? t n = some (kind, file, line) ∧
    ofEntry? t options kind n = some d ∧ d.isRenderable = false

/-- The invariant of the first round: each stored declaration is made of what the looks so far
say of it. -/
structure Accounted (t : EntryTree) (r : Registry) (looks : List Look) : Prop where
  consistent : r.Consistent
  passed : ∀ s ∈ looks, r.locations[t.key s.owner]? = none → Passed t r.options s.owner
  legible : ∀ s ∈ looks, ∀ {l d}, r.locations[t.key s.owner]? = some l → r.get? l = some d →
    (Declaration.ofEntry? t r.options d.kind s.node).isSome
  made : ∀ {l d}, r.get? l = some d → ∃ x rest scopes,
    told t r d.kind l looks = x :: rest ∧ d = rest.foldl merge (x.setScopes scopes)

/-- A look under a key that leads elsewhere, or nowhere, says nothing. -/
lemma told_unheard {l : Location} {s : Look} (h : r.locations[t.key s.owner]? ≠ some l)
    (kind : DeclarationKind) (looks : List Look) :
    told t r kind l (looks ++ [s]) = told t r kind l looks := by
  simp [told, reading?, h]

/-- A look under a key that leads there says what it reads. -/
lemma told_heard {kind : DeclarationKind} {l : Location} {s : Look} {d : Declaration}
    (known : r.locations[t.key s.owner]? = some l)
    (reading : ofEntry? t r.options kind s.node = some d) (looks : List Look) :
    told t r kind l (looks ++ [s]) = told t r kind l looks ++ [d] := by
  simp [told, reading?, known, reading]

/-- What the looks say depends on the locations of their owners only. -/
lemma told_congr {looks : List Look} (hoptions : r'.options = r.options)
    (hsame : ∀ s ∈ looks, r'.locations[t.key s.owner]? = r.locations[t.key s.owner]?)
    (kind : DeclarationKind) (l : Location) :
    told t r' kind l looks = told t r kind l looks := by
  apply List.filterMap_congr
  intro s hs
  rw [reading?, reading?, hsame s hs, hoptions]

lemma told_eq_nil {looks : List Look} {l : Location}
    (h : ∀ s ∈ looks, r.locations[t.key s.owner]? ≠ some l) (kind : DeclarationKind) :
    told t r kind l looks = [] := by
  rw [told, List.filterMap_eq_nil_iff]
  intro s hs
  exact if_neg (h s hs)

lemma of_mem_told {kind : DeclarationKind} {l : Location} {looks : List Look} {y : Declaration}
    (h : y ∈ told t r kind l looks) : ∃ node, ofEntry? t r.options kind node = some y := by
  obtain ⟨s, -, hs⟩ := List.mem_filterMap.mp h
  unfold reading? at hs
  split at hs
  · exact ⟨s.node, hs⟩
  · cases hs

/-- What a declaration is after it was stored in some namespaces and has taken in the rest. -/
def ComposedOf (readings : List Declaration) (d : Declaration) : Prop :=
  ∃ x rest scopes, readings = x :: rest ∧ d = rest.foldl merge (x.setScopes scopes)

lemma ComposedOf.setScopes (d : Declaration) (scopes : List Scope) :
    ComposedOf [d] (d.setScopes scopes) := ⟨d, [], scopes, rfl, rfl⟩

lemma ComposedOf.merge {readings : List Declaration} {a : Declaration} (h : ComposedOf readings a)
    (d : Declaration) : ComposedOf (readings ++ [d]) (a.merge d) := by
  obtain ⟨x, rest, scopes, rfl, rfl⟩ := h
  exact ⟨x, rest ++ [d], scopes, rfl, by rw [List.foldl_append, List.foldl_cons, List.foldl_nil]⟩

lemma empty_accounted (options : Options) : Accounted t (empty options) [] where
  consistent := empty_consistent options
  passed _ h := by cases h
  legible _ h := by cases h
  made h := by simp [get?_eq_bucket, bucket_empty] at h

/-! The first round -/

/-- A step that keeps the locations of the earlier looks accounts for a further one, if what is
asked of it holds and the declarations are made of all. -/
lemma Accounted.extend {looks : List Look} (h : Accounted t r looks) {s : Look}
    (hconsistent : r'.Consistent) (hkeeps : r.Keeps r')
    (hsame : ∀ s ∈ looks, r'.locations[t.key s.owner]? = r.locations[t.key s.owner]?)
    (hpassed : r'.locations[t.key s.owner]? = none → Passed t r'.options s.owner)
    (hlegible : ∀ {l d}, r'.locations[t.key s.owner]? = some l → r'.get? l = some d →
      (Declaration.ofEntry? t r'.options d.kind s.node).isSome)
    (hmade : ∀ {l d}, r'.get? l = some d → ComposedOf (told t r' d.kind l (looks ++ [s])) d) :
    Accounted t r' (looks ++ [s]) where
  consistent := hconsistent
  passed s' hs' hnone := by
    rcases List.mem_append.mp hs' with hs' | hs'
    · rw [hkeeps.options]
      exact h.passed s' hs' ((hsame s' hs').symm.trans hnone)
    · rw [List.mem_singleton.mp hs'] at hnone ⊢
      exact hpassed hnone
  legible s' hs' l d hl hd := by
    rcases List.mem_append.mp hs' with hs' | hs'
    · rw [hsame s' hs'] at hl
      obtain ⟨before, hbefore⟩ := Option.isSome_iff_exists.mp (h.consistent.live hl)
      obtain ⟨d', hd', hkind, -⟩ := hkeeps.declaration hbefore
      cases hd.symm.trans hd'
      rw [hkeeps.options, hkind]
      exact h.legible s' hs' hl hbefore
    · rw [List.mem_singleton.mp hs'] at hl ⊢
      exact hlegible hl hd
  made := hmade

/-- A look at an entry that is passed over says nothing. -/
lemma Accounted.add_passed {looks : List Look} (h : Accounted t r looks) {s : Look}
    (unknown : r.locations[t.key s.owner]? = none) (hpassed : Passed t r.options s.owner) :
    Accounted t r (looks ++ [s]) := by
  refine h.extend h.consistent (.refl r) (fun _ _ => rfl) (fun _ => hpassed) ?_ ?_
  · intro l d hl
    rw [unknown] at hl
    cases hl
  · intro l d hd
    rw [told_unheard (by simp [unknown])]
    exact h.made hd

/-- A look whose key leads to a declaration is told of this one alone. -/
lemma Accounted.extend_heard {looks : List Look} (h : Accounted t r looks) {s : Look}
    {l : Location} {a d : Declaration} (hconsistent : r'.Consistent) (hkeeps : r.Keeps r')
    (hsame : ∀ s ∈ looks, r'.locations[t.key s.owner]? = r.locations[t.key s.owner]?)
    (known : r'.locations[t.key s.owner]? = some l)
    (reading : ofEntry? t r'.options a.kind s.node = some d) (ha : r'.get? l = some a)
    (hmade : ComposedOf (told t r a.kind l looks ++ [d]) a)
    (hothers : ∀ other, other ≠ l → r'.get? other = r.get? other) :
    Accounted t r' (looks ++ [s]) := by
  refine h.extend hconsistent hkeeps hsame ?_ ?_ ?_
  · intro hnone
    rw [known] at hnone
    cases hnone
  · intro other x hl hx
    cases known.symm.trans hl
    cases ha.symm.trans hx
    rw [reading]
    rfl
  · intro other x hx
    by_cases hother : other = l
    · subst hother
      cases ha.symm.trans hx
      rw [told_heard known reading, told_congr hkeeps.options hsame]
      exact hmade
    · have hunheard : r'.locations[t.key s.owner]? ≠ some other := by
        rw [known]
        exact fun heq => hother (Option.some.inj heq).symm
      rw [told_unheard hunheard, told_congr hkeeps.options hsame]
      exact h.made ((hothers other hother).symm.trans hx)

/-- A look at a known entry is told of the declaration that takes it in. -/
lemma Accounted.add_merged {looks : List Look} (h : Accounted t r looks) {s : Look} {l : Location}
    (known : r.locations[t.key s.owner]? = some l)
    (hmerge : r.mergeReading t l s.node = some r') : Accounted t r' (looks ++ [s]) := by
  obtain ⟨live, hlive⟩ := Option.isSome_iff_exists.mp (h.consistent.live known)
  obtain ⟨present, again, hpresent, reading, rfl⟩ | ⟨missing, -⟩ := mergeReading_cases hmerge
  · have hkind : (present.merge again).kind = present.kind := kind_merge (ofEntry?_kind reading)
    obtain ⟨hconsistent, hkeeps⟩ := h.consistent.modify (l := l) (g := fun d => d.merge again) (by
      intro d hd
      cases hpresent.symm.trans hd
      exact ⟨hkind, scopes_merge (Or.inl (ofEntry?_scopes reading))⟩)
    have hget := get?_modify h.consistent.ordered l fun d => d.merge again
    have hmerged : (r.modify l fun d => d.merge again).get? l = some (present.merge again) := by
      rw [hget, if_pos rfl, hpresent, Option.map_some]
    refine h.extend_heard (l := l) hconsistent hkeeps (fun s _ => ?_) ?_ ?_ hmerged
      (d := again) ?_ fun other hother => ?_
    · rw [modify_locations]
    · rw [modify_locations, known]
    · rw [modify_options, hkind, reading]
    · rw [hkind]
      exact ComposedOf.merge (h.made hpresent) again
    · rw [hget, if_neg hother]
  · rw [hlive] at missing
    cases missing

section
variable {looks : List Look} {n : NodeId} {kind : DeclarationKind} {file : String}
  {line : UInt64} {d : Declaration} {scopes : List Scope}

/-- An earlier look under the key of an entry would have registered it. -/
lemma Accounted.key_unseen (h : Accounted t r looks)
    (hdistinct : ∀ s ∈ looks, t.key s.owner = t.key n → s.owner = n)
    (new : r.locations[t.key n]? = none) (place : place? t n = some (kind, file, line))
    (reading : ofEntry? t r.options kind n = some d) (renderable : d.isRenderable) :
    ∀ s ∈ looks, t.key n ≠ t.key s.owner := by
  intro s hs hkey
  have hpassed := h.passed s hs (by rw [← hkey, new])
  rw [hdistinct s hs hkey.symm] at hpassed
  rcases hpassed with unplaced | ⟨kind', file', line', d', place', reading', unrenderable⟩
  · rw [place] at unplaced
    cases unplaced
  · cases place.symm.trans place'
    cases reading.symm.trans reading'
    rw [renderable] at unrenderable
    cases unrenderable

/-- What a reading is stored as is made of what was said of the location before, and of it. -/
lemma Accounted.composedOf_stored (h : Accounted t r looks) {l : Location} {a : Declaration}
    (reading : ofEntry? t r.options kind n = some d) (alone : kind.StandsAlone)
    (hstored : a = d.setScopes scopes ∧ r.get? l = none ∨ ∃ present, r.get? l = some present ∧
      present.sameAs (d.setScopes scopes) ∧ a = present.merge (d.setScopes scopes)) :
    a.kind = kind ∧ ComposedOf (told t r kind l looks ++ [d]) a := by
  obtain rfl : d.kind = kind := ofEntry?_kind reading
  rcases hstored with ⟨rfl, hfree⟩ | ⟨present, hpresent, hrecognised, rfl⟩
  · have hnone : told t r d.kind l looks = [] := told_eq_nil (fun s hs hl => by
      have hlive := h.consistent.live hl
      rw [hfree] at hlive
      cases hlive) d.kind
    rw [hnone]
    exact ⟨kind_setScopes scopes d, .setScopes d scopes⟩
  · have hkind : d.kind = present.kind := h.consistent.kind_of_recognised hpresent hrecognised alone
    rw [merge_recognised hrecognised (ofEntry?_scopes reading), hkind]
    exact ⟨kind_merge hkind, ComposedOf.merge (h.made hpresent) d⟩

/-- A reading that is stored under a new key is told of its location alone. -/
lemma Accounted.add_stored (h : Accounted t r looks) {l : Location} {r₁ : Registry}
    (hdistinct : ∀ s ∈ looks, t.key s.owner = t.key n → s.owner = n)
    (new : r.locations[t.key n]? = none) (place : place? t n = some (kind, file, line))
    (reading : ofEntry? t r.options kind n = some d) (renderable : d.isRenderable)
    (store : r.store file line (d.setScopes scopes) = (r₁, some l)) :
    Accounted t (r₁.remember (t.key n) (some l)) (looks ++ [⟨n, n⟩]) := by
  obtain ⟨hconsistent, hkeeps⟩ :=
    Move.keeps h.consistent (.store new place reading renderable store)
  have hlocations : ∀ k, (r₁.remember (t.key n) (some l)).locations[k]? =
      if t.key n = k then some l else r.locations[k]? := by
    intro k
    rw [remember_locations, store_files store]
  obtain ⟨⟨a, ha, hstored⟩, hothers⟩ := get?_store h.consistent store
  obtain ⟨hkind, hmade⟩ := h.composedOf_stored reading (standsAlone_of_place place) hstored
  refine h.extend_heard (a := a) (d := d) hconsistent hkeeps (fun s hs => ?_) ?_ ?_ ha ?_ hothers
  · rw [hlocations, if_neg (h.key_unseen hdistinct new place reading renderable s hs)]
  · rw [hlocations, if_pos rfl]
  · rw [hkeeps.options, hkind, reading]
  · rw [hkind]
    exact hmade

end

/-- Whether a visit offers a declaration to a line that is full. -/
def drops (t : EntryTree) (r : Registry) (v : List Scope × NodeId) : Bool :=
  match r.locations[t.key (t.resolve v.2)]?, place? t (t.resolve v.2) with
  | none, some (kind, file, line) =>
    match ofEntry? t r.options kind (t.resolve v.2) with
    | some d => d.isRenderable && (r.store file line (d.setScopes v.1)).2.isNone
    | none => false
  | _, _ => false

/-- Whether no declaration is dropped for a full line during the visits. -/
def fits (t : EntryTree) : Registry → List (List Scope × NodeId) → Bool
  | _, [] => true
  | r, v :: rest => !drops t r v && (visit t v.1 r v.2).all fun r' => fits t r' rest

section
variable {looks : List Look} {scopes : List Scope} {child : NodeId}

lemma getOrCreate_accounted (h : Accounted t r looks)
    (hdistinct : ∀ s ∈ looks, t.key s.owner = t.key (t.resolve child) → s.owner = t.resolve child)
    (hroom : drops t r (scopes, child) = false) {l? : Option Location}
    (hget : r.getOrCreate t (t.resolve child) scopes = some (r', l?)) :
    Accounted t r' (looks ++ [⟨t.resolve child, t.resolve child⟩]) ∧
      (l? = none → r'.locations[t.key (t.resolve child)]? = none ∧
        Passed t r'.options (t.resolve child)) := by
  rcases getOrCreate_cases hget with ⟨l, known, rfl, hmerge⟩ | ⟨new, ⟨unplaced, rfl, rfl⟩ | hplaced⟩
  · exact ⟨h.add_merged known hmerge, fun hnone => by cases hnone⟩
  · exact ⟨h.add_passed new (Or.inl unplaced), fun _ => ⟨new, Or.inl unplaced⟩⟩
  · obtain ⟨kind, file, line, d, place, reading, ⟨unrenderable, rfl, rfl⟩ |
      ⟨renderable, r₁, store, rfl⟩⟩ := hplaced
    · have hpassed : Passed t r'.options (t.resolve child) :=
        Or.inr ⟨kind, file, line, d, place, reading, unrenderable⟩
      exact ⟨h.add_passed new hpassed, fun _ => ⟨new, hpassed⟩⟩
    · cases l? with
      | none => simp [drops, new, place, reading, renderable, store] at hroom
      | some l =>
        have hstored := h.add_stored hdistinct new place reading renderable store
        exact ⟨hstored, fun hnone => by cases hnone⟩

lemma visit_accounted (h : Accounted t r looks)
    (hdistinct : ∀ s ∈ looks, t.key s.owner = t.key (t.resolve child) → s.owner = t.resolve child)
    (hroom : drops t r (scopes, child) = false) (hvisit : visit t scopes r child = some r') :
    Accounted t r' (looks ++ looksAt t child) := by
  obtain ⟨r₁, l?, hget, hrest⟩ := visit_cases hvisit
  obtain ⟨hfirst, hnone⟩ := getOrCreate_accounted h hdistinct hroom hget
  rw [looksAt, List.append_cons]
  rcases hrest with ⟨rfl, rfl⟩ | ⟨l, rfl, ⟨heq, rfl⟩ | ⟨hne, hmerge⟩⟩
  · obtain ⟨unknown, hpassed⟩ := hnone rfl
    split
    · rwa [List.append_nil]
    · exact hfirst.add_passed unknown hpassed
  · rwa [if_pos heq, List.append_nil]
  · rw [if_neg hne]
    exact hfirst.add_merged (getOrCreate_known hget) hmerge

end

/-- Keys tell the entries apart that the visits register. -/
def DistinctVisits (t : EntryTree) (vs : List (List Scope × NodeId)) : Prop :=
  ∀ v ∈ vs, ∀ w ∈ vs, t.key (t.resolve v.2) = t.key (t.resolve w.2) →
    t.resolve v.2 = t.resolve w.2

/-- All that the visits read, in order. -/
def looksOf (t : EntryTree) (vs : List (List Scope × NodeId)) : List Look :=
  vs.flatMap fun v => looksAt t v.2

lemma owner_of_mem_looksOf {vs : List (List Scope × NodeId)} {s : Look} (h : s ∈ looksOf t vs) :
    ∃ v ∈ vs, s.owner = t.resolve v.2 := by
  obtain ⟨v, hv, hs⟩ := List.mem_flatMap.mp h
  refine ⟨v, hv, ?_⟩
  rcases List.mem_cons.mp hs with rfl | hs
  · rfl
  · split at hs
    · cases hs
    · rw [List.mem_singleton.mp hs]

/-- From the step, by induction, the round. -/
lemma visits_accounted {seen vs : List (List Scope × NodeId)}
    (hkeys : DistinctVisits t (seen ++ vs)) (h : Accounted t r (looksOf t seen))
    (hroom : fits t r vs) (hfold : vs.foldlM (fun r v => visit t v.1 r v.2) r = some r') :
    Accounted t r' (looksOf t (seen ++ vs)) := by
  -- Every visit moves from those to come to those seen, which decide what a known key says.
  induction vs generalizing seen r with
  | nil =>
    cases hfold
    rwa [List.append_nil]
  | cons v rest ih =>
    rw [List.foldlM_cons] at hfold
    obtain ⟨r₁, hfirst, hrest⟩ := Option.bind_eq_some_iff.mp hfold
    simp only [fits, hfirst, Option.all_some, Bool.and_eq_true, Bool.not_eq_true'] at hroom
    have hstep : Accounted t r₁ (looksOf t (seen ++ [v])) := by
      have hlooks : looksOf t (seen ++ [v]) = looksOf t seen ++ looksAt t v.2 := by
        simp [looksOf]
      rw [hlooks]
      refine visit_accounted h ?_ hroom.1 hfirst
      intro s hs hkey
      obtain ⟨w, hw, howner⟩ := owner_of_mem_looksOf hs
      rw [howner] at hkey ⊢
      exact hkeys w (List.mem_append_left _ hw) v (by simp) hkey
    rw [List.append_cons] at hkeys ⊢
    exact ih hkeys hstep hroom.2 hrest

/-! The second round -/

/-- Whether a file is there, and if so, whether it has the line. -/
def hasLine? (r : Registry) (file : String) (line : UInt64) : Option Bool :=
  (r.files.find? file).map fun f => (f.lines.find? line).isSome

/-- A change at a location makes no line. -/
lemma hasLine?_modify (h : r.Ordered) (l : Location) (g : Declaration → Declaration) :
    (r.modify l g).hasLine? = r.hasLine? := by
  funext file line
  unfold hasLine? modify
  cases hfile : r.files.find? l.file with
  | none => rfl
  | some f =>
    dsimp only
    rw [SortedMap.find?_alter h.files]
    by_cases heq : file = l.file
    · subst heq
      rw [if_pos rfl, hfile, Option.map_some, Option.map_some]
      unfold SourceFile.modify
      split
      · rename_i hpresent
        dsimp only
        rw [SortedMap.find?_alter (h.lines hfile)]
        by_cases hline : line = l.line
        · subst hline
          rw [if_pos rfl]
          cases hgroup : f.lines.find? l.line with
          | none => simp [SourceFile.get?, SourceFile.line, hgroup] at hpresent
          | some group => rfl
        · rw [if_neg hline]
      · rfl
    · rw [if_neg heq]

/-- Registries that have the same lines, with the same declarations on each, have the same
files. -/
lemma files_ext (h : r.Ordered) (h' : r'.Ordered) (hoptions : r'.options = r.options)
    (hlines : r'.hasLine? = r.hasLine?) (hget : ∀ l, r'.get? l = r.get? l) :
    r'.files = r.files := by
  apply SortedMap.ext h'.files h.files
  intro path
  have hpath := fun line => congrFun (congrFun hlines path) line
  simp only [hasLine?] at hpath
  cases hf : r.files.find? path with
  | none =>
    cases hf' : r'.files.find? path with
    | none => rfl
    | some f' => simp [hf, hf'] at hpath
  | some f =>
    cases hf' : r'.files.find? path with
    | none => simp [hf, hf'] at hpath
    | some f' =>
      have hcap : f'.maxEntriesPerLine = f.maxEntriesPerLine := by
        rw [h'.cap hf', h.cap hf, hoptions]
      have hentries : f'.lines = f.lines := by
        apply SortedMap.ext (h'.lines hf') (h.lines hf)
        intro line
        have hline := hpath line
        rw [hf, hf', Option.map_some, Option.map_some, Option.some.injEq] at hline
        cases hgroup : f.lines.find? line with
        | none => simpa [hgroup] using hline
        | some group =>
          rw [hgroup, Option.isSome_some] at hline
          obtain ⟨group', hgroup'⟩ := Option.isSome_iff_exists.mp hline
          rw [hgroup', Option.some.injEq]
          apply List.ext_getElem?
          intro index
          have hindex := hget ⟨path, line, index⟩
          simpa [get?, hf, hf', SourceFile.get?, SourceFile.line, hgroup, hgroup'] using hindex
      cases f
      cases f'
      cases hcap
      cases hentries
      rfl

/-- Where a second round stands after some looks: every declaration has taken in what they say of
it, and nothing else has changed. -/
structure Retold (t : EntryTree) (R : Registry) (looks : List Look) (r : Registry) : Prop where
  ordered : r.Ordered
  options : r.options = R.options
  locations : r.locations = R.locations
  lines : r.hasLine? = R.hasLine?
  taken : ∀ l, r.get? l = (R.get? l).map fun d => (told t R d.kind l looks).foldl merge d

lemma Retold.start (h : R.Ordered) : Retold t R [] R where
  ordered := h
  options := rfl
  locations := rfl
  lines := rfl
  taken l := by cases R.get? l <;> rfl

lemma kind_foldl_told (d : Declaration) (l : Location) (looks : List Look) :
    ((told t R d.kind l looks).foldl merge d).kind = d.kind := by
  have hkinds : ∀ y ∈ told t R d.kind l looks, y.kind = d.kind := by
    intro y hy
    obtain ⟨node, hread⟩ := of_mem_told hy
    exact ofEntry?_kind hread
  generalize told t R d.kind l looks = ys at hkinds
  induction ys using List.reverseRecOn with
  | nil => rfl
  | append_singleton ys y ih =>
    have hkind := ih fun z hz => hkinds z (List.mem_append_left _ hz)
    rw [List.foldl_append, List.foldl_cons, List.foldl_nil, kind_merge, hkind]
    rw [hkind]
    exact hkinds y (by simp)

/-- A look at an entry that has no location is not heard. -/
lemma Retold.add_passed {looks : List Look} (h : Retold t R looks r) {s : Look}
    (unknown : R.locations[t.key s.owner]? = none) : Retold t R (looks ++ [s]) r := by
  refine ⟨h.ordered, h.options, h.locations, h.lines, ?_⟩
  intro l
  rw [h.taken]
  congr 1
  funext d
  rw [told_unheard (by simp [unknown])]

/-- A look at a known entry is taken in where it is told. -/
lemma Retold.add_merged {all looks : List Look} (hall : Accounted t R all)
    (h : Retold t R looks r) {s : Look} (hs : s ∈ all) {l : Location}
    (known : R.locations[t.key s.owner]? = some l) :
    ∃ r', r.mergeReading t l s.node = some r' ∧ Retold t R (looks ++ [s]) r' := by
  obtain ⟨d, hd⟩ := Option.isSome_iff_exists.mp (hall.consistent.live known)
  obtain ⟨again, hread⟩ := Option.isSome_iff_exists.mp (hall.legible s hs known hd)
  have hpresent : r.get? l = some ((told t R d.kind l looks).foldl merge d) := by
    rw [h.taken, hd, Option.map_some]
  refine ⟨r.modify l fun d => d.merge again, ?_, h.ordered.modify l _, ?_, ?_, ?_, ?_⟩
  · simp only [mergeReading, hpresent, kind_foldl_told, h.options, hread, Option.map_some]
  · rw [modify_options, h.options]
  · rw [modify_locations, h.locations]
  · rw [hasLine?_modify h.ordered, h.lines]
  · intro other
    rw [get?_modify h.ordered]
    by_cases hother : other = l
    · subst hother
      rw [if_pos rfl, hpresent, hd, Option.map_some, Option.map_some, told_heard known hread,
        List.foldl_append]
      rfl
    · rw [if_neg hother, h.taken]
      congr 1
      funext d'
      rw [told_unheard fun heq => hother (Option.some.inj (heq.symm.trans known))]

lemma getOrCreate_of_passed {n : NodeId} {scopes : List Scope}
    (new : r.locations[t.key n]? = none) (h : Passed t r.options n) :
    r.getOrCreate t n scopes = some (r, none) := by
  rcases h with unplaced | ⟨kind, file, line, d, place, reading, unrenderable⟩
  · exact getOrCreate_of_unplaced new unplaced
  · exact getOrCreate_of_unwritable new place reading unrenderable

/-- A visit of the second round. -/
lemma visit_retold {all looks : List Look} (hall : Accounted t R all) (h : Retold t R looks r)
    (scopes : List Scope) {child : NodeId} (hchild : ∀ s ∈ looksAt t child, s ∈ all) :
    ∃ r', visit t scopes r child = some r' ∧ Retold t R (looks ++ looksAt t child) r' := by
  have hfirst := hchild _ List.mem_cons_self
  rw [looksAt, List.append_cons]
  cases known : R.locations[t.key (t.resolve child)]? with
  | none =>
    have hpassed := hall.passed _ hfirst known
    have hget : r.getOrCreate t (t.resolve child) scopes = some (r, none) :=
      getOrCreate_of_passed (by rw [h.locations, known]) (by rwa [h.options])
    refine ⟨r, visit_of_none hget, ?_⟩
    split
    · rw [List.append_nil]
      exact h.add_passed known
    · exact (h.add_passed known).add_passed known
  | some l =>
    obtain ⟨r₁, hmerge, hretold⟩ := h.add_merged hall hfirst known
    have hget : r.getOrCreate t (t.resolve child) scopes = some (r₁, some l) :=
      getOrCreate_of_known (by rw [h.locations, known]) hmerge
    rw [visit_of_some hget]
    by_cases heq : t.resolve child = child
    · rw [if_pos heq, if_pos heq, List.append_nil]
      exact ⟨r₁, rfl, hretold⟩
    · rw [if_neg heq, if_neg heq]
      refine hretold.add_merged hall (hchild ⟨t.resolve child, child⟩ ?_) known
      simp [looksAt, heq]

lemma visits_retold {all : List Look} {done vs : List (List Scope × NodeId)}
    (hall : Accounted t R all) (hvs : ∀ v ∈ vs, ∀ s ∈ looksAt t v.2, s ∈ all)
    (h : Retold t R (looksOf t done) r) :
    ∃ r', vs.foldlM (fun r v => visit t v.1 r v.2) r = some r' ∧
      Retold t R (looksOf t (done ++ vs)) r' := by
  induction vs generalizing done r with
  | nil => exact ⟨r, rfl, by rwa [List.append_nil]⟩
  | cons v rest ih =>
    obtain ⟨r₁, hfirst, hretold⟩ := visit_retold hall h v.1 (hvs v List.mem_cons_self)
    have hlooks : looksOf t (done ++ [v]) = looksOf t done ++ looksAt t v.2 := by simp [looksOf]
    obtain ⟨r', hrest, hretold'⟩ :=
      ih (fun w hw => hvs w (List.mem_cons_of_mem v hw)) (hlooks ▸ hretold)
    rw [List.foldlM_cons, hfirst]
    exact ⟨r', hrest, by rwa [List.append_cons]⟩

/-- All looks together leave every declaration as it was. -/
lemma Retold.files {all : List Look} (hall : Accounted t R all) (h : Retold t R all r) :
    r.files = R.files := by
  apply files_ext hall.consistent.ordered h.ordered h.options h.lines
  intro l
  rw [h.taken]
  cases hd : R.get? l with
  | none => rfl
  | some d =>
    obtain ⟨x, rest, scopes, htold, hmade⟩ := hall.made hd
    have hreadings : ∀ y ∈ x :: rest, ∃ node, ofEntry? t R.options d.kind node = some y := by
      intro y hy
      exact of_mem_told (htold ▸ hy)
    have hkind : ∀ y ∈ x :: rest, y.kind = d.kind := by
      intro y hy
      obtain ⟨node, hread⟩ := hreadings y hy
      exact ofEntry?_kind hread
    have hscopes : ∀ y ∈ x :: rest, y.scopes = [] := by
      intro y hy
      obtain ⟨node, hread⟩ := hreadings y hy
      exact ofEntry?_scopes hread
    obtain ⟨node, hread⟩ := hreadings x List.mem_cons_self
    have hagain := merge_again_scopes (ofEntry?_wellRead hread)
      (fun y hy => (hkind y (List.mem_cons_of_mem x hy)).trans (hkind x List.mem_cons_self).symm)
      hscopes scopes
    rw [Option.map_some, htold]
    rw [← hmade] at hagain
    rw [hagain]

/-! Units -/

/-- The registry with another build root. -/
def rebase (r : Registry) (baseDir : String) : Registry := { r with baseDir }

lemma modify_rebase (r : Registry) (baseDir : String) (l : Location)
    (g : Declaration → Declaration) :
    (r.rebase baseDir).modify l g = (r.modify l g).rebase baseDir := by
  simp only [modify, rebase]
  split <;> rfl

lemma mergeReading_rebase (r : Registry) (baseDir : String) (l : Location) (node : NodeId) :
    (r.rebase baseDir).mergeReading t l node =
      (r.mergeReading t l node).map fun r' => r'.rebase baseDir := by
  have hget : (r.rebase baseDir).get? l = r.get? l := rfl
  have hoptions : (r.rebase baseDir).options = r.options := rfl
  simp only [mergeReading, hget, hoptions, modify_rebase]
  split
  · rw [Option.map_map]
    rfl
  · rfl

lemma store_rebase (r : Registry) (baseDir : String) (file : String) (line : UInt64)
    (d : Declaration) : (r.rebase baseDir).store file line d =
      ((r.store file line d).1.rebase baseDir, (r.store file line d).2) := by
  simp only [store, rebase]
  split <;> rfl

lemma getOrCreate_rebase (r : Registry) (baseDir : String) (node : NodeId) (scopes : List Scope) :
    (r.rebase baseDir).getOrCreate t node scopes =
      (r.getOrCreate t node scopes).map fun p => (p.1.rebase baseDir, p.2) := by
  have hlocations : (r.rebase baseDir).locations = r.locations := rfl
  have hoptions : (r.rebase baseDir).options = r.options := rfl
  simp only [getOrCreate, hlocations, hoptions, mergeReading_rebase, store_rebase]
  split
  · rw [Option.map_map, Option.map_map]
    rfl
  · split
    · rfl
    · rw [Option.map_map]
      congr 1
      funext d
      dsimp only [Function.comp_apply]
      split
      · rfl
      · generalize r.store _ _ (d.setScopes scopes) = stored
        obtain ⟨r₁, l?⟩ := stored
        cases l? <;> rfl

/-- No visit looks at the build root. -/
lemma visit_rebase (r : Registry) (baseDir : String) (scopes : List Scope) (child : NodeId) :
    visit t scopes (r.rebase baseDir) child =
      (visit t scopes r child).map fun r' => r'.rebase baseDir := by
  simp only [visit, getOrCreate_rebase]
  cases r.getOrCreate t (t.resolve child) scopes with
  | none => rfl
  | some p =>
    obtain ⟨r₁, l?⟩ := p
    cases l? with
    | none => rfl
    | some l =>
      simp only [Option.map_some, Option.bind_eq_bind, Option.bind_some]
      split
      · rfl
      · exact mergeReading_rebase r₁ baseDir l child

lemma visits_rebase (vs : List (List Scope × NodeId)) (r : Registry) (baseDir : String) :
    vs.foldlM (fun r v => visit t v.1 r v.2) (r.rebase baseDir) =
      (vs.foldlM (fun r v => visit t v.1 r v.2) r).map fun r' => r'.rebase baseDir := by
  induction vs generalizing r with
  | nil => rfl
  | cons v rest ih =>
    rw [List.foldlM_cons, List.foldlM_cons, visit_rebase]
    cases visit t v.1 r v.2 with
    | none => rfl
    | some r₁ => exact ih r₁

instance (t : EntryTree) (root : NodeId) : Decidable (Collected t root) :=
  decidable_of_iff
    (t.isUnitRoot root ∧ (t.unitOf root).name.isSome ∧ (t.unitOf root).directory.isSome)
    ⟨fun h => ⟨h.1, h.2.1, h.2.2⟩, fun h => ⟨h.isRoot, h.name, h.directory⟩⟩

/-- What units declare, in order. -/
def visitsOf (t : EntryTree) (roots : List NodeId) : List (List Scope × NodeId) :=
  roots.flatMap fun root => if Collected t root then unitVisits t root else []

/-- Units are their visits, one after the other, the build root aside. -/
lemma updateAll_eq_foldlM (roots : List NodeId) (r : Registry) :
    ∃ baseDir, r.updateAll t roots =
      ((visitsOf t roots).foldlM (fun r v => visit t v.1 r v.2) r).map fun r' =>
        r'.rebase baseDir := by
  induction roots generalizing r with
  | nil => exact ⟨r.baseDir, rfl⟩
  | cons root rest ih =>
    have hunit : ∃ baseDir, r.update t root = ((if Collected t root then unitVisits t root
        else []).foldlM (fun r v => visit t v.1 r v.2) r).map fun r' => r'.rebase baseDir := by
      by_cases hroot : Collected t root
      · obtain ⟨baseDir, hupdate⟩ := update_of_collected hroot r
        exact ⟨baseDir, by rw [hupdate, if_pos hroot]; exact visits_rebase _ r baseDir⟩
      · exact ⟨r.baseDir, by rw [update_of_not_collected hroot, if_neg hroot]; rfl⟩
    obtain ⟨baseDir, hupdate⟩ := hunit
    rw [updateAll, List.foldlM_cons, hupdate, visitsOf, List.flatMap_cons, List.foldlM_append]
    -- The root that a unit leaves behind changes nothing in the visits of later ones.
    generalize (if Collected t root then unitVisits t root else []).foldlM
      (fun r v => visit t v.1 r v.2) r = first
    cases first with
    | none => exact ⟨baseDir, rfl⟩
    | some r₁ =>
      obtain ⟨baseDir', hrest⟩ := ih (r₁.rebase baseDir)
      refine ⟨baseDir', ?_⟩
      rw [visits_rebase, Option.map_map] at hrest
      exact hrest

/-- Where keys tell the entries apart that are registered and no line was full, units that are
collected a second time leave files and locations as the first time left them. -/
theorem updateAll_again {options : Options} {roots : List NodeId}
    (hkeys : DistinctVisits t (visitsOf t roots))
    (hroom : fits t (empty options) (visitsOf t roots))
    (h : (empty options).updateAll t roots = some r) :
    ∃ r', r.updateAll t roots = some r' ∧ r'.files = r.files ∧ r'.locations = r.locations := by
  obtain ⟨baseDir, hround⟩ := updateAll_eq_foldlM roots (empty options)
  rw [hround] at h
  obtain ⟨R, hfold, rfl⟩ := Option.map_eq_some_iff.mp h
  have hstart : Accounted t (empty options) (looksOf t []) := empty_accounted options
  have hall : Accounted t R (looksOf t (visitsOf t roots)) :=
    visits_accounted hkeys hstart hroom hfold
  have hstart' : Retold t R (looksOf t []) R := .start hall.consistent.ordered
  obtain ⟨q, hagain, hretold⟩ := visits_retold hall
    (fun v hv s hs => List.mem_flatMap.mpr ⟨v, hv, hs⟩) hstart'
  obtain ⟨baseDir', hround'⟩ := updateAll_eq_foldlM roots (R.rebase baseDir)
  rw [visits_rebase, hagain] at hround'
  have hfiles : q.files = R.files := hretold.files hall
  exact ⟨_, hround', hfiles, hretold.locations⟩

/-- Two units that refer to one type unit, the second of which alone knows the size. -/
def stubs : EntryTree :=
  let (b, _, point) := TreeBuilder.start.typeUnit 7 .structureType
  let b := (b.name point "Point").declaredAt point "/src/point.h" 3
  let (b, first) := b.compileUnit "a.cpp" "/src"
  let (b, stub) := b.child first .structureType
  let b := b.signature stub 7
  let (b, second) := b.compileUnit "b.cpp" "/src"
  let (b, stub) := b.child second .structureType
  ((b.signature stub 7).unsigned stub .byteSize 8).tree

/-- The type and both entries that stand for it are taken in a second time. -/
theorem stubs_collected_again :
    ∃ r r', (empty {}).updateAll stubs [2, 4] = some r ∧
      r.files.entries.map (fun e => (e.1, e.2.render)) = [("/src/point.h",
        "struct Point \x7b\n\x7d;\nstatic_assert(sizeof(Point) == 8);\n")] ∧
      r.updateAll stubs [2, 4] = some r' ∧ r'.files = r.files ∧ r'.locations = r.locations := by
  have hfirst : ((empty {}).updateAll stubs [2, 4]).map
      (fun r => r.files.entries.map fun e => (e.1, e.2.render)) = some [("/src/point.h",
        "struct Point \x7b\n\x7d;\nstatic_assert(sizeof(Point) == 8);\n")] := by cbv
  have hkeys : DistinctVisits stubs (visitsOf stubs [2, 4]) := by
    have hvisits : visitsOf stubs [2, 4] = [([], 3), ([], 5)] := by cbv
    have hresolve : stubs.resolve 3 = 1 ∧ stubs.resolve 5 = 1 := ⟨by cbv, by cbv⟩
    intro v hv w hw _
    rw [hvisits] at hv hw
    simp only [List.mem_cons, List.not_mem_nil, or_false] at hv hw
    rcases hv with rfl | rfl <;> rcases hw with rfl | rfl <;> simp only [hresolve]
  have hroom : fits stubs (empty {}) (visitsOf stubs [2, 4]) := by cbv
  obtain ⟨r, hr, htexts⟩ := Option.map_eq_some_iff.mp hfirst
  obtain ⟨r', hr', hfiles, hlocations⟩ := updateAll_again hkeys hroom hr
  exact ⟨r, r', hr, htexts, hr', hfiles, hlocations⟩

/-- One unit with two structures under one key; the first has no place of its own. -/
def sharedKey : EntryTree :=
  let (b, root) := TreeBuilder.start.compileUnit "a.cpp" "/src"
  let (b, first) := b.push 0 ⟨.info, 100⟩ .structureType root
  let (b, second) := (b.unsigned first .byteSize 8).push 0 ⟨.info, 100⟩ .structureType root
  ((b.name second "Point").declaredAt second "/src/point.h" 3).tree

/-- The first is passed over at first, and merged into the other when the unit is collected
again. -/
theorem sharedKey_changed_again :
    sharedKey.isUnitRoot 0 ∧ fits sharedKey (empty {}) (visitsOf sharedKey [0]) ∧
    ∃ r r', (empty {}).updateAll sharedKey [0] = some r ∧ r.updateAll sharedKey [0] = some r' ∧
      r.files.entries.map (fun e => (e.1, e.2.render)) =
        [("/src/point.h", "struct Point \x7b\n\x7d;\n")] ∧
      r'.files.entries.map (fun e => (e.1, e.2.render)) = [("/src/point.h",
        "struct Point \x7b\n\x7d;\nstatic_assert(sizeof(Point) == 8);\n")] := by
  have hfirst : ((empty {}).updateAll sharedKey [0]).map
      (fun r => r.files.entries.map fun e => (e.1, e.2.render)) =
        some [("/src/point.h", "struct Point \x7b\n\x7d;\n")] := by cbv
  have hboth : (((empty {}).updateAll sharedKey [0]).bind fun r => r.updateAll sharedKey [0]).map
      (fun r => r.files.entries.map fun e => (e.1, e.2.render)) = some [("/src/point.h",
        "struct Point \x7b\n\x7d;\nstatic_assert(sizeof(Point) == 8);\n")] := by cbv
  obtain ⟨r, hr, htexts⟩ := Option.map_eq_some_iff.mp hfirst
  rw [hr, Option.bind_some] at hboth
  obtain ⟨r', hr', htexts'⟩ := Option.map_eq_some_iff.mp hboth
  exact ⟨by decide +kernel, by cbv, r, r', hr, hr', htexts, htexts'⟩

end HeaderRecovery.Registry
