import HeaderRecovery.Debug.Builder
import HeaderRecovery.Proofs.RegistryMoves

/-!
The registry over whole runs. Every recorded location leads to a declaration, every stored
declaration is reached by a key, and lines keep to their limit; locations never change, and
what they lead to keeps its kind and its namespaces.
-/
namespace HeaderRecovery.Registry
open Debug

variable {t : EntryTree} {r r' r'' : Registry}

lemma get?_modify (h : r.Ordered) (l : Location) (g : Declaration → Declaration)
    (other : Location) :
    (r.modify l g).get? other = if other = l then (r.get? l).map g else r.get? other := by
  obtain ⟨file, line, index⟩ := l
  obtain ⟨otherFile, otherLine, otherIndex⟩ := other
  rw [get?_eq_bucket, get?_eq_bucket, get?_eq_bucket, bucket_modify h]
  by_cases hplace : otherFile = file ∧ otherLine = line
  · obtain ⟨rfl, rfl⟩ := hplace
    by_cases hindex : otherIndex = index
    · simp [hindex]
    · simp [hindex, Ne.symm hindex]
  · have hne : ¬ (otherFile = file ∧ otherLine = line ∧ otherIndex = index) :=
      fun heq => hplace ⟨heq.1, heq.2.1⟩
    simp [hplace, hne]

lemma get?_add (h : r.Ordered) {file : String} {line : UInt64} {d : Declaration}
    (room : (r.bucket file line).length < r.options.maxEntriesPerLine) (other : Location) :
    (r.setFile file ((r.fileFor file).add line d).1).get? other =
      if other = ⟨file, line, (r.bucket file line).length⟩ then some d else r.get? other := by
  obtain ⟨otherFile, otherLine, otherIndex⟩ := other
  rw [get?_eq_bucket, get?_eq_bucket, bucket_add_room h room]
  by_cases hplace : otherFile = file ∧ otherLine = line
  · obtain ⟨rfl, rfl⟩ := hplace
    simp only [and_self, if_true, Location.mk.injEq, true_and]
    by_cases hindex : otherIndex = (r.bucket otherFile otherLine).length
    · simp [hindex]
    · rw [if_neg hindex]
      rcases Nat.lt_or_gt_of_ne hindex with hlt | hgt
      · rw [List.getElem?_append_left hlt]
      · rw [List.getElem?_eq_none (by simp; omega), List.getElem?_eq_none (by omega)]
  · have hne : ¬ (otherFile = file ∧ otherLine = line ∧
        otherIndex = (r.bucket file line).length) := fun heq => hplace ⟨heq.1, heq.2.1⟩
    simp [hplace, hne]

lemma get?_add_full (h : r.Ordered) {file : String} {line : UInt64} {d : Declaration}
    (full : r.options.maxEntriesPerLine ≤ (r.bucket file line).length) (other : Location) :
    (r.setFile file ((r.fileFor file).add line d).1).get? other = r.get? other := by
  rw [get?_eq_bucket, get?_eq_bucket, bucket_add_full h full]

/-- The invariant that every run keeps. -/
structure Consistent (r : Registry) : Prop where
  ordered : r.Ordered
  live : ∀ {k : EntryKey} {l : Location}, r.locations[k]? = some l → (r.get? l).isSome
  reached : ∀ {l : Location}, (r.get? l).isSome → ∃ k : EntryKey, r.locations[k]? = some l
  capped : ∀ file line, (r.bucket file line).length ≤ r.options.maxEntriesPerLine
  standsAlone : ∀ {l d}, r.get? l = some d → d.kind.StandsAlone

/-- What later states keep of an earlier one. -/
structure Keeps (r r' : Registry) : Prop where
  options : r'.options = r.options
  location : ∀ {k : EntryKey} {l : Location}, r.locations[k]? = some l → r'.locations[k]? = some l
  declaration : ∀ {l d}, r.get? l = some d →
    ∃ d', r'.get? l = some d' ∧ d'.kind = d.kind ∧ d'.scopes = d.scopes

lemma Keeps.refl (r : Registry) : r.Keeps r := ⟨rfl, id, fun h => ⟨_, h, rfl, rfl⟩⟩

lemma Keeps.trans (h : r.Keeps r') (h' : r'.Keeps r'') : r.Keeps r'' where
  options := h'.options.trans h.options
  location hl := h'.location (h.location hl)
  declaration hd := by
    obtain ⟨d', hd', hkind, hscopes⟩ := h.declaration hd
    obtain ⟨d'', hd'', hkind', hscopes'⟩ := h'.declaration hd'
    exact ⟨d'', hd'', hkind'.trans hkind, hscopes'.trans hscopes⟩

/-- A stored declaration that recognises a reading is of its kind. -/
lemma Consistent.kind_of_recognised (h : r.Consistent) {l : Location} {present d : Declaration}
    {scopes : List Scope} (hpresent : r.get? l = some present)
    (hsame : present.sameAs (d.setScopes scopes)) (alone : d.kind.StandsAlone) :
    d.kind = present.kind := by
  rw [← Declaration.kind_setScopes scopes d] at alone ⊢
  exact Declaration.kind_of_sameAs hsame (h.standsAlone hpresent) alone

lemma empty_consistent (options : Options) : (empty options).Consistent where
  ordered := empty_ordered options
  live h := by simp [empty] at h
  reached h := by simp [get?_eq_bucket, bucket_empty] at h
  capped file line := by simp [bucket_empty]
  standsAlone h := by simp [get?_eq_bucket, bucket_empty] at h

/-- A change that respects kind and namespaces keeps everything. -/
lemma Consistent.modify (h : r.Consistent) {l : Location} {g : Declaration → Declaration}
    (hg : ∀ d, r.get? l = some d → (g d).kind = d.kind ∧ (g d).scopes = d.scopes) :
    (r.modify l g).Consistent ∧ r.Keeps (r.modify l g) := by
  have hget := get?_modify h.ordered l g
  have hsome : ∀ other, ((r.modify l g).get? other).isSome = (r.get? other).isSome := by
    intro other
    rw [hget]
    split
    · simp [*]
    · rfl
  have hkeeps : ∀ {other d}, r.get? other = some d →
      ∃ d', (r.modify l g).get? other = some d' ∧ d'.kind = d.kind ∧ d'.scopes = d.scopes := by
    intro other d hd
    by_cases heq : other = l
    · subst heq
      exact ⟨g d, by rw [hget, if_pos rfl, hd]; rfl, hg d hd⟩
    · exact ⟨d, by rw [hget, if_neg heq, hd], rfl, rfl⟩
  refine ⟨⟨h.ordered.modify l g, ?live, ?reached, ?capped, ?standsAlone⟩,
    ⟨modify_options _ _ _, fun hk => by simpa using hk, hkeeps⟩⟩
  case live =>
    intro k other hk
    rw [hsome]
    exact h.live (by simpa using hk)
  case reached =>
    intro other hother
    rw [hsome] at hother
    simpa using h.reached hother
  case capped =>
    intro file line
    rw [bucket_modify h.ordered, modify_options]
    split
    · simpa using h.capped l.file l.line
    · exact h.capped file line
  case standsAlone =>
    intro other d hd
    obtain ⟨before, hbefore⟩ := Option.isSome_iff_exists.mp
      ((hsome other).symm.trans (by rw [hd]; rfl))
    obtain ⟨d', hd', hkind, -⟩ := hkeeps hbefore
    cases hd.symm.trans hd'
    rw [hkind]
    exact h.standsAlone hbefore

/-- A line with room has nothing yet at the location that is to be filled. -/
lemma get?_add_of_some (h : r.Ordered) {file : String} {line : UInt64} {d : Declaration}
    (room : (r.bucket file line).length < r.options.maxEntriesPerLine) {l : Location}
    {before : Declaration} (hl : r.get? l = some before) :
    (r.setFile file ((r.fileFor file).add line d).1).get? l = some before := by
  rw [get?_add h room, if_neg]
  · exact hl
  · rintro rfl
    simp [get?_eq_bucket] at hl

/-- Storing at a location that no key has yet, and recording it under a new key. -/
lemma Consistent.added (h : r.Consistent) {file : String} {line : UInt64} {d : Declaration}
    {key : EntryKey} (new : r.locations[key]? = none) (alone : d.kind.StandsAlone)
    (room : (r.bucket file line).length < r.options.maxEntriesPerLine) :
    let r' := (r.setFile file ((r.fileFor file).add line d).1).remember key
      (some ⟨file, line, (r.bucket file line).length⟩)
    r'.Consistent ∧ r.Keeps r' := by
  intro r'
  have hget : ∀ other, r'.get? other =
      if other = ⟨file, line, (r.bucket file line).length⟩ then some d else r.get? other :=
    get?_add h.ordered room
  have hkept : ∀ {l before}, r.get? l = some before → r'.get? l = some before :=
    get?_add_of_some h.ordered room
  have hlocations : ∀ k : EntryKey, r'.locations[k]? =
      if key = k then some ⟨file, line, (r.bucket file line).length⟩ else r.locations[k]? :=
    remember_locations _ key _
  have hrecorded : ∀ {k : EntryKey} {l : Location}, r.locations[k]? = some l →
      r'.locations[k]? = some l := remember_keeps (r := r.setFile file _) new
  refine ⟨⟨?ordered, ?live, ?reached, ?capped, ?standsAlone⟩,
    ⟨rfl, hrecorded, fun hd => ⟨_, hkept hd, rfl, rfl⟩⟩⟩
  case ordered => exact (add_ordered h.ordered file line d).congr rfl rfl
  case live =>
    intro k l hk
    rw [hlocations] at hk
    split at hk
    · cases hk
      rw [hget, if_pos rfl]
      rfl
    · obtain ⟨before, hbefore⟩ := Option.isSome_iff_exists.mp (h.live hk)
      rw [hkept hbefore]
      rfl
  case reached =>
    intro l hl
    rw [hget] at hl
    split at hl
    · rename_i heq
      exact ⟨key, by rw [hlocations, if_pos rfl, heq]⟩
    · obtain ⟨k, hk⟩ := h.reached hl
      exact ⟨k, hrecorded hk⟩
  case capped =>
    intro other otherLine
    change ((r.setFile file ((r.fileFor file).add line d).1).bucket other otherLine).length ≤
      r.options.maxEntriesPerLine
    rw [bucket_add_room h.ordered room]
    split
    · rw [List.length_append]
      exact room
    · exact h.capped other otherLine
  case standsAlone =>
    intro l before hbefore
    rw [hget] at hbefore
    split at hbefore
    · cases hbefore
      exact alone
    · exact h.standsAlone hbefore

/-- Nothing but empty lines is added when a declaration is dropped. -/
lemma Consistent.dropped (h : r.Consistent) {file : String} {line : UInt64} {d : Declaration}
    (full : r.options.maxEntriesPerLine ≤ (r.bucket file line).length) :
    let r' := r.setFile file ((r.fileFor file).add line d).1
    r'.Consistent ∧ r.Keeps r' := by
  intro r'
  have hget : ∀ other, r'.get? other = r.get? other := get?_add_full h.ordered full
  refine ⟨⟨add_ordered h.ordered file line d, ?live, ?reached, ?capped, ?standsAlone⟩,
    ⟨rfl, id, fun {l before} hbefore => ⟨before, by rw [hget, hbefore], rfl, rfl⟩⟩⟩
  case live =>
    intro k l hk
    rw [hget]
    exact h.live hk
  case reached =>
    intro l hl
    rw [hget] at hl
    exact h.reached hl
  case capped =>
    intro other otherLine
    rw [bucket_add_full h.ordered full]
    exact h.capped other otherLine
  case standsAlone =>
    intro l before hbefore
    rw [hget] at hbefore
    exact h.standsAlone hbefore

/-- Recording a further key for a declaration that is there. -/
lemma Consistent.remember (h : r.Consistent) {key : EntryKey} {l : Location}
    (new : r.locations[key]? = none) (stored : (r.get? l).isSome) :
    (r.remember key (some l)).Consistent ∧ r.Keeps (r.remember key (some l)) := by
  refine ⟨⟨h.ordered.congr rfl rfl, ?live, ?reached, h.capped, h.standsAlone⟩,
    ⟨rfl, remember_keeps new, fun hd => ⟨_, hd, rfl, rfl⟩⟩⟩
  case live =>
    intro k other hk
    rw [remember_locations] at hk
    split at hk
    · cases hk
      exact stored
    · exact h.live hk
  case reached =>
    intro other hother
    obtain ⟨k, hk⟩ := h.reached hother
    exact ⟨k, remember_keeps new hk⟩

lemma kind_of_place {node : NodeId} {kind : DeclarationKind} {file : String} {line : UInt64}
    (h : place? t node = some (kind, file, line)) :
    DeclarationKind.ofTag? (t.tag node) = some kind := by
  unfold place? at h
  split at h
  · rename_i hkind _ _
    split at h
    · cases h
    · cases h
      exact hkind
  · cases h

lemma standsAlone_of_place {node : NodeId} {kind : DeclarationKind} {file : String}
    {line : UInt64} (h : place? t node = some (kind, file, line)) : kind.StandsAlone :=
  ⟨_, kind_of_place h⟩

/-- The step of the invariant: one move keeps it, and all that was there before. -/
lemma Move.keeps (h : r.Consistent) (move : Move t r r') : r'.Consistent ∧ r.Keeps r' := by
  cases move with
  | narrow baseDir =>
    exact ⟨⟨h.ordered.congr rfl rfl, h.live, h.reached, h.capped, h.standsAlone⟩,
      ⟨rfl, id, fun hd => ⟨_, hd, rfl, rfl⟩⟩⟩
  | @merge owner node l present again known stands stored reading =>
    apply h.modify
    intro d hd
    cases stored.symm.trans hd
    exact ⟨Declaration.kind_merge (Declaration.ofEntry?_kind reading),
      Declaration.scopes_merge (Or.inl (Declaration.ofEntry?_scopes reading))⟩
  | @store node kind file line d scopes r₁ l? new place reading renderable store =>
    have alone : (d.setScopes scopes).kind.StandsAlone := by
      rw [Declaration.kind_setScopes, Declaration.ofEntry?_kind reading]
      exact standsAlone_of_place place
    have hstored := stored h.ordered file line (d.setScopes scopes)
    rw [store] at hstored
    cases hstored with
    | @found index known =>
      obtain ⟨present, hpresent, hsame⟩ := get?_of_recognise? known
      obtain ⟨hcons, hkeeps⟩ := h.modify (l := ⟨file, line, index⟩)
        (g := fun present => present.merge (d.setScopes scopes)) (by
          intro before hd
          cases hpresent.symm.trans hd
          exact ⟨Declaration.kind_merge
              (Declaration.kind_of_sameAs hsame (h.standsAlone hpresent) alone),
            Declaration.scopes_merge (Or.inr (Declaration.scopes_of_sameAs hsame).symm)⟩)
      obtain ⟨hcons', hkeeps'⟩ := hcons.remember (l := ⟨file, line, index⟩)
        (show (r.modify _ _).locations[t.key node]? = none by simpa using new)
        (by rw [get?_modify h.ordered, if_pos rfl, hpresent]; rfl)
      exact ⟨hcons', hkeeps.trans hkeeps'⟩
    | added unknown room => exact h.added new alone room
    | dropped unknown full => exact h.dropped full

/-- From the step, by induction, the run. -/
lemma Moves.keeps (h : r.Consistent) (moves : Moves t r r') : r'.Consistent ∧ r.Keeps r' := by
  induction moves with
  | refl => exact ⟨h, .refl r⟩
  | tail _ move ih =>
    obtain ⟨hcons, hkeeps⟩ := ih
    obtain ⟨hcons', hkeeps'⟩ := move.keeps hcons
    exact ⟨hcons', hkeeps.trans hkeeps'⟩

/-- After any calls on an empty registry: recorded keys lead to declarations, these locations
stay where they are with the same kind and namespaces whatever is called later, every stored
declaration has a key, and no line is longer than the limit. -/
theorem run_keeps_locations (options : Options) (run : Run t (empty options) r) :
    (∀ (key : EntryKey) (l : Location), r.locations[key]? = some l → (r.lookup? key).isSome ∧
      ∀ r', Run t r r' → r'.locations[key]? = some l ∧
        ∃ d d', r.lookup? key = some d ∧ r'.lookup? key = some d' ∧
          d'.kind = d.kind ∧ d'.scopes = d.scopes) ∧
    (∀ path f, (path, f) ∈ r.files.entries → ∀ line group, (line, group) ∈ f.lines.entries →
      group.length ≤ options.maxEntriesPerLine ∧
      ∀ index, index < group.length →
        ∃ key : EntryKey, r.locations[key]? = some ⟨path, line, index⟩) := by
  obtain ⟨hcons, hkeeps⟩ := Moves.keeps (empty_consistent options) run.moves
  constructor
  · intro key l hl
    obtain ⟨d, hd⟩ := Option.isSome_iff_exists.mp (hcons.live hl)
    have hlookup : r.lookup? key = some d := by simp [lookup?, hl, hd]
    refine ⟨by rw [hlookup]; rfl, ?_⟩
    intro r' run'
    obtain ⟨-, hkeeps'⟩ := Moves.keeps hcons run'.moves
    obtain ⟨d', hd', hkind, hscopes⟩ := hkeeps'.declaration hd
    have hl' := hkeeps'.location hl
    exact ⟨hl', d, d', hlookup, by simp [lookup?, hl', hd'], hkind, hscopes⟩
  · intro path f hf line group hgroup
    have hfile := (SortedMap.mem_entries_iff hcons.ordered.files).mp hf
    have hline := (SortedMap.mem_entries_iff (hcons.ordered.lines hfile)).mp hgroup
    have hbucket : r.bucket path line = group := by simp [bucket, hfile, SourceFile.line, hline]
    constructor
    · have hcap := hcons.capped path line
      rwa [hbucket, hkeeps.options] at hcap
    · intro index hindex
      apply hcons.reached
      rw [get?_eq_bucket, hbucket]
      simpa using hindex

/-- Two units that both declare a structure on line 3 of one header. -/
def twoUnits : EntryTree :=
  let declare := fun (b : TreeBuilder) (unit : String) =>
    let (b, root) := b.compileUnit unit "/src"
    let (b, point) := b.child root .structureType
    (b.name point "Point").declaredAt point "/src/point.h" 3
  (declare (declare .start "a.cpp") "b.cpp").tree

/-- The structure of the first unit is found again where it was after the second. -/
theorem twoUnits_keeps_location :
    ∃ r r', (empty {}).update twoUnits 0 = some r ∧ r.update twoUnits 2 = some r' ∧
      r'.locations[(⟨.info, 12⟩ : EntryKey)]? = some ⟨"/src/point.h", 3, 0⟩ := by
  have hfirst : ((empty {}).update twoUnits 0).bind
      (fun r => r.locations[(⟨.info, 12⟩ : EntryKey)]?) = some ⟨"/src/point.h", 3, 0⟩ := by cbv
  have hboth : (((empty {}).update twoUnits 0).bind fun r => r.update twoUnits 2).isSome := by cbv
  obtain ⟨r, hr, hl⟩ := Option.bind_eq_some_iff.mp hfirst
  obtain ⟨r', hr'⟩ := Option.isSome_iff_exists.mp hboth
  rw [hr, Option.bind_some] at hr'
  have hkept := ((run_keeps_locations {} (.single (.update hr))).1 _ _ hl).2
  exact ⟨r, r', hr, hr', (hkept r' (.single (.update hr'))).1⟩

end HeaderRecovery.Registry
