import HeaderRecovery.Proofs.DescribedEntries
import HeaderRecovery.Proofs.Marks
import HeaderRecovery.Proofs.RepeatedUnits

/-!
No line declares one thing twice. A sighting is looked up on its line before it is stored, but a
merge fills in what later lookups compare and the line is not searched again: two declarations that
were told apart can become the same. They never do exactly if no sighting can join another one
that way with a third.
-/
namespace HeaderRecovery.Registry
open Debug Declaration

variable {t : EntryTree} {r r' : Registry} {options : Options}

/-- No line holds two declarations of the same thing. -/
def Unrepeated (r : Registry) : Prop := ∀ ⦃file line i j a b⦄, i ≠ j →
  r.get? ⟨file, line, i⟩ = some a → r.get? ⟨file, line, j⟩ = some b → ¬ a.sameAs b

/-- What is stored for an entry if its key is new and nothing on its line is recognised. -/
structure ReadAt (t : EntryTree) (options : Options) (node : NodeId) (file : String)
    (line : UInt64) (d : Declaration) : Prop where
  place : place? t node = some (d.kind, file, line)
  reading : ofEntry? t options d.kind node = some d
  renderable : d.isRenderable

/-- Whatever is merged because its key is known fills in nothing that is compared. -/
def Steady (t : EntryTree) (options : Options) : Prop := ∀ ⦃owner node file line d again⦄,
  ReadAt t options owner file line d →
  t.key node = t.key owner ∨ t.key (t.resolve node) = t.key owner →
  ofEntry? t options d.kind node = some again → (d.merge again).mark = d.mark

/-- What a declaration takes in from one that it recognises makes it the same as a third one on
the line only if it was before. -/
def StaysApart (t : EntryTree) (options : Options) : Prop := ∀ ⦃a b c file line x y z⦄,
  ReadAt t options a file line x → ReadAt t options b file line y →
  ReadAt t options c file line z → t.key a ≠ t.key b → t.key a ≠ t.key c → t.key b ≠ t.key c →
  x.sameAs y → (x.merge y).sameAs z → x.sameAs z

namespace ReadAt
variable {node : NodeId} {file : String} {line : UInt64} {d : Declaration}

lemma scopes (h : ReadAt t options node file line d) : d.scopes = [] := ofEntry?_scopes h.reading

lemma standsAlone (h : ReadAt t options node file line d) : d.kind.StandsAlone :=
  standsAlone_of_place h.place

lemma whole (h : ReadAt t options node file line d) : d.Whole :=
  ofEntry?_whole h.reading h.standsAlone

lemma of_move {kind : DeclarationKind} (place : place? t node = some (kind, file, line))
    (reading : ofEntry? t options kind node = some d) (renderable : d.isRenderable) :
    ReadAt t options node file line d := by
  obtain rfl := ofEntry?_kind reading
  exact ⟨place, reading, renderable⟩

end ReadAt

/-! What a move does to marks -/

/-- One declaration comes to stand at a location under a new key, and all else stays. -/
structure Lands (t : EntryTree) (r r' : Registry) (node : NodeId) (l : Location)
    (d a : Declaration) : Prop where
  readAt : ReadAt t r.options node l.file l.line d
  new : r.locations[t.key node]? = none
  options : r'.options = r.options
  locations : ∀ k : EntryKey, r'.locations[k]? = if t.key node = k then some l else r.locations[k]?
  here : r'.get? l = some a
  others : ∀ other, other ≠ l → r'.get? other = r.get? other
  kind : a.kind = d.kind

/-- A move keeps all that is compared, or adds a declaration to a line without its like, or adds
a sighting to a declaration that recognises it. -/
inductive Outcome (t : EntryTree) (r : Registry) : Registry → Prop
  | kept {r' : Registry} (options : r'.options = r.options)
      (locations : r'.locations = r.locations)
      (faces : ∀ l, (r'.get? l).map face = (r.get? l).map face) : Outcome t r r'
  | added {r' : Registry} {node : NodeId} {l : Location} {d a : Declaration}
      (lands : Lands t r r' node l d a) (free : r.get? l = none) (mark : a.mark = d.mark)
      (unlike : ∀ index b, r.get? ⟨l.file, l.line, index⟩ = some b → ¬ b.sameAs a) : Outcome t r r'
  | joined {r' : Registry} {node : NodeId} {l : Location} {d a present : Declaration}
      (lands : Lands t r r' node l d a) (stored : r.get? l = some present)
      (same : present.mark.same d.mark) (kind : a.kind = present.kind)
      (scopes : a.scopes = present.scopes) (mark : a.mark = present.mark.fill d.mark) :
      Outcome t r r'

/-- The mark of a sighting for whose key the location is recorded. -/
def SeenAt (t : EntryTree) (r : Registry) (l : Location) (m : Mark) : Prop := ∃ owner d,
  r.locations[t.key owner]? = some l ∧ ReadAt t r.options owner l.file l.line d ∧ d.mark = m

/-- The invariant: for each recorded key some sighting has been taken in at its location, and each
mark is made of those of sightings there. -/
structure Traced (t : EntryTree) (r : Registry) : Prop where
  known : ∀ {k : EntryKey} {l}, r.locations[k]? = some l → ∃ owner d a, t.key owner = k ∧
    ReadAt t r.options owner l.file l.line d ∧ r.get? l = some a ∧ a.kind = d.kind ∧
    a.mark.fill d.mark = a.mark
  made : ∀ {l a}, r.get? l = some a → a.mark.MadeOf (SeenAt t r l)

lemma empty_traced (t : EntryTree) (options : Options) : Traced t (empty options) where
  known h := by simp [empty] at h
  made h := by simp [get?_eq_bucket, bucket_empty] at h

lemma get?_of_faces (faces : ∀ l, (r'.get? l).map face = (r.get? l).map face) {l : Location}
    {a : Declaration} (ha : r'.get? l = some a) : ∃ b, r.get? l = some b ∧ b.face = a.face := by
  have hl := faces l
  rw [ha, Option.map_some, eq_comm, Option.map_eq_some_iff] at hl
  exact hl

section Outcome
variable {node : NodeId} {l : Location} {a d : Declaration}

lemma lands_remember {r₁ : Registry} (readAt : ReadAt t r.options node l.file l.line d)
    (new : r.locations[t.key node]? = none) (here : r₁.get? l = some a)
    (others : ∀ other, other ≠ l → r₁.get? other = r.get? other)
    (options : r₁.options = r.options) (locations : r₁.locations = r.locations)
    (kind : a.kind = d.kind) :
    Lands t r (r₁.remember (t.key node) (some l)) node l d a where
  readAt := readAt
  new := new
  options := options
  locations k := by rw [remember_locations, locations]
  here := here
  others := others
  kind := kind

/-- What is read again under a known key adds nothing to what its owner added. -/
lemma outcome_merge (steady : Steady t r.options) (hordered : r.Ordered) (h : Traced t r)
    {owner : NodeId} {present again : Declaration} (known : r.locations[t.key owner]? = some l)
    (stands : node = owner ∨ t.resolve node = owner) (hstored : r.get? l = some present)
    (reading : ofEntry? t r.options present.kind node = some again) :
    Outcome t r (r.modify l fun d => d.merge again) := by
  obtain ⟨o, d, a, hkey, hread, ha, hkind, htaken⟩ := h.known known
  cases hstored.symm.trans ha
  have hagain := ofEntry?_kind reading
  have hstands : t.key node = t.key o ∨ t.key (t.resolve node) = t.key o := by
    rcases stands with rfl | rfl
    · exact Or.inl hkey.symm
    · exact Or.inr hkey.symm
  -- The owner's own reading has been taken in, and what is read again adds nothing to that.
  have hmark : (present.merge again).mark = present.mark := by
    have hadds := steady hread hstands (hkind ▸ reading)
    rw [mark_merge] at hadds ⊢
    exact Mark.fill_of_fill (mark_alike hkind) (mark_alike (hkind.symm.trans hagain.symm))
      htaken hadds
  have hface : (present.merge again).face = present.face := by
    rw [face, kind_merge hagain, scopes_merge (Or.inl (ofEntry?_scopes reading)), hmark, face]
  refine .kept (modify_options _ _ _) (modify_locations _ _ _) fun other => ?_
  rw [get?_modify hordered]
  split
  · rename_i heq
    rw [heq, hstored, Option.map_some, Option.map_some, Option.map_some, hface]
  · rfl

lemma outcome_store (hconsistent : r.Consistent) {file : String} {line : UInt64}
    {scopes : List Scope} {r₁ : Registry} {l? : Option Location}
    (hread : ReadAt t r.options node file line d) (new : r.locations[t.key node]? = none)
    (store : r.store file line (d.setScopes scopes) = (r₁, l?)) :
    Outcome t r (r₁.remember (t.key node) l?) := by
  have hcases := stored hconsistent.ordered file line (d.setScopes scopes)
  rw [store] at hcases
  cases hcases with
  | @found index known =>
    obtain ⟨present, hpresent, hsame⟩ := get?_of_recognise? known
    have hget := get?_modify hconsistent.ordered ⟨file, line, index⟩
      fun present => present.merge (d.setScopes scopes)
    have hkind : (d.setScopes scopes).kind = present.kind := (kind_setScopes scopes d).trans
      (hconsistent.kind_of_recognised hpresent hsame hread.standsAlone)
    have hlands : Lands t r _ node ⟨file, line, index⟩ d _ :=
      lands_remember hread new (by rw [hget, if_pos rfl, hpresent, Option.map_some])
        (fun other hother => (hget other).trans (if_neg hother)) (modify_options _ _ _)
        (modify_locations _ _ _) (by rw [kind_merge hkind, ← hkind, kind_setScopes])
    refine .joined hlands hpresent ?_ (kind_merge hkind)
      (scopes_merge (Or.inr (scopes_of_sameAs hsame).symm)) ?_
    · rw [← mark_setScopes scopes d]
      exact (sameAs_iff.mp hsame).2
    · rw [mark_merge, mark_setScopes]
  | added unknown room =>
    have hget := get?_add hconsistent.ordered (d := d.setScopes scopes) room
    have hlands : Lands t r _ node ⟨file, line, (r.bucket file line).length⟩ d _ :=
      lands_remember hread new ((hget _).trans (if_pos rfl))
        (fun other hother => (hget other).trans (if_neg hother)) rfl rfl (kind_setScopes _ _)
    refine .added hlands (by simp [get?_eq_bucket]) (mark_setScopes _ _) fun index b hb => ?_
    rw [get?_eq_bucket] at hb
    exact Bool.eq_false_iff.mp (List.findIdx?_eq_none_iff.mp unknown b (List.mem_of_getElem? hb))
  | dropped unknown full =>
    exact .kept rfl rfl fun l => congrArg _ (get?_add_full hconsistent.ordered full l)

end Outcome

lemma Move.outcome (steady : Steady t r.options) (hconsistent : r.Consistent) (h : Traced t r)
    (move : Move t r r') : Outcome t r r' := by
  cases move with
  | narrow baseDir => exact .kept rfl rfl fun _ => rfl
  | merge known stands stored reading =>
    exact outcome_merge steady hconsistent.ordered h known stands stored reading
  | store new place reading renderable store =>
    exact outcome_store hconsistent (.of_move place reading renderable) new store

/-! Marks are traced to sightings -/

section Lands
variable {node : NodeId} {l l' : Location} {a b d : Declaration}

lemma SeenAt.mono (h : Lands t r r' node l d a) {m : Mark} (hseen : SeenAt t r l' m) :
    SeenAt t r' l' m := by
  obtain ⟨owner, d', hl', hread, hmark⟩ := hseen
  refine ⟨owner, d', ?_, h.options ▸ hread, hmark⟩
  rw [h.locations, if_neg]
  · exact hl'
  · intro hkey
    cases h.new.symm.trans (hkey ▸ hl')

lemma Lands.seenAt (h : Lands t r r' node l d a) : SeenAt t r' l d.mark :=
  ⟨node, d, by rw [h.locations, if_pos rfl], h.options ▸ h.readAt, rfl⟩

/-- The step of tracing, given how it goes at the location of the sighting. -/
lemma Lands.traced (lands : Lands t r r' node l d a) (h : Traced t r)
    (hmade : a.mark.MadeOf (SeenAt t r' l)) (htaken : a.mark.fill d.mark = a.mark)
    (hkeeps : ∀ {before e : Declaration}, r.get? l = some before → before.kind = e.kind →
      before.mark.fill e.mark = before.mark → a.kind = e.kind ∧ a.mark.fill e.mark = a.mark) :
    Traced t r' where
  known {k l'} hl' := by
    rw [lands.locations] at hl'
    split at hl'
    · cases hl'
      exact ⟨node, d, a, ‹_›, lands.options ▸ lands.readAt, lands.here, lands.kind, htaken⟩
    · obtain ⟨owner, e, before, hkey, hread, hbefore, hkind, hfill⟩ := h.known hl'
      by_cases hsame : l' = l
      · subst hsame
        obtain ⟨hkind', hfill'⟩ := hkeeps hbefore hkind hfill
        exact ⟨owner, e, a, hkey, lands.options ▸ hread, lands.here, hkind', hfill'⟩
      · exact ⟨owner, e, before, hkey, lands.options ▸ hread,
          (lands.others l' hsame).trans hbefore, hkind, hfill⟩
  made {l' b} hb := by
    by_cases hsame : l' = l
    · subst hsame
      cases lands.here.symm.trans hb
      exact hmade
    · exact (h.made ((lands.others l' hsame).symm.trans hb)).mono fun _ => .mono lands

end Lands

lemma Outcome.traced (hwhole : r.Whole) (h : Traced t r) (outcome : Outcome t r r') :
    Traced t r' := by
  cases outcome with
  | kept options locations faces =>
    constructor
    · intro k l hl
      rw [locations] at hl
      obtain ⟨owner, d, b, hkey, hread, hb, hkind, hfill⟩ := h.known hl
      obtain ⟨a, ha, heq⟩ := get?_of_faces (fun l => (faces l).symm) hb
      simp only [face, Prod.mk.injEq] at heq
      exact ⟨owner, d, a, hkey, options ▸ hread, ha, heq.1.trans hkind, by rwa [heq.2.2]⟩
    · intro l a ha
      obtain ⟨b, hb, heq⟩ := get?_of_faces faces ha
      simp only [face, Prod.mk.injEq] at heq
      rw [← heq.2.2]
      refine (h.made hb).mono ?_
      rintro m ⟨owner, d, hl, hread, hmark⟩
      exact ⟨owner, d, by rwa [locations], options ▸ hread, hmark⟩
  | added lands free mark unlike =>
    refine lands.traced h (Or.inl (mark ▸ lands.seenAt)) (mark ▸ Mark.fill_self _) fun hbefore => ?_
    cases free.symm.trans hbefore
  | joined lands stored same kind scopes mark =>
    have hpresent := (hwhole stored).mark
    have hd := lands.readAt.whole.mark
    refine lands.traced h ?_ (by rw [mark, Mark.fill_again]) fun hbefore hkind hfill => ?_
    · rw [mark]
      exact ((h.made stored).mono fun _ => .mono lands).fill hpresent hd same lands.seenAt
    · cases stored.symm.trans hbefore
      exact ⟨kind.trans hkind, by rw [mark, Mark.fill_keeps hpresent hd same hfill]⟩

/-! Lines stay without repetition -/

/-- What has joined a declaration makes it the same as no other one on its line. -/
lemma joined_unlike (apart : StaysApart t r.options) (h : Traced t r) (hwhole : r.Whole)
    (hunrepeated : r.Unrepeated) {node : NodeId} {l : Location} {a b d present : Declaration}
    (lands : Lands t r r' node l d a) (hstored : r.get? l = some present)
    (same : present.mark.same d.mark) (hscopes : a.scopes = present.scopes)
    (hmark : a.mark = present.mark.fill d.mark) {index : Nat} (hindex : index ≠ l.index)
    (hb : r.get? ⟨l.file, l.line, index⟩ = some b) : ¬ a.sameAs b := by
  intro hmeet
  rw [sameAs_iff, hscopes, hmark] at hmeet
  have hapart : ¬ present.mark.same b.mark := fun hsame =>
    hunrepeated hindex.symm hstored hb (sameAs_iff.mpr ⟨hmeet.1, hsame⟩)
  -- So both marks are those of sightings, which the new one joins.
  obtain ⟨⟨o, x, ho, hx, hxmark⟩, o', z, ho', hz, hzmark⟩ :=
    (h.made hstored).of_meet (h.made hb) (hwhole hstored).mark lands.readAt.whole.mark same hapart
      hmeet.2
  have hd := lands.readAt.scopes
  have hnew : ∀ {owner l'}, r.locations[t.key owner]? = some l' → t.key owner ≠ t.key node :=
    fun hl' hkey => by cases lands.new.symm.trans (hkey ▸ hl')
  have hkeys : t.key o ≠ t.key o' := fun hkey => by
    rw [hkey, ho', Option.some.injEq] at ho
    exact hindex (congrArg Location.index ho)
  have hsame := apart hx lands.readAt hz (hnew ho) hkeys (hnew ho').symm
    (sameAs_iff.mpr ⟨hx.scopes.trans hd.symm, hxmark ▸ same⟩)
    (sameAs_iff.mpr ⟨(scopes_merge (Or.inl hd)).trans (hx.scopes.trans hz.scopes.symm), by
      rw [mark_merge, hxmark, hzmark]
      exact hmeet.2⟩)
  rw [sameAs_iff, hxmark, hzmark] at hsame
  exact hapart hsame.2

lemma Lands.unrepeated {node : NodeId} {l : Location} {a d : Declaration}
    (lands : Lands t r r' node l d a) (h : r.Unrepeated)
    (hunlike : ∀ {index b}, index ≠ l.index → r.get? ⟨l.file, l.line, index⟩ = some b →
      ¬ a.sameAs b) : r'.Unrepeated := by
  intro file line i j x y hij hx hy
  by_cases hi : ⟨file, line, i⟩ = l
  · subst hi
    cases lands.here.symm.trans hx
    have hj : (⟨file, line, j⟩ : Location) ≠ ⟨file, line, i⟩ := fun heq =>
      hij (congrArg Location.index heq).symm
    exact hunlike (Ne.symm hij) ((lands.others _ hj).symm.trans hy)
  · have hx' := (lands.others _ hi).symm.trans hx
    by_cases hj : ⟨file, line, j⟩ = l
    · subst hj
      cases lands.here.symm.trans hy
      rw [sameAs_comm]
      exact hunlike hij hx'
    · exact h hij hx' ((lands.others _ hj).symm.trans hy)

/-- The step: an outcome without repetition. -/
lemma Outcome.unrepeated (apart : StaysApart t r.options) (h : Traced t r) (hwhole : r.Whole)
    (hunrepeated : r.Unrepeated) (outcome : Outcome t r r') : r'.Unrepeated := by
  cases outcome with
  | kept options locations faces =>
    intro file line i j x y hij hx hy
    obtain ⟨x', hx', hface⟩ := get?_of_faces faces hx
    obtain ⟨y', hy', hface'⟩ := get?_of_faces faces hy
    rw [← sameAs_congr hface hface']
    exact hunrepeated hij hx' hy'
  | added lands free mark unlike =>
    refine lands.unrepeated hunrepeated fun _ hb => ?_
    rw [sameAs_comm]
    exact unlike _ _ hb
  | joined lands stored same kind scopes mark =>
    exact lands.unrepeated hunrepeated
      (joined_unlike apart h hwhole hunrepeated lands stored same scopes mark)

/-- From the steps, by induction, the run. -/
lemma Moves.traced (steady : Steady t options) (moves : Moves t (empty options) r) :
    Traced t r ∧ (StaysApart t options → r.Unrepeated) := by
  induction moves with
  | refl =>
    refine ⟨empty_traced t options, fun _ => ?_⟩
    intro file line i j a b _ ha
    simp [get?_eq_bucket, bucket_empty] at ha
  | tail moves move ih =>
    obtain ⟨htraced, hunrepeated⟩ := ih
    obtain ⟨hconsistent, hkeeps⟩ := Moves.keeps (empty_consistent options) moves
    have hoptions : options = _ := hkeeps.options.symm
    obtain ⟨hwhole, -⟩ := Moves.retains (empty_consistent options) (empty_whole options) moves
    have outcome := move.outcome (hoptions ▸ steady) hconsistent htraced
    exact ⟨outcome.traced hwhole htraced, fun apart =>
      outcome.unrepeated (hoptions ▸ apart) htraced hwhole (hunrepeated apart)⟩

/-- A line that holds at most one declaration. -/
lemma Consistent.unrepeated_of_cap (h : r.Consistent) (hcap : r.options.maxEntriesPerLine < 2) :
    r.Unrepeated := by
  intro file line i j a b hij ha hb
  rw [get?_eq_bucket] at ha hb
  obtain ⟨hi, -⟩ := List.getElem?_eq_some_iff.mp ha
  obtain ⟨hj, -⟩ := List.getElem?_eq_some_iff.mp hb
  have hlength := h.capped file line
  dsimp only at hi hj
  omega

/-! A repetition that can be reached -/

namespace ReadAt
variable {node : NodeId} {file : String} {line : UInt64} {d : Declaration}

/-- One look at an entry by itself, outside of any namespace. -/
lemma call (h : ReadAt t r.options node file line d) (new : r.locations[t.key node]? = none) :
    Call t r ((r.store file line d).1.remember (t.key node) (r.store file line d).2) := by
  have hscopes : d.setScopes [] = d := by
    have hplacement : { d.placement with scopes := [] } = d.placement := by
      have hnone : d.placement.scopes = [] := h.scopes
      rw [← hnone]
    rw [setScopes, hplacement]
    cases d <;> rfl
  exact .getOrCreate (getOrCreate_of_store new h.place h.reading h.renderable (by rw [hscopes]))

lemma call_append (h : ReadAt t r.options node file line d) (hordered : r.Ordered)
    (new : r.locations[t.key node]? = none) (unknown : r.recognise? file line d = none)
    (room : (r.bucket file line).length < r.options.maxEntriesPerLine) :
    ∃ r', Call t r r' ∧ r'.options = r.options ∧
      r'.bucket file line = r.bucket file line ++ [d] ∧
      ∀ k : EntryKey, k ≠ t.key node → r'.locations[k]? = r.locations[k]? := by
  have hcall := h.call new
  have hcases := stored hordered file line d
  generalize r.store file line d = result at hcall hcases
  cases hcases with
  | found known => cases unknown.symm.trans known
  | dropped _ full => exact absurd room (Nat.not_lt.mpr full)
  | added =>
    refine ⟨_, hcall, rfl, ?_, fun k hk => ?_⟩
    · exact (bucket_add_room hordered room file line).trans (if_pos ⟨rfl, rfl⟩)
    · rw [remember_locations, if_neg (Ne.symm hk)]
      rfl

lemma call_join (h : ReadAt t r.options node file line d) (hordered : r.Ordered)
    (new : r.locations[t.key node]? = none) {index : Nat}
    (known : r.recognise? file line d = some index) :
    ∃ r', Call t r r' ∧ ∀ other, r'.get? other =
      if other = ⟨file, line, index⟩ then (r.get? other).map fun present => present.merge d
      else r.get? other := by
  have hcall := h.call new
  rw [store_found hordered known] at hcall
  refine ⟨_, hcall, fun other => ?_⟩
  have hget := get?_modify hordered ⟨file, line, index⟩ (fun present => present.merge d) other
  refine Eq.trans hget ?_
  split
  · rename_i heq
    rw [heq]
  · rfl

end ReadAt

/-- The first two are stored apart, then what is between them joins the first. -/
lemma exists_repetition (hcap : 2 ≤ options.maxEntriesPerLine) {a b c : NodeId} {file : String}
    {line : UInt64} {x y z : Declaration} (ha : ReadAt t options a file line x)
    (hb : ReadAt t options b file line y) (hc : ReadAt t options c file line z)
    (hab : t.key a ≠ t.key b) (hac : t.key a ≠ t.key c) (hbc : t.key b ≠ t.key c)
    (hsame : x.sameAs y) (hmeet : (x.merge y).sameAs z) (hapart : ¬ x.sameAs z) :
    ∃ r, Run t (empty options) r ∧ ¬ r.Unrepeated := by
  have hempty : (empty options).bucket file line = [] := bucket_empty options file line
  obtain ⟨r₁, call₁, hoptions₁, hbucket₁, hlocations₁⟩ := ReadAt.call_append (r := empty options) ha
    (empty_ordered options) (by simp [empty]) (by rw [recognise?, hempty]; rfl)
    (by rw [hempty]; exact Nat.lt_of_lt_of_le Nat.zero_lt_two hcap)
  rw [hempty, List.nil_append] at hbucket₁
  -- The third is no other sighting of the first, so it is appended behind it.
  have run₁ : Run t (empty options) r₁ := .single call₁
  have hordered₁ := (Moves.keeps (empty_consistent options) run₁.moves).1.ordered
  have hrecognise₁ : r₁.recognise? file line z = none := by
    simp [recognise?, hbucket₁, hapart]
  obtain ⟨r₂, call₂, hoptions₂, hbucket₂, hlocations₂⟩ := ReadAt.call_append (r := r₁)
    (by rwa [hoptions₁]) hordered₁ (by rw [hlocations₁ _ hac.symm]; simp [empty]) hrecognise₁
    (by rw [hbucket₁, hoptions₁]; exact hcap)
  rw [hbucket₁, List.singleton_append] at hbucket₂
  -- The second is recognised by the first, on which the search ends.
  have run₂ : Run t (empty options) r₂ := run₁.tail call₂
  have hordered₂ := (Moves.keeps (empty_consistent options) run₂.moves).1.ordered
  have hrecognise₂ : r₂.recognise? file line y = some 0 := by
    rw [recognise?, hbucket₂, List.findIdx?_cons, if_pos hsame]
  obtain ⟨r₃, call₃, hget⟩ := ReadAt.call_join (r := r₂) (by rwa [hoptions₂, hoptions₁]) hordered₂
    (by rw [hlocations₂ _ hbc, hlocations₁ _ hab.symm]; simp [empty]) hrecognise₂
  have hfirst : r₃.get? ⟨file, line, 0⟩ = some (x.merge y) := by
    rw [hget, if_pos rfl, get?_eq_bucket, hbucket₂]
    rfl
  have hsecond : r₃.get? ⟨file, line, 1⟩ = some z := by
    rw [hget, if_neg (by simp), get?_eq_bucket, hbucket₂]
    rfl
  exact ⟨r₃, run₂.tail call₃, fun hunrepeated =>
    hunrepeated Nat.zero_ne_one hfirst hsecond hmeet⟩

/-- If merges under known keys fill in nothing that is compared: no calls on an empty registry
ever lead to a line that declares one thing twice, exactly if lines hold one declaration at most or
no sighting makes one that recognises it the same as a third. -/
theorem run_unrepeated_iff (steady : Steady t options) :
    (∀ r, Run t (empty options) r → r.Unrepeated) ↔
      (2 ≤ options.maxEntriesPerLine → StaysApart t options) := by
  constructor
  · intro hall hcap a b c file line x y z ha hb hc hab hac hbc hsame hmeet
    by_contra hapart
    obtain ⟨r, run, hrepeated⟩ :=
      exists_repetition hcap ha hb hc hab hac hbc hsame hmeet hapart
    exact hrepeated (hall r run)
  · intro hapart r run
    by_cases hcap : 2 ≤ options.maxEntriesPerLine
    · exact (Moves.traced steady run.moves).2 (hapart hcap)
    · obtain ⟨hconsistent, hkeeps⟩ := Moves.keeps (empty_consistent options) run.moves
      apply hconsistent.unrepeated_of_cap
      rw [hkeeps.options]
      exact Nat.lt_of_not_le hcap

/-- If no name is blank, all but functions are read as what no merge can change in what is
compared; so it is enough that nothing else is read under the key of a function. -/
lemma steady_of_named (named : t.Named) (sole : ∀ {owner node}, t.tag owner = .subprogram →
    (place? t owner).isSome → t.key node = t.key owner ∨ t.key (t.resolve node) = t.key owner →
    node = owner) : Steady t options := by
  intro owner node file line d again hread hstands hagain
  rw [mark_merge]
  by_cases hkind : d.kind = .function false
  · have htag := DeclarationKind.tag_of_function (hkind ▸ kind_of_place hread.place)
    obtain rfl := sole htag (by rw [hread.place]; rfl) hstands
    cases hread.reading.symm.trans hagain
    exact Mark.fill_self _
  · exact (proper_of_place? named hread.place hread.reading hread.renderable).mark_fill hkind _

/-- Three units that declare a function on line 3 of one header: the first one without its
parameters, the second one without its linker name, which the first and the third may share. -/
def prototypes (isShared : Bool) : EntryTree :=
  let declare := fun (b : TreeBuilder) (unit : String) (linker : Option String) (hasInt : Bool) =>
    let (b, root) := b.compileUnit unit "/src"
    let (b, f) := b.child root .subprogram
    let b := (b.name f "scale").declaredAt f "/src/scale.h" 3
    let b := match linker with
      | some linker => b.addAttr f .linkageName (.string linker)
      | none => b
    if hasInt then
      let (b, int) := b.baseType root "int" 4 5
      let (b, p) := b.child f .formalParameter
      b.typeRef p int
    else b
  let first := declare .start "a.c" (some (if isShared then "scale_int" else "scale_void")) false
  (declare (declare first "b.c" none true) "c.c" (some "scale_int") true).tree

/-- The marks of the three functions. -/
def prototypeMark (isShared : Bool) (n : NodeId) : Mark :=
  .function "scale"
    (if n = 1 then some (if isShared then "scale_int" else "scale_void")
      else if n = 3 then none else some "scale_int")
    (if n = 1 then [] else [⟨"int", ""⟩])

lemma prototypes_place (isShared : Bool) {n : NodeId}
    (h : (place? (prototypes isShared) n).isSome) :
    n ∈ [1, 3, 7] ∧ place? (prototypes isShared) n = some (.function false, "/src/scale.h", 3) := by
  have hsize : ∀ b, (prototypes b).size = 10 := by decide +kernel
  have hnodes : ∀ b, ∀ n < 10, (place? (prototypes b) n).isSome → n ∈ [1, 3, 7] := by
    decide +kernel
  obtain ⟨⟨kind, file, line⟩, hplace⟩ := Option.isSome_iff_exists.mp h
  have hlt := lt_size_of_place hplace
  rw [hsize] at hlt
  have hn := hnodes isShared n hlt h
  refine ⟨hn, ?_⟩
  simp only [List.mem_cons, List.not_mem_nil, or_false] at hn
  rcases hn with rfl | rfl | rfl <;> cases isShared <;> cbv

lemma prototypes_steady (isShared : Bool) : Steady (prototypes isShared) {} := by
  have hsize : ∀ b, (prototypes b).entries.size = 10 := by decide +kernel
  have hnamed : ∀ b, ∀ n < 10, ((prototypes b).attr? n .name).all
      (fun value => value.string?.any (· ≠ "")) := by decide +kernel
  have hkeys : ∀ b, ∀ owner ∈ [1, 3, 7], (∀ n < 10,
      (prototypes b).key n = (prototypes b).key owner → n = owner) ∧
      (prototypes b).key owner ≠ (default : Entry).key := by decide +kernel
  have hresolve : ∀ b, ∀ n < 10, (prototypes b).resolve n = n := by decide +kernel
  have named : (prototypes isShared).Named := by
    apply EntryTree.named_of_entries
    rw [hsize]
    exact hnamed isShared
  refine steady_of_named named fun {owner node} _ hplace hstands => ?_
  obtain ⟨hnodes, hother⟩ := hkeys isShared owner (prototypes_place isShared hplace).1
  by_cases hn : node < 10
  · rw [hresolve _ _ hn, or_self] at hstands
    exact hnodes node hn hstands
  · have hentry : (prototypes isShared).entry node = default :=
      EntryTree.entry_of_size_le (hsize isShared ▸ Nat.not_lt.mp hn)
    have hself : (prototypes isShared).resolve node = node := by
      simp [EntryTree.resolve, EntryTree.attr?, hentry, default]
    rw [hself, or_self, EntryTree.key, hentry] at hstands
    exact absurd hstands.symm hother

lemma prototypes_mark (isShared : Bool) {n : NodeId} {file : String} {line : UInt64}
    {d : Declaration} (h : ReadAt (prototypes isShared) {} n file line d) :
    n ∈ [1, 3, 7] ∧ d.mark = prototypeMark isShared n := by
  have hmarks : ∀ b, ∀ n ∈ [1, 3, 7],
      (Declaration.ofEntry? (prototypes b) {} (.function false) n).map mark =
        some (prototypeMark b n) := by
    intro b n hn
    simp only [List.mem_cons, List.not_mem_nil, or_false] at hn
    rcases hn with rfl | rfl | rfl <;> cases b <;> cbv
  obtain ⟨hn, hplace⟩ := prototypes_place isShared (by rw [h.place]; rfl)
  obtain ⟨hkind, -⟩ := Prod.mk.inj (Option.some.inj (h.place.symm.trans hplace))
  have hmark := hmarks isShared n hn
  rw [← hkind, h.reading, Option.map_some, Option.some.injEq] at hmark
  exact ⟨hn, hmark⟩

/-- With different linker names the second and the third function are one, whatever is collected
and in which order; no line ever repeats a declaration. -/
theorem prototypes_unrepeated :
    (∃ r, (empty {}).updateAll (prototypes false) [0, 2, 6] = some r ∧
      r.files.entries.map (fun e => (e.1, e.2.render)) =
        [("/src/scale.h", "void scale();\nvoid scale(int);\n")]) ∧
    ∀ r, Run (prototypes false) (empty {}) r → r.Unrepeated := by
  have htexts : ((empty {}).updateAll (prototypes false) [0, 2, 6]).map
      (fun r => r.files.entries.map fun e => (e.1, e.2.render)) =
        some [("/src/scale.h", "void scale();\nvoid scale(int);\n")] := by cbv
  refine ⟨Option.map_eq_some_iff.mp htexts, (run_unrepeated_iff (prototypes_steady false)).mpr ?_⟩
  have hmarks : ∀ a ∈ [1, 3, 7], ∀ b ∈ [1, 3, 7], ∀ c ∈ [1, 3, 7], a ≠ b → a ≠ c → b ≠ c →
      (prototypeMark false a).same (prototypeMark false b) →
      ¬ ((prototypeMark false a).fill (prototypeMark false b)).same (prototypeMark false c) := by
    decide +kernel
  intro _ a b c file line x y z hx hy hz hab hac hbc hsame hmeet
  obtain ⟨ha, hx⟩ := prototypes_mark false hx
  obtain ⟨hb, hy⟩ := prototypes_mark false hy
  obtain ⟨hc, hz⟩ := prototypes_mark false hz
  rw [sameAs_iff, hx, hy] at hsame
  rw [sameAs_iff, mark_merge, hx, hy, hz] at hmeet
  have hne {n m : NodeId} (hkey : (prototypes false).key n ≠ (prototypes false).key m) : n ≠ m :=
    fun heq => hkey (congrArg _ heq)
  exact absurd hmeet.2 (hmarks a ha b hb c hc (hne hab) (hne hac) (hne hbc) hsame.2)

/-- With one linker name the third function is taken for the first, whose parameters it adds: that
is the second one now, and both are written. -/
theorem prototypes_repeated :
    ∃ r a b, (empty {}).updateAll (prototypes true) [0, 2, 6] = some r ∧
      r.get? ⟨"/src/scale.h", 3, 0⟩ = some a ∧ r.get? ⟨"/src/scale.h", 3, 1⟩ = some b ∧
      a.sameAs b ∧ ¬ r.Unrepeated ∧ r.files.entries.map (fun e => (e.1, e.2.render)) =
        [("/src/scale.h", "void scale(int);\nvoid scale(int);\n")] := by
  have hrun : ((empty {}).updateAll (prototypes true) [0, 2, 6]).bind (fun r =>
      (r.get? ⟨"/src/scale.h", 3, 0⟩).bind fun a => (r.get? ⟨"/src/scale.h", 3, 1⟩).map fun b =>
        (a.sameAs b, r.files.entries.map fun e => (e.1, e.2.render))) =
      some (true, [("/src/scale.h", "void scale(int);\nvoid scale(int);\n")]) := by cbv
  obtain ⟨r, hr, hrun⟩ := Option.bind_eq_some_iff.mp hrun
  obtain ⟨a, ha, hrun⟩ := Option.bind_eq_some_iff.mp hrun
  obtain ⟨b, hb, hrun⟩ := Option.map_eq_some_iff.mp hrun
  obtain ⟨hsame, htexts⟩ := Prod.mk.inj hrun
  exact ⟨r, a, b, hr, ha, hb, hsame, fun h => h Nat.zero_ne_one ha hb hsame, htexts⟩

end HeaderRecovery.Registry
