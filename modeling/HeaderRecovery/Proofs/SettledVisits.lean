import HeaderRecovery.Proofs.Visits

/-!
What a visit leaves behind. Every recorded sighting is recognised at its location and covered by
what is stored there, and every visit stays settled: the sighting is found where it was stored,
or has no place, or is refused by a full line, whatever is collected later.
-/
namespace HeaderRecovery.Registry
open Debug Declaration

variable {t : EntryTree} {r r' r'' : Registry}

/-- The invariant that carries the recognition of sightings through a run. -/
structure Settled (t : EntryTree) (r : Registry) : Prop where
  consistent : r.Consistent
  grounded : ∀ {file line d}, d ∈ r.bucket file line → Grounded (Seen t r.options file line) d
  located : ∀ {scopes node l}, Sighting t scopes node → r.locations[t.key node]? = some l →
    ∃ kind reading, place? t node = some (kind, l.file, l.line) ∧
      ofEntry? t r.options kind node = some reading ∧ reading.isRenderable ∧
      FoundAt (r.bucket l.file l.line) (reading.setScopes scopes) l.index

/-- How a registry changes while sightings come in. -/
structure Grows (t : EntryTree) (r r' : Registry) : Prop where
  keeps : r.Keeps r'
  line : ∀ file line, Follows (Seen t r.options file line) r.options.maxEntriesPerLine
    (r.bucket file line) (r'.bucket file line)
  hasLine : ∀ {file line}, r.HasLine file line → r'.HasLine file line

lemma Grows.refl (t : EntryTree) (r : Registry) : Grows t r r :=
  ⟨.refl r, fun _ _ => .refl _ _ _, fun h => h⟩

lemma Grows.trans (h : Grows t r r') (h' : Grows t r' r'') : Grows t r r'' where
  keeps := h.keeps.trans h'.keeps
  line file line := by
    have hrest := h'.line file line
    rw [h.keeps.options] at hrest
    exact (h.line file line).trans hrest
  hasLine hline := h'.hasLine (h.hasLine hline)

lemma empty_settled (t : EntryTree) (options : Options) : Settled t (empty options) where
  consistent := empty_consistent options
  grounded h := by simp [bucket_empty] at h
  located _ h := by simp [empty] at h

/-- A sighting as it is stored has been seen. -/
lemma seen_reading {options : Options} {scopes : List Scope} {node : NodeId}
    {kind : DeclarationKind}
    {file : String} {line : UInt64} {reading : Declaration} (hsighting : Sighting t scopes node)
    (hplace : place? t node = some (kind, file, line))
    (hread : ofEntry? t options kind node = some reading) (hrenderable : reading.isRenderable) :
    Seen t options file line (reading.setScopes scopes) :=
  ⟨scopes, node, kind, reading, hsighting, hplace, hread, hrenderable, rfl⟩

/-- Where nothing new is recorded, growth keeps what is recorded. -/
lemma Settled.located_grows (h : Settled t r) (hgrows : Grows t r r') {scopes : List Scope}
    {node : NodeId} {l : Location} (hsighting : Sighting t scopes node)
    (hl : r.locations[t.key node]? = some l) :
    ∃ kind reading, place? t node = some (kind, l.file, l.line) ∧
      ofEntry? t r'.options kind node = some reading ∧ reading.isRenderable ∧
      FoundAt (r'.bucket l.file l.line) (reading.setScopes scopes) l.index := by
  obtain ⟨kind, reading, hplace, hread, hrenderable, hfound⟩ := h.located hsighting hl
  rw [hgrows.keeps.options]
  exact ⟨kind, reading, hplace, hread, hrenderable,
    hfound.follows (seen_reading hsighting hplace hread hrenderable) (hgrows.line _ _)⟩

lemma Settled.grounded_of_get? (h : Settled t r) {l : Location} {d : Declaration}
    (hd : r.get? l = some d) : Grounded (Seen t r.options l.file l.line) d := by
  rw [get?_eq_bucket] at hd
  exact h.grounded (List.mem_of_getElem? hd)

/-- The declaration that recognises a recorded sighting. -/
lemma Settled.present (h : Settled t r) {scopes : List Scope} {node : NodeId} {l : Location}
    (hsighting : Sighting t scopes node) (hl : r.locations[t.key node]? = some l) :
    ∃ kind reading a, place? t node = some (kind, l.file, l.line) ∧
      ofEntry? t r.options kind node = some reading ∧ reading.isRenderable ∧
      r.get? l = some a ∧ a.kind = kind ∧ a.merge reading = a ∧
      FoundAt (r.bucket l.file l.line) (reading.setScopes scopes) l.index := by
  obtain ⟨kind, reading, hplace, hread, hrenderable, hfound⟩ := h.located hsighting hl
  obtain ⟨a, ha, hsame, hcovers⟩ := hfound.present
  have hget : r.get? l = some a := by rw [get?_eq_bucket, ha]
  obtain rfl : reading.kind = kind := ofEntry?_kind hread
  have hkind : reading.kind = a.kind :=
    h.consistent.kind_of_recognised hget hsame (standsAlone_of_place hplace)
  rw [merge_recognised hsame (ofEntry?_scopes hread)] at hcovers
  exact ⟨_, reading, a, hplace, hread, hrenderable, hget, hkind.symm, hcovers, hfound⟩

/-- Reading a recorded entry again changes nothing. -/
lemma Settled.mergeReading_eq (h : Settled t r) {scopes : List Scope} {node : NodeId} {l : Location}
    (hsighting : Sighting t scopes node) (hl : r.locations[t.key node]? = some l) :
    r.mergeReading t l node = some r := by
  obtain ⟨kind, reading, a, -, hread, -, hget, hkind, hcovers, -⟩ := h.present hsighting hl
  have hsame : r.modify l (fun d => d.merge reading) = r :=
    modify_eq_self h.consistent.ordered fun d hd => by
      cases hget.symm.trans hd
      exact hcovers
  simp only [mergeReading, hget, hkind, hread, Option.map_some, hsame]

/-- A change of one declaration that goes on recognising what it recognised. -/
lemma Settled.modify (h : Settled t r) {l : Location} {g : Declaration → Declaration}
    (hg : ∀ d, r.get? l = some d → Grounded (Seen t r.options l.file l.line) (g d) ∧
      Succeeds (Seen t r.options l.file l.line) d (g d))
    (hkeeps : ∀ d, r.get? l = some d → (g d).kind = d.kind ∧ (g d).scopes = d.scopes) :
    Settled t (r.modify l g) ∧ Grows t r (r.modify l g) := by
  obtain ⟨hconsistent, hkept⟩ := h.consistent.modify hkeeps
  have hbucket := bucket_modify h.consistent.ordered l g
  have hgrows : Grows t r (r.modify l g) := by
    refine ⟨hkept, ?_, fun hline => hline.modify h.consistent.ordered⟩
    intro file line
    rw [hbucket]
    split
    · rename_i heq
      rw [heq.1, heq.2]
      exact .modify fun d hd => (hg d (by rw [get?_eq_bucket, hd])).2
    · exact .refl _ _ _
  refine ⟨⟨hconsistent, ?grounded, ?located⟩, hgrows⟩
  case grounded =>
    intro file line d hd
    rw [hbucket] at hd
    rw [modify_options]
    split at hd
    · rename_i heq
      obtain ⟨i, hi⟩ := List.getElem?_of_mem hd
      rw [List.getElem?_modify, Option.map_eq_map] at hi
      obtain ⟨a, ha, heqd⟩ := Option.map_eq_some_iff.mp hi
      rw [heq.1, heq.2]
      split at heqd
      · rename_i hindex
        subst hindex
        rw [← heqd]
        exact (hg a (by rw [get?_eq_bucket, ha])).1
      · rw [← heqd]
        exact h.grounded (List.mem_of_getElem? ha)
    · exact h.grounded hd
  case located =>
    intro scopes node l' hsighting hl'
    rw [modify_locations] at hl'
    exact h.located_grows hgrows hsighting hl'

section Storing
variable {scopes : List Scope} {node : NodeId} {kind : DeclarationKind} {file : String}
  {line : UInt64} {reading : Declaration}

/-- The sighting under a new key is the one that was recorded. -/
lemma Coherent.located_new (hc : Coherent t) (hsighting : Sighting t scopes node)
    {scopes' : List Scope} {node' : NodeId} (hsighting' : Sighting t scopes' node')
    (hkey : t.key node = t.key node') : node' = node ∧ scopes' = scopes := by
  obtain rfl := hc.key hsighting hsighting' hkey
  exact ⟨rfl, hc.scopes hsighting' hsighting⟩

/-- Recording a sighting where it is recognised. -/
lemma Settled.remember (hc : Coherent t) (h : Settled t r) {l : Location}
    (new : r.locations[t.key node]? = none) (hsighting : Sighting t scopes node)
    (hplace : place? t node = some (kind, l.file, l.line))
    (hread : ofEntry? t r.options kind node = some reading) (hrenderable : reading.isRenderable)
    (hfound : FoundAt (r.bucket l.file l.line) (reading.setScopes scopes) l.index) :
    Settled t (r.remember (t.key node) (some l)) ∧
      Grows t r (r.remember (t.key node) (some l)) := by
  obtain ⟨a, ha, -⟩ := hfound.present
  obtain ⟨hconsistent, hkept⟩ := h.consistent.remember new
    (show (r.get? l).isSome by rw [get?_eq_bucket, ha]; rfl)
  refine ⟨⟨hconsistent, h.grounded, ?_⟩, ⟨hkept, fun _ _ => .refl _ _ _, fun hline => hline⟩⟩
  intro scopes' node' l' hsighting' hl'
  rw [remember_locations] at hl'
  split at hl'
  · rename_i hkey
    obtain ⟨rfl, rfl⟩ := hc.located_new hsighting hsighting' hkey
    cases hl'
    exact ⟨kind, reading, hplace, hread, hrenderable, hfound⟩
  · exact h.located hsighting' hl'

/-- Storing a sighting that was recognised. -/
lemma Settled.found (hc : Coherent t) (h : Settled t r) {index : Nat}
    (new : r.locations[t.key node]? = none) (hsighting : Sighting t scopes node)
    (hplace : place? t node = some (kind, file, line))
    (hread : ofEntry? t r.options kind node = some reading) (hrenderable : reading.isRenderable)
    (known : r.recognise? file line (reading.setScopes scopes) = some index) :
    let r' := (r.modify ⟨file, line, index⟩ fun present =>
      present.merge (reading.setScopes scopes)).remember (t.key node) (some ⟨file, line, index⟩)
    Settled t r' ∧ Grows t r r' := by
  intro r'
  have hP := hc.distinct r.options file line
  have hseen := seen_reading hsighting hplace hread hrenderable
  obtain ⟨present, hget, hsame⟩ := get?_of_recognise? known
  have hgrounded := h.grounded_of_get? hget
  obtain ⟨hsettled, hgrows⟩ := h.modify (l := ⟨file, line, index⟩)
    (g := fun present => present.merge (reading.setScopes scopes))
    (by
      intro d hd
      cases hget.symm.trans hd
      exact hgrounded.merge_sighting hP hseen hsame)
    (by
      intro d hd
      cases hget.symm.trans hd
      exact ⟨kind_merge (kind_eq_of_sameAs hgrounded.proper (hP.proper hseen) hsame),
        scopes_merge (Or.inr (scopes_of_sameAs hsame).symm)⟩)
  have hfound : FoundAt ((r.modify ⟨file, line, index⟩ fun present =>
      present.merge (reading.setScopes scopes)).bucket file line)
        (reading.setScopes scopes) index := by
    rw [bucket_modify h.consistent.ordered, if_pos ⟨rfl, rfl⟩]
    exact .merged hP hseen (fun a ha => h.grounded ha) known
  obtain ⟨hsettled', hgrows'⟩ := hsettled.remember hc (l := ⟨file, line, index⟩)
    (by simpa using new) hsighting hplace (by simpa using hread) hrenderable hfound
  exact ⟨hsettled', hgrows.trans hgrows'⟩

/-- Storing a sighting that was not recognised on a line with room. -/
lemma Settled.added (hc : Coherent t) (h : Settled t r)
    (new : r.locations[t.key node]? = none) (hsighting : Sighting t scopes node)
    (hplace : place? t node = some (kind, file, line))
    (hread : ofEntry? t r.options kind node = some reading) (hrenderable : reading.isRenderable)
    (unknown : r.recognise? file line (reading.setScopes scopes) = none)
    (room : (r.bucket file line).length < r.options.maxEntriesPerLine) :
    let r' := (r.setFile file ((r.fileFor file).add line (reading.setScopes scopes)).1).remember
      (t.key node) (some ⟨file, line, (r.bucket file line).length⟩)
    Settled t r' ∧ Grows t r r' := by
  intro r'
  have hP := hc.distinct r.options file line
  have hseen := seen_reading hsighting hplace hread hrenderable
  have halone : (reading.setScopes scopes).kind.StandsAlone := by
    rw [kind_setScopes, ofEntry?_kind hread]
    exact standsAlone_of_place hplace
  obtain ⟨hconsistent, hkept⟩ := h.consistent.added new halone room
  have hbucket : ∀ other otherLine, r'.bucket other otherLine =
      if other = file ∧ otherLine = line then r.bucket file line ++ [reading.setScopes scopes]
      else r.bucket other otherLine :=
    bucket_add_room h.consistent.ordered room
  have hgrows : Grows t r r' := by
    refine ⟨hkept, ?_, fun hline => hline.add h.consistent.ordered⟩
    intro other otherLine
    rw [hbucket]
    split
    · rename_i heq
      rw [heq.1, heq.2]
      exact .append room _
    · exact .refl _ _ _
  refine ⟨⟨hconsistent, ?grounded, ?located⟩, hgrows⟩
  case grounded =>
    intro other otherLine d hd
    rw [hbucket] at hd
    split at hd
    · rename_i heq
      rw [heq.1, heq.2]
      rcases List.mem_append.mp hd with hold | hnew
      · exact h.grounded hold
      · cases List.mem_singleton.mp hnew
        exact hP.grounded hseen
    · exact h.grounded hd
  case located =>
    intro scopes' node' l' hsighting' hl'
    change (Registry.remember _ _ _).locations[_]? = _ at hl'
    rw [remember_locations] at hl'
    split at hl'
    · rename_i hkey
      obtain ⟨rfl, rfl⟩ := hc.located_new hsighting hsighting' hkey
      cases hl'
      refine ⟨kind, reading, hplace, hread, hrenderable, ?_⟩
      rw [hbucket, if_pos ⟨rfl, rfl⟩]
      exact .appended hP hseen unknown
    · exact h.located_grows hgrows hsighting' hl'

/-- A sighting that a full line drops. -/
lemma Settled.dropped (h : Settled t r) {d : Declaration}
    (full : r.options.maxEntriesPerLine ≤ (r.bucket file line).length) :
    let r' := r.setFile file ((r.fileFor file).add line d).1
    Settled t r' ∧ Grows t r r' := by
  intro r'
  obtain ⟨hconsistent, hkept⟩ := h.consistent.dropped (d := d) full
  have hbucket : ∀ other otherLine, r'.bucket other otherLine = r.bucket other otherLine :=
    bucket_add_full h.consistent.ordered full
  have hgrows : Grows t r r' :=
    ⟨hkept, fun other otherLine => by rw [hbucket]; exact .refl _ _ _,
      fun hline => hline.add h.consistent.ordered⟩
  refine ⟨⟨hconsistent, ?_, fun hsighting hl => h.located_grows hgrows hsighting hl⟩, hgrows⟩
  intro other otherLine d hd
  rw [hbucket] at hd
  exact h.grounded hd

end Storing

/-- What is settled about a visit from then on. -/
inductive Done (t : EntryTree) (r : Registry) (scopes : List Scope) (child : NodeId) : Prop
  | stored {l : Location} {a : Declaration}
      (known : r.locations[t.key (t.resolve child)]? = some l) (present : r.get? l = some a)
      (covered : t.resolve child ≠ child →
        ∃ again, ofEntry? t r.options a.kind child = some again ∧ a.merge again = a)
  | unplaced (none : place? t (t.resolve child) = none)
  | unwritable {kind : DeclarationKind} {file : String} {line : UInt64} {reading : Declaration}
      (place : place? t (t.resolve child) = some (kind, file, line))
      (read : ofEntry? t r.options kind (t.resolve child) = some reading)
      (unrenderable : reading.isRenderable = false)
  | refused {kind : DeclarationKind} {file : String} {line : UInt64} {reading : Declaration}
      (place : place? t (t.resolve child) = some (kind, file, line))
      (read : ofEntry? t r.options kind (t.resolve child) = some reading)
      (renderable : reading.isRenderable = true)
      (refused : Refused r.options.maxEntriesPerLine (r.bucket file line)
        (reading.setScopes scopes))
      (hasLine : r.HasLine file line)

/-- What is settled stays settled. -/
lemma Done.grows {scopes : List Scope} {child : NodeId} (h : Done t r scopes child)
    (hsighting : Sighting t scopes (t.resolve child)) (hgrows : Grows t r r') :
    Done t r' scopes child := by
  have hoptions := hgrows.keeps.options
  cases h with
  | @stored l a known present covered =>
    rw [get?_eq_bucket] at present
    obtain ⟨b, hb, hsucceeds⟩ := (hgrows.line l.file l.line).slot present
    rw [← get?_eq_bucket] at present hb
    obtain ⟨b', hb', hkind, -⟩ := hgrows.keeps.declaration present
    cases hb.symm.trans hb'
    refine .stored (hgrows.keeps.location known) hb fun hne => ?_
    obtain ⟨again, hread, hcovers⟩ := covered hne
    exact ⟨again, by rw [hoptions, hkind, hread], hsucceeds.covers hcovers⟩
  | unplaced none => exact .unplaced none
  | unwritable place read unrenderable =>
    exact .unwritable place (by rw [hoptions, read]) unrenderable
  | refused place read renderable refused hasLine =>
    refine .refused place (by rw [hoptions, read]) renderable ?_ (hgrows.hasLine hasLine)
    rw [hoptions]
    exact refused.follows (seen_reading hsighting place read renderable) (hgrows.line _ _)

section Visiting
variable {scopes : List Scope} {child : NodeId}

/-- First comes the entry that the child stands for. -/
lemma getOrCreate_settled (hc : Coherent t) (h : Settled t r)
    (hsighting : Sighting t scopes (t.resolve child)) {l? : Option Location}
    (hget : r.getOrCreate t (t.resolve child) scopes = some (r', l?)) :
    Settled t r' ∧ Grows t r r' ∧ (l? = none → Done t r' scopes child) := by
  rcases getOrCreate_cases hget with ⟨l, known, rfl, hmerge⟩ | ⟨new, ⟨hplace, rfl, -⟩ | hstored⟩
  · cases (h.mergeReading_eq hsighting known).symm.trans hmerge
    exact ⟨h, .refl t r, by simp⟩
  · exact ⟨h, .refl t _, fun _ => .unplaced hplace⟩
  · obtain ⟨kind, file, line, reading, hplace, hread,
      ⟨hrenderable, rfl, -⟩ | ⟨hrenderable, r₂, hstore, rfl⟩⟩ := hstored
    · exact ⟨h, .refl t _, fun _ => .unwritable hplace hread hrenderable⟩
    · have hcases := Registry.stored h.consistent.ordered file line (reading.setScopes scopes)
      rw [hstore] at hcases
      cases hcases with
      | found known =>
        obtain ⟨hsettled, hgrows⟩ := h.found hc new hsighting hplace hread hrenderable known
        exact ⟨hsettled, hgrows, by simp⟩
      | added unknown room =>
        obtain ⟨hsettled, hgrows⟩ :=
          h.added hc new hsighting hplace hread hrenderable unknown room
        exact ⟨hsettled, hgrows, by simp⟩
      | dropped unknown full =>
        obtain ⟨hsettled, hgrows⟩ := h.dropped (d := reading.setScopes scopes) full
        refine ⟨hsettled, hgrows, fun _ => .refused hplace hread hrenderable ?_
          (hasLine_add h.consistent.ordered file line _)⟩
        rw [remember, bucket_add_full h.consistent.ordered full]
        exact ⟨full, fun hb => not_sameAs_of_findIdx? unknown hb⟩

/-- Then what only the child says. -/
lemma mergeChild_settled (hc : Coherent t) (h : Settled t r) {root : NodeId}
    (hroot : Collected t root) (hchild : (scopes, child) ∈ unitVisits t root)
    (hne : t.resolve child ≠ child) {l : Location}
    (known : r.locations[t.key (t.resolve child)]? = some l)
    (hmerge : r.mergeReading t l child = some r') :
    Settled t r' ∧ Grows t r r' ∧ Done t r' scopes child := by
  obtain ⟨kind, reading, a, hplace, -, -, hpresent, hkind, -, -⟩ :=
    h.present ⟨root, child, hroot, hchild, rfl⟩ known
  rcases mergeReading_cases hmerge with ⟨present, again, hget, hagain, rfl⟩ | ⟨hnone, -⟩
  · cases hpresent.symm.trans hget
    have hfunction : a.kind ≠ .function false := by
      rw [hkind]
      rintro rfl
      exact hc.definition hroot hchild hne
        (DeclarationKind.tag_of_function (kind_of_place hplace))
    have hkind' := ofEntry?_kind hagain
    have hscopes' := Or.inl (b := again.scopes = a.scopes) (ofEntry?_scopes hagain)
    have hgrounded := h.grounded_of_get? hpresent
    obtain ⟨hsettled, hgrows⟩ := h.modify (l := l) (g := fun d => d.merge again)
      (by
        intro d hd
        cases hpresent.symm.trans hd
        exact hgrounded.merge_other hkind' hscopes' hfunction)
      (by
        intro d hd
        cases hpresent.symm.trans hd
        exact ⟨kind_merge hkind', scopes_merge hscopes'⟩)
    refine ⟨hsettled, hgrows, .stored (by simpa using known)
      (by rw [get?_modify h.consistent.ordered, if_pos rfl, hpresent]; rfl) fun _ => ?_⟩
    exact ⟨again, by rw [modify_options, kind_merge hkind', hagain],
      fills.again again hgrounded.proper⟩
  · cases hpresent.symm.trans hnone

/-- A visit keeps the invariant, lets the registry grow and is settled. -/
lemma visit_settled (hc : Coherent t) (h : Settled t r) {root : NodeId} (hroot : Collected t root)
    (hchild : (scopes, child) ∈ unitVisits t root) (hvisit : visit t scopes r child = some r') :
    Settled t r' ∧ Grows t r r' ∧ Done t r' scopes child := by
  have hsighting : Sighting t scopes (t.resolve child) := ⟨root, child, hroot, hchild, rfl⟩
  obtain ⟨r₁, l?, hget, hrest⟩ := visit_cases hvisit
  obtain ⟨hsettled, hgrows, hnone⟩ := getOrCreate_settled hc h hsighting hget
  obtain ⟨rfl, rfl⟩ | ⟨l, rfl, hrest⟩ := hrest
  · exact ⟨hsettled, hgrows, hnone rfl⟩
  · have known := getOrCreate_known hget
    obtain ⟨heq, rfl⟩ | ⟨hne, hmerge⟩ := hrest
    · obtain ⟨-, -, a, -, -, -, hpresent, -⟩ := hsettled.present hsighting known
      exact ⟨hsettled, hgrows, .stored known hpresent fun hne => absurd heq hne⟩
    · obtain ⟨hsettled', hgrows', hdone⟩ :=
        mergeChild_settled hc hsettled hroot hchild hne known hmerge
      exact ⟨hsettled', hgrows.trans hgrows', hdone⟩

end Visiting

/-- The same for any number of visits, in whatever units they are. -/
lemma visits_settled (hc : Coherent t) {vs : List (List Scope × NodeId)}
    (hvs : ∀ v ∈ vs, ∃ root, Collected t root ∧ v ∈ unitVisits t root) (h : Settled t r)
    (hfold : vs.foldlM (fun r v => visit t v.1 r v.2) r = some r') :
    Settled t r' ∧ Grows t r r' ∧ ∀ v ∈ vs, Done t r' v.1 v.2 := by
  induction vs generalizing r with
  | nil =>
    cases hfold
    exact ⟨h, .refl t _, by simp⟩
  | cons v rest ih =>
    rw [List.foldlM_cons] at hfold
    obtain ⟨r₁, hfirst, hrest⟩ := Option.bind_eq_some_iff.mp hfold
    obtain ⟨root, hroot, hv⟩ := hvs v List.mem_cons_self
    obtain ⟨hsettled, hgrows, hdone⟩ := visit_settled hc h hroot hv hfirst
    obtain ⟨hsettled', hgrows', hdone'⟩ :=
      ih (fun w hw => hvs w (List.mem_cons_of_mem v hw)) hsettled hrest
    refine ⟨hsettled', hgrows.trans hgrows', ?_⟩
    intro w hw
    rcases List.mem_cons.mp hw with rfl | hw
    · exact hdone.grows ⟨root, w.2, hroot, hv, rfl⟩ hgrows'
    · exact hdone' w hw

lemma narrow_settled (h : Settled t r) (baseDir : String) :
    Settled t { r with baseDir } ∧ Grows t r { r with baseDir } := by
  obtain ⟨hconsistent, hkept⟩ := Move.keeps h.consistent (.narrow (t := t) baseDir)
  exact ⟨⟨hconsistent, h.grounded, h.located⟩, ⟨hkept, fun _ _ => .refl _ _ _, fun hline => hline⟩⟩

end HeaderRecovery.Registry
