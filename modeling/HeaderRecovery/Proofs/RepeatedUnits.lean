import HeaderRecovery.Debug.Builder
import HeaderRecovery.Proofs.SettledVisits
import HeaderRecovery.Proofs.TwinReadings

/-!
Units that repeat what another unit declares, as units do that include one header. Each
declaration of the copy is recognised as the one that its twin went to, which has taken in all
that it says; so the copy leaves every file as it is.
-/
namespace HeaderRecovery

/-- Merging changes nothing where the lines of the merged aggregate are there, and all else is. -/
lemma Aggregate.covers_iff {Member : Type} {a d : Aggregate Member} (ha : a.members.Ascending) :
    a.merge d = a ↔ { a.merge d with members := a.members } = a ∧
      ∀ e ∈ d.members.entries, (a.members.find? e.1).isSome := by
  constructor
  · intro h
    refine ⟨by rw [h], fun e he => ?_⟩
    have hmembers : (a.merge d).members = a.members := by rw [h]
    rw [← hmembers]
    exact (SortedMap.isSome_find?_foldl_insertNew ha _ _).mpr (Or.inr ⟨e, he, rfl⟩)
  · rintro ⟨h, hlines⟩
    have hmembers : (a.merge d).members = a.members := SortedMap.foldl_insertNew_eq ha hlines
    rwa [← hmembers] at h

namespace Declaration
open Debug

lemma outline_setScopes (scopes : List Scope) (d : Declaration) :
    (d.setScopes scopes).outline = d.outline.setScopes scopes := by cases d <;> rfl

lemma isRenderable_outline (d : Declaration) : d.outline.isRenderable = d.isRenderable := by
  cases d <;> rfl

lemma sameAs_outline (a : Declaration) {d : Declaration} (h : d.kind ≠ .typedef) :
    a.sameAs d.outline = a.sameAs d := by
  cases d with
  | typedef d => exact (h rfl).elim
  | _ => cases a <;> rfl

/-- Whether a declaration covers another can be seen from the outline. -/
lemma covers_outline {a : Declaration} (ha : a.Proper) (d : Declaration) :
    a.merge d.outline = a ↔ a.merge d = a := by
  cases a with
  | aggregate a =>
    cases d with
    | aggregate d =>
      simp only [outline, merge, aggregate.injEq]
      rw [Aggregate.covers_iff ha.2, Aggregate.covers_iff ha.2]
      refine and_congr Iff.rfl ?_
      simp only [SortedMap.map, List.forall_mem_map]
    | _ => rfl
  | typedef a =>
    cases d with
    | typedef d => simp [outline, merge, Typedef.merge, ha.2]
    | _ => rfl
  | _ => cases d <;> rfl

lemma covers_of_outline {a d d' : Declaration} (ha : a.Proper) (h : d.outline = d'.outline)
    (hcovers : a.merge d = a) : a.merge d' = a := by
  rwa [← covers_outline ha, ← h, covers_outline ha]

section Readings
variable {t : EntryTree} {options : Options} {twin : NodeId → NodeId → Prop} {n m : NodeId}

lemma definition?_type {depth : Nat} {read : DeclarationKind → NodeId → Option Declaration}
    {type : NodeId} {text : String}
    (h : definition? t options depth read n = some (some (type, text))) :
    t.target? n .type = some type ∧ isUnnamedType t type ∧ depth < options.maxInlineDepth := by
  unfold definition? at h
  split at h
  · cases h
  · rename_i htarget
    obtain ⟨htype, hunnamed⟩ := Option.filter_eq_some_iff.mp htarget
    split at h
    · cases h
    · split at h
      · cases h
      · rename_i hdepth
        obtain ⟨d, -, heq⟩ := Option.map_eq_some_iff.mp h
        cases heq
        exact ⟨htype, hunnamed, Nat.lt_of_not_le hdepth⟩

/-- What an alias spells out is its own twin. -/
def KeepsAlias (t : EntryTree) (options : Options) (twin : NodeId → NodeId → Prop) (n : NodeId) :
    Prop :=
  ∀ {type type'}, t.target? n .type = some type → isUnnamedType t type → twin type type' →
    type = type' ∨ options.maxInlineDepth = 0

/-- Twins that are aliases are read as the same alias, if they spell out the same entry. -/
lemma readWithin_typedef (h : t.Twins twin) (hnm : twin n m) (halias : KeepsAlias t options twin n)
    (fuel : Nat) :
    readWithin t options (fuel + 1) 0 .typedef n =
      readWithin t options (fuel + 1) 0 .typedef m := by
  simp only [readWithin]
  have hdefinition := definition?_twin h options 0
    (fun kind _ _ hab => readWithin_alike h options fuel 1 kind hab) hnm
  rcases rel_cases hdefinition with ⟨hn, hm⟩ | ⟨x, y, hn, hm, hxy⟩
  · rw [hn, hm]
    rfl
  · rw [hn, hm, Option.map_some, Option.map_some]
    cases hxy with
    | none =>
      simp only [Typedef.ofEntry, h.placement hnm, h.shortName? hnm, h.spellTypeOf hnm]
    | @some x y hxy =>
      obtain ⟨a, text⟩ := x
      obtain ⟨b, text'⟩ := y
      obtain ⟨hab, rfl⟩ : twin a b ∧ text = text' := hxy
      obtain ⟨htype, hunnamed, hdepth⟩ := definition?_type hn
      have heq : a = b := (halias htype hunnamed hab).resolve_right (Nat.ne_of_gt hdepth)
      simp only [Typedef.ofEntry, h.placement hnm, h.shortName? hnm, heq]

/-- A twin is read as something that is recognised where the reading is. -/
lemma reading_twin (h : t.Twins twin) (hnm : twin n m) {kind : DeclarationKind} {d : Declaration}
    (halias : kind = .typedef → KeepsAlias t options twin n)
    (hread : ofEntry? t options kind n = some d) :
    ∃ d', ofEntry? t options kind m = some d' ∧ d.outline = d'.outline ∧
      ∀ scopes (a : Declaration),
        a.sameAs (d'.setScopes scopes) = a.sameAs (d.setScopes scopes) := by
  by_cases htypedef : kind = .typedef
  · subst htypedef
    have hsame : ofEntry? t options .typedef n = ofEntry? t options .typedef m :=
      readWithin_typedef h hnm (halias rfl) _
    exact ⟨d, by rw [← hsame, hread], rfl, fun _ _ => rfl⟩
  · have halike := ofEntry?_alike h options kind hnm
    rw [hread] at halike
    rcases rel_cases halike with ⟨hnone, -⟩ | ⟨e, d', he, hm, hdd'⟩
    · cases hnone
    · cases he
      refine ⟨d', hm, hdd'.outline, fun scopes a => ?_⟩
      have hd : (d.setScopes scopes).kind ≠ .typedef := by rwa [kind_setScopes, ofEntry?_kind hread]
      have hd' : (d'.setScopes scopes).kind ≠ .typedef := by rwa [kind_setScopes, ofEntry?_kind hm]
      rw [← sameAs_outline a hd, ← sameAs_outline a hd', outline_setScopes, outline_setScopes,
        hdd'.outline]

end Readings
end Declaration

namespace Registry
open Debug Declaration

variable {t : EntryTree} {twin : NodeId → NodeId → Prop} {n m : NodeId} {r : Registry}

lemma place?_twin (h : t.Twins twin) (hnm : twin n m) : place? t n = place? t m := by
  simp only [place?, h.tag hnm, h.unsigned? hnm, h.hasAttr hnm]
  rcases rel_cases (h.attr? hnm .declaredFile) with ⟨hn, hm⟩ | ⟨v, w, hn, hm, hvw⟩
  · rw [hn, hm]
  · rw [hn, hm]
    cases v <;> cases w <;> simp only [Value.Matches, reduceCtorEq] at hvw
    case string.string => rw [hvw]
    all_goals cases DeclarationKind.ofTag? (t.tag m) <;> rfl

lemma visits_twin (h : t.Twins twin) (fuel : Nat) (scopes : List Scope)
    (hchildren : List.Forall₂ twin (t.children n) (t.children m)) :
    List.Forall₂ (fun v w => v.1 = w.1 ∧ twin v.2 w.2) (visits t fuel scopes n)
      (visits t fuel scopes m) := by
  induction fuel generalizing scopes n m with
  | zero => exact .nil
  | succ fuel ih =>
    rw [visits, visits]
    refine List.rel_flatMap hchildren ?_
    intro a b hab
    simp only [h.tag hab, h.scope hab]
    split
    · exact ih _ (h.children hab)
    · exact .cons ⟨rfl, hab⟩ .nil

lemma store_found (h : r.Ordered) {file : String} {line : UInt64} {d : Declaration} {index : Nat}
    (known : r.recognise? file line d = some index) :
    r.store file line d =
      (r.modify ⟨file, line, index⟩ fun present => present.merge d, some ⟨file, line, index⟩) := by
  have hcases := stored h file line d
  generalize r.store file line d = result at hcases ⊢
  cases hcases with
  | found known' =>
    cases known.symm.trans known'
    rfl
  | added unknown => cases known.symm.trans unknown
  | dropped unknown => cases known.symm.trans unknown

lemma store_dropped (h : r.Ordered) {file : String} {line : UInt64} {d : Declaration}
    (unknown : r.recognise? file line d = none)
    (full : r.options.maxEntriesPerLine ≤ (r.bucket file line).length) :
    r.store file line d = (r.setFile file ((r.fileFor file).add line d).1, none) := by
  have hcases := stored h file line d
  generalize r.store file line d = result at hcases ⊢
  cases hcases with
  | found known => cases unknown.symm.trans known
  | added _ room => exact absurd room (Nat.not_lt.mpr full)
  | dropped => rfl

/-- What only a child says is covered already if it was for the twin of the child. -/
lemma child_covered (h : t.Twins twin) {r₁ : Registry} (hordered : r₁.Ordered) {l : Location}
    {a : Declaration} (hget : r₁.get? l = some a) (ha : a.Proper) {child child' : NodeId}
    (htwin : twin child child')
    (hcovered : t.resolve child ≠ child →
      ∃ again, ofEntry? t r₁.options a.kind child = some again ∧ a.merge again = a) :
    (if t.resolve child' = child' then some r₁ else r₁.mergeReading t l child') = some r₁ := by
  split
  · rfl
  · rename_i hne
    have hne' : t.resolve child ≠ child := fun heq =>
      hne (h.unique.2 (heq ▸ h.resolve htwin) htwin)
    obtain ⟨again, hread, hcovers⟩ := hcovered hne'
    have halike := ofEntry?_alike h r₁.options a.kind htwin
    rw [hread] at halike
    rcases rel_cases halike with ⟨hnone, -⟩ | ⟨e, again', he, hread', hlike⟩
    · cases hnone
    · cases he
      have hsame : r₁.modify l (fun d => d.merge again') = r₁ :=
        modify_eq_self hordered fun d hd => by
        cases hget.symm.trans hd
        exact covers_of_outline ha hlike.outline hcovers
      simp only [mergeReading, hget, hread', Option.map_some, hsame]

section Steps
variable {node : NodeId} {scopes : List Scope} {r₁ : Registry}

lemma getOrCreate_of_known {l : Location} (known : r.locations[t.key node]? = some l)
    (hmerge : r.mergeReading t l node = some r₁) :
    r.getOrCreate t node scopes = some (r₁, some l) := by
  simp only [getOrCreate, known, hmerge, Option.map_some]

lemma getOrCreate_of_unplaced (new : r.locations[t.key node]? = none)
    (hplace : place? t node = none) : r.getOrCreate t node scopes = some (r, none) := by
  simp only [getOrCreate, new, hplace]

variable {kind : DeclarationKind} {file : String} {line : UInt64} {d : Declaration}

lemma getOrCreate_of_unwritable (new : r.locations[t.key node]? = none)
    (hplace : place? t node = some (kind, file, line))
    (hread : ofEntry? t r.options kind node = some d) (h : d.isRenderable = false) :
    r.getOrCreate t node scopes = some (r, none) := by
  simp only [getOrCreate, new, hplace, hread, h, Option.map_some, Bool.not_false, if_true]

lemma getOrCreate_of_store (new : r.locations[t.key node]? = none)
    (hplace : place? t node = some (kind, file, line))
    (hread : ofEntry? t r.options kind node = some d) (h : d.isRenderable = true)
    {l? : Option Location} (hstore : r.store file line (d.setScopes scopes) = (r₁, l?)) :
    r.getOrCreate t node scopes = some (r₁.remember (t.key node) l?, l?) := by
  simp only [getOrCreate, new, hplace, hread, h, Option.map_some, Bool.not_true, Bool.false_eq_true,
    if_false, hstore]
  cases l? <;> rfl

variable {child : NodeId}

lemma visit_of_none (h : r.getOrCreate t (t.resolve child) scopes = some (r₁, none)) :
    visit t scopes r child = some r₁ := by
  simp only [visit, h, Option.bind_eq_bind, Option.bind_some]

lemma visit_of_some {l : Location}
    (h : r.getOrCreate t (t.resolve child) scopes = some (r₁, some l)) :
    visit t scopes r child =
      if t.resolve child = child then some r₁ else r₁.mergeReading t l child := by
  simp only [visit, h, Option.bind_eq_bind, Option.bind_some]

end Steps

/-- Twins have one place, and their readings are recognised alike. -/
lemma placed_twin (h : t.Twins twin) (hnm : twin n m) {options : Options} {kind : DeclarationKind}
    {file : String} {line : UInt64} {d : Declaration}
    (halias : t.tag n = .typedef → KeepsAlias t options twin n)
    (hplace : place? t n = some (kind, file, line)) (hread : ofEntry? t options kind n = some d) :
    place? t m = some (kind, file, line) ∧
      ∃ d', ofEntry? t options kind m = some d' ∧ d.outline = d'.outline ∧
        d'.isRenderable = d.isRenderable ∧
        ∀ scopes (a : Declaration),
          a.sameAs (d'.setScopes scopes) = a.sameAs (d.setScopes scopes) := by
  refine ⟨place?_twin h hnm ▸ hplace, ?_⟩
  obtain ⟨d', hread', houtline, hsame⟩ := reading_twin h hnm
    (fun heq => halias (DeclarationKind.tag_of_typedef (kind_of_place (heq ▸ hplace)))) hread
  refine ⟨d', hread', houtline, ?_, hsame⟩
  rw [← isRenderable_outline, ← houtline, isRenderable_outline]

section Twins
variable {scopes : List Scope} {child child' : NodeId}

/-- A twin that has been recorded before is where the first of the two was stored. -/
lemma visit_twin_known (h : Settled t r) (htwins : t.Twins twin)
    (hsighting : Sighting t scopes (t.resolve child))
    (hsighting' : Sighting t scopes (t.resolve child')) (htwin : twin child child')
    (halias : t.tag (t.resolve child) = .typedef → KeepsAlias t r.options twin (t.resolve child))
    (hdone : Done t r scopes child) {l' : Location}
    (known' : r.locations[t.key (t.resolve child')]? = some l') :
    visit t scopes r child' = some r := by
  have hresolved := htwins.resolve htwin
  obtain ⟨kind', reading', a', hplace', hread', hrenderable', hpresent', -, -, hfound'⟩ :=
    h.present hsighting' known'
  rw [visit_of_some (getOrCreate_of_known known' (h.mergeReading_eq hsighting' known'))]
  cases hdone with
  | @stored l a known present covered =>
    obtain ⟨kind, reading, b, hplace, hread, -, -, -, -, hfound⟩ := h.present hsighting known
    obtain ⟨hplaceTwin, readingTwin, hreadTwin, -, -, hsame⟩ :=
      placed_twin htwins hresolved halias hplace hread
    have heq := hplaceTwin.symm.trans hplace'
    simp only [Option.some.injEq, Prod.mk.injEq] at heq
    obtain ⟨rfl, hfile, hline⟩ := heq
    cases hread'.symm.trans hreadTwin
    have hindex : l.index = l'.index := by
      have hfirst := hfound.findIdx?
      have hsecond := hfound'.findIdx?
      simp only [hsame, ← hfile, ← hline] at hsecond
      exact Option.some.inj (hfirst.symm.trans hsecond)
    obtain rfl : l = l' := by
      cases l
      cases l'
      simp_all
    exact child_covered htwins h.consistent.ordered present
      (h.grounded_of_get? present).proper htwin covered
  | unplaced none =>
    rw [place?_twin htwins hresolved, hplace'] at none
    cases none
  | @unwritable kind file line reading place read unrenderable =>
    obtain ⟨hplaceTwin, readingTwin, hreadTwin, -, hrenderable, -⟩ :=
      placed_twin htwins hresolved halias place read
    cases hplaceTwin.symm.trans hplace'
    cases hread'.symm.trans hreadTwin
    rw [hrenderable', unrenderable] at hrenderable
    cases hrenderable
  | @refused kind file line reading place read renderable refused hasLine =>
    obtain ⟨hplaceTwin, readingTwin, hreadTwin, -, -, hsame⟩ :=
      placed_twin htwins hresolved halias place read
    have heq := hplaceTwin.symm.trans hplace'
    simp only [Option.some.injEq, Prod.mk.injEq] at heq
    obtain ⟨rfl, rfl, rfl⟩ := heq
    cases hread'.symm.trans hreadTwin
    have hfirst := hfound'.findIdx?
    simp only [hsame] at hfirst
    cases hfirst.symm.trans refused.findIdx?

/-- A twin that is new is recognised by what has taken in the first of the two, or left out like
it. -/
lemma visit_twin_new (h : Settled t r) (htwins : t.Twins twin)
    (hsighting : Sighting t scopes (t.resolve child)) (htwin : twin child child')
    (halias : t.tag (t.resolve child) = .typedef → KeepsAlias t r.options twin (t.resolve child))
    (hdone : Done t r scopes child) (new : r.locations[t.key (t.resolve child')]? = none) :
    ∃ r', visit t scopes r child' = some r' ∧ r'.files = r.files := by
  have hordered := h.consistent.ordered
  have hresolved := htwins.resolve htwin
  cases hdone with
  | @stored l a known present covered =>
    obtain ⟨kind, reading, b, hplace, hread, hrenderable, hpresent, -, hcovers, hfound⟩ :=
      h.present hsighting known
    cases present.symm.trans hpresent
    have hproper := (h.grounded_of_get? present).proper
    obtain ⟨hplace', reading', hread', houtline, hrenderable', hsame⟩ :=
      placed_twin htwins hresolved halias hplace hread
    have hrecognised : r.recognise? l.file l.line (reading'.setScopes scopes) = some l.index := by
      have hfirst := hfound.findIdx?
      simpa only [recognise?, hsame] using hfirst
    have hunchanged : (r.modify l fun d => d.merge (reading'.setScopes scopes)) = r :=
      modify_eq_self hordered fun d hd => by
        cases present.symm.trans hd
        obtain ⟨b, hb, hb', -⟩ := hfound.present
        rw [← get?_eq_bucket] at hb
        cases present.symm.trans hb
        rw [← hsame] at hb'
        rw [merge_recognised hb' (ofEntry?_scopes hread')]
        exact covers_of_outline hproper houtline hcovers
    have hstore := store_found hordered hrecognised
    rw [hunchanged] at hstore
    have hget := getOrCreate_of_store new hplace' hread' (hrenderable'.trans hrenderable) hstore
    have hordered' : (r.remember (t.key (t.resolve child')) (some l)).Ordered :=
      hordered.congr rfl rfl
    refine ⟨r.remember (t.key (t.resolve child')) (some l), ?_, rfl⟩
    rw [visit_of_some hget]
    exact child_covered htwins hordered' present hproper htwin covered
  | unplaced none =>
    rw [place?_twin htwins hresolved] at none
    exact ⟨r, visit_of_none (getOrCreate_of_unplaced new none), rfl⟩
  | unwritable place read unrenderable =>
    obtain ⟨hplace', reading', hread', -, hrenderable', -⟩ :=
      placed_twin htwins hresolved halias place read
    exact ⟨r, visit_of_none (getOrCreate_of_unwritable new hplace' hread'
      (hrenderable'.trans unrenderable)), rfl⟩
  | @refused kind file line reading place read renderable refused hasLine =>
    obtain ⟨hplace', reading', hread', -, hrenderable', hsame⟩ :=
      placed_twin htwins hresolved halias place read
    have hunknown : r.recognise? file line (reading'.setScopes scopes) = none := by
      have hnone := refused.findIdx?
      simpa only [recognise?, hsame] using hnone
    have hstore := store_dropped hordered hunknown refused.full
    rw [add_full_eq_self hordered _ hasLine refused.full] at hstore
    have hget := getOrCreate_of_store new hplace' hread' (hrenderable'.trans renderable) hstore
    exact ⟨r, visit_of_none hget, rfl⟩

/-- A visit that repeats a settled one changes no file. -/
lemma visit_twin (h : Settled t r) (htwins : t.Twins twin)
    (hsighting : Sighting t scopes (t.resolve child))
    (hsighting' : Sighting t scopes (t.resolve child')) (htwin : twin child child')
    (halias : t.tag (t.resolve child) = .typedef → KeepsAlias t r.options twin (t.resolve child))
    (hdone : Done t r scopes child) :
    ∃ r', visit t scopes r child' = some r' ∧ r'.files = r.files := by
  cases hknown : r.locations[t.key (t.resolve child')]? with
  | some l' =>
    exact ⟨r, visit_twin_known h htwins hsighting hsighting' htwin halias hdone hknown, rfl⟩
  | none => exact visit_twin_new h htwins hsighting htwin halias hdone hknown

end Twins

/-- The visits of a copy, after those that they repeat, change no file. -/
lemma visits_twin_files (hc : Coherent t) (htwins : t.Twins twin)
    {vs vs' : List (List Scope × NodeId)}
    (hvs : ∀ v ∈ vs, ∃ root, Collected t root ∧ v ∈ unitVisits t root)
    (hvs' : ∀ v ∈ vs', ∃ root, Collected t root ∧ v ∈ unitVisits t root)
    (hpairs : List.Forall₂ (fun v w => v.1 = w.1 ∧ twin v.2 w.2) vs vs') (h : Settled t r)
    (halias : ∀ v ∈ vs, t.tag (t.resolve v.2) = .typedef →
      KeepsAlias t r.options twin (t.resolve v.2))
    (hdone : ∀ v ∈ vs, Done t r v.1 v.2) :
    ∃ r', vs'.foldlM (fun r v => visit t v.1 r v.2) r = some r' ∧ r'.files = r.files := by
  induction hpairs generalizing r with
  | nil => exact ⟨r, rfl, rfl⟩
  | @cons v w rest rest' hvw hpairs ih =>
    obtain ⟨scopes, child⟩ := v
    obtain ⟨scopes', child'⟩ := w
    obtain ⟨rfl, htwin⟩ : scopes = scopes' ∧ twin child child' := hvw
    obtain ⟨root, hroot, hv⟩ := hvs _ List.mem_cons_self
    obtain ⟨root', hroot', hv'⟩ := hvs' _ List.mem_cons_self
    have hfirst := halias (scopes, child) List.mem_cons_self
    obtain ⟨r₁, hvisit, hfiles⟩ := visit_twin h htwins ⟨root, child, hroot, hv, rfl⟩
      ⟨root', child', hroot', hv', rfl⟩ htwin hfirst (hdone (scopes, child) List.mem_cons_self)
    -- The visit may still record keys, but what was settled before stays settled.
    obtain ⟨hsettled, hgrows, -⟩ := visit_settled hc h hroot' hv' hvisit
    obtain ⟨r₂, hrest, hfiles'⟩ := ih (fun v hv => hvs v (List.mem_cons_of_mem _ hv))
      (fun v hv => hvs' v (List.mem_cons_of_mem _ hv)) hsettled
      (fun v hv => by
        rw [hgrows.keeps.options]
        exact halias v (List.mem_cons_of_mem _ hv))
      (fun v hv => by
        obtain ⟨root'', hroot'', hv''⟩ := hvs v (List.mem_cons_of_mem _ hv)
        exact (hdone v (List.mem_cons_of_mem _ hv)).grows ⟨root'', v.2, hroot'', hv'', rfl⟩ hgrows)
    refine ⟨r₂, ?_, hfiles'.trans hfiles⟩
    rw [List.foldlM_cons, hvisit]
    exact hrest

lemma update_settled (hc : Coherent t) (h : Settled t r) {root : NodeId} {r' : Registry}
    (hupdate : r.update t root = some r') :
    Settled t r' ∧ Grows t r r' ∧
      (Collected t root → ∀ v ∈ unitVisits t root, Done t r' v.1 v.2) := by
  by_cases hcollected : Collected t root
  · obtain ⟨baseDir, heq⟩ := update_of_collected hcollected r
    rw [heq] at hupdate
    obtain ⟨hnarrowed, hgrows⟩ := narrow_settled h baseDir
    obtain ⟨hsettled, hgrows', hdone⟩ := visits_settled hc
      (fun v hv => ⟨root, hcollected, hv⟩) hnarrowed hupdate
    exact ⟨hsettled, hgrows.trans hgrows', fun _ => hdone⟩
  · rw [update_of_not_collected hcollected] at hupdate
    cases hupdate
    exact ⟨h, .refl t _, fun hcontra => (hcollected hcontra).elim⟩

lemma updateAll_settled (hc : Coherent t) (h : Settled t r) {roots : List NodeId} {r' : Registry}
    (hupdate : r.updateAll t roots = some r') :
    Settled t r' ∧ Grows t r r' ∧ ∀ root ∈ roots, Collected t root →
      ∀ v ∈ unitVisits t root, Done t r' v.1 v.2 := by
  induction roots generalizing r with
  | nil =>
    cases hupdate
    exact ⟨h, .refl t _, by simp⟩
  | cons root rest ih =>
    rw [updateAll, List.foldlM_cons] at hupdate
    obtain ⟨r₁, hfirst, hrest⟩ := Option.bind_eq_some_iff.mp hupdate
    obtain ⟨hsettled, hgrows, hdone⟩ := update_settled hc h hfirst
    obtain ⟨hsettled', hgrows', hdone'⟩ := ih hsettled hrest
    refine ⟨hsettled', hgrows.trans hgrows', ?_⟩
    intro root' hroot' hcollected v hv
    rcases List.mem_cons.mp hroot' with rfl | hroot'
    · exact (hdone hcollected v hv).grows ⟨root', v.2, hcollected, hv, rfl⟩ hgrows'
    · exact hdone' root' hroot' hcollected v hv

/-- One unit repeats another, maybe under another name: what the roots contain are twins, and
no alias spells out an unnamed type that has a twin of its own. -/
structure IsCopy (t : EntryTree) (options : Options) (root copy : NodeId)
    (twin : NodeId → NodeId → Prop) : Prop where
  twins : t.Twins twin
  children : List.Forall₂ twin (t.children root) (t.children copy)
  collected : Collected t copy → Collected t root
  aliases : ∀ v ∈ unitVisits t root, t.tag (t.resolve v.2) = .typedef →
    KeepsAlias t options twin (t.resolve v.2)

/-- A copy of a collected unit changes no file. -/
lemma update_copy (hc : Coherent t) (h : Settled t r) {root copy : NodeId}
    (hcopy : IsCopy t r.options root copy twin)
    (hdone : Collected t root → ∀ v ∈ unitVisits t root, Done t r v.1 v.2) :
    ∃ r', r.update t copy = some r' ∧ r'.files = r.files := by
  by_cases hcollected : Collected t copy
  · have hroot := hcopy.collected hcollected
    obtain ⟨baseDir, heq⟩ := update_of_collected hcollected r
    obtain ⟨hnarrowed, hgrows⟩ := narrow_settled h baseDir
    rw [heq]
    refine visits_twin_files hc hcopy.twins (fun v hv => ⟨root, hroot, hv⟩)
      (fun v hv => ⟨copy, hcollected, hv⟩) (visits_twin hcopy.twins _ _ hcopy.children)
      hnarrowed hcopy.aliases ?_
    intro v hv
    exact (hdone hroot v hv).grows ⟨root, v.2, hroot, hv, rfl⟩ hgrows
  · exact ⟨r, update_of_not_collected hcollected r, rfl⟩

/-- After a unit, whatever was collected before and in between, any number of copies of it can be
collected and leave every file as it is. -/
theorem updateAll_copies (hc : Coherent t) {options : Options} {roots copies : List NodeId}
    {root : NodeId} (hr : (empty options).updateAll t roots = some r) (hroot : root ∈ roots)
    (hcopies : ∀ copy ∈ copies, ∃ twin, IsCopy t options root copy twin) :
    ∃ r', r.updateAll t copies = some r' ∧ r'.files = r.files := by
  obtain ⟨hsettled, hgrows, hdone⟩ := updateAll_settled hc (empty_settled t options) hr
  have hoptions : r.options = options := hgrows.keeps.options
  replace hdone := hdone root hroot
  clear hr hgrows
  induction copies generalizing r with
  | nil => exact ⟨r, rfl, rfl⟩
  | cons copy rest ih =>
    obtain ⟨twin, hcopy⟩ := hcopies copy List.mem_cons_self
    obtain ⟨r₁, hfirst, hfiles⟩ := update_copy hc hsettled (hoptions ▸ hcopy) hdone
    obtain ⟨hsettled', hgrows', -⟩ := update_settled hc hsettled hfirst
    obtain ⟨r₂, hrest, hfiles'⟩ :=
      ih (fun c hc => hcopies c (List.mem_cons_of_mem copy hc)) hsettled'
      (hgrows'.keeps.options.trans hoptions) (fun hcollected v hv =>
        (hdone hcollected v hv).grows ⟨root, v.2, hcollected, hv, rfl⟩ hgrows')
    refine ⟨r₂, ?_, hfiles'.trans hfiles⟩
    rw [updateAll, List.foldlM_cons, hfirst]
    exact hrest

/-- A unit root is the root of some unit. -/
lemma mem_roots_of_isUnitRoot {root : NodeId} (h : t.isUnitRoot root) :
    root = 0 ∨ root ∈ t.units.toList.map UnitInfo.root := by
  have hroot : (t.unitOf root).root = root := by simpa [EntryTree.isUnitRoot] using h
  unfold EntryTree.unitOf at hroot
  rw [Array.getD_eq_getD_getElem?] at hroot
  cases hunit : t.units[(t.entry root).unit]? with
  | none =>
    rw [hunit] at hroot
    exact Or.inl hroot.symm
  | some unit =>
    rw [hunit, Option.getD_some] at hroot
    refine Or.inr (List.mem_map.mpr ⟨unit, ?_, hroot⟩)
    exact Array.mem_toList_iff.mpr (Array.mem_of_getElem? hunit)

/-- Two units that include one header: a structure, with a name or without, and an alias of it. -/
def handleUnits (isNamed : Bool) : EntryTree :=
  let declare := fun (b : TreeBuilder) (unit : String) =>
    let (b, root) := b.compileUnit unit "/src"
    let (b, handle) := b.child root .structureType
    let b := (if isNamed then b.name handle "Handle" else b).declaredAt handle "/src/handle.h" 2
    let (b, other) := b.child root .typedef
    ((b.name other "handle").declaredAt other "/src/handle.h" 3).typeRef other handle
  (declare (declare .start "a.c") "b.c").tree

/-- The declarations of the two units in pairs. -/
def handleTwin (n m : NodeId) : Prop := (n = 1 ∨ n = 2) ∧ m = n + 3

/-- The declarations are below the root of a unit, which has no name of theirs. -/
lemma handleUnits_outermost (isNamed : Bool) {n : NodeId} (hn : n ∈ [1, 2, 4, 5]) :
    (handleUnits isNamed).Outermost n := by
  have hparents : ∀ b, ∀ n ∈ [1, 2, 4, 5],
      (handleUnits b).parent? n = some (if n < 3 then 0 else 3) := by
    decide +kernel
  have hunits : ∀ b, ∀ owner ∈ [0, 3], EntryTree.isScope ((handleUnits b).tag owner) = false ∧
      (handleUnits b).shortName? owner = some (if owner = 0 then "a.c" else "b.c") := by
    decide +kernel
  have hnames : ∀ b, ∀ n ∈ [1, 2, 4, 5], ∀ unit ∈ ["a.c", "b.c"], Text.upTo '<' unit ≠
      Text.upTo '<' (((handleUnits b).shortName? n).getD "") := by decide +kernel
  intro owner howner
  cases (hparents isNamed n hn).symm.trans howner
  have howner : (if n < 3 then 0 else 3) ∈ [0, 3] := by split <;> decide
  obtain ⟨hscope, hname⟩ := hunits isNamed _ howner
  refine ⟨hscope, fun heq => ?_⟩
  cases hname.symm.trans heq
  exact hnames isNamed n hn _ (by split <;> decide)

lemma handleUnits_type (isNamed : Bool) : Value.Matches (handleUnits isNamed) handleTwin
    (.ref ((handleUnits isNamed).key 1)) (.ref ((handleUnits isNamed).key 4)) := by
  have hfound : ∀ n ∈ [1, 4], (handleUnits isNamed).node? ((handleUnits isNamed).key n) = some n ∧
      (handleUnits isNamed).follow (.ref ((handleUnits isNamed).key n)) = some n := by
    intro n hn
    simp only [List.mem_cons, List.not_mem_nil, or_false] at hn
    rcases hn with rfl | rfl <;> cases isNamed <;> refine ⟨?_, ?_⟩ <;> cbv
  have htwin : handleTwin 1 4 := ⟨Or.inl rfl, rfl⟩
  obtain ⟨hnode, hfollow⟩ := hfound 1 (by decide)
  obtain ⟨hnode', hfollow'⟩ := hfound 4 (by decide)
  rw [Value.Matches, hnode, hnode', hfollow, hfollow']
  exact ⟨.some htwin, .some htwin⟩

lemma handleUnits_twins (isNamed : Bool) : (handleUnits isNamed).Twins handleTwin where
  unique := ⟨fun _ _ _ hn hm => Nat.add_right_cancel (hn.2.symm.trans hm.2),
    fun _ _ _ hn hm => hn.2.trans hm.2.symm⟩
  tag := by
    rintro n m ⟨rfl | rfl, rfl⟩ <;> cases isNamed <;> decide +kernel
  parent := by
    rintro n m ⟨rfl | rfl, rfl⟩ <;>
      exact Or.inr ⟨handleUnits_outermost _ (by decide), handleUnits_outermost _ (by decide)⟩
  children := by
    have hchildren : ∀ b, ∀ n ∈ [1, 2, 4, 5], (handleUnits b).children n = [] := by decide +kernel
    rintro n m ⟨rfl | rfl, rfl⟩ <;> rw [hchildren _ _ (by decide), hchildren _ _ (by decide)] <;>
      exact .nil
  attributes := by
    have hattributes : ∀ b, ∀ unit ∈ [0, 3],
        ((handleUnits b).entry (unit + 1)).attributes.toList =
          (if b then [(.name, .string "Handle")] else []) ++
            [(.declaredFile, .string "/src/handle.h"), (.declaredLine, .unsigned 2)] ∧
        ((handleUnits b).entry (unit + 2)).attributes.toList =
          [(.name, .string "handle"), (.declaredFile, .string "/src/handle.h"),
            (.declaredLine, .unsigned 3), (.type, .ref ((handleUnits b).key (unit + 1)))] := by
      decide +kernel
    rintro n m ⟨rfl | rfl, rfl⟩
    · rw [(hattributes isNamed 0 (by decide)).1, (hattributes isNamed 3 (by decide)).1]
      cases isNamed
      · exact .cons ⟨rfl, rfl⟩ (.cons ⟨rfl, rfl⟩ .nil)
      · exact .cons ⟨rfl, rfl⟩ (.cons ⟨rfl, rfl⟩ (.cons ⟨rfl, rfl⟩ .nil))
    · rw [(hattributes isNamed 0 (by decide)).2, (hattributes isNamed 3 (by decide)).2]
      exact .cons ⟨rfl, rfl⟩ (.cons ⟨rfl, rfl⟩ (.cons ⟨rfl, rfl⟩
        (.cons ⟨rfl, handleUnits_type isNamed⟩ .nil)))

lemma handleUnits_visits (isNamed : Bool) {root : NodeId} (h : Collected (handleUnits isNamed) root)
    {v : List Scope × NodeId} (hv : v ∈ unitVisits (handleUnits isNamed) root) :
    v.1 = [] ∧ v.2 ∈ [1, 2, 4, 5] ∧ (handleUnits isNamed).resolve v.2 = v.2 := by
  have hroots : ∀ b, (handleUnits b).units.toList.map UnitInfo.root = [0, 3] := by decide +kernel
  have hvisits : ∀ b, ∀ root ∈ [0, 3], ∀ v ∈ unitVisits (handleUnits b) root,
      v.1 = [] ∧ v.2 ∈ [1, 2, 4, 5] ∧ (handleUnits b).resolve v.2 = v.2 := by decide +kernel
  have hroot : root ∈ [0, 3] := by
    rcases mem_roots_of_isUnitRoot h.isRoot with rfl | hroot
    · decide
    · rwa [hroots] at hroot
  exact hvisits isNamed root hroot v hv

lemma handleUnits_sighting (isNamed : Bool) {scopes : List Scope} {n : NodeId}
    (h : Sighting (handleUnits isNamed) scopes n) : scopes = [] ∧ n ∈ [1, 2, 4, 5] := by
  obtain ⟨root, child, hroot, hvisit, rfl⟩ := h
  obtain ⟨hscopes, hchild, hresolve⟩ := handleUnits_visits isNamed hroot hvisit
  exact ⟨hscopes, hresolve.symm ▸ hchild⟩

lemma handleUnits_coherent (isNamed : Bool) : Coherent (handleUnits isNamed) where
  named := by
    have hsize : ∀ b, (handleUnits b).entries.size = 6 := by decide +kernel
    have hnamed : ∀ b, ∀ n < 6, ((handleUnits b).attr? n .name).all
        (fun value => value.string?.any (· ≠ "")) := by decide +kernel
    apply EntryTree.named_of_entries
    rw [hsize]
    exact hnamed isNamed
  key hn hm hkey := by
    have hkeys : ∀ b, ∀ n ∈ [1, 2, 4, 5], ∀ m ∈ [1, 2, 4, 5],
        (handleUnits b).key n = (handleUnits b).key m → n = m := by decide +kernel
    exact hkeys isNamed _ (handleUnits_sighting _ hn).2 _ (handleUnits_sighting _ hm).2 hkey
  scopes hn hn' := (handleUnits_sighting _ hn).1.trans (handleUnits_sighting _ hn').1.symm
  overload {scopes scopes' n m file line L} hn hm hplace _ _ _ _ := by
    have htags : ∀ b, ∀ n ∈ [1, 2, 4, 5],
        DeclarationKind.ofTag? ((handleUnits b).tag n) ≠ some (.function false) := by decide +kernel
    exact (htags isNamed n (handleUnits_sighting _ hn).2 (kind_of_place hplace)).elim
  definition hroot hvisit hne := (hne (handleUnits_visits _ hroot hvisit).2.2).elim

lemma handleUnits_children (isNamed : Bool) : List.Forall₂ handleTwin
    ((handleUnits isNamed).children 0) ((handleUnits isNamed).children 3) := by
  have hchildren : ∀ b, (handleUnits b).children 0 = [1, 2] ∧
      (handleUnits b).children 3 = [4, 5] := by
    decide +kernel
  rw [(hchildren isNamed).1, (hchildren isNamed).2]
  exact .cons ⟨Or.inl rfl, rfl⟩ (.cons ⟨Or.inr rfl, rfl⟩ .nil)

/-- A header that two units include is written as if only the first of them did, if what it
declares has a name. -/
theorem namedHandle_written_once :
    ∃ r r', (empty {}).updateAll (handleUnits true) [0] = some r ∧
      r.files.entries.map (fun e => (e.1, e.2.render)) =
        [("/src/handle.h", "struct Handle \x7b\n\x7d;\n\nusing handle = Handle;\n")] ∧
      r.updateAll (handleUnits true) [3] = some r' ∧ r'.files = r.files := by
  have hfirst : ((empty {}).updateAll (handleUnits true) [0]).map
      (fun r => r.files.entries.map fun e => (e.1, e.2.render)) =
      some [("/src/handle.h", "struct Handle \x7b\n\x7d;\n\nusing handle = Handle;\n")] := by cbv
  obtain ⟨r, hr, htexts⟩ := Option.map_eq_some_iff.mp hfirst
  have hroot : Collected (handleUnits true) 0 :=
    ⟨by decide +kernel, by decide +kernel, by decide +kernel⟩
  have hcopy : IsCopy (handleUnits true) {} 0 3 handleTwin :=
    { twins := handleUnits_twins true
      children := handleUnits_children true
      collected := fun _ => hroot
      aliases := fun v hv htag => by
        have hvisits : ∀ v ∈ unitVisits (handleUnits true) 0,
            (handleUnits true).tag ((handleUnits true).resolve v.2) = .typedef →
              (handleUnits true).resolve v.2 = 2 := by decide +kernel
        have htarget : (handleUnits true).target? 2 .type = some 1 := by cbv
        have hnamed : isUnnamedType (handleUnits true) 1 = false := by decide +kernel
        intro type type' htype hunnamed
        rw [hvisits v hv htag, htarget] at htype
        cases htype
        exact absurd hunnamed (by simp [hnamed]) }
  obtain ⟨r', hr', hfiles⟩ :=
    updateAll_copies (handleUnits_coherent true) hr (List.mem_singleton.mpr rfl)
    fun copy (hmem : copy ∈ [3]) => ⟨handleTwin, List.mem_singleton.mp hmem ▸ hcopy⟩
  exact ⟨r, r', hr, htexts, hr', hfiles⟩

/-- An alias of an unnamed structure is told apart by the key of the structure, which the copy
does not share: a second unit that includes the header writes it again. -/
theorem unnamedHandle_written_twice :
    Coherent (handleUnits false) ∧ (handleUnits false).Twins handleTwin ∧
    List.Forall₂ handleTwin ((handleUnits false).children 0) ((handleUnits false).children 3) ∧
    ∃ r r', (empty {}).updateAll (handleUnits false) [0] = some r ∧
      r.updateAll (handleUnits false) [3] = some r' ∧
      r.files.entries.map (fun e => (e.1, e.2.size)) = [("/src/handle.h", 1)] ∧
      r'.files.entries.map (fun e => (e.1, e.2.size)) = [("/src/handle.h", 2)] := by
  refine ⟨handleUnits_coherent false, handleUnits_twins false, handleUnits_children false, ?_⟩
  have hfirst : ((empty {}).updateAll (handleUnits false) [0]).map
      (fun r => r.files.entries.map fun e => (e.1, e.2.size)) =
        some [("/src/handle.h", 1)] := by cbv
  have hboth : (((empty {}).updateAll (handleUnits false) [0]).bind fun r =>
      r.updateAll (handleUnits false) [3]).map
      (fun r => r.files.entries.map fun e => (e.1, e.2.size)) =
        some [("/src/handle.h", 2)] := by cbv
  obtain ⟨r, hr, hsize⟩ := Option.map_eq_some_iff.mp hfirst
  rw [hr, Option.bind_some] at hboth
  obtain ⟨r', hr', hsize'⟩ := Option.map_eq_some_iff.mp hboth
  exact ⟨r, r', hr, hr', hsize, hsize'⟩

end Registry
end HeaderRecovery
