import HeaderRecovery.Proofs.Buckets
import HeaderRecovery.Proofs.Sightings

/-!
Everything a registry does, as a chain of three moves: the build root narrows, a declaration
takes in a further sighting, or a reading under a new key is stored. What each move keeps, every
unit and every run keeps.
-/
namespace HeaderRecovery.Registry
open Debug

/-- The registry with a location recorded for a key, if there is one. -/
def remember (r : Registry) (key : EntryKey) : Option Location → Registry
  | some l => { r with locations := r.locations.insert key l }
  | none => r

/-- A move says all there is to know of the step it stands for, the tests it passed included. -/
inductive Move (t : EntryTree) (r : Registry) : Registry → Prop
  | narrow (baseDir : String) : Move t r { r with baseDir }
  | merge {owner node : NodeId} {l : Location} {present again : Declaration}
      (known : r.locations[t.key owner]? = some l)
      (stands : node = owner ∨ t.resolve node = owner)
      (stored : r.get? l = some present)
      (reading : Declaration.ofEntry? t r.options present.kind node = some again) :
      Move t r (r.modify l fun d => d.merge again)
  | store {node : NodeId} {kind : DeclarationKind} {file : String} {line : UInt64}
      {d : Declaration} {scopes : List Scope} {r' : Registry} {l? : Option Location}
      (new : r.locations[t.key node]? = none)
      (place : place? t node = some (kind, file, line))
      (reading : Declaration.ofEntry? t r.options kind node = some d)
      (renderable : d.isRenderable)
      (store : r.store file line (d.setScopes scopes) = (r', l?)) :
      Move t r (r'.remember (t.key node) l?)

abbrev Moves (t : EntryTree) : Registry → Registry → Prop := Relation.ReflTransGen (Move t)

variable {t : EntryTree} {r r' : Registry}

lemma remember_locations (r : Registry) (key : EntryKey) (l : Location) (k : EntryKey) :
    (r.remember key (some l)).locations[k]? = if key = k then some l else r.locations[k]? := by
  simp [remember, Std.HashMap.getElem?_insert]

/-- A new key leaves the others as they are. -/
lemma remember_keeps {key k : EntryKey} {l l' : Location} (new : r.locations[key]? = none)
    (h : r.locations[k]? = some l') : (r.remember key (some l)).locations[k]? = some l' := by
  rw [remember_locations, if_neg]
  · exact h
  · rintro rfl
    rw [new] at h
    cases h

/-! Steps and runs -/

/-- A relation that holds of each step and chains holds of a run of steps. -/
lemma foldlM_chain {α : Type} {R : Registry → Registry → Prop} (hrefl : ∀ r, R r r)
    (htrans : ∀ {r₁ r₂ r₃}, R r₁ r₂ → R r₂ r₃ → R r₁ r₃)
    {step : Registry → α → Option Registry} (hstep : ∀ {r r' a}, step r a = some r' → R r r')
    {as : List α} (h : as.foldlM step r = some r') : R r r' := by
  induction as generalizing r with
  | nil =>
    cases h
    exact hrefl _
  | cons a rest ih =>
    rw [List.foldlM_cons] at h
    obtain ⟨r₁, hfirst, hrest⟩ := Option.bind_eq_some_iff.mp h
    exact htrans (hstep hfirst) (ih hrest)

/-- Storing changes the files only. -/
lemma store_files {file : String} {line : UInt64} {d : Declaration} {l? : Option Location}
    (h : r.store file line d = (r', l?)) : r' = { r with files := r'.files } := by
  unfold store at h
  dsimp only at h
  split at h <;> cases h <;> rfl

/-- A merge changes what is stored at the location, if something is. -/
lemma mergeReading_cases {l : Location} {node : NodeId} (h : r.mergeReading t l node = some r') :
    (∃ present again, r.get? l = some present ∧
      Declaration.ofEntry? t r.options present.kind node = some again ∧
      r' = r.modify l fun d => d.merge again) ∨
    r.get? l = none ∧ r' = r := by
  unfold mergeReading at h
  split at h
  · rename_i present stored
    obtain ⟨again, reading, rfl⟩ := Option.map_eq_some_iff.mp h
    exact Or.inl ⟨present, again, stored, reading, rfl⟩
  · rename_i missing
    cases h
    exact Or.inr ⟨missing, rfl⟩

lemma mergeReading_files {l : Location} {node : NodeId} (h : r.mergeReading t l node = some r') :
    r' = { r with files := r'.files } := by
  rcases mergeReading_cases h with ⟨present, again, -, -, rfl⟩ | ⟨-, rfl⟩
  · exact modify_files r l _
  · rfl

/-! The moves behind each function -/

lemma mergeReading_moves {owner node : NodeId} {l : Location}
    (known : r.locations[t.key owner]? = some l)
    (stands : node = owner ∨ t.resolve node = owner)
    (h : r.mergeReading t l node = some r') : Moves t r r' := by
  rcases mergeReading_cases h with ⟨present, again, stored, reading, rfl⟩ | ⟨-, rfl⟩
  · exact .single (.merge known stands stored reading)
  · exact .refl

/-- What a successful look at one entry did: nothing, a merge, or the storing of a reading. -/
lemma getOrCreate_cases {node : NodeId} {scopes : List Scope} {l? : Option Location}
    (h : r.getOrCreate t node scopes = some (r', l?)) :
    (∃ l, r.locations[t.key node]? = some l ∧ l? = some l ∧ r.mergeReading t l node = some r') ∨
    r.locations[t.key node]? = none ∧
      (place? t node = none ∧ r' = r ∧ l? = none ∨
        ∃ kind file line d, place? t node = some (kind, file, line) ∧
          Declaration.ofEntry? t r.options kind node = some d ∧
          (d.isRenderable = false ∧ r' = r ∧ l? = none ∨
            d.isRenderable = true ∧ ∃ r₁,
              r.store file line (d.setScopes scopes) = (r₁, l?) ∧
              r' = r₁.remember (t.key node) l?)) := by
  unfold getOrCreate at h
  split at h
  · rename_i l known
    obtain ⟨r₁, hmerge, heq⟩ := Option.map_eq_some_iff.mp h
    cases heq
    exact Or.inl ⟨l, known, rfl, hmerge⟩
  · rename_i new
    refine Or.inr ⟨new, ?_⟩
    split at h
    · rename_i place
      cases h
      exact Or.inl ⟨place, rfl, rfl⟩
    · rename_i kind file line place
      obtain ⟨d, reading, heq⟩ := Option.map_eq_some_iff.mp h
      refine Or.inr ⟨kind, file, line, d, place, reading, ?_⟩
      cases renderable : d.isRenderable with
      | false =>
        simp only [renderable, Bool.not_false, if_true] at heq
        cases heq
        exact Or.inl ⟨rfl, rfl, rfl⟩
      | true =>
        refine Or.inr ⟨rfl, (r.store file line (d.setScopes scopes)).1, ?_⟩
        simp only [renderable, Bool.not_true, Bool.false_eq_true, if_false] at heq
        cases hstore : r.store file line (d.setScopes scopes) with
        | mk r₁ found =>
          rw [hstore] at heq
          cases found <;> cases heq <;> exact ⟨rfl, rfl⟩

lemma getOrCreate_moves {node : NodeId} {scopes : List Scope} {l? : Option Location}
    (h : r.getOrCreate t node scopes = some (r', l?)) : Moves t r r' := by
  rcases getOrCreate_cases h with ⟨l, known, -, hmerge⟩ | ⟨new, ⟨-, rfl, -⟩ | h⟩
  · exact mergeReading_moves known (Or.inl rfl) hmerge
  · exact .refl
  · obtain ⟨kind, file, line, d, place, reading, ⟨-, rfl, -⟩ | ⟨renderable, r₁, store, rfl⟩⟩ := h
    · exact .refl
    · exact .single (.store new place reading renderable store)

/-- Whatever has a location afterwards is known there under its key. -/
lemma getOrCreate_known {node : NodeId} {scopes : List Scope} {l : Location}
    (h : r.getOrCreate t node scopes = some (r', some l)) :
    r'.locations[t.key node]? = some l := by
  rcases getOrCreate_cases h with ⟨l', known, heq, hmerge⟩ | ⟨-, ⟨-, -, heq⟩ | h⟩
  · cases heq
    rw [mergeReading_files hmerge]
    exact known
  · cases heq
  · obtain ⟨kind, file, line, d, -, -, ⟨-, -, heq⟩ | ⟨-, r₁, -, rfl⟩⟩ := h
    · cases heq
    · simp [remember]

/-- A visit is a look at the entry that a child stands for, and perhaps a merge of the child. -/
lemma visit_cases {scopes : List Scope} {child : NodeId} (h : visit t scopes r child = some r') :
    ∃ r₁ l?, r.getOrCreate t (t.resolve child) scopes = some (r₁, l?) ∧
      (l? = none ∧ r' = r₁ ∨ ∃ l, l? = some l ∧
        (t.resolve child = child ∧ r' = r₁ ∨
          t.resolve child ≠ child ∧ r₁.mergeReading t l child = some r')) := by
  obtain ⟨⟨r₁, l?⟩, hget, hrest⟩ := Option.bind_eq_some_iff.mp h
  refine ⟨r₁, l?, hget, ?_⟩
  cases l? with
  | none =>
    cases hrest
    exact Or.inl ⟨rfl, rfl⟩
  | some l =>
    refine Or.inr ⟨l, rfl, ?_⟩
    dsimp only at hrest
    split at hrest
    · rename_i heq
      cases hrest
      exact Or.inl ⟨heq, rfl⟩
    · rename_i hne
      exact Or.inr ⟨hne, hrest⟩

lemma visit_moves {scopes : List Scope} {child : NodeId}
    (h : visit t scopes r child = some r') : Moves t r r' := by
  obtain ⟨r₁, l?, hget, ⟨-, rfl⟩ | ⟨l, rfl, ⟨-, rfl⟩ | ⟨-, hmerge⟩⟩⟩ := visit_cases h
  · exact getOrCreate_moves hget
  · exact getOrCreate_moves hget
  · have hmoves := mergeReading_moves (getOrCreate_known hget) (Or.inr rfl) hmerge
    exact (getOrCreate_moves hget).trans hmoves

lemma walk_moves {fuel : Nat} {scopes : List Scope} {node : NodeId}
    (h : walk t fuel scopes node r = some r') : Moves t r r' := by
  induction fuel generalizing scopes node r r' with
  | zero =>
    cases h
    exact .refl
  | succ fuel ih =>
    rw [walk] at h
    refine foldlM_chain (fun _ => .refl) Relation.ReflTransGen.trans ?_ h
    intro r r' child hchild
    split at hchild
    · exact ih hchild
    · exact visit_moves hchild

lemma update_moves {root : NodeId} (h : r.update t root = some r') : Moves t r r' := by
  unfold update at h
  split at h
  · split at h
    · exact .head (.narrow _) (walk_moves h)
    · cases h
      exact .refl
  · cases h
    exact .refl

lemma updateAll_moves {roots : List NodeId} (h : r.updateAll t roots = some r') : Moves t r r' :=
  foldlM_chain (fun _ => .refl) Relation.ReflTransGen.trans update_moves h

/-- One call from outside: a whole unit, or a single entry with the namespaces around it. -/
inductive Call (t : EntryTree) (r : Registry) : Registry → Prop
  | update {root : NodeId} {r' : Registry} (h : r.update t root = some r') : Call t r r'
  | getOrCreate {node : NodeId} {scopes : List Scope} {l? : Option Location} {r' : Registry}
      (h : r.getOrCreate t node scopes = some (r', l?)) : Call t r r'

/-- Any number of calls in any order. -/
abbrev Run (t : EntryTree) : Registry → Registry → Prop := Relation.ReflTransGen (Call t)

lemma Run.moves (h : Run t r r') : Moves t r r' := by
  induction h with
  | refl => exact .refl
  | tail _ hcall ih =>
    cases hcall with
    | update h => exact ih.trans (update_moves h)
    | getOrCreate h => exact ih.trans (getOrCreate_moves h)

end HeaderRecovery.Registry
