import HeaderRecovery.Debug.Builder
import HeaderRecovery.Declaration.Reading
import HeaderRecovery.Proofs.SortedMap

/-!
How readings nest. Reading an aggregate reads its members, and reading a member, variable or
alias reads the unnamed type that it spells out. Spelling out is bounded by the options;
members of members are not, because a declaration with a signature stands for an entry that
may be anywhere. Reading ends exactly where no aggregate is a member of itself in this way.
-/
namespace HeaderRecovery.Declaration
open Debug Relation

/-- A declaration to be read: how many definitions are being spelled out around it, what it is
read as, and its entry. -/
structure Task where
  depth : Nat
  kind : DeclarationKind
  node : NodeId
  deriving DecidableEq, Repr

/-- An aggregate reads a member if fewer than a full line stand before it on its line. -/
inductive ReadsMember (t : EntryTree) (options : Options) : Task → Task → Prop
  | intro {depth : Nat} {kind : AggregateKind} {node : NodeId} {memberKind : DeclarationKind}
      {line : UInt64} {child : NodeId} {earlier later : List (UInt64 × DeclarationKind × NodeId)}
      (entries : memberEntries t node = earlier ++ (line, memberKind, child) :: later)
      (room : earlier.countP (fun e => e.1 = line) < options.maxEntriesPerLine) :
      ReadsMember t options ⟨depth, .aggregate kind, node⟩ ⟨depth, memberKind, child⟩

/-- Whether a declaration of this kind spells out an unnamed type. -/
def SpellsType (kind : DeclarationKind) : Prop :=
  kind = .typedef ∨ kind = .field ∨ kind = .scopeVariable

/-- A member, variable or alias reads the unnamed type it has, one level deeper. -/
inductive SpellsOut (t : EntryTree) (options : Options) : Task → Task → Prop
  | intro {depth : Nat} {kind typeKind : DeclarationKind} {node type : NodeId}
      (spells : SpellsType kind)
      (target : (t.target? node .type).filter (isUnnamedType t) = some type)
      (readAs : DeclarationKind.ofTag? (t.tag type) = some typeKind)
      (shallow : depth < options.maxInlineDepth) :
      SpellsOut t options ⟨depth, kind, node⟩ ⟨depth + 1, typeKind, type⟩

/-- Reading the first declaration reads the second on the way. -/
def Reads (t : EntryTree) (options : Options) (a b : Task) : Prop :=
  ReadsMember t options a b ∨ SpellsOut t options a b

/-- So many declarations are read inside each other below a task. -/
def Nests (t : EntryTree) (options : Options) : Nat → Task → Prop
  | 0, _ => True
  | n + 1, a => ∃ b, Reads t options a b ∧ Nests t options n b

variable {t : EntryTree} {options : Options}

/-! ### What one reading reads -/

section Groups

variable {cap : Nat} {read : DeclarationKind → NodeId → Option Declaration}
variable {groups : SortedMap UInt64 (List Declaration)}

/-- Every line holds the members seen for it, up to the limit. -/
structure Filled (cap : Nat) (seen : List (UInt64 × DeclarationKind × NodeId))
    (groups : SortedMap UInt64 (List Declaration)) : Prop where
  ascending : groups.Ascending
  length : ∀ line, ((groups.find? line).getD []).length = min cap (seen.countP fun e => e.1 = line)

lemma filled_nil (cap : Nat) : Filled cap [] .empty := ⟨SortedMap.empty_ascending, by simp⟩

lemma Filled.full_iff {seen : List (UInt64 × DeclarationKind × NodeId)}
    (h : Filled cap seen groups) (line : UInt64) :
    cap ≤ ((groups.find? line).getD []).length ↔ cap ≤ seen.countP fun e => e.1 = line := by
  rw [h.length]
  omega

/-- One more member only changes its own line. -/
lemma Filled.alter {seen : List (UInt64 × DeclarationKind × NodeId)}
    (h : Filled cap seen groups) {f : Option (List Declaration) → List Declaration}
    {entry : UInt64 × DeclarationKind × NodeId}
    (hown : (f (groups.find? entry.1)).length =
      min cap ((seen.countP fun e => e.1 = entry.1) + 1)) :
    Filled cap (seen ++ [entry]) (groups.alter entry.1 f) := by
  refine ⟨h.ascending.alter _ _, fun line => ?_⟩
  rw [SortedMap.find?_alter h.ascending, List.countP_append]
  by_cases heq : line = entry.1
  · subst heq
    simp [hown]
  · simp [heq, Ne.symm heq, h.length]

/-- A member that finds its line full changes nothing; any other is read and stored. -/
lemma Filled.place {seen : List (UInt64 × DeclarationKind × NodeId)}
    (h : Filled cap seen groups) (read : DeclarationKind → NodeId → Option Declaration)
    (entry : UInt64 × DeclarationKind × NodeId) :
    (∃ groups', Filled cap (seen ++ [entry]) groups' ∧
      cap ≤ (seen.countP fun e => e.1 = entry.1) ∧
      placeMember cap read groups entry = some groups') ∨
    (seen.countP fun e => e.1 = entry.1) < cap ∧
      (read entry.2.1 entry.2.2 = none ∧ placeMember cap read groups entry = none ∨
        ∃ groups', Filled cap (seen ++ [entry]) groups' ∧ (read entry.2.1 entry.2.2).isSome ∧
          placeMember cap read groups entry = some groups') := by
  have hlength := h.length entry.1
  by_cases full : cap ≤ ((groups.find? entry.1).getD []).length
  · have hcount := (h.full_iff entry.1).mp full
    exact Or.inl ⟨_, h.alter (by omega), hcount, if_pos full⟩
  · have hcount : (seen.countP fun e => e.1 = entry.1) < cap :=
      Nat.lt_of_not_le fun hle => full ((h.full_iff entry.1).mpr hle)
    refine Or.inr ⟨hcount, ?_⟩
    have hplace : placeMember cap read groups entry = (read entry.2.1 entry.2.2).map fun d =>
        groups.alter entry.1 fun group => group.getD [] ++ [d] := if_neg full
    cases hread : read entry.2.1 entry.2.2 with
    | none => exact Or.inl ⟨rfl, by rw [hplace, hread]; rfl⟩
    | some d =>
      refine Or.inr ⟨_, h.alter ?_, rfl, by rw [hplace, hread]; rfl⟩
      rw [List.length_append, List.length_singleton]
      omega

/-- What holds of the members that find room holds of the first, if it does, and of the others
behind it. -/
lemma roomed_cons_iff {seen rest : List (UInt64 × DeclarationKind × NodeId)}
    {entry : UInt64 × DeclarationKind × NodeId} :
    (∀ earlier line kind child later, entry :: rest = earlier ++ (line, kind, child) :: later →
        (seen ++ earlier).countP (fun e => e.1 = line) < cap → (read kind child).isSome) ↔
      ((seen.countP fun e => e.1 = entry.1) < cap → (read entry.2.1 entry.2.2).isSome) ∧
        ∀ earlier line kind child later, rest = earlier ++ (line, kind, child) :: later →
          (seen ++ [entry] ++ earlier).countP (fun e => e.1 = line) < cap →
            (read kind child).isSome := by
  constructor
  · intro hall
    refine ⟨fun room => hall [] _ _ _ rest rfl (by simpa using room), ?_⟩
    intro earlier line kind child later hrest room
    exact hall (entry :: earlier) line kind child later (by rw [hrest]; rfl) (by simpa using room)
  · rintro ⟨hfirst, hothers⟩ earlier line kind child later heq room
    cases earlier with
    | nil =>
      cases heq
      exact hfirst (by simpa using room)
    | cons first earlier =>
      cases heq
      exact hothers earlier line kind child later rfl (by simpa using room)

/-- Members are read in order; those with room on their line must be readable. -/
lemma placeMembers_isSome_iff {entries seen : List (UInt64 × DeclarationKind × NodeId)}
    (h : Filled cap seen groups) :
    (entries.foldlM (placeMember cap read) groups).isSome ↔
      ∀ earlier line kind child later, entries = earlier ++ (line, kind, child) :: later →
        (seen ++ earlier).countP (fun e => e.1 = line) < cap → (read kind child).isSome := by
  induction entries generalizing seen groups with
  | nil => simp
  | cons entry rest ih =>
    rw [roomed_cons_iff, List.foldlM_cons]
    rcases h.place read entry with ⟨groups', hfilled, hfull, hplace⟩ | ⟨room, hread⟩
    · rw [hplace, Option.bind_eq_bind, Option.bind_some, ih hfilled]
      exact ⟨fun hrest => ⟨fun hroom => absurd hroom (Nat.not_lt_of_le hfull), hrest⟩, And.right⟩
    · rcases hread with ⟨hnone, hplace⟩ | ⟨groups', hfilled, hsome, hplace⟩
      · rw [hplace, Option.bind_eq_bind, Option.bind_none]
        simp [room, hnone]
      · rw [hplace, Option.bind_eq_bind, Option.bind_some, ih hfilled]
        exact ⟨fun hrest => ⟨fun _ => hsome, hrest⟩, And.right⟩

end Groups

lemma definition?_isSome_iff {depth : Nat} {read : DeclarationKind → NodeId → Option Declaration}
    {node : NodeId} :
    (definition? t options depth read node).isSome ↔
      ∀ type, (t.target? node .type).filter (isUnnamedType t) = some type →
        ∀ kind, DeclarationKind.ofTag? (t.tag type) = some kind →
          depth < options.maxInlineDepth → (read kind type).isSome := by
  unfold definition?
  cases htarget : (t.target? node .type).filter (isUnnamedType t) with
  | none => simp
  | some type =>
    dsimp only
    cases hkind : DeclarationKind.ofTag? (t.tag type) with
    | none => simp [hkind]
    | some kind =>
      by_cases hdepth : options.maxInlineDepth ≤ depth
      · simp [hdepth, Nat.not_lt_of_le hdepth]
      · simp [hkind, hdepth, Nat.lt_of_not_le hdepth]

/-- A reading has a result if all that it reads on the way has one. -/
lemma readWithin_succ_isSome_iff {fuel : Nat} {a : Task} :
    (readWithin t options (fuel + 1) a.depth a.kind a.node).isSome ↔
      ∀ b, Reads t options a b → (readWithin t options fuel b.depth b.kind b.node).isSome := by
  obtain ⟨depth, kind, node⟩ := a
  have spelled : SpellsType kind →
      ((definition? t options depth (readWithin t options fuel (depth + 1)) node).isSome ↔
        ∀ b, Reads t options ⟨depth, kind, node⟩ b →
          (readWithin t options fuel b.depth b.kind b.node).isSome) := by
    intro spells
    rw [definition?_isSome_iff]
    constructor
    · rintro hall b (⟨entries, room⟩ | ⟨-, target, readAs, shallow⟩)
      · simp [SpellsType] at spells
      · exact hall _ target _ readAs shallow
    · intro hall type target typeKind readAs shallow
      exact hall ⟨depth + 1, typeKind, type⟩ (Or.inr ⟨spells, target, readAs, shallow⟩)
  -- Kinds that read nothing further always have a reading.
  have plain : ¬ SpellsType kind → (∀ k, kind ≠ .aggregate k) →
      ∀ b, ¬ Reads t options ⟨depth, kind, node⟩ b := by
    rintro hspells haggregate b (⟨entries, room⟩ | ⟨spells, target, readAs, shallow⟩)
    · exact haggregate _ rfl
    · exact hspells spells
  cases kind with
  | typedef => simpa [readWithin] using spelled (by simp [SpellsType])
  | field => simpa [readWithin] using spelled (by simp [SpellsType])
  | scopeVariable => simpa [readWithin] using spelled (by simp [SpellsType])
  | aggregate kind =>
    simp only [readWithin, readAggregate, Option.isSome_map,
      placeMembers_isSome_iff (filled_nil options.maxEntriesPerLine)]
    constructor
    · rintro hall b (⟨entries, room⟩ | ⟨spells, -, -, -⟩)
      · exact hall _ _ _ _ _ entries (by simpa using room)
      · simp [SpellsType] at spells
    · intro hall earlier line memberKind child later entries room
      exact hall ⟨depth, memberKind, child⟩ (Or.inl ⟨entries, by simpa using room⟩)
  | parameter | function | enumeration | nameImport =>
    have hnone := plain (by simp [SpellsType]) (by simp)
    simp [readWithin, hnone]

/-- The bound of a reading is enough exactly if readings do not nest as deeply as that. -/
lemma readWithin_isSome_iff {fuel : Nat} {a : Task} :
    (readWithin t options fuel a.depth a.kind a.node).isSome ↔ ¬ Nests t options fuel a := by
  induction fuel generalizing a with
  | zero => simp [readWithin, Nests]
  | succ fuel ih =>
    rw [readWithin_succ_isSome_iff]
    simp only [Nests, not_exists, not_and]
    exact forall_congr' fun b => imp_congr_right fun _ => ih

/-! ### Readings inside each other -/

lemma ReadsMember.depth_eq {a b : Task} (h : ReadsMember t options a b) : b.depth = a.depth := by
  cases h
  rfl

lemma SpellsOut.depth_eq {a b : Task} (h : SpellsOut t options a b) : b.depth = a.depth + 1 := by
  cases h
  rfl

lemma Reads.depth_le {a b : Task} (h : Reads t options a b) : a.depth ≤ b.depth := by
  rcases h with h | h
  · exact h.depth_eq.ge
  · rw [h.depth_eq]
    exact Nat.le_succ _

lemma Reads.depth_le_max {a b : Task} (h : Reads t options a b)
    (ha : a.depth ≤ options.maxInlineDepth) : b.depth ≤ options.maxInlineDepth := by
  rcases h with h | h
  · rwa [h.depth_eq]
  · cases h
    assumption

lemma memberKind?_of_some {inlined : List NodeId} {child : NodeId} {kind : DeclarationKind}
    (h : memberKind? t inlined child = some kind) : memberKind? t [] child = some kind := by
  unfold memberKind? at h ⊢
  cases htag : t.tag child <;> simp only [htag] at h ⊢ <;>
    first | exact h | exact (Option.ite_none_left_eq_some.mp h).2

/-- A listed member is a child that can be a member. -/
lemma of_mem_memberEntries {node : NodeId} {entry : UInt64 × DeclarationKind × NodeId}
    (h : entry ∈ memberEntries t node) : entry.2.2 ∈ localChildren t node ∧
      memberKind? t (inlinedTypes t node) entry.2.2 = some entry.2.1 := by
  obtain ⟨c, hlocal, hc⟩ := List.mem_filterMap.mp h
  split at hc
  · rename_i hkind _
    split at hc
    · cases hc
      exact ⟨hlocal, hkind⟩
    · cases hc
  · cases hc

lemma ReadsMember.listed {a b : Task} (h : ReadsMember t options a b) :
    b.node ∈ localChildren t a.node ∧
      memberKind? t (inlinedTypes t a.node) b.node = some b.kind := by
  obtain ⟨entries, -⟩ := h
  exact of_mem_memberEntries (by rw [entries]; exact List.mem_append_right _ List.mem_cons_self)

lemma memberKind?_of_unnamed {type : NodeId} {kind : DeclarationKind}
    (unnamed : isUnnamedType t type) (h : DeclarationKind.ofTag? (t.tag type) = some kind) :
    memberKind? t [] type = some kind := by
  simp only [isUnnamedType, Bool.and_eq_true, Bool.or_eq_true, decide_eq_true_eq] at unnamed
  unfold memberKind?
  cases htag : t.tag type <;>
    simp_all [DeclarationKind.ofTag?, AggregateKind.ofTag?]

/-- The entry of a nested reading decides what it is read as. -/
lemma Reads.readAs {a b : Task} (h : Reads t options a b) :
    memberKind? t [] b.node = some b.kind := by
  rcases h with h | ⟨-, target, readAs, -⟩
  · exact memberKind?_of_some h.listed.2
  · exact memberKind?_of_unnamed (Option.filter_eq_some_iff.mp target).2 readAs

lemma memberKind?_lt {node : NodeId} {kind : DeclarationKind}
    (h : memberKind? t [] node = some kind) : node < t.size := by
  refine Nat.lt_of_not_le fun hle => ?_
  have hdefault : t.tag node = .other 0 := by
    have hentry : t.entry node = default := by
      simp [EntryTree.entry, Array.getD_eq_getD_getElem?, Array.getElem?_eq_none hle]
    rw [EntryTree.tag, hentry]
    rfl
  simp [memberKind?, hdefault, AggregateKind.ofTag?] at h

/-- Readings inside each other as a sequence. -/
lemma Nests.sequence {n : Nat} {a : Task} (h : Nests t options n a) :
    ∃ s : Nat → Task, s 0 = a ∧ ∀ i < n, Reads t options (s i) (s (i + 1)) := by
  induction n generalizing a with
  | zero => exact ⟨fun _ => a, rfl, fun i hi => absurd hi (Nat.not_lt_zero i)⟩
  | succ n ih =>
    obtain ⟨b, hread, hb⟩ := h
    obtain ⟨s, hs, hsteps⟩ := ih hb
    refine ⟨fun i => if i = 0 then a else s (i - 1), rfl, ?_⟩
    intro i hi
    cases i with
    | zero => simpa [hs] using hread
    | succ i => simpa using hsteps i (Nat.lt_of_succ_lt_succ hi)

lemma sequence_reaches {s : Nat → Task} {n : Nat}
    (hsteps : ∀ i < n, Reads t options (s i) (s (i + 1))) {i j : Nat} (hij : i ≤ j) (hj : j ≤ n) :
    ReflTransGen (Reads t options) (s i) (s j) := by
  induction j, hij using Nat.le_induction with
  | base => exact .refl
  | succ j hij ih => exact (ih (by omega)).tail (hsteps j (by omega))

/-- More readings inside each other than entries at every depth repeat a reading. -/
lemma Nests.repeats {n : Nat} {a : Task} (h : Nests t options n a)
    (ha : a.depth ≤ options.maxInlineDepth) (hn : t.size * (options.maxInlineDepth + 1) < n) :
    ∃ b, ReflTransGen (Reads t options) a b ∧ TransGen (Reads t options) b b := by
  obtain ⟨s, rfl, hsteps⟩ := h.sequence
  have hdepth : ∀ i ≤ n, (s i).depth ≤ options.maxInlineDepth := by
    intro i hi
    induction i with
    | zero => exact ha
    | succ i ih => exact (hsteps i (by omega)).depth_le_max (ih (by omega))
  -- Each but the outermost is one of the entries, at one of the depths.
  let holes := Finset.range t.size ×ˢ Finset.range (options.maxInlineDepth + 1)
  have hmaps : ∀ i ∈ Finset.range n, ((s (i + 1)).node, (s (i + 1)).depth) ∈ holes := by
    intro i hi
    have hlt := Finset.mem_range.mp hi
    have hd := hdepth (i + 1) hlt
    simp only [holes, Finset.mem_product, Finset.mem_range]
    exact ⟨memberKind?_lt (hsteps i hlt).readAs, by omega⟩
  have hcard : holes.card < (Finset.range n).card := by simpa [holes] using hn
  obtain ⟨i, hi, j, hj, hne, heq⟩ := Finset.exists_ne_map_eq_of_card_lt_of_maps_to hcard hmaps
  rw [Finset.mem_range] at hi hj
  have hsame : s (i + 1) = s (j + 1) := by
    obtain ⟨hnode, hdeep⟩ := Prod.mk.inj heq
    have hkind : (s (i + 1)).kind = (s (j + 1)).kind := by
      apply Option.some.inj
      rw [← (hsteps i hi).readAs, ← (hsteps j hj).readAs, hnode]
    cases hsi : s (i + 1) with
    | mk depth kind node => cases hsj : s (j + 1) with
      | mk depth' kind' node' => simp_all
  refine ⟨s (i + 1), sequence_reaches hsteps (Nat.zero_le _) (by omega), ?_⟩
  rcases Nat.lt_or_gt_of_ne hne with hlt | hlt
  · have hreach := sequence_reaches hsteps (i := i + 2) (j := j + 1) (by omega) (by omega)
    rw [← hsame] at hreach
    exact .head' (hsteps (i + 1) (by omega)) hreach
  · have hreach := sequence_reaches hsteps (i := j + 2) (j := i + 1) (by omega) (by omega)
    have hfirst := hsteps (j + 1) (by omega)
    rw [← hsame] at hfirst
    exact .head' hfirst hreach

lemma Nests.pred {n : Nat} {a : Task} (h : Nests t options (n + 1) a) : Nests t options n a := by
  induction n generalizing a with
  | zero => trivial
  | succ n ih =>
    obtain ⟨b, hread, hb⟩ := h
    exact ⟨b, hread, ih hb⟩

lemma Nests.before {n : Nat} {a b : Task} (hab : TransGen (Reads t options) a b)
    (h : Nests t options n b) : Nests t options (n + 1) a := by
  induction hab using TransGen.head_induction_on with
  | single hread => exact ⟨_, hread, h⟩
  | head hread _ ih => exact ⟨_, hread, ih.pred⟩

/-- What is read inside itself is read inside itself any number of times. -/
lemma nests_of_cycle {a b : Task} (reached : ReflTransGen (Reads t options) a b)
    (cycle : TransGen (Reads t options) b b) (n : Nat) : Nests t options n a := by
  have hb : ∀ n, Nests t options n b := by
    intro n
    induction n with
    | zero => trivial
    | succ n ih => exact .before cycle ih
  rcases reflTransGen_iff_eq_or_transGen.mp reached with rfl | hab
  · exact hb n
  · exact (Nests.before hab (hb n)).pred

/-- Spelling out never leads back to a smaller depth, so only members of members can. -/
lemma transGen_readsMember {a b : Task} (h : TransGen (Reads t options) a b) :
    a.depth ≤ b.depth ∧ (b.depth = a.depth → TransGen (ReadsMember t options) a b) := by
  induction h with
  | single hread =>
    refine ⟨hread.depth_le, fun heq => ?_⟩
    rcases hread with h | h
    · exact .single h
    · rw [h.depth_eq] at heq
      omega
  | tail _ hread ih =>
    obtain ⟨hle, hmember⟩ := ih
    refine ⟨hle.trans hread.depth_le, fun heq => ?_⟩
    rcases hread with h | h
    · exact (hmember (h.depth_eq ▸ heq)).tail h
    · rw [h.depth_eq] at heq
      omega

/-- An aggregate is among its own members, or among the members of its members, and so on. -/
def ContainsItself (t : EntryTree) (options : Options) (a : Task) : Prop :=
  TransGen (ReadsMember t options) a a

lemma ContainsItself.reads {a : Task} (h : ContainsItself t options a) :
    TransGen (Reads t options) a a := TransGen.mono (fun _ _ => Or.inl) _ _ h

/-- Readings that nest deeper than all entries at all depths come upon an aggregate that
contains itself. -/
lemma nests_iff_containsItself {n : Nat} {kind : DeclarationKind} {node : NodeId}
    (hn : t.size * (options.maxInlineDepth + 1) < n) :
    Nests t options n ⟨0, kind, node⟩ ↔
      ∃ a, ReflTransGen (Reads t options) ⟨0, kind, node⟩ a ∧ ContainsItself t options a := by
  constructor
  · intro h
    obtain ⟨a, reached, cycle⟩ := h.repeats (Nat.zero_le _) hn
    exact ⟨a, reached, (transGen_readsMember cycle).2 rfl⟩
  · rintro ⟨a, reached, cycle⟩
    exact nests_of_cycle reached cycle.reads n

lemma ofEntry?_iff {kind : DeclarationKind} {node : NodeId} :
    (∃ d, ofEntry? t options kind node = some d) ↔
      ¬ ∃ a, ReflTransGen (Reads t options) ⟨0, kind, node⟩ a ∧ ContainsItself t options a := by
  have hbound : t.size * (options.maxInlineDepth + 1) < nestingBound t options := by
    unfold nestingBound
    omega
  rw [← nests_iff_containsItself hbound, ← readWithin_isSome_iff, Option.isSome_iff_exists]
  rfl

/-- A declaration can be read exactly if no aggregate that is read on the way contains itself.
Readings then nest no deeper than the entries of the tree can be met, each once at every depth
of spelling out; and where there is no reading, no greater bound gives one. -/
theorem reading_ends_iff (t : EntryTree) (options : Options) (kind : DeclarationKind)
    (node : NodeId) :
    ((∃ d, ofEntry? t options kind node = some d) ↔
      ¬ ∃ a, ReflTransGen (Reads t options) ⟨0, kind, node⟩ a ∧ ContainsItself t options a) ∧
    (∀ d, ofEntry? t options kind node = some d → ∀ n, Nests t options n ⟨0, kind, node⟩ →
      n ≤ t.size * (options.maxInlineDepth + 1)) ∧
    ∀ fuel, ofEntry? t options kind node = none →
      readWithin t options fuel 0 kind node = none := by
  refine ⟨ofEntry?_iff, ?_, ?_⟩
  · intro d hd n hn
    refine Nat.le_of_not_lt fun hlt => ?_
    exact ofEntry?_iff.mp ⟨d, hd⟩ ((nests_iff_containsItself hlt).mp hn)
  · intro fuel hnone
    have hcycle : ¬ ∃ d, ofEntry? t options kind node = some d := by simp [hnone]
    rw [ofEntry?_iff, not_not] at hcycle
    obtain ⟨a, reached, cycle⟩ := hcycle
    have hnests := nests_of_cycle reached cycle.reads fuel
    have hfuel := mt (readWithin_isSome_iff (a := ⟨0, kind, node⟩)).mp (not_not.mpr hnests)
    simpa using hfuel

/-- A type unit's structure whose one member is a declaration that stands for the structure. -/
def ownMember : EntryTree :=
  let (b, _, type) := TreeBuilder.start.typeUnit 7 .structureType
  let b := (b.name type "Node").declaredAt type "/src/node.h" 3
  let (b, child) := b.child type .structureType
  (b.signature child 7).tree

/-- The structure contains itself, and reading it does not end. -/
theorem ownMember_unreadable :
    ReadsMember ownMember {} ⟨0, .aggregate .structKind, 1⟩ ⟨0, .aggregate .structKind, 1⟩ ∧
      ∀ fuel, readWithin ownMember {} fuel 0 (.aggregate .structKind) 1 = none := by
  have hentries : memberEntries ownMember 1 = [] ++ (3, .aggregate .structKind, 1) :: [] := by cbv
  have hmember : ReadsMember ownMember {} ⟨0, .aggregate .structKind, 1⟩
      ⟨0, .aggregate .structKind, 1⟩ :=
    .intro hentries (by decide)
  refine ⟨hmember, fun fuel => ?_⟩
  have hnests := nests_of_cycle .refl (TransGen.single (Or.inl hmember)) fuel
  have hfuel := mt readWithin_isSome_iff.mp (not_not.mpr hnests)
  simpa using hfuel

/-- Where every child stands for a later entry than its parent, everything can be read. -/
theorem readable_of_later (later : ∀ node, ∀ child ∈ t.children node, node < t.resolve child)
    (kind : DeclarationKind) (node : NodeId) : ∃ d, ofEntry? t options kind node = some d := by
  have hmember : ∀ {a b : Task}, ReadsMember t options a b → a.node < b.node := by
    intro a b h
    obtain ⟨child, hchild, heq⟩ := List.mem_map.mp (List.mem_of_mem_filter h.listed.1)
    exact heq ▸ later _ _ hchild
  refine ofEntry?_iff.mpr ?_
  rintro ⟨a, -, cycle⟩
  have hlt : ∀ {b : Task}, TransGen (ReadsMember t options) a b → a.node < b.node := by
    intro b h
    induction h with
    | single h => exact hmember h
    | tail _ h ih => exact ih.trans (hmember h)
  exact Nat.lt_irrefl _ (hlt cycle)

end HeaderRecovery.Declaration
