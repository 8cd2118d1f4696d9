import Mathlib
import HeaderRecovery.Debug.Builder
import HeaderRecovery.Declaration.Reading
import HeaderRecovery.Proofs.Nesting
import HeaderRecovery.Proofs.SortedMap

/-!
Which members an aggregate has. A child is eligible for a line if it can be a member, is not the
unnamed type of a data member, is declared there and not in another file. Main statement: a line
has a group exactly if a child is eligible for it; the first ones, as many as a line may hold, are
read in order, and what the group holds is the first reading of every run with one text.
-/
namespace HeaderRecovery.Declaration
open Debug

variable {t : EntryTree} {options : Options} {depth fuel cap : Nat} {kind : DeclarationKind}
variable {node child : NodeId} {line : UInt64} {d : Declaration}

/-! ### Readings whatever their bound -/

/-- Inside `depth` definitions that are being spelled out, an entry is read as `d`: some bound on
the readings inside each other is enough for that, and then any greater one is. -/
def ReadAs (t : EntryTree) (options : Options) (depth : Nat) (kind : DeclarationKind)
    (node : NodeId) (d : Declaration) : Prop :=
  ∃ fuel, readWithin t options fuel depth kind node = some d

section Bound

variable {read read' : DeclarationKind → NodeId → Option Declaration}

lemma placeMember_mono (h : ∀ {kind node d}, read kind node = some d → read' kind node = some d)
    {groups groups' : SortedMap UInt64 (List Declaration)}
    {entry : UInt64 × DeclarationKind × NodeId}
    (hplace : placeMember cap read groups entry = some groups') :
    placeMember cap read' groups entry = some groups' := by
  unfold placeMember at hplace ⊢
  split at hplace
  · rename_i hfull
    rwa [if_pos hfull]
  · rename_i hroom
    obtain ⟨d, hd, rfl⟩ := Option.map_eq_some_iff.mp hplace
    rw [if_neg hroom, h hd, Option.map_some]

lemma placeMembers_mono (h : ∀ {kind node d}, read kind node = some d → read' kind node = some d)
    {entries : List (UInt64 × DeclarationKind × NodeId)}
    {groups groups' : SortedMap UInt64 (List Declaration)}
    (hplace : entries.foldlM (placeMember cap read) groups = some groups') :
    entries.foldlM (placeMember cap read') groups = some groups' := by
  induction entries generalizing groups with
  | nil => exact hplace
  | cons entry rest ih =>
    rw [List.foldlM_cons] at hplace ⊢
    obtain ⟨next, hfirst, hrest⟩ := Option.bind_eq_some_iff.mp hplace
    exact Option.bind_eq_some_iff.mpr ⟨next, placeMember_mono h hfirst, ih hrest⟩

lemma definition?_mono (h : ∀ {kind node d}, read kind node = some d → read' kind node = some d)
    {definition : Option (NodeId × String)}
    (hdefinition : definition? t options depth read node = some definition) :
    definition? t options depth read' node = some definition := by
  unfold definition? at hdefinition ⊢
  split at hdefinition
  · exact hdefinition
  · split at hdefinition
    · exact hdefinition
    · split at hdefinition
      · rename_i hdeep
        rwa [if_pos hdeep]
      · rename_i hshallow
        obtain ⟨d, hd, rfl⟩ := Option.map_eq_some_iff.mp hdefinition
        rw [if_neg hshallow, h hd, Option.map_some]

end Bound

lemma readWithin_succ (h : readWithin t options fuel depth kind node = some d) :
    readWithin t options (fuel + 1) depth kind node = some d := by
  induction fuel generalizing depth kind node d with
  | zero => cases h
  | succ fuel ih =>
    have hdefinition : ∀ {definition},
        definition? t options depth (readWithin t options fuel (depth + 1)) node = some definition →
        definition? t options depth (readWithin t options (fuel + 1) (depth + 1)) node =
          some definition := definition?_mono ih
    cases kind with
    | typedef | field | scopeVariable =>
      obtain ⟨definition, hread, rfl⟩ := Option.map_eq_some_iff.mp h
      exact Option.map_eq_some_iff.mpr ⟨definition, hdefinition hread, rfl⟩
    | parameter | function | enumeration | nameImport => exact h
    | aggregate kind =>
      obtain ⟨a, hread, rfl⟩ := Option.map_eq_some_iff.mp h
      obtain ⟨groups, hgroups, rfl⟩ := Option.map_eq_some_iff.mp hread
      have hplace := placeMembers_mono ih hgroups
      exact Option.map_eq_some_iff.mpr
        ⟨_, Option.map_eq_some_iff.mpr ⟨groups, hplace, rfl⟩, rfl⟩

lemma readWithin_mono {fuel' : Nat} (hfuel : fuel ≤ fuel')
    (h : readWithin t options fuel depth kind node = some d) :
    readWithin t options fuel' depth kind node = some d := by
  induction fuel', hfuel using Nat.le_induction with
  | base => exact h
  | succ _ _ ih => exact readWithin_succ ih

/-- An entry has one reading at most. -/
lemma ReadAs.unique {d' : Declaration} (h : ReadAs t options depth kind node d)
    (h' : ReadAs t options depth kind node d') : d = d' := by
  obtain ⟨fuel, h⟩ := h
  obtain ⟨fuel', h'⟩ := h'
  have hmax := readWithin_mono (Nat.le_max_left fuel fuel') h
  rw [readWithin_mono (Nat.le_max_right fuel fuel') h', Option.some.injEq] at hmax
  exact hmax.symm

/-! ### Eligible children -/

/-- A data member among the children has this unnamed type, which is spelled out there. -/
def SpelledAtMember (t : EntryTree) (node type : NodeId) : Prop :=
  isUnnamedType t type ∧ ∃ member ∈ (t.children node).map t.resolve,
    isDataMember (t.tag member) ∧ t.target? member .type = some type

/-- A child of `node` that can be a member on this line. -/
structure Eligible (t : EntryTree) (node : NodeId) (line : UInt64) (child : NodeId) : Prop where
  /-- It is a data member, an alias, a function, an enumeration or an aggregate. -/
  readable : (memberKind? t [] child).isSome
  nested : ¬ SpelledAtMember t node child
  native : ¬ isForeign t node child
  declared : t.declaredLine? child = some line
  positive : 0 < line

instance (t : EntryTree) (node type : NodeId) : Decidable (SpelledAtMember t node type) :=
  inferInstanceAs (Decidable (_ ∧ _))

instance (t : EntryTree) (node : NodeId) (line : UInt64) (child : NodeId) :
    Decidable (Eligible t node line child) :=
  decidable_of_iff ((memberKind? t [] child).isSome ∧ ¬ SpelledAtMember t node child ∧
      ¬ isForeign t node child ∧ t.declaredLine? child = some line ∧ 0 < line)
    ⟨fun ⟨hr, hn, hf, hl, hp⟩ => ⟨hr, hn, hf, hl, hp⟩,
      fun h => ⟨h.readable, h.nested, h.native, h.declared, h.positive⟩⟩

/-- The children that can be members on a line in their order, a declaration with a signature
replaced by its definition. -/
def eligibleChildren (t : EntryTree) (node : NodeId) (line : UInt64) : List NodeId :=
  ((t.children node).map t.resolve).filter (Eligible t node line)

lemma mem_inlinedTypes_iff {type : NodeId} :
    type ∈ inlinedTypes t node ↔ SpelledAtMember t node type := by
  simp only [inlinedTypes, List.mem_filterMap, List.mem_filter, SpelledAtMember,
    Option.filter_eq_some_iff]
  constructor
  · rintro ⟨member, ⟨hmember, hdata⟩, htarget, hunnamed⟩
    exact ⟨hunnamed, member, hmember, hdata, htarget⟩
  · rintro ⟨hunnamed, member, hmember, hdata, htarget⟩
    exact ⟨member, ⟨hmember, hdata⟩, htarget, hunnamed⟩

/-- Only aggregates and enumerations can be spelled out somewhere else. -/
lemma memberKind?_eq_some_iff :
    memberKind? t (inlinedTypes t node) child = some kind ↔
      memberKind? t [] child = some kind ∧ ¬ SpelledAtMember t node child := by
  rw [← mem_inlinedTypes_iff]
  have hunnamed : child ∈ inlinedTypes t node → isUnnamedType t child :=
    fun h => (mem_inlinedTypes_iff.mp h).1
  unfold memberKind?
  unfold isUnnamedType at hunnamed
  cases htag : t.tag child <;> simp [htag, AggregateKind.ofTag?] at hunnamed ⊢ <;> tauto

/-- A child in no other file is listed exactly for the line it is eligible for. -/
lemma eligible_iff (native : ¬ isForeign t node child) :
    Eligible t node line child ↔ ∃ kind, memberKind? t (inlinedTypes t node) child = some kind ∧
      t.declaredLine? child = some line ∧ 0 < line := by
  constructor
  · intro h
    obtain ⟨kind, hkind⟩ := Option.isSome_iff_exists.mp h.readable
    exact ⟨kind, memberKind?_eq_some_iff.mpr ⟨hkind, h.nested⟩, h.declared, h.positive⟩
  · rintro ⟨kind, hkind, declared, positive⟩
    obtain ⟨hreadable, nested⟩ := memberKind?_eq_some_iff.mp hkind
    exact ⟨by simp [hreadable], nested, native, declared, positive⟩

/-- The members listed for a line are the children that are eligible for it. -/
lemma memberEntries_line (t : EntryTree) (node : NodeId) (line : UInt64) :
    ((memberEntries t node).filter fun e => e.1 = line).map (·.2.2) =
      eligibleChildren t node line := by
  unfold memberEntries localChildren eligibleChildren
  induction (t.children node).map t.resolve with
  | nil => rfl
  | cons c rest ih =>
    by_cases hforeign : isForeign t node c
    · have hnot : ¬ Eligible t node line c := fun h => h.native hforeign
      simpa [hforeign, hnot] using ih
    · rw [List.filter_cons_of_pos (by simpa using hforeign), List.filterMap_cons,
        List.filter_cons]
      simp only [eligible_iff hforeign]
      cases hkind : memberKind? t (inlinedTypes t node) c with
      | none => simpa using ih
      | some kind =>
        cases hline : t.declaredLine? c with
        | none => simpa using ih
        | some l =>
          by_cases hpos : 0 < l
          · by_cases heq : l = line
            · subst heq
              simpa [hpos] using ih
            · simpa [hpos, heq] using ih
          · have hnot : ¬ (l = line ∧ 0 < line) := fun h => hpos (h.1 ▸ h.2)
            simpa [hpos, hnot] using ih

/-! ### Members in their groups -/

section Groups

variable {read : DeclarationKind → NodeId → Option Declaration}
variable {groups groups' : SortedMap UInt64 (List Declaration)}
variable {came entries : List (UInt64 × DeclarationKind × NodeId)}

/-- What a line holds once these members of it came by: nothing if there were none, else the
readings of those that found room, in order. -/
structure Holds (cap : Nat) (read : DeclarationKind → NodeId → Option Declaration)
    (came : List (UInt64 × DeclarationKind × NodeId)) (group? : Option (List Declaration)) :
    Prop where
  isSome_iff : group?.isSome ↔ came ≠ []
  readings : List.Forall₂ (fun e d => read e.2.1 e.2.2 = some d) (came.take cap) (group?.getD [])

/-- Every line holds what came by for it. -/
structure Placed (cap : Nat) (read : DeclarationKind → NodeId → Option Declaration)
    (came : List (UInt64 × DeclarationKind × NodeId))
    (groups : SortedMap UInt64 (List Declaration)) : Prop where
  ascending : groups.Ascending
  line : ∀ line, Holds cap read (came.filter fun e => e.1 = line) (groups.find? line)

lemma placed_nil : Placed cap read [] .empty :=
  ⟨SortedMap.empty_ascending, fun _ => ⟨by simp, by simp⟩⟩

/-- One more member only changes its own line. -/
lemma Placed.alter (h : Placed cap read came groups)
    {f : Option (List Declaration) → List Declaration} {entry : UInt64 × DeclarationKind × NodeId}
    (hown : Holds cap read ((came.filter fun e => e.1 = entry.1) ++ [entry])
      (some (f (groups.find? entry.1)))) :
    Placed cap read (came ++ [entry]) (groups.alter entry.1 f) := by
  refine ⟨h.ascending.alter _ _, fun line => ?_⟩
  rw [SortedMap.find?_alter h.ascending, List.filter_append]
  by_cases heq : line = entry.1
  · subst heq
    simpa using hown
  · simpa [heq, Ne.symm heq] using h.line line

/-- A member that finds its line full leaves the line as it is, any other is read and added. -/
lemma Placed.place (h : Placed cap read came groups) {entry : UInt64 × DeclarationKind × NodeId}
    (hplace : placeMember cap read groups entry = some groups') :
    Placed cap read (came ++ [entry]) groups' := by
  have hline := h.line entry.1
  have hlength := hline.readings.length_eq
  rw [List.length_take] at hlength
  unfold placeMember at hplace
  split at hplace
  · rename_i hfull
    cases hplace
    refine h.alter ⟨by simp, ?_⟩
    rw [List.take_append_of_le_length (by omega)]
    exact hline.readings
  · rename_i hroom
    obtain ⟨d, hd, rfl⟩ := Option.map_eq_some_iff.mp hplace
    refine h.alter ⟨by simp, ?_⟩
    have hreadings := hline.readings
    rw [List.take_of_length_le (by omega)] at hreadings
    rw [List.take_of_length_le (by rw [List.length_append, List.length_singleton]; omega)]
    exact List.rel_append hreadings (.cons hd .nil)

lemma Placed.places (h : Placed cap read came groups)
    (hplaces : entries.foldlM (placeMember cap read) groups = some groups') :
    Placed cap read (came ++ entries) groups' := by
  induction entries generalizing came groups with
  | nil =>
    cases hplaces
    simpa using h
  | cons entry rest ih =>
    rw [List.foldlM_cons] at hplaces
    obtain ⟨next, hfirst, hrest⟩ := Option.bind_eq_some_iff.mp hplaces
    simpa using ih (h.place hfirst) hrest

end Groups

/-! ### Runs with one text -/

/-- Readings cut into runs: the first of each, and those behind it that have its text. -/
structure Runs (readings : List Declaration) (runs : List (Declaration × List Declaration)) :
    Prop where
  all : readings = runs.flatMap fun run => run.1 :: run.2
  repeated : ∀ run ∈ runs, ∀ d ∈ run.2, d.source = run.1.source
  apart : (runs.map (·.1)).IsChain fun a b => a.source ≠ b.source

lemma exists_runs_of (last : Declaration) (readings : List Declaration) :
    ∃ repeats runs, Runs (last :: readings) ((last, repeats) :: runs) ∧
      dropRepeatsOf last.source readings = runs.map (·.1) := by
  induction readings generalizing last with
  | nil => exact ⟨[], [], ⟨rfl, by simp, by simp⟩, rfl⟩
  | cons d rest ih =>
    rw [dropRepeatsOf]
    split
    · rename_i hsame
      -- A repeat joins the run of the last one that was kept.
      obtain ⟨repeats, runs, hruns, hdrop⟩ := ih last
      have hall := hruns.all
      simp only [List.flatMap_cons, List.cons_append, List.cons.injEq, true_and] at hall
      refine ⟨d :: repeats, runs, ⟨by simp [hall], ?_, hruns.apart⟩, hdrop⟩
      intro run hrun e he
      rcases List.mem_cons.mp hrun with rfl | hrun
      · rcases List.mem_cons.mp he with rfl | he
        · exact hsame
        · exact hruns.repeated _ List.mem_cons_self e he
      · exact hruns.repeated run (List.mem_cons_of_mem _ hrun) e he
    · rename_i hother
      -- Another text ends this run and starts the next one.
      obtain ⟨repeats, runs, hruns, hdrop⟩ := ih d
      refine ⟨[], (d, repeats) :: runs, ⟨by simp [hruns.all], ?_, ?_⟩, by rw [hdrop]; rfl⟩
      · intro run hrun e he
        rcases List.mem_cons.mp hrun with rfl | hrun
        · exact absurd he List.not_mem_nil
        · exact hruns.repeated run hrun e he
      · exact .cons_cons (Ne.symm hother) hruns.apart

/-- Dropping repeats leaves the first of every run. -/
lemma exists_runs (readings : List Declaration) :
    ∃ runs, Runs readings runs ∧ dropRepeats readings = runs.map (·.1) := by
  cases readings with
  | nil => exact ⟨[], ⟨rfl, by simp, by simp⟩, rfl⟩
  | cons d rest =>
    obtain ⟨repeats, runs, hruns, hdrop⟩ := exists_runs_of d rest
    exact ⟨(d, repeats) :: runs, hruns, by rw [dropRepeats, hdrop]; rfl⟩

lemma Runs.length_le {readings : List Declaration} {runs : List (Declaration × List Declaration)}
    (h : Runs readings runs) : runs.length ≤ readings.length := by
  rw [h.all, List.length_flatMap]
  have hone : ∀ n ∈ runs.map fun run => (run.1 :: run.2).length, 1 ≤ n := by
    intro n hn
    obtain ⟨run, -, rfl⟩ := List.mem_map.mp hn
    exact Nat.le_add_left 1 _
  have hsum := List.length_le_sum_of_one_le _ hone
  rwa [List.length_map] at hsum

/-! ### Collecting -/

/-- The readings of the first eligible children of a line, and the runs of which the group of the
line holds the first readings. -/
lemma ReadAs.collected {aggregate : AggregateKind} {a : Aggregate Declaration}
    (h : ReadAs t options depth (.aggregate aggregate) node (.aggregate a)) (line : UInt64) :
    ∃ readings runs,
      List.Forall₂ (fun child d => ∃ k, memberKind? t [] child = some k ∧
          ReadAs t options depth k child d)
        ((eligibleChildren t node line).take options.maxEntriesPerLine) readings ∧
      Runs readings runs ∧
      a.members.find? line =
        if eligibleChildren t node line = [] then none else some (runs.map (·.1)) := by
  obtain ⟨fuel, h⟩ := h
  cases fuel with
  | zero => cases h
  | succ fuel =>
    obtain ⟨a', hread, ha⟩ := Option.map_eq_some_iff.mp h
    cases ha
    obtain ⟨groups, hgroups, rfl⟩ := Option.map_eq_some_iff.mp hread
    have hplaced := placed_nil.places hgroups
    rw [List.nil_append] at hplaced
    obtain ⟨hsome, hreadings⟩ := hplaced.line line
    obtain ⟨runs, hruns, hdrop⟩ := exists_runs ((groups.find? line).getD [])
    refine ⟨_, runs, ?_, hruns, ?_⟩
    · -- The listed members of the line are its eligible children, each with its own kind.
      rw [← memberEntries_line, ← List.map_take, List.forall₂_map_left_iff]
      have hkinds : ∀ e ∈ ((memberEntries t node).filter fun e => e.1 = line).take
          options.maxEntriesPerLine, memberKind? t [] e.2.2 = some e.2.1 :=
        fun e he => memberKind?_of_some
          (of_mem_memberEntries (List.mem_of_mem_filter (List.mem_of_mem_take he))).2
      exact ((List.forall₂_and_left _ _).mpr ⟨hkinds, hreadings⟩).imp
        fun e d he => ⟨e.2.1, he.1, fuel, he.2⟩
    · have hnil : eligibleChildren t node line = [] ↔
          ((memberEntries t node).filter fun e => e.1 = line) = [] := by
        rw [← memberEntries_line, List.map_eq_nil_iff]
      rw [SortedMap.find?_map, if_congr hnil rfl rfl]
      cases hgroup : groups.find? line with
      | none =>
        rw [hgroup] at hsome
        rw [if_pos (not_not.mp fun hne => by simpa using hsome.mpr hne)]
        rfl
      | some group =>
        rw [hgroup] at hsome hdrop
        rw [if_neg (hsome.mp rfl), Option.map_some, ← hdrop]
        rfl

/-- Where an aggregate can be read, each line holds the first readings of the runs with one text
among the readings of its first eligible children, in order; so of these each is kept or has the
text of the one kept before it. There are no more of them than a line may hold, neighbours differ
in their texts, and a line without an eligible child has no group. -/
theorem members_collected {aggregate : AggregateKind} {a : Aggregate Declaration}
    (room : 1 ≤ options.maxEntriesPerLine)
    (h : ReadAs t options depth (.aggregate aggregate) node (.aggregate a)) (line : UInt64) :
    ∃ readings runs,
      List.Forall₂ (fun child d => ∃ k, memberKind? t [] child = some k ∧
          ReadAs t options depth k child d)
        ((eligibleChildren t node line).take options.maxEntriesPerLine) readings ∧
      Runs readings runs ∧ runs.length ≤ options.maxEntriesPerLine ∧
      (runs = [] ↔ eligibleChildren t node line = []) ∧
      a.members.find? line = if runs = [] then none else some (runs.map (·.1)) := by
  obtain ⟨readings, runs, hreadings, hruns, hfind⟩ := h.collected line
  have hlength := hreadings.length_eq
  rw [List.length_take] at hlength
  have hnil : runs = [] ↔ eligibleChildren t node line = [] := by
    constructor
    · rintro rfl
      rw [hruns.all, List.flatMap_nil, List.length_nil] at hlength
      rw [← List.length_eq_zero_iff]
      omega
    · intro hnone
      have hle := hruns.length_le
      rw [hnone, List.length_nil, Nat.min_zero] at hlength
      rw [← List.length_eq_zero_iff]
      omega
  refine ⟨readings, runs, hreadings, hruns, ?_, hnil, ?_⟩
  · have hle := hruns.length_le
    omega
  · rw [hfind, if_congr hnil rfl rfl]

/-- What is seen of the members of an aggregate, line by line. -/
def memberViews? {β : Type} (view : Declaration → β) : Declaration → Option (List (UInt64 × List β))
  | aggregate a => some (a.members.entries.map fun e => (e.1, e.2.map view))
  | _ => none

lemma exists_aggregate {β : Type} {view : Declaration → β} {d? : Option Declaration}
    {views : List (UInt64 × List β)} (h : d?.bind (memberViews? view) = some views) :
    ∃ a, d? = some (aggregate a) ∧
      (a.members.entries.map fun e => (e.1, e.2.map view)) = views := by
  obtain ⟨d, rfl, hd⟩ := Option.bind_eq_some_iff.mp h
  cases d with
  | aggregate a => exact ⟨a, rfl, Option.some.inj hd⟩
  | _ => cases hd

/-- A structure whose members come from macros: three on one line, two times the same on another,
one from another file and one without a line. -/
def macroLines : EntryTree :=
  let (b, root) := TreeBuilder.start.compileUnit "m.cpp" "/src"
  let (b, int) := b.baseType root "int" 4 5
  let (b, struct) := b.child root .structureType
  let b := (b.name struct "Macro").declaredAt struct "/src/m.h" 1
  let member := fun (b : TreeBuilder) (text file : String) (line : UInt64) =>
    let (b, m) := b.child struct .member
    ((b.name m text).typeRef m int).declaredAt m file line
  let b := member (member (member b "m0" "/src/m.h" 5) "m1" "/src/m.h" 5) "m2" "/src/m.h" 5
  let b := member (member b "dup" "/src/m.h" 9) "dup" "/src/./m.h" 9
  (member (member b "foreign" "/src/n.h" 9) "hidden" "/src/m.h" 0).tree

/-- With room for two on a line the third member is left out, and one repeat is dropped. -/
theorem macroLines_collected :
    ∃ a, ReadAs macroLines { maxEntriesPerLine := 2 } 0 (.aggregate .structKind) 2 (aggregate a) ∧
      (a.members.entries.map fun e => (e.1, e.2.map source)) =
        [(5, ["int m0;", "int m1;"]), (9, ["int dup;"])] ∧
      eligibleChildren macroLines 2 9 = [6, 7] ∧
      ∃ readings runs,
        List.Forall₂ (fun child d => ∃ k, memberKind? macroLines [] child = some k ∧
            ReadAs macroLines { maxEntriesPerLine := 2 } 0 k child d)
          ((eligibleChildren macroLines 2 9).take 2) readings ∧
        Runs readings runs ∧ runs.length ≤ 2 ∧
        (runs = [] ↔ eligibleChildren macroLines 2 9 = []) ∧
        a.members.find? 9 = if runs = [] then none else some (runs.map (·.1)) := by
  have hread : ( ofEntry? macroLines { maxEntriesPerLine := 2 } (.aggregate .structKind) 2).bind
      (memberViews? source) = some [(5, ["int m0;", "int m1;"]), (9, ["int dup;"])] := by cbv
  obtain ⟨a, ha, htexts⟩ := exists_aggregate hread
  exact ⟨a, ⟨_, ha⟩, htexts, by cbv, members_collected (by decide) ⟨_, ha⟩ 9⟩

end HeaderRecovery.Declaration
