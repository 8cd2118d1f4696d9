import HeaderRecovery.Proofs.Recognition
import HeaderRecovery.Proofs.RegistryInvariant

/-!
Readings of a tree in which no name is blank. Every type is spelled as some text then, every
definition that is spelled out has braces, and what can be registered is read as a proper
declaration.
-/
namespace HeaderRecovery

namespace Debug.EntryTree

/-- Every name is a text, and not the empty one. -/
def Named (t : EntryTree) : Prop :=
  ∀ {node value}, t.attr? node .name = some value → ∃ text, value = .string text ∧ text ≠ ""

variable {t : EntryTree}

lemma entry_of_size_le {n : NodeId} (hn : t.entries.size ≤ n) : t.entry n = default := by
  simp [entry, Array.getD, Nat.not_lt.mpr hn]

/-- No entry has a blank name if none of those in the tree has. -/
lemma named_of_entries (h : ∀ n < t.entries.size,
    (t.attr? n .name).all fun value => value.string?.any (· ≠ "")) : t.Named := by
  intro n value hvalue
  by_cases hn : n < t.entries.size
  · have hall := h n hn
    rw [hvalue, Option.all_some] at hall
    cases value with
    | string text => exact ⟨text, rfl, by simpa [Value.string?] using hall⟩
    | _ => simp [Value.string?] at hall
  · simp [attr?, entry_of_size_le (Nat.not_lt.mp hn), default] at hvalue

lemma Named.shortName?_ne (h : t.Named) (node : NodeId) : t.shortName? node ≠ some "" := by
  unfold shortName? attrRecursive?
  cases hname : (t.declarationChain node).findSome? (t.attr? · .name) with
  | none => simp
  | some value =>
    obtain ⟨other, -, hother⟩ := List.exists_of_findSome?_eq_some hname
    obtain ⟨text, rfl, htext⟩ := h hother
    simpa [Value.string?] using htext

/-- An entry with a name attribute of its own is named by it. -/
lemma Named.shortName?_eq (h : t.Named) {node : NodeId} (hnode : t.hasAttr node .name) :
    ∃ text, t.shortName? node = some text ∧ text ≠ "" := by
  obtain ⟨value, hvalue⟩ := Option.isSome_iff_exists.mp hnode
  obtain ⟨text, rfl, htext⟩ := h hvalue
  have hchain : ∃ rest, t.declarationChain node = node :: rest := ⟨_, rfl⟩
  obtain ⟨rest, hrest⟩ := hchain
  refine ⟨text, ?_, htext⟩
  rw [shortName?, attrRecursive?, hrest, List.findSome?_cons, hvalue]
  rfl

lemma Named.nameOf_ne (h : t.Named) {node : NodeId} (hnode : t.hasAttr node .name) :
    nameOf t node ≠ "" := by
  obtain ⟨text, hname, htext⟩ := h.shortName?_eq hnode
  rwa [nameOf, hname]

lemma Named.localName_ne (h : t.Named) (node : NodeId) : t.localName node ≠ "" := by
  unfold localName
  cases hname : t.shortName? node with
  | none =>
    rw [Option.getD_none]
    cases t.tag node <;> simp [anonymousName]
  | some text =>
    rintro rfl
    exact h.shortName?_ne node hname

lemma Named.qualifiedName_ne (h : t.Named) (node : NodeId) : t.qualifiedName node ≠ "" := by
  simp only [qualifiedName, List.reverse_cons, List.map_append, List.map_cons, List.map_nil]
  intro hempty
  generalize
    (((t.ancestors (t.resolve node)).takeWhile _).reverse.map t.localName) = scopes at hempty
  cases scopes with
  | nil =>
    rw [List.nil_append, String.intercalate_singleton] at hempty
    exact h.localName_ne _ hempty
  | cons first rest =>
    rw [String.intercalate_append_of_ne_nil (by simp) (by simp), String.append_eq_empty_iff,
      String.intercalate_singleton] at hempty
    exact h.localName_ne _ hempty.2

lemma attach_ne (before mark : String) (hmark : mark ≠ "") : attach before mark ≠ "" := by
  unfold attach
  split <;> simp [String.append_eq_empty_iff, hmark]

lemma pointerTo_ne (pointee : Declarator) (node : NodeId) {mark : String} (hmark : mark ≠ "") :
    (t.pointerTo pointee node mark).before ≠ "" := by
  unfold pointerTo
  split
  · simp [String.append_eq_empty_iff]
  · exact attach_ne _ _ hmark

lemma qualified_ne (inner : Declarator) (node : NodeId) {qualifier : String}
    (hqualifier : qualifier ≠ "") : (t.qualified inner node qualifier).before ≠ "" := by
  unfold qualified
  split
  · exact attach_ne _ _ hqualifier
  · simp [String.append_eq_empty_iff]

lemma Named.spellLevel_ne (h : t.Named) {spell : Option NodeId → Declarator}
    (hspell : ∀ type, (spell type).before ≠ "") (node : NodeId) :
    (t.spellLevel spell node).before ≠ "" := by
  unfold spellLevel
  split
  case h_1 => exact pointerTo_ne _ _ (by decide)
  case h_2 => exact pointerTo_ne _ _ (by decide)
  case h_3 => exact pointerTo_ne _ _ (by decide)
  case h_4 => exact pointerTo_ne _ _ (by simp [String.append_eq_empty_iff])
  case h_5 => exact qualified_ne _ _ (by decide)
  case h_6 => exact qualified_ne _ _ (by decide)
  case h_7 => exact qualified_ne _ _ (by decide)
  case h_8 => simp [Declarator.plain, String.append_eq_empty_iff]
  case h_9 => exact hspell _
  case h_10 => exact hspell _
  case h_11 =>
    cases hname : t.shortName? node with
    | none => simp [Declarator.plain]
    | some text =>
      rintro rfl
      exact h.shortName?_ne node hname
  case h_12 => exact h.qualifiedName_ne node

lemma Named.spellFrom_ne (h : t.Named) (depth : Nat) (path : List NodeId) (type : Option NodeId) :
    (t.spellFrom depth path type).before ≠ "" := by
  induction depth generalizing path type with
  | zero =>
    cases type with
    | none => simp [spellFrom, Declarator.plain]
    | some node => exact h.localName_ne _
  | succ depth ih =>
    cases type with
    | none => simp [spellFrom, Declarator.plain]
    | some node =>
      simp only [spellFrom]
      split
      · exact h.localName_ne _
      · exact h.spellLevel_ne (ih _) _

lemma Named.spell_ne (h : t.Named) (type : Option NodeId) : (t.spell type).before ≠ "" :=
  h.spellFrom_ne _ _ _

end Debug.EntryTree

namespace Declaration
open Debug

/-- Members are spelled out between braces. -/
lemma brace_mem_source {d : Declaration}
    (h : d.kind = .enumeration ∨ ∃ kind, d.kind = .aggregate kind) : '\x7b' ∈ d.source.toList := by
  cases d with
  | enumeration e => simp [Declaration.source, Enumeration.source, String.toList_append]
  | aggregate a =>
    obtain ⟨placement, kind, name, size, bases, ⟨groups⟩, template⟩ := a
    simp [Declaration.source, Aggregate.layout, String.toList_append]
  | field f =>
    simp only [kind] at h
    split at h <;> simp at h
  | _ => simp [kind] at h

lemma dropSemicolon_ne {text : String} (h : '\x7b' ∈ text.toList) : dropSemicolon text ≠ "" := by
  unfold dropSemicolon
  by_cases hlast : text.toList.getLast? = some ';'
  · rw [if_pos hlast]
    intro hempty
    have hnil : text.toList.dropLast = [] := by simpa using congrArg String.toList hempty
    have hne : text.toList ≠ [] := List.ne_nil_of_mem h
    have hsplit := List.dropLast_concat_getLast hne
    rw [hnil, List.nil_append] at hsplit
    rw [← hsplit, List.mem_singleton] at h
    rw [List.getLast?_eq_some_getLast hne, ← h] at hlast
    simp at hlast
  · rw [if_neg hlast]
    rintro rfl
    simp at h

variable {t : EntryTree} {options : Options} {node : NodeId}

/-- What is spelled out is some text. -/
lemma definition?_ne {depth : Nat} {read : DeclarationKind → NodeId → Option Declaration}
    (hread : ∀ {kind node d}, read kind node = some d → d.kind = kind)
    {type : NodeId} {text : String}
    (h : definition? t options depth read node = some (some (type, text))) : text ≠ "" := by
  unfold definition? at h
  split at h
  · cases h
  · rename_i target htarget
    obtain ⟨-, hunnamed⟩ := Option.filter_eq_some_iff.mp htarget
    split at h
    · cases h
    · rename_i kind hkind
      split at h
      · cases h
      · obtain ⟨d, hd, heq⟩ := Option.map_eq_some_iff.mp h
        cases heq
        apply dropSemicolon_ne
        apply brace_mem_source
        rw [hread hd]
        simp only [isUnnamedType, Bool.and_eq_true, Bool.or_eq_true, decide_eq_true_eq] at hunnamed
        rcases hunnamed.1 with htag | haggregate
        · rw [htag] at hkind
          cases hkind
          exact Or.inl rfl
        · refine Or.inr ?_
          obtain ⟨aggregate, haggregate⟩ := Option.isSome_iff_exists.mp haggregate
          refine ⟨aggregate, ?_⟩
          generalize t.tag type = tag at hkind haggregate
          cases tag <;> simp_all [AggregateKind.ofTag?, DeclarationKind.ofTag?]

lemma placeMember_ascending {cap : Nat} {read : DeclarationKind → NodeId → Option Declaration}
    {groups groups' : SortedMap UInt64 (List Declaration)} (h : groups.Ascending)
    {entry : UInt64 × DeclarationKind × NodeId}
    (hplace : placeMember cap read groups entry = some groups') : groups'.Ascending := by
  unfold placeMember at hplace
  split at hplace
  · cases hplace
    exact h.alter _ _
  · obtain ⟨d, -, rfl⟩ := Option.map_eq_some_iff.mp hplace
    exact h.alter _ _

lemma foldlM_ascending {cap : Nat} {read : DeclarationKind → NodeId → Option Declaration}
    {groups groups' : SortedMap UInt64 (List Declaration)} (h : groups.Ascending)
    {entries : List (UInt64 × DeclarationKind × NodeId)}
    (hplace : entries.foldlM (placeMember cap read) groups = some groups') :
    groups'.Ascending := by
  induction entries generalizing groups with
  | nil =>
    cases hplace
    exact h
  | cons entry rest ih =>
    rw [List.foldlM_cons] at hplace
    obtain ⟨middle, hfirst, hrest⟩ := Option.bind_eq_some_iff.mp hplace
    exact ih (placeMember_ascending h hfirst) hrest

lemma readAggregate_ascending {read : DeclarationKind → NodeId → Option Declaration}
    {kind : AggregateKind} {a : Aggregate Declaration}
    (h : readAggregate t options read kind node = some a) : a.members.Ascending := by
  obtain ⟨groups, hgroups, rfl⟩ := Option.map_eq_some_iff.mp h
  have hascending := foldlM_ascending SortedMap.empty_ascending hgroups
  simp only [SortedMap.Ascending, SortedMap.map, List.pairwise_map] at hascending ⊢
  exact hascending

lemma hasName_of_place? {kind : DeclarationKind} {file : String} {line : UInt64}
    (hplace : Registry.place? t node = some (kind, file, line)) (hkind : kind ≠ .nameImport) :
    t.hasAttr node .name := by
  unfold Registry.place? at hplace
  split at hplace
  · split at hplace
    · cases hplace
    · rename_i hnot
      cases hplace
      simpa [DeclarationKind.requiresName, hkind] using hnot
  · cases hplace

/-- What a registrable entry is read as, if it can be written, is proper. -/
lemma proper_of_place? (ht : t.Named) {kind : DeclarationKind} {file : String} {line : UInt64}
    {d : Declaration} (hplace : Registry.place? t node = some (kind, file, line))
    (hread : ofEntry? t options kind node = some d) (hrenderable : d.isRenderable) : d.Proper := by
  have halone := Registry.standsAlone_of_place hplace
  have hname := hasName_of_place? hplace
  unfold ofEntry? nestingBound at hread
  cases kind with
  | typedef =>
    obtain ⟨definition, hdefinition, rfl⟩ := Option.map_eq_some_iff.mp hread
    obtain ⟨text, htext, -⟩ := ht.shortName?_eq (hname (by simp))
    cases definition with
    | none =>
      refine ⟨by simp [Typedef.ofEntry, htext], ?_⟩
      simp [Typedef.ofEntry, Declarator.joined, String.append_eq_empty_iff, EntryTree.spellTypeOf,
        ht.spell_ne]
    | some definition =>
      obtain ⟨type, text⟩ := definition
      exact ⟨by simp [Typedef.ofEntry, htext],
        definition?_ne (fun h => (readWithin_kind h).1) hdefinition⟩
  | parameter =>
    obtain ⟨tag, htag⟩ := halone
    cases tag <;> simp [DeclarationKind.ofTag?, AggregateKind.ofTag?] at htag
  | function isMember =>
    cases hread
    cases isMember with
    | true => exact (halone.not_member.1 rfl).elim
    | false => exact ⟨rfl, ht.spell_ne _⟩
  | enumeration =>
    cases hread
    exact ht.nameOf_ne (hname (by simp))
  | field => exact (halone.not_member.2 rfl).elim
  | scopeVariable =>
    obtain ⟨definition, hdefinition, rfl⟩ := Option.map_eq_some_iff.mp hread
    refine ⟨rfl, ht.nameOf_ne (hname (by simp)), ?_, by simp [Field.ofVariable]⟩
    cases definition with
    | none => exact ht.spell_ne _
    | some definition => exact definition?_ne (fun h => (readWithin_kind h).1) hdefinition
  | nameImport =>
    cases hread
    have htarget : (NameImport.ofEntry t node).target ≠ "" := by
      simpa [isRenderable] using hrenderable
    exact htarget
  | aggregate kind =>
    obtain ⟨a, ha, rfl⟩ := Option.map_eq_some_iff.mp hread
    refine ⟨?_, readAggregate_ascending ha⟩
    obtain ⟨groups, -, rfl⟩ := Option.map_eq_some_iff.mp ha
    exact ht.nameOf_ne (hname (by simp))

lemma Proper.setScopes {d : Declaration} (h : d.Proper) (scopes : List Scope) :
    (d.setScopes scopes).Proper := by
  cases d <;> exact h

end Declaration
end HeaderRecovery
