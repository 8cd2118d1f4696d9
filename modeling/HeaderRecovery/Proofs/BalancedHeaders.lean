import HeaderRecovery.Proofs.BalancedSources
import HeaderRecovery.Proofs.NamespaceBlocks
import HeaderRecovery.Proofs.MergeLaws
import HeaderRecovery.Proofs.RegistryMoves

/-!
The braces of whole headers. What a registry holds is merged from readings, and merging picks
names, types and members from either side; so all of it keeps closing the braces that it opens.
Between the declarations stand the namespace blocks, and as these nest, the braces of the header
are those of its blocks: as many are open as there are blocks around a declaration, none in the end.
-/
namespace HeaderRecovery
open Debug Text

/-! Merging -/

lemma neutral_firstName {a b : String} (ha : Neutral a) (hb : Neutral b) :
    Neutral (firstName a b) := neutral_ite hb ha

lemma isNeutral_firstType {a b : Declarator} (ha : a.IsNeutral) (hb : b.IsNeutral) :
    (firstType a b).IsNeutral := by
  unfold firstType
  split
  · exact hb
  · exact ha

/-- A list that is filled while it is empty is one of the two. -/
lemma forall_filled {α : Type} {P : α → Prop} {as bs : List α} {_ : Decidable (as = [])}
    (ha : ∀ x ∈ as, P x) (hb : ∀ x ∈ bs, P x) : ∀ x ∈ if as = [] then bs else as, P x := by
  split
  · exact hb
  · exact ha

lemma forall_or {α : Type} {P : α → Prop} {a b : Option α} (ha : ∀ x ∈ a, P x)
    (hb : ∀ x ∈ b, P x) : ∀ x ∈ a.or b, P x := by
  cases a with
  | none => exact hb
  | some a => exact ha

lemma SortedMap.Forall.foldl_insertNew {κ α : Type} [LT κ] [DecidableLT κ] [DecidableEq κ]
    {Q : α → Prop} {m : SortedMap κ α} (h : m.Forall Q) {entries : List (κ × α)}
    (hentries : ∀ e ∈ entries, Q e.2) :
    (entries.foldl (fun m e => m.insertNew e.1 e.2) m).Forall Q := by
  induction entries generalizing m with
  | nil => exact h
  | cons e rest ih =>
    refine ih (h.alter fun present hpresent => ?_) fun x hx =>
      hentries x (List.mem_cons_of_mem e hx)
    cases present with
    | none => exact hentries e List.mem_cons_self
    | some a => exact hpresent a rfl

namespace Declaration

lemma IsNeutral.merge {a b : Declaration} (ha : a.IsNeutral) (hb : b.IsNeutral) :
    (a.merge b).IsNeutral := by
  rcases sameForm_or_merge_eq a b with hab | heq
  · cases hab with
    | typedef a b =>
      refine ⟨fun name hname => ?_, neutral_ite (Typedef.IsNeutral.target hb)
        (Typedef.IsNeutral.target ha)⟩
      exact (Typedef.mem_addNames.mp hname).elim (Typedef.IsNeutral.names ha name)
        (Typedef.IsNeutral.names hb name)
    | parameter a b =>
      obtain ⟨hname, htype⟩ := ha
      obtain ⟨hname', htype'⟩ := hb
      exact ⟨neutral_firstName hname hname', isNeutral_firstType htype htype'⟩
    | function a b =>
      obtain ⟨hname, htype, hparameters, htemplate⟩ := ha
      obtain ⟨hname', htype', hparameters', htemplate'⟩ := hb
      exact ⟨neutral_firstName hname hname', isNeutral_firstType htype htype',
        forall_filled hparameters hparameters', forall_or htemplate htemplate'⟩
    | enumeration a b =>
      obtain ⟨hname, hbase, henumerators⟩ := ha
      obtain ⟨hname', hbase', henumerators'⟩ := hb
      exact ⟨neutral_firstName hname hname', forall_or hbase hbase',
        forall_filled henumerators henumerators'⟩
    | field a b =>
      obtain ⟨hname, htype⟩ := ha
      obtain ⟨hname', htype'⟩ := hb
      exact ⟨neutral_firstName hname hname', isNeutral_firstType htype htype'⟩
    | nameImport a b =>
      obtain ⟨hform, htarget⟩ := ha
      obtain ⟨hform', htarget'⟩ := hb
      refine ⟨fun name hname => ?_, neutral_firstName htarget htarget'⟩
      change (if a.target = "" then b.form else a.form) = .alias name at hname
      split at hname
      · exact hform' name hname
      · exact hform name hname
    | aggregate a b =>
      obtain ⟨hname, hbases, hmembers, htemplate⟩ := ha
      obtain ⟨hname', hbases', hmembers', htemplate'⟩ := hb
      exact ⟨neutral_firstName hname hname', forall_filled hbases hbases',
        SortedMap.Forall.foldl_insertNew (Q := GroupNeutral) hmembers hmembers',
        forall_or htemplate htemplate'⟩
  · rwa [heq]

lemma IsNeutral.setScopes {d : Declaration} (h : d.IsNeutral) (scopes : List Scope) :
    (d.setScopes scopes).IsNeutral := by
  cases d <;> cases h <;> constructor <;> assumption

lemma mem_scopes_merge {a b : Declaration} {scope : Scope} (h : scope ∈ (a.merge b).scopes) :
    scope ∈ a.scopes ∨ scope ∈ b.scopes := by
  unfold scopes at h ⊢
  rcases placement_merge a b with heq | heq
  · exact Or.inl (heq ▸ h)
  · rw [heq] at h
    change scope ∈ if a.placement.scopes = [] then b.placement.scopes else a.placement.scopes at h
    split at h
    · exact Or.inr h
    · exact Or.inl h

/-- A declaration that can be written without harm to what stands around it. -/
structure IsTidy (d : Declaration) : Prop where
  neutral : d.IsNeutral
  scopes : ∀ scope ∈ d.scopes, Plain scope.name

lemma IsTidy.merge {a b : Declaration} (ha : a.IsTidy) (hb : b.IsTidy) : (a.merge b).IsTidy :=
  ⟨ha.neutral.merge hb.neutral, fun scope h =>
    (mem_scopes_merge h).elim (ha.scopes scope) (hb.scopes scope)⟩

lemma ofEntry?_tidy {t : EntryTree} (h : t.BraceFree) {options : Options}
    {kind : DeclarationKind} {node : NodeId} {d : Declaration}
    (hread : ofEntry? t options kind node = some d) : d.IsTidy where
  neutral := ofEntry?_neutral h hread
  scopes scope hscope := by
    rw [ofEntry?_scopes hread] at hscope
    cases hscope

end Declaration

/-! Headers -/

namespace Chunk

/-- A chunk that opens or closes one block, or leaves what is open as it is. -/
def IsTidy : Chunk → Prop
  | opening scope | closing scope => Plain scope.name
  | gap => True
  | declaration d => Neutral d.source

lemma reads_opening {scope : Scope} (h : Plain scope.name) : Reads 0 1 scope.opening := by
  have hbrace : Reads 0 1 " \x7b\n" := fun _ => rfl
  unfold Scope.opening
  split
  · exact fun _ => rfl
  · have hname : Neutral ((if scope.isInline then "inline namespace " else "namespace ") ++
        scope.name) :=
      (neutral_ite (Plain.neutral (by decide)) (Plain.neutral (by decide))).append h.neutral
    exact Reads.append hname hbrace

lemma reads_closing {scope : Scope} (h : Plain scope.name) : Reads 1 0 scope.closing := by
  have hbrace : Reads 1 0 "\x7d // namespace " := fun _ => rfl
  unfold Scope.closing
  split
  · exact fun _ => rfl
  · exact (hbrace.append h.neutral).append (Plain.neutral (by decide))

/-- A chunk opens as many braces as it opens blocks. -/
lemma IsTidy.reads {c : Chunk} (h : c.IsTidy) {next stack stack' : List Scope}
    (hread : c.read next stack = some stack') : Reads stack.length stack'.length c.text := by
  cases c with
  | opening scope =>
    cases hread
    rw [List.length_append]
    exact (reads_opening h).deeper stack.length
  | closing scope =>
    rw [read] at hread
    split at hread
    · rename_i hlast
      cases hread
      obtain ⟨front, rfl⟩ := List.getLast?_eq_some_iff.mp hlast.1
      rw [List.length_append, List.dropLast_concat]
      exact (reads_closing h).deeper front.length
    · cases hread
  | gap =>
    cases hread
    exact Neutral.at (Plain.neutral (by decide)) _
  | declaration d =>
    rw [read] at hread
    split at hread
    · cases hread
      exact Neutral.at (Neutral.behind h (by decide)) _
    · cases hread

/-- Chunks that nest open and close braces as they open and close blocks. -/
lemma reads_of_readAll {chunks : List Chunk} (h : ∀ c ∈ chunks, c.IsTidy)
    {stack stack' : List Scope} (hread : readAll stack chunks = some stack') :
    Reads stack.length stack'.length (String.join (chunks.map text)) := by
  induction chunks generalizing stack with
  | nil =>
    cases hread
    exact neutral_empty.at _
  | cons c rest ih =>
    rw [readAll] at hread
    obtain ⟨next, hfirst, hrest⟩ := Option.bind_eq_some_iff.mp hread
    rw [List.map_cons, String.join_cons]
    exact ((h c List.mem_cons_self).reads hfirst).append
      (ih (fun x hx => h x (List.mem_cons_of_mem c hx)) hrest)

end Chunk

namespace SourceFile
open Chunk

variable {current : List Scope}

lemma tidy_chunksOf (hcurrent : ∀ scope ∈ current, Plain scope.name) (separated : Bool)
    {d : Declaration} (h : d.IsTidy) : ∀ c ∈ chunksOf current separated d, c.IsTidy := by
  intro c hc
  simp only [chunksOf, List.mem_append, List.mem_map, List.mem_reverse, List.mem_singleton] at hc
  rcases hc with ((⟨scope, hscope, rfl⟩ | hgap) | ⟨scope, hscope, rfl⟩) | rfl
  · exact hcurrent scope (List.mem_of_mem_drop hscope)
  · split at hgap
    · rw [List.mem_singleton.mp hgap]
      trivial
    · cases hgap
  · exact h.scopes scope (List.mem_of_mem_drop hscope)
  · exact h.neutral.source

lemma tidy_lineChunks (hcurrent : ∀ scope ∈ current, Plain scope.name) (separated : Bool)
    {line : List Declaration} (h : ∀ d ∈ line, d.IsTidy) :
    ∀ c ∈ lineChunks current separated line, c.IsTidy := by
  induction line generalizing current separated with
  | nil => exact fun c hc => absurd hc List.not_mem_nil
  | cons d rest ih =>
    have hd := h d List.mem_cons_self
    intro c hc
    rw [lineChunks] at hc
    rcases List.mem_append.mp hc with hc | hc
    · exact tidy_chunksOf hcurrent separated hd c hc
    · exact ih hd.scopes false (fun x hx => h x (List.mem_cons_of_mem d hx)) c hc

lemma plain_openAfter (hcurrent : ∀ scope ∈ current, Plain scope.name) {line : List Declaration}
    (h : ∀ d ∈ line, d.IsTidy) : ∀ scope ∈ openAfter current line, Plain scope.name := by
  unfold openAfter
  split
  · rename_i d hlast
    exact (h d (List.mem_of_getLast? hlast)).scopes
  · exact hcurrent

lemma tidy_chunksFrom (hcurrent : ∀ scope ∈ current, Plain scope.name) (separated : Bool)
    {lines : List (List Declaration)} (h : ∀ line ∈ lines, ∀ d ∈ line, d.IsTidy) :
    ∀ c ∈ chunksFrom current separated lines, c.IsTidy := by
  induction lines generalizing current separated with
  | nil =>
    intro c hc
    obtain ⟨scope, hscope, rfl⟩ := List.mem_map.mp hc
    exact hcurrent scope (List.mem_reverse.mp hscope)
  | cons line rest ih =>
    have hline := h line List.mem_cons_self
    intro c hc
    rw [chunksFrom] at hc
    rcases List.mem_append.mp hc with hc | hc
    · exact tidy_lineChunks hcurrent separated hline c hc
    · exact ih (plain_openAfter hcurrent hline) _
        (fun x hx => h x (List.mem_cons_of_mem line hx)) c hc

/-- All declarations of a file can be written without harm. -/
def IsTidy (f : SourceFile) : Prop := f.lines.Forall fun line => ∀ d ∈ line, d.IsTidy

variable {f : SourceFile}

lemma IsTidy.neutral_render (h : f.IsTidy) : Neutral f.render := by
  refine reads_of_readAll ?_ (readAll_chunksFrom [] false _)
  refine tidy_chunksFrom (fun scope hscope => absurd hscope List.not_mem_nil) false ?_
  intro line hline
  obtain ⟨e, he, rfl⟩ := List.mem_map.mp hline
  exact h e he

lemma empty_tidy (cap : Nat) : (empty cap).IsTidy := fun _ h => absurd h List.not_mem_nil

lemma IsTidy.add (h : f.IsTidy) (line : UInt64) {d : Declaration} (hd : d.IsTidy) :
    (f.add line d).1.IsTidy := by
  unfold SourceFile.add
  dsimp only
  split
  · exact SortedMap.Forall.alter h fun _ => Declaration.forall_getD
  · refine SortedMap.Forall.alter h fun present hpresent x hx => ?_
    rcases List.mem_append.mp hx with hx | hx
    · exact Declaration.forall_getD hpresent x hx
    · rw [List.mem_singleton.mp hx]
      exact hd

lemma IsTidy.modify (h : f.IsTidy) (line : UInt64) (index : Nat) {g : Declaration → Declaration}
    (hg : ∀ d, d.IsTidy → (g d).IsTidy) : (f.modify line index g).IsTidy := by
  unfold SourceFile.modify
  split
  · refine SortedMap.Forall.alter h fun present hpresent x hx => ?_
    obtain ⟨i, hi⟩ := List.mem_iff_getElem?.mp hx
    rw [List.getElem?_modify] at hi
    obtain ⟨d, hd, rfl⟩ := Option.map_eq_some_iff.mp hi
    have htidy := Declaration.forall_getD hpresent d (List.mem_of_getElem? hd)
    split
    · exact hg d htidy
    · exact htidy
  · exact h

end SourceFile

namespace Registry

/-- All declarations of all files can be written without harm. -/
def IsTidy (r : Registry) : Prop := r.files.Forall SourceFile.IsTidy

variable {t : EntryTree} {r r' : Registry}

lemma IsTidy.find? (h : r.IsTidy) {file : String} {f : SourceFile}
    (hf : r.files.find? file = some f) : f.IsTidy := by
  obtain ⟨front, back, hentries, -⟩ := List.lookup_eq_some_iff.mp hf
  exact h (file, f) (by simp [hentries])

lemma IsTidy.modify (h : r.IsTidy) (l : Location) {g : Declaration → Declaration}
    (hg : ∀ d, d.IsTidy → (g d).IsTidy) : (r.modify l g).IsTidy := by
  unfold Registry.modify
  split
  · rename_i f hf
    exact SortedMap.Forall.alter h fun _ _ => (h.find? hf).modify _ _ hg
  · exact h

lemma IsTidy.store (h : r.IsTidy) (file : String) (line : UInt64) {d : Declaration}
    (hd : d.IsTidy) : (r.store file line d).1.IsTidy := by
  have hfile : ((r.files.find? file).getD (.empty r.options.maxEntriesPerLine)).IsTidy := by
    cases hf : r.files.find? file with
    | none => exact SourceFile.empty_tidy _
    | some f => exact h.find? hf
  unfold Registry.store
  dsimp only
  split
  · exact SortedMap.Forall.alter h fun _ _ => hfile.modify _ _ fun present hp => hp.merge hd
  · exact SortedMap.Forall.alter h fun _ _ => hfile.add _ hd

variable (hfree : t.BraceFree)
include hfree

lemma IsTidy.mergeReading (h : r.IsTidy) {l : Location} {node : NodeId}
    (hmerge : r.mergeReading t l node = some r') : r'.IsTidy := by
  rcases mergeReading_cases hmerge with ⟨present, again, -, hread, rfl⟩ | ⟨-, rfl⟩
  · exact h.modify l fun d hd => hd.merge (Declaration.ofEntry?_tidy hfree hread)
  · exact h

lemma IsTidy.getOrCreate (h : r.IsTidy) {node : NodeId} {scopes : List Scope}
    (hscopes : ∀ scope ∈ scopes, Plain scope.name) {l? : Option Location}
    (hget : r.getOrCreate t node scopes = some (r', l?)) : r'.IsTidy := by
  rcases getOrCreate_cases hget with ⟨l, -, -, hmerge⟩ | ⟨-, ⟨-, rfl, -⟩ | hread⟩
  · exact h.mergeReading hfree hmerge
  · exact h
  · obtain ⟨kind, file, line, d, -, hread, ⟨-, rfl, -⟩ | ⟨-, r₁, hstore, rfl⟩⟩ := hread
    · exact h
    · have htidy : (d.setScopes scopes).IsTidy :=
        ⟨(Declaration.ofEntry?_neutral hfree hread).setScopes scopes, by
          rwa [Declaration.scopes_setScopes]⟩
      have hstored := h.store file line htidy
      rw [hstore] at hstored
      cases l? <;> exact hstored

lemma IsTidy.visit (h : r.IsTidy) {child : NodeId} {scopes : List Scope}
    (hscopes : ∀ scope ∈ scopes, Plain scope.name)
    (hvisit : visit t scopes r child = some r') : r'.IsTidy := by
  obtain ⟨r₁, l?, hget, hrest⟩ := visit_cases hvisit
  have hfirst := h.getOrCreate hfree hscopes hget
  rcases hrest with ⟨-, rfl⟩ | ⟨l, -, ⟨-, rfl⟩ | ⟨-, hmerge⟩⟩
  · exact hfirst
  · exact hfirst
  · exact hfirst.mergeReading hfree hmerge

/-- A walk enters namespaces, whose names are as plain as all others. -/
lemma IsTidy.walk (h : r.IsTidy) {fuel : Nat} {scopes : List Scope} {node : NodeId}
    (hscopes : ∀ scope ∈ scopes, Plain scope.name)
    (hwalk : walk t fuel scopes node r = some r') : r'.IsTidy := by
  induction fuel generalizing scopes node r r' with
  | zero =>
    cases hwalk
    exact h
  | succ fuel ih =>
    rw [Registry.walk] at hwalk
    refine foldlM_chain (R := fun r r' => r.IsTidy → r'.IsTidy) (fun _ => id)
      (fun h h' => h' ∘ h) ?_ hwalk h
    intro r r' child hchild h
    split at hchild
    · refine ih h (fun scope hscope => ?_) hchild
      rcases List.mem_append.mp hscope with hscope | hscope
      · exact hscopes scope hscope
      · rw [List.mem_singleton.mp hscope]
        exact hfree.nameOf child
    · exact h.visit hfree hscopes hchild

/-- The step: collecting a unit keeps the invariant. -/
lemma IsTidy.update (h : r.IsTidy) {root : NodeId} (hupdate : r.update t root = some r') :
    r'.IsTidy := by
  unfold Registry.update at hupdate
  split at hupdate
  · split at hupdate
    · rename_i name directory _ _
      have hnarrow : IsTidy { r with baseDir := narrow r.baseDir (unitDirectory name directory) } :=
        h
      exact hnarrow.walk hfree (fun _ hscope => absurd hscope List.not_mem_nil) hupdate
    · cases hupdate
      exact h
  · cases hupdate
    exact h

omit hfree

/-- One unit is collected, of a program without braces and quotes in its strings. -/
def Collects (r r' : Registry) : Prop :=
  ∃ t root, EntryTree.BraceFree t ∧ r.update t root = some r'

/-- From the step, by induction, the run. -/
lemma IsTidy.run (h : r.IsTidy) (run : Relation.ReflTransGen Collects r r') : r'.IsTidy := by
  induction run with
  | refl => exact h
  | tail _ step ih =>
    obtain ⟨t, root, hfree, hupdate⟩ := step
    exact ih.update hfree hupdate

/-- Whatever units are collected, every header closes the braces that it opens, none of them too
early; and so does the text of every declaration that is read, however many unnamed definitions
are spelled out inside each other. -/
theorem run_balanced {options : Options}
    (run : Relation.ReflTransGen Collects (empty options) r) :
    (∀ path f, (path, f) ∈ r.files.entries → Balanced f.render) ∧
      ∀ t, EntryTree.BraceFree t → ∀ kind node d,
        Declaration.ofEntry? t options kind node = some d → Balanced d.source := by
  have htidy : r.IsTidy := IsTidy.run (fun _ h => absurd h List.not_mem_nil) run
  exact ⟨fun path f hf => (htidy (path, f) hf).neutral_render.balanced,
    fun t hfree kind node d hread => (Declaration.ofEntry?_neutral hfree hread).source.balanced⟩

/-- An alias of an unnamed type and a variable that starts as a closing brace, in a namespace. -/
def quotedBrace : EntryTree :=
  let (b, root) := TreeBuilder.start.compileUnit "a.cpp" "/src"
  let (b, char) := b.baseType root "char" 1 6
  let (b, app) := b.child root .namespaceScope
  let (b, type) := (b.name app "app").child app .structureType
  let (b, marks) := b.child app .typedef
  let b := (((b.name marks "marks").typeRef marks type).declaredAt marks "/src/marks.h" 3)
  let (b, close) := b.child app .dataVariable
  ((((b.name close "close").typeRef close char).declaredAt close "/src/marks.h" 5).unsigned close
    .constantValue 0x7d).tree

/-- What is collected of it; the unnamed type is spelled out behind its alias. -/
def quotedMarks : SourceFile :=
  let placement : Placement := { scopes := [⟨"app", false⟩] }
  let marks : Typedef :=
    { placement, names := ["marks"], target := "struct \x7b\n\x7d", inlined := some ⟨.info, 14⟩ }
  let close : Field :=
    { placement, name := "close", type := .plain "char", defaultValue := some (.unsigned 0x7d)
      isStatic := true, isVariable := true }
  ⟨⟨[(3, [.typedef marks]), (5, [.field close])]⟩, 16⟩

/-- The brace in the literal is not counted; all others are closed. -/
theorem quotedBrace_balanced : ∃ r, (empty {}).update quotedBrace 0 = some r ∧
    r.files = ⟨[("/src/marks.h", quotedMarks)]⟩ ∧
    quotedMarks.render = "namespace app \x7b\ntypedef struct \x7b\n\x7d marks;\n\n" ++
      "static char close = '\x7d';\n\x7d // namespace app\n" ∧
    quotedBrace.BraceFree ∧ Balanced quotedMarks.render ∧
    ∀ kind node d, Declaration.ofEntry? quotedBrace {} kind node = some d → Balanced d.source := by
  have hread : ((empty {}).update quotedBrace 0).map (·.files) =
      some ⟨[("/src/marks.h", quotedMarks)]⟩ := by cbv
  have htext : quotedMarks.render =
      "namespace app \x7b\ntypedef struct \x7b\n\x7d marks;\n\n" ++
        "static char close = '\x7d';\n\x7d // namespace app\n" := by decide
  have hfree : quotedBrace.BraceFree := by cbv
  obtain ⟨r, hr, hfiles⟩ := Option.map_eq_some_iff.mp hread
  obtain ⟨hheaders, hsources⟩ := run_balanced (.single ⟨quotedBrace, 0, hfree, hr⟩)
  exact ⟨r, hr, hfiles, htext, hfree, hheaders "/src/marks.h" quotedMarks (by simp [hfiles]),
    hsources quotedBrace hfree⟩

end Registry

end HeaderRecovery
