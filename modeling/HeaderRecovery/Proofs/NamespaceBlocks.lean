import HeaderRecovery.Proofs.Buckets

/-!
Namespace blocks of a header. A machine reads the chunks of a file with the open blocks on a
stack; it refuses whatever does not nest. Every file is read to its end, and between the blocks
stand its declarations in the order of their places.
-/
namespace HeaderRecovery

namespace Chunk

def declaration? : Chunk → Option Declaration
  | declaration d => some d
  | _ => none

/-- The namespaces of the declaration that comes next; none are left to come at the end. -/
def nextScopes : List Chunk → List Scope
  | [] => []
  | declaration d :: _ => d.scopes
  | _ :: rest => nextScopes rest

/-- One chunk read with the blocks `stack` open, the innermost last, before a declaration in the
namespaces `next`. What is closed must be the innermost block and not hold the next declaration;
a declaration must stand in the blocks that are open. -/
def read (next stack : List Scope) : Chunk → Option (List Scope)
  | opening scope => some (stack ++ [scope])
  | closing scope =>
    if stack.getLast? = some scope ∧ ¬ stack <+: next then some stack.dropLast else none
  | gap => some stack
  | declaration d => if stack = d.scopes then some stack else none

/-- The blocks that are open behind a list of chunks; none if the chunks do not nest. -/
def readAll : List Scope → List Chunk → Option (List Scope)
  | stack, [] => some stack
  | stack, c :: rest => (c.read (nextScopes rest) stack).bind fun stack => readAll stack rest

lemma nextScopes_closings (scopes : List Scope) (rest : List Chunk) :
    nextScopes (scopes.map closing ++ rest) = nextScopes rest := by
  induction scopes with
  | nil => rfl
  | cons s scopes ih => exact ih

lemma nextScopes_openings (scopes : List Scope) (rest : List Chunk) :
    nextScopes (scopes.map opening ++ rest) = nextScopes rest := by
  induction scopes with
  | nil => rfl
  | cons s scopes ih => exact ih

lemma readAll_openings (stack scopes : List Scope) (rest : List Chunk) :
    readAll stack (scopes.map opening ++ rest) = readAll (stack ++ scopes) rest := by
  induction scopes generalizing stack with
  | nil => simp
  | cons s scopes ih =>
    have hfirst : readAll stack ((s :: scopes).map opening ++ rest) =
        readAll (stack ++ [s]) (scopes.map opening ++ rest) := rfl
    rw [hfirst, ih, List.append_assoc, List.singleton_append]

/-- Blocks can be closed from the inside if the next declaration is in none of them. -/
lemma readAll_closings (stack scopes : List Scope) (rest : List Chunk)
    (hnext : ∀ kept, kept ≠ [] → kept <+: scopes → ¬ stack ++ kept <+: nextScopes rest) :
    readAll (stack ++ scopes) (scopes.reverse.map closing ++ rest) = readAll stack rest := by
  induction scopes using List.reverseRecOn with
  | nil => simp
  | append_singleton scopes s ih =>
    have hclosed : ¬ stack ++ (scopes ++ [s]) <+: nextScopes rest :=
      hnext _ (by simp) (List.prefix_refl _)
    have hread : (closing s).read (nextScopes (scopes.reverse.map closing ++ rest))
        (stack ++ (scopes ++ [s])) = some (stack ++ scopes) := by
      rw [nextScopes_closings, read, if_pos ⟨by simp, hclosed⟩]
      simp [← List.append_assoc]
    rw [List.reverse_append, List.reverse_singleton, List.singleton_append, List.map_cons,
      List.cons_append, readAll, hread, Option.bind_some]
    refine ih fun kept hkept hfront => hnext kept hkept ?_
    exact hfront.trans (List.prefix_append _ _)

end Chunk

namespace SourceFile
open Chunk

/-! What two paths share -/

lemma take_sharedScopes (a b : List Scope) :
    a.take (sharedScopes a b) = b.take (sharedScopes a b) := by
  induction a generalizing b with
  | nil => simp [sharedScopes]
  | cons s a ih =>
    cases b with
    | nil => simp [sharedScopes]
    | cons u b =>
      by_cases h : s = u
      · simp [sharedScopes, h, ih b]
      · simp [sharedScopes, h]

/-- No longer path is shared. -/
lemma length_le_sharedScopes {a b path : List Scope} (ha : path <+: a) (hb : path <+: b) :
    path.length ≤ sharedScopes a b := by
  induction path generalizing a b with
  | nil => exact Nat.zero_le _
  | cons s path ih =>
    obtain ⟨a', rfl⟩ := ha
    obtain ⟨b', rfl⟩ := hb
    simpa [sharedScopes] using ih (List.prefix_append path a') (List.prefix_append path b')

lemma sharedScopes_le (a b : List Scope) : sharedScopes a b ≤ a.length := by
  induction a generalizing b with
  | nil => simp [sharedScopes]
  | cons s a ih =>
    cases b with
    | nil => simp [sharedScopes]
    | cons u b =>
      by_cases h : s = u
      · simpa [sharedScopes, h] using ih b
      · simp [sharedScopes, h]

/-! Reading a file -/

/-- The step: from one declaration to the next, whatever their namespaces are. -/
lemma readAll_chunksOf (current : List Scope) (separated : Bool) (d : Declaration)
    (rest : List Chunk) :
    readAll current (chunksOf current separated d ++ rest) = readAll d.scopes rest := by
  generalize hn : sharedScopes current d.scopes = n
  have hle : n ≤ current.length := hn ▸ sharedScopes_le _ _
  have htake : current.take n = d.scopes.take n := hn ▸ take_sharedScopes _ _
  let behind := (if separated then [gap] else []) ++
    ((d.scopes.drop n).map opening ++ ([declaration d] ++ rest))
  have hchunks : chunksOf current separated d ++ rest =
      (current.drop n).reverse.map closing ++ behind := by
    simp [chunksOf, hn, behind]
  have hnext : nextScopes behind = d.scopes := by
    have hopened : nextScopes ((d.scopes.drop n).map opening ++ ([declaration d] ++ rest)) =
        d.scopes := nextScopes_openings _ _
    cases separated <;> exact hopened
  have hclosed : ∀ kept, kept ≠ [] → kept <+: current.drop n →
      ¬ current.take n ++ kept <+: nextScopes behind := by
    intro kept hkept hfront hshared
    rw [hnext] at hshared
    -- What is still open would be shared, and that goes no further than `n`.
    have hcurrent : current.take n ++ kept <+: current := by
      have h := (List.prefix_append_right_inj (current.take n)).mpr hfront
      rwa [List.take_append_drop] at h
    have hlength := length_le_sharedScopes hcurrent hshared
    rw [hn, List.length_append, List.length_take_of_le hle] at hlength
    exact hkept (List.length_eq_zero_iff.mp (by omega))
  have hgap : readAll (current.take n) behind =
      readAll (current.take n) ((d.scopes.drop n).map opening ++ ([declaration d] ++ rest)) := by
    cases separated <;> rfl
  calc readAll current (chunksOf current separated d ++ rest)
      = readAll (current.take n ++ current.drop n)
          ((current.drop n).reverse.map closing ++ behind) := by
        rw [List.take_append_drop, hchunks]
    _ = readAll (current.take n) behind := readAll_closings _ _ _ hclosed
    _ = readAll (d.scopes.take n ++ d.scopes.drop n) ([declaration d] ++ rest) := by
        rw [hgap, readAll_openings, htake]
    _ = readAll d.scopes rest := by
        rw [List.take_append_drop, List.singleton_append, readAll, Chunk.read, if_pos rfl]
        rfl

lemma openAfter_cons (current : List Scope) (d : Declaration) (line : List Declaration) :
    openAfter current (d :: line) = openAfter d.scopes line := by
  cases line with
  | nil => rfl
  | cons e line =>
    rw [openAfter, openAfter, List.getLast?_cons_cons]
    cases hlast : (e :: line).getLast? with
    | none => simp at hlast
    | some last => rfl

lemma readAll_lineChunks (current : List Scope) (separated : Bool) (line : List Declaration)
    (rest : List Chunk) :
    readAll current (lineChunks current separated line ++ rest) =
      readAll (openAfter current line) rest := by
  induction line generalizing current separated with
  | nil => rfl
  | cons d line ih =>
    rw [lineChunks, List.append_assoc, readAll_chunksOf, ih, openAfter_cons]

lemma readAll_chunksFrom (current : List Scope) (separated : Bool)
    (lines : List (List Declaration)) :
    readAll current (chunksFrom current separated lines) = some [] := by
  induction lines generalizing current separated with
  | nil =>
    have hclosed := readAll_closings [] current [] fun kept hkept _ hfront =>
      hkept (List.prefix_nil.mp hfront)
    simpa [chunksFrom, readAll] using hclosed
  | cons line rest ih => rw [chunksFrom, readAll_lineChunks, ih]

/-! The declarations of a file -/

lemma declarations_chunksOf (current : List Scope) (separated : Bool) (d : Declaration) :
    (chunksOf current separated d).filterMap declaration? = [d] := by
  have hclosings : ∀ scopes : List Scope, (scopes.map closing).filterMap declaration? = [] := by
    simp [declaration?]
  have hopenings : ∀ scopes : List Scope, (scopes.map opening).filterMap declaration? = [] := by
    simp [declaration?]
  cases separated <;>
    simp only [chunksOf, List.filterMap_append, hclosings, hopenings] <;> rfl

lemma declarations_lineChunks (current : List Scope) (separated : Bool)
    (line : List Declaration) :
    (lineChunks current separated line).filterMap declaration? = line := by
  induction line generalizing current separated with
  | nil => rfl
  | cons d line ih =>
    rw [lineChunks, List.filterMap_append, declarations_chunksOf, ih, List.singleton_append]

lemma declarations_chunksFrom (current : List Scope) (separated : Bool)
    (lines : List (List Declaration)) :
    (chunksFrom current separated lines).filterMap declaration? = lines.flatten := by
  induction lines generalizing current separated with
  | nil => simp [chunksFrom, declaration?]
  | cons line rest ih =>
    rw [chunksFrom, List.filterMap_append, declarations_lineChunks, ih, List.flatten_cons]

/-- Lines and indexes of the declarations of a file, line by line. -/
def places (f : SourceFile) : List (UInt64 × Nat) :=
  f.lines.entries.flatMap fun e => (List.range e.2.length).map fun index => (e.1, index)

/-- The order of lines, and of indexes on a line. -/
def Earlier (a b : UInt64 × Nat) : Prop := a.1 < b.1 ∨ a.1 = b.1 ∧ a.2 < b.2

variable {f : SourceFile}

lemma mem_places (h : f.lines.Ascending) {line : UInt64} {index : Nat} :
    (line, index) ∈ f.places ↔ (f.get? line index).isSome := by
  simp only [places, List.mem_flatMap, List.mem_map, List.mem_range, get?, SourceFile.line]
  constructor
  · rintro ⟨⟨k, group⟩, hgroup, i, hi, heq⟩
    cases heq
    rw [(SortedMap.mem_entries_iff h).mp hgroup]
    simpa using hi
  · intro hsome
    cases hgroup : f.lines.find? line with
    | none => simp [hgroup] at hsome
    | some group =>
      refine ⟨(line, group), (SortedMap.mem_entries_iff h).mpr hgroup, index, ?_, rfl⟩
      simpa [hgroup] using hsome

lemma places_ordered (h : f.lines.Ascending) : f.places.Pairwise Earlier := by
  refine List.pairwise_flatMap.mpr ⟨?_, ?_⟩
  · rintro ⟨line, group⟩ -
    rw [List.pairwise_map]
    exact List.pairwise_lt_range.imp fun hlt => Or.inr ⟨rfl, hlt⟩
  · refine List.Pairwise.imp ?_ h
    rintro ⟨line, group⟩ ⟨line', group'⟩ hlt a ha b hb
    obtain ⟨i, -, rfl⟩ := List.mem_map.mp ha
    obtain ⟨j, -, rfl⟩ := List.mem_map.mp hb
    exact Or.inl hlt

lemma get?_places (h : f.lines.Ascending) :
    f.places.map (fun place => f.get? place.1 place.2) = f.lines.values.flatten.map some := by
  have hgroup : ∀ e ∈ f.lines.entries, ((List.range e.2.length).map fun index => (e.1, index)).map
      (fun place => f.get? place.1 place.2) = e.2.map some := by
    rintro ⟨line, group⟩ hmem
    have hline : f.line line = group := by
      rw [SourceFile.line, (SortedMap.mem_entries_iff h).mp hmem, Option.getD_some]
    refine List.ext_getElem (by simp) fun i hi _ => ?_
    have hlt : i < group.length := by simpa using hi
    simp [get?, hline, hlt]
  rw [places, List.map_flatMap, SortedMap.values, ← List.flatMap_def, List.map_flatMap]
  exact List.flatMap_congr hgroup

/-- The chunks of a file nest, and all blocks are closed in the end; the declarations between
them are all that the file holds, each at its place, line by line and in the order of a line. -/
theorem chunks_nest (h : f.lines.Ascending) :
    readAll [] f.chunks = some [] ∧
    ∃ places : List (UInt64 × Nat), places.Pairwise Earlier ∧
      (∀ line index, (line, index) ∈ places ↔ (f.get? line index).isSome) ∧
      (f.chunks.filterMap declaration?).map some =
        places.map fun place => f.get? place.1 place.2 := by
  refine ⟨readAll_chunksFrom [] false f.lines.values, f.places, places_ordered h,
    fun line index => mem_places h, ?_⟩
  rw [get?_places h, chunks, declarations_chunksFrom]

/-- Imports outside of all blocks, below an inline and an anonymous one, and below one that is
named like the inline one. -/
def nestedImports : SourceFile :=
  let lib := Scope.mk "lib" false
  let declare := fun (f : SourceFile) (line : UInt64) (scopes : List Scope) (target : String) =>
    (f.add line (.nameImport { placement := { scopes }, target })).1
  let f := declare (.empty 8) 9 [lib, ⟨"v1", true⟩] "std"
  let f := declare f 9 [lib, ⟨"v1", true⟩, ⟨"", false⟩] "detail"
  let f := declare f 12 [lib, ⟨"v1", false⟩] "old"
  declare f 3 [] "chrono"

/-- Each block is opened where it is needed and closed where the next import is outside of it. -/
theorem nestedImports_nest :
    nestedImports.render = "using namespace chrono;\n\nnamespace lib \x7b\n" ++
      "inline namespace v1 \x7b\nusing namespace std;\nnamespace \x7b\nusing namespace detail;\n" ++
      "\x7d // namespace\n\x7d // namespace v1\n\nnamespace v1 \x7b\nusing namespace old;\n" ++
      "\x7d // namespace v1\n\x7d // namespace lib\n" ∧
    readAll [] nestedImports.chunks = some [] ∧
    ∃ places : List (UInt64 × Nat), places.Pairwise Earlier ∧
      (∀ line index, (line, index) ∈ places ↔ (nestedImports.get? line index).isSome) ∧
      (nestedImports.chunks.filterMap declaration?).map some =
        places.map fun place => nestedImports.get? place.1 place.2 := by
  have hempty : (SourceFile.empty 8).lines.Ascending := SortedMap.empty_ascending
  have hascending : nestedImports.lines.Ascending :=
    add_ascending (add_ascending (add_ascending (add_ascending hempty _ _) _ _) _ _) _ _
  exact ⟨by decide +kernel, chunks_nest hascending⟩

end SourceFile
end HeaderRecovery
