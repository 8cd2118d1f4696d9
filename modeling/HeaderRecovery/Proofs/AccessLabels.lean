import Mathlib
import HeaderRecovery.Proofs.Braces
import HeaderRecovery.Proofs.NormalPaths

/-!
Reading the body of an aggregate for its access labels. A label stands at the margin and the lines
of a member stand one level further in, also where the member has labels of its own, so a reader
who keeps the last label in mind finds the members' lines again, each with the access of its
member. Main statement: the body reads as exactly these lines, in order, with a label wherever
the access changes and nowhere else.
-/
namespace HeaderRecovery

namespace Text

/-- A line that can be printed and found again as it is. -/
def IsLine (line : String) : Prop := '\n' ∉ line.toList ∧ '\r' ∉ line.toList

lemma dropReturn_of_notMem {cs : List Char} (h : '\r' ∉ cs) : dropReturn cs = cs := by
  rw [dropReturn, if_neg]
  exact fun hlast => h (List.mem_of_getLast? hlast)

lemma closeLines_append {pieces : List (List Char)} (h : ∀ piece ∈ pieces, '\r' ∉ piece) :
    closeLines (pieces ++ [[]]) = pieces := by
  induction pieces with
  | nil => rfl
  | cons piece rest ih =>
    obtain ⟨next, others, hrest⟩ := List.exists_cons_of_ne_nil (l := rest ++ [[]]) (by simp)
    have hclose : closeLines (piece :: rest ++ [[]]) =
        dropReturn piece :: closeLines (rest ++ [[]]) := by
      rw [List.cons_append, hrest]
      rfl
    rw [hclose, dropReturn_of_notMem (h piece List.mem_cons_self),
      ih fun other hother => h other (List.mem_cons_of_mem piece hother)]

lemma toList_ofLines (lines : List String) :
    (ofLines lines).toList = ['\n'].intercalate (lines.map String.toList ++ [[]]) := by
  induction lines with
  | nil => rfl
  | cons line rest ih =>
    obtain ⟨next, others, hrest⟩ :=
      List.exists_cons_of_ne_nil (l := rest.map String.toList ++ [[]]) (by simp)
    rw [toList_ofLines_cons, ih, List.map_cons, List.cons_append, hrest,
      List.intercalate_cons_cons]
    simp

/-- Printed lines are read back. -/
lemma lines_ofLines {ls : List String} (h : ∀ line ∈ ls, IsLine line) :
    lines (ofLines ls) = ls := by
  have hsplit : (ofLines ls).toList.splitOn '\n' = ls.map String.toList ++ [[]] := by
    rw [toList_ofLines]
    refine List.splitOn_intercalate '\n' ?_ (by simp)
    intro piece hpiece
    rcases List.mem_append.mp hpiece with hpiece | hpiece
    · obtain ⟨line, hline, rfl⟩ := List.mem_map.mp hpiece
      exact (h line hline).1
    · rw [List.mem_singleton.mp hpiece]
      exact List.not_mem_nil
  have hreturn : ∀ piece ∈ ls.map String.toList, '\r' ∉ piece := by
    intro piece hpiece
    obtain ⟨line, hline, rfl⟩ := List.mem_map.mp hpiece
    exact (h line hline).2
  rw [lines, hsplit, closeLines_append hreturn, List.map_map]
  simp

lemma mem_closeLines {pieces : List (List Char)} {piece : List Char}
    (hreturn : ∀ piece ∈ pieces, '\r' ∉ piece) (h : piece ∈ closeLines pieces) :
    piece ∈ pieces := by
  induction pieces with
  | nil => exact h
  | cons first rest ih =>
    cases rest with
    | nil =>
      rw [closeLines] at h
      split at h
      · exact absurd h List.not_mem_nil
      · exact h
    | cons next rest =>
      have hclose : closeLines (first :: next :: rest) =
          dropReturn first :: closeLines (next :: rest) := rfl
      rw [hclose, dropReturn_of_notMem (hreturn first List.mem_cons_self)] at h
      rcases List.mem_cons.mp h with rfl | h
      · exact List.mem_cons_self
      · exact List.mem_cons_of_mem first
          (ih (fun other hother => hreturn other (List.mem_cons_of_mem first hother)) h)

lemma pieces_notMem_return {text : String} (h : '\r' ∉ text.toList) :
    ∀ piece ∈ text.toList.splitOn '\n', '\r' ∉ piece :=
  fun _ hpiece hmem => h ((Path.mem_splitOn hpiece).2 _ hmem)

lemma isLine_of_mem_lines {text line : String} (h : '\r' ∉ text.toList)
    (hline : line ∈ lines text) : IsLine line := by
  obtain ⟨piece, hpiece, rfl⟩ := List.mem_map.mp hline
  have hmem := mem_closeLines (pieces_notMem_return h) hpiece
  rw [IsLine, String.toList_ofList]
  exact ⟨(Path.mem_splitOn hmem).1, pieces_notMem_return h piece hmem⟩

lemma getLast?_closeLines {pieces : List (List Char)} (h : pieces.getLast? ≠ some []) :
    (closeLines pieces).getLast? = pieces.getLast? := by
  induction pieces with
  | nil => rfl
  | cons first rest ih =>
    cases rest with
    | nil =>
      have hfirst : first ≠ [] := by simpa using h
      rw [closeLines, if_neg hfirst]
    | cons next rest =>
      rw [List.getLast?_cons_cons] at h ⊢
      have hclose : closeLines (first :: next :: rest) =
          dropReturn first :: closeLines (next :: rest) := rfl
      rw [hclose, List.getLast?_cons, ih h]
      cases hlast : (next :: rest).getLast? with
      | none => simp at hlast
      | some last => rfl

lemma getLast?_ofLines_append (front : List String) (line : String) :
    (ofLines (front ++ [line])).toList.getLast? = some '\n' := by
  rw [ofLines_append, String.toList_append, toList_ofLines_cons]
  simp [ofLines]

/-- A text that ends in an empty stretch is empty or ends in a line feed. -/
lemma getLast?_splitOn_ne {text : String} (hempty : text ≠ "")
    (h : text.toList.getLast? ≠ some '\n') : (text.toList.splitOn '\n').getLast? ≠ some [] := by
  intro hlast
  obtain ⟨front, hfront⟩ := List.getLast?_eq_some_iff.mp hlast
  have htext : ofLines (front.map String.ofList) = text := by
    have hsplit : ['\n'].intercalate (text.toList.splitOn '\n') = text.toList :=
      List.intercalate_splitOn '\n'
    rw [← String.toList_inj, toList_ofLines, ← hsplit, hfront, List.map_map]
    simp
  cases front using List.reverseRecOn with
  | nil => exact hempty htext.symm
  | append_singleton front piece =>
    rw [List.map_append, List.map_singleton] at htext
    exact h (htext ▸ getLast?_ofLines_append _ _)

/-- The last line of a text that does not end in a line feed holds something. -/
lemma getLast?_lines_ne {text : String} (h : text.toList.getLast? ≠ some '\n') :
    (lines text).getLast? ≠ some "" := by
  rcases eq_or_ne text "" with rfl | hempty
  · decide
  have hpieces := getLast?_splitOn_ne hempty h
  rw [lines, List.getLast?_map, getLast?_closeLines hpieces]
  cases hlast : (text.toList.splitOn '\n').getLast? with
  | none => simp
  | some last =>
    rw [hlast] at hpieces
    simpa using hpieces

end Text

namespace Aggregate

/-- What a reader of a body sees: a label, or a line of a member with the access in force. -/
inductive BodyItem where
  | label (access : Access)
  | line (access : Access) (text : String)
  deriving DecidableEq, Repr

def BodyItem.line? : BodyItem → Option (Access × String)
  | .label _ => none
  | .line access text => some (access, text)

/-- The access that a label at the margin sets. -/
def labelOf? (line : String) : Option Access :=
  [Access.pub, .prot, .priv].find? fun access => line = access.keyword ++ ":"

/-- A line with one level of indentation taken away. -/
def outdent (line : String) : String :=
  match line.toList with
  | ' ' :: ' ' :: ' ' :: ' ' :: rest => String.ofList rest
  | _ => line

/-- Reads a body line by line with an access in force. An empty line directly before a label
belongs to the label. -/
def readItems : Access → List String → List BodyItem
  | _, [] => []
  | current, line :: rest =>
    match labelOf? line with
    | some access => .label access :: readItems access rest
    | none =>
      if line = "" ∧ (rest.head?.bind labelOf?).isSome then readItems current rest
      else .line current (outdent line) :: readItems current rest

/-- The members one after the other: a label where the access is not the one before, which for the
first member is the access in force; then the lines of the member. -/
def items (default current : Access) (members : List MemberText) : List BodyItem :=
  (members.zip (current :: members.map fun m => m.access.getD default)).flatMap fun (m, before) =>
    (if m.access.getD default = before then [] else [.label (m.access.getD default)]) ++
      (Text.lines m.text).map (.line (m.access.getD default))

variable {default current : Access} {isFirst : Bool}

/-! ### Reading what was laid out -/

@[simp] lemma labelOf?_keyword (access : Access) :
    labelOf? (access.keyword ++ ":") = some access := by
  cases access <;> decide

@[simp] lemma labelOf?_empty : labelOf? "" = none := by decide

lemma toList_indent {line : String} (h : line ≠ "") :
    (indent line).toList = ' ' :: ' ' :: ' ' :: ' ' :: line.toList := by
  rw [indent, if_neg h, String.toList_append]
  rfl

@[simp] lemma indent_eq_empty_iff {line : String} : indent line = "" ↔ line = "" := by
  refine ⟨fun h => ?_, fun h => by rw [indent, if_pos h]⟩
  by_contra hne
  have hlist := toList_indent hne
  rw [h] at hlist
  cases hlist

/-- What stands further in is no label. -/
@[simp] lemma labelOf?_indent (line : String) : labelOf? (indent line) = none := by
  rcases eq_or_ne line "" with rfl | hne
  · decide
  rw [labelOf?, List.find?_eq_none]
  intro access _ heq
  have hlist := toList_indent hne
  rw [of_decide_eq_true heq] at hlist
  cases access <;> cases hlist

@[simp] lemma outdent_indent (line : String) : outdent (indent line) = line := by
  rcases eq_or_ne line "" with rfl | hne
  · decide
  · rw [outdent, toList_indent hne]
    exact String.ofList_toList

lemma readItems_label (isFirst : Bool) (access : Access) (rest : List String) :
    readItems current (label isFirst access ++ rest) = .label access :: readItems access rest := by
  cases isFirst <;> simp [label, readItems]

/-- The lines of a member are read with the access in force. -/
lemma readItems_member {lines : List String} (h : lines.getLast? ≠ some "") (rest : List String) :
    readItems current (lines.map indent ++ rest) =
      lines.map (.line current) ++ readItems current rest := by
  induction lines with
  | nil => rfl
  | cons line lines ih =>
    have hkept : ¬ (indent line = "" ∧
        ((lines.map indent ++ rest).head?.bind labelOf?).isSome) := by
      rintro ⟨hempty, hlabel⟩
      cases lines with
      | nil => exact h (by rw [indent_eq_empty_iff.mp hempty]; rfl)
      | cons next lines => simp at hlabel
    have hrest : lines.getLast? ≠ some "" := by
      cases lines with
      | nil => simp
      | cons next lines => rwa [List.getLast?_cons_cons] at h
    rw [List.map_cons, List.cons_append, readItems, labelOf?_indent]
    simp only [if_neg hkept, outdent_indent, ih hrest]
    rfl

lemma items_cons (m : MemberText) (members : List MemberText) :
    items default current (m :: members) =
      (if m.access.getD default = current then [] else [.label (m.access.getD default)]) ++
        (Text.lines m.text).map (.line (m.access.getD default)) ++
        items default (m.access.getD default) members := rfl

lemma groupLines_cons (m : MemberText) (members : List MemberText) :
    (groupLines default isFirst current (m :: members)).1 =
      (if m.access.getD default = current then [] else label isFirst (m.access.getD default)) ++
        (Text.lines m.text).map indent ++
        (groupLines default isFirst (m.access.getD default) members).1 := rfl

/-- The lines of a group are read as its members, and behind them the access of the last one is
in force. -/
lemma readItems_group {members : List MemberText}
    (h : ∀ m ∈ members, (Text.lines m.text).getLast? ≠ some "") (later : List MemberText)
    {rest : List String}
    (hrest : readItems (groupLines default isFirst current members).2 rest =
      items default (groupLines default isFirst current members).2 later) :
    readItems current ((groupLines default isFirst current members).1 ++ rest) =
      items default current (members ++ later) := by
  induction members generalizing current with
  | nil => exact hrest
  | cons m members ih =>
    have htail := ih (fun m' hm' => h m' (List.mem_cons_of_mem m hm')) hrest
    have hmember : readItems (m.access.getD default) ((Text.lines m.text).map indent ++
        ((groupLines default isFirst (m.access.getD default) members).1 ++ rest)) =
          (Text.lines m.text).map (.line (m.access.getD default)) ++
            items default (m.access.getD default) (members ++ later) := by
      rw [readItems_member (h m List.mem_cons_self), htail]
    rw [List.cons_append, items_cons, groupLines_cons]
    by_cases hsame : m.access.getD default = current
    · simpa [hsame] using hmember
    · simpa [hsame, readItems_label] using hmember

/-- A body is read as the members of all its groups. -/
lemma readItems_bodyLines {groups : List (List MemberText)}
    (h : ∀ m ∈ groups.flatten, (Text.lines m.text).getLast? ≠ some "") :
    readItems current (bodyLines default isFirst current groups) =
      items default current groups.flatten := by
  induction groups generalizing isFirst current with
  | nil => rfl
  | cons group groups ih =>
    rw [bodyLines, List.flatten_cons]
    exact readItems_group (fun m hm => h m (List.mem_append_left _ hm)) _
      (ih fun m hm => h m (List.mem_append_right group hm))

lemma line?_items (members : List MemberText) :
    (items default current members).filterMap BodyItem.line? =
      members.flatMap fun m =>
        (Text.lines m.text).map fun line => (m.access.getD default, line) := by
  induction members generalizing current with
  | nil => rfl
  | cons m members ih =>
    rw [items_cons, List.filterMap_append, List.filterMap_append, ih, List.flatMap_cons,
      List.filterMap_map]
    have hlines : BodyItem.line? ∘ BodyItem.line (m.access.getD default) =
        fun line => some (m.access.getD default, line) := rfl
    split <;> simp [hlines, BodyItem.line?]

/-! ### What was laid out can be cut into lines again -/

lemma isLine_indent {line : String} (h : Text.IsLine line) : Text.IsLine (indent line) := by
  rcases eq_or_ne line "" with rfl | hne
  · exact h
  · rw [Text.IsLine, toList_indent hne]
    simpa [Text.IsLine] using h

lemma isLine_label {line : String} {access : Access} (h : line ∈ label isFirst access) :
    Text.IsLine line := by
  have hline : line = "" ∨ line = access.keyword ++ ":" := by
    cases isFirst with
    | true => exact Or.inr (by simpa [label] using h)
    | false => simpa [label] using h
  rcases hline with rfl | rfl
  · exact ⟨List.not_mem_nil, List.not_mem_nil⟩
  · cases access <;> exact ⟨by decide, by decide⟩

lemma isLine_groupLines {members : List MemberText} (h : ∀ m ∈ members, '\r' ∉ m.text.toList) :
    ∀ line ∈ (groupLines default isFirst current members).1, Text.IsLine line := by
  induction members generalizing current with
  | nil => simp [groupLines]
  | cons m members ih =>
    intro line hline
    rw [groupLines_cons, List.mem_append, List.mem_append] at hline
    rcases hline with (hline | hline) | hline
    · split at hline
      · exact absurd hline List.not_mem_nil
      · exact isLine_label hline
    · obtain ⟨line, hmem, rfl⟩ := List.mem_map.mp hline
      exact isLine_indent (Text.isLine_of_mem_lines (h m List.mem_cons_self) hmem)
    · exact ih (fun m' hm' => h m' (List.mem_cons_of_mem m hm')) line hline

lemma isLine_bodyLines {groups : List (List MemberText)}
    (h : ∀ m ∈ groups.flatten, '\r' ∉ m.text.toList) :
    ∀ line ∈ bodyLines default isFirst current groups, Text.IsLine line := by
  induction groups generalizing isFirst current with
  | nil => simp [bodyLines]
  | cons group groups ih =>
    intro line hline
    rw [bodyLines] at hline
    rcases List.mem_append.mp hline with hline | hline
    · exact isLine_groupLines (fun m hm => h m (List.mem_append_left _ hm)) line hline
    · exact ih (fun m hm => h m (List.mem_append_right group hm)) line hline

end Aggregate

namespace Declaration

/-- What the layout of an aggregate knows of a member. -/
def memberText (d : Declaration) : MemberText := ⟨d.access, d.source⟩

lemma memberTexts_eq_map (members : List Declaration) :
    memberTexts members = members.map memberText := by
  induction members with
  | nil => rfl
  | cons d rest ih => rw [memberTexts, ih, List.map_cons, memberText]

lemma groupTexts_eq_map (groups : List (UInt64 × List Declaration)) :
    groupTexts groups = groups.map fun group => group.2.map memberText := by
  induction groups with
  | nil => rfl
  | cons group rest ih => rw [groupTexts, ih, List.map_cons, memberTexts_eq_map]

end Declaration

namespace Aggregate

/-- The text in front of the body. -/
def opening (a : Aggregate Declaration) : String :=
  Template.comment a.template ++ a.head ++ " \x7b\n"

/-- The text behind the body. -/
def closing (a : Aggregate Declaration) : String := "\x7d;" ++ a.sizeCheck

/-- The members in the order of their lines, and of a line in the order in which they stand. -/
def allMembers (a : Aggregate Declaration) : List Declaration := a.members.values.flatten

lemma source_eq (a : Aggregate Declaration) :
    (Declaration.aggregate a).source =
      a.opening ++ Text.ofLines (bodyLines a.kind.defaultAccess true a.kind.defaultAccess
        (a.members.values.map fun group => group.map Declaration.memberText)) ++ a.closing := by
  obtain ⟨placement, kind, name, size, bases, ⟨groups⟩, template⟩ := a
  rw [Declaration.source, Declaration.groupTexts_eq_map, layout, opening, closing, Text.ofLines,
    SortedMap.values, List.map_map]
  simp only [String.append_assoc]
  rfl

/-- The body of an aggregate is read back. Its lines with the access in force are the lines of the
members with the access of each or else the default, member by member; and labels stand exactly
where that access changes from one member to the next or, at the first, from the default. -/
theorem labels_read_back (a : Aggregate Declaration)
    (unbroken : ∀ d ∈ a.allMembers,
      '\r' ∉ d.source.toList ∧ d.source.toList.getLast? ≠ some '\n') :
    ∃ body, (Declaration.aggregate a).source = a.opening ++ body ++ a.closing ∧
      readItems a.kind.defaultAccess (Text.lines body) =
        items a.kind.defaultAccess a.kind.defaultAccess (a.allMembers.map Declaration.memberText) ∧
      (readItems a.kind.defaultAccess (Text.lines body)).filterMap BodyItem.line? =
        a.allMembers.flatMap fun d =>
          (Text.lines d.source).map fun line => (d.access.getD a.kind.defaultAccess, line) := by
  have hflatten : (a.members.values.map fun group => group.map Declaration.memberText).flatten =
      a.allMembers.map Declaration.memberText := by
    rw [allMembers, List.map_flatten]
  have hreturn : ∀ m ∈ a.allMembers.map Declaration.memberText, '\r' ∉ m.text.toList := by
    intro m hm
    obtain ⟨d, hd, rfl⟩ := List.mem_map.mp hm
    exact (unbroken d hd).1
  have hlast : ∀ m ∈ a.allMembers.map Declaration.memberText,
      (Text.lines m.text).getLast? ≠ some "" := by
    intro m hm
    obtain ⟨d, hd, rfl⟩ := List.mem_map.mp hm
    exact Text.getLast?_lines_ne (unbroken d hd).2
  rw [← hflatten] at hreturn hlast
  refine ⟨_, source_eq a, ?_⟩
  rw [Text.lines_ofLines (isLine_bodyLines hreturn), readItems_bodyLines hlast, hflatten]
  refine ⟨rfl, ?_⟩
  rw [line?_items, List.flatMap_map]
  rfl

/-- A class with a private member and behind it a public class that has labels of its own. -/
def nestedLabels : Aggregate Declaration :=
  let int := Declarator.plain "int"
  let inner : Aggregate Declaration :=
    { placement := { access := some .pub }, kind := .classKind, name := "Inner"
      members := ⟨[(5, [.field { name := "x", type := int }]),
        (6, [.field { placement := { access := some .prot }, name := "y", type := int }])]⟩ }
  { kind := .classKind, name := "Outer"
    members := ⟨[(2, [.field { name := "hidden", type := int }]),
      (4, [.aggregate inner]),
      (9, [.field { placement := { access := some .pub }, name := "shown", type := int }])]⟩ }

/-- The inner labels are lines of the inner class; the outer body has one label. -/
theorem nestedLabels_read_back :
    nestedLabels.allMembers.map (·.source) =
      ["int hidden;", "class Inner \x7b\n    int x;\n\nprotected:\n    int y;\n\x7d;",
        "int shown;"] ∧
    items .priv .priv (nestedLabels.allMembers.map Declaration.memberText) =
      [.line .priv "int hidden;", .label .pub, .line .pub "class Inner \x7b",
        .line .pub "    int x;", .line .pub "", .line .pub "protected:", .line .pub "    int y;",
        .line .pub "\x7d;", .line .pub "int shown;"] ∧
    ∃ body, (Declaration.aggregate nestedLabels).source =
        nestedLabels.opening ++ body ++ nestedLabels.closing ∧
      readItems .priv (Text.lines body) =
        items .priv .priv (nestedLabels.allMembers.map Declaration.memberText) ∧
      (readItems .priv (Text.lines body)).filterMap BodyItem.line? =
        nestedLabels.allMembers.flatMap fun d =>
          (Text.lines d.source).map fun line => (d.access.getD .priv, line) := by
  refine ⟨by decide +kernel, by decide +kernel, labels_read_back nestedLabels ?_⟩
  decide +kernel

end Aggregate
end HeaderRecovery
