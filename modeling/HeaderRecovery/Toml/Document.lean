import HeaderRecovery.Toml.Value

/-!
Documents: comments, headers and assignments in lines of their own. A header opens a section; the
assignments below it go to the section's table.
-/
namespace HeaderRecovery.Toml

/-- The document so far and the path of its open section. -/
structure Draft where
  root : Node
  current : List Key

namespace Draft

def empty : Draft := ⟨.empty, []⟩

/-- Changes the table that a path of a header leads to. -/
def edit? (f : Node → Option Node) (path : List Key) (draft : Draft) : Option Draft :=
  (draft.root.descend? .implied f path).map fun root => { draft with root }

def assign? (draft : Draft) (entry : List Key × Node) : Option Draft :=
  draft.edit? (Scanner.assigned? · entry) draft.current

/-- Opens the section of a header at `offset`: a further item of an array, or a table. -/
def open? (draft : Draft) (isItem : Bool) (path : List Key) (offset : Nat) : Option Draft := do
  let key ← path.getLast?
  let add := if isItem then Node.addItem? key offset else Node.addTable? key offset
  let opened ← draft.edit? add path.dropLast
  return { opened with current := path }

end Draft

namespace Scanner

/-- How deeply arrays and tables may nest in a value. -/
def maxNesting : Nat := 79

def assignmentLine (draft : Draft) : Scanner Draft :=
  certain .hard do
    let entry ← assignment (value maxNesting)
    committed restOfLine
    return draft.assign? entry

/-- A header takes two characters at least. -/
def headerLine (draft : Draft) : Scanner Draft := do
  let _ ← ahead (anyChar *> anyChar)
  let isItem := (← get).rest.take 2 = ['[', '[']
  let bracket (c : Char) := exactly (List.replicate (if isItem then 2 else 1) c)
  certain .hard do
    let offset ← offset
    bracket '['
    let keys ← committed path
    committed (bracket ']' *> restOfLine)
    return draft.open? isItem keys offset

/-- What begins at a character that is no blank. A line end that is broken is left to the caller. -/
def statement (draft : Draft) : Scanner Draft := do
  match ← next? with
  | none => refuse
  | some '#' => committed (comment *> lineEnd); return draft
  | some '[' => committed (headerLine draft)
  | some '\n' | some '\r' => newline; return draft
  | some _ => committed (assignmentLine draft)

/-- Statements up to a soft failure, no more than `fuel`. -/
def statements : Nat → Draft → Scanner Draft
  | 0, draft => return draft
  | fuel + 1, draft => do
    match ← optional (statement draft <* spaces) with
    | none => return draft
    | some next => statements fuel next

def byteOrderMark : Char := Char.ofNat 0xFEFF

def document : Scanner Node := do
  let _ ← optional (char byteOrderMark)
  spaces
  let draft ← statements (← get).rest.length .empty
  atEnd
  return draft.root

end Scanner

/-- The document that a text writes, or else the byte at which reading it fails. -/
def read (text : String) : Except Nat Node :=
  match Scanner.document ⟨text.toList, 0⟩ with
  | .ok root _ => .ok root
  | .error _ stop => .error stop.offset

end HeaderRecovery.Toml
