import HeaderRecovery.Declaration.Basic

/-!
The declarations of one source file by line, and the header text made of them.

The text is a sequence of chunks. Declarations stand inside the namespace blocks they belong
to; a block stays open as long as the next declaration shares it, and an empty line separates
the declarations of different lines.
-/
namespace HeaderRecovery

structure SourceFile where
  lines : SortedMap UInt64 (List Declaration)
  maxEntriesPerLine : Nat

/-- A piece of a header. -/
inductive Chunk where
  | closing (scope : Scope)
  | gap
  | opening (scope : Scope)
  | declaration (d : Declaration)

def Chunk.text : Chunk → String
  | closing scope => scope.closing
  | gap => "\n"
  | opening scope => scope.opening
  | declaration d => d.source ++ "\n"

namespace SourceFile

def empty (maxEntriesPerLine : Nat) : SourceFile := ⟨.empty, maxEntriesPerLine⟩

def line (f : SourceFile) (line : UInt64) : List Declaration := (f.lines.find? line).getD []

/-- Appends a declaration to a line and gives its index there, or `none` if the line is full. -/
def add (f : SourceFile) (line : UInt64) (d : Declaration) : SourceFile × Option Nat :=
  let present := f.line line
  if f.maxEntriesPerLine ≤ present.length then
    ({ f with lines := f.lines.alter line fun group => group.getD [] }, none)
  else ({ f with lines := f.lines.alter line fun group => group.getD [] ++ [d] },
    some present.length)

/-- The index on a line of the first declaration of the same thing. -/
def findSame? (f : SourceFile) (line : UInt64) (d : Declaration) : Option Nat :=
  (f.line line).findIdx? fun present => present.sameAs d

def get? (f : SourceFile) (line : UInt64) (index : Nat) : Option Declaration :=
  (f.line line)[index]?

/-- Changes the declaration at a place, if there is one. -/
def modify (f : SourceFile) (line : UInt64) (index : Nat) (g : Declaration → Declaration) :
    SourceFile :=
  if (f.get? line index).isSome then
    { f with lines := f.lines.alter line fun group => (group.getD []).modify index g }
  else f

/-- Number of declarations. -/
def size (f : SourceFile) : Nat := f.lines.values.flatten.length

def isEmpty (f : SourceFile) : Bool := f.size = 0

/-- Number of leading namespaces that two paths share. -/
def sharedScopes : List Scope → List Scope → Nat
  | a :: as, b :: bs => if a = b then sharedScopes as bs + 1 else 0
  | _, _ => 0

/-- The chunks of one declaration when the blocks `current`, the outermost first, are open.
`separated` asks for an empty line between closing and opening. -/
def chunksOf (current : List Scope) (separated : Bool) (d : Declaration) : List Chunk :=
  let shared := sharedScopes current d.scopes
  (current.drop shared).reverse.map .closing ++ (if separated then [.gap] else []) ++
    (d.scopes.drop shared).map .opening ++ [.declaration d]

/-- The chunks of the declarations of one line. Only the first of them is separated from what
stands before. -/
def lineChunks : List Scope → Bool → List Declaration → List Chunk
  | _, _, [] => []
  | current, separated, d :: rest =>
    chunksOf current separated d ++ lineChunks d.scopes false rest

/-- The blocks that are open behind the declarations of a line. -/
def openAfter (current : List Scope) (line : List Declaration) : List Scope :=
  match line.getLast? with
  | some d => d.scopes
  | none => current

/-- The chunks of all lines, and the closing of what is open in the end. -/
def chunksFrom : List Scope → Bool → List (List Declaration) → List Chunk
  | current, _, [] => current.reverse.map .closing
  | current, separated, line :: rest =>
    lineChunks current separated line ++
      chunksFrom (openAfter current line) (separated || !line.isEmpty) rest

def chunks (f : SourceFile) : List Chunk := chunksFrom [] false f.lines.values

/-- The header text. -/
def render (f : SourceFile) : String := String.join (f.chunks.map Chunk.text)

end SourceFile
end HeaderRecovery
