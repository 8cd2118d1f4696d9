import HeaderRecovery.Files.Basic
import HeaderRecovery.SortedMap

/-!
A file system in memory. Paths lead through directories that are there, from the root or from the
working directory; `..` goes back to the directory around.
-/
namespace HeaderRecovery

inductive Content where
  | directory
  | file (bytes : Array UInt8)

structure Memory where
  /-- Everything below the root, by the names on the way to it. -/
  contents : SortedMap (List String) Content
  workingDirectory : List String

namespace Memory

def content? (s : Memory) (names : List String) : Option Content :=
  if names = [] then some .directory else s.contents.find? names

def put (s : Memory) (names : List String) (content : Content) : Memory :=
  { s with contents := s.contents.alter names fun _ => content }

def isDirectory (s : Memory) (names : List String) : Bool :=
  match s.content? names with
  | some .directory => true
  | _ => false

/-- Names take at most 255 bytes, none of them zero. -/
def isName (name : String) : Bool :=
  name.utf8ByteSize ≤ 255 && name.toList.all fun c => c.toNat ≠ 0

/-- One step of a path from a directory. -/
def step? (s : Memory) (names : List String) (piece : String) : Option (List String) :=
  if !s.isDirectory names then none
  else if piece = "" ∨ piece = "." then some names
  else if piece = ".." then some names.dropLast
  else if isName piece then some (names ++ [piece])
  else none

def start (s : Memory) (path : String) : List String :=
  if Path.isAbsolute path then [] else s.workingDirectory

/-- The names that a path leads to, whether something is there or not. -/
def resolve? (s : Memory) (path : String) : Option (List String) :=
  if path = "" then none else (Path.pieces path).foldlM s.step? (s.start path)

def find? (s : Memory) (path : String) : Option Content := s.resolve? path >>= s.content?

def read (s : Memory) (path : String) : Except ReadError (Array UInt8) :=
  match s.find? path with
  | none => .error .missing
  | some .directory => .error .directory
  | some (.file bytes) => .ok bytes

/-- Goes one step and makes the directory there if nothing is. -/
def makeStep? (place : Memory × List String) (piece : String) : Option (Memory × List String) := do
  let (s, names) := place
  let names ← s.step? names piece
  match s.content? names with
  | none => return (s.put names .directory, names)
  | some _ => return (s, names)

def makeDirectories? (s : Memory) (path : String) : Option Memory :=
  if path = "" then some s
  else do
    let (s, names) ← (Path.pieces path).foldlM makeStep? (s, s.start path)
    if s.isDirectory names then return s else none

def write? (s : Memory) (path : String) (bytes : Array UInt8) : Option Memory := do
  let names ← s.resolve? path
  if s.isDirectory names then none else return s.put names (.file bytes)

/-- Makes a change if there is one. -/
def attempt (change : Memory → Option Memory) : StateM Memory Bool := fun s =>
  match change s with
  | some next => (true, next)
  | none => (false, s)

def files : Files (StateM Memory) where
  read path := return (← get).read path
  isPresent path := return ((← get).find? path).isSome
  makeDirectories path := attempt fun s => s.makeDirectories? path
  write path text := attempt fun s => s.write? path text.toUTF8.data

/-- A file system with one directory, in which it works, and files in that. -/
def ofFiles? (directory : String) (given : List (String × Array UInt8)) : Option Memory := do
  let root : Memory := ⟨.empty, []⟩
  let s ← root.makeDirectories? directory
  let s := { s with workingDirectory := Path.segments directory }
  given.foldlM (fun s (path, bytes) => do
    let s ← match Path.parent? path with
      | some dir => s.makeDirectories? dir
      | none => some s
    s.write? path bytes) s

/-- The files in the working directory and below it, by their paths from there. -/
def entries (s : Memory) : List (String × Array UInt8) :=
  s.contents.entries.filterMap fun (names, content) =>
    match content with
    | .directory => none
    | .file bytes =>
      if s.workingDirectory.isPrefixOf names then
        some ("/".intercalate (names.drop s.workingDirectory.length), bytes)
      else none

end Memory
end HeaderRecovery
