import HeaderRecovery.Declaration.Reading
import HeaderRecovery.SourceFile

/-!
The declarations of a whole program, collected unit by unit.

A declaration is known by the key of the entry that defines it. The first sighting of a key
decides where the declaration is stored; later ones, and sightings under other keys of the same
thing on the same line, are merged into it.
-/
namespace HeaderRecovery
open Debug

structure Location where
  file : String
  line : UInt64
  index : Nat
  deriving DecidableEq, Repr

structure Registry where
  options : Options
  /-- Common directory of the units seen so far; empty before the first. -/
  baseDir : String
  /-- Source files by normal path. -/
  files : SortedMap String SourceFile
  locations : Std.HashMap EntryKey Location

namespace Registry

def empty (options : Options) : Registry := ⟨options, "", .empty, ∅⟩

/-- Number of keys known. -/
def identities (r : Registry) : Nat := r.locations.size

def get? (r : Registry) (l : Location) : Option Declaration :=
  (r.files.find? l.file).bind fun f => f.get? l.line l.index

def lookup? (r : Registry) (key : EntryKey) : Option Declaration :=
  r.locations[key]?.bind r.get?

/-- Changes the declaration at a known location. -/
def modify (r : Registry) (l : Location) (g : Declaration → Declaration) : Registry :=
  match r.files.find? l.file with
  | some f => { r with files := r.files.alter l.file fun _ => f.modify l.line l.index g }
  | none => r

/-- Merges another reading of `node` into the declaration at a known location. -/
def mergeReading (r : Registry) (t : EntryTree) (l : Location) (node : NodeId) :
    Option Registry :=
  match r.get? l with
  | some present =>
    (Declaration.ofEntry? t r.options present.kind node).map fun again =>
      r.modify l fun d => d.merge again
  | none => some r

/-- Kind, file and line of an entry that can be registered: a declaration with a name, unless
its kind needs none, and with a place of its own. -/
def place? (t : EntryTree) (node : NodeId) : Option (DeclarationKind × String × UInt64) :=
  match DeclarationKind.ofTag? (t.tag node), t.attr? node .declaredFile,
      t.unsigned? node .declaredLine with
  | some kind, some (.string file), some line =>
    if kind.requiresName && !t.hasAttr node .name then none
    else some (kind, Path.normalize file, line)
  | _, _, _ => none

/-- Stores a new declaration in its file: merged into the one that declares the same thing on
that line, else behind it. There is no location if the line is full. -/
def store (r : Registry) (file : String) (line : UInt64) (d : Declaration) :
    Registry × Option Location :=
  let f := (r.files.find? file).getD (.empty r.options.maxEntriesPerLine)
  match f.findSame? line d with
  | some index =>
    let f := f.modify line index fun present => present.merge d
    ({ r with files := r.files.alter file fun _ => f }, some ⟨file, line, index⟩)
  | none =>
    let (f, index) := f.add line d
    ({ r with files := r.files.alter file fun _ => f }, index.map fun i => ⟨file, line, i⟩)

/-- The location of the declaration of `node` after this sighting, or `none` for an entry that
is not registered. There is no result at all if reading the entry has none. -/
def getOrCreate (r : Registry) (t : EntryTree) (node : NodeId) (scopes : List Scope) :
    Option (Registry × Option Location) :=
  match r.locations[t.key node]? with
  | some l => (r.mergeReading t l node).map fun r => (r, some l)
  | none =>
    match place? t node with
    | none => some (r, none)
    | some (kind, file, line) =>
      (Declaration.ofEntry? t r.options kind node).map fun d =>
        if !d.isRenderable then (r, none)
        else
          let (r, l?) := r.store file line (d.setScopes scopes)
          match l? with
          | some l => ({ r with locations := r.locations.insert (t.key node) l }, some l)
          | none => (r, none)

/-- One child of a unit or namespace that is no namespace. A declaration with a signature is
registered as its definition and then merged, for what only it says. -/
def visit (t : EntryTree) (scopes : List Scope) (r : Registry) (child : NodeId) :
    Option Registry := do
  let node := t.resolve child
  let (r, l?) ← r.getOrCreate t node scopes
  match l? with
  | some l => if node = child then some r else r.mergeReading t l child
  | none => some r

/-- The declarations below an entry, namespaces entered. The number bounds the depth. -/
def walk (t : EntryTree) : Nat → List Scope → NodeId → Registry → Option Registry
  | 0, _, _, r => some r
  | fuel + 1, scopes, node, r =>
    (t.children node).foldlM (fun r child =>
      if t.tag child = .namespaceScope then
        walk t fuel (scopes ++ [Scope.ofEntry t child]) child r
      else visit t scopes r child) r

/-- The directory that a unit adds to the build root. -/
def unitDirectory (name directory : String) : String :=
  Path.common (Path.join directory name) directory

/-- The build root narrowed to what it shares with a directory. -/
def narrow (baseDir candidate : String) : String :=
  Path.common (if baseDir = "" then candidate else baseDir) candidate

/-- Collects the declarations of the unit with the given root. An entry that is no root and a
unit without name or directory are left out. -/
def update (r : Registry) (t : EntryTree) (root : NodeId) : Option Registry :=
  if t.isUnitRoot root then
    match (t.unitOf root).name, (t.unitOf root).directory with
    | some name, some directory =>
      walk t t.size [] root { r with baseDir := narrow r.baseDir (unitDirectory name directory) }
    | _, _ => some r
  else some r

/-- Collects the declarations of several units in order. -/
def updateAll (r : Registry) (t : EntryTree) (roots : List NodeId) : Option Registry :=
  roots.foldlM (fun r root => r.update t root) r

end Registry
end HeaderRecovery
