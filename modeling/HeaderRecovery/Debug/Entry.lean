import Std.Data.HashMap
import HeaderRecovery.Debug.Vocabulary

/-!
Debugging-information entries and the tree of all entries of one program.

Entries are numbered in the order in which they were added. Each belongs to a unit, and the
entries of a unit form a tree below its root. Besides the parent links an entry may refer to
others by key or by the signature of a type unit.
-/
namespace HeaderRecovery.Debug

/-- Which family of units an offset counts in. -/
inductive Section where
  | info
  | type
  deriving DecidableEq, Repr, Hashable

/-- Identity of an entry within one program. -/
structure EntryKey where
  part : Section
  offset : UInt64
  deriving DecidableEq, Repr, Hashable

abbrev NodeId := Nat

abbrev UnitId := Nat

/-- A loaded attribute value. -/
inductive Value where
  | unsigned (value : UInt64)
  | signed (value : Int64)
  | flag (set : Bool)
  | string (text : String)
  | ref (key : EntryKey)
  | signature (value : UInt64)
  | block (bytes : List UInt8)
  deriving DecidableEq, Repr

namespace Value

def string? : Value → Option String
  | string s => some s
  | _ => none

/-- A constant seen as unsigned; negative constants have no such view. -/
def unsigned? : Value → Option UInt64
  | unsigned v => some v
  | signed v => if 0 ≤ v.toInt then some v.toUInt64 else none
  | flag b => some (if b then 1 else 0)
  | _ => none

end Value

structure Entry where
  key : EntryKey
  unit : UnitId
  tag : Tag
  parent : Option NodeId
  /-- Children in the order in which they were added. -/
  children : Array NodeId
  attributes : Array (Attribute × Value)

instance : Inhabited Entry := ⟨⟨.info, 0⟩, 0, .other 0, none, #[], #[]⟩

structure UnitInfo where
  part : Section
  root : NodeId
  name : Option String
  directory : Option String
  signature : Option UInt64

instance : Inhabited UnitInfo := ⟨⟨.info, 0, none, none, none⟩⟩

def UnitInfo.isTypeUnit (u : UnitInfo) : Bool := u.part = .type

/-- What an attribute of its root says about a unit. -/
def UnitInfo.note (u : UnitInfo) (attr : Attribute) (value : Value) : UnitInfo :=
  match attr with
  | .name => { u with name := value.string? }
  | .compileDirectory => { u with directory := value.string? }
  | _ => u

structure EntryTree where
  entries : Array Entry
  units : Array UnitInfo
  /-- The entry added last under each key. -/
  byKey : Std.HashMap EntryKey NodeId
  /-- The key of the type that a type unit with this signature defines. -/
  signatures : Std.HashMap UInt64 EntryKey

namespace EntryTree

def empty : EntryTree := ⟨#[], #[], ∅, ∅⟩

def size (t : EntryTree) : Nat := t.entries.size

/-- Adds an entry behind all others and, if it has a parent, as that one's last child. -/
def addEntry (t : EntryTree) (unit : UnitId) (key : EntryKey) (tag : Tag)
    (parent : Option NodeId) : EntryTree × NodeId :=
  let id := t.entries.size
  let entries := t.entries.push ⟨key, unit, tag, parent, #[], #[]⟩
  let entries := match parent with
    | some p => entries.modify p fun e => { e with children := e.children.push id }
    | none => entries
  ({ t with entries, byKey := t.byKey.insert key id }, id)

/-- Adds a unit together with its root entry. -/
def addUnit (t : EntryTree) (part : Section) (key : EntryKey) (tag : Tag)
    (signature : Option UInt64) : EntryTree × UnitId × NodeId :=
  let unit := t.units.size
  let t' := { t with units := t.units.push ⟨part, t.entries.size, none, none, signature⟩ }
  let (t', root) := t'.addEntry unit key tag none
  (t', unit, root)

/-- Adds an attribute behind the others of `node`. -/
def addAttribute (t : EntryTree) (node : NodeId) (attr : Attribute) (value : Value) :
    EntryTree :=
  let unit := (t.entries.getD node default).unit
  let units := t.units.modify unit fun u =>
    if u.root = node then u.note attr value else u
  { t with
    units
    entries := t.entries.modify node fun e =>
      { e with attributes := e.attributes.push (attr, value) } }

def mapSignature (t : EntryTree) (signature : UInt64) (key : EntryKey) : EntryTree :=
  { t with signatures := t.signatures.insert signature key }

end EntryTree
end HeaderRecovery.Debug
