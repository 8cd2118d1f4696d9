import HeaderRecovery.Debug.Lookup

/-! Building an entry tree step by step. Entries get their keys from the caller or from two
counters, one for compile units and one for type units. -/
namespace HeaderRecovery.Debug

structure TreeBuilder where
  tree : EntryTree
  nextInfo : UInt64
  nextType : UInt64

namespace TreeBuilder

/-- The first entry of a unit follows the shortest header of its kind. -/
def start : TreeBuilder := ⟨.empty, 0xb, 0x17⟩

def freshKey (b : TreeBuilder) : Section → TreeBuilder × EntryKey
  | .info => ({ b with nextInfo := b.nextInfo + 1 }, ⟨.info, b.nextInfo⟩)
  | .type => ({ b with nextType := b.nextType + 1 }, ⟨.type, b.nextType⟩)

def beginUnit (b : TreeBuilder) (part : Section) (key : EntryKey) (tag : Tag)
    (signature : Option UInt64) : TreeBuilder × UnitId × NodeId :=
  let (tree, unit, root) := b.tree.addUnit part key tag signature
  ({ b with tree }, unit, root)

def push (b : TreeBuilder) (unit : UnitId) (key : EntryKey) (tag : Tag) (parent : NodeId) :
    TreeBuilder × NodeId :=
  let (tree, node) := b.tree.addEntry unit key tag (some parent)
  ({ b with tree }, node)

def mapSignature (b : TreeBuilder) (signature : UInt64) (key : EntryKey) : TreeBuilder :=
  { b with tree := b.tree.mapSignature signature key }

def addAttr (b : TreeBuilder) (node : NodeId) (attr : Attribute) (value : Value) :
    TreeBuilder :=
  { b with tree := b.tree.addAttribute node attr value }

/-- A compile unit with a name and the directory it was compiled in. -/
def compileUnit (b : TreeBuilder) (name directory : String) : TreeBuilder × NodeId :=
  let (b, key) := b.freshKey .info
  let (b, _, root) := b.beginUnit .info key .compileUnit none
  ((b.addAttr root .name (.string name)).addAttr root .compileDirectory (.string directory),
    root)

/-- A child in the unit of its parent. -/
def child (b : TreeBuilder) (parent : NodeId) (tag : Tag) : TreeBuilder × NodeId :=
  let (b', key) := b.freshKey (b.tree.unitOf parent).part
  b'.push (b.tree.entry parent).unit key tag parent

/-- A type unit: its root and the type it defines. -/
def typeUnit (b : TreeBuilder) (signature : UInt64) (tag : Tag) :
    TreeBuilder × NodeId × NodeId :=
  let (b, key) := b.freshKey .type
  let (b, _, root) := b.beginUnit .type key .typeUnit (some signature)
  let (b, type) := b.child root tag
  (b.mapSignature signature (b.tree.key type), root, type)

def name (b : TreeBuilder) (node : NodeId) (text : String) : TreeBuilder :=
  b.addAttr node .name (.string text)

def declaredAt (b : TreeBuilder) (node : NodeId) (file : String) (line : UInt64) : TreeBuilder :=
  (b.addAttr node .declaredFile (.string file)).addAttr node .declaredLine (.unsigned line)

def flag (b : TreeBuilder) (node : NodeId) (attr : Attribute) : TreeBuilder :=
  b.addAttr node attr (.flag true)

def unsigned (b : TreeBuilder) (node : NodeId) (attr : Attribute) (value : UInt64) :
    TreeBuilder :=
  b.addAttr node attr (.unsigned value)

def reference (b : TreeBuilder) (node : NodeId) (attr : Attribute) (target : NodeId) :
    TreeBuilder :=
  b.addAttr node attr (.ref (b.tree.key target))

def typeRef (b : TreeBuilder) (node target : NodeId) : TreeBuilder :=
  b.reference node .type target

def signature (b : TreeBuilder) (node : NodeId) (value : UInt64) : TreeBuilder :=
  b.addAttr node .signature (.signature value)

def baseType (b : TreeBuilder) (parent : NodeId) (text : String) (size encoding : UInt64) :
    TreeBuilder × NodeId :=
  let (b, node) := b.child parent .baseType
  (((b.name node text).unsigned node .byteSize size).unsigned node .encoding encoding, node)

/-- A pointer, reference or qualifier around `target`; without one it is around `void`. -/
def modifier (b : TreeBuilder) (parent : NodeId) (tag : Tag) (target : Option NodeId) :
    TreeBuilder × NodeId :=
  let (b, node) := b.child parent tag
  match target with
  | some target => (b.typeRef node target, node)
  | none => (b, node)

end TreeBuilder
end HeaderRecovery.Debug
