import HeaderRecovery.Declaration.Enumeration

/-! Data members of aggregates, static ones included, and variables at namespace scope. -/
namespace HeaderRecovery
open Debug

structure Field where
  placement : Placement := {}
  name : String := ""
  type : Declarator
  /-- Byte offset in the aggregate. -/
  location : Option UInt64 := none
  bitSize : Option UInt64 := none
  defaultValue : Option Constant := none
  isStatic : Bool := false
  isMutable : Bool := false
  /-- Declared at namespace scope. -/
  isVariable : Bool := false
  isExternal : Bool := false
  deriving DecidableEq, Repr

namespace Field

/-- The byte offset of a member. A bit offset stands for one only where no bit size makes the
member a bit field. -/
def location? (t : EntryTree) (node : NodeId) : Option UInt64 :=
  match t.unsigned? node .memberLocation with
  | some offset => some offset
  | none =>
    if t.hasAttr node .bitSize then none
    else (t.unsigned? node .dataBitOffset).map (· / 8)

/-- Reads a member. `definition` is the text of the unnamed definition that is its type. -/
def ofEntry (t : EntryTree) (definition : Option String) (node : NodeId) : Field :=
  { placement := .ofEntry t node
    name := nameOf t node
    type := match definition with
      | some text => .plain text
      | none => t.spellTypeOf node
    location := location? t node
    bitSize := t.unsigned? node .bitSize
    defaultValue := (t.attr? node .constantValue).bind Constant.ofValue?
    isStatic := t.tag node = .dataVariable || t.flag node .external
    isMutable := t.flag node .mutable }

/-- Reads a variable at namespace scope: `extern` with external linkage, else `static`. -/
def ofVariable (t : EntryTree) (definition : Option String) (node : NodeId) : Field :=
  let external := t.flag node .external
  { ofEntry t definition node with
    location := none, isStatic := !external, isExternal := external, isVariable := true }

def merge (a b : Field) : Field :=
  let isExternal := a.isExternal || b.isExternal
  { placement := a.placement.merge b.placement
    name := firstName a.name b.name
    type := firstType a.type b.type
    location := a.location.or b.location
    bitSize := a.bitSize.or b.bitSize
    defaultValue := a.defaultValue.or b.defaultValue
    isStatic := !isExternal && (a.isStatic || b.isStatic)
    isMutable := a.isMutable || b.isMutable
    isVariable := a.isVariable || b.isVariable
    isExternal }

def source (f : Field) : String :=
  (if f.isExternal then "extern " else if f.isStatic then "static " else "") ++
    (if f.isMutable then "mutable " else "") ++
    f.type.declare f.name ++
    (match f.bitSize with | some n => " : " ++ toString n.toNat | none => "") ++
    (match f.defaultValue with
      | some v => " = " ++ Literal.initializer f.type.before v
      | none => "") ++ ";" ++
    (match f.location with | some n => " // +" ++ toString n.toNat | none => "")

end Field
end HeaderRecovery
