import HeaderRecovery.Declaration.Placement

/-! Function parameters. -/
namespace HeaderRecovery
open Debug

structure Parameter where
  placement : Placement := {}
  name : String := ""
  type : Declarator
  deriving DecidableEq, Repr

namespace Parameter

/-- The `...` of a variadic function. -/
def variadic : Parameter := { type := .plain "..." }

def ofEntry (t : EntryTree) (node : NodeId) : Parameter :=
  if t.tag node = .unspecifiedParameters then variadic
  else { placement := .ofEntry t node, name := nameOf t node, type := t.spellTypeOf node }

def merge (a b : Parameter) : Parameter :=
  { placement := a.placement.merge b.placement
    name := firstName a.name b.name
    type := firstType a.type b.type }

def source (p : Parameter) : String := p.type.declare p.name

end Parameter
end HeaderRecovery
