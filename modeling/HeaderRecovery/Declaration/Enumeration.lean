import HeaderRecovery.Constant
import HeaderRecovery.Declaration.Placement

/-! Enumeration types. -/
namespace HeaderRecovery
open Debug

/-- The constant that an attribute value holds. -/
def Constant.ofValue? : Value → Option Constant
  | .signed v => some (.signed v)
  | .unsigned v => some (.unsigned v)
  | .flag b => some (.unsigned (if b then 1 else 0))
  | _ => none

structure Enumerator where
  name : String
  value : Constant
  deriving DecidableEq, Repr

structure Enumeration where
  placement : Placement := {}
  name : String := ""
  baseType : Option String := none
  enumerators : List Enumerator := []
  isScoped : Bool := false
  deriving DecidableEq, Repr

namespace Enumeration

/-- An enumerator; one without a constant value is left out. -/
def enumerator? (t : EntryTree) (node : NodeId) : Option Enumerator :=
  if t.tag node = .enumerator then
    ((t.attr? node .constantValue).bind Constant.ofValue?).map fun value =>
      ⟨nameOf t node, value⟩
  else none

def ofEntry (t : EntryTree) (node : NodeId) : Enumeration :=
  { placement := .ofEntry t node
    name := nameOf t node
    baseType := (t.reference? node .type).map fun type => (t.spell (some type)).joined
    enumerators := (t.children node).filterMap (enumerator? t)
    isScoped := t.flag node .enumClass }

def merge (a b : Enumeration) : Enumeration :=
  { placement := a.placement.merge b.placement
    name := firstName a.name b.name
    baseType := a.baseType.or b.baseType
    enumerators := if a.enumerators = [] then b.enumerators else a.enumerators
    isScoped := a.isScoped || b.isScoped }

def source (e : Enumeration) : String :=
  "enum" ++ (if e.isScoped then " class" else "") ++
    (if e.name = "" then "" else " " ++ e.name) ++
    (match e.baseType with | some base => " : " ++ base | none => "") ++ " \x7b\n" ++
    String.join (e.enumerators.map fun x =>
      "    " ++ x.name ++ " = " ++ x.value.decimal ++ ",\n") ++
    "\x7d;"

end Enumeration
end HeaderRecovery
