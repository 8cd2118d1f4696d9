import HeaderRecovery.Declaration.Parameter
import HeaderRecovery.Declaration.Template
import HeaderRecovery.Text.Find

/-! Free functions and member functions. -/
namespace HeaderRecovery
open Debug

inductive Virtuality where
  | none
  | virtual
  | pureVirtual
  deriving DecidableEq, Repr

def Virtuality.ofCode (code : UInt64) : Virtuality :=
  match code.toNat with
  | 1 => .virtual
  | 2 => .pureVirtual
  | _ => .none

structure Function where
  placement : Placement := {}
  name : String := ""
  linkageName : Option String := none
  returnType : Declarator
  parameters : List Parameter := []
  template : Option String := none
  isMember : Bool := false
  /-- Has an implicit object parameter; a member function without one is static. -/
  hasThis : Bool := false
  isConst : Bool := false
  isExplicit : Bool := false
  isDefaulted : Bool := false
  isDeleted : Bool := false
  virtuality : Virtuality := .none
  /-- Declared `inline`, whatever the compiler did on its own. -/
  isInline : Bool := false
  isNoReturn : Bool := false
  /-- Constructors, destructors and conversion operators are written without a return type. -/
  omitsReturnType : Bool := false
  deriving DecidableEq, Repr

namespace Function

/-- Names that start like a conversion operator and are none. -/
def namedOperators : List String :=
  ["operator new", "operator new[]", "operator delete", "operator delete[]",
    "operator co_await"]

def isConversion (name : String) : Bool :=
  Text.startsWith "operator " name && name ∉ namedOperators

/-- Whether a member is a destructor or bears the name of its class, template arguments aside. -/
def isStructor (t : EntryTree) (node : NodeId) (name : String) : Bool :=
  Text.startsWith "~" name ||
    match (t.parent? node).bind t.shortName? with
    | some owner => Text.upTo '<' owner ≠ "" && Text.upTo '<' owner = Text.upTo '<' name
    | none => false

/-- An explicit "not defaulted" does not count. -/
def defaulted (t : EntryTree) (node : NodeId) : Bool :=
  match t.attr? node .defaulted with
  | some value => value.unsigned? ≠ some 0
  | none => false

/-- Declared inline, inlined by the compiler (3) or not (2). -/
def declaredInline (t : EntryTree) (node : NodeId) : Bool :=
  match t.unsigned? node .inlining with
  | some v => v = 2 || v = 3
  | none => false

/-- Whether a parameter is a pointer to a const object. -/
def pointsToConst (t : EntryTree) (parameter : NodeId) : Bool :=
  match t.target? parameter .type with
  | some pointer =>
    t.tag pointer = .pointerType &&
      match t.target? pointer .type with
      | some pointee => t.tag pointee = .constType
      | none => false
  | none => false

/-- The implicit object parameter: a member's first parameter, if it is artificial. -/
def this? (t : EntryTree) (node : NodeId) : Option NodeId :=
  ((t.children node).find? fun c => t.tag c = .formalParameter).filter fun c =>
    t.flag c .artificial

/-- A written parameter; artificial ones are not written. -/
def parameter? (t : EntryTree) (node : NodeId) : Option Parameter :=
  match t.tag node with
  | .formalParameter => if t.flag node .artificial then none else some (.ofEntry t node)
  | .unspecifiedParameters => some .variadic
  | _ => none

def ofEntry (t : EntryTree) (isMember : Bool) (node : NodeId) : Function :=
  let name := nameOf t node
  let this := if isMember then this? t node else none
  { placement := .ofEntry t node
    name
    linkageName := t.linkageName? node
    returnType := t.spell (t.referenceRecursive? node .type)
    parameters := (t.children node).filterMap (parameter? t)
    template := Template.clause? t node
    isMember
    hasThis := this.isSome
    isConst := match this with | some p => pointsToConst t p | none => false
    isExplicit := t.flag node .explicit
    isDefaulted := defaulted t node
    isDeleted := t.flag node .deleted
    virtuality := match t.unsigned? node .virtuality with
      | some v => Virtuality.ofCode v
      | none => .none
    isInline := declaredInline t node
    isNoReturn := t.flag node .noReturn
    omitsReturnType := isConversion name || (isMember && isStructor t node name) }

def isStatic (f : Function) : Bool := f.isMember && !f.hasThis

def merge (a b : Function) : Function :=
  { placement := a.placement.merge b.placement
    name := firstName a.name b.name
    linkageName := a.linkageName.or b.linkageName
    returnType := firstType a.returnType b.returnType
    parameters := if a.parameters = [] then b.parameters else a.parameters
    template := a.template.or b.template
    isMember := a.isMember || b.isMember
    hasThis := a.hasThis || b.hasThis
    isConst := a.isConst || b.isConst
    isExplicit := a.isExplicit || b.isExplicit
    isDefaulted := a.isDefaulted || b.isDefaulted
    isDeleted := a.isDeleted || b.isDeleted
    virtuality := if a.virtuality = .none then b.virtuality else a.virtuality
    isInline := a.isInline || b.isInline
    isNoReturn := a.isNoReturn || b.isNoReturn
    omitsReturnType := a.omitsReturnType || b.omitsReturnType }

/-- Overloads share a name; linker names tell them apart where both are known, and parameter
types otherwise. -/
def sameAs (a b : Function) : Bool :=
  a.name = b.name &&
    match a.linkageName, b.linkageName with
    | some x, some y => x = y
    | _, _ => a.parameters.map (·.type) = b.parameters.map (·.type)

/-- Name, parameters and what is written next to them. -/
def signature (f : Function) : String :=
  (if f.isExplicit then "explicit " else "") ++ f.name ++ "(" ++
    ", ".intercalate (f.parameters.map Parameter.source) ++ ")" ++
    (if f.isConst then " const" else "")

def source (f : Function) : String :=
  let result := if f.returnType.before = "" then .plain "void" else f.returnType
  Template.comment f.template ++
    (if f.isNoReturn then "[[noreturn]] " else "") ++
    (if f.isStatic then "static " else "") ++
    (if f.isInline then "inline " else "") ++
    (if f.virtuality = .none then "" else "virtual ") ++
    (if f.omitsReturnType then f.signature else result.declare f.signature) ++
    (if f.virtuality = .pureVirtual then " = 0" else "") ++
    (if f.isDefaulted then " = default" else "") ++
    (if f.isDeleted then " = delete" else "") ++ ";"

end Function
end HeaderRecovery
