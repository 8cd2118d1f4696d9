import HeaderRecovery.Debug.Lookup
import HeaderRecovery.Declarator

/-!
C++ spelling of types. A type is spelled as a declarator, from the named type inside outwards.
A type that is already being spelled, or that is nested too deeply, is given by its name alone.
-/
namespace HeaderRecovery.Debug.EntryTree

variable (t : EntryTree)

/-- Stands for the name of an entry that has none. -/
def anonymousName : Tag → String
  | .structureType => "(anonymous struct)"
  | .classType => "(anonymous class)"
  | .unionType => "(anonymous union)"
  | .enumerationType => "(anonymous enum)"
  | .namespaceScope => "(anonymous namespace)"
  | _ => "(unnamed)"

def localName (node : NodeId) : String :=
  (t.shortName? node).getD (anonymousName (t.tag node))

/-- Whether names inside an entry are written behind its own name and `::`. -/
def isScope : Tag → Bool
  | .namespaceScope | .structureType | .classType | .unionType | .enumerationType => true
  | _ => false

/-- The name of an entry behind those of the scopes around it, up to the first parent that is
no scope. -/
def qualifiedName (node : NodeId) : String :=
  let node := t.resolve node
  let scopes := (t.ancestors node).takeWhile fun p => isScope (t.tag p)
  "::".intercalate ((node :: scopes).reverse.map t.localName)

/-- The entry that an attribute refers to, a declaration with a signature replaced by its
definition. -/
def target? (node : NodeId) (attr : Attribute) : Option NodeId :=
  (t.reference? node attr).map t.resolve

/-- Appends a mark or a qualifier to the text before a name. -/
def attach (before mark : String) : String :=
  if Declarator.endsIn ['*', '&'] before then before ++ mark else before ++ " " ++ mark

def isSuffixed : Tag → Bool
  | .arrayType | .subroutineType => true
  | _ => false

def isIndirect : Tag → Bool
  | .pointerType | .referenceType | .rvalueReferenceType | .memberPointerType => true
  | _ => false

def targetIs (node : NodeId) (p : Tag → Bool) : Bool :=
  match t.target? node .type with
  | some type => p (t.tag type)
  | none => false

/-- A pointer-like mark; around an array or a function it needs parentheses. -/
def pointerTo (pointee : Declarator) (node : NodeId) (mark : String) : Declarator :=
  if t.targetIs node isSuffixed then
    ⟨pointee.before ++ " (" ++ mark, ")" ++ pointee.after⟩
  else ⟨attach pointee.before mark, pointee.after⟩

/-- A qualifier stands behind a pointer-like mark and in front of everything else. -/
def qualified (inner : Declarator) (node : NodeId) (qualifier : String) : Declarator :=
  if t.targetIs node isIndirect then ⟨attach inner.before qualifier, inner.after⟩
  else ⟨qualifier ++ " " ++ inner.before, inner.after⟩

/-- The number of elements of an array dimension; an upper bound counts from zero. -/
def elementCount? (range : NodeId) : Option Nat :=
  match t.unsigned? range .count with
  | some n => some n.toNat
  | none =>
    match t.attr? range .upperBound with
    | some (.unsigned upper) =>
      if upper.toNat + 1 < UInt64.size then some (upper.toNat + 1) else none
    | some (.signed upper) => if 0 ≤ upper.toInt then some (upper.toInt.toNat + 1) else none
    | _ => none

def dimension (range : NodeId) : String :=
  match t.elementCount? range with
  | some n => "[" ++ toString n ++ "]"
  | none => "[]"

/-- The dimensions of an array in order; an array without any has one unknown dimension. -/
def dimensions (node : NodeId) : String :=
  match (t.children node).filter fun c => t.tag c = .subrangeType with
  | [] => "[]"
  | ranges => String.join (ranges.map t.dimension)

/-- The spellings of the parameters of a function type, given how types are spelled. Implicit
ones are left out. -/
def parameterList (spell : Option NodeId → Declarator) (node : NodeId) : String :=
  ", ".intercalate <| (t.children node).filterMap fun c =>
    match t.tag c with
    | .formalParameter =>
      if t.flag c .artificial then none else some (spell (t.reference? c .type)).joined
    | .unspecifiedParameters => some "..."
    | _ => none

/-- One level of a type around the types it is made of, given how those are spelled. -/
def spellLevel (spell : Option NodeId → Declarator) (node : NodeId) : Declarator :=
  let inner := fun _ : Unit => spell (t.reference? node .type)
  match t.tag node with
  | .pointerType => t.pointerTo (inner ()) node "*"
  | .referenceType => t.pointerTo (inner ()) node "&"
  | .rvalueReferenceType => t.pointerTo (inner ()) node "&&"
  | .memberPointerType =>
    let owner := ((t.reference? node .containingType).map t.qualifiedName).getD ""
    t.pointerTo (inner ()) node (owner ++ "::*")
  | .constType => t.qualified (inner ()) node "const"
  | .volatileType => t.qualified (inner ()) node "volatile"
  | .restrictType => t.qualified (inner ()) node "__restrict"
  | .atomicType => .plain ("_Atomic(" ++ (inner ()).joined ++ ")")
  | .arrayType =>
    let element := inner ()
    ⟨element.before, t.dimensions node ++ element.after⟩
  | .subroutineType =>
    let result := inner ()
    ⟨result.before, "(" ++ t.parameterList spell node ++ ")" ++ result.after⟩
  | .unspecifiedType => .plain ((t.shortName? node).getD "void")
  | _ => .plain (t.qualifiedName node)

/-- The spelling of a type within `depth` further levels, where `path` holds the types that are
being spelled. No type at all is `void`. -/
def spellFrom : Nat → List NodeId → Option NodeId → Declarator
  | _, _, none => .plain "void"
  | 0, _, some node => .plain (t.localName (t.resolve node))
  | depth + 1, path, some node =>
    let node := t.resolve node
    if node ∈ path then .plain (t.localName node)
    else t.spellLevel (spellFrom depth (node :: path)) node

/-- The depth to which types are followed. -/
def defaultDepth : Nat := 64

def spell (type : Option NodeId) : Declarator := t.spellFrom defaultDepth [] type

/-- The spelling of the type that an entry's type attribute refers to. -/
def spellTypeOf (node : NodeId) : Declarator := t.spell (t.reference? node .type)

end HeaderRecovery.Debug.EntryTree
