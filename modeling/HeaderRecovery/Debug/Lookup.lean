import HeaderRecovery.Debug.Entry

/-!
Reading an entry tree. Plain lookups see an entry's own attributes. The recursive ones also
see those of the declarations that the entry completes: `declarationChain` lists these in
search order, an entry before what it links to and a specification before an abstract origin.
-/
namespace HeaderRecovery.Debug.EntryTree

variable (t : EntryTree)

def entry (node : NodeId) : Entry := t.entries.getD node default

def node? (key : EntryKey) : Option NodeId := t.byKey[key]?

def key (node : NodeId) : EntryKey := (t.entry node).key

def tag (node : NodeId) : Tag := (t.entry node).tag

def parent? (node : NodeId) : Option NodeId := (t.entry node).parent

def children (node : NodeId) : List NodeId := (t.entry node).children.toList

def unitOf (node : NodeId) : UnitInfo := t.units.getD (t.entry node).unit default

def isUnitRoot (node : NodeId) : Bool := (t.unitOf node).root = node

def compileUnits : List UnitInfo := t.units.toList.filter fun u => !u.isTypeUnit

def typeUnits : List UnitInfo := t.units.toList.filter UnitInfo.isTypeUnit

/-- The first value of an attribute that `node` itself carries. -/
def attr? (node : NodeId) (attr : Attribute) : Option Value :=
  ((t.entry node).attributes.toList.find? fun a => a.1 = attr).map (·.2)

def hasAttr (node : NodeId) (attr : Attribute) : Bool := (t.attr? node attr).isSome

/-- The type that the type unit with a signature defines. -/
def signatureTarget? (signature : UInt64) : Option NodeId :=
  t.signatures[signature]?.bind t.node?

/-- The entry a value refers to. A reference counted among the compile units may also name an
entry of a type unit. -/
def follow : Value → Option NodeId
  | .ref key =>
    match t.node? key, key.part with
    | some node, _ => some node
    | none, .info => t.node? ⟨.type, key.offset⟩
    | none, .type => none
  | .signature s => t.signatureTarget? s
  | _ => none

def reference? (node : NodeId) (attr : Attribute) : Option NodeId :=
  (t.attr? node attr).bind t.follow

/-- The declarations that `node` completes, the specification first. -/
def linked (node : NodeId) : List NodeId :=
  [Attribute.specification, Attribute.abstractOrigin].filterMap (t.reference? node)

/-- Search with a stack of entries to look at; one met before is passed over. -/
def chainFrom : Nat → List NodeId → List NodeId → List NodeId
  | 0, _, _ => []
  | _ + 1, _, [] => []
  | fuel + 1, seen, node :: rest =>
    if node ∈ seen then chainFrom fuel seen rest
    else node :: chainFrom fuel (node :: seen) (t.linked node ++ rest)

/-- `node` and every declaration reachable from it, each once, in depth-first order. Every
step either passes over an entry or lists a new one, which adds two at most to the stack. -/
def declarationChain (node : NodeId) : List NodeId :=
  t.chainFrom (2 * t.size + 2) [] [node]

def attrRecursive? (node : NodeId) (attr : Attribute) : Option Value :=
  (t.declarationChain node).findSome? (t.attr? · attr)

def shortName? (node : NodeId) : Option String :=
  (t.attrRecursive? node .name).bind Value.string?

/-- The linker's name; the older attribute counts only where the standard one is absent. -/
def linkageName? (node : NodeId) : Option String :=
  ((t.attrRecursive? node .linkageName).or (t.attrRecursive? node .vendorLinkageName)).bind
    Value.string?

def declaredFile? (node : NodeId) : Option String :=
  (t.attrRecursive? node .declaredFile).bind Value.string?

def declaredLine? (node : NodeId) : Option UInt64 :=
  (t.attrRecursive? node .declaredLine).bind Value.unsigned?

def unsigned? (node : NodeId) (attr : Attribute) : Option UInt64 :=
  (t.attr? node attr).bind Value.unsigned?

/-- A flag is set when it is present and not an explicit `false`. -/
def flag (node : NodeId) (attr : Attribute) : Bool :=
  match t.attr? node attr with
  | none | some (.flag false) => false
  | some _ => true

def referenceRecursive? (node : NodeId) (attr : Attribute) : Option NodeId :=
  (t.attrRecursive? node attr).bind t.follow

/-- The definition that a declaration with a signature stands for; any other entry, and a
declaration whose type unit is missing, stands for itself. -/
def resolve (node : NodeId) : NodeId :=
  match t.attr? node .signature with
  | some (.signature s) => (t.signatureTarget? s).getD node
  | some (.ref key) => (t.node? key).getD node
  | _ => node

/-- The parents of an entry, the nearest first. -/
def ancestorsFrom : Nat → NodeId → List NodeId
  | 0, _ => []
  | fuel + 1, node =>
    match t.parent? node with
    | none => []
    | some p => p :: ancestorsFrom fuel p

/-- A parent is older than its children, so a chain of parents is no longer than the tree is
large. -/
def ancestors (node : NodeId) : List NodeId := t.ancestorsFrom t.size node

/-- An entry and all below it with their depths, each before its children. -/
def preorderFrom : Nat → Nat → NodeId → List (Nat × NodeId)
  | 0, _, _ => []
  | fuel + 1, depth, node =>
    (depth, node) :: (t.children node).flatMap (preorderFrom fuel (depth + 1))

def preorder (node : NodeId) : List (Nat × NodeId) := t.preorderFrom t.size 0 node

end HeaderRecovery.Debug.EntryTree
