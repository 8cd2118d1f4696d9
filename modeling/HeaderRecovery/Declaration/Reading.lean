import HeaderRecovery.Declaration.Basic
import HeaderRecovery.Options
import HeaderRecovery.Path.Lexical

/-!
Reading declarations from an entry tree.

An unnamed aggregate or enumeration is spelled out where a member, variable or alias has it as
its type, as far as the options allow that to nest. Damaged debugging information may describe
aggregates that contain themselves; reading such a declaration has no result.
-/
namespace HeaderRecovery.Declaration
open Debug

/-- Whether an entry is an aggregate or enumeration without a name. -/
def isUnnamedType (t : EntryTree) (node : NodeId) : Bool :=
  (t.tag node = .enumerationType || (AggregateKind.ofTag? (t.tag node)).isSome) &&
    (t.shortName? node).isNone

def isDataMember : Tag → Bool
  | .member | .dataVariable => true
  | _ => false

/-- The unnamed types of the data members of an aggregate. They are spelled out at these
members and are not nested definitions of their own. -/
def inlinedTypes (t : EntryTree) (node : NodeId) : List NodeId :=
  (((t.children node).map t.resolve).filter fun c => isDataMember (t.tag c)).filterMap fun c =>
    (t.target? c .type).filter (isUnnamedType t)

/-- What a child of an aggregate is read as when it is a member. -/
def memberKind? (t : EntryTree) (inlined : List NodeId) (child : NodeId) :
    Option DeclarationKind :=
  match t.tag child with
  | .member | .dataVariable => some .field
  | .typedef => some .typedef
  | .subprogram => some (.function true)
  | .enumerationType => if child ∈ inlined then none else some .enumeration
  | tag =>
    if child ∈ inlined then none else (AggregateKind.ofTag? tag).map .aggregate

/-- Whether a child is declared in another file than its aggregate. -/
def isForeign (t : EntryTree) (node child : NodeId) : Bool :=
  match t.declaredFile? node, t.declaredFile? child with
  | some own, some theirs => Path.normalize theirs ≠ Path.normalize own
  | _, _ => false

/-- The children of an aggregate, declarations with a signature replaced by their definitions
and those from other files left out. -/
def localChildren (t : EntryTree) (node : NodeId) : List NodeId :=
  ((t.children node).map t.resolve).filter fun c => !isForeign t node c

def baseClasses (t : EntryTree) (kind : AggregateKind) (node : NodeId) : List BaseClass :=
  ((localChildren t node).filter fun c => t.tag c = .inheritance).map (BaseClass.ofEntry t kind)

/-- The children that are members, each with its line and what it is read as. A member without
a line is left out. -/
def memberEntries (t : EntryTree) (node : NodeId) :
    List (UInt64 × DeclarationKind × NodeId) :=
  let inlined := inlinedTypes t node
  (localChildren t node).filterMap fun c =>
    match memberKind? t inlined c, t.declaredLine? c with
    | some kind, some line => if line > 0 then some (line, kind, c) else none
    | _, _ => none

/-- Adds a member to its line unless the line is full. -/
def placeMember (cap : Nat) (read : DeclarationKind → NodeId → Option Declaration)
    (groups : SortedMap UInt64 (List Declaration))
    (entry : UInt64 × DeclarationKind × NodeId) :
    Option (SortedMap UInt64 (List Declaration)) :=
  if cap ≤ ((groups.find? entry.1).getD []).length then
    some (groups.alter entry.1 fun group => group.getD [])
  else (read entry.2.1 entry.2.2).map fun d =>
    groups.alter entry.1 fun group => group.getD [] ++ [d]

def dropRepeatsOf (last : String) : List Declaration → List Declaration
  | [] => []
  | d :: rest =>
    if d.source = last then dropRepeatsOf last rest else d :: dropRepeatsOf d.source rest

/-- Leaves one of every run of neighbours with the same text. -/
def dropRepeats : List Declaration → List Declaration
  | [] => []
  | d :: rest => d :: dropRepeatsOf d.source rest

/-- Reads an aggregate, given how its members are read. -/
def readAggregate (t : EntryTree) (options : Options)
    (read : DeclarationKind → NodeId → Option Declaration) (kind : AggregateKind)
    (node : NodeId) : Option (Aggregate Declaration) :=
  ((memberEntries t node).foldlM (placeMember options.maxEntriesPerLine read) .empty).map
    fun groups =>
      { placement := .ofEntry t node
        kind
        name := nameOf t node
        byteSize := t.unsigned? node .byteSize
        bases := baseClasses t kind node
        members := groups.map dropRepeats
        template := Template.clause? t node }

def dropSemicolon (text : String) : String :=
  let cs := text.toList
  if cs.getLast? = some ';' then String.ofList cs.dropLast else text

/-- The unnamed type that the type attribute of an entry refers to and its definition as text,
given how declarations one level deeper are read. There is none for any other type, nor beyond
the depth that the options allow. -/
def definition? (t : EntryTree) (options : Options) (depth : Nat)
    (read : DeclarationKind → NodeId → Option Declaration) (node : NodeId) :
    Option (Option (NodeId × String)) :=
  match (t.target? node .type).filter (isUnnamedType t) with
  | none => some none
  | some type =>
    match DeclarationKind.ofTag? (t.tag type) with
    | none => some none
    | some kind =>
      if options.maxInlineDepth ≤ depth then some none
      else (read kind type).map fun d => some (type, dropSemicolon d.source)

/-- Reads an entry inside `depth` definitions that are being spelled out. The first number
bounds how many declarations are read inside each other. -/
def readWithin (t : EntryTree) (options : Options) :
    Nat → Nat → DeclarationKind → NodeId → Option Declaration
  | 0, _, _, _ => none
  | fuel + 1, depth, kind, node =>
    let inlined := fun _ : Unit =>
      definition? t options depth (readWithin t options fuel (depth + 1)) node
    match kind with
    | .typedef => (inlined ()).map fun d => .typedef (.ofEntry t d node)
    | .parameter => some (.parameter (.ofEntry t node))
    | .function isMember => some (.function (.ofEntry t isMember node))
    | .enumeration => some (.enumeration (.ofEntry t node))
    | .field => (inlined ()).map fun d => .field (.ofEntry t (d.map (·.2)) node)
    | .scopeVariable => (inlined ()).map fun d => .field (.ofVariable t (d.map (·.2)) node)
    | .nameImport => some (.nameImport (.ofEntry t node))
    | .aggregate kind =>
      (readAggregate t options (readWithin t options fuel depth) kind node).map .aggregate

/-- More declarations than these inside each other repeat an entry at the same depth, and then
repeat it for ever. -/
def nestingBound (t : EntryTree) (options : Options) : Nat :=
  t.size * (options.maxInlineDepth + 1) + 2

/-- The declaration that `node` describes, read as one of `kind`; none if it contains itself
without end. -/
def ofEntry? (t : EntryTree) (options : Options) (kind : DeclarationKind) (node : NodeId) :
    Option Declaration :=
  readWithin t options (nestingBound t options) 0 kind node

end HeaderRecovery.Declaration
