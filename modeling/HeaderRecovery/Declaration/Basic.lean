import HeaderRecovery.Declaration.Aggregate
import HeaderRecovery.Declaration.Field
import HeaderRecovery.Declaration.Function
import HeaderRecovery.Declaration.NameImport
import HeaderRecovery.Declaration.Typedef

/-!
Declarations of every kind. Two sightings of one declaration are merged: the first value of a
property wins, lists are filled while they are empty, and yes-or-no properties add up.
-/
namespace HeaderRecovery
open Debug

inductive Declaration where
  | typedef (d : Typedef)
  | parameter (d : Parameter)
  | function (d : Function)
  | enumeration (d : Enumeration)
  | field (d : Field)
  | nameImport (d : NameImport)
  | aggregate (d : Aggregate Declaration)

/-- What an entry is read as. -/
inductive DeclarationKind where
  | typedef
  | parameter
  | function (isMember : Bool)
  | enumeration
  | field
  /-- A variable at namespace scope. -/
  | scopeVariable
  | nameImport
  | aggregate (kind : AggregateKind)
  deriving DecidableEq, Repr

namespace DeclarationKind

/-- The kind of an entry that can stand on its own at file or namespace scope. -/
def ofTag? : Tag → Option DeclarationKind
  | .typedef => some .typedef
  | .subprogram => some (.function false)
  | .enumerationType => some .enumeration
  | .dataVariable => some .scopeVariable
  | .importedModule | .importedDeclaration => some .nameImport
  | tag => (AggregateKind.ofTag? tag).map .aggregate

/-- Every kind but an import is registered under a name of its own. -/
def requiresName (kind : DeclarationKind) : Bool := kind ≠ .nameImport

end DeclarationKind

namespace Declaration

def kind : Declaration → DeclarationKind
  | typedef _ => .typedef
  | parameter _ => .parameter
  | function d => .function d.isMember
  | enumeration _ => .enumeration
  | field d => if d.isVariable then .scopeVariable else .field
  | nameImport _ => .nameImport
  | aggregate d => .aggregate d.kind

def placement : Declaration → Placement
  | typedef d => d.placement
  | parameter d => d.placement
  | function d => d.placement
  | enumeration d => d.placement
  | field d => d.placement
  | nameImport d => d.placement
  | aggregate d => d.placement

def setPlacement (p : Placement) : Declaration → Declaration
  | typedef d => typedef { d with placement := p }
  | parameter d => parameter { d with placement := p }
  | function d => function { d with placement := p }
  | enumeration d => enumeration { d with placement := p }
  | field d => field { d with placement := p }
  | nameImport d => nameImport { d with placement := p }
  | aggregate d => aggregate { d with placement := p }

/-- The enclosing namespaces, the outermost first. -/
def scopes (d : Declaration) : List Scope := d.placement.scopes

def setScopes (scopes : List Scope) (d : Declaration) : Declaration :=
  d.setPlacement { d.placement with scopes }

def access (d : Declaration) : Option Access := d.placement.access

/-- The declared name; of several aliases the first. -/
def name : Declaration → String
  | typedef d => d.names.headD ""
  | parameter d => d.name
  | function d => d.name
  | enumeration d => d.name
  | field d => d.name
  | nameImport d => d.target
  | aggregate d => d.name

/-- An import without a target cannot be written. -/
def isRenderable : Declaration → Bool
  | nameImport d => d.target ≠ ""
  | _ => true

/-- Folds a later sighting of a declaration into an earlier one; a sighting of another kind
changes nothing. -/
def merge : Declaration → Declaration → Declaration
  | typedef a, typedef b => typedef (a.merge b)
  | parameter a, parameter b => parameter (a.merge b)
  | function a, function b => function (a.merge b)
  | enumeration a, enumeration b => enumeration (a.merge b)
  | field a, field b => field (a.merge b)
  | nameImport a, nameImport b => nameImport (a.merge b)
  | aggregate a, aggregate b => aggregate (a.merge b)
  | a, _ => a

/-- Whether two sightings in the same namespaces declare the same thing. -/
def sameAs (a b : Declaration) : Bool :=
  a.scopes = b.scopes &&
    match a, b with
    | typedef a, typedef b => a.sameAs b
    | function a, function b => a.sameAs b
    | aggregate a, aggregate b => a.kind = b.kind && a.name ≠ "" && a.name = b.name
    | enumeration a, enumeration b => a.name ≠ "" && a.name = b.name
    | field a, field b => a.isVariable = b.isVariable && a.name ≠ "" && a.name = b.name
    | nameImport a, nameImport b => a.form = b.form && a.target = b.target
    | parameter a, parameter b => a.name = b.name
    | _, _ => false

mutual

/-- The declaration as C++ text. -/
def source : Declaration → String
  | typedef d => d.source
  | parameter d => d.source
  | function d => d.source
  | enumeration d => d.source
  | field d => d.source
  | nameImport d => d.source
  | aggregate ⟨placement, kind, name, size, bases, ⟨groups⟩, template⟩ =>
    (⟨placement, kind, name, size, bases, ⟨groups⟩, template⟩ : Aggregate Declaration).layout
      (groupTexts groups)

/-- The member texts of every group. -/
def groupTexts : List (UInt64 × List Declaration) → List (List MemberText)
  | [] => []
  | (_, members) :: rest => memberTexts members :: groupTexts rest

def memberTexts : List Declaration → List MemberText
  | [] => []
  | d :: rest => ⟨d.access, d.source⟩ :: memberTexts rest

end

end Declaration
end HeaderRecovery
