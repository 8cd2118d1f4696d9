import HeaderRecovery.Declaration.Placement
import HeaderRecovery.Text.Find

/-! Using-directives, using-declarations and namespace aliases. -/
namespace HeaderRecovery
open Debug

inductive ImportForm where
  /-- Makes all names of a namespace visible. -/
  | directive
  /-- Makes one name visible. -/
  | declaration
  /-- Gives a namespace another name. -/
  | alias (name : String)
  deriving DecidableEq, Repr

structure NameImport where
  placement : Placement := {}
  form : ImportForm := .directive
  /-- Qualified name of what is imported; empty when it cannot be written. -/
  target : String := ""
  deriving DecidableEq, Repr

namespace NameImport

/-- The written name of an imported entry; there is none for anything without a name or inside
something without a name. -/
def targetName? (t : EntryTree) (imported : NodeId) : Option String :=
  if (t.shortName? imported).isNone || Text.contains "(anonymous" (t.qualifiedName imported) then none
  else some (t.qualifiedName imported)

def ofEntry (t : EntryTree) (node : NodeId) : NameImport :=
  let imported := t.target? node .importTarget
  let isNamespace : Bool := match imported with
    | some target => t.tag target = .namespaceScope
    | none => false
  { placement := .ofEntry t node
    form :=
      if t.tag node = .importedModule then .directive
      else match t.shortName? node with
        | some name => if isNamespace then .alias name else .declaration
        | none => .declaration
    target := (imported.bind (targetName? t)).getD "" }

def merge (a b : NameImport) : NameImport :=
  { placement := a.placement.merge b.placement
    form := if a.target = "" then b.form else a.form
    target := firstName a.target b.target }

def source (i : NameImport) : String :=
  match i.form with
  | .directive => "using namespace " ++ i.target ++ ";"
  | .declaration =>
    if Text.contains "::" i.target then "using " ++ i.target ++ ";" else "using ::" ++ i.target ++ ";"
  | .alias name => "namespace " ++ name ++ " = " ++ i.target ++ ";"

end NameImport
end HeaderRecovery
