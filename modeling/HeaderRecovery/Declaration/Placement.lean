import HeaderRecovery.Debug.TypeSpelling

/-! What every declaration carries: the namespaces around it and its member access. -/
namespace HeaderRecovery
open Debug

inductive Access where
  | pub
  | prot
  | priv
  deriving DecidableEq, Repr

namespace Access

def ofCode? (code : UInt64) : Option Access :=
  match code.toNat with
  | 1 => some .pub
  | 2 => some .prot
  | 3 => some .priv
  | _ => none

def keyword : Access → String
  | .pub => "public"
  | .prot => "protected"
  | .priv => "private"

end Access

/-- A namespace around a declaration. An anonymous one has no name and is never inline. -/
structure Scope where
  name : String
  isInline : Bool
  deriving DecidableEq, Repr

namespace Scope

def isAnonymous (s : Scope) : Bool := s.name = ""

def ofEntry (t : EntryTree) (node : NodeId) : Scope :=
  let name := (t.shortName? node).getD ""
  ⟨name, name ≠ "" && t.flag node .exportSymbols⟩

/-- The line that opens the namespace. -/
def opening (s : Scope) : String :=
  if s.isAnonymous then "namespace \x7b\n"
  else (if s.isInline then "inline namespace " else "namespace ") ++ s.name ++ " \x7b\n"

/-- The line that closes the namespace. -/
def closing (s : Scope) : String :=
  if s.isAnonymous then "\x7d // namespace\n" else "\x7d // namespace " ++ s.name ++ "\n"

end Scope

structure Placement where
  /-- Enclosing namespaces, the outermost first. -/
  scopes : List Scope := []
  access : Option Access := none
  deriving DecidableEq, Repr

namespace Placement

def ofEntry (t : EntryTree) (node : NodeId) : Placement :=
  { access := (t.unsigned? node .accessibility).bind Access.ofCode? }

def merge (a b : Placement) : Placement :=
  { scopes := if a.scopes = [] then b.scopes else a.scopes
    access := a.access.or b.access }

end Placement

/-- The name of an entry, empty where it has none. -/
def nameOf (t : EntryTree) (node : NodeId) : String := (t.shortName? node).getD ""

/-- The first of two names that is not empty. -/
def firstName (a b : String) : String := if a = "" then b else a

/-- The first of two types that has been spelled. -/
def firstType (a b : Declarator) : Declarator := if a.before = "" then b else a

end HeaderRecovery
