/-! A C++ type cut at the place of the declared name: `int (*` and `)(char)` declare
`int (*cb)(char)`. -/
namespace HeaderRecovery

structure Declarator where
  /-- Text in front of the declared name. -/
  before : String
  /-- Text behind the declared name. -/
  after : String
  deriving DecidableEq, Repr, Inhabited

namespace Declarator

/-- A type with nothing behind the name. -/
def plain (name : String) : Declarator := ⟨name, ""⟩

/-- The type on its own. -/
def joined (d : Declarator) : String := d.before ++ d.after

def endsIn (marks : List Char) (text : String) : Bool :=
  match text.toList.getLast? with
  | some c => c ∈ marks
  | none => false

/-- The type declaring `name`. A name follows a pointer mark or an opening parenthesis
directly, and anything else after a space. -/
def declare (d : Declarator) (name : String) : String :=
  if name = "" then d.joined
  else if d.before = "" || endsIn ['*', '&', '('] d.before then d.before ++ name ++ d.after
  else d.before ++ " " ++ name ++ d.after

end Declarator
end HeaderRecovery
