import HeaderRecovery.Declaration.Placement
import HeaderRecovery.Text.Blank

/-! Template clauses, written as a comment line above the declaration they belong to. -/
namespace HeaderRecovery.Template
open Debug

/-- One template parameter; entries of other kinds are none. -/
def parameter? (t : EntryTree) (node : NodeId) : Option String :=
  let name := nameOf t node
  let text := match t.tag node with
    | .templateTypeParameter => some ("typename " ++ name)
    | .templateValueParameter => some ((t.spellTypeOf node).declare name)
    | .templateParameterPack => some ("typename... " ++ name)
    | .templateTemplateParameter => some ("template<typename> class " ++ name)
    | _ => none
  text.map Text.trimmedEnd

/-- The clause of the template parameters among the children of an entry. -/
def clause? (t : EntryTree) (node : NodeId) : Option String :=
  match (t.children node).filterMap (parameter? t) with
  | [] => none
  | params => some ("template <" ++ ", ".intercalate params ++ ">")

/-- The comment line of a clause. -/
def comment : Option String → String
  | some clause => "// " ++ clause ++ "\n"
  | none => ""

end HeaderRecovery.Template
