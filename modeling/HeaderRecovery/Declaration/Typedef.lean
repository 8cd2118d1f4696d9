import HeaderRecovery.Declaration.Placement

/-! Type aliases. An alias of an unnamed definition is a `typedef` that spells it out and may
declare several names; any other is a `using`. -/
namespace HeaderRecovery
open Debug

structure Typedef where
  placement : Placement := {}
  /-- Declared names in the order in which they were seen. -/
  names : List String := []
  target : String := ""
  /-- The unnamed type that the target spells out, if it does. -/
  inlined : Option EntryKey := none
  deriving DecidableEq, Repr

namespace Typedef

/-- Reads an alias. `definition` is the text of the unnamed definition it stands for. -/
def ofEntry (t : EntryTree) (definition : Option (NodeId × String)) (node : NodeId) : Typedef :=
  let names := (t.shortName? node).toList
  match definition with
  | some (type, text) =>
    { placement := .ofEntry t node, names, target := text, inlined := some (t.key type) }
  | none => { placement := .ofEntry t node, names, target := (t.spellTypeOf node).joined }

/-- Adds the names that are not in a list yet at its end. -/
def addNames (names more : List String) : List String :=
  more.foldl (fun acc n => if n ∈ acc then acc else acc ++ [n]) names

def merge (a b : Typedef) : Typedef :=
  { placement := a.placement.merge b.placement
    names := addNames a.names b.names
    target := if a.target = "" then b.target else a.target
    inlined := if a.target = "" then b.inlined else a.inlined }

/-- Aliases of one unnamed definition belong together; others are the same when name and target
are. -/
def sameAs (a b : Typedef) : Bool :=
  match a.inlined, b.inlined with
  | some k, some l => k = l
  | _, _ => a.names.head? = b.names.head? && a.target = b.target

def source (d : Typedef) : String :=
  if d.inlined.isSome then "typedef " ++ d.target ++ " " ++ ", ".intercalate d.names ++ ";"
  else "using " ++ d.names.headD "" ++ " = " ++ d.target ++ ";"

end Typedef
end HeaderRecovery
