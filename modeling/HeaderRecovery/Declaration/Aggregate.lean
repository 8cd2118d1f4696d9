import HeaderRecovery.Declaration.Template
import HeaderRecovery.SortedMap
import HeaderRecovery.Text.Lines

/-!
Classes, structs and unions. The members of an aggregate are grouped by the line they were
declared on; what a member is stays open here, so that aggregates can be members themselves.
The text of an aggregate is laid out from the texts and accesses of its members.
-/
namespace HeaderRecovery
open Debug

inductive AggregateKind where
  | classKind
  | structKind
  | unionKind
  deriving DecidableEq, Repr

namespace AggregateKind

def ofTag? : Tag → Option AggregateKind
  | .classType => some .classKind
  | .structureType => some .structKind
  | .unionType => some .unionKind
  | _ => none

def keyword : AggregateKind → String
  | .classKind => "class"
  | .structKind => "struct"
  | .unionKind => "union"

/-- The access of members and bases that state none. -/
def defaultAccess : AggregateKind → Access
  | .classKind => .priv
  | .structKind | .unionKind => .pub

end AggregateKind

structure BaseClass where
  access : Access
  isVirtual : Bool
  type : String
  deriving DecidableEq, Repr

structure Aggregate (Member : Type) where
  placement : Placement := {}
  kind : AggregateKind := .structKind
  name : String := ""
  byteSize : Option UInt64 := none
  bases : List BaseClass := []
  /-- Members by declaration line. -/
  members : SortedMap UInt64 (List Member) := .empty
  template : Option String := none

/-- What the layout of an aggregate needs to know of a member. -/
structure MemberText where
  access : Option Access
  text : String
  deriving DecidableEq, Repr

namespace BaseClass

def ofEntry (t : EntryTree) (kind : AggregateKind) (node : NodeId) : BaseClass :=
  { access :=
      ((t.unsigned? node .accessibility).bind Access.ofCode?).getD kind.defaultAccess
    isVirtual := ((t.unsigned? node .virtuality).getD 0) > 0
    type := (t.spellTypeOf node).joined }

def source (kind : AggregateKind) (b : BaseClass) : String :=
  (if b.access = kind.defaultAccess then "" else b.access.keyword ++ " ") ++
    (if b.isVirtual then "virtual " else "") ++ b.type

end BaseClass

namespace Aggregate

variable {Member : Type}

/-- Lines that only `b` has are added; lines of `a` keep their members. -/
def merge (a b : Aggregate Member) : Aggregate Member :=
  { placement := a.placement.merge b.placement
    kind := a.kind
    name := firstName a.name b.name
    byteSize := a.byteSize.or b.byteSize
    bases := if a.bases = [] then b.bases else a.bases
    members := b.members.entries.foldl (fun m e => m.insertNew e.1 e.2) a.members
    template := a.template.or b.template }

/-- One level of indentation; an empty line stays empty. -/
def indent (line : String) : String := if line = "" then "" else "    " ++ line

/-- An access label, set off by an empty line unless it stands among the first members. -/
def label (isFirst : Bool) (access : Access) : List String :=
  (if isFirst then [] else [""]) ++ [access.keyword ++ ":"]

/-- The lines of a group of members, and the access in force behind them. -/
def groupLines (default : Access) (isFirst : Bool) :
    Access → List MemberText → List String × Access
  | current, [] => ([], current)
  | current, m :: rest =>
    let access := m.access.getD default
    let (lines, last) := groupLines default isFirst access rest
    ((if access = current then [] else label isFirst access) ++
      (Text.lines m.text).map indent ++ lines, last)

/-- The lines of all groups in order. -/
def bodyLines (default : Access) (isFirst : Bool) :
    Access → List (List MemberText) → List String
  | _, [] => []
  | current, group :: rest =>
    let (lines, last) := groupLines default isFirst current group
    lines ++ bodyLines default false last rest

/-- Keyword, name and bases. -/
def head (a : Aggregate Member) : String :=
  a.kind.keyword ++ (if a.name = "" then "" else " " ++ a.name) ++
    (if a.bases = [] then ""
      else " : " ++ ", ".intercalate (a.bases.map (BaseClass.source a.kind)))

/-- A check of the size, for aggregates that have a name. -/
def sizeCheck (a : Aggregate Member) : String :=
  match a.byteSize with
  | some size =>
    if a.name = "" then ""
    else "\nstatic_assert(sizeof(" ++ a.name ++ ") == " ++ toString size.toNat ++ ");"
  | none => ""

/-- The text of an aggregate whose member groups have the given texts. -/
def layout (a : Aggregate Member) (groups : List (List MemberText)) : String :=
  let default := a.kind.defaultAccess
  Template.comment a.template ++ a.head ++ " \x7b\n" ++
    String.join ((bodyLines default true default groups).map (· ++ "\n")) ++ "\x7d;" ++
    a.sizeCheck

end Aggregate
end HeaderRecovery
