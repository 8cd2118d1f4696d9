import HeaderRecovery.Dwarf.UnitContents

/-! The entry tree of a whole program: its units one after the other, type units in front. -/
namespace HeaderRecovery.Dwarf

open Debug

namespace UnitContents

def keyAt (u : UnitContents) (offset : UInt64) : EntryKey := ⟨u.part, u.base + offset⟩

end UnitContents

def addAttributes (t : EntryTree) (node : NodeId) (attributes : List (Attribute × Value)) :
    EntryTree :=
  attributes.foldl (fun t (attr, value) => t.addAttribute node attr value) t

/-- Adds entries that stand below the entries `opened`, the innermost of these first. An entry
closes those that are not above it. -/
def addBelow (unit : UnitId) (keyAt : Nat → EntryKey) :
    EntryTree → List NodeId → List (EntryRecord Value) → EntryTree
  | t, _, [] => t
  | t, opened, entry :: rest =>
    let above := opened.drop (opened.length - entry.depth)
    let (t, node) := t.addEntry unit (keyAt entry.offset) entry.tag above.head?
    addBelow unit keyAt (addAttributes t node entry.attributes) (node :: above) rest

/-- Adds a unit and its entries behind those that are there. -/
def addContents (t : EntryTree) (u : UnitContents) : EntryTree :=
  let keyAt := fun (offset : Nat) => u.keyAt (UInt64.ofNat offset)
  let (t, unit, root) := t.addUnit u.part (keyAt u.root.offset) u.root.tag
    (u.typeLink.map (·.signature))
  let t := match u.typeLink with
    | some link => t.mapSignature link.signature (u.keyAt link.offset)
    | none => t
  addBelow unit keyAt (addAttributes t root u.root.attributes) [root] u.below

/-- The entries of all units that can be read; `none` when the header of a unit is broken. -/
def load? (s : Sections) : Option EntryTree :=
  (UnitBlock.ofSections? s).map fun units =>
    (units.filterMap (UnitContents.ofBlock? s)).foldl addContents .empty

end HeaderRecovery.Dwarf
