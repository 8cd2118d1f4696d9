import HeaderRecovery.Debug.Vocabulary
import HeaderRecovery.Dwarf.Form

/-! Abbreviations: the shapes of entries, each a tag and the forms of its attributes. -/
namespace HeaderRecovery.Dwarf

open Binary

structure AttributeShape where
  name : Debug.Attribute
  /-- Missing when the form has no meaning here; an entry of this shape cannot be read. -/
  form : Option Form
  implicit : Option Int64

structure Abbreviation where
  code : Nat
  tag : Debug.Tag
  hasChildren : Bool
  attributes : List AttributeShape

namespace Abbreviation

/-- One attribute, or `none` at the pair of zeros that ends the attributes. -/
def readAttribute : Reader (Option AttributeShape) := do
  let name ← Reader.unsigned 16
  let form ← Reader.unsigned 16
  if name = 0 then
    Reader.require (form = 0)
    return none
  Reader.require (form ≠ 0)
  let form := Form.ofCode? form
  let implicit ← if form = some .implicit then some <$> Reader.signed 64 else pure none
  return some ⟨.ofCode (UInt16.ofNat name), form, implicit.map Int64.ofInt⟩

/-- One abbreviation, or `none` at the zero that ends the table. -/
def read : Reader (Option Abbreviation) := do
  let code ← Reader.unsigned 64
  if code = 0 then return none
  let tag ← Reader.unsigned 16
  Reader.require (tag ≠ 0)
  let children ← Reader.byte
  Reader.require (children = 0 ∨ children = 1)
  let attributes ← Reader.many readAttribute
  return some ⟨code, .ofCode (UInt16.ofNat tag), children = 1, attributes⟩

def distinctCodes : List Nat → Bool
  | [] => true
  | code :: rest => code ∉ rest && distinctCodes rest

/-- A table of abbreviations; no code may stand twice. -/
def readTable : Reader (List Abbreviation) := do
  let table ← Reader.many read
  Reader.require (distinctCodes (table.map (·.code)))
  return table

end Abbreviation
end HeaderRecovery.Dwarf
