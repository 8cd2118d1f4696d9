import HeaderRecovery.Debug.Entry
import HeaderRecovery.Dwarf.Sections

/-!
Units of debugging information and their headers. A unit is known by the bytes it takes up and by
its offset in its section; places inside it count from the first byte of the header.
-/
namespace HeaderRecovery.Dwarf

open Binary

/-- What a type unit defines: the signature of a type, and where in the unit it stands. -/
structure TypeLink where
  signature : UInt64
  offset : UInt64

structure UnitHeader where
  encoding : Encoding
  abbreviationOffset : Nat
  /-- Present in type units only. -/
  typeLink : Option TypeLink

/-- A unit as found in its section. -/
structure UnitBlock where
  offset : Nat
  header : UnitHeader
  bytes : Array UInt8
  /-- Where the first entry starts. -/
  start : Nat

/-- Type units count their offsets in the family of types, whichever section they are in. -/
def UnitBlock.part (u : UnitBlock) : Debug.Section :=
  if u.header.typeLink.isSome then .type else .info

namespace UnitHeader

def readTypeLink (e : Encoding) : Reader TypeLink := do
  let signature ← Reader.number 8
  return ⟨UInt64.ofNat signature, UInt64.ofNat (← readWord e)⟩

/-- The header behind the initial length. Before version 5 the section decides what kind of
unit it is, from then on the unit does. -/
def read (wide inTypes : Bool) : Reader UnitHeader := do
  let version ← Reader.number 2
  let e : Encoding := ⟨wide, version, 0⟩
  if 2 ≤ version ∧ version ≤ 4 then
    let abbreviations ← readWord e
    let e := { e with addressSize := ← readAddressSize }
    return ⟨e, abbreviations, ← if inTypes then some <$> readTypeLink e else pure none⟩
  Reader.require (version = 5)
  let kind ← Reader.number 1
  let e := { e with addressSize := ← readAddressSize }
  let abbreviations ← readWord e
  match kind with
  | 1 | 3 => return ⟨e, abbreviations, none⟩
  | 4 | 5 =>
    Reader.skip 8
    return ⟨e, abbreviations, none⟩
  | 2 | 6 => return ⟨e, abbreviations, some (← readTypeLink e)⟩
  | _ => Reader.fail

end UnitHeader

namespace UnitBlock

/-- The unit at the cursor. -/
def read (inTypes : Bool) : Reader UnitBlock := do
  let c ← get
  let (length, wide) ← readInitialLength
  let lead := (← get).position - c.position
  Reader.skip length
  let bytes := c.bytes.extract c.position (c.position + lead + length)
  let body := (Cursor.ofBytes bytes c.bigEndian).advance lead
  let (header, entries) ← Reader.ofOption ((UnitHeader.read wide inTypes) body)
  return ⟨c.position, header, bytes, entries.position⟩

/-- All units of a section, one behind the other to its end. -/
def readAll (inTypes : Bool) : Reader (List UnitBlock) :=
  Reader.many do
    if (← get).atEnd then return none
    return some (← read inTypes)

/-- The units of both sections, those of `types` first; `none` when any header is broken. -/
def ofSections? (s : Sections) : Option (List UnitBlock) := do
  let types ← (readAll true).at? (s.cursor s.types)
  let info ← (readAll false).at? (s.cursor s.info)
  return types ++ info

end UnitBlock
end HeaderRecovery.Dwarf
