import HeaderRecovery.Dwarf.Sections

/-!
The forms in which attribute values are written, and the values before the attribute is taken
into account.
-/
namespace HeaderRecovery.Dwarf

open Binary

/-- A form by what is read: `width` and `length` count bytes, and a missing one stands for a
number of variable length. -/
inductive Form where
  | address
  | addressIndex (width : Option Nat)
  | block (length : Option Nat)
  /-- Sixteen bytes. -/
  | longData
  | data (width : Nat)
  | unsigned
  | signed
  /-- The value is kept in the abbreviation. -/
  | implicit
  | flag
  | present
  | inlineString
  | string
  | lineString
  | stringIndex (width : Option Nat)
  | stringElsewhere
  /-- An entry of the same unit. -/
  | unitReference (width : Option Nat)
  | infoReference
  | signature
  | referenceElsewhere (width : Option Nat)
  | sectionOffset
  | listIndex
  /-- The form stands before the value. -/
  | indirect
  deriving DecidableEq, Repr

namespace Form

def ofCode? (code : Nat) : Option Form :=
  match code with
  | 0x01 => some .address
  | 0x03 => some (.block (some 2))
  | 0x04 => some (.block (some 4))
  | 0x05 => some (.data 2)
  | 0x06 => some (.data 4)
  | 0x07 => some (.data 8)
  | 0x08 => some .inlineString
  | 0x09 => some (.block none)
  | 0x0a => some (.block (some 1))
  | 0x0b => some (.data 1)
  | 0x0c => some .flag
  | 0x0d => some .signed
  | 0x0e => some .string
  | 0x0f => some .unsigned
  | 0x10 => some .infoReference
  | 0x11 => some (.unitReference (some 1))
  | 0x12 => some (.unitReference (some 2))
  | 0x13 => some (.unitReference (some 4))
  | 0x14 => some (.unitReference (some 8))
  | 0x15 => some (.unitReference none)
  | 0x16 => some .indirect
  | 0x17 => some .sectionOffset
  | 0x18 => some (.block none)
  | 0x19 => some .present
  | 0x1a => some (.stringIndex none)
  | 0x1b => some (.addressIndex none)
  | 0x1c => some (.referenceElsewhere (some 4))
  | 0x1d => some .stringElsewhere
  | 0x1e => some .longData
  | 0x1f => some .lineString
  | 0x20 => some .signature
  | 0x21 => some .implicit
  | 0x22 => some .listIndex
  | 0x23 => some .listIndex
  | 0x24 => some (.referenceElsewhere (some 8))
  | 0x25 => some (.stringIndex (some 1))
  | 0x26 => some (.stringIndex (some 2))
  | 0x27 => some (.stringIndex (some 3))
  | 0x28 => some (.stringIndex (some 4))
  | 0x29 => some (.addressIndex (some 1))
  | 0x2a => some (.addressIndex (some 2))
  | 0x2b => some (.addressIndex (some 3))
  | 0x2c => some (.addressIndex (some 4))
  | 0x1f01 => some (.addressIndex none)
  | 0x1f02 => some (.stringIndex none)
  | 0x1f20 => some (.referenceElsewhere none)
  | 0x1f21 => some .stringElsewhere
  | _ => none

end Form

/-- A value as it is written, whatever its attribute. -/
inductive RawValue where
  | unsigned (value : UInt64)
  | signed (value : Int64)
  | flag (set : Bool)
  | block (bytes : List UInt8)
  | string (text : StringSource)
  | unitReference (offset : UInt64)
  | infoReference (offset : UInt64)
  | signature (value : UInt64)
  | sectionOffset (offset : Nat)
  | addressIndex (index : Nat)
  /-- An address, a place in a list table or an entry of another file. -/
  | unused

namespace Form

/-- Whether constants of this form are offsets into a section where an attribute allows both. -/
def isOffsetWidth (e : Encoding) : Form → Bool
  | .data width => width = e.wordSize
  | _ => false

/-- A value of a form other than `implicit` and `indirect`. -/
def readDirect (e : Encoding) : Form → Reader RawValue
  | .address => do Reader.skip e.addressSize; return .unused
  | .addressIndex width => do return .addressIndex (← Reader.count width)
  | .block length => do return .block (← Reader.bytes (← Reader.count length))
  | .longData => do return .block (← Reader.bytes 16)
  | .data width => do return .unsigned (UInt64.ofNat (← Reader.number width))
  | .unsigned => do return .unsigned (UInt64.ofNat (← Reader.unsigned 64))
  | .signed => do return .signed (Int64.ofInt (← Reader.signed 64))
  | .flag => do return .flag ((← Reader.byte) ≠ 0)
  | .present => return .flag true
  | .inlineString => do return .string (.inline (← Reader.zeroTerminated))
  | .string => do return .string (.strings (← readWord e))
  | .lineString => do return .string (.lineStrings (← readWord e))
  | .stringIndex width => do return .string (.indexed (← Reader.count width))
  | .stringElsewhere => do Reader.skip e.wordSize; return .string .elsewhere
  | .unitReference width => do return .unitReference (UInt64.ofNat (← Reader.count width))
  | .infoReference => do
    let width := if e.version = 2 then e.addressSize else e.wordSize
    return .infoReference (UInt64.ofNat (← Reader.number width))
  | .signature => do return .signature (UInt64.ofNat (← Reader.number 8))
  | .referenceElsewhere width => do Reader.skip (width.getD e.wordSize); return .unused
  | .sectionOffset => do return .sectionOffset (← readWord e)
  | .listIndex => do let _ ← Reader.unsigned 64; return .unused
  | .implicit | .indirect => Reader.fail

/-- Follows forms that only name another form. Each of them takes a byte at least. -/
def settle : Nat → Form → Reader Form
  | 0, _ => Reader.fail
  | fuel + 1, .indirect => do settle fuel (← Reader.ofOption (ofCode? (← Reader.unsigned 16)))
  | _, form => return form

/-- The value of an attribute. `implicit` is the value that the abbreviation keeps, and
`mayBeOffset` says that a word may be an offset into a section. -/
def read (e : Encoding) (mayBeOffset : Bool) (implicit : Option Int64) (form : Form) :
    Reader RawValue := do
  if form = .implicit then
    return .signed (← Reader.ofOption implicit)
  let form ← settle ((← get).remaining + 1) form
  if mayBeOffset && form.isOffsetWidth e then return .sectionOffset (← readWord e)
  form.readDirect e

end Form
end HeaderRecovery.Dwarf
