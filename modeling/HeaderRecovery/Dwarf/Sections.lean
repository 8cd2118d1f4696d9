import HeaderRecovery.Binary.Cursor
import HeaderRecovery.Text.Utf8

/-! The sections of a program that hold its debugging information, and texts kept in them. -/
namespace HeaderRecovery.Dwarf

open Binary

structure Sections where
  abbreviations : Array UInt8
  addresses : Array UInt8
  info : Array UInt8
  lines : Array UInt8
  lineStrings : Array UInt8
  strings : Array UInt8
  stringOffsets : Array UInt8
  types : Array UInt8
  bigEndian : Bool

/-- How the numbers of one unit or line table are laid out. -/
structure Encoding where
  /-- Offsets and lengths take eight bytes. -/
  wide : Bool
  version : Nat
  addressSize : Nat

def Encoding.wordSize (e : Encoding) : Nat := if e.wide then 8 else 4

def readWord (e : Encoding) : Reader Nat := Reader.number e.wordSize

/-- The length at the start of a unit or a line table, and whether it is a wide one. -/
def readInitialLength : Reader (Nat × Bool) := do
  let length ← Reader.number 4
  if length < 0xfffffff0 then return (length, false)
  Reader.require (length = 0xffffffff)
  return (← Reader.number 8, true)

def readAddressSize : Reader Nat := do
  let size ← Reader.number 1
  Reader.require (size = 1 ∨ size = 2 ∨ size = 4 ∨ size = 8)
  return size

/-- A text of an entry or a line table, as it is written there. -/
inductive StringSource where
  | inline (bytes : List UInt8)
  | strings (offset : Nat)
  | lineStrings (offset : Nat)
  /-- A place in the table of string offsets. -/
  | indexed (index : Nat)
  /-- A string of another file, which is never at hand. -/
  | elsewhere

namespace Sections

def cursor (s : Sections) (bytes : Array UInt8) : Cursor := .ofBytes bytes s.bigEndian

/-- The value of `width` bytes in a table that starts at `base`. The place of an entry is
counted in 64 bits. -/
def tableEntry? (s : Sections) (table : Array UInt8) (base index width : Nat) : Option Nat :=
  let read := do
    Reader.skip base
    Reader.skip (index * width % UInt64.size)
    Reader.number width
  read.at? (s.cursor table)

def textAt? (s : Sections) (bytes : Array UInt8) (offset : Nat) : Option String :=
  let read := do
    Reader.skip offset
    Reader.zeroTerminated
  (read.at? (s.cursor bytes)).map Text.Utf8.decodeLossy

/-- The text itself; `none` when no text is there. `offsetsBase` is where the string offsets of
the unit start. -/
def text? (s : Sections) (e : Encoding) (offsetsBase : Nat) : StringSource → Option String
  | .inline bytes => some (Text.Utf8.decodeLossy bytes)
  | .strings offset => s.textAt? s.strings offset
  | .lineStrings offset => s.textAt? s.lineStrings offset
  | .indexed index =>
    (s.tableEntry? s.stringOffsets offsetsBase index e.wordSize).bind (s.textAt? s.strings)
  | .elsewhere => none

end Sections
end HeaderRecovery.Dwarf
