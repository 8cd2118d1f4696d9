import HeaderRecovery.Binary.Cursor

/-!
Object files in the ELF format, as far as it takes to find a section by its name. Besides the
sections, the tables that an image announces (segments, symbols, relocations) have to be in place.
-/
namespace HeaderRecovery.Elf

open Binary

structure SectionHeader where
  name : Nat
  kind : Nat
  flags : Nat
  offset : Nat
  size : Nat
  link : Nat
  info : Nat
  deriving DecidableEq

namespace SectionHeader

def isSymbols (h : SectionHeader) : Bool := h.kind = 2

def isStrings (h : SectionHeader) : Bool := h.kind = 3

/-- The section takes no room in the file. -/
def isEmpty (h : SectionHeader) : Bool := h.kind = 8

def isDynamicSymbols (h : SectionHeader) : Bool := h.kind = 11

def isSymbolIndexes (h : SectionHeader) : Bool := h.kind = 18

def isRelocations (h : SectionHeader) : Bool := h.kind = 4 ∨ h.kind = 9

def isCompressed (h : SectionHeader) : Bool := h.flags / 0x800 % 2 = 1

/-- The contents, if they lie in the file. -/
def contents? (h : SectionHeader) (file : Array UInt8) : Option (Array UInt8) :=
  if h.isEmpty then some #[]
  else if h.offset + h.size ≤ file.size then some (file.extract h.offset (h.offset + h.size))
  else none

/-- The end can be counted in 64 bits. -/
def hasEnd (h : SectionHeader) : Bool := h.offset + h.size < UInt64.size

end SectionHeader

/-- The fields of the file header that are used. Offsets and sizes take `width` bytes. -/
structure FileHeader where
  width : Nat
  bigEndian : Bool
  segmentOffset : Nat
  sectionOffset : Nat
  segmentSize : Nat
  segmentCount : Nat
  sectionSize : Nat
  sectionCount : Nat
  nameIndex : Nat

namespace FileHeader

/-- The identification: magic number, word size, byte order and version. -/
def readIdentification : Reader (Nat × Bool) := do
  let magic ← Reader.bytes 4
  Reader.require (magic = [0x7f, 0x45, 0x4c, 0x46])
  let width ← match ← Reader.byte with
    | 1 => pure 4
    | 2 => pure 8
    | _ => Reader.fail
  let bigEndian ← match ← Reader.byte with
    | 1 => pure false
    | 2 => pure true
    | _ => Reader.fail
  Reader.require ((← Reader.byte) = 1)
  Reader.skip 9
  return (width, bigEndian)

def read : Reader FileHeader := do
  let (width, bigEndian) ← readIdentification
  modify fun c => { c with bigEndian }
  Reader.skip (8 + width)
  let segmentOffset ← Reader.number width
  let sectionOffset ← Reader.number width
  Reader.skip 6
  let segmentSize ← Reader.number 2
  let segmentCount ← Reader.number 2
  let sectionSize ← Reader.number 2
  let sectionCount ← Reader.number 2
  let nameIndex ← Reader.number 2
  return ⟨width, bigEndian, segmentOffset, sectionOffset, segmentSize, segmentCount, sectionSize,
    sectionCount, nameIndex⟩

/-- The size of a section header. -/
def sectionHeaderSize (h : FileHeader) : Nat := if h.width = 8 then 64 else 40

/-- The size of a segment header. -/
def segmentHeaderSize (h : FileHeader) : Nat := if h.width = 8 then 56 else 32

/-- The size of a symbol. -/
def symbolSize (h : FileHeader) : Nat := if h.width = 8 then 24 else 16

def readSection (width : Nat) : Reader SectionHeader := do
  let name ← Reader.number 4
  let kind ← Reader.number 4
  let flags ← Reader.number width
  Reader.skip width
  let offset ← Reader.number width
  let size ← Reader.number width
  let link ← Reader.number 4
  let info ← Reader.number 4
  Reader.skip (2 * width)
  return ⟨name, kind, flags, offset, size, link, info⟩

/-- The first `n` section headers of the table. -/
def sections? (h : FileHeader) (file : Array UInt8) (n : Nat) : Option (List SectionHeader) :=
  if h.sectionSize ≠ h.sectionHeaderSize then none
  else
    let read := do
      Reader.skip h.sectionOffset
      Reader.repeated (readSection h.width) n
    read.at? (.ofBytes file h.bigEndian)

/-- The first section header, which takes up what does not fit the file header; a file without
sections has none. -/
def overflow? (h : FileHeader) (file : Array UInt8) : Option (Option SectionHeader) :=
  if h.sectionOffset = 0 then some none
  else (h.sections? file 1).map List.head?

/-- All section headers; their number may stand in the first one. -/
def allSections? (h : FileHeader) (file : Array UInt8) : Option (List SectionHeader) := do
  if h.sectionOffset = 0 then return []
  let count ← if h.sectionCount > 0 then some h.sectionCount
    else (h.overflow? file).map fun first => (first.map (·.size)).getD 0
  if count = 0 then return []
  h.sections? file count

/-- Whether the segment headers lie in the file. -/
def hasSegments (h : FileHeader) (file : Array UInt8) : Bool :=
  h.segmentOffset = 0 ||
    let count := if h.segmentCount < 0xffff then some h.segmentCount
      else (h.overflow? file).bind fun first => first.map (·.info)
    match count with
    | none => false
    | some n => n = 0 || h.segmentSize = h.segmentHeaderSize &&
        h.segmentOffset + n * h.segmentHeaderSize ≤ file.size

/-- The section that holds the names of sections. -/
def names? (h : FileHeader) (file : Array UInt8) (sections : List SectionHeader) :
    Option SectionHeader := do
  let index ← if h.nameIndex ≠ 0xffff then some h.nameIndex
    else (h.overflow? file).bind fun first => first.map (·.link)
  let names ← sections[index]?
  guard (names.isEmpty || names.hasEnd)
  return names

end FileHeader

/-- Whether the first symbol table of a kind and the tables that belong to it are in place. -/
def symbolsInPlace (file : Array UInt8) (sections : List SectionHeader)
    (wanted : SectionHeader → Bool) : Bool :=
  match sections.findIdx? wanted with
  | none => true
  | some index =>
    let symbols := sections[index]?
    let names := (symbols.bind fun s => if s.link = 0 then none else sections[s.link]?)
    (symbols.bind (·.contents? file)).isSome &&
      names.any (fun n => n.isStrings && n.hasEnd) &&
      sections.all fun s =>
        !(s.isSymbolIndexes && s.link = index) || (s.contents? file).isSome

/-- Whether relocations for the symbol table change sections that exist. -/
def relocationsInPlace (sections : List SectionHeader) : Bool :=
  let symbols := (sections.findIdx? SectionHeader.isSymbols).getD 0
  sections.all fun s => !(s.isRelocations && s.link = symbols) || s.info < sections.length

structure Image where
  file : Array UInt8
  bigEndian : Bool
  sections : List SectionHeader
  /-- Names of sections, each ended by a zero. -/
  names : Array UInt8

namespace Image

/-- The image in a file; `none` when the file is none or a table it announces is not in place. -/
def ofFile? (file : Array UInt8) : Option Image := do
  let header ← FileHeader.read.at? (.ofBytes file false)
  guard (header.hasSegments file)
  let sections ← header.allSections? file
  if sections = [] then return ⟨file, header.bigEndian, [], #[]⟩
  let names ← header.names? file sections
  guard (symbolsInPlace file sections SectionHeader.isSymbols)
  guard (symbolsInPlace file sections SectionHeader.isDynamicSymbols)
  guard (relocationsInPlace sections)
  return ⟨file, header.bigEndian, sections, (names.contents? file).getD #[]⟩

/-- The name of a section; a broken one has none. -/
def name? (image : Image) (h : SectionHeader) : Option (List UInt8) :=
  let read := do
    Reader.skip h.name
    Reader.zeroTerminated
  read.at? (.ofBytes image.names image.bigEndian)

/-- The contents of the first section with a name. Those that are compressed or lie outside of
the file are taken to be empty. -/
def sectionNamed (image : Image) (name : String) : Array UInt8 :=
  match image.sections.find? fun h => image.name? h = some name.toUTF8.toList with
  | none => #[]
  | some h => if h.isCompressed then #[] else (h.contents? image.file).getD #[]

end Image
end HeaderRecovery.Elf
