import HeaderRecovery.Dwarf.Abbreviation
import HeaderRecovery.Dwarf.Meaning
import HeaderRecovery.Dwarf.UnitHeader

/-!
The entries of one unit, read from the unit's own bytes and the sections all units share. What
other units hold has no part in it.

A unit whose head is broken has no contents. Past the head an error ends the unit where it is:
what stands before it is kept, also the attributes of the entry it lies in.
-/
namespace HeaderRecovery.Dwarf

open Binary Debug

/-- An entry with its depth below the root of its unit, in written form or with its meaning. -/
structure EntryRecord (α : Type) where
  depth : Nat
  /-- Where in the unit it starts. -/
  offset : Nat
  tag : Tag
  attributes : List (Attribute × α)

structure UnitContents where
  part : Section
  base : UInt64
  typeLink : Option TypeLink
  root : EntryRecord Value
  /-- The entries below the root, each before its children. -/
  below : List (EntryRecord Value)

/-- The attributes of an entry up to the first broken one; past the last one where it ends. -/
def readAttributes (e : Encoding) : List AttributeShape → Cursor →
    List (Attribute × RawValue) × Option Cursor
  | [], c => ([], some c)
  | shape :: rest, c =>
    let read := do
      (← Reader.ofOption shape.form).read e (mayBeOffset e.version shape.name) shape.implicit
    match read c with
    | none => ([], none)
    | some (value, c) =>
      let (values, last) := readAttributes e rest c
      ((shape.name, value) :: values, last)

/-- The abbreviation of the entry at the cursor; `some none` stands for the code zero, which ends
a list of children. -/
def readShape (table : List Abbreviation) : Reader (Option Abbreviation) := do
  let code ← Reader.unsigned 64
  if code = 0 then return none
  some <$> Reader.ofOption (table.find? (·.code = code))

/-- The entries from the cursor on, in a list of children `depth` levels below the root. Each
takes a byte at least. -/
def readEntries (e : Encoding) (table : List Abbreviation) :
    Nat → Nat → Cursor → List (EntryRecord RawValue)
  | 0, _, _ => []
  | fuel + 1, depth, c =>
    match readShape table c with
    | none => []
    | some (none, c) => if depth ≤ 1 then [] else readEntries e table fuel (depth - 1) c
    | some (some shape, c') =>
      let (attributes, last) := readAttributes e shape.attributes c'
      ⟨depth, c.position, shape.tag, attributes⟩ ::
        match last with
        | none => []
        | some c => readEntries e table fuel (if shape.hasChildren then depth + 1 else depth) c

/-- The root of a unit and the cursor at its children, if it may have any. -/
def readRoot? (e : Encoding) (table : List Abbreviation) (c : Cursor) :
    Option (EntryRecord RawValue × Option Cursor) :=
  match readShape table c with
  | some (some shape, c') =>
    match readAttributes e shape.attributes c' with
    | (attributes, some last) =>
      some (⟨0, c.position, shape.tag, attributes⟩, if shape.hasChildren then some last else none)
    | (_, none) => none
  | _ => none

namespace EntryRecord

/-- The last value of an attribute. -/
def last? (root : EntryRecord RawValue) (attr : Attribute) : Option RawValue :=
  (root.attributes.reverse.find? fun a => a.1 = attr).map (·.2)

/-- The last offset into a section that one of these attributes gives. -/
def lastOffset? (root : EntryRecord RawValue) (attrs : List Attribute) : Option Nat :=
  root.attributes.reverse.findSome? fun (attr, value) =>
    match value with
    | .sectionOffset offset => if attr ∈ attrs then some offset else none
    | _ => none

/-- The attributes that mean something here, with their values. -/
def interpret (s : Surroundings) (entry : EntryRecord RawValue) : EntryRecord Value :=
  ⟨entry.depth, entry.offset, entry.tag,
    entry.attributes.filterMap fun (attr, raw) => (s.value? attr raw).map (attr, ·)⟩

end EntryRecord

/-- The text that a value stands for, if it is a string. -/
def RawValue.text? (text? : StringSource → Option String) : RawValue → Option String
  | .string source => text? source
  | _ => none

/-- Whether the root's start address can be found, where it is given by an index. -/
def startIsKnown (s : Sections) (e : Encoding) (root : EntryRecord RawValue) : Bool :=
  match root.last? .lowPc with
  | some (.addressIndex index) =>
    let base := (root.lastOffset? [.addressBase, .vendorAddressBase]).getD 0
    (s.tableEntry? s.addresses base index e.addressSize).isSome
  | _ => true

/-- The files of the line table that the root names; `none` when that table is broken. -/
def fileTable? (s : Sections) (e : Encoding) (text? : StringSource → Option String)
    (root : EntryRecord RawValue) : Option FileTable :=
  match root.lastOffset? [.statementList] with
  | none => some .empty
  | some offset => do
    let read := do
      Reader.skip offset
      LineTable.read e.addressSize
    let lines ← read.at? (s.cursor s.lines)
    let directory := (root.last? .compileDirectory).bind (RawValue.text? text?)
    return .ofLines lines text? (directory.getD "")

/-- The abbreviations that a unit uses. -/
def abbreviations? (s : Sections) (offset : Nat) : Option (List Abbreviation) :=
  let read := do
    Reader.skip offset
    Abbreviation.readTable
  read.at? (s.cursor s.abbreviations)

/-- The contents of a unit, unless its abbreviations, its root, its line table or its start
address cannot be read. -/
def UnitContents.ofBlock? (s : Sections) (u : UnitBlock) : Option UnitContents := do
  let e := u.header.encoding
  let table ← abbreviations? s u.header.abbreviationOffset
  let (root, children) ← readRoot? e table ((s.cursor u.bytes).advance u.start)
  let text? := s.text? e ((root.lastOffset? [.stringOffsetsBase]).getD 0)
  let files ← fileTable? s e text? root
  guard (startIsKnown s e root)
  let surroundings : Surroundings := ⟨u.part, UInt64.ofNat u.offset, text?, files⟩
  let below := match children with
    | some c => readEntries e table (c.remaining + 1) 1 c
    | none => []
  return {
    part := u.part
    base := UInt64.ofNat u.offset
    typeLink := u.header.typeLink
    root := root.interpret surroundings
    below := below.map (·.interpret surroundings) }

end HeaderRecovery.Dwarf
