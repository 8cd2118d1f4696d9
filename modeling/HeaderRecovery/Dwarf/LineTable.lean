import HeaderRecovery.Dwarf.FileName
import HeaderRecovery.Dwarf.Form

/-!
The head of a line table: the directories and files that line numbers of a unit refer to. The
program behind the head is not read.
-/
namespace HeaderRecovery.Dwarf

open Binary

structure LineFile where
  name : StringSource
  directory : Nat

structure LineTable where
  encoding : Encoding
  directories : List StringSource
  files : List LineFile

namespace LineTable

/-- What one part of a directory or file entry says. -/
inductive Content where
  | path
  | directory
  | other

/-- A part of the entries from version 5 on. -/
structure Column where
  content : Content
  form : Option Form

def Column.isPath (c : Column) : Bool :=
  match c.content with
  | .path => true
  | _ => false

/-- The forms that a line table may use. -/
def allows : Form → Bool
  | .block _ | .longData | .data _ | .unsigned | .signed | .flag | .sectionOffset
  | .inlineString | .string | .lineString | .stringIndex _ | .stringElsewhere => true
  | _ => false

/-- The shape of the entries; each has one path. -/
def readColumns : Reader (List Column) := do
  let count ← Reader.number 1
  let columns ← Reader.times (do
    let content ← Reader.unsigned 64
    let form ← Reader.unsigned 16
    let content := match content with
      | 1 => Content.path
      | 2 => .directory
      | _ => .other
    return (⟨content, (Form.ofCode? form).filter allows⟩ : Column)) count
  Reader.require ((columns.filter Column.isPath).length = 1)
  return columns

/-- A value of a path or a directory index; what is no string has no text. -/
def stringOf : RawValue → StringSource
  | .string text => text
  | _ => .elsewhere

def indexOf? : RawValue → Option Nat
  | .unsigned n => some n.toNat
  | .signed n => if 0 ≤ n.toInt then some n.toInt.toNat else none
  | _ => none

/-- One directory or file, its columns read in order. -/
def readEntry (e : Encoding) : List Column → LineFile → Reader LineFile
  | [], entry => return entry
  | column :: rest, entry => do
    let form ← Reader.ofOption column.form
    let value ← form.readDirect e
    readEntry e rest (match column.content with
      | .path => { entry with name := stringOf value }
      | .directory => { entry with directory := (indexOf? value).getD entry.directory }
      | .other => entry)

def readEntries (e : Encoding) : Reader (List LineFile) := do
  let columns ← readColumns
  let count ← Reader.unsigned 64
  Reader.repeated (readEntry e columns ⟨.elsewhere, 0⟩) count

/-- A directory of the older tables, or `none` at the empty name that ends them. -/
def readDirectory : Reader (Option StringSource) := do
  let name ← Reader.zeroTerminated
  return if name = [] then none else some (.inline name)

/-- A file of the older tables, which also give its time and size. -/
def readFile : Reader (Option LineFile) := do
  let name ← Reader.zeroTerminated
  if name = [] then return none
  let directory ← Reader.unsigned 64
  let _ ← Reader.unsigned 64
  let _ ← Reader.unsigned 64
  return some ⟨.inline name, directory⟩

def requirePositive : Reader Unit := do Reader.require ((← Reader.byte) ≠ 0)

/-- The fields of the head between its length and the directories: the least length of an
instruction, from version 4 on the operations in one, the default of a flag, the line base and
range, and the lengths of the standard operations. -/
def skipSettings (version : Nat) : Reader Unit := do
  requirePositive
  if version ≥ 4 then requirePositive
  Reader.skip 2
  requirePositive
  let operations ← Reader.byte
  Reader.require (operations ≠ 0)
  Reader.skip (operations.toNat - 1)

/-- The head within the bytes that its length gives. -/
def readHead (e : Encoding) : Reader LineTable := do
  skipSettings e.version
  if e.version ≥ 5 then
    let directories ← readEntries e
    return ⟨e, directories.map (·.name), ← readEntries e⟩
  let directories ← Reader.many readDirectory
  return ⟨e, directories, ← Reader.many readFile⟩

/-- A line table; `addressSize` is that of the unit, which a table from version 5 on repeats. -/
def read (addressSize : Nat) : Reader LineTable := do
  let (length, wide) ← readInitialLength
  let table ← Reader.slice length
  let readTable : Reader LineTable := do
    let version ← Reader.number 2
    Reader.require (2 ≤ version ∧ version ≤ 5)
    let e : Encoding := ⟨wide, version, addressSize⟩
    let e ← if version = 5 then
        let size ← readAddressSize
        Reader.require ((← Reader.byte) = 0)
        pure { e with addressSize := size }
      else pure e
    let head ← Reader.slice (← readWord e)
    Reader.ofOption ((readHead e).at? head)
  Reader.ofOption (readTable.at? table)

end LineTable

/-- Paths by file number. -/
structure FileTable where
  /-- The number of the first file. -/
  first : Nat
  /-- A file whose name is not at hand has no path. -/
  paths : List (Option String)

namespace FileTable

def empty : FileTable := ⟨0, []⟩

def path? (t : FileTable) (number : Nat) : Option String :=
  if number < t.first then none else (t.paths[number - t.first]?).join

/-- The paths of a line table. From version 5 on files are counted from zero. -/
def ofLines (table : LineTable) (text? : StringSource → Option String)
    (compileDirectory : String) : FileTable :=
  let directories := table.directories.map fun d => (text? d).getD ""
  { first := if table.encoding.version ≥ 5 then 0 else 1
    paths := table.files.map fun file => (text? file.name).map
      (FileName.resolve table.encoding.version compileDirectory directories file.directory) }

end FileTable
end HeaderRecovery.Dwarf
