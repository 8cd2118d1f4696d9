import HeaderRecovery.Dwarf.Loading
import HeaderRecovery.Elf.Image

/-! The debugging information of an object file. -/
namespace HeaderRecovery.Dwarf

def Sections.ofImage (image : Elf.Image) : Sections where
  abbreviations := image.sectionNamed ".debug_abbrev"
  addresses := image.sectionNamed ".debug_addr"
  info := image.sectionNamed ".debug_info"
  lines := image.sectionNamed ".debug_line"
  lineStrings := image.sectionNamed ".debug_line_str"
  strings := image.sectionNamed ".debug_str"
  stringOffsets := image.sectionNamed ".debug_str_offsets"
  types := image.sectionNamed ".debug_types"
  bigEndian := image.bigEndian

/-- Why a file has no entry tree. -/
inductive LoadError where
  /-- The file is no object file, or a broken one. -/
  | object
  /-- The header of a unit is broken. -/
  | units
  deriving DecidableEq, Repr

def loadFile (file : Array UInt8) : Except LoadError Debug.EntryTree :=
  match Elf.Image.ofFile? file with
  | none => .error .object
  | some image =>
    match load? (.ofImage image) with
    | none => .error .units
    | some t => .ok t

end HeaderRecovery.Dwarf
