import HeaderRecovery.Path.Lexical
import HeaderRecovery.Text.Blank

/-! Full paths of the files that a line table lists. -/
namespace HeaderRecovery.Dwarf.FileName

/-- A listed directory seen from the directory of the compilation. -/
def directory (compileDirectory listed : String) : String :=
  let here := Text.trimmed compileDirectory
  if listed = "" then here
  else if Path.isAbsolute listed || here = "" then listed
  else Path.join here listed

/-- The directory of an index, or that of the compilation where the table has none. Version 5
lists the directory of the compilation first; older tables leave it out and count from one. -/
def directoryAt (version : Nat) (compileDirectory : String) (directories : List String)
    (index : Nat) : String :=
  let listed := if version ≥ 5 then directories[index]?
    else if index = 0 then none else directories[index - 1]?
  match listed with
  | some listed => directory compileDirectory listed
  | none => compileDirectory

/-- The path of a file in the directory of an index. A file without a name has none. -/
def resolve (version : Nat) (compileDirectory : String) (directories : List String)
    (index : Nat) (name : String) : String :=
  if name = "" then ""
  else if Path.isAbsolute name then Path.normalize name
  else
    let directory := directoryAt version compileDirectory directories index
    if directory = "" then Path.normalize name else Path.join directory name

end HeaderRecovery.Dwarf.FileName
