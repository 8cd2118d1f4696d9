import HeaderRecovery.Toml.Number

/-! Values: scalars, arrays and tables between braces. -/
namespace HeaderRecovery.Toml.Scanner

def number : Scanner Scalar :=
  firstOf [do moment; return .moment, return .float (← float), return .integer (← integer)]

def scalar : Scanner Scalar := do
  match ← next? with
  | some '"' | some '\'' => return .string (← string)
  | some '_' => return .integer (← integer)
  | some 't' => committed (do exactly "true".toList; return .boolean true)
  | some 'f' => committed (do exactly "false".toList; return .boolean false)
  | some '.' | some 'i' | some 'n' => return .float (← float)
  | some c => if c.isDigit || c = '+' || c = '-' then number else refuse
  | none => refuse

/-- Items between brackets; a comma may stand behind the last one. -/
def array (item : Scanner Node) : Scanner Node := do
  let offset ← offset
  let _ ← char '['
  committed do
    let items ← separated (gap *> item <* gap) (char ',')
    let _ ← optional (char ',')
    gap
    let _ ← char ']'
    return .array offset false items

/-- A path, an equals sign and a value. -/
def assignment (value : Scanner Node) : Scanner (List Key × Node) := do
  let keys ← path
  let _ ← committed (char '=')
  return (keys, ← committed (spaces *> value))

/-- Adds an assigned value to a table. -/
def assigned? (table : Node) : List Key × Node → Option Node
  | (keys, value) => do table.addValue? keys.dropLast (← keys.getLast?) value

def bracedTable (item : Scanner Node) : Scanner Node := do
  let offset ← offset
  let _ ← char '\x7b'
  committed do
    let table ← certain .hard do
      let entries ← separated (assignment item <* spaces) (char ',')
      spaces
      return entries.foldlM assigned? (.table (some offset) .braced [])
    let _ ← char '\x7d'
    return table

/-- A value in which arrays and tables nest no deeper than `levels`. -/
def value (levels : Nat) : Scanner Node := do
  match ← next?, levels with
  | some '[', 0 | some '\x7b', 0 => abort
  | some '[', levels + 1 => array (value levels)
  | some '\x7b', levels + 1 => bracedTable (value levels)
  | _, _ =>
    let offset ← offset
    return .scalar offset (← scalar)

end HeaderRecovery.Toml.Scanner
