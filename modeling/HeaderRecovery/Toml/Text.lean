import HeaderRecovery.Toml.Node
import HeaderRecovery.Toml.Scanner

/-! Strings in their four forms, and the keys that are strings or bare words. -/
namespace HeaderRecovery.Toml.Scanner

def isHexDigit (c : Char) : Bool :=
  c.isDigit || ('a' ≤ c && c ≤ 'f') || ('A' ≤ c && c ≤ 'F')

def digitValue (c : Char) : Nat :=
  if c.isDigit then c.toNat - '0'.toNat
  else if 'a' ≤ c then c.toNat - 'a'.toNat + 10
  else c.toNat - 'A'.toNat + 10

/-- The number that digits write in a base. -/
def numeral (base : Nat) (digits : List Char) : Nat :=
  digits.foldl (fun n c => base * n + digitValue c) 0

/-- A character by `n` hexadecimal digits of its code. -/
def coded (n : Nat) : Scanner Char :=
  certain .soft do
    let digits ← upTo isHexDigit n
    let code := numeral 16 digits
    return if digits.length = n ∧ code.isValidChar then some (Char.ofNat code) else none

/-- The character of an escape. A letter that stands for none is passed before the failure, unless
it takes more than one byte. -/
def escape : Scanner Char := do
  let _ ← char '\\'
  let c ← ahead anyChar
  if c.toNat < 128 then
    let _ ← anyChar
  match c with
  | 'b' => return '\x08'
  | 'f' => return '\x0c'
  | 'n' => return '\n'
  | 'r' => return '\r'
  | 't' => return '\t'
  | 'u' => committed (coded 4)
  | 'U' => committed (coded 8)
  | '\\' => return '\\'
  | '"' => return '"'
  | _ => abort

def isBasic (c : Char) : Bool := isPrintable c && c ≠ '"' && c ≠ '\\'

def isLiteral (c : Char) : Bool := isPrintable c && c ≠ '\''

def escaped : Scanner (List Char) := return [← escape]

def lineBreak : Scanner (List Char) := do
  newline
  return ['\n']

/-- A backslash before the end of a line takes all blanks and line ends behind it away. -/
def foldedLines : Scanner (List Char) := do
  let _ ← many1 (char '\\' *> spaces *> newline *> spacesAndNewlines)
  return []

/-- A string in one line: pieces up to the quotation mark. -/
def shortString (mark : Char) (piece : Scanner (List Char)) : Scanner String := do
  let _ ← char mark
  let pieces ← many piece
  let _ ← committed (char mark)
  return String.ofList pieces.flatten

/-- One or two quotation marks, if `behind` can be read after them. -/
def marks (mark : Char) (behind : Scanner Unit) : Scanner (List Char) :=
  let run (n : Nat) : Scanner (List Char) := do
    exactly (List.replicate n mark)
    ahead behind
    return List.replicate n mark
  either (run 2) (run 1)

/-- A string over lines: pieces up to three quotation marks, with one or two of them between the
pieces or at the end. A line end at the start does not count. -/
def longString (mark : Char) (piece : Scanner (List Char)) : Scanner String := do
  let fence := exactly (List.replicate 3 mark)
  fence
  let _ ← optional newline
  let pieces ← many (do
    let quotes ← optional (marks mark (discard piece))
    return (quotes.getD []) ++ (← piece))
  let last ← optional (marks mark fence)
  committed fence
  return String.ofList (pieces.flatten ++ last.getD [])

def basicString : Scanner String := shortString '"' (either (some1 isBasic) escaped)

def literalString : Scanner String := shortString '\'' (some1 isLiteral)

def string : Scanner String :=
  firstOf
    [longString '"' (firstOf [some1 isBasic, foldedLines, escaped, lineBreak]),
      basicString,
      longString '\'' (either (some1 isLiteral) lineBreak),
      literalString]

def isBare (c : Char) : Bool := c.isAlphanum || c = '_' || c = '-'

def simpleKey : Scanner Key := do
  let offset ← offset
  let text ← match ← next? with
    | some '"' => basicString
    | some '\'' => literalString
    | _ => return ⟨String.ofList (← some1 isBare), offset⟩
  return ⟨text, offset⟩

/-- Keys with a point between each two. -/
def path : Scanner (List Key) :=
  certain .soft do
    let keys ← separated1 (spaces *> simpleKey <* spaces) (char '.')
    return if keys.length < 80 then some keys else none

end HeaderRecovery.Toml.Scanner
