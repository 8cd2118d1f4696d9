import HeaderRecovery.Pattern.Program

/-!
Replacing the matches of a pattern. In a replacement `$1` and `$name` stand for the text of a
group, and so do the same with braces around the name; `$$` is a dollar sign.
-/
namespace HeaderRecovery.Pattern

/-- A stretch of a replacement. -/
inductive Piece where
  | text (c : Char)
  | group (index : Nat)
  | named (name : String)
  deriving DecidableEq, Repr

/-- The number in a reference; one plus sign may stand before it. -/
def groupNumber? (name : List Char) : Option Nat :=
  let digits := match name with
    | '+' :: rest => rest
    | _ => name
  if digits ≠ [] && digits.all Char.isDigit then
    let n := digits.foldl (fun n c => 10 * n + (c.toNat - '0'.toNat)) 0
    if n < UInt64.size then some n else none
  else none

def reference (name : List Char) : Piece :=
  match groupNumber? name with
  | some n => .group n
  | none => .named (String.ofList name)

def isNameChar (c : Char) : Bool := c.isAlphanum || c = '_'

/-- A reference behind a dollar sign and what follows it, if there is one. -/
def reference? : List Char → Option (Piece × List Char)
  | '\x7b' :: rest =>
    let name := rest.takeWhile (· ≠ '\x7d')
    match rest.drop name.length with
    | _ :: rest => some (reference name, rest)
    | [] => none
  | rest =>
    let name := rest.takeWhile isNameChar
    if name = [] then none else some (reference name, rest.drop name.length)

def piecesFrom : Nat → List Char → List Piece
  | 0, _ => []
  | _ + 1, [] => []
  | fuel + 1, '$' :: '$' :: rest => .text '$' :: piecesFrom fuel rest
  | fuel + 1, '$' :: rest =>
    match reference? rest with
    | some (piece, rest) => piece :: piecesFrom fuel rest
    | none => .text '$' :: piecesFrom fuel rest
  | fuel + 1, c :: rest => .text c :: piecesFrom fuel rest

abbrev Replacement := List Piece

/-- A dollar sign that starts no reference stands for itself. -/
def Replacement.ofText (text : String) : Replacement :=
  piecesFrom (text.length + 1) text.toList

structure Rewrite where
  program : Program
  /-- The numbers of the groups that have names. -/
  names : List (String × Nat)
  replacement : Replacement

namespace Rewrite

/-- What stands for a match. A group that is unknown or took no part is empty. -/
def expand (r : Rewrite) (text : Array Char) (m : Match) : List Char :=
  r.replacement.flatMap fun
    | .text c => [c]
    | .group index => (m.group? text index).getD []
    | .named name => ((r.names.lookup name).bind (m.group? text)).getD []

/-- The text from `start` on with the matches replaced. -/
def fill (r : Rewrite) (text : Array Char) : Nat → List Match → List Char
  | start, [] => (text.extract start text.size).toList
  | start, m :: rest =>
    (text.extract start m.start).toList ++ r.expand text m ++ fill r text m.stop rest

def apply (r : Rewrite) (text : String) : String :=
  let chars := text.toList.toArray
  String.ofList (r.fill chars 0 (allMatches r.program chars))

end Rewrite
end HeaderRecovery.Pattern
