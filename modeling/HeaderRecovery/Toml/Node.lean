import HeaderRecovery.Number.Shortest

/-!
Documents as trees. Each node knows the byte at which it stands in the text. A document grows by
headers and by keys with values; what a header or a dotted key may extend hangs on how a table
came to be.
-/
namespace HeaderRecovery.Toml

open Number (FloatValue)

structure Key where
  text : String
  offset : Nat
  deriving DecidableEq, Repr

/-- How a table came to be. -/
inductive Standing where
  /-- Under a header of its own, or as the whole document. -/
  | headed
  /-- On the way to the table of a header. -/
  | implied
  /-- On the way to the value of a dotted key. -/
  | dotted
  /-- As a value between braces. -/
  | braced
  deriving DecidableEq, Repr

inductive Scalar where
  | boolean (value : Bool)
  | integer (value : Int)
  | float (value : FloatValue)
  | string (value : String)
  /-- A date, a time of day or both. -/
  | moment
  deriving DecidableEq, Repr

inductive Node where
  | scalar (offset : Nat) (value : Scalar)
  /-- An array is open if it grows by headers. -/
  | array (offset : Nat) (isOpen : Bool) (items : List Node)
  | table (offset : Option Nat) (standing : Standing) (entries : List (Key × Node))

namespace Node

def empty : Node := .table none .headed []

def offset? : Node → Option Nat
  | .scalar offset _ => some offset
  | .array offset _ _ => some offset
  | .table offset _ _ => offset

def find? (key : Key) (entries : List (Key × Node)) : Option Node :=
  (entries.find? fun e => e.1.text = key.text).map (·.2)

def erase (key : Key) (entries : List (Key × Node)) : List (Key × Node) :=
  entries.filter fun e => e.1.text ≠ key.text

def replace (key : Key) (node : Node) (entries : List (Key × Node)) : List (Key × Node) :=
  entries.map fun e => if e.1.text = key.text then (e.1, node) else e

/-- Changes the entries of a table. -/
def edit? (f : List (Key × Node) → Option (List (Key × Node))) : Node → Option Node
  | .table offset standing entries => (f entries).map (.table offset standing)
  | _ => none

/-- Whether a path may lead through a table. `way` is the standing that the path gives to the
tables it makes: a dotted key keeps out of tables that are complete on their own. -/
def mayEnter (way : Standing) : Node → Bool
  | .table _ .braced _ => false
  | .table _ .headed _ => way ≠ .dotted
  | .table _ _ _ => true
  | _ => false

/-- Changes the table at the end of a path, which leads through the last table of an open array.
Tables that are missing on the way are made. -/
def descend? (way : Standing) (f : Node → Option Node) : List Key → Node → Option Node
  | [], node => f node
  | key :: path, node => node.edit? fun entries =>
    match find? key entries with
    | none => (descend? way f path (.table none way [])).map fun made => entries ++ [(key, made)]
    | some (.array offset true items) => do
      let last ← items.getLast?
      let changed ← descend? way f path last
      return replace key (.array offset true (items.dropLast ++ [changed])) entries
    | some inner =>
      if inner.mayEnter way then (descend? way f path inner).map (replace key · entries) else none

/-- Adds a table under a header. A table that was on the way to another one before gets its header
by that, and its place behind all others. -/
def addTable? (key : Key) (offset : Nat) : Node → Option Node :=
  edit? fun entries =>
    match find? key entries with
    | none => some (entries ++ [(key, .table (some offset) .headed [])])
    | some (.table _ .implied inner) =>
      some (erase key entries ++ [(key, .table (some offset) .headed inner)])
    | some _ => none

/-- Adds a table to the array of a header. -/
def addItem? (key : Key) (offset : Nat) : Node → Option Node :=
  edit? fun entries =>
    let item := .table (some offset) .headed []
    match find? key entries with
    | none => some (entries ++ [(key, .array offset true [item])])
    | some (.array first true items) => some (replace key (.array first true (items ++ [item])) entries)
    | some _ => none

/-- Whether a value whose key is dotted (or not) may stand in a table. -/
def takesValue (isDotted : Bool) : Node → Bool
  | .table _ standing _ => isDotted = (standing = .dotted)
  | _ => false

/-- Adds a value under a key that is new. -/
def addValue? (root : Node) (path : List Key) (key : Key) (value : Node) : Option Node :=
  root.descend? .dotted (fun table =>
    if table.takesValue !path.isEmpty then
      table.edit? fun entries =>
        if (find? key entries).isNone then some (entries ++ [(key, value)]) else none
    else none) path

end Node
end HeaderRecovery.Toml
