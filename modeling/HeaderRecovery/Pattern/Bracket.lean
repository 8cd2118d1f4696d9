import HeaderRecovery.Pattern.Token

/-! Sets of characters in brackets. Brackets may stand in one another, and two ampersands, hyphens
or tildes combine what is before and behind them. -/
namespace HeaderRecovery.Pattern

namespace Token

/-- The characters that a part of a bracket adds. -/
def members? (f : Flags) : Token → Option CharSet
  | .char c => if f.unicode || c.toNat < 0x80 then some (.single c) else none
  | .set s => some s
  | .look _ => none

/-- The bound of a range. -/
def bound? (f : Flags) : Token → Option Char
  | .char c => if f.unicode || c.toNat < 0x80 then some c else none
  | _ => none

end Token

/-- A combination of two sets, as a constructor of `CharSet`. -/
abbrev Combination := CharSet → CharSet → CharSet

/-- A bracket that is still open. -/
structure Bracket where
  complemented : Bool
  /-- The combination before the members, with its left side. -/
  left : Option (Combination × CharSet)
  members : CharSet

namespace Bracket

def add (b : Bracket) (s : CharSet) : Bracket := { b with members := .union b.members s }

def content (f : Flags) (b : Bracket) : CharSet :=
  match b.left with
  | none => b.members
  | some (combine, left) => combine (f.fold left) (f.fold b.members)

def combine (f : Flags) (b : Bracket) (c : Combination) : Bracket :=
  { b with left := some (c, b.content f), members := .nothing }

/-- The set of a bracket at its end. -/
def close? (f : Flags) (b : Bracket) : Option CharSet :=
  f.close? b.complemented (f.fold (b.content f))

/-- Passes hyphens, which stand for themselves at the start. -/
def passHyphens (f : Flags) : Nat → Bracket → List Char → Bracket × List Char
  | 0, b, cs => (b, cs)
  | fuel + 1, b, '-' :: rest => passHyphens f fuel (b.add (.single '-')) (skip f rest)
  | _ + 1, b, cs => (b, cs)

/-- A bracket from behind its opening one. A closing one at the start stands for itself. -/
def open? (f : Flags) (cs : List Char) : Option (Bracket × List Char) :=
  let cs := skip f cs
  let complemented := cs.head? = some '^'
  let cs := if complemented then skip f cs.tail else cs
  let empty : Bracket := ⟨complemented, none, .nothing⟩
  match passHyphens f cs.length empty cs with
  | (_, []) => none
  | (b, c :: rest) =>
    if c = ']' ∧ cs.head? ≠ some '-' then
      match skip f rest with
      | [] => none
      | rest => some (b.add (.single ']'), rest)
    else some (b, c :: rest)

/-- A class by name, from behind its bracket, and whether its complement is meant. -/
def named? : List Char → Option (CharSet × Bool × List Char)
  | ':' :: rest =>
    let complemented := rest.head? = some '^'
    let rest := if complemented then rest.tail else rest
    let name := rest.takeWhile (· ≠ ':')
    match rest.drop name.length, CharSet.named? (String.ofList name) with
    | ':' :: ']' :: rest, some set => some (set, complemented, rest)
    | _, _ => none
  | _ => none

/-- One character or class. -/
def item? (f : Flags) : List Char → Option (Token × List Char)
  | [] => none
  | '\\' :: rest => escape? f rest
  | c :: rest => some (.char c, rest)

/-- One character or class, or the characters between two bounds. -/
def range? (f : Flags) (cs : List Char) : Option (CharSet × List Char) := do
  let (first, rest) ← item? f cs
  match skip f rest with
  | [] => none
  | c :: rest' =>
    let behind := (skip f rest').head?
    if c ≠ '-' ∨ behind = some ']' ∨ behind = some '-' then
      return (← first.members? f, c :: rest')
    let (last, rest) ← item? f (skip f rest')
    let low ← first.bound? f
    let high ← last.bound? f
    guard (low ≤ high)
    return (.between low high, rest)

/-- The set of the brackets that are open, the innermost first, up to the end of the outermost. -/
def readFrom (f : Flags) : Nat → Bracket → List Bracket → List Char →
    Option (CharSet × List Char)
  | 0, _, _, _ => none
  | fuel + 1, b, outer, cs =>
    match skip f cs with
    | [] => none
    | '[' :: rest =>
      match named? rest with
      | some (set, complemented, rest) =>
        match f.close? complemented (f.fold set) with
        | some set => readFrom f fuel (b.add set) outer rest
        | none => none
      | none =>
        match open? f rest with
        | some (inner, rest) => readFrom f fuel inner (b :: outer) rest
        | none => none
    | ']' :: rest =>
      match b.close? f, outer with
      | none, _ => none
      | some set, [] => some (set, rest)
      | some set, around :: outer => readFrom f fuel (around.add set) outer rest
    | '&' :: '&' :: rest => readFrom f fuel (b.combine f .common) outer rest
    | '-' :: '-' :: rest => readFrom f fuel (b.combine f .without) outer rest
    | '~' :: '~' :: rest => readFrom f fuel (b.combine f .either) outer rest
    | cs =>
      match range? f cs with
      | some (set, rest) => readFrom f fuel (b.add set) outer rest
      | none => none

/-- The set in brackets, from behind the opening one. -/
def read? (f : Flags) (cs : List Char) : Option (CharSet × List Char) := do
  let (b, rest) ← open? f cs
  readFrom f (cs.length + 1) b [] rest

end Bracket
end HeaderRecovery.Pattern
