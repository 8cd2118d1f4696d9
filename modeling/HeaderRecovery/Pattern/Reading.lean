import HeaderRecovery.Pattern.Bracket
import HeaderRecovery.Pattern.Rewrite

/-!
Patterns from their written form. The text is read from left to right with a stack of the groups
that are open; flags set in a group hold up to its end.
-/
namespace HeaderRecovery.Pattern

def Token.pattern (f : Flags) : Token → Pattern
  | .char c => .one (f.fold (.single c))
  | .set s => .one s
  | .look condition => .look condition

/-- A group that is still open, or the pattern as a whole. -/
structure Frame where
  /-- The number under which the text of the group is kept, if it is. -/
  index : Option Nat
  /-- The flags behind the group. -/
  outside : Flags
  /-- Finished sides of the choice, the last one first. -/
  branches : List Pattern
  /-- Parts of the open side, the last one first; `none` stands where flags were set. -/
  parts : List (Option Pattern)

namespace Frame

def branch (frame : Frame) : Pattern := sequenceAll (frame.parts.reverse.filterMap id)

def body (frame : Frame) : Pattern := choiceAll (frame.branch :: frame.branches).reverse

def pattern (frame : Frame) : Pattern :=
  match frame.index with
  | some index => .group index frame.body
  | none => frame.body

end Frame

structure Reader where
  rest : List Char
  flags : Flags
  current : Frame
  /-- The frames around the current one, the nearest first. -/
  outer : List Frame
  /-- How many groups have a number. -/
  groups : Nat
  names : List (String × Nat)

namespace Reader

def start (text : List Char) : Reader := ⟨text, .start, ⟨none, .start, [], []⟩, [], 0, []⟩

def add (r : Reader) (part : Option Pattern) (rest : List Char) : Reader :=
  { r with rest, current := { r.current with parts := part :: r.current.parts } }

def openGroup (r : Reader) (index : Option Nat) (flags : Flags) (rest : List Char) : Reader :=
  { r with
    rest, flags
    current := ⟨index, r.flags, [], []⟩
    outer := r.current :: r.outer }

/-- A group with the next number. -/
def openNumbered (r : Reader) (rest : List Char) : Reader :=
  { r.openGroup (some (r.groups + 1)) r.flags rest with groups := r.groups + 1 }

def isNameStart (c : Char) : Bool := c = '_' || CharSet.alphabetic.contains c

def isNameRest (c : Char) : Bool :=
  isNameStart c || c = '.' || c = '[' || c = ']' || CharSet.numeric.contains c

/-- A group with a name of its own, from behind the opening angle bracket. -/
def openNamed? (r : Reader) (rest : List Char) : Option Reader :=
  let name := rest.takeWhile (· ≠ '>')
  match name, rest.drop name.length with
  | first :: others, _ :: rest =>
    let text := String.ofList name
    if isNameStart first && others.all isNameRest && (r.names.lookup text).isNone then
      some { r.openNumbered rest with names := (text, r.groups + 1) :: r.names }
    else none
  | _, _ => none

/-- What stands in a parenthesis behind a question mark: flags from here on, or a group with
flags but no number. -/
def openFlags? (r : Reader) (rest : List Char) : Option Reader :=
  match r.flags.read? true [] rest with
  | some (flags, ')' :: behind) =>
    if rest.head? = some ')' then none else some { r.add none behind with flags }
  | some (flags, _ :: behind) => some (r.openGroup none flags behind)
  | _ => none

/-- A group from behind its parenthesis. Conditions on what lies before or behind a match have no
place here. -/
def open? (r : Reader) (rest : List Char) : Option Reader :=
  match skip r.flags rest with
  | '?' :: '=' :: _ | '?' :: '!' :: _ | '?' :: '<' :: '=' :: _ | '?' :: '<' :: '!' :: _ => none
  | '?' :: 'P' :: '<' :: rest => r.openNamed? rest
  | '?' :: '<' :: rest => r.openNamed? rest
  | '?' :: rest => r.openFlags? rest
  | rest => some (r.openNumbered rest)

def close? (r : Reader) (rest : List Char) : Option Reader :=
  match r.outer with
  | [] => none
  | around :: outer =>
    let closed := { r with flags := r.current.outside, current := around, outer }
    some (closed.add (some r.current.pattern) rest)

def nextBranch (r : Reader) (rest : List Char) : Reader :=
  { r with
    rest
    current := { r.current with branches := r.current.branch :: r.current.branches, parts := [] } }

/-- The last part so many times; a question mark in `rest` makes it lazy. -/
def repeat? (r : Reader) (least : Nat) (most : Option Nat) (rest : List Char) : Option Reader :=
  let lazy := rest.head? = some '?'
  let rest := if lazy then rest.tail else rest
  match r.current.parts with
  | some body :: parts =>
    let part := Pattern.repetition least most (lazy == r.flags.swapGreed) body
    some { r with rest, current := { r.current with parts := some part :: parts } }
  | _ => none

/-- Digits of a count with the blanks around them, from the last digit's value on. -/
def digits (f : Flags) : Nat → Option Nat → List Char → Option Nat × List Char
  | 0, n, cs => (n, cs)
  | fuel + 1, n, cs =>
    match cs with
    | c :: rest =>
      if '0' ≤ c ∧ c ≤ '9' then
        digits f fuel (some (10 * n.getD 0 + (c.toNat - '0'.toNat))) (skip f rest)
      else (n, cs)
    | [] => (n, [])

/-- A count of 32 bits. -/
def count? (f : Flags) (cs : List Char) : Option Nat × List Char :=
  let (n, rest) := digits f cs.length none (cs.dropWhile Text.isBlank)
  (n.filter (· < UInt32.size), skip f (rest.dropWhile Text.isBlank))

/-- Counted rounds, from behind the opening brace. -/
def repeatCounted? (r : Reader) (rest : List Char) : Option Reader :=
  match count? r.flags (skip r.flags rest) with
  | (least, ',' :: rest) =>
    match skip r.flags rest, least with
    | '\x7d' :: rest, some least => r.repeat? least none (skip r.flags rest)
    | rest, some least =>
      match count? r.flags rest with
      | (some most, '\x7d' :: rest) =>
        if least ≤ most then r.repeat? least (some most) (skip r.flags rest) else none
      | _ => none
    | _, none => none
  | (some n, '\x7d' :: rest) => r.repeat? n (some n) (skip r.flags rest)
  | _ => none

/-- A character other than the ends of lines, or any one. Without Unicode it would be a byte. -/
def dot? (f : Flags) : Option CharSet :=
  if !f.unicode then none
  else if f.dotAll then some .any
  else if f.carriageReturn then some (.complement (.union (.single '\n') (.single '\r')))
  else some (.complement (.single '\n'))

def startLook (f : Flags) : Look :=
  if !f.multiLine then .textStart else if f.carriageReturn then .anyLineStart else .lineStart

def endLook (f : Flags) : Look :=
  if !f.multiLine then .textEnd else if f.carriageReturn then .anyLineEnd else .lineEnd

/-- How many groups may be open in one another. -/
def maxNesting : Nat := 250

/-- Reads on by one part. -/
def step? (r : Reader) : Option Reader :=
  match skip r.flags r.rest with
  | [] => some { r with rest := [] }
  | '(' :: rest => if r.outer.length < maxNesting then r.open? rest else none
  | ')' :: rest => r.close? rest
  | '|' :: rest => some (r.nextBranch rest)
  | '[' :: rest => do
    let (set, rest) ← Bracket.read? r.flags rest
    return r.add (some (.one set)) rest
  | '?' :: rest => r.repeat? 0 (some 1) rest
  | '*' :: rest => r.repeat? 0 none rest
  | '+' :: rest => r.repeat? 1 none rest
  | '\x7b' :: rest => r.repeatCounted? rest
  | '.' :: rest => do return r.add (some (.one (← dot? r.flags))) rest
  | '^' :: rest => some (r.add (some (.look (startLook r.flags))) rest)
  | '$' :: rest => some (r.add (some (.look (endLook r.flags))) rest)
  | '\\' :: rest => do
    let (token, rest) ← escape? r.flags rest
    return r.add (some (token.pattern r.flags)) rest
  | c :: rest => some (r.add (some ((Token.char c).pattern r.flags)) rest)

/-- Reads to the end of the text; every step but the last takes a character at least. -/
def finish? : Nat → Reader → Option Reader
  | 0, _ => none
  | fuel + 1, r => if r.rest = [] then some r else (r.step?).bind (finish? fuel)

end Reader

/-- How many instructions a pattern may take. -/
def maxWeight : Nat := 327680

/-- The pattern that a text describes, and the numbers of its named groups; `none` when it
describes none or one that is too large. -/
def ofText? (text : String) : Option (Pattern × List (String × Nat)) := do
  let r ← Reader.finish? (text.length + 1) (.start text.toList)
  guard (r.outer.isEmpty && r.current.pattern.weight ≤ maxWeight)
  return (r.current.pattern, r.names)

/-- A rewriting from its written pattern and replacement. -/
def Rewrite.ofTexts? (pattern replacement : String) : Option Rewrite :=
  (ofText? pattern).map fun (p, names) => ⟨compile p, names, .ofText replacement⟩

end HeaderRecovery.Pattern
