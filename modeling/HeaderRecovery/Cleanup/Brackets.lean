import HeaderRecovery.Text.Blank

/-! Angle brackets and argument lists in the text of a declaration. -/
namespace HeaderRecovery.Cleanup

/-- The place of the bracket that closes the outermost of `depth` open ones, counted from the
start; a line feed, semicolon or brace before it ends the search. -/
def closingAngle? : Nat → List Char → Option Nat
  | _, [] => none
  | depth, c :: rest =>
    if c = '<' then (closingAngle? (depth + 1) rest).map (· + 1)
    else if c = '>' then
      if depth ≤ 1 then some 0 else (closingAngle? (depth - 1) rest).map (· + 1)
    else if c = '\n' ∨ c = ';' ∨ c = '\x7b' ∨ c = '\x7d' then none
    else (closingAngle? depth rest).map (· + 1)

/-- The place of the bracket that closes the one at `start`. -/
def matchingAngle? (text : List Char) (start : Nat) : Option Nat :=
  (closingAngle? 0 (text.drop start)).map (start + ·)

/-- How a character changes the depth of brackets. -/
def depthChange (c : Char) : Int :=
  if c = '<' ∨ c = '(' ∨ c = '[' then 1
  else if c = '>' ∨ c = ')' ∨ c = ']' then -1
  else 0

/-- The stretches between the commas at depth zero; `depth` is that of the first character. -/
def stretches : Int → List Char → List (List Char)
  | _, [] => [[]]
  | depth, c :: rest =>
    if c = ',' ∧ depth = 0 then [] :: stretches depth rest
    else
      match stretches (depth + depthChange c) rest with
      | [] => [[c]]
      | first :: others => (c :: first) :: others

/-- Arguments between commas that no bracket encloses, without blanks around them. -/
def splitArguments (text : List Char) : List (List Char) := (stretches 0 text).map Text.trim

end HeaderRecovery.Cleanup
