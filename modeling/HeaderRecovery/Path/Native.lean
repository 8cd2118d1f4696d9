import HeaderRecovery.Path.Lexical

/-! Paths of the machine the program runs on, where only `/` separates and `..` is an
ordinary step: extension by a name, parent directory, placement below a root. -/
namespace HeaderRecovery.Path

/-- `name` inside the directory `dir`; the empty directory adds nothing. -/
def extend (dir name : String) : String :=
  if dir = "" then name
  else if dir.toList.getLast? = some '/' then dir ++ name
  else dir ++ "/" ++ name

/-- The names of `relative` placed below `root`; empty, `.` and `..` steps are left out. -/
def underRoot (root relative : String) : String :=
  ((pieces relative).filter fun s => s ≠ "" && s ≠ "." && s ≠ "..").foldl extend root

/-- The start of a path that is no name: the root, or a leading `.`. -/
def leadLength : List Char → Nat
  | '/' :: _ => 1
  | ['.'] => 1
  | '.' :: '/' :: _ => 1
  | _ => 0

/-- Drops separators and `.` steps at the end; `body` is the path after its lead, reversed. -/
def dropIdleEnd : List Char → List Char
  | '/' :: rest => dropIdleEnd rest
  | ['.'] => []
  | '.' :: '/' :: rest => dropIdleEnd rest
  | body => body

/-- The directory that holds the last name of a path: `none` for the root and for the empty
path. -/
def parent? (path : String) : Option String :=
  let cs := path.toList
  let lead := cs.take (leadLength cs)
  match dropIdleEnd (cs.drop (leadLength cs)).reverse with
  | [] => if lead = ['.'] then some "" else none
  | body => some (String.ofList (lead ++ (dropIdleEnd (body.dropWhile (· ≠ '/'))).reverse))

end HeaderRecovery.Path
