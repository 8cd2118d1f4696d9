import HeaderRecovery.Text.Find

/-!
Paths recorded by a compiler, read without looking at any file system. Separators are
`/` (a backslash counts as one); `.` and empty segments vanish, and `..` cancels the name
before it. Main operations: `normalize`, `join`, `common`, `relativeTo`.
-/
namespace HeaderRecovery.Path

/-- The stretches of a path between separators, empty ones included. -/
def pieces (path : String) : List String :=
  (path.toList.splitOn '/').map String.ofList

/-- The nonempty stretches of a path. -/
def segments (path : String) : List String := (pieces path).filter (· ≠ "")

def isAbsolute (path : String) : Bool := path.toList.head? = some '/'

/-- Backslashes become separators. -/
def slashed (path : String) : String :=
  String.ofList (path.toList.map fun c => if c = '\\' then '/' else c)

/-- A path after resolution: the names from the root or from an unnamed start. -/
structure Resolved where
  absolute : Bool
  names : List String
  deriving DecidableEq, Repr

/-- One segment read onto the names so far, the last name first. Above an absolute root
`..` has no effect; at the start of a relative path it is kept. -/
def step (absolute : Bool) (names : List String) (segment : String) : List String :=
  if segment = "" ∨ segment = "." then names
  else if segment = ".." then
    match names with
    | [] => if absolute then [] else [".."]
    | last :: rest => if last ≠ ".." then rest else if absolute then names else ".." :: names
  else segment :: names

def resolve (path : String) : Resolved :=
  let path := slashed path
  let absolute := isAbsolute path
  { absolute, names := ((pieces path).foldl (step absolute) []).reverse }

/-- The text of a resolved path; no names at all are written `/` or `.`. -/
def Resolved.render (p : Resolved) : String :=
  if p.absolute then "/" ++ "/".intercalate p.names
  else if p.names = [] then "." else "/".intercalate p.names

/-- The canonical text of a path. The empty text stays empty. -/
def normalize (path : String) : String :=
  if path = "" then "" else (resolve path).render

def dropTrailingSeparators (path : String) : String :=
  String.ofList (path.toList.reverse.dropWhile (· = '/')).reverse

/-- `right` seen from the directory `left`. -/
def join (left right : String) : String :=
  if isAbsolute right || left = "" then normalize right
  else normalize (dropTrailingSeparators left ++ "/" ++ right)

/-- The longest common start of two lists. -/
def sharedStart {α : Type} [DecidableEq α] : List α → List α → List α
  | a :: as, b :: bs => if a = b then a :: sharedStart as bs else []
  | _, _ => []

/-- The longest common leading sequence of names; empty when one path is absolute and the
other is not, or when two relative paths share nothing. -/
def common (left right : String) : String :=
  let left := normalize left
  let right := normalize right
  if left = "" ∨ right = "" ∨ isAbsolute left ≠ isAbsolute right then ""
  else
    let joined := "/".intercalate (sharedStart (segments left) (segments right))
    if isAbsolute left then "/" ++ joined else joined

/-- The names of a normal path; `.`, `/` and the empty path have none. -/
def names (path : String) : List String := (segments path).filter (· ≠ ".")

/-- `path` seen from `base`, with `..` for every name of `base` that has to be left;
`none` when only one of the two is absolute. -/
def relativeTo (path base : String) : Option String :=
  let path := normalize path
  let base := normalize base
  if isAbsolute path ≠ isAbsolute base then none
  else
    let shared := (sharedStart (names path) (names base)).length
    let parts := List.replicate ((names base).length - shared) ".." ++ (names path).drop shared
    some (if parts = [] then "." else "/".intercalate parts)

/-- Whether a relative path starts by leaving its base. -/
def escapesBase (relative : String) : Bool :=
  relative = ".." || Text.startsWith "../" relative

/-- Whether `path` lies in `base` or below it. -/
def isUnder (path base : String) : Bool :=
  match relativeTo path base with
  | some relative => !escapesBase relative
  | none => false

end HeaderRecovery.Path
