import HeaderRecovery.Text.Bounds

/-! Blank characters are those of the Unicode property White_Space.
Trimming and cutting into words follow that class. -/
namespace HeaderRecovery.Text

/-- The bounds of the Unicode property White_Space. -/
def blankBounds : List Nat :=
  [0x9, 0xe, 0x20, 0x21, 0x85, 0x86, 0xa0, 0xa1, 0x1680, 0x1681, 0x2000, 0x200b, 0x2028, 0x202a,
    0x202f, 0x2030, 0x205f, 0x2060, 0x3000, 0x3001]

def isBlank (c : Char) : Bool := between blankBounds c.toNat

def dropEndWhile (p : Char → Bool) (cs : List Char) : List Char :=
  (cs.reverse.dropWhile p).reverse

def trimEnd (cs : List Char) : List Char := dropEndWhile isBlank cs

def trim (cs : List Char) : List Char := trimEnd (cs.dropWhile isBlank)

/-- `trim` on strings. -/
def trimmed (s : String) : String := String.ofList (trim s.toList)

/-- `trimEnd` on strings. -/
def trimmedEnd (s : String) : String := String.ofList (trimEnd s.toList)

/-- The nonempty stretches between blank characters. -/
def words (s : String) : List String :=
  ((s.toList.splitOnP isBlank).filter (· ≠ [])).map String.ofList

end HeaderRecovery.Text
