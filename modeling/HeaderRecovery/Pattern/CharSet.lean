import HeaderRecovery.Text.Blank
import HeaderRecovery.Text.CaseFolding
import HeaderRecovery.Text.WordChars

/-! Sets of characters, as a pattern describes them. -/
namespace HeaderRecovery.Pattern

/-- A set of characters by the way it is put together. -/
inductive CharSet where
  | nothing
  | range (first last : Nat)
  /-- The codes between bounds. -/
  | listed (bounds : List Nat)
  | union (left right : CharSet)
  | common (left right : CharSet)
  | without (left right : CharSet)
  /-- What is in one of the sets only. -/
  | either (left right : CharSet)
  | complement (set : CharSet)
  /-- With all characters that differ from a member in case only. -/
  | anyCase (set : CharSet)
  /-- The same for the letters of ASCII alone. -/
  | anyAsciiCase (set : CharSet)
  deriving DecidableEq, Repr

namespace CharSet

/-- A letter of ASCII in lower and upper case; any other code alone. -/
def asciiVariants (n : Nat) : List Nat :=
  if 0x41 ≤ n ∧ n ≤ 0x5A then [n, n + 0x20]
  else if 0x61 ≤ n ∧ n ≤ 0x7A then [n, n - 0x20]
  else [n]

def containsCode : CharSet → Nat → Bool
  | nothing, _ => false
  | range first last, n => first ≤ n && n ≤ last
  | listed bounds, n => Text.between bounds n
  | union a b, n => a.containsCode n || b.containsCode n
  | common a b, n => a.containsCode n && b.containsCode n
  | without a b, n => a.containsCode n && !b.containsCode n
  | either a b, n => a.containsCode n != b.containsCode n
  | complement a, n => !a.containsCode n
  | anyCase a, n => (Text.caseVariants n).any a.containsCode
  | anyAsciiCase a, n => (asciiVariants n).any a.containsCode

def contains (s : CharSet) (c : Char) : Bool := s.containsCode c.toNat

def single (c : Char) : CharSet := .range c.toNat c.toNat

def between (first last : Char) : CharSet := .range first.toNat last.toNat

def unionAll (sets : List CharSet) : CharSet := sets.foldr .union .nothing

def any : CharSet := .complement .nothing

def digit : CharSet := .listed Text.digitBounds

def blank : CharSet := .listed Text.blankBounds

def word : CharSet := .listed Text.wordBounds

def asciiDigit : CharSet := between '0' '9'

def asciiBlank : CharSet := .union (.range 0x09 0x0D) (single ' ')

def asciiWord : CharSet :=
  unionAll [between '0' '9', between 'A' 'Z', single '_', between 'a' 'z']

/-- The classes that are written by name between colons. -/
def named? (name : String) : Option CharSet :=
  match name with
  | "alnum" => some (unionAll [between '0' '9', between 'A' 'Z', between 'a' 'z'])
  | "alpha" => some (.union (between 'A' 'Z') (between 'a' 'z'))
  | "ascii" => some (.range 0 0x7F)
  | "blank" => some (.union (single '\t') (single ' '))
  | "cntrl" => some (.union (.range 0 0x1F) (.range 0x7F 0x7F))
  | "digit" => some asciiDigit
  | "graph" => some (between '!' '~')
  | "lower" => some (between 'a' 'z')
  | "print" => some (between ' ' '~')
  | "punct" => some (unionAll [between '!' '/', between ':' '@', between '[' (Char.ofNat 0x60),
      between (Char.ofNat 0x7B) '~'])
  | "space" => some asciiBlank
  | "upper" => some (between 'A' 'Z')
  | "word" => some asciiWord
  | "xdigit" => some (unionAll [between '0' '9', between 'A' 'F', between 'a' 'f'])
  | _ => none

/-- About how many instructions on single bytes it takes to match one member. -/
def weight : CharSet → Nat
  | nothing => 1
  | range _ last => if last < 0x80 then 1 else 4
  | listed bounds => 3 * bounds.length / 2
  | union a b => a.weight + b.weight
  | common a b => a.weight + b.weight
  | without a b => a.weight + b.weight
  | either a b => a.weight + b.weight
  | complement a => a.weight + 8
  | anyCase a => 2 * a.weight
  | anyAsciiCase a => 2 * a.weight

end CharSet
end HeaderRecovery.Pattern
