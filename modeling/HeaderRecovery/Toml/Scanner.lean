import HeaderRecovery.Text.Position

/-!
Reading a text from left to right, with the byte at which a reading fails. A soft failure lets
another reading be tried; a hard one is final. Either leaves the cursor where the reading stopped.
-/
namespace HeaderRecovery.Toml

/-- What is left of a text and how many of its bytes lie behind. -/
structure Cursor where
  rest : List Char
  offset : Nat
  deriving Repr

inductive Severity where
  | soft
  | hard
  deriving DecidableEq, Repr

abbrev Scanner := EStateM Severity Cursor

namespace Scanner

variable {α β : Type}

def refuse : Scanner α := throw .soft

def abort : Scanner α := throw .hard

def offset : Scanner Nat := return (← get).offset

def next? : Scanner (Option Char) := return (← get).rest.head?

/-- Passes one character of a class. -/
def one (p : Char → Bool) : Scanner Char := fun c =>
  match c.rest with
  | x :: rest => if p x then .ok x ⟨rest, c.offset + x.utf8Size⟩ else .error .soft c
  | [] => .error .soft c

def anyChar : Scanner Char := one fun _ => true

def char (x : Char) : Scanner Char := one (· = x)

/-- The longest stretch of a class, as far as `n` characters. -/
def upTo (p : Char → Bool) (n : Nat) : Scanner (List Char) := fun c =>
  let stretch := (c.rest.take n).takeWhile p
  .ok stretch ⟨c.rest.drop stretch.length, c.offset + Text.byteLength stretch⟩

def stretch (p : Char → Bool) : Scanner (List Char) := fun c => upTo p c.rest.length c

/-- A value that is to be there: without it the cursor goes back to the start. -/
def certain (severity : Severity) (s : Scanner (Option α)) : Scanner α := fun c =>
  match s c with
  | .ok (some a) behind => .ok a behind
  | .ok none _ => .error severity c
  | .error e stop => .error e stop

/-- A stretch that is not empty. -/
def some1 (p : Char → Bool) : Scanner (List Char) :=
  certain .soft do
    let cs ← stretch p
    return if cs.isEmpty then none else some cs

/-- Passes given characters, all or none. -/
def exactly (cs : List Char) : Scanner Unit := fun c =>
  if cs.isPrefixOf c.rest then
    .ok () ⟨c.rest.drop cs.length, c.offset + Text.byteLength cs⟩
  else .error .soft c

/-- Makes each failure final. -/
def committed (s : Scanner α) : Scanner α := fun c =>
  match s c with
  | .error _ stop => .error .hard stop
  | done => done

/-- Goes back to the start in any case. -/
def ahead (s : Scanner α) : Scanner α := fun c =>
  match s c with
  | .ok a _ => .ok a c
  | .error e _ => .error e c

/-- Goes back to the start after a soft failure. -/
def optional (s : Scanner α) : Scanner (Option α) := fun c =>
  match s c with
  | .ok a behind => .ok (some a) behind
  | .error .soft _ => .ok none c
  | .error .hard stop => .error .hard stop

/-- The second reading starts where the first one did. -/
def either (first second : Scanner α) : Scanner α := fun c =>
  match first c with
  | .error .soft _ => second c
  | done => done

def firstOf : List (Scanner α) → Scanner α
  | [] => refuse
  | [last] => last
  | s :: others => either s (firstOf others)

def manyUpTo (s : Scanner α) : Nat → Scanner (List α)
  | 0 => return []
  | fuel + 1 => do
    match ← optional s with
    | none => return []
    | some a => return a :: (← manyUpTo s fuel)

/-- Readings in a row up to a soft failure, where each passes a character at least: no more of
them than characters are left. -/
def many (s : Scanner α) : Scanner (List α) := fun c => manyUpTo s c.rest.length c

def many1 (s : Scanner α) : Scanner (List α) := return (← s) :: (← many s)

/-- Readings with a separator between each two. -/
def separated1 (s : Scanner α) (separator : Scanner β) : Scanner (List α) :=
  return (← s) :: (← many (separator *> s))

def separated (s : Scanner α) (separator : Scanner β) : Scanner (List α) :=
  return (← optional (separated1 s separator)).getD []

/-! ## Blanks, line ends and comments -/

def isSpace (c : Char) : Bool := c = ' ' || c = '\t'

def spaces : Scanner Unit := discard (stretch isSpace)

/-- A line feed, or a carriage return and a line feed. -/
def newline : Scanner Unit := either (exactly ['\n']) (char '\r' *> exactly ['\n'])

def isPrintable (c : Char) : Bool := c = '\t' || (' ' ≤ c && c ≠ '\x7f')

def comment : Scanner Unit := char '#' *> discard (stretch isPrintable)

def atEnd : Scanner Unit := fun c => if c.rest.isEmpty then .ok () c else .error .soft c

def lineEnd : Scanner Unit := either newline atEnd

/-- What may stand behind a header or a value in its line. -/
def restOfLine : Scanner Unit := do
  spaces
  let _ ← optional comment
  lineEnd

def spacesAndNewlines : Scanner Unit := discard (many (either (discard (some1 isSpace)) newline))

/-- Everything that may stand between the items of an array. -/
def gap : Scanner Unit :=
  discard (many (firstOf [discard (some1 isSpace), newline, comment]))

end Scanner
end HeaderRecovery.Toml
