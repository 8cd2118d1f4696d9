import HeaderRecovery.Pattern.Basic
import HeaderRecovery.Pattern.Property

/-! The smallest parts of a written pattern: flags, escapes and what may be skipped. -/
namespace HeaderRecovery.Pattern

structure Flags where
  ignoreCase : Bool
  /-- `^` and `$` also hold at the ends of lines. -/
  multiLine : Bool
  /-- `.` also stands for a line feed. -/
  dotAll : Bool
  /-- Repetitions are lazy, and greedy with a question mark. -/
  swapGreed : Bool
  unicode : Bool
  /-- Lines may end in carriage returns. -/
  carriageReturn : Bool
  /-- Blanks and comments do not count. -/
  verbose : Bool

namespace Flags

def start : Flags := ⟨false, false, false, false, true, false, false⟩

/-- A flag switched on or off by its letter. -/
def set? (f : Flags) (letter : Char) (value : Bool) : Option Flags :=
  match letter with
  | 'i' => some { f with ignoreCase := value }
  | 'm' => some { f with multiLine := value }
  | 's' => some { f with dotAll := value }
  | 'U' => some { f with swapGreed := value }
  | 'u' => some { f with unicode := value }
  | 'R' => some { f with carriageReturn := value }
  | 'x' => some { f with verbose := value }
  | _ => none

/-- Flags up to the parenthesis or colon behind them; `seen` are the letters so far, the last
one first. No letter may stand twice, and a minus sign not last. -/
def read? (value : Bool) (seen : List Char) : Flags → List Char → Option (Flags × List Char)
  | _, [] => none
  | f, c :: rest =>
    if c = ')' ∨ c = ':' then
      if seen.head? = some '-' then none else some (f, c :: rest)
    else if c ∈ seen then none
    else if c = '-' then read? false (c :: seen) f rest
    else
      match f.set? c value with
      | some f => read? value (c :: seen) f rest
      | none => none

/-- A set with all case variants if case is ignored. -/
def fold (f : Flags) (s : CharSet) : CharSet :=
  if !f.ignoreCase then s else if f.unicode then .anyCase s else .anyAsciiCase s

/-- The members of a set, or all others. Without Unicode a set holds characters of ASCII only, so
there is no complement. -/
def close? (f : Flags) (complemented : Bool) (s : CharSet) : Option CharSet :=
  if !complemented then some s else if f.unicode then some (.complement s) else none

end Flags

/-- What is left of a comment: it ends with its line. -/
def skipComment : List Char → List Char
  | [] => []
  | c :: rest => if c = '\n' then rest else skipComment rest

def skipBlanks : Nat → List Char → List Char
  | 0, cs => cs
  | fuel + 1, c :: rest =>
    if Text.isBlank c then skipBlanks fuel rest
    else if c = '#' then skipBlanks fuel (skipComment rest)
    else c :: rest
  | _ + 1, [] => []

/-- What follows blanks and comments, where these do not count. -/
def skip (f : Flags) (cs : List Char) : List Char :=
  if f.verbose then skipBlanks (cs.length + 1) cs else cs

def hexDigit? (c : Char) : Option Nat :=
  if '0' ≤ c ∧ c ≤ '9' then some (c.toNat - '0'.toNat)
  else if 'a' ≤ c ∧ c ≤ 'f' then some (c.toNat - 'a'.toNat + 10)
  else if 'A' ≤ c ∧ c ≤ 'F' then some (c.toNat - 'A'.toNat + 10)
  else none

/-- The character of a code, if there is one. -/
def char? (code : Nat) : Option Char := if code.isValidChar then some (Char.ofNat code) else none

/-- A number of `n` hexadecimal digits. -/
def hexDigits? (f : Flags) : Nat → Nat → List Char → Option (Nat × List Char)
  | 0, code, cs => some (code, cs)
  | _ + 1, _, [] => none
  | n + 1, code, c :: rest =>
    match hexDigit? c with
    | some d => hexDigits? f n (16 * code + d) (skip f rest)
    | none => none

/-- A number in braces, from behind the opening one. -/
def bracedHex? (f : Flags) : Nat → Option Nat → List Char → Option (Nat × List Char)
  | 0, _, _ => none
  | fuel + 1, code, cs =>
    match skip f cs with
    | [] => none
    | '\x7d' :: rest => code.map (·, rest)
    | c :: rest =>
      match hexDigit? c with
      | some d => bracedHex? f fuel (some (16 * code.getD 0 + d)) rest
      | none => none

/-- The character of a code that has `n` digits or stands in braces. -/
def codeEscape? (f : Flags) (n : Nat) (cs : List Char) : Option (Char × List Char) := do
  let (code, rest) ← match skip f cs with
    | '\x7b' :: rest => bracedHex? f (rest.length + 1) none rest
    | digits => hexDigits? f n 0 digits
  return (← char? code, skip f rest)

/-- The name of a property in braces, from behind the opening one. -/
def bracedName? (f : Flags) : Nat → List Char → Option (List Char × List Char)
  | 0, _ => none
  | fuel + 1, cs =>
    match skip f cs with
    | [] => none
    | '\x7d' :: rest => some ([], rest)
    | c :: rest => (bracedName? f fuel rest).map fun (name, rest) => (c :: name, rest)

/-- The text before and behind the first occurrence of `needle`. -/
def cutAt? (needle : List Char) : List Char → Option (List Char × List Char)
  | [] => none
  | c :: rest =>
    if needle.isPrefixOf (c :: rest) then some ([], (c :: rest).drop needle.length)
    else (cutAt? needle rest).map fun (before, after) => (c :: before, after)

/-- The class that a property with or without a value names, and whether its complement is
meant. -/
def propertyNamed? (name : List Char) : Option (CharSet × Bool) :=
  match cutAt? "!=".toList name with
  | some (name, value) => (CharSet.propertyValue? name value).map (·, true)
  | none =>
    match (cutAt? [':'] name).or (cutAt? ['='] name) with
    | some (name, value) => (CharSet.propertyValue? name value).map (·, false)
    | none => (CharSet.property? name).map (·, false)

/-- A property from behind its letter: in braces, or one letter. -/
def propertyEscape? (f : Flags) (complemented : Bool) (cs : List Char) :
    Option (CharSet × List Char) := do
  guard f.unicode
  let (name, rest) ← match skip f cs with
    | '\x7b' :: rest => bracedName? f (rest.length + 1) rest
    | c :: rest => if c = '\\' then none else some ([c], skip f rest)
    | [] => none
  let (set, negated) ← propertyNamed? name
  let set := f.fold set
  return (if negated != complemented then .complement set else set, rest)

/-- What an escape or a character stands for. -/
inductive Token where
  | char (c : Char)
  | set (s : CharSet)
  | look (condition : Look)

/-- A word boundary in braces behind `\b`; `none` inside when the brace starts a count. -/
def namedBoundary? (f : Flags) (cs : List Char) : Option (Option (Look × List Char)) :=
  match cs with
  | '\x7b' :: rest =>
    match skip f rest with
    | [] => none
    | c :: _ =>
      if !(c.isAlpha || c = '-') then some none
      else
        match bracedName? f (rest.length + 1) rest with
        | none => none
        | some (name, rest) =>
          match String.ofList name with
          | "start" => some (some (.wordStart !f.unicode, rest))
          | "end" => some (some (.wordEnd !f.unicode, rest))
          | "start-half" => some (some (.noWordBefore !f.unicode, rest))
          | "end-half" => some (some (.noWordAfter !f.unicode, rest))
          | _ => none
  | _ => some none

/-- Characters with a meaning of their own, and all others of ASCII that are neither letters nor
digits nor angle brackets, stand for themselves behind a backslash. -/
def standsForItself (c : Char) : Bool :=
  c.toNat < 0x80 && !c.isAlphanum && c ≠ '<' && c ≠ '>'

def namedClass (f : Flags) (unicode ascii : CharSet) : CharSet :=
  if f.unicode then unicode else ascii

/-- An escape from behind its backslash. -/
def escape? (f : Flags) : List Char → Option (Token × List Char)
  | [] => none
  | c :: rest =>
    match c with
    | 'x' => do
      let (code, rest') ← codeEscape? f 2 rest
      guard (f.unicode || code.toNat < 0x80 || (skip f rest).head? = some '\x7b')
      return (.char code, rest')
    | 'u' => (codeEscape? f 4 rest).map fun (c, rest) => (.char c, rest)
    | 'U' => (codeEscape? f 8 rest).map fun (c, rest) => (.char c, rest)
    | 'p' => (propertyEscape? f false rest).map fun (s, rest) => (.set s, rest)
    | 'P' => (propertyEscape? f true rest).map fun (s, rest) => (.set s, rest)
    | 'd' => (f.close? false (namedClass f .digit .asciiDigit)).map (.set ·, rest)
    | 's' => (f.close? false (namedClass f .blank .asciiBlank)).map (.set ·, rest)
    | 'w' => (f.close? false (namedClass f .word .asciiWord)).map (.set ·, rest)
    | 'D' => (f.close? true (namedClass f .digit .asciiDigit)).map (.set ·, rest)
    | 'S' => (f.close? true (namedClass f .blank .asciiBlank)).map (.set ·, rest)
    | 'W' => (f.close? true (namedClass f .word .asciiWord)).map (.set ·, rest)
    | 'a' => some (.char (Char.ofNat 0x07), rest)
    | 'f' => some (.char (Char.ofNat 0x0C), rest)
    | 't' => some (.char '\t', rest)
    | 'n' => some (.char '\n', rest)
    | 'r' => some (.char '\r', rest)
    | 'v' => some (.char (Char.ofNat 0x0B), rest)
    | 'A' => some (.look .textStart, rest)
    | 'z' => some (.look .textEnd, rest)
    | 'b' => (namedBoundary? f rest).map fun
      | some (condition, rest) => (.look condition, rest)
      | none => (.look (.boundary !f.unicode), rest)
    | 'B' => some (.look (.noBoundary !f.unicode), rest)
    | '<' => some (.look (.wordStart !f.unicode), rest)
    | '>' => some (.look (.wordEnd !f.unicode), rest)
    | c => if standsForItself c then some (.char c, rest) else none

end HeaderRecovery.Pattern
