import HeaderRecovery.Pattern.CharSet

/-!
Patterns of text. Where several matches start at one place, the order of preference decides: a
choice prefers its left side, and a greedy repetition prefers more rounds.
-/
namespace HeaderRecovery

namespace Pattern

/-- A condition on the place between two characters. -/
inductive Look where
  | textStart
  | textEnd
  | lineStart
  | lineEnd
  /-- Lines may also end in a carriage return, alone or before a line feed. -/
  | anyLineStart
  | anyLineEnd
  /-- Exactly one neighbour is a word character. -/
  | boundary (ascii : Bool)
  | noBoundary (ascii : Bool)
  | wordStart (ascii : Bool)
  | wordEnd (ascii : Bool)
  | noWordBefore (ascii : Bool)
  | noWordAfter (ascii : Bool)
  deriving DecidableEq, Repr

namespace Look

def isWord (ascii : Bool) : Option Char → Bool
  | none => false
  | some c => if ascii then CharSet.asciiWord.contains c else Text.isWordChar c

/-- Whether the condition holds between `before` and `after`. -/
def holds (before after : Option Char) : Look → Bool
  | textStart => before.isNone
  | textEnd => after.isNone
  | lineStart => before.isNone || before = some '\n'
  | lineEnd => after.isNone || after = some '\n'
  | anyLineStart =>
    before.isNone || before = some '\n' || (before = some '\r' && after ≠ some '\n')
  | anyLineEnd => after.isNone || after = some '\r' || (after = some '\n' && before ≠ some '\r')
  | boundary ascii => isWord ascii before != isWord ascii after
  | noBoundary ascii => isWord ascii before == isWord ascii after
  | wordStart ascii => !isWord ascii before && isWord ascii after
  | wordEnd ascii => isWord ascii before && !isWord ascii after
  | noWordBefore ascii => !isWord ascii before
  | noWordAfter ascii => !isWord ascii after

end Look
end Pattern

inductive Pattern where
  | empty
  | one (set : Pattern.CharSet)
  | look (condition : Pattern.Look)
  | sequence (first second : Pattern)
  | choice (left right : Pattern)
  /-- At least `least` rounds of the body, and no more than `most` of them if that is given. -/
  | repetition (least : Nat) (most : Option Nat) (greedy : Bool) (body : Pattern)
  /-- The text matched by the body is kept under a number. -/
  | group (index : Nat) (body : Pattern)
  deriving DecidableEq, Repr

namespace Pattern

def sequenceAll : List Pattern → Pattern
  | [] => .empty
  | [p] => p
  | p :: rest => .sequence p (sequenceAll rest)

def choiceAll : List Pattern → Pattern
  | [] => .one .nothing
  | [p] => p
  | p :: rest => .choice p (choiceAll rest)

/-- The text itself. -/
def literal (text : String) : Pattern :=
  sequenceAll (text.toList.map fun c => .one (.single c))

def many (body : Pattern) : Pattern := .repetition 0 none true body

def optional (body : Pattern) : Pattern := .repetition 0 (some 1) true body

/-- The least number of characters that a match takes. -/
def minLength : Pattern → Nat
  | empty => 0
  | one _ => 1
  | look _ => 0
  | sequence a b => a.minLength + b.minLength
  | choice a b => min a.minLength b.minLength
  | repetition least _ _ body => least * body.minLength
  | group _ body => body.minLength

/-- About how many instructions a pattern takes when its rounds are written out. -/
def weight : Pattern → Nat
  | empty => 1
  | one set => set.weight
  | look _ => 1
  | sequence a b => a.weight + b.weight
  | choice a b => a.weight + b.weight + 1
  | repetition least most _ body => (most.getD (max least 1)) * (body.weight + 1)
  | group _ body => body.weight + 2

/-- Whether every match is empty. -/
def isEmptyOnly : Pattern → Bool
  | empty => true
  | one _ => false
  | look _ => true
  | sequence a b => a.isEmptyOnly && b.isEmptyOnly
  | choice a b => a.isEmptyOnly && b.isEmptyOnly
  | repetition _ most _ body => most = some 0 || body.isEmptyOnly
  | group _ body => body.isEmptyOnly

end Pattern
end HeaderRecovery
