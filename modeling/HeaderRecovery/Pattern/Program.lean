import Std.Data.HashSet
import HeaderRecovery.Pattern.Basic

/-!
Finding the matches of a pattern. The pattern becomes a program of small instructions, which is
run with a stack of threads, the preferred one on top. A thread that comes to an instruction at a
place where another one has been before it is dropped: that one was preferred and has failed. So a
search takes time in proportion to the program and the text.
-/
namespace HeaderRecovery.Pattern

inductive Instruction where
  | take (set : CharSet) (next : Nat)
  | check (condition : Look) (next : Nat)
  | mark (slot : Nat) (next : Nat)
  | fork (first second : Nat)
  | accept

abbrev Code := Array Instruction

/-- A fork between another round and the way out, by preference. -/
def Instruction.round (greedy : Bool) (again out : Nat) : Instruction :=
  if greedy then .fork again out else .fork out again

/-- Code for `n` rounds of a body before `next`; `body` gives its entry for what follows it. -/
def times (body : Nat → Code → Nat × Code) : Nat → Nat → Code → Nat × Code
  | 0, next, code => (next, code)
  | n + 1, next, code =>
    let (entry, code) := body next code
    times body n entry code

/-- Code for up to `n` rounds, each of which may leave for `out`. -/
def upTo (body : Nat → Code → Nat × Code) (greedy : Bool) (out : Nat) :
    Nat → Code → Nat × Code
  | 0, code => (out, code)
  | n + 1, code =>
    let (entry, code) := upTo body greedy out n code
    let (entry, code) := body entry code
    (code.size, code.push (.round greedy entry out))

/-- Code for one round or more: the entries of the body and of the fork behind it. -/
def oneOrMore (body : Nat → Code → Nat × Code) (greedy : Bool) (out : Nat) (code : Code) :
    Nat × Nat × Code :=
  let fork := code.size
  let (entry, code) := body fork (code.push .accept)
  (entry, fork, code.setIfInBounds fork (.round greedy entry out))

/-- Adds the code of a pattern that goes on at `next`, and gives its entry. A body that can match
nothing is not entered from its own fork alone, so that a first round is tried before none. -/
def assemble : Pattern → Nat → Code → Nat × Code
  | .empty, next, code => (next, code)
  | .one set, next, code => (code.size, code.push (.take set next))
  | .look condition, next, code => (code.size, code.push (.check condition next))
  | .sequence first second, next, code =>
    let (entry, code) := assemble second next code
    assemble first entry code
  | .choice left right, next, code =>
    let (first, code) := assemble left next code
    let (second, code) := assemble right next code
    (code.size, code.push (.fork first second))
  | .group index body, next, code =>
    let stop := code.size
    let (entry, code) := assemble body stop (code.push (.mark (2 * index + 1) next))
    (code.size, code.push (.mark (2 * index) entry))
  | .repetition least most greedy body, next, code =>
    let least := if body.isEmptyOnly then min least 1 else least
    let most := if body.isEmptyOnly then some (min (most.getD 1) 1) else most
    match most with
    | some most =>
      let (entry, code) := upTo (assemble body) greedy next (most - least) code
      times (assemble body) least entry code
    | none =>
      let (entry, fork, code) := oneOrMore (assemble body) greedy next code
      if least > 0 then times (assemble body) (least - 1) entry code
      else if body.minLength > 0 then (fork, code)
      else (code.size, code.push (.round greedy entry next))

structure Program where
  code : Code
  start : Nat

def compile (p : Pattern) : Program :=
  let (start, code) := assemble p 0 #[.accept]
  ⟨code, start⟩

structure Thread where
  instruction : Nat
  position : Nat
  /-- Places that groups begin and end at, the last one first. -/
  marks : List (Nat × Nat)

/-- What a thread becomes in one step, the preferred thread first. -/
def step (text : Array Char) (t : Thread) : Instruction → List Thread
  | .take set next =>
    match text[t.position]? with
    | some c => if set.contains c then [{ t with instruction := next, position := t.position + 1 }]
      else []
    | none => []
  | .check condition next =>
    let before := if t.position = 0 then none else text[t.position - 1]?
    if condition.holds before text[t.position]? then [{ t with instruction := next }] else []
  | .mark slot next => [{ t with instruction := next, marks := (slot, t.position) :: t.marks }]
  | .fork first second => [{ t with instruction := first }, { t with instruction := second }]
  | .accept => []

abbrev Seen := Std.HashSet (Nat × Nat)

/-- Runs threads until one accepts. -/
def run (code : Code) (text : Array Char) : Nat → Seen → List Thread → Option Thread × Seen
  | 0, seen, _ => (none, seen)
  | _ + 1, seen, [] => (none, seen)
  | fuel + 1, seen, t :: rest =>
    if seen.contains (t.instruction, t.position) then run code text fuel seen rest
    else
      let seen := seen.insert (t.instruction, t.position)
      match code[t.instruction]? with
      | some .accept => (some t, seen)
      | some i => run code text fuel seen (step text t i ++ rest)
      | none => run code text fuel seen rest

/-- Every pair of an instruction and a place adds two threads at most. -/
def Program.steps (p : Program) (text : Array Char) : Nat :=
  2 * p.code.size * (text.size + 1) + 2

structure Match where
  start : Nat
  stop : Nat
  marks : List (Nat × Nat)

/-- The first match that starts at `start` or at one of the `more` places behind it. -/
def searchFrom (p : Program) (text : Array Char) : Nat → Seen → Nat → Option Match
  | more, seen, start =>
    match run p.code text (p.steps text) seen [⟨p.start, start, []⟩] with
    | (some t, _) => some ⟨start, t.position, t.marks⟩
    | (none, seen) =>
      match more with
      | 0 => none
      | more + 1 => searchFrom p text more seen (start + 1)

def search? (p : Program) (text : Array Char) (start : Nat) : Option Match :=
  if start ≤ text.size then searchFrom p text (text.size - start) ∅ start else none

/-- The matches from `start` on, none of which overlaps another. An empty one right behind the
match before it, which ended at `last`, does not count. -/
def matchesFrom (p : Program) (text : Array Char) : Nat → Option Nat → Nat → List Match
  | 0, _, _ => []
  | fuel + 1, last, start =>
    match search? p text start with
    | none => []
    | some m =>
      if m.start = m.stop ∧ last = some m.stop then matchesFrom p text fuel last (start + 1)
      else m :: matchesFrom p text fuel (some m.stop) m.stop

/-- Of two steps in a row one at least moves on in the text. -/
def allMatches (p : Program) (text : Array Char) : List Match :=
  matchesFrom p text (2 * text.size + 3) none 0

/-- The text of a group, if the group took part in the match. -/
def Match.group? (m : Match) (text : Array Char) (index : Nat) : Option (List Char) :=
  if index = 0 then some (text.extract m.start m.stop).toList
  else
    match m.marks.lookup (2 * index), m.marks.lookup (2 * index + 1) with
    | some start, some stop => some (text.extract start stop).toList
    | _, _ => none

end HeaderRecovery.Pattern
