import HeaderRecovery.CommandLine.Arguments

/-!
Reading a command line from left to right. A value that stands in a word of its own is judged only
when the next parameter comes up or the line ends, so that a word that is not understood wins over
a bad value before it.
-/
namespace HeaderRecovery.CommandLine

/-- What follows digits with the value `n`, where 64 bits hold the numbers. -/
def countFrom (n : Nat) : List Char → Except CountError Nat
  | [] => .ok n
  | c :: rest =>
    if c.isDigit then
      let next := 10 * n + (c.toNat - '0'.toNat)
      if next < UInt64.size then countFrom next rest else .error .tooLarge
    else .error .digit

/-- A positive count, with or without a plus sign. -/
def count (text : String) : Except CountError Nat := do
  let n ← match text.toList with
    | [] => .error .empty
    | ['+'] => .error .digit
    | '+' :: rest => countFrom 0 rest
    | cs => countFrom 0 cs
  if n = 0 then .error .zero else return n

/-- The text of a path, which is not empty. -/
def pathOf (p : Parameter) (value : String) : Except UsageError String :=
  if value = "" then .error (.missingValue p) else .ok value

/-- Enters a value, or a flag, into the arguments. -/
def Arguments.set (a : Arguments) (p : Parameter) (value : String) :
    Except UsageError Arguments :=
  match p with
  | .input => return { a with input := ← pathOf p value }
  | .baseDir => return { a with baseDir := some value }
  | .output => return { a with outputDir := some (← pathOf p value) }
  | .config => return { a with config := some (← pathOf p value) }
  | .maxEntriesPerLine =>
    match count value with
    | .ok n => return { a with maxEntriesPerLine := some n }
    | .error e => .error (.noCount value e)
  | .noCleanup => return { a with cleanup := false }
  | .dryRun => return { a with dryRun := true }
  | .logLevel =>
    match LogLevel.ofName? value with
    | some level => return { a with logLevel := some level }
    | none => .error (.noLevel value)
  | .logFile => return { a with logFile := some (← pathOf p value) }
  | .quiet => return { a with quiet := true }
  | .help => .error .help
  | .version => .error .version

structure Reader where
  arguments : Arguments := {}
  given : List Parameter := []
  /-- A parameter whose value, if there is one yet, is still to be judged. -/
  pending : Option (Parameter × Option String) := none
  /-- Only inputs follow. -/
  literal : Bool := false

namespace Reader

def enter (r : Reader) (p : Parameter) (value : String) : Except UsageError Reader := do
  if p ∈ r.given then .error (.repeated p)
  else return { r with arguments := ← r.arguments.set p value, given := p :: r.given }

/-- Judges the pending parameter. -/
def settle (r : Reader) : Except UsageError Reader :=
  match r.pending with
  | none => .ok r
  | some (p, none) => .error (.missingValue p)
  | some (p, some value) => { r with pending := none }.enter p value

/-- A flag, or a parameter with a value in the same word. -/
def give (r : Reader) (p : Parameter) (value : String) : Except UsageError Reader := do
  (← r.settle).enter p value

/-- A parameter whose value may be the next word. -/
def await (r : Reader) (p : Parameter) : Except UsageError Reader := do
  return { ← r.settle with pending := some (p, none) }

/-- A word from behind its two hyphens. -/
def long (r : Reader) (word : List Char) : Except UsageError Reader :=
  let name := String.ofList (word.takeWhile (· ≠ '='))
  match Parameter.ofLong? name, word.dropWhile (· ≠ '=') with
  | none, _ => .error (.unknown ("--" ++ name))
  | some p, _ :: value =>
    let value := String.ofList value
    if p.takesValue then r.give p value else .error (.unneededValue p value)
  | some p, [] => if p.takesValue then r.await p else r.give p ""

/-- Letters from behind one hyphen. What follows the letter of a parameter with a value is its
value, behind an equals sign or not. -/
def letters (r : Reader) : List Char → Except UsageError Reader
  | [] => .ok r
  | c :: rest =>
    match Parameter.ofShort? c with
    | none => .error (.unknown ("-" ++ String.ofList [c]))
    | some p =>
      if p.takesValue then
        match rest with
        | [] => r.await p
        | '=' :: value => r.give p (String.ofList value)
        | value => r.give p (String.ofList value)
      else do letters (← r.give p "") rest

/-- A word that is no parameter by its looks: a value that is awaited, or the input. -/
def plain (r : Reader) (word : String) : Except UsageError Reader :=
  match r.pending, r.literal with
  | some (p, none), false => .ok { r with pending := some (p, some word) }
  | pending, _ =>
    if .input ∈ r.given ∨ pending.any (·.1 = .input) then .error (.unknown word)
    else do return { ← r.settle with pending := some (.input, some word) }

def word (r : Reader) (word : String) : Except UsageError Reader :=
  if r.literal then r.plain word
  else match word.toList with
    | ['-', '-'] => .ok { r with literal := true }
    | '-' :: '-' :: rest => r.long rest
    | '-' :: c :: rest => r.letters (c :: rest)
    | _ => r.plain word

end Reader

/-- The arguments that the words of a command line give, from behind the name of the program. -/
def Arguments.ofWords (words : List String) : Except UsageError Arguments := do
  let r ← (← words.foldlM Reader.word {}).settle
  if .input ∈ r.given then return r.arguments else .error .noInput

end HeaderRecovery.CommandLine
