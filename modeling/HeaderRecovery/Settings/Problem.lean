import HeaderRecovery.Settings.Basic
import HeaderRecovery.Text.Find
import HeaderRecovery.Text.Lines
import HeaderRecovery.Text.Position

/-! What can be wrong with a settings file, and how it is told. -/
namespace HeaderRecovery.Settings

inductive Problem where
  /-- The text is no document. -/
  | malformed
  /-- The document has a value of the wrong shape where a level is due. -/
  | noLevel
  | unknownLevel (name : String)
  | wrongType (found expected : String)
  | negative (value : Int)
  | missing (field : String)
  /-- A list is too short for what it stands for. -/
  | tooShort (size : Nat)
  deriving DecidableEq, Repr

/-- A problem and the byte at which it lies. -/
structure Fault where
  offset : Nat
  problem : Problem
  deriving DecidableEq, Repr

/-- Why settings cannot be read. -/
inductive Error where
  | fault (fault : Fault)
  /-- No declaration at all would be kept. -/
  | zeroCap
  deriving DecidableEq, Repr

def inBackticks (s : String) : String := "`" ++ s ++ "`"

namespace Problem

def sentence : Problem → String
  | malformed => "the text is not a valid document"
  | noLevel => "a log level is due here"
  | unknownLevel name =>
    "unknown variant " ++ inBackticks name ++ ", expected one of " ++
      String.intercalate ", " (LogLevel.all.map fun level => inBackticks level.name)
  | wrongType found expected => "invalid type: " ++ found ++ ", expected " ++ expected
  | negative value => "invalid value: " ++ toString value ++ " is negative"
  | missing field => "missing field " ++ inBackticks field
  | tooShort size => "invalid length: " ++ toString size

end Problem

def lastAdvice : String := "Please check the configuration file syntax"

/-- Advice for the problems that are met most, by words of their sentences. The first line that
fits is taken. -/
def adviceOn : List (String × String) :=
  [("unknown variant", "Valid log levels are: 'off', 'error', 'warn', 'info', 'debug', 'trace'"),
   ("unknown field", "Check the field name spelling and ensure it's in the correct section"),
   ("invalid type", "Check the value type - strings should be in quotes, numbers should not"),
   ("missing field",
    "Each [[cleanup.replacements]] entry needs both 'pattern' and 'replacement'")]

def advice (sentence : String) : String :=
  match adviceOn.find? fun (words, _) => Text.contains words sentence with
  | some (_, text) => text
  | none => lastAdvice

/-- A fault as it is shown: its sentence, and the line in which it lies with a mark below. -/
structure Report where
  /-- Where the settings come from. -/
  origin : String
  position : Text.Position
  sentence : String
  line : String
  suggestion : String
  deriving DecidableEq, Repr

def Fault.report (fault : Fault) (origin content : String) : Report :=
  let position := Text.position content fault.offset
  let sentence := fault.problem.sentence
  ⟨origin, position, sentence, ((Text.lines content)[position.line - 1]?).getD "", advice sentence⟩

def inQuotes (s : String) : String := "'" ++ s ++ "'"

def Report.text (r : Report) : String :=
  String.intercalate "\n"
    ["Configuration file parsing error in " ++ inQuotes r.origin,
      "",
      "Error at line " ++ toString r.position.line ++ ", column " ++ toString r.position.column ++
        ":",
      r.sentence,
      "",
      r.line,
      String.ofList (List.replicate (r.position.column - 1) ' ') ++ "^",
      "",
      "Suggestion: " ++ r.suggestion]

def zeroCapText (origin : String) : String :=
  "Invalid configuration in " ++ inQuotes origin ++
    ": reconstruct.max_entries_per_line must be at least 1"

def Error.message (origin content : String) : Error → String
  | .fault f => (f.report origin content).text
  | .zeroCap => zeroCapText origin

end HeaderRecovery.Settings
