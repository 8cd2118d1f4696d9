import HeaderRecovery.Settings.Basic

/-! What a command line says: the parameters there are, the arguments given for them, and what can
be wrong with these. -/
namespace HeaderRecovery.CommandLine

inductive Parameter where
  | input
  | baseDir
  | output
  | config
  | maxEntriesPerLine
  | noCleanup
  | dryRun
  | logLevel
  | logFile
  | quiet
  | help
  | version
  deriving DecidableEq, Repr

namespace Parameter

/-- All parameters that are given by a name. -/
def named : List Parameter :=
  [baseDir, output, config, maxEntriesPerLine, noCleanup, dryRun, logLevel, logFile, quiet, help,
    version]

/-- The name behind two hyphens. -/
def long : Parameter → String
  | input => ""
  | baseDir => "base-dir"
  | output => "output"
  | config => "config"
  | maxEntriesPerLine => "max-entries-per-line"
  | noCleanup => "no-cleanup"
  | dryRun => "dry-run"
  | logLevel => "log-level"
  | logFile => "log-file"
  | quiet => "quiet"
  | help => "help"
  | version => "version"

/-- The letter behind one hyphen. -/
def short? : Parameter → Option Char
  | output => some 'o'
  | quiet => some 'q'
  | help => some 'h'
  | version => some 'V'
  | _ => none

/-- What a value is called; a parameter without one is a flag. -/
def valueName? : Parameter → Option String
  | input | config | logFile => some "PATH"
  | baseDir | output => some "DIR"
  | maxEntriesPerLine => some "N"
  | logLevel => some "LEVEL"
  | noCleanup | dryRun | quiet | help | version => none

def takesValue (p : Parameter) : Bool := p.valueName?.isSome

def ofLong? (name : String) : Option Parameter := named.find? fun p => p.long = name

def ofShort? (letter : Char) : Option Parameter := named.find? fun p => p.short? = some letter

/-- A parameter with the name of its value, as messages show it. -/
def display (p : Parameter) : String :=
  let name := if p = input then "" else "--" ++ p.long
  match p.valueName? with
  | some value => (if name = "" then "" else name ++ " ") ++ "<" ++ value ++ ">"
  | none => name

end Parameter

structure Arguments where
  input : String := ""
  baseDir : Option String := none
  outputDir : Option String := none
  config : Option String := none
  maxEntriesPerLine : Option Nat := none
  cleanup : Bool := true
  dryRun : Bool := false
  logLevel : Option LogLevel := none
  logFile : Option String := none
  quiet : Bool := false
  deriving DecidableEq, Repr

/-- Why a text is no count. -/
inductive CountError where
  | empty
  | digit
  | tooLarge
  | zero
  deriving DecidableEq, Repr

/-- Why a command line starts no run. -/
inductive UsageError where
  | help
  | version
  | unknown (argument : String)
  | missingValue (parameter : Parameter)
  | noLevel (value : String)
  | noCount (value : String) (error : CountError)
  | repeated (parameter : Parameter)
  | unneededValue (parameter : Parameter) (value : String)
  | noInput
  deriving DecidableEq, Repr

def CountError.text : CountError → String
  | empty => "cannot parse integer from empty string"
  | digit => "invalid digit found in string"
  | tooLarge => "number too large to fit in target type"
  | zero => "0 is not in 1..18446744073709551615"

def inQuotes (s : String) : String := "'" ++ s ++ "'"

def UsageError.message : UsageError → String
  | help | version => ""
  | unknown argument => "unexpected argument " ++ inQuotes argument ++ " found"
  | missingValue p => "a value is required for " ++ inQuotes p.display ++ " but none was supplied"
  | noLevel "" =>
    "a value is required for " ++ inQuotes Parameter.logLevel.display ++ " but none was supplied"
  | noLevel value =>
    "invalid value " ++ inQuotes value ++ " for " ++ inQuotes Parameter.logLevel.display
  | noCount value error =>
    "invalid value " ++ inQuotes value ++ " for " ++
      inQuotes Parameter.maxEntriesPerLine.display ++ ": " ++ error.text
  | repeated p => "the argument " ++ inQuotes p.display ++ " cannot be used multiple times"
  | unneededValue p value =>
    "unexpected value " ++ inQuotes value ++ " for " ++ inQuotes p.display ++
      " found; no more were expected"
  | noInput => "the following required arguments were not provided:"

end HeaderRecovery.CommandLine
