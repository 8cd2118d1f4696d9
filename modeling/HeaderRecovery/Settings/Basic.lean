import HeaderRecovery.Options

/-! Settings of a run as a settings file gives them. -/
namespace HeaderRecovery

inductive LogLevel where
  | off
  | error
  | warn
  | info
  | debug
  | trace
  deriving DecidableEq, Repr

namespace LogLevel

def all : List LogLevel := [off, error, warn, info, debug, trace]

def name : LogLevel → String
  | off => "off"
  | error => "error"
  | warn => "warn"
  | info => "info"
  | debug => "debug"
  | trace => "trace"

def ofName? (text : String) : Option LogLevel := all.find? fun level => level.name = text

theorem ofName?_name (level : LogLevel) : ofName? level.name = some level := by
  cases level <;> decide

end LogLevel

/-- A rewriting of spellings as it is written down. -/
structure Replacement where
  pattern : String
  replacement : String
  deriving DecidableEq, Repr

structure Settings where
  logLevel : LogLevel := .warn
  logFile : Option String := none
  outputDir : Option String := none
  /-- The build root, in place of the common directory of all units. -/
  baseDir : Option String := none
  limits : Options := {}
  cleanup : Bool := true
  replacements : List Replacement := []
  deriving DecidableEq, Repr

end HeaderRecovery
