import HeaderRecovery.CommandLine.Arguments
import HeaderRecovery.Path.Native
import HeaderRecovery.Text.Blank

/-! What a run is to do: arguments win over the settings file. -/
namespace HeaderRecovery

open CommandLine (Arguments)

structure Job where
  input : String
  outputDir : String
  /-- The build root, unless it is to be found from the units. -/
  baseDir : Option String
  dryRun : Bool
  logFilter : String
  logFile : Option String
  quiet : Bool
  limits : Options
  cleanup : Bool
  replacements : List Replacement
  deriving DecidableEq, Repr

namespace Job

/-- `out` beside the input. -/
def defaultOutputDir (input : String) : String :=
  match Path.parent? input with
  | some dir => Path.extend dir "out"
  | none => "out"

/-- What is logged: a level among the arguments wins over a filter from the environment, which
counts if it is not blank. -/
def filter (level : Option LogLevel) (environment : Option String) (fallback : LogLevel) : String :=
  match level, environment.filter fun text => Text.trimmed text ≠ "" with
  | some level, _ => level.name
  | none, some directives => directives
  | none, none => fallback.name

def of (a : Arguments) (environment : Option String) (s : Settings) : Job where
  input := a.input
  outputDir := (a.outputDir.or s.outputDir).getD (defaultOutputDir a.input)
  baseDir := a.baseDir.or s.baseDir
  dryRun := a.dryRun
  logFilter := filter a.logLevel environment s.logLevel
  logFile := a.logFile.or s.logFile
  quiet := a.quiet
  limits := { s.limits with
    maxEntriesPerLine := a.maxEntriesPerLine.getD s.limits.maxEntriesPerLine }
  cleanup := a.cleanup && s.cleanup
  replacements := s.replacements

end Job
end HeaderRecovery
