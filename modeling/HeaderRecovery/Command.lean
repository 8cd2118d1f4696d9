import HeaderRecovery.Cleanup.Basic
import HeaderRecovery.CommandLine.Reading
import HeaderRecovery.Dwarf.Image
import HeaderRecovery.Files.Basic
import HeaderRecovery.Job
import HeaderRecovery.Layout
import HeaderRecovery.Reconstruction
import HeaderRecovery.Settings.Decoding

/-!
The command: it reads arguments and settings, loads a program, and writes the headers of the
program or lists them. What it does to files goes through `Files`.
-/
namespace HeaderRecovery.Command

open CommandLine (Arguments UsageError)

/-- What is around a run. -/
structure Surroundings where
  home : Option String
  workingDirectory : Option String
  /-- Directives of a log filter. -/
  logFilter : Option String

inductive Failure where
  | usage (error : UsageError)
  | noSettingsFile (path : String)
  | unreadableSettings (path reason : String)
  | settings (origin content : String) (error : Settings.Error)
  | pattern (pattern : String)
  | input (path : String)
  /-- A declaration contains itself without end. -/
  | endless
  | write (error : WriteError)

namespace Failure

def message : Failure → String
  | usage error => error.message
  | noSettingsFile path => "Specified configuration file does not exist: " ++ path
  | unreadableSettings path reason =>
    "Failed to read configuration file '" ++ path ++ "': " ++ reason
  | settings origin content error => error.message origin content
  | pattern text => "Invalid cleanup pattern '" ++ text ++ "'"
  | input path => "Failed to load '" ++ path ++ "'"
  | endless => "A declaration contains itself"
  | write (.directory path) => "Failed to create output directory '" ++ path ++ "'"
  | write (.file path) => "Failed to write '" ++ path ++ "'"

end Failure

def ReadError.reason : ReadError → String
  | .missing => "No such file or directory (os error 2)"
  | .directory => "Is a directory (os error 21)"
  | .other reason => reason

variable {m : Type → Type} [Monad m]

/-! ## Settings -/

/-- Where settings are looked for: those of the user come first, then those of the project. -/
def searchPaths (around : Surroundings) : List String :=
  (around.home.map fun home => Path.extend (Path.extend home ".dwarfdecl") "config.toml").toList ++
    (around.workingDirectory.map fun dir => Path.extend dir "dwarfdecl.toml").toList

def readText (files : Files m) (path : String) : ExceptT Failure m String := do
  match ← files.read path with
  | .error e => throw (.unreadableSettings path (ReadError.reason e))
  | .ok bytes =>
    match String.fromUTF8? ⟨bytes⟩ with
    | some text => return text
    | none => throw (.unreadableSettings path "stream did not contain valid UTF-8")

def settingsIn (files : Files m) (path : String) : ExceptT Failure m Settings := do
  let content ← readText files path
  match Settings.read content with
  | .ok settings => return settings
  | .error e => throw (.settings path content e)

/-- The settings in the first file that is there. -/
def firstSettings (files : Files m) : List String → ExceptT Failure m Settings
  | [] => return {}
  | path :: others => do
    if ← files.isPresent path then settingsIn files path else firstSettings files others

def settings (files : Files m) (around : Surroundings) :
    Option String → ExceptT Failure m Settings
  | some path => do
    unless ← files.isPresent path do throw (.noSettingsFile path)
    settingsIn files path
  | none => firstSettings files (searchPaths around)

/-! ## The run -/

/-- Makes the log file empty. A run goes on without it. -/
def openLog (files : Files m) (job : Job) : m Unit :=
  match job.quiet, job.logFile with
  | false, some path => discard (files.write path "")
  | _, _ => pure ()

/-- What is done to the text of a header. -/
def tidy (job : Job) : Except Failure (String → String) :=
  if job.cleanup then
    match Cleanup.ofReplacements (job.replacements.map fun r => (r.pattern, r.replacement)) with
    | .ok cleanup => .ok cleanup.apply
    | .error pattern => .error (.pattern pattern)
  else .ok id

/-- The entries of the input. A file without units counts as broken. -/
def load (files : Files m) (path : String) : ExceptT Failure m Debug.EntryTree := do
  match ← files.read path with
  | .error _ => throw (.input path)
  | .ok bytes =>
    match Dwarf.loadFile bytes with
    | .ok tree => if tree.units.isEmpty then throw (.input path) else return tree
    | .error _ => throw (.input path)

/-- The headers of a program and where they go. -/
def plan (job : Job) (registry : Registry) : List Layout.PlannedFile :=
  Layout.plan registry (job.baseDir.getD registry.baseDir) job.outputDir

/-- Does the job and gives the lines to be shown. -/
def perform (files : Files m) (job : Job) : ExceptT Failure m (List String) := do
  let tidy ← liftExcept (tidy job)
  let tree ← load files job.input
  match reconstruct tree job.limits job.baseDir with
  | none => throw .endless
  | some registry =>
    let planned := plan job registry
    if job.dryRun then return planned.map (·.relative)
    match ← (files.storeAll (Layout.texts registry tidy planned)).run with
    | .ok () => return []
    | .error e => throw (.write e)

def run (files : Files m) (around : Surroundings) (words : List String) :
    ExceptT Failure m (List String) := do
  match Arguments.ofWords words with
  | .error e => throw (.usage e)
  | .ok arguments =>
    let settings ← settings files around arguments.config
    let job := Job.of arguments around.logFilter settings
    ExceptT.lift (openLog files job)
    perform files job

/-! ## What is shown -/

/-- What a run leaves behind besides files. -/
structure Outcome where
  exit : Nat
  output : String := ""
  errors : String := ""

def usageText : String := "Usage: dwarfdecl [OPTIONS] <PATH>"

def versionText : String := "dwarfdecl 0.1.0"

def helpText : String :=
  String.intercalate "\n"
    ["Regenerate C++ headers from the DWARF debugging information of a binary",
      "",
      usageText,
      "",
      "Arguments:",
      "  <PATH>  Executable, shared library, object or separate debug file to read",
      "",
      "Options:",
      "      --base-dir <DIR>            Build root the compiler ran under",
      "  -o, --output <DIR>              Output directory for generated headers",
      "      --config <PATH>             Specify custom configuration file path",
      "      --max-entries-per-line <N>  Most declarations kept for one source line",
      "      --no-cleanup                Keep compiler spellings of standard library types",
      "      --dry-run                   List the headers without writing them",
      "      --log-level <LEVEL>         Set log level",
      "      --log-file <PATH>           Also write logs to this file",
      "  -q, --quiet                     Disable logging completely",
      "  -h, --help                      Print help",
      "  -V, --version                   Print version"]

def line (text : String) : String := text ++ "\n"

/-- The message of a usage error with what is to be known besides. -/
def usageErrors (error : UsageError) : String :=
  line ("error: " ++ error.message) ++
    (if error = .noInput then line ("  " ++ CommandLine.Parameter.input.display) else "") ++
    "\n" ++ line usageText ++ "\nFor more information, try '--help'.\n"

def Outcome.ofResult : Except Failure (List String) → Outcome
  | .ok lines => { exit := 0, output := String.join (lines.map line) }
  | .error (.usage .help) => { exit := 0, output := line helpText }
  | .error (.usage .version) => { exit := 0, output := line versionText }
  | .error (.usage e) => { exit := 2, errors := usageErrors e }
  | .error e => { exit := 1, errors := line ("Error: " ++ e.message) }

/-- The command as a whole. -/
def outcome (files : Files m) (around : Surroundings) (words : List String) : m Outcome := do
  return Outcome.ofResult (← (run files around words).run)

end HeaderRecovery.Command
