import HeaderRecovery.Path.Native
import HeaderRecovery.Registry

/-! Where the headers of a registry are written: below an output directory, laid out as the
sources are below the build root. Sources outside of it are left out. -/
namespace HeaderRecovery.Layout

structure PlannedFile where
  /-- Normal path of the source file. -/
  source : String
  /-- Its path below the build root. -/
  relative : String
  destination : String
  deriving DecidableEq, Repr

/-- The place of a source file below the build root. -/
def relative? (source baseDir : String) : Option String :=
  (Path.relativeTo source baseDir).filter fun r => r ≠ "." && !Path.escapesBase r

def plan (r : Registry) (baseDir outputDir : String) : List PlannedFile :=
  r.files.entries.filterMap fun (source, file) =>
    if file.isEmpty then none
    else (relative? source baseDir).map fun relative =>
      ⟨source, relative, Path.underRoot outputDir relative⟩

/-- The texts of the planned files by destination, each passed through `tidy`. -/
def texts (r : Registry) (tidy : String → String) (planned : List PlannedFile) :
    List (String × String) :=
  planned.filterMap fun p =>
    (r.files.find? p.source).map fun file => (p.destination, tidy file.render)

end HeaderRecovery.Layout
