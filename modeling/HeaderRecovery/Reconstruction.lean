import HeaderRecovery.Registry

/-! The declarations of a program: those of all its compile units, or of the units that were
compiled below a build root. -/
namespace HeaderRecovery

open Debug

/-- Whether a unit counts under a build root. A unit without a directory always does. -/
def isWanted (baseDir : Option String) (unit : UnitInfo) : Bool :=
  match baseDir, unit.directory with
  | some base, some directory => Path.isUnder directory base
  | _, _ => true

/-- There is no registry if a declaration contains itself without end. -/
def reconstruct (t : EntryTree) (options : Options) (baseDir : Option String) : Option Registry :=
  (Registry.empty options).updateAll t
    ((t.compileUnits.filter (isWanted baseDir)).map (·.root))

end HeaderRecovery
