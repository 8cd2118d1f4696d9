import HeaderRecovery.Command

/-! The command on the files of this machine. -/
namespace HeaderRecovery

def readErrorOf : IO.Error → ReadError
  | .noFileOrDirectory .. => .missing
  | .inappropriateType .. => .directory
  | e => .other (toString e)

/-- Whether an action has an effect and no error. -/
def succeeds (action : IO Unit) : IO Bool := do
  match ← action.toBaseIO with
  | .ok () => return true
  | .error _ => return false

def machineFiles : Files IO where
  read path := do
    match ← (IO.FS.readBinFile path).toBaseIO with
    | .ok bytes => return .ok bytes.data
    | .error e => return .error (readErrorOf e)
  isPresent path := succeeds (discard (IO.FS.realPath path))
  makeDirectories path := if path = "" then return true else succeeds (IO.FS.createDirAll path)
  write path text := succeeds (IO.FS.writeFile path text)

def surroundings : IO Command.Surroundings := do
  let directory ← IO.currentDir.toBaseIO
  return {
    home := (← IO.getEnv "HOME").filter (· ≠ "")
    workingDirectory := directory.toOption.map (·.toString)
    logFilter := ← IO.getEnv "RUST_LOG" }

end HeaderRecovery

open HeaderRecovery

def main (words : List String) : IO UInt32 := do
  let outcome ← Command.outcome machineFiles (← surroundings) words
  IO.print outcome.output
  IO.eprint outcome.errors
  return outcome.exit.toUInt32
