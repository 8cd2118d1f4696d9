import HeaderRecovery.Path.Native

/-! What a run needs of a file system: reading, looking, making directories and writing. -/
namespace HeaderRecovery

/-- Why a file cannot be read. -/
inductive ReadError where
  | missing
  | directory
  | other (reason : String)
  deriving DecidableEq, Repr

structure Files (m : Type → Type) where
  read : String → m (Except ReadError (Array UInt8))
  isPresent : String → m Bool
  /-- Makes a directory and all directories on the way to it that are missing. -/
  makeDirectories : String → m Bool
  /-- Replaces a file or makes a new one in a directory that is there. -/
  write : String → String → m Bool

/-- Why a text cannot be stored. -/
inductive WriteError where
  | directory (path : String)
  | file (path : String)
  deriving DecidableEq, Repr

namespace Files

variable {m : Type → Type} [Monad m]

/-- Writes a text, in a directory that is made if need be. -/
def store (files : Files m) (destination text : String) : ExceptT WriteError m Unit := do
  match Path.parent? destination with
  | some dir => unless ← files.makeDirectories dir do throw (.directory dir)
  | none => pure ()
  unless ← files.write destination text do throw (.file destination)

/-- Writes texts in order, up to the first that cannot be stored. -/
def storeAll (files : Files m) (texts : List (String × String)) : ExceptT WriteError m Unit :=
  texts.forM fun (destination, text) => files.store destination text

end Files
end HeaderRecovery
