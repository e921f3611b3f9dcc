import Patchwork.FileTree
import Patchwork.JobCommand
import Patchwork.PatchCommand

/-!
# The programs

One executable holds both commands and goes by the name it is called by: as `toml-fixup` it runs a job
file, and otherwise it applies one patch. This module only joins the commands to the real files, the real
environment and the real outputs.
-/

set_option autoImplicit false

namespace Patchwork.Program

/-- The obstacle that an error number of the system stands for. Some calls give the number negated. -/
def obstacle? (number : UInt32) : Option FileTree.Obstacle :=
  match min number.toNat (UInt32.size - number.toNat) with
  | 2 => some .noSuchFile
  | 20 => some .notADirectory
  | 21 => some .isADirectory
  | 36 => some .nameTooLong
  | _ => none

/-- The fault that an error of the system means. -/
def faultOf (error : IO.Error) : Fault :=
  let known := match error with
    | .noFileOrDirectory _ number _ => obstacle? number
    | .inappropriateType _ number _ => obstacle? number
    | .invalidArgument _ number _ => obstacle? number
    | _ => none
  match known with
  | some obstacle => obstacle.fault
  | none => .storage .other (toString error)

/-- A system call on a path, which must not hold a NUL character. -/
def call {α : Type} (path : String) (action : IO α) : ExceptT Fault IO α := do
  if '\x00' ∈ path.toList then throw FileTree.Obstacle.nulInPath.fault
  match ← action.toBaseIO with
  | .ok value => return value
  | .error error => throw (faultOf error)

def environmentOf (names : List String) : IO Environment := do
  let known ← names.mapM fun name => do return (name, ← IO.getEnv name)
  return fun name => (known.find? fun entry => entry.1 = name).bind Prod.snd

def emit : Emission → IO Unit
  | .out text => do
    let out ← IO.getStdout
    out.putStr text
    out.flush
  | .err text => IO.eprint text
  | .log format entry => IO.eprintln (format.line entry)

def host : Host IO where
  read path := do
    let bytes ← call path (IO.FS.readBinFile path)
    match String.fromUTF8? bytes with
    | some text => return text
    | none => throw FileTree.Obstacle.notText.fault
  write path content := call path (IO.FS.writeFile path content)
  environment := environmentOf
  emit := emit

/-- What is shown when the command line asks for help or cannot be understood. -/
def usageText (name : String) : String :=
  if name = "toml-fixup" then
    "Usage: toml-fixup [--config FILE] [--verbose] [--dry-run] [--json]"
  else
    "Usage: repo-fixup [--base-dir DIR] [--dry-run] [--json] [--verbose] <workflow|build-fix> [OPTIONS]"

/-- The filter that the environment asks for. Only switching the log off is understood. -/
def chosenFilter : IO (Option Log.Filter) := do
  return if (← IO.getEnv "RUST_LOG") = some "off" then some .off else none

end Patchwork.Program

open Patchwork in
def main (arguments : List String) : IO UInt32 := do
  let name := (← IO.appPath).fileName.getD "repo-fixup"
  let chosen ← Program.chosenFilter
  let ending ← if name = "toml-fixup" then JobCommand.run Program.host chosen arguments
    else PatchCommand.run Program.host chosen arguments
  match ending with
  | .exit _ => pure ()
  | .help => IO.println (Program.usageText name)
  | .usage => IO.eprintln (Program.usageText name)
  return ending.exitCode.toUInt32
