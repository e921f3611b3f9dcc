import Patchwork.Path
import Patchwork.Placeholder
import Patchwork.Storage

/-!
# Hosts

A host is what a program runs on: it reads and writes files by their paths, knows the environment, and
takes what the program puts out. A program ends with an exit code, or without having run when the command
line asks for help or cannot be understood.
-/

set_option autoImplicit false

namespace Patchwork

/-- Something that a program puts out. -/
inductive Emission where
  | out (text : String)
  | err (text : String)
  /-- A log entry, shown in the format. -/
  | log (format : Log.Format) (entry : Log.Entry)
  deriving DecidableEq, Repr

structure Host (m : Type → Type) where
  read : String → ExceptT Fault m String
  write : String → String → ExceptT Fault m Unit
  /-- The environment, of which at least the variables with the given names are known. -/
  environment : List String → m Environment
  emit : Emission → m Unit

inductive Ending where
  | exit (code : Nat)
  | help
  | usage
  deriving DecidableEq, Repr

def Ending.exitCode : Ending → Nat
  | .exit code => code
  | .help => 0
  | .usage => 2

namespace Host

variable {m : Type → Type} [Monad m]

def out (host : Host m) (line : String) : m Unit :=
  host.emit (.out (line ++ "\n"))

def err (host : Host m) (line : String) : m Unit :=
  host.emit (.err (line ++ "\n"))

/-- Puts out a log entry as the log records it, if the log takes it. -/
def log (host : Host m) (setup : Log.Setup) (entry : Log.Entry) : m Unit :=
  match setup.record? entry with
  | some recorded => host.emit (.log setup.format recorded)
  | none => pure ()

/-- The files below a base directory. -/
def storage (host : Host m) (setup : Log.Setup) (base : String) : Storage m where
  read path := do
    let full := Path.join base path
    host.log setup (Log.debug s!"Reading {full}")
    host.read full
  write path content := do
    let full := Path.join base path
    host.log setup (Log.debug s!"Writing {full}")
    host.write full content
  note := host.log setup

/-- Tells the person at the terminal what went wrong. -/
def explain (host : Host m) (fault : Fault) : m Unit :=
  host.err s!"❌ {fault.friendly}"

/-- Tells the person at the terminal what to try next. -/
def advise (host : Host m) (fault : Fault) : m Unit :=
  host.err s!"💡 {fault.suggestion}"

end Host

end Patchwork
