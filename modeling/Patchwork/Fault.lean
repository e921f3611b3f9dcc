import Patchwork.Json.Mishap

/-!
# Faults

What can go wrong when a file is patched, and what is said about it: a message for the log, a friendlier
one for the person at the terminal, a suggestion, and the exit code. The exit code follows from the
severity, and the severity from the category, so each is decided in one place.
-/

set_option autoImplicit false

namespace Patchwork

/-- Why the storage refused. Only the first two are told apart afterwards, by the suggestion. -/
inductive StorageFault where
  | notFound
  | notText
  | other
  deriving DecidableEq, Repr, Inhabited

/-- A reason to stop. -/
inductive Fault where
  /-- The storage refused to read or write; `text` is its own account. -/
  | storage (why : StorageFault) (text : String)
  /-- No search pattern can be built from the marker. -/
  | pattern (text : String)
  /-- The report cannot be written down. -/
  | serialization (text : String)
  /-- The configuration as a whole cannot be read. -/
  | configuration (field message : String)
  /-- A setting has a value that it may not have. -/
  | badValue (field value reason : String)
  /-- A setting that has to be given is missing. -/
  | missing (field : String)
  deriving DecidableEq, Repr, Inhabited

namespace Fault

/-- The part of the work that a fault belongs to. -/
inductive Category where
  | io
  | pattern
  | configuration
  | serialization
  deriving DecidableEq, Repr

inductive Severity where
  | medium
  | high
  | critical
  deriving DecidableEq, Repr

def Category.name : Category → String
  | .io => "Io"
  | .pattern => "Pattern"
  | .configuration => "Configuration"
  | .serialization => "Serialization"

def Severity.name : Severity → String
  | .medium => "Medium"
  | .high => "High"
  | .critical => "Critical"

def category : Fault → Category
  | .storage .. => .io
  | .pattern _ => .pattern
  | .serialization _ => .serialization
  | .configuration .. => .configuration
  | .badValue .. => .configuration
  | .missing _ => .configuration

/-- Losing the report costs least, and a file that cannot be reached costs most. -/
def Category.severity : Category → Severity
  | .serialization => .medium
  | .configuration => .high
  | .pattern => .high
  | .io => .critical

def severity (fault : Fault) : Severity :=
  fault.category.severity

def Severity.exitCode : Severity → Nat
  | .medium => 2
  | .high => 1
  | .critical => 3

/-- The exit code of a program that stops because of the fault. -/
def exitCode (fault : Fault) : Nat :=
  fault.severity.exitCode

/-- The account that goes to the log. -/
def message : Fault → String
  | .storage _ text => s!"IO error: {text}"
  | .pattern text => s!"Pattern error: {text}"
  | .serialization text => s!"Serialization error: {text}"
  | .configuration field message => s!"Configuration validation failed for '{field}': {message}"
  | .badValue field value reason => s!"Invalid value '{value}' for '{field}': {reason}"
  | .missing field => s!"Missing required configuration: {field}"

/-- The account that goes to the person at the terminal. -/
def friendly : Fault → String
  | .storage _ text => s!"Could not read or write the target file: {text}"
  | .pattern text => s!"Could not build the marker pattern: {text}"
  | fault => fault.message

/-- The account with the category and the severity, for a fault that ends a patch. -/
def classified (fault : Fault) : String :=
  s!"{fault.message} (Category: {fault.category.name}, Severity: {fault.severity.name})"

/-- What to try next. -/
def suggestion : Fault → String
  | .storage .notFound _ => "Check that the target file exists and run from the repository root"
  | .storage .notText _ => "The target file must be valid UTF-8 text"
  | .storage .other _ => "Check file permissions and available disk space"
  | .pattern _ => "Check the marker string passed with --marker"
  | .serialization _ => "Retry without --json"
  | .configuration .. => "Check the configuration file syntax"
  | .badValue field _ _ => s!"Provide a valid value for '{field}'"
  | .missing field => s!"Add '{field}' to the configuration"

/-- What brought the fault about, when that is a fault of its own. -/
def cause? : Fault → Option String
  | .storage _ text => some text
  | .pattern text => some text
  | .serialization text => some text
  | _ => none

/-- The account that is given when a program stops without handling the fault. -/
def unhandled (fault : Fault) : String :=
  match fault.cause? with
  | some text => s!"Error: {fault.message}\n\nCaused by:\n    {text}\n"
  | none => s!"Error: {fault.message}\n"

/-- The report cannot be written down because of a mishap with JSON. -/
def ofMishap (mishap : Json.Mishap) : Fault :=
  .serialization mishap.text

/-- The pattern of a marker would take more than `limit` bytes. -/
def patternTooBig (limit : Nat) : Fault :=
  .pattern s!"Compiled regex exceeds size limit of {limit} bytes."

end Fault

end Patchwork
