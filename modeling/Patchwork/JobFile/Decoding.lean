import Patchwork.JobFile
import Patchwork.Placeholder
import Patchwork.Toml.Reader

/-!
# Reading job files

A job file is a TOML document in which placeholders are expanded before it is read, wherever they stand.
Keys that no setting has are passed over, but their numbers have to be within the limits of TOML.

A section is a table. It may also be a list of the values of all its settings in order, of which any
further items are passed over unseen, and a date or time stands for a section without settings. The rows
of a repeated header are no section, because no setting has a table for its value.
-/

set_option autoImplicit false

namespace Patchwork

namespace JobFile

open Toml (Item Members)

def text? : Item → Option String
  | .string text => some text
  | _ => none

def flag? : Item → Option Bool
  | .boolean value => some value
  | _ => none

/-- A count fits into 64 bits. -/
def count? : Item → Option Nat
  | .integer value => if 0 ≤ value ∧ value.toNat < UInt64.size then some value.toNat else none
  | _ => none

/-- A setting that may be missing; when it is there it has to be of its kind. -/
def setting? {α : Type} (read : Item → Option α) (members : Members) (name : String) :
    Option (Option α) :=
  match members.get? name with
  | none => some none
  | some item => (read item).map some

/-- The other members of a table can be passed over. -/
def othersHoldable (names : List String) (members : Members) : Bool :=
  members.all fun member => names.contains member.1 || member.2.holdable

/-- The members of a section whose settings have the given names. -/
def sectionMembers? (names : List String) : Item → Option Members
  | .table _ members => if othersHoldable names members then some members else none
  | .array items => if names.length ≤ items.length then some (names.zip items) else none
  | .moment => some []
  | _ => none

def workflow? (item : Item) : Option WorkflowSection := do
  let members ← sectionMembers? ["path", "marker", "step"] item
  return { path := ← setting? text? members "path"
           marker := ← setting? text? members "marker"
           step := ← setting? text? members "step" }

def buildFix? (item : Item) : Option BuildFixSection := do
  let members ←
    sectionMembers? ["path", "line_threshold", "permission_marker", "duplicate_marker"] item
  return { path := ← setting? text? members "path"
           threshold := ← setting? count? members "line_threshold"
           permissionMarker := ← setting? text? members "permission_marker"
           duplicateMarker := ← setting? text? members "duplicate_marker" }

def logging? (item : Item) : Option LoggingSection := do
  let members ← sectionMembers? ["verbose", "format"] item
  return { verbose := ← setting? flag? members "verbose"
           format := ← setting? text? members "format" }

def ofMembers? (members : Members) : Option JobFile := do
  guard (othersHoldable ["base_dir", "workflow", "build_fix", "logging"] members)
  return { baseDirectory := ← setting? text? members "base_dir"
           workflow := ← setting? workflow? members "workflow"
           buildFix := ← setting? buildFix? members "build_fix"
           logging := ← setting? logging? members "logging" }

/-- A job file cannot be read. The fault does not tell where. -/
def unreadable : Fault := .configuration "toml_parsing" "TOML parsing error: "

/-- The job file that a text describes in an environment. -/
def ofText (environment : Environment) (text : String) : Except Fault JobFile :=
  match (Toml.read? (Placeholder.expand environment text)).bind ofMembers? with
  | some jobs => .ok jobs
  | none => .error unreadable

end JobFile

end Patchwork
