import Patchwork.Fault
import Patchwork.Log

/-!
# Patches

A patch has a target path and turns the whole text of the target into a new one. It counts its matches:
the places where it inserted something, or the lines that it dropped. It may leave notes for the log.
-/

set_option autoImplicit false

namespace Patchwork

/-- The kinds of patches that a report can name. -/
inductive PatchKind where
  /-- A step that fixes file permissions is put into a workflow. -/
  | workflowPermissions
  /-- Duplicated lines are taken out of a build script. -/
  | buildFix
  deriving DecidableEq, Repr, Inhabited

/-- The kind in words. -/
def PatchKind.label : PatchKind → String
  | .workflowPermissions => "workflow permissions"
  | .buildFix => "build fix"

def PatchKind.identifier : PatchKind → String
  | .workflowPermissions => "workflow_permissions"
  | .buildFix => "build_fix"

/-- What a patch makes of a text. -/
structure Patched where
  content : String
  matchCount : Nat
  notes : List Log.Entry
  deriving DecidableEq, Repr

/-- The text that is left when something is applied to a text, then to its own output, and so on. -/
def afterRuns (apply : String → Patched) (content : String) : Nat → String
  | 0 => content
  | runs + 1 => (apply (afterRuns apply content runs)).content

/-- A patch for one file. -/
structure Patch where
  kind : PatchKind
  target : String
  apply : String → Except Fault Patched

end Patchwork
