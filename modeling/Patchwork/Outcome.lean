import Patchwork.Patch

/-!
# Outcomes

An outcome records one patch that went through: what it matched, how the number of lines changed, and
whether the file was written.
-/

set_option autoImplicit false

namespace Patchwork

structure Outcome where
  kind : PatchKind
  path : String
  matchCount : Nat
  linesBefore : Nat
  linesAfter : Nat
  changed : Bool
  written : Bool
  deriving DecidableEq, Repr, Inhabited

namespace Outcome

/-- The number of values that a count can take. -/
def countBound : Nat := UInt64.size

/-- A count read as a signed number of the same width: the upper half of the counts is negative. -/
def signed (count : Nat) : Int :=
  Int.bmod count countBound

/-- How many lines the patch added, or took away when negative. -/
def lineDelta (outcome : Outcome) : Int :=
  signed outcome.linesAfter - signed outcome.linesBefore

def action (outcome : Outcome) : String :=
  match outcome.kind with
  | .workflowPermissions =>
    s!"inserted the permission-fix step before {outcome.matchCount} run-on-arch action(s)"
  | .buildFix => s!"removed {outcome.matchCount} duplicated line(s)"

def summary (outcome : Outcome) : String :=
  let verb := if outcome.written then "Patched" else "Would patch"
  let action := outcome.action
  s!"{verb} {outcome.path}: {action} ({outcome.linesBefore} -> {outcome.linesAfter} lines)"

end Outcome

end Patchwork
