import Patchwork.Outcome
import Patchwork.Storage
import Patchwork.Text.Line

/-!
# Running a patch on a storage

A run reads the target once, applies the patch to the text, and writes the result back under the same
path, also when nothing changed. A dry run does the same without the write. The first fault ends the run.
-/

set_option autoImplicit false

namespace Patchwork

def lineCount (content : String) : Nat :=
  Text.lineCount content.toList

namespace Engine

variable {m : Type → Type} [Monad m]

def outcomeOf (patch : Patch) (before : String) (patched : Patched) (written : Bool) : Outcome where
  kind := patch.kind
  path := patch.target
  matchCount := patched.matchCount
  linesBefore := lineCount before
  linesAfter := lineCount patched.content
  changed := patched.content ≠ before
  written := written

/-- What the log says about a finished run. -/
def closingNote (outcome : Outcome) : Log.Entry :=
  Log.info
    s!"{outcome.path}: {outcome.matchCount} match(es), {outcome.linesBefore} -> {outcome.linesAfter} lines"

/-- Runs a patch. With `dryRun` nothing is written. -/
def run (storage : Storage m) (dryRun : Bool) (patch : Patch) : ExceptT Fault m Outcome := do
  storage.note (Log.info s!"Applying {patch.kind.label} patch to {patch.target}")
  let before ← storage.read patch.target
  let linesBefore := lineCount before
  storage.note (Log.debug s!"Read {linesBefore} lines from {patch.target}")
  let patched ← ExceptT.mk (pure (patch.apply before))
  patched.notes.forM fun entry => storage.note entry
  if patched.matchCount = 0 then
    storage.note (Log.warn s!"No matching lines in {patch.target}; content left as is")
  if dryRun then
    storage.note (Log.info s!"Dry run: not writing {patch.target}")
  else
    storage.write patch.target patched.content
  let outcome := outcomeOf patch before patched (!dryRun)
  storage.note (closingNote outcome)
  return outcome

end Engine

end Patchwork
