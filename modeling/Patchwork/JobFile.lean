import Patchwork.Log
import Patchwork.Patch.DuplicateRemoval
import Patchwork.Patch.StepInsertion
import Patchwork.Validation

/-!
# Job files

A job file says which patches to run. Each of its settings may be missing, and then a default holds; a
patch whose section is missing is not run, while an empty section runs it with defaults. The step
insertion always comes before the duplicate removal.

Validation looks at the settings that hold, in a fixed order, and the first fault wins.
-/

set_option autoImplicit false

namespace Patchwork

/-- What a job file says about the step insertion. -/
structure WorkflowSection where
  path : Option String
  marker : Option String
  step : Option String
  deriving DecidableEq, Repr, Inhabited

/-- What a job file says about the duplicate removal. -/
structure BuildFixSection where
  path : Option String
  threshold : Option Nat
  permissionMarker : Option String
  duplicateMarker : Option String
  deriving DecidableEq, Repr, Inhabited

/-- What a job file says about the log. -/
structure LoggingSection where
  verbose : Option Bool
  format : Option String
  deriving DecidableEq, Repr, Inhabited

structure JobFile where
  baseDirectory : Option String
  workflow : Option WorkflowSection
  buildFix : Option BuildFixSection
  logging : Option LoggingSection
  deriving DecidableEq, Repr, Inhabited

namespace WorkflowSection

def target (job : WorkflowSection) : String := job.path.getD StepInsertion.defaultTarget

def markerText (job : WorkflowSection) : String := job.marker.getD StepInsertion.defaultMarker

def stepText (job : WorkflowSection) : String := job.step.getD StepInsertion.defaultStep

def validate (job : WorkflowSection) : Except Fault Unit := do
  Validation.path "workflow.path" job.target
  Validation.singleLine "workflow.marker" job.markerText
  Validation.nonEmpty "workflow.step" job.stepText

def insertion [MarkerSearch] (job : WorkflowSection) : Except Fault StepInsertion :=
  StepInsertion.make job.target job.markerText job.stepText

end WorkflowSection

namespace BuildFixSection

def target (job : BuildFixSection) : String := job.path.getD DuplicateRemoval.defaultTarget

def lineThreshold (job : BuildFixSection) : Nat :=
  job.threshold.getD DuplicateRemoval.defaultThreshold

def permissionText (job : BuildFixSection) : String :=
  job.permissionMarker.getD DuplicateRemoval.defaultPermissionMarker

def duplicateText (job : BuildFixSection) : String :=
  job.duplicateMarker.getD DuplicateRemoval.defaultDuplicateMarker

def validate (job : BuildFixSection) : Except Fault Unit := do
  Validation.path "build_fix.path" job.target
  Validation.singleLine "build_fix.permission_marker" job.permissionText
  Validation.singleLine "build_fix.duplicate_marker" job.duplicateText

def removal (job : BuildFixSection) : DuplicateRemoval :=
  ⟨job.target, job.lineThreshold, job.permissionText, job.duplicateText⟩

end BuildFixSection

namespace JobFile

/-- The directory that the targets are looked up from. -/
def base (jobs : JobFile) : String := jobs.baseDirectory.getD "."

def verbose (jobs : JobFile) : Bool := (jobs.logging.bind LoggingSection.verbose).getD false

def logFormat? (jobs : JobFile) : Option String := jobs.logging.bind LoggingSection.format

def jsonLogs (jobs : JobFile) : Bool := jobs.logFormat? = some "json"

/-- The format that the log is written in, which is the compact one unless JSON is asked for. -/
def logFormat (jobs : JobFile) : Log.Format := if jobs.jsonLogs then .json else .compact

def logFormats : List String := ["compact", "json"]

def validateFormat (format : String) : Except Fault Unit :=
  if format ∈ logFormats then .ok ()
  else
    let listed := ", ".intercalate logFormats
    .error (.badValue "logging.format" format s!"Unsupported format. Valid formats: {listed}")

def validate (jobs : JobFile) : Except Fault Unit := do
  Validation.path "base_dir" jobs.base
  if jobs.workflow.isNone && jobs.buildFix.isNone then
    throw (.missing "[workflow] or [build_fix]")
  jobs.workflow.forM WorkflowSection.validate
  jobs.buildFix.forM BuildFixSection.validate
  jobs.logFormat?.forM validateFormat

def patches [MarkerSearch] (jobs : JobFile) : Except Fault (List Patch) := do
  let insertion ← jobs.workflow.mapM WorkflowSection.insertion
  let removal := jobs.buildFix.map BuildFixSection.removal
  return (insertion.map StepInsertion.toPatch).toList ++
    (removal.map DuplicateRemoval.toPatch).toList

end JobFile

end Patchwork
