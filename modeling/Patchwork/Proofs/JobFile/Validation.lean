import Patchwork.JobFile

/-!
# Checks of job files

A job file with one section and nothing about the log is checked as its base directory and that section are. The
settings of the step insertion are checked in turn, and its own step passes.
-/

set_option autoImplicit false

namespace Patchwork

namespace WorkflowSection

/-- The checks of the target and the marker, which come before the one of the step. -/
def validatePlace (job : WorkflowSection) : Except Fault Unit := do
  Validation.path "workflow.path" job.target
  Validation.singleLine "workflow.marker" job.markerText

theorem validate_eq (job : WorkflowSection) :
    job.validate = job.validatePlace >>= fun _ => Validation.nonEmpty "workflow.step" job.stepText := by
  rw [validate, validatePlace]
  cases Validation.path "workflow.path" job.target <;> rfl

theorem validate_of_no_step (path marker : Option String) :
    (WorkflowSection.mk path marker none).validate = (WorkflowSection.mk path marker none).validatePlace := by
  have accepted : Validation.nonEmpty "workflow.step" StepInsertion.defaultStep = .ok () :=
    Validation.nonEmpty_eq_ok_iff.2 ⟨'-', by decide +kernel, by decide⟩
  rw [validate_eq, stepText, Option.getD_none, accepted]
  cases (WorkflowSection.mk path marker none).validatePlace <;> rfl

/-- Checks that were passed without a step need not be made again with one. -/
theorem validate_again (path marker : Option String) (step : String) :
    ((WorkflowSection.mk path marker none).validate >>= fun _ =>
      (WorkflowSection.mk path marker (some step)).validate) =
        (WorkflowSection.mk path marker (some step)).validate := by
  have samePlace : (WorkflowSection.mk path marker (some step)).validatePlace =
      (WorkflowSection.mk path marker none).validatePlace := rfl
  rw [validate_of_no_step, validate_eq, samePlace]
  cases (WorkflowSection.mk path marker none).validatePlace <;> rfl

end WorkflowSection

namespace JobFile

variable (base : Option String)

theorem validate_of_workflow (job : WorkflowSection) :
    (JobFile.mk base (some job) none none).validate =
      Validation.path "base_dir" (base.getD ".") >>= fun _ => job.validate := by
  rw [validate]
  change (Validation.path "base_dir" (base.getD ".") >>= _) = _
  refine bind_congr fun _ => ?_
  cases checked : job.validate <;> simp [checked] <;> rfl

theorem validate_of_buildFix (job : BuildFixSection) :
    (JobFile.mk base none (some job) none).validate =
      Validation.path "base_dir" (base.getD ".") >>= fun _ => job.validate := by
  rw [validate]
  change (Validation.path "base_dir" (base.getD ".") >>= _) = _
  refine bind_congr fun _ => ?_
  cases checked : job.validate <;> simp [checked] <;> rfl

end JobFile

end Patchwork
