import Patchwork.Proofs.JobCommand.Run

/-!
# A job file with two jobs

A machine with two files and a job file that has both sections. The step insertion goes to the first file. Where the
duplicate removal goes is a parameter: to the other file, to the first one once more, or to a file that is missing.
-/

set_option autoImplicit false

namespace Patchwork.JobCommand

/-- A job file that inserts a step into the file `f` and then removes duplicates from another path. -/
def twoJobs (buildTarget : String) : JobFile where
  baseDirectory := none
  workflow := some ⟨some "f", some "m", some "d"⟩
  buildFix := some ⟨some buildTarget, none, none, none⟩
  logging := none

def twoPatches (buildTarget : String) : List Patch :=
  [StepInsertion.toPatch ⟨"f", "m", "d"⟩,
   DuplicateRemoval.toPatch ⟨buildTarget, DuplicateRemoval.defaultThreshold,
    DuplicateRemoval.defaultPermissionMarker, DuplicateRemoval.defaultDuplicateMarker⟩]

/-- A machine with the files `f` and `g` and such a job file. -/
def machineOfTwoJobs (buildTarget : String) : Machine where
  tree :=
    { entries :=
        [([defaultConfig], .file
          ("[workflow]\npath=\"f\"\nmarker=\"m\"\nstep=\"d\"\n[build_fix]\npath=\"" ++ buildTarget ++
            "\"").toUTF8),
         (["f"], .file "a\n m\n".toUTF8), (["g"], .file "b\n".toUTF8)]
      workingDirectory := [] }
  environment := fun _ => none
  transcript := []

def reportCommand (dryRun : Bool) : JobCommand := ⟨defaultConfig, false, dryRun, true⟩

/-- What the patches of the machine's job file do when they are run at once, without a log. -/
def outcomesOfTwoJobs (dryRun : Bool) (buildTarget : String) : List Outcome × Option (Patch × Fault) :=
  ((reportCommand dryRun).runAll Machine.host
    (Machine.host.storage ⟨[], .compact⟩ (twoJobs buildTarget).base) (twoPatches buildTarget)
    (machineOfTwoJobs buildTarget)).1

theorem patches_twoJobs [MarkerSearch] (buildTarget : String) :
    (twoJobs buildTarget).patches = .ok (twoPatches buildTarget) := by
  have made : (WorkflowSection.mk (some "f") (some "m") (some "d")).insertion = .ok ⟨"f", "m", "d"⟩ :=
    if_pos (MarkerSearch.accepts_of_short (by decide))
  simp only [twoJobs, JobFile.patches, Option.mapM_some, made]
  rfl

theorem reported_of_twoJobs [MarkerSearch] {arguments : List String} {dryRun : Bool} {buildTarget : String}
    (parsed : parse arguments = .ok (reportCommand dryRun))
    (loaded : jobFileOn (machineOfTwoJobs buildTarget) defaultConfig = .ok (twoJobs buildTarget))
    (valid : (twoJobs buildTarget).validate = .ok ())
    (finished : (outcomesOfTwoJobs dryRun buildTarget).2 = none) :
    (run Machine.host none arguments (machineOfTwoJobs buildTarget)).1 = .exit 0 ∧
      Reported (reportCommand dryRun) (machineOfTwoJobs buildTarget) (twoJobs buildTarget)
        (outcomesOfTwoJobs dryRun buildTarget).1
        (run Machine.host none arguments (machineOfTwoJobs buildTarget)).2 := by
  have ran := ran_run parsed none (machineOfTwoJobs buildTarget)
  unfold outcomesOfTwoJobs at finished ⊢
  exact ran.through ⟨[], .compact⟩ loaded valid (patches_twoJobs buildTarget) finished

theorem jobFileOn_two_files : jobFileOn (machineOfTwoJobs "g") defaultConfig = .ok (twoJobs "g") := by
  decide +kernel

theorem jobFileOn_one_file : jobFileOn (machineOfTwoJobs "./f") defaultConfig = .ok (twoJobs "./f") := by
  decide +kernel

theorem jobFileOn_missing_file : jobFileOn (machineOfTwoJobs "h") defaultConfig = .ok (twoJobs "h") := by
  decide +kernel

theorem parse_json : parse ["--json"] = .ok (reportCommand false) := rfl

theorem parse_json_dry_run : parse ["--json", "--dry-run"] = .ok (reportCommand true) := rfl

end Patchwork.JobCommand
