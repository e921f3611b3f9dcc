import Patchwork.Proofs.Fault
import Patchwork.Proofs.JobFile.Validation
import Patchwork.Proofs.PatchCommand.Run

/-!
# The same settings in both places

The settings of one patch can stand on a command line or in a job file with one section. The command line checks
them before it reads a step file and once more after that, the job file checks them once. Both refuse them for the
same fault or build the same patch.
-/

set_option autoImplicit false

namespace Patchwork

/-- A command line and a job file say the same about one patch. A step that the job file holds is the text of the
step file on the tree. -/
inductive SameSettings (tree : FileTree) : PatchCommand → JobFile → Prop where
  | workflow {base path marker dryRun json verbose} :
      SameSettings tree ⟨base.getD ".", dryRun, json, verbose, .workflow path marker none⟩
        ⟨base, some ⟨path, marker, none⟩, none, none⟩
  | workflowWithStep {base path marker file step dryRun json verbose}
      (usable : Validation.path "step_file" file = .ok ())
      (held : tree.read (Path.join (base.getD ".") file) = .ok step) :
      SameSettings tree ⟨base.getD ".", dryRun, json, verbose, .workflow path marker (some file)⟩
        ⟨base, some ⟨path, marker, some step⟩, none, none⟩
  | buildFix {base path threshold permissionMarker duplicateMarker dryRun json verbose} :
      SameSettings tree
        ⟨base.getD ".", dryRun, json, verbose, .buildFix path threshold permissionMarker duplicateMarker⟩
        ⟨base, none, some ⟨path, threshold, permissionMarker, duplicateMarker⟩, none⟩

namespace JobFile

variable (base : Option String)

private theorem patches_of_workflow [MarkerSearch] (job : WorkflowSection) :
    (JobFile.mk base (some job) none none).patches = (fun insertion => [insertion.toPatch]) <$> job.insertion := by
  cases made : job.insertion <;> simp only [patches, Option.mapM_some, made] <;> rfl

private theorem patches_of_buildFix [MarkerSearch] (job : BuildFixSection) :
    (JobFile.mk base none (some job) none).patches = .ok [job.removal.toPatch] := rfl

end JobFile

namespace PatchCommand

variable {base : String} {dryRun json verbose : Bool} {path marker : Option String} {tree : FileTree}

private theorem validate_of_no_step :
    (PatchCommand.mk base dryRun json verbose (.workflow path marker none)).validate =
      Validation.path "base_dir" base >>= fun _ => (WorkflowSection.mk path marker none).validate := rfl

private theorem patchOn_of_no_step [MarkerSearch] :
    (PatchCommand.mk base dryRun json verbose (.workflow path marker none)).patchOn tree =
      StepInsertion.toPatch <$> (WorkflowSection.mk path marker none).insertion := rfl

private theorem validate_of_step {file : String} (usable : Validation.path "step_file" file = .ok ()) :
    (PatchCommand.mk base dryRun json verbose (.workflow path marker (some file))).validate =
      Validation.path "base_dir" base >>= fun _ => (WorkflowSection.mk path marker none).validate := by
  have checked : (some file).forM (Validation.path "step_file") = .ok () := usable
  rw [validate]
  simp only [checked]
  rfl

private theorem patchOn_of_step [MarkerSearch] {file step : String}
    (held : tree.read (Path.join base file) = .ok step) :
    (PatchCommand.mk base dryRun json verbose (.workflow path marker (some file))).patchOn tree =
      (WorkflowSection.mk path marker (some step)).validate >>= fun _ =>
        StepInsertion.toPatch <$> (WorkflowSection.mk path marker (some step)).insertion := by
  simp only [patchOn, held]
  rfl

private theorem validate_of_buildFix {threshold : Option Nat} {permissionMarker duplicateMarker : Option String} :
    (PatchCommand.mk base dryRun json verbose
      (.buildFix path threshold permissionMarker duplicateMarker)).validate =
        Validation.path "base_dir" base >>= fun _ =>
          (BuildFixSection.mk path threshold permissionMarker duplicateMarker).validate := rfl

private theorem patchOn_of_buildFix [MarkerSearch] {threshold : Option Nat}
    {permissionMarker duplicateMarker : Option String} :
    (PatchCommand.mk base dryRun json verbose
      (.buildFix path threshold permissionMarker duplicateMarker)).patchOn tree =
        pure (BuildFixSection.mk path threshold permissionMarker duplicateMarker).removal.toPatch := rfl

end PatchCommand

theorem SameSettings.built_eq [MarkerSearch] {tree : FileTree} {command : PatchCommand} {jobs : JobFile}
    (same : SameSettings tree command jobs) :
    (fun patch => [patch]) <$> (command.validate >>= fun _ => command.patchOn tree) =
      jobs.validate >>= fun _ => jobs.patches := by
  cases same with
  | workflow =>
    rw [JobFile.validate_of_workflow, JobFile.patches_of_workflow, PatchCommand.validate_of_no_step,
      PatchCommand.patchOn_of_no_step]
    simp only [map_bind, bind_assoc, Functor.map_map]
  | workflowWithStep usable held =>
    rw [JobFile.validate_of_workflow, JobFile.patches_of_workflow, PatchCommand.validate_of_step usable,
      PatchCommand.patchOn_of_step held]
    simp only [map_bind, bind_assoc, Functor.map_map]
    -- The checks before the step file is read are among those after it.
    refine bind_congr fun _ => ?_
    rw [← bind_assoc, WorkflowSection.validate_again]
  | buildFix =>
    rw [JobFile.validate_of_buildFix, JobFile.patches_of_buildFix, PatchCommand.validate_of_buildFix,
      PatchCommand.patchOn_of_buildFix]
    simp only [map_bind, bind_assoc, map_pure]
    rfl

theorem SameSettings.base_eq {tree : FileTree} {command : PatchCommand} {jobs : JobFile}
    (same : SameSettings tree command jobs) : jobs.base = command.baseDirectory := by
  cases same <;> rfl

open Machine (Logged)

/-- A command line and a job file that say the same about one patch are refused for the same fault before any file
is written, or build the same patch. The engine then does with it what it does for the command line: it gives the
same result, and leaves the same tree. -/
theorem same_settings_same_work [MarkerSearch] {command : PatchCommand} {jobs : JobFile} {machine : Machine}
    (same : SameSettings machine.tree command jobs) (setup jobSetup : Log.Setup) :
    let storage := Machine.host.storage setup command.baseDirectory
    let made := (command.patch storage).run machine
    let asked := command.validate >>= fun _ => made.1
    let listed := jobs.validate >>= fun _ => jobs.patches
    Logged machine made.2 ∧
      ((∃ fault, asked = .error fault ∧ listed = .error fault) ∨
        ∃ patch, asked = .ok patch ∧ listed = .ok [patch] ∧
          let worked := (command.work storage).run machine
          let ran := (Engine.run (Machine.host.storage jobSetup jobs.base) command.dryRun patch).run machine
          ran.1 = worked.1 ∧ ran.2.tree = worked.2.tree) := by
  intro storage made asked listed
  obtain ⟨after, logged, madeEq⟩ := PatchCommand.run_patch command setup machine
  have askedEq : asked = command.validate >>= fun _ => command.patchOn machine.tree :=
    congrArg (fun made => command.validate >>= fun _ => made.1) madeEq
  have listedEq : (fun patch => [patch]) <$> asked = listed := askedEq ▸ same.built_eq
  constructor
  · change Logged machine ((command.patch storage).run machine).2
    rw [madeEq]
    exact logged
  · cases settled : asked with
    | error fault =>
      rw [settled] at listedEq
      exact .inl ⟨fault, rfl, listedEq.symm⟩
    | ok patch =>
      rw [settled] at listedEq
      refine .inr ⟨patch, rfl, listedEq.symm, ?_⟩
      obtain ⟨-, -, built⟩ := Fault.exists_of_bind_eq_ok (askedEq.symm.trans settled)
      intro worked ran
      obtain ⟨tree, works, loggedWork⟩ : ∃ tree, PatchCommand.Works command machine.tree worked.1 tree ∧
          Logged { machine with tree := tree } worked.2 := PatchCommand.works_work command setup machine
      obtain ⟨otherTree, runs, loggedRun⟩ : ∃ tree,
          Machine.Runs jobs.base patch machine.tree command.dryRun ran.1 tree ∧
          Logged { machine with tree := tree } ran.2 :=
        Machine.runs_run jobSetup jobs.base command.dryRun patch machine
      rw [same.base_eq] at runs
      obtain ⟨sameResult, sameTree⟩ := works.unique (.built built runs)
      exact ⟨sameResult, loggedRun.tree_eq.trans (sameTree.trans loggedWork.tree_eq.symm)⟩

/-! ### A step file -/

def machineOfStepFile (step : String) : Machine where
  tree :=
    { entries := [(["f"], .file "a\n m\n".toUTF8), (["s"], .file step.toUTF8)]
      workingDirectory := [] }
  environment := fun _ => none
  transcript := []

def stepFileCommand : PatchCommand := ⟨".", false, false, false, .workflow (some "f") (some "m") (some "s")⟩

def jobsOfStep (step : String) : JobFile := ⟨none, some ⟨some "f", some "m", some step⟩, none, none⟩

/-- A step is worked with, and a step file that holds only a blank is refused. -/
theorem same_settings_same_work_step_and_blank :
    SameSettings (machineOfStepFile "d").tree stepFileCommand (jobsOfStep "d") ∧
      SameSettings (machineOfStepFile " ").tree stepFileCommand (jobsOfStep " ") ∧
      (∃ patch, (jobsOfStep "d").patches = .ok [patch] ∧
        let worked := (stepFileCommand.work (Machine.host.storage .off ".")).run (machineOfStepFile "d")
        let ran := (Engine.run (Machine.host.storage .off ".") false patch).run (machineOfStepFile "d")
        ran.1 = worked.1 ∧ ran.2.tree = worked.2.tree ∧ ran.2.tree.read "f" = .ok "a\nd\n m\n") ∧
      ∃ fault, (jobsOfStep " ").validate = .error fault ∧
        (stepFileCommand.validate >>= fun _ =>
          ((stepFileCommand.patch (Machine.host.storage .off ".")).run (machineOfStepFile " ")).1) =
            .error fault := by
  have sameStep : SameSettings (machineOfStepFile "d").tree stepFileCommand (jobsOfStep "d") :=
    @SameSettings.workflowWithStep _ none _ _ _ _ _ _ _ rfl (by decide +kernel)
  have sameBlank : SameSettings (machineOfStepFile " ").tree stepFileCommand (jobsOfStep " ") :=
    @SameSettings.workflowWithStep _ none _ _ _ _ _ _ _ rfl (by decide +kernel)
  have valid : (jobsOfStep "d").validate = .ok () := by decide +kernel
  have invalid : (jobsOfStep " ").validate =
      .error (.badValue "workflow.step" " " "Value cannot be empty or whitespace-only") := by decide +kernel
  have rewritten : ((stepFileCommand.work (Machine.host.storage .off ".")).run
      (machineOfStepFile "d")).2.tree.read "f" = .ok "a\nd\n m\n" := by decide +kernel
  refine ⟨sameStep, sameBlank, ?_, ?_⟩
  · obtain ⟨-, ⟨fault, -, refused⟩ | ⟨patch, -, listed, sameResult, sameTree⟩⟩ :=
      same_settings_same_work sameStep .off .off
    · rw [valid] at refused
      cases refused
    · rw [valid] at listed
      exact ⟨patch, listed, sameResult, sameTree,
        (congrArg (FileTree.read · "f") sameTree).trans rewritten⟩
  · obtain ⟨-, ⟨fault, asked, refused⟩ | ⟨patch, -, listed, -⟩⟩ :=
      same_settings_same_work sameBlank .off .off
    · rw [invalid] at refused
      obtain rfl := Except.error.inj refused
      exact ⟨_, invalid, asked⟩
    · rw [invalid] at listed
      cases listed

end Patchwork
