import Patchwork.Proofs.JobCommand.TwoJobs

/-!
# Jobs in order

The command runs the patches of its job file one after the other, the step insertion before the duplicate
removal. It stops at the first one that fails, which leaves the tree as the ones before it left it, and its fault
decides the exit code. A command that gets no patches to run changes nothing, and neither does a dry run.
-/

set_option autoImplicit false

namespace Patchwork.JobCommand

open Machine (Logged engineOn)

/-! ## Series of runs -/

/-- The patches all go through on a tree, one after the other. -/
inductive Completes (base : String) (dryRun : Bool) :
    FileTree → List Patch → List Outcome → FileTree → Prop where
  | none {tree} : Completes base dryRun tree [] [] tree
  | next {tree patch rest outcome between outcomes after}
      (ran : engineOn base dryRun patch tree = (.ok outcome, between))
      (later : Completes base dryRun between rest outcomes after) :
      Completes base dryRun tree (patch :: rest) (outcome :: outcomes) after

/-- How a series ends with a tree and with the patches that did not go through: there are none, or the first of
them fails on that tree and leaves it as it is. -/
inductive EndsWith (base : String) (dryRun : Bool) (tree : FileTree) : List Patch → Ending → Prop where
  | finished : EndsWith base dryRun tree [] (.exit 0)
  | stopped {patch rest fault} (fails : engineOn base dryRun patch tree = (.error fault, tree)) :
      EndsWith base dryRun tree (patch :: rest) (.exit fault.exitCode)

variable {command : JobCommand} {base : String} {machine after : Machine} {patches : List Patch}
  {outcomes : List Outcome} {failure : Option (Patch × Fault)} {jobs : JobFile} {ending : Ending}

theorem RunsAll.completes (runs : RunsAll command base machine patches outcomes failure after) :
    ∃ done left, patches = done ++ left ∧
      Completes base command.dryRun machine.tree done outcomes after.tree ∧
      EndsWith base command.dryRun after.tree left (endingOf failure) := by
  induction runs with
  | done => exact ⟨[], [], rfl, .none, .finished⟩
  | @failed machine patch rest fault tree after runs logged =>
    obtain rfl := runs.tree_of_error
    have unchanged : after.tree = machine.tree := logged.tree_eq
    refine ⟨[], patch :: rest, rfl, ?_, ?_⟩
    · rw [unchanged]
      exact .none
    · rw [unchanged]
      exact .stopped runs.engineOn_eq
  | @next machine patch rest outcome tree between outcomes failure after runs logged _ inductionHypothesis =>
    obtain ⟨done, left, rfl, completes, ends⟩ := inductionHypothesis
    rw [Machine.tree_outAll, logged.tree_eq] at completes
    exact ⟨patch :: done, left, rfl, .next runs.engineOn_eq completes, ends⟩

theorem Completes.tree_of_dry {tree between : FileTree}
    (completes : Completes base true tree patches outcomes between) : between = tree := by
  induction completes with
  | none => rfl
  | next ran _ inductionHypothesis => exact inductionHypothesis.trans (Machine.runs_of_engineOn ran).tree_of_dry

theorem RunsAll.tree_of_dry (runs : RunsAll command base machine patches outcomes failure after)
    (dry : command.dryRun = true) : after.tree = machine.tree := by
  obtain ⟨done, left, -, completes, -⟩ := runs.completes
  rw [dry] at completes
  exact completes.tree_of_dry

/-- A list of patches splits in one way into those that go through on a tree and those that do not. -/
theorem Completes.unique {dryRun : Bool} {tree between otherBetween : FileTree}
    {done left otherDone otherLeft : List Patch} {otherOutcomes : List Outcome} {otherEnding : Ending}
    (completes : Completes base dryRun tree done outcomes between)
    (ends : EndsWith base dryRun between left ending)
    (otherCompletes : Completes base dryRun tree otherDone otherOutcomes otherBetween)
    (otherEnds : EndsWith base dryRun otherBetween otherLeft otherEnding)
    (same : done ++ left = otherDone ++ otherLeft) :
    otherOutcomes = outcomes ∧ otherBetween = between ∧ otherLeft = left := by
  induction completes generalizing otherDone otherOutcomes with
  | none =>
    cases otherCompletes with
    | none => exact ⟨rfl, rfl, same.symm⟩
    | next ran _ =>
      obtain rfl := same
      cases ends with
      | stopped fails => cases fails.symm.trans ran
  | next ran _ inductionHypothesis =>
    cases otherCompletes with
    | none =>
      obtain rfl := same.symm
      cases otherEnds with
      | stopped fails => cases fails.symm.trans ran
    | next otherRan otherLater =>
      obtain ⟨rfl, sameLater⟩ := List.cons.inj same
      cases ran.symm.trans otherRan
      obtain ⟨rfl, sameTree, sameLeft⟩ := inductionHypothesis ends otherLater sameLater
      exact ⟨rfl, sameTree, sameLeft⟩

theorem EndsWith.unique {dryRun : Bool} {tree : FileTree} {left : List Patch} {otherEnding : Ending}
    (ends : EndsWith base dryRun tree left ending) (otherEnds : EndsWith base dryRun tree left otherEnding) :
    otherEnding = ending := by
  cases ends with
  | finished =>
    cases otherEnds
    rfl
  | stopped fails =>
    cases otherEnds with
    | stopped otherFails =>
      cases fails.symm.trans otherFails
      rfl

/-! ## The patches of a job file -/

/-- The patches of the sections that are there. -/
def sectionPatches (jobs : JobFile) : List Patch :=
  (jobs.workflow.toList.map fun job =>
    StepInsertion.toPatch ⟨job.target, job.markerText, job.stepText⟩) ++
  jobs.buildFix.toList.map fun job =>
    DuplicateRemoval.toPatch ⟨job.target, job.lineThreshold, job.permissionText, job.duplicateText⟩

section

variable [MarkerSearch]

/-- The search takes the marker of the step insertion, if there is one. -/
def Searchable (jobs : JobFile) : Prop :=
  ∀ job, jobs.workflow = some job → MarkerSearch.accepts job.markerText = true

theorem patches_of_searchable (searchable : Searchable jobs) : jobs.patches = .ok (sectionPatches jobs) := by
  have removals : ((jobs.buildFix.map BuildFixSection.removal).map DuplicateRemoval.toPatch).toList =
      jobs.buildFix.toList.map fun job => DuplicateRemoval.toPatch
        ⟨job.target, job.lineThreshold, job.permissionText, job.duplicateText⟩ := by
    cases jobs.buildFix <;> rfl
  rw [JobFile.patches, sectionPatches, ← removals]
  cases workflow : jobs.workflow with
  | none => rfl
  | some job =>
    have made : job.insertion = .ok ⟨job.target, job.markerText, job.stepText⟩ :=
      if_pos (searchable job workflow)
    simp only [Option.mapM_some, made]
    rfl

theorem patches_of_not_searchable (unsearchable : ¬ Searchable jobs) :
    jobs.patches = .error (.patternTooBig MarkerSearch.patternLimit) := by
  unfold Searchable at unsearchable
  push Not at unsearchable
  obtain ⟨job, workflow, notTaken⟩ := unsearchable
  have refused : job.insertion = .error (.patternTooBig MarkerSearch.patternLimit) := if_neg notTaken
  simp only [JobFile.patches, workflow, Option.mapM_some, refused]
  rfl

private theorem eq_sectionPatches_of_built (built : jobs.patches = .ok patches) :
    patches = sectionPatches jobs := by
  by_cases searchable : Searchable jobs
  · exact Except.ok.inj (built.symm.trans (patches_of_searchable searchable))
  · cases built.symm.trans (patches_of_not_searchable searchable)

/-! ## The whole command -/

/-- A command that has patches to run makes of the tree what the engine makes of it when it runs them in order up to
the first one that fails, puts out the overview and then one line for each that went through, and ends with the exit
code of the fault, if there is one. When there is nothing to run, and in a dry run, the tree stays as it is. -/
theorem run_in_order_up_to_first_failure {arguments : List String} {command : JobCommand}
    (parsed : parse arguments = .ok command) (chosen : Option Log.Filter) (machine : Machine) :
    let ran := run Machine.host chosen arguments machine
    (∀ jobs patches, Ready command machine jobs patches →
      patches = sectionPatches jobs ∧
      ∃ done left outcomes, patches = done ++ left ∧
        Completes jobs.base command.dryRun machine.tree done outcomes ran.2.tree ∧
        EndsWith jobs.base command.dryRun ran.2.tree left ran.1 ∧
        (command.json = false → ran.2.stdout = machine.stdout ++ String.join
          ((command.overview jobs ++ outcomes.map fun outcome => s!"✅ {outcome.summary}").map (· ++ "\n")))) ∧
    ((∀ jobs patches, ¬ Ready command machine jobs patches) → ran.2.tree = machine.tree) ∧
    (command.dryRun = true → ran.2.tree = machine.tree) := by
  intro ran
  have ends : Ran command machine ran.1 ran.2 := ran_run parsed chosen machine
  refine ⟨?_, ends.tree_of_not_ready, ?_⟩
  · intro jobs patches ready
    obtain ⟨logged, outcomes, failure, stopped, logs, runs, endingEq, treeEq, stdoutEq⟩ := ends.of_ready ready
    obtain ⟨done, left, whole, completes, endsWith⟩ := runs.completes
    rw [Machine.tree_outAll, logs.tree_eq, ← treeEq] at completes
    rw [← treeEq, ← endingEq] at endsWith
    refine ⟨eq_sectionPatches_of_built ready.built, done, left, outcomes, whole, completes, endsWith, ?_⟩
    intro plain
    have noReport : (if failure.isNone then command.closing outcomes else []) = [] := by
      simp [closing, plain]
    have oneLine : command.progress = fun outcome => [s!"✅ {outcome.summary}"] := by
      funext outcome
      rw [progress, plain, if_neg Bool.false_ne_true]
    rw [stdoutEq, noReport, runs.stdout_eq, Machine.stdout_outAll, logs.stdout_eq, oneLine,
      ← List.map_eq_flatMap]
    simp [opening, plain, String.append_assoc]
  · intro dry
    by_cases ready : ∃ jobs patches, Ready command machine jobs patches
    · obtain ⟨jobs, patches, ready⟩ := ready
      obtain ⟨logged, outcomes, failure, stopped, logs, runs, -, treeEq, -⟩ := ends.of_ready ready
      rw [treeEq, runs.tree_of_dry dry, Machine.tree_outAll, logs.tree_eq]
    · exact ends.tree_of_not_ready fun jobs patches here => ready ⟨jobs, patches, here⟩

end

/-- The second target does not exist. What the first patch wrote stays written. -/
theorem run_in_order_up_to_first_failure_second_fails :
    let command : JobCommand := ⟨defaultConfig, false, false, false⟩
    let machine := machineOfTwoJobs "h"
    let ran := run Machine.host none [] machine
    parse [] = .ok command ∧ Ready command machine (twoJobs "h") (twoPatches "h") ∧
      ran.1 = .exit 3 ∧ ran.2.tree.read "f" = .ok "a\nd\n m\n" ∧
      ∃ done left outcomes, twoPatches "h" = done ++ left ∧
        Completes "." false machine.tree done outcomes ran.2.tree ∧
        EndsWith "." false ran.2.tree left ran.1 ∧
        ran.2.stdout = machine.stdout ++ String.join
          ((command.overview (twoJobs "h") ++ outcomes.map fun outcome => s!"✅ {outcome.summary}").map
            (· ++ "\n")) := by
  intro command machine ran
  have parsed : parse [] = .ok command := rfl
  have ready : Ready command machine (twoJobs "h") (twoPatches "h") :=
    ⟨by decide +kernel, by decide +kernel, patches_twoJobs "h"⟩
  obtain ⟨-, done, left, outcomes, whole, completes, endsWith, stdoutEq⟩ :=
    (run_in_order_up_to_first_failure parsed none machine).1 (twoJobs "h") (twoPatches "h") ready
  refine ⟨parsed, ready, by decide +kernel, by decide +kernel, done, left, outcomes, whole, completes,
    endsWith, stdoutEq rfl⟩

end Patchwork.JobCommand
