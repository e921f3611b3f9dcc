import Patchwork.PatchCommand
import Patchwork.Proofs.Engine.Machine

/-!
# How the command ends

The command validates its settings, builds its patch, for which it may have to read a step file, and runs the
patch once on the machine. `Ran` has one case for each end. Only when the patch went through is anything put out.
-/

set_option autoImplicit false

namespace Patchwork.PatchCommand

open Machine (Logged Runs)

variable [MarkerSearch] {command : PatchCommand} {setup : Log.Setup} {machine after : Machine}

/-- The patch that the command builds on a file tree. -/
def patchOn (command : PatchCommand) (tree : FileTree) : Except Fault Patch :=
  match command.request with
  | .workflow path marker none => do
    let insertion ← (WorkflowSection.mk path marker none).insertion
    return insertion.toPatch
  | .workflow path marker (some stepFile) => do
    let step ← Machine.answer (tree.read (Path.join command.baseDirectory stepFile))
    let job := WorkflowSection.mk path marker (some step)
    job.validate
    let insertion ← job.insertion
    return insertion.toPatch
  | .buildFix path threshold permissionMarker duplicateMarker =>
    return (BuildFixSection.mk path threshold permissionMarker duplicateMarker).removal.toPatch

theorem run_patch (command : PatchCommand) (setup : Log.Setup) (machine : Machine) :
    ∃ after, Logged machine after ∧
      (command.patch (Machine.host.storage setup command.baseDirectory)).run machine =
        (command.patchOn machine.tree, after) := by
  unfold patch patchOn
  cases command.request with
  | buildFix => exact ⟨machine, Logged.refl machine, rfl⟩
  | workflow path marker stepFile =>
    cases stepFile with
    | none =>
      refine ⟨machine, Logged.refl machine, ?_⟩
      dsimp only
      cases (WorkflowSection.mk path marker none).insertion <;> rfl
    | some stepFile =>
      obtain ⟨after, logged, read⟩ :=
        Machine.run_read_storage setup command.baseDirectory stepFile machine
      refine ⟨after, logged, ?_⟩
      dsimp only
      cases found : Machine.answer (machine.tree.read (Path.join command.baseDirectory stepFile)) with
      | error fault =>
        rw [found] at read
        exact Engine.run_bind_of_error read
      | ok step =>
        rw [found] at read
        rw [Engine.run_bind_of_ok read]
        -- From here on the storage is not asked again.
        change _ = ((WorkflowSection.mk path marker (some step)).validate >>= fun _ =>
          (WorkflowSection.mk path marker (some step)).insertion >>= fun insertion =>
            pure insertion.toPatch, after)
        cases (WorkflowSection.mk path marker (some step)).validate with
        | error fault => rfl
        | ok _ => cases (WorkflowSection.mk path marker (some step)).insertion <;> rfl

/-- How the work of the command can end: with a result, leaving a tree. -/
inductive Works (command : PatchCommand) (tree : FileTree) : Except Fault Outcome → FileTree → Prop where
  | unbuilt {fault} (unbuilt : command.patchOn tree = .error fault) : Works command tree (.error fault) tree
  | built {patch result after} (built : command.patchOn tree = .ok patch)
      (runs : Runs command.baseDirectory patch tree command.dryRun result after) :
      Works command tree result after

theorem works_work (command : PatchCommand) (setup : Log.Setup) (machine : Machine) :
    let worked := (command.work (Machine.host.storage setup command.baseDirectory)).run machine
    ∃ tree, Works command machine.tree worked.1 tree ∧ Logged { machine with tree := tree } worked.2 := by
  obtain ⟨between, logged, built⟩ := run_patch command setup machine
  unfold work
  cases settled : command.patchOn machine.tree with
  | error fault =>
    rw [settled] at built
    rw [Engine.run_bind_of_error built]
    exact ⟨machine.tree, .unbuilt settled, logged⟩
  | ok patch =>
    rw [settled] at built
    rw [Engine.run_bind_of_ok built]
    obtain ⟨tree, runs, loggedToo⟩ :=
      Machine.runs_run setup command.baseDirectory command.dryRun patch between
    rw [logged.tree_eq] at runs
    exact ⟨tree, .built settled runs, (logged.withTree tree).trans loggedToo⟩

theorem Works.unique {tree left otherLeft : FileTree} {result otherResult : Except Fault Outcome}
    (works : Works command tree result left) (otherWorks : Works command tree otherResult otherLeft) :
    otherResult = result ∧ otherLeft = left := by
  cases works with
  | unbuilt unbuilt =>
    cases otherWorks with
    | unbuilt otherwise =>
      obtain rfl := Except.error.inj (unbuilt.symm.trans otherwise)
      exact ⟨rfl, rfl⟩
    | built built _ => cases built.symm.trans unbuilt
  | built built runs =>
    cases otherWorks with
    | unbuilt unbuilt => cases built.symm.trans unbuilt
    | built otherBuilt otherRuns =>
      obtain rfl := Except.ok.inj (built.symm.trans otherBuilt)
      exact runs.unique otherRuns

theorem Works.tree_of_error {tree left : FileTree} {fault : Fault}
    (works : Works command tree (.error fault) left) : left = tree := by
  cases works with
  | unbuilt => rfl
  | built _ runs => exact runs.tree_of_error

/-- How the command can end on a machine. -/
inductive Ran (command : PatchCommand) (machine : Machine) : Ending → Machine → Prop where
  | invalid {fault logged} (invalid : command.validate = .error fault) (logs : Logged machine logged) :
      Ran command machine (.exit fault.exitCode) (logged.emit (.err (s!"❌ {fault.friendly}" ++ "\n")))
  | failed {fault tree logged} (valid : command.validate = .ok ())
      (works : Works command machine.tree (.error fault) tree)
      (logs : Logged { machine with tree := tree } logged) :
      Ran command machine (.exit fault.exitCode)
        ((logged.emit (.err (s!"❌ {fault.friendly}" ++ "\n"))).emit (.err (s!"💡 {fault.suggestion}" ++ "\n")))
  | done {outcome tree logged} (valid : command.validate = .ok ())
      (works : Works command machine.tree (.ok outcome) tree)
      (logs : Logged { machine with tree := tree } logged) :
      Ran command machine (.exit 0) (logged.emit (.out (command.reportOf outcome ++ "\n")))

private theorem ran_runWith (command : PatchCommand) (setup : Log.Setup) (machine : Machine) :
    Ran command machine (command.runWith Machine.host setup machine).1
      (command.runWith Machine.host setup machine).2 := by
  have opened := Machine.logged_log setup (Log.info "Starting repo-fixup") machine
  rcases opening : Machine.host.log setup (Log.info "Starting repo-fixup") machine with ⟨_, between⟩
  rw [opening] at opened
  simp only [runWith, bind, StateT.bind, opening]
  cases valid : command.validate with
  | error fault =>
    exact .invalid valid ((opened.trans (Machine.logged_log ..)).trans (Machine.logged_log ..))
  | ok _ =>
    obtain ⟨tree, works, logged⟩ := works_work command setup between
    rw [opened.tree_eq] at works
    have logs := (opened.withTree tree).trans logged
    rcases worked : (command.work (Machine.host.storage setup command.baseDirectory)).run between with
      ⟨fault | outcome, ended⟩
    · rw [worked] at works logs
      simp only [StateT.bind, worked]
      exact .failed valid works (logs.trans (Machine.logged_log ..))
    · rw [worked] at works logs
      simp only [StateT.bind, worked]
      exact .done valid works logs

theorem ran_run {arguments : List String} (parsed : parse arguments = .ok command)
    (chosen : Option Log.Filter) (machine : Machine) :
    Ran command machine (run Machine.host chosen arguments machine).1
      (run Machine.host chosen arguments machine).2 := by
  rw [run, parsed]
  exact ran_runWith command _ machine

end Patchwork.PatchCommand
