import Patchwork.Proofs.DuplicateRemoval.Repetition
import Patchwork.Proofs.Fault
import Patchwork.Proofs.FileTree.BaseDirectory
import Patchwork.Proofs.Outcome.Report
import Patchwork.Proofs.PatchCommand.Run
import Patchwork.Proofs.StepInsertion.Decomposition

/-!
# All or nothing

The command either reports its patch, and then the patched text stands in the target unless the run was dry, or it
stops with a fault and has put out nothing and changed nothing. The fault decides the exit code. A patch that
could be built never fails to apply, and the report is written down after the file without a chance to fail.
-/

set_option autoImplicit false

namespace Patchwork.PatchCommand

open Fault (FailsWithin failsWithin_ok)
open Machine (Logged Runs)

variable {command : PatchCommand} {machine after : Machine} {tree left : FileTree} {patch : Patch}
  {fault : Fault}

/-! ## Patches that were built -/

private theorem patchOn_eq_ok [MarkerSearch] (built : command.patchOn tree = .ok patch) :
    (∃ insertion : StepInsertion, patch = insertion.toPatch) ∨
      ∃ removal : DuplicateRemoval, patch = removal.toPatch := by
  unfold patchOn at built
  split at built
  · obtain ⟨insertion, -, same⟩ := Fault.exists_of_bind_eq_ok built
    exact .inl ⟨insertion, (Except.ok.inj same).symm⟩
  · obtain ⟨step, -, built⟩ := Fault.exists_of_bind_eq_ok built
    obtain ⟨-, -, built⟩ := Fault.exists_of_bind_eq_ok built
    obtain ⟨insertion, -, same⟩ := Fault.exists_of_bind_eq_ok built
    exact .inl ⟨insertion, (Except.ok.inj same).symm⟩
  · exact .inr ⟨_, (Except.ok.inj built).symm⟩

/-- A patch that was built applies to every text, and counts no more matches than the text has characters. -/
theorem apply_of_patchOn [MarkerSearch] (built : command.patchOn tree = .ok patch) (content : String) :
    ∃ patched, patch.apply content = .ok patched ∧ patched.matchCount ≤ content.length := by
  rcases patchOn_eq_ok built with ⟨insertion, rfl⟩ | ⟨removal, rfl⟩
  · exact ⟨insertion.apply content, rfl, StepInsertion.matchCount_apply_le_length content⟩
  · exact ⟨removal.apply content, rfl, DuplicateRemoval.matchCount_apply_le_length content⟩

private theorem answer_failsWithin {α : Type} (found : Except FileTree.Obstacle α) :
    FailsWithin [.io] (Machine.answer found) := by
  intro fault failed
  obtain ⟨obstacle, -, rfl⟩ := Machine.answer_eq_error failed
  exact List.mem_singleton.2 rfl

theorem validate_failsWithin (command : PatchCommand) : FailsWithin [.configuration] command.validate := by
  refine (Validation.path_failsWithin _ _).bind fun _ => ?_
  split
  · next path marker stepFile _ =>
    have stepFileChecked : FailsWithin [.configuration] (stepFile.forM (Validation.path "step_file")) := by
      cases stepFile with
      | none => exact failsWithin_ok ()
      | some stepFile => exact Validation.path_failsWithin _ _
    exact stepFileChecked.bind fun _ => WorkflowSection.validate_failsWithin _
  · exact BuildFixSection.validate_failsWithin _

theorem patchOn_failsWithin [MarkerSearch] (command : PatchCommand) (tree : FileTree) :
    FailsWithin [.io, .pattern, .configuration] (command.patchOn tree) := by
  unfold patchOn
  split
  · next path marker _ =>
    refine ((WorkflowSection.insertion_failsWithin _).mono (by simp)).bind fun insertion => ?_
    exact failsWithin_ok _
  · next path marker stepFile _ =>
    refine ((answer_failsWithin _).mono (by simp)).bind fun step => ?_
    refine ((WorkflowSection.validate_failsWithin _).mono (by simp)).bind fun _ => ?_
    refine ((WorkflowSection.insertion_failsWithin _).mono (by simp)).bind fun insertion => ?_
    exact failsWithin_ok _
  · exact failsWithin_ok _

/-! ## Reasons to stop -/

/-- The path that a patch of the command is looked up under. -/
def pathOf (command : PatchCommand) (patch : Patch) : String :=
  Path.join command.baseDirectory patch.target

/-- The faults that stop the command: its settings are refused, its patch cannot be built, or the target cannot be
read or, in a real run, written. -/
inductive Stops [MarkerSearch] (command : PatchCommand) (tree : FileTree) : Fault → Prop where
  | invalid {fault : Fault} (invalid : command.validate = .error fault) : Stops command tree fault
  | unbuilt {fault : Fault} (valid : command.validate = .ok ()) (unbuilt : command.patchOn tree = .error fault) :
      Stops command tree fault
  | unread {patch : Patch} {obstacle} (valid : command.validate = .ok ()) (built : command.patchOn tree = .ok patch)
      (read : tree.read (command.pathOf patch) = .error obstacle) : Stops command tree obstacle.fault
  | unwritten {patch : Patch} {before patched obstacle} (valid : command.validate = .ok ())
      (built : command.patchOn tree = .ok patch) (real : command.dryRun = false)
      (read : tree.read (command.pathOf patch) = .ok before) (applied : patch.apply before = .ok patched)
      (refused : tree.write (command.pathOf patch) patched.content = .error obstacle) :
      Stops command tree obstacle.fault

theorem Stops.category_mem [MarkerSearch] (stops : Stops command tree fault) :
    fault.category ∈ [Fault.Category.io, .pattern, .configuration] := by
  cases stops with
  | invalid invalid => exact (validate_failsWithin command).mono (by simp) fault invalid
  | unbuilt _ unbuilt => exact patchOn_failsWithin command tree fault unbuilt
  | unread => exact List.mem_cons_self
  | unwritten => exact List.mem_cons_self

theorem Works.stops [MarkerSearch] (valid : command.validate = .ok ())
    (works : Works command tree (.error fault) left) :
    Stops command tree fault := by
  cases works with
  | unbuilt unbuilt => exact .unbuilt valid unbuilt
  | built built runs =>
    generalize mode : command.dryRun = dryRun at runs
    cases runs with
    | unread read => exact .unread valid built read
    | unapplied read applied =>
      obtain ⟨patched, applies, -⟩ := apply_of_patchOn built _
      cases applied.symm.trans applies
    | unwritten read applied refused => exact .unwritten valid built mode read applied refused

theorem Stops.works [MarkerSearch] (stops : Stops command tree fault) :
    command.validate = .error fault ∨
      command.validate = .ok () ∧ Works command tree (.error fault) tree := by
  cases stops with
  | invalid invalid => exact .inl invalid
  | unbuilt valid unbuilt => exact .inr ⟨valid, .unbuilt unbuilt⟩
  | unread valid built read => exact .inr ⟨valid, .built built (.unread read)⟩
  | unwritten valid built real read applied refused =>
    refine .inr ⟨valid, .built built ?_⟩
    rw [real]
    exact .unwritten read applied refused

/-! ## A patch that went through -/

/-- The outcome of a patch of the command. -/
def outcomeOn (command : PatchCommand) (patch : Patch) (before : String) (patched : Patched) : Outcome :=
  Engine.outcomeOf patch before patched (!command.dryRun)

theorem Works.applied [MarkerSearch] {outcome : Outcome} (works : Works command tree (.ok outcome) left) :
    ∃ patch before patched, command.patchOn tree = .ok patch ∧
      tree.read (command.pathOf patch) = .ok before ∧ patch.apply before = .ok patched ∧
      outcome = command.outcomeOn patch before patched ∧ (command.dryRun = true → left = tree) ∧
      (command.dryRun = false → tree.write (command.pathOf patch) patched.content = .ok left) := by
  cases works with
  | @built patch _ _ built runs =>
    unfold outcomeOn
    generalize command.dryRun = dryRun at runs ⊢
    cases runs with
    | previewed read applied =>
      refine ⟨patch, _, _, built, read, applied, rfl, fun _ => rfl, fun real => ?_⟩
      cases real
    | written read applied wrote =>
      refine ⟨patch, _, _, built, read, applied, rfl, fun dry => ?_, fun _ => wrote⟩
      cases dry

/-- The command applied its patch to the text of the target and put out the report, and nothing else. In a real
run the patched text stands in the target, and no other file changed. -/
structure Delivered [MarkerSearch] (command : PatchCommand) (machine after : Machine) (patch : Patch)
    (before : String) (patched : Patched) : Prop where
  valid : command.validate = .ok ()
  built : command.patchOn machine.tree = .ok patch
  read : machine.tree.read (command.pathOf patch) = .ok before
  applied : patch.apply before = .ok patched
  plain_stdout : command.json = false →
    after.stdout = machine.stdout ++ ("✅ " ++ (command.outcomeOn patch before patched).summary) ++ "\n"
  json_stdout : command.json = true →
    after.stdout = machine.stdout ++ (command.outcomeOn patch before patched).report ++ "\n"
  dry_tree : command.dryRun = true → after.tree = machine.tree
  real_tree : command.dryRun = false →
    ∃ location, machine.tree.locate (command.pathOf patch) = .ok location ∧
      after.tree = machine.tree.withFile location patched.content ∧
      after.tree.read (command.pathOf patch) = .ok patched.content

private theorem Works.delivered [MarkerSearch] {outcome : Outcome} {logged : Machine}
    (valid : command.validate = .ok ()) (works : Works command machine.tree (.ok outcome) left)
    (logs : Logged { machine with tree := left } logged) :
    ∃ patch before patched,
      Delivered command machine (logged.emit (.out (command.reportOf outcome ++ "\n"))) patch before patched := by
  obtain ⟨patch, before, patched, built, read, applied, rfl, dryTree, realTree⟩ := works.applied
  have stdoutEq : (logged.emit (.out (command.reportOf (command.outcomeOn patch before patched) ++ "\n"))).stdout =
      machine.stdout ++ command.reportOf (command.outcomeOn patch before patched) ++ "\n" := by
    rw [Machine.stdout_emit, logs.stdout_eq, String.append_assoc]
    rfl
  refine ⟨patch, before, patched, valid, built, read, applied, ?_, ?_, ?_, ?_⟩
  · intro plain
    rw [stdoutEq, reportOf, plain]
    rfl
  · intro json
    rw [stdoutEq, reportOf, json, if_pos rfl]
  · intro dry
    exact logs.tree_eq.trans (dryTree dry)
  · intro real
    have wrote := realTree real
    obtain ⟨location, bytes, located, -, -, same⟩ := FileTree.eq_withFile_of_write_of_read read wrote
    have rewritten := (FileTree.of_write_of_read read wrote).2.1 _ ⟨location, located, located⟩
    rw [Machine.tree_emit, logs.tree_eq]
    exact ⟨location, located, same, rewritten⟩

theorem Delivered.fits [MarkerSearch] {patch : Patch} {before : String} {patched : Patched}
    (delivered : Delivered command machine after patch before patched)
    (short : before.length < Outcome.countBound) (shortAfter : patched.content.length < Outcome.countBound) :
    (command.outcomeOn patch before patched).Fits := by
  obtain ⟨same, applies, counted⟩ := apply_of_patchOn delivered.built before
  obtain rfl := Except.ok.inj (delivered.applied.symm.trans applies)
  exact Engine.fits_outcomeOf _ short shortAfter counted

/-! ## The whole command -/

theorem Ran.of_stops [MarkerSearch] {ending : Ending} (ran : Ran command machine ending after)
    (stops : Stops command machine.tree fault) : ending = .exit fault.exitCode := by
  cases ran with
  | invalid invalid logs =>
    rcases stops.works with otherwise | ⟨valid, -⟩
    · obtain rfl := Except.error.inj (invalid.symm.trans otherwise)
      rfl
    · cases valid.symm.trans invalid
  | failed valid works logs =>
    rcases stops.works with invalid | ⟨-, otherWorks⟩
    · cases valid.symm.trans invalid
    · obtain ⟨same, -⟩ := works.unique otherWorks
      obtain rfl := Except.error.inj same
      rfl
  | done valid works logs =>
    rcases stops.works with invalid | ⟨-, otherWorks⟩
    · cases valid.symm.trans invalid
    · cases (works.unique otherWorks).1

theorem Ran.delivered [MarkerSearch] {ending : Ending} (ran : Ran command machine ending after)
    (zero : ending.exitCode = 0) :
    ∃ patch before patched, Delivered command machine after patch before patched := by
  cases ran with
  | invalid => exact absurd zero (Fault.exitCode_ne_zero _)
  | failed => exact absurd zero (Fault.exitCode_ne_zero _)
  | done valid works logs => exact works.delivered valid logs

theorem Ran.stopped [MarkerSearch] {ending : Ending} (ran : Ran command machine ending after)
    (nonzero : ending.exitCode ≠ 0) :
    ∃ fault, Stops command machine.tree fault ∧ after.stdout = machine.stdout ∧ after.tree = machine.tree := by
  cases ran with
  | invalid invalid logs =>
    refine ⟨_, .invalid invalid, ?_, logs.tree_eq⟩
    rw [Machine.stdout_emit, logs.stdout_eq, String.append_empty]
  | failed valid works logs =>
    obtain rfl := works.tree_of_error
    refine ⟨_, works.stops valid, ?_, logs.tree_eq⟩
    rw [Machine.stdout_emit, Machine.stdout_emit, logs.stdout_eq, String.append_empty, String.append_empty]
  | done => exact absurd rfl nonzero

/-- A command that exits with code zero has delivered its patch: all it put out is one report, which is read back as
the outcome, and in a real run nothing changed but the text of the target. Otherwise it put out nothing and changed
nothing, and there is a fault that stops it, whose category the exit code tells. The code of a report that cannot be
written down never occurs. -/
theorem all_or_nothing [MarkerSearch] {arguments : List String} {command : PatchCommand}
    (parsed : parse arguments = .ok command) (chosen : Option Log.Filter) (machine : Machine) :
    let ran := run Machine.host chosen arguments machine
    (ran.1.exitCode = 0 → ∃ patch before patched, Delivered command machine ran.2 patch before patched ∧
      let outcome := command.outcomeOn patch before patched
      Json.read? outcome.report = some outcome.toJson ∧
      (before.length < Outcome.countBound → patched.content.length < Outcome.countBound →
        Outcome.ofReport? outcome.report = some outcome)) ∧
    (ran.1.exitCode ≠ 0 → ran.2.stdout = machine.stdout ∧ ran.2.tree = machine.tree ∧
      ∃ fault, Stops command machine.tree fault ∧
        (ran.1.exitCode = 1 ↔ fault.category = .configuration ∨ fault.category = .pattern) ∧
        (ran.1.exitCode = 3 ↔ fault.category = .io)) ∧
    (∀ fault, Stops command machine.tree fault → ran.1.exitCode = fault.exitCode) ∧
    ran.1.exitCode ≠ 2 := by
  intro ran
  have ends : Ran command machine ran.1 ran.2 := ran_run parsed chosen machine
  have stopped : ∀ fault, Stops command machine.tree fault → ran.1.exitCode = fault.exitCode :=
    fun fault stops => congrArg Ending.exitCode (ends.of_stops stops)
  refine ⟨?_, ?_, stopped, ?_⟩
  · intro zero
    obtain ⟨patch, before, patched, delivered⟩ := ends.delivered zero
    exact ⟨patch, before, patched, delivered, Outcome.read?_report _,
      fun short shortAfter => Outcome.ofReport?_report (delivered.fits short shortAfter)⟩
  · intro nonzero
    obtain ⟨fault, stops, stdoutEq, treeEq⟩ := ends.stopped nonzero
    refine ⟨stdoutEq, treeEq, fault, stops, ?_, ?_⟩
    · rw [stopped fault stops, Fault.exitCode_eq_one_iff]
    · rw [stopped fault stops, Fault.exitCode_eq_three_iff]
  · intro two
    have nonzero : ran.1.exitCode ≠ 0 := by omega
    obtain ⟨fault, stops, -, -⟩ := ends.stopped nonzero
    have lost := Fault.exitCode_eq_two_iff.1 ((stopped fault stops).symm.trans two)
    have among := stops.category_mem
    rw [lost] at among
    simp at among

/-- A machine with a file `f` in the directory `d`, and with another `f` beside the directory. -/
def machineOfNamesakes : Machine where
  tree :=
    { entries :=
        [(["d"], .directory), (["d", "f"], .file "a\n m\n".toUTF8), (["f"], .file "b\n m\n".toUTF8)]
      workingDirectory := [] }
  environment := fun _ => none
  transcript := []

/-- The patch that puts the default step before each `m` in a file `f`. -/
def stepBeforeM : StepInsertion := ⟨"f", "m", StepInsertion.defaultStep⟩

/-- With the base directory `d` the patch is delivered to the file in it, and the other one stays as it was. The
default target of the other patch does not exist there. -/
theorem all_or_nothing_delivered_and_unread :
    let machine := machineOfNamesakes
    let arguments := ["--base-dir", "d", "workflow", "--path", "f", "--marker", "m", "--json"]
    let command : PatchCommand := ⟨"d", false, true, false, .workflow (some "f") (some "m") none⟩
    let missing : PatchCommand := ⟨"d", false, false, false, .buildFix none none none none⟩
    let ran := run Machine.host none arguments machine
    let failed := run Machine.host none ["--base-dir", "d", "build-fix"] machine
    parse arguments = .ok command ∧
      parse ["--base-dir", "d", "build-fix"] = .ok missing ∧ ran.1 = .exit 0 ∧ failed.1 = .exit 3 ∧
      (∃ patch before patched, Delivered command machine ran.2 patch before patched ∧
        command.pathOf patch = "d/f" ∧ before = "a\n m\n" ∧
        patched.content = "a\n" ++ StepInsertion.defaultStep ++ "\n m\n" ∧
        (ran.2.tree.workingIn ["d"]).read "f" = .ok patched.content) ∧
      ran.2.tree.read "f" = .ok "b\n m\n" ∧
      failed.2.stdout = "" ∧ failed.2.tree = machine.tree ∧
      ∃ fault, Stops missing machine.tree fault ∧ fault.category = .io := by
  intro machine arguments command missing ran failed
  have parsed : parse arguments = .ok command := rfl
  have parsedMissing : parse ["--base-dir", "d", "build-fix"] = .ok missing := rfl
  have zero : ran.1 = .exit 0 := by decide +kernel
  have three : failed.1 = .exit 3 := by decide +kernel
  obtain ⟨patch, before, patched, delivered, -⟩ :=
    (all_or_nothing parsed none machine).1 (congrArg Ending.exitCode zero)
  obtain ⟨stdoutEq, treeEq, fault, stops, -, ioExactly⟩ :=
    (all_or_nothing parsedMissing none machine).2.1 (by rw [three]; decide)
  have built : command.patchOn machine.tree = .ok stepBeforeM.toPatch := rfl
  obtain rfl : patch = stepBeforeM.toPatch := Except.ok.inj (delivered.built.symm.trans built)
  have path : command.pathOf stepBeforeM.toPatch = "d/f" := by decide +kernel
  obtain rfl : before = "a\n m\n" := by
    have held : machine.tree.read "d/f" = .ok "a\n m\n" := by decide +kernel
    have read := delivered.read
    rw [path, held] at read
    exact (Except.ok.inj read).symm
  obtain rfl : patched = stepBeforeM.apply "a\n m\n" := (Except.ok.inj delivered.applied).symm
  obtain ⟨location, located, treeAfter, rewritten⟩ := delivered.real_tree rfl
  obtain rfl : location = ["d", "f"] := by
    have leads : machine.tree.locate "d/f" = .ok ["d", "f"] := by decide +kernel
    rw [path, leads] at located
    exact (Except.ok.inj located).symm
  have below : ran.2.tree.Below "d" "f" ["d"] := by
    rw [treeAfter]
    exact ⟨rfl, by decide, by decide +kernel, by decide +kernel⟩
  have fromBase : (ran.2.tree.workingIn ["d"]).read "f" = .ok (stepBeforeM.apply "a\n m\n").content := by
    have joined : Path.join "d" "f" = "d/f" := by decide +kernel
    rw [← below.read_join, joined, ← path, rewritten]
  have untouched : ran.2.tree.read "f" = .ok "b\n m\n" := by
    rw [treeAfter]
    decide +kernel
  exact ⟨parsed, parsedMissing, zero, three,
    ⟨_, _, _, delivered, path, rfl, by decide +kernel, fromBase⟩, untouched, stdoutEq,
    treeEq, fault, stops, ioExactly.1 (congrArg Ending.exitCode three)⟩

end Patchwork.PatchCommand
