import Patchwork.JobCommand
import Patchwork.Proofs.Engine.Machine
import Patchwork.Proofs.Fault

/-!
# How the command ends

The command loads its job file, validates it and builds its patches, and then runs them one after the other
on the machine. `RunsAll` says how the runs of a list of patches can go, and `Ran` has one case for each end of
the whole command. What a run of it puts out follows from the outcomes.
-/

set_option autoImplicit false

namespace Patchwork

/-! ## Lines put out -/

namespace Machine

/-- The machine after lines were put out one after the other. -/
def outAll (machine : Machine) (lines : List String) : Machine :=
  lines.foldl (fun machine line => machine.emit (.out (line ++ "\n"))) machine

variable {machine : Machine}

@[simp] theorem tree_outAll (lines : List String) : (machine.outAll lines).tree = machine.tree := by
  induction lines generalizing machine with
  | nil => rfl
  | cons line rest inductionHypothesis => exact inductionHypothesis

theorem stdout_outAll (lines : List String) :
    (machine.outAll lines).stdout = machine.stdout ++ String.join (lines.map (· ++ "\n")) := by
  induction lines generalizing machine with
  | nil => simp [outAll]
  | cons line rest inductionHypothesis =>
    refine inductionHypothesis.trans ?_
    rw [stdout_emit, List.map_cons, String.join_cons, String.append_assoc]

@[simp] theorem stderr_outAll (lines : List String) : (machine.outAll lines).stderr = machine.stderr := by
  induction lines generalizing machine with
  | nil => rfl
  | cons line rest inductionHypothesis =>
    refine inductionHypothesis.trans ?_
    rw [stderr_emit, String.append_empty]

theorem run_forM_out (lines : List String) :
    (lines.forM host.out : StateM Machine Unit) machine = ((), machine.outAll lines) := by
  induction lines generalizing machine with
  | nil => rfl
  | cons line rest inductionHypothesis => exact inductionHypothesis

end Machine

namespace JobCommand

open Machine (Logged)

/-- The lines that are put out as soon as a patch is done. -/
def progress (command : JobCommand) (outcome : Outcome) : List String :=
  if command.json then [] else [s!"✅ {outcome.summary}"]

/-! ## The patches of a job file -/

/-- How patches run one after the other, up to the first one that fails. -/
inductive RunsAll (command : JobCommand) (base : String) :
    Machine → List Patch → List Outcome → Option (Patch × Fault) → Machine → Prop where
  | done {machine : Machine} : RunsAll command base machine [] [] none machine
  | failed {machine patch rest fault tree after}
      (runs : Machine.Runs base patch machine.tree command.dryRun (.error fault) tree)
      (logged : Logged { machine with tree := tree } after) :
      RunsAll command base machine (patch :: rest) [] (some (patch, fault)) after
  | next {machine patch rest outcome tree between outcomes failure after}
      (runs : Machine.Runs base patch machine.tree command.dryRun (.ok outcome) tree)
      (logged : Logged { machine with tree := tree } between)
      (later : RunsAll command base (between.outAll (command.progress outcome)) rest outcomes failure after) :
      RunsAll command base machine (patch :: rest) (outcome :: outcomes) failure after

variable {command : JobCommand} {setup : Log.Setup} {base : String} {machine after : Machine}
  {patches : List Patch} {outcomes : List Outcome} {failure : Option (Patch × Fault)}

private theorem runAll_cons_of_ok {patch : Patch} {outcome : Outcome} (rest : List Patch)
    (ran : (Engine.run (Machine.host.storage setup base) command.dryRun patch).run machine =
      (.ok outcome, after)) :
    command.runAll Machine.host (Machine.host.storage setup base) (patch :: rest) machine =
      let later := command.runAll Machine.host (Machine.host.storage setup base) rest
        (after.outAll (command.progress outcome))
      ((outcome :: later.1.1, later.1.2), later.2) := by
  cases json : command.json <;> simp only [runAll, bind, StateT.bind, ran, json, progress] <;> rfl

theorem runsAll_runAll (command : JobCommand) (setup : Log.Setup) (base : String) (patches : List Patch)
    (machine : Machine) :
    RunsAll command base machine patches
      (command.runAll Machine.host (Machine.host.storage setup base) patches machine).1.1
      (command.runAll Machine.host (Machine.host.storage setup base) patches machine).1.2
      (command.runAll Machine.host (Machine.host.storage setup base) patches machine).2 := by
  induction patches generalizing machine with
  | nil => exact .done
  | cons patch rest inductionHypothesis =>
    obtain ⟨tree, runs, logged⟩ := Machine.runs_run setup base command.dryRun patch machine
    rcases ran : (Engine.run (Machine.host.storage setup base) command.dryRun patch).run machine with
      ⟨fault | outcome, between⟩
    · rw [ran] at runs logged
      simp only [runAll, bind, StateT.bind, ran]
      exact .failed runs logged
    · rw [ran] at runs logged
      rw [runAll_cons_of_ok rest ran]
      exact .next runs logged (inductionHypothesis _)

theorem RunsAll.stdout_eq (runs : RunsAll command base machine patches outcomes failure after) :
    after.stdout =
      machine.stdout ++ String.join ((outcomes.flatMap command.progress).map (· ++ "\n")) := by
  induction runs with
  | done => simp
  | failed runs logged => exact logged.stdout_eq.trans String.append_empty.symm
  | next runs logged later inductionHypothesis =>
    rw [inductionHypothesis, Machine.stdout_outAll, logged.stdout_eq]
    simp [String.append_assoc, Machine.stdout]

theorem RunsAll.stderr_eq (runs : RunsAll command base machine patches outcomes failure after) :
    after.stderr = machine.stderr := by
  induction runs with
  | done => rfl
  | failed runs logged => exact logged.stderr_eq
  | next runs logged later inductionHypothesis =>
    rw [inductionHypothesis, Machine.stderr_outAll, logged.stderr_eq]
    rfl

/-- What patches do goes by the tree of the machine and by whether the run is dry. -/
theorem RunsAll.unique {other : JobCommand} {otherMachine otherAfter : Machine}
    {otherOutcomes : List Outcome} {otherFailure : Option (Patch × Fault)}
    (runs : RunsAll command base machine patches outcomes failure after)
    (otherRuns : RunsAll other base otherMachine patches otherOutcomes otherFailure otherAfter)
    (sameTree : otherMachine.tree = machine.tree) (sameMode : other.dryRun = command.dryRun) :
    otherOutcomes = outcomes ∧ otherFailure = failure ∧ otherAfter.tree = after.tree := by
  induction runs generalizing otherMachine otherOutcomes with
  | done =>
    cases otherRuns
    exact ⟨rfl, rfl, sameTree⟩
  | failed runs logged =>
    cases otherRuns with
    | failed otherRun otherLogged =>
      rw [sameTree, sameMode] at otherRun
      obtain ⟨sameFault, sameAfter⟩ := runs.unique otherRun
      obtain rfl := Except.error.inj sameFault
      rw [otherLogged.tree_eq, logged.tree_eq]
      exact ⟨rfl, rfl, sameAfter⟩
    | next otherRun _ _ =>
      rw [sameTree, sameMode] at otherRun
      cases (runs.unique otherRun).1
  | next runs logged later inductionHypothesis =>
    cases otherRuns with
    | failed otherRun _ =>
      rw [sameTree, sameMode] at otherRun
      cases (runs.unique otherRun).1
    | next otherRun otherLogged otherLater =>
      rw [sameTree, sameMode] at otherRun
      obtain ⟨sameOutcome, sameAfter⟩ := runs.unique otherRun
      obtain rfl := Except.ok.inj sameOutcome
      obtain ⟨rfl, sameFailure, sameEnd⟩ := inductionHypothesis otherLater <| by
        rw [Machine.tree_outAll, Machine.tree_outAll, otherLogged.tree_eq, logged.tree_eq, sameAfter]
      exact ⟨rfl, sameFailure, sameEnd⟩

theorem RunsAll.marks (runs : RunsAll command base machine patches outcomes none after) :
    outcomes.map (fun outcome => (outcome.kind, outcome.path, outcome.written)) =
      patches.map fun patch => (patch.kind, patch.target, !command.dryRun) := by
  generalize finished : none = failure at runs
  induction runs with
  | done => rfl
  | failed => cases finished
  | next runs logged later inductionHypothesis =>
    rw [List.map_cons, List.map_cons, runs.marks, inductionHypothesis finished]

/-! ## The whole command -/

/-- The lines that are put out before the first patch runs. -/
def opening (command : JobCommand) (jobs : JobFile) : List String :=
  if command.json then [] else command.overview jobs

/-- The lines that are put out when all patches are done. -/
def closing (command : JobCommand) (outcomes : List Outcome) : List String :=
  if command.json then [Outcome.reportAll outcomes] else []

/-- The job file that a path leads to on a machine. -/
def jobFileOn (machine : Machine) (path : String) : Except Fault JobFile := do
  let text ← Machine.answer (machine.tree.read path)
  JobFile.ofText machine.environment text

private theorem run_load (path : String) :
    (load Machine.host path).run machine = (jobFileOn machine path, machine) := by
  unfold jobFileOn
  cases read : Machine.answer (machine.tree.read path) with
  | error fault => exact Engine.run_bind_of_error (congrArg (·, machine) read)
  | ok text => exact Engine.run_bind_of_ok (congrArg (·, machine) read)

variable [MarkerSearch]

/-- How the command can end on a machine. -/
inductive Ran (command : JobCommand) (machine : Machine) : Ending → Machine → Prop where
  | unloaded {fault} (loaded : jobFileOn machine command.config = .error fault) :
      Ran command machine (.exit fault.exitCode)
        ((machine.emit (.err (s!"❌ Failed to load config file '{command.config}': {fault.message}" ++ "\n"))).emit
          (.err (s!"💡 {fault.suggestion}" ++ "\n")))
  | invalid {jobs fault logged} (loaded : jobFileOn machine command.config = .ok jobs)
      (invalid : jobs.validate = .error fault) (logs : Logged machine logged) :
      Ran command machine (.exit fault.exitCode) (logged.emit (.err (s!"❌ {fault.friendly}" ++ "\n")))
  | unbuilt {jobs fault logged} (loaded : jobFileOn machine command.config = .ok jobs)
      (valid : jobs.validate = .ok ()) (unbuilt : jobs.patches = .error fault)
      (logs : Logged machine logged) :
      Ran command machine (.exit 1) ((logged.outAll (command.opening jobs)).emit (.err fault.unhandled))
  | failed {jobs patches logged outcomes patch fault stopped after}
      (loaded : jobFileOn machine command.config = .ok jobs) (valid : jobs.validate = .ok ())
      (built : jobs.patches = .ok patches) (logs : Logged machine logged)
      (runs : RunsAll command jobs.base (logged.outAll (command.opening jobs)) patches outcomes
        (some (patch, fault)) stopped)
      (told : Logged stopped after) :
      Ran command machine (.exit fault.exitCode)
        ((after.emit (.err (s!"❌ {fault.friendly}" ++ "\n"))).emit (.err (s!"💡 {fault.suggestion}" ++ "\n")))
  | done {jobs patches logged outcomes after}
      (loaded : jobFileOn machine command.config = .ok jobs) (valid : jobs.validate = .ok ())
      (built : jobs.patches = .ok patches) (logs : Logged machine logged)
      (runs : RunsAll command jobs.base (logged.outAll (command.opening jobs)) patches outcomes none after) :
      Ran command machine (.exit 0) (after.outAll (command.closing outcomes))

section

variable {jobs : JobFile} {logged : Machine}

private theorem runJobs_of_unbuilt {fault : Fault} (setup : Log.Setup) (built : jobs.patches = .error fault)
    (machine : Machine) :
    command.runJobs Machine.host setup jobs machine =
      (.exit 1, (machine.outAll (command.opening jobs)).emit (.err fault.unhandled)) := by
  cases json : command.json with
  | true =>
    simp only [runJobs, opening, json, built, if_true]
    rfl
  | false =>
    simp only [runJobs, opening, json, built, Bool.false_eq_true, if_false, bind, StateT.bind,
      Machine.run_forM_out]
    rfl

theorem runJobs_of_built (setup : Log.Setup) (built : jobs.patches = .ok patches)
    (machine : Machine) :
    command.runJobs Machine.host setup jobs machine =
      let ran := command.runAll Machine.host (Machine.host.storage setup jobs.base) patches
        (machine.outAll (command.opening jobs))
      match ran.1.2 with
      | none => (.exit 0, ran.2.outAll (command.closing ran.1.1))
      | some (patch, fault) =>
        (.exit fault.exitCode,
          (((Machine.host.log setup
            (.mk .error .jobRunner s!"❌ {patch.kind.label} failed: {fault.classified}") ran.2).2.emit
              (.err (s!"❌ {fault.friendly}" ++ "\n"))).emit (.err (s!"💡 {fault.suggestion}" ++ "\n")))) := by
  rcases ran : command.runAll Machine.host (Machine.host.storage setup jobs.base) patches
    (machine.outAll (command.opening jobs)) with ⟨⟨outcomes, failure⟩, stopped⟩
  cases json : command.json with
  | true =>
    rw [opening, json, if_pos rfl, Machine.outAll, List.foldl_nil] at ran
    simp only [runJobs, closing, json, built, if_true, bind, StateT.bind, ran]
    cases failure <;> rfl
  | false =>
    simp only [opening, json, Bool.false_eq_true, if_false] at ran
    simp only [runJobs, closing, json, built, Bool.false_eq_true, if_false, bind, StateT.bind,
      Machine.run_forM_out, ran]
    cases failure <;> rfl

private theorem ran_runJobs (setup : Log.Setup) (loaded : jobFileOn machine command.config = .ok jobs)
    (valid : jobs.validate = .ok ()) (logs : Logged machine logged) :
    Ran command machine (command.runJobs Machine.host setup jobs logged).1
      (command.runJobs Machine.host setup jobs logged).2 := by
  cases built : jobs.patches with
  | error fault =>
    rw [runJobs_of_unbuilt setup built]
    exact .unbuilt loaded valid built logs
  | ok patches =>
    have runs := runsAll_runAll command setup jobs.base patches (logged.outAll (command.opening jobs))
    rw [runJobs_of_built setup built]
    rcases ran : command.runAll Machine.host (Machine.host.storage setup jobs.base) patches
      (logged.outAll (command.opening jobs)) with ⟨⟨outcomes, none | ⟨patch, fault⟩⟩, stopped⟩
    · rw [ran] at runs
      exact .done loaded valid built logs runs
    · rw [ran] at runs
      exact .failed loaded valid built logs runs (Machine.logged_log ..)

private theorem ran_runLoaded (setup : Log.Setup) (loaded : jobFileOn machine command.config = .ok jobs) :
    Ran command machine (command.runLoaded Machine.host setup jobs machine).1
      (command.runLoaded Machine.host setup jobs machine).2 := by
  have logs := Machine.logged_log setup
    (.mk .info .jobRunner s!"📁 Loaded configuration from: {command.config}") machine
  simp only [runLoaded, bind, StateT.bind]
  cases valid : jobs.validate with
  | error fault =>
    exact .invalid loaded valid ((logs.trans (Machine.logged_log ..)).trans (Machine.logged_log ..))
  | ok _ => exact ran_runJobs setup loaded valid logs

end

private theorem ran_runCommand (command : JobCommand) (chosen : Option Log.Filter) (machine : Machine) :
    Ran command machine (command.runCommand Machine.host chosen machine).1
      (command.runCommand Machine.host chosen machine).2 := by
  simp only [runCommand, bind, StateT.bind, run_load]
  cases loaded : jobFileOn machine command.config with
  | error fault => exact .unloaded loaded
  | ok jobs => exact ran_runLoaded _ loaded

theorem ran_run {arguments : List String} (parsed : parse arguments = .ok command)
    (chosen : Option Log.Filter) (machine : Machine) :
    Ran command machine (run Machine.host chosen arguments machine).1
      (run Machine.host chosen arguments machine).2 := by
  rw [run, parsed]
  exact ran_runCommand command chosen machine

/-- The patches that the command has to run once its job file is loaded and valid. -/
structure Ready (command : JobCommand) (machine : Machine) (jobs : JobFile) (patches : List Patch) : Prop where
  loaded : jobFileOn machine command.config = .ok jobs
  valid : jobs.validate = .ok ()
  built : jobs.patches = .ok patches

theorem Ready.unique {jobs otherJobs : JobFile} {otherPatches : List Patch}
    (ready : Ready command machine jobs patches) (other : Ready command machine otherJobs otherPatches) :
    otherJobs = jobs ∧ otherPatches = patches := by
  obtain rfl := Except.ok.inj (ready.loaded.symm.trans other.loaded)
  exact ⟨rfl, (Except.ok.inj (ready.built.symm.trans other.built)).symm⟩

/-- The exit code of a series of patches of which none failed, or one did. -/
def endingOf (failure : Option (Patch × Fault)) : Ending :=
  match failure with
  | none => .exit 0
  | some (_, fault) => .exit fault.exitCode

/-- A command that has patches to run runs them, and ends as they do. -/
theorem Ran.of_ready {ending : Ending} {jobs : JobFile} (ran : Ran command machine ending after)
    (ready : Ready command machine jobs patches) :
    ∃ logged outcomes failure stopped, Logged machine logged ∧
      RunsAll command jobs.base (logged.outAll (command.opening jobs)) patches outcomes failure stopped ∧
      ending = endingOf failure ∧ after.tree = stopped.tree ∧
      after.stdout = stopped.stdout ++ String.join
        ((if failure.isNone then command.closing outcomes else []).map (· ++ "\n")) := by
  cases ran with
  | unloaded otherwise => cases ready.loaded.symm.trans otherwise
  | invalid loaded invalid _ =>
    obtain rfl := Except.ok.inj (ready.loaded.symm.trans loaded)
    cases ready.valid.symm.trans invalid
  | unbuilt loaded _ unbuilt _ =>
    obtain rfl := Except.ok.inj (ready.loaded.symm.trans loaded)
    cases ready.built.symm.trans unbuilt
  | failed loaded valid built logs runs told =>
    obtain ⟨rfl, rfl⟩ := ready.unique ⟨loaded, valid, built⟩
    refine ⟨_, _, _, _, logs, runs, rfl, ?_, ?_⟩
    · rw [Machine.tree_emit, Machine.tree_emit, told.tree_eq]
    · rw [Machine.stdout_emit, Machine.stdout_emit, told.stdout_eq]
      simp
  | done loaded valid built logs runs =>
    obtain ⟨rfl, rfl⟩ := ready.unique ⟨loaded, valid, built⟩
    exact ⟨_, _, _, _, logs, runs, rfl, Machine.tree_outAll _, Machine.stdout_outAll _⟩

theorem Ran.tree_of_not_ready {ending : Ending} (ran : Ran command machine ending after)
    (notReady : ∀ jobs patches, ¬ Ready command machine jobs patches) : after.tree = machine.tree := by
  cases ran with
  | unloaded _ => rfl
  | invalid _ _ logs => exact logs.tree_eq
  | unbuilt _ _ _ logs => exact (Machine.tree_outAll _).trans logs.tree_eq
  | failed loaded valid built _ _ _ => exact absurd ⟨loaded, valid, built⟩ (notReady _ _)
  | done loaded valid built _ _ => exact absurd ⟨loaded, valid, built⟩ (notReady _ _)

/-! ## What a run that goes through puts out -/

/-- Everything that is put out when all patches of a job file are done. -/
def shown (command : JobCommand) (jobs : JobFile) (outcomes : List Outcome) : String :=
  String.join ((command.opening jobs ++ outcomes.flatMap command.progress ++
    command.closing outcomes).map (· ++ "\n"))

/-- The command ended on a machine having put out the outcomes of a job file, one for each patch. -/
structure Reported (command : JobCommand) (machine : Machine) (jobs : JobFile) (outcomes : List Outcome)
    (after : Machine) : Prop where
  loaded : jobFileOn machine command.config = .ok jobs
  onePerPatch : ∃ patches, jobs.patches = .ok patches ∧
    outcomes.map (fun outcome => (outcome.kind, outcome.path, outcome.written)) =
      patches.map fun patch => (patch.kind, patch.target, !command.dryRun)
  stdout_eq : after.stdout = machine.stdout ++ command.shown jobs outcomes

theorem reported_of_runsAll {jobs : JobFile} {logged stopped : Machine}
    (loaded : jobFileOn machine command.config = .ok jobs)
    (built : jobs.patches = .ok patches) (logs : Logged machine logged)
    (runs : RunsAll command jobs.base (logged.outAll (command.opening jobs)) patches outcomes none stopped) :
    Reported command machine jobs outcomes (stopped.outAll (command.closing outcomes)) := by
  refine ⟨loaded, ⟨patches, built, runs.marks⟩, ?_⟩
  rw [Machine.stdout_outAll, runs.stdout_eq, Machine.stdout_outAll, logs.stdout_eq, shown]
  simp [String.append_assoc]

theorem Ran.reported (ran : Ran command machine (.exit 0) after) :
    ∃ jobs patches outcomes before stopped, Reported command machine jobs outcomes after ∧
      jobs.patches = .ok patches ∧ before.tree = machine.tree ∧
      RunsAll command jobs.base before patches outcomes none stopped := by
  generalize ended : Ending.exit 0 = ending at ran
  cases ran with
  | unloaded loaded => exact absurd (Ending.exit.inj ended).symm (Fault.exitCode_ne_zero _)
  | invalid loaded invalid logs => exact absurd (Ending.exit.inj ended).symm (Fault.exitCode_ne_zero _)
  | unbuilt loaded valid unbuilt logs => cases ended
  | failed loaded valid built logs runs told =>
    exact absurd (Ending.exit.inj ended).symm (Fault.exitCode_ne_zero _)
  | @done jobs patches logged outcomes stopped loaded valid built logs runs =>
    exact ⟨jobs, patches, outcomes, _, stopped, reported_of_runsAll loaded built logs runs, built,
      (Machine.tree_outAll _).trans logs.tree_eq, runs⟩

/-- A command goes through when all patches of its job file do, and reports what they report on the machine
that it started on. -/
theorem Ran.through {ending : Ending} {jobs : JobFile} (setup : Log.Setup)
    (ran : Ran command machine ending after) (loaded : jobFileOn machine command.config = .ok jobs)
    (valid : jobs.validate = .ok ()) (built : jobs.patches = .ok patches)
    (finished : (command.runAll Machine.host (Machine.host.storage setup jobs.base) patches machine).1.2 =
      none) :
    ending = .exit 0 ∧ Reported command machine jobs
      (command.runAll Machine.host (Machine.host.storage setup jobs.base) patches machine).1.1 after := by
  have runs := runsAll_runAll command setup jobs.base patches machine
  rw [finished] at runs
  obtain ⟨logged, outcomes, failure, stopped, logs, otherRuns, rfl, -, stdoutEq⟩ :=
    ran.of_ready ⟨loaded, valid, built⟩
  obtain ⟨same, rfl, -⟩ := runs.unique otherRuns ((Machine.tree_outAll _).trans logs.tree_eq) rfl
  rw [← same]
  have reported := reported_of_runsAll loaded built logs otherRuns
  refine ⟨rfl, reported.loaded, reported.onePerPatch, ?_⟩
  rw [stdoutEq, ← reported.stdout_eq, Machine.stdout_outAll]
  rfl

end JobCommand

end Patchwork
