import Patchwork.Proofs.JobCommand.DryRun
import Patchwork.Proofs.JobCommand.InOrder
import Patchwork.Proofs.Outcome.Report

/-!
# The two modes of output

The command puts out a summary of each patch as soon as it is done, or, as JSON, all outcomes at the end. In both
modes the same patches go through and the command ends in the same way. The outcomes are put out as JSON only when
no patch failed.
-/

set_option autoImplicit false

namespace Patchwork

/-- A text that was put out gives outcomes as JSON: it is the array of them, or there is no text and there are
no outcomes. -/
def Outcome.GivenBy (outcomes : List Outcome) (text : String) : Prop :=
  text = "" ∧ outcomes = [] ∨ Json.read? text = some (.array (outcomes.map Outcome.toJson))

theorem Outcome.givenBy_nothing_iff {outcomes : List Outcome} : Outcome.GivenBy outcomes "" ↔ outcomes = [] := by
  constructor
  · rintro (⟨-, none⟩ | read)
    · exact none
    · cases read
  · intro none
    exact .inl ⟨rfl, none⟩

namespace JobCommand

variable {command : JobCommand} {machine after : Machine} {jobs : JobFile} {base : String}
  {tree between : FileTree} {patches : List Patch} {outcomes : List Outcome} {ending : Ending}

/-! ## Files of patches that went through -/

theorem Completes.keeps {first : FileTree} {changed : List String}
    (completes : Completes base false tree patches outcomes between) (keeps : first.Keeps changed tree) :
    first.Keeps (changed ++ changedPaths base outcomes) between := by
  induction completes generalizing changed with
  | none =>
    rw [changedPaths, List.filter_nil, List.map_nil, List.append_nil]
    exact keeps
  | next ran _ inductionHypothesis =>
    have kept := inductionHypothesis ((Machine.runs_of_engineOn ran).keeps keeps)
    rwa [List.append_assoc, ← changedPaths_append, List.singleton_append] at kept

/-! ## What the jobs come to -/

/-- The job file of the command, if it is valid. -/
def accepted (command : JobCommand) (machine : Machine) : Except Fault JobFile := do
  let jobs ← jobFileOn machine command.config
  jobs.validate
  return jobs

/-- What the jobs of the command come to on a machine: outcomes, an ending and a tree. -/
inductive Settles [MarkerSearch] (command : JobCommand) (machine : Machine) :
    List Outcome → Ending → FileTree → Prop where
  | refused {fault} (refused : (command.accepted machine >>= JobFile.patches) = .error fault) :
      Settles command machine [] (.exit fault.exitCode) machine.tree
  | ran {jobs done left outcomes ending after} (accepted : command.accepted machine = .ok jobs)
      (built : jobs.patches = .ok (done ++ left))
      (completes : Completes jobs.base command.dryRun machine.tree done outcomes after)
      (ends : EndsWith jobs.base command.dryRun after left ending) :
      Settles command machine outcomes ending after

theorem Settles.unique [MarkerSearch] {otherOutcomes : List Outcome} {otherEnding : Ending} {otherTree : FileTree}
    (settles : Settles command machine outcomes ending tree)
    (otherSettles : Settles command machine otherOutcomes otherEnding otherTree) :
    otherOutcomes = outcomes ∧ otherEnding = ending ∧ otherTree = tree := by
  cases settles with
  | refused refused =>
    cases otherSettles with
    | refused otherRefused =>
      obtain rfl := Except.error.inj (otherRefused.symm.trans refused)
      exact ⟨rfl, rfl, rfl⟩
    | ran accepted built _ _ =>
      rw [accepted] at refused
      cases built.symm.trans refused
  | ran accepted built completes ends =>
    cases otherSettles with
    | refused refused =>
      rw [accepted] at refused
      cases built.symm.trans refused
    | ran otherAccepted otherBuilt otherCompletes otherEnds =>
      obtain rfl := Except.ok.inj (accepted.symm.trans otherAccepted)
      obtain ⟨rfl, rfl, rfl⟩ := completes.unique ends otherCompletes otherEnds
        (Except.ok.inj (built.symm.trans otherBuilt))
      exact ⟨rfl, ends.unique otherEnds, rfl⟩

/-- The command with other reporting. -/
def withReporting (command : JobCommand) (json verbose : Bool) : JobCommand :=
  { command with json := json, verbose := verbose }

theorem Settles.of_withReporting [MarkerSearch] {json verbose : Bool}
    (settles : Settles (command.withReporting json verbose) machine outcomes ending tree) :
    Settles command machine outcomes ending tree := by
  cases settles with
  | refused refused => exact .refused refused
  | ran accepted built completes ends => exact .ran accepted built completes ends

theorem Settles.of_mode [MarkerSearch] {json : Bool}
    (settles : Settles { command with json := json } machine outcomes ending tree) :
    Settles command machine outcomes ending tree := by
  have other : Settles (command.withReporting json command.verbose) machine outcomes ending tree := settles
  exact other.of_withReporting

theorem Settles.exists_outcome_of_read_ne [MarkerSearch]
    (settles : Settles command machine outcomes ending tree) {path : String}
    (differs : tree.read path ≠ machine.tree.read path) :
    ∃ jobs, command.accepted machine = .ok jobs ∧ ∃ outcome ∈ outcomes, outcome.changed = true ∧
      machine.tree.SameFile (Path.join jobs.base outcome.path) path := by
  cases settles with
  | refused => exact absurd rfl differs
  | @ran jobs _ _ _ _ _ accepted _ completes _ =>
    refine ⟨jobs, accepted, ?_⟩
    cases mode : command.dryRun with
    | true =>
      rw [mode] at completes
      rw [completes.tree_of_dry] at differs
      exact absurd rfl differs
    | false =>
      rw [mode] at completes
      by_contra none
      refine differs ((completes.keeps (FileTree.Keeps.refl _)).unchanged path ?_)
      intro other member
      obtain ⟨outcome, here, rfl⟩ := List.mem_map.1 member
      obtain ⟨among, changed⟩ := List.mem_filter.1 here
      exact fun same => none ⟨outcome, among, changed, same⟩

/-! ## What is put out about it -/

/-- The overview of the job file, if it is accepted. -/
def heading (command : JobCommand) (machine : Machine) : List String :=
  match command.accepted machine with
  | .ok jobs => command.overview jobs
  | .error _ => []

theorem heading_of_mode (json : Bool) :
    ({ command with json := json } : JobCommand).heading machine = command.heading machine := rfl

/-- All lines that are put out on the way to an ending. -/
def output (command : JobCommand) (machine : Machine) (outcomes : List Outcome) (ending : Ending) : List String :=
  (if command.json then [] else command.heading machine) ++ outcomes.flatMap command.progress ++
    if ending = .exit 0 then command.closing outcomes else []

theorem accepted_of_valid (loaded : jobFileOn machine command.config = .ok jobs)
    (valid : jobs.validate = .ok ()) : command.accepted machine = .ok jobs := by
  rw [accepted, loaded]
  exact congrArg (· >>= fun _ => pure jobs) valid

private theorem settles_of_not_accepted [MarkerSearch] {fault : Fault}
    (refused : command.accepted machine = .error fault)
    (sameTree : after.tree = machine.tree) (silent : after.stdout = machine.stdout) :
    ∃ outcomes, Settles command machine outcomes (.exit fault.exitCode) after.tree ∧
      after.stdout = machine.stdout ++ String.join
        ((command.output machine outcomes (.exit fault.exitCode)).map (· ++ "\n")) := by
  refine ⟨[], ?_, ?_⟩
  · rw [sameTree]
    refine .refused ?_
    rw [refused]
    rfl
  · rw [silent, output, heading, refused]
    simp [Fault.exitCode_ne_zero]

private theorem Ran.settles_of_ready [MarkerSearch] (ran : Ran command machine ending after)
    (ready : Ready command machine jobs patches) :
    ∃ outcomes, Settles command machine outcomes ending after.tree ∧
      after.stdout = machine.stdout ++ String.join ((command.output machine outcomes ending).map (· ++ "\n")) := by
  obtain ⟨logged, outcomes, failure, stopped, logs, runs, endingEq, treeEq, stdoutEq⟩ := ran.of_ready ready
  obtain ⟨done, left, rfl, completes, ends⟩ := runs.completes
  rw [Machine.tree_outAll, logs.tree_eq, ← treeEq] at completes
  rw [← treeEq, ← endingEq] at ends
  have accepted := accepted_of_valid ready.loaded ready.valid
  have finished : failure.isNone = true ↔ ending = .exit 0 := by
    rw [endingEq]
    cases failure with
    | none => simp [endingOf]
    | some stop => simp [endingOf, Fault.exitCode_ne_zero]
  refine ⟨outcomes, .ran accepted ready.built completes ends, ?_⟩
  rw [stdoutEq, runs.stdout_eq, Machine.stdout_outAll, logs.stdout_eq, output, heading, accepted]
  simp [opening, finished, String.append_assoc]

theorem Ran.settles [MarkerSearch] (ran : Ran command machine ending after) :
    ∃ outcomes, Settles command machine outcomes ending after.tree ∧
      after.stdout = machine.stdout ++ String.join ((command.output machine outcomes ending).map (· ++ "\n")) := by
  have whole := ran
  cases ran with
  | @unloaded fault loaded =>
    have refused : command.accepted machine = .error fault := by
      rw [accepted, loaded]
      rfl
    refine settles_of_not_accepted refused rfl ?_
    rw [Machine.stdout_emit, Machine.stdout_emit, String.append_empty, String.append_empty]
  | @invalid jobs fault _ loaded invalid logs =>
    have refused : command.accepted machine = .error fault := by
      rw [accepted, loaded]
      exact congrArg (· >>= fun _ => pure jobs) invalid
    refine settles_of_not_accepted refused logs.tree_eq ?_
    rw [Machine.stdout_emit, logs.stdout_eq, String.append_empty]
  | @unbuilt jobs fault _ loaded valid unbuilt logs =>
    have accepted := accepted_of_valid loaded valid
    have one : fault.exitCode = 1 := by
      by_cases searchable : Searchable jobs
      · cases unbuilt.symm.trans (patches_of_searchable searchable)
      · obtain rfl := Except.error.inj (unbuilt.symm.trans (patches_of_not_searchable searchable))
        rfl
    refine ⟨[], ?_, ?_⟩
    · rw [Machine.tree_emit, Machine.tree_outAll, logs.tree_eq, ← one]
      refine .refused ?_
      rw [accepted]
      exact unbuilt
    · rw [Machine.stdout_emit, Machine.stdout_outAll, logs.stdout_eq, output, heading, accepted]
      simp [opening]
  | failed loaded valid built _ _ _ => exact whole.settles_of_ready ⟨loaded, valid, built⟩
  | done loaded valid built _ _ => exact whole.settles_of_ready ⟨loaded, valid, built⟩

theorem output_of_plain (plain : command.json = false) :
    command.output machine outcomes ending =
      command.heading machine ++ outcomes.map fun outcome => s!"✅ {outcome.summary}" := by
  have oneLine : command.progress = fun outcome => [s!"✅ {outcome.summary}"] := by
    funext outcome
    rw [progress, plain, if_neg Bool.false_ne_true]
  rw [output, oneLine, ← List.map_eq_flatMap, plain]
  simp [closing, plain]

theorem output_of_json (json : command.json = true) :
    command.output machine outcomes ending =
      if ending = .exit 0 then [Outcome.reportAll outcomes] else [] := by
  have noLine : command.progress = fun _ => [] := by
    funext outcome
    rw [progress, json, if_pos rfl]
  rw [output, noLine, json]
  simp [closing, json]

/-! ## Both modes -/

/-- What is common to a run without JSON and a run with it: the outcomes, of which the one run puts out a line
each and the other an array if it goes through. -/
structure Alike [MarkerSearch] (command : JobCommand) (machine : Machine) (ran jsonRan : Ending × Machine)
    (outcomes : List Outcome) : Prop where
  settles : Settles command machine outcomes ran.1 ran.2.tree
  sameEnding : jsonRan.1 = ran.1
  sameTree : jsonRan.2.tree = ran.2.tree
  lines : ran.2.stdout = machine.stdout ++ String.join
    ((command.heading machine ++ outcomes.map fun outcome => s!"✅ {outcome.summary}").map (· ++ "\n"))
  array : ∃ text, jsonRan.2.stdout = machine.stdout ++ text ∧ (ran.1 ≠ .exit 0 → text = "") ∧
    (Outcome.GivenBy outcomes text ↔ ran.1 = .exit 0 ∨ outcomes = [])

/-- The command ends in the same way and leaves the same tree whether it puts out JSON or not, and every file that
has another text then is the file of one of the outcomes. Without JSON there is a line for each of them. As JSON
they are put out exactly when no patch failed, or when there are none. -/
theorem outcomes_given_alike_unless_stopped [MarkerSearch] {arguments jsonArguments : List String}
    {command : JobCommand}
    (parsed : parse arguments = .ok { command with json := false })
    (jsonParsed : parse jsonArguments = .ok { command with json := true })
    (chosen : Option Log.Filter) (machine : Machine) :
    let ran := run Machine.host chosen arguments machine
    ∃ outcomes, Alike command machine ran (run Machine.host chosen jsonArguments machine) outcomes ∧
      ∀ path, ran.2.tree.read path ≠ machine.tree.read path →
        ∃ jobs, command.accepted machine = .ok jobs ∧ ∃ outcome ∈ outcomes, outcome.changed = true ∧
          machine.tree.SameFile (Path.join jobs.base outcome.path) path := by
  intro ran
  have ends : Ran { command with json := false } machine ran.1 ran.2 := ran_run parsed chosen machine
  obtain ⟨outcomes, settles, stdoutEq⟩ := ends.settles
  obtain ⟨jsonOutcomes, jsonSettles, jsonStdoutEq⟩ := (ran_run jsonParsed chosen machine).settles
  have settled : Settles command machine outcomes ran.1 ran.2.tree := settles.of_mode
  obtain ⟨rfl, sameEnding, sameTree⟩ := settled.unique jsonSettles.of_mode
  rw [output_of_plain rfl, heading_of_mode] at stdoutEq
  rw [output_of_json rfl, sameEnding] at jsonStdoutEq
  refine ⟨jsonOutcomes, ⟨settled, sameEnding, sameTree, stdoutEq, _, jsonStdoutEq, ?_, ?_⟩,
    fun path => settled.exists_outcome_of_read_ne⟩
  · intro stopped
    rw [if_neg stopped]
    rfl
  · by_cases finished : ran.1 = .exit 0
    · have read := Outcome.read?_reportAll_line jsonOutcomes
      rw [if_pos finished, List.map_singleton, String.join_cons, String.join_nil, String.append_empty]
      exact iff_of_true (.inr read) (.inl finished)
    · rw [if_neg finished, List.map_nil, String.join_nil, Outcome.givenBy_nothing_iff]
      exact (or_iff_right finished).symm

/-! ### Two files, and one that is missing -/

theorem settles_twoJobs [MarkerSearch] {buildTarget : String}
    (loaded : jobFileOn (machineOfTwoJobs buildTarget) defaultConfig = .ok (twoJobs buildTarget))
    (valid : (twoJobs buildTarget).validate = .ok ()) :
    ∃ tree, Settles (reportCommand false) (machineOfTwoJobs buildTarget) (outcomesOfTwoJobs false buildTarget).1
      (endingOf (outcomesOfTwoJobs false buildTarget).2) tree := by
  obtain ⟨done, left, whole, completes, ends⟩ := (runsAll_runAll (reportCommand false) ⟨[], .compact⟩
    (twoJobs buildTarget).base (twoPatches buildTarget) (machineOfTwoJobs buildTarget)).completes
  have built : (twoJobs buildTarget).patches = .ok (done ++ left) := by
    rw [patches_twoJobs, whole]
  unfold outcomesOfTwoJobs
  exact ⟨_, .ran (accepted_of_valid loaded valid) built completes ends⟩

private theorem outcomes_two_files : outcomesOfTwoJobs false "g" =
    ([⟨.workflowPermissions, "f", 1, 2, 3, true, true⟩, ⟨.buildFix, "g", 0, 1, 1, false, true⟩], none) := by
  exact Prod.ext (by decide +kernel) (Option.isNone_iff_eq_none.1 (by decide +kernel))

private theorem outcomes_missing_file :
    (outcomesOfTwoJobs false "h").1 = [⟨.workflowPermissions, "f", 1, 2, 3, true, true⟩] ∧
      endingOf (outcomesOfTwoJobs false "h").2 = .exit 3 := by
  constructor <;> decide +kernel

/-- Both jobs go through, so their outcomes stand in the array as well. -/
theorem outcomes_given_alike_two_files :
    let outcomes : List Outcome :=
      [⟨.workflowPermissions, "f", 1, 2, 3, true, true⟩, ⟨.buildFix, "g", 0, 1, 1, false, true⟩]
    parse [] = .ok { reportCommand false with json := false } ∧
      parse ["--json"] = .ok { reportCommand false with json := true } ∧
      (run Machine.host none [] (machineOfTwoJobs "g")).1 = .exit 0 ∧
      Alike (reportCommand false) (machineOfTwoJobs "g") (run Machine.host none [] (machineOfTwoJobs "g"))
        (run Machine.host none ["--json"] (machineOfTwoJobs "g")) outcomes ∧
      ∃ text, (run Machine.host none ["--json"] (machineOfTwoJobs "g")).2.stdout =
        (machineOfTwoJobs "g").stdout ++ text ∧ Outcome.GivenBy outcomes text := by
  intro outcomes
  have parsed : parse [] = .ok { reportCommand false with json := false } := rfl
  obtain ⟨tree, settles⟩ := settles_twoJobs jobFileOn_two_files (by decide)
  rw [outcomes_two_files] at settles
  obtain ⟨settled, alike, -⟩ := outcomes_given_alike_unless_stopped parsed parse_json none (machineOfTwoJobs "g")
  obtain ⟨rfl, finished, -⟩ := settles.unique alike.settles
  obtain ⟨text, stdoutEq, -, inArray⟩ := alike.array
  exact ⟨parsed, parse_json, finished, alike, text, stdoutEq, inArray.2 (.inl finished)⟩

/-- The second job fails. The outcome of the first one, which wrote its file, has its line without JSON, while as
JSON nothing is put out. -/
theorem outcome_not_given_when_next_fails :
    let outcome : Outcome := ⟨.workflowPermissions, "f", 1, 2, 3, true, true⟩
    parse [] = .ok { reportCommand false with json := false } ∧
      parse ["--json"] = .ok { reportCommand false with json := true } ∧
      (run Machine.host none [] (machineOfTwoJobs "h")).2.stdout = (machineOfTwoJobs "h").stdout ++ String.join
        (((reportCommand false).heading (machineOfTwoJobs "h") ++ [s!"✅ {outcome.summary}"]).map (· ++ "\n")) ∧
      (run Machine.host none ["--json"] (machineOfTwoJobs "h")).2.tree.read "f" = .ok "a\nd\n m\n" ∧
      (run Machine.host none ["--json"] (machineOfTwoJobs "h")).2.stdout = (machineOfTwoJobs "h").stdout ∧
      ¬ Outcome.GivenBy [outcome] "" := by
  intro outcome
  have parsed : parse [] = .ok { reportCommand false with json := false } := rfl
  obtain ⟨tree, settles⟩ := settles_twoJobs jobFileOn_missing_file (by decide)
  rw [outcomes_missing_file.1, outcomes_missing_file.2] at settles
  obtain ⟨outcomes, plainSettles, stdoutEq⟩ := (ran_run parsed none (machineOfTwoJobs "h")).settles
  obtain ⟨jsonOutcomes, jsonSettles, jsonStdoutEq⟩ := (ran_run parse_json none (machineOfTwoJobs "h")).settles
  obtain ⟨rfl, -, -⟩ := settles.unique plainSettles.of_mode
  obtain ⟨-, three, -⟩ := settles.unique jsonSettles
  rw [output_of_plain rfl, heading_of_mode] at stdoutEq
  rw [output_of_json rfl, three, if_neg (by decide), List.map_nil, String.join_nil, String.append_empty]
    at jsonStdoutEq
  refine ⟨parsed, parse_json, stdoutEq, by decide +kernel, jsonStdoutEq, ?_⟩
  rw [Outcome.givenBy_nothing_iff]
  exact List.cons_ne_nil _ _

end JobCommand

end Patchwork
