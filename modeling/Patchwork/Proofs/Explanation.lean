import Patchwork.Proofs.JobCommand.Stopping
import Patchwork.Proofs.JobFile.OneSetting
import Patchwork.Proofs.JobFile.Validation
import Patchwork.Proofs.PatchCommand.AllOrNothing

/-!
# Faults that are explained

A command that a fault stops ends with the exit code of the fault, and writes a line with the friendly account of
it to the standard error output. One fault goes without that line: when a job file is valid and the search does
not take its marker, the command ends as it does with a fault that nobody handles. No search takes a marker of
400000 letters, so this does happen.
-/

set_option autoImplicit false

namespace Patchwork

/-! ## Lines in what was written -/

namespace Machine

/-- A line stands in a text: it begins where the text begins or after a line feed, and a line feed ends it. The
line may hold line feeds too, as the account of a value does in which there are some. -/
def HasLine (text line : String) : Prop :=
  ∃ earlier later, text = earlier ++ line ++ "\n" ++ later ∧
    (earlier = "" ∨ '\n' ∈ earlier.toList.getLast?)

/-- The line was written to the standard error output from the one machine to the other. -/
def Tells (before after : Machine) (line : String) : Prop :=
  ∃ written, after.stderr = before.stderr ++ written ∧ HasLine written line

variable {before after : Machine} {line written : String}

theorem tells_of_first (more : List String)
    (wrote : after.stderr = before.stderr ++ String.join ((line :: more).map (· ++ "\n"))) :
    before.Tells after line := by
  refine ⟨_, wrote, "", String.join (more.map (· ++ "\n")), ?_, .inl rfl⟩
  rw [List.map_cons, String.join_cons, String.empty_append]

private theorem not_tells_of_not_mem (c : Char) (wrote : after.stderr = before.stderr ++ written)
    (inLine : c ∈ line.toList) (notWritten : c ∉ written.toList) : ¬ before.Tells after line := by
  rintro ⟨other, otherwise, earlier, later, rfl, -⟩
  refine notWritten ?_
  have same := congrArg String.toList (wrote.symm.trans otherwise)
  simp only [String.toList_append, List.append_cancel_left_eq] at same
  simp [same, inLine]

end Machine

/-! ## The command that applies one patch -/

namespace PatchCommand

variable {command : PatchCommand} {machine after : Machine} {tree : FileTree} {ending : Ending}
  {fault other : Fault}

theorem Stops.unique [MarkerSearch] (stops : Stops command tree fault) (otherStops : Stops command tree other) :
    other = fault := by
  rcases stops.works with invalid | ⟨valid, works⟩
  · rcases otherStops.works with otherInvalid | ⟨valid, -⟩
    · exact Except.error.inj (otherInvalid.symm.trans invalid)
    · cases valid.symm.trans invalid
  · rcases otherStops.works with invalid | ⟨-, otherWorks⟩
    · cases valid.symm.trans invalid
    · exact Except.error.inj (works.unique otherWorks).1

theorem Ran.explained [MarkerSearch] (ran : Ran command machine ending after) :
    ending = .exit 0 ∨ ∃ fault, Stops command machine.tree fault ∧ ending = .exit fault.exitCode ∧
      machine.Tells after s!"❌ {fault.friendly}" := by
  cases ran with
  | @invalid fault _ invalid logs =>
    refine .inr ⟨fault, .invalid invalid, rfl, Machine.tells_of_first [] ?_⟩
    rw [Machine.stderr_emit, logs.stderr_eq]
    simp
  | @failed fault _ _ valid works logs =>
    refine .inr ⟨fault, works.stops valid, rfl, Machine.tells_of_first [s!"💡 {fault.suggestion}"] ?_⟩
    rw [Machine.stderr_emit, Machine.stderr_emit, logs.stderr_eq]
    simp [String.append_assoc, Machine.stderr]
  | done => exact .inl rfl

theorem Ran.exists_stops [MarkerSearch] (ran : Ran command machine ending after) (failed : ending ≠ .exit 0) :
    ∃ fault, Stops command machine.tree fault := by
  obtain zero | ⟨fault, stops, -⟩ := ran.explained
  · exact absurd zero failed
  · exact ⟨fault, stops⟩

theorem Ran.tells_of_stops [MarkerSearch] (ran : Ran command machine ending after)
    (stops : Stops command machine.tree fault) :
    ending = .exit fault.exitCode ∧ machine.Tells after s!"❌ {fault.friendly}" := by
  have code := ran.of_stops stops
  obtain zero | ⟨other, otherStops, -, tells⟩ := ran.explained
  · exact absurd (Ending.exit.inj (code.symm.trans zero)) (Fault.exitCode_ne_zero fault)
  · obtain rfl := stops.unique otherStops
    exact ⟨code, tells⟩

end PatchCommand

/-! ## The command that runs a job file -/

namespace JobCommand

variable {command : JobCommand} {machine after : Machine} {jobs : JobFile} {ending : Ending} {fault : Fault}

theorem Ran.explained [MarkerSearch] (ran : Ran command machine ending after)
    (loaded : jobFileOn machine command.config = .ok jobs) :
    (ending = .exit 0 ∧ ∀ fault, ¬ Stops command machine jobs fault) ∨
      ∃ fault, Stops command machine jobs fault ∧ ending = .exit fault.exitCode ∧
      (machine.Tells after s!"❌ {fault.friendly}" ↔ (jobs.validate = .ok () → Searchable jobs)) := by
  cases ran with
  | unloaded otherwise => cases loaded.symm.trans otherwise
  | @invalid _ fault _ otherLoaded invalid logs =>
    obtain rfl := Except.ok.inj (loaded.symm.trans otherLoaded)
    refine .inr ⟨fault, .invalid invalid, rfl, iff_of_true ?_ ?_⟩
    · refine Machine.tells_of_first [] ?_
      rw [Machine.stderr_emit, logs.stderr_eq]
      simp
    · intro valid
      cases valid.symm.trans invalid
  | @unbuilt _ fault logged otherLoaded valid unbuilt logs =>
    obtain rfl := Except.ok.inj (loaded.symm.trans otherLoaded)
    have unsearchable : ¬ Searchable jobs := by
      intro searchable
      cases unbuilt.symm.trans (patches_of_searchable searchable)
    obtain rfl := Except.error.inj (unbuilt.symm.trans (patches_of_not_searchable unsearchable))
    refine .inr ⟨_, .unbuilt valid unbuilt, rfl, iff_of_false ?_ fun searchable => unsearchable (searchable valid)⟩
    have wrote : ((logged.outAll (command.opening jobs)).emit
        (.err (Fault.patternTooBig MarkerSearch.patternLimit).unhandled)).stderr =
          machine.stderr ++ (Fault.patternTooBig MarkerSearch.patternLimit).unhandled := by
      rw [Machine.stderr_emit, Machine.stderr_outAll, logs.stderr_eq]
    exact Machine.not_tells_of_not_mem '❌' wrote (by decide +kernel) (by decide +kernel)
  | @failed _ _ _ _ _ fault _ _ otherLoaded valid built logs runs told =>
    obtain rfl := Except.ok.inj (loaded.symm.trans otherLoaded)
    obtain ⟨done, rest, left, rfl, completes, fails⟩ := runs.exists_failed
    rw [Machine.tree_outAll, logs.tree_eq] at completes
    refine .inr ⟨fault, .failed valid built completes fails, rfl, iff_of_true ?_ ?_⟩
    · refine Machine.tells_of_first [s!"💡 {fault.suggestion}"] ?_
      rw [Machine.stderr_emit, Machine.stderr_emit, told.stderr_eq, runs.stderr_eq, Machine.stderr_outAll,
        logs.stderr_eq]
      simp [String.append_assoc]
    · intro _
      by_contra unsearchable
      cases built.symm.trans (patches_of_not_searchable unsearchable)
  | done otherLoaded valid built logs runs =>
    obtain rfl := Except.ok.inj (loaded.symm.trans otherLoaded)
    refine .inl ⟨rfl, fun fault => Stops.not_of_done valid built runs ?_⟩
    rw [Machine.tree_outAll, logs.tree_eq]

theorem Ran.exists_stops [MarkerSearch] (ran : Ran command machine ending after)
    (loaded : jobFileOn machine command.config = .ok jobs) (failed : ending ≠ .exit 0) :
    ∃ fault, Stops command machine jobs fault := by
  obtain ⟨zero, -⟩ | ⟨fault, stops, -⟩ := ran.explained loaded
  · exact absurd zero failed
  · exact ⟨fault, stops⟩

theorem Ran.tells_iff_of_stops [MarkerSearch] (ran : Ran command machine ending after)
    (loaded : jobFileOn machine command.config = .ok jobs) (stops : Stops command machine jobs fault) :
    ending = .exit fault.exitCode ∧
      (machine.Tells after s!"❌ {fault.friendly}" ↔ (jobs.validate = .ok () → Searchable jobs)) := by
  obtain ⟨-, noneStops⟩ | ⟨other, otherStops, code, tells⟩ := ran.explained loaded
  · exact absurd stops (noneStops fault)
  · obtain rfl := stops.unique otherStops
    exact ⟨code, tells⟩

end JobCommand

/-! ## Both commands -/

/-- Whenever a command ends with another exit code than zero, a fault stops it. It ends with the exit code of that
fault and writes a line with the friendly account of it. The command that runs a job file omits the line exactly
when the file is valid and the search does not take its marker. -/
theorem faults_explained_unless_unsearchable [MarkerSearch] (chosen : Option Log.Filter) (machine : Machine)
    (arguments : List String) :
    (∀ command, PatchCommand.parse arguments = .ok command →
      let ran := PatchCommand.run Machine.host chosen arguments machine
      (ran.1 ≠ .exit 0 → ∃ fault, PatchCommand.Stops command machine.tree fault) ∧
      ∀ fault, PatchCommand.Stops command machine.tree fault →
        ran.1 = .exit fault.exitCode ∧ machine.Tells ran.2 s!"❌ {fault.friendly}") ∧
    ∀ command jobs, JobCommand.parse arguments = .ok command →
      JobCommand.jobFileOn machine command.config = .ok jobs →
      let ran := JobCommand.run Machine.host chosen arguments machine
      (ran.1 ≠ .exit 0 → ∃ fault, JobCommand.Stops command machine jobs fault) ∧
      ∀ fault, JobCommand.Stops command machine jobs fault →
        ran.1 = .exit fault.exitCode ∧
        (machine.Tells ran.2 s!"❌ {fault.friendly}" ↔
          (jobs.validate = .ok () → JobCommand.Searchable jobs)) := by
  constructor
  · intro command parsed ran
    have ends : PatchCommand.Ran command machine ran.1 ran.2 := PatchCommand.ran_run parsed chosen machine
    exact ⟨ends.exists_stops, fun fault => ends.tells_of_stops⟩
  · intro command jobs parsed loaded ran
    have ends : JobCommand.Ran command machine ran.1 ran.2 := JobCommand.ran_run parsed chosen machine
    exact ⟨ends.exists_stops loaded, fun fault => ends.tells_iff_of_stops loaded⟩

open JobCommand (defaultConfig machineOfTwoJobs twoJobs) in
/-- Neither target exists: not the default one of the build script, and not the one of the second job. -/
theorem faults_explained_missing_targets :
    let command : PatchCommand := ⟨".", false, false, false, .buildFix none none none none⟩
    let jobCommand : JobCommand := ⟨defaultConfig, false, false, false⟩
    PatchCommand.parse ["build-fix"] = .ok command ∧ JobCommand.parse [] = .ok jobCommand ∧
      JobCommand.jobFileOn (machineOfTwoJobs "h") defaultConfig = .ok (twoJobs "h") ∧
      (∃ fault, PatchCommand.Stops command (machineOfTwoJobs "h").tree fault ∧ fault.exitCode = 3 ∧
        (machineOfTwoJobs "h").Tells (PatchCommand.run Machine.host none ["build-fix"] (machineOfTwoJobs "h")).2
          s!"❌ {fault.friendly}") ∧
      ∃ fault, JobCommand.Stops jobCommand (machineOfTwoJobs "h") (twoJobs "h") fault ∧ fault.exitCode = 3 ∧
        (machineOfTwoJobs "h").Tells (JobCommand.run Machine.host none [] (machineOfTwoJobs "h")).2
          s!"❌ {fault.friendly}" := by
  intro command jobCommand
  have parsed : PatchCommand.parse ["build-fix"] = .ok command := rfl
  have jobsParsed : JobCommand.parse [] = .ok jobCommand := rfl
  have three : (PatchCommand.run Machine.host none ["build-fix"] (machineOfTwoJobs "h")).1 = .exit 3 := by
    decide +kernel
  have jobsThree : (JobCommand.run Machine.host none [] (machineOfTwoJobs "h")).1 = .exit 3 := by decide +kernel
  have searchable : JobCommand.Searchable (twoJobs "h") := by
    rintro job ⟨⟩
    decide
  refine ⟨parsed, jobsParsed, JobCommand.jobFileOn_missing_file, ?_, ?_⟩
  · obtain ⟨existsStops, explains⟩ :=
      (faults_explained_unless_unsearchable none (machineOfTwoJobs "h") ["build-fix"]).1 command parsed
    obtain ⟨fault, stops⟩ := existsStops (by rw [three]; decide)
    obtain ⟨code, tells⟩ := explains fault stops
    exact ⟨fault, stops, Ending.exit.inj (code.symm.trans three), tells⟩
  · obtain ⟨existsStops, explains⟩ := (faults_explained_unless_unsearchable none (machineOfTwoJobs "h") []).2
      jobCommand (twoJobs "h") jobsParsed JobCommand.jobFileOn_missing_file
    obtain ⟨fault, stops⟩ := existsStops (by rw [jobsThree]; decide)
    obtain ⟨code, tells⟩ := explains fault stops
    exact ⟨fault, stops, Ending.exit.inj (code.symm.trans jobsThree), tells.2 fun _ => searchable⟩

/-! ### A marker that no search takes -/

namespace JobCommand

def longMarker (length : Nat) : List Char := List.replicate length 'a'

/-- A machine whose only file is a job file with such a marker. -/
def machineOfMarker (length : Nat) : Machine where
  tree :=
    { entries := [([defaultConfig], .file
        (JobFile.settingText "workflow".toList "marker".toList (longMarker length)).toUTF8)]
      workingDirectory := [] }
  environment := fun _ => none
  transcript := []

def jobsOfMarker (length : Nat) : JobFile where
  baseDirectory := none
  workflow := some ⟨none, some (String.ofList (longMarker length)), none⟩
  buildFix := none
  logging := none

private theorem jobFileOn_machineOfMarker (length : Nat) :
    jobFileOn (machineOfMarker length) defaultConfig = .ok (jobsOfMarker length) := by
  have located : (machineOfMarker length).tree.locate defaultConfig = .ok [defaultConfig] := rfl
  have held : (machineOfMarker length).tree.read defaultConfig =
      .ok (JobFile.settingText "workflow".toList "marker".toList (longMarker length)) := by
    rw [FileTree.read_of_locate located]
    exact FileTree.contentOf_toUTF8 _
  have unescaped : Toml.Unescaped (longMarker length) := by
    intro c here
    rw [List.eq_of_mem_replicate here]
    decide
  have noDollar : '$' ∉ longMarker length := by
    intro here
    cases List.eq_of_mem_replicate here
  rw [jobFileOn, held]
  exact JobFile.ofText_marker unescaped noDollar _

private theorem validate_jobsOfMarker {length : Nat} (nonempty : 0 < length) :
    (jobsOfMarker length).validate = .ok () := by
  have base : Validation.path "base_dir" "." = .ok () :=
    Validation.path_eq_ok_iff.2 ⟨by decide, by decide⟩
  have target : Validation.path "workflow.path" StepInsertion.defaultTarget = .ok () :=
    Validation.path_eq_ok_iff.2 ⟨by decide, by decide⟩
  have marker : Validation.singleLine "workflow.marker" (String.ofList (longMarker length)) = .ok () := by
    rw [Validation.singleLine_eq_ok_iff, String.toList_ofList]
    refine ⟨⟨'a', List.mem_replicate.2 ⟨by omega, rfl⟩, by decide⟩, ?_, ?_⟩
    all_goals
      intro here
      cases List.eq_of_mem_replicate here
  rw [jobsOfMarker, JobFile.validate_of_workflow, Option.getD_none, base, WorkflowSection.validate_of_no_step,
    WorkflowSection.validatePlace]
  simp only [WorkflowSection.target, WorkflowSection.markerText, Option.getD_none, Option.getD_some, target,
    marker]
  rfl

private theorem utf8ByteSize_longMarker (length : Nat) :
    (String.ofList (longMarker length)).utf8ByteSize = length := by
  induction length with
  | zero => rfl
  | succ length inductionHypothesis =>
    have one : (String.singleton 'a').utf8ByteSize = 1 := by decide
    rw [longMarker, List.replicate_succ, String.ofList_cons, String.utf8ByteSize_append, one, ← longMarker,
      inductionHypothesis, Nat.add_comm]

private theorem not_searchable_jobsOfMarker [MarkerSearch] {length : Nat} (long : 400000 ≤ length) :
    ¬ Searchable (jobsOfMarker length) := by
  intro searchable
  have taken : MarkerSearch.accepts (String.ofList (longMarker length)) = true := searchable _ rfl
  rw [MarkerSearch.refuses_of_long (by rwa [utf8ByteSize_longMarker])] at taken
  cases taken

private theorem not_tells_of_long [MarkerSearch] {length : Nat} (long : 400000 ≤ length) :
    let machine := machineOfMarker length
    let command : JobCommand := ⟨defaultConfig, false, false, true⟩
    let fault := Fault.patternTooBig MarkerSearch.patternLimit
    let ran := run Machine.host (some .off) ["--json"] machine
    parse ["--json"] = .ok command ∧ jobFileOn machine command.config = .ok (jobsOfMarker length) ∧
      Stops command machine (jobsOfMarker length) fault ∧ ran.1 = .exit fault.exitCode ∧
      ¬ machine.Tells ran.2 s!"❌ {fault.friendly}" := by
  intro machine command fault ran
  have nonempty : 0 < length := by omega
  have parsed : parse ["--json"] = .ok command := rfl
  have loaded : jobFileOn machine command.config = .ok (jobsOfMarker length) :=
    jobFileOn_machineOfMarker length
  have valid : (jobsOfMarker length).validate = .ok () := validate_jobsOfMarker nonempty
  have unsearchable : ¬ Searchable (jobsOfMarker length) := not_searchable_jobsOfMarker long
  have stops : Stops command machine (jobsOfMarker length) fault :=
    .unbuilt valid (patches_of_not_searchable unsearchable)
  have ends : Ran command machine ran.1 ran.2 := ran_run parsed (some .off) machine
  obtain ⟨code, tells⟩ := ends.tells_iff_of_stops loaded stops
  exact ⟨parsed, loaded, stops, code, fun told => unsearchable (tells.1 told valid)⟩

theorem long_marker_not_explained :
    let machine := machineOfMarker 400000
    let command : JobCommand := ⟨defaultConfig, false, false, true⟩
    let fault := Fault.patternTooBig MarkerSearch.patternLimit
    let ran := run Machine.host (some .off) ["--json"] machine
    parse ["--json"] = .ok command ∧ jobFileOn machine command.config = .ok (jobsOfMarker 400000) ∧
      Stops command machine (jobsOfMarker 400000) fault ∧ ran.1 = .exit fault.exitCode ∧
      ¬ machine.Tells ran.2 s!"❌ {fault.friendly}" :=
  not_tells_of_long (Nat.le_refl _)

end JobCommand

end Patchwork
