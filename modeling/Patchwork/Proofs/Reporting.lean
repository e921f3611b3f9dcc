import Patchwork.Proofs.CommandLine.Flags
import Patchwork.Proofs.JobCommand.OutputModes
import Patchwork.Proofs.PatchCommand.AllOrNothing
import Patchwork.Proofs.PatchCommand.Written

/-!
# Options that only report

Whether outcomes are put out as JSON and how much is logged has no bearing on the work. Two accepted command lines
that differ only in the flags for it end in the same way and leave the same tree, and put out the same if only the
flag for the log differs.
-/

set_option autoImplicit false

namespace Patchwork

open CommandLine
open Fault (exists_of_bind_eq_ok)
open JobCommand (machineOfTwoJobs)

/-- The flags that only report. -/
def reportingFlags : List Setting := [.json, .verbose]

variable {flags : List Setting} {arguments otherArguments : List String}

theorem isFlag_of_reporting (subset : flags ⊆ reportingFlags) : ∀ flag ∈ flags, flag.isFlag = true := by
  have every : ∀ flag ∈ reportingFlags, flag.isFlag = true := by decide
  exact fun flag member => every flag (subset member)

/-! ## The command that applies one patch -/

namespace PatchRequest

variable {request other : PatchRequest}

private theorem settings_ofEntries_eq_of_name_eq (same : other.name = request.name) :
    other.settings = request.settings ∧ other.ofEntries = request.ofEntries := by
  cases request <;> cases other <;> first
    | exact ⟨rfl, rfl⟩
    | simp [name] at same

private theorem ofEntries_alike {after otherAfter : Entries} (subset : flags ⊆ reportingFlags)
    (alike : AlikeBut flags after otherAfter) : request.ofEntries otherAfter = request.ofEntries after := by
  have same : ∀ setting ∉ reportingFlags, otherAfter.get? setting = after.get? setting :=
    fun setting other => alike setting fun member => other (subset member)
  cases request with
  | workflow =>
    change PatchCommand.workflowRequest _ = PatchCommand.workflowRequest _
    rw [PatchCommand.workflowRequest, PatchCommand.workflowRequest, same .path (by decide),
      same .marker (by decide), same .stepFile (by decide)]
  | buildFix =>
    change PatchCommand.buildFixRequest _ = PatchCommand.buildFixRequest _
    rw [PatchCommand.buildFixRequest, PatchCommand.buildFixRequest, same .path (by decide),
      same .threshold (by decide), same .permissionMarker (by decide), same .duplicateMarker (by decide)]

end PatchRequest

namespace PatchCommand

variable {command other : PatchCommand} {machine after otherAfter : Machine} {ending otherEnding : Ending}

/-- What was read when a command line is accepted. -/
structure ReadAs (command : PatchCommand) (arguments : List String) (reading : Reading) (rest : List String)
    (own : Entries) : Prop where
  read : CommandLine.read commonSettings .empty arguments = .ok reading
  notClosed : reading.closed = false
  named : reading.rest = command.request.name :: rest
  readOwn : readAll (commonSettings ++ command.request.settings) rest = .ok own
  made : command = ofEntries ⟨reading.entries.all, none⟩ own (command.request.ofEntries own)

private theorem exists_of_parseRequest_eq_ok {before : Entries} {settings : List Setting}
    {request : Entries → PatchRequest}
    {rest : List String} (parsed : parseRequest before settings request rest = .ok command) :
    ∃ own, readAll (commonSettings ++ settings) rest = .ok own ∧
      command = ofEntries ⟨before.all, none⟩ own (request own) := by
  obtain ⟨own, readOwn, parsed⟩ := exists_of_bind_eq_ok parsed
  have made := Entries.settle_bind_eq_ok parsed
  exact ⟨own, readOwn, (Except.ok.inj made).symm⟩

private theorem exists_readAs (parsed : parse arguments = .ok command) :
    ∃ reading rest own, command.ReadAs arguments reading rest own := by
  obtain ⟨reading, read, parsed⟩ := exists_of_bind_eq_ok parsed
  cases closed : reading.closed with
  | true =>
    rw [closed] at parsed
    cases parsed
  | false =>
    rw [closed, if_neg Bool.false_ne_true] at parsed
    split at parsed
    · cases parsed
    · next rest named =>
      obtain ⟨own, readOwn, rfl⟩ := exists_of_parseRequest_eq_ok parsed
      exact ⟨reading, rest, own, read, closed, named, readOwn, rfl⟩
    · next rest named =>
      obtain ⟨own, readOwn, rfl⟩ := exists_of_parseRequest_eq_ok parsed
      exact ⟨reading, rest, own, read, closed, named, readOwn, rfl⟩
    · cases parsed
    · cases parsed

/-- The command with other reporting. -/
def withReporting (command : PatchCommand) (json verbose : Bool) : PatchCommand :=
  { command with json := json, verbose := verbose }

private theorem ofEntries_alike {before otherBefore own otherOwn : Entries} (request : PatchRequest)
    (subset : flags ⊆ reportingFlags) (beforeAlike : AlikeBut flags before otherBefore)
    (ownAlike : AlikeBut flags own otherOwn) :
    ∃ json verbose,
      ofEntries otherBefore otherOwn request = (ofEntries before own request).withReporting json verbose ∧
      (.json ∉ flags → json = (ofEntries before own request).json) := by
  have same : ∀ setting ∉ reportingFlags, otherBefore.get? setting = before.get? setting ∧
      otherOwn.get? setting = own.get? setting := fun setting other =>
    ⟨beforeAlike setting fun member => other (subset member), ownAlike setting fun member => other (subset member)⟩
  refine ⟨otherBefore.has .json || otherOwn.has .json, otherBefore.has .verbose || otherOwn.has .verbose, ?_, ?_⟩
  · simp only [ofEntries, withReporting, Entries.has, same .baseDirectory (by decide), same .dryRun (by decide)]
  · intro kept
    simp only [ofEntries, Entries.has, beforeAlike .json kept, ownAlike .json kept]

/-- Command lines that differ only in reporting flags make commands that differ only in reporting. -/
theorem exists_withReporting_of_differIn (subset : flags ⊆ reportingFlags)
    (differ : DifferIn flags arguments otherArguments) (parsed : parse arguments = .ok command)
    (otherParsed : parse otherArguments = .ok other) :
    ∃ json verbose, other = command.withReporting json verbose ∧ (.json ∉ flags → json = command.json) := by
  have flagged := isFlag_of_reporting subset
  obtain ⟨reading, rest, own, readAs⟩ := exists_readAs parsed
  obtain ⟨otherReading, otherRest, otherOwn, otherReadAs⟩ := exists_readAs otherParsed
  have alike := differ.readAlike_read flagged readAs.read otherReadAs.read
  obtain ⟨none, -⟩ | ⟨word, more, otherMore, stopped, otherStopped, later⟩ := alike.rest readAs.notClosed
  · cases none.symm.trans readAs.named
  obtain ⟨rfl, rfl⟩ := List.cons.inj (stopped.symm.trans readAs.named)
  obtain ⟨sameName, rfl⟩ := List.cons.inj (otherReadAs.named.symm.trans otherStopped)
  obtain ⟨sameSettings, sameRequest⟩ := PatchRequest.settings_ofEntries_eq_of_name_eq sameName
  have otherReadOwn := otherReadAs.readOwn
  rw [sameSettings] at otherReadOwn
  have ownAlike := later.alikeBut_readAll flagged readAs.readOwn otherReadOwn
  have otherMade := otherReadAs.made
  rw [sameRequest, PatchRequest.ofEntries_alike subset ownAlike] at otherMade
  obtain ⟨json, verbose, sameMade, kept⟩ := ofEntries_alike (command.request.ofEntries own) subset
    (alikeBut_of_others alike.entries) ownAlike
  rw [← readAs.made] at sameMade kept
  exact ⟨json, verbose, otherMade.trans sameMade, kept⟩

/-! ### What the command comes to -/

/-- What the command comes to on a tree: a result, and the tree that is left. -/
inductive Settles [MarkerSearch] (command : PatchCommand) (tree : FileTree) :
    Except Fault Outcome → FileTree → Prop where
  | invalid {fault} (invalid : command.validate = .error fault) : Settles command tree (.error fault) tree
  | worked {result left} (valid : command.validate = .ok ()) (works : Works command tree result left) :
      Settles command tree result left

variable {tree left otherLeft : FileTree} {result otherResult : Except Fault Outcome} {json verbose : Bool}

theorem Settles.unique [MarkerSearch] (settles : Settles command tree result left)
    (otherSettles : Settles command tree otherResult otherLeft) : otherResult = result ∧ otherLeft = left := by
  cases settles with
  | invalid invalid =>
    cases otherSettles with
    | invalid otherwise =>
      obtain rfl := Except.error.inj (invalid.symm.trans otherwise)
      exact ⟨rfl, rfl⟩
    | worked valid _ => cases valid.symm.trans invalid
  | worked valid works =>
    cases otherSettles with
    | invalid invalid => cases valid.symm.trans invalid
    | worked _ otherWorks => exact works.unique otherWorks

private theorem Works.of_withReporting [MarkerSearch]
    (works : Works (command.withReporting json verbose) tree result left) :
    Works command tree result left := by
  cases works with
  | unbuilt unbuilt => exact .unbuilt unbuilt
  | built built runs => exact .built built runs

theorem Settles.of_withReporting [MarkerSearch]
    (settles : Settles (command.withReporting json verbose) tree result left) :
    Settles command tree result left := by
  cases settles with
  | invalid invalid => exact .invalid invalid
  | worked valid works => exact .worked valid works.of_withReporting

def endingOf : Except Fault Outcome → Ending
  | .error fault => .exit fault.exitCode
  | .ok _ => .exit 0

/-- What is put out about a result. -/
def output (command : PatchCommand) : Except Fault Outcome → String
  | .error _ => ""
  | .ok outcome => command.reportOf outcome ++ "\n"

theorem Ran.settles [MarkerSearch] (ran : Ran command machine ending after) :
    ∃ result, Settles command machine.tree result after.tree ∧ ending = endingOf result ∧
      after.stdout = machine.stdout ++ command.output result := by
  cases ran with
  | @invalid fault _ invalid logs =>
    refine ⟨.error fault, ?_, rfl, ?_⟩
    · rw [Machine.tree_emit, logs.tree_eq]
      exact .invalid invalid
    · rw [Machine.stdout_emit, logs.stdout_eq]
      rfl
  | @failed fault tree _ valid works logs =>
    refine ⟨.error fault, ?_, rfl, ?_⟩
    · rw [Machine.tree_emit, Machine.tree_emit, logs.tree_eq]
      exact .worked valid works
    · rw [Machine.stdout_emit, Machine.stdout_emit, logs.stdout_eq, String.append_empty]
      rfl
  | @done outcome tree _ valid works logs =>
    refine ⟨.ok outcome, ?_, rfl, ?_⟩
    · rw [Machine.tree_emit, logs.tree_eq]
      exact .worked valid works
    · rw [Machine.stdout_emit, logs.stdout_eq]
      rfl

end PatchCommand

/-! ## The command that runs a job file -/

namespace JobCommand

variable {command other : JobCommand}

private theorem exists_of_parse_eq_ok (parsed : parse arguments = .ok command) :
    ∃ entries, readAll settings arguments = .ok entries ∧
      command = ⟨(entries.get? .config).getD defaultConfig, entries.has .verbose, entries.has .dryRun,
        entries.has .json⟩ := by
  obtain ⟨entries, reads, made⟩ := exists_of_bind_eq_ok parsed
  exact ⟨entries, reads, (Except.ok.inj made).symm⟩

private theorem exists_withReporting_of_differIn (subset : flags ⊆ reportingFlags)
    (differ : DifferIn flags arguments otherArguments) (parsed : parse arguments = .ok command)
    (otherParsed : parse otherArguments = .ok other) :
    ∃ json verbose, other = command.withReporting json verbose ∧ (.json ∉ flags → json = command.json) := by
  obtain ⟨entries, reads, rfl⟩ := exists_of_parse_eq_ok parsed
  obtain ⟨otherEntries, otherReads, rfl⟩ := exists_of_parse_eq_ok otherParsed
  have alike := differ.alikeBut_readAll (isFlag_of_reporting subset) reads otherReads
  have same : ∀ setting ∉ reportingFlags, otherEntries.get? setting = entries.get? setting :=
    fun setting other => alike setting fun member => other (subset member)
  refine ⟨otherEntries.has .json, otherEntries.has .verbose, ?_, fun kept => ?_⟩
  · simp only [withReporting, Entries.has, same .config (by decide), same .dryRun (by decide)]
  · simp only [Entries.has, alike .json kept]

end JobCommand

/-! ## Both commands -/

/-- Two runs that did the same work. They also put out the same unless they differ in the flag for JSON. -/
structure SameWork (flags : List Setting) (ran otherRan : Ending × Machine) : Prop where
  ending : otherRan.1 = ran.1
  tree : otherRan.2.tree = ran.2.tree
  stdout : .json ∉ flags → otherRan.2.stdout = ran.2.stdout

theorem PatchCommand.sameWork [MarkerSearch] {command other : PatchCommand}
    (subset : flags ⊆ reportingFlags) (differ : DifferIn flags arguments otherArguments)
    (parsed : parse arguments = .ok command)
    (otherParsed : parse otherArguments = .ok other) (chosen : Option Log.Filter) (machine : Machine) :
    SameWork flags (run Machine.host chosen arguments machine) (run Machine.host chosen otherArguments machine) := by
  obtain ⟨json, verbose, rfl, kept⟩ := exists_withReporting_of_differIn subset differ parsed otherParsed
  obtain ⟨result, settles, endingEq, stdoutEq⟩ := (ran_run parsed chosen machine).settles
  obtain ⟨otherResult, otherSettles, otherEndingEq, otherStdoutEq⟩ := (ran_run otherParsed chosen machine).settles
  obtain ⟨rfl, sameTree⟩ := settles.unique otherSettles.of_withReporting
  refine ⟨otherEndingEq.trans endingEq.symm, sameTree, fun plain => ?_⟩
  obtain rfl := kept plain
  exact otherStdoutEq.trans stdoutEq.symm

theorem JobCommand.sameWork [MarkerSearch] {command other : JobCommand}
    (subset : flags ⊆ reportingFlags) (differ : DifferIn flags arguments otherArguments)
    (parsed : parse arguments = .ok command)
    (otherParsed : parse otherArguments = .ok other) (chosen : Option Log.Filter) (machine : Machine) :
    SameWork flags (run Machine.host chosen arguments machine) (run Machine.host chosen otherArguments machine) := by
  obtain ⟨json, verbose, rfl, kept⟩ := exists_withReporting_of_differIn subset differ parsed otherParsed
  obtain ⟨outcomes, settles, stdoutEq⟩ := (ran_run parsed chosen machine).settles
  obtain ⟨otherOutcomes, otherSettles, otherStdoutEq⟩ := (ran_run otherParsed chosen machine).settles
  obtain ⟨rfl, sameEnding, sameTree⟩ := settles.unique otherSettles.of_withReporting
  refine ⟨sameEnding, sameTree, fun plain => ?_⟩
  obtain rfl := kept plain
  rw [sameEnding] at otherStdoutEq
  exact otherStdoutEq.trans stdoutEq.symm

/-- Two accepted command lines that differ only in the flags for JSON and for the log end in the same way and leave
the same tree, on every machine and for both commands. If they differ only in the flag for the log, they also put
out the same. -/
theorem same_work_whatever_is_reported [MarkerSearch] (chosen : Option Log.Filter) (machine : Machine)
    (differ : DifferIn [.json, .verbose] arguments otherArguments) :
    (∀ command other : PatchCommand, PatchCommand.parse arguments = .ok command →
      PatchCommand.parse otherArguments = .ok other →
      let ran := PatchCommand.run Machine.host chosen arguments machine
      let otherRan := PatchCommand.run Machine.host chosen otherArguments machine
      otherRan.1 = ran.1 ∧ otherRan.2.tree = ran.2.tree ∧
        (DifferIn [.verbose] arguments otherArguments → otherRan.2.stdout = ran.2.stdout)) ∧
    ∀ command other : JobCommand, JobCommand.parse arguments = .ok command →
      JobCommand.parse otherArguments = .ok other →
      let ran := JobCommand.run Machine.host chosen arguments machine
      let otherRan := JobCommand.run Machine.host chosen otherArguments machine
      otherRan.1 = ran.1 ∧ otherRan.2.tree = ran.2.tree ∧
        (DifferIn [.verbose] arguments otherArguments → otherRan.2.stdout = ran.2.stdout) := by
  have verboseOnly : [.verbose] ⊆ reportingFlags := List.subset_cons_self ..
  constructor
  · intro command other parsed otherParsed ran otherRan
    have same := PatchCommand.sameWork (List.Subset.refl reportingFlags) differ parsed otherParsed chosen machine
    refine ⟨same.ending, same.tree, fun quiet => ?_⟩
    exact (PatchCommand.sameWork verboseOnly quiet parsed otherParsed chosen machine).stdout (by decide)
  · intro command other parsed otherParsed ran otherRan
    have same := JobCommand.sameWork (List.Subset.refl reportingFlags) differ parsed otherParsed chosen machine
    refine ⟨same.ending, same.tree, fun quiet => ?_⟩
    exact (JobCommand.sameWork verboseOnly quiet parsed otherParsed chosen machine).stdout (by decide)

/-- A machine whose only file is `f`. -/
def machineOfOneFile : Machine where
  tree := { entries := [(["f"], .file "a\n m\n".toUTF8)], workingDirectory := [] }
  environment := fun _ => none
  transcript := []

/-- A patch that goes through, and jobs of which the second fails. -/
theorem same_work_one_patch_and_stopped_jobs :
    (let arguments := ["workflow", "--path", "f", "-v", "--marker=m"]
      let jsonArguments := ["--json", "workflow", "--path", "f", "--marker=m"]
      let ran := PatchCommand.run Machine.host none arguments machineOfOneFile
      let jsonRan := PatchCommand.run Machine.host none jsonArguments machineOfOneFile
      DifferIn [.json, .verbose] arguments jsonArguments ∧
        ran.1 = .exit 0 ∧ jsonRan.1 = ran.1 ∧ jsonRan.2.tree = ran.2.tree) ∧
    (let ran := JobCommand.run Machine.host none ["-cfixup.toml"] (machineOfTwoJobs "h")
      let verboseRan := JobCommand.run Machine.host none ["-vcfixup.toml"] (machineOfTwoJobs "h")
      DifferIn [.verbose] ["-cfixup.toml"] ["-vcfixup.toml"] ∧
        ran.1 = .exit 3 ∧ verboseRan.1 = ran.1 ∧ verboseRan.2.tree = ran.2.tree ∧
        verboseRan.2.stdout = ran.2.stdout) := by
  constructor
  · have json : Setting.AloneIn .json "--json" := .named
    have verbose : Setting.AloneIn .verbose "-v" := .lettered (rfl : Setting.letter? .verbose = some 'v')
    have differ : DifferIn [.json, .verbose] ["workflow", "--path", "f", "-v", "--marker=m"]
        ["--json", "workflow", "--path", "f", "--marker=m"] :=
      .right (by decide) json (.same (.same (.same (.left (by decide) verbose (.same .nil)))))
    have same := (same_work_whatever_is_reported none machineOfOneFile differ).1 _ _ rfl rfl
    exact ⟨differ, by decide +kernel, same.1, same.2.1⟩
  · have differ : ∀ flags, .verbose ∈ flags → DifferIn flags ["-cfixup.toml"] ["-vcfixup.toml"] :=
      fun flags member => .rightLetter member (rfl : Setting.letter? .verbose = some 'v') (by decide) .nil
    have same := (same_work_whatever_is_reported none (machineOfTwoJobs "h") (differ _ (by decide))).2 _ _ rfl rfl
    have verboseOnly := differ [.verbose] (by decide)
    exact ⟨verboseOnly, by decide +kernel, same.1, same.2.1, same.2.2 verboseOnly⟩

end Patchwork
