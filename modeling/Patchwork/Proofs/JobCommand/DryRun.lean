import Mathlib.Control.Monad.Basic
import Patchwork.Proofs.FileTree.Rewrite
import Patchwork.Proofs.JobCommand.TwoJobs

/-!
# What a dry run predicts

A dry run writes nothing, so every patch of it reads the files as they were at first. The patches of the real
run read what the ones before them wrote. The outcomes of the two agree as long as a patch does not read a
file that an earlier patch changed, under whatever path.
-/

set_option autoImplicit false

namespace Patchwork

namespace FileTree

/-! ## Files that changed -/

/-- Every path leads where it led at first, and only the files that some paths lead to have another text. -/
structure Keeps (first : FileTree) (changed : List String) (now : FileTree) : Prop where
  unmoved : ∀ path, now.locate path = first.locate path
  unchanged : ∀ path, (∀ other ∈ changed, ¬ first.SameFile other path) → now.read path = first.read path

theorem Keeps.refl (tree : FileTree) : tree.Keeps [] tree :=
  ⟨fun _ => rfl, fun _ _ => rfl⟩

variable {first now after : FileTree} {changed : List String} {path text content : String}

theorem Keeps.sameFile {other : String} (keeps : first.Keeps changed now) (same : now.SameFile path other) :
    first.SameFile path other := by
  obtain ⟨location, pathThere, otherThere⟩ := same
  exact ⟨location, keeps.unmoved path ▸ pathThere, keeps.unmoved other ▸ otherThere⟩

theorem Keeps.of_write (keeps : first.Keeps changed now) (held : now.read path = .ok text)
    (wrote : now.write path content = .ok after) :
    first.Keeps (changed ++ if content = text then [] else [path]) after := by
  obtain ⟨unmoved, rewritten, elsewhere⟩ := of_write_of_read held wrote
  refine ⟨fun other => (unmoved other).trans (keeps.unmoved other), fun other apart => ?_⟩
  rw [← keeps.unchanged other fun earlier member => apart earlier (List.mem_append_left _ member)]
  by_cases same : now.SameFile path other
  · by_cases putBack : content = text
    · rw [rewritten other same, putBack, ← held, same.read_eq]
    · -- A file that got another text is among the changed ones.
      refine absurd (keeps.sameFile same) (apart path (List.mem_append_right _ ?_))
      rw [if_neg putBack]
      exact List.mem_singleton_self path
  · exact elsewhere other same

end FileTree

/-- The full paths of the outcomes that say that their file changed. -/
def changedPaths (base : String) (outcomes : List Outcome) : List String :=
  (outcomes.filter Outcome.changed).map fun outcome => Path.join base outcome.path

theorem changedPaths_append (base : String) (outcomes more : List Outcome) :
    changedPaths base (outcomes ++ more) = changedPaths base outcomes ++ changedPaths base more := by
  rw [changedPaths, List.filter_append, List.map_append]
  rfl

private theorem changedPaths_outcomeOf (base : String) (patch : Patch) (before : String) (patched : Patched)
    (written : Bool) :
    changedPaths base [Engine.outcomeOf patch before patched written] =
      if patched.content = before then [] else [Path.join base patch.target] := by
  by_cases same : patched.content = before <;> simp [changedPaths, Engine.outcomeOf, same]

/-! ## One patch -/

namespace Machine

variable {base : String} {patch : Patch} {tree after dryTree dryAfter : FileTree}
  {outcome dryOutcome : Outcome}

theorem Runs.keeps {first : FileTree} {changed : List String}
    (runs : Runs base patch tree false (.ok outcome) after) (keeps : first.Keeps changed tree) :
    first.Keeps (changed ++ changedPaths base [outcome]) after := by
  cases runs with
  | written read applied wrote =>
    rw [changedPaths_outcomeOf]
    exact keeps.of_write read wrote

/-- A dry run that reads what a real one reads has the outcome of the real one, less the write. -/
theorem Runs.eq_of_read_eq (runs : Runs base patch tree false (.ok outcome) after)
    (dryRuns : Runs base patch dryTree true (.ok dryOutcome) dryAfter)
    (same : tree.read (Path.join base patch.target) = dryTree.read (Path.join base patch.target)) :
    dryOutcome = { outcome with written := false } := by
  cases runs with
  | written read applied _ =>
    cases dryRuns with
    | previewed dryRead dryApplied =>
      obtain rfl := Except.ok.inj (read.symm.trans (same.trans dryRead))
      obtain rfl := Except.ok.inj (applied.symm.trans dryApplied)
      rfl

end Machine

namespace JobCommand

variable {command dryCommand : JobCommand} {base : String} {patches : List Patch}
  {outcomes dryOutcomes : List Outcome} {machine after dryMachine dryAfter : Machine}

/-- A dry outcome says of a patch what the real one says, unless the file that the patch reads is among the
changed ones or was changed by a patch before it. -/
theorem RunsAll.predicts {first : FileTree} {changed : List String} (real : command.dryRun = false)
    (dry : dryCommand.dryRun = true)
    (runs : RunsAll command base machine patches outcomes none after)
    (dryRuns : RunsAll dryCommand base dryMachine patches dryOutcomes none dryAfter)
    (untouched : dryMachine.tree = first) (keeps : first.Keeps changed machine.tree) :
    ∀ earlier outcome later, outcomes = earlier ++ outcome :: later →
      (∀ path ∈ changed ++ changedPaths base earlier,
        ¬ first.SameFile path (Path.join base outcome.path)) →
      dryOutcomes[earlier.length]? = some { outcome with written := false } := by
  generalize finished : none = failure at runs
  induction runs generalizing changed dryOutcomes dryMachine with
  | done => simp
  | failed => cases finished
  | @next machine patch rest head tree between outcomes failure after runs logged later inductionHypothesis =>
    rw [real] at runs
    cases dryRuns with
    | @next _ _ _ dryHead dryTree dryBetween dryRest _ _ dryRun dryLogged dryLater =>
      rw [dry, untouched] at dryRun
      intro earlier outcome later whole apart
      cases earlier with
      | nil =>
        obtain ⟨rfl, -⟩ := List.cons.inj whole
        have isTarget : head.path = patch.target := congrArg (·.2.1) runs.marks
        have sameText : machine.tree.read (Path.join base patch.target) =
            first.read (Path.join base patch.target) := by
          rw [← isTarget]
          exact keeps.unchanged _ fun path member => apart path (List.mem_append_left _ member)
        rw [List.length_nil, List.getElem?_cons_zero, runs.eq_of_read_eq dryRun sameText]
      | cons _ more =>
        obtain ⟨rfl, rest⟩ := List.cons.inj whole
        rw [List.length_cons, List.getElem?_cons_succ]
        have stillUntouched : (dryBetween.outAll (dryCommand.progress dryHead)).tree = first := by
          rw [Machine.tree_outAll, dryLogged.tree_eq, dryRun.tree_of_dry]
        have keepsNext : first.Keeps (changed ++ changedPaths base [head])
            (between.outAll (command.progress head)).tree := by
          rw [Machine.tree_outAll, logged.tree_eq]
          exact runs.keeps keeps
        refine inductionHypothesis dryLater stillUntouched keepsNext finished more outcome later rest ?_
        rwa [List.append_assoc, ← changedPaths_append]

/-! ## The two runs -/

/-- When the command goes through both dry and for real, each outcome of the one is the outcome of the other but for
the write, unless an earlier patch of the real run changed the file that its path leads to. -/
theorem dry_run_predicts_real_run [MarkerSearch] {arguments dryArguments : List String} {command : JobCommand}
    (chosen : Option Log.Filter) (machine : Machine)
    (parsed : parse arguments = .ok { command with dryRun := false })
    (dryParsed : parse dryArguments = .ok { command with dryRun := true })
    (succeeded : (run Machine.host chosen arguments machine).1 = .exit 0)
    (drySucceeded : (run Machine.host chosen dryArguments machine).1 = .exit 0) :
    ∃ jobs outcomes dryOutcomes,
      Reported { command with dryRun := false } machine jobs outcomes
        (run Machine.host chosen arguments machine).2 ∧
      Reported { command with dryRun := true } machine jobs dryOutcomes
        (run Machine.host chosen dryArguments machine).2 ∧
      ∀ earlier outcome later, outcomes = earlier ++ outcome :: later →
        (∀ path ∈ changedPaths jobs.base earlier,
          ¬ machine.tree.SameFile path (Path.join jobs.base outcome.path)) →
        dryOutcomes[earlier.length]? = some { outcome with written := false } := by
  have ran := ran_run parsed chosen machine
  have dryRan := ran_run dryParsed chosen machine
  rw [succeeded] at ran
  rw [drySucceeded] at dryRan
  obtain ⟨jobs, patches, outcomes, before, stopped, reported, built, sameTree, runs⟩ := ran.reported
  obtain ⟨dryJobs, dryPatches, dryOutcomes, dryBefore, dryStopped, dryReported, dryBuilt, drySameTree,
    dryRuns⟩ := dryRan.reported
  obtain rfl : jobs = dryJobs := Except.ok.inj (reported.loaded.symm.trans dryReported.loaded)
  obtain rfl : patches = dryPatches := Except.ok.inj (built.symm.trans dryBuilt)
  have keeps : machine.tree.Keeps [] before.tree := sameTree ▸ FileTree.Keeps.refl _
  exact ⟨jobs, outcomes, dryOutcomes, reported, dryReported, runs.predicts rfl rfl dryRuns drySameTree keeps⟩

/-! ### Two files, and one file twice -/

theorem dry_run_predicts_real_run_two_files :
    parse ["--json"] = .ok { reportCommand false with dryRun := false } ∧
      parse ["--json", "--dry-run"] = .ok { reportCommand false with dryRun := true } ∧
      (run Machine.host none ["--json"] (machineOfTwoJobs "g")).1 = .exit 0 ∧
      (run Machine.host none ["--json", "--dry-run"] (machineOfTwoJobs "g")).1 = .exit 0 ∧
      ∃ jobs outcomes dryOutcomes,
        Reported { reportCommand false with dryRun := false } (machineOfTwoJobs "g") jobs outcomes
          (run Machine.host none ["--json"] (machineOfTwoJobs "g")).2 ∧
        Reported { reportCommand false with dryRun := true } (machineOfTwoJobs "g") jobs dryOutcomes
          (run Machine.host none ["--json", "--dry-run"] (machineOfTwoJobs "g")).2 ∧
        ∀ earlier outcome later, outcomes = earlier ++ outcome :: later →
          (∀ path ∈ changedPaths jobs.base earlier,
            ¬ (machineOfTwoJobs "g").tree.SameFile path (Path.join jobs.base outcome.path)) →
          dryOutcomes[earlier.length]? = some { outcome with written := false } := by
  have valid : (twoJobs "g").validate = .ok () := by decide +kernel
  have finished : (outcomesOfTwoJobs false "g").2 = none :=
    Option.isNone_iff_eq_none.1 (by decide +kernel)
  have dryFinished : (outcomesOfTwoJobs true "g").2 = none :=
    Option.isNone_iff_eq_none.1 (by decide +kernel)
  have succeeded := (reported_of_twoJobs parse_json jobFileOn_two_files valid finished).1
  have drySucceeded := (reported_of_twoJobs parse_json_dry_run jobFileOn_two_files valid dryFinished).1
  exact ⟨parse_json, parse_json_dry_run, succeeded, drySucceeded,
    dry_run_predicts_real_run none _ parse_json parse_json_dry_run succeeded drySucceeded⟩

/-- When both jobs lead to one file, under two spellings, the dry run misses the line that the first one adds
to it. -/
theorem dry_run_mispredicts_one_file_twice :
    let outcomes : List Outcome :=
      [⟨.workflowPermissions, "f", 1, 2, 3, true, true⟩, ⟨.buildFix, "./f", 0, 3, 3, false, true⟩]
    let dryOutcomes : List Outcome :=
      [⟨.workflowPermissions, "f", 1, 2, 3, true, false⟩, ⟨.buildFix, "./f", 0, 2, 2, false, false⟩]
    (run Machine.host none ["--json"] (machineOfTwoJobs "./f")).1 = .exit 0 ∧
      (run Machine.host none ["--json", "--dry-run"] (machineOfTwoJobs "./f")).1 = .exit 0 ∧
      Reported (reportCommand false) (machineOfTwoJobs "./f") (twoJobs "./f") outcomes
        (run Machine.host none ["--json"] (machineOfTwoJobs "./f")).2 ∧
      Reported (reportCommand true) (machineOfTwoJobs "./f") (twoJobs "./f") dryOutcomes
        (run Machine.host none ["--json", "--dry-run"] (machineOfTwoJobs "./f")).2 ∧
      dryOutcomes ≠ outcomes.map fun outcome => { outcome with written := false } := by
  intro outcomes dryOutcomes
  have valid : (twoJobs "./f").validate = .ok () := by decide +kernel
  obtain ⟨succeeded, reported⟩ := reported_of_twoJobs parse_json jobFileOn_one_file valid
    (Option.isNone_iff_eq_none.1 (by decide +kernel))
  obtain ⟨drySucceeded, dryReported⟩ := reported_of_twoJobs parse_json_dry_run jobFileOn_one_file valid
    (Option.isNone_iff_eq_none.1 (by decide +kernel))
  have ran : (outcomesOfTwoJobs false "./f").1 = outcomes := by decide +kernel
  have dryRan : (outcomesOfTwoJobs true "./f").1 = dryOutcomes := by decide +kernel
  rw [ran] at reported
  rw [dryRan] at dryReported
  exact ⟨succeeded, drySucceeded, reported, dryReported, by decide +kernel⟩

end JobCommand

end Patchwork
