import Patchwork.Proofs.JobCommand.InOrder

/-!
# What stops the command

Once its job file is loaded, at most one fault stops the command, and it does so before the first patch runs or
when a patch fails.
-/

set_option autoImplicit false

namespace Patchwork.JobCommand

open Machine (engineOn)

/-- The faults that stop the command once its job file is loaded: the file is not valid, a patch of it cannot be
built, or the engine fails to run a patch on what the ones before it left. -/
inductive Stops [MarkerSearch] (command : JobCommand) (machine : Machine) (jobs : JobFile) : Fault → Prop where
  | invalid {fault} (invalid : jobs.validate = .error fault) : Stops command machine jobs fault
  | unbuilt {fault} (valid : jobs.validate = .ok ()) (unbuilt : jobs.patches = .error fault) :
      Stops command machine jobs fault
  | failed {done patch rest outcomes left fault} (valid : jobs.validate = .ok ())
      (built : jobs.patches = .ok (done ++ patch :: rest))
      (completes : Completes jobs.base command.dryRun machine.tree done outcomes left)
      (fails : engineOn jobs.base command.dryRun patch left = (.error fault, left)) :
      Stops command machine jobs fault

variable {command : JobCommand} {machine after : Machine} {jobs : JobFile} {base : String}
  {patches : List Patch} {outcomes : List Outcome} {fault otherFault : Fault}

theorem Stops.unique [MarkerSearch] (stops : Stops command machine jobs fault)
    (otherStops : Stops command machine jobs otherFault) : otherFault = fault := by
  cases stops with
  | invalid invalid =>
    cases otherStops with
    | invalid otherInvalid => exact Except.error.inj (otherInvalid.symm.trans invalid)
    | unbuilt valid _ => cases valid.symm.trans invalid
    | failed valid _ _ _ => cases valid.symm.trans invalid
  | unbuilt valid unbuilt =>
    cases otherStops with
    | invalid invalid => cases valid.symm.trans invalid
    | unbuilt _ otherUnbuilt => exact Except.error.inj (otherUnbuilt.symm.trans unbuilt)
    | failed _ built _ _ => cases built.symm.trans unbuilt
  | failed valid built completes fails =>
    cases otherStops with
    | invalid invalid => cases valid.symm.trans invalid
    | unbuilt _ unbuilt => cases built.symm.trans unbuilt
    | failed _ otherBuilt otherCompletes otherFails =>
      obtain ⟨rfl, rfl, sameLeft⟩ := completes.unique (.stopped fails) otherCompletes (.stopped otherFails)
        (Except.ok.inj (built.symm.trans otherBuilt))
      obtain ⟨rfl, -⟩ := List.cons.inj sameLeft
      cases fails.symm.trans otherFails
      rfl

theorem RunsAll.exists_failed {patch : Patch}
    (runs : RunsAll command base machine patches outcomes (some (patch, fault)) after) :
    ∃ done rest left, patches = done ++ patch :: rest ∧
      Completes base command.dryRun machine.tree done outcomes left ∧
      engineOn base command.dryRun patch left = (.error fault, left) := by
  generalize stopped : some (patch, fault) = failure at runs
  induction runs with
  | done => cases stopped
  | @failed machine _ rest _ tree after runs _ =>
    cases stopped
    obtain rfl := runs.tree_of_error
    exact ⟨[], rest, machine.tree, rfl, .none, runs.engineOn_eq⟩
  | @next machine first _ _ tree _ _ _ _ runs logged _ inductionHypothesis =>
    obtain ⟨done, rest, left, rfl, completes, fails⟩ := inductionHypothesis stopped
    rw [Machine.tree_outAll, logged.tree_eq] at completes
    exact ⟨first :: done, rest, left, rfl, .next runs.engineOn_eq completes, fails⟩

theorem Stops.not_of_done [MarkerSearch] {start : Machine} (valid : jobs.validate = .ok ())
    (built : jobs.patches = .ok patches)
    (runs : RunsAll command jobs.base start patches outcomes none after)
    (sameTree : start.tree = machine.tree) : ¬ Stops command machine jobs fault := by
  intro stops
  cases stops with
  | invalid invalid => cases valid.symm.trans invalid
  | unbuilt _ unbuilt => cases built.symm.trans unbuilt
  | failed _ otherBuilt completes fails =>
    obtain ⟨done, left, rfl, all, ends⟩ := runs.completes
    rw [sameTree] at all
    obtain ⟨-, -, rfl⟩ := completes.unique (.stopped fails) all ends
      (Except.ok.inj (otherBuilt.symm.trans built))
    -- A patch is left, so the ending would be that of its fault.
    generalize ended : endingOf none = ending at ends
    cases ends with
    | stopped _ => exact absurd (Ending.exit.inj ended).symm (Fault.exitCode_ne_zero _)

end Patchwork.JobCommand
