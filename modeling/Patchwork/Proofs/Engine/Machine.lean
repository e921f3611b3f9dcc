import Mathlib.Data.List.Basic
import Patchwork.Machine
import Patchwork.Proofs.Engine.Run

/-!
# Runs on a machine

On a machine, storages are looked up from a base directory, and every call and every step is logged. A run
changes the machine in two ways only: it puts out log entries, and at most one write changes the tree.
-/

set_option autoImplicit false

namespace Patchwork.Machine

open Engine (outcomeOf noteAll)

variable {machine between after : Machine} {setup : Log.Setup} {base : String}

/-! ## Machines that only logged -/

/-- The one machine becomes the other by putting out log entries. -/
def Logged (before after : Machine) : Prop :=
  ∃ entries : List (Log.Format × Log.Entry), after =
    { before with transcript := before.transcript ++ entries.map fun entry => .log entry.1 entry.2 }

theorem Logged.refl (machine : Machine) : Logged machine machine :=
  ⟨[], by simp⟩

theorem Logged.trans (first : Logged machine between) (second : Logged between after) :
    Logged machine after := by
  obtain ⟨entries, rfl⟩ := first
  obtain ⟨more, rfl⟩ := second
  exact ⟨entries ++ more, by simp⟩

theorem Logged.withTree (logged : Logged machine after) (tree : FileTree) :
    Logged { machine with tree := tree } { after with tree := tree } := by
  obtain ⟨entries, rfl⟩ := logged
  exact ⟨entries, rfl⟩

theorem Logged.tree_eq (logged : Logged machine after) : after.tree = machine.tree := by
  obtain ⟨entries, rfl⟩ := logged
  rfl

theorem Logged.stdout_eq (logged : Logged machine after) : after.stdout = machine.stdout := by
  obtain ⟨entries, rfl⟩ := logged
  simp [stdout]

theorem Logged.stderr_eq (logged : Logged machine after) : after.stderr = machine.stderr := by
  obtain ⟨entries, rfl⟩ := logged
  simp [stderr]

/-! ## The calls of a storage -/

theorem logged_log (setup : Log.Setup) (entry : Log.Entry) (machine : Machine) :
    Logged machine (host.log setup entry machine).2 := by
  unfold Host.log
  cases setup.record? entry with
  | none => exact Logged.refl machine
  | some recorded => exact ⟨[(setup.format, recorded)], rfl⟩

theorem run_log (entry : Log.Entry) :
    (liftM (host.log setup entry) : ExceptT Fault (StateM Machine) Unit).run machine =
      (.ok (), (host.log setup entry machine).2) := rfl

theorem run_write (path content : String) :
    (host.write path content).run machine =
      match machine.tree.write path content with
      | .ok tree => (.ok (), { machine with tree := tree })
      | .error obstacle => (.error obstacle.fault, machine) := rfl

theorem logged_noteAll (setup : Log.Setup) (base : String) (machine : Machine)
    (entries : List Log.Entry) :
    Logged machine (noteAll (host.storage setup base) machine entries) := by
  induction entries generalizing machine with
  | nil => exact Logged.refl machine
  | cons entry rest inductionHypothesis =>
    exact (logged_log setup entry machine).trans (inductionHypothesis _)

theorem run_read_storage (setup : Log.Setup) (base path : String) (machine : Machine) :
    ∃ after, Logged machine after ∧ ((host.storage setup base).read path).run machine =
      (answer (machine.tree.read (Path.join base path)), after) := by
  have logged := logged_log setup (Log.debug s!"Reading {Path.join base path}") machine
  refine ⟨_, logged, ?_⟩
  rw [← logged.tree_eq]
  exact Engine.run_bind_of_ok (run_log _)

theorem run_write_storage (setup : Log.Setup) (base path content : String) (machine : Machine) :
    ∃ after, Logged machine after ∧ ((host.storage setup base).write path content).run machine =
      match machine.tree.write (Path.join base path) content with
      | .ok tree => (.ok (), { after with tree := tree })
      | .error obstacle => (.error obstacle.fault, after) := by
  have logged := logged_log setup (Log.debug s!"Writing {Path.join base path}") machine
  refine ⟨_, logged, ?_⟩
  rw [← logged.tree_eq]
  exact (Engine.run_bind_of_ok (run_log _)).trans (run_write _ _)

/-! ## The five ends of a run -/

/-- How a run on the tree of a machine can end: with a result, leaving a tree. A path is looked up from the
base directory. -/
inductive Runs (base : String) (patch : Patch) (tree : FileTree) :
    Bool → Except Fault Outcome → FileTree → Prop where
  | unread {dryRun obstacle} (read : tree.read (Path.join base patch.target) = .error obstacle) :
      Runs base patch tree dryRun (.error obstacle.fault) tree
  | unapplied {dryRun before fault} (read : tree.read (Path.join base patch.target) = .ok before)
      (applied : patch.apply before = .error fault) :
      Runs base patch tree dryRun (.error fault) tree
  | previewed {before patched} (read : tree.read (Path.join base patch.target) = .ok before)
      (applied : patch.apply before = .ok patched) :
      Runs base patch tree true (.ok (outcomeOf patch before patched false)) tree
  | unwritten {before patched obstacle} (read : tree.read (Path.join base patch.target) = .ok before)
      (applied : patch.apply before = .ok patched)
      (refused : tree.write (Path.join base patch.target) patched.content = .error obstacle) :
      Runs base patch tree false (.error obstacle.fault) tree
  | written {before patched after} (read : tree.read (Path.join base patch.target) = .ok before)
      (applied : patch.apply before = .ok patched)
      (wrote : tree.write (Path.join base patch.target) patched.content = .ok after) :
      Runs base patch tree false (.ok (outcomeOf patch before patched true)) after

variable {patch : Patch} {dryRun : Bool} {result : Except Fault Outcome} {tree treeAfter : FileTree}

private theorem logged_of_read {opening : List Log.Entry} {text : Except Fault String}
    (read : ((host.storage setup base).read patch.target).run
      (noteAll (host.storage setup base) machine opening) = (text, after)) :
    Logged machine after ∧ answer (machine.tree.read (Path.join base patch.target)) = text := by
  have opened := logged_noteAll setup base machine opening
  obtain ⟨looked, logged, ran⟩ := run_read_storage setup base patch.target
    (noteAll (host.storage setup base) machine opening)
  rw [ran, Prod.mk.injEq, opened.tree_eq] at read
  obtain ⟨same, rfl⟩ := read
  exact ⟨opened.trans logged, same⟩

theorem answer_eq_ok {α : Type} {found : Except FileTree.Obstacle α} {value : α}
    (succeeds : answer found = .ok value) : found = .ok value := by
  cases found with
  | error obstacle => cases succeeds
  | ok other => exact congrArg Except.ok (Except.ok.inj succeeds)

theorem answer_eq_error {α : Type} {found : Except FileTree.Obstacle α} {fault : Fault}
    (fails : answer found = .error fault) : ∃ obstacle, found = .error obstacle ∧ fault = obstacle.fault := by
  cases found with
  | error obstacle => exact ⟨obstacle, rfl, (Except.error.inj fails).symm⟩
  | ok other => cases fails

private theorem logged_of_write {path content : String} {notes : List Log.Entry} {done : Except Fault Unit}
    (looked : Logged machine between)
    (wrote : ((host.storage setup base).write path content).run
      (noteAll (host.storage setup base) between notes) = (done, after)) :
    (∃ tree, machine.tree.write (Path.join base path) content = .ok tree ∧ done = .ok () ∧
      Logged { machine with tree := tree } after) ∨
    ∃ obstacle, machine.tree.write (Path.join base path) content = .error obstacle ∧
      done = .error obstacle.fault ∧ Logged machine after := by
  have noted := looked.trans (logged_noteAll setup base between notes)
  obtain ⟨called, logged, ran⟩ := run_write_storage setup base path content
    (noteAll (host.storage setup base) between notes)
  rw [ran, noted.tree_eq] at wrote
  split at wrote
  · next tree wroteTree =>
    obtain ⟨rfl, rfl⟩ := Prod.mk.inj wrote
    exact .inl ⟨tree, wroteTree, rfl, (noted.trans logged).withTree tree⟩
  · next obstacle refused =>
    obtain ⟨rfl, rfl⟩ := Prod.mk.inj wrote
    exact .inr ⟨obstacle, refused, rfl, noted.trans logged⟩

private theorem runs_of_ran (ran : Engine.Ran (host.storage setup base) dryRun patch machine result after) :
    ∃ tree, Runs base patch machine.tree dryRun result tree ∧
      Logged { machine with tree := tree } after := by
  cases ran with
  | unread read =>
    obtain ⟨logged, refused⟩ := logged_of_read read
    obtain ⟨obstacle, unreadable, rfl⟩ := answer_eq_error refused
    exact ⟨_, .unread unreadable, logged⟩
  | unapplied notes read applied =>
    obtain ⟨logged, held⟩ := logged_of_read read
    exact ⟨_, .unapplied (answer_eq_ok held) applied, logged.trans (logged_noteAll ..)⟩
  | previewed notes dry read applied =>
    obtain ⟨logged, held⟩ := logged_of_read read
    rw [dry]
    exact ⟨_, .previewed (answer_eq_ok held) applied, logged.trans (logged_noteAll ..)⟩
  | unwritten real read applied wrote =>
    obtain ⟨looked, held⟩ := logged_of_read read
    rw [real]
    rcases logged_of_write looked wrote with ⟨tree, -, done, -⟩ | ⟨obstacle, refused, done, logged⟩
    · cases done
    · cases done
      exact ⟨_, .unwritten (answer_eq_ok held) applied refused, logged⟩
  | written closing real read applied wrote =>
    obtain ⟨looked, held⟩ := logged_of_read read
    rw [real]
    rcases logged_of_write looked wrote with ⟨tree, wroteTree, -, logged⟩ | ⟨obstacle, -, done, -⟩
    · exact ⟨tree, .written (answer_eq_ok held) applied wroteTree, logged.trans (logged_noteAll ..)⟩
    · cases done

theorem runs_run (setup : Log.Setup) (base : String) (dryRun : Bool) (patch : Patch) (machine : Machine) :
    let ran := (Engine.run (host.storage setup base) dryRun patch).run machine
    ∃ tree, Runs base patch machine.tree dryRun ran.1 tree ∧ Logged { machine with tree := tree } ran.2 :=
  runs_of_ran (Engine.ran_run _ dryRun patch machine)

theorem Runs.unique {otherResult : Except Fault Outcome} {otherAfter : FileTree}
    (runs : Runs base patch tree dryRun result treeAfter)
    (otherRuns : Runs base patch tree dryRun otherResult otherAfter) :
    otherResult = result ∧ otherAfter = treeAfter := by
  cases runs <;> cases otherRuns <;> simp_all

theorem Runs.tree_of_dry (runs : Runs base patch tree true result treeAfter) : treeAfter = tree := by
  cases runs <;> rfl

theorem Runs.tree_of_error {fault : Fault} (runs : Runs base patch tree dryRun (.error fault) treeAfter) :
    treeAfter = tree := by
  cases runs <;> rfl

theorem Runs.marks {outcome : Outcome} (runs : Runs base patch tree dryRun (.ok outcome) treeAfter) :
    (outcome.kind, outcome.path, outcome.written) = (patch.kind, patch.target, !dryRun) := by
  cases runs <;> rfl

/-- What a run answers on a tree, and the tree that it leaves. The log is off. -/
def engineOn (base : String) (dryRun : Bool) (patch : Patch) (tree : FileTree) :
    Except Fault Outcome × FileTree :=
  let ran := (Engine.run (host.storage .off base) dryRun patch).run ⟨tree, fun _ => none, []⟩
  (ran.1, ran.2.tree)

theorem Runs.engineOn_eq (runs : Runs base patch tree dryRun result treeAfter) :
    engineOn base dryRun patch tree = (result, treeAfter) := by
  obtain ⟨left, ranRuns, logged⟩ := runs_run .off base dryRun patch ⟨tree, fun _ => none, []⟩
  obtain ⟨sameResult, rfl⟩ := runs.unique ranRuns
  exact Prod.ext sameResult logged.tree_eq

theorem runs_of_engineOn (ran : engineOn base dryRun patch tree = (result, treeAfter)) :
    Runs base patch tree dryRun result treeAfter := by
  obtain ⟨left, runs, -⟩ := runs_run .off base dryRun patch ⟨tree, fun _ => none, []⟩
  cases runs.engineOn_eq.symm.trans ran
  exact runs

end Patchwork.Machine
