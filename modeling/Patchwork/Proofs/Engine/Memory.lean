import Patchwork.Proofs.Engine.Run
import Patchwork.Storage.Memory

/-!
# Runs on a storage in memory

A storage in memory records its calls and fails where it is told to. A run on it makes one call to read and
at most one to write, and a run that fails leaves every text as it was.
-/

set_option autoImplicit false

namespace Patchwork.MemoryStorage

open Engine (outcomeOf noteAll)

/-- Runs a patch on a storage in memory. -/
def runPatch (dryRun : Bool) (patch : Patch) (state : State) : Except Fault Outcome × State :=
  (Engine.run storage dryRun patch).run state

variable {state after : State} {patch : Patch} {dryRun : Bool} {result : Except Fault Outcome}

@[simp] theorem noteAll_storage (entries : List Log.Entry) : noteAll storage state entries = state := by
  induction entries with
  | nil => rfl
  | cons entry rest inductionHypothesis => exact inductionHypothesis

theorem run_read_storage (path : String) :
    (storage.read path).run state = (state.read path, state.record (.read path)) := rfl

theorem run_write_storage (path content : String) :
    (storage.write path content).run state =
      match state.writeFaults.get? path with
      | some fault => (.error fault, state.record (.write path content))
      | none => (.ok (), { state.record (.write path content) with
          files := state.files.put path content }) := by
  change ((state.write path content).1, _) = _
  unfold State.write
  cases state.writeFaults.get? path <;> rfl

/-! ## The five ends of a run -/

/-- The state after a run that asked for nothing but the target's text. -/
def State.looked (state : State) (patch : Patch) : State :=
  state.record (.read patch.target)

/-- The target can be read, and the patch makes `patched` of the text `before` that it holds. -/
structure State.Yields (state : State) (patch : Patch) (before : String) (patched : Patched) : Prop where
  read : state.read patch.target = .ok before
  applied : patch.apply before = .ok patched

/-- How a run from a state can end: with a result, in another state. -/
inductive Runs (patch : Patch) (state : State) : Bool → Except Fault Outcome → State → Prop where
  | unread {dryRun fault} (read : state.read patch.target = .error fault) :
      Runs patch state dryRun (.error fault) (state.looked patch)
  | unapplied {dryRun before fault} (read : state.read patch.target = .ok before)
      (applied : patch.apply before = .error fault) :
      Runs patch state dryRun (.error fault) (state.looked patch)
  | previewed {before patched} (yields : state.Yields patch before patched) :
      Runs patch state true (.ok (outcomeOf patch before patched false)) (state.looked patch)
  | unwritten {before patched fault} (yields : state.Yields patch before patched)
      (refused : state.writeFaults.get? patch.target = some fault) :
      Runs patch state false (.error fault)
        ((state.looked patch).record (.write patch.target patched.content))
  | written {before patched} (yields : state.Yields patch before patched)
      (allowed : state.writeFaults.get? patch.target = none) :
      Runs patch state false (.ok (outcomeOf patch before patched true))
        { (state.looked patch).record (.write patch.target patched.content) with
          files := state.files.put patch.target patched.content }

private theorem looked_of_read {opening : List Log.Entry} {answer : Except Fault String}
    (read : (storage.read patch.target).run (noteAll storage state opening) = (answer, after)) :
    state.read patch.target = answer ∧ after = state.looked patch := by
  rw [noteAll_storage, run_read_storage, Prod.mk.injEq] at read
  exact ⟨read.1, read.2.symm⟩

private theorem runs_of_ran (ran : Engine.Ran storage dryRun patch state result after) :
    Runs patch state dryRun result after := by
  cases ran with
  | unread read =>
    obtain ⟨answer, rfl⟩ := looked_of_read read
    exact .unread answer
  | unapplied notes read applied =>
    obtain ⟨answer, rfl⟩ := looked_of_read read
    rw [noteAll_storage]
    exact .unapplied answer applied
  | previewed notes dry read applied =>
    obtain ⟨answer, rfl⟩ := looked_of_read read
    rw [noteAll_storage, dry]
    exact .previewed ⟨answer, applied⟩
  | unwritten real read applied wrote =>
    obtain ⟨answer, rfl⟩ := looked_of_read read
    rw [noteAll_storage, run_write_storage] at wrote
    rw [real]
    split at wrote
    · next refused =>
      cases wrote
      exact .unwritten ⟨answer, applied⟩ refused
    · cases wrote
  | written closing real read applied wrote =>
    obtain ⟨answer, rfl⟩ := looked_of_read read
    rw [noteAll_storage, run_write_storage] at wrote
    rw [noteAll_storage, real]
    split at wrote
    · cases wrote
    · next allowed =>
      cases wrote
      exact .written ⟨answer, applied⟩ allowed

theorem runs_runPatch (dryRun : Bool) (patch : Patch) (state : State) :
    Runs patch state dryRun (runPatch dryRun patch state).1 (runPatch dryRun patch state).2 :=
  runs_of_ran (Engine.ran_run storage dryRun patch state)

/-! ## Calls, results and texts -/

private theorem write_eq_error_iff {path content : String} {fault : Fault} :
    (state.write path content).1 = .error fault ↔ state.writeFaults.get? path = some fault := by
  unfold State.write
  cases state.writeFaults.get? path <;> simp

private theorem State.yields_iff {before : String} {patched : Patched} :
    state.Yields patch before patched ↔
      state.read patch.target = .ok before ∧ patch.apply before = .ok patched :=
  ⟨fun yields => ⟨yields.read, yields.applied⟩, fun both => ⟨both.1, both.2⟩⟩

private theorem not_yields_of_unread {fault : Fault} (read : state.read patch.target = .error fault)
    {before : String} {patched : Patched} : ¬ state.Yields patch before patched := by
  intro yields
  rw [yields.read] at read
  cases read

theorem not_yields_of_unapplied {text : String} {fault : Fault}
    (read : state.read patch.target = .ok text) (applied : patch.apply text = .error fault)
    {before : String} {patched : Patched} : ¬ state.Yields patch before patched := by
  intro yields
  obtain rfl : text = before := Except.ok.inj (read.symm.trans yields.read)
  rw [yields.applied] at applied
  cases applied

theorem State.Yields.unique {before text : String} {patched other : Patched}
    (yields : state.Yields patch before patched) (otherwise : state.Yields patch text other) :
    before = text ∧ patched = other := by
  obtain rfl : before = text := Except.ok.inj (yields.read.symm.trans otherwise.read)
  exact ⟨rfl, Except.ok.inj (yields.applied.symm.trans otherwise.applied)⟩

/-- The text that a readable path holds. -/
theorem get?_files_of_read {path content : String} (read : state.read path = .ok content) :
    state.files.get? path = some content := by
  unfold State.read at read
  split at read
  · cases read
  · split at read
    · next holds => rw [holds, Except.ok.inj read]
    · cases read

private theorem State.Yields.mem_write_iff {before : String} {patched : Patched}
    (yields : state.Yields patch before patched) (call : Call) :
    call ∈ [Call.write patch.target patched.content] ↔
      ∃ text other, state.Yields patch text other ∧ call = .write patch.target other.content := by
  rw [List.mem_singleton]
  constructor
  · exact fun same => ⟨before, patched, yields, same⟩
  · rintro ⟨text, other, otherwise, rfl⟩
    rw [(yields.unique otherwise).2]

theorem Runs.calls (runs : Runs patch state dryRun result after) :
    ∃ writes, after.calls = state.calls ++ .read patch.target :: writes ∧ writes.length ≤ 1 ∧
      ∀ call, call ∈ writes ↔ dryRun = false ∧ ∃ before patched,
        state.Yields patch before patched ∧ call = .write patch.target patched.content := by
  cases runs with
  | unread read =>
    refine ⟨[], rfl, by simp, fun call => iff_of_false List.not_mem_nil ?_⟩
    rintro ⟨-, before, patched, yields, -⟩
    exact not_yields_of_unread read yields
  | unapplied read applied =>
    refine ⟨[], rfl, by simp, fun call => iff_of_false List.not_mem_nil ?_⟩
    rintro ⟨-, before, patched, yields, -⟩
    exact not_yields_of_unapplied read applied yields
  | previewed yields => exact ⟨[], rfl, by simp, by simp⟩
  | @unwritten before patched fault yields refused =>
    refine ⟨[.write patch.target patched.content], List.append_assoc .., by simp, fun call => ?_⟩
    rw [yields.mem_write_iff, eq_self, true_and]
  | @written before patched yields allowed =>
    refine ⟨[.write patch.target patched.content], List.append_assoc .., by simp, fun call => ?_⟩
    rw [yields.mem_write_iff, eq_self, true_and]

theorem Runs.error_iff (runs : Runs patch state dryRun result after) (fault : Fault) :
    result = .error fault ↔
      state.read patch.target = .error fault ∨
        (∃ before, state.read patch.target = .ok before ∧ patch.apply before = .error fault) ∨
        dryRun = false ∧ ∃ before patched, state.Yields patch before patched ∧
          (state.write patch.target patched.content).1 = .error fault := by
  cases runs with
  | unread read =>
    simp [read, State.yields_iff]
  | unapplied read applied =>
    have noYield : ∀ before patched, ¬ state.Yields patch before patched :=
      fun _ _ => not_yields_of_unapplied read applied
    simp [read, applied, noYield]
  | previewed yields =>
    simp [yields.read, yields.applied]
  | @unwritten before patched fault yields refused =>
    simp [yields.read, yields.applied, State.yields_iff, write_eq_error_iff, refused]
  | @written before patched yields allowed =>
    simp [yields.read, yields.applied, State.yields_iff, write_eq_error_iff, allowed]

theorem Runs.files_of_error {fault : Fault} (runs : Runs patch state dryRun (.error fault) after) :
    after.files = state.files := by
  cases runs <;> rfl

theorem Runs.of_ok {outcome : Outcome} (runs : Runs patch state dryRun (.ok outcome) after) :
    ∃ before patched, state.Yields patch before patched ∧
      outcome = outcomeOf patch before patched (!dryRun) ∧
      after.files = if dryRun then state.files else state.files.put patch.target patched.content := by
  cases runs with
  | previewed yields => exact ⟨_, _, yields, rfl, rfl⟩
  | written yields allowed => exact ⟨_, _, yields, rfl, rfl⟩

private theorem get?_files_target {before content : String} (read : state.read patch.target = .ok before)
    (files : after.files = if dryRun then state.files else state.files.put patch.target content) :
    after.files.get? patch.target = some (if dryRun then before else content) := by
  cases dryRun with
  | true => rw [files, if_pos rfl, get?_files_of_read read, if_pos rfl]
  | false => rw [files, if_neg Bool.false_ne_true, Catalog.get?_put_self, if_neg Bool.false_ne_true]

private theorem get?_files_elsewhere {path content : String} (elsewhere : path ≠ patch.target)
    (files : after.files = if dryRun then state.files else state.files.put patch.target content) :
    after.files.get? path = state.files.get? path := by
  cases dryRun with
  | true => rw [files, if_pos rfl]
  | false => rw [files, if_neg Bool.false_ne_true, Catalog.get?_put, if_neg elsewhere.symm]

/-! ## The law of a run -/

/-- What a run from a state does, whatever the patch and wherever the storage fails. -/
structure RunLaw (dryRun : Bool) (patch : Patch) (state : State) (result : Except Fault Outcome)
    (after : State) : Prop where
  /-- The run reads the target once and then writes at most once. It writes when reading and applying succeed
  and it is not dry, to the target, and exactly what the patch made of the text. -/
  calls : ∃ writes, after.calls = state.calls ++ .read patch.target :: writes ∧ writes.length ≤ 1 ∧
    ∀ call, call ∈ writes ↔ dryRun = false ∧ ∃ before patched,
      state.Yields patch before patched ∧ call = .write patch.target patched.content
  /-- The run fails with the fault of the first step that fails. -/
  error_iff : ∀ fault, result = .error fault ↔
    state.read patch.target = .error fault ∨
      (∃ before, state.read patch.target = .ok before ∧ patch.apply before = .error fault) ∨
      dryRun = false ∧ ∃ before patched, state.Yields patch before patched ∧
        (state.write patch.target patched.content).1 = .error fault
  /-- A run that fails leaves every text as it was. -/
  of_error : ∀ fault, result = .error fault → after.files = state.files
  /-- A run that succeeds reports on the text that was read and the one that was made of it. It changes no
  path but the target, which holds the new text, or the old one after a dry run. -/
  of_ok : ∀ outcome, result = .ok outcome → ∃ before patched, state.Yields patch before patched ∧
    outcome = {
      kind := patch.kind
      path := patch.target
      matchCount := patched.matchCount
      linesBefore := lineCount before
      linesAfter := lineCount patched.content
      changed := decide (patched.content ≠ before)
      written := !dryRun } ∧
    after.files.get? patch.target = some (if dryRun then before else patched.content) ∧
    ∀ path, path ≠ patch.target → after.files.get? path = state.files.get? path

/-- Every run on a storage in memory obeys the law of a run. -/
theorem runLaw_runPatch (dryRun : Bool) (patch : Patch) (state : State) :
    RunLaw dryRun patch state (runPatch dryRun patch state).1 (runPatch dryRun patch state).2 := by
  have runs := runs_runPatch dryRun patch state
  refine ⟨runs.calls, runs.error_iff, ?_, ?_⟩
  · intro fault failed
    rw [failed] at runs
    exact runs.files_of_error
  · intro outcome succeeded
    rw [succeeded] at runs
    obtain ⟨before, patched, yields, report, files⟩ := runs.of_ok
    exact ⟨before, patched, yields, report, get?_files_target yields.read files,
      fun path elsewhere => get?_files_elsewhere elsewhere files⟩

end Patchwork.MemoryStorage
