import Patchwork.Proofs.Engine.Memory

/-!
# What a dry run foretells

A dry run and a real run from one state do the same until the real one writes: they read the same text and make
the same of it, and the outcome is computed from these two. So the dry run fails where the real run fails before
it writes, and otherwise it has the real run's outcome, whether or not the write would succeed.
-/

set_option autoImplicit false

namespace Patchwork.Engine

variable {σ : Type} {storage : Storage (StateM σ)} {patch : Patch} {state : σ} {fault : Fault}

/-- The target cannot be read, or the patch cannot be applied to its text. -/
def FailsEarly (storage : Storage (StateM σ)) (patch : Patch) (state : σ) (fault : Fault) : Prop :=
  (readTarget storage patch state).1 = .error fault ∨
    ∃ before, (readTarget storage patch state).1 = .ok before ∧ patch.apply before = .error fault

/-- What the dry run from a state says of the real run from that state. If the real run succeeds, the dry run has
its outcome, less the write. If reading or applying fails, both runs fail with the same fault. If the real run fails
for another reason, it is the write that fails, and the dry run succeeds. The dry run itself never writes, since it
is the same run on a storage that writes in any other way, and it leaves alone what reads and notes leave alone. -/
structure Foretold (storage : Storage (StateM σ)) (patch : Patch) (state : σ) : Prop where
  of_ok : ∀ outcome, ((run storage false patch).run state).1 = .ok outcome →
    outcome.written = true ∧
      ((run storage true patch).run state).1 = .ok { outcome with written := false }
  of_failsEarly : ∀ fault, FailsEarly storage patch state fault →
    ((run storage false patch).run state).1 = .error fault ∧
      ((run storage true patch).run state).1 = .error fault
  of_failsLate : ∀ fault, ((run storage false patch).run state).1 = .error fault →
    ¬ FailsEarly storage patch state fault →
      ∃ before patched, (readTarget storage patch state).1 = .ok before ∧
        patch.apply before = .ok patched ∧
        ((storage.write patch.target patched.content).run
          (noteAll storage (readTarget storage patch state).2 (appliedNotes patch before patched))).1 =
            .error fault ∧
        ((run storage true patch).run state).1 = .ok (outcomeOf patch before patched false)
  neverWrites : ∀ write, run { storage with write := write } true patch = run storage true patch
  untouched : ∀ {φ : Type} (view : σ → φ),
    (∀ path state, view ((storage.read path).run state).2 = view state) →
    (∀ entry state, view (storage.note entry state).2 = view state) →
      view ((run storage true patch).run state).2 = view state

private theorem view_noteAll {φ : Type} {view : σ → φ}
    (noteKeeps : ∀ entry state, view (storage.note entry state).2 = view state)
    (entries : List Log.Entry) : view (noteAll storage state entries) = view state := by
  induction entries generalizing state with
  | nil => rfl
  | cons entry rest inductionHypothesis => exact inductionHypothesis.trans (noteKeeps entry state)

private theorem view_run_dry {φ : Type} {view : σ → φ}
    (readKeeps : ∀ path state, view ((storage.read path).run state).2 = view state)
    (noteKeeps : ∀ entry state, view (storage.note entry state).2 = view state) :
    view ((run storage true patch).run state).2 = view state := by
  have readTargetKeeps : view (readTarget storage patch state).2 = view state :=
    (readKeeps _ _).trans (view_noteAll noteKeeps _)
  rcases read : readTarget storage patch state with ⟨fault | before, between⟩
  · rw [run_of_unread read, ← readTargetKeeps, read]
  rw [read] at readTargetKeeps
  cases applied : patch.apply before with
  | error fault =>
    rw [run_of_unapplied read applied]
    exact (view_noteAll noteKeeps _).trans readTargetKeeps
  | ok patched =>
    rw [run_of_applied read applied, finish_dry]
    exact (view_noteAll noteKeeps _).trans ((view_noteAll noteKeeps _).trans readTargetKeeps)

private theorem run_of_failsEarly (fails : FailsEarly storage patch state fault) (dryRun : Bool) :
    ((run storage dryRun patch).run state).1 = .error fault := by
  rcases read : readTarget storage patch state with ⟨other | before, between⟩
  · rw [FailsEarly, read] at fails
    rcases fails with unread | ⟨before, held, -⟩
    · rw [run_of_unread read]
      exact congrArg Except.error (Except.error.inj unread)
    · cases held
  · rw [FailsEarly, read] at fails
    rcases fails with unread | ⟨text, held, unapplied⟩
    · cases unread
    · obtain rfl := Except.ok.inj held
      rw [run_of_unapplied read unapplied]

/-- A run that does not fail early applies its patch, and what is left is to finish. -/
private theorem exists_finish_of_not_failsEarly (goesOn : ∀ fault, ¬ FailsEarly storage patch state fault) :
    ∃ before patched, (readTarget storage patch state).1 = .ok before ∧ patch.apply before = .ok patched ∧
      ∀ dryRun, (run storage dryRun patch).run state = (finish storage dryRun patch before patched).run
        (noteAll storage (readTarget storage patch state).2 (appliedNotes patch before patched)) := by
  rcases read : readTarget storage patch state with ⟨fault | before, between⟩
  · exact absurd (.inl (by rw [read])) (goesOn fault)
  cases applied : patch.apply before with
  | error fault => exact absurd (.inr ⟨before, by rw [read], applied⟩) (goesOn fault)
  | ok patched =>
    exact ⟨before, patched, rfl, applied, fun dryRun => run_of_applied read applied⟩

theorem foretold_run (storage : Storage (StateM σ)) (patch : Patch) (state : σ) :
    Foretold storage patch state where
  of_ok outcome succeeded := by
    have goesOn : ∀ fault, ¬ FailsEarly storage patch state fault := by
      intro fault fails
      rw [run_of_failsEarly fails] at succeeded
      cases succeeded
    obtain ⟨before, patched, -, -, ends⟩ := exists_finish_of_not_failsEarly goesOn
    rw [ends] at succeeded ⊢
    obtain rfl := eq_outcomeOf_of_finish succeeded
    exact ⟨rfl, by rw [finish_dry]; rfl⟩
  of_failsEarly fault fails := ⟨run_of_failsEarly fails false, run_of_failsEarly fails true⟩
  of_failsLate fault failed late := by
    have goesOn : ∀ other, ¬ FailsEarly storage patch state other := by
      intro other fails
      obtain rfl := Except.error.inj ((run_of_failsEarly fails false).symm.trans failed)
      exact late fails
    obtain ⟨before, patched, held, applied, ends⟩ := exists_finish_of_not_failsEarly goesOn
    refine ⟨before, patched, held, applied, ?_, by rw [ends, finish_dry]⟩
    rw [ends] at failed
    rcases wrote : (storage.write patch.target patched.content).run
      (noteAll storage (readTarget storage patch state).2 (appliedNotes patch before patched)) with
      ⟨other | _, final⟩
    · rw [finish_refused wrote] at failed
      exact congrArg Except.error (Except.error.inj failed)
    · rw [finish_written wrote] at failed
      cases failed
  neverWrites write := rfl
  untouched view readKeeps noteKeeps := view_run_dry readKeeps noteKeeps

end Patchwork.Engine

namespace Patchwork.MemoryStorage

open Engine (FailsEarly Foretold)

private theorem state_runPatch_dry (patch : Patch) (state : State) :
    (runPatch true patch state).2 = state.record (.read patch.target) := by
  have runs := runs_runPatch true patch state
  generalize (runPatch true patch state).1 = result at runs
  generalize (runPatch true patch state).2 = after at runs
  cases runs <;> rfl

/-- Whatever the storage and the patch, a dry run foretells the real run from the same state. On a storage in
memory, which may fail wherever it is told to, the dry run leaves behind one more call, to read the target, and
nothing else. -/
theorem dry_run_foretells_real_run (patch : Patch) :
    (∀ {σ : Type} (storage : Storage (StateM σ)) (state : σ), Foretold storage patch state) ∧
      ∀ state : State,
        (runPatch true patch state).2 = { state with calls := state.calls ++ [.read patch.target] } ∧
        ∀ fault, FailsEarly storage patch state fault ↔ state.read patch.target = .error fault ∨
          ∃ before, state.read patch.target = .ok before ∧ patch.apply before = .error fault :=
  ⟨fun storage state => Engine.foretold_run storage patch state,
    fun state => ⟨state_runPatch_dry patch state, fun _ => Iff.rfl⟩⟩

end Patchwork.MemoryStorage
