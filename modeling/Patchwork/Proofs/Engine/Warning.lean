import Patchwork.Proofs.DuplicateRemoval.KeptLines
import Patchwork.Proofs.Engine.Memory
import Patchwork.Proofs.StepInsertion.LineCount

/-!
# When a run warns

A run warns when its patch has no match. Whether the text changes is found out by comparing it with the one that
was read. For the patches that insert steps or remove duplicates the two agree: every match puts at least one line
feed in or takes at least one line out.

To speak of what is noted on any storage, the storage is wrapped in one that also remembers the notes.
-/

set_option autoImplicit false

namespace Patchwork

variable {σ : Type}

/-! ## Listening to a storage -/

/-- The storage, with the notes that it was given kept in order beside its state. -/
def Storage.heard (storage : Storage (StateM σ)) : Storage (StateM (σ × List Log.Entry)) where
  read path := ExceptT.mk fun (state, entries) =>
    let (answer, after) := (storage.read path).run state
    (answer, after, entries)
  write path content := ExceptT.mk fun (state, entries) =>
    let (answer, after) := (storage.write path content).run state
    (answer, after, entries)
  note entry := fun (state, entries) => ((), (storage.note entry state).2, entries ++ [entry])

namespace Engine

variable {storage : Storage (StateM σ)} {dryRun : Bool} {patch : Patch} {state after between : σ}
  {before : String} {patched : Patched} {entries : List Log.Entry}

theorem noteAll_heard (more : List Log.Entry) :
    noteAll storage.heard (state, entries) more = (noteAll storage state more, entries ++ more) := by
  induction more generalizing state entries with
  | nil => simp [noteAll]
  | cons entry rest inductionHypothesis =>
    refine inductionHypothesis.trans ?_
    simp [noteAll]

theorem readTarget_heard {answer : Except Fault String}
    (read : readTarget storage patch state = (answer, after)) :
    readTarget storage.heard patch (state, entries) = (answer, after, entries ++ [openingNote patch]) := by
  have listened : readTarget storage.heard patch (state, entries) =
      ((readTarget storage patch state).1, (readTarget storage patch state).2,
        entries ++ [openingNote patch]) := rfl
  rw [listened, read]

private theorem write_heard {path content : String} {answer : Except Fault Unit}
    (wrote : (storage.write path content).run state = (answer, after)) :
    (storage.heard.write path content).run (state, entries) = (answer, after, entries) := by
  have listened : (storage.heard.write path content).run (state, entries) =
      (((storage.write path content).run state).1, ((storage.write path content).run state).2, entries) := rfl
  rw [listened, wrote]

private theorem finish_heard (storage : Storage (StateM σ)) (dryRun : Bool) (patch : Patch) (before : String)
    (patched : Patched) (state : σ) (entries : List Log.Entry) :
    ∃ final : List Log.Entry, (∀ entry ∈ final, entry.level = .info) ∧
      (finish storage.heard dryRun patch before patched).run (state, entries) =
        (((finish storage dryRun patch before patched).run state).1,
          ((finish storage dryRun patch before patched).run state).2, entries ++ final) := by
  cases dryRun with
  | true =>
    refine ⟨[dryNote patch, closingNote (outcomeOf patch before patched false)], ?_, ?_⟩
    · simp [dryNote, closingNote, Log.info]
    · rw [finish_dry, finish_dry, noteAll_heard]
  | false =>
    rcases wrote : (storage.write patch.target patched.content).run state with ⟨fault | _, final⟩
    · refine ⟨[], by simp, ?_⟩
      rw [finish_refused wrote, finish_refused (write_heard wrote), List.append_nil]
    · refine ⟨[closingNote (outcomeOf patch before patched true)], by simp [closingNote, Log.info], ?_⟩
      rw [finish_written wrote, finish_written (write_heard wrote), noteAll_heard]

/-! ## What is heard of a run -/

def notesOf (storage : Storage (StateM σ)) (dryRun : Bool) (patch : Patch) (state : σ) : List Log.Entry :=
  ((run storage.heard dryRun patch).run (state, [])).2.2

private theorem run_heard_of_applied (dryRun : Bool) (read : readTarget storage patch state = (.ok before, between))
    (applied : patch.apply before = .ok patched) :
    ∃ final : List Log.Entry, (∀ entry ∈ final, entry.level = .info) ∧
      (run storage.heard dryRun patch).run (state, []) =
        (((run storage dryRun patch).run state).1, ((run storage dryRun patch).run state).2,
          openingNote patch :: (appliedNotes patch before patched ++ final)) := by
  rw [run_of_applied read applied, run_of_applied (readTarget_heard read) applied, noteAll_heard]
  exact finish_heard storage dryRun patch before patched _ _

private theorem idleWarning_mem_iff {final : List Log.Entry} (infos : ∀ entry ∈ final, entry.level = .info)
    (silent : idleWarning patch ∉ patched.notes) :
    idleWarning patch ∈ openingNote patch :: (appliedNotes patch before patched ++ final) ↔
      patched.matchCount = 0 := by
  have notFinal : idleWarning patch ∉ final := by
    intro member
    cases infos _ member
  have notOpening : idleWarning patch ≠ openingNote patch := by
    simp [idleWarning, openingNote, Log.warn, Log.info]
  have notSize : idleWarning patch ≠ sizeNote patch before := by
    simp [idleWarning, sizeNote, Log.warn, Log.debug]
  by_cases noMatch : patched.matchCount = 0 <;>
    simp [appliedNotes, notFinal, notOpening, notSize, silent, noMatch]

end Engine

/-! ## Patches that count what they do -/

/-- The patches that settings can ask for. -/
inductive Patch.Builtin : Patch → Prop where
  | insertion (insertion : StepInsertion) : Builtin insertion.toPatch
  | removal (removal : DuplicateRemoval) : Builtin removal.toPatch

private theorem DuplicateRemoval.idleWarning_not_mem_notes (patch : Patch) (judged : List (Verdict × List Char))
    (final : Progress) : Engine.idleWarning patch ∉ notes judged final := by
  intro member
  rcases List.mem_append.1 member with about | unclosed
  · obtain ⟨line, -, noted⟩ := List.mem_filterMap.1 about
    cases verdict : line.1.1 <;> rw [verdict] at noted <;>
      simp [Verdict.note?, Engine.idleWarning, Log.debug, Log.warn] at noted
  · -- Both are warnings, and their texts differ from the first letter on.
    obtain ⟨-, sameMessage⟩ : final.blockOpen = true ∧ (Engine.idleWarning patch).message = _ := by
      simpa [Engine.idleWarning, Log.warn] using unclosed
    have firstLetter := congrArg (fun text : String => text.toList.head?) sameMessage
    simp [Engine.idleWarning, Log.warn, toString] at firstLetter

theorem Patch.Builtin.content_eq_iff {patch : Patch} {before : String} {patched : Patched}
    (builtin : patch.Builtin) (applied : patch.apply before = .ok patched) :
    patched.content = before ↔ patched.matchCount = 0 := by
  cases builtin with
  | insertion insertion =>
    obtain rfl := Except.ok.inj applied
    exact insertion.content_apply_eq_self_iff before
  | removal removal =>
    obtain rfl := Except.ok.inj applied
    exact removal.content_apply_eq_self_iff before

private theorem Patch.Builtin.idleWarning_not_mem {patch : Patch} {before : String} {patched : Patched}
    (builtin : patch.Builtin) (applied : patch.apply before = .ok patched) :
    Engine.idleWarning patch ∉ patched.notes := by
  cases builtin with
  | insertion insertion =>
    obtain rfl := Except.ok.inj applied
    simp [StepInsertion.apply, Engine.idleWarning, Log.warn, Log.debug]
  | removal removal =>
    obtain rfl := Except.ok.inj applied
    exact DuplicateRemoval.idleWarning_not_mem_notes _ _ _

/-! ## The law of the warning -/

namespace Engine

variable {storage : Storage (StateM σ)} {dryRun : Bool} {patch : Patch} {state : σ}

/-- The patch leaves the text that the run reads as it is. -/
def Idle (storage : Storage (StateM σ)) (patch : Patch) (state : σ) : Prop :=
  ∃ before patched, (readTarget storage patch state).1 = .ok before ∧ patch.apply before = .ok patched ∧
    patched.content = before

/-- What the outcome and the notes of a run say about the text. Listening does not change the run. A run that
succeeds says that the text changed exactly when there are matches, and it warns exactly when it does not say so.
Any run, also one that fails to write, warns exactly when the patch leaves the text as it is. -/
structure WarningLaw (storage : Storage (StateM σ)) (dryRun : Bool) (patch : Patch) (state : σ) : Prop where
  overheard : (run storage.heard dryRun patch).run (state, []) =
    (((run storage dryRun patch).run state).1, ((run storage dryRun patch).run state).2,
      notesOf storage dryRun patch state)
  changed_iff : ∀ outcome, ((run storage dryRun patch).run state).1 = .ok outcome →
    (outcome.changed = true ↔ 0 < outcome.matchCount)
  warned_iff_unchanged : ∀ outcome, ((run storage dryRun patch).run state).1 = .ok outcome →
    (idleWarning patch ∈ notesOf storage dryRun patch state ↔ outcome.changed = false)
  warned_iff_idle : idleWarning patch ∈ notesOf storage dryRun patch state ↔ Idle storage patch state

theorem notesOf_eq {result : Except Fault Outcome} {after : σ} {noted : List Log.Entry}
    (heard : (run storage.heard dryRun patch).run (state, []) = (result, after, noted)) :
    notesOf storage dryRun patch state = noted := by
  rw [notesOf, heard]

private theorem warningLaw_of_error {fault : Fault} {after : σ} {noted : List Log.Entry}
    (ran : (run storage dryRun patch).run state = (.error fault, after))
    (heard : (run storage.heard dryRun patch).run (state, []) = (.error fault, after, noted))
    (quiet : idleWarning patch ∉ noted) (notIdle : ¬ Idle storage patch state) :
    WarningLaw storage dryRun patch state where
  overheard := by rw [heard, ran, notesOf_eq heard]
  changed_iff := by simp [ran]
  warned_iff_unchanged := by simp [ran]
  warned_iff_idle := by simp [notesOf_eq heard, quiet, notIdle]

private theorem warningLaw_of_applied {between : σ} {before : String} {patched : Patched}
    (read : readTarget storage patch state = (.ok before, between))
    (applied : patch.apply before = .ok patched)
    (counts : patched.content = before ↔ patched.matchCount = 0)
    (silent : idleWarning patch ∉ patched.notes) : WarningLaw storage dryRun patch state := by
  obtain ⟨final, infos, heard⟩ := run_heard_of_applied dryRun read applied
  have warned : idleWarning patch ∈ notesOf storage dryRun patch state ↔ patched.matchCount = 0 := by
    rw [notesOf_eq heard]
    exact idleWarning_mem_iff infos silent
  have reports : ∀ outcome, ((run storage dryRun patch).run state).1 = .ok outcome →
      outcome = outcomeOf patch before patched (!dryRun) := by
    intro outcome succeeded
    rw [run_of_applied read applied] at succeeded
    exact eq_outcomeOf_of_finish succeeded
  refine ⟨by rw [heard, notesOf_eq heard], ?_, ?_, ?_⟩
  · intro outcome succeeded
    simp [reports outcome succeeded, outcomeOf, counts, Nat.pos_iff_ne_zero]
  · intro outcome succeeded
    simp [reports outcome succeeded, outcomeOf, counts, warned]
  · rw [warned, ← counts]
    constructor
    · exact fun same => ⟨before, patched, by rw [read], applied, same⟩
    · rintro ⟨text, other, readText, appliedText, same⟩
      rw [read] at readText
      obtain rfl := Except.ok.inj readText
      obtain rfl := Except.ok.inj (applied.symm.trans appliedText)
      exact same

/-- On every storage, a run of a patch that settings can ask for says that the text changed exactly when it has
matches, and warns exactly when the text stays as it was. -/
theorem run_warns_iff_unchanged (storage : Storage (StateM σ)) (dryRun : Bool) {patch : Patch}
    (builtin : patch.Builtin) (state : σ) : WarningLaw storage dryRun patch state := by
  rcases read : readTarget storage patch state with ⟨fault | before, between⟩
  · refine warningLaw_of_error (run_of_unread read) (run_of_unread (readTarget_heard read)) ?_ ?_
    · simp [idleWarning, openingNote, Log.warn, Log.info]
    · rintro ⟨before, patched, readText, -⟩
      rw [read] at readText
      cases readText
  cases applied : patch.apply before with
  | error fault =>
    refine warningLaw_of_error (run_of_unapplied read applied)
      ((run_of_unapplied (readTarget_heard read) applied).trans (by rw [noteAll_heard])) ?_ ?_
    · simp [idleWarning, openingNote, sizeNote, Log.warn, Log.info, Log.debug]
    · rintro ⟨text, patched, readText, appliedText, -⟩
      rw [read] at readText
      obtain rfl := Except.ok.inj readText
      cases applied.symm.trans appliedText
  | ok patched =>
    exact warningLaw_of_applied read applied (builtin.content_eq_iff applied)
      (builtin.idleWarning_not_mem applied)

/-- A marker and a step that are both empty still put a line feed in before each blank, and a removal that finds
nothing leaves the text as it is and is warned about. -/
theorem run_warns_iff_unchanged_empty_and_idle :
    let insertion := (⟨"f", "", ""⟩ : StepInsertion).toPatch
    let removal := (⟨"f", 0, "p", "d"⟩ : DuplicateRemoval).toPatch
    let state : MemoryStorage.State := ⟨[("f", "a b\n")], [], [], []⟩
    insertion.Builtin ∧ WarningLaw MemoryStorage.storage false insertion state ∧
      (MemoryStorage.runPatch false insertion state).1.toOption =
        some ⟨.workflowPermissions, "f", 2, 1, 3, true, true⟩ ∧
      removal.Builtin ∧ WarningLaw MemoryStorage.storage true removal state ∧
      (MemoryStorage.runPatch true removal state).1.toOption =
        some ⟨.buildFix, "f", 0, 1, 1, false, false⟩ :=
  ⟨.insertion _, run_warns_iff_unchanged _ _ (.insertion _) _, by decide +kernel, .removal _,
    run_warns_iff_unchanged _ _ (.removal _) _, by decide +kernel⟩

end Engine

end Patchwork
