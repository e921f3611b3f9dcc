import Patchwork.Proofs.DuplicateRemoval.KeptLines
import Patchwork.Proofs.DuplicateRemoval.Rules

/-!
# Removing again and again

A line that is kept moves towards the start of the text, so a line past the threshold of the output was past it in
the input too. None of them holds the duplicate marker, and on such a text no block is opened any more: what
another run drops are stray `else:` lines, each of them for a line with the permission marker.
-/

set_option autoImplicit false

namespace Patchwork.DuplicateRemoval

variable {patch : DuplicateRemoval} {index : Nat} {progress : Progress} {line : List Char}

/-! ## Lines taken out -/

/-- The lines `after` are what is left of `before` when `count` lines are taken out, each of which may be. -/
inductive Drops (may : List Char → Prop) : Nat → List (List Char) → List (List Char) → Prop where
  | none : Drops may 0 [] []
  | keep {count line before after} (later : Drops may count before after) :
      Drops may count (line :: before) (line :: after)
  | drop {count line before after} (allowed : may line) (later : Drops may count before after) :
      Drops may (count + 1) (line :: before) after

theorem Drops.eq_of_zero {may : List Char → Prop} {before after : List (List Char)}
    (drops : Drops may 0 before after) : after = before := by
  generalize nothing : 0 = count at drops
  induction drops with
  | none => rfl
  | keep _ inductionHypothesis => rw [inductionHypothesis nothing]
  | drop => cases nothing

/-! ## Kept lines past the threshold -/

theorem holdsAt_cons_succ (line : List Char) (rest : List (List Char)) (test : List Char → Bool) (position : Nat) :
    holdsAt (line :: rest) test (position + 1) = holdsAt rest test position := rfl

private theorem marksDuplicate_of_kept (past : patch.threshold < index)
    (kept : (patch.judgeLine index progress line).1 = .kept) : patch.marksDuplicate line = false := by
  simp only [judgeLine, past, decide_true, Bool.true_and] at kept
  split at kept
  · cases kept
  split at kept
  · split at kept <;> cases kept
  split at kept
  · cases kept
  · next unmarked => exact Bool.eq_false_iff.2 unmarked

private theorem holdsAt_keptLines (lines : List (List Char)) (position : Nat)
    (past : patch.threshold < index + position) :
    holdsAt (keptLines (patch.judgeFrom index progress lines).1) patch.marksDuplicate position = false := by
  induction lines generalizing index progress position with
  | nil => rfl
  | cons line rest inductionHypothesis =>
    rw [judgeFrom_cons]
    by_cases kept : (patch.judgeLine index progress line).1 = .kept
    · rw [keptLines_cons_of_kept kept]
      cases position with
      | zero => exact marksDuplicate_of_kept past kept
      | succ position =>
        rw [holdsAt_cons_succ]
        exact inductionHypothesis position (by omega)
    · -- A line after a dropped one moves one place forward, and so it was past the threshold all the more.
      rw [keptLines_cons_of_dropped kept]
      exact inductionHypothesis position (by omega)

theorem duplicateAt_apply (content : String) (index : Nat) :
    patch.duplicateAt (Text.lines (patch.apply content).content.toList) index = false := by
  rw [duplicateAt, lines_content_apply]
  by_cases past : patch.threshold < index
  · rw [judge, holdsAt_keptLines _ _ (by omega), Bool.and_false]
  · simp [past]

/-! ## Texts without a duplicate marker past the threshold -/

/-- How many of the lines, the first of which has the given index, are past the threshold and hold the permission
marker. -/
def permissionLines (patch : DuplicateRemoval) (index : Nat) (lines : List (List Char)) : Nat :=
  (lines.zipIdx index).countP fun line => patch.threshold < line.2 && patch.marksPermission line.1

private theorem permissionLines_cons (rest : List (List Char)) :
    patch.permissionLines index (line :: rest) =
      patch.permissionLines (index + 1) rest +
        if patch.threshold < index && patch.marksPermission line then 1 else 0 := by
  rw [permissionLines, List.zipIdx_cons, List.countP_cons, permissionLines]

private theorem judgeLine_of_closed (index : Nat) (closed : progress.blockOpen = false)
    (unmarked : patch.threshold < index → patch.marksDuplicate line = false) :
    patch.judgeLine index progress line =
      if progress.awaitsElse && isElse line then (.strayElse, ⟨false, false⟩)
      else (.kept, ⟨progress.awaitsElse ||
        (patch.threshold < index && patch.marksPermission line), false⟩) := by
  have noDuplicate : (decide (patch.threshold < index) && patch.marksDuplicate line) = false := by
    by_cases past : patch.threshold < index
    · rw [unmarked past, Bool.and_false]
    · simp [past]
  simp only [judgeLine, closed, noDuplicate, Bool.false_eq_true, if_false]

private theorem drops_judgeFrom_of_closed (index : Nat) (progress : Progress) (lines : List (List Char))
    (closed : progress.blockOpen = false)
    (unmarked : ∀ position, patch.threshold < index + position →
      holdsAt lines patch.marksDuplicate position = false) :
    Drops (fun line => isElse line = true) (droppedCount (patch.judgeFrom index progress lines).1) lines
        (keptLines (patch.judgeFrom index progress lines).1) ∧
      droppedCount (patch.judgeFrom index progress lines).1 ≤
        patch.permissionLines index lines + if progress.awaitsElse then 1 else 0 := by
  induction lines generalizing index progress with
  | nil => exact ⟨.none, Nat.zero_le _⟩
  | cons line rest inductionHypothesis =>
    have unmarkedLater : ∀ position, patch.threshold < index + 1 + position →
        holdsAt rest patch.marksDuplicate position = false := by
      intro position past
      rw [← holdsAt_cons_succ line]
      exact unmarked (position + 1) (by omega)
    have judged := judgeLine_of_closed index closed (unmarked 0)
    rw [judgeFrom_cons, permissionLines_cons]
    cases stray : progress.awaitsElse && isElse line with
    | true =>
      rw [stray, if_pos rfl] at judged
      rw [Bool.and_eq_true] at stray
      obtain ⟨drops, bound⟩ := inductionHypothesis (index + 1) ⟨false, false⟩ rfl unmarkedLater
      rw [judged, keptLines_cons_of_dropped (by simp), droppedCount_cons_of_dropped (by simp), stray.1]
      refine ⟨.drop stray.2 drops, ?_⟩
      simp only [Bool.false_eq_true, if_false, if_true] at bound ⊢
      omega
    | false =>
      rw [stray, if_neg Bool.false_ne_true] at judged
      rw [judged, keptLines_cons_of_kept rfl, droppedCount_cons_of_kept rfl]
      obtain ⟨drops, bound⟩ := inductionHypothesis (index + 1)
        ⟨progress.awaitsElse || (patch.threshold < index && patch.marksPermission line), false⟩ rfl
        unmarkedLater
      refine ⟨.keep drops, Nat.le_trans bound ?_⟩
      -- The next `else:` is awaited because of this line or because it was awaited before.
      cases progress.awaitsElse <;>
        cases decide (patch.threshold < index) && patch.marksPermission line <;> simp

private theorem permissionLines_eq_zero {lines : List (List Char)}
    (noPermission : ∀ index, patch.permissionAt lines index = false) : patch.permissionLines 0 lines = 0 := by
  rw [permissionLines, List.countP_eq_zero]
  rintro ⟨line, index⟩ member
  have here := List.mk_mem_zipIdx_iff_getElem?.1 member
  have notHere := noPermission index
  rw [permissionAt, holdsAt_eq here] at notHere
  exact Bool.eq_false_iff.1 notHere

/-! ## One run after the other -/

section Unmarked

variable {content : String}
  (unmarked : ∀ index, patch.duplicateAt (Text.lines content.toList) index = false)

include unmarked

theorem drops_apply_of_unmarked :
    Drops (fun line => isElse line = true) (patch.apply content).matchCount
        (Text.lines content.toList) (Text.lines (patch.apply content).content.toList) ∧
      (patch.apply content).matchCount ≤ patch.permissionLines 0 (Text.lines content.toList) := by
  have notHeld : ∀ position, patch.threshold < 0 + position →
      holdsAt (Text.lines content.toList) patch.marksDuplicate position = false := by
    intro position past
    have here := unmarked position
    rwa [duplicateAt, decide_eq_true (by omega), Bool.true_and] at here
  obtain ⟨drops, bound⟩ :=
    drops_judgeFrom_of_closed 0 .start (Text.lines content.toList) rfl notHeld
  rw [lines_content_apply, matchCount_apply]
  exact ⟨drops, bound⟩

theorem apply_eq_self_of_unmarked
    (noPermission : ∀ index, patch.permissionAt (Text.lines content.toList) index = false) :
    (patch.apply content).content = content ∧ (patch.apply content).matchCount = 0 := by
  obtain ⟨drops, bound⟩ := drops_apply_of_unmarked unmarked
  rw [permissionLines_eq_zero noPermission, Nat.le_zero] at bound
  rw [bound] at drops
  refine ⟨?_, bound⟩
  rw [← String.toList_inj, ← Text.flatten_lines (patch.apply content).content.toList, drops.eq_of_zero,
    Text.flatten_lines]

end Unmarked

/-- In the text after any run no line past the threshold holds the duplicate marker. Another run drops only `else:`
lines, and at most one for each line past the threshold with the permission marker; without such a line it changes
nothing. -/
theorem rerun_drops_only_else_lines (patch : DuplicateRemoval) (content : String) (runs : Nat) :
    let input := afterRuns patch.apply content (runs + 1)
    let rerun := patch.apply input
    (∀ index, patch.duplicateAt (Text.lines input.toList) index = false) ∧
      Drops (fun line => isElse line = true) rerun.matchCount (Text.lines input.toList)
        (Text.lines rerun.content.toList) ∧
      rerun.matchCount ≤ patch.permissionLines 0 (Text.lines input.toList) ∧
      ((∀ index, patch.permissionAt (Text.lines input.toList) index = false) →
        rerun.content = input ∧ rerun.matchCount = 0) := by
  intro input rerun
  have unmarked : ∀ index, patch.duplicateAt (Text.lines input.toList) index = false :=
    duplicateAt_apply (afterRuns patch.apply content runs)
  obtain ⟨drops, bound⟩ := drops_apply_of_unmarked unmarked
  exact ⟨unmarked, drops, bound, apply_eq_self_of_unmarked unmarked⟩

/-- After the first text the line with the permission marker is still there, and the next run drops an `else:`
line more. In the second text it stands in a block, and the next run changes nothing. -/
theorem rerun_drops_only_else_lines_one_and_none :
    let patch : DuplicateRemoval := ⟨"build.py", 0, "p", "d"⟩
    let dropping := afterRuns patch.apply "d\np\nelse:\n else:\nx\nd\np" 1
    let settled := afterRuns patch.apply "x\nd\np\nelse:\nd\nelse:\n" 1
    Drops (fun line => isElse line = true) 1 (Text.lines dropping.toList)
        (Text.lines "d\np\nx\n".toList) ∧
      (∀ index, patch.permissionAt (Text.lines settled.toList) index = false) ∧
      (patch.apply settled).content = settled ∧ (patch.apply settled).matchCount = 0 := by
  intro patch dropping settled
  have rerun : (patch.apply dropping).content = "d\np\nx\n" ∧ (patch.apply dropping).matchCount = 1 := by
    decide +kernel
  have settledLines : Text.lines settled.toList = ["x\n".toList, "else:\n".toList] := by decide +kernel
  have noPermission : ∀ index, patch.permissionAt (Text.lines settled.toList) index = false := by
    intro index
    rw [settledLines]
    match index with
    | 0 => decide
    | 1 => decide
    | _ + 2 => exact Bool.and_false _
  obtain ⟨-, drops, -⟩ :=
    rerun_drops_only_else_lines patch "d\np\nelse:\n else:\nx\nd\np" 0
  have same := (rerun_drops_only_else_lines patch "x\nd\np\nelse:\nd\nelse:\n" 0).2.2.2 noPermission
  refine ⟨?_, noPermission, same⟩
  rw [← rerun.1, ← rerun.2]
  exact drops

end Patchwork.DuplicateRemoval
