import Patchwork.Engine
import Patchwork.Patch.DuplicateRemoval
import Patchwork.Proofs.Text.Line

/-!
# Kept lines

A line is either kept as it is or dropped and counted. The kept lines put together are a text again, and cutting
that text into lines gives back the kept lines, since each of them has kept its end.
-/

set_option autoImplicit false

namespace Patchwork.DuplicateRemoval

variable {patch : DuplicateRemoval} {index : Nat} {progress : Progress} {line : List Char}

/-! ## One line more -/

theorem judgeFrom_line_cons (rest : List (List Char)) :
    patch.judgeFrom index progress (line :: rest) =
      (((patch.judgeLine index progress line).1, line) ::
          (patch.judgeFrom (index + 1) (patch.judgeLine index progress line).2 rest).1,
        (patch.judgeFrom (index + 1) (patch.judgeLine index progress line).2 rest).2) := rfl

theorem judgeFrom_cons (rest : List (List Char)) :
    (patch.judgeFrom index progress (line :: rest)).1 =
      ((patch.judgeLine index progress line).1, line) ::
        (patch.judgeFrom (index + 1) (patch.judgeLine index progress line).2 rest).1 := rfl

theorem keptLines_cons_of_kept {verdict : Verdict} (kept : verdict = .kept)
    (judged : List (Verdict × List Char)) :
    keptLines ((verdict, line) :: judged) = line :: keptLines judged := by
  simp [keptLines, kept]

theorem keptLines_cons_of_dropped {verdict : Verdict} (dropped : verdict ≠ .kept)
    (judged : List (Verdict × List Char)) : keptLines ((verdict, line) :: judged) = keptLines judged := by
  simp [keptLines, dropped]

theorem droppedCount_cons_of_kept {verdict : Verdict} (kept : verdict = .kept)
    (judged : List (Verdict × List Char)) :
    droppedCount ((verdict, line) :: judged) = droppedCount judged := by
  simp [droppedCount, kept]

theorem droppedCount_cons_of_dropped {verdict : Verdict} (dropped : verdict ≠ .kept)
    (judged : List (Verdict × List Char)) :
    droppedCount ((verdict, line) :: judged) = droppedCount judged + 1 := by
  simp [droppedCount, dropped]

/-! ## Lines one after the other -/

theorem judgeFrom_append (front back : List (List Char)) :
    (patch.judgeFrom index progress (front ++ back)).1 =
      (patch.judgeFrom index progress front).1 ++
        (patch.judgeFrom (index + front.length) (patch.judgeFrom index progress front).2 back).1 := by
  induction front generalizing index progress with
  | nil => rfl
  | cons line rest inductionHypothesis =>
    rw [List.cons_append, judgeFrom_cons, inductionHypothesis, List.length_cons, Nat.add_right_comm,
      Nat.add_assoc]
    rfl

theorem keptLines_append (front back : List (Verdict × List Char)) :
    keptLines (front ++ back) = keptLines front ++ keptLines back := by
  simp [keptLines]

theorem droppedCount_append (front back : List (Verdict × List Char)) :
    droppedCount (front ++ back) = droppedCount front + droppedCount back := by
  simp [droppedCount]

/-! ## The lines of the output -/

theorem keptLines_sublist (patch : DuplicateRemoval) (index : Nat) (progress : Progress)
    (lines : List (List Char)) : (keptLines (patch.judgeFrom index progress lines).1).Sublist lines := by
  induction lines generalizing index progress with
  | nil => exact List.Sublist.refl _
  | cons line rest inductionHypothesis =>
    rw [judgeFrom_cons]
    by_cases kept : (patch.judgeLine index progress line).1 = .kept
    · rw [keptLines_cons_of_kept kept]
      exact (inductionHypothesis _ _).cons_cons line
    · rw [keptLines_cons_of_dropped kept]
      exact (inductionHypothesis _ _).cons line

theorem content_apply (content : String) :
    (patch.apply content).content = String.ofList (keptLines (patch.judge content.toList).1).flatten := rfl

/-- The lines of the output are the lines that were kept. -/
theorem lines_content_apply (content : String) :
    Text.lines (patch.apply content).content.toList = keptLines (patch.judge content.toList).1 := by
  have areLines := (Text.areLines_lines content.toList).sublist
    (keptLines_sublist patch 0 .start (Text.lines content.toList))
  rw [content_apply, String.toList_ofList]
  exact areLines.lines_flatten

theorem matchCount_apply (content : String) :
    (patch.apply content).matchCount = droppedCount (patch.judge content.toList).1 := rfl

theorem notes_apply (content : String) :
    (patch.apply content).notes = notes (patch.judge content.toList).1 (patch.judge content.toList).2 := rfl

theorem length_judgeFrom (index : Nat) (progress : Progress) (lines : List (List Char)) :
    (patch.judgeFrom index progress lines).1.length = lines.length := by
  induction lines generalizing index progress with
  | nil => rfl
  | cons line rest inductionHypothesis =>
    rw [judgeFrom_cons, List.length_cons, List.length_cons, inductionHypothesis]

theorem length_keptLines_add_droppedCount (judged : List (Verdict × List Char)) :
    (keptLines judged).length + droppedCount judged = judged.length := by
  rw [keptLines, List.length_map, ← List.countP_eq_length_filter, droppedCount,
    List.length_eq_countP_add_countP (fun line : Verdict × List Char => line.1 = .kept)]
  simp

theorem lineCount_apply_add_matchCount (content : String) :
    lineCount (patch.apply content).content + (patch.apply content).matchCount = lineCount content := by
  rw [lineCount, Text.lineCount, lines_content_apply, matchCount_apply,
    length_keptLines_add_droppedCount, judge, length_judgeFrom]
  rfl

/-- No line is empty, so a text from which lines were dropped is another text. -/
theorem content_apply_eq_self_iff (patch : DuplicateRemoval) (content : String) :
    (patch.apply content).content = content ↔ (patch.apply content).matchCount = 0 := by
  have accounted : lineCount (patch.apply content).content + (patch.apply content).matchCount =
      lineCount content := lineCount_apply_add_matchCount content
  constructor
  · intro same
    rw [same] at accounted
    omega
  · intro noMatch
    have sublist := keptLines_sublist patch 0 .start (Text.lines content.toList)
    rw [noMatch, Nat.add_zero, lineCount, lineCount, Text.lineCount, Text.lineCount,
      lines_content_apply] at accounted
    have sameLines : keptLines (patch.judge content.toList).1 = Text.lines content.toList :=
      sublist.eq_of_length accounted
    rw [content_apply, sameLines, Text.flatten_lines, String.ofList_toList]

theorem matchCount_apply_le_length (content : String) :
    (patch.apply content).matchCount ≤ content.length := by
  have accounted : lineCount (patch.apply content).content + (patch.apply content).matchCount =
      lineCount content := lineCount_apply_add_matchCount content
  have bound : lineCount content ≤ content.toList.length := Text.lineCount_le_length _
  rw [← String.length_toList]
  omega

/-- The lines of the output are the lines of the text without as many of them as are counted, each as it was and in
their order. -/
theorem lines_apply_accounted (patch : DuplicateRemoval) (content : String) :
    let patched := patch.apply content
    (Text.lines patched.content.toList).Sublist (Text.lines content.toList) ∧
      (Text.lines patched.content.toList).length + patched.matchCount =
        (Text.lines content.toList).length ∧
      patched.matchCount ≤ lineCount content ∧
      lineCount patched.content = lineCount content - patched.matchCount := by
  intro patched
  have accounted : lineCount patched.content + patched.matchCount = lineCount content :=
    lineCount_apply_add_matchCount content
  refine ⟨?_, accounted, by omega, by omega⟩
  rw [lines_content_apply]
  exact keptLines_sublist patch 0 .start (Text.lines content.toList)

end Patchwork.DuplicateRemoval
