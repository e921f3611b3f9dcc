import Patchwork.Proofs.DuplicateRemoval.KeptLines
import Patchwork.Proofs.Text.Crlf

/-!
# Removal under another line ending

A line is judged by three tests: whether it is `else:`, and whether it holds the one or the other marker. A change
of lines that no test sees changes no verdict. Pairing the line feeds with carriage returns is such a change when
the markers hold no character that ends a line.
-/

set_option autoImplicit false

namespace Patchwork.DuplicateRemoval

open Text (toCrlf pairFeeds Unbroken)

variable {patch : DuplicateRemoval} {change : List Char → List Char}

/-! ## Changes that no test sees -/

/-- The changed line passes the same tests as the line. -/
structure Unseen (patch : DuplicateRemoval) (change : List Char → List Char) : Prop where
  isElse : ∀ line, isElse (change line) = isElse line
  marksPermission : ∀ line, patch.marksPermission (change line) = patch.marksPermission line
  marksDuplicate : ∀ line, patch.marksDuplicate (change line) = patch.marksDuplicate line

private theorem Unseen.judgeLine (unseen : patch.Unseen change) (index : Nat) (progress : Progress)
    (line : List Char) :
    patch.judgeLine index progress (change line) = patch.judgeLine index progress line := by
  simp only [DuplicateRemoval.judgeLine, unseen.isElse, unseen.marksPermission, unseen.marksDuplicate]

private theorem Unseen.judgeFrom (unseen : patch.Unseen change) (index : Nat) (progress : Progress)
    (lines : List (List Char)) :
    patch.judgeFrom index progress (lines.map change) =
      ((patch.judgeFrom index progress lines).1.map (Prod.map id change),
        (patch.judgeFrom index progress lines).2) := by
  induction lines generalizing index progress with
  | nil => rfl
  | cons line rest inductionHypothesis =>
    rw [List.map_cons, judgeFrom_line_cons, unseen.judgeLine, inductionHypothesis, judgeFrom_line_cons,
      List.map_cons, Prod.map_apply, id]

/-! ## Changed lines under the same verdicts -/

theorem keptLines_map (judged : List (Verdict × List Char)) :
    keptLines (judged.map (Prod.map id change)) = (keptLines judged).map change := by
  rw [keptLines, keptLines, List.filter_map, List.map_map, List.map_map]
  rfl

theorem droppedCount_map (judged : List (Verdict × List Char)) :
    droppedCount (judged.map (Prod.map id change)) = droppedCount judged := by
  rw [droppedCount, droppedCount, List.countP_map]
  rfl

private theorem notes_map (judged : List (Verdict × List Char)) (final : Progress) :
    notes (judged.map (Prod.map id change)) final = notes judged final := by
  rw [notes, notes, List.zipIdx_map, List.filterMap_map]
  rfl

/-! ## Line ends -/

theorem isElse_toCrlf (line : List Char) : isElse (toCrlf line) = isElse line := by
  rw [isElse, isElse, Text.trim_toCrlf, decide_eq_decide]
  exact Text.toCrlf_eq_iff (by decide)

private theorem unseen_toCrlf (permission : Unbroken patch.permissionMarker.toList)
    (duplicate : Unbroken patch.duplicateMarker.toList) : patch.Unseen toCrlf where
  isElse := isElse_toCrlf
  marksPermission := Text.contains_toCrlf permission
  marksDuplicate := Text.contains_toCrlf duplicate

theorem judge_toCrlf (permission : Unbroken patch.permissionMarker.toList)
    (duplicate : Unbroken patch.duplicateMarker.toList) (content : List Char) :
    patch.judge (toCrlf content) =
      ((patch.judge content).1.map (Prod.map id toCrlf), (patch.judge content).2) := by
  rw [judge, judge, Text.lines_toCrlf, (unseen_toCrlf permission duplicate).judgeFrom]

/-- With markers that hold no character that ends a line, a text whose line feeds get a carriage return each is
patched as before: the output is the same but for these carriage returns, and so are the count and the notes. -/
theorem apply_pairFeeds (patch : DuplicateRemoval) (content : String)
    (permission : Unbroken patch.permissionMarker.toList)
    (duplicate : Unbroken patch.duplicateMarker.toList) :
    let patched := patch.apply content
    let pairedPatched := patch.apply (pairFeeds content)
    pairedPatched.content = pairFeeds patched.content ∧
      pairedPatched.matchCount = patched.matchCount ∧ pairedPatched.notes = patched.notes := by
  intro patched pairedPatched
  have judged : patch.judge (pairFeeds content).toList =
      ((patch.judge content.toList).1.map (Prod.map id toCrlf), (patch.judge content.toList).2) := by
    rw [Text.toList_pairFeeds, judge_toCrlf permission duplicate]
  refine ⟨?_, ?_, ?_⟩
  · rw [content_apply, judged, keptLines_map, ← Text.toCrlf_flatten, pairFeeds, content_apply,
      String.toList_ofList]
  · rw [matchCount_apply, judged, droppedCount_map, matchCount_apply]
  · rw [notes_apply, judged, notes_map, notes_apply]

/-- The stray `else:` line has blanks around it, a marker ends in a blank, and the last line has no end. -/
theorem apply_pairFeeds_through_block :
    let patch : DuplicateRemoval := ⟨"build.py", 0, "p ", "d"⟩
    let content := "a\np \n\t else: \n\n d\nb\nd\nelse:"
    Unbroken patch.permissionMarker.toList ∧ Unbroken patch.duplicateMarker.toList ∧
      (patch.apply (pairFeeds content)).content = "a\r\np \r\n\r\nelse:" ∧
      (patch.apply (pairFeeds content)).matchCount = 4 := by
  intro patch content
  have permission : Unbroken patch.permissionMarker.toList := ⟨by decide, by decide⟩
  have duplicate : Unbroken patch.duplicateMarker.toList := ⟨by decide, by decide⟩
  obtain ⟨text, count, -⟩ := apply_pairFeeds patch content permission duplicate
  exact ⟨permission, duplicate, text.trans (by decide +kernel), count.trans (by decide +kernel)⟩

end Patchwork.DuplicateRemoval
