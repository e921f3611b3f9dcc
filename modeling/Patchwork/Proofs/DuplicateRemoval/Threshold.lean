import Patchwork.Proofs.DuplicateRemoval.KeptLines

/-!
# The two sides of the threshold

A line up to the threshold is kept and changes nothing in the progress, whatever it holds. The lines past the
threshold are therefore judged as at the start, and their indices no longer matter. What becomes of them depends
neither on the lines before them nor on how many these are.
-/

set_option autoImplicit false

namespace Patchwork.DuplicateRemoval

variable {patch : DuplicateRemoval} {index : Nat} {progress : Progress}

/-! ## Up to the threshold -/

private theorem judgeLine_of_not_past (notPast : index ≤ patch.threshold) (line : List Char) :
    patch.judgeLine index .start line = (.kept, .start) := by
  have within : ¬ patch.threshold < index := Nat.not_lt.2 notPast
  simp [judgeLine, Progress.start, within]

theorem judgeFrom_of_not_past (lines : List (List Char))
    (notPast : index + lines.length ≤ patch.threshold + 1) :
    patch.judgeFrom index .start lines = (lines.map fun line => (.kept, line), .start) := by
  induction lines generalizing index with
  | nil => rfl
  | cons line rest inductionHypothesis =>
    rw [List.length_cons] at notPast
    have later : patch.judgeFrom (index + 1) .start rest = _ := inductionHypothesis (by omega)
    rw [judgeFrom_line_cons, judgeLine_of_not_past (by omega), later, List.map_cons]

theorem keptLines_map_kept (lines : List (List Char)) :
    keptLines (lines.map fun line => (.kept, line)) = lines := by
  simp [keptLines, List.filter_map, Function.comp_def]

theorem droppedCount_map_kept (lines : List (List Char)) :
    droppedCount (lines.map fun line => (.kept, line)) = 0 := by
  simp [droppedCount]

/-! ## Past the threshold -/

private theorem judgeLine_of_past {threshold other otherIndex : Nat} (past : threshold < index)
    (otherPast : other < otherIndex) (line : List Char) :
    { patch with threshold := threshold }.judgeLine index progress line =
      { patch with threshold := other }.judgeLine otherIndex progress line := by
  simp only [judgeLine, past, otherPast, marksPermission, marksDuplicate]

private theorem judgeFrom_of_past {threshold other otherIndex : Nat} (past : threshold < index)
    (otherPast : other < otherIndex) (lines : List (List Char)) :
    { patch with threshold := threshold }.judgeFrom index progress lines =
      { patch with threshold := other }.judgeFrom otherIndex progress lines := by
  induction lines generalizing index otherIndex progress with
  | nil => rfl
  | cons line rest inductionHypothesis =>
    -- Both indices grow, so both lists of lines stay past their thresholds.
    rw [judgeFrom_line_cons, judgeFrom_line_cons, judgeLine_of_past past otherPast,
      inductionHypothesis (Nat.lt_add_right 1 past) (Nat.lt_add_right 1 otherPast)]

/-! ## Both sides together -/

/-- The lines of a text judged as lines past the threshold with nothing remembered before them. -/
def judgePast (patch : DuplicateRemoval) (text : List Char) : List (Verdict × List Char) :=
  (patch.judgeFrom (patch.threshold + 1) .start (Text.lines text)).1

private theorem judgePast_threshold (threshold : Nat) (text : List Char) :
    { patch with threshold := threshold }.judgePast text = patch.judgePast text := by
  rw [judgePast, judgePast, judgeFrom_of_past (Nat.lt_succ_self threshold) (Nat.lt_succ_self patch.threshold)]

private theorem judge_head_append {head : List Char} (ended : '\n' ∈ head.getLast?)
    (upTo : Text.lineCount head = patch.threshold + 1) (tail : List Char) :
    (patch.judge (head ++ tail)).1 =
      ((Text.lines head).map fun line => (.kept, line)) ++ patch.judgePast tail := by
  have length : (Text.lines head).length = patch.threshold + 1 := upTo
  have judgedHead : patch.judgeFrom 0 .start (Text.lines head) = _ :=
    judgeFrom_of_not_past (Text.lines head) (by omega)
  rw [judge, Text.lines_append ended, judgeFrom_append, judgedHead, length, Nat.zero_add, judgePast]

theorem apply_head_append {head : String} (ended : '\n' ∈ head.toList.getLast?)
    (upTo : lineCount head = patch.threshold + 1) (tail : String) :
    (patch.apply (head ++ tail)).content =
        head ++ String.ofList (keptLines (patch.judgePast tail.toList)).flatten ∧
      (patch.apply (head ++ tail)).matchCount = droppedCount (patch.judgePast tail.toList) := by
  have judged := judge_head_append ended upTo tail.toList
  rw [← String.toList_append] at judged
  constructor
  · rw [content_apply, judged, keptLines_append, keptLines_map_kept, List.flatten_append,
      Text.flatten_lines, String.ofList_append, String.ofList_toList]
  · rw [matchCount_apply, judged, droppedCount_append, droppedCount_map_kept, Nat.zero_add]

theorem apply_of_not_past {content : String} (notPast : lineCount content ≤ patch.threshold + 1) :
    (patch.apply content).content = content ∧ (patch.apply content).matchCount = 0 := by
  have length : (Text.lines content.toList).length ≤ patch.threshold + 1 := notPast
  have judged : patch.judge content.toList = _ :=
    judgeFrom_of_not_past (Text.lines content.toList) (by omega)
  constructor
  · rw [content_apply, judged, keptLines_map_kept, Text.flatten_lines, String.ofList_toList]
  · rw [matchCount_apply, judged, droppedCount_map_kept]

/-- Behind a head of exactly the lines up to the threshold, the same tail is left with the same count, whatever the
threshold and the head; the head stays as it is. A text that has no line past the threshold stays as it is too. -/
theorem tail_independent_of_head (patch : DuplicateRemoval) :
    (∀ tail : String, ∃ (rest : String) (count : Nat), ∀ (threshold : Nat) (head : String),
      lineCount head = threshold + 1 → '\n' ∈ head.toList.getLast? →
        let patched := { patch with threshold := threshold }.apply (head ++ tail)
        patched.content = head ++ rest ∧ patched.matchCount = count) ∧
    ∀ content : String, lineCount content ≤ patch.threshold + 1 →
      (patch.apply content).content = content ∧ (patch.apply content).matchCount = 0 := by
  refine ⟨fun tail => ?_, fun content => apply_of_not_past⟩
  refine ⟨String.ofList (keptLines (patch.judgePast tail.toList)).flatten,
    droppedCount (patch.judgePast tail.toList), fun threshold head upTo ended => ?_⟩
  rw [← judgePast_threshold threshold]
  exact apply_head_append ended upTo tail

/-- One head holds a duplicate marker, the other one a permission marker and an `else:` line too. -/
theorem tail_independent_of_head_two_heads :
    let patch : DuplicateRemoval := ⟨"build.py", 2, "p", "d"⟩
    let tail := "else:\nd\np\nx\nd\n else:\ny"
    lineCount "d\n" = 0 + 1 ∧ '\n' ∈ "d\n".toList.getLast? ∧
      lineCount "p\nelse:\nd\n" = 2 + 1 ∧ '\n' ∈ "p\nelse:\nd\n".toList.getLast? ∧
      ({ patch with threshold := 0 }.apply ("d\n" ++ tail)).content = "d\n" ++ "else:\ny" ∧
      (patch.apply ("p\nelse:\nd\n" ++ tail)).content = "p\nelse:\nd\n" ++ "else:\ny" ∧
      (patch.apply ("p\nelse:\nd\n" ++ tail)).matchCount = 5 ∧
      lineCount "d\np\nelse:" ≤ patch.threshold + 1 ∧ (patch.apply "d\np\nelse:").matchCount = 0 := by
  intro patch tail
  have shortUpTo : lineCount "d\n" = 0 + 1 := by decide
  have shortEnded : '\n' ∈ "d\n".toList.getLast? := by decide
  have longUpTo : lineCount "p\nelse:\nd\n" = 2 + 1 := by decide
  have longEnded : '\n' ∈ "p\nelse:\nd\n".toList.getLast? := by decide
  have within : lineCount "d\np\nelse:" ≤ patch.threshold + 1 := by decide
  obtain ⟨rest, count, same⟩ := (tail_independent_of_head patch).1 tail
  have short := same 0 "d\n" shortUpTo shortEnded
  have long := same 2 "p\nelse:\nd\n" longUpTo longEnded
  have ran : ({ patch with threshold := 0 }.apply ("d\n" ++ tail)).content = "d\n" ++ "else:\ny" ∧
      ({ patch with threshold := 0 }.apply ("d\n" ++ tail)).matchCount = 5 := by
    decide +kernel
  -- The run with the short head says what is left of the tail, and so the run with the long one is known.
  obtain rfl : rest = "else:\ny" := (String.append_right_inj _).1 (short.1.symm.trans ran.1)
  obtain rfl : count = 5 := short.2.symm.trans ran.2
  exact ⟨shortUpTo, shortEnded, longUpTo, longEnded, ran.1, long.1, long.2, within,
    ((tail_independent_of_head patch).2 _ within).2⟩

end Patchwork.DuplicateRemoval
