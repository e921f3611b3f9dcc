import Mathlib.Data.List.Infix
import Patchwork.Engine
import Patchwork.Proofs.Text.Line

/-!
# Lines told apart and counted

The lines of a text are the one way to cut it so that no piece is empty and a line feed ends each piece but the
last, which it may end too, and stands nowhere else. Two texts put together have the lines of both, except that
an open last line of the first goes on in the first line of the second: the two count once.
-/

set_option autoImplicit false

namespace Patchwork.Text

variable {text piece : List Char} {pieces rest : List (List Char)}

/-! ## Lines told apart -/

/-- The text cut after each of its line feeds and nowhere else. -/
structure CutAfterFeeds (text : List Char) (pieces : List (List Char)) : Prop where
  whole : pieces.flatten = text
  nonempty : ∀ piece ∈ pieces, piece ≠ []
  /-- Only the last piece may lack a line feed. -/
  ended : ∀ piece ∈ pieces.dropLast, '\n' ∈ piece.getLast?
  /-- No piece goes on behind a line feed. -/
  unbroken : ∀ piece ∈ pieces, '\n' ∉ piece.dropLast

private theorem areLines_cons_iff :
    AreLines (piece :: rest) ↔
      piece ≠ [] ∧ '\n' ∉ piece.dropLast ∧ (rest ≠ [] → '\n' ∈ piece.getLast?) ∧ AreLines rest := by
  constructor
  · intro areLines
    cases areLines with
    | last nonempty noFeed =>
      exact ⟨nonempty, fun inside => noFeed (List.mem_of_mem_dropLast inside), absurd rfl, .none⟩
    | @ended body _ noFeed restLines =>
      exact ⟨by simp, by simpa using noFeed, fun _ => by simp, restLines⟩
  · intro ⟨nonempty, unbroken, ended, restLines⟩
    by_cases feed : piece.getLast nonempty = '\n'
    · have shape : piece.dropLast ++ ['\n'] = piece := by
        simpa only [feed] using List.dropLast_concat_getLast nonempty
      have endedPiece : AreLines ((piece.dropLast ++ ['\n']) :: rest) := .ended unbroken restLines
      simpa only [shape] using endedPiece
    · -- An open piece has nothing behind it.
      cases rest with
      | nil =>
        refine .last nonempty fun inside => unbroken ?_
        exact List.mem_dropLast_of_mem_of_ne_getLast inside (Ne.symm feed)
      | cons next more =>
        have endsInFeed := ended (List.cons_ne_nil next more)
        simp only [List.getLast?_eq_some_getLast nonempty, Option.mem_some] at endsInFeed
        exact absurd endsInFeed feed

theorem areLines_iff :
    AreLines pieces ↔
      (∀ piece ∈ pieces, piece ≠ []) ∧ (∀ piece ∈ pieces.dropLast, '\n' ∈ piece.getLast?) ∧
        ∀ piece ∈ pieces, '\n' ∉ piece.dropLast := by
  induction pieces with
  | nil => simp [AreLines.none]
  | cons piece rest inductionHypothesis =>
    simp only [areLines_cons_iff, inductionHypothesis, List.forall_mem_cons]
    cases rest with
    | nil => simp
    | cons next more =>
      simp only [List.dropLast_cons_cons, List.forall_mem_cons]
      grind

theorem eq_lines_iff_cutAfterFeeds : pieces = lines text ↔ CutAfterFeeds text pieces := by
  constructor
  · intro areTheLines
    obtain ⟨nonempty, ended, unbroken⟩ := areLines_iff.1 (areLines_lines text)
    subst areTheLines
    exact ⟨flatten_lines text, nonempty, ended, unbroken⟩
  · intro cut
    have areLines := areLines_iff.2 ⟨cut.nonempty, cut.ended, cut.unbroken⟩
    simpa only [cut.whole] using areLines.lines_flatten.symm

/-! ## Lines counted -/

theorem endsOpen_iff : endsOpen text = true ↔ text ≠ [] ∧ '\n' ∉ text.getLast? := by
  cases lastOf : text.getLast? with
  | none => simp_all [endsOpen]
  | some c =>
    have nonempty : text ≠ [] := by
      intro noText
      simp [noText] at lastOf
    simp [endsOpen, lastOf, nonempty]

theorem endsOpen_append (front : List Char) {back : List Char} (nonempty : back ≠ []) :
    endsOpen (front ++ back) = endsOpen back := by
  simp only [endsOpen, List.getLast?_append_of_ne_nil front nonempty]

/-- An open last line and the line after it are one. -/
theorem lineCount_append (front back : List Char) :
    lineCount (front ++ back) + (if endsOpen front ∧ back ≠ [] then 1 else 0) =
      lineCount front + lineCount back := by
  by_cases nothing : back = []
  · simp [nothing, lineCount]
  · simp only [lineCount_eq, List.count_append, endsOpen_append front nothing]
    simp only [ne_eq, nothing, not_false_eq_true, and_true]
    omega

end Patchwork.Text

namespace Patchwork

/-- The lines of a text are its only cut after line feeds. There are as many of them as line feeds, and one more
when the text is not empty and has no line feed at its end. The numbers of lines of two texts add up to that of both
together, less one exactly when the first leaves its last line open and the second is not empty. -/
theorem lines_cut_and_counted :
    (∀ (text : String) (pieces : List (List Char)),
        pieces = Text.lines text.toList ↔ Text.CutAfterFeeds text.toList pieces) ∧
      (∀ text : String,
        lineCount text =
          text.toList.count '\n' + if text ≠ "" ∧ '\n' ∉ text.toList.getLast? then 1 else 0) ∧
      ∀ front back : String,
        lineCount (front ++ back) +
            (if front ≠ "" ∧ '\n' ∉ front.toList.getLast? ∧ back ≠ "" then 1 else 0) =
          lineCount front + lineCount back := by
  refine ⟨fun text pieces => Text.eq_lines_iff_cutAfterFeeds, fun text => ?_, fun front back => ?_⟩
  · have counted := Text.lineCount_eq text.toList
    simpa only [lineCount, Text.endsOpen_iff, ne_eq, String.toList_eq_nil_iff] using counted
  · have joined := Text.lineCount_append front.toList back.toList
    simpa only [lineCount, String.toList_append, Text.endsOpen_iff, ne_eq, String.toList_eq_nil_iff,
      and_assoc] using joined

end Patchwork
