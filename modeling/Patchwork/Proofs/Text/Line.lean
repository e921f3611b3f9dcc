import Patchwork.Text.Line

/-!
# Lines of texts

A text whose last character is a line feed ends its last line. What follows it begins a new line, so the
lines of the two are the lines of the one and then those of the other. A text has one line for each line feed,
and one more when its last line has none.

`AreLines` says which lists are the lines of a text. Taking some of them out leaves the lines of what is left.
-/

set_option autoImplicit false

namespace Patchwork.Text

theorem lines_eq_nil_iff {text : List Char} : lines text = [] ↔ text = [] := by
  constructor
  · intro noLines
    rw [← flatten_lines text, noLines, List.flatten_nil]
  · rintro rfl
    exact lines_nil

theorem lines_feed_cons (rest : List Char) : lines ('\n' :: rest) = ['\n'] :: lines rest := rfl

theorem lines_singleton {c : Char} (notFeed : c ≠ '\n') : lines [c] = [[c]] := by
  rw [lines_cons, joinLine.eq_def, if_neg notFeed]
  rfl

theorem lines_cons_of_ne {c : Char} {rest line : List Char} {more : List (List Char)}
    (notFeed : c ≠ '\n') (restLines : lines rest = line :: more) :
    lines (c :: rest) = (c :: line) :: more := by
  rw [lines_cons, joinLine.eq_def, if_neg notFeed, restLines]

private theorem joinLine_append {c : Char} {front : List (List Char)} (more : List (List Char))
    (joins : c = '\n' ∨ front ≠ []) : joinLine c (front ++ more) = joinLine c front ++ more := by
  unfold joinLine
  split
  · rfl
  · next notFeed =>
    cases front with
    | nil => exact (joins.elim notFeed (absurd rfl)).elim
    | cons line rest => rfl

theorem lines_append {front : List Char} (ended : '\n' ∈ front.getLast?) (rest : List Char) :
    lines (front ++ rest) = lines front ++ lines rest := by
  induction front with
  | nil => cases ended
  | cons c more inductionHypothesis =>
    rw [List.cons_append, lines_cons, lines_cons]
    cases more with
    | nil =>
      obtain rfl : c = '\n' := by simpa using ended
      rfl
    | cons d later =>
      rw [inductionHypothesis (by simpa using ended)]
      exact joinLine_append _ (.inr fun noLines => by simp [lines_eq_nil_iff] at noLines)

/-! ## How many lines a text has -/

/-- The last line has no line feed. -/
def endsOpen (text : List Char) : Bool :=
  text.getLast?.any fun c => c ≠ '\n'

theorem lineCount_eq (text : List Char) :
    lineCount text = text.count '\n' + if endsOpen text then 1 else 0 := by
  unfold lineCount
  induction text with
  | nil => rfl
  | cons c rest inductionHypothesis =>
    by_cases feed : c = '\n'
    · subst feed
      have sameEnd : endsOpen ('\n' :: rest) = endsOpen rest := by
        cases rest with
        | nil => rfl
        | cons d more => simp [endsOpen]
      rw [lines_feed_cons, List.length_cons, inductionHypothesis, sameEnd, List.count_cons_self]
      omega
    · rw [List.count_cons_of_ne feed]
      cases restLines : lines rest with
      | nil =>
        obtain rfl := lines_eq_nil_iff.1 restLines
        simp [lines_singleton feed, endsOpen, feed]
      | cons line more =>
        have nonempty : rest ≠ [] := fun noRest => by simp [noRest] at restLines
        have sameEnd : endsOpen (c :: rest) = endsOpen rest := by
          rw [endsOpen, List.getLast?_cons_of_ne_nil nonempty, endsOpen]
        rw [sameEnd, ← inductionHypothesis, restLines, lines_cons_of_ne feed restLines]
        rfl

theorem lineCount_le_length (text : List Char) : lineCount text ≤ text.length := by
  unfold lineCount
  induction text with
  | nil => exact Nat.le_refl 0
  | cons c rest inductionHypothesis =>
    have oneMore : (joinLine c (lines rest)).length ≤ (lines rest).length + 1 := by
      unfold joinLine
      split
      · exact Nat.le_refl _
      · cases lines rest <;> simp
    rw [lines_cons, List.length_cons]
    omega

/-! ## Lists of lines -/

/-- The pieces are the lines of some text. -/
inductive AreLines : List (List Char) → Prop where
  | none : AreLines []
  | last {line} : line ≠ [] → '\n' ∉ line → AreLines [line]
  | ended {body rest} : '\n' ∉ body → AreLines rest → AreLines ((body ++ ['\n']) :: rest)

private theorem areLines_joinLine {c : Char} {later : List (List Char)} (areLines : AreLines later) :
    AreLines (joinLine c later) := by
  unfold joinLine
  split
  · next feed =>
    rw [feed]
    exact @AreLines.ended [] _ List.not_mem_nil areLines
  · next notFeed =>
    have inFront : ∀ {text : List Char}, '\n' ∉ text → '\n' ∉ c :: text := by
      intro text noFeed member
      rcases List.mem_cons.1 member with rfl | member
      · exact notFeed rfl
      · exact noFeed member
    cases areLines with
    | none => exact .last (by simp) (inFront List.not_mem_nil)
    | last nonempty noFeed => exact .last (by simp) (inFront noFeed)
    | ended noFeed rest => exact .ended (inFront noFeed) rest

theorem areLines_lines (text : List Char) : AreLines (lines text) := by
  induction text with
  | nil => exact .none
  | cons c rest inductionHypothesis => exact areLines_joinLine inductionHypothesis

/-- Lines of a text that are left over when others are taken out are the lines of what they make up. -/
theorem AreLines.sublist {pieces kept : List (List Char)} (areLines : AreLines pieces)
    (sublist : kept.Sublist pieces) : AreLines kept := by
  induction areLines generalizing kept with
  | none =>
    obtain rfl := List.sublist_nil.1 sublist
    exact .none
  | last nonempty noFeed =>
    cases sublist with
    | cons _ sublist =>
      obtain rfl := List.sublist_nil.1 sublist
      exact .none
    | cons_cons _ sublist =>
      obtain rfl := List.sublist_nil.1 sublist
      exact .last nonempty noFeed
  | ended noFeed _ inductionHypothesis =>
    cases sublist with
    | cons _ sublist => exact inductionHypothesis sublist
    | cons_cons _ sublist => exact .ended noFeed (inductionHypothesis sublist)

private theorem lines_of_no_feed {line : List Char} (nonempty : line ≠ []) (noFeed : '\n' ∉ line) :
    lines line = [line] := by
  induction line with
  | nil => exact absurd rfl nonempty
  | cons c rest inductionHypothesis =>
    rw [List.mem_cons, not_or] at noFeed
    cases rest with
    | nil => exact lines_singleton (Ne.symm noFeed.1)
    | cons d more =>
      exact lines_cons_of_ne (Ne.symm noFeed.1) (inductionHypothesis (by simp) noFeed.2)

private theorem lines_of_one_feed {body : List Char} (noFeed : '\n' ∉ body) :
    lines (body ++ ['\n']) = [body ++ ['\n']] := by
  induction body with
  | nil => rfl
  | cons c rest inductionHypothesis =>
    rw [List.mem_cons, not_or] at noFeed
    exact lines_cons_of_ne (Ne.symm noFeed.1) (inductionHypothesis noFeed.2)

theorem AreLines.lines_flatten {pieces : List (List Char)} (areLines : AreLines pieces) :
    lines pieces.flatten = pieces := by
  induction areLines with
  | none => rfl
  | last nonempty noFeed =>
    rw [List.flatten_singleton, lines_of_no_feed nonempty noFeed]
  | ended noFeed _ inductionHypothesis =>
    rw [List.flatten_cons, lines_append (by simp), lines_of_one_feed noFeed, inductionHypothesis]
    rfl

end Patchwork.Text
