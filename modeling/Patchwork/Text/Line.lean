/-!
# Lines

A line is a piece of a text that ends with a line feed, the line feed included, or the rest after the
last line feed when that rest is not empty. Nothing else ends a line: neither a carriage return nor a
Unicode line separator.

The pieces put together give back the text (`flatten_lines`).
-/

set_option autoImplicit false

namespace Patchwork.Text

/-- Puts one character in front of a text that is already cut into lines. A line feed is a line of its
own, since it ends the line it stands in; any other character joins the line after it. -/
def joinLine (c : Char) (later : List (List Char)) : List (List Char) :=
  if c = '\n' then [c] :: later
  else match later with
    | [] => [[c]]
    | line :: more => (c :: line) :: more

/-- The lines of a text, each with its line feed. -/
def lines (text : List Char) : List (List Char) :=
  text.foldr joinLine []

/-- How many lines a text has. An unterminated last line counts. -/
def lineCount (text : List Char) : Nat :=
  (lines text).length

@[simp] theorem lines_nil : lines [] = [] := rfl

theorem lines_cons (c : Char) (text : List Char) :
    lines (c :: text) = joinLine c (lines text) := rfl

@[simp] theorem flatten_joinLine (c : Char) (later : List (List Char)) :
    (joinLine c later).flatten = c :: later.flatten := by
  unfold joinLine
  split
  · rfl
  · cases later <;> rfl

@[simp] theorem flatten_lines (text : List Char) : (lines text).flatten = text := by
  induction text with
  | nil => rfl
  | cons c text inductionHypothesis => rw [lines_cons, flatten_joinLine, inductionHypothesis]

end Patchwork.Text
