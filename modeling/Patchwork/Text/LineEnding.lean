/-!
# Line endings

The two ways to end a line, and how a text is brought to one of them.
-/

set_option autoImplicit false

namespace Patchwork.Text

/-- The text with every carriage return and line feed pair made a line feed. A carriage return that
stands alone stays. -/
def toLf : List Char → List Char
  | [] => []
  | '\r' :: '\n' :: rest => '\n' :: toLf rest
  | c :: rest => c :: toLf rest

/-- The text with a carriage return put before every line feed. -/
def toCrlf (text : List Char) : List Char :=
  text.flatMap fun c => if c = '\n' then ['\r', '\n'] else [c]

def startsCrlf : List Char → Bool
  | '\r' :: '\n' :: _ => true
  | _ => false

/-- Neither change makes or loses a line feed. -/
@[simp] theorem count_toLf (text : List Char) : (toLf text).count '\n' = text.count '\n' := by
  fun_induction toLf text with
  | case1 => rfl
  | case2 rest inductionHypothesis => simp [inductionHypothesis]
  | case3 c rest notPair inductionHypothesis => simp [List.count_cons, inductionHypothesis]

@[simp] theorem count_toCrlf (text : List Char) : (toCrlf text).count '\n' = text.count '\n' := by
  induction text with
  | nil => rfl
  | cons c rest inductionHypothesis =>
    by_cases lineFeed : c = '\n' <;>
      simp_all [toCrlf]

end Patchwork.Text
