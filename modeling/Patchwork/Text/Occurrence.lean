/-!
# Occurrences

A text contains another when the other stands somewhere in it without gaps. The empty text stands in
every text.
-/

set_option autoImplicit false

namespace Patchwork.Text

/-- `contains text part` says that `part` stands in `text`. -/
def contains : List Char → List Char → Bool
  | [], part => part.isEmpty
  | c :: rest, part => part.isPrefixOf (c :: rest) || contains rest part

theorem contains_iff_infix {text part : List Char} :
    contains text part = true ↔ part <:+: text := by
  induction text with
  | nil => simp [contains]
  | cons c rest inductionHypothesis =>
    rw [contains, Bool.or_eq_true, List.isPrefixOf_iff_prefix, inductionHypothesis,
      List.infix_cons_iff]

end Patchwork.Text
