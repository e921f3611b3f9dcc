import Mathlib.Data.List.DropRight
import Mathlib.Data.List.Induction
import Patchwork.Proofs.Text.Line
import Patchwork.Proofs.Text.LineEnding
import Patchwork.Text.Blank
import Patchwork.Text.Occurrence

/-!
# A text with paired line ends

A carriage return before each line feed leaves a text with the same lines, each with its own end paired. The new
characters are blanks next to blanks, so they go with them when a text is trimmed, and a text that stands on one
line stands at the same places as before.
-/

set_option autoImplicit false

namespace Patchwork.Text

/-- The text holds no character that ends a line. -/
structure Unbroken (text : List Char) : Prop where
  noFeed : '\n' ∉ text
  noReturn : '\r' ∉ text

theorem toCrlf_append (front rest : List Char) : toCrlf (front ++ rest) = toCrlf front ++ toCrlf rest :=
  List.flatMap_append

theorem toCrlf_flatten (pieces : List (List Char)) : toCrlf pieces.flatten = (pieces.map toCrlf).flatten := by
  induction pieces with
  | nil => rfl
  | cons piece more inductionHypothesis =>
    rw [List.flatten_cons, toCrlf_append, inductionHypothesis, List.map_cons, List.flatten_cons]

theorem toCrlf_of_no_feed {text : List Char} (noFeed : '\n' ∉ text) : toCrlf text = text := by
  induction text with
  | nil => rfl
  | cons c rest inductionHypothesis =>
    rw [List.mem_cons, not_or] at noFeed
    rw [toCrlf_cons_of_ne (Ne.symm noFeed.1), inductionHypothesis noFeed.2]

theorem toCrlf_eq_iff {line text : List Char} (noFeed : '\n' ∉ line) : toCrlf text = line ↔ text = line := by
  constructor
  · rintro rfl
    have textNoFeed : '\n' ∉ text := by
      rwa [← List.count_eq_zero, ← count_toCrlf, List.count_eq_zero]
    exact (toCrlf_of_no_feed textNoFeed).symm
  · rintro rfl
    exact toCrlf_of_no_feed noFeed

/-- The text with a carriage return put before every line feed. -/
def pairFeeds (text : String) : String :=
  String.ofList (toCrlf text.toList)

@[simp] theorem toList_pairFeeds (text : String) : (pairFeeds text).toList = toCrlf text.toList :=
  String.toList_ofList

/-! ## Lines -/

private theorem joinLine_map_toCrlf {c : Char} (notFeed : c ≠ '\n') (later : List (List Char)) :
    joinLine c (later.map toCrlf) = (joinLine c later).map toCrlf := by
  rw [joinLine.eq_def, joinLine.eq_def, if_neg notFeed, if_neg notFeed]
  cases later with
  | nil => exact (congrArg (fun line => [line]) (toCrlf_cons_of_ne notFeed [])).symm
  | cons line more => rw [List.map_cons, List.map_cons, toCrlf_cons_of_ne notFeed]

theorem lines_toCrlf (text : List Char) : lines (toCrlf text) = (lines text).map toCrlf := by
  induction text with
  | nil => rfl
  | cons c rest inductionHypothesis =>
    by_cases feed : c = '\n'
    · subst feed
      rw [toCrlf_feed_cons, lines_cons_of_ne (by decide) (lines_feed_cons _), lines_feed_cons,
        inductionHypothesis, List.map_cons, toCrlf_feed_cons]
      rfl
    · rw [toCrlf_cons_of_ne feed, lines_cons, lines_cons, inductionHypothesis, joinLine_map_toCrlf feed]

/-! ## Blanks at the ends -/

private theorem dropWhile_isBlank_toCrlf (text : List Char) :
    (toCrlf text).dropWhile isBlank = toCrlf (text.dropWhile isBlank) := by
  induction text with
  | nil => rfl
  | cons c rest inductionHypothesis =>
    by_cases feed : c = '\n'
    · subst feed
      rw [toCrlf_feed_cons, List.dropWhile_cons_of_pos (by decide), List.dropWhile_cons_of_pos (by decide),
        List.dropWhile_cons_of_pos (by decide), inductionHypothesis]
    · rw [toCrlf_cons_of_ne feed]
      cases blank : isBlank c with
      | true => rw [List.dropWhile_cons_of_pos blank, List.dropWhile_cons_of_pos blank, inductionHypothesis]
      | false =>
        rw [List.dropWhile_cons_of_neg (by simp [blank]), List.dropWhile_cons_of_neg (by simp [blank]),
          toCrlf_cons_of_ne feed]

private theorem rdropWhile_isBlank_toCrlf (text : List Char) :
    (toCrlf text).rdropWhile isBlank = toCrlf (text.rdropWhile isBlank) := by
  induction text using List.reverseRecOn with
  | nil => rfl
  | append_singleton front c inductionHypothesis =>
    rw [toCrlf_append]
    by_cases feed : c = '\n'
    · subst feed
      have pair : toCrlf front ++ toCrlf ['\n'] = toCrlf front ++ ['\r'] ++ ['\n'] := by
        rw [List.append_assoc]
        rfl
      rw [pair, List.rdropWhile_concat_pos _ _ _ (by decide), List.rdropWhile_concat_pos _ _ _ (by decide),
        List.rdropWhile_concat_pos _ _ _ (by decide), inductionHypothesis]
    · have same : toCrlf [c] = [c] := toCrlf_cons_of_ne feed []
      rw [same]
      cases blank : isBlank c with
      | true =>
        rw [List.rdropWhile_concat_pos _ _ _ blank, List.rdropWhile_concat_pos _ _ _ blank, inductionHypothesis]
      | false =>
        rw [List.rdropWhile_concat_neg _ _ _ (by simp [blank]), List.rdropWhile_concat_neg _ _ _ (by simp [blank]),
          toCrlf_append, same]

theorem trim_toCrlf (text : List Char) : trim (toCrlf text) = toCrlf (trim text) := by
  have bothEnds : ∀ text, trim text = (text.dropWhile isBlank).rdropWhile isBlank := fun _ => rfl
  rw [bothEnds, bothEnds, dropWhile_isBlank_toCrlf, rdropWhile_isBlank_toCrlf]

/-! ## Occurrences -/

theorem mem_of_mem_toCrlf {c : Char} {text : List Char} (notReturn : c ≠ '\r') (member : c ∈ toCrlf text) :
    c ∈ text := by
  obtain ⟨d, inText, written⟩ := List.mem_flatMap.1 member
  split at written
  · next feed =>
    rcases List.mem_cons.1 written with same | inFeed
    · exact absurd same notReturn
    · rw [List.mem_singleton.1 inFeed, ← feed]
      exact inText
  · rw [List.mem_singleton.1 written]
    exact inText

theorem infix_toCrlf_iff {part text : List Char} (unbroken : Unbroken part) :
    part <:+: toCrlf text ↔ part <:+: text := by
  constructor
  · intro stands
    match part with
    | [] => exact List.nil_infix
    | [c] =>
      have notReturn : c ≠ '\r' := fun same => unbroken.noReturn (by simp [same])
      have member := mem_of_mem_toCrlf notReturn (stands.subset List.mem_cons_self)
      obtain ⟨before, after, rfl⟩ := List.append_of_mem member
      exact ⟨before, after, by simp⟩
    | c :: d :: more =>
      exact infix_of_infix_toCrlf (List.cons_ne_nil d more)
        (fun member => unbroken.noFeed (List.mem_cons_of_mem c member))
        (fun member => unbroken.noReturn (List.mem_cons_of_mem c member)) stands
  · rintro ⟨before, after, rfl⟩
    rw [toCrlf_append, toCrlf_append, toCrlf_of_no_feed unbroken.noFeed]
    exact List.infix_append _ _ _

theorem contains_toCrlf {part : List Char} (unbroken : Unbroken part) (text : List Char) :
    contains (toCrlf text) part = contains text part := by
  rw [Bool.eq_iff_iff, contains_iff_infix, contains_iff_infix, infix_toCrlf_iff unbroken]

end Patchwork.Text
