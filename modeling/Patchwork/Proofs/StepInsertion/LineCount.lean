import Patchwork.Engine
import Patchwork.Proofs.StepInsertion.LineEndings
import Patchwork.Proofs.Text.Line

/-!
# How many lines an insertion adds

A block has one line feed for each one of the step and one more, whichever way it ends its lines. Every block
stands in front of a lead, so the text ends in the same character as before, and an open last line stays open.
-/

set_option autoImplicit false

namespace Patchwork.StepInsertion

open Text (endsOpen)

variable {patch : StepInsertion} {text : List Char} {found : Text.Scan (List Char)}

theorem count_block (crlf : Bool) : (patch.block crlf).count '\n' = patch.linesPerInsertion := by
  cases crlf with
  | false => simp [linesPerInsertion]
  | true => rw [block_true_eq_toCrlf, Text.count_toCrlf]; simp [linesPerInsertion]

private theorem count_weave (decomposed : (leadPattern patch.marker.toList).Decomposes text found) :
    (patch.weave found).count '\n' =
      text.count '\n' + found.hits.length * patch.linesPerInsertion := by
  induction decomposed with
  | done _ => simp
  | hit _ taken _ inductionHypothesis =>
    rw [taken.1, weave_cons, List.length_cons, Nat.succ_mul]
    simp only [List.count_append, count_block, inductionHypothesis]
    omega

private theorem getLast?_weave (decomposed : (leadPattern patch.marker.toList).Decomposes text found) :
    (patch.weave found).getLast? = text.getLast? := by
  induction decomposed with
  | done _ => rfl
  | @hit gap matched rest lead later _ taken _ inductionHypothesis =>
    -- A lead is not empty, so the last character stands in it or behind it.
    have nonempty := List.getLast?_eq_some_getLast taken.2.leadsAt.nonempty
    rw [taken.1, weave_cons]
    simp only [List.getLast?_append, inductionHypothesis, nonempty]
    cases rest.getLast? with
    | some c => rfl
    | none =>
      cases patch.marker.toList.getLast? with
      | some c => rfl
      | none => rfl

theorem count_apply (content : String) :
    (patch.apply content).content.toList.count '\n' =
      content.toList.count '\n' + (patch.apply content).matchCount * patch.linesPerInsertion := by
  rw [toList_content_apply, matchCount_apply, count_weave (decomposes_leads patch content.toList)]

theorem endsOpen_apply (content : String) :
    endsOpen (patch.apply content).content.toList = endsOpen content.toList := by
  rw [toList_content_apply, endsOpen, endsOpen, getLast?_weave (decomposes_leads patch content.toList)]

theorem lineCount_apply (content : String) :
    lineCount (patch.apply content).content =
      lineCount content + (patch.apply content).matchCount * patch.linesPerInsertion := by
  rw [lineCount, lineCount, Text.lineCount_eq, Text.lineCount_eq, count_apply, endsOpen_apply]
  omega

theorem linesPerInsertion_eq (patch : StepInsertion) :
    patch.linesPerInsertion = patch.step.toList.count '\n' + 1 := by
  rw [linesPerInsertion, stepLf, Text.count_toLf]

private theorem weave_of_no_hit (decomposed : (leadPattern patch.marker.toList).Decomposes text found)
    (noHit : found.hits = []) : patch.weave found = text := by
  cases decomposed with
  | done _ => exact weave_nil text
  | hit _ _ _ => cases noHit

/-- Whatever the marker and the step, a block is never empty, so a match always changes the text. -/
theorem content_apply_eq_self_iff (patch : StepInsertion) (content : String) :
    (patch.apply content).content = content ↔ (patch.apply content).matchCount = 0 := by
  constructor
  · intro same
    have noFeedAdded : (patch.apply content).matchCount * patch.linesPerInsertion = 0 := by
      have counted : (patch.apply content).content.toList.count '\n' = _ := count_apply content
      rw [same] at counted
      omega
    rcases Nat.mul_eq_zero.1 noFeedAdded with noMatch | noFeed
    · exact noMatch
    · exact absurd noFeed (Nat.succ_ne_zero _)
  · intro noMatch
    have noHit := List.eq_nil_of_length_eq_zero noMatch
    have sameText := weave_of_no_hit (decomposes_leads patch content.toList) noHit
    rw [← toList_content_apply] at sameText
    exact String.toList_inj.1 sameText

/-- With any marker and any step, the line feeds and the lines of a text grow by the same number for each match,
which is one more than the line feeds of the step. -/
theorem line_counts_apply (patch : StepInsertion) (content : String) :
    let patched := patch.apply content
    patched.content.toList.count '\n' =
        content.toList.count '\n' + patched.matchCount * patch.linesPerInsertion ∧
      lineCount patched.content = lineCount content + patched.matchCount * patch.linesPerInsertion ∧
      patch.linesPerInsertion = patch.step.toList.count '\n' + 1 :=
  ⟨count_apply content, lineCount_apply content, linesPerInsertion_eq patch⟩

example :
    let patch : StepInsertion := ⟨"ci.yml", "x", "a\r\nb\n"⟩
    (patch.apply "\r\n x x").content = "\r\na\r\nb\r\n\r\n x\na\nb\n x" ∧ patch.linesPerInsertion = 3 := by
  decide +kernel

end Patchwork.StepInsertion
