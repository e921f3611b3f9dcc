import Patchwork.Proofs.StepInsertion.LineEndings

/-!
# Insertion at the ends of lines

A text that does not end in a blank keeps its leads whatever line end follows it. A marker on one line does not
reach over the line end, and a lead would reach over it only together with the last character of the text. So
the two sides of the line end are patched each for itself.
-/

set_option autoImplicit false

namespace Patchwork.StepInsertion

open Text (isBlank Scan)

variable {patch : StepInsertion} {marker text rest : List Char} {c : Char} {found back : Scan (List Char)}

private theorem NoBlankAtEnd.of_append {front : List Char} (solidEnd : NoBlankAtEnd (front ++ rest)) :
    NoBlankAtEnd rest := by
  rw [NoBlankAtEnd, List.getLast?_append] at solidEnd
  rw [NoBlankAtEnd]
  cases isLast : rest.getLast? with
  | none => rfl
  | some d => rwa [isLast, Option.some_or] at solidEnd

/-! ## The leads of two texts -/

theorem decomposes_append (solid : ∃ d ∈ marker, isBlank d = false) (apart : c ∉ marker)
    (decomposed : (leadPattern marker).Decomposes text found) (solidEnd : NoBlankAtEnd text)
    (decomposedBack : (leadPattern marker).Decomposes (c :: rest) back) :
    (leadPattern marker).Decomposes (text ++ c :: rest) (found.append back) := by
  induction decomposed with
  | @done text noStart =>
    refine decomposedBack.append_of_quiet (quietFor_of_barrier [] solidEnd apart ?_)
    intro passed _ lead leads
    rw [List.append_nil] at leads
    exact noStart passed ⟨lead, leads⟩
  | @hit gap matched after lead later quiet taken _ inductionHypothesis =>
    -- The gap does not end in a blank, so a lead in it and its marker end before the new text.
    have quietLonger : (leadPattern marker).QuietFor gap.length (gap ++ (matched ++ c :: rest)) :=
      quietFor_of_barrier matched (noBlankAtEnd_of_quiet quiet taken.2.leadsAt) apart
        fun passed inside other leads => quiet passed inside ⟨other, leads⟩
    obtain ⟨rfl, longest⟩ := taken
    have leads := longest.leadsAt.append (c :: rest)
    have solidRest : NoBlankAtEnd after := solidEnd.of_append.of_append
    rw [Scan.hit_append, List.append_assoc]
    exact .hit quietLonger ⟨List.append_assoc _ _ _, leads.longestLead solid⟩ (inductionHypothesis solidRest)

theorem weave_append (found later : Scan (List Char)) :
    patch.weave (found.append later) = patch.weave found ++ patch.weave later := by
  obtain ⟨hits, tail⟩ := later
  cases hits with
  | nil => simp [weave, Scan.append]
  | cons hit more => simp [weave, Scan.append, insertAt]

private theorem apply_append (solid : ∃ d ∈ patch.marker.toList, isBlank d = false)
    (apart : c ∉ patch.marker.toList) {before back : String} (solidEnd : NoBlankAtEnd before.toList)
    (backEq : back.toList = c :: rest) :
    (patch.apply (before ++ back)).content = (patch.apply before).content ++ (patch.apply back).content ∧
      (patch.apply (before ++ back)).matchCount =
        (patch.apply before).matchCount + (patch.apply back).matchCount := by
  have decomposedBack := decomposes_leads patch back.toList
  rw [backEq] at decomposedBack
  have joined : (patch.leads before.toList).append (patch.leads back.toList) =
      patch.leads (before ++ back).toList := by
    rw [← decomposes_iff_eq_leads, String.toList_append, backEq]
    exact decomposes_append solid apart (decomposes_leads patch before.toList) solidEnd decomposedBack
  constructor
  · rw [← String.toList_inj, String.toList_append, toList_content_apply, toList_content_apply,
      toList_content_apply, ← joined, weave_append]
  · rw [matchCount_apply, matchCount_apply, matchCount_apply, ← joined, Scan.length_hits_append]

/-- With a marker on one line, a text that does not end in a blank and what follows it after the end of its last
line are patched each for itself, and their matches add up. -/
theorem apply_append_at_line_end (patch : StepInsertion) {field : String} (before after : String)
    (accepted : Validation.singleLine field patch.marker = .ok ()) (solidEnd : NoBlankAtEnd before.toList) :
    ∀ lineEnd ∈ ["\n", "\r\n"],
      let back := lineEnd ++ after
      (patch.apply (before ++ back)).content = (patch.apply before).content ++ (patch.apply back).content ∧
        (patch.apply (before ++ back)).matchCount =
          (patch.apply before).matchCount + (patch.apply back).matchCount := by
  obtain ⟨solid, noFeed, noReturn⟩ := Validation.singleLine_eq_ok_iff.1 accepted
  intro lineEnd member back
  have starts : ∀ c more, lineEnd.toList = c :: more → back.toList = c :: (more ++ after.toList) := by
    intro c more ends
    rw [String.toList_append, ends, List.cons_append]
  rcases List.mem_cons.1 member with rfl | member
  · exact apply_append solid noFeed solidEnd (starts '\n' [] (by decide))
  · obtain rfl := List.mem_singleton.1 member
    exact apply_append solid noReturn solidEnd (starts '\r' ['\n'] (by decide))

/-- The marker begins and ends in a blank, and the first lead behind the line end takes the line end in. -/
theorem apply_append_at_line_end_two_and_two :
    let patch : StepInsertion := ⟨"ci.yml", " x ", "- s\n"⟩
    let before := "a  x  b\n\t x c"
    let after := "  x \n x x d"
    Validation.singleLine "workflow.marker" patch.marker = .ok () ∧ NoBlankAtEnd before.toList ∧
      (patch.apply (before ++ ("\n" ++ after))).matchCount = 4 ∧
      (patch.apply (before ++ ("\r\n" ++ after))).content =
        "a\n- s\n  x  b\n- s\n\n\t x c" ++ "\r\n- s\r\n\r\n  x \n- s\n\n x x d" := by
  intro patch before after
  have accepted : Validation.singleLine "workflow.marker" patch.marker = .ok () :=
    Validation.singleLine_eq_ok_iff.2 ⟨⟨'x', by decide, by decide⟩, by decide, by decide⟩
  have solidEnd : NoBlankAtEnd before.toList := by
    unfold NoBlankAtEnd
    decide
  have bare := apply_append_at_line_end patch before after accepted solidEnd "\n" (by decide)
  have paired := apply_append_at_line_end patch before after accepted solidEnd "\r\n" (by decide)
  have front : (patch.apply before).content = "a\n- s\n  x  b\n- s\n\n\t x c" := by decide +kernel
  have back : (patch.apply ("\r\n" ++ after)).content = "\r\n- s\r\n\r\n  x \n- s\n\n x x d" := by
    decide +kernel
  refine ⟨accepted, solidEnd, bare.2.trans (by decide +kernel), ?_⟩
  rw [paired.1, front, back]

end Patchwork.StepInsertion
