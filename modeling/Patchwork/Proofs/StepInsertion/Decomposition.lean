import Patchwork.Proofs.StepInsertion.Lead

/-!
# The insertion along the leads of a text

A text is read as gaps, leads and markers in turn. The insertion keeps all of them, puts one block in front
of each lead, and counts the blocks.
-/

set_option autoImplicit false

namespace Patchwork.StepInsertion

variable {patch : StepInsertion}

theorem toList_content_apply (content : String) :
    (patch.apply content).content.toList = patch.weave (patch.leads content.toList) := by
  simp [apply]

theorem matchCount_apply (content : String) :
    (patch.apply content).matchCount = (patch.leads content.toList).hits.length := rfl

theorem matchCount_apply_le_length (content : String) :
    (patch.apply content).matchCount ≤ content.length := by
  rw [matchCount_apply, ← String.length_toList]
  exact Text.length_hits_scan_le _ _

@[simp] theorem weave_nil (tail : List Char) : patch.weave ⟨[], tail⟩ = tail := rfl

@[simp] theorem weave_cons (gap lead : List Char) (later : Text.Scan (List Char)) :
    patch.weave ⟨(gap, lead) :: later.hits, later.tail⟩ =
      gap ++ (patch.block (Text.startsCrlf (lead ++ patch.marker.toList)) ++
        (lead ++ (patch.marker.toList ++ patch.weave later))) := by
  simp [weave, insertAt]

theorem eq_flatMap_of_decomposes {marker text : List Char} {found : Text.Scan (List Char)}
    (decomposed : (leadPattern marker).Decomposes text found) :
    text = (found.hits.flatMap fun hit => hit.1 ++ hit.2 ++ marker) ++ found.tail := by
  have whole := decomposed.eq_flatMap (fun lead => lead ++ marker) fun taken => taken.1
  simpa only [List.append_assoc] using whole

/-- Every text has exactly one decomposition into gaps, leads and markers in which each lead starts at the first
place after the marker before it where some lead starts, is the longest lead there, and no lead starts after the
last marker. The insertion puts one block in front of each of these leads, changes nothing else, and counts them. -/
theorem apply_eq_along_decomposition (patch : StepInsertion) (content : String) :
    ∃ found : Text.Scan (List Char),
      (leadPattern patch.marker.toList).Decomposes content.toList found ∧
      (∀ other, (leadPattern patch.marker.toList).Decomposes content.toList other → other = found) ∧
      content.toList =
        (found.hits.flatMap fun hit => hit.1 ++ hit.2 ++ patch.marker.toList) ++ found.tail ∧
      (patch.apply content).content.toList =
        (found.hits.flatMap fun hit =>
          hit.1 ++ patch.block (Text.startsCrlf (hit.2 ++ patch.marker.toList)) ++
            hit.2 ++ patch.marker.toList) ++ found.tail ∧
      (patch.apply content).matchCount = found.hits.length := by
  have decomposed : (leadPattern patch.marker.toList).Decomposes content.toList
      (patch.leads content.toList) := decomposes_iff_eq_leads.2 rfl
  refine ⟨patch.leads content.toList, decomposed, ?_, eq_flatMap_of_decomposes decomposed, ?_, rfl⟩
  · exact fun other otherwise => decomposes_iff_eq_leads.1 otherwise
  · rw [toList_content_apply, weave]
    congr 2
    funext hit
    simp only [insertAt, List.append_assoc]

/-- The marker begins with a blank, which is not part of its leads. The first lead begins with a carriage return and
a line feed, the other one with a line feed alone, and each block ends its lines as its lead begins. -/
theorem apply_eq_along_decomposition_both_endings :
    let patch : StepInsertion := ⟨"ci.yml", " x", "a\r\nb\n"⟩
    let content := "g\r\n  x\n  x t"
    let found : Text.Scan (List Char) := ⟨[(['g'], ['\r', '\n', ' ']), ([], ['\n', ' '])], [' ', 't']⟩
    (leadPattern patch.marker.toList).Decomposes content.toList found ∧
      (patch.apply content).content = "g" ++ "\r\na\r\nb\r\n" ++ "\r\n  x" ++ "\na\nb\n" ++ "\n  x" ++ " t" ∧
      (patch.apply content).matchCount = 2 := by
  intro patch content found
  have hits : found.hits = (patch.leads content.toList).hits := by decide +kernel
  have tail : found.tail = (patch.leads content.toList).tail := by decide +kernel
  have read : ⟨found.hits, found.tail⟩ = patch.leads content.toList := by rw [hits, tail]
  have decomposed : (leadPattern patch.marker.toList).Decomposes content.toList found :=
    decomposes_iff_eq_leads.2 read
  obtain ⟨other, -, unique, -, written, counted⟩ := apply_eq_along_decomposition patch content
  obtain rfl : found = other := unique found decomposed
  refine ⟨decomposed, String.toList_injective (written.trans ?_), counted⟩
  decide

end Patchwork.StepInsertion
