import Patchwork.Proofs.StepInsertion.LineEndings
import Patchwork.Proofs.Text.Line

/-!
# Lines around inserted blocks

A block goes in front of a lead, and a lead begins wherever its blanks begin. When it begins with the end of
the line before the marker, or when nothing stands before it, the block comes between two lines and every
line stays whole. Otherwise it begins inside a line, behind other characters or at the blanks with which the
line ends, and the block cuts that line in two.
-/

set_option autoImplicit false

namespace Patchwork.StepInsertion

open Text (startsCrlf lines)

/-- The lead begins with a line feed, or with a carriage return and a line feed. -/
def endsLine (lead : List Char) : Bool :=
  lead.head? = some '\n' || startsCrlf lead

/-- No lead begins inside a line: each begins with the end of one, or is the first and nothing stands before
it. -/
def LeadsAtLineEnds : List (List Char × List Char) → Prop
  | [] => True
  | (gap, lead) :: later =>
    (endsLine lead = true ∨ gap = []) ∧ ∀ hit ∈ later, endsLine hit.2 = true

instance (hits : List (List Char × List Char)) : Decidable (LeadsAtLineEnds hits) :=
  match hits with
  | [] => inferInstanceAs (Decidable True)
  | (gap, lead) :: later =>
    inferInstanceAs (Decidable ((endsLine lead = true ∨ gap = []) ∧ ∀ hit ∈ later, endsLine hit.2 = true))

/-- The text put together again, with a line feed in front of each lead that begins inside a line. With
`fresh` nothing stands before the text. -/
def cutLines (marker : List Char) (fresh : Bool) (hits : List (List Char × List Char))
    (tail : List Char) : List Char :=
  match hits with
  | [] => tail
  | (gap, lead) :: later =>
    let inside := !endsLine lead && !(fresh && gap.isEmpty)
    gap ++ (if inside then ['\n'] else []) ++ lead ++ marker ++ cutLines marker false later tail

/-- The text with each line cut in two at which a lead begins inside it. -/
def cutAtLeads (patch : StepInsertion) (content : List Char) : List Char :=
  let found := patch.leads content
  cutLines patch.marker.toList true found.hits found.tail

/-! ## Texts without a cut -/

private theorem cutLines_of_endsLine {hits : List (List Char × List Char)} (marker tail : List Char)
    (fresh : Bool) (ends : ∀ hit ∈ hits, endsLine hit.2 = true) :
    cutLines marker fresh hits tail = (hits.flatMap fun hit => hit.1 ++ hit.2 ++ marker) ++ tail := by
  induction hits generalizing fresh with
  | nil => rfl
  | cons hit later inductionHypothesis =>
    obtain ⟨gap, lead⟩ := hit
    have leadEnds : endsLine lead = true := ends _ List.mem_cons_self
    rw [cutLines, inductionHypothesis false fun other member => ends other (.tail _ member)]
    simp [leadEnds]

theorem cutLines_of_leadsAtLineEnds {hits : List (List Char × List Char)} (marker tail : List Char)
    (atEnds : LeadsAtLineEnds hits) :
    cutLines marker true hits tail = (hits.flatMap fun hit => hit.1 ++ hit.2 ++ marker) ++ tail := by
  cases hits with
  | nil => rfl
  | cons hit later =>
    obtain ⟨gap, lead⟩ := hit
    obtain ⟨firstEnds, laterEnds⟩ := atEnds
    rw [cutLines, cutLines_of_endsLine marker tail false laterEnds]
    rcases firstEnds with ends | rfl
    · simp [ends]
    · simp

/-! ## Lines of a block -/

variable {patch : StepInsertion} {lead : List Char}

/-- The end of a line that a block begins with. -/
def ending (crlf : Bool) : List Char :=
  if crlf then ['\r', '\n'] else ['\n']

theorem feed_mem_getLast?_ending (crlf : Bool) (front : List Char) :
    '\n' ∈ (front ++ ending crlf).getLast? := by
  cases crlf <;> simp [ending]

private theorem block_eq_ending_append (stepEnded : '\n' ∈ patch.step.toList.getLast?) (crlf : Bool) :
    ∃ step, patch.block crlf = ending crlf ++ step ∧ '\n' ∈ step.getLast? := by
  cases crlf with
  | true => exact ⟨Text.toCrlf patch.stepLf, patch.block_true, by simpa [stepLf] using stepEnded⟩
  | false => exact ⟨patch.stepLf, patch.block_false, by simpa [stepLf] using stepEnded⟩

private theorem endsLine_iff_ending :
    endsLine lead = true ↔ ∃ more, lead = ending (startsCrlf lead) ++ more := by
  rw [endsLine, Bool.or_eq_true, decide_eq_true_eq]
  cases starts : startsCrlf lead with
  | true =>
    obtain ⟨more, rfl⟩ := Text.startsCrlf_iff_prefix.1 starts
    exact iff_of_true (.inr rfl) ⟨more, rfl⟩
  | false =>
    simp only [Bool.false_eq_true, or_false]
    exact List.head?_eq_some_iff

private theorem startsCrlf_of_not_endsLine (inside : endsLine lead = false) : startsCrlf lead = false := by
  rw [endsLine, Bool.or_eq_false_iff] at inside
  exact inside.2

/-! ## A block between two lines -/

/-- A block that is put into a text adds lines of its own and ends the line in front of it. -/
theorem lines_sublist_of_block (stepEnded : '\n' ∈ patch.step.toList.getLast?) (crlf : Bool)
    (front : List Char) {kept rest : List Char} (later : (lines kept).Sublist (lines rest)) :
    (lines (front ++ (ending crlf ++ kept))).Sublist (lines (front ++ (patch.block crlf ++ rest))) := by
  obtain ⟨step, shape, ended⟩ := block_eq_ending_append stepEnded crlf
  have frontEnded := feed_mem_getLast?_ending crlf front
  have cutLine : lines (front ++ (ending crlf ++ kept)) = lines (front ++ ending crlf) ++ lines kept := by
    rw [← List.append_assoc, Text.lines_append frontEnded]
  have blockLines : lines (front ++ (patch.block crlf ++ rest)) =
      lines (front ++ ending crlf) ++ (lines step ++ lines rest) := by
    rw [shape, List.append_assoc, ← List.append_assoc front, Text.lines_append frontEnded,
      Text.lines_append ended]
  rw [cutLine, blockLines]
  exact (later.trans (List.sublist_append_right _ _)).append_left _

/-! ## Lines along the leads of a text -/

variable {text : List Char} {found : Text.Scan (List Char)}

theorem lines_cutLines_sublist (oneLine : OneLine patch.marker.toList)
    (stepEnded : '\n' ∈ patch.step.toList.getLast?)
    (decomposed : (leadPattern patch.marker.toList).Decomposes text found) (front : List Char)
    (fresh : Bool) (noFront : fresh = true → front = []) :
    (lines (front ++ cutLines patch.marker.toList fresh found.hits found.tail)).Sublist
      (lines (front ++ patch.weave found)) := by
  induction decomposed generalizing front fresh with
  | done _ => exact List.Sublist.refl _
  | @hit gap matched rest lead later quiet taken _ inductionHypothesis =>
    have nonempty := taken.2.leadsAt.nonempty
    -- Whatever stands before the rest of the text, its lines stay.
    have behind : ∀ before : List Char,
        (lines (before ++ (patch.marker.toList ++
            cutLines patch.marker.toList false later.hits later.tail))).Sublist
          (lines (before ++ (patch.marker.toList ++ patch.weave later))) := by
      intro before
      simpa using inductionHypothesis (before ++ patch.marker.toList) false (by simp)
    rw [weave_cons, oneLine.startsCrlf_lead nonempty, cutLines]
    cases ends : endsLine lead with
    | true =>
      obtain ⟨more, shape⟩ := endsLine_iff_ending.1 ends
      have kept := (behind more).trans
        (List.sublist_append_right (lines (ending (startsCrlf lead))) _)
      rw [← Text.lines_append (by simpa using feed_mem_getLast?_ending (startsCrlf lead) [])] at kept
      have whole := lines_sublist_of_block stepEnded (startsCrlf lead) (front ++ gap) kept
      rw [← List.append_assoc _ more, ← List.append_assoc _ more, ← shape] at whole
      simpa using whole
    | false =>
      rw [startsCrlf_of_not_endsLine ends]
      cases begins : fresh && gap.isEmpty with
      | true =>
        rw [Bool.and_eq_true, List.isEmpty_iff] at begins
        obtain ⟨isFresh, rfl⟩ := begins
        rw [noFront isFresh]
        have whole := (behind lead).trans
          (List.sublist_append_right (lines (patch.block false)) _)
        rw [← Text.lines_append (StepEnded.feed_mem_getLast?_block (.inr stepEnded) false)] at whole
        simpa using whole
      | false =>
        have whole := lines_sublist_of_block stepEnded false (front ++ gap) (behind lead)
        simpa [ending] using whole

/-- With a marker on one line and a step that ends its last line, the lines of the text are lines of the output, in
the same order, when each lead begins with the end of a line or at the start of the text. Always so are the lines of
the text in which each line is cut in two where a lead begins inside it. -/
theorem lines_sublist_apply (patch : StepInsertion) {field : String} (content : String)
    (accepted : Validation.singleLine field patch.marker = .ok ())
    (stepEnded : '\n' ∈ patch.step.toList.getLast?) :
    ((∀ found, (leadPattern patch.marker.toList).Decomposes content.toList found →
        LeadsAtLineEnds found.hits) →
      (lines content.toList).Sublist (lines (patch.apply content).content.toList)) ∧
    (lines (patch.cutAtLeads content.toList)).Sublist
      (lines (patch.apply content).content.toList) := by
  have oneLine := oneLine_of_singleLine accepted
  have decomposed : (leadPattern patch.marker.toList).Decomposes content.toList
      (patch.leads content.toList) := decomposes_iff_eq_leads.2 rfl
  have cut : (lines (patch.cutAtLeads content.toList)).Sublist
      (lines (patch.apply content).content.toList) := by
    rw [toList_content_apply]
    exact lines_cutLines_sublist oneLine stepEnded decomposed [] true fun _ => rfl
  refine ⟨fun atEnds => ?_, cut⟩
  have uncut : patch.cutAtLeads content.toList = content.toList := by
    rw [cutAtLeads, cutLines_of_leadsAtLineEnds _ _ (atEnds _ decomposed)]
    exact (eq_flatMap_of_decomposes decomposed).symm
  rwa [uncut] at cut

/-- The first text has a marker at its start and one after an empty line, the second one has it inside a line. -/
theorem lines_sublist_apply_kept_and_cut :
    let patch : StepInsertion := ⟨"ci.yml", "- x", "  - run: y\n"⟩
    Validation.singleLine "workflow.marker" patch.marker = .ok () ∧
      '\n' ∈ patch.step.toList.getLast? ∧
      (lines "  - x\n\n  - x\n".toList).Sublist
        (lines (patch.apply "  - x\n\n  - x\n").content.toList) ∧
      (lines "see\n - x".toList).Sublist (lines (patch.apply "see - x").content.toList) := by
  intro patch
  have accepted : Validation.singleLine "workflow.marker" patch.marker = .ok () :=
    Validation.singleLine_eq_ok_iff.2 ⟨⟨'x', by decide, by decide⟩, by decide, by decide⟩
  have stepEnded : '\n' ∈ patch.step.toList.getLast? := by decide
  have atEnds : ∀ found,
      (leadPattern patch.marker.toList).Decomposes "  - x\n\n  - x\n".toList found →
        LeadsAtLineEnds found.hits := by
    intro found decomposed
    rw [decomposes_iff_eq_leads.1 decomposed]
    decide +kernel
  have cut : patch.cutAtLeads "see - x".toList = "see\n - x".toList := by decide +kernel
  refine ⟨accepted, stepEnded, (lines_sublist_apply patch _ accepted stepEnded).1 atEnds, ?_⟩
  rw [← cut]
  exact (lines_sublist_apply patch _ accepted stepEnded).2

/-- A blank at the end of the line before the marker is enough: that line loses it. -/
theorem lines_not_sublist_after_trailing_blank :
    ∃ (patch : StepInsertion) (content : String),
      Validation.singleLine "workflow.marker" patch.marker = .ok () ∧
        Validation.nonEmpty "workflow.step" patch.step = .ok () ∧
        '\n' ∈ patch.step.toList.getLast? ∧ '\r' ∉ patch.step.toList ∧ '\r' ∉ content.toList ∧
        ¬ (lines content.toList).Sublist (lines (patch.apply content).content.toList) := by
  refine ⟨⟨"ci.yml", "- uses: a/b@v1", "  - run: x\n"⟩, "steps: \n  - uses: a/b@v1\n", ?_, ?_, by decide,
    by decide, by decide, by decide +kernel⟩
  · exact Validation.singleLine_eq_ok_iff.2 ⟨⟨'u', by decide, by decide⟩, by decide, by decide⟩
  · exact Validation.nonEmpty_eq_ok_iff.2 ⟨'r', by decide, by decide⟩

end Patchwork.StepInsertion
