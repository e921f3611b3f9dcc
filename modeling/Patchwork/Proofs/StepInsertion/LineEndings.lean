import Patchwork.Proofs.StepInsertion.Decomposition
import Patchwork.Proofs.Text.LineEnding
import Patchwork.Validation

/-!
# Line endings around inserted blocks

A block ends its lines the way its lead begins. A text whose lines all end in a carriage return and a line
feed keeps that form exactly when every lead begins with this pair. A lead that begins with another blank,
such as a blank at the end of the line before the marker, gets a block with bare line feeds even there.
-/

set_option autoImplicit false

namespace Patchwork.StepInsertion

open Text (isBlank startsCrlf CrlfOnly)

variable {patch : StepInsertion} {text : List Char} {found : Text.Scan (List Char)}

private theorem crlfOnly_block_true : CrlfOnly (patch.block true) :=
  Text.crlfOnly_pair.append (Text.crlfOnly_toCrlf patch.stepLf)

private theorem not_crlfOnly_block_false (rest : List Char) : ¬ CrlfOnly (patch.block false ++ rest) :=
  Text.not_crlfOnly_of_feed

theorem block_true_eq_toCrlf : patch.block true = Text.toCrlf (patch.block false) := rfl

/-- The step is empty or ends its last line. -/
def StepEnded (patch : StepInsertion) : Prop :=
  patch.step.toList = [] ∨ '\n' ∈ patch.step.toList.getLast?

theorem StepEnded.feed_mem_getLast?_block (stepEnded : patch.StepEnded) (crlf : Bool) :
    '\n' ∈ (patch.block crlf).getLast? := by
  have bare : '\n' ∈ (patch.block false).getLast? := by
    rcases stepEnded with stepEmpty | ended
    · simp [stepLf, stepEmpty, Text.toLf]
    · have stepEnd : '\n' ∈ patch.stepLf.getLast? := by simpa [stepLf] using ended
      simp [List.getLast?_cons, Option.mem_def.1 stepEnd]
  cases crlf with
  | false => exact bare
  | true => rwa [block_true_eq_toCrlf, Text.getLast?_toCrlf]

/-! ## A marker on one line -/

/-- A marker that is not empty and holds no character that ends a line. -/
structure OneLine (marker : List Char) : Prop where
  nonempty : marker ≠ []
  noFeed : '\n' ∉ marker
  noReturn : '\r' ∉ marker

theorem oneLine_of_singleLine {field value : String}
    (accepted : Validation.singleLine field value = .ok ()) : OneLine value.toList := by
  obtain ⟨⟨c, member, _⟩, noFeed, noReturn⟩ := Validation.singleLine_eq_ok_iff.1 accepted
  exact ⟨List.ne_nil_of_mem member, noFeed, noReturn⟩

theorem OneLine.startsCrlf_lead {marker lead : List Char} (oneLine : OneLine marker)
    (nonempty : lead ≠ []) : startsCrlf (lead ++ marker) = startsCrlf lead :=
  Text.startsCrlf_append nonempty fun feed => oneLine.noFeed (List.mem_of_mem_head? feed)

theorem OneLine.no_return_at_end {marker : List Char} (oneLine : OneLine marker)
    (front : List Char) : '\r' ∉ (front ++ marker).getLast? := by
  intro isLast
  rw [List.getLast?_append, List.getLast?_eq_some_getLast oneLine.nonempty, Option.some_or] at isLast
  apply oneLine.noReturn
  rw [← Option.some.inj isLast]
  exact List.getLast_mem oneLine.nonempty

private theorem NoBlankAtEnd.no_return_at_end {gap : List Char} (solidEnd : NoBlankAtEnd gap) :
    '\r' ∉ gap.getLast? := by
  intro isLast
  rw [NoBlankAtEnd, Option.mem_def.1 isLast] at solidEnd
  exact absurd solidEnd (by decide)

/-! ## Blocks along the leads of a text -/

theorem crlfOnly_weave (oneLine : OneLine patch.marker.toList)
    (decomposed : (leadPattern patch.marker.toList).Decomposes text found) (only : CrlfOnly text)
    (paired : ∀ hit ∈ found.hits, startsCrlf hit.2 = true) : CrlfOnly (patch.weave found) := by
  induction decomposed with
  | done _ => rwa [weave_nil]
  | @hit gap matched rest lead later quiet taken _ inductionHypothesis =>
    obtain ⟨rfl, longest⟩ := taken
    have leadPaired : startsCrlf lead = true := paired (gap, lead) List.mem_cons_self
    have laterPaired : ∀ hit ∈ later.hits, startsCrlf hit.2 = true :=
      fun hit member => paired hit (List.mem_cons_of_mem _ member)
    obtain ⟨more, leadShape⟩ := Text.startsCrlf_iff_prefix.1 leadPaired
    have onlyMatched := only.right (.inr (by simp [← leadShape]))
    have onlyRest := onlyMatched.right (.inl (oneLine.no_return_at_end lead))
    rw [weave_cons, oneLine.startsCrlf_lead longest.leadsAt.nonempty, leadPaired,
      ← List.append_assoc lead]
    exact only.left.append (crlfOnly_block_true.append
      (onlyMatched.left.append (inductionHypothesis onlyRest laterPaired)))

private theorem startsCrlf_of_crlfOnly_weave (oneLine : OneLine patch.marker.toList)
    (decomposed : (leadPattern patch.marker.toList).Decomposes text found)
    (only : CrlfOnly (patch.weave found)) : ∀ hit ∈ found.hits, startsCrlf hit.2 = true := by
  induction decomposed with
  | done _ => exact fun hit member => absurd member List.not_mem_nil
  | @hit gap matched rest lead later quiet taken _ inductionHypothesis =>
    have leads := taken.2.leadsAt
    have gapEnd := (noBlankAtEnd_of_quiet quiet leads).no_return_at_end
    rw [weave_cons, oneLine.startsCrlf_lead leads.nonempty] at only
    -- A block's first line feed needs a carriage return of its own: neither a gap nor a marker ends in one.
    have onlyBlock := only.right (.inl gapEnd)
    have onlyLater : CrlfOnly (patch.weave later) := by
      rw [← List.append_assoc lead, ← List.append_assoc (patch.block _),
        ← List.append_assoc (patch.block _)] at onlyBlock
      exact onlyBlock.right (.inl (oneLine.no_return_at_end _))
    intro hit member
    rcases List.mem_cons.1 member with rfl | member
    · cases starts : startsCrlf lead with
      | true => rfl
      | false =>
        rw [starts] at onlyBlock
        exact absurd onlyBlock (not_crlfOnly_block_false _)
    · exact inductionHypothesis onlyLater hit member

private theorem no_return_weave
    (decomposed : (leadPattern patch.marker.toList).Decomposes text found)
    (noReturn : '\r' ∉ text) (stepNoReturn : '\r' ∉ patch.step.toList) :
    '\r' ∉ patch.weave found := by
  induction decomposed with
  | done _ => rwa [weave_nil]
  | @hit gap matched rest lead later quiet taken _ inductionHypothesis =>
    obtain ⟨rfl, longest⟩ := taken
    simp only [List.mem_append, not_or] at noReturn
    obtain ⟨inGap, ⟨inLead, inMarker⟩, inRest⟩ := noReturn
    have bare : startsCrlf (lead ++ patch.marker.toList) = false := by
      refine Bool.eq_false_iff.2 fun starts => ?_
      have member := (Text.startsCrlf_iff_prefix.1 starts).subset List.mem_cons_self
      exact (List.mem_append.1 member).elim inLead inMarker
    have inBlock : '\r' ∉ patch.block false :=
      fun member => stepNoReturn (Text.mem_of_mem_toLf (by simpa [stepLf] using member))
    rw [weave_cons, bare]
    simp only [List.mem_append, not_or]
    exact ⟨inGap, inBlock, inLead, inMarker, inductionHypothesis inRest⟩

/-- With a marker on one line, a text whose line feeds all stand after carriage returns keeps that form exactly when
each lead begins with the pair of the two. Where neither the text nor the step holds a carriage return, none comes
in. -/
theorem line_endings_apply_iff (patch : StepInsertion) {field : String} (content : String)
    (accepted : Validation.singleLine field patch.marker = .ok ()) :
    (CrlfOnly content.toList →
      (CrlfOnly (patch.apply content).content.toList ↔
        ∀ found, (leadPattern patch.marker.toList).Decomposes content.toList found →
          ∀ hit ∈ found.hits, startsCrlf hit.2 = true)) ∧
    ('\r' ∉ content.toList → '\r' ∉ patch.step.toList →
      '\r' ∉ (patch.apply content).content.toList) := by
  have oneLine := oneLine_of_singleLine accepted
  have decomposed : (leadPattern patch.marker.toList).Decomposes content.toList
      (patch.leads content.toList) := decomposes_iff_eq_leads.2 rfl
  rw [toList_content_apply]
  refine ⟨fun only => ⟨?_, ?_⟩, no_return_weave decomposed⟩
  · intro onlyOutput found otherwise
    obtain rfl := decomposed.unique otherwise
    exact startsCrlf_of_crlfOnly_weave oneLine decomposed onlyOutput
  · intro paired
    exact crlfOnly_weave oneLine decomposed only (paired _ decomposed)

theorem line_endings_apply_crlf_and_lf :
    let patch : StepInsertion := ⟨"ci.yml", "- x", "  - run: y\n"⟩
    Validation.singleLine "workflow.marker" patch.marker = .ok () ∧
      CrlfOnly "steps:\r\n  - x\r\n".toList ∧
      CrlfOnly (patch.apply "steps:\r\n  - x\r\n").content.toList ∧
      '\r' ∉ "steps: \n  - x\n".toList ∧ '\r' ∉ patch.step.toList ∧
      '\r' ∉ (patch.apply "steps: \n  - x\n").content.toList := by
  intro patch
  have accepted : Validation.singleLine "workflow.marker" patch.marker = .ok () :=
    Validation.singleLine_eq_ok_iff.2 ⟨⟨'x', by decide, by decide⟩, by decide, by decide⟩
  have only : CrlfOnly "steps:\r\n  - x\r\n".toList := by
    have shape : "steps:\r\n  - x\r\n".toList = Text.toCrlf "steps:\n  - x\n".toList := by decide
    rw [shape]
    exact Text.crlfOnly_toCrlf _
  have paired : ∀ found,
      (leadPattern patch.marker.toList).Decomposes "steps:\r\n  - x\r\n".toList found →
        ∀ hit ∈ found.hits, startsCrlf hit.2 = true := by
    intro found decomposed
    rw [decomposes_iff_eq_leads.1 decomposed]
    decide +kernel
  have contentNoReturn : '\r' ∉ "steps: \n  - x\n".toList := by decide
  have stepNoReturn : '\r' ∉ patch.step.toList := by decide
  exact ⟨accepted, only, ((line_endings_apply_iff patch _ accepted).1 only).2 paired, contentNoReturn,
    stepNoReturn, (line_endings_apply_iff patch _ accepted).2 contentNoReturn stepNoReturn⟩

/-- A blank at the end of the line before the marker is enough to mix the line endings. -/
theorem line_endings_mixed_after_trailing_blank :
    ∃ (patch : StepInsertion) (content : String),
      Validation.singleLine "workflow.marker" patch.marker = .ok () ∧
        '\n' ∈ content.toList ∧ CrlfOnly content.toList ∧
        ¬ CrlfOnly (patch.apply content).content.toList := by
  have accepted : Validation.singleLine "workflow.marker" "- uses: a/b@v1" = .ok () :=
    Validation.singleLine_eq_ok_iff.2 ⟨⟨'u', by decide, by decide⟩, by decide, by decide⟩
  have only : CrlfOnly "steps: \r\n  - uses: a/b@v1\r\n".toList := by
    have shape : "steps: \r\n  - uses: a/b@v1\r\n".toList =
        Text.toCrlf "steps: \n  - uses: a/b@v1\n".toList := by decide
    rw [shape]
    exact Text.crlfOnly_toCrlf _
  refine ⟨⟨"ci.yml", "- uses: a/b@v1", "  - run: x\n"⟩, "steps: \r\n  - uses: a/b@v1\r\n", accepted,
    by decide, only, ?_⟩
  have mixed : (apply ⟨"ci.yml", "- uses: a/b@v1", "  - run: x\n"⟩
      "steps: \r\n  - uses: a/b@v1\r\n").content.toList =
        "steps:".toList ++ '\n' :: "  - run: x\n \r\n  - uses: a/b@v1\r\n".toList := by
    decide +kernel
  intro onlyOutput
  exact absurd (onlyOutput _ _ mixed) (by decide)

end Patchwork.StepInsertion
