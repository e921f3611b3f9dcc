import Patchwork.Proofs.StepInsertion.LineCount
import Patchwork.Proofs.StepInsertion.Sites

/-!
# Inserting again and again

The output of an insertion holds the markers of the input, with a block in front of each. When the block ends
its last line and the marker nowhere stands in it after a blank, the next insertion finds the same markers: none
is new, and each has a longer lead, since the blanks with which the block ends now belong to it. So every
insertion adds as many blocks as the first one.
-/

set_option autoImplicit false

namespace Patchwork.StepInsertion

open Text (isBlank)

variable {patch : StepInsertion} {marker lead text : List Char}

/-! ## Texts in which no lead starts -/

/-- The marker stands nowhere in the text with a blank right before it. -/
def Unmarked (marker text : List Char) : Prop :=
  ∀ c, isBlank c = true → ¬ c :: marker <:+: text

private theorem unmarked_of_sites_eq_nil (noSites : sites marker text = []) : Unmarked marker text := by
  rintro c blank ⟨before, after, rfl⟩
  have whole : before ++ c :: marker ++ after = (before ++ [c]) ++ (marker ++ after) := by simp
  have position : before.length + 1 = (before ++ [c]).length := by simp
  have site : isSite marker (before ++ c :: marker ++ after) (before.length + 1) = true := by
    rw [isSite, whole, position, List.drop_left, List.take_left, Bool.and_eq_true,
      List.isPrefixOf_iff_prefix]
    exact ⟨List.prefix_append marker after, by simpa using blank⟩
  have member : before.length + 1 ∈ sites marker (before ++ c :: marker ++ after) := by
    refine List.mem_filter.2 ⟨List.mem_range.2 ?_, site⟩
    simp only [List.length_append, List.length_cons]
    omega
  rw [noSites] at member
  exact absurd member List.not_mem_nil

private theorem LeadsAt.exists_infix (leads : LeadsAt marker lead text) :
    ∃ c, isBlank c = true ∧ c :: marker <:+: text := by
  have shape := List.dropLast_concat_getLast leads.nonempty
  refine ⟨_, leads.blank _ (List.getLast_mem leads.nonempty), ?_⟩
  refine List.IsInfix.trans ?_ leads.standsBefore.isInfix
  refine ⟨lead.dropLast, [], ?_⟩
  rw [List.append_nil, List.append_cons, shape]

private theorem Unmarked.not_leadsAt (unmarked : Unmarked marker text) (passed : Nat) (lead : List Char) :
    ¬ LeadsAt marker lead (text.drop passed) := by
  intro leads
  obtain ⟨c, blank, stands⟩ := leads.exists_infix
  exact unmarked c blank (stands.trans (List.drop_suffix passed text).isInfix)

/-! ## The blanks at the end of a block -/

private theorem exists_solid_append_blanks (text : List Char) :
    ∃ solid blanks, text = solid ++ blanks ∧ NoBlankAtEnd solid ∧ ∀ c ∈ blanks, isBlank c = true := by
  induction text with
  | nil => exact ⟨[], [], rfl, rfl, by simp⟩
  | cons c rest inductionHypothesis =>
    obtain ⟨solid, blanks, rfl, solidEnd, blank⟩ := inductionHypothesis
    cases solid with
    | nil =>
      cases isSolid : isBlank c with
      | true => exact ⟨[], c :: blanks, rfl, rfl, by simpa [isSolid] using blank⟩
      | false => exact ⟨[c], blanks, rfl, by simpa [NoBlankAtEnd] using isSolid, blank⟩
    | cons d more =>
      refine ⟨c :: d :: more, blanks, rfl, ?_, blank⟩
      rwa [NoBlankAtEnd, List.getLast?_cons_cons]

private theorem OneLine.unmarked_block (oneLine : OneLine patch.marker.toList)
    (unmarked : Unmarked patch.marker.toList (patch.block false)) (crlf : Bool) :
    Unmarked patch.marker.toList (patch.block crlf) := by
  cases crlf with
  | false => exact unmarked
  | true =>
    intro c blank stands
    rw [block_true_eq_toCrlf] at stands
    exact unmarked c blank
      (Text.infix_of_infix_toCrlf oneLine.nonempty oneLine.noFeed oneLine.noReturn stands)

private theorem OneLine.block_eq_cons (oneLine : OneLine patch.marker.toList) (crlf : Bool) :
    ∃ c more, patch.block crlf = c :: more ∧ c ∉ patch.marker.toList := by
  cases crlf with
  | false => exact ⟨'\n', _, patch.block_false, oneLine.noFeed⟩
  | true => exact ⟨'\r', _, patch.block_true, oneLine.noReturn⟩

/-! ## The leads of the output -/

/-- What the marker and the step need for the block to bring in no marker. -/
structure Apart (patch : StepInsertion) : Prop where
  oneLine : OneLine patch.marker.toList
  solid : ∃ c ∈ patch.marker.toList, isBlank c = false
  stepEnded : patch.StepEnded
  unmarked : Unmarked patch.marker.toList (patch.block false)

variable {found : Text.Scan (List Char)} {gap matched rest : List Char}

private theorem Apart.quietFor_gap (apart : patch.Apart)
    (quiet : (leadPattern patch.marker.toList).QuietFor gap.length (gap ++ matched))
    (leads : LeadsAt patch.marker.toList lead matched) (crlf : Bool) (more : List Char) :
    (leadPattern patch.marker.toList).QuietFor gap.length (gap ++ (patch.block crlf ++ more)) := by
  obtain ⟨c, blockRest, blockEq, notInMarker⟩ := apart.oneLine.block_eq_cons crlf
  rw [blockEq]
  refine quietFor_of_barrier [] (noBlankAtEnd_of_quiet quiet leads) notInMarker ?_
  intro passed inside other otherLeads
  rw [List.append_nil] at otherLeads
  refine quiet passed inside ⟨other, ?_⟩
  rw [List.drop_append_of_le_length (Nat.le_of_lt inside)]
  exact otherLeads.append matched

private theorem Apart.exists_quietFor_block (apart : patch.Apart) (crlf : Bool) (more : List Char) :
    ∃ solid blanks, patch.block crlf = solid ++ blanks ∧ (∀ c ∈ blanks, isBlank c = true) ∧
      (leadPattern patch.marker.toList).QuietFor solid.length (solid ++ (blanks ++ more)) := by
  obtain ⟨front, blockEq⟩ :=
    List.getLast?_eq_some_iff.1 (apart.stepEnded.feed_mem_getLast?_block crlf)
  obtain ⟨solid, blanks, rfl, solidEnd, blank⟩ := exists_solid_append_blanks front
  refine ⟨solid, blanks ++ ['\n'], by rw [blockEq, List.append_assoc], ?_, ?_⟩
  · intro c member
    rcases List.mem_append.1 member with member | member
    · exact blank c member
    · obtain rfl := List.mem_singleton.1 member
      decide
  · rw [List.append_assoc, List.singleton_append]
    refine quietFor_of_barrier blanks solidEnd apart.oneLine.noFeed ?_
    intro passed inside other leads
    refine (apart.oneLine.unmarked_block apart.unmarked crlf).not_leadsAt passed other ?_
    rw [blockEq, List.drop_append_of_le_length (by rw [List.length_append]; omega)]
    exact leads.append _

/-- The output has as many leads as the input. -/
theorem Apart.exists_decomposes_weave (apart : patch.Apart)
    (decomposed : (leadPattern patch.marker.toList).Decomposes text found) :
    ∃ again, (leadPattern patch.marker.toList).Decomposes (patch.weave found) again ∧
      again.hits.length = found.hits.length := by
  induction decomposed with
  | @done text noStart => exact ⟨⟨[], text⟩, .done noStart, rfl⟩
  | @hit gap matched rest lead later quiet taken _ inductionHypothesis =>
    obtain ⟨again, decomposedLater, sameCount⟩ := inductionHypothesis
    obtain ⟨-, longest⟩ := taken
    generalize crlf : Text.startsCrlf (lead ++ patch.marker.toList) = ending
    obtain ⟨solid, blanks, blockEq, blank, quietBlock⟩ := apart.exists_quietFor_block ending
      (lead ++ (patch.marker.toList ++ patch.weave later))
    have quietGap := apart.quietFor_gap quiet longest.leadsAt ending
      (lead ++ (patch.marker.toList ++ patch.weave later))
    have shape : patch.weave ⟨(gap, lead) :: later.hits, later.tail⟩ =
        (gap ++ solid) ++ ((blanks ++ lead) ++ patch.marker.toList ++ patch.weave later) := by
      rw [weave_cons, crlf, blockEq]
      simp only [List.append_assoc]
    have quietBoth : (leadPattern patch.marker.toList).QuietFor (gap ++ solid).length
        ((gap ++ solid) ++ ((blanks ++ lead) ++ patch.marker.toList ++ patch.weave later)) := by
      rw [List.length_append]
      rw [blockEq] at quietGap
      simp only [List.append_assoc] at quietGap quietBlock ⊢
      exact quietGap.append (by rwa [List.drop_left])
    have leadsNow : LeadsAt patch.marker.toList (blanks ++ lead)
        ((blanks ++ lead) ++ patch.marker.toList ++ patch.weave later) := by
      have standsHere : LeadsAt patch.marker.toList lead
          (lead ++ patch.marker.toList ++ patch.weave later) :=
        ⟨longest.leadsAt.nonempty, longest.leadsAt.blank, List.prefix_append _ _⟩
      have extended := standsHere.extend blank
      simpa only [List.append_assoc] using extended
    rw [shape]
    exact ⟨_, .hit quietBoth ⟨rfl, leadsNow.longestLead apart.solid⟩ decomposedLater,
      congrArg Nat.succ sameCount⟩

/-! ## One run after the other -/

theorem Apart.matchCount_apply_apply (apart : patch.Apart) (content : String) :
    (patch.apply (patch.apply content).content).matchCount = (patch.apply content).matchCount := by
  obtain ⟨again, decomposedAgain, sameCount⟩ :=
    apart.exists_decomposes_weave (decomposes_leads patch content.toList)
  rw [matchCount_apply, toList_content_apply, ← decomposes_iff_eq_leads.1 decomposedAgain, sameCount,
    matchCount_apply]

theorem Apart.matchCount_afterRuns (apart : patch.Apart) (content : String) (runs : Nat) :
    (patch.apply (afterRuns patch.apply content runs)).matchCount = (patch.apply content).matchCount := by
  induction runs with
  | zero => rfl
  | succ runs inductionHypothesis =>
    rw [afterRuns, apart.matchCount_apply_apply, inductionHypothesis]

theorem Apart.lineCount_afterRuns (apart : patch.Apart) (content : String) (runs : Nat) :
    lineCount (afterRuns patch.apply content runs) =
      lineCount content + runs * (patch.apply content).matchCount * patch.linesPerInsertion := by
  induction runs with
  | zero => simp [afterRuns]
  | succ runs inductionHypothesis =>
    rw [afterRuns, lineCount_apply, apart.matchCount_afterRuns, inductionHypothesis, Nat.succ_mul,
      Nat.add_mul, Nat.add_assoc]

/-- With a marker on one line, and a step that is empty or ends its last line and brings in no site of the marker,
every run counts what the first one counted, and the lines grow by one block for each marker in each run. -/
theorem afterRuns_adds_block_per_marker (patch : StepInsertion) {field : String} (content : String)
    (accepted : Validation.singleLine field patch.marker = .ok ())
    (stepEnded : patch.step.toList = [] ∨ '\n' ∈ patch.step.toList.getLast?)
    (noSites : sites patch.marker.toList ('\n' :: Text.toLf patch.step.toList) = []) (runs : Nat) :
    (∀ earlier < runs, (patch.apply (afterRuns patch.apply content earlier)).matchCount =
        (patch.apply content).matchCount) ∧
      lineCount (afterRuns patch.apply content runs) =
        lineCount content + runs * (patch.apply content).matchCount * patch.linesPerInsertion := by
  have apart : patch.Apart :=
    { oneLine := oneLine_of_singleLine accepted
      solid := (Validation.singleLine_eq_ok_iff.1 accepted).1
      stepEnded := stepEnded
      unmarked := unmarked_of_sites_eq_nil noSites }
  constructor
  · intro earlier _
    exact apart.matchCount_afterRuns content earlier
  · exact apart.lineCount_afterRuns content runs

/-- The marker begins and ends with a blank, one block gets line feeds and the other one carriage returns too,
and the step ends in an empty line that joins the leads of the next run. -/
theorem afterRuns_adds_block_per_marker_three_times :
    let patch : StepInsertion := ⟨"ci.yml", " x ", "- x\n\n"⟩
    let content := "a\r\n  x  x \n\t x "
    Validation.singleLine "workflow.marker" patch.marker = .ok () ∧
      (patch.step.toList = [] ∨ '\n' ∈ patch.step.toList.getLast?) ∧
      sites patch.marker.toList ('\n' :: Text.toLf patch.step.toList) = [] ∧
      (patch.apply (afterRuns patch.apply content 2)).matchCount = 2 ∧
      lineCount (afterRuns patch.apply content 3) = 21 := by
  intro patch content
  have accepted : Validation.singleLine "workflow.marker" patch.marker = .ok () :=
    Validation.singleLine_eq_ok_iff.2 ⟨⟨'x', by decide, by decide⟩, by decide, by decide⟩
  have stepEnded : patch.step.toList = [] ∨ '\n' ∈ patch.step.toList.getLast? := .inr (by decide)
  have noSites : sites patch.marker.toList ('\n' :: Text.toLf patch.step.toList) = [] := by
    decide +kernel
  obtain ⟨sameCount, lineCounts⟩ :=
    afterRuns_adds_block_per_marker patch content accepted stepEnded noSites 3
  have first : (patch.apply content).matchCount = 2 := by decide +kernel
  refine ⟨accepted, stepEnded, noSites, (sameCount 2 (by decide)).trans first, ?_⟩
  rw [lineCounts, first]
  decide +kernel

end Patchwork.StepInsertion
