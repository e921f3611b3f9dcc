import Patchwork.Patch.StepInsertion
import Patchwork.Proofs.Text.Scan

/-!
# Leads

Blanks lead to a marker when there is at least one of them and the marker stands right after them. A marker
may itself begin with blanks, so several leads can start at one place. The search takes the longest of them,
and where it passes over a whole run of blanks no lead starts anywhere in the run.

A lead and its marker do not reach over a character that the marker does not have, unless only blanks stand
before it. When the marker is not blank there is only one lead at each place.
-/

set_option autoImplicit false

namespace Patchwork.StepInsertion

open Text (isBlank Look Pattern)

/-- The blanks `lead` stand at the start of a text and the marker right after them. -/
structure LeadsAt (marker lead text : List Char) : Prop where
  nonempty : lead ≠ []
  blank : ∀ c ∈ lead, isBlank c = true
  standsBefore : lead ++ marker <+: text

structure LongestLead (marker lead text : List Char) : Prop where
  leadsAt : LeadsAt marker lead text
  longest : ∀ other, LeadsAt marker other text → other.length ≤ lead.length

theorem not_leadsAt_nil {marker lead : List Char} : ¬ LeadsAt marker lead [] := by
  intro leads
  obtain ⟨noLead, -⟩ := List.append_eq_nil_iff.1 (List.prefix_nil.1 leads.standsBefore)
  exact leads.nonempty noLead

theorem leadsAt_cons_iff {marker lead rest : List Char} {c : Char} :
    LeadsAt marker lead (c :: rest) ↔
      isBlank c = true ∧
        ∃ more, lead = c :: more ∧ (more = [] ∧ marker <+: rest ∨ LeadsAt marker more rest) := by
  constructor
  · rintro ⟨nonempty, blank, standsBefore⟩
    cases lead with
    | nil => exact absurd rfl nonempty
    | cons first more =>
      obtain ⟨rfl, standsAfter⟩ := List.cons_prefix_cons.1 standsBefore
      refine ⟨blank first List.mem_cons_self, more, rfl, ?_⟩
      by_cases single : more = []
      · exact .inl ⟨single, by simpa [single] using standsAfter⟩
      · exact .inr ⟨single, fun d member => blank d (List.mem_cons_of_mem _ member), standsAfter⟩
  · rintro ⟨blank, more, rfl, ⟨rfl, stands⟩ | leads⟩
    · exact ⟨by simp, by simpa using blank, by simpa using stands⟩
    · refine ⟨by simp, ?_, List.cons_prefix_cons.2 ⟨rfl, leads.standsBefore⟩⟩
      intro d member
      rcases List.mem_cons.1 member with rfl | member
      · exact blank
      · exact leads.blank d member

theorem LeadsAt.extend {marker lead text blanks : List Char} (leads : LeadsAt marker lead text)
    (blank : ∀ c ∈ blanks, isBlank c = true) : LeadsAt marker (blanks ++ lead) (blanks ++ text) where
  nonempty := by simp [leads.nonempty]
  blank c member := (List.mem_append.1 member).elim (blank c) (leads.blank c)
  standsBefore := by
    rw [List.append_assoc]
    exact (List.prefix_append_right_inj blanks).2 leads.standsBefore

/-! ## The search for the longest lead -/

private theorem leadFrom_eq (marker : List Char) (passed : Nat) (found : Option Nat) (text : List Char) :
    leadFrom marker passed found text = ((lead? marker text).map (passed + ·)).or found := by
  induction text generalizing passed found with
  | nil => simp [lead?, leadFrom]
  | cons c rest inductionHypothesis =>
    by_cases blank : isBlank c = true
    · rw [lead?, leadFrom, leadFrom, if_pos blank, if_pos blank, inductionHypothesis (passed + 1),
        inductionHypothesis (0 + 1)]
      cases lead? marker rest with
      | none => split <;> simp
      | some more => simp [Nat.add_assoc]
    · simp [lead?, leadFrom, blank]

theorem lead?_cons (marker rest : List Char) (c : Char) :
    lead? marker (c :: rest) =
      if isBlank c then
        ((lead? marker rest).map (1 + ·)).or (if marker.isPrefixOf rest then some 0 else none)
      else none := by
  rw [lead?, leadFrom]
  split
  · exact leadFrom_eq marker 1 _ rest
  · rfl

theorem not_leadsAt_of_lead?_eq_none {marker text : List Char} (nothing : lead? marker text = none)
    (lead : List Char) : ¬ LeadsAt marker lead text := by
  induction text generalizing lead with
  | nil => exact not_leadsAt_nil
  | cons c rest inductionHypothesis =>
    intro leads
    obtain ⟨blank, more, -, standsOrLeads⟩ := leadsAt_cons_iff.1 leads
    rw [lead?_cons, if_pos blank, Option.or_eq_none_iff, Option.map_eq_none_iff] at nothing
    rcases standsOrLeads with ⟨-, stands⟩ | later
    · simp [List.isPrefixOf_iff_prefix.2 stands] at nothing
    · exact inductionHypothesis nothing.1 more later

private theorem longestLead_of_lead?_eq_some {marker text : List Char} {more : Nat}
    (found : lead? marker text = some more) :
    more < text.length ∧ LongestLead marker (text.take (more + 1)) text := by
  induction text generalizing more with
  | nil => simp [lead?, leadFrom] at found
  | cons c rest inductionHypothesis =>
    rw [lead?_cons] at found
    by_cases blank : isBlank c = true
    · rw [if_pos blank] at found
      cases later : lead? marker rest with
      | some further =>
        obtain ⟨inside, longest⟩ := inductionHypothesis later
        obtain rfl : 1 + further = more := by simpa [later] using found
        rw [Nat.add_comm 1 further, List.take_succ_cons]
        refine ⟨by simpa using inside, ?_, ?_⟩
        · exact leadsAt_cons_iff.2 ⟨blank, _, rfl, .inr longest.leadsAt⟩
        · intro other leads
          obtain ⟨-, tail, rfl, ⟨rfl, -⟩ | leads⟩ := leadsAt_cons_iff.1 leads
          · simp
          · simpa using longest.longest tail leads
      | none =>
        obtain ⟨stands, rfl⟩ : marker.isPrefixOf rest = true ∧ 0 = more := by
          simpa [later] using found
        rw [List.isPrefixOf_iff_prefix] at stands
        refine ⟨by simp, ?_, ?_⟩
        · exact leadsAt_cons_iff.2 ⟨blank, [], by simp, .inl ⟨rfl, stands⟩⟩
        · intro other leads
          obtain ⟨-, tail, rfl, ⟨rfl, -⟩ | leads⟩ := leadsAt_cons_iff.1 leads
          · simp
          · exact absurd leads (not_leadsAt_of_lead?_eq_none later tail)
    · simp [blank] at found

/-! ## Leads as a pattern -/

/-- A marker is looked for with the longest lead in front of it. The match is the lead and the marker, and
it stands for the lead. -/
def leadPattern (marker : List Char) : Pattern (List Char) where
  Starts text := ∃ lead, LeadsAt marker lead text
  Takes text lead rest := text = lead ++ marker ++ rest ∧ LongestLead marker lead text
  starts_of_takes := fun taken => ⟨_, taken.2.leadsAt⟩
  takes_unique := by
    intro text lead rest otherLead otherRest taken otherTaken
    obtain ⟨whole, longest⟩ := taken
    obtain ⟨otherWhole, otherLongest⟩ := otherTaken
    have sameLength : lead.length = otherLead.length :=
      Nat.le_antisymm (otherLongest.longest lead longest.leadsAt)
        (longest.longest otherLead otherLongest.leadsAt)
    rw [whole, List.append_assoc, List.append_assoc] at otherWhole
    obtain ⟨sameLead, sameAfter⟩ := List.append_inj otherWhole sameLength
    exact ⟨sameLead, List.append_cancel_left sameAfter⟩

private theorem isBlank_of_mem_take {text : List Char} {count : Nat} {c : Char}
    (inside : count ≤ (text.takeWhile isBlank).length) (member : c ∈ text.take count) :
    isBlank c = true := by
  have run := List.prefix_iff_eq_take.1 (List.takeWhile_prefix (l := text) isBlank)
  rw [← Nat.min_eq_left inside, ← List.take_take, ← run] at member
  exact List.all_eq_true.1 List.all_takeWhile c (List.mem_of_mem_take member)

private theorem takes_of_look_eq_hit {marker rest lead : List Char} {c : Char} {more : Nat}
    (looked : look marker (c :: rest) = .hit lead more) :
    (leadPattern marker).Takes (c :: rest) lead (rest.drop more) := by
  rw [look] at looked
  split at looked
  · split at looked
    · next further found =>
      obtain ⟨rfl, rfl⟩ := Look.hit.inj looked
      obtain ⟨inside, longest⟩ := longestLead_of_lead?_eq_some found
      obtain ⟨after, whole⟩ := longest.leadsAt.standsBefore
      have leadLength : ((c :: rest).take (further + 1)).length = further + 1 := by
        rw [List.length_take]
        omega
      have shifted : rest.drop (further + marker.length) =
          (c :: rest).drop (further + 1 + marker.length) := by
        rw [Nat.add_right_comm, List.drop_succ_cons]
      have afterEq : rest.drop (further + marker.length) = after := by
        rw [shifted, ← whole, List.drop_left']
        rw [List.length_append, leadLength]
      exact ⟨by rw [afterEq, whole], longest⟩
    · cases looked
  · cases looked

private theorem quiet_of_look_eq_miss {marker rest : List Char} {c : Char} {more : Nat}
    (looked : look marker (c :: rest) = .miss more) :
    (leadPattern marker).QuietFor (more + 1) (c :: rest) := by
  rw [look] at looked
  rintro passed inside ⟨lead, leads⟩
  split at looked
  · next blank =>
    split at looked
    · cases looked
    · next nothing =>
      obtain rfl := Look.miss.inj looked
      have blanks : ∀ d ∈ (c :: rest).take passed, isBlank d = true := by
        intro d member
        refine isBlank_of_mem_take ?_ member
        rw [List.takeWhile_cons_of_pos blank, List.length_cons]
        omega
      -- A lead inside the run of blanks would reach back to the start of the run.
      have fromStart := leads.extend blanks
      rw [List.take_append_drop] at fromStart
      exact not_leadsAt_of_lead?_eq_none nothing _ fromStart
  · next solid =>
    obtain rfl := Look.miss.inj looked
    obtain rfl : passed = 0 := by omega
    exact solid (leadsAt_cons_iff.1 leads).1

theorem look_answers (marker : List Char) : (leadPattern marker).AnsweredBy (look marker) where
  not_starts_nil := fun ⟨_, leads⟩ => not_leadsAt_nil leads
  takes_of_hit := takes_of_look_eq_hit
  quiet_of_miss := quiet_of_look_eq_miss

def NoBlankAtEnd (text : List Char) : Prop :=
  text.getLast?.any isBlank = false

theorem noBlankAtEnd_of_quiet {marker gap lead matched : List Char}
    (quiet : (leadPattern marker).QuietFor gap.length (gap ++ matched))
    (leads : LeadsAt marker lead matched) : NoBlankAtEnd gap := by
  rw [NoBlankAtEnd, Option.any_eq_false]
  intro c isLast
  obtain ⟨front, rfl⟩ := List.getLast?_eq_some_iff.1 isLast
  -- A blank at the end of the gap would belong to the lead.
  refine Bool.eq_false_iff.2 fun blank => quiet front.length (by simp) ⟨[c] ++ lead, ?_⟩
  rw [List.append_assoc, List.drop_left]
  exact leads.extend (by simpa using blank)

theorem decomposes_iff_eq_leads {patch : StepInsertion} {content : List Char}
    {found : Text.Scan (List Char)} :
    (leadPattern patch.marker.toList).Decomposes content found ↔ found = patch.leads content :=
  (look_answers patch.marker.toList).decomposes_iff

theorem decomposes_leads (patch : StepInsertion) (content : List Char) :
    (leadPattern patch.marker.toList).Decomposes content (patch.leads content) :=
  decomposes_iff_eq_leads.2 rfl

variable {marker lead text : List Char}

/-! ## Leads in front of a character that the marker does not have -/

theorem LeadsAt.append (leads : LeadsAt marker lead text) (rest : List Char) :
    LeadsAt marker lead (text ++ rest) :=
  ⟨leads.nonempty, leads.blank, leads.standsBefore.trans (List.prefix_append text rest)⟩

private theorem LeadsAt.of_append_cons {front rest : List Char} {c : Char}
    (leads : LeadsAt marker lead (front ++ c :: rest)) (apart : c ∉ marker)
    (solid : ∃ d ∈ front, isBlank d = false) : LeadsAt marker lead front := by
  refine ⟨leads.nonempty, leads.blank, ?_⟩
  obtain ⟨after, whole⟩ := leads.standsBefore
  rcases List.append_eq_append_iff.1 whole with ⟨more, frontEq, -⟩ | ⟨more, matchEq, afterEq⟩
  · exact ⟨more, frontEq.symm⟩
  · cases more with
    | nil => exact ⟨[], by rw [List.append_nil, matchEq, List.append_nil]⟩
    | cons d more =>
      obtain ⟨rfl, -⟩ := List.cons.inj afterEq
      rcases List.append_eq_append_iff.1 matchEq with ⟨inMarker, -, markerEq⟩ | ⟨inLead, leadEq, -⟩
      · exact absurd (by simp [markerEq]) apart
      · -- The lead would hold the whole front, and with it the character that is no blank.
        obtain ⟨d, member, notBlank⟩ := solid
        have blank := leads.blank d (by rw [leadEq]; exact List.mem_append_left _ member)
        rw [notBlank] at blank
        cases blank

theorem quietFor_of_barrier {front rest : List Char} {c : Char} (between : List Char)
    (solidEnd : NoBlankAtEnd front) (apart : c ∉ marker)
    (noLead : ∀ passed < front.length, ∀ lead, ¬ LeadsAt marker lead ((front ++ between).drop passed)) :
    (leadPattern marker).QuietFor front.length (front ++ (between ++ c :: rest)) := by
  rintro passed inside ⟨lead, leads⟩
  refine noLead passed inside lead ?_
  rw [List.drop_append_of_le_length (Nat.le_of_lt inside)] at leads ⊢
  rw [← List.append_assoc] at leads
  refine leads.of_append_cons apart ?_
  have nonempty : front.drop passed ≠ [] := by simpa using inside
  have isLast : (front.drop passed).getLast? = front.getLast? := by
    rw [List.getLast?_drop, if_neg (by omega)]
  refine ⟨(front.drop passed).getLast nonempty, List.mem_append_left _ (List.getLast_mem nonempty), ?_⟩
  rw [NoBlankAtEnd, ← isLast, List.getLast?_eq_some_getLast nonempty, Option.any_some] at solidEnd
  exact solidEnd

/-! ## Leads to a marker that is not blank -/

private theorem LeadsAt.length_takeWhile (leads : LeadsAt marker lead text)
    (solid : ∃ c ∈ marker, isBlank c = false) :
    (text.takeWhile isBlank).length = lead.length + (marker.takeWhile isBlank).length := by
  obtain ⟨after, rfl⟩ := leads.standsBefore
  have stops : (marker ++ after).takeWhile isBlank = marker.takeWhile isBlank := by
    rw [List.takeWhile_append, if_neg]
    intro whole
    obtain ⟨c, member, notBlank⟩ := solid
    rw [← (List.takeWhile_sublist isBlank).eq_of_length whole] at member
    rw [List.all_eq_true.1 List.all_takeWhile c member] at notBlank
    cases notBlank
  rw [List.append_assoc, List.takeWhile_append_of_pos leads.blank, stops, List.length_append]

/-- Only one lead starts at one place, since the first character that is no blank stands in the marker. -/
theorem LeadsAt.longestLead (leads : LeadsAt marker lead text)
    (solid : ∃ c ∈ marker, isBlank c = false) : LongestLead marker lead text := by
  refine ⟨leads, fun other otherLeads => ?_⟩
  have length := leads.length_takeWhile solid
  have otherLength := otherLeads.length_takeWhile solid
  omega

end Patchwork.StepInsertion
