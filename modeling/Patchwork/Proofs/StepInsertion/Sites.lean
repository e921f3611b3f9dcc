import Patchwork.Proofs.StepInsertion.Decomposition
import Patchwork.Proofs.Text.LineEnding

/-!
# Insertion at all sites at once

A site of a marker is a position at which the marker stands and before which there is a blank. The search
goes from left to right and never looks back, but for a solid marker it meets every site: a marker that
neither begins nor ends in a blank and does not overlap itself can be swallowed neither by an earlier match
nor by the blanks of a later one. The insertion is then a function of the sites alone.
-/

set_option autoImplicit false

namespace Patchwork.StepInsertion

open Text (isBlank startsCrlf)

/-- A marker that neither begins nor ends in a blank and of which no proper prefix, the empty one aside, is also
a suffix. -/
structure Solid (marker : List Char) : Prop where
  nonempty : marker ≠ []
  head_solid : marker.head?.any isBlank = false
  end_solid : marker.getLast?.any isBlank = false
  borderless : ∀ size < marker.length, 0 < size → ¬ marker.take size <:+ marker

/-- The marker stands at the position, with a blank right before it. -/
def isSite (marker text : List Char) (position : Nat) : Bool :=
  marker.isPrefixOf (text.drop position) && (text.take position).getLast?.any isBlank

def sites (marker text : List Char) : List Nat :=
  (List.range (text.length + 1)).filter (isSite marker text)

/-- The longest run of blanks that ends right before the position. -/
def blanksBefore (text : List Char) (position : Nat) : List Char :=
  ((text.take position).reverse.takeWhile isBlank).reverse

def blanksStart (text : List Char) (position : Nat) : Nat :=
  position - (blanksBefore text position).length

/-- The blocks that belong in front of the character at the position: one for each site whose blanks begin
there. -/
def blocksAt (patch : StepInsertion) (text : List Char) (position : Nat) : List Char :=
  ((sites patch.marker.toList text).filter fun site => blanksStart text site = position).flatMap
    fun site => patch.block (startsCrlf (blanksBefore text site))

/-- The text with `inserted i` put in front of its character at position `i`, and at its end what is
inserted there. -/
def insertBefore (inserted : Nat → List Char) : List Char → List Char
  | [] => inserted 0
  | c :: rest => inserted 0 ++ c :: insertBefore (fun position => inserted (position + 1)) rest

theorem insertBefore_append {inserted : Nat → List Char} {front : List Char} (rest : List Char)
    (nothing : ∀ position < front.length, inserted position = []) :
    insertBefore inserted (front ++ rest) =
      front ++ insertBefore (fun position => inserted (front.length + position)) rest := by
  induction front generalizing inserted with
  | nil => simp
  | cons c front inductionHypothesis =>
    have later : ∀ position < front.length, inserted (position + 1) = [] :=
      fun position inside => nothing (position + 1) (by simpa using inside)
    rw [List.cons_append, insertBefore, nothing 0 (by simp), inductionHypothesis later]
    simp [Nat.add_right_comm]

private theorem insertBefore_append_of_first {inserted : Nat → List Char} {front : List Char} (rest : List Char)
    (nonempty : front ≠ [])
    (nothing : ∀ position < front.length, position ≠ 0 → inserted position = []) :
    insertBefore inserted (front ++ rest) =
      inserted 0 ++ (front ++ insertBefore (fun position => inserted (front.length + position)) rest) := by
  cases front with
  | nil => exact absurd rfl nonempty
  | cons c front =>
    have later : ∀ position < front.length, inserted (position + 1) = [] :=
      fun position inside => nothing (position + 1) (by simpa using inside) (by omega)
    rw [List.cons_append, insertBefore, insertBefore_append rest later]
    simp [Nat.add_right_comm]

private theorem insertBefore_nothing (text : List Char) : insertBefore (fun _ => []) text = text := by
  induction text with
  | nil => rfl
  | cons c rest inductionHypothesis => rw [insertBefore, inductionHypothesis, List.nil_append]

/-! ## Sites of a part of the text -/

theorem blanksBefore_append {front : List Char} (solidEnd : NoBlankAtEnd front) (rest : List Char)
    (position : Nat) :
    blanksBefore (front ++ rest) (front.length + position) = blanksBefore rest position := by
  have stops : front.reverse.takeWhile isBlank = [] := by
    cases reversed : front.reverse with
    | nil => rfl
    | cons c _ =>
      have solid : isBlank c = false := by
        simpa [NoBlankAtEnd, ← List.head?_reverse, reversed] using solidEnd
      exact List.takeWhile_cons_of_neg (by simp [solid])
  rw [blanksBefore, List.take_length_add_append, List.reverse_append, List.takeWhile_append, stops]
  split
  · next whole =>
    rw [blanksBefore, List.append_nil, (List.takeWhile_sublist isBlank).eq_of_length whole]
  · rfl

private theorem blanksStart_append {front : List Char} (solidEnd : NoBlankAtEnd front) (rest : List Char)
    (position : Nat) :
    blanksStart (front ++ rest) (front.length + position) =
      front.length + blanksStart rest position := by
  have inside : (blanksBefore rest position).length ≤ position := by
    have notLonger : (blanksBefore rest position).length ≤ (rest.take position).reverse.length := by
      rw [blanksBefore, List.length_reverse]
      exact (List.takeWhile_sublist _).length_le
    rw [List.length_reverse, List.length_take] at notLonger
    omega
  rw [blanksStart, blanksStart, blanksBefore_append solidEnd]
  omega

private theorem isSite_append {front : List Char} (solidEnd : NoBlankAtEnd front)
    (marker rest : List Char) (position : Nat) :
    isSite marker (front ++ rest) (front.length + position) = isSite marker rest position := by
  rw [isSite, isSite, List.drop_length_add_append, List.take_length_add_append,
    List.getLast?_append]
  cases ending : (rest.take position).getLast? with
  | some c => simp
  | none =>
    cases frontEnding : front.getLast? with
    | none => simp
    | some c =>
      rw [NoBlankAtEnd, frontEnding, Option.any_some] at solidEnd
      simp [solidEnd]

theorem sites_append {front : List Char} (solidEnd : NoBlankAtEnd front) (marker rest : List Char) :
    sites marker (front ++ rest) =
      (List.range front.length).filter (isSite marker (front ++ rest)) ++
        (sites marker rest).map (front.length + ·) := by
  have sameSites : isSite marker (front ++ rest) ∘ (front.length + ·) = isSite marker rest :=
    funext (isSite_append solidEnd marker rest)
  rw [sites, List.length_append, Nat.add_assoc, List.range_add, List.filter_append, List.filter_map,
    sameSites, sites]

theorem blocksAt_append {patch : StepInsertion} {front : List Char} (solidEnd : NoBlankAtEnd front)
    (rest : List Char) (position : Nat) :
    patch.blocksAt (front ++ rest) position =
      ((((List.range front.length).filter (isSite patch.marker.toList (front ++ rest))).filter
          fun site => blanksStart (front ++ rest) site = position).flatMap
        fun site => patch.block (startsCrlf (blanksBefore (front ++ rest) site))) ++
      if front.length ≤ position then patch.blocksAt rest (position - front.length) else [] := by
  rw [blocksAt, sites_append solidEnd, List.filter_append, List.flatMap_append, List.filter_map,
    List.flatMap_map]
  simp only [blanksBefore_append solidEnd, Function.comp_def, blanksStart_append solidEnd]
  split
  · next inside =>
    have sameStart : ∀ start, front.length + start = position ↔ start = position - front.length :=
      fun start => by omega
    simp only [sameStart, blocksAt]
  · next outside =>
    have elsewhere : ∀ start, ¬ front.length + start = position := fun start => by omega
    simp [elsewhere]

/-! ## The sites along the leads of a text -/

theorem starts_of_isSite {marker text : List Char} {position : Nat} (inside : position ≤ text.length)
    (site : isSite marker text position = true) :
    ∃ before, position = before + 1 ∧ (leadPattern marker).Starts (text.drop before) := by
  rw [isSite, Bool.and_eq_true, List.isPrefixOf_iff_prefix, Option.any_eq_true] at site
  obtain ⟨stands, c, isLast, blank⟩ := site
  obtain ⟨front, taken⟩ := List.getLast?_eq_some_iff.1 isLast
  have whole : text = front ++ ([c] ++ text.drop position) := by
    rw [← List.append_assoc, ← taken, List.take_append_drop]
  refine ⟨front.length, ?_, [c], ?_⟩
  · have sameLength := congrArg List.length taken
    rw [List.length_take, Nat.min_eq_left inside] at sameLength
    simpa using sameLength
  · rw [whole, List.drop_left]
    exact ⟨by simp, by simpa using blank, (List.prefix_append_right_inj [c]).2 stands⟩

theorem not_isSite_of_quiet {marker gap matched : List Char}
    (quiet : (leadPattern marker).QuietFor gap.length (gap ++ matched)) :
    (List.range gap.length).filter (isSite marker (gap ++ matched)) = [] := by
  rw [List.filter_eq_nil_iff]
  intro position inGap site
  rw [List.mem_range] at inGap
  obtain ⟨before, rfl, starts⟩ := starts_of_isSite (by rw [List.length_append]; omega) site
  exact quiet before (by omega) starts

variable {marker lead rest : List Char}

private theorem Solid.not_stands_in_lead (solid : Solid marker) (blank : ∀ c ∈ lead, isBlank c = true)
    {position : Nat} (inLead : position < lead.length) :
    ¬ marker <+: (lead ++ (marker ++ rest)).drop position := by
  intro stands
  rw [List.drop_append_of_le_length (Nat.le_of_lt inLead), List.drop_eq_getElem_cons inLead] at stands
  cases shape : marker with
  | nil => exact solid.nonempty shape
  | cons first more =>
    rw [shape] at stands
    have same : first = lead[position] := (List.cons_prefix_cons.1 stands).1
    have notBlank : isBlank first = false := by simpa [shape] using solid.head_solid
    rw [same, blank _ (List.getElem_mem inLead)] at notBlank
    cases notBlank

private theorem Solid.not_stands_overlapping (solid : Solid marker) {position : Nat} (after : 0 < position)
    (overlapping : position < marker.length) : ¬ marker <+: (marker ++ rest).drop position := by
  intro stands
  rw [List.drop_append_of_le_length (Nat.le_of_lt overlapping)] at stands
  -- The overlap is a prefix of the second occurrence and a suffix of the first.
  have isPrefix : marker.drop position <+: marker :=
    List.prefix_of_prefix_length_le (List.prefix_append _ rest) stands (by simp)
  apply solid.borderless (marker.length - position) (by omega) (by omega)
  rw [List.prefix_iff_eq_take, List.length_drop] at isPrefix
  rw [← isPrefix]
  exact List.drop_suffix position marker

theorem Solid.sites_in_match (solid : Solid marker) (leads : LeadsAt marker lead (lead ++ (marker ++ rest))) :
    (List.range (lead ++ marker).length).filter (isSite marker (lead ++ (marker ++ rest))) =
      [lead.length] := by
  have noneInLead :
      (List.range lead.length).filter (isSite marker (lead ++ (marker ++ rest))) = [] := by
    rw [List.filter_eq_nil_iff]
    intro position inLead site
    rw [List.mem_range] at inLead
    rw [isSite, Bool.and_eq_true, List.isPrefixOf_iff_prefix] at site
    exact solid.not_stands_in_lead leads.blank inLead site.1
  obtain ⟨size, markerLength⟩ : ∃ size, marker.length = size + 1 :=
    Nat.exists_eq_succ_of_ne_zero (by simpa using solid.nonempty)
  have atMarker : isSite marker (lead ++ (marker ++ rest)) (lead.length + 0) = true := by
    rw [isSite, Nat.add_zero, List.drop_left, List.take_left, Bool.and_eq_true,
      List.isPrefixOf_iff_prefix, Option.any_eq_true]
    refine ⟨List.prefix_append marker rest, lead.getLast leads.nonempty, ?_, ?_⟩
    · exact List.getLast?_eq_some_getLast leads.nonempty
    · exact leads.blank _ (List.getLast_mem leads.nonempty)
  have noneInMarker : ∀ position, position < size →
      ¬ isSite marker (lead ++ (marker ++ rest)) (lead.length + (position + 1)) = true := by
    intro position inMarker site
    rw [isSite, Bool.and_eq_true, List.isPrefixOf_iff_prefix, List.drop_length_add_append] at site
    exact solid.not_stands_overlapping (by omega) (by omega) site.1
  rw [List.length_append, List.range_add, List.filter_append, noneInLead, markerLength,
    List.range_succ_eq_map, List.map_cons, List.filter_cons_of_pos atMarker, List.map_map,
    List.nil_append, Nat.add_zero, List.cons_inj_right, List.filter_eq_nil_iff]
  intro position member
  obtain ⟨offset, inRange, rfl⟩ := List.mem_map.1 member
  exact noneInMarker offset (List.mem_range.1 inRange)

theorem Solid.noBlankAtEnd (solid : Solid marker) (front : List Char) :
    NoBlankAtEnd (front ++ marker) := by
  rw [NoBlankAtEnd, List.getLast?_append, List.getLast?_eq_some_getLast solid.nonempty,
    Option.some_or, ← List.getLast?_eq_some_getLast]
  exact solid.end_solid

private theorem blanksBefore_lead (blank : ∀ c ∈ lead, isBlank c = true) (after : List Char) :
    blanksBefore (lead ++ after) lead.length = lead := by
  have all : lead.reverse.takeWhile isBlank = lead.reverse := by
    have blankReversed : ∀ c ∈ lead.reverse, isBlank c = true := by simpa using blank
    rw [← List.append_nil lead.reverse, List.takeWhile_append_of_pos blankReversed,
      List.takeWhile_nil]
  rw [blanksBefore, List.take_left, all, List.reverse_reverse]

private theorem blocksAt_match {patch : StepInsertion} (solid : Solid patch.marker.toList)
    (leads : LeadsAt patch.marker.toList lead (lead ++ (patch.marker.toList ++ rest)))
    (position : Nat) :
    patch.blocksAt ((lead ++ patch.marker.toList) ++ rest) position =
      (if 0 = position then patch.block (startsCrlf lead) else []) ++
        if (lead ++ patch.marker.toList).length ≤ position then
          patch.blocksAt rest (position - (lead ++ patch.marker.toList).length)
        else [] := by
  rw [blocksAt_append (solid.noBlankAtEnd lead), List.append_assoc, solid.sites_in_match leads]
  congr 1
  have start : blanksStart (lead ++ (patch.marker.toList ++ rest)) lead.length = 0 := by
    rw [blanksStart, blanksBefore_lead leads.blank, Nat.sub_self]
  by_cases first : 0 = position <;>
    simp [start, first, blanksBefore_lead leads.blank]

private theorem insertBefore_gap {patch : StepInsertion} {gap matched : List Char}
    (quiet : (leadPattern patch.marker.toList).QuietFor gap.length (gap ++ matched))
    (leads : LeadsAt patch.marker.toList lead matched) :
    insertBefore (patch.blocksAt (gap ++ matched)) (gap ++ matched) =
      gap ++ insertBefore (patch.blocksAt matched) matched := by
  have blocksFromGap : ∀ position, patch.blocksAt (gap ++ matched) position =
      if gap.length ≤ position then patch.blocksAt matched (position - gap.length) else [] := by
    intro position
    rw [blocksAt_append (noBlankAtEnd_of_quiet quiet leads), not_isSite_of_quiet quiet]
    rfl
  rw [insertBefore_append]
  · simp only [blocksFromGap, Nat.le_add_right, if_true, Nat.add_sub_cancel_left]
  · intro position inGap
    rw [blocksFromGap, if_neg (by omega)]

private theorem insertBefore_lead {patch : StepInsertion} (solid : Solid patch.marker.toList)
    (leads : LeadsAt patch.marker.toList lead (lead ++ (patch.marker.toList ++ rest))) :
    insertBefore (patch.blocksAt (lead ++ (patch.marker.toList ++ rest)))
        (lead ++ (patch.marker.toList ++ rest)) =
      patch.block (startsCrlf lead) ++
        (lead ++ (patch.marker.toList ++ insertBefore (patch.blocksAt rest) rest)) := by
  have blocksFromLead : ∀ position,
      patch.blocksAt ((lead ++ patch.marker.toList) ++ rest) position = _ :=
    blocksAt_match solid leads
  have long : 0 < (lead ++ patch.marker.toList).length :=
    List.length_pos_iff.2 (by simp [leads.nonempty])
  have notFirst : ∀ position, ¬ 0 = (lead ++ patch.marker.toList).length + position :=
    fun position => by omega
  rw [← List.append_assoc lead, insertBefore_append_of_first]
  · simp only [blocksFromLead, notFirst, Nat.not_le.2 long, if_true, if_false, Nat.le_add_right,
      Nat.add_sub_cancel_left, List.append_nil, List.nil_append]
    rw [List.append_assoc lead]
  · exact List.length_pos_iff.1 long
  · intro position inside later
    rw [blocksFromLead, if_neg (Ne.symm later), if_neg (by omega), List.append_nil]

theorem sites_match {gap : List Char} (solid : Solid marker)
    (quiet : (leadPattern marker).QuietFor gap.length (gap ++ (lead ++ (marker ++ rest))))
    (leads : LeadsAt marker lead (lead ++ (marker ++ rest))) :
    (sites marker (gap ++ (lead ++ (marker ++ rest)))).length = (sites marker rest).length + 1 := by
  have inMatch : sites marker (lead ++ (marker ++ rest)) =
      [lead.length] ++ (sites marker rest).map ((lead ++ marker).length + ·) := by
    rw [← solid.sites_in_match leads, ← List.append_assoc, sites_append (solid.noBlankAtEnd lead)]
  rw [sites_append (noBlankAtEnd_of_quiet quiet leads), not_isSite_of_quiet quiet, inMatch]
  simp

private theorem sites_eq_nil_of_no_start {text : List Char}
    (noStart : ∀ passed, ¬ (leadPattern marker).Starts (text.drop passed)) :
    sites marker text = [] := by
  rw [sites, List.filter_eq_nil_iff]
  intro position inText site
  rw [List.mem_range] at inText
  obtain ⟨before, -, starts⟩ := starts_of_isSite (by omega) site
  exact noStart before starts

theorem weave_of_decomposes {patch : StepInsertion} {text : List Char}
    {found : Text.Scan (List Char)} (solid : Solid patch.marker.toList)
    (decomposed : (leadPattern patch.marker.toList).Decomposes text found) :
    found.hits.length = (sites patch.marker.toList text).length ∧
      patch.weave found = insertBefore (patch.blocksAt text) text := by
  induction decomposed with
  | done noStart =>
    have noSites := sites_eq_nil_of_no_start noStart
    have noBlocks : patch.blocksAt _ = fun _ => [] :=
      funext fun position => by rw [blocksAt, noSites]; rfl
    exact ⟨by rw [noSites]; rfl, by rw [noBlocks, insertBefore_nothing, weave_nil]⟩
  | @hit gap matched rest lead later quiet taken _ inductionHypothesis =>
    obtain ⟨whole, longest⟩ := taken
    rw [List.append_assoc] at whole
    subst whole
    have noFeed : '\n' ∉ patch.marker.toList.head? := by
      intro feed
      have notBlank := solid.head_solid
      rw [Option.mem_def.1 feed] at notBlank
      exact absurd notBlank (by decide)
    constructor
    · rw [sites_match solid quiet longest.leadsAt, ← inductionHypothesis.1, List.length_cons]
    · rw [insertBefore_gap quiet longest.leadsAt, insertBefore_lead solid longest.leadsAt, weave_cons,
        Text.startsCrlf_append longest.leadsAt.nonempty noFeed, inductionHypothesis.2]

/-- For a solid marker the insertion counts the sites, puts one block for each site at the start of the blanks
before it, and changes nothing else. -/
theorem apply_eq_insertBefore_sites (patch : StepInsertion) (content : String)
    (solid : Solid patch.marker.toList) :
    (patch.apply content).matchCount = (sites patch.marker.toList content.toList).length ∧
      (patch.apply content).content.toList =
        insertBefore (patch.blocksAt content.toList) content.toList := by
  rw [toList_content_apply, matchCount_apply]
  exact weave_of_decomposes solid (decomposes_iff_eq_leads.2 rfl)

theorem apply_eq_insertBefore_sites_both_endings :
    let patch : StepInsertion := ⟨"ci.yml", "a.*", "$1\n"⟩
    let content := "s:\r\n a.*\n\t a.* a.x"
    Solid patch.marker.toList ∧ (patch.apply content).matchCount = 2 ∧
      (patch.apply content).content.toList =
        "s:\r\n$1\r\n\r\n a.*\n$1\n\n\t a.* a.x".toList := by
  intro patch content
  have solid : Solid patch.marker.toList :=
    ⟨by decide, by decide, by decide, by decide +kernel⟩
  obtain ⟨count, text⟩ := apply_eq_insertBefore_sites patch content solid
  exact ⟨solid, count.trans (by decide +kernel), text.trans (by decide +kernel)⟩

end Patchwork.StepInsertion
