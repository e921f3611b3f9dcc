import Patchwork.Engine
import Patchwork.Outcome.Report
import Patchwork.Proofs.Json.RoundTrip
import Patchwork.Proofs.Text.Line

/-!
# Reports that are read back

The report of an outcome is read back as the JSON value that it was written from, and as the outcome itself when
its counts are ones that a report can hold. Texts that are not too long give such counts.
-/

set_option autoImplicit false

namespace Patchwork

namespace Outcome

variable {outcome : Outcome}

theorem plain_toJson (outcome : Outcome) : Json.Plain outcome.toJson := by
  refine .object fun member here => ?_
  simp only [List.mem_cons, List.not_mem_nil, or_false] at here
  rcases here with rfl | rfl | rfl | rfl | rfl | rfl | rfl
  all_goals constructor

theorem read?_report (outcome : Outcome) : Json.read? outcome.report = some outcome.toJson :=
  Json.read?_pretty outcome.plain_toJson

/-- The counts are ones that a report can hold. -/
structure Fits (outcome : Outcome) : Prop where
  matchCount : outcome.matchCount < countBound
  linesBefore : outcome.linesBefore < countBound
  linesAfter : outcome.linesAfter < countBound

theorem kind?_identifier (kind : PatchKind) : kind? (.string kind.identifier) = some kind := by
  cases kind <;> decide

theorem count?_natural {value : Nat} (small : value < countBound) : count? (.natural value) = some value :=
  if_pos small

theorem ofJson?_toJson (fits : outcome.Fits) : ofJson? outcome.toJson = some outcome := by
  have read : ofJson? outcome.toJson = ofValues? (.string outcome.kind.identifier) (.string outcome.path)
      (.natural outcome.matchCount) (.natural outcome.linesBefore) (.natural outcome.linesAfter)
      (.bool outcome.changed) (.bool outcome.written) := by
    rfl
  rw [read, ofValues?, kind?_identifier, count?_natural fits.matchCount, count?_natural fits.linesBefore,
    count?_natural fits.linesAfter]
  rfl

private theorem count?_eq_some {value : Json} {count : Nat} (reads : count? value = some count) :
    count < countBound := by
  cases value with
  | natural number =>
    rw [count?, Option.ite_none_right_eq_some] at reads
    exact Option.some.inj reads.2 ▸ reads.1
  | _ => cases reads

/-- What is read from values has counts that a report can hold. -/
private theorem fits_of_ofValues? {kind path matchCount linesBefore linesAfter changed written : Json}
    (reads : ofValues? kind path matchCount linesBefore linesAfter changed written = some outcome) :
    outcome.Fits := by
  simp only [ofValues?, Option.bind_eq_bind, Option.bind_eq_some_iff] at reads
  obtain ⟨_, _, _, _, _, readMatches, _, readBefore, _, readAfter, _, _, _, _, same⟩ := reads
  obtain rfl := Option.some.inj same
  exact ⟨count?_eq_some readMatches, count?_eq_some readBefore, count?_eq_some readAfter⟩

theorem fits_of_ofJson? {value : Json} (reads : ofJson? value = some outcome) : outcome.Fits := by
  unfold ofJson? at reads
  split at reads
  · simp only [Option.bind_eq_bind, Option.bind_eq_some_iff] at reads
    obtain ⟨_, _, _, _, _, _, _, _, _, _, _, _, _, _, read⟩ := reads
    exact fits_of_ofValues? read
  · exact fits_of_ofValues? reads
  · cases reads

theorem ofReport?_report (fits : outcome.Fits) : ofReport? outcome.report = some outcome := by
  rw [ofReport?, read?_report]
  exact ofJson?_toJson fits

/-! ## Reports on several outcomes -/

variable {outcomes : List Outcome}

theorem plain_arrayOfOutcomes (outcomes : List Outcome) : Json.Plain (.array (outcomes.map toJson)) := by
  refine .array fun item here => ?_
  obtain ⟨outcome, -, rfl⟩ := List.mem_map.1 here
  exact outcome.plain_toJson

theorem read?_reportAll_line (outcomes : List Outcome) :
    Json.read? (reportAll outcomes ++ "\n") = some (.array (outcomes.map toJson)) :=
  Json.read?_pretty_line (plain_arrayOfOutcomes outcomes)

private theorem mapM_ofJson?_toJson (fits : ∀ outcome ∈ outcomes, outcome.Fits) :
    (outcomes.map toJson).mapM ofJson? = some outcomes := by
  induction outcomes with
  | nil => rfl
  | cons outcome rest inductionHypothesis =>
    have first := ofJson?_toJson (fits outcome List.mem_cons_self)
    have others := inductionHypothesis fun other here => fits other (List.mem_cons_of_mem _ here)
    rw [List.map_cons, List.mapM_cons, first, others]
    rfl

private theorem fits_of_mapM_ofJson? {items : List Json} (reads : items.mapM ofJson? = some outcomes) :
    ∀ outcome ∈ outcomes, outcome.Fits := by
  induction items generalizing outcomes with
  | nil =>
    obtain rfl := Option.some.inj reads
    simp
  | cons item rest inductionHypothesis =>
    simp only [List.mapM_cons, Option.bind_eq_bind, Option.bind_eq_some_iff] at reads
    obtain ⟨first, readFirst, others, readOthers, same⟩ := reads
    obtain rfl := Option.some.inj same
    rintro outcome (_ | ⟨_, here⟩)
    · exact fits_of_ofJson? readFirst
    · exact inductionHypothesis readOthers outcome here

/-- The report of one outcome and the report of several give back what they were written from, whatever the paths
are, exactly when all counts are ones that a report can hold. -/
theorem reports_read_back_iff :
    (∀ outcomes : List Outcome,
      allOfReport? (reportAll outcomes) = some outcomes ↔ ∀ outcome ∈ outcomes, outcome.Fits) ∧
    ∀ outcome : Outcome, ofReport? outcome.report = some outcome ↔ outcome.Fits := by
  constructor
  · intro outcomes
    rw [allOfReport?, reportAll, Json.read?_pretty (plain_arrayOfOutcomes outcomes)]
    exact ⟨fits_of_mapM_ofJson?, mapM_ofJson?_toJson⟩
  · intro outcome
    rw [ofReport?, read?_report, Option.bind_eq_bind, Option.bind_some]
    exact ⟨fits_of_ofJson?, ofJson?_toJson⟩

end Outcome

theorem Engine.fits_outcomeOf {patch : Patch} {before : String} {patched : Patched} (written : Bool)
    (short : before.length < Outcome.countBound) (shortAfter : patched.content.length < Outcome.countBound)
    (counted : patched.matchCount ≤ before.length) :
    (outcomeOf patch before patched written).Fits where
  matchCount := Nat.lt_of_le_of_lt counted short
  linesBefore := Nat.lt_of_le_of_lt (Text.lineCount_le_length _) (String.length_toList ▸ short)
  linesAfter := Nat.lt_of_le_of_lt (Text.lineCount_le_length _) (String.length_toList ▸ shortAfter)

end Patchwork
