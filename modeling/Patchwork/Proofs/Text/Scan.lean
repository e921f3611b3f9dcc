import Patchwork.Text.Scan

/-!
# What a scan finds

A pattern says at which texts a match starts and which match is taken there. A text is decomposed by a
pattern when it is read as gaps and matches in turn, each match being taken at the first place, counted
from the end of the match before it, at which one starts.

A text has only one decomposition, and a scan yields it whenever its look answers for the pattern.
-/

set_option autoImplicit false

namespace Patchwork.Text

/-- What a scan looks for. `Starts text` says that some match starts at the first character of the text, and
`Takes text what rest` that the one taken there means `what` and leaves `rest`. -/
structure Pattern (α : Type) where
  Starts : List Char → Prop
  Takes : List Char → α → List Char → Prop
  starts_of_takes : ∀ {text what rest}, Takes text what rest → Starts text
  takes_unique : ∀ {text what rest otherWhat otherRest},
    Takes text what rest → Takes text otherWhat otherRest → what = otherWhat ∧ rest = otherRest

/-- The same hits, with one character more in front of the text. -/
def Scan.push {α : Type} (c : Char) (found : Scan α) : Scan α :=
  match found.hits with
  | [] => ⟨[], c :: found.tail⟩
  | (gap, what) :: later => ⟨(c :: gap, what) :: later, found.tail⟩

/-- The hits of two texts one after the other. What is left of the first text joins the gap before the first hit of
the second. -/
def Scan.append {α : Type} (found later : Scan α) : Scan α :=
  match later.hits with
  | [] => ⟨found.hits, found.tail ++ later.tail⟩
  | (gap, what) :: more => ⟨found.hits ++ (found.tail ++ gap, what) :: more, later.tail⟩

namespace Pattern

variable {α : Type} {pattern : Pattern α} {look : List Char → Look α}

/-- No match starts at any of the first `count` characters of the text. -/
def QuietFor (pattern : Pattern α) (count : Nat) (text : List Char) : Prop :=
  ∀ passed < count, ¬ pattern.Starts (text.drop passed)

/-- The gaps and matches of a text from left to right. -/
inductive Decomposes (pattern : Pattern α) : List Char → Scan α → Prop where
  | done {text} :
      (∀ passed, ¬ pattern.Starts (text.drop passed)) → Decomposes pattern text ⟨[], text⟩
  | hit {gap matched rest what later} :
      pattern.QuietFor gap.length (gap ++ matched) → pattern.Takes matched what rest →
      Decomposes pattern rest later →
      Decomposes pattern (gap ++ matched) ⟨(gap, what) :: later.hits, later.tail⟩

private theorem gap_length_le {gap matched otherGap otherMatched : List Char}
    (sameText : gap ++ matched = otherGap ++ otherMatched)
    (quiet : pattern.QuietFor gap.length (gap ++ matched))
    (otherStarts : pattern.Starts otherMatched) : gap.length ≤ otherGap.length := by
  -- A longer gap would run past the start of the other match.
  refine Nat.le_of_not_lt fun longer => quiet otherGap.length longer ?_
  rw [sameText, List.drop_left]
  exact otherStarts

/-- A text has only one decomposition. -/
theorem Decomposes.unique {text : List Char} {found other : Scan α}
    (decomposed : pattern.Decomposes text found) (otherwise : pattern.Decomposes text other) :
    found = other := by
  induction decomposed generalizing other with
  | @done text noStart =>
    cases otherwise with
    | done _ => rfl
    | @hit gap matched _ _ _ _ taken _ =>
      refine absurd (pattern.starts_of_takes taken) ?_
      simpa using noStart gap.length
  | @hit gap matched rest what later quiet taken _ inductionHypothesis =>
    generalize sameText : gap ++ matched = whole at otherwise
    cases otherwise with
    | done noStart =>
      refine absurd (pattern.starts_of_takes taken) ?_
      simpa [← sameText] using noStart gap.length
    | @hit otherGap otherMatched otherRest otherWhat otherLater otherQuiet otherTaken otherDecomposed =>
      have notLonger := gap_length_le sameText quiet (pattern.starts_of_takes otherTaken)
      have notShorter :=
        gap_length_le sameText.symm otherQuiet (pattern.starts_of_takes taken)
      obtain ⟨rfl, rfl⟩ := List.append_inj sameText (Nat.le_antisymm notLonger notShorter)
      obtain ⟨rfl, rfl⟩ := pattern.takes_unique taken otherTaken
      rw [inductionHypothesis otherDecomposed]

/-- A look answers for a pattern when its hits are the matches that the pattern takes and no match starts
at a character that a miss passes over. -/
structure AnsweredBy (pattern : Pattern α) (look : List Char → Look α) : Prop where
  not_starts_nil : ¬ pattern.Starts []
  takes_of_hit : ∀ {c rest what more},
    look (c :: rest) = .hit what more → pattern.Takes (c :: rest) what (rest.drop more)
  quiet_of_miss : ∀ {c rest more},
    look (c :: rest) = .miss more → pattern.QuietFor (more + 1) (c :: rest)

theorem QuietFor.append {count more : Nat} {text : List Char}
    (quiet : pattern.QuietFor count text) (later : pattern.QuietFor more (text.drop count)) :
    pattern.QuietFor (count + more) text := by
  intro passed inside
  by_cases early : passed < count
  · exact quiet passed early
  · have starts := later (passed - count) (by omega)
    rwa [List.drop_drop, Nat.add_sub_cancel' (by omega)] at starts

private theorem AnsweredBy.of_findFrom_eq_some (answers : pattern.AnsweredBy look)
    {gap text : List Char} {found : Find α} (finds : findFrom look gap text = some found) :
    ∃ passed matched, text = passed ++ matched ∧ found.gap = gap.reverse ++ passed ∧
      pattern.QuietFor passed.length text ∧ pattern.Takes matched found.what found.rest := by
  fun_induction findFrom look gap text with
  | case1 => simp at finds
  | case2 gap c rest what more looked =>
    obtain rfl := Option.some.inj finds
    refine ⟨[], c :: rest, rfl, by simp, ?_, answers.takes_of_hit looked⟩
    intro passed inside
    simp at inside
  | case3 gap c rest more looked inductionHypothesis =>
    obtain ⟨passed, matched, sameText, sameGap, quiet, taken⟩ := inductionHypothesis finds
    have whole : c :: rest = (c :: rest.take more ++ passed) ++ matched := by
      rw [List.append_assoc, ← sameText, List.cons_append, List.take_append_drop]
    refine ⟨c :: rest.take more ++ passed, matched, whole, by simp [sameGap], ?_, taken⟩
    have allQuiet : pattern.QuietFor (more + 1 + passed.length) (c :: rest) :=
      (answers.quiet_of_miss looked).append (by simpa using quiet)
    intro position inside
    refine allQuiet position (Nat.lt_of_lt_of_le inside ?_)
    simp only [List.length_append, List.length_cons, List.length_take]
    omega

private theorem AnsweredBy.of_findFrom_eq_none (answers : pattern.AnsweredBy look)
    {gap text : List Char} (finds : findFrom look gap text = none) :
    ∀ passed, ¬ pattern.Starts (text.drop passed) := by
  fun_induction findFrom look gap text with
  | case1 => simpa using answers.not_starts_nil
  | case2 gap c rest what more looked => simp at finds
  | case3 gap c rest more looked inductionHypothesis =>
    intro passed
    have laterQuiet : pattern.QuietFor (passed + 1) ((c :: rest).drop (more + 1)) :=
      fun position _ => inductionHypothesis finds position
    exact ((answers.quiet_of_miss looked).append laterQuiet) passed (by omega)

/-- A scan decomposes the text by the pattern that its look answers for. -/
theorem AnsweredBy.decomposes_scan (answers : pattern.AnsweredBy look) (text : List Char) :
    pattern.Decomposes text (scan look text) := by
  fun_induction scan look text with
  | case1 text finds => exact .done (answers.of_findFrom_eq_none finds)
  | case2 text found finds _ later inductionHypothesis =>
    obtain ⟨passed, matched, rfl, sameGap, quiet, taken⟩ := answers.of_findFrom_eq_some finds
    rw [List.reverse_nil, List.nil_append] at sameGap
    rw [sameGap]
    exact .hit quiet taken inductionHypothesis

theorem AnsweredBy.decomposes_iff (answers : pattern.AnsweredBy look) {text : List Char}
    {found : Scan α} : pattern.Decomposes text found ↔ found = scan look text := by
  constructor
  · intro decomposed
    exact decomposed.unique (answers.decomposes_scan text)
  · rintro rfl
    exact answers.decomposes_scan text

/-! ## What is read -/

/-- A text is its gaps and matches in turn, when each match stands for the characters that it takes. -/
theorem Decomposes.eq_flatMap {text : List Char} {found : Scan α}
    (decomposed : pattern.Decomposes text found) (written : α → List Char)
    (readBack : ∀ {text what rest}, pattern.Takes text what rest → text = written what ++ rest) :
    text = (found.hits.flatMap fun hit => hit.1 ++ written hit.2) ++ found.tail := by
  induction decomposed with
  | done _ => rfl
  | @hit gap matched rest what later _ taken _ inductionHypothesis =>
    rw [readBack taken, List.flatMap_cons, List.append_assoc, ← inductionHypothesis, List.append_assoc]

/-! ## One character further -/

theorem Decomposes.push {c : Char} {rest : List Char} {found : Scan α}
    (noStart : ¬ pattern.Starts (c :: rest)) (decomposed : pattern.Decomposes rest found) :
    pattern.Decomposes (c :: rest) (found.push c) := by
  cases decomposed with
  | done quiet =>
    refine .done fun passed => ?_
    cases passed with
    | zero => exact noStart
    | succ passed => exact quiet passed
  | @hit gap matched _ _ _ quiet taken later =>
    have quietLonger : pattern.QuietFor (c :: gap).length (c :: gap ++ matched) := by
      intro passed inside
      cases passed with
      | zero => exact noStart
      | succ passed => exact quiet passed (Nat.lt_of_succ_lt_succ inside)
    exact .hit quietLonger taken later

theorem AnsweredBy.scan_cons (answers : pattern.AnsweredBy look) {c : Char} {rest : List Char}
    (noStart : ¬ pattern.Starts (c :: rest)) : scan look (c :: rest) = (scan look rest).push c :=
  (answers.decomposes_iff.1 ((answers.decomposes_scan rest).push noStart)).symm

theorem AnsweredBy.scan_of_takes (answers : pattern.AnsweredBy look) {text rest : List Char}
    {what : α} (taken : pattern.Takes text what rest) :
    scan look text = ⟨([], what) :: (scan look rest).hits, (scan look rest).tail⟩ := by
  have noGap : pattern.QuietFor ([] : List Char).length ([] ++ text) :=
    fun _ inside => absurd inside (Nat.not_lt_zero _)
  exact (answers.decomposes_iff.1 (.hit noGap taken (answers.decomposes_scan rest))).symm

end Pattern

/-! ## Two texts one after the other -/

section Append

variable {α : Type} {pattern : Pattern α}

theorem Scan.nil_append (later : Scan α) : (⟨[], []⟩ : Scan α).append later = later := by
  obtain ⟨hits, tail⟩ := later
  cases hits <;> rfl

theorem Scan.cons_append (c : Char) (front : List Char) (later : Scan α) :
    (⟨[], c :: front⟩ : Scan α).append later = ((⟨[], front⟩ : Scan α).append later).push c := by
  obtain ⟨hits, tail⟩ := later
  cases hits <;> rfl

theorem Scan.hit_append (hit : List Char × α) (found later : Scan α) :
    (⟨hit :: found.hits, found.tail⟩ : Scan α).append later =
      ⟨hit :: (found.append later).hits, (found.append later).tail⟩ := by
  obtain ⟨hits, tail⟩ := later
  cases hits <;> rfl

theorem Scan.length_hits_append (found later : Scan α) :
    (found.append later).hits.length = found.hits.length + later.hits.length := by
  obtain ⟨hits, tail⟩ := later
  cases hits with
  | nil => rfl
  | cons hit more => exact List.length_append

/-- A text in which no match starts joins the gap before the first match of what follows it. -/
theorem Pattern.Decomposes.append_of_quiet {front back : List Char} {later : Scan α}
    (decomposed : pattern.Decomposes back later) (quiet : pattern.QuietFor front.length (front ++ back)) :
    pattern.Decomposes (front ++ back) ((⟨[], front⟩ : Scan α).append later) := by
  induction front with
  | nil =>
    rw [Scan.nil_append]
    exact decomposed
  | cons c front inductionHypothesis =>
    rw [Scan.cons_append]
    refine (inductionHypothesis fun passed inside => ?_).push (quiet 0 (Nat.succ_pos _))
    exact quiet (passed + 1) (Nat.succ_lt_succ inside)

end Append

/-- Every hit takes at least one character. -/
theorem length_hits_scan_le {α : Type} (look : List Char → Look α) (text : List Char) :
    (scan look text).hits.length ≤ text.length := by
  fun_induction scan look text with
  | case1 => exact Nat.zero_le _
  | case2 text found finds shorter later inductionHypothesis =>
    rw [List.length_cons]
    exact Nat.succ_le_of_lt (Nat.lt_of_le_of_lt inductionHypothesis shorter)

end Patchwork.Text
