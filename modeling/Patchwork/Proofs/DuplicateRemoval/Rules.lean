import Patchwork.Patch.DuplicateRemoval

/-!
# Which lines are dropped

The removal reads its lines once and remembers two flags. Where no `else:` line holds a marker, both flags
are functions of the lines read so far, and whether a line is dropped can be said without the flags: it holds
a duplicate marker, or an odd number of lines before it do, or it is the first `else:` line after a line with
the permission marker. Only lines past the threshold count as holding a marker.
-/

set_option autoImplicit false

namespace Patchwork.DuplicateRemoval

def holdsAt (lines : List (List Char)) (test : List Char → Bool) (index : Nat) : Bool :=
  lines[index]?.any test

def permissionAt (patch : DuplicateRemoval) (lines : List (List Char)) (index : Nat) : Bool :=
  patch.threshold < index && holdsAt lines patch.marksPermission index

def duplicateAt (patch : DuplicateRemoval) (lines : List (List Char)) (index : Nat) : Bool :=
  patch.threshold < index && holdsAt lines patch.marksDuplicate index

/-- How many lines before the index hold the duplicate marker past the threshold. -/
def duplicatesBefore (patch : DuplicateRemoval) (lines : List (List Char)) (index : Nat) : Nat :=
  (List.range index).countP (patch.duplicateAt lines)

/-- A line before the index holds the permission marker past the threshold, and no line between it and the
index is `else:`. -/
def ElsePending (patch : DuplicateRemoval) (lines : List (List Char)) (index : Nat) : Prop :=
  ∃ earlier < index, patch.permissionAt lines earlier = true ∧
    ∀ between < index, earlier < between → holdsAt lines isElse between = false

instance (patch : DuplicateRemoval) (lines : List (List Char)) (index : Nat) :
    Decidable (patch.ElsePending lines index) :=
  inferInstanceAs (Decidable (∃ earlier < index, patch.permissionAt lines earlier = true ∧
    ∀ between < index, earlier < between → holdsAt lines isElse between = false))

def Dropped (patch : DuplicateRemoval) (lines : List (List Char)) (index : Nat) : Prop :=
  patch.duplicateAt lines index = true ∨ patch.duplicatesBefore lines index % 2 = 1 ∨
    (holdsAt lines isElse index = true ∧ patch.ElsePending lines index)

instance (patch : DuplicateRemoval) (lines : List (List Char)) (index : Nat) :
    Decidable (patch.Dropped lines index) :=
  inferInstanceAs (Decidable (_ ∨ _ ∨ _))

def ElseLinesUnmarked (patch : DuplicateRemoval) (lines : List (List Char)) : Prop :=
  ∀ line ∈ lines, isElse line = true →
    patch.marksPermission line = false ∧ patch.marksDuplicate line = false

variable {patch : DuplicateRemoval} {lines : List (List Char)} {index : Nat} {progress : Progress}

/-! ## One line further -/

private theorem elsePending_zero : ¬ patch.ElsePending lines 0 := by
  rintro ⟨earlier, before, -⟩
  exact absurd before (Nat.not_lt_zero earlier)

theorem elsePending_succ :
    patch.ElsePending lines (index + 1) ↔
      patch.permissionAt lines index = true ∨
        (patch.ElsePending lines index ∧ holdsAt lines isElse index = false) := by
  constructor
  · rintro ⟨earlier, before, marked, noElse⟩
    rcases Nat.lt_succ_iff_lt_or_eq.1 before with inside | rfl
    · refine .inr ⟨⟨earlier, inside, marked, ?_⟩, noElse index (by omega) inside⟩
      exact fun between upTo => noElse between (by omega)
    · exact .inl marked
  · rintro (marked | ⟨⟨earlier, before, marked, noElse⟩, notElse⟩)
    · exact ⟨index, by omega, marked, fun between upTo after => by omega⟩
    · refine ⟨earlier, by omega, marked, fun between upTo after => ?_⟩
      rcases Nat.lt_succ_iff_lt_or_eq.1 upTo with inside | rfl
      · exact noElse between inside after
      · exact notElse

theorem duplicatesBefore_succ :
    patch.duplicatesBefore lines (index + 1) =
      patch.duplicatesBefore lines index + if patch.duplicateAt lines index then 1 else 0 := by
  rw [duplicatesBefore, duplicatesBefore, List.range_succ, List.countP_append, List.countP_singleton]

private theorem threshold_lt_of_duplicatesBefore (odd : patch.duplicatesBefore lines index % 2 = 1) :
    patch.threshold < index := by
  have positive : 0 < patch.duplicatesBefore lines index := by omega
  obtain ⟨earlier, inRange, marked⟩ := List.countP_pos_iff.1 positive
  have past : patch.threshold < earlier := by
    rw [duplicateAt, Bool.and_eq_true, decide_eq_true_eq] at marked
    exact marked.1
  exact Nat.lt_trans past (List.mem_range.1 inRange)

/-! ## What the flags mean -/

/-- The flags before the line at the index, as functions of the lines before it. -/
structure Progress.Agrees (progress : Progress) (patch : DuplicateRemoval)
    (lines : List (List Char)) (index : Nat) : Prop where
  awaitsElse : progress.awaitsElse = true ↔ patch.ElsePending lines index
  blockOpen : progress.blockOpen = true ↔ patch.duplicatesBefore lines index % 2 = 1

theorem agrees_start : Progress.start.Agrees patch lines 0 where
  awaitsElse := iff_of_false (by decide) elsePending_zero
  blockOpen := by simp [Progress.start, duplicatesBefore]

section Line

variable {line : List Char} (here : lines[index]? = some line)

include here

theorem holdsAt_eq (test : List Char → Bool) : holdsAt lines test index = test line := by
  rw [holdsAt, here, Option.any_some]

private theorem judgeLine_agrees_of_stray (unmarked : patch.ElseLinesUnmarked lines)
    (agrees : progress.Agrees patch lines index) (awaits : progress.awaitsElse = true)
    (elseLine : isElse line = true) :
    ((patch.judgeLine index progress line).1 ≠ .kept ↔ patch.Dropped lines index) ∧
      (patch.judgeLine index progress line).2.Agrees patch lines (index + 1) := by
  obtain ⟨noPermission, noDuplicate⟩ := unmarked line (List.mem_of_getElem? here) elseLine
  have judged : patch.judgeLine index progress line =
      (.strayElse, { progress with awaitsElse := false }) := by
    simp [judgeLine, awaits, elseLine]
  have dropped : patch.Dropped lines index :=
    .inr (.inr ⟨(holdsAt_eq here isElse).trans elseLine, agrees.awaitsElse.1 awaits⟩)
  rw [judged]
  refine ⟨iff_of_true (by simp) dropped, ?_, ?_⟩
  · rw [elsePending_succ, permissionAt, holdsAt_eq here, holdsAt_eq here, noPermission, elseLine]
    simp
  · rw [duplicatesBefore_succ, duplicateAt, holdsAt_eq here, noDuplicate]
    simpa using agrees.blockOpen

private theorem judgeLine_agrees_of_not_stray (agrees : progress.Agrees patch lines index)
    (notStray : ¬ (progress.awaitsElse = true ∧ isElse line = true)) :
    ((patch.judgeLine index progress line).1 ≠ .kept ↔ patch.Dropped lines index) ∧
      (patch.judgeLine index progress line).2.Agrees patch lines (index + 1) := by
  have notPending : ¬ (holdsAt lines isElse index = true ∧ patch.ElsePending lines index) := by
    rintro ⟨elseLine, pending⟩
    exact notStray ⟨agrees.awaitsElse.2 pending, (holdsAt_eq here isElse).symm.trans elseLine⟩
  have awaitsNext : (progress.awaitsElse ||
      (decide (patch.threshold < index) && patch.marksPermission line)) = true ↔
        patch.ElsePending lines (index + 1) := by
    rw [elsePending_succ, permissionAt, holdsAt_eq here patch.marksPermission, Bool.or_eq_true,
      agrees.awaitsElse, or_comm]
    refine or_congr_right ⟨fun pending => ⟨pending, ?_⟩, fun pending => pending.1⟩
    exact Bool.eq_false_iff.2 fun elseLine => notPending ⟨elseLine, pending⟩
  have duplicateHere : patch.duplicateAt lines index =
      (decide (patch.threshold < index) && patch.marksDuplicate line) := by
    rw [duplicateAt, holdsAt_eq here]
  have notStrayBool : (progress.awaitsElse && isElse line) = false := by
    simpa [Bool.and_eq_true] using notStray
  simp only [judgeLine, notStrayBool, Bool.false_eq_true, if_false]
  -- The four exits of a line that is not stray: a block is open or not, and the line counts as a marker or not.
  cases blockOpen : progress.blockOpen with
  | true =>
    have odd := agrees.blockOpen.1 blockOpen
    have past := threshold_lt_of_duplicatesBefore odd
    have dropped : patch.Dropped lines index := .inr (.inl odd)
    cases marks : patch.marksDuplicate line with
    | true =>
      have counted : patch.duplicateAt lines index = true := by simp [duplicateHere, past, marks]
      refine ⟨iff_of_true (by simp) dropped, awaitsNext, ?_⟩
      rw [duplicatesBefore_succ, if_pos counted]
      exact iff_of_false (by simp) (by omega)
    | false =>
      have uncounted : ¬ patch.duplicateAt lines index = true := by simp [duplicateHere, marks]
      refine ⟨iff_of_true (by simp) dropped, awaitsNext, ?_⟩
      rw [duplicatesBefore_succ, if_neg uncounted]
      exact iff_of_true (by simp) odd
  | false =>
    have even : ¬ patch.duplicatesBefore lines index % 2 = 1 :=
      fun odd => by simp [agrees.blockOpen.2 odd] at blockOpen
    cases opens : decide (patch.threshold < index) && patch.marksDuplicate line with
    | true =>
      have counted : patch.duplicateAt lines index = true := duplicateHere.trans opens
      refine ⟨iff_of_true (by simp) (.inl counted), awaitsNext, ?_⟩
      rw [duplicatesBefore_succ, if_pos counted]
      exact iff_of_true rfl (by omega)
    | false =>
      have uncounted : ¬ patch.duplicateAt lines index = true := by simp [duplicateHere, opens]
      have notDropped : ¬ patch.Dropped lines index := by
        rintro (counted | odd | pending)
        · exact uncounted counted
        · exact even odd
        · exact notPending pending
      refine ⟨iff_of_false (by simp) notDropped, awaitsNext, ?_⟩
      rw [duplicatesBefore_succ, if_neg uncounted]
      exact iff_of_false (by simp) even

theorem judgeLine_agrees (unmarked : patch.ElseLinesUnmarked lines)
    (agrees : progress.Agrees patch lines index) :
    ((patch.judgeLine index progress line).1 ≠ .kept ↔ patch.Dropped lines index) ∧
      (patch.judgeLine index progress line).2.Agrees patch lines (index + 1) := by
  by_cases stray : progress.awaitsElse = true ∧ isElse line = true
  · exact judgeLine_agrees_of_stray here unmarked agrees stray.1 stray.2
  · exact judgeLine_agrees_of_not_stray here agrees stray

end Line

/-! ## All lines -/

def keepMarks (judged : List (Verdict × List Char)) : List (Bool × List Char) :=
  judged.map fun line => (line.1 = .kept, line.2)

private theorem keptLines_eq (judged : List (Verdict × List Char)) :
    keptLines judged = ((keepMarks judged).filter Prod.fst).map Prod.snd := by
  rw [keptLines, keepMarks, List.filter_map, List.map_map]
  rfl

private theorem droppedCount_eq (judged : List (Verdict × List Char)) :
    droppedCount judged = (keepMarks judged).countP fun line => !line.1 := by
  rw [droppedCount, keepMarks, List.countP_map]
  congr 1
  funext line
  simp

theorem keepMarks_judgeFrom (unmarked : patch.ElseLinesUnmarked lines) (rest : List (List Char))
    (left : lines.drop index = rest) (agrees : progress.Agrees patch lines index) :
    keepMarks (patch.judgeFrom index progress rest).1 =
      (rest.zipIdx index).map fun line => (decide (¬ patch.Dropped lines line.2), line.1) := by
  induction rest generalizing index progress with
  | nil => rfl
  | cons line rest inductionHypothesis =>
    have here : lines[index]? = some line := by
      rw [← List.head?_drop, left, List.head?_cons]
    have leftLater : lines.drop (index + 1) = rest := by
      rw [← List.tail_drop, left, List.tail_cons]
    obtain ⟨verdict, agreesLater⟩ := judgeLine_agrees here unmarked agrees
    have later := inductionHypothesis leftLater agreesLater
    have kept : decide ((patch.judgeLine index progress line).1 = .kept) =
        decide (¬ patch.Dropped lines index) :=
      decide_eq_decide.2 (by rw [← verdict, Decidable.not_not])
    rw [judgeFrom, List.zipIdx_cons, List.map_cons, ← later, ← kept]
    rfl

/-- Where no `else:` line holds a marker, exactly the dropped lines are left out of the text and counted, and all
others stay as they are and in order. -/
theorem apply_eq_without_dropped (patch : DuplicateRemoval) (content : String)
    (unmarked : patch.ElseLinesUnmarked (Text.lines content.toList)) :
    (patch.apply content).content.toList =
        (((Text.lines content.toList).zipIdx.filter fun line =>
          ¬ patch.Dropped (Text.lines content.toList) line.2).map Prod.fst).flatten ∧
      (patch.apply content).matchCount =
        (Text.lines content.toList).zipIdx.countP fun line =>
          patch.Dropped (Text.lines content.toList) line.2 := by
  have marks := keepMarks_judgeFrom unmarked (Text.lines content.toList) List.drop_zero agrees_start
  constructor
  · simp only [apply, judge, String.toList_ofList, keptLines_eq, marks, List.filter_map, List.map_map]
    rfl
  · simp only [apply, judge, droppedCount_eq, marks, List.countP_map]
    congr 1
    funext line
    simp

/-- The first line is not past the threshold, one `else:` line stands in the block, and the line that closes
the block makes another one stray. -/
theorem apply_eq_without_dropped_through_block :
    let patch : DuplicateRemoval := ⟨"build.py", 0, "p", "d"⟩
    let content := "d\np\nelse:\nd\n else:\np d\nelse:\r\nx"
    patch.ElseLinesUnmarked (Text.lines content.toList) ∧
      (patch.apply content).content.toList = "d\np\nx".toList ∧
      (patch.apply content).matchCount = 5 := by
  intro patch content
  have unmarked : patch.ElseLinesUnmarked (Text.lines content.toList) := by
    unfold ElseLinesUnmarked
    decide
  obtain ⟨text, count⟩ := apply_eq_without_dropped patch content unmarked
  exact ⟨unmarked, text.trans (by decide), count.trans (by decide)⟩

end Patchwork.DuplicateRemoval
