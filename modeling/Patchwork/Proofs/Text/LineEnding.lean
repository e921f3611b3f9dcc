import Patchwork.Text.LineEnding

/-!
# Line endings of texts put together

What holds of the line endings of a text in terms of its parts.
-/

set_option autoImplicit false

namespace Patchwork.Text

theorem startsCrlf_iff_prefix {text : List Char} :
    startsCrlf text = true ↔ ['\r', '\n'] <+: text := by
  constructor
  · intro starts
    unfold startsCrlf at starts
    split at starts
    · next rest => exact List.prefix_append ['\r', '\n'] rest
    · cases starts
  · rintro ⟨rest, rfl⟩
    rfl

theorem startsCrlf_append {front rest : List Char} (nonempty : front ≠ [])
    (noFeed : '\n' ∉ rest.head?) : startsCrlf (front ++ rest) = startsCrlf front := by
  rw [Bool.eq_iff_iff, startsCrlf_iff_prefix, startsCrlf_iff_prefix]
  match front with
  | [] => exact absurd rfl nonempty
  | [c] =>
    cases rest with
    | nil => rfl
    | cons d more =>
      have notFeed : '\n' ≠ d := fun same => noFeed (by rw [same]; rfl)
      simp [List.cons_prefix_cons, notFeed]
  | c :: d :: more => simp [List.cons_prefix_cons]

/-! ## The last character -/

@[simp] theorem getLast?_toLf (text : List Char) : (toLf text).getLast? = text.getLast? := by
  fun_induction toLf text with
  | case1 => rfl
  | case2 rest inductionHypothesis =>
    rw [List.getLast?_cons, inductionHypothesis, List.getLast?_cons, List.getLast?_cons]
    simp
  | case3 c rest notPair inductionHypothesis =>
    rw [List.getLast?_cons, inductionHypothesis, List.getLast?_cons]

@[simp] theorem getLast?_toCrlf (text : List Char) : (toCrlf text).getLast? = text.getLast? := by
  induction text with
  | nil => rfl
  | cons c rest inductionHypothesis =>
    have firstLast : (if c = '\n' then ['\r', '\n'] else [c]).getLast? = some c := by
      split <;> simp_all
    rw [toCrlf] at inductionHypothesis
    rw [toCrlf, List.flatMap_cons, List.getLast?_append, firstLast, inductionHypothesis,
      List.getLast?_cons]
    cases rest.getLast? <;> rfl

/-! ## Texts with one kind of line ending -/

/-- Every line feed stands right after a carriage return. -/
def CrlfOnly (text : List Char) : Prop :=
  ∀ before after, text = before ++ '\n' :: after → before.getLast? = some '\r'

variable {front rest : List Char}

theorem CrlfOnly.append (frontOnly : CrlfOnly front) (restOnly : CrlfOnly rest) :
    CrlfOnly (front ++ rest) := by
  intro before after whole
  rcases List.append_eq_append_iff.1 whole with ⟨inRest, rfl, atFeed⟩ | ⟨inFront, atFeed, afterFeed⟩
  · rw [List.getLast?_append, restOnly inRest after atFeed, Option.some_or]
  · cases inFront with
    | nil =>
      have noneBefore := restOnly [] after (by simpa using afterFeed.symm)
      cases noneBefore
    | cons c more =>
      obtain ⟨rfl, -⟩ := List.cons.inj afterFeed
      exact frontOnly before more atFeed

theorem CrlfOnly.left (only : CrlfOnly (front ++ rest)) : CrlfOnly front := by
  intro before after whole
  exact only before (after ++ rest) (by simp [whole])

theorem CrlfOnly.right (only : CrlfOnly (front ++ rest))
    (apart : '\r' ∉ front.getLast? ∨ '\n' ∉ rest.head?) : CrlfOnly rest := by
  intro before after whole
  have paired := only (front ++ before) after (by simp [whole])
  rw [List.getLast?_append] at paired
  cases lastBefore : before.getLast? with
  | some c => simpa [lastBefore] using paired
  | none =>
    obtain rfl := List.getLast?_eq_none_iff.1 lastBefore
    rcases apart with noReturn | noFeed
    · exact absurd (by simpa using paired) noReturn
    · exact absurd (by simp [whole]) noFeed

theorem not_crlfOnly_of_feed : ¬ CrlfOnly ('\n' :: rest) := by
  intro only
  cases only [] rest rfl

private theorem crlfOnly_of_no_feed (noFeed : '\n' ∉ front) : CrlfOnly front := by
  intro before after whole
  exact absurd (by simp [whole]) noFeed

theorem crlfOnly_pair : CrlfOnly ['\r', '\n'] := by
  intro before after whole
  match before with
  | [] => cases whole
  | [_] => obtain ⟨rfl, -⟩ := List.cons.inj whole; rfl
  | _ :: _ :: _ => simp at whole

theorem crlfOnly_toCrlf (text : List Char) : CrlfOnly (toCrlf text) := by
  induction text with
  | nil => exact crlfOnly_of_no_feed List.not_mem_nil
  | cons c rest inductionHypothesis =>
    rw [toCrlf, List.flatMap_cons]
    refine CrlfOnly.append ?_ inductionHypothesis
    split
    · exact crlfOnly_pair
    · next notFeed => exact crlfOnly_of_no_feed (by simpa using Ne.symm notFeed)

theorem mem_of_mem_toLf {c : Char} {text : List Char} (member : c ∈ toLf text) : c ∈ text := by
  fun_induction toLf text with
  | case1 => exact member
  | case2 rest inductionHypothesis =>
    rcases List.mem_cons.1 member with rfl | member
    · simp
    · exact List.mem_cons_of_mem _ (List.mem_cons_of_mem _ (inductionHypothesis member))
  | case3 first rest notPair inductionHypothesis =>
    rcases List.mem_cons.1 member with rfl | member
    · exact List.mem_cons_self
    · exact List.mem_cons_of_mem _ (inductionHypothesis member)

/-! ## Pieces of a line -/

theorem toCrlf_feed_cons (rest : List Char) : toCrlf ('\n' :: rest) = '\r' :: '\n' :: toCrlf rest := rfl

theorem toCrlf_cons_of_ne {c : Char} (notFeed : c ≠ '\n') (rest : List Char) :
    toCrlf (c :: rest) = c :: toCrlf rest := by
  rw [toCrlf, List.flatMap_cons, if_neg notFeed]
  rfl

private theorem prefix_of_prefix_toCrlf {line text : List Char} (noFeed : '\n' ∉ line) (noReturn : '\r' ∉ line)
    (stands : line <+: toCrlf text) : line <+: text := by
  induction text generalizing line with
  | nil => exact stands
  | cons c rest inductionHypothesis =>
    cases line with
    | nil => exact List.nil_prefix
    | cons d more =>
      rw [List.mem_cons, not_or] at noFeed noReturn
      by_cases feed : c = '\n'
      · rw [feed, toCrlf_feed_cons] at stands
        exact absurd (List.cons_prefix_cons.1 stands).1.symm noReturn.1
      · rw [toCrlf_cons_of_ne feed] at stands
        obtain ⟨rfl, standsAfter⟩ := List.cons_prefix_cons.1 stands
        exact List.cons_prefix_cons.2 ⟨rfl, inductionHypothesis noFeed.2 noReturn.2 standsAfter⟩

/-- What stands in one line, after any character, stood there before the line feeds were paired. -/
theorem infix_of_infix_toCrlf {c : Char} {line text : List Char} (nonempty : line ≠ [])
    (noFeed : '\n' ∉ line) (noReturn : '\r' ∉ line) (stands : c :: line <:+: toCrlf text) :
    c :: line <:+: text := by
  induction text with
  | nil => exact stands
  | cons d rest inductionHypothesis =>
    have later : c :: line <:+: toCrlf rest → c :: line <:+: d :: rest := by
      intro inRest
      exact (inductionHypothesis inRest).trans (List.suffix_cons d rest).isInfix
    have first : c :: line <+: d :: toCrlf rest → c :: line <:+: d :: rest := by
      intro atStart
      obtain ⟨rfl, standsAfter⟩ := List.cons_prefix_cons.1 atStart
      have atLine := prefix_of_prefix_toCrlf noFeed noReturn standsAfter
      exact (List.cons_prefix_cons.2 ⟨rfl, atLine⟩).isInfix
    by_cases feed : d = '\n'
    · subst feed
      rw [toCrlf_feed_cons, List.infix_cons_iff, List.infix_cons_iff] at stands
      rcases stands with atReturn | atFeed | inRest
      · -- Behind a new carriage return comes a line feed, with which the line does not begin.
        have atFeed := (List.cons_prefix_cons.1 atReturn).2
        cases line with
        | nil => exact absurd rfl nonempty
        | cons e more =>
          obtain ⟨rfl, -⟩ := List.cons_prefix_cons.1 atFeed
          exact absurd List.mem_cons_self noFeed
      · exact first atFeed
      · exact later inRest
    · rw [toCrlf_cons_of_ne feed, List.infix_cons_iff] at stands
      rcases stands with atStart | inRest
      · exact first atStart
      · exact later inRest

end Patchwork.Text
