import Patchwork.Proofs.Placeholder.Pass
import Patchwork.Text.Occurrence

/-!
# Expanding a text piece by piece

A dollar sign and an opening brace are open at the end of a text when no closing brace stands after them. A text
that leaves none open can be expanded on its own, whatever follows it. Where some are open, the name that
begins there goes on into what follows, up to the first closing brace, and a placeholder on the way is read as a
part of that name.
-/

set_option autoImplicit false

namespace Patchwork.Placeholder

variable {environment : Environment} {name back rest text : List Char} {c : Char}

/-! ## Step by step -/

theorem expandChars_written_append (isName : IsName name) (rest : List Char) :
    expandChars environment (written name ++ rest) = fill environment name ++ expandChars environment rest := by
  have taken : pattern.Takes (written name ++ rest) name rest := ⟨isName, rfl⟩
  rw [expandChars, look_answers.scan_of_takes taken]
  simp [expandChars]

private theorem expandChars_cons (noStart : ¬ pattern.Starts (c :: rest)) :
    expandChars environment (c :: rest) = c :: expandChars environment rest := by
  rw [expandChars, look_answers.scan_cons noStart, Text.Scan.push, expandChars]
  cases (Text.scan look rest).hits <;> rfl

/-- A text is empty, or it starts with a placeholder, or its first character stays as it is. -/
@[elab_as_elim] theorem placeholder_induction {motive : List Char → Prop} (text : List Char)
    (nil : motive [])
    (placeholder : ∀ name rest, IsName name → motive rest → motive (written name ++ rest))
    (character : ∀ c rest, ¬ pattern.Starts (c :: rest) → motive rest → motive (c :: rest)) :
    motive text := by
  match text with
  | [] => exact nil
  | c :: after =>
    by_cases starts : pattern.Starts (c :: after)
    · obtain ⟨name, rest, isName, whole⟩ := starts
      have shorter : rest.length < after.length + 1 := by
        have lengths := congrArg List.length whole
        simp only [written_append, List.length_cons, List.length_append] at lengths
        omega
      rw [whole]
      exact placeholder name rest isName (placeholder_induction rest nil placeholder character)
    · exact character c after starts (placeholder_induction after nil placeholder character)
termination_by text.length

/-! ## Texts that leave no brace open -/

/-- After every dollar sign and opening brace a closing brace stands somewhere. -/
def Closed (text : List Char) : Prop :=
  ∀ rest, '$' :: '\x7b' :: rest <:+ text → '\x7d' ∈ rest

theorem closed_nil : Closed [] :=
  fun _ opens => absurd (List.suffix_nil.1 opens) (by simp)

theorem closed_cons_iff :
    Closed (c :: text) ↔ (['$', '\x7b'] <+: c :: text → '\x7d' ∈ text) ∧ Closed text := by
  constructor
  · intro closed
    refine ⟨?_, fun rest opens => closed rest (opens.trans (List.suffix_cons c text))⟩
    rintro ⟨rest, whole⟩
    obtain ⟨rfl, rfl⟩ := List.cons.inj whole
    exact List.mem_cons_of_mem _ (closed rest (List.suffix_refl _))
  · rintro ⟨here, later⟩ rest opens
    rcases List.suffix_cons_iff.1 opens with whole | opens
    · obtain ⟨rfl, rfl⟩ := List.cons.inj whole
      simpa using here ⟨rest, rfl⟩
    · exact later rest opens

instance decidableClosed : ∀ text, Decidable (Closed text)
  | [] => isTrue closed_nil
  | _ :: text =>
    have := decidableClosed text
    decidable_of_iff _ closed_cons_iff.symm

theorem closed_of_no_dollar (noDollar : '$' ∉ text) : Closed text :=
  fun _ opens => absurd (opens.subset List.mem_cons_self) noDollar

private theorem Closed.of_suffix (closed : Closed text) (suffix : rest <:+ text) : Closed rest :=
  fun _ opens => closed _ (opens.trans suffix)

private theorem Closed.starts_of_starts_append (closed : Closed (c :: text))
    (apart : '$' ∈ (c :: text).getLast? → '\x7b' ∉ back.head?)
    (starts : pattern.Starts (c :: text ++ back)) : pattern.Starts (c :: text) := by
  obtain ⟨name, rest, isName, whole⟩ := starts
  rw [written_append, List.cons_append, List.cons_eq_cons] at whole
  obtain ⟨rfl, whole⟩ := whole
  cases text with
  | nil =>
    rw [List.nil_append] at whole
    exact absurd (whole ▸ rfl) (apart rfl)
  | cons d inner =>
    rw [List.cons_append, List.cons_eq_cons] at whole
    obtain ⟨rfl, whole⟩ := whole
    -- The first closing brace after the two stands in this text already, and so the whole name does.
    obtain ⟨inside, after, rfl, noBrace⟩ :=
      List.eq_append_cons_of_mem (closed inner (List.suffix_refl _))
    have sameName : inside = name := by
      rw [List.append_assoc, List.cons_append] at whole
      rw [← takeWhile_name noBrace (after ++ back), whole, takeWhile_name isName.noBrace]
    subst sameName
    exact ⟨inside, after, isName, (written_append inside after).symm⟩

/-- A text that leaves no brace open is expanded for itself, unless a dollar sign at its end and a brace
after it come together. -/
theorem expandChars_append {front : List Char} (closed : Closed front)
    (apart : '$' ∈ front.getLast? → '\x7b' ∉ back.head?) :
    expandChars environment (front ++ back) =
      expandChars environment front ++ expandChars environment back := by
  induction front using placeholder_induction with
  | nil => rw [expandChars_of_no_dollar List.not_mem_nil, List.nil_append, List.nil_append]
  | placeholder name rest isName inductionHypothesis =>
    have later := inductionHypothesis (closed.of_suffix (List.suffix_append _ rest))
      fun dollar => apart (List.mem_getLast?_append_of_mem_getLast? dollar)
    rw [List.append_assoc, expandChars_written_append isName, expandChars_written_append isName, later,
      List.append_assoc]
  | character c rest noStart inductionHypothesis =>
    have noStartLonger : ¬ pattern.Starts (c :: (rest ++ back)) :=
      fun starts => noStart (closed.starts_of_starts_append apart starts)
    have later := inductionHypothesis (closed.of_suffix (List.suffix_cons c rest))
      fun dollar => apart (List.mem_getLast?_cons dollar)
    rw [List.cons_append, expandChars_cons noStartLonger, expandChars_cons noStart, later, List.cons_append]

/-- A text in which every dollar sign and opening brace have a closing brace after them, and which does not end in a
dollar sign, is expanded the same way whatever follows it, and so is what follows. -/
theorem expand_append_of_closed (environment : Environment) (front back : String)
    (closed : Closed front.toList) (noDollar : '$' ∉ front.toList.getLast?) :
    expand environment (front ++ back) = expand environment front ++ expand environment back := by
  have pieces : expandChars environment (front.toList ++ back.toList) =
      expandChars environment front.toList ++ expandChars environment back.toList :=
    expandChars_append closed fun dollar => absurd dollar noDollar
  simpa [← String.toList_inj, toList_expand] using pieces

/-- The first text has a placeholder, an empty pair of braces and an opening brace inside a name; the second
one goes on with a closing brace. -/
theorem expand_append_of_closed_over_nested_braces :
    let environment : Environment := fun name => if name = "N" then some "v" else none
    let front := "a$\x7bN\x7d $\x7b\x7d $\x7bb$\x7bN\x7d\n"
    let back := "\x7d $\x7bN\x7d $\x7b"
    Closed front.toList ∧ '$' ∉ front.toList.getLast? ∧
      expand environment (front ++ back) = "av $\x7b\x7d $\x7bb$\x7bN\x7d\n\x7d v $\x7b" := by
  intro environment front back
  have closed : Closed front.toList := by decide
  have noDollar : '$' ∉ front.toList.getLast? := by decide
  refine ⟨closed, noDollar, ?_⟩
  rw [expand_append_of_closed environment front back closed noDollar]
  decide +kernel

/-! ## Occurrences -/

private theorem exists_rest_of_not_closed (closed : Closed text) (notClosed : ¬ Closed (c :: text)) :
    ∃ rest, c :: text = '$' :: '\x7b' :: rest ∧ '\x7d' ∉ rest := by
  rw [closed_cons_iff, not_and', Classical.not_imp] at notClosed
  obtain ⟨⟨rest, whole⟩, noBrace⟩ := notClosed closed
  obtain ⟨rfl, rfl⟩ := List.cons.inj whole
  exact ⟨rest, rfl, fun member => noBrace (List.mem_cons_of_mem _ member)⟩

/-- The first of the braces that a text leaves open. -/
theorem exists_first_open (notClosed : ¬ Closed text) :
    ∃ front inner, text = front ++ '$' :: '\x7b' :: inner ∧ Closed front ∧ '\x7d' ∉ inner := by
  induction text with
  | nil => exact absurd closed_nil notClosed
  | cons c text inductionHypothesis =>
    by_cases closed : Closed text
    · obtain ⟨rest, whole, noBrace⟩ := exists_rest_of_not_closed closed notClosed
      exact ⟨[], rest, whole, closed_nil, noBrace⟩
    · obtain ⟨front, inner, rfl, closedFront, noBrace⟩ := inductionHypothesis closed
      by_cases closedLonger : Closed (c :: front)
      · exact ⟨c :: front, inner, rfl, closedLonger, noBrace⟩
      · -- The new character opens a brace that nothing closes, and so this one is the first.
        obtain ⟨rest, whole, noBraceFront⟩ := exists_rest_of_not_closed closedFront closedLonger
        refine ⟨[], rest ++ '$' :: '\x7b' :: inner, ?_, closed_nil, ?_⟩
        · rw [← List.cons_append, whole]
          rfl
        · simp [noBraceFront, noBrace]

theorem expandChars_of_closed {before : List Char} (isName : IsName name) (closed : Closed before)
    (after : List Char) :
    expandChars environment (before ++ (written name ++ after)) =
      expandChars environment before ++ (fill environment name ++ expandChars environment after) := by
  have noBrace : '\x7b' ∉ (written name ++ after).head? := by simp [written]
  rw [expandChars_append closed fun _ => noBrace, expandChars_written_append isName]

/-- A longer name begins at an open brace and takes a placeholder in. -/
private theorem IsName.within {inner : List Char} (isName : IsName name) (noBrace : '\x7d' ∉ inner) :
    IsName (inner ++ '$' :: '\x7b' :: name) where
  nonempty := by simp
  noBrace := by simp [noBrace, isName.noBrace]

private theorem written_within (inner name after : List Char) :
    '$' :: '\x7b' :: (inner ++ (written name ++ after)) =
      written (inner ++ '$' :: '\x7b' :: name) ++ after := by
  simp [written]

theorem expandChars_of_open {front inner : List Char} (isName : IsName name) (closed : Closed front)
    (noBrace : '\x7d' ∉ inner) (after : List Char) :
    expandChars environment (front ++ '$' :: '\x7b' :: inner ++ (written name ++ after)) =
      expandChars environment front ++
        (fill environment (inner ++ '$' :: '\x7b' :: name) ++ expandChars environment after) := by
  rw [List.append_assoc, List.cons_append, List.cons_append, written_within]
  exact expandChars_of_closed (isName.within noBrace) closed after

/-- A name between a dollar sign with an opening brace and a closing brace is replaced by the value of its variable,
whatever stands around it, unless a brace is open before it. Then the name begins at the first open brace and takes
the occurrence in: the value of that longer name comes in, and without one all of it stays as it is. -/
theorem occurrence_expanded_unless_open (environment : Environment) {name value : String}
    (before after : String) (isName : IsName name.toList) (set : environment name = some value) :
    let document := before ++ String.ofList (written name.toList) ++ after
    (Closed before.toList →
      expand environment document = expand environment before ++ value ++ expand environment after) ∧
    (¬ Closed before.toList →
      ∃ front inner : String, before = front ++ "$\x7b" ++ inner ∧ Closed front.toList ∧
        '\x7d' ∉ inner.toList ∧
        let longer := inner ++ "$\x7b" ++ name
        expand environment document = expand environment front ++
          (environment longer).getD (String.ofList (written longer.toList)) ++
            expand environment after) := by
  intro document
  have characters : document.toList = before.toList ++ (written name.toList ++ after.toList) := by
    simp [document]
  constructor
  · intro closed
    rw [← String.toList_inj, toList_expand, characters, expandChars_of_closed isName closed, fill_toList,
      set, Option.getD_some]
    simp [toList_expand]
  · intro notClosed
    obtain ⟨front, inner, whole, closed, noBrace⟩ := exists_first_open notClosed
    refine ⟨String.ofList front, String.ofList inner, ?_, by simpa, by simpa, ?_⟩
    · simp [← String.toList_inj, whole]
    · intro longer
      have longerCharacters : longer.toList = inner ++ '$' :: '\x7b' :: name.toList := by
        simp [longer]
      rw [← String.toList_inj, toList_expand, characters, whole,
        expandChars_of_open isName closed noBrace, ← longerCharacters, fill_toList]
      simp [toList_expand]

/-- Before the first occurrence stand empty braces, a placeholder and a dollar sign; before the second one a
brace is open. -/
theorem occurrence_expanded_unless_open_both_ways :
    let environment : Environment := fun name => if name = "N" then some "v" else none
    let occurrence := String.ofList (written "N".toList)
    IsName "N".toList ∧ environment "N" = some "v" ∧
      Closed "$\x7b\x7d$\x7bM\x7d$".toList ∧ ¬ Closed "x$\x7by\n".toList ∧
      expand environment ("$\x7b\x7d$\x7bM\x7d$" ++ occurrence ++ "\x7d") =
        "$\x7b\x7d$\x7bM\x7d$v\x7d" ∧
      ∃ front inner : String, "x$\x7by\n" = front ++ "$\x7b" ++ inner ∧ Closed front.toList ∧
        '\x7d' ∉ inner.toList ∧
        let longer := inner ++ "$\x7b" ++ "N"
        expand environment ("x$\x7by\n" ++ occurrence ++ "z") = expand environment front ++
          (environment longer).getD (String.ofList (written longer.toList)) ++ expand environment "z" := by
  intro environment occurrence
  have isName : IsName "N".toList := ⟨by decide, by decide⟩
  have set : environment "N" = some "v" := rfl
  have closed : Closed "$\x7b\x7d$\x7bM\x7d$".toList := by decide
  have notClosed : ¬ Closed "x$\x7by\n".toList := by decide
  refine ⟨isName, set, closed, notClosed, ?_, ?_⟩
  · refine ((occurrence_expanded_unless_open environment _ _ isName set).1 closed).trans ?_
    decide +kernel
  · exact (occurrence_expanded_unless_open environment _ _ isName set).2 notClosed

/-- A brace that a comment leaves open takes in a placeholder on a later line. -/
theorem occurrence_kept_after_open_brace :
    ∃ (environment : Environment) (name value before after : String),
      name ≠ "" ∧ (name.toList.all fun c => c.isAlphanum || c = '_') = true ∧
        environment name = some value ∧
        let document := before ++ String.ofList (written name.toList) ++ after
        expand environment document = document ∧ ¬ value.toList <:+: document.toList := by
  refine ⟨fun name => if name = "N" then some "ci.yml" else none, "N", "ci.yml",
    "# $\x7b\n[workflow]\npath = \"", "\"\n", by decide, by decide, rfl, ?_, ?_⟩
  · decide +kernel
  · rw [← Text.contains_iff_infix]
    decide +kernel

end Patchwork.Placeholder
