import Mathlib.Data.List.Basic
import Mathlib.Data.List.TakeWhile
import Patchwork.Placeholder
import Patchwork.Proofs.Text.Scan

/-!
# One pass over the placeholders

A placeholder starts where a dollar sign and an opening brace are followed by a name and a closing brace. The
name reaches to the first closing brace and may hold anything else, line feeds and opening braces too.

Expanding reads a text from left to right, takes the first placeholder of what is left each time, and goes on
after it. What is put in its place is not read again.
-/

set_option autoImplicit false

namespace Patchwork.Placeholder

open Text (Look Pattern Scan)

structure IsName (name : List Char) : Prop where
  nonempty : name ≠ []
  noBrace : '\x7d' ∉ name

theorem written_append (name rest : List Char) :
    written name ++ rest = '$' :: '\x7b' :: (name ++ '\x7d' :: rest) := by
  simp [written]

theorem ne_brace_of_mem {text : List Char} (noBrace : '\x7d' ∉ text) :
    ∀ c ∈ text, decide (c ≠ '\x7d') = true :=
  fun _ member => decide_eq_true fun same => noBrace (same ▸ member)

theorem takeWhile_name {name : List Char} (noBrace : '\x7d' ∉ name) (rest : List Char) :
    (name ++ '\x7d' :: rest).takeWhile (fun c => c ≠ '\x7d') = name := by
  rw [List.takeWhile_append_of_pos (ne_brace_of_mem noBrace), List.takeWhile_cons_of_neg (by simp),
    List.append_nil]

private theorem dropWhile_name {name : List Char} (noBrace : '\x7d' ∉ name) (rest : List Char) :
    (name ++ '\x7d' :: rest).dropWhile (fun c => c ≠ '\x7d') = '\x7d' :: rest := by
  rw [List.dropWhile_append_of_pos (ne_brace_of_mem noBrace), List.dropWhile_cons_of_neg (by simp)]

/-! ## Placeholders as a pattern -/

def pattern : Pattern (List Char) where
  Starts text := ∃ name rest, IsName name ∧ text = written name ++ rest
  Takes text name rest := IsName name ∧ text = written name ++ rest
  starts_of_takes := fun taken => ⟨_, _, taken⟩
  takes_unique := by
    intro text name rest otherName otherRest taken otherTaken
    obtain ⟨isName, whole⟩ := taken
    obtain ⟨otherIsName, otherWhole⟩ := otherTaken
    rw [whole, written_append, written_append, List.cons_inj_right, List.cons_inj_right] at otherWhole
    have sameName : name = otherName := by
      rw [← takeWhile_name isName.noBrace rest, otherWhole, takeWhile_name otherIsName.noBrace]
    subst sameName
    exact ⟨rfl, (List.cons.inj (List.append_cancel_left otherWhole)).2⟩

theorem brace_mem_of_starts {text : List Char} (starts : pattern.Starts text) : '\x7d' ∈ text := by
  obtain ⟨name, rest, -, rfl⟩ := starts
  simp [written]

private theorem not_starts_of_unnamed (rest : List Char) :
    ¬ pattern.Starts ('$' :: '\x7b' :: '\x7d' :: rest) := by
  rintro ⟨name, after, isName, whole⟩
  obtain ⟨first, more, rfl⟩ := List.exists_cons_of_ne_nil isName.nonempty
  rw [written_append, List.cons_inj_right, List.cons_inj_right] at whole
  obtain ⟨rfl, -⟩ := List.cons.inj whole
  exact isName.noBrace List.mem_cons_self

private theorem not_starts_of_other {text : List Char} (other : ∀ rest, text ≠ '$' :: '\x7b' :: rest) :
    ¬ pattern.Starts text := by
  rintro ⟨name, after, -, rfl⟩
  exact other _ (written_append name after)

/-! ## The look answers for the pattern -/

/-- What stands at the start of a text. The name between the braces may be empty here. -/
inductive Start : List Char → Prop where
  | closed {name rest} : '\x7d' ∉ name → Start ('$' :: '\x7b' :: (name ++ '\x7d' :: rest))
  | unclosed {rest} : '\x7d' ∉ rest → Start ('$' :: '\x7b' :: rest)
  | other {text} : (∀ rest, text ≠ '$' :: '\x7b' :: rest) → Start text

theorem start_of_text (text : List Char) : Start text := by
  by_cases opens : ∃ rest, text = '$' :: '\x7b' :: rest
  · obtain ⟨rest, rfl⟩ := opens
    by_cases closes : '\x7d' ∈ rest
    · obtain ⟨name, after, rfl, noBrace⟩ := List.eq_append_cons_of_mem closes
      exact .closed noBrace
    · exact .unclosed closes
  · exact .other fun rest same => opens ⟨rest, same⟩

theorem look_of_closed {name : List Char} (noBrace : '\x7d' ∉ name) (rest : List Char) :
    look ('$' :: '\x7b' :: (name ++ '\x7d' :: rest)) =
      if name.isEmpty then .miss 0 else .hit name (name.length + 2) := by
  simp only [look, takeWhile_name noBrace, dropWhile_name noBrace]

private theorem look_of_unclosed {rest : List Char} (noBrace : '\x7d' ∉ rest) :
    look ('$' :: '\x7b' :: rest) = .miss (rest.length + 1) := by
  have nothingLeft : (rest.dropWhile fun c => c ≠ '\x7d') = [] :=
    List.dropWhile_eq_nil_iff.2 (ne_brace_of_mem noBrace)
  simp only [look, nothingLeft]

theorem look_of_other {text : List Char} (other : ∀ rest, text ≠ '$' :: '\x7b' :: rest) :
    look text = .miss 0 := by
  unfold look
  split
  · next rest => exact absurd rfl (other rest)
  · rfl

private theorem takes_of_look_eq_hit {c : Char} {rest name : List Char} {more : Nat}
    (looked : look (c :: rest) = .hit name more) : pattern.Takes (c :: rest) name (rest.drop more) := by
  cases start_of_text (c :: rest) with
  | @closed inner after noBrace =>
    rw [look_of_closed noBrace] at looked
    split at looked
    · cases looked
    · next nonempty =>
      obtain ⟨rfl, rfl⟩ := Look.hit.inj looked
      refine ⟨⟨by simpa using nonempty, noBrace⟩, ?_⟩
      rw [written_append]
      simp
  | unclosed noBrace =>
    rw [look_of_unclosed noBrace] at looked
    cases looked
  | other other =>
    rw [look_of_other other] at looked
    cases looked

private theorem quiet_of_look_eq_miss {c : Char} {rest : List Char} {more : Nat}
    (looked : look (c :: rest) = .miss more) : pattern.QuietFor (more + 1) (c :: rest) := by
  intro passed inside
  cases start_of_text (c :: rest) with
  | @closed inner after noBrace =>
    rw [look_of_closed noBrace] at looked
    split at looked
    · next empty =>
      obtain rfl := Look.miss.inj looked
      obtain rfl : passed = 0 := by omega
      obtain rfl := List.isEmpty_iff.1 empty
      exact not_starts_of_unnamed after
    · cases looked
  | unclosed noBrace =>
    -- Without a closing brace no placeholder starts anywhere in the rest.
    intro starts
    have member := List.mem_of_mem_drop (brace_mem_of_starts starts)
    simp [noBrace] at member
  | other other =>
    rw [look_of_other other] at looked
    obtain rfl := Look.miss.inj looked
    obtain rfl : passed = 0 := by omega
    exact not_starts_of_other other

theorem look_answers : pattern.AnsweredBy look where
  not_starts_nil := fun starts => absurd (brace_mem_of_starts starts) List.not_mem_nil
  takes_of_hit := takes_of_look_eq_hit
  quiet_of_miss := quiet_of_look_eq_miss

/-! ## The expanded text -/

variable {environment : Environment}

theorem fill_of_set {name : List Char} {value : String}
    (set : environment (String.ofList name) = some value) : fill environment name = value.toList := by
  rw [fill, set]

theorem fill_of_unset {name : List Char} (unset : environment (String.ofList name) = none) :
    fill environment name = written name := by
  rw [fill, unset]

theorem fill_toList (environment : Environment) (name : String) :
    fill environment name.toList =
      ((environment name).getD (String.ofList (written name.toList))).toList := by
  rw [fill, String.ofList_toList]
  cases environment name with
  | none => exact String.toList_ofList.symm
  | some value => rfl

theorem toList_expand (environment : Environment) (text : String) :
    (expand environment text).toList = expandChars environment text.toList :=
  String.toList_ofList

theorem eq_flatMap_written {text : List Char} {found : Scan (List Char)}
    (decomposed : pattern.Decomposes text found) :
    text = (found.hits.flatMap fun hit => hit.1 ++ written hit.2) ++ found.tail :=
  decomposed.eq_flatMap written fun taken => taken.2

theorem expandChars_eq_flatMap {text : List Char} {found : Scan (List Char)}
    (decomposed : pattern.Decomposes text found) :
    expandChars environment text =
      (found.hits.flatMap fun hit => hit.1 ++ fill environment hit.2) ++ found.tail := by
  rw [look_answers.decomposes_iff.1 decomposed]
  rfl

theorem expandChars_eq_self {text : List Char} {found : Scan (List Char)}
    (decomposed : pattern.Decomposes text found)
    (unset : ∀ hit ∈ found.hits, environment (String.ofList hit.2) = none) :
    expandChars environment text = text := by
  have unfilled : (found.hits.flatMap fun hit => hit.1 ++ fill environment hit.2) =
      found.hits.flatMap fun hit => hit.1 ++ written hit.2 :=
    List.flatMap_congr fun hit member => by rw [fill_of_unset (unset hit member)]
  rw [expandChars_eq_flatMap decomposed, unfilled, ← eq_flatMap_written decomposed]

theorem expandChars_of_no_dollar {text : List Char} (noDollar : '$' ∉ text) :
    expandChars environment text = text := by
  have noStart : ∀ passed, ¬ pattern.Starts (text.drop passed) := by
    rintro passed ⟨name, rest, -, whole⟩
    have member : '$' ∈ text.drop passed := by simp [whole, written]
    exact noDollar (List.mem_of_mem_drop member)
  exact expandChars_eq_self (.done noStart) fun hit member => absurd member List.not_mem_nil

theorem expand_of_no_dollar {text : String} (noDollar : '$' ∉ text.toList) (environment : Environment) :
    expand environment text = text := by
  rw [expand, expandChars_of_no_dollar noDollar, String.ofList_toList]

/-- Every document has exactly one decomposition into gaps and placeholders in which each placeholder is the first
one after the placeholder before it, and its name reaches to the first closing brace. Expanding puts the value of
its variable in place of each placeholder, as the value stands, and leaves it where the variable is not set. Nothing
else changes, and so nothing at all when no variable is set. -/
theorem expand_eq_one_pass (environment : Environment) (document : String) :
    ∃ found : Scan (List Char),
      pattern.Decomposes document.toList found ∧
      (∀ other, pattern.Decomposes document.toList other → other = found) ∧
      document.toList = (found.hits.flatMap fun hit => hit.1 ++ written hit.2) ++ found.tail ∧
      (expand environment document).toList =
        (found.hits.flatMap fun hit =>
          hit.1 ++ match environment (String.ofList hit.2) with
            | some value => value.toList
            | none => written hit.2) ++ found.tail ∧
      ((∀ hit ∈ found.hits, environment (String.ofList hit.2) = none) →
        expand environment document = document) ∧
      ∀ hit ∈ found.hits, ∀ value, environment (String.ofList hit.2) = some value →
        value.toList <:+: (expand environment document).toList := by
  have decomposed := look_answers.decomposes_scan document.toList
  generalize Text.scan look document.toList = found at decomposed
  have expanded : (expand environment document).toList =
      (found.hits.flatMap fun hit => hit.1 ++ fill environment hit.2) ++ found.tail :=
    (toList_expand environment document).trans (expandChars_eq_flatMap decomposed)
  refine ⟨found, decomposed, ?_, eq_flatMap_written decomposed, expanded, ?_, ?_⟩
  · exact fun other otherwise => otherwise.unique decomposed
  · intro unset
    rw [expand, expandChars_eq_self decomposed unset, String.ofList_toList]
  · intro hit member value set
    have inPiece : value.toList <:+: hit.1 ++ fill environment hit.2 := by
      rw [fill_of_set set]
      exact (List.suffix_append _ _).isInfix
    have inPieces : hit.1 ++ fill environment hit.2 <:+:
        found.hits.flatMap fun hit => hit.1 ++ fill environment hit.2 :=
      List.infix_of_mem_flatten (List.mem_map_of_mem member)
    rw [expanded]
    exact (inPiece.trans inPieces).trans (List.prefix_append _ _).isInfix

end Patchwork.Placeholder
