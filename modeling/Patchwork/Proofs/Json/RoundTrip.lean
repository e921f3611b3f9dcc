import Patchwork.Json.Printer
import Patchwork.Json.Reader
import Patchwork.Proofs.Text.Numeral

/-!
# Values that are read back

A value that is written down is read back as itself, as long as its numbers are written as natural numbers and
nothing in it is unreadable. The reader meets the text of a value with more text after it, so each lemma says
what is read of a text that goes on, and what is left then.
-/

set_option autoImplicit false

namespace Patchwork.Json

/-! ## Strings -/

/-- The control characters that are escaped with a letter. -/
def lettered : List Char := ['\x08', '\x0c', '\n', '\r', '\t']

/-- What the reader makes of an escaped character. Control characters without a letter go by their number. -/
def pieceOf (c : Char) : Piece :=
  if c.toNat < 0x20 ∧ c ∉ lettered then .unit c.toNat else .char c

private theorem piecesFrom_cons_of_plain {c : Char} (noQuote : c ≠ '"') (noBackslash : c ≠ '\\')
    (printable : ¬ c.toNat < 0x20) (done : List Piece) (rest : List Char) :
    piecesFrom done (c :: rest) = piecesFrom (.char c :: done) rest := by
  rw [piecesFrom.eq_def]
  split
  case h_5 same =>
    obtain ⟨rfl, rfl⟩ := List.cons.inj same
    rw [if_neg (by simp [printable, noBackslash])]
  all_goals simp_all

private theorem piecesFrom_escape (c : Char) (done : List Piece) (rest : List Char) :
    piecesFrom done (escape c ++ rest) = piecesFrom (pieceOf c :: done) rest := by
  unfold escape
  split
  case h_8 noQuote noBackslash noBackspace noFormFeed noLineFeed noReturn noTab =>
    split
    · next control =>
      have noLetter : c ∉ lettered := by
        simpa [lettered] using ⟨noBackspace, noFormFeed, noLineFeed, noReturn, noTab⟩
      have zero : Text.hexValue? '0' = some 0 := by decide
      have high := Text.hexValue?_hexDigit (by omega : c.toNat / 16 < 16)
      have low := Text.hexValue?_hexDigit (by omega : c.toNat % 16 < 16)
      rw [pieceOf, if_pos ⟨control, noLetter⟩]
      simp [piecesFrom, unit?, zero, high, low, Text.fromDigits_byte]
    · next printable =>
      rw [pieceOf, if_neg fun escaped => printable escaped.1]
      exact piecesFrom_cons_of_plain noQuote noBackslash printable done rest
  all_goals rfl

private theorem piecesFrom_flatMap_escape (text rest : List Char) (done : List Piece) :
    piecesFrom done (text.flatMap escape ++ '"' :: rest) =
      some (done.reverse ++ text.map pieceOf, rest) := by
  induction text generalizing done with
  | nil => simp [piecesFrom]
  | cons c text inductionHypothesis =>
    rw [List.flatMap_cons, List.append_assoc, piecesFrom_escape, inductionHypothesis]
    simp

private theorem charsFrom_unit {value : Nat} (control : value < 0x20) (done : List Char) (rest : List Piece) :
    charsFrom done (.unit value :: rest) = charsFrom (Char.ofNat value :: done) rest := by
  have notHigh : isHigh value = false := by simp [isHigh]; omega
  have notLow : isLow value = false := by simp [isLow]; omega
  rcases rest with _ | ⟨_ | next, rest⟩ <;> simp [charsFrom, notHigh, notLow]

private theorem charsFrom_pieceOf (c : Char) (done : List Char) (rest : List Piece) :
    charsFrom done (pieceOf c :: rest) = charsFrom (c :: done) rest := by
  unfold pieceOf
  split
  · next escaped => rw [charsFrom_unit escaped.1, Char.ofNat_toNat]
  · rw [charsFrom]

private theorem charsFrom_map_pieceOf (text done : List Char) :
    charsFrom done (text.map pieceOf) = some (done.reverse ++ text) := by
  induction text generalizing done with
  | nil => simp [charsFrom]
  | cons c text inductionHypothesis =>
    rw [List.map_cons, charsFrom_pieceOf, inductionHypothesis]
    simp

theorem readString?_flatMap_escape (text : String) (rest : List Char) :
    readString? (text.toList.flatMap escape ++ '"' :: rest) = some (some text, rest) := by
  simp [readString?, piecesFrom_flatMap_escape, charsFrom_map_pieceOf]

/-! ## Numbers -/

/-- What stands after a value: nothing, a comma or a new line. -/
inductive Follows : List Char → Prop where
  | nothing : Follows []
  | comma {rest : List Char} : Follows (',' :: rest)
  | lineFeed {rest : List Char} : Follows ('\n' :: rest)

section Numbers

variable {rest : List Char} (follows : Follows rest)

include follows

private theorem digits?_append {digits : List Char} (nonempty : digits ≠ [])
    (allDigits : ∀ c ∈ digits, c.isDigit = true) : digits? (digits ++ rest) = some (digits, rest) := by
  have noneTaken : rest.takeWhile Char.isDigit = [] := by cases follows <;> rfl
  have noneDropped : rest.dropWhile Char.isDigit = rest := by cases follows <;> rfl
  unfold digits?
  rw [List.takeWhile_append_of_pos allDigits, List.dropWhile_append_of_pos allDigits, noneTaken, noneDropped,
    List.append_nil]
  cases digits with
  | nil => exact absurd rfl nonempty
  | cons => rfl

private theorem integer?_toDigits (value : Nat) :
    integer? (Nat.toDigits 10 value ++ rest) = some (Nat.toDigits 10 value, rest) := by
  have allDigits : ∀ c ∈ Nat.toDigits 10 value, c.isDigit = true :=
    fun c here => Nat.isDigit_of_mem_toDigits (by omega) (by omega) here
  have read := digits?_append follows Nat.toDigits_ne_nil allDigits
  obtain ⟨first, more, digits, -⟩ := Text.toDigits_eq_cons value
  rw [digits, List.cons_append] at read ⊢
  unfold integer?
  split
  · next zeroFirst =>
    obtain ⟨rfl, rfl⟩ := List.cons.inj zeroFirst
    rw [Text.eq_nil_of_toDigits_eq_zero_cons digits, List.nil_append]
  · exact read

private theorem readNumber?_toDigits (value : Nat) :
    readNumber? (Nat.toDigits 10 value ++ rest) = some (.natural value, rest) := by
  have whole := integer?_toDigits follows value
  have noFraction : fraction? rest = some ([], rest) := by cases follows <;> rfl
  have noExponent : exponent? rest = some ([], rest) := by cases follows <;> rfl
  have same := Text.decimal_toDigits value
  obtain ⟨first, more, digits, isDigit⟩ := Text.toDigits_eq_cons value
  have noSign : first ≠ '-' := by
    rintro rfl
    cases isDigit
  rw [digits, List.cons_append] at whole ⊢
  rw [digits] at same
  simp [readNumber?, noSign, whole, noFraction, noExponent, same]

end Numbers

/-! ## Blanks -/

theorem skipSpace_newLine (depth : Nat) (rest : List Char) :
    skipSpace (newLine depth ++ rest) = skipSpace rest := by
  refine List.dropWhile_append_of_pos fun c here => ?_
  rcases List.mem_cons.1 here with rfl | isSpace
  · rfl
  · rw [List.eq_of_mem_replicate isSpace]
    rfl

theorem skipSpace_cons {c : Char} (solid : isSpace c = false) (rest : List Char) :
    skipSpace (c :: rest) = c :: rest :=
  List.dropWhile_cons_of_neg (by simp [solid])

theorem expect?_append (word : String) (rest : List Char) : expect? word (word.toList ++ rest) = some rest := by
  have begins : word.toList.isPrefixOf (word.toList ++ rest) = true := by simp
  rw [expect?, if_pos begins, ← String.length_toList, List.drop_left]

/-! ## Values -/

/-- A value whose text says everything about it. -/
inductive Plain : Json → Prop where
  | null : Plain .null
  | bool {value : Bool} : Plain (.bool value)
  | natural {value : Nat} : Plain (.natural value)
  | string {text : String} : Plain (.string text)
  | array {items : List Json} (plain : ∀ item ∈ items, Plain item) : Plain (.array items)
  | object {members : List (String × Json)} (plain : ∀ member ∈ members, Plain member.2) :
      Plain (.object members)

/-- The text of a value begins neither with a blank nor as the end of an array. -/
theorem Plain.prettyAt_eq_cons {value : Json} (plain : Plain value) (depth : Nat) :
    ∃ first more, prettyAt depth value = first :: more ∧ isSpace first = false ∧ first ≠ ']' := by
  cases plain with
  | null => exact ⟨'n', _, rfl, by decide, by decide⟩
  | @bool value => cases value <;> exact ⟨_, _, rfl, by decide, by decide⟩
  | @natural value =>
    obtain ⟨first, more, digits, isDigit⟩ := Text.toDigits_eq_cons value
    refine ⟨first, more, by rw [prettyAt, digits], ?_, ?_⟩
    · cases blank : isSpace first with
      | false => rfl
      | true =>
        simp only [isSpace, Bool.or_eq_true, decide_eq_true_eq] at blank
        rcases blank with ((rfl | rfl) | rfl) | rfl <;> cases isDigit
    · rintro rfl
      cases isDigit
  | string => exact ⟨'"', _, rfl, by decide, by decide⟩
  | @array items _ => cases items <;> exact ⟨'[', _, rfl, by decide, by decide⟩
  | @object members _ =>
    rcases members with _ | ⟨⟨key, value⟩, more⟩ <;> exact ⟨'\x7b', _, rfl, by decide, by decide⟩

theorem Plain.skipSpace_prettyAt {value : Json} (plain : Plain value) (depth : Nat) (rest : List Char) :
    skipSpace (prettyAt depth value ++ rest) = prettyAt depth value ++ rest := by
  obtain ⟨first, more, text, solid, -⟩ := plain.prettyAt_eq_cons depth
  rw [text]
  exact skipSpace_cons solid (more ++ rest)

/-- A value is read back at every depth and whatever follows, when the allowance covers its text. -/
def ReadsBack (value : Json) : Prop :=
  ∀ depth steps rest, Follows rest → (prettyAt depth value).length ≤ steps →
    readValue? steps (prettyAt depth value ++ rest) = some (value, rest)

/-! ## Items and members -/

private theorem readItems?_pretty {depth : Nat} (outer : Nat) (rest : List Char) {more : List Json} {item : Json}
    {steps : Nat} (plain : ∀ value ∈ item :: more, Plain value)
    (readBack : ∀ value ∈ item :: more, ReadsBack value)
    (covered : (prettyAt depth item ++ prettyItems depth more).length < steps) :
    readItems? steps
      (prettyAt depth item ++ (prettyItems depth more ++ (newLine outer ++ ']' :: rest))) =
        some (item :: more, rest) := by
  induction more generalizing item steps with
  | nil =>
    obtain ⟨steps, rfl⟩ : ∃ fewer, steps = fewer + 1 := Nat.exists_eq_add_one_of_ne_zero (by omega)
    have covers : (prettyAt depth item).length ≤ steps := by
      rw [List.length_append] at covered
      omega
    have first := readBack item List.mem_cons_self depth steps (newLine outer ++ ']' :: rest) .lineFeed covers
    have ended := skipSpace_cons (by decide : isSpace ']' = false) rest
    simp [readItems?, prettyItems, first, skipSpace_newLine, ended]
  | cons next more inductionHypothesis =>
    obtain ⟨steps, rfl⟩ : ∃ fewer, steps = fewer + 1 := Nat.exists_eq_add_one_of_ne_zero (by omega)
    simp only [prettyItems, List.length_append, List.length_cons] at covered
    have covers : (prettyAt depth item).length ≤ steps := by omega
    have coversOthers : (prettyAt depth next ++ prettyItems depth more).length < steps := by
      rw [List.length_append]
      omega
    have first := readBack item List.mem_cons_self depth steps
      (',' :: (newLine depth ++ (prettyAt depth next ++
        (prettyItems depth more ++ (newLine outer ++ ']' :: rest))))) .comma covers
    have others := inductionHypothesis (fun value here => plain value (List.mem_cons_of_mem _ here))
      (fun value here => readBack value (List.mem_cons_of_mem _ here)) coversOthers
    have nextPlain := plain next (List.mem_cons_of_mem _ List.mem_cons_self)
    have parted := skipSpace_cons (by decide : isSpace ',' = false)
    simp [readItems?, prettyItems, first, parted, skipSpace_newLine, nextPlain.skipSpace_prettyAt, others]

private theorem expect?_quote (key : String) (rest : List Char) :
    expect? "\"" (quote key ++ rest) = some (key.toList.flatMap escape ++ '"' :: rest) := by
  rw [quote, List.append_assoc]
  exact expect?_append "\"" _

private theorem expect?_colon (rest : List Char) : expect? ":" (skipSpace (':' :: rest)) = some rest := by
  rw [skipSpace_cons (by decide)]
  exact expect?_append ":" rest

private theorem readMembers?_pretty {depth : Nat} (outer : Nat) (rest : List Char) {more : List (String × Json)}
    {key : String} {value : Json} {steps : Nat} (plain : ∀ member ∈ (key, value) :: more, Plain member.2)
    (readBack : ∀ member ∈ (key, value) :: more, ReadsBack member.2)
    (covered : (prettyAt depth value ++ prettyMembers depth more).length < steps) :
    readMembers? steps
      (quote key ++ (':' :: ' ' :: (prettyAt depth value ++
        (prettyMembers depth more ++ (newLine outer ++ '\x7d' :: rest))))) =
        some (((key, value) :: more).map fun member => (some member.1, member.2), rest) := by
  have valuePlain : Plain value := plain (key, value) List.mem_cons_self
  have valueBack : ReadsBack value := readBack (key, value) List.mem_cons_self
  have blank : ∀ text, skipSpace (' ' :: (prettyAt depth value ++ text)) = prettyAt depth value ++ text :=
    valuePlain.skipSpace_prettyAt depth
  induction more generalizing key value steps with
  | nil =>
    obtain ⟨steps, rfl⟩ : ∃ fewer, steps = fewer + 1 := Nat.exists_eq_add_one_of_ne_zero (by omega)
    have covers : (prettyAt depth value).length ≤ steps := by
      rw [List.length_append] at covered
      omega
    have read := valueBack depth steps (newLine outer ++ '\x7d' :: rest) .lineFeed covers
    have ended := skipSpace_cons (by decide : isSpace '\x7d' = false) rest
    simp [readMembers?, prettyMembers, expect?_quote, readString?_flatMap_escape, expect?_colon, blank, read,
      skipSpace_newLine, ended]
  | cons next more inductionHypothesis =>
    obtain ⟨steps, rfl⟩ : ∃ fewer, steps = fewer + 1 := Nat.exists_eq_add_one_of_ne_zero (by omega)
    simp only [prettyMembers, List.length_append, List.length_cons] at covered
    have covers : (prettyAt depth value).length ≤ steps := by omega
    have coversOthers : (prettyAt depth next.2 ++ prettyMembers depth more).length < steps := by
      rw [List.length_append]
      omega
    have read := valueBack depth steps
      (',' :: (newLine depth ++ (quote next.1 ++ (':' :: ' ' :: (prettyAt depth next.2 ++
        (prettyMembers depth more ++ (newLine outer ++ '\x7d' :: rest))))))) .comma covers
    have nextPlain := plain next (List.mem_cons_of_mem _ List.mem_cons_self)
    have others := inductionHypothesis (fun member here => plain member (List.mem_cons_of_mem _ here))
      (fun member here => readBack member (List.mem_cons_of_mem _ here)) coversOthers nextPlain
      (readBack next (List.mem_cons_of_mem _ List.mem_cons_self)) (nextPlain.skipSpace_prettyAt depth)
    have parted := skipSpace_cons (by decide : isSpace ',' = false)
    have quoteSolid : ∀ text, skipSpace (quote next.1 ++ text) = quote next.1 ++ text :=
      fun text => skipSpace_cons (by decide) _
    simp [readMembers?, prettyMembers, expect?_quote, readString?_flatMap_escape, expect?_colon, blank, read,
      parted, skipSpace_newLine, quoteSolid, others]

private theorem ofMembers_map_some (members : List (String × Json)) :
    ofMembers (members.map fun member => (some member.1, member.2)) = .object members := by
  have readable : (members.map fun member => (some member.1, member.2)).mapM
      (fun member : Option String × Json => member.1.map fun key => (key, member.2)) = some members := by
    induction members with
    | nil => rfl
    | cons member members inductionHypothesis => simp [inductionHypothesis]
  rw [ofMembers, readable]

/-! ## Whole values -/

private theorem Plain.exists_eq_succ {value : Json} (plain : Plain value) {depth steps : Nat}
    (covers : (prettyAt depth value).length ≤ steps) : ∃ fewer, steps = fewer + 1 := by
  obtain ⟨first, more, text, -, -⟩ := plain.prettyAt_eq_cons depth
  rw [text, List.length_cons] at covers
  exact Nat.exists_eq_add_one_of_ne_zero (by omega)

private theorem readValue?_of_digit {first : Char} (isDigit : first.isDigit = true) (steps : Nat) (more : List Char) :
    readValue? (steps + 1) (first :: more) = readNumber? (first :: more) := by
  unfold readValue?
  split
  case h_8 => rfl
  all_goals next same => cases same <;> cases isDigit

theorem Plain.readsBack {value : Json} (plain : Plain value) : ReadsBack value := by
  induction plain with
  | null =>
    intro depth steps rest _ covers
    obtain ⟨steps, rfl⟩ := Plain.null.exists_eq_succ covers
    rfl
  | @bool value =>
    intro depth steps rest _ covers
    obtain ⟨steps, rfl⟩ := Plain.bool.exists_eq_succ covers
    cases value <;> rfl
  | @natural value =>
    intro depth steps rest follows covers
    obtain ⟨steps, rfl⟩ := Plain.natural.exists_eq_succ covers
    have read := readNumber?_toDigits follows value
    obtain ⟨first, more, digits, isDigit⟩ := Text.toDigits_eq_cons value
    rw [prettyAt]
    rw [digits, List.cons_append] at read ⊢
    rw [readValue?_of_digit isDigit, read]
  | @string text =>
    intro depth steps rest _ covers
    obtain ⟨steps, rfl⟩ := Plain.string.exists_eq_succ covers
    have read := readString?_flatMap_escape text rest
    rw [prettyAt, quote]
    simp [readValue?, read]
  | @array items plain inductionHypothesis =>
    intro depth steps rest _ covers
    obtain ⟨steps, rfl⟩ := (Plain.array plain).exists_eq_succ covers
    cases items with
    | nil => rfl
    | cons item more =>
      have covered : (prettyAt (depth + 1) item ++ prettyItems (depth + 1) more).length < steps := by
        simp only [prettyAt, newLine, List.length_append, List.length_cons] at covers ⊢
        omega
      have read := readItems?_pretty depth rest plain inductionHypothesis covered
      have itemPlain := plain item List.mem_cons_self
      have solid := itemPlain.skipSpace_prettyAt (depth + 1)
        (prettyItems (depth + 1) more ++ (newLine depth ++ ']' :: rest))
      obtain ⟨first, others, text, -, notEnd⟩ := itemPlain.prettyAt_eq_cons (depth + 1)
      simp only [prettyAt, List.cons_append, List.append_assoc, List.nil_append]
      rw [text, List.cons_append] at read solid ⊢
      simp [readValue?, skipSpace_newLine, solid, notEnd, read]
  | @object members plain inductionHypothesis =>
    intro depth steps rest _ covers
    obtain ⟨steps, rfl⟩ := (Plain.object plain).exists_eq_succ covers
    rcases members with _ | ⟨⟨key, value⟩, more⟩
    · rfl
    · have covered : (prettyAt (depth + 1) value ++ prettyMembers (depth + 1) more).length < steps := by
        simp only [prettyAt, newLine, List.length_append, List.length_cons] at covers ⊢
        omega
      have read := readMembers?_pretty depth rest plain inductionHypothesis covered
      have solid := skipSpace_cons (by decide : isSpace '"' = false)
      simp only [prettyAt, quote, List.cons_append, List.append_assoc, List.nil_append] at read ⊢
      rw [readValue?, skipSpace_newLine, solid]
      simpa [read] using ofMembers_map_some ((key, value) :: more)

/-- Blanks may follow a value. -/
theorem Plain.read?_of_follows {value : Json} (plain : Plain value) {blanks : List Char}
    (follows : Follows blanks) (blank : skipSpace blanks = []) :
    read? (String.ofList (prettyAt 0 value ++ blanks)) = some value := by
  have covers : (prettyAt 0 value).length ≤ 2 * (prettyAt 0 value ++ blanks).length + 2 := by
    rw [List.length_append]
    omega
  have read := plain.readsBack 0 _ blanks follows covers
  rw [read?, String.toList_ofList, String.length_ofList, plain.skipSpace_prettyAt, read]
  simp [blank]

theorem read?_pretty {value : Json} (plain : Plain value) : read? (pretty value) = some value := by
  have read := plain.read?_of_follows .nothing rfl
  rwa [List.append_nil] at read

theorem read?_pretty_line {value : Json} (plain : Plain value) :
    read? (pretty value ++ "\n") = some value := by
  have read : read? (String.ofList (prettyAt 0 value ++ ['\n'])) = some value :=
    plain.read?_of_follows .lineFeed rfl
  rwa [String.ofList_append] at read

end Patchwork.Json
