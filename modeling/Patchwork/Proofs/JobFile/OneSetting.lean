import Patchwork.JobFile.Decoding
import Patchwork.Proofs.Placeholder.Pass

/-!
# Job files with one setting

A job file of two lines: the header of a section, and one setting with a text between double quotes. When the
text needs no escapes it is read as it stands, however long it is, and without a dollar sign in it there is
nothing to expand.
-/

set_option autoImplicit false

namespace Patchwork

/-! ## Two lines -/

namespace Toml

/-- A text that can stand between double quotes as it is. -/
def Unescaped (value : List Char) : Prop :=
  ∀ c ∈ value, isPlain c = true ∧ c ≠ '"' ∧ c ≠ '\\'

private theorem basicFrom_append {value : List Char} (unescaped : Unescaped value) (done rest : List Char) :
    basicFrom done (value ++ '"' :: rest) = some (done.reverse ++ value, rest) := by
  induction value generalizing done with
  | nil => simp [basicFrom]
  | cons c value inductionHypothesis =>
    obtain ⟨plain, noQuote, noBackslash⟩ := unescaped c List.mem_cons_self
    have later := inductionHypothesis (fun other here => unescaped other (.tail _ here)) (c :: done)
    rw [List.cons_append, basicFrom, if_neg noQuote, if_neg noBackslash, if_pos plain, later]
    simp

theorem readText?_quoted {value : List Char} (unescaped : Unescaped value) (rest : List Char) :
    readText? ('"' :: (value ++ '"' :: '\n' :: rest)) = some (value, '\n' :: rest) := by
  have read := basicFrom_append unescaped [] ('\n' :: rest)
  cases value with
  | nil => exact read
  | cons c value =>
    have noQuote := (unescaped c List.mem_cons_self).2.1
    unfold readText?
    split
    · next same => exact absurd (List.cons.inj (List.cons.inj same).2).1 noQuote
    · next same => cases same
    · next same => rwa [← (List.cons.inj same).2]
    · next same => cases same
    · next _ _ other _ => exact absurd rfl (other _)

/-- A word that can stand for itself as a key. -/
structure BareKey (word : List Char) : Prop where
  nonempty : word ≠ []
  bare : ∀ c ∈ word, isBare c = true

theorem BareKey.exists_cons {word : List Char} (key : BareKey word) :
    ∃ c more, word = c :: more ∧ isBare c = true := by
  obtain ⟨c, more, rfl⟩ := List.exists_cons_of_ne_nil key.nonempty
  exact ⟨c, more, rfl, key.bare c List.mem_cons_self⟩

theorem isSpace_of_isBare {c : Char} (bare : isBare c = true) : isSpace c = false := by
  cases blank : isSpace c with
  | false => rfl
  | true =>
    rw [isSpace, Bool.or_eq_true, decide_eq_true_eq, decide_eq_true_eq] at blank
    rcases blank with rfl | rfl <;> cases bare

private theorem readKeyPart?_append {word after : List Char} (key : BareKey word)
    (ends : after.takeWhile isBare = []) :
    readKeyPart? (word ++ after) = some (String.ofList word, after) := by
  have taken : (word ++ after).takeWhile isBare = word := by
    rw [List.takeWhile_append_of_pos key.bare, ends, List.append_nil]
  have left : (word ++ after).dropWhile isBare = after := by
    have whole := List.takeWhile_append_dropWhile (p := isBare) (l := word ++ after)
    rwa [taken, List.append_cancel_left_eq] at whole
  obtain ⟨c, more, rfl, bare⟩ := key.exists_cons
  unfold readKeyPart?
  split
  · next same =>
    obtain ⟨rfl, -⟩ := List.cons.inj same
    cases bare
  · next same =>
    obtain ⟨rfl, -⟩ := List.cons.inj same
    cases bare
  · rw [taken, left]

theorem readKey?_append {word after : List Char} (key : BareKey word)
    (ends : after.takeWhile isBare = []) (noPoint : (skipSpace after).head? ≠ some '.') :
    readKey? (word ++ after) = some (([], String.ofList word), skipSpace after) := by
  rw [readKey?, keyLimit, readParts?, readKeyPart?_append key ends]
  simp only [Option.bind_eq_bind, Option.bind_some]
  split
  · next point => simp [point] at noPoint
  · rfl

private theorem BareKey.skipSpace_append {word : List Char} (key : BareKey word) (after : List Char) :
    skipSpace (word ++ after) = word ++ after := by
  obtain ⟨c, more, rfl, bare⟩ := key.exists_cons
  exact List.dropWhile_cons_of_neg (by simp [isSpace_of_isBare bare])

private theorem readHeader?_append {word : List Char} (key : BareKey word) (rest : List Char) :
    readHeader? (word ++ ']' :: '\n' :: rest) = some (.header false [] (String.ofList word), rest) := by
  have read : readKey? (word ++ ']' :: '\n' :: rest) =
      some (([], String.ofList word), ']' :: '\n' :: rest) :=
    readKey?_append key rfl fun point => by cases point
  unfold readHeader?
  split
  · next same =>
    obtain ⟨c, more, rfl, bare⟩ := key.exists_cons
    obtain ⟨rfl, -⟩ := List.cons.inj same
    cases bare
  · rw [key.skipSpace_append, read]
    rfl

/-- A setting as a line: its name, and its value between double quotes. -/
def settingLine (name value : List Char) : List Char :=
  name ++ ' ' :: '=' :: ' ' :: '"' :: (value ++ ['"', '\n'])

private theorem readAssignment?_settingLine {name value : List Char} (allowance : Nat) (key : BareKey name)
    (unescaped : Unescaped value) :
    readAssignment? allowance (settingLine name value) =
      some (.assignment ⟨[], String.ofList name, .string (String.ofList value)⟩, []) := by
  have readKey : readKey? (settingLine name value) =
      some (([], String.ofList name), '=' :: ' ' :: '"' :: (value ++ ['"', '\n'])) :=
    readKey?_append key rfl fun point => by cases point
  have readText := readText?_quoted unescaped []
  have readValue : readValue? allowance nestingLimit ('"' :: (value ++ ['"', '\n'])) =
      some (.string (String.ofList value), ['\n']) := by
    rw [readValue?, readText]
    rfl
  have equals : expect? '=' ('=' :: ' ' :: '"' :: (value ++ ['"', '\n'])) =
      some (' ' :: '"' :: (value ++ ['"', '\n'])) := rfl
  have passed : skipSpace (' ' :: '"' :: (value ++ ['"', '\n'])) = '"' :: (value ++ ['"', '\n']) := rfl
  rw [readAssignment?, readKey]
  simp only [Option.bind_eq_bind, Option.bind_some, equals, passed, readValue]
  rfl

/-- A document of one header and one setting below it. -/
def oneSetting (header name value : List Char) : List Char :=
  '[' :: (header ++ ']' :: '\n' :: settingLine name value)

private theorem BareKey.skipFiller_append {word : List Char} (key : BareKey word) (after : List Char) :
    skipFiller (word ++ after) = word ++ after := by
  obtain ⟨c, more, rfl, bare⟩ := key.exists_cons
  have noComment : c ≠ '#' := by
    rintro rfl
    cases bare
  rw [List.cons_append, skipFiller, skipFillerFrom.eq_def]
  split
  · next same => cases same
  · next same =>
    obtain ⟨rfl, -⟩ := List.cons.inj same
    cases bare
  · next same =>
    obtain ⟨rfl, -⟩ := List.cons.inj same
    cases bare
  · next same =>
    obtain ⟨rfl, rfl⟩ := List.cons.inj same
    simp [noComment, isSpace_of_isBare bare]

private theorem readStatements?_settingLine {name value : List Char} (allowance steps : Nat) (key : BareKey name)
    (unescaped : Unescaped value) :
    readStatements? allowance (steps + 2) (settingLine name value) =
      some [.assignment ⟨[], String.ofList name, .string (String.ofList value)⟩] := by
  have start : skipFiller (settingLine name value) = settingLine name value := key.skipFiller_append _
  have read := readAssignment?_settingLine allowance key unescaped
  obtain ⟨c, more, rfl, bare⟩ := key.exists_cons
  rw [readStatements?, start]
  split
  · next same => cases same
  · next same =>
    obtain ⟨rfl, -⟩ := List.cons.inj same
    cases bare
  · rw [read]
    rfl

theorem read?_oneSetting {header name value : List Char} (headerKey : BareKey header) (key : BareKey name)
    (unescaped : Unescaped value) :
    read? (String.ofList (oneSetting header name value)) =
      some [(String.ofList header,
        .table .header [(String.ofList name, .string (String.ofList value))])] := by
  have readHeader := readHeader?_append headerKey (settingLine name value)
  have noMark : skipMark (oneSetting header name value) = oneSetting header name value := rfl
  -- Three steps are enough: two statements and the end of the text.
  obtain ⟨steps, enough⟩ : ∃ steps, (oneSetting header name value).length + 1 = steps + 3 := by
    refine ⟨(header ++ '\n' :: settingLine name value).length, ?_⟩
    simp only [oneSetting, List.length_cons, List.length_append]
    omega
  have readSetting := readStatements?_settingLine (steps + 3) steps key unescaped
  have start : skipFiller (oneSetting header name value) = oneSetting header name value := rfl
  rw [read?, String.toList_ofList, noMark, enough, readStatements?, start, oneSetting]
  simp only [Option.bind_eq_bind, readHeader, Option.bind_some, readSetting]
  rfl

end Toml

namespace JobFile

/-- The job file of a section with one setting. -/
def settingText (header name value : List Char) : String :=
  String.ofList (Toml.oneSetting header name value)

/-- A text that becomes such a file when its placeholders are expanded. -/
theorem ofText_of_expand {environment : Environment} {text : String} {name value : List Char}
    (key : Toml.BareKey name) (unescaped : Toml.Unescaped value)
    (expanded : Placeholder.expand environment text = settingText "workflow".toList name value) :
    ofText environment text =
      match ofMembers? [("workflow", .table .header [(String.ofList name, .string (String.ofList value))])] with
      | some jobs => .ok jobs
      | none => .error unreadable := by
  have header : Toml.BareKey "workflow".toList := ⟨by decide, List.all_eq_true.1 rfl⟩
  rw [ofText, expanded, settingText, Toml.read?_oneSetting header key unescaped]
  rfl

theorem ofText_marker {value : List Char} (unescaped : Toml.Unescaped value) (noDollar : '$' ∉ value)
    (environment : Environment) :
    ofText environment (settingText "workflow".toList "marker".toList value) =
      .ok ⟨none, some ⟨none, some (String.ofList value), none⟩, none, none⟩ := by
  have name : Toml.BareKey "marker".toList := ⟨by decide, List.all_eq_true.1 rfl⟩
  have unexpanded : '$' ∉ (settingText "workflow".toList "marker".toList value).toList := by
    rw [settingText, String.toList_ofList]
    simp [Toml.oneSetting, Toml.settingLine, noDollar]
  rw [ofText_of_expand name unescaped (Placeholder.expand_of_no_dollar unexpanded environment)]
  rfl

end JobFile

end Patchwork
