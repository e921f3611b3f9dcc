import Patchwork.Proofs.JobFile.OneSetting
import Patchwork.Proofs.Placeholder.Pieces

/-!
# Settings from the environment

The value of a variable comes into a job file before it is read, so it passes through the reader with everything
around it. Between double quotes a value that holds no double quote, no backslash and no control character but
the tab is read as it stands: a placeholder in it is not expanded, and nothing that means something elsewhere in
a document does so here.
-/

set_option autoImplicit false

namespace Patchwork

/-- A control character of ASCII. -/
def IsControl (c : Char) : Prop :=
  c.toNat < 0x20 ∨ c.toNat = 0x7F

/-- A value that means nothing but itself between double quotes. -/
def Harmless (value : String) : Prop :=
  ∀ c ∈ value.toList, c ≠ '"' ∧ c ≠ '\\' ∧ (IsControl c → c = '\t')

instance : DecidablePred IsControl :=
  fun c => inferInstanceAs (Decidable (c.toNat < 0x20 ∨ c.toNat = 0x7F))

instance : DecidablePred Harmless :=
  fun value => List.decidableBAll (fun c => c ≠ '"' ∧ c ≠ '\\' ∧ (IsControl c → c = '\t')) value.toList

theorem Harmless.unescaped {value : String} (harmless : Harmless value) : Toml.Unescaped value.toList := by
  intro c member
  obtain ⟨noQuote, noBackslash, onlyTab⟩ := harmless c member
  refine ⟨?_, noQuote, noBackslash⟩
  by_cases control : IsControl c
  · rw [onlyTab control]
    rfl
  · rw [IsControl, not_or, Nat.not_lt] at control
    simp [Toml.isPlain, control]

/-- A word of ASCII letters, digits and underscores. -/
structure IsVariableName (name : String) : Prop where
  nonempty : name ≠ ""
  characters : ∀ c ∈ name.toList, c.isAlphanum = true ∨ c = '_'

instance : DecidablePred IsVariableName := fun name =>
  haveI := List.decidableBAll (fun c => c.isAlphanum = true ∨ c = '_') name.toList
  decidable_of_iff (name ≠ "" ∧ ∀ c ∈ name.toList, c.isAlphanum = true ∨ c = '_')
    ⟨fun both => ⟨both.1, both.2⟩, fun isVariableName => ⟨isVariableName.nonempty, isVariableName.characters⟩⟩

theorem IsVariableName.isName {name : String} (isVariableName : IsVariableName name) :
    Placeholder.IsName name.toList where
  nonempty := by simpa using isVariableName.nonempty
  noBrace := by
    intro member
    rcases isVariableName.characters _ member with alphanumeric | same
    · cases alphanumeric
    · cases same

namespace JobFile

/-- A job file whose one setting is a placeholder. -/
def placeholderText (setting name : String) : String :=
  "[workflow]\n" ++ setting ++ " = \"$\x7b" ++ name ++ "\x7d\"\n"

variable {environment : Environment} {setting name value : String}

private theorem toList_placeholderText (setting name : String) :
    (placeholderText setting name).toList =
      ("[workflow]\n".toList ++ setting.toList ++ " = \"".toList) ++
        (Placeholder.written name.toList ++ "\"\n".toList) := by
  simp [placeholderText, Placeholder.written]

private theorem settingText_eq (setting value : String) :
    settingText "workflow".toList setting.toList value.toList =
      String.ofList (("[workflow]\n".toList ++ setting.toList ++ " = \"".toList) ++
        (value.toList ++ "\"\n".toList)) := by
  simp [settingText, Toml.oneSetting, Toml.settingLine]

private theorem expand_placeholderText (noDollar : '$' ∉ setting.toList) (isName : Placeholder.IsName name.toList)
    (set : environment name = some value) :
    Placeholder.expand environment (placeholderText setting name) =
      settingText "workflow".toList setting.toList value.toList := by
  have noDollarBefore : '$' ∉ "[workflow]\n".toList ++ setting.toList ++ " = \"".toList := by
    simp [noDollar]
  have noDollarAfter : '$' ∉ "\"\n".toList := by decide
  have filled : Placeholder.fill environment name.toList = value.toList := by
    rw [Placeholder.fill_toList, set, Option.getD_some]
  rw [Placeholder.expand, toList_placeholderText,
    Placeholder.expandChars_of_closed isName (Placeholder.closed_of_no_dollar noDollarBefore), filled,
    Placeholder.expandChars_of_no_dollar noDollarBefore, Placeholder.expandChars_of_no_dollar noDollarAfter,
    settingText_eq]

/-- A placeholder for a variable between double quotes gives the setting the value of the variable, as it stands,
and no other setting is there. -/
theorem harmless_value_unchanged (isVariableName : IsVariableName name) (harmless : Harmless value)
    (set : environment name = some value) :
    ofText environment (placeholderText "path" name) =
        .ok ⟨none, some ⟨some value, none, none⟩, none, none⟩ ∧
      ofText environment (placeholderText "marker" name) =
        .ok ⟨none, some ⟨none, some value, none⟩, none, none⟩ ∧
      ofText environment (placeholderText "step" name) =
        .ok ⟨none, some ⟨none, none, some value⟩, none, none⟩ := by
  have read (setting : String) (key : Toml.BareKey setting.toList) (noDollar : '$' ∉ setting.toList) :=
    ofText_of_expand key harmless.unescaped (expand_placeholderText noDollar isVariableName.isName set)
  have path := read "path" ⟨by decide, List.all_eq_true.1 rfl⟩ (by decide)
  have marker := read "marker" ⟨by decide, List.all_eq_true.1 rfl⟩ (by decide)
  have step := read "step" ⟨by decide, List.all_eq_true.1 rfl⟩ (by decide)
  simp only [String.ofList_toList] at path marker step
  exact ⟨path, marker, step⟩

/-- The value is empty, or it holds a placeholder for its own variable, a comment, an assignment, a header, a tab and
characters beyond ASCII. -/
theorem harmless_value_unchanged_empty_and_full :
    let full := "$\x7bCI_1\x7d # x = 'y'\t[workflow] 确 😀"
    let environment := Environment.ofEntries [("CI_0", ""), ("CI_1", full)]
    IsVariableName "CI_0" ∧ IsVariableName "CI_1" ∧ Harmless "" ∧ Harmless full ∧
      environment "CI_0" = some "" ∧ environment "CI_1" = some full ∧
      ofText environment "[workflow]\npath = \"$\x7bCI_0\x7d\"\n" =
        .ok ⟨none, some ⟨some "", none, none⟩, none, none⟩ ∧
      ofText environment "[workflow]\nmarker = \"$\x7bCI_1\x7d\"\n" =
        .ok ⟨none, some ⟨none, some full, none⟩, none, none⟩ := by
  intro full environment
  have isVariableName : IsVariableName "CI_0" ∧ IsVariableName "CI_1" := by decide
  have harmless : Harmless "" ∧ Harmless full := ⟨by decide, by decide⟩
  have set : environment "CI_0" = some "" ∧ environment "CI_1" = some full := ⟨by decide, by decide⟩
  exact ⟨isVariableName.1, isVariableName.2, harmless.1, harmless.2, set.1, set.2,
    (harmless_value_unchanged isVariableName.1 harmless.1 set.1).1,
    (harmless_value_unchanged isVariableName.2 harmless.2 set.2).2.1⟩

end JobFile

end Patchwork
