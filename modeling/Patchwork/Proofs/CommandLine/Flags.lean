import Patchwork.Proofs.CommandLine.Written

/-!
# Flags that may be missing

Two lists of arguments may differ only in the presence of some flags: the flags are written among the other
arguments, which are the same, or with their letters before other letters. If both lists are accepted, then all
settings but these flags are read from them alike.
-/

set_option autoImplicit false

namespace Patchwork.CommandLine

open Fault (exists_of_bind_eq_ok)

/-- An argument that sets a flag and does nothing else. -/
inductive Setting.AloneIn (flag : Setting) : String → Prop where
  | named : AloneIn flag ("--" ++ flag.name)
  | lettered {letter : Char} (lettered : flag.letter? = some letter) : AloneIn flag (String.ofList ['-', letter])

/-- Lists of arguments that differ only in the presence of some flags. -/
inductive DifferIn (flags : List Setting) : List String → List String → Prop where
  | nil : DifferIn flags [] []
  | same {argument left right} (later : DifferIn flags left right) :
      DifferIn flags (argument :: left) (argument :: right)
  | left {flag argument left right} (member : flag ∈ flags) (alone : flag.AloneIn argument)
      (later : DifferIn flags left right) : DifferIn flags (argument :: left) right
  | right {flag argument left right} (member : flag ∈ flags) (alone : flag.AloneIn argument)
      (later : DifferIn flags left right) : DifferIn flags left (argument :: right)
  | leftLetter {flag letter next letters left right} (member : flag ∈ flags)
      (lettered : flag.letter? = some letter) (notDash : next ≠ '-') (later : DifferIn flags left right) :
      DifferIn flags (String.ofList ('-' :: letter :: next :: letters) :: left)
        (String.ofList ('-' :: next :: letters) :: right)
  | rightLetter {flag letter next letters left right} (member : flag ∈ flags)
      (lettered : flag.letter? = some letter) (notDash : next ≠ '-') (later : DifferIn flags left right) :
      DifferIn flags (String.ofList ('-' :: next :: letters) :: left)
        (String.ofList ('-' :: letter :: next :: letters) :: right)

variable {settings flags : List Setting} {flag : Setting} {argument : String} {letter next : Char}
  {letters : List Char} {added : List (Setting × String)} {waiting : Option Setting} {rest : List String}
  {entries : Entries} {reading : Reading}

/-! ## What a flag adds -/

theorem Setting.eq_of_letter? {setting : Setting} (lettered : flag.letter? = some letter)
    (same : setting.letter? = some letter) : setting = flag := by
  revert lettered same
  cases flag <;> cases setting <;> simp [Setting.letter?] <;> grind

theorem Setting.letter_ne (lettered : flag.letter? = some letter) : letter ≠ 'h' ∧ letter ≠ '-' := by
  revert lettered
  cases flag <;> simp [Setting.letter?] <;> rintro rfl <;> decide

private theorem adds_takeNamed_flag (flagged : flag.isFlag = true) :
    Adds (takeNamed settings · flag.name.toList) [(flag, "")] none := by
  have spelledOut : spelled flag none = flag.name.toList := List.append_nil _
  simp only [← spelledOut, takeNamed_spelled]
  split
  · exact adds_take_flag flagged
  · intro entries after next accepted
    cases accepted

theorem adds_takeLetters_flag (flagged : flag.isFlag = true) (lettered : flag.letter? = some letter)
    (adds : Adds (takeLetters settings · letters) added waiting) :
    Adds (takeLetters settings · (letter :: letters)) ((flag, "") :: added) waiting := by
  unfold takeLetters
  split
  · next help => exact absurd help (Setting.letter_ne lettered).1
  split
  · intro entries after next accepted
    cases accepted
  · next setting found =>
    have same : setting.letter? = some letter := by simpa using List.find?_some found
    obtain rfl := Setting.eq_of_letter? lettered same
    split
    · exact adds.after_flag flagged
    · next valued => exact absurd flagged valued

theorem takeOption_letters (settings : List Setting) (entries : Entries) (notDash : letter ≠ '-') :
    takeOption settings entries (String.ofList ('-' :: letter :: letters)) =
      takeLetters settings entries (letter :: letters) := by
  rw [takeOption, String.toList_ofList]
  split
  · next same => exact absurd (List.cons.inj (List.cons.inj same).2).1 notDash
  · next same =>
    rw [(List.cons.inj same).2]
  · next other => exact absurd rfl (other _)

private theorem adds_takeOption_alone (flagged : flag.isFlag = true) (alone : flag.AloneIn argument) :
    Adds (takeOption settings · argument) [(flag, "")] none := by
  cases alone with
  | named =>
    have dashes : ("--" ++ flag.name).toList = '-' :: '-' :: flag.name.toList := by simp
    unfold takeOption
    rw [dashes]
    exact adds_takeNamed_flag flagged
  | lettered lettered =>
    simp only [takeOption_letters settings _ (Setting.letter_ne lettered).2]
    exact adds_takeLetters_flag flagged lettered adds_nothing

private theorem exists_adds_takeOption_letters (settings : List Setting) (letters : List Char)
    (flagged : flag.isFlag = true)
    (lettered : flag.letter? = some letter) (notDash : next ≠ '-') :
    ∃ added waiting,
      Adds (takeOption settings · (String.ofList ('-' :: letter :: next :: letters))) ((flag, "") :: added) waiting ∧
      Adds (takeOption settings · (String.ofList ('-' :: next :: letters))) added waiting := by
  obtain ⟨added, waiting, adds⟩ := exists_adds_takeLetters settings (next :: letters)
  simp only [takeOption_letters settings _ notDash, takeOption_letters settings _ (Setting.letter_ne lettered).2]
  exact ⟨added, waiting, adds_takeLetters_flag flagged lettered adds, adds⟩

/-! ## Arguments that are not words -/

theorem option_of_letters (notDash : next ≠ '-') :
    String.ofList ('-' :: next :: letters) ≠ "--" ∧ isWord (String.ofList ('-' :: next :: letters)) = false := by
  constructor
  · intro closing
    have same := congrArg String.toList closing
    rw [String.toList_ofList] at same
    exact notDash (List.cons.inj (List.cons.inj same).2).1
  · rw [isWord, String.toList_ofList]
    rfl

private theorem Setting.AloneIn.option (alone : flag.AloneIn argument) :
    argument ≠ "--" ∧ isWord argument = false := by
  cases alone with
  | named => cases flag <;> decide
  | lettered lettered => exact option_of_letters (Setting.letter_ne lettered).2

/-! ## What is read from two lists -/

/-- An option comes when no value is awaited, and reading goes on with what it adds. -/
theorem resume_option {expected : Option Setting} (option : argument ≠ "--" ∧ isWord argument = false)
    (adds : Adds (takeOption settings · argument) added waiting)
    (reads : resume settings entries expected (argument :: rest) = .ok reading) :
    expected = none ∧ ∃ after, after.all = entries.all ++ added ∧ (waiting ≠ none → after.pending = none) ∧
      resume settings after waiting rest = .ok reading := by
  cases expected with
  | some setting =>
    rw [resume, option.2] at reads
    cases reads
  | none =>
    refine ⟨rfl, ?_⟩
    rw [resume, read_cons_of_option option.1 option.2] at reads
    obtain ⟨result, taken, reads⟩ := exists_of_bind_eq_ok reads
    obtain ⟨more, rfl, ready⟩ := adds entries result.1 result.2 taken
    exact ⟨result.1, more, ready, reads⟩

/-- A value comes when it is awaited. -/
private theorem resume_value {setting : Setting} (ready : entries.pending = none)
    (reads : resume settings entries (some setting) (argument :: rest) = .ok reading) :
    ∃ after, after.all = entries.all ++ [(setting, argument)] ∧ resume settings after none rest = .ok reading := by
  obtain ⟨entered, pending⟩ := entries
  obtain rfl : pending = none := ready
  rw [resume] at reads
  split at reads
  · refine ⟨⟨entered, some (setting, argument)⟩, ?_, reads⟩
    rw [Entries.all_of_no_pending]
    rfl
  · cases reads

/-- What was read, some flags aside. -/
def others (flags : List Setting) (options : List (Setting × String)) : List (Setting × String) :=
  options.filter fun option => option.1 ∉ flags

theorem others_append (options more : List (Setting × String)) :
    others flags (options ++ more) = others flags options ++ others flags more :=
  List.filter_append ..

private theorem others_flag_cons (member : flag ∈ flags) :
    others flags ((flag, "") :: added) = others flags added := by
  simp [others, member]

/-- Two states of a reading that differ in some flags, ready for the value of the same setting. -/
structure Abreast (flags : List Setting) (waiting : Option Setting) (left right : Entries) : Prop where
  alike : others flags right.all = others flags left.all
  leftReady : waiting ≠ none → left.pending = none
  rightReady : waiting ≠ none → right.pending = none

theorem Abreast.of_alike {left right : Entries} (alike : others flags right.all = others flags left.all) :
    Abreast flags none left right :=
  ⟨alike, absurd rfl, absurd rfl⟩

variable {expected : Option Setting} {left right : Entries} {leftReading rightReading : Reading}
  {leftArguments rightArguments leftRest rightRest : List String} {leftArgument rightArgument : String}
  {leftAdded rightAdded : List (Setting × String)}

/-- Two options keep two readings abreast when they add the same, some flags aside. -/
private theorem Abreast.resume_options (abreast : Abreast flags expected left right)
    (leftOption : leftArgument ≠ "--" ∧ isWord leftArgument = false)
    (rightOption : rightArgument ≠ "--" ∧ isWord rightArgument = false)
    (leftAdds : Adds (takeOption settings · leftArgument) leftAdded waiting)
    (rightAdds : Adds (takeOption settings · rightArgument) rightAdded waiting)
    (same : others flags rightAdded = others flags leftAdded)
    (leftReads : resume settings left expected (leftArgument :: leftRest) = .ok leftReading)
    (rightReads : resume settings right expected (rightArgument :: rightRest) = .ok rightReading) :
    ∃ leftAfter rightAfter, Abreast flags waiting leftAfter rightAfter ∧
      resume settings leftAfter waiting leftRest = .ok leftReading ∧
      resume settings rightAfter waiting rightRest = .ok rightReading := by
  obtain ⟨-, leftAfter, leftAll, leftReady, leftReads⟩ := resume_option leftOption leftAdds leftReads
  obtain ⟨-, rightAfter, rightAll, rightReady, rightReads⟩ := resume_option rightOption rightAdds rightReads
  refine ⟨leftAfter, rightAfter, ⟨?_, leftReady, rightReady⟩, leftReads, rightReads⟩
  rw [leftAll, rightAll, others_append, others_append, abreast.alike, same]

/-- Two readings that went alike, some flags aside. If they stopped at a word, it is the same. -/
structure ReadAlike (flags : List Setting) (left right : Reading) : Prop where
  entries : others flags right.entries.all = others flags left.entries.all
  closed : right.closed = left.closed
  rest : left.closed = false → left.rest = [] ∧ right.rest = [] ∨
    ∃ word leftMore rightMore, left.rest = word :: leftMore ∧ right.rest = word :: rightMore ∧
      DifferIn flags leftMore rightMore

/-- Two readings that are abreast go alike over lists that differ only in some flags. -/
theorem DifferIn.readAlike (differ : DifferIn flags leftArguments rightArguments)
    (flagged : ∀ flag ∈ flags, flag.isFlag = true) (abreast : Abreast flags waiting left right)
    (leftReads : resume settings left waiting leftArguments = .ok leftReading)
    (rightReads : resume settings right waiting rightArguments = .ok rightReading) :
    ReadAlike flags leftReading rightReading := by
  -- What is awaited stays the same on both sides, also over a flag that only one side has.
  induction differ generalizing waiting left right with
  | nil =>
    cases waiting with
    | some setting => cases leftReads
    | none =>
      cases leftReads
      cases rightReads
      exact ⟨abreast.alike, rfl, fun _ => .inl ⟨rfl, rfl⟩⟩
  | @same argument leftRest rightRest later inductionHypothesis =>
    cases waiting with
    | some setting =>
      obtain ⟨leftAfter, leftAll, leftReads⟩ := resume_value (abreast.leftReady (Option.some_ne_none _)) leftReads
      obtain ⟨rightAfter, rightAll, rightReads⟩ :=
        resume_value (abreast.rightReady (Option.some_ne_none _)) rightReads
      refine inductionHypothesis (.of_alike ?_) leftReads rightReads
      rw [leftAll, rightAll, others_append, others_append, abreast.alike]
    | none =>
      by_cases closing : argument = "--"
      · rw [resume, read, if_pos closing] at leftReads rightReads
        cases leftReads
        cases rightReads
        exact ⟨abreast.alike, rfl, fun notClosed => absurd notClosed.symm Bool.false_ne_true⟩
      cases word : isWord argument with
      | true =>
        rw [resume, read_cons_of_word word] at leftReads rightReads
        cases leftReads
        cases rightReads
        exact ⟨abreast.alike, rfl, fun _ => .inr ⟨argument, leftRest, rightRest, rfl, rfl, later⟩⟩
      | false =>
        obtain ⟨added, next, adds⟩ := exists_adds_takeOption settings argument
        obtain ⟨_, _, abreast, leftReads, rightReads⟩ := abreast.resume_options ⟨closing, word⟩ ⟨closing, word⟩
          adds adds rfl leftReads rightReads
        exact inductionHypothesis abreast leftReads rightReads
  | left member alone later inductionHypothesis =>
    obtain ⟨rfl, leftAfter, leftAll, -, leftReads⟩ :=
      resume_option alone.option (adds_takeOption_alone (flagged _ member) alone) leftReads
    refine inductionHypothesis (.of_alike ?_) leftReads rightReads
    rw [leftAll, others_append, others_flag_cons member, ← others_append, List.append_nil, abreast.alike]
  | right member alone later inductionHypothesis =>
    obtain ⟨rfl, rightAfter, rightAll, -, rightReads⟩ :=
      resume_option alone.option (adds_takeOption_alone (flagged _ member) alone) rightReads
    refine inductionHypothesis (.of_alike ?_) leftReads rightReads
    rw [rightAll, others_append, others_flag_cons member, ← others_append, List.append_nil, abreast.alike]
  | @leftLetter _ _ _ letters _ _ member lettered notDash later inductionHypothesis =>
    obtain ⟨added, next, adds, addsRest⟩ :=
      exists_adds_takeOption_letters settings letters (flagged _ member) lettered notDash
    obtain ⟨_, _, abreast, leftReads, rightReads⟩ := abreast.resume_options
      (option_of_letters (Setting.letter_ne lettered).2) (option_of_letters notDash) adds addsRest
      (others_flag_cons member).symm leftReads rightReads
    exact inductionHypothesis abreast leftReads rightReads
  | @rightLetter _ _ _ letters _ _ member lettered notDash later inductionHypothesis =>
    obtain ⟨added, next, adds, addsRest⟩ :=
      exists_adds_takeOption_letters settings letters (flagged _ member) lettered notDash
    obtain ⟨_, _, abreast, leftReads, rightReads⟩ := abreast.resume_options (option_of_letters notDash)
      (option_of_letters (Setting.letter_ne lettered).2) addsRest adds (others_flag_cons member) leftReads rightReads
    exact inductionHypothesis abreast leftReads rightReads

theorem DifferIn.readAlike_read (differ : DifferIn flags leftArguments rightArguments)
    (flagged : ∀ flag ∈ flags, flag.isFlag = true)
    (leftReads : read settings .empty leftArguments = .ok leftReading)
    (rightReads : read settings .empty rightArguments = .ok rightReading) :
    ReadAlike flags leftReading rightReading :=
  differ.readAlike flagged (.of_alike rfl) leftReads rightReads

/-! ## What is known afterwards -/

private theorem exists_of_readAll_eq_ok {arguments : List String} (reads : readAll settings arguments = .ok entries) :
    ∃ reading, read settings .empty arguments = .ok reading ∧ entries = ⟨reading.entries.all, none⟩ := by
  obtain ⟨reading, read, reads⟩ := exists_of_bind_eq_ok reads
  split at reads
  · exact ⟨reading, read, Entries.settle_eq_ok reads⟩
  · cases reads

private theorem get?_others (options : List (Setting × String)) {setting : Setting} (notFlag : setting ∉ flags) :
    (Entries.mk (others flags options) none).get? setting = (Entries.mk options none).get? setting := by
  have among : (fun option : Setting × String => decide (decide (option.1 ∉ flags) = true ∧
      decide (option.1 = setting) = true)) = fun option => decide (option.1 = setting) := by
    funext option
    by_cases same : option.1 = setting <;> simp [same, notFlag]
  rw [Entries.get?, Entries.get?, others, List.find?_filter, among]

/-- Entries that are the same, some flags aside. -/
def AlikeBut (flags : List Setting) (left right : Entries) : Prop :=
  ∀ setting ∉ flags, right.get? setting = left.get? setting

theorem alikeBut_of_others {leftOptions rightOptions : List (Setting × String)}
    (same : others flags rightOptions = others flags leftOptions) :
    AlikeBut flags ⟨leftOptions, none⟩ ⟨rightOptions, none⟩ := by
  intro setting notFlag
  rw [← get?_others leftOptions notFlag, ← get?_others rightOptions notFlag, same]

theorem DifferIn.alikeBut_readAll (differ : DifferIn flags leftArguments rightArguments)
    (flagged : ∀ flag ∈ flags, flag.isFlag = true) (leftReads : readAll settings leftArguments = .ok left)
    (rightReads : readAll settings rightArguments = .ok right) : AlikeBut flags left right := by
  obtain ⟨leftReading, leftRead, rfl⟩ := exists_of_readAll_eq_ok leftReads
  obtain ⟨rightReading, rightRead, rfl⟩ := exists_of_readAll_eq_ok rightReads
  exact alikeBut_of_others (differ.readAlike_read flagged leftRead rightRead).entries

end Patchwork.CommandLine
