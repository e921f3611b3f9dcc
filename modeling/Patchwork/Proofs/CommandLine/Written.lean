import Patchwork.Proofs.CommandLine.Reading
import Patchwork.Proofs.Text.Numeral

/-!
# Options that are written out

An option is written out as one argument, with its value after an equals sign, and a flag by its name alone.
Options written out one after the other are read back as they are, whatever their values look like. A count is
written out by its decimal digits, and zeros and a plus sign in front of them make no difference.
-/

set_option autoImplicit false

namespace Patchwork.CommandLine

/-! ## Counts -/

/-- The decimal digits of a number after so many zeros. -/
def zeroPadded (zeros number : Nat) : List Char :=
  List.replicate zeros '0' ++ Nat.toDigits 10 number

/-- A text that writes a number out. -/
inductive Numeral (number : Nat) : String → Prop where
  | unsigned (zeros : Nat) : Numeral number (String.ofList (zeroPadded zeros number))
  | signed (zeros : Nat) : Numeral number (String.ofList ('+' :: zeroPadded zeros number))

theorem numeral_toString (number : Nat) : Numeral number (toString number) := by
  have shortest : toString number = String.ofList (zeroPadded 0 number) :=
    String.toList_inj.1 (Nat.toList_repr.trans String.toList_ofList.symm)
  rw [shortest]
  exact .unsigned 0

variable {number zeros : Nat} {text : String}

private theorem isDigit_of_mem_zeroPadded {digit : Char} (member : digit ∈ zeroPadded zeros number) :
    digit.isDigit = true := by
  rcases List.mem_append.1 member with zero | among
  · rw [List.eq_of_mem_replicate zero]
    rfl
  · exact Nat.isDigit_of_mem_toDigits (by omega) (by omega) among

private theorem zeroPadded_ne_nil : zeroPadded zeros number ≠ [] :=
  fun none => Nat.toDigits_ne_nil (List.append_eq_nil_iff.1 none).2

private theorem decimal_zeroPadded : Text.decimal (zeroPadded zeros number) = number := by
  rw [Text.decimal_eq_ofDigitChars, zeroPadded, Nat.ofDigitChars_append, Nat.ofDigitChars_replicate_zero,
    Nat.mul_zero, Nat.ofDigitChars_ten_toDigits]

/-- The sign is not among the digits, so it does not matter whether there is one. -/
private theorem count?_of_digits {digits : List Char} (digital : ∀ digit ∈ digits, digit.isDigit = true)
    (nonempty : digits ≠ []) (reads : text.toList = digits ∨ text.toList = '+' :: digits) :
    count? text = (some (Text.decimal digits)).filter fun number => number < UInt64.size := by
  have notRefused : ¬ (digits.isEmpty || !digits.all Char.isDigit) = true := by
    rw [List.isEmpty_eq_false_iff.2 nonempty, List.all_eq_true.2 digital]
    decide
  unfold count?
  rcases reads with unsigned | signed
  · rw [unsigned]
    split
    · next rest =>
      have plus : ('+').isDigit = true := digital '+' List.mem_cons_self
      cases plus
    · exact if_neg notRefused
  · rw [signed]
    exact if_neg notRefused

theorem count?_of_numeral (numeral : Numeral number text) (small : number < UInt64.size) :
    count? text = some number := by
  have reads : ∃ zeros, text.toList = zeroPadded zeros number ∨ text.toList = '+' :: zeroPadded zeros number := by
    cases numeral with
    | unsigned zeros => exact ⟨zeros, .inl String.toList_ofList⟩
    | signed zeros => exact ⟨zeros, .inr String.toList_ofList⟩
  obtain ⟨zeros, reads⟩ := reads
  rw [count?_of_digits (fun _ => isDigit_of_mem_zeroPadded) zeroPadded_ne_nil reads, decimal_zeroPadded,
    Option.filter_some_pos]
  exact decide_eq_true small

/-! ## Single options -/

/-- The value that is written out with a setting. A flag has none. -/
def attachedTo (option : Setting × String) : Option String :=
  if option.1.isFlag then none else some option.2

/-- The argument that an option is written out as. -/
def written (option : Setting × String) : String :=
  match attachedTo option with
  | none => "--" ++ option.1.name
  | some value => "--" ++ option.1.name ++ "=" ++ value

/-- An option that can be written out for a command line that knows some settings. A flag goes without a value. -/
structure Writable (settings : List Setting) (option : Setting × String) : Prop where
  known : option.1 ∈ settings
  accepted : option.1.accepts option.2 = true
  bare : option.1.isFlag = true → option.2 = ""

variable {settings : List Setting} {setting : Setting} {value : String} {option : Setting × String}
  {entered options : List (Setting × String)} {rest : List String}

theorem Setting.name_injective : Function.Injective Setting.name := by
  intro setting other
  cases setting <;> cases other <;> decide

private theorem Setting.name_ne_help (setting : Setting) : setting.name ≠ "help" := by
  cases setting <;> decide

private theorem Setting.equals_not_mem_name (setting : Setting) : '=' ∉ setting.name.toList := by
  cases setting <;> decide

theorem named?_name (settings : List Setting) (setting : Setting) :
    named? settings setting.name = if setting ∈ settings then some setting else none := by
  cases found : named? settings setting.name with
  | none =>
    have unknown : setting ∉ settings := fun known =>
      List.find?_eq_none.1 found setting known (decide_eq_true rfl)
    rw [if_neg unknown]
  | some other =>
    have sameName : other.name = setting.name := by simpa using List.find?_some found
    obtain rfl := Setting.name_injective sameName
    rw [if_pos (List.mem_of_find?_eq_some found)]

/-- An option after its dashes: its name, and its value after an equals sign. -/
def spelled (setting : Setting) (attached : Option String) : List Char :=
  setting.name.toList ++ attached.elim [] fun value => '=' :: value.toList

theorem takeNamed_spelled (settings : List Setting) (entries : Entries) (setting : Setting)
    (attached : Option String) :
    takeNamed settings entries (spelled setting attached) =
      if setting ∈ settings then take entries setting attached else .error .usage := by
  have noEquals : ∀ c ∈ setting.name.toList, decide (c ≠ '=') = true := by
    intro c member
    refine decide_eq_true ?_
    rintro rfl
    exact setting.equals_not_mem_name member
  unfold takeNamed spelled
  rw [List.takeWhile_append_of_pos noEquals, List.dropWhile_append_of_pos noEquals]
  by_cases known : setting ∈ settings <;> cases attached <;>
    simp [String.ofList_toList, setting.name_ne_help, named?_name, known]

theorem toList_written (option : Setting × String) :
    (written option).toList = '-' :: '-' :: spelled option.1 (attachedTo option) := by
  unfold written spelled
  cases attachedTo option <;> simp

private theorem isWord_written (option : Setting × String) : isWord (written option) = false := by
  rw [isWord, toList_written]
  rfl

private theorem written_ne_closing (option : Setting × String) : written option ≠ "--" := by
  intro closing
  have same := toList_written option
  rw [closing, spelled] at same
  have nameless := (List.append_eq_nil_iff.1 (List.cons.inj (List.cons.inj same).2).2.symm).1
  revert nameless
  cases option.1 <;> decide

private theorem takeOption_written {entries : Entries} (known : option.1 ∈ settings) :
    takeOption settings entries (written option) = take entries option.1 (attachedTo option) := by
  rw [takeOption, toList_written]
  exact (takeNamed_spelled ..).trans (if_pos known)

private theorem take_attachedTo (writable : Writable settings option) (new : option.1 ∉ entered.map Prod.fst) :
    take ⟨entered, none⟩ option.1 (attachedTo option) = .ok (⟨entered ++ [option], none⟩, none) := by
  obtain ⟨setting, value⟩ := option
  have enters := Entries.enter_of_new new writable.accepted
  unfold take attachedTo
  rw [Entries.settle_of_no_pending]
  cases kind : setting.isFlag with
  | true =>
    obtain rfl : value = "" := writable.bare kind
    change (Entries.enter _ setting "" >>= fun entries => pure (entries, none)) = _
    rw [enters]
    rfl
  | false =>
    change (Entries.enter _ setting value >>= fun entries => pure (entries, none)) = _
    rw [enters]
    rfl

theorem read_written_cons (writable : Writable settings option) (new : option.1 ∉ entered.map Prod.fst) :
    read settings ⟨entered, none⟩ (written option :: rest) = read settings ⟨entered ++ [option], none⟩ rest := by
  rw [read_cons_of_option (written_ne_closing option) (isWord_written option), takeOption_written writable.known,
    take_attachedTo writable new]
  rfl

/-! ## One option after the other -/

/-- Options are read as they are written out, each known one that is written once. -/
theorem read_map_written (entered : List (Setting × String))
    (writable : ∀ option ∈ options, Writable settings option) (once : ((entered ++ options).map Prod.fst).Nodup) :
    read settings ⟨entered, none⟩ (options.map written ++ rest) = read settings ⟨entered ++ options, none⟩ rest := by
  induction options generalizing entered with
  | nil => rw [List.append_nil, List.map_nil, List.nil_append]
  | cons option more inductionHypothesis =>
    have new : option.1 ∉ entered.map Prod.fst := by
      rw [List.map_append, List.map_cons, List.nodup_append] at once
      exact fun member => once.2.2 _ member _ List.mem_cons_self rfl
    rw [List.map_cons, List.cons_append, read_written_cons (writable option List.mem_cons_self) new,
      inductionHypothesis _ (fun other member => writable other (List.mem_cons_of_mem _ member))
        (by rwa [List.append_assoc, List.singleton_append]),
      List.append_assoc, List.singleton_append]

theorem readAll_map_written (writable : ∀ option ∈ options, Writable settings option)
    (once : (options.map Prod.fst).Nodup) :
    readAll settings (options.map written) = .ok ⟨options, none⟩ := by
  have reads := @read_map_written settings options [] [] writable once
  rw [List.append_nil] at reads
  rw [readAll]
  change read settings ⟨[], none⟩ _ >>= _ = _
  rw [reads]
  rfl

end Patchwork.CommandLine
