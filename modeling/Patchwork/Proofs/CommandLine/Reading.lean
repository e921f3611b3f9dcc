import Patchwork.CommandLine
import Patchwork.Proofs.Fault

/-!
# What arguments add

An argument that is accepted adds settings at the end of the ones read so far, and may ask for the next argument
as a value. Which settings these are does not depend on the ones read so far: those decide only whether the
argument is accepted.
-/

set_option autoImplicit false

namespace Patchwork.CommandLine

open Fault (exists_of_bind_eq_ok)

variable {settings : List Setting} {setting : Setting} {value argument : String} {attached : Option String}
  {waiting : Option Setting} {rest : List String} {reading : Reading}

/-! ## Entries -/

namespace Entries

variable {entries after : Entries}

/-- The settings read so far, the one that waits among them. -/
def all (entries : Entries) : List (Setting × String) :=
  entries.entered ++ entries.pending.toList

theorem all_of_no_pending (entered : List (Setting × String)) : all ⟨entered, none⟩ = entered :=
  List.append_nil entered

theorem enter_eq_ok (enters : entries.enter setting value = .ok after) :
    after = { entries with entered := entries.entered ++ [(setting, value)] } := by
  unfold enter at enters
  split at enters
  · cases enters
  · exact (Except.ok.inj enters).symm

theorem get?_eq_none_iff {entered : List (Setting × String)} {pending : Option (Setting × String)} :
    (Entries.mk entered pending).get? setting = none ↔ setting ∉ entered.map Prod.fst := by
  rw [get?, Option.map_eq_none_iff, List.find?_eq_none]
  constructor
  · intro missing member
    obtain ⟨entry, here, rfl⟩ := List.mem_map.1 member
    exact missing entry here (decide_eq_true rfl)
  · intro missing entry here same
    exact missing (List.mem_map.2 ⟨entry, here, of_decide_eq_true same⟩)

theorem mem_of_get?_eq_some {entered : List (Setting × String)} {pending : Option (Setting × String)}
    (found : (Entries.mk entered pending).get? setting = some value) : (setting, value) ∈ entered := by
  obtain ⟨entry, first, rfl⟩ := Option.map_eq_some_iff.1 found
  have same := List.find?_some first
  obtain rfl : entry.1 = setting := of_decide_eq_true same
  exact List.mem_of_find?_eq_some first

theorem get?_append (entered more : List (Setting × String)) (pending : Option (Setting × String)) :
    (Entries.mk (entered ++ more) pending).get? setting =
      ((Entries.mk entered pending).get? setting).or ((Entries.mk more pending).get? setting) := by
  rw [get?, List.find?_append, Option.map_or]
  rfl

theorem enter_of_new {entered : List (Setting × String)} (new : setting ∉ entered.map Prod.fst)
    (accepted : setting.accepts value = true) :
    enter ⟨entered, none⟩ setting value = .ok ⟨entered ++ [(setting, value)], none⟩ := by
  simp [enter, has, get?_eq_none_iff.2 new, accepted]

theorem settle_eq_ok (settles : entries.settle = .ok after) : after = ⟨entries.all, none⟩ := by
  obtain ⟨entered, _ | ⟨setting, value⟩⟩ := entries
  · rw [all_of_no_pending]
    exact (Except.ok.inj settles).symm
  · exact enter_eq_ok settles

theorem settle_of_no_pending (entered : List (Setting × String)) : settle ⟨entered, none⟩ = .ok ⟨entered, none⟩ :=
  rfl

theorem enter_bind_eq_ok {α : Type} {next : Entries → Except Refusal α} {result : α}
    (succeeds : (entries.enter setting value >>= next) = .ok result) :
    next { entries with entered := entries.entered ++ [(setting, value)] } = .ok result := by
  obtain ⟨after, enters, succeeds⟩ := exists_of_bind_eq_ok succeeds
  rwa [enter_eq_ok enters] at succeeds

theorem settle_bind_eq_ok {α : Type} {next : Entries → Except Refusal α} {result : α}
    (succeeds : (entries.settle >>= next) = .ok result) : next ⟨entries.all, none⟩ = .ok result := by
  obtain ⟨after, settles, succeeds⟩ := exists_of_bind_eq_ok succeeds
  rwa [settle_eq_ok settles] at succeeds

end Entries

/-! ## Single arguments -/

/-- Whenever the step is accepted it adds the settings and leaves the same one to wait for the next argument. None
stands aside then. -/
def Adds (step : Entries → Step) (added : List (Setting × String)) (waiting : Option Setting) : Prop :=
  ∀ entries after next, step entries = .ok (after, next) →
    after.all = entries.all ++ added ∧ next = waiting ∧ (next ≠ none → after.pending = none)

theorem adds_take_flag (flag : setting.isFlag = true) : Adds (take · setting none) [(setting, "")] none := by
  intro entries after next accepted
  have settled := Entries.settle_bind_eq_ok accepted
  rw [if_pos flag] at settled
  cases Entries.enter_bind_eq_ok settled
  exact ⟨Entries.all_of_no_pending _, rfl, fun _ => rfl⟩

private theorem adds_take_attached (valued : setting.isFlag = false) (value : String) :
    Adds (take · setting (some value)) [(setting, value)] none := by
  intro entries after next accepted
  have settled := Entries.settle_bind_eq_ok accepted
  rw [if_neg (Bool.not_eq_true _ ▸ valued)] at settled
  cases Entries.enter_bind_eq_ok settled
  exact ⟨Entries.all_of_no_pending _, rfl, fun _ => rfl⟩

private theorem adds_take_awaited (valued : setting.isFlag = false) :
    Adds (take · setting none) [] (some setting) := by
  intro entries after next accepted
  have settled := Entries.settle_bind_eq_ok accepted
  rw [if_neg (Bool.not_eq_true _ ▸ valued)] at settled
  cases settled
  exact ⟨rfl, rfl, fun _ => rfl⟩

theorem exists_adds_take (setting : Setting) (attached : Option String) :
    ∃ added waiting, Adds (take · setting attached) added waiting := by
  cases kind : setting.isFlag with
  | false =>
    cases attached with
    | none => exact ⟨_, _, adds_take_awaited kind⟩
    | some value => exact ⟨_, _, adds_take_attached kind value⟩
  | true =>
    cases attached with
    | none => exact ⟨_, _, adds_take_flag kind⟩
    | some value =>
      refine ⟨[], none, fun entries after next accepted => ?_⟩
      have refused := Entries.settle_bind_eq_ok accepted
      rw [if_pos kind] at refused
      cases refused

theorem adds_refused (refusal : Refusal) : Adds (fun _ => .error refusal) [] none := by
  intro entries after next accepted
  cases accepted

theorem adds_askHelp : Adds askHelp [] none := by
  intro entries after next accepted
  cases Entries.settle_bind_eq_ok accepted

private theorem exists_adds_takeNamed (settings : List Setting) (option : List Char) :
    ∃ added waiting, Adds (takeNamed settings · option) added waiting := by
  unfold takeNamed
  dsimp only
  split
  · split
    · exact ⟨[], none, adds_refused _⟩
    · exact ⟨[], none, adds_askHelp⟩
  · split
    · exact ⟨[], none, adds_refused _⟩
    · exact exists_adds_take _ _

theorem adds_nothing : Adds (fun entries => .ok (entries, none)) [] none := by
  intro entries after next accepted
  cases accepted
  exact ⟨(List.append_nil _).symm, rfl, fun waits => absurd rfl waits⟩

theorem Adds.after_flag {step : Entries → Step} {added : List (Setting × String)} (flag : setting.isFlag = true)
    (adds : Adds step added waiting) :
    Adds (fun entries => take entries setting none >>= fun taken => step taken.1) ((setting, "") :: added)
      waiting := by
  intro entries after next accepted
  obtain ⟨between, taken, accepted⟩ := exists_of_bind_eq_ok accepted
  obtain ⟨first, -, -⟩ := adds_take_flag flag entries between.1 between.2 taken
  obtain ⟨later, sameWaiting, noPending⟩ := adds between.1 after next accepted
  refine ⟨?_, sameWaiting, noPending⟩
  rw [later, first, List.append_assoc]
  rfl

theorem exists_adds_takeLetters (settings : List Setting) (letters : List Char) :
    ∃ added waiting, Adds (takeLetters settings · letters) added waiting := by
  induction letters with
  | nil => exact ⟨[], none, adds_nothing⟩
  | cons letter rest inductionHypothesis =>
    obtain ⟨more, waiting, adds⟩ := inductionHypothesis
    unfold takeLetters
    split
    · exact ⟨[], none, adds_askHelp⟩
    split
    · exact ⟨[], none, adds_refused _⟩
    next setting _ =>
      split
      · next flag => exact ⟨(setting, "") :: more, waiting, adds.after_flag flag⟩
      · split <;> exact exists_adds_take _ _

theorem exists_adds_takeOption (settings : List Setting) (argument : String) :
    ∃ added waiting, Adds (takeOption settings · argument) added waiting := by
  unfold takeOption
  split
  · exact exists_adds_takeNamed _ _
  · exact exists_adds_takeLetters _ _
  · exact ⟨[], none, adds_refused _⟩

/-! ## One argument after the other -/

/-- How reading goes on after an option. The option may wait for its value, which then comes next. -/
def resume (settings : List Setting) (entries : Entries) :
    Option Setting → List String → Except Refusal Reading
  | none, arguments => read settings entries arguments
  | some _, [] => .error .usage
  | some setting, value :: rest =>
    if isWord value then read settings { entries with pending := some (setting, value) } rest
    else .error .usage

theorem read_cons_of_option {entries : Entries} (notClosing : argument ≠ "--") (option : isWord argument = false) :
    read settings entries (argument :: rest) =
      takeOption settings entries argument >>= fun taken => resume settings taken.1 taken.2 rest := by
  rw [read, if_neg notClosing, if_neg (Bool.not_eq_true _ ▸ option)]
  cases takeOption settings entries argument with
  | error refusal => rfl
  | ok taken =>
    obtain ⟨after, _ | setting⟩ := taken
    · rfl
    · cases rest <;> rfl

theorem read_cons_of_word {entries : Entries} (word : isWord argument = true) :
    read settings entries (argument :: rest) = .ok ⟨entries, argument :: rest, false⟩ := by
  have notClosing : argument ≠ "--" := by
    rintro rfl
    cases word
  rw [read, if_neg notClosing, if_pos word]

end Patchwork.CommandLine
