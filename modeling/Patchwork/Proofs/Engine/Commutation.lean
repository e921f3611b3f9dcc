import Mathlib.Data.List.Pairwise
import Mathlib.Data.List.Perm.Basic
import Patchwork.Patch.DuplicateRemoval
import Patchwork.Patch.StepInsertion
import Patchwork.Proofs.Engine.Series

/-!
# Runs on different targets

What a run comes to depends on its own target alone: on the text and on the faults that the storage has for it.
The run changes nothing but the text there. So a run with another target finds what it would have found without
it, and a list of runs with pairwise different targets can be brought into any order.
-/

set_option autoImplicit false

namespace Patchwork

namespace Catalog

variable {κ α : Type} [DecidableEq κ]

/-- Another value for a name that has one. A name without a value stays without. -/
def replace : Catalog κ α → κ → α → Catalog κ α
  | [], _, _ => []
  | (key, present) :: rest, name, value =>
    if key = name then (key, value) :: rest else (key, present) :: replace rest name value

theorem put_eq_replace {catalog : Catalog κ α} {name : κ} {present : α}
    (holds : catalog.get? name = some present) (value : α) :
    catalog.put name value = catalog.replace name value := by
  induction catalog with
  | nil => cases holds
  | cons entry rest inductionHypothesis =>
    obtain ⟨key, first⟩ := entry
    by_cases same : key = name
    · simp [put, replace, same]
    · simp only [get?, if_neg same] at holds
      simp [put, replace, same, inductionHypothesis holds]

theorem get?_replace_of_ne {name other : κ} (apart : name ≠ other) (catalog : Catalog κ α) (value : α) :
    (catalog.replace name value).get? other = catalog.get? other := by
  induction catalog with
  | nil => rfl
  | cons entry rest inductionHypothesis =>
    obtain ⟨key, present⟩ := entry
    by_cases same : key = name
    · subst same
      simp [replace, get?, apart]
    · simp [replace, get?, same, inductionHypothesis]

theorem replace_comm {name other : κ} (apart : name ≠ other) (catalog : Catalog κ α) (value more : α) :
    (catalog.replace name value).replace other more = (catalog.replace other more).replace name value := by
  induction catalog with
  | nil => rfl
  | cons entry rest inductionHypothesis =>
    obtain ⟨key, present⟩ := entry
    by_cases same : key = name
    · subst same
      simp [replace, apart]
    · by_cases sameOther : key = other
      · subst sameOther
        simp [replace, same]
      · simp [replace, same, sameOther, inductionHypothesis]

end Catalog

namespace MemoryStorage

open Engine (outcomeOf)

variable {state other : State} {dryRun : Bool} {patch : Patch}

/-! ## The effect of one run -/

/-- What a run from a state comes to: its result, and the text that it puts under the target if it writes. -/
def State.effect (state : State) (dryRun : Bool) (patch : Patch) : Except Fault Outcome × Option String :=
  match state.read patch.target with
  | .error fault => (.error fault, none)
  | .ok before =>
    match patch.apply before with
    | .error fault => (.error fault, none)
    | .ok patched =>
      if dryRun then (.ok (outcomeOf patch before patched false), none)
      else match state.writeFaults.get? patch.target with
        | some fault => (.error fault, none)
        | none => (.ok (outcomeOf patch before patched true), some patched.content)

/-- The texts with another one under a path that has one, if there is another one. -/
def amend (files : Catalog String String) (path : String) : Option String → Catalog String String
  | none => files
  | some text => files.replace path text

structure State.AlikeAt (state other : State) (path : String) : Prop where
  file : state.files.get? path = other.files.get? path
  readFault : state.readFaults.get? path = other.readFaults.get? path
  writeFault : state.writeFaults.get? path = other.writeFaults.get? path

private theorem State.AlikeAt.effect_eq (alike : state.AlikeAt other patch.target) :
    state.effect dryRun patch = other.effect dryRun patch := by
  have sameRead : state.read patch.target = other.read patch.target := by
    unfold State.read
    rw [alike.file, alike.readFault]
  rw [State.effect, State.effect, sameRead, alike.writeFault]

private theorem Runs.effect_eq {result : Except Fault Outcome} {after : State}
    (runs : Runs patch state dryRun result after) :
    result = (state.effect dryRun patch).1 ∧
      after.files = amend state.files patch.target (state.effect dryRun patch).2 ∧
      after.readFaults = state.readFaults ∧ after.writeFaults = state.writeFaults := by
  unfold State.effect
  cases runs with
  | unread read => simp [read, amend, State.looked, State.record]
  | unapplied read applied => simp [read, applied, amend, State.looked, State.record]
  | previewed yields => simp [yields.read, yields.applied, amend, State.looked, State.record]
  | unwritten yields refused =>
    simp [yields.read, yields.applied, refused, amend, State.looked, State.record]
  | written yields allowed =>
    simp [yields.read, yields.applied, allowed, amend, State.looked, State.record,
      Catalog.put_eq_replace (get?_files_of_read yields.read)]

theorem runPatch_effect (dryRun : Bool) (patch : Patch) (state : State) :
    (runPatch dryRun patch state).1 = (state.effect dryRun patch).1 ∧
      (runPatch dryRun patch state).2.files =
        amend state.files patch.target (state.effect dryRun patch).2 ∧
      (runPatch dryRun patch state).2.readFaults = state.readFaults ∧
      (runPatch dryRun patch state).2.writeFaults = state.writeFaults :=
  (runs_runPatch dryRun patch state).effect_eq

private theorem get?_amend_of_ne {path target : String} (apart : target ≠ path) (files : Catalog String String)
    (text : Option String) : (amend files target text).get? path = files.get? path := by
  cases text with
  | none => rfl
  | some text => exact Catalog.get?_replace_of_ne apart files text

theorem amend_comm {path target : String} (apart : path ≠ target) (files : Catalog String String)
    (text more : Option String) :
    amend (amend files path text) target more = amend (amend files target more) path text := by
  cases text with
  | none => rfl
  | some text =>
    cases more with
    | none => rfl
    | some more => exact Catalog.replace_comm apart files text more

/-- A run leaves every path but its target as it finds it. -/
theorem alikeAt_runPatch {path : String} (apart : patch.target ≠ path) (dryRun : Bool) (state : State) :
    (runPatch dryRun patch state).2.AlikeAt state path := by
  obtain ⟨-, files, readFaults, writeFaults⟩ := runPatch_effect dryRun patch state
  refine ⟨?_, by rw [readFaults], by rw [writeFaults]⟩
  rw [files]
  exact get?_amend_of_ne apart state.files _

/-! ## The effect of a series -/

def Apart (requests : List RunRequest) : Prop :=
  requests.Pairwise fun first second => first.patch.target ≠ second.patch.target

/-- The texts with those that some requests would put there, each of them run from the state. -/
def amendAll (state : State) (requests : List RunRequest) (files : Catalog String String) :
    Catalog String String :=
  requests.foldl
    (fun files request => amend files request.patch.target (state.effect request.dryRun request.patch).2) files

def alone (state : State) (request : RunRequest) : RunRequest × Except Fault Outcome :=
  (request, (runPatch request.dryRun request.patch state).1)

theorem runSeries_cons (first : RunRequest) (rest : List RunRequest) (state : State) :
    runSeries (first :: rest) state =
      ((first, (runPatch first.dryRun first.patch state).1) ::
          (runSeries rest (runPatch first.dryRun first.patch state).2).1,
        (runSeries rest (runPatch first.dryRun first.patch state).2).2) := rfl

/-- In a series with pairwise different targets each run comes to what it would come to alone. -/
theorem runSeries_of_apart {requests : List RunRequest} (apart : Apart requests) (state : State) :
    (runSeries requests state).1 = requests.map (alone state) ∧
      (runSeries requests state).2.files = amendAll state requests state.files := by
  induction requests generalizing state with
  | nil => exact ⟨rfl, rfl⟩
  | cons first rest inductionHypothesis =>
    obtain ⟨apartFirst, apartRest⟩ := List.pairwise_cons.1 apart
    obtain ⟨laterResults, laterFiles⟩ :=
      inductionHypothesis apartRest (runPatch first.dryRun first.patch state).2
    -- The run in front changes nothing for the others.
    have unmoved : ∀ request ∈ rest,
        (runPatch first.dryRun first.patch state).2.effect request.dryRun request.patch =
          state.effect request.dryRun request.patch :=
      fun request member => (alikeAt_runPatch (apartFirst request member) first.dryRun state).effect_eq
    rw [runSeries_cons]
    constructor
    · rw [List.map_cons, laterResults]
      refine congrArg _ (List.map_congr_left fun request member => ?_)
      rw [alone, alone, (runPatch_effect _ _ _).1, (runPatch_effect _ _ state).1, unmoved request member]
    · rw [laterFiles, (runPatch_effect first.dryRun first.patch state).2.1]
      exact List.foldl_ext _ _ _ fun files request member => by rw [unmoved request member]

private theorem amendAll_perm {requests others : List RunRequest} (apart : Apart requests)
    (perm : requests.Perm others) (state : State) (files : Catalog String String) :
    amendAll state requests files = amendAll state others files := by
  have symmetric : Std.Symm fun first second : RunRequest => first.patch.target ≠ second.patch.target :=
    ⟨fun _ _ different => different.symm⟩
  refine perm.foldl_eq' (fun first member second memberToo files => ?_) files
  by_cases same : first = second
  · rw [same]
  · exact amend_comm (List.Pairwise.forall apart member memberToo same) files _ _

private theorem Apart.perm {requests others : List RunRequest} (apart : Apart requests)
    (perm : requests.Perm others) : Apart others :=
  (perm.pairwise_iff fun different => different.symm).1 apart

theorem runSeries_perm {requests others : List RunRequest} (apart : Apart requests)
    (perm : requests.Perm others) (state : State) :
    (runSeries requests state).1 = requests.map (alone state) ∧
      (runSeries others state).1 = others.map (alone state) ∧
      (runSeries requests state).2.files = (runSeries others state).2.files := by
  obtain ⟨results, files⟩ := runSeries_of_apart apart state
  obtain ⟨otherResults, otherFiles⟩ := runSeries_of_apart (apart.perm perm) state
  exact ⟨results, otherResults, files.trans ((amendAll_perm apart perm state _).trans otherFiles.symm)⟩

/-- Two runs with different targets come to the same two results and the same texts in either order. In any order of
some runs with pairwise different targets each run comes to the same result, which is the one that it would come to
alone, and all of them together leave the same texts. -/
theorem runs_on_different_targets_commute (state : State) :
    (∀ first second : RunRequest, first.patch.target ≠ second.patch.target →
      let afterFirst := runPatch first.dryRun first.patch state
      let afterSecond := runPatch second.dryRun second.patch state
      let secondLast := runPatch second.dryRun second.patch afterFirst.2
      let firstLast := runPatch first.dryRun first.patch afterSecond.2
      secondLast.1 = afterSecond.1 ∧ firstLast.1 = afterFirst.1 ∧
        secondLast.2.files = firstLast.2.files) ∧
    ∀ requests others : List RunRequest, requests.Perm others → Apart requests →
      (runSeries requests state).1 = requests.map (alone state) ∧
        (runSeries others state).1 = others.map (alone state) ∧
        (runSeries requests state).2.files = (runSeries others state).2.files := by
  constructor
  · intro first second different afterFirst afterSecond secondLast firstLast
    have apart : Apart [first, second] := by simp [Apart, different]
    obtain ⟨results, otherResults, files⟩ := runSeries_perm apart (.swap second first []) state
    have secondEntry : (second, secondLast.1) = alone state second :=
      List.head_eq_of_cons_eq (List.tail_eq_of_cons_eq results)
    have firstEntry : (first, firstLast.1) = alone state first :=
      List.head_eq_of_cons_eq (List.tail_eq_of_cons_eq otherResults)
    exact ⟨congrArg Prod.snd secondEntry, congrArg Prod.snd firstEntry, files⟩
  · exact fun requests others perm apart => runSeries_perm apart perm state

/-- A real run, a dry run and a run that cannot read, forwards and backwards. -/
theorem runs_on_different_targets_commute_backwards :
    let state : State := ⟨[("f", "a x"), ("g", "b x")], [("h", .missing "h")], [], []⟩
    let requests : List RunRequest :=
      [⟨false, (⟨"f", "x", "s"⟩ : StepInsertion).toPatch⟩, ⟨true, (⟨"g", "x", "s"⟩ : StepInsertion).toPatch⟩,
        ⟨false, (⟨"h", 0, "p", "d"⟩ : DuplicateRemoval).toPatch⟩]
    requests.Perm requests.reverse ∧ Apart requests ∧
      (runSeries requests.reverse state).1 = requests.reverse.map (alone state) ∧
      (runSeries requests state).2.files = (runSeries requests.reverse state).2.files ∧
      (runSeries requests state).2.files = [("f", "a\ns x"), ("g", "b x")] := by
  intro state requests
  have perm : requests.Perm requests.reverse := (List.reverse_perm requests).symm
  have apart : Apart requests := by simp [Apart, requests, StepInsertion.toPatch, DuplicateRemoval.toPatch]
  obtain ⟨-, backwards, files⟩ :=
    (runs_on_different_targets_commute state).2 requests requests.reverse perm apart
  exact ⟨perm, apart, backwards, files, by decide +kernel⟩

end MemoryStorage

end Patchwork
