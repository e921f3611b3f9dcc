import Mathlib.Algebra.Order.Ring.Int
import Patchwork.Proofs.Engine.Memory

/-!
# Series of runs

Runs follow each other on a storage in memory, each with its own patch, target and choice of a dry run. What
becomes of one path is told by the runs that rewrote it, the successful ones with that target that were not
dry: `Evolves` reads the history of a series as the story of the path, and the laws of the series are read
off the story.
-/

set_option autoImplicit false

namespace Patchwork.MemoryStorage

open Engine (outcomeOf)

structure RunRequest where
  dryRun : Bool
  patch : Patch

/-- The requests of a series, each with the result of its run. -/
abbrev History := List (RunRequest × Except Fault Outcome)

/-- Runs requests one after the other, whether they fail or not. -/
def runSeries : List RunRequest → State → History × State
  | [], state => ([], state)
  | request :: rest, state =>
    let (result, next) := runPatch request.dryRun request.patch state
    let (history, final) := runSeries rest next
    ((request, result) :: history, final)

/-- The patch and the outcome of a run that succeeded, was not dry and had the path for its target. -/
def rewrite? (path : String) : RunRequest × Except Fault Outcome → Option (Patch × Outcome)
  | (_, .error _) => none
  | (request, .ok outcome) =>
    if request.dryRun = false ∧ request.patch.target = path then some (request.patch, outcome) else none

def rewrites (path : String) (history : History) : List (Patch × Outcome) :=
  history.filterMap (rewrite? path)

/-- Patches turn one text into another when each of them can be applied to what the one before it made. -/
inductive Rewritten : List Patch → String → String → Prop where
  | done {text} : Rewritten [] text text
  | next {patch rest before patched last} (applied : patch.apply before = .ok patched)
      (later : Rewritten rest patched.content last) : Rewritten (patch :: rest) before last

/-! ## The story of a path -/

/-- What a history makes of the text under a path. A run rewrites the text, or leaves it as it is; in
either case a run that succeeds on the path has counted the lines of that text. -/
inductive Evolves (path : String) : Option String → History → Option String → Prop where
  | done {content} : Evolves path content [] content
  | kept {content request result history last} (noRewrite : rewrite? path (request, result) = none)
      (counted : ∀ outcome, result = .ok outcome → request.patch.target = path →
        ∃ text, content = some text ∧ outcome.linesBefore = lineCount text)
      (later : Evolves path content history last) :
      Evolves path content ((request, result) :: history) last
  | rewritten {patch before patched history last} (target : patch.target = path)
      (applied : patch.apply before = .ok patched)
      (later : Evolves path (some patched.content) history last) :
      Evolves path (some before)
        ((⟨false, patch⟩, .ok (outcomeOf patch before patched true)) :: history) last

variable {path : String} {state after : State} {result : Except Fault Outcome} {history : History}
  {content last : Option String}

theorem evolves_of_runs {request : RunRequest}
    (runs : Runs request.patch state request.dryRun result after)
    (later : Evolves path (after.files.get? path) history last) :
    Evolves path (state.files.get? path) ((request, result) :: history) last := by
  obtain ⟨dryRun, patch⟩ := request
  cases runs with
  | unread read => exact .kept rfl (by simp) later
  | unapplied read applied => exact .kept rfl (by simp) later
  | @previewed before patched yields =>
    refine .kept (by simp [rewrite?]) ?_ later
    rintro outcome succeeded rfl
    obtain rfl := Except.ok.inj succeeded
    exact ⟨before, get?_files_of_read yields.read, rfl⟩
  | unwritten yields refused => exact .kept rfl (by simp) later
  | @written before patched yields allowed =>
    by_cases target : patch.target = path
    · have here := get?_files_of_read yields.read
      rw [target] at here
      rw [here]
      refine .rewritten target yields.applied ?_
      simpa [target] using later
    · refine .kept (by simp [rewrite?, target]) (fun _ _ same => absurd same target) ?_
      simpa [Catalog.get?_put, target] using later

theorem evolves_runSeries (path : String) (requests : List RunRequest) (state : State) :
    Evolves path (state.files.get? path) (runSeries requests state).1
      ((runSeries requests state).2.files.get? path) := by
  induction requests generalizing state with
  | nil => exact .done
  | cons request rest inductionHypothesis =>
    exact evolves_of_runs (runs_runPatch request.dryRun request.patch state) (inductionHypothesis _)

private theorem requests_runSeries (requests : List RunRequest) (state : State) :
    (runSeries requests state).1.map Prod.fst = requests := by
  induction requests generalizing state with
  | nil => rfl
  | cons request rest inductionHypothesis =>
    exact congrArg (request :: ·) (inductionHypothesis _)

/-! ## Laws of the story -/

theorem Evolves.isSome_eq (evolves : Evolves path content history last) :
    last.isSome = content.isSome := by
  induction evolves with
  | done => rfl
  | kept noRewrite counted later inductionHypothesis => exact inductionHypothesis
  | rewritten target applied later inductionHypothesis => exact inductionHypothesis

@[simp] theorem rewrites_cons_of_none {entry : RunRequest × Except Fault Outcome}
    (noRewrite : rewrite? path entry = none) :
    rewrites path (entry :: history) = rewrites path history :=
  List.filterMap_cons_none noRewrite

theorem rewrites_cons_of_target {patch : Patch} {outcome : Outcome} (target : patch.target = path) :
    rewrites path ((⟨false, patch⟩, .ok outcome) :: history) =
      (patch, outcome) :: rewrites path history :=
  List.filterMap_cons_some (by simp [rewrite?, target])

private theorem Evolves.rewritten_rewrites {text final : String}
    (evolves : Evolves path (some text) history (some final)) :
    Rewritten ((rewrites path history).map Prod.fst) text final := by
  generalize start : some text = content at evolves
  generalize ending : some final = last at evolves
  induction evolves generalizing text with
  | done =>
    obtain rfl := Option.some.inj (start.trans ending.symm)
    exact .done
  | kept noRewrite counted later inductionHypothesis =>
    rw [rewrites_cons_of_none noRewrite]
    exact inductionHypothesis start ending
  | rewritten target applied later inductionHypothesis =>
    obtain rfl := Option.some.inj start
    rw [rewrites_cons_of_target target]
    exact .next applied (inductionHypothesis rfl ending)

/-- The number of lines after the last of some rewrites, or the number to start with when there is none. -/
def linesAfterLast (start : Nat) (rewrites : List (Patch × Outcome)) : Nat :=
  (rewrites.getLast?.map fun rewrite => rewrite.2.linesAfter).getD start

private theorem linesAfterLast_cons (start : Nat) (rewrite : Patch × Outcome) (more : List (Patch × Outcome)) :
    linesAfterLast start (rewrite :: more) = linesAfterLast rewrite.2.linesAfter more := by
  rw [linesAfterLast, linesAfterLast, List.getLast?_cons]
  cases more.getLast? <;> rfl

theorem Evolves.linesBefore_eq {text : String} {earlier later : History} {request : RunRequest}
    {outcome : Outcome}
    (evolves : Evolves path (some text) (earlier ++ (request, .ok outcome) :: later) last)
    (target : request.patch.target = path) :
    outcome.linesBefore = linesAfterLast (lineCount text) (rewrites path earlier) := by
  generalize start : some text = content at evolves
  generalize whole : earlier ++ (request, .ok outcome) :: later = history at evolves
  induction evolves generalizing text earlier with
  | done => simp at whole
  | kept noRewrite counted _ inductionHypothesis =>
    cases earlier with
    | nil =>
      obtain ⟨entry, -⟩ := List.cons.inj whole
      obtain ⟨rfl, rfl⟩ := Prod.mk.inj entry
      obtain ⟨same, isText, count⟩ := counted outcome rfl target
      obtain rfl := Option.some.inj (start.trans isText)
      exact count
    | cons first more =>
      obtain ⟨rfl, rest⟩ := List.cons.inj whole
      rw [rewrites_cons_of_none noRewrite]
      exact inductionHypothesis start rest
  | rewritten onTarget applied _ inductionHypothesis =>
    obtain rfl := Option.some.inj start
    cases earlier with
    | nil =>
      obtain ⟨entry, -⟩ := List.cons.inj whole
      obtain rfl := Except.ok.inj (Prod.mk.inj entry).2
      rfl
    | cons first more =>
      obtain ⟨rfl, rest⟩ := List.cons.inj whole
      rw [rewrites_cons_of_target onTarget, linesAfterLast_cons]
      exact inductionHypothesis rfl rest

theorem Evolves.sum_lineDelta {text final : String}
    (evolves : Evolves path (some text) history (some final)) :
    ((rewrites path history).map fun rewrite => rewrite.2.lineDelta).sum =
      Outcome.signed (lineCount final) - Outcome.signed (lineCount text) := by
  generalize start : some text = content at evolves
  generalize ending : some final = last at evolves
  induction evolves generalizing text with
  | done =>
    obtain rfl := Option.some.inj (start.trans ending.symm)
    simp [rewrites]
  | kept noRewrite counted later inductionHypothesis =>
    rw [rewrites_cons_of_none noRewrite]
    exact inductionHypothesis start ending
  | @rewritten patch before patched history last target applied later inductionHypothesis =>
    obtain rfl := Option.some.inj start
    rw [rewrites_cons_of_target target, List.map_cons, List.sum_cons, inductionHypothesis rfl ending]
    simp only [Outcome.lineDelta, outcomeOf]
    omega

private theorem signed_of_lt {count : Nat} (small : count < 2 ^ 63) : Outcome.signed count = count := by
  rw [Outcome.signed, Outcome.countBound]
  apply Int.bmod_eq_of_le
  · simp only [UInt64.size]
    omega
  · simp only [UInt64.size]
    omega

/-- For each path, the successful runs on it that are not dry turn its first text into its last one, in order, and
nothing else changes it; paths neither appear nor disappear. Each successful run on the path finds the lines that
the last of them before it left, so their line deltas add up to the lines that the path gained. -/
theorem rewrites_of_runSeries (requests : List RunRequest) (state : State) (path : String) :
    let history := (runSeries requests state).1
    let final := (runSeries requests state).2
    history.map Prod.fst = requests ∧
      (final.files.get? path).isSome = (state.files.get? path).isSome ∧
      ∀ text, state.files.get? path = some text →
        ∃ last, final.files.get? path = some last ∧
          Rewritten ((rewrites path history).map Prod.fst) text last ∧
          (∀ earlier request outcome later, history = earlier ++ (request, .ok outcome) :: later →
            request.patch.target = path →
              outcome.linesBefore = linesAfterLast (lineCount text) (rewrites path earlier)) ∧
          (lineCount text < 2 ^ 63 → lineCount last < 2 ^ 63 →
            ((rewrites path history).map fun rewrite => rewrite.2.lineDelta).sum =
              (lineCount last : Int) - lineCount text) := by
  intro history final
  have evolves := evolves_runSeries path requests state
  refine ⟨requests_runSeries requests state, evolves.isSome_eq, fun text isText => ?_⟩
  have stays := evolves.isSome_eq
  rw [isText, Option.isSome_some, Option.isSome_iff_exists] at stays
  obtain ⟨last, isLast⟩ := stays
  rw [isText, isLast] at evolves
  refine ⟨last, isLast, evolves.rewritten_rewrites, ?_, ?_⟩
  · intro earlier request outcome later whole target
    have story : Evolves path (some text) history (some last) := evolves
    rw [whole] at story
    exact story.linesBefore_eq target
  · intro textSmall lastSmall
    rw [evolves.sum_lineDelta, signed_of_lt textSmall, signed_of_lt lastSmall]

end Patchwork.MemoryStorage
