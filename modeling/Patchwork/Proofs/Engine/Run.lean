import Patchwork.Engine

/-!
# What a run can do

A run reads, applies and writes, and notes log entries in between. On a storage that has a state it ends in
one of five ways. `Ran` has one case for each of them, with what happened on the way, and `ran_run` says that
there is no other. Entries that are noted may change the state too, and `noteAll` says how.
-/

set_option autoImplicit false

namespace Patchwork.Engine

variable {σ α β : Type} {state after : σ}

/-! ## One step after the other -/

theorem run_bind_of_ok {first : ExceptT Fault (StateM σ) α} {next : α → ExceptT Fault (StateM σ) β}
    {value : α} (succeeds : first.run state = (.ok value, after)) :
    (first >>= next).run state = (next value).run after := by
  change ExceptT.bindCont next (first.run state).1 (first.run state).2 = _
  rw [succeeds]
  rfl

theorem run_bind_of_error {first : ExceptT Fault (StateM σ) α}
    {next : α → ExceptT Fault (StateM σ) β} {fault : Fault}
    (fails : first.run state = (.error fault, after)) :
    (first >>= next).run state = (.error fault, after) := by
  change ExceptT.bindCont next (first.run state).1 (first.run state).2 = _
  rw [fails]
  rfl

theorem run_settled (answer : Except Fault α) :
    (ExceptT.mk (pure answer) : ExceptT Fault (StateM σ) α).run state = (answer, state) := rfl

/-! ## Log entries -/

/-- The state after entries were noted one after the other. -/
def noteAll (storage : Storage (StateM σ)) (state : σ) (entries : List Log.Entry) : σ :=
  entries.foldl (fun state entry => (storage.note entry state).2) state

variable {storage : Storage (StateM σ)}

theorem noteAll_noteAll (entries more : List Log.Entry) :
    noteAll storage (noteAll storage state entries) more = noteAll storage state (entries ++ more) :=
  List.foldl_append.symm

theorem run_note (entry : Log.Entry) :
    (liftM (storage.note entry) : ExceptT Fault (StateM σ) Unit).run state =
      (.ok (), noteAll storage state [entry]) := rfl

private theorem run_forM_note (entries : List Log.Entry) :
    (entries.forM fun entry => (liftM (storage.note entry) : ExceptT Fault (StateM σ) Unit)).run state =
      (.ok (), noteAll storage state entries) := by
  induction entries generalizing state with
  | nil => rfl
  | cons entry rest inductionHypothesis =>
    exact (run_bind_of_ok (run_note entry)).trans inductionHypothesis

private theorem run_noteWhen (condition : Prop) [Decidable condition] (entry : Log.Entry)
    (next : ExceptT Fault (StateM σ) α) :
    (if condition then do liftM (storage.note entry); next else next).run state =
      next.run (noteAll storage state (if condition then [entry] else [])) := by
  split
  · exact run_bind_of_ok (run_note entry)
  · rfl

/-! ## What a run notes and does

A run reads the target, applies the patch, and finishes with or without a write. Each of these steps is an
equation for the state, with what is noted on the way. -/

def openingNote (patch : Patch) : Log.Entry :=
  Log.info s!"Applying {patch.kind.label} patch to {patch.target}"

def sizeNote (patch : Patch) (before : String) : Log.Entry :=
  Log.debug s!"Read {lineCount before} lines from {patch.target}"

/-- The warning that the patch found nothing to do. -/
def idleWarning (patch : Patch) : Log.Entry :=
  Log.warn s!"No matching lines in {patch.target}; content left as is"

def dryNote (patch : Patch) : Log.Entry :=
  Log.info s!"Dry run: not writing {patch.target}"

/-- What is noted between the reading of the text and the choice whether to write. -/
def appliedNotes (patch : Patch) (before : String) (patched : Patched) : List Log.Entry :=
  sizeNote patch before :: (patched.notes ++ if patched.matchCount = 0 then [idleWarning patch] else [])

/-- The target as a run from the state reads it. -/
def readTarget (storage : Storage (StateM σ)) (patch : Patch) (state : σ) : Except Fault String × σ :=
  (storage.read patch.target).run (noteAll storage state [openingNote patch])

/-- What is left of a run when its patch was applied. -/
def finish (storage : Storage (StateM σ)) (dryRun : Bool) (patch : Patch) (before : String)
    (patched : Patched) : ExceptT Fault (StateM σ) Outcome := do
  if dryRun then storage.note (dryNote patch) else storage.write patch.target patched.content
  let outcome := outcomeOf patch before patched (!dryRun)
  storage.note (closingNote outcome)
  return outcome

variable {dryRun : Bool} {patch : Patch} {between : σ} {before : String} {patched : Patched} {fault : Fault}

theorem run_of_unread (read : readTarget storage patch state = (.error fault, after)) :
    (run storage dryRun patch).run state = (.error fault, after) :=
  (run_bind_of_ok (run_note (openingNote patch))).trans (run_bind_of_error read)

theorem run_of_unapplied (read : readTarget storage patch state = (.ok before, between))
    (applied : patch.apply before = .error fault) :
    (run storage dryRun patch).run state = (.error fault, noteAll storage between [sizeNote patch before]) := by
  refine (run_bind_of_ok (run_note (openingNote patch))).trans ((run_bind_of_ok read).trans ?_)
  refine (run_bind_of_ok (run_note (sizeNote patch before))).trans ?_
  rw [applied]
  exact run_bind_of_error (run_settled _)

theorem run_of_applied (read : readTarget storage patch state = (.ok before, between))
    (applied : patch.apply before = .ok patched) :
    (run storage dryRun patch).run state = (finish storage dryRun patch before patched).run
      (noteAll storage between (appliedNotes patch before patched)) := by
  refine (run_bind_of_ok (run_note (openingNote patch))).trans ((run_bind_of_ok read).trans ?_)
  refine (run_bind_of_ok (run_note (sizeNote patch before))).trans ?_
  rw [applied, run_bind_of_ok (run_settled _), run_bind_of_ok (run_forM_note _), noteAll_noteAll,
    run_noteWhen, noteAll_noteAll]
  rfl

theorem finish_dry : (finish storage true patch before patched).run state =
    (.ok (outcomeOf patch before patched false),
      noteAll storage state [dryNote patch, closingNote (outcomeOf patch before patched false)]) :=
  (run_bind_of_ok (run_note (dryNote patch))).trans (run_bind_of_ok (run_note _))

theorem finish_refused
    (refused : (storage.write patch.target patched.content).run state = (.error fault, after)) :
    (finish storage false patch before patched).run state = (.error fault, after) :=
  run_bind_of_error refused

theorem finish_written
    (wrote : (storage.write patch.target patched.content).run state = (.ok (), after)) :
    (finish storage false patch before patched).run state =
      (.ok (outcomeOf patch before patched true),
        noteAll storage after [closingNote (outcomeOf patch before patched true)]) :=
  (run_bind_of_ok wrote).trans (run_bind_of_ok (run_note _))

theorem eq_outcomeOf_of_finish {outcome : Outcome}
    (finished : ((finish storage dryRun patch before patched).run state).1 = .ok outcome) :
    outcome = outcomeOf patch before patched (!dryRun) := by
  cases dryRun with
  | true =>
    rw [finish_dry] at finished
    exact (Except.ok.inj finished).symm
  | false =>
    rcases wrote : (storage.write patch.target patched.content).run state with ⟨fault | _, final⟩
    · rw [finish_refused wrote] at finished
      cases finished
    · rw [finish_written wrote] at finished
      exact (Except.ok.inj finished).symm

/-! ## The five ends of a run -/

/-- How a run from a state can end: with a result, in another state. -/
inductive Ran (storage : Storage (StateM σ)) (dryRun : Bool) (patch : Patch) (state : σ) :
    Except Fault Outcome → σ → Prop where
  | unread {opening fault after}
      (read : (storage.read patch.target).run (noteAll storage state opening) = (.error fault, after)) :
      Ran storage dryRun patch state (.error fault) after
  | unapplied {opening before after fault} (notes : List Log.Entry)
      (read : (storage.read patch.target).run (noteAll storage state opening) = (.ok before, after))
      (applied : patch.apply before = .error fault) :
      Ran storage dryRun patch state (.error fault) (noteAll storage after notes)
  | previewed {opening before after patched} (notes : List Log.Entry) (dry : dryRun = true)
      (read : (storage.read patch.target).run (noteAll storage state opening) = (.ok before, after))
      (applied : patch.apply before = .ok patched) :
      Ran storage dryRun patch state (.ok (outcomeOf patch before patched false))
        (noteAll storage after notes)
  | unwritten {opening before between patched notes fault after} (real : dryRun = false)
      (read : (storage.read patch.target).run (noteAll storage state opening) = (.ok before, between))
      (applied : patch.apply before = .ok patched)
      (wrote : (storage.write patch.target patched.content).run (noteAll storage between notes) =
        (.error fault, after)) :
      Ran storage dryRun patch state (.error fault) after
  | written {opening before between patched notes after} (closing : List Log.Entry)
      (real : dryRun = false)
      (read : (storage.read patch.target).run (noteAll storage state opening) = (.ok before, between))
      (applied : patch.apply before = .ok patched)
      (wrote : (storage.write patch.target patched.content).run (noteAll storage between notes) =
        (.ok (), after)) :
      Ran storage dryRun patch state (.ok (outcomeOf patch before patched true))
        (noteAll storage after closing)

theorem ran_run (storage : Storage (StateM σ)) (dryRun : Bool) (patch : Patch) (state : σ) :
    Ran storage dryRun patch state ((run storage dryRun patch).run state).1
      ((run storage dryRun patch).run state).2 := by
  rcases read : readTarget storage patch state with ⟨fault | before, between⟩
  · rw [run_of_unread read]
    exact .unread read
  cases applied : patch.apply before with
  | error fault =>
    rw [run_of_unapplied read applied]
    exact .unapplied _ read applied
  | ok patched =>
    rw [run_of_applied read applied]
    cases dryRun with
    | true =>
      rw [finish_dry, noteAll_noteAll]
      exact .previewed _ rfl read applied
    | false =>
      rcases wrote : (storage.write patch.target patched.content).run
        (noteAll storage between (appliedNotes patch before patched)) with ⟨fault | _, final⟩
      · rw [finish_refused wrote]
        exact .unwritten rfl read applied wrote
      · rw [finish_written wrote]
        exact .written _ rfl read applied wrote

end Patchwork.Engine
