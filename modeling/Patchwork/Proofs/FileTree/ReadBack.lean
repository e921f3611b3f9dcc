import Patchwork.Proofs.Engine.Machine
import Patchwork.Proofs.FileTree.Rewrite

/-!
# What a write leaves behind

A write that succeeds puts one file where its path leads and changes nothing else. The file may be a new one, and
then paths that led nowhere lead to it now, but a path that led somewhere still leads there. So the text is read
back under every path that leads to the file.
-/

set_option autoImplicit false

namespace Patchwork

namespace FileTree

variable {tree after : FileTree} {path content : String} {location here next parent : Location}
  {name last : String} {obstacle : Obstacle}

/-! ## Paths that led somewhere -/

private theorem step_withFile_of_ok (nonempty : location ≠ []) (stepped : tree.step here name = .ok next) :
    (tree.withFile location content).step here name = .ok next := by
  unfold step at stepped ⊢
  split at stepped
  · next dot => rw [if_pos dot]; exact stepped
  next notDot =>
  split at stepped
  · next dots => rw [if_neg notDot, if_pos dots]; exact stepped
  next notDots =>
  split at stepped
  · cases stepped
  next short =>
  rw [if_neg notDot, if_neg notDots, if_neg short, entry?_withFile nonempty]
  by_cases there : location = here ++ [name]
  · rw [if_pos there]
    split at stepped
    · exact stepped
    · cases stepped
  · rw [if_neg there]
    exact stepped

theorem follow_withFile_of_ok (nonempty : location ≠ [])
    (notDirectory : tree.entry? location ≠ some .directory) {names : List String}
    (followed : tree.follow here names = .ok next) :
    (tree.withFile location content).follow here names = .ok next := by
  induction names generalizing here with
  | nil => exact followed
  | cons name rest inductionHypothesis =>
    rw [follow] at followed ⊢
    rw [isDirectory_withFile nonempty notDirectory]
    split at followed
    · next inDirectory =>
      rw [if_pos inDirectory]
      cases stepped : tree.step here name with
      | error obstacle => rw [stepped] at followed; cases followed
      | ok further =>
        rw [stepped] at followed
        rw [step_withFile_of_ok nonempty stepped]
        exact inductionHypothesis followed
    · cases followed

private theorem locate_withFile_of_ok (nonempty : location ≠ [])
    (notDirectory : tree.entry? location ≠ some .directory) (located : tree.locate path = .ok next) :
    (tree.withFile location content).locate path = .ok next := by
  unfold locate at located ⊢
  cases accepted : checkPath path with
  | error obstacle => rw [accepted] at located; cases located
  | ok _ =>
    rw [accepted] at located
    exact follow_withFile_of_ok nonempty notDirectory located

/-- A write that could go to a place can still go there when a file was put somewhere. -/
private theorem WritesTo.withFile (writes : tree.WritesTo path parent last) (nonempty : location ≠ [])
    (notDirectory : tree.entry? location ≠ some .directory) :
    (tree.withFile location content).WritesTo path parent last where
  accepted := writes.accepted
  names := writes.names
  followed := follow_withFile_of_ok nonempty notDirectory writes.followed
  inDirectory := (isDirectory_withFile nonempty notDirectory parent).trans writes.inDirectory
  notDot := writes.notDot
  notDots := writes.notDots
  noSlash := writes.noSlash
  short := writes.short
  notDirectory := by
    rw [entry?_withFile nonempty]
    split
    · simp
    · exact writes.notDirectory

private theorem WritesTo.locate_withFile (writes : tree.WritesTo path parent last) :
    (tree.withFile (parent ++ [last]) content).locate path = .ok (parent ++ [last]) := by
  have nonempty : parent ++ [last] ≠ [] := by simp
  rw [(writes.withFile nonempty writes.notDirectory).locate_eq, entry?_withFile nonempty, if_pos rfl]

/-! ## Writing -/

/-- The tree after a write that put its text at the location. The bytes of the text stand there and everything
else is as it was. A path that led somewhere still leads there, and every path under which the text could have been
written leads to the text. -/
structure Wrote (tree after : FileTree) (path content : String) (location : Location) : Prop where
  reached : tree.destination path = .ok location
  holds : after.entry? location = some (.file content.toUTF8)
  elsewhere : ∀ other, other ≠ location → after.entry? other = tree.entry? other
  directories : ∀ other, after.isDirectory other = tree.isDirectory other
  start : after.workingDirectory = tree.workingDirectory
  stays : ∀ other place, tree.locate other = .ok place → after.locate other = .ok place
  leads : ∀ other, tree.destination other = .ok location → after.locate other = .ok location

theorem wrote_of_write (written : tree.write path content = .ok after) :
    ∃ location, tree.Wrote after path content location := by
  unfold write at written
  cases reached : tree.destination path with
  | error obstacle => rw [reached] at written; cases written
  | ok location =>
    rw [reached] at written
    obtain rfl : tree.withFile location content = after := Except.ok.inj written
    obtain ⟨parent, last, writes, rfl⟩ := writesTo_of_destination reached
    have nonempty : parent ++ [last] ≠ [] := by simp
    refine ⟨parent ++ [last], reached, ?_, ?_, isDirectory_withFile nonempty writes.notDirectory, rfl,
      fun other place => locate_withFile_of_ok nonempty writes.notDirectory, ?_⟩
    · rw [entry?_withFile nonempty, if_pos rfl]
    · intro other elsewhere
      rw [entry?_withFile nonempty, if_neg elsewhere.symm]
    · intro other reachedToo
      obtain ⟨otherParent, otherLast, writesToo, samePlace⟩ := writesTo_of_destination reachedToo
      rw [samePlace]
      exact writesToo.locate_withFile

private theorem destination_of_write_eq_error (refused : tree.write path content = .error obstacle) :
    tree.destination path = .error obstacle := by
  unfold write at refused
  cases reached : tree.destination path with
  | error other => rw [reached] at refused; exact congrArg Except.error (Except.error.inj refused)
  | ok location => rw [reached] at refused; cases refused

private theorem Wrote.read_eq {other : String} (wrote : tree.Wrote after path content location)
    (leads : after.locate other = .ok location) : after.read other = .ok content := by
  rw [read_of_locate leads, wrote.holds, contentOf_toUTF8]

/-! ## Texts that are none -/

private theorem checkPath_ne_notText (path : String) : checkPath path ≠ .error .notText := by
  unfold checkPath
  repeat' split
  all_goals simp

private theorem step_ne_notText (tree : FileTree) (here : Location) (name : String) :
    tree.step here name ≠ .error .notText := by
  unfold step
  repeat' split
  all_goals simp

private theorem follow_ne_notText (tree : FileTree) (here : Location) (names : List String) :
    tree.follow here names ≠ .error .notText := by
  induction names generalizing here with
  | nil => simp [follow]
  | cons name rest inductionHypothesis =>
    rw [follow]
    split
    · cases stepped : tree.step here name with
      | error obstacle =>
        intro same
        exact step_ne_notText tree here name (stepped.trans same)
      | ok next => exact inductionHypothesis next
    · simp

private theorem locate_ne_notText (tree : FileTree) (path : String) : tree.locate path ≠ .error .notText := by
  unfold locate
  cases accepted : checkPath path with
  | error obstacle =>
    intro same
    exact checkPath_ne_notText path (accepted.trans (congrArg Except.error (Except.error.inj same)))
  | ok _ => exact follow_ne_notText tree (tree.start path) (namesToRead path)

private theorem contentOf_eq_notText_iff {entry : Option Entry} :
    contentOf entry = .error .notText ↔ ∃ bytes, entry = some (.file bytes) ∧ ¬ bytes.IsValidUTF8 := by
  cases entry with
  | none => simp [contentOf]
  | some entry =>
    cases entry with
    | directory => simp [contentOf]
    | file bytes =>
      by_cases valid : bytes.IsValidUTF8
      · simp [contentOf, String.fromUTF8?, valid]
      · simp [contentOf, String.fromUTF8?, valid]

theorem read_eq_notText_iff (tree : FileTree) (path : String) :
    tree.read path = .error .notText ↔ ∃ location bytes, tree.locate path = .ok location ∧
      tree.entry? location = some (.file bytes) ∧ ¬ bytes.IsValidUTF8 := by
  cases located : tree.locate path with
  | error obstacle =>
    have otherwise : obstacle ≠ .notText := by
      rintro rfl
      exact locate_ne_notText tree path located
    simp [read_eq, located, otherwise, bind, Except.bind]
  | ok location =>
    rw [read_of_locate located, contentOf_eq_notText_iff]
    simp

end FileTree

/-! ## The storage over a tree -/

namespace Machine

theorem read_storage_eq (setup : Log.Setup) (base path : String) (machine : Machine) :
    (((host.storage setup base).read path).run machine).1 =
        answer (machine.tree.read (Path.join base path)) ∧
      (((host.storage setup base).read path).run machine).2.tree = machine.tree := by
  obtain ⟨after, logged, ran⟩ := run_read_storage setup base path machine
  rw [ran]
  exact ⟨rfl, logged.tree_eq⟩

variable {setup : Log.Setup} {base path content : String} {machine after : Machine}
  {result : Except Fault Unit}

theorem of_write_storage (ran : ((host.storage setup base).write path content).run machine = (result, after)) :
    (∃ obstacle, machine.tree.write (Path.join base path) content = .error obstacle ∧
        result = .error obstacle.fault ∧ after.tree = machine.tree) ∨
      machine.tree.write (Path.join base path) content = .ok after.tree ∧ result = .ok () := by
  obtain ⟨logged, onlyLogged, wrote⟩ := run_write_storage setup base path content machine
  rw [wrote] at ran
  cases written : machine.tree.write (Path.join base path) content with
  | error obstacle =>
    rw [written] at ran
    obtain ⟨rfl, rfl⟩ := Prod.mk.inj ran
    exact .inl ⟨obstacle, rfl, rfl, onlyLogged.tree_eq⟩
  | ok tree =>
    rw [written] at ran
    obtain ⟨rfl, rfl⟩ := Prod.mk.inj ran
    exact .inr ⟨rfl, rfl⟩

/-- A text that was written is read back, whatever the spelling of the path. -/
theorem read_back {location : FileTree.Location}
    (wrote : machine.tree.Wrote after.tree (Path.join base path) content location)
    (otherSetup : Log.Setup) (otherBase otherPath : String)
    (names : after.tree.SameFile (Path.join base path) (Path.join otherBase otherPath) ∨
      machine.tree.destination (Path.join otherBase otherPath) = .ok location) :
    (((host.storage otherSetup otherBase).read otherPath).run after).1 = .ok content := by
  have leads : after.tree.locate (Path.join otherBase otherPath) = .ok location := by
    rcases names with ⟨place, pathThere, otherThere⟩ | reached
    · rw [wrote.leads _ wrote.reached] at pathThere
      rw [otherThere, ← pathThere]
    · exact wrote.leads _ reached
  rw [(read_storage_eq otherSetup otherBase otherPath after).1, wrote.read_eq leads]
  rfl

private theorem answer_eq_notText_iff {α : Type} {found : Except FileTree.Obstacle α} :
    (∃ account, answer found = .error (.storage .notText account)) ↔ found = .error .notText := by
  cases found with
  | ok value => simp [answer]
  | error obstacle => cases obstacle <;> simp [answer, FileTree.Obstacle.fault, FileTree.Obstacle.why]

/-- A write through a storage fails with the fault of the obstacle on the way to its destination and leaves the
tree, or it leaves a tree that differs in one file, which has the bytes of the text, and every path that leads to
the file, or under which it could have been written, reads the text back. A read leaves the tree, and it fails for
want of a text exactly when its path leads to a file whose bytes are no UTF-8. -/
theorem storage_writes_exactly (setup : Log.Setup) (base path content : String) (machine : Machine) :
    let full := Path.join base path
    let wrote := ((host.storage setup base).write path content).run machine
    let looked := ((host.storage setup base).read path).run machine
    ((∃ obstacle, machine.tree.destination full = .error obstacle ∧
        wrote.1 = .error (.storage obstacle.why obstacle.text) ∧ wrote.2.tree = machine.tree) ∨
      wrote.1 = .ok () ∧ ∃ location, machine.tree.Wrote wrote.2.tree full content location ∧
        ∀ otherSetup otherBase otherPath,
          wrote.2.tree.SameFile full (Path.join otherBase otherPath) ∨
              machine.tree.destination (Path.join otherBase otherPath) = .ok location →
            (((host.storage otherSetup otherBase).read otherPath).run wrote.2).1 = .ok content) ∧
      looked.2.tree = machine.tree ∧
      ((∃ account, looked.1 = .error (.storage .notText account)) ↔
        ∃ location bytes, machine.tree.locate full = .ok location ∧
          machine.tree.entry? location = some (.file bytes) ∧ ¬ bytes.IsValidUTF8) := by
  refine ⟨?_, (read_storage_eq setup base path machine).2, ?_⟩
  · generalize ran : ((host.storage setup base).write path content).run machine = wrote
    obtain ⟨result, after⟩ := wrote
    rcases of_write_storage ran with ⟨obstacle, refused, failed, same⟩ | ⟨written, succeeded⟩
    · exact .inl ⟨obstacle, FileTree.destination_of_write_eq_error refused, failed, same⟩
    · obtain ⟨location, wrote⟩ := FileTree.wrote_of_write written
      exact .inr ⟨succeeded, location, wrote, read_back wrote⟩
  · rw [(read_storage_eq setup base path machine).1, answer_eq_notText_iff]
    exact FileTree.read_eq_notText_iff machine.tree (Path.join base path)

example :
    let tree : FileTree := ⟨[(["w"], .directory), (["w", "sub"], .directory)], ["w"]⟩
    let readAt (after : FileTree) (path : String) := (after.read path).toOption
    ((tree.write "new" "é").toOption.map fun after =>
        (readAt after "sub/..//new", readAt after "/w/./new", readAt after "new/")) =
      some (some "é", some "é", none) := by
  decide +kernel

end Machine

end Patchwork
