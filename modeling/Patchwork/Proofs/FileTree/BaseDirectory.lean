import Patchwork.Proofs.FileTree.ReadBack

/-!
# Base directories

A relative path below a base directory is looked up as a program that works in that directory looks it up: the
names of the base are followed first, and the names of the path from the place where they led. So the storage
below a base reads and writes what the bare path reads and writes from there.
-/

set_option autoImplicit false

namespace Patchwork

namespace FileTree

variable {tree : FileTree} {base path : String} {here : Location}

/-- The tree of a program that works in another directory. -/
def workingIn (tree : FileTree) (here : Location) : FileTree :=
  { tree with workingDirectory := here }

theorem follow_workingIn (tree : FileTree) (here there : Location) (names : List String) :
    (tree.workingIn here).follow there names = tree.follow there names := by
  induction names generalizing there with
  | nil => rfl
  | cons name rest inductionHypothesis =>
    rw [follow, follow]
    simp only [inductionHypothesis]
    rfl

/-- The path can be looked up from the place where its base leads: it is a relative path, and joined to the base
it is one that system calls accept. -/
structure Below (tree : FileTree) (base path : String) (here : Location) : Prop where
  relative : Path.isAbsolute path.toList = false
  nonempty : path ≠ ""
  accepted : checkPath (Path.join base path) = .ok ()
  leads : tree.follow (tree.start base) (Path.names base) = .ok here

private theorem checkPath_of_append {front : String} (nonempty : path ≠ "")
    (accepted : checkPath (front ++ path) = .ok ()) : checkPath path = .ok () := by
  unfold checkPath at accepted ⊢
  split at accepted
  · cases accepted
  next noNul =>
  split at accepted
  · cases accepted
  split at accepted
  · cases accepted
  next short =>
  rw [String.toList_append, List.mem_append, not_or] at noNul
  rw [String.utf8ByteSize_append] at short
  rw [if_neg noNul.2, if_neg (by simpa using nonempty), if_neg (by omega)]

namespace Below

variable (below : tree.Below base path here)

include below

theorem checkPath_eq : checkPath path = .ok () := by
  obtain ⟨front, joined⟩ := Path.exists_join_eq_append base path
  have accepted := below.accepted
  rw [joined] at accepted
  exact checkPath_of_append below.nonempty accepted

private theorem start_join : tree.start (Path.join base path) = tree.start base := by
  rw [start, start, Path.isAbsolute_join below.relative]

private theorem start_workingIn : (tree.workingIn here).start path = here := by
  rw [start, below.relative]
  rfl

theorem follow_join (names : List String) :
    tree.follow (tree.start (Path.join base path)) (Path.names base ++ names) =
      (tree.workingIn here).follow ((tree.workingIn here).start path) names := by
  rw [below.start_join, follow_append, below.leads, below.start_workingIn, follow_workingIn]
  rfl

theorem locate_join : tree.locate (Path.join base path) = (tree.workingIn here).locate path := by
  have names : namesToRead (Path.join base path) = Path.names base ++ namesToRead path := by
    rw [namesToRead, namesToRead, Path.names_join base below.relative, Path.endsInSlash_join below.nonempty,
      List.append_assoc]
  rw [locate, locate, below.accepted, below.checkPath_eq, names]
  exact below.follow_join _

theorem read_join : tree.read (Path.join base path) = (tree.workingIn here).read path := by
  rw [read_eq, read_eq, below.locate_join]
  rfl

theorem destination_join :
    tree.destination (Path.join base path) = (tree.workingIn here).destination path := by
  have named := Path.names_ne_nil below.relative below.nonempty
  unfold destination
  rw [below.accepted, below.checkPath_eq, Path.names_join base below.relative, Path.endsInSlash_join below.nonempty,
    List.getLast?_append_of_ne_nil _ named, List.dropLast_append_of_ne_nil named, below.follow_join]
  rfl

/-- The write from the base directory, seen from where the program works. -/
theorem write_join (content : String) :
    tree.write (Path.join base path) content =
      ((tree.workingIn here).write path content).map fun after => after.workingIn tree.workingDirectory := by
  rw [write, write, below.destination_join]
  cases (tree.workingIn here).destination path <;> rfl

end Below

end FileTree

/-- The storage below a base directory reads and writes what the bare path reads and writes for a program that
works where the base leads. -/
theorem Machine.storage_below (setup : Log.Setup) {base path : String} (content : String) {machine : Machine}
    {here : FileTree.Location} (below : machine.tree.Below base path here) :
    let there := machine.tree.workingIn here
    let looked := ((host.storage setup base).read path).run machine
    let wrote := ((host.storage setup base).write path content).run machine
    looked.1 = answer (there.read path) ∧
      (∀ obstacle, there.write path content = .error obstacle →
        wrote.1 = .error obstacle.fault ∧ wrote.2.tree = machine.tree) ∧
      ∀ after, there.write path content = .ok after →
        wrote.1 = .ok () ∧ wrote.2.tree = after.workingIn machine.tree.workingDirectory := by
  intro there looked wrote
  refine ⟨?_, ?_⟩
  · rw [← below.read_join]
    exact (read_storage_eq setup base path machine).1
  generalize ran : wrote = result
  obtain ⟨result, left⟩ := result
  have writes := below.write_join content
  rcases of_write_storage ran with ⟨obstacle, refused, failed, same⟩ | ⟨written, succeeded⟩
  · refine ⟨fun other refusedThere => ?_, fun after writtenThere => ?_⟩
    · rw [refusedThere] at writes
      obtain rfl := Except.error.inj (refused.symm.trans writes)
      exact ⟨failed, same⟩
    · rw [writtenThere] at writes
      cases refused.symm.trans writes
  · refine ⟨fun other refusedThere => ?_, fun after writtenThere => ?_⟩
    · rw [refusedThere] at writes
      cases written.symm.trans writes
    · rw [writtenThere] at writes
      exact ⟨succeeded, Except.ok.inj (written.symm.trans writes)⟩

end Patchwork
