import Patchwork.FileTree

/-!
# Rewriting a file

A write to a path that could be read puts the new text into the file that was there. It makes no directory
and no new entry, so every path leads where it led before, and only the paths that lead to this file have
another text.
-/

set_option autoImplicit false

namespace Patchwork.FileTree

variable {tree after : FileTree} {path content text : String} {location : Location}

/-! ## Where a read leads -/

/-- The location that a read of a path looks at. -/
def locate (tree : FileTree) (path : String) : Except Obstacle Location := do
  checkPath path
  tree.follow (tree.start path) (namesToRead path)

/-- What a read makes of the entry that it looks at. -/
def contentOf : Option Entry → Except Obstacle String
  | some (.file bytes) =>
    match String.fromUTF8? bytes with
    | some text => .ok text
    | none => .error .notText
  | some .directory => .error .isADirectory
  | none => .error .noSuchFile

/-- Both paths lead to one place. -/
def SameFile (tree : FileTree) (path other : String) : Prop :=
  ∃ location, tree.locate path = .ok location ∧ tree.locate other = .ok location

theorem read_eq (tree : FileTree) (path : String) :
    tree.read path = tree.locate path >>= fun location => contentOf (tree.entry? location) := by
  rw [read, readBytes, locate]
  cases checkPath path with
  | error obstacle => rfl
  | ok accepted =>
    cases followed : tree.follow (tree.start path) (namesToRead path) with
    | error obstacle => rfl
    | ok location =>
      simp only [bind, Except.bind]
      cases tree.entry? location with
      | none => rfl
      | some entry => cases entry <;> rfl

theorem read_of_locate (located : tree.locate path = .ok location) :
    tree.read path = contentOf (tree.entry? location) := by
  rw [read_eq, located]
  rfl

theorem SameFile.read_eq {other : String} (same : tree.SameFile path other) :
    tree.read path = tree.read other := by
  obtain ⟨location, pathThere, otherThere⟩ := same
  rw [read_of_locate pathThere, read_of_locate otherThere]

theorem locate_of_read (read : tree.read path = .ok text) :
    ∃ location, tree.locate path = .ok location ∧ contentOf (tree.entry? location) = .ok text := by
  rw [read_eq] at read
  cases located : tree.locate path with
  | error obstacle => rw [located] at read; cases read
  | ok location =>
    rw [located] at read
    exact ⟨location, rfl, read⟩

theorem contentOf_toUTF8 (text : String) : contentOf (some (.file text.toUTF8)) = .ok text := by
  have decoded : String.fromUTF8? text.toUTF8 = some text := dif_pos text.isValidUTF8
  rw [contentOf, decoded]

private theorem exists_file_of_contentOf {entry : Option Entry} (holds : contentOf entry = .ok text) :
    ∃ bytes, entry = some (.file bytes) := by
  cases entry with
  | none => cases holds
  | some entry =>
    cases entry with
    | directory => cases holds
    | file bytes => exact ⟨bytes, rfl⟩

/-! ## Where a write leads -/

theorem follow_append (tree : FileTree) (here : Location) (names more : List String) :
    tree.follow here (names ++ more) =
      tree.follow here names >>= fun next => tree.follow next more := by
  induction names generalizing here with
  | nil => rfl
  | cons name rest inductionHypothesis =>
    rw [List.cons_append, follow, follow]
    split
    · cases tree.step here name with
      | error obstacle => rfl
      | ok next => exact inductionHypothesis next
    · rfl

/-- What has to hold of a path for a write to go to the name `last` in the directory `parent`. -/
structure WritesTo (tree : FileTree) (path : String) (parent : Location) (last : String) : Prop where
  accepted : checkPath path = .ok ()
  names : Path.names path = (Path.names path).dropLast ++ [last]
  followed : tree.follow (tree.start path) (Path.names path).dropLast = .ok parent
  inDirectory : tree.isDirectory parent = true
  notDot : last ≠ "."
  notDots : last ≠ ".."
  noSlash : Path.endsInSlash path.toList = false
  short : ¬ nameLimit < last.utf8ByteSize
  notDirectory : tree.entry? (parent ++ [last]) ≠ some .directory

theorem writesTo_of_destination (reached : tree.destination path = .ok location) :
    ∃ parent last, tree.WritesTo path parent last ∧ location = parent ++ [last] := by
  unfold destination at reached
  cases accepted : checkPath path with
  | error obstacle => rw [accepted] at reached; cases reached
  | ok _ =>
    rw [accepted] at reached
    cases isLast : (Path.names path).getLast? with
    | none => rw [isLast] at reached; cases reached
    | some last =>
      have names : Path.names path = (Path.names path).dropLast ++ [last] := by
        obtain ⟨front, shape⟩ := List.getLast?_eq_some_iff.1 isLast
        rw [shape, List.dropLast_concat]
      cases followed : tree.follow (tree.start path) (Path.names path).dropLast with
      | error obstacle =>
        simp only [isLast, followed, bind, Except.bind] at reached
        cases reached
      | ok parent =>
        simp only [isLast, followed, bind, Except.bind] at reached
        split at reached
        · cases reached
        · next inDirectory =>
          split at reached
          · cases reached
          · next plain =>
            split at reached
            · cases reached
            · next short =>
              simp only [Bool.or_eq_true, decide_eq_true_eq, not_or, Bool.not_eq_true] at plain
              split at reached
              · cases reached
              · next notDirectory =>
                refine ⟨parent, last, ⟨accepted, names, followed, by simpa using inDirectory, plain.1.1,
                  plain.1.2, plain.2, short, notDirectory⟩, ?_⟩
                exact (Except.ok.inj reached).symm

theorem WritesTo.locate_eq {parent : Location} {last : String} (writes : tree.WritesTo path parent last) :
    tree.locate path =
      match tree.entry? (parent ++ [last]) with
      | some _ => .ok (parent ++ [last])
      | none => .error .noSuchFile := by
  have noDots : namesToRead path = (Path.names path).dropLast ++ [last] := by
    rw [namesToRead, writes.noSlash, ← writes.names]
    simp
  rw [locate, writes.accepted, noDots, follow_append, writes.followed]
  simp only [bind, Except.bind, follow, writes.inDirectory, if_true, step, writes.notDot, writes.notDots,
    writes.short, if_false]
  cases tree.entry? (parent ++ [last]) <;> rfl

/-! ## What a write changes -/

/-- The tree with a file put at a location. -/
def withFile (tree : FileTree) (location : Location) (content : String) : FileTree :=
  { tree with entries := tree.entries.put location (.file content.toUTF8) }

private theorem eq_withFile_of_write (wrote : tree.write path content = .ok after) :
    ∃ parent last, tree.WritesTo path parent last ∧ after = tree.withFile (parent ++ [last]) content := by
  unfold write at wrote
  cases reached : tree.destination path with
  | error obstacle => rw [reached] at wrote; cases wrote
  | ok location =>
    rw [reached] at wrote
    obtain ⟨parent, last, writes, rfl⟩ := writesTo_of_destination reached
    exact ⟨parent, last, writes, (Except.ok.inj wrote).symm⟩

theorem entry?_withFile (nonempty : location ≠ []) (other : Location) :
    FileTree.entry? (tree.withFile location content) other =
      if location = other then some (.file content.toUTF8) else tree.entry? other := by
  unfold entry? withFile
  by_cases isRoot : other = []
  · have elsewhere : location ≠ other := isRoot ▸ nonempty
    rw [if_pos isRoot, if_neg elsewhere, if_pos isRoot]
  · rw [if_neg isRoot, if_neg isRoot, Catalog.get?_put]

/-- A file in place of another one, or of nothing, makes and unmakes no directory. -/
theorem isDirectory_withFile (nonempty : location ≠ [])
    (notDirectory : tree.entry? location ≠ some .directory) (other : Location) :
    (tree.withFile location content).isDirectory other = tree.isDirectory other := by
  unfold isDirectory
  rw [entry?_withFile nonempty]
  by_cases here : location = other
  · subst here
    rw [if_pos rfl]
    cases entry : tree.entry? location with
    | none => rfl
    | some present =>
      cases present with
      | directory => exact absurd entry notDirectory
      | file bytes => rfl
  · rw [if_neg here]

section Rewritten

variable {bytes : ByteArray} (nonempty : location ≠ [])
  (wasFile : tree.entry? location = some (.file bytes))

include nonempty wasFile

private theorem step_withFile (here : Location) (name : String) :
    (tree.withFile location content).step here name = tree.step here name := by
  unfold step
  rw [entry?_withFile nonempty]
  split
  · rfl
  split
  · rfl
  split
  · rfl
  by_cases there : location = here ++ [name]
  · rw [if_pos there, ← there, wasFile]
  · rw [if_neg there]

private theorem follow_withFile (here : Location) (names : List String) :
    (tree.withFile location content).follow here names = tree.follow here names := by
  induction names generalizing here with
  | nil => rfl
  | cons name rest inductionHypothesis =>
    rw [follow, follow, isDirectory_withFile nonempty (by simp [wasFile]), step_withFile nonempty wasFile]
    split
    · cases tree.step here name with
      | error obstacle => rfl
      | ok next => exact inductionHypothesis next
    · rfl

theorem locate_withFile (other : String) :
    (tree.withFile location content).locate other = tree.locate other := by
  rw [locate, locate]
  cases checkPath other with
  | error obstacle => rfl
  | ok accepted => exact follow_withFile nonempty wasFile _ _

end Rewritten

/-- A write to a path that could be read puts the new text where the path leads. -/
theorem eq_withFile_of_write_of_read (held : tree.read path = .ok text)
    (wrote : tree.write path content = .ok after) :
    ∃ location bytes, tree.locate path = .ok location ∧ location ≠ [] ∧
      tree.entry? location = some (.file bytes) ∧ after = tree.withFile location content := by
  obtain ⟨parent, last, writes, rfl⟩ := eq_withFile_of_write wrote
  obtain ⟨location, located, holds⟩ := locate_of_read held
  obtain ⟨bytes, wasFile⟩ := exists_file_of_contentOf holds
  have atLocation : parent ++ [last] = location := by
    have same := writes.locate_eq
    rw [located] at same
    split at same
    · exact (Except.ok.inj same).symm
    · cases same
  subst atLocation
  exact ⟨parent ++ [last], bytes, located, by simp, wasFile, rfl⟩

/-- A write to a path that could be read moves no path, and gives the new text to exactly the paths that lead
to the same file. -/
theorem of_write_of_read (held : tree.read path = .ok text) (wrote : tree.write path content = .ok after) :
    (∀ other, after.locate other = tree.locate other) ∧
      (∀ other, tree.SameFile path other → after.read other = .ok content) ∧
      ∀ other, ¬ tree.SameFile path other → after.read other = tree.read other := by
  obtain ⟨location, bytes, located, nonempty, wasFile, rfl⟩ := eq_withFile_of_write_of_read held wrote
  have unmoved : ∀ other, (tree.withFile location content).locate other = tree.locate other :=
    locate_withFile nonempty wasFile
  refine ⟨unmoved, ?_, ?_⟩
  · rintro other ⟨place, pathThere, otherThere⟩
    obtain rfl : location = place := Except.ok.inj (located.symm.trans pathThere)
    rw [read_of_locate ((unmoved other).trans otherThere), entry?_withFile nonempty, if_pos rfl,
      contentOf_toUTF8]
  · intro other different
    rw [read_eq, read_eq, unmoved other]
    cases otherLocated : tree.locate other with
    | error obstacle => rfl
    | ok place =>
      have elsewhere : location ≠ place :=
        fun same => different ⟨place, same ▸ located, otherLocated⟩
      change contentOf _ = contentOf _
      rw [entry?_withFile nonempty, if_neg elsewhere]

end Patchwork.FileTree
