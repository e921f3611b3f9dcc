import Patchwork.Patch
import Patchwork.Text.Blank
import Patchwork.Text.Line
import Patchwork.Text.Occurrence

/-!
# Removing a duplicated block and stray `else:` lines

The patch reads a text line by line and judges each line. A line is past the threshold when its index,
counted from 0, is greater than the threshold.

* A line that is `else:` between blanks is stray when a line past the threshold held the permission
  marker and no `else:` line has been taken for it yet.
* A line past the threshold that holds the duplicate marker opens a block, and the next line that holds
  it closes the block. Everything from the one to the other is duplicated. A block that is never closed
  goes on to the end of the text.

Stray and duplicated lines are dropped, and all others are kept as they are.
-/

set_option autoImplicit false

namespace Patchwork

/-- What marks the lines that a build script should not have twice. -/
structure DuplicateRemoval where
  target : String
  threshold : Nat
  permissionMarker : String
  duplicateMarker : String
  deriving DecidableEq, Repr

namespace DuplicateRemoval

def defaultTarget : String := "build.py"

def defaultThreshold : Nat := 630

def defaultPermissionMarker : String := "确保所有的脚本都有执行权限"

def defaultDuplicateMarker : String := "cp -a DEBIAN/* tmpdeb/DEBIAN/"

/-- What becomes of a line. -/
inductive Verdict where
  | kept
  /-- An `else:` that a permission marker left without its `if`. -/
  | strayElse
  /-- The first line of a duplicated block. -/
  | opensBlock
  /-- A line between the two ends of a duplicated block. -/
  | inBlock
  /-- The last line of a duplicated block. -/
  | closesBlock
  deriving DecidableEq, Repr

/-- What has to be remembered from one line to the next. -/
structure Progress where
  /-- The next `else:` line is stray. -/
  awaitsElse : Bool
  /-- The lines stand in a duplicated block. -/
  blockOpen : Bool
  deriving DecidableEq, Repr

def Progress.start : Progress := ⟨false, false⟩

/-- The line is `else:`, blanks aside. -/
def isElse (line : List Char) : Bool :=
  Text.trim line = ['e', 'l', 's', 'e', ':']

def marksPermission (patch : DuplicateRemoval) (line : List Char) : Bool :=
  Text.contains line patch.permissionMarker.toList

def marksDuplicate (patch : DuplicateRemoval) (line : List Char) : Bool :=
  Text.contains line patch.duplicateMarker.toList

/-- Judges the line with the given index. A stray `else:` is judged by nothing else, so a marker in it
has no effect. -/
def judgeLine (patch : DuplicateRemoval) (index : Nat) (progress : Progress) (line : List Char) :
    Verdict × Progress :=
  if progress.awaitsElse && isElse line then
    (.strayElse, { progress with awaitsElse := false })
  else
    let past : Bool := patch.threshold < index
    let awaitsElse := progress.awaitsElse || (past && patch.marksPermission line)
    if progress.blockOpen then
      if patch.marksDuplicate line then (.closesBlock, ⟨awaitsElse, false⟩)
      else (.inBlock, ⟨awaitsElse, true⟩)
    else if past && patch.marksDuplicate line then (.opensBlock, ⟨awaitsElse, true⟩)
    else (.kept, ⟨awaitsElse, false⟩)

/-- Judges lines of which the first has the given index. The last component is the progress after them. -/
def judgeFrom (patch : DuplicateRemoval) (index : Nat) (progress : Progress) :
    List (List Char) → List (Verdict × List Char) × Progress
  | [] => ([], progress)
  | line :: rest =>
    let (verdict, next) := patch.judgeLine index progress line
    let (judged, final) := patch.judgeFrom (index + 1) next rest
    ((verdict, line) :: judged, final)

def judge (patch : DuplicateRemoval) (content : List Char) : List (Verdict × List Char) × Progress :=
  patch.judgeFrom 0 .start (Text.lines content)

def keptLines (judged : List (Verdict × List Char)) : List (List Char) :=
  (judged.filter fun line => line.1 = .kept).map Prod.snd

def droppedCount (judged : List (Verdict × List Char)) : Nat :=
  judged.countP fun line => line.1 ≠ .kept

/-- What is noted about the line with the given number, counted from 1. -/
def Verdict.note? (verdict : Verdict) (number : Nat) : Option Log.Entry :=
  match verdict with
  | .strayElse => some (Log.debug s!"Dropping stray else at line {number}")
  | .opensBlock => some (Log.debug s!"Duplicate block starts at line {number}")
  | .closesBlock => some (Log.debug s!"Duplicate block ends at line {number}")
  | .kept => none
  | .inBlock => none

/-- The notes about all lines, and a warning about a block that was never closed. -/
def notes (judged : List (Verdict × List Char)) (final : Progress) : List Log.Entry :=
  (judged.zipIdx 1).filterMap (fun line => line.1.1.note? line.2) ++
    if final.blockOpen then
      [Log.warn "Duplicate block was never closed; dropped everything to end of file"]
    else []

/-- Drops the stray and the duplicated lines and counts them. -/
def apply (patch : DuplicateRemoval) (content : String) : Patched :=
  let (judged, final) := patch.judge content.toList
  { content := String.ofList (keptLines judged).flatten
    matchCount := droppedCount judged
    notes := notes judged final }

def toPatch (patch : DuplicateRemoval) : Patch where
  kind := .buildFix
  target := patch.target
  apply content := .ok (patch.apply content)

end DuplicateRemoval

end Patchwork
