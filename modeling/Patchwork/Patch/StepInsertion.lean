import Patchwork.Patch
import Patchwork.Patch.MarkerSearch
import Patchwork.Text.Blank
import Patchwork.Text.LineEnding
import Patchwork.Text.Scan

/-!
# Inserting a step before each marker

The patch looks for a marker with at least one blank before it. The blanks in front of a marker are its
lead: as many as there are, but the marker may itself begin with blanks, and then the lead is the longest
one after which the whole marker still stands. In front of the lead the patch puts a line ending and the
step; the lead and the marker stay as they are.

The inserted block ends its lines the way the lead begins: with carriage return and line feed when the
lead, read together with the marker, starts with that pair, and with line feeds otherwise.
-/

set_option autoImplicit false

namespace Patchwork

/-- A step to put in front of each occurrence of a marker. -/
structure StepInsertion where
  target : String
  marker : String
  step : String
  deriving DecidableEq, Repr

namespace StepInsertion

open Text (isBlank Look)

def defaultTarget : String := ".github/workflows/flutter-build.yml"

def defaultMarker : String := "- uses: rustdesk-org/run-on-arch-action@amd64-support"

def defaultStep : String :=
  "      - name: Fix permissions for run-on-arch\n" ++
  "        run: |\n" ++
  "          chmod +x .github/set-permissions.sh\n" ++
  "          .github/set-permissions.sh\n"

/-- The insertion with the given parts, unless the search does not take the marker. -/
def make [MarkerSearch] (target marker step : String) : Except Fault StepInsertion :=
  if MarkerSearch.accepts marker then .ok ⟨target, marker, step⟩
  else .error (Fault.patternTooBig MarkerSearch.patternLimit)

/-- Passes over the blanks of a text that starts after `passed` blanks and one more. `found` is the last
length, less one, after which the marker stood. -/
def leadFrom (marker : List Char) (passed : Nat) (found : Option Nat) : List Char → Option Nat
  | [] => found
  | c :: rest =>
    if isBlank c then
      leadFrom marker (passed + 1) (if marker.isPrefixOf rest then some passed else found) rest
    else found

/-- The longest lead at the start of a text: its length less one, since a lead is not empty. -/
def lead? (marker text : List Char) : Option Nat :=
  leadFrom marker 0 none text

/-- A look for a lead and its marker. Where a run of blanks holds no lead, none starts later in the run,
so the whole run is passed over. -/
def look (marker : List Char) : List Char → Look (List Char)
  | [] => .miss 0
  | c :: rest =>
    if isBlank c then
      match lead? marker (c :: rest) with
      | some more => .hit ((c :: rest).take (more + 1)) (more + marker.length)
      | none => .miss (rest.takeWhile isBlank).length
    else .miss 0

def stepLf (patch : StepInsertion) : List Char :=
  Text.toLf patch.step.toList

/-- The block that goes in front of a lead. -/
def block (patch : StepInsertion) (crlf : Bool) : List Char :=
  if crlf then '\r' :: '\n' :: Text.toCrlf patch.stepLf else '\n' :: patch.stepLf

@[simp]
theorem block_true (patch : StepInsertion) :
    patch.block true = '\r' :: '\n' :: Text.toCrlf patch.stepLf := rfl

@[simp]
theorem block_false (patch : StepInsertion) : patch.block false = '\n' :: patch.stepLf := rfl

/-- How many line feeds one insertion adds. -/
def linesPerInsertion (patch : StepInsertion) : Nat :=
  patch.stepLf.count '\n' + 1

/-- The leads of a text, each with the gap before it. -/
def leads (patch : StepInsertion) (content : List Char) : Text.Scan (List Char) :=
  Text.scan (look patch.marker.toList) content

/-- What one lead becomes: the gap before it, the block, and then the lead and the marker as before. -/
def insertAt (patch : StepInsertion) (hit : List Char × List Char) : List Char :=
  let matched := hit.2 ++ patch.marker.toList
  hit.1 ++ patch.block (Text.startsCrlf matched) ++ matched

/-- The text put together again, with the step inserted at each lead. -/
def weave (patch : StepInsertion) (found : Text.Scan (List Char)) : List Char :=
  found.hits.flatMap patch.insertAt ++ found.tail

def apply (patch : StepInsertion) (content : String) : Patched :=
  let found := patch.leads content.toList
  let count := found.hits.length
  { content := String.ofList (patch.weave found)
    matchCount := count
    notes := [Log.debug s!"Found {count} occurrence(s) of marker '{patch.marker}'"] }

def toPatch (patch : StepInsertion) : Patch where
  kind := .workflowPermissions
  target := patch.target
  apply content := .ok (patch.apply content)

end StepInsertion

end Patchwork
