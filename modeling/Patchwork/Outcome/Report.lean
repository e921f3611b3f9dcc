import Patchwork.Json.Printer
import Patchwork.Json.Reader
import Patchwork.Outcome

/-!
# Outcomes as JSON

An outcome is written as an object with seven members in a fixed order. When it is read back the members
may stand in any order and among others, but each exactly once; a list of the seven values in that order
is read too. Counts are natural numbers below `Outcome.countBound`.
-/

set_option autoImplicit false

namespace Patchwork

namespace Outcome

def toJson (outcome : Outcome) : Json :=
  .object
    [("patch", .string outcome.kind.identifier), ("path", .string outcome.path),
     ("matches", .natural outcome.matchCount), ("lines_before", .natural outcome.linesBefore),
     ("lines_after", .natural outcome.linesAfter), ("changed", .bool outcome.changed),
     ("written", .bool outcome.written)]

def report (outcome : Outcome) : String :=
  outcome.toJson.pretty

def reportAll (outcomes : List Outcome) : String :=
  (Json.array (outcomes.map toJson)).pretty

def kindNamed? (name : String) : Option PatchKind :=
  if name = PatchKind.workflowPermissions.identifier then some .workflowPermissions
  else if name = PatchKind.buildFix.identifier then some .buildFix
  else none

/-- A kind is its name, or an object that has the name as its only key and nothing under it. -/
def kind? : Json → Option PatchKind
  | .string name => kindNamed? name
  | .object [(name, .null)] => kindNamed? name
  | _ => none

def text? : Json → Option String
  | .string text => some text
  | _ => none

def count? : Json → Option Nat
  | .natural value => if value < countBound then some value else none
  | _ => none

def flag? : Json → Option Bool
  | .bool value => some value
  | _ => none

/-- The values of an outcome in the order of its members. -/
def ofValues? (kind path matchCount linesBefore linesAfter changed written : Json) :
    Option Outcome := do
  return { kind := ← kind? kind, path := ← text? path, matchCount := ← count? matchCount
           linesBefore := ← count? linesBefore, linesAfter := ← count? linesAfter
           changed := ← flag? changed, written := ← flag? written }

/-- The value of the member with a key, if there is exactly one such member. -/
def only? (members : List (String × Json)) (key : String) : Option Json :=
  match members.filter fun member => member.1 = key with
  | [(_, value)] => some value
  | _ => none

def ofJson? : Json → Option Outcome
  | .object members => do
    ofValues? (← only? members "patch") (← only? members "path") (← only? members "matches")
      (← only? members "lines_before") (← only? members "lines_after") (← only? members "changed")
      (← only? members "written")
  | .array [kind, path, matchCount, linesBefore, linesAfter, changed, written] =>
    ofValues? kind path matchCount linesBefore linesAfter changed written
  | _ => none

def ofReport? (text : String) : Option Outcome := do
  ofJson? (← Json.read? text)

def allOfReport? (text : String) : Option (List Outcome) := do
  match ← Json.read? text with
  | .array items => items.mapM ofJson?
  | _ => none

end Outcome

end Patchwork
