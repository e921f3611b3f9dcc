import Patchwork.Toml.Item

/-!
# Assembling tables

Keys and headers build up a table of tables. A key may be said once. A dotted key makes the tables on its
way and may go on through tables that dotted keys made, but not through ones that a header names or that
are closed. It may pass through implied tables and rows too, as long as dotted keys made the table that it
ends in. A header may name a table once, and a table that was only implied by then becomes named; it
cannot name a table that dotted keys made. A repeated header adds a table to its rows, and a later header
or dotted key through it means the last row.
-/

set_option autoImplicit false

namespace Patchwork.Toml

/-- The members with an item under a new dotted key, of which `path` holds all parts but the last. -/
def assign (members : Members) (path : List String) (key : String) (item : Item) : Option Members :=
  match path with
  | [] =>
    match members.get? key with
    | some _ => none
    | none => some (members.put key item)
  | name :: path =>
    match members.get? name with
    | none => (assign [] path key item).map fun inner => members.put name (.table .dotted inner)
    | some (.table .dotted inner) =>
      (assign inner path key item).map fun inner => members.put name (.table .dotted inner)
    | some (.table .implied inner) =>
      if path.isEmpty then none
      else (assign inner path key item).map fun inner => members.put name (.table .implied inner)
    | some (.rows (.table standing inner :: earlier)) =>
      if path.isEmpty then none
      else (assign inner path key item).map fun inner =>
        members.put name (.rows (.table standing inner :: earlier))
    | some _ => none

/-- A key with its item: the parts of the key but the last, the last, and the item. -/
structure Assignment where
  path : List String
  key : String
  item : Item

def assignAll (members : Members) (assignments : List Assignment) : Option Members :=
  assignments.foldlM (fun members entry => assign members entry.path entry.key entry.item) members

/-- The members with what stands under a header's last part changed. The tables on the way are entered,
and made when they are missing. -/
def changeAt (change : Option Item → Option Item) (members : Members) (path : List String)
    (key : String) : Option Members :=
  match path with
  | [] => (change (members.get? key)).map fun item => members.put key item
  | name :: path =>
    match members.get? name with
    | none => (changeAt change [] path key).map fun inner => members.put name (.table .implied inner)
    | some (.table .inline _) => none
    | some (.table standing inner) =>
      (changeAt change inner path key).map fun inner => members.put name (.table standing inner)
    | some (.rows (.table standing inner :: earlier)) =>
      (changeAt change inner path key).map fun inner =>
        members.put name (.rows (.table standing inner :: earlier))
    | some _ => none

/-- A part of a document: a header and the assignments below it. -/
structure Part where
  /-- The header is repeated: each time it starts a new row. -/
  repeated : Bool
  path : List String
  key : String
  assignments : List Assignment

/-- The table that a part describes, given what stands under its header so far. -/
def Part.item? (part : Part) : Option Item → Option Item
  | none =>
    (assignAll [] part.assignments).map fun members =>
      if part.repeated then .rows [.table .header members] else .table .header members
  | some (.table .implied members) =>
    if part.repeated then none
    else (assignAll members part.assignments).map fun members => .table .header members
  | some (.rows tables) =>
    if part.repeated then
      (assignAll [] part.assignments).map fun members => .rows (.table .header members :: tables)
    else none
  | some _ => none

/-- A document: the assignments before the first header, and the parts. -/
structure Document where
  assignments : List Assignment
  parts : List Part

def Document.table? (document : Document) : Option Members := do
  let members ← assignAll [] document.assignments
  document.parts.foldlM (fun members part => changeAt part.item? members part.path part.key) members

end Patchwork.Toml
