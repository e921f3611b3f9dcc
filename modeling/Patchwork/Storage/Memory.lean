import Patchwork.Catalog
import Patchwork.Storage

/-!
# A storage in memory

The storage holds texts by path. Reads and writes of chosen paths fail with chosen faults, and every call
is recorded, whether it fails or not. A failing write leaves the texts as they were.
-/

set_option autoImplicit false

namespace Patchwork

namespace MemoryStorage

inductive Call where
  | read (path : String)
  | write (path content : String)
  deriving DecidableEq, Repr

structure State where
  files : Catalog String String
  /-- The faults with which reads of these paths end. -/
  readFaults : Catalog String Fault
  /-- The faults with which writes to these paths end. -/
  writeFaults : Catalog String Fault
  /-- The calls made so far, in order. -/
  calls : List Call
  deriving Repr

def State.read (state : State) (path : String) : Except Fault String :=
  match state.readFaults.get? path with
  | some fault => .error fault
  | none =>
    match state.files.get? path with
    | some content => .ok content
    | none => .error (.storage .notFound s!"{path} not found")

def State.write (state : State) (path content : String) :
    Except Fault Unit × Catalog String String :=
  match state.writeFaults.get? path with
  | some fault => (.error fault, state.files)
  | none => (.ok (), state.files.put path content)

def State.record (state : State) (call : Call) : State :=
  { state with calls := state.calls ++ [call] }

/-- The storage over its state. Log entries are not kept. -/
def storage : Storage (StateM State) where
  read path := ExceptT.mk fun state => (state.read path, state.record (.read path))
  write path content := ExceptT.mk fun state =>
    let (answer, files) := state.write path content
    (answer, { state.record (.write path content) with files := files })
  note _ := pure ()

end MemoryStorage

end Patchwork
