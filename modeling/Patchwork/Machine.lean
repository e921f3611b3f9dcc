import Patchwork.FileTree
import Patchwork.Host

/-!
# A host in memory

A machine has a file tree and an environment, and keeps everything that was put out, in order. Nothing but
a write that succeeds changes its tree.
-/

set_option autoImplicit false

namespace Patchwork

structure Machine where
  tree : FileTree
  environment : Environment
  transcript : List Emission

namespace Machine

def emit (machine : Machine) (emission : Emission) : Machine :=
  { machine with transcript := machine.transcript ++ [emission] }

/-- What the program wrote to the standard output. -/
def stdout (machine : Machine) : String :=
  String.join <| machine.transcript.filterMap fun
    | .out text => some text
    | _ => none

/-- What the program wrote to the standard error output, log entries aside. -/
def stderr (machine : Machine) : String :=
  String.join <| machine.transcript.filterMap fun
    | .err text => some text
    | _ => none

/-- The log entries that were put out. -/
def logs (machine : Machine) : List Log.Entry :=
  machine.transcript.filterMap fun
    | .log _ entry => some entry
    | _ => none

@[simp] theorem tree_emit (machine : Machine) (emission : Emission) :
    (machine.emit emission).tree = machine.tree := rfl

theorem stdout_emit (machine : Machine) (emission : Emission) :
    (machine.emit emission).stdout =
      machine.stdout ++ match emission with
        | .out text => text
        | _ => "" := by
  cases emission <;> simp [stdout, emit, String.join_append]

theorem stderr_emit (machine : Machine) (emission : Emission) :
    (machine.emit emission).stderr =
      machine.stderr ++ match emission with
        | .err text => text
        | _ => "" := by
  cases emission <;> simp [stderr, emit]

/-- An answer of the file tree, or the fault that its obstacle means. -/
def answer {α : Type} : Except FileTree.Obstacle α → Except Fault α
  | .ok value => .ok value
  | .error obstacle => .error obstacle.fault

def host : Host (StateM Machine) where
  read path := ExceptT.mk fun machine => (answer (machine.tree.read path), machine)
  write path content := ExceptT.mk fun machine =>
    match machine.tree.write path content with
    | .ok tree => (.ok (), { machine with tree := tree })
    | .error obstacle => (.error obstacle.fault, machine)
  environment _ := fun machine => (machine.environment, machine)
  emit emission := fun machine => ((), machine.emit emission)

end Machine

end Patchwork
