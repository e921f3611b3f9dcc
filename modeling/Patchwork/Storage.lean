import Patchwork.Fault
import Patchwork.Log

/-!
# Storages

A storage keeps texts under paths. It works inside a monad `m` that carries whatever the storage needs:
its state when it lives in memory, or the outside world.
-/

set_option autoImplicit false

namespace Patchwork

structure Storage (m : Type → Type) where
  read : String → ExceptT Fault m String
  write : String → String → ExceptT Fault m Unit
  note : Log.Entry → m Unit

end Patchwork
