import Patchwork.JobFile

/-!
# What faults lead to

The exit code of a fault says which part of the work it belongs to. Checks of settings blame the configuration,
and the only other thing that can be wrong with the settings of a patch is a marker that the search does not take.
-/

set_option autoImplicit false

namespace Patchwork

namespace Fault

variable {fault : Fault}

theorem exitCode_ne_zero (fault : Fault) : fault.exitCode ≠ 0 := by
  unfold exitCode
  cases fault.severity <;> decide

theorem exitCode_eq_one_iff :
    fault.exitCode = 1 ↔ fault.category = .configuration ∨ fault.category = .pattern := by
  unfold exitCode severity
  cases fault.category <;> decide

theorem exitCode_eq_two_iff : fault.exitCode = 2 ↔ fault.category = .serialization := by
  unfold exitCode severity
  cases fault.category <;> decide

theorem exitCode_eq_three_iff : fault.exitCode = 3 ↔ fault.category = .io := by
  unfold exitCode severity
  cases fault.category <;> decide

theorem exists_of_bind_eq_ok {ε α β : Type} {first : Except ε α} {next : α → Except ε β} {result : β}
    (succeeds : first >>= next = .ok result) : ∃ value, first = .ok value ∧ next value = .ok result := by
  cases first with
  | error => cases succeeds
  | ok value => exact ⟨value, rfl, succeeds⟩

/-- When something fails, the fault belongs to one of the categories. -/
def FailsWithin {α : Type} (categories : List Category) (result : Except Fault α) : Prop :=
  ∀ fault, result = .error fault → fault.category ∈ categories

section FailsWithin

variable {α β : Type} {categories more : List Category}

theorem failsWithin_ok (value : α) : FailsWithin categories (.ok value : Except Fault α) := by
  intro fault failed
  cases failed

theorem failsWithin_error (among : fault.category ∈ categories) :
    FailsWithin categories (.error fault : Except Fault α) := by
  intro other failed
  cases failed
  exact among

theorem FailsWithin.bind {first : Except Fault α} {next : α → Except Fault β}
    (firstFails : FailsWithin categories first) (nextFails : ∀ value, FailsWithin categories (next value)) :
    FailsWithin categories (first >>= next) := by
  cases first with
  | error fault => exact failsWithin_error (firstFails fault rfl)
  | ok value => exact nextFails value

theorem FailsWithin.mono {result : Except Fault α} (fails : FailsWithin categories result)
    (wider : categories ⊆ more) : FailsWithin more result :=
  fun fault failed => wider (fails fault failed)

end FailsWithin

end Fault

open Fault (FailsWithin failsWithin_ok failsWithin_error)

/-! ## Checks of settings -/

namespace Validation

variable (field value : String)

theorem path_failsWithin : FailsWithin [.configuration] (path field value) := by
  unfold path
  split
  · exact failsWithin_error (List.mem_singleton.2 rfl)
  split
  · exact failsWithin_error (List.mem_singleton.2 rfl)
  · exact failsWithin_ok ()

theorem nonEmpty_failsWithin : FailsWithin [.configuration] (nonEmpty field value) := by
  unfold nonEmpty
  split
  · exact failsWithin_error (List.mem_singleton.2 rfl)
  · exact failsWithin_ok ()

theorem singleLine_failsWithin : FailsWithin [.configuration] (singleLine field value) := by
  refine (nonEmpty_failsWithin field value).bind fun _ => ?_
  split
  · exact failsWithin_error (List.mem_singleton.2 rfl)
  · exact failsWithin_ok ()

end Validation

theorem WorkflowSection.validate_failsWithin (job : WorkflowSection) :
    FailsWithin [.configuration] job.validate :=
  (Validation.path_failsWithin _ _).bind fun _ =>
    (Validation.singleLine_failsWithin _ _).bind fun _ => Validation.nonEmpty_failsWithin _ _

theorem BuildFixSection.validate_failsWithin (job : BuildFixSection) :
    FailsWithin [.configuration] job.validate :=
  (Validation.path_failsWithin _ _).bind fun _ =>
    (Validation.singleLine_failsWithin _ _).bind fun _ => Validation.singleLine_failsWithin _ _

theorem WorkflowSection.insertion_failsWithin [MarkerSearch] (job : WorkflowSection) :
    FailsWithin [.pattern] job.insertion := by
  unfold insertion StepInsertion.make
  split
  · exact failsWithin_ok _
  · exact failsWithin_error (List.mem_singleton.2 rfl)

end Patchwork
