import Patchwork.Fault
import Patchwork.Text.Blank

/-!
# Checks on single settings

Each check names the setting and its value in the fault that it raises. Of two faults in one value the
first one listed in the check wins.
-/

set_option autoImplicit false

namespace Patchwork.Validation

/-- A path is usable when it is not empty and holds no NUL character. -/
def path (field value : String) : Except Fault Unit :=
  if value.isEmpty then .error (.badValue field value "Path cannot be empty")
  else if '\x00' ∈ value.toList then .error (.badValue field value "Path contains null bytes")
  else .ok ()

/-- A text is usable when it holds a character that is not blank. -/
def nonEmpty (field value : String) : Except Fault Unit :=
  if Text.isBlankText value.toList then
    .error (.badValue field value "Value cannot be empty or whitespace-only")
  else .ok ()

/-- A one-line text is usable when it is not blank and holds no character that ends a line. -/
def singleLine (field value : String) : Except Fault Unit := do
  nonEmpty field value
  if '\n' ∈ value.toList ∨ '\r' ∈ value.toList then
    .error (.badValue field value "Value must fit on a single line")

theorem path_eq_ok_iff {field value : String} :
    path field value = .ok () ↔ value ≠ "" ∧ '\x00' ∉ value.toList := by
  unfold path
  by_cases emptyValue : value = ""
  · simp [emptyValue]
  · by_cases holdsNul : '\x00' ∈ value.toList <;> simp [emptyValue, holdsNul]

theorem nonEmpty_eq_ok_iff {field value : String} :
    nonEmpty field value = .ok () ↔ ∃ c ∈ value.toList, Text.isBlank c = false := by
  unfold nonEmpty Text.isBlankText
  cases blank : value.toList.all Text.isBlank with
  | true => simpa using blank
  | false => simpa using blank

theorem singleLine_eq_ok_iff {field value : String} :
    singleLine field value = .ok () ↔
      (∃ c ∈ value.toList, Text.isBlank c = false) ∧ '\n' ∉ value.toList ∧ '\r' ∉ value.toList := by
  rw [← @nonEmpty_eq_ok_iff field value]
  unfold singleLine
  cases checked : nonEmpty field value with
  | error fault => simp [bind, Except.bind]
  | ok done =>
    by_cases lineFeed : '\n' ∈ value.toList <;>
      by_cases carriageReturn : '\r' ∈ value.toList <;>
        simp [bind, Except.bind, pure, Except.pure, lineFeed, carriageReturn]

end Patchwork.Validation
