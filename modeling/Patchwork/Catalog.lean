/-!
# Catalogs

A catalog is a list of named values in which the first entry of a name counts. Putting a value under a
name changes that entry where it stands, or adds one at the end, and leaves every other name alone
(`get?_put`).
-/

set_option autoImplicit false

namespace Patchwork

abbrev Catalog (κ α : Type) := List (κ × α)

namespace Catalog

variable {κ α : Type} [DecidableEq κ]

def get? (catalog : Catalog κ α) (name : κ) : Option α :=
  match catalog with
  | [] => none
  | (key, value) :: rest => if key = name then some value else get? rest name

def put (catalog : Catalog κ α) (name : κ) (value : α) : Catalog κ α :=
  match catalog with
  | [] => [(name, value)]
  | (key, present) :: rest =>
    if key = name then (key, value) :: rest else (key, present) :: put rest name value

theorem get?_put (catalog : Catalog κ α) (name other : κ) (value : α) :
    get? (put catalog name value) other = if name = other then some value else get? catalog other := by
  induction catalog with
  | nil => simp [put, get?]
  | cons entry rest inductionHypothesis =>
    obtain ⟨key, present⟩ := entry
    by_cases sameName : key = name
    · subst sameName
      by_cases sameOther : key = other <;> simp [put, get?, sameOther]
    · by_cases sameOther : key = other
      · subst sameOther
        simp [put, get?, sameName, Ne.symm sameName]
      · simp [put, get?, sameName, sameOther, inductionHypothesis]

@[simp] theorem get?_put_self (catalog : Catalog κ α) (name : κ) (value : α) :
    get? (put catalog name value) name = some value := by
  simp [get?_put]

end Catalog

end Patchwork
