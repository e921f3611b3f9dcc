/-!
# JSON values

The values of JSON. Numbers are kept apart by how they are written: a natural number is one or more
digits with no sign, fraction or exponent, and every other number keeps its text.
-/

set_option autoImplicit false

namespace Patchwork

inductive Json where
  | null
  | bool (value : Bool)
  | natural (value : Nat)
  /-- A number that is not written as a natural number. -/
  | number (literal : String)
  | string (text : String)
  /-- A value that is well formed but says nothing: a string with an escape for half of a surrogate
  pair, or an object that has such a string as a key. -/
  | unreadable
  | array (items : List Json)
  | object (members : List (String × Json))
  deriving Inhabited

end Patchwork
