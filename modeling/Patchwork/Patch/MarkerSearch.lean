/-!
# Searching for markers

A marker is made into a pattern before any text is searched for it, and a pattern must not take up more than
`MarkerSearch.patternLimit` bytes. How much it takes up is up to the search. All that is relied on is that the
pattern of a short marker fits and that of a very long one does not; which of the markers in between are taken
is left open.
-/

set_option autoImplicit false

namespace Patchwork

/-- A search for markers, by the markers that it takes. -/
class MarkerSearch where
  accepts (marker : String) : Bool
  accepts_of_short {marker : String} : marker.utf8ByteSize ≤ 100000 → accepts marker = true
  refuses_of_long {marker : String} : 400000 ≤ marker.utf8ByteSize → accepts marker = false

namespace MarkerSearch

/-- The bytes that the pattern of a marker may take up. -/
def patternLimit : Nat := 10485760

/-- The bytes of one state of a pattern: a tag, and room for a list in three words. -/
def stateSize : Nat := 32

/-- The search of the programs. A pattern has one state for each byte of its marker. The few states for the blanks
before the marker are not counted. -/
instance byStates : MarkerSearch where
  accepts marker := marker.utf8ByteSize * stateSize ≤ patternLimit
  accepts_of_short short := decide_eq_true (by simp only [stateSize, patternLimit]; omega)
  refuses_of_long long := decide_eq_false (by simp only [stateSize, patternLimit]; omega)

end MarkerSearch

end Patchwork
