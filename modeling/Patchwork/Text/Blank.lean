/-!
# Blank characters

A character is blank when it has the Unicode property White_Space. This is wider than the five ASCII
blanks (it holds the no-break space and the ideographic space) and narrower than a list of invisible
characters (it holds neither the zero-width space nor the byte order mark).

`trim` takes the blanks off both ends of a text, and `isBlankText` says that nothing would be left.
-/

set_option autoImplicit false

namespace Patchwork.Text

/-- The ranges of code points with the property White_Space, both ends included. -/
def blankRanges : List (Nat × Nat) :=
  [(0x0009, 0x000D), (0x0020, 0x0020), (0x0085, 0x0085), (0x00A0, 0x00A0), (0x1680, 0x1680),
   (0x2000, 0x200A), (0x2028, 0x2029), (0x202F, 0x202F), (0x205F, 0x205F), (0x3000, 0x3000)]

/-- A character is blank when one of the ranges of White_Space holds it. -/
def isBlank (c : Char) : Bool :=
  blankRanges.any fun range => range.1 ≤ c.toNat && c.toNat ≤ range.2

/-- The text without the blanks at its two ends. -/
def trim (text : List Char) : List Char :=
  ((text.dropWhile isBlank).reverse.dropWhile isBlank).reverse

/-- A text is blank when all its characters are; the empty text is blank. -/
def isBlankText (text : List Char) : Bool :=
  text.all isBlank

example : (blankRanges.map fun range => range.2 + 1 - range.1).sum = 25 := by decide

end Patchwork.Text
