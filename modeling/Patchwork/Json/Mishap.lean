import Patchwork.Text.Numeral

/-!
# What goes wrong with JSON, and where

An account of something gone wrong may end in the place where it happened, as in
`lost at line 3 column 7`. The place is then known as two numbers and written from them again. Lines
count from one, so line zero is no place, and nothing is said about it.
-/

set_option autoImplicit false

namespace Patchwork.Json

open Text (decimal)

/-- Something gone wrong. -/
structure Mishap where
  account : String
  line : Nat
  column : Nat
  deriving DecidableEq, Repr

namespace Mishap

/-- From here on a number is none that a place has. -/
def placeBound : Nat := UInt64.size

/-- A text that ends in a word and a number: what comes before the word, and the number. -/
def splitNumber? (word text : List Char) : Option (List Char × Nat) :=
  let backwards := text.reverse
  let digits := (backwards.takeWhile Char.isDigit).reverse
  let rest := backwards.dropWhile Char.isDigit
  if !digits.isEmpty && decimal digits < placeBound && word.reverse.isPrefixOf rest then
    some ((rest.drop word.length).reverse, decimal digits)
  else none

/-- The account before the place at the end of a text, with the place. -/
def placed? (text : String) : Option Mishap := do
  let (start, column) ← splitNumber? " column ".toList text.toList
  let (account, line) ← splitNumber? " at line ".toList start
  return ⟨String.ofList account, line, column⟩

def ofText (text : String) : Mishap :=
  (placed? text).getD ⟨text, 0, 0⟩

def text (mishap : Mishap) : String :=
  if mishap.line = 0 then mishap.account
  else s!"{mishap.account} at line {mishap.line} column {mishap.column}"

end Mishap

end Patchwork.Json
