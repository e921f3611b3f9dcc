/-!
# Items of a TOML document

What a key can stand for. A float keeps the decimal number that it was written as, and dates and times
keep nothing, since no setting has such a value. A word that begins as an integer does and turns out to be
none is an item too: it is a fault only where somebody asks for its value.

A table remembers how it came to be, because that decides whether more may be said about it.
-/

set_option autoImplicit false

namespace Patchwork.Toml

/-- The number `± digits · 10 ^ exponent`, or one that is not finite by name. -/
inductive FloatValue where
  | decimal (digits : Nat) (exponent : Int)
  | named
  deriving DecidableEq, Repr

/-- How a table came to be. -/
inductive Standing where
  /-- A header names it. -/
  | header
  /-- A header names a table below it. -/
  | implied
  /-- A dotted key goes through it. -/
  | dotted
  /-- It is written as a value, and closed. -/
  | inline
  deriving DecidableEq, Repr

inductive Item where
  | string (text : String)
  | integer (value : Int)
  /-- A word that looks like an integer and has no value. -/
  | malformed
  | float (value : FloatValue)
  | boolean (value : Bool)
  /-- A date, a time, or both. -/
  | moment
  | array (items : List Item)
  | table (standing : Standing) (members : List (String × Item))
  /-- The tables of a repeated header, each an `Item.table`, the last one first. -/
  | rows (tables : List Item)
  deriving Inhabited

abbrev Members := List (String × Item)

def Members.get? (members : Members) (key : String) : Option Item :=
  match members with
  | [] => none
  | (name, item) :: rest => if name = key then some item else get? rest key

def Members.put (members : Members) (key : String) (item : Item) : Members :=
  match members with
  | [] => [(key, item)]
  | (name, present) :: rest =>
    if name = key then (name, item) :: rest else (name, present) :: put rest key item

/-! ## Limits of numbers

A number that no setting asks for still has to have a value that the widest types can hold.
-/

/-- The least integer of 128 signed bits. -/
def leastInteger : Int := -Int.pow 2 127

/-- The greatest integer of 128 unsigned bits. -/
def greatestInteger : Int := Int.pow 2 128 - 1

/-- From here on a number is nearer to infinity than to the greatest float of 64 bits, or as near. -/
def floatOverflow : Nat := Nat.pow 2 1024 - Nat.pow 2 970

/-- A number that rounds to infinity. The limit has 309 decimal and 1024 binary digits, and a division by
ten takes at least three binary ones away; so no power of ten is worked out that is longer than the limit
or the digits of the number. -/
def FloatValue.overflows : FloatValue → Bool
  | .named => false
  | .decimal digits exponent =>
    if digits = 0 then false
    else if 309 ≤ exponent then true
    else if 0 ≤ exponent then floatOverflow ≤ digits * Nat.pow 10 exponent.toNat
    else if digits.log2 + 3 * exponent < 1023 then false
    else floatOverflow * Nat.pow 10 (-exponent).toNat ≤ digits

mutual

def Item.holdable : Item → Bool
  | .string _ => true
  | .integer value => leastInteger ≤ value && value ≤ greatestInteger
  | .malformed => false
  | .float value => !value.overflows
  | .boolean _ => true
  | .moment => true
  | .array items => holdableItems items
  | .table _ members => holdableMembers members
  | .rows tables => holdableItems tables

def holdableItems : List Item → Bool
  | [] => true
  | item :: rest => item.holdable && holdableItems rest

def holdableMembers : List (String × Item) → Bool
  | [] => true
  | (_, item) :: rest => item.holdable && holdableMembers rest

end

end Patchwork.Toml
