import Patchwork.Text.Numeral
import Patchwork.Toml.Item
import Patchwork.Toml.Quoted

/-!
# Words of TOML: numbers, truth values, dates and times

A word is everything up to the next comma, equals sign, bracket, brace, comment or line end, or up to a
quoted text with a blank in front of it. Blanks may stand inside a word, as between a date and a time, but
not at its end. A word is a number, a truth value, a date or a time as a whole or not at all.

An integer is recognised by its first characters and by where its underscores stand. Whether what is left
without them has a value is another question, and its answer is part of the item.
-/

set_option autoImplicit false

namespace Patchwork.Toml

open Text (decimal fromDigits hexValue?)

/-! ## Digits -/

def digitValue? (base : Nat) (c : Char) : Option Nat :=
  (hexValue? c).filter fun value => value < base

def isHexDigit (c : Char) : Bool :=
  (hexValue? c).isSome

/-- The rest of a text without its underscores, each of which has a digit before and after it.
`afterDigit` says whether a digit comes right before the rest. -/
def dropUnderscoresFrom? (isDigit : Char → Bool) (afterDigit : Bool) : List Char → Option (List Char)
  | [] => some []
  | '_' :: c :: rest =>
    if afterDigit && isDigit c then (dropUnderscoresFrom? isDigit true rest).map (c :: ·) else none
  | c :: rest =>
    if c = '_' then none else (dropUnderscoresFrom? isDigit (isDigit c) rest).map (c :: ·)

/-- The text without its underscores, each of which has a digit before and after it. -/
def dropUnderscores? (isDigit : Char → Bool) (text : List Char) : Option (List Char) :=
  dropUnderscoresFrom? isDigit false text

/-- A zero in front of another digit. -/
def hasLeadingZero : List Char → Bool
  | '0' :: c :: _ => c.isDigit || c = '_'
  | _ => false

/-! ## Signs -/

inductive Sign where
  | plus
  | minus
  deriving DecidableEq, Repr

/-- The sign of a word, if it has one, and the rest of the word. -/
def splitSign : List Char → Option Sign × List Char
  | '-' :: rest => (some .minus, rest)
  | '+' :: rest => (some .plus, rest)
  | word => (none, word)

def withSign (sign : Option Sign) (value : Nat) : Int :=
  if sign = some .minus then -(value : Int) else value

/-! ## Integers -/

/-- An integer of a base that is not ten, after the mark of its base. Without digits it has no value. -/
def basedInteger? (base : Nat) (text : List Char) : Option Item := do
  let digits ← dropUnderscores? isHexDigit text
  let values ← digits.mapM (digitValue? base)
  return if values.isEmpty then .malformed else .integer (fromDigits base values)

/-- A character that makes a word with underscores something else than an integer. -/
def breaksInteger (c : Char) : Bool :=
  c = ' ' || c = '.' || c = 'e' || c = 'E'

/-- A decimal integer. Its underscores may stand between digits of base sixteen, but only decimal digits
have a value. -/
def decimalInteger? (word : List Char) : Option Item :=
  let (sign, text) := splitSign word
  if hasLeadingZero text then none
  else match text.dropWhile Char.isDigit with
    | [] => if text.isEmpty then none else some (.integer (withSign sign (decimal text)))
    | '_' :: rest =>
      if rest.any breaksInteger then none
      else (dropUnderscores? isHexDigit text).map fun digits =>
        if digits.all Char.isDigit then .integer (withSign sign (decimal digits)) else .malformed
    | _ => none

def integer? (word : List Char) : Option Item :=
  match word with
  | '0' :: 'x' :: rest => basedInteger? 16 rest
  | '0' :: 'o' :: rest => basedInteger? 8 rest
  | '0' :: 'b' :: rest => basedInteger? 2 rest
  | _ => decimalInteger? word

/-! ## Floats -/

/-- One or more digits, and what comes after them. -/
def digits? (text : List Char) : Option (List Char × List Char) :=
  match text.takeWhile Char.isDigit with
  | [] => none
  | digits => some (digits, text.dropWhile Char.isDigit)

/-- The exponent after its letter, up to the end; it may have leading zeros. -/
def exponent? (text : List Char) : Option Int := do
  let (sign, text) := splitSign text
  let (digits, rest) ← digits? text
  if rest.isEmpty then some (withSign sign (decimal digits)) else none

/-- A whole part, and a fraction or an exponent or both. -/
def finiteFloat? (text : List Char) : Option FloatValue := do
  let (whole, rest) ← digits? text
  match rest with
  | '.' :: rest =>
    let (fraction, rest) ← digits? rest
    let digits := decimal (whole ++ fraction)
    match rest with
    | [] => return .decimal digits (-(fraction.length : Int))
    | 'e' :: rest => return .decimal digits ((← exponent? rest) - fraction.length)
    | 'E' :: rest => return .decimal digits ((← exponent? rest) - fraction.length)
    | _ => none
  | 'e' :: rest => return .decimal (decimal whole) (← exponent? rest)
  | 'E' :: rest => return .decimal (decimal whole) (← exponent? rest)
  | _ => none

def float? (word : List Char) : Option Item :=
  let (_, text) := splitSign word
  if text = ['i', 'n', 'f'] || text = ['n', 'a', 'n'] then some (.float .named)
  else if hasLeadingZero text then none
  else do
    let plain ← dropUnderscores? Char.isDigit text
    return .float (← finiteFloat? plain)

/-! ## Dates and times -/

/-- A number written with exactly `width` digits. -/
def fixed? (width : Nat) (word : List Char) : Option Nat :=
  if word.length = width && word.all Char.isDigit then
    some (decimal word)
  else none

def isLeapYear (year : Nat) : Bool :=
  year % 4 = 0 && (year % 100 ≠ 0 || year % 400 = 0)

def daysInMonth (year month : Nat) : Nat :=
  if month = 2 then (if isLeapYear year then 29 else 28)
  else if month = 4 || month = 6 || month = 9 || month = 11 then 30
  else 31

/-- A year, a month and a day that the calendar has. -/
def isDate (word : List Char) : Bool :=
  match word with
  | [a, b, c, d, '-', e, f, '-', g, h] =>
    match fixed? 4 [a, b, c, d], fixed? 2 [e, f], fixed? 2 [g, h] with
    | some year, some month, some day =>
      1 ≤ month && month ≤ 12 && 1 ≤ day && day ≤ daysInMonth year month
    | _, _, _ => false
  | _ => false

def isBelow (limit : Nat) (word : List Char) : Bool :=
  match fixed? 2 word with
  | some value => value < limit
  | none => false

/-- Hours and minutes. -/
def isClock (word : List Char) : Bool :=
  match word with
  | [a, b, ':', c, d] => isBelow 24 [a, b] && isBelow 60 [c, d]
  | _ => false

/-- Nothing, or a point and at least one digit. -/
def isSecondFraction : List Char → Bool
  | [] => true
  | '.' :: c :: rest => (c :: rest).all Char.isDigit
  | _ => false

/-- Hours and minutes, and perhaps seconds with a fraction. A minute may have a leap second. -/
def isTime (word : List Char) : Bool :=
  isClock (word.take 5) &&
    match word.drop 5 with
    | [] => true
    | ':' :: a :: b :: rest => isBelow 61 [a, b] && isSecondFraction rest
    | _ => false

/-- A time, and perhaps its offset from universal time. -/
def isTimeWithOffset (word : List Char) : Bool :=
  let isMark (c : Char) : Bool := c = 'Z' || c = 'z' || c = '+' || c = '-'
  isTime (word.takeWhile fun c => !isMark c) &&
    match word.dropWhile fun c => !isMark c with
    | [] => true
    | ['Z'] => true
    | ['z'] => true
    | '+' :: clock => isClock clock
    | '-' :: clock => isClock clock
    | _ => false

/-- A date, a time, or a date and a time with a letter or one space between them. -/
def isMoment (word : List Char) : Bool :=
  isDate word || isTime word ||
    (isDate (word.take 10) &&
      match word.drop 10 with
      | 'T' :: time => isTimeWithOffset time
      | 't' :: time => isTimeWithOffset time
      | ' ' :: time => isTimeWithOffset time
      | _ => false)

/-! ## Words -/

/-- A character that cannot stand in a word. -/
def endsWord (c : Char) : Bool :=
  c = ',' || c = '=' || c = '[' || c = ']' || c = '\x7b' || c = '\x7d' || c = '#' || c = '\n' || c = '\r'

/-- A quoted text starts here. -/
def opensText : List Char → Bool
  | '"' :: _ => true
  | '\'' :: _ => true
  | _ => false

/-- A word and the text after it; `done` holds what was read of it so far, the last character first. -/
def wordFrom (done text : List Char) : List Char × List Char :=
  match text with
  | [] => ((done.dropWhile isSpace).reverse, [])
  | c :: rest =>
    if endsWord c || (isSpace c && opensText rest) then ((done.dropWhile isSpace).reverse, c :: rest)
    else wordFrom (c :: done) rest

def splitWord (text : List Char) : List Char × List Char :=
  wordFrom [] text

def ofWord? (word : List Char) : Option Item :=
  if word = ['t', 'r', 'u', 'e'] then some (.boolean true)
  else if word = ['f', 'a', 'l', 's', 'e'] then some (.boolean false)
  else if isMoment word then some .moment
  else match integer? word with
    | some item => some item
    | none => float? word

def readWord? (text : List Char) : Option (Item × List Char) :=
  let (word, rest) := splitWord text
  (ofWord? word).map fun item => (item, rest)

end Patchwork.Toml
