import Patchwork.Json
import Patchwork.Text.Numeral

/-!
# Reading JSON

A strict reader: one value with blanks around it and nothing else. Numbers have no leading zeros, lists
no trailing comma, strings no raw character below the space.

Each reader takes the text that is left and answers what it read and what is left then, or nothing when
the text does not go on as it must. The readers of nested values count down an allowance of steps, and
`read?` allows twice as many as there are characters, which no text can use up.
-/

set_option autoImplicit false

namespace Patchwork.Json

/-- The blanks of JSON. -/
def isSpace (c : Char) : Bool :=
  c = ' ' || c = '\n' || c = '\t' || c = '\r'

def skipSpace (text : List Char) : List Char :=
  text.dropWhile isSpace

/-- The text after a word that it must begin with. -/
def expect? (word : String) (text : List Char) : Option (List Char) :=
  if word.toList.isPrefixOf text then some (text.drop word.length) else none

/-! ## Strings -/

/-- A piece of a string: a character, or the number that an escape gives. -/
inductive Piece where
  | char (c : Char)
  | unit (value : Nat)
  deriving DecidableEq

/-- The number written by four hexadecimal digits. -/
def unit? (a b c d : Char) : Option Nat := do
  return Text.fromDigits 16
    [← Text.hexValue? a, ← Text.hexValue? b, ← Text.hexValue? c, ← Text.hexValue? d]

/-- What the letter after a backslash stands for. -/
def escaped? : Char → Option Char
  | '"' => some '"'
  | '\\' => some '\\'
  | '/' => some '/'
  | 'b' => some '\x08'
  | 'f' => some '\x0c'
  | 'n' => some '\n'
  | 'r' => some '\r'
  | 't' => some '\t'
  | _ => none

/-- The pieces up to the closing quote, after the ones in `done`, which has the last one first. -/
def piecesFrom (done : List Piece) : List Char → Option (List Piece × List Char)
  | [] => none
  | '"' :: rest => some (done.reverse, rest)
  | '\\' :: 'u' :: a :: b :: c :: d :: rest =>
    match unit? a b c d with
    | some value => piecesFrom (.unit value :: done) rest
    | none => none
  | '\\' :: letter :: rest =>
    match escaped? letter with
    | some c => piecesFrom (.char c :: done) rest
    | none => none
  | c :: rest => if c.toNat < 0x20 || c = '\\' then none else piecesFrom (.char c :: done) rest

/-- The first half of a surrogate pair. -/
def isHigh (value : Nat) : Bool :=
  0xD800 ≤ value && value < 0xDC00

/-- The second half of a surrogate pair. -/
def isLow (value : Nat) : Bool :=
  0xDC00 ≤ value && value < 0xE000

/-- The characters of a string, unless half of a surrogate pair stands alone. -/
def charsFrom (done : List Char) : List Piece → Option (List Char)
  | [] => some done.reverse
  | .char c :: rest => charsFrom (c :: done) rest
  | .unit high :: .unit low :: rest =>
    if isHigh high && isLow low then
      charsFrom (Char.ofNat (0x10000 + (high - 0xD800) * 0x400 + (low - 0xDC00)) :: done) rest
    else if isHigh high || isLow high then none
    else charsFrom (Char.ofNat high :: done) (.unit low :: rest)
  | .unit value :: rest =>
    if isHigh value || isLow value then none else charsFrom (Char.ofNat value :: done) rest

/-- A string after its opening quote. The text is missing when it is not Unicode text. -/
def readString? (text : List Char) : Option (Option String × List Char) := do
  let (pieces, rest) ← piecesFrom [] text
  return ((charsFrom [] pieces).map String.ofList, rest)

/-! ## Numbers -/

/-- One or more digits. -/
def digits? (text : List Char) : Option (List Char × List Char) :=
  match text.takeWhile Char.isDigit with
  | [] => none
  | digits => some (digits, text.dropWhile Char.isDigit)

/-- Digits without a leading zero, unless the zero stands alone. -/
def integer? (text : List Char) : Option (List Char × List Char) :=
  match text with
  | '0' :: rest => some (['0'], rest)
  | _ => digits? text

/-- A fraction, if there is one. -/
def fraction? (text : List Char) : Option (List Char × List Char) :=
  match text with
  | '.' :: rest => (digits? rest).map fun (digits, rest) => ('.' :: digits, rest)
  | _ => some ([], text)

/-- An exponent, if there is one. -/
def exponent? (text : List Char) : Option (List Char × List Char) :=
  let signed (mark : Char) (text : List Char) : Option (List Char × List Char) :=
    match text with
    | '+' :: rest => (digits? rest).map fun (digits, rest) => (mark :: '+' :: digits, rest)
    | '-' :: rest => (digits? rest).map fun (digits, rest) => (mark :: '-' :: digits, rest)
    | _ => (digits? text).map fun (digits, rest) => (mark :: digits, rest)
  match text with
  | 'e' :: rest => signed 'e' rest
  | 'E' :: rest => signed 'E' rest
  | _ => some ([], text)

/-- A number, which begins with the text. -/
def readNumber? (text : List Char) : Option (Json × List Char) := do
  let (sign, unsigned) := match text with
    | '-' :: rest => (['-'], rest)
    | _ => ([], text)
  let (whole, rest) ← integer? unsigned
  let (fraction, rest) ← fraction? rest
  let (exponent, rest) ← exponent? rest
  if sign.isEmpty && fraction.isEmpty && exponent.isEmpty then
    return (.natural (Text.decimal whole), rest)
  else
    return (.number (String.ofList (sign ++ whole ++ fraction ++ exponent)), rest)

/-! ## Values -/

/-- An object with the given keys, some of which may not be readable. -/
def ofMembers (members : List (Option String × Json)) : Json :=
  match members.mapM fun (member : Option String × Json) => member.1.map fun key => (key, member.2) with
  | some readable => .object readable
  | none => .unreadable

mutual

def readValue? : Nat → List Char → Option (Json × List Char)
  | 0, _ => none
  | steps + 1, text =>
    match text with
    | [] => none
    | '"' :: rest => do
      let (text, rest) ← readString? rest
      return (match text with | some text => .string text | none => .unreadable, rest)
    | '[' :: rest =>
      match skipSpace rest with
      | ']' :: rest => some (.array [], rest)
      | rest => do
        let (items, rest) ← readItems? steps rest
        return (.array items, rest)
    | '\x7b' :: rest =>
      match skipSpace rest with
      | '\x7d' :: rest => some (.object [], rest)
      | rest => do
        let (members, rest) ← readMembers? steps rest
        return (ofMembers members, rest)
    | 'n' :: rest => (expect? "ull" rest).map fun rest => (.null, rest)
    | 't' :: rest => (expect? "rue" rest).map fun rest => (.bool true, rest)
    | 'f' :: rest => (expect? "alse" rest).map fun rest => (.bool false, rest)
    | _ => readNumber? text

/-- One or more items and the closing bracket. -/
def readItems? : Nat → List Char → Option (List Json × List Char)
  | 0, _ => none
  | steps + 1, text => do
    let (item, rest) ← readValue? steps text
    match skipSpace rest with
    | ',' :: rest =>
      let (items, rest) ← readItems? steps (skipSpace rest)
      return (item :: items, rest)
    | ']' :: rest => return ([item], rest)
    | _ => none

/-- One or more members and the closing brace. -/
def readMembers? : Nat → List Char → Option (List (Option String × Json) × List Char)
  | 0, _ => none
  | steps + 1, text => do
    let rest ← expect? "\"" text
    let (key, rest) ← readString? rest
    let rest ← expect? ":" (skipSpace rest)
    let (value, rest) ← readValue? steps (skipSpace rest)
    match skipSpace rest with
    | ',' :: rest =>
      let (members, rest) ← readMembers? steps (skipSpace rest)
      return ((key, value) :: members, rest)
    | '\x7d' :: rest => return ([(key, value)], rest)
    | _ => none

end

def read? (text : String) : Option Json := do
  let (value, rest) ← readValue? (2 * text.length + 2) (skipSpace text.toList)
  if (skipSpace rest).isEmpty then some value else none

end Patchwork.Json
