import Patchwork.Json
import Patchwork.Text.Numeral

/-!
# Writing JSON

Values are written over several lines, with two more spaces in front of the content of each array and
object. An empty array or object stays on one line. In strings only the quote, the backslash and the
characters below the space are escaped.
-/

set_option autoImplicit false

namespace Patchwork.Json

/-- A character as it stands between the quotes of a string. -/
def escape (c : Char) : List Char :=
  match c with
  | '"' => ['\\', '"']
  | '\\' => ['\\', '\\']
  | '\x08' => ['\\', 'b']
  | '\x0c' => ['\\', 'f']
  | '\n' => ['\\', 'n']
  | '\r' => ['\\', 'r']
  | '\t' => ['\\', 't']
  | _ =>
    if c.toNat < 0x20 then
      ['\\', 'u', '0', '0', Text.hexDigit (c.toNat / 16), Text.hexDigit (c.toNat % 16)]
    else [c]

def quote (text : String) : List Char :=
  '"' :: text.toList.flatMap escape ++ ['"']

/-- A new line whose content stands `depth` levels deep. -/
def newLine (depth : Nat) : List Char :=
  '\n' :: List.replicate (2 * depth) ' '

mutual

/-- A value that stands `depth` levels deep. -/
def prettyAt (depth : Nat) : Json → List Char
  | .null => "null".toList
  | .bool true => "true".toList
  | .bool false => "false".toList
  | .natural value => Nat.toDigits 10 value
  | .number literal => literal.toList
  | .string text => quote text
  | .unreadable => "null".toList
  | .array [] => ['[', ']']
  | .array (item :: more) =>
    '[' :: newLine (depth + 1) ++ prettyAt (depth + 1) item ++ prettyItems (depth + 1) more
      ++ newLine depth ++ [']']
  | .object [] => ['\x7b', '\x7d']
  | .object ((key, value) :: more) =>
    '\x7b' :: newLine (depth + 1) ++ quote key ++ [':', ' '] ++ prettyAt (depth + 1) value
      ++ prettyMembers (depth + 1) more ++ newLine depth ++ ['\x7d']

/-- The items after the first one, each with the comma before it. -/
def prettyItems (depth : Nat) : List Json → List Char
  | [] => []
  | item :: more => ',' :: newLine depth ++ prettyAt depth item ++ prettyItems depth more

/-- The members after the first one, each with the comma before it. -/
def prettyMembers (depth : Nat) : List (String × Json) → List Char
  | [] => []
  | (key, value) :: more =>
    ',' :: newLine depth ++ quote key ++ [':', ' '] ++ prettyAt depth value
      ++ prettyMembers depth more

end

def pretty (value : Json) : String :=
  String.ofList (prettyAt 0 value)

end Patchwork.Json
