import Patchwork.Text.Numeral

/-!
# Quoted texts of TOML

A text stands between single or double quotes, on one line, or between three of them, over several lines.
Between double quotes a backslash begins an escape. Each reader starts after the opening quotes.
-/

set_option autoImplicit false

namespace Patchwork.Toml

/-- A character that may stand in a text or a comment as it is: all but the control characters of ASCII,
of which only the tab may. -/
def isPlain (c : Char) : Bool :=
  c = '\t' || (0x20 ≤ c.toNat && c.toNat ≠ 0x7F)

/-- A line end and the text after it. -/
def afterLineEnd? : List Char → Option (List Char)
  | '\n' :: rest => some rest
  | '\r' :: '\n' :: rest => some rest
  | _ => none

def isSpace (c : Char) : Bool :=
  c = ' ' || c = '\t'

/-! ## Escapes -/

/-- The character whose number `width` hexadecimal digits write. -/
def coded? (width : Nat) (text : List Char) : Option Char := do
  let digits ← (text.take width).mapM Text.hexValue?
  let value := Text.fromDigits 16 digits
  if digits.length = width ∧ value.isValidChar then some (Char.ofNat value) else none

/-- The character that an escape stands for, after its backslash, and how many characters it takes. -/
def escape? : List Char → Option (Char × Nat)
  | 'b' :: _ => some ('\x08', 1)
  | 't' :: _ => some ('\t', 1)
  | 'n' :: _ => some ('\n', 1)
  | 'f' :: _ => some ('\x0c', 1)
  | 'r' :: _ => some ('\r', 1)
  | 'e' :: _ => some ('\x1b', 1)
  | '"' :: _ => some ('"', 1)
  | '\\' :: _ => some ('\\', 1)
  | 'x' :: rest => (coded? 2 rest).map fun c => (c, 3)
  | 'u' :: rest => (coded? 4 rest).map fun c => (c, 5)
  | 'U' :: rest => (coded? 8 rest).map fun c => (c, 9)
  | _ => none

/-! ## Texts on one line -/

/-- A text in double quotes, after the characters in `done`, which has the last one first. -/
def basicFrom (done : List Char) (text : List Char) : Option (List Char × List Char) :=
  match text with
  | [] => none
  | c :: rest =>
    if c = '"' then some (done.reverse, rest)
    else if c = '\\' then
      match escape? rest with
      | some (escaped, taken) => basicFrom (escaped :: done) (rest.drop taken)
      | none => none
    else if isPlain c then basicFrom (c :: done) rest
    else none
termination_by text.length

def readBasic? (text : List Char) : Option (List Char × List Char) :=
  basicFrom [] text

def readLiteral? (text : List Char) : Option (List Char × List Char) :=
  let inside (c : Char) : Bool := isPlain c && c ≠ '\''
  match text.dropWhile inside with
  | '\'' :: rest => some (text.takeWhile inside, rest)
  | _ => none

/-! ## Texts over several lines -/

/-- A line end right after the opening quotes does not count. -/
def skipFirstLineEnd (text : List Char) : List Char :=
  (afterLineEnd? text).getD text

/-- How many characters at the start of a text are blanks and line ends. -/
def blankLines : List Char → Nat
  | '\r' :: '\n' :: rest => blankLines rest + 2
  | c :: rest => if isSpace c || c = '\n' then blankLines rest + 1 else 0
  | [] => 0

/-- After a backslash at the end of a line, how many characters go with it: blanks, a line end, and all
blanks and line ends after that. -/
def continuation? (text : List Char) : Option Nat :=
  match afterLineEnd? (text.dropWhile isSpace) with
  | some _ => some (blankLines text)
  | none => none

/-- The closing quotes at the start of a text: three of them, and up to two more that still belong to the
text. Answers how many belong to it. -/
def closing? (quote : Char) (text : List Char) : Option Nat :=
  let run := (text.takeWhile fun c => c = quote).length
  if run < 3 then none else some (min (run - 3) 2)

/-- A text in triple quotes, with escapes when the quotes are double ones. -/
def linesFrom (quote : Char) (done : List Char) (text : List Char) : Option (List Char × List Char) :=
  match closing? quote text with
  | some more => some ((List.replicate more quote ++ done).reverse, text.drop (more + 3))
  | none =>
    match text with
    | [] => none
    | '\r' :: '\n' :: rest => linesFrom quote ('\n' :: '\r' :: done) rest
    | c :: rest =>
      if c = '\\' && quote = '"' then
        match continuation? rest with
        | some taken => linesFrom quote done (rest.drop taken)
        | none =>
          match escape? rest with
          | some (escaped, taken) => linesFrom quote (escaped :: done) (rest.drop taken)
          | none => none
      else if c = '\n' || isPlain c then linesFrom quote (c :: done) rest
      else none
termination_by text.length

def readLines? (quote : Char) (text : List Char) : Option (List Char × List Char) :=
  linesFrom quote [] (skipFirstLineEnd text)

/-! ## All texts -/

def readText? : List Char → Option (List Char × List Char)
  | '"' :: '"' :: '"' :: rest => readLines? '"' rest
  | '\'' :: '\'' :: '\'' :: rest => readLines? '\'' rest
  | '"' :: rest => readBasic? rest
  | '\'' :: rest => readLiteral? rest
  | _ => none

end Patchwork.Toml
