import Patchwork.Toml.Assembly
import Patchwork.Toml.Quoted
import Patchwork.Toml.Scalar

/-!
# Reading TOML documents

The readers take the text that is left and answer what they read and what is left then, or nothing when
the text does not go on as it must. A document that cannot be read has no table; where it goes wrong is
not told.

Loops count down an allowance of steps. Each step uses up at least one character, and the allowance is
greater than the number of characters in the document, so it never decides. What does decide are two
limits: a key has at most `keyLimit` parts, and arrays and closed tables stand at most `nestingLimit`
levels deep.
-/

set_option autoImplicit false

namespace Patchwork.Toml

/-! ## Between the words -/

def skipSpace (text : List Char) : List Char :=
  text.dropWhile isSpace

/-- Passes over a comment, if there is one, up to the end of its line. -/
def skipComment (text : List Char) : List Char :=
  match text with
  | '#' :: rest => rest.dropWhile isPlain
  | _ => text

/-- The end of a line: blanks, perhaps a comment, and a line end or the end of the text. -/
def finishLine? (text : List Char) : Option (List Char) :=
  match skipComment (skipSpace text) with
  | [] => some []
  | rest => afterLineEnd? rest

/-- Passes over blanks, line ends and comments; `inComment` says that a comment is not over yet. -/
def skipFillerFrom (inComment : Bool) : List Char → List Char
  | [] => []
  | '\n' :: rest => skipFillerFrom false rest
  | '\r' :: '\n' :: rest => skipFillerFrom false rest
  | c :: rest =>
    if inComment then (if isPlain c then skipFillerFrom true rest else c :: rest)
    else if c = '#' then skipFillerFrom true rest
    else if isSpace c then skipFillerFrom false rest
    else c :: rest

def skipFiller (text : List Char) : List Char :=
  skipFillerFrom false text

/-- The text after a character that it must begin with. -/
def expect? (c : Char) : List Char → Option (List Char)
  | first :: rest => if first = c then some rest else none
  | [] => none

/-! ## Keys -/

/-- A character of a key without quotes. -/
def isBare (c : Char) : Bool :=
  c.isAlphanum || c = '_' || c = '-'

def readKeyPart? (text : List Char) : Option (String × List Char) :=
  match text with
  | '"' :: rest => (readBasic? rest).map fun (part, rest) => (String.ofList part, rest)
  | '\'' :: rest => (readLiteral? rest).map fun (part, rest) => (String.ofList part, rest)
  | _ =>
    match text.takeWhile isBare with
    | [] => none
    | part => some (String.ofList part, text.dropWhile isBare)

/-- A key of at most `limit` parts with points between them: all parts but the last, and the last. The
blanks after the key are passed over too. -/
def readParts? : (limit : Nat) → List Char → Option ((List String × String) × List Char)
  | 0, _ => none
  | limit + 1, text => do
    let (part, rest) ← readKeyPart? text
    let rest := skipSpace rest
    match rest with
    | '.' :: rest =>
      let ((path, key), rest) ← readParts? limit (skipSpace rest)
      return ((part :: path, key), rest)
    | _ => return (([], part), rest)

/-- How many parts a key may have. -/
def keyLimit : Nat := 80

def readKey? (text : List Char) : Option ((List String × String) × List Char) :=
  readParts? keyLimit text

/-! ## Values -/

/-- How deep arrays and closed tables may stand in each other. -/
def nestingLimit : Nat := 80

/-- The items of an array after its bracket, each read by `read?`. -/
def readItems? (read? : List Char → Option (Item × List Char)) :
    Nat → List Char → Option (List Item × List Char)
  | 0, _ => none
  | steps + 1, text =>
    match skipFiller text with
    | ']' :: rest => some ([], rest)
    | start => do
      let (item, rest) ← read? start
      match skipFiller rest with
      | ',' :: rest =>
        let (items, rest) ← readItems? read? steps rest
        return (item :: items, rest)
      | ']' :: rest => return ([item], rest)
      | _ => none

/-- The assignments of a closed table after its brace, with values read by `read?`. -/
def readMembers? (read? : List Char → Option (Item × List Char)) :
    Nat → List Char → Option (List Assignment × List Char)
  | 0, _ => none
  | steps + 1, text =>
    match skipFiller text with
    | '\x7d' :: rest => some ([], rest)
    | start => do
      let ((path, key), rest) ← readKey? start
      let rest ← expect? '=' (skipFiller rest)
      let (item, rest) ← read? (skipFiller rest)
      match skipFiller rest with
      | ',' :: rest =>
        let (assignments, rest) ← readMembers? read? steps rest
        return (⟨path, key, item⟩ :: assignments, rest)
      | '\x7d' :: rest => return ([⟨path, key, item⟩], rest)
      | _ => none

/-- A value in which arrays and closed tables stand at most `depth` levels deep. -/
def readValue? (allowance : Nat) : Nat → List Char → Option (Item × List Char)
  | depth, text =>
    match text with
    | '"' :: _ => (readText? text).map fun (text, rest) => (.string (String.ofList text), rest)
    | '\'' :: _ => (readText? text).map fun (text, rest) => (.string (String.ofList text), rest)
    | '[' :: rest =>
      match depth with
      | 0 => none
      | depth + 1 =>
        (readItems? (readValue? allowance depth) allowance rest).map fun (items, rest) =>
          (.array items, rest)
    | '\x7b' :: rest =>
      match depth with
      | 0 => none
      | depth + 1 => do
        let (assignments, rest) ← readMembers? (readValue? allowance depth) allowance rest
        let members ← assignAll [] assignments
        return (.table .inline members, rest)
    | _ => readWord? text

/-! ## Documents -/

inductive Statement where
  | assignment (entry : Assignment)
  | header (repeated : Bool) (path : List String) (key : String)

/-- A key, its value, and the end of the line. -/
def readAssignment? (allowance : Nat) (text : List Char) : Option (Statement × List Char) := do
  let ((path, key), rest) ← readKey? text
  let rest ← expect? '=' rest
  let (item, rest) ← readValue? allowance nestingLimit (skipSpace rest)
  return (.assignment ⟨path, key, item⟩, ← finishLine? rest)

/-- A header after its first bracket. -/
def readHeader? (text : List Char) : Option (Statement × List Char) :=
  match text with
  | '[' :: rest => do
    let ((path, key), rest) ← readKey? (skipSpace rest)
    let rest ← expect? ']' (← expect? ']' rest)
    return (.header true path key, ← finishLine? rest)
  | _ => do
    let ((path, key), rest) ← readKey? (skipSpace text)
    let rest ← expect? ']' rest
    return (.header false path key, ← finishLine? rest)

def readStatements? (allowance : Nat) : Nat → List Char → Option (List Statement)
  | 0, _ => none
  | steps + 1, text =>
    match skipFiller text with
    | [] => some []
    | '[' :: rest => do
      let (statement, rest) ← readHeader? rest
      return statement :: (← readStatements? allowance steps rest)
    | start => do
      let (statement, rest) ← readAssignment? allowance start
      return statement :: (← readStatements? allowance steps rest)

/-- Puts the first statement of a document before the rest of it. -/
def Statement.before (statement : Statement) (document : Document) : Document :=
  match statement with
  | .assignment entry => { document with assignments := entry :: document.assignments }
  | .header repeated path key =>
    ⟨[], ⟨repeated, path, key, document.assignments⟩ :: document.parts⟩

/-- The statements put in order: each header takes the assignments up to the next one. -/
def Document.ofStatements (statements : List Statement) : Document :=
  statements.foldr Statement.before ⟨[], []⟩

/-- Passes over one byte order mark. -/
def skipMark : List Char → List Char
  | '\uFEFF' :: rest => rest
  | text => text

def read? (text : String) : Option Members := do
  let start := skipMark text.toList
  let allowance := start.length + 1
  let statements ← readStatements? allowance allowance start
  (Document.ofStatements statements).table?

end Patchwork.Toml
