import Patchwork.Text.Numeral

/-!
# Command lines

A command line sets options. An option is written `--name`, and some have a letter that is written after
a single dash; letters of options without values may share one dash. An option with a value takes it from
the same argument, after an equals sign, or from the next argument, which must not look like an option.
A dash alone does not look like one.

Reading stops at the first argument that is neither an option nor a value, and after two dashes alone.
An option is entered once at most. One whose value stands in the next argument is entered only when the
next option is met or when the reading is finished, so until then neither its value nor a repetition of it
is found fault with.
-/

set_option autoImplicit false

namespace Patchwork.CommandLine

/-- Why a command line sets nothing. -/
inductive Refusal where
  | help
  | usage
  deriving DecidableEq, Repr

/-- What an option can set. -/
inductive Setting where
  | baseDirectory
  | dryRun
  | json
  | verbose
  | config
  | path
  | marker
  | stepFile
  | threshold
  | permissionMarker
  | duplicateMarker
  deriving DecidableEq, Repr

/-- The name of an option, written after two dashes. -/
def Setting.name : Setting → String
  | .baseDirectory => "base-dir"
  | .dryRun => "dry-run"
  | .json => "json"
  | .verbose => "verbose"
  | .config => "config"
  | .path => "path"
  | .marker => "marker"
  | .stepFile => "step-file"
  | .threshold => "threshold"
  | .permissionMarker => "permission-marker"
  | .duplicateMarker => "duplicate-marker"

/-- The letter of an option, written after one dash. -/
def Setting.letter? : Setting → Option Char
  | .verbose => some 'v'
  | .config => some 'c'
  | _ => none

/-- A flag has no value. -/
def Setting.isFlag : Setting → Bool
  | .dryRun => true
  | .json => true
  | .verbose => true
  | _ => false

/-- A count: decimal digits, perhaps after a plus sign, for a number below `2 ^ 64`. -/
def count? (value : String) : Option Nat :=
  let digits := match value.toList with
    | '+' :: rest => rest
    | chars => chars
  if digits.isEmpty || !digits.all Char.isDigit then none
  else (some (Text.decimal digits)).filter fun number => number < UInt64.size

/-- A value that a setting can have. -/
def Setting.accepts (setting : Setting) (value : String) : Bool :=
  match setting with
  | .threshold => (count? value).isSome
  | _ => true

/-- The options read so far. -/
structure Entries where
  /-- The settings entered, each with its value; a flag has the empty one. -/
  entered : List (Setting × String)
  /-- The setting last read, when its value stood in an argument of its own. -/
  pending : Option (Setting × String)
  deriving DecidableEq, Repr

namespace Entries

def empty : Entries := ⟨[], none⟩

def get? (entries : Entries) (setting : Setting) : Option String :=
  (entries.entered.find? fun entry => entry.1 = setting).map Prod.snd

def has (entries : Entries) (setting : Setting) : Bool :=
  (entries.get? setting).isSome

/-- Enters a setting for the first time with a value that it can have. -/
def enter (entries : Entries) (setting : Setting) (value : String) : Except Refusal Entries :=
  if entries.has setting || !setting.accepts value then .error .usage
  else .ok { entries with entered := entries.entered ++ [(setting, value)] }

/-- Enters the setting that waits. -/
def settle (entries : Entries) : Except Refusal Entries :=
  match entries.pending with
  | none => .ok entries
  | some (setting, value) => { entries with pending := none }.enter setting value

end Entries

/-- An argument that does not look like an option. -/
def isWord (argument : String) : Bool :=
  match argument.toList with
  | '-' :: _ :: _ => false
  | _ => true

def named? (settings : List Setting) (name : String) : Option Setting :=
  settings.find? fun setting => setting.name = name

def lettered? (settings : List Setting) (letter : Char) : Option Setting :=
  settings.find? fun setting => setting.letter? = some letter

/-- What an argument does: the entries with it, and the setting whose value the next argument is. -/
abbrev Step := Except Refusal (Entries × Option Setting)

/-- An option with its value, or one that takes the next argument as its value. -/
def take (entries : Entries) (setting : Setting) (attached : Option String) : Step := do
  let entries ← entries.settle
  if setting.isFlag then
    match attached with
    | some _ => .error .usage
    | none => return (← entries.enter setting "", none)
  else
    match attached with
    | some value => return (← entries.enter setting value, none)
    | none => return (entries, some setting)

/-- The request for help ends the reading, but not before what waits is entered. -/
def askHelp (entries : Entries) : Step := do
  let _ ← entries.settle
  .error .help

def takeNamed (settings : List Setting) (entries : Entries) (option : List Char) : Step :=
  let name := String.ofList (option.takeWhile fun c => c ≠ '=')
  let attached := match option.dropWhile fun c => c ≠ '=' with
    | [] => none
    | _ :: value => some (String.ofList value)
  if name = "help" then
    match attached with
    | some _ => .error .usage
    | none => askHelp entries
  else match named? settings name with
    | none => .error .usage
    | some setting => take entries setting attached

/-- Options by their letters. What follows the letter of an option with a value is its value, an equals
sign before it aside. -/
def takeLetters (settings : List Setting) (entries : Entries) : List Char → Step
  | [] => .ok (entries, none)
  | letter :: rest =>
    if letter = 'h' then askHelp entries
    else match lettered? settings letter with
      | none => .error .usage
      | some setting =>
        if setting.isFlag then do
          let (entries, _) ← take entries setting none
          takeLetters settings entries rest
        else
          match rest with
          | [] => take entries setting none
          | '=' :: value => take entries setting (some (String.ofList value))
          | value => take entries setting (some (String.ofList value))

def takeOption (settings : List Setting) (entries : Entries) (argument : String) : Step :=
  match argument.toList with
  | '-' :: '-' :: option => takeNamed settings entries option
  | '-' :: letters => takeLetters settings entries letters
  | _ => .error .usage

/-- What a reading leaves: the entries, the arguments from the first word on, and whether two dashes came
before them. -/
structure Reading where
  entries : Entries
  rest : List String
  closed : Bool
  deriving Repr

def read (settings : List Setting) (entries : Entries) : List String → Except Refusal Reading
  | [] => .ok ⟨entries, [], false⟩
  | argument :: rest =>
    if argument = "--" then .ok ⟨entries, rest, true⟩
    else if isWord argument then .ok ⟨entries, argument :: rest, false⟩
    else
      match takeOption settings entries argument with
      | .error refusal => .error refusal
      | .ok (entries, none) => read settings entries rest
      | .ok (entries, some setting) =>
        match rest with
        | [] => .error .usage
        | value :: rest =>
          if isWord value then read settings { entries with pending := some (setting, value) } rest
          else .error .usage

def readAll (settings : List Setting) (arguments : List String) : Except Refusal Entries := do
  let reading ← read settings .empty arguments
  if reading.rest.isEmpty then reading.entries.settle else .error .usage

end Patchwork.CommandLine
