import Patchwork.Json.Printer

/-!
# Log entries, filters and formats

An entry has a level, the program part that it comes from, and a message. A filter is a list of rules;
a rule admits entries of its level and worse, either from everywhere or from the parts whose name starts
with a given word. For each entry the rule with the longest such word decides, and an entry for which
there is no rule is not admitted.

The format of a log decides how messages are written down. Where they go to a terminal as they are, they
must not hold the control characters that a terminal obeys.
-/

set_option autoImplicit false

namespace Patchwork.Log

/-- Levels, from the least to the most important. -/
inductive Level where
  | debug
  | info
  | warn
  | error
  deriving DecidableEq, Repr

def Level.name : Level → String
  | .debug => "DEBUG"
  | .info => "INFO"
  | .warn => "WARN"
  | .error => "ERROR"

def Level.rank : Level → Nat
  | .debug => 0
  | .info => 1
  | .warn => 2
  | .error => 3

/-- The program part that an entry comes from. -/
inductive Source where
  /-- Everything that patches files, and the program that applies one patch. -/
  | fixup
  /-- The program that runs a job file. -/
  | jobRunner
  deriving DecidableEq, Repr

def Source.name : Source → String
  | .fixup => "repo_fixup"
  | .jobRunner => "toml_fixup"

structure Entry where
  level : Level
  source : Source
  message : String
  deriving DecidableEq, Repr

def debug (message : String) : Entry := ⟨.debug, .fixup, message⟩
def info (message : String) : Entry := ⟨.info, .fixup, message⟩
def warn (message : String) : Entry := ⟨.warn, .fixup, message⟩
def error (message : String) : Entry := ⟨.error, .fixup, message⟩

/-- A rule about the parts whose name starts with `source`, or about all parts. -/
structure Rule where
  source : Option String
  level : Level
  deriving DecidableEq, Repr

/-- How narrow a rule is: a longer word is narrower, and a rule for all parts is the widest. -/
def Rule.weight (rule : Rule) : Nat :=
  match rule.source with
  | none => 0
  | some word => word.length + 1

def Rule.concerns (rule : Rule) (source : Source) : Bool :=
  match rule.source with
  | none => true
  | some word => word.toList.isPrefixOf source.name.toList

abbrev Filter := List Rule

/-- Of two rules the narrower one, and the later one of two equally narrow ones. -/
def Rule.narrower (rule : Rule) : Option Rule → Option Rule
  | none => some rule
  | some other => if other.weight ≤ rule.weight then some rule else some other

/-- The rule that decides about the entries of a part. -/
def Filter.deciding? (filter : Filter) (source : Source) : Option Rule :=
  (filter.filter fun rule => rule.concerns source).foldl (fun chosen rule => rule.narrower chosen) none

/-- A filter admits an entry when its deciding rule exists and is not above the entry's level. -/
def Filter.admits (filter : Filter) (entry : Entry) : Bool :=
  match filter.deciding? entry.source with
  | none => false
  | some rule => rule.level.rank ≤ entry.level.rank

def Filter.off : Filter := []

/-- The filter of a run for which none was asked: the informative entries of the patching parts, or with
`verbose` also their details and the informative entries of every part. -/
def Filter.default (verbose : Bool) : Filter :=
  if verbose then [⟨some "repo_fixup", .debug⟩, ⟨none, .info⟩] else [⟨some "repo_fixup", .info⟩]

def Level.word (level : Level) : String :=
  level.name.map Char.toLower

def Rule.render (rule : Rule) : String :=
  match rule.source with
  | none => rule.level.word
  | some word => word ++ "=" ++ rule.level.word

/-- A filter as it is written: its rules with commas between them. -/
def Filter.render (filter : Filter) : String :=
  ",".intercalate (filter.map Rule.render)

/-! ## Formats -/

inductive Format where
  | compact
  | json
  deriving DecidableEq, Repr

/-- A control character that a terminal obeys: the bell, the backspace, the form feed, the escape, the
delete character, and all the control characters beyond ASCII. -/
def isTerminalControl (c : Char) : Bool :=
  c = '\x07' || c = '\x08' || c = '\x0c' || c = '\x1b' || (0x7F ≤ c.toNat && c.toNat ≤ 0x9F)

/-- A control character by its number, in two digits of base sixteen. -/
def escapeControl (c : Char) : List Char :=
  let digits := [Text.hexDigit (c.toNat / 16), Text.hexDigit (c.toNat % 16)]
  if c.toNat < 0x80 then '\\' :: 'x' :: digits else '\\' :: 'u' :: '\x7b' :: digits ++ ['\x7d']

/-- A message as the format shows it. A JSON object holds any text as it is. -/
def Format.message (format : Format) (message : String) : String :=
  match format with
  | .compact =>
    String.ofList (message.toList.flatMap fun c => if isTerminalControl c then escapeControl c else [c])
  | .json => message

def Format.line (format : Format) (entry : Entry) : String :=
  match format with
  | .compact => s!"{entry.level.name} {entry.message}"
  | .json =>
    let quoted (text : String) : String := String.ofList (Json.quote text)
    s!"\x7b\"level\":{quoted entry.level.name},\"message\":{quoted entry.message}\x7d"

/-! ## Logs -/

/-- Which entries a log takes, and how it shows them. -/
structure Setup where
  filter : Filter
  format : Format
  deriving DecidableEq, Repr

def Setup.off : Setup := ⟨.off, .compact⟩

/-- What becomes of an entry: it is shown in the log's format, or not taken. -/
def Setup.record? (setup : Setup) (entry : Entry) : Option Entry :=
  if setup.filter.admits entry then
    some { entry with message := setup.format.message entry.message }
  else none

end Patchwork.Log
