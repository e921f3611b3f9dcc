import Patchwork.Text.Scan

/-!
# Placeholders for environment variables

A placeholder is a dollar sign and a name in braces; the name is not empty and holds no closing brace.
Expanding a text replaces each placeholder by the value of the variable, and leaves it as it is when the
variable is not set. The text is passed once from left to right and values are not looked at again, so a
placeholder in a value stays.
-/

set_option autoImplicit false

namespace Patchwork

/-- The values of environment variables, where they are set. -/
abbrev Environment := String → Option String

/-- The environment that holds the given names and values. It keeps each as one text, the name and the
value with an equals sign between them, and looks for a text that goes on with an equals sign after the
name. So a name with an equals sign in it may reach into a value. -/
def Environment.ofEntries (entries : List (String × String)) : Environment := fun name =>
  let start := name.toList ++ ['=']
  entries.findSome? fun entry =>
    let kept := entry.1.toList ++ '=' :: entry.2.toList
    if start.isPrefixOf kept then some (String.ofList (kept.drop start.length)) else none

namespace Placeholder

open Text (Look)

/-- A look for a placeholder, whose name is what it means. Where no closing brace is left there is no
placeholder either, so all of the rest is passed over. -/
def look : List Char → Look (List Char)
  | '$' :: '\x7b' :: rest =>
    let name := rest.takeWhile fun c => c ≠ '\x7d'
    match rest.dropWhile fun c => c ≠ '\x7d' with
    | [] => .miss (rest.length + 1)
    | _ => if name.isEmpty then .miss 0 else .hit name (name.length + 2)
  | _ => .miss 0

def written (name : List Char) : List Char :=
  '$' :: '\x7b' :: name ++ ['\x7d']

/-- What a placeholder becomes. -/
def fill (environment : Environment) (name : List Char) : List Char :=
  match environment (String.ofList name) with
  | some value => value.toList
  | none => written name

def expandChars (environment : Environment) (text : List Char) : List Char :=
  let found := Text.scan look text
  found.hits.flatMap (fun hit => hit.1 ++ fill environment hit.2) ++ found.tail

def expand (environment : Environment) (text : String) : String :=
  String.ofList (expandChars environment text.toList)

def names (text : String) : List String :=
  (Text.scan look text.toList).hits.map fun hit => String.ofList hit.2

end Placeholder

end Patchwork
