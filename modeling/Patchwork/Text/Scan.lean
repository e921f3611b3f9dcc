/-!
# Scanning a text from left to right

A scan looks at the start of what is left of a text. A hit takes some characters away, and the scan goes
on after them, so two hits never overlap. A miss passes over some characters, which then stand in the
gap before the next hit. Each step uses up at least one character, and so the scan ends.

The outcome is the list of hits, each with the gap in front of it, and the text after the last hit.
-/

set_option autoImplicit false

namespace Patchwork.Text

/-- What a look at the start of a text finds. Both answers speak of the first character and of `more`
characters after it. -/
inductive Look (α : Type) where
  /-- The characters are taken and mean `what`. -/
  | hit (what : α) (more : Nat)
  /-- No hit starts at any of the characters. -/
  | miss (more : Nat)

/-- The first hit in a text: the gap before it, what it means, and the text after it. -/
structure Find (α : Type) where
  gap : List Char
  what : α
  rest : List Char

/-- A whole text seen through its hits. -/
structure Scan (α : Type) where
  hits : List (List Char × α)
  tail : List Char

variable {α : Type}

/-- Looks for the first hit; `gap` holds the characters passed over so far, the last one first. -/
def findFrom (look : List Char → Look α) (gap : List Char) (text : List Char) : Option (Find α) :=
  match text with
  | [] => none
  | c :: rest =>
    match look (c :: rest) with
    | .hit what more => some ⟨gap.reverse, what, rest.drop more⟩
    | .miss more => findFrom look ((rest.take more).reverseAux (c :: gap)) (rest.drop more)
termination_by text.length

def find? (look : List Char → Look α) (text : List Char) : Option (Find α) :=
  findFrom look [] text

theorem length_rest_lt_of_findFrom {look : List Char → Look α} {gap text : List Char}
    {found : Find α} (finds : findFrom look gap text = some found) :
    found.rest.length < text.length := by
  fun_induction findFrom look gap text with
  | case1 => simp at finds
  | case2 gap c rest what more looked =>
    obtain rfl := Option.some.inj finds
    simp only [List.length_drop, List.length_cons]
    omega
  | case3 gap c rest more looked inductionHypothesis =>
    have shorter := inductionHypothesis finds
    simp only [List.length_drop, List.length_cons] at shorter ⊢
    omega

theorem length_rest_lt_of_find? {look : List Char → Look α} {text : List Char} {found : Find α}
    (finds : find? look text = some found) : found.rest.length < text.length :=
  length_rest_lt_of_findFrom finds

/-- All hits of a text, from left to right. -/
def scan (look : List Char → Look α) (text : List Char) : Scan α :=
  match finds : find? look text with
  | none => ⟨[], text⟩
  | some found =>
    have _shorter := length_rest_lt_of_find? finds
    let later := scan look found.rest
    ⟨(found.gap, found.what) :: later.hits, later.tail⟩
termination_by text.length

end Patchwork.Text
