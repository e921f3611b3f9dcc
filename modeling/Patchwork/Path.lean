/-!
# Paths

A path is a text in which slashes part the names. Joining only puts texts together: no name is looked up
and nothing is simplified.
-/

set_option autoImplicit false

namespace Patchwork.Path

def isAbsolute (path : List Char) : Bool :=
  path.head? = some '/'

def endsInSlash (path : List Char) : Bool :=
  path.getLast? = some '/'

/-- The path as seen from a base directory. An absolute path stands for itself; before any other path
the base is written, with a slash between them unless the base is empty or brings one. -/
def joinChars (base path : List Char) : List Char :=
  if isAbsolute path then path
  else if base.isEmpty || endsInSlash base then base ++ path
  else base ++ '/' :: path

def join (base path : String) : String :=
  String.ofList (joinChars base.toList path.toList)

/-- Puts one character in front of a path that is already cut at its slashes. -/
def joinName (c : Char) (later : List (List Char)) : List (List Char) :=
  if c = '/' then [] :: later
  else match later with
    | [] => [[c]]
    | name :: more => (c :: name) :: more

def pieces (path : List Char) : List (List Char) :=
  path.foldr joinName [[]]

/-- The names in a path, in order. Slashes that follow each other count as one. -/
def names (path : String) : List String :=
  ((pieces path.toList).filter fun piece => !piece.isEmpty).map String.ofList

/-! ## Joining -/

section Join

variable {base path : String}

theorem join_of_isAbsolute (absolute : isAbsolute path.toList = true) : join base path = path := by
  rw [join, joinChars, if_pos absolute, String.ofList_toList]

@[simp]
theorem join_empty (path : String) : join "" path = path := by
  simp [join, joinChars]

theorem join_of_endsInSlash (relative : isAbsolute path.toList = false)
    (slash : endsInSlash base.toList = true) : join base path = base ++ path := by
  simp [join, joinChars, relative, slash, String.ofList_append]

theorem join_of_not_endsInSlash (relative : isAbsolute path.toList = false) (nonempty : base ≠ "")
    (noSlash : endsInSlash base.toList = false) : join base path = base ++ "/" ++ path := by
  have chars : base.toList ≠ [] := fun empty => nonempty (String.toList_eq_nil_iff.1 empty)
  apply String.toList_injective
  simp [join, joinChars, relative, noSlash, chars]

/-- A relative path stands right behind a base that is empty or ends in a slash, and behind any other base and a
slash. -/
theorem join_cases (base : String) (relative : isAbsolute path.toList = false) :
    (join base path = base ++ path ∧ (base = "" ∨ endsInSlash base.toList = true)) ∨
      (join base path = base ++ "/" ++ path ∧ base ≠ "") := by
  by_cases empty : base = ""
  · exact .inl ⟨by rw [empty, join_empty, String.empty_append], .inl empty⟩
  cases slash : endsInSlash base.toList with
  | true => exact .inl ⟨join_of_endsInSlash relative slash, .inr rfl⟩
  | false => exact .inr ⟨join_of_not_endsInSlash relative empty slash, empty⟩

/-- A joined path ends in the path that was joined. -/
theorem exists_join_eq_append (base path : String) : ∃ front, join base path = front ++ path := by
  cases relative : isAbsolute path.toList with
  | true => exact ⟨"", by rw [join_of_isAbsolute relative, String.empty_append]⟩
  | false =>
    rcases join_cases base relative with ⟨joined, -⟩ | ⟨joined, -⟩
    · exact ⟨base, joined⟩
    · exact ⟨base ++ "/", joined⟩

private theorem isAbsolute_append {front rest : String} (nonempty : front ≠ "") :
    isAbsolute (front ++ rest).toList = isAbsolute front.toList := by
  obtain ⟨c, more, shape⟩ :=
    List.exists_cons_of_ne_nil fun none => nonempty (String.toList_eq_nil_iff.1 none)
  rw [String.toList_append, shape]
  rfl

theorem isAbsolute_join (relative : isAbsolute path.toList = false) :
    isAbsolute (join base path).toList = isAbsolute base.toList := by
  by_cases empty : base = ""
  · rw [empty, join_empty, relative]
    rfl
  rcases join_cases base relative with ⟨joined, -⟩ | ⟨joined, -⟩
  · rw [joined, isAbsolute_append empty]
  · rw [joined, String.append_assoc, isAbsolute_append empty]

theorem endsInSlash_join (nonempty : path ≠ "") :
    endsInSlash (join base path).toList = endsInSlash path.toList := by
  have chars : path.toList ≠ [] := fun none => nonempty (String.toList_eq_nil_iff.1 none)
  obtain ⟨front, joined⟩ := exists_join_eq_append base path
  rw [joined, String.toList_append, endsInSlash, endsInSlash, List.getLast?_append,
    List.getLast?_eq_some_getLast chars]
  rfl

end Join

/-! ## Names -/

theorem pieces_ne_nil (path : List Char) : pieces path ≠ [] := by
  cases path with
  | nil => simp [pieces]
  | cons c rest =>
    change joinName c (pieces rest) ≠ []
    unfold joinName
    split
    · simp
    · split <;> simp

private theorem joinName_append (c : Char) {later : List (List Char)} (nonempty : later ≠ [])
    (more : List (List Char)) : joinName c (later ++ more) = joinName c later ++ more := by
  unfold joinName
  split
  · rfl
  · cases later with
    | nil => exact absurd rfl nonempty
    | cons name rest => rfl

/-- A slash cuts a path, whatever stands before it and behind it. -/
theorem pieces_slash (front rest : List Char) : pieces (front ++ '/' :: rest) = pieces front ++ pieces rest := by
  induction front with
  | nil => rfl
  | cons c front inductionHypothesis =>
    change joinName c (pieces (front ++ '/' :: rest)) = joinName c (pieces front) ++ pieces rest
    rw [inductionHypothesis, joinName_append c (pieces_ne_nil front)]

@[simp]
theorem names_empty : names "" = [] := rfl

theorem names_slash (front rest : String) : names (front ++ "/" ++ rest) = names front ++ names rest := by
  have cut : (front ++ "/" ++ rest).toList = front.toList ++ '/' :: rest.toList := by simp
  rw [names, cut, pieces_slash, List.filter_append, List.map_append]
  rfl

theorem names_append_of_endsInSlash {front : String} (slash : endsInSlash front.toList = true)
    (rest : String) : names (front ++ rest) = names front ++ names rest := by
  obtain ⟨before, rfl⟩ : ∃ before, front = before ++ "/" := by
    obtain ⟨before, shape⟩ := List.getLast?_eq_some_iff.1 (of_decide_eq_true slash)
    refine ⟨String.ofList before, String.toList_injective ?_⟩
    rw [shape, String.toList_append, String.toList_ofList]
    rfl
  have closed : names (before ++ "/") = names before := by
    simpa using names_slash before ""
  rw [names_slash, closed]

theorem names_join {path : String} (base : String) (relative : isAbsolute path.toList = false) :
    names (join base path) = names base ++ names path := by
  rcases join_cases base relative with ⟨joined, rfl | slash⟩ | ⟨joined, -⟩
  · rw [joined, String.empty_append, names_empty, List.nil_append]
  · rw [joined, names_append_of_endsInSlash slash]
  · rw [joined, names_slash]

theorem names_ne_nil {path : String} (relative : isAbsolute path.toList = false) (nonempty : path ≠ "") :
    names path ≠ [] := by
  have chars : path.toList ≠ [] := fun none => nonempty (String.toList_eq_nil_iff.1 none)
  cases shape : path.toList with
  | nil => exact absurd shape chars
  | cons c rest =>
    have noSlash : c ≠ '/' := by
      rintro rfl
      rw [shape] at relative
      cases relative
    obtain ⟨name, more, cut⟩ := List.exists_cons_of_ne_nil (pieces_ne_nil rest)
    have first : pieces path.toList = (c :: name) :: more := by
      rw [shape]
      change joinName c (pieces rest) = _
      rw [cut]
      exact if_neg noSlash
    rw [names, first]
    simp

end Patchwork.Path
