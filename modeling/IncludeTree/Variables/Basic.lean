/-!
# Variables

`Variables` holds bindings of names to texts in the order in which the names were first bound.
`Variables.expand` substitutes them into a text: `$NAME`, `${NAME}` and `%NAME%` are placeholders,
where a name is a letter or an underscore followed by letters, digits and underscores, all ASCII.
The text is read once, from left to right, and a name extends as far as it can; an unbound name
stands for nothing, and what a name stands for is not read again.
-/

namespace IncludeTree

/-- Bindings of names to texts, in the order in which the names were first bound. -/
structure Variables where
  /-- The bindings. -/
  bindings : List (String × String) := []
deriving DecidableEq, Repr, Inhabited

namespace Variables

/-- Binds a name, in place of an earlier binding of it. -/
def set (vars : Variables) (name value : String) : Variables where
  bindings := insert vars.bindings
where
  /-- The bindings with the new one at its place. -/
  insert : List (String × String) → List (String × String)
    | [] => [(name, value)]
    | (n, v) :: rest => if n = name then (name, value) :: rest else (n, v) :: insert rest

/-- The bindings made one after the other. -/
def ofList (bindings : List (String × String)) : Variables :=
  bindings.foldl (fun vars b => vars.set b.1 b.2) {}

/-- The text bound to a name. -/
def get? (vars : Variables) (name : String) : Option String := vars.bindings.lookup name

/-- Whether a name is bound. -/
def contains (vars : Variables) (name : String) : Bool := (vars.get? name).isSome

/-- The number of bound names. -/
def size (vars : Variables) : Nat := vars.bindings.length

/-! ## Names -/

/-- Whether a character may start a name. -/
def isNameStart (c : Char) : Bool := c.isAlpha || c = '_'

/-- Whether a character may stand in a name after its start. -/
def isNamePart (c : Char) : Bool := c.isAlphanum || c = '_'

/-- Whether a text is a name. -/
def isName : List Char → Bool
  | [] => false
  | c :: rest => isNameStart c && rest.all isNamePart

/-- The longest name that a text starts with, and what follows it. -/
def splitName? : List Char → Option (List Char × List Char)
  | [] => none
  | c :: rest =>
    if isNameStart c then some (c :: rest.takeWhile isNamePart, rest.dropWhile isNamePart) else none

theorem splitName?_append {s name rest : List Char} (h : splitName? s = some (name, rest)) :
    name ++ rest = s := by
  cases s with
  | nil => simp [splitName?] at h
  | cons c s =>
    simp only [splitName?] at h
    split at h
    · obtain ⟨rfl, rfl⟩ := Prod.mk.inj (Option.some.inj h)
      simp
    · contradiction

theorem splitName?_length {s name rest : List Char} (h : splitName? s = some (name, rest)) :
    rest.length < s.length := by
  have happ := splitName?_append h
  cases s with
  | nil => simp [splitName?] at h
  | cons c s =>
    simp only [splitName?] at h
    split at h
    · obtain ⟨rfl, rfl⟩ := Prod.mk.inj (Option.some.inj h)
      have := congrArg List.length happ
      simp only [List.cons_append, List.length_cons, List.length_append] at this ⊢
      omega
    · contradiction

/-! ## Placeholders -/

/-- A name closed by a character, and what follows that character. -/
def closedName? (closing : Char) (s : List Char) : Option (List Char × List Char) :=
  match splitName? s with
  | some (name, c :: rest) => if c = closing then some (name, rest) else none
  | _ => none

theorem closedName?_length {closing : Char} {s name rest : List Char}
    (h : closedName? closing s = some (name, rest)) : rest.length < s.length := by
  unfold closedName? at h
  split at h
  · next hs =>
    split at h
    · obtain ⟨rfl, rfl⟩ := Prod.mk.inj (Option.some.inj h)
      have := splitName?_length hs
      simp only [List.length_cons] at this
      omega
    · contradiction
  · contradiction

/-- The name in the placeholder that a text starts with, and what follows the placeholder. -/
def placeholder? : List Char → Option (List Char × List Char)
  | '$' :: '{' :: rest => closedName? '}' rest
  | '$' :: rest => splitName? rest
  | '%' :: rest => closedName? '%' rest
  | _ => none

theorem placeholder?_length {s name rest : List Char}
    (h : placeholder? s = some (name, rest)) : rest.length < s.length := by
  unfold placeholder? at h
  split at h
  · have := closedName?_length h
    simp only [List.length_cons]; omega
  · have := splitName?_length h
    simp only [List.length_cons]; omega
  · have := closedName?_length h
    simp only [List.length_cons]; omega
  · contradiction

/-- The characters that a name stands for. -/
def value (vars : Variables) (name : List Char) : List Char :=
  ((vars.get? (String.ofList name)).getD "").toList

/-- The characters of a text with every placeholder replaced by what its name stands for. -/
def expandChars (vars : Variables) (s : List Char) : List Char :=
  match _h : placeholder? s with
  | some (name, rest) => vars.value name ++ expandChars vars rest
  | none =>
    match s with
    | [] => []
    | c :: rest => c :: expandChars vars rest
termination_by s.length
decreasing_by
  · exact placeholder?_length ‹_›
  · simp

/-- A text with every placeholder replaced by what its name stands for. -/
def expand (vars : Variables) (s : String) : String :=
  String.ofList (vars.expandChars s.toList)

end Variables

end IncludeTree
