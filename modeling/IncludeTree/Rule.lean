import IncludeTree.Json.Decode

/-!
# Rules

A `Rule` guards an include: a condition on the variables, paths that must exist, and what follows
when both hold. This module holds the records and their JSON form; what a list of rules decides is
said in `IncludeTree.RuleEvaluation`.
-/

namespace IncludeTree

/-- What a rule says about the include when it holds. -/
inductive When where
  /-- The include is active. -/
  | always
  /-- The include is dropped. -/
  | never
deriving DecidableEq, Repr

/-- One rule of an include. -/
structure Rule where
  /-- An expression over the variables. -/
  condition : Option String := none
  /-- Patterns of paths; one of them has to match a file. No pattern asks for nothing. -/
  paths : List String := []
  /-- What holds when the rule does; a rule without it keeps the include. -/
  when : Option When := none
deriving DecidableEq, Repr, Inhabited

namespace When

/-- The word for a verdict. -/
def word : When → String
  | always => "always"
  | never => "never"

/-- The verdict that a word stands for. -/
def ofWord? (s : String) : Option When :=
  if s = "always" then some always else if s = "never" then some never else none

@[simp] theorem ofWord?_word (w : When) : ofWord? w.word = some w := by
  cases w <;> simp [ofWord?, word]

/-- The JSON form of a verdict is its word. -/
def encode (w : When) : Json := .str w.word

/-- A verdict by its word, or by an object whose only key is the word and whose value is `null`. -/
def decode : Json → Except Json.DecodeError When
  | .str s => named s
  | .obj [(key, value)] =>
    match named key with
    | .error e => .error e
    | .ok w => if value.isNull then .ok w else .error (.wrongType value "unit")
  | .obj _ => .error .notOneMember
  | v => .error (.wrongType v "string or map")
where
  /-- The verdict with a name. -/
  named (s : String) : Except Json.DecodeError When :=
    match ofWord? s with
    | some w => .ok w
    | none => .error (.unknownName s ["always", "never"])

@[simp] theorem decode_encode (w : When) : decode w.encode = .ok w := by
  simp [decode, encode, decode.named]

end When

namespace Rule

/-- A list of strings, given as such or as a single string. -/
def decodePaths : Json → Except Json.DecodeError (List String)
  | .str s => .ok [s]
  | v =>
    match Json.toList Json.toText v with
    | .ok paths => .ok paths
    | .error _ => .error (.noForm "OneOrMany")

/-- The JSON form of a rule; what is absent or empty is left out. -/
def encode (r : Rule) : Json :=
  .obj (Json.optionalMember "if" Json.str r.condition
    ++ (if r.paths.isEmpty then [] else [("exists", .arr (r.paths.map Json.str))])
    ++ Json.optionalMember "when" When.encode r.when)

/-- The keys of a rule, in the order of a positional list. -/
def keys : List String := ["if", "exists", "when"]

/-- The rule with the field of a key set from a JSON value; other keys change nothing. -/
def setField (r : Rule) (key : String) (v : Json) : Except Json.DecodeError Rule :=
  if key = "if" then (Json.toOptional Json.toText v).map fun a => { r with condition := a }
  else if key = "exists" then (decodePaths v).map fun a => { r with paths := a }
  else if key = "when" then (Json.toOptional When.decode v).map fun a => { r with when := a }
  else .ok r

/-- A rule from its JSON form. -/
def decode : Json → Except Json.DecodeError Rule :=
  Json.toRecord "Rule" keys setField {}

end Rule

end IncludeTree
