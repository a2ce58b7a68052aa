import IncludeTree.Decimal.Shortest
import IncludeTree.Json.Basic
import IncludeTree.Text.Quoted

/-!
# Decoding JSON values

A decoder is a function from `Json` to a value or a `DecodeError`. This module holds the errors with
their wording and the decoders for strings, lists and optional values; the decoders of the records
stand beside those records.
-/

namespace IncludeTree.Json

/-- Why a JSON value does not denote a value of the wanted type. -/
inductive DecodeError where
  /-- The value has another type than the one wanted. -/
  | wrongType (found : Json) (wanted : String)
  /-- An object stands where an object with exactly one member is wanted. -/
  | notOneMember
  /-- A name is none of those allowed. -/
  | unknownName (name : String) (allowed : List String)
  /-- The value has none of the forms of the named type. -/
  | noForm (type : String)
  /-- A list gives more items than the record has fields. -/
  | tooLong (length : Nat)
deriving Repr

/-- A value as an error names it: by its type and, unless it is composed, by its text. -/
def describe : Json → String
  | null => "null"
  | bool b => "boolean `" ++ (if b then "true" else "false") ++ "`"
  | int n => "integer `" ++ toString n ++ "`"
  | float bits => "floating point `" ++ Decimal.text bits ++ "`"
  | str s => "string " ++ Text.quoted s
  | arr _ => "sequence"
  | obj _ => "map"

/-- Names between backquotes, joined as alternatives. -/
def alternatives (names : List String) : String :=
  " or ".intercalate (names.map fun name => "`" ++ name ++ "`")

/-- The wording of an error. -/
def DecodeError.message : DecodeError → String
  | wrongType found wanted => "invalid type: " ++ describe found ++ ", expected " ++ wanted
  | notOneMember => "invalid value: map, expected map with a single key"
  | unknownName name allowed =>
    "unknown variant `" ++ name ++ "`, expected " ++ alternatives allowed
  | noForm type => "data did not match any variant of untagged enum " ++ type
  | tooLong length =>
    "invalid length " ++ toString length ++ ", expected fewer elements in array"

/-- A string. -/
def toText : Json → Except DecodeError String
  | str s => .ok s
  | v => .error (.wrongType v "a string")

/-- An optional value; `null` is its absence. -/
def toOptional {α : Type} (decode : Json → Except DecodeError α) (v : Json) :
    Except DecodeError (Option α) :=
  match v with
  | null => .ok none
  | v => (decode v).map some

/-- The items of a list, each decoded; the first that fails decides. -/
def toItems {α : Type} (decode : Json → Except DecodeError α) :
    List Json → Except DecodeError (List α)
  | [] => .ok []
  | v :: rest =>
    match decode v with
    | .error e => .error e
    | .ok a =>
      match toItems decode rest with
      | .error e => .error e
      | .ok as => .ok (a :: as)

/-- A list whose items are decoded one by one. -/
def toList {α : Type} (decode : Json → Except DecodeError α) :
    Json → Except DecodeError (List α)
  | arr items => toItems decode items
  | v => .error (.wrongType v "a sequence")

/-- Reads the members of an object one after the other into a record that starts with defaults. -/
def readFields {α : Type} (set : α → String → Json → Except DecodeError α) :
    α → List (String × Json) → Except DecodeError α
  | a, [] => .ok a
  | a, (key, v) :: rest =>
    match set a key v with
    | .error e => .error e
    | .ok a => readFields set a rest

/-- Reads the items of a list as the fields of a record in their order. -/
def readPositions {α : Type} (set : α → String → Json → Except DecodeError α) (length : Nat) :
    α → List String → List Json → Except DecodeError α
  | a, _, [] => .ok a
  | _, [], _ :: _ => .error (.tooLong length)
  | a, field :: fields, v :: rest =>
    match set a field v with
    | .error e => .error e
    | .ok a => readPositions set length a fields rest

/-- A record, given as an object or as the list of its fields; fields that are not given keep their
defaults, and members with other keys are passed over by `set`. -/
def toRecord {α : Type} (type : String) (fields : List String)
    (set : α → String → Json → Except DecodeError α) (default : α) : Json → Except DecodeError α
  | obj members => readFields set default members
  | arr items => readPositions set items.length default fields items
  | v => .error (.wrongType v ("struct " ++ type))

end IncludeTree.Json
