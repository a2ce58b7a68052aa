/-!
# JSON values

`Json` is a JSON value. Numbers come in two forms: whole numbers that fit a 64-bit word, signed or
unsigned, are kept exactly, and every other number is the double nearest to it, held as its IEEE-754
bits. The members of an object stand in a list; `ofMembers` builds the list that a reader produces,
in the order of the keys and with the last of equal keys kept.
-/

namespace IncludeTree

/-- A JSON value. -/
inductive Json where
  /-- The value `null`. -/
  | null
  /-- A truth value. -/
  | bool (b : Bool)
  /-- A whole number. -/
  | int (n : Int)
  /-- A number that is not kept as a whole number, by its IEEE-754 bits. -/
  | float (bits : UInt64)
  /-- A string. -/
  | str (s : String)
  /-- A list of values. -/
  | arr (items : List Json)
  /-- An object, by its members. -/
  | obj (members : List (String × Json))
deriving Repr, Inhabited

namespace Json

/-- Whether a value is `null`. -/
def isNull : Json → Bool
  | null => true
  | _ => false

/-- The value of the last member with a key, if the value is an object that has one. -/
def member? (key : String) : Json → Option Json
  | obj members => (members.reverse.find? (·.1 == key)).map (·.2)
  | _ => none

/-- Puts a member at its place in the order of the keys, in place of one with the same key. -/
def insertMember (key : String) (value : Json) :
    List (String × Json) → List (String × Json)
  | [] => [(key, value)]
  | (k, v) :: rest =>
    if key = k then (key, value) :: rest
    else if key < k then (key, value) :: (k, v) :: rest
    else (k, v) :: insertMember key value rest

/-- The object with the given members, ordered by key; of equal keys the last counts. -/
def ofMembers (members : List (String × Json)) : Json :=
  obj (members.foldl (fun acc m => insertMember m.1 m.2 acc) [])

/-- The members for a field that may be absent. -/
def optionalMember {α : Type} (key : String) (encode : α → Json) : Option α → List (String × Json)
  | none => []
  | some a => [(key, encode a)]

end Json

end IncludeTree
