/-!
# KDL documents

A KDL document is a list of nodes. A `Node` has a name, entries in the order in which they were
written, and, if it was written with braces, a list of child nodes. An entry is an argument or a
property; of several properties with one key all are kept. Type annotations carry no meaning here
and are left out.
-/

namespace IncludeTree.Kdl

/-- A value of an entry. -/
inductive Value where
  /-- A string, in whichever way it was written. -/
  | string (s : String)
  /-- A whole number. -/
  | integer (n : Int)
  /-- A number with a fraction or an exponent, `digits · 10 ^ expo`. -/
  | decimal (digits : Int) (expo : Int)
  /-- An infinity. -/
  | infinite (negative : Bool)
  /-- The value that is no number. -/
  | nan
  /-- A truth value. -/
  | bool (b : Bool)
  /-- The null value. -/
  | null
deriving DecidableEq, Repr, Inhabited

/-- The string that a value is. -/
def Value.string? : Value → Option String
  | string s => some s
  | _ => none

/-- An entry of a node. -/
inductive Entry where
  /-- A value by itself. -/
  | argument (v : Value)
  /-- A value with a key. -/
  | property (key : String) (v : Value)
deriving DecidableEq, Repr, Inhabited

namespace Entry

/-- The value of an argument. -/
def argument? : Entry → Option Value
  | argument v => some v
  | property _ _ => none

/-- Whether an entry is a property. -/
def isProperty : Entry → Bool
  | property _ _ => true
  | argument _ => false

end Entry

/-- A node of a document. -/
inductive Node where
  /-- A node by its name, its entries and its children; `none` means that it has no braces. -/
  | mk (name : String) (entries : List Entry) (children : Option (List Node))
deriving Repr, Inhabited

namespace Node

/-- The name of a node. -/
def name : Node → String
  | mk name _ _ => name

/-- The entries of a node, in order. -/
def entries : Node → List Entry
  | mk _ entries _ => entries

/-- The children of a node; `none` means that it has no braces. -/
def children : Node → Option (List Node)
  | mk _ _ children => children

/-- The arguments of a node, in order. -/
def arguments (n : Node) : List Value := n.entries.filterMap Entry.argument?

/-- The arguments of a node that are strings, in order. -/
def stringArguments (n : Node) : List String := n.arguments.filterMap Value.string?

end Node

end IncludeTree.Kdl
