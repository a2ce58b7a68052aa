import IncludeTree.Condition.Clause

/-!
# Conditions

A condition is a list of alternatives parted by `||`, each a list of clauses parted by `&&`; an
operator between quotes is text. `evaluate` reads a condition from left to right and stops as soon
as the outcome is known, so what stands after that point is not read at all.
-/

namespace IncludeTree.Condition

/-! ## Parts outside quotes -/

/-- Whether a character opens a quotation. -/
def isQuote (c : Char) : Bool := c = '"' || c = '\''

/-- Puts a character in front of the first part. -/
def consFirst (c : Char) : List (List Char) → List (List Char)
  | [] => [[c]]
  | part :: parts => (c :: part) :: parts

/-- The quotation that is open after a character, if `open` is the one that is open before it. A
quotation is closed by the character that opened it. -/
def quoteAfter (isOpen : Option Char) (c : Char) : Option Char :=
  match isOpen with
  | some q => if c = q then none else some q
  | none => if isQuote c then some c else none

/-- The parts of a text between the places where a character stands twice in a row outside
quotations; `isOpen` is the quotation that is open at the start. -/
def splitFrom (c : Char) (isOpen : Option Char) : List Char → List (List Char)
  | [] => [[]]
  | [x] => [[x]]
  | x :: y :: rest =>
    if isOpen = none && !isQuote x && x = c && y = c then [] :: splitFrom c none rest
    else consFirst x (splitFrom c (quoteAfter isOpen x) (y :: rest))

/-- The parts of a text between the places where a character stands twice in a row outside
quotations. -/
def split (c : Char) (s : List Char) : List (List Char) := splitFrom c none s

/-! ## Evaluation -/

/-- Whether every clause of an alternative holds; the first that does not hold, or cannot be read,
decides. -/
def allHold (vars : Variables) : List (List Char) → Except Fault Bool
  | [] => .ok true
  | s :: rest =>
    match Clause.read (Text.trim s) with
    | .error e => .error e
    | .ok clause => if clause.holds vars then allHold vars rest else .ok false

/-- Whether some alternative holds; the first that does, or cannot be read, decides. -/
def anyHolds (vars : Variables) : List (List Char) → Except Fault Bool
  | [] => .ok false
  | s :: rest =>
    match allHold vars (split '&' s) with
    | .error e => .error e
    | .ok true => .ok true
    | .ok false => anyHolds vars rest

/-- Whether a condition holds. -/
def evaluate (vars : Variables) (s : String) : Except Fault Bool :=
  if Text.isBlankText s then .error .empty else anyHolds vars (split '|' s.toList)

end IncludeTree.Condition
