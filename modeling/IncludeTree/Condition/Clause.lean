import IncludeTree.Text.Blank
import IncludeTree.Variables.Basic

/-!
# Clauses of a condition

A `Clause` asks whether a variable is bound to a text that is not empty, or compares what is bound
to it with an `Operand`. An unbound variable equals `null` and nothing else, not even the empty
text. `Clause.read` reads a clause from its text, which is trimmed already.
-/

namespace IncludeTree.Condition

/-- What a variable is compared with. -/
inductive Operand where
  /-- The absence of a value. -/
  | null
  /-- What is bound to another variable. -/
  | named (name : String)
  /-- A text. -/
  | literal (text : String)
deriving DecidableEq, Repr

/-- A part of a condition that is joined to others by `&&` and `||`. -/
inductive Clause where
  /-- The variable is bound to a text that is not empty. -/
  | present (name : String)
  /-- What is bound to the variable equals the operand, or differs from it. -/
  | compare (name : String) (equal : Bool) (operand : Operand)
deriving DecidableEq, Repr

/-- Why a text is no condition. -/
inductive Fault where
  /-- The condition is blank. -/
  | empty
  /-- A clause is neither a variable nor a comparison. -/
  | unsupported (clause : String)
  /-- The right side of a comparison is no operand. -/
  | noOperand (text : String)
deriving DecidableEq, Repr

/-- The wording of a fault. -/
def Fault.message : Fault → String
  | empty => "empty `if` expression"
  | unsupported clause => "unsupported expression: " ++ clause
  | noOperand text => "expected a quoted string, variable or null, got: " ++ text

/-! ## Meaning -/

/-- What an operand stands for; `none` is the absence of a value. -/
def Operand.value (vars : Variables) : Operand → Option String
  | null => none
  | named name => vars.get? name
  | literal text => some text

/-- Whether a clause holds. -/
def Clause.holds (vars : Variables) : Clause → Bool
  | present name =>
    match vars.get? name with
    | some value => value ≠ ""
    | none => false
  | compare name equal operand => (vars.get? name == operand.value vars) == equal

/-! ## Reading -/

/-- The name of the variable that a text consists of. -/
def varName? : List Char → Option (List Char)
  | '$' :: name => if Variables.isName name then some name else none
  | _ => none

/-- The text between two quotes of the given kind that a text starts and ends with. -/
def unquote? (quote : Char) : List Char → Option (List Char)
  | c :: d :: rest =>
    if c = quote && (d :: rest).getLastD c = quote then some (d :: rest).dropLast else none
  | _ => none

/-- An operand, from its trimmed text. -/
def Operand.read (s : List Char) : Except Fault Operand :=
  if s = ['n', 'u', 'l', 'l'] then .ok null
  else match varName? s with
    | some name => .ok (named (String.ofList name))
    | none =>
      match unquote? '"' s with
      | some text => .ok (literal (String.ofList text))
      | none =>
        match unquote? '\'' s with
        | some text => .ok (literal (String.ofList text))
        | none => .error (.noOperand (String.ofList s))

/-- The two sides of the operator that a text starts with: whether it asks for equality, and what
follows it. -/
def operator? : List Char → Option (Bool × List Char)
  | '=' :: '=' :: rest => some (true, rest)
  | '!' :: '=' :: rest => some (false, rest)
  | _ => none

/-- The parts of a comparison: the variable, the operator and the text of the operand. The operand
has to fill the rest of its line. -/
def comparison? : List Char → Option (List Char × Bool × List Char)
  | '$' :: s =>
    match Variables.splitName? s with
    | some (name, rest) =>
      match operator? (Text.trimStart rest) with
      | some (equal, rest) =>
        let body := Text.trimStart rest
        if body.isEmpty || body.contains '\n' then none else some (name, equal, Text.trimEnd body)
      | none => none
    | none => none
  | _ => none

/-- A clause, from its trimmed text. -/
def Clause.read (s : List Char) : Except Fault Clause :=
  match varName? s with
  | some name => .ok (present (String.ofList name))
  | none =>
    match comparison? s with
    | some (name, equal, body) =>
      match Operand.read body with
      | .ok operand => .ok (compare (String.ofList name) equal operand)
      | .error e => .error e
    | none => .error (.unsupported (String.ofList s))

end IncludeTree.Condition
