import IncludeTree.Condition.Evaluation
import IncludeTree.Repository

/-!
# What rules decide

The rules of an include are tried in order, and the first that holds decides: the include is dropped
if that rule says so, and active otherwise. An include for which no rule holds is dropped. A rule
holds when its condition does and one of its patterns, with the variables put in, matches a file of
the scope; a rule without a condition or without patterns does not ask for it.
-/

namespace IncludeTree

/-- What rules are evaluated in. -/
structure Setting where
  /-- The scope of the including file. -/
  scope : Scope
  /-- The bound variables. -/
  vars : Variables := {}
  /-- What wildcards are looked up in. -/
  repository : Repository := Trees.repository {}

namespace Rule

/-- Whether the condition of a rule holds. -/
def conditionHolds (setting : Setting) (r : Rule) : Except SourceError Bool :=
  match r.condition with
  | none => .ok true
  | some text =>
    match Condition.evaluate setting.vars text with
    | .ok b => .ok b
    | .error fault => .error (.invalidRule fault.message)

/-- Whether one of several patterns matches a file of the scope; the first that does, or cannot be
searched for, decides. -/
def anyExists (setting : Setting) : List String → Except SourceError Bool
  | [] => .ok false
  | pattern :: rest =>
    match setting.repository.search setting.scope (setting.vars.expand pattern) with
    | .error e => .error e
    | .ok [] => anyExists setting rest
    | .ok (_ :: _) => .ok true

/-- Whether a rule holds; its patterns are looked at only if its condition holds. -/
def holds (setting : Setting) (r : Rule) : Except SourceError Bool :=
  match r.conditionHolds setting with
  | .error e => .error e
  | .ok false => .ok false
  | .ok true => if r.paths.isEmpty then .ok true else anyExists setting r.paths

/-- Whether a rule that holds keeps the include. -/
def keeps (r : Rule) : Bool := r.when != some .never

/-- Whether an include with these rules is active. -/
def evaluate (setting : Setting) : List Rule → Except SourceError Bool
  | [] => .ok false
  | r :: rest =>
    match r.holds setting with
    | .error e => .error e
    | .ok true => .ok r.keeps
    | .ok false => evaluate setting rest

end Rule

end IncludeTree
