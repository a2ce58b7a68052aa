import IncludeTree.Condition.Evaluation

/-!
# Parts of a condition as slices

`split` puts the parts of a text together character by character. The same parts can be taken out of
the text as they stand, in one pass over its characters that knows the byte at which each of them
starts: `slices?`. There is a slice only between two places that do not cut through a character and
of which the first is not behind the second (`slice?`), and a single slice that does not exist is
enough for the pass to have no result.

Behind an operator the next part starts at the end of the operator, which is further on than the
character that the pass looks at next. Until the pass has caught up, there is no operator.
-/

namespace IncludeTree.Condition

/-- What a text has between two bytes, if these are the first one and the end of a part of it. -/
def slice? (text : String) (start stop : String.Pos.Raw) : Option String :=
  if start ≤ stop ∧ start.IsValid text ∧ stop.IsValid text then some (start.extract text stop)
  else none

/-- The slices of a text between the operators outside quotations, from the character at a place on;
`isOpen` is the quotation that is open there, and `start` is where the current part starts. -/
def slicesFrom? (text operator : String) (isOpen : Option Char) (start place : String.Pos.Raw) :
    List Char → Option (List String)
  | [] => do
    let last ← slice? text start text.rawEndPos
    return [last]
  | c :: rest =>
    if isOpen = none && !isQuote c then do
      let ahead ← slice? text place text.rawEndPos
      if ahead.startsWith operator && start ≤ place then
        let part ← slice? text start place
        let parts ← slicesFrom? text operator none (place + operator) (place + c) rest
        return part :: parts
      else slicesFrom? text operator none start (place + c) rest
    else slicesFrom? text operator (quoteAfter isOpen c) start (place + c) rest

/-- The slices of a text between the operators outside quotations. -/
def slices? (text operator : String) : Option (List String) :=
  slicesFrom? text operator none 0 0 text.toList

end IncludeTree.Condition
