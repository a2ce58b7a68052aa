import IncludeTree.Unicode.Direction
import IncludeTree.Unicode.Joining
import IncludeTree.Unicode.Mapping
import IncludeTree.Url.Punycode

/-!
# Domain names

`Domain.toAscii?` brings a domain name into the ASCII form in which it is compared: its characters
are mapped and normalized, each label is checked, and a label that is not ASCII is written in
punycode behind `xn--`. A label that has that form already must denote one that would be given it.
Hyphens may stand anywhere, and neither labels nor names have a greatest length.
-/

namespace IncludeTree.Url.Domain

/-- The ASCII characters that no domain name may hold, other than controls. -/
def forbidden : List Char :=
  [' ', '#', '%', '/', ':', '<', '>', '?', '@', '[', '\\', ']', '^', '|']

/-- Whether a character is allowed in the result. -/
def isAllowed (c : Char) : Bool :=
  !(c.toNat < 0x20 || c.toNat = 0x7F || forbidden.contains c)

/-- The mapped and normalized form of a name; `none` if a character is not allowed. -/
def mapped? (name : List Char) : Option (List Char) := do
  return Unicode.normalize (← name.mapM Unicode.mapChar?).flatten

/-- Whether a label that is not ASCII is well formed. -/
def isWellFormed (label : List Char) : Bool :=
  Unicode.normalize label == label
    && label.all Unicode.isValidInDomain
    && !((label.head?.map fun c => Unicode.marks.contains c.toNat).getD false)
    && Unicode.Joining.allowed label

/-- The characters that a mapped label stands for, and whether it is well formed. -/
def unicodeLabel? (label : List Char) : Option (List Char) :=
  match label with
  | 'x' :: 'n' :: '-' :: '-' :: digits => do
    let decoded ← Punycode.decode? digits
    if decoded.all (·.toNat < 128) || !isWellFormed decoded then none else some decoded
  | _ => if label.all (·.toNat < 128) || isWellFormed label then some label else none

/-- The ASCII form of a well-formed label. -/
def asciiLabel (label : List Char) : List Char :=
  if label.all (·.toNat < 128) then label
  else ['x', 'n', '-', '-'] ++ Punycode.encode label

/-- The ASCII form of a domain name, if it is one. -/
def toAscii? (name : List Char) : Option (List Char) := do
  let labels ← ((← mapped? name).splitOn '.').mapM unicodeLabel?
  if labels.any Unicode.Direction.isRightToLeft && !labels.all Unicode.Direction.allows then none
  else
    let ascii := (labels.map asciiLabel).intersperse ['.'] |>.flatten
    if ascii.all isAllowed then some ascii else none

end IncludeTree.Url.Domain
