/-!
# Space between the parts of a KDL document

Between the parts of a node there may be blanks, comments between `/*` and `*/`, which nest, and
line breaks behind a backslash; `skipSpace` passes over them. Between nodes there may also be line
breaks and comments from `//` to the end of the line; `skipLines` passes over those too.
-/

namespace IncludeTree.Kdl

/-- Whether a character is a blank inside a line. -/
def isSpace (c : Char) : Bool :=
  let n := c.toNat
  n == 0x09 || n == 0x20 || n == 0xA0 || n == 0x1680 || (0x2000 ≤ n && n ≤ 0x200A)
    || n == 0x202F || n == 0x205F || n == 0x3000

/-- Whether a character breaks a line. -/
def isLineBreak (c : Char) : Bool :=
  let n := c.toNat
  (0x0A ≤ n && n ≤ 0x0D) || n == 0x85 || n == 0x2028 || n == 0x2029

/-- Whether a character may not stand in a document: controls, marks of writing direction and the
byte order mark. -/
def isForbidden (c : Char) : Bool :=
  let n := c.toNat
  n ≤ 0x08 || (0x0E ≤ n && n ≤ 0x1F) || n == 0x200E || n == 0x200F
    || (0x202A ≤ n && n ≤ 0x202E) || (0x2066 ≤ n && n ≤ 0x2069) || n == 0xFEFF

/-- What follows the line break that a text starts with; a carriage return and a line feed are one
break. -/
def lineBreak? : List Char → Option (List Char)
  | '\r' :: '\n' :: rest => some rest
  | c :: rest => if isLineBreak c then some rest else none
  | [] => none

/-- What follows the end of a comment that is open `depth` times more. -/
def blockComment? (depth : Nat) : List Char → Option (List Char)
  | '*' :: '/' :: rest =>
    match depth with
    | 0 => some rest
    | depth + 1 => blockComment? depth rest
  | '/' :: '*' :: rest => blockComment? (depth + 1) rest
  | _ :: rest => blockComment? depth rest
  | [] => none

/-- What follows the end of the line. -/
def endOfLine (s : List Char) : List Char :=
  let rest := s.dropWhile (!isLineBreak ·)
  (lineBreak? rest).getD rest

/-- What follows a comment from `//` to the end of the line. -/
def lineComment? : List Char → Option (List Char)
  | '/' :: '/' :: rest => some (endOfLine rest)
  | _ => none

/-- What follows a blank or a comment that nests. -/
def blank? : List Char → Option (List Char)
  | '/' :: '*' :: rest => blockComment? 0 rest
  | c :: rest => if isSpace c then some rest else none
  | [] => none

/-- Passes over pieces as long as there are any; a piece takes a character at least, so `fuel` may
be the length of the text. -/
def skipPieces (piece? : List Char → Option (List Char)) : (fuel : Nat) → List Char → List Char
  | 0, s => s
  | fuel + 1, s =>
    match piece? s with
    | some rest => skipPieces piece? fuel rest
    | none => s

/-- What follows the line break behind a backslash; blanks and comments may stand between them, and
the end of the document counts as a break. -/
def continuation? : List Char → Option (List Char)
  | '\\' :: rest =>
    match skipPieces blank? rest.length rest with
    | [] => some []
    | s =>
      match lineComment? s with
      | some rest => some rest
      | none => lineBreak? s
  | _ => none

/-- What follows one piece of space inside a node. -/
def spacePiece? (s : List Char) : Option (List Char) :=
  match blank? s with
  | some rest => some rest
  | none => continuation? s

/-- What follows one piece of space between nodes. -/
def linesPiece? (s : List Char) : Option (List Char) :=
  match spacePiece? s with
  | some rest => some rest
  | none =>
    match lineBreak? s with
    | some rest => some rest
    | none => lineComment? s

/-- What follows the space inside a node. -/
def skipSpace (s : List Char) : List Char := skipPieces spacePiece? s.length s

/-- What follows the space between nodes. -/
def skipLines (s : List Char) : List Char := skipPieces linesPiece? s.length s

end IncludeTree.Kdl
