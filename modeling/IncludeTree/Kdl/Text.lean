import IncludeTree.Kdl.Space

/-!
# Strings in KDL

A string is written bare, if it looks like no number and no keyword; between double quotes, with
escapes; or between quotes behind hash signs, without any. Between three quotes it may have several
lines: the first and the last line hold nothing but the quotes, and the blanks before the closing
quotes are taken off every line that is not blank. A backslash before blanks and line breaks takes
these away.
-/

namespace IncludeTree.Kdl

/-! ## Bare strings -/

/-- Whether a character may stand in a bare string. -/
def isWordChar (c : Char) : Bool :=
  !(isSpace c || isLineBreak c || isForbidden c
    || ['(', ')', '{', '}', '[', ']', '/', '\\', '"', '#', ';', '='].contains c)

/-- The words that stand for values behind a hash sign. -/
def keywords : List (List Char) :=
  ["true".toList, "false".toList, "null".toList, "inf".toList, "-inf".toList, "nan".toList]

/-- Whether a word does not start with a digit, nor, where `point` is set, with a point. -/
def startsPlain (s : List Char) (point : Bool) : Bool :=
  match s with
  | [] => true
  | c :: _ => !(c.isDigit || (point && c = '.'))

/-- Whether a word is a bare string: it does not start like a number and is no keyword. -/
def isBare (word : List Char) : Bool :=
  match word with
  | [] => false
  | c :: rest =>
    if c = '+' || c = '-' then
      match rest with
      | '.' :: rest => startsPlain rest false
      | rest => startsPlain rest true
    else if c = '.' then startsPlain rest false
    else !c.isDigit && !keywords.contains word

/-! ## Escapes -/

/-- The value of a hexadecimal digit. -/
def hexValue? (c : Char) : Option Nat :=
  if '0' ≤ c && c ≤ '9' then some (c.toNat - 48)
  else if 'a' ≤ c && c ≤ 'f' then some (c.toNat - 87)
  else if 'A' ≤ c && c ≤ 'F' then some (c.toNat - 55)
  else none

/-- The character with a code point given by one to six hexadecimal digits. -/
def codePoint? (digits : List Char) : Option Char := do
  if digits.isEmpty || digits.length > 6 then none
  let n ← digits.foldlM (fun n c => do return 16 * n + (← hexValue? c)) 0
  if n.isValidChar then some (Char.ofNat n) else none

/-- The character that a letter behind a backslash stands for. -/
def escape? (c : Char) : Option Char :=
  if c = 'n' then some '\n'
  else if c = 'r' then some '\r'
  else if c = 't' then some '\t'
  else if c = '\\' then some '\\'
  else if c = '"' then some '"'
  else if c = 'b' then some (Char.ofNat 8)
  else if c = 'f' then some (Char.ofNat 12)
  else if c = 's' then some ' '
  else none

/-- A piece of the inside of a string. -/
inductive Piece where
  /-- A character that stands for itself. -/
  | plain (c : Char)
  /-- A character that was written with a backslash. -/
  | escaped (c : Char)
  /-- A line break. -/
  | lineBreak
  /-- Space that a backslash takes away. -/
  | nothing
deriving DecidableEq, Repr

/-- The piece that a text starts with, and what follows it; quotes count as plain characters. -/
def piece? : List Char → Option (Piece × List Char)
  | [] => none
  | '\\' :: 'u' :: '{' :: rest =>
    match rest.dropWhile (· != '}') with
    | _ :: behind => (codePoint? (rest.takeWhile (· != '}'))).map fun c => (.escaped c, behind)
    | [] => none
  | '\\' :: c :: rest =>
    if isSpace c || isLineBreak c then
      some (.nothing, rest.dropWhile fun c => isSpace c || isLineBreak c)
    else (escape? c).map fun c => (.escaped c, rest)
  | c :: rest =>
    match lineBreak? (c :: rest) with
    | some behind => some (.lineBreak, behind)
    | none => if isForbidden c || c = '\\' then none else some (.plain c, rest)

/-- The piece that a text without escapes starts with, and what follows it. -/
def rawPiece? : List Char → Option (Piece × List Char)
  | [] => none
  | c :: rest =>
    match lineBreak? (c :: rest) with
    | some behind => some (.lineBreak, behind)
    | none => if isForbidden c then none else some (.plain c, rest)

/-- The pieces up to a closing text, and what follows it; each takes a character at least, so `fuel`
may be the length of the text. -/
def piecesUntil (next? : List Char → Option (Piece × List Char)) (closing : List Char) :
    (fuel : Nat) → List Piece → List Char → Option (List Piece × List Char)
  | 0, _, _ => none
  | fuel + 1, acc, s =>
    if closing.isPrefixOf s then some (acc.reverse, s.drop closing.length)
    else match next? s with
      | some (p, rest) => piecesUntil next? closing fuel (p :: acc) rest
      | none => none

/-! ## Strings of one line and of several -/

/-- The text of pieces without a line break. -/
def oneLine? : List Piece → Option (List Char)
  | [] => some []
  | .plain c :: rest | .escaped c :: rest => (oneLine? rest).map (c :: ·)
  | .nothing :: rest => oneLine? rest
  | .lineBreak :: _ => none

/-- The lines of pieces. -/
def linesOf : List Piece → List (List Piece)
  | [] => [[]]
  | .lineBreak :: rest => [] :: linesOf rest
  | .nothing :: rest => linesOf rest
  | p :: rest =>
    match linesOf rest with
    | line :: lines => (p :: line) :: lines
    | [] => [[p]]

/-- Whether a piece is a blank that was not escaped. -/
def Piece.isBlank : Piece → Bool
  | plain c => isSpace c
  | _ => false

/-- A line without the indent that stands before the closing quotes; a blank line is empty. -/
def dedent? (indent line : List Piece) : Option (List Char) :=
  if line.all Piece.isBlank then some []
  else if indent.isPrefixOf line then oneLine? (line.drop indent.length)
  else none

/-- The text of pieces that stand on lines of their own, joined by line feeds. -/
def manyLines? (pieces : List Piece) : Option (List Char) := do
  let lines := linesOf pieces
  let indent ← lines.getLast?
  if !indent.all Piece.isBlank then none
  let texts ← lines.dropLast.mapM (dedent? indent)
  return ['\n'].intercalate texts

/-- A string between quotes that `hashes` stand around, from its first quote on. A quote by itself
is no string, since three quotes in a row open one of several lines. -/
def quoted? (hashes : List Char) (s : List Char) : Option (String × List Char) :=
  let next? := if hashes.isEmpty then piece? else rawPiece?
  let several := match s with
    | '"' :: '"' :: '"' :: rest => lineBreak? rest
    | _ => none
  match several with
  | some body => do
    let (pieces, rest) ←
      piecesUntil next? (['"', '"', '"'] ++ hashes) (body.length + 1) [] body
    return (String.ofList (← manyLines? pieces), rest)
  | none =>
    match s with
    | '"' :: body => do
      let (pieces, rest) ← piecesUntil next? ('"' :: hashes) (body.length + 1) [] body
      if pieces = [.plain '"'] then none
      return (String.ofList (← oneLine? pieces), rest)
    | _ => none

/-- The string that a text starts with, and what follows it. -/
def string? (s : List Char) : Option (String × List Char) :=
  match s with
  | '"' :: _ => quoted? [] s
  | '#' :: _ => quoted? (s.takeWhile (· == '#')) (s.dropWhile (· == '#'))
  | _ =>
    let word := s.takeWhile isWordChar
    if isBare word then some (String.ofList word, s.dropWhile isWordChar) else none

end IncludeTree.Kdl
