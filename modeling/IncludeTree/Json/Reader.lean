import IncludeTree.Json.Basic

/-!
# Reading JSON

`Json.parse?` reads one JSON value that fills the whole text. A number without fraction and exponent
that fits a 64-bit word is kept exactly; any other number is rounded to the nearest double, and
refused if it is beyond all of them. Nothing but a full surrogate pair may stand for a character
beyond the basic plane. The members of an object come in the order of their keys, and of equal keys
the last counts.
-/

namespace IncludeTree.Json

/-- The text without the white space that JSON allows at its start. -/
def skipSpace (s : List Char) : List Char :=
  s.dropWhile fun c => c = ' ' || c = '\n' || c = '\r' || c = '\t'

/-- The value of a hexadecimal digit. -/
def hexValue? (c : Char) : Option Nat :=
  if '0' ≤ c && c ≤ '9' then some (c.toNat - 48)
  else if 'a' ≤ c && c ≤ 'f' then some (c.toNat - 87)
  else if 'A' ≤ c && c ≤ 'F' then some (c.toNat - 55)
  else none

/-- The number that four hexadecimal digits denote. -/
def unit? (a b c d : Char) : Option Nat := do
  return 4096 * (← hexValue? a) + 256 * (← hexValue? b) + 16 * (← hexValue? c) + (← hexValue? d)

/-- The character that a letter after a backslash stands for. -/
def shortEscape? (c : Char) : Option Char :=
  if c = '"' || c = '\\' || c = '/' then some c
  else if c = 'b' then some (Char.ofNat 8)
  else if c = 'f' then some (Char.ofNat 12)
  else if c = 'n' then some '\n'
  else if c = 'r' then some '\r'
  else if c = 't' then some '\t'
  else none

/-- The rest of a string after its opening quote: its characters and what follows it. -/
def readString (acc : List Char) : List Char → Option (String × List Char)
  | [] => none
  | '"' :: rest => some (String.ofList acc.reverse, rest)
  | '\\' :: 'u' :: a :: b :: c :: d :: rest => do
    let high ← unit? a b c d
    if 0xD800 ≤ high && high < 0xDC00 then
      match rest with
      | '\\' :: 'u' :: e :: f :: g :: h :: rest => do
        let low ← unit? e f g h
        if 0xDC00 ≤ low && low < 0xE000 then
          readString (Char.ofNat (0x10000 + (high - 0xD800) * 0x400 + (low - 0xDC00)) :: acc) rest
        else none
      | _ => none
    else if 0xDC00 ≤ high && high < 0xE000 then none
    else readString (Char.ofNat high :: acc) rest
  | '\\' :: c :: rest => do readString ((← shortEscape? c) :: acc) rest
  | c :: rest => if c.toNat < 32 then none else readString (c :: acc) rest

/-- The number that decimal digits denote. -/
def digitsValue (ds : List Char) : Nat := ds.foldl (fun n c => 10 * n + (c.toNat - 48)) 0

/-- A run of decimal digits and what follows it. -/
def readDigits (s : List Char) : List Char × List Char :=
  (s.takeWhile Char.isDigit, s.dropWhile Char.isDigit)

/-- The double nearest to `± digits · 10 ^ expo`, unless that is beyond all doubles. -/
def nearest? (negative : Bool) (digits : Nat) (expo : Int) : Option Json :=
  let x := Float.ofScientific digits (expo < 0) expo.natAbs
  if x.isInf then none else some (float (if negative then -x else x).toBits)

/-- A number, read from its sign on, and what follows it. -/
def readNumber (s : List Char) : Option (Json × List Char) := do
  let (negative, s) := match s with
    | '-' :: rest => (true, rest)
    | _ => (false, s)
  let (whole, s) := readDigits s
  if whole.isEmpty || (whole.length > 1 && whole.head? == some '0') then none
  let (fraction, s) ← match s with
    | '.' :: rest =>
      let (ds, rest) := readDigits rest
      if ds.isEmpty then none else some (some ds, rest)
    | _ => some (none, s)
  let (expo, s) ← match s with
    | c :: rest =>
      if c = 'e' || c = 'E' then
        let (minus, rest) := match rest with
          | '-' :: rest => (true, rest)
          | '+' :: rest => (false, rest)
          | _ => (false, rest)
        let (ds, rest) := readDigits rest
        if ds.isEmpty then none
        else some (some (if minus then -(digitsValue ds : Int) else digitsValue ds), rest)
      else some (none, s)
    | [] => some (none, s)
  let n := digitsValue whole
  let value ← match fraction, expo with
    | none, none =>
      if negative && 0 < n && n ≤ Nat.pow 2 63 then some (int (-(n : Int)))
      else if !negative && n < Nat.pow 2 64 then some (int n)
      else nearest? negative n 0
    | fraction, expo =>
      let ds := fraction.getD []
      nearest? negative (digitsValue (whole ++ ds)) (expo.getD 0 - ds.length)
  return (value, s)

mutual

/-- A value and what follows it, if the text up to there takes at most `fuel` steps to read. -/
def readValue : (fuel : Nat) → List Char → Option (Json × List Char)
  | 0, _ => none
  | fuel + 1, s =>
    match skipSpace s with
    | 'n' :: 'u' :: 'l' :: 'l' :: rest => some (null, rest)
    | 't' :: 'r' :: 'u' :: 'e' :: rest => some (bool true, rest)
    | 'f' :: 'a' :: 'l' :: 's' :: 'e' :: rest => some (bool false, rest)
    | '"' :: rest => (readString [] rest).map fun (s, rest) => (str s, rest)
    | '[' :: rest =>
      match skipSpace rest with
      | ']' :: rest => some (arr [], rest)
      | rest => readItems fuel [] rest
    | '\x7b' :: rest =>
      match skipSpace rest with
      | '\x7d' :: rest => some (obj [], rest)
      | rest => readMembers fuel [] rest
    | s => readNumber s

/-- The items of a list that is open, in addition to those read before, newest first. -/
def readItems : (fuel : Nat) → List Json → List Char → Option (Json × List Char)
  | 0, _, _ => none
  | fuel + 1, acc, s => do
    let (v, s) ← readValue fuel s
    match skipSpace s with
    | ',' :: rest => readItems fuel (v :: acc) rest
    | ']' :: rest => some (arr (v :: acc).reverse, rest)
    | _ => none

/-- The members of an object that is open, in addition to those read before, newest first. -/
def readMembers : (fuel : Nat) → List (String × Json) → List Char → Option (Json × List Char)
  | 0, _, _ => none
  | fuel + 1, acc, s =>
    match skipSpace s with
    | '"' :: rest => do
      let (key, s) ← readString [] rest
      match skipSpace s with
      | ':' :: s => do
        let (v, s) ← readValue fuel s
        match skipSpace s with
        | ',' :: rest => readMembers fuel ((key, v) :: acc) rest
        | '\x7d' :: rest => some (ofMembers ((key, v) :: acc).reverse, rest)
        | _ => none
      | _ => none
    | _ => none

end

/-- The value that a text denotes, if it is JSON. -/
def parse? (s : String) : Option Json := do
  let chars := s.toList
  let (v, rest) ← readValue (chars.length + 1) chars
  if (skipSpace rest).isEmpty then some v else none

end IncludeTree.Json
