import IncludeTree.Kdl.Basic

/-!
# Numbers in KDL

A number is whole, in base ten or behind `0x`, `0o` or `0b` in base sixteen, eight or two, or it has
a fraction or an exponent. A sign may stand in front, and underscores anywhere behind the first
digit. A whole number has to fit a signed word of 128 bits.
-/

namespace IncludeTree.Kdl

/-- The value of a digit in a base up to sixteen. -/
def digitIn? (base : Nat) (c : Char) : Option Nat :=
  let value? :=
    if '0' ≤ c && c ≤ '9' then some (c.toNat - 48)
    else if 'a' ≤ c && c ≤ 'f' then some (c.toNat - 87)
    else if 'A' ≤ c && c ≤ 'F' then some (c.toNat - 55)
    else none
  value?.filter (· < base)

/-- The digits of a number without its underscores; the first character has to be a digit. -/
def digits? (base : Nat) (s : List Char) : Option (List Nat) :=
  match s with
  | [] => none
  | c :: _ =>
    if (digitIn? base c).isSome then (s.filter (· != '_')).mapM (digitIn? base) else none

/-- The number that digits in a base denote. -/
def ofDigits (base : Nat) (ds : List Nat) : Nat := ds.foldl (fun n d => base * n + d) 0

/-- The sign that a text may start with, and what follows it. -/
def sign (s : List Char) : Bool × List Char :=
  match s with
  | '-' :: rest => (true, rest)
  | '+' :: rest => (false, rest)
  | _ => (false, s)

/-- A number with its sign. -/
def signed (negative : Bool) (n : Nat) : Int := if negative then -(n : Int) else n

/-- A whole number, if it fits its word. -/
def whole? (negative : Bool) (n : Nat) : Option Value :=
  let i := signed negative n
  if -(Nat.pow 2 127 : Int) ≤ i && i < Nat.pow 2 127 then some (.integer i) else none

/-- A number in base ten, from its text without sign. -/
def base10? (negative : Bool) (s : List Char) : Option Value := do
  let isExpo := fun c => c = 'e' || c = 'E'
  let mantissa := s.takeWhile (!isExpo ·)
  let expo ← match s.dropWhile (!isExpo ·) with
    | [] => some none
    | _ :: rest =>
      let (minus, rest) := sign rest
      (digits? 10 rest).map fun ds => some (signed minus (ofDigits 10 ds))
  let before ← digits? 10 (mantissa.takeWhile (· != '.'))
  let fraction ← match mantissa.dropWhile (· != '.') with
    | [] => some none
    | _ :: rest => (digits? 10 rest).map some
  match fraction, expo with
  | none, none => whole? negative (ofDigits 10 before)
  | _, _ =>
    let behind := fraction.getD []
    some (.decimal (signed negative (ofDigits 10 (before ++ behind)))
      (expo.getD 0 - (behind.length : Int)))

/-- The number that a word denotes. -/
def number? (word : List Char) : Option Value :=
  let (negative, s) := sign word
  let inBase := fun base digits =>
    (digits? base digits).bind fun ds => whole? negative (ofDigits base ds)
  match s with
  | '0' :: 'x' :: rest => inBase 16 rest
  | '0' :: 'o' :: rest => inBase 8 rest
  | '0' :: 'b' :: rest => inBase 2 rest
  | _ => base10? negative s

end IncludeTree.Kdl
