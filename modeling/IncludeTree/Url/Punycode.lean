/-!
# Punycode

Punycode writes a text in ASCII: first its ASCII characters as they stand, then, after a hyphen, the
others as a list of differences in a mixed base of letters and digits. The base of each difference
is adapted to the ones before it.
-/

namespace IncludeTree.Url.Punycode

/-- The number of letters and digits. -/
def base : Nat := 36

/-- Divides a difference until it is small, counting the steps. -/
def reduce (delta steps : Nat) : Nat × Nat :=
  if h : delta > 455 then reduce (delta / 35) (steps + 1) else (delta, steps)
termination_by delta
decreasing_by omega

/-- The bias after a difference; `points` is the number of characters placed, this one included. -/
def adapt (delta points : Nat) (isFirst : Bool) : Nat :=
  let delta := if isFirst then delta / 700 else delta / 2
  let (delta, steps) := reduce (delta + delta / points) 0
  steps * base + 36 * delta / (delta + 38)

/-- The threshold of a digit, from its place in units of the base and the bias. -/
def threshold (place bias : Nat) : Nat := min 26 (max 1 (place - bias))

theorem threshold_pos (place bias : Nat) : 0 < threshold place bias := by
  simp only [threshold]; omega

/-- The letter or digit for a value below the base. -/
def letter (n : Nat) : Char := if n < 26 then Char.ofNat (97 + n) else Char.ofNat (22 + n)

/-- The value of a letter or digit. -/
def value? (c : Char) : Option Nat :=
  if 'a' ≤ c && c ≤ 'z' then some (c.toNat - 97)
  else if 'A' ≤ c && c ≤ 'Z' then some (c.toNat - 65)
  else if '0' ≤ c && c ≤ '9' then some (c.toNat - 22)
  else none

/-- The digits of a difference, the least one first. -/
def encodeDelta (bias q place : Nat) : List Char :=
  if q < threshold place bias then [letter q]
  else
    let left := q - threshold place bias
    let span := base - threshold place bias
    letter (threshold place bias + left % span) :: encodeDelta bias (left / span) (place + base)
termination_by q
decreasing_by
  have := threshold_pos place bias
  have : (q - threshold place bias) / (base - threshold place bias) ≤ q - threshold place bias :=
    Nat.div_le_self _ _
  omega

/-- What the encoder carries along. -/
structure Encoder where
  /-- The least code point that has not been placed. -/
  next : Nat := 128
  /-- The difference gathered so far. -/
  delta : Nat := 0
  /-- The bias of the next difference. -/
  bias : Nat := 72
  /-- The number of characters placed. -/
  placed : Nat
  /-- The digits written, newest first. -/
  out : List Char := []

/-- Passes over the text once and places the code point `n`. -/
def placeAll (n basic : Nat) (text : List Char) (st : Encoder) : Encoder :=
  text.foldl (fun st c =>
    if c.toNat < n then { st with delta := st.delta + 1 }
    else if c.toNat = n then
      { st with
        delta := 0
        bias := adapt st.delta (st.placed + 1) (st.placed == basic)
        placed := st.placed + 1
        out := (encodeDelta st.bias st.delta base).reverse ++ st.out }
    else st) st

/-- Insertion into an increasing list, without repetition. -/
def insertPoint (n : Nat) : List Nat → List Nat
  | [] => [n]
  | m :: rest =>
    if n = m then m :: rest
    else if n < m then n :: m :: rest
    else m :: insertPoint n rest

/-- The punycode of a text. -/
def encode (text : List Char) : List Char :=
  let ascii := text.filter (·.toNat < 128)
  let points := (text.filter (128 ≤ ·.toNat)).foldl (fun acc c => insertPoint c.toNat acc) []
  let final := points.foldl
    (fun (st : Encoder) n =>
      let st := { st with delta := st.delta + (n - st.next) * (st.placed + 1) }
      let st := placeAll n ascii.length text st
      { st with delta := st.delta + 1, next := n + 1 })
    { placed := ascii.length }
  (if ascii.isEmpty then [] else ascii ++ ['-']) ++ final.out.reverse

/-- A difference, added to `i` with weight `w`, and what follows its digits. -/
def decodeDelta (bias i w place : Nat) : List Char → Option (Nat × List Char)
  | [] => none
  | c :: rest => do
    let digit ← value? c
    let t := threshold place bias
    let i := i + digit * w
    if i ≥ Nat.pow 2 32 then none
    else if digit < t then some (i, rest)
    else decodeDelta bias i (w * (base - t)) (place + base) rest

/-- Places the characters that the differences name; each takes a digit at least. -/
def decodeFrom : (fuel : Nat) → (n i bias : Nat) → List Char → List Char → Option (List Char)
  | _, _, _, _, out, [] => some out
  | 0, _, _, _, _, _ => none
  | fuel + 1, n, i, bias, out, s => do
    let (j, rest) ← decodeDelta bias i 1 base s
    let length := out.length + 1
    let n := n + j / length
    let place := j % length
    if h : n.isValidChar then
      decodeFrom fuel n (place + 1) (adapt (j - i) length (i == 0))
        (out.take place ++ Char.ofNatAux n h :: out.drop place) rest
    else none

/-- The text that punycode denotes. -/
def decode? (s : List Char) : Option (List Char) :=
  if s.any (128 ≤ ·.toNat) then none
  else
    let behind := (s.reverse.takeWhile (· != '-')).reverse
    let (basic, digits) :=
      if s.contains '-' then (s.take (s.length - behind.length - 1), behind) else ([], s)
    decodeFrom digits.length 128 0 72 basic digits

end IncludeTree.Url.Punycode
