/-!
# The shortest decimal that reads back

A finite double is a number `m · 2 ^ q`. Among the decimals that round to it `Decimal.shortest`
picks one with the fewest digits, and of those the nearest to the double. The search runs over the
decimal grids `10 ^ e` from coarse to fine; on each grid only the two neighbours of the number can
read back if any point does, so each step tests those two, in exact arithmetic on natural numbers.

`Decimal.text` writes the result: positionally from `10⁻⁵` up to, but not including, `10¹⁶`, with a
fraction of at least one digit, and otherwise with an exponent.
-/

namespace IncludeTree.Decimal

/-- A positive finite double in the form `m · 2 ^ q`, with the interval that rounds to it. -/
structure Binary where
  /-- The significand. -/
  m : Nat
  /-- The binary exponent. -/
  q : Int
  /-- Whether the next double below is only half as far away as the next one above. -/
  narrow : Bool
deriving Repr

/-- The double with the given bits, leaving its sign aside, if it is finite and not zero. -/
def Binary.ofBits? (bits : UInt64) : Option Binary :=
  let frac : Nat := bits.toNat % Nat.pow 2 52
  let expo : Nat := bits.toNat / Nat.pow 2 52 % Nat.pow 2 11
  if expo = 2047 then none
  else if expo = 0 then
    if frac = 0 then none else some ⟨frac, -1074, false⟩
  else some ⟨Nat.pow 2 52 + frac, (expo : Int) - 1075, frac == 0 && expo > 1⟩

/-- A decimal `digits · 10 ^ expo`. -/
structure Digits where
  /-- The significant digits, as one number. -/
  digits : Nat
  /-- The power of ten. -/
  expo : Int
deriving Repr, DecidableEq

/-- A ratio of naturals equal to `2 ^ q / 10 ^ e`. -/
def scale (q e : Int) : Nat × Nat :=
  let num := if q ≥ 0 then Nat.pow 2 q.toNat else 1
  let den := if q ≥ 0 then 1 else Nat.pow 2 (-q).toNat
  if e ≥ 0 then (num, den * Nat.pow 10 e.toNat) else (num * Nat.pow 10 (-e).toNat, den)

/-- Whether `d · 10 ^ e` rounds to the double, ties going to the even significand. -/
def Binary.readsBack (b : Binary) (e : Int) (d : Nat) : Bool :=
  let (num, den) := scale b.q e
  let value := 4 * d * den
  let low := (4 * b.m - if b.narrow then 1 else 2) * num
  let high := (4 * b.m + 2) * num
  if b.m % 2 == 0 then low ≤ value && value ≤ high else low < value && value < high

/-- The nearest point of the grid `10 ^ e` that reads back, if any; a tie goes to the even one. -/
def Binary.onGrid? (b : Binary) (e : Int) : Option Digits :=
  let (num, den) := scale b.q e
  let below := b.m * num / den
  let rest := b.m * num - below * den
  let lowOk := below > 0 && b.readsBack e below
  let highOk := b.readsBack e (below + 1)
  match lowOk, highOk with
  | false, false => none
  | true, false => some ⟨below, e⟩
  | false, true => some ⟨below + 1, e⟩
  | true, true =>
    if 2 * rest < den || (2 * rest == den && below % 2 == 0) then some ⟨below, e⟩
    else some ⟨below + 1, e⟩

/-- The first of the grids `10 ^ e`, `10 ^ (e - 1)`, … that holds a decimal that reads back. -/
def Binary.search (b : Binary) (e : Int) : Nat → Digits
  | 0 => ⟨b.m, e⟩
  | steps + 1 => (b.onGrid? e).getD (b.search (e - 1) steps)

/-- Takes the zeros at the end of the digits into the exponent. -/
def Digits.strip (d : Digits) : Nat → Digits
  | 0 => d
  | steps + 1 =>
    if d.digits ≠ 0 && d.digits % 10 == 0 then Digits.strip ⟨d.digits / 10, d.expo + 1⟩ steps else d

/-- The shortest decimal that reads back as the double. -/
def Binary.shortest (b : Binary) : Digits :=
  (b.search 309 640).strip 400

/-- The text of a decimal: positional between `10⁻⁵` and `10¹⁶`, with an exponent elsewhere. -/
def Digits.text (d : Digits) : String :=
  let ds := Nat.toDigits 10 d.digits
  let point : Int := ds.length + d.expo
  String.ofList <|
    if 0 ≤ d.expo && point ≤ 16 then
      ds ++ List.replicate d.expo.toNat '0' ++ ['.', '0']
    else if 0 < point && point ≤ 16 then
      ds.take point.toNat ++ '.' :: ds.drop point.toNat
    else if -5 < point && point ≤ 0 then
      '0' :: '.' :: List.replicate (-point).toNat '0' ++ ds
    else
      let expo := 'e' :: (toString (point - 1)).toList
      match ds with
      | [c] => c :: expo
      | c :: cs => c :: '.' :: cs ++ expo
      | [] => expo

/-- The text of the double with the given bits. -/
def text (bits : UInt64) : String :=
  let sign := if bits.toNat ≥ Nat.pow 2 63 then "-" else ""
  match Binary.ofBits? bits with
  | some b => sign ++ b.shortest.text
  | none =>
    if bits.toNat % Nat.pow 2 63 == 0 then sign ++ "0.0"
    else if bits.toNat % Nat.pow 2 52 == 0 then sign ++ "inf"
    else "NaN"

end IncludeTree.Decimal
