/-!
# Network addresses as hosts

A host whose last part is a number is an IPv4 address: one to four numbers, decimal, octal after `0`
or hexadecimal after `0x`, of which the last fills the remaining bytes. A host in square brackets is
an IPv6 address: eight groups of hexadecimal digits, `::` standing for one or more groups of zeros
and a dotted IPv4 address for the last two. An IPv6 address is written with the first of its longest
runs of at least two zero groups shortened.
-/

namespace IncludeTree.Url

/-- The parts of a text between the occurrences of a character. -/
def splitAtChar (c : Char) (s : List Char) : List (List Char) := s.splitOn c

/-- The value of a digit in a base up to sixteen. -/
def digitIn? (base : Nat) (c : Char) : Option Nat :=
  let value? :=
    if '0' ≤ c && c ≤ '9' then some (c.toNat - 48)
    else if 'a' ≤ c && c ≤ 'f' then some (c.toNat - 87)
    else if 'A' ≤ c && c ≤ 'F' then some (c.toNat - 55)
    else none
  value?.filter (· < base)

/-- The number that digits in a base denote; no digit at all denotes zero. -/
def number? (base : Nat) (s : List Char) : Option Nat :=
  s.foldl (fun n? c => do return base * (← n?) + (← digitIn? base c)) (some 0)

namespace Ipv4

/-- The number that a part of an address denotes. -/
def part? : List Char → Option Nat
  | [] => none
  | '0' :: 'x' :: s => number? 16 s
  | '0' :: 'X' :: s => number? 16 s
  | '0' :: c :: s => number? 8 (c :: s)
  | s => number? 10 s

/-- The parts of a host, without the empty one after a dot at its end. -/
def parts (host : List Char) : List (List Char) :=
  let all := splitAtChar '.' host
  if all.getLast? == some [] then all.dropLast else all

/-- Whether the last part of a host, leaving one dot at its end aside, is a number. -/
def endsInNumber (host : List Char) : Bool :=
  match (parts host).getLast? with
  | none => false
  | some last => (!last.isEmpty && last.all Char.isDigit) || (part? last).isSome

/-- The address that a host denotes. -/
def parse? (host : List Char) : Option Nat := do
  let numbers ← (parts host).mapM part?
  let last ← numbers.getLast?
  let first := numbers.dropLast
  if first.length > 3 || first.any (· > 255) || last ≥ Nat.pow 256 (4 - first.length) then none
  else some (first.zipIdx.foldl (fun sum (n, i) => sum + n * Nat.pow 256 (3 - i)) last)

/-- The four bytes of an address, with dots between. -/
def text (address : Nat) : String :=
  ".".intercalate <| [3, 2, 1, 0].map fun i => toString (address / Nat.pow 256 i % 256)

end Ipv4

namespace Ipv6

/-- A group of one to four hexadecimal digits. -/
def group? (s : List Char) : Option Nat :=
  if s.isEmpty || s.length > 4 then none else number? 16 s

/-- A number up to 255 in decimal digits without a leading zero. -/
def byte? (s : List Char) : Option Nat :=
  if s.isEmpty || (s.length > 1 && s.head? == some '0') || !s.all Char.isDigit then none
  else (number? 10 s).filter (· ≤ 255)

/-- The two groups that a dotted IPv4 address stands for. -/
def dotted? (s : List Char) : Option (List Nat) := do
  match ← (splitAtChar '.' s).mapM byte? with
  | [a, b, c, d] => some [256 * a + b, 256 * c + d]
  | _ => none

/-- The groups of a text without `::`; the last may be a dotted IPv4 address if `final` holds. -/
def groups? (final : Bool) (s : List Char) : Option (List Nat) :=
  if s.isEmpty then some []
  else go (splitAtChar ':' s)
where
  /-- The groups of the parts of a text. -/
  go : List (List Char) → Option (List Nat)
    | [] => some []
    | [last] =>
      if final && last.contains '.' then dotted? last else (group? last).map ([·])
    | part :: rest => do return (← group? part) :: (← go rest)

/-- The texts before and after the first `::`. -/
def gap? : List Char → Option (List Char × List Char)
  | ':' :: ':' :: rest => some ([], rest)
  | c :: rest => (gap? rest).map fun (before, behind) => (c :: before, behind)
  | [] => none

/-- The eight groups that a text denotes. -/
def parse? (s : List Char) : Option (List Nat) :=
  match gap? s with
  | none => do
    let groups ← groups? true s
    if groups.length = 8 then some groups else none
  | some (before, behind) => do
    let left ← groups? false before
    let right ← groups? true behind
    if left.length + right.length ≤ 7 then
      some (left ++ List.replicate (8 - left.length - right.length) 0 ++ right)
    else none

/-- The length of the run of zeros that a list starts with. -/
def zeros (groups : List Nat) : Nat := (groups.takeWhile (· == 0)).length

/-- Where the first of the longest runs of zeros starts, and its length. -/
def longestRun (groups : List Nat) : Nat × Nat :=
  (List.range groups.length).foldl
    (fun best i => if zeros (groups.drop i) > best.2 then (i, zeros (groups.drop i)) else best)
    (0, 0)

/-- Groups in hexadecimal, with colons between. -/
def groupsText (groups : List Nat) : String :=
  ":".intercalate (groups.map fun g => String.ofList (Nat.toDigits 16 g))

/-- The text of an address, without brackets. -/
def text (groups : List Nat) : String :=
  let (start, length) := longestRun groups
  if length < 2 then groupsText groups
  else groupsText (groups.take start) ++ "::" ++ groupsText (groups.drop (start + length))

end Ipv6

end IncludeTree.Url
