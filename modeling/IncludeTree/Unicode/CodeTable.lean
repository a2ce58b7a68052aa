/-!
# Tables over code points

`CodeTable` gives a value to some of the code points; its entries are ranges in increasing order. A
table is written as lines of words with blanks between. A word is a range, its two ends in
hexadecimal with a hyphen between them, or a single code point; the value stands behind an equals
sign. Without values a table is a set of code points.
-/

namespace IncludeTree.Unicode

/-- The number that hexadecimal digits denote; other characters count as zero. -/
def hexNumber (s : List Char) : Nat :=
  s.foldl (fun n c =>
    16 * n + (if c.isDigit then c.toNat - 48
      else if 'a' ≤ c && c ≤ 'f' then c.toNat - 87 else 0)) 0

/-- The parts of a text before and after the first occurrence of a character; the second is empty if
there is none. -/
def partAt (c : Char) (s : List Char) : List Char × List Char :=
  (s.takeWhile (· != c), (s.dropWhile (· != c)).drop 1)

/-- One entry of a table. -/
structure CodeEntry where
  /-- The first code point of the range. -/
  first : Nat
  /-- The last code point of the range. -/
  last : Nat
  /-- The value of the range. -/
  value : List Char
deriving Repr

/-- A table that gives values to ranges of code points. -/
structure CodeTable where
  /-- The entries, in increasing order. -/
  entries : Array CodeEntry

namespace CodeTable

/-- The entry that one word of a table denotes. -/
def entry (word : List Char) : CodeEntry :=
  let (range, value) := partAt '=' word
  let (first, last) := partAt '-' range
  { first := hexNumber first
    last := if last.isEmpty then hexNumber first else hexNumber last
    value }

/-- The table that lines of words denote. -/
def ofLines (lines : List String) : CodeTable where
  entries := (lines.flatMap fun line => (line.toList.splitOn ' ').map entry).toArray

/-- The position of the first entry from `lo` on whose range ends at `n` or later, by halving. -/
def locate (t : CodeTable) (n lo hi : Nat) : Nat :=
  if lo < hi then
    let mid := (lo + hi) / 2
    match t.entries[mid]? with
    | some e => if e.last < n then locate t n (mid + 1) hi else locate t n lo mid
    | none => locate t n lo mid
  else lo
termination_by hi - lo

/-- The entry of a code point. -/
def find? (t : CodeTable) (n : Nat) : Option CodeEntry :=
  (t.entries[t.locate n 0 t.entries.size]?).filter (·.first ≤ n)

/-- Whether a code point has an entry. -/
def contains (t : CodeTable) (n : Nat) : Bool := (t.find? n).isSome

end CodeTable

end IncludeTree.Unicode
