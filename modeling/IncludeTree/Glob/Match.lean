import IncludeTree.Glob.Pattern
import IncludeTree.Text.Bytes

/-!
# Matching paths

A pattern is matched against the bytes of a path by following all the ways through it at once. The
positions that can be reached are marked in a list with one mark before each byte and one at the
end; a token turns the marks in front of it into those behind it. Three operations on marks suffice:
`take` passes over one byte, `spread` over any number of bytes, and `union` joins two ways.

`matchesPath` asks for a mark at the end. The pattern `**` alone matches every path.
-/

namespace IncludeTree.Glob

/-- The byte of a slash. -/
def slash : UInt8 := 0x2F

/-- Marks: whether each position of a path, from its start to its end, can be reached. -/
abbrev Marks := List Bool

/-- The marks moved over one byte that satisfies `p`, without a mark for the start. -/
def advance (p : UInt8 → Bool) : List UInt8 → Marks → Marks
  | b :: bs, m :: ms => (m && p b) :: advance p bs ms
  | _, _ => []

/-- The marks behind one byte that satisfies `p`. -/
def take (p : UInt8 → Bool) (path : List UInt8) (ms : Marks) : Marks :=
  false :: advance p path ms

/-- The marks behind any number of bytes that satisfy `p`; `live` tells whether the position before
can be reached and the byte there satisfies `p`. -/
def spread (p : UInt8 → Bool) (live : Bool) : List UInt8 → Marks → Marks
  | b :: bs, m :: ms => (m || live) :: spread p ((m || live) && p b) bs ms
  | [], m :: ms => (m || live) :: ms
  | _, [] => []

/-- The positions that are marked in either list. -/
def union (ms ns : Marks) : Marks := List.zipWith (· || ·) ms ns

/-- The marks behind a sequence of given bytes. -/
def takeAll (path : List UInt8) : List UInt8 → Marks → Marks
  | [], ms => ms
  | b :: bs, ms => takeAll path bs (take (· == b) path ms)

/-- The byte ranges of a class. A range of characters covers the bytes of its ends, the last byte of
the one and the first byte of the other being the ends of a range of bytes. -/
def byteRanges : List (Char × Char) → List (UInt8 × UInt8)
  | [] => []
  | (first, last) :: rest =>
    let firsts := String.utf8EncodeChar first
    let lasts := String.utf8EncodeChar last
    let single := fun b : UInt8 => (b, b)
    let own :=
      if first = last then firsts.map single
      else firsts.dropLast.map single ++ [(firsts.getLastD 0, lasts.headD 0)]
        ++ lasts.tail.map single
    own ++ byteRanges rest

/-- Whether a byte is of a class. -/
def inClass (negated : Bool) (ranges : List (Char × Char)) (b : UInt8) : Bool :=
  ((byteRanges ranges).any fun r => r.1 ≤ b && b ≤ r.2) != negated

mutual

/-- Whether a token stands for the empty text alone: a group without any branch that says more. -/
def Token.isVoid : Token → Bool
  | .choice branches => allVoid branches
  | _ => false

/-- Whether every branch stands for the empty text alone. -/
def allVoid : List (List Token) → Bool
  | [] => true
  | b :: bs => isVoidBranch b && allVoid bs

/-- Whether every token of a branch stands for the empty text alone. -/
def isVoidBranch : List Token → Bool
  | [] => true
  | t :: ts => t.isVoid && isVoidBranch ts

end

mutual

/-- The marks behind a token. A group goes through those of its branches that say something; one
that has none is passed over. -/
def Token.step (path : List UInt8) (ms : Marks) : Token → Marks
  | .literal c => takeAll path (String.utf8EncodeChar c) ms
  | .anyByte => take (· != slash) path ms
  | .star => spread (· != slash) false path ms
  | .leadingTree => union ms (take (· == slash) path (spread (fun _ => true) false path ms))
  | .trailingTree => spread (fun _ => true) false path (take (· == slash) path ms)
  | .innerTree =>
    let behind := take (· == slash) path ms
    union behind (take (· == slash) path (spread (fun _ => true) false path behind))
  | .oneOf negated ranges => take (inClass negated ranges) path ms
  | .choice branches =>
    if allVoid branches then ms
    else stepChoice path ms branches

/-- The marks behind any of several branches that say something. -/
def stepChoice (path : List UInt8) (ms : Marks) : List (List Token) → Marks
  | [] => ms.map fun _ => false
  | b :: bs =>
    if isVoidBranch b then stepChoice path ms bs
    else union (stepAll path ms b) (stepChoice path ms bs)

/-- The marks behind a sequence of tokens. -/
def stepAll (path : List UInt8) (ms : Marks) : List Token → Marks
  | [] => ms
  | t :: ts => stepAll path (t.step path ms) ts

end

/-- The marks before anything is read. -/
def start (path : List UInt8) : Marks := true :: path.map fun _ => false

/-- Whether a pattern matches the whole of a path. -/
def matchesBytes (tokens : List Token) (path : List UInt8) : Bool :=
  match tokens with
  | [.leadingTree] => true
  | _ => (stepAll path (start path) tokens).getLastD false

/-- Whether a pattern matches the whole of a path. -/
def matchesPath (tokens : List Token) (path : String) : Bool :=
  matchesBytes tokens (Text.bytes path.toList)

end IncludeTree.Glob
