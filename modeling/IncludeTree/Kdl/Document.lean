import IncludeTree.Kdl.Number
import IncludeTree.Kdl.Text

/-!
# Reading KDL

`Kdl.parse?` reads the nodes of a KDL document. A node ends with its line, at a semicolon or
where its block ends. Behind a slash and a hyphen an entry, a block of children or a whole node is
left out; a node that is left out ends with its line or its block, not at a semicolon.
-/

namespace IncludeTree.Kdl

/-! ## Entries -/

/-- The value that a keyword behind a hash sign stands for. -/
def keyword? (word : List Char) : Option Value :=
  if word = "true".toList then some (.bool true)
  else if word = "false".toList then some (.bool false)
  else if word = "null".toList then some .null
  else if word = "inf".toList then some (.infinite false)
  else if word = "-inf".toList then some (.infinite true)
  else if word = "nan".toList then some .nan
  else none

/-- The value that a text starts with, leaving a type annotation aside, and what follows it. -/
def plainValue? (s : List Char) : Option (Value × List Char) :=
  match string? s with
  | some (text, rest) => some (.string text, rest)
  | none =>
    match s with
    | '#' :: rest => (keyword? (rest.takeWhile isWordChar)).map (·, rest.dropWhile isWordChar)
    | _ => (number? (s.takeWhile isWordChar)).map (·, s.dropWhile isWordChar)

/-- What follows the type annotation that a text starts with and the space behind it. -/
def skipType? (s : List Char) : Option (List Char) :=
  match s with
  | '(' :: rest => do
    let (_, rest) ← string? (skipSpace rest)
    match skipSpace rest with
    | ')' :: rest => some (skipSpace rest)
    | _ => none
  | _ => some s

/-- The value that a text starts with, and what follows it. -/
def value? (s : List Char) : Option (Value × List Char) := do plainValue? (← skipType? s)

/-- The entry that a text starts with, and what follows it. -/
def entry? (s : List Char) : Option (Entry × List Char) :=
  let argument := (value? s).map fun (v, rest) => (Entry.argument v, rest)
  match string? s with
  | some (key, rest) =>
    match skipSpace rest with
    | '=' :: rest => (value? (skipSpace rest)).map fun (v, rest) => (.property key v, rest)
    | _ => argument
  | none => argument

/-! ## Nodes -/

/-- What follows the end of a node, if the text starts with one; a closing brace ends a node but is
left for its block. -/
def terminator? (s : List Char) : Option (List Char) :=
  match s with
  | [] => some []
  | '}' :: _ => some s
  | ';' :: rest => some rest
  | _ =>
    match lineBreak? s with
    | some rest => some rest
    | none => lineComment? s

mutual

/-- Nodes up to a closing brace or the end, in addition to those read before, newest first; every
call takes a character or is one of a fixed number of calls that do not. -/
def readNodes : (fuel : Nat) → List Node → List Char → Option (List Node × List Char)
  | 0, _, _ => none
  | fuel + 1, acc, s =>
    match skipLines s with
    | [] => some (acc.reverse, [])
    | '}' :: rest => some (acc.reverse, '}' :: rest)
    | '/' :: '-' :: rest => do
      let (_, rest) ← readNode fuel (skipLines rest)
      readNodes fuel acc rest
    | s => do
      let (node, rest) ← readNode fuel s
      readNodes fuel (node :: acc) (← terminator? rest)

/-- A node without what ends it. -/
def readNode : (fuel : Nat) → List Char → Option (Node × List Char)
  | 0, _ => none
  | fuel + 1, s => do
    let (name, rest) ← string? (← skipType? s)
    let (entries, rest) ← readEntries fuel [] rest
    let (children, rest) ← readChildren fuel none rest
    return (.mk name entries children, rest)

/-- The entries of a node, in addition to those read before, newest first. -/
def readEntries : (fuel : Nat) → List Entry → List Char → Option (List Entry × List Char)
  | 0, _, _ => none
  | fuel + 1, acc, s =>
    let t := skipSpace s
    if t.length = s.length || t.head? == some '{' || (terminator? t).isSome then
      some (acc.reverse, s)
    else
      match t with
      | '/' :: '-' :: rest =>
        match skipLines rest with
        | '{' :: _ => some (acc.reverse, s)
        | rest => do
          let (_, rest) ← entry? rest
          readEntries fuel acc rest
      | t => do
        let (e, rest) ← entry? t
        readEntries fuel (e :: acc) rest

/-- The block of children of a node, and the space up to the end of the node; `found` is the block
if it has been read already. -/
def readChildren : (fuel : Nat) → Option (List Node) → List Char →
    Option (Option (List Node) × List Char)
  | 0, _, _ => none
  | fuel + 1, found, s =>
    match skipSpace s with
    | '{' :: rest =>
      if found.isSome then none
      else do
        let (nodes, rest) ← readNodes fuel [] rest
        match rest with
        | '}' :: rest => readChildren fuel (some nodes) rest
        | _ => none
    | '/' :: '-' :: rest =>
      match skipLines rest with
      | '{' :: rest => do
        let (_, rest) ← readNodes fuel [] rest
        match rest with
        | '}' :: rest => readChildren fuel found rest
        | _ => none
      | _ => none
    | t => some (found, t)

end

/-- The nodes of a document. -/
def parse? (text : String) : Option (List Node) := do
  let s := match text.toList with
    | c :: rest => if c.toNat = 0xFEFF then rest else c :: rest
    | [] => []
  let (nodes, rest) ← readNodes (4 * s.length + 4) [] s
  if rest.isEmpty then some nodes else none

end IncludeTree.Kdl
