/-!
# Glob patterns

A pattern is a list of `Token`s. `Glob.parse` reads one from its text:

* `?` stands for one byte and `*` for any bytes, neither for a slash;
* `**` that fills a path segment stands for any number of segments;
* `[…]` stands for one byte of a class, or with `!` or `^` in front for one outside it;
* `{…,…}` stands for any one of its branches, which may hold groups themselves;
* a backslash takes away the meaning of the character after it.

The reader keeps the branch that is being read, the branches of the group before it and the groups
around, and remembers the last character, since `**` is a tree only between separators.
-/

namespace IncludeTree.Glob

/-- A part of a pattern. -/
inductive Token where
  /-- A character that stands for itself. -/
  | literal (c : Char)
  /-- One byte that is no slash. -/
  | anyByte
  /-- Any bytes without a slash. -/
  | star
  /-- Any number of segments at the start, each with its slash. -/
  | leadingTree
  /-- A slash and anything after it. -/
  | trailingTree
  /-- A slash, any number of segments and a slash. -/
  | innerTree
  /-- One byte that is in the class, or is not if it is negated. -/
  | oneOf (negated : Bool) (ranges : List (Char × Char))
  /-- One of several branches. -/
  | choice (branches : List (List Token))
deriving Repr, Inhabited

/-- Why a text is no pattern. -/
inductive Fault where
  /-- A class has no closing bracket. -/
  | unclosedClass
  /-- A range of a class ends before it starts. -/
  | emptyRange (first last : Char)
  /-- A brace closes no group. -/
  | unopenedGroup
  /-- A group has no closing brace. -/
  | unclosedGroup
  /-- A backslash stands at the end. -/
  | danglingEscape
deriving DecidableEq, Repr

/-- The wording of a fault. -/
def Fault.message : Fault → String
  | unclosedClass => "unclosed character class; missing ']'"
  | emptyRange first last =>
    "invalid range; '" ++ first.toString ++ "' > '" ++ last.toString ++ "'"
  | unopenedGroup =>
    "unopened alternate group; missing '\x7b' (maybe escape '\x7d' with '[\x7d]'?)"
  | unclosedGroup =>
    "unclosed alternate group; missing '\x7d' (maybe escape '\x7b' with '[\x7b]'?)"
  | danglingEscape => "dangling '\\'"

/-! ## Classes -/

/-- Puts the end of the range whose start was read last. -/
def closeRange (last : Char) : List (Char × Char) → Except Fault (List (Char × Char))
  | [] => .ok []
  | (first, _) :: ranges =>
    if last < first then .error (.emptyRange first last) else .ok ((first, last) :: ranges)

/-- The rest of a class: its ranges and what follows it. `first` holds at its first character, where
a bracket or a hyphen stands for itself, and `open` after a hyphen that asks for the end of a range.
The ranges read so far come newest first. -/
def readClass (first isOpen : Bool) (ranges : List (Char × Char)) :
    List Char → Except Fault (List (Char × Char) × List Char)
  | [] => .error .unclosedClass
  | c :: rest =>
    if c = ']' && !first then
      .ok ((if isOpen then ('-', '-') :: ranges else ranges).reverse, rest)
    else if c = '-' && !first && !isOpen then
      readClass false true ranges rest
    else if isOpen && c ≠ ']' then
      match closeRange c ranges with
      | .error e => .error e
      | .ok ranges => readClass false false ranges rest
    else readClass false false ((c, c) :: ranges) rest

/-! ## Groups -/

/-- A group that is being read, or the whole pattern. -/
structure Frame where
  /-- The branches before the present one, newest first. -/
  finished : List (List Token) := []
  /-- The tokens of the present branch, newest first. -/
  tokens : List Token := []

namespace Frame

/-- Adds a token to the present branch. -/
def push (f : Frame) (t : Token) : Frame := { f with tokens := t :: f.tokens }

/-- Ends the present branch and starts another. -/
def nextBranch (f : Frame) : Frame := { finished := f.tokens.reverse :: f.finished }

/-- The branches of the group, the present one included. -/
def branches (f : Frame) : List (List Token) := (f.tokens.reverse :: f.finished).reverse

end Frame

/-- Where the reader stands: the innermost group, the groups around it and the last character. -/
structure State where
  /-- The innermost group. -/
  frame : Frame := {}
  /-- The groups around it, innermost first. -/
  outer : List Frame := []
  /-- The character read last. -/
  last : Option Char := none

namespace State

/-- Adds a token to the innermost branch, after reading `c`. -/
def push (st : State) (t : Token) (c : Char) : State :=
  { st with frame := st.frame.push t, last := some c }

/-- Adds two stars, which is what `**` comes to where it fills no segment. -/
def pushStars (st : State) : State := (st.push .star '*').push .star '*'

/-- Puts a tree in place of the newest token, which is a slash or another tree. -/
def replaceByTree (st : State) (tree : Token) (c : Char) : State :=
  let tokens := match st.frame.tokens with
    | .leadingTree :: rest => .leadingTree :: rest
    | .trailingTree :: rest => .trailingTree :: rest
    | _ :: rest => tree :: rest
    | [] => [tree]
  { st with frame := { st.frame with tokens }, last := some c }

/-- Reads `**`, of which the first star has the character `st.last` before it; `rest` follows it. -/
def readTree (st : State) (rest : List Char) : State × List Char :=
  let grouped := !st.outer.isEmpty
  if st.frame.tokens.isEmpty then
    match rest with
    | [] => (st.push .leadingTree '*', [])
    | '/' :: rest => (st.push .leadingTree '/', rest)
    | rest => (st.pushStars, rest)
  else if st.last ≠ some '/' && (!grouped || (st.last ≠ some ',' && st.last ≠ some '{')) then
    (st.pushStars, rest)
  else
    match rest with
    | [] => (st.replaceByTree .trailingTree '*', [])
    | '/' :: rest => (st.replaceByTree .innerTree '/', rest)
    | c :: _ =>
      if grouped && (c = ',' || c = '}') then (st.replaceByTree .trailingTree '*', rest)
      else (st.pushStars, rest)

/-- Reads a character, and of `rest`, which follows it, what belongs to it. -/
def read (st : State) (c : Char) (rest : List Char) : Except Fault (State × List Char) :=
  if c = '?' then .ok (st.push .anyByte c, rest)
  else if c = '*' then
    match rest with
    | '*' :: rest => .ok (st.readTree rest)
    | rest => .ok (st.push .star c, rest)
  else if c = '[' then
    let (negated, body) := match rest with
      | '!' :: body => (true, body)
      | '^' :: body => (true, body)
      | body => (false, body)
    match readClass true false [] body with
    | .error e => .error e
    | .ok (ranges, rest) => .ok (st.push (.oneOf negated ranges) ']', rest)
  else if c = '{' then
    .ok ({ frame := {}, outer := st.frame :: st.outer, last := some c }, rest)
  else if c = '}' then
    match st.outer with
    | [] => .error .unopenedGroup
    | f :: outer =>
      .ok ({ frame := f.push (.choice st.frame.branches), outer, last := some c }, rest)
  else if c = ',' && !st.outer.isEmpty then
    .ok ({ st with frame := st.frame.nextBranch, last := some c }, rest)
  else if c = '\\' then
    match rest with
    | [] => .error .danglingEscape
    | c :: rest => .ok (st.push (.literal c) c, rest)
  else .ok (st.push (.literal c) c, rest)

end State

/-- Reads a pattern to its end; a step takes a character at least, so its length is enough fuel. -/
def readTokens : (fuel : Nat) → State → List Char → Except Fault (List Token)
  | _, st, [] =>
    match st.outer with
    | [] => .ok st.frame.tokens.reverse
    | _ => .error .unclosedGroup
  | 0, _, _ => .ok []
  | fuel + 1, st, c :: rest =>
    match st.read c rest with
    | .error e => .error e
    | .ok (st, rest) => readTokens fuel st rest

/-- A pattern, from its text. -/
def parse (text : String) : Except Fault (List Token) :=
  readTokens text.toList.length {} text.toList

end IncludeTree.Glob
