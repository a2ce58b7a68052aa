/-!
# Arguments

Command line arguments are options, which take a value, flags, which do not, and positional texts. A
value follows its option as the next argument or behind an equals sign; as the next argument it must
not look like an option itself. Letters stand for flags and may be run together. Behind two hyphens
everything is positional. `Grammar.read` tells the arguments apart.
-/

namespace IncludeTree.CommandLine

/-- A command line argument, told apart by its form. -/
inductive Argument where
  /-- An option with its value. -/
  | option (name value : String)
  /-- A flag. -/
  | flag (name : String)
  /-- A text by itself. -/
  | positional (text : String)
deriving DecidableEq, Repr

/-- The options and flags that a command has. -/
structure Grammar where
  /-- The names of the options. -/
  options : List String
  /-- The names of the flags. -/
  flags : List String
  /-- The flags that letters stand for. -/
  letters : List (Char × String)

/-- Whether an argument looks like an option or a flag; a single hyphen does not. -/
def looksLikeOption (arg : String) : Bool :=
  match arg.toList with
  | '-' :: _ :: _ => true
  | _ => false

/-- The form of an argument. -/
inductive Form where
  /-- An option or a flag by its long name, with the value behind an equals sign. -/
  | long (name : String) (value : Option String)
  /-- Letters that stand for flags. -/
  | letters (cs : List Char)
  /-- The sign that all that follows is positional. -/
  | escape
  /-- A text by itself. -/
  | plain
deriving DecidableEq, Repr

/-- The form that an argument has. -/
def formOf (arg : String) : Form :=
  match arg.toList with
  | ['-', '-'] => .escape
  | '-' :: '-' :: rest =>
    let name := String.ofList (rest.takeWhile (· != '='))
    match rest.dropWhile (· != '=') with
    | _ :: value => .long name (some (String.ofList value))
    | [] => .long name none
  | '-' :: c :: cs => .letters (c :: cs)
  | _ => .plain

namespace Grammar

/-- The arguments of a command line. -/
def read (g : Grammar) : List String → Option (List Argument)
  | [] => some []
  | arg :: rest =>
    match formOf arg with
    | .escape => some (rest.map .positional)
    | .plain => (g.read rest).map (.positional arg :: ·)
    | .letters cs => do
      let names ← cs.mapM fun c => g.letters.lookup c
      return names.map .flag ++ (← g.read rest)
    | .long name value =>
      if g.options.contains name then
        match value, rest with
        | some value, rest => (g.read rest).map (.option name value :: ·)
        | none, value :: rest =>
          if looksLikeOption value then none else (g.read rest).map (.option name value :: ·)
        | none, [] => none
      else if g.flags.contains name && value.isNone then (g.read rest).map (.flag name :: ·)
      else none

end Grammar

end IncludeTree.CommandLine
