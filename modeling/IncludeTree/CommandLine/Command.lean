import IncludeTree.CommandLine.Arguments

/-!
# Commands

`Command.read` reads a command line as one of two commands: to resolve the includes of a pipeline
document, or to validate them. What is not given on the command line is taken from the environment
where there is a variable for it, and from the defaults otherwise. An option or flag may be given
once, `--var` as often as wanted.
-/

namespace IncludeTree.CommandLine

/-- What to resolve, and how to show it. -/
structure ResolveOptions where
  /-- The path of the document, from the root. -/
  path : String := "weave.kdl"
  /-- The project that the document belongs to. -/
  project : String := "local"
  /-- The revision that the working tree is checked out at. -/
  revision : String := "HEAD"
  /-- The variables that are set, in order. -/
  vars : List (String × String) := []
  /-- Whether included files are fetched and their includes resolved. -/
  recursive : Bool := false
  /-- Whether the sources are shown as JSON. -/
  json : Bool := false
  /-- Whether the metrics of the stages are shown. -/
  timings : Bool := false
  /-- The number of includes that the whole expansion may have. -/
  maxIncludes : Nat := 100
deriving DecidableEq, Repr

/-- What is asked for. -/
inductive Command where
  /-- To resolve the includes of a document. -/
  | resolve (options : ResolveOptions)
  /-- To validate the includes of the document at a path. -/
  | validate (path : String)
  /-- To say how the program is used. -/
  | help
deriving DecidableEq, Repr

/-- A command, and the root of the working tree that it is about. -/
structure Invocation where
  /-- The path of the working tree. -/
  root : String
  /-- What is asked for. -/
  command : Command
deriving DecidableEq, Repr

/-- The options of the `resolve` command. -/
def resolveGrammar : Grammar where
  options := ["project", "revision", "var", "max-includes"]
  flags := ["recursive", "json", "timings", "help"]
  letters := [('r', "recursive"), ('h', "help")]

/-- The options of the `validate` command. -/
def validateGrammar : Grammar where
  options := []
  flags := ["help"]
  letters := [('h', "help")]

/-- A variable and its value, from a text with an equals sign between them. -/
def splitVariable? (text : String) : Option (String × String) :=
  let name := text.toList.takeWhile (· != '=')
  match text.toList.dropWhile (· != '=') with
  | _ :: value =>
    if name.isEmpty then none else some (String.ofList name, String.ofList value)
  | [] => none

/-- A number that fits a word of 64 bits, from its digits; a plus sign may stand in front. -/
def number? (text : String) : Option Nat :=
  let digits := match text.toList with
    | '+' :: rest => rest
    | s => s
  if digits.isEmpty || !digits.all Char.isDigit then none
  else
    let n := digits.foldl (fun n c => 10 * n + (c.toNat - 48)) 0
    if n < Nat.pow 2 64 then some n else none

/-- Whether no option or flag but `--var` is given twice, and at most one positional text. -/
def givenOnce (args : List Argument) : Bool :=
  let names := args.filterMap fun
    | .option "var" _ => none
    | .option name _ | .flag name => some (some name)
    | .positional _ => some none
  names.eraseDups.length == names.length

namespace ResolveOptions

/-- The options with one more argument. -/
def add (o : ResolveOptions) : Argument → Option ResolveOptions
  | .option "project" value => some { o with project := value }
  | .option "revision" value => some { o with revision := value }
  | .option "var" value =>
    (splitVariable? value).map fun v => { o with vars := o.vars ++ [v] }
  | .option _ value => (number? value).map fun n => { o with maxIncludes := n }
  | .flag "recursive" => some { o with recursive := true }
  | .flag "json" => some { o with json := true }
  | .flag _ => some { o with timings := true }
  | .positional path => some { o with path }

/-- The options before any argument, from an environment. -/
def ofEnvironment (env : String → Option String) : ResolveOptions where
  project := (env "WEAVE_PROJECT").getD "local"
  revision := (env "WEAVE_REVISION").getD "HEAD"

end ResolveOptions

namespace Command

/-- The `resolve` command. -/
def readResolve (env : String → Option String) (args : List String) : Option Command := do
  let args ← resolveGrammar.read args
  if args.contains (.flag "help") then return help
  if !givenOnce args then none
  return resolve (← args.foldlM ResolveOptions.add (.ofEnvironment env))

/-- The `validate` command. -/
def readValidate (args : List String) : Option Command := do
  let args ← validateGrammar.read args
  if args.contains (.flag "help") then return help
  match args with
  | [] => some (validate "weave.kdl")
  | [.positional path] => some (validate path)
  | _ => none

end Command

namespace Invocation

/-- The command that follows the options that stand before it; `root` is the root that has been
given. -/
def readCommand (env : String → Option String) (root : Option String) :
    List String → Option Invocation
  | [] => none
  | name :: args => do
    let command ←
      if name = "resolve" then Command.readResolve env args
      else if name = "validate" then Command.readValidate args
      else if ["help", "--help", "-h"].contains name then some .help
      else none
    let root := root.getD ((env "WEAVE_ROOT").getD ".")
    if root = "" then none
    return { root, command }

/-- A command line, from its arguments and the environment. -/
def read (env : String → Option String) : List String → Option Invocation
  | [] => none
  | arg :: rest =>
    match formOf arg, rest with
    | .plain, rest | .long "help" none, rest | .letters ['h'], rest =>
      readCommand env none (arg :: rest)
    | .long "root" (some root), rest => readCommand env (some root) rest
    | .long "root" none, root :: rest =>
      if looksLikeOption root then none else readCommand env (some root) rest
    | _, _ => none

end Invocation

end IncludeTree.CommandLine
