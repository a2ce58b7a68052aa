import IncludeTree.CommandLine.Command
import IncludeTree.WorkingTree

/-!
# Running a command

`run` answers a command line with an `Outcome`: what is written and the code that the program ends
with. It reads files through a `Disk` and does nothing else.
-/

namespace IncludeTree.CommandLine

/-- What a program writes, and the code that it ends with. -/
structure Outcome where
  /-- The code. -/
  code : Nat := 0
  /-- What is written for the reader. -/
  output : String := ""
  /-- What is written about failures. -/
  errors : String := ""
  /-- The metrics of the stages, if they are wanted, with how often each was observed. -/
  timings : Option (List (String × Nat)) := none
deriving DecidableEq, Repr

/-- How the program is used. -/
def usage : String :=
  "Resolve CI configuration includes\n\n"
    ++ "Usage: weave [--root <ROOT>] resolve [OPTIONS] [PATH]\n"
    ++ "       weave [--root <ROOT>] validate [PATH]\n\n"
    ++ "Options of resolve:\n"
    ++ "      --project <PROJECT>            Project of the document\n"
    ++ "      --revision <REVISION>          Revision of the working tree\n"
    ++ "      --var <NAME=VALUE>             Pipeline variable (repeatable)\n"
    ++ "  -r, --recursive                    Resolve the includes of included files too\n"
    ++ "      --json                         Print the files as JSON\n"
    ++ "      --timings                      Print how often each stage ran\n"
    ++ "      --max-includes <MAX_INCLUDES>  Maximum number of includes\n"

/-! ## Failures -/

/-- What lies behind an error, the nearest cause first. -/
def causes : ResolveError → List String
  | .unreadable => ["Failed to parse KDL document"]
  | .undecodable e => [e.message]
  | .fetch _ source => [source.message]
  | _ => []

/-- A text with its lines after the first indented. -/
def hang (indent text : String) : String :=
  String.ofList (text.toList.flatMap fun c => if c = '\n' then '\n' :: indent.toList else [c])

/-- Causes in the order given, one a line; several are numbered. -/
def causeLines : List String → List String
  | [cause] => ["    " ++ hang "    " cause]
  | causes =>
    causes.mapIdx fun i cause => "    " ++ toString i ++ ": " ++ hang "       " cause

/-- The outcome of a failure. -/
def failure (message : String) (causes : List String) : Outcome where
  code := 1
  errors := "Error: " ++ message ++ "\n"
    ++ (if causes.isEmpty then ""
      else "\nCaused by:\n" ++ String.join ((causeLines causes).map (· ++ "\n")))

/-! ## The commands -/

/-- The line that shows an included file. -/
def line (f : Included) : String :=
  String.ofList (List.replicate (2 * f.depth) ' ') ++ f.source.kind.name ++ " "
    ++ f.source.display ++ "\n"

/-- The text that shows included files. -/
def listing (json : Bool) (files : List Included) : String :=
  if json then (Json.arr (files.map (·.source.encode))).pretty ++ "\n"
  else if files.isEmpty then "No includes\n"
  else String.join (files.map line)

/-- The context in which a document of the working tree is resolved. -/
def contextOf (options : ResolveOptions) (tree : WorkingTree) : Context where
  scope := { project := options.project, revision := options.revision }
  vars := .ofList ([("CI_PROJECT_PATH", options.project),
    ("CI_COMMIT_SHA", options.revision)] ++ options.vars)
  repository := tree.repository
  instrumented := true

variable {m : Type → Type} [Monad m]

/-- The includes of the document at a path, or the outcome of the failure to read it. -/
def readDocument (disk : Disk m) (path : String) :
    m (Except Outcome (Except ResolveError (List Include))) := do
  match ← disk.read path with
  | .error fault =>
    return .error (failure ("Failed to read config file: " ++ path) [fault.message])
  | .ok text => return .ok (Include.listOfText text)

/-- Resolves the includes of a document. -/
def resolve (disk : Disk m) (root : String) (options : ResolveOptions) : m Outcome := do
  let path := Path.join root options.path
  match ← readDocument disk path with
  | .error outcome => return outcome
  | .ok (.error e) =>
    return failure ("Failed to parse config file: " ++ path) (e.message :: causes e)
  | .ok (.ok includes) =>
    let tree ← WorkingTree.load disk root
    let ctx := contextOf options tree
    let start : Session := { ledger := { limit := options.maxIncludes } }
    let (result, session) ←
      if options.recursive then ctx.expand (WorkingTree.fetch disk root) includes start
      else
        let (result, session) := (ctx.resolve includes).runOn start
        pure (result.map (List.map fun source => { source, content := "", depth := 0 }), session)
    match result with
    | .error e => return failure e.message (causes e)
    | .ok files =>
      return {
        output := listing options.json files
        timings := if options.timings then some session.journal.counts else none }

/-- Checks that the includes of a document can be read. -/
def validate (disk : Disk m) (root path : String) : m Outcome := do
  match ← readDocument disk (Path.join root path) with
  | .error outcome => return outcome
  | .ok (.error e) =>
    return { code := 1, output := "Configuration error: " ++ e.message ++ "\n" }
  | .ok (.ok includes) =>
    return { output := "Configuration is valid (" ++ toString includes.length ++ " includes)\n" }

/-- Answers a command line. -/
def run (disk : Disk m) (env : String → Option String) (args : List String) : m Outcome :=
  match Invocation.read env args with
  | none => return { code := 2, errors := usage }
  | some { command := .help, .. } => return { output := usage }
  | some { root, command := .validate path } => validate disk root path
  | some { root, command := .resolve options } => resolve disk root options

end IncludeTree.CommandLine
