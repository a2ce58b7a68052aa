import IncludeTree.CommandLine.Run

/-!
# The program

The command line on a real disk: arguments and environment in, files read, text and exit code out.
-/

namespace IncludeTree.Main

/-- The number and the words of the system for a failure. -/
def numberAndText : IO.Error → Option (UInt32 × String)
  | .noFileOrDirectory _ n text | .interrupted _ n text | .invalidArgument _ n text
  | .permissionDenied _ n text | .resourceExhausted _ n text | .inappropriateType _ n text
  | .noSuchThing _ n text | .alreadyExists _ n text | .otherError n text
  | .resourceBusy n text | .resourceVanished n text | .unsupportedOperation n text
  | .hardwareFault n text | .unsatisfiedConstraints n text | .illegalOperation n text
  | .protocolError n text | .timeExpired n text => some (n, text)
  | _ => none

/-- The fault that a failure of the system is; its number may come negated, as a word. -/
def faultOf (e : IO.Error) : Disk.Fault :=
  match numberAndText e with
  | none => .other (toString e)
  | some (word, text) =>
    let n := if word.toNat < Nat.pow 2 31 then word.toNat else Nat.pow 2 32 - word.toNat
    (Disk.Fault.ofNumber? n).getD (.other (text ++ " (os error " ++ toString n ++ ")"))

/-- The text of a file. -/
def readText (path : String) : IO (Except Disk.Fault String) := do
  if path.toList.contains '\x00' then return .error .nulCharacter
  try
    match String.fromUTF8? (← IO.FS.readBinFile path) with
    | some text => return .ok text
    | none => return .error .notText
  catch e => return .error (faultOf e)

/-- The regular files below a directory, by their paths from where the listing started; links are
not followed. -/
partial def listBelow (directory : String) (fromStart : String) : IO (List String) := do
  let mut found := []
  for entry in ← ((← IO.currentDir) / directory).readDir do
    if entry.fileName != ".git" then
      let path := fromStart ++ entry.fileName
      match (← entry.path.symlinkMetadata).type with
      | .file => found := path :: found
      | .dir => found := (← listBelow entry.path.toString (path ++ "/")) ++ found
      | _ => pure ()
  return found

/-- The regular files below a directory. -/
def listFiles (root : String) : IO (Except Disk.Fault (List String)) := do
  if Path.fileName? root = some ".git" then return .ok []
  try return .ok (← listBelow root "")
  catch e => return .error (faultOf e)

/-- The disk of the system. -/
def disk : Disk IO where
  read := readText
  files := listFiles

/-- The names of the environment variables that are looked at. -/
def environment : List String := ["WEAVE_ROOT", "WEAVE_PROJECT", "WEAVE_REVISION"]

/-- The metrics of the stages as JSON. -/
def timingsText (counts : List (String × Nat)) : String :=
  (Json.obj (counts.map fun (name, n) => (name, .obj [("count", .int n)]))).pretty

/-- Answers a command line. -/
def answer (args : List String) : IO UInt32 := do
  let values ← environment.mapM fun name => return (name, ← IO.getEnv name)
  let outcome ← CommandLine.run disk (fun name => (values.lookup name).join) args
  IO.print outcome.output
  IO.eprint outcome.errors
  match outcome.timings with
  | some counts => IO.eprintln (timingsText counts)
  | none => pure ()
  return outcome.code.toUInt32

end IncludeTree.Main

/-- Answers the command line that the program is called with. -/
def main (args : List String) : IO UInt32 := IncludeTree.Main.answer args
