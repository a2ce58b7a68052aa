/-!
# Paths

A path is a text whose parts are set off by slashes; one that starts with a slash is absolute. An
empty part and a single dot stand for the place itself, two dots for the directory above.
-/

namespace IncludeTree.Path

/-- The parts of a path, empty ones included. -/
def parts (path : String) : List String := (path.toList.splitOn '/').map String.ofList

/-- Whether a path starts at the top. -/
def isAbsolute (path : String) : Bool := path.toList.head? == some '/'

/-- A path seen from another one; an absolute path stays as it is. -/
def join (base path : String) : String :=
  if isAbsolute path then path
  else if base.toList.getLast?.all (· == '/') then base ++ path
  else base ++ "/" ++ path

/-- The path without the slashes at its start. -/
def trimSlashes (path : String) : String := String.ofList (path.toList.dropWhile (· == '/'))

/-- Whether a part of a path leads to the directory above. -/
def climbs (path : String) : Bool := (parts path).contains ".."

/-- The last part of a path that is a name, unless the path ends in two dots. -/
def fileName? (path : String) : Option String :=
  match ((parts path).filter fun part => part != "" && part != ".").getLast? with
  | some ".." => none
  | name => name

end IncludeTree.Path
