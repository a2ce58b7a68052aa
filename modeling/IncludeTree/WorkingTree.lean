import IncludeTree.Disk.Basic
import IncludeTree.Disk.Path
import IncludeTree.Expansion

/-!
# The working tree

A `WorkingTree` is a repository that is checked out on a disk. It answers searches for any scope
from the files that are there, and fetches the files of the including project; a path never leads
out of it. Sources of other kinds it cannot fetch.
-/

namespace IncludeTree

/-- A repository that is checked out on a disk. -/
structure WorkingTree where
  /-- The path of its directory. -/
  root : String
  /-- The paths of its files from there, in increasing order, or why they could not be listed. -/
  files : Except Disk.Fault (List String)

namespace WorkingTree

/-- The working tree at a path of a disk. -/
def load {m : Type → Type} [Monad m] (disk : Disk m) (root : String) : m WorkingTree := do
  let found ← disk.files root
  return { root, files := found.map (List.foldr Trees.insertPath []) }

/-- The path on the disk of a path in the tree. -/
def filePath (root path : String) : Except SourceError String :=
  let relative := Path.trimSlashes path
  if Path.climbs relative then
    .error (.invalidInput ("include path escapes the repository: " ++ path))
  else .ok (Path.join root relative)

/-- The files that a pattern matches; slashes at the start of the pattern stand for the root. -/
def search (tree : WorkingTree) (pattern : String) : Except SourceError (List String) :=
  let pattern := Path.trimSlashes pattern
  match tree.files with
  | .ok files => Glob.select pattern files
  | .error fault =>
    match Glob.compile pattern with
    | .ok _ =>
      .error (.repository ("IO error for operation on " ++ tree.root ++ ": " ++ fault.message))
    | .error e => .error e

/-- The tree as a repository; it is the same in every scope. -/
def repository (tree : WorkingTree) : Repository where
  search _ pattern := tree.search pattern

/-- The content of a source. -/
def fetch {m : Type → Type} [Monad m] (disk : Disk m) (root : String) (source : Source) :
    m (Except SourceError Fetched) :=
  match source.target with
  | .localFile path =>
    match filePath root path with
    | .error e => return .error e
    | .ok full => do
      match ← disk.read full with
      | .error fault => return .error (.notFound (full ++ ": " ++ fault.message))
      | .ok content => return .ok { content, scope := source.nestedScope }
  | _ => return .error (.unsupported (source.display ++ " cannot be fetched from a working tree"))

end WorkingTree

end IncludeTree
