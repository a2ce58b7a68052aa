import IncludeTree.Error
import IncludeTree.Glob.Match
import IncludeTree.Scope

/-!
# Repositories

A `Repository` answers which files of a scope match a wildcard. `Trees` is one that is held in
memory: for each scope the paths of its files, in increasing order. A scope that holds no file has
no match for any pattern, even a malformed one.
-/

namespace IncludeTree

/-- What wildcards are looked up in. -/
structure Repository where
  /-- The files of a scope that match a pattern, in a fixed order. -/
  search : Scope → String → Except SourceError (List String)

namespace Glob

/-- The pattern of a wildcard include; what is no pattern is reported with its text. -/
def compile (pattern : String) : Except SourceError (List Token) :=
  match parse pattern with
  | .ok tokens => .ok tokens
  | .error fault => .error <| .invalidInput <|
    "invalid wildcard path '" ++ pattern ++ "': error parsing glob '" ++ pattern ++ "': "
      ++ fault.message

/-- The paths that a pattern matches, in their order. -/
def select (pattern : String) (paths : List String) : Except SourceError (List String) :=
  match compile pattern with
  | .ok tokens => .ok (paths.filter (matchesPath tokens))
  | .error e => .error e

end Glob

/-- The files of several scopes, held in memory. -/
structure Trees where
  /-- The paths of each scope that has any, in increasing order. -/
  trees : List (Scope × List String) := []
deriving Repr, Inhabited

namespace Trees

/-- Puts a path at its place in an increasing list, unless it is there. -/
def insertPath (path : String) : List String → List String
  | [] => [path]
  | p :: rest =>
    if path = p then p :: rest
    else if path < p then path :: p :: rest
    else p :: insertPath path rest

/-- The files of a scope, if it has any. -/
def find? (t : Trees) (scope : Scope) : Option (List String) := t.trees.lookup scope

/-- Adds a file to a scope. -/
def add (t : Trees) (scope : Scope) (path : String) : Trees where
  trees := insert t.trees
where
  /-- The scopes with the file at its place. -/
  insert : List (Scope × List String) → List (Scope × List String)
    | [] => [(scope, [path])]
    | (s, paths) :: rest =>
      if s = scope then (s, insertPath path paths) :: rest else (s, paths) :: insert rest

/-- The files added one after the other. -/
def ofList (files : List (Scope × String)) : Trees :=
  files.foldl (fun t f => t.add f.1 f.2) {}

/-- The files of a scope that match a pattern. -/
def search (t : Trees) (scope : Scope) (pattern : String) : Except SourceError (List String) :=
  match t.find? scope with
  | none => .ok []
  | some paths => Glob.select pattern paths

/-- The repository that searches these trees. -/
def repository (t : Trees) : Repository where
  search := t.search

end Trees

end IncludeTree
